import Mathlib.Data.List.Nodup
import Mathlib.Data.List.Dedup
import SmartParking.Lib.Runs

namespace SmartParking.Auth.ApiKeys
open Lib

def scopeHierarchy : List (String × List String) :=
  [("spaces:read",["spaces:read"]),
   ("devices:read",["devices:read"]),
   ("reservations:read",["reservations:read"]),
   ("telemetry:read",["telemetry:read"]),
   ("users:read",["users:read"]),
   ("sites:read",["sites:read"]),
   ("tenants:read",["tenants:read"]),
   ("spaces:write",["spaces:read","spaces:write"]),
   ("devices:write",["devices:read","devices:write"]),
   ("reservations:write",["reservations:read","reservations:write"]),
   ("sites:write",["sites:read","sites:write"]),
   ("tenants:write",["tenants:read","tenants:write"]),
   ("webhook:ingest",["webhook:ingest"]),
   ("admin:*",["*"])]

-- A list stands for the set of its members.
def expandScopes (scopes : List String) : List String :=
  scopes.flatMap fun scope => (scopeHierarchy.lookup scope).getD [scope]

inductive UserRole where
  | platformAdmin | owner | admin | operator | viewer
  deriving DecidableEq

def UserRole.value : UserRole → String
  | .platformAdmin => "platform_admin"
  | .owner => "owner"
  | .admin => "admin"
  | .operator => "operator"
  | .viewer => "viewer"

def roleHierarchy : UserRole → Option Nat
  | .viewer => some 1
  | .operator => some 2
  | .admin => some 3
  | .owner => some 4
  | .platformAdmin => none

inductive AuthSource where
  | jwt | apiKey
  deriving DecidableEq

structure TenantContext where
  tenantId : String
  tenantName : String
  tenantSlug : String
  userId : Option String := none
  userRole : Option UserRole := none
  apiKeyId : Option String := none
  apiKeyScopes : Option (List String) := none
  source : AuthSource
  deriving DecidableEq

structure HttpError where
  status : Nat
  detail : String
  deriving DecidableEq

-- API keys have implicit admin access (no user_role).
def requireRole (minimumRole : UserRole) (tenant : TenantContext) : Except HttpError TenantContext :=
  match tenant.source with
  | .apiKey => .ok tenant
  | .jwt =>
    match tenant.userRole with
    | none => .error ⟨403,"Insufficient permissions"⟩
    | some role =>
      if (roleHierarchy role).getD 0 < (roleHierarchy minimumRole).getD 999 then
        .error ⟨403,"Requires " ++ minimumRole.value ++ " role or higher"⟩
      else .ok tenant

def missingScopes (required available : List String) : List String :=
  ((required.filter fun scope => !available.contains scope).dedup).mergeSort fun a b => decide (a ≤ b)

def checkScopes (required : List String) (tenant : TenantContext) : Except HttpError Unit :=
  match tenant.source with
  | .jwt => .ok ()
  | .apiKey =>
    match tenant.apiKeyScopes.getD [] with
    | [] => .error ⟨403,"API key has no scopes defined"⟩
    | scopes =>
      let expandedRequired := expandScopes required
      let expandedAvailable := expandScopes scopes
      if expandedAvailable.contains "*" || expandedAvailable.contains "admin:*" then .ok ()
      else if expandedRequired.all expandedAvailable.contains then .ok ()
      else .error ⟨403,"API key lacks required scopes: " ++
        ", ".intercalate (missingScopes expandedRequired expandedAvailable)⟩

structure ApiKey where
  id : String
  keyHash : String
  name : String
  tenantId : Option String
  scopes : List String
  isActive : Bool := true
  deriving DecidableEq

-- `api_keys` with its primary key and `unique_key_hash`.
structure Table where
  rows : List ApiKey
  primaryKey : (rows.map (·.id)).Nodup
  keyHash : (rows.map (·.keyHash)).Nodup

-- A NULL in `is_active` selects no tenant, as false does.
structure Tenant where
  id : String
  name : String
  slug : String
  isActive : Bool := true
  deriving DecidableEq

structure Database where
  keys : Table
  tenants : List Tenant

structure APIKeyCreate where
  name : String
  tenantId : String
  scopes : List String := ["spaces:read","devices:read"]
  deriving DecidableEq

-- What the server draws for a new row: the id, the plain key and its salted hash.
structure Drawn where
  id : String
  plainKey : String
  keyHash : String
  deriving DecidableEq

structure TenantUpdate where
  name : Option (Option String) := none
  metadata : Option (Option String) := none
  settings : Option (Option String) := none
  isActive : Option (Option Bool) := none
  deriving DecidableEq

-- The endpoints of the router that ask for a tenant. Those without arguments
-- read or write tables that decide nothing about keys.
inductive Endpoint where
  | getCurrentUserProfile | getCurrentUserLimits | getCurrentTenantInfo
  | updateCurrentTenant (tenantUpdate : TenantUpdate)
  | listTenantUsers
  | listApiKeys
  | createApiKey (body : APIKeyCreate) (drawn : Drawn)
  | revokeApiKey (keyId : String)
  | createWebhookSecret | rotateWebhookSecret
  | listOrphanDevices | assignOrphan | deleteOrphan

structure Request where
  apiKey : Option String
  endpoint : Endpoint

inductive Response where
  | created (row : ApiKey) (plainKey : String)
  | keys (rows : List ApiKey)
  | tenant (row : Tenant)
  | noContent
  | elsewhere
  deriving DecidableEq

namespace Table

def findActive (t : Table) (keyId : String) : Option ApiKey := t.rows.find? fun row => row.id == keyId && row.isActive

def revoked (row : ApiKey) (keyId tenantId : String) : ApiKey :=
  if row.id = keyId ∧ row.tenantId = some tenantId then {row with isActive := false} else row

theorem revoked_id (row : ApiKey) (keyId tenantId : String) : (revoked row keyId tenantId).id = row.id := by
  unfold revoked; split <;> rfl

theorem revoked_keyHash (row : ApiKey) (keyId tenantId : String) :
    (revoked row keyId tenantId).keyHash = row.keyHash := by
  unfold revoked; split <;> rfl

theorem revoked_scopes (row : ApiKey) (keyId tenantId : String) : (revoked row keyId tenantId).scopes = row.scopes := by
  unfold revoked; split <;> rfl

def revoke (t : Table) (keyId tenantId : String) : Table where
  rows := t.rows.map fun row => revoked row keyId tenantId
  primaryKey := by
    have same : (t.rows.map fun row => (revoked row keyId tenantId).id) = t.rows.map (·.id) :=
      List.map_congr_left fun row _ => revoked_id row keyId tenantId
    rw [List.map_map]
    exact same ▸ t.primaryKey
  keyHash := by
    have same : (t.rows.map fun row => (revoked row keyId tenantId).keyHash) = t.rows.map (·.keyHash) :=
      List.map_congr_left fun row _ => revoked_keyHash row keyId tenantId
    rw [List.map_map]
    exact same ▸ t.keyHash

def insert (t : Table) (row : ApiKey) : Option Table :=
  if keys : row.id ∉ t.rows.map (·.id) ∧ row.keyHash ∉ t.rows.map (·.keyHash) then
    some
      {rows := t.rows ++ [row]
       primaryKey := by
        rw [List.map_append]
        exact t.primaryKey.append (List.nodup_singleton _) (List.disjoint_singleton.mpr keys.1)
       keyHash := by
        rw [List.map_append]
        exact t.keyHash.append (List.nodup_singleton _) (List.disjoint_singleton.mpr keys.2)}
  else none

end Table

def newRow (body : APIKeyCreate) (drawn : Drawn) : ApiKey :=
  ⟨drawn.id,drawn.keyHash,body.name,some body.tenantId,body.scopes,true⟩

section Router

-- `bcrypt.checkpw` on a plain key and a hash; a hash it cannot read is skipped.
variable (checkpw : String → String → Bool)

def verifyApiKey (db : Database) (apiKey : String) : Option ApiKey :=
  db.keys.rows.find? fun row => row.isActive && checkpw apiKey row.keyHash

def resolveTenantFromApiKey (db : Database) (keyId : String) : Option TenantContext :=
  (db.keys.findActive keyId).bind fun row =>
    (db.tenants.find? fun tenant => some tenant.id == row.tenantId && tenant.isActive).map fun tenant =>
      {tenantId := tenant.id,tenantName := tenant.name,tenantSlug := tenant.slug,apiKeyId := some keyId,
       apiKeyScopes := some row.scopes,source := .apiKey}

def unauthorized : HttpError :=
  ⟨401,"Authentication required. Provide either JWT Bearer token or X-API-Key header."⟩

-- `get_current_tenant` on a request without a bearer token.
def getCurrentTenant (db : Database) (apiKey : Option String) : Except HttpError TenantContext :=
  match ((apiKey.filter (· ≠ "")).bind (verifyApiKey checkpw db)).bind (resolveTenantFromApiKey db ·.id) with
  | none => .error unauthorized
  | some tenant => .ok tenant

def createApiKey (db : Database) (tenant : TenantContext) (body : APIKeyCreate) (drawn : Drawn) :
    Database × Except HttpError Response :=
  if body.tenantId ≠ tenant.tenantId then (db,.error ⟨403,"Cannot create API key for different tenant"⟩)
  else
    match db.keys.insert (newRow body drawn) with
    | none => (db,.error ⟨500,"Internal Server Error"⟩)
    | some keys => ({db with keys := keys},.ok (.created (newRow body drawn) drawn.plainKey))

def revokeApiKey (db : Database) (tenant : TenantContext) (keyId : String) : Database × Except HttpError Response :=
  if db.keys.rows.any fun row => row.id == keyId && row.tenantId == some tenant.tenantId then
    ({db with keys := db.keys.revoke keyId tenant.tenantId},.ok .noContent)
  else (db,.error ⟨404,"API key not found"⟩)

def TenantUpdate.given (u : TenantUpdate) : Bool :=
  u.name.isSome || u.metadata.isSome || u.settings.isSome || u.isActive.isSome

def TenantUpdate.apply (u : TenantUpdate) (tenant : Tenant) : Tenant :=
  {tenant with
    name := u.name.join.getD tenant.name
    isActive := (u.isActive.map (·.getD false)).getD tenant.isActive}

-- The column `name` is NOT NULL.
def updateCurrentTenant (db : Database) (tenant : TenantContext) (u : TenantUpdate) :
    Database × Except HttpError Response :=
  if !u.given then (db,.error ⟨400,"No fields to update"⟩)
  else if u.name = some none then (db,.error ⟨500,"Internal Server Error"⟩)
  else
    let tenants := db.tenants.map fun row => if row.id = tenant.tenantId then u.apply row else row
    ({db with tenants := tenants},
      match tenants.find? (·.id == tenant.tenantId) with
      | none => .error ⟨500,"Internal Server Error"⟩
      | some row => .ok (.tenant row))

def handle (db : Database) (tenant : TenantContext) : Endpoint → Database × Except HttpError Response
  | .updateCurrentTenant tenantUpdate => updateCurrentTenant db tenant tenantUpdate
  | .listApiKeys => (db,.ok (.keys (db.keys.rows.filter (·.tenantId == some tenant.tenantId))))
  | .createApiKey body drawn => createApiKey db tenant body drawn
  | .revokeApiKey keyId => revokeApiKey db tenant keyId
  | _ => (db,.ok .elsewhere)

-- The role that the dependency of an endpoint asks for.
def Endpoint.minimumRole : Endpoint → Option UserRole
  | .getCurrentUserProfile | .getCurrentUserLimits | .getCurrentTenantInfo => none
  | .listTenantUsers | .listOrphanDevices | .assignOrphan | .deleteOrphan => some .admin
  | _ => some .owner

-- The only endpoint of the router that asks for scopes lists the users.
def Endpoint.requiredScopes : Endpoint → Option (List String)
  | .listTenantUsers => some ["users:read"]
  | _ => none

def Endpoint.authorize (endpoint : Endpoint) (tenant : TenantContext) : Except HttpError TenantContext :=
  ((endpoint.requiredScopes.map (checkScopes · tenant)).getD (.ok ())).bind fun _ =>
    (endpoint.minimumRole.map (requireRole · tenant)).getD (.ok tenant)

def serve (db : Database) (request : Request) : Database × Except HttpError Response :=
  match (getCurrentTenant checkpw db request.apiKey).bind request.endpoint.authorize with
  | .error error => (db,.error error)
  | .ok tenant => handle db tenant request.endpoint

def step (db : Database) (request : Request) : Option Database := some (serve checkpw db request).1

end Router

def Database.ids (db : Database) : List String := db.keys.rows.map (·.id)

def Database.grants (db : Database) : List (String × List String) := db.keys.rows.map fun row => (row.id,row.scopes)

-- The union of what the held keys, by their ids, expand to.
def granted (start : Database) (held : List String) : List String :=
  (start.keys.rows.filter fun row => held.contains row.id).flatMap fun row => expandScopes row.scopes

-- The request gets as far as its INSERT, and the database takes the row.
inductive Creates (checkpw : String → String → Bool) (db : Database) : Request → APIKeyCreate → Drawn → Prop where
  | created : getCurrentTenant checkpw db apiKey = .ok tenant → body.tenantId = tenant.tenantId →
      (db.keys.insert (newRow body drawn)).isSome → Creates checkpw db ⟨apiKey,.createApiKey body drawn⟩ body drawn

variable {checkpw : String → String → Bool} {db next start : Database} {request : Request} {tenant : TenantContext}
  {body : APIKeyCreate} {drawn : Drawn} {held : List String} {t after : Table} {row : ApiKey} {endpoint : Endpoint}

theorem revoke_grants (db : Database) (keyId tenantId : String) :
    ({db with keys := db.keys.revoke keyId tenantId} : Database).grants = db.grants := by
  show (db.keys.rows.map _).map _ = _
  rw [List.map_map]
  apply List.map_congr_left
  intro row _
  show ((Table.revoked row keyId tenantId).id,(Table.revoked row keyId tenantId).scopes) = (row.id,row.scopes)
  rw [Table.revoked_id,Table.revoked_scopes]

theorem insert_rows (inserted : t.insert row = some after) :
    after.rows = t.rows ++ [row] ∧ row.id ∉ t.rows.map (·.id) := by
  unfold Table.insert at inserted
  split at inserted
  · rename_i keys
    cases inserted
    exact ⟨rfl,keys.1⟩
  · cases inserted

theorem getCurrentTenant_source (known : getCurrentTenant checkpw db apiKey = .ok tenant) :
    tenant.source = .apiKey := by
  unfold getCurrentTenant at known
  split at known
  · cases known
  · rename_i found
    cases known
    obtain ⟨row,_,resolved⟩ := Option.bind_eq_some_iff.mp found
    obtain ⟨key,_,joined⟩ := Option.bind_eq_some_iff.mp resolved
    obtain ⟨owner,_,rfl⟩ := Option.map_eq_some_iff.mp joined
    rfl

-- No role and no scope is asked of a key that creates another.
theorem createApiKey_authorized (source : tenant.source = .apiKey) :
    (Endpoint.createApiKey body drawn).authorize tenant = .ok tenant := by
  show requireRole .owner tenant = .ok tenant
  unfold requireRole
  rw [source]

-- All that a request can do to the keys and their scopes.
inductive Stepped (checkpw : String → String → Bool) (db : Database) (request : Request) (next : Database) : Prop where
  | kept : next.grants = db.grants → (∀ body drawn, ¬Creates checkpw db request body drawn) →
      Stepped checkpw db request next
  | created (body : APIKeyCreate) (drawn : Drawn) : Creates checkpw db request body drawn →
      next.grants = db.grants ++ [(drawn.id,body.scopes)] → drawn.id ∉ db.ids → Stepped checkpw db request next

theorem createApiKey_stepped (known : getCurrentTenant checkpw db apiKey = .ok tenant) :
    Stepped checkpw db ⟨apiKey,.createApiKey body drawn⟩ (createApiKey db tenant body drawn).1 := by
  unfold createApiKey
  split
  · rename_i different
    refine .kept rfl ?_
    intro body drawn creates
    cases creates with
    | created also same _ =>
      cases Except.ok.inj (known.symm.trans also)
      exact different same
  · rename_i same
    cases inserted : db.keys.insert (newRow body drawn) with
    | none =>
      refine .kept rfl ?_
      intro body drawn creates
      cases creates with
      | created _ _ taken =>
        rw [inserted] at taken
        cases taken
    | some keys =>
      obtain ⟨rows,fresh⟩ := insert_rows inserted
      refine .created body drawn (.created known (not_not.mp same) (by rw [inserted]; rfl)) ?_ fresh
      show keys.rows.map _ = _
      rw [rows,List.map_append]
      rfl

theorem handle_grants (other : ∀ body drawn, endpoint ≠ .createApiKey body drawn) :
    (handle db tenant endpoint).1.grants = db.grants := by
  cases endpoint with
  | createApiKey body drawn => exact absurd rfl (other body drawn)
  | revokeApiKey keyId =>
    simp only [handle,revokeApiKey]
    split
    · exact revoke_grants db keyId tenant.tenantId
    · rfl
  | updateCurrentTenant tenantUpdate =>
    simp only [handle,updateCurrentTenant]
    repeat' split
    all_goals rfl
  | _ => rfl

theorem serve_grants (other : ∀ body drawn, request.endpoint ≠ .createApiKey body drawn) :
    (serve checkpw db request).1.grants = db.grants := by
  unfold serve
  split
  · rfl
  · exact handle_grants other

theorem step_sound (ran : step checkpw db request = some next) : Stepped checkpw db request next := by
  cases ran
  by_cases creating : ∃ body drawn, request.endpoint = .createApiKey body drawn
  · obtain ⟨body,drawn,asked⟩ := creating
    obtain ⟨apiKey,endpoint⟩ := request
    cases asked
    unfold serve
    cases known : getCurrentTenant checkpw db apiKey with
    | error error =>
      refine .kept rfl ?_
      intro body drawn creates
      cases creates with
      | created also => cases known.symm.trans also
    | ok tenant =>
      simp only [Except.bind,createApiKey_authorized (getCurrentTenant_source known)]
      exact createApiKey_stepped known
  · have other : ∀ body drawn, request.endpoint ≠ .createApiKey body drawn :=
      fun body drawn asked => creating ⟨body,drawn,asked⟩
    refine .kept (serve_grants other) ?_
    intro body drawn creates
    cases creates with
    | created => exact other body drawn rfl

-- Stands for bcrypt where no two keys share a hash.
def saltless (plainKey keyHash : String) : Bool := keyHash == "$2b$12$" ++ plainKey

end SmartParking.Auth.ApiKeys
