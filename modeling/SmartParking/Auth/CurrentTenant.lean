import SmartParking.Auth.ApiKeys

namespace SmartParking.Auth.CurrentTenant
open Lib Lib.Runs
open ApiKeys (UserRole TenantContext HttpError Tenant requireRole roleHierarchy verifyApiKey resolveTenantFromApiKey)

structure TokenData where
  userId : String
  tenantId : String
  role : UserRole
  exp : Int
  deriving DecidableEq

-- A NULL in `is_active` counts as false here and in the memberships.
structure User where
  id : String
  isActive : Bool := true
  deriving DecidableEq

structure Membership where
  userId : String
  tenantId : String
  role : String
  isActive : Bool := true
  deriving DecidableEq

structure Contents extends ApiKeys.Database where
  users : List User
  memberships : List Membership

def parseRole (role : String) : Option UserRole :=
  [UserRole.platformAdmin,.owner,.admin,.operator,.viewer].find? (·.value == role)

-- `users` joined with `user_memberships` and `tenants`.
def Contents.joined (db : Contents) (userId tenantId : String) : List (User × Membership × Tenant) :=
  (db.users.filter (·.id == userId)).flatMap fun user =>
    (db.memberships.filter fun membership => membership.userId == user.id && membership.tenantId == tenantId).flatMap
      fun membership =>
        (db.tenants.filter (·.id == membership.tenantId)).map fun tenant => (user,membership,tenant)

def resolveTenantFromJwt (db : Contents) (token : TokenData) : Option TenantContext :=
  match (db.joined token.userId token.tenantId).head? with
  | none => none
  | some (user,membership,tenant) =>
    if !user.isActive then none
    else if !membership.isActive then none
    else if !tenant.isActive then none
    else (parseRole membership.role).map fun role =>
      {tenantId := tenant.id,tenantName := tenant.name,tenantSlug := tenant.slug,userId := some token.userId,
       userRole := some role,source := .jwt}

def given (text : Option String) : Option String := text.filter (· ≠ "")

section Request

-- What a bearer token decodes to at the time of the request, `bcrypt.checkpw`,
-- and the credentials that `HTTPBearer` finds in an Authorization header.
variable (decodeAccessToken : String → Option TokenData) (checkpw : String → String → Bool)
  (httpBearer : Option String → Option String)

def tokenData (credentials : Option String) : Option TokenData := (given credentials).bind decodeAccessToken

def keyContext (db : Contents) (apiKey : Option String) : Option TenantContext :=
  ((given apiKey).bind (verifyApiKey checkpw db.toDatabase)).bind (resolveTenantFromApiKey db.toDatabase ·.id)

def getCurrentTenant (db : Contents) (credentials apiKey : Option String) : Except HttpError TenantContext :=
  match (tokenData decodeAccessToken credentials).bind (resolveTenantFromJwt db) with
  | some tenant => .ok tenant
  | none =>
    match keyContext checkpw db apiKey with
    | some tenant => .ok tenant
    | none => .error ApiKeys.unauthorized

-- `require_role(minimum_role)`, which depends on `get_current_tenant`.
def checkRole (minimumRole : UserRole) (db : Contents) (credentials apiKey : Option String) :
    Except HttpError TenantContext :=
  (getCurrentTenant decodeAccessToken checkpw db credentials apiKey).bind (requireRole minimumRole)

def bearer : List Char := "Bearer ".toList

-- `auth_header.split(" ")[1]` of a header that starts with `Bearer` and a blank.
def bearerToken (authorization : Option String) : Option String :=
  authorization.bind fun header =>
    if bearer <+: header.toList then
      some (String.ofList ((header.toList.drop bearer.length).takeWhile (· ≠ ' ')))
    else none

-- The tenant that `set_tenant_context_for_rls` stores.
def setTenantContextForRls (db : Contents) (authorization apiKey : Option String) : Option String :=
  match (bearerToken authorization).bind decodeAccessToken with
  | some data => some data.tenantId
  | none => (keyContext checkpw db apiKey).map (·.tenantId)

-- Whom a request that `get_current_tenant` accepts is stored under.
def Agree (db : Contents) (authorization apiKey : Option String) : Prop :=
  ∀ tenant, getCurrentTenant decodeAccessToken checkpw db (httpBearer authorization) apiKey = .ok tenant →
    setTenantContextForRls decodeAccessToken checkpw db authorization apiKey = some tenant.tenantId

-- The requests that fall apart: a token that decodes and that the database does
-- not support, beside the key of another tenant; a supported token in a header
-- that only `HTTPBearer` reads, beside no key of its tenant; and a header in
-- which the two read tokens of different tenants.
inductive Apart (db : Contents) (authorization apiKey : Option String) : Prop where
  | stale (data : TokenData) (key : TenantContext) : (bearerToken authorization).bind decodeAccessToken = some data →
      (tokenData decodeAccessToken (httpBearer authorization)).bind (resolveTenantFromJwt db) = none →
      keyContext checkpw db apiKey = some key → key.tenantId ≠ data.tenantId → Apart db authorization apiKey
  | unread (data : TokenData) : (bearerToken authorization).bind decodeAccessToken = none →
      tokenData decodeAccessToken (httpBearer authorization) = some data → (resolveTenantFromJwt db data).isSome →
      (∀ key, keyContext checkpw db apiKey = some key → key.tenantId ≠ data.tenantId) → Apart db authorization apiKey
  | mixed (read data : TokenData) : (bearerToken authorization).bind decodeAccessToken = some read →
      tokenData decodeAccessToken (httpBearer authorization) = some data → (resolveTenantFromJwt db data).isSome →
      read.tenantId ≠ data.tenantId → Apart db authorization apiKey

end Request

variable {decodeAccessToken : String → Option TokenData} {checkpw : String → String → Bool}
  {httpBearer : Option String → Option String} {db : Contents} {authorization apiKey credentials : Option String}
  {data : TokenData} {tenant : TenantContext} {minimumRole : UserRole}

-- The user, the tenant and the membership of a token, all of them active.
structure Stands (db : Contents) (data : TokenData) (user : User) (membership : Membership) (tenant : Tenant) :
    Prop where
  known : user ∈ db.users ∧ user.id = data.userId ∧ user.isActive = true
  owner : tenant ∈ db.tenants ∧ tenant.id = data.tenantId ∧ tenant.isActive = true
  enrolled : membership ∈ db.memberships ∧ membership.userId = data.userId ∧ membership.tenantId = data.tenantId ∧
    membership.isActive = true

theorem joined_sound {user : User} {membership : Membership} {row : Tenant} {userId tenantId : String}
    (member : (user,membership,row) ∈ db.joined userId tenantId) :
    (user ∈ db.users ∧ user.id = userId) ∧
      (membership ∈ db.memberships ∧ membership.userId = userId ∧ membership.tenantId = tenantId) ∧
      row ∈ db.tenants ∧ row.id = tenantId := by
  unfold Contents.joined at member
  obtain ⟨user',listed,member⟩ := List.mem_flatMap.mp member
  obtain ⟨membership',belongs,member⟩ := List.mem_flatMap.mp member
  obtain ⟨row',owns,same⟩ := List.mem_map.mp member
  cases same
  obtain ⟨known,named⟩ := List.mem_filter.mp listed
  obtain ⟨enrolled,keys⟩ := List.mem_filter.mp belongs
  obtain ⟨exists',own⟩ := List.mem_filter.mp owns
  have ids : membership.userId = user.id ∧ membership.tenantId = tenantId := by simpa using keys
  have userId' : user.id = userId := by simpa using named
  have tenantId' : row.id = membership.tenantId := by simpa using own
  exact ⟨⟨known,userId'⟩,⟨enrolled,ids.1.trans userId',ids.2⟩,exists',tenantId'.trans ids.2⟩

theorem resolveTenantFromJwt_supported (resolved : resolveTenantFromJwt db data = some tenant) :
    ∃ user membership row role, Stands db data user membership row ∧ parseRole membership.role = some role ∧
      tenant.tenantId = data.tenantId ∧ tenant.userRole = some role ∧ tenant.source = .jwt := by
  unfold resolveTenantFromJwt at resolved
  split at resolved
  · cases resolved
  · rename_i user membership row found
    obtain ⟨known,enrolled,owner⟩ := joined_sound (List.mem_of_head? found)
    split at resolved
    · cases resolved
    · split at resolved
      · cases resolved
      · split at resolved
        · cases resolved
        · rename_i userActive membershipActive tenantActive
          obtain ⟨role,parsed,rfl⟩ := Option.map_eq_some_iff.mp resolved
          refine ⟨user,membership,row,role,⟨?_,?_,?_⟩,parsed,owner.2,rfl,rfl⟩
          · exact ⟨known.1,known.2,by simpa using userActive⟩
          · exact ⟨owner.1,owner.2,by simpa using tenantActive⟩
          · exact ⟨enrolled.1,enrolled.2.1,enrolled.2.2,by simpa using membershipActive⟩

theorem resolveTenantFromJwt_tenantId (resolved : resolveTenantFromJwt db data = some tenant) :
    tenant.tenantId = data.tenantId := by
  obtain ⟨_,_,_,_,_,_,same,_⟩ := resolveTenantFromJwt_supported resolved
  exact same

theorem keyContext_source (resolved : keyContext checkpw db apiKey = some tenant) : tenant.source = .apiKey := by
  obtain ⟨row,_,joined⟩ := Option.bind_eq_some_iff.mp resolved
  obtain ⟨key,_,owned⟩ := Option.bind_eq_some_iff.mp joined
  obtain ⟨owner,_,rfl⟩ := Option.map_eq_some_iff.mp owned
  rfl

theorem stored_iff {tenantId : String} :
    setTenantContextForRls decodeAccessToken checkpw db authorization apiKey = some tenantId ↔
      (∃ data, (bearerToken authorization).bind decodeAccessToken = some data ∧ data.tenantId = tenantId) ∨
        (bearerToken authorization).bind decodeAccessToken = none ∧
          ∃ key, keyContext checkpw db apiKey = some key ∧ key.tenantId = tenantId := by
  unfold setTenantContextForRls
  cases (bearerToken authorization).bind decodeAccessToken <;> simp

-- Where the token stands, it decides.
theorem agree_token (decoded : tokenData decodeAccessToken (httpBearer authorization) = some data)
    (supported : resolveTenantFromJwt db data = some tenant) :
    Agree decodeAccessToken checkpw httpBearer db authorization apiKey ↔
      setTenantContextForRls decodeAccessToken checkpw db authorization apiKey = some data.tenantId := by
  unfold Agree getCurrentTenant
  rw [decoded,Option.bind_some,supported,←resolveTenantFromJwt_tenantId supported]
  simp

-- Elsewhere the key does.
theorem agree_key (unresolved : (tokenData decodeAccessToken (httpBearer authorization)).bind (resolveTenantFromJwt db) =
    none) : Agree decodeAccessToken checkpw httpBearer db authorization apiKey ↔
      ∀ key, keyContext checkpw db apiKey = some key →
        setTenantContextForRls decodeAccessToken checkpw db authorization apiKey = some key.tenantId := by
  unfold Agree getCurrentTenant
  rw [unresolved]
  cases keyContext checkpw db apiKey <;> simp

theorem supported_agree (decoded : tokenData decodeAccessToken (httpBearer authorization) = some data)
    (supported : resolveTenantFromJwt db data = some tenant) :
    Agree decodeAccessToken checkpw httpBearer db authorization apiKey ↔
      ¬Apart decodeAccessToken checkpw httpBearer db authorization apiKey := by
  have stands : (resolveTenantFromJwt db data).isSome := by
    rw [supported]
    rfl
  rw [agree_token decoded supported,stored_iff]
  constructor
  · intro stored split
    cases split with
    | stale _ _ _ unresolved =>
      rw [decoded,Option.bind_some,supported] at unresolved
      cases unresolved
    | unread _ unread decoded' _ apart =>
      cases decoded.symm.trans decoded'
      rcases stored with ⟨read,seen,_⟩ | ⟨_,key,known,same⟩
      · cases unread.symm.trans seen
      · exact apart key known same
    | mixed _ _ seen decoded' _ apart =>
      cases decoded.symm.trans decoded'
      rcases stored with ⟨read,also,same⟩ | ⟨unread,_⟩
      · cases seen.symm.trans also
        exact apart same
      · cases unread.symm.trans seen
  · intro whole
    cases seen : (bearerToken authorization).bind decodeAccessToken with
    | some read =>
      refine .inl ⟨read,rfl,?_⟩
      by_contra apart
      exact whole (.mixed read data seen decoded stands apart)
    | none =>
      refine .inr ⟨rfl,?_⟩
      by_contra absent
      exact whole (.unread data seen decoded stands fun key known same => absent ⟨key,known,same⟩)

theorem unsupported_agree
    (unresolved : (tokenData decodeAccessToken (httpBearer authorization)).bind (resolveTenantFromJwt db) = none) :
    Agree decodeAccessToken checkpw httpBearer db authorization apiKey ↔
      ¬Apart decodeAccessToken checkpw httpBearer db authorization apiKey := by
  rw [agree_key unresolved]
  constructor
  · intro stored split
    cases split with
    | stale data key seen _ known apart =>
      rcases stored_iff.mp (stored key known) with ⟨read,also,same⟩ | ⟨unread,_⟩
      · cases seen.symm.trans also
        exact apart same.symm
      · cases unread.symm.trans seen
    | unread data _ decoded supported _ | mixed _ data _ decoded supported _ =>
      rw [decoded,Option.bind_some] at unresolved
      rw [unresolved] at supported
      cases supported
  · intro whole key known
    refine stored_iff.mpr ?_
    cases seen : (bearerToken authorization).bind decodeAccessToken with
    | none => exact .inr ⟨rfl,key,known,rfl⟩
    | some data =>
      refine .inl ⟨data,rfl,?_⟩
      by_contra apart
      exact whole (.stale data key seen unresolved known fun same => apart same.symm)

theorem resolutions_agree (decodeAccessToken : String → Option TokenData) (checkpw : String → String → Bool)
    (httpBearer : Option String → Option String) (db : Contents) (authorization apiKey : Option String) :
    Agree decodeAccessToken checkpw httpBearer db authorization apiKey ↔
      ¬Apart decodeAccessToken checkpw httpBearer db authorization apiKey := by
  cases resolved : (tokenData decodeAccessToken (httpBearer authorization)).bind (resolveTenantFromJwt db) with
  | some tenant =>
    obtain ⟨data,decoded,supported⟩ := Option.bind_eq_some_iff.mp resolved
    exact supported_agree decoded supported
  | none => exact unsupported_agree resolved

-- A request without a bearer token is resolved as the router of the keys does.
theorem getCurrentTenant_keyed (absent : tokenData decodeAccessToken credentials = none) :
    getCurrentTenant decodeAccessToken checkpw db credentials apiKey =
      ApiKeys.getCurrentTenant checkpw db.toDatabase apiKey := by
  have same : ((apiKey.filter (· ≠ "")).bind (verifyApiKey checkpw db.toDatabase)).bind
      (resolveTenantFromApiKey db.toDatabase ·.id) = keyContext checkpw db apiKey := rfl
  unfold getCurrentTenant ApiKeys.getCurrentTenant
  rw [absent,same]
  cases keyContext checkpw db apiKey <;> rfl

-- A user of T1 whose membership was ended, and a key of T2.
def twoTenants : Contents where
  keys :=
    {rows := [⟨"key-1","$2b$12$reader","Dashboard",some "T2",["spaces:read"],true⟩]
     primaryKey := by decide
     keyHash := by decide}
  tenants := [⟨"T1","Acme","acme",true⟩,⟨"T2","Other","other",true⟩]
  users := [⟨"U1",true⟩]
  memberships := [⟨"U1","T1","viewer",false⟩]

def oneToken (token : String) : Option TokenData := if token = "t" then some ⟨"U1","T1",.viewer,0⟩ else none

def oneHeader (authorization : Option String) : Option String :=
  if authorization = some "Bearer t" then some "t" else none

-- The old token is charged, the key is served.
theorem ended_membership_apart : ¬∀ (decodeAccessToken : String → Option TokenData) (checkpw : String → String → Bool)
    (httpBearer : Option String → Option String) (db : Contents) (authorization apiKey : Option String),
    Agree decodeAccessToken checkpw httpBearer db authorization apiKey := by
  intro always
  have stored := always oneToken ApiKeys.saltless oneHeader twoTenants (some "Bearer t") (some "reader") _ rfl
  revert stored
  decide

end SmartParking.Auth.CurrentTenant
