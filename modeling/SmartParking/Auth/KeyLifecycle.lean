import Mathlib.Logic.Function.Basic
import SmartParking.Auth.ApiKeys
import SmartParking.Lib.Lists

namespace SmartParking.Auth.KeyLifecycle
open Lib Lib.Runs
open ApiKeys

-- A key as it was created: its row and the plain key.
structure Issue where
  row : ApiKey
  plainKey : String

-- `revoked` are the ids of the revocations that have committed.
structure World where
  db : Database
  revoked : List String

-- A request between the two queries of its lookup, and one that has a tenant.
inductive Call where
  | idle
  | verified (apiKey keyId : String) (lookup : World)
  | authenticated (tenant : TenantContext)

-- A key that authenticated a request, and the world at its two queries.
structure Authentication where
  apiKey : String
  tenant : TenantContext
  lookup : World
  resolved : World

structure State where
  world : World
  issued : List Issue
  calls : Nat → Call
  log : List Authentication

def State.initial (tenants : List Tenant) : State :=
  ⟨⟨⟨⟨[],.nil,.nil⟩,tenants⟩,[]⟩,[],fun _ => .idle,[]⟩

def State.goto (s : State) (c : Nat) (call : Call) : State := {s with calls := Function.update s.calls c call}

section Machine

-- `bcrypt.checkpw`, and `bcrypt.hashpw` of a plain key and a salt.
variable (checkpw : String → String → Bool) (hashpw : String → String → String)

-- `verify_api_key` passes over a row whose `last_used_at` cannot be recorded.
def verify (db : Database) (apiKey : String) (recorded : String → Bool) : Option ApiKey :=
  db.keys.rows.find? fun row => row.isActive && (checkpw apiKey row.keyHash && recorded row.id)

def State.lookup (s : State) (c : Nat) (apiKey : String) (recorded : String → Bool) : State :=
  match verify checkpw s.world.db apiKey recorded with
  | none => s
  | some row => s.goto c (.verified apiKey row.id s.world)

def State.resolve (s : State) (c : Nat) (apiKey keyId : String) (lookup : World) : State :=
  match resolveTenantFromApiKey s.world.db keyId with
  | none => s.goto c .idle
  | some tenant => {s.goto c (.authenticated tenant) with log := ⟨apiKey,tenant,lookup,s.world⟩::s.log}

def State.create (s : State) (tenant : TenantContext) (body : APIKeyCreate) (drawn : Drawn) : State :=
  match createApiKey s.world.db tenant body drawn with
  | (db,.ok (.created row plainKey)) => {s with world := {s.world with db := db},issued := s.issued ++ [⟨row,plainKey⟩]}
  | _ => s

def State.revoke (s : State) (tenant : TenantContext) (keyId : String) : State :=
  match revokeApiKey s.world.db tenant keyId with
  | (db,.ok _) => {s with world := ⟨db,keyId::s.world.revoked⟩}
  | _ => s

def State.update (s : State) (tenant : TenantContext) (u : TenantUpdate) : State :=
  {s with world := {s.world with db := (updateCurrentTenant s.world.db tenant u).1}}

-- What a request with a tenant may go on to do to keys and tenants. `salt` is
-- what `bcrypt.gensalt` draws.
inductive Operation where
  | create (body : APIKeyCreate) (keyId plainKey salt : String)
  | revoke (keyId : String)
  | update (tenantUpdate : TenantUpdate)
  | other

def State.operate (s : State) (tenant : TenantContext) : Operation → State
  | .create body keyId plainKey salt => s.create tenant body ⟨keyId,plainKey,hashpw plainKey salt⟩
  | .revoke keyId => s.revoke tenant keyId
  | .update tenantUpdate => s.update tenant tenantUpdate
  | .other => s

-- `signIn` is a request with a token.
inductive Action where
  | lookup (c : Nat) (apiKey : String) (recorded : String → Bool)
  | resolve (c : Nat)
  | signIn (c : Nat) (tenant : TenantContext)
  | operate (c : Nat) (operation : Operation)

def step (s : State) : Action → Option State
  | .lookup c apiKey recorded =>
    match s.calls c with
    | .idle => some (s.lookup checkpw c apiKey recorded)
    | _ => none
  | .resolve c =>
    match s.calls c with
    | .verified apiKey keyId lookup => some (s.resolve c apiKey keyId lookup)
    | _ => none
  | .signIn c tenant =>
    match s.calls c with
    | .idle => some (s.goto c (.authenticated tenant))
    | _ => none
  | .operate c operation =>
    match s.calls c with
    | .authenticated tenant => some ((s.operate hashpw tenant operation).goto c .idle)
    | _ => none

-- What a request with the key gets when nothing comes between its two queries.
def authenticate (db : Database) (apiKey : String) : Option TenantContext :=
  (verifyApiKey checkpw db apiKey).bind (resolveTenantFromApiKey db ·.id)

end Machine

-- bcrypt accepts a key against a hash only if the hash was made from that key.
def MadeFrom (checkpw : String → String → Bool) (hashpw : String → String → String) : Prop :=
  ∀ apiKey plainKey salt, checkpw apiKey (hashpw plainKey salt) = true → apiKey = plainKey

-- `token_urlsafe` does not draw a key that was drawn before.
def Fresh (s : State) : Action → Prop
  | .operate _ (.create _ _ plainKey _) => plainKey ∉ s.issued.map (·.plainKey)
  | _ => True

-- The tenant whose operation an action is.
def actor (s : State) : Action → Option String
  | .operate c _ =>
    match s.calls c with
    | .authenticated tenant => some tenant.tenantId
    | _ => none
  | _ => none

-- All that a step can do: a lookup starts or ends, a token comes in, or a request
-- with a tenant does its work.
inductive Stepped (checkpw : String → String → Bool) (hashpw : String → String → String) (s : State) :
    Action → State → Prop where
  | lookup (c : Nat) (apiKey : String) (recorded : String → Bool) :
      Stepped checkpw hashpw s (.lookup c apiKey recorded) (s.lookup checkpw c apiKey recorded)
  | resolve (c : Nat) (apiKey keyId : String) (lookup : World) : s.calls c = .verified apiKey keyId lookup →
      Stepped checkpw hashpw s (.resolve c) (s.resolve c apiKey keyId lookup)
  | signIn (c : Nat) (tenant : TenantContext) :
      Stepped checkpw hashpw s (.signIn c tenant) (s.goto c (.authenticated tenant))
  | operate (c : Nat) (tenant : TenantContext) (operation : Operation) : s.calls c = .authenticated tenant →
      Stepped checkpw hashpw s (.operate c operation) ((s.operate hashpw tenant operation).goto c .idle)

variable {checkpw : String → String → Bool} {hashpw : String → String → String} {s next : State} {action : Action}
  {tenant : TenantContext} {body : APIKeyCreate} {drawn : Drawn} {db : Database} {row : ApiKey} {issue : Issue}
  {apiKey keyId : String}

def restored (row : ApiKey) : ApiKey := {row with isActive := true}

-- The rows are those that were issued, apart from what is active; a revoked one
-- is not.
structure Kept (hashpw : String → String → String) (world : World) (issued : List Issue) : Prop where
  rows : world.db.keys.rows.map restored = issued.map (·.row)
  hashed : ∀ issue ∈ issued, ∃ salt, issue.row.keyHash = hashpw issue.plainKey salt
  owned : ∀ issue ∈ issued, issue.row.tenantId ≠ none
  distinct : (issued.map (·.plainKey)).Nodup
  dead : ∀ row ∈ world.db.keys.rows, row.id ∈ world.revoked → row.isActive = false
  known : ∀ keyId ∈ world.revoked, keyId ∈ world.db.keys.rows.map (·.id)

theorem createApiKey_cases (db : Database) (tenant : TenantContext) (body : APIKeyCreate) (drawn : Drawn) :
    (∃ error, createApiKey db tenant body drawn = (db,.error error)) ∨
      ∃ keys, body.tenantId = tenant.tenantId ∧ db.keys.insert (newRow body drawn) = some keys ∧
        createApiKey db tenant body drawn = ({db with keys := keys},.ok (.created (newRow body drawn) drawn.plainKey)) := by
  unfold createApiKey
  split
  · exact .inl ⟨_,rfl⟩
  · rename_i same
    cases inserted : db.keys.insert (newRow body drawn) with
    | none => exact .inl ⟨_,rfl⟩
    | some keys => exact .inr ⟨keys,not_not.mp same,rfl,rfl⟩

theorem revokeApiKey_cases (db : Database) (tenant : TenantContext) (keyId : String) :
    (∃ error, revokeApiKey db tenant keyId = (db,.error error)) ∨
      (∃ row ∈ db.keys.rows, row.id = keyId ∧ row.tenantId = some tenant.tenantId) ∧
        revokeApiKey db tenant keyId = ({db with keys := db.keys.revoke keyId tenant.tenantId},.ok .noContent) := by
  unfold revokeApiKey
  split
  · rename_i listed
    obtain ⟨row,member,own⟩ := List.any_eq_true.mp listed
    exact .inr ⟨⟨row,member,by simpa using own⟩,rfl⟩
  · exact .inl ⟨_,rfl⟩

theorem updateCurrentTenant_keys (db : Database) (tenant : TenantContext) (u : TenantUpdate) :
    (updateCurrentTenant db tenant u).1.keys = db.keys := by
  unfold updateCurrentTenant
  repeat' split
  all_goals rfl

-- All that a step does to the world and to what was issued.
inductive Moved (hashpw : String → String → String) (s : State) : Option String → World → List Issue → Prop where
  | kept : Moved hashpw s by' s.world s.issued
  | created (body : APIKeyCreate) (keyId plainKey salt : String) (keys : Table) :
      s.world.db.keys.insert (newRow body ⟨keyId,plainKey,hashpw plainKey salt⟩) = some keys →
      plainKey ∉ s.issued.map (·.plainKey) →
      Moved hashpw s (some body.tenantId) ⟨{s.world.db with keys := keys},s.world.revoked⟩
        (s.issued ++ [⟨newRow body ⟨keyId,plainKey,hashpw plainKey salt⟩,plainKey⟩])
  | revoked (tenantId keyId : String) :
      (∃ row ∈ s.world.db.keys.rows, row.id = keyId ∧ row.tenantId = some tenantId) →
      Moved hashpw s (some tenantId)
        ⟨{s.world.db with keys := s.world.db.keys.revoke keyId tenantId},keyId::s.world.revoked⟩ s.issued
  | updated (tenant : TenantContext) (u : TenantUpdate) :
      Moved hashpw s (some tenant.tenantId) {s.world with db := (updateCurrentTenant s.world.db tenant u).1} s.issued

theorem operate_moved (operation : Operation) (c : Nat) (fresh : Fresh s (.operate c operation)) :
    Moved hashpw s (some tenant.tenantId) (s.operate hashpw tenant operation).world
      (s.operate hashpw tenant operation).issued := by
  cases operation with
  | create body keyId plainKey salt =>
    show Moved hashpw s _ (s.create tenant body _).world (s.create tenant body _).issued
    unfold State.create
    rcases createApiKey_cases s.world.db tenant body ⟨keyId,plainKey,hashpw plainKey salt⟩ with
      ⟨error,refused⟩ | ⟨keys,same,inserted,created⟩
    · rw [refused]
      exact .kept
    · rw [created,←same]
      exact .created body keyId plainKey salt keys inserted fresh
  | revoke keyId =>
    show Moved hashpw s _ (s.revoke tenant keyId).world (s.revoke tenant keyId).issued
    unfold State.revoke
    rcases revokeApiKey_cases s.world.db tenant keyId with ⟨error,refused⟩ | ⟨own,revoked⟩
    · rw [refused]
      exact .kept
    · rw [revoked]
      exact .revoked tenant.tenantId keyId own
  | update tenantUpdate => exact .updated tenant tenantUpdate
  | other => exact .kept

theorem Kept.issueOf (kept : Kept hashpw world issued) (listed : row ∈ world.db.keys.rows) :
    ∃ issue ∈ issued, issue.row = restored row := by
  have member : restored row ∈ issued.map (·.row) := by
    rw [←kept.rows]
    exact List.mem_map_of_mem listed
  exact List.mem_map.mp member

theorem Kept.rowOf (kept : Kept hashpw world issued) (member : issue ∈ issued) :
    ∃ row ∈ world.db.keys.rows, restored row = issue.row := by
  have listed : issue.row ∈ world.db.keys.rows.map restored := by
    rw [kept.rows]
    exact List.mem_map_of_mem member
  exact List.mem_map.mp listed

-- Of two rows with an id there is one, so what was issued under it is the row's.
theorem Kept.same (kept : Kept hashpw world issued) (member : issue ∈ issued) (listed : row ∈ world.db.keys.rows)
    (ids : row.id = issue.row.id) : issue.row = restored row := by
  obtain ⟨other,also,equal⟩ := kept.rowOf member
  have otherId : other.id = issue.row.id := by
    rw [←equal]
    rfl
  rw [←equal,List.inj_on_of_nodup_map world.db.keys.primaryKey also listed (otherId.trans ids.symm)]

-- bcrypt accepts a key only against the row that was issued for it.
theorem Kept.accepted (sound : MadeFrom checkpw hashpw)
    (kept : Kept hashpw world issued) (listed : row ∈ world.db.keys.rows) (accepts : checkpw apiKey row.keyHash = true) :
    ∃ issue ∈ issued, issue.row = restored row ∧ issue.plainKey = apiKey := by
  obtain ⟨issue,member,same⟩ := kept.issueOf listed
  obtain ⟨salt,made⟩ := kept.hashed issue member
  have hash : issue.row.keyHash = row.keyHash := by
    rw [same]
    rfl
  rw [←hash,made] at accepts
  exact ⟨issue,member,same,(sound apiKey issue.plainKey salt accepts).symm⟩

theorem revoked_restored (row : ApiKey) (keyId tenantId : String) :
    restored (Table.revoked row keyId tenantId) = restored row := by
  unfold Table.revoked
  split <;> rfl

theorem revoked_inactive (inactive : row.isActive = false) (keyId tenantId : String) :
    (Table.revoked row keyId tenantId).isActive = false := by
  unfold Table.revoked
  split
  · rfl
  · exact inactive

theorem revoke_ids (t : Table) (keyId tenantId : String) :
    (t.revoke keyId tenantId).rows.map (·.id) = t.rows.map (·.id) := by
  show (t.rows.map _).map _ = _
  rw [List.map_map]
  exact List.map_congr_left fun row _ => Table.revoked_id row keyId tenantId

theorem revoke_kept (kept : Kept hashpw s.world s.issued) {tenantId : String}
    (own : ∃ row ∈ s.world.db.keys.rows, row.id = keyId ∧ row.tenantId = some tenantId) :
    Kept hashpw ⟨{s.world.db with keys := s.world.db.keys.revoke keyId tenantId},keyId::s.world.revoked⟩ s.issued where
  rows := by
    rw [←kept.rows]
    show (s.world.db.keys.rows.map _).map _ = _
    rw [List.map_map]
    exact List.map_congr_left fun row _ => revoked_restored row keyId tenantId
  hashed := kept.hashed
  owned := kept.owned
  distinct := kept.distinct
  dead := by
    intro row listed
    obtain ⟨before,member,rfl⟩ := List.mem_map.mp listed
    intro revoked
    rw [Table.revoked_id] at revoked
    rcases List.mem_cons.mp revoked with this | earlier
    · obtain ⟨target,present,named,owner⟩ := own
      cases List.inj_on_of_nodup_map s.world.db.keys.primaryKey member present (this.trans named.symm)
      unfold Table.revoked
      rw [if_pos ⟨named,owner⟩]
    · exact revoked_inactive (kept.dead before member earlier) keyId tenantId
  known := by
    intro other revoked
    show other ∈ (s.world.db.keys.revoke keyId tenantId).rows.map (·.id)
    rw [revoke_ids]
    rcases List.mem_cons.mp revoked with rfl | earlier
    · obtain ⟨target,present,named,_⟩ := own
      exact List.mem_map.mpr ⟨target,present,named⟩
    · exact kept.known other earlier

theorem create_kept (kept : Kept hashpw s.world s.issued) {plainKey salt : String} {keys : Table}
    (inserted : s.world.db.keys.insert (newRow body ⟨keyId,plainKey,hashpw plainKey salt⟩) = some keys)
    (fresh : plainKey ∉ s.issued.map (·.plainKey)) :
    Kept hashpw ⟨{s.world.db with keys := keys},s.world.revoked⟩
      (s.issued ++ [⟨newRow body ⟨keyId,plainKey,hashpw plainKey salt⟩,plainKey⟩]) := by
  obtain ⟨rows,unused⟩ := insert_rows inserted
  refine ⟨?_,?_,?_,?_,?_,?_⟩
  · show keys.rows.map restored = _
    rw [rows,List.map_append,List.map_append,kept.rows]
    rfl
  · intro issue member
    rcases List.mem_append.mp member with old | new
    · exact kept.hashed issue old
    · cases List.mem_singleton.mp new
      exact ⟨salt,rfl⟩
  · intro issue member
    rcases List.mem_append.mp member with old | new
    · exact kept.owned issue old
    · cases List.mem_singleton.mp new
      exact Option.some_ne_none _
  · rw [List.map_append]
    exact kept.distinct.append (List.nodup_singleton _) (List.disjoint_singleton.mpr fresh)
  · intro row listed revoked
    have member : row ∈ s.world.db.keys.rows ++ [newRow body ⟨keyId,plainKey,hashpw plainKey salt⟩] := rows ▸ listed
    rcases List.mem_append.mp member with old | new
    · exact kept.dead row old revoked
    · cases List.mem_singleton.mp new
      exact absurd (kept.known _ revoked) unused
  · intro other revoked
    show other ∈ keys.rows.map (·.id)
    rw [rows,List.map_append]
    exact List.mem_append_left _ (kept.known other revoked)

theorem moved_kept (kept : Kept hashpw s.world s.issued) (moved : Moved hashpw s by' world issued) :
    Kept hashpw world issued := by
  cases moved with
  | kept => exact kept
  | created body keyId plainKey salt keys inserted fresh => exact create_kept kept inserted fresh
  | revoked tenantId keyId own => exact revoke_kept kept own
  | updated tenant u =>
    have keys := updateCurrentTenant_keys s.world.db tenant u
    refine ⟨?_,kept.hashed,kept.owned,kept.distinct,?_,?_⟩
    all_goals
      dsimp only
      rw [keys]
    · exact kept.rows
    · exact kept.dead
    · exact kept.known

theorem revoked_foreign {tenantId : String} (same : issue.row = restored row)
    (foreign : issue.row.tenantId ≠ some tenantId) (keyId : String) : Table.revoked row keyId tenantId = row := by
  have owner : row.tenantId ≠ some tenantId := by
    rw [same] at foreign
    exact foreign
  unfold Table.revoked
  rw [if_neg fun own => owner own.2]

-- The rows of another tenant than the one that acts are as they were.
theorem Moved.findActive (kept : Kept hashpw s.world s.issued) (member : issue ∈ s.issued)
    (foreign : issue.row.tenantId ≠ by') (moved : Moved hashpw s by' world issued) :
    world.db.keys.findActive issue.row.id = s.world.db.keys.findActive issue.row.id := by
  unfold Table.findActive
  cases moved with
  | kept => rfl
  | created body keyId plainKey salt keys inserted fresh =>
    obtain ⟨rows,unused⟩ := insert_rows inserted
    obtain ⟨row,listed,same⟩ := kept.rowOf member
    dsimp only
    rw [rows]
    apply Lists.find?_append_singleton
    have apart : keyId ≠ issue.row.id := by
      intro equal
      refine unused (List.mem_map.mpr ⟨row,listed,?_⟩)
      exact (congrArg ApiKey.id same : (restored row).id = issue.row.id).trans equal.symm
    simp [newRow,apart]
  | revoked tenantId keyId own =>
    apply Lists.find?_map_kept
    intro row listed
    by_cases ids : row.id = issue.row.id
    · exact .inl (revoked_foreign (kept.same member listed ids) foreign keyId)
    · right
      rw [Table.revoked_id]
      simp [ids]
  | updated tenant u =>
    dsimp only
    rw [updateCurrentTenant_keys]

theorem Moved.tenants (moved : Moved hashpw s by' world issued) {tenantId : String} (foreign : some tenantId ≠ by') :
    world.db.tenants.find? (fun tenant => some tenant.id == some tenantId && tenant.isActive) =
      s.world.db.tenants.find? fun tenant => some tenant.id == some tenantId && tenant.isActive := by
  cases moved with
  | kept | created | revoked => rfl
  | updated tenant u =>
    show (updateCurrentTenant s.world.db tenant u).1.tenants.find? _ = _
    unfold updateCurrentTenant
    split
    · rfl
    · split
      · rfl
      · apply Lists.find?_map_kept
        intro row _
        by_cases own : row.id = tenant.tenantId
        · right
          have apart : row.id ≠ tenantId := fun same => foreign (congrArg some (same.symm.trans own))
          rw [if_pos own]
          simp [TenantUpdate.apply,apart]
        · left
          rw [if_neg own]

theorem Moved.resolve (kept : Kept hashpw s.world s.issued) (member : issue ∈ s.issued)
    (foreign : issue.row.tenantId ≠ by') (moved : Moved hashpw s by' world issued) :
    resolveTenantFromApiKey world.db issue.row.id = resolveTenantFromApiKey s.world.db issue.row.id := by
  unfold resolveTenantFromApiKey
  rw [moved.findActive kept member foreign]
  cases found : s.world.db.keys.findActive issue.row.id with
  | none => rfl
  | some row =>
    have listed := List.mem_of_find?_eq_some found
    obtain ⟨ids,_⟩ : row.id = issue.row.id ∧ row.isActive = true := by simpa using List.find?_some found
    have same : issue.row.tenantId = row.tenantId := by
      rw [kept.same member listed ids]
      rfl
    cases owner : row.tenantId with
    | none => exact absurd (same.trans owner) (kept.owned issue member)
    | some tenantId =>
      rw [same,owner] at foreign
      simp only [Option.bind_some,owner]
      rw [moved.tenants foreign]

theorem Kept.unique (kept : Kept hashpw world issued) {other : Issue} (member : issue ∈ issued) (also : other ∈ issued)
    (same : other.plainKey = issue.plainKey) : other = issue :=
  List.inj_on_of_nodup_map kept.distinct also member same

theorem Moved.verify (sound : MadeFrom checkpw hashpw)
    (kept : Kept hashpw s.world s.issued) (member : issue ∈ s.issued) (foreign : issue.row.tenantId ≠ by')
    (moved : Moved hashpw s by' world issued) :
    verifyApiKey checkpw world.db issue.plainKey = verifyApiKey checkpw s.world.db issue.plainKey := by
  unfold verifyApiKey
  cases moved with
  | kept => rfl
  | created body keyId plainKey salt keys inserted fresh =>
    obtain ⟨rows,_⟩ := insert_rows inserted
    dsimp only
    rw [rows]
    apply Lists.find?_append_singleton
    cases accepts : checkpw issue.plainKey (hashpw plainKey salt) with
    | false => simp [newRow,accepts]
    | true =>
      have same := sound issue.plainKey plainKey salt accepts
      exact absurd (List.mem_map.mpr ⟨issue,member,same⟩) fresh
  | revoked tenantId keyId own =>
    apply Lists.find?_map_kept
    intro row listed
    cases accepts : checkpw issue.plainKey row.keyHash with
    | false =>
      right
      rw [Table.revoked_keyHash,accepts]
      simp
    | true =>
      left
      obtain ⟨other,also,same,plain⟩ := kept.accepted sound listed accepts
      rw [kept.unique member also plain] at same
      exact revoked_foreign same foreign keyId
  | updated tenant u =>
    dsimp only
    rw [updateCurrentTenant_keys]

-- No operation of another tenant changes what a request with the key gets, nor
-- what one gets that is between its two queries.
theorem Moved.authenticate (sound : MadeFrom checkpw hashpw)
    (kept : Kept hashpw s.world s.issued) (member : issue ∈ s.issued) (foreign : issue.row.tenantId ≠ by')
    (moved : Moved hashpw s by' world issued) :
    authenticate checkpw world.db issue.plainKey = authenticate checkpw s.world.db issue.plainKey := by
  unfold KeyLifecycle.authenticate
  rw [moved.verify sound kept member foreign]
  cases found : verifyApiKey checkpw s.world.db issue.plainKey with
  | none => rfl
  | some row =>
    obtain ⟨_,accepts⟩ : row.isActive = true ∧ checkpw issue.plainKey row.keyHash = true := by
      simpa using List.find?_some found
    obtain ⟨other,also,same,plain⟩ := kept.accepted sound (List.mem_of_find?_eq_some found) accepts
    have ids : row.id = issue.row.id := by
      rw [kept.unique member also plain] at same
      rw [same]
      rfl
    simp only [Option.bind_some,ids]
    exact moved.resolve kept member foreign

-- A request that got past the first query had an active row of its key.
def Pending (issued : List Issue) (calls : Nat → Call) : Prop :=
  ∀ c apiKey keyId lookup, calls c = .verified apiKey keyId lookup →
    (∃ issue ∈ issued, issue.plainKey = apiKey ∧ issue.row.id = keyId) ∧ keyId ∉ lookup.revoked

-- The key was issued to the tenant with the scopes, it was not revoked when the
-- lookup started, and the tenant was active at its second query.
def Genuine (issued : List Issue) (a : Authentication) : Prop :=
  ∃ issue ∈ issued, issue.plainKey = a.apiKey ∧ issue.row.tenantId = some a.tenant.tenantId ∧
    a.tenant.apiKeyScopes = some issue.row.scopes ∧ issue.row.id ∉ a.lookup.revoked ∧
    ∃ owner ∈ a.resolved.db.tenants, owner.id = a.tenant.tenantId ∧ owner.isActive = true

structure Sound (hashpw : String → String → String) (s : State) : Prop where
  kept : Kept hashpw s.world s.issued
  pending : Pending s.issued s.calls
  logged : ∀ a ∈ s.log, Genuine s.issued a

theorem initial_sound (hashpw : String → String → String) (tenants : List Tenant) : Sound hashpw (.initial tenants) where
  kept := ⟨rfl,nofun,nofun,.nil,nofun,nofun⟩
  pending := nofun
  logged := nofun

theorem Pending.goto (pending : Pending s.issued s.calls) (c : Nat) {call : Call}
    (valid : ∀ apiKey keyId lookup, call = .verified apiKey keyId lookup →
      (∃ issue ∈ s.issued, issue.plainKey = apiKey ∧ issue.row.id = keyId) ∧ keyId ∉ lookup.revoked) :
    Pending s.issued (s.goto c call).calls := by
  intro d apiKey keyId lookup found
  simp only [State.goto,Function.update_apply] at found
  split at found
  · exact valid apiKey keyId lookup found
  · exact pending d apiKey keyId lookup found

theorem Moved.extends (moved : Moved hashpw s by' world issued) : s.issued ⊆ issued := by
  cases moved with
  | created => exact List.subset_append_left _ _
  | _ => exact List.Subset.refl _

theorem Genuine.extends {a : Authentication} (genuine : Genuine s.issued a) (more : s.issued ⊆ issued) :
    Genuine issued a := by
  obtain ⟨issue,member,rest⟩ := genuine
  exact ⟨issue,more member,rest⟩

theorem lookup_sound (sound : MadeFrom checkpw hashpw) (s_sound : Sound hashpw s)
    (c : Nat) (apiKey : String) (recorded : String → Bool) : Sound hashpw (s.lookup checkpw c apiKey recorded) := by
  unfold State.lookup
  split
  · exact s_sound
  · rename_i row found
    obtain ⟨active,accepts,_⟩ : row.isActive = true ∧ checkpw apiKey row.keyHash = true ∧ recorded row.id = true := by
      simpa using List.find?_some found
    have listed := List.mem_of_find?_eq_some found
    obtain ⟨issue,member,same,plain⟩ := s_sound.kept.accepted sound listed accepts
    refine ⟨s_sound.kept,s_sound.pending.goto c ?_,s_sound.logged⟩
    intro _ _ _ equal
    cases equal
    refine ⟨⟨issue,member,plain,?_⟩,?_⟩
    · rw [same]
      rfl
    · intro revoked
      rw [s_sound.kept.dead row listed revoked] at active
      cases active

theorem resolve_sound (s_sound : Sound hashpw s) (c : Nat) {lookup : World}
    (call : s.calls c = .verified apiKey keyId lookup) : Sound hashpw (s.resolve c apiKey keyId lookup) := by
  unfold State.resolve
  split
  · exact ⟨s_sound.kept,s_sound.pending.goto c nofun,s_sound.logged⟩
  · rename_i tenant resolved
    refine ⟨s_sound.kept,s_sound.pending.goto c nofun,?_⟩
    intro a member
    rcases List.mem_cons.mp member with rfl | earlier
    · obtain ⟨⟨issue,issued,plain,named⟩,alive⟩ := s_sound.pending c apiKey keyId lookup call
      obtain ⟨row,found,joined⟩ := Option.bind_eq_some_iff.mp resolved
      obtain ⟨owner,owned,rfl⟩ := Option.map_eq_some_iff.mp joined
      obtain ⟨ids,_⟩ : row.id = keyId ∧ row.isActive = true := by simpa using List.find?_some found
      obtain ⟨own,active⟩ : some owner.id = row.tenantId ∧ owner.isActive = true := by
        simpa using List.find?_some owned
      have same := s_sound.kept.same issued (List.mem_of_find?_eq_some found) (ids.trans named.symm)
      refine ⟨issue,issued,plain,?_,?_,?_,owner,List.mem_of_find?_eq_some owned,rfl,active⟩
      · rw [same]
        exact own.symm
      · rw [same]
        rfl
      · rw [named]
        exact alive
    · exact s_sound.logged a earlier

theorem operate_frame (s : State) (tenant : TenantContext) (operation : Operation) :
    (s.operate hashpw tenant operation).calls = s.calls ∧ (s.operate hashpw tenant operation).log = s.log := by
  cases operation with
  | create body keyId plainKey salt =>
    show (s.create tenant body _).calls = _ ∧ (s.create tenant body _).log = _
    unfold State.create
    split <;> exact ⟨rfl,rfl⟩
  | revoke keyId =>
    show (s.revoke tenant keyId).calls = _ ∧ (s.revoke tenant keyId).log = _
    unfold State.revoke
    split <;> exact ⟨rfl,rfl⟩
  | update tenantUpdate => exact ⟨rfl,rfl⟩
  | other => exact ⟨rfl,rfl⟩

theorem operate_sound (s_sound : Sound hashpw s) (c : Nat) (operation : Operation)
    (fresh : Fresh s (.operate c operation)) : Sound hashpw ((s.operate hashpw tenant operation).goto c .idle) := by
  have moved : Moved hashpw s (some tenant.tenantId) _ _ := operate_moved operation c fresh
  obtain ⟨calls,log⟩ : (s.operate hashpw tenant operation).calls = s.calls ∧ _ := operate_frame s tenant operation
  refine ⟨moved_kept s_sound.kept moved,Pending.goto ?_ c nofun,?_⟩
  · intro d apiKey keyId lookup found
    rw [calls] at found
    obtain ⟨⟨issue,member,rest⟩,alive⟩ := s_sound.pending d apiKey keyId lookup found
    exact ⟨⟨issue,moved.extends member,rest⟩,alive⟩
  · intro a member
    have before : a ∈ s.log := log ▸ member
    exact (s_sound.logged a before).extends moved.extends

theorem step_inverted (ran : step checkpw hashpw s action = some next) : Stepped checkpw hashpw s action next := by
  cases action with
  | lookup c apiKey recorded =>
    simp only [step] at ran
    split at ran
    · cases ran
      exact .lookup c apiKey recorded
    · cases ran
  | resolve c =>
    simp only [step] at ran
    split at ran
    · rename_i call
      cases ran
      exact .resolve c _ _ _ call
    · cases ran
  | signIn c tenant =>
    simp only [step] at ran
    split at ran
    · cases ran
      exact .signIn c tenant
    · cases ran
  | operate c operation =>
    simp only [step] at ran
    split at ran
    · rename_i call
      cases ran
      exact .operate c _ operation call
    · cases ran

theorem sound_preserved (sound : MadeFrom checkpw hashpw) (s_sound : Sound hashpw s) (fresh : Fresh s action)
    (stepped : Stepped checkpw hashpw s action next) : Sound hashpw next := by
  cases stepped with
  | lookup c apiKey recorded => exact lookup_sound sound s_sound c apiKey recorded
  | resolve c apiKey keyId lookup call => exact resolve_sound s_sound c call
  | signIn c tenant => exact ⟨s_sound.kept,s_sound.pending.goto c nofun,s_sound.logged⟩
  | operate c tenant operation call => exact operate_sound s_sound c operation fresh

theorem reached_sound (sound : MadeFrom checkpw hashpw) {tenants : List Tenant}
    (path : Reached (step checkpw hashpw) Fresh (.initial tenants) s) : Sound hashpw s :=
  path.invariant (Sound hashpw) (initial_sound hashpw tenants)
    fun s_sound fresh ran => sound_preserved sound s_sound fresh (step_inverted ran)

-- A step of a request moves the world as an operation of its tenant does.
theorem stepped_moved (fresh : Fresh s action) (stepped : Stepped checkpw hashpw s action next) :
    Moved hashpw s (actor s action) next.world next.issued := by
  cases stepped with
  | lookup c apiKey recorded =>
    unfold State.lookup
    split <;> exact .kept
  | resolve c apiKey keyId lookup call =>
    unfold State.resolve
    split <;> exact .kept
  | signIn c tenant => exact .kept
  | operate c tenant operation call =>
    have acts : actor s (.operate c operation) = some tenant.tenantId := by simp only [actor,call]
    rw [acts]
    exact operate_moved operation c fresh

theorem lifecycle_safe (checkpw : String → String → Bool) (hashpw : String → String → String)
    (sound : MadeFrom checkpw hashpw) (tenants : List Tenant) (s : State)
    (path : Reached (step checkpw hashpw) Fresh (.initial tenants) s) :
    (∀ a ∈ s.log, Genuine s.issued a ∧ ∀ issue ∈ s.issued, issue.plainKey = a.apiKey →
      issue.row.tenantId = some a.tenant.tenantId ∧ a.tenant.apiKeyScopes = some issue.row.scopes) ∧
    ∀ action next, Fresh s action → step checkpw hashpw s action = some next →
      ∀ issue ∈ s.issued, issue.row.tenantId ≠ actor s action →
        authenticate checkpw next.world.db issue.plainKey = authenticate checkpw s.world.db issue.plainKey ∧
          resolveTenantFromApiKey next.world.db issue.row.id = resolveTenantFromApiKey s.world.db issue.row.id := by
  have s_sound := reached_sound sound path
  constructor
  · intro a member
    have genuine := s_sound.logged a member
    refine ⟨genuine,?_⟩
    obtain ⟨owner,issued,plain,tenant,scopes,_⟩ := genuine
    intro issue also same
    rw [s_sound.kept.unique issued also (same.trans plain.symm)]
    exact ⟨tenant,scopes⟩
  · intro action next fresh ran issue member foreign
    have moved := stepped_moved fresh (step_inverted ran)
    exact ⟨moved.authenticate sound s_sound.kept member foreign,moved.resolve s_sound.kept member foreign⟩

def fresh (s : State) : Action → Bool
  | .operate _ (.create _ _ plainKey _) => !(s.issued.map (·.plainKey)).contains plainKey
  | _ => true

theorem fresh_sound (test : fresh s action = true) : Fresh s action := by
  unfold fresh at test
  split at test
  · simpa [Fresh] using test
  · rename_i other
    unfold Fresh
    split
    · exact absurd rfl (other _ _ _ _ _)
    · trivial

-- Stands for bcrypt where every salt gives the same hash.
def unsalted (plainKey _salt : String) : String := "$2b$12$" ++ plainKey

theorem unsalted_sound : MadeFrom saltless unsalted := by
  intro apiKey plainKey salt accepts
  have same : "$2b$12$" ++ plainKey = "$2b$12$" ++ apiKey := by simpa [saltless,unsalted] using accepts
  exact (String.append_right_inj _).mp same.symm

def ownerOf (tenantId : String) : TenantContext :=
  {tenantId := tenantId,tenantName := "Acme",tenantSlug := "acme",userId := some "U1",userRole := some .owner,
   source := .jwt}

def activity (active : Bool) : Operation := .update {isActive := some (some active)}

def twoTenants : List Tenant := [⟨"T1","Acme","acme",true⟩,⟨"T2","Other","other",true⟩]

-- Two tenants with a key each. The first revokes its own while both keys are
-- between their queries, and is then deactivated.
theorem lifecycle_safe_two : ∃ s : State, Reached (step saltless unsalted) Fresh (.initial twoTenants) s ∧
    (s.log.map fun a => (a.apiKey,a.tenant.tenantId)) = [("b","T2")] ∧ (∀ a ∈ s.log, Genuine s.issued a) ∧
    ∀ next, step saltless unsalted s (.operate 3 (activity false)) = some next →
      authenticate saltless next.world.db "b" = authenticate saltless s.world.db "b" := by
  have begun : Reached (step saltless unsalted) Fresh (.initial twoTenants) (.initial twoTenants) := .refl
  obtain ⟨s,path,logged,⟨issue,member,plain,owner⟩,acts⟩ := begun.found fresh
    (fun s => (s.log.map fun a => (a.apiKey,a.tenant.tenantId)) = [("b","T2")] ∧
      (∃ issue ∈ s.issued, issue.plainKey = "b" ∧ issue.row.tenantId = some "T2") ∧
      actor s (.operate 3 (activity false)) = some "T1")
    [.signIn 0 (ownerOf "T1"),.operate 0 (.create ⟨"One","T1",["admin:*"]⟩ "key-1" "a" "s1"),
     .signIn 0 (ownerOf "T2"),.operate 0 (.create ⟨"Two","T2",["spaces:read"]⟩ "key-2" "b" "s2"),
     .lookup 1 "a" fun _ => true,.lookup 2 "b" fun _ => true,.signIn 0 (ownerOf "T1"),.operate 0 (.revoke "key-1"),
     .resolve 1,.resolve 2,.signIn 3 (ownerOf "T1")]
    (fun _ test => fresh_sound test) (by decide +kernel)
  obtain ⟨genuine,frame⟩ := lifecycle_safe saltless unsalted unsalted_sound twoTenants s path
  refine ⟨s,path,logged,fun a listed => (genuine a listed).1,?_⟩
  intro next ran
  rw [←plain]
  refine (frame (.operate 3 (activity false)) next trivial ran issue member ?_).1
  rw [owner,acts]
  decide

-- The tenant is inactive when the lookup starts and is made active again before
-- the second query, by a request that had been authenticated before.
theorem authenticated_reactivated : ¬∀ (checkpw : String → String → Bool) (hashpw : String → String → String),
    MadeFrom checkpw hashpw → ∀ (tenants : List Tenant) (s : State),
      Reached (step checkpw hashpw) Fresh (.initial tenants) s → ∀ a ∈ s.log,
        ∃ owner ∈ a.lookup.db.tenants, owner.id = a.tenant.tenantId ∧ owner.isActive = true := by
  intro always
  have begun : Reached (step saltless unsalted) Fresh (.initial twoTenants) (.initial twoTenants) := .refl
  obtain ⟨s,path,a,member,inactive⟩ := begun.found fresh
    (fun s => ∃ a ∈ s.log, ¬∃ owner ∈ a.lookup.db.tenants, owner.id = a.tenant.tenantId ∧ owner.isActive = true)
    [.signIn 0 (ownerOf "T1"),.operate 0 (.create ⟨"One","T1",["admin:*"]⟩ "key-1" "a" "s1"),
     .lookup 1 "a" fun _ => true,.resolve 1,.lookup 2 "a" fun _ => true,.resolve 2,
     .operate 1 (activity false),.lookup 3 "a" fun _ => true,.operate 2 (activity true),.resolve 3]
    (fun _ test => fresh_sound test) (by decide +kernel)
  exact inactive (always saltless unsalted unsalted_sound twoTenants s path a member)

end SmartParking.Auth.KeyLifecycle
