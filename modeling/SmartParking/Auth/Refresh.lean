import Mathlib.Data.List.Sort
import SmartParking.Auth.ApiKeys
import SmartParking.Auth.Reuse
import SmartParking.Lib.Faults

namespace SmartParking.Auth.Refresh
open Lib Lib.Faults
open ApiKeys (HttpError Tenant UserRole)

inductive Site where
  | selectToken | revokeFamily | revokeToken | insertToken | selectMemberships
  deriving DecidableEq

structure Membership where
  userId : String
  tenantId : String
  role : UserRole
  isActive : Bool := true
  createdAt : Instant
  deriving DecidableEq

structure Database where
  tokens : Table
  memberships : List Membership
  tenants : List Tenant

-- The active memberships of a user in active tenants, oldest first.
def Database.tenantRows (db : Database) (userId : String) : List (Tenant × UserRole) :=
  ((db.memberships.filter fun row => row.userId == userId && row.isActive).insertionSort
      fun a b => a.createdAt ≤ b.createdAt).filterMap fun row =>
    (db.tenants.find? fun tenant => tenant.id == row.tenantId && tenant.isActive).map fun tenant => (tenant,row.role)

inductive Raised where
  | http (error : HttpError)
  | exception
  deriving DecidableEq

structure RefreshResponse where
  accessToken : String
  refreshToken : String
  tokenType : String := "bearer"
  expiresIn : Nat := 15*60
  refreshExpiresIn : Nat := 30*24*60*60
  deriving DecidableEq

-- `create_access_token`, which raises where no secret is configured.
variable (createAccessToken : String → String → UserRole → Option String)

section Rotate
variable (a : Args) (now : Instant) (newToken : String)

def createRefreshToken (userId : String) : Program Site Database Raised String := do
  let inserted ← .command .insertToken .exception fun db =>
    ({db with tokens := (db.tokens.insert userId (hashToken newToken) a.client now).1},
      (db.tokens.insert userId (hashToken newToken) a.client now).2)
  if inserted then pure newToken else .raise .exception

def revokeToken (tokenId : Nat) : Program Site Database Raised Unit :=
  .command .revokeToken .exception fun db => ({db with tokens := db.tokens.revokeToken tokenId now},())

def revokeTokenFamily (r : RefreshToken) : Program Site Database Raised Unit :=
  .command .revokeFamily .exception fun db =>
    ({db with tokens := db.tokens.revokeTokenFamily r.userId r.deviceFingerprint now},())

-- The old token is revoked before the new one is created.
def rotate (r : RefreshToken) : Program Site Database Raised (Option (String × String)) := do
  revokeToken now r.id
  let created ← createRefreshToken a now newToken r.userId
  pure (some (r.userId,created))

def detectReuse (r : RefreshToken) (revokedAt : Instant) : Program Site Database Raised (Option (String × String)) :=
  if now-revokedAt < reuseDetectionWindow then pure none
  else do
    revokeTokenFamily now r
    pure none

def judge : Option RefreshToken → Program Site Database Raised (Option (String × String))
  | none => pure none
  | some r =>
    if r.expiresAt < now then pure none
    else
      match r.revokedAt with
      | some revokedAt => detectReuse now r revokedAt
      | none => rotate a now newToken r

def validateAndRotate : Program Site Database Raised (Option (String × String)) := do
  let tokenRecord ← .command .selectToken .exception fun db => (db,db.tokens.find a.hash)
  judge a now newToken tokenRecord

end Rotate

def issue (userId refreshToken : String) : List (Tenant × UserRole) → Program Site Database Raised RefreshResponse
  | [] => .raise (.http ⟨403,"No active tenant membership found"⟩)
  | primary::_ =>
    match createAccessToken userId primary.1.id primary.2 with
    | none => .raise .exception
    | some accessToken => pure {accessToken := accessToken,refreshToken := refreshToken}

def respond : Option (String × String) → Program Site Database Raised RefreshResponse
  | none => .raise (.http ⟨401,"Invalid or expired refresh token"⟩)
  | some (userId,newRefreshToken) => do
    let tenantRows ← .command .selectMemberships .exception fun db => (db,db.tenantRows userId)
    issue createAccessToken userId newRefreshToken tenantRows

def answer : Except Raised RefreshResponse → Program Site Database HttpError RefreshResponse
  | .ok response => pure response
  | .error (.http error) => .raise error
  | .error .exception => .raise ⟨500,"Token refresh failed"⟩

section Endpoint
variable (a : Args) (now : Instant) (newToken : String)

def attemptRefresh : Program Site Database Raised RefreshResponse := do
  let rotated ← validateAndRotate a now newToken
  respond createAccessToken rotated

def refreshToken : Program Site Database HttpError RefreshResponse := do
  let result ← .attempt (attemptRefresh createAccessToken a now newToken)
  answer result

end Endpoint

open Program

variable {createAccessToken} {a : Args} {now : Instant} {newToken : String} {db : Database} {r : RefreshToken}
  {fault : Option Site}

def Database.onTokens (db : Database) (tokens : Table) : Database := {db with tokens := tokens}

-- The table after the UPDATE and the INSERT of a rotation, and whether the
-- INSERT was taken.
def rotation (t : Table) (a : Args) (now : Instant) (newToken : String) (r : RefreshToken) : Table × Bool :=
  (t.revokeToken r.id now).insert r.userId (hashToken newToken) a.client now

theorem createRefreshToken_run (healthy : fault ≠ some .insertToken) :
    createRefreshToken a now newToken userId fault db =
      (db.onTokens (db.tokens.insert userId (hashToken newToken) a.client now).1,
        if (db.tokens.insert userId (hashToken newToken) a.client now).2 then .ok newToken else .error .exception) := by
  unfold createRefreshToken
  rw [bind_ok (command_runs healthy)]
  cases (db.tokens.insert userId (hashToken newToken) a.client now).2 <;> rfl

theorem rotate_run (updated : fault ≠ some .revokeToken) (inserted : fault ≠ some .insertToken) :
    rotate a now newToken r fault db =
      (db.onTokens (rotation db.tokens a now newToken r).1,
        if (rotation db.tokens a now newToken r).2 then .ok (some (r.userId,newToken)) else .error .exception) := by
  unfold rotate revokeToken
  rw [bind_ok (command_runs updated),bind_run,createRefreshToken_run inserted]
  unfold rotation
  dsimp only
  cases ((db.tokens.revokeToken r.id now).insert r.userId (hashToken newToken) a.client now).2 <;> rfl

-- Without a failing statement, the function of the table.
theorem validateAndRotate_healthy :
    validateAndRotate a now newToken none db =
      (db.onTokens (db.tokens.validateAndRotate a now newToken).1,
        (db.tokens.validateAndRotate a now newToken).2.mapError fun _ => .exception) := by
  unfold validateAndRotate Table.validateAndRotate
  rw [bind_ok command_none]
  cases db.tokens.find a.hash with
  | none => rfl
  | some r =>
    dsimp only
    by_cases expired : r.expiresAt < now
    · simp only [judge,expired,if_true]
      rfl
    · cases revoked : r.revokedAt with
      | some revokedAt =>
        by_cases recent : now-revokedAt < reuseDetectionWindow
        · simp only [judge,expired,revoked,detectReuse,recent,if_true,if_false]
          rfl
        · simp only [judge,expired,revoked,detectReuse,recent,if_false]
          rfl
      | none =>
        simp only [judge,expired,revoked,if_false]
        rw [rotate_run (by simp) (by simp)]
        unfold rotation
        cases ((db.tokens.revokeToken r.id now).insert r.userId (hashToken newToken) a.client now).2 <;> rfl

theorem live_fields (valid : r.live now = true) : r.revokedAt = none ∧ ¬r.expiresAt < now := by
  simp only [RefreshToken.live,Bool.and_eq_true,Option.isNone_iff_eq_none,decide_eq_true_eq] at valid
  exact ⟨valid.1,Int.not_lt.mpr valid.2⟩

theorem validateAndRotate_valid (found : db.tokens.find a.hash = some r) (valid : r.live now = true)
    (selected : fault ≠ some .selectToken) :
    validateAndRotate a now newToken fault db = rotate a now newToken r fault db := by
  obtain ⟨unrevoked,unexpired⟩ := live_fields valid
  unfold validateAndRotate
  rw [bind_ok (command_runs selected),found]
  simp only [judge,unexpired,unrevoked,if_false]

theorem live_of_revoked {t : Table} (found : t.find a.hash = some r) (revoked : r.revokedAt.isSome) :
    t.live a.hash now = false := by
  have stamped : r.revokedAt.isNone = false := Option.isNone_eq_false_iff.mpr revoked
  simp [Table.live,found,RefreshToken.live,stamped]

-- Whatever becomes of the INSERT, the old token is gone once the UPDATE is made.
theorem rotate_revokes (found : db.tokens.find a.hash = some r) (updated : fault ≠ some .revokeToken) :
    (rotate a now newToken r fault db).1.tokens.live a.hash now = false := by
  obtain ⟨row,stamped,revoked⟩ := db.tokens.revokeToken_revokes now found rfl
  by_cases lost : fault = some .insertToken
  · subst fault
    unfold rotate revokeToken createRefreshToken
    rw [bind_ok (command_runs updated),bind_error (bind_error command_fails)]
    exact live_of_revoked stamped revoked
  · rw [rotate_run updated lost]
    exact live_of_revoked (Table.insert_find stamped) revoked

theorem issue_keeps (userId refreshToken : String) (rows : List (Tenant × UserRole)) :
    Keeps Database.tokens (issue createAccessToken userId refreshToken rows) := by
  unfold issue
  repeat' split
  all_goals first | exact keeps_raise _ | exact keeps_pure _

theorem respond_keeps (rotated : Option (String × String)) : Keeps Database.tokens (respond createAccessToken rotated) := by
  unfold respond
  split
  · exact keeps_raise _
  · exact keeps_bind (keeps_command fun _ => rfl) fun rows => issue_keeps _ _ rows

theorem answer_keeps (result : Except Raised RefreshResponse) : Keeps Database.tokens (answer result) := by
  unfold answer
  split
  all_goals first | exact keeps_raise _ | exact keeps_pure _

theorem refreshToken_tokens :
    (refreshToken createAccessToken a now newToken fault db).1.tokens =
      (validateAndRotate a now newToken fault db).1.tokens := by
  unfold refreshToken
  rw [bind_ok attempt_run]
  refine (answer_keeps _ fault _).trans ?_
  unfold attemptRefresh
  rw [bind_run]
  split
  · rename_i ran
    rw [respond_keeps _ fault _,ran]
  · rename_i ran
    rw [ran]

-- The presented token is lost exactly when its UPDATE is made.
theorem refreshToken_live (found : db.tokens.find a.hash = some r) (valid : r.live now = true) :
    (refreshToken createAccessToken a now newToken fault db).1.tokens.live a.hash now = true ↔
      fault = some .selectToken ∨ fault = some .revokeToken := by
  have live : db.tokens.live a.hash now = true := by
    rw [Table.live,found]
    exact valid
  rw [refreshToken_tokens]
  by_cases selected : fault = some .selectToken
  · refine iff_of_true ?_ (.inl selected)
    subst fault
    unfold validateAndRotate
    rw [bind_error command_fails]
    exact live
  · rw [validateAndRotate_valid found valid selected]
    by_cases updated : fault = some .revokeToken
    · refine iff_of_true ?_ (.inr updated)
      subst fault
      unfold rotate revokeToken
      rw [bind_error command_fails]
      exact live
    · rw [rotate_revokes found updated]
      simp [selected,updated]

theorem rotation_taken (t : Table) (a : Args) (now : Instant) (newToken : String) (r : RefreshToken) :
    (rotation t a now newToken r).2 = true ↔ t.find (hashToken newToken) = none := by
  have stamped : (t.revokeToken r.id now).find (hashToken newToken) = none ↔ t.find (hashToken newToken) = none := by
    rw [Table.revokeToken,Table.find_stamp,Option.map_eq_none_iff]
  rw [← stamped]
  unfold rotation Table.insert
  split <;> simp_all

-- The user has an active membership, and the access token can be signed.
def Admitted (createAccessToken : String → String → UserRole → Option String) (db : Database) (userId : String) : Prop :=
  ∃ primary rest accessToken, db.tenantRows userId = primary::rest ∧
    createAccessToken userId primary.1.id primary.2 = some accessToken

theorem issue_returns (userId refreshToken : String) (rows : List (Tenant × UserRole)) :
    (∃ response, (issue createAccessToken userId refreshToken rows fault db).2 = .ok response) ↔
      ∃ primary rest accessToken, rows = primary::rest ∧
        createAccessToken userId primary.1.id primary.2 = some accessToken := by
  cases rows with
  | nil => simp [issue]
  | cons primary rest =>
    cases signed : createAccessToken userId primary.1.id primary.2 with
    | none => simp [issue,signed]
    | some accessToken => simp [issue,signed]

theorem respond_returns (userId refreshToken : String) :
    (∃ response, (respond createAccessToken (some (userId,refreshToken)) fault db).2 = .ok response) ↔
      fault ≠ some .selectMemberships ∧ Admitted createAccessToken db userId := by
  simp only [respond]
  by_cases lost : fault = some .selectMemberships
  · subst fault
    rw [bind_error command_fails]
    simp
  · rw [bind_ok (command_runs lost),issue_returns]
    exact (and_iff_right lost).symm

theorem answer_returns (result : Except Raised RefreshResponse) :
    (∃ response, (answer result fault db).2 = .ok response) ↔ ∃ response, result = .ok response := by
  cases result with
  | ok response => simp [answer]
  | error raised => cases raised <;> simp [answer]

theorem rotate_returns : (∃ rotated, (rotate a now newToken r fault db).2 = .ok rotated) ↔
    fault ≠ some .revokeToken ∧ fault ≠ some .insertToken ∧ db.tokens.find (hashToken newToken) = none := by
  by_cases updated : fault = some .revokeToken
  · subst fault
    unfold rotate revokeToken
    rw [bind_error command_fails]
    simp
  · by_cases inserted : fault = some .insertToken
    · subst fault
      unfold rotate revokeToken createRefreshToken
      rw [bind_ok (command_runs updated),bind_error (bind_error command_fails)]
      simp
    · rw [rotate_run updated inserted,← rotation_taken db.tokens a now newToken r]
      cases (rotation db.tokens a now newToken r).2 <;> simp [updated,inserted]

theorem rotate_answer (returned : (rotate a now newToken r fault db).2 = .ok rotated) :
    rotated = some (r.userId,newToken) ∧ ∀ userId, (rotate a now newToken r fault db).1.tenantRows userId =
      db.tenantRows userId := by
  obtain ⟨updated,inserted,_⟩ := rotate_returns.mp ⟨rotated,returned⟩
  rw [rotate_run updated inserted] at returned ⊢
  dsimp only at returned
  split at returned
  · cases returned
    exact ⟨rfl,fun _ => rfl⟩
  · cases returned

-- A valid token is exchanged for a new one exactly when no statement fails, the
-- new token is unused and the user is let in.
theorem refreshToken_returns (found : db.tokens.find a.hash = some r) (valid : r.live now = true)
    (selected : fault ≠ some .selectToken) :
    (∃ response, (refreshToken createAccessToken a now newToken fault db).2 = .ok response) ↔
      fault ≠ some .revokeToken ∧ fault ≠ some .insertToken ∧ fault ≠ some .selectMemberships ∧
        db.tokens.find (hashToken newToken) = none ∧ Admitted createAccessToken db r.userId := by
  unfold refreshToken
  rw [bind_ok attempt_run,answer_returns]
  unfold attemptRefresh
  rw [bind_returns,validateAndRotate_valid found valid selected]
  constructor
  · intro answered
    obtain ⟨rotated,returned,responded⟩ := answered
    obtain ⟨updated,inserted,fresh⟩ := rotate_returns.mp ⟨rotated,returned⟩
    obtain ⟨rfl,rows⟩ := rotate_answer returned
    obtain ⟨joined,admitted⟩ := (respond_returns _ _).mp responded
    rw [Admitted,rows] at admitted
    exact ⟨updated,inserted,joined,fresh,admitted⟩
  · intro healthy
    obtain ⟨updated,inserted,joined,fresh,admitted⟩ := healthy
    obtain ⟨rotated,returned⟩ := rotate_returns.mpr ⟨updated,inserted,fresh⟩
    obtain ⟨rfl,rows⟩ := rotate_answer returned
    refine ⟨_,returned,(respond_returns _ _).mpr ⟨joined,?_⟩⟩
    rw [Admitted,rows]
    exact admitted

-- A refresh without a new token costs the old one, unless the call gets no
-- further than its UPDATE.
theorem failed_refresh_costs_nothing (found : db.tokens.find a.hash = some r) (valid : r.live now = true)
    (createAccessToken : String → String → UserRole → Option String) (newToken : String) (fault : Option Site) :
    ((¬∃ response, (refreshToken createAccessToken a now newToken fault db).2 = .ok response) →
      (refreshToken createAccessToken a now newToken fault db).1.tokens.live a.hash now = true) ↔
    fault = some .selectToken ∨ fault = some .revokeToken ∨
      (fault ≠ some .insertToken ∧ fault ≠ some .selectMemberships ∧
        db.tokens.find (hashToken newToken) = none ∧ Admitted createAccessToken db r.userId) := by
  rw [refreshToken_live found valid]
  by_cases selected : fault = some .selectToken
  · simp [selected]
  · by_cases updated : fault = some .revokeToken
    · simp [updated]
    · rw [refreshToken_returns found valid selected]
      simp [selected,updated]

def oneToken : RefreshToken := ⟨1,"user-1",hashToken "token-1",none,none,none,0,expiryDays,none⟩

-- A user with one token, who is a member of one tenant or no longer is.
def oneUser (isActive : Bool) : Database where
  tokens := (Table.empty.insert "user-1" (hashToken "token-1") {} 0).1
  memberships := [⟨"user-1","T1",.viewer,isActive,0⟩]
  tenants := [⟨"T1","Acme","acme",true⟩]

def signed (userId tenantId : String) (role : UserRole) : Option String :=
  some (userId ++ "." ++ tenantId ++ "." ++ role.value)

-- The UPDATE fails: the answer is an error and the token stays.
theorem failed_refresh_costs_nothing_unrevoked :
    (oneUser true).tokens.find (Args.hash ⟨"token-1",{}⟩) = some oneToken ∧ oneToken.live minute = true ∧
    (((¬∃ response, (refreshToken signed ⟨"token-1",{}⟩ minute "token-2" (some .revokeToken) (oneUser true)).2 =
        .ok response) →
      (refreshToken signed ⟨"token-1",{}⟩ minute "token-2" (some .revokeToken) (oneUser true)).1.tokens.live
        (Args.hash ⟨"token-1",{}⟩) minute = true) ↔
    (some Site.revokeToken = some .selectToken ∨ some Site.revokeToken = some .revokeToken ∨
      (some Site.revokeToken ≠ some .insertToken ∧ some Site.revokeToken ≠ some .selectMemberships ∧
        (oneUser true).tokens.find (hashToken "token-2") = none ∧ Admitted signed (oneUser true) oneToken.userId))) := by
  have found : (oneUser true).tokens.find (Args.hash ⟨"token-1",{}⟩) = some oneToken := by decide +kernel
  have valid : oneToken.live minute = true := by decide
  exact ⟨found,valid,failed_refresh_costs_nothing found valid signed "token-2" (some .revokeToken)⟩

-- The user is told that there is no active membership, and has no token left.
theorem refused_refresh_costs_token : ¬∀ (createAccessToken : String → String → UserRole → Option String) (db : Database)
    (a : Args) (r : RefreshToken) (now : Instant) (newToken : String) (fault : Option Site),
    db.tokens.find a.hash = some r → r.live now = true →
    (¬∃ response, (refreshToken createAccessToken a now newToken fault db).2 = .ok response) →
      (refreshToken createAccessToken a now newToken fault db).1.tokens.live a.hash now = true := by
  intro always
  have refused : (refreshToken signed ⟨"token-1",{}⟩ minute "token-2" none (oneUser false)).2 =
      .error ⟨403,"No active tenant membership found"⟩ := by decide +kernel
  have kept := always signed (oneUser false) ⟨"token-1",{}⟩ oneToken minute "token-2" none (by decide +kernel)
    (by decide) (by rw [refused]; simp)
  revert kept
  decide +kernel

end SmartParking.Auth.Refresh
