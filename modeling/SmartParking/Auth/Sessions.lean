import SmartParking.Auth.Login
import SmartParking.Auth.Refresh
import SmartParking.Auth.Rotation

namespace SmartParking.Auth.Sessions
open Lib Lib.Runs
open ApiKeys (UserRole TenantContext HttpError)
open CurrentTenant (parseRole getCurrentTenant)
open Registration (Row UserRow TenantRow)
open Login

-- DELETE FROM refresh_tokens WHERE expires_at < NOW()
def cleanup (t : Table) (now : Instant) : Table where
  rows := t.rows.filter fun row => !decide (row.expiresAt < now)
  serial := t.serial
  assigned row member := t.assigned row (List.mem_of_mem_filter member)
  primaryKey := t.primaryKey.sublist (List.filter_sublist.map _)
  tokenHash := t.tokenHash.sublist (List.filter_sublist.map _)

-- An access token that has been made: for whom, and when.
structure Issue where
  userId : String
  tenantId : String
  role : UserRole
  time : Instant
  deriving DecidableEq

-- A login between two statements, each constructor with what the code has read
-- so far. The access token is there before the refresh token is stored.
inductive LoginPc where
  | select (loginReq : LoginRequest) (client : Client)
  | tenants (client : Client) (user : UserRow)
  | insert (client : Client) (user : UserRow) (issue : Issue) (tenantRows : List (TenantRow × String))
  | touch (issue : Issue) (response : LoginResponse)
  | answered (result : Except HttpError LoginResponse)
  deriving DecidableEq

section Code

variable (strLower : String → String) (checkpw : String → String → Bool) (encode : Payload → String) (zone : Instant)

def Issue.token (issue : Issue) : String := createAccessToken encode zone issue.time issue.userId issue.tenantId issue.role

def selectUser (rows : List Row) (loginReq : LoginRequest) (client : Client) : LoginPc :=
  match (usersOf rows).find? (·.email == strLower loginReq.email) with
  | none => .answered (.error ⟨401,"Invalid email or password"⟩)
  | some user =>
    if !user.isActive then .answered (.error ⟨403,"Account is inactive. Please contact support."⟩)
    else if !checkpw loginReq.password user.passwordHash then .answered (.error ⟨401,"Invalid email or password"⟩)
    else .tenants client user

def selectTenants (rows : List Row) (now : Instant) (client : Client) (user : UserRow) : LoginPc :=
  match tenantRows rows user.id with
  | [] => .answered (.error ⟨403,"No active tenant membership found"⟩)
  | primary::others =>
    match parseRole primary.2 with
    | none => .answered (.error loginFailed)
    | some role => .insert client user ⟨user.id,primary.1.id,role,now⟩ (primary::others)

def loginResponse (now : Instant) (user : UserRow) (issue : Issue) (tenantRows : List (TenantRow × String))
    (newToken : String) : LoginResponse :=
  {accessToken := issue.token encode zone,refreshToken := newToken,user := userOf user now,tenants := tenantRows.map entryOf}

def advanceLogin (rows : List Row) (tokens : Table) (now : Instant) (newToken : String) : LoginPc → Option (Table × LoginPc)
  | .select loginReq client => some (tokens,selectUser strLower checkpw rows loginReq client)
  | .tenants client user => some (tokens,selectTenants rows now client user)
  | .insert client user issue tenantRows =>
    let inserted := tokens.insert user.id (hashToken newToken) client now
    some (inserted.1,
      if inserted.2 then .touch issue (loginResponse encode zone now user issue tenantRows newToken)
      else .answered (.error loginFailed))
  | .touch _ response => some (tokens,.answered (.ok response))
  | .answered _ => none

-- A login whose statements nothing comes between is the endpoint.
def runLogin (rows : List Row) (now : Instant) (newToken : String) : Nat → Table × LoginPc → Table × LoginPc
  | 0,at' => at'
  | fuel+1,at' =>
    match advanceLogin strLower checkpw encode zone rows at'.1 now newToken at'.2 with
    | none => at'
    | some next => runLogin rows now newToken fuel next

theorem login_statements (rows : List Row) (tokens : Table) (loginReq : LoginRequest) (client : Client) (now : Instant)
    (newToken : String) :
    runLogin strLower checkpw encode zone rows now newToken 4 (tokens,.select loginReq client) =
      ((login strLower checkpw encode zone rows tokens loginReq client now newToken).1,
        .answered (login strLower checkpw encode zone rows tokens loginReq client now newToken).2) := by
  unfold login authenticate
  rw [runLogin,advanceLogin]
  dsimp only
  unfold selectUser
  cases (usersOf rows).find? (·.email == strLower loginReq.email) with
  | none => rfl
  | some user =>
    dsimp only
    by_cases active : user.isActive = true
    · by_cases right : checkpw loginReq.password user.passwordHash = true
      · simp only [active,right,Bool.not_true,Bool.false_eq_true,if_false]
        rw [runLogin,advanceLogin]
        dsimp only
        unfold selectTenants
        cases tenantRows rows user.id with
        | nil => rfl
        | cons primary others =>
          dsimp only
          cases parseRole primary.2 with
          | none => rfl
          | some role =>
            rw [runLogin,advanceLogin]
            dsimp only
            by_cases stored : (tokens.insert user.id (hashToken newToken) client now).2 = true
            · simp only [stored,if_true]
              rfl
            · simp only [stored]
              rfl
      · simp only [active,right,Bool.not_true,Bool.false_eq_true,if_false,Bool.not_false,if_true]
        rfl
    · simp only [active,Bool.not_false,if_true]
      rfl

-- What the refresh endpoint makes of the rows once it has rotated.
def refreshed (rows : List Row) (now : Instant) (userId : String) : Except HttpError Issue :=
  match tenantRows rows userId with
  | [] => .error ⟨403,"No active tenant membership found"⟩
  | primary::_ =>
    match parseRole primary.2 with
    | none => .error ⟨500,"Token refresh failed"⟩
    | some role => .ok ⟨userId,primary.1.id,role,now⟩

-- What has happened to the sessions of a user: a password was verified, a
-- refresh token found valid, a refresh token stored. Nothing reads it.
inductive Event where
  | verified (loginReq : LoginRequest) (user : UserRow) (time : Instant)
  | checked (userId : String) (time : Instant)
  | created (userId : String) (time : Instant)

-- `responded` are the refresh calls that have gone on from their rotation, and
-- `issued` the access tokens handed out.
structure State where
  auth : Auth.State
  rows : List Row
  logins : List LoginPc
  responded : List Nat
  log : List Event
  issued : List Issue

def State.initial (rows : List Row) (clock : Instant) : State := ⟨.initial .empty clock,rows,[],[],[],[]⟩

def rotationEvents (now : Instant) : Pc → Pc → List Event
  | .fetched _ r,.revoke .. => [.checked r.userId now]
  | .insert _ userId,.returned .. => [.created userId now]
  | _,_ => []

def loginEvents (now : Instant) : LoginPc → LoginPc → List Event
  | .select loginReq _,.tenants _ user => [.verified loginReq user now]
  | .insert _ user _ _,.touch .. => [.created user.id now]
  | _,_ => []

def loginIssues : LoginPc → LoginPc → List Issue
  | .touch issue _,.answered (.ok _) => [issue]
  | _,_ => []

-- `rotation` is a step of the refresh calls or of the clock, `change` what any
-- other request makes of the rows.
inductive Action where
  | rotation (action : Auth.Action)
  | respond (c : Nat)
  | signIn (loginReq : LoginRequest) (client : Client)
  | login (i : Nat) (newToken : String)
  | failLogin (i : Nat)
  | change (rows : List Row)
  | cleanup

def rotate (s : State) : Auth.Action → Option State
  | .login .. => none
  | .run c newToken => (Auth.step s.auth (.run c newToken)).map fun next =>
    {s with auth := next,log := s.log ++ rotationEvents s.auth.clock (s.auth.calls c) (next.calls c)}
  | action => (Auth.step s.auth action).map fun next => {s with auth := next}

def step (s : State) : Action → Option State
  | .rotation action => rotate s action
  | .respond c =>
    match s.auth.calls c with
    | .returned _ (some (userId,_)) =>
      if s.responded.contains c then none
      else some {s with
        responded := c::s.responded
        issued := s.issued ++ (refreshed s.rows s.auth.clock userId).toOption.toList}
    | _ => none
  | .signIn loginReq client => some {s with logins := s.logins ++ [.select loginReq client]}
  | .login i newToken => do
    let pc ← s.logins[i]?
    let (table,after) ← advanceLogin strLower checkpw encode zone s.rows s.auth.table s.auth.clock newToken pc
    return {s with
      auth := {s.auth with table}
      logins := s.logins.set i after
      log := s.log ++ loginEvents s.auth.clock pc after
      issued := s.issued ++ loginIssues pc after}
  | .failLogin i => do
    let pc ← s.logins[i]?
    match pc with
    | .answered _ => none
    | _ => return {s with logins := s.logins.set i (.answered (.error loginFailed))}
  | .change rows => some {s with rows}
  | .cleanup => some {s with auth := {s.auth with table := Sessions.cleanup s.auth.table s.auth.clock}}

end Code

-- A refresh token of a user: stored after the user's password was verified, or
-- after an earlier one was found valid within 30 days of its creation.
inductive Chain (strLower : String → String) (checkpw : String → String → Bool) (log : List Event) : String → Instant → Prop where
  | login : .verified loginReq user verified ∈ log → user.email = strLower loginReq.email → user.isActive = true →
      checkpw loginReq.password user.passwordHash = true → verified ≤ time → .created user.id time ∈ log →
      Chain strLower checkpw log user.id time
  | renewal : Chain strLower checkpw log userId earlier → earlier ≤ checked → checked ≤ earlier+expiryDays →
      .checked userId checked ∈ log → checked ≤ time → .created userId time ∈ log → Chain strLower checkpw log userId time

-- What an access token may be made from.
inductive Rooted (strLower : String → String) (checkpw : String → String → Bool) (log : List Event) (userId : String)
    (time : Instant) : Prop where
  | login : .verified loginReq user verified ∈ log → user.id = userId → user.email = strLower loginReq.email →
      user.isActive = true → checkpw loginReq.password user.passwordHash = true → verified ≤ time →
      Rooted strLower checkpw log userId time
  | refresh : Chain strLower checkpw log userId created → created ≤ time → Rooted strLower checkpw log userId time

variable {strLower : String → String} {checkpw : String → String → Bool} {encode : Payload → String} {zone now later : Instant}
  {log more : List Event} {userId : String} {time : Instant} {s next : State} {pc after : Pc} {r : RefreshToken}

theorem Chain.mono (chain : Chain strLower checkpw log userId time) (sub : log ⊆ more) :
    Chain strLower checkpw more userId time := by
  induction chain with
  | login verified email active right before created => exact .login (sub verified) email active right before (sub created)
  | renewal _ after' within checked before created ih => exact .renewal ih after' within (sub checked) before (sub created)

theorem Rooted.mono (rooted : Rooted strLower checkpw log userId time) (sub : log ⊆ more) :
    Rooted strLower checkpw more userId time := by
  cases rooted with
  | login verified own email active right before => exact .login (sub verified) own email active right before
  | refresh chain before => exact .refresh (chain.mono sub) before

-- A row of the table, and what a refresh call that found it valid goes on from.
structure Held (strLower : String → String) (checkpw : String → String → Bool) (log : List Event) (now : Instant)
    (row : RefreshToken) : Prop where
  chain : Chain strLower checkpw log row.userId row.createdAt
  expires : row.expiresAt = row.createdAt+expiryDays
  past : row.createdAt ≤ now

def Renewing (strLower : String → String) (checkpw : String → String → Bool) (log : List Event) (now : Instant)
    (userId : String) : Prop :=
  ∃ earlier checked, Chain strLower checkpw log userId earlier ∧ earlier ≤ checked ∧ checked ≤ earlier+expiryDays ∧
    .checked userId checked ∈ log ∧ checked ≤ now

def Traced (strLower : String → String) (checkpw : String → String → Bool) (log : List Event) (now : Instant) : Pc → Prop
  | .fetched _ r => Held strLower checkpw log now r
  | .revoke _ r => Renewing strLower checkpw log now r.userId
  | .insert _ userId => Renewing strLower checkpw log now userId
  | .returned _ (some (userId,_)) => ∃ created, Chain strLower checkpw log userId created ∧ created ≤ now
  | _ => True

-- A password that has been verified for a user by a time.
def Verification (strLower : String → String) (checkpw : String → String → Bool) (log : List Event) (now : Instant)
    (userId : String) : Prop :=
  ∃ loginReq user verified, .verified loginReq user verified ∈ log ∧ user.id = userId ∧
    user.email = strLower loginReq.email ∧ user.isActive = true ∧ checkpw loginReq.password user.passwordHash = true ∧
    verified ≤ now

def LoginTraced (strLower : String → String) (checkpw : String → String → Bool) (log : List Event) (now : Instant) : LoginPc → Prop
  | .tenants _ user => Verification strLower checkpw log now user.id
  | .insert _ user issue _ => Verification strLower checkpw log now user.id ∧
      Rooted strLower checkpw log issue.userId issue.time
  | .touch issue _ => Rooted strLower checkpw log issue.userId issue.time
  | .select .. | .answered _ => True

structure Sound (strLower : String → String) (checkpw : String → String → Bool) (s : State) : Prop where
  rows : ∀ row ∈ s.auth.table.rows, Held strLower checkpw s.log s.auth.clock row
  calls : ∀ c, Traced strLower checkpw s.log s.auth.clock (s.auth.calls c)
  logins : ∀ pc ∈ s.logins, LoginTraced strLower checkpw s.log s.auth.clock pc
  issued : ∀ issue ∈ s.issued, Rooted strLower checkpw s.log issue.userId issue.time

theorem Held.mono (held : Held strLower checkpw log now r) (sub : log ⊆ more) (passed : now ≤ later) :
    Held strLower checkpw more later r :=
  ⟨held.chain.mono sub,held.expires,held.past.trans passed⟩

theorem Renewing.mono (renewing : Renewing strLower checkpw log now userId) (sub : log ⊆ more) (passed : now ≤ later) :
    Renewing strLower checkpw more later userId := by
  obtain ⟨earlier,checked,chain,after',within,logged,before⟩ := renewing
  exact ⟨earlier,checked,chain.mono sub,after',within,sub logged,before.trans passed⟩

theorem Verification.mono (verification : Verification strLower checkpw log now userId) (sub : log ⊆ more)
    (passed : now ≤ later) : Verification strLower checkpw more later userId := by
  obtain ⟨loginReq,user,verified,logged,own,email,active,right,before⟩ := verification
  exact ⟨loginReq,user,verified,sub logged,own,email,active,right,before.trans passed⟩

theorem Traced.mono (traced : Traced strLower checkpw log now pc) (sub : log ⊆ more) (passed : now ≤ later) :
    Traced strLower checkpw more later pc := by
  cases pc with
  | fetched => exact Held.mono traced sub passed
  | revoke | insert => exact Renewing.mono traced sub passed
  | returned a answer =>
    cases answer with
    | none => trivial
    | some pair =>
      obtain ⟨created,chain,before⟩ := traced
      exact ⟨created,chain.mono sub,before.trans passed⟩
  | _ => trivial

theorem LoginTraced.mono {pc : LoginPc} (traced : LoginTraced strLower checkpw log now pc) (sub : log ⊆ more)
    (passed : now ≤ later) : LoginTraced strLower checkpw more later pc := by
  cases pc with
  | tenants => exact Verification.mono traced sub passed
  | insert => exact ⟨traced.1.mono sub passed,traced.2.mono sub⟩
  | touch => exact Rooted.mono traced sub
  | _ => trivial

theorem initial_sound (rows : List Row) (clock : Instant) : Sound strLower checkpw (.initial rows clock) :=
  ⟨fun _ member => absurd member List.not_mem_nil,fun _ => trivial,fun _ member => absurd member List.not_mem_nil,
    fun _ member => absurd member List.not_mem_nil⟩

theorem Held.stamp (held : Held strLower checkpw log now r) (marked : Bool) (at' : Instant) :
    Held strLower checkpw log now (r.stamp marked at') := by
  cases marked with
  | false => exact held
  | true => exact ⟨held.chain,held.expires,held.past⟩

theorem stamp_held {t : Table} (held : ∀ row ∈ t.rows, Held strLower checkpw log now row) (mark : RefreshToken → Bool)
    (at' : Instant) : ∀ row ∈ (t.stamp mark at').rows, Held strLower checkpw log now row := by
  intro row member
  obtain ⟨old,present,rfl⟩ := List.mem_map.mp member
  exact (held old present).stamp _ _

theorem family_held {t : Table} (held : ∀ row ∈ t.rows, Held strLower checkpw log now row) (fingerprint : Option String)
    (at' : Instant) : ∀ row ∈ (t.revokeTokenFamily userId fingerprint at').rows, Held strLower checkpw log now row := by
  obtain ⟨mark,stamps,_⟩ := t.revokeTokenFamily_marks userId fingerprint at'
  rw [stamps]
  exact stamp_held held mark at'

-- An INSERT leaves the rows alone unless it says that it has stored the token.
theorem insert_held {t : Table} {hash : String} {client : Client} (held : ∀ row ∈ t.rows, Held strLower checkpw log now row)
    (stored : (t.insert userId hash client now).2 = true → Chain strLower checkpw log userId now) :
    ∀ row ∈ (t.insert userId hash client now).1.rows, Held strLower checkpw log now row := by
  unfold Table.insert at stored ⊢
  split at stored
  · rename_i fresh
    rw [dif_pos fresh]
    intro row member
    rcases List.mem_append.mp member with old | new
    · exact held row old
    · cases List.mem_singleton.mp new
      exact ⟨stored rfl,rfl,Int.le_refl _⟩
  · rename_i taken
    rw [dif_neg taken]
    exact held

theorem check_traced {a : Args} (held : Held strLower checkpw log now r) :
    Traced strLower checkpw (log ++ rotationEvents now (.fetched a r) (check a r now)) now (check a r now) := by
  unfold check
  split
  · trivial
  · rename_i unexpired
    split
    · split <;> trivial
    · have within : now ≤ r.createdAt+expiryDays := by
        rw [←held.expires]
        exact Int.not_lt.mp unexpired
      exact ⟨r.createdAt,now,held.chain.mono (List.subset_append_left ..),held.past,within,
        List.mem_append_right _ (List.mem_singleton.mpr rfl),Int.le_refl _⟩

theorem Renewing.created (renewing : Renewing strLower checkpw log now userId) (sub : log ⊆ more)
    (logged : .created userId now ∈ more) : Chain strLower checkpw more userId now := by
  obtain ⟨earlier,checked,chain,after',within,found,before⟩ := renewing
  exact .renewal (chain.mono sub) after' within (sub found) before logged

theorem Verification.created {user : UserRow} (verification : Verification strLower checkpw log now user.id) (sub : log ⊆ more)
    (logged : .created user.id now ∈ more) : Chain strLower checkpw more user.id now := by
  obtain ⟨loginReq,row,verified,found,own,email,active,right,before⟩ := verification
  rw [←own] at logged ⊢
  exact .login (sub found) email active right before logged

-- One statement of a refresh call.
theorem advance_traced {t table : Table} {newToken : String} (ran : advance t now newToken pc = some (table,after))
    (held : ∀ row ∈ t.rows, Held strLower checkpw log now row) (traced : Traced strLower checkpw log now pc) :
    (∀ row ∈ table.rows, Held strLower checkpw (log ++ rotationEvents now pc after) now row) ∧
      Traced strLower checkpw (log ++ rotationEvents now pc after) now after := by
  have sub : log ⊆ log ++ rotationEvents now pc after := List.subset_append_left ..
  have kept : ∀ row ∈ t.rows, Held strLower checkpw (log ++ rotationEvents now pc after) now row :=
    fun row member => (held row member).mono sub (Int.le_refl _)
  cases pc with
  | idle => cases ran
  | returned => cases ran
  | raised => cases ran
  | select a =>
    unfold advance at ran
    dsimp only at ran
    split at ran
    · cases ran
      exact ⟨kept,trivial⟩
    · rename_i found
      cases ran
      exact ⟨kept,kept _ (List.mem_of_find?_eq_some found)⟩
  | fetched a r =>
    cases ran
    exact ⟨kept,check_traced traced⟩
  | family a r =>
    cases ran
    exact ⟨family_held kept _ _,trivial⟩
  | revoke a r =>
    cases ran
    exact ⟨stamp_held kept _ _,Renewing.mono traced sub (Int.le_refl _)⟩
  | insert a userId =>
    simp only [advance,Option.some.injEq,Prod.mk.injEq] at ran
    obtain ⟨rfl,same⟩ := ran
    by_cases stored : (t.insert userId (hashToken newToken) a.client now).2 = true
    · rw [if_pos stored] at same
      cases same
      have chain := Renewing.created traced sub (List.mem_append_right _ (List.mem_singleton.mpr rfl))
      exact ⟨insert_held kept fun _ => chain,now,chain,Int.le_refl _⟩
    · rw [if_neg stored] at same
      cases same
      exact ⟨insert_held kept fun yes => absurd yes stored,trivial⟩

-- One statement of a login.
theorem selectUser_traced {rows : List Row} {loginReq : LoginRequest} {client : Client} {after : LoginPc}
    (ran : selectUser strLower checkpw rows loginReq client = after) :
    LoginTraced strLower checkpw (log ++ loginEvents now (.select loginReq client) after) now after := by
  unfold selectUser at ran
  split at ran
  · cases ran
    trivial
  · rename_i found
    have same := List.find?_some found
    rw [beq_iff_eq] at same
    split at ran
    · cases ran
      trivial
    · rename_i active
      split at ran
      · cases ran
        trivial
      · rename_i right
        cases ran
        exact ⟨loginReq,_,now,List.mem_append_right _ (List.mem_singleton.mpr rfl),rfl,same,by simpa using active,
          by simpa using right,Int.le_refl _⟩

theorem selectTenants_traced {rows : List Row} {client : Client} {user : UserRow} {after : LoginPc}
    (ran : selectTenants rows now client user = after) (verification : Verification strLower checkpw log now user.id) :
    LoginTraced strLower checkpw log now after := by
  unfold selectTenants at ran
  split at ran
  · cases ran
    trivial
  · split at ran
    · cases ran
      trivial
    · cases ran
      refine ⟨verification,?_⟩
      obtain ⟨loginReq,row,verified,found,own,email,active,right,before⟩ := verification
      exact .login found own email active right before

theorem advanceLogin_traced {rows : List Row} {t table : Table} {newToken : String} {pc after : LoginPc}
    (ran : advanceLogin strLower checkpw encode zone rows t now newToken pc = some (table,after))
    (held : ∀ row ∈ t.rows, Held strLower checkpw log now row) (traced : LoginTraced strLower checkpw log now pc) :
    (∀ row ∈ table.rows, Held strLower checkpw (log ++ loginEvents now pc after) now row) ∧
      LoginTraced strLower checkpw (log ++ loginEvents now pc after) now after ∧
      ∀ issue ∈ loginIssues pc after, Rooted strLower checkpw (log ++ loginEvents now pc after) issue.userId issue.time := by
  have sub : log ⊆ log ++ loginEvents now pc after := List.subset_append_left ..
  have kept : ∀ row ∈ t.rows, Held strLower checkpw (log ++ loginEvents now pc after) now row :=
    fun row member => (held row member).mono sub (Int.le_refl _)
  cases pc with
  | answered => cases ran
  | select loginReq client =>
    cases ran
    exact ⟨kept,selectUser_traced rfl,fun _ member => absurd member List.not_mem_nil⟩
  | tenants client user =>
    cases ran
    exact ⟨kept,selectTenants_traced rfl (Verification.mono traced sub (Int.le_refl _)),
      fun _ member => absurd member List.not_mem_nil⟩
  | insert client user issue tenantRows =>
    simp only [advanceLogin,Option.some.injEq,Prod.mk.injEq] at ran
    obtain ⟨rfl,same⟩ := ran
    by_cases stored : (t.insert user.id (hashToken newToken) client now).2 = true
    · rw [if_pos stored] at same
      cases same
      have chain := traced.1.created sub (List.mem_append_right _ (List.mem_singleton.mpr rfl))
      exact ⟨insert_held kept fun _ => chain,traced.2.mono sub,fun _ member => absurd member List.not_mem_nil⟩
    · rw [if_neg stored] at same
      cases same
      exact ⟨insert_held kept fun yes => absurd yes stored,trivial,fun _ member => absurd member List.not_mem_nil⟩
  | touch issue response =>
    cases ran
    refine ⟨kept,trivial,?_⟩
    intro made member
    cases List.mem_singleton.mp member
    exact Rooted.mono traced sub

theorem rotate_sound {action : Auth.Action} (sound : Sound strLower checkpw s) (ran : rotate s action = some next) :
    Sound strLower checkpw next := by
  cases action with
  | login => cases ran
  | start a =>
    cases ran
    refine ⟨sound.rows,?_,sound.logins,sound.issued⟩
    intro c
    show Traced _ _ _ _ (Function.update s.auth.calls s.auth.started (.select a) c)
    rw [Function.update_apply]
    split
    · trivial
    · exact sound.calls c
  | run c newToken =>
    obtain ⟨auth,stepped,rfl⟩ := Option.map_eq_some_iff.mp ran
    obtain ⟨⟨table,after⟩,advanced,rfl⟩ := Option.map_eq_some_iff.mp stepped
    obtain ⟨held,traced⟩ := advance_traced advanced sound.rows (sound.calls c)
    dsimp only
    rw [Function.update_self]
    have sub := List.subset_append_left s.log (rotationEvents s.auth.clock (s.auth.calls c) after)
    refine ⟨held,?_,fun pc member => (sound.logins pc member).mono sub (Int.le_refl _),
      fun issue member => (sound.issued issue member).mono sub⟩
    intro other
    show Traced _ _ _ _ (Function.update s.auth.calls c after other)
    rw [Function.update_apply]
    split
    · exact traced
    · exact (sound.calls other).mono sub (Int.le_refl _)
  | fail c =>
    obtain ⟨auth,stepped,rfl⟩ := Option.map_eq_some_iff.mp ran
    obtain ⟨after,interrupted,rfl⟩ := Option.map_eq_some_iff.mp stepped
    refine ⟨sound.rows,?_,sound.logins,sound.issued⟩
    intro other
    show Traced _ _ _ _ (Function.update s.auth.calls c after other)
    rw [Function.update_apply]
    split
    · obtain ⟨_,a,rfl⟩ := interrupt_raised interrupted
      trivial
    · exact sound.calls other
  | tick later =>
    obtain ⟨auth,stepped,rfl⟩ := Option.map_eq_some_iff.mp ran
    unfold Auth.step at stepped
    dsimp only at stepped
    split at stepped
    · rename_i passed
      cases stepped
      exact ⟨fun row member => (sound.rows row member).mono (List.Subset.refl _) passed,
        fun c => (sound.calls c).mono (List.Subset.refl _) passed,
        fun pc member => (sound.logins pc member).mono (List.Subset.refl _) passed,sound.issued⟩
    · cases stepped

-- A refresh call answers with an access token made now.
theorem refreshed_rooted {rows : List Row} {issue : Issue} {created : Instant} (made : refreshed rows now userId = .ok issue)
    (chain : Chain strLower checkpw log userId created) (past : created ≤ now) :
    Rooted strLower checkpw log issue.userId issue.time := by
  unfold refreshed at made
  split at made
  · cases made
  · split at made
    · cases made
    · cases made
      exact .refresh chain past

theorem step_sound {action : Action} (sound : Sound strLower checkpw s)
    (ran : step strLower checkpw encode zone s action = some next) : Sound strLower checkpw next := by
  cases action with
  | rotation action => exact rotate_sound sound ran
  | respond c =>
    unfold step at ran
    dsimp only at ran
    split at ran
    · rename_i returned
      split at ran
      · cases ran
      · cases ran
        refine ⟨sound.rows,sound.calls,sound.logins,?_⟩
        intro issue member
        rcases List.mem_append.mp member with old | new
        · exact sound.issued issue old
        · have traced := sound.calls c
          rw [returned] at traced
          obtain ⟨created,chain,past⟩ := traced
          cases made : refreshed s.rows s.auth.clock _ with
          | error =>
            rw [made] at new
            exact absurd new List.not_mem_nil
          | ok answer =>
            rw [made] at new
            cases List.mem_singleton.mp new
            exact refreshed_rooted made chain past
    · cases ran
  | signIn loginReq client =>
    cases ran
    refine ⟨sound.rows,sound.calls,?_,sound.issued⟩
    intro pc member
    rcases List.mem_append.mp member with old | new
    · exact sound.logins pc old
    · cases List.mem_singleton.mp new
      trivial
  | login i newToken =>
    obtain ⟨pc,found,ran⟩ := Option.bind_eq_some_iff.mp ran
    obtain ⟨⟨table,after⟩,advanced,same⟩ := Option.bind_eq_some_iff.mp ran
    cases same
    have present := List.mem_of_getElem? found
    obtain ⟨held,traced,made⟩ := advanceLogin_traced advanced sound.rows (sound.logins pc present)
    have sub := List.subset_append_left s.log (loginEvents s.auth.clock pc after)
    refine ⟨held,fun c => (sound.calls c).mono sub (Int.le_refl _),?_,?_⟩
    · intro other member
      rcases List.mem_or_eq_of_mem_set member with old | rfl
      · exact (sound.logins other old).mono sub (Int.le_refl _)
      · exact traced
    · intro issue member
      rcases List.mem_append.mp member with old | new
      · exact (sound.issued issue old).mono sub
      · exact made issue new
  | failLogin i =>
    obtain ⟨pc,found,ran⟩ := Option.bind_eq_some_iff.mp ran
    split at ran
    · cases ran
    · cases ran
      refine ⟨sound.rows,sound.calls,?_,sound.issued⟩
      intro other member
      rcases List.mem_or_eq_of_mem_set member with old | rfl
      · exact sound.logins other old
      · trivial
  | change rows =>
    cases ran
    exact ⟨sound.rows,sound.calls,sound.logins,sound.issued⟩
  | cleanup =>
    cases ran
    exact ⟨fun row member => sound.rows row (List.mem_of_mem_filter member),sound.calls,sound.logins,sound.issued⟩

theorem reached_sound {rows : List Row} {clock : Instant}
    (path : Reached (step strLower checkpw encode zone) (fun _ _ => True) (.initial rows clock) s) :
    Sound strLower checkpw s :=
  path.invariant _ (initial_sound rows clock) fun sound _ ran => step_sound sound ran

end SmartParking.Auth.Sessions
