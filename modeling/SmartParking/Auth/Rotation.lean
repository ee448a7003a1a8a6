import SmartParking.Auth.RefreshTokens
import SmartParking.Lib.Runs

namespace SmartParking.Auth
open Lib Lib.Runs

structure Args where
  token : String
  client : Client := {}
  deriving DecidableEq

def Args.hash (a : Args) : String := hashToken a.token

-- A call between two SQL statements. `fetched` is the moment after the SELECT, at
-- which the clock is read; the other constructors name the next statement.
inductive Pc where
  | idle
  | select (a : Args)
  | fetched (a : Args) (r : RefreshToken)
  | family (a : Args) (r : RefreshToken)
  | revoke (a : Args) (r : RefreshToken)
  | insert (a : Args) (userId : String)
  | returned (a : Args) (answer : Option (String × String))
  | raised (a : Args)
  deriving DecidableEq

structure State where
  table : Table
  clock : Instant
  started : Nat
  calls : Nat → Pc

-- Any table may be there before the first call.
def State.initial (table : Table) (clock : Instant) : State := ⟨table,clock,0,fun _ => .idle⟩

-- Expired, reused within the grace period, reused later, or valid.
def check (a : Args) (r : RefreshToken) (now : Instant) : Pc :=
  if r.expiresAt < now then .returned a none
  else
    match r.revokedAt with
    | some revokedAt => if now-revokedAt < reuseDetectionWindow then .returned a none else .family a r
    | none => .revoke a r

def advance (t : Table) (now : Instant) (newToken : String) : Pc → Option (Table × Pc)
  | .select a =>
    match t.find a.hash with
    | none => some (t,.returned a none)
    | some r => some (t,.fetched a r)
  | .fetched a r => some (t,check a r now)
  | .family a r => some (t.revokeTokenFamily r.userId r.deviceFingerprint now,.returned a none)
  | .revoke a r => some (t.revokeToken r.id now,.insert a r.userId)
  | .insert a userId =>
    let inserted := t.insert userId (hashToken newToken) a.client now
    some (inserted.1,if inserted.2 then .returned a (some (userId,newToken)) else .raised a)
  | .idle | .returned .. | .raised .. => none

-- A statement that fails leaves the table alone and its error leaves the call.
def interrupt : Pc → Option Pc
  | .select a | .family a _ | .revoke a _ | .insert a _ => some (.raised a)
  | .idle | .fetched .. | .returned .. | .raised .. => none

inductive Action where
  | start (a : Args)
  | run (c : Nat) (newToken : String)
  | fail (c : Nat)
  | login (userId token : String) (client : Client)
  | tick (now : Instant)

def step (s : State) : Action → Option State
  | .start a => some {s with started := s.started+1,calls := Function.update s.calls s.started (.select a)}
  | .run c newToken =>
    (advance s.table s.clock newToken (s.calls c)).map fun result =>
      {s with table := result.1,calls := Function.update s.calls c result.2}
  | .fail c => (interrupt (s.calls c)).map fun pc => {s with calls := Function.update s.calls c pc}
  | .login userId token client => some {s with table := (s.table.insert userId (hashToken token) client s.clock).1}
  | .tick now => if s.clock ≤ now then some {s with clock := now} else none

def RefreshToken.live (r : RefreshToken) (now : Instant) : Bool := r.revokedAt.isNone && decide (now ≤ r.expiresAt)

def Table.live (t : Table) (hash : String) (now : Instant) : Bool := (t.find hash).any (·.live now)

-- The call has read the token as valid and has not revoked it yet.
def Pc.holds (hash : String) (now : Instant) : Pc → Bool
  | .fetched a r => a.hash == hash && r.live now
  | .revoke a _ => a.hash == hash
  | _ => false

def Pc.won (hash : String) : Pc → Bool
  | .insert a _ => a.hash == hash
  | .returned a (some _) => a.hash == hash
  | _ => false

-- No call reads a valid token that another call is about to revoke.
def exclusive (s : State) : Action → Bool
  | .run c _ =>
    match s.calls c with
    | .select a =>
      !s.table.live a.hash s.clock || decide (∀ other < s.started, (s.calls other).holds a.hash s.clock = false)
    | _ => true
  | _ => true

def Pc.engaged (hash : String) (now : Instant) (pc : Pc) : Bool := pc.holds hash now || pc.won hash

def Pc.reads (hash : String) : Pc → Option RefreshToken
  | .fetched a r | .revoke a r => if a.hash = hash then some r else none
  | _ => none

inductive Advanced (t : Table) (now : Instant) : Pc → Table → Pc → Prop where
  | missing : Advanced t now (.select a) t (.returned a none)
  | read : t.find a.hash = some r → Advanced t now (.select a) t (.fetched a r)
  | checked : Advanced t now (.fetched a r) t (check a r now)
  | reused : Advanced t now (.family a r) (t.revokeTokenFamily r.userId r.deviceFingerprint now) (.returned a none)
  | revoked : Advanced t now (.revoke a r) (t.revokeToken r.id now) (.insert a r.userId)
  | created : Advanced t now (.insert a userId) (t.insert userId key a.client now).1 (.returned a (some (userId,token)))
  | refused : Advanced t now (.insert a userId) (t.insert userId key a.client now).1 (.raised a)

variable {t next : Table} {now : Instant} {newToken hash : String} {pc after : Pc} {r : RefreshToken}

theorem check_reads (read : (check a r now).reads hash = some row) : row = r ∧ a.hash = hash := by
  unfold check at read
  repeat' split at read
  all_goals simp [Pc.reads] at read
  exact ⟨read.2.symm,read.1⟩

theorem check_engaged (engaged : (check a r now).engaged hash now = true) : a.hash = hash ∧ r.live now = true := by
  unfold check at engaged
  split at engaged
  · simp [Pc.engaged,Pc.holds,Pc.won] at engaged
  · rename_i unexpired
    split at engaged
    · split at engaged <;> simp [Pc.engaged,Pc.holds,Pc.won] at engaged
    · rename_i unrevoked
      simp [Pc.engaged,Pc.holds,Pc.won] at engaged
      exact ⟨engaged,by simp [RefreshToken.live,unrevoked,Int.not_lt.mp unexpired]⟩

theorem check_won : (check a r now).won hash = false := by
  unfold check
  repeat' split
  all_goals rfl

theorem advance_sound (ran : advance t now newToken pc = some (next,after)) : Advanced t now pc next after := by
  cases pc with
  | idle => cases ran
  | returned => cases ran
  | raised => cases ran
  | select a =>
    unfold advance at ran
    dsimp only at ran
    split at ran
    · cases ran
      exact .missing
    · cases ran
      exact .read ‹_›
  | fetched a r =>
    cases ran
    exact .checked
  | family a r =>
    cases ran
    exact .reused
  | revoke a r =>
    cases ran
    exact .revoked
  | insert a userId =>
    simp only [advance,Option.some.injEq,Prod.mk.injEq] at ran
    obtain ⟨rfl,rfl⟩ := ran
    split
    · exact .created
    · exact .refused

theorem Advanced.extends (ran : Advanced t now pc next after) : t.Extends next := by
  cases ran with
  | missing => exact t.extends_refl
  | read => exact t.extends_refl
  | checked => exact t.extends_refl
  | reused => exact t.revokeTokenFamily_extends _ _ _
  | revoked => exact t.stamp_extends _ _
  | created => exact t.insert_extends _ _ _ _
  | refused => exact t.insert_extends _ _ _ _

theorem Advanced.reads (ran : Advanced t now pc next after) (read : after.reads hash = some r) :
    pc.reads hash = some r ∨ t.find hash = some r := by
  cases ran with
  | read found =>
    simp only [Pc.reads,Option.ite_none_right_eq_some,Option.some.injEq] at read
    obtain ⟨rfl,rfl⟩ := read
    exact .inr found
  | checked =>
    obtain ⟨rfl,same⟩ := check_reads read
    exact .inl (if_pos same)
  | _ => cases read

-- A call gets ahead of the others only by reading a valid token.
theorem Advanced.engaged (ran : Advanced t now pc next after) (engaged : after.engaged hash now = true) :
    pc.engaged hash now = true ∨ ∃ a, pc = .select a ∧ a.hash = hash ∧ t.live hash now = true := by
  cases ran with
  | @read r a found =>
    simp only [Pc.engaged,Pc.holds,Pc.won,Bool.or_false,Bool.and_eq_true,beq_iff_eq] at engaged
    obtain ⟨rfl,live⟩ := engaged
    refine .inr ⟨a,rfl,rfl,?_⟩
    rw [Table.live,found]
    exact live
  | checked =>
    obtain ⟨same,live⟩ := check_engaged engaged
    exact .inl (by simp [Pc.engaged,Pc.holds,same,live])
  | revoked => exact .inl (by simpa [Pc.engaged,Pc.holds,Pc.won] using engaged)
  | created => exact .inl engaged
  | _ => cases engaged

theorem Advanced.won (ran : Advanced t now pc next after) (won : after.won hash = true) :
    pc.won hash = true ∨ ∃ r, pc.reads hash = some r ∧ next = t.revokeToken r.id now := by
  cases ran with
  | checked =>
    rw [check_won] at won
    cases won
  | @revoked a r => exact .inr ⟨r,if_pos (by simpa [Pc.won] using won),rfl⟩
  | created => exact .inl won
  | _ => cases won

variable {s : State}

-- At most one call is past the SELECT with the token in hand, and once it has
-- revoked the row nobody else reads it as valid.
structure Sole (hash : String) (s : State) : Prop where
  idle : ∀ c, s.started ≤ c → s.calls c = .idle
  known : ∀ c r, (s.calls c).reads hash = some r → ∃ row, s.table.find hash = some row ∧ row.id = r.id
  revoked : ∀ c, (s.calls c).won hash = true → ∃ row, s.table.find hash = some row ∧ row.revokedAt.isSome
  single : ∀ c c', (s.calls c).engaged hash s.clock = true → (s.calls c').engaged hash s.clock = true → c = c'

theorem initial_sole (table : Table) (clock : Instant) (hash : String) : Sole hash (.initial table clock) :=
  ⟨fun _ _ => rfl,fun _ _ read => (by cases read),fun _ won => (by cases won),fun _ _ engaged => (by cases engaged)⟩

theorem Sole.extend (sole : Sole hash s) (extended : s.table.Extends next) : Sole hash {s with table := next} := by
  refine ⟨sole.idle,?_,?_,sole.single⟩
  · intro c r read
    obtain ⟨row,found,identified⟩ := sole.known c r read
    obtain ⟨row',found',identified',_⟩ := extended hash row found
    exact ⟨row',found',identified'.trans identified⟩
  · intro c gained
    obtain ⟨row,found,revoked⟩ := sole.revoked c gained
    obtain ⟨row',found',_,kept⟩ := extended hash row found
    exact ⟨row',found',kept revoked⟩

theorem Sole.put (sole : Sole hash s) (count : s.started ≤ n) (inside : c < n)
    (reads : ∀ r, after.reads hash = some r → ∃ row, s.table.find hash = some row ∧ row.id = r.id)
    (won : after.won hash = true → ∃ row, s.table.find hash = some row ∧ row.revokedAt.isSome)
    (alone : after.engaged hash s.clock = true → ∀ other, (s.calls other).engaged hash s.clock = true → other = c) :
    Sole hash {s with started := n,calls := Function.update s.calls c after} := by
  refine ⟨?_,?_,?_,?_⟩
  · intro c' beyond
    have other : c' ≠ c := fun same => absurd inside (same ▸ Nat.not_lt.mpr beyond)
    simpa [other] using sole.idle c' (Nat.le_trans count beyond)
  · intro c' r read
    by_cases same : c' = c
    · subst same
      exact reads r (by simpa using read)
    · exact sole.known c' r (by simpa [same] using read)
  · intro c' gained
    by_cases same : c' = c
    · subst same
      exact won (by simpa using gained)
    · exact sole.revoked c' (by simpa [same] using gained)
  · intro first second engaged engaged'
    by_cases same : first = c <;> by_cases same' : second = c
    · rw [same,same']
    · subst same
      exact (alone (by simpa using engaged) second (by simpa [same'] using engaged')).symm
    · subst same'
      exact alone (by simpa using engaged') first (by simpa [same] using engaged)
    · exact sole.single first second (by simpa [same] using engaged) (by simpa [same'] using engaged')

theorem Sole.begun (sole : Sole hash s) (active : s.calls c ≠ .idle) : c < s.started := by
  by_contra beyond
  exact active (sole.idle c (Nat.le_of_not_lt beyond))

theorem Sole.unheld (sole : Sole hash s) (live : s.table.live hash s.clock = true)
    (free : ∀ other < s.started, (s.calls other).holds hash s.clock = false) (other : Nat) :
    (s.calls other).engaged hash s.clock = false := by
  cases won : (s.calls other).won hash with
  | true =>
    -- A winner has left the row revoked, so the token cannot be live.
    obtain ⟨row,found,revoked⟩ := sole.revoked other won
    rw [Table.live,found] at live
    simp only [Option.any_some,RefreshToken.live,Bool.and_eq_true,Option.isNone_iff_eq_none] at live
    rw [live.1] at revoked
    cases revoked
  | false =>
    by_cases begun : other < s.started
    · simp [Pc.engaged,won,free other begun]
    · simp [sole.idle other (Nat.le_of_not_lt begun),Pc.engaged,Pc.holds,Pc.won]

theorem Sole.run (sole : Sole hash s) (met : exclusive s (.run c newToken) = true)
    (ran : advance s.table s.clock newToken (s.calls c) = some (next,after)) :
    Sole hash {s with table := next,calls := Function.update s.calls c after} := by
  have advanced := advance_sound ran
  have active : s.calls c ≠ .idle := by
    intro idle
    rw [idle] at ran
    cases ran
  have extended := sole.extend advanced.extends
  apply extended.put (Nat.le_refl _) (sole.begun active)
  · intro r read
    rcases advanced.reads read with before | found
    · exact extended.known c r before
    · obtain ⟨row',found',same',_⟩ := advanced.extends hash r found
      exact ⟨row',found',same'⟩
  · intro won
    rcases advanced.won won with before | ⟨r,read,rfl⟩
    · exact extended.revoked c before
    · obtain ⟨row,found,same⟩ := sole.known c r read
      exact s.table.revokeToken_revokes s.clock found same
  · intro engaged other others
    rcases advanced.engaged engaged with before | ⟨a,reading,rfl,live⟩
    · exact sole.single other c others before
    · simp only [exclusive,reading,live,Bool.not_true,Bool.false_or,decide_eq_true_eq] at met
      rw [sole.unheld live met other] at others
      cases others

theorem interrupt_raised (interrupted : interrupt pc = some after) : pc ≠ .idle ∧ ∃ a, after = .raised a := by
  cases pc with
  | select a | family a | revoke a | insert a =>
    cases interrupted
    exact ⟨(by intro idle; cases idle),a,rfl⟩
  | idle | fetched | returned | raised => cases interrupted

-- Time only takes tokens away from those who hold them.
theorem engaged_earlier (passed : s.clock ≤ now) (engaged : pc.engaged hash now = true) :
    pc.engaged hash s.clock = true := by
  cases pc with
  | fetched a r =>
    simp only [Pc.engaged,Pc.holds,Pc.won,RefreshToken.live,Bool.or_false,Bool.and_eq_true,decide_eq_true_eq] at engaged ⊢
    exact ⟨engaged.1,engaged.2.1,Int.le_trans passed engaged.2.2⟩
  | _ => exact engaged

theorem sole_preserved {next : State} (sole : Sole hash s) (met : exclusive s action = true)
    (ran : step s action = some next) : Sole hash next := by
  cases action with
  | start a =>
    cases Option.some.inj ran
    exact sole.put (Nat.le_succ _) (Nat.lt_succ_self _) (fun _ read => (by cases read)) (fun won => (by cases won))
      fun engaged => (by cases engaged)
  | run c newToken =>
    obtain ⟨⟨table,after⟩,advanced,rfl⟩ := Option.map_eq_some_iff.mp ran
    exact sole.run met advanced
  | fail c =>
    obtain ⟨after,interrupted,rfl⟩ := Option.map_eq_some_iff.mp ran
    obtain ⟨active,a,rfl⟩ := interrupt_raised interrupted
    exact sole.put (Nat.le_refl _) (sole.begun active) (fun _ read => (by cases read)) (fun won => (by cases won))
      fun engaged => (by cases engaged)
  | login userId token client =>
    cases Option.some.inj ran
    exact sole.extend (s.table.insert_extends userId (hashToken token) client s.clock)
  | tick now =>
    simp only [step,Option.ite_none_right_eq_some,Option.some.injEq] at ran
    obtain ⟨passed,rfl⟩ := ran
    exact ⟨sole.idle,sole.known,sole.revoked,fun c c' first second =>
      sole.single c c' (engaged_earlier passed first) (engaged_earlier passed second)⟩

theorem reached_sole (path : Reached step (fun s action => exclusive s action = true) (.initial table clock) s)
    (hash : String) : Sole hash s :=
  path.invariant (Sole hash) (initial_sole table clock hash) fun sole met ran => sole_preserved sole met ran

def State.rotated (s : State) (token : String) (c : Nat) : Prop :=
  ∃ a answer, s.calls c = .returned a (some answer) ∧ a.token = token

theorem rotated_engaged (rotated : s.rotated token c) : (s.calls c).engaged (hashToken token) s.clock = true := by
  obtain ⟨a,answer,returned,rfl⟩ := rotated
  simp [returned,Pc.engaged,Pc.holds,Pc.won,Args.hash]

-- A refresh token rotates at most once in every run in which no call reads it as
-- valid between another call's SELECT and its UPDATE.
theorem rotates_once (path : Reached step (fun s action => exclusive s action = true) (.initial table clock) s)
    (first : s.rotated token c) (second : s.rotated token c') : c = c' :=
  (reached_sole path (hashToken token)).single c c' (rotated_engaged first) (rotated_engaged second)

-- A login, then two refreshes with its token, one after the other.
def refreshes : List Action :=
  [.login "user-1" "token-1" {},.start ⟨"token-1",{}⟩,.run 0 "",.run 0 "",.run 0 "",.run 0 "token-2",
   .start ⟨"token-1",{}⟩,.run 1 "",.run 1 ""]

def State.answered (s : State) (c : Nat) (token : String) (answer : Option (String × String)) : Prop :=
  s.calls c = .returned ⟨token,{}⟩ answer

instance : Decidable (State.answered s c token answer) := inferInstanceAs (Decidable (_ = _))

theorem rotates_once_serial : ∃ s : State,
    Reached step (fun s action => exclusive s action = true) (.initial .empty 0) s ∧
    s.answered 0 "token-1" (some ("user-1","token-2")) ∧ s.answered 1 "token-1" none ∧
    ∀ c, s.rotated "token-1" c → c = 0 := by
  have begun : Reached step (fun s action => exclusive s action = true) (.initial .empty 0) (.initial .empty 0) := .refl
  obtain ⟨s,path,rotated,refused⟩ := begun.found exclusive
    (fun s => s.answered 0 "token-1" (some ("user-1","token-2")) ∧ s.answered 1 "token-1" none)
    refreshes (fun _ met => met) (by decide +kernel)
  exact ⟨s,path,rotated,refused,fun c again => rotates_once path again ⟨_,_,rotated,rfl⟩⟩

-- Two calls SELECT the token before either has revoked it, and both rotate it.
theorem rotates_twice : ∃ s : State,
    Reached step (fun _ _ => True) (.initial .empty 0) s ∧
    s.answered 0 "token-1" (some ("user-1","token-2")) ∧ s.answered 1 "token-1" (some ("user-1","token-3")) ∧
    s.rotated "token-1" 0 ∧ s.rotated "token-1" 1 := by
  have begun : Reached step (fun _ _ => True) (.initial .empty 0) (.initial .empty 0) := .refl
  obtain ⟨s,path,first,second⟩ := begun.found (fun _ _ => true)
    (fun s => s.answered 0 "token-1" (some ("user-1","token-2")) ∧
      s.answered 1 "token-1" (some ("user-1","token-3")))
    [.login "user-1" "token-1" {},.start ⟨"token-1",{}⟩,.start ⟨"token-1",{}⟩,.run 0 "",.run 1 "",.run 0 "",.run 1 "",
     .run 0 "",.run 1 "",.run 0 "token-2",.run 1 "token-3"] (fun _ _ => trivial) (by decide +kernel)
  exact ⟨s,path,first,second,⟨_,_,first,rfl⟩,⟨_,_,second,rfl⟩⟩

end SmartParking.Auth
