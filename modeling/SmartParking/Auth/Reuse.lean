import Mathlib.Logic.Relation
import SmartParking.Auth.Rotation

namespace SmartParking.Auth
open Lib Lib.Runs

inductive RotateError where
  | uniqueViolation
  deriving DecidableEq

-- `validate_and_rotate` where no other call comes in between.
def Table.validateAndRotate (t : Table) (a : Args) (now : Instant) (newToken : String) :
    Table × Except RotateError (Option (String × String)) :=
  match t.find a.hash with
  | none => (t,.ok none)
  | some r =>
    if r.expiresAt < now then (t,.ok none)
    else
      match r.revokedAt with
      | some revokedAt =>
        if now-revokedAt < reuseDetectionWindow then (t,.ok none)
        else (t.revokeTokenFamily r.userId r.deviceFingerprint now,.ok none)
      | none =>
        let inserted := (t.revokeToken r.id now).insert r.userId (hashToken newToken) a.client now
        (inserted.1,if inserted.2 then .ok (some (r.userId,newToken)) else .error .uniqueViolation)

def finished (a : Args) : Except RotateError (Option (String × String)) → Pc
  | .ok answer => .returned a answer
  | .error _ => .raised a

-- The statements of the call, one after the other, do what the function does.
theorem validateAndRotate_alone (s : State) (calling : s.calls c = .select a) (newToken : String) :
    ∃ n, exec step s (List.replicate n (.run c newToken)) =
      some {s with
        table := (s.table.validateAndRotate a s.clock newToken).1
        calls := Function.update s.calls c (finished a (s.table.validateAndRotate a s.clock newToken).2)} := by
  unfold Table.validateAndRotate
  cases found : s.table.find a.hash with
  | none => exact ⟨1,by simp [exec,step,advance,calling,found,finished]⟩
  | some r =>
    by_cases expired : r.expiresAt < s.clock
    · exact ⟨2,by simp [exec,step,advance,check,calling,found,expired,finished]⟩
    · cases revoked : r.revokedAt with
      | some revokedAt =>
        by_cases recent : s.clock-revokedAt < reuseDetectionWindow
        · exact ⟨2,by simp [exec,step,advance,check,calling,found,expired,revoked,recent,finished]⟩
        · exact ⟨3,by simp [exec,step,advance,check,calling,found,expired,revoked,recent,finished]⟩
      | none =>
        refine ⟨4,?_⟩
        simp only [List.replicate,exec,step,advance,check,calling,found,expired,revoked,Option.map_some,Option.bind_some,
          Function.update_self,Function.update_idem,if_false]
        split <;> rfl

-- The runs of `step`, with what was obtained from what: the hashes of each
-- rotated token and of its successor.
structure Traced where
  state : State
  rotations : List (String × String)

def Traced.initial (table : Table) (clock : Instant) : Traced := ⟨.initial table clock,[]⟩

def rotation (s : State) : Action → Option (String × String)
  | .run c newToken =>
    match s.calls c with
    | .insert a _ => if s.table.find (hashToken newToken) = none then some (a.hash,hashToken newToken) else none
    | _ => none
  | _ => none

def Traced.step (x : Traced) (action : Action) : Option Traced :=
  (Auth.step x.state action).map fun next => ⟨next,(rotation x.state action).toList ++ x.rotations⟩

def Traced.Rotated (x : Traced) (old new : String) : Prop := (old,new) ∈ x.rotations

-- Obtained by one or more rotations.
def Traced.Descends (x : Traced) : String → String → Prop := Relation.TransGen x.Rotated

-- The user a call works for, with the token it was given.
def Pc.owner : Pc → Option (String × String)
  | .fetched a r | .family a r | .revoke a r => some (a.hash,r.userId)
  | .insert a userId => some (a.hash,userId)
  | _ => none

def Table.Owns (t : Table) (userId hash : String) : Prop := ∃ row, t.find hash = some row ∧ row.userId = userId

-- A rotation stays with its user.
structure Kin (x : Traced) : Prop where
  calls : ∀ c hash userId, (x.state.calls c).owner = some (hash,userId) → x.state.table.Owns userId hash
  rotations : ∀ old new, x.Rotated old new →
    ∃ userId, x.state.table.Owns userId old ∧ x.state.table.Owns userId new

def Table.Keeps (t next : Table) : Prop := ∀ userId hash, t.Owns userId hash → next.Owns userId hash

theorem RefreshToken.stamp_userId (row : RefreshToken) (marked : Bool) (now : Instant) :
    (row.stamp marked now).userId = row.userId := by
  cases marked <;> rfl

theorem RefreshToken.stamp_deviceFingerprint (row : RefreshToken) (marked : Bool) (now : Instant) :
    (row.stamp marked now).deviceFingerprint = row.deviceFingerprint := by
  cases marked <;> rfl

namespace Table

variable {t : Table} {userId hash key : String} {client : Client} {now : Instant} {row : RefreshToken}
  {fingerprint : Option String}

theorem stamp_keeps (t : Table) (mark : RefreshToken → Bool) (now : Instant) : t.Keeps (t.stamp mark now) := by
  intro userId hash owned
  obtain ⟨row,found,owner⟩ := owned
  exact ⟨row.stamp (mark row) now,by rw [find_stamp,found]; rfl,by rw [row.stamp_userId]; exact owner⟩

theorem revokeTokenFamily_keeps (t : Table) (userId : String) (fingerprint : Option String) (now : Instant) :
    t.Keeps (t.revokeTokenFamily userId fingerprint now) := by
  obtain ⟨mark,stamps,_⟩ := t.revokeTokenFamily_marks userId fingerprint now
  rw [stamps]
  exact t.stamp_keeps mark now

theorem insert_keeps (t : Table) (userId key : String) (client : Client) (now : Instant) :
    t.Keeps (t.insert userId key client now).1 := by
  intro owner hash owned
  obtain ⟨row,found,same⟩ := owned
  exact ⟨row,insert_find found,same⟩

theorem insert_owns (fresh : t.find hash = none) : (t.insert userId hash client now).1.Owns userId hash := by
  refine ⟨t.newRow userId hash client now,?_,rfl⟩
  unfold insert
  rw [dif_pos fresh]
  show (t.rows ++ _).find? _ = _
  unfold find at fresh
  rw [List.find?_append,fresh]
  simp [newRow]

end Table

variable {t next : Table} {now : Instant} {pc after : Pc} {hash userId : String}

theorem Advanced.keeps (ran : Advanced t now pc next after) : t.Keeps next := by
  cases ran with
  | missing | read | checked => exact fun _ _ owned => owned
  | reused => exact t.revokeTokenFamily_keeps _ _ _
  | revoked => exact t.stamp_keeps _ _
  | created | refused => exact t.insert_keeps _ _ _ _

theorem check_owner (owner : (check a r now).owner = some (hash,userId)) : a.hash = hash ∧ r.userId = userId := by
  unfold check at owner
  repeat' split at owner
  all_goals simp [Pc.owner] at owner
  all_goals exact owner

theorem Advanced.owner (ran : Advanced t now pc next after) (owner : after.owner = some (hash,userId)) :
    pc.owner = some (hash,userId) ∨ t.Owns userId hash := by
  cases ran with
  | @read r a found =>
    simp only [Pc.owner,Option.some.injEq,Prod.mk.injEq] at owner
    obtain ⟨rfl,rfl⟩ := owner
    exact .inr ⟨r,found,rfl⟩
  | checked =>
    obtain ⟨rfl,rfl⟩ := check_owner owner
    exact .inl rfl
  | revoked => exact .inl owner
  | _ => cases owner

theorem owner_update (calls : Nat → Pc) (owner : (Function.update calls c after d).owner = some (hash,userId)) :
    after.owner = some (hash,userId) ∨ (calls d).owner = some (hash,userId) := by
  by_cases same : d = c
  · subst d
    exact .inl (by simpa using owner)
  · exact .inr (by simpa [same] using owner)

theorem initial_kin (table : Table) (clock : Instant) : Kin (.initial table clock) :=
  ⟨fun _ _ _ owner => (by cases owner),fun _ _ rotated => (by cases rotated)⟩

-- A step that leaves the calls of other callers and the owners of tokens alone.
theorem Kin.move {x : Traced} {next : State} (kin : Kin x) (kept : x.state.table.Keeps next.table)
    (calls : ∀ d hash userId, (next.calls d).owner = some (hash,userId) →
      (x.state.calls d).owner = some (hash,userId) ∨ x.state.table.Owns userId hash)
    (rotated : ∀ old new, rotation x.state action = some (old,new) →
      ∃ userId, next.table.Owns userId old ∧ next.table.Owns userId new) :
    Kin ⟨next,(rotation x.state action).toList ++ x.rotations⟩ := by
  constructor
  · intro d hash userId owner
    rcases calls d hash userId owner with before | owned
    · exact kept userId hash (kin.calls d hash userId before)
    · exact kept userId hash owned
  · intro old new member
    rcases List.mem_append.mp member with latest | earlier
    · exact rotated old new (Option.mem_toList.mp latest)
    · obtain ⟨userId,one,two⟩ := kin.rotations old new earlier
      exact ⟨userId,kept userId old one,kept userId new two⟩

theorem rotation_owned {x : Traced} (kin : Kin x) (ran : advance x.state.table x.state.clock newToken (x.state.calls c) =
      some (next,after)) (rotated : rotation x.state (.run c newToken) = some (old,new)) :
    ∃ userId, next.Owns userId old ∧ next.Owns userId new := by
  unfold rotation at rotated
  dsimp only at rotated
  split at rotated
  · rename_i a userId calling
    split at rotated
    · rename_i fresh
      cases rotated
      have owned := kin.calls c a.hash userId (by rw [calling]; rfl)
      rw [calling] at ran
      simp only [advance,Option.some.injEq,Prod.mk.injEq] at ran
      rw [← ran.1]
      exact ⟨userId,x.state.table.insert_keeps userId _ a.client x.state.clock _ _ owned,Table.insert_owns fresh⟩
    · cases rotated
  · cases rotated

theorem kin_preserved {x next : Traced} (kin : Kin x) (moved : x.step action = some next) : Kin next := by
  obtain ⟨state,ran,rfl⟩ := Option.map_eq_some_iff.mp moved
  cases action with
  | start a =>
    cases Option.some.inj ran
    refine kin.move (fun _ _ owned => owned) ?_ (fun _ _ rotated => (by cases rotated))
    intro d hash userId owner
    exact .inl ((owner_update x.state.calls owner).resolve_left nofun)
  | run c newToken =>
    obtain ⟨⟨table,after⟩,advanced,rfl⟩ := Option.map_eq_some_iff.mp ran
    have sound := advance_sound advanced
    refine kin.move sound.keeps ?_ (fun _ _ rotated => rotation_owned kin advanced rotated)
    intro d hash userId owner
    by_cases same : d = c
    · subst d
      exact sound.owner (by simpa using owner)
    · exact .inl (by simpa [same] using owner)
  | fail c =>
    obtain ⟨after,interrupted,rfl⟩ := Option.map_eq_some_iff.mp ran
    obtain ⟨_,a,rfl⟩ := interrupt_raised interrupted
    refine kin.move (fun _ _ owned => owned) ?_ (fun _ _ rotated => (by cases rotated))
    intro d hash userId owner
    exact .inl ((owner_update x.state.calls owner).resolve_left nofun)
  | login userId token client =>
    cases Option.some.inj ran
    exact kin.move (x.state.table.insert_keeps userId _ client x.state.clock) (fun _ _ _ owner => .inl owner)
      (fun _ _ rotated => (by cases rotated))
  | tick now =>
    simp only [step,Option.ite_none_right_eq_some,Option.some.injEq] at ran
    obtain ⟨_,rfl⟩ := ran
    exact kin.move (fun _ _ owned => owned) (fun _ _ _ owner => .inl owner) (fun _ _ rotated => (by cases rotated))

theorem reached_kin {x : Traced} (path : Reached Traced.step (fun _ _ => True) (.initial table clock) x) : Kin x :=
  path.invariant Kin (initial_kin table clock) fun kin _ ran => kin_preserved kin ran

theorem owner_unique (one : t.Owns userId hash) (two : t.Owns other hash) : userId = other := by
  obtain ⟨row,found,rfl⟩ := one
  obtain ⟨also,again,rfl⟩ := two
  cases found.symm.trans again
  rfl

theorem descendant_owned {x : Traced} (kin : Kin x) (owned : x.state.table.Owns userId token)
    (descends : x.Descends token later) : x.state.table.Owns userId later := by
  induction descends with
  | single rotated =>
    obtain ⟨owner,one,two⟩ := kin.rotations _ _ rotated
    rwa [owner_unique owned one]
  | tail _ rotated ih =>
    obtain ⟨owner,one,two⟩ := kin.rotations _ _ rotated
    rwa [owner_unique ih one]

-- A revoked token that is presented again after the grace period and before it
-- expires.
structure Reused (x : Traced) (a : Args) (r : RefreshToken) : Prop where
  found : x.state.table.find a.hash = some r
  unexpired : x.state.clock ≤ r.expiresAt
  revoked : ∃ revokedAt, r.revokedAt = some revokedAt ∧ reuseDetectionWindow ≤ x.state.clock-revokedAt

theorem Reused.revokes {x : Traced} (reused : Reused x a r) (newToken : String) :
    x.state.table.validateAndRotate a x.state.clock newToken =
      (x.state.table.revokeTokenFamily r.userId r.deviceFingerprint x.state.clock,.ok none) := by
  obtain ⟨revokedAt,stamped,elapsed⟩ := reused.revoked
  unfold Table.validateAndRotate
  simp only [reused.found,Int.not_lt.mpr reused.unexpired,stamped,Int.not_lt.mpr elapsed,if_false]

-- The device a reuse is held against, or none for all devices of the user.
def RefreshToken.device (r : RefreshToken) : Option String := r.deviceFingerprint.filter (· ≠ "")

-- The reuse of a token ends what was obtained from it on its own device, and on
-- every device where it was stored without a fingerprint.
theorem reuse_ends_device_chain {x : Traced} (path : Reached Traced.step (fun _ _ => True) (.initial table clock) x)
    (reused : Reused x a r) (newToken : String) (descends : x.Descends a.hash later)
    (found : (x.state.table.validateAndRotate a x.state.clock newToken).1.find later = some row)
    (device : r.device = none ∨ row.deviceFingerprint = r.deviceFingerprint) (now : Instant) : row.live now = false := by
  obtain ⟨old,before,owner⟩ := descendant_owned (reached_kin path) ⟨r,reused.found,rfl⟩ descends
  obtain ⟨mark,stamps,marked⟩ :=
    x.state.table.revokeTokenFamily_marks r.userId r.deviceFingerprint x.state.clock
  rw [reused.revokes newToken,stamps,Table.find_stamp,before] at found
  cases found
  rw [old.stamp_deviceFingerprint] at device
  have revoked := old.stamp_revoked (mark old) x.state.clock (marked old owner device)
  rw [RefreshToken.live,Bool.and_eq_false_iff]
  left
  simpa using revoked

-- A login and a refresh, each from a device, and six minutes.
def rotatedOnce (device other : Option String) : List Action :=
  [.login "user-1" "token-1" {deviceFingerprint := device},.start ⟨"token-1",{deviceFingerprint := other}⟩,
   .run 0 "",.run 0 "",.run 0 "",.run 0 "token-2",.tick (6*minute)]

def stored (tokenId : Nat) (token : String) (device : Option String) (revokedAt : Option Instant) : RefreshToken :=
  ⟨tokenId,"user-1",hashToken token,device,none,none,0,expiryDays,revokedAt⟩

-- What the run leaves, and the successor after the token is presented again.
def Traced.presents (x : Traced) (device : Option String) (successor : RefreshToken) : Prop :=
  x.rotations = [(hashToken "token-1",hashToken "token-2")] ∧ x.state.clock = 6*minute ∧
    x.state.table.find (hashToken "token-1") = some (stored 1 "token-1" device (some 0)) ∧
    (x.state.table.validateAndRotate ⟨"token-1",{}⟩ (6*minute) "token-3").1.find (hashToken "token-2") = some successor

instance {x : Traced} : Decidable (x.presents device successor) := inferInstanceAs (Decidable (_ ∧ _))

theorem presented_reused {x : Traced} (presented : x.presents device successor) :
    Reused x ⟨"token-1",{}⟩ (stored 1 "token-1" device (some 0)) := by
  obtain ⟨_,clock,found,_⟩ := presented
  refine ⟨found,?_,0,rfl,?_⟩
  · rw [clock]
    show 6*minute ≤ expiryDays
    decide
  · rw [clock]
    decide

theorem presented_descends {x : Traced} (presented : x.presents device successor) :
    x.Descends (Args.hash ⟨"token-1",{}⟩) (hashToken "token-2") := by
  refine .single ?_
  show (_,_) ∈ x.rotations
  rw [presented.1]
  exact List.mem_singleton.mpr rfl

-- Both on one device.
theorem reuse_ends_device_chain_once : ∃ x : Traced,
    Reached Traced.step (fun _ _ => True) (.initial .empty 0) x ∧
    x.presents (some "phone") (stored 2 "token-2" (some "phone") (some (6*minute))) ∧
    (stored 2 "token-2" (some "phone") (some (6*minute))).live (6*minute) = false := by
  have begun : Reached Traced.step (fun _ _ => True) (.initial .empty 0) (.initial .empty 0) := .refl
  obtain ⟨x,path,presented⟩ := begun.found (fun _ _ => true)
    (fun x => x.presents (some "phone") (stored 2 "token-2" (some "phone") (some (6*minute))))
    (rotatedOnce (some "phone") (some "phone")) (fun _ _ => trivial) (by decide +kernel)
  have left := presented.2.2.2
  rw [← presented.2.1] at left
  exact ⟨x,path,presented,
    reuse_ends_device_chain path (presented_reused presented) "token-3" (presented_descends presented) left (.inr rfl) _⟩

-- The thief refreshes from another device: the successor outlives the reuse.
theorem reuse_leaves_other_device : ¬∀ (table : Table) (clock : Instant) (x : Traced) (a : Args) (r row : RefreshToken)
    (newToken later : String), Reached Traced.step (fun _ _ => True) (.initial table clock) x → Reused x a r →
    (∃ successor, x.Rotated a.hash successor) → x.Descends a.hash later →
    (x.state.table.validateAndRotate a x.state.clock newToken).1.find later = some row →
    row.live x.state.clock = false := by
  intro always
  have begun : Reached Traced.step (fun _ _ => True) (.initial .empty 0) (.initial .empty 0) := .refl
  obtain ⟨x,path,presented⟩ := begun.found (fun _ _ => true)
    (fun x => x.presents (some "phone") (stored 2 "token-2" (some "laptop") none))
    (rotatedOnce (some "phone") (some "laptop")) (fun _ _ => trivial) (by decide +kernel)
  have left := presented.2.2.2
  rw [← presented.2.1] at left
  have dead := always .empty 0 x _ _ _ "token-3" _ path (presented_reused presented)
    ⟨_,by rw [Traced.Rotated,presented.1]; exact List.mem_singleton.mpr rfl⟩ (presented_descends presented) left
  rw [presented.2.1] at dead
  revert dead
  decide

end SmartParking.Auth
