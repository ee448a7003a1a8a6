import SmartParking.Lib.Runs
import SmartParking.Downlink.Command

namespace SmartParking.Spaces.Lock
open Lib
open Downlink (Time)

-- A `lock:*` key. The owner is the client whose SET wrote it; the program never
-- reads it.
structure Key where
  value : String
  deadline : Time
  owner : Nat
  deriving DecidableEq

-- The local variables of one `acquire_lock`.
structure Attempt where
  lockKey : String
  lockValue : String
  timeout : Nat
  deriving DecidableEq

def lockTimeout : Nat := 5

-- The value is the text of the client's own clock. Nothing keeps two clients
-- from reading the same instant.
def attempt (resource : String) (timeout : Option Nat) (utcnow : Time) : Attempt where
  lockKey := "lock:" ++ resource
  lockValue := toString utcnow
  timeout := if timeout.getD 0 = 0 then lockTimeout else timeout.getD 0

-- A client between two Redis commands. A constructor names the command that
-- comes next; `inside` is the body of the `async with`.
inductive Pc where
  | outside
  | set (a : Attempt)
  | retry (a : Attempt)
  | inside (a : Attempt)
  | get (a : Attempt)
  | delete (a : Attempt)
  deriving DecidableEq

structure Removal where
  client : Nat
  key : Key
  deriving DecidableEq

structure State where
  clock : Time
  keys : String → Option Key
  clients : Nat → Pc
  removals : List Removal

def State.initial : State := ⟨0,fun _ => none,fun _ => .outside,[]⟩

def State.move (s : State) (c : Nat) (pc : Pc) : State := {s with clients := Function.update s.clients c pc}

-- SET NX EX on a key that does not exist.
def State.grant (s : State) (c : Nat) (a : Attempt) : State :=
  {s with keys := Function.update s.keys a.lockKey (some ⟨a.lockValue,s.clock+1000*a.timeout,c⟩)}

def State.delete (s : State) (c : Nat) (a : Attempt) : State :=
  {s with
    keys := Function.update s.keys a.lockKey none
    removals := match s.keys a.lockKey with
      | none => s.removals
      | some key => ⟨c,key⟩::s.removals}

def State.advance (s : State) (now : Time) : State :=
  {s with clock := now,keys := fun name => (s.keys name).filter (now < ·.deadline)}

def run (s : State) (c : Nat) : Pc → Option State
  | .outside | .inside _ => none
  | .set a =>
    if s.keys a.lockKey = none then some ((s.grant c a).move c (.inside a))
    else some (s.move c (.retry a))
  | .retry a =>
    if s.keys a.lockKey = none then some ((s.grant c a).move c (.inside a))
    else some (s.move c .outside)
  -- Release lock only if we own it.
  | .get a =>
    if (s.keys a.lockKey).map (·.value) = some a.lockValue then some (s.move c (.delete a))
    else some (s.move c .outside)
  | .delete a => some ((s.delete c a).move c .outside)

inductive Action where
  | acquire (c : Nat) (resource : String) (timeout : Option Nat) (utcnow : Time)
  | run (c : Nat)
  | leave (c : Nat)
  | tick (now : Time)

def step (s : State) : Action → Option State
  | .acquire c resource timeout utcnow =>
    match s.clients c with
    | .outside => some (s.move c (.set (attempt resource timeout utcnow)))
    | _ => none
  | .run c => run s c (s.clients c)
  | .leave c =>
    match s.clients c with
    | .inside a => some (s.move c (.get a))
    | _ => none
  | .tick now => if s.clock ≤ now then some (s.advance now) else none

-- All that a step can do.
inductive Stepped (s : State) : Action → State → Prop where
  | acquire (c : Nat) (resource : String) (timeout : Option Nat) (utcnow : Time) : s.clients c = .outside →
      Stepped s (.acquire c resource timeout utcnow) (s.move c (.set (attempt resource timeout utcnow)))
  | granted (c : Nat) (a : Attempt) : s.clients c = .set a ∨ s.clients c = .retry a → s.keys a.lockKey = none →
      Stepped s (.run c) ((s.grant c a).move c (.inside a))
  | waiting (c : Nat) (a : Attempt) : s.clients c = .set a → Stepped s (.run c) (s.move c (.retry a))
  | refused (c : Nat) (a : Attempt) : s.clients c = .retry a → Stepped s (.run c) (s.move c .outside)
  | matched (c : Nat) (a : Attempt) (key : Key) : s.clients c = .get a → s.keys a.lockKey = some key →
      key.value = a.lockValue → Stepped s (.run c) (s.move c (.delete a))
  | mismatched (c : Nat) (a : Attempt) : s.clients c = .get a → Stepped s (.run c) (s.move c .outside)
  | deleted (c : Nat) (a : Attempt) : s.clients c = .delete a → Stepped s (.run c) ((s.delete c a).move c .outside)
  | leave (c : Nat) (a : Attempt) : s.clients c = .inside a → Stepped s (.leave c) (s.move c (.get a))
  | tick (now : Time) : s.clock ≤ now → Stepped s (.tick now) (s.advance now)

theorem run_sound (ran : run s c (s.clients c) = some next) : Stepped s (.run c) next := by
  cases before : s.clients c with
  | outside | inside a => rw [before] at ran; cases ran
  | set a =>
    simp only [before,run] at ran
    split at ran
    · cases ran; exact .granted c a (.inl before) ‹_›
    · cases ran; exact .waiting c a before
  | retry a =>
    simp only [before,run] at ran
    split at ran
    · cases ran; exact .granted c a (.inr before) ‹_›
    · cases ran; exact .refused c a before
  | get a =>
    simp only [before,run] at ran
    split at ran
    · rename_i read
      obtain ⟨key,found,same⟩ := Option.map_eq_some_iff.mp read
      cases ran
      exact .matched c a key before found same
    · cases ran; exact .mismatched c a before
  | delete a =>
    rw [before] at ran
    cases ran
    exact .deleted c a before

theorem step_sound (ran : step s action = some next) : Stepped s action next := by
  cases action with
  | acquire c resource timeout utcnow =>
    simp only [step] at ran
    split at ran
    · cases ran; exact .acquire c resource timeout utcnow ‹_›
    · cases ran
  | run c => exact run_sound ran
  | leave c =>
    simp only [step] at ran
    split at ran
    · cases ran; exact .leave c _ ‹_›
    · cases ran
  | tick now =>
    simp only [step] at ran
    split at ran
    · cases ran; exact .tick now ‹_›
    · cases ran

theorem advance_key {s : State} (found : (s.advance now).keys name = some key) :
    s.keys name = some key ∧ now < key.deadline := by
  simpa [State.advance,Option.filter_eq_some_iff] using found

theorem delete_key {s : State} (found : (s.delete c a).keys name = some key) :
    name ≠ a.lockKey ∧ s.keys name = some key := by
  by_cases same : name = a.lockKey
  · simp [State.delete,same] at found
  · exact ⟨same,by simpa [State.delete,same] using found⟩

theorem delete_removal {s : State} (member : removal ∈ (s.delete c a).removals) :
    removal ∈ s.removals ∨ removal.client = c ∧ s.keys a.lockKey = some removal.key := by
  cases found : s.keys a.lockKey with
  | none => exact .inl (by simpa [State.delete,found] using member)
  | some key =>
    simp only [State.delete,found,List.mem_cons] at member
    rcases member with rfl | old
    · exact .inr ⟨rfl,rfl⟩
    · exact .inl old

-- While a client stands between its release GET and its DELETE, nobody takes
-- the key; and a GET that returns the client's own text returns the key that
-- the client set.
def Guarded (s : State) : Action → Prop
  | .run c =>
    match s.clients c with
    | .set a | .retry a => s.keys a.lockKey = none → ∀ other b, s.clients other = .delete b → b.lockKey ≠ a.lockKey
    | .get a => ∀ key, s.keys a.lockKey = some key → key.value = a.lockValue → key.owner = c
    | _ => True
  | _ => True

structure Owned (s : State) : Prop where
  deleting : ∀ c a key, s.clients c = .delete a → s.keys a.lockKey = some key → key.owner = c
  removed : ∀ removal ∈ s.removals, removal.key.owner = removal.client

theorem Owned.move (owned : Owned s) (other : ∀ a, pc ≠ .delete a) : Owned (s.move c pc) := by
  refine ⟨?_,owned.removed⟩
  intro d a key deleting found
  by_cases same : d = c
  · subst d
    simp only [State.move,Function.update_self] at deleting
    exact absurd deleting (other a)
  · simp only [State.move,Function.update_of_ne same] at deleting
    exact owned.deleting d a key deleting found

theorem owned_granted (owned : Owned s) (guard : ∀ other b, s.clients other = .delete b → b.lockKey ≠ a.lockKey) :
    Owned (s.grant c a) := by
  refine ⟨?_,owned.removed⟩
  intro d b key deleting found
  have different := guard d b deleting
  simp only [State.grant,Function.update_of_ne different] at found
  exact owned.deleting d b key deleting found

theorem owned_preserved (owned : Owned s) (guarded : Guarded s action) (stepped : Stepped s action next) :
    Owned next := by
  cases stepped with
  | acquire c | waiting c a _ | refused c a _ | mismatched c a _ | leave c a _ => exact owned.move nofun
  | granted c a before empty =>
    have guard : ∀ other b, s.clients other = .delete b → b.lockKey ≠ a.lockKey := by
      rcases before with before | before <;> (simp only [Guarded,before] at guarded; exact guarded empty)
    exact (owned_granted owned guard).move nofun
  | matched c a key before found same =>
    simp only [Guarded,before] at guarded
    refine ⟨?_,owned.removed⟩
    intro d b other deleting present
    by_cases mover : d = c
    · subst d
      simp only [State.move,Function.update_self,Pc.delete.injEq] at deleting
      subst deleting
      cases found.symm.trans present
      exact guarded key found same
    · simp only [State.move,Function.update_of_ne mover] at deleting
      exact owned.deleting d b other deleting present
  | deleted c a before =>
    have kept : Owned (s.delete c a) := by
      refine ⟨?_,?_⟩
      · intro d b key deleting found
        exact owned.deleting d b key deleting (delete_key found).2
      · intro removal member
        rcases delete_removal member with old | ⟨same,found⟩
        · exact owned.removed removal old
        · rw [same]
          exact owned.deleting c a removal.key before found
    exact kept.move nofun
  | tick now _ =>
    refine ⟨?_,owned.removed⟩
    intro c a key deleting found
    exact owned.deleting c a key deleting (advance_key found).1

theorem released_by_owner (path : Runs.Reached step Guarded State.initial s) :
    ∀ removal ∈ s.removals, removal.key.owner = removal.client := by
  have initial : Owned State.initial := ⟨nofun,List.forall_mem_nil _⟩
  have owned := path.invariant Owned initial fun owned guarded ran => owned_preserved owned guarded (step_sound ran)
  exact owned.removed

def Action.client : Action → Option Nat
  | .acquire c _ _ _ | .run c | .leave c => some c
  | .tick _ => none

theorem step_clients (stepped : Stepped s action next) (other : action.client ≠ some c) :
    next.clients c = s.clients c := by
  cases stepped with
  | acquire d | granted d | waiting d | refused d | matched d | mismatched d | deleted d | leave d =>
    have different : c ≠ d := fun same => other (by rw [same]; rfl)
    simp [State.move,State.grant,State.delete,different]
  | tick => rfl

theorem reached_outside (path : Runs.Reached step meets State.initial s)
    (absent : ∀ s action, meets s action → action.client ≠ some c) : s.clients c = .outside := by
  refine path.invariant (fun s => s.clients c = .outside) rfl ?_
  intro s action next outside met ran
  rw [step_clients (step_sound ran) (absent s action met),outside]

def Action.paired (action : Action) : Bool := action.client.all (· < 2)

def undisturbed (s : State) (a : Attempt) (other : Nat) : Bool :=
  match s.clients other with
  | .delete b => b.lockKey != a.lockKey
  | _ => true

def pairGuarded (s : State) : Action → Bool
  | .run c => decide (c < 2) &&
    match s.clients c with
    | .set a | .retry a => undisturbed s a 0 && undisturbed s a 1
    | .get a => (s.keys a.lockKey).all fun key => key.owner == c
    | _ => true
  | action => action.paired

theorem undisturbed_sound (test : undisturbed s a other = true) (deleting : s.clients other = .delete b) :
    b.lockKey ≠ a.lockKey := by
  simpa [undisturbed,deleting] using test

theorem pairGuarded_sound (path : Runs.Reached step (fun s action => Guarded s action ∧ action.paired = true) State.initial s)
    (test : pairGuarded s action = true) : Guarded s action ∧ action.paired = true := by
  cases action with
  | acquire | leave | tick => exact ⟨trivial,test⟩
  | run c =>
    rw [pairGuarded,Bool.and_eq_true] at test
    refine ⟨?_,test.1⟩
    have pair : ∀ other b, s.clients other = .delete b → other = 0 ∨ other = 1 := by
      intro other b deleting
      by_contra absent
      have outside := reached_outside path (c := other) fun _ action met same => by
        simp only [Action.paired,same,Option.all_some,decide_eq_true_eq] at met
        omega
      rw [outside] at deleting
      cases deleting
    cases before : s.clients c with
    | outside | inside a | delete a => simp only [Guarded,before]
    | get a =>
      simp only [before] at test
      simp only [Guarded,before]
      intro key found _
      simpa [found] using test.2
    | set a | retry a =>
      simp only [before,Bool.and_eq_true] at test
      simp only [Guarded,before]
      intro _ other b deleting
      rcases pair other b deleting with rfl | rfl
      · exact undisturbed_sound test.2.1 deleting
      · exact undisturbed_sound test.2.2 deleting

-- The second client waits for the first one's DELETE and gets the lock at its retry.
theorem released_by_owner_retried : ∃ s : State, s.removals.map (·.client) = [1,0] ∧
    ∀ removal ∈ s.removals, removal.key.owner = removal.client := by
  have start : Runs.Reached step (fun s action => Guarded s action ∧ action.paired = true) State.initial State.initial :=
    .refl
  obtain ⟨s,path,both⟩ := start.found pairGuarded (fun s => s.removals.map (·.client) = [1,0])
    [.acquire 0 "space:A1" none 7,.run 0,.acquire 1 "space:A1" none 7,.run 1,.leave 0,.run 0,.run 0,.run 1,
      .leave 1,.run 1,.run 1] pairGuarded_sound (by decide +kernel)
  exact ⟨s,both,released_by_owner (path.weaken fun _ _ met => met.1)⟩

-- The key expires between the GET and the DELETE of its owner, and the DELETE
-- takes the next client's key away.
theorem lock_taken_from_other : ∃ s, Runs.Reached step (fun _ _ => True) State.initial s ∧
    ¬∀ removal ∈ s.removals, removal.key.owner = removal.client := by
  have start : Runs.Reached step (fun _ _ => True) State.initial State.initial := .refl
  obtain ⟨s,path,removals⟩ := start.found (fun _ _ => true)
    (fun s => s.removals = [⟨0,⟨"5000",10000,1⟩⟩])
    [.acquire 0 "space:A1" none 0,.run 0,.leave 0,.tick 4999,.run 0,.tick 5000,.acquire 1 "space:A1" none 5000,
      .run 1,.run 0] (fun _ _ => trivial) (by decide +kernel)
  exact ⟨s,path,by simp [removals]⟩

def Pc.attempt : Pc → Option Attempt
  | .outside => none
  | .set a | .retry a | .inside a | .get a | .delete a => some a

-- A client keeps its local variables until it is outside again.
theorem run_attempt (stepped : Stepped s (.run c) next) (running : (next.clients c).attempt = some a) :
    (s.clients c).attempt = some a := by
  cases stepped with
  | granted _ b before _ =>
    simp only [State.move,Function.update_self] at running
    rcases before with before | before <;> (rw [before]; exact running)
  | waiting _ b before | matched _ b _ before =>
    simp only [State.move,Function.update_self] at running
    rw [before]
    exact running
  | refused | mismatched | deleted =>
    simp only [State.move,Function.update_self] at running
    cases running

def Pc.holding : Pc → Option Attempt
  | .inside a | .get a | .delete a => some a
  | _ => none

-- No key expires while the client that set it is inside its `async with`, the
-- release at its end included.
def Lasting (s : State) : Action → Prop
  | .tick now => ∀ name key, s.keys name = some key → key.deadline ≤ now →
      ∀ a, (s.clients key.owner).holding = some a → a.lockKey ≠ name
  | _ => True

-- Whoever is inside finds its own key.
def Locked (s : State) : Prop :=
  ∀ c a, (s.clients c).holding = some a → ∃ key, s.keys a.lockKey = some key ∧ key.owner = c ∧ key.value = a.lockValue

theorem Locked.alone (locked : Locked s) (one : (s.clients c).holding = some a) (two : (s.clients d).holding = some b)
    (same : a.lockKey = b.lockKey) : c = d := by
  obtain ⟨key,found,rfl,_⟩ := locked c a one
  obtain ⟨other,present,rfl,_⟩ := locked d b two
  rw [← same,found] at present
  cases present
  rfl

theorem Locked.move (locked : Locked s)
    (held : ∀ a, pc.holding = some a → ∃ key, s.keys a.lockKey = some key ∧ key.owner = c ∧ key.value = a.lockValue) :
    Locked (s.move c pc) := by
  intro d a holding
  by_cases same : d = c
  · subst d
    simp only [State.move,Function.update_self] at holding
    exact held a holding
  · simp only [State.move,Function.update_of_ne same] at holding
    exact locked d a holding

theorem locked_granted (locked : Locked s) (empty : s.keys a.lockKey = none) :
    Locked ((s.grant c a).move c (.inside a)) := by
  intro d b holding
  by_cases same : d = c
  · subst d
    simp only [State.move,Function.update_self] at holding
    cases holding
    exact ⟨⟨a.lockValue,s.clock+1000*a.timeout,c⟩,by simp [State.move,State.grant],rfl,rfl⟩
  · simp only [State.move,State.grant,Function.update_of_ne same] at holding ⊢
    obtain ⟨key,found,owner,value⟩ := locked d b holding
    have different : b.lockKey ≠ a.lockKey := by
      intro equal
      rw [equal,empty] at found
      cases found
    exact ⟨key,by rw [Function.update_of_ne different,found],owner,value⟩

theorem locked_deleted (locked : Locked s) (before : s.clients c = .delete a) :
    Locked ((s.delete c a).move c .outside) := by
  intro d b holding
  by_cases same : d = c
  · subst d
    simp [State.move,Pc.holding] at holding
  · simp only [State.move,State.delete,Function.update_of_ne same] at holding ⊢
    obtain ⟨key,found,owner,value⟩ := locked d b holding
    have different : b.lockKey ≠ a.lockKey := by
      intro equal
      exact same (locked.alone holding (by rw [before]; rfl) equal)
    exact ⟨key,by rw [Function.update_of_ne different,found],owner,value⟩

theorem locked_preserved (locked : Locked s) (lasting : Lasting s action) (stepped : Stepped s action next) :
    Locked next := by
  cases stepped with
  | acquire | waiting | refused | mismatched => exact locked.move nofun
  | granted c a _ empty => exact locked_granted locked empty
  | matched c a key before | leave c a before =>
    refine locked.move ?_
    intro b holding
    cases holding
    exact locked c a (by rw [before]; rfl)
  | deleted c a before => exact locked_deleted locked before
  | tick now _ =>
    intro c a holding
    obtain ⟨key,found,owner,value⟩ := locked c a holding
    have alive : now < key.deadline := by
      by_contra expired
      exact lasting a.lockKey key found (Int.not_lt.mp expired) a (owner ▸ holding) rfl
    exact ⟨key,by simp [State.advance,Option.filter_eq_some_iff,found,alive],owner,value⟩

theorem reached_locked (path : Runs.Reached step Lasting State.initial s) : Locked s :=
  path.invariant Locked nofun fun locked lasting ran => locked_preserved locked lasting (step_sound ran)

end SmartParking.Spaces.Lock
