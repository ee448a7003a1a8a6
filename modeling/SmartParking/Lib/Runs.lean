import Mathlib.Data.List.Basic

namespace SmartParking.Lib.Runs

variable {State Action : Type}

-- The states of all finite runs of a partial step function whose steps all
-- meet a condition on the state before the step and the action taken.
inductive Reached (step : State → Action → Option State) (meets : State → Action → Prop)
    (start : State) : State → Prop where
  | refl : Reached step meets start start
  | step : Reached step meets start s → meets s action → step s action = some next →
      Reached step meets start next

variable {step : State → Action → Option State} {meets stronger : State → Action → Prop}
  {start s next : State}

-- Induction over a run: the only way an invariant is established below.
theorem Reached.invariant (holds : State → Prop) (path : Reached step meets start s)
    (initial : holds start)
    (preserved : ∀ {s action next}, holds s → meets s action → step s action = some next → holds next) :
    holds s := by
  induction path with
  | refl => exact initial
  | step _ met ran ih => exact preserved ih met ran

theorem Reached.invariantUnder (known holds : State → Prop) (path : Reached step meets start s)
    (valid : ∀ {s}, Reached step meets start s → known s) (initial : holds start)
    (preserved : ∀ {s action next}, known s → holds s → meets s action → step s action = some next → holds next) :
    holds s := by
  induction path with
  | refl => exact initial
  | step prior met ran ih => exact preserved (valid prior) ih met ran

-- What is known of every state of a run may be used to meet its conditions.
theorem Reached.meeting {other : State → Action → Prop} (path : Reached step meets start s)
    (implied : ∀ {s action}, Reached step meets start s → meets s action → other s action) :
    Reached step other start s := by
  induction path with
  | refl => exact .refl
  | step prior met ran ih => exact .step ih (implied prior met) ran

theorem Reached.weaken (path : Reached step stronger start s)
    (implied : ∀ s action, stronger s action → meets s action) : Reached step meets start s :=
  path.meeting fun _ met => implied _ _ met

-- Every step of a run of the given actions, as far as it goes, has a property.
def Along (step : State → Action → Option State) (holds : State → Action → State → Prop) :
    State → List Action → Prop
  | _,[] => True
  | s,action::rest => ∀ next, step s action = some next → holds s action next ∧ Along step holds next rest

-- Two properties that agree as long as an invariant holds, which one of them
-- keeps, have the same runs.
theorem along_iff {holds other : State → Action → State → Prop} (known : State → Prop) (actions : List Action)
    (initial : known start)
    (same : ∀ {s action next}, known s → step s action = some next → (holds s action next ↔ other s action next))
    (preserved : ∀ {s action next}, known s → other s action next → step s action = some next → known next) :
    Along step holds start actions ↔ Along step other start actions := by
  induction actions generalizing start with
  | nil => exact Iff.rfl
  | cons action rest ih =>
    refine forall₂_congr fun next ran => ?_
    rw [same initial ran]
    exact and_congr_right fun kept => ih (preserved initial kept ran)

theorem along_congr {holds other : State → Action → State → Prop} (actions : List Action)
    (same : ∀ {s action next}, step s action = some next → (holds s action next ↔ other s action next)) :
    Along step holds start actions ↔ Along step other start actions :=
  along_iff (fun _ => True) actions trivial (fun _ => same) fun _ _ _ => trivial

-- A part of the state whose every change is a step of another machine is run by
-- that machine.
theorem Reached.project {Part Other : Type} (part : State → Part) {other : Part → Other → Option Part}
    {condition : Part → Other → Prop} (path : Reached step meets start s)
    (stepped : ∀ {s action next}, meets s action → step s action = some next →
      part next = part s ∨ ∃ b, condition (part s) b ∧ other (part s) b = some (part next)) :
    Reached other condition (part start) (part s) := by
  induction path with
  | refl => exact .refl
  | step _ met ran ih =>
    rcases stepped met ran with same | ⟨b,meeting,moved⟩
    · rwa [same]
    · exact .step ih meeting moved

def exec (step : State → Action → Option State) : State → List Action → Option State
  | s,[] => some s
  | s,action::rest => (step s action).bind (exec step · rest)

theorem exec_append (earlier later : List Action) :
    exec step start (earlier ++ later) = (exec step start earlier).bind (exec step · later) := by
  induction earlier generalizing start with
  | nil => rfl
  | cons action earlier ih =>
    simp only [List.cons_append,exec,Option.bind_assoc]
    exact Option.bind_congr fun next _ => ih

theorem along_exec {holds : State → Action → State → Prop} (along : Along step holds start (earlier ++ rest))
    (ran : exec step start earlier = some s) : Along step holds s rest := by
  induction earlier generalizing start with
  | nil => cases ran; exact along
  | cons action earlier ih =>
    obtain ⟨middle,first,later⟩ := Option.bind_eq_some_iff.mp ran
    exact ih (along middle first).2 later

theorem exec_ordered {order : State → State → Prop} (refl : ∀ s, order s s)
    (trans : ∀ {a b c}, order a b → order b c → order a c)
    (along : Along step (fun s _ next => order s next) s (later ++ rest)) (ran : exec step s later = some next) :
    order s next := by
  induction later generalizing s with
  | nil => cases ran; exact refl _
  | cons action later ih =>
    obtain ⟨middle,first,after⟩ := Option.bind_eq_some_iff.mp ran
    obtain ⟨moved,remaining⟩ := along middle first
    exact trans moved (ih remaining after)

-- A preorder that every step of a run respects is one that every two states of
-- the run respect.
theorem along_ordered {order : State → State → Prop} (actions : List Action) (refl : ∀ s, order s s)
    (trans : ∀ {a b c}, order a b → order b c → order a c) :
    (∀ earlier later rest, actions = earlier ++ (later ++ rest) → ∀ s, exec step start earlier = some s →
      ∀ next, exec step s later = some next → order s next) ↔
      Along step (fun s _ next => order s next) start actions := by
  constructor
  · intro between
    induction actions generalizing start with
    | nil => trivial
    | cons action actions ih =>
      intro next ran
      refine ⟨between [] [action] actions rfl start rfl next (by simp [exec,ran]),ih ?_⟩
      intro earlier later rest equal s before last after
      exact between (action::earlier) later rest (by rw [equal]; rfl) s (by simp [exec,ran,before]) last after
  · intro along earlier later rest equal s before next after
    rw [equal] at along
    exact exec_ordered refl trans (along_exec along before) after

-- Where every step says when it keeps a property that no step restores, the
-- property at the end of a run is a property of its steps.
theorem executed_iff {condition : State → Action → Prop} (holds known : State → Prop) (actions : List Action)
    (preserved : ∀ {s action next}, known s → condition s action → step s action = some next → known next)
    (kept : ∀ {s action next}, known s → condition s action → step s action = some next →
      (holds next ↔ holds s ∧ meets s action))
    (initial : known start) (conditions : Along step (fun s action _ => condition s action) start actions)
    (ran : exec step start actions = some last) :
    holds last ↔ holds start ∧ Along step (fun s action _ => meets s action) start actions := by
  induction actions generalizing start with
  | nil =>
    cases ran
    exact (and_iff_left trivial).symm
  | cons action rest ih =>
    obtain ⟨next,first,later⟩ := Option.bind_eq_some_iff.mp ran
    obtain ⟨condition,conditions⟩ := conditions next first
    have after := ih (preserved initial condition first) conditions later
    rw [kept initial condition first] at after
    simp only [Along,first,Option.some.injEq,forall_eq']
    rw [after,and_assoc]

-- Whether a run of the given actions meets a test at every step.
def tested (step : State → Action → Option State) (test : State → Action → Bool) : State → List Action → Bool
  | _,[] => true
  | s,action::rest => test s action && (step s action).all (tested step test · rest)

theorem along_tested {test : State → Action → Bool} (sound : ∀ {s action}, test s action = true → meets s action)
    (actions : List Action) (passed : tested step test start actions = true) :
    Along step (fun s action _ => meets s action) start actions := by
  induction actions generalizing start with
  | nil => trivial
  | cons action rest ih =>
    obtain ⟨first,later⟩ := Bool.and_eq_true_iff.mp passed
    intro next ran
    rw [ran] at later
    exact ⟨sound first,ih later⟩

def guarded (step : State → Action → Option State) (test : State → Action → Bool) (s : State) (action : Action) :
    Option State :=
  if test s action then step s action else none

-- An explicit run, found by evaluation.
theorem Reached.found (path : Reached step meets start s) (test : State → Action → Bool) (holds : State → Prop)
    (actions : List Action)
    (sound : ∀ {s action}, Reached step meets start s → test s action = true → meets s action)
    (ran : ∃ next ∈ exec (guarded step test) s actions, holds next) :
    ∃ next, Reached step meets start next ∧ holds next := by
  induction actions generalizing s with
  | nil =>
    obtain ⟨next,equal,valid⟩ := ran
    cases Option.some.inj equal
    exact ⟨s,path,valid⟩
  | cons action rest ih =>
    obtain ⟨next,executed,valid⟩ := ran
    obtain ⟨middle,first,later⟩ := Option.bind_eq_some_iff.mp executed
    unfold guarded at first
    split at first
    · exact ih (.step path (sound path ‹_›) first) ⟨next,later,valid⟩
    · cases first

-- A run goes on as far as its actions can be executed.
theorem Reached.executed (path : Reached step (fun _ _ => True) start s) (actions : List Action)
    (ran : exec step s actions = some last) : Reached step (fun _ _ => True) start last := by
  induction actions generalizing s with
  | nil =>
    cases ran
    exact path
  | cons action rest ih =>
    obtain ⟨middle,first,later⟩ := Option.bind_eq_some_iff.mp ran
    exact ih (.step path trivial first) later

theorem Reached.passed (path : Reached step (fun _ _ => True) start s) (actions : List Action) (test : State → Bool)
    (passed : (exec step s actions).any test = true) :
    ∃ last, Reached step (fun _ _ => True) start last ∧ exec step s actions = some last ∧ test last = true := by
  cases ran : exec step s actions with
  | none =>
    rw [ran] at passed
    cases passed
  | some last =>
    rw [ran] at passed
    exact ⟨last,path.executed actions ran,rfl,passed⟩

end SmartParking.Lib.Runs
