import Mathlib.Data.Option.Basic

namespace SmartParking.Lib.Faults

variable {Site State Error : Type}

-- A program that issues commands, each from a site of its text. The first
-- argument names the one site whose command fails, if there is one.
def Program (Site State Error α : Type) := Option Site → State → State × Except Error α

namespace Program

variable {α β : Type}

def pure (a : α) : Program Site State Error α := fun _ s => (s,.ok a)

def bind (p : Program Site State Error α) (f : α → Program Site State Error β) : Program Site State Error β :=
  fun fault s =>
    match p fault s with
    | (s,.ok a) => f a fault s
    | (s,.error e) => (s,.error e)

instance : Monad (Program Site State Error) where
  pure := pure
  bind := bind

def raise (e : Error) : Program Site State Error α := fun _ s => (s,.error e)

-- A failing command changes nothing.
def command [DecidableEq Site] (site : Site) (error : Error) (run : State → State × α) :
    Program Site State Error α := fun fault s =>
  if fault = some site then (s,.error error) else ((run s).1,.ok (run s).2)

-- What the program does on its own, without a command.
def compute (run : State → State × α) : Program Site State Error α := fun _ s => ((run s).1,.ok (run s).2)

-- `try`: the exception becomes the result.
def attempt {Other : Type} (p : Program Site State Error α) : Program Site State Other (Except Error α) :=
  fun fault s => ((p fault s).1,.ok (p fault s).2)

-- `finally`: what the clean-up raises replaces whatever came before it.
def ensuring (body : Program Site State Error α) (cleanUp : Program Site State Error Unit) :
    Program Site State Error α := do
  let result ← body.attempt
  cleanUp
  match result with
  | .ok a => pure a
  | .error e => raise e

-- A program of a part, run inside a larger one.
def inside {Outer Part OuterSite PartError : Type} (get : Outer → Part) (put : Outer → Part → Outer)
    (site : OuterSite → Option Site) (error : PartError → Error) (p : Program Site Part PartError α) :
    Program OuterSite Outer Error α := fun fault s =>
  (put s (p (fault.bind site) (get s)).1,(p (fault.bind site) (get s)).2.mapError error)

variable {p : Program Site State Error α} {f : α → Program Site State Error β} {fault : Option Site} {s next : State}

@[simp] theorem pure_run (a : α) : (Pure.pure a : Program Site State Error α) fault s = (s,.ok a) := rfl
@[simp] theorem raise_run (e : Error) : (raise e : Program Site State Error α) fault s = (s,.error e) := rfl
@[simp] theorem attempt_run {Other : Type} :
    (p.attempt : Program Site State Other (Except Error α)) fault s = ((p fault s).1,.ok (p fault s).2) := rfl

@[simp] theorem compute_run (run : State → State × α) :
    (compute run : Program Site State Error α) fault s = ((run s).1,.ok (run s).2) := rfl

theorem bind_run : (p >>= f) fault s =
    match p fault s with
    | (s,.ok a) => f a fault s
    | (s,.error e) => (s,.error e) := rfl

theorem bind_ok (ran : p fault s = (next,.ok a)) : (p >>= f) fault s = f a fault next := by
  rw [bind_run,ran]

theorem bind_error (ran : p fault s = (next,.error e)) : (p >>= f) fault s = (next,.error e) := by
  rw [bind_run,ran]

theorem bind_returns : (∃ b, ((p >>= f) fault s).2 = .ok b) ↔
    ∃ a, (p fault s).2 = .ok a ∧ ∃ b, (f a fault (p fault s).1).2 = .ok b := by
  rw [bind_run]
  split
  · rename_i ran
    simp [ran]
  · rename_i ran
    simp [ran]

section Commands

variable [DecidableEq Site] {site : Site} {error : Error} {run : State → State × α}

theorem command_fails : (command site error run) (some site) s = (s,.error error) := if_pos rfl

theorem command_runs (healthy : fault ≠ some site) : (command site error run) fault s = ((run s).1,.ok (run s).2) :=
  if_neg healthy

@[simp] theorem command_none : (command site error run) none s = ((run s).1,.ok (run s).2) := rfl

end Commands

-- The failing site is none of a class, or it is one.
theorem spared_ne {listed : Site → Bool} {site : Site} (spared : fault.any listed = false) (member : listed site = true) :
    fault ≠ some site := by
  intro failing
  rw [failing,Option.any_some,member] at spared
  cases spared

theorem hit_ne {listed : Site → Bool} {site : Site} (hit : fault.any listed = true) (other : listed site = false) :
    fault ≠ some site := by
  intro failing
  rw [failing,Option.any_some,other] at hit
  cases hit

-- A view of the state that a program leaves as it is, whatever fails.
def Keeps (view : State → β) (p : Program Site State Error α) : Prop := ∀ fault s, view (p fault s).1 = view s

variable {view : State → γ}

theorem keeps_pure (a : α) : Keeps view (Pure.pure a : Program Site State Error α) := fun _ _ => rfl

theorem keeps_raise (e : Error) : Keeps view (raise e : Program Site State Error α) := fun _ _ => rfl

theorem keeps_command [DecidableEq Site] {site : Site} {error : Error} {run : State → State × α}
    (same : ∀ s, view (run s).1 = view s) : Keeps view (command site error run) := by
  intro fault s
  unfold command
  split
  · rfl
  · exact same s

theorem keeps_compute {run : State → State × α} (same : ∀ s, view (run s).1 = view s) :
    Keeps view (compute run : Program Site State Error α) := fun _ s => same s

theorem keeps_bind (first : Keeps view p) (second : ∀ a, Keeps view (f a)) : Keeps view (p >>= f) := by
  intro fault s
  rw [bind_run]
  have kept := first fault s
  split
  · rename_i middle a ran
    rw [second a fault middle,← kept,ran]
  · rename_i middle e ran
    rw [← kept,ran]

theorem keeps_attempt {Other : Type} (kept : Keeps view p) :
    Keeps view (p.attempt : Program Site State Other (Except Error α)) := kept

theorem keeps_map (part : γ → δ) (kept : Keeps view p) : Keeps (fun s => part (view s)) p :=
  fun fault s => congrArg part (kept fault s)

-- A property of the state that a program keeps, whatever fails.
def Preserves (holds : State → Prop) (p : Program Site State Error α) : Prop := ∀ fault s, holds s → holds (p fault s).1

section Preserving

variable {holds : State → Prop}

theorem preserves_raise (e : Error) : Preserves holds (raise e : Program Site State Error α) := fun _ _ kept => kept

theorem preserves_command [DecidableEq Site] {site : Site} {error : Error} {run : State → State × α}
    (preserved : ∀ s, holds s → holds (run s).1) : Preserves holds (command site error run) := by
  intro fault s kept
  unfold command
  split
  · exact kept
  · exact preserved s kept

theorem preserves_compute {run : State → State × α} (preserved : ∀ s, holds s → holds (run s).1) :
    Preserves holds (compute run : Program Site State Error α) := fun _ s => preserved s

theorem preserves_bind (first : Preserves holds p) (second : ∀ a, Preserves holds (f a)) : Preserves holds (p >>= f) := by
  intro fault s start
  have middle := first fault s start
  rw [bind_run]
  split
  · rename_i ran
    rw [ran] at middle
    exact second _ fault _ middle
  · rename_i ran
    rwa [ran] at middle

end Preserving

-- A program that never raises.
def Total (p : Program Site State Error α) : Prop := ∀ fault s, ∃ a, (p fault s).2 = .ok a

theorem total_pure (a : α) : Total (Pure.pure a : Program Site State Error α) := fun _ _ => ⟨a,rfl⟩

theorem total_attempt {Other : Type} (p : Program Site State Error α) :
    Total (p.attempt : Program Site State Other (Except Error α)) := fun fault s => ⟨(p fault s).2,rfl⟩

theorem total_bind (first : Total p) (second : ∀ a, Total (f a)) : Total (p >>= f) := by
  intro fault s
  obtain ⟨a,ran⟩ := first fault s
  have split : p fault s = ((p fault s).1,.ok a) := by rw [← ran]
  rw [bind_ok split]
  exact second a fault _

-- A view of the state that a program leaves as it is whenever it raises.
def Atomic (view : State → β) (p : Program Site State Error α) : Prop :=
  ∀ fault s e, (p fault s).2 = .error e → view (p fault s).1 = view s

theorem atomic_keeps (kept : Keeps view p) : Atomic view p := fun fault s _ _ => kept fault s

theorem atomic_bind (first : Keeps view p) (second : ∀ a, Atomic view (f a)) : Atomic view (p >>= f) := by
  intro fault s e raised
  rw [bind_run] at raised ⊢
  have kept := first fault s
  split at raised
  · rename_i middle a ran
    rw [ran] at kept
    exact (second a fault middle e raised).trans kept
  · rename_i middle e ran
    rw [ran] at kept
    exact kept

-- The last command of a program may change anything.
theorem atomic_last [DecidableEq Site] {site : Site} {error : Error} {run : State → State × α}
    (second : ∀ a, Total (f a)) : Atomic view (command site error run >>= f) := by
  intro fault s e raised
  by_cases failing : fault = some site
  · rw [failing,bind_error command_fails]
  · rw [bind_ok (command_runs failing)] at raised
    obtain ⟨b,ran⟩ := second (run s).2 fault (run s).1
    rw [ran] at raised
    cases raised

-- After a body, whatever became of it, its clean-up runs.
theorem ensuring_run {cleanUp : Program Site State Error Unit} :
    ensuring p cleanUp fault s =
      match cleanUp fault (p fault s).1 with
      | (last,.ok _) => (last,(p fault s).2)
      | (last,.error e) => (last,.error e) := by
  unfold ensuring
  rw [bind_ok attempt_run,bind_run]
  split
  · rename_i ran
    rw [ran]
    cases (p fault s).2 <;> rfl
  · rename_i ran
    rw [ran]

theorem ensuring_state {cleanUp : Program Site State Error Unit} :
    (ensuring p cleanUp fault s).1 = (cleanUp fault (p fault s).1).1 := by
  rw [ensuring_run]
  split
  · rename_i ran
    rw [ran]
  · rename_i ran
    rw [ran]

end Program

end SmartParking.Lib.Faults
