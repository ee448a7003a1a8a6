import Mathlib.Data.List.Perm.Basic

namespace SmartParking.Lib.RoundRobin

-- One turn of a queue whose entries have tries left: the head leaves for good,
-- or goes to the tail with fewer tries than before.
inductive Turn {α : Type} : List (α × Nat) → List (α × Nat) → List α → Prop where
  | idle : Turn [] [] []
  | leaves : Turn ((a,c)::q) q [a]
  | again : left < c → Turn ((a,c)::q) (q ++ [(a,left)]) []

def Charged {α : Type} (q : List (α × Nat)) : Prop := ∀ entry ∈ q, 0 < entry.2

-- Turns of a queue in which what goes round always has a try left.
inductive Turns {α : Type} : Nat → List (α × Nat) → List (α × Nat) → List α → Prop where
  | refl : Charged q → Turns 0 q q []
  | turn : Charged q → Turn q next first → Turns n next last later → Turns (n+1) q last (first ++ later)

def total {α : Type} : List (α × Nat) → Nat
  | [] => 0
  | (_,c)::q => c+total q

variable {α : Type} {n bound : Nat} {q next last : List (α × Nat)} {out : List α}

theorem total_append (first second : List (α × Nat)) : total (first ++ second) = total first+total second := by
  induction first with
  | nil => exact (Nat.zero_add _).symm
  | cons entry first ih =>
    simp only [List.cons_append,total,ih]
    omega

theorem total_bound (q : List (α × Nat)) (each : ∀ entry ∈ q, entry.2 ≤ bound) : total q ≤ bound*q.length := by
  induction q with
  | nil => exact Nat.zero_le _
  | cons entry q ih =>
    have first := each entry List.mem_cons_self
    have rest := ih fun other member => each other (List.mem_cons_of_mem _ member)
    rw [total,List.length_cons,Nat.mul_add,Nat.mul_one]
    omega

theorem Turn.total_lt (turn : Turn q next out) (charged : Charged q) (waiting : q ≠ []) : total next < total q := by
  cases turn with
  | idle => exact absurd rfl waiting
  | leaves =>
    have positive := charged _ List.mem_cons_self
    rw [total]
    omega
  | again fewer =>
    simp only [total_append,total]
    omega

theorem Turn.conserves (turn : Turn q next out) : (out ++ next.map Prod.fst).Perm (q.map Prod.fst) := by
  cases turn with
  | idle => exact .refl _
  | leaves => exact .refl _
  | again =>
    rw [List.map_append]
    exact List.perm_append_singleton _ _

-- What has left and what is still there is what was there.
theorem Turns.conserves (turns : Turns n q last out) : (out ++ last.map Prod.fst).Perm (q.map Prod.fst) := by
  induction turns with
  | refl => exact .refl _
  | turn _ first _ ih =>
    rw [List.append_assoc]
    exact (ih.append_left _).trans first.conserves

theorem Turns.idle (turns : Turns n q last out) (empty : q = []) : last = [] := by
  induction turns with
  | refl => exact empty
  | turn _ first _ ih =>
    cases first with
    | idle => exact ih rfl
    | leaves => cases empty
    | again => cases empty

-- As many turns as there are tries empty the queue.
theorem Turns.empties (turns : Turns n q last out) (enough : total q ≤ n) : last = [] := by
  induction turns with
  | @refl q charged =>
    cases q with
    | nil => rfl
    | cons entry q =>
      have positive := charged entry List.mem_cons_self
      rw [total] at enough
      omega
  | @turn q next first n last later charged one rest ih =>
    cases q with
    | nil =>
      cases one with
      | idle => exact rest.idle rfl
    | cons entry q =>
      have fewer := one.total_lt charged (List.cons_ne_nil _ _)
      exact ih (by omega)

theorem Turns.drains (turns : Turns n q last out) (enough : total q ≤ n) : out.Perm (q.map Prod.fst) := by
  have conserved := turns.conserves
  rw [turns.empties enough] at conserved
  simpa using conserved

end SmartParking.Lib.RoundRobin
