import Mathlib.Data.List.Nodup

namespace SmartParking.Lib.Fifo

-- What happens in a line of people. Nobody joins twice, but whoever was served may
-- stand in the line again; only the first time counts here.
inductive Entry (α : Type) where
  | joined (x : α)
  | served (x : α)
  | withdrew (x : α)
  deriving DecidableEq

variable {α : Type} {log earlier later : List (Entry α)} {x y : α} {queue rest : List α}

def joins : List (Entry α) → List α
  | [] => []
  | .joined x::earlier => joins earlier ++ [x]
  | _::earlier => joins earlier

-- Who has not been served. Logs are newest first, lines start with who is next.
def waiting [DecidableEq α] : List (Entry α) → List α
  | [] => []
  | .joined x::earlier => waiting earlier ++ [x]
  | .served x::earlier | .withdrew x::earlier => (waiting earlier).filter (· ≠ x)

-- Whoever is served for the first time is first in the line.
def Fair [DecidableEq α] : List (Entry α) → Prop
  | [] => True
  | .joined x::earlier => x ∉ joins earlier ∧ Fair earlier
  | .served y::earlier => (.served y ∉ earlier → (waiting earlier).head? = some y) ∧ Fair earlier
  | .withdrew _::earlier => Fair earlier

theorem mem_joins : x ∈ joins log ↔ .joined x ∈ log := by
  induction log with
  | nil => simp [joins]
  | cons entry earlier ih =>
    cases entry with
    | joined z => simp [joins,ih,or_comm]
    | served z | withdrew z => simpa [joins] using ih

theorem joins_sublist (before : [.joined y,.joined x].Sublist log) : [x,y].Sublist (joins log) := by
  induction log with
  | nil => cases before
  | cons entry earlier ih =>
    cases before with
    | cons _ within =>
      have found := ih within
      cases entry with
      | joined z => exact found.trans (List.sublist_append_left _ _)
      | served z | withdrew z => exact found
    | cons_cons _ within =>
      have member : x ∈ joins earlier := mem_joins.mpr (List.singleton_sublist.mp within)
      exact (List.singleton_sublist.mpr member).append (List.Sublist.refl [y])

-- Without repetitions two elements come in one order only.
theorem one_order {items : List α} (distinct : items.Nodup) (forward : [x,y].Sublist items) :
    ¬[y,x].Sublist items := by
  intro backward
  induction items with
  | nil => cases forward
  | cons z items ih =>
    obtain ⟨fresh,distinct⟩ := List.nodup_cons.mp distinct
    cases forward with
    | cons _ forward =>
      cases backward with
      | cons _ backward => exact ih distinct forward backward
      | cons_cons _ _ => exact fresh (forward.subset (List.mem_cons_of_mem _ List.mem_cons_self))
    | cons_cons _ forward =>
      cases backward with
      | cons _ backward => exact fresh (backward.subset (List.mem_cons_of_mem _ List.mem_cons_self))
      | cons_cons _ _ => exact fresh (List.singleton_sublist.mp forward)

variable [DecidableEq α]

theorem waiting_sublist (log : List (Entry α)) : (waiting log).Sublist (joins log) := by
  induction log with
  | nil => exact List.Sublist.refl _
  | cons entry earlier ih =>
    cases entry with
    | joined z => exact ih.append (List.Sublist.refl [z])
    | served z | withdrew z => exact List.filter_sublist.trans ih

theorem fair_joins (fair : Fair log) : (joins log).Nodup := by
  induction log with
  | nil => exact List.nodup_nil
  | cons entry earlier ih =>
    cases entry with
    | joined z => exact (ih fair.2).append (List.nodup_singleton z) (List.disjoint_singleton.mpr fair.1)
    | served z => exact ih fair.2
    | withdrew z => exact ih fair

theorem fair_earlier (fair : Fair (later ++ earlier)) : Fair earlier := by
  induction later with
  | nil => exact fair
  | cons entry later ih =>
    cases entry with
    | joined z | served z => exact ih fair.2
    | withdrew z => exact ih fair

theorem joined_waits (joined : .joined x ∈ log) : x ∈ waiting log ∨ .served x ∈ log ∨ .withdrew x ∈ log := by
  induction log with
  | nil => cases joined
  | cons entry earlier ih =>
    rcases List.mem_cons.mp joined with rfl | before
    · exact .inl (List.mem_append_right _ List.mem_cons_self)
    · rcases ih before with waits | served | withdrew
      · cases entry with
        | joined z => exact .inl (List.mem_append_left _ waits)
        | served z =>
          by_cases same : x = z
          · exact .inr (.inl (same ▸ List.mem_cons_self))
          · exact .inl (List.mem_filter.mpr ⟨waits,by simpa using same⟩)
        | withdrew z =>
          by_cases same : x = z
          · exact .inr (.inr (same ▸ List.mem_cons_self))
          · exact .inl (List.mem_filter.mpr ⟨waits,by simpa using same⟩)
      · exact .inr (.inl (List.mem_cons_of_mem _ served))
      · exact .inr (.inr (List.mem_cons_of_mem _ withdrew))

-- Whoever joined before the one who is first in the line has been in its turn.
theorem head_first (fair : Fair log) (head : (waiting log).head? = some y)
    (before : [.joined y,.joined x].Sublist log) : .served x ∈ log ∨ .withdrew x ∈ log := by
  have joined : .joined x ∈ log := before.subset (List.mem_cons_of_mem _ List.mem_cons_self)
  rcases joined_waits joined with waits | gone
  · exfalso
    obtain ⟨rest,line⟩ := List.head?_eq_some_iff.mp head
    have distinct := fair_joins fair
    have forward := joins_sublist before
    have different : x ≠ y := by
      rintro rfl
      exact (List.nodup_cons.mp (distinct.sublist forward)).1 List.mem_cons_self
    rw [line] at waits
    have behind : x ∈ rest := (List.mem_cons.mp waits).resolve_left different
    have backward : [y,x].Sublist (waiting log) := by
      rw [line]
      exact (List.singleton_sublist.mpr behind).cons_cons y
    exact one_order distinct forward (backward.trans (waiting_sublist log))
  · exact gone

-- A line that serves its head serves in the order of joining.
theorem served_in_order (fair : Fair (later ++ .served y::earlier)) (first : .served y ∉ earlier)
    (before : [.joined y,.joined x].Sublist (later ++ .served y::earlier)) :
    .served x ∈ earlier ∨ .withdrew x ∈ earlier := by
  obtain ⟨head,fairly⟩ := fair_earlier fair
  have line := head first
  have present : .joined y ∈ earlier :=
    mem_joins.mp ((waiting_sublist earlier).subset (List.mem_of_mem_head? line))
  induction later with
  | nil =>
    cases before with
    | cons _ before => exact head_first fairly line before
  | cons entry later ih =>
    cases before with
    | cons _ before =>
      have fairer : Fair ([entry] ++ (later ++ .served y::earlier)) := fair
      exact ih (fair_earlier fairer) before
    | cons_cons _ _ => exact absurd (mem_joins.mpr (List.mem_append_right _ (List.mem_cons_of_mem _ present))) fair.1

end SmartParking.Lib.Fifo
