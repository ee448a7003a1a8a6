import Mathlib.Data.List.Nodup
import Mathlib.Data.List.Pairwise

namespace SmartParking.Lib.Lists

-- A duplicate-free list whose selected elements all agree selects at most one.
theorem filter_length_le_one {items : List α} {select : α → Bool} (distinct : items.Nodup)
    (agree : ∀ x ∈ items, ∀ y ∈ items, select x = true → select y = true → x = y) :
    (items.filter select).length ≤ 1 := by
  match kept : items.filter select with
  | [] => simp
  | [_] => simp
  | x::y::rest =>
    have unique : (items.filter select).Nodup := distinct.filter select
    have member : ∀ z, z ∈ items.filter select → z ∈ items ∧ select z = true := fun z => List.mem_filter.mp
    obtain ⟨xIn,xSelected⟩ := member x (by simp [kept])
    obtain ⟨yIn,ySelected⟩ := member y (by simp [kept])
    rw [kept,agree x xIn y yIn xSelected ySelected] at unique
    simp at unique

-- A search by a key that no two elements share finds one element.
theorem filter_key_singleton {κ : Type} [DecidableEq κ] {items : List α} {key : α → κ} {x : α} {k : κ}
    (distinct : (items.map key).Nodup) (member : x ∈ items) (same : key x = k) :
    (items.filter fun y => key y == k) = [x] := by
  induction items with
  | nil => cases member
  | cons head rest ih =>
    obtain ⟨absent,distinct⟩ := List.nodup_cons.mp distinct
    rcases List.mem_cons.mp member with rfl | later
    · rw [List.filter_cons_of_pos (p := fun y => key y == k) (beq_iff_eq.mpr same)]
      refine congrArg (x::·) (List.filter_eq_nil_iff.mpr ?_)
      intro other held equal
      rw [←same] at equal
      exact absent (List.mem_map.mpr ⟨other,held,beq_iff_eq.mp equal⟩)
    · rw [List.filter_cons_of_neg]
      · exact ih distinct later
      · intro equal
        exact absent (List.mem_map.mpr ⟨x,later,same.trans (beq_iff_eq.mp equal).symm⟩)

-- What an update of the selected elements takes a property from, it has not
-- touched where the property still holds.
theorem mem_of_map_ite {items : List α} {select : α → Prop} [DecidablePred select] {update : α → α} (holds : α → Bool)
    (never : ∀ x, holds (update x) = false) (member : x ∈ items.map fun x => if select x then update x else x)
    (kept : holds x = true) : x ∈ items ∧ ¬select x := by
  obtain ⟨y,listed,same⟩ := List.mem_map.mp member
  split at same
  · subst same
    rw [never] at kept
    cases kept
  · rename_i apart
    subst same
    exact ⟨listed,apart⟩

-- An update that leaves alone whatever a search may find does not change what it
-- finds.
theorem find?_map_kept {items : List α} {update : α → α} {sought : α → Bool}
    (apart : ∀ x ∈ items, update x = x ∨ sought x = false ∧ sought (update x) = false) :
    (items.map update).find? sought = items.find? sought := by
  induction items with
  | nil => rfl
  | cons x rest ih =>
    have later := ih fun y member => apart y (List.mem_cons_of_mem x member)
    rw [List.map_cons,List.find?_cons,List.find?_cons,later]
    rcases apart x List.mem_cons_self with same | ⟨before,after⟩
    · rw [same]
    · rw [before,after]

theorem find?_append_singleton {items : List α} {sought : α → Bool} {x : α} (missed : sought x = false) :
    (items ++ [x]).find? sought = items.find? sought := by
  rw [List.find?_append,List.find?_singleton,missed]
  simp

-- The last separator tells the two parts apart.
theorem separated_inj {one two before after : List α} {separator : α} (clear : separator ∉ before) (free : separator ∉ after)
    (same : one ++ separator::before = two ++ separator::after) : one = two ∧ before = after := by
  induction one generalizing two with
  | nil =>
    cases two with
    | nil => exact ⟨rfl,(List.cons.inj same).2⟩
    | cons x rest =>
      have tail : before = rest ++ separator::after := (List.cons.inj same).2
      exact absurd (tail ▸ List.mem_append_right rest List.mem_cons_self) clear
  | cons x one ih =>
    cases two with
    | nil =>
      have tail : one ++ separator::before = after := (List.cons.inj same).2
      exact absurd (tail ▸ List.mem_append_right one List.mem_cons_self) free
    | cons y rest =>
      obtain ⟨head,tail⟩ := List.cons.inj same
      obtain ⟨equal,ended⟩ := ih tail
      exact ⟨by rw [head,equal],ended⟩

-- A symmetric relation of all pairs is one within two parts and between them.
theorem pairwise_split {related : α → α → Prop} (symmetric : ∀ x y, related x y → related y x) (part : α → Bool)
    (items : List α) : items.Pairwise related ↔ (items.filter part).Pairwise related ∧
      (items.filter (!part ·)).Pairwise related ∧
      ∀ x ∈ items, ∀ y ∈ items, part x = true → part y = false → related x y := by
  constructor
  · intro pairs
    refine ⟨pairs.filter _,pairs.filter _,?_⟩
    intro x xIn y yIn inside outside
    have different : x ≠ y := by
      rintro rfl
      rw [inside] at outside
      cases outside
    have : Std.Symm related := ⟨symmetric⟩
    exact pairs.forall xIn yIn different
  · rintro ⟨inside,outside,across⟩
    induction items with
    | nil => exact .nil
    | cons x items ih =>
      have later : items.Pairwise related := by
        refine ih ?_ ?_ fun y yIn z zIn => across y (List.mem_cons_of_mem _ yIn) z (List.mem_cons_of_mem _ zIn)
        · exact inside.sublist ((List.sublist_cons_self x items).filter _)
        · exact outside.sublist ((List.sublist_cons_self x items).filter _)
      refine List.pairwise_cons.mpr ⟨fun y yIn => ?_,later⟩
      cases first : part x <;> cases second : part y
      · rw [List.filter_cons_of_pos (by simpa using first)] at outside
        exact (List.pairwise_cons.mp outside).1 y (List.mem_filter.mpr ⟨yIn,by simpa using second⟩)
      · exact symmetric _ _ (across y (List.mem_cons_of_mem _ yIn) x List.mem_cons_self second first)
      · exact across x List.mem_cons_self y (List.mem_cons_of_mem _ yIn) first second
      · rw [List.filter_cons_of_pos first] at inside
        exact (List.pairwise_cons.mp inside).1 y (List.mem_filter.mpr ⟨yIn,second⟩)

end SmartParking.Lib.Lists
