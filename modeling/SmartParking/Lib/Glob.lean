import Mathlib.Data.List.Infix

namespace SmartParking.Lib

-- Patterns with `*` for any text and `?` for any one character.
def glob : List Char → List Char → Bool
  | [],text => text.isEmpty
  | '*'::pattern,text => text.tails.any (glob pattern)
  | '?'::pattern,text => !text.isEmpty && glob pattern text.tail
  | c::pattern,text => text.head? == some c && glob pattern text.tail

theorem glob_literal {pattern text : List Char} (matched : glob pattern text = true) (listed : c ∈ pattern)
    (literal : c ≠ '*' ∧ c ≠ '?') : c ∈ text := by
  induction pattern generalizing text with
  | nil => cases listed
  | cons first pattern ih =>
    unfold glob at matched
    split at matched
    · rename_i same
      cases same
    · rename_i same
      cases same
      have later : c ∈ pattern := (List.mem_cons.mp listed).resolve_left literal.1
      obtain ⟨rest,suffix,matches_⟩ := List.any_eq_true.mp matched
      exact ((List.mem_tails _ _).mp suffix).subset (ih matches_ later)
    · rename_i same
      cases same
      have later : c ∈ pattern := (List.mem_cons.mp listed).resolve_left literal.2
      rw [Bool.and_eq_true] at matched
      exact List.mem_of_mem_tail (ih matched.2 later)
    · rename_i same
      cases same
      rw [Bool.and_eq_true,beq_iff_eq] at matched
      rcases List.mem_cons.mp listed with rfl | later
      · exact List.mem_of_mem_head? matched.1
      · exact List.mem_of_mem_tail (ih matched.2 later)

end SmartParking.Lib
