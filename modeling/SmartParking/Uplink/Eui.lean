import Mathlib
import SmartParking.Spaces.Catalog
import SmartParking.Uplink.Webhook

namespace SmartParking.Uplink
open Lib
open Spaces.Catalog (hexEui)

def isSeparator (c : Char) : Bool := c == ':' || c == '-' || c == ' '

def stripped (text : List Char) : List Char := text.filter fun c => !isSeparator c

-- The texts that differ in letter case and in separators only.
inductive SameEui : List Char → List Char → Prop where
  | nil : SameEui [] []
  | letter {c d : Char} {s t : List Char} (same : c.toLower = d.toLower) (rest : SameEui s t) : SameEui (c::s) (d::t)
  | inserted (separator : isSeparator c) (rest : SameEui s t) : SameEui s (c::t)
  | removed (separator : isSeparator c) (rest : SameEui s t) : SameEui (c::s) t

theorem separator_toLower (c : Char) : isSeparator c.toLower = isSeparator c := by
  have letters : ∀ d, isSeparator d = true → d.isUpper = false ∧ d.isLower = false := by
    intro d found
    simp only [isSeparator,Bool.or_eq_true,beq_iff_eq] at found
    rcases found with (rfl | rfl) | rfl <;> decide
  by_cases upper : c.isUpper
  · have alpha : c.toLower.isLower = true := by
      rw [Char.isLower_toLower_eq_isAlpha,Char.isAlpha,upper,Bool.true_or]
    have neither : isSeparator c = false := by
      apply Bool.eq_false_iff.mpr
      intro found
      rw [(letters c found).1] at upper
      cases upper
    rw [neither]
    apply Bool.eq_false_iff.mpr
    intro found
    rw [(letters _ found).2] at alpha
    cases alpha
  · rw [Char.toLower_eq_of_not_isUpper upper]

theorem sameEui_stripped {s t : List Char} (same : SameEui s t) :
    (stripped s).map Char.toUpper = (stripped t).map Char.toUpper := by
  induction same with
  | nil => rfl
  | @letter c d s t same _ ih =>
    have kind : isSeparator c = isSeparator d := by rw [←separator_toLower c,same,separator_toLower]
    have upper : c.toUpper = d.toUpper := by rw [←Char.toUpper_toLower_eq_toUpper c,same,Char.toUpper_toLower_eq_toUpper]
    unfold stripped at ih ⊢
    cases separator : isSeparator c with
    | true =>
      rw [List.filter_cons_of_neg (by rw [separator]; decide),List.filter_cons_of_neg (by rw [←kind,separator]; decide)]
      exact ih
    | false =>
      rw [List.filter_cons_of_pos (by rw [separator]; rfl),List.filter_cons_of_pos (by rw [←kind,separator]; rfl)]
      rw [List.map_cons,List.map_cons,upper,ih]
  | inserted separator _ ih =>
    rw [ih]
    unfold stripped
    rw [List.filter_cons_of_neg (by rw [separator]; decide)]
  | removed separator _ ih =>
    rw [←ih]
    unfold stripped
    rw [List.filter_cons_of_neg (by rw [separator]; decide)]

theorem char_range {P : Char → Prop} (first width : Nat) (all : ∀ n < width, P (Char.ofNat (first+n))) {c : Char}
    (low : first ≤ c.toNat) (high : c.toNat < first+width) : P c := by
  have found := all (c.toNat-first) (by omega)
  rwa [Nat.add_sub_cancel' low,Char.ofNat_toNat] at found

theorem digit_upper {c : Char} (digit : (Hex.value c).isSome) : c.toUpper ∈ "0123456789ABCDEF".toList := by
  unfold Hex.value at digit
  split at digit
  · rename_i range
    exact char_range (P := fun c => c.toUpper ∈ "0123456789ABCDEF".toList) 48 10 (by decide) range.1 (Nat.lt_succ_of_le range.2)
  · split at digit
    · rename_i range
      exact char_range (P := fun c => c.toUpper ∈ "0123456789ABCDEF".toList) 97 6 (by decide) range.1 (Nat.lt_succ_of_le range.2)
    · split at digit
      · rename_i range
        exact char_range (P := fun c => c.toUpper ∈ "0123456789ABCDEF".toList) 65 6 (by decide) range.1 (Nat.lt_succ_of_le range.2)
      · cases digit

-- A digit of the database's alphabet is a digit, no separator and upper case.
theorem upper_digit {c : Char} (member : c ∈ "0123456789ABCDEF".toList) :
    (Hex.value c).isSome ∧ isSeparator c = false ∧ c.toUpper = c ∧ c ≠ '\n' := by
  have each : "0123456789ABCDEF".toList.all (fun c =>
      (Hex.value c).isSome && isSeparator c == false && c.toUpper == c && c != '\n') = true := by decide
  have found := List.all_eq_true.mp each c member
  simp only [Bool.and_eq_true,beq_iff_eq,bne_iff_ne] at found
  exact ⟨found.1.1.1,found.1.1.2,found.1.2,found.2⟩

theorem hexSixteen_upper {text : List Char} (sixteen : hexSixteen text = true) :
    text.length = 16 ∧ ∀ c ∈ text.map Char.toUpper, c ∈ "0123456789ABCDEF".toList := by
  unfold hexSixteen at sixteen
  rw [Bool.and_eq_true,beq_iff_eq,List.all_eq_true] at sixteen
  refine ⟨sixteen.1,?_⟩
  intro c member
  obtain ⟨d,found,rfl⟩ := List.mem_map.mp member
  exact digit_upper (sixteen.2 d found)

theorem hexSixteen_of {text : List Char} (length : text.length = 16)
    (upper : ∀ c ∈ text, c ∈ "0123456789ABCDEF".toList) : hexSixteen text = true := by
  unfold hexSixteen
  rw [Bool.and_eq_true,beq_iff_eq,List.all_eq_true]
  exact ⟨length,fun c member => (upper_digit (upper c member)).1⟩

-- What an accepted text is: empty, or sixteen digits once the separators are
-- gone, with a line break after them or not.
theorem normalizeDeveui_accepts {s r : String} (accepted : normalizeDeveui s = some r) :
    r = String.ofList ((stripped s.toList).map Char.toUpper) ∧
      (s = "" ∨ ∃ digits ending, hexSixteen digits = true ∧ (ending = [] ∨ ending = ['\n']) ∧
        stripped s.toList = digits++ending) := by
  unfold normalizeDeveui at accepted
  split at accepted
  · rename_i empty
    cases Option.some.inj accepted
    exact ⟨by rw [empty]; rfl,.inl empty⟩
  · dsimp only at accepted
    split at accepted
    · rename_i form
      refine ⟨(Option.some.inj accepted).symm,.inr ?_⟩
      rw [Bool.or_eq_true,Bool.and_eq_true,beq_iff_eq] at form
      rcases form with sixteen | ⟨last,sixteen⟩
      · exact ⟨_,[],sixteen,.inl rfl,(List.append_nil _).symm⟩
      · exact ⟨_,['\n'],sixteen,.inr rfl,(List.dropLast_append_getLast? _ last).symm⟩
    · cases accepted

theorem normalizeDeveui_form {digits ending : List Char} (length : digits.length = 16)
    (upper : ∀ c ∈ digits, c ∈ "0123456789ABCDEF".toList) (closed : ending = [] ∨ ending = ['\n']) :
    normalizeDeveui (String.ofList (digits++ending)) = some (String.ofList (digits++ending)) := by
  have nonempty : String.ofList (digits++ending) ≠ "" := by
    intro empty
    have none := congrArg (List.length ∘ String.toList) empty
    simp [length] at none
  have tail : ∀ c ∈ ending, isSeparator c = false ∧ c.toUpper = c := by
    intro c member
    rcases closed with rfl | rfl
    · cases member
    · cases List.mem_singleton.mp member
      decide
  have whole : ∀ c ∈ digits++ending, isSeparator c = false ∧ c.toUpper = c := by
    intro c member
    rcases List.mem_append.mp member with digit | last
    · exact ⟨(upper_digit (upper c digit)).2.1,(upper_digit (upper c digit)).2.2.1⟩
    · exact tail c last
  have kept : stripped (digits++ending) = digits++ending :=
    List.filter_eq_self.mpr fun c member => by rw [(whole c member).1]; rfl
  have same : (digits++ending).map Char.toUpper = digits++ending :=
    (List.map_congr_left fun c member => (whole c member).2).trans (List.map_id _)
  have sixteen := hexSixteen_of length upper
  have matched : (hexSixteen (digits++ending) ||
      ((digits++ending).getLast? == some '\n' && hexSixteen (digits++ending).dropLast)) = true := by
    rcases closed with rfl | rfl
    · rw [List.append_nil,sixteen,Bool.true_or]
    · rw [List.getLast?_concat,List.dropLast_concat,sixteen,beq_self_eq_true,Bool.and_true,Bool.or_true]
  unfold normalizeDeveui
  rw [if_neg nonempty,String.toList_ofList]
  change (if (hexSixteen (stripped (digits++ending)) || ((stripped (digits++ending)).getLast? == some '\n' &&
    hexSixteen (stripped (digits++ending)).dropLast)) then
      some (String.ofList ((stripped (digits++ending)).map Char.toUpper)) else none) = _
  rw [kept,if_pos matched,same]

theorem normalizeDeveui_again {s r : String} (accepted : normalizeDeveui s = some r) : normalizeDeveui r = some r := by
  obtain ⟨rfl,empty | ⟨digits,ending,sixteen,closed,shape⟩⟩ := normalizeDeveui_accepts accepted
  · rw [empty]
    rfl
  · obtain ⟨length,upper⟩ := hexSixteen_upper sixteen
    have ended : ending.map Char.toUpper = ending := by
      rcases closed with rfl | rfl <;> rfl
    rw [shape,List.map_append,ended]
    exact normalizeDeveui_form (by rw [List.length_map,length]) upper closed

-- Texts that differ in case and separators only have one result.
theorem normalizeDeveui_same {s t r r' : String} (same : SameEui s.toList t.toList)
    (accepted : normalizeDeveui s = some r) (other : normalizeDeveui t = some r') : r' = r := by
  rw [(normalizeDeveui_accepts accepted).1,(normalizeDeveui_accepts other).1,sameEui_stripped same]

theorem newline_stripped {text : List Char} : '\n' ∈ stripped text ↔ '\n' ∈ text := by
  unfold stripped
  rw [List.mem_filter]
  exact ⟨fun found => found.1,fun found => ⟨found,rfl⟩⟩

-- The form the CHECK of the table asks for fails by a line break only.
theorem normalizeDeveui_hex {s r : String} (accepted : normalizeDeveui s = some r) :
    (r = "" ∨ hexEui r = true) ↔ '\n' ∉ s.toList := by
  obtain ⟨made,empty | ⟨digits,ending,sixteen,closed,shape⟩⟩ := normalizeDeveui_accepts accepted
  · rw [empty] at made ⊢
    exact ⟨fun _ => List.not_mem_nil,fun _ => .inl made⟩
  · obtain ⟨length,upper⟩ := hexSixteen_upper sixteen
    rw [←newline_stripped,shape]
    rw [shape,List.map_append] at made
    have size : r.length = 16+ending.length := by
      rw [made,String.length_ofList,List.length_append,List.length_map,List.length_map,length]
    rcases closed with rfl | rfl
    · constructor
      · intro _ member
        rw [List.append_nil] at member
        have broken := upper _ (List.mem_map_of_mem member)
        exact (upper_digit broken).2.2.2 rfl
      · intro _
        right
        unfold hexEui
        rw [size,made,String.toList_ofList,Bool.and_eq_true,List.all_eq_true]
        refine ⟨rfl,fun c member => ?_⟩
        rw [List.map_nil,List.append_nil] at member
        exact List.contains_iff_mem.mpr (upper c member)
    · constructor
      · rintro (empty | hex)
        · rw [empty] at size
          cases size
        · unfold hexEui at hex
          rw [size] at hex
          cases hex
      · intro absent
        exact absurd (List.mem_append_right _ (List.mem_singleton.mpr rfl)) absent

-- An accepted text is normalized to the database's form, for good and whatever
-- its case and separators, unless a line break ends it.
theorem normalizeDeveui_canonical (s r : String) (accepted : normalizeDeveui s = some r) :
    ((r = "" ∨ hexEui r = true) ∧ normalizeDeveui r = some r ∧
      ∀ t r', SameEui s.toList t.toList → normalizeDeveui t = some r' → r' = r) ↔ '\n' ∉ s.toList := by
  constructor
  · intro ⟨form,_⟩
    exact (normalizeDeveui_hex accepted).mp form
  · intro unbroken
    refine ⟨(normalizeDeveui_hex accepted).mpr unbroken,normalizeDeveui_again accepted,?_⟩
    intro t r' same other
    exact normalizeDeveui_same same accepted other

theorem normalizeDeveui_canonical_sensor :
    ("58A0CB0000112233" = "" ∨ hexEui "58A0CB0000112233" = true) ∧
      normalizeDeveui "58A0CB0000112233" = some "58A0CB0000112233" ∧
      ∀ t r', SameEui "58:a0:cb:00:00:11:22:33".toList t.toList → normalizeDeveui t = some r' →
        r' = "58A0CB0000112233" :=
  (normalizeDeveui_canonical "58:a0:cb:00:00:11:22:33" "58A0CB0000112233" (by decide)).mpr (by decide)

theorem normalizeDeveui_break :
    normalizeDeveui "58a0cb0000112233\n" = some "58A0CB0000112233\n" ∧
      ¬("58A0CB0000112233\n" = "" ∨ hexEui "58A0CB0000112233\n" = true) := by
  decide

end SmartParking.Uplink
