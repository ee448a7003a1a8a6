import Mathlib.Data.List.Basic
import SmartParking.Lib.Decimal

namespace SmartParking.Lib.Sql

-- The lexer of a statement: words end at blanks, and a comma is a word of its own.
def flush (word : List Char) : List String := if word = [] then [] else [String.ofList word]

def blank (c : Char) : Bool := c = ' ' || c = '\n'

def lex (word : List Char) : List Char → List String
  | [] => flush word
  | c::rest =>
    if blank c then flush word ++ lex [] rest
    else if c = ',' then flush word ++ ","::lex [] rest
    else lex (word ++ [c]) rest

def words (text : String) : List String := lex [] text.toList

-- The part of a clause that names a parameter.
structure Placed where
  column : String
  slot : Nat
  deriving DecidableEq

def placeholder (slot : Nat) : String := "$" ++ toString slot

def Placed.text (p : Placed) : String := p.column ++ " = " ++ placeholder p.slot

inductive Test where
  | equals (placed : Placed)
  | isNull (column : String)
  deriving DecidableEq

inductive Change where
  | set (placed : Placed)
  | now (column : String)
  deriving DecidableEq

structure Update where
  changes : List Change
  tests : List Test
  deriving DecidableEq

def Test.text : Test → String
  | .equals placed => placed.text
  | .isNull column => column ++ " IS NULL"

def Change.text : Change → String
  | .set placed => placed.text
  | .now column => column ++ " = NOW()"

def whereClause (conditions : List String) : String :=
  if conditions = [] then "" else "WHERE " ++ " AND ".intercalate conditions

-- The clauses stand on lines of their own, the second one indented.
def updateText (fields : List String) (gaps : String) (clause : String) : String :=
  "SET " ++ ", ".intercalate fields ++ "\n" ++ gaps ++ clause

section Reading

def readSlot (word : String) : Option Nat :=
  match word.toList with
  | '$'::digits => Decimal.readNat digits
  | _ => none

def readTests : List String → Option (List Test)
  | column::"IS"::"NULL"::rest => continued (.isNull column) rest
  | column::"="::word::rest => (readSlot word).bind fun slot => continued (.equals ⟨column,slot⟩) rest
  | _ => none
where
  continued (test : Test) : List String → Option (List Test)
  | [] => some [test]
  | "AND"::rest => (readTests rest).map (test::·)
  | _ => none

def readWhere : List String → Option (List Test)
  | [] => some []
  | "WHERE"::rest => readTests rest
  | _ => none

def readChange (column word : String) : Option Change :=
  if word = "NOW()" then some (.now column) else (readSlot word).map fun slot => .set ⟨column,slot⟩

def readChanges : List String → Option Update
  | column::"="::word::rest => (readChange column word).bind fun change =>
    match rest with
    | ","::rest => (readChanges rest).map fun update => {update with changes := change::update.changes}
    | _ => (readWhere rest).map fun tests => ⟨[change],tests⟩
  | _ => none

def readUpdate : List String → Option Update
  | "SET"::rest => readChanges rest
  | _ => none

end Reading

section Lexing

def Plain (word : String) : Prop := word.toList ≠ [] ∧ ∀ c ∈ word.toList, blank c = false ∧ c ≠ ','

instance (word : String) : Decidable (Plain word) :=
  decidable_of_iff (word.toList ≠ [] ∧ word.toList.all (fun c => !blank c && c != ',') = true) (by simp [Plain])

def Ended (rest : List Char) : Prop := ∀ c ∈ rest.head?, blank c = true ∨ c = ','

-- A piece of text that lexes to words of its own wherever a word may end.
def Lexed (text : List Char) (tokens : List String) : Prop :=
  ∀ rest, Ended rest → lex [] (text ++ rest) = tokens ++ lex [] rest

theorem lex_chars {chars : List Char} (plain : ∀ c ∈ chars, blank c = false ∧ c ≠ ',') (word rest : List Char) :
    lex word (chars ++ rest) = lex (word ++ chars) rest := by
  induction chars generalizing word with
  | nil => simp
  | cons c chars ih =>
    obtain ⟨solid,apart⟩ := plain c List.mem_cons_self
    rw [List.cons_append,lex,solid,if_neg Bool.false_ne_true,if_neg apart,ih fun d member =>
      plain d (List.mem_cons_of_mem c member)]
    simp

theorem lex_ended {word rest : List Char} (filled : word ≠ []) (ended : Ended rest) :
    lex word rest = String.ofList word::lex [] rest := by
  cases rest with
  | nil => simp [lex,flush,filled]
  | cons c rest =>
    rcases ended c rfl with clear | rfl
    · simp [lex,flush,filled,clear]
    · have solid : blank ',' = false := by decide
      simp [lex,flush,filled,solid]

theorem Lexed.word {word : String} (plain : Plain word) : Lexed word.toList [word] := by
  intro rest ended
  rw [lex_chars plain.2,List.nil_append,lex_ended plain.1 ended,String.ofList_toList]
  rfl

theorem Lexed.spaced {one two : List Char} {ws vs : List String} {gap : Char} (first : Lexed one ws)
    (clear : blank gap = true) (second : Lexed two vs) : Lexed (one ++ gap::two) (ws ++ vs) := by
  intro rest ended
  have between : Ended (gap::(two ++ rest)) := fun c same => .inl (Option.some.inj same ▸ clear)
  have passed : lex [] (gap::(two ++ rest)) = lex [] (two ++ rest) := by simp [lex,flush,clear]
  rw [List.append_assoc,List.cons_append,first _ between,passed,second rest ended,List.append_assoc]

theorem Lexed.indented {gaps text : List Char} {tokens : List String} (clear : ∀ c ∈ gaps, blank c = true)
    (lexed : Lexed text tokens) : Lexed (gaps ++ text) tokens := by
  induction gaps with
  | nil => exact lexed
  | cons gap gaps ih =>
    intro rest ended
    have later := ih (fun c member => clear c (List.mem_cons_of_mem gap member)) rest ended
    rw [List.cons_append,List.cons_append,lex,if_pos (clear gap List.mem_cons_self),later]
    rfl

theorem Lexed.comma {one two : List Char} {ws vs : List String} (first : Lexed one ws) (second : Lexed two vs) :
    Lexed (one ++ ','::two) (ws ++ ","::vs) := by
  intro rest ended
  have between : Ended (','::(two ++ rest)) := fun c same => .inr (Option.some.inj same).symm
  have passed : lex [] (','::(two ++ rest)) = ","::lex [] (two ++ rest) := by
    have solid : blank ',' = false := by decide
    simp [lex,flush,solid]
  rw [List.append_assoc,List.cons_append,first _ between,passed,second rest ended,List.append_assoc,List.cons_append]

theorem Lexed.words {text : String} {tokens : List String} (lexed : Lexed text.toList tokens) : words text = tokens := by
  have read := lexed [] fun c none => by cases none
  rw [List.append_nil] at read
  simpa [Sql.words,lex,flush] using read

end Lexing

section Texts

theorem placeholder_plain (slot : Nat) : Plain (placeholder slot) := by
  have chars : (placeholder slot).toList = '$'::Nat.toDigits 10 slot := by
    change ("$" ++ slot.repr).toList = _
    rw [String.toList_append,Nat.toList_repr]
    rfl
  constructor
  · simp [chars]
  · intro c member
    rw [chars] at member
    rcases List.mem_cons.mp member with rfl | member
    · decide
    · have digit := Nat.isDigit_of_mem_toDigits (b := 10) (by decide) (by decide) member
      constructor
      · cases clear : blank c with
        | false => rfl
        | true =>
          have either : c = ' ' ∨ c = '\n' := by simpa [blank] using clear
          rcases either with rfl | rfl <;> exact absurd digit (by decide)
      · rintro rfl
        exact absurd digit (by decide)

@[simp] theorem readSlot_placeholder (slot : Nat) : readSlot (placeholder slot) = some slot := by
  have chars : (placeholder slot).toList = '$'::Nat.toDigits 10 slot := by
    change ("$" ++ slot.repr).toList = _
    rw [String.toList_append,Nat.toList_repr]
    rfl
  simp [readSlot,chars,Decimal.readNat_digits]

def Placed.words (p : Placed) : List String := [p.column,"=",placeholder p.slot]

def Test.column : Test → String
  | .equals placed => placed.column
  | .isNull column => column

def Test.words : Test → List String
  | .equals placed => placed.words
  | .isNull column => [column,"IS","NULL"]

def Change.column : Change → String
  | .set placed => placed.column
  | .now column => column

def Change.words : Change → List String
  | .set placed => placed.words
  | .now column => [column,"=","NOW()"]

theorem lexed_three {one two three : String} (first : Plain one) (second : Plain two) (third : Plain three) :
    Lexed (one.toList ++ ' '::(two.toList ++ ' '::three.toList)) [one,two,three] :=
  (Lexed.word first).spaced rfl ((Lexed.word second).spaced rfl (Lexed.word third))

theorem Placed.lexed {p : Placed} (plain : Plain p.column) : Lexed p.text.toList p.words := by
  have text : p.text.toList = p.column.toList ++ ' '::("=".toList ++ ' '::(placeholder p.slot).toList) := by
    simp [Placed.text]
  rw [text]
  exact lexed_three plain (by decide) (placeholder_plain p.slot)

theorem Test.lexed {t : Test} (plain : Plain t.column) : Lexed t.text.toList t.words := by
  cases t with
  | equals placed => exact Placed.lexed plain
  | isNull column =>
    have text : (Test.isNull column).text.toList = column.toList ++ ' '::("IS".toList ++ ' '::"NULL".toList) := by
      simp [Test.text]
    rw [text]
    exact lexed_three plain (by decide) (by decide)

theorem Change.lexed {c : Change} (plain : Plain c.column) : Lexed c.text.toList c.words := by
  cases c with
  | set placed => exact Placed.lexed plain
  | now column =>
    have text : (Change.now column).text.toList = column.toList ++ ' '::("=".toList ++ ' '::"NOW()".toList) := by
      simp [Change.text]
    rw [text]
    exact lexed_three plain (by decide) (by decide)

def testWords : List Test → List String
  | [] => []
  | [test] => test.words
  | test::rest => test.words ++ "AND"::testWords rest

def whereWords (tests : List Test) : List String := if tests = [] then [] else "WHERE"::testWords tests

theorem tests_lexed {tests : List Test} (some : tests ≠ []) (plain : ∀ t ∈ tests, Plain t.column) :
    Lexed (" AND ".intercalate (tests.map Test.text)).toList (testWords tests) := by
  induction tests with
  | nil => exact absurd rfl some
  | cons test rest ih =>
    have first := Test.lexed (plain test List.mem_cons_self)
    cases rest with
    | nil => simpa [testWords] using first
    | cons next rest =>
      have later := ih (List.cons_ne_nil _ _) fun t member => plain t (List.mem_cons_of_mem test member)
      have text : (" AND ".intercalate ((test::next::rest).map Test.text)).toList =
          test.text.toList ++ ' '::("AND".toList ++ ' '::(" AND ".intercalate ((next::rest).map Test.text)).toList) := by
        rw [List.map_cons,List.map_cons,String.intercalate_cons_cons,String.toList_append,String.toList_append]
        simp only [List.append_assoc]
        rfl
      rw [text]
      exact first.spaced rfl ((Lexed.word (by decide)).spaced rfl later)

theorem readTests_words {tests : List Test} (some : tests ≠ []) : readTests (testWords tests) = .some tests := by
  induction tests with
  | nil => exact absurd rfl some
  | cons test rest ih =>
    cases rest with
    | nil => cases test <;> simp [testWords,Test.words,Placed.words,readTests,readTests.continued]
    | cons next rest =>
      have later := ih (List.cons_ne_nil _ _)
      cases test <;> simp [testWords,Test.words,Placed.words,readTests,readTests.continued] <;> exact later

theorem whereClause_words {tests : List Test} (plain : ∀ t ∈ tests, Plain t.column) :
    words (whereClause (tests.map Test.text)) = whereWords tests := by
  by_cases none : tests = []
  · subst none
    simp [whereClause,words,lex,flush,whereWords]
  · have text : (whereClause (tests.map Test.text)).toList =
        "WHERE".toList ++ ' '::(" AND ".intercalate (tests.map Test.text)).toList := by
      rw [whereClause,if_neg (by simpa using none),String.toList_append]
      rfl
    have lexed : Lexed (whereClause (tests.map Test.text)).toList ("WHERE"::testWords tests) := by
      rw [text]
      exact (Lexed.word (by decide)).spaced rfl (tests_lexed none plain)
    rw [lexed.words,whereWords,if_neg none]

-- A WHERE clause is read as it was meant.
theorem readWhere_text {tests : List Test} (plain : ∀ t ∈ tests, Plain t.column) :
    readWhere (words (whereClause (tests.map Test.text))) = some tests := by
  rw [whereClause_words plain,whereWords]
  split
  · rename_i none
    rw [none,readWhere]
  · rw [readWhere,readTests_words ‹_›]

def changeWords : List Change → List String
  | [] => []
  | [change] => change.words
  | change::rest => change.words ++ ","::changeWords rest

theorem changes_lexed {changes : List Change} (some : changes ≠ []) (plain : ∀ c ∈ changes, Plain c.column) :
    Lexed (", ".intercalate (changes.map Change.text)).toList (changeWords changes) := by
  induction changes with
  | nil => exact absurd rfl some
  | cons change rest ih =>
    have first := Change.lexed (plain change List.mem_cons_self)
    cases rest with
    | nil => simpa [changeWords] using first
    | cons next rest =>
      have later := ih (List.cons_ne_nil _ _) fun c member => plain c (List.mem_cons_of_mem change member)
      have text : (", ".intercalate ((change::next::rest).map Change.text)).toList =
          change.text.toList ++ ','::([' '] ++ (", ".intercalate ((next::rest).map Change.text)).toList) := by
        rw [List.map_cons,List.map_cons,String.intercalate_cons_cons,String.toList_append,String.toList_append]
        simp only [List.append_assoc]
        rfl
      rw [text]
      exact first.comma (later.indented fun c member => by simp_all [blank])

theorem readChange_set (p : Placed) : readChange p.column (placeholder p.slot) = some (.set p) := by
  have other : placeholder p.slot ≠ "NOW()" := by
    intro same
    have read := readSlot_placeholder p.slot
    rw [same] at read
    simp [readSlot] at read
  simp [readChange,other]

theorem readChanges_next (change : Change) (tokens : List String) :
    readChanges (change.words ++ ","::tokens) =
      (readChanges tokens).map fun update => {update with changes := change::update.changes} := by
  cases change with
  | set placed => simp [Change.words,Placed.words,readChanges,readChange_set]
  | now column => simp [Change.words,readChanges,readChange]

theorem readChanges_last (change : Change) {tokens : List String} (opened : tokens.head? ≠ some ",") :
    readChanges (change.words ++ tokens) = (readWhere tokens).map fun tests => ⟨[change],tests⟩ := by
  cases change with
  | set placed =>
    simp only [Change.words,Placed.words,List.cons_append,List.nil_append,readChanges,readChange_set,Option.bind_some]
    split
    · exact absurd rfl opened
    · rfl
  | now column =>
    simp only [Change.words,List.cons_append,List.nil_append,readChanges,readChange,↓reduceIte,Option.bind_some]
    split
    · exact absurd rfl opened
    · rfl

theorem readChanges_words {changes : List Change} (some : changes ≠ []) {rest : List String} {tests : List Test}
    (opened : rest.head? ≠ .some ",") (read : readWhere rest = .some tests) :
    readChanges (changeWords changes ++ rest) = .some ⟨changes,tests⟩ := by
  induction changes with
  | nil => exact absurd rfl some
  | cons change later ih =>
    cases later with
    | nil => rw [changeWords,readChanges_last change opened,read,Option.map_some]
    | cons next later =>
      have tokens : changeWords (change::next::later) = change.words ++ ","::changeWords (next::later) := rfl
      rw [tokens,List.append_assoc,List.cons_append,readChanges_next,ih (List.cons_ne_nil _ _),Option.map_some]

-- So is an UPDATE.
theorem readUpdate_text {changes : List Change} {tests : List Test} {gaps : String} (some : changes ≠ [])
    (tested : tests ≠ []) (clear : ∀ c ∈ gaps.toList, blank c = true) (plain : ∀ c ∈ changes, Plain c.column)
    (named : ∀ t ∈ tests, Plain t.column) :
    readUpdate (words (updateText (changes.map Change.text) gaps (whereClause (tests.map Test.text)))) =
      .some ⟨changes,tests⟩ := by
  have text : (updateText (changes.map Change.text) gaps (whereClause (tests.map Test.text))).toList =
      "SET".toList ++ ' '::((", ".intercalate (changes.map Change.text)).toList ++
      '\n'::(gaps.toList ++ ("WHERE".toList ++ ' '::(" AND ".intercalate (tests.map Test.text)).toList))) := by
    simp [updateText,whereClause,tested]
  have lexed : Lexed (updateText (changes.map Change.text) gaps (whereClause (tests.map Test.text))).toList
      ("SET"::(changeWords changes ++ "WHERE"::testWords tests)) := by
    rw [text]
    exact (Lexed.word (by decide)).spaced rfl ((changes_lexed some plain).spaced rfl
      (((Lexed.word (by decide)).spaced rfl (tests_lexed tested named)).indented clear))
  have read : readWhere ("WHERE"::testWords tests) = .some tests := by rw [readWhere,readTests_words tested]
  rw [lexed.words,readUpdate,readChanges_words some (by simp) read]

end Texts

section Running

variable {ρ β δ : Type} [DecidableEq β]

-- What stops a statement before it touches a row.
inductive Fault where
  | malformed
  | column
  | arguments
  | encoding
  deriving DecidableEq

def Test.slot? : Test → Option Nat
  | .equals placed => some placed.slot
  | .isNull _ => none

def Change.slot? : Change → Option Nat
  | .set placed => some placed.slot
  | .now _ => none

-- The driver takes as many arguments as the highest placeholder, and the server
-- types no parameter that the statement leaves out.
def counted (slots : List Nat) (n : Nat) : Bool :=
  slots.all (fun slot => 0 < slot && slot ≤ n) && (List.range n).all fun k => slots.contains (k+1)

-- `none` is NULL.
def sent (params : List (Option β)) (slot : Nat) : Option β := (params[slot-1]?).join

variable (schema : String → Option (ρ → Option β)) (columns : String → Option (Option β → Option δ))
variable (params : List (Option β))

-- Only what is true selects: a comparison with NULL is not.
def Test.holds (row : ρ) : Test → Bool
  | .equals placed => (schema placed.column).any fun read =>
    (sent params placed.slot).any fun value => read row == some value
  | .isNull column => (schema column).any fun read => (read row).isNone

def selected (tests : List Test) (row : ρ) : Bool := tests.all (Test.holds schema params row)

def known (tests : List Test) : Bool := tests.all fun test => (schema test.column).isSome

def select (clause : Option (List Test)) : Except Fault (ρ → Bool) :=
  match clause with
  | none => .error .malformed
  | some tests =>
    if known schema tests then
      if counted (tests.filterMap Test.slot?) params.length then .ok (selected schema params tests)
      else .error .arguments
    else .error .column

def encode : List Change → Except Fault (List δ)
  | [] => .ok []
  | .now _::rest => encode rest
  | .set placed::rest =>
    match (columns placed.column).bind (· (sent params placed.slot)) with
    | some change => (encode rest).map (change::·)
    | none => .error .encoding

def update (statement : Option Update) : Except Fault (List δ × (ρ → Bool)) :=
  match statement with
  | none => .error .malformed
  | some u =>
    if (u.changes.map Change.column).Nodup ∧ (u.changes.all fun change => (columns change.column).isSome) ∧
        known schema u.tests then
      if counted (u.changes.filterMap Change.slot? ++ u.tests.filterMap Test.slot?) params.length then
        (encode columns params u.changes).map fun changes => (changes,selected schema params u.tests)
      else .error .arguments
    else .error .column

end Running

-- A statement under construction: the conditions so far, their parameters, and
-- the number of the next one.
structure Draft (β : Type) where
  conditions : List String := []
  params : List (Option β) := []
  paramCount : Nat := 1

namespace Draft

variable {β : Type}

def add (d : Draft β) (column : String) : Option (Option β) → Draft β
  | none => d
  | some value => ⟨d.conditions ++ [column ++ " = " ++ placeholder d.paramCount],d.params ++ [value],d.paramCount+1⟩

def addAll (d : Draft β) (fields : List (String × Option (Option β))) : Draft β :=
  fields.foldl (fun d field => d.add field.1 field.2) d

end Draft

section Numbering

variable {γ : Type}

def numbered (n : Nat) : List (String × γ) → List Placed
  | [] => []
  | field::rest => ⟨field.1,n⟩::numbered (n+1) rest

def given (fields : List (String × Option γ)) : List (String × γ) :=
  fields.filterMap fun field => field.2.map fun value => (field.1,value)

theorem mem_numbered {fields : List (String × γ)} {n slot : Nat} :
    slot ∈ (numbered n fields).map Placed.slot ↔ n ≤ slot ∧ slot < n + fields.length := by
  induction fields generalizing n with
  | nil => simp [numbered]
  | cons field rest ih =>
    have here : (⟨field.1,n⟩ : Placed).slot = n := rfl
    rw [numbered,List.map_cons,List.mem_cons,ih,List.length_cons,here]
    omega

theorem numbered_columns (n : Nat) (fields : List (String × γ)) :
    (numbered n fields).map Placed.column = fields.map Prod.fst := by
  induction fields generalizing n with
  | nil => rfl
  | cons field rest ih => rw [numbered,List.map_cons,List.map_cons,ih]

theorem counted_iff {slots : List Nat} {n : Nat} : counted slots n = true ↔ ∀ slot, slot ∈ slots ↔ 0 < slot ∧ slot ≤ n := by
  simp only [counted,Bool.and_eq_true,List.all_eq_true,decide_eq_true_eq,List.mem_range,List.contains_iff_mem]
  constructor
  · rintro ⟨bounded,filled⟩ slot
    refine ⟨bounded slot,?_⟩
    rintro ⟨positive,most⟩
    have member := filled (slot-1) (by omega)
    rwa [Nat.sub_add_cancel positive] at member
  · intro same
    exact ⟨fun slot member => (same slot).mp member,fun k less => (same (k+1)).mpr (by omega)⟩

theorem Draft.addAll_spec {β : Type} (d : Draft β) (fields : List (String × Option (Option β))) :
    d.addAll fields = ⟨d.conditions ++ (numbered d.paramCount (given fields)).map Placed.text,
      d.params ++ (given fields).map Prod.snd,d.paramCount + (given fields).length⟩ := by
  induction fields generalizing d with
  | nil => simp [addAll,given,numbered]
  | cons field rest ih =>
    have unfolded : d.addAll (field::rest) = (d.add field.1 field.2).addAll rest := rfl
    rw [unfolded,ih]
    obtain ⟨column,value⟩ := field
    cases value with
    | none => simp [add,given]
    | some value =>
      simp [add,given,numbered,Placed.text]
      omega

-- The text of a draft says which of its fields are given, and nothing of their values.
theorem Draft.addAll_conditions {β : Type} {d e : Draft β} {fields others : List (String × Option (Option β))}
    (same : d.conditions = e.conditions ∧ d.paramCount = e.paramCount)
    (shape : fields.map (fun field => (field.1,field.2.isSome)) = others.map fun field => (field.1,field.2.isSome)) :
    (d.addAll fields).conditions = (e.addAll others).conditions := by
  induction fields generalizing d e others with
  | nil =>
    cases others with
    | nil => exact same.1
    | cons other others => cases shape
  | cons field rest ih =>
    cases others with
    | nil => cases shape
    | cons other others =>
      obtain ⟨head,later⟩ := List.cons.inj shape
      obtain ⟨column,value⟩ := field
      obtain ⟨name,value'⟩ := other
      obtain ⟨rfl,given⟩ := Prod.mk.inj head
      refine ih (d := d.add column value) (e := e.add column value') ?_ later
      cases value with
      | none =>
        cases value' with
        | none => exact same
        | some value' => cases given
      | some value =>
        cases value' with
        | none => cases given
        | some value' => simp only [add,same.1,same.2,and_self]

end Numbering

section Placing

variable {ρ β δ : Type} [DecidableEq β] {schema : String → Option (ρ → Option β)}
  {columns : String → Option (Option β → Option δ)}

omit [DecidableEq β] in
theorem sent_next (before : List (Option β)) (value : Option β) (rest : List (Option β)) :
    sent (before ++ value::rest) (before.length+1) = value := by simp [sent]

-- A row that has the value of every field.
def agrees (schema : String → Option (ρ → Option β)) (fields : List (String × Option β)) (row : ρ) : Bool :=
  fields.all fun field => (schema field.1).any fun read => field.2.any fun value => read row == some value

omit [DecidableEq β] in
theorem sent_field (before : List (Option β)) (field : String × Option β) (rest : List (String × Option β))
    (after : List (Option β)) :
    sent (before ++ (field::rest).map Prod.snd ++ after) (before.length+1) = field.2 := by
  rw [List.append_assoc]
  exact sent_next before field.2 (rest.map Prod.snd ++ after)

omit [DecidableEq β] in
theorem behind_field (before : List (Option β)) (field : String × Option β) (rest : List (String × Option β))
    (after : List (Option β)) :
    before ++ (field::rest).map Prod.snd ++ after = before ++ [field.2] ++ rest.map Prod.snd ++ after := by
  simp

-- Every placeholder finds the value it was written for.
theorem selected_numbered (schema : String → Option (ρ → Option β)) (before : List (Option β))
    (fields : List (String × Option β)) (row : ρ) (after : List (Option β)) :
    selected schema (before ++ fields.map Prod.snd ++ after) ((numbered (before.length+1) fields).map .equals) row =
      agrees schema fields row := by
  induction fields generalizing before with
  | nil => rfl
  | cons field rest ih =>
    have later := ih (before ++ [field.2])
    have here := sent_field before field rest after
    rw [List.length_append,List.length_singleton,←behind_field] at later
    rw [agrees,List.all_cons,←agrees,←later]
    simp only [selected,numbered,List.map_cons,List.all_cons,Test.holds] at here ⊢
    rw [here]

def encodeFields (columns : String → Option (Option β → Option δ)) : List (String × Option β) → Except Fault (List δ)
  | [] => .ok []
  | field::rest =>
    match (columns field.1).bind (· field.2) with
    | some change => (encodeFields columns rest).map (change::·)
    | none => .error .encoding

omit [DecidableEq β] in
theorem encode_bare {params : List (Option β)} {stamps : List Change} (bare : ∀ c ∈ stamps, c.slot? = none) :
    encode columns params stamps = .ok [] := by
  induction stamps with
  | nil => rfl
  | cons stamp stamps ih =>
    cases stamp with
    | set placed => cases bare _ List.mem_cons_self
    | now column => exact ih fun c member => bare c (List.mem_cons_of_mem _ member)

omit [DecidableEq β] in
theorem encode_stamped {params : List (Option β)} {ahead stamps : List Change} (changes : List Change)
    (first : ∀ c ∈ ahead, c.slot? = none) (last : ∀ c ∈ stamps, c.slot? = none) :
    encode columns params (ahead ++ changes ++ stamps) = encode columns params changes := by
  have behind : encode columns params (changes ++ stamps) = encode columns params changes := by
    induction changes with
    | nil => rw [List.nil_append,encode_bare last,encode]
    | cons change changes ih => cases change <;> simp only [List.cons_append,encode,ih]
  rw [List.append_assoc,←behind]
  induction ahead with
  | nil => rfl
  | cons stamp ahead ih =>
    cases stamp with
    | set placed => cases first _ List.mem_cons_self
    | now column => exact ih fun c member => first c (List.mem_cons_of_mem _ member)

omit [DecidableEq β] in
theorem encode_numbered (before : List (Option β)) (fields : List (String × Option β)) (after : List (Option β)) :
    encode columns (before ++ fields.map Prod.snd ++ after) ((numbered (before.length+1) fields).map .set) =
      encodeFields columns fields := by
  induction fields generalizing before with
  | nil => rfl
  | cons field rest ih =>
    have later := ih (before ++ [field.2])
    have here := sent_field before field rest after
    rw [List.length_append,List.length_singleton,←behind_field] at later
    rw [encodeFields,←later]
    simp only [numbered,List.map_cons,encode] at here ⊢
    rw [here]

omit [DecidableEq β] in
theorem test_slots (n : Nat) (fields : List (String × Option β)) :
    ((numbered n fields).map Test.equals).filterMap Test.slot? = (numbered n fields).map Placed.slot := by
  induction fields generalizing n with
  | nil => rfl
  | cons field rest ih => simpa [numbered,Test.slot?] using ih (n+1)

omit [DecidableEq β] in
theorem change_slots (n : Nat) (fields : List (String × Option β)) :
    ((numbered n fields).map Change.set).filterMap Change.slot? = (numbered n fields).map Placed.slot := by
  induction fields generalizing n with
  | nil => rfl
  | cons field rest ih => simpa [numbered,Change.slot?] using ih (n+1)

theorem given_sublist {γ : Type} (fields : List (String × Option γ)) :
    ((given fields).map Prod.fst).Sublist (fields.map Prod.fst) := by
  induction fields with
  | nil => exact .slnil
  | cons field rest ih =>
    obtain ⟨column,value⟩ := field
    cases value with
    | none => exact ih.cons column
    | some value => exact ih.cons_cons column

-- A draft that is read back and run selects by its fields.
theorem select_draft (schema : String → Option (ρ → Option β)) {fields : List (String × Option (Option β))} {extra : List Test}
    (columns : ∀ column ∈ fields.map Prod.fst, Plain column ∧ (schema column).isSome = true)
    (others : ∀ t ∈ extra, Plain t.column ∧ (schema t.column).isSome = true ∧ t.slot? = none) :
    let d := ({} : Draft β).addAll fields
    select schema d.params (readWhere (words (whereClause (d.conditions ++ extra.map Test.text)))) =
      .ok fun row => agrees schema (given fields) row && selected schema d.params extra row := by
  intro d
  let tests : List Test := (numbered 1 (given fields)).map .equals ++ extra
  have drafted : d = ⟨(numbered 1 (given fields)).map Placed.text,(given fields).map Prod.snd,1 + (given fields).length⟩ :=
    Draft.addAll_spec {} fields
  have texts : d.conditions ++ extra.map Test.text = tests.map Test.text := by
    rw [drafted,List.map_append,List.map_map]
    rfl
  have listed : ∀ t ∈ tests, Plain t.column ∧ (schema t.column).isSome = true := by
    intro t member
    rcases List.mem_append.mp member with member | member
    · obtain ⟨placed,held,rfl⟩ := List.mem_map.mp member
      have column : placed.column ∈ (given fields).map Prod.fst := by
        rw [←numbered_columns 1]
        exact List.mem_map_of_mem held
      exact columns placed.column ((given_sublist fields).subset column)
    · exact ⟨(others t member).1,(others t member).2.1⟩
  have slots : tests.filterMap Test.slot? = (numbered 1 (given fields)).map Placed.slot := by
    have none : extra.filterMap Test.slot? = [] := List.filterMap_eq_nil_iff.mpr fun t member => (others t member).2.2
    rw [List.filterMap_append,test_slots,none,List.append_nil]
  have count : counted (tests.filterMap Test.slot?) d.params.length = true := by
    refine counted_iff.mpr fun slot => ?_
    rw [slots,mem_numbered,drafted,List.length_map]
    omega
  have found : known schema tests = true := List.all_eq_true.mpr fun t member => (listed t member).2
  rw [texts,readWhere_text fun t member => (listed t member).1,select,if_pos found,if_pos count]
  refine congrArg Except.ok (funext fun row => ?_)
  have numbering := selected_numbered schema [] (given fields) row []
  rw [List.nil_append,List.append_nil] at numbering
  rw [←numbering,drafted]
  exact List.all_append

-- So does one that changes them, with the parameters of the selection before or
-- after those of the changes.
theorem update_draft (schema : String → Option (ρ → Option β)) (columns : String → Option (Option β → Option δ))
    (before after : List (Option β)) {fields : List (String × Option (Option β))} (ahead stamps : List Change)
    (tests : List Test) {gaps : String} (some : given fields ≠ []) (tested : tests ≠ [])
    (clear : ∀ c ∈ gaps.toList, blank c = true)
    (distinct : (ahead.map Change.column ++ fields.map Prod.fst ++ stamps.map Change.column).Nodup)
    (named : ∀ column ∈ ahead.map Change.column ++ fields.map Prod.fst ++ stamps.map Change.column,
      Plain column ∧ (columns column).isSome = true)
    (first : ∀ c ∈ ahead, c.slot? = none) (last : ∀ c ∈ stamps, c.slot? = none)
    (listed : ∀ t ∈ tests, Plain t.column ∧ (schema t.column).isSome = true)
    (slots : ∀ slot, slot ∈ tests.filterMap Test.slot? ↔ 0 < slot ∧ slot ≤ before.length ∨
      before.length + (given fields).length < slot ∧ slot ≤ before.length + (given fields).length + after.length) :
    let d := (⟨ahead.map Change.text,before,before.length+1⟩ : Draft β).addAll fields
    update schema columns (d.params ++ after) (readUpdate (words (updateText (d.conditions ++ stamps.map Change.text) gaps
      (whereClause (tests.map Test.text))))) =
      (encodeFields columns (given fields)).map fun changes => (changes,selected schema (d.params ++ after) tests) := by
  intro d
  let changes : List Change := ahead ++ (numbered (before.length+1) (given fields)).map .set ++ stamps
  have drafted : d = ⟨ahead.map Change.text ++ (numbered (before.length+1) (given fields)).map Placed.text,
      before ++ (given fields).map Prod.snd,before.length + 1 + (given fields).length⟩ := Draft.addAll_spec _ fields
  have texts : d.conditions ++ stamps.map Change.text = changes.map Change.text := by
    rw [drafted,List.map_append,List.map_append,List.map_map]
    rfl
  have heads : changes.map Change.column =
      ahead.map Change.column ++ (given fields).map Prod.fst ++ stamps.map Change.column := by
    rw [List.map_append,List.map_append,List.map_map,←numbered_columns (before.length+1)]
    rfl
  have sublist : (changes.map Change.column).Sublist
      (ahead.map Change.column ++ fields.map Prod.fst ++ stamps.map Change.column) := by
    rw [heads]
    exact ((List.Sublist.refl _).append (given_sublist fields)).append (List.Sublist.refl _)
  have sub : ∀ c ∈ changes, Plain c.column ∧ (columns c.column).isSome = true := fun c member =>
    named _ (sublist.subset (List.mem_map_of_mem member))
  have filled : changes ≠ [] := by
    intro none
    have length := congrArg List.length heads
    rw [none] at length
    simp only [List.map_nil,List.length_nil,List.length_append,List.length_map] at length
    exact some (List.length_eq_zero_iff.mp (by omega))
  have count : counted (changes.filterMap Change.slot? ++ tests.filterMap Test.slot?) (d.params ++ after).length = true := by
    have none : ahead.filterMap Change.slot? = [] := List.filterMap_eq_nil_iff.mpr first
    have rest : stamps.filterMap Change.slot? = [] := List.filterMap_eq_nil_iff.mpr last
    refine counted_iff.mpr fun slot => ?_
    rw [List.mem_append,slots,List.filterMap_append,List.filterMap_append,change_slots,none,rest,List.append_nil,
      List.nil_append,mem_numbered,drafted]
    simp only [List.length_append,List.length_map]
    omega
  have met : (changes.map Change.column).Nodup ∧ (changes.all fun change => (columns change.column).isSome) ∧
      known schema tests :=
    ⟨distinct.sublist sublist,List.all_eq_true.mpr fun c member => (sub c member).2,
      List.all_eq_true.mpr fun t member => (listed t member).2⟩
  rw [texts,readUpdate_text filled tested clear (fun c member => (sub c member).1) fun t member => (listed t member).1,
    update,if_pos met,if_pos count,encode_stamped _ first last,drafted,encode_numbered]

omit [DecidableEq β] in
theorem placed_listed {n : Nat} {tested : List (String × Option β)}
    (known : ∀ column ∈ tested.map Prod.fst, Plain column ∧ (schema column).isSome = true) :
    ∀ t ∈ (numbered n tested).map Test.equals, Plain t.column ∧ (schema t.column).isSome = true := by
  intro t member
  obtain ⟨placed,held,rfl⟩ := List.mem_map.mp member
  refine known placed.column ?_
  rw [←numbered_columns n]
  exact List.mem_map_of_mem held

section Updating

variable {fields : List (String × Option (Option β))} {ahead stamps : List Change} {gaps : String}
  {tested : List (String × Option β)}

omit [DecidableEq β] in
theorem placed_some {n : Nat} (some : tested ≠ []) : (numbered n tested).map Test.equals ≠ [] := by
  cases tested with
  | nil => exact absurd rfl some
  | cons field rest => exact List.cons_ne_nil _ _

-- The parameters of the selection come last.
theorem update_after (schema : String → Option (ρ → Option β)) (columns : String → Option (Option β → Option δ))
    (ahead stamps : List Change) (tested : List (String × Option β)) (some : given fields ≠ []) (selecting : tested ≠ [])
    (clear : ∀ c ∈ gaps.toList, blank c = true)
    (distinct : (ahead.map Change.column ++ fields.map Prod.fst ++ stamps.map Change.column).Nodup)
    (named : ∀ column ∈ ahead.map Change.column ++ fields.map Prod.fst ++ stamps.map Change.column,
      Plain column ∧ (columns column).isSome = true)
    (first : ∀ c ∈ ahead, c.slot? = none) (last : ∀ c ∈ stamps, c.slot? = none)
    (known : ∀ column ∈ tested.map Prod.fst, Plain column ∧ (schema column).isSome = true) :
    let d := (⟨ahead.map Change.text,[],1⟩ : Draft β).addAll fields
    update schema columns (d.params ++ tested.map Prod.snd) (readUpdate (words (updateText
      (d.conditions ++ stamps.map Change.text) gaps (whereClause ((numbered d.paramCount tested).map Placed.text))))) =
      (encodeFields columns (given fields)).map fun changes => (changes,agrees schema tested) := by
  intro d
  have drafted : d = ⟨ahead.map Change.text ++ (numbered 1 (given fields)).map Placed.text,
      [] ++ (given fields).map Prod.snd,1 + (given fields).length⟩ := Draft.addAll_spec _ fields
  have size : d.params.length = (given fields).length := by simp [drafted]
  have count : d.paramCount = d.params.length+1 := by
    rw [size,drafted]
    exact Nat.add_comm _ _
  have ran := update_draft schema columns [] (tested.map Prod.snd) ahead stamps ((numbered d.paramCount tested).map .equals)
    some (placed_some selecting) clear distinct named first last (placed_listed known) (by
      intro slot
      rw [test_slots,mem_numbered,count,size]
      simp only [List.length_nil,List.length_map]
      omega)
  have chosen : selected schema (d.params ++ tested.map Prod.snd) ((numbered d.paramCount tested).map .equals) =
      agrees schema tested := by
    funext row
    have found := selected_numbered schema d.params tested row []
    rwa [List.append_nil,←count] at found
  rw [List.map_map] at ran
  refine Eq.trans ran ?_
  rw [←chosen]
  rfl

-- They come first.
theorem update_before (schema : String → Option (ρ → Option β)) (columns : String → Option (Option β → Option δ))
    (tested : List (String × Option β)) (some : given fields ≠ []) (selecting : tested ≠ [])
    (clear : ∀ c ∈ gaps.toList, blank c = true)
    (distinct : (fields.map Prod.fst).Nodup)
    (named : ∀ column ∈ fields.map Prod.fst, Plain column ∧ (columns column).isSome = true)
    (known : ∀ column ∈ tested.map Prod.fst, Plain column ∧ (schema column).isSome = true) :
    let d := (⟨[],tested.map Prod.snd,tested.length+1⟩ : Draft β).addAll fields
    update schema columns d.params (readUpdate (words (updateText d.conditions gaps
      (whereClause ((numbered 1 tested).map Placed.text))))) =
      (encodeFields columns (given fields)).map fun changes => (changes,agrees schema tested) := by
  intro d
  have drafted : d = ⟨[] ++ (numbered (tested.length+1) (given fields)).map Placed.text,
      tested.map Prod.snd ++ (given fields).map Prod.snd,tested.length+1 + (given fields).length⟩ := Draft.addAll_spec _ fields
  have ran := update_draft schema columns (tested.map Prod.snd) [] [] [] ((numbered 1 tested).map .equals) some
    (placed_some selecting) clear (by simpa using distinct)
    (by simpa using named) (by simp) (by simp) (placed_listed known) (by
      intro slot
      rw [test_slots,mem_numbered]
      simp only [List.length_nil,List.length_map]
      omega)
  have chosen : selected schema d.params ((numbered 1 tested).map .equals) = agrees schema tested := by
    funext row
    have found := selected_numbered schema [] tested row ((given fields).map Prod.snd)
    rw [drafted]
    simpa using found
  simp only [List.map_map,List.length_map,List.map_nil,List.append_nil] at ran
  refine Eq.trans ran ?_
  rw [←chosen]

end Updating

end Placing

end SmartParking.Lib.Sql
