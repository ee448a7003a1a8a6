import SmartParking.Lib.Decimal
import SmartParking.Lib.Hex
import SmartParking.Lib.Sha256

namespace SmartParking.Lib.Json
open Sha256 (hexDigit)

-- Objects of scalars with whole numbers, as `json.dumps` writes and `json.loads`
-- reads them.
inductive Scalar where
  | null
  | bool (b : Bool)
  | number (n : Int)
  | string (text : String)
  deriving DecidableEq

abbrev Record := List (String × Scalar)

def hex4 (n : Nat) : List Char :=
  [hexDigit (n/4096%16),hexDigit (n/256%16),hexDigit (n/16%16),hexDigit (n%16)]

-- `ensure_ascii`: what is no printable ASCII character is written as one or two
-- UTF-16 units.
def escape (c : Char) : List Char :=
  if c = '"' then ['\\','"']
  else if c = '\\' then ['\\','\\']
  else if c = '\n' then ['\\','n']
  else if c = '\r' then ['\\','r']
  else if c = '\t' then ['\\','t']
  else if c.toNat = 12 then ['\\','f']
  else if c.toNat = 8 then ['\\','b']
  else if 32 ≤ c.toNat ∧ c.toNat ≤ 126 then [c]
  else if c.toNat < 65536 then '\\':: 'u'::hex4 c.toNat
  else '\\':: 'u'::hex4 (55296+(c.toNat-65536)/1024) ++ '\\':: 'u'::hex4 (56320+(c.toNat-65536)%1024)

def dumpString (text : String) : List Char := '"'::text.toList.flatMap escape ++ ['"']

def dumpScalar : Scalar → List Char
  | .null => "null".toList
  | .bool true => "true".toList
  | .bool false => "false".toList
  | .number n => (toString n).toList
  | .string text => dumpString text

def dumpMember (member : String × Scalar) : List Char := dumpString member.1 ++ ':':: ' '::dumpScalar member.2

def dumpMembers : Record → List Char
  | [] => []
  | [member] => dumpMember member
  | member::rest => dumpMember member ++ ',':: ' '::dumpMembers rest

def dumps (record : Record) : String := String.ofList ('{'::dumpMembers record ++ ['}'])

def unit (a b c d : Char) : Option Nat := do
  let a ← Hex.value a
  let b ← Hex.value b
  let c ← Hex.value c
  let d ← Hex.value d
  return a*4096+b*256+c*16+d

def unescape (c : Char) : Option Char :=
  if c = '"' ∨ c = '\\' ∨ c = '/' then some c
  else if c = 'n' then some '\n'
  else if c = 'r' then some '\r'
  else if c = 't' then some '\t'
  else if c = 'f' then some (Char.ofNat 12)
  else if c = 'b' then some (Char.ofNat 8)
  else none

def push (c : Char) (read : List Char × List Char) : List Char × List Char := (c::read.1,read.2)

-- A string after its opening quote, and what follows the closing one. Half of a
-- surrogate pair is no character here.
def readString : List Char → Option (List Char × List Char)
  | [] => none
  | '"'::rest => some ([],rest)
  | '\\':: 'u'::a::b::c::d::rest =>
    match unit a b c d with
    | none => none
    | some high =>
      if 55296 ≤ high ∧ high < 56320 then
        match rest with
        | '\\':: 'u'::e::f::g::h::rest =>
          match unit e f g h with
          | none => none
          | some low =>
            if 56320 ≤ low ∧ low < 57344 then
              (readString rest).map (push (Char.ofNat (65536+(high-55296)*1024+(low-56320))))
            else none
        | _ => none
      else if 56320 ≤ high ∧ high < 57344 then none
      else (readString rest).map (push (Char.ofNat high))
  | ['\\'] => none
  | '\\'::c::rest => (unescape c).bind fun c => (readString rest).map (push c)
  | c::rest => if c.toNat < 32 then none else (readString rest).map (push c)

def isBlank (c : Char) : Bool := c == ' ' || c == '\t' || c == '\n' || c == '\r'

def skip (cs : List Char) : List Char := cs.dropWhile isBlank

def inNumber (c : Char) : Bool := c.isDigit || c == '-'

def readScalar : List Char → Option (Scalar × List Char)
  | '"'::rest => (readString rest).map fun (text,rest) => (.string (String.ofList text),rest)
  | 'n':: 'u':: 'l':: 'l'::rest => some (.null,rest)
  | 't':: 'r':: 'u':: 'e'::rest => some (.bool true,rest)
  | 'f':: 'a':: 'l':: 's':: 'e'::rest => some (.bool false,rest)
  | cs => (Decimal.readChars (cs.takeWhile inNumber)).map fun n => (.number n,cs.dropWhile inNumber)

def readMember (cs : List Char) : Option ((String × Scalar) × List Char) :=
  match skip cs with
  | '"'::rest => (readString rest).bind fun (name,rest) =>
    match skip rest with
    | ':'::rest => (readScalar (skip rest)).map fun (value,rest) => ((String.ofList name,value),rest)
    | _ => none
  | _ => none

-- The members of an object up to its closing brace. Each takes a character at least.
def readMembers : Nat → List Char → Option (Record × List Char)
  | 0,_ => none
  | fuel+1,cs => (readMember cs).bind fun (member,rest) =>
    match skip rest with
    | ','::rest => (readMembers fuel rest).map fun (members,rest) => (member::members,rest)
    | '}'::rest => some ([member],rest)
    | _ => none

def readObject (cs : List Char) : Option (Record × List Char) :=
  match skip cs with
  | '}'::rest => some ([],rest)
  | rest => readMembers rest.length rest

def loads (text : String) : Option Record :=
  match skip text.toList with
  | '{'::rest => (readObject rest).bind fun (record,rest) => if skip rest = [] then some record else none
  | _ => none

variable {c : Char} {n : Nat} {cs rest : List Char} {text : String} {value : Scalar} {member : String × Scalar}
  {record : Record}

theorem value_hexDigit (small : n < 16) : Hex.value (hexDigit n) = some n := by
  have all : ∀ n < 16, Hex.value (hexDigit n) = some n := by decide
  exact all n small

theorem unit_hex4 (small : n < 65536) :
    unit (hexDigit (n/4096%16)) (hexDigit (n/256%16)) (hexDigit (n/16%16)) (hexDigit (n%16)) = some n := by
  unfold unit
  rw [value_hexDigit (Nat.mod_lt _ (by decide)),value_hexDigit (Nat.mod_lt _ (by decide)),
    value_hexDigit (Nat.mod_lt _ (by decide)),value_hexDigit (Nat.mod_lt _ (by decide))]
  have sum : n/4096%16*4096+n/256%16*256+n/16%16*16+n%16 = n := by omega
  exact congrArg some sum

-- A character is no half of a surrogate pair.
theorem not_surrogate (c : Char) : ¬(55296 ≤ c.toNat ∧ c.toNat < 57344) := by
  have valid : c.toNat < 55296 ∨ 57343 < c.toNat ∧ c.toNat < 1114112 := c.valid
  omega

theorem readString_unit (small : c.toNat < 65536) :
    readString ('\\':: 'u'::hex4 c.toNat ++ rest) = (readString rest).map (push c) := by
  have whole := not_surrogate c
  simp only [hex4,List.cons_append,List.nil_append]
  rw [readString,unit_hex4 small]
  simp only
  rw [if_neg (by omega),if_neg (by omega),Char.ofNat_toNat]

theorem readString_pair (large : 65536 ≤ c.toNat) :
    readString (('\\':: 'u'::hex4 (55296+(c.toNat-65536)/1024) ++ '\\':: 'u'::hex4 (56320+(c.toNat-65536)%1024)) ++ rest) =
      (readString rest).map (push c) := by
  have bound : c.toNat < 1114112 := by
    have valid : c.toNat < 55296 ∨ 57343 < c.toNat ∧ c.toNat < 1114112 := c.valid
    omega
  have high : 55296+(c.toNat-65536)/1024 < 56320 := by omega
  have low : 56320+(c.toNat-65536)%1024 < 57344 := by omega
  have sum : 65536+(55296+(c.toNat-65536)/1024-55296)*1024+(56320+(c.toNat-65536)%1024-56320) = c.toNat := by omega
  simp only [hex4,List.cons_append,List.nil_append]
  rw [readString,unit_hex4 (by omega)]
  simp only
  rw [if_pos ⟨by omega,high⟩,unit_hex4 (by omega)]
  simp only
  rw [if_pos ⟨by omega,low⟩,sum,Char.ofNat_toNat]

theorem readString_plain (quote : c ≠ '"') (slash : c ≠ '\\') (visible : 32 ≤ c.toNat) :
    readString (c::rest) = (readString rest).map (push c) := by
  rw [readString.eq_def]
  split
  all_goals rename_i equal
  · cases equal
  · exact absurd (List.cons.inj equal).1 quote
  · exact absurd (List.cons.inj equal).1 slash
  · exact absurd (List.cons.inj equal).1 slash
  · exact absurd (List.cons.inj equal).1 slash
  · cases equal
    rw [if_neg (by omega)]

-- A character is read back from its escape sequence.
theorem readString_escape (c : Char) (rest : List Char) :
    readString (escape c ++ rest) = (readString rest).map (push c) := by
  unfold escape
  split
  · subst_vars; simp [readString,unescape]
  split
  · subst_vars; simp [readString,unescape]
  split
  · subst_vars; simp [readString,unescape]
  split
  · subst_vars; simp [readString,unescape]
  split
  · subst_vars; simp [readString,unescape]
  split
  · rename_i feed
    obtain rfl : c = Char.ofNat 12 := by rw [← feed,Char.ofNat_toNat]
    simp [readString,unescape]
  split
  · rename_i back
    obtain rfl : c = Char.ofNat 8 := by rw [← back,Char.ofNat_toNat]
    simp [readString,unescape]
  split
  · rename_i quote slash _ _ _ _ _ visible
    exact readString_plain quote slash visible.1
  split
  · rename_i small
    exact readString_unit small
  · rename_i large
    exact readString_pair (Nat.not_lt.mp large)

theorem readString_dump (cs rest : List Char) : readString (cs.flatMap escape ++ '"'::rest) = some (cs,rest) := by
  induction cs with
  | nil => simp [readString]
  | cons c cs ih =>
    rw [List.flatMap_cons,List.append_assoc,readString_escape,ih]
    rfl

theorem inNumber_toString (n : Int) : ∀ c ∈ (toString n).toList, inNumber c = true := by
  intro c member
  rcases Decimal.mem_toString member with digit | minus
  · simp [inNumber,digit]
  · simp [inNumber,minus]

-- What comes after a scalar ends a number.
def Ends (rest : List Char) : Prop := ∀ c ∈ rest.head?, inNumber c = false

theorem readNumber_dump (n : Int) (ends : Ends rest) :
    ((toString n).toList ++ rest).takeWhile inNumber = (toString n).toList ∧
    ((toString n).toList ++ rest).dropWhile inNumber = rest := by
  have within := inNumber_toString n
  rw [List.takeWhile_append_of_pos within,List.dropWhile_append_of_pos within]
  cases rest with
  | nil => simp
  | cons c rest =>
    have out : inNumber c = false := ends c rfl
    simp [out]

theorem readScalar_number (numeric : ∀ c ∈ cs.head?, inNumber c = true) :
    readScalar cs = (Decimal.readChars (cs.takeWhile inNumber)).map fun n => (.number n,cs.dropWhile inNumber) := by
  unfold readScalar
  split
  · exact absurd (numeric _ rfl) (by decide)
  · exact absurd (numeric _ rfl) (by decide)
  · exact absurd (numeric _ rfl) (by decide)
  · exact absurd (numeric _ rfl) (by decide)
  · rfl

theorem readScalar_dump (value : Scalar) (ends : Ends rest) :
    readScalar (dumpScalar value ++ rest) = some (value,rest) := by
  cases value with
  | null => rfl
  | bool b => cases b <;> rfl
  | string text =>
    simp only [dumpScalar,dumpString,List.cons_append,List.append_assoc,List.nil_append,readScalar]
    rw [readString_dump]
    simp
  | number n =>
    obtain ⟨taken,left⟩ := readNumber_dump n ends
    have parsed : Decimal.readChars (toString n).toList = some n := Decimal.read_toString n
    have numeric : ∀ c ∈ ((toString n).toList ++ rest).head?, inNumber c = true := by
      intro c first
      have within := inNumber_toString n
      generalize (toString n).toList = digits at first parsed within
      cases digits with
      | nil => cases parsed
      | cons d digits =>
        cases first
        exact within _ List.mem_cons_self
    simp only [dumpScalar]
    rw [readScalar_number numeric,taken,left,parsed]
    rfl

theorem skip_visible (visible : isBlank c = false) : skip (c::rest) = c::rest := by
  simp [skip,visible]

theorem inNumber_visible (numeric : inNumber c = true) : isBlank c = false := by
  unfold isBlank
  simp only [Bool.or_eq_false_iff,beq_eq_false_iff_ne]
  refine ⟨⟨⟨?_,?_⟩,?_⟩,?_⟩ <;>
  · rintro rfl
    exact absurd numeric (by decide)

theorem skip_scalar (value : Scalar) (rest : List Char) :
    skip (dumpScalar value ++ rest) = dumpScalar value ++ rest := by
  cases value with
  | null => rfl
  | bool b => cases b <;> rfl
  | string text => rfl
  | number n =>
    have parsed : Decimal.readChars (toString n).toList = some n := Decimal.read_toString n
    have within := inNumber_toString n
    simp only [dumpScalar]
    generalize (toString n).toList = digits at parsed within
    cases digits with
    | nil => cases parsed
    | cons d digits =>
      have visible := inNumber_visible (within d List.mem_cons_self)
      exact skip_visible visible

theorem readMember_dump (member : String × Scalar) (ends : Ends rest) :
    readMember (dumpMember member ++ rest) = some (member,rest) := by
  obtain ⟨name,value⟩ := member
  have blank : skip (' '::(dumpScalar value ++ rest)) = dumpScalar value ++ rest := skip_scalar value rest
  unfold readMember
  simp only [dumpMember,dumpString,List.cons_append,List.append_assoc,List.nil_append]
  rw [skip_visible (by decide)]
  simp only
  rw [readString_dump,Option.bind_some]
  simp only
  rw [skip_visible (by decide)]
  simp only
  rw [blank,readScalar_dump value ends]
  simp

theorem ends_cons (out : inNumber c = false) : Ends (c::rest) := by
  intro d first
  cases first
  exact out

theorem dumpMembers_cons (member next : String × Scalar) (record : Record) :
    dumpMembers (member::next::record) = dumpMember member ++ ',':: ' '::dumpMembers (next::record) := rfl

theorem readMembers_blank (fuel : Nat) (cs : List Char) : readMembers fuel (' '::cs) = readMembers fuel cs := by
  cases fuel <;> rfl

theorem readMembers_dump (member : String × Scalar) (record : Record) (rest : List Char) {fuel : Nat}
    (enough : record.length < fuel) :
    readMembers fuel (dumpMembers (member::record) ++ '}'::rest) = some (member::record,rest) := by
  induction record generalizing member fuel with
  | nil =>
    cases fuel with
    | zero => cases enough
    | succ fuel =>
      simp only [readMembers,dumpMembers]
      rw [readMember_dump member (ends_cons (by decide)),Option.bind_some]
      simp only
      rw [skip_visible (by decide)]
      rfl
  | cons next record ih =>
    cases fuel with
    | zero => cases enough
    | succ fuel =>
      have later := ih next (Nat.lt_of_succ_lt_succ enough)
      rw [dumpMembers_cons,List.append_assoc,readMembers,List.cons_append,
        readMember_dump member (ends_cons (by decide)),Option.bind_some]
      simp only
      rw [skip_visible (by decide)]
      simp only
      rw [List.cons_append,readMembers_blank,later]
      rfl

theorem length_dumpMembers (record : Record) : record.length ≤ (dumpMembers record).length := by
  induction record with
  | nil => exact Nat.le_refl _
  | cons member record ih =>
    cases record with
    | nil => simp [dumpMembers,dumpMember,dumpString]
    | cons next record =>
      rw [dumpMembers_cons]
      simp only [List.length_append,List.length_cons] at ih ⊢
      omega

theorem dumpMembers_quote (member : String × Scalar) (record : Record) :
    ∃ tail, dumpMembers (member::record) = '"'::tail := by
  cases record with
  | nil => exact ⟨_,rfl⟩
  | cons next record => exact ⟨_,rfl⟩

theorem readObject_dump (record : Record) (rest : List Char) :
    readObject (dumpMembers record ++ '}'::rest) = some (record,rest) := by
  cases record with
  | nil => rfl
  | cons member record =>
    have enough : record.length < (dumpMembers (member::record) ++ '}'::rest).length := by
      have total := length_dumpMembers (member::record)
      simp only [List.length_append,List.length_cons] at total ⊢
      omega
    have members := readMembers_dump member record rest enough
    obtain ⟨tail,quote⟩ := dumpMembers_quote member record
    rw [quote,List.cons_append] at members ⊢
    unfold readObject
    rw [skip_visible (by decide)]
    exact members

-- What is dumped is loaded again.
theorem loads_dumps (record : Record) : loads (dumps record) = some record := by
  unfold loads dumps
  rw [String.toList_ofList,List.cons_append,skip_visible (by decide)]
  simp only
  rw [readObject_dump]
  rfl

example : dumps [("id",.string "a\"é"),("fport",.number 15),("last_error",.null)] =
    "\x7b\"id\": \"a\\\"\\u00e9\", \"fport\": 15, \"last_error\": null\x7d" := by decide +kernel

end SmartParking.Lib.Json
