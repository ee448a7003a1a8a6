import Mathlib.Data.Int.Basic
import Mathlib.Data.List.Basic

namespace SmartParking.Lib.Decimal

-- Parsing of the decimal notation of an integer. It works on the list of
-- characters, so a literal is parsed by the kernel.
def readNat (digits : List Char) : Option Nat :=
  if digits ≠ [] ∧ digits.all Char.isDigit then some (Nat.ofDigitChars 10 digits 0) else none

def readChars : List Char → Option Int
  | '-'::digits => (readNat digits).map fun n => -(n : Int)
  | digits => (readNat digits).map fun n => (n : Int)

def read (text : String) : Option Int := readChars text.toList

theorem readNat_digits (n : Nat) : readNat (Nat.toDigits 10 n) = some n := by
  have digits : (Nat.toDigits 10 n).all Char.isDigit = true :=
    List.all_eq_true.mpr fun c member => Nat.isDigit_of_mem_toDigits (by decide) (by decide) member
  simp [readNat,digits,Nat.toDigits_ne_nil]

theorem readChars_digits (n : Nat) : readChars (Nat.toDigits 10 n) = some (n : Int) := by
  have shape : ∀ rest, Nat.toDigits 10 n ≠ '-'::rest := by
    intro rest equal
    have digit := Nat.isDigit_of_mem_toDigits (b := 10) (n := n) (c := '-') (by decide) (by decide)
      (by rw [equal]; exact List.mem_cons_self)
    exact absurd digit (by decide)
  have unsigned : readChars (Nat.toDigits 10 n) = (readNat (Nat.toDigits 10 n)).map fun n => (n : Int) := by
    cases digits : Nat.toDigits 10 n with
    | nil => rfl
    | cons c rest =>
      unfold readChars
      split
      · rename_i equal
        cases equal
        exact absurd digits (shape _)
      · rfl
  rw [unsigned,readNat_digits]
  rfl

-- What is written is read back. `Int.repr` is the normal form of `toString`.
@[simp] theorem read_repr (n : Int) : read n.repr = some n := by
  cases n with
  | ofNat m =>
    change readChars m.repr.toList = _
    rw [Nat.toList_repr]
    exact readChars_digits m
  | negSucc m =>
    change readChars ("-" ++ (m+1).repr).toList = _
    rw [String.toList_append,Nat.toList_repr]
    change (readNat (Nat.toDigits 10 (m+1))).map (fun n => -(n : Int)) = _
    rw [readNat_digits]
    rfl

theorem read_toString (n : Int) : read (toString n) = some n := read_repr n

@[simp] theorem repr_ne_empty (n : Int) : n.repr ≠ "" := by
  intro empty
  have parsed := read_repr n
  have unread : read "" = none := by decide
  rw [empty,unread] at parsed
  cases parsed

theorem mem_toString {n : Int} {c : Char} (member : c ∈ (toString n).toList) : c.isDigit = true ∨ c = '-' := by
  have digit : ∀ {m : Nat}, c ∈ Nat.toDigits 10 m → c.isDigit = true :=
    fun listed => Nat.isDigit_of_mem_toDigits (by decide) (by decide) listed
  cases n with
  | ofNat m =>
    change c ∈ m.repr.toList at member
    rw [Nat.toList_repr] at member
    exact .inl (digit member)
  | negSucc m =>
    change c ∈ ("-" ++ (m+1).repr).toList at member
    rw [String.toList_append,Nat.toList_repr] at member
    exact (List.mem_cons.mp member).symm.imp digit id

theorem toString_inj {m n : Int} (same : toString m = toString n) : m = n := by
  have parsed := read_toString m
  rw [same,read_toString] at parsed
  exact (Option.some.inj parsed).symm

end SmartParking.Lib.Decimal
