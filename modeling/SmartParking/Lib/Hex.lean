import Mathlib.Data.List.Basic

namespace SmartParking.Lib.Hex

def value (c : Char) : Option Nat :=
  if '0' ≤ c ∧ c ≤ '9' then some (c.toNat-48)
  else if 'a' ≤ c ∧ c ≤ 'f' then some (c.toNat-87)
  else if 'A' ≤ c ∧ c ≤ 'F' then some (c.toNat-55)
  else none

def isSpace (c : Char) : Bool := c == ' ' || (9 ≤ c.toNat && c.toNat ≤ 13)

-- Pairs of digits with blanks between them, or the position of the first fault.
def pairs : List Char → Nat → Except Nat (List Nat)
  | [],_ => .ok []
  | c::rest,i =>
    if isSpace c then pairs rest (i+1)
    else match value c with
      | none => .error i
      | some high => match rest with
        | [] => .error (i+1)
        | d::rest => match value d with
          | none => .error (i+1)
          | some low => (pairs rest (i+2)).map fun bytes => (high*16+low)::bytes

-- `bytes.fromhex`, which reports a character outside ASCII before anything else.
def fromHex (text : String) : Except Nat (List Nat) :=
  match text.toList.findIdx? (128 ≤ ·.toNat) with
  | some position => .error position
  | none => pairs text.toList 0

def errorText (position : Nat) : String :=
  "non-hexadecimal number found in fromhex() arg at position " ++ toString position

example : (fromHex "0a FF").toOption = some [10,255] ∧ (fromHex "0a F").toOption = none := by decide

end SmartParking.Lib.Hex
