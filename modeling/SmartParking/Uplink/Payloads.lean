import SmartParking.Uplink.Webhook

namespace SmartParking.Uplink.Payloads
open Lib

def Bytes (bytes : List Nat) : Prop := ∀ b ∈ bytes, b < 256

section Hexadecimal

def hexDigit (n : Nat) : Char := if n < 10 then Char.ofNat (48+n) else Char.ofNat (87+n)

theorem value_hexDigit : ∀ n < 16, Hex.value (hexDigit n) = some n ∧ Hex.isSpace (hexDigit n) = false ∧
    (hexDigit n).toNat < 128 := by decide

end Hexadecimal

section Base64

theorem sextet_bound {c : Char} {n : Nat} (valued : sextet c = some n) : n < 64 := by
  unfold sextet at valued
  have nat : ∀ {d e : Char}, d ≤ e ↔ d.toNat ≤ e.toNat := Iff.rfl
  simp only [nat] at valued
  split at valued
  · rename_i upper
    have most : c.toNat ≤ 90 := upper.2
    cases valued
    omega
  · split at valued
    · rename_i lower
      have most : c.toNat ≤ 122 := lower.2
      cases valued
      omega
    · split at valued
      · rename_i digit
        have most : c.toNat ≤ 57 := digit.2
        cases valued
        omega
      · split at valued
        · cases valued
          omega
        · split at valued
          · cases valued
            omega
          · cases valued

theorem map_bytes {byte : Nat} {tail : Option (List Nat)} {bytes : List Nat} (less : byte < 256)
    (later : ∀ rest, tail = some rest → Bytes rest) (same : tail.map (byte::·) = some bytes) : Bytes bytes := by
  obtain ⟨rest,held,rfl⟩ := Option.map_eq_some_iff.mp same
  exact List.forall_mem_cons.mpr ⟨less,later rest held⟩

-- What is left of a group fits the bits that it has.
theorem a2b_bytes {quad left pads : Nat} {text : List Char} {bytes : List Nat}
    (bound : (quad = 1 → left < 64) ∧ (quad = 2 → left < 16) ∧ (3 ≤ quad → left < 4))
    (read : a2bBase64 quad left pads text = some bytes) : Bytes bytes := by
  induction text generalizing quad left pads bytes with
  | nil =>
    unfold a2bBase64 at read
    split at read
    · cases read
      exact fun b member => by cases member
    · cases read
  | cons c rest ih =>
    unfold a2bBase64 at read
    split at read
    · split at read
      · exact ih bound read
      · split at read
        · cases read
          exact fun b member => by cases member
        · exact ih bound read
    · split at read
      · exact ih bound read
      · rename_i v valued
        have small := sextet_bound valued
        exact ih (by omega) read
      · rename_i v valued
        have small := sextet_bound valued
        have kept := bound.1 rfl
        exact map_bytes (by omega) (fun _ later => ih (by omega) later) read
      · rename_i v valued
        have small := sextet_bound valued
        have kept := bound.2.1 rfl
        exact map_bytes (by omega) (fun _ later => ih (by omega) later) read
      · rename_i quad _ _ v valued zero one two
        have small := sextet_bound valued
        have first : quad ≠ 0 := fun same => zero same
        have second : quad ≠ 1 := fun same => one same
        have third : quad ≠ 2 := fun same => two same
        have kept := bound.2.2 (by omega)
        exact map_bytes (by omega) (fun _ later => ih (by omega) later) read

theorem b64decode_bytes {text : String} {bytes : List Nat} (read : b64decode text = some bytes) : Bytes bytes := by
  unfold b64decode at read
  split at read
  · exact a2b_bytes (by omega) read
  · cases read

end Base64

section Helpers

-- The `$` of a pattern also matches before a last newline.
def matched (pattern : List Char → Bool) (text : List Char) : Bool :=
  pattern text || (text.getLast? == some '\n' && pattern text.dropLast)

end Helpers

end SmartParking.Uplink.Payloads
