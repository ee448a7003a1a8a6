import Mathlib.Tactic.Linarith
import Mathlib.Tactic.Positivity
import SmartParking.Uplink.Webhook

namespace SmartParking.Uplink
open Lib Spaces

theorem sextet_lt {c : Char} {v : Nat} (read : sextet c = some v) : v < 64 := by
  unfold sextet at read
  split at read
  · rename_i upper
    have last : c.toNat ≤ 90 := upper.2
    cases Option.some.inj read
    omega
  · split at read
    · rename_i lower
      have last : c.toNat ≤ 122 := lower.2
      cases Option.some.inj read
      omega
    · split at read
      · rename_i digit
        have last : c.toNat ≤ 57 := digit.2
        cases Option.some.inj read
        omega
      · split at read
        · cases Option.some.inj read
          decide
        · split at read
          · cases Option.some.inj read
            decide
          · cases read

-- What the bits left of the earlier digits of a group stay below.
def leftBound : (quad : Nat) → Nat
  | 0 | 1 => 64
  | 2 => 16
  | _ => 4

theorem cons_bytes {byte : Nat} {rest : Option (List Nat)} {bytes : List Nat} (fits : byte < 256)
    (tail : ∀ found, rest = some found → ∀ b ∈ found, b < 256) (decoded : rest.map (byte::·) = some bytes) :
    ∀ b ∈ bytes, b < 256 := by
  obtain ⟨found,held,rfl⟩ := Option.map_eq_some_iff.mp decoded
  intro b member
  rcases List.mem_cons.mp member with rfl | member
  · exact fits
  · exact tail found held b member

-- Induction on the text: the digits before a byte leave it below 256.
theorem a2bBase64_bytes {quad left pads : Nat} {text : List Char} {bytes : List Nat}
    (small : left < leftBound quad) (decoded : a2bBase64 quad left pads text = some bytes) :
    ∀ b ∈ bytes, b < 256 := by
  induction text generalizing quad left pads bytes with
  | nil =>
    unfold a2bBase64 at decoded
    split at decoded
    · cases Option.some.inj decoded
      exact fun b member => absurd member List.not_mem_nil
    · cases decoded
  | cons c rest ih =>
    unfold a2bBase64 at decoded
    split at decoded
    · split at decoded
      · exact ih small decoded
      · split at decoded
        · cases Option.some.inj decoded
          exact fun b member => absurd member List.not_mem_nil
        · exact ih small decoded
    · split at decoded
      · exact ih small decoded
      · rename_i v read
        exact ih (sextet_lt read) decoded
      · rename_i v read
        have digit := sextet_lt read
        have before : left < 64 := small
        exact cons_bytes (by omega) (fun _ found => ih (Nat.mod_lt v (by decide)) found) decoded
      · rename_i v read
        have digit := sextet_lt read
        have before : left < 16 := small
        exact cons_bytes (by omega) (fun _ found => ih (Nat.mod_lt v (by decide)) found) decoded
      · rename_i v read zero one two
        have digit := sextet_lt read
        have before : left < 4 := by
          unfold leftBound at small
          split at small
          · exact absurd rfl zero
          · exact absurd rfl one
          · exact absurd rfl two
          · exact small
        exact cons_bytes (by omega) (fun _ found => ih (by decide) found) decoded

theorem b64decode_bytes {text : String} {bytes : List Nat} (decoded : b64decode text = some bytes) :
    ∀ b ∈ bytes, b < 256 := by
  unfold b64decode at decoded
  split at decoded
  · exact a2bBase64_bytes (by decide) decoded
  · cases decoded

-- `payload_bytes[1]/100.0` is a battery the model takes.
theorem browanBattery_taken {bytes : List Nat} (small : ∀ b ∈ bytes, b < 256) :
    (browanBattery bytes).all (fun b => 0 ≤ b && b ≤ 100) = true := by
  match bytes with
  | [] => rfl
  | [_] => rfl
  | status::battery::rest =>
    have byte : battery < 256 := small battery (by simp)
    have read : (battery : Rat) ≤ 255 := by exact_mod_cast Nat.le_of_lt_succ byte
    have low : (0 : Rat) ≤ battery/100 := by positivity
    have high : (battery : Rat)/100 ≤ 100 := by linarith
    simp [browanBattery,low,high]

-- What the payload says of the space: bit 0 of its first byte, nothing where it
-- has no byte or cannot be decoded.
def Webhook.occupancy (w : Webhook) : Option SpaceState :=
  match b64decode w.data with
  | some (status::_) => some (if status.testBit 0 then .occupied else .free)
  | _ => none

-- The values the model's `rssi` and `snr` fields take.
def RxInfo.InRange (rx : RxInfo) : Prop :=
  (∀ r, rx.rssi = some r → -200 ≤ r ∧ r ≤ 0) ∧ ∀ s, rx.snr = some s → -20 ≤ s ∧ s ≤ 20

def Webhook.Faithful (w : Webhook) : Prop :=
  ∃ u, Handler.browanTabs.parseUplink w = some u ∧ u.occupancyState = w.occupancy

theorem checked_inRange {u : SensorUplink} (battery : u.battery.all (fun b => 0 ≤ b && b ≤ 100) = true)
    (rssi : ∀ r, u.rssi = some r → -200 ≤ r ∧ r ≤ 0) (snr : ∀ s, u.snr = some s → -20 ≤ s ∧ s ≤ 20) :
    u.checked = some u := by
  unfold SensorUplink.checked
  refine if_pos ?_
  rw [battery,Bool.true_and,Bool.and_eq_true]
  constructor
  · cases given : u.rssi with
    | none => rfl
    | some r => simpa using rssi r given
  · cases given : u.snr with
    | none => rfl
    | some s => simpa using snr s given

theorem minimal_made {w : Webhook} {rx : RxInfo} {timestamp : Time} (timed : w.time = some timestamp)
    (range : rx.InRange) : (Handler.minimal w rx).map (·.occupancyState) = some none := by
  unfold Handler.minimal
  simp only [timed,Option.bind_eq_bind,Option.bind_some]
  rw [checked_inRange]
  · rfl
  · rfl
  · exact range.1
  · exact range.2

theorem browan_made {w : Webhook} {rx : RxInfo} {timestamp : Time} {bytes : List Nat}
    (timed : w.time = some timestamp) (range : rx.InRange) (decoded : b64decode w.data = some bytes) :
    (Handler.browan w rx).map (·.occupancyState) = some (some (browanOccupancy bytes)) := by
  unfold Handler.browan
  simp only [decoded,timed,Option.bind_eq_bind,Option.bind_some]
  rw [checked_inRange]
  · rfl
  · exact browanBattery_taken (b64decode_bytes decoded)
  · exact range.1
  · exact range.2

theorem browan_undecoded {w : Webhook} {rx : RxInfo} (failed : b64decode w.data = none) :
    Handler.browan w rx = none := by
  unfold Handler.browan
  rw [failed]
  rfl

-- What the handler reports where the list names a gateway: the decoder's word,
-- and `free` where the payload has no byte.
theorem parseUplink_occupancy {w : Webhook} {rx : RxInfo} {timestamp : Time} (first : w.firstRx = some rx)
    (timed : w.time = some timestamp) (range : rx.InRange) :
    (Handler.browanTabs.parseUplink w).map (·.occupancyState) = some ((b64decode w.data).map browanOccupancy) := by
  have parsed : Handler.browanTabs.parseUplink w = (Handler.browan w rx).or (Handler.minimal w rx) := by
    unfold Handler.parseUplink
    rw [first]
    rfl
  rw [parsed]
  cases decoded : b64decode w.data with
  | none =>
    rw [browan_undecoded decoded,Option.none_or]
    exact minimal_made timed range
  | some bytes =>
    have made := browan_made timed range decoded
    obtain ⟨u,held,_⟩ := Option.map_eq_some_iff.mp made
    rw [held] at made ⊢
    exact made

theorem browanOccupancy_bit (status : Nat) (rest : List Nat) :
    browanOccupancy (status::rest) = if status.testBit 0 then .occupied else .free := by
  unfold browanOccupancy
  rw [Nat.testBit_zero]
  by_cases odd : status%2 = 1
  · simp [odd]
  · simp [odd]

theorem decoded_occupancy {w : Webhook} :
    (b64decode w.data).map browanOccupancy = w.occupancy ↔ b64decode w.data ≠ some [] := by
  unfold Webhook.occupancy
  match b64decode w.data with
  | none => exact ⟨fun _ => fun same => (by cases same),fun _ => rfl⟩
  | some [] => exact ⟨fun same => (by cases same),fun wrong => absurd rfl wrong⟩
  | some (status::rest) =>
    refine ⟨fun _ => fun same => (by cases same),fun _ => ?_⟩
    exact congrArg some (browanOccupancy_bit status rest)

theorem firstRx_none {w : Webhook} : w.firstRx = none ↔ w.rxInfo = some [] := by
  unfold Webhook.firstRx
  cases listed : w.rxInfo with
  | none => exact ⟨fun same => (by cases same),fun same => (by cases same)⟩
  | some list =>
    cases list with
    | nil => exact ⟨fun _ => rfl,fun _ => rfl⟩
    | cons rx rest => exact ⟨fun same => (by cases same),fun same => (by cases same)⟩

-- The default `[{}]` stands for an absent list only and the default `FREE` is
-- left standing for a payload without a byte.
theorem parseUplink_faithful (w : Webhook) (timed : w.time ≠ none)
    (range : ∀ rx, w.firstRx = some rx → rx.InRange) :
    w.Faithful ↔ w.rxInfo ≠ some [] ∧ b64decode w.data ≠ some [] := by
  obtain ⟨timestamp,timed⟩ := Option.ne_none_iff_exists'.mp timed
  rw [←decoded_occupancy,Ne,←firstRx_none]
  cases first : w.firstRx with
  | none =>
    refine ⟨?_,fun ⟨present,_⟩ => absurd rfl present⟩
    intro ⟨u,parsed,_⟩
    unfold Handler.parseUplink at parsed
    rw [first] at parsed
    cases parsed
  | some rx =>
    have reported := parseUplink_occupancy first timed (range rx first)
    constructor
    · intro ⟨u,parsed,same⟩
      rw [parsed] at reported
      exact ⟨fun absent => (by cases absent),(Option.some.inj reported).symm.trans same⟩
    · intro ⟨_,same⟩
      obtain ⟨u,parsed,state⟩ := Option.map_eq_some_iff.mp reported
      exact ⟨u,parsed,state.trans same⟩

theorem parseUplink_faithful_motion :
    Webhook.Faithful {devEui := "58a0cb0000112233",rxInfo := some [{rssi := some (-71)}],data := "AfwA",
                      time := some 0} :=
  (parseUplink_faithful _ (by decide)
    (fun rx first => by cases Option.some.inj first; exact ⟨by simp,by simp⟩)).mpr ⟨by decide,by decide⟩

-- No gateway in the list raises; no byte in the payload frees the space.
theorem parseUplink_unfaithful :
    ¬Webhook.Faithful {devEui := "58a0cb0000112233",rxInfo := some [],data := "AfwA",time := some 0} ∧
      ¬Webhook.Faithful {devEui := "58a0cb0000112233",rxInfo := some [{rssi := some (-71)}],data := "",
                         time := some 0} := by
  constructor
  · intro ⟨u,parsed,_⟩
    cases parsed
  · intro ⟨u,parsed,same⟩
    have reported : (Handler.browanTabs.parseUplink
        {devEui := "58a0cb0000112233",rxInfo := some [{rssi := some (-71)}],data := "",time := some 0}).map
          (·.occupancyState) = some (some .free) := by decide
    rw [parsed] at reported
    cases same.symm.trans (Option.some.inj reported)

end SmartParking.Uplink
