import Mathlib.Data.Rat.Defs
import Mathlib.Logic.Function.Basic
import SmartParking.Lib.Hex
import SmartParking.Lib.Sha256
import SmartParking.Spaces.State

namespace SmartParking.Uplink
open Lib Spaces

abbrev Time := Int

structure RxInfo where
  rssi : Option Int := none
  snr : Option Rat := none
  gatewayId : Option String := none
  deriving DecidableEq

-- The fields of a ChirpStack uplink event that are read. `time` is the instant
-- pydantic makes of the text, `none` where it finds none.
structure Webhook where
  devEui : String := ""
  deviceName : String := "unknown"
  deviceProfileName : String := "unknown"
  rxInfo : Option (List RxInfo) := none
  data : String := ""
  fCnt : Option Int := none
  time : Option Time := none
  deriving DecidableEq

-- `data.get("rxInfo", [{}])[0]`; `none` is the IndexError of an empty list.
def Webhook.firstRx (w : Webhook) : Option RxInfo :=
  match w.rxInfo with
  | none => some {}
  | some [] => none
  | some (rx::_) => some rx

structure Parsed where
  fcnt : Option Int
  payload : String
  rssi : Option Int
  snr : Option Rat

def parseChirpstackWebhook (w : Webhook) : Option Parsed := do
  let rx ← w.firstRx
  return ⟨w.fCnt,w.data,rx.rssi,rx.snr⟩

def hexSixteen (text : List Char) : Bool := text.length == 16 && text.all fun c => (Hex.value c).isSome

-- The `$` of the pattern also matches before a last newline.
def normalizeDeveui (deveui : String) : Option String :=
  if deveui = "" then some ""
  else
    let cleaned := deveui.toList.filter fun c => !(c == ':' || c == '-' || c == ' ')
    if hexSixteen cleaned || (cleaned.getLast? == some '\n' && hexSixteen cleaned.dropLast) then
      some (String.ofList (cleaned.map Char.toUpper))
    else none

def sextet (c : Char) : Option Nat :=
  if 'A' ≤ c ∧ c ≤ 'Z' then some (c.toNat-65)
  else if 'a' ≤ c ∧ c ≤ 'z' then some (c.toNat-97+26)
  else if '0' ≤ c ∧ c ≤ '9' then some (c.toNat-48+52)
  else if c = '+' then some 62
  else if c = '/' then some 63
  else none

-- `binascii.a2b_base64` in its lenient mode: foreign characters are skipped and
-- a completed padding ends the input.
def a2bBase64 : (quad left pads : Nat) → List Char → Option (List Nat)
  | quad,_,_,[] => if quad = 0 then some [] else none
  | quad,left,pads,c::rest =>
    if c = '=' then
      if quad < 2 then a2bBase64 quad left pads rest
      else if 4 ≤ quad+(pads+1) then some []
      else a2bBase64 quad left (pads+1) rest
    else
      match sextet c,quad with
      | none,_ => a2bBase64 quad left pads rest
      | some v,0 => a2bBase64 1 v 0 rest
      | some v,1 => (a2bBase64 2 (v%16) 0 rest).map ((left*4+v/16)::·)
      | some v,2 => (a2bBase64 3 (v%4) 0 rest).map ((left*16+v/4)::·)
      | some v,_ => (a2bBase64 0 0 0 rest).map ((left*64+v)::·)

def b64decode (text : String) : Option (List Nat) :=
  if text.toList.all (·.toNat < 128) then a2bBase64 0 0 0 text.toList else none

example : b64decode "AQ==" = some [1] := by decide

structure SensorUplink where
  deviceEui : String
  timestamp : Time
  occupancyState : Option SpaceState := none
  battery : Option Rat := none
  rssi : Option Int := none
  snr : Option Rat := none
  gatewayId : Option String := none
  rawPayload : Option String := none
  deriving DecidableEq

-- The checks of the model's fields; `none` is a ValidationError.
def SensorUplink.checked (u : SensorUplink) : Option SensorUplink :=
  if u.battery.all (fun b => 0 ≤ b && b ≤ 100) && u.rssi.all (fun r => -200 ≤ r && r ≤ 0) &&
      u.snr.all (fun s => -20 ≤ s && s ≤ 20) then some u
  else none

-- Bit 0 of the first byte is the occupancy, the second byte the battery.
def browanOccupancy : List Nat → SpaceState
  | [] => .free
  | status::_ => if status%2 = 1 then .occupied else .free

def browanBattery : List Nat → Option Rat
  | _::battery::_ => some (battery/100)
  | _ => none

inductive Handler where
  | browanTabs | heltecDisplay | kuandoBusylight
  deriving DecidableEq

namespace Handler

def className : Handler → String
  | .browanTabs => "BrowanTabsHandler"
  | .heltecDisplay => "HeltecDisplayHandler"
  | .kuandoBusylight => "KuandoBusylightHandler"

def deviceProfiles : Handler → List String
  | .browanTabs => ["browan_tbms100_motion"]
  | .heltecDisplay => ["heltec_display"]
  | .kuandoBusylight => ["plenom_kuando_busylight"]

def canHandle (h : Handler) (profile : String) : Bool := profile != "" && h.deviceProfiles.contains profile

-- The uplink without sensor data that displays give and a failed decoding leaves.
def minimal (w : Webhook) (rx : RxInfo) : Option SensorUplink := do
  let timestamp ← w.time
  SensorUplink.checked {deviceEui := w.devEui.toLower,timestamp := timestamp,rssi := rx.rssi,snr := rx.snr,
                        rawPayload := some w.data}

def browan (w : Webhook) (rx : RxInfo) : Option SensorUplink := do
  let bytes ← b64decode w.data
  let timestamp ← w.time
  SensorUplink.checked {deviceEui := w.devEui.toLower,timestamp := timestamp,
                        occupancyState := some (browanOccupancy bytes),battery := browanBattery bytes,
                        rssi := rx.rssi,snr := rx.snr,gatewayId := rx.gatewayId,rawPayload := some w.data}

def parseUplink (h : Handler) (w : Webhook) : Option SensorUplink := do
  let rx ← w.firstRx
  match h with
  | .browanTabs => (browan w rx).or (minimal w rx)
  | .heltecDisplay | .kuandoBusylight => minimal w rx

end Handler

-- `DeviceHandlerRegistry` with its cache of matched profiles.
structure Registry where
  handlers : List Handler
  profileCache : String → Option Handler

namespace Registry

def autoRegister : Registry := ⟨[.browanTabs,.heltecDisplay,.kuandoBusylight],fun _ => none⟩

def getHandlerByClass (g : Registry) (handlerClass : String) : Option Handler :=
  g.handlers.find? (·.className == handlerClass)

def getHandler (g : Registry) (profile : String) : Option Handler × Registry :=
  if profile = "" then (none,g)
  else
    match g.profileCache profile with
    | some handler => (some handler,g)
    | none =>
      match g.handlers.find? (·.canHandle profile) with
      | some handler => (some handler,{g with profileCache := Function.update g.profileCache profile (some handler)})
      | none => (none,g)

end Registry

theorem checked_same {u checked : SensorUplink} (valid : u.checked = some checked) : checked = u := by
  unfold SensorUplink.checked at valid
  split at valid
  · exact (Option.some.inj valid).symm
  · cases valid

-- A handler says a space is free or occupied, never anything else.
theorem parseUplink_detected {h : Handler} {w : Webhook} {u : SensorUplink} (parsed : h.parseUplink w = some u)
    (detected : u.occupancyState = some state) : state = .free ∨ state = .occupied := by
  have none_minimal : ∀ {rx}, Handler.minimal w rx = some u → u.occupancyState = none := by
    intro rx made
    obtain ⟨timestamp,_,made⟩ := Option.bind_eq_some_iff.mp made
    rw [checked_same made]
  have refuse : ∀ {rx}, Handler.minimal w rx = some u → state = .free ∨ state = .occupied := by
    intro rx made
    rw [none_minimal made] at detected
    cases detected
  obtain ⟨rx,_,parsed⟩ := Option.bind_eq_some_iff.mp parsed
  cases h with
  | heltecDisplay => exact refuse parsed
  | kuandoBusylight => exact refuse parsed
  | browanTabs =>
    rcases Option.or_eq_some_iff.mp parsed with made | ⟨_,made⟩
    · obtain ⟨bytes,_,made⟩ := Option.bind_eq_some_iff.mp made
      obtain ⟨timestamp,_,made⟩ := Option.bind_eq_some_iff.mp made
      rw [checked_same made] at detected
      cases Option.some.inj detected
      cases bytes with
      | nil => exact .inl rfl
      | cons status _ =>
        by_cases odd : status%2 = 1
        · exact .inr (if_pos odd)
        · exact .inl (if_neg odd)
    · exact refuse made

end SmartParking.Uplink
