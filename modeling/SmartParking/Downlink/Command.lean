import Mathlib.Data.Option.Basic
import SmartParking.Lib.Decimal
import SmartParking.Lib.Sha256

namespace SmartParking.Downlink
open Lib

abbrev CmdId := String
abbrev DeviceEui := String

-- `time.time()` in whole milliseconds. `str` and `float` are taken to round-trip
-- on such values, so an instant is written in decimal notation.
abbrev Time := Int

structure EnqueueArgs where
  deviceEui : DeviceEui
  payload : String
  fport : Int
  tenantId : String
  confirmed : Bool := false
  gatewayId : Option String := none
  spaceId : Option String := none
  triggerSource : Option String := none
  deriving DecidableEq

structure DownlinkCommand where
  id : CmdId
  deviceEui : DeviceEui
  tenantId : String
  gatewayId : Option String
  payload : String
  fport : Int
  confirmed : Bool
  contentHash : String
  createdAt : Time
  attempts : Int := 0
  lastError : Option String := none
  lastAttemptAt : Option Time := none
  spaceId : Option String := none
  triggerSource : Option String := none
  deriving DecidableEq

def computeContentHash (deviceEui : DeviceEui) (payload : String) (fport : Int) : String :=
  String.ofList ((Sha256.hexdigest (deviceEui ++ ":" ++ payload ++ ":" ++ toString fport)).take 16)

def EnqueueArgs.contentHash (a : EnqueueArgs) : String :=
  computeContentHash a.deviceEui a.payload a.fport

def EnqueueArgs.content (a : EnqueueArgs) : String × Int := (a.payload,a.fport)
def DownlinkCommand.content (cmd : DownlinkCommand) : String × Int := (cmd.payload,cmd.fport)

def EnqueueArgs.command (a : EnqueueArgs) (id : CmdId) (now : Time) : DownlinkCommand :=
  {id := id,deviceEui := a.deviceEui,tenantId := a.tenantId,gatewayId := a.gatewayId,payload := a.payload,
   fport := a.fport,confirmed := a.confirmed,contentHash := a.contentHash,createdAt := now,
   spaceId := a.spaceId,triggerSource := a.triggerSource}

inductive Field where
  | id | deviceEui | tenantId | gatewayId | payload | fport | confirmed | contentHash
  | createdAt | attempts | lastError | lastAttemptAt | spaceId | triggerSource
  deriving DecidableEq

def Field.all : List Field :=
  [.id,.deviceEui,.tenantId,.gatewayId,.payload,.fport,.confirmed,.contentHash,
   .createdAt,.attempts,.lastError,.lastAttemptAt,.spaceId,.triggerSource]

theorem Field.mem_all (field : Field) : field ∈ Field.all := by cases field <;> decide

-- A Redis hash. A hash without fields and a missing key are the same thing.
def CmdHash := Field → Option String

def CmdHash.absent : CmdHash := fun _ => none

def CmdHash.present (h : CmdHash) : Bool := Field.all.any fun field => (h field).isSome

theorem CmdHash.present_exact (h : CmdHash) : h.present = false ↔ h = .absent := by
  constructor
  · intro missing
    funext field
    have none := List.any_eq_false.mp missing field (Field.mem_all field)
    simpa [CmdHash.absent] using none
  · rintro rfl
    rfl

theorem CmdHash.present_of (h : CmdHash) (field : Field) (found : h field = some value) : h.present = true := by
  apply List.any_eq_true.mpr
  exact ⟨field,Field.mem_all field,by simp [found]⟩

-- HSET with a mapping: named fields are overwritten, the others are kept.
def CmdHash.hset (h : CmdHash) (mapping : Field → Option String) : CmdHash :=
  fun field => (mapping field).or (h field)

-- The mapping `enqueue` writes: `str(v) if v is not None else ""`.
def DownlinkCommand.mapping (cmd : DownlinkCommand) : Field → Option String
  | .id => some cmd.id
  | .deviceEui => some cmd.deviceEui
  | .tenantId => some cmd.tenantId
  | .gatewayId => some (cmd.gatewayId.getD "")
  | .payload => some cmd.payload
  | .fport => some (toString cmd.fport)
  | .confirmed => some (if cmd.confirmed then "True" else "False")
  | .contentHash => some cmd.contentHash
  | .createdAt => some (toString cmd.createdAt)
  | .attempts => some (toString cmd.attempts)
  | .lastError => some (cmd.lastError.getD "")
  | .lastAttemptAt => some ((cmd.lastAttemptAt.map toString).getD "")
  | .spaceId => some (cmd.spaceId.getD "")
  | .triggerSource => some (cmd.triggerSource.getD "")

def DownlinkCommand.retryMapping (cmd : DownlinkCommand) : Field → Option String
  | .attempts => some (toString cmd.attempts)
  | .lastError => some (cmd.lastError.getD "")
  | .lastAttemptAt => some ((cmd.lastAttemptAt.map toString).getD "")
  | _ => none

-- Python's `v or None` on an optional string.
def orNone (v : Option String) : Option String := v.filter (· ≠ "")

-- `dequeue`'s deserialization with its defaults. `none` is a `ValueError` of
-- `int` or `float`.
def CmdHash.decode (h : CmdHash) (cmdId : CmdId) (now : Time) : Option DownlinkCommand := do
  let fport ← Decimal.read ((h .fport).getD "15")
  let createdAt ← (h .createdAt).elim (some now) Decimal.read
  let attempts ← (h .attempts).elim (some 0) Decimal.read
  let lastAttemptAt ← (orNone (h .lastAttemptAt)).elim (some none) fun text => (Decimal.read text).map some
  return {
    id := (h .id).getD cmdId
    deviceEui := (h .deviceEui).getD ""
    tenantId := (h .tenantId).getD ""
    gatewayId := orNone (h .gatewayId)
    payload := (h .payload).getD ""
    fport := fport
    confirmed := (h .confirmed).getD "False" == "True"
    contentHash := (h .contentHash).getD ""
    createdAt := createdAt
    attempts := attempts
    lastError := orNone (h .lastError)
    lastAttemptAt := lastAttemptAt
    spaceId := orNone (h .spaceId)
    triggerSource := orNone (h .triggerSource)}

variable {h : CmdHash} {id cmdId : CmdId} {a : EnqueueArgs} {cmd : DownlinkCommand} {now : Time}

theorem decode_parts (decoded : h.decode cmdId now = some cmd) :
    cmd.id = (h .id).getD cmdId ∧ cmd.deviceEui = (h .deviceEui).getD "" ∧ cmd.tenantId = (h .tenantId).getD "" ∧
    cmd.gatewayId = orNone (h .gatewayId) ∧ cmd.payload = (h .payload).getD "" ∧
    Decimal.read ((h .fport).getD "15") = some cmd.fport ∧
    cmd.confirmed = ((h .confirmed).getD "False" == "True") ∧ cmd.contentHash = (h .contentHash).getD "" ∧
    (h .attempts).elim (some 0) Decimal.read = some cmd.attempts := by
  unfold CmdHash.decode at decoded
  obtain ⟨fport,readFport,decoded⟩ := Option.bind_eq_some_iff.mp decoded
  obtain ⟨createdAt,_,decoded⟩ := Option.bind_eq_some_iff.mp decoded
  obtain ⟨attempts,readAttempts,decoded⟩ := Option.bind_eq_some_iff.mp decoded
  obtain ⟨lastAttemptAt,_,decoded⟩ := Option.bind_eq_some_iff.mp decoded
  cases Option.some.inj decoded
  exact ⟨rfl,rfl,rfl,rfl,rfl,readFport,rfl,rfl,readAttempts⟩

theorem decode_device (decoded : h.decode cmdId now = some cmd) (named : cmd.deviceEui ≠ "") :
    h .deviceEui = some cmd.deviceEui := by
  obtain ⟨_,deviceEui,_⟩ := decode_parts decoded
  cases stored : h .deviceEui with
  | none => rw [stored] at deviceEui; exact absurd deviceEui named
  | some text => rw [stored] at deviceEui; rw [deviceEui]; rfl

-- The fields of a stored command that nothing may change after `enqueue`.
structure Genuine (h : CmdHash) (id : CmdId) (a : EnqueueArgs) : Prop where
  id : h .id = some id
  deviceEui : h .deviceEui = some a.deviceEui
  tenantId : h .tenantId = some a.tenantId
  gatewayId : h .gatewayId = some (a.gatewayId.getD "")
  payload : h .payload = some a.payload
  fport : h .fport = some (toString a.fport)
  confirmed : h .confirmed = some (if a.confirmed then "True" else "False")
  contentHash : h .contentHash = some a.contentHash
  spaceId : h .spaceId = some (a.spaceId.getD "")
  triggerSource : h .triggerSource = some (a.triggerSource.getD "")

-- A dequeued command that tells the device what the call asked for. An empty
-- gateway id is stored like an absent one.
structure Carries (cmd : DownlinkCommand) (a : EnqueueArgs) : Prop where
  deviceEui : cmd.deviceEui = a.deviceEui
  tenantId : cmd.tenantId = a.tenantId
  gatewayId : cmd.gatewayId = orNone a.gatewayId
  payload : cmd.payload = a.payload
  fport : cmd.fport = a.fport
  confirmed : cmd.confirmed = a.confirmed
  contentHash : cmd.contentHash = a.contentHash

theorem orNone_stored (v : Option String) : orNone (some (v.getD "")) = orNone v := by
  cases v with
  | none => rfl
  | some text => rfl

theorem genuine_enqueued (h : CmdHash) (a : EnqueueArgs) (id : CmdId) (now : Time) :
    Genuine (h.hset (a.command id now).mapping) id a := by
  constructor <;> rfl

theorem Genuine.retry (genuine : Genuine h id a) (cmd : DownlinkCommand) :
    Genuine (h.hset cmd.retryMapping) id a := by
  obtain ⟨id,deviceEui,tenantId,gatewayId,payload,fport,confirmed,contentHash,spaceId,triggerSource⟩ := genuine
  constructor <;> assumption

theorem Genuine.present (genuine : Genuine h id a) : h.present = true :=
  h.present_of .id genuine.id

theorem Genuine.decode (genuine : Genuine h id a) (decoded : h.decode cmdId now = some cmd) :
    cmd.id = id ∧ Carries cmd a := by
  obtain ⟨cmdId,deviceEui,tenantId,gatewayId,payload,fport,confirmed,contentHash,_⟩ := decode_parts decoded
  rw [genuine.fport] at fport
  refine ⟨by rw [cmdId,genuine.id]; rfl,?_⟩
  refine ⟨by rw [deviceEui,genuine.deviceEui]; rfl,by rw [tenantId,genuine.tenantId]; rfl,?_,
    by rw [payload,genuine.payload]; rfl,?_,?_,by rw [contentHash,genuine.contentHash]; rfl⟩
  · rw [gatewayId,genuine.gatewayId,orNone_stored]
  · simpa using fport.symm
  · rw [confirmed,genuine.confirmed]
    cases a.confirmed <;> decide

def Printed (v : Option String) : Prop := ∀ text, v = some text → ∃ n : Int, text = toString n

structure Readable (h : CmdHash) : Prop where
  fport : Printed (h .fport)
  createdAt : Printed (h .createdAt)
  attempts : Printed (h .attempts)
  lastAttemptAt : Printed (orNone (h .lastAttemptAt))

theorem printed_toString (n : Int) : Printed (some (toString n)) := by
  intro text equal
  exact ⟨n,(Option.some.inj equal).symm⟩

theorem printed_optional (v : Option Time) : Printed (orNone (some ((v.map toString).getD ""))) := by
  cases v with
  | none => intro text equal; simp [orNone] at equal
  | some t =>
    intro text equal
    have kept : orNone (some (toString t)) = some (toString t) := by
      simp [orNone,Option.filter]
    exact ⟨t,(Option.some.inj (kept.symm.trans equal)).symm⟩

theorem readable_absent : Readable .absent := by
  constructor <;> intro text equal <;> cases equal

theorem readable_enqueued (h : CmdHash) (cmd : DownlinkCommand) : Readable (h.hset cmd.mapping) :=
  ⟨printed_toString cmd.fport,printed_toString cmd.createdAt,printed_toString cmd.attempts,
    printed_optional cmd.lastAttemptAt⟩

theorem Readable.retry (readable : Readable h) (cmd : DownlinkCommand) :
    Readable (h.hset cmd.retryMapping) :=
  ⟨readable.fport,readable.createdAt,printed_toString cmd.attempts,printed_optional cmd.lastAttemptAt⟩

theorem Printed.elim {v : Option String} (printed : Printed v) (default : Int) :
    ∃ n, v.elim (some default) Decimal.read = some n := by
  cases v with
  | none => exact ⟨default,rfl⟩
  | some text =>
    obtain ⟨n,rfl⟩ := printed text rfl
    exact ⟨n,Decimal.read_toString n⟩

theorem Readable.decode (readable : Readable h) (cmdId : CmdId) (now : Time) :
    ∃ cmd, h.decode cmdId now = some cmd := by
  have fport : ∃ n, Decimal.read ((h .fport).getD "15") = some n := by
    cases stored : h .fport with
    | none => exact ⟨15,by decide⟩
    | some text =>
      obtain ⟨n,rfl⟩ := readable.fport text stored
      exact ⟨n,Decimal.read_toString n⟩
  have last : ∃ t, (orNone (h .lastAttemptAt)).elim (some none) (fun text => (Decimal.read text).map some) = some t := by
    cases stored : orNone (h .lastAttemptAt) with
    | none => exact ⟨none,rfl⟩
    | some text =>
      obtain ⟨n,rfl⟩ := readable.lastAttemptAt text stored
      exact ⟨some n,by simp⟩
  obtain ⟨fport,readFport⟩ := fport
  obtain ⟨createdAt,readCreated⟩ := readable.createdAt.elim now
  obtain ⟨attempts,readAttempts⟩ := readable.attempts.elim 0
  obtain ⟨last,readLast⟩ := last
  unfold CmdHash.decode
  rw [readFport,readCreated,readAttempts,readLast]
  exact ⟨_,rfl⟩

end SmartParking.Downlink
