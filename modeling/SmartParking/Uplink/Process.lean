import SmartParking.Lib.Runs
import SmartParking.Spaces.StateManager
import SmartParking.Uplink.Webhook

namespace SmartParking.Uplink
open Lib Spaces

structure Reading where
  deviceEui : String
  spaceId : Option String
  occupancyState : Option SpaceState
  battery : Option Rat
  rssi : Option Int
  snr : Option Rat
  timestamp : Time
  fcnt : Option Int
  tenantId : Option String
  deriving DecidableEq

-- The entry of a row in `uq_readings_device_fcnt`. The index is partial, and a
-- NULL tenant is distinct from every tenant.
def Reading.key (row : Reading) : Option (String × String × Int) := do
  let tenantId ← row.tenantId
  let fcnt ← row.fcnt
  return (tenantId,row.deviceEui,fcnt)

structure Readings where
  rows : List Reading
  uqReadingsDeviceFcnt : (rows.filterMap (·.key)).Nodup

namespace Readings

def empty : Readings := ⟨[],List.nodup_nil⟩

def conflicts (t : Readings) (row : Reading) : Bool := row.key.any (t.rows.filterMap (·.key)).contains

theorem append_unique {t : Readings} {row : Reading} (fresh : t.conflicts row = false) :
    ((t.rows ++ [row]).filterMap (·.key)).Nodup := by
  rw [List.filterMap_append]
  cases keyed : row.key with
  | none => simpa [keyed] using t.uqReadingsDeviceFcnt
  | some key =>
    have absent : key ∉ t.rows.filterMap (·.key) := by
      rw [conflicts,keyed] at fresh
      exact fun member => Bool.false_ne_true (fresh.symm.trans (List.contains_iff_mem.mpr member))
    rw [List.filterMap_cons_some keyed,List.filterMap_nil]
    exact t.uqReadingsDeviceFcnt.append (List.nodup_singleton key) (List.disjoint_singleton.mpr absent)

-- INSERT with ON CONFLICT DO NOTHING. A row without a key never conflicts.
def insert (t : Readings) (row : Reading) : Readings :=
  if fresh : t.conflicts row = false then ⟨t.rows ++ [row],append_unique fresh⟩ else t

theorem insert_member {t : Readings} {row found : Reading} (member : found ∈ (t.insert row).rows) :
    found ∈ t.rows ∨ found = row := by
  unfold insert at member
  split at member
  · simpa using member
  · exact .inl member

end Readings

structure DeviceType where
  id : String
  typeCode : String
  profileName : String
  handlerClass : Option String := none
  deriving DecidableEq

structure SensorDevice where
  id : String
  devEui : String
  deviceTypeId : String
  deviceModel : String
  lastSeenAt : Time
  deriving DecidableEq

structure OrphanDevice where
  devEui : String
  firstSeen : Time
  lastSeen : Time
  uplinkCount : Nat
  lastPayload : Option String
  lastRssi : Option Int
  lastSnr : Option Rat
  deriving DecidableEq

structure WebhookSecret where
  tenantId : String
  secretHash : String
  isActive : Bool
  createdAt : Time
  deriving DecidableEq

-- What a display of the Kuando family reports, in the order red, blue, green.
structure KuandoUplink where
  timestamp : Time
  downlinksReceived : Nat
  rgb : Nat × Nat × Nat
  options : Nat
  requestId : String
  deriving DecidableEq

structure KuandoExpected where
  rgb : Nat × Nat × Nat
  counter : Nat
  deriving DecidableEq

structure Platform where
  store : Store
  readings : Readings
  deviceTypes : List DeviceType
  sensorDevices : List SensorDevice
  orphanDevices : List OrphanDevice
  webhookSecrets : List WebhookSecret
  registry : Registry
  lastKuandoUplink : String → Option KuandoUplink
  pendingDownlink : String → Option KuandoExpected

-- One POST to the endpoint, with the ids the database makes up for new rows.
structure Delivery where
  webhook : Webhook
  signature : Option String := none
  body : List Nat := []
  call : Call
  typeId : String
  deviceId : String

inductive ProcessingStatus where
  | success | orphanDevice | noOccupancyData | error
  deriving DecidableEq

structure ProcessingResult where
  status : ProcessingStatus
  deviceEui : String
  spaceCode : Option String := none
  state : Option SpaceState := none
  requestId : String
  deriving DecidableEq

namespace Platform

-- `ORDER BY created_at DESC LIMIT 1`.
def newest : List WebhookSecret → Option WebhookSecret
  | [] => none
  | secret::rest =>
    match newest rest with
    | none => some secret
    | some other => if secret.createdAt < other.createdAt then some other else some secret

def webhookSecret (p : Platform) (tenantId : String) : Option WebhookSecret :=
  newest (p.webhookSecrets.filter fun secret => secret.tenantId == tenantId && secret.isActive)

-- `verify_webhook_signature`; `false` is its HTTPException.
def verifyWebhookSignature (p : Platform) (tenantId : Option String) (d : Delivery) : Bool :=
  match Downlink.orNone d.signature,tenantId with
  | none,_ | some _,none => true
  | some signature,some tenantId =>
    match p.webhookSecret tenantId with
    | none => true
    | some secret =>
      signature == String.ofList (Sha256.hex (Sha256.hmac (Sha256.encode secret.secretHash) d.body))

def handlerClass (p : Platform) (deviceEui : String) : Option String := do
  let device ← p.sensorDevices.find? (·.devEui == deviceEui)
  let type ← p.deviceTypes.find? (·.id == device.deviceTypeId)
  Downlink.orNone type.handlerClass

def findHandler (p : Platform) (deviceEui profile : String) : Option Handler × Registry :=
  match (p.handlerClass deviceEui).bind p.registry.getHandlerByClass with
  | some handler => (some handler,p.registry)
  | none => p.registry.getHandler profile

-- The report is kept for an hour. A pending downlink is over once the display
-- reports its colours and a larger counter.
def recordKuando (p : Platform) (deviceEui : String) (reported : KuandoUplink) : Platform :=
  let p := {p with lastKuandoUplink := Function.update p.lastKuandoUplink deviceEui (some reported)}
  match p.pendingDownlink deviceEui with
  | none => p
  | some expected =>
    if reported.rgb = expected.rgb ∧ expected.counter < reported.downlinksReceived then
      {p with pendingDownlink := Function.update p.pendingDownlink deviceEui none}
    else p

-- The verification of displays whose EUI begins with 202020; its exceptions are
-- swallowed.
def verifyKuando (p : Platform) (deviceEui payload : String) (call : Call) : Platform :=
  if "202020".toList.isPrefixOf deviceEui.toList && payload != "" then
    match b64decode payload with
    | some (received::red::blue::green::options::_::_::_::_) =>
      p.recordKuando deviceEui ⟨call.now,received,(red,blue,green),options,call.requestId⟩
    | _ => p
  else p

def orphanTypeCode (profile : String) : String :=
  "orphan_" ++ String.ofList (profile.toLower.toList.map fun c => if c = ' ' ∨ c = '-' then '_' else c)

def getOrCreateDeviceType (p : Platform) (profile typeId : String) : Platform × DeviceType :=
  match p.deviceTypes.find? (·.profileName == profile) with
  | some type => (p,type)
  | none =>
    let type := {id := typeId,typeCode := orphanTypeCode profile,profileName := profile}
    ({p with deviceTypes := p.deviceTypes ++ [type]},type)

def getOrCreateSensorDevice (p : Platform) (deviceEui : String) (type : DeviceType) (d : Delivery) : Platform :=
  if p.sensorDevices.any (·.devEui == deviceEui) then
    {p with sensorDevices := p.sensorDevices.map fun device =>
      if device.devEui = deviceEui then {device with lastSeenAt := d.call.now} else device}
  else
    -- `device_model or device_name or ...`
    let model := (Downlink.orNone (some type.typeCode)).getD d.webhook.deviceName
    {p with sensorDevices := p.sensorDevices ++ [⟨d.deviceId,deviceEui,type.id,model,d.call.now⟩]}

def handleOrphanDevice (p : Platform) (deviceEui : String) (parsed : Parsed) (now : Time) : Platform :=
  let payload := Downlink.orNone (some parsed.payload)
  if p.orphanDevices.any (·.devEui == deviceEui) then
    {p with orphanDevices := p.orphanDevices.map fun device =>
      if device.devEui = deviceEui then
        {device with lastSeen := now,uplinkCount := device.uplinkCount+1,lastPayload := payload,
                     lastRssi := parsed.rssi,lastSnr := parsed.snr}
      else device}
  else
    {p with orphanDevices := p.orphanDevices ++ [⟨deviceEui,now,now,1,payload,parsed.rssi,parsed.snr⟩]}

def upper (text : String) : String := String.ofList (text.toList.map Char.toUpper)

-- The default the migrations give `sensor_readings.tenant_id`.
def defaultTenant : String := "00000000-0000-0000-0000-000000000001"

def insertTelemetry (p : Platform) (deviceEui : String) (u : SensorUplink) (now : Time) : Platform :=
  let row := ⟨upper deviceEui,none,u.occupancyState,u.battery,u.rssi,u.snr,now,none,some defaultTenant⟩
  {p with readings := p.readings.insert row}

-- The trigger on the table takes the tenant from the space.
def insertSensorReading (p : Platform) (deviceEui spaceId : String) (u : SensorUplink) (fcnt : Option Int) : Platform :=
  let row := ⟨upper deviceEui,some spaceId,u.occupancyState,u.battery,u.rssi,u.snr,u.timestamp,fcnt,
    p.store.spaces.tenantOf spaceId⟩
  {p with readings := p.readings.insert row}

def failed (deviceEui : String) (d : Delivery) : ProcessingResult :=
  {status := .error,deviceEui := deviceEui,requestId := d.call.requestId}

def trackOrphan (p : Platform) (deviceEui : String) (parsed : Parsed) (uplink : Option SensorUplink) (d : Delivery) :
    Platform × ProcessingResult :=
  let p := p.handleOrphanDevice deviceEui parsed d.call.now
  let p := uplink.elim p fun u => p.insertTelemetry deviceEui u d.call.now
  (p,{status := .orphanDevice,deviceEui := deviceEui,requestId := d.call.requestId})

-- The space is updated first; the reading, which carries the frame counter, is
-- stored afterwards, and not at all when the update raises.
def reportOccupancy (p : Platform) (deviceEui : String) (space : Space) (u : SensorUplink) (state : SpaceState)
    (fcnt : Option Int) (d : Delivery) : Platform × ProcessingResult :=
  let updated := p.store.updateSpaceState space.id state "sensor_uplink" d.call
  let p := {p with store := updated.1}
  match updated.2 with
  | .error _ => (p,failed deviceEui d)
  | .ok result =>
    (p.insertSensorReading deviceEui space.id u fcnt,
      {status := .success,deviceEui := deviceEui,spaceCode := some space.code,state := some result.newState,
       requestId := d.call.requestId})

def discover (p : Platform) (deviceEui : String) (parsed : Parsed) (d : Delivery) : Platform :=
  let p := p.verifyKuando deviceEui parsed.payload d.call
  let typed := p.getOrCreateDeviceType d.webhook.deviceProfileName d.typeId
  typed.1.getOrCreateSensorDevice deviceEui typed.2 d

def handle (p : Platform) (deviceEui : String) (space : Option Space) (uplink : Option SensorUplink)
    (parsed : Parsed) (d : Delivery) : Platform × ProcessingResult :=
  let p := p.discover deviceEui parsed d
  match space with
  | none => p.trackOrphan deviceEui parsed uplink d
  | some space =>
    match uplink.bind fun u => u.occupancyState.map fun state => (u,state) with
    | none =>
      (p,{status := .noOccupancyData,deviceEui := deviceEui,spaceCode := some space.code,requestId := d.call.requestId})
    | some (u,state) => p.reportOccupancy deviceEui space u state parsed.fcnt d

-- The endpoint. Every exception becomes a result with status error.
def processUplink (p : Platform) (d : Delivery) : Platform × ProcessingResult :=
  if d.webhook.devEui = "" then (p,failed "unknown" d)
  else
    match normalizeDeveui d.webhook.devEui with
    | none => (p,failed "unknown" d)
    | some deviceEui =>
      let space := p.store.spaces.getSpaceBySensor deviceEui
      if p.verifyWebhookSignature (space.bind (·.tenantId)) d then
        let handler := p.findHandler deviceEui d.webhook.deviceProfileName
        let p := {p with registry := handler.2}
        match parseChirpstackWebhook d.webhook with
        | none => (p,failed deviceEui d)
        | some parsed => p.handle deviceEui space (handler.1.bind (·.parseUplink d.webhook)) parsed d
      else (p,failed deviceEui d)

-- The state update a delivery of a device asks for.
def asked (p : Platform) (deviceEui : String) (d : Delivery) : Option (Space × SpaceState) :=
  match p.store.spaces.getSpaceBySensor deviceEui with
  | none => none
  | some space =>
    if p.verifyWebhookSignature space.tenantId d then do
      let _ ← parseChirpstackWebhook d.webhook
      let handler ← (p.findHandler deviceEui d.webhook.deviceProfileName).1
      let u ← handler.parseUplink d.webhook
      let state ← u.occupancyState
      return (space,state)
    else none

structure Kept (p q : Platform) : Prop where
  store : q.store = p.store
  readings : q.readings = p.readings

theorem Kept.trans {p q r : Platform} (first : Kept p q) (second : Kept q r) : Kept p r :=
  ⟨second.store.trans first.store,second.readings.trans first.readings⟩

theorem recordKuando_kept (p : Platform) (deviceEui : String) (reported : KuandoUplink) :
    Kept p (p.recordKuando deviceEui reported) := by
  unfold recordKuando
  dsimp only
  repeat' split
  all_goals exact ⟨rfl,rfl⟩

theorem verifyKuando_kept (p : Platform) (deviceEui payload : String) (call : Call) :
    Kept p (p.verifyKuando deviceEui payload call) := by
  unfold verifyKuando
  split
  · split
    · exact recordKuando_kept ..
    · exact ⟨rfl,rfl⟩
  · exact ⟨rfl,rfl⟩

theorem getOrCreateDeviceType_kept (p : Platform) (profile typeId : String) :
    Kept p (p.getOrCreateDeviceType profile typeId).1 := by
  unfold getOrCreateDeviceType
  split <;> exact ⟨rfl,rfl⟩

theorem getOrCreateSensorDevice_kept (p : Platform) (deviceEui : String) (type : DeviceType) (d : Delivery) :
    Kept p (p.getOrCreateSensorDevice deviceEui type d) := by
  unfold getOrCreateSensorDevice
  split <;> exact ⟨rfl,rfl⟩

theorem discover_kept (p : Platform) (deviceEui : String) (parsed : Parsed) (d : Delivery) :
    Kept p (p.discover deviceEui parsed d) :=
  (verifyKuando_kept ..).trans ((getOrCreateDeviceType_kept ..).trans (getOrCreateSensorDevice_kept ..))

theorem handleOrphanDevice_kept (p : Platform) (deviceEui : String) (parsed : Parsed) (now : Time) :
    Kept p (p.handleOrphanDevice deviceEui parsed now) := by
  unfold handleOrphanDevice
  dsimp only
  split <;> exact ⟨rfl,rfl⟩

theorem trackOrphan_store (p : Platform) (deviceEui : String) (parsed : Parsed) (uplink : Option SensorUplink)
    (d : Delivery) : (p.trackOrphan deviceEui parsed uplink d).1.store = p.store := by
  cases uplink <;> exact (handleOrphanDevice_kept ..).store

theorem reportOccupancy_store (p : Platform) (deviceEui : String) (space : Space) (u : SensorUplink)
    (state : SpaceState) (fcnt : Option Int) (d : Delivery) :
    (p.reportOccupancy deviceEui space u state fcnt d).1.store =
      (p.store.updateSpaceState space.id state "sensor_uplink" d.call).1 := by
  unfold reportOccupancy
  dsimp only
  split <;> rfl

theorem processUplink_store (p : Platform) (d : Delivery) (named : d.webhook.devEui ≠ "")
    (normal : normalizeDeveui d.webhook.devEui = some deviceEui) :
    (p.processUplink d).1.store =
      match p.asked deviceEui d with
      | none => p.store
      | some (space,state) => (p.store.updateSpaceState space.id state "sensor_uplink" d.call).1 := by
  have found : ∀ (q : Platform) parsed, (q.discover deviceEui parsed d).store = q.store :=
    fun q parsed => (discover_kept q deviceEui parsed d).store
  simp only [processUplink,if_neg named,normal,asked]
  cases assigned : p.store.spaces.getSpaceBySensor deviceEui with
  | none =>
    simp only [Option.bind_none]
    split
    · split
      · rfl
      · simp only [handle,trackOrphan_store,found]
    · rfl
  | some space =>
    simp only [Option.bind_some]
    split
    · cases parsed : parseChirpstackWebhook d.webhook with
      | none => rfl
      | some parsed =>
        cases chosen : (p.findHandler deviceEui d.webhook.deviceProfileName).1 with
        | none => simp [handle,found]
        | some handler =>
          cases decoded : handler.parseUplink d.webhook with
          | none => simp [handle,found,decoded]
          | some u =>
            cases detected : u.occupancyState with
            | none => simp [handle,found,decoded,detected]
            | some state => simp [handle,found,decoded,detected,reportOccupancy_store]
    · rfl

end Platform

end SmartParking.Uplink
