import SmartParking.Spaces.Failures
import SmartParking.Uplink.Replay

namespace SmartParking.Uplink
open Lib Lib.Faults Spaces
open Downlink (orNone)

-- The places from which `process_uplink` sends a command, with those of the
-- state update.
inductive Site where
  | selectDevice | selectSpace | selectSecret
  | kuandoSet | kuandoGet | kuandoDelete
  | selectType | insertType | selectSensor | updateSensor | insertSensor
  | upsertOrphan | insertTelemetry
  | space (site : Spaces.Site)
  | insertReading
  deriving DecidableEq

def Site.inner : Site → Option Spaces.Site
  | .space site => some site
  | _ => none

-- A file of the spool's pending directory.
structure Envelope where
  id : String
  deviceEui : String
  requestId : String
  webhookData : Webhook
  deriving DecidableEq

structure Intake where
  platform : Platform
  bare : List BareActuation
  spool : List Envelope

namespace Intake

def bench (i : Intake) : Bench := ⟨i.platform.store,i.bare⟩

def putBench (i : Intake) (b : Bench) : Intake := {i with platform := {i.platform with store := b.store},bare := b.bare}

def onPlatform (i : Intake) (p : Platform) : Intake := {i with platform := p}

-- Every exception ends in the same handler, which does not look at it.
abbrev Run (α : Type) := Program Site Intake Unit α

def ask (site : Site) (read : Platform → α) : Run α := .command site () fun i => (i,read i.platform)

def act (site : Site) (write : Platform → Platform) : Run Unit :=
  .command site () fun i => (i.onPlatform (write i.platform),())

def verifyWebhookSignature (tenantId : Option String) (d : Delivery) : Run Unit :=
  match orNone d.signature,tenantId with
  | none,_ | some _,none => pure ()
  | some signature,some tenantId => do
    let secret ← ask .selectSecret (·.webhookSecret tenantId)
    match secret with
    | none => pure ()
    | some secret =>
      if signature == String.ofList (Sha256.hex (Sha256.hmac (Sha256.encode secret.secretHash) d.body)) then pure ()
      else .raise ()

def chooseHandler (handlerClass : Option String) (profile : String) : Run (Option Handler) :=
  .compute fun i =>
    let chosen :=
      match handlerClass.bind i.platform.registry.getHandlerByClass with
      | some handler => (some handler,i.platform.registry)
      | none => i.platform.registry.getHandler profile
    (i.onPlatform {i.platform with registry := chosen.2},chosen.1)

def recordKuando (deviceEui : String) (reported : KuandoUplink) : Run Unit := do
  act .kuandoSet fun p => {p with lastKuandoUplink := Function.update p.lastKuandoUplink deviceEui (some reported)}
  let pending ← ask .kuandoGet (·.pendingDownlink deviceEui)
  match pending with
  | none => pure ()
  | some expected =>
    if reported.rgb = expected.rgb ∧ expected.counter < reported.downlinksReceived then
      act .kuandoDelete fun p => {p with pendingDownlink := Function.update p.pendingDownlink deviceEui none}
    else pure ()

-- The report of a display whose EUI begins with 202020, if the payload has one.
def kuandoReport (deviceEui payload : String) (call : Call) : Option KuandoUplink :=
  if "202020".toList.isPrefixOf deviceEui.toList && payload != "" then
    match b64decode payload with
    | some (received::red::blue::green::options::_::_::_::_) =>
      some ⟨call.now,received,(red,blue,green),options,call.requestId⟩
    | _ => none
  else none

def verifyKuando (deviceEui payload : String) (call : Call) : Run Unit :=
  match kuandoReport deviceEui payload call with
  | some reported => recordKuando deviceEui reported
  | none => pure ()

def getOrCreateDeviceType (profile typeId : String) : Run DeviceType := do
  let found ← ask .selectType (·.deviceTypes.find? (·.profileName == profile))
  match found with
  | some type => pure type
  | none =>
    let type := {id := typeId,typeCode := Platform.orphanTypeCode profile,profileName := profile}
    act .insertType fun p => {p with deviceTypes := p.deviceTypes ++ [type]}
    pure type

def getOrCreateSensorDevice (deviceEui : String) (type : DeviceType) (d : Delivery) : Run Unit := do
  let known ← ask .selectSensor (·.sensorDevices.any (·.devEui == deviceEui))
  act (if known then .updateSensor else .insertSensor) (·.getOrCreateSensorDevice deviceEui type d)

def discover (deviceEui : String) (parsed : Parsed) (d : Delivery) : Run Unit := do
  let _ ← .attempt (verifyKuando deviceEui parsed.payload d.call)
  let type ← getOrCreateDeviceType d.webhook.deviceProfileName d.typeId
  getOrCreateSensorDevice deviceEui type d

def storeTelemetry (deviceEui : String) (uplink : Option SensorUplink) (d : Delivery) : Run Unit :=
  match uplink with
  | none => pure ()
  | some u => act .insertTelemetry (·.insertTelemetry deviceEui u d.call.now)

def trackOrphan (deviceEui : String) (parsed : Parsed) (uplink : Option SensorUplink) (d : Delivery) :
    Run ProcessingResult := do
  -- `handle_orphan_device` logs its exceptions
  let _ ← .attempt (act .upsertOrphan (·.handleOrphanDevice deviceEui parsed d.call.now))
  storeTelemetry deviceEui uplink d
  pure {status := .orphanDevice,deviceEui := deviceEui,requestId := d.call.requestId}

section
variable (message : String)

def updateSpace (space : Space) (state : SpaceState) (d : Delivery) : Run StateUpdateResult :=
  .inside bench putBench Site.inner (fun _ => ())
    (Bench.updateSpaceState message space.id state "sensor_uplink" d.call)

def reportOccupancy (deviceEui : String) (space : Space) (u : SensorUplink) (state : SpaceState) (fcnt : Option Int)
    (d : Delivery) : Run ProcessingResult := do
  let result ← updateSpace message space state d
  act .insertReading (·.insertSensorReading deviceEui space.id u fcnt)
  pure {status := .success,deviceEui := deviceEui,spaceCode := some space.code,state := some result.newState,
        requestId := d.call.requestId}

def finish (deviceEui : String) (space : Option Space) (uplink : Option SensorUplink) (parsed : Parsed) (d : Delivery) :
    Run ProcessingResult :=
  match space with
  | none => trackOrphan deviceEui parsed uplink d
  | some space =>
    match uplink.bind fun u => u.occupancyState.map fun state => (u,state) with
    | none =>
      pure {status := .noOccupancyData,deviceEui := deviceEui,spaceCode := some space.code,
            requestId := d.call.requestId}
    | some (u,state) => reportOccupancy message deviceEui space u state parsed.fcnt d

def receive (deviceEui : String) (d : Delivery) : Run ProcessingResult := do
  let handlerClass ← ask .selectDevice (·.handlerClass deviceEui)
  let space ← ask .selectSpace (·.store.spaces.getSpaceBySensor deviceEui)
  verifyWebhookSignature (space.bind (·.tenantId)) d
  let handler ← chooseHandler handlerClass d.webhook.deviceProfileName
  match parseChirpstackWebhook d.webhook with
  | none => .raise ()
  | some parsed =>
    discover deviceEui parsed d
    finish message deviceEui space (handler.bind (·.parseUplink d.webhook)) parsed d

-- `process_uplink`. The handler of all exceptions answers and does no more.
def processUplink (d : Delivery) : Run ProcessingResult :=
  if d.webhook.devEui = "" then pure (Platform.failed "unknown" d)
  else
    match normalizeDeveui d.webhook.devEui with
    | none => pure (Platform.failed "unknown" d)
    | some deviceEui => do
      let received ← .attempt (receive message deviceEui d)
      match received with
      | .ok result => pure result
      | .error _ => pure (Platform.failed deviceEui d)

end

section Healthy
open Program

variable {i : Intake} {fault : Option Site} {deviceEui : String} {d : Delivery}

theorem ask_run {site : Site} {read : Platform → α} (healthy : fault ≠ some site) :
    ask site read fault i = (i,.ok (read i.platform)) := command_runs healthy

theorem act_run {site : Site} {write : Platform → Platform} (healthy : fault ≠ some site) :
    act site write fault i = (i.onPlatform (write i.platform),.ok ()) := command_runs healthy

theorem act_fails {site : Site} {write : Platform → Platform} : act site write (some site) i = (i,.error ()) :=
  command_fails

-- Whether the SELECT for the tenant's secret is made at all.
def secretSought (tenantId : Option String) (d : Delivery) : Bool := (orNone d.signature).isSome && tenantId.isSome

theorem verify_run (tenantId : Option String) (healthy : secretSought tenantId d = true → fault ≠ some .selectSecret) :
    verifyWebhookSignature tenantId d fault i =
      (i,bif i.platform.verifyWebhookSignature tenantId d then .ok () else .error ()) := by
  unfold verifyWebhookSignature Platform.verifyWebhookSignature
  cases signed : orNone d.signature with
  | none => rfl
  | some signature =>
    cases tenantId with
    | none => rfl
    | some tenantId =>
      dsimp only
      rw [bind_ok (ask_run (healthy (by simp [secretSought,signed])))]
      cases i.platform.webhookSecret tenantId with
      | none => rfl
      | some secret =>
        dsimp only
        cases signature == String.ofList (Sha256.hex (Sha256.hmac (Sha256.encode secret.secretHash) d.body)) <;> rfl

theorem verify_fails (tenantId : Option String) (sought : secretSought tenantId d = true) :
    verifyWebhookSignature tenantId d (some .selectSecret) i = (i,.error ()) := by
  unfold verifyWebhookSignature
  simp only [secretSought,Bool.and_eq_true,Option.isSome_iff_exists] at sought
  obtain ⟨⟨signature,signed⟩,tenant,known⟩ := sought
  rw [signed,known]
  exact bind_error command_fails

theorem recordKuando_healthy (reported : KuandoUplink) :
    recordKuando deviceEui reported none i = (i.onPlatform (i.platform.recordKuando deviceEui reported),.ok ()) := by
  have answered : Intake.ask .kuandoGet (·.pendingDownlink deviceEui) none (i.onPlatform {i.platform with
      lastKuandoUplink := Function.update i.platform.lastKuandoUplink deviceEui (some reported)}) =
      (_,.ok (i.platform.pendingDownlink deviceEui)) := rfl
  unfold recordKuando Platform.recordKuando
  rw [bind_ok (act_run (by simp)),bind_ok answered]
  dsimp only
  cases i.platform.pendingDownlink deviceEui with
  | none => rfl
  | some expected =>
    dsimp only
    by_cases verified : reported.rgb = expected.rgb ∧ expected.counter < reported.downlinksReceived
    · rw [if_pos verified,if_pos verified]
      rfl
    · rw [if_neg verified,if_neg verified]
      rfl

theorem verifyKuando_report (p : Platform) (payload : String) (call : Call) :
    p.verifyKuando deviceEui payload call =
      (kuandoReport deviceEui payload call).elim p (p.recordKuando deviceEui) := by
  unfold Platform.verifyKuando kuandoReport
  split
  · cases b64decode payload with
    | none => rfl
    | some bytes =>
      -- A report has eight bytes.
      rcases bytes with _ | ⟨_,_ | ⟨_,_ | ⟨_,_ | ⟨_,_ | ⟨_,_ | ⟨_,_ | ⟨_,_ | ⟨_,_⟩⟩⟩⟩⟩⟩⟩⟩ <;> rfl
  · rfl

theorem verifyKuando_healthy (payload : String) (call : Call) :
    verifyKuando deviceEui payload call none i = (i.onPlatform (i.platform.verifyKuando deviceEui payload call),.ok ()) := by
  rw [verifyKuando_report]
  unfold verifyKuando
  cases kuandoReport deviceEui payload call with
  | none => rfl
  | some reported => exact recordKuando_healthy reported

theorem chooseHandler_run (profile : String) :
    chooseHandler (i.platform.handlerClass deviceEui) profile fault i =
      (i.onPlatform {i.platform with registry := (i.platform.findHandler deviceEui profile).2},
        .ok (i.platform.findHandler deviceEui profile).1) := rfl

-- The INSERT is made only for a profile that is new.
theorem deviceType_run (profile typeId : String) (select : fault ≠ some .selectType)
    (insert : i.platform.deviceTypes.find? (·.profileName == profile) = none → fault ≠ some .insertType) :
    getOrCreateDeviceType profile typeId fault i =
      (i.onPlatform (i.platform.getOrCreateDeviceType profile typeId).1,
        .ok (i.platform.getOrCreateDeviceType profile typeId).2) := by
  unfold getOrCreateDeviceType Platform.getOrCreateDeviceType
  rw [bind_ok (ask_run select)]
  cases found : i.platform.deviceTypes.find? (·.profileName == profile) with
  | none =>
    dsimp only
    rw [bind_ok (act_run (insert found))]
    rfl
  | some type => rfl

theorem sensorDevice_run (type : DeviceType) (select : fault ≠ some .selectSensor)
    (write : fault ≠ some (if i.platform.sensorDevices.any (·.devEui == deviceEui) then .updateSensor else .insertSensor)) :
    getOrCreateSensorDevice deviceEui type d fault i =
      (i.onPlatform (i.platform.getOrCreateSensorDevice deviceEui type d),.ok ()) := by
  unfold getOrCreateSensorDevice
  rw [bind_ok (ask_run select)]
  exact act_run write

theorem updateSpace_healthy (message : String) (space : Space) (state : SpaceState) :
    updateSpace message space state d none i =
      (i.onPlatform {i.platform with store := (i.platform.store.updateSpaceState space.id state "sensor_uplink" d.call).1},
        (i.platform.store.updateSpaceState space.id state "sensor_uplink" d.call).2.mapError fun _ => ()) := by
  unfold updateSpace inside
  rw [Option.bind_none,Bench.updateSpaceState_healthy]
  refine Prod.ext rfl ?_
  show ((i.platform.store.updateSpaceState space.id state "sensor_uplink" d.call).2.mapError _).mapError _ = _
  cases (i.platform.store.updateSpaceState space.id state "sensor_uplink" d.call).2 <;> rfl

-- A result, or the answer of the handler of all exceptions.
def answer (deviceEui : String) (d : Delivery) : Except Unit ProcessingResult → ProcessingResult
  | .ok result => result
  | .error _ => Platform.failed deviceEui d

-- What a program leaves and answers without a failure.
def Matches (deviceEui : String) (d : Delivery) (ran : Intake × Except Unit ProcessingResult) (i : Intake)
    (expected : Platform × ProcessingResult) : Prop :=
  ran.1 = i.onPlatform expected.1 ∧ answer deviceEui d ran.2 = expected.2

theorem reportOccupancy_healthy (message : String) (space : Space) (u : SensorUplink) (state : SpaceState)
    (fcnt : Option Int) :
    Matches deviceEui d (reportOccupancy message deviceEui space u state fcnt d none i) i
      (i.platform.reportOccupancy deviceEui space u state fcnt d) := by
  unfold reportOccupancy Platform.reportOccupancy
  rw [bind_run,updateSpace_healthy]
  generalize i.platform.store.updateSpaceState space.id state "sensor_uplink" d.call = updated
  obtain ⟨store,result⟩ := updated
  cases result with
  | error e => exact ⟨rfl,rfl⟩
  | ok result => exact ⟨rfl,rfl⟩

theorem trackOrphan_healthy (parsed : Parsed) (uplink : Option SensorUplink) :
    Matches deviceEui d (trackOrphan deviceEui parsed uplink d none i) i
      (i.platform.trackOrphan deviceEui parsed uplink d) := by
  unfold trackOrphan storeTelemetry Platform.trackOrphan
  cases uplink <;> exact ⟨rfl,rfl⟩

theorem discover_healthy (parsed : Parsed) :
    discover deviceEui parsed d none i = (i.onPlatform (i.platform.discover deviceEui parsed d),.ok ()) := by
  unfold discover
  rw [bind_ok attempt_run,verifyKuando_healthy,bind_ok (deviceType_run _ _ (by simp) (by simp)),
    sensorDevice_run _ (by simp) (by split <;> simp)]
  rfl

theorem finish_healthy (message : String) (space : Option Space) (uplink : Option SensorUplink) (parsed : Parsed)
    (i : Intake) (p : Platform) :
    Matches deviceEui d (finish message deviceEui space uplink parsed d none (i.onPlatform (p.discover deviceEui parsed d))) i
      (p.handle deviceEui space uplink parsed d) := by
  unfold finish Platform.handle
  cases space with
  | none => exact trackOrphan_healthy parsed uplink
  | some space =>
    dsimp only
    cases uplink.bind fun u => u.occupancyState.map fun state => (u,state) with
    | none => exact ⟨rfl,rfl⟩
    | some found => exact reportOccupancy_healthy message space found.1 found.2 parsed.fcnt

theorem receive_healthy (message : String) (named : d.webhook.devEui ≠ "")
    (normal : normalizeDeveui d.webhook.devEui = some deviceEui) :
    Matches deviceEui d (receive message deviceEui d none i) i (i.platform.processUplink d) := by
  unfold receive Platform.processUplink
  rw [if_neg named,normal,bind_ok (ask_run (by simp)),bind_ok (ask_run (by simp)),bind_run,verify_run _ (by simp)]
  dsimp only
  cases i.platform.verifyWebhookSignature ((i.platform.store.spaces.getSpaceBySensor deviceEui).bind (·.tenantId)) d with
  | false => exact ⟨rfl,rfl⟩
  | true =>
    simp only [cond_true,if_true]
    rw [bind_ok (chooseHandler_run _)]
    cases parseChirpstackWebhook d.webhook with
    | none => exact ⟨rfl,rfl⟩
    | some parsed =>
      dsimp only
      rw [bind_ok (discover_healthy parsed)]
      exact finish_healthy message _ _ parsed i _

-- Without a failing command the program is the endpoint's function.
theorem processUplink_healthy (message : String) (i : Intake) (d : Delivery) :
    processUplink message d none i = (i.onPlatform (i.platform.processUplink d).1,.ok (i.platform.processUplink d).2) := by
  unfold processUplink
  by_cases named : d.webhook.devEui = ""
  · rw [if_pos named,Platform.processUplink,if_pos named]
    rfl
  · rw [if_neg named]
    cases normal : normalizeDeveui d.webhook.devEui with
    | none =>
      rw [Platform.processUplink,if_neg named,normal]
      rfl
    | some deviceEui =>
      obtain ⟨left,right⟩ := receive_healthy (i := i) message named normal
      dsimp only
      rw [bind_ok attempt_run,left,← right]
      cases (receive message deviceEui d none i).2 <;> rfl

end Healthy

section Losses
open Program

variable {i j : Intake} {fault : Option Site} {deviceEui : String} {d : Delivery} {message : String}

def core (i : Intake) := (i.platform.store,i.platform.readings,i.spool)

-- What the endpoint reads and writes, except its records of the Kuando displays.
def essence (i : Intake) := (i.core,i.platform.deviceTypes,i.platform.sensorDevices)

-- What must not be lost.
def kept (i : Intake) := i.core.2

theorem ask_keeps {view : Intake → β} {site : Site} {read : Platform → α} : Keeps view (ask site read) :=
  keeps_command fun _ => rfl

theorem verifyKuando_keeps (payload : String) (call : Call) : Keeps essence (verifyKuando deviceEui payload call) := by
  unfold verifyKuando
  split
  · unfold recordKuando
    refine keeps_bind (keeps_command fun _ => rfl) fun _ => keeps_bind ask_keeps fun pending => ?_
    split
    · exact keeps_pure _
    · split
      · exact keeps_command fun _ => rfl
      · exact keeps_pure _
  · exact keeps_pure _

theorem verify_keeps {view : Intake → β} (tenantId : Option String) : Keeps view (verifyWebhookSignature tenantId d) := by
  unfold verifyWebhookSignature
  split
  · exact keeps_pure _
  · exact keeps_pure _
  · refine keeps_bind ask_keeps fun secret => ?_
    split
    · exact keeps_pure _
    · split
      · exact keeps_pure _
      · exact keeps_raise _

theorem discover_keeps (parsed : Parsed) : Keeps core (discover deviceEui parsed d) := by
  unfold discover getOrCreateDeviceType getOrCreateSensorDevice
  have kuando : Keeps essence (verifyKuando deviceEui parsed.payload d.call) :=
    verifyKuando_keeps _ _
  refine keeps_bind (keeps_attempt (keeps_map Prod.fst kuando)) fun _ => keeps_bind ?_ fun type => ?_
  · refine keeps_bind ask_keeps fun found => ?_
    split
    · exact keeps_pure _
    · exact keeps_bind (keeps_command fun _ => rfl) fun _ => keeps_pure _
  · refine keeps_bind ask_keeps fun known => keeps_command fun i => ?_
    obtain ⟨store,readings⟩ := Platform.getOrCreateSensorDevice_kept i.platform deviceEui type d
    exact congrArg₂ (fun store readings => (store,readings,i.spool)) store readings

theorem updateSpace_keeps (space : Space) (state : SpaceState) : Keeps kept (updateSpace message space state d) :=
  fun _ _ => rfl

-- The reading is stored last: an exception comes before it.
theorem finish_atomic (space : Option Space) (uplink : Option SensorUplink) (parsed : Parsed) :
    Atomic kept (finish message deviceEui space uplink parsed d) := by
  unfold finish
  split
  · unfold trackOrphan storeTelemetry
    refine atomic_bind (keeps_attempt (keeps_command fun i => ?_)) fun _ => ?_
    · exact congrArg (·,i.spool) (Platform.handleOrphanDevice_kept i.platform deviceEui parsed d.call.now).readings
    · split
      · exact atomic_keeps (keeps_bind (keeps_pure _) fun _ => keeps_pure _)
      · exact atomic_last fun _ => total_pure _
  · split
    · exact atomic_keeps (keeps_pure _)
    · unfold reportOccupancy
      exact atomic_bind (updateSpace_keeps _ _) fun _ => atomic_last fun _ => total_pure _

theorem receive_atomic : Atomic kept (receive message deviceEui d) := by
  unfold receive
  refine atomic_bind ask_keeps fun handlerClass => atomic_bind ask_keeps fun space =>
    atomic_bind (verify_keeps _) fun _ => atomic_bind (keeps_compute fun _ => rfl) fun handler => ?_
  split
  · exact atomic_keeps (keeps_raise _)
  · exact atomic_bind (keeps_map Prod.snd (discover_keeps _)) fun _ => finish_atomic _ _ _

-- An uplink of a sensor that is assigned to a space, with an occupancy in it.
structure Decodable (p : Platform) (d : Delivery) (deviceEui : String) (space : Space) (u : SensorUplink)
    (state : SpaceState) : Prop where
  named : d.webhook.devEui ≠ ""
  normal : normalizeDeveui d.webhook.devEui = some deviceEui
  assigned : p.store.spaces.getSpaceBySensor deviceEui = some space
  decoded : (p.findHandler deviceEui d.webhook.deviceProfileName).1.bind (·.parseUplink d.webhook) = some u
  occupancy : u.occupancyState = some state

def Stored (i : Intake) (deviceEui : String) (fcnt : Option Int) : Prop :=
  ∃ row ∈ i.platform.readings.rows, row.deviceEui = Platform.upper deviceEui ∧ row.fcnt = fcnt

def Retained (i : Intake) (deviceEui : String) (d : Delivery) : Prop :=
  Stored i deviceEui d.webhook.fCnt ∨ ∃ envelope ∈ i.spool, envelope.webhookData = d.webhook

-- The commands whose failure ends the handler before the reading is stored.
def fatal (p : Platform) (d : Delivery) (deviceEui : String) (space : Space) : Site → Bool
  | .selectDevice | .selectSpace | .selectType | .selectSensor | .insertReading => true
  | .selectSecret => secretSought space.tenantId d
  | .insertType => (p.deviceTypes.find? (·.profileName == d.webhook.deviceProfileName)).isNone
  | .updateSensor => p.sensorDevices.any (·.devEui == deviceEui)
  | .insertSensor => !p.sensorDevices.any (·.devEui == deviceEui)
  | .space site => Bench.raisesAt p.store space.id site
  | _ => false

-- When the handler gets as far as the reading.
structure Survives (p : Platform) (d : Delivery) (deviceEui : String) (space : Space) (state : SpaceState)
    (fault : Option Site) : Prop where
  accepted : p.verifyWebhookSignature space.tenantId d = true
  lock : p.store.lockOpen space.id d.call = true
  transition : fault = some (.space .getSpace) ∨ ¬(space.state = .maintenance ∧ state = .occupied)
  harmless : fault.any (fatal p d deviceEui space) = false

variable {space : Space} {u : SensorUplink} {state : SpaceState}

theorem Decodable.parsed (decodable : Decodable p d deviceEui space u state) :
    ∃ parsed, parseChirpstackWebhook d.webhook = some parsed ∧ parsed.fcnt = d.webhook.fCnt := by
  obtain ⟨handler,_,parsed⟩ := Option.bind_eq_some_iff.mp decodable.decoded
  obtain ⟨rx,first,_⟩ := Option.bind_eq_some_iff.mp parsed
  exact ⟨⟨d.webhook.fCnt,d.webhook.data,rx.rssi,rx.snr⟩,by rw [parseChirpstackWebhook,first]; rfl,rfl⟩

theorem Decodable.detected (decodable : Decodable p d deviceEui space u state) : state = .free ∨ state = .occupied := by
  obtain ⟨handler,_,parsed⟩ := Option.bind_eq_some_iff.mp decodable.decoded
  exact parseUplink_detected parsed decodable.occupancy

theorem processUplink_state (named : d.webhook.devEui ≠ "")
    (normal : normalizeDeveui d.webhook.devEui = some deviceEui) :
    (processUplink message d fault i).1 = (receive message deviceEui d fault i).1 := by
  unfold processUplink
  rw [if_neg named,normal]
  dsimp only
  rw [bind_ok attempt_run]
  cases (receive message deviceEui d fault i).2 <;> rfl

-- ON CONFLICT DO NOTHING finds a row of the same device and counter.
theorem insert_stored (t : Readings) (row : Reading) :
    ∃ found ∈ (t.insert row).rows, found.deviceEui = row.deviceEui ∧ found.fcnt = row.fcnt := by
  unfold Readings.insert
  split
  · exact ⟨row,List.mem_append_right _ List.mem_cons_self,rfl,rfl⟩
  · rename_i conflict
    rw [Bool.not_eq_false,Readings.conflicts,Option.any_eq_true] at conflict
    obtain ⟨key,keyed,held⟩ := conflict
    obtain ⟨found,member,same⟩ := List.mem_filterMap.mp (List.contains_iff_mem.mp held)
    refine ⟨found,member,?_⟩
    obtain ⟨tenant,_,rest⟩ := Option.bind_eq_some_iff.mp keyed
    obtain ⟨fcnt,counted,rest⟩ := Option.bind_eq_some_iff.mp rest
    obtain ⟨tenant',_,rest'⟩ := Option.bind_eq_some_iff.mp same
    obtain ⟨fcnt',counted',rest'⟩ := Option.bind_eq_some_iff.mp rest'
    have equal := Option.some.inj (rest'.trans rest.symm)
    simp only [Prod.mk.injEq] at equal
    exact ⟨equal.2.1,by rw [counted,counted',equal.2.2]⟩

theorem reportOccupancy_stored (ran : (reportOccupancy message deviceEui space u state fcnt d fault i).2 = .ok result) :
    Stored (reportOccupancy message deviceEui space u state fcnt d fault i).1 deviceEui fcnt := by
  unfold reportOccupancy at ran ⊢
  rw [bind_run] at ran ⊢
  split at ran
  · by_cases lost : fault = some .insertReading
    · rw [lost,bind_error act_fails] at ran
      cases ran
    · rw [bind_ok (act_run lost)]
      exact insert_stored _ _
  · cases ran

theorem deviceType_returns (profile typeId : String) :
    (∃ type, (getOrCreateDeviceType profile typeId fault i).2 = .ok type) ↔ fault ≠ some .selectType ∧
      (i.platform.deviceTypes.find? (·.profileName == profile) = none → fault ≠ some .insertType) := by
  constructor
  · intro given
    obtain ⟨type,ran⟩ := given
    constructor
    · rintro rfl
      rw [getOrCreateDeviceType,bind_error (show ask .selectType _ _ _ = _ from command_fails)] at ran
      cases ran
    · rintro missing rfl
      rw [getOrCreateDeviceType,bind_ok (ask_run (by simp)),missing] at ran
      dsimp only at ran
      rw [bind_error act_fails] at ran
      cases ran
  · intro given
    obtain ⟨select,insert⟩ := given
    exact ⟨_,congrArg Prod.snd (deviceType_run profile typeId select insert)⟩

theorem sensorDevice_returns (type : DeviceType) :
    (getOrCreateSensorDevice deviceEui type d fault i).2 = .ok () ↔ fault ≠ some .selectSensor ∧
      fault ≠ some (if i.platform.sensorDevices.any (·.devEui == deviceEui) then .updateSensor else .insertSensor) := by
  constructor
  · intro ran
    constructor
    · rintro rfl
      rw [getOrCreateSensorDevice,bind_error (show ask .selectSensor _ _ _ = _ from command_fails)] at ran
      cases ran
    · intro lost
      rw [getOrCreateSensorDevice,lost,bind_ok (ask_run (by split <;> simp)),act_fails] at ran
      cases ran
  · intro given
    obtain ⟨select,write⟩ := given
    exact congrArg Prod.snd (sensorDevice_run type select write)

theorem discover_returns (parsed : Parsed) :
    (∃ done, (discover deviceEui parsed d fault i).2 = .ok done) ↔
      (fault ≠ some .selectType ∧ (i.platform.deviceTypes.find? (·.profileName == d.webhook.deviceProfileName) = none →
        fault ≠ some .insertType)) ∧ fault ≠ some .selectSensor ∧
      fault ≠ some (if i.platform.sensorDevices.any (·.devEui == deviceEui) then .updateSensor else .insertSensor) := by
  unfold discover
  rw [bind_ok attempt_run]
  have same : (verifyKuando deviceEui parsed.payload d.call fault i).1.essence = i.essence := verifyKuando_keeps _ _ _ _
  generalize (verifyKuando deviceEui parsed.payload d.call fault i).1 = j at same ⊢
  have types : j.platform.deviceTypes = i.platform.deviceTypes := congrArg (·.2.1) same
  have devices : j.platform.sensorDevices = i.platform.sensorDevices := congrArg (·.2.2) same
  have untouched : ∀ profile typeId,
      (getOrCreateDeviceType profile typeId fault j).1.platform.sensorDevices = j.platform.sensorDevices := by
    intro profile typeId
    have keeps : Keeps (·.platform.sensorDevices) (getOrCreateDeviceType profile typeId) := by
      unfold getOrCreateDeviceType
      refine keeps_bind ask_keeps fun found => ?_
      split
      · exact keeps_pure _
      · exact keeps_bind (keeps_command fun _ => rfl) fun _ => keeps_pure _
    exact keeps fault j
  rw [bind_returns,← types,← deviceType_returns d.webhook.deviceProfileName d.typeId]
  constructor
  · intro given
    obtain ⟨type,made,_,ended⟩ := given
    have written := (sensorDevice_returns type).mp ended
    rw [untouched,devices] at written
    exact ⟨⟨type,made⟩,written⟩
  · intro given
    obtain ⟨⟨type,made⟩,written⟩ := given
    refine ⟨type,made,(),(sensorDevice_returns type).mpr ?_⟩
    rw [untouched,devices]
    exact written

theorem ask_returns {site : Site} {read : Platform → α} {f : α → Run β} :
    (∃ b, ((ask site read >>= f) fault i).2 = .ok b) ↔
      fault ≠ some site ∧ ∃ b, (f (read i.platform) fault i).2 = .ok b := by
  by_cases lost : fault = some site
  · rw [lost,bind_error (show ask site read _ _ = _ from command_fails)]
    simp
  · rw [bind_ok (ask_run lost)]
    simp [lost]

theorem verify_returns (tenantId : Option String) {f : Unit → Run β} :
    (∃ b, ((verifyWebhookSignature tenantId d >>= f) fault i).2 = .ok b) ↔
      ((secretSought tenantId d = true → fault ≠ some .selectSecret) ∧
        i.platform.verifyWebhookSignature tenantId d = true) ∧ ∃ b, (f () fault i).2 = .ok b := by
  by_cases healthy : secretSought tenantId d = true → fault ≠ some .selectSecret
  · rw [bind_run,verify_run tenantId healthy]
    cases i.platform.verifyWebhookSignature tenantId d with
    | true => exact ⟨fun returned => ⟨⟨healthy,rfl⟩,returned⟩,fun returned => returned.2⟩
    | false => simp
  · have sought : secretSought tenantId d = true ∧ fault = some .selectSecret := by
      simpa [Classical.not_imp] using healthy
    rw [sought.2,bind_error (verify_fails tenantId sought.1)]
    simp [sought.1]

theorem updateSpace_returns (space : Space) (state : SpaceState) :
    (∃ result, (updateSpace message space state d fault i).2 = .ok result) ↔
      i.platform.store.lockOpen space.id d.call = true ∧
      (fault.bind Site.inner).any (Bench.raisesAt i.platform.store space.id) = false ∧
      (fault.bind Site.inner = some .getSpace ∨ ∀ other, i.platform.store.spaces.getSpace space.id = some other →
        other.state = state ∨ isValidTransition other.state state "sensor_uplink" = true) := by
  refine Iff.trans ?_
    (Bench.updateSpaceState_returns message i.bench space.id state "sensor_uplink" d.call (fault.bind Site.inner))
  unfold updateSpace inside
  cases (Bench.updateSpaceState message space.id state "sensor_uplink" d.call (fault.bind Site.inner) i.bench).2 with
  | ok result => simp [Except.mapError]
  | error e => simp [Except.mapError]

theorem reportOccupancy_returns (space : Space) (u : SensorUplink) (state : SpaceState) (fcnt : Option Int) :
    (∃ result, (reportOccupancy message deviceEui space u state fcnt d fault i).2 = .ok result) ↔
      (∃ result, (updateSpace message space state d fault i).2 = .ok result) ∧ fault ≠ some .insertReading := by
  unfold reportOccupancy
  rw [bind_returns]
  by_cases lost : fault = some .insertReading
  · simp only [lost,bind_error act_fails]
    simp
  · simp only [bind_ok (act_run lost)]
    simp [lost]

theorem finish_occupied (occupancy : u.occupancyState = some state) (parsed : Parsed) :
    finish message deviceEui (some space) (some u) parsed d =
      reportOccupancy message deviceEui space u state parsed.fcnt d := by
  simp [finish,occupancy]

theorem tail_returns (occupancy : u.occupancyState = some state) (parsed : Parsed) :
    (∃ result, ((discover deviceEui parsed d >>= fun _ => finish message deviceEui (some space) (some u) parsed d)
      fault i).2 = .ok result) ↔
      (∃ done, (discover deviceEui parsed d fault i).2 = .ok done) ∧
      (∃ result, (updateSpace message space state d fault i).2 = .ok result) ∧ fault ≠ some .insertReading := by
  have store : (discover deviceEui parsed d fault i).1.platform.store = i.platform.store :=
    congrArg Prod.fst (discover_keeps parsed fault i)
  rw [bind_returns,finish_occupied occupancy]
  constructor
  · intro given
    obtain ⟨done,found,returned⟩ := given
    obtain ⟨updated,reading⟩ := (reportOccupancy_returns space u state parsed.fcnt).mp returned
    have moved := (updateSpace_returns space state).mp updated
    rw [store] at moved
    exact ⟨⟨done,found⟩,(updateSpace_returns space state).mpr moved,reading⟩
  · intro given
    obtain ⟨⟨done,found⟩,updated,reading⟩ := given
    have moved := (updateSpace_returns space state).mp updated
    rw [← store] at moved
    exact ⟨done,found,(reportOccupancy_returns space u state parsed.fcnt).mpr
      ⟨(updateSpace_returns space state).mpr moved,reading⟩⟩

-- The sensor's word is refused only for a space under maintenance.
theorem permitted {t : Table} (found : t.getSpace space.id = some space) (detected : state = .free ∨ state = .occupied) :
    (∀ other, t.getSpace space.id = some other →
      other.state = state ∨ isValidTransition other.state state "sensor_uplink" = true) ↔
    ¬(space.state = .maintenance ∧ state = .occupied) := by
  have refused := sensor_transition space.state state detected
  constructor
  · rintro allowed ⟨maintenance,occupied⟩
    rcases allowed space found with same | valid
    · rw [maintenance,occupied] at same
      cases same
    · rw [refused.mpr (.inr ⟨maintenance,occupied⟩)] at valid
      cases valid
  · intro free other looked
    cases found.symm.trans looked
    by_cases same : space.state = state
    · exact .inl same
    · right
      by_contra invalid
      exact (refused.mp (Bool.eq_false_iff.mpr invalid)).elim same free

theorem harmless_iff (p : Platform) :
    fault.any (fatal p d deviceEui space) = false ↔
      fault ≠ some .selectDevice ∧ fault ≠ some .selectSpace ∧
      (secretSought space.tenantId d = true → fault ≠ some .selectSecret) ∧
      ((fault ≠ some .selectType ∧ (p.deviceTypes.find? (·.profileName == d.webhook.deviceProfileName) = none →
        fault ≠ some .insertType)) ∧ fault ≠ some .selectSensor ∧
        fault ≠ some (if p.sensorDevices.any (·.devEui == deviceEui) then .updateSensor else .insertSensor)) ∧
      (fault.bind Site.inner).any (Bench.raisesAt p.store space.id) = false ∧ fault ≠ some .insertReading := by
  cases fault with
  | none => simp
  | some site =>
    cases known : p.sensorDevices.any (·.devEui == deviceEui) <;>
    cases found : p.deviceTypes.find? (·.profileName == d.webhook.deviceProfileName) <;> cases site <;>
      simp [fatal,Site.inner,known,found]

theorem tail_conditions (message deviceEui : String) (fault : Option Site) (occupancy : u.occupancyState = some state) (detected : state = .free ∨ state = .occupied)
    (found : i.platform.store.spaces.getSpace space.id = some space) (parsed : Parsed) :
    (∃ result, ((discover deviceEui parsed d >>= fun _ => finish message deviceEui (some space) (some u) parsed d)
      fault i).2 = .ok result) ↔
      ((fault ≠ some .selectType ∧ (i.platform.deviceTypes.find? (·.profileName == d.webhook.deviceProfileName) = none →
        fault ≠ some .insertType)) ∧ fault ≠ some .selectSensor ∧
        fault ≠ some (if i.platform.sensorDevices.any (·.devEui == deviceEui) then .updateSensor else .insertSensor)) ∧
      (i.platform.store.lockOpen space.id d.call = true ∧
        (fault.bind Site.inner).any (Bench.raisesAt i.platform.store space.id) = false ∧
        (fault.bind Site.inner = some .getSpace ∨ ¬(space.state = .maintenance ∧ state = .occupied))) ∧
      fault ≠ some .insertReading := by
  rw [tail_returns occupancy parsed,discover_returns,updateSpace_returns,permitted found detected]

theorem inner_getSpace : fault.bind Site.inner = some .getSpace ↔ fault = some (.space .getSpace) := by
  cases fault with
  | none => simp
  | some site => cases site <;> simp [Site.inner]

-- The handler returns exactly when nothing keeps it from the reading.
theorem receive_returns (decodable : Decodable i.platform d deviceEui space u state) :
    (∃ result, (receive message deviceEui d fault i).2 = .ok result) ↔
      Survives i.platform d deviceEui space state fault := by
  obtain ⟨parsed,parses,_⟩ := decodable.parsed
  have found := Table.getSpace_of_sensor decodable.assigned
  let next := i.onPlatform {i.platform with
    registry := (i.platform.findHandler deviceEui d.webhook.deviceProfileName).2}
  have tail := tail_conditions (i := next) (d := d) message deviceEui fault decodable.occupancy decodable.detected found parsed
  unfold receive
  rw [ask_returns,ask_returns,decodable.assigned,verify_returns,bind_ok (chooseHandler_run _),parses]
  dsimp only
  rw [decodable.decoded,tail,inner_getSpace]
  constructor
  · intro given
    obtain ⟨device,selected,⟨secret,accepted⟩,discovered,⟨lock,raised,transition⟩,reading⟩ := given
    exact ⟨accepted,lock,transition,(harmless_iff i.platform).mpr ⟨device,selected,secret,discovered,raised,reading⟩⟩
  · intro given
    obtain ⟨accepted,lock,transition,harmless⟩ := given
    obtain ⟨device,selected,secret,discovered,raised,reading⟩ := (harmless_iff i.platform).mp harmless
    exact ⟨device,selected,⟨secret,accepted⟩,discovered,⟨lock,raised,transition⟩,reading⟩

theorem receive_stored (decodable : Decodable i.platform d deviceEui space u state)
    (ran : (receive message deviceEui d fault i).2 = .ok result) :
    Stored (receive message deviceEui d fault i).1 deviceEui d.webhook.fCnt := by
  obtain ⟨parsed,parses,counted⟩ := decodable.parsed
  obtain ⟨device,rest⟩ := ask_returns.mp ⟨result,ran⟩
  obtain ⟨selected,rest⟩ := ask_returns.mp rest
  rw [decodable.assigned] at rest
  obtain ⟨⟨secret,accepted⟩,_⟩ := (verify_returns _).mp rest
  have verified : verifyWebhookSignature ((some space).bind (·.tenantId)) d fault i = (i,.ok ()) := by
    rw [verify_run _ secret,accepted]
    rfl
  unfold receive at ran ⊢
  rw [bind_ok (ask_run device),bind_ok (ask_run selected),decodable.assigned,bind_ok verified,
    bind_ok (chooseHandler_run _),parses] at ran ⊢
  dsimp only at ran ⊢
  rw [decodable.decoded,finish_occupied decodable.occupancy,bind_run] at ran ⊢
  split at ran
  · rw [← counted]
    exact reportOccupancy_stored ran
  · cases ran

theorem Retained.congr (same : j.kept = i.kept) : Retained j deviceEui d ↔ Retained i deviceEui d := by
  have readings : j.platform.readings = i.platform.readings := congrArg Prod.fst same
  have spool : j.spool = i.spool := congrArg Prod.snd same
  unfold Retained Stored
  rw [readings,spool]

-- After the handler has answered, the uplink is in the table or in the spool only
-- if it was so before or the handler got as far as the reading: it spools nothing.
theorem uplink_retained (decodable : Decodable i.platform d deviceEui space u state) (message : String)
    (fault : Option Site) :
    Retained (processUplink message d fault i).1 deviceEui d ↔
      Retained i deviceEui d ∨ Survives i.platform d deviceEui space state fault := by
  rw [processUplink_state decodable.named decodable.normal]
  by_cases survives : Survives i.platform d deviceEui space state fault
  · obtain ⟨result,ran⟩ := (receive_returns decodable).mpr survives
    exact iff_of_true (.inl (receive_stored decodable ran)) (.inr survives)
  · cases ran : (receive message deviceEui d fault i).2 with
    | ok result => exact absurd ((receive_returns decodable).mp ⟨result,ran⟩) survives
    | error e =>
      rw [Retained.congr (receive_atomic fault i e ran)]
      simp [survives]

end Losses

-- A sensor's first uplink; nothing has been received before.
def firstContact : Intake := ⟨Platform.equippedBay,[],[]⟩

def firstUplink : SensorUplink where
  deviceEui := "58a0cb0000112233"
  timestamp := 1
  occupancyState := some .occupied
  rawPayload := some "AQ=="

def baySpace : Space :=
  {id := "space-1",code := "A001",sensorEui := some "58A0CB0000112233",displayEui := some "70B3D50000445566",
   state := .free,tenantId := some "tenant-1"}

theorem firstContact_decodable : Decodable firstContact.platform (Platform.frame 1 "AQ==" 1) "58A0CB0000112233" baySpace
    firstUplink .occupied where
  named := by decide
  normal := by decide +kernel
  assigned := by decide +kernel
  decoded := by decide +kernel
  occupancy := rfl

-- The UPDATE of the space fails; the reading is stored nevertheless.
theorem uplink_retained_update_fails :
    Retained (processUplink "Connection lost" (Platform.frame 1 "AQ==" 1) (some (.space .updateSpace)) firstContact).1
      "58A0CB0000112233" (Platform.frame 1 "AQ==" 1) := by
  refine (uplink_retained firstContact_decodable "Connection lost" _).mpr (.inr ?_)
  exact ⟨by decide +kernel,by decide +kernel,.inr (by decide),by decide +kernel⟩

-- The first SELECT fails: the handler answers with status error and nothing is
-- kept of the uplink.
theorem uplink_lost : Decodable firstContact.platform (Platform.frame 1 "AQ==" 1) "58A0CB0000112233" baySpace
      firstUplink .occupied ∧
    ¬Retained (processUplink "Connection lost" (Platform.frame 1 "AQ==" 1) (some .selectDevice) firstContact).1
      "58A0CB0000112233" (Platform.frame 1 "AQ==" 1) := by
  refine ⟨firstContact_decodable,?_⟩
  have rows : (processUplink "Connection lost" (Platform.frame 1 "AQ==" 1) (some .selectDevice)
    firstContact).1.platform.readings.rows = [] := by decide +kernel
  have spool : (processUplink "Connection lost" (Platform.frame 1 "AQ==" 1) (some .selectDevice)
    firstContact).1.spool = [] := by decide +kernel
  rintro (⟨row,member,_⟩ | ⟨envelope,member,_⟩)
  · rw [rows] at member
    cases member
  · rw [spool] at member
    cases member

end Intake

end SmartParking.Uplink
