import SmartParking.Spaces.ListCache

namespace SmartParking.Spaces.Devices
open Auth.ApiKeys (TenantContext HttpError)
open Catalog (SpaceRow Instant)
open ListCache (isPlatformAdmin)

-- A row of one of the two device tables; `Columns` are those that only one has.
-- JSON stands as the text that the pool returns for it.
structure DeviceRow (Columns : Type) where
  id : String
  devEui : String
  deviceType : String
  deviceModel : Option String := none
  manufacturer : Option String := none
  enabled : Option Bool := some true
  status : Option String := some "orphan"
  lastSeenAt : Option Instant := none
  createdAt : Option Instant := none
  updatedAt : Option Instant := none
  columns : Columns
  deriving DecidableEq

structure SensorColumns where
  payloadDecoder : Option String := none
  capabilities : Option String := none
  deriving DecidableEq

structure DisplayColumns where
  displayCodes : String
  fport : Option Int := some 1
  confirmedDownlinks : Option Bool := some false
  deriving DecidableEq

structure Registry where
  sensorDevices : List (DeviceRow SensorColumns)
  displayDevices : List (DeviceRow DisplayColumns)
  spaces : List SpaceRow

-- A row of ChirpStack's `device`; the EUI is the hex text of its bytes in upper case.
structure CsDevice where
  devEui : String
  name : String
  description : Option String
  deviceProfileId : Option String

structure ChirpStack where
  device : List CsDevice
  deviceProfile : List (String × String)

-- The category and the columns that go with it.
inductive Details where
  | sensor (columns : SensorColumns)
  | display (columns : DisplayColumns)
  deriving DecidableEq

def Details.category : Details → String
  | .sensor _ => "sensor"
  | .display _ => "display"

structure Device where
  id : String
  deveui : String
  deviceType : String
  deviceModel : Option String
  manufacturer : Option String
  details : Details
  enabled : Option Bool
  status : Option String
  name : String
  description : String
  lastSeenAt : Option Instant
  createdAt : Option Instant
  updatedAt : Option Instant
  deriving DecidableEq

structure Filters where
  deviceType : Option String := none
  status : Option String := none
  enabled : Option Bool := none
  includeArchived : Bool := false
  includeOrphans : Bool := true

inductive Raised where
  | unboundLocal (name : String)
  | syntaxError (near : String)

def Raised.text : Raised → String
  | .unboundLocal name => "cannot access local variable '" ++ name ++ "' where it is not associated with a value"
  | .syntaxError near => "syntax error at or near \"" ++ near ++ "\""

-- The locals that both halves of `list_devices` share; `none` in `accessType` is a
-- name not yet bound.
structure Locals where
  deviceType : Option String
  devices : List Device := []
  accessType : Option String := none

def Locals.readAccessType (l : Locals) : Except Raised String :=
  match l.accessType with
  | some accessType => .ok accessType
  | none => .error (.unboundLocal "access_type")

-- `ORDER BY created_at DESC`, which has NULL first.
def newestFirst (a b : DeviceRow C) : Prop := ∀ created ∈ a.createdAt, ∃ other ∈ b.createdAt, other ≤ created

instance : DecidableRel (newestFirst (C := C)) := fun a b =>
  inferInstanceAs (Decidable (∀ created ∈ a.createdAt, ∃ other ∈ b.createdAt, other ≤ created))

section Halves

variable (db : Registry) (cs : ChirpStack) (tenant : TenantContext) (f : Filters)

-- The conditions joined in the WHERE clause.
def conditions (eui : SpaceRow → Option String) (deviceType : Option String) : List (DeviceRow C → Bool) :=
  let assigned := fun row : DeviceRow C => db.spaces.any fun space =>
    eui space == some row.devEui && space.tenantId == some tenant.tenantId && space.deletedAt.isNone
  (if isPlatformAdmin tenant then []
    else if f.includeOrphans then [fun row => row.status == some "orphan" || assigned row] else [assigned]) ++
  (deviceType.toList.map fun deviceType row => row.deviceType == deviceType) ++
  (f.status.toList.map fun status row => row.status == some status) ++
  match f.enabled with
  | some enabled => [fun row => row.enabled == some enabled]
  | none => if f.includeArchived then [] else [fun row => row.enabled == some true]

-- Without any condition the text reads `WHERE` and then `ORDER BY`.
def fetch (conditions : List (DeviceRow C → Bool)) (rows : List (DeviceRow C)) : Except Raised (List (DeviceRow C)) :=
  if conditions.isEmpty then .error (.syntaxError "ORDER")
  else .ok ((rows.filter fun row => conditions.all (· row)).insertionSort newestFirst)

def describe (details : C → Details) (row : DeviceRow C) : Device :=
  let csDevice := cs.device.find? (·.devEui == row.devEui.toUpper)
  let profileName := (csDevice.bind (·.deviceProfileId)).bind fun id => (cs.deviceProfile.find? (·.1 == id)).map (·.2)
  {id := row.id,deveui := row.devEui,deviceType := (profileName.filter (· ≠ "")).getD row.deviceType,
   deviceModel := row.deviceModel,manufacturer := row.manufacturer,details := details row.columns,
   enabled := row.enabled,status := row.status,name := (csDevice.map (·.name)).getD row.devEui,
   description := (csDevice.bind (·.description)).getD "",lastSeenAt := row.lastSeenAt,
   createdAt := row.createdAt,updatedAt := row.updatedAt}

-- One turn of either loop: the parameter `device_type` is assigned again.
def collect (details : C → Details) (l : Locals) (row : DeviceRow C) : Locals :=
  let device := describe cs details row
  {l with deviceType := some device.deviceType,devices := l.devices ++ [device]}

def sensorHalf (l : Locals) : Except Raised Locals := do
  let sensorResults ← fetch (conditions db tenant f (·.sensorEui) l.deviceType) db.sensorDevices
  let accessType := if isPlatformAdmin tenant then "PLATFORM_ADMIN" else "TENANT"
  .ok (sensorResults.foldl (collect cs .sensor) {l with accessType := some accessType})

def displayHalf (l : Locals) : Except Raised Locals := do
  let displayResults ← fetch (conditions db tenant f (·.displayEui) l.deviceType) db.displayDevices
  let _ ← l.readAccessType
  .ok (displayResults.foldl (collect cs .display) l)

def categoriesToFetch (deviceCategory : Option String) : List String :=
  if deviceCategory = some "sensor" then ["sensor"]
  else if deviceCategory = some "display" then ["display"]
  else ["sensor","display"]

def body (deviceCategory : Option String) : Except Raised (List Device) := do
  let categories := categoriesToFetch deviceCategory
  let l : Locals := {deviceType := f.deviceType}
  let l ← if "sensor" ∈ categories then sensorHalf db cs tenant f l else .ok l
  let l ← if "display" ∈ categories then displayHalf db cs tenant f l else .ok l
  let _ ← l.readAccessType
  .ok l.devices

def listDevices (deviceCategory : Option String) : Except HttpError (List Device) :=
  (body db cs tenant f deviceCategory).mapError fun raised => ⟨500,raised.text⟩

end Halves

variable (db : Registry) (cs : ChirpStack) (tenant : TenantContext) (f : Filters)

theorem fetch_error (selected : List (DeviceRow C → Bool)) (rows : List (DeviceRow C)) :
    (∃ raised, fetch selected rows = .error raised) ↔ selected = [] := by
  unfold fetch
  constructor
  · rintro ⟨raised,failed⟩
    split at failed
    · rename_i empty
      exact List.isEmpty_iff.mp empty
    · cases failed
  · rintro rfl
    exact ⟨_,rfl⟩

-- Only the platform's administrator can leave every condition out.
theorem conditions_empty (C : Type) (eui : SpaceRow → Option String) (deviceType : Option String) :
    conditions db tenant f eui deviceType = ([] : List (DeviceRow C → Bool)) ↔
      isPlatformAdmin tenant = true ∧ deviceType = none ∧ f.status = none ∧ f.enabled = none ∧ f.includeArchived = true := by
  have scope : ∀ tenancy : List (DeviceRow C → Bool), tenancy ≠ [] →
      ((if isPlatformAdmin tenant then [] else tenancy) = [] ↔ isPlatformAdmin tenant = true) := by
    intro tenancy nonempty
    cases isPlatformAdmin tenant with
    | true => exact iff_of_true rfl rfl
    | false => exact iff_of_false nonempty (by decide)
  unfold conditions
  rw [List.append_eq_nil_iff,List.append_eq_nil_iff,List.append_eq_nil_iff,scope _ (by split <;> exact List.cons_ne_nil _ _),
    List.map_eq_nil_iff,List.map_eq_nil_iff,Option.toList_eq_nil_iff,Option.toList_eq_nil_iff,and_assoc,and_assoc]
  cases f.enabled with
  | some enabled => simp only [List.cons_ne_nil,reduceCtorEq,false_and]
  | none => cases f.includeArchived <;> simp

-- The type that the rest of the body takes for the parameter.
def lastType (deviceType : Option String) : List Device → Option String
  | [] => deviceType
  | device::rest => lastType (some device.deviceType) rest

theorem foldl_collect (details : C → Details) (rows : List (DeviceRow C)) (l : Locals) :
    rows.foldl (collect cs details) l =
      {l with devices := l.devices ++ rows.map (describe cs details),deviceType := lastType l.deviceType (rows.map (describe cs details))} := by
  induction rows generalizing l with
  | nil => simp [lastType]
  | cons row rest ih => rw [List.foldl_cons,ih,collect,List.map_cons,lastType,List.append_assoc,List.singleton_append]

theorem displayHalf_unbound {l : Locals} (unbound : l.accessType = none) :
    ∃ raised, displayHalf db cs tenant f l = .error raised := by
  unfold displayHalf Locals.readAccessType
  rw [unbound]
  cases fetch (conditions db tenant f (·.displayEui) l.deviceType) db.displayDevices with
  | error raised => exact ⟨raised,rfl⟩
  | ok rows => exact ⟨.unboundLocal "access_type",rfl⟩

theorem body_sensor : body db cs tenant f (some "sensor") =
    sensorHalf db cs tenant f {deviceType := f.deviceType} >>= fun l => l.readAccessType >>= fun _ => .ok l.devices := by
  rfl

theorem body_display : body db cs tenant f (some "display") =
    displayHalf db cs tenant f {deviceType := f.deviceType} >>= fun l => l.readAccessType >>= fun _ => .ok l.devices := by
  rfl

theorem body_whole : body db cs tenant f none =
    sensorHalf db cs tenant f {deviceType := f.deviceType} >>= fun l => displayHalf db cs tenant f l >>= fun l =>
      l.readAccessType >>= fun _ => .ok l.devices := by
  rfl

theorem display_listing_fails : ∃ failure, listDevices db cs tenant f (some "display") = .error failure := by
  obtain ⟨raised,failed⟩ := displayHalf_unbound db cs tenant f (l := {deviceType := f.deviceType}) rfl
  refine ⟨⟨500,raised.text⟩,?_⟩
  rw [listDevices,body_display db cs tenant f,failed]
  rfl

theorem sensorHalf_run (l : Locals) : ∃ accessType, sensorHalf db cs tenant f l =
    (fetch (conditions db tenant f (·.sensorEui) l.deviceType) db.sensorDevices).map fun rows =>
      {deviceType := lastType l.deviceType (rows.map (describe cs .sensor)),
       devices := l.devices ++ rows.map (describe cs .sensor),accessType := some accessType} := by
  refine ⟨if isPlatformAdmin tenant then "PLATFORM_ADMIN" else "TENANT",?_⟩
  unfold sensorHalf
  cases fetch (conditions db tenant f (·.sensorEui) l.deviceType) db.sensorDevices with
  | error raised => rfl
  | ok rows => exact congrArg Except.ok (foldl_collect cs .sensor rows _)

theorem displayHalf_run {l : Locals} (bound : l.accessType = some accessType) : displayHalf db cs tenant f l =
    (fetch (conditions db tenant f (·.displayEui) l.deviceType) db.displayDevices).map fun rows =>
      {deviceType := lastType l.deviceType (rows.map (describe cs .display)),
       devices := l.devices ++ rows.map (describe cs .display),accessType := some accessType} := by
  unfold displayHalf Locals.readAccessType
  rw [bound]
  cases fetch (conditions db tenant f (·.displayEui) l.deviceType) db.displayDevices with
  | error raised => rfl
  | ok rows =>
    refine congrArg Except.ok ((foldl_collect cs .display rows l).trans ?_)
    rw [bound]

theorem sensor_listing : listDevices db cs tenant f (some "sensor") =
    ((fetch (conditions db tenant f (·.sensorEui) f.deviceType) db.sensorDevices).map fun rows =>
      rows.map (describe cs .sensor)).mapError fun raised => ⟨500,raised.text⟩ := by
  obtain ⟨accessType,run⟩ := sensorHalf_run db cs tenant f {deviceType := f.deviceType}
  rw [listDevices,body_sensor db cs tenant f,run]
  cases fetch (conditions db tenant f (·.sensorEui) f.deviceType) db.sensorDevices with
  | error raised => rfl
  | ok rows => rfl

theorem sensor_listing_fails : (∃ failure, listDevices db cs tenant f (some "sensor") = .error failure) ↔
    isPlatformAdmin tenant = true ∧ f.deviceType = none ∧ f.status = none ∧ f.enabled = none ∧ f.includeArchived = true := by
  rw [← conditions_empty db tenant f SensorColumns (·.sensorEui),← fetch_error _ db.sensorDevices,sensor_listing]
  cases fetch (conditions db tenant f (·.sensorEui) f.deviceType) db.sensorDevices with
  | error raised => exact iff_of_true ⟨_,rfl⟩ ⟨_,rfl⟩
  | ok rows =>
    refine iff_of_false ?_ ?_
    · rintro ⟨failure,same⟩
      cases same
    · rintro ⟨raised,same⟩
      cases same

-- Without a category the displays are filtered by the type of the last sensor listed.
theorem whole_listing (listed : listDevices db cs tenant f (some "sensor") = .ok sensors) :
    listDevices db cs tenant f none =
      ((fetch (conditions db tenant f (·.displayEui) (lastType f.deviceType sensors)) db.displayDevices).map fun rows =>
        sensors ++ rows.map (describe cs .display)).mapError fun raised => ⟨500,raised.text⟩ := by
  obtain ⟨accessType,run⟩ := sensorHalf_run db cs tenant f {deviceType := f.deviceType}
  rw [sensor_listing] at listed
  rw [listDevices,body_whole db cs tenant f,run]
  cases selected : fetch (conditions db tenant f (·.sensorEui) f.deviceType) db.sensorDevices with
  | error raised =>
    rw [selected] at listed
    cases listed
  | ok rows =>
    rw [selected] at listed
    cases listed
    refine Eq.trans (congrArg (fun half : Except Raised Locals => (half >>= fun l =>
      l.readAccessType >>= fun _ => Except.ok l.devices).mapError _) (displayHalf_run db cs tenant f rfl)) ?_
    dsimp only
    cases fetch (conditions db tenant f (·.displayEui) (lastType f.deviceType (rows.map (describe cs .sensor))))
      db.displayDevices with
    | error raised => rfl
    | ok displays => rfl

theorem whole_listing_fails {failure : HttpError}
    (failed : listDevices db cs tenant f (some "sensor") = .error failure) :
    listDevices db cs tenant f none = .error failure := by
  obtain ⟨accessType,run⟩ := sensorHalf_run db cs tenant f {deviceType := f.deviceType}
  rw [sensor_listing] at failed
  rw [listDevices,body_whole db cs tenant f,run]
  cases selected : fetch (conditions db tenant f (·.sensorEui) f.deviceType) db.sensorDevices with
  | error raised =>
    rw [selected] at failed
    exact failed
  | ok rows =>
    rw [selected] at failed
    cases failed

theorem filter_category (details : C → Details) (category : String) (rows : List (DeviceRow C)) (wanted : Bool)
    (same : ∀ columns, ((details columns).category == category) = wanted) :
    (rows.map (describe cs details)).filter (·.details.category == category) =
      if wanted then rows.map (describe cs details) else [] := by
  have all : ∀ device ∈ rows.map (describe cs details), (device.details.category == category) = wanted := by
    intro device member
    obtain ⟨row,_,rfl⟩ := List.mem_map.mp member
    exact same row.columns
  cases wanted with
  | true => exact List.filter_eq_self.mpr all
  | false => exact List.filter_eq_nil_iff.mpr fun device member => by rw [all device member]; exact Bool.false_ne_true

-- The sensors of the list without a category are the list of the sensors.
theorem whole_listing_sensors (listed : listDevices db cs tenant f none = .ok whole) :
    listDevices db cs tenant f (some "sensor") = .ok (whole.filter (·.details.category == "sensor")) := by
  cases answer : listDevices db cs tenant f (some "sensor") with
  | error failure => cases listed.symm.trans (whole_listing_fails db cs tenant f answer)
  | ok sensors =>
    have joined := (whole_listing db cs tenant f answer).symm.trans listed
    rw [sensor_listing] at answer
    cases selected : fetch (conditions db tenant f (·.sensorEui) f.deviceType) db.sensorDevices with
    | error raised =>
      rw [selected] at answer
      cases answer
    | ok rows =>
      rw [selected] at answer
      cases answer
      generalize fetch (conditions db tenant f (·.displayEui) _) db.displayDevices = displays at joined
      cases displays with
      | error raised => cases joined
      | ok displays =>
        cases joined
        rw [List.filter_append,filter_category cs .sensor "sensor" rows true fun _ => rfl,
          filter_category cs .display "sensor" displays false fun _ => rfl]
        exact congrArg Except.ok (List.append_nil _).symm

-- The display half reads a name that only the sensor half binds.
theorem listing_never_composes : ¬∃ whole sensors displays, listDevices db cs tenant f none = .ok whole ∧
      listDevices db cs tenant f (some "sensor") = .ok sensors ∧
      listDevices db cs tenant f (some "display") = .ok displays ∧ whole = sensors ++ displays := by
  rintro ⟨whole,sensors,displays,_,_,listed,_⟩
  obtain ⟨failure,failed⟩ := display_listing_fails db cs tenant f
  cases listed.symm.trans failed

def busylight : DeviceRow DisplayColumns where
  id := "d"
  devEui := "202020410A000001"
  deviceType := "kuando_busylight"
  columns := {displayCodes := "{}"}

def viewer : TenantContext where
  tenantId := "t"
  tenantName := "Tenant"
  tenantSlug := "tenant"
  userRole := some .viewer
  source := .jwt

theorem display_listing_unbound :
    listDevices ⟨[],[busylight],[]⟩ ⟨[],[]⟩ viewer {} (some "sensor") = .ok [] ∧
    listDevices ⟨[],[busylight],[]⟩ ⟨[],[]⟩ viewer {} none = .ok [describe ⟨[],[]⟩ .display busylight] ∧
    listDevices ⟨[],[busylight],[]⟩ ⟨[],[]⟩ viewer {} (some "display") =
      .error ⟨500,"cannot access local variable 'access_type' where it is not associated with a value"⟩ := by
  refine ⟨rfl,rfl,rfl⟩

end SmartParking.Spaces.Devices
