import SmartParking.Lib.Runs
import SmartParking.Auth.ApiKeys
import SmartParking.Spaces.Audit

namespace SmartParking.Spaces.Catalog
open Lib
open Auth.ApiKeys (TenantContext)
open Audit (SpaceUpdate)

-- Microseconds.
abbrev Instant := Int

-- A JSON object as the text it is stored as; `none` is the empty one, which the
-- handlers store as NULL.
abbrev Document := Option String

structure SiteRow where
  id : String
  tenantId : String
  name : String
  timezone : String
  location : Document
  metadata : Document
  isActive : Bool
  deriving DecidableEq

-- The columns that the handlers below read or write. Coordinates are counted in
-- the last decimal of their column.
structure SpaceRow where
  id : String
  name : String
  code : String
  building : Option String
  floor : Option String
  zone : Option String
  gpsLatitude : Option Int
  gpsLongitude : Option Int
  sensorEui : Option String
  displayEui : Option String
  state : SpaceState
  metadata : Document
  siteId : Option String
  tenantId : Option String
  createdAt : Instant
  updatedAt : Instant
  deletedAt : Option Instant := none
  deriving DecidableEq

structure Tables where
  sites : List SiteRow
  spaces : List SpaceRow
  sensorDevices : List String
  displayDevices : List String
  deriving DecidableEq

def hexEui (eui : String) : Bool := eui.length == 16 && eui.toList.all ("0123456789ABCDEF".toList.contains ·)

namespace SpaceRow

-- `valid_gps`
def validGps (space : SpaceRow) : Bool :=
  match space.gpsLatitude,space.gpsLongitude with
  | none,none => true
  | some latitude,some longitude =>
    -9000000000 ≤ latitude && latitude ≤ 9000000000 && -18000000000 ≤ longitude && longitude ≤ 18000000000
  -- A comparison with NULL is NULL, which a CHECK lets pass unless the other
  -- half is false.
  | some latitude,none => -9000000000 ≤ latitude && latitude ≤ 9000000000
  | none,some longitude => -18000000000 ≤ longitude && longitude ≤ 18000000000

-- `chk_spaces_eui_hex`
def validEui (space : SpaceRow) : Bool := space.sensorEui.all hexEui && space.displayEui.all hexEui

-- The key of `unique_tenant_site_space_code`; a NULL in it equals nothing.
def codeKey (space : SpaceRow) : Option (String × String × String) :=
  space.tenantId.bind fun tenantId => space.siteId.map fun siteId => (tenantId,siteId,space.code)

end SpaceRow

namespace Tables

def live (t : Tables) : List SpaceRow := t.spaces.filter (·.deletedAt.isNone)

-- The keys, checks and the foreign key of the two tables.
def Lawful (t : Tables) : Prop :=
  (t.sites.map (·.id)).Nodup ∧ (t.sites.map fun site => (site.tenantId,site.name)).Nodup ∧
  (t.spaces.map (·.id)).Nodup ∧ (t.spaces.filterMap (·.sensorEui)).Nodup ∧
  (t.live.filterMap (·.displayEui)).Nodup ∧ (t.live.filterMap SpaceRow.codeKey).Nodup ∧
  (∀ space ∈ t.spaces, space.validGps ∧ space.validEui) ∧
  ∀ space ∈ t.spaces, ∀ siteId ∈ space.siteId, ∃ site ∈ t.sites, site.id = siteId

instance (t : Tables) : Decidable t.Lawful := inferInstanceAs (Decidable (_ ∧ _))

end Tables

structure Database where
  tables : Tables
  lawful : tables.Lawful

inductive Failure where
  | http (status : Nat) (detail : String)
  | raised (message : String)
  | constraint
  | encoding
  deriving DecidableEq

-- A statement that breaks a constraint leaves nothing behind.
def commit (t : Tables) : Except Failure Database :=
  if lawful : t.Lawful then .ok ⟨t,lawful⟩ else .error .constraint

-- The trigger `trg_spaces_sync_tenant_id`.
def spacesSyncTenantId (sites : List SiteRow) (new : SpaceRow) : Except Failure SpaceRow :=
  match new.siteId with
  | none => .error (.raised "site_id cannot be NULL")
  | some siteId =>
    match sites.find? fun site => site.id == siteId && site.isActive with
    | none => .error (.raised ("Site " ++ siteId ++ " not found or inactive"))
    | some site =>
      if new.tenantId.any (· != site.tenantId) then
        .error (.raised ("Tenant mismatch: space.tenant_id=" ++ new.tenantId.getD "" ++ ", site.tenant_id=" ++
          site.tenantId))
      else .ok {new with tenantId := some site.tenantId}

-- The triggers that put EUIs in upper case.
def euiUpper (new : SpaceRow) : SpaceRow :=
  {new with sensorEui := new.sensorEui.map (·.toUpper),displayEui := new.displayEui.map (·.toUpper)}

-- What an UPDATE of `spaces` can assign.
inductive Assignment where
  | name (value : String)
  | code (value : String)
  | building (value : Option String)
  | floor (value : Option String)
  | zone (value : Option String)
  | sensorEui (value : Option String)
  | displayEui (value : Option String)
  | state (value : SpaceState)
  | metadata (value : Document)
  | siteId (value : Option String)
  | tenantId (value : Option String)
  | deletedAt (value : Option Instant)
  deriving DecidableEq

namespace Assignment

def apply (space : SpaceRow) : Assignment → SpaceRow
  | .name value => {space with name := value}
  | .code value => {space with code := value}
  | .building value => {space with building := value}
  | .floor value => {space with floor := value}
  | .zone value => {space with zone := value}
  | .sensorEui value => {space with sensorEui := value}
  | .displayEui value => {space with displayEui := value}
  | .state value => {space with state := value}
  | .metadata value => {space with metadata := value}
  | .siteId value => {space with siteId := value}
  | .tenantId value => {space with tenantId := value}
  | .deletedAt value => {space with deletedAt := value}

-- The columns `trg_spaces_sync_tenant_id` watches.
def synced : Assignment → Bool
  | .siteId _ | .tenantId _ => true
  | _ => false

end Assignment

-- One row of an UPDATE, with the triggers; that of `updated_at` is
-- unconditional.
def changeRow (sites : List SiteRow) (assignments : List Assignment) (now : Instant) (space : SpaceRow) :
    Except Failure SpaceRow :=
  let new := euiUpper {assignments.foldl Assignment.apply space with updatedAt := now}
  if assignments.any (·.synced) then spacesSyncTenantId sites new else .ok new

def changeRows (select : SpaceRow → Bool) (change : SpaceRow → Except Failure SpaceRow) :
    List SpaceRow → Except Failure (List SpaceRow)
  | [] => .ok []
  | space::rest =>
    (if select space then change space else .ok space).bind fun changed =>
      (changeRows select change rest).map (changed::·)

namespace Database

-- `INSERT INTO spaces`
def insertSpace (db : Database) (new : SpaceRow) : Except Failure Database :=
  (spacesSyncTenantId db.tables.sites (euiUpper new)).bind fun row =>
    commit {db.tables with spaces := db.tables.spaces ++ [row]}

-- `UPDATE spaces SET … WHERE …`
def updateSpaces (db : Database) (select : SpaceRow → Bool) (assignments : List Assignment) (now : Instant) :
    Except Failure Database :=
  (changeRows select (changeRow db.tables.sites assignments now) db.tables.spaces).bind fun spaces =>
    commit {db.tables with spaces}

def space (db : Database) (select : SpaceRow → Bool) : Option SpaceRow := db.tables.spaces.find? select

end Database

structure SiteCreate where
  name : String
  timezone : String := "UTC"
  location : Option Document := none
  metadata : Option Document := some none
  isActive : Bool := true

structure SiteUpdate where
  name : Option String := none
  timezone : Option String := none
  location : Option Document := none
  metadata : Option Document := none
  isActive : Option Bool := none

-- The validators of the model give the EUIs in upper case. `metadata` is the
-- dictionary of the request.
structure SpaceCreate where
  name : String
  code : String
  building : Option String := none
  floor : Option String := none
  zone : Option String := none
  gpsLatitude : Option Int := none
  gpsLongitude : Option Int := none
  sensorEui : Option String := none
  displayEui : Option String := none
  state : SpaceState := .free
  siteId : String
  metadata : Option Document := none

-- The row of an INSERT whose database draws `id` and the time.
def SpaceCreate.row (space : SpaceCreate) (siteId : Option String) (id : String) (now : Instant) : SpaceRow where
  id := id
  name := space.name
  code := space.code
  building := space.building
  floor := space.floor
  zone := space.zone
  gpsLatitude := space.gpsLatitude
  gpsLongitude := space.gpsLongitude
  sensorEui := space.sensorEui
  displayEui := space.displayEui
  state := space.state
  metadata := none
  siteId := siteId
  tenantId := none
  createdAt := now
  updatedAt := now

-- The driver takes a JSON column as text only; a dictionary that is not null
-- does not get to the server.
def encoded (metadata : Option Document) (statement : Except Failure Database) : Except Failure Database :=
  if metadata.isSome then .error .encoding else statement

-- The columns of the dynamic UPDATE, in the order of the model's fields.
def columns (u : SpaceUpdate) : List Assignment :=
  (u.name.join.map Assignment.name).toList ++ (u.code.join.map Assignment.code).toList ++
  (u.building.join.map (Assignment.building ∘ some)).toList ++ (u.floor.join.map (Assignment.floor ∘ some)).toList ++
  (u.zone.join.map (Assignment.zone ∘ some)).toList ++
  (u.sensorEui.join.map (Assignment.sensorEui ∘ some)).toList ++
  (u.displayEui.join.map (Assignment.displayEui ∘ some)).toList ++ (u.state.join.map Assignment.state).toList ++
  (u.metadata.join.map (Assignment.metadata ∘ some)).toList

def siteColumns (u : SiteUpdate) (site : SiteRow) : SiteRow :=
  {site with
    name := u.name.getD site.name
    timezone := u.timezone.getD site.timezone
    location := u.location.getD site.location
    metadata := u.metadata.getD site.metadata
    isActive := u.isActive.getD site.isActive}

def SiteUpdate.given (u : SiteUpdate) : Bool :=
  u.name.isSome || u.timezone.isSome || u.location.isSome || u.metadata.isSome || u.isActive.isSome

namespace Sites

variable (db : Database) (tenant : TenantContext)

def owned (siteId : String) : Option SiteRow :=
  db.tables.sites.find? fun site => site.id == siteId && site.tenantId == tenant.tenantId

def spacesCount (siteId : String) : Nat :=
  (db.tables.spaces.filter fun space => space.siteId == some siteId && space.deletedAt.isNone).length

def updateWhere (select : SiteRow → Bool) (change : SiteRow → SiteRow) : Except Failure Database :=
  commit {db.tables with sites := db.tables.sites.map fun site => if select site then change site else site}

def createSite (site : SiteCreate) (id : String) : Except Failure Database :=
  if db.tables.sites.any fun other => other.tenantId == tenant.tenantId && other.name == site.name then
    .error (.http 409 ("Site with name '" ++ site.name ++ "' already exists for this tenant"))
  else
    commit {db.tables with sites := db.tables.sites ++
      [⟨id,tenant.tenantId,site.name,site.timezone,site.location.join,site.metadata.join,site.isActive⟩]}

def updateSite (siteId : String) (updates : SiteUpdate) : Except Failure Database :=
  match owned db tenant siteId with
  | none => .error (.http 404 ("Site " ++ siteId ++ " not found"))
  | some _ =>
    match updates.name.filter fun name => db.tables.sites.any fun other =>
        other.tenantId == tenant.tenantId && other.name == name && other.id != siteId with
    | some name => .error (.http 409 ("Site with name '" ++ name ++ "' already exists"))
    | none =>
      if updates.given then
        updateWhere db (fun site => site.id == siteId && site.tenantId == tenant.tenantId) (siteColumns updates)
      else .error (.http 400 "No fields to update")

-- A soft delete; a forced one leaves the spaces of the site as they are.
def deleteSite (siteId : String) (force : Bool) : Except Failure Database :=
  match owned db tenant siteId with
  | none => .error (.http 404 ("Site " ++ siteId ++ " not found"))
  | some _ =>
    if !force && 0 < spacesCount db siteId then
      .error (.http 409 ("Cannot delete site with " ++ toString (spacesCount db siteId) ++
        " parking spaces. Use force=true to override."))
    else updateWhere db (·.id == siteId) fun site => {site with isActive := false}

end Sites

namespace SpacesTenanted

variable (db : Database) (tenant : TenantContext)

def mine (spaceId : String) (space : SpaceRow) : Bool :=
  space.id == spaceId && space.tenantId == some tenant.tenantId

def mineLive (spaceId : String) (space : SpaceRow) : Bool := mine tenant spaceId space && space.deletedAt.isNone

def createSpace (space : SpaceCreate) (id : String) (now : Instant) : Except Failure Database :=
  if db.tables.sites.any fun site => site.id == space.siteId && site.tenantId == tenant.tenantId && site.isActive then
    if db.tables.spaces.any fun other => other.tenantId == some tenant.tenantId && other.siteId == some space.siteId &&
        other.code == space.code && other.deletedAt.isNone then
      .error (.http 400 ("Space with code '" ++ space.code ++ "' already exists in this site"))
    else encoded space.metadata (db.insertSpace (space.row (some space.siteId) id now))
  else .error (.http 400 "Site not found or does not belong to your tenant")

def updateSpace (spaceId : String) (u : SpaceUpdate) (now : Instant) : Except Failure Database :=
  match db.space (mineLive tenant spaceId) with
  | none => .error (.http 404 "Space not found")
  | some _ =>
    if columns u = [] then .error (.http 400 "No fields to update")
    else encoded (u.metadata.join.map some) (db.updateSpaces (mine tenant spaceId) (columns u) now)

def deleteSpace (spaceId : String) (now : Instant) : Except Failure Database :=
  match db.space (mineLive tenant spaceId) with
  | none => .error (.http 404 "Space not found")
  | some _ => db.updateSpaces (mineLive tenant spaceId) [.deletedAt (some now)] now

-- The UPDATE that the four device endpoints end in.
def assign (spaceId : String) (assignment : Assignment) (now : Instant) : Except Failure Database :=
  match db.space (mineLive tenant spaceId) with
  | none => .error (.http 404 ("Space " ++ spaceId ++ " not found in tenant " ++ tenant.tenantSlug))
  | some _ => db.updateSpaces (mineLive tenant spaceId) [assignment] now

end SpacesTenanted

-- The untenanted router of `spaces`.
namespace SpacesRouter

variable (db : Database)

def liveById (spaceId : String) (space : SpaceRow) : Bool := space.id == spaceId && space.deletedAt.isNone

def sensorMissing (eui : Option String) : Option String := eui.filter fun eui => !db.tables.sensorDevices.contains eui

def displayMissing (eui : Option String) : Option String :=
  eui.filter fun eui => !db.tables.displayDevices.contains eui

def registered (sensorEui displayEui : Option String) (statement : Except Failure Database) : Except Failure Database :=
  match sensorMissing db sensorEui,displayMissing db displayEui with
  | some eui,_ => .error (.http 400 ("Sensor device " ++ eui ++ " not found in registry"))
  | none,some eui => .error (.http 400 ("Display device " ++ eui ++ " not found in registry"))
  | none,none => statement

-- Its INSERT names no site.
def createSpace (space : SpaceCreate) (id : String) (now : Instant) : Except Failure Database :=
  registered db (space.sensorEui.filter (· ≠ "")) (space.displayEui.filter (· ≠ ""))
    (encoded space.metadata (db.insertSpace (space.row none id now)))

def updateSpace (spaceId : String) (u : SpaceUpdate) (now : Instant) : Except Failure Database :=
  match db.space (liveById spaceId) with
  | none => .error (.http 404 ("Space " ++ spaceId ++ " not found"))
  | some _ =>
    registered db u.sensorEui.join u.displayEui.join
      (if columns u = [] then .error (.http 400 "No fields to update")
      else encoded (u.metadata.join.map some) (db.updateSpaces (·.id == spaceId) (columns u) now))

-- `activeReservations` is what the count of the space's reservations gives.
def deleteSpace (spaceId : String) (force : Bool) (activeReservations : Nat) (now : Instant) :
    Except Failure Database :=
  match db.space (·.id == spaceId) with
  | none => .error (.http 404 ("Space " ++ spaceId ++ " not found"))
  | some existing =>
    if existing.deletedAt.isSome then .error (.http 400 ("Space " ++ spaceId ++ " is already deleted"))
    else if 0 < activeReservations && !force then
      .error (.http 400 ("Space has " ++ toString activeReservations ++
        " active reservation(s). Use force=true to delete anyway."))
    else db.updateSpaces (·.id == spaceId) [.deletedAt (some now)] now

def restoreSpace (spaceId : String) (now : Instant) : Except Failure Database :=
  match db.space (·.id == spaceId) with
  | none => .error (.http 404 ("Space " ++ spaceId ++ " not found"))
  | some existing =>
    if existing.deletedAt.isNone then .error (.http 400 ("Space " ++ spaceId ++ " is not deleted"))
    else db.updateSpaces (·.id == spaceId) [.deletedAt none] now

end SpacesRouter

-- The four device endpoints of the tenanted router.
inductive Device where
  | sensor | display
  deriving DecidableEq

def Device.column : Device → Option String → Assignment
  | .sensor => .sensorEui
  | .display => .displayEui

def Device.field : Device → String
  | .sensor => "sensor_eui"
  | .display => "display_eui"

-- A device that is not in its registry is entered there first.
def Device.register (device : Device) (db : Database) (eui : String) : Database :=
  match device with
  | .sensor => ⟨{db.tables with sensorDevices := db.tables.sensorDevices.insert eui},db.lawful⟩
  | .display => ⟨{db.tables with displayDevices := db.tables.displayDevices.insert eui},db.lawful⟩

def Database.settle (db : Database) : Except Failure Database → Database × Option Failure
  | .ok next => (next,none)
  | .error failure => (db,some failure)

namespace SpacesTenanted

def assignDevice (db : Database) (tenant : TenantContext) (device : Device) (spaceId eui : String) (now : Instant) :
    Database × Option Failure :=
  let eui := eui.toUpper
  if hexEui eui then
    let registered := device.register db eui
    registered.settle (assign registered tenant spaceId (device.column (some eui)) now)
  else (db,some (.http 400 (device.field ++ " must be 16 hexadecimal characters")))

def unassignDevice (db : Database) (tenant : TenantContext) (device : Device) (spaceId : String) (now : Instant) :
    Database × Option Failure :=
  db.settle (assign db tenant spaceId (device.column none) now)

end SpacesTenanted

-- `UPDATE spaces SET state = $1, updated_at = NOW() WHERE id = $2` of the state
-- manager and of `DatabasePool.update_space_state`.
def Database.setState (db : Database) (spaceId : String) (new : SpaceState) (now : Instant) : Except Failure Database :=
  db.updateSpaces (·.id == spaceId) [.state new] now

inductive Action where
  | createSite (tenant : TenantContext) (site : SiteCreate) (id : String)
  | updateSite (tenant : TenantContext) (siteId : String) (updates : SiteUpdate)
  | deleteSite (tenant : TenantContext) (siteId : String) (force : Bool)
  | createSpace (tenant : TenantContext) (space : SpaceCreate) (id : String) (now : Instant)
  | updateSpace (tenant : TenantContext) (spaceId : String) (u : SpaceUpdate) (now : Instant)
  | deleteSpace (tenant : TenantContext) (spaceId : String) (now : Instant)
  | assignDevice (tenant : TenantContext) (device : Device) (spaceId eui : String) (now : Instant)
  | unassignDevice (tenant : TenantContext) (device : Device) (spaceId : String) (now : Instant)
  | routerCreate (space : SpaceCreate) (id : String) (now : Instant)
  | routerUpdate (spaceId : String) (u : SpaceUpdate) (now : Instant)
  | routerDelete (spaceId : String) (force : Bool) (activeReservations : Nat) (now : Instant)
  | routerRestore (spaceId : String) (now : Instant)
  | setState (spaceId : String) (new : SpaceState) (now : Instant)

def serve (db : Database) : Action → Database × Option Failure
  | .createSite tenant site id => db.settle (Sites.createSite db tenant site id)
  | .updateSite tenant siteId updates => db.settle (Sites.updateSite db tenant siteId updates)
  | .deleteSite tenant siteId force => db.settle (Sites.deleteSite db tenant siteId force)
  | .createSpace tenant space id now => db.settle (SpacesTenanted.createSpace db tenant space id now)
  | .updateSpace tenant spaceId u now => db.settle (SpacesTenanted.updateSpace db tenant spaceId u now)
  | .deleteSpace tenant spaceId now => db.settle (SpacesTenanted.deleteSpace db tenant spaceId now)
  | .assignDevice tenant device spaceId eui now => SpacesTenanted.assignDevice db tenant device spaceId eui now
  | .unassignDevice tenant device spaceId now => SpacesTenanted.unassignDevice db tenant device spaceId now
  | .routerCreate space id now => db.settle (SpacesRouter.createSpace db space id now)
  | .routerUpdate spaceId u now => db.settle (SpacesRouter.updateSpace db spaceId u now)
  | .routerDelete spaceId force activeReservations now =>
    db.settle (SpacesRouter.deleteSpace db spaceId force activeReservations now)
  | .routerRestore spaceId now => db.settle (SpacesRouter.restoreSpace db spaceId now)
  | .setState spaceId new now => db.settle (db.setState spaceId new now)

def step (db : Database) (action : Action) : Option Database := some (serve db action).1

end SmartParking.Spaces.Catalog
