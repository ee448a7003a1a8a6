import SmartParking.Display.Priority
import SmartParking.Lib.Hex
import SmartParking.Lib.Runs

namespace SmartParking.Display.PolicyCreation
open Lib
open Reservations (Uuid)

-- The pattern `^[0-9A-Fa-f]{6}$`.
def isColor (text : String) : Bool := text.toList.length == 6 && text.toList.all fun c => (Hex.value c).isSome

-- A body that passes validation; the others are answered with 422 before the
-- handler runs.
structure DisplayPolicyCreate where
  name : String
  description : Option String := none
  reservedSoonThresholdSec : Int := 900
  sensorUnknownTimeoutSec : Int := 60
  debounceWindowSec : Int := 10
  occupiedColor : String := "FF0000"
  freeColor : String := "00FF00"
  reservedColor : String := "FFA500"
  reservedSoonColor : String := "FFFF00"
  blockedColor : String := "808080"
  outOfServiceColor : String := "800080"
  blinkReservedSoon : Bool := false
  blinkPatternMs : Int := 500
  allowSensorOverride : Bool := true
  validName : 1 ≤ name.length ∧ name.length ≤ 100
  validReservedSoon : 0 ≤ reservedSoonThresholdSec ∧ reservedSoonThresholdSec ≤ 3600
  validTimeout : 0 ≤ sensorUnknownTimeoutSec ∧ sensorUnknownTimeoutSec ≤ 300
  validWindow : 5 ≤ debounceWindowSec ∧ debounceWindowSec ≤ 30
  validColors : [occupiedColor,freeColor,reservedColor,reservedSoonColor,blockedColor,outOfServiceColor].all isColor = true
  validBlink : 100 ≤ blinkPatternMs ∧ blinkPatternMs ≤ 2000

-- The fields that a PATCH body sets to other values than None. Validation bounds
-- them like those of a new policy; it has no part in what follows.
structure DisplayPolicyUpdate where
  name : Option String := none
  description : Option String := none
  reservedSoonThresholdSec : Option Int := none
  sensorUnknownTimeoutSec : Option Int := none
  debounceWindowSec : Option Int := none
  occupiedColor : Option String := none
  freeColor : Option String := none
  reservedColor : Option String := none
  reservedSoonColor : Option String := none
  blockedColor : Option String := none
  outOfServiceColor : Option String := none
  blinkReservedSoon : Option Bool := none
  blinkPatternMs : Option Int := none
  allowSensorOverride : Option Bool := none
  deriving DecidableEq

-- `tenants` and `display_policies` with the partial unique index and the primary
-- key of the latter.
structure Contents where
  tenants : List Uuid
  policies : List PolicyRow
  activePerTenant : ((policies.filter (·.isActive)).map (·.tenantId)).Nodup
  primaryKey : (policies.map (·.id)).Nodup

def Contents.empty : Contents := ⟨[],[],List.nodup_nil,List.nodup_nil⟩

def Contents.active (c : Contents) (tenantId : Uuid) : List PolicyRow :=
  c.policies.filter fun row => row.tenantId == tenantId && row.isActive

-- An INSERT that breaks the index or the key is refused with its name.
def refusal (c : Contents) (row : PolicyRow) : Option String :=
  if row.id ∈ c.policies.map (·.id) then some "display_policies_pkey"
  else if row.isActive = true ∧ c.active row.tenantId ≠ [] then some "uq_display_policies_active_per_tenant"
  else none

def newRow (tenantId : Uuid) (policy : DisplayPolicyCreate) (id : Uuid) (now : Instant) : PolicyRow where
  id := some id
  tenantId := tenantId
  name := policy.name
  description := policy.description
  isActive := true
  reservedSoonThresholdSec := policy.reservedSoonThresholdSec
  sensorUnknownTimeoutSec := policy.sensorUnknownTimeoutSec
  debounceWindowSec := policy.debounceWindowSec
  occupiedColor := policy.occupiedColor
  freeColor := policy.freeColor
  reservedColor := policy.reservedColor
  reservedSoonColor := policy.reservedSoonColor
  blockedColor := policy.blockedColor
  outOfServiceColor := policy.outOfServiceColor
  blinkReservedSoon := policy.blinkReservedSoon
  blinkPatternMs := some policy.blinkPatternMs
  allowSensorOverride := policy.allowSensorOverride
  createdAt := now
  updatedAt := none
  createdBy := none

-- What the migration inserts; the other columns take the table's defaults.
def seededRow (tenantId id : Uuid) (now : Instant) : PolicyRow :=
  ⟨some id,tenantId,"Default Policy",some "Auto-generated default display policy",true,
   900,60,10,
   "FF0000","00FF00","FFA500","FFFF00","808080","800080",
   false,some 500,true,
   now,none,none⟩

variable {c next : Contents} {row other : PolicyRow} {tenantId id : Uuid} {policy : DisplayPolicyCreate} {now : Instant}

theorem mem_active : row ∈ c.active tenantId ↔ row ∈ c.policies ∧ row.tenantId = tenantId ∧ row.isActive = true := by
  simp [Contents.active]

theorem refusal_none : refusal c row = none ↔
    row.id ∉ c.policies.map (·.id) ∧ (row.isActive = true → c.active row.tenantId = []) := by
  unfold refusal
  split
  · rename_i taken
    exact iff_of_false nofun fun free => free.1 taken
  · rename_i fresh
    split
    · rename_i taken
      exact iff_of_false nofun fun free => taken.2 (free.2 taken.1)
    · rename_i free
      exact iff_of_true rfl ⟨fresh,fun active => not_not.mp fun taken => free ⟨active,taken⟩⟩

def Contents.append (c : Contents) (row : PolicyRow) (accepted : refusal c row = none) : Contents where
  tenants := c.tenants
  policies := c.policies ++ [row]
  activePerTenant := by
    obtain ⟨_,free⟩ := refusal_none.mp accepted
    rw [List.filter_append,List.map_append]
    refine c.activePerTenant.append ?_ ?_
    · cases active : row.isActive <;> simp [active]
    · intro t old new
      obtain ⟨mine,kept,rfl⟩ := List.mem_map.mp new
      obtain ⟨single,active⟩ := List.mem_filter.mp kept
      cases List.mem_singleton.mp single
      obtain ⟨other,held,same⟩ := List.mem_map.mp old
      obtain ⟨member,live⟩ := List.mem_filter.mp held
      have taken : other ∈ c.active row.tenantId := mem_active.mpr ⟨member,same,live⟩
      rw [free active] at taken
      cases taken
  primaryKey := by
    obtain ⟨fresh,_⟩ := refusal_none.mp accepted
    rw [List.map_append]
    refine c.primaryKey.append (List.nodup_singleton _) ?_
    intro key old new
    cases List.mem_singleton.mp new
    exact fresh old

-- `Except` has the violated constraint.
def Contents.insert (c : Contents) (row : PolicyRow) : Except String Contents :=
  match accepted : refusal c row with
  | some constraint => .error constraint
  | none => .ok (c.append row accepted)

inductive Answer where
  | created (id tenantId : Uuid) (name : String) (createdAt : Instant)
  | updated (id tenantId : Uuid) (name : String) (updatedAt : Instant)
  | badRequest (detail : String)
  | notFound (detail : String)
  | serverError (detail : String)
  deriving DecidableEq

-- The first line of the driver's UniqueViolationError.
def violationText (constraint : String) : String :=
  "duplicate key value violates unique constraint \"" ++ constraint ++ "\""

-- `id` is what `gen_random_uuid()` yields. The application's state has neither a
-- state machine nor a Redis client, so nothing follows the INSERT.
def createDisplayPolicy (c : Contents) (tenantId : Uuid) (policy : DisplayPolicyCreate) (id : Uuid) (now : Instant) :
    Contents × Answer :=
  if tenantId ∈ c.tenants then
    match c.insert (newRow tenantId policy id now) with
    | .error constraint => (c,.serverError (violationText constraint))
    | .ok c => (c,.created id tenantId policy.name now)
  else (c,.notFound ("Tenant " ++ toString tenantId ++ " not found"))

def DisplayPolicyUpdate.assign (u : DisplayPolicyUpdate) (now : Instant) (row : PolicyRow) : PolicyRow :=
  {row with
    name := u.name.getD row.name
    description := u.description.or row.description
    reservedSoonThresholdSec := u.reservedSoonThresholdSec.getD row.reservedSoonThresholdSec
    sensorUnknownTimeoutSec := u.sensorUnknownTimeoutSec.getD row.sensorUnknownTimeoutSec
    debounceWindowSec := u.debounceWindowSec.getD row.debounceWindowSec
    occupiedColor := u.occupiedColor.getD row.occupiedColor
    freeColor := u.freeColor.getD row.freeColor
    reservedColor := u.reservedColor.getD row.reservedColor
    reservedSoonColor := u.reservedSoonColor.getD row.reservedSoonColor
    blockedColor := u.blockedColor.getD row.blockedColor
    outOfServiceColor := u.outOfServiceColor.getD row.outOfServiceColor
    blinkReservedSoon := u.blinkReservedSoon.getD row.blinkReservedSoon
    blinkPatternMs := u.blinkPatternMs.or row.blinkPatternMs
    allowSensorOverride := u.allowSensorOverride.getD row.allowSensorOverride
    updatedAt := some now}

-- An UPDATE that leaves the indexed columns alone.
def Contents.change (c : Contents) (assign : PolicyRow → PolicyRow)
    (same : ∀ row, (assign row).id = row.id ∧ (assign row).tenantId = row.tenantId ∧ (assign row).isActive = row.isActive) :
    Contents where
  tenants := c.tenants
  policies := c.policies.map assign
  activePerTenant := by
    have active : (fun row : PolicyRow => row.isActive) ∘ assign = fun row => row.isActive :=
      funext fun row => (same row).2.2
    have tenant : (fun row : PolicyRow => row.tenantId) ∘ assign = fun row => row.tenantId :=
      funext fun row => (same row).2.1
    rw [List.filter_map,List.map_map,active,tenant]
    exact c.activePerTenant
  primaryKey := by
    have key : (fun row : PolicyRow => row.id) ∘ assign = fun row => row.id := funext fun row => (same row).1
    rw [List.map_map,key]
    exact c.primaryKey

def DisplayPolicyUpdate.set (u : DisplayPolicyUpdate) (id : Uuid) (now : Instant) (row : PolicyRow) : PolicyRow :=
  if row.id = some id then u.assign now row else row

theorem set_same (u : DisplayPolicyUpdate) (id : Uuid) (now : Instant) (row : PolicyRow) : (u.set id now row).id = row.id ∧
    (u.set id now row).tenantId = row.tenantId ∧ (u.set id now row).isActive = row.isActive := by
  unfold DisplayPolicyUpdate.set
  split <;> exact ⟨rfl,rfl,rfl⟩

def updateDisplayPolicy (c : Contents) (id : Uuid) (u : DisplayPolicyUpdate) (now : Instant) : Contents × Answer :=
  if u = {} then (c,.badRequest "No fields to update")
  else match c.policies.find? (·.id == some id) with
    | none => (c,.notFound ("Display policy " ++ toString id ++ " not found"))
    | some row => (c.change (u.set id now) (set_same u id now),.updated id row.tenantId (u.assign now row).name now)

-- `INSERT ... SELECT ... FROM tenants ON CONFLICT DO NOTHING`.
def seed (c : Contents) (ids : Uuid → Uuid) (now : Instant) : Contents :=
  c.tenants.foldl (fun c tenantId => (c.insert (seededRow tenantId (ids tenantId) now)).toOption.getD c) c

-- Tenants come by registration; the migration may be run again.
inductive Change where
  | register (tenantId : Uuid)
  | migrate (ids : Uuid → Uuid) (now : Instant)
  | create (tenantId : Uuid) (policy : DisplayPolicyCreate) (id : Uuid) (now : Instant)
  | update (id : Uuid) (u : DisplayPolicyUpdate) (now : Instant)

def step (c : Contents) : Change → Option Contents
  | .register tenantId => some {c with tenants := c.tenants ++ [tenantId]}
  | .migrate ids now => some (seed c ids now)
  | .create tenantId policy id now => some (createDisplayPolicy c tenantId policy id now).1
  | .update id u now => some (updateDisplayPolicy c id u now).1

-- The new policy is the only active one of the tenant, and the other tenants' rows
-- are as before.
def Replaces (tenantId : Uuid) (row : PolicyRow) (before after : Contents) : Prop :=
  after.active tenantId = [row] ∧
    after.policies.filter (·.tenantId ≠ tenantId) = before.policies.filter (·.tenantId ≠ tenantId)

theorem insert_cases (c : Contents) (row : PolicyRow) :
    (∃ constraint, refusal c row = some constraint ∧ c.insert row = .error constraint) ∨
    ∃ accepted, c.insert row = .ok (c.append row accepted) := by
  unfold Contents.insert
  split
  · rename_i constraint refused
    exact .inl ⟨constraint,refused,rfl⟩
  · rename_i accepted
    exact .inr ⟨accepted,rfl⟩

theorem active_append (accepted : refusal c row = none) (active : row.isActive = true) :
    (c.append row accepted).active row.tenantId = [row] := by
  have free := (refusal_none.mp accepted).2 active
  change (c.policies ++ [row]).filter (fun other => other.tenantId == row.tenantId && other.isActive) = [row]
  rw [List.filter_append]
  change c.active row.tenantId ++ _ = _
  rw [free]
  simp [active]

-- A policy is created, and replaces the active one, exactly if there is none.
theorem create_replaces (known : tenantId ∈ c.tenants) (fresh : some id ∉ c.policies.map (·.id)) :
    (createDisplayPolicy c tenantId policy id now).2 = .created id tenantId policy.name now ∧
      Replaces tenantId (newRow tenantId policy id now) c (createDisplayPolicy c tenantId policy id now).1 ↔
    ∀ row ∈ c.policies, row.tenantId = tenantId → row.isActive = false := by
  have free : c.active tenantId = [] ↔ ∀ row ∈ c.policies, row.tenantId = tenantId → row.isActive = false := by
    simp [Contents.active,List.filter_eq_nil_iff]
  rw [← free]
  unfold createDisplayPolicy
  rw [if_pos known]
  constructor
  · rintro ⟨created,_⟩
    rcases insert_cases c (newRow tenantId policy id now) with ⟨constraint,_,refused⟩ | ⟨accepted,inserted⟩
    · rw [refused] at created
      cases created
    · exact (refusal_none.mp accepted).2 rfl
  · intro uncovered
    have accepted : refusal c (newRow tenantId policy id now) = none := refusal_none.mpr ⟨fresh,fun _ => uncovered⟩
    rcases insert_cases c (newRow tenantId policy id now) with ⟨constraint,refused,_⟩ | ⟨_,inserted⟩
    · rw [accepted] at refused
      cases refused
    · rw [inserted]
      refine ⟨rfl,active_append accepted rfl,?_⟩
      change (c.policies ++ [newRow tenantId policy id now]).filter _ = _
      rw [List.filter_append]
      simp [newRow]

theorem active_appended (accepted : refusal c row = none) (covered : c.active tenantId ≠ []) :
    (c.append row accepted).active tenantId ≠ [] := by
  obtain ⟨other,member⟩ := List.exists_mem_of_ne_nil _ covered
  obtain ⟨old,same⟩ := mem_active.mp member
  exact List.ne_nil_of_mem (mem_active.mpr ⟨List.mem_append_left _ old,same⟩)

theorem seed_active (ids : Uuid → Uuid) (tenants : List Uuid) (covered : c.active tenantId ≠ []) :
    (tenants.foldl (fun c t => (c.insert (seededRow t (ids t) now)).toOption.getD c) c).active tenantId ≠ [] := by
  induction tenants generalizing c with
  | nil => exact covered
  | cons t tenants ih =>
    refine ih ?_
    dsimp only
    rcases insert_cases c (seededRow t (ids t) now) with ⟨_,_,refused⟩ | ⟨accepted,inserted⟩
    · rw [refused]
      exact covered
    · rw [inserted]
      exact active_appended accepted covered

-- Nothing makes a policy inactive.
theorem step_active {change : Change} (covered : c.active tenantId ≠ []) (ran : step c change = some next) :
    next.active tenantId ≠ [] := by
  cases change with
  | register t =>
    cases ran
    exact covered
  | migrate ids now =>
    cases ran
    exact seed_active ids c.tenants covered
  | create t policy id now =>
    cases ran
    unfold createDisplayPolicy
    split
    · rcases insert_cases c (newRow t policy id now) with ⟨_,_,refused⟩ | ⟨accepted,inserted⟩
      · rw [refused]
        exact covered
      · rw [inserted]
        exact active_appended accepted covered
    · exact covered
  | update id u now =>
    cases ran
    unfold updateDisplayPolicy
    split
    · exact covered
    · split
      · exact covered
      · obtain ⟨row,member⟩ := List.exists_mem_of_ne_nil _ covered
        obtain ⟨old,same,active⟩ := mem_active.mp member
        obtain ⟨_,tenant,live⟩ := set_same u id now row
        have moved : u.set id now row ∈ c.policies.map (u.set id now) := List.mem_map_of_mem old
        exact List.ne_nil_of_mem (mem_active.mpr ⟨moved,tenant.trans same,live.trans active⟩)

-- A tenant that once has an active policy, such as one that the migration found,
-- is never given another.
theorem create_refused_forever (path : Runs.Reached step (fun _ _ => True) c next) (covered : c.active tenantId ≠ [])
    (policy : DisplayPolicyCreate) (id : Uuid) (now : Instant) : (createDisplayPolicy next tenantId policy id now).1 = next := by
  have still := path.invariant (fun c => c.active tenantId ≠ []) covered fun covered _ ran => step_active covered ran
  unfold createDisplayPolicy
  split
  · rcases insert_cases next (newRow tenantId policy id now) with ⟨_,_,refused⟩ | ⟨accepted,inserted⟩
    · rw [refused]
    · exact absurd ((refusal_none.mp accepted).2 rfl) still
  · rfl

def plain : DisplayPolicyCreate where
  name := "Night"
  validName := by decide
  validReservedSoon := by decide
  validTimeout := by decide
  validWindow := by decide
  validColors := by decide
  validBlink := by decide

-- A tenant that registered after the migration has no policy at first.
theorem create_replaces_registered : ∃ c, step .empty (.register 1) = some c ∧
    (createDisplayPolicy c 1 plain 10 0).2 = .created 10 1 "Night" 0 ∧
    Replaces 1 (newRow 1 plain 10 0) c (createDisplayPolicy c 1 plain 10 0).1 := by
  refine ⟨_,rfl,(create_replaces (by decide) (by decide)).mpr ?_⟩
  intro row member
  cases member

-- One that the migration found has one, which stays.
theorem create_fails_migrated : ∃ c, Runs.exec step .empty [.register 1,.migrate (· + 100) 0] = some c ∧
    1 ∈ c.tenants ∧ (createDisplayPolicy c 1 plain 10 0).2 =
      .serverError "duplicate key value violates unique constraint \"uq_display_policies_active_per_tenant\"" ∧
    (createDisplayPolicy c 1 plain 10 0).1.active 1 = [seededRow 1 101 0] := by
  exact ⟨_,rfl,by decide,by decide,by decide⟩

end SmartParking.Display.PolicyCreation
