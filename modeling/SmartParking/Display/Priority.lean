import Mathlib.Data.List.MinMax
import Mathlib.Data.List.Nodup
import Mathlib.Order.Bounds.Defs
import SmartParking.Display.Debounce
import SmartParking.Reservations.Table

namespace SmartParking.Display
open Reservations (Uuid Reservation)

-- A row of `display_policies`, its columns in the table's order.
structure PolicyRow where
  id : Option Uuid
  tenantId : Uuid
  name : String
  description : Option String
  isActive : Bool
  reservedSoonThresholdSec : Int
  sensorUnknownTimeoutSec : Int
  debounceWindowSec : Int
  occupiedColor : String
  freeColor : String
  reservedColor : String
  reservedSoonColor : String
  blockedColor : String
  outOfServiceColor : String
  blinkReservedSoon : Bool
  blinkPatternMs : Option Int
  allowSensorOverride : Bool
  createdAt : Instant
  updatedAt : Option Instant
  createdBy : Option Uuid
  deriving DecidableEq

inductive AdminOverrideType where
  | blocked | outOfService
  deriving DecidableEq

-- The columns of `space_admin_overrides` that are read here.
structure Override where
  spaceId : Uuid
  tenantId : Uuid
  overrideType : AdminOverrideType
  startTime : Instant
  endTime : Option Instant
  isActive : Bool
  deriving DecidableEq

-- The tables the display state is computed from: one active policy a tenant and
-- one debounce row a space.
structure Database where
  policies : List PolicyRow
  overrides : List Override
  reservations : List Reservation
  debounce : List Row
  activePerTenant : ((policies.filter (·.isActive)).map (·.tenantId)).Nodup
  debounceKey : (debounce.map (·.spaceId)).Nodup

structure DisplayRow where
  displayState : String
  displayColor : Option String
  displayBlink : Option Bool
  priorityLevel : Nat
  reason : String
  deriving DecidableEq

def Database.activePolicy (db : Database) (tenantId : Uuid) : Option PolicyRow :=
  db.policies.find? fun policy => policy.tenantId == tenantId && policy.isActive

-- The default policy, as the ROW value of the function lists it.
def defaultPolicy (tenantId : Uuid) (now : Instant) : PolicyRow :=
  ⟨none,tenantId,"default",none,true,
   900,60,10,
   "FF0000","00FF00","FFA500","FFFF00","808080","800080",
   false,some 500,true,
   now,none,none⟩

def Database.policy (db : Database) (tenantId : Uuid) (now : Instant) : PolicyRow :=
  (db.activePolicy tenantId).getD (defaultPolicy tenantId now)

-- The WHERE clauses.
def Override.inForce (kind : AdminOverrideType) (spaceId : Uuid) (now : Instant) (o : Override) : Bool :=
  o.spaceId == spaceId && o.isActive && o.overrideType == kind && decide (o.startTime ≤ now) &&
    o.endTime.all (now < ·)

def reservedNow (spaceId : Uuid) (now : Instant) (r : Reservation) : Bool :=
  r.spaceId == spaceId && r.status.blocks && decide (r.startTime ≤ now) && decide (now < r.endTime)

def reservedSoon (policy : PolicyRow) (spaceId : Uuid) (now : Instant) (r : Reservation) : Bool :=
  r.spaceId == spaceId && r.status.blocks && decide (now < r.startTime) &&
    decide (r.startTime ≤ now+policy.reservedSoonThresholdSec*second)

def fresh (policy : PolicyRow) (now : Instant) (sensor : Row) : Bool :=
  sensor.stableSince.any fun since => decide (now-since ≤ policy.sensorUnknownTimeoutSec*second)

-- `EXTRACT(EPOCH FROM ...)::INTEGER` of a positive interval, rounded half up.
def epoch (interval : Instant) : Int := (interval+second/2)/second

def sensorRow (policy : PolicyRow) (now : Instant) (sensor : Row) : Option DisplayRow :=
  if fresh policy now sensor then
    if sensor.stableSensorState = some "occupied" then
      some ⟨"OCCUPIED",some policy.occupiedColor,some false,5,"Sensor: occupied"⟩
    else if sensor.stableSensorState = some "vacant" then
      some ⟨"FREE",some policy.freeColor,some false,5,"Sensor: vacant"⟩
    else none
  else none

-- Sensor data stale: hold last stable state.
def heldRow (policy : PolicyRow) (sensor : Row) : Option DisplayRow :=
  sensor.lastDisplayState.map fun state =>
    ⟨state,sensor.lastDisplayColor,sensor.lastDisplayBlink,6,
     "Holding last stable state (sensor timeout " ++ toString policy.sensorUnknownTimeoutSec ++ "s)"⟩

-- `ORDER BY ... DESC LIMIT 1` and `ORDER BY ... ASC LIMIT 1`.
def latest [LinearOrder β] (key : α → β) (rows : List α) : Option α := rows.argmax key

def earliest [LinearOrder β] (key : α → β) (rows : List α) : Option α := rows.argmin key

-- `compute_display_state`: the rows that its RETURN QUERY statements add.
def computeDisplayState (db : Database) (spaceId tenantId : Uuid) (now : Instant) : List DisplayRow :=
  let policy := db.policy tenantId now
  match latest (·.startTime) (db.overrides.filter (Override.inForce .outOfService spaceId now)) with
  | some _ => [⟨"MAINTENANCE",some policy.outOfServiceColor,some false,1,"Admin override: out_of_service"⟩]
  | none =>
  match latest (·.startTime) (db.overrides.filter (Override.inForce .blocked spaceId now)) with
  | some _ => [⟨"MAINTENANCE",some policy.blockedColor,some false,2,"Admin override: blocked"⟩]
  | none =>
  match earliest (·.startTime) (db.reservations.filter (reservedNow spaceId now)) with
  | some _ => [⟨"RESERVED",some policy.reservedColor,some false,3,"Active reservation"⟩]
  | none =>
  match earliest (·.startTime) (db.reservations.filter (reservedSoon policy spaceId now)) with
  | some reservation =>
    [⟨"RESERVED",some policy.reservedSoonColor,some policy.blinkReservedSoon,4,
      "Reservation starts in " ++ toString (epoch (reservation.startTime-now)) ++ " seconds"⟩]
  | none =>
  let default := ⟨"FREE",some policy.freeColor,some false,7,"Default: no sensor data"⟩
  match db.debounce.find? (·.spaceId == toString spaceId) with
  | none => [default]
  | some sensor =>
    match sensorRow policy now sensor with
    | some row => [row]
    | none =>
      match heldRow policy sensor with
      | some row => [row]
      | none => [default]

-- A row of one of the tables other than the policies.
inductive Item where
  | override (o : Override)
  | reservation (r : Reservation)
  | sensor (row : Row)

def Database.Has (db : Database) : Item → Prop
  | .override o => o ∈ db.overrides
  | .reservation r => r ∈ db.reservations
  | .sensor row => row ∈ db.debounce

def Override.Holds (kind : AdminOverrideType) (spaceId : Uuid) (now : Instant) (o : Override) : Prop :=
  o.spaceId = spaceId ∧ o.isActive = true ∧ o.overrideType = kind ∧ o.startTime ≤ now ∧
    (o.endTime = none ∨ ∃ until', o.endTime = some until' ∧ now < until')

-- The condition of each level, as the truth table states it.
def Satisfies (policy : PolicyRow) (spaceId : Uuid) (now : Instant) : Nat → Item → Prop
  | 1,.override o => o.Holds .outOfService spaceId now
  | 2,.override o => o.Holds .blocked spaceId now
  | 3,.reservation r => r.spaceId = spaceId ∧ (r.status = .pending ∨ r.status = .confirmed) ∧
      r.startTime ≤ now ∧ now < r.endTime
  | 4,.reservation r => r.spaceId = spaceId ∧ (r.status = .pending ∨ r.status = .confirmed) ∧
      now < r.startTime ∧ r.startTime ≤ now+policy.reservedSoonThresholdSec*second
  | 5,.sensor row => row.spaceId = toString spaceId ∧
      (∃ since, row.stableSince = some since ∧ now-since ≤ policy.sensorUnknownTimeoutSec*second) ∧
      (row.stableSensorState = some "occupied" ∨ row.stableSensorState = some "vacant")
  | 6,.sensor row => row.spaceId = toString spaceId ∧ row.lastDisplayState ≠ none
  | _,_ => False

def Applies (db : Database) (spaceId tenantId : Uuid) (now : Instant) (level : Nat) : Prop :=
  level = 7 ∨ ∃ item, db.Has item ∧ Satisfies (db.policy tenantId now) spaceId now level item

-- What the display shows at a level.
def Shows (db : Database) (spaceId : Uuid) (now : Instant) (policy : PolicyRow) (row : DisplayRow) : Nat → Prop
  | 1 => row.displayState = "MAINTENANCE" ∧ row.displayColor = some policy.outOfServiceColor ∧
      row.displayBlink = some false
  | 2 => row.displayState = "MAINTENANCE" ∧ row.displayColor = some policy.blockedColor ∧
      row.displayBlink = some false
  | 3 => row.displayState = "RESERVED" ∧ row.displayColor = some policy.reservedColor ∧ row.displayBlink = some false
  | 4 => row.displayState = "RESERVED" ∧ row.displayColor = some policy.reservedSoonColor ∧
      row.displayBlink = some policy.blinkReservedSoon
  | 5 => ∃ sensor, db.Has (.sensor sensor) ∧ Satisfies policy spaceId now 5 (.sensor sensor) ∧
      (sensor.stableSensorState = some "occupied" ∧ row.displayState = "OCCUPIED" ∧
        row.displayColor = some policy.occupiedColor ∨
       sensor.stableSensorState = some "vacant" ∧ row.displayState = "FREE" ∧
        row.displayColor = some policy.freeColor) ∧ row.displayBlink = some false
  | 6 => ∃ sensor, db.Has (.sensor sensor) ∧ Satisfies policy spaceId now 6 (.sensor sensor) ∧
      sensor.lastDisplayState = some row.displayState ∧ row.displayColor = sensor.lastDisplayColor ∧
      row.displayBlink = sensor.lastDisplayBlink
  | _ => row.displayState = "FREE" ∧ row.displayColor = some policy.freeColor ∧ row.displayBlink = some false

section Levels

variable {db : Database} {spaceId tenantId : Uuid} {now : Instant}

theorem inForce_iff (kind : AdminOverrideType) (o : Override) :
    o.inForce kind spaceId now = true ↔ o.Holds kind spaceId now := by
  cases ends : o.endTime <;> simp [Override.inForce,Override.Holds,ends,and_assoc]

theorem blocks_iff (status : Reservations.Status) : status.blocks = true ↔ status = .pending ∨ status = .confirmed := by
  cases status <;> simp [Reservations.Status.blocks]

theorem latest_none {rows : List Override} {select : Override → Bool} :
    latest (·.startTime) (rows.filter select) = none ↔ ∀ o ∈ rows, ¬select o = true := by
  rw [latest,List.argmax_eq_none,List.filter_eq_nil_iff]

theorem earliest_none {rows : List Reservation} {select : Reservation → Bool} :
    earliest (·.startTime) (rows.filter select) = none ↔ ∀ r ∈ rows, ¬select r = true := by
  rw [earliest,List.argmin_eq_none,List.filter_eq_nil_iff]

theorem selected_override {rows : List Override} {select : Override → Bool}
    (found : latest (·.startTime) (rows.filter select) = some o) : o ∈ rows ∧ select o = true :=
  List.mem_filter.mp (List.argmax_mem found)

theorem selected_reservation {rows : List Reservation} {select : Reservation → Bool}
    (found : earliest (·.startTime) (rows.filter select) = some r) : r ∈ rows ∧ select r = true :=
  List.mem_filter.mp (List.argmin_mem found)

-- A level other than the last applies when its WHERE clause selects something.
theorem applies_iff (wrap : α → Item) (rows : List α) {select : α → Prop} (last : level ≠ 7)
    (has : ∀ row, db.Has (wrap row) ↔ row ∈ rows)
    (only : ∀ item, Satisfies (db.policy tenantId now) spaceId now level item ↔ ∃ row, item = wrap row ∧ select row) :
    Applies db spaceId tenantId now level ↔ ∃ row ∈ rows, select row := by
  constructor
  · rintro (seven | ⟨item,present,satisfied⟩)
    · exact absurd seven last
    · obtain ⟨row,rfl,selected⟩ := (only item).mp satisfied
      exact ⟨row,(has row).mp present,selected⟩
  · rintro ⟨row,member,selected⟩
    exact .inr ⟨wrap row,(has row).mpr member,(only _).mpr ⟨row,rfl,selected⟩⟩

theorem applies_outOfService :
    Applies db spaceId tenantId now 1 ↔ ∃ o ∈ db.overrides, o.inForce .outOfService spaceId now = true := by
  refine applies_iff .override db.overrides (by decide) (fun _ => Iff.rfl) fun item => ?_
  cases item <;> simp [Satisfies,inForce_iff]

theorem applies_blocked :
    Applies db spaceId tenantId now 2 ↔ ∃ o ∈ db.overrides, o.inForce .blocked spaceId now = true := by
  refine applies_iff .override db.overrides (by decide) (fun _ => Iff.rfl) fun item => ?_
  cases item <;> simp [Satisfies,inForce_iff]

theorem applies_reservedNow :
    Applies db spaceId tenantId now 3 ↔ ∃ r ∈ db.reservations, reservedNow spaceId now r = true := by
  refine applies_iff .reservation db.reservations (by decide) (fun _ => Iff.rfl) fun item => ?_
  cases item <;> simp [Satisfies,reservedNow,blocks_iff,and_assoc]

theorem applies_reservedSoon :
    Applies db spaceId tenantId now 4 ↔
      ∃ r ∈ db.reservations, reservedSoon (db.policy tenantId now) spaceId now r = true := by
  refine applies_iff .reservation db.reservations (by decide) (fun _ => Iff.rfl) fun item => ?_
  cases item <;> simp [Satisfies,reservedSoon,blocks_iff,and_assoc]

theorem find_sensor {sensor : Row} :
    db.debounce.find? (·.spaceId == toString spaceId) = some sensor ↔
      sensor ∈ db.debounce ∧ sensor.spaceId = toString spaceId := by
  constructor
  · intro found
    exact ⟨List.mem_of_find?_eq_some found,by simpa using List.find?_some found⟩
  · rintro ⟨member,same⟩
    cases looked : db.debounce.find? (·.spaceId == toString spaceId) with
    | none =>
      have missed := List.find?_eq_none.mp looked sensor member
      simp [same] at missed
    | some other =>
      have named : other.spaceId = toString spaceId := by simpa using List.find?_some looked
      rw [List.inj_on_of_nodup_map db.debounceKey (List.mem_of_find?_eq_some looked) member (named.trans same.symm)]

theorem fresh_iff (policy : PolicyRow) (sensor : Row) :
    fresh policy now sensor = true ↔
      ∃ since, sensor.stableSince = some since ∧ now-since ≤ policy.sensorUnknownTimeoutSec*second := by
  cases stable : sensor.stableSince <;> simp [fresh,stable]

theorem sensorRow_none (policy : PolicyRow) (sensor : Row) : sensorRow policy now sensor = none ↔
    ¬(fresh policy now sensor = true ∧
      (sensor.stableSensorState = some "occupied" ∨ sensor.stableSensorState = some "vacant")) := by
  unfold sensorRow
  split
  · split
    · simp_all
    · split <;> simp_all
  · simp_all

theorem applies_sensor :
    Applies db spaceId tenantId now 5 ↔ ∃ sensor ∈ db.debounce, sensor.spaceId = toString spaceId ∧
      sensorRow (db.policy tenantId now) now sensor ≠ none := by
  refine applies_iff .sensor db.debounce (by decide) (fun _ => Iff.rfl) fun item => ?_
  simp only [ne_eq,sensorRow_none,not_not,fresh_iff]
  cases item with
  | sensor row =>
    simp only [Item.sensor.injEq,exists_eq_left']
    exact Iff.rfl
  | _ => simp [Satisfies]

theorem applies_held :
    Applies db spaceId tenantId now 6 ↔ ∃ sensor ∈ db.debounce, sensor.spaceId = toString spaceId ∧
      sensor.lastDisplayState ≠ none := by
  refine applies_iff .sensor db.debounce (by decide) (fun _ => Iff.rfl) fun item => ?_
  cases item <;> simp [Satisfies]

-- Nothing before the level applies.
def Clear (db : Database) (spaceId tenantId : Uuid) (now : Instant) (level : Nat) : Prop :=
  ∀ lower < level, ¬Applies db spaceId tenantId now lower

theorem clear_one : Clear db spaceId tenantId now 1 := by
  intro lower less
  rw [Nat.lt_one_iff.mp less]
  rintro (never | ⟨item,_,satisfied⟩)
  · cases never
  · cases item <;> exact satisfied

theorem Clear.next (clear : Clear db spaceId tenantId now level) (passed : ¬Applies db spaceId tenantId now level) :
    Clear db spaceId tenantId now (level+1) := by
  intro lower less
  rcases Nat.lt_succ_iff_lt_or_eq.mp less with less | rfl
  · exact clear lower less
  · exact passed

theorem Clear.least (clear : Clear db spaceId tenantId now level) (holds : Applies db spaceId tenantId now level) :
    IsLeast {level | Applies db spaceId tenantId now level} level :=
  ⟨holds,fun lower applies => not_lt.mp fun less => clear lower less applies⟩

theorem sensorRow_shows {sensor : Row} (member : sensor ∈ db.debounce) (named : sensor.spaceId = toString spaceId)
    (shown : sensorRow (db.policy tenantId now) now sensor = some row) :
    row.priorityLevel = 5 ∧ Applies db spaceId tenantId now 5 ∧ Shows db spaceId now (db.policy tenantId now) row 5 := by
  have satisfied : Satisfies (db.policy tenantId now) spaceId now 5 (.sensor sensor) := by
    have acting : sensorRow (db.policy tenantId now) now sensor ≠ none := by simp [shown]
    rw [ne_eq,sensorRow_none,not_not,fresh_iff] at acting
    exact ⟨named,acting⟩
  have applies : Applies db spaceId tenantId now 5 := .inr ⟨.sensor sensor,member,satisfied⟩
  unfold sensorRow at shown
  split at shown
  · split at shown
    · rename_i occupied
      cases shown
      exact ⟨rfl,applies,sensor,member,satisfied,.inl ⟨occupied,rfl,rfl⟩,rfl⟩
    · split at shown
      · rename_i vacant
        cases shown
        exact ⟨rfl,applies,sensor,member,satisfied,.inr ⟨vacant,rfl,rfl⟩,rfl⟩
      · cases shown
  · cases shown

theorem heldRow_shows {sensor : Row} (member : sensor ∈ db.debounce) (named : sensor.spaceId = toString spaceId)
    (shown : heldRow (db.policy tenantId now) sensor = some row) :
    row.priorityLevel = 6 ∧ Applies db spaceId tenantId now 6 ∧ Shows db spaceId now (db.policy tenantId now) row 6 := by
  obtain ⟨state,last,rfl⟩ := Option.map_eq_some_iff.mp shown
  have satisfied : Satisfies (db.policy tenantId now) spaceId now 6 (.sensor sensor) := ⟨named,by simp [last]⟩
  exact ⟨rfl,.inr ⟨.sensor sensor,member,satisfied⟩,sensor,member,satisfied,last,rfl,rfl⟩

end Levels

-- One row comes back, from the least level that applies.
theorem computeDisplayState_least (db : Database) (spaceId tenantId : Uuid) (now : Instant) :
    ∃ row, computeDisplayState db spaceId tenantId now = [row] ∧
      IsLeast {level | Applies db spaceId tenantId now level} row.priorityLevel ∧
      Shows db spaceId now (db.policy tenantId now) row row.priorityLevel := by
  unfold computeDisplayState
  dsimp only
  have clear : Clear db spaceId tenantId now 1 := clear_one
  split
  · rename_i o found
    exact ⟨_,rfl,clear.least (applies_outOfService.mpr ⟨o,selected_override found⟩),rfl,rfl,rfl⟩
  rename_i missing
  replace clear := clear.next fun applies => by
    obtain ⟨o,member,held⟩ := applies_outOfService.mp applies
    exact latest_none.mp missing o member held
  split
  · rename_i o found
    exact ⟨_,rfl,clear.least (applies_blocked.mpr ⟨o,selected_override found⟩),rfl,rfl,rfl⟩
  rename_i missing
  replace clear := clear.next fun applies => by
    obtain ⟨o,member,held⟩ := applies_blocked.mp applies
    exact latest_none.mp missing o member held
  split
  · rename_i r found
    exact ⟨_,rfl,clear.least (applies_reservedNow.mpr ⟨r,selected_reservation found⟩),rfl,rfl,rfl⟩
  rename_i missing
  replace clear := clear.next fun applies => by
    obtain ⟨r,member,held⟩ := applies_reservedNow.mp applies
    exact earliest_none.mp missing r member held
  split
  · rename_i r found
    exact ⟨_,rfl,clear.least (applies_reservedSoon.mpr ⟨r,selected_reservation found⟩),rfl,rfl,rfl⟩
  rename_i missing
  replace clear := clear.next fun applies => by
    obtain ⟨r,member,held⟩ := applies_reservedSoon.mp applies
    exact earliest_none.mp missing r member held
  -- From here on the levels read the one debounce row of the space.
  cases looked : db.debounce.find? (·.spaceId == toString spaceId) with
  | none =>
    have absent : ∀ sensor ∈ db.debounce, sensor.spaceId ≠ toString spaceId := by
      intro sensor member
      simpa using List.find?_eq_none.mp looked sensor member
    replace clear := clear.next fun applies => by
      obtain ⟨sensor,member,named,_⟩ := applies_sensor.mp applies
      exact absent sensor member named
    replace clear := clear.next fun applies => by
      obtain ⟨sensor,member,named,_⟩ := applies_held.mp applies
      exact absent sensor member named
    exact ⟨_,rfl,clear.least (.inl rfl),rfl,rfl,rfl⟩
  | some sensor =>
    obtain ⟨member,named⟩ := find_sensor.mp looked
    have only : ∀ other ∈ db.debounce, other.spaceId = toString spaceId → other = sensor := by
      intro other present same
      have found := find_sensor.mpr ⟨present,same⟩
      exact Option.some.inj (found.symm.trans looked)
    dsimp only
    split
    · rename_i row shown
      obtain ⟨level,applies,shows⟩ := sensorRow_shows member named shown
      exact ⟨row,rfl,by rw [level]; exact ⟨clear.least applies,shows⟩⟩
    rename_i stale
    replace clear := clear.next fun applies => by
      obtain ⟨other,present,same,fresh⟩ := applies_sensor.mp applies
      rw [only other present same] at fresh
      exact fresh stale
    split
    · rename_i row shown
      obtain ⟨level,applies,shows⟩ := heldRow_shows member named shown
      exact ⟨row,rfl,by rw [level]; exact ⟨clear.least applies,shows⟩⟩
    rename_i unheld
    replace clear := clear.next fun applies => by
      obtain ⟨other,present,same,held⟩ := applies_held.mp applies
      rw [only other present same] at held
      exact held (Option.map_eq_none_iff.mp unheld)
    exact ⟨_,rfl,clear.least (.inl rfl),rfl,rfl,rfl⟩

-- The two databases have the same rows among those that the first levels look at.
def Agree (policy : PolicyRow) (spaceId : Uuid) (now : Instant) (level : Nat) (one two : Database) : Prop :=
  ∀ lower ≤ level, ∀ item, Satisfies policy spaceId now lower item → (one.Has item ↔ two.Has item)

section Agreement

variable {db other : Database} {spaceId tenantId : Uuid} {now : Instant}

theorem Agree.applies (agree : Agree (db.policy tenantId now) spaceId now level db other)
    (policy : other.policy tenantId now = db.policy tenantId now) (within : lower ≤ level) :
    Applies other spaceId tenantId now lower ↔ Applies db spaceId tenantId now lower := by
  unfold Applies
  rw [policy]
  refine or_congr_right (exists_congr fun item => and_congr_left fun satisfied => ?_)
  exact (agree lower within item satisfied).symm

theorem Agree.least (agree : Agree (db.policy tenantId now) spaceId now level db other)
    (policy : other.policy tenantId now = db.policy tenantId now)
    (here : IsLeast {level | Applies db spaceId tenantId now level} level)
    (there : IsLeast {level | Applies other spaceId tenantId now level} reached) : reached = level := by
  have upper : reached ≤ level := there.2 ((agree.applies policy le_rfl).mpr here.1)
  have lower : level ≤ reached := here.2 ((agree.applies policy upper).mp there.1)
  exact le_antisymm upper lower

theorem one_sensor {one two : Row} (first : db.Has (.sensor one)) (second : db.Has (.sensor two))
    (same : one.spaceId = two.spaceId) : one = two :=
  List.inj_on_of_nodup_map db.debounceKey first second same

-- At a level at which the databases agree, a display shows the same.
theorem Agree.shows (agree : Agree policy spaceId now level db other) (here : Shows db spaceId now policy row level)
    (there : Shows other spaceId now policy found level) :
    found.displayState = row.displayState ∧ found.displayColor = row.displayColor ∧
      found.displayBlink = row.displayBlink := by
  match level,agree,here,there with
  | 0,_,here,there | 1,_,here,there | 2,_,here,there | 3,_,here,there | 4,_,here,there | _+7,_,here,there =>
    exact ⟨there.1.trans here.1.symm,there.2.1.trans here.2.1.symm,there.2.2.trans here.2.2.symm⟩
  | 5,agree,⟨one,present,satisfied,shown,blink⟩,⟨two,also,fresh,seen,steady⟩ =>
    have moved := (agree 5 le_rfl (.sensor one) satisfied).mp present
    cases one_sensor moved also (satisfied.1.trans fresh.1.symm)
    rcases shown with ⟨state,shown⟩ | ⟨state,shown⟩ <;> rcases seen with ⟨same,seen⟩ | ⟨same,seen⟩
    · exact ⟨seen.1.trans shown.1.symm,seen.2.trans shown.2.symm,steady.trans blink.symm⟩
    · simp [state] at same
    · simp [state] at same
    · exact ⟨seen.1.trans shown.1.symm,seen.2.trans shown.2.symm,steady.trans blink.symm⟩
  | 6,agree,⟨one,present,satisfied,state,color,blink⟩,⟨two,also,held,same,shade,steady⟩ =>
    have moved := (agree 6 le_rfl (.sensor one) satisfied).mp present
    cases one_sensor moved also (satisfied.1.trans held.1.symm)
    exact ⟨Option.some.inj (same.symm.trans state),shade.trans color.symm,steady.trans blink.symm⟩

end Agreement

-- The display follows the least level that applies, and no row that does not
-- count at that level or before it has any influence.
theorem display_priority (db : Database) (spaceId tenantId : Uuid) (now : Instant) :
    ∃ row, computeDisplayState db spaceId tenantId now = [row] ∧
      IsLeast {level | Applies db spaceId tenantId now level} row.priorityLevel ∧
      Shows db spaceId now (db.policy tenantId now) row row.priorityLevel ∧
      ∀ other : Database, other.activePolicy tenantId = db.activePolicy tenantId →
        Agree (db.policy tenantId now) spaceId now row.priorityLevel db other →
        ∃ found, computeDisplayState other spaceId tenantId now = [found] ∧
          found.displayState = row.displayState ∧ found.displayColor = row.displayColor ∧
          found.displayBlink = row.displayBlink ∧ found.priorityLevel = row.priorityLevel := by
  obtain ⟨row,computed,least,shows⟩ := computeDisplayState_least db spaceId tenantId now
  refine ⟨row,computed,least,shows,?_⟩
  intro other active agree
  obtain ⟨found,also,lowest,shown⟩ := computeDisplayState_least other spaceId tenantId now
  have policy : other.policy tenantId now = db.policy tenantId now := by
    unfold Database.policy
    rw [active]
  have level := agree.least policy least lowest
  rw [policy,level] at shown
  obtain ⟨state,color,blink⟩ := agree.shows shows shown
  exact ⟨found,also,state,color,blink,level⟩

-- A block that ends at this very instant no longer holds, and the default policy
-- gives the colour.
example : computeDisplayState ⟨[],[⟨1,1,.blocked,0,some 10,true⟩],[],
      [{spaceId := "1",stableSensorState := some "vacant",stableSince := some 5}],List.nodup_nil,by decide⟩ 1 1 10 =
    [⟨"FREE",some "00FF00",some false,5,"Sensor: vacant"⟩] := by decide

end SmartParking.Display
