import SmartParking.Display.LivePath

namespace SmartParking.Display.Held
open Reservations (Uuid)

-- What the truth table shows for a stable state, however old it is.
def shown : SensorState → String
  | .occupied => "OCCUPIED"
  | _ => "FREE"

-- A call of `process_sensor_reading` that confirmed a state: the row it found and
-- the row it left, and the database and NOW() of its `compute_display_state`.
structure Confirmation where
  before : Option Row
  window : Int
  call : SensorCall
  after : Row
  db : Database
  now : Instant

-- The row as it is saved first, with what was displayed before.
def Confirmation.saved (c : Confirmation) : Row :=
  {c.after with lastDisplayState := c.before.bind (·.lastDisplayState)
                lastDisplayColor := c.before.bind (·.lastDisplayColor)
                lastDisplayBlink := c.before.elim (some false) (·.lastDisplayBlink)}

structure Confirmation.Valid (c : Confirmation) (spaceId tenantId : Uuid) : Prop where
  processed : processSensorReading (toString spaceId) c.window c.before c.call = some (c.after,true,some c.call.command)
  read : c.db.debounce.find? (·.spaceId == toString spaceId) = some c.saved
  computed : ∃ row, computeDisplayState c.db spaceId tenantId c.now = [row] ∧ c.call.command.state = row.displayState ∧
    some c.call.command.color = row.displayColor ∧ some c.call.command.blink = row.displayBlink

-- What is displayed last was never stored, or by the call that confirmed the
-- stable state.
inductive Recorded (spaceId tenantId : Uuid) (sensor : Row) : Option Confirmation → Prop where
  | unset : sensor.lastDisplayState = none → sensor.lastDisplayColor = none → Recorded spaceId tenantId sensor none
  | confirmed (c : Confirmation) : c.Valid spaceId tenantId → sensor.stableSensorState = c.after.stableSensorState →
      sensor.stableSince = c.after.stableSince → sensor.lastDisplayState = c.after.lastDisplayState →
      sensor.lastDisplayColor = c.after.lastDisplayColor → sensor.lastDisplayBlink = c.after.lastDisplayBlink →
      Recorded spaceId tenantId sensor (some c)

-- Nothing of higher priority was in force at the confirmation, and the state was
-- not out of date already (or what had been displayed before is the same).
def Confirmation.Undisturbed (c : Confirmation) (spaceId tenantId : Uuid) (state : SensorState) : Prop :=
  overridden c.db spaceId c.now = false ∧ booked c.db spaceId tenantId c.now = false ∧
    (fresh (c.db.policy tenantId c.now) c.now c.saved = true ∨ c.saved.lastDisplayState.getD "FREE" = shown state)

def Holds (db : Database) (spaceId tenantId : Uuid) (now : Instant) (sensor : Row) (state : SensorState)
    (history : Option Confirmation) : Prop :=
  fresh (db.policy tenantId now) now sensor = true ∨
    match history with
    | none => state = .vacant
    | some c => c.Undisturbed spaceId tenantId state

variable {db : Database} {spaceId tenantId : Uuid} {now : Instant} {sensor : Row} {state : SensorState}
  {history : Option Confirmation} {c : Confirmation} {policy : PolicyRow}

theorem sensorRow_shown (stable : sensor.stableSensorState = some state.value) (settled : state = .occupied ∨ state = .vacant) :
    (sensorRow policy now sensor).map (·.displayState) = if fresh policy now sensor then some (shown state) else none := by
  unfold sensorRow
  rw [stable]
  rcases settled with rfl | rfl <;> cases fresh policy now sensor <;> rfl

theorem sensedState_stable (found : db.debounce.find? (·.spaceId == toString spaceId) = some sensor)
    (stable : sensor.stableSensorState = some state.value) (settled : state = .occupied ∨ state = .vacant) :
    sensedState db spaceId tenantId now =
      if fresh (db.policy tenantId now) now sensor then shown state else sensor.lastDisplayState.getD "FREE" := by
  have row : (sensorRow (db.policy tenantId now) now sensor).map (·.displayState) =
      if fresh (db.policy tenantId now) now sensor then some (shown state) else none := sensorRow_shown stable settled
  unfold sensedState
  rw [found]
  dsimp only
  by_cases recent : fresh (db.policy tenantId now) now sensor = true
  · rw [if_pos recent] at row ⊢
    obtain ⟨display,acting,same⟩ := Option.map_eq_some_iff.mp row
    rw [acting]
    exact same
  · rw [if_neg recent] at row ⊢
    rw [Option.map_eq_none_iff.mp row]

theorem observe_confirms {d next : DebounceState} {window : Int} {reading : SensorState} {moment : Instant}
    (confirmed : d.observe window reading moment = some (next,true)) : next.stableSensorState = some reading := by
  unfold DebounceState.observe at confirmed
  split at confirmed
  · split at confirmed
    · split at confirmed
      · cases confirmed
      · split at confirmed
        · dsimp only at confirmed
          split at confirmed
          · cases confirmed
            rfl
          · cases confirmed
        · cases confirmed
    · cases confirmed
  · cases confirmed

theorem processed_row (valid : c.Valid spaceId tenantId) :
    c.after.stableSensorState = some c.call.state.value ∧ c.after.lastDisplayState = some c.call.command.state := by
  have processed := valid.processed
  unfold processSensorReading at processed
  obtain ⟨d,_,processed⟩ := Option.bind_eq_some_iff.mp processed
  obtain ⟨⟨next,changed⟩,observed,processed⟩ := Option.bind_eq_some_iff.mp processed
  dsimp only at processed
  cases changed with
  | false =>
    have unchanged : false = true := (Prod.mk.inj (Prod.mk.inj (Option.some.inj processed)).2).1
    cases unchanged
  | true =>
    have stable := observe_confirms observed
    have after := (Prod.mk.inj (Option.some.inj processed)).1
    rw [← after]
    exact ⟨congrArg (Option.map SensorState.value) stable,rfl⟩

theorem shown_ne (state : SensorState) : shown state ≠ "MAINTENANCE" ∧ shown state ≠ "RESERVED" := by
  cases state <;> decide

-- What the confirming call stored is the stable state's display exactly if nothing
-- disturbed it.
theorem stored_shown (valid : c.Valid spaceId tenantId) (same : sensor.stableSensorState = c.after.stableSensorState)
    (stable : sensor.stableSensorState = some state.value) (settled : state = .occupied ∨ state = .vacant) :
    c.after.lastDisplayState = some (shown state) ↔ c.Undisturbed spaceId tenantId state := by
  obtain ⟨row,computed,command,_⟩ := valid.computed
  have states := computed_states c.db spaceId tenantId c.now
  rw [computed,List.map_singleton,List.cons.injEq,and_iff_left rfl] at states
  have sensed : sensedState c.db spaceId tenantId c.now = _ :=
    sensedState_stable valid.read (same.symm.trans stable) settled
  rw [(processed_row valid).2,command,states,sensed,Option.some_inj]
  obtain ⟨maintained,reserved⟩ := shown_ne state
  unfold Confirmation.Undisturbed
  cases overridden c.db spaceId c.now with
  | true => simpa using maintained.symm
  | false =>
    cases booked c.db spaceId tenantId c.now with
    | true => simpa using reserved.symm
    | false =>
      by_cases recent : fresh (c.db.policy tenantId c.now) c.now c.saved = true
      · simp [recent]
      · simp [recent]

-- With nothing of higher priority in force, the stable state is shown exactly if it
-- is fresh, or what was stored at its confirmation is its display.
theorem stable_state_held (found : db.debounce.find? (·.spaceId == toString spaceId) = some sensor)
    (stable : sensor.stableSensorState = some state.value) (settled : state = .occupied ∨ state = .vacant)
    (recorded : Recorded spaceId tenantId sensor history) (available : overridden db spaceId now = false)
    (unbooked : booked db spaceId tenantId now = false) :
    (computeDisplayState db spaceId tenantId now).map (·.displayState) = [shown state] ↔
      Holds db spaceId tenantId now sensor state history := by
  have sensed : sensedState db spaceId tenantId now = _ := sensedState_stable found stable settled
  rw [computed_states,available,unbooked,sensed]
  unfold Holds
  by_cases recent : fresh (db.policy tenantId now) now sensor = true
  · simp [recent]
  · simp only [recent,Bool.false_eq_true,if_false,List.cons.injEq,and_true,false_or]
    cases recorded with
    | unset never _ =>
      rw [never]
      change "FREE" = shown state ↔ state = .vacant
      rcases settled with rfl | rfl <;> decide
    | confirmed c valid same _ last _ _ =>
      refine Iff.trans ?_ (stored_shown valid same stable settled)
      rw [last,(processed_row valid).2]
      simp

-- A bay whose second occupied reading comes while it is reserved, or is not.
def arriving (reservations : List Reservations.Reservation) (command : DisplayCommand) : Confirmation :=
  let before : Row := {spaceId := "7",lastSensorState := some "vacant",pendingSensorState := some "occupied",
                       pendingSince := some 0,pendingCount := some 1}
  let saved : Row := {spaceId := "7",lastSensorState := some "occupied",lastSensorTimestamp := some (5*second),
                      stableSensorState := some "occupied",stableSince := some (5*second)}
  {before := some before
   window := 10
   call := ⟨.occupied,5*second,5*second,command⟩
   after := {saved with lastDisplayState := some command.state,lastDisplayColor := some command.color,
                        lastDisplayBlink := some command.blink}
   db := ⟨[],[],reservations,[saved],List.nodup_nil,List.nodup_singleton _⟩
   now := 5*second}

def occupiedCommand : DisplayCommand := ⟨"OCCUPIED","FF0000",false,5,"Sensor: occupied"⟩
def reservedCommand : DisplayCommand := ⟨"RESERVED","FFA500",false,3,"Active reservation"⟩

-- Two hours later, with what the call left and the reservation of the first hour.
def later (sensor : Row) : Database :=
  ⟨[],[],[guestReservation],[sensor],List.nodup_nil,List.nodup_singleton _⟩

theorem stable_state_held_hours :
    (computeDisplayState (later (arriving [] occupiedCommand).after) 7 1 (7200*second)).map (·.displayState) =
      ["OCCUPIED"] := by
  have valid : (arriving [] occupiedCommand).Valid 7 1 :=
    ⟨by decide,by decide,⟨"OCCUPIED",some "FF0000",some false,5,"Sensor: occupied"⟩,by decide,rfl,rfl,rfl⟩
  have recorded : Recorded 7 1 (arriving [] occupiedCommand).after (some (arriving [] occupiedCommand)) :=
    .confirmed _ valid rfl rfl rfl rfl rfl
  have settled : SensorState.occupied = .occupied ∨ SensorState.occupied = .vacant := .inl rfl
  exact (stable_state_held (by decide) rfl settled recorded (by decide) (by decide)).mpr
    (.inr ⟨by decide,by decide,by decide⟩)

-- The reservation that was in force when the car arrived is shown when it is long
-- over, and a state that was never displayed is not held at all.
theorem stable_state_lost :
    Recorded 7 1 (arriving [guestReservation] reservedCommand).after (some (arriving [guestReservation] reservedCommand)) ∧
    overridden (later (arriving [guestReservation] reservedCommand).after) 7 (7200*second) = false ∧
    booked (later (arriving [guestReservation] reservedCommand).after) 7 1 (7200*second) = false ∧
    (computeDisplayState (later (arriving [guestReservation] reservedCommand).after) 7 1 (7200*second)).map (·.displayState) =
      ["RESERVED"] ∧
    Recorded 7 1 guestSensor none ∧ guestSensor.stableSensorState = some "occupied" ∧
    (computeDisplayState (later guestSensor) 7 1 (7200*second)).map (·.displayState) = ["FREE"] := by
  have valid : (arriving [guestReservation] reservedCommand).Valid 7 1 :=
    ⟨by decide,by decide,⟨"RESERVED",some "FFA500",some false,3,"Active reservation"⟩,by decide,rfl,rfl,rfl⟩
  exact ⟨.confirmed _ valid rfl rfl rfl rfl rfl,by decide,by decide,by decide,.unset rfl rfl,rfl,by decide⟩

end SmartParking.Display.Held
