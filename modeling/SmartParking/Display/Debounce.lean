import Mathlib.Data.List.Chain

namespace SmartParking.Display

inductive SensorState where
  | occupied | vacant | unknown
  deriving DecidableEq

namespace SensorState

def value : SensorState → String
  | .occupied => "occupied"
  | .vacant => "vacant"
  | .unknown => "unknown"

-- `SensorState(text)`; `none` is its ValueError.
def parse (text : String) : Option SensorState :=
  if text = "occupied" then some .occupied
  else if text = "vacant" then some .vacant
  else if text = "unknown" then some .unknown
  else none

end SensorState

-- Instants in whole microseconds.
abbrev Instant := Int

def second : Instant := 1000000

structure DisplayCommand where
  state : String
  color : String
  blink : Bool
  priorityLevel : Int
  reason : String
  deriving DecidableEq

structure DebounceState where
  spaceId : String
  lastSensorState : Option SensorState := none
  lastSensorTimestamp : Option Instant := none
  pendingSensorState : Option SensorState := none
  pendingSince : Option Instant := none
  pendingCount : Int := 0
  stableSensorState : Option SensorState := none
  stableSince : Option Instant := none
  lastDisplayState : Option String := none
  lastDisplayColor : Option String := none
  lastDisplayBlink : Option Bool := some false
  deriving DecidableEq

-- A row of `sensor_debounce_state`: the states are texts and columns may be NULL.
structure Row where
  spaceId : String
  lastSensorState : Option String := none
  lastSensorTimestamp : Option Instant := none
  pendingSensorState : Option String := none
  pendingSince : Option Instant := none
  pendingCount : Option Int := some 0
  stableSensorState : Option String := none
  stableSince : Option Instant := none
  lastDisplayState : Option String := none
  lastDisplayColor : Option String := none
  lastDisplayBlink : Option Bool := some false
  deriving DecidableEq

-- `SensorState(row[column]) if row[column] else None`.
def readState (column : Option String) : Option (Option SensorState) :=
  match column with
  | none | some "" => some none
  | some text => (SensorState.parse text).map some

-- `_get_debounce_state`; `none` is an exception.
def getDebounceState (spaceId : String) : Option Row → Option DebounceState
  | none => some {spaceId := spaceId}
  | some row => do
    let last ← readState row.lastSensorState
    let pending ← readState row.pendingSensorState
    let stable ← readState row.stableSensorState
    return {
      spaceId := row.spaceId
      lastSensorState := last
      lastSensorTimestamp := row.lastSensorTimestamp
      pendingSensorState := pending
      pendingSince := row.pendingSince
      pendingCount := row.pendingCount.getD 0
      stableSensorState := stable
      stableSince := row.stableSince
      lastDisplayState := row.lastDisplayState
      lastDisplayColor := row.lastDisplayColor
      lastDisplayBlink := row.lastDisplayBlink}

def saveDebounceState (d : DebounceState) : Row where
  spaceId := d.spaceId
  lastSensorState := d.lastSensorState.map (·.value)
  lastSensorTimestamp := d.lastSensorTimestamp
  pendingSensorState := d.pendingSensorState.map (·.value)
  pendingSince := d.pendingSince
  pendingCount := some d.pendingCount
  stableSensorState := d.stableSensorState.map (·.value)
  stableSince := d.stableSince
  lastDisplayState := d.lastDisplayState
  lastDisplayColor := d.lastDisplayColor
  lastDisplayBlink := d.lastDisplayBlink

theorem readState_saved (state : Option SensorState) : readState (state.map (·.value)) = some state := by
  cases state with
  | none => rfl
  | some state => cases state <;> decide

theorem get_saved (d : DebounceState) (spaceId : String) :
    getDebounceState spaceId (some (saveDebounceState d)) = some d := by
  simp [getDebounceState,saveDebounceState,readState_saved]

-- One call of `process_sensor_reading`: the reading, the clock during the call and
-- what `compute_display_command` would answer at its end.
structure SensorCall where
  state : SensorState
  timestamp : Instant
  now : Instant
  command : DisplayCommand
  deriving DecidableEq

namespace DebounceState

def restart (d : DebounceState) (state : SensorState) (now : Instant) : DebounceState :=
  {d with pendingSensorState := some state,pendingSince := some now,pendingCount := 1}

def confirm (d : DebounceState) (state : SensorState) (now : Instant) : DebounceState :=
  {d with stableSensorState := some state,stableSince := some now,pendingSensorState := none,
          pendingSince := none,pendingCount := 0}

-- The five branches. Subtracting a missing `pending_since` is a TypeError.
def observe (d : DebounceState) (window : Int) (state : SensorState) (now : Instant) : Option (DebounceState × Bool) :=
  if d.lastSensorState ≠ some state then
    if d.pendingSensorState = some state then
      match d.pendingSince with
      | none => none
      | some since =>
        if now-since ≤ window*second then
          let d := {d with pendingCount := d.pendingCount+1}
          if 2 ≤ d.pendingCount then some (d.confirm state now,true) else some (d,false)
        else some (d.restart state now,false)
    else some (d.restart state now,false)
  else some ({d with pendingSensorState := none,pendingCount := 0},false)

def display (d : DebounceState) (command : DisplayCommand) : DebounceState :=
  {d with lastDisplayState := some command.state,lastDisplayColor := some command.color,
          lastDisplayBlink := some command.blink}

end DebounceState

def processSensorReading (spaceId : String) (window : Int) (row : Option Row) (call : SensorCall) :
    Option (Row × Bool × Option DisplayCommand) := do
  let d ← getDebounceState spaceId row
  let (d,changed) ← d.observe window call.state call.now
  let d := {d with lastSensorState := some call.state,lastSensorTimestamp := some call.timestamp}
  if changed then return (saveDebounceState (d.display call.command),true,some call.command)
  else return (saveDebounceState d,false,none)

structure Observation where
  stable : Option String
  changed : Bool
  deriving DecidableEq

def observations (spaceId : String) (window : Int) : Option Row → List SensorCall → Option (List Observation)
  | _,[] => some []
  | row,call::rest => do
    let (row,changed,_) ← processSensorReading spaceId window row call
    let later ← observations spaceId window (some row) rest
    return ⟨row.stableSensorState,changed⟩::later

-- Two readings that confirm a state: the same, and close enough in time.
def Confirming (window : Int) (prior call : SensorCall) : Prop :=
  prior.state = call.state ∧ call.now-prior.now ≤ window*second

instance : Decidable (Confirming window prior call) := inferInstanceAs (Decidable (_ ∧ _))

-- The debouncing the documentation describes: it remembers the preceding reading
-- and the stable state, and needs two consecutive readings to change the latter.
structure Reference where
  previous : Option SensorCall
  stable : Option SensorState

namespace Reference

def initial : Reference := ⟨none,none⟩

def confirms (m : Reference) (window : Int) (call : SensorCall) : Bool :=
  m.previous.any (fun prior => Confirming window prior call) && m.stable != some call.state

def next (m : Reference) (window : Int) (call : SensorCall) : Reference :=
  ⟨some call,if m.confirms window call then some call.state else m.stable⟩

def observations (window : Int) : Reference → List SensorCall → List Observation
  | _,[] => []
  | m,call::rest =>
    ⟨(m.next window call).stable.map (·.value),m.confirms window call⟩::observations window (m.next window call) rest

end Reference

variable {spaceId : String} {window : Int} {d : DebounceState} {call : SensorCall} {row : Option Row}

-- The pending state is never ahead of the last reading, so no later reading can
-- differ from the last one and agree with the pending one.
structure Unconfirmed (d : DebounceState) : Prop where
  stable : d.stableSensorState = none
  pending : d.pendingSensorState = none ∨ d.pendingSensorState = d.lastSensorState

-- Of the five branches only two are taken, and neither confirms.
theorem Unconfirmed.observe (unconfirmed : Unconfirmed d) (window : Int) (state : SensorState) (now : Instant) :
    ∃ next, d.observe window state now = some (next,false) ∧ next.stableSensorState = none ∧
      (next.pendingSensorState = none ∨ next.pendingSensorState = some state) := by
  obtain ⟨stable,pending⟩ := unconfirmed
  by_cases repeated : d.lastSensorState = some state
  · exact ⟨{d with pendingSensorState := none,pendingCount := 0},if_neg (not_not.mpr repeated),stable,.inl rfl⟩
  · have other : d.pendingSensorState ≠ some state := by
      rcases pending with idle | last
      · rw [idle]
        exact (Option.some_ne_none state).symm
      · rw [last]
        exact repeated
    exact ⟨d.restart state now,by simp [DebounceState.observe,repeated,other],stable,.inr rfl⟩

theorem Unconfirmed.process (loaded : getDebounceState spaceId row = some d) (unconfirmed : Unconfirmed d)
    (window : Int) (call : SensorCall) : ∃ next,
      processSensorReading spaceId window row call = some (saveDebounceState next,false,none) ∧ Unconfirmed next := by
  obtain ⟨next,observed,stable,pending⟩ := unconfirmed.observe window call.state call.now
  refine ⟨{next with lastSensorState := some call.state,lastSensorTimestamp := some call.timestamp},?_,stable,pending⟩
  simp [processSensorReading,loaded,observed]

theorem Unconfirmed.observations (loaded : getDebounceState spaceId row = some d) (unconfirmed : Unconfirmed d)
    (calls : List SensorCall) :
    observations spaceId window row calls = some (calls.map fun _ => ⟨none,false⟩) := by
  induction calls generalizing row d with
  | nil => rfl
  | cons call rest ih =>
    obtain ⟨next,processed,later⟩ := unconfirmed.process loaded window call
    have silent : (saveDebounceState next).stableSensorState = none := by
      simp [saveDebounceState,later.stable]
    simp [Display.observations,processed,ih (get_saved next spaceId) later,silent]

namespace Reference

variable {previous : Option SensorCall}

theorem next_unconfirmed (idle : confirms ⟨previous,none⟩ window call = false) :
    next ⟨previous,none⟩ window call = ⟨some call,none⟩ := by
  simp [next,idle]

theorem observations_silent (window : Int) (previous : Option SensorCall) (calls : List SensorCall) :
    observations window ⟨previous,none⟩ calls = calls.map (fun _ => ⟨none,false⟩) ↔
      (previous.toList ++ calls).IsChain fun prior call => ¬Confirming window prior call := by
  induction calls generalizing previous with
  | nil => cases previous <;> simp [observations]
  | cons call rest ih =>
    cases idle : confirms ⟨previous,none⟩ window call with
    | false =>
      have apart : ∀ prior ∈ previous, ¬Confirming window prior call := by
        intro prior member
        cases member
        simpa [confirms] using idle
      simp only [observations,next_unconfirmed idle,idle,List.map_cons,Option.map_none,List.cons.injEq,true_and]
      rw [ih (some call)]
      cases previous with
      | none => rfl
      | some prior => simp [apart prior rfl]
    | true =>
      simp only [observations,idle,List.map_cons,List.cons.injEq,Observation.mk.injEq,Bool.true_eq_false,and_false,
        false_and,false_iff]
      cases previous with
      | none => cases idle
      | some prior =>
        intro chain
        have apart : ¬Confirming window prior call := (List.isChain_cons_cons.mp chain).1
        simp [confirms,apart] at idle

end Reference

def Fresh (row : Option Row) : Prop :=
  ∀ stored ∈ row, stored.lastSensorState = none ∧ stored.pendingSensorState = none ∧ stored.stableSensorState = none

theorem Fresh.loaded (fresh : Fresh row) (spaceId : String) :
    ∃ d, getDebounceState spaceId row = some d ∧ Unconfirmed d := by
  cases row with
  | none => exact ⟨{spaceId := spaceId},rfl,rfl,.inl rfl⟩
  | some stored =>
    obtain ⟨last,pending,stable⟩ := fresh stored rfl
    exact ⟨_,by simp only [getDebounceState,last,pending,stable,readState]; rfl,rfl,.inl rfl⟩

-- The machine agrees with the reference exactly on the sequences that leave the
-- reference nothing to confirm.
theorem debounce_refines (fresh : Fresh row) (spaceId : String) (window : Int) (calls : List SensorCall) :
    observations spaceId window row calls = some (Reference.observations window .initial calls) ↔
      calls.IsChain fun prior call => ¬Confirming window prior call := by
  obtain ⟨d,loaded,unconfirmed⟩ := fresh.loaded spaceId
  have silent := Reference.observations_silent window none calls
  rw [unconfirmed.observations loaded calls,Option.some_inj]
  exact eq_comm.trans silent

def reading (state : SensorState) (seconds : Int) : SensorCall :=
  ⟨state,seconds*second,seconds*second,⟨"FREE","00FF00",false,5,"Sensor: vacant"⟩⟩

theorem debounce_refines_noise :
    observations "space-1" 10 none [reading .vacant 0,reading .occupied 5,reading .occupied 20] =
      some (Reference.observations 10 .initial [reading .vacant 0,reading .occupied 5,reading .occupied 20]) :=
  (debounce_refines (fun _ member => absurd member (Option.not_mem_none _)) "space-1" 10 _).mpr (by decide)

-- The documentation's first example: two vacant readings five seconds apart.
theorem debounce_ignores_confirmation :
    observations "space-1" 10 none [reading .vacant 0,reading .vacant 5] ≠
      some (Reference.observations 10 .initial [reading .vacant 0,reading .vacant 5]) ∧
    observations "space-1" 10 none [reading .vacant 0,reading .vacant 5] = some [⟨none,false⟩,⟨none,false⟩] ∧
    Reference.observations 10 .initial [reading .vacant 0,reading .vacant 5] = [⟨none,false⟩,⟨some "vacant",true⟩] := by
  decide

end SmartParking.Display
