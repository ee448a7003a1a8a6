import SmartParking.Auth.Reuse
import SmartParking.Background.Manager
import SmartParking.Display.Debounce
import SmartParking.Lib.Datetimes

namespace SmartParking.Database.Clocks
open Lib

-- Microseconds.
abbrev Instant := Int

-- A TIMESTAMPTZ column as the driver returns it.
def stored (instant : Instant) : Datetime := ⟨instant,true⟩

-- `datetime.utcnow()`
def utcnow (instant : Instant) : Datetime := ⟨instant,false⟩

theorem stored_gt (a b : Instant) : (stored a).gt (stored b) = .ok (decide (b < a)) := Datetime.gt_same rfl

theorem stored_sub (a b : Instant) : (stored a).sub (stored b) = .ok (a-b) := Datetime.sub_same rfl

theorem stored_mixed (now instant : Instant) : (utcnow now).aware ≠ (stored instant).aware := Bool.false_ne_true

-- The three functions as they compute with datetimes. `clock` makes the datetime
-- of the moment, and is `utcnow` in all of them.
section Comparisons

open Auth (Args RotateError hashToken reuseDetectionWindow)
open Background (ScheduledTask TaskAction put)
open Reservations (Reservation)
open Display (DebounceState SensorState SensorCall DisplayCommand Row getDebounceState saveDebounceState second)

def validateAndRotate (clock : Instant → Datetime) (t : Auth.Table) (a : Args) (now : Instant) (newToken : String) :
    Except TypeError (Auth.Table × Except RotateError (Option (String × String))) :=
  match t.find a.hash with
  | none => .ok (t,.ok none)
  | some r => do
    if ← (clock now).gt (stored r.expiresAt) then .ok (t,.ok none)
    else
      match r.revokedAt with
      | some revokedAt => do
        let sinceRevoke ← (clock now).sub (stored revokedAt)
        if sinceRevoke < reuseDetectionWindow then .ok (t,.ok none)
        else .ok (t.revokeTokenFamily r.userId r.deviceFingerprint now,.ok none)
      | none =>
        let inserted := (t.revokeToken r.id now).insert r.userId (hashToken newToken) a.client now
        .ok (inserted.1,if inserted.2 then .ok (some (r.userId,newToken)) else .error .uniqueViolation)

-- Half of `schedule_reservation`, for the start or for the end.
def scheduleTask (now : Datetime) (r : Reservation) (action : TaskAction) (time : Instant) (tasks : List ScheduledTask) :
    Except TypeError (List ScheduledTask) := do
  if ← (stored time).gt now then
    let _ ← (stored time).sub now
    .ok (put tasks ⟨action,r.id,r.spaceId,time,.sleeping⟩)
  else .ok tasks

-- Its `except` logs the error and keeps the tasks that there are.
def scheduleReservation (now : Datetime) (tasks : List ScheduledTask) (r : Reservation) :
    List ScheduledTask × Option TypeError :=
  match scheduleTask now r .start r.startTime tasks with
  | .error raised => (tasks,some raised)
  | .ok tasks =>
    match scheduleTask now r .finish r.endTime tasks with
    | .error raised => (tasks,some raised)
    | .ok tasks => (tasks,none)

-- The loop of `_load_active_reservations` with the errors that were logged; the
-- clock is read at each row, and a row with metadata ends the loop.
def loadReservations (clock : Reservation → Datetime) : List Reservation → List ScheduledTask → List ScheduledTask × List TypeError
  | [],tasks => (tasks,[])
  | r::rest,tasks =>
    match r.metadata with
    | some _ => (tasks,[])
    | none =>
      let scheduled := scheduleReservation (clock r) tasks r
      let later := loadReservations clock rest scheduled.1
      (later.1,scheduled.2.toList ++ later.2)

inductive Raised where
  | typeError (error : TypeError)
  | valueError
  deriving DecidableEq

def observe (d : DebounceState) (window : Int) (state : SensorState) (now : Datetime) :
    Except TypeError (DebounceState × Bool) :=
  if d.lastSensorState ≠ some state then
    if d.pendingSensorState = some state then
      match d.pendingSince with
      | none => .error .subtractNone
      | some since => do
        let timeDiff ← now.sub (stored since)
        if timeDiff ≤ window*second then
          let d := {d with pendingCount := d.pendingCount+1}
          if 2 ≤ d.pendingCount then .ok (d.confirm state now.micros,true) else .ok (d,false)
        else .ok (d.restart state now.micros,false)
    else .ok (d.restart state now.micros,false)
  else .ok ({d with pendingSensorState := none,pendingCount := 0},false)

-- The second half of `process_sensor_reading`, which compares no times.
def saved (call : SensorCall) (d : DebounceState) (stateChanged : Bool) : Row × Bool × Option DisplayCommand :=
  let d := {d with lastSensorState := some call.state,lastSensorTimestamp := some call.timestamp}
  if stateChanged then (saveDebounceState (d.display call.command),true,some call.command)
  else (saveDebounceState d,false,none)

def processSensorReading (clock : Instant → Datetime) (spaceId : String) (window : Int) (row : Option Row) (call : SensorCall) :
    Except Raised (Row × Bool × Option DisplayCommand) :=
  match getDebounceState spaceId row with
  | none => .error .valueError
  | some d =>
    match observe d window call.state (clock call.now) with
    | .error raised => .error (.typeError raised)
    | .ok (d,stateChanged) => .ok (saved call d stateChanged)

-- The reading differs from the last one and has the state that is pending, which is
-- where the elapsed time is asked for.
def compared (spaceId : String) (row : Option Row) (state : SensorState) : Bool :=
  (getDebounceState spaceId row).any fun d => d.lastSensorState != some state && d.pendingSensorState == some state

variable {t : Auth.Table} {a : Args} {now time : Instant} {newToken spaceId : String} {window : Int}
  {row : Option Row} {call : SensorCall} {d : DebounceState} {state : SensorState} {action : TaskAction}

theorem validateAndRotate_found (found : t.find a.hash = some r) :
    validateAndRotate utcnow t a now newToken = .error .compare := by
  unfold validateAndRotate
  rw [found]
  dsimp only
  rw [Datetime.gt_mixed (stored_mixed now r.expiresAt)]
  rfl

theorem validateAndRotate_naive : (∃ result, validateAndRotate utcnow t a now newToken = .ok result) ↔ t.find a.hash = none := by
  cases found : t.find a.hash with
  | none => exact iff_of_true ⟨_,by rw [validateAndRotate,found]⟩ rfl
  | some r =>
    refine iff_of_false ?_ (Option.some_ne_none r)
    rintro ⟨result,same⟩
    cases same.symm.trans (validateAndRotate_found found)

theorem scheduleTask_naive (r : Reservation) (tasks : List ScheduledTask) :
    scheduleTask (utcnow now) r action time tasks = .error .compare := by
  rw [scheduleTask,Datetime.gt_mixed (stored_mixed now time).symm]
  rfl

theorem scheduleReservation_naive (r : Reservation) (tasks : List ScheduledTask) :
    scheduleReservation (utcnow now) tasks r = (tasks,some .compare) := by
  rw [scheduleReservation,scheduleTask_naive]

-- No task is made, and each row that is reached logs an error.
theorem loadReservations_naive (moments : Reservation → Instant) (rows : List Reservation) (tasks : List ScheduledTask) :
    loadReservations (fun r => utcnow (moments r)) rows tasks =
      (tasks,(rows.takeWhile (·.metadata.isNone)).map fun _ => .compare) := by
  induction rows with
  | nil => rfl
  | cons r rest ih =>
    unfold loadReservations
    cases bare : r.metadata with
    | some metadata => rw [List.takeWhile_cons_of_neg (by simp [bare])]; rfl
    | none =>
      dsimp only
      rw [scheduleReservation_naive,ih,List.takeWhile_cons_of_pos (by simp [bare])]
      rfl

theorem loadReservations_quiet (moments : Reservation → Instant) (rows : List Reservation) (tasks : List ScheduledTask) :
    (loadReservations (fun r => utcnow (moments r)) rows tasks).2 = [] ↔ ∀ first ∈ rows.head?, first.metadata ≠ none := by
  rw [loadReservations_naive,List.map_eq_nil_iff]
  cases rows with
  | nil => exact iff_of_true rfl (fun _ member => by cases member)
  | cons r rest => simp [List.takeWhile_cons]

theorem observe_naive (window : Int) (state : SensorState) (now : Instant) : (∃ raised, observe d window state (utcnow now) = .error raised) ↔
    d.lastSensorState ≠ some state ∧ d.pendingSensorState = some state := by
  unfold observe
  by_cases differs : d.lastSensorState ≠ some state
  · by_cases pending : d.pendingSensorState = some state
    · rw [if_pos differs,if_pos pending]
      refine iff_of_true ?_ ⟨differs,pending⟩
      cases d.pendingSince with
      | none => exact ⟨_,rfl⟩
      | some since =>
        dsimp only
        rw [Datetime.sub_mixed (stored_mixed now since)]
        exact ⟨_,rfl⟩
    · rw [if_pos differs,if_neg pending]
      refine iff_of_false ?_ fun both => pending both.2
      rintro ⟨raised,same⟩
      cases same
  · rw [if_neg differs]
    refine iff_of_false ?_ fun both => differs both.1
    rintro ⟨raised,same⟩
    cases same

theorem processSensorReading_naive :
    (∀ raised, processSensorReading utcnow spaceId window row call ≠ .error (.typeError raised)) ↔
      compared spaceId row call.state = false := by
  unfold processSensorReading compared
  cases getDebounceState spaceId row with
  | none => exact iff_of_true (fun raised same => by cases same) rfl
  | some d =>
    have raises := observe_naive (d := d) window call.state call.now
    have asked : (d.lastSensorState != some call.state && d.pendingSensorState == some call.state) = false ↔
        ¬(d.lastSensorState ≠ some call.state ∧ d.pendingSensorState = some call.state) := by
      rw [← Bool.not_eq_true,Bool.and_eq_true,bne_iff_ne,beq_iff_eq]
    rw [Option.any_some,asked,← raises]
    dsimp only
    cases observe d window call.state (utcnow call.now) with
    | error raised => exact iff_of_false (fun quiet => quiet raised rfl) (fun none => none ⟨raised,rfl⟩)
    | ok result => exact iff_of_true (fun raised same => by cases same) (fun ⟨_,same⟩ => by cases same)

-- With a clock that has a zone, the three compute what the other modules say.
theorem validateAndRotate_aware : validateAndRotate stored t a now newToken = .ok (t.validateAndRotate a now newToken) := by
  unfold validateAndRotate Auth.Table.validateAndRotate
  cases t.find a.hash with
  | none => rfl
  | some r =>
    dsimp only
    rw [stored_gt]
    by_cases expired : r.expiresAt < now
    · rw [if_pos expired,decide_eq_true expired]
      rfl
    · rw [if_neg expired,decide_eq_false expired]
      cases r.revokedAt with
      | none => rfl
      | some revokedAt =>
        dsimp only
        rw [stored_sub]
        exact (apply_ite Except.ok ..).symm

theorem scheduleTask_aware (r : Reservation) (tasks : List ScheduledTask) : scheduleTask (stored now) r action time tasks =
    .ok (if now < time then put tasks ⟨action,r.id,r.spaceId,time,.sleeping⟩ else tasks) := by
  rw [scheduleTask,stored_gt,stored_sub]
  by_cases later : now < time
  · rw [if_pos later,decide_eq_true later]
    rfl
  · rw [if_neg later,decide_eq_false later]
    rfl

theorem loadReservations_aware (rows : List Reservation) (tasks : List ScheduledTask) :
    loadReservations (fun _ => stored now) rows tasks = (Background.loadReservations now rows tasks,[]) := by
  have scheduled : ∀ tasks r, scheduleReservation (stored now) tasks r = (Background.scheduleReservation now tasks r,none) := by
    intro tasks r
    unfold scheduleReservation Background.scheduleReservation
    rw [scheduleTask_aware]
    dsimp only
    rw [scheduleTask_aware]
  induction rows generalizing tasks with
  | nil => rfl
  | cons r rest ih =>
    unfold loadReservations Background.loadReservations
    cases r.metadata with
    | some metadata => rfl
    | none =>
      dsimp only
      rw [scheduled,ih]
      rfl

theorem observe_aware (d : DebounceState) (window : Int) (state : SensorState) (now : Instant) :
    (observe d window state (stored now)).toOption = d.observe window state now := by
  unfold observe DebounceState.observe
  by_cases differs : d.lastSensorState ≠ some state
  · by_cases pending : d.pendingSensorState = some state
    · rw [if_pos differs,if_pos pending,if_pos differs,if_pos pending]
      cases d.pendingSince with
      | none => rfl
      | some since =>
        dsimp only
        rw [stored_sub]
        show (if now-since ≤ window*second then _ else _ : Except TypeError (DebounceState × Bool)).toOption = _
        by_cases recent : now-since ≤ window*second
        · rw [if_pos recent,if_pos recent]
          by_cases again : 2 ≤ d.pendingCount+1
          · rw [if_pos again,if_pos again]
            rfl
          · rw [if_neg again,if_neg again]
            rfl
        · rw [if_neg recent,if_neg recent]
          rfl
    · rw [if_pos differs,if_neg pending,if_pos differs,if_neg pending]
      rfl
  · rw [if_neg differs,if_neg differs]
    rfl

theorem processSensorReading_aware : (processSensorReading stored spaceId window row call).toOption =
    Display.processSensorReading spaceId window row call := by
  unfold processSensorReading Display.processSensorReading
  cases getDebounceState spaceId row with
  | none => rfl
  | some d =>
    have same := observe_aware d window call.state call.now
    dsimp only [Option.bind_eq_bind,Option.bind_some]
    rw [← same]
    cases observe d window call.state (stored call.now) with
    | error raised => rfl
    | ok result =>
      obtain ⟨d,stateChanged⟩ := result
      cases stateChanged with
      | true => rfl
      | false => rfl

-- No refresh token that is found can be checked, no reservation that is loaded can
-- be scheduled, and a reading can be compared unless it has the pending state.
theorem comparisons_hold (t : Auth.Table) (a : Args) (now : Instant) (newToken : String) (moments : Reservation → Instant)
    (reservations : List Reservation) (tasks : List ScheduledTask) (spaceId : String) (window : Int) (row : Option Row)
    (call : SensorCall) :
    ((∃ result, validateAndRotate utcnow t a now newToken = .ok result) ↔ t.find a.hash = none) ∧
    ((loadReservations (fun r => utcnow (moments r)) reservations tasks).2 = [] ↔
      ∀ first ∈ reservations.head?, first.metadata ≠ none) ∧
    ((∀ raised, processSensorReading utcnow spaceId window row call ≠ .error (.typeError raised)) ↔
      compared spaceId row call.state = false) :=
  ⟨validateAndRotate_naive,loadReservations_quiet moments reservations tasks,processSensorReading_naive⟩

def booked : Reservation where
  id := 1
  spaceId := 7
  startTime := 3600000000
  endTime := 7200000000
  userEmail := none
  userPhone := none
  status := .confirmed
  metadata := none
  createdAt := 0
  updatedAt := 0
  requestId := 1001
  tenantId := 1
  validTimes := by decide
  validDuration := by decide

def occupied : SensorCall := ⟨.occupied,second,second,⟨"OCCUPIED","FF0000",false,5,"sensor"⟩⟩

theorem comparisons_fail :
    (Auth.Table.insert .empty "user-1" (hashToken "token-1") {} 0).1.find (hashToken "token-1") ≠ none ∧
    validateAndRotate utcnow (Auth.Table.insert .empty "user-1" (hashToken "token-1") {} 0).1 ⟨"token-1",{}⟩ 0 "token-2" =
      .error .compare ∧
    loadReservations (fun _ => utcnow 0) [booked] [] = ([],[.compare]) ∧
    processSensorReading utcnow "A-007" 10
      (some {spaceId := "A-007",lastSensorState := some "vacant",pendingSensorState := some "occupied",
             pendingSince := some 0,pendingCount := some 1}) occupied = .error (.typeError .subtract) := by
  have found : (Auth.Table.insert .empty "user-1" (hashToken "token-1") {} 0).1.find (hashToken "token-1") ≠ none := by
    decide +kernel
  obtain ⟨r,row⟩ := Option.ne_none_iff_exists'.mp found
  exact ⟨found,validateAndRotate_found row,by decide +kernel,by decide +kernel⟩

end Comparisons

end SmartParking.Database.Clocks
