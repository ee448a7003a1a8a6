import Mathlib.Data.List.Sort
import SmartParking.Lib.Runs
import SmartParking.Reservations.Machine
import SmartParking.Uplink.Replay

namespace SmartParking.Background
open Lib
open Spaces (SpaceState Store Call)
open Reservations (Uuid Instant Reservation ReservationCreate Generated Violation)
open Uplink (Platform Delivery)

-- The actions 'start' and 'end' of a scheduled task.
inductive TaskAction where
  | start | finish
  deriving DecidableEq

-- Where the coroutine behind an entry is: asleep until its time, between the
-- update of the space and the UPDATE of the reservation, or over after an
-- exception, which leaves the entry in the dictionary.
inductive Phase where
  | sleeping | expiring | failed
  deriving DecidableEq

structure ScheduledTask where
  action : TaskAction
  reservationId : Uuid
  spaceId : Uuid
  scheduledTime : Instant
  phase : Phase
  deriving DecidableEq

def ScheduledTask.taskId (task : ScheduledTask) : Uuid × TaskAction := (task.reservationId,task.action)

inductive Event where
  | started (reservationId : Uuid) (state : Option SpaceState)
  | reading (spaceId : String) (state : SpaceState)
  | cancelled (reservationId : Uuid) (at' : Instant)
  deriving DecidableEq

-- `sweep` has the ids that the running expiry pass has still to release, and is
-- empty between two passes. `swept` says that a pass has ended since the last
-- change. The log, newest first, is not read by the program.
structure State where
  clock : Instant
  platform : Platform
  table : Reservations.Table
  running : Bool
  tasks : List ScheduledTask
  sweep : List Uuid
  swept : Bool
  log : List Event

def spaceKey (spaceId : Uuid) : String := toString spaceId

def State.stateOf (s : State) (spaceId : Uuid) : Option SpaceState := s.platform.store.spaces.stateOf (spaceKey spaceId)

def State.fresh (clock : Instant) (platform : Platform) (table : Reservations.Table) : State :=
  ⟨clock,platform,table,false,[],[],false,[]⟩

-- `self.scheduled_tasks[task_id] = ...`
def put (tasks : List ScheduledTask) (task : ScheduledTask) : List ScheduledTask :=
  tasks.filter (fun other => other.taskId ≠ task.taskId) ++ [task]

-- The times are compared as instants, although `datetime.utcnow()` has no zone.
def scheduleReservation (now : Instant) (tasks : List ScheduledTask) (r : Reservation) : List ScheduledTask :=
  let tasks := if now < r.startTime then put tasks ⟨.start,r.id,r.spaceId,r.startTime,.sleeping⟩ else tasks
  if now < r.endTime then put tasks ⟨.finish,r.id,r.spaceId,r.endTime,.sleeping⟩ else tasks

-- The loop of `_load_active_reservations`. The driver returns JSONB as text, so
-- the model of a row with metadata does not validate, and the exception ends
-- the loop.
def loadReservations (now : Instant) : List Reservation → List ScheduledTask → List ScheduledTask
  | [],tasks => tasks
  | r::rest,tasks =>
    match r.metadata with
    | some _ => tasks
    | none => loadReservations now rest (scheduleReservation now tasks r)

def activeReservations (t : Reservations.Table) (now : Instant) : List Reservation :=
  (t.rows.filter fun r => r.status.blocks && decide (now < r.endTime)).insertionSort fun a b => a.startTime ≤ b.startTime

def expired (t : Reservations.Table) (now : Instant) : List Uuid :=
  (t.rows.filter fun r => r.status.blocks && decide (r.endTime < now)).map (·.id)

inductive Action where
  | tick (now : Instant)
  | start
  | stop
  | wake (task : ScheduledTask) (call : Call)
  | expire (task : ScheduledTask)
  | sweep
  | release (reservationId : Uuid) (call : Call)
  | create (r : ReservationCreate) (requestId : Uuid) (tenantId : Option Uuid) (g : Generated) (report : Violation)
  | cancel (reservationId : Uuid) (reason : Option String)
  | uplink (d : Delivery)
  | lock (key : String) (value : Option String)
  | writeSpaces (spaces : Spaces.Table)

def target : TaskAction → SpaceState
  | .start => .reserved
  | .finish => .free

def source : TaskAction → String
  | .start => "reservation_start"
  | .finish => "reservation_end"

def State.update (s : State) (spaceId : Uuid) (new : SpaceState) (source requestId : String) (call : Call) :
    State × Bool :=
  let updated := s.platform.store.updateSpaceState (spaceKey spaceId) new source {call with requestId := requestId}
  ({s with platform := {s.platform with store := updated.1},swept := false},updated.2.isOk)

def State.remove (s : State) (task : ScheduledTask) : State :=
  {s with tasks := s.tasks.filter fun other => other.taskId ≠ task.taskId}

def State.setPhase (s : State) (task : ScheduledTask) (phase : Phase) : State :=
  {s with tasks := s.tasks.map fun other => if other = task then {other with phase := phase} else other}

-- `_reservation_start_task` and `_reservation_end_task` once they are due, up to
-- the end of `update_space_state`.
def wake (s : State) (task : ScheduledTask) (call : Call) : State :=
  let updated := s.update task.spaceId (target task.action) (source task.action)
    ("bg_task_" ++ toString task.reservationId) call
  let s := updated.1
  match updated.2,task.action with
  | false,.start => {s.setPhase task .failed with log := .started task.reservationId none::s.log}
  | true,.start => {s.remove task with log := .started task.reservationId (s.stateOf task.spaceId)::s.log}
  | false,.finish => s.setPhase task .failed
  | true,.finish => s.setPhase task .expiring

-- Mark reservation as expired, then remove from scheduled tasks.
def expire (s : State) (task : ScheduledTask) : State :=
  {s.remove task with table := s.table.endReservation task.reservationId s.clock,swept := false}

def sweepOld (s : State) : State :=
  {s with table := s.table.expireOld s.clock,sweep := expired s.table s.clock,swept := (expired s.table s.clock).isEmpty}

-- Update space to FREE; an exception is logged and the loop goes on.
def release (s : State) (reservationId : Uuid) (call : Call) : State :=
  let rest := s.sweep.erase reservationId
  match s.table.rows.find? (·.id = reservationId) with
  | none => {s with sweep := rest,swept := rest.isEmpty}
  | some r =>
    let updated := s.update r.spaceId .free "reservation_expired" ("expiry_" ++ toString reservationId) call
    {updated.1 with sweep := rest,swept := rest.isEmpty}

def stores (s : State) (r : ReservationCreate) (requestId : Uuid) (tenantId : Option Uuid) (g : Generated)
    (report : Violation) : Bool :=
  (s.table.insert (r.columns requestId tenantId) {g with now := s.clock} report).isOk

-- The router of `create_reservation` stores the row and nothing else.
def create (s : State) (r : ReservationCreate) (requestId : Uuid) (tenantId : Option Uuid) (g : Generated)
    (report : Violation) : State :=
  match s.table.insert (r.columns requestId tenantId) {g with now := s.clock} report with
  | .ok (table,_) => {s with table := table,swept := false}
  | .error _ => s

-- The router of `cancel_reservation` updates the row and nothing else.
def cancel (s : State) (reservationId : Uuid) (reason : Option String) : State :=
  {s with
    table := s.table.cancel reservationId reason s.clock
    swept := false
    log := if s.table.rows.any (·.id = reservationId) then .cancelled reservationId s.clock::s.log else s.log}

-- The reading that an uplink brings for a space, and the space.
def reading (p : Platform) (d : Delivery) : Option (Spaces.Space × SpaceState) :=
  if d.webhook.devEui = "" then none else (Uplink.normalizeDeveui d.webhook.devEui).bind (p.asked · d)

def uplink (s : State) (d : Delivery) : State :=
  {s with
    platform := (s.platform.processUplink d).1
    swept := false
    log := ((reading s.platform d).map fun found => Event.reading found.1.id found.2).toList ++ s.log}

def step (s : State) : Action → Option State
  | .tick now => if s.clock ≤ now then some {s with clock := now} else none
  | .start =>
    if s.running then none
    else some {s with running := true,swept := false,
                      tasks := loadReservations s.clock (activeReservations s.table s.clock) s.tasks}
  | .stop => if s.running then some {s with running := false,tasks := [],sweep := [],swept := false} else none
  | .wake task call =>
    if task ∈ s.tasks ∧ task.phase = .sleeping ∧ task.scheduledTime ≤ s.clock then some (wake s task call) else none
  | .expire task => if task ∈ s.tasks ∧ task.phase = .expiring then some (expire s task) else none
  | .sweep => if s.running = true ∧ s.sweep = [] then some (sweepOld s) else none
  | .release reservationId call =>
    if reservationId ∈ s.sweep then some (release s reservationId call) else none
  | .create r requestId tenantId g report => some (create s r requestId tenantId g report)
  | .cancel reservationId reason => some (cancel s reservationId reason)
  | .uplink d => some (uplink s d)
  | .lock key value =>
    some {s with platform := {s.platform with
      store := {s.platform.store with locks := Function.update s.platform.store.locks key value}}}
  | .writeSpaces spaces =>
    some {s with platform := {s.platform with store := {s.platform.store with spaces := spaces}},swept := false}

-- What each action needs and does.
inductive Stepped (s : State) : Action → State → Prop where
  | tick (now : Instant) : s.clock ≤ now → Stepped s (.tick now) {s with clock := now}
  | start : s.running = false → Stepped s .start
      {s with running := true,swept := false,
              tasks := loadReservations s.clock (activeReservations s.table s.clock) s.tasks}
  | stop : s.running = true → Stepped s .stop {s with running := false,tasks := [],sweep := [],swept := false}
  | wake (task : ScheduledTask) (call : Call) : task ∈ s.tasks → task.phase = .sleeping →
      task.scheduledTime ≤ s.clock → Stepped s (.wake task call) (wake s task call)
  | expire (task : ScheduledTask) : task ∈ s.tasks → task.phase = .expiring → Stepped s (.expire task) (expire s task)
  | sweep : s.running = true → s.sweep = [] → Stepped s .sweep (sweepOld s)
  | release (reservationId : Uuid) (call : Call) : reservationId ∈ s.sweep →
      Stepped s (.release reservationId call) (release s reservationId call)
  | create (r : ReservationCreate) (requestId : Uuid) (tenantId : Option Uuid) (g : Generated) (report : Violation) :
      Stepped s (.create r requestId tenantId g report) (create s r requestId tenantId g report)
  | cancel (reservationId : Uuid) (reason : Option String) :
      Stepped s (.cancel reservationId reason) (cancel s reservationId reason)
  | uplink (d : Delivery) : Stepped s (.uplink d) (uplink s d)
  | lock (key : String) (value : Option String) : Stepped s (.lock key value)
      {s with platform := {s.platform with
        store := {s.platform.store with locks := Function.update s.platform.store.locks key value}}}
  | writeSpaces (spaces : Spaces.Table) : Stepped s (.writeSpaces spaces)
      {s with platform := {s.platform with store := {s.platform.store with spaces := spaces}},swept := false}

theorem step_sound (ran : step s action = some next) : Stepped s action next := by
  cases action with
  | tick now =>
    simp only [step] at ran
    split at ran <;> cases ran
    exact .tick now ‹_›
  | start =>
    simp only [step] at ran
    split at ran <;> cases ran
    exact .start (by simpa using ‹¬s.running = true›)
  | stop =>
    simp only [step] at ran
    split at ran <;> cases ran
    exact .stop ‹_›
  | wake task call =>
    simp only [step] at ran
    split at ran <;> cases ran
    rename_i ready
    exact .wake task call ready.1 ready.2.1 ready.2.2
  | expire task =>
    simp only [step] at ran
    split at ran <;> cases ran
    rename_i ready
    exact .expire task ready.1 ready.2
  | sweep =>
    simp only [step] at ran
    split at ran <;> cases ran
    rename_i ready
    exact .sweep ready.1 ready.2
  | release reservationId call =>
    simp only [step] at ran
    split at ran <;> cases ran
    exact .release reservationId call ‹_›
  | create r requestId tenantId g report => cases ran; exact .create r requestId tenantId g report
  | cancel reservationId reason => cases ran; exact .cancel reservationId reason
  | uplink d => cases ran; exact .uplink d
  | lock key value => cases ran; exact .lock key value
  | writeSpaces spaces => cases ran; exact .writeSpaces spaces

def State.spaces (s : State) : Spaces.Table := s.platform.store.spaces

def State.changes (s : State) (spaceId : String) (new : SpaceState) (source : String) (call : Call) : Bool :=
  s.platform.store.changes spaceId new source call

theorem update_spaces (s : State) (spaceId : Uuid) (new : SpaceState) (source requestId : String) (call : Call) :
    (s.update spaceId new source requestId call).1.spaces =
      if s.changes (spaceKey spaceId) new source call then s.spaces.setState (spaceKey spaceId) new else s.spaces :=
  Store.updateSpaceState_spaces ..

theorem wake_spaces (s : State) (task : ScheduledTask) (call : Call) : (wake s task call).spaces =
    (s.update task.spaceId (target task.action) (source task.action) ("bg_task_" ++ toString task.reservationId)
      call).1.spaces := by
  unfold wake
  dsimp only
  split <;> rfl

theorem uplink_spaces (s : State) (d : Delivery) : (uplink s d).spaces =
    match reading s.platform d with
    | none => s.spaces
    | some (space,state) => if s.changes space.id state "sensor_uplink" d.call then s.spaces.setState space.id state
      else s.spaces := by
  unfold reading
  by_cases unnamed : d.webhook.devEui = ""
  · simp [uplink,State.spaces,Platform.processUplink,unnamed]
  · cases normal : Uplink.normalizeDeveui d.webhook.devEui with
    | none => simp [uplink,State.spaces,Platform.processUplink,unnamed,normal]
    | some deviceEui =>
      simp only [unnamed,if_false,Option.bind_some]
      show (s.platform.processUplink d).1.store.spaces = _
      rw [Platform.processUplink_store s.platform d unnamed normal]
      cases s.platform.asked deviceEui d with
      | none => rfl
      | some found => exact Store.updateSpaceState_spaces ..

-- Who sets the state of a space: a task, the expiry pass or a reading.
inductive Setter (s : State) : Action → String → SpaceState → Prop where
  | wake (task : ScheduledTask) (call : Call) : task ∈ s.tasks → task.phase = .sleeping →
      task.scheduledTime ≤ s.clock →
      s.changes (spaceKey task.spaceId) (target task.action) (source task.action) call = true →
      Setter s (.wake task call) (spaceKey task.spaceId) (target task.action)
  | release (reservationId : Uuid) (call : Call) (r : Reservation) : reservationId ∈ s.sweep →
      s.table.rows.find? (·.id = reservationId) = some r →
      s.changes (spaceKey r.spaceId) .free "reservation_expired" call = true →
      Setter s (.release reservationId call) (spaceKey r.spaceId) .free
  | uplink (d : Delivery) (space : Spaces.Space) (state : SpaceState) : reading s.platform d = some (space,state) →
      s.changes space.id state "sensor_uplink" d.call = true → Setter s (.uplink d) space.id state

inductive SpacesChange (s : State) (action : Action) (next : State) : Prop where
  | same : next.spaces = s.spaces → SpacesChange s action next
  | set (spaceId : String) (new : SpaceState) : Setter s action spaceId new →
      next.spaces = s.spaces.setState spaceId new → SpacesChange s action next
  | written (spaces : Spaces.Table) : action = .writeSpaces spaces → SpacesChange s action next

theorem create_spaces (s : State) (r : ReservationCreate) (requestId : Uuid) (tenantId : Option Uuid) (g : Generated)
    (report : Violation) : (create s r requestId tenantId g report).spaces = s.spaces := by
  unfold create
  split <;> rfl

theorem step_spaces (ran : step s action = some next) : SpacesChange s action next := by
  cases step_sound ran with
  | tick | start | stop | expire | sweep | cancel | lock => exact .same rfl
  | wake task call entered asleep due =>
    cases acts : s.changes (spaceKey task.spaceId) (target task.action) (source task.action) call with
    | false => exact .same (by rw [wake_spaces,update_spaces,acts]; rfl)
    | true => exact .set _ _ (.wake task call entered asleep due acts) (by rw [wake_spaces,update_spaces,acts]; rfl)
  | release reservationId call member =>
    unfold release
    cases found : s.table.rows.find? (·.id = reservationId) with
    | none => exact .same rfl
    | some r =>
      cases acts : s.changes (spaceKey r.spaceId) .free "reservation_expired" call with
      | false =>
        refine .same ?_
        show (s.update r.spaceId .free "reservation_expired" _ call).1.spaces = _
        rw [update_spaces,acts]
        rfl
      | true =>
        refine .set _ _ (.release reservationId call r member found acts) ?_
        show (s.update r.spaceId .free "reservation_expired" _ call).1.spaces = _
        rw [update_spaces,acts]
        rfl
  | create => exact .same (create_spaces ..)
  | uplink d =>
    cases found : reading s.platform d with
    | none => exact .same (by rw [uplink_spaces,found])
    | some sought =>
      obtain ⟨space,state⟩ := sought
      cases acts : s.changes space.id state "sensor_uplink" d.call with
      | false => exact .same (by rw [uplink_spaces,found]; simp [acts])
      | true => exact .set space.id state (.uplink d space state found acts) (by rw [uplink_spaces,found]; simp [acts])
  | writeSpaces spaces => exact .written spaces rfl

-- Who closes a reservation: its end task, the expiry pass or the router.
inductive Closer (s : State) : Action → Reservation → Prop where
  | expire (task : ScheduledTask) : task ∈ s.tasks → task.phase = .expiring → r.id = task.reservationId →
      Closer s (.expire task) r
  | sweep : r.endTime < s.clock → Closer s .sweep r
  | cancel (reason : Option String) : Closer s (.cancel r.id reason) r

inductive TableChange (s : State) (action : Action) (next : State) : Prop where
  | same : next.table = s.table → TableChange s action next
  | closed (select : Reservation → Bool) (status : Reservations.Status)
      (metadata : Option Reservations.Metadata → Option Reservations.Metadata) : status.blocks = false →
      next.table.rows = s.table.rows.map (Reservation.retireIf select status metadata s.clock) →
      (∀ r, select r = true → Closer s action r) → TableChange s action next
  | created (r : ReservationCreate) (requestId : Uuid) (tenantId : Option Uuid) (g : Generated) (report : Violation)
      (row : Reservation) : action = .create r requestId tenantId g report →
      stores s r requestId tenantId g report = true → row.startTime = r.reservedFrom →
      row.endTime = r.reservedUntil → row.status = .confirmed → row.id ∉ s.table.rows.map (·.id) →
      next.table.rows = s.table.rows ++ [row] → TableChange s action next

theorem wake_table (s : State) (task : ScheduledTask) (call : Call) : (wake s task call).table = s.table := by
  unfold wake
  dsimp only
  split <;> rfl

theorem release_table (s : State) (reservationId : Uuid) (call : Call) :
    (release s reservationId call).table = s.table := by
  unfold release
  dsimp only
  split <;> rfl

theorem create_table (s : State) (r : ReservationCreate) (requestId : Uuid) (tenantId : Option Uuid) (g : Generated)
    (report : Violation) :
    TableChange s (.create r requestId tenantId g report) (create s r requestId tenantId g report) := by
  unfold create
  cases inserted : s.table.insert (r.columns requestId tenantId) {g with now := s.clock} report with
  | error violation => exact .same rfl
  | ok result =>
    obtain ⟨table,row⟩ := result
    obtain ⟨tenant,validTimes,validDuration,_,same,free,rfl⟩ := Reservations.Table.insert_ok inserted
    refine .created r requestId tenantId g report row rfl ?_ ?_ ?_ ?_ (Reservations.Table.violated_nil free).1 rfl
    · rw [stores,inserted]; rfl
    · rw [same]; rfl
    · rw [same]; rfl
    · rw [same]; rfl

theorem step_table (ran : step s action = some next) : TableChange s action next := by
  cases step_sound ran with
  | tick | start | stop | uplink | lock | writeSpaces => exact .same rfl
  | wake => exact .same (wake_table ..)
  | expire task entered expiring =>
    refine .closed (fun r => r.id = task.reservationId ∧ r.status.blocks) .expired (fun old => old) rfl rfl ?_
    intro r selected
    exact .expire task entered expiring (by simpa using (of_decide_eq_true selected).1)
  | sweep =>
    refine .closed (fun r => r.status.blocks ∧ r.endTime < s.clock) .expired (fun old => old) rfl rfl ?_
    intro r selected
    exact .sweep (of_decide_eq_true selected).2
  | release => exact .same (release_table ..)
  | create => exact create_table ..
  | cancel reservationId reason =>
    refine .closed (·.id = reservationId) .cancelled _ rfl rfl ?_
    intro r selected
    cases of_decide_eq_true selected
    exact .cancel reason

-- One space with a sensor, for the runs below.
def lot : Spaces.Table where
  rows := [{id := "1",code := "A001",sensorEui := some "58A0CB0000112233",displayEui := none,state := .free,
            tenantId := none}]
  primaryKey := by decide
  sensorEui := by decide

def booking (key : Uuid) (startTime endTime : Instant) (validTimes : startTime < endTime)
    (validDuration : endTime-startTime ≤ Reservations.day) : Reservation :=
  {id := key,spaceId := 1,startTime := startTime,endTime := endTime,userEmail := none,userPhone := none,
   status := .confirmed,metadata := none,createdAt := 0,updatedAt := 0,requestId := key,tenantId := 0,
   validTimes := validTimes,validDuration := validDuration}

def oneBooking : Reservations.Table where
  rows := [booking 5 10 20 (by decide) (by decide)]
  primaryKey := by decide
  requestId := by decide
  tenantRequestId := by decide
  noOverlap := by decide

def twoBookings : Reservations.Table where
  rows := [booking 5 10 20 (by decide) (by decide),booking 6 20 30 (by decide) (by decide)]
  primaryKey := by decide
  requestId := by decide
  tenantRequestId := by decide
  noOverlap := by decide

def parking (table : Reservations.Table) : State := .fresh 0 (Platform.fresh lot [] [] [] []) table

def calling (now : Uplink.Time) : Call := ⟨"",now,"cmd",false⟩

def startTask (key : Uuid) (time : Instant) : ScheduledTask := ⟨.start,key,1,time,.sleeping⟩

def endTask (key : Uuid) (time : Instant) : ScheduledTask := ⟨.finish,key,1,time,.sleeping⟩

end SmartParking.Background
