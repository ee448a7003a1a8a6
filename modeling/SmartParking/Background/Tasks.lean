import SmartParking.Background.Manager

namespace SmartParking.Background
open Lib
open Spaces (SpaceState Call)
open Reservations (Uuid Instant Reservation)

-- What of a reservation no statement changes.
structure Booking where
  id : Uuid
  spaceId : Uuid
  startTime : Instant
  endTime : Instant
  deriving DecidableEq

def bookingOf (r : Reservation) : Booking := ⟨r.id,r.spaceId,r.startTime,r.endTime⟩

def bookings (t : Reservations.Table) : List Booking := t.rows.map bookingOf

-- The pending and confirmed ones.
def blocking (t : Reservations.Table) : List Booking := (t.rows.filter (·.status.blocks)).map bookingOf

def Booking.time (b : Booking) : TaskAction → Instant
  | .start => b.startTime
  | .finish => b.endTime

def Booking.entry (b : Booking) (action : TaskAction) (phase : Phase) : ScheduledTask :=
  ⟨action,b.id,b.spaceId,b.time action,phase⟩

section
variable {t : Reservations.Table} {a b : Booking}

theorem mem_blocking : b ∈ blocking t ↔ ∃ r ∈ t.rows, r.status.blocks = true ∧ bookingOf r = b := by
  simp [blocking,and_assoc]

theorem blocking_bookings (member : b ∈ blocking t) : b ∈ bookings t := by
  obtain ⟨r,stored,_,rfl⟩ := mem_blocking.mp member
  exact List.mem_map_of_mem stored

theorem bookings_valid (member : b ∈ bookings t) : b.startTime < b.endTime := by
  obtain ⟨r,_,rfl⟩ := List.mem_map.mp member
  exact r.validTimes

theorem bookings_key (one : a ∈ bookings t) (two : b ∈ bookings t) (same : a.id = b.id) : a = b := by
  obtain ⟨r,first,rfl⟩ := List.mem_map.mp one
  obtain ⟨r',second,rfl⟩ := List.mem_map.mp two
  rw [List.inj_on_of_nodup_map t.primaryKey first second same]

-- The exclusion constraint, read as an order in time.
theorem blocking_apart (one : a ∈ blocking t) (two : b ∈ blocking t) (space : a.spaceId = b.spaceId) (different : a ≠ b) :
    a.endTime ≤ b.startTime ∨ b.endTime ≤ a.startTime := by
  obtain ⟨r,first,blocks,rfl⟩ := mem_blocking.mp one
  obtain ⟨r',second,blocks',rfl⟩ := mem_blocking.mp two
  have apart : r.clashes r' = false := by
    refine t.noOverlap.forall first second ?_
    rintro rfl
    exact different rfl
  have same : r.spaceId = r'.spaceId := space
  simp only [Reservation.clashes,Reservation.overlaps,Reservations.rangesOverlap,blocks,blocks',same,beq_self_eq_true,
    Bool.true_and,Bool.and_eq_false_iff,decide_eq_false_iff_not,Int.not_lt] at apart
  exact apart.symm

end

@[simp] theorem retireIf_booking (r : Reservation) :
    bookingOf (r.retireIf select status metadata now) = bookingOf r := by
  unfold Reservation.retireIf
  split <;> rfl

-- The row that a request to create stores.
inductive Created (s : State) (b : Booking) : Action → Prop where
  | mk (r : Reservations.ReservationCreate) (requestId : Uuid) (tenantId : Option Uuid) (g : Reservations.Generated)
      (report : Reservations.Violation) : stores s r requestId tenantId g report = true →
      b.startTime = r.reservedFrom → b.endTime = r.reservedUntil →
      (∀ other ∈ bookings s.table, other.id ≠ b.id) → Created s b (.create r requestId tenantId g report)

theorem step_bookings (ran : step s action = some next) (member : b ∈ bookings s.table) : b ∈ bookings next.table := by
  unfold bookings at member ⊢
  cases step_table ran with
  | same same => rwa [same]
  | closed select status metadata _ rows _ => simpa [rows,Function.comp_def] using member
  | created r requestId tenantId g report row _ _ _ _ _ _ rows =>
    rw [rows,List.map_append]
    exact List.mem_append_left _ member

theorem created_booking {row : Reservation} (stored : stores s r requestId tenantId g report = true)
    (started : row.startTime = r.reservedFrom) (ended : row.endTime = r.reservedUntil)
    (fresh : row.id ∉ s.table.rows.map (·.id)) :
    Created s (bookingOf row) (.create r requestId tenantId g report) := by
  refine .mk r requestId tenantId g report stored started ended ?_
  intro other member same
  obtain ⟨old,kept,rfl⟩ := List.mem_map.mp member
  exact fresh (List.mem_map.mpr ⟨old,kept,same⟩)

-- Nothing that was closed is pending or confirmed again.
theorem step_new_blocking (ran : step s action = some next) (member : b ∈ blocking next.table) :
    b ∈ blocking s.table ∨ Created s b action := by
  obtain ⟨r,stored,blocks,rfl⟩ := mem_blocking.mp member
  cases step_table ran with
  | same same => exact .inl (same ▸ member)
  | closed select status metadata shut rows _ =>
    left
    rw [rows] at stored
    obtain ⟨old,kept,rfl⟩ := List.mem_map.mp stored
    rw [retireIf_booking]
    refine mem_blocking.mpr ⟨old,kept,?_,rfl⟩
    rcases Reservations.retireIf_status select status metadata s.clock old with same | set
    · rwa [same] at blocks
    · rw [set,shut] at blocks
      cases blocks
  | created r' requestId tenantId g report row asked accepted started ended _ fresh rows =>
    rw [rows,List.mem_append,List.mem_singleton] at stored
    rcases stored with old | rfl
    · exact .inl (mem_blocking.mpr ⟨r,old,blocks,rfl⟩)
    · exact .inr (asked ▸ created_booking accepted started ended fresh)

theorem step_blocking (ran : step s action = some next) (member : b ∈ blocking s.table) :
    b ∈ blocking next.table ∨ ∃ r, bookingOf r = b ∧ Closer s action r := by
  obtain ⟨r,stored,blocks,rfl⟩ := mem_blocking.mp member
  cases step_table ran with
  | same same => exact .inl (same ▸ member)
  | closed select status metadata _ rows closes =>
    by_cases selected : select r = true
    · exact .inr ⟨r,rfl,closes r selected⟩
    · left
      refine mem_blocking.mpr ⟨r,?_,blocks,rfl⟩
      rw [rows]
      exact List.mem_map.mpr ⟨r,stored,by simp [Reservation.retireIf,selected]⟩
  | created r' requestId tenantId g report row _ _ _ _ _ _ rows =>
    left
    refine mem_blocking.mpr ⟨r,?_,blocks,rfl⟩
    rw [rows]
    exact List.mem_append_left _ stored

theorem step_clock (ran : step s action = some next) : s.clock ≤ next.clock := by
  cases step_sound ran with
  | tick now later => exact later
  | wake =>
    unfold wake
    dsimp only
    split <;> exact le_rfl
  | release =>
    unfold release
    dsimp only
    split <;> exact le_rfl
  | create =>
    unfold create
    split <;> exact le_rfl
  | start | stop | expire | sweep | cancel | uplink | lock | writeSpaces => exact le_rfl

-- Who takes an entry out: its own coroutine, at its end.
inductive Leaves (s : State) (task : ScheduledTask) : Action → Prop where
  | started (call : Call) : task.action = .start → task.phase = .sleeping → task.scheduledTime ≤ s.clock →
      Leaves s task (.wake task call)
  | ended : task.phase = .expiring → Leaves s task (.expire task)

inductive TasksChange (s : State) (action : Action) (next : State) : Prop where
  | same : next.tasks = s.tasks → next.running = s.running → TasksChange s action next
  | loaded : action = .start → s.running = false → next.running = true → next.clock = s.clock →
      next.tasks = loadReservations s.clock (activeReservations s.table s.clock) s.tasks → TasksChange s action next
  | cleared : action = .stop → next.running = false → next.tasks = [] → TasksChange s action next
  | moved (task : ScheduledTask) (call : Call) (phase : Phase) : action = .wake task call → task ∈ s.tasks →
      task.phase = .sleeping → task.scheduledTime ≤ s.clock → phase ≠ .sleeping →
      (phase = .expiring → task.action = .finish) → next.tasks = (s.setPhase task phase).tasks →
      next.running = s.running → TasksChange s action next
  | removed (task : ScheduledTask) : task ∈ s.tasks → Leaves s task action →
      next.tasks = (s.remove task).tasks → next.running = s.running → TasksChange s action next

theorem wake_tasks (s : State) (task : ScheduledTask) (call : Call) (member : task ∈ s.tasks)
    (asleep : task.phase = .sleeping) (due : task.scheduledTime ≤ s.clock) :
    TasksChange s (.wake task call) (wake s task call) := by
  unfold wake
  dsimp only
  split
  · exact .moved task call .failed rfl member asleep due (by decide) (by simp) rfl rfl
  · exact .removed task member (.started call ‹_› asleep due) rfl rfl
  · exact .moved task call .failed rfl member asleep due (by decide) (by simp) rfl rfl
  · exact .moved task call .expiring rfl member asleep due (by decide) (fun _ => ‹_›) rfl rfl

theorem step_tasks (ran : step s action = some next) : TasksChange s action next := by
  cases step_sound ran with
  | start stopped => exact .loaded rfl stopped rfl rfl rfl
  | stop => exact .cleared rfl rfl rfl
  | wake task call entered asleep due => exact wake_tasks s task call entered asleep due
  | expire task entered expiring => exact .removed task entered (.ended expiring) rfl rfl
  | release =>
    unfold release
    dsimp only
    split <;> exact .same rfl rfl
  | create =>
    unfold create
    split <;> exact .same rfl rfl
  | tick | sweep | cancel | uplink | lock | writeSpaces => exact .same rfl rfl

theorem mem_put : entry ∈ put tasks task ↔ entry ∈ tasks ∧ entry.taskId ≠ task.taskId ∨ entry = task := by
  simp [put]

theorem put_keys (distinct : (tasks.map ScheduledTask.taskId).Nodup) (task : ScheduledTask) :
    ((put tasks task).map ScheduledTask.taskId).Nodup := by
  rw [put,List.map_append]
  refine Reservations.nodup_append_one (distinct.sublist (List.filter_sublist.map _)) ?_
  intro taken
  obtain ⟨other,kept,same⟩ := List.mem_map.mp taken
  simp [same] at kept

theorem mem_scheduleReservation (member : task ∈ scheduleReservation now tasks r) :
    task ∈ tasks ∨ now < (bookingOf r).time task.action ∧ task = (bookingOf r).entry task.action .sleeping := by
  unfold scheduleReservation at member
  dsimp only at member
  split at member <;> split at member
  · rcases mem_put.mp member with earlier | rfl
    · rcases mem_put.mp earlier.1 with old | rfl
      · exact .inl old.1
      · exact .inr ⟨‹_›,rfl⟩
    · exact .inr ⟨‹_›,rfl⟩
  · rcases mem_put.mp member with old | rfl
    · exact .inl old.1
    · exact .inr ⟨‹_›,rfl⟩
  · rcases mem_put.mp member with old | rfl
    · exact .inl old.1
    · exact .inr ⟨‹_›,rfl⟩
  · exact .inl member

theorem scheduleReservation_keys (now : Instant) (distinct : (tasks.map ScheduledTask.taskId).Nodup) (r : Reservation) :
    ((scheduleReservation now tasks r).map ScheduledTask.taskId).Nodup := by
  unfold scheduleReservation
  dsimp only
  split <;> split
  · exact put_keys (put_keys distinct _) _
  · exact put_keys distinct _
  · exact put_keys distinct _
  · exact distinct

theorem mem_loadReservations (member : task ∈ loadReservations now rows tasks) :
    task ∈ tasks ∨ ∃ r ∈ rows, r.metadata = none ∧ now < (bookingOf r).time task.action ∧
      task = (bookingOf r).entry task.action .sleeping := by
  fun_induction loadReservations with
  | case1 tasks => exact .inl member
  | case2 => exact .inl member
  | case3 r rest tasks bare ih =>
    rcases ih member with scheduled | ⟨other,listed,found⟩
    · rcases mem_scheduleReservation scheduled with old | found
      · exact .inl old
      · exact .inr ⟨r,List.mem_cons_self,bare,found⟩
    · exact .inr ⟨other,List.mem_cons_of_mem _ listed,found⟩

theorem loadReservations_keys (now : Instant) (rows : List Reservation)
    (distinct : (tasks.map ScheduledTask.taskId).Nodup) :
    ((loadReservations now rows tasks).map ScheduledTask.taskId).Nodup := by
  fun_induction loadReservations with
  | case1 => exact distinct
  | case2 => exact distinct
  | case3 r rest tasks bare ih => exact ih (scheduleReservation_keys now distinct r)

theorem mem_activeReservations : r ∈ activeReservations t now ↔
    r ∈ t.rows ∧ r.status.blocks = true ∧ now < r.endTime := by
  simp [activeReservations]

-- Where an entry comes from: it stood there, its coroutine has gone on, or it
-- was loaded for a reservation that is pending or confirmed.
theorem step_entry (ran : step s action = some next) (member : task ∈ next.tasks) :
    task ∈ s.tasks ∨
    (∃ old ∈ s.tasks, task = {old with phase := task.phase} ∧ task.phase ≠ .sleeping ∧
      (task.phase = .expiring → task.action = .finish) ∧ old.scheduledTime ≤ s.clock) ∨
    (action = .start ∧ ∃ b ∈ blocking s.table, s.clock < b.time task.action ∧ task = b.entry task.action .sleeping) := by
  cases step_tasks ran with
  | same same _ => exact .inl (same ▸ member)
  | loaded starting _ _ _ loaded =>
    rw [loaded] at member
    rcases mem_loadReservations member with old | ⟨r,listed,_,found⟩
    · exact .inl old
    · obtain ⟨stored,blocks,_⟩ := mem_activeReservations.mp listed
      exact .inr (.inr ⟨starting,_,mem_blocking.mpr ⟨r,stored,blocks,rfl⟩,found⟩)
  | cleared _ _ none => simp [none] at member
  | moved woken call phase _ _ _ due awake ending tasks _ =>
    rw [tasks] at member
    obtain ⟨old,kept,rfl⟩ := List.mem_map.mp member
    split
    · subst old
      exact .inr (.inl ⟨woken,kept,rfl,awake,ending,due⟩)
    · exact .inl kept
  | removed _ _ _ tasks _ =>
    rw [tasks] at member
    exact .inl (List.mem_filter.mp member).1

theorem mem_expired : key ∈ expired t now ↔ ∃ b ∈ blocking t, b.id = key ∧ b.endTime < now := by
  simp only [expired,List.mem_map,List.mem_filter,Bool.and_eq_true,decide_eq_true_eq,mem_blocking]
  constructor
  · rintro ⟨r,⟨stored,blocks,passed⟩,rfl⟩
    exact ⟨_,⟨r,stored,blocks,rfl⟩,rfl,passed⟩
  · rintro ⟨_,⟨r,stored,blocks,rfl⟩,rfl,passed⟩
    exact ⟨r,⟨stored,blocks,passed⟩,rfl⟩

theorem release_sweep (s : State) (key : Uuid) (call : Call) : (release s key call).sweep = s.sweep.erase key := by
  unfold release
  dsimp only
  split <;> rfl

theorem step_sweep (ran : step s action = some next) (member : key ∈ next.sweep) :
    key ∈ s.sweep ∨ ∃ b ∈ blocking s.table, b.id = key ∧ b.endTime < s.clock := by
  cases step_sound ran with
  | stop => cases member
  | sweep => exact .inr (mem_expired.mp member)
  | wake =>
    unfold wake at member
    dsimp only at member
    split at member <;> exact .inl member
  | release =>
    rw [release_sweep] at member
    exact .inl (List.mem_of_mem_erase member)
  | create =>
    unfold create at member
    split at member <;> exact .inl member
  | tick | start | expire | cancel | uplink | lock | writeSpaces => exact .inl member

theorem setter_known (setter : Setter s action spaceId new) : ∃ space, s.spaces.getSpace spaceId = some space := by
  cases setter with
  | wake _ _ _ _ _ acts | release _ _ _ _ _ acts | uplink _ _ _ _ acts =>
    obtain ⟨_,space,found,_⟩ := Spaces.Store.changes_iff.mp acts
    exact ⟨space,found⟩

theorem reading_detected (read : reading p d = some (space,state)) : state = .free ∨ state = .occupied := by
  unfold reading at read
  split at read
  · cases read
  · obtain ⟨eui,_,sought⟩ := Option.bind_eq_some_iff.mp read
    exact (Uplink.Platform.asked_parts sought).2

theorem setter_new (setter : Setter s action spaceId new) : new = .reserved ∨ new = .free ∨
    new = .occupied ∧ ∃ d space, action = .uplink d ∧ reading s.platform d = some (space,.occupied) ∧
      space.id = spaceId := by
  cases setter with
  | wake task =>
    cases task.action with
    | start => exact .inl rfl
    | finish => exact .inr (.inl rfl)
  | release => exact .inr (.inl rfl)
  | uplink d space _ read =>
    rcases reading_detected read with rfl | rfl
    · exact .inr (.inl rfl)
    · exact .inr (.inr ⟨rfl,d,space,rfl,read,rfl⟩)

theorem step_state (ran : step s action = some next) (spaceId : String) :
    next.spaces.stateOf spaceId = s.spaces.stateOf spaceId ∨
    (∃ new, Setter s action spaceId new ∧ next.spaces.stateOf spaceId = some new) ∨
    ∃ spaces, action = .writeSpaces spaces := by
  cases step_spaces ran with
  | same same => exact .inl (by rw [same])
  | written spaces written => exact .inr (.inr ⟨spaces,written⟩)
  | set other new setter changed =>
    by_cases here : spaceId = other
    · subst other
      obtain ⟨space,found⟩ := setter_known setter
      refine .inr (.inl ⟨new,setter,?_⟩)
      rw [changed]
      exact Spaces.Table.setState_stateOf (by rw [Spaces.Table.getSpace_stateOf found]; rfl) new
    · exact .inl (by rw [changed,Spaces.Table.setState_stateOf_other here])

theorem step_stateOf (ran : step s action = some next) (spaceId : Uuid) :
    next.stateOf spaceId = s.stateOf spaceId ∨
    (∃ new, Setter s action (spaceKey spaceId) new ∧ next.stateOf spaceId = some new) ∨
    ∃ spaces, action = .writeSpaces spaces :=
  step_state ran (spaceKey spaceId)

-- What a step writes into the log.
inductive Logs (s next : State) : Action → Event → Prop where
  | started (task : ScheduledTask) (call : Call) (state : Option SpaceState) : task ∈ s.tasks →
      task.phase = .sleeping → task.scheduledTime ≤ s.clock → task.action = .start →
      (∀ found, state = some found → next.stateOf task.spaceId = some found) →
      Logs s next (.wake task call) (.started task.reservationId state)
  | reading (d : Uplink.Delivery) (space : Spaces.Space) (state : SpaceState) :
      reading s.platform d = some (space,state) → Logs s next (.uplink d) (.reading space.id state)
  | cancelled (b : Booking) (reason : Option String) : b ∈ bookings s.table →
      Logs s next (.cancel b.id reason) (.cancelled b.id s.clock)

inductive LogChange (s : State) (action : Action) (next : State) : Prop where
  | same : next.log = s.log → LogChange s action next
  | logged (event : Event) : Logs s next action event → next.log = event::s.log → LogChange s action next

theorem wake_log (s : State) (task : ScheduledTask) (call : Call) (member : task ∈ s.tasks)
    (asleep : task.phase = .sleeping) (due : task.scheduledTime ≤ s.clock) :
    LogChange s (.wake task call) (wake s task call) := by
  unfold wake
  dsimp only
  split
  · exact .logged _ (.started task call none member asleep due ‹_› fun _ found => absurd found (by simp)) rfl
  · exact .logged _ (.started task call _ member asleep due ‹_› fun _ found => found) rfl
  · exact .same rfl
  · exact .same rfl

theorem step_log (ran : step s action = some next) : LogChange s action next := by
  cases step_sound ran with
  | wake task call entered asleep due => exact wake_log s task call entered asleep due
  | release =>
    unfold release
    dsimp only
    split <;> exact .same rfl
  | create =>
    unfold create
    split <;> exact .same rfl
  | cancel key reason =>
    unfold cancel
    split
    · rename_i found
      obtain ⟨r,stored,same⟩ := List.any_eq_true.mp found
      cases of_decide_eq_true same
      exact .logged _ (.cancelled (bookingOf r) reason (List.mem_map_of_mem stored)) rfl
    · exact .same rfl
  | uplink d =>
    cases found : reading s.platform d with
    | none => exact .same (by simp [uplink,found])
    | some pair => exact .logged _ (.reading d pair.1 pair.2 found) (by simp [uplink,found])
  | tick | start | stop | expire | sweep | lock | writeSpaces => exact .same rfl

-- Every entry and every id left to release stands for a known reservation, and
-- no coroutine has gone on before its time.
structure Linked (known : Booking → Prop) (s : State) : Prop where
  keys : (s.tasks.map ScheduledTask.taskId).Nodup
  task : ∀ task ∈ s.tasks, ∃ b, known b ∧ task = b.entry task.action task.phase
  due : ∀ task ∈ s.tasks, task.phase ≠ .sleeping → task.scheduledTime ≤ s.clock
  ending : ∀ task ∈ s.tasks, task.phase = .expiring → task.action = .finish
  idle : s.running = false → s.tasks = []
  sweep : ∀ key ∈ s.sweep, ∃ b, known b ∧ b.id = key ∧ b.endTime < s.clock

theorem linked_fresh (known : Booking → Prop) (clock : Instant) (platform : Uplink.Platform)
    (table : Reservations.Table) : Linked known (.fresh clock platform table) :=
  ⟨List.nodup_nil,List.forall_mem_nil _,List.forall_mem_nil _,List.forall_mem_nil _,fun _ => rfl,List.forall_mem_nil _⟩

theorem Linked.imp (linked : Linked known s) (wider : ∀ b, known b → other b) : Linked other s where
  keys := linked.keys
  due := linked.due
  ending := linked.ending
  idle := linked.idle
  task entry member := by
    obtain ⟨b,listed,same⟩ := linked.task entry member
    exact ⟨b,wider b listed,same⟩
  sweep key member := by
    obtain ⟨b,listed,found⟩ := linked.sweep key member
    exact ⟨b,wider b listed,found⟩

theorem setPhase_keys (s : State) (task : ScheduledTask) (phase : Phase) :
    (s.setPhase task phase).tasks.map ScheduledTask.taskId = s.tasks.map ScheduledTask.taskId := by
  simp only [State.setPhase,List.map_map]
  refine List.map_congr_left fun other _ => ?_
  show (if other = task then {other with phase := phase} else other).taskId = other.taskId
  split <;> rfl

theorem entry_unique (linked : Linked known s) (one : task ∈ s.tasks) (two : other ∈ s.tasks)
    (same : task.taskId = other.taskId) : task = other :=
  List.inj_on_of_nodup_map linked.keys one two same

-- The entry of a reservation has its space and its times.
theorem linked_entry (linked : Linked known s) (key : ∀ {a b}, known a → known b → a.id = b.id → a = b)
    (entered : task ∈ s.tasks) (stored : known b) (named : task.reservationId = b.id) :
    task = b.entry task.action task.phase := by
  obtain ⟨a,listed,same⟩ := linked.task task entered
  have equal : a = b := key listed stored ((congrArg ScheduledTask.reservationId same).symm.trans named)
  rwa [equal] at same

theorem linked_running (linked : Linked known s) (entered : task ∈ s.tasks) : s.running = true := by
  by_contra stopped
  rw [linked.idle (by simpa using stopped)] at entered
  cases entered

-- An entry that sleeps stays until it wakes or the manager stops.
theorem step_sleeping (linked : Linked known s) (ran : step s action = some next) (member : task ∈ s.tasks)
    (asleep : task.phase = .sleeping) :
    task ∈ next.tasks ∨ action = .stop ∨ ∃ call, action = .wake task call := by
  cases step_tasks ran with
  | same same _ => exact .inl (same ▸ member)
  | loaded _ stopped =>
    rw [linked.idle stopped] at member
    cases member
  | cleared stopping => exact .inr (.inl stopping)
  | moved woken call phase woke _ _ _ _ _ tasks _ =>
    by_cases same : task = woken
    · exact .inr (.inr ⟨call,same ▸ woke⟩)
    · left
      rw [tasks]
      exact List.mem_map.mpr ⟨task,member,if_neg same⟩
  | removed gone entered leaves tasks _ =>
    by_cases same : task.taskId = gone.taskId
    · cases entry_unique linked member entered same
      cases leaves with
      | started call => exact .inr (.inr ⟨call,rfl⟩)
      | ended expiring => rw [asleep] at expiring; cases expiring
    · left
      rw [tasks]
      exact List.mem_filter.mpr ⟨member,decide_eq_true same⟩

theorem linked_preserved (linked : Linked known s) (live : ∀ b ∈ blocking s.table, known b)
    (ran : step s action = some next) : Linked known next where
  keys := by
    cases step_tasks ran with
    | same same _ => rw [same]; exact linked.keys
    | loaded _ _ _ _ loaded => rw [loaded]; exact loadReservations_keys _ _ linked.keys
    | cleared _ _ none => rw [none]; exact List.nodup_nil
    | moved _ _ _ _ _ _ _ _ _ tasks _ => rw [tasks,setPhase_keys]; exact linked.keys
    | removed _ _ _ tasks _ => rw [tasks]; exact linked.keys.sublist (List.filter_sublist.map _)
  task entry member := by
    rcases step_entry ran member with kept | ⟨old,kept,moved,_⟩ | ⟨_,b,listed,_,loaded⟩
    · exact linked.task entry kept
    · obtain ⟨b,listed,same⟩ := linked.task old kept
      rw [moved]
      exact ⟨b,listed,by rw [same]; rfl⟩
    · exact ⟨b,live b listed,loaded ▸ rfl⟩
  due entry member awake := by
    have later := step_clock ran
    rcases step_entry ran member with kept | ⟨old,_,moved,_,_,due⟩ | ⟨_,b,_,_,loaded⟩
    · exact (linked.due entry kept awake).trans later
    · rw [moved]
      exact due.trans later
    · rw [loaded] at awake
      exact absurd rfl awake
  ending entry member expiring := by
    rcases step_entry ran member with kept | ⟨_,_,_,_,ending,_⟩ | ⟨_,b,_,_,loaded⟩
    · exact linked.ending entry kept expiring
    · exact ending expiring
    · rw [loaded] at expiring
      cases expiring
  idle stopped := by
    cases step_tasks ran with
    | same same running => rw [same]; exact linked.idle (running ▸ stopped)
    | loaded _ _ running => rw [running] at stopped; cases stopped
    | cleared _ _ none => exact none
    | moved task _ _ _ member _ _ _ _ _ running =>
      rw [linked.idle (running ▸ stopped)] at member
      cases member
    | removed task member _ _ running =>
      rw [linked.idle (running ▸ stopped)] at member
      cases member
  sweep key member := by
    have later := step_clock ran
    rcases step_sweep ran member with kept | ⟨b,listed,same,passed⟩
    · obtain ⟨b,listed,same,passed⟩ := linked.sweep key kept
      exact ⟨b,listed,same,lt_of_lt_of_le passed later⟩
    · exact ⟨b,live b listed,same,lt_of_lt_of_le passed later⟩

theorem linked_bookings (linked : Linked (· ∈ bookings s.table) s) (ran : step s action = some next) :
    Linked (· ∈ bookings next.table) next :=
  (linked_preserved linked (fun _ => blocking_bookings) ran).imp fun _ => step_bookings ran

-- The end task and the expiry pass close a reservation that has ended, and only
-- the router another one.
theorem step_open (linked : Linked known s) (key : ∀ {a b}, known a → known b → a.id = b.id → a = b)
    (ran : step s action = some next) (stored : known b) (member : b ∈ blocking s.table) :
    b ∈ blocking next.table ∨ b.endTime ≤ s.clock ∨ ∃ reason, action = .cancel b.id reason := by
  rcases step_blocking ran member with kept | ⟨r,rfl,closer⟩
  · exact .inl kept
  · refine .inr ?_
    cases closer with
    | expire task entered expiring named =>
      have same := linked_entry linked key entered stored named.symm
      have due := linked.due task entered (by rw [expiring]; decide)
      rw [same,linked.ending task entered expiring] at due
      exact .inl due
    | sweep passed => exact .inl (le_of_lt passed)
    | cancel reason => exact .inr ⟨reason,rfl⟩

end SmartParking.Background
