import SmartParking.Background.Tasks

namespace SmartParking.Background
open Lib
open Spaces (SpaceState Call)
open Reservations (Uuid Instant Reservation)

def State.taskIds (s : State) : List (Uuid × TaskAction) := s.tasks.map ScheduledTask.taskId

-- The entries are those of the pending and confirmed reservations, as far as
-- their times are to come.
def Agrees (s : State) : Prop :=
  ∀ key action, (key,action) ∈ s.taskIds ↔ ∃ b ∈ blocking s.table, b.id = key ∧ s.clock < b.time action

-- The startup and the requests after which the entries are looked at.
def Action.checked : Action → Bool
  | .start | .create _ _ _ _ _ | .cancel _ _ => true
  | _ => false

-- No start task sets RESERVED for a reservation cancelled before its time.
def Spared (s : State) (action : Action) (next : State) : Prop :=
  ∀ task call, action = .wake task call → task.action = .start →
    ∀ b ∈ bookings s.table, b.id = task.reservationId → ∀ at', .cancelled b.id at' ∈ s.log → at' < b.startTime →
      s.stateOf task.spaceId ≠ some .reserved → next.stateOf task.spaceId ≠ some .reserved

def State.punctual (s : State) : Bool := ∀ task ∈ s.tasks, s.clock < task.scheduledTime

-- Startup meets no metadata. While the manager runs, no entry is overdue when a
-- request comes, a new reservation is over and a cancelled one is over or closed.
def inStep (s : State) : Action → Bool
  | .start => ∀ r ∈ activeReservations s.table s.clock, r.metadata = none
  | .create r requestId tenantId g report => s.running = true →
      s.punctual ∧ (stores s r requestId tenantId g report = true → r.reservedUntil ≤ s.clock)
  | .cancel key _ => s.running = true → s.punctual ∧ ∀ b ∈ blocking s.table, b.id = key → b.endTime ≤ s.clock
  | _ => true

theorem mem_put_taskIds : key ∈ (put tasks task).map ScheduledTask.taskId ↔
    key ∈ tasks.map ScheduledTask.taskId ∨ key = task.taskId := by
  simp only [List.mem_map,mem_put]
  constructor
  · rintro ⟨other,⟨kept,_⟩ | rfl,rfl⟩
    · exact .inl ⟨other,kept,rfl⟩
    · exact .inr rfl
  · rintro (⟨other,kept,rfl⟩ | rfl)
    · by_cases same : other.taskId = task.taskId
      · exact ⟨task,.inr rfl,same.symm⟩
      · exact ⟨other,.inl ⟨kept,same⟩,rfl⟩
    · exact ⟨task,.inr rfl,rfl⟩

theorem scheduleReservation_taskIds : key ∈ (scheduleReservation now tasks r).map ScheduledTask.taskId ↔
    key ∈ tasks.map ScheduledTask.taskId ∨ key.1 = r.id ∧ now < (bookingOf r).time key.2 := by
  obtain ⟨named,action⟩ := key
  unfold scheduleReservation
  dsimp only
  cases action <;> split <;> split <;>
    simp [mem_put_taskIds,ScheduledTask.taskId,Booking.time,bookingOf, *]

theorem loadReservations_taskIds (bare : ∀ r ∈ rows, r.metadata = none) :
    key ∈ (loadReservations now rows tasks).map ScheduledTask.taskId ↔
      key ∈ tasks.map ScheduledTask.taskId ∨ ∃ r ∈ rows, key.1 = r.id ∧ now < (bookingOf r).time key.2 := by
  fun_induction loadReservations with
  | case1 => simp
  | case2 r rest tasks metadata given =>
    rw [bare r List.mem_cons_self] at given
    cases given
  | case3 r rest tasks _ ih =>
    rw [ih fun other listed => bare other (List.mem_cons_of_mem _ listed),scheduleReservation_taskIds]
    simp [or_assoc]

theorem booking_time_le (member : b ∈ bookings t) (action : TaskAction) : b.time action ≤ b.endTime := by
  cases action with
  | start => exact (bookings_valid member).le
  | finish => exact le_rfl

theorem cancel_blocking {t : Reservations.Table} (member : b ∈ blocking (t.cancel key reason now)) : b.id ≠ key := by
  intro named
  obtain ⟨r,stored,blocks,rfl⟩ := mem_blocking.mp member
  obtain ⟨old,_,rfl⟩ := List.mem_map.mp stored
  have selected : old.id = key := by rwa [retireIf_booking] at named
  rw [Reservation.retireIf,if_pos (decide_eq_true selected)] at blocks
  cases blocks

structure Matching (s : State) : Prop where
  linked : Linked (· ∈ bookings s.table) s
  listed : s.running = true → ∀ b ∈ blocking s.table, ∀ action, s.clock < b.time action → (b.id,action) ∈ s.taskIds
  live : ∀ task ∈ s.tasks, s.clock < task.scheduledTime → ∃ b ∈ blocking s.table, task = b.entry task.action task.phase
  cancelled : ∀ key at', .cancelled key at' ∈ s.log → ∃ b ∈ bookings s.table, b.id = key ∧ b ∉ blocking s.table ∧
    (at' < b.startTime → (key,.start) ∉ s.taskIds)

theorem create_manager (s : State) (r : Reservations.ReservationCreate) (requestId : Uuid) (tenantId : Option Uuid)
    (g : Reservations.Generated) (report : Reservations.Violation) :
    (create s r requestId tenantId g report).tasks = s.tasks ∧
    (create s r requestId tenantId g report).running = s.running ∧
    (create s r requestId tenantId g report).clock = s.clock := by
  unfold create
  split <;> exact ⟨rfl,rfl,rfl⟩

theorem created_over (ran : step s action = some next) (met : inStep s action = true) (running : next.running = true)
    (created : Created s b action) : b.endTime ≤ s.clock := by
  cases created with
  | mk r requestId tenantId g report stored _ ended _ =>
    cases ran
    rw [(create_manager ..).2.1] at running
    rw [ended]
    exact (of_decide_eq_true met running).2 stored

theorem entry_waits (linked : Linked (· ∈ bookings s.table) s) (entered : task ∈ s.tasks) (stored : b ∈ bookings s.table)
    (named : task.taskId = (b.id,kind)) (early : s.clock < b.time kind) : s.clock < task.scheduledTime := by
  rw [linked_entry linked bookings_key entered stored (congrArg Prod.fst named),
    show task.action = kind from congrArg Prod.snd named]
  exact early

-- An entry of a running manager goes when it is due, and not before.
theorem listed_kept (matching : Matching s) (ran : step s action = some next) (running : next.running = true)
    (member : b ∈ bookings s.table) (early : s.clock < b.time kind) (listed : (b.id,kind) ∈ s.taskIds) :
    (b.id,kind) ∈ next.taskIds := by
  obtain ⟨task,entered,named⟩ := List.mem_map.mp listed
  have waits := entry_waits matching.linked entered member named early
  have asleep : task.phase = .sleeping := by
    by_contra awake
    exact absurd waits (not_lt.mpr (matching.linked.due task entered awake))
  rcases step_sleeping matching.linked ran entered asleep with kept | rfl | ⟨call,rfl⟩
  · exact List.mem_map.mpr ⟨task,kept,named⟩
  · cases step_sound ran
    cases running
  · cases step_sound ran with
    | wake _ _ _ _ due => exact absurd waits (not_lt.mpr due)

theorem listed_preserved (matching : Matching s) (met : inStep s action = true) (ran : step s action = some next)
    (running : next.running = true) (member : b ∈ blocking next.table) (early : next.clock < b.time kind) :
    (b.id,kind) ∈ next.taskIds := by
  have later := step_clock ran
  have before := lt_of_le_of_lt later early
  have ends := booking_time_le (blocking_bookings member) kind
  rcases step_new_blocking ran member with old | created
  · cases was : s.running with
    | true => exact listed_kept matching ran running (blocking_bookings old) before (matching.listed was b old kind before)
    | false =>
      cases step_tasks ran with
      | same _ same | moved _ _ _ _ _ _ _ _ _ _ same | removed _ _ _ _ same =>
        rw [same,was] at running
        cases running
      | cleared _ stopped => rw [stopped] at running; cases running
      | loaded starting _ _ _ loaded =>
        subst starting
        rw [State.taskIds,loaded,loadReservations_taskIds (of_decide_eq_true met)]
        obtain ⟨r,stored,blocks,rfl⟩ := mem_blocking.mp old
        exact .inr ⟨r,mem_activeReservations.mpr ⟨stored,blocks,lt_of_lt_of_le before ends⟩,rfl,before⟩
  · exact absurd (lt_of_lt_of_le before ends) (not_lt.mpr (created_over ran met running created))

-- A reservation that is still to end is closed by no step.
theorem blocking_kept (matching : Matching s) (met : inStep s action = true) (ran : step s action = some next)
    (running : s.running = true) (member : b ∈ blocking s.table) (early : s.clock < b.endTime) :
    b ∈ blocking next.table := by
  rcases step_open matching.linked bookings_key ran (blocking_bookings member) member with
    kept | passed | ⟨reason,rfl⟩
  · exact kept
  · exact absurd early (not_lt.mpr passed)
  · exact absurd early (not_lt.mpr ((of_decide_eq_true met running).2 b member rfl))

theorem live_preserved (matching : Matching s) (met : inStep s action = true) (ran : step s action = some next)
    (member : task ∈ next.tasks) (early : next.clock < task.scheduledTime) :
    ∃ b ∈ blocking next.table, task = b.entry task.action task.phase := by
  have before := lt_of_le_of_lt (step_clock ran) early
  rcases step_entry ran member with kept | ⟨old,_,moved,_,_,due⟩ | ⟨rfl,b,live,_,loaded⟩
  · obtain ⟨b,live,same⟩ := matching.live task kept before
    have running := linked_running matching.linked kept
    have ends := booking_time_le (blocking_bookings live) task.action
    have time : task.scheduledTime = b.time task.action := by rw [same]; rfl
    refine ⟨b,blocking_kept matching met ran running live ?_,same⟩
    exact lt_of_lt_of_le (time ▸ before) ends
  · rw [moved] at before
    exact absurd before (not_lt.mpr due)
  · rcases step_blocking ran live with kept | ⟨_,_,closer⟩
    · exact ⟨b,kept,loaded ▸ rfl⟩
    · cases closer

theorem cancelled_kept (ran : step s action = some next) (stored : b ∈ bookings s.table) (shut : b ∉ blocking s.table)
    (absent : (b.id,.start) ∉ s.taskIds) : (b.id,.start) ∉ next.taskIds := by
  intro listed
  obtain ⟨task,entered,named⟩ := List.mem_map.mp listed
  rcases step_entry ran entered with kept | ⟨old,kept,moved,_⟩ | ⟨_,a,live,_,loaded⟩
  · exact absent (List.mem_map.mpr ⟨task,kept,named⟩)
  · refine absent (List.mem_map.mpr ⟨old,kept,?_⟩)
    rw [← named,moved]
    rfl
  · have equal : a = b := by
      refine bookings_key (blocking_bookings live) stored ?_
      rw [show a.id = task.reservationId by rw [loaded]; rfl]
      exact congrArg Prod.fst named
    exact shut (equal ▸ live)

theorem closed_stays (ran : step s action = some next) (stored : b ∈ bookings s.table) (shut : b ∉ blocking s.table) :
    b ∉ blocking next.table := by
  intro live
  rcases step_new_blocking ran live with old | created
  · exact shut old
  · cases created with
    | mk _ _ _ _ _ _ _ _ fresh => exact fresh b stored rfl

theorem waiting_open (matching : Matching s) (entered : task ∈ s.tasks) (stored : b ∈ bookings s.table)
    (named : task.taskId = (b.id,kind)) (early : s.clock < b.time kind) : b ∈ blocking s.table := by
  obtain ⟨a,live,same⟩ := matching.live task entered (entry_waits matching.linked entered stored named early)
  have here : a = b := by
    refine bookings_key (blocking_bookings live) stored ?_
    exact (congrArg ScheduledTask.reservationId same).symm.trans (congrArg Prod.fst named)
  exact here ▸ live

theorem cancelled_preserved (matching : Matching s) (met : inStep s action = true) (ran : step s action = some next)
    (happened : .cancelled key at' ∈ next.log) : ∃ b ∈ bookings next.table, b.id = key ∧ b ∉ blocking next.table ∧
      (at' < b.startTime → (key,.start) ∉ next.taskIds) := by
  have known : .cancelled key at' ∈ s.log → ∃ b ∈ bookings next.table, b.id = key ∧ b ∉ blocking next.table ∧
      (at' < b.startTime → (key,.start) ∉ next.taskIds) := by
    intro old
    obtain ⟨b,stored,rfl,shut,absent⟩ := matching.cancelled key at' old
    exact ⟨b,step_bookings ran stored,rfl,closed_stays ran stored shut,
      fun early => cancelled_kept ran stored shut (absent early)⟩
  cases step_log ran with
  | same same => exact known (same ▸ happened)
  | logged event logs log =>
    rw [log,List.mem_cons] at happened
    rcases happened with newest | old
    · subst newest
      cases logs with
      | cancelled b reason stored =>
        have kept := step_bookings ran stored
        cases ran
        refine ⟨b,kept,rfl,fun live => cancel_blocking live rfl,?_⟩
        -- Its entry would be that of an open reservation, which the request spares.
        intro early listed
        obtain ⟨task,entered,named⟩ := List.mem_map.mp listed
        have entered : task ∈ s.tasks := entered
        have live := waiting_open matching entered stored named early
        have passed := (of_decide_eq_true met (linked_running matching.linked entered)).2 b live rfl
        exact absurd (early.trans (bookings_valid stored)) (not_lt.mpr passed)
    · exact known old

theorem matching_preserved (matching : Matching s) (met : inStep s action = true) (ran : step s action = some next) :
    Matching next where
  linked := linked_bookings matching.linked ran
  listed running _ member _ early := listed_preserved matching met ran running member early
  live _ member early := live_preserved matching met ran member early
  cancelled _ _ happened := cancelled_preserved matching met ran happened

theorem matching_fresh (clock : Instant) (platform : Uplink.Platform) (table : Reservations.Table) :
    Matching (.fresh clock platform table) := by
  refine ⟨linked_fresh _ clock platform table,?_,List.forall_mem_nil _,?_⟩
  · intro running
    cases running
  · intro key at' happened
    cases happened

theorem checked_punctual (matching : Matching s) (met : inStep s action = true) (ran : step s action = some next)
    (checked : action.checked = true) (running : next.running = true) (member : task ∈ next.tasks) :
    next.clock < task.scheduledTime := by
  cases action with
  | start =>
    cases step_sound ran with
    | start stopped =>
      rw [matching.linked.idle stopped] at member
      rcases mem_loadReservations member with old | ⟨r,_,_,early,same⟩
      · cases old
      · rw [same]
        exact early
  | create r requestId tenantId g report =>
    cases ran
    obtain ⟨tasks,same,clock⟩ := create_manager s r requestId tenantId g report
    rw [tasks] at member
    rw [same] at running
    rw [clock]
    exact of_decide_eq_true (of_decide_eq_true met running).1 task member
  | cancel key reason =>
    cases ran
    exact of_decide_eq_true (of_decide_eq_true met running).1 task member
  | _ => cases checked

theorem matching_agrees (matching : Matching s) (running : s.running = true) (punctual : s.punctual = true) : Agrees s := by
  intro key action
  constructor
  · intro listed
    obtain ⟨task,entered,named⟩ := List.mem_map.mp listed
    have early := of_decide_eq_true punctual task entered
    obtain ⟨b,live,same⟩ := matching.live task entered early
    rw [same] at named early
    cases named
    exact ⟨b,live,rfl,early⟩
  · rintro ⟨b,live,rfl,early⟩
    exact matching.listed running b live action early

theorem matching_spared (matching : Matching s) (ran : step s action = some next) : Spared s action next := by
  rintro task call rfl kind b stored named at' happened early before after
  obtain ⟨a,known,same,_,absent⟩ := matching.cancelled b.id at' happened
  cases bookings_key known stored same
  cases step_sound ran with
  | wake _ _ entered =>
    refine absent early (List.mem_map.mpr ⟨task,entered,?_⟩)
    rw [ScheduledTask.taskId,kind,named]

theorem agrees_punctual (linked : Linked (· ∈ bookings s.table) s) (agrees : Agrees s) : s.punctual = true := by
  refine decide_eq_true ?_
  intro task entered
  obtain ⟨b,live,named,early⟩ := (agrees task.reservationId task.action).mp (List.mem_map.mpr ⟨task,entered,rfl⟩)
  rw [linked_entry linked bookings_key entered (blocking_bookings live) named.symm]
  exact early

theorem stores_blocking (stored : stores s r requestId tenantId g report = true) :
    ∃ b ∈ blocking (create s r requestId tenantId g report).table, b.endTime = r.reservedUntil ∧
      ∀ other ∈ bookings s.table, other.id ≠ b.id := by
  unfold stores at stored
  unfold create
  cases inserted : s.table.insert (r.columns requestId tenantId) {g with now := s.clock} report with
  | error violation => rw [inserted] at stored; cases stored
  | ok result =>
    obtain ⟨table,row⟩ := result
    obtain ⟨tenant,validTimes,validDuration,_,same,free,rfl⟩ := Reservations.Table.insert_ok inserted
    refine ⟨bookingOf row,mem_blocking.mpr ⟨row,List.mem_append_right _ List.mem_cons_self,?_,rfl⟩,?_,?_⟩
    · rw [same]
      rfl
    · rw [same]
      rfl
    · intro other member named
      obtain ⟨old,kept,rfl⟩ := List.mem_map.mp member
      exact (Reservations.Table.violated_nil free).1 (List.mem_map.mpr ⟨old,kept,named⟩)

theorem loaded_bare (matching : Matching s) (ran : step s .start = some next) (agrees : Agrees next)
    (active : r ∈ activeReservations s.table s.clock) : r.metadata = none := by
  cases step_sound ran with
  | start stopped =>
    obtain ⟨stored,blocks,early⟩ := mem_activeReservations.mp active
    have listed := (agrees r.id .finish).mpr ⟨_,mem_blocking.mpr ⟨r,stored,blocks,rfl⟩,rfl,early⟩
    obtain ⟨task,entered,named⟩ := List.mem_map.mp listed
    rcases mem_loadReservations entered with old | ⟨r',active',bare,_,same⟩
    · rw [matching.linked.idle stopped] at old
      cases old
    · rw [same] at named
      cases List.inj_on_of_nodup_map s.table.primaryKey (mem_activeReservations.mp active').1 stored
        (congrArg Prod.fst named)
      exact bare

theorem stored_over (matching : Matching s) (agrees : Agrees (create s r requestId tenantId g report))
    (stored : stores s r requestId tenantId g report = true) : r.reservedUntil ≤ s.clock := by
  obtain ⟨tasks,_,clock⟩ := create_manager s r requestId tenantId g report
  by_contra early
  obtain ⟨b,live,ended,fresh⟩ := stores_blocking stored
  have waits : s.clock < b.endTime := ended ▸ not_le.mp early
  have listed := (agrees b.id .finish).mpr ⟨b,live,rfl,clock ▸ waits⟩
  rw [State.taskIds,tasks] at listed
  obtain ⟨task,entered,named⟩ := List.mem_map.mp listed
  obtain ⟨a,kept,same⟩ := matching.linked.task task entered
  rw [same] at named
  exact fresh a kept (congrArg Prod.fst named)

theorem cancelled_over (matching : Matching s) (running : s.running = true) (agrees : Agrees (cancel s b.id reason))
    (live : b ∈ blocking s.table) : b.endTime ≤ s.clock := by
  by_contra early
  have listed := matching.listed running b live .finish (not_le.mp early)
  obtain ⟨other,still,named,_⟩ := (agrees b.id .finish).mp listed
  exact cancel_blocking still named

-- Each way out of step shows in the entries at once.
theorem agrees_inStep (matching : Matching s) (ran : step s action = some next)
    (agreed : action.checked = true → next.running = true → Agrees next) : inStep s action = true := by
  have linked := linked_bookings matching.linked ran
  cases action with
  | start =>
    have running : next.running = true := by cases step_sound ran; rfl
    exact decide_eq_true fun r active => loaded_bare matching ran (agreed rfl running) active
  | create r requestId tenantId g report =>
    cases ran
    obtain ⟨tasks,same,clock⟩ := create_manager s r requestId tenantId g report
    refine decide_eq_true fun running => ?_
    have agrees := agreed rfl (same ▸ running)
    have punctual := agrees_punctual linked agrees
    rw [State.punctual,tasks,clock] at punctual
    exact ⟨punctual,stored_over matching agrees⟩
  | cancel key reason =>
    cases ran
    refine decide_eq_true fun running => ?_
    have agrees := agreed rfl running
    have punctual := agrees_punctual linked agrees
    refine ⟨punctual,?_⟩
    rintro b live rfl
    exact cancelled_over matching running agrees live
  | _ => rfl

theorem inStep_agrees (matching : Matching s) (met : inStep s action = true) (ran : step s action = some next)
    (checked : action.checked = true) (running : next.running = true) : Agrees next := by
  refine matching_agrees (matching_preserved matching met ran) running (decide_eq_true ?_)
  intro task member
  exact checked_punctual matching met ran checked running member

-- A run whose entries agree with the table after every startup and every request,
-- and in which no reservation cancelled in time takes effect, is a run that
-- keeps in step.
theorem schedule_agrees (clock : Instant) (platform : Uplink.Platform) (table : Reservations.Table)
    (actions : List Action) :
    Runs.Along step (fun s action next => (action.checked = true → next.running = true → Agrees next) ∧
      Spared s action next) (.fresh clock platform table) actions ↔
    Runs.Along step (fun s action _ => inStep s action = true) (.fresh clock platform table) actions := by
  refine Runs.along_iff Matching actions (matching_fresh clock platform table) ?_ ?_
  · intro s action next matching ran
    exact ⟨fun agreed => agrees_inStep matching ran agreed.1,
      fun met => ⟨inStep_agrees matching met ran,matching_spared matching ran⟩⟩
  · intro s action next matching met ran
    exact matching_preserved matching met ran

def walkIn (reservedFrom reservedUntil : Instant) : Action :=
  .create {spaceId := 1,reservedFrom := reservedFrom,reservedUntil := reservedUntil} 7 (some 0) ⟨7,7,0⟩ .noOverlap

-- A new reservation gets no entries, and the start task of a cancelled one
-- reserves the space.
theorem requests_not_scheduled :
    (∃ s action next, Runs.Reached step (fun _ _ => True) (parking .empty) s ∧ step s action = some next ∧
      action.checked = true ∧ next.running = true ∧ ¬Agrees next) ∧
    ∃ s action next, Runs.Reached step (fun _ _ => True) (parking oneBooking) s ∧ step s action = some next ∧
      ¬Spared s action next := by
  constructor
  · have start : Runs.Reached step (fun _ _ => True) (parking .empty) (parking .empty) := .refl
    obtain ⟨s,path,next,ran,running,live,early,absent⟩ := start.found (fun _ _ => true)
      (fun s => ∃ next ∈ step s (walkIn 10 20), next.running = true ∧ ⟨7,1,10,20⟩ ∈ blocking next.table ∧
        next.clock < 10 ∧ (7,.start) ∉ next.taskIds)
      [.start] (fun _ _ => trivial) (by decide +kernel)
    exact ⟨s,_,next,path,ran,rfl,running,fun agrees => absent ((agrees 7 .start).mpr ⟨_,live,rfl,early⟩)⟩
  · have start : Runs.Reached step (fun _ _ => True) (parking oneBooking) (parking oneBooking) := .refl
    obtain ⟨s,path,stored,happened,before,next,ran,after⟩ := start.found (fun _ _ => true)
      (fun s => ⟨5,1,10,20⟩ ∈ bookings s.table ∧ .cancelled 5 0 ∈ s.log ∧ s.stateOf 1 ≠ some .reserved ∧
        ∃ next ∈ step s (.wake (startTask 5 10) (calling 1)), next.stateOf 1 = some .reserved)
      [.start,.cancel 5 none,.tick 10] (fun _ _ => trivial) (by decide +kernel)
    refine ⟨s,_,next,path,ran,fun spared => ?_⟩
    exact spared _ _ rfl rfl ⟨5,1,10,20⟩ stored rfl 0 happened (by decide) before after

end SmartParking.Background
