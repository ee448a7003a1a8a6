import SmartParking.Lib.Decimal
import SmartParking.Background.Tasks

namespace SmartParking.Background
open Lib
open Spaces (SpaceState Call)
open Reservations (Uuid Instant Reservation)

-- The task of one kind that an action runs.
def Action.wakes (kind : TaskAction) : Action → Option ScheduledTask
  | .wake task _ => if task.action = kind then some task else none
  | _ => none

def Action.creates : Action → Bool
  | .create _ _ _ _ _ => true
  | _ => false

-- A step of the end task or of the expiry loop for another reservation.
def Action.endsOther (key : Uuid) : Action → Bool
  | .wake task _ => task.action = .finish ∧ task.reservationId ≠ key
  | .expire task => task.reservationId ≠ key
  | .sweep => true
  | .release other _ => other ≠ key
  | _ => false

-- The manager has done all it does for a reservation.
structure Closed (s : State) (b : Booking) : Prop where
  row : b ∉ blocking s.table
  task : b.entry .finish .sleeping ∉ s.tasks
  sweep : b.id ∉ s.sweep

instance : Decidable (Closed s b) :=
  decidable_of_iff (b ∉ blocking s.table ∧ b.entry .finish .sleeping ∉ s.tasks ∧ b.id ∉ s.sweep)
    ⟨fun done => ⟨done.1,done.2.1,done.2.2⟩,fun done => ⟨done.row,done.task,done.sweep⟩⟩

-- A start task runs after all that is done for the earlier reservations of its
-- space.
def Orderly (s : State) (action : Action) : Prop :=
  ∀ task ∈ (action.wakes .start).toList, ∀ b ∈ bookings s.table, b.spaceId = task.spaceId →
    b.endTime ≤ task.scheduledTime → Closed s b

instance : Decidable (Orderly s action) := inferInstanceAs (Decidable (∀ task ∈ _, ∀ b ∈ _, _))

def Undisturbed (s : State) (action : Action) (next : State) : Prop :=
  ∀ b ∈ blocking s.table, b.startTime ≤ s.clock → s.clock < b.endTime → (∃ state, .started b.id state ∈ s.log) →
    action.endsOther b.id = true → s.stateOf b.spaceId = some .reserved → next.stateOf b.spaceId ≠ some .free

theorem spaceKey_injective (same : spaceKey a = spaceKey b) : a = b := by
  have one : Decimal.read (spaceKey a) = some (a : Int) := Decimal.read_repr a
  rw [same,show Decimal.read (spaceKey b) = some (b : Int) from Decimal.read_repr b] at one
  exact Int.ofNat.inj (Option.some.inj one).symm

-- What is known of a run with a fixed set of reservations.
structure Ordered (set : Reservations.Table) (s : State) : Prop where
  live : ∀ b ∈ blocking s.table, b ∈ blocking set
  kept : ∀ b ∈ bookings set, b ∈ bookings s.table
  linked : Linked (· ∈ blocking set) s
  earlier : ∀ key state, .started key state ∈ s.log → ∀ b ∈ blocking set, b.id = key →
    ∀ other ∈ blocking set, other.spaceId = b.spaceId → other.endTime ≤ b.startTime → Closed s other

section
variable {set : Reservations.Table} {s next : State} {a b : Booking}

theorem blocking_key (one : a ∈ blocking set) (two : b ∈ blocking set) (same : a.id = b.id) : a = b :=
  bookings_key (blocking_bookings one) (blocking_bookings two) same

theorem step_live (ran : step s action = some next) (fixed : action.creates = false) (member : b ∈ blocking next.table) :
    b ∈ blocking s.table := by
  rcases step_new_blocking ran member with old | created
  · exact old
  · cases created
    cases fixed

theorem closed_preserved (ordered : Ordered set s) (member : b ∈ blocking set) (closed : Closed s b)
    (ran : step s action = some next) (fixed : action.creates = false) : Closed next b where
  row live := closed.row (step_live ran fixed live)
  task entered := by
    rcases step_entry ran entered with old | ⟨_,_,_,awake,_⟩ | ⟨_,a,live,_,same⟩
    · exact closed.task old
    · exact awake rfl
    · have equal : a = b := blocking_key (ordered.live a live) member (congrArg ScheduledTask.reservationId same).symm
      exact closed.row (equal ▸ live)
  sweep listed := by
    rcases step_sweep ran listed with old | ⟨a,live,same,_⟩
    · exact closed.sweep old
    · exact closed.row (blocking_key (ordered.live a live) member same ▸ live)

theorem started_entry (linked : Linked (· ∈ blocking set) s) (member : b ∈ blocking set)
    (logs : Logs s next action (.started b.id state)) : b.entry .start .sleeping ∈ s.tasks ∧ b.startTime ≤ s.clock ∧
      (∃ call, action = .wake (b.entry .start .sleeping) call) ∧
      ∀ found, state = some found → next.stateOf b.spaceId = some found := by
  generalize named : Event.started b.id state = event at logs
  cases logs with
  | started task call _ entered asleep due kind found =>
    obtain ⟨key,rfl⟩ := Event.started.inj named
    have same := linked_entry linked blocking_key entered member key.symm
    rw [kind,asleep] at same
    subst same
    exact ⟨entered,due,⟨call,rfl⟩,found⟩
  | reading | cancelled => cases named

theorem ordered_preserved (ordered : Ordered set s) (fixed : action.creates = false) (orderly : Orderly s action)
    (ran : step s action = some next) : Ordered set next where
  live b member := ordered.live b (step_live ran fixed member)
  kept b member := step_bookings ran (ordered.kept b member)
  linked := linked_preserved ordered.linked ordered.live ran
  earlier key state happened b member named other member' space before := by
    refine closed_preserved ordered member' ?_ ran fixed
    have known : .started key state ∈ s.log → Closed s other :=
      fun old => ordered.earlier key state old b member named other member' space before
    cases step_log ran with
    | same same => exact known (same ▸ happened)
    | logged event logs log =>
      rw [log,List.mem_cons] at happened
      rcases happened with newest | old
      · subst newest named
        obtain ⟨_,_,⟨call,rfl⟩,_⟩ := started_entry ordered.linked member logs
        exact orderly (b.entry .start .sleeping) (by simp [Action.wakes,Booking.entry]) other
          (ordered.kept _ (blocking_bookings member')) space before
      · exact known old

-- The order of the times leaves no entry or id of another reservation that is
-- due while this one runs.
theorem due_closed (ordered : Ordered set s) (live : b ∈ blocking s.table) (covers : s.clock < b.endTime)
    (began : .started b.id state ∈ s.log) (member : a ∈ blocking set) (space : a.spaceId = b.spaceId)
    (passed : a.endTime ≤ s.clock) : Closed s a := by
  have known := ordered.live b live
  have different : a ≠ b := by
    rintro rfl
    exact absurd covers (not_lt.mpr passed)
  rcases blocking_apart member known space different with before | after
  · exact ordered.earlier b.id state began b known rfl a member space before
  · have valid := bookings_valid (blocking_bookings member)
    exact absurd (passed.trans_lt covers) (not_lt.mpr (after.trans valid.le))

-- Only a vacant reading may then free the space.
theorem ordered_freed (ordered : Ordered set s) (live : b ∈ blocking s.table) (covers : s.clock < b.endTime)
    (began : .started b.id state ∈ s.log) (setter : Setter s action (spaceKey b.spaceId) .free) :
    ∃ d space, action = .uplink d ∧ reading s.platform d = some (space,.free) ∧ space.id = spaceKey b.spaceId ∧
      s.changes space.id .free "sensor_uplink" d.call = true := by
  generalize here : spaceKey b.spaceId = spaceId, freed : SpaceState.free = new at setter
  cases setter with
  | wake task call entered asleep due =>
    have finish : task.action = .finish := by
      cases kind : task.action with
      | start => rw [kind] at freed; cases freed
      | finish => rfl
    obtain ⟨a,member,same⟩ := ordered.linked.task task entered
    rw [finish,asleep] at same
    subst same
    exact absurd entered (due_closed ordered live covers began member (spaceKey_injective here).symm due).task
  | release key call r listed found =>
    obtain ⟨a,member,rfl,passed⟩ := ordered.linked.sweep key listed
    have stored : bookingOf r ∈ bookings s.table := List.mem_map_of_mem (List.mem_of_find?_eq_some found)
    have named : r.id = a.id := by simpa using List.find?_some found
    have same : bookingOf r = a := bookings_key stored (ordered.kept a (blocking_bookings member)) named
    have space : a.spaceId = b.spaceId := by
      rw [spaceKey_injective here,← same]
      rfl
    exact absurd listed (due_closed ordered live covers began member space passed.le).sweep
  | uplink d space _ read acts => exact ⟨d,space,rfl,read,rfl,acts⟩

theorem ordered_undisturbed (ordered : Ordered set s) (ran : step s action = some next) : Undisturbed s action next := by
  rintro b live begun covers ⟨state,began⟩ ends reserved freed
  rcases step_stateOf ran b.spaceId with same | ⟨new,setter,becomes⟩ | ⟨spaces,rfl⟩
  · rw [same,reserved] at freed
    cases freed
  · rw [freed] at becomes
    cases becomes
    obtain ⟨d,_,rfl,_⟩ := ordered_freed ordered live covers began setter
    cases ends
  · cases ends

theorem reached_ordered
    (path : Runs.Reached step (fun s action => action.creates = false ∧ Orderly s action)
      (State.fresh clock platform set) s) : Ordered set s := by
  refine path.invariant (Ordered set) ?_ ?_
  · exact ⟨fun _ member => member,fun _ member => member,linked_fresh _ clock platform set,
      fun _ _ happened => absurd happened List.not_mem_nil⟩
  · intro s action next ordered met ran
    exact ordered_preserved ordered met.1 met.2 ran

-- Over any set of reservations and in any order of the tasks and the expiry
-- passes in which no start task overtakes what is left to do for an earlier
-- reservation, a running reservation keeps its space.
theorem back_to_back (path : Runs.Reached step (fun s action => action.creates = false ∧ Orderly s action)
      (State.fresh clock platform set) s) (ran : step s action = some next) : Undisturbed s action next :=
  ordered_undisturbed (reached_ordered path) ran

end

-- The first reservation is closed before the second one starts.
theorem back_to_back_orderly : ∃ s next : State,
    Runs.Reached step (fun s action => action.creates = false ∧ Orderly s action) (parking twoBookings) s ∧
    step s .sweep = some next ∧ s.stateOf 1 = some .reserved ∧ next.stateOf 1 ≠ some .free := by
  have start : Runs.Reached step (fun s action => action.creates = false ∧ Orderly s action) (parking twoBookings)
    (parking twoBookings) := .refl
  obtain ⟨s,path,live,begun,covers,began,reserved,next,ran,_⟩ := start.found
    (fun s action => decide (action.creates = false ∧ Orderly s action))
    (fun s => ⟨6,1,20,30⟩ ∈ blocking s.table ∧ (20 : Instant) ≤ s.clock ∧ s.clock < 30 ∧
      .started 6 (some .reserved) ∈ s.log ∧ s.stateOf 1 = some .reserved ∧ ∃ next ∈ step s .sweep, next.running = true)
    [.start,.tick 10,.wake (startTask 5 10) (calling 1),.tick 20,.wake (endTask 5 20) (calling 2),
      .expire {endTask 5 20 with phase := .expiring},.wake (startTask 6 20) (calling 3),.tick 25]
    (fun _ test => of_decide_eq_true test) (by decide +kernel)
  exact ⟨s,next,path,ran,reserved,back_to_back path ran ⟨6,1,20,30⟩ live begun covers ⟨_,began⟩ rfl reserved⟩

-- At the shared instant the second reservation starts before the first one ends.
theorem end_frees_next : ∃ s, Runs.Reached step (fun _ action => action.creates = false) (parking twoBookings) s ∧
    ∃ action next, step s action = some next ∧ ¬Undisturbed s action next := by
  have start : Runs.Reached step (fun _ action => action.creates = false) (parking twoBookings) (parking twoBookings) :=
    .refl
  obtain ⟨s,path,live,begun,covers,began,reserved,next,ran,freed⟩ := start.found
    (fun _ action => action.creates = false)
    (fun s => ⟨6,1,20,30⟩ ∈ blocking s.table ∧ (20 : Instant) ≤ s.clock ∧ s.clock < 30 ∧
      .started 6 (some .reserved) ∈ s.log ∧ s.stateOf 1 = some .reserved ∧
      ∃ next ∈ step s (.wake (endTask 5 20) (calling 3)), next.stateOf 1 = some .free)
    [.start,.tick 10,.wake (startTask 5 10) (calling 1),.tick 20,.wake (startTask 6 20) (calling 2)]
    (fun _ test => of_decide_eq_true test) (by decide +kernel)
  refine ⟨s,path,_,next,ran,fun kept => ?_⟩
  exact kept ⟨6,1,20,30⟩ live begun covers ⟨_,began⟩ (by decide) reserved freed

end SmartParking.Background
