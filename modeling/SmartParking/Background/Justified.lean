import SmartParking.Background.Release
import SmartParking.Background.Tasks

namespace SmartParking.Background
open Lib
open Spaces (SpaceState Call)
open Reservations (Uuid Instant Reservation)

-- No manual write, and no stop of the manager.
def Action.automatic : Action → Bool
  | .writeSpaces _ | .stop => false
  | _ => true

-- A start task that finds its space free runs while its reservation is pending
-- or confirmed and its end task still to come, an end task that finds its space
-- reserved gets the lock, and no reservation that has begun is cancelled while
-- its space is reserved.
def tidy (s : State) : Action → Bool
  | .wake task call =>
    match task.action with
    | .start => s.stateOf task.spaceId ≠ some .free ∨
        ∃ b ∈ blocking s.table, b.id = task.reservationId ∧ b.entry .finish .sleeping ∈ s.tasks
    | .finish => s.stateOf task.spaceId ≠ some .reserved ∨ s.platform.store.lockOpen (spaceKey task.spaceId) call
  | .cancel key _ => ∀ b ∈ blocking s.table, b.id = key → b.startTime ≤ s.clock → s.stateOf b.spaceId ≠ some .reserved
  | _ => true

-- Every due task has run to its end, and an expiry pass since the last change.
def Settled (s : State) : Prop :=
  (∀ task ∈ s.tasks, task.phase = .sleeping → s.clock < task.scheduledTime) ∧
  (∀ task ∈ s.tasks, task.phase ≠ .expiring) ∧ s.sweep = [] ∧ s.swept = true

instance : Decidable (Settled s) := inferInstanceAs (Decidable (_ ∧ _ ∧ _ ∧ _))

-- The reservation that a space is reserved for has begun, and its end task will
-- free the space. Its row stays open until that task is due.
structure Due (s : State) (spaceId : String) (b : Booking) : Prop where
  row : b ∈ bookings s.table
  space : spaceKey b.spaceId = spaceId
  task : b.entry .finish .sleeping ∈ s.tasks
  begun : b.startTime ≤ s.clock
  ends : b ∈ blocking s.table ∨ b.endTime ≤ s.clock

structure Justified (s : State) : Prop where
  linked : Linked (· ∈ bookings s.table) s
  found : ∀ spaceId, s.spaces.stateOf spaceId = some .reserved → (s.spaces.getSpace spaceId).isSome
  due : ∀ spaceId, s.spaces.stateOf spaceId = some .reserved → ∃ b, Due s spaceId b

theorem setter_reserved (setter : Setter s action spaceId .reserved) : ∃ task call, action = .wake task call ∧
    task ∈ s.tasks ∧ task.phase = .sleeping ∧ task.scheduledTime ≤ s.clock ∧ task.action = .start ∧
    spaceKey task.spaceId = spaceId ∧ s.stateOf task.spaceId = some .free := by
  generalize target : SpaceState.reserved = new at setter
  cases setter with
  | wake task call entered asleep due acts =>
    cases kind : task.action with
    | finish => rw [kind] at target; cases target
    | start =>
      obtain ⟨_,space,found,_,valid⟩ := Spaces.Store.changes_iff.mp acts
      have free : space.state = .free := by
        rw [kind] at valid
        cases state : space.state <;> rw [state] at valid <;> first | rfl | exact absurd valid (by decide)
      refine ⟨task,call,rfl,entered,asleep,due,kind,rfl,?_⟩
      rw [← free]
      exact Spaces.Table.getSpace_stateOf found
  | release => cases target
  | uplink d space _ read =>
    rcases reading_detected read with rfl | rfl <;> cases target

theorem finish_frees {b : Booking} (ran : step s (.wake (b.entry .finish .sleeping) call) = some next)
    (entered : s.platform.store.lockOpen (spaceKey b.spaceId) call = true)
    (found : s.spaces.getSpace (spaceKey b.spaceId) = some space) (used : space.state ≠ .free) :
    next.spaces.stateOf (spaceKey b.spaceId) = some .free := by
  cases step_sound ran
  rw [wake_spaces,update_spaces]
  show (if s.changes (spaceKey b.spaceId) .free _ call then _ else _ : Spaces.Table).stateOf _ = _
  rw [if_pos ((changes_free s b.spaceId _ call).mpr ⟨entered,space,found,used⟩)]
  have known : (s.spaces.stateOf (spaceKey b.spaceId)).isSome := by rw [Spaces.Table.getSpace_stateOf found]; rfl
  exact Spaces.Table.setState_stateOf known .free

theorem found_preserved (justified : Justified s) (automatic : action.automatic = true)
    (ran : step s action = some next) (reserved : next.spaces.stateOf spaceId = some .reserved) :
    (next.spaces.getSpace spaceId).isSome := by
  cases step_spaces ran with
  | same same =>
    rw [same] at reserved ⊢
    exact justified.found spaceId reserved
  | written spaces written => subst written; cases automatic
  | set other new setter changed =>
    rw [changed] at reserved ⊢
    rw [Spaces.Table.setState_getSpace_isSome]
    by_cases here : spaceId = other
    · subst other
      obtain ⟨space,found⟩ := setter_known setter
      rw [found]
      rfl
    · rw [Spaces.Table.setState_stateOf_other here] at reserved
      exact justified.found spaceId reserved

-- The end task does not pass the reserved space by.
theorem due_asleep (justified : Justified s) (automatic : action.automatic = true) (neat : tidy s action = true)
    (ran : step s action = some next) (due : Due s spaceId b) (before : s.spaces.stateOf spaceId = some .reserved)
    (after : next.spaces.stateOf spaceId = some .reserved) : b.entry .finish .sleeping ∈ next.tasks := by
  rcases step_sleeping justified.linked ran due.task rfl with kept | rfl | ⟨call,rfl⟩
  · exact kept
  · cases automatic
  · obtain ⟨space,found⟩ := Option.isSome_iff_exists.mp (justified.found spaceId before)
    have known := Spaces.Table.getSpace_stateOf found
    rw [before] at known
    have here : s.stateOf b.spaceId = some .reserved := by rw [← before,← due.space]; rfl
    have entered : s.platform.store.lockOpen (spaceKey b.spaceId) call = true := by
      simpa [tidy,Booking.entry,here] using neat
    rw [← due.space] at found after
    rw [finish_frees ran entered found (by rw [← Option.some.inj known]; decide)] at after
    cases after

theorem due_ends (justified : Justified s) (neat : tidy s action = true) (ran : step s action = some next)
    (due : Due s spaceId b) (before : s.spaces.stateOf spaceId = some .reserved) :
    b ∈ blocking next.table ∨ b.endTime ≤ next.clock := by
  have later := step_clock ran
  rcases due.ends with live | passed
  · rcases step_open justified.linked bookings_key ran due.row live with kept | passed | ⟨reason,rfl⟩
    · exact .inl kept
    · exact .inr (passed.trans later)
    · have here : s.stateOf b.spaceId = some .reserved := by rw [← before,← due.space]; rfl
      have spared := of_decide_eq_true neat b live rfl due.begun
      exact absurd here spared
  · exact .inr (passed.trans later)

theorem due_preserved (justified : Justified s) (automatic : action.automatic = true) (neat : tidy s action = true)
    (ran : step s action = some next) (after : next.spaces.stateOf spaceId = some .reserved) :
    ∃ b, Due next spaceId b := by
  have later := step_clock ran
  rcases step_state ran spaceId with same | ⟨new,setter,becomes⟩ | ⟨spaces,rfl⟩
  · have before := same ▸ after
    obtain ⟨b,due⟩ := justified.due spaceId before
    exact ⟨b,step_bookings ran due.row,due.space,due_asleep justified automatic neat ran due before after,
      due.begun.trans later,due_ends justified neat ran due before⟩
  · rw [after] at becomes
    cases becomes
    obtain ⟨task,call,rfl,entered,asleep,begun,kind,rfl,free⟩ := setter_reserved setter
    obtain ⟨a,stored,same⟩ := justified.linked.task task entered
    rw [kind,asleep] at same
    subst same
    have waiting : ∃ b ∈ blocking s.table, b.id = a.id ∧ b.entry .finish .sleeping ∈ s.tasks := by
      have other : s.stateOf a.spaceId = some .free := free
      simpa [tidy,Booking.entry,other] using neat
    obtain ⟨b,live,named,waits⟩ := waiting
    cases bookings_key stored (blocking_bookings live) named.symm
    refine ⟨a,step_bookings ran stored,rfl,?_,le_trans begun later,?_⟩
    · rcases step_sleeping justified.linked ran waits rfl with kept | stopped | ⟨_,woken⟩
      · exact kept
      · cases stopped
      · cases woken
    · rcases step_blocking ran live with kept | ⟨_,_,closer⟩
      · exact .inl kept
      · cases closer
  · cases automatic

theorem justified_preserved (justified : Justified s) (met : action.automatic = true ∧ tidy s action = true)
    (ran : step s action = some next) : Justified next where
  linked := linked_bookings justified.linked ran
  found _ := found_preserved justified met.1 ran
  due _ := due_preserved justified met.1 met.2 ran

theorem reached_justified (vacant : ∀ spaceId, platform.store.spaces.stateOf spaceId ≠ some .reserved)
    (path : Runs.Reached step (fun s action => action.automatic = true ∧ tidy s action = true)
      (State.fresh clock platform table) s) : Justified s :=
  path.invariant Justified
    ⟨linked_fresh _ clock platform table,fun spaceId reserved => absurd reserved (vacant spaceId),
      fun spaceId reserved => absurd reserved (vacant spaceId)⟩
    justified_preserved

-- In every such run a space that is still reserved when all is settled has a
-- running reservation.
theorem reserved_justified (vacant : ∀ spaceId, platform.store.spaces.stateOf spaceId ≠ some .reserved)
    (path : Runs.Reached step (fun s action => action.automatic = true ∧ tidy s action = true)
      (State.fresh clock platform table) s)
    (settled : Settled s) (reserved : s.spaces.stateOf spaceId = some .reserved) :
    ∃ r ∈ s.table.rows, spaceKey r.spaceId = spaceId ∧ r.status.blocks = true ∧ r.startTime ≤ s.clock ∧
      s.clock < r.endTime := by
  obtain ⟨b,due⟩ := (reached_justified vacant path).due spaceId reserved
  have waits : s.clock < b.endTime := settled.1 _ due.task rfl
  rcases due.ends with live | passed
  · obtain ⟨r,stored,blocks,rfl⟩ := mem_blocking.mp live
    exact ⟨r,stored,due.space,blocks,due.begun,waits⟩
  · exact absurd waits (not_lt.mpr passed)

theorem lot_vacant (spaceId : String) : lot.stateOf spaceId ≠ some .reserved := by
  simp only [Spaces.Table.stateOf,lot,List.find?_cons,List.find?_nil]
  split <;> simp

-- The reservation runs, and an expiry pass has found nothing to do.
theorem reserved_justified_running : ∃ s : State,
    Runs.Reached step (fun s action => action.automatic = true ∧ tidy s action = true) (parking oneBooking) s ∧
    s.spaces.stateOf "1" = some .reserved ∧
    ∃ r ∈ s.table.rows, spaceKey r.spaceId = "1" ∧ r.status.blocks = true ∧ r.startTime ≤ s.clock ∧
      s.clock < r.endTime := by
  have start : Runs.Reached step (fun s action => action.automatic = true ∧ tidy s action = true) (parking oneBooking)
    (parking oneBooking) := .refl
  obtain ⟨s,path,settled,reserved⟩ := start.found (fun s action => action.automatic && tidy s action)
    (fun s => Settled s ∧ s.spaces.stateOf "1" = some .reserved)
    [.start,.tick 10,.wake (startTask 5 10) (calling 1),.tick 15,.sweep]
    (fun _ test => by simpa using test) (by decide +kernel)
  exact ⟨s,path,reserved,reserved_justified lot_vacant path settled reserved⟩

-- The reservation is cancelled while it runs, and its space stays reserved.
theorem cancelled_stays_reserved : ∃ s : State,
    Runs.Reached step (fun _ action => action.automatic = true) (parking oneBooking) s ∧ Settled s ∧
    s.spaces.stateOf "1" = some .reserved ∧
    ∀ r ∈ s.table.rows, ¬(spaceKey r.spaceId = "1" ∧ r.status.blocks = true ∧ r.startTime ≤ s.clock ∧
      s.clock < r.endTime) := by
  have start : Runs.Reached step (fun _ action => action.automatic = true) (parking oneBooking) (parking oneBooking) :=
    .refl
  exact start.found (fun _ action => action.automatic) _
    [.start,.tick 10,.wake (startTask 5 10) (calling 1),.tick 12,.cancel 5 none,.sweep]
    (fun _ test => test) (by decide +kernel)

end SmartParking.Background
