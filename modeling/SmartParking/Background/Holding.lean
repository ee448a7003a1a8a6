import SmartParking.Background.BackToBack

namespace SmartParking.Background
open Lib
open Spaces (SpaceState Call)
open Reservations (Uuid Instant Reservation)

-- No manual write, no cancellation and no new reservation.
def Action.background : Action → Bool
  | .writeSpaces _ | .cancel _ _ | .create _ _ _ _ _ => false
  | _ => true

-- The start task has found or made the space RESERVED, and no OCCUPIED reading
-- came since. The log has the newest event first.
def held (b : Booking) : List Event → Bool
  | [] => false
  | event::older => event = .started b.id (some .reserved) ∨
      event ≠ .reading (spaceKey b.spaceId) .occupied ∧ held b older

-- The space that a vacant reading with an open lock is for.
def Action.vacates (s : State) : Action → Option String
  | .uplink d =>
    match reading s.platform d with
    | some (space,.free) => if s.platform.store.lockOpen space.id d.call then some space.id else none
    | _ => none
  | _ => none

-- No such reading comes for a space that is RESERVED for a running reservation.
def Calm (s : State) (action : Action) : Prop :=
  ∀ spaceId ∈ (action.vacates s).toList, ∀ b ∈ blocking s.table, spaceKey b.spaceId = spaceId →
    b.startTime ≤ s.clock → s.clock < b.endTime → s.stateOf b.spaceId ≠ some .reserved

instance : Decidable (Calm s action) := inferInstanceAs (Decidable (∀ spaceId ∈ _, ∀ b ∈ _, _))

structure Steady (s : State) (action : Action) : Prop where
  background : action.background = true
  orderly : Orderly s action
  calm : Calm s action

structure Held (set : Reservations.Table) (s : State) : Prop where
  ordered : Ordered set s
  running : ∀ b ∈ blocking set, s.clock < b.endTime → b ∈ blocking s.table
  holds : ∀ b ∈ blocking set, held b s.log = true → s.clock < b.endTime →
    b.startTime ≤ s.clock ∧ s.stateOf b.spaceId = some .reserved

theorem held_started (since : held b log = true) : .started b.id (some .reserved) ∈ log := by
  induction log with
  | nil => cases since
  | cons event older ih =>
    rcases of_decide_eq_true since with rfl | ⟨_,earlier⟩
    · exact List.mem_cons_self
    · exact List.mem_cons_of_mem _ (ih earlier)

theorem background_fixed {action : Action} (background : action.background = true) : action.creates = false := by
  cases action <;> first | rfl | cases background

section
variable {set : Reservations.Table} {s next : State} {b : Booking}

-- A row is closed by its own end task or by the expiry pass, and not before its
-- end.
theorem running_preserved (holds : Held set s) (steady : Steady s action) (ran : step s action = some next)
    (member : b ∈ blocking set) (early : s.clock < b.endTime) : b ∈ blocking next.table := by
  rcases step_open holds.ordered.linked blocking_key ran member (holds.running b member early) with
    kept | passed | ⟨reason,rfl⟩
  · exact kept
  · exact absurd early (not_lt.mpr passed)
  · cases steady.background

theorem reserved_preserved (holds : Held set s) (steady : Steady s action) (ran : step s action = some next)
    (member : b ∈ blocking set) (since : held b s.log = true) (early : s.clock < b.endTime)
    (unseen : ∀ d space, action = .uplink d → reading s.platform d = some (space,.occupied) →
      space.id ≠ spaceKey b.spaceId) : next.stateOf b.spaceId = some .reserved := by
  obtain ⟨begun,reserved⟩ := holds.holds b member since early
  have live := holds.running b member early
  rcases step_stateOf ran b.spaceId with same | ⟨new,setter,becomes⟩ | ⟨spaces,rfl⟩
  · rw [same,reserved]
  · rcases setter_new setter with rfl | rfl | ⟨_,d,space,asked,read,here⟩
    · exact becomes
    · obtain ⟨d,space,rfl,read,here,acts⟩ := ordered_freed holds.ordered live early (held_started since) setter
      have entered := (Spaces.Store.changes_iff.mp acts).1
      exact absurd reserved
        (steady.calm space.id (by simp [Action.vacates,read,entered]) b live here.symm begun early)
    · exact absurd here (unseen d space asked read)
  · cases steady.background

theorem held_preserved (holds : Held set s) (steady : Steady s action) (ran : step s action = some next) :
    Held set next where
  ordered := ordered_preserved holds.ordered (background_fixed steady.background) steady.orderly ran
  running b member early := running_preserved holds steady ran member (lt_of_le_of_lt (step_clock ran) early)
  holds b member since early := by
    have later := step_clock ran
    have before := lt_of_le_of_lt later early
    have kept : held b s.log = true → (∀ d space, action = .uplink d → reading s.platform d = some (space,.occupied) →
        space.id ≠ spaceKey b.spaceId) → b.startTime ≤ next.clock ∧ next.stateOf b.spaceId = some .reserved :=
      fun old unseen => ⟨(holds.holds b member old before).1.trans later,
        reserved_preserved holds steady ran member old before unseen⟩
    cases step_log ran with
    | same same =>
      refine kept (same ▸ since) ?_
      rintro d space rfl read
      cases ran
      simp [uplink,read] at same
    | logged event logs log =>
      rw [log] at since
      rcases of_decide_eq_true since with rfl | ⟨different,old⟩
      · obtain ⟨_,due,_,found⟩ := started_entry holds.ordered.linked member logs
        exact ⟨due.trans later,found .reserved rfl⟩
      · refine kept old ?_
        rintro d space rfl read here
        cases ran
        simp only [uplink,read] at log
        cases log
        exact different (congrArg (Event.reading · .occupied) here)

theorem reached_held (path : Runs.Reached step Steady (State.fresh clock platform set) s) : Held set s := by
  refine path.invariant (Held set) ⟨?_,fun _ member _ => member,fun _ _ since => absurd since (by simp [held,State.fresh])⟩
    held_preserved
  exact reached_ordered .refl

-- A reservation holds its space until its end, or until a car comes, in every
-- run without a vacant reading for a reserved space and without a start task
-- that overtakes an earlier reservation.
theorem reservation_holds (path : Runs.Reached step Steady (State.fresh clock platform set) s)
    (member : b ∈ blocking set) (since : held b s.log = true) (early : s.clock < b.endTime) :
    s.stateOf b.spaceId ≠ some .free := by
  rw [((reached_held path).holds b member since early).2]
  decide

end

instance : Decidable (Steady s action) :=
  decidable_of_iff (action.background = true ∧ Orderly s action ∧ Calm s action)
    ⟨fun met => ⟨met.1,met.2.1,met.2.2⟩,fun met => ⟨met.background,met.orderly,met.calm⟩⟩

-- A vacant reading comes, and does not get the lock.
theorem reservation_holds_locked : ∃ s : State, Runs.Reached step Steady (parking oneBooking) s ∧
    s.clock < 20 ∧ .reading "1" .free ∈ s.log ∧ s.stateOf 1 ≠ some .free := by
  have start : Runs.Reached step Steady (parking oneBooking) (parking oneBooking) := .refl
  obtain ⟨s,path,since,early,read⟩ := start.found (fun s action => decide (Steady s action))
    (fun s => held ⟨5,1,10,20⟩ s.log = true ∧ s.clock < 20 ∧ .reading "1" .free ∈ s.log)
    [.start,.tick 10,.wake (startTask 5 10) (calling 1),.lock "lock:space:1" (some "0"),
      .uplink (Uplink.Platform.frame 1 "AA==" 2),.tick 15]
    (fun _ test => of_decide_eq_true test) (by decide +kernel)
  exact ⟨s,path,early,read,reservation_holds (b := ⟨5,1,10,20⟩) path (by decide) since early⟩

-- The heartbeat of the empty space frees it.
theorem heartbeat_frees_reserved : ∃ s : State,
    Runs.Reached step (fun _ action => action.background = true) (parking oneBooking) s ∧
    ∃ b ∈ blocking oneBooking, held b s.log = true ∧ s.clock < b.endTime ∧ s.stateOf b.spaceId = some .free := by
  have start : Runs.Reached step (fun _ action => action.background = true) (parking oneBooking) (parking oneBooking) :=
    .refl
  exact start.found (fun _ action => action.background) _
    [.start,.tick 10,.wake (startTask 5 10) (calling 1),.uplink (Uplink.Platform.frame 1 "AA==" 2)]
    (fun _ test => test) (by decide +kernel)

end SmartParking.Background
