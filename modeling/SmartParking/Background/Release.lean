import SmartParking.Background.Manager

namespace SmartParking.Background
open Lib
open Spaces (SpaceState Call)
open Reservations (Uuid Instant Reservation)

-- The steps of `_reservation_end_task` and of the expiry loop.
def Action.ends : Action → Bool
  | .wake task _ => task.action = .finish
  | .expire _ | .sweep | .release _ _ => true
  | _ => false

-- Any state that changes goes from RESERVED to FREE.
def OnlyReserved (s next : State) : Prop :=
  ∀ spaceId before after, s.spaces.stateOf spaceId = some before → next.spaces.stateOf spaceId = some after →
    before ≠ after → before = .reserved ∧ after = .free

-- If the call gets the lock, the space it is to release is not in use.
def Unused (s : State) (spaceId : Uuid) (call : Call) : Prop :=
  s.platform.store.lockOpen (spaceKey spaceId) call = true → ∀ space, s.spaces.getSpace (spaceKey spaceId) = some space →
    space.state ≠ .occupied ∧ space.state ≠ .maintenance

def ReleasesUnused (s : State) : Action → Prop
  | .wake task call => Unused s task.spaceId call
  | .release reservationId call =>
    ∀ r, s.table.rows.find? (·.id = reservationId) = some r → Unused s r.spaceId call
  | _ => True

theorem onlyReserved_same (same : next.spaces = s.spaces) : OnlyReserved s next := by
  intro spaceId before after one two moved
  rw [same,one] at two
  exact absurd (Option.some.inj two) moved

-- Every state but FREE itself may become FREE, whatever the source.
theorem free_valid (current : SpaceState) (source : String) (used : current ≠ .free) :
    Spaces.isValidTransition current .free source = true := by
  cases current with
  | free => exact absurd rfl used
  | occupied | reserved | maintenance => simp [Spaces.isValidTransition,Spaces.validTransitions]

theorem changes_free (s : State) (spaceId : Uuid) (source : String) (call : Call) :
    s.changes (spaceKey spaceId) .free source call = true ↔
      s.platform.store.lockOpen (spaceKey spaceId) call = true ∧
        ∃ space, s.spaces.getSpace (spaceKey spaceId) = some space ∧ space.state ≠ .free := by
  rw [State.changes,Spaces.Store.changes_iff]
  refine and_congr_right fun _ => exists_congr fun space => and_congr_right fun _ => ?_
  exact ⟨And.left,fun used => ⟨used,free_valid space.state source used⟩⟩

-- One update to FREE: it turns nothing but RESERVED into FREE exactly when the
-- space is not in use.
theorem update_onlyReserved (s next : State) (spaceId : Uuid) (source : String) (call : Call)
    (updated : next.spaces = if s.changes (spaceKey spaceId) .free source call then
      s.spaces.setState (spaceKey spaceId) .free else s.spaces) :
    OnlyReserved s next ↔ Unused s spaceId call := by
  constructor
  · intro only entered space found
    have known : s.spaces.stateOf (spaceKey spaceId) = some space.state := Spaces.Table.getSpace_stateOf found
    have kept : space.state ≠ .free → space.state = .reserved := by
      intro used
      have acts := (changes_free s spaceId source call).mpr ⟨entered,space,found,used⟩
      rw [if_pos acts] at updated
      have freed : next.spaces.stateOf (spaceKey spaceId) = some .free := by
        rw [updated]
        exact Spaces.Table.setState_stateOf (by rw [known]; rfl) .free
      exact (only (spaceKey spaceId) space.state .free known freed used).1
    cases state : space.state <;> simp_all
  · intro unused
    by_cases acts : s.changes (spaceKey spaceId) .free source call = true
    · obtain ⟨entered,space,found,used⟩ := (changes_free s spaceId source call).mp acts
      obtain ⟨vacant,usable⟩ := unused entered space found
      have known : s.spaces.stateOf (spaceKey spaceId) = some space.state := Spaces.Table.getSpace_stateOf found
      rw [if_pos acts] at updated
      intro other before after one two moved
      rw [updated] at two
      by_cases same : other = spaceKey spaceId
      · subst other
        rw [Spaces.Table.setState_stateOf (by rw [known]; rfl)] at two
        rw [known] at one
        cases one
        cases two
        refine ⟨?_,rfl⟩
        cases state : space.state <;> simp_all
      · rw [Spaces.Table.setState_stateOf_other same,one] at two
        exact absurd (Option.some.inj two) moved
    · rw [if_neg acts] at updated
      exact onlyReserved_same updated

theorem step_onlyReserved (ran : step s action = some next) (ends : action.ends = true) :
    OnlyReserved s next ↔ ReleasesUnused s action := by
  cases step_sound ran with
  | wake task call =>
    have finish : task.action = .finish := by simpa [Action.ends] using ends
    have updated := wake_spaces s task call
    rw [update_spaces,finish] at updated
    exact update_onlyReserved s _ task.spaceId _ call updated
  | expire | sweep => exact iff_of_true (onlyReserved_same rfl) trivial
  | release reservationId call =>
    simp only [ReleasesUnused]
    cases found : s.table.rows.find? (·.id = reservationId) with
    | none =>
      refine iff_of_true (onlyReserved_same ?_) fun r missing => absurd missing (by simp)
      simp only [release,found]
      rfl
    | some r =>
      simp only [Option.some.injEq,forall_eq']
      refine update_onlyReserved s _ r.spaceId "reservation_expired" call ?_
      simp only [release,found]
      exact update_spaces ..
  | _ => cases ends

-- In every run, from whatever state, the end tasks and the expiry loop only turn
-- RESERVED into FREE exactly when none of them comes to a space in use.
theorem release_only_reserved (start : State) (actions : List Action) :
    Runs.Along step (fun s action next => action.ends = true → OnlyReserved s next) start actions ↔
      Runs.Along step (fun s action _ => action.ends = true → ReleasesUnused s action) start actions :=
  Runs.along_congr actions fun ran => forall_congr' fun ends => step_onlyReserved ran ends

-- A car stands on the reserved space when the reservation ends.
theorem end_frees_occupied : ∃ s, Runs.Reached step (fun _ _ => True) (parking oneBooking) s ∧
    ∃ action next, action.ends = true ∧ step s action = some next ∧ ¬OnlyReserved s next := by
  have start : Runs.Reached step (fun _ _ => True) (parking oneBooking) (parking oneBooking) := .refl
  obtain ⟨s,path,occupied,freed⟩ := start.found (fun _ _ => true)
    (fun s => s.spaces.stateOf "1" = some .occupied ∧
      ∃ next ∈ step s (.wake (endTask 5 20) (calling 3)), next.spaces.stateOf "1" = some .free)
    [.start,.tick 10,.wake (startTask 5 10) (calling 1),.uplink (Uplink.Platform.frame 1 "AQ==" 2),.tick 20]
    (fun _ _ => trivial) (by decide +kernel)
  obtain ⟨next,ran,free⟩ := freed
  refine ⟨s,path,_,next,rfl,ran,fun only => ?_⟩
  have released := only "1" .occupied .free occupied free (by decide)
  cases released.1

end SmartParking.Background
