import SmartParking.Reservations.Guarantees

namespace SmartParking.Reservations.Deletion
open Lib Lib.Runs

structure SpaceRow where
  name : String
  tenantId : Option Uuid
  deletedAt : Option Instant := none
  deriving DecidableEq

-- A call of the untenanted `delete_space` between two SQL statements; a
-- constructor names the next one.
inductive DeletePc where
  | idle
  | select (spaceId : Uuid) (force : Bool)
  | count (spaceId : Uuid) (name : String) (force : Bool)
  | cancel (spaceId : Uuid) (name : String) (active : Nat)
  | mark (spaceId : Uuid) (name : String) (cancelled : Nat)

inductive DeleteResponse where
  | noContent
  | deleted (spaceId : Uuid) (name : String) (deletedAt : Instant) (reservationsCancelled : Nat)
  | refused (status : Nat) (detail : String)
  deriving DecidableEq

structure State where
  table : Table
  rows : Uuid → Option SpaceRow
  threads : Nat → Pc
  log : List Event
  deleters : Nat → DeletePc
  responses : List DeleteResponse

def State.initial (rows : Uuid → Option SpaceRow) : State := ⟨.empty,rows,fun _ => .idle,[],fun _ => .idle,[]⟩

-- What the reservation handlers see.
def State.view (s : State) : Reservations.State where
  table := s.table
  spaces := fun id => (s.rows id).map fun row => ⟨row.name,row.tenantId,row.deletedAt.isSome⟩
  threads := s.threads
  log := s.log

def State.put (s : State) (view : Reservations.State) : State :=
  {s with table := view.table,threads := view.threads,log := view.log}

def State.mark (s : State) (spaceId : Uuid) (now : Instant) : State :=
  {s with rows := Function.update s.rows spaceId ((s.rows spaceId).map fun row => {row with deletedAt := some now})}

def State.respond (s : State) (response : DeleteResponse) : State := {s with responses := s.responses ++ [response]}

def State.goto (s : State) (d : Nat) (pc : DeletePc) : State := {s with deleters := Function.update s.deleters d pc}

-- `status = 'active' AND end_time > NOW()`
def activeAfter (spaceId : Uuid) (now : Instant) (r : Reservation) : Bool :=
  r.spaceId = spaceId ∧ r.status = .active ∧ now < r.endTime

-- `delete_space` of `spaces_tenanted` is one statement.
def State.deleteTenanted (s : State) (spaceId tenantId : Uuid) (now : Instant) : State :=
  match (s.rows spaceId).filter fun row => row.tenantId == some tenantId && row.deletedAt.isNone with
  | none => s.respond (.refused 404 "Space not found")
  | some _ => (s.mark spaceId now).respond .noContent

theorem cancelled_unblocked : Status.cancelled.blocks = false := rfl

-- One statement of `delete_space` of `spaces`.
def State.advanceDelete (s : State) (d : Nat) (now : Instant) : Option State :=
  match s.deleters d with
  | .idle => none
  | .select spaceId force =>
    match s.rows spaceId with
    | none => some ((s.goto d .idle).respond (.refused 404 ("Space " ++ toString spaceId ++ " not found")))
    | some existing =>
      if existing.deletedAt.isSome then
        some ((s.goto d .idle).respond (.refused 400 ("Space " ++ toString spaceId ++ " is already deleted")))
      else some (s.goto d (.count spaceId existing.name force))
  | .count spaceId name force =>
    let active := (s.table.rows.filter (activeAfter spaceId now)).length
    if 0 < active && !force then
      some ((s.goto d .idle).respond (.refused 400 ("Space has " ++ toString active ++
        " active reservation(s). Use force=true to delete anyway.")))
    else if force && 0 < active then some (s.goto d (.cancel spaceId name active))
    else some (s.goto d (.mark spaceId name 0))
  | .cancel spaceId name active =>
    some ({s with table := s.table.update (activeAfter spaceId now) .cancelled (fun old => old) now cancelled_unblocked}.goto d
      (.mark spaceId name active))
  | .mark spaceId name cancelled =>
    some (((s.mark spaceId now).goto d .idle).respond (.deleted spaceId name now cancelled))

inductive Action where
  | reserve (action : Reservations.Action)
  | deleteTenanted (spaceId tenantId : Uuid) (now : Instant)
  | startDelete (d : Nat) (spaceId : Uuid) (force : Bool)
  | runDelete (d : Nat) (now : Instant)

def step (s : State) : Action → Option State
  | .reserve (.setSpace ..) => none
  | .reserve action => (Reservations.step s.view action).map s.put
  | .deleteTenanted spaceId tenantId now => some (s.deleteTenanted spaceId tenantId now)
  | .startDelete d spaceId force =>
    match s.deleters d with
    | .idle => some (s.goto d (.select spaceId force))
    | _ => none
  | .runDelete d now => s.advanceDelete d now

def Booked (t : Table) (spaceId : Uuid) (time : Instant) : Prop :=
  ∃ r ∈ t.rows, r.spaceId = spaceId ∧ r.status.blocks ∧ time < r.endTime

-- No deleted space has a pending or confirmed reservation that ends after its
-- deletion.
def NoLiveBooking (s : State) : Prop :=
  ∀ spaceId row time, s.rows spaceId = some row → row.deletedAt = some time → ¬Booked s.table spaceId time

-- A booking that is inserted is over when its space was deleted.
def State.Timely (s : State) (g : Generated) (report : Violation) : Pc → Prop
  | .insert r key tenantId =>
    (∃ inserted, s.table.insert (r.columns key tenantId) g report = .ok inserted) →
      ∀ row time, s.rows r.spaceId = some row → row.deletedAt = some time → r.reservedUntil ≤ time
  | _ => True

def State.Unbooked (s : State) (now : Instant) : DeletePc → Prop
  | .mark spaceId _ _ => (s.rows spaceId).isSome → ¬Booked s.table spaceId now
  | _ => True

-- The INSERT of a booking takes place before its space is deleted, or the
-- booking is over by then, and the UPDATE that deletes a space takes place when
-- no pending or confirmed reservation of it ends later.
def Meets (s : State) : Action → Prop
  | .reserve (.run t g report _) => s.Timely g report (s.threads t)
  | .deleteTenanted spaceId tenantId now =>
    ∀ row, s.rows spaceId = some row → row.tenantId = some tenantId → row.deletedAt = none →
      ¬Booked s.table spaceId now
  | .runDelete d now => s.Unbooked now (s.deleters d)
  | _ => True

variable {s next : State} {action : Action} {t table : Table} {now time : Instant} {spaceId : Uuid}

-- Only the INSERT of the router adds a row: that of the pool fails.
theorem advance_table (reads : ∀ r key tenantId, pc ≠ .insert r key tenantId)
    (ran : advance t spaces g report detail pc = some (table,events,later)) : table = t := by
  cases pc with
  | insert r key tenantId => exact absurd rfl (reads r key tenantId)
  | idle => cases ran
  | conflicting r key => cases ran; rfl
  | refetch r key error =>
    simp only [advance] at ran
    split at ran
    · cases ran; rfl
    · simp only [Option.some.injEq,Prod.mk.injEq] at ran
      exact ran.1.symm
  | poolInsert r =>
    simp only [advance,poolInsert_fails] at ran
    cases ran
    rfl
  | lookup r key | spaceCheck r key | poolSpaceCheck r | poolOverlap r =>
    simp only [advance] at ran
    split at ran
    · cases ran; rfl
    · cases ran; rfl

theorem update_booked {select : Reservation → Bool} {status : Status} {metadata : Option Metadata → Option Metadata}
    (retires : status.blocks = false) (booked : Booked (t.update select status metadata now retires) spaceId time) :
    Booked t spaceId time := by
  obtain ⟨r,member,place,blocks,later⟩ := booked
  obtain ⟨before,listed,rfl⟩ := List.mem_map.mp member
  unfold Reservation.retireIf at place blocks later
  split at blocks
  · exact absurd (blocks.symm.trans retires) (by decide)
  · rename_i kept
    rw [if_neg kept] at place later
    exact ⟨before,listed,place,blocks,later⟩

theorem NoLiveBooking.shrink (valid : NoLiveBooking s) (rows : next.rows = s.rows)
    (fewer : ∀ spaceId time, Booked next.table spaceId time → Booked s.table spaceId time) : NoLiveBooking next := by
  intro spaceId row time found deleted booked
  rw [rows] at found
  exact valid spaceId row time found deleted (fewer spaceId time booked)

theorem NoLiveBooking.same (valid : NoLiveBooking s) (rows : next.rows = s.rows) (table : next.table = s.table) :
    NoLiveBooking next := by
  refine valid.shrink rows ?_
  intro spaceId time booked
  rwa [table] at booked

-- A new row is a booking of its space alone.
theorem add_booked {row : Reservation} (free : t.violated row = []) :
    Booked (t.add row free) spaceId time ↔
      Booked t spaceId time ∨ row.spaceId = spaceId ∧ row.status.blocks ∧ time < row.endTime := by
  unfold Booked
  have rows : (t.add row free).rows = t.rows ++ [row] := rfl
  simp only [rows,List.mem_append,List.mem_singleton,or_and_right,exists_or,exists_eq_left]

theorem run_iff {view : Reservations.State} {detail : String} (valid : NoLiveBooking s)
    (ran : Reservations.step s.view (.run c g report detail) = some view) :
    NoLiveBooking (s.put view) ↔ s.Timely g report (s.threads c) := by
  obtain ⟨⟨table,events,later⟩,advanced,rfl⟩ := Option.map_eq_some_iff.mp ran
  change advance s.table _ g report detail (s.threads c) = _ at advanced
  cases calling : s.threads c with
  | insert r key tenantId =>
    rw [calling] at advanced
    cases inserted : s.table.insert (r.columns key tenantId) g report with
    | error violation =>
      simp only [advance,inserted,Option.some.injEq,Prod.mk.injEq] at advanced
      refine iff_of_true (valid.same rfl advanced.1.symm) ?_
      intro success
      obtain ⟨pair,other⟩ := success
      rw [inserted] at other
      cases other
    | ok pair =>
      obtain ⟨grown,row⟩ := pair
      obtain ⟨tenant,times,duration,_,rfl,free,rfl⟩ := Table.insert_ok inserted
      simp only [advance,inserted,Option.some.injEq,Prod.mk.injEq] at advanced
      obtain ⟨rfl,_⟩ := advanced
      constructor
      · intro holds _ row time found deleted
        by_contra early
        refine holds r.spaceId row time found deleted ?_
        exact (add_booked free).mpr (.inr ⟨rfl,rfl,not_le.mp early⟩)
      · intro timely spaceId row time found deleted booked
        rcases (add_booked free).mp booked with old | ⟨place,_,late⟩
        · exact valid spaceId row time found deleted old
        · cases place
          exact absurd (timely ⟨_,inserted⟩ row time found deleted) (not_le.mpr late)
  | _ =>
    have kept : table = s.table := advance_table (fun _ _ _ => by simp [calling]) advanced
    exact iff_of_true (valid.same rfl kept) trivial

-- A deletion moves `deleted_at` of its row alone.
theorem mark_iff (valid : NoLiveBooking s) (rows : next.rows = (s.mark spaceId now).rows) (table : next.table = s.table) :
    NoLiveBooking next ↔ ((s.rows spaceId).isSome → ¬Booked s.table spaceId now) := by
  unfold NoLiveBooking
  rw [rows,table]
  constructor
  · intro holds present
    obtain ⟨row,found⟩ := Option.isSome_iff_exists.mp present
    exact holds spaceId {row with deletedAt := some now} now (by simp [State.mark,found]) rfl
  · intro unbooked other row time found deleted
    by_cases same : other = spaceId
    · subst same
      simp only [State.mark,Function.update_self] at found
      obtain ⟨before,known,rfl⟩ := Option.map_eq_some_iff.mp found
      cases deleted
      exact unbooked (by simp [known])
    · simp only [State.mark,Function.update_of_ne same] at found
      exact valid other row time found deleted

theorem deleteTenanted_iff (valid : NoLiveBooking s) (spaceId tenantId : Uuid) (now : Instant) :
    NoLiveBooking (s.deleteTenanted spaceId tenantId now) ↔ Meets s (.deleteTenanted spaceId tenantId now) := by
  unfold State.deleteTenanted
  cases found : (s.rows spaceId).filter fun row => row.tenantId == some tenantId && row.deletedAt.isNone with
  | none =>
    refine iff_of_true (valid.same rfl rfl) ?_
    intro row present owner undeleted
    simp [present,owner,undeleted] at found
  | some row =>
    obtain ⟨present,selected⟩ := Option.filter_eq_some_iff.mp found
    simp only [Bool.and_eq_true,beq_iff_eq,Option.isNone_iff_eq_none] at selected
    have marked : NoLiveBooking ((s.mark spaceId now).respond .noContent) ↔
        ((s.rows spaceId).isSome → ¬Booked s.table spaceId now) := mark_iff valid rfl rfl
    refine marked.trans ⟨fun unbooked _ _ _ _ => unbooked (by simp [present]),fun unbooked _ => ?_⟩
    exact unbooked row present selected.1 selected.2

theorem advanceDelete_iff (valid : NoLiveBooking s) (ran : s.advanceDelete d now = some next) :
    NoLiveBooking next ↔ s.Unbooked now (s.deleters d) := by
  unfold State.advanceDelete at ran
  cases calling : s.deleters d with
  | idle => simp [calling] at ran
  | select spaceId force =>
    simp only [calling] at ran
    refine iff_of_true ?_ trivial
    split at ran
    · cases ran; exact valid.same rfl rfl
    · split at ran
      · cases ran; exact valid.same rfl rfl
      · cases ran; exact valid.same rfl rfl
  | count spaceId name force =>
    simp only [calling] at ran
    refine iff_of_true ?_ trivial
    split at ran
    · cases ran; exact valid.same rfl rfl
    · split at ran
      · cases ran; exact valid.same rfl rfl
      · cases ran; exact valid.same rfl rfl
  | cancel spaceId name active =>
    simp only [calling] at ran
    cases ran
    exact iff_of_true (valid.shrink rfl fun _ _ => update_booked rfl) trivial
  | mark spaceId name cancelled =>
    simp only [calling] at ran
    cases ran
    exact mark_iff valid rfl rfl

theorem reserve_iff {reservation : Reservations.Action} (valid : NoLiveBooking s)
    (ran : step s (.reserve reservation) = some next) : NoLiveBooking next ↔ Meets s (.reserve reservation) := by
  cases reservation with
  | setSpace id space => cases ran
  | run c g report detail =>
    obtain ⟨view,stepped,rfl⟩ := Option.map_eq_some_iff.mp ran
    exact run_iff valid stepped
  | create c r uuid | poolCreate c r =>
    obtain ⟨view,stepped,rfl⟩ := Option.map_eq_some_iff.mp ran
    simp only [Reservations.step] at stepped
    split at stepped
    · cases stepped; exact iff_of_true (valid.same rfl rfl) trivial
    · cases stepped
  | cancel id reason now | poolCancel id now | endTask id now | expireOld now =>
    cases ran
    exact iff_of_true (valid.shrink rfl fun _ _ => update_booked rfl) trivial

theorem step_iff (valid : NoLiveBooking s) (ran : step s action = some next) :
    NoLiveBooking next ↔ Meets s action := by
  cases action with
  | reserve reservation => exact reserve_iff valid ran
  | deleteTenanted spaceId tenantId now =>
    cases ran
    exact deleteTenanted_iff valid spaceId tenantId now
  | startDelete d spaceId force =>
    simp only [step] at ran
    split at ran
    · cases ran; exact iff_of_true (valid.same rfl rfl) trivial
    · cases ran
  | runDelete d now => exact advanceDelete_iff valid ran

theorem initial_valid (rows : Uuid → Option SpaceRow) : NoLiveBooking (.initial rows) := by
  intro spaceId row time _ _ booked
  obtain ⟨r,member,_⟩ := booked
  cases member

-- A run keeps deleted spaces free of bookings exactly when its INSERTs and its
-- deletions fall as they should, which nothing in the handlers sees to.
theorem deletion_unbooked (rows : Uuid → Option SpaceRow) (actions : List Action) :
    Along step (fun _ _ next => NoLiveBooking next) (.initial rows) actions ↔
      Along step (fun s action _ => Meets s action) (.initial rows) actions :=
  along_iff NoLiveBooking actions (initial_valid rows) step_iff fun valid meets ran => (step_iff valid ran).mpr meets

def oneBay : Uuid → Option SpaceRow := fun id => if id = 1 then some ⟨"Bay 1",some 7,none⟩ else none

-- A confirmed booking, and then the deletion of its space.
theorem booked_deleted : ¬∀ (rows : Uuid → Option SpaceRow) (s : State),
    Reached step (fun _ _ => True) (.initial rows) s → NoLiveBooking s := by
  intro claim
  have begun : Reached step (fun _ _ => True) (.initial oneBay) (.initial oneBay) := .refl
  obtain ⟨s,path,booked,deleted⟩ := begun.found (fun _ _ => true)
    (fun s => s.table.rows.any (fun r => r.spaceId = 1 ∧ r.status.blocks ∧ 50 < r.endTime) = true ∧
      s.rows 1 = some ⟨"Bay 1",some 7,some 50⟩)
    [.reserve (.create 0 {spaceId := 1,reservedFrom := 100,reservedUntil := 200} 5),
     .reserve (.run 0 ⟨11,12,40⟩ .noOverlap ""),.reserve (.run 0 ⟨11,12,40⟩ .noOverlap ""),
     .reserve (.run 0 ⟨11,12,40⟩ .noOverlap ""),.deleteTenanted 1 7 50]
    (fun _ _ => trivial) (by decide +kernel)
  obtain ⟨r,member,live⟩ := List.any_eq_true.mp booked
  exact claim oneBay s path 1 _ 50 deleted rfl ⟨r,member,of_decide_eq_true live⟩

end SmartParking.Reservations.Deletion
