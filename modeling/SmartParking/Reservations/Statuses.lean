import SmartParking.Reservations.Guarantees

namespace SmartParking.Reservations
open Lib

def Status.terminal : Status → Bool
  | .cancelled | .expired => true
  | _ => false

-- A row in a terminal status still has that status.
def Absorbed (s next : State) : Prop :=
  ∀ r ∈ s.table.rows, r.status.terminal = true → ∃ later ∈ next.table.rows, later.id = r.id ∧ later.status = r.status

-- The router's cancellation, whose WHERE names no status, hits no expired row.
def sparesExpired (s : State) : Action → Prop
  | .cancel id _ _ => ∀ r ∈ s.table.rows, r.id = id → r.status ≠ .expired
  | _ => True

-- What a statement that is not an INSERT does to a row, and to which.
inductive Statement (t next : Table) : Action → Prop where
  | kept (action : Action) : (∀ r ∈ t.rows, r ∈ next.rows) → (∀ id reason now, action ≠ .cancel id reason now) →
      Statement t next action
  | live (action : Action) (select : Reservation → Bool) (status : Status)
      (metadata : Option Metadata → Option Metadata) (now : Instant) :
      next.rows = t.rows.map (Reservation.retireIf select status metadata now) →
      (∀ r, select r = true → r.status.terminal = false) → (∀ id reason now, action ≠ .cancel id reason now) →
      Statement t next action
  | cancel (id : Uuid) (reason : Option String) (metadata : Option Metadata → Option Metadata) (now : Instant) :
      next.rows = t.rows.map (Reservation.retireIf (·.id = id) .cancelled metadata now) →
      Statement t next (.cancel id reason now)

theorem blocks_open {status : Status} (blocks : status.blocks = true) : status.terminal = false := by
  cases status with
  | pending | confirmed => rfl
  | cancelled | expired | active | completed | noShow => cases blocks

theorem blocks_cases {status : Status} : status.blocks = true ↔ status = .pending ∨ status = .confirmed := by
  cases status <;> simp [Status.blocks]

theorem step_statement (ran : step s action = some next) : Statement s.table next.table action := by
  cases action with
  | create t r uuid | poolCreate t r =>
    simp only [step] at ran
    split at ran <;> cases ran
    exact .kept _ (fun _ member => member) (by simp)
  | run t g report detail =>
    obtain ⟨⟨table,events,later⟩,advanced,rfl⟩ := Option.map_eq_some_iff.mp ran
    refine .kept _ ?_ (by simp)
    intro r member
    cases advance_sound advanced with
    | read => exact member
    | confirmed row free => exact List.mem_append_left _ member
  | cancel id reason now => cases ran; exact .cancel id reason _ now rfl
  | poolCancel id now =>
    cases ran
    refine .live _ (fun r => r.id = id ∧ r.status = .active) .cancelled (fun old => old) now rfl ?_ (by simp)
    intro r selected
    rw [(of_decide_eq_true selected).2]
    rfl
  | endTask id now =>
    cases ran
    refine .live _ (fun r => r.id = id ∧ r.status.blocks) .expired (fun old => old) now rfl ?_ (by simp)
    intro r selected
    exact blocks_open (of_decide_eq_true selected).2
  | expireOld now =>
    cases ran
    refine .live _ (fun r => r.status.blocks ∧ r.endTime < now) .expired (fun old => old) now rfl ?_ (by simp)
    intro r selected
    exact blocks_open (of_decide_eq_true selected).1
  | setSpace id space => cases ran; exact .kept _ (fun _ member => member) (by simp)

theorem retireIf_off {select : Reservation → Bool} {r : Reservation} (off : select r = false) (status : Status)
    (metadata : Option Metadata → Option Metadata) (now : Instant) : r.retireIf select status metadata now = r := by
  simp [Reservation.retireIf,off]

-- A cancelled row that is cancelled again keeps its status; an expired one does not.
theorem cancel_absorbed {s next : State} {id : Uuid}
    (rows : next.table.rows = s.table.rows.map (Reservation.retireIf (·.id = id) .cancelled metadata now)) :
    Absorbed s next ↔ ∀ r ∈ s.table.rows, r.id = id → r.status ≠ .expired := by
  constructor
  · intro absorbed r member named expired
    obtain ⟨later,stored,same,status⟩ := absorbed r member (by rw [expired]; rfl)
    rw [rows] at stored
    obtain ⟨old,_,rfl⟩ := List.mem_map.mp stored
    rw [retireIf_id] at same
    rw [Reservation.retireIf,if_pos (decide_eq_true (same.trans named)),expired] at status
    cases status
  · intro spared r member terminal
    refine ⟨r.retireIf (·.id = id) .cancelled metadata now,by rw [rows]; exact List.mem_map_of_mem member,
      retireIf_id .., ?_⟩
    by_cases named : r.id = id
    · have cancelled : r.status = .cancelled := by
        have unexpired := spared r member named
        cases status : r.status <;> simp_all [Status.terminal]
      rw [Reservation.retireIf,if_pos (decide_eq_true named),cancelled]
      rfl
    · rw [retireIf_off (decide_eq_false named)]

theorem step_absorbed (ran : step s action = some next) : Absorbed s next ↔ sparesExpired s action := by
  cases step_statement ran with
  | kept _ kept other =>
    have spared : sparesExpired s action := by
      cases action with
      | cancel id reason now => exact absurd rfl (other id reason now)
      | _ => trivial
    exact iff_of_true (fun r member _ => ⟨r,kept r member,rfl,rfl⟩) spared
  | live _ select status metadata now rows live other =>
    have spared : sparesExpired s action := by
      cases action with
      | cancel id reason now => exact absurd rfl (other id reason now)
      | _ => trivial
    refine iff_of_true ?_ spared
    intro r member terminal
    have off : select r = false := by
      by_contra on
      rw [live r (by simpa using on)] at terminal
      cases terminal
    refine ⟨r,?_,rfl,rfl⟩
    rw [rows]
    exact List.mem_map.mpr ⟨r,member,retireIf_off off status metadata now⟩
  | cancel id reason metadata now rows => exact cancel_absorbed rows

theorem absorbed_refl (s : State) : Absorbed s s := fun r member _ => ⟨r,member,rfl,rfl⟩

theorem absorbed_trans {a b c : State} (first : Absorbed a b) (second : Absorbed b c) : Absorbed a c := by
  intro r member terminal
  obtain ⟨later,stored,same,status⟩ := first r member terminal
  obtain ⟨last,kept,equal,still⟩ := second later stored (by rwa [status])
  exact ⟨last,kept,equal.trans same,still.trans status⟩

-- In every run, from whatever table, a terminal status is the same in all later
-- states exactly when the router cancels no expired reservation.
theorem terminal_absorbing (start : State) (actions : List Action) :
    (∀ earlier later rest, actions = earlier ++ (later ++ rest) →
      ∀ s, Runs.exec step start earlier = some s → ∀ next, Runs.exec step s later = some next → Absorbed s next) ↔
      Runs.Along step (fun s action _ => sparesExpired s action) start actions := by
  rw [Runs.along_ordered actions absorbed_refl absorbed_trans]
  exact Runs.along_congr actions step_absorbed

-- The end task marks a reservation expired; a DELETE of it afterwards makes it cancelled.
theorem terminal_absorbing_cancelled_after_expiry : ¬∀ earlier later rest,
    serve 0 morning 1 3 ++ [.endTask 1 3600000001,.cancel 1 none 3600000002] = earlier ++ (later ++ rest) →
      ∀ s, Runs.exec step (State.initial office) earlier = some s →
        ∀ next, Runs.exec step s later = some next → Absorbed s next := by
  intro absorbing
  obtain ⟨s,before,next,after,r,member,terminal,changed⟩ :
      ∃ s ∈ Runs.exec step (State.initial office) (serve 0 morning 1 3 ++ [.endTask 1 3600000001]),
        ∃ next ∈ Runs.exec step s [.cancel 1 none 3600000002], ∃ r ∈ s.table.rows, r.status.terminal = true ∧
          ∀ later ∈ next.table.rows, later.id = r.id → later.status ≠ r.status := by decide +kernel
  obtain ⟨later,stored,same,status⟩ :=
    absorbing (serve 0 morning 1 3 ++ [.endTask 1 3600000001]) [.cancel 1 none 3600000002] [] rfl s before next after
      r member terminal
  exact changed later stored same status

-- The rows the UPDATE of `expire_old_reservations` touches, and what the function
-- returns: their number and their ids.
def Table.toExpire (t : Table) (now : Instant) : List Reservation :=
  t.rows.filter fun r => r.status.blocks ∧ r.endTime < now

structure Expired where
  expiredCount : Nat
  reservationIds : List Uuid

def Table.expireOldReservations (t : Table) (now : Instant) : Table × Expired :=
  (t.expireOld now,⟨(t.toExpire now).length,(t.toExpire now).map (·.id)⟩)

-- The machine together with the answers of all calls so far, oldest first.
structure Sweeping where
  machine : State
  calls : List Expired

def sweepStep (s : Sweeping) (action : Action) : Option Sweeping :=
  (step s.machine action).map fun next =>
    match action with
    | .expireOld now => ⟨next,s.calls ++ [(s.machine.table.expireOldReservations now).2]⟩
    | _ => ⟨next,s.calls⟩

def Sweeping.reported (s : Sweeping) : List Uuid := s.calls.flatMap (·.reservationIds)

-- No operation brings a row back to a status that blocks.
def Retired (t : Table) (id : Uuid) : Prop := ∃ r ∈ t.rows, r.id = id ∧ r.status.blocks = false

theorem retired_preserved {key : Uuid} (retired : Retired s.table key) (stepped : Stepped s next) :
    Retired next.table key := by
  obtain ⟨r,member,named,off⟩ := retired
  cases stepped with
  | advanced events advanced _ =>
    generalize next.table = table at advanced
    cases advanced with
    | read => exact ⟨r,member,named,off⟩
    | confirmed row free _ => exact ⟨r,List.mem_append_left _ member,named,off⟩
  | updated select status metadata now retires _ _ equal =>
    rw [equal]
    refine ⟨_,List.mem_map_of_mem member,by rw [retireIf_id]; exact named,?_⟩
    rcases retireIf_status select status metadata now r with same | set
    · rw [same]; exact off
    · rw [set]; exact retires

theorem toExpire_sound {t : Table} (member : r ∈ t.toExpire now) :
    r ∈ t.rows ∧ r.status.blocks = true ∧ r.endTime < now := by
  obtain ⟨there,selected⟩ := List.mem_filter.mp member
  exact ⟨there,of_decide_eq_true selected⟩

theorem expireOld_retires {t : Table} (member : r ∈ t.toExpire now) : Retired (t.expireOld now) r.id := by
  obtain ⟨there,selected⟩ := toExpire_sound member
  refine ⟨_,List.mem_map_of_mem there,retireIf_id .., ?_⟩
  rw [Reservation.retireIf,if_pos (decide_eq_true selected)]
  rfl

theorem expireOld_complete {t : Table} (member : r ∈ (t.expireOld now).rows) (blocks : r.status.blocks = true) :
    now ≤ r.endTime := by
  obtain ⟨old,_,rfl⟩ := List.mem_map.mp member
  by_cases selected : old.status.blocks = true ∧ old.endTime < now
  · rw [Reservation.retireIf,if_pos (decide_eq_true selected)] at blocks
    cases blocks
  · rw [retireIf_off (decide_eq_false selected)] at blocks ⊢
    exact not_lt.mp fun past => selected ⟨blocks,past⟩

-- What has been reported is retired, so no later call finds it again.
structure Swept (s : Sweeping) : Prop where
  once : s.reported.Nodup
  retired : ∀ id ∈ s.reported, Retired s.machine.table id

theorem unretired {t : Table} (member : r ∈ t.toExpire now) : ¬Retired t r.id := by
  rintro ⟨other,there,same,off⟩
  obtain ⟨stored,blocks,_⟩ := toExpire_sound member
  rw [List.inj_on_of_nodup_map t.primaryKey there stored same,blocks] at off
  cases off

theorem swept_called (swept : Swept s) (ran : step s.machine (.expireOld now) = some next) :
    Swept ⟨next,s.calls ++ [(s.machine.table.expireOldReservations now).2]⟩ := by
  have retires : ∀ id ∈ (s.machine.table.toExpire now).map (·.id), Retired next.table id := by
    cases ran
    intro id member
    obtain ⟨r,selected,rfl⟩ := List.mem_map.mp member
    exact expireOld_retires selected
  have reported : Sweeping.reported ⟨next,s.calls ++ [(s.machine.table.expireOldReservations now).2]⟩ =
      s.reported ++ (s.machine.table.toExpire now).map (·.id) := by
    simp [Sweeping.reported,Table.expireOldReservations]
  constructor
  · rw [reported,List.nodup_append]
    refine ⟨swept.once,s.machine.table.primaryKey.sublist (List.filter_sublist.map _),?_⟩
    intro old before id member equal
    obtain ⟨r,selected,rfl⟩ := List.mem_map.mp member
    exact unretired selected (equal ▸ swept.retired old before)
  · rw [reported]
    intro id member
    rcases List.mem_append.mp member with old | new
    · exact retired_preserved (swept.retired id old) (step_sound ran)
    · exact retires id new

theorem swept_preserved (swept : Swept s) (ran : sweepStep s action = some next) : Swept next := by
  obtain ⟨machine,stepped,rfl⟩ := Option.map_eq_some_iff.mp ran
  cases action with
  | expireOld now => exact swept_called swept stepped
  | _ => exact ⟨swept.once,fun id member => retired_preserved (swept.retired id member) (step_sound stepped)⟩

theorem reached_swept (path : Runs.Reached sweepStep meets ⟨start,[]⟩ s) : Swept s :=
  path.invariant Swept ⟨List.nodup_nil,fun _ member => absurd member List.not_mem_nil⟩
    fun swept _ ran => swept_preserved swept ran

theorem expires_once (path : Runs.Reached sweepStep (fun _ _ => True) ⟨start,[]⟩ s) :
    s.reported.Nodup ∧ ∀ now, ∃ next answer, sweepStep s (.expireOld now) = some next ∧ next.calls = s.calls ++ [answer] ∧
      (∀ id ∈ answer.reservationIds, ∃ r ∈ s.machine.table.rows,
        r.id = id ∧ (r.status = .pending ∨ r.status = .confirmed) ∧ r.endTime < now) ∧
      ∀ r ∈ next.machine.table.rows, r.status = .pending ∨ r.status = .confirmed → now ≤ r.endTime := by
  refine ⟨(reached_swept path).once,?_⟩
  intro now
  refine ⟨_,_,rfl,rfl,?_,?_⟩
  · intro id member
    obtain ⟨r,selected,rfl⟩ := List.mem_map.mp member
    obtain ⟨there,blocks,past⟩ := toExpire_sound selected
    exact ⟨r,there,rfl,blocks_cases.mp blocks,past⟩
  · intro r member live
    exact expireOld_complete member (blocks_cases.mpr live)

theorem expires_once_two_sweeps : ∃ s : Sweeping, s.reported = [1,2] ∧ s.reported.Nodup := by
  have start : Runs.Reached sweepStep (fun _ _ => True) ⟨State.initial office,[]⟩ ⟨State.initial office,[]⟩ := .refl
  obtain ⟨s,path,reported⟩ := start.found (fun _ _ => true) (fun s => s.reported = [1,2])
    (serve 0 morning 1 3 ++ serve 0 afternoon 2 3 ++ [.expireOld 3600000001,.expireOld 3600000002,.expireOld 7200000001])
    (fun _ _ => trivial) (by decide +kernel)
  exact ⟨s,reported,(expires_once path).1⟩

end SmartParking.Reservations
