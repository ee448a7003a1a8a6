import Mathlib
import SmartParking.Lib.Lists
import SmartParking.Reservations.Machine

namespace SmartParking.Reservations
open Lib

-- What a request may do to the table and the log. Every row it adds is one its
-- own INSERT checked, and an answer it gives names a row of its request id.
inductive Advanced (t : Table) : Table → List Event → Prop where
  | read : (∀ requestId id, .inserted requestId id ∉ events) →
      (∀ requestId answer, .responded requestId (.created answer) ∈ events →
        ∃ row ∈ t.rows, row.requestId = requestId ∧ row.id = answer.reservationId) → Advanced t t events
  | confirmed (row : Reservation) (free : t.violated row = []) : row.status = .confirmed →
      Advanced t (t.add row free)
        [.inserted row.requestId row.id,.responded row.requestId (.created (row.answer false))]

theorem findRequest_sound {t : Table} (found : t.findRequest requestId = some row) :
    row ∈ t.rows ∧ row.requestId = requestId :=
  ⟨List.mem_of_find?_eq_some found,by simpa using List.find?_some found⟩

theorem advanced_silent (t : Table) : Advanced t t [] :=
  .read (fun _ _ member => absurd member List.not_mem_nil) fun _ _ member => absurd member List.not_mem_nil

theorem advanced_existing {t : Table} (found : t.findRequest requestId = some row) :
    Advanced t t [.responded requestId (.created (row.answer true))] := by
  refine .read (by simp) ?_
  intro other answer member
  simp only [List.mem_singleton,Event.responded.injEq,Response.created.injEq] at member
  obtain ⟨rfl,rfl⟩ := member
  obtain ⟨there,same⟩ := findRequest_sound found
  exact ⟨row,there,same,rfl⟩

theorem afterUnique_advanced (t : Table) (r : ReservationCreate) (requestId : Uuid) (error : String) :
    Advanced t t (afterUnique r requestId error).1 := by
  unfold afterUnique
  split
  · exact advanced_silent t
  · exact .read (by simp) (by simp)

theorem onInsertError_advanced (t : Table) (r : ReservationCreate) (requestId : Uuid) (error : String) :
    Advanced t t (onInsertError r requestId error).1 := by
  unfold onInsertError
  split
  · exact advanced_silent t
  · exact afterUnique_advanced t r requestId error

-- An INSERT that names no tenant fails: the column has no default.
theorem poolInsert_fails (t : Table) (r : PoolCreate) (g : Generated) (report : Violation) :
    t.insert r.columns g report = .error .tenantIdNull := rfl

theorem advance_sound (ran : advance t spaces g report detail pc = some (next,events,later)) :
    Advanced t next events := by
  cases pc with
  | idle => cases ran
  | lookup r requestId =>
    simp only [advance] at ran
    split at ran
    · cases ran; exact advanced_existing ‹_›
    · cases ran; exact advanced_silent t
  | spaceCheck r requestId =>
    simp only [advance] at ran
    split at ran
    · cases ran; exact advanced_silent t
    · cases ran; exact .read (by simp) (by simp)
  | insert r requestId tenantId =>
    simp only [advance] at ran
    split at ran
    · rename_i inserted
      cases ran
      obtain ⟨tenant,times,duration,_,rfl,free,rfl⟩ := Table.insert_ok inserted
      exact .confirmed _ free rfl
    · rename_i violation _
      have equal := Option.some.inj ran
      simp only [Prod.mk.injEq] at equal
      obtain ⟨rfl,rest⟩ := equal
      have logged := onInsertError_advanced t r requestId (violation.message ++ detail)
      rw [rest] at logged
      exact logged
  | refetch r requestId error =>
    simp only [advance] at ran
    split at ran
    · cases ran; exact advanced_existing ‹_›
    · have equal := Option.some.inj ran
      simp only [Prod.mk.injEq] at equal
      obtain ⟨rfl,rest⟩ := equal
      have logged := afterUnique_advanced t r requestId error
      rw [rest] at logged
      exact logged
  | conflicting r requestId =>
    cases ran
    exact .read (by simp) (by simp [conflictResponse])
  | poolSpaceCheck r =>
    simp only [advance] at ran
    split at ran
    · cases ran; exact advanced_silent t
    · cases ran; exact .read (by simp) (by simp)
  | poolOverlap r =>
    simp only [advance] at ran
    split at ran
    · cases ran; exact .read (by simp) (by simp)
    · cases ran; exact advanced_silent t
  | poolInsert r =>
    simp only [advance,poolInsert_fails] at ran
    cases ran
    exact .read (by simp) (by simp)

inductive Stepped (s next : State) : Prop where
  | advanced (events : List Event) : Advanced s.table next.table events → next.log = s.log ++ events → Stepped s next
  | updated (select : Reservation → Bool) (status : Status) (metadata : Option Metadata → Option Metadata)
      (now : Instant) (retires : status.blocks = false) (events : List Event) : status ≠ .active →
      next.table = s.table.update select status metadata now retires →
      (∀ requestId id, .inserted requestId id ∉ events) →
      (∀ requestId response, .responded requestId response ∉ events) → next.log = s.log ++ events → Stepped s next

theorem step_sound (ran : step s action = some next) : Stepped s next := by
  cases action with
  | create t r uuid =>
    simp only [step] at ran
    split at ran
    · cases ran; exact .advanced [] (advanced_silent _) rfl
    · cases ran
  | poolCreate t r =>
    simp only [step] at ran
    split at ran
    · cases ran; exact .advanced [] (advanced_silent _) rfl
    · cases ran
  | run t g report detail =>
    obtain ⟨⟨table,events,later⟩,advanced,rfl⟩ := Option.map_eq_some_iff.mp ran
    exact .advanced events (advance_sound advanced) rfl
  | cancel id reason now => cases ran; exact .updated _ .cancelled _ now rfl _ (by decide) rfl (by simp) (by simp) rfl
  | poolCancel id now => cases ran; exact .updated _ .cancelled _ now rfl _ (by decide) rfl (by simp) (by simp) rfl
  | endTask id now => cases ran; exact .updated _ .expired _ now rfl [] (by decide) rfl (by simp) (by simp) rfl
  | expireOld now => cases ran; exact .updated _ .expired _ now rfl [] (by decide) rfl (by simp) (by simp) rfl
  | setSpace id space =>
    cases ran
    exact .advanced [] (advanced_silent _) (List.append_nil _).symm

-- The default status of the column is never stored: the only INSERT that relies
-- on it fails, and no UPDATE sets it.
def Inactive (t : Table) : Prop := ∀ r ∈ t.rows, r.status ≠ .active

theorem inactive_preserved (inactive : Inactive s.table) (stepped : Stepped s next) : Inactive next.table := by
  cases stepped with
  | advanced events advanced _ =>
    generalize next.table = table at advanced
    cases advanced with
    | read => exact inactive
    | confirmed row free confirmed =>
      intro r member
      rcases List.mem_append.mp member with old | last
      · exact inactive r old
      · rw [List.mem_singleton.mp last,confirmed]
        decide
  | updated select status metadata now retires _ active equal =>
    intro r member
    rw [equal] at member
    obtain ⟨old,was,rfl⟩ := List.mem_map.mp member
    rcases retireIf_status select status metadata now old with same | set
    · rw [same]
      exact inactive old was
    · rw [set]
      exact active

theorem reached_inactive (path : Runs.Reached step meets (State.initial spaces) s) : Inactive s.table :=
  path.invariant (fun s => Inactive s.table) (fun _ member => absurd member List.not_mem_nil)
    fun inactive _ ran => inactive_preserved inactive (step_sound ran)

theorem live_blocks {status : Status} (live : status.live = true) (other : status ≠ .active) :
    status.blocks = true := by
  cases status with
  | pending | confirmed => rfl
  | active => exact absurd rfl other
  | cancelled | expired | completed | noShow => cases live

theorem apart_disjoint {a b : Reservation} (apart : a.overlaps b = false) :
    Disjoint (Set.Ico a.startTime a.endTime) (Set.Ico b.startTime b.endTime) := by
  rw [Set.disjoint_left]
  rintro t ⟨aStarts,aEnds⟩ ⟨bStarts,bEnds⟩
  have both : a.startTime < b.endTime ∧ b.startTime < a.endTime :=
    ⟨lt_of_le_of_lt aStarts bEnds,lt_of_le_of_lt bStarts aEnds⟩
  simp [Reservation.overlaps,rangesOverlap,both] at apart

theorem no_double_booking (path : Runs.Reached step (fun _ _ => True) (State.initial spaces) s)
    (aIn : a ∈ s.table.rows) (bIn : b ∈ s.table.rows) (distinct : a.id ≠ b.id) (same : a.spaceId = b.spaceId)
    (aLive : a.status.live = true) (bLive : b.status.live = true) :
    Disjoint (Set.Ico a.startTime a.endTime) (Set.Ico b.startTime b.endTime) := by
  have inactive := reached_inactive path
  have apart : a.clashes b = false :=
    s.table.noOverlap.forall aIn bIn fun equal => distinct (congrArg Reservation.id equal)
  apply apart_disjoint
  simpa [Reservation.clashes,live_blocks aLive (inactive a aIn),live_blocks bLive (inactive b bIn),same] using apart

def serve (t : Nat) (r : ReservationCreate) (id : Uuid) (statements : Nat) : List Action :=
  .create t r (1000+id)::List.replicate statements (.run t ⟨id,2000+id,0⟩ .requestId "")

def office (id : Uuid) : Option Space := if id = 7 then some {name := "A-007",tenantId := some 1} else none

def morning : ReservationCreate := {spaceId := 7,reservedFrom := 0,reservedUntil := 3600000000}
def overlapping : ReservationCreate := {morning with reservedFrom := 1800000000,reservedUntil := 5400000000}
def afternoon : ReservationCreate := {morning with reservedFrom := 3600000000,reservedUntil := 7200000000}

theorem no_double_booking_adjacent : ∃ s : State, ∃ a ∈ s.table.rows, ∃ b ∈ s.table.rows,
    a.id ≠ b.id ∧ a.spaceId = b.spaceId ∧
      Disjoint (Set.Ico a.startTime a.endTime) (Set.Ico b.startTime b.endTime) := by
  have start : Runs.Reached step (fun _ _ => True) (State.initial office) (State.initial office) := .refl
  obtain ⟨s,path,a,aIn,b,bIn,distinct,same,aLive,bLive⟩ := start.found (fun _ _ => true)
    (fun s => ∃ a ∈ s.table.rows, ∃ b ∈ s.table.rows, a.id ≠ b.id ∧ a.spaceId = b.spaceId ∧
      a.status.live = true ∧ b.status.live = true)
    (serve 0 morning 1 3 ++ serve 0 overlapping 2 4 ++ serve 0 afternoon 3 3) (fun _ _ => trivial) (by decide +kernel)
  exact ⟨s,a,aIn,b,bIn,distinct,same,no_double_booking path aIn bIn distinct same aLive bLive⟩

def Event.insertion : Event → Option (Uuid × Uuid)
  | .inserted requestId id => some (requestId,id)
  | _ => none

-- Rows are never deleted and keep their keys, and answers name them.
structure Recorded (s : State) : Prop where
  inserted : s.log.filterMap Event.insertion = s.table.rows.map fun r => (r.requestId,r.id)
  answered : ∀ requestId answer, .responded requestId (.created answer) ∈ s.log →
    ∃ row ∈ s.table.rows, row.requestId = requestId ∧ row.id = answer.reservationId

theorem insertion_none {events : List Event} (silent : ∀ requestId id, .inserted requestId id ∉ events) :
    events.filterMap Event.insertion = [] := by
  rw [List.filterMap_eq_nil_iff]
  intro e member
  cases e with
  | inserted requestId id => exact absurd member (silent requestId id)
  | _ => rfl

theorem recorded_advanced (recorded : Recorded s) (advanced : Advanced s.table next.table events)
    (log : next.log = s.log ++ events) : Recorded next := by
  generalize ended : next.table = table at advanced
  cases advanced with
  | read silent answers =>
    constructor
    · rw [log,List.filterMap_append,insertion_none silent,List.append_nil,recorded.inserted,ended]
    · intro requestId answer member
      rw [ended]
      rcases List.mem_append.mp (log ▸ member) with old | new
      · exact recorded.answered requestId answer old
      · exact answers requestId answer new
  | confirmed row free _ =>
    constructor
    · rw [log,List.filterMap_append,recorded.inserted,ended]
      simp [Table.add,Event.insertion]
    · intro requestId answer member
      rw [ended]
      rcases List.mem_append.mp (log ▸ member) with old | new
      · obtain ⟨other,there,keys⟩ := recorded.answered requestId answer old
        exact ⟨other,List.mem_append_left _ there,keys⟩
      · simp only [List.mem_cons,reduceCtorEq,Event.responded.injEq,Response.created.injEq,List.not_mem_nil,
          or_false,false_or] at new
        obtain ⟨rfl,rfl⟩ := new
        exact ⟨row,List.mem_append_right _ List.mem_cons_self,rfl,rfl⟩

theorem recorded_preserved (recorded : Recorded s) (stepped : Stepped s next) : Recorded next := by
  cases stepped with
  | advanced events advanced log => exact recorded_advanced recorded advanced log
  | updated select status metadata now retires events _ equal silent quiet log =>
    constructor
    · rw [log,List.filterMap_append,insertion_none silent,List.append_nil,recorded.inserted,equal]
      simp [Table.update,Function.comp_def]
    · intro requestId answer member
      rcases List.mem_append.mp (log ▸ member) with old | new
      · obtain ⟨row,there,same,id⟩ := recorded.answered requestId answer old
        rw [equal]
        exact ⟨_,List.mem_map_of_mem there,by simpa using same,by simpa using id⟩
      · exact absurd new (quiet requestId _)

theorem reached_recorded (path : Runs.Reached step meets (State.initial spaces) s) : Recorded s := by
  refine path.invariant Recorded ⟨rfl,?_⟩ fun recorded _ ran => recorded_preserved recorded (step_sound ran)
  intro requestId answer member
  exact absurd member List.not_mem_nil

theorem filter_key_le_one {rows : List Reservation} (distinct : (rows.map (·.requestId)).Nodup) (key : Uuid) :
    (rows.filter (·.requestId = key)).length ≤ 1 := by
  apply Lists.filter_length_le_one (List.Nodup.of_map _ distinct)
  intro one oneIn other otherIn oneOf otherOf
  exact List.inj_on_of_nodup_map distinct oneIn otherIn
    ((of_decide_eq_true oneOf).trans (of_decide_eq_true otherOf).symm)

-- One row at most is ever made for a request id, and every answer that is not an
-- error names it.
theorem creation_idempotent (path : Runs.Reached step (fun _ _ => True) (State.initial spaces) s) (requestId : Uuid) :
    (s.table.rows.filter (·.requestId = requestId)).length ≤ 1 ∧
    ((s.log.filterMap Event.insertion).filter (·.1 = requestId)).length ≤ 1 ∧
    ∀ answer, .responded requestId (.created answer) ∈ s.log →
      ∃ row ∈ s.table.rows, row.requestId = requestId ∧ answer.reservationId = row.id := by
  have recorded := reached_recorded path
  have single := filter_key_le_one s.table.requestId requestId
  refine ⟨single,?_,?_⟩
  · rw [recorded.inserted,List.filter_map,List.length_map]
    exact single
  · intro answer member
    obtain ⟨row,there,same,id⟩ := recorded.answered requestId answer member
    exact ⟨row,there,same,id.symm⟩

-- Two requests with one id both find nothing; the second INSERT fails on the key
-- and its request answers with the row of the first.
def racing : List Action :=
  let r := {morning with requestId := some 42}
  let run := fun (t : Nat) => Action.run t ⟨t+1,0,0⟩ .requestId "\nDETAIL:  Key (request_id)=(42) already exists."
  [.create 0 r 0,.create 1 r 0,run 0,run 1,run 0,run 1,run 0,run 1,run 1]

def Event.answers (requestId id : Uuid) (idempotent : Bool) : Event → Bool
  | .responded requestId' (.created answer) =>
    requestId' == requestId && answer.reservationId == id && answer.idempotent == idempotent
  | _ => false

theorem creation_idempotent_race : ∃ s : State, s.log.any (Event.answers 42 1 false) = true ∧
    s.log.any (Event.answers 42 1 true) = true ∧ (s.table.rows.filter (·.requestId = 42)).length ≤ 1 ∧
    ∀ answer, .responded 42 (.created answer) ∈ s.log →
      ∃ row ∈ s.table.rows, row.requestId = 42 ∧ answer.reservationId = row.id := by
  have start : Runs.Reached step (fun _ _ => True) (State.initial office) (State.initial office) := .refl
  obtain ⟨s,path,first,second⟩ := start.found (fun _ _ => true)
    (fun s => s.log.any (Event.answers 42 1 false) = true ∧ s.log.any (Event.answers 42 1 true) = true)
    racing (fun _ _ => trivial) (by decide +kernel)
  obtain ⟨single,_,answers⟩ := creation_idempotent path 42
  exact ⟨s,first,second,single,answers⟩

end SmartParking.Reservations
