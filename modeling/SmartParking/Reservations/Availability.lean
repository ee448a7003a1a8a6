import SmartParking.Reservations.Guarantees

namespace SmartParking.Reservations.Availability
open Lib

-- The disjunction in the WHERE clause of `check_availability`.
def threeWay (startTime endTime fromTime toTime : Instant) : Bool :=
  startTime ≤ fromTime && fromTime < endTime || startTime < toTime && toTime ≤ endTime ||
    fromTime ≤ startTime && endTime ≤ toTime

-- `StateManager.check_availability`.
def checkAvailability (t : Table) (spaceId : Uuid) (startTime endTime : Instant) : Bool :=
  (t.rows.filter fun r => r.spaceId = spaceId ∧ r.status = .active ∧
    threeWay r.startTime r.endTime startTime endTime = true).length == 0

structure SpaceAvailability where
  spaceId : Uuid
  spaceName : String
  queryStart : Instant
  queryEnd : Instant
  isAvailable : Bool
  reservations : List Reservation
  tenantId : Option Uuid

inductive Refusal where
  | badRequest (detail : String)
  | notFound (detail : String)

-- The rows of the endpoint's query: `ORDER BY start_time ASC`.
def Table.overlapping (t : Table) (spaceId : Uuid) (fromTime toTime : Instant) : List Reservation :=
  (t.rows.filter fun r => r.spaceId = spaceId ∧ r.status.blocks ∧ rangesOverlap r.startTime r.endTime fromTime toTime)
    |>.mergeSort fun a b => a.startTime ≤ b.startTime

def getSpaceAvailability (s : State) (spaceId : Uuid) (fromTime toTime : Instant) : Except Refusal SpaceAvailability :=
  if toTime ≤ fromTime then .error (.badRequest "'to' time must be after 'from' time")
  else match (s.spaces spaceId).filter (!·.deleted) with
    | none => .error (.notFound ("Space " ++ toString spaceId ++ " not found"))
    | some space =>
      let reservations := Table.overlapping s.table spaceId fromTime toTime
      .ok ⟨spaceId,space.name,fromTime,toTime,reservations.length == 0,reservations,space.tenantId⟩

-- A pending or confirmed reservation of the space meets the interval.
def Taken (t : Table) (spaceId : Uuid) (fromTime toTime : Instant) : Prop :=
  ∃ r ∈ t.rows, r.spaceId = spaceId ∧ r.status.blocks = true ∧ rangesOverlap r.startTime r.endTime fromTime toTime = true

variable {t : Table} {s : State} {spaceId : Uuid} {fromTime toTime : Instant} {c : Columns} {g : Generated}
  {report : Violation} {row : Reservation}

theorem overlapping_none : ((Table.overlapping t spaceId fromTime toTime).length == 0) = true ↔
    ¬Taken t spaceId fromTime toTime := by
  rw [Table.overlapping,List.length_mergeSort,beq_iff_eq,List.length_eq_zero_iff,List.filter_eq_nil_iff]
  unfold Taken
  simp only [decide_eq_true_eq,not_exists,not_and]

-- Where no row is active the old status matches nothing.
theorem checkAvailability_blind (inactive : Inactive t) (spaceId : Uuid) (fromTime toTime : Instant) :
    checkAvailability t spaceId fromTime toTime = true := by
  unfold checkAvailability
  rw [beq_iff_eq,List.length_eq_zero_iff,List.filter_eq_nil_iff]
  intro r member matched
  exact inactive r member (of_decide_eq_true matched).2.1

theorem noOverlap_violated (confirmed : row.status = .confirmed) :
    .noOverlap ∈ t.violated row ↔ Taken t row.spaceId row.startTime row.endTime := by
  have clash : ∀ r : Reservation, r.clashes row = true ↔ r.spaceId = row.spaceId ∧ r.status.blocks = true ∧
      rangesOverlap r.startTime r.endTime row.startTime row.endTime = true := by
    intro r
    simp [Reservation.clashes,Reservation.overlaps,confirmed,Status.blocks]
    tauto
  have listed : .noOverlap ∈ t.violated row ↔ t.rows.any (·.clashes row) = true := by
    unfold Table.violated
    simp only [List.mem_append,List.mem_ite_nil_right,List.mem_singleton,reduceCtorEq,and_false,false_or,and_true]
  rw [listed,List.any_eq_true]
  exact exists_congr fun r => and_congr_right fun _ => clash r

theorem insert_accepted (confirmed : c.status = some .confirmed) (free : ¬Taken t c.spaceId c.startTime c.endTime) :
    t.insert c g report ≠ .error .noOverlap := by
  unfold Table.insert
  cases c.tenantId with
  | none => exact fun same => by cases same
  | some tenantId =>
    dsimp only
    split
    · rename_i validTimes
      split
      · rename_i validDuration
        have row : (c.row g tenantId validTimes validDuration).status = .confirmed := by simp [Columns.row,confirmed]
        have absent := (noOverlap_violated row).not.mpr free
        split
        · exact fun same => by cases same
        · rename_i violated
          intro refused
          have named := Except.error.inj refused
          split at named
          · rename_i reported
            exact absent (named ▸ reported)
          · obtain ⟨first,rest,list⟩ := List.exists_cons_of_ne_nil violated
            rw [list,List.headD_cons] at named
            exact absent (by rw [list,named]; exact List.mem_cons_self)
      · exact fun same => by cases same
    · exact fun same => by cases same

-- The endpoint and the constraint agree on a reservation that nothing else speaks
-- against.
theorem insert_refused (confirmed : c.status = some .confirmed) (tenant : c.tenantId = some tenantId)
    (times : c.startTime < c.endTime) (duration : c.endTime-c.startTime ≤ day)
    (fresh : ∀ r ∈ t.rows, r.id ≠ g.id ∧ r.requestId ≠ c.requestId.getD g.requestId) :
    t.insert c g report = .error .noOverlap ↔ Taken t c.spaceId c.startTime c.endTime := by
  have row : (c.row g tenantId times duration).status = .confirmed := by simp [Columns.row,confirmed]
  have only : ∀ violation ∈ t.violated (c.row g tenantId times duration), violation = .noOverlap := by
    have key : (c.row g tenantId times duration).id ∉ t.rows.map (·.id) := by
      simpa [Columns.row] using fun r member => (fresh r member).1
    have request : (c.row g tenantId times duration).requestId ∉ t.rows.map (·.requestId) := by
      simpa [Columns.row] using fun r member => (fresh r member).2
    have both : ((c.row g tenantId times duration).tenantId,(c.row g tenantId times duration).requestId) ∉
        t.rows.map fun r => (r.tenantId,r.requestId) := by
      intro listed
      obtain ⟨r,member,same⟩ := List.mem_map.mp listed
      exact request (List.mem_map.mpr ⟨r,member,(Prod.mk.inj same).2⟩)
    unfold Table.violated
    rw [if_neg key,if_neg request,if_neg both]
    intro violation listed
    simp only [List.nil_append,List.mem_ite_nil_right,List.mem_singleton] at listed
    exact listed.2
  constructor
  · intro refused
    by_contra free
    exact insert_accepted confirmed free refused
  · intro taken
    have violated := (noOverlap_violated row).mpr taken
    unfold Table.insert
    rw [tenant]
    dsimp only
    rw [dif_pos times,dif_pos duration,dif_neg (List.ne_nil_of_mem violated)]
    split
    · rename_i reported
      rw [only report reported]
    · obtain ⟨first,rest,list⟩ := List.exists_cons_of_ne_nil (List.ne_nil_of_mem violated)
      rw [list,List.headD_cons,only first (by rw [list]; exact List.mem_cons_self)]

-- On a table that the routers produced the three answers agree exactly where the
-- interval is free.
theorem availability_agrees (path : Runs.Reached step (fun _ _ => True) (State.initial spaces) s) (report : Violation)
    (existing : (s.spaces c.spaceId).filter (!·.deleted) = some space) (order : c.startTime < c.endTime)
    (confirmed : c.status = some .confirmed) :
    ∃ a, getSpaceAvailability s c.spaceId c.startTime c.endTime = .ok a ∧
      (checkAvailability s.table c.spaceId c.startTime c.endTime = a.isAvailable ∧
          (a.isAvailable = true ↔ s.table.insert c g report ≠ .error .noOverlap) ↔
        ¬Taken s.table c.spaceId c.startTime c.endTime) := by
  have blind := checkAvailability_blind (reached_inactive path) c.spaceId c.startTime c.endTime
  have endpoint : ((Table.overlapping s.table c.spaceId c.startTime c.endTime).length == 0) = true ↔
    ¬Taken s.table c.spaceId c.startTime c.endTime := overlapping_none
  refine ⟨_,by rw [getSpaceAvailability,if_neg (Int.not_le.mpr order),existing],?_⟩
  dsimp only
  rw [blind]
  constructor
  · rintro ⟨same,_⟩
    exact endpoint.mp same.symm
  · intro free
    exact ⟨(endpoint.mpr free).symm,iff_of_true (endpoint.mpr free) (insert_accepted confirmed free)⟩

-- One hour is booked, as the routers do it.
theorem booked_morning : ∃ s : State, Runs.Reached step (fun _ _ => True) (State.initial office) s ∧
    (∃ space, (s.spaces 7).filter (!·.deleted) = some space) ∧
    ∃ row, s.table.rows = [row] ∧ row.id = 1 ∧ row.requestId = 1001 ∧ row.spaceId = 7 ∧
      row.status.blocks = true ∧ row.startTime = 0 ∧ row.endTime = 3600000000 := by
  have start : Runs.Reached step (fun _ _ => True) (State.initial office) (State.initial office) := .refl
  obtain ⟨s,path,existing,keys,periods⟩ := start.found (fun _ _ => true)
    (fun s => ((s.spaces 7).filter (!·.deleted)).isSome = true ∧
      s.table.rows.map (fun r => (r.id,r.requestId,r.spaceId)) = [(1,1001,7)] ∧
      s.table.rows.map (fun r => (r.status.blocks,r.startTime,r.endTime)) = [(true,0,3600000000)])
    (serve 0 morning 1 3) (fun _ _ => trivial) (by decide +kernel)
  obtain ⟨row,one,key⟩ := List.map_eq_singleton_iff.mp keys
  rw [one,List.map_singleton] at periods
  simp only [List.cons.injEq,Prod.mk.injEq,and_true] at key periods
  exact ⟨s,path,Option.isSome_iff_exists.mp existing,row,one,key.1,key.2.1,key.2.2,periods⟩

theorem availability_agrees_afternoon : ∃ (s : State) (a : SpaceAvailability), s.table.rows.length = 1 ∧
    getSpaceAvailability s 7 afternoon.reservedFrom afternoon.reservedUntil = .ok a ∧
      checkAvailability s.table 7 afternoon.reservedFrom afternoon.reservedUntil = a.isAvailable ∧
      (a.isAvailable = true ↔
        s.table.insert (afternoon.columns 9 (some 1)) ⟨3,2003,0⟩ .requestId ≠ .error .noOverlap) := by
  obtain ⟨s,path,⟨space,existing⟩,row,one,_,_,_,_,_,ending⟩ := booked_morning
  obtain ⟨a,answered,agree⟩ := availability_agrees path (c := afternoon.columns 9 (some 1)) (g := ⟨3,2003,0⟩)
    .requestId existing (by decide) rfl
  refine ⟨s,a,by rw [one]; rfl,answered,agree.mpr ?_⟩
  rintro ⟨r,member,_,_,overlap⟩
  rw [one,List.mem_singleton] at member
  rw [member,rangesOverlap,ending,Bool.and_eq_true] at overlap
  exact absurd overlap.2 (by decide)

-- Across the booked half hour the old status still says that the space is free.
theorem availability_disagrees : ∃ (s : State) (a : SpaceAvailability),
    Runs.Reached step (fun _ _ => True) (State.initial office) s ∧
      getSpaceAvailability s 7 overlapping.reservedFrom overlapping.reservedUntil = .ok a ∧
      checkAvailability s.table 7 overlapping.reservedFrom overlapping.reservedUntil = true ∧
      a.isAvailable = false ∧
      s.table.insert (overlapping.columns 9 (some 1)) ⟨3,2003,0⟩ .noOverlap = .error .noOverlap := by
  obtain ⟨s,path,⟨space,existing⟩,row,one,key,request,same,blocks,beginning,ending⟩ := booked_morning
  have taken : Taken s.table 7 overlapping.reservedFrom overlapping.reservedUntil := by
    refine ⟨row,by rw [one]; exact List.mem_singleton_self row,same,blocks,?_⟩
    rw [rangesOverlap,beginning,ending]
    decide
  refine ⟨s,_,path,by rw [getSpaceAvailability,if_neg (by decide),existing],
    checkAvailability_blind (reached_inactive path) 7 _ _,?_,?_⟩
  · exact eq_false_of_ne_true fun free => overlapping_none.mp free taken
  · refine (insert_refused (c := overlapping.columns 9 (some 1)) rfl rfl (by decide) (by decide) ?_).mpr taken
    intro r member
    rw [one,List.mem_singleton] at member
    rw [member,key,request]
    decide

end SmartParking.Reservations.Availability
