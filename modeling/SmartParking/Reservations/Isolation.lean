import SmartParking.Reservations.Guarantees

namespace SmartParking.Reservations.Isolation
open Lib Lib.Runs

structure Contents where
  table : Table
  spaces : Uuid → Option Space

def recover (t : Table) (r : ReservationCreate) (error : String) : Response :=
  if mentions error.toLower "exclusion" ∨ mentions error.toLower "no_reservation_overlap" then conflictResponse t r
  else .internal ("Failed to create reservation: " ++ error)

def onError (t : Table) (r : ReservationCreate) (requestId : Uuid) (error : String) : Response :=
  if mentions error.toLower "unique" ∧ mentions error.toLower "request_id" then
    match t.findRequest requestId with
    | some existing => .created (existing.answer true)
    | none => recover t r error
  else recover t r error

-- `create_reservation` where no other call comes in between. `uuid` is what
-- `uuid4` draws, and the database draws `g`, `report` and `detail`.
def createReservation (db : Contents) (r : ReservationCreate) (uuid : Uuid) (g : Generated) (report : Violation)
    (detail : String) : Table × Response :=
  let requestId := r.requestId.getD uuid
  match db.table.findRequest requestId with
  | some existing => (db.table,.created (existing.answer true))
  | none =>
    match (db.spaces r.spaceId).filter (!·.deleted) with
    | none => (db.table,.notFound ("Space with ID " ++ toString r.spaceId ++ " not found"))
    | some space =>
      match db.table.insert (r.columns requestId space.tenantId) g report with
      | .ok (next,row) => (next,.created (row.answer false))
      | .error violation => (db.table,onError db.table r requestId (violation.message ++ detail))

-- The call of thread `c` comes to its end when nothing else runs.
def Finishes (s : State) (c : Nat) (g : Generated) (report : Violation) (detail : String) (requestId : Uuid)
    (result : Table × Response) : Prop :=
  ∃ n next, exec Reservations.step s (List.replicate n (.run c g report detail)) = some next ∧
    next.threads c = .idle ∧ next.table = result.1 ∧ next.log.getLast? = some (.responded requestId result.2)

section Alone

variable {s : State} {c : Nat} {g : Generated} {report : Violation} {detail : String} {requestId : Uuid}
  {result : Table × Response} {r : ReservationCreate}

theorem finishes_step (out : Table × List Event × Pc)
    (advanced : advance s.table s.spaces g report detail (s.threads c) = some out)
    (later : Finishes (s.put c out) c g report detail requestId result) :
    Finishes s c g report detail requestId result := by
  obtain ⟨n,next,executed,idle,table,last⟩ := later
  refine ⟨n+1,next,?_,idle,table,last⟩
  simp only [List.replicate_succ,exec,Reservations.step,advanced,Option.map_some,Option.bind_some]
  exact executed

theorem finishes_response (s : State) (c : Nat) (t : Table) (earlier : List Event) (requestId : Uuid)
    (response : Response) :
    Finishes (s.put c (t,earlier ++ [.responded requestId response],.idle)) c g report detail requestId (t,response) :=
  ⟨0,_,rfl,Function.update_self .., rfl,by simp [State.put]⟩

theorem finishes_recover (s : State) (c : Nat) (r : ReservationCreate) (requestId : Uuid) (error : String) :
    Finishes (s.put c (s.table,afterUnique r requestId error)) c g report detail requestId
      (s.table,recover s.table r error) := by
  unfold afterUnique recover
  split
  · refine finishes_step ((s.table,[.responded requestId (conflictResponse s.table r)],.idle)) ?_ ?_
    · simp [State.put,advance]
    · exact finishes_response _ c s.table [] requestId _
  · exact finishes_response s c s.table [] requestId _

theorem finishes_onError (s : State) (c : Nat) (r : ReservationCreate) (requestId : Uuid) (error : String) :
    Finishes (s.put c (s.table,onInsertError r requestId error)) c g report detail requestId
      (s.table,onError s.table r requestId error) := by
  unfold onInsertError onError
  split
  · cases found : s.table.findRequest requestId with
    | some existing =>
      refine finishes_step ((s.table,[.responded requestId (.created (existing.answer true))],.idle)) ?_ ?_
      · simp [State.put,advance,found]
      · exact finishes_response _ c s.table [] requestId _
    | none =>
      refine finishes_step ((s.table,afterUnique r requestId error)) ?_ ?_
      · simp [State.put,advance,found]
      · exact finishes_recover _ c r requestId error
  · exact finishes_recover s c r requestId error

-- The statements of the call, one after the other, do what the function does.
theorem createReservation_alone (s : State) (c : Nat) (r : ReservationCreate) (uuid : Uuid)
    (calling : s.threads c = .lookup r (r.requestId.getD uuid)) :
    Finishes s c g report detail (r.requestId.getD uuid)
      (createReservation ⟨s.table,s.spaces⟩ r uuid g report detail) := by
  unfold createReservation
  generalize r.requestId.getD uuid = requestId at calling
  dsimp only
  cases found : s.table.findRequest requestId with
  | some existing =>
    dsimp only
    refine finishes_step ((s.table,[.responded requestId (.created (existing.answer true))],.idle)) ?_ ?_
    · simp [calling,advance,found]
    · exact finishes_response s c s.table [] requestId _
  | none =>
    dsimp only
    refine finishes_step ((s.table,[],.spaceCheck r requestId)) (by simp [calling,advance,found]) ?_
    cases space : (s.spaces r.spaceId).filter (!·.deleted) with
    | none =>
      dsimp only
      refine finishes_step ((s.table,[.responded requestId (.notFound _)],.idle)) ?_
        (finishes_response _ c s.table [] requestId _)
      simp [State.put,advance,space]
    | some row =>
      dsimp only
      refine finishes_step ((s.table,[],.insert r requestId row.tenantId)) ?_ ?_
      · simp [State.put,advance,space]
      · cases inserted : s.table.insert (r.columns requestId row.tenantId) g report with
        | ok pair =>
          obtain ⟨next,added⟩ := pair
          dsimp only
          refine finishes_step ((next,[.inserted added.requestId added.id,
            .responded requestId (.created (added.answer false))],.idle)) ?_
            (finishes_response _ c next [.inserted added.requestId added.id] requestId _)
          simp [State.put,advance,inserted]
        | error violation =>
          dsimp only
          refine finishes_step ((s.table,onInsertError r requestId (violation.message ++ detail))) ?_
            (finishes_onError _ c r requestId _)
          simp [State.put,advance,inserted]

end Alone

-- The rows of one tenant are the same.
structure Agree (tenantId : Uuid) (d e : Contents) : Prop where
  reservations : (d.table.rows.filter (·.tenantId = tenantId)) = e.table.rows.filter (·.tenantId = tenantId)
  spaces : ∀ id, (d.spaces id).filter (·.tenantId = some tenantId) = (e.spaces id).filter (·.tenantId = some tenantId)

-- The response, and the rows that the call adds to the tenant's.
def outcome (tenantId : Uuid) (db : Contents) (r : ReservationCreate) (uuid : Uuid) (g : Generated)
    (report : Violation) (detail : String) : Response × List Reservation :=
  let result := createReservation db r uuid g report detail
  (result.2,result.1.rows.filter fun row => row.tenantId = tenantId ∧ row.id ∉ db.table.rows.map (·.id))

-- The answer to a request whose id is taken, by whichever tenant.
def idempotentAnswer (t : Table) (requestId : Uuid) : Option Answer := (t.findRequest requestId).map (·.answer true)

-- The reservations a booking is compared with, by whichever tenant.
def conflicts (t : Table) (r : ReservationCreate) : List Conflict :=
  (t.conflicting r.spaceId r.reservedFrom r.reservedUntil).map fun c =>
    ⟨c.id,c.startTime,c.endTime,c.status,c.userEmail⟩

def timesError (r : ReservationCreate) : Option Violation :=
  if r.reservedFrom < r.reservedUntil then
    if r.reservedUntil-r.reservedFrom ≤ day then none else some .validDuration
  else some .validTimes

def reportsOverlap (error : String) : Prop :=
  mentions error.toLower "exclusion" ∨ mentions error.toLower "no_reservation_overlap"

instance (error : String) : Decidable (reportsOverlap error) := inferInstanceAs (Decidable (_ ∨ _))

-- Whether the call gets as far as the other reservations of the space: its times
-- pass the checks of the table, or the error of a failed check reads like an
-- overlap.
def Compares (space : Option Space) (r : ReservationCreate) (detail : String) : Prop :=
  (space.filter (!·.deleted)).isSome ∧ ∀ violation ∈ timesError r, reportsOverlap (violation.message ++ detail)

-- The two queries that leave the tenant out find the same.
structure SameReads (d e : Contents) (r : ReservationCreate) (requestId : Uuid) (detail : String) : Prop where
  lookup : idempotentAnswer d.table requestId = idempotentAnswer e.table requestId
  overlap : idempotentAnswer d.table requestId = none → Compares (d.spaces r.spaceId) r detail →
    conflicts d.table r = conflicts e.table r

variable {t : Table} {r : ReservationCreate} {g : Generated} {report : Violation} {detail : String}
  {requestId tenantId uuid : Uuid} {db d e : Contents}

def conflictOf (r : ReservationCreate) (found : List Conflict) : Response :=
  .conflict ("Reservation conflicts with " ++ toString found.length ++ " existing reservation(s) for space " ++
    toString r.spaceId) r.spaceId r.reservedFrom r.reservedUntil found

theorem conflictResponse_eq (t : Table) (r : ReservationCreate) :
    conflictResponse t r = conflictOf r (conflicts t r) := by
  simp [conflictResponse,conflictOf,conflicts]

theorem conflictOf_injective (r : ReservationCreate) : Function.Injective (conflictOf r) := by
  intro one two same
  injection same

theorem conflicts_nil : conflicts t r = [] ↔
    ∀ row ∈ t.rows, ¬(row.spaceId = r.spaceId ∧ row.status.blocks = true ∧
      rangesOverlap row.startTime row.endTime r.reservedFrom r.reservedUntil = true) := by
  have taken : ∀ rows : List Reservation, rows.take 3 = [] ↔ rows = [] := by
    intro rows
    cases rows <;> simp
  unfold conflicts Table.conflicting
  rw [List.map_eq_nil_iff,taken,← List.length_eq_zero_iff,List.length_mergeSort,List.length_eq_zero_iff,
    List.filter_eq_nil_iff]
  simp

-- The exclusion constraint and the query look at the same rows.
theorem clashes_iff (times : (r.columns requestId tenant).startTime < (r.columns requestId tenant).endTime)
    (duration : (r.columns requestId tenant).endTime-(r.columns requestId tenant).startTime ≤ day) :
    t.rows.any (·.clashes ((r.columns requestId tenant).row g tenantId times duration)) = false ↔
      conflicts t r = [] := by
  rw [conflicts_nil,List.any_eq_false]
  refine forall₂_congr fun row _ => ?_
  simp [Reservation.clashes,Reservation.overlaps,Columns.row,ReservationCreate.columns,Status.blocks]
  tauto

def failure (r : ReservationCreate) (error : String) (found : List Conflict) : Response :=
  if reportsOverlap error then conflictOf r found else .internal ("Failed to create reservation: " ++ error)

-- What the call comes to once its id is free and its space is there: of the
-- contents, only the conflicts matter.
def verdict (tenantId : Uuid) (r : ReservationCreate) (requestId : Uuid) (g : Generated) (detail : String)
    (found : List Conflict) : Response × List Reservation :=
  if times : r.reservedFrom < r.reservedUntil then
    if duration : r.reservedUntil-r.reservedFrom ≤ day then
      let row := (r.columns requestId (some tenantId)).row g tenantId times duration
      if found = [] then (.created (row.answer false),[row]) else (conflictOf r found,[])
    else (failure r (Violation.validDuration.message ++ detail) found,[])
  else (failure r (Violation.validTimes.message ++ detail) found,[])

theorem onError_unclaimed (free : t.findRequest requestId = none) (error : String) :
    onError t r requestId error = failure r error (conflicts t r) := by
  have recovered : recover t r error = failure r error (conflicts t r) := by
    unfold recover failure
    rw [conflictResponse_eq]
    rfl
  unfold onError
  rw [free,recovered]
  exact ite_self _

theorem mentions_append (text more word : String) (mentioned : mentions text word = true) :
    mentions (text ++ more) word = true := by
  unfold mentions at mentioned ⊢
  obtain ⟨rest,suffix,found⟩ := List.any_eq_true.mp mentioned
  refine List.any_eq_true.mpr ⟨rest ++ more.toList,?_,?_⟩
  · obtain ⟨earlier,whole⟩ := (List.mem_tails _ _).mp suffix
    exact (List.mem_tails _ _).mpr ⟨earlier,by rw [String.toList_append,← whole,List.append_assoc]⟩
  · have begins := List.isPrefixOf_iff_prefix.mp found
    exact List.isPrefixOf_iff_prefix.mpr (begins.trans (List.prefix_append _ _))

theorem failure_overlap (r : ReservationCreate) (detail : String) (found : List Conflict) :
    failure r (Violation.noOverlap.message ++ detail) found = conflictOf r found := by
  have reported : reportsOverlap (Violation.noOverlap.message ++ detail) := by
    refine .inl ?_
    have lower : (Violation.noOverlap.message ++ detail).toLower =
        Violation.noOverlap.message.toLower ++ detail.toLower := by
      simp only [String.toLower,← String.toList_inj,String.toList_map,String.toList_append,List.map_append]
    rw [lower]
    exact mentions_append _ _ _ (by decide +kernel)
  exact if_pos reported

section Unclaimed

variable {space : Space}

theorem violated_nil_iff {row : Reservation} (id : row.id ∉ t.rows.map (·.id))
    (unclaimed : row.requestId ∉ t.rows.map (·.requestId)) :
    t.violated row = if t.rows.any (·.clashes row) then [.noOverlap] else [] := by
  have owned : (row.tenantId,row.requestId) ∉ t.rows.map fun r => (r.tenantId,r.requestId) := by
    intro listed
    obtain ⟨other,member,same⟩ := List.mem_map.mp listed
    exact unclaimed (List.mem_map.mpr ⟨other,member,congrArg Prod.snd same⟩)
  unfold Table.violated
  rw [if_neg id,if_neg unclaimed,if_neg owned,List.nil_append,List.nil_append,List.nil_append]

theorem findRequest_none (free : t.findRequest requestId = none) : requestId ∉ t.rows.map (·.requestId) := by
  intro listed
  obtain ⟨row,member,same⟩ := List.mem_map.mp listed
  exact List.find?_eq_none.mp free row member (decide_eq_true same)

theorem newRows_same (t : Table) (tenantId : Uuid) :
    (t.rows.filter fun row => row.tenantId = tenantId ∧ row.id ∉ t.rows.map (·.id)) = [] := by
  refine List.filter_eq_nil_iff.mpr ?_
  intro row member selected
  exact (of_decide_eq_true selected).2 (List.mem_map_of_mem member)

theorem newRows_add {row : Reservation} (free : t.violated row = []) :
    ((t.add row free).rows.filter fun other => other.tenantId = row.tenantId ∧ other.id ∉ t.rows.map (·.id)) = [row] := by
  have rows : (t.add row free).rows = t.rows ++ [row] := rfl
  have fresh := (Table.violated_nil free).1
  rw [rows,List.filter_append,newRows_same]
  simpa using fresh

theorem insert_late (late : ¬r.reservedFrom < r.reservedUntil) :
    t.insert (r.columns requestId (some tenantId)) g report = .error .validTimes := by
  exact dif_neg late

theorem insert_long (times : r.reservedFrom < r.reservedUntil) (long : ¬r.reservedUntil-r.reservedFrom ≤ day) :
    t.insert (r.columns requestId (some tenantId)) g report = .error .validDuration := by
  exact (dif_pos times).trans (dif_neg long)

-- The only index that can still be broken is the exclusion constraint.
theorem insert_unclaimed (report : Violation) (tenantId : Uuid) (fresh : g.id ∉ t.rows.map (·.id))
    (unclaimed : requestId ∉ t.rows.map (·.requestId))
    (times : r.reservedFrom < r.reservedUntil) (duration : r.reservedUntil-r.reservedFrom ≤ day) :
    let row := (r.columns requestId (some tenantId)).row g tenantId times duration
    if conflicts t r = [] then
      ∃ free, t.insert (r.columns requestId (some tenantId)) g report = .ok (t.add row free,row)
    else t.insert (r.columns requestId (some tenantId)) g report = .error .noOverlap := by
  intro row
  have violated : t.violated row = if t.rows.any (·.clashes row) then [.noOverlap] else [] :=
    violated_nil_iff fresh unclaimed
  have compared : t.rows.any (·.clashes row) = false ↔ conflicts t r = [] := clashes_iff times duration
  have checked : t.insert (r.columns requestId (some tenantId)) g report =
      if free : t.violated row = [] then .ok (t.add row free,row)
      else .error (if report ∈ t.violated row then report else (t.violated row).headD .primaryKey) :=
    (dif_pos times).trans (dif_pos duration)
  split
  · rename_i none
    have free : t.violated row = [] := by
      rw [violated,compared.mpr none]
      rfl
    exact ⟨free,checked.trans (dif_pos free)⟩
  · rename_i some
    have clash : t.rows.any (·.clashes row) = true := by
      cases any : t.rows.any (·.clashes row) with
      | true => rfl
      | false => exact absurd (compared.mp any) some
    have broken : t.violated row = [.noOverlap] := by
      rw [violated,clash]
      rfl
    have refused : t.violated row ≠ [] := by
      rw [broken]
      exact List.cons_ne_nil _ _
    rw [checked,dif_neg refused,broken]
    split
    · rename_i reported
      rw [List.mem_singleton.mp reported]
    · rfl

-- Where no other tenant's row is in the way, the outcome is the verdict.
theorem outcome_verdict (fresh : g.id ∉ db.table.rows.map (·.id))
    (free : db.table.findRequest (r.requestId.getD uuid) = none) (present : db.spaces r.spaceId = some space)
    (live : space.deleted = false) (owner : space.tenantId = some tenantId) :
    outcome tenantId db r uuid g report detail =
      verdict tenantId r (r.requestId.getD uuid) g detail (conflicts db.table r) := by
  have found : (db.spaces r.spaceId).filter (!·.deleted) = some space := by simp [present,live]
  unfold outcome createReservation verdict
  generalize r.requestId.getD uuid = requestId at free
  have unclaimed := findRequest_none free
  simp only [free,found,owner]
  by_cases times : r.reservedFrom < r.reservedUntil
  · rw [dif_pos times]
    by_cases duration : r.reservedUntil-r.reservedFrom ≤ day
    · rw [dif_pos duration]
      have inserted := insert_unclaimed report tenantId fresh unclaimed times duration
      by_cases none : conflicts db.table r = []
      · simp only [if_pos none] at inserted ⊢
        obtain ⟨free,inserted⟩ := inserted
        rw [inserted]
        exact Prod.ext rfl (newRows_add free)
      · simp only [if_neg none] at inserted ⊢
        rw [inserted]
        exact Prod.ext ((onError_unclaimed free _).trans (failure_overlap r detail _)) (newRows_same _ tenantId)
    · rw [dif_neg duration,insert_long times duration]
      exact Prod.ext (onError_unclaimed free _) (newRows_same _ tenantId)
  · rw [dif_neg times,insert_late times]
    exact Prod.ext (onError_unclaimed free _) (newRows_same _ tenantId)

end Unclaimed

theorem failure_eq_iff (r : ReservationCreate) (error : String) (one two : List Conflict) :
    failure r error one = failure r error two ↔ (reportsOverlap error → one = two) := by
  unfold failure
  by_cases reported : reportsOverlap error
  · rw [if_pos reported,if_pos reported,(conflictOf_injective r).eq_iff]
    exact ⟨fun same _ => same,fun same => same reported⟩
  · rw [if_neg reported,if_neg reported]
    exact iff_of_true rfl fun reports => absurd reports reported

theorem verdict_eq_iff (tenantId : Uuid) (r : ReservationCreate) (requestId : Uuid) (g : Generated) (detail : String)
    (one two : List Conflict) :
    verdict tenantId r requestId g detail one = verdict tenantId r requestId g detail two ↔
      ((∀ violation ∈ timesError r, reportsOverlap (violation.message ++ detail)) → one = two) := by
  unfold verdict timesError
  by_cases times : r.reservedFrom < r.reservedUntil
  · by_cases duration : r.reservedUntil-r.reservedFrom ≤ day
    · simp only [dif_pos times,dif_pos duration,if_pos times,if_pos duration]
      by_cases first : one = []
      · by_cases second : two = []
        · simp [first,second]
        · simp [first,second,Ne.symm second,conflictOf]
      · by_cases second : two = []
        · simp [first,second,conflictOf]
        · simp [first,second,(conflictOf_injective r).eq_iff]
    · simp only [dif_pos times,dif_neg duration,if_pos times,if_neg duration]
      simp [failure_eq_iff]
  · simp only [dif_neg times,if_neg times]
    simp [failure_eq_iff]

theorem outcome_claimed {existing : Reservation} (claimed : db.table.findRequest (r.requestId.getD uuid) = some existing) :
    outcome tenantId db r uuid g report detail = (.created (existing.answer true),[]) := by
  have result : createReservation db r uuid g report detail = (db.table,.created (existing.answer true)) := by
    unfold createReservation
    dsimp only
    rw [claimed]
  unfold outcome
  rw [result]
  exact Prod.ext rfl (newRows_same _ tenantId)

theorem outcome_gone (free : db.table.findRequest (r.requestId.getD uuid) = none)
    (gone : (db.spaces r.spaceId).filter (!·.deleted) = none) :
    outcome tenantId db r uuid g report detail =
      (.notFound ("Space with ID " ++ toString r.spaceId ++ " not found"),[]) := by
  have result : createReservation db r uuid g report detail =
      (db.table,.notFound ("Space with ID " ++ toString r.spaceId ++ " not found")) := by
    unfold createReservation
    dsimp only
    rw [free]
    dsimp only
    rw [gone]
  unfold outcome
  rw [result]
  exact Prod.ext rfl (newRows_same _ tenantId)

-- Only a taken id gives an idempotent answer.
theorem verdict_first (tenantId : Uuid) (r : ReservationCreate) (requestId : Uuid) (g : Generated) (detail : String)
    (found : List Conflict) (existing : Reservation) :
    (verdict tenantId r requestId g detail found).1 ≠ .created (existing.answer true) := by
  have failed (error : String) : failure r error found ≠ .created (existing.answer true) := by
    unfold failure
    split
    all_goals
      intro same
      cases same
  unfold verdict
  split
  · split
    · dsimp only
      split
      · intro same
        have flags := congrArg Answer.idempotent (Response.created.inj same)
        cases flags
      · intro same
        cases same
    · exact failed _
  · exact failed _

section Owner

variable {space : Space}

theorem outcome_first (report : Violation) (detail : String) (fresh : g.id ∉ db.table.rows.map (·.id))
    (free : db.table.findRequest (r.requestId.getD uuid) = none) (present : db.spaces r.spaceId = some space)
    (owner : space.tenantId = some tenantId) (existing : Reservation) :
    (outcome tenantId db r uuid g report detail).1 ≠ .created (existing.answer true) := by
  cases live : space.deleted with
  | false =>
    rw [outcome_verdict fresh free present live owner]
    exact verdict_first _ _ _ _ _ _ existing
  | true =>
    rw [outcome_gone free (by simp [present,live])]
    exact nofun

-- An id that is taken in one of two contents tells them apart.
theorem outcome_taken (report : Violation) (detail : String) {taken : Reservation}
    (claimed : d.table.findRequest (r.requestId.getD uuid) = some taken) (fresh : g.id ∉ e.table.rows.map (·.id))
    (free : e.table.findRequest (r.requestId.getD uuid) = none) (present : e.spaces r.spaceId = some space)
    (owner : space.tenantId = some tenantId) :
    outcome tenantId d r uuid g report detail ≠ outcome tenantId e r uuid g report detail ∧
      idempotentAnswer d.table (r.requestId.getD uuid) ≠ idempotentAnswer e.table (r.requestId.getD uuid) := by
  constructor
  · rw [outcome_claimed claimed]
    intro same
    exact outcome_first report detail fresh free present owner taken (congrArg Prod.fst same).symm
  · simp [idempotentAnswer,claimed,free]

theorem outcome_eq_iff (freshD : g.id ∉ d.table.rows.map (·.id)) (freshE : g.id ∉ e.table.rows.map (·.id))
    (presentD : d.spaces r.spaceId = some space) (presentE : e.spaces r.spaceId = some space)
    (owner : space.tenantId = some tenantId) :
    outcome tenantId d r uuid g report detail = outcome tenantId e r uuid g report detail ↔
      SameReads d e r (r.requestId.getD uuid) detail := by
  cases lookupD : d.table.findRequest (r.requestId.getD uuid) with
  | some one =>
    cases lookupE : e.table.findRequest (r.requestId.getD uuid) with
    | some two =>
      rw [outcome_claimed lookupD,outcome_claimed lookupE]
      constructor
      · intro same
        have answers := Response.created.inj (congrArg Prod.fst same)
        refine ⟨by simp [idempotentAnswer,lookupD,lookupE,answers],?_⟩
        intro free
        simp [idempotentAnswer,lookupD] at free
      · intro same
        have answers := same.lookup
        simp only [idempotentAnswer,lookupD,lookupE,Option.map_some,Option.some.injEq] at answers
        rw [answers]
    | none =>
      obtain ⟨outcomes,answers⟩ := outcome_taken report detail lookupD freshE lookupE presentE owner
      exact iff_of_false outcomes fun same => answers same.lookup
  | none =>
    cases lookupE : e.table.findRequest (r.requestId.getD uuid) with
    | some two =>
      obtain ⟨outcomes,answers⟩ := outcome_taken report detail lookupE freshD lookupD presentD owner
      exact iff_of_false outcomes.symm fun same => answers same.lookup.symm
    | none =>
      have free : idempotentAnswer d.table (r.requestId.getD uuid) = none := by simp [idempotentAnswer,lookupD]
      have lookup : idempotentAnswer d.table (r.requestId.getD uuid) = idempotentAnswer e.table (r.requestId.getD uuid) := by
        simp [idempotentAnswer,lookupD,lookupE]
      cases live : space.deleted with
      | true =>
        rw [outcome_gone lookupD (by simp [presentD,live]),outcome_gone lookupE (by simp [presentE,live])]
        refine iff_of_true rfl ⟨lookup,?_⟩
        intro _ compares
        have there := compares.1
        simp [presentD,live] at there
      | false =>
        rw [outcome_verdict freshD lookupD presentD live owner,outcome_verdict freshE lookupE presentE live owner,
          verdict_eq_iff]
        constructor
        · intro same
          exact ⟨lookup,fun _ compares => same compares.2⟩
        · intro same reported
          exact same.overlap free ⟨by simp [presentD,live],reported⟩

end Owner

-- No row of another tenant has the request's id or lies on the space.
def Undisturbed (tenantId : Uuid) (db : Contents) (r : ReservationCreate) (requestId : Uuid) : Prop :=
  ∀ row ∈ db.table.rows, row.requestId = requestId ∨ row.spaceId = r.spaceId → row.tenantId = tenantId

theorem find_owned {select : Reservation → Bool} {rows : List Reservation}
    (owned : ∀ row ∈ rows, select row = true → row.tenantId = tenantId) :
    rows.find? select = (rows.filter (·.tenantId = tenantId)).find? select := by
  rw [List.find?_filter]
  induction rows with
  | nil => rfl
  | cons row rest ih =>
    have later := ih fun other member => owned other (List.mem_cons_of_mem _ member)
    cases selected : select row with
    | true =>
      have mine := owned row List.mem_cons_self selected
      simp [selected,mine]
    | false => simpa [List.find?_cons,selected] using later

theorem filter_owned {select : Reservation → Bool} {rows : List Reservation}
    (owned : ∀ row ∈ rows, select row = true → row.tenantId = tenantId) :
    rows.filter select = (rows.filter (·.tenantId = tenantId)).filter select := by
  rw [List.filter_filter]
  refine List.filter_congr ?_
  intro row member
  cases selected : select row with
  | true => simp [owned row member selected]
  | false => rfl

theorem undisturbed_reads (agree : Agree tenantId d e) (undisturbedD : Undisturbed tenantId d r requestId)
    (undisturbedE : Undisturbed tenantId e r requestId) (detail : String) : SameReads d e r requestId detail := by
  have lookup : d.table.findRequest requestId = e.table.findRequest requestId := by
    unfold Table.findRequest
    rw [find_owned fun row member selected => undisturbedD row member (.inl (of_decide_eq_true selected)),
      find_owned fun row member selected => undisturbedE row member (.inl (of_decide_eq_true selected)),
      agree.reservations]
  refine ⟨congrArg (Option.map _) lookup,fun _ _ => ?_⟩
  unfold conflicts Table.conflicting
  rw [filter_owned fun row member selected => undisturbedD row member (.inr (of_decide_eq_true selected).1),
    filter_owned fun row member selected => undisturbedE row member (.inr (of_decide_eq_true selected).1),
    agree.reservations]

-- Two runs of a call on a space of the tenant come to the same exactly when its
-- two queries without a tenant do, as they do where no other tenant's row is in
-- the way.
theorem creation_isolated (agree : Agree tenantId d e)
    (present : ∃ space, d.spaces r.spaceId = some space ∧ space.tenantId = some tenantId)
    (freshD : g.id ∉ d.table.rows.map (·.id)) (freshE : g.id ∉ e.table.rows.map (·.id)) :
    (outcome tenantId d r uuid g report detail = outcome tenantId e r uuid g report detail ↔
      SameReads d e r (r.requestId.getD uuid) detail) ∧
    (Undisturbed tenantId d r (r.requestId.getD uuid) → Undisturbed tenantId e r (r.requestId.getD uuid) →
      SameReads d e r (r.requestId.getD uuid) detail) := by
  obtain ⟨space,presentD,owner⟩ := present
  have presentE : e.spaces r.spaceId = some space := by
    have same := agree.spaces r.spaceId
    rw [presentD,Option.filter_some,if_pos (decide_eq_true owner)] at same
    exact (Option.filter_eq_some_iff.mp same.symm).1
  exact ⟨outcome_eq_iff freshD freshE presentD presentE owner,
    fun undisturbedD undisturbedE => undisturbed_reads agree undisturbedD undisturbedE detail⟩

-- A booking of tenant 8 on its space 2, made with request id 5.
def otherBooking : Reservation where
  id := 21
  spaceId := 2
  startTime := 100
  endTime := 200
  userEmail := some "someone@example.org"
  userPhone := none
  status := .confirmed
  metadata := none
  createdAt := 10
  updatedAt := 10
  requestId := 5
  tenantId := 8
  validTimes := by decide
  validDuration := by decide

def bays : Uuid → Option Space
  | 1 => some ⟨"Bay 1",some 7,false⟩
  | 2 => some ⟨"Bay 2",some 8,false⟩
  | _ => none

def alone : Contents := ⟨.empty,bays⟩

def shared : Contents := ⟨Table.empty.add otherBooking (by decide +kernel),bays⟩

def request (requestId : Uuid) : ReservationCreate :=
  {spaceId := 1,reservedFrom := 100,reservedUntil := 200,requestId := some requestId}

theorem alone_agrees : Agree 7 alone shared := ⟨rfl,fun _ => rfl⟩

-- Another request id: the other tenant's booking makes no difference.
theorem creation_isolated_apart :
    outcome 7 alone (request 6) 0 ⟨31,32,40⟩ .noOverlap "" = outcome 7 shared (request 6) 0 ⟨31,32,40⟩ .noOverlap "" := by
  obtain ⟨same,undisturbed⟩ : (outcome 7 alone (request 6) 0 ⟨31,32,40⟩ .noOverlap "" =
      outcome 7 shared (request 6) 0 ⟨31,32,40⟩ .noOverlap "" ↔ _) ∧ _ :=
    creation_isolated alone_agrees ⟨_,rfl,rfl⟩ (by decide) (by decide +kernel)
  refine same.mpr (undisturbed ?_ ?_)
  · intro row member
    cases member
  · intro row member apart
    obtain rfl : row = otherBooking := List.mem_singleton.mp member
    revert apart
    decide +kernel

-- The same request id: tenant 7 is answered with tenant 8's booking.
theorem request_id_leaks : ¬∀ (tenantId : Uuid) (d e : Contents) (r : ReservationCreate) (uuid : Uuid) (g : Generated)
    (report : Violation) (detail : String), Agree tenantId d e →
    (∃ space, d.spaces r.spaceId = some space ∧ space.tenantId = some tenantId) →
    g.id ∉ d.table.rows.map (·.id) → g.id ∉ e.table.rows.map (·.id) →
    outcome tenantId d r uuid g report detail = outcome tenantId e r uuid g report detail := by
  intro claim
  have same := claim 7 alone shared (request 5) 0 ⟨31,32,40⟩ .noOverlap "" alone_agrees ⟨_,rfl,rfl⟩ (by decide)
    (by decide +kernel)
  have responses := congrArg Prod.fst same
  revert responses
  decide +kernel

end SmartParking.Reservations.Isolation
