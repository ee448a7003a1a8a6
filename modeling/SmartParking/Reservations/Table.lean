import Mathlib.Data.List.Pairwise
import Mathlib.Order.Interval.Set.Disjoint

namespace SmartParking.Reservations

abbrev Uuid := Nat

-- `timestamptz` in whole microseconds.
abbrev Instant := Int

def day : Instant := 24*3600*1000000

-- The values `valid_reservation_status` allows.
inductive Status where
  | pending | confirmed | cancelled | expired | active | completed | noShow
  deriving DecidableEq

def Status.blocks : Status → Bool
  | .pending | .confirmed => true
  | _ => false

def Status.live : Status → Bool
  | .pending | .confirmed | .active => true
  | _ => false

inductive Json where
  | text (s : String)
  | number (n : Int)
  deriving DecidableEq

abbrev Metadata := List (String × Json)

def setKey (metadata : Metadata) (key : String) (value : Json) : Metadata :=
  metadata.filter (·.1 ≠ key) ++ [(key,value)]

-- A row that passes the NOT NULL and CHECK constraints of its table.
structure Reservation where
  id : Uuid
  spaceId : Uuid
  startTime : Instant
  endTime : Instant
  userEmail : Option String
  userPhone : Option String
  status : Status
  metadata : Option Metadata
  createdAt : Instant
  updatedAt : Instant
  requestId : Uuid
  tenantId : Uuid
  validTimes : startTime < endTime
  validDuration : endTime-startTime ≤ day

-- `tstzrange(start_time, end_time, '[)') && ...`
def rangesOverlap (start₁ end₁ start₂ end₂ : Instant) : Bool := start₁ < end₂ && start₂ < end₁

-- `(s1, e1) OVERLAPS (s2, e2)`: the ends come in either order, and equal ends
-- stand for one instant.
def periodsOverlap (start₁ end₁ start₂ end₂ : Instant) : Bool :=
  let low₁ := min start₁ end₁
  let low₂ := min start₂ end₂
  if low₁ < low₂ then low₂ < max start₁ end₁
  else if low₂ < low₁ then low₁ < max start₂ end₂
  else true

def Reservation.overlaps (a b : Reservation) : Bool := rangesOverlap a.startTime a.endTime b.startTime b.endTime

def Reservation.clashes (a b : Reservation) : Bool :=
  a.status.blocks && b.status.blocks && a.spaceId == b.spaceId && a.overlaps b

theorem clashes_symm (a b : Reservation) (apart : a.clashes b = false) : b.clashes a = false := by
  have swapped : b.clashes a = a.clashes b := by
    simp only [Reservation.clashes,Reservation.overlaps,rangesOverlap,Bool.beq_comm (a := b.spaceId),
      Bool.and_comm (x := b.status.blocks),Bool.and_comm (x := decide (b.startTime < a.endTime))]
  rw [swapped,apart]

instance : Std.Symm fun a b : Reservation => a.clashes b = false := ⟨clashes_symm⟩

-- The table with the keys and the overlap constraint that the migrations leave.
structure Table where
  rows : List Reservation
  primaryKey : (rows.map (·.id)).Nodup
  requestId : (rows.map (·.requestId)).Nodup
  tenantRequestId : (rows.map fun r => (r.tenantId,r.requestId)).Nodup
  noOverlap : rows.Pairwise fun a b => a.clashes b = false

def Table.empty : Table := ⟨[],List.nodup_nil,List.nodup_nil,List.nodup_nil,List.Pairwise.nil⟩

inductive Violation where
  | tenantIdNull | validTimes | validDuration | primaryKey | requestId | tenantRequestId | noOverlap
  deriving DecidableEq

def Violation.message : Violation → String
  | .tenantIdNull => "null value in column \"tenant_id\" of relation \"reservations\" violates not-null constraint"
  | .validTimes => "new row for relation \"reservations\" violates check constraint \"valid_times\""
  | .validDuration => "new row for relation \"reservations\" violates check constraint \"valid_duration\""
  | .primaryKey => "duplicate key value violates unique constraint \"reservations_pkey\""
  | .requestId => "duplicate key value violates unique constraint \"idx_reservations_request_id\""
  | .tenantRequestId => "duplicate key value violates unique constraint \"uq_reservations_request_id\""
  | .noOverlap => "conflicting key value violates exclusion constraint \"uq_reservations_no_overlap\""

-- The columns an INSERT names; `none` is a column left out, or NULL for the
-- nullable ones and `tenant_id`.
structure Columns where
  spaceId : Uuid
  startTime : Instant
  endTime : Instant
  userEmail : Option String
  userPhone : Option String
  status : Option Status := none
  metadata : Option Metadata
  requestId : Option Uuid := none
  tenantId : Option Uuid := none

structure Generated where
  id : Uuid
  requestId : Uuid
  now : Instant

def Columns.row (c : Columns) (g : Generated) (tenantId : Uuid) (validTimes : c.startTime < c.endTime)
    (validDuration : c.endTime-c.startTime ≤ day) : Reservation :=
  {id := g.id,spaceId := c.spaceId,startTime := c.startTime,endTime := c.endTime,userEmail := c.userEmail,
   userPhone := c.userPhone,status := c.status.getD .active,metadata := c.metadata,createdAt := g.now,
   updatedAt := g.now,requestId := c.requestId.getD g.requestId,tenantId := tenantId,
   validTimes := validTimes,validDuration := validDuration}

def Table.violated (t : Table) (row : Reservation) : List Violation :=
  (if row.id ∈ t.rows.map (·.id) then [.primaryKey] else []) ++
  (if row.requestId ∈ t.rows.map (·.requestId) then [.requestId] else []) ++
  (if (row.tenantId,row.requestId) ∈ t.rows.map (fun r => (r.tenantId,r.requestId)) then [.tenantRequestId] else []) ++
  (if t.rows.any (·.clashes row) then [.noOverlap] else [])

theorem Table.violated_nil {t : Table} {row : Reservation} (free : t.violated row = []) :
    row.id ∉ t.rows.map (·.id) ∧ row.requestId ∉ t.rows.map (·.requestId) ∧
    (row.tenantId,row.requestId) ∉ t.rows.map (fun r => (r.tenantId,r.requestId)) ∧
    ∀ r ∈ t.rows, r.clashes row = false := by
  simp only [violated,List.append_eq_nil_iff,ite_eq_right_iff,List.cons_ne_self,imp_false] at free
  obtain ⟨⟨⟨primaryKey,requestId⟩,tenantRequestId⟩,noOverlap⟩ := free
  refine ⟨primaryKey,requestId,tenantRequestId,?_⟩
  intro r member
  simpa using fun clash => noOverlap (List.any_eq_true.mpr ⟨r,member,clash⟩)

theorem nodup_append_one {items : List α} (distinct : items.Nodup) (fresh : item ∉ items) :
    (items ++ [item]).Nodup := by
  simpa [List.nodup_append] using ⟨distinct,fun other member same => fresh (same ▸ member)⟩

def Table.add (t : Table) (row : Reservation) (free : t.violated row = []) : Table where
  rows := t.rows ++ [row]
  primaryKey := by
    rw [List.map_append]
    exact nodup_append_one t.primaryKey (violated_nil free).1
  requestId := by
    rw [List.map_append]
    exact nodup_append_one t.requestId (violated_nil free).2.1
  tenantRequestId := by
    rw [List.map_append]
    exact nodup_append_one t.tenantRequestId (violated_nil free).2.2.1
  noOverlap := by
    rw [List.pairwise_append]
    refine ⟨t.noOverlap,List.pairwise_singleton _ _,?_⟩
    intro r member other last
    rw [List.mem_singleton.mp last]
    exact (violated_nil free).2.2.2 r member

-- INSERT. NOT NULL and CHECK come before the indexes; `report` says which index
-- is found broken first where several are.
def Table.insert (t : Table) (c : Columns) (g : Generated) (report : Violation) :
    Except Violation (Table × Reservation) :=
  match c.tenantId with
  | none => .error .tenantIdNull
  | some tenantId =>
    if validTimes : c.startTime < c.endTime then
      if validDuration : c.endTime-c.startTime ≤ day then
        let row := c.row g tenantId validTimes validDuration
        if free : t.violated row = [] then .ok (t.add row free,row)
        else .error (if report ∈ t.violated row then report else (t.violated row).headD .primaryKey)
      else .error .validDuration
    else .error .validTimes

-- An UPDATE of some rows to a status that blocks nothing. The trigger of the
-- table sets `updated_at`.
def Reservation.retire (r : Reservation) (status : Status) (metadata : Option Metadata → Option Metadata)
    (now : Instant) : Reservation :=
  {r with status := status,metadata := metadata r.metadata,updatedAt := now}

def Reservation.retireIf (select : Reservation → Bool) (status : Status)
    (metadata : Option Metadata → Option Metadata) (now : Instant) (r : Reservation) : Reservation :=
  if select r then r.retire status metadata now else r

section
variable (select : Reservation → Bool) (status : Status) (metadata : Option Metadata → Option Metadata) (now : Instant)

@[simp] theorem retireIf_id (r : Reservation) : (r.retireIf select status metadata now).id = r.id := by
  unfold Reservation.retireIf; split <;> rfl
@[simp] theorem retireIf_requestId (r : Reservation) :
    (r.retireIf select status metadata now).requestId = r.requestId := by
  unfold Reservation.retireIf; split <;> rfl
@[simp] theorem retireIf_tenantId (r : Reservation) :
    (r.retireIf select status metadata now).tenantId = r.tenantId := by
  unfold Reservation.retireIf; split <;> rfl

theorem retireIf_status (r : Reservation) : (r.retireIf select status metadata now).status = r.status ∨
    (r.retireIf select status metadata now).status = status := by
  unfold Reservation.retireIf
  split
  · exact .inr rfl
  · exact .inl rfl

theorem retireIf_clashes (retires : status.blocks = false) (a b : Reservation) (apart : a.clashes b = false) :
    (a.retireIf select status metadata now).clashes (b.retireIf select status metadata now) = false := by
  unfold Reservation.retireIf
  split <;> split <;> simp_all [Reservation.clashes,Reservation.retire]

end

def Table.update (t : Table) (select : Reservation → Bool) (status : Status)
    (metadata : Option Metadata → Option Metadata) (now : Instant) (retires : status.blocks = false) : Table where
  rows := t.rows.map (Reservation.retireIf select status metadata now)
  primaryKey := by simpa [Function.comp_def] using t.primaryKey
  requestId := by simpa [Function.comp_def] using t.requestId
  tenantRequestId := by simpa [Function.comp_def] using t.tenantRequestId
  noOverlap := t.noOverlap.map _ fun a b => retireIf_clashes select status metadata now retires a b

-- The statement of the router's `cancel_reservation`; a reason goes into the metadata.
def Table.cancel (t : Table) (id : Uuid) (reason : Option String) (now : Instant) : Table :=
  t.update (·.id = id) .cancelled
    (match reason with
      | some text => if text = "" then fun old => old
        else fun old => some (setKey (old.getD []) "cancellation_reason" (.text text))
      | none => fun old => old) now rfl

-- The statement of `DatabasePool.cancel_reservation`.
def Table.poolCancel (t : Table) (id : Uuid) (now : Instant) : Table :=
  t.update (fun r => r.id = id ∧ r.status = .active) .cancelled (fun old => old) now rfl

-- The statement of `_reservation_end_task`.
def Table.endReservation (t : Table) (id : Uuid) (now : Instant) : Table :=
  t.update (fun r => r.id = id ∧ r.status.blocks) .expired (fun old => old) now rfl

-- The statement of `expire_old_reservations`.
def Table.expireOld (t : Table) (now : Instant) : Table :=
  t.update (fun r => r.status.blocks ∧ r.endTime < now) .expired (fun old => old) now rfl

-- `WHERE request_id = $1`; the key makes the answer at most one row.
def Table.findRequest (t : Table) (requestId : Uuid) : Option Reservation :=
  t.rows.find? (·.requestId = requestId)

-- The rows reported with a conflict: `ORDER BY start_time LIMIT 3`.
def Table.conflicting (t : Table) (spaceId : Uuid) (startTime endTime : Instant) : List Reservation :=
  ((t.rows.filter fun r => r.spaceId = spaceId ∧ r.status.blocks ∧
    rangesOverlap r.startTime r.endTime startTime endTime).mergeSort
      (fun a b => a.startTime ≤ b.startTime)).take 3

-- The count `DatabasePool.create_reservation` takes.
def Table.countActive (t : Table) (spaceId : Uuid) (startTime endTime : Instant) : Nat :=
  (t.rows.filter fun r => r.spaceId = spaceId ∧ r.status = .active ∧
    periodsOverlap r.startTime r.endTime startTime endTime).length

theorem Table.insert_ok {t next : Table} {row : Reservation} (ran : t.insert c g report = .ok (next,row)) :
    ∃ tenantId validTimes validDuration, c.tenantId = some tenantId ∧ row = c.row g tenantId validTimes validDuration ∧
      ∃ free, next = t.add row free := by
  unfold Table.insert at ran
  cases tenant : c.tenantId with
  | none => rw [tenant] at ran; cases ran
  | some tenantId =>
    simp only [tenant] at ran
    split at ran
    · split at ran
      · split at ran
        · cases ran
          exact ⟨tenantId,‹_›,‹_›,rfl,rfl,‹_›,rfl⟩
        · cases ran
      · cases ran
    · cases ran

end SmartParking.Reservations
