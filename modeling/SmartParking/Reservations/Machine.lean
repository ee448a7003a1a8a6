import SmartParking.Lib.Runs
import SmartParking.Reservations.Table

namespace SmartParking.Reservations
open Lib

-- The body of POST /api/v1/reservations/; `spaceId` is its field `id`.
structure ReservationCreate where
  spaceId : Uuid
  reservedFrom : Instant
  reservedUntil : Instant
  requestId : Option Uuid := none
  externalBookingId : Option String := none
  externalSystem : Option String := none
  reservationType : Option String := none
  gracePeriodMinutes : Option Int := none
  userEmail : Option String := none
  userPhone : Option String := none

def textEntry (key : String) (value : Option String) : Metadata :=
  match value with
  | some text => if text = "" then [] else [(key,.text text)]
  | none => []

def ReservationCreate.metadata (r : ReservationCreate) : Metadata :=
  textEntry "external_booking_id" r.externalBookingId ++ textEntry "external_system" r.externalSystem ++
  textEntry "reservation_type" r.reservationType ++
  (match r.gracePeriodMinutes with
    | some minutes => [("grace_period_minutes",.number minutes)]
    | none => [])

def ReservationCreate.columns (r : ReservationCreate) (requestId : Uuid) (tenantId : Option Uuid) : Columns :=
  {spaceId := r.spaceId,startTime := r.reservedFrom,endTime := r.reservedUntil,userEmail := r.userEmail,
   userPhone := r.userPhone,status := some .confirmed,
   metadata := if r.metadata = [] then none else some r.metadata,
   requestId := some requestId,tenantId := tenantId}

-- The argument of `DatabasePool.create_reservation`, whose INSERT names neither
-- status nor request id nor tenant.
structure PoolCreate where
  spaceId : Uuid
  startTime : Instant
  endTime : Instant
  userEmail : Option String := none
  userPhone : Option String := none
  metadata : Metadata := []

def PoolCreate.columns (r : PoolCreate) : Columns :=
  {spaceId := r.spaceId,startTime := r.startTime,endTime := r.endTime,userEmail := r.userEmail,
   userPhone := r.userPhone,metadata := if r.metadata = [] then none else some r.metadata}

structure Space where
  name : String
  tenantId : Option Uuid
  deleted : Bool := false

structure Answer where
  reservationId : Uuid
  spaceId : Uuid
  reservedFrom : Instant
  reservedUntil : Instant
  status : Status
  userEmail : Option String
  userPhone : Option String
  metadata : Metadata
  createdAt : Instant
  idempotent : Bool
  deriving DecidableEq

def Reservation.answer (r : Reservation) (idempotent : Bool) : Answer :=
  ⟨r.id,r.spaceId,r.startTime,r.endTime,r.status,r.userEmail,r.userPhone,r.metadata.getD [],r.createdAt,idempotent⟩

structure Conflict where
  reservationId : Uuid
  startTime : Instant
  endTime : Instant
  status : Status
  userEmail : Option String
  deriving DecidableEq

inductive Response where
  | created (answer : Answer)
  | notFound (detail : String)
  | conflict (message : String) (spaceId : Uuid) (startTime endTime : Instant) (conflicts : List Conflict)
  | internal (detail : String)
  deriving DecidableEq

inductive Event where
  | inserted (requestId id : Uuid)
  | responded (requestId : Uuid) (response : Response)
  | pool (result : Except String Uuid)
  | cancelled (id : Uuid) (found : Bool)

-- A request between two SQL statements; a constructor names the next one.
inductive Pc where
  | idle
  | lookup (r : ReservationCreate) (requestId : Uuid)
  | spaceCheck (r : ReservationCreate) (requestId : Uuid)
  | insert (r : ReservationCreate) (requestId : Uuid) (tenantId : Option Uuid)
  | refetch (r : ReservationCreate) (requestId : Uuid) (error : String)
  | conflicting (r : ReservationCreate) (requestId : Uuid)
  | poolSpaceCheck (r : PoolCreate)
  | poolOverlap (r : PoolCreate)
  | poolInsert (r : PoolCreate)

structure State where
  table : Table
  spaces : Uuid → Option Space
  threads : Nat → Pc
  log : List Event

def State.initial (spaces : Uuid → Option Space) : State := ⟨.empty,spaces,fun _ => .idle,[]⟩

inductive Action where
  | create (t : Nat) (r : ReservationCreate) (uuid : Uuid)
  | poolCreate (t : Nat) (r : PoolCreate)
  | run (t : Nat) (g : Generated) (report : Violation) (detail : String)
  | cancel (id : Uuid) (reason : Option String) (now : Instant)
  | poolCancel (id : Uuid) (now : Instant)
  | endTask (id : Uuid) (now : Instant)
  | expireOld (now : Instant)
  | setSpace (id : Uuid) (space : Option Space)

def mentions (text word : String) : Bool := text.toList.tails.any (word.toList.isPrefixOf ·)

-- The end of the `except Exception` branch: a conflict is looked up, anything
-- else becomes a 500.
def afterUnique (r : ReservationCreate) (requestId : Uuid) (error : String) : List Event × Pc :=
  if mentions error.toLower "exclusion" ∨ mentions error.toLower "no_reservation_overlap" then
    ([],.conflicting r requestId)
  else ([.responded requestId (.internal ("Failed to create reservation: " ++ error))],.idle)

def onInsertError (r : ReservationCreate) (requestId : Uuid) (error : String) : List Event × Pc :=
  if mentions error.toLower "unique" ∧ mentions error.toLower "request_id" then ([],.refetch r requestId error)
  else afterUnique r requestId error

def conflictResponse (t : Table) (r : ReservationCreate) : Response :=
  let conflicts := t.conflicting r.spaceId r.reservedFrom r.reservedUntil
  .conflict ("Reservation conflicts with " ++ toString conflicts.length ++ " existing reservation(s) for space " ++
      toString r.spaceId) r.spaceId r.reservedFrom r.reservedUntil
    (conflicts.map fun c => ⟨c.id,c.startTime,c.endTime,c.status,c.userEmail⟩)

-- One statement of a request. `detail` is the DETAIL line of a failed statement.
def advance (t : Table) (spaces : Uuid → Option Space) (g : Generated) (report : Violation) (detail : String) :
    Pc → Option (Table × List Event × Pc)
  | .idle => none
  | .lookup r requestId =>
    match t.findRequest requestId with
    | some existing => some (t,[.responded requestId (.created (existing.answer true))],.idle)
    | none => some (t,[],.spaceCheck r requestId)
  | .spaceCheck r requestId =>
    match (spaces r.spaceId).filter (!·.deleted) with
    | some space => some (t,[],.insert r requestId space.tenantId)
    | none =>
      some (t,[.responded requestId (.notFound ("Space with ID " ++ toString r.spaceId ++ " not found"))],.idle)
  | .insert r requestId tenantId =>
    match t.insert (r.columns requestId tenantId) g report with
    | .ok (next,row) =>
      some (next,[.inserted row.requestId row.id,.responded requestId (.created (row.answer false))],.idle)
    | .error violation => some (t,onInsertError r requestId (violation.message ++ detail))
  | .refetch r requestId error =>
    match t.findRequest requestId with
    | some existing => some (t,[.responded requestId (.created (existing.answer true))],.idle)
    | none => some (t,afterUnique r requestId error)
  | .conflicting r requestId => some (t,[.responded requestId (conflictResponse t r)],.idle)
  | .poolSpaceCheck r =>
    match (spaces r.spaceId).filter (!·.deleted) with
    | some _ => some (t,[],.poolOverlap r)
    | none => some (t,[.pool (.error ("Space not found: " ++ toString r.spaceId))],.idle)
  | .poolOverlap r =>
    if 0 < t.countActive r.spaceId r.startTime r.endTime then
      some (t,[.pool (.error ("Reservation already exists: Overlapping reservation for space " ++
        toString r.spaceId))],.idle)
    else some (t,[],.poolInsert r)
  | .poolInsert r =>
    match t.insert r.columns g report with
    | .ok (next,row) => some (next,[.inserted row.requestId row.id,.pool (.ok row.id)],.idle)
    | .error violation => some (t,[.pool (.error (violation.message ++ detail))],.idle)

def State.put (s : State) (t : Nat) (result : Table × List Event × Pc) : State :=
  {s with table := result.1,threads := Function.update s.threads t result.2.2,log := s.log ++ result.2.1}

def State.write (s : State) (table : Table) (events : List Event) : State :=
  {s with table := table,log := s.log ++ events}

def step (s : State) : Action → Option State
  | .create t r uuid =>
    match s.threads t with
    | .idle => some (s.put t (s.table,[],.lookup r (r.requestId.getD uuid)))
    | _ => none
  | .poolCreate t r =>
    match s.threads t with
    | .idle => some (s.put t (s.table,[],.poolSpaceCheck r))
    | _ => none
  | .run t g report detail => (advance s.table s.spaces g report detail (s.threads t)).map (s.put t)
  | .cancel id reason now =>
    some (s.write (s.table.cancel id reason now) [.cancelled id (s.table.rows.any (·.id = id))])
  | .poolCancel id now =>
    some (s.write (s.table.poolCancel id now)
      [.cancelled id (s.table.rows.any fun r => r.id = id ∧ r.status = .active)])
  | .endTask id now => some (s.write (s.table.endReservation id now) [])
  | .expireOld now => some (s.write (s.table.expireOld now) [])
  | .setSpace id space => some {s with spaces := Function.update s.spaces id space}

end SmartParking.Reservations
