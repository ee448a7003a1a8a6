import Mathlib.Data.Rat.Defs
import SmartParking.Lib.Hex
import SmartParking.Lib.Retry
import SmartParking.Lib.Sha256

namespace SmartParking.ChirpStack.Client
open Lib

-- Microseconds; in the dictionaries an instant stands for its ISO text.
abbrev Instant := Int

-- A row of ChirpStack's `device` table.
structure DeviceRow where
  devEui : List Nat
  name : String
  description : String
  applicationId : String
  deviceProfileId : String
  enabledClass : String
  isDisabled : Bool
  batteryLevel : Option Rat
  lastSeenAt : Option Instant
  createdAt : Option Instant
  updatedAt : Option Instant
  deriving DecidableEq

-- The dictionary made of a row.
structure DeviceInfo where
  devEui : String
  name : String
  description : String
  applicationId : String
  deviceProfileId : String
  enabledClass : String
  isDisabled : Bool
  batteryLevel : Option Rat
  lastSeenAt : Option Instant
  createdAt : Option Instant
  updatedAt : Option Instant
  deriving DecidableEq

-- A battery level of zero reads as none.
def DeviceRow.info (row : DeviceRow) : DeviceInfo where
  devEui := String.ofList (Sha256.hex row.devEui)
  name := row.name
  description := row.description
  applicationId := row.applicationId
  deviceProfileId := row.deviceProfileId
  enabledClass := row.enabledClass
  isDisabled := row.isDisabled
  batteryLevel := row.batteryLevel.filter (· ≠ 0)
  lastSeenAt := row.lastSeenAt
  createdAt := row.createdAt
  updatedAt := row.updatedAt

-- What asyncpg raises for a query.
inductive DbError where
  | postgres (text : String)
  | interface (text : String)
  deriving DecidableEq

inductive Raised where
  | db (error : DbError)
  | value (text : String)
  | chirpStack (message : String)
  deriving DecidableEq

def DbError.text : DbError → String
  | .postgres text | .interface text => text

def Raised.text : Raised → String
  | .db error => error.text
  | .value text => text
  | .chirpStack message => message

-- `except (asyncpg.PostgresError, asyncpg.InterfaceError)`
def caught : Raised → Bool
  | .db _ => true
  | .value _ | .chirpStack _ => false

-- What a decorated call answers, the queries made so far and the waits between
-- the attempts, in seconds.
structure Answer (β : Type) where
  result : Except Raised β
  queries : Nat
  waits : List Rat

def withRetry (maxAttempts : Nat) (delay : Rat) (func : Nat → Except Raised β × Nat) (queries : Nat) : Answer β :=
  let ended := Retry.run caught func maxAttempts queries
  let result := match ended.outcome with
    | .returned b => .ok b
    | .raised e => .error e
    | .exhausted last =>
      .error (.chirpStack ("Failed after " ++ toString maxAttempts ++ " attempts: " ++ last.elim "None" Raised.text))
  ⟨result,ended.state,ended.slept.map fun attempt => delay*2^attempt⟩

-- The outcome of each query, in the order in which they are made.
abbrev Outcomes := Nat → Except DbError (Option DeviceRow)

-- The body of the `try` block.
def readDevice (outcomes : Outcomes) (devEui : String) (queries : Nat) : Except Raised (Option DeviceInfo) × Nat :=
  match Hex.fromHex devEui with
  | .error position => (.error (.value (Hex.errorText position)),queries)
  | .ok _ =>
    match outcomes queries with
    | .ok row => (.ok (row.map DeviceRow.info),queries+1)
    | .error e => (.error (.db e),queries+1)

-- `get_device` as it is before it is decorated.
def getDevice (connected : Bool) (outcomes : Outcomes) (devEui : String) (queries : Nat) :
    Except Raised (Option DeviceInfo) × Nat :=
  if connected = false then (.ok none,queries)
  else
    match readDevice outcomes devEui queries with
    | (.ok device,queries) => (.ok device,queries)
    | (.error e,queries) => (.error (.chirpStack ("Failed to get device: " ++ e.text)),queries)

def Failed (outcomes : Outcomes) (query : Nat) : Prop := ∃ e, outcomes query = .error e

-- The first success of the first `n` queries is returned, and the error is raised
-- only after `n` failed ones.
structure Retried (n : Nat) (outcomes : Outcomes) (answer : Answer (Option DeviceInfo)) : Prop where
  first : ∀ query < n, (∀ earlier < query, Failed outcomes earlier) → ∀ row, outcomes query = .ok row →
    answer.result = .ok (row.map DeviceRow.info)
  exhausted : ∀ message, answer.result = .error (.chirpStack message) →
    answer.queries = n ∧ ∀ query < n, Failed outcomes query

variable {outcomes : Outcomes} {devEui : String} {queries n : Nat} {delay : Rat} {bytes : List Nat} {connected : Bool}

theorem readDevice_hex (hex : Hex.fromHex devEui = .ok bytes) :
    readDevice outcomes devEui queries =
      (((outcomes queries).mapError Raised.db).map (Option.map DeviceRow.info),queries+1) := by
  unfold readDevice
  rw [hex]
  dsimp only
  cases outcomes queries <;> rfl

theorem readDevice_after (hex : Hex.fromHex devEui = .ok bytes) (calls : Nat) :
    Retry.after (readDevice outcomes devEui) calls queries = queries+calls := by
  induction calls generalizing queries with
  | zero => rfl
  | succ calls ih =>
    rw [Retry.after_succ,ih,readDevice_hex hex]
    dsimp only
    omega

theorem readDevice_fails (hex : Hex.fromHex devEui = .ok bytes) {query : Nat} {e : DbError}
    (failed : outcomes query = .error e) :
    Retry.Fails caught (readDevice outcomes devEui) (Retry.after (readDevice outcomes devEui) query 0) (.db e) := by
  rw [readDevice_after hex,Nat.zero_add]
  refine ⟨?_,rfl⟩
  rw [readDevice_hex hex,failed]
  rfl

-- The decorator does what it is for on the body of the `try` block, whose errors
-- it sees.
theorem readDevice_retried (delay : Rat) (hex : Hex.fromHex devEui = .ok bytes) (positive : 1 ≤ n) :
    Retried n outcomes (withRetry n delay (readDevice outcomes devEui) 0) := by
  have failing : ∀ query, (∀ earlier < query, Failed outcomes earlier) → ∀ i < query,
      ∃ e, Retry.Fails caught (readDevice outcomes devEui) (Retry.after (readDevice outcomes devEui) i 0) e := by
    intro query failed i bound
    obtain ⟨e,raised⟩ := failed i bound
    exact ⟨_,readDevice_fails hex raised⟩
  have returned : ∀ query < n, (∀ earlier < query, Failed outcomes earlier) → ∀ row, outcomes query = .ok row →
      (withRetry n delay (readDevice outcomes devEui) 0).result = .ok (row.map DeviceRow.info) := by
    intro query few failed row found
    have ends : Retry.settled caught (readDevice outcomes devEui
        (Retry.after (readDevice outcomes devEui) query 0)).1 = some (.returned (row.map DeviceRow.info)) := by
      rw [readDevice_after hex,Nat.zero_add,readDevice_hex hex,found]
      rfl
    unfold withRetry Retry.run
    rw [Retry.loop_first (failing query failed) few ends]
  refine ⟨returned,?_⟩
  intro message raised
  have all : ∀ query < n, Failed outcomes query := by
    intro query
    induction query using Nat.strong_induction_on with
    | _ query ih =>
      intro few
      cases found : outcomes query with
      | error e => exact ⟨e,found⟩
      | ok row =>
        rw [returned query few (fun earlier before => ih earlier before (Nat.lt_trans before few)) row found] at raised
        cases raised
  refine ⟨?_,all⟩
  obtain ⟨calls,rfl⟩ : ∃ calls, n = calls+1 := ⟨n-1,by omega⟩
  obtain ⟨e,final⟩ := all calls (Nat.lt_succ_self calls)
  unfold withRetry Retry.run
  rw [Retry.loop_never (failing calls fun earlier bound => all earlier (Nat.lt_succ_of_lt bound))
    (readDevice_fails hex final)]
  dsimp only
  rw [readDevice_after hex,Nat.zero_add]

theorem getDevice_raises {e : Raised} (raised : (getDevice connected outcomes devEui queries).1 = .error e) :
    ∃ message, e = .chirpStack message := by
  unfold getDevice at raised
  split at raised
  · cases raised
  · split at raised
    · cases raised
    · cases raised
      exact ⟨_,rfl⟩

-- Every error has been converted before the decorator sees it, so it calls once.
theorem getDevice_once (positive : 1 ≤ n) :
    withRetry n delay (getDevice connected outcomes devEui) queries =
      ⟨(getDevice connected outcomes devEui queries).1,(getDevice connected outcomes devEui queries).2,[]⟩ := by
  obtain ⟨calls,rfl⟩ : ∃ calls, n = calls+1 := ⟨n-1,by omega⟩
  unfold withRetry Retry.run
  cases called : (getDevice connected outcomes devEui queries).1 with
  | ok device =>
    have ends : Retry.settled caught (getDevice connected outcomes devEui queries).1 = some (.returned device) := by
      rw [called]
      rfl
    rw [Retry.loop_settled ends]
    rfl
  | error e =>
    obtain ⟨message,rfl⟩ := getDevice_raises called
    have ends : Retry.settled caught (getDevice connected outcomes devEui queries).1 =
        some (.raised (.chirpStack message)) := by
      rw [called]
      rfl
    rw [Retry.loop_settled ends]
    rfl

theorem getDevice_found {row : Option DeviceRow} (hex : Hex.fromHex devEui = .ok bytes)
    (found : outcomes queries = .ok row) :
    getDevice true outcomes devEui queries = (.ok (row.map DeviceRow.info),queries+1) := by
  unfold getDevice
  rw [if_neg (by decide),readDevice_hex hex,found]
  rfl

theorem getDevice_failed {e : DbError} (hex : Hex.fromHex devEui = .ok bytes) (failed : outcomes queries = .error e) :
    getDevice true outcomes devEui queries =
      (.error (.chirpStack ("Failed to get device: " ++ e.text)),queries+1) := by
  unfold getDevice
  rw [if_neg (by decide),readDevice_hex hex,failed]
  rfl

theorem getDevice_nonhex {position : Nat} (wrong : Hex.fromHex devEui = .error position) :
    getDevice true outcomes devEui queries =
      (.error (.chirpStack ("Failed to get device: " ++ Hex.errorText position)),queries) := by
  unfold getDevice readDevice
  rw [if_neg (by decide),wrong]
  rfl

-- A first query that succeeds is the success that is asked for, and one that
-- fails is the last of the failures only if no other attempt was allowed.
theorem once_found {row : Option DeviceRow} (found : outcomes 0 = .ok row) (waits : List Rat) :
    Retried n outcomes ⟨.ok (row.map DeviceRow.info),1,waits⟩ := by
  refine ⟨?_,fun message raised => by cases raised⟩
  intro query _ failed other later
  cases query with
  | zero =>
    rw [found] at later
    cases later
    rfl
  | succ query =>
    obtain ⟨e,raised⟩ := failed 0 (Nat.succ_pos query)
    rw [found] at raised
    cases raised

theorem once_failed {e : DbError} (failed : outcomes 0 = .error e) (message : String) (waits : List Rat) :
    Retried n outcomes ⟨.error (.chirpStack message),1,waits⟩ ↔ n = 1 := by
  constructor
  · intro retried
    exact (retried.exhausted message rfl).1.symm
  · rintro rfl
    refine ⟨?_,fun _ _ => ⟨rfl,fun query few => ?_⟩⟩
    · intro query few _ row found
      cases Nat.lt_one_iff.mp few
      rw [failed] at found
      cases found
    · cases Nat.lt_one_iff.mp few
      exact ⟨e,failed⟩

-- Nothing is retried: the first query decides.
theorem getDevice_retried (maxAttempts : Nat) (positive : 1 ≤ maxAttempts) (delay : Rat) (devEui : String)
    (outcomes : Outcomes) :
    Retried maxAttempts outcomes (withRetry maxAttempts delay (getDevice true outcomes devEui) 0) ↔
      (∃ bytes, Hex.fromHex devEui = .ok bytes) ∧ (maxAttempts = 1 ∨ ∃ row, outcomes 0 = .ok row) := by
  rw [getDevice_once positive]
  cases hex : Hex.fromHex devEui with
  | error position =>
    rw [getDevice_nonhex hex]
    constructor
    · intro retried
      have none : 0 = maxAttempts := (retried.exhausted _ rfl).1
      omega
    · rintro ⟨⟨bytes,same⟩,_⟩
      cases same
  | ok bytes =>
    cases first : outcomes 0 with
    | ok row =>
      rw [getDevice_found hex first]
      exact ⟨fun _ => ⟨⟨bytes,rfl⟩,.inr ⟨row,rfl⟩⟩,fun _ => once_found first []⟩
    | error e =>
      rw [getDevice_failed hex first,once_failed first]
      constructor
      · intro one
        exact ⟨⟨bytes,rfl⟩,.inl one⟩
      · rintro ⟨_,one | ⟨row,found⟩⟩
        · exact one
        · cases found

theorem fromHex_sensor : Hex.fromHex "58a0cb0000112233" = .ok [88,160,203,0,0,17,34,51] := by
  have digits : "58a0cb0000112233".toList = ['5','8','a','0','c','b','0','0','0','0','1','1','2','2','3','3'] := by
    decide
  unfold Hex.fromHex
  rw [digits]
  rfl

theorem getDevice_retried_success :
    Retried 3 (fun _ => .ok none) (withRetry 3 (1/2) (getDevice true (fun _ => .ok none) "58a0cb0000112233") 0) :=
  (getDevice_retried 3 (by decide) (1/2) "58a0cb0000112233" fun _ => .ok none).mpr
    ⟨⟨_,fromHex_sensor⟩,.inr ⟨none,rfl⟩⟩

def lostOnce : Outcomes
  | 0 => .error (.interface "connection is closed")
  | _ => .ok none

-- A connection that is lost once is reported as a failure after one query.
theorem getDevice_unretried :
    ¬Retried 3 lostOnce (withRetry 3 (1/2) (getDevice true lostOnce "58a0cb0000112233") 0) := by
  intro retried
  have answered := retried.first 1 (by decide)
    (fun earlier before => ⟨.interface "connection is closed",by rw [Nat.lt_one_iff.mp before]; rfl⟩) none rfl
  rw [getDevice_once (by decide),getDevice_failed fromHex_sensor (e := .interface "connection is closed") rfl] at answered
  cases answered

end SmartParking.ChirpStack.Client
