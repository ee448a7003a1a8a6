import Mathlib.Data.List.Sort
import SmartParking.Lib.Dict
import SmartParking.Lib.Runs

namespace SmartParking.Gateways
open Lib Lib.Runs

-- Microseconds.
abbrev Instant := Int

def minute : Instant := 60*1000000

def cacheTtl : Instant := 30*1000000

-- The columns of ChirpStack's `gateway` that the query reads; the id is the hex
-- text of its bytes.
structure GatewayRow where
  gatewayId : String
  name : String
  description : String
  lastSeenAt : Option Instant
  properties : String
  deriving DecidableEq

structure Table where
  rows : List GatewayRow
  primaryKey : (rows.map (·.gatewayId)).Nodup

def Table.ids (t : Table) : List String := t.rows.map (·.gatewayId)

def Table.commit (rows : List GatewayRow) : Option Table :=
  if primaryKey : (rows.map (·.gatewayId)).Nodup then some ⟨rows,primaryKey⟩ else none

structure GatewayInfo where
  gatewayId : String
  name : String
  description : String
  lastSeenAt : Option Instant
  isOnline : Bool
  minutesOffline : Option Int
  properties : String
  deriving DecidableEq

-- `ORDER BY last_seen_at DESC NULLS LAST`
def lastSeenFirst (a b : GatewayRow) : Prop := ∀ seen ∈ b.lastSeenAt, ∃ other ∈ a.lastSeenAt, seen ≤ other

instance : DecidableRel lastSeenFirst := fun a b =>
  inferInstanceAs (Decidable (∀ seen ∈ b.lastSeenAt, ∃ other ∈ a.lastSeenAt, seen ≤ other))

structure Monitor where
  pool : Bool := false
  gatewayCache : Dict String GatewayInfo := .empty
  cacheUpdated : Option Instant := none

section Calls

variable (offlineThreshold : Instant)

def gatewayInfo (now : Instant) (row : GatewayRow) : GatewayInfo :=
  let timeSinceSeen := row.lastSeenAt.map (now-·)
  let isOnline := timeSinceSeen.any (· < offlineThreshold)
  {gatewayId := row.gatewayId,name := row.name,description := row.description,lastSeenAt := row.lastSeenAt,
   isOnline := isOnline,minutesOffline := if isOnline then none else timeSinceSeen.map (·.tdiv minute),
   properties := row.properties}

def Table.gateways (t : Table) (now : Instant) : List GatewayInfo :=
  (t.rows.insertionSort lastSeenFirst).map (gatewayInfo offlineThreshold now)

def store (cache : Dict String GatewayInfo) (gateways : List GatewayInfo) : Dict String GatewayInfo :=
  gateways.foldl (fun cache info => cache.set info.gatewayId info) cache

-- Whether a call is answered from the cache.
def Monitor.served (m : Monitor) (refresh : Bool) (now : Instant) : Bool :=
  m.pool && !refresh && m.cacheUpdated.any fun updated => now-updated < cacheTtl

-- `available` says that the query succeeds.
def getAllGateways (t : Table) (available refresh : Bool) (now : Instant) (m : Monitor) : List GatewayInfo × Monitor :=
  if !m.pool then ([],m)
  else if m.served refresh now then (m.gatewayCache.values,m)
  else if available then
    let gateways := t.gateways offlineThreshold now
    (gateways,{m with gatewayCache := store m.gatewayCache gateways,cacheUpdated := some now})
  else ([],m)

def getOnlineGateways (t : Table) (available : Bool) (now : Instant) (m : Monitor) : List GatewayInfo :=
  (getAllGateways offlineThreshold t available false now m).1.filter (·.isOnline)

def getOfflineGateways (t : Table) (available : Bool) (now : Instant) (m : Monitor) : List GatewayInfo :=
  (getAllGateways offlineThreshold t available false now m).1.filter (!·.isOnline)

def isGatewayOnline (t : Table) (available : Bool) (now : Instant) (m : Monitor) (gatewayId : String) : Bool :=
  ((getAllGateways offlineThreshold t available false now m).1.find? (·.gatewayId == gatewayId)).any (·.isOnline)

-- A successful query: the table, the clock and what the call returned.
structure Query where
  table : Table
  now : Instant
  result : List GatewayInfo

-- `queries` has the successful ones, the latest first. The program does not read it.
structure State where
  table : Table
  monitor : Monitor
  queries : List Query

def State.initial (t : Table) : State := ⟨t,{},[]⟩

inductive Action where
  | insert (row : GatewayRow)
  | delete (gatewayId : String)
  | update (gatewayId : String) (row : GatewayRow)
  | connect
  | call (available refresh : Bool) (now : Instant)

def Monitor.queried (m : Monitor) (available refresh : Bool) (now : Instant) : Bool :=
  m.pool && !m.served refresh now && available

def State.call (s : State) (available refresh : Bool) (now : Instant) : State :=
  let answer := getAllGateways offlineThreshold s.table available refresh now s.monitor
  {s with
    monitor := answer.2
    queries := if s.monitor.queried available refresh now then ⟨s.table,now,answer.1⟩::s.queries else s.queries}

def step (s : State) : Action → Option State
  | .insert row => (Table.commit (s.table.rows ++ [row])).map fun table => {s with table := table}
  | .delete gatewayId =>
    (Table.commit (s.table.rows.filter (·.gatewayId ≠ gatewayId))).map fun table => {s with table := table}
  | .update gatewayId row =>
    (Table.commit (s.table.rows.map fun old => if old.gatewayId = gatewayId then row else old)).map fun table =>
      {s with table := table}
  | .connect => some {s with monitor := {s.monitor with pool := true}}
  | .call available refresh now => some (s.call offlineThreshold available refresh now)

end Calls

variable {offlineThreshold now : Instant} {t : Table} {s : State} {m : Monitor} {refresh available : Bool}
  {action : Action} {next : State}

theorem gateways_ids (offlineThreshold : Instant) (t : Table) (now : Instant) :
    ((t.gateways offlineThreshold now).map (·.gatewayId)).Perm t.ids := by
  unfold Table.gateways
  rw [List.map_map]
  exact (t.rows.perm_insertionSort lastSeenFirst).map (·.gatewayId)

def keyed (infos : List GatewayInfo) : List (String × GatewayInfo) := infos.map fun info => (info.gatewayId,info)

theorem keyed_ids (infos : List GatewayInfo) : (keyed infos).map Prod.fst = infos.map (·.gatewayId) := List.map_map ..

theorem keyed_values (infos : List GatewayInfo) : (keyed infos).map Prod.snd = infos := by
  unfold keyed
  rw [List.map_map]
  exact List.map_id' infos

theorem store_update (cache : Dict String GatewayInfo) (infos : List GatewayInfo) :
    store cache infos = cache.update (keyed infos) := by
  unfold store Dict.update keyed
  rw [List.foldl_map]

-- The cache is what all the queries stored, one after the other.
def cacheOf : List Query → Dict String GatewayInfo
  | [] => .empty
  | query::earlier => store (cacheOf earlier) query.result

-- What the log and the monitor have in common.
structure Tracked (offlineThreshold : Instant) (s : State) : Prop where
  cache : s.monitor.gatewayCache = cacheOf s.queries
  updated : s.monitor.cacheUpdated = s.queries.head?.map (·.now)
  results : ∀ query ∈ s.queries, query.result = query.table.gateways offlineThreshold query.now

theorem call_queried (queried : s.monitor.queried available refresh now = true) :
    s.call offlineThreshold available refresh now =
      {s with
        monitor := {s.monitor with
          gatewayCache := store s.monitor.gatewayCache (s.table.gateways offlineThreshold now)
          cacheUpdated := some now}
        queries := ⟨s.table,now,s.table.gateways offlineThreshold now⟩::s.queries} := by
  have parts := queried
  rw [Monitor.queried,Bool.and_eq_true,Bool.and_eq_true,Bool.not_eq_true'] at parts
  obtain ⟨⟨pool,unserved⟩,present⟩ := parts
  unfold State.call
  dsimp only
  rw [if_pos queried]
  simp only [getAllGateways,pool,unserved,present,Bool.not_true,Bool.false_eq_true,if_false,if_true]

theorem call_unqueried (unqueried : s.monitor.queried available refresh now = false) :
    s.call offlineThreshold available refresh now = s := by
  have kept : (getAllGateways offlineThreshold s.table available refresh now s.monitor).2 = s.monitor := by
    unfold getAllGateways
    unfold Monitor.queried at unqueried
    split
    · rfl
    · split
      · rfl
      · rename_i pool unserved
        simp only [Bool.not_eq_true,Bool.not_eq_false'] at pool unserved
        rw [pool,unserved] at unqueried
        rw [show available = false from unqueried]
        rfl
  rw [State.call,kept,unqueried]
  rfl

theorem tracked_preserved (tracked : Tracked offlineThreshold s) (ran : step offlineThreshold s action = some next) :
    Tracked offlineThreshold next := by
  cases action with
  | insert row =>
    obtain ⟨table,_,rfl⟩ := Option.map_eq_some_iff.mp ran
    exact ⟨tracked.cache,tracked.updated,tracked.results⟩
  | delete gatewayId =>
    obtain ⟨table,_,rfl⟩ := Option.map_eq_some_iff.mp ran
    exact ⟨tracked.cache,tracked.updated,tracked.results⟩
  | update gatewayId row =>
    obtain ⟨table,_,rfl⟩ := Option.map_eq_some_iff.mp ran
    exact ⟨tracked.cache,tracked.updated,tracked.results⟩
  | connect =>
    cases ran
    exact ⟨tracked.cache,tracked.updated,tracked.results⟩
  | call available refresh now =>
    cases ran
    cases queried : s.monitor.queried available refresh now with
    | false =>
      rw [call_unqueried queried]
      exact tracked
    | true =>
      rw [call_queried queried]
      refine ⟨?_,rfl,?_⟩
      · exact congrArg (store · _) tracked.cache
      · intro query member
        rcases List.mem_cons.mp member with rfl | earlier
        · rfl
        · exact tracked.results query earlier

theorem tracked_reached (path : Reached (step offlineThreshold) (fun _ _ => True) (State.initial t) s) :
    Tracked offlineThreshold s :=
  path.invariant (Tracked offlineThreshold) ⟨rfl,rfl,fun _ member => absurd member List.not_mem_nil⟩
    fun tracked _ ran => tracked_preserved tracked ran

variable {queries earlier : List Query} {latest : Query}

theorem result_ids (result : latest.result = latest.table.gateways offlineThreshold latest.now) :
    ((keyed latest.result).map Prod.fst).Perm latest.table.ids := by
  rw [keyed_ids,result]
  exact gateways_ids offlineThreshold latest.table latest.now

theorem result_distinct (result : latest.result = latest.table.gateways offlineThreshold latest.now) :
    ((keyed latest.result).map Prod.fst).Nodup :=
  (result_ids result).nodup_iff.mpr latest.table.primaryKey

theorem cacheOf_keys (results : ∀ query ∈ queries, query.result = query.table.gateways offlineThreshold query.now)
    (id : String) : id ∈ (cacheOf queries).keys ↔ ∃ query ∈ queries, id ∈ query.table.ids := by
  induction queries with
  | nil => simp [cacheOf,Dict.empty,Dict.keys]
  | cons latest earlier ih =>
    obtain ⟨result,others⟩ := List.forall_mem_cons.mp results
    rw [cacheOf,store_update,Dict.mem_keys_update,(result_ids result).mem_iff,ih others,List.exists_mem_cons_iff]

theorem cacheOf_keyed (results : ∀ query ∈ queries, query.result = query.table.gateways offlineThreshold query.now) :
    (cacheOf queries).entries = keyed (cacheOf queries).values := by
  have own : ∀ e ∈ (cacheOf queries).entries, e.1 = e.2.gatewayId := by
    induction queries with
    | nil => exact fun e member => absurd member List.not_mem_nil
    | cons latest earlier ih =>
      obtain ⟨result,others⟩ := List.forall_mem_cons.mp results
      intro e member
      rw [cacheOf,store_update,Dict.mem_update (result_distinct result)] at member
      rcases member with new | ⟨_,old⟩
      · obtain ⟨info,_,rfl⟩ := List.mem_map.mp new
        rfl
      · exact ih others e old
  unfold keyed Dict.values
  rw [List.map_map]
  refine ((List.map_congr_left fun e member => ?_).trans (List.map_id _)).symm
  exact Prod.ext (own e member).symm rfl

-- The values are the last result exactly where the last query missed no gateway that
-- an earlier one had.
theorem cacheOf_perm (results : ∀ query ∈ latest::earlier, query.result = query.table.gateways offlineThreshold query.now) :
    (cacheOf (latest::earlier)).values.Perm latest.result ↔
      ∀ query ∈ earlier, ∀ id ∈ query.table.ids, id ∈ latest.table.ids := by
  obtain ⟨result,others⟩ := List.forall_mem_cons.mp results
  have entries : (cacheOf (latest::earlier)).values.Perm latest.result ↔
      ((cacheOf earlier).update (keyed latest.result)).entries.Perm (keyed latest.result) := by
    rw [← store_update]
    constructor
    · intro same
      rw [show store (cacheOf earlier) latest.result = cacheOf (latest::earlier) from rfl,cacheOf_keyed results]
      exact same.map _
    · intro same
      have values := same.map Prod.snd
      rwa [keyed_values] at values
  rw [entries,Dict.update_perm (result_distinct result)]
  constructor
  · intro known query member id listed
    exact (result_ids result).mem_iff.mp (known id ((cacheOf_keys others id).mpr ⟨query,member,listed⟩))
  · intro kept id listed
    obtain ⟨query,member,present⟩ := (cacheOf_keys others id).mp listed
    exact (result_ids result).mem_iff.mpr (kept query member id present)

theorem served_values (path : Reached (step offlineThreshold) (fun _ _ => True) (State.initial t) s)
    (served : s.monitor.served refresh now = true) (available : Bool) : ∃ latest earlier, s.queries = latest::earlier ∧
      (∀ query ∈ latest::earlier, query.result = query.table.gateways offlineThreshold query.now) ∧
      (getAllGateways offlineThreshold s.table available refresh now s.monitor).1 = (cacheOf (latest::earlier)).values := by
  have tracked := tracked_reached path
  obtain ⟨⟨pool,_⟩,recent⟩ : (s.monitor.pool = true ∧ _) ∧
      (s.monitor.cacheUpdated.any fun updated => now-updated < cacheTtl) = true := by
    simpa only [Monitor.served,Bool.and_eq_true] using served
  have answer : (getAllGateways offlineThreshold s.table available refresh now s.monitor).1 = s.monitor.gatewayCache.values := by
    simp only [getAllGateways,pool,served,Bool.not_true,Bool.false_eq_true,if_false,if_true]
  rw [tracked.updated] at recent
  cases logged : s.queries with
  | nil =>
    rw [logged] at recent
    cases recent
  | cons latest earlier => exact ⟨latest,earlier,rfl,logged ▸ tracked.results,by rw [answer,tracked.cache,logged]⟩

theorem cached_answer (path : Reached (step offlineThreshold) (fun _ _ => True) (State.initial t) s)
    (served : s.monitor.served refresh now = true) (available : Bool) : ∃ latest earlier, s.queries = latest::earlier ∧
      ((getAllGateways offlineThreshold s.table available refresh now s.monitor).1.Perm latest.result ↔
        ∀ query ∈ earlier, ∀ id ∈ query.table.ids, id ∈ latest.table.ids) := by
  obtain ⟨latest,earlier,logged,results,answer⟩ := served_values path served available
  refine ⟨latest,earlier,logged,?_⟩
  rw [answer]
  exact cacheOf_perm results

-- The two lists by status follow.
theorem statuses_kept (path : Reached (step offlineThreshold) (fun _ _ => True) (State.initial t) s)
    (served : s.monitor.served false now = true) (available : Bool) : ∃ latest earlier, s.queries = latest::earlier ∧
      ((∀ query ∈ earlier, ∀ id ∈ query.table.ids, id ∈ latest.table.ids) →
        (getOnlineGateways offlineThreshold s.table available now s.monitor).Perm (latest.result.filter (·.isOnline)) ∧
        (getOfflineGateways offlineThreshold s.table available now s.monitor).Perm (latest.result.filter (!·.isOnline))) := by
  obtain ⟨latest,earlier,logged,results,answer⟩ := served_values path served available
  refine ⟨latest,earlier,logged,fun kept => ?_⟩
  have same := (cacheOf_perm results).mpr kept
  rw [← answer] at same
  exact ⟨same.filter _,same.filter _⟩

-- A gateway that the last query missed is still looked up in what the earlier ones
-- stored.
theorem isGatewayOnline_cached (path : Reached (step offlineThreshold) (fun _ _ => True) (State.initial t) s)
    (served : s.monitor.served false now = true) (available : Bool) (gatewayId : String) :
    isGatewayOnline offlineThreshold s.table available now s.monitor gatewayId = true ↔
      ∃ info ∈ (cacheOf s.queries).values, info.gatewayId = gatewayId ∧ info.isOnline = true := by
  obtain ⟨latest,earlier,logged,results,answer⟩ := served_values path served available
  unfold isGatewayOnline
  rw [answer,logged,Option.any_eq_true]
  constructor
  · rintro ⟨info,found,online⟩
    have named := List.find?_some found
    exact ⟨info,List.mem_of_find?_eq_some found,beq_iff_eq.mp named,online⟩
  · rintro ⟨info,member,same,online⟩
    have ids : ((cacheOf (latest::earlier)).values.map (·.gatewayId)).Nodup := by
      rw [← keyed_ids,← cacheOf_keyed results]
      exact (cacheOf (latest::earlier)).distinct
    have sought : ((cacheOf (latest::earlier)).values.find? (·.gatewayId == gatewayId)).isSome := by
      rw [List.find?_isSome]
      exact ⟨info,member,beq_iff_eq.mpr same⟩
    obtain ⟨first,found⟩ := Option.isSome_iff_exists.mp sought
    have named := List.find?_some found
    have one : first = info :=
      List.inj_on_of_nodup_map ids (List.mem_of_find?_eq_some found) member ((beq_iff_eq.mp named).trans same.symm)
    exact ⟨first,found,one ▸ online⟩

def gateway (gatewayId : String) : GatewayRow := ⟨gatewayId,gatewayId,"",some 0,"\x7b\x7d"⟩

def second : Instant := 1000000

-- Between two queries a gateway is added.
theorem cached_answer_added : ∃ (s : State) (latest : Query) (earlier : List Query), s.queries = latest::earlier ∧
    latest.table.ids = ["a","b"] ∧
    (getAllGateways (5*minute) s.table true false (2*second) s.monitor).1.Perm latest.result := by
  have start : Reached (step (5*minute)) (fun _ _ => True) (State.initial ⟨[],List.nodup_nil⟩)
    (State.initial ⟨[],List.nodup_nil⟩) := .refl
  obtain ⟨s,path,served,tables⟩ := start.found (fun _ _ => true)
    (fun s => s.monitor.served false (2*second) = true ∧ s.queries.map (·.table.ids) = [["a","b"],["a"]])
    [.insert (gateway "a"),.connect,.call true false 0,.insert (gateway "b"),.call true true second]
    (fun _ _ => trivial) (by decide +kernel)
  obtain ⟨latest,earlier,logged,agree⟩ := cached_answer path served true
  rw [logged,List.map_cons,List.cons.injEq] at tables
  obtain ⟨first,rest⟩ := tables
  refine ⟨s,latest,earlier,logged,first,agree.mpr ?_⟩
  intro query member id listed
  have old : query.table.ids ∈ [["a"]] := rest ▸ List.mem_map_of_mem member
  rw [List.mem_singleton.mp old] at listed
  rw [first]
  exact List.mem_append_left ["b"] listed

-- Between two queries one is deleted; the cache still has it, and as online.
theorem cached_answer_deleted : ∃ (s : State) (latest : Query) (earlier : List Query),
    Reached (step (5*minute)) (fun _ _ => True) (State.initial ⟨[],List.nodup_nil⟩) s ∧
    s.monitor.served false (2*second) = true ∧ s.queries = latest::earlier ∧ latest.table.ids = ["b"] ∧
    ¬(getAllGateways (5*minute) s.table true false (2*second) s.monitor).1.Perm latest.result ∧
    isGatewayOnline (5*minute) s.table true (2*second) s.monitor "a" = true := by
  have start : Reached (step (5*minute)) (fun _ _ => True) (State.initial ⟨[],List.nodup_nil⟩)
    (State.initial ⟨[],List.nodup_nil⟩) := .refl
  obtain ⟨s,path,served,tables,counts,answered,online⟩ := start.found (fun _ _ => true)
    (fun s => s.monitor.served false (2*second) = true ∧ s.queries.map (·.table.ids) = [["b"],["a","b"]] ∧
      s.queries.map (·.result.length) = [1,2] ∧
      (getAllGateways (5*minute) s.table true false (2*second) s.monitor).1.length = 2 ∧
      isGatewayOnline (5*minute) s.table true (2*second) s.monitor "a" = true)
    [.insert (gateway "a"),.insert (gateway "b"),.connect,.call true false 0,.delete "a",.call true true second]
    (fun _ _ => trivial) (by decide +kernel)
  obtain ⟨latest,earlier,logged,first,_⟩ := List.map_eq_cons_iff.mp tables
  rw [logged] at counts
  refine ⟨s,latest,earlier,path,served,logged,first,fun same => ?_,online⟩
  have lengths := same.length_eq
  rw [answered] at lengths
  cases lengths.trans (List.cons.inj counts).1

end SmartParking.Gateways
