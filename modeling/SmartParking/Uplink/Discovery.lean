import SmartParking.Lib.Lists
import SmartParking.Lib.Runs
import SmartParking.Uplink.Eui
import SmartParking.Uplink.Process

namespace SmartParking.Uplink.Discovery
open Lib
open Spaces.Catalog (hexEui)
open Downlink (orNone)
open Platform (upper)

structure SensorRow where
  id : String
  devEui : String
  deviceType : String
  deviceTypeId : String
  deviceModel : String
  status : String
  enabled : Bool
  lastSeenAt : Option Time
  deriving DecidableEq

-- What no statement of a call writes to a row that exists.
def SensorRow.fixed (row : SensorRow) : SensorRow := {row with lastSeenAt := none}

-- `sensor_devices` with its keys and `chk_sensor_dev_eui_hex`.
structure SensorTable where
  rows : List SensorRow
  primaryKey : (rows.map (·.id)).Nodup
  uniqueEui : (rows.map (·.devEui)).Nodup
  hexForm : ∀ row ∈ rows, hexEui row.devEui = true

def SensorTable.empty : SensorTable := ⟨[],List.nodup_nil,List.nodup_nil,fun _ member => absurd member List.not_mem_nil⟩

-- The trigger that runs before every INSERT and UPDATE.
def enforceEuiUpper (row : SensorRow) : SensorRow := {row with devEui := upper row.devEui}

theorem upper_hexEui {eui : String} (hex : hexEui eui = true) : upper eui = eui := by
  unfold hexEui at hex
  rw [Bool.and_eq_true,List.all_eq_true] at hex
  rw [←String.toList_inj,upper,String.toList_ofList]
  refine (List.map_congr_left fun c member => ?_).trans (List.map_id _)
  exact (upper_digit (List.contains_iff_mem.mp (hex.2 c member))).2.2.1

def touchRow (id : String) (now : Time) (row : SensorRow) : SensorRow :=
  if row.id = id then enforceEuiUpper {row with lastSeenAt := some now} else row

theorem touchRow_fixed {row : SensorRow} (id : String) (now : Time) (hex : hexEui row.devEui = true) :
    (touchRow id now row).fixed = row.fixed := by
  unfold touchRow
  split
  · unfold SensorRow.fixed enforceEuiUpper
    rw [upper_hexEui hex]
  · rfl

namespace SensorTable

theorem touched_fixed (t : SensorTable) (id : String) (now : Time) :
    (t.rows.map (touchRow id now)).map (·.fixed) = t.rows.map (·.fixed) := by
  rw [List.map_map]
  exact List.map_congr_left fun row member => touchRow_fixed id now (t.hexForm row member)

-- A column that is fixed has the values it had.
theorem column_fixed {rows others : List SensorRow} {β : Type} (column : SensorRow → β)
    (reads : ∀ row, column row.fixed = column row) (same : rows.map (·.fixed) = others.map (·.fixed)) :
    rows.map column = others.map column := by
  have read : ∀ rows : List SensorRow, rows.map column = (rows.map (·.fixed)).map column := by
    intro rows
    rw [List.map_map]
    exact List.map_congr_left fun row _ => (reads row).symm
  rw [read rows,read others,same]

-- `UPDATE sensor_devices SET last_seen_at = NOW() WHERE id = $1`
def touch (t : SensorTable) (id : String) (now : Time) : SensorTable where
  rows := t.rows.map (touchRow id now)
  primaryKey := by
    rw [column_fixed (·.id) (fun _ => rfl) (t.touched_fixed id now)]
    exact t.primaryKey
  uniqueEui := by
    rw [column_fixed (·.devEui) (fun _ => rfl) (t.touched_fixed id now)]
    exact t.uniqueEui
  hexForm := by
    intro row member
    obtain ⟨old,held,rfl⟩ := List.mem_map.mp member
    have same := congrArg SensorRow.devEui (touchRow_fixed id now (t.hexForm old held))
    change (touchRow id now old).devEui = old.devEui at same
    rw [same]
    exact t.hexForm old held

def find (t : SensorTable) (devEui : String) : Option SensorRow := t.rows.find? (·.devEui == devEui)

theorem find_some {t : SensorTable} {devEui : String} {row : SensorRow} (found : t.find devEui = some row) :
    row ∈ t.rows ∧ row.devEui = devEui := by
  have same := List.find?_some (p := fun row : SensorRow => row.devEui == devEui) found
  exact ⟨List.mem_of_find?_eq_some found,beq_iff_eq.mp same⟩

theorem find_none {t : SensorTable} {devEui : String} (absent : t.find devEui = none) :
    devEui ∉ t.rows.map (·.devEui) := by
  intro member
  obtain ⟨row,held,same⟩ := List.mem_map.mp member
  have other := List.find?_eq_none.mp absent row held
  exact other (beq_iff_eq.mpr same)

def append (t : SensorTable) (row : SensorRow) (hex : hexEui row.devEui = true)
    (absent : t.find row.devEui = none) (fresh : row.id ∉ t.rows.map (·.id)) : SensorTable where
  rows := t.rows ++ [row]
  primaryKey := by
    rw [List.map_append]
    exact List.nodup_append_comm.mp (List.nodup_cons.mpr ⟨fresh,t.primaryKey⟩)
  uniqueEui := by
    rw [List.map_append]
    exact List.nodup_append_comm.mp (List.nodup_cons.mpr ⟨find_none absent,t.uniqueEui⟩)
  hexForm := by
    intro other member
    rcases List.mem_append.mp member with old | new
    · exact t.hexForm other old
    · cases List.mem_singleton.mp new
      exact hex

end SensorTable

structure Call where
  devEui : String
  deviceTypeId : String
  deviceName : Option String := none
  deviceModel : Option String := none
  deriving DecidableEq

-- `device_model or device_name or f"Device {dev_eui[:8]}"`
def Call.model (c : Call) : String :=
  ((orNone c.deviceModel).or (orNone c.deviceName)).getD ("Device " ++ String.ofList (c.devEui.toList.take 8))

def Call.newRow (c : Call) (id : String) (now : Time) : SensorRow where
  id := id
  devEui := c.devEui
  deviceType := "orphan"
  deviceTypeId := c.deviceTypeId
  deviceModel := c.model
  status := "orphan"
  enabled := true
  lastSeenAt := some now

-- The statement a call sends next, or how it ended.
inductive Pc where
  | select
  | update (row : SensorRow)
  | insert
  | returned (row : SensorRow)
  | raised
  deriving DecidableEq

structure Running where
  call : Call
  pc : Pc
  deriving DecidableEq

-- `INSERT ... ON CONFLICT (dev_eui) DO UPDATE ... RETURNING`, one statement that
-- the unique index makes atomic. The id it makes up is a new one. Last come the
-- rows created.
def SensorTable.insertOnConflict (t : SensorTable) (new : SensorRow) (now : Time) :
    Option (SensorTable × Pc × List SensorRow) :=
  let row := enforceEuiUpper new
  if hex : hexEui row.devEui = true then
    match held : t.find row.devEui with
    | some other => some (t.touch other.id now,.returned (touchRow other.id now other),[])
    | none =>
      if fresh : row.id ∉ t.rows.map (·.id) then some (t.append row hex held fresh,.returned row,[row])
      else none
  else some (t,.raised,[])

def execute (t : SensorTable) (r : Running) (now : Time) (newId : String) :
    Option (SensorTable × Pc × List SensorRow) :=
  match r.pc with
  | .select =>
    match t.find r.call.devEui with
    | some row => some (t,.update row,[])
    | none => some (t,.insert,[])
  | .update row => some (t.touch row.id now,.returned row,[])
  | .insert => t.insertOnConflict (r.call.newRow newId now) now
  | .returned _ | .raised => none

-- `inserted` is what the INSERTs created so far. Nothing reads it.
structure World where
  table : SensorTable
  calls : List Running
  inserted : List SensorRow

def World.idle (t : SensorTable) : World := ⟨t,[],[]⟩

inductive Action where
  | call (c : Call)
  | statement (i : Nat) (now : Time) (newId : String)

def step : World → Action → Option World
  | w,.call c => some {w with calls := w.calls ++ [⟨c,.select⟩]}
  | w,.statement i now newId => do
    let r ← w.calls[i]?
    let (table,pc,created) ← execute w.table r now newId
    return ⟨table,w.calls.set i ⟨r.call,pc⟩,w.inserted ++ created⟩

abbrev Reached (start : SensorTable) (w : World) : Prop :=
  Runs.Reached step (fun _ _ => True) (World.idle start) w

-- What a call has read is, but for `last_seen_at`, in the table.
def Running.Valid (t : SensorTable) (r : Running) : Prop :=
  match r.pc with
  | .select | .insert => True
  | .update row | .returned row => row.devEui = upper r.call.devEui ∧ row.fixed ∈ t.rows.map (·.fixed)
  | .raised => hexEui (upper r.call.devEui) = false

-- A statement leaves the rows as they are, `last_seen_at` apart, and appends
-- what it creates.
structure Effect (t : SensorTable) (r : Running) (next : SensorTable × Pc × List SensorRow) : Prop where
  rows : next.1.rows.map (·.fixed) = (t.rows ++ next.2.2).map (·.fixed)
  created : ∀ row ∈ next.2.2, ∃ newId now, row = enforceEuiUpper (r.call.newRow newId now)
  answer : Running.Valid next.1 ⟨r.call,next.2.1⟩

theorem touch_effect {t : SensorTable} {r : Running} {row : SensorRow} (id : String) (now : Time) (answer : SensorRow)
    (read : row.devEui = upper r.call.devEui) (held : row.fixed ∈ t.rows.map (·.fixed)) (same : answer.fixed = row.fixed) :
    Effect t r (t.touch id now,.returned answer,[]) where
  rows := (t.touched_fixed id now).trans (by rw [List.append_nil])
  created := fun _ member => absurd member List.not_mem_nil
  answer := by
    refine ⟨(congrArg SensorRow.devEui same).trans read,?_⟩
    change answer.fixed ∈ (t.rows.map (touchRow id now)).map (·.fixed)
    rw [t.touched_fixed,same]
    exact held

theorem insert_effect {t : SensorTable} {r : Running} {newId : String} {now : Time}
    {next : SensorTable × Pc × List SensorRow}
    (ran : t.insertOnConflict (r.call.newRow newId now) now = some next) : Effect t r next := by
  unfold SensorTable.insertOnConflict at ran
  dsimp only at ran
  split at ran
  · rename_i hex
    split at ran
    · rename_i other held
      cases Option.some.inj ran
      obtain ⟨member,same⟩ := SensorTable.find_some held
      exact touch_effect _ _ _ same (List.mem_map_of_mem member) (touchRow_fixed _ now (t.hexForm other member))
    · split at ran
      · cases Option.some.inj ran
        refine ⟨rfl,?_,rfl,?_⟩
        · intro row member
          cases List.mem_singleton.mp member
          exact ⟨newId,now,rfl⟩
        · exact List.mem_map_of_mem (List.mem_append_right _ (List.mem_singleton.mpr rfl))
      · cases ran
  · rename_i wrong
    cases Option.some.inj ran
    exact ⟨by rw [List.append_nil],fun _ member => absurd member List.not_mem_nil,Bool.eq_false_iff.mpr wrong⟩

theorem execute_insert (t : SensorTable) (call : Call) (now : Time) (newId : String) :
    execute t ⟨call,.insert⟩ now newId = t.insertOnConflict (call.newRow newId now) now := by
  unfold execute
  rfl

theorem execute_effect {t : SensorTable} {r : Running} {now : Time} {newId : String}
    {next : SensorTable × Pc × List SensorRow} (valid : r.Valid t) (ran : execute t r now newId = some next) :
    Effect t r next := by
  obtain ⟨call,pc⟩ := r
  cases pc with
  | select =>
    unfold execute at ran
    dsimp only at ran
    split at ran
    · rename_i row held
      cases Option.some.inj ran
      obtain ⟨member,same⟩ := SensorTable.find_some held
      refine ⟨by rw [List.append_nil],fun _ member => absurd member List.not_mem_nil,?_,List.mem_map_of_mem member⟩
      rw [←same,upper_hexEui (t.hexForm row member)]
    · cases Option.some.inj ran
      exact ⟨by rw [List.append_nil],fun _ member => absurd member List.not_mem_nil,trivial⟩
  | update row =>
    cases Option.some.inj ran
    exact touch_effect _ _ _ valid.1 valid.2 rfl
  | insert =>
    rw [execute_insert] at ran
    exact insert_effect ran
  | returned row => cases ran
  | raised => cases ran

theorem Running.Valid.later {t later : SensorTable} {r : Running} {created : List SensorRow} (valid : r.Valid t)
    (rows : later.rows.map (·.fixed) = (t.rows ++ created).map (·.fixed)) : r.Valid later := by
  have kept : ∀ row : SensorRow, row.fixed ∈ t.rows.map (·.fixed) → row.fixed ∈ later.rows.map (·.fixed) := by
    intro row member
    rw [rows,List.map_append]
    exact List.mem_append_left _ member
  obtain ⟨call,pc⟩ := r
  cases pc with
  | select | insert => trivial
  | update row | returned row => exact ⟨valid.1,kept row valid.2⟩
  | raised => exact valid

-- The table is the one of the start and the rows inserted since, in this order.
structure Invariant (start : SensorTable) (w : World) : Prop where
  rows : w.table.rows.map (·.fixed) = (start.rows ++ w.inserted).map (·.fixed)
  calls : ∀ r ∈ w.calls, r.Valid w.table
  inserts : ∀ created ∈ w.inserted, ∃ call ∈ w.calls.map (·.call), ∃ newId now,
    created = enforceEuiUpper (call.newRow newId now)

theorem step_invariant {start : SensorTable} {w next : World} {action : Action} (valid : Invariant start w)
    (ran : step w action = some next) : Invariant start next := by
  cases action with
  | call c =>
    cases Option.some.inj ran
    refine ⟨valid.rows,?_,?_⟩
    · intro r member
      rcases List.mem_append.mp member with old | new
      · exact valid.calls r old
      · cases List.mem_singleton.mp new
        trivial
    · intro created member
      obtain ⟨call,sent,made⟩ := valid.inserts created member
      refine ⟨call,?_,made⟩
      rw [List.map_append]
      exact List.mem_append_left _ sent
  | statement i now newId =>
    obtain ⟨r,current,ran⟩ := Option.bind_eq_some_iff.mp ran
    obtain ⟨⟨table,pc,new⟩,executed,ran⟩ := Option.bind_eq_some_iff.mp ran
    cases Option.some.inj ran
    have member := List.mem_of_getElem? current
    have effect := execute_effect (valid.calls r member) executed
    have callsSame : (w.calls.set i ⟨r.call,pc⟩).map (·.call) = w.calls.map (·.call) := by
      obtain ⟨bound,same⟩ := List.getElem?_eq_some_iff.mp current
      calc (w.calls.set i ⟨r.call,pc⟩).map (·.call) = (w.calls.set i r).map (·.call) := by rw [List.map_set,List.map_set]
        _ = w.calls.map (·.call) := by rw [←same,List.set_getElem_self]
    refine ⟨?_,?_,?_⟩
    · change table.rows.map (·.fixed) = (start.rows ++ (w.inserted ++ new)).map (·.fixed)
      rw [←List.append_assoc,List.map_append,←valid.rows,←List.map_append]
      exact effect.rows
    · intro other held
      rcases List.mem_or_eq_of_mem_set held with old | rfl
      · exact (valid.calls other old).later effect.rows
      · exact effect.answer
    · intro created held
      change ∃ call ∈ (w.calls.set i ⟨r.call,pc⟩).map (·.call),_
      rw [callsSame]
      rcases List.mem_append.mp held with old | fresh
      · exact valid.inserts created old
      · exact ⟨r.call,List.mem_map_of_mem member,effect.created created fresh⟩

theorem reached_invariant {start : SensorTable} {w : World} (path : Reached start w) : Invariant start w := by
  apply path.invariant (Invariant start)
  · exact ⟨by rw [World.idle,List.append_nil],fun _ member => absurd member List.not_mem_nil,
      fun _ member => absurd member List.not_mem_nil⟩
  · exact fun valid _ ran => step_invariant valid ran

-- Statements a call still has to send.
def Pc.remaining : Pc → Nat
  | .select => 2
  | .update _ | .insert => 1
  | .returned _ | .raised => 0

-- A statement of a call for a well-formed EUI is always executed, and is one of
-- the two it sends at most.
theorem execute_progress {t : SensorTable} {r : Running} (valid : r.Valid t) (hex : hexEui r.call.devEui = true)
    (open' : ∀ row, r.pc ≠ .returned row) (now : Time) {newId : String} (fresh : newId ∉ t.rows.map (·.id)) :
    ∃ next, execute t r now newId = some next ∧ next.2.1.remaining+1 = r.pc.remaining := by
  obtain ⟨call,pc⟩ := r
  have form : hexEui (upper call.devEui) = true := by
    rw [upper_hexEui hex]
    exact hex
  cases pc with
  | select =>
    unfold execute
    dsimp only
    cases t.find call.devEui with
    | some row => exact ⟨_,rfl,rfl⟩
    | none => exact ⟨_,rfl,rfl⟩
  | update row => exact ⟨_,rfl,rfl⟩
  | insert =>
    unfold execute SensorTable.insertOnConflict
    dsimp only
    split
    · split
      · exact ⟨_,rfl,rfl⟩
      · split
        · exact ⟨_,rfl,rfl⟩
        · rename_i taken
          exact absurd fresh taken
    · rename_i wrong
      exact absurd form wrong
  | returned row => exact absurd rfl (open' row)
  | raised => exact absurd form (Bool.eq_false_iff.mp valid)

-- What the calls for one EUI come to: the one row of the table, which is of the
-- start or of the one INSERT that created it, is the row every answer names.
structure RaceFree (start : SensorTable) (w : World) (eui : String) : Prop where
  row : ∀ held ∈ w.table.rows, held.devEui = eui → w.table.rows.filter (·.devEui == eui) = [held] ∧
    ∃ origin, (start.rows ++ w.inserted).filter (·.devEui == eui) = [origin] ∧ held.id = origin.id ∧
      held.status = origin.status ∧ held.deviceTypeId = origin.deviceTypeId ∧ held.deviceModel = origin.deviceModel
  created : ∀ origin ∈ w.inserted, origin.devEui = eui → ∃ r ∈ w.calls, upper r.call.devEui = eui ∧
    origin.status = "orphan" ∧ origin.deviceTypeId = r.call.deviceTypeId ∧ origin.deviceModel = r.call.model
  answer : ∀ r ∈ w.calls, r.call.devEui = eui → ∀ row, r.pc = .returned row →
    ∃ held ∈ w.table.rows, held.devEui = eui ∧ row.id = held.id
  progress : ∀ i r, w.calls[i]? = some r → r.call.devEui = eui → (∃ row, r.pc = .returned row) ∨
    ∀ now newId, newId ∉ w.table.rows.map (·.id) → ∃ next after, step w (.statement i now newId) = some next ∧
      next.calls[i]? = some after ∧ after.call = r.call ∧ after.pc.remaining+1 = r.pc.remaining

theorem discovery_raceFree (start : SensorTable) (w : World) (path : Reached start w) (eui : String)
    (hex : hexEui eui = true) : RaceFree start w eui := by
  have valid := reached_invariant path
  have keys : ((start.rows ++ w.inserted).map (·.devEui)).Nodup := by
    rw [←SensorTable.column_fixed (·.devEui) (fun _ => rfl) valid.rows]
    exact w.table.uniqueEui
  refine ⟨?_,?_,?_,?_⟩
  · intro held member same
    refine ⟨Lists.filter_key_singleton w.table.uniqueEui member same,?_⟩
    have source : held.fixed ∈ (start.rows ++ w.inserted).map (·.fixed) := by
      rw [←valid.rows]
      exact List.mem_map_of_mem member
    obtain ⟨origin,first,fixed⟩ := List.mem_map.mp source
    have eui' : origin.devEui = eui := (congrArg SensorRow.devEui fixed).trans same
    exact ⟨origin,Lists.filter_key_singleton keys first eui',(congrArg SensorRow.id fixed).symm,(congrArg SensorRow.status fixed).symm,
      (congrArg SensorRow.deviceTypeId fixed).symm,(congrArg SensorRow.deviceModel fixed).symm⟩
  · intro origin member same
    obtain ⟨call,sent,newId,now,rfl⟩ := valid.inserts origin member
    obtain ⟨r,running,rfl⟩ := List.mem_map.mp sent
    exact ⟨r,running,same,rfl,rfl,rfl⟩
  · intro r member called row returned
    have answer := valid.calls r member
    unfold Running.Valid at answer
    rw [returned] at answer
    obtain ⟨held,present,fixed⟩ := List.mem_map.mp answer.2
    refine ⟨held,present,?_,(congrArg SensorRow.id fixed).symm⟩
    have form : hexEui r.call.devEui = true := by rw [called,hex]
    have read := congrArg SensorRow.devEui fixed
    calc held.devEui = row.devEui := read
      _ = upper r.call.devEui := answer.1
      _ = eui := by rw [upper_hexEui form,called]
  · intro i r current called
    by_cases done : ∃ row, r.pc = .returned row
    · exact .inl done
    · refine .inr fun now newId fresh => ?_
      have well := valid.calls r (List.mem_of_getElem? current)
      obtain ⟨⟨table,pc,created⟩,executed,fewer⟩ :=
        execute_progress well (called ▸ hex) (fun row returned => done ⟨row,returned⟩) now fresh
      obtain ⟨bound,_⟩ := List.getElem?_eq_some_iff.mp current
      refine ⟨⟨table,w.calls.set i ⟨r.call,pc⟩,w.inserted ++ created⟩,⟨r.call,pc⟩,?_,?_,rfl,fewer⟩
      · exact Option.bind_eq_some_iff.mpr ⟨r,current,Option.bind_eq_some_iff.mpr ⟨_,executed,rfl⟩⟩
      · exact List.getElem?_set_self bound

-- Two first uplinks of a sensor race: the loser of the race is answered with the
-- winner's row, which keeps the winner's device type.
theorem discovery_raceFree_first : ∃ w, Reached SensorTable.empty w ∧
    (w.calls.map fun r => match r.pc with
      | .returned row => some (row.id,row.deviceTypeId)
      | _ => none) = [some ("a","tabs"),some ("a","tabs")] ∧ RaceFree SensorTable.empty w "58A0CB0000112233" := by
  have idle : Reached SensorTable.empty (World.idle SensorTable.empty) := .refl
  obtain ⟨w,path,answers⟩ := idle.found (fun _ _ => true)
    (fun w => (w.calls.map fun r => match r.pc with
      | .returned row => some (row.id,row.deviceTypeId)
      | _ => none) = [some ("a","tabs"),some ("a","tabs")])
    [.call ⟨"58A0CB0000112233","tabs",none,some "tabs_motion"⟩,.call ⟨"58A0CB0000112233","other",none,none⟩,
     .statement 1 10 "x",.statement 0 11 "x",.statement 0 12 "a",.statement 1 13 "b"]
    (fun _ _ => trivial) (by decide)
  exact ⟨w,path,answers,discovery_raceFree _ w path _ (by decide)⟩

def SensorRow.key (row : SensorRow) : String × String × String × String :=
  (row.id,row.devEui,row.deviceTypeId,row.deviceModel)

def deviceKey (device : SensorDevice) : String × String × String × String :=
  (device.id,device.devEui,device.deviceTypeId,device.deviceModel)

theorem any_find {p : Platform} {t : SensorTable} (agree : p.sensorDevices.map deviceKey = t.rows.map (·.key))
    (eui : String) : p.sensorDevices.any (·.devEui == eui) = (t.find eui).isSome := by
  have columns := congrArg (List.any · fun key => key.2.1 == eui) agree
  rw [List.any_map,List.any_map] at columns
  unfold SensorTable.find
  rw [List.isSome_find?]
  exact columns

theorem platform_known {p : Platform} {eui : String} (known : p.sensorDevices.any (·.devEui == eui) = true)
    (type : DeviceType) (d : Delivery) :
    (p.getOrCreateSensorDevice eui type d).sensorDevices.map deviceKey = p.sensorDevices.map deviceKey := by
  unfold Platform.getOrCreateSensorDevice
  rw [if_pos known]
  dsimp only
  rw [List.map_map]
  refine List.map_congr_left fun device _ => ?_
  unfold Function.comp deviceKey
  dsimp only
  split <;> rfl

theorem platform_new {p : Platform} {eui : String} (absent : p.sensorDevices.any (·.devEui == eui) = false)
    {type : DeviceType} (named : type.typeCode ≠ "") (d : Delivery) :
    (p.getOrCreateSensorDevice eui type d).sensorDevices.map deviceKey =
      p.sensorDevices.map deviceKey ++ [(d.deviceId,eui,type.id,type.typeCode)] := by
  have present : orNone (some type.typeCode) = some type.typeCode := by simp [orNone,named]
  unfold Platform.getOrCreateSensorDevice
  rw [if_neg (Bool.eq_false_iff.mp absent),present,List.map_append]
  rfl

theorem insert_new {t : SensorTable} {call : Call} {id : String} {now : Time}
    {last : SensorTable × Pc × List SensorRow} (ran : t.insertOnConflict (call.newRow id now) now = some last)
    (hex : hexEui call.devEui = true) (absent : t.find call.devEui = none) :
    last.1.rows = t.rows ++ [enforceEuiUpper (call.newRow id now)] := by
  have form : (enforceEuiUpper (call.newRow id now)).devEui = call.devEui := upper_hexEui hex
  unfold SensorTable.insertOnConflict at ran
  dsimp only at ran
  split at ran
  · split at ran
    · rename_i other held
      rw [form,absent] at held
      cases held
    · split at ran
      · cases Option.some.inj ran
        rfl
      · cases ran
  · rename_i wrong
    rw [form] at wrong
    exact absurd hex wrong

-- Its two statements sent back to back, a call does what the endpoint's model
-- takes it to do at once.
theorem alone_platform {p : Platform} {t : SensorTable} {first last : SensorTable × Pc × List SensorRow}
    (agree : p.sensorDevices.map deviceKey = t.rows.map (·.key)) {eui : String} (hex : hexEui eui = true)
    {type : DeviceType} (named : type.typeCode ≠ "") {d : Delivery} {earlier : Time} {call : Call}
    (sent : call = ⟨eui,type.id,some d.webhook.deviceName,some type.typeCode⟩)
    (selected : execute t ⟨call,.select⟩ earlier d.deviceId = some first)
    (finished : execute first.1 ⟨call,first.2.1⟩ d.call.now d.deviceId = some last) :
    (p.getOrCreateSensorDevice eui type d).sensorDevices.map deviceKey = last.1.rows.map (·.key) := by
  subst sent
  have decided := any_find agree eui
  unfold execute at selected
  dsimp only at selected
  cases found : t.find eui with
  | some row =>
    rw [found] at selected decided
    cases Option.some.inj selected
    cases Option.some.inj finished
    have kept : (t.touch row.id d.call.now).rows.map (·.key) = t.rows.map (·.key) :=
      SensorTable.column_fixed (·.key) (fun _ => rfl) (t.touched_fixed row.id d.call.now)
    rw [platform_known decided,kept,agree]
  | none =>
    rw [found] at selected decided
    cases Option.some.inj selected
    dsimp only at finished
    rw [execute_insert] at finished
    have rows := insert_new finished hex found
    have model : orNone (some type.typeCode) = some type.typeCode := by simp [orNone,named]
    rw [platform_new decided named,agree,rows,List.map_append]
    simp [SensorRow.key,enforceEuiUpper,Call.newRow,Call.model,model,upper_hexEui hex]

end SmartParking.Uplink.Discovery
