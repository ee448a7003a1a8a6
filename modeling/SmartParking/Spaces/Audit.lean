import Mathlib.Data.List.Chain
import SmartParking.Lib.Runs
import SmartParking.Spaces.StateManager

namespace SmartParking.Spaces.Audit
open Lib
open Downlink (Time)

-- A field of a request is left out, null or given a value. The validator of
-- `SpaceUpdate` and the triggers of `spaces` both put EUIs in upper case, so
-- that the LOWER of `DatabasePool.update_space` does not last.
structure SpaceUpdate where
  name : Option (Option String) := none
  code : Option (Option String) := none
  building : Option (Option String) := none
  floor : Option (Option String) := none
  zone : Option (Option String) := none
  sensorEui : Option (Option String) := none
  displayEui : Option (Option String) := none
  state : Option (Option SpaceState) := none
  metadata : Option (Option String) := none
  deriving DecidableEq

namespace SpaceUpdate

def given (u : SpaceUpdate) : Bool :=
  u.name.isSome || u.code.isSome || u.building.isSome || u.floor.isSome || u.zone.isSome || u.sensorEui.isSome ||
    u.displayEui.isSome || u.state.isSome || u.metadata.isSome

def dropNull (field : Option (Option α)) : Option (Option α) := field.join.map some

-- What the PATCH handlers keep of a request.
def notNull (u : SpaceUpdate) : SpaceUpdate where
  name := dropNull u.name
  code := dropNull u.code
  building := dropNull u.building
  floor := dropNull u.floor
  zone := dropNull u.zone
  sensorEui := dropNull u.sensorEui
  displayEui := dropNull u.displayEui
  state := dropNull u.state
  metadata := dropNull u.metadata

-- The columns `name`, `code` and `state` are NOT NULL, and the driver takes a
-- JSON document as text only, not as the dictionary that it is here.
def storable (u : SpaceUpdate) : Bool :=
  u.name != some none && u.code != some none && u.state != some none && u.metadata.join.isNone

def apply (u : SpaceUpdate) (space : Space) : Space :=
  {space with
    code := u.code.join.getD space.code
    sensorEui := u.sensorEui.getD space.sensorEui
    displayEui := u.displayEui.getD space.displayEui
    state := u.state.join.getD space.state}

end SpaceUpdate

def written (t : Table) (spaceId : String) (u : SpaceUpdate) : List Space :=
  t.rows.map fun space => if space.id = spaceId then u.apply space else space

-- `UPDATE spaces SET … WHERE id = $1`, refused where a value cannot be stored or
-- a key would break.
def write (t : Table) (spaceId : String) (u : SpaceUpdate) : Option Table :=
  if keys : u.storable = true ∧ ((written t spaceId u).map (·.id)).Nodup ∧
      ((written t spaceId u).filterMap (·.sensorEui)).Nodup then
    some ⟨written t spaceId u,keys.2.1,keys.2.2⟩
  else none

-- A `state_changes` row. Those of `DatabasePool` have no request id.
structure Row where
  spaceId : String
  previousState : SpaceState
  newState : SpaceState
  source : String
  requestId : Option String
  timestamp : Time
  deriving DecidableEq

def Row.ofChange (change : StateChange) : Row :=
  ⟨change.spaceId,change.previousState,change.newState,change.source,some change.requestId,change.timestamp⟩

-- The audit log of all writers is `stateChanges`; that of `store` is only used
-- inside a call of the state manager.
structure Database where
  store : Store
  stateChanges : List Row
  sensorDevices : List String

inductive UpdateError where
  | spaceNotFound (spaceId : String)
  | http (status : Nat) (detail : String)
  | integrity
  deriving DecidableEq

def Database.write (db : Database) (space : Space) (u : SpaceUpdate) : Database × Except UpdateError Space :=
  match Audit.write db.store.spaces space.id u with
  | none => (db,.error .integrity)
  | some spaces => ({db with store := {db.store with spaces := spaces}},.ok (u.apply space))

def StateManager.updateSpaceState (db : Database) (spaceId : String) (new : SpaceState) (source : String)
    (call : Call) : Database × Except TransitionError StateUpdateResult :=
  let updated := {db.store with stateChanges := []}.updateSpaceState spaceId new source call
  ({db with
    store := {updated.1 with stateChanges := []}
    stateChanges := db.stateChanges ++ updated.1.stateChanges.map .ofChange},updated.2)

-- One transaction, that records the state also where it stays the same.
def DatabasePool.updateSpaceState (db : Database) (spaceId : String) (new : SpaceState) (source : String)
    (now : Time) : Database × Except UpdateError (SpaceState × SpaceState) :=
  match db.store.spaces.getSpace spaceId with
  | none => (db,.error (.spaceNotFound spaceId))
  | some space =>
    ({db with
      store := {db.store with spaces := db.store.spaces.setState spaceId new}
      stateChanges := db.stateChanges ++ [⟨spaceId,space.state,new,source,none,now⟩]},.ok (space.state,new))

def DatabasePool.updateSpace (db : Database) (spaceId : String) (updates : SpaceUpdate) :
    Database × Except UpdateError Space :=
  match db.store.spaces.getSpace spaceId with
  | none => (db,.error (.spaceNotFound spaceId))
  | some space => if updates.given then db.write space updates else (db,.ok space)

def tenantSpace (t : Table) (tenantId spaceId : String) : Option Space :=
  t.rows.find? fun space => space.id == spaceId && space.tenantId == some tenantId && !space.deleted

-- The PATCH handler of `spaces_tenanted`.
def SpacesTenanted.updateSpace (db : Database) (tenantId spaceId : String) (spaceUpdate : SpaceUpdate) :
    Database × Except UpdateError Space :=
  match tenantSpace db.store.spaces tenantId spaceId with
  | none => (db,.error (.http 404 "Space not found"))
  | some space =>
    if spaceUpdate.notNull.given then db.write space spaceUpdate.notNull
    else (db,.error (.http 400 "No fields to update"))

def sensorMissing (db : Database) (u : SpaceUpdate) : Option String :=
  u.sensorEui.join.filter fun eui => !db.sensorDevices.contains eui

def displayMissing (db : Database) (u : SpaceUpdate) : Option String :=
  u.displayEui.join.filter fun eui => !db.store.displays.any (·.devEui == eui)

-- The PATCH handler of `spaces`, which looks the devices up first.
def SpacesRouter.updateSpace (db : Database) (spaceId : String) (spaceData : SpaceUpdate) :
    Database × Except UpdateError Space :=
  match db.store.spaces.getSpace spaceId with
  | none => (db,.error (.http 404 ("Space " ++ spaceId ++ " not found")))
  | some space =>
    match sensorMissing db spaceData,displayMissing db spaceData with
    | some eui,_ => (db,.error (.http 400 ("Sensor device " ++ eui ++ " not found in registry")))
    | none,some eui => (db,.error (.http 400 ("Display device " ++ eui ++ " not found in registry")))
    | none,none =>
      if spaceData.notNull.given then db.write space spaceData.notNull
      else (db,.error (.http 400 "No fields to update"))

inductive Action where
  | manager (spaceId : String) (new : SpaceState) (source : String) (call : Call)
  | poolState (spaceId : String) (new : SpaceState) (source : String) (now : Time)
  | pool (spaceId : String) (updates : SpaceUpdate)
  | tenanted (tenantId spaceId : String) (spaceUpdate : SpaceUpdate)
  | router (spaceId : String) (spaceData : SpaceUpdate)

def step (db : Database) : Action → Option Database
  | .manager spaceId new source call => some (StateManager.updateSpaceState db spaceId new source call).1
  | .poolState spaceId new source now => some (DatabasePool.updateSpaceState db spaceId new source now).1
  | .pool spaceId updates => some (DatabasePool.updateSpace db spaceId updates).1
  | .tenanted tenantId spaceId spaceUpdate => some (SpacesTenanted.updateSpace db tenantId spaceId spaceUpdate).1
  | .router spaceId spaceData => some (SpacesRouter.updateSpace db spaceId spaceData).1

def Database.changesOf (db : Database) (spaceId : String) : List Row := db.stateChanges.filter (·.spaceId == spaceId)

def Follows (row next : Row) : Prop := next.previousState = row.newState

-- Where a space has rows, they are a chain that ends in its state.
def Explained (db : Database) : Prop :=
  ∀ spaceId, (db.changesOf spaceId).IsChain Follows ∧
    ∀ last ∈ (db.changesOf spaceId).getLast?, db.store.spaces.stateOf spaceId = some last.newState

-- The row and the values of the UPDATE that an action gets as far as, of those
-- that write no `state_changes` row.
inductive Writes (db : Database) : Action → Space → SpaceUpdate → Prop where
  | pool : db.store.spaces.getSpace spaceId = some space → updates.given = true →
      Writes db (.pool spaceId updates) space updates
  | tenanted : tenantSpace db.store.spaces tenantId spaceId = some space → spaceUpdate.notNull.given = true →
      Writes db (.tenanted tenantId spaceId spaceUpdate) space spaceUpdate.notNull
  | router : db.store.spaces.getSpace spaceId = some space → sensorMissing db spaceData = none →
      displayMissing db spaceData = none → spaceData.notNull.given = true →
      Writes db (.router spaceId spaceData) space spaceData.notNull

-- Unless the database refuses the UPDATE, it gives no state, the state the
-- space has, or it is of a space without rows.
def StateKept (db : Database) (space : Space) (u : SpaceUpdate) : Prop :=
  (write db.store.spaces space.id u).isSome → ∀ new, u.state = some (some new) →
    new = space.state ∨ db.changesOf space.id = []

def Recorded (db : Database) (action : Action) : Prop :=
  ∀ space u, Writes db action space u → StateKept db space u

section Write

variable {t next : Table} {space : Space} {spaceId other : String} {u : SpaceUpdate}

theorem write_rows (wrote : write t spaceId u = some next) : next.rows = written t spaceId u := by
  unfold write at wrote
  split at wrote
  · cases wrote
    rfl
  · cases wrote

theorem write_find (wrote : write t spaceId u = some next) :
    next.rows.find? (·.id == other) =
      (t.rows.find? (·.id == other)).map fun space => if space.id = spaceId then u.apply space else space := by
  rw [write_rows wrote,written,List.find?_map]
  congr 2
  funext space
  show ((if space.id = spaceId then u.apply space else space).id == other) = (space.id == other)
  split <;> rfl

theorem write_stateOf_other (wrote : write t spaceId u = some next) (different : other ≠ spaceId) :
    next.stateOf other = t.stateOf other := by
  unfold Table.stateOf
  rw [write_find wrote]
  cases looked : t.rows.find? (·.id == other) with
  | none => rfl
  | some space =>
    have same : space.id = other := by simpa using List.find?_some looked
    simp [same,different]

theorem write_stateOf (wrote : write t space.id u = some next) (member : space ∈ t.rows) :
    next.stateOf space.id = some (u.apply space).state := by
  have listed : u.apply space ∈ next.rows := by
    rw [write_rows wrote]
    exact List.mem_map.mpr ⟨space,member,by simp⟩
  exact Table.stateOf_row listed

theorem tenantSpace_row (found : tenantSpace t tenantId spaceId = some space) :
    space ∈ t.rows ∧ space.id = spaceId ∧ space.tenantId = some tenantId ∧ space.deleted = false := by
  have selected := List.find?_some found
  simp only [Bool.and_eq_true,beq_iff_eq,Bool.not_eq_true'] at selected
  exact ⟨List.mem_of_find?_eq_some found,selected.1.1,selected.1.2,selected.2⟩

end Write

-- All that an action can do to the two tables.
inductive Stepped (db : Database) (action : Action) (next : Database) : Prop where
  | quiet : next.store.spaces = db.store.spaces → next.stateChanges = db.stateChanges →
      (∀ space u, Writes db action space u → write db.store.spaces space.id u = none) → Stepped db action next
  | recorded (row : Row) : db.store.spaces.stateOf row.spaceId = some row.previousState →
      next.store.spaces = db.store.spaces.setState row.spaceId row.newState →
      next.stateChanges = db.stateChanges ++ [row] → (∀ space u, ¬Writes db action space u) → Stepped db action next
  | written (space : Space) (u : SpaceUpdate) : Writes db action space u → space ∈ db.store.spaces.rows →
      write db.store.spaces space.id u = some next.store.spaces → next.stateChanges = db.stateChanges →
      Stepped db action next

theorem Writes.unique (one : Writes db action space u) (two : Writes db action other v) : space = other ∧ u = v := by
  cases one with
  | pool found | tenanted found | router found =>
    cases two with
    | _ also => exact ⟨Option.some.inj (found.symm.trans also),rfl⟩

theorem manager_writes : ¬Writes db (.manager spaceId new source call) space u := by
  intro writes
  cases writes

theorem poolState_writes : ¬Writes db (.poolState spaceId new source now) space u := by
  intro writes
  cases writes

theorem manager_sound (db : Database) (spaceId : String) (new : SpaceState) (source : String) (call : Call) :
    Stepped db (.manager spaceId new source call) (StateManager.updateSpaceState db spaceId new source call).1 := by
  let store : Store := {db.store with stateChanges := []}
  have spaces := Store.updateSpaceState_spaces store spaceId new source call
  have changes := Store.updateSpaceState_stateChanges store spaceId new source call
  cases acted : store.changes spaceId new source call with
  | false =>
    rw [acted] at spaces changes
    refine .quiet spaces ?_ fun _ _ writes => (manager_writes writes).elim
    show db.stateChanges ++ (store.updateSpaceState spaceId new source call).1.stateChanges.map .ofChange = _
    rw [changes]
    exact List.append_nil _
  | true =>
    obtain ⟨_,space,found,_⟩ := Store.changes_iff.mp acted
    rw [acted] at spaces
    obtain ⟨_,same,_⟩ := Table.getSpace_row found
    refine .recorded ⟨spaceId,space.state,new,source,some call.requestId,call.now⟩ (Table.getSpace_stateOf found)
      spaces ?_ fun _ _ => manager_writes
    show db.stateChanges ++ (store.updateSpaceState spaceId new source call).1.stateChanges.map .ofChange = _
    rw [changes,acted]
    simp [found,same,store,Row.ofChange]

theorem poolState_sound (db : Database) (spaceId : String) (new : SpaceState) (source : String) (now : Time) :
    Stepped db (.poolState spaceId new source now) (DatabasePool.updateSpaceState db spaceId new source now).1 := by
  unfold DatabasePool.updateSpaceState
  cases found : db.store.spaces.getSpace spaceId with
  | none => exact .quiet rfl rfl fun _ _ writes => (poolState_writes writes).elim
  | some space =>
    exact .recorded ⟨spaceId,space.state,new,source,none,now⟩ (Table.getSpace_stateOf found) rfl rfl
      fun _ _ => poolState_writes

theorem write_sound (writes : Writes db action space u) : Stepped db action (db.write space u).1 := by
  have member : space ∈ db.store.spaces.rows := by
    cases writes with
    | pool found | router found => exact (Table.getSpace_row found).1
    | tenanted found => exact (tenantSpace_row found).1
  unfold Database.write
  cases wrote : write db.store.spaces space.id u with
  | none =>
    refine .quiet rfl rfl fun other v also => ?_
    obtain ⟨rfl,rfl⟩ := writes.unique also
    exact wrote
  | some spaces => exact .written space u writes member wrote rfl

theorem Stepped.refused (idle : ∀ space u, ¬Writes db action space u) : Stepped db action db :=
  .quiet rfl rfl fun space u writes => (idle space u writes).elim

theorem pool_sound (db : Database) (spaceId : String) (updates : SpaceUpdate) :
    Stepped db (.pool spaceId updates) (DatabasePool.updateSpace db spaceId updates).1 := by
  unfold DatabasePool.updateSpace
  cases found : db.store.spaces.getSpace spaceId with
  | none =>
    apply Stepped.refused
    intro space u writes
    cases writes with
    | pool also => cases found.symm.trans also
  | some space =>
    by_cases given : updates.given
    · simp only [given,if_true]
      exact write_sound (.pool found given)
    · simp only [given]
      apply Stepped.refused
      intro space u writes
      cases writes with
      | pool _ also => exact given also

theorem tenanted_sound (db : Database) (tenantId spaceId : String) (spaceUpdate : SpaceUpdate) :
    Stepped db (.tenanted tenantId spaceId spaceUpdate)
      (SpacesTenanted.updateSpace db tenantId spaceId spaceUpdate).1 := by
  unfold SpacesTenanted.updateSpace
  cases found : tenantSpace db.store.spaces tenantId spaceId with
  | none =>
    apply Stepped.refused
    intro space u writes
    cases writes with
    | tenanted also => cases found.symm.trans also
  | some space =>
    by_cases given : spaceUpdate.notNull.given
    · simp only [given,if_true]
      exact write_sound (.tenanted found given)
    · simp only [given]
      apply Stepped.refused
      intro space u writes
      cases writes with
      | tenanted _ also => exact given also

theorem router_sound (db : Database) (spaceId : String) (spaceData : SpaceUpdate) :
    Stepped db (.router spaceId spaceData) (SpacesRouter.updateSpace db spaceId spaceData).1 := by
  unfold SpacesRouter.updateSpace
  cases found : db.store.spaces.getSpace spaceId with
  | none =>
    apply Stepped.refused
    intro space u writes
    cases writes with
    | router also => cases found.symm.trans also
  | some space =>
    cases sensor : sensorMissing db spaceData with
    | some eui =>
      apply Stepped.refused
      intro space u writes
      cases writes with
      | router _ also => cases sensor.symm.trans also
    | none =>
      cases display : displayMissing db spaceData with
      | some eui =>
        apply Stepped.refused
        intro space u writes
        cases writes with
        | router _ _ also => cases display.symm.trans also
      | none =>
        by_cases given : spaceData.notNull.given
        · simp only [given,if_true]
          exact write_sound (.router found sensor display given)
        · simp only [given]
          apply Stepped.refused
          intro space u writes
          cases writes with
          | router _ _ _ also => exact given also

theorem step_sound (ran : step db action = some next) : Stepped db action next := by
  cases action with
  | manager spaceId new source call => cases ran; exact manager_sound ..
  | poolState spaceId new source now => cases ran; exact poolState_sound ..
  | pool spaceId updates => cases ran; exact pool_sound ..
  | tenanted tenantId spaceId spaceUpdate => cases ran; exact tenanted_sound ..
  | router spaceId spaceData => cases ran; exact router_sound ..

section Explained

variable {db next : Database} {row : Row} {spaceId : String}

theorem explained_quiet (explained : Explained db) (spaces : next.store.spaces = db.store.spaces)
    (changes : next.stateChanges = db.stateChanges) : Explained next := by
  intro spaceId
  unfold Database.changesOf
  rw [spaces,changes]
  exact explained spaceId

theorem changesOf_append (changes : next.stateChanges = db.stateChanges ++ [row]) :
    next.changesOf spaceId = db.changesOf spaceId ++ if row.spaceId = spaceId then [row] else [] := by
  unfold Database.changesOf
  rw [changes,List.filter_append,List.filter_singleton,cond_eq_ite]
  simp only [beq_iff_eq]

-- A row that starts at the state before the UPDATE extends the chain.
theorem explained_recorded (explained : Explained db)
    (previous : db.store.spaces.stateOf row.spaceId = some row.previousState)
    (spaces : next.store.spaces = db.store.spaces.setState row.spaceId row.newState)
    (changes : next.stateChanges = db.stateChanges ++ [row]) : Explained next := by
  intro spaceId
  rw [changesOf_append changes,spaces]
  obtain ⟨chain,ends⟩ := explained spaceId
  by_cases same : row.spaceId = spaceId
  · subst spaceId
    rw [if_pos rfl]
    constructor
    · refine chain.append (.singleton row) ?_
      intro last member first head
      cases head
      have before := ends last member
      rw [previous] at before
      exact Option.some.inj before
    · intro last member
      rw [List.getLast?_concat] at member
      cases member
      exact Table.setState_stateOf (by rw [previous]; rfl) row.newState
  · rw [if_neg same,List.append_nil]
    refine ⟨chain,fun last member => ?_⟩
    rw [Table.setState_stateOf_other (Ne.symm same)]
    exact ends last member

theorem apply_state (u : SpaceUpdate) (space : Space) :
    (u.apply space).state = space.state ↔ ∀ new, u.state = some (some new) → new = space.state := by
  cases given : u.state.join with
  | none =>
    have absent : ∀ new, u.state ≠ some (some new) := by
      intro new present
      rw [present] at given
      cases given
    simp [SpaceUpdate.apply,given,absent]
  | some state =>
    rw [Option.join_eq_some_iff] at given
    simp [SpaceUpdate.apply,given]

-- Without a row, the log still ends in the state it ended in before.
theorem explained_written (explained : Explained db) (member : space ∈ db.store.spaces.rows)
    (wrote : write db.store.spaces space.id u = some next.store.spaces)
    (changes : next.stateChanges = db.stateChanges) : Explained next ↔ StateKept db space u := by
  have before := Table.stateOf_row member
  have after := write_stateOf wrote member
  have rows : ∀ spaceId, next.changesOf spaceId = db.changesOf spaceId := by
    intro spaceId
    unfold Database.changesOf
    rw [changes]
  constructor
  · intro still _ new given
    by_contra neither
    obtain ⟨moved,nonempty⟩ := not_or.mp neither
    obtain ⟨last,ending⟩ := Option.isSome_iff_exists.mp (List.getLast?_isSome.mpr nonempty)
    have old := (explained space.id).2 last ending
    have now := (still space.id).2 last (by rw [rows]; exact ending)
    rw [before] at old
    rw [after] at now
    exact moved ((apply_state u space).mp (Option.some.inj (now.trans old.symm)) new given)
  · intro kept spaceId
    obtain ⟨chain,ends⟩ := explained spaceId
    rw [rows]
    refine ⟨chain,fun last ending => ?_⟩
    by_cases same : spaceId = space.id
    · subst spaceId
      have stays : (u.apply space).state = space.state := by
        refine (apply_state u space).mpr fun new given => ?_
        refine (kept (by rw [wrote]; rfl) new given).resolve_right fun empty => ?_
        rw [empty] at ending
        cases ending
      rw [after,stays,← before]
      exact ends last ending
    · rw [write_stateOf_other wrote same]
      exact ends last ending

end Explained

theorem explained_iff (explained : Explained db) (ran : step db action = some next) :
    Explained next ↔ Recorded db action := by
  cases step_sound ran with
  | quiet spaces changes refused =>
    refine iff_of_true (explained_quiet explained spaces changes) ?_
    intro space u writes accepted
    rw [refused space u writes] at accepted
    cases accepted
  | recorded row previous spaces changes idle =>
    refine iff_of_true (explained_recorded explained previous spaces changes) ?_
    intro space u writes
    exact (idle space u writes).elim
  | written space u writes member wrote changes =>
    rw [explained_written explained member wrote changes]
    constructor
    · intro kept other v also
      obtain ⟨rfl,rfl⟩ := writes.unique also
      exact kept
    · intro recorded
      exact recorded space u writes

-- The log goes on explaining the state exactly as long as the writers that
-- insert no row leave the state of the spaces that have rows alone.
theorem audit_explains (explained : Explained start) (actions : List Action) :
    Runs.Along step (fun _ _ next => Explained next) start actions ↔
      Runs.Along step (fun db action _ => Recorded db action) start actions := by
  refine Runs.along_iff Explained actions explained ?_ ?_
  · intro db action next known ran
    exact explained_iff known ran
  · intro db action next known recorded ran
    exact (explained_iff known ran).mpr recorded

def oneSpace : Table where
  rows := [{id := "A1",code := "A-1",sensorEui := none,displayEui := none,state := .free,tenantId := some "T1"}]
  primaryKey := by decide
  sensorEui := by decide

def unlogged : Database := ⟨⟨oneSpace,[],[],[],fun _ => none,.empty⟩,[],[]⟩

theorem unlogged_explained : Explained unlogged := by
  intro spaceId
  exact ⟨.nil,nofun⟩

def occupied : Action := .manager "A1" .occupied "sensor_uplink" ⟨"req-1",7,"",false⟩

-- Two audited changes with a PATCH of the code between them.
theorem audit_explains_renamed : Explained unlogged ∧
    (Runs.Along step (fun _ _ next => Explained next) unlogged
        [occupied,.tenanted "T1" "A1" {code := some (some "A-2")},.poolState "A1" .free "system" 8] ↔
      Runs.Along step (fun db action _ => Recorded db action) unlogged
        [occupied,.tenanted "T1" "A1" {code := some (some "A-2")},.poolState "A1" .free "system" 8]) :=
  ⟨unlogged_explained,audit_explains unlogged_explained _⟩

-- A PATCH takes the occupied space into maintenance: the log ends in OCCUPIED.
theorem audit_ends_before_patch : ¬∀ (start : Database) (actions : List Action), Explained start →
    Runs.Along step (fun _ _ next => Explained next) start actions := by
  intro always
  have along := always unlogged [occupied,.router "A1" {state := some (some .maintenance)}] unlogged_explained
  obtain ⟨_,rest⟩ := along _ rfl
  obtain ⟨explained,_⟩ := rest _ rfl
  have ends := (explained "A1").2 ⟨"A1",.free,.occupied,"sensor_uplink",some "req-1",7⟩ (by decide +kernel)
  revert ends
  decide +kernel

end SmartParking.Spaces.Audit
