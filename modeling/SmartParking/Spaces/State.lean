import Mathlib.Data.List.Nodup

namespace SmartParking.Spaces

inductive SpaceState where
  | free | occupied | reserved | maintenance
  deriving DecidableEq

def SpaceState.value : SpaceState → String
  | .free => "FREE"
  | .occupied => "OCCUPIED"
  | .reserved => "RESERVED"
  | .maintenance => "MAINTENANCE"

def validTransitions : SpaceState → List SpaceState
  | .free => [.occupied,.reserved,.maintenance]
  | .occupied => [.free,.maintenance]
  | .reserved => [.occupied,.free,.maintenance]
  | .maintenance => [.free]

-- Manual overrides can transition to any state.
def isValidTransition (current new : SpaceState) (source : String) : Bool :=
  source == "manual" || (validTransitions current).contains new

-- Only maintenance holds a space against what its sensor says.
theorem sensor_transition (current new : SpaceState) (detected : new = .free ∨ new = .occupied) :
    isValidTransition current new "sensor_uplink" = false ↔ current = new ∨ current = .maintenance ∧ new = .occupied := by
  rcases detected with rfl | rfl <;> cases current <;> decide

-- The columns of a `spaces` row that are read here.
structure Space where
  id : String
  code : String
  sensorEui : Option String
  displayEui : Option String
  state : SpaceState
  tenantId : Option String
  deleted : Bool := false
  deriving DecidableEq

-- The table with its primary key and `unique_sensor_eui`, which lets NULLs repeat.
structure Table where
  rows : List Space
  primaryKey : (rows.map (·.id)).Nodup
  sensorEui : (rows.filterMap (·.sensorEui)).Nodup

namespace Table

def getSpace (t : Table) (spaceId : String) : Option Space :=
  t.rows.find? fun space => space.id == spaceId && !space.deleted

def getSpaceBySensor (t : Table) (eui : String) : Option Space :=
  t.rows.find? fun space => space.sensorEui == some eui && !space.deleted

def tenantOf (t : Table) (spaceId : String) : Option String :=
  (t.rows.find? (·.id == spaceId)).bind (·.tenantId)

def stateOf (t : Table) (spaceId : String) : Option SpaceState :=
  (t.rows.find? (·.id == spaceId)).map (·.state)

def states (t : Table) : List (String × SpaceState) := t.rows.map fun space => (space.id,space.state)

-- `UPDATE spaces SET state = $1 WHERE id = $2`. Neither key is touched.
def setState (t : Table) (spaceId : String) (new : SpaceState) : Table where
  rows := t.rows.map fun space => if space.id = spaceId then {space with state := new} else space
  primaryKey := by
    rw [List.map_map,List.map_congr_left (g := (·.id))]
    · exact t.primaryKey
    · intro space _
      show (if space.id = spaceId then {space with state := new} else space).id = space.id
      split <;> rfl
  sensorEui := by
    rw [List.filterMap_map,List.filterMap_congr (g := (·.sensorEui))]
    · exact t.sensorEui
    · intro space _
      show (if space.id = spaceId then {space with state := new} else space).sensorEui = space.sensorEui
      split <;> rfl

variable {t : Table} {space : Space} {eui spaceId : String}

theorem getSpaceBySensor_row (found : t.getSpaceBySensor eui = some space) :
    space ∈ t.rows ∧ space.sensorEui = some eui ∧ space.deleted = false := by
  have selected := List.find?_some found
  exact ⟨List.mem_of_find?_eq_some found,by simpa using selected⟩

theorem getSpace_of_sensor (found : t.getSpaceBySensor eui = some space) : t.getSpace space.id = some space := by
  obtain ⟨member,_,live⟩ := getSpaceBySensor_row found
  cases looked : t.getSpace space.id with
  | none =>
    have missed := List.find?_eq_none.mp looked space member
    simp [live] at missed
  | some other =>
    have selected := List.find?_some looked
    have same : other.id = space.id := by
      simp only [Bool.and_eq_true,beq_iff_eq] at selected
      exact selected.1
    rw [List.inj_on_of_nodup_map t.primaryKey (List.mem_of_find?_eq_some looked) member same]

theorem getSpace_row (found : t.getSpace spaceId = some space) :
    space ∈ t.rows ∧ space.id = spaceId ∧ space.deleted = false := by
  have selected := List.find?_some found
  exact ⟨List.mem_of_find?_eq_some found,by simpa using selected⟩

theorem stateOf_row (member : space ∈ t.rows) : t.stateOf space.id = some space.state := by
  unfold stateOf
  cases looked : t.rows.find? (·.id == space.id) with
  | none =>
    have missed := List.find?_eq_none.mp looked space member
    simp at missed
  | some other =>
    have same : other.id = space.id := by simpa using List.find?_some looked
    rw [List.inj_on_of_nodup_map t.primaryKey (List.mem_of_find?_eq_some looked) member same]
    rfl

theorem getSpace_stateOf (found : t.getSpace spaceId = some space) : t.stateOf spaceId = some space.state := by
  obtain ⟨member,rfl,_⟩ := getSpace_row found
  exact stateOf_row member

theorem find_setState (new : SpaceState) (select : Space → Bool)
    (stable : ∀ space : Space, select {space with state := new} = select space) :
    (t.setState spaceId new).rows.find? select =
      (t.rows.find? select).map fun space => if space.id = spaceId then {space with state := new} else space := by
  show (t.rows.map _).find? select = _
  rw [List.find?_map]
  congr 2
  funext space
  show select (if space.id = spaceId then {space with state := new} else space) = select space
  split
  · exact stable space
  · rfl

theorem setState_stateOf (known : (t.stateOf spaceId).isSome) (new : SpaceState) :
    (t.setState spaceId new).stateOf spaceId = some new := by
  unfold stateOf at known ⊢
  rw [find_setState new (·.id == spaceId) fun _ => rfl]
  cases looked : t.rows.find? (·.id == spaceId) with
  | none => simp [looked] at known
  | some space =>
    have same : space.id = spaceId := by simpa using List.find?_some looked
    simp [same]

theorem setState_stateOf_other (different : other ≠ spaceId) (new : SpaceState) :
    (t.setState spaceId new).stateOf other = t.stateOf other := by
  unfold stateOf
  rw [find_setState new (·.id == other) fun _ => rfl]
  cases looked : t.rows.find? (·.id == other) with
  | none => rfl
  | some space =>
    have same : space.id = other := by simpa using List.find?_some looked
    simp [same,different]

theorem setState_getSpace_isSome (new : SpaceState) :
    ((t.setState spaceId new).getSpace other).isSome = (t.getSpace other).isSome := by
  unfold getSpace
  rw [find_setState new (fun space => space.id == other && !space.deleted) fun _ => rfl,Option.isSome_map]

theorem setState_getSpace_other (different : other ≠ spaceId) (new : SpaceState) :
    (t.setState spaceId new).getSpace other = t.getSpace other := by
  unfold getSpace
  rw [find_setState new (fun space => space.id == other && !space.deleted) fun _ => rfl]
  cases looked : t.rows.find? fun space => space.id == other && !space.deleted with
  | none => rfl
  | some space =>
    have selected := List.find?_some looked
    simp only [Bool.and_eq_true,beq_iff_eq] at selected
    simp [selected.1,different]

end Table

end SmartParking.Spaces
