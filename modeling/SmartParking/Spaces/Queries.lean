import SmartParking.Lib.Sql
import SmartParking.Spaces.ListCache

namespace SmartParking.Spaces.Queries
open Lib.Sql
open Auth.ApiKeys (TenantContext)
open Audit (SpaceUpdate)
open Catalog (Tables Database SpaceRow SiteRow SiteUpdate Instant Document Assignment Failure)
open ListCache (Filters isPlatformAdmin before listed Listing)

-- What the handlers bind to a placeholder. The driver takes a JSON column as text
-- only, and turns a dictionary down.
inductive Value where
  | text (value : String)
  | flag (value : Bool)
  | time (value : Instant)
  | dict (document : String)
  deriving DecidableEq

def text (value : Option String) : Option (Option Value) := value.map fun value => some (.text value)

section Columns

def spaceTable : List (String × (SpaceRow → Option Value)) :=
  [("id",fun space => some (.text space.id)),("name",fun space => some (.text space.name)),
    ("code",fun space => some (.text space.code)),("building",fun space => space.building.map .text),
    ("floor",fun space => space.floor.map .text),("zone",fun space => space.zone.map .text),
    ("state",fun space => some (.text space.state.value)),("site_id",fun space => space.siteId.map .text),
    ("tenant_id",fun space => space.tenantId.map .text),("deleted_at",fun space => space.deletedAt.map .time)]

-- The columns of `FROM spaces s`.
def aliasTable : List (String × (SpaceRow → Option Value)) :=
  spaceTable.map fun column => ("s." ++ column.1,column.2)

def siteTable : List (String × (SiteRow → Option Value)) :=
  [("id",fun site => some (.text site.id)),("tenant_id",fun site => some (.text site.tenantId))]

def textual {δ : Type} (change : String → δ) : Option Value → Option δ
  | some (.text value) => some (change value)
  | _ => none

def nullable {δ : Type} (change : Option String → δ) : Option Value → Option δ
  | some (.text value) => some (change (some value))
  | none => some (change none)
  | _ => none

def boolean {δ : Type} (change : Bool → δ) : Option Value → Option δ
  | some (.flag value) => some (change value)
  | _ => none

def readState (value : String) : Option SpaceState :=
  [SpaceState.free,.occupied,.reserved,.maintenance].find? (·.value == value)

-- What an assignment to a column does to the modelled ones: the device ids are
-- not among them.
def spaceChanges : List (String × (Option Value → Option (List Assignment))) :=
  [("name",textual fun value => [.name value]),("code",textual fun value => [.code value]),
    ("building",nullable fun value => [.building value]),("floor",nullable fun value => [.floor value]),
    ("zone",nullable fun value => [.zone value]),("sensor_eui",nullable fun value => [.sensorEui value]),
    ("display_eui",nullable fun value => [.displayEui value]),
    ("state",fun value => (value.bind fun | .text value => readState value | _ => none).map fun state => [.state state]),
    ("metadata",nullable fun value => [.metadata value]),("sensor_device_id",textual fun _ => []),
    ("display_device_id",textual fun _ => []),("updated_at",fun _ => none)]

def siteChanges : List (String × (Option Value → Option (SiteRow → SiteRow))) :=
  [("name",textual fun value site => {site with name := value}),
    ("timezone",textual fun value site => {site with timezone := value}),
    ("location",nullable fun value site => {site with location := value}),
    ("metadata",nullable fun value site => {site with metadata := value}),
    ("is_active",boolean fun value site => {site with isActive := value})]

end Columns

section Lists

def listFields (tenant : TenantContext) (f : Filters) : List (String × Option (Option Value)) :=
  [("s.tenant_id",text (if isPlatformAdmin tenant then none else some tenant.tenantId)),("s.building",text f.building),
    ("s.floor",text f.floor),("s.zone",text f.zone),("s.state",text (f.state.map (·.value))),("s.site_id",text f.siteId)]

-- The filters of the untenanted router.
def bareFields (f : Filters) : List (String × Option (Option Value)) :=
  [("s.building",text f.building),("s.floor",text f.floor),("s.zone",text f.zone),("s.state",text (f.state.map (·.value)))]

def live (f : Filters) : List String := if f.includeDeleted then [] else ["s.deleted_at IS NULL"]

def clause (d : Draft Value) (f : Filters) : String := whereClause (d.conditions ++ live f)

def fetch (t : Tables) (d : Draft Value) (f : Filters) : Except Fault (List SpaceRow) :=
  (select (aliasTable.lookup ·) d.params (readWhere (words (clause d f)))).map fun chosen => t.spaces.filter chosen

def listClause (tenant : TenantContext) (f : Filters) : String := clause (({} : Draft Value).addAll (listFields tenant f)) f

def listSpaces (t : Tables) (tenant : TenantContext) (f : Filters) : Except Fault Listing :=
  (fetch t (({} : Draft Value).addAll (listFields tenant f)) f).map fun rows =>
    ⟨(rows.insertionSort before).map (listed t.sites),(rows.insertionSort before).length⟩

-- `ORDER BY s.name`
def byName (a b : SpaceRow) : Prop := a.name ≤ b.name

instance : DecidableRel byName := fun a b => inferInstanceAs (Decidable (a.name ≤ b.name))

def listAllSpaces (t : Tables) (f : Filters) : Except Fault (List SpaceRow) :=
  (fetch t (({} : Draft Value).addAll (bareFields f)) f).map fun rows => rows.insertionSort byName

-- Which filters a request gives.
def shape (f : Filters) : List Bool :=
  [f.building.isSome,f.floor.isSome,f.zone.isSome,f.state.isSome,f.siteId.isSome,f.includeDeleted]

end Lists

section Updates

def failure : Fault → Failure
  | .encoding => .encoding
  | _ => .raised "the statement cannot be prepared"

def runSpaces (db : Database) (statement : String) (params : List (Option Value)) (now : Instant) :
    Except Failure Database :=
  match update (spaceTable.lookup ·) (spaceChanges.lookup ·) params (readUpdate (words statement)) with
  | .ok (changes,chosen) => db.updateSpaces chosen changes.flatten now
  | .error fault => .error (failure fault)

def runSites (db : Database) (statement : String) (params : List (Option Value)) : Except Failure Database :=
  match update (siteTable.lookup ·) (siteChanges.lookup ·) params (readUpdate (words statement)) with
  | .ok (changes,chosen) => Catalog.Sites.updateWhere db chosen fun site => changes.foldl (fun site change => change site) site
  | .error fault => .error (failure fault)

-- The fields of `space_update.dict(exclude_unset=True)`, without its nulls.
def updateFields (u : SpaceUpdate) : List (String × Option (Option Value)) :=
  [("name",text u.name.join),("code",text u.code.join),("building",text u.building.join),("floor",text u.floor.join),
    ("zone",text u.zone.join),("sensor_eui",text u.sensorEui.join),("display_eui",text u.displayEui.join),
    ("state",text (u.state.join.map (·.value))),("metadata",u.metadata.join.map fun value => some (.dict value))]

def updateSpace (db : Database) (tenant : TenantContext) (spaceId : String) (u : SpaceUpdate) (now : Instant) :
    Except Failure Database :=
  match db.space (Catalog.SpacesTenanted.mineLive tenant spaceId) with
  | none => .error (.http 404 "Space not found")
  | some _ =>
    let d := ({} : Draft Value).addAll (updateFields u)
    if d.conditions = [] then .error (.http 400 "No fields to update")
    else runSpaces db ("SET " ++ ", ".intercalate d.conditions ++ ", updated_at = NOW()\n            WHERE id = " ++
      placeholder d.paramCount ++ " AND tenant_id = " ++ placeholder (d.paramCount+1))
      (d.params ++ [some (.text spaceId),some (.text tenant.tenantId)]) now

-- The untenanted router names the fields in an order of its own, and the devices
-- by their ids as well.
def routerFields (sensorId displayId : String → String) (u : SpaceUpdate) : List (String × Option (Option Value)) :=
  [("name",text u.name.join),("code",text u.code.join),("building",text u.building.join),("floor",text u.floor.join),
    ("zone",text u.zone.join),("state",text (u.state.join.map (·.value))),
    ("metadata",u.metadata.join.map fun value => some (.dict value)),
    ("sensor_device_id",text (u.sensorEui.join.map sensorId)),("sensor_eui",text u.sensorEui.join),
    ("display_device_id",text (u.displayEui.join.map displayId)),("display_eui",text u.displayEui.join)]

def updateAnySpace (sensorId displayId : String → String) (db : Database) (spaceId : String) (u : SpaceUpdate)
    (now : Instant) : Except Failure Database :=
  match db.space (Catalog.SpacesRouter.liveById spaceId) with
  | none => .error (.http 404 ("Space " ++ spaceId ++ " not found"))
  | some _ =>
    let d := (⟨["updated_at = NOW()"],[],1⟩ : Draft Value).addAll (routerFields sensorId displayId u)
    Catalog.SpacesRouter.registered db u.sensorEui.join u.displayEui.join
      (if d.conditions = ["updated_at = NOW()"] then .error (.http 400 "No fields to update")
      else runSpaces db ("SET " ++ ", ".intercalate d.conditions ++ "\n            WHERE id = " ++ placeholder d.paramCount)
        (d.params ++ [some (.text spaceId)]) now)

def siteFields (updates : SiteUpdate) : List (String × Option (Option Value)) :=
  [("name",text updates.name),("timezone",text updates.timezone),
    ("location",updates.location.map fun value => value.map .text),
    ("metadata",updates.metadata.map fun value => value.map .text),
    ("is_active",updates.isActive.map fun value => some (.flag value))]

def updateSite (db : Database) (tenant : TenantContext) (siteId : String) (updates : SiteUpdate) :
    Except Failure Database :=
  match Catalog.Sites.owned db tenant siteId with
  | none => .error (.http 404 ("Site " ++ siteId ++ " not found"))
  | some _ =>
    match updates.name.filter fun name => db.tables.sites.any fun other =>
        other.tenantId == tenant.tenantId && other.name == name && other.id != siteId with
    | some name => .error (.http 409 ("Site with name '" ++ name ++ "' already exists"))
    | none =>
      let d := (⟨[],[some (.text siteId),some (.text tenant.tenantId)],3⟩ : Draft Value).addAll (siteFields updates)
      if d.conditions = [] then .error (.http 400 "No fields to update")
      else runSites db ("SET " ++ ", ".intercalate d.conditions ++ "\n            WHERE id = $1 AND tenant_id = $2") d.params

end Updates

section Selecting

theorem alias_columns : ∀ column ∈ ["s.tenant_id","s.building","s.floor","s.zone","s.state","s.site_id","s.deleted_at"],
    Plain column ∧ (aliasTable.lookup column).isSome = true := by decide

theorem site_columns : ∀ column ∈ ["name","timezone","location","metadata","is_active"],
    Plain column ∧ (siteChanges.lookup column).isSome = true := by decide

def matching (space : SpaceRow) (field : String × Option Value) : Bool :=
  (aliasTable.lookup field.1).any fun read => field.2.any fun value => read space == some value

theorem given_all {γ : Type} (fields : List (String × Option γ)) (holds : String × γ → Bool) :
    (given fields).all holds = fields.all fun field => field.2.all fun value => holds (field.1,value) := by
  induction fields with
  | nil => rfl
  | cons field rest ih =>
    obtain ⟨column,value⟩ := field
    cases value with
    | none => simpa [given] using ih
    | some value => simpa [given] using congrArg (holds (column,value) && ·) ih

theorem matching_text (column : String) (read : SpaceRow → Option String)
    (found : aliasTable.lookup column = some fun space => (read space).map .text) (value : Option String) (space : SpaceRow) :
    ((text value).all fun value => matching space (column,value)) = value.all (read space == some ·) := by
  cases value with
  | none => rfl
  | some value =>
    simp only [text,Option.map_some,Option.all_some,matching,found,Option.any_some]
    cases held : read space with
    | none => rfl
    | some other => simp [Bool.beq_eq_decide_eq]

theorem matching_state (state : Option SpaceState) (space : SpaceRow) :
    ((text (state.map (·.value))).all fun value => matching space ("s.state",value)) = state.all (space.state == ·) := by
  have same := matching_text "s.state" (fun space => some space.state.value) rfl (state.map (·.value)) space
  rw [same]
  cases state with
  | none => rfl
  | some state => cases state <;> cases space.state <;> decide

theorem matching_live (params : List (Option Value)) (space : SpaceRow) :
    selected (aliasTable.lookup ·) params [.isNull "s.deleted_at"] space = space.deletedAt.isNone := by
  have found : aliasTable.lookup "s.deleted_at" = some fun space => space.deletedAt.map .time := rfl
  simp only [selected,List.all_cons,List.all_nil,Test.holds,found,Option.any_some,Bool.and_true]
  cases space.deletedAt <;> rfl

def extra (f : Filters) : List Test := if f.includeDeleted then [] else [.isNull "s.deleted_at"]

theorem extra_selected (f : Filters) (params : List (Option Value)) (space : SpaceRow) :
    selected (aliasTable.lookup ·) params (extra f) space = (f.includeDeleted || space.deletedAt.isNone) := by
  cases kept : f.includeDeleted with
  | true => simp [extra,kept,selected]
  | false => simpa [extra,kept] using matching_live params space

theorem fetch_fields (t : Tables) (f : Filters) {fields : List (String × Option (Option Value))}
    (columns : ∀ column ∈ fields.map Prod.fst, Plain column ∧ (aliasTable.lookup column).isSome = true) :
    fetch t (({} : Draft Value).addAll fields) f = .ok (t.spaces.filter fun space =>
      (fields.all fun field => field.2.all fun value => matching space (field.1,value)) &&
        (f.includeDeleted || space.deletedAt.isNone)) := by
  have texts : live f = (extra f).map Test.text := by
    unfold live extra
    split <;> rfl
  have others : ∀ t ∈ extra f, Plain t.column ∧ (aliasTable.lookup t.column).isSome = true ∧ t.slot? = none := by
    intro t member
    have only : t = .isNull "s.deleted_at" := by
      unfold extra at member
      split at member
      · cases member
      · exact List.mem_singleton.mp member
    subst only
    exact ⟨(alias_columns "s.deleted_at" (by decide)).1,rfl,rfl⟩
  have ran := select_draft (β := Value) (aliasTable.lookup ·) columns others
  rw [fetch,clause,texts,ran]
  refine congrArg (fun chosen => Except.ok (t.spaces.filter chosen)) (funext fun space => ?_)
  rw [extra_selected,←given_all fields (matching space)]
  rfl

end Selecting

-- The lists of both routers are those the filters describe, whichever of them a
-- request gives, and a value never becomes part of a statement.
theorem lists_sent (t : Tables) (tenant : TenantContext) (f : Filters) :
    listSpaces t tenant f = .ok (ListCache.select t (isPlatformAdmin tenant) ⟨tenant.tenantId,f⟩) ∧
    listAllSpaces t f = .ok ((t.spaces.filter fun space => {f with siteId := none}.admits space).insertionSort byName) ∧
    ∀ (other : TenantContext) (g : Filters), isPlatformAdmin other = isPlatformAdmin tenant → shape g = shape f →
      listClause other g = listClause tenant f := by
  refine ⟨?_,?_,?_⟩
  · rw [listSpaces,fetch_fields t f fun column member => alias_columns column (by
      have named : column ∈ ["s.tenant_id","s.building","s.floor","s.zone","s.state","s.site_id"] := member
      simp only [List.mem_cons] at named ⊢
      tauto)]
    refine congrArg (fun rows => Except.ok (Listing.mk ((rows.insertionSort before).map (listed t.sites))
      (rows.insertionSort before).length)) (List.filter_congr fun space _ => ?_)
    have tenanted : ((text (if isPlatformAdmin tenant then none else some tenant.tenantId)).all fun value =>
        matching space ("s.tenant_id",value)) = (isPlatformAdmin tenant || space.tenantId == some tenant.tenantId) := by
      rw [matching_text "s.tenant_id" (·.tenantId) rfl]
      cases isPlatformAdmin tenant <;> rfl
    simp only [listFields,List.all_cons,List.all_nil,tenanted,matching_state,matching_text "s.building" (·.building) rfl,
      matching_text "s.floor" (·.floor) rfl,matching_text "s.zone" (·.zone) rfl,
      matching_text "s.site_id" (·.siteId) rfl,Filters.admits,Bool.and_true,Bool.and_assoc]
  · rw [listAllSpaces,fetch_fields t f fun column member => alias_columns column (by
      have named : column ∈ ["s.building","s.floor","s.zone","s.state"] := member
      simp only [List.mem_cons] at named ⊢
      tauto)]
    refine congrArg (fun rows => Except.ok (rows.insertionSort byName)) (List.filter_congr fun space _ => ?_)
    simp only [bareFields,List.all_cons,List.all_nil,matching_state,matching_text "s.building" (·.building) rfl,
      matching_text "s.floor" (·.floor) rfl,matching_text "s.zone" (·.zone) rfl,
      Filters.admits,Bool.and_true,Bool.and_assoc,Option.all_none]
  · intro other g admin same
    have given : ∀ value : Option String, (text value).isSome = value.isSome := fun value => by cases value <;> rfl
    have deleted : g.includeDeleted = f.includeDeleted := by simp_all [shape]
    have fields : (listFields other g).map (fun field => (field.1,field.2.isSome)) =
        (listFields tenant f).map fun field => (field.1,field.2.isSome) := by
      simp only [shape,List.cons.injEq,and_true] at same
      obtain ⟨building,floor,zone,state,siteId,-⟩ := same
      simp only [listFields,List.map_cons,List.map_nil,given,Option.isSome_map,admin,building,floor,zone,state,siteId]
      cases isPlatformAdmin tenant <;> rfl
    rw [listClause,listClause,clause,clause,Draft.addAll_conditions ⟨rfl,rfl⟩ fields,live,live,deleted]

section Texts

def gaps : String := "            "

theorem tenanted_text {conditions : List String} (some : conditions ≠ []) (n : Nat) :
    "SET " ++ ", ".intercalate conditions ++ ", updated_at = NOW()\n            WHERE id = " ++ placeholder n ++
      " AND tenant_id = " ++ placeholder (n+1) =
    updateText (conditions ++ [Change.now "updated_at"].map Change.text) gaps
      (whereClause ([Placed.mk "id" n,⟨"tenant_id",n+1⟩].map Placed.text)) := by
  rw [updateText,List.map_singleton,String.intercalate_append_of_ne_nil some (List.cons_ne_nil _ _)]
  apply String.toList_inj.mp
  simp [whereClause,Change.text,Placed.text,gaps]

theorem router_text (conditions : List String) (n : Nat) :
    "SET " ++ ", ".intercalate conditions ++ "\n            WHERE id = " ++ placeholder n =
    updateText conditions gaps (whereClause ([Placed.mk "id" n].map Placed.text)) := by
  apply String.toList_inj.mp
  simp [updateText,whereClause,Placed.text,gaps]

theorem site_text (conditions : List String) :
    "SET " ++ ", ".intercalate conditions ++ "\n            WHERE id = $1 AND tenant_id = $2" =
    updateText conditions gaps (whereClause ([Placed.mk "id" 1,⟨"tenant_id",2⟩].map Placed.text)) := by
  have one : placeholder 1 = "$1" := by decide
  have two : placeholder 2 = "$2" := by decide
  apply String.toList_inj.mp
  simp [updateText,whereClause,Placed.text,gaps,one,two]

end Texts

section Encoding

variable {δ : Type} {columns : String → Option (Option Value → Option δ)}

theorem given_nil {γ : Type} {fields : List (String × Option γ)} : given fields = [] ↔ ∀ field ∈ fields, field.2 = none := by
  rw [given,List.filterMap_eq_nil_iff]
  exact forall₂_congr fun field _ => Option.map_eq_none_iff

theorem encode_given {α : Type} {column : String} (value : Option α) (argument : α → Option Value) (change : α → δ)
    (found : ∀ v, (columns column).bind (· (argument v)) = some (change v)) (rest : List (String × Option (Option Value))) :
    encodeFields columns (given ((column,value.map argument)::rest)) =
      (encodeFields columns (given rest)).map ((value.map change).toList ++ ·) := by
  cases value with
  | none => cases ran : encodeFields columns (given rest) <;> simpa [given,Except.map] using ran
  | some value =>
    simp only [given,Option.map_some,List.filterMap_cons,encodeFields,found value]
    rfl

theorem encode_text {column : String} (value : Option String) (change : String → δ)
    (found : ∀ v, (columns column).bind (· (some (.text v))) = some (change v))
    (rest : List (String × Option (Option Value))) :
    encodeFields columns (given ((column,text value)::rest)) =
      (encodeFields columns (given rest)).map ((value.map change).toList ++ ·) := encode_given value _ change found rest

-- A dictionary stops the statement wherever it stands.
def stopped (metadata : Option String) (changes : List δ) : Except Fault (List δ) :=
  if metadata.isSome then .error .encoding else .ok changes

theorem stopped_map {metadata : Option String} {changes : List δ} (update : List δ → List δ) :
    (stopped metadata changes).map update = stopped metadata (update changes) := by
  unfold stopped
  split <;> rfl

theorem encode_state {column : String} {change : SpaceState → δ} (state : Option SpaceState)
    (found : ∀ state : SpaceState, (columns column).bind (· (some (.text state.value))) = some (change state))
    (rest : List (String × Option (Option Value))) :
    encodeFields columns (given ((column,text (state.map (·.value)))::rest)) =
      (encodeFields columns (given rest)).map ((state.map change).toList ++ ·) := by
  rw [text,Option.map_map]
  exact encode_given state _ change found rest

theorem encode_dict (columns : String → Option (Option Value → Option δ)) {column : String} (metadata : Option String)
    (refused : ∀ value, (columns column).bind (· (some (.dict value))) = none)
    (rest : List (String × Option (Option Value))) {changes : List δ}
    (later : encodeFields columns (given rest) = .ok changes) :
    encodeFields columns (given ((column,metadata.map fun value => some (.dict value))::rest)) = stopped metadata changes := by
  cases metadata with
  | none => exact later
  | some value =>
    simp only [given,Option.map_some,List.filterMap_cons,encodeFields,refused]
    rfl

end Encoding

section Spaces

def toChanges {α : Type} (value : Option α) (change : α → Assignment) : List (List Assignment) :=
  (value.map fun value => [change value]).toList

def spaceChangesOf (u : SpaceUpdate) : List (List Assignment) :=
  toChanges u.name.join .name ++ (toChanges u.code.join .code ++ (toChanges u.building.join (.building ∘ some) ++
  (toChanges u.floor.join (.floor ∘ some) ++ (toChanges u.zone.join (.zone ∘ some) ++
  (toChanges u.sensorEui.join (.sensorEui ∘ some) ++ (toChanges u.displayEui.join (.displayEui ∘ some) ++
  (toChanges u.state.join .state ++ [])))))))

theorem state_changes (state : SpaceState) :
    (spaceChanges.lookup "state").bind (· (some (.text state.value))) = some [.state state] := by
  cases state <;> rfl

theorem updateFields_encoded (u : SpaceUpdate) :
    encodeFields (spaceChanges.lookup ·) (given (updateFields u)) = stopped u.metadata.join (spaceChangesOf u) := by
  have last : encodeFields (spaceChanges.lookup ·) (given [("metadata",u.metadata.join.map fun value => some (.dict value))]) =
      stopped u.metadata.join ([] : List (List Assignment)) := encode_dict _ u.metadata.join (fun _ => rfl) [] rfl
  rw [updateFields,encode_text u.name.join _ (fun _ => rfl),encode_text u.code.join _ (fun _ => rfl),
    encode_text u.building.join _ (fun _ => rfl),encode_text u.floor.join _ (fun _ => rfl),
    encode_text u.zone.join _ (fun _ => rfl),encode_text u.sensorEui.join _ (fun _ => rfl),
    encode_text u.displayEui.join _ (fun _ => rfl),encode_state u.state.join state_changes,last]
  simp only [stopped_map]
  rfl

def routerChangesOf (u : SpaceUpdate) : List (List Assignment) :=
  toChanges u.name.join .name ++ (toChanges u.code.join .code ++ (toChanges u.building.join (.building ∘ some) ++
  (toChanges u.floor.join (.floor ∘ some) ++ (toChanges u.zone.join (.zone ∘ some) ++ (toChanges u.state.join .state ++
  ((u.sensorEui.join.map fun _ => []).toList ++ (toChanges u.sensorEui.join (.sensorEui ∘ some) ++
  ((u.displayEui.join.map fun _ => []).toList ++ (toChanges u.displayEui.join (.displayEui ∘ some) ++ [])))))))))

theorem routerFields_encoded (sensorId displayId : String → String) (u : SpaceUpdate) :
    encodeFields (spaceChanges.lookup ·) (given (routerFields sensorId displayId u)) =
      stopped u.metadata.join (routerChangesOf u) := by
  have devices : encodeFields (spaceChanges.lookup ·) (given [("sensor_device_id",text (u.sensorEui.join.map sensorId)),
      ("sensor_eui",text u.sensorEui.join),("display_device_id",text (u.displayEui.join.map displayId)),
      ("display_eui",text u.displayEui.join)]) = .ok ((u.sensorEui.join.map fun _ => []).toList ++
      (toChanges u.sensorEui.join (.sensorEui ∘ some) ++ ((u.displayEui.join.map fun _ => []).toList ++
      (toChanges u.displayEui.join (.displayEui ∘ some) ++ [])))) := by
    rw [encode_text (u.sensorEui.join.map sensorId) (fun _ => []) (fun _ => rfl),
      encode_text u.sensorEui.join _ (fun _ => rfl),
      encode_text (u.displayEui.join.map displayId) (fun _ => []) (fun _ => rfl),
      encode_text u.displayEui.join _ (fun _ => rfl),Option.map_map,Option.map_map]
    rfl
  rw [routerFields,encode_text u.name.join _ (fun _ => rfl),encode_text u.code.join _ (fun _ => rfl),
    encode_text u.building.join _ (fun _ => rfl),encode_text u.floor.join _ (fun _ => rfl),
    encode_text u.zone.join _ (fun _ => rfl),encode_state u.state.join state_changes,
    encode_dict _ u.metadata.join (fun _ => rfl) _ devices]
  simp only [stopped_map]
  rfl

end Spaces

section Rows

theorem toChanges_flatten {α : Type} (value : Option α) (change : α → Assignment) :
    (toChanges value change).flatten = (value.map change).toList := by cases value <;> rfl

theorem devices_flatten (value : Option String) : ((value.map fun _ => ([] : List Assignment)).toList).flatten = [] := by
  cases value <;> rfl

theorem spaceChangesOf_flatten {u : SpaceUpdate} (bare : u.metadata.join = none) :
    (spaceChangesOf u).flatten = Catalog.columns u := by
  simp only [spaceChangesOf,List.flatten_append,toChanges_flatten,Catalog.columns,bare,List.append_assoc]
  rfl

-- The two routers write the columns in different orders.
theorem changeRow_router {u : SpaceUpdate} (bare : u.metadata.join = none) (sites : List SiteRow) (now : Instant) :
    Catalog.changeRow sites (routerChangesOf u).flatten now = Catalog.changeRow sites (Catalog.columns u) now := by
  have flat : (routerChangesOf u).flatten = (u.name.join.map Assignment.name).toList ++
      ((u.code.join.map Assignment.code).toList ++ ((u.building.join.map (Assignment.building ∘ some)).toList ++
      ((u.floor.join.map (Assignment.floor ∘ some)).toList ++ ((u.zone.join.map (Assignment.zone ∘ some)).toList ++
      ((u.state.join.map Assignment.state).toList ++ ((u.sensorEui.join.map (Assignment.sensorEui ∘ some)).toList ++
      (u.displayEui.join.map (Assignment.displayEui ∘ some)).toList)))))) := by
    simp only [routerChangesOf,List.flatten_append,toChanges_flatten,devices_flatten,List.nil_append]
    simp
  have quiet : (routerChangesOf u).flatten.any (·.synced) = (Catalog.columns u).any (·.synced) := by
    simp only [flat,Catalog.columns,List.any_append,bare,Option.map_none,Option.toList_none,List.any_nil,Bool.or_false]
    ac_rfl
  have same : ∀ space, (routerChangesOf u).flatten.foldl Assignment.apply space =
      (Catalog.columns u).foldl Assignment.apply space := by
    intro space
    rw [flat,Catalog.columns,bare]
    simp only [List.foldl_append]
    cases u.state.join <;> cases u.sensorEui.join <;> cases u.displayEui.join <;> rfl
  funext space
  simp only [Catalog.changeRow,same,quiet]

theorem mine_agrees (tenant : TenantContext) (spaceId : String) :
    agrees (spaceTable.lookup ·) [("id",some (.text spaceId)),("tenant_id",some (.text tenant.tenantId))] =
      Catalog.SpacesTenanted.mine tenant spaceId := by
  funext space
  have id : spaceTable.lookup "id" = some fun space => some (.text space.id) := rfl
  have owner : spaceTable.lookup "tenant_id" = some fun space => space.tenantId.map .text := rfl
  simp only [agrees,List.all_cons,List.all_nil,id,owner,Option.any_some,Catalog.SpacesTenanted.mine,Bool.and_true]
  cases space.tenantId <;> simp [Bool.beq_eq_decide_eq]

theorem id_agrees (spaceId : String) : agrees (spaceTable.lookup ·) [("id",some (.text spaceId))] = (·.id == spaceId) := by
  funext space
  have id : spaceTable.lookup "id" = some fun space => some (.text space.id) := rfl
  simp only [agrees,List.all_cons,List.all_nil,id,Option.any_some,Bool.and_true]
  simp [Bool.beq_eq_decide_eq]

theorem site_agrees (tenant : TenantContext) (siteId : String) :
    agrees (siteTable.lookup ·) [("id",some (.text siteId)),("tenant_id",some (.text tenant.tenantId))] =
      fun site => site.id == siteId && site.tenantId == tenant.tenantId := by
  funext site
  have id : siteTable.lookup "id" = some fun site => some (.text site.id) := rfl
  have owner : siteTable.lookup "tenant_id" = some fun site => some (.text site.tenantId) := rfl
  simp only [agrees,List.all_cons,List.all_nil,id,owner,Option.any_some,Bool.and_true]
  simp [Bool.beq_eq_decide_eq]

end Rows

section Handlers

theorem fields_empty {d : Draft Value} {fields : List (String × Option (Option Value))} :
    (d.addAll fields).conditions = d.conditions ↔ ∀ field ∈ fields, field.2 = none := by
  rw [Draft.addAll_spec,List.append_right_eq_self,List.map_eq_nil_iff,←given_nil]
  cases given fields <;> simp [numbered]

theorem text_none {value : Option String} : text value = none ↔ value = none := Option.map_eq_none_iff

theorem columns_empty {u : SpaceUpdate} : Catalog.columns u = [] ↔ u.name.join = none ∧ u.code.join = none ∧
    u.building.join = none ∧ u.floor.join = none ∧ u.zone.join = none ∧ u.sensorEui.join = none ∧
    u.displayEui.join = none ∧ u.state.join = none ∧ u.metadata.join = none := by
  simp only [Catalog.columns,List.append_eq_nil_iff,Option.toList_eq_nil_iff,Option.map_eq_none_iff,and_assoc]

theorem updateFields_empty (u : SpaceUpdate) : (({} : Draft Value).addAll (updateFields u)).conditions = [] ↔
    Catalog.columns u = [] := by
  rw [columns_empty]
  refine fields_empty.trans ?_
  simp only [updateFields,List.forall_mem_cons,text_none,Option.map_eq_none_iff]
  simp

theorem routerFields_empty (sensorId displayId : String → String) (u : SpaceUpdate) :
    ((⟨["updated_at = NOW()"],[],1⟩ : Draft Value).addAll (routerFields sensorId displayId u)).conditions =
      ["updated_at = NOW()"] ↔ Catalog.columns u = [] := by
  rw [columns_empty]
  refine (fields_empty (d := ⟨["updated_at = NOW()"],[],1⟩)).trans ?_
  simp only [routerFields,List.forall_mem_cons,text_none,Option.map_eq_none_iff]
  simp
  tauto

theorem siteFields_empty (u : SiteUpdate) (before : List (Option Value)) (n : Nat) :
    ((⟨[],before,n⟩ : Draft Value).addAll (siteFields u)).conditions = [] ↔ u.given = false := by
  refine (fields_empty (d := ⟨[],before,n⟩)).trans ?_
  simp only [siteFields,List.forall_mem_cons,text_none,Option.map_eq_none_iff,SiteUpdate.given,Bool.or_eq_false_iff,
    Option.isSome_eq_false_iff,Option.isNone_iff_eq_none]
  simp
  tauto

theorem clear_gaps : ∀ c ∈ gaps.toList, blank c = true := by
  have clear : gaps.toList.all blank = true := by decide
  exact List.all_eq_true.mp clear

theorem update_distinct {u : SpaceUpdate} : (([] : List Change).map Change.column ++ (updateFields u).map Prod.fst ++
    [Change.now "updated_at"].map Change.column).Nodup := by
  show ["name","code","building","floor","zone","sensor_eui","display_eui","state","metadata","updated_at"].Nodup
  decide

theorem update_columns {u : SpaceUpdate} : ∀ column ∈ ([] : List Change).map Change.column ++ (updateFields u).map Prod.fst ++
    [Change.now "updated_at"].map Change.column, Plain column ∧ (spaceChanges.lookup column).isSome = true := by
  show ∀ column ∈ ["name","code","building","floor","zone","sensor_eui","display_eui","state","metadata","updated_at"],
    Plain column ∧ (spaceChanges.lookup column).isSome = true
  decide

theorem router_distinct {sensorId displayId : String → String} {u : SpaceUpdate} :
    ([Change.now "updated_at"].map Change.column ++ (routerFields sensorId displayId u).map Prod.fst ++
      ([] : List Change).map Change.column).Nodup := by
  show ["updated_at","name","code","building","floor","zone","state","metadata","sensor_device_id","sensor_eui",
    "display_device_id","display_eui"].Nodup
  decide

theorem router_columns {sensorId displayId : String → String} {u : SpaceUpdate} :
    ∀ column ∈ [Change.now "updated_at"].map Change.column ++ (routerFields sensorId displayId u).map Prod.fst ++
      ([] : List Change).map Change.column, Plain column ∧ (spaceChanges.lookup column).isSome = true := by
  show ∀ column ∈ ["updated_at","name","code","building","floor","zone","state","metadata","sensor_device_id","sensor_eui",
    "display_device_id","display_eui"], Plain column ∧ (spaceChanges.lookup column).isSome = true
  decide

theorem mine_columns {spaceId tenantId : Option Value} : ∀ column ∈ [("id",spaceId),("tenant_id",tenantId)].map Prod.fst,
    Plain column ∧ (spaceTable.lookup column).isSome = true := by
  show ∀ column ∈ ["id","tenant_id"], Plain column ∧ (spaceTable.lookup column).isSome = true
  decide

theorem id_columns {spaceId : Option Value} : ∀ column ∈ [("id",spaceId)].map Prod.fst,
    Plain column ∧ (spaceTable.lookup column).isSome = true := by
  show ∀ column ∈ ["id"], Plain column ∧ (spaceTable.lookup column).isSome = true
  decide

theorem site_tests {siteId tenantId : Option Value} : ∀ column ∈ [("id",siteId),("tenant_id",tenantId)].map Prod.fst,
    Plain column ∧ (siteTable.lookup column).isSome = true := by
  show ∀ column ∈ ["id","tenant_id"], Plain column ∧ (siteTable.lookup column).isSome = true
  decide

theorem runSpaces_ran {statement : String} {params : List (Option Value)} {metadata : Option String}
    {changes : List (List Assignment)} {chosen : SpaceRow → Bool} (db : Database) (now : Instant)
    (ran : update (spaceTable.lookup ·) (spaceChanges.lookup ·) params (readUpdate (words statement)) =
      (stopped metadata changes).map fun changes => (changes,chosen)) :
    runSpaces db statement params now =
      Catalog.encoded (metadata.map some) (db.updateSpaces chosen changes.flatten now) := by
  rw [runSpaces,ran]
  cases metadata <;> rfl

theorem encoded_congr {metadata : Option String} {one two : Except Failure Database}
    (same : metadata = none → one = two) : Catalog.encoded (metadata.map some) one = Catalog.encoded (metadata.map some) two := by
  cases metadata with
  | none => exact congrArg _ (same rfl)
  | some value => rfl

theorem updateSpace_sent (db : Database) (tenant : TenantContext) (spaceId : String) (u : SpaceUpdate) (now : Instant) :
    updateSpace db tenant spaceId u now = Catalog.SpacesTenanted.updateSpace db tenant spaceId u now := by
  unfold updateSpace Catalog.SpacesTenanted.updateSpace
  cases db.space (Catalog.SpacesTenanted.mineLive tenant spaceId) with
  | none => rfl
  | some space =>
    by_cases empty : Catalog.columns u = []
    · simp only [if_pos empty,if_pos ((updateFields_empty u).mpr empty)]
    · have filled : (({} : Draft Value).addAll (updateFields u)).conditions ≠ [] :=
        fun none => empty ((updateFields_empty u).mp none)
      have some' : given (updateFields u) ≠ [] := fun none => filled (fields_empty.mpr (given_nil.mp none))
      simp only [if_neg empty,if_neg filled,tenanted_text filled]
      have ran := update_after (spaceTable.lookup ·) (spaceChanges.lookup ·) [] [.now "updated_at"]
        [("id",some (.text spaceId)),("tenant_id",some (.text tenant.tenantId))] some' (List.cons_ne_nil _ _) clear_gaps
        update_distinct update_columns (by simp) (by simp [Change.slot?])
        mine_columns
      rw [updateFields_encoded,mine_agrees] at ran
      refine (runSpaces_ran db now ran).trans (encoded_congr fun bare => ?_)
      rw [spaceChangesOf_flatten bare]

theorem updateAnySpace_sent (sensorId displayId : String → String) (db : Database) (spaceId : String) (u : SpaceUpdate)
    (now : Instant) : updateAnySpace sensorId displayId db spaceId u now =
      Catalog.SpacesRouter.updateSpace db spaceId u now := by
  unfold updateAnySpace Catalog.SpacesRouter.updateSpace
  cases db.space (Catalog.SpacesRouter.liveById spaceId) with
  | none => rfl
  | some space =>
    refine congrArg (Catalog.SpacesRouter.registered db u.sensorEui.join u.displayEui.join) ?_
    by_cases empty : Catalog.columns u = []
    · rw [if_pos empty,if_pos ((routerFields_empty sensorId displayId u).mpr empty)]
    · have filled := fun none => empty ((routerFields_empty sensorId displayId u).mp none)
      have some' : given (routerFields sensorId displayId u) ≠ [] :=
        fun none => filled ((fields_empty (d := ⟨_,_,_⟩)).mpr (given_nil.mp none))
      rw [if_neg empty,if_neg filled,router_text]
      have ran := update_after (spaceTable.lookup ·) (spaceChanges.lookup ·) [.now "updated_at"] []
        [("id",some (.text spaceId))] some' (List.cons_ne_nil _ _)
        clear_gaps router_distinct router_columns (by simp [Change.slot?]) (by simp) id_columns
      rw [routerFields_encoded,id_agrees] at ran
      simp only [List.map_nil,List.append_nil] at ran
      refine (runSpaces_ran db now ran).trans (encoded_congr fun bare => ?_)
      unfold Database.updateSpaces
      rw [changeRow_router bare]

def siteChangesOf (u : SiteUpdate) : List (SiteRow → SiteRow) :=
  (u.name.map fun value (site : SiteRow) => {site with name := value}).toList ++
  ((u.timezone.map fun value (site : SiteRow) => {site with timezone := value}).toList ++
  ((u.location.map fun value (site : SiteRow) => {site with location := value}).toList ++
  ((u.metadata.map fun value (site : SiteRow) => {site with metadata := value}).toList ++
  ((u.isActive.map fun value (site : SiteRow) => {site with isActive := value}).toList ++ []))))

theorem siteFields_encoded (u : SiteUpdate) :
    encodeFields (siteChanges.lookup ·) (given (siteFields u)) = .ok (siteChangesOf u) := by
  rw [siteFields,encode_text u.name _ (fun _ => rfl),encode_text u.timezone _ (fun _ => rfl),
    encode_given u.location _ (fun value (site : SiteRow) => {site with location := value}) (fun value => by cases value <;> rfl),
    encode_given u.metadata _ (fun value (site : SiteRow) => {site with metadata := value}) (fun value => by cases value <;> rfl),
    encode_given u.isActive _ _ (fun _ => rfl)]
  rfl

theorem siteChangesOf_row (u : SiteUpdate) (site : SiteRow) :
    (siteChangesOf u).foldl (fun (site : SiteRow) (change : SiteRow → SiteRow) => change site) site =
      Catalog.siteColumns u site := by
  have one : ∀ {α : Type} (value : Option α) (change : α → SiteRow → SiteRow) (site : SiteRow),
      (value.map change).toList.foldl (fun (site : SiteRow) (change : SiteRow → SiteRow) => change site) site =
        value.elim site fun v => change v site := by
    intro α value change site
    cases value <;> rfl
  simp only [siteChangesOf,List.foldl_append,one,List.foldl_nil]
  unfold Catalog.siteColumns
  cases u.name <;> cases u.timezone <;> cases u.location <;> cases u.metadata <;> cases u.isActive <;> rfl

theorem runSites_ran {statement : String} {params : List (Option Value)} {changes : List (SiteRow → SiteRow)}
    {chosen : SiteRow → Bool} (db : Database)
    (ran : update (siteTable.lookup ·) (siteChanges.lookup ·) params (readUpdate (words statement)) =
      .ok (changes,chosen)) :
    runSites db statement params = Catalog.Sites.updateWhere db chosen fun site =>
      changes.foldl (fun (site : SiteRow) (change : SiteRow → SiteRow) => change site) site := by
  rw [runSites,ran]

theorem updateSite_sent (db : Database) (tenant : TenantContext) (siteId : String) (updates : SiteUpdate) :
    updateSite db tenant siteId updates = Catalog.Sites.updateSite db tenant siteId updates := by
  unfold updateSite Catalog.Sites.updateSite
  cases Catalog.Sites.owned db tenant siteId with
  | none => rfl
  | some site =>
    cases updates.name.filter fun name => db.tables.sites.any fun other =>
        other.tenantId == tenant.tenantId && other.name == name && other.id != siteId with
    | some name => rfl
    | none =>
      have empty := siteFields_empty updates [some (.text siteId),some (.text tenant.tenantId)] 3
      cases sent : updates.given with
      | false => simp only [if_pos (empty.mpr sent),Bool.false_eq_true,↓reduceIte]
      | true =>
        have filled := fun none => Bool.false_ne_true ((empty.mp none).symm.trans sent)
        have some' : given (siteFields updates) ≠ [] :=
          fun none => filled ((fields_empty (d := ⟨_,_,_⟩)).mpr (given_nil.mp none))
        have ran := update_before (siteTable.lookup ·) (siteChanges.lookup ·)
          [("id",some (.text siteId)),("tenant_id",some (.text tenant.tenantId))] some' (List.cons_ne_nil _ _)
          clear_gaps (show ["name","timezone","location","metadata","is_active"].Nodup by decide)
          (show ∀ column ∈ ["name","timezone","location","metadata","is_active"],_ from site_columns) site_tests
        rw [siteFields_encoded,site_agrees] at ran
        simp only [if_neg filled,↓reduceIte,site_text]
        have row := funext (siteChangesOf_row updates)
        rw [←row]
        exact runSites_ran db ran

end Handlers

-- The three dynamic updates set the columns of the request in the rows of its key,
-- with the parameters that follow or precede them.
theorem updates_sent (db : Database) (tenant : TenantContext) (id : String) (u : SpaceUpdate) (updates : SiteUpdate)
    (sensorId displayId : String → String) (now : Instant) :
    updateSpace db tenant id u now = Catalog.SpacesTenanted.updateSpace db tenant id u now ∧
    updateAnySpace sensorId displayId db id u now = Catalog.SpacesRouter.updateSpace db id u now ∧
    updateSite db tenant id updates = Catalog.Sites.updateSite db tenant id updates :=
  ⟨updateSpace_sent db tenant id u now,updateAnySpace_sent sensorId displayId db id u now,updateSite_sent db tenant id updates⟩

end SmartParking.Spaces.Queries
