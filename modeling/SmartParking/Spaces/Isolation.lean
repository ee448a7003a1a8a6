import SmartParking.Lib.Lists
import SmartParking.Lib.Noninterference
import SmartParking.Spaces.Tenancy
import SmartParking.Uplink.Eui

namespace SmartParking.Spaces.Isolation
open Lib Lib.Runs
open Auth.ApiKeys (TenantContext)
open Audit (SpaceUpdate)
open Catalog

-- Two rows that the keys of their table allow beside one another.
def SiteApart (one other : SiteRow) : Prop :=
  one.id ≠ other.id ∧ (one.tenantId,one.name) ≠ (other.tenantId,other.name)

def Differ {κ : Type} (one other : Option κ) : Prop := ∀ key, one = some key → other ≠ some key

structure SpaceApart (one other : SpaceRow) : Prop where
  id : one.id ≠ other.id
  sensor : Differ one.sensorEui other.sensorEui
  display : one.deletedAt.isNone = true → other.deletedAt.isNone = true → Differ one.displayEui other.displayEui
  code : one.deletedAt.isNone = true → other.deletedAt.isNone = true → Differ one.codeKey other.codeKey

theorem Differ.symm {κ : Type} {one other : Option κ} (differ : Differ one other) : Differ other one :=
  fun key same equal => differ key equal same

theorem SiteApart.symm (one other : SiteRow) (apart : SiteApart one other) : SiteApart other one :=
  ⟨apart.1.symm,apart.2.symm⟩

theorem SpaceApart.symm (one other : SpaceRow) (apart : SpaceApart one other) : SpaceApart other one :=
  ⟨apart.id.symm,apart.sensor.symm,fun live alive => (apart.display alive live).symm,
    fun live alive => (apart.code alive live).symm⟩

theorem nodup_keys {α κ : Type} (key : α → Option κ) (items : List α) :
    (items.filterMap key).Nodup ↔ items.Pairwise fun one other => Differ (key one) (key other) := by
  unfold List.Nodup
  rw [List.pairwise_filterMap]
  constructor
  · intro pairs
    refine pairs.imp fun apart k same equal => ?_
    exact apart k same k equal rfl
  · intro pairs
    refine pairs.imp fun differ k same l equal => ?_
    rintro rfl
    exact differ k same equal

-- The keys of the tables, as a property of the pairs of rows.
theorem lawful_iff (t : Tables) : t.Lawful ↔ t.sites.Pairwise SiteApart ∧ t.spaces.Pairwise SpaceApart ∧
    (∀ space ∈ t.spaces, space.validGps ∧ space.validEui) ∧
    ∀ space ∈ t.spaces, ∀ siteId ∈ space.siteId, ∃ site ∈ t.sites, site.id = siteId := by
  have sites : t.sites.Pairwise SiteApart ↔
      (t.sites.map (·.id)).Nodup ∧ (t.sites.map fun site => (site.tenantId,site.name)).Nodup := by
    unfold List.Nodup
    rw [List.pairwise_map,List.pairwise_map,←List.pairwise_and_iff]
    rfl
  have spaces : t.spaces.Pairwise SpaceApart ↔ (t.spaces.map (·.id)).Nodup ∧ (t.spaces.filterMap (·.sensorEui)).Nodup ∧
      (t.live.filterMap (·.displayEui)).Nodup ∧ (t.live.filterMap SpaceRow.codeKey).Nodup := by
    unfold Tables.live
    rw [nodup_keys,nodup_keys,nodup_keys,List.pairwise_filter,List.pairwise_filter]
    unfold List.Nodup
    rw [List.pairwise_map,←List.pairwise_and_iff,←List.pairwise_and_iff,←List.pairwise_and_iff]
    constructor
    · exact fun pairs => pairs.imp fun apart => ⟨apart.id,apart.sensor,apart.display,apart.code⟩
    · exact fun pairs => pairs.imp fun apart => ⟨apart.1,apart.2.1,apart.2.2.1,apart.2.2.2⟩
  unfold Tables.Lawful
  rw [sites,spaces]
  simp only [and_assoc]

-- The rows of a tenant.
def ownSite (tenantId : String) (site : SiteRow) : Bool := site.tenantId == tenantId

def own (tenantId : String) (space : SpaceRow) : Bool := space.tenantId == some tenantId

variable {tenantId : String} {db v next : Database} {t u : Tables} {tenant : TenantContext} {now : Instant}
  {assignments : List Assignment} {select : SpaceRow → Bool} {space row : SpaceRow}

-- The rows of other tenants do not stand in the way of this one's.
structure Beside (tenantId : String) (t : Tables) (db : Database) : Prop where
  sites : ∀ one ∈ t.sites, ∀ other ∈ db.tables.sites, ownSite tenantId one = true → ownSite tenantId other = false →
    SiteApart one other
  spaces : ∀ one ∈ t.spaces, ∀ other ∈ db.tables.spaces, own tenantId one = true → own tenantId other = false →
    SpaceApart one other

-- Tables that have the other tenants' rows of a database.
structure Others (tenantId : String) (t : Tables) (db : Database) : Prop where
  sites : t.sites.filter (!ownSite tenantId ·) = db.tables.sites.filter (!ownSite tenantId ·)
  spaces : t.spaces.filter (!own tenantId ·) = db.tables.spaces.filter (!own tenantId ·)

-- Tables with the rows of the tenant alone.
structure Alone (tenantId : String) (t u : Tables) : Prop where
  sites : u.sites = t.sites.filter (ownSite tenantId)
  spaces : u.spaces = t.spaces.filter (own tenantId)

def Linked (tenantId : String) (t : Tables) : Prop :=
  ∀ space ∈ t.spaces, own tenantId space = true → ∀ siteId ∈ space.siteId,
    ∃ site ∈ t.sites, ownSite tenantId site = true ∧ site.id = siteId

theorem mem_others {other : SpaceRow} (others : Others tenantId t db) (member : other ∈ t.spaces)
    (foreign : own tenantId other = false) : other ∈ db.tables.spaces := by
  have kept : other ∈ t.spaces.filter (!own tenantId ·) := List.mem_filter.mpr ⟨member,by simpa using foreign⟩
  rw [others.spaces] at kept
  exact (List.mem_filter.mp kept).1

theorem mem_otherSites {other : SiteRow} (others : Others tenantId t db) :
    (other ∈ t.sites ∧ ownSite tenantId other = false) ↔ other ∈ db.tables.sites ∧ ownSite tenantId other = false := by
  have same := congrArg (other ∈ ·) others.sites
  simpa using same

theorem consistent_foreign (consistent : db.Consistent) (member : space ∈ db.tables.spaces)
    (foreign : own tenantId space = false) : ∃ site ∈ db.tables.sites, ownSite tenantId site = false ∧
      space.siteId = some site.id := by
  obtain ⟨site,listed,pointed,same⟩ := consistent space member
  refine ⟨site,listed,?_,pointed⟩
  unfold own at foreign
  rw [same] at foreign
  unfold ownSite
  simpa using foreign

theorem consistent_linked (consistent : db.Consistent) : Linked tenantId db.tables := by
  intro space member mine siteId pointer
  obtain ⟨site,listed,pointed,same⟩ := consistent space member
  refine ⟨site,listed,?_,?_⟩
  · unfold own at mine
    rw [same] at mine
    unfold ownSite
    simpa using mine
  · exact Option.some.inj (pointed.symm.trans pointer)

-- Whether the tenant's change is accepted does not depend on the other rows.
theorem lawful_alone (consistent : db.Consistent) (others : Others tenantId t db) (beside : Beside tenantId t db)
    (linked : Linked tenantId t) (alone : Alone tenantId t u) : t.Lawful ↔ u.Lawful := by
  have held := (lawful_iff db.tables).mp db.lawful
  have otherSites := (Lists.pairwise_split SiteApart.symm (ownSite tenantId) _).mp held.1
  have otherSpaces := (Lists.pairwise_split SpaceApart.symm (own tenantId) _).mp held.2.1
  rw [lawful_iff,lawful_iff,Lists.pairwise_split SiteApart.symm (ownSite tenantId) t.sites,
    Lists.pairwise_split SpaceApart.symm (own tenantId) t.spaces,others.sites,others.spaces,alone.sites,alone.spaces]
  have betweenSites : ∀ one ∈ t.sites, ∀ other ∈ t.sites, ownSite tenantId one = true → ownSite tenantId other = false →
      SiteApart one other := fun one oneIn other otherIn inside outside =>
    beside.sites one oneIn other ((mem_otherSites others).mp ⟨otherIn,outside⟩).1 inside outside
  have betweenSpaces : ∀ one ∈ t.spaces, ∀ other ∈ t.spaces, own tenantId one = true → own tenantId other = false →
      SpaceApart one other := fun one oneIn other otherIn inside outside =>
    beside.spaces one oneIn other (mem_others others otherIn outside) inside outside
  constructor
  · rintro ⟨⟨sites,_⟩,⟨spaces,_⟩,valid,_⟩
    refine ⟨sites,spaces,fun space member => valid space (List.mem_filter.mp member).1,?_⟩
    intro space member siteId pointer
    obtain ⟨listed,mine⟩ := List.mem_filter.mp member
    obtain ⟨site,known,ours,same⟩ := linked space listed mine siteId pointer
    exact ⟨site,List.mem_filter.mpr ⟨known,ours⟩,same⟩
  · rintro ⟨sites,spaces,valid,pointers⟩
    refine ⟨⟨sites,otherSites.2.1,betweenSites⟩,⟨spaces,otherSpaces.2.1,betweenSpaces⟩,?_,?_⟩
    · intro space member
      cases mine : own tenantId space with
      | true => exact valid space (List.mem_filter.mpr ⟨member,mine⟩)
      | false => exact held.2.2.1 space (mem_others others member mine)
    · intro space member siteId pointer
      cases mine : own tenantId space with
      | true =>
        obtain ⟨site,listed,same⟩ := pointers space (List.mem_filter.mpr ⟨member,mine⟩) siteId pointer
        exact ⟨site,(List.mem_filter.mp listed).1,same⟩
      | false =>
        obtain ⟨site,listed,foreign,pointed⟩ := consistent_foreign consistent (mem_others others member mine) mine
        refine ⟨site,((mem_otherSites others).mpr ⟨listed,foreign⟩).1,?_⟩
        exact Option.some.inj (pointed.symm.trans pointer)

def Agree (tenantId : String) (db v : Database) : Prop := Alone tenantId db.tables v.tables

-- Two statements that end alike for the tenant.
def Matches (tenantId : String) : Except Failure Database → Except Failure Database → Prop
  | .ok next,.ok shadow => Agree tenantId next shadow
  | .error one,.error other => one = other
  | _,_ => False

theorem commit_matches (consistent : db.Consistent) (others : Others tenantId t db) (beside : Beside tenantId t db)
    (linked : Linked tenantId t) (alone : Alone tenantId t u) : Matches tenantId (commit t) (commit u) := by
  have same := lawful_alone consistent others beside linked alone
  unfold commit
  by_cases lawful : t.Lawful
  · rw [dif_pos lawful,dif_pos (same.mp lawful)]
    exact alone
  · rw [dif_neg lawful,dif_neg (mt same.mpr lawful)]
    rfl

theorem beside_self (tenantId : String) (db : Database) : Beside tenantId db.tables db := by
  have held := (lawful_iff db.tables).mp db.lawful
  exact ⟨((Lists.pairwise_split SiteApart.symm (ownSite tenantId) _).mp held.1).2.2,
    ((Lists.pairwise_split SpaceApart.symm (own tenantId) _).mp held.2.1).2.2⟩

-- An update that keeps the part an element is in, and touches one part only.
theorem filter_updated {α : Type} {part : α → Bool} {update : α → α} (items : List α)
    (kept : ∀ x ∈ items, part (update x) = part x) :
    (items.map update).filter part = (items.filter part).map update := by
  rw [List.filter_map]
  exact congrArg (List.map update) (List.filter_congr kept)

theorem filter_untouched {α : Type} {part : α → Bool} {update : α → α} (items : List α)
    (kept : ∀ x ∈ items, part (update x) = part x) (apart : ∀ x ∈ items, part x = false → update x = x) :
    (items.map update).filter (!part ·) = items.filter (!part ·) := by
  rw [List.filter_map]
  have same : items.filter ((!part ·) ∘ update) = items.filter (!part ·) :=
    List.filter_congr fun x member => by simp only [Function.comp_apply,kept x member]
  rw [same]
  refine (List.map_congr_left fun x member => ?_).trans (List.map_id _)
  obtain ⟨listed,outside⟩ := List.mem_filter.mp member
  exact apart x listed (by simpa using outside)

-- An UPDATE of sites of the tenant.
theorem updateWhere_matches (consistent : db.Consistent) (agree : Agree tenantId db v) {select : SiteRow → Bool}
    {change : SiteRow → SiteRow} (ours : ∀ site ∈ db.tables.sites, select site = true → ownSite tenantId site = true)
    (same : ∀ site, (change site).id = site.id ∧ (change site).tenantId = site.tenantId) :
    Matches tenantId (Sites.updateWhere db select change) (Sites.updateWhere v select change) := by
  have keys : ∀ site, (if select site then change site else site).id = site.id ∧
      (if select site then change site else site).tenantId = site.tenantId := by
    intro site
    split
    · exact same site
    · exact ⟨rfl,rfl⟩
  have kept : ∀ site ∈ db.tables.sites,
      ownSite tenantId (if select site then change site else site) = ownSite tenantId site := by
    intro site _
    unfold ownSite
    rw [(keys site).2]
  refine commit_matches consistent ⟨filter_untouched _ kept fun site listed foreign => ?_,rfl⟩ ⟨?_,?_⟩ ?_ ⟨?_,agree.spaces⟩
  · refine if_neg fun selected => ?_
    rw [ours site listed selected] at foreign
    cases foreign
  · intro one oneIn other otherIn inside outside
    obtain ⟨site,listed,rfl⟩ := List.mem_map.mp oneIn
    rw [kept site listed] at inside
    have apart := (beside_self tenantId db).sites site listed other otherIn inside outside
    refine ⟨by rw [(keys site).1]; exact apart.1,?_⟩
    rw [(keys site).2]
    intro equal
    unfold ownSite at inside outside
    rw [(Prod.mk.inj equal).1] at inside
    rw [inside] at outside
    cases outside
  · exact (beside_self tenantId db).spaces
  · intro space member mine siteId pointer
    obtain ⟨site,listed,inside,named⟩ := consistent_linked consistent space member mine siteId pointer
    exact ⟨_,List.mem_map_of_mem listed,by rw [kept site listed]; exact inside,by rw [(keys site).1]; exact named⟩
  · dsimp only
    rw [agree.sites]
    exact (filter_updated _ kept).symm

-- A search that only finds what is in a part.
theorem find?_part {α : Type} {part sought : α → Bool} (items : List α)
    (within : ∀ x ∈ items, sought x = true → part x = true) : (items.filter part).find? sought = items.find? sought := by
  rw [List.find?_filter]
  refine List.find?_congr fun x member => ?_
  cases found : sought x with
  | false => simp
  | true => simp [within x member found]

theorem any_part {α : Type} {part sought : α → Bool} (items : List α)
    (within : ∀ x ∈ items, sought x = true → part x = true) : (items.filter part).any sought = items.any sought := by
  rw [←List.isSome_find?,←List.isSome_find?,find?_part items within]

theorem owned_same (agree : Agree tenantId db v) (mine : tenant.tenantId = tenantId) (siteId : String) :
    Sites.owned v tenant siteId = Sites.owned db tenant siteId := by
  unfold Sites.owned
  rw [agree.sites]
  refine find?_part _ fun site _ found => ?_
  rw [Bool.and_eq_true,mine] at found
  exact found.2

theorem named_same (agree : Agree tenantId db v) (mine : tenant.tenantId = tenantId) (test : SiteRow → Bool) :
    (v.tables.sites.any fun site => site.tenantId == tenant.tenantId && test site) =
      db.tables.sites.any fun site => site.tenantId == tenant.tenantId && test site := by
  rw [agree.sites]
  refine any_part _ fun site _ found => ?_
  rw [Bool.and_eq_true,mine] at found
  exact found.1

theorem createSite_matches (consistent : db.Consistent) (agree : Agree tenantId db v) (mine : tenant.tenantId = tenantId)
    {site : SiteCreate} {id : String}
    (fresh : ∀ other ∈ db.tables.sites, ownSite tenantId other = false → id ≠ other.id) :
    Matches tenantId (Sites.createSite db tenant site id) (Sites.createSite v tenant site id) := by
  unfold Sites.createSite
  rw [named_same agree mine fun other => other.name == site.name]
  split
  · rfl
  · have inside : ownSite tenantId ⟨id,tenant.tenantId,site.name,site.timezone,site.location.join,site.metadata.join,
        site.isActive⟩ = true := by
      unfold ownSite
      exact beq_iff_eq.mpr mine
    refine commit_matches consistent ⟨?_,rfl⟩ ⟨?_,(beside_self tenantId db).spaces⟩ ?_ ⟨?_,agree.spaces⟩
    · dsimp only
      rw [List.filter_append,List.filter_singleton,inside]
      exact List.append_nil _
    · intro one oneIn other otherIn mineOne foreign
      rcases List.mem_append.mp oneIn with old | new
      · exact (beside_self tenantId db).sites one old other otherIn mineOne foreign
      · cases List.mem_singleton.mp new
        refine ⟨fresh other otherIn foreign,?_⟩
        intro equal
        unfold ownSite at foreign
        rw [←(Prod.mk.inj equal).1,mine,beq_self_eq_true] at foreign
        cases foreign
    · intro space member mineSpace siteId pointer
      obtain ⟨known,listed,rest⟩ := consistent_linked consistent space member mineSpace siteId pointer
      exact ⟨known,List.mem_append_left _ listed,rest⟩
    · dsimp only
      rw [List.filter_append,List.filter_singleton,inside,agree.sites]
      rfl

theorem updateSite_matches (consistent : db.Consistent) (agree : Agree tenantId db v) (mine : tenant.tenantId = tenantId)
    (siteId : String) (updates : SiteUpdate) :
    Matches tenantId (Sites.updateSite db tenant siteId updates) (Sites.updateSite v tenant siteId updates) := by
  have taken : (fun name => v.tables.sites.any fun other =>
      other.tenantId == tenant.tenantId && other.name == name && other.id != siteId) =
        fun name => db.tables.sites.any fun other =>
          other.tenantId == tenant.tenantId && other.name == name && other.id != siteId := by
    funext name
    simp only [Bool.and_assoc]
    exact named_same agree mine fun other => other.name == name && other.id != siteId
  unfold Sites.updateSite
  rw [owned_same agree mine,taken]
  split
  · rfl
  · split
    · rfl
    · split
      · refine updateWhere_matches consistent agree (fun site _ selected => ?_) fun _ => ⟨rfl,rfl⟩
        rw [Bool.and_eq_true,mine] at selected
        exact selected.2
      · rfl

-- The id of a site of the tenant is nobody else's.
theorem owned_unique {siteId : String} {site : SiteRow} (mine : tenant.tenantId = tenantId)
    (found : Sites.owned db tenant siteId = some site) :
    site ∈ db.tables.sites ∧ site.id = siteId ∧ site.tenantId = tenantId ∧
      ∀ other ∈ db.tables.sites, other.id = siteId → other = site := by
  have tested := List.find?_some found
  rw [Bool.and_eq_true,beq_iff_eq,beq_iff_eq] at tested
  have listed := List.mem_of_find?_eq_some found
  exact ⟨listed,tested.1,tested.2.trans mine,fun other otherIn same =>
    List.inj_on_of_nodup_map db.lawful.1 otherIn listed (same.trans tested.1.symm)⟩

theorem spacesCount_same (consistent : db.Consistent) (agree : Agree tenantId db v) {siteId : String} {site : SiteRow}
    (mine : tenant.tenantId = tenantId) (found : Sites.owned db tenant siteId = some site) :
    Sites.spacesCount v siteId = Sites.spacesCount db siteId := by
  obtain ⟨listed,named,owner,_⟩ := owned_unique mine found
  unfold Sites.spacesCount
  rw [agree.spaces,List.filter_filter]
  refine congrArg List.length (List.filter_congr fun space member => ?_)
  cases pointed : space.siteId == some siteId with
  | false => simp
  | true =>
    have owned := consistent space member
    have tenantOf := owned.unique listed (by rw [named]; exact beq_iff_eq.mp pointed)
    have inside : own tenantId space = true := by
      unfold own
      rw [tenantOf,owner]
      exact beq_self_eq_true _
    rw [inside,Bool.and_true]

theorem deleteSite_matches (consistent : db.Consistent) (agree : Agree tenantId db v) (mine : tenant.tenantId = tenantId)
    (siteId : String) (force : Bool) :
    Matches tenantId (Sites.deleteSite db tenant siteId force) (Sites.deleteSite v tenant siteId force) := by
  unfold Sites.deleteSite
  rw [owned_same agree mine]
  cases found : Sites.owned db tenant siteId with
  | none => rfl
  | some site =>
    dsimp only
    rw [spacesCount_same consistent agree mine found]
    split
    · rfl
    · refine updateWhere_matches consistent agree (fun other listed selected => ?_) fun _ => ⟨rfl,rfl⟩
      obtain ⟨_,_,owner,only⟩ := owned_unique mine found
      rw [only other listed (beq_iff_eq.mp selected)]
      exact beq_iff_eq.mpr owner

def changed (assignments : List Assignment) (now : Instant) (space : SpaceRow) : SpaceRow :=
  euiUpper {assignments.foldl Assignment.apply space with updatedAt := now}

theorem changed_keys (unsynced : ∀ assignment ∈ assignments, assignment.synced = false) (space : SpaceRow) :
    (changed assignments now space).id = space.id ∧ (changed assignments now space).siteId = space.siteId ∧
      (changed assignments now space).tenantId = space.tenantId := by
  obtain ⟨siteId,tenant⟩ := foldl_unsynced unsynced space
  refine ⟨?_,siteId,tenant⟩
  show (assignments.foldl Assignment.apply space).id = space.id
  clear unsynced siteId tenant
  induction assignments generalizing space with
  | nil => rfl
  | cons assignment rest ih =>
    rw [List.foldl_cons,ih]
    cases assignment <;> rfl

theorem changeRows_ok {change : SpaceRow → Except Failure SpaceRow} {update : SpaceRow → SpaceRow} (spaces : List SpaceRow)
    (ran : ∀ space, change space = .ok (update space)) :
    changeRows select change spaces = .ok (spaces.map fun space => if select space then update space else space) := by
  induction spaces with
  | nil => rfl
  | cons space rest ih =>
    unfold changeRows
    rw [ih,List.map_cons]
    split
    · rw [ran]
      rfl
    · rfl

-- An UPDATE that names neither the site nor the tenant.
theorem updateSpaces_eq (unsynced : ∀ assignment ∈ assignments, assignment.synced = false) :
    db.updateSpaces select assignments now = commit {db.tables with
      spaces := db.tables.spaces.map fun space => if select space then changed assignments now space else space} := by
  unfold Database.updateSpaces
  have ran : ∀ space, changeRow db.tables.sites assignments now space = .ok (changed assignments now space) := by
    intro space
    unfold changeRow
    rw [if_neg]
    · rfl
    · simpa using unsynced
  rw [changeRows_ok _ ran]
  rfl

-- A column is what it was or what was last assigned to it.
theorem foldl_column {β : Type} (column : SpaceRow → β) (value : Assignment → Option β)
    (applied : ∀ assignment space, column (assignment.apply space) = (value assignment).getD (column space))
    (assignments : List Assignment) (space : SpaceRow) :
    column (assignments.foldl Assignment.apply space) = column space ∨
      ∃ assignment ∈ assignments, value assignment = some (column (assignments.foldl Assignment.apply space)) := by
  induction assignments generalizing space with
  | nil => exact .inl rfl
  | cons assignment rest ih =>
    rw [List.foldl_cons]
    rcases ih (assignment.apply space) with kept | ⟨later,member,same⟩
    · rw [kept,applied]
      cases given : value assignment with
      | none => exact .inl rfl
      | some b => exact .inr ⟨assignment,List.mem_cons_self,given⟩
    · exact .inr ⟨later,List.mem_cons_of_mem _ member,same⟩

def sensorValue : Assignment → Option (Option String)
  | .sensorEui value => some value
  | _ => none

def displayValue : Assignment → Option (Option String)
  | .displayEui value => some value
  | _ => none

def deletedValue : Assignment → Option (Option Instant)
  | .deletedAt value => some value
  | _ => none

-- The EUI is on no space of another tenant.
def FreeSensor (tenantId : String) (db : Database) (eui : Option String) : Prop :=
  ∀ other ∈ db.tables.spaces, own tenantId other = false → Differ (eui.map (·.toUpper)) other.sensorEui

def FreeDisplay (tenantId : String) (db : Database) (eui : Option String) : Prop :=
  ∀ other ∈ db.tables.spaces, own tenantId other = false → other.deletedAt.isNone = true →
    Differ (eui.map (·.toUpper)) other.displayEui

structure Free (tenantId : String) (db : Database) (assignments : List Assignment) : Prop where
  unsynced : ∀ assignment ∈ assignments, assignment.synced = false
  sensor : ∀ assignment ∈ assignments, ∀ eui, sensorValue assignment = some eui → FreeSensor tenantId db eui
  display : ∀ assignment ∈ assignments, ∀ eui, displayValue assignment = some eui → FreeDisplay tenantId db eui
  kept : ∀ assignment ∈ assignments, ∀ time, deletedValue assignment = some time → time.isSome = true

theorem toUpper_hex {eui : String} (hex : hexEui eui = true) : eui.toUpper = eui := by
  unfold hexEui at hex
  rw [Bool.and_eq_true,List.all_eq_true] at hex
  rw [←String.toList_inj]
  unfold String.toUpper
  rw [String.toList_map]
  refine (List.map_congr_left fun c member => ?_).trans (List.map_id _)
  exact (Uplink.upper_digit (List.contains_iff_mem.mp (hex.2 c member))).2.2.1

theorem validEui_upper {eui : Option String} (valid : eui.all hexEui = true) : eui.map (·.toUpper) = eui := by
  cases eui with
  | none => rfl
  | some text => exact congrArg some (toUpper_hex valid)

theorem codeKey_differ {one other : SpaceRow} (mine : own tenantId one = true) (foreign : own tenantId other = false) :
    Differ one.codeKey other.codeKey := by
  intro key first second
  obtain ⟨tenantOf,held,rest⟩ := Option.bind_eq_some_iff.mp first
  obtain ⟨site,_,rfl⟩ := Option.map_eq_some_iff.mp rest
  obtain ⟨otherTenant,heldOther,restOther⟩ := Option.bind_eq_some_iff.mp second
  obtain ⟨otherSite,_,same⟩ := Option.map_eq_some_iff.mp restOther
  unfold own at mine foreign
  rw [heldOther,(Prod.mk.inj same).1,←held,mine] at foreign
  cases foreign

theorem changed_apart (free : Free tenantId db assignments) {one other : SpaceRow} (oneIn : one ∈ db.tables.spaces)
    (otherIn : other ∈ db.tables.spaces) (mine : own tenantId one = true) (foreign : own tenantId other = false) :
    SpaceApart (changed assignments now one) other := by
  have apart := (beside_self tenantId db).spaces one oneIn other otherIn mine foreign
  have id : (changed assignments now one).id = one.id := (changed_keys free.unsynced one).1
  have owner : (changed assignments now one).tenantId = one.tenantId := (changed_keys free.unsynced one).2.2
  have valid := ((lawful_iff db.tables).mp db.lawful).2.2.1 one oneIn
  obtain ⟨sensorHex,displayHex⟩ := Bool.and_eq_true_iff.mp valid.2
  refine ⟨by rw [id]; exact apart.id,?_,?_,?_⟩
  · show Differ ((assignments.foldl Assignment.apply one).sensorEui.map (·.toUpper)) other.sensorEui
    rcases foldl_column (·.sensorEui) sensorValue (fun assignment _ => by cases assignment <;> rfl) assignments one with
      kept | ⟨assignment,member,given⟩
    · rw [kept,validEui_upper sensorHex]
      exact apart.sensor
    · exact free.sensor assignment member _ given other otherIn foreign
  · intro live alive
    show Differ ((assignments.foldl Assignment.apply one).displayEui.map (·.toUpper)) other.displayEui
    have before : one.deletedAt.isNone = true := by
      have now' : (assignments.foldl Assignment.apply one).deletedAt.isNone = true := live
      rcases foldl_column (·.deletedAt) deletedValue (fun assignment _ => by cases assignment <;> rfl) assignments one with
        kept | ⟨assignment,member,given⟩
      · rw [kept] at now'
        exact now'
      · have buried := free.kept assignment member _ given
        rw [Option.isNone_iff_eq_none.mp now'] at buried
        cases buried
    rcases foldl_column (·.displayEui) displayValue (fun assignment _ => by cases assignment <;> rfl) assignments one with
      kept | ⟨assignment,member,given⟩
    · rw [kept,validEui_upper displayHex]
      exact apart.display before alive
    · exact free.display assignment member _ given other otherIn foreign alive
  · intro _ _
    have changedMine : own tenantId (changed assignments now one) = true := by
      unfold own
      rw [owner]
      exact mine
    exact codeKey_differ changedMine foreign

theorem updateSpaces_matches (consistent : db.Consistent) (agree : Agree tenantId db v) (free : Free tenantId db assignments)
    (ours : ∀ space ∈ db.tables.spaces, select space = true → own tenantId space = true) :
    Matches tenantId (db.updateSpaces select assignments now) (v.updateSpaces select assignments now) := by
  rw [updateSpaces_eq free.unsynced,updateSpaces_eq free.unsynced]
  have kept : ∀ space ∈ db.tables.spaces,
      own tenantId (if select space then changed assignments now space else space) = own tenantId space := by
    intro space _
    unfold own
    split
    · rw [(changed_keys free.unsynced space).2.2]
    · rfl
  refine commit_matches consistent ⟨rfl,filter_untouched _ kept fun space listed foreign => ?_⟩
    ⟨(beside_self tenantId db).sites,?_⟩ ?_ ⟨agree.sites,?_⟩
  · refine if_neg fun selected => ?_
    rw [ours space listed selected] at foreign
    cases foreign
  · intro one oneIn other otherIn inside outside
    obtain ⟨space,listed,rfl⟩ := List.mem_map.mp oneIn
    rw [kept space listed] at inside
    split
    · exact changed_apart free listed otherIn inside outside
    · exact (beside_self tenantId db).spaces space listed other otherIn inside outside
  · intro one oneIn inside siteId pointer
    obtain ⟨space,listed,rfl⟩ := List.mem_map.mp oneIn
    rw [kept space listed] at inside
    refine consistent_linked consistent space listed inside siteId ?_
    split at pointer
    · rw [(changed_keys free.unsynced space).2.1] at pointer
      exact pointer
    · exact pointer
  · dsimp only
    rw [agree.spaces]
    exact (filter_updated _ kept).symm

theorem encoded_matches {one other : Except Failure Database} (same : Matches tenantId one other) (metadata : Option Document) :
    Matches tenantId (encoded metadata one) (encoded metadata other) := by
  unfold encoded
  split
  · rfl
  · exact same

theorem mine_own (mine : tenant.tenantId = tenantId) {spaceId : String}
    (selected : SpacesTenanted.mine tenant spaceId space = true) : own tenantId space = true := by
  unfold SpacesTenanted.mine at selected
  rw [Bool.and_eq_true,mine] at selected
  exact selected.2

theorem columns_each (u : SpaceUpdate) : ∀ assignment ∈ columns u, assignment.synced = false ∧ deletedValue assignment = none ∧
    (∀ eui, sensorValue assignment = some eui → eui = u.sensorEui.join) ∧
    ∀ eui, displayValue assignment = some eui → eui = u.displayEui.join := by
  intro assignment member
  unfold columns at member
  simp only [List.mem_append,Option.mem_toList,Option.map_eq_some_iff] at member
  rcases member with (((((((⟨_,given,rfl⟩ | ⟨_,given,rfl⟩) | ⟨_,given,rfl⟩) | ⟨_,given,rfl⟩) | ⟨_,given,rfl⟩) |
    ⟨_,given,rfl⟩) | ⟨_,given,rfl⟩) | ⟨_,given,rfl⟩) | ⟨_,given,rfl⟩
  all_goals simp [Assignment.synced,deletedValue,sensorValue,displayValue,given]

theorem columns_free {u : SpaceUpdate} (sensor : FreeSensor tenantId db u.sensorEui.join)
    (display : FreeDisplay tenantId db u.displayEui.join) : Free tenantId db (columns u) := by
  have each := columns_each u
  refine ⟨fun assignment member => (each assignment member).1,?_,?_,?_⟩
  · intro assignment member eui given
    rw [(each assignment member).2.2.1 eui given]
    exact sensor
  · intro assignment member eui given
    rw [(each assignment member).2.2.2 eui given]
    exact display
  · intro assignment member time given
    rw [(each assignment member).2.1] at given
    cases given

theorem mineLive_own (mine : tenant.tenantId = tenantId) {spaceId : String}
    (selected : SpacesTenanted.mineLive tenant spaceId space = true) : own tenantId space = true := by
  unfold SpacesTenanted.mineLive at selected
  rw [Bool.and_eq_true] at selected
  exact mine_own mine selected.1

theorem mineLive_same (agree : Agree tenantId db v) (mine : tenant.tenantId = tenantId) (spaceId : String) :
    v.space (SpacesTenanted.mineLive tenant spaceId) = db.space (SpacesTenanted.mineLive tenant spaceId) := by
  unfold Database.space
  rw [agree.spaces]
  exact find?_part _ fun _ _ selected => mineLive_own mine selected

theorem updateSpace_matches (consistent : db.Consistent) (agree : Agree tenantId db v) (mine : tenant.tenantId = tenantId)
    {spaceId : String} {u : SpaceUpdate} (sensor : FreeSensor tenantId db u.sensorEui.join)
    (display : FreeDisplay tenantId db u.displayEui.join) :
    Matches tenantId (SpacesTenanted.updateSpace db tenant spaceId u now) (SpacesTenanted.updateSpace v tenant spaceId u now) := by
  unfold SpacesTenanted.updateSpace
  rw [mineLive_same agree mine]
  split
  · rfl
  · split
    · rfl
    · exact encoded_matches (updateSpaces_matches consistent agree (columns_free sensor display)
        fun _ _ selected => mine_own mine selected) _

theorem deleteSpace_matches (consistent : db.Consistent) (agree : Agree tenantId db v) (mine : tenant.tenantId = tenantId)
    (spaceId : String) :
    Matches tenantId (SpacesTenanted.deleteSpace db tenant spaceId now) (SpacesTenanted.deleteSpace v tenant spaceId now) := by
  unfold SpacesTenanted.deleteSpace
  rw [mineLive_same agree mine]
  split
  · rfl
  · refine updateSpaces_matches consistent agree ?_ fun _ _ selected => mineLive_own mine selected
    refine ⟨?_,?_,?_,?_⟩ <;> intro assignment member <;> cases List.mem_singleton.mp member
    · rfl
    · exact fun _ given => by cases given
    · exact fun _ given => by cases given
    · rintro _ ⟨⟩
      rfl

theorem assign_matches (consistent : db.Consistent) (agree : Agree tenantId db v) (mine : tenant.tenantId = tenantId)
    {spaceId : String} {assignment : Assignment} (free : Free tenantId db [assignment]) :
    Matches tenantId (SpacesTenanted.assign db tenant spaceId assignment now)
      (SpacesTenanted.assign v tenant spaceId assignment now) := by
  unfold SpacesTenanted.assign
  rw [mineLive_same agree mine]
  split
  · rfl
  · exact updateSpaces_matches consistent agree free fun _ _ selected => mineLive_own mine selected

-- The site that the trigger reads for a site of the tenant.
theorem sync_same (agree : Agree tenantId db v) {site : SiteRow} (listed : site ∈ db.tables.sites)
    (inside : ownSite tenantId site = true) {new : SpaceRow} (pointer : new.siteId = some site.id) :
    spacesSyncTenantId v.tables.sites new = spacesSyncTenantId db.tables.sites new := by
  have same : (db.tables.sites.filter (ownSite tenantId)).find? (fun other => other.id == site.id && other.isActive) =
      db.tables.sites.find? fun other => other.id == site.id && other.isActive := by
    refine find?_part _ fun other member found => ?_
    rw [Bool.and_eq_true,beq_iff_eq] at found
    rw [List.inj_on_of_nodup_map db.lawful.1 member listed found.1]
    exact inside
  unfold spacesSyncTenantId
  rw [pointer]
  dsimp only
  rw [agree.sites,same]

-- The row that the trigger makes of one that points to a site.
theorem synced_row {site : SiteRow} (listed : site ∈ db.tables.sites) {new : SpaceRow} (pointer : new.siteId = some site.id)
    (ran : spacesSyncTenantId db.tables.sites new = .ok row) : row = {new with tenantId := some site.tenantId} := by
  unfold spacesSyncTenantId at ran
  rw [pointer] at ran
  dsimp only at ran
  split at ran
  · cases ran
  · rename_i other found
    have selected := List.find?_some found
    rw [Bool.and_eq_true,beq_iff_eq] at selected
    have same := List.inj_on_of_nodup_map db.lawful.1 (List.mem_of_find?_eq_some found) listed selected.1
    subst same
    split at ran
    · cases ran
    · rw [pointer]
      exact (Except.ok.inj ran).symm

theorem insertSpace_matches (consistent : db.Consistent) (agree : Agree tenantId db v) {site : SiteRow}
    (listed : site ∈ db.tables.sites) (inside : ownSite tenantId site = true) {new : SpaceRow}
    (pointer : new.siteId = some site.id) (fresh : ∀ other ∈ db.tables.spaces, own tenantId other = false → new.id ≠ other.id)
    (sensor : FreeSensor tenantId db new.sensorEui) (display : FreeDisplay tenantId db new.displayEui) :
    Matches tenantId (db.insertSpace new) (v.insertSpace new) := by
  unfold Database.insertSpace
  rw [sync_same agree listed inside (show (euiUpper new).siteId = some site.id from pointer)]
  cases ran : spacesSyncTenantId db.tables.sites (euiUpper new) with
  | error failure => rfl
  | ok row =>
    cases synced_row listed (show (euiUpper new).siteId = some site.id from pointer) ran
    have mine : own tenantId {euiUpper new with tenantId := some site.tenantId} = true := by
      unfold own
      unfold ownSite at inside
      simpa using inside
    refine commit_matches consistent ⟨rfl,?_⟩ ⟨(beside_self tenantId db).sites,?_⟩ ?_ ⟨agree.sites,?_⟩
    · dsimp only
      rw [List.filter_append,List.filter_singleton,mine]
      exact List.append_nil _
    · intro one oneIn other otherIn insideOne foreign
      rcases List.mem_append.mp oneIn with old | added
      · exact (beside_self tenantId db).spaces one old other otherIn insideOne foreign
      · cases List.mem_singleton.mp added
        exact ⟨fresh other otherIn foreign,sensor other otherIn foreign,
          fun _ alive => display other otherIn foreign alive,fun _ _ => codeKey_differ insideOne foreign⟩
    · intro one oneIn insideOne siteId pointed
      rcases List.mem_append.mp oneIn with old | added
      · exact consistent_linked consistent one old insideOne siteId pointed
      · cases List.mem_singleton.mp added
        exact ⟨site,listed,inside,Option.some.inj (pointer.symm.trans pointed)⟩
    · dsimp only
      rw [List.filter_append,List.filter_singleton,mine,agree.spaces]
      rfl

theorem createSpace_matches (consistent : db.Consistent) (agree : Agree tenantId db v) (mine : tenant.tenantId = tenantId)
    {space : SpaceCreate} {id : String} (fresh : ∀ other ∈ db.tables.spaces, own tenantId other = false → id ≠ other.id)
    (sensor : FreeSensor tenantId db space.sensorEui) (display : FreeDisplay tenantId db space.displayEui) :
    Matches tenantId (SpacesTenanted.createSpace db tenant space id now)
      (SpacesTenanted.createSpace v tenant space id now) := by
  have sites : (v.tables.sites.any fun site => site.id == space.siteId && site.tenantId == tenant.tenantId && site.isActive) =
      db.tables.sites.any fun site => site.id == space.siteId && site.tenantId == tenant.tenantId && site.isActive := by
    rw [agree.sites]
    refine any_part _ fun site _ found => ?_
    rw [Bool.and_eq_true,Bool.and_eq_true,mine] at found
    exact found.1.2
  have codes : (v.tables.spaces.any fun other => other.tenantId == some tenant.tenantId &&
      other.siteId == some space.siteId && other.code == space.code && other.deletedAt.isNone) =
        db.tables.spaces.any fun other => other.tenantId == some tenant.tenantId && other.siteId == some space.siteId &&
          other.code == space.code && other.deletedAt.isNone := by
    rw [agree.spaces]
    refine any_part _ fun other _ found => ?_
    rw [Bool.and_eq_true,Bool.and_eq_true,Bool.and_eq_true,mine] at found
    exact found.1.1.1
  unfold SpacesTenanted.createSpace
  rw [sites,codes]
  split
  · rename_i known
    split
    · rfl
    · obtain ⟨site,listed,tested⟩ := List.any_eq_true.mp known
      rw [Bool.and_eq_true,Bool.and_eq_true,beq_iff_eq,mine] at tested
      refine encoded_matches (insertSpace_matches consistent agree listed tested.1.2 ?_ fresh sensor display) _
      exact congrArg some tested.1.1.symm
  · rfl

-- A state write names no key, so no constraint stops it.
theorem setState_lawful {spaceId : String} {new : SpaceState} : Tables.Lawful {db.tables with
    spaces := db.tables.spaces.map fun space => if space.id == spaceId then changed [.state new] now space else space} := by
  have held := (lawful_iff db.tables).mp db.lawful
  let write : SpaceRow → SpaceRow := fun space => if space.id == spaceId then changed [.state new] now space else space
  have keys : ∀ space ∈ db.tables.spaces, (write space).id = space.id ∧ (write space).sensorEui = space.sensorEui ∧
      (write space).displayEui = space.displayEui ∧ (write space).deletedAt = space.deletedAt ∧
      (write space).codeKey = space.codeKey ∧ (write space).siteId = space.siteId ∧ (write space).validGps = space.validGps := by
    intro space member
    have valid := (held.2.2.1 space member).2
    obtain ⟨sensorHex,displayHex⟩ := Bool.and_eq_true_iff.mp valid
    show (ite _ _ _ : SpaceRow).id = _ ∧ _
    dsimp only [write]
    split
    · exact ⟨rfl,validEui_upper sensorHex,validEui_upper displayHex,rfl,rfl,rfl,rfl⟩
    · exact ⟨rfl,rfl,rfl,rfl,rfl,rfl,rfl⟩
  refine (lawful_iff _).mpr ⟨held.1,?_,?_,?_⟩
  · refine List.pairwise_map.mpr (held.2.1.imp_of_mem fun {one other} oneIn otherIn apart => ?_)
    obtain ⟨id,sensor,display,deleted,code,_⟩ := keys one oneIn
    obtain ⟨otherId,otherSensor,otherDisplay,otherDeleted,otherCode,_⟩ := keys other otherIn
    refine ⟨?_,?_,?_,?_⟩
    · show (write one).id ≠ (write other).id
      rw [id,otherId]
      exact apart.id
    · show Differ (write one).sensorEui (write other).sensorEui
      rw [sensor,otherSensor]
      exact apart.sensor
    · show (write one).deletedAt.isNone = true → (write other).deletedAt.isNone = true →
        Differ (write one).displayEui (write other).displayEui
      rw [deleted,otherDeleted,display,otherDisplay]
      exact apart.display
    · show (write one).deletedAt.isNone = true → (write other).deletedAt.isNone = true →
        Differ (write one).codeKey (write other).codeKey
      rw [deleted,otherDeleted,code,otherCode]
      exact apart.code
  · intro row member
    obtain ⟨space,listed,rfl⟩ := List.mem_map.mp member
    obtain ⟨_,sensor,display,_,_,_,gps⟩ := keys space listed
    show (write space).validGps = true ∧ (write space).validEui = true
    unfold SpaceRow.validEui
    rw [gps,sensor,display]
    exact held.2.2.1 space listed
  · intro row member siteId pointer
    obtain ⟨space,listed,rfl⟩ := List.mem_map.mp member
    have same : (write space).siteId = space.siteId := (keys space listed).2.2.2.2.2.1
    have pointed : (write space).siteId = some siteId := pointer
    exact held.2.2.2 space listed siteId (same ▸ pointed)

theorem setState_matches (agree : Agree tenantId db v) (spaceId : String) (new : SpaceState) :
    Matches tenantId (db.setState spaceId new now) (v.setState spaceId new now) := by
  have unsynced : ∀ assignment ∈ [Assignment.state new], assignment.synced = false := by
    intro assignment member
    cases List.mem_singleton.mp member
    rfl
  unfold Database.setState
  rw [updateSpaces_eq unsynced,updateSpaces_eq unsynced]
  unfold commit
  rw [dif_pos setState_lawful,dif_pos setState_lawful]
  refine ⟨agree.sites,?_⟩
  dsimp only
  rw [agree.spaces]
  refine (filter_updated _ fun space _ => ?_).symm
  unfold own
  split
  · rw [(changed_keys unsynced space).2.2]
  · rfl

-- What a request of another tenant may have changed: no row of this one.
def Spared (tenantId : String) (db next : Database) : Prop :=
  next.tables.sites.filter (ownSite tenantId) = db.tables.sites.filter (ownSite tenantId) ∧
    next.tables.spaces.filter (own tenantId) = db.tables.spaces.filter (own tenantId)

def Spares (tenantId : String) (db : Database) (statement : Except Failure Database) : Prop :=
  ∀ next, statement = .ok next → Spared tenantId db next

theorem spares_error (failure : Failure) : Spares tenantId db (.error failure) := by
  intro next ran
  cases ran

theorem filter_spared {α : Type} {part : α → Bool} {update : α → α} (items : List α)
    (apart : ∀ x ∈ items, update x = x ∨ part x = false ∧ part (update x) = false) :
    (items.map update).filter part = items.filter part := by
  induction items with
  | nil => rfl
  | cons x rest ih =>
    have later := ih fun y member => apart y (List.mem_cons_of_mem x member)
    rw [List.map_cons,List.filter_cons,List.filter_cons,later]
    rcases apart x List.mem_cons_self with same | ⟨before,after⟩
    · rw [same]
    · rw [before,after,if_neg Bool.false_ne_true,if_neg Bool.false_ne_true]

theorem updateWhere_spares {select : SiteRow → Bool} {change : SiteRow → SiteRow}
    (theirs : ∀ site ∈ db.tables.sites, select site = true → ownSite tenantId site = false)
    (same : ∀ site, (change site).tenantId = site.tenantId) : Spares tenantId db (Sites.updateWhere db select change) := by
  intro next ran
  unfold Spared
  rw [commit_tables ran]
  refine ⟨filter_spared _ fun site listed => ?_,rfl⟩
  split
  · rename_i selected
    refine .inr ⟨theirs site listed selected,?_⟩
    have foreign := theirs site listed selected
    unfold ownSite at foreign ⊢
    rw [same]
    exact foreign
  · exact .inl rfl

theorem updateSpaces_spares (unsynced : ∀ assignment ∈ assignments, assignment.synced = false)
    (theirs : ∀ space ∈ db.tables.spaces, select space = true → own tenantId space = false) :
    Spares tenantId db (db.updateSpaces select assignments now) := by
  intro next ran
  rw [updateSpaces_eq unsynced] at ran
  unfold Spared
  rw [commit_tables ran]
  refine ⟨rfl,filter_spared _ fun space listed => ?_⟩
  split
  · rename_i selected
    have foreign := theirs space listed selected
    refine .inr ⟨foreign,?_⟩
    unfold own at foreign ⊢
    rw [(changed_keys unsynced space).2.2]
    exact foreign
  · exact .inl rfl

theorem foreign_site {site : SiteRow} (other : tenant.tenantId ≠ tenantId) (theirs : (site.tenantId == tenant.tenantId) = true) :
    ownSite tenantId site = false := by
  unfold ownSite
  rw [beq_iff_eq.mp theirs]
  exact beq_eq_false_iff_ne.mpr other

theorem foreign_space (other : tenant.tenantId ≠ tenantId) {spaceId : String}
    (selected : SpacesTenanted.mine tenant spaceId space = true) : own tenantId space = false := by
  unfold SpacesTenanted.mine at selected
  rw [Bool.and_eq_true] at selected
  unfold own
  rw [beq_iff_eq.mp selected.2]
  exact beq_eq_false_iff_ne.mpr fun same => other (Option.some.inj same)

theorem createSite_spares (other : tenant.tenantId ≠ tenantId) (site : SiteCreate) (id : String) :
    Spares tenantId db (Sites.createSite db tenant site id) := by
  unfold Sites.createSite
  split
  · exact spares_error _
  · intro next ran
    unfold Spared
    rw [commit_tables ran]
    refine ⟨?_,rfl⟩
    dsimp only
    rw [List.filter_append,List.filter_singleton,foreign_site other (beq_self_eq_true _)]
    exact List.append_nil _

theorem updateSite_spares (other : tenant.tenantId ≠ tenantId) (siteId : String) (updates : SiteUpdate) :
    Spares tenantId db (Sites.updateSite db tenant siteId updates) := by
  unfold Sites.updateSite
  split
  · exact spares_error _
  · split
    · exact spares_error _
    · split
      · refine updateWhere_spares (fun site _ selected => ?_) fun _ => rfl
        rw [Bool.and_eq_true] at selected
        exact foreign_site other selected.2
      · exact spares_error _

theorem deleteSite_spares (other : tenant.tenantId ≠ tenantId) (siteId : String) (force : Bool) :
    Spares tenantId db (Sites.deleteSite db tenant siteId force) := by
  unfold Sites.deleteSite
  split
  · exact spares_error _
  · rename_i site found
    split
    · exact spares_error _
    · refine updateWhere_spares (fun row listed selected => ?_) fun _ => rfl
      obtain ⟨_,_,owner,only⟩ := owned_unique rfl found
      rw [only row listed (beq_iff_eq.mp selected)]
      exact foreign_site other (beq_iff_eq.mpr owner)

theorem encoded_spares {statement : Except Failure Database} (spares : Spares tenantId db statement) (metadata : Option Document) :
    Spares tenantId db (encoded metadata statement) := by
  unfold encoded
  split
  · exact spares_error _
  · exact spares

theorem createSpace_spares (other : tenant.tenantId ≠ tenantId) (space : SpaceCreate) (id : String) :
    Spares tenantId db (SpacesTenanted.createSpace db tenant space id now) := by
  unfold SpacesTenanted.createSpace
  split
  · rename_i known
    split
    · exact spares_error _
    · refine encoded_spares ?_ _
      obtain ⟨site,listed,tested⟩ := List.any_eq_true.mp known
      rw [Bool.and_eq_true,Bool.and_eq_true,beq_iff_eq,beq_iff_eq] at tested
      intro next ran
      obtain ⟨row,synced,committed⟩ := bind_ok ran
      have pointer : (euiUpper (space.row (some space.siteId) id now)).siteId = some site.id := congrArg some tested.1.1.symm
      cases synced_row listed pointer synced
      unfold Spared
      rw [commit_tables committed]
      refine ⟨rfl,?_⟩
      have foreign : own tenantId {euiUpper (space.row (some space.siteId) id now) with tenantId := some site.tenantId} = false := by
        unfold own
        rw [tested.1.2]
        exact beq_eq_false_iff_ne.mpr fun same => other (Option.some.inj same)
      dsimp only
      rw [List.filter_append,List.filter_singleton,foreign]
      exact List.append_nil _
  · exact spares_error _

theorem updateSpace_spares (other : tenant.tenantId ≠ tenantId) (spaceId : String) (u : SpaceUpdate) :
    Spares tenantId db (SpacesTenanted.updateSpace db tenant spaceId u now) := by
  unfold SpacesTenanted.updateSpace
  split
  · exact spares_error _
  · split
    · exact spares_error _
    · refine encoded_spares (updateSpaces_spares (fun named member => ?_) fun _ _ selected => ?_) _
      · exact (columns_each u named member).1
      · exact foreign_space other selected

theorem mineLive_spares (other : tenant.tenantId ≠ tenantId) (spaceId : String) {assignment : Assignment}
    (unsynced : assignment.synced = false) :
    Spares tenantId db (db.updateSpaces (SpacesTenanted.mineLive tenant spaceId) [assignment] now) := by
  refine updateSpaces_spares (fun named member => ?_) fun _ _ selected => ?_
  · rw [List.mem_singleton.mp member]
    exact unsynced
  · unfold SpacesTenanted.mineLive at selected
    rw [Bool.and_eq_true] at selected
    exact foreign_space other selected.1

theorem assign_spares (other : tenant.tenantId ≠ tenantId) (spaceId : String) {assignment : Assignment}
    (unsynced : assignment.synced = false) : Spares tenantId db (SpacesTenanted.assign db tenant spaceId assignment now) := by
  unfold SpacesTenanted.assign
  split
  · exact spares_error _
  · exact mineLive_spares other spaceId unsynced

theorem deleteSpace_spares (other : tenant.tenantId ≠ tenantId) (spaceId : String) :
    Spares tenantId db (SpacesTenanted.deleteSpace db tenant spaceId now) := by
  unfold SpacesTenanted.deleteSpace
  split
  · exact spares_error _
  · exact mineLive_spares other spaceId rfl

-- A request that carries out `setState` is everybody's: the state manager does.
def mine (tenantId : String) : Action → Bool
  | .createSite tenant .. | .updateSite tenant .. | .deleteSite tenant .. | .createSpace tenant .. | .updateSpace tenant ..
  | .deleteSpace tenant .. | .assignDevice tenant .. | .unassignDevice tenant .. => tenant.tenantId == tenantId
  | .setState .. => true
  | .routerCreate .. | .routerUpdate .. | .routerDelete .. | .routerRestore .. => false

def tenanted : Action → Bool
  | .routerCreate .. | .routerUpdate .. | .routerDelete .. | .routerRestore .. => false
  | _ => true

-- The ids that the database draws are new, and no EUI of the request is on a
-- space of another tenant.
def Clear (tenantId : String) (db : Database) : Action → Prop
  | .createSite _ _ id => ∀ other ∈ db.tables.sites, ownSite tenantId other = false → id ≠ other.id
  | .createSpace _ space id _ => (∀ other ∈ db.tables.spaces, own tenantId other = false → id ≠ other.id) ∧
      FreeSensor tenantId db space.sensorEui ∧ FreeDisplay tenantId db space.displayEui
  | .updateSpace _ _ u _ => FreeSensor tenantId db u.sensorEui.join ∧ FreeDisplay tenantId db u.displayEui.join
  | .assignDevice _ .sensor _ eui _ => FreeSensor tenantId db (some eui)
  | .assignDevice _ .display _ eui _ => FreeDisplay tenantId db (some eui)
  | _ => True

def Meets (tenantId : String) (db : Database) (action : Action) : Prop :=
  tenanted action = true ∧ (mine tenantId action = true → Clear tenantId db action)

theorem settle_matches {one other : Except Failure Database} (agree : Agree tenantId db v) (same : Matches tenantId one other) :
    (db.settle one).2 = (v.settle other).2 ∧ Agree tenantId (db.settle one).1 (v.settle other).1 := by
  cases one with
  | error failure =>
    cases other with
    | error => exact ⟨congrArg some same,agree⟩
    | ok => exact absurd same id
  | ok next =>
    cases other with
    | error => exact absurd same id
    | ok => exact ⟨rfl,same⟩

theorem settle_spares {statement : Except Failure Database} (spares : Spares tenantId db statement) :
    Spared tenantId db (db.settle statement).1 := by
  cases statement with
  | error failure => exact ⟨rfl,rfl⟩
  | ok next => exact spares next rfl

theorem Spared.agree (spared : Spared tenantId db next) (agree : Agree tenantId db v) : Agree tenantId next v :=
  ⟨agree.sites.trans spared.1.symm,agree.spaces.trans spared.2.symm⟩

theorem register_agree (device : Device) (eui : String) (agree : Agree tenantId db v) :
    Agree tenantId (device.register db eui) (device.register v eui) := by
  cases device <;> exact ⟨agree.sites,agree.spaces⟩

theorem register_spared (device : Device) (eui : String) (spared : Spared tenantId (device.register db eui) next) :
    Spared tenantId db next := by
  cases device <;> exact spared

theorem column_free {device : Device} {eui : Option String}
    (free : match device with
      | .sensor => FreeSensor tenantId db eui
      | .display => FreeDisplay tenantId db eui) : Free tenantId db [device.column eui] := by
  cases device <;> refine ⟨?_,?_,?_,?_⟩ <;> intro assignment member <;> cases List.mem_singleton.mp member
  case sensor.refine_1 | display.refine_1 => rfl
  case sensor.refine_2 =>
    rintro _ ⟨⟩
    exact free
  case display.refine_3 =>
    rintro _ ⟨⟩
    exact free
  all_goals exact fun _ given => by cases given

theorem assignDevice_seen (consistent : db.Consistent) (agree : Agree tenantId db v) (own : tenant.tenantId = tenantId)
    {device : Device} {spaceId eui : String} (clear : Clear tenantId db (.assignDevice tenant device spaceId eui now)) :
    (SpacesTenanted.assignDevice db tenant device spaceId eui now).2 =
        (SpacesTenanted.assignDevice v tenant device spaceId eui now).2 ∧
      Agree tenantId (SpacesTenanted.assignDevice db tenant device spaceId eui now).1
        (SpacesTenanted.assignDevice v tenant device spaceId eui now).1 := by
  unfold SpacesTenanted.assignDevice
  dsimp only
  by_cases hex : hexEui eui.toUpper = true
  · rw [if_pos hex,if_pos hex]
    have registered := register_agree device eui.toUpper agree
    refine settle_matches registered (assign_matches (register_consistent device consistent _) registered own (column_free ?_))
    have raised : (some eui.toUpper).map (·.toUpper) = some eui.toUpper := congrArg some (toUpper_hex hex)
    cases device with
    | sensor =>
      intro other listed foreign
      rw [raised]
      exact clear other listed foreign
    | display =>
      intro other listed foreign alive
      rw [raised]
      exact clear other listed foreign alive
  · rw [if_neg hex,if_neg hex]
    exact ⟨rfl,agree⟩

theorem serve_seen {action : Action} (consistent : db.Consistent) (agree : Agree tenantId db v)
    (met : Meets tenantId db action) (own : mine tenantId action = true) :
    (serve db action).2 = (serve v action).2 ∧ Agree tenantId (serve db action).1 (serve v action).1 := by
  have clear := met.2 own
  cases action with
  | createSite tenant site id =>
    exact settle_matches agree (createSite_matches consistent agree (beq_iff_eq.mp own) clear)
  | updateSite tenant siteId updates =>
    exact settle_matches agree (updateSite_matches consistent agree (beq_iff_eq.mp own) siteId updates)
  | deleteSite tenant siteId force =>
    exact settle_matches agree (deleteSite_matches consistent agree (beq_iff_eq.mp own) siteId force)
  | createSpace tenant space id now =>
    exact settle_matches agree (createSpace_matches consistent agree (beq_iff_eq.mp own) clear.1 clear.2.1 clear.2.2)
  | updateSpace tenant spaceId u now =>
    exact settle_matches agree (updateSpace_matches consistent agree (beq_iff_eq.mp own) clear.1 clear.2)
  | deleteSpace tenant spaceId now =>
    exact settle_matches agree (deleteSpace_matches consistent agree (beq_iff_eq.mp own) spaceId)
  | assignDevice tenant device spaceId eui now =>
    exact assignDevice_seen consistent agree (beq_iff_eq.mp own) clear
  | unassignDevice tenant device spaceId now =>
    refine settle_matches agree (assign_matches consistent agree (beq_iff_eq.mp own) (column_free ?_))
    cases device
    · exact fun _ _ _ _ given => by cases given
    · exact fun _ _ _ _ _ given => by cases given
  | setState spaceId new now => exact settle_matches agree (setState_matches agree spaceId new)
  | routerCreate | routerUpdate | routerDelete | routerRestore => cases own

theorem serve_hidden {action : Action} (agree : Agree tenantId db v) (met : Meets tenantId db action)
    (other : mine tenantId action = false) : Agree tenantId (serve db action).1 v := by
  refine Spared.agree ?_ agree
  cases action with
  | createSite tenant site id => exact settle_spares (createSite_spares (beq_eq_false_iff_ne.mp other) site id)
  | updateSite tenant siteId updates => exact settle_spares (updateSite_spares (beq_eq_false_iff_ne.mp other) siteId updates)
  | deleteSite tenant siteId force => exact settle_spares (deleteSite_spares (beq_eq_false_iff_ne.mp other) siteId force)
  | createSpace tenant space id now => exact settle_spares (createSpace_spares (beq_eq_false_iff_ne.mp other) space id)
  | updateSpace tenant spaceId u now => exact settle_spares (updateSpace_spares (beq_eq_false_iff_ne.mp other) spaceId u)
  | deleteSpace tenant spaceId now => exact settle_spares (deleteSpace_spares (beq_eq_false_iff_ne.mp other) spaceId)
  | assignDevice tenant device spaceId eui now =>
    unfold serve SpacesTenanted.assignDevice
    dsimp only
    split
    · refine register_spared device eui.toUpper (settle_spares (assign_spares (beq_eq_false_iff_ne.mp other) spaceId ?_))
      cases device <;> rfl
    · exact ⟨rfl,rfl⟩
  | unassignDevice tenant device spaceId now =>
    refine settle_spares (assign_spares (beq_eq_false_iff_ne.mp other) spaceId ?_)
    cases device <;> rfl
  | setState => cases other
  | routerCreate | routerUpdate | routerDelete | routerRestore => cases met.1

-- The database as it would be if the tenant were the only one.
def only (tenantId : String) (db : Database) (consistent : db.Consistent) : Database where
  tables := {db.tables with
    sites := db.tables.sites.filter (ownSite tenantId)
    spaces := db.tables.spaces.filter (own tenantId)}
  lawful := (lawful_alone consistent ⟨rfl,rfl⟩ (beside_self tenantId db) (consistent_linked consistent) ⟨rfl,rfl⟩).mp db.lawful

-- However the requests of all tenants and the state writes come, a tenant is
-- answered and left with rows as if it had the platform to itself. Only the
-- EUIs, which are unique across tenants, could tell.
theorem tenants_isolated (tenantId : String) {start : Database} (consistent : start.Consistent) (actions : List Action)
    (met : Along step (fun db action _ => Meets tenantId db action) start actions) :
    let together := Noninterference.serveAll serve (mine tenantId) start actions
    let alone := Noninterference.serveAll serve (fun _ => true) (only tenantId start consistent) (actions.filter (mine tenantId))
    together.2 = alone.2 ∧ alone.1.tables.sites = together.1.tables.sites.filter (ownSite tenantId) ∧
      alone.1.tables.spaces = together.1.tables.spaces.filter (own tenantId) := by
  obtain ⟨answers,agree⟩ := Noninterference.purged serve serve (mine tenantId) Database.Consistent (Agree tenantId)
    (Meets tenantId) (fun consistent _ => serve_consistent consistent _) (fun _ agree met other => serve_hidden agree met other)
    (fun consistent agree met own => serve_seen consistent agree met own) actions consistent
    (show Agree tenantId start (only tenantId start consistent) from ⟨rfl,rfl⟩) met
  exact ⟨answers,agree.sites,agree.spaces⟩

-- Requests that name no EUI.
def plain (tenantId : String) (db : Database) (action : Action) : Bool :=
  tenanted action && (!mine tenantId action ||
    match action with
    | .createSite _ _ id => db.tables.sites.all fun other => ownSite tenantId other || id != other.id
    | .createSpace _ space id _ => (db.tables.spaces.all fun other => own tenantId other || id != other.id) &&
        space.sensorEui.isNone && space.displayEui.isNone
    | .updateSpace _ _ u _ => u.sensorEui.join.isNone && u.displayEui.join.isNone
    | .assignDevice .. => false
    | _ => true)

theorem plain_meets {action : Action} (test : plain tenantId db action = true) : Meets tenantId db action := by
  unfold plain at test
  rw [Bool.and_eq_true] at test
  refine ⟨test.1,fun own => ?_⟩
  have inner := test.2
  rw [own,Bool.not_true,Bool.false_or] at inner
  have none' : ∀ {eui : Option String}, eui.isNone = true → ∀ {other : Option String}, Differ (eui.map (·.toUpper)) other := by
    intro eui absent other key given
    rw [Option.isNone_iff_eq_none.mp absent] at given
    cases given
  cases action with
  | createSite tenant site id =>
    intro other listed foreign
    have apart := List.all_eq_true.mp inner other listed
    rw [foreign] at apart
    simpa using apart
  | createSpace tenant space id now =>
    dsimp only at inner
    rw [Bool.and_eq_true,Bool.and_eq_true] at inner
    refine ⟨fun other listed foreign => ?_,fun _ _ _ => none' inner.1.2,fun _ _ _ _ => none' inner.2⟩
    have apart := List.all_eq_true.mp inner.1.1 other listed
    rw [foreign] at apart
    simpa using apart
  | updateSpace tenant spaceId u now =>
    dsimp only at inner
    rw [Bool.and_eq_true] at inner
    exact ⟨fun _ _ _ => none' inner.1,fun _ _ _ _ => none' inner.2⟩
  | assignDevice => cases inner
  | _ => trivial

def twoSites : Database :=
  ⟨⟨[mainSite,{mainSite with id := "site-2",tenantId := "tenant-2"}],[],[],[]⟩,by decide⟩

-- The other tenant tries for this one's site, and fails to delete its space.
def mingled : List Action :=
  [.createSpace (adminOf "tenant-1") {name := "Bay 1",code := "A-1",siteId := "site-1"} "space-1" 1,
   .createSpace (adminOf "tenant-2") {name := "Bay 2",code := "A-2",siteId := "site-1"} "space-2" 2,
   .createSpace (adminOf "tenant-2") {name := "Bay 3",code := "A-1",siteId := "site-2"} "space-3" 3,
   .deleteSpace (adminOf "tenant-2") "space-1" 4,.deleteSite (adminOf "tenant-1") "site-1" false]

theorem mingled_isolated : ∃ alone : Database,
    (Noninterference.serveAll serve (mine "tenant-1") twoSites mingled).2 =
        (Noninterference.serveAll serve (fun _ => true) alone (mingled.filter (mine "tenant-1"))).2 ∧
      alone.tables.sites = [mainSite] := by
  have empty : twoSites.Consistent := fun _ member => absurd member List.not_mem_nil
  have met : Along step (fun db action _ => Meets "tenant-1" db action) twoSites mingled :=
    along_tested (fun test => plain_meets test) mingled
      (show tested step (plain "tenant-1") twoSites mingled = true by decide +kernel)
  exact ⟨_,(tenants_isolated "tenant-1" empty mingled met).1,rfl⟩

end SmartParking.Spaces.Isolation
