import SmartParking.Spaces.Catalog

namespace SmartParking.Spaces.Catalog
open Lib.Runs
open Auth.ApiKeys (TenantContext)
open Audit (SpaceUpdate)

-- The row points to a site and has the tenant of that site.
def SpaceRow.Owned (sites : List SiteRow) (space : SpaceRow) : Prop :=
  ∃ site ∈ sites, space.siteId = some site.id ∧ space.tenantId = some site.tenantId

def Database.Consistent (db : Database) : Prop := ∀ space ∈ db.tables.spaces, space.Owned db.tables.sites

variable {db next : Database} {t : Tables} {sites : List SiteRow} {space row new : SpaceRow} {spaces rows : List SpaceRow}
  {tenant : TenantContext} {now : Instant} {select : SpaceRow → Bool} {assignments : List Assignment}

-- The key of `sites` makes that site the only one.
theorem SpaceRow.Owned.unique (owned : space.Owned db.tables.sites) {site : SiteRow} (listed : site ∈ db.tables.sites)
    (pointed : space.siteId = some site.id) : space.tenantId = some site.tenantId := by
  obtain ⟨other,member,pointer,same⟩ := owned
  have ids : other.id = site.id := Option.some.inj (pointer.symm.trans pointed)
  rwa [List.inj_on_of_nodup_map db.lawful.1 member listed ids] at same

theorem spacesSyncTenantId_owned (ran : spacesSyncTenantId sites new = .ok row) : row.Owned sites := by
  unfold spacesSyncTenantId at ran
  split at ran
  · cases ran
  · rename_i siteId pointer
    split at ran
    · cases ran
    · rename_i site found
      split at ran
      · cases ran
      · cases ran
        have selected := List.find?_some found
        simp only [Bool.and_eq_true,beq_iff_eq] at selected
        exact ⟨site,List.mem_of_find?_eq_some found,by rw [selected.1]; exact pointer,rfl⟩

theorem apply_unsynced {assignment : Assignment} (unsynced : assignment.synced = false) (space : SpaceRow) :
    (assignment.apply space).siteId = space.siteId ∧ (assignment.apply space).tenantId = space.tenantId := by
  cases assignment <;> first | exact ⟨rfl,rfl⟩ | cases unsynced

theorem foldl_unsynced (unsynced : ∀ assignment ∈ assignments, assignment.synced = false) (space : SpaceRow) :
    (assignments.foldl Assignment.apply space).siteId = space.siteId ∧
    (assignments.foldl Assignment.apply space).tenantId = space.tenantId := by
  induction assignments generalizing space with
  | nil => exact ⟨rfl,rfl⟩
  | cons assignment rest ih =>
    obtain ⟨site,tenant⟩ := apply_unsynced (unsynced assignment List.mem_cons_self) space
    obtain ⟨laterSite,laterTenant⟩ :=
      ih (fun other member => unsynced other (List.mem_cons_of_mem _ member)) (assignment.apply space)
    exact ⟨laterSite.trans site,laterTenant.trans tenant⟩

-- Whatever columns an UPDATE names, the row it leaves is owned.
theorem changeRow_owned (owned : space.Owned sites) (ran : changeRow sites assignments now space = .ok row) :
    row.Owned sites := by
  unfold changeRow at ran
  split at ran
  · exact spacesSyncTenantId_owned ran
  · rename_i unnamed
    have unsynced : ∀ assignment ∈ assignments, assignment.synced = false := by simpa using unnamed
    obtain ⟨siteId,tenantId⟩ := foldl_unsynced unsynced space
    cases ran
    obtain ⟨site,listed,pointer,same⟩ := owned
    exact ⟨site,listed,siteId.trans pointer,tenantId.trans same⟩

theorem bind_ok {x : Except Failure α} {f : α → Except Failure β} {b : β} (ran : x.bind f = .ok b) :
    ∃ a, x = .ok a ∧ f a = .ok b := by
  cases x with
  | error failure => cases ran
  | ok a => exact ⟨a,rfl,ran⟩

theorem map_ok {x : Except Failure α} {f : α → β} {b : β} (ran : x.map f = .ok b) : ∃ a, x = .ok a ∧ f a = b := by
  cases x with
  | error failure => cases ran
  | ok a => exact ⟨a,rfl,Except.ok.inj ran⟩

theorem changeRows_mem {change : SpaceRow → Except Failure SpaceRow} (ran : changeRows select change spaces = .ok rows)
    (member : row ∈ rows) : row ∈ spaces ∨ ∃ space ∈ spaces, change space = .ok row := by
  induction spaces generalizing rows with
  | nil => cases ran; cases member
  | cons first rest ih =>
    obtain ⟨changed,head,later⟩ := bind_ok ran
    obtain ⟨tail,remaining,rfl⟩ := map_ok later
    rcases List.mem_cons.mp member with rfl | inTail
    · split at head
      · exact .inr ⟨first,List.mem_cons_self,head⟩
      · cases head
        exact .inl List.mem_cons_self
    · rcases ih remaining inTail with kept | ⟨space,listed,moved⟩
      · exact .inl (List.mem_cons_of_mem _ kept)
      · exact .inr ⟨space,List.mem_cons_of_mem _ listed,moved⟩

theorem commit_tables (ran : commit t = .ok db) : db.tables = t := by
  unfold commit at ran
  split at ran
  · cases ran; rfl
  · cases ran

def Keeps (db : Database) (statement : Except Failure Database) : Prop :=
  ∀ next, statement = .ok next → db.Consistent → next.Consistent

theorem keeps_error (db : Database) (failure : Failure) : Keeps db (.error failure) := by
  intro next ran
  cases ran

theorem keeps_encoded {statement : Except Failure Database} (keeps : Keeps db statement) (metadata : Option Document) :
    Keeps db (encoded metadata statement) := by
  unfold encoded
  split
  · exact keeps_error db _
  · exact keeps

theorem insertSpace_keeps (db : Database) (new : SpaceRow) : Keeps db (db.insertSpace new) := by
  intro next ran consistent space member
  obtain ⟨row,synced,committed⟩ := bind_ok ran
  rw [commit_tables committed] at member ⊢
  rcases List.mem_append.mp member with old | added
  · exact consistent space old
  · rw [List.mem_singleton.mp added]
    exact spacesSyncTenantId_owned synced

theorem updateSpaces_keeps (db : Database) (select : SpaceRow → Bool) (assignments : List Assignment) (now : Instant) :
    Keeps db (db.updateSpaces select assignments now) := by
  intro next ran consistent space member
  obtain ⟨rows,changed,committed⟩ := bind_ok ran
  rw [commit_tables committed] at member ⊢
  rcases changeRows_mem changed member with old | ⟨before,listed,moved⟩
  · exact consistent space old
  · exact changeRow_owned (consistent before listed) moved

-- No UPDATE of `sites` names its key or its tenant.
theorem updateWhere_keeps (db : Database) (select : SiteRow → Bool) {change : SiteRow → SiteRow}
    (same : ∀ site, (change site).id = site.id ∧ (change site).tenantId = site.tenantId) :
    Keeps db (Sites.updateWhere db select change) := by
  intro next ran consistent space member
  rw [commit_tables ran] at member ⊢
  obtain ⟨site,listed,pointer,tenant⟩ := consistent space member
  refine ⟨_,List.mem_map_of_mem listed,?_⟩
  split
  · rw [(same site).1,(same site).2]
    exact ⟨pointer,tenant⟩
  · exact ⟨pointer,tenant⟩

theorem createSite_keeps (db : Database) (tenant : TenantContext) (site : SiteCreate) (id : String) :
    Keeps db (Sites.createSite db tenant site id) := by
  unfold Sites.createSite
  split
  · exact keeps_error db _
  · intro next ran consistent space member
    rw [commit_tables ran] at member ⊢
    obtain ⟨site,listed,owned⟩ := consistent space member
    exact ⟨site,List.mem_append_left _ listed,owned⟩

theorem updateSite_keeps (db : Database) (tenant : TenantContext) (siteId : String) (updates : SiteUpdate) :
    Keeps db (Sites.updateSite db tenant siteId updates) := by
  unfold Sites.updateSite
  split
  · exact keeps_error db _
  · split
    · exact keeps_error db _
    · split
      · exact updateWhere_keeps db _ fun _ => ⟨rfl,rfl⟩
      · exact keeps_error db _

theorem deleteSite_keeps (db : Database) (tenant : TenantContext) (siteId : String) (force : Bool) :
    Keeps db (Sites.deleteSite db tenant siteId force) := by
  unfold Sites.deleteSite
  split
  · exact keeps_error db _
  · split
    · exact keeps_error db _
    · exact updateWhere_keeps db _ fun _ => ⟨rfl,rfl⟩

theorem createSpace_keeps (db : Database) (tenant : TenantContext) (space : SpaceCreate) (id : String) (now : Instant) :
    Keeps db (SpacesTenanted.createSpace db tenant space id now) := by
  unfold SpacesTenanted.createSpace
  split
  · split
    · exact keeps_error db _
    · exact keeps_encoded (insertSpace_keeps db _) _
  · exact keeps_error db _

theorem updateSpace_keeps (db : Database) (tenant : TenantContext) (spaceId : String) (u : SpaceUpdate) (now : Instant) :
    Keeps db (SpacesTenanted.updateSpace db tenant spaceId u now) := by
  unfold SpacesTenanted.updateSpace
  split
  · exact keeps_error db _
  · split
    · exact keeps_error db _
    · exact keeps_encoded (updateSpaces_keeps db _ _ now) _

theorem deleteSpace_keeps (db : Database) (tenant : TenantContext) (spaceId : String) (now : Instant) :
    Keeps db (SpacesTenanted.deleteSpace db tenant spaceId now) := by
  unfold SpacesTenanted.deleteSpace
  split
  · exact keeps_error db _
  · exact updateSpaces_keeps db _ _ now

theorem assign_keeps (db : Database) (tenant : TenantContext) (spaceId : String) (assignment : Assignment)
    (now : Instant) : Keeps db (SpacesTenanted.assign db tenant spaceId assignment now) := by
  unfold SpacesTenanted.assign
  split
  · exact keeps_error db _
  · exact updateSpaces_keeps db _ _ now

theorem registered_keeps {statement : Except Failure Database} (keeps : Keeps db statement)
    (sensorEui displayEui : Option String) : Keeps db (SpacesRouter.registered db sensorEui displayEui statement) := by
  unfold SpacesRouter.registered
  split
  · exact keeps_error db _
  · exact keeps_error db _
  · exact keeps

theorem routerCreate_keeps (db : Database) (space : SpaceCreate) (id : String) (now : Instant) :
    Keeps db (SpacesRouter.createSpace db space id now) :=
  registered_keeps (keeps_encoded (insertSpace_keeps db _) _) _ _

theorem routerUpdate_keeps (db : Database) (spaceId : String) (u : SpaceUpdate) (now : Instant) :
    Keeps db (SpacesRouter.updateSpace db spaceId u now) := by
  unfold SpacesRouter.updateSpace
  split
  · exact keeps_error db _
  · refine registered_keeps ?_ _ _
    split
    · exact keeps_error db _
    · exact keeps_encoded (updateSpaces_keeps db _ _ now) _

theorem routerDelete_keeps (db : Database) (spaceId : String) (force : Bool) (activeReservations : Nat)
    (now : Instant) : Keeps db (SpacesRouter.deleteSpace db spaceId force activeReservations now) := by
  unfold SpacesRouter.deleteSpace
  split
  · exact keeps_error db _
  · split
    · exact keeps_error db _
    · split
      · exact keeps_error db _
      · exact updateSpaces_keeps db _ _ now

theorem routerRestore_keeps (db : Database) (spaceId : String) (now : Instant) :
    Keeps db (SpacesRouter.restoreSpace db spaceId now) := by
  unfold SpacesRouter.restoreSpace
  split
  · exact keeps_error db _
  · split
    · exact keeps_error db _
    · exact updateSpaces_keeps db _ _ now

theorem settle_consistent {statement : Except Failure Database} (keeps : Keeps db statement)
    (consistent : db.Consistent) : (db.settle statement).1.Consistent := by
  cases statement with
  | ok next => exact keeps next rfl consistent
  | error failure => exact consistent

theorem register_consistent (device : Device) (consistent : db.Consistent) (eui : String) :
    (device.register db eui).Consistent := by
  cases device <;> exact consistent

theorem serve_consistent (consistent : db.Consistent) (action : Action) : (serve db action).1.Consistent := by
  cases action with
  | createSite tenant site id => exact settle_consistent (createSite_keeps db tenant site id) consistent
  | updateSite tenant siteId updates => exact settle_consistent (updateSite_keeps db tenant siteId updates) consistent
  | deleteSite tenant siteId force => exact settle_consistent (deleteSite_keeps db tenant siteId force) consistent
  | createSpace tenant space id now => exact settle_consistent (createSpace_keeps db tenant space id now) consistent
  | updateSpace tenant spaceId u now => exact settle_consistent (updateSpace_keeps db tenant spaceId u now) consistent
  | deleteSpace tenant spaceId now => exact settle_consistent (deleteSpace_keeps db tenant spaceId now) consistent
  | assignDevice tenant device spaceId eui now =>
    unfold serve SpacesTenanted.assignDevice
    dsimp only
    split
    · exact settle_consistent (assign_keeps _ tenant spaceId _ now) (register_consistent device consistent _)
    · exact consistent
  | unassignDevice tenant device spaceId now => exact settle_consistent (assign_keeps db tenant spaceId _ now) consistent
  | routerCreate space id now => exact settle_consistent (routerCreate_keeps db space id now) consistent
  | routerUpdate spaceId u now => exact settle_consistent (routerUpdate_keeps db spaceId u now) consistent
  | routerDelete spaceId force activeReservations now =>
    exact settle_consistent (routerDelete_keeps db spaceId force activeReservations now) consistent
  | routerRestore spaceId now => exact settle_consistent (routerRestore_keeps db spaceId now) consistent
  | setState spaceId new now => exact settle_consistent (updateSpaces_keeps db _ _ now) consistent

-- The denormalized tenant of a space stays that of its site.
theorem tenancy_kept {start : Database} (consistent : start.Consistent)
    (path : Reached step (fun _ _ => True) start db) :
    ∀ space ∈ db.tables.spaces, (∃ site ∈ db.tables.sites, space.siteId = some site.id) ∧
      ∀ site ∈ db.tables.sites, space.siteId = some site.id → space.tenantId = some site.tenantId := by
  have valid : db.Consistent := by
    refine path.invariant Database.Consistent consistent ?_
    intro db action next valid _ ran
    cases ran
    exact serve_consistent valid action
  intro space member
  refine ⟨?_,fun site listed pointed => (valid space member).unique listed pointed⟩
  obtain ⟨site,listed,pointed,_⟩ := valid space member
  exact ⟨site,listed,pointed⟩

def mainSite : SiteRow := ⟨"site-1","tenant-1","Main Site","UTC",none,none,true⟩

def oneSite : Database := ⟨⟨[mainSite],[],[],[]⟩,by decide⟩

def adminOf (tenantId : String) : TenantContext where
  tenantId := tenantId
  tenantName := "Acme"
  tenantSlug := "acme"
  userRole := some .admin
  source := .jwt

-- A site deactivated by force keeps its spaces, and takes no further one.
theorem tenancy_kept_forced : ∃ db : Database,
    Reached step (fun _ _ => True) oneSite db ∧ db.tables.spaces.map (·.code) = ["A-2"] ∧
      (∃ site ∈ db.tables.sites, site.id = "site-1" ∧ site.isActive = false) ∧
      ∀ space ∈ db.tables.spaces, (∃ site ∈ db.tables.sites, space.siteId = some site.id) ∧
        ∀ site ∈ db.tables.sites, space.siteId = some site.id → space.tenantId = some site.tenantId := by
  have empty : oneSite.Consistent := fun _ member => absurd member List.not_mem_nil
  have begun : Reached step (fun _ _ => True) oneSite oneSite := .refl
  obtain ⟨db,path,codes,inactive⟩ := begun.found (fun _ _ => true)
    (fun db => db.tables.spaces.map (·.code) = ["A-2"] ∧
      ∃ site ∈ db.tables.sites, site.id = "site-1" ∧ site.isActive = false)
    [.createSpace (adminOf "tenant-1") {name := "Bay 1",code := "A-1",siteId := "site-1"} "space-1" 1,
     .createSpace (adminOf "tenant-2") {name := "Bay 2",code := "A-2",siteId := "site-1"} "space-2" 2,
     .updateSpace (adminOf "tenant-1") "space-1" {code := some (some "A-2")} 3,
     .deleteSite (adminOf "tenant-1") "site-1" false,.deleteSite (adminOf "tenant-1") "site-1" true,
     .createSpace (adminOf "tenant-1") {name := "Bay 3",code := "A-3",siteId := "site-1"} "space-3" 4]
    (fun _ _ => trivial) (by decide +kernel)
  exact ⟨db,path,codes,inactive,tenancy_kept empty path⟩

end SmartParking.Spaces.Catalog
