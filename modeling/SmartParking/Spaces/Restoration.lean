import SmartParking.Spaces.Isolation

namespace SmartParking.Spaces.Restoration
open Lib Lib.Runs
open Auth.ApiKeys (TenantContext)
open Audit (SpaceUpdate)
open Catalog Isolation

variable {db next : Database} {tenant : TenantContext} {now time : Instant} {space row : SpaceRow}
  {assignments : List Assignment} {select : SpaceRow → Bool} {statement : Except Failure Database}

theorem same_id (member : row ∈ db.tables.spaces) (other : space ∈ db.tables.spaces) (same : space.id = row.id) :
    space = row :=
  List.inj_on_of_nodup_map db.lawful.2.2.1 other member same

section Kept

-- A statement after which the row is there as before.
def Retains (row : SpaceRow) (statement : Except Failure Database) : Prop :=
  ∀ next, statement = .ok next → row ∈ next.tables.spaces

theorem retains_error (failure : Failure) : Retains row (.error failure) := by
  intro next ran
  cases ran

theorem retains_encoded (retains : Retains row statement) (metadata : Option Document) :
    Retains row (encoded metadata statement) := by
  unfold encoded
  split
  · exact retains_error _
  · exact retains

theorem retains_registered (retains : Retains row statement) (sensorEui displayEui : Option String) :
    Retains row (SpacesRouter.registered db sensorEui displayEui statement) := by
  unfold SpacesRouter.registered
  split
  · exact retains_error _
  · exact retains_error _
  · exact retains

theorem changeRows_retains {change : SpaceRow → Except Failure SpaceRow} {spaces rows : List SpaceRow}
    (ran : changeRows select change spaces = .ok rows) (member : row ∈ spaces) (unselected : select row = false) :
    row ∈ rows := by
  induction spaces generalizing rows with
  | nil => exact absurd member List.not_mem_nil
  | cons first rest ih =>
    obtain ⟨changed,head,later⟩ := bind_ok ran
    obtain ⟨tail,remaining,rfl⟩ := map_ok later
    rcases List.mem_cons.mp member with rfl | inRest
    · rw [unselected] at head
      cases head
      exact List.mem_cons_self
    · exact List.mem_cons_of_mem _ (ih remaining inRest)

theorem updateSpaces_retains (member : row ∈ db.tables.spaces) (unselected : select row = false) :
    Retains row (db.updateSpaces select assignments now) := by
  intro next ran
  obtain ⟨rows,changed,committed⟩ := bind_ok ran
  rw [commit_tables committed]
  exact changeRows_retains changed member unselected

theorem insertSpace_retains (member : row ∈ db.tables.spaces) (new : SpaceRow) : Retains row (db.insertSpace new) := by
  intro next ran
  obtain ⟨added,_,committed⟩ := bind_ok ran
  rw [commit_tables committed]
  exact List.mem_append_left _ member

theorem commit_retains {t : Tables} (member : row ∈ t.spaces) : Retains row (commit t) := by
  intro next ran
  rw [commit_tables ran]
  exact member

theorem assign_retains (member : row ∈ db.tables.spaces) (gone : row.deletedAt.isNone = false) (spaceId : String)
    (assignment : Assignment) : Retains row (SpacesTenanted.assign db tenant spaceId assignment now) := by
  unfold SpacesTenanted.assign
  split
  · exact retains_error _
  · refine updateSpaces_retains member ?_
    rw [SpacesTenanted.mineLive,gone,Bool.and_false]

theorem deleteSpace_retains (member : row ∈ db.tables.spaces) (gone : row.deletedAt.isNone = false) (spaceId : String) :
    Retains row (SpacesTenanted.deleteSpace db tenant spaceId now) := by
  unfold SpacesTenanted.deleteSpace
  split
  · exact retains_error _
  · refine updateSpaces_retains member ?_
    rw [SpacesTenanted.mineLive,gone,Bool.and_false]

-- A live row of an id is not the deleted one, and no other row has its id.
theorem live_apart {spaceId : String} (member : row ∈ db.tables.spaces) (gone : row.deletedAt.isNone = false)
    (found : db.space select = some space)
    (selected : select space = true → space.id = spaceId ∧ space.deletedAt.isNone = true) : row.id ≠ spaceId := by
  intro same
  obtain ⟨named,live⟩ := selected (List.find?_some found)
  have equal := same_id member (List.mem_of_find?_eq_some found) (named.trans same.symm)
  rw [equal,gone] at live
  cases live

theorem updateSpace_retains (member : row ∈ db.tables.spaces) (gone : row.deletedAt.isNone = false) (spaceId : String)
    (u : SpaceUpdate) : Retains row (SpacesTenanted.updateSpace db tenant spaceId u now) := by
  unfold SpacesTenanted.updateSpace
  split
  · exact retains_error _
  · rename_i found
    have apart : row.id ≠ spaceId := by
      refine live_apart member gone found fun selected => ?_
      simp only [SpacesTenanted.mineLive,SpacesTenanted.mine,Bool.and_eq_true,beq_iff_eq] at selected
      exact ⟨selected.1.1,selected.2⟩
    split
    · exact retains_error _
    · refine retains_encoded (updateSpaces_retains member ?_) _
      simp [SpacesTenanted.mine,apart]

theorem routerUpdate_retains (member : row ∈ db.tables.spaces) (gone : row.deletedAt.isNone = false) (spaceId : String)
    (u : SpaceUpdate) : Retains row (SpacesRouter.updateSpace db spaceId u now) := by
  unfold SpacesRouter.updateSpace
  split
  · exact retains_error _
  · rename_i found
    have apart : row.id ≠ spaceId := by
      refine live_apart member gone found fun selected => ?_
      simp only [SpacesRouter.liveById,Bool.and_eq_true,beq_iff_eq] at selected
      exact selected
    refine retains_registered ?_ _ _
    split
    · exact retains_error _
    · refine retains_encoded (updateSpaces_retains member ?_) _
      simpa using apart

theorem routerDelete_retains (member : row ∈ db.tables.spaces) (gone : row.deletedAt.isNone = false) (spaceId : String)
    (force : Bool) (activeReservations : Nat) :
    Retains row (SpacesRouter.deleteSpace db spaceId force activeReservations now) := by
  unfold SpacesRouter.deleteSpace
  split
  · exact retains_error _
  · rename_i existing found
    split
    · exact retains_error _
    · split
      · exact retains_error _
      · rename_i alive _
        have apart : row.id ≠ spaceId := by
          refine live_apart member gone found fun selected => ?_
          refine ⟨by simpa using selected,?_⟩
          rw [Option.isNone_iff_eq_none]
          simpa using alive
        refine updateSpaces_retains member ?_
        simpa using apart

end Kept

-- The requests that may undo a deletion or write to a deleted row.
def Leaves (spaceId : String) (_ : Database) : Action → Prop
  | .routerRestore id _ | .setState id _ _ => id ≠ spaceId
  | _ => True

theorem settle_retains (member : row ∈ db.tables.spaces) (retains : Retains row statement) :
    row ∈ (db.settle statement).1.tables.spaces := by
  cases statement with
  | error failure => exact member
  | ok next => exact retains next rfl

theorem serve_retains (member : row ∈ db.tables.spaces) (gone : row.deletedAt.isNone = false) (action : Action)
    (leaves : Leaves row.id db action) : row ∈ (serve db action).1.tables.spaces := by
  cases action with
  | createSite tenant site id =>
    refine settle_retains member ?_
    unfold Sites.createSite
    split
    · exact retains_error _
    · exact commit_retains member
  | updateSite tenant siteId updates =>
    refine settle_retains member ?_
    unfold Sites.updateSite
    split
    · exact retains_error _
    · split
      · exact retains_error _
      · split
        · exact commit_retains member
        · exact retains_error _
  | deleteSite tenant siteId force =>
    refine settle_retains member ?_
    unfold Sites.deleteSite
    split
    · exact retains_error _
    · split
      · exact retains_error _
      · exact commit_retains member
  | createSpace tenant space id now =>
    refine settle_retains member ?_
    unfold SpacesTenanted.createSpace
    split
    · split
      · exact retains_error _
      · exact retains_encoded (insertSpace_retains member _) _
    · exact retains_error _
  | updateSpace tenant spaceId u now => exact settle_retains member (updateSpace_retains member gone spaceId u)
  | deleteSpace tenant spaceId now => exact settle_retains member (deleteSpace_retains member gone spaceId)
  | assignDevice tenant device spaceId eui now =>
    unfold serve SpacesTenanted.assignDevice
    dsimp only
    split
    · have registered : row ∈ (device.register db eui.toUpper).tables.spaces := by cases device <;> exact member
      exact settle_retains registered (assign_retains registered gone spaceId _)
    · exact member
  | unassignDevice tenant device spaceId now => exact settle_retains member (assign_retains member gone spaceId _)
  | routerCreate space id now =>
    exact settle_retains member (retains_registered (retains_encoded (insertSpace_retains member _) _) _ _)
  | routerUpdate spaceId u now => exact settle_retains member (routerUpdate_retains member gone spaceId u)
  | routerDelete spaceId force activeReservations now =>
    exact settle_retains member (routerDelete_retains member gone spaceId force activeReservations)
  | routerRestore spaceId now =>
    refine settle_retains member ?_
    unfold SpacesRouter.restoreSpace
    split
    · exact retains_error _
    · split
      · exact retains_error _
      · exact updateSpaces_retains member (by simpa using Ne.symm leaves)
  | setState spaceId new now =>
    exact settle_retains member (updateSpaces_retains member (by simpa using Ne.symm leaves))

theorem reached_retains (path : Reached step (Leaves row.id) db next) (member : row ∈ db.tables.spaces)
    (gone : row.deletedAt.isNone = false) : row ∈ next.tables.spaces := by
  refine path.invariant (row ∈ ·.tables.spaces) member ?_
  intro s action after held leaves ran
  cases ran
  exact serve_retains held gone action leaves

section Restored

-- No live row has the display or the code of the space.
def Vacant (t : Tables) (space : SpaceRow) : Prop :=
  ∀ other ∈ t.spaces, other.deletedAt.isNone = true →
    Differ space.displayEui other.displayEui ∧ Differ space.codeKey other.codeKey

def restored (row : SpaceRow) (now : Instant) : SpaceRow := {row with deletedAt := none,updatedAt := now}

def restoredTables (t : Tables) (row : SpaceRow) (now : Instant) : Tables :=
  {t with spaces := t.spaces.map fun space => if space.id == row.id then restored row now else space}

theorem changed_deleted (member : row ∈ db.tables.spaces) (deletedAt : Option Instant) :
    changed [.deletedAt deletedAt] now row = {row with deletedAt := deletedAt,updatedAt := now} := by
  have valid := ((lawful_iff db.tables).mp db.lawful).2.2.1 row member
  obtain ⟨sensor,display⟩ := Bool.and_eq_true_iff.mp valid.2
  show SpaceRow.mk _ _ _ _ _ _ _ _ (row.sensorEui.map (·.toUpper)) (row.displayEui.map (·.toUpper)) _ _ _ _ _ _ _ = _
  rw [validEui_upper sensor,validEui_upper display]
  rfl

theorem updateSpaces_deleted (member : row ∈ db.tables.spaces) (deletedAt : Option Instant)
    (selects : ∀ space ∈ db.tables.spaces, select space = (space.id == row.id)) :
    db.updateSpaces select [.deletedAt deletedAt] now = commit {db.tables with spaces := db.tables.spaces.map fun space =>
      if space.id == row.id then {row with deletedAt := deletedAt,updatedAt := now} else space} := by
  rw [updateSpaces_eq (fun assignment listed => by rw [List.mem_singleton.mp listed]; rfl)]
  have same : (db.tables.spaces.map fun space => if select space then changed [.deletedAt deletedAt] now space else space) =
      db.tables.spaces.map fun space =>
        if space.id == row.id then {row with deletedAt := deletedAt,updatedAt := now} else space := by
    refine List.map_congr_left fun space listed => ?_
    rw [selects space listed]
    split
    · rename_i named
      rw [same_id member listed (beq_iff_eq.mp named)]
      exact changed_deleted member deletedAt
    · rfl
  rw [same]

theorem restoreSpace_eq (member : row ∈ db.tables.spaces) (gone : row.deletedAt.isNone = false) :
    SpacesRouter.restoreSpace db row.id now = commit (restoredTables db.tables row now) := by
  have found : db.space (·.id == row.id) = some row := by
    cases looked : db.space (·.id == row.id) with
    | none =>
      have missed := List.find?_eq_none.mp looked row member
      simp at missed
    | some other =>
      have first : db.tables.spaces.find? (·.id == row.id) = some other := looked
      have named := List.find?_some first
      rw [same_id member (List.mem_of_find?_eq_some first) (beq_iff_eq.mp named)]
  unfold SpacesRouter.restoreSpace
  simp only [found,gone,Bool.false_eq_true,if_false]
  exact updateSpaces_deleted member none fun _ _ => rfl

theorem commit_ok {t : Tables} : (∃ next, commit t = .ok next) ↔ t.Lawful := by
  unfold commit
  split
  · rename_i lawful
    exact iff_of_true ⟨_,rfl⟩ lawful
  · rename_i unlawful
    refine iff_of_false ?_ unlawful
    rintro ⟨next,ran⟩
    cases ran

-- The other rows stand beside one another as they did.
theorem restored_pairs (member : row ∈ db.tables.spaces) :
    (restoredTables db.tables row now).spaces.Pairwise SpaceApart ↔
      ∀ other ∈ db.tables.spaces, other.id ≠ row.id → SpaceApart (restored row now) other := by
  have pairs := ((lawful_iff db.tables).mp db.lawful).2.1
  obtain ⟨before,after,split⟩ := List.append_of_mem member
  rw [split,List.pairwise_middle fun apart => apart.symm,List.pairwise_cons] at pairs
  obtain ⟨apart,rest⟩ := pairs
  have kept : ∀ part : List SpaceRow, part ⊆ before ++ after →
      (part.map fun space => if space.id == row.id then restored row now else space) = part := by
    intro part inside
    refine (List.map_congr_left fun space listed => ?_).trans (List.map_id part)
    have other := (apart space (inside listed)).id
    simp [Ne.symm other]
  have replaced : (restoredTables db.tables row now).spaces = before ++ restored row now::after := by
    show db.tables.spaces.map _ = _
    rw [split,List.map_append,List.map_cons,kept before (List.subset_append_left _ _),
      kept after (List.subset_append_right _ _),beq_self_eq_true,if_pos rfl]
  rw [replaced,List.pairwise_middle fun apart => apart.symm,List.pairwise_cons,split]
  constructor
  · rintro ⟨beside,_⟩ other listed different
    refine beside other ?_
    rcases List.mem_append.mp listed with earlier | later
    · exact List.mem_append_left _ earlier
    · rcases List.mem_cons.mp later with rfl | later
      · exact absurd rfl different
      · exact List.mem_append_right _ later
  · intro beside
    refine ⟨fun other listed => beside other ?_ (apart other listed).id.symm,rest⟩
    rcases List.mem_append.mp listed with earlier | later
    · exact List.mem_append_left _ earlier
    · exact List.mem_append_right _ (List.mem_cons_of_mem _ later)

theorem restored_lawful (member : row ∈ db.tables.spaces) (gone : row.deletedAt.isNone = false) :
    (restoredTables db.tables row now).Lawful ↔ Vacant db.tables row := by
  have lawful := (lawful_iff db.tables).mp db.lawful
  have stored : ∀ space ∈ (restoredTables db.tables row now).spaces,
      space ∈ db.tables.spaces ∨ space = restored row now := by
    intro space listed
    obtain ⟨old,was,rfl⟩ := List.mem_map.mp listed
    split
    · exact .inr rfl
    · exact .inl was
  rw [lawful_iff,restored_pairs member]
  constructor
  · rintro ⟨_,beside,_⟩ other listed live
    have different : other.id ≠ row.id := by
      intro same
      rw [same_id member listed same,gone] at live
      cases live
    have apart := beside other listed different
    exact ⟨apart.display rfl live,apart.code rfl live⟩
  · intro vacant
    refine ⟨lawful.1,fun other listed different => ?_,fun space listed => ?_,fun space listed => ?_⟩
    · have symmetric : Std.Symm SpaceApart := ⟨SpaceApart.symm⟩
      have apart := lawful.2.1.forall member listed fun same => different (by rw [same])
      exact ⟨apart.id,apart.sensor,fun _ live => (vacant other listed live).1,fun _ live => (vacant other listed live).2⟩
    · rcases stored space listed with old | rfl
      · exact lawful.2.2.1 space old
      · exact lawful.2.2.1 row member
    · rcases stored space listed with old | rfl
      · exact lawful.2.2.2 space old
      · exact lawful.2.2.2 row member

-- The two routes of a soft delete.
inductive Deletes (spaceId : String) (time : Instant) : Action → Prop where
  | tenanted (tenant : TenantContext) : Deletes spaceId time (.deleteSpace tenant spaceId time)
  | router (force : Bool) (activeReservations : Nat) :
      Deletes spaceId time (.routerDelete spaceId force activeReservations time)

def deletedRow (space : SpaceRow) (time : Instant) : SpaceRow := {space with deletedAt := some time,updatedAt := time}

theorem settle_ok (settled : db.settle statement = (next,none)) : statement = .ok next := by
  cases statement with
  | error failure => cases settled
  | ok changed => cases settled; rfl

theorem updateSpaces_marks (member : space ∈ db.tables.spaces)
    (selects : ∀ other ∈ db.tables.spaces, select other = (other.id == space.id))
    (ran : db.updateSpaces select [.deletedAt (some time)] time = .ok next) :
    deletedRow space time ∈ next.tables.spaces := by
  rw [updateSpaces_deleted member (some time) selects] at ran
  rw [commit_tables ran]
  refine List.mem_map.mpr ⟨space,member,?_⟩
  rw [beq_self_eq_true,if_pos rfl]
  rfl

theorem deletes_marks {action : Action} (member : space ∈ db.tables.spaces) (deletes : Deletes space.id time action)
    (accepted : serve db action = (next,none)) : deletedRow space time ∈ next.tables.spaces := by
  cases deletes with
  | tenanted tenant =>
    have ran := settle_ok accepted
    unfold SpacesTenanted.deleteSpace at ran
    split at ran
    · cases ran
    · rename_i found looked
      refine updateSpaces_marks member (fun other listed => ?_) ran
      have looked : db.tables.spaces.find? (SpacesTenanted.mineLive tenant space.id) = some found := looked
      have selected := List.find?_some looked
      have named : found.id = space.id := by
        simp only [SpacesTenanted.mineLive,SpacesTenanted.mine,Bool.and_eq_true,beq_iff_eq] at selected
        exact selected.1.1
      rw [same_id member (List.mem_of_find?_eq_some looked) named] at selected
      by_cases same : other.id = space.id
      · rw [same_id member listed same,selected,beq_self_eq_true]
      · have apart : (other.id == space.id) = false := beq_eq_false_iff_ne.mpr same
        rw [SpacesTenanted.mineLive,SpacesTenanted.mine,apart,Bool.false_and,Bool.false_and]
  | router force activeReservations =>
    have ran := settle_ok accepted
    unfold SpacesRouter.deleteSpace at ran
    split at ran
    · cases ran
    · split at ran
      · cases ran
      · split at ran
        · cases ran
        · exact updateSpaces_marks member (fun _ _ => rfl) ran

-- A deleted space comes back as it was, whatever happened in between, exactly
-- if no live space has taken its display or its code.
theorem deleted_restored {mid s : Database} {action : Action} (member : space ∈ db.tables.spaces)
    (live : space.deletedAt = none) (deletes : Deletes space.id time action) (accepted : serve db action = (mid,none))
    (path : Reached step (Leaves space.id) mid s) :
    ((∃ next, SpacesRouter.restoreSpace s space.id now = .ok next) ↔ Vacant s.tables space) ∧
    ∀ next, SpacesRouter.restoreSpace s space.id now = .ok next →
      next.tables = {s.tables with spaces := s.tables.spaces.map fun row =>
        if row.id == space.id then {space with updatedAt := now} else row} := by
  have marked := deletes_marks member deletes accepted
  have held : deletedRow space time ∈ s.tables.spaces := reached_retains path marked rfl
  have ran : SpacesRouter.restoreSpace s (deletedRow space time).id now =
      commit (restoredTables s.tables (deletedRow space time) now) := restoreSpace_eq held rfl
  have ran : SpacesRouter.restoreSpace s space.id now = commit (restoredTables s.tables (deletedRow space time) now) := ran
  have back : restored (deletedRow space time) now = {space with updatedAt := now} := by
    rw [restored,deletedRow,←live]
  rw [ran]
  refine ⟨commit_ok.trans (restored_lawful held rfl),fun next committed => ?_⟩
  rw [commit_tables committed,restoredTables,back]
  rfl

end Restored

def bay : SpaceRow :=
  {SpaceCreate.row {name := "Bay 1",code := "A-1",siteId := "site-1"} (some "site-1") "space-1" 0 with
    tenantId := some "tenant-1"}

def oneBay : Database := ⟨⟨[mainSite],[bay],[],[]⟩,by decide⟩

def bayDeleted : Database := (serve oneBay (.deleteSpace (adminOf "tenant-1") "space-1" 5)).1

def unmoved (_ : Database) : Action → Bool
  | .routerRestore id _ | .setState id _ _ => id ≠ "space-1"
  | _ => true

theorem unmoved_sound (test : unmoved db action = true) : Leaves "space-1" db action := by
  cases action with
  | routerRestore id now | setState id new now => simpa [unmoved,Leaves] using test
  | _ => trivial

-- The code of the space is given to another one, which keeps it from coming
-- back.
theorem deleted_restored_taken : ∃ s : Database, (¬∃ next, SpacesRouter.restoreSpace s "space-1" 9 = .ok next) ∧
    ((∃ next, SpacesRouter.restoreSpace s "space-1" 9 = .ok next) ↔ Vacant s.tables bay) ∧
    ∀ next, SpacesRouter.restoreSpace s "space-1" 9 = .ok next →
      next.tables = {s.tables with spaces := s.tables.spaces.map fun row =>
        if row.id == "space-1" then {bay with updatedAt := 9} else row} := by
  have start : Reached step (Leaves "space-1") bayDeleted bayDeleted := .refl
  obtain ⟨s,path,refused⟩ := start.found unmoved
    (fun s => (SpacesRouter.restoreSpace s "space-1" 9).toOption.isNone)
    [.createSpace (adminOf "tenant-1") {name := "Bay 2",code := "A-1",siteId := "site-1"} "space-2" 6]
    (fun _ => unmoved_sound) (by decide +kernel)
  have accepted : serve oneBay (.deleteSpace (adminOf "tenant-1") "space-1" 5) = (bayDeleted,none) :=
    Prod.ext rfl (by decide +kernel)
  have member : bay ∈ oneBay.tables.spaces := List.mem_singleton_self bay
  refine ⟨s,?_,deleted_restored member rfl (.tenanted (adminOf "tenant-1")) accepted path⟩
  rintro ⟨next,ran⟩
  rw [ran] at refused
  cases refused

end SmartParking.Spaces.Restoration
