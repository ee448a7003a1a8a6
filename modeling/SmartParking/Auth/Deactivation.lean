import SmartParking.Auth.CurrentTenant
import SmartParking.Lib.Lists

namespace SmartParking.Auth.Deactivation
open Lib Lib.Runs
open ApiKeys (UserRole TenantContext HttpError Tenant requireRole roleHierarchy)
open CurrentTenant

-- The roles that rank at least one: VIEWER < OPERATOR < ADMIN < OWNER.
def upward : UserRole → List UserRole
  | .viewer => [.viewer,.operator,.admin,.owner]
  | .operator => [.operator,.admin,.owner]
  | .admin => [.admin,.owner]
  | .owner => [.owner]
  | .platformAdmin => []

-- A request for an endpoint of a role, with what its token decodes to then.
structure Request where
  decodeAccessToken : String → Option TokenData
  checkpw : String → String → Bool
  credentials : Option String
  apiKey : Option String
  minimumRole : UserRole

def Request.token (request : Request) : Option TokenData := tokenData request.decodeAccessToken request.credentials

def Request.serve (request : Request) (db : Contents) : Except HttpError TenantContext :=
  checkRole request.decodeAccessToken request.checkpw request.minimumRole db request.credentials request.apiKey

-- Changes of the database that make nothing active again. Keys do not matter to
-- a token.
inductive Change where
  | deactivateUser (userId : String)
  | deactivateMembership (userId tenantId : String)
  | deactivateTenant (tenantId : String)
  | assignRole (userId tenantId role : String)
  | replaceKeys (keys : ApiKeys.Table)

def Change.apply (db : Contents) : Change → Contents
  | .deactivateUser userId =>
    {db with users := db.users.map fun user => if user.id = userId then {user with isActive := false} else user}
  | .deactivateMembership userId tenantId =>
    {db with memberships := db.memberships.map fun membership =>
      if membership.userId = userId ∧ membership.tenantId = tenantId then {membership with isActive := false}
      else membership}
  | .deactivateTenant tenantId =>
    {db with tenants := db.tenants.map fun tenant =>
      if tenant.id = tenantId then {tenant with isActive := false} else tenant}
  | .assignRole userId tenantId role =>
    {db with memberships := db.memberships.map fun membership =>
      if membership.userId = userId ∧ membership.tenantId = tenantId then {membership with role := role}
      else membership}
  | .replaceKeys keys => {db with keys := keys}

-- The deactivations that take something from a token.
def Change.ends (data : TokenData) : Change → Prop
  | .deactivateUser userId => userId = data.userId
  | .deactivateMembership userId tenantId => userId = data.userId ∧ tenantId = data.tenantId
  | .deactivateTenant tenantId => tenantId = data.tenantId
  | _ => False

inductive Event where
  | change (change : Change)
  | request (request : Request)

def step (db : Contents) : Event → Option Contents
  | .change change => some (change.apply db)
  | .request _ => some db

-- A request is admitted by the token through the JWT path.
def AdmittedBy (data : TokenData) (db : Contents) : Event → Prop
  | .request request => request.token = some data ∧ ∃ tenant, request.serve db = .ok tenant ∧ tenant.source = .jwt
  | .change _ => False

variable {db : Contents} {data : TokenData} {tenant admitted : TenantContext} {role minimumRole : UserRole}
  {request : Request} {change : Change} {event : Event}

theorem requireRole_jwt (accepted : requireRole minimumRole tenant = .ok admitted) (source : tenant.source = .jwt)
    (held : tenant.userRole = some role) : role ∈ upward minimumRole := by
  unfold requireRole at accepted
  rw [source,held] at accepted
  dsimp only at accepted
  split at accepted
  · cases accepted
  · rename_i ranked
    revert ranked
    cases role <;> cases minimumRole <;> decide

theorem requireRole_same (accepted : requireRole minimumRole tenant = .ok admitted) : admitted = tenant := by
  unfold requireRole at accepted
  split at accepted
  · exact (Except.ok.inj accepted).symm
  · split at accepted
    · cases accepted
    · split at accepted
      · cases accepted
      · exact (Except.ok.inj accepted).symm

-- Only a token that the database supports makes a context of source jwt.
theorem getCurrentTenant_jwt {decodeAccessToken : String → Option TokenData} {checkpw : String → String → Bool}
    {credentials apiKey : Option String}
    (accepted : getCurrentTenant decodeAccessToken checkpw db credentials apiKey = .ok tenant)
    (source : tenant.source = .jwt) :
    ∃ data, tokenData decodeAccessToken credentials = some data ∧ resolveTenantFromJwt db data = some tenant := by
  unfold getCurrentTenant at accepted
  split at accepted
  · rename_i resolved
    cases accepted
    exact Option.bind_eq_some_iff.mp resolved
  · split at accepted
    · rename_i keyed
      cases accepted
      rw [keyContext_source keyed] at source
      cases source
    · cases accepted

theorem serve_supported (accepted : request.serve db = .ok admitted) (source : admitted.source = .jwt) :
    ∃ data user membership row role, request.token = some data ∧ Stands db data user membership row ∧
      parseRole membership.role = some role ∧ role ∈ upward request.minimumRole := by
  unfold Request.serve checkRole at accepted
  cases resolved : getCurrentTenant request.decodeAccessToken request.checkpw db request.credentials request.apiKey with
  | error error =>
    rw [resolved] at accepted
    cases accepted
  | ok tenant =>
    rw [resolved] at accepted
    have required : requireRole request.minimumRole tenant = .ok admitted := accepted
    have same := requireRole_same required
    subst same
    obtain ⟨data,decoded,supported⟩ := getCurrentTenant_jwt resolved source
    obtain ⟨user,membership,row,role,stands,parsed,_,held,_⟩ := resolveTenantFromJwt_supported supported
    exact ⟨data,user,membership,row,role,decoded,stands,parsed,requireRole_jwt required source held⟩

-- Nothing in the database stands behind the token.
def Barred (data : TokenData) (db : Contents) : Prop := ∀ user membership row, ¬Stands db data user membership row

theorem ends_barred (ends : change.ends data) : Barred data (change.apply db) := by
  intro user membership row stands
  cases change with
  | deactivateUser userId =>
    obtain ⟨member,named,active⟩ := stands.known
    have kept := Lists.mem_of_map_ite User.isActive (fun _ => rfl) member active
    exact kept.2 (named.trans ends.symm)
  | deactivateMembership userId tenantId =>
    obtain ⟨member,user',tenant',active⟩ := stands.enrolled
    have kept := Lists.mem_of_map_ite Membership.isActive (fun _ => rfl) member active
    exact kept.2 ⟨user'.trans ends.1.symm,tenant'.trans ends.2.symm⟩
  | deactivateTenant tenantId =>
    obtain ⟨member,named,active⟩ := stands.owner
    have kept := Lists.mem_of_map_ite Tenant.isActive (fun _ => rfl) member active
    exact kept.2 (named.trans ends.symm)
  | assignRole _ _ _ => exact ends
  | replaceKeys _ => exact ends

-- What stands after a change stood before it.
theorem apply_barred (barred : Barred data db) : Barred data (change.apply db) := by
  intro user membership row stands
  obtain ⟨known,owner,enrolled⟩ := stands
  cases change with
  | deactivateUser userId =>
    have kept := Lists.mem_of_map_ite User.isActive (fun _ => rfl) known.1 known.2.2
    exact barred user membership row ⟨⟨kept.1,known.2⟩,owner,enrolled⟩
  | deactivateMembership userId tenantId =>
    have kept := Lists.mem_of_map_ite Membership.isActive (fun _ => rfl) enrolled.1 enrolled.2.2.2
    exact barred user membership row ⟨known,owner,kept.1,enrolled.2⟩
  | deactivateTenant tenantId =>
    have kept := Lists.mem_of_map_ite Tenant.isActive (fun _ => rfl) owner.1 owner.2.2
    exact barred user membership row ⟨known,⟨kept.1,owner.2⟩,enrolled⟩
  | assignRole userId tenantId role =>
    obtain ⟨before,listed,same⟩ := List.mem_map.mp enrolled.1
    refine barred user before row ⟨known,owner,listed,?_⟩
    have frame : before.userId = membership.userId ∧ before.tenantId = membership.tenantId ∧
        before.isActive = membership.isActive := by
      subst same
      split <;> exact ⟨rfl,rfl,rfl⟩
    rw [frame.1,frame.2.1,frame.2.2]
    exact enrolled.2
  | replaceKeys keys => exact barred user membership row ⟨known,owner,enrolled⟩

theorem barred_refused (barred : Barred data db) : ¬AdmittedBy data db event := by
  intro admits
  cases event with
  | change change => exact admits
  | request request =>
    obtain ⟨token,tenant,accepted,source⟩ := admits
    obtain ⟨decoded,user,membership,row,_,known,stands,_⟩ := serve_supported accepted source
    cases token.symm.trans known
    exact barred user membership row stands

theorem barred_run (barred : Barred data db) (later : List Event) :
    Along step (fun db event _ => ¬AdmittedBy data db event) db later := by
  induction later generalizing db with
  | nil => trivial
  | cons event later ih =>
    intro next ran
    refine ⟨barred_refused barred,ih ?_⟩
    cases event with
    | change change =>
      cases ran
      exact apply_barred barred
    | request request =>
      cases ran
      exact barred

-- The database at the time of the request decides, and nothing that was once
-- taken from a token comes back to it without being made active again.
theorem authorization_current :
    (∀ (request : Request) (db : Contents) (tenant : TenantContext), request.serve db = .ok tenant →
      tenant.source = .jwt → ∃ data user membership row role, request.token = some data ∧
        Stands db data user membership row ∧ parseRole membership.role = some role ∧ role ∈ upward request.minimumRole) ∧
    ∀ (data : TokenData) (change : Change) (db : Contents) (later : List Event), change.ends data →
      Along step (fun db event _ => ¬AdmittedBy data db event) (change.apply db) later :=
  ⟨fun _ _ _ accepted source => serve_supported accepted source,
    fun _ _ _ later ends => barred_run (ends_barred ends) later⟩

def enrolled : Contents := {twoTenants with memberships := [⟨"U1","T1","viewer",true⟩]}

def viewing : Request := ⟨oneToken,ApiKeys.saltless,some "t",none,.viewer⟩

theorem authorization_current_viewer :
    (∃ tenant, viewing.serve enrolled = .ok tenant ∧ ∃ data user membership row role, viewing.token = some data ∧
      Stands enrolled data user membership row ∧ parseRole membership.role = some role ∧ role ∈ upward .viewer) ∧
    Along step (fun db event _ => ¬AdmittedBy ⟨"U1","T1",.viewer,0⟩ db event)
      (Change.apply enrolled (.deactivateMembership "U1" "T1")) [.change (.assignRole "U1" "T1" "owner"),.request viewing] :=
  ⟨⟨_,rfl,authorization_current.1 viewing enrolled _ rfl rfl⟩,authorization_current.2 _ _ _ _ ⟨rfl,rfl⟩⟩

end SmartParking.Auth.Deactivation
