import Mathlib.Data.List.Sort
import SmartParking.Auth.CurrentTenant
import SmartParking.Auth.Registration
import SmartParking.Auth.RefreshTokens
import SmartParking.Lib.Json

namespace SmartParking.Auth.Login
open Lib
open ApiKeys (UserRole TenantContext HttpError Tenant)
open CurrentTenant (TokenData parseRole getCurrentTenant)
open Registration (Row UserRow TenantRow MembershipRow Key)

def second : Instant := 1000000
-- JWT_ACCESS_TOKEN_EXPIRE_MINUTES
def accessTokenExpiry : Instant := 24*60*minute

-- Three of the tables of a database that the constraints of registration hold for.
def usersOf (rows : List Row) : List UserRow :=
  rows.filterMap fun
    | .user row => some row
    | _ => none

def tenantsOf (rows : List Row) : List TenantRow :=
  rows.filterMap fun
    | .tenant row => some row
    | _ => none

def membershipsOf (rows : List Row) : List MembershipRow :=
  rows.filterMap fun
    | .membership row => some row
    | _ => none

-- What the resolution of a token reads of them, beside the API keys.
def contents (rows : List Row) (keys : ApiKeys.Table) : CurrentTenant.Contents where
  keys := keys
  tenants := (tenantsOf rows).map fun row => ⟨row.id,row.name,row.slug,row.isActive⟩
  users := (usersOf rows).map fun row => ⟨row.id,row.isActive⟩
  memberships := (membershipsOf rows).map fun row => ⟨row.userId,row.tenantId,row.role,row.isActive⟩

-- The active memberships of a user in active tenants, oldest first.
def tenantRows (rows : List Row) (userId : String) : List (TenantRow × String) :=
  (((membershipsOf rows).filter fun row => row.userId == userId && row.isActive).insertionSort
      fun a b => a.createdAt ≤ b.createdAt).filterMap fun row =>
    ((tenantsOf rows).find? fun tenant => tenant.id == row.tenantId && tenant.isActive).map fun tenant => (tenant,row.role)

-- `exp` and `iat` are in whole seconds.
structure Payload where
  userId : String
  tenantId : String
  role : UserRole
  exp : Int
  iat : Int
  deriving DecidableEq

structure LoginRequest where
  email : String
  password : String
  deriving DecidableEq

-- `created_at` is the time of the login.
structure User where
  id : String
  email : String
  name : String
  isActive : Bool
  emailVerified : Bool
  createdAt : Instant
  deriving DecidableEq

structure TenantEntry where
  id : String
  name : String
  slug : String
  role : String
  deriving DecidableEq

structure LoginResponse where
  accessToken : String
  refreshToken : String
  tokenType : String := "bearer"
  expiresIn : Nat := 15*60
  refreshExpiresIn : Nat := 30*24*60*60
  user : User
  tenants : List TenantEntry
  deriving DecidableEq

def userOf (row : UserRow) (now : Instant) : User :=
  ⟨row.id,row.email,row.name,row.isActive,row.emailVerified,now⟩

def entryOf (row : TenantRow × String) : TenantEntry := ⟨row.1.id,row.1.name,row.1.slug,row.2⟩

-- `datetime.utcnow().timestamp()` takes the naive UTC time for one of the
-- server's zone, `zone` being its distance from UTC.
def payload (zone now : Instant) (userId tenantId : String) (role : UserRole) : Payload :=
  ⟨userId,tenantId,role,(now+accessTokenExpiry-zone)/second,(now-zone)/second⟩

section Endpoint

-- `str.lower`, `bcrypt.checkpw` (false where it raises) and `jwt.encode` with the
-- secret of the server.
variable (strLower : String → String) (checkpw : String → String → Bool) (encode : Payload → String) (zone : Instant)

def createAccessToken (now : Instant) (userId tenantId : String) (role : UserRole) : String :=
  encode (payload zone now userId tenantId role)

def loginFailed : HttpError := ⟨500,"Login failed"⟩

-- The checks of a login: the user it is, and the user's tenants.
def authenticate (rows : List Row) (loginReq : LoginRequest) :
    Except HttpError (UserRow × (TenantRow × String) × List (TenantRow × String)) :=
  match (usersOf rows).find? (·.email == strLower loginReq.email) with
  | none => .error ⟨401,"Invalid email or password"⟩
  | some user =>
    if !user.isActive then .error ⟨403,"Account is inactive. Please contact support."⟩
    else if !checkpw loginReq.password user.passwordHash then .error ⟨401,"Invalid email or password"⟩
    else
      match tenantRows rows user.id with
      | [] => .error ⟨403,"No active tenant membership found"⟩
      | primary::others => .ok (user,primary,primary::others)

-- The endpoint with the table of refresh tokens. A hash that is taken is a 500.
def login (rows : List Row) (tokens : Table) (loginReq : LoginRequest) (client : Client) (now : Instant) (newToken : String) :
    Table × Except HttpError LoginResponse :=
  match authenticate strLower checkpw rows loginReq with
  | .error refused => (tokens,.error refused)
  | .ok (user,primary,tenants) =>
    match parseRole primary.2 with
    | none => (tokens,.error loginFailed)
    | some role =>
      let inserted := tokens.insert user.id (hashToken newToken) client now
      (inserted.1,
        if inserted.2 then
          .ok {accessToken := createAccessToken encode zone now user.id primary.1.id role
               refreshToken := newToken,user := userOf user now,tenants := tenants.map entryOf}
        else .error loginFailed)

end Endpoint

-- `decode_access_token` at a time, of what `jwt.decode` makes of the text.
def decodeAccessToken (decode : Instant → String → Option Payload) (now : Instant) (token : String) : Option TokenData :=
  (decode now token).map fun payload => ⟨payload.userId,payload.tenantId,payload.role,payload.exp⟩

-- PyJWT gives back what it was given, from `iat` on and before `exp`.
def RoundTrip (encode : Payload → String) (decode : Instant → String → Option Payload) : Prop :=
  ∀ now payload, encode payload ≠ "" ∧ decode now (encode payload) =
    if payload.iat*second ≤ now ∧ now < payload.exp*second then some payload else none

variable {strLower : String → String} {checkpw : String → String → Bool} {encode : Payload → String}
  {decode : Instant → String → Option Payload} {zone now later : Instant} {rows : List Row} {tokens : Table}
  {loginReq : LoginRequest} {client : Client} {newToken : String} {response : LoginResponse} {keys : ApiKeys.Table}

-- A table is the rows of its constructor.
theorem mem_table {α : Type} {pick : Row → Option α} {row : α → Row} {item : α}
    (exact : ∀ listed item, pick listed = some item ↔ row item = listed) : item ∈ rows.filterMap pick ↔ row item ∈ rows := by
  simp only [List.mem_filterMap,exact]
  constructor
  · rintro ⟨_,member,rfl⟩
    exact member
  · exact fun member => ⟨_,member,rfl⟩

theorem mem_users {user : UserRow} : user ∈ usersOf rows ↔ Row.user user ∈ rows := by
  refine mem_table fun listed item => ?_
  cases listed <;> simp [eq_comm]

theorem mem_tenants {tenant : TenantRow} : tenant ∈ tenantsOf rows ↔ Row.tenant tenant ∈ rows := by
  refine mem_table fun listed item => ?_
  cases listed <;> simp [eq_comm]

theorem mem_memberships {membership : MembershipRow} : membership ∈ membershipsOf rows ↔ Row.membership membership ∈ rows := by
  refine mem_table fun listed item => ?_
  cases listed <;> simp [eq_comm]

-- What the tables of a tenant row and a role of a login are.
theorem mem_tenantRows {userId role : String} {tenant : TenantRow} (member : (tenant,role) ∈ tenantRows rows userId) :
    (tenant ∈ tenantsOf rows ∧ tenant.isActive = true) ∧
      ∃ membership ∈ membershipsOf rows, membership.userId = userId ∧ membership.isActive = true ∧
        membership.tenantId = tenant.id ∧ membership.role = role := by
  obtain ⟨membership,sorted,found⟩ := List.mem_filterMap.mp member
  obtain ⟨listed,own⟩ := List.mem_filter.mp ((List.mem_insertionSort _).mp sorted)
  obtain ⟨row,sought,same⟩ := Option.map_eq_some_iff.mp found
  cases same
  have tested := List.find?_some sought
  rw [Bool.and_eq_true,beq_iff_eq] at own tested
  exact ⟨⟨List.mem_of_find?_eq_some sought,tested.2⟩,membership,listed,own.1,own.2,tested.1.symm,rfl⟩

-- A login that is answered has found its user, the right password and the
-- tenant of the token.
structure Verified (strLower : String → String) (checkpw : String → String → Bool) (rows : List Row)
    (loginReq : LoginRequest) (user : UserRow) (primary : TenantRow × String) (tenants : List (TenantRow × String)) : Prop where
  known : user ∈ usersOf rows ∧ user.email = strLower loginReq.email ∧ user.isActive = true
  password : checkpw loginReq.password user.passwordHash = true
  enrolled : tenantRows rows user.id = tenants ∧ tenants.head? = some primary

theorem authenticate_verified {user : UserRow} {primary : TenantRow × String} {tenants : List (TenantRow × String)}
    (accepted : authenticate strLower checkpw rows loginReq = .ok (user,primary,tenants)) :
    Verified strLower checkpw rows loginReq user primary tenants := by
  unfold authenticate at accepted
  split at accepted
  · cases accepted
  · rename_i found
    split at accepted
    · cases accepted
    · rename_i active
      split at accepted
      · cases accepted
      · rename_i password
        split at accepted
        · cases accepted
        · rename_i enrolled
          cases accepted
          have same := List.find?_some found
          rw [beq_iff_eq] at same
          refine ⟨⟨List.mem_of_find?_eq_some found,same,?_⟩,?_,enrolled,rfl⟩
          · simpa using active
          · simpa using password

-- What an answered login has verified, stored and handed out.
structure Answered (strLower : String → String) (checkpw : String → String → Bool) (encode : Payload → String)
    (zone : Instant) (rows : List Row) (tokens : Table) (loginReq : LoginRequest) (client : Client) (now : Instant)
    (newToken : String) (next : Table) (response : LoginResponse) (user : UserRow) (primary : TenantRow × String)
    (tenants : List (TenantRow × String)) (role : UserRole) : Prop where
  verified : Verified strLower checkpw rows loginReq user primary tenants
  parsed : parseRole primary.2 = some role
  stored : tokens.insert user.id (hashToken newToken) client now = (next,true)
  token : response.accessToken = createAccessToken encode zone now user.id primary.1.id role
  shown : response.user = userOf user now ∧ response.tenants = tenants.map entryOf

theorem login_answered {next : Table}
    (ran : login strLower checkpw encode zone rows tokens loginReq client now newToken = (next,.ok response)) :
    ∃ user primary tenants role,
      Answered strLower checkpw encode zone rows tokens loginReq client now newToken next response user primary tenants role := by
  unfold login at ran
  split at ran
  · cases ran
  · rename_i accepted
    split at ran
    · cases ran
    · rename_i parsed
      dsimp only at ran
      split at ran
      · rename_i inserted
        cases ran
        exact ⟨_,_,_,_,authenticate_verified accepted,parsed,Prod.ext rfl inserted,rfl,rfl,rfl⟩
      · cases ran

-- The one row with a key.
theorem unique_row {one other : Row} (key : Key) (distinct : (rows.flatMap Row.keys).Nodup) (first : one ∈ rows)
    (second : other ∈ rows) (held : key ∈ one.keys) (shared : key ∈ other.keys) : one = other := by
  rw [List.nodup_flatMap] at distinct
  by_contra apart
  have symmetric : Std.Symm (Function.onFun List.Disjoint Row.keys) := ⟨fun _ _ disjoint => disjoint.symm⟩
  exact distinct.2.forall first second apart held shared

theorem sole_user {user other : UserRow} (distinct : (rows.flatMap Row.keys).Nodup) (first : user ∈ usersOf rows)
    (second : other ∈ usersOf rows) (same : other.id = user.id) : other = user := by
  have one := unique_row (.userId user.id) distinct (mem_users.mp second) (mem_users.mp first)
    (by simp [Row.keys,same]) (by simp [Row.keys])
  exact Row.user.inj one

theorem sole_tenant {tenant other : TenantRow} (distinct : (rows.flatMap Row.keys).Nodup) (first : tenant ∈ tenantsOf rows)
    (second : other ∈ tenantsOf rows) (same : other.id = tenant.id) : other = tenant := by
  have one := unique_row (.tenantId tenant.id) distinct (mem_tenants.mp second) (mem_tenants.mp first)
    (by simp [Row.keys,same]) (by simp [Row.keys])
  exact Row.tenant.inj one

theorem sole_membership {membership other : MembershipRow} (distinct : (rows.flatMap Row.keys).Nodup)
    (first : membership ∈ membershipsOf rows) (second : other ∈ membershipsOf rows)
    (user : other.userId = membership.userId) (tenant : other.tenantId = membership.tenantId) : other = membership := by
  have one := unique_row (.member membership.userId membership.tenantId) distinct (mem_memberships.mp second)
    (mem_memberships.mp first) (by simp [Row.keys,user,tenant]) (by simp [Row.keys])
  exact Row.membership.inj one

-- A user in a tenant that it is a member of, with what the two are called.
structure Enrolled (rows : List Row) (userId tenantId : String) (user : UserRow) (membership : MembershipRow)
    (tenant : TenantRow) : Prop where
  user : user ∈ usersOf rows ∧ user.id = userId
  membership : membership ∈ membershipsOf rows ∧ membership.userId = userId ∧ membership.tenantId = tenantId
  tenant : tenant ∈ tenantsOf rows ∧ tenant.id = tenantId

def contextOf (userId : String) (tenant : TenantRow) (role : UserRole) : TenantContext :=
  {tenantId := tenant.id,tenantName := tenant.name,tenantSlug := tenant.slug,userId := some userId,userRole := some role,
   source := .jwt}

-- Whom a token of the user and the tenant stands for, if for anyone.
def Entitled (rows : List Row) (userId tenantId : String) (context : TenantContext) : Prop :=
  ∃ user membership tenant role, Enrolled rows userId tenantId user membership tenant ∧ user.isActive = true ∧
    membership.isActive = true ∧ tenant.isActive = true ∧ parseRole membership.role = some role ∧
      context = contextOf userId tenant role

theorem joined_mem {userId tenantId : String} {user : CurrentTenant.User} {membership : CurrentTenant.Membership}
    {tenant : Tenant} : (user,membership,tenant) ∈ (contents rows keys).joined userId tenantId ↔
      ∃ u m t, Enrolled rows userId tenantId u m t ∧ user = ⟨u.id,u.isActive⟩ ∧
        membership = ⟨m.userId,m.tenantId,m.role,m.isActive⟩ ∧ tenant = ⟨t.id,t.name,t.slug,t.isActive⟩ := by
  constructor
  · intro member
    obtain ⟨⟨known,own⟩,⟨enrolled,ids⟩,listed,named⟩ := CurrentTenant.joined_sound member
    obtain ⟨u,stored,rfl⟩ := List.mem_map.mp known
    obtain ⟨m,joined,rfl⟩ := List.mem_map.mp enrolled
    obtain ⟨t,owned,rfl⟩ := List.mem_map.mp listed
    exact ⟨u,m,t,⟨⟨stored,own⟩,⟨joined,ids⟩,owned,named⟩,rfl,rfl,rfl⟩
  · rintro ⟨u,m,t,⟨⟨stored,own⟩,⟨joined,ids⟩,owned,named⟩,rfl,rfl,rfl⟩
    unfold CurrentTenant.Contents.joined
    refine List.mem_flatMap.mpr ⟨_,List.mem_filter.mpr ⟨List.mem_map.mpr ⟨u,stored,rfl⟩,by simpa using own⟩,?_⟩
    refine List.mem_flatMap.mpr ⟨_,List.mem_filter.mpr ⟨List.mem_map.mpr ⟨m,joined,rfl⟩,by simp [ids,own]⟩,?_⟩
    exact List.mem_map.mpr ⟨_,List.mem_filter.mpr ⟨List.mem_map.mpr ⟨t,owned,rfl⟩,by simp [ids,named]⟩,rfl⟩

-- The keys leave the join one row at most.
theorem joined_head {userId tenantId : String} {user : UserRow} {membership : MembershipRow} {tenant : TenantRow}
    (distinct : (rows.flatMap Row.keys).Nodup) (enrolled : Enrolled rows userId tenantId user membership tenant) :
    ((contents rows keys).joined userId tenantId).head? = some (⟨user.id,user.isActive⟩,
      ⟨membership.userId,membership.tenantId,membership.role,membership.isActive⟩,
      ⟨tenant.id,tenant.name,tenant.slug,tenant.isActive⟩) := by
  have listed : ((⟨user.id,user.isActive⟩ : CurrentTenant.User),
      (⟨membership.userId,membership.tenantId,membership.role,membership.isActive⟩ : CurrentTenant.Membership),
      (⟨tenant.id,tenant.name,tenant.slug,tenant.isActive⟩ : Tenant)) ∈ (contents rows keys).joined userId tenantId :=
    joined_mem.mpr ⟨_,_,_,enrolled,rfl,rfl,rfl⟩
  cases first : ((contents rows keys).joined userId tenantId).head? with
  | none =>
    rw [List.head?_eq_none_iff.mp first] at listed
    exact absurd listed List.not_mem_nil
  | some triple =>
    obtain ⟨u,m,t⟩ := triple
    obtain ⟨u,m,t,other,rfl,rfl,rfl⟩ := joined_mem.mp (List.mem_of_head? first)
    have users := sole_user distinct enrolled.user.1 other.user.1 (other.user.2.trans enrolled.user.2.symm)
    have tenants := sole_tenant distinct enrolled.tenant.1 other.tenant.1 (other.tenant.2.trans enrolled.tenant.2.symm)
    have memberships := sole_membership distinct enrolled.membership.1 other.membership.1
      (other.membership.2.1.trans enrolled.membership.2.1.symm) (other.membership.2.2.trans enrolled.membership.2.2.symm)
    rw [users,tenants,memberships]

theorem resolves_entitled {data : TokenData} {context : TenantContext}
    (resolved : CurrentTenant.resolveTenantFromJwt (contents rows keys) data = some context) :
    Entitled rows data.userId data.tenantId context := by
  unfold CurrentTenant.resolveTenantFromJwt at resolved
  split at resolved
  · cases resolved
  · rename_i found
    obtain ⟨u,m,t,enrolled,rfl,rfl,rfl⟩ := joined_mem.mp (List.mem_of_head? found)
    dsimp only at resolved
    split at resolved
    · cases resolved
    · split at resolved
      · cases resolved
      · split at resolved
        · cases resolved
        · rename_i user membership tenant
          obtain ⟨role,parsed,rfl⟩ := Option.map_eq_some_iff.mp resolved
          exact ⟨u,m,t,role,enrolled,by simpa using user,by simpa using membership,by simpa using tenant,parsed,rfl⟩

theorem resolves_iff {data : TokenData} {context : TenantContext} (distinct : (rows.flatMap Row.keys).Nodup) :
    CurrentTenant.resolveTenantFromJwt (contents rows keys) data = some context ↔
      Entitled rows data.userId data.tenantId context := by
  constructor
  · exact resolves_entitled
  · rintro ⟨u,m,t,role,enrolled,user,membership,tenant,parsed,rfl⟩
    unfold CurrentTenant.resolveTenantFromJwt
    rw [joined_head distinct enrolled]
    simp [user,membership,tenant,parsed,contextOf]

-- The tenant of a login is one that its user may enter.
theorem Verified.entitled {user : UserRow} {primary : TenantRow × String} {tenants : List (TenantRow × String)}
    {role : UserRole} (verified : Verified strLower checkpw rows loginReq user primary tenants)
    (parsed : parseRole primary.2 = some role) : Entitled rows user.id primary.1.id (contextOf user.id primary.1 role) := by
  obtain ⟨known,_,active⟩ := verified.known
  obtain ⟨listed,head⟩ := verified.enrolled
  have member : (primary.1,primary.2) ∈ tenantRows rows user.id := by
    rw [listed]
    exact List.mem_of_head? head
  obtain ⟨⟨stored,open'⟩,membership,enrolled,owner,current,tenant,same⟩ := mem_tenantRows member
  refine ⟨user,membership,primary.1,role,⟨⟨known,rfl⟩,⟨enrolled,owner,tenant⟩,stored,rfl⟩,active,current,open',?_,rfl⟩
  rw [same]
  exact parsed

-- From when and until when a token handed out at a time is accepted.
def Valid (zone now later : Instant) : Prop :=
  (now-zone)/second*second ≤ later ∧ later < (now+accessTokenExpiry-zone)/second*second

instance : Decidable (Valid zone now later) := inferInstanceAs (Decidable (_ ∧ _))

theorem decodes_issued {userId tenantId : String} {role : UserRole} (round : RoundTrip encode decode) :
    CurrentTenant.tokenData (decodeAccessToken decode later) (some (createAccessToken encode zone now userId tenantId role)) =
      if Valid zone now later then some ⟨userId,tenantId,role,(now+accessTokenExpiry-zone)/second⟩ else none := by
  obtain ⟨given,decoded⟩ := round later (payload zone now userId tenantId role)
  unfold CurrentTenant.tokenData CurrentTenant.given createAccessToken decodeAccessToken
  rw [Option.filter_some,if_pos (by simpa using given),Option.bind_some,decoded]
  show Option.map _ (if Valid zone now later then some (payload zone now userId tenantId role) else none) = _
  split <;> rfl

-- A request is admitted as a user by its token alone.
theorem admitted_iff {decodeAccessToken : String → Option TokenData} {verify : String → String → Bool}
    {db : CurrentTenant.Contents} {credentials apiKey : Option String} {context : TenantContext} :
    (getCurrentTenant decodeAccessToken verify db credentials apiKey = .ok context ∧ context.source = .jwt) ↔
      (CurrentTenant.tokenData decodeAccessToken credentials).bind (CurrentTenant.resolveTenantFromJwt db) = some context := by
  unfold getCurrentTenant
  constructor
  · rintro ⟨admitted,jwt⟩
    split at admitted
    · rename_i resolved
      cases admitted
      exact resolved
    · split at admitted
      · rename_i keyed
        cases admitted
        rw [CurrentTenant.keyContext_source keyed] at jwt
        cases jwt
      · cases admitted
  · intro resolved
    rw [resolved]
    obtain ⟨_,_,supported⟩ := Option.bind_eq_some_iff.mp resolved
    obtain ⟨_,_,_,_,_,_,_,_,jwt⟩ := CurrentTenant.resolveTenantFromJwt_supported supported
    exact ⟨rfl,jwt⟩

-- The token admits whom the rows entitle at the time of the request, and only
-- in its time.
theorem issued_accepted_iff {verify : String → String → Bool} {userId tenantId : String} {role : UserRole}
    {apiKey : Option String} {context : TenantContext} (round : RoundTrip encode decode)
    (distinct : (rows.flatMap Row.keys).Nodup) :
    (getCurrentTenant (decodeAccessToken decode later) verify (contents rows keys)
        (some (createAccessToken encode zone now userId tenantId role)) apiKey = .ok context ∧ context.source = .jwt) ↔
      Valid zone now later ∧ Entitled rows userId tenantId context := by
  rw [admitted_iff,decodes_issued round]
  by_cases valid : Valid zone now later
  · rw [if_pos valid,Option.bind_some,resolves_iff distinct]
    exact (and_iff_right valid).symm
  · rw [if_neg valid,Option.bind_none]
    constructor
    · intro absent
      cases absent
    · exact fun both => absurd both.1 valid

-- Whatever becomes of the rows, the access token of a login stands for its user
-- in the first tenant it listed, as long as these let it, for 24 hours and not
-- the 15 minutes it is said to last.
theorem login_token_accepted {next : Table} (round : RoundTrip encode decode)
    (ran : login strLower checkpw encode zone rows tokens loginReq client now newToken = (next,.ok response)) :
    ∃ user primary role, user ∈ usersOf rows ∧ response.user = userOf user now ∧ user.email = strLower loginReq.email ∧
      checkpw loginReq.password user.passwordHash = true ∧
      response.tenants.head? = some (entryOf primary) ∧ parseRole primary.2 = some role ∧
      Entitled rows user.id primary.1.id (contextOf user.id primary.1 role) ∧
      ∀ (verify : String → String → Bool) (later : Instant) (current : List Row) (keys : ApiKeys.Table)
        (apiKey : Option String) (context : TenantContext),
        (current.flatMap Row.keys).Nodup →
          ((getCurrentTenant (decodeAccessToken decode later) verify (contents current keys) (some response.accessToken)
              apiKey = .ok context ∧ context.source = .jwt) ↔
            Valid zone now later ∧ Entitled current user.id primary.1.id context) := by
  obtain ⟨user,primary,tenants,role,answered⟩ := login_answered ran
  have verified := answered.verified
  have first : response.tenants.head? = some (entryOf primary) := by
    rw [answered.shown.2,List.head?_map,verified.enrolled.2]
    rfl
  refine ⟨user,primary,role,verified.known.1,answered.shown.1,verified.known.2.1,verified.password,first,answered.parsed,
    verified.entitled answered.parsed,?_⟩
  intro verify later current keys apiKey context distinct
  rw [answered.token]
  exact issued_accepted_iff round distinct

-- The claims of a token are its JSON text.
def Payload.claims (p : Payload) : Json.Record :=
  [("user_id",.string p.userId),("tenant_id",.string p.tenantId),("role",.string p.role.value),("exp",.number p.exp),
   ("iat",.number p.iat)]

def readClaims : Json.Record → Option Payload
  | [(_,.string userId),(_,.string tenantId),(_,.string role),(_,.number exp),(_,.number iat)] =>
    (parseRole role).map fun role => ⟨userId,tenantId,role,exp,iat⟩
  | _ => none

def unsigned (p : Payload) : String := Json.dumps p.claims

def readUnsigned (now : Instant) (text : String) : Option Payload :=
  ((Json.loads text).bind readClaims).filter fun p => p.iat*second ≤ now && now < p.exp*second

theorem unsigned_round : RoundTrip unsigned readUnsigned := by
  intro now p
  refine ⟨fun empty => ?_,?_⟩
  · have := congrArg String.toList empty
    rw [unsigned,Json.dumps,String.toList_ofList] at this
    cases this
  · unfold readUnsigned unsigned
    rw [Json.loads_dumps,Option.bind_some]
    have read : readClaims p.claims = some p := by
      obtain ⟨_,_,role,_,_⟩ := p
      cases role <;> rfl
    rw [read,Option.filter_some]
    simp

def annRows : List Row :=
  [.user ⟨"U1","ann@acme.io","Ann","correct horse",none,true,false,0⟩,.tenant ⟨"T1","Acme","acme",none,none,true⟩,
   .membership ⟨"M1","U1","T1","owner",true,0⟩]

def annOf (now : Instant) (token : String) : Except HttpError TenantContext :=
  getCurrentTenant (decodeAccessToken readUnsigned now) (fun _ _ => false) (contents annRows ⟨[],List.nodup_nil,List.nodup_nil⟩) (some token) none

theorem ann_admitted : ∃ next response,
    login id (· == ·) unsigned 0 annRows .empty ⟨"ann@acme.io","correct horse"⟩ {} 0 "R" = (next,.ok response) ∧
      annOf (accessTokenExpiry-1) response.accessToken = .ok ⟨"T1","Acme","acme",some "U1",some .owner,none,none,.jwt⟩ ∧
      ∀ context, annOf accessTokenExpiry response.accessToken = .ok context → context.source ≠ .jwt := by
  have ran : ∃ next response,
      login id (· == ·) unsigned 0 annRows .empty ⟨"ann@acme.io","correct horse"⟩ {} 0 "R" = (next,.ok response) := ⟨_,_,rfl⟩
  obtain ⟨next,response,ran⟩ := ran
  obtain ⟨user,primary,role,listed,_,_,_,head,parsed,entitled,accepted⟩ :=
    login_token_accepted unsigned_round ran
  cases List.mem_singleton.mp (show user ∈ [_] from listed)
  have distinct : (annRows.flatMap Row.keys).Nodup := by decide
  have first : some (entryOf primary) = some ⟨"T1","Acme","acme","owner"⟩ := by
    rw [←head]
    cases ran
    rfl
  obtain ⟨⟨id,name,slug,_,_,_⟩,text⟩ := primary
  cases first
  cases parsed
  refine ⟨next,response,ran,((accepted _ _ _ _ none _ distinct).mpr ⟨by decide,entitled⟩).1,?_⟩
  intro context admitted jwt
  have := ((accepted _ _ _ _ none _ distinct).mp ⟨admitted,jwt⟩).1
  exact absurd this (by decide)

end SmartParking.Auth.Login
