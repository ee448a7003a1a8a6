import Mathlib.Data.List.Pairwise
import SmartParking.Auth.ApiKeys
import SmartParking.Lib.Runs
import SmartParking.Lib.Transactions

namespace SmartParking.Auth.Registration
open Lib Lib.Transactions
open ApiKeys (UserRole)

-- `str.lower` and `lower(email)` on the ASCII texts that `validate_email` admits.
def lower (text : String) : String := String.ofList (text.toList.map Char.toLower)

theorem toLower_lowered (c : Char) : c.toLower.toLower = c.toLower := by
  unfold Char.toLower
  split
  · rename_i upper
    rw [dif_neg]
    rintro ⟨_,small⟩
    obtain ⟨low,high⟩ := upper
    rw [ge_iff_le,UInt32.le_iff_toNat_le] at low
    rw [UInt32.le_iff_toNat_le] at high small
    simp only [UInt32.toNat_add] at small
    have : ('A'.val).toNat = 65 := rfl
    have : ('Z'.val).toNat = 90 := rfl
    have : ('a'.val - 'A'.val).toNat = 32 := rfl
    omega
  · rfl

theorem lower_lower (text : String) : lower (lower text) = lower text := by
  unfold lower
  rw [String.toList_ofList,List.map_map]
  exact congrArg String.ofList (List.map_congr_left fun c _ => toLower_lowered c)

def localPart (c : Char) : Bool := c.isAlphanum || "._%+-".toList.contains c

def domainPart (c : Char) : Bool := c.isAlphanum || c == '.' || c == '-'

-- `[a-zA-Z0-9.-]+\.[a-zA-Z]{2,}$`, the dot being the last one. `$` matches before
-- a final newline as well.
def domain (text : List Char) : Bool :=
  let ending := match text.reverse with
    | '\n'::rest => rest
    | rest => rest
  match ending.dropWhile Char.isAlpha with
  | '.'::before => 2 ≤ (ending.takeWhile Char.isAlpha).length && before ≠ [] && before.all domainPart
  | _ => false

def validateEmail (v : String) : Option String :=
  match v.toList.dropWhile (· ≠ '@') with
  | '@'::rest =>
    let name := v.toList.takeWhile (· ≠ '@')
    if name ≠ [] && name.all localPart && domain rest then some (lower v) else none
  | _ => none

def slugPart (c : Char) : Bool := ('a' ≤ c && c ≤ 'z') || c.isDigit || c == '-'

-- `^[a-z0-9-]+$`, of the model and of `valid_slug`.
def validSlug (slug : String) : Bool := slug ≠ "" && slug.toList.all slugPart

def sized (low high : Nat) (text : String) : Bool := low ≤ text.length && text.length ≤ high

-- A metadata or settings object is its JSON text, if it is not empty.
structure UserCreate where
  email : String
  name : String
  password : String
  metadata : Option String := none
  deriving DecidableEq

structure TenantCreate where
  name : String
  slug : String
  metadata : Option String := none
  settings : Option String := none
  deriving DecidableEq

structure RegistrationRequest where
  user : UserCreate
  tenant : TenantCreate
  deriving DecidableEq

def UserCreate.validate (u : UserCreate) : Option UserCreate := do
  let email ← validateEmail u.email
  if sized 0 255 u.email && sized 1 255 u.name && sized 8 100 u.password then some {u with email := email} else none

def TenantCreate.validate (t : TenantCreate) : Option TenantCreate :=
  if sized 1 255 t.name && sized 1 100 t.slug && validSlug t.slug then some t else none

-- The request a handler gets; `none` is a 422.
def RegistrationRequest.validate (r : RegistrationRequest) : Option RegistrationRequest := do
  return ⟨← r.user.validate,← r.tenant.validate⟩

structure UserRow where
  id : String
  email : String
  name : String
  passwordHash : String
  metadata : Option String
  isActive : Bool := true
  emailVerified : Bool := false
  createdAt : Int
  deriving DecidableEq

structure TenantRow where
  id : String
  name : String
  slug : String
  metadata : Option String
  settings : Option String
  isActive : Bool := true
  deriving DecidableEq

structure SiteRow where
  id : String
  tenantId : String
  name : String
  timezone : String
  location : String
  isActive : Bool := true
  deriving DecidableEq

structure MembershipRow where
  id : String
  userId : String
  tenantId : String
  role : String
  isActive : Bool := true
  createdAt : Int
  deriving DecidableEq

inductive Row where
  | user (row : UserRow)
  | tenant (row : TenantRow)
  | site (row : SiteRow)
  | membership (row : MembershipRow)
  deriving DecidableEq

inductive Key where
  | userId (id : String)
  | email (lowered : String)
  | tenantId (id : String)
  | slug (slug : String)
  | siteId (id : String)
  | siteName (tenantId name : String)
  | membershipId (id : String)
  | member (userId tenantId : String)
  deriving DecidableEq

-- The primary keys, `uq_users_email_ci`, the unique slug, `unique_tenant_site_name`
-- and `unique_user_tenant`.
def Row.keys : Row → List Key
  | .user row => [.userId row.id,.email (lower row.email)]
  | .tenant row => [.tenantId row.id,.slug row.slug]
  | .site row => [.siteId row.id,.siteName row.tenantId row.name]
  | .membership row => [.membershipId row.id,.member row.userId row.tenantId]

-- The lengths of the columns, `valid_slug` and `valid_role`.
def Row.wellFormed : Row → Bool
  | .user row => sized 0 255 row.email && sized 0 255 row.name && sized 0 255 row.passwordHash
  | .tenant row => sized 0 255 row.name && sized 0 100 row.slug && validSlug row.slug
  | .site row => sized 0 255 row.name && sized 0 50 row.timezone
  | .membership row => ["owner","admin","operator","viewer"].contains row.role

theorem Row.keys_nodup (row : Row) : row.keys.Nodup := by
  cases row <;> simp [Row.keys]

inductive Response where
  | created (user : UserRow)
  | badRequest (detail : String)
  | failed
  deriving DecidableEq

-- The statement a request sends next, with the rows its transaction has
-- inserted, or how it ended. A request whose task is cancelled answers nothing.
inductive Pc where
  | selectUser
  | selectTenant
  | insertUser
  | insertTenant (user : UserRow)
  | insertSite (user : UserRow) (tenant : TenantRow)
  | insertMembership (user : UserRow) (tenant : TenantRow) (site : SiteRow)
  | commit (user : UserRow) (tenant : TenantRow) (site : SiteRow) (membership : MembershipRow)
  | answered (response : Response)
  | cancelled
  deriving DecidableEq

structure Records where
  user : UserRow
  tenant : TenantRow
  site : SiteRow
  membership : MembershipRow
  deriving DecidableEq

def Records.rows (r : Records) : List Row := [.user r.user,.tenant r.tenant,.site r.site,.membership r.membership]

def mainSite (name : String) : String := name ++ " - Main Site"

section Rows

variable (hashpw : String → String → String) (request : RegistrationRequest)

def newUser (id salt : String) (now : Int) : UserRow :=
  {id := id,email := lower request.user.email,name := request.user.name,passwordHash := hashpw request.user.password salt,
   metadata := request.user.metadata,createdAt := now}

def newTenant (id : String) : TenantRow :=
  {id := id,name := request.tenant.name,slug := lower request.tenant.slug,metadata := request.tenant.metadata,
   settings := request.tenant.settings}

def newSite (id : String) (tenant : TenantRow) : SiteRow :=
  {id := id,tenantId := tenant.id,name := mainSite request.tenant.name,timezone := "UTC",location := "{}"}

def newMembership (id : String) (user : UserRow) (tenant : TenantRow) (now : Int) : MembershipRow :=
  {id := id,userId := user.id,tenantId := tenant.id,role := UserRole.owner.value,createdAt := now}

end Rows

structure Running where
  request : RegistrationRequest
  pc : Pc
  deriving DecidableEq

def emailTaken (rows : List Row) (email : String) : Bool :=
  rows.any fun
    | .user row => row.email == email
    | _ => false

def slugTaken (rows : List Row) (slug : String) : Bool :=
  rows.any fun
    | .tenant row => row.slug == slug
    | _ => false

-- An INSERT of the transaction of request `i`. One that raises ends the
-- transaction and answers 500; one that has to wait does not run yet.
def attempt (s : Store Row) (i : Nat) (row : Row) (next : Pc) : Option (Store Row × Pc) :=
  if row.wellFormed then
    match s.insert Row.keys i row with
    | .inserted inserted => some (inserted,next)
    | .violation => some (s.rollback i,.answered .failed)
    | .waits _ => none
  else some (s.rollback i,.answered .failed)

-- `salt`, `now` and `newId` are what bcrypt.gensalt, NOW() and gen_random_uuid
-- yield.
structure Sampled where
  newId : String
  salt : String
  now : Int
  deriving DecidableEq

def execute (hashpw : String → String → String) (s : Store Row) (i : Nat) (r : Running) (sampled : Sampled) :
    Option (Store Row × Pc) :=
  match r.pc with
  | .selectUser =>
    if emailTaken s.committed (lower r.request.user.email) then some (s,.answered (.badRequest "Email already registered"))
    else some (s,.selectTenant)
  | .selectTenant =>
    if slugTaken s.committed (lower r.request.tenant.slug) then
      some (s,.answered (.badRequest "Tenant slug already taken"))
    else some (s,.insertUser)
  | .insertUser =>
    let user := newUser hashpw r.request sampled.newId sampled.salt sampled.now
    attempt s i (.user user) (.insertTenant user)
  | .insertTenant user =>
    let tenant := newTenant r.request sampled.newId
    attempt s i (.tenant tenant) (.insertSite user tenant)
  | .insertSite user tenant =>
    let site := newSite r.request sampled.newId tenant
    attempt s i (.site site) (.insertMembership user tenant site)
  | .insertMembership user tenant site =>
    let membership := newMembership sampled.newId user tenant sampled.now
    attempt s i (.membership membership) (.commit user tenant site membership)
  | .commit user _ _ _ => some (s.commit i,.answered (.created user))
  | .answered _ | .cancelled => none

def Pc.ended : Pc → Bool
  | .answered _ | .cancelled => true
  | _ => false

-- `registered` is what the commits so far have added. Nothing reads it.
structure World where
  store : Store Row
  calls : List Running
  registered : List (Nat × Records)

def World.idle (rows : List Row) : World := ⟨⟨rows,[]⟩,[],[]⟩

def Pc.records : Pc → List Records
  | .commit user tenant site membership => [⟨user,tenant,site,membership⟩]
  | _ => []

inductive Action where
  | call (raw : RegistrationRequest)
  | statement (i : Nat) (sampled : Sampled)
  | fault (i : Nat)
  | cancel (i : Nat)

def World.abort (w : World) (i : Nat) (r : Running) (pc : Pc) : World :=
  {w with store := w.store.rollback i,calls := w.calls.set i {r with pc}}

-- The next statement of a request may also raise, and its task may be cancelled.
def step (hashpw : String → String → String) (w : World) : Action → Option World
  | .call raw => do
    let request ← raw.validate
    return {w with store := w.store.begin,calls := w.calls ++ [⟨request,.selectUser⟩]}
  | .statement i sampled => do
    let r ← w.calls[i]?
    let (store,pc) ← execute hashpw w.store i r sampled
    return ⟨store,w.calls.set i {r with pc},w.registered ++ r.pc.records.map (i,·)⟩
  | .fault i => do
    let r ← w.calls[i]?
    if r.pc.ended then none else return w.abort i r (.answered .failed)
  | .cancel i => do
    let r ← w.calls[i]?
    if r.pc.ended then none else return w.abort i r .cancelled

-- What the transaction of a request has inserted.
def Pc.rows : Pc → List Row
  | .insertTenant user => [.user user]
  | .insertSite user tenant => [.user user,.tenant tenant]
  | .insertMembership user tenant site => [.user user,.tenant tenant,.site site]
  | .commit user tenant site membership => [.user user,.tenant tenant,.site site,.membership membership]
  | _ => []

section Built

variable (hashpw : String → String → String) (request : RegistrationRequest)

def UserOf (user : UserRow) : Prop :=
  (∃ id salt now, user = newUser hashpw request id salt now) ∧ (Row.user user).wellFormed = true

def TenantOf (tenant : TenantRow) : Prop :=
  (∃ id, tenant = newTenant request id) ∧ (Row.tenant tenant).wellFormed = true

def SiteOf (tenant : TenantRow) (site : SiteRow) : Prop :=
  (∃ id, site = newSite request id tenant) ∧ (Row.site site).wellFormed = true

def MembershipOf (user : UserRow) (tenant : TenantRow) (membership : MembershipRow) : Prop :=
  ∃ id now, membership = newMembership id user tenant now

-- The rows are those of the request, and refer to one another.
def Built : Pc → Prop
  | .insertTenant user => UserOf hashpw request user
  | .insertSite user tenant => UserOf hashpw request user ∧ TenantOf request tenant
  | .insertMembership user tenant site =>
    UserOf hashpw request user ∧ TenantOf request tenant ∧ SiteOf request tenant site
  | .commit user tenant site membership =>
    UserOf hashpw request user ∧ TenantOf request tenant ∧ SiteOf request tenant site ∧ MembershipOf user tenant membership
  | _ => True

def Records.Of (r : Records) : Prop := Built hashpw request (.commit r.user r.tenant r.site r.membership)

end Built

-- What a statement does: it reads, it inserts a row, it ends the transaction
-- without a trace, or it commits.
inductive Moves (hashpw : String → String → String) (s : Store Row) (i : Nat) (r : Running) : Store Row → Pc → Prop where
  | reads : r.pc.rows = [] → pc.rows = [] → r.pc.records = [] → (∀ user, pc ≠ .answered (.created user)) →
      Built hashpw r.request pc → Moves hashpw s i r s pc
  | inserts : Store.Inserts Row.keys s i row next → pc.rows = r.pc.rows ++ [row] →
      (∀ user, pc ≠ .answered (.created user)) → r.pc.records = [] → (Built hashpw r.request r.pc → Built hashpw r.request pc) →
      Moves hashpw s i r next pc
  | aborts : r.pc.records = [] → Moves hashpw s i r (s.rollback i) (.answered .failed)
  | commits : r.pc = .commit user tenant site membership → Moves hashpw s i r (s.commit i) (.answered (.created user))

variable {hashpw : String → String → String} {s store : Store Row} {i : Nat} {r : Running} {sampled : Sampled}
  {start : List Row} {w next : World} {action : Action} {row : Row} {pc : Pc} {request : RegistrationRequest}

theorem attempt_moves (ran : attempt s i row pc = some (store,pc')) (kept : pc.rows = r.pc.rows ++ [row])
    (unanswered : ∀ user, pc ≠ .answered (.created user)) (open' : r.pc.records = [])
    (built : row.wellFormed = true → Built hashpw r.request r.pc → Built hashpw r.request pc) :
    Moves hashpw s i r store pc' := by
  unfold attempt at ran
  split at ran
  · rename_i wellFormed
    split at ran
    · rename_i inserted
      cases ran
      exact .inserts (Store.insert_inserts inserted) kept unanswered open' (built wellFormed)
    · cases ran
      exact .aborts open'
    · cases ran
  · cases ran
    exact .aborts open'

theorem execute_moves (ran : execute hashpw s i r sampled = some (store,pc)) : Moves hashpw s i r store pc := by
  obtain ⟨request,from'⟩ := r
  unfold execute at ran
  cases from' with
  | selectUser | selectTenant =>
    dsimp only at ran
    split at ran <;> cases ran <;> exact .reads rfl rfl rfl (fun user same => by cases same) trivial
  | insertUser =>
    refine attempt_moves ran rfl (fun user same => by cases same) rfl ?_
    exact fun wellFormed _ => ⟨⟨_,_,_,rfl⟩,wellFormed⟩
  | insertTenant user =>
    refine attempt_moves ran rfl (fun user same => by cases same) rfl ?_
    exact fun wellFormed built => ⟨built,⟨_,rfl⟩,wellFormed⟩
  | insertSite user tenant =>
    refine attempt_moves ran rfl (fun user same => by cases same) rfl ?_
    exact fun wellFormed built => ⟨built.1,built.2,⟨_,rfl⟩,wellFormed⟩
  | insertMembership user tenant site =>
    refine attempt_moves ran rfl (fun user same => by cases same) rfl ?_
    exact fun _ built => ⟨built.1,built.2.1,built.2.2,_,_,rfl⟩
  | commit user tenant site membership =>
    cases ran
    exact .commits rfl
  | answered | cancelled => cases ran

-- The rows of the requests that answered 201, and nothing else, have been added.
structure Sound (hashpw : String → String → String) (start : List Row) (w : World) : Prop where
  exclusive : w.store.Exclusive Row.keys
  slots : w.store.staged.length = w.calls.length
  own : ∀ (i : Nat) (r : Running), w.calls[i]? = some r → w.store.own i = r.pc.rows
  built : ∀ (i : Nat) (r : Running), w.calls[i]? = some r → Built hashpw r.request r.pc
  committed : w.store.committed = start ++ w.registered.flatMap (·.2.rows)
  once : (w.registered.map (·.1)).Nodup
  recorded : ∀ i records, (i,records) ∈ w.registered →
    ∃ r : Running, w.calls[i]? = some r ∧ r.pc = .answered (.created records.user) ∧ records.Of hashpw r.request
  created : ∀ (i : Nat) (r : Running) user, w.calls[i]? = some r → r.pc = .answered (.created user) →
    ∃ records, (i,records) ∈ w.registered ∧ records.user = user

theorem idle_sound (distinct : (start.flatMap Row.keys).Nodup) : Sound hashpw start (World.idle start) where
  exclusive := by
    unfold Store.Exclusive Store.all World.idle
    rw [List.flatten_nil,List.append_nil]
    exact distinct
  slots := rfl
  own := fun _ _ absent => by cases absent
  built := fun _ _ absent => by cases absent
  committed := (List.append_nil start).symm
  once := List.nodup_nil
  recorded := fun _ _ absent => by cases absent
  created := fun _ _ _ absent => by cases absent

theorem lookup_set {calls : List Running} {j : Nat} {found new : Running} (held : calls[i]? = some r)
    (lookup : (calls.set i new)[j]? = some found) : (j = i ∧ found = new) ∨ (j ≠ i ∧ calls[j]? = some found) := by
  by_cases same : j = i
  · subst same
    rw [List.getElem?_set_self (List.getElem?_eq_some_iff.mp held).1] at lookup
    exact .inl ⟨rfl,(Option.some.inj lookup).symm⟩
  · rw [List.getElem?_set_ne (Ne.symm same)] at lookup
    exact .inr ⟨same,lookup⟩

theorem Sound.unrecorded (sound : Sound hashpw start w) (held : w.calls[i]? = some r)
    (unanswered : ∀ user, r.pc ≠ .answered (.created user)) (records : Records) : (i,records) ∉ w.registered := by
  intro member
  obtain ⟨_,held',answered,_⟩ := sound.recorded i records member
  cases held.symm.trans held'
  exact unanswered _ answered

-- A request that adds nothing to the committed rows moves on.
theorem Sound.moved (sound : Sound hashpw start w) (held : w.calls[i]? = some r)
    (unanswered : ∀ user, r.pc ≠ .answered (.created user)) (later : ∀ user, pc ≠ .answered (.created user))
    (exclusive : store.Exclusive Row.keys) (slots : store.staged.length = w.store.staged.length)
    (own : ∀ j, store.own j = if j = i then pc.rows else w.store.own j) (built : Built hashpw r.request pc)
    (same : store.committed = w.store.committed) :
    Sound hashpw start ⟨store,w.calls.set i {r with pc},w.registered⟩ where
  exclusive := exclusive
  slots := by rw [slots,sound.slots,List.length_set]
  own := by
    intro j found lookup
    rw [own j]
    rcases lookup_set held lookup with ⟨rfl,rfl⟩ | ⟨apart,before⟩
    · rw [if_pos rfl]
    · rw [if_neg apart,sound.own j found before]
  built := by
    intro j found lookup
    rcases lookup_set held lookup with ⟨rfl,rfl⟩ | ⟨apart,before⟩
    · exact built
    · exact sound.built j found before
  committed := same.trans sound.committed
  once := sound.once
  recorded := by
    intro j records member
    obtain ⟨found,before,rest⟩ := sound.recorded j records member
    have apart : j ≠ i := by
      rintro rfl
      exact sound.unrecorded held unanswered records member
    exact ⟨found,(List.getElem?_set_ne apart.symm).trans before,rest⟩
  created := by
    intro j found user lookup answered
    rcases lookup_set held lookup with ⟨rfl,rfl⟩ | ⟨apart,before⟩
    · exact absurd answered (later user)
    · exact sound.created j found user before answered

theorem Sound.aborted (sound : Sound hashpw start w) (held : w.calls[i]? = some r)
    (unanswered : ∀ user, r.pc ≠ .answered (.created user)) (later : ∀ user, pc ≠ .answered (.created user))
    (rows : pc.rows = []) (built : Built hashpw r.request pc) : Sound hashpw start (w.abort i r pc) := by
  have bound : i < w.store.staged.length := by
    rw [sound.slots]
    exact (List.getElem?_eq_some_iff.mp held).1
  refine sound.moved held unanswered later (Store.rollback_exclusive sound.exclusive i) (List.length_set ..) ?_ built rfl
  intro j
  rw [rows]
  exact Store.own_set bound []

theorem Sound.committing {user : UserRow} {tenant : TenantRow} {site : SiteRow} {membership : MembershipRow}
    (sound : Sound hashpw start w) (held : w.calls[i]? = some r) (at' : r.pc = .commit user tenant site membership) :
    Sound hashpw start ⟨w.store.commit i,w.calls.set i {r with pc := .answered (.created user)},
      w.registered ++ r.pc.records.map (i,·)⟩ := by
  have bound : i < w.store.staged.length := by
    rw [sound.slots]
    exact (List.getElem?_eq_some_iff.mp held).1
  have own : ∀ j, (w.store.commit i).own j = if j = i then [] else w.store.own j := fun j => Store.own_set bound []
  have unanswered : ∀ user, r.pc ≠ .answered (.created user) := by
    rw [at']
    intro user same
    cases same
  have added : r.pc.records.map (i,·) = [(i,(⟨user,tenant,site,membership⟩ : Records))] := by rw [at']; rfl
  rw [added]
  have records := sound.built i r held
  rw [at'] at records
  refine ⟨Store.commit_exclusive sound.exclusive i,?_,?_,?_,?_,?_,?_,?_⟩
  · change (w.store.staged.set i []).length = (w.calls.set i _).length
    rw [List.length_set,List.length_set,sound.slots]
  · intro j found lookup
    rw [own j]
    rcases lookup_set held lookup with ⟨rfl,rfl⟩ | ⟨apart,before⟩
    · rw [if_pos rfl]
      rfl
    · rw [if_neg apart,sound.own j found before]
  · intro j found lookup
    rcases lookup_set held lookup with ⟨rfl,rfl⟩ | ⟨apart,before⟩
    · trivial
    · exact sound.built j found before
  · change w.store.committed ++ w.store.own i = _
    rw [sound.committed,sound.own i r held,at',List.flatMap_append,List.flatMap_singleton,List.append_assoc]
    rfl
  · rw [List.map_append]
    refine List.Nodup.append sound.once (List.nodup_singleton i) ?_
    intro j earlier same
    cases List.mem_singleton.mp same
    obtain ⟨⟨_,records⟩,member,rfl⟩ := List.mem_map.mp earlier
    exact sound.unrecorded held unanswered records member
  · intro j found member
    rcases List.mem_append.mp member with earlier | new
    · obtain ⟨other,before,rest⟩ := sound.recorded j found earlier
      have apart : j ≠ i := by
        rintro rfl
        exact sound.unrecorded held unanswered found earlier
      exact ⟨other,(List.getElem?_set_ne apart.symm).trans before,rest⟩
    · cases List.mem_singleton.mp new
      exact ⟨_,List.getElem?_set_self (List.getElem?_eq_some_iff.mp held).1,rfl,records⟩
  · intro j found other lookup answered
    rcases lookup_set held lookup with ⟨rfl,rfl⟩ | ⟨apart,before⟩
    · cases answered
      exact ⟨_,List.mem_append_right _ (List.mem_singleton.mpr rfl),rfl⟩
    · obtain ⟨records,member,same⟩ := sound.created j found other before answered
      exact ⟨records,List.mem_append_left _ member,same⟩

theorem execute_running (ran : execute hashpw s i r sampled = some (store,pc)) : r.pc.ended = false := by
  obtain ⟨request,from'⟩ := r
  cases from' with
  | answered | cancelled => cases ran
  | _ => rfl

theorem running_unanswered (running : r.pc.ended = false) (user : UserRow) : r.pc ≠ .answered (.created user) := by
  intro same
  rw [same] at running
  cases running

theorem call_sound (sound : Sound hashpw start w) (request : RegistrationRequest) :
    Sound hashpw start {w with store := w.store.begin,calls := w.calls ++ [⟨request,.selectUser⟩]} := by
  have lookup : ∀ {j : Nat} {found : Running}, (w.calls ++ [⟨request,.selectUser⟩])[j]? = some found →
      w.calls[j]? = some found ∨ j = w.calls.length ∧ found = ⟨request,.selectUser⟩ := by
    intro j found held
    rcases Nat.lt_or_ge j w.calls.length with earlier | later
    · exact .inl ((List.getElem?_append_left earlier).symm.trans held)
    · rw [List.getElem?_append_right later,List.getElem?_singleton] at held
      split at held
      · exact .inr ⟨by omega,(Option.some.inj held).symm⟩
      · cases held
  refine ⟨Store.begin_exclusive sound.exclusive,?_,?_,?_,sound.committed,sound.once,?_,?_⟩
  · change (w.store.staged ++ [[]]).length = (w.calls ++ [_]).length
    rw [List.length_append,List.length_append,sound.slots]
    rfl
  · intro j found held
    rw [Store.own_begin]
    rcases lookup held with before | ⟨rfl,rfl⟩
    · exact sound.own j found before
    · exact Store.own_outside (Nat.le_of_eq sound.slots)
  · intro j found held
    rcases lookup held with before | ⟨rfl,rfl⟩
    · exact sound.built j found before
    · trivial
  · intro j records member
    obtain ⟨found,before,rest⟩ := sound.recorded j records member
    exact ⟨found,(List.getElem?_append_left (List.getElem?_eq_some_iff.mp before).1).trans before,rest⟩
  · intro j found user held answered
    rcases lookup held with before | ⟨rfl,rfl⟩
    · exact sound.created j found user before answered
    · cases answered

theorem statement_sound (sound : Sound hashpw start w) (held : w.calls[i]? = some r)
    (ran : execute hashpw w.store i r sampled = some (store,pc)) :
    Sound hashpw start ⟨store,w.calls.set i {r with pc},w.registered ++ r.pc.records.map (i,·)⟩ := by
  have unanswered := running_unanswered (execute_running ran)
  have bound : i < w.store.staged.length := by
    rw [sound.slots]
    exact (List.getElem?_eq_some_iff.mp held).1
  cases execute_moves ran with
  | reads before after records later built =>
    rw [records,List.map_nil,List.append_nil]
    refine sound.moved held unanswered later sound.exclusive rfl ?_ built rfl
    intro j
    rw [after]
    split
    · rename_i same
      rw [same,sound.own i r held,before]
    · rfl
  | inserts inserts rows later records built =>
    rw [records,List.map_nil,List.append_nil]
    refine sound.moved held unanswered later (Store.insert_exclusive inserts (Row.keys_nodup _) sound.exclusive) ?_ ?_
      (built (sound.built i r held)) ?_
    · rw [inserts.result]
      exact List.length_modify ..
    · intro j
      rw [inserts.own bound,rows,sound.own i r held]
    · rw [inserts.result]
  | aborts records =>
    rw [records,List.map_nil,List.append_nil]
    exact sound.aborted held unanswered (fun user same => by cases same) rfl trivial
  | commits at' => exact sound.committing held at'

theorem step_sound (sound : Sound hashpw start w) (ran : step hashpw w action = some next) : Sound hashpw start next := by
  cases action with
  | call raw =>
    obtain ⟨request,_,same⟩ := Option.bind_eq_some_iff.mp ran
    cases same
    exact call_sound sound request
  | statement i sampled =>
    obtain ⟨r,held,same⟩ := Option.bind_eq_some_iff.mp ran
    obtain ⟨⟨store,pc⟩,executed,same⟩ := Option.bind_eq_some_iff.mp same
    cases same
    exact statement_sound sound held executed
  | fault i | cancel i =>
    obtain ⟨r,held,same⟩ := Option.bind_eq_some_iff.mp ran
    split at same
    · cases same
    · rename_i running
      cases same
      refine sound.aborted held (running_unanswered (Bool.eq_false_iff.mpr running)) ?_ rfl trivial
      exact fun user same => by cases same

abbrev Reached (hashpw : String → String → String) (rows : List Row) (w : World) : Prop :=
  Runs.Reached (step hashpw) (fun _ _ => True) (World.idle rows) w

theorem reached_sound (distinct : (start.flatMap Row.keys).Nodup) (path : Reached hashpw start w) :
    Sound hashpw start w :=
  path.invariant (Sound hashpw start) (idle_sound distinct) fun sound _ ran => step_sound sound ran

-- What an answer of 201 stands for.
def Created (w : World) (i : Nat) (r : Running) : Prop :=
  w.calls[i]? = some r ∧ ∃ user, r.pc = .answered (.created user)

theorem Sound.apart (sound : Sound hashpw start w) {j : Nat} {one other : Records} (first : (i,one) ∈ w.registered)
    (second : (j,other) ∈ w.registered) (distinct : i ≠ j) :
    List.Disjoint (one.rows.flatMap Row.keys) (other.rows.flatMap Row.keys) := by
  have exclusive : ((w.registered.flatMap (·.2.rows)).flatMap Row.keys).Nodup := by
    have all := sound.exclusive
    unfold Store.Exclusive Store.all at all
    rw [sound.committed,List.append_assoc,List.flatMap_append,List.flatMap_append] at all
    exact (List.nodup_append.mp (List.nodup_append.mp all).2.1).1
  rw [List.flatMap_assoc,List.nodup_flatMap] at exclusive
  have symmetric : Std.Symm (Function.onFun List.Disjoint fun x : Nat × Records => x.2.rows.flatMap Row.keys) :=
    ⟨fun _ _ disjoint => disjoint.symm⟩
  refine exclusive.2.forall first second ?_
  intro same
  exact distinct (congrArg Prod.fst same)

theorem Sound.different (sound : Sound hashpw start w) {j : Nat} {q : Running} (first : Created w i r)
    (second : Created w j q) (distinct : i ≠ j) :
    lower r.request.user.email ≠ lower q.request.user.email ∧
      lower r.request.tenant.slug ≠ lower q.request.tenant.slug := by
  obtain ⟨held,user,answered⟩ := first
  obtain ⟨held',user',answered'⟩ := second
  obtain ⟨one,listed,_⟩ := sound.created i r user held answered
  obtain ⟨other,listed',_⟩ := sound.created j q user' held' answered'
  obtain ⟨_,again,_,⟨⟨⟨id,salt,now,named⟩,_⟩,⟨⟨id₂,owned⟩,_⟩,_⟩⟩ := sound.recorded i one listed
  cases held.symm.trans again
  obtain ⟨_,again,_,⟨⟨⟨id',salt',now',named'⟩,_⟩,⟨⟨id₂',owned'⟩,_⟩,_⟩⟩ := sound.recorded j other listed'
  cases held'.symm.trans again
  have disjoint := sound.apart listed listed' distinct
  constructor
  · intro same
    refine disjoint (a := Key.email (lower r.request.user.email)) ?_ ?_
    · simp [Records.rows,Row.keys,named,newUser,lower_lower]
    · simp [Records.rows,Row.keys,named',newUser,lower_lower,same]
  · intro same
    refine disjoint (a := Key.slug (lower r.request.tenant.slug)) ?_ ?_
    · simp [Records.rows,Row.keys,owned,newTenant]
    · simp [Records.rows,Row.keys,owned',newTenant,same]

theorem mainSite_length (name : String) : (mainSite name).length = name.length + 12 := by
  unfold mainSite
  rw [String.length_append]
  rfl

-- The main site's name has to fit into its column.
theorem Records.Of.nameLength {records : Records} (built : records.Of hashpw request) : request.tenant.name.length ≤ 243 := by
  obtain ⟨_,_,⟨⟨id,named⟩,wellFormed⟩,_⟩ := built
  rw [named] at wellFormed
  unfold Row.wellFormed newSite sized at wellFormed
  simp only [Bool.and_eq_true,decide_eq_true_eq,mainSite_length] at wellFormed
  omega

theorem registration_atomic (hashpw : String → String → String) (start : List Row)
    (distinct : (start.flatMap Row.keys).Nodup) (w : World) (path : Reached hashpw start w) :
    (w.store.committed.flatMap Row.keys).Nodup ∧
      (∃ registered : List (Nat × Records), (registered.map (·.1)).Nodup ∧
        w.store.committed = start ++ registered.flatMap (·.2.rows) ∧
        (∀ i r user, w.calls[i]? = some r →
          (r.pc = .answered (.created user) ↔ ∃ records, (i,records) ∈ registered ∧ records.user = user)) ∧
        ∀ i records, (i,records) ∈ registered → ∃ r : Running, w.calls[i]? = some r ∧ records.Of hashpw r.request) ∧
      (∀ i r, Created w i r → r.request.tenant.name.length ≤ 243) ∧
      ∀ i j r q, Created w i r → Created w j q → i ≠ j →
        lower r.request.user.email ≠ lower q.request.user.email ∧
          lower r.request.tenant.slug ≠ lower q.request.tenant.slug := by
  have sound := reached_sound distinct path
  refine ⟨?_,⟨w.registered,sound.once,sound.committed,?_,?_⟩,?_,?_⟩
  · have all := sound.exclusive
    unfold Store.Exclusive Store.all at all
    rw [List.flatMap_append] at all
    exact (List.nodup_append.mp all).1
  · intro i r user held
    constructor
    · exact sound.created i r user held
    · rintro ⟨records,listed,rfl⟩
      obtain ⟨_,again,answered,_⟩ := sound.recorded i records listed
      cases held.symm.trans again
      exact answered
  · intro i records listed
    obtain ⟨r,held,_,built⟩ := sound.recorded i records listed
    exact ⟨r,held,built⟩
  · rintro i r ⟨held,user,answered⟩
    obtain ⟨records,listed,_⟩ := sound.created i r user held answered
    obtain ⟨_,again,_,built⟩ := sound.recorded i records listed
    cases held.symm.trans again
    exact built.nameLength
  · intro i j r q first second apart
    exact sound.different first second apart

-- Two registrations of one address, both past their SELECTs, of which one waits
-- for the other and then fails.
def acme : RegistrationRequest := ⟨⟨"Ann@acme.io","Ann","correct horse",none⟩,⟨"Acme","acme",none,none⟩⟩

def rival : RegistrationRequest := ⟨⟨"ann@ACME.io","Bob","battery staple",none⟩,⟨"Rival","rival",none,none⟩⟩

def hashed (password salt : String) : String := password ++ salt

def sample (newId : String) : Sampled := ⟨newId,"$",0⟩

def race : List Action :=
  [.call acme,.call rival,.statement 0 (sample "u"),.statement 1 (sample "v"),.statement 0 (sample "u"),.statement 1 (sample "v"),
   .statement 0 (sample "U1"),.statement 0 (sample "T1"),.statement 0 (sample "S1"),.statement 0 (sample "M1"),
   .statement 0 (sample "x"),.statement 1 (sample "U2")]

theorem race_registered : ∃ w, Reached hashed [] w ∧ (w.store.committed.flatMap Row.keys).Nodup ∧
    w.store.committed.length = 4 ∧ (w.calls.map (·.pc))[1]? = some (.answered .failed) := by
  obtain ⟨w,path,_,passed⟩ := Runs.Reached.passed (.refl : Reached hashed [] (World.idle [])) race
    (fun w => w.store.committed.length = 4 && (w.calls.map (·.pc))[1]? = some (.answered .failed)) (by decide +kernel)
  rw [Bool.and_eq_true,decide_eq_true_eq,decide_eq_true_eq] at passed
  exact ⟨w,path,(registration_atomic hashed [] List.nodup_nil w path).1,passed⟩

end SmartParking.Auth.Registration
