import Mathlib.Data.List.Sort
import SmartParking.Lib.Glob
import SmartParking.Lib.Md5
import SmartParking.Spaces.Catalog

namespace SmartParking.Spaces.ListCache
open Lib Lib.Runs
open Auth.ApiKeys (TenantContext HttpError UserRole requireRole checkScopes)
open Audit (SpaceUpdate)
open Catalog (Tables Database SpaceRow SiteRow Instant Device SpaceCreate Document)

structure Filters where
  building : Option String := none
  floor : Option String := none
  zone : Option String := none
  state : Option SpaceState := none
  siteId : Option String := none
  includeDeleted : Bool := false
  deriving DecidableEq

-- What a list is asked for.
structure Query where
  tenantId : String
  filters : Filters
  deriving DecidableEq

structure Listed where
  id : String
  name : String
  code : String
  building : Option String
  floor : Option String
  zone : Option String
  state : SpaceState
  siteId : Option String
  siteName : Option String
  tenantId : Option String
  sensorEui : Option String
  displayEui : Option String
  gpsLatitude : Option Int
  gpsLongitude : Option Int
  metadata : Document
  createdAt : Instant
  updatedAt : Instant
  deletedAt : Option Instant
  deriving DecidableEq

structure Listing where
  spaces : List Listed
  count : Nat
  deriving DecidableEq

-- A coordinate of zero is falsy, and shown as null.
def listed (sites : List SiteRow) (space : SpaceRow) : Listed where
  id := space.id
  name := space.name
  code := space.code
  building := space.building
  floor := space.floor
  zone := space.zone
  state := space.state
  siteId := space.siteId
  siteName := space.siteId.bind fun siteId => (sites.find? (·.id == siteId)).map (·.name)
  tenantId := space.tenantId
  sensorEui := space.sensorEui
  displayEui := space.displayEui
  gpsLatitude := space.gpsLatitude.filter (· ≠ 0)
  gpsLongitude := space.gpsLongitude.filter (· ≠ 0)
  metadata := space.metadata
  createdAt := space.createdAt
  updatedAt := space.updatedAt
  deletedAt := space.deletedAt

def platformTenantId : String := "00000000-0000-0000-0000-000000000000"

def isPlatformAdmin (tenant : TenantContext) : Bool :=
  tenant.userRole == some .platformAdmin && tenant.tenantId == platformTenantId

def Filters.admits (f : Filters) (space : SpaceRow) : Bool :=
  f.building.all (space.building == some ·) && f.floor.all (space.floor == some ·) &&
  f.zone.all (space.zone == some ·) && f.state.all (space.state == ·) && f.siteId.all (space.siteId == some ·) &&
  (f.includeDeleted || space.deletedAt.isNone)

-- `ORDER BY s.code, s.name`
def before (a b : SpaceRow) : Prop := a.code < b.code ∨ a.code = b.code ∧ a.name ≤ b.name

instance : DecidableRel before := fun a b => inferInstanceAs (Decidable (a.code < b.code ∨ a.code = b.code ∧ a.name ≤ b.name))

-- The query as the handler sends it, for all tenants where `everywhere`.
def select (t : Tables) (everywhere : Bool) (q : Query) : Listing :=
  let rows := (t.spaces.filter fun space =>
    (everywhere || space.tenantId == some q.tenantId) && q.filters.admits space).insertionSort before
  ⟨rows.map (listed t.sites),rows.length⟩

-- What the uncached query returns to a member of the tenant.
def answer (db : Database) (q : Query) : Listing := select db.tables false q

section Key

def hexEscape (n : Nat) : List Char :=
  '\\' :: 'u' :: [n/4096,n/256%16,n/16%16,n%16].map Sha256.hexDigit

-- A character as `json.dumps` writes it, with `ensure_ascii`.
def jsonChar (c : Char) : List Char :=
  match c with
  | '"' => ['\\','"']
  | '\\' => ['\\','\\']
  | '\n' => ['\\','n']
  | '\r' => ['\\','r']
  | '\t' => ['\\','t']
  | _ =>
    let n := c.toNat
    if n = 8 then ['\\','b']
    else if n = 12 then ['\\','f']
    else if 32 ≤ n ∧ n ≤ 126 then [c]
    else if n < 65536 then hexEscape n
    else hexEscape (0xd800 + (n-65536)/1024) ++ hexEscape (0xdc00 + (n-65536)%1024)

def jsonText (text : String) : String := String.ofList ('"'::text.toList.flatMap jsonChar ++ ['"'])

def jsonOption (value : Option String) : String := (value.map jsonText).getD "null"

-- `json.dumps(cache_key_data, sort_keys=True)`
def keyData (q : Query) : String :=
  "\x7b\"building\": " ++ jsonOption q.filters.building ++ ", \"floor\": " ++ jsonOption q.filters.floor ++
  ", \"include_deleted\": " ++ (if q.filters.includeDeleted then "true" else "false") ++
  ", \"site_id\": " ++ jsonOption q.filters.siteId ++
  ", \"state\": " ++ jsonOption (q.filters.state.map SpaceState.value) ++
  ", \"tenant_id\": " ++ jsonText q.tenantId ++ ", \"zone\": " ++ jsonOption q.filters.zone ++ "\x7d"

def cacheKey (q : Query) : List Char := "spaces:list:".toList ++ Md5.hexdigest (keyData q)

end Key

-- An entry of Redis. The query that it answered is not part of it, and only says
-- where it came from.
structure Entry where
  key : List Char
  value : Listing
  expires : Instant
  query : Query

abbrev Cache := List Entry

namespace Cache

def find (cache : Cache) (key : List Char) (now : Instant) : Option Entry :=
  List.find? (fun entry => entry.key == key && now < entry.expires) cache

def ttl : Instant := 60*1000000

def setex (cache : Cache) (q : Query) (value : Listing) (now : Instant) : Cache :=
  ⟨cacheKey q,value,now+ttl,q⟩::List.filter (fun entry => entry.key != cacheKey q) cache

def deletePattern (cache : Cache) (pattern : String) : Cache :=
  List.filter (fun entry => !glob pattern.toList entry.key) cache

def invalidateSpaceCache (cache : Cache) (tenantId : String) (spaceId : Option String := none) : Cache :=
  match spaceId with
  | some spaceId =>
    (cache.deletePattern ("spaces:*" ++ tenantId ++ "*" ++ spaceId ++ "*")).deletePattern
      ("space_detail:*" ++ spaceId ++ "*")
  | none => cache.deletePattern ("spaces:*" ++ tenantId ++ "*")

end Cache

structure State where
  db : Database
  cache : Cache
  clock : Instant

inductive Write where
  | createSpace (space : SpaceCreate) (id : String)
  | updateSpace (spaceId : String) (u : SpaceUpdate)
  | deleteSpace (spaceId : String)
  | assignDevice (device : Device) (spaceId eui : String)
  | unassignDevice (device : Device) (spaceId : String)

def Write.action (tenant : TenantContext) (now : Instant) : Write → Catalog.Action
  | .createSpace space id => .createSpace tenant space id now
  | .updateSpace spaceId u => .updateSpace tenant spaceId u now
  | .deleteSpace spaceId => .deleteSpace tenant spaceId now
  | .assignDevice device spaceId eui => .assignDevice tenant device spaceId eui now
  | .unassignDevice device spaceId => .unassignDevice tenant device spaceId now

-- The handlers of the device endpoints invalidate nothing.
def Write.invalidate (tenantId : String) (cache : Cache) : Write → Cache
  | .createSpace .. => cache.invalidateSpaceCache tenantId
  | .updateSpace spaceId _ | .deleteSpace spaceId => cache.invalidateSpaceCache tenantId (some spaceId)
  | .assignDevice .. | .unassignDevice .. => cache

def Write.serve (db : Database) (cache : Cache) (tenant : TenantContext) (now : Instant) (write : Write) :
    Database × Cache :=
  match Catalog.serve db (write.action tenant now) with
  | (next,none) => (next,write.invalidate tenant.tenantId cache)
  | (next,some _) => (next,cache)

def authorize (tenant : TenantContext) : Except HttpError TenantContext :=
  (checkScopes ["spaces:read"] tenant).bind fun _ => requireRole .viewer tenant

def listSpaces (db : Database) (cache : Cache) (tenant : TenantContext) (filters : Filters) (now : Instant) :
    Cache × Except HttpError Listing :=
  match authorize tenant with
  | .error error => (cache,.error error)
  | .ok tenant =>
    let q : Query := ⟨tenant.tenantId,filters⟩
    match cache.find (cacheKey q) now with
    | some entry => (cache,.ok entry.value)
    | none =>
      let result := select db.tables (isPlatformAdmin tenant) q
      (cache.setex q result now,.ok result)

-- One operation after another.
inductive Action where
  | list (tenant : TenantContext) (filters : Filters) (now : Instant)
  | write (tenant : TenantContext) (write : Write) (now : Instant)

def step (s : State) : Action → Option State
  | .list tenant filters now =>
    if s.clock ≤ now then some ⟨s.db,(listSpaces s.db s.cache tenant filters now).1,now⟩ else none
  | .write tenant write now =>
    if s.clock ≤ now then
      let served := write.serve s.db s.cache tenant now
      some ⟨served.1,served.2,now⟩
    else none

-- The text of a UUID.
def uuidText (text : String) : Bool :=
  text.toList.map (fun c => if "0123456789abcdef".toList.contains c then 'x' else c) =
    "xxxxxxxx-xxxx-xxxx-xxxx-xxxxxxxxxxxx".toList

-- What `get_current_tenant` gives: a context from an API key has no role.
def Resolved (tenant : TenantContext) : Prop := tenant.source = .apiKey → tenant.userRole = none

-- A list is read from the entry of its own query, if from any, and a write
-- changes no answer that is still cached.
def Meets (s : State) : Action → Prop
  | .list tenant filters now => Resolved tenant ∧
    ∀ entry ∈ s.cache, now < entry.expires → entry.key = cacheKey ⟨tenant.tenantId,filters⟩ →
      entry.query = ⟨tenant.tenantId,filters⟩
  | .write tenant write now =>
    ∀ entry ∈ s.cache, now < entry.expires →
      answer (write.serve s.db s.cache tenant now).1 entry.query = answer s.db entry.query

def Fresh (s : State) : Prop := ∀ entry ∈ s.cache, s.clock < entry.expires → entry.value = answer s.db entry.query

variable {s next : State} {tenant : TenantContext} {filters : Filters} {now : Instant} {q : Query} {cache : Cache}
  {entry : Entry} {result : Listing} {db : Database} {write : Write}

theorem uuidText_hyphen {text : String} (uuid : uuidText text = true) : '-' ∈ text.toList := by
  have shape := of_decide_eq_true uuid
  have listed : '-' ∈ "xxxxxxxx-xxxx-xxxx-xxxx-xxxxxxxxxxxx".toList := by decide
  rw [← shape] at listed
  obtain ⟨c,member,same⟩ := List.mem_map.mp listed
  split at same
  · cases same
  · rwa [← same]

theorem cacheKey_chars (q : Query) : ∀ c ∈ cacheKey q, c ∈ "spaces:list:0123456789abcdef".toList := by
  intro c listed
  rcases List.mem_append.mp listed with literal | digest
  · exact List.mem_append_left "0123456789abcdef".toList literal
  · exact List.mem_append_right "spaces:list:".toList (Md5.hexdigest_digits _ _ digest)

-- A pattern with any other character in it matches the key of no list.
theorem find_deletePattern {pattern : String} (c : Char) (listed : c ∈ pattern.toList) (literal : c ≠ '*' ∧ c ≠ '?')
    (foreign : c ∉ "spaces:list:0123456789abcdef".toList) (cache : Cache) (q : Query) (now : Instant) :
    (cache.deletePattern pattern).find (cacheKey q) now = cache.find (cacheKey q) now := by
  unfold Cache.deletePattern Cache.find
  rw [List.find?_filter]
  congr 1
  funext entry
  by_cases same : entry.key = cacheKey q
  · have unmatched : glob pattern.toList (cacheKey q) = false :=
      eq_false_of_ne_true fun matched => foreign (cacheKey_chars q c (glob_literal matched listed literal))
    simp [unmatched,same]
  · simp [same]

theorem find_invalidateSpaceCache {tenantId : String} (uuid : uuidText tenantId = true) (spaceId : Option String)
    (cache : Cache) (q : Query) (now : Instant) :
    (cache.invalidateSpaceCache tenantId spaceId).find (cacheKey q) now = cache.find (cacheKey q) now := by
  have hyphen := uuidText_hyphen uuid
  cases spaceId with
  | none => exact find_deletePattern '-' (by simp [hyphen]) (by decide) (by decide) cache q now
  | some spaceId =>
    refine (find_deletePattern '_' (by simp) (by decide) (by decide) _ q now).trans ?_
    exact find_deletePattern '-' (by simp [hyphen]) (by decide) (by decide) cache q now

-- So every cached list outlives the write.
theorem find_write (uuid : uuidText tenant.tenantId = true) (write : Write) (db : Database) (cache : Cache) (q : Query)
    (now : Instant) :
    (write.serve db cache tenant now).2.find (cacheKey q) now = cache.find (cacheKey q) now := by
  unfold Write.serve
  split
  · cases write with
    | createSpace space id => exact find_invalidateSpaceCache uuid none cache q now
    | updateSpace spaceId u => exact find_invalidateSpaceCache uuid (some spaceId) cache q now
    | deleteSpace spaceId => exact find_invalidateSpaceCache uuid (some spaceId) cache q now
    | assignDevice device spaceId eui => rfl
    | unassignDevice device spaceId => rfl
  · rfl

theorem authorize_ok {out : TenantContext} (admitted : authorize tenant = .ok out) (resolved : Resolved tenant) :
    out = tenant ∧ isPlatformAdmin tenant = false := by
  unfold authorize at admitted
  cases scopes : checkScopes ["spaces:read"] tenant with
  | error error => simp [scopes,Except.bind] at admitted
  | ok _ =>
    simp only [scopes,Except.bind,requireRole] at admitted
    split at admitted
    · rename_i key
      cases admitted
      exact ⟨rfl,by simp [isPlatformAdmin,resolved key]⟩
    · split at admitted
      · cases admitted
      · rename_i role known
        split at admitted
        · cases admitted
        · rename_i ranked
          cases admitted
          refine ⟨rfl,?_⟩
          cases role with
          | platformAdmin => exact absurd (by decide) ranked
          | _ => simp [isPlatformAdmin,known]

theorem mem_setex {value : Listing} (member : entry ∈ cache.setex q value now) :
    entry = ⟨cacheKey q,value,now+Cache.ttl,q⟩ ∨ entry ∈ cache := by
  rcases List.mem_cons.mp member with rfl | kept
  · exact .inl rfl
  · exact .inr (List.mem_of_mem_filter kept)

theorem mem_find {key : List Char} (found : cache.find key now = some entry) :
    entry ∈ cache ∧ entry.key = key ∧ now < entry.expires := by
  have selected := List.find?_some found
  simp only [Bool.and_eq_true,beq_iff_eq,decide_eq_true_eq] at selected
  exact ⟨List.mem_of_find?_eq_some found,selected⟩

theorem mem_invalidate {tenantId : String} (write : Write) (member : entry ∈ write.invalidate tenantId cache) :
    entry ∈ cache := by
  cases write with
  | createSpace space id => exact List.mem_of_mem_filter member
  | updateSpace spaceId u | deleteSpace spaceId => exact List.mem_of_mem_filter (List.mem_of_mem_filter member)
  | assignDevice device spaceId eui => exact member
  | unassignDevice device spaceId => exact member

theorem mem_serve (member : entry ∈ (write.serve db cache tenant now).2) : entry ∈ cache := by
  unfold Write.serve at member
  split at member
  · exact mem_invalidate write member
  · exact member

-- What a list call returns and leaves in the cache.
inductive Answers (db : Database) (cache : Cache) (tenant : TenantContext) (filters : Filters) (now : Instant) :
    Cache × Except HttpError Listing → Prop where
  | refused : Answers db cache tenant filters now (cache,.error error)
  | hit {entry : Entry} : cache.find (cacheKey ⟨tenant.tenantId,filters⟩) now = some entry →
      Answers db cache tenant filters now (cache,.ok entry.value)
  | miss : Answers db cache tenant filters now
      (cache.setex ⟨tenant.tenantId,filters⟩ (answer db ⟨tenant.tenantId,filters⟩) now,
        .ok (answer db ⟨tenant.tenantId,filters⟩))

theorem listSpaces_answers (resolved : Resolved tenant) (db : Database) (cache : Cache) (filters : Filters)
    (now : Instant) : Answers db cache tenant filters now (listSpaces db cache tenant filters now) := by
  unfold listSpaces
  cases admitted : authorize tenant with
  | error error => exact .refused
  | ok out =>
    obtain ⟨rfl,ordinary⟩ := authorize_ok admitted resolved
    dsimp only
    rw [ordinary]
    cases found : cache.find (cacheKey ⟨out.tenantId,filters⟩) now with
    | some entry => exact .hit found
    | none => exact .miss

theorem step_list (ran : step s (.list tenant filters now) = some next) :
    s.clock ≤ now ∧ next = ⟨s.db,(listSpaces s.db s.cache tenant filters now).1,now⟩ := by
  simp only [step,Option.ite_none_right_eq_some,Option.some.injEq] at ran
  exact ⟨ran.1,ran.2.symm⟩

theorem step_write (ran : step s (.write tenant write now) = some next) :
    s.clock ≤ now ∧
    next = ⟨(write.serve s.db s.cache tenant now).1,(write.serve s.db s.cache tenant now).2,now⟩ := by
  simp only [step,Option.ite_none_right_eq_some,Option.some.injEq] at ran
  exact ⟨ran.1,ran.2.symm⟩

theorem answers_fresh {out : Cache × Except HttpError Listing} (answers : Answers db cache tenant filters now out)
    (fresh : ∀ entry ∈ cache, now < entry.expires → entry.value = answer db entry.query) :
    ∀ entry ∈ out.1, now < entry.expires → entry.value = answer db entry.query := by
  cases answers with
  | refused => exact fresh
  | hit _ => exact fresh
  | miss =>
    intro entry member unexpired
    rcases mem_setex member with rfl | old
    · rfl
    · exact fresh entry old unexpired

theorem step_fresh {action : Action} (fresh : Fresh s) (meets : Meets s action) (ran : step s action = some next) :
    Fresh next := by
  cases action with
  | list tenant filters now =>
    obtain ⟨resolved,_⟩ := meets
    obtain ⟨later,rfl⟩ := step_list ran
    exact answers_fresh (listSpaces_answers resolved s.db s.cache filters now)
      fun entry old unexpired => fresh entry old (lt_of_le_of_lt later unexpired)
  | write tenant write now =>
    obtain ⟨later,rfl⟩ := step_write ran
    intro entry member unexpired
    have old := mem_serve member
    exact (fresh entry old (lt_of_le_of_lt later unexpired)).trans (meets entry old unexpired).symm

theorem reached_fresh {clock : Instant} (path : Reached step Meets ⟨db,[],clock⟩ s) : Fresh s :=
  path.invariant Fresh (fun _ member => absurd member List.not_mem_nil) step_fresh

-- In a run in which no write changes an answer that is still cached, every list
-- is right. A write that does is followed by a wrong one.
theorem list_coherent (db : Database) (clock : Instant) :
    (∀ s tenant filters now result, Reached step Meets ⟨db,[],clock⟩ s → s.clock ≤ now →
      Meets s (.list tenant filters now) → (listSpaces s.db s.cache tenant filters now).2 = .ok result →
      result = answer s.db ⟨tenant.tenantId,filters⟩) ∧
    ∀ s (writer : TenantContext) write now next, uuidText writer.tenantId = true →
      step s (.write writer write now) = some next →
      ∀ tenant filters, authorize tenant = .ok tenant →
      ∀ entry, s.cache.find (cacheKey ⟨tenant.tenantId,filters⟩) now = some entry →
        entry.value = answer s.db ⟨tenant.tenantId,filters⟩ →
        ((listSpaces next.db next.cache tenant filters now).2 = .ok (answer next.db ⟨tenant.tenantId,filters⟩) ↔
          answer next.db ⟨tenant.tenantId,filters⟩ = answer s.db ⟨tenant.tenantId,filters⟩) := by
  constructor
  · intro s tenant filters now result path later meets returned
    obtain ⟨resolved,own⟩ := meets
    have answers := listSpaces_answers resolved s.db s.cache filters now
    generalize listSpaces s.db s.cache tenant filters now = out at answers returned
    cases answers with
    | refused => cases returned
    | hit found =>
      cases returned
      obtain ⟨member,key,unexpired⟩ := mem_find found
      have fresh := reached_fresh path _ member (lt_of_le_of_lt later unexpired)
      rw [fresh,own _ member unexpired key]
    | miss => exact (Except.ok.inj returned).symm
  · intro s writer write now next uuid ran tenant filters admitted entry found right
    have cached : next.cache.find (cacheKey ⟨tenant.tenantId,filters⟩) now = some entry := by
      obtain ⟨_,rfl⟩ := step_write ran
      exact (find_write uuid write s.db s.cache _ now).trans found
    have returned : (listSpaces next.db next.cache tenant filters now).2 = .ok entry.value := by
      unfold listSpaces
      rw [admitted]
      dsimp only
      rw [cached]
    rw [returned,right,Except.ok.injEq,eq_comm]

def garage : Database := ⟨⟨[⟨"site-1","11111111-1111-4111-8111-111111111111","Garage","UTC",none,none,true⟩],[],[],[]⟩,by decide⟩

def manager : TenantContext where
  tenantId := "11111111-1111-4111-8111-111111111111"
  tenantName := "Acme"
  tenantSlug := "acme"
  userRole := some .admin
  source := .jwt

def addBay : Write := .createSpace {name := "Bay 1",code := "A-1",siteId := "site-1"} "space-1"

instance (s : State) (action : Action) : Decidable (Meets s action) :=
  match action with
  | .list tenant _ _ => inferInstanceAs (Decidable ((tenant.source = .apiKey → tenant.userRole = none) ∧ _))
  | .write .. => inferInstanceAs (Decidable (∀ _ ∈ s.cache, _))

-- The space is created once the first list has expired, and the third is a hit.
theorem list_coherent_expired : ∃ s : State,
    Reached step Meets ⟨garage,[],0⟩ s ∧ s.cache.length = 1 ∧
      ∃ result, (listSpaces s.db s.cache manager {} 80000000).2 = .ok result ∧ result.count = 1 ∧
        result = answer s.db ⟨manager.tenantId,{}⟩ := by
  have begun : Reached step Meets ⟨garage,[],0⟩ ⟨garage,[],0⟩ := .refl
  obtain ⟨s,path,length,later,meets,result,returned,count⟩ := begun.found (fun s action => decide (Meets s action))
    (fun s => s.cache.length = 1 ∧ s.clock ≤ 80000000 ∧ Meets s (.list manager {} 80000000) ∧
      ∃ result ∈ (listSpaces s.db s.cache manager {} 80000000).2.toOption, result.count = 1)
    [.list manager {} 1,.write manager addBay 70000000,.list manager {} 75000000]
    (fun _ test => of_decide_eq_true test) (by decide +kernel)
  have answered : (listSpaces s.db s.cache manager {} 80000000).2 = .ok result := by
    cases given : (listSpaces s.db s.cache manager {} 80000000).2 with
    | error error => rw [given] at returned; cases returned
    | ok value => rw [given] at returned; cases returned; rfl
  exact ⟨s,path,length,result,answered,count,
    (list_coherent garage 0).1 s manager {} 80000000 result path later meets answered⟩

-- A space created while the list is cached does not show.
theorem list_stale : ¬∀ (db : Database) (clock : Instant) (s : State) (tenant : TenantContext) (filters : Filters)
    (now : Instant) (result : Listing), Reached step (fun _ _ => True) ⟨db,[],clock⟩ s → s.clock ≤ now →
    Resolved tenant → uuidText tenant.tenantId = true →
    (listSpaces s.db s.cache tenant filters now).2 = .ok result →
    result = answer s.db ⟨tenant.tenantId,filters⟩ := by
  intro claim
  have begun : Reached step (fun _ _ => True) ⟨garage,[],0⟩ ⟨garage,[],0⟩ := .refl
  obtain ⟨s,path,later,returned,count⟩ := begun.found (fun _ _ => true)
    (fun s => s.clock ≤ 3 ∧ (listSpaces s.db s.cache manager {} 3).2.toOption = some ⟨[],0⟩ ∧
      (answer s.db ⟨manager.tenantId,{}⟩).count = 1)
    [.list manager {} 1,.write manager addBay 2] (fun _ _ => trivial) (by decide +kernel)
  have answered : (listSpaces s.db s.cache manager {} 3).2 = .ok ⟨[],0⟩ := by
    cases given : (listSpaces s.db s.cache manager {} 3).2 with
    | error error => rw [given] at returned; cases returned
    | ok value => rw [given] at returned; cases returned; rfl
  have resolved : Resolved manager := by
    intro key
    cases key
  have wrong := claim garage 0 s manager {} 3 ⟨[],0⟩ path later resolved (by decide +kernel) answered
  rw [← wrong] at count
  cases count

end SmartParking.Spaces.ListCache
