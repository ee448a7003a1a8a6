import SmartParking.Lib.Runs
import SmartParking.Auth.ApiKeys
import SmartParking.Uplink.Process

namespace SmartParking.Uplink.Secrets
open Lib Lib.Runs
open Auth.ApiKeys (HttpError)

-- A call between two SQL statements; a constructor names the next one.
inductive Pc where
  | idle
  | select (tenantId : String)
  | insertFirst (tenantId : String)
  | deactivate (tenantId : String)
  | insertRotated (tenantId : String)
  deriving DecidableEq

inductive Outcome where
  | secret (newSecret : String)
  | valueError (message : String)
  | databaseError
  deriving DecidableEq

-- `rotating` are the tenants whose secrets a rotation has deactivated and that
-- have got no new one since. The code keeps no such list.
structure State where
  secrets : List WebhookSecret
  calls : Nat → Pc
  outcomes : List (String × Outcome)
  rotating : List String

def State.initial : State := ⟨[],fun _ => .idle,[],[]⟩

def deactivated (tenantId : String) (secret : WebhookSecret) : WebhookSecret :=
  if secret.tenantId = tenantId then {secret with isActive := false} else secret

namespace State

def active (s : State) (tenantId : String) : List WebhookSecret :=
  s.secrets.filter fun secret => secret.tenantId == tenantId && secret.isActive

def goto (s : State) (c : Nat) (pc : Pc) : State := {s with calls := Function.update s.calls c pc}

def finish (s : State) (c : Nat) (tenantId : String) (outcome : Outcome) : State :=
  {s.goto c .idle with outcomes := (tenantId,outcome)::s.outcomes}

def insert (s : State) (tenantId newSecret : String) (now : Time) : State :=
  {s with
    secrets := s.secrets ++ [⟨tenantId,newSecret,true,now⟩]
    rotating := s.rotating.filter (· ≠ tenantId)}

def deactivate (s : State) (tenantId : String) : State :=
  {s with secrets := s.secrets.map (deactivated tenantId),rotating := tenantId::s.rotating}

-- One statement of `get_or_create_webhook_secret` or `rotate_webhook_secret`,
-- which may fail. `newSecret` is what `token_hex` draws.
def advance (s : State) (c : Nat) (fails : Bool) (newSecret : String) (now : Time) : Option State :=
  match s.calls c with
  | .idle => none
  | .select tenantId =>
    if fails then some (s.finish c tenantId .databaseError)
    else if s.active tenantId = [] then some (s.goto c (.insertFirst tenantId))
    else some (s.finish c tenantId (.valueError ("Webhook secret already exists for this tenant. " ++
      "Secrets cannot be retrieved after creation for security reasons.")))
  | .deactivate tenantId =>
    if fails then some (s.finish c tenantId .databaseError)
    else some ((s.deactivate tenantId).goto c (.insertRotated tenantId))
  | .insertFirst tenantId | .insertRotated tenantId =>
    if fails then some (s.finish c tenantId .databaseError)
    else some ((s.insert tenantId newSecret now).finish c tenantId (.secret newSecret))

end State

def signature (secret : WebhookSecret) (body : List Nat) : String :=
  String.ofList (Sha256.hex (Sha256.hmac (Sha256.encode secret.secretHash) body))

-- `verify_webhook_signature` of a tenant's request, whose one statement may fail.
def verifyWebhookSignature (s : State) (tenantId : String) (header : Option String) (body : List Nat) (fails : Bool) :
    Except HttpError Bool :=
  match Downlink.orNone header with
  | none => .ok true
  | some header =>
    if fails then .error ⟨500,"Failed to verify webhook signature"⟩
    else
      match Platform.newest (s.active tenantId) with
      | none => .ok true
      | some secret => if header = signature secret body then .ok true else .error ⟨401,"Invalid webhook signature"⟩

inductive Action where
  | create (c : Nat) (tenantId : String)
  | rotate (c : Nat) (tenantId : String)
  | run (c : Nat) (fails : Bool) (newSecret : String) (now : Time)
  | verify (tenantId : String) (header : Option String) (body : List Nat) (fails : Bool)

def step (s : State) : Action → Option State
  | .create c tenantId => if s.calls c = .idle then some (s.goto c (.select tenantId)) else none
  | .rotate c tenantId => if s.calls c = .idle then some (s.goto c (.deactivate tenantId)) else none
  | .run c fails newSecret now => s.advance c fails newSecret now
  | .verify .. => some s

-- A row is active when it is inserted: a tenant with one has had an active
-- secret.
def Issued (s : State) (tenantId : String) (secret : WebhookSecret) : Prop :=
  secret ∈ s.secrets ∧ secret.tenantId = tenantId

-- A request with the header is accepted only under a secret of the tenant.
def Verified (s : State) : Action → Prop
  | .verify tenantId (some header) body fails => (∃ secret, Issued s tenantId secret) →
    verifyWebhookSignature s tenantId (some header) body fails = .ok true →
    ∃ secret, Issued s tenantId secret ∧ header = signature secret body
  | _ => True

-- The verification reads the secrets while no rotation has left the tenant
-- without one, and the header is not empty; or the header is a right one, or the
-- read fails.
def Meets (s : State) : Action → Prop
  | .verify tenantId (some header) body fails => (∃ secret, Issued s tenantId secret) →
    (tenantId ∉ s.rotating ∨ fails = true) ∧ header ≠ "" ∨
      ∃ secret, Issued s tenantId secret ∧ header = signature secret body
  | _ => True

variable {s next : State} {action : Action} {tenantId other : String} {header : String} {body : List Nat} {fails : Bool}
  {secret : WebhookSecret} {c : Nat}

-- A tenant that was issued a secret has no active one exactly while `rotating`.
def Tracked (s : State) : Prop :=
  ∀ tenantId, (∃ secret, Issued s tenantId secret) → (s.active tenantId = [] ↔ tenantId ∈ s.rotating)

theorem active_insert (s : State) (tenantId newSecret : String) (now : Time) (other : String) :
    (s.insert tenantId newSecret now).active other =
      s.active other ++ (if tenantId = other then [⟨tenantId,newSecret,true,now⟩] else []) := by
  unfold State.active State.insert
  rw [List.filter_append]
  congr 1
  by_cases same : tenantId = other <;> simp [same]

theorem active_deactivate (s : State) (tenantId other : String) :
    (s.deactivate tenantId).active other = if tenantId = other then [] else s.active other := by
  unfold State.active State.deactivate
  split
  · rename_i same
    subst same
    refine List.filter_eq_nil_iff.mpr ?_
    intro secret member
    obtain ⟨before,_,rfl⟩ := List.mem_map.mp member
    unfold deactivated
    split
    · simp
    · rename_i apart
      simp [apart]
  · rename_i apart
    induction s.secrets with
    | nil => rfl
    | cons first rest ih =>
      rw [List.map_cons,List.filter_cons,List.filter_cons,ih]
      unfold deactivated
      split
      · rename_i own
        have foreign : (first.tenantId == other) = false := by simpa [own] using apart
        simp [foreign]
      · rfl

theorem deactivated_tenantId (tenantId : String) (secret : WebhookSecret) :
    (deactivated tenantId secret).tenantId = secret.tenantId := by
  unfold deactivated
  split <;> rfl

theorem issued_deactivate : (∃ secret, Issued (s.deactivate tenantId) other secret) ↔ ∃ secret, Issued s other secret := by
  constructor
  · intro known
    obtain ⟨_,member,owner⟩ := known
    obtain ⟨before,listed,rfl⟩ := List.mem_map.mp member
    exact ⟨before,listed,(deactivated_tenantId tenantId before).symm.trans owner⟩
  · intro known
    obtain ⟨secret,listed,owner⟩ := known
    exact ⟨_,List.mem_map_of_mem listed,(deactivated_tenantId tenantId secret).trans owner⟩

theorem Tracked.same (tracked : Tracked s) (secrets : next.secrets = s.secrets) (rotating : next.rotating = s.rotating) :
    Tracked next := by
  unfold Tracked Issued State.active
  rw [secrets,rotating]
  exact tracked

theorem insert_tracked (tracked : Tracked s) (tenantId newSecret : String) (now : Time) :
    Tracked (s.insert tenantId newSecret now) := by
  intro other known
  have rotating : other ∈ (s.insert tenantId newSecret now).rotating ↔ other ∈ s.rotating ∧ other ≠ tenantId := by
    simp [State.insert]
  rw [active_insert,rotating]
  by_cases same : tenantId = other
  · simp [same]
  · rw [if_neg same,List.append_nil]
    have issued : ∃ secret, Issued s other secret := by
      obtain ⟨secret,listed,owner⟩ := known
      rcases List.mem_append.mp listed with old | added
      · exact ⟨secret,old,owner⟩
      · rw [List.mem_singleton.mp added] at owner
        exact absurd owner same
    rw [tracked other issued]
    exact ⟨fun member => ⟨member,Ne.symm same⟩,fun member => member.1⟩

theorem deactivate_tracked (tracked : Tracked s) (tenantId : String) : Tracked (s.deactivate tenantId) := by
  intro other known
  have rotating : other ∈ (s.deactivate tenantId).rotating ↔ other = tenantId ∨ other ∈ s.rotating := List.mem_cons
  rw [active_deactivate,rotating]
  by_cases same : tenantId = other
  · simp [same]
  · rw [if_neg same,tracked other (issued_deactivate.mp known)]
    exact ⟨.inr,fun either => either.resolve_left (Ne.symm same)⟩

theorem advance_tracked (tracked : Tracked s) (ran : s.advance c fails newSecret now = some next) : Tracked next := by
  unfold State.advance at ran
  cases calling : s.calls c with
  | idle => simp [calling] at ran
  | select tenantId =>
    simp only [calling] at ran
    split at ran
    · cases ran; exact tracked.same rfl rfl
    · split at ran
      · cases ran; exact tracked.same rfl rfl
      · cases ran; exact tracked.same rfl rfl
  | deactivate tenantId =>
    simp only [calling] at ran
    split at ran
    · cases ran; exact tracked.same rfl rfl
    · cases ran; exact (deactivate_tracked tracked tenantId).same rfl rfl
  | insertFirst tenantId | insertRotated tenantId =>
    simp only [calling] at ran
    split at ran
    · cases ran; exact tracked.same rfl rfl
    · cases ran; exact (insert_tracked tracked tenantId _ _).same rfl rfl

theorem step_tracked (tracked : Tracked s) (ran : step s action = some next) : Tracked next := by
  cases action with
  | create c tenantId | rotate c tenantId =>
    simp only [step] at ran
    split at ran
    · cases ran; exact tracked.same rfl rfl
    · cases ran
  | run c fails newSecret now => exact advance_tracked tracked ran
  | verify tenantId header body fails => cases ran; exact tracked

theorem newest_mem {secrets : List WebhookSecret} (found : Platform.newest secrets = some secret) : secret ∈ secrets := by
  induction secrets generalizing secret with
  | nil => cases found
  | cons first rest ih =>
    unfold Platform.newest at found
    cases later : Platform.newest rest with
    | none =>
      simp only [later] at found
      cases found
      exact List.mem_cons_self
    | some other =>
      simp only [later] at found
      split at found
      · cases found
        exact List.mem_cons_of_mem _ (ih later)
      · cases found
        exact List.mem_cons_self

theorem newest_none {secrets : List WebhookSecret} : Platform.newest secrets = none ↔ secrets = [] := by
  cases secrets with
  | nil => simp [Platform.newest]
  | cons first rest =>
    unfold Platform.newest
    cases later : Platform.newest rest with
    | none => simp
    | some other =>
      dsimp only
      split <;> simp

theorem active_issued (listed : secret ∈ s.active tenantId) : Issued s tenantId secret := by
  obtain ⟨member,selected⟩ := List.mem_filter.mp listed
  simp only [Bool.and_eq_true,beq_iff_eq] at selected
  exact ⟨member,selected.1⟩

-- What an accepted header was checked against.
theorem accepts_iff : verifyWebhookSignature s tenantId (some header) body fails = .ok true ↔
    header = "" ∨ fails = false ∧ ∀ secret, Platform.newest (s.active tenantId) = some secret →
      header = signature secret body := by
  unfold verifyWebhookSignature
  by_cases empty : header = ""
  · subst empty
    exact iff_of_true rfl (.inl rfl)
  · have present : Downlink.orNone (some header) = some header := by simp [Downlink.orNone,empty]
    rw [present]
    dsimp only
    cases fails with
    | true => simp [empty]
    | false =>
      cases found : Platform.newest (s.active tenantId) with
      | none => simp [empty]
      | some secret =>
        by_cases right : header = signature secret body
        · simp [← right]
        · simp [empty,right]

theorem verified_iff (tracked : Tracked s) (action : Action) : Verified s action ↔ Meets s action := by
  cases action with
  | verify tenantId header body fails =>
    cases header with
    | none => exact Iff.rfl
    | some header =>
      refine imp_congr_right fun known => ?_
      have none_iff : Platform.newest (s.active tenantId) = none ↔ tenantId ∈ s.rotating :=
        newest_none.trans (tracked tenantId known)
      rw [accepts_iff]
      constructor
      · intro sound
        by_cases right : ∃ secret, Issued s tenantId secret ∧ header = signature secret body
        · exact .inr right
        · obtain ⟨present,checked⟩ := not_or.mp fun accepted => right (sound accepted)
          refine .inl ⟨?_,present⟩
          cases fails with
          | true => exact .inr rfl
          | false =>
            refine .inl fun rotating => checked ⟨rfl,?_⟩
            intro secret found
            rw [none_iff.mpr rotating] at found
            cases found
      · intro meets accepted
        rcases meets with ⟨settled,present⟩ | right
        · obtain ⟨ran,checked⟩ := accepted.resolve_left present
          have steady : tenantId ∉ s.rotating := settled.resolve_right (by simp [ran])
          obtain ⟨secret,found⟩ := Option.ne_none_iff_exists'.mp fun none => steady (none_iff.mp none)
          exact ⟨secret,active_issued (newest_mem found),checked secret found⟩
        · exact right
  | create c tenantId => exact Iff.rfl
  | rotate c tenantId => exact Iff.rfl
  | run c fails newSecret now => exact Iff.rfl

theorem initial_tracked : Tracked .initial := by
  intro tenantId known
  obtain ⟨secret,listed,_⟩ := known
  cases listed

-- Signed requests stay verified exactly in the runs that verify none between the
-- two statements of a rotation, or after the second one has failed.
theorem signatures_verified (actions : List Action) :
    Along step (fun s action _ => Verified s action) .initial actions ↔
      Along step (fun s action _ => Meets s action) .initial actions :=
  along_iff Tracked actions initial_tracked (fun tracked _ => verified_iff tracked _)
    fun tracked _ ran => step_tracked tracked ran

-- The INSERT of a rotation fails, and any signature is accepted from then on.
theorem rotation_opens : ¬∀ actions : List Action, Along step (fun s action _ => Verified s action) .initial actions := by
  intro claim
  have along := claim [.create 0 "tenant-1",.run 0 false "" 0,.run 0 false "secret-1" 0,.rotate 0 "tenant-1",
    .run 0 false "" 1,.run 0 true "" 1,.verify "tenant-1" (some "forged") [] false]
  obtain ⟨_,asked⟩ := along _ rfl
  obtain ⟨_,selected⟩ := asked _ rfl
  obtain ⟨_,inserted⟩ := selected _ rfl
  obtain ⟨_,rotating⟩ := inserted _ rfl
  obtain ⟨_,deactivated⟩ := rotating _ rfl
  obtain ⟨_,failed⟩ := deactivated _ rfl
  obtain ⟨verified,_⟩ := failed _ rfl
  obtain ⟨secret,⟨listed,_⟩,same⟩ := verified ⟨_,List.mem_singleton_self _,rfl⟩ rfl
  obtain rfl : secret = ⟨"tenant-1","secret-1",false,0⟩ := List.mem_singleton.mp listed
  revert same
  decide +kernel

end SmartParking.Uplink.Secrets
