import SmartParking.Lib.Lists
import SmartParking.Downlink.Custody

namespace SmartParking.Downlink
open Lib

def Live (s : State) (device : DeviceEui) (id : CmdId) : Prop :=
  s.redis.cmd id .deviceEui = some device ∧ s.custody.Has id

-- The device whose coalesce key an enqueue call has read and not yet set.
def EnqueuePc.critical : EnqueuePc → Option DeviceEui
  | .lrem a _ | .deleteCmd a _ | .incrCoalesced a | .hset a | .expire a _ | .rpush a _ | .setCoalesce a _ =>
    some a.deviceEui
  | _ => none

-- When a call reads the coalesce key of the device, no other call is between its
-- own read and write of that key, and the key names whatever the device has live.
def Tracked (device : DeviceEui) (s : State) : Action → Prop
  | .produce p _ => ∀ a, s.producers p = .getCoalesce a → a.deviceEui = device →
      (∀ q, q ≠ p → (s.producers q).critical ≠ some device) ∧
      ∀ id, Live s device id → s.redis.coalesce device = some id
  | _ => True

theorem step_pushes (stepped : Stepped s action next) (making : (s.producers p).incoming = some key)
    (made : (next.producers p).incoming = none) :
    ∃ a, s.producers p = .rpush a key ∧ next.producers p = .setCoalesce a key := by
  have unchanged : next.producers p ≠ s.producers p := by
    intro same
    rw [same,making] at made
    cases made
  cases stepped with
  | call q a before =>
    by_cases same : p = q
    · subst p
      rw [before] at making
      cases making
    · exact absurd (by simp [State.put,same]) unchanged
  | produce q uuid before produced =>
    by_cases same : p = q
    · subst p
      simp only [State.put,Function.update_self] at made ⊢
      rw [before] at making
      cases produced with
      | rpush => cases making; exact ⟨_,before,rfl⟩
      | expire => cases made
      | _ => cases making
    · exact absurd (by simp [State.put,same]) unchanged
  | _ => exact absurd rfl unchanged

theorem step_device (placed : Placed s) (stepped : Stepped s action next)
    (known : place s.events key ≠ .nowhere) (stored : next.redis.cmd key .deviceEui = some device) :
    s.redis.cmd key .deviceEui = some device := by
  cases step_cmd stepped key with
  | same same => rwa [same] at stored
  | deleted _ _ _ _ gone | cleaned _ _ _ _ gone | expired _ _ _ gone => rw [gone] at stored; cases stored
  | enqueued a fresh _ _ => exact absurd (placed.unplaced key fresh) known
  | retried w reply cmd _ _ _ set => rw [set] at stored; exact stored

theorem step_live (shaped : Shaped s) (owned : Owned s) (placed : Placed s) (stepped : Stepped s action next)
    (live : Live next device key) :
    Live s device key ∨
    ∃ p a, a.deviceEui = device ∧ s.producers p = .rpush a key ∧ next.producers p = .setCoalesce a key := by
  obtain ⟨stored,has⟩ := live
  have earlier : s.custody.Has key ∨ ∃ p, s.custody.incoming p = some key ∧ next.custody.incoming p = none := by
    rcases step_custody shaped placed.unplaced stepped with moved | ⟨w,_,same⟩
    · exact moved.has has
    · exact .inl (Custody.abandon_has (same ▸ has))
  rcases earlier with has | ⟨p,making,made⟩
  · have known : place s.events key ≠ .nowhere := placed.sound.has_known has
    exact .inl ⟨step_device placed stepped known stored,has⟩
  · obtain ⟨a,before,after⟩ := step_pushes stepped making made
    have at' : place s.events key = .incoming p := (placed.sound.incoming p key).mp making
    have device := step_device placed stepped (by rw [at']; exact nofun) stored
    obtain ⟨b,created,_,same⟩ := shaped.genuine device
    have owns := owned.producers p
    rw [before] at owns
    have creator : createdBy s.events key = some a := owns
    rw [created] at creator
    cases creator
    exact .inr ⟨p,a,same,before,after⟩

-- What a call knows about the live commands of its device, between reading and
-- writing the coalesce key.
def Phase (live : CmdId → Prop) : EnqueuePc → Prop
  | .lrem _ existing | .deleteCmd _ existing => ∀ id, live id → id = existing
  | .incrCoalesced _ | .hset _ | .expire _ _ | .rpush _ _ => ∀ id, ¬live id
  | .setCoalesce _ own => ∀ id, live id → id = own
  | _ => True

theorem Phase.fewer {pc : EnqueuePc} {live less : CmdId → Prop} (phase : Phase live pc)
    (fewer : ∀ id, less id → live id) : Phase less pc := by
  cases pc with
  | lrem a existing | deleteCmd a existing | setCoalesce a existing => exact fun id is => phase id (fewer id is)
  | incrCoalesced a | hset a | expire a id | rpush a id => exact fun id is => phase id (fewer id is)
  | _ => trivial

structure Coalesced (device : DeviceEui) (s : State) : Prop where
  unique : ∀ one other, Live s device one → Live s device other → one = other
  alone : ∀ p q, (s.producers p).critical = some device → (s.producers q).critical = some device → p = q
  phase : ∀ p, (s.producers p).critical = some device → Phase (Live s device) (s.producers p)

theorem initial_coalesced : Coalesced device State.initial := by
  refine ⟨?_,?_,?_⟩
  · intro one other live
    cases live.1
  · intro p q critical
    cases critical
  · intro p critical
    cases critical

theorem produced_critical (produced : Produced r p uuid issued pc next events later)
    (critical : later.critical = some device) :
    pc.critical = some device ∨ ∃ a, pc = .getCoalesce a ∧ a.deviceEui = device := by
  cases produced with
  | untracked | tracked => exact .inr ⟨_,rfl,Option.some.inj critical⟩
  | duplicate | different | incrDeduplicated | setCoalesce | incrEnqueued => cases critical
  | _ => exact .inl critical

theorem step_critical (stepped : Stepped s action next) (critical : (next.producers p).critical = some device) :
    (s.producers p).critical = some device ∨
    ∃ a uuid, action = .produce p uuid ∧ s.producers p = .getCoalesce a ∧ a.deviceEui = device := by
  cases stepped with
  | call q a _ =>
    by_cases same : p = q
    · subst p
      simp [State.put,EnqueuePc.critical] at critical
    · exact .inl (by simpa [State.put,same] using critical)
  | produce q uuid before produced =>
    by_cases same : p = q
    · subst p
      simp only [State.put,Function.update_self] at critical
      rcases produced_critical produced critical with old | ⟨a,rfl,of⟩
      · exact .inl (by rw [before,old])
      · exact .inr ⟨a,uuid,rfl,before,of⟩
    · exact .inl (by simpa [State.put,same] using critical)
  | _ => exact .inl critical

theorem coalesced_alone (coalesced : Coalesced device s) (tracked : Tracked device s action) (stepped : Stepped s action next)
    (one : (next.producers p).critical = some device) (other : (next.producers q).critical = some device) :
    p = q := by
  rcases step_critical stepped one with old | ⟨a,uuid,rfl,before,of⟩ <;>
    rcases step_critical stepped other with prior | ⟨b,uuid',equal,before',of'⟩
  · exact coalesced.alone p q old prior
  · by_contra different
    subst equal
    exact (tracked b before' of').1 p different old
  · by_contra different
    exact (tracked a before of).1 q (Ne.symm different) prior
  · cases equal
    rfl

-- A command that has become live while a call of the device is between read and
-- write was pushed by that call.
theorem coalesced_live (coalesced : Coalesced device s) (shaped : Shaped s) (owned : Owned s) (placed : Placed s)
    (tracked : Tracked device s action) (stepped : Stepped s action next)
    (critical : (next.producers p).critical = some device) (live : Live next device key) :
    Live s device key ∨ ∃ a, s.producers p = .rpush a key ∧ next.producers p = .setCoalesce a key := by
  rcases step_live shaped owned placed stepped live with old | ⟨q,a,of,before,after⟩
  · exact .inl old
  · have same : q = p := coalesced_alone coalesced tracked stepped (by rw [after,← of]; rfl) critical
    subst q
    exact .inr ⟨a,before,after⟩

-- A call gains knowledge where it reads the key, deletes the command the key
-- names, or pushes its own; elsewhere it keeps what it has.
theorem produced_phase (shaped : Shaped s) (owned : Owned s) (tracked : Tracked device s (.produce p uuid))
    (before : s.producers p = pc) (produced : Produced s.redis p uuid issued pc next events later)
    (phase : pc.critical = some device → Phase (Live s device) pc) (critical : later.critical = some device)
    {live : CmdId → Prop} (stored : ∀ id, live id → next.cmd id .deviceEui = some device)
    (earlier : ∀ id, live id → Live s device id ∨ ∃ a, pc = .rpush a id) : Phase live later := by
  have fewer : (∀ a id, pc ≠ .rpush a id) → ∀ id, live id → Live s device id := by
    intro elsewhere id is
    rcases earlier id is with old | ⟨a,pushing⟩
    · exact old
    · exact absurd pushing (elsewhere a id)
  cases produced with
  | untracked missing =>
    rename_i a
    cases critical
    intro id is
    have old := fewer (by simp) id is
    have empty := missing id ((tracked a before rfl).2 id old)
    obtain ⟨b,created,_⟩ := shaped.genuine old.1
    rw [empty,owned.named] at created
    cases created
  | tracked found =>
    rename_i existing a
    cases critical
    intro id is
    have named := (tracked a before rfl).2 id (fewer (by simp) id is)
    rw [found] at named
    exact (Option.some.inj named).symm
  | deleteCmd =>
    intro id is
    have same := phase critical id (fewer (by simp) id is)
    have gone := stored id is
    simp [Redis.deleteCmd,same,CmdHash.absent] at gone
  | rpush =>
    intro id is
    rcases earlier id is with old | ⟨b,pushing⟩
    · exact absurd old (phase critical id)
    · cases pushing
      rfl
  | lremFound | lremMissing | incrCoalesced | hset | expire => exact (phase critical).fewer (fewer (by simp))
  | duplicate | different | incrDeduplicated | setCoalesce | incrEnqueued => cases critical

theorem coalesced_phase (coalesced : Coalesced device s) (shaped : Shaped s) (owned : Owned s) (placed : Placed s)
    (tracked : Tracked device s action) (stepped : Stepped s action next)
    (critical : (next.producers p).critical = some device) : Phase (Live next device) (next.producers p) := by
  have earlier : ∀ id, Live next device id → Live s device id ∨
      ∃ a, s.producers p = .rpush a id ∧ next.producers p = .setCoalesce a id :=
    fun _ => coalesced_live coalesced shaped owned placed tracked stepped critical
  have unmoved : next.producers p = s.producers p → Phase (Live next device) (next.producers p) := by
    intro same
    rw [same] at critical ⊢
    refine (coalesced.phase p critical).fewer fun id live => ?_
    rcases earlier id live with old | ⟨a,before,after⟩
    · exact old
    · rw [same,before] at after
      cases after
  cases stepped with
  | produce q uuid before produced =>
    by_cases same : p = q
    · subst p
      simp only [State.put,Function.update_self] at critical ⊢
      refine produced_phase shaped owned tracked before produced ?_ critical (fun id live => live.1) ?_
      · intro was
        have held := coalesced.phase q (by rw [before,was])
        rwa [before] at held
      · intro id live
        rcases earlier id live with old | ⟨a,pushing,_⟩
        · exact .inl old
        · exact .inr ⟨a,before ▸ pushing⟩
    · exact unmoved (by simp [State.put,same])
  | call q a before =>
    by_cases same : p = q
    · subst p
      simp [State.put,EnqueuePc.critical] at critical
    · exact unmoved (by simp [State.put,same])
  | _ => exact unmoved rfl

theorem coalesced_unique (coalesced : Coalesced device s) (shaped : Shaped s) (owned : Owned s) (placed : Placed s)
    (tracked : Tracked device s action) (stepped : Stepped s action next)
    (one : Live next device first) (other : Live next device second) : first = second := by
  have pushed : ∀ {p a own}, a.deviceEui = device → next.producers p = .setCoalesce a own →
      ∀ id, Live next device id → id = own := by
    intro p a own of after
    have critical : (next.producers p).critical = some device := by
      rw [after,← of]
      rfl
    have phase := coalesced_phase coalesced shaped owned placed tracked stepped critical
    rw [after] at phase
    exact phase
  rcases step_live shaped owned placed stepped one with old | ⟨p,a,of,_,after⟩
  · rcases step_live shaped owned placed stepped other with prior | ⟨q,b,of,_,after⟩
    · exact coalesced.unique first second old prior
    · exact pushed of after first one
  · exact (pushed of after second other).symm

theorem coalesced_preserved (coalesced : Coalesced device s) (shaped : Shaped s) (owned : Owned s) (placed : Placed s)
    (tracked : Tracked device s action) (stepped : Stepped s action next) : Coalesced device next :=
  ⟨fun _ _ => coalesced_unique coalesced shaped owned placed tracked stepped,
    fun _ _ => coalesced_alone coalesced tracked stepped,
    fun _ => coalesced_phase coalesced shaped owned placed tracked stepped⟩

theorem reached_coalesced (path : Runs.Reached step (Tracked device) State.initial s) : Coalesced device s :=
  path.invariantUnder (fun s => Shaped s ∧ Owned s ∧ Placed s) (Coalesced device)
    (fun prior => ⟨reached_shaped prior,reached_owned prior,reached_placed prior⟩) initial_coalesced
    fun known coalesced tracked ran =>
      coalesced_preserved coalesced known.1 known.2.1 known.2.2 tracked (step_sound ran)

def pendingFor (s : State) (device : DeviceEui) : List CmdId :=
  s.redis.pending.filter fun id => s.redis.cmd id .deviceEui = some device

theorem one_pending_per_device
    (path : Runs.Reached step (fun s action => ∀ device, Tracked device s action) State.initial s)
    (device : DeviceEui) : (pendingFor s device).length ≤ 1 := by
  have coalesced := reached_coalesced (path.weaken fun _ _ tracked => tracked device)
  apply Lists.filter_length_le_one (reached_placed path).sound.nodup
  intro one oneIn other otherIn oneOf otherOf
  exact coalesced.unique one other ⟨by simpa using oneOf,.inl oneIn⟩ ⟨by simpa using otherOf,.inl otherIn⟩

-- Runs of one producer and one worker, both numbered zero.
def Action.solo (action : Action) : Bool :=
  action.producer.all (· == 0) && action.worker.all (· == 0)

theorem solo_producer {action : Action} (solo : action.solo = true) (other : p ≠ 0) : action.producer ≠ some p := by
  intro same
  simp [Action.solo,same,other] at solo

theorem solo_worker {action : Action} (solo : action.solo = true) (other : w ≠ 0) : action.worker ≠ some w := by
  intro same
  simp [Action.solo,same,other] at solo

def soloTracked (s : State) (action : Action) : Bool :=
  action.solo &&
    match s.producers 0 with
    | .getCoalesce a =>
      s.redis.pending.all (fun id => s.redis.coalesce a.deviceEui = some id) &&
        (s.workers 0).held.all (fun id => s.redis.coalesce a.deviceEui = some id)
    | _ => true

theorem soloTracked_sound
    (path : Runs.Reached step (fun s action => (∀ device, Tracked device s action) ∧ action.solo = true) State.initial s)
    (test : soloTracked s action = true) : (∀ device, Tracked device s action) ∧ action.solo = true := by
  have solo : action.solo = true := by
    simp only [soloTracked,Bool.and_eq_true] at test
    exact test.1
  refine ⟨?_,solo⟩
  intro device
  cases action with
  | produce p uuid =>
    have zero : p = 0 := by simpa [Action.solo,Action.producer,Action.worker] using solo
    subst zero
    rintro a before rfl
    simp only [soloTracked,before,Bool.and_eq_true,List.all_eq_true,decide_eq_true_eq] at test
    refine ⟨?_,?_⟩
    · intro q other
      rw [reached_idle path fun _ _ met => solo_producer met.2 other]
      exact nofun
    · rintro id ⟨_,member | ⟨w,held⟩⟩
      · exact test.2.1 id member
      · by_cases same : w = 0
        · subst w
          have named := test.2.2
          rw [show (s.workers 0).held = some id from held] at named
          simpa using named
        · have stopped := reached_stopped path fun _ _ met => solo_worker met.2 same
          simp [State.custody,stopped,WorkerPc.held] at held
  | _ => trivial

def reserved : EnqueueArgs := {free with payload := "03"}

theorem one_pending_per_device_coalesced : ∃ s, pendingFor s "d1" = ["B"] ∧ (pendingFor s "d1").length ≤ 1 := by
  have start : Runs.Reached step (fun s action => (∀ device, Tracked device s action) ∧ action.solo = true)
    State.initial State.initial := .refl
  obtain ⟨s,path,pending⟩ := start.found soloTracked (fun s => pendingFor s "d1" = ["B"])
    (calling 0 free "A" 7 ++ .start 0::working [.ok,.ok,.ok] ++ calling 0 occupied "B" 10)
    soloTracked_sound (by decide +kernel)
  exact ⟨s,pending,one_pending_per_device (path.weaken fun _ _ met => met.1) "d1"⟩

-- `mark_success` of the command in flight deletes the coalesce key of the one
-- enqueued meanwhile, and the next call finds nothing to replace.
theorem two_pending_for_device : ∃ s, Runs.Reached step (fun _ _ => True) State.initial s ∧
    ¬(pendingFor s "d1").length ≤ 1 := by
  have start : Runs.Reached step (fun _ _ => True) State.initial State.initial := .refl
  obtain ⟨s,path,pending⟩ := start.found (fun _ _ => true) (fun s => pendingFor s "d1" = ["B","C"])
    (calling 0 free "A" 7 ++ .start 0::working [.ok,.ok,.ok,.ok] ++ calling 0 occupied "B" 10 ++
      working [.ok,.ok,.ok] ++ calling 0 reserved "C" 7) (fun _ _ => trivial) (by decide +kernel)
  exact ⟨s,path,by simp [pending]⟩

end SmartParking.Downlink
