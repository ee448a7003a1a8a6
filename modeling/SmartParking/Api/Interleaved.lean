import SmartParking.Lib.Runs
import SmartParking.Api.Calls

namespace SmartParking.Api.Interleaved
open Lib Lib.SlidingWindow RateLimiter Calls

-- The pass of the loop that a call is in: its time, the window it has come to
-- and the windows after it.
structure Turn where
  now : Seconds
  name : String
  windowSeconds : Seconds
  limit : Int
  rest : Dict
  deriving DecidableEq

-- A call between two Redis commands. A constructor names the command that comes
-- next.
inductive Pc where
  | idle
  | zremrangebyscore (turn : Turn)
  | zcard (turn : Turn)
  | zrange (turn : Turn)
  | zadd (turn : Turn)
  | expire (turn : Turn)
  | returned (now : Seconds) (answer : Answer)

def Pc.turn : Pc → Option Turn
  | .zremrangebyscore turn | .zcard turn | .zrange turn | .zadd turn | .expire turn => some turn
  | .idle | .returned _ _ => none

-- The calls of one tenant with one type of operation. What was added to a
-- window's set and which calls were allowed is kept for the statements about
-- whole runs; no step reads it.
structure State where
  clock : Seconds
  redis : Redis
  calls : Nat → Pc
  added : String → List (Nat × Seconds)
  allowed : List (Nat × Seconds)

def State.initial : State := ⟨0,fun _ => .empty,fun _ => .idle,fun _ => [],[]⟩

inductive Action where
  | start (c : Nat)
  | work (c : Nat)
  | tick (now : Seconds)

def State.move (s : State) (c : Nat) (pc : Pc) : State := {s with calls := Function.update s.calls c pc}

def State.allow (s : State) (c : Nat) (now : Seconds) : State :=
  {s.move c (.returned now .allowed) with allowed := (c,now)::s.allowed}

-- The head of the loop.
def State.arrive (s : State) (c : Nat) (now : Seconds) : Dict → State
  | [] => s.allow c now
  | (name,limit)::rest =>
    match windows name with
    | none => s.move c (.returned now (.keyError name))
    | some windowSeconds => s.move c (.zremrangebyscore ⟨now,name,windowSeconds,limit,rest⟩)

-- The set a command finds at the key of a window.
def State.stored (s : State) (tenantId : String) (turn : Turn) : ZSet := (s.redis (key tenantId turn.name)).live s.clock

def State.store (s : State) (tenantId : String) (turn : Turn) (z : ZSet) : State :=
  {s with redis := Function.update s.redis (key tenantId turn.name) z}

def State.add (s : State) (c : Nat) (turn : Turn) : State :=
  {s with added := Function.update s.added turn.name ((c,turn.now)::s.added turn.name)}

def command (tenantId : String) (s : State) (c : Nat) : Pc → Option State
  | .idle | .returned _ _ => none
  | .zremrangebyscore turn =>
    let z := (s.stored tenantId turn).zremrangebyscore 0 ((turn.now : ℚ)-turn.windowSeconds)
    some ((s.store tenantId turn z).move c (.zcard turn))
  | .zcard turn => some (s.move c (if turn.limit ≤ (s.stored tenantId turn).zcard then .zrange turn else .zadd turn))
  | .zrange turn =>
    match (s.stored tenantId turn).oldest with
    | some oldest => some (s.move c (.returned turn.now (.denied turn.name (retryAfter turn.windowSeconds turn.now oldest))))
    | none => some (s.move c (.zadd turn))
  | .zadd turn => some (((s.store tenantId turn ((s.stored tenantId turn).zadd turn.now)).add c turn).move c (.expire turn))
  | .expire turn =>
    let z := (s.stored tenantId turn).expire (expiry turn.windowSeconds s.clock)
    some ((s.store tenantId turn z).arrive c turn.now turn.rest)

def step (settings : Settings) (tenantId : String) (operationType : OperationType) (s : State) : Action → Option State
  | .start c =>
    match s.calls c with
    | .idle =>
      if settings.rateLimitEnabled then some (s.arrive c s.clock (settings.limits ⟨s.clock,operationType,none⟩))
      else some (s.allow c s.clock)
    | _ => none
  | .work c => command tenantId s c (s.calls c)
  | .tick now => if s.clock ≤ now then some {s with clock := now} else none

-- The call that is about to add its time.
def State.adding (s : State) : Action → Option Turn
  | .work c =>
    match s.calls c with
    | .zadd turn => some turn
    | _ => none
  | _ => none

-- At that moment the set has no entry of the same time, still has less than the
-- limit within the call's window, and none of the entries within the window has
-- been taken out of it.
structure Fits (tenantId : String) (s : State) (turn : Turn) : Prop where
  fresh : turn.now ∉ (s.stored tenantId turn).members
  room : (((s.stored tenantId turn).members.filter (turn.now < ·+turn.windowSeconds)).card : Int) < turn.limit
  whole : ∀ entry ∈ s.added turn.name, turn.now < entry.2+turn.windowSeconds → entry.2 ∈ (s.stored tenantId turn).members

def Sound (tenantId : String) (s : State) (action : Action) : Prop := ∀ turn ∈ s.adding action, Fits tenantId s turn

-- A call in a pass of the loop has added its time to the windows before it.
def Placed (limits : Dict) (s : State) (c : Nat) (now : Seconds) (ahead : Dict) : Prop :=
  ∃ behind, limits = behind ++ ahead ∧ ∀ item ∈ behind, (c,now) ∈ s.added item.1

structure Logged (limits : Dict) (s : State) : Prop where
  distinct : ∀ name, ((s.added name).map (·.2)).Nodup
  paced : ∀ name limit windowSeconds, (name,limit) ∈ limits → windows name = some windowSeconds →
    Paced windowSeconds limit.toNat ((s.added name).map (·.2))
  placed : ∀ c turn, (s.calls c).turn = some turn → windows turn.name = some turn.windowSeconds ∧
    Placed limits s c turn.now ((turn.name,turn.limit)::turn.rest)
  adding : ∀ c turn, s.calls c = .expire turn → (c,turn.now) ∈ s.added turn.name
  returned : ∀ entry ∈ s.allowed, s.calls entry.1 = .returned entry.2 .allowed
  once : s.allowed.Nodup
  charged : ∀ entry ∈ s.allowed, ∀ item ∈ limits, entry ∈ s.added item.1

-- What a step can do to the calls and the logs.
inductive Stepped (tenantId : String) (limits : Dict) (s : State) : Action → State → Prop where
  | started (c : Nat) : s.calls c = .idle → Stepped tenantId limits s (.start c) (s.arrive c s.clock limits)
  | moved (c : Nat) (turn : Turn) (r : Redis) (pc : Pc) : (s.calls c).turn = some turn →
      (pc.turn = some turn ∧ pc ≠ .expire turn ∨ ∃ retry, pc = .returned turn.now (.denied turn.name retry)) →
      Stepped tenantId limits s (.work c) ({s with redis := r}.move c pc)
  | added (c : Nat) (turn : Turn) (r : Redis) : s.calls c = .zadd turn →
      Stepped tenantId limits s (.work c) (({s with redis := r}.add c turn).move c (.expire turn))
  | expired (c : Nat) (turn : Turn) (r : Redis) : s.calls c = .expire turn →
      Stepped tenantId limits s (.work c) ({s with redis := r}.arrive c turn.now turn.rest)
  | ticked (now : Seconds) : Stepped tenantId limits s (.tick now) {s with clock := now}

variable {settings : Settings} {tenantId name : String} {operationType : OperationType} {limits ahead : Dict}
  {s next : State} {action : Action} {turn : Turn} {c : Nat} {now : Seconds}

theorem command_sound (ran : command tenantId s c (s.calls c) = some next) : Stepped tenantId limits s (.work c) next := by
  cases before : s.calls c with
  | idle | returned => rw [before] at ran; cases ran
  | zremrangebyscore turn =>
    rw [before] at ran
    cases ran
    exact .moved c turn _ _ (by rw [before]; rfl) (.inl ⟨rfl,nofun⟩)
  | zcard turn =>
    rw [before] at ran
    cases ran
    refine .moved c turn s.redis _ (by rw [before]; rfl) (.inl ?_)
    split <;> exact ⟨rfl,nofun⟩
  | zrange turn =>
    rw [before] at ran
    simp only [command] at ran
    split at ran
    · cases ran
      exact .moved c turn s.redis _ (by rw [before]; rfl) (.inr ⟨_,rfl⟩)
    · cases ran
      exact .moved c turn s.redis _ (by rw [before]; rfl) (.inl ⟨rfl,nofun⟩)
  | zadd turn =>
    rw [before] at ran
    cases ran
    exact .added c turn _ before
  | expire turn =>
    rw [before] at ran
    cases ran
    exact .expired c turn _ before

theorem step_sound (enabled : settings.rateLimitEnabled = true) (ran : step settings tenantId operationType s action = some next) :
    Stepped tenantId (settings.limits ⟨0,operationType,none⟩) s action next := by
  cases action with
  | start c =>
    simp only [step] at ran
    split at ran
    · rw [if_pos enabled] at ran
      cases ran
      exact .started c ‹_›
    · cases ran
  | work c => exact command_sound ran
  | tick now =>
    simp only [step] at ran
    split at ran
    · cases ran
      exact .ticked now
    · cases ran

theorem move_self (s : State) (c : Nat) (pc : Pc) : (s.move c pc).calls c = pc := Function.update_self _ _ _

theorem move_other (s : State) (pc : Pc) {other : Nat} (apart : other ≠ c) : (s.move c pc).calls other = s.calls other :=
  Function.update_of_ne apart _ _

theorem initial_logged (limits : Dict) : Logged limits .initial where
  distinct := fun _ => List.nodup_nil
  paced := fun _ _ _ _ _ => trivial
  placed := fun _ _ found => nomatch found
  adding := fun _ _ found => nomatch found
  returned := List.forall_mem_nil _
  once := List.nodup_nil
  charged := List.forall_mem_nil _

-- A call that has not been allowed moves on.
theorem Logged.move (logged : Logged limits s) (pc : Pc) (unreturned : ∀ now, s.calls c ≠ .returned now .allowed)
    (placed : ∀ turn, pc.turn = some turn → windows turn.name = some turn.windowSeconds ∧
      Placed limits s c turn.now ((turn.name,turn.limit)::turn.rest))
    (adding : ∀ turn, pc = .expire turn → (c,turn.now) ∈ s.added turn.name) : Logged limits (s.move c pc) where
  distinct := logged.distinct
  paced := logged.paced
  placed := by
    intro other turn found
    by_cases same : other = c
    · rw [same,move_self] at found
      rw [same]
      exact placed turn found
    · rw [move_other s pc same] at found
      exact logged.placed other turn found
  adding := by
    intro other turn found
    by_cases same : other = c
    · rw [same,move_self] at found
      rw [same]
      exact adding turn found
    · rw [move_other s pc same] at found
      exact logged.adding other turn found
  returned := by
    intro entry listed
    have before := logged.returned entry listed
    have apart : entry.1 ≠ c := by
      rintro rfl
      exact unreturned entry.2 before
    rw [move_other s pc apart]
    exact before
  once := logged.once
  charged := logged.charged

theorem Logged.leave (logged : Logged limits s) (pc : Pc) (unreturned : ∀ now, s.calls c ≠ .returned now .allowed)
    (ended : pc.turn = none) : Logged limits (s.move c pc) := by
  refine logged.move pc unreturned (fun turn found => ?_) (fun turn found => ?_)
  · rw [ended] at found
    cases found
  · rw [found] at ended
    cases ended

theorem Logged.redis (logged : Logged limits s) (r : Redis) (clock : Seconds) :
    Logged limits {s with redis := r,clock := clock} :=
  ⟨logged.distinct,logged.paced,logged.placed,logged.adding,logged.returned,logged.once,logged.charged⟩

theorem Logged.arrive (logged : Logged limits s) (unreturned : ∀ now, s.calls c ≠ .returned now .allowed)
    (placed : Placed limits s c now ahead) : Logged limits (s.arrive c now ahead) := by
  cases ahead with
  | nil =>
    obtain ⟨behind,whole,all⟩ := placed
    rw [List.append_nil] at whole
    cases whole
    have unlisted : (c,now) ∉ s.allowed := fun listed => unreturned now (logged.returned _ listed)
    have moved : Logged limits (s.move c (.returned now .allowed)) := logged.leave _ unreturned rfl
    refine ⟨moved.distinct,moved.paced,moved.placed,moved.adding,?_,List.nodup_cons.mpr ⟨unlisted,logged.once⟩,?_⟩
    · exact List.forall_mem_cons.mpr ⟨move_self s c _,moved.returned⟩
    · exact List.forall_mem_cons.mpr ⟨all,logged.charged⟩
  | cons item rest =>
    obtain ⟨name,limit⟩ := item
    simp only [State.arrive]
    cases window : windows name with
    | none => exact logged.leave _ unreturned rfl
    | some windowSeconds =>
      refine logged.move _ unreturned (fun turn found => ?_) (fun turn found => ?_)
      · cases found
        exact ⟨window,placed⟩
      · cases found

theorem add_self (s : State) (c : Nat) (turn : Turn) : (s.add c turn).added turn.name = (c,turn.now)::s.added turn.name :=
  Function.update_self _ _ _

theorem add_other (s : State) (c : Nat) (apart : name ≠ turn.name) : (s.add c turn).added name = s.added name :=
  Function.update_of_ne apart _ _

theorem add_grows (s : State) (c : Nat) (turn : Turn) {entry : Nat × Seconds} (listed : entry ∈ s.added name) :
    entry ∈ (s.add c turn).added name := by
  by_cases same : name = turn.name
  · rw [same] at listed ⊢
    rw [add_self]
    exact List.mem_cons_of_mem _ listed
  · rwa [add_other s c same]

theorem Placed.add (placed : Placed limits s c now ahead) (d : Nat) (turn : Turn) : Placed limits (s.add d turn) c now ahead := by
  obtain ⟨behind,whole,all⟩ := placed
  exact ⟨behind,whole,fun item listed => add_grows s d turn (all item listed)⟩

theorem Placed.listed (placed : Placed limits s c now (item::ahead)) : item ∈ limits := by
  obtain ⟨behind,whole,_⟩ := placed
  rw [whole]
  exact List.mem_append_right _ List.mem_cons_self

theorem same_limit (names : (limits.map (·.1)).Nodup) (one : (name,limit) ∈ limits) (two : (name,other) ∈ limits) :
    limit = other := by
  have pairs := List.inj_on_of_nodup_map names one two rfl
  exact congrArg Prod.snd pairs

-- The added time is new to the log, and fewer than the limit of those before it
-- are within its window.
theorem Fits.counted (fits : Fits tenantId s turn) (logged : Logged limits s) (positive : 0 < turn.windowSeconds) :
    turn.now ∉ (s.added turn.name).map (·.2) ∧
      ((s.added turn.name).map (·.2)).countP (turn.now < ·+turn.windowSeconds) < turn.limit.toNat := by
  have kept : ∀ m ∈ (s.added turn.name).map (·.2), turn.now < m+turn.windowSeconds → m ∈ (s.stored tenantId turn).members := by
    intro m listed reached
    obtain ⟨entry,member,rfl⟩ := List.mem_map.mp listed
    exact fits.whole entry member reached
  have few := counted_le (logged.distinct turn.name) kept
  have room := fits.room
  refine ⟨fun listed => fits.fresh (kept _ listed (lt_add_of_pos_right _ positive)),?_⟩
  omega

theorem Logged.add (logged : Logged limits s) (names : (limits.map (·.1)).Nodup) (before : s.calls c = .zadd turn)
    (fits : Fits tenantId s turn) : Logged limits ((s.add c turn).move c (.expire turn)) := by
  have unreturned : ∀ now, s.calls c ≠ .returned now .allowed := by
    rw [before]
    exact nofun
  obtain ⟨window,placed⟩ := logged.placed c turn (by rw [before]; rfl)
  obtain ⟨fresh,few⟩ := fits.counted logged (window_positive window)
  have grown : Logged limits (s.add c turn) := by
    refine ⟨fun name => ?_,fun name limit windowSeconds member known => ?_,fun d other found => ?_,fun d other found => ?_,
      logged.returned,logged.once,fun entry listed item member => add_grows s c turn (logged.charged entry listed item member)⟩
    · by_cases same : name = turn.name
      · rw [same,add_self]
        exact List.nodup_cons.mpr ⟨fresh,logged.distinct turn.name⟩
      · rw [add_other s c same]
        exact logged.distinct name
    · by_cases same : name = turn.name
      · subst same
        cases window.symm.trans known
        cases same_limit names placed.listed member
        rw [add_self]
        exact ⟨few,logged.paced _ _ _ member known⟩
      · rw [add_other s c same]
        exact logged.paced name limit windowSeconds member known
    · obtain ⟨known,there⟩ := logged.placed d other found
      exact ⟨known,there.add c turn⟩
    · exact add_grows s c turn (logged.adding d other found)
  refine grown.move _ unreturned (fun other found => ?_) (fun other found => ?_)
  · cases found
    exact ⟨window,placed.add c turn⟩
  · cases found
    rw [add_self]
    exact List.mem_cons_self

theorem logged_preserved (logged : Logged limits s) (names : (limits.map (·.1)).Nodup) (sound : Sound tenantId s action)
    (stepped : Stepped tenantId limits s action next) : Logged limits next := by
  cases stepped with
  | started c idle =>
    refine logged.arrive (fun now returned => ?_) ⟨[],rfl,List.forall_mem_nil _⟩
    rw [idle] at returned
    cases returned
  | moved c turn r pc before later =>
    have unreturned : ∀ now, s.calls c ≠ .returned now .allowed := by
      intro now returned
      rw [returned] at before
      cases before
    have same : Logged limits {s with redis := r} := logged.redis r s.clock
    rcases later with ⟨kept,unadded⟩ | ⟨retry,rfl⟩
    · refine same.move pc unreturned (fun other found => ?_) (fun other found => ?_)
      · cases kept.symm.trans found
        exact logged.placed c turn before
      · rw [found] at kept
        cases kept
        exact absurd found unadded
    · exact same.leave _ unreturned rfl
  | added c turn r before =>
    have adding : s.adding (.work c) = some turn := by simp only [State.adding,before]
    exact (logged.add names before (sound turn adding)).redis r s.clock
  | expired c turn r before =>
    have same : Logged limits {s with redis := r} := logged.redis r s.clock
    obtain ⟨_,behind,whole,all⟩ := logged.placed c turn (by rw [before]; rfl)
    refine same.arrive (fun now returned => ?_) ⟨behind ++ [(turn.name,turn.limit)],?_,?_⟩
    · rw [before] at returned
      cases returned
    · rw [whole,List.append_assoc]
      rfl
    · intro item listed
      rcases List.mem_append.mp listed with old | last
      · exact all item old
      · cases List.mem_singleton.mp last
        exact logged.adding c turn before
  | ticked now => exact logged.redis s.redis now

theorem reached_logged (enabled : settings.rateLimitEnabled = true)
    (path : Runs.Reached (step settings tenantId operationType) (Sound tenantId) .initial s) :
    Logged (settings.limits ⟨0,operationType,none⟩) s :=
  path.invariant _ (initial_logged _) fun logged sound ran =>
    logged_preserved logged (limits_names settings _).1 sound (step_sound enabled ran)

-- In a run in which each time that is added fits, every window holds at most the
-- limit of allowed calls.
theorem interleaved_bound (enabled : settings.rateLimitEnabled = true) (minute : 1 ≤ settings.rateLimitPerMinute)
    (hour : 1 ≤ settings.rateLimitPerHour)
    (path : Runs.Reached (step settings tenantId operationType) (Sound tenantId) .initial s)
    (t : Seconds) : ∀ item ∈ settings.limits ⟨0,operationType,none⟩, ∀ windowSeconds ∈ windows item.1,
      (s.allowed.countP (fun entry => t < entry.2+windowSeconds ∧ entry.2 ≤ t) : Int) ≤ item.2 := by
  rintro ⟨name,limit⟩ member windowSeconds window
  have logged := reached_logged enabled path
  have positive : 1 ≤ limit := (default_limits minute hour rfl _ member).1
  have bound := (logged.paced name limit windowSeconds member window).within t
  have counted : s.allowed.countP (fun entry => t < entry.2+windowSeconds ∧ entry.2 ≤ t) ≤
      (s.added name).countP (fun entry => t < entry.2+windowSeconds ∧ entry.2 ≤ t) :=
    (logged.once.subperm fun entry listed => logged.charged entry listed (name,limit) member).countP_le _
  rw [List.countP_map] at bound
  have most := counted.trans bound
  dsimp only
  omega

instance (tenantId : String) (s : State) (turn : Turn) : Decidable (Fits tenantId s turn) :=
  decidable_of_iff (turn.now ∉ (s.stored tenantId turn).members ∧
    (((s.stored tenantId turn).members.filter (turn.now < ·+turn.windowSeconds)).card : Int) < turn.limit ∧
    ∀ entry ∈ s.added turn.name, turn.now < entry.2+turn.windowSeconds → entry.2 ∈ (s.stored tenantId turn).members)
    ⟨fun ⟨fresh,room,whole⟩ => ⟨fresh,room,whole⟩,fun fits => ⟨fits.fresh,fits.room,fits.whole⟩⟩

instance (tenantId : String) (s : State) (action : Action) : Decidable (Sound tenantId s action) := by
  unfold Sound
  infer_instance

def arriving (c : Nat) : List Action := [.tick ((c : Nat)+1),.start c]

-- Ten writes, one after the other, and an eleventh that is refused.
def patient : List Action :=
  ((List.range 10).flatMap fun c => arriving c ++ List.replicate 8 (.work c)) ++ arriving 10 ++ List.replicate 3 (.work 10)

theorem interleaved_bound_patient : ∃ s : State, s.allowed.length = 10 ∧
    (s.allowed.countP (fun entry => (11 : Seconds) < entry.2+60 ∧ entry.2 ≤ 11) : Int) ≤ 10 := by
  have start : Runs.Reached (step standard "t1" .write) (Sound "t1") .initial .initial := .refl
  obtain ⟨s,path,length⟩ := start.found (fun s action => decide (Sound "t1" s action)) (fun s => s.allowed.length = 10) patient
    (fun _ => of_decide_eq_true) (by decide +kernel)
  exact ⟨s,length,interleaved_bound rfl (by decide) (by decide) path 11 ("minute",10) List.mem_cons_self 60 rfl⟩

-- Eleven writes arrive, and each command is sent for all of them before the next.
def burst : List Action :=
  (List.range 11).flatMap arriving ++ (List.replicate 8 ((List.range 11).map Action.work)).flatten

theorem interleaved_burst : ¬∀ (settings : Settings) (tenantId : String) (operationType : OperationType) (s : State),
    settings.rateLimitEnabled = true → 1 ≤ settings.rateLimitPerMinute → 1 ≤ settings.rateLimitPerHour →
    Runs.Reached (step settings tenantId operationType) (fun _ _ => True) .initial s →
    ∀ t, ∀ item ∈ settings.limits ⟨0,operationType,none⟩, ∀ windowSeconds ∈ windows item.1,
      (s.allowed.countP (fun entry => t < entry.2+windowSeconds ∧ entry.2 ≤ t) : Int) ≤ item.2 := by
  intro bounded
  have start : Runs.Reached (step standard "t1" .write) (fun _ _ => True) .initial .initial := .refl
  obtain ⟨s,path,eleven⟩ := start.found (fun _ _ => true)
    (fun s => s.allowed.countP (fun entry => (11 : Seconds) < entry.2+60 ∧ entry.2 ≤ 11) = 11) burst (fun _ _ => trivial)
    (by decide +kernel)
  have ten := bounded standard "t1" .write s rfl (by decide) (by decide) path 11 ("minute",10) List.mem_cons_self 60 rfl
  rw [eleven] at ten
  exact absurd ten (by decide)

end SmartParking.Api.Interleaved
