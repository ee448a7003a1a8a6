import SmartParking.Api.Interleaved

namespace SmartParking.Api.Alone
open Lib Lib.SlidingWindow RateLimiter Calls Interleaved

-- Runs in which each time that is added fits.
abbrev SoundRun (settings : Settings) (tenantId : String) (operationType : OperationType) (start s : State) : Prop :=
  Runs.Reached (step settings tenantId operationType) (Sound tenantId) start s

-- A window's set holds what its log has within reach.
def Settled (tenantId : String) (s : State) : Prop := ∀ name windowSeconds, windows name = some windowSeconds →
  Reflects windowSeconds (s.redis (key tenantId name)) ((s.added name).map (·.2)) s.clock

-- What is left of a call that nothing interrupts is what the function leaves.
structure Answered (tenantId : String) (s : State) (c : Nat) (items : Dict) (next : State) : Prop where
  redis : next.redis = (checkWindows tenantId s.clock items s.redis).1
  allowed : next.allowed =
    if (checkWindows tenantId s.clock items s.redis).2 = .allowed then (c,s.clock)::s.allowed else s.allowed
  others : ∀ other, other ≠ c → next.calls other = s.calls other
  clock : next.clock = s.clock
  settled : Settled tenantId next

variable {settings : Settings} {tenantId name : String} {operationType : OperationType} {windowSeconds now : Seconds}
  {z : ZSet} {log : List Seconds} {start s next : State} {turn : Turn} {c : Nat} {items : Dict} {h : History} {times : List Seconds}

theorem initial_settled (tenantId : String) : Settled tenantId .initial :=
  fun _ windowSeconds _ => reflects_empty windowSeconds 0

theorem Settled.waited (settled : Settled tenantId s) (after : s.clock ≤ now) : Settled tenantId {s with clock := now} :=
  fun name windowSeconds window => (settled name windowSeconds window).waited after

theorem store_stored (tenantId : String) (s : State) (turn : Turn) {z : ZSet} (lasting : ¬z.deadline.any (· ≤ s.clock) = true) :
    (s.store tenantId turn z).stored tenantId turn = z := by
  have found : (s.store tenantId turn z).redis (key tenantId turn.name) = z := Function.update_self _ _ _
  exact (congrArg (ZSet.live · s.clock) found).trans (if_neg lasting)

theorem store_again (s : State) (turn : Turn) (one two : ZSet) :
    (s.store tenantId turn one).store tenantId turn two = s.store tenantId turn two := by
  simp only [State.store,Function.update_idem]

theorem move_again (s : State) (c : Nat) (one two : Pc) : (s.move c one).move c two = s.move c two := by
  simp only [State.move,Function.update_idem]

theorem arrive_again (s : State) (c : Nat) (pc : Pc) (now : Seconds) (items : Dict) :
    (s.move c pc).arrive c now items = s.arrive c now items := by
  cases items with
  | nil => simp only [State.arrive,State.allow,State.move,Function.update_idem]
  | cons item rest =>
    simp only [State.arrive]
    cases windows item.1 <;> exact move_again s c _ _

theorem unadding {action : Action} (other : s.adding action = none) : Sound tenantId s action := by
  intro turn adding
  rw [other] at adding
  cases adding

theorem worked {pc : Pc} (path : SoundRun settings tenantId operationType start s)
    (before : s.calls c = pc) (fits : ∀ turn, pc = .zadd turn → Fits tenantId s turn)
    (ran : command tenantId s c pc = some next) :
    SoundRun settings tenantId operationType start next := by
  have sound : Sound tenantId s (.work c) := by
    intro turn adding
    refine fits turn ?_
    simp only [State.adding,before] at adding
    split at adding
    · exact congrArg Pc.zadd (Option.some.inj adding)
    · cases adding
  rw [← before] at ran
  exact .step path sound ran

-- By way of ZRANGE if the set is empty and the limit below one.
theorem zcard_passes (path : SoundRun settings tenantId operationType start s)
    (before : s.calls c = .zcard turn) (room : ¬Full turn.limit (s.stored tenantId turn)) :
    SoundRun settings tenantId operationType start (s.move c (.zadd turn)) := by
  by_cases many : turn.limit ≤ (s.stored tenantId turn).zcard
  · have nothing : (s.stored tenantId turn).oldest = none := (oldest_none _).mpr fun nonempty => room ⟨many,nonempty⟩
    have zcard := worked path before (fun _ same => by cases same) (by rw [command,if_pos many])
    have zrange := worked zcard (move_self s c _) (fun _ same => by cases same) (by
      have same : (s.move c (.zrange turn)).stored tenantId turn = s.stored tenantId turn := rfl
      rw [command,same,nothing])
    rwa [move_again] at zrange
  · exact worked path before (fun _ same => by cases same) (by rw [command,if_neg many])

theorem zcard_refuses (path : SoundRun settings tenantId operationType start s)
    (before : s.calls c = .zcard turn) (full : Full turn.limit (s.stored tenantId turn)) {oldest : Seconds}
    (found : (s.stored tenantId turn).oldest = some oldest) :
    SoundRun settings tenantId operationType start
      (s.move c (.returned turn.now (.denied turn.name (retryAfter turn.windowSeconds turn.now oldest)))) := by
  have zcard := worked path before (fun _ same => by cases same) (by rw [command,if_pos full.1])
  have zrange := worked zcard (move_self s c _) (fun _ same => by cases same) (by
    have same : (s.move c (.zrange turn)).stored tenantId turn = s.stored tenantId turn := rfl
    rw [command,same,found])
  rwa [move_again] at zrange

-- The set of the window has been pruned.
theorem window_cleared
    (path : SoundRun settings tenantId operationType start (s.move c (.zremrangebyscore turn)))
    (now : turn.now = s.clock) : SoundRun settings tenantId operationType start
      ((s.store tenantId turn (pruned turn.windowSeconds s.clock (s.redis (key tenantId turn.name)))).move c (.zcard turn)) := by
  have found : (s.move c (.zremrangebyscore turn)).stored tenantId turn = (s.redis (key tenantId turn.name)).live s.clock := rfl
  refine worked path (move_self s c _) nofun ?_
  rw [command,found,now]
  exact congrArg some (move_again (s.store tenantId turn _) c _ _)

theorem window_refused
    (path : SoundRun settings tenantId operationType start (s.move c (.zremrangebyscore turn)))
    (now : turn.now = s.clock) {retry : Int}
    (refused : (checkWindow turn.windowSeconds turn.limit s.clock (s.redis (key tenantId turn.name))).2 = some retry) :
    SoundRun settings tenantId operationType start
      ((s.store tenantId turn (checkWindow turn.windowSeconds turn.limit s.clock (s.redis (key tenantId turn.name))).1).move c
        (.returned s.clock (.denied turn.name retry))) := by
  have full := (refused_checked refused).1
  obtain ⟨oldest,_,found,result⟩ := checkWindow_refuses full
  rw [result] at refused ⊢
  cases refused
  have stored := store_stored tenantId s turn (pruned_lasting turn.windowSeconds s.clock (s.redis (key tenantId turn.name)))
  rw [← stored] at full found
  have ended := zcard_refuses (window_cleared path now) (move_self _ c _) full found
  rwa [move_again,now] at ended

theorem zadd_adds
    (path : SoundRun settings tenantId operationType start (s.move c (.zadd turn)))
    (fits : Fits tenantId s turn) : SoundRun settings tenantId operationType start
      (((s.store tenantId turn ((s.stored tenantId turn).zadd turn.now)).add c turn).move c (.expire turn)) := by
  refine worked path (move_self s c _) (fun other same => ?_) ?_
  · cases same
    exact ⟨fits.fresh,fits.room,fits.whole⟩
  · exact congrArg some (move_again ((s.store tenantId turn _).add c turn) c _ _)

theorem expire_arrives
    (path : SoundRun settings tenantId operationType start (s.move c (.expire turn))) :
    SoundRun settings tenantId operationType start
      ((s.store tenantId turn ((s.stored tenantId turn).expire (expiry turn.windowSeconds s.clock))).arrive c turn.now
        turn.rest) := by
  refine worked path (move_self s c _) nofun ?_
  exact congrArg some (arrive_again (s.store tenantId turn _) c _ _ _)

theorem window_passed
    (path : SoundRun settings tenantId operationType start (s.move c (.zremrangebyscore turn)))
    (now : turn.now = s.clock)
    (room : ¬Full turn.limit (pruned turn.windowSeconds s.clock (s.redis (key tenantId turn.name))))
    (fits : Fits tenantId (s.store tenantId turn (pruned turn.windowSeconds s.clock (s.redis (key tenantId turn.name)))) turn) :
    SoundRun settings tenantId operationType start
      (((s.store tenantId turn (checkWindow turn.windowSeconds turn.limit s.clock (s.redis (key tenantId turn.name))).1).add c
        turn).arrive c s.clock turn.rest) := by
  generalize cleared : pruned turn.windowSeconds s.clock (s.redis (key tenantId turn.name)) = z at room fits
  have lasting : ¬z.deadline.any (· ≤ s.clock) = true := by
    rw [← cleared]
    exact pruned_lasting _ _ _
  have stored : (s.store tenantId turn z).stored tenantId turn = z := store_stored tenantId s turn lasting
  have zcard := window_cleared path now
  rw [cleared] at zcard
  have same : ((s.store tenantId turn z).move c (.zcard turn)).stored tenantId turn = z := stored
  have zadd := zcard_passes zcard (move_self _ c _) (by rwa [same])
  rw [move_again] at zadd
  have expire := zadd_adds zadd fits
  rw [stored,store_again] at expire
  have grown : ((s.store tenantId turn (z.zadd turn.now)).add c turn).stored tenantId turn = z.zadd turn.now :=
    store_stored tenantId s turn lasting
  have arrived := expire_arrives expire
  rw [grown] at arrived
  have ended : ((s.store tenantId turn (z.zadd turn.now)).add c turn).store tenantId turn
      ((z.zadd turn.now).expire (expiry turn.windowSeconds s.clock)) =
        (s.store tenantId turn ((z.zadd turn.now).expire (expiry turn.windowSeconds s.clock))).add c turn :=
    congrArg (State.add · c turn) (store_again s turn _ _)
  have passed : checkWindow turn.windowSeconds turn.limit s.clock (s.redis (key tenantId turn.name)) =
      ((z.zadd turn.now).expire (expiry turn.windowSeconds s.clock),none) := by
    rw [checkWindow_passes (by rwa [cleared]),cleared,zadd_expire,now]
  rw [passed,← ended]
  rw [now] at arrived ⊢
  exact arrived

-- What the set holds when a call that found room adds its time.
theorem settled_fits (settled : Settled tenantId s) (window : windows turn.name = some turn.windowSeconds)
    (now : turn.now = s.clock) (fresh : s.clock ∉ (s.added turn.name).map (·.2)) (positive : 1 ≤ turn.limit)
    (room : ¬Full turn.limit (pruned turn.windowSeconds s.clock (s.redis (key tenantId turn.name)))) :
    Fits tenantId (s.store tenantId turn (pruned turn.windowSeconds s.clock (s.redis (key tenantId turn.name)))) turn := by
  have stored := store_stored tenantId s turn (pruned_lasting turn.windowSeconds s.clock (s.redis (key tenantId turn.name)))
  have seen := (settled _ _ window).seen s.clock le_rfl
  have few := room_card room positive
  refine ⟨?_,?_,fun entry listed reached => ?_⟩
  · rw [stored,seen,now]
    exact fun member => fresh (mem_retained.mp member).1
  · rw [stored]
    have fewer := Finset.card_filter_le (pruned turn.windowSeconds s.clock (s.redis (key tenantId turn.name))).members
      (turn.now < ·+turn.windowSeconds)
    unfold ZSet.zcard at few
    omega
  · rw [stored,seen]
    rw [now] at reached
    exact mem_retained.mpr ⟨List.mem_map_of_mem listed,reached⟩

-- A call changes one window at a time.
theorem Settled.changed (settled : Settled tenantId s) (window : windows name = some windowSeconds)
    (reflects : Reflects windowSeconds z log s.clock) (stored : next.redis (key tenantId name) = z)
    (logged : (next.added name).map (·.2) = log) (clock : next.clock = s.clock)
    (others : ∀ other, name ≠ other → next.redis (key tenantId other) = s.redis (key tenantId other) ∧
      next.added other = s.added other) : Settled tenantId next := by
  intro other seconds known
  rw [clock]
  by_cases same : name = other
  · subst same
    cases window.symm.trans known
    rwa [stored,logged]
  · obtain ⟨stored,logged⟩ := others other same
    rw [stored,logged]
    exact settled other seconds known

-- A call that is on its way through the loop, and that nothing interrupts.
theorem solo (path : SoundRun settings tenantId operationType start (s.arrive c s.clock items))
    (names : (items.map (·.1)).Nodup) (positive : ∀ item ∈ items, 1 ≤ item.2 ∧ (windows item.1).isSome)
    (settled : Settled tenantId s) (fresh : ∀ item ∈ items, s.clock ∉ (s.added item.1).map (·.2)) :
    ∃ next, SoundRun settings tenantId operationType start next ∧
      Answered tenantId s c items next := by
  induction items generalizing s with
  | nil => exact ⟨_,path,rfl,rfl,fun other apart => move_other s _ apart,rfl,settled⟩
  | cons item rest ih =>
    obtain ⟨name,limit⟩ := item
    obtain ⟨missing,names⟩ := List.nodup_cons.mp names
    obtain ⟨⟨least,known⟩,positive⟩ := List.forall_mem_cons.mp positive
    obtain ⟨unseen,fresh⟩ := List.forall_mem_cons.mp fresh
    obtain ⟨windowSeconds,window⟩ := Option.isSome_iff_exists.mp known
    simp only [State.arrive,window] at path
    have reflects := settled name windowSeconds window
    cases refused : (checkWindow windowSeconds limit s.clock (s.redis (key tenantId name))).2 with
    | some retry =>
      obtain ⟨_,left,_⟩ := refused_checked refused
      have ended := window_refused path rfl refused
      refine ⟨_,ended,?_,?_,fun other apart => move_other _ _ apart,rfl,?_⟩
      · simp only [checkWindows,window,refused]
        rfl
      · simp only [checkWindows,window,refused]
        rfl
      · have pruned := reflects.pruned (le_refl s.clock)
        rw [← left] at pruned
        exact settled.changed window pruned (Function.update_self _ _ _) rfl rfl fun other apart => ⟨update_apart apart _ _,rfl⟩
    | none =>
      let turn : Turn := ⟨s.clock,name,windowSeconds,limit,rest⟩
      let passed := (s.store tenantId turn (checkWindow windowSeconds limit s.clock (s.redis (key tenantId name))).1).add c turn
      have room := checkWindow_none.mp refused
      have fits : Fits tenantId (s.store tenantId turn (pruned windowSeconds s.clock (s.redis (key tenantId name)))) turn :=
        settled_fits settled window rfl unseen least room
      have arrived : SoundRun settings tenantId operationType start (passed.arrive c passed.clock rest) :=
        window_passed path rfl room fits
      have kept : Settled tenantId passed := by
        have added := reflects.added (le_refl s.clock)
        refine settled.changed window added ?_ ?_ rfl fun other apart => ⟨update_apart apart _ _,add_other _ c (Ne.symm apart)⟩
        · exact (Function.update_self _ _ _).trans (congrArg Prod.fst (checkWindow_passes room))
        · exact congrArg (List.map (·.2)) (add_self _ c turn)
      have later : ∀ item ∈ rest, passed.clock ∉ (passed.added item.1).map (·.2) := by
        intro item listed
        have apart : item.1 ≠ name := by
          intro same
          exact missing (List.mem_map.mpr ⟨item,listed,same⟩)
        rw [show passed.added item.1 = s.added item.1 from add_other _ c apart]
        exact fresh item listed
      obtain ⟨next,reached,answered⟩ := ih arrived names positive kept later
      refine ⟨next,reached,?_,?_,answered.others,answered.clock,answered.settled⟩
      · simp only [checkWindows,window,refused]
        exact answered.redis
      · simp only [checkWindows,window,refused]
        exact answered.allowed

-- No call of that time has added it yet.
def Unseen (s : State) (now : Seconds) : Prop := ∀ name windowSeconds, windows name = some windowSeconds →
  now ∉ (s.added name).map (·.2)

theorem alone_call (enabled : settings.rateLimitEnabled = true) (minute : 1 ≤ settings.rateLimitPerMinute)
    (hour : 1 ≤ settings.rateLimitPerHour)
    (path : SoundRun settings tenantId operationType start s) (settled : Settled tenantId s)
    (idle : s.calls c = .idle) (after : s.clock ≤ now) (fresh : Unseen s now) :
    ∃ next, SoundRun settings tenantId operationType start next ∧
      Answered tenantId {s with clock := now} c (settings.limits ⟨now,operationType,none⟩) next := by
  let waited : State := {s with clock := now}
  have ticking : step settings tenantId operationType s (.tick now) = some waited := if_pos after
  have starting : step settings tenantId operationType waited (.start c) =
      some (waited.arrive c now (settings.limits ⟨now,operationType,none⟩)) := by
    have same : waited.calls c = .idle := idle
    simp only [Interleaved.step,same,enabled,if_true]
    rfl
  have ticked := Runs.Reached.step path (unadding rfl) ticking
  have arrived := Runs.Reached.step ticked (unadding rfl) starting
  have positive : ∀ item ∈ settings.limits ⟨now,operationType,none⟩, 1 ≤ item.2 ∧ (windows item.1).isSome :=
    default_limits minute hour rfl
  refine solo arrived (limits_names settings _).1 positive (settled.waited after) fun item listed => ?_
  obtain ⟨windowSeconds,window⟩ := Option.isSome_iff_exists.mp (positive item listed).2
  exact fresh _ _ window

theorem alone_rest {n : Nat} (enabled : settings.rateLimitEnabled = true) (minute : 1 ≤ settings.rateLimitPerMinute)
    (hour : 1 ≤ settings.rateLimitPerHour)
    (path : SoundRun settings tenantId operationType start s) (settled : Settled tenantId s)
    (redis : s.redis = h.redis) (allowed : s.allowed.map (·.2) = h.allowed.map (·.now))
    (idle : ∀ c, n ≤ c → s.calls c = .idle)
    (after : ∀ now ∈ times, s.clock ≤ now ∧ Unseen s now) (increasing : times.Pairwise (· < ·)) :
    ∃ next, SoundRun settings tenantId operationType start next ∧
      let last := (times.map (⟨·,operationType,none⟩)).foldl (Calls.step settings tenantId) h
      next.redis = last.redis ∧ next.allowed.map (·.2) = last.allowed.map (·.now) := by
  induction times generalizing s h n with
  | nil => exact ⟨s,path,redis,allowed⟩
  | cons now rest ih =>
    obtain ⟨soon,fresh⟩ := after now List.mem_cons_self
    obtain ⟨earlier,increasing⟩ := List.pairwise_cons.mp increasing
    obtain ⟨middle,reached,answered⟩ := alone_call enabled minute hour path settled (idle n le_rfl) soon fresh
    have checked : checkLimit settings tenantId ⟨now,operationType,none⟩ h.redis =
        checkWindows tenantId now (settings.limits ⟨now,operationType,none⟩) s.redis := by
      rw [checkLimit_enabled enabled,redis]
    have clock : middle.clock = now := answered.clock
    refine ih reached answered.settled (n := n+1) ?_ ?_ (fun c later => ?_) (fun later listed => ?_) increasing
    · rw [answered.redis]
      exact (congrArg Prod.fst checked).symm
    · rw [answered.allowed]
      unfold Calls.step
      dsimp only
      rw [checked]
      split
      · exact congrArg (now::·) allowed
      · exact allowed
    · rw [answered.others c (by omega)]
      exact idle c (by omega)
    · have order := earlier later listed
      rw [clock]
      refine ⟨order.le,fun name windowSeconds window old => ?_⟩
      have past := (answered.settled name windowSeconds window).past _ old
      rw [clock] at past
      exact absurd order past.not_gt

-- Calls that do not overlap are such a run, and they end as the function has
-- them end.
theorem alone_sound (tenantId : String) (operationType : OperationType) (enabled : settings.rateLimitEnabled = true)
    (minute : 1 ≤ settings.rateLimitPerMinute) (hour : 1 ≤ settings.rateLimitPerHour) (increasing : times.Pairwise (· < ·)) :
    ∃ s, SoundRun settings tenantId operationType .initial s ∧
      s.redis = (run settings tenantId (times.map (⟨·,operationType,none⟩))).redis ∧
      s.allowed.map (·.2) = (run settings tenantId (times.map (⟨·,operationType,none⟩))).allowed.map (·.now) := by
  have unseen : ∀ now ∈ times, State.initial.clock ≤ now ∧ Unseen .initial now :=
    fun _ _ => ⟨zero_le,fun _ _ _ => List.not_mem_nil⟩
  exact alone_rest (n := 0) enabled minute hour .refl (initial_settled tenantId) rfl rfl (fun _ _ => rfl) unseen increasing

end SmartParking.Api.Alone
