import SmartParking.Api.RateLimiter

namespace SmartParking.Api.Calls
open Lib.Rounding Lib.SlidingWindow RateLimiter

-- Calls of one tenant, one after the other. The allowed ones are kept, newest
-- first.
structure History where
  redis : Redis
  allowed : List Call

def History.start : History := ⟨fun _ => .empty,[]⟩

def step (settings : Settings) (tenantId : String) (h : History) (call : Call) : History :=
  let checked := checkLimit settings tenantId call h.redis
  ⟨checked.1,if checked.2 = .allowed then call::h.allowed else h.allowed⟩

def run (settings : Settings) (tenantId : String) (calls : List Call) : History :=
  calls.foldl (step settings tenantId) .start

-- A window's set holds what is within reach of the log, and its key outlives
-- the reach of its entries.
structure Reflects (windowSeconds : Seconds) (z : ZSet) (log : List Seconds) (last : Seconds) : Prop where
  seen : ∀ now, last ≤ now → (pruned windowSeconds now z).members = retained windowSeconds log now
  past : ∀ m ∈ log, m ≤ last
  kept : ∀ deadline ∈ z.deadline, ∀ m ∈ z.members, m+windowSeconds ≤ deadline

variable {settings : Settings} {tenantId name : String} {windowSeconds now later last m : Seconds} {limit : Int}
  {items : Dict} {call : Call} {z : ZSet} {log : List Seconds} {h : History} {calls : List Call} {L : Nat}

theorem live_members (z : ZSet) (clock : Seconds) :
    (z.live clock).members = if z.deadline.any (· ≤ clock) then ∅ else z.members := by
  unfold ZSet.live
  split <;> rfl

theorem expired_later (after : now ≤ later) (expired : z.deadline.any (· ≤ now) = true) :
    z.deadline.any (· ≤ later) = true := by
  cases deadline : z.deadline with
  | none => rw [deadline] at expired; cases expired
  | some gone =>
    rw [deadline,Option.any_some,decide_eq_true_iff] at expired
    exact decide_eq_true (expired.trans after)

theorem live_shrinks (after : now ≤ later) : (z.live later).members ⊆ (z.live now).members := by
  rw [live_members,live_members]
  by_cases expired : z.deadline.any (· ≤ now) = true
  · rw [if_pos (expired_later after expired)]
    exact Finset.empty_subset _
  · rw [if_neg expired]
    split
    · exact Finset.empty_subset _
    · exact Finset.Subset.refl _

theorem pruned_shrinks (after : now ≤ later) : (pruned windowSeconds later z).members ⊆ (pruned windowSeconds now z).members := by
  rw [pruned_members,pruned_members]
  intro m member
  obtain ⟨there,reached⟩ := Finset.mem_filter.mp member
  exact Finset.mem_filter.mpr ⟨live_shrinks after there,after.trans_lt reached⟩

-- Pruning leaves nothing, or a key as it was but for the entries it removes.
theorem pruned_cases (windowSeconds now : Seconds) (z : ZSet) : pruned windowSeconds now z = .empty ∨
    ¬z.deadline.any (· ≤ now) = true ∧ (pruned windowSeconds now z).deadline = z.deadline := by
  unfold pruned ZSet.live
  split
  · exact .inl rfl
  · unfold ZSet.zremrangebyscore
    dsimp only
    split
    · exact .inl rfl
    · exact .inr ⟨‹_›,rfl⟩

theorem pruned_lasting (windowSeconds now : Seconds) (z : ZSet) :
    ¬(pruned windowSeconds now z).deadline.any (· ≤ now) = true := by
  rcases pruned_cases windowSeconds now z with nothing | ⟨lasting,deadline⟩
  · rw [nothing]
    exact nofun
  · rwa [deadline]

theorem pruned_again (after : now ≤ later) :
    (pruned windowSeconds later (pruned windowSeconds now z)).members = (pruned windowSeconds later z).members := by
  rcases pruned_cases windowSeconds now z with nothing | ⟨lasting,deadline⟩
  · have fewer : (pruned windowSeconds later z).members ⊆ (pruned windowSeconds now z).members := pruned_shrinks after
    rw [nothing] at fewer ⊢
    exact (Finset.subset_empty.mp fewer).symm
  · rw [pruned_members,pruned_members,live_members,live_members,deadline]
    split
    · rfl
    · rw [pruned_members,live_members,if_neg lasting]
      exact reached_later z.members after

theorem pruned_kept (kept : ∀ deadline ∈ z.deadline, ∀ m ∈ z.members, m+windowSeconds ≤ deadline) :
    ∀ deadline ∈ (pruned windowSeconds now z).deadline, ∀ m ∈ (pruned windowSeconds now z).members,
      m+windowSeconds ≤ deadline := by
  intro deadline found m member
  rcases pruned_cases windowSeconds now z with nothing | ⟨lasting,same⟩
  · rw [nothing] at found
    cases found
  · rw [same] at found
    rw [pruned_members,live_members,if_neg lasting] at member
    exact kept deadline found m (Finset.mem_filter.mp member).1

theorem Reflects.waited (reflects : Reflects windowSeconds z log last) (after : last ≤ now) :
    Reflects windowSeconds z log now :=
  ⟨fun later next => reflects.seen later (after.trans next),fun m listed => (reflects.past m listed).trans after,reflects.kept⟩

theorem Reflects.pruned (reflects : Reflects windowSeconds z log last) (after : last ≤ now) :
    Reflects windowSeconds (pruned windowSeconds now z) log now where
  seen := by
    intro later next
    rw [pruned_again next]
    exact reflects.seen later (after.trans next)
  past := (reflects.waited after).past
  kept := pruned_kept reflects.kept

-- A minute after the window the key is gone, and with it no entry that the
-- window still reaches.
theorem Reflects.added (reflects : Reflects windowSeconds z log last) (after : last ≤ now) :
    Reflects windowSeconds ⟨insert now (RateLimiter.pruned windowSeconds now z).members,some (expiry windowSeconds now)⟩
      (now::log) now where
  seen := by
    intro later next
    have past : ∀ m ∈ now::log, m ≤ now := List.forall_mem_cons.mpr ⟨le_rfl,(reflects.waited after).past⟩
    rw [pruned_members,live_members]
    by_cases expired : expiry windowSeconds now ≤ later
    · have gone : ∀ m ∈ now::log, m+windowSeconds ≤ later := by
        intro m listed
        exact (expiry_later windowSeconds (past m listed)).trans expired
      rw [retained_none gone,if_pos (by simpa using expired),Finset.filter_empty]
    · rw [if_neg (by simpa using expired),reflects.seen now after,retained_cons next]
  past := List.forall_mem_cons.mpr ⟨le_rfl,(reflects.waited after).past⟩
  kept := by
    intro deadline found m member
    cases found
    have past : m ≤ now := by
      rcases Finset.mem_insert.mp member with rfl | there
      · exact le_rfl
      · rw [reflects.seen now after] at there
        exact (reflects.waited after).past m (mem_retained.mp there).1
    exact expiry_later windowSeconds past

theorem reflects_empty (windowSeconds last : Seconds) : Reflects windowSeconds .empty [] last :=
  ⟨fun _ _ => rfl,List.forall_mem_nil _,fun _ found => nomatch found⟩

-- The log of a window: the calls it has let through, whatever their types and
-- whatever the windows after it answered.
structure Tracked (tenantId name : String) (windowSeconds : Seconds) (h : History) (log : List Seconds)
    (last : Seconds) : Prop where
  reflects : Reflects windowSeconds (h.redis (key tenantId name)) log last
  distinct : log.Nodup
  allowed : (h.allowed.map (·.now)).Sublist log

theorem start_tracked (tenantId name : String) (windowSeconds last : Seconds) :
    Tracked tenantId name windowSeconds .start [] last :=
  ⟨reflects_empty windowSeconds last,List.nodup_nil,List.Sublist.refl _⟩

theorem checkLimit_enabled (enabled : settings.rateLimitEnabled = true) (call : Call) (r : Redis) :
    checkLimit settings tenantId call r = checkWindows tenantId call.now (settings.limits call) r := if_pos enabled

theorem named (settings : Settings) (window : windows name = some windowSeconds) (call : Call) : ∃ limit, (name,limit) ∈ settings.limits call := by
  have known : name ∈ ["minute","hour"] := by
    rcases windows_cases window with ⟨rfl,_⟩ | ⟨rfl,_⟩ <;> simp
  obtain ⟨⟨_,limit⟩,listed,rfl⟩ := List.mem_map.mp ((limits_names settings call).2 name known)
  exact ⟨limit,listed⟩

theorem step_visited (tenantId : String) (enabled : settings.rateLimitEnabled = true) (window : windows name = some windowSeconds)
    (member : (name,limit) ∈ settings.limits call) (h : History) :
    Visited name windowSeconds limit call.now (h.redis (key tenantId name)) ((step settings tenantId h call).redis (key tenantId name))
      (checkLimit settings tenantId call h.redis).2 := by
  unfold step
  rw [checkLimit_enabled enabled]
  exact checkWindows_visited call.now h.redis (limits_names settings call).1 member window

theorem visited_reflects {next : ZSet} {answer : Answer} (visited : Visited name windowSeconds limit now z next answer)
    (reflects : Reflects windowSeconds z log last) (after : last ≤ now) :
    Reflects windowSeconds next log now ∧ answer ≠ .allowed ∨ Reflects windowSeconds next (now::log) now := by
  cases visited with
  | unvisited refused _ => exact .inl ⟨reflects.waited after,refused⟩
  | refused found =>
    obtain ⟨_,left,_⟩ := refused_checked found
    rw [left]
    exact .inl ⟨reflects.pruned after,nofun⟩
  | passed room _ =>
    rw [checkWindow_passes room]
    exact .inr (reflects.added after)

theorem step_allowed (refused : (checkLimit settings tenantId call h.redis).2 ≠ .allowed) :
    (step settings tenantId h call).allowed = h.allowed := if_neg refused

theorem step_grows (settings : Settings) (tenantId : String) (h : History) (call : Call) :
    (step settings tenantId h call).allowed.Sublist (call::h.allowed) := by
  unfold step
  dsimp only
  split
  · exact List.Sublist.refl _
  · exact List.sublist_cons_self _ _

theorem step_tracked (enabled : settings.rateLimitEnabled = true) (window : windows name = some windowSeconds)
    (tracked : Tracked tenantId name windowSeconds h log last) (after : last ≤ call.now) (fresh : call.now ∉ log) :
    ∃ log, Tracked tenantId name windowSeconds (step settings tenantId h call) log call.now := by
  obtain ⟨limit,member⟩ := named settings window call
  have visited := step_visited tenantId enabled window member h
  rcases visited_reflects visited tracked.reflects after with ⟨same,refused⟩ | added
  · refine ⟨log,same,tracked.distinct,?_⟩
    rw [step_allowed refused]
    exact tracked.allowed
  · refine ⟨call.now::log,added,List.nodup_cons.mpr ⟨fresh,tracked.distinct⟩,?_⟩
    exact ((step_grows settings tenantId h call).map _).trans (tracked.allowed.cons_cons call.now)

theorem room_counted (tracked : Tracked tenantId name windowSeconds h log last) (after : last ≤ now)
    (room : ¬Full limit (pruned windowSeconds now (h.redis (key tenantId name)))) (within : 1 ≤ limit ∧ limit ≤ L) :
    log.countP (now < ·+windowSeconds) < L := by
  have counted : log.countP (now < ·+windowSeconds) = (pruned windowSeconds now (h.redis (key tenantId name))).members.card := by
    rw [tracked.reflects.seen now after,retained_card tracked.distinct]
  have few := room_card room within.1
  unfold ZSet.zcard at few
  omega

theorem step_paced (enabled : settings.rateLimitEnabled = true) (window : windows name = some windowSeconds)
    (tracked : Tracked tenantId name windowSeconds h log last) (after : last ≤ call.now)
    (paced : Paced windowSeconds L (h.allowed.map (·.now)))
    (applied : call ∈ (step settings tenantId h call).allowed → ∀ limit, (name,limit) ∈ settings.limits call → 1 ≤ limit ∧ limit ≤ L) :
    Paced windowSeconds L ((step settings tenantId h call).allowed.map (·.now)) := by
  by_cases allowed : (checkLimit settings tenantId call h.redis).2 = .allowed
  · have newest : (step settings tenantId h call).allowed = call::h.allowed := if_pos allowed
    obtain ⟨limit,member⟩ := named settings window call
    rw [checkLimit_enabled enabled,checkWindows_allowed _ _ (limits_names settings call).1] at allowed
    obtain ⟨seconds,same,room⟩ := allowed _ member
    cases window.symm.trans same
    have few := room_counted tracked after room (applied (newest ▸ List.mem_cons_self) limit member)
    rw [newest]
    exact ⟨tracked.allowed.countP_le.trans_lt few,paced⟩
  · rw [step_allowed allowed]
    exact paced

theorem allowed_stays (calls : List Call) (member : call ∈ h.allowed) : call ∈ (calls.foldl (step settings tenantId) h).allowed := by
  induction calls generalizing h with
  | nil => exact member
  | cons next rest ih =>
    refine ih ?_
    unfold step
    dsimp only
    split
    · exact List.mem_cons_of_mem _ member
    · exact member

-- What the rest of the calls find.
theorem tracked_rest {rest : List Call} (enabled : settings.rateLimitEnabled = true) (window : windows name = some windowSeconds)
    (tracked : Tracked tenantId name windowSeconds h log last)
    (after : ∀ other ∈ call::rest, last ≤ other.now ∧ other.now ∉ log) (increasing : ∀ other ∈ rest, call.now < other.now) :
    ∃ log, Tracked tenantId name windowSeconds (step settings tenantId h call) log call.now ∧
      ∀ other ∈ rest, call.now ≤ other.now ∧ other.now ∉ log := by
  obtain ⟨soon,fresh⟩ := after call List.mem_cons_self
  obtain ⟨log,next⟩ := step_tracked enabled window tracked soon fresh
  refine ⟨log,next,fun other listed => ?_⟩
  have order := increasing other listed
  exact ⟨order.le,fun old => absurd (next.reflects.past _ old) order.not_ge⟩

theorem run_tracked (enabled : settings.rateLimitEnabled = true) (window : windows name = some windowSeconds)
    (tracked : Tracked tenantId name windowSeconds h log last) (after : ∀ call ∈ calls, last ≤ call.now ∧ call.now ∉ log)
    (increasing : calls.Pairwise (·.now < ·.now)) (paced : Paced windowSeconds L (h.allowed.map (·.now)))
    (applied : ∀ call ∈ (calls.foldl (step settings tenantId) h).allowed, ∀ limit, (name,limit) ∈ settings.limits call →
      1 ≤ limit ∧ limit ≤ L) :
    Paced windowSeconds L ((calls.foldl (step settings tenantId) h).allowed.map (·.now)) ∧
      ∃ log last, Tracked tenantId name windowSeconds (calls.foldl (step settings tenantId) h) log last := by
  induction calls generalizing h log last with
  | nil => exact ⟨paced,log,last,tracked⟩
  | cons call rest ih =>
    obtain ⟨soon,_⟩ := after call List.mem_cons_self
    obtain ⟨earlier,increasing⟩ := List.pairwise_cons.mp increasing
    obtain ⟨_,next,later⟩ := tracked_rest enabled window tracked after earlier
    refine ih next later increasing (step_paced enabled window tracked soon paced fun allowed => ?_) applied
    exact applied call (allowed_stays rest allowed)

-- Every window holds at most `L` allowed calls if that is the most the limits of
-- the allowed calls give it, and no entry expires while a window reaches it.
theorem sliding_window_bound (enabled : settings.rateLimitEnabled = true) (increasing : calls.Pairwise (·.now < ·.now))
    (window : windows name = some windowSeconds)
    (applied : ∀ call ∈ (run settings tenantId calls).allowed, ∀ limit, (name,limit) ∈ settings.limits call →
      1 ≤ limit ∧ limit ≤ L) (t : Seconds) :
    (run settings tenantId calls).allowed.countP (fun call => t < call.now+windowSeconds ∧ call.now ≤ t) ≤ L ∧
    ∀ m ∈ ((run settings tenantId calls).redis (key tenantId name)).members, t < m+windowSeconds →
      m ∈ (((run settings tenantId calls).redis (key tenantId name)).live t).members := by
  have start := start_tracked tenantId name windowSeconds 0
  have first : ∀ call ∈ calls, 0 ≤ call.now ∧ call.now ∉ [] := fun _ _ => ⟨zero_le,List.not_mem_nil⟩
  obtain ⟨paced,log,last,tracked⟩ := run_tracked enabled window start first increasing trivial applied
  constructor
  · have bound := paced.within t
    rwa [List.countP_map] at bound
  · intro m member reached
    rw [live_members,if_neg]
    · exact member
    · intro expired
      cases deadline : ((run settings tenantId calls).redis (key tenantId name)).deadline with
      | none =>
        rw [deadline] at expired
        cases expired
      | some gone =>
        rw [deadline,Option.any_some,decide_eq_true_iff] at expired
        have outlived := tracked.reflects.kept gone deadline m member
        exact absurd reached (outlived.trans expired).not_gt

def standard : Settings := ⟨true,100,1000⟩

-- A write and a read use the two calls of the minute up. When the write is a
-- minute old a call with a limit of one still finds the read.
def mixed : List Call :=
  [⟨1,.write,some [("minute",2)]⟩,⟨2,.read,some [("minute",2)]⟩,⟨3,.read,some [("minute",2)]⟩,⟨61,.read,some [("minute",1),("hour",5)]⟩,
    ⟨62,.write,some [("minute",2)]⟩]

theorem sliding_window_bound_mixed : (run standard "t1" mixed).allowed.map (·.now) = [62,2,1] ∧
    (run standard "t1" mixed).allowed.countP (fun call => (61 : Seconds) < call.now+60 ∧ call.now ≤ 61) ≤ 2 := by
  have limited : ∀ call ∈ (run standard "t1" mixed).allowed, ∀ item ∈ standard.limits call,
      item.1 = "minute" → 1 ≤ item.2 ∧ item.2 ≤ 2 := by decide +kernel
  have bound := sliding_window_bound rfl (by decide +kernel) rfl
    (fun call allowed limit member => limited call allowed ("minute",limit) member rfl) 61
  exact ⟨by decide +kernel,bound.1⟩

end SmartParking.Api.Calls
