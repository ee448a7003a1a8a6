import SmartParking.Lib.Runs
import SmartParking.Api.Calls

namespace SmartParking.Api.Quotas
open Lib Lib.SlidingWindow RateLimiter Calls

def decisions (settings : Settings) (tenantId : String) : History → List Call → List Bool
  | _,[] => []
  | h,call::rest =>
    decide ((checkLimit settings tenantId call h.redis).2 = .allowed)::decisions settings tenantId (step settings tenantId h call) rest

-- The allowed calls of one type within the last seconds.
def charged (allowed : List Call) (operationType : OperationType) (windowSeconds now : Seconds) : Nat :=
  allowed.countP fun call => call.operationType = operationType ∧ now < call.now+windowSeconds

def Spent (allowed : List Call) (call : Call) (item : String × Int) : Prop :=
  ∃ windowSeconds ∈ windows item.1, item.2 ≤ charged allowed call.operationType windowSeconds call.now

instance (allowed : List Call) (call : Call) (item : String × Int) : Decidable (Spent allowed call item) := by
  unfold Spent
  infer_instance

-- The limiter of the quotas as they are documented: one for each type, and only
-- for allowed calls.
def referenceAllows (settings : Settings) (allowed : List Call) (call : Call) : Bool :=
  decide (∀ item ∈ settings.limits call, ¬Spent allowed call item)

def referenceDecisions (settings : Settings) : List Call → List Call → List Bool
  | _,[] => []
  | allowed,call::rest =>
    referenceAllows settings allowed call::referenceDecisions settings
      (if referenceAllows settings allowed call then call::allowed else allowed) rest

-- Where a window's set has reached the limit of the call, the allowed calls of
-- its type have used a quota up without the other entries.
def Uncrowded (settings : Settings) (tenantId : String) (h : History) (call : Call) : Prop :=
  ∀ item ∈ settings.limits call, ∀ windowSeconds ∈ windows item.1,
    item.2 ≤ (pruned windowSeconds call.now (h.redis (key tenantId item.1))).zcard →
      ∃ used ∈ settings.limits call, Spent h.allowed call used

-- What the run so far has left for the calls to come.
def Known (tenantId : String) (h : History) (calls : List Call) : Prop :=
  ∀ name windowSeconds, windows name = some windowSeconds → ∃ log last, Tracked tenantId name windowSeconds h log last ∧
    ∀ call ∈ calls, last ≤ call.now ∧ call.now ∉ log

variable {settings : Settings} {tenantId : String} {h : History} {call : Call} {calls rest : List Call} {item : String × Int}

theorem start_known (tenantId : String) (calls : List Call) : Known tenantId .start calls :=
  fun name windowSeconds _ => ⟨[],0,start_tracked tenantId name windowSeconds 0,fun _ _ => ⟨zero_le,List.not_mem_nil⟩⟩

theorem known_preserved (enabled : settings.rateLimitEnabled = true) (known : Known tenantId h (call::rest))
    (increasing : ∀ other ∈ rest, call.now < other.now) : Known tenantId (step settings tenantId h call) rest := by
  intro name windowSeconds window
  obtain ⟨log,last,tracked,after⟩ := known name windowSeconds window
  obtain ⟨log,next,later⟩ := tracked_rest enabled window tracked after increasing
  exact ⟨log,call.now,next,later⟩

-- A type's allowed calls are among the entries of every window.
theorem charged_le (known : Known tenantId h (call::rest)) {name : String} {windowSeconds : Seconds}
    (window : windows name = some windowSeconds) :
    (charged h.allowed call.operationType windowSeconds call.now : Int) ≤
      (pruned windowSeconds call.now (h.redis (key tenantId name))).zcard := by
  obtain ⟨log,last,tracked,after⟩ := known name windowSeconds window
  have soon : last ≤ call.now := (after call List.mem_cons_self).1
  have same : (pruned windowSeconds call.now (h.redis (key tenantId name))).members.card = log.countP (call.now < ·+windowSeconds) := by
    rw [tracked.reflects.seen call.now soon,retained_card tracked.distinct]
  have typed : charged h.allowed call.operationType windowSeconds call.now ≤
      (h.allowed.map (·.now)).countP (call.now < ·+windowSeconds) := by
    rw [List.countP_map]
    exact List.countP_mono_left fun other _ counted => decide_eq_true (of_decide_eq_true counted).2
  have listed := tracked.allowed.countP_le (p := fun m => decide (call.now < m+windowSeconds))
  rw [ZSet.zcard,same]
  omega

theorem reference_allows : referenceAllows settings h.allowed call = true ↔
    ∀ item ∈ settings.limits call, ¬Spent h.allowed call item := decide_eq_true_iff

theorem code_allows (enabled : settings.rateLimitEnabled = true)
    (limits : ∀ item ∈ settings.limits call, 1 ≤ item.2 ∧ (windows item.1).isSome) :
    (checkLimit settings tenantId call h.redis).2 = .allowed ↔ ∀ item ∈ settings.limits call, ∀ windowSeconds ∈ windows item.1,
      (pruned windowSeconds call.now (h.redis (key tenantId item.1))).zcard < item.2 := by
  rw [checkLimit_enabled enabled,checkWindows_allowed _ _ (limits_names settings call).1]
  refine forall₂_congr fun item listed => ?_
  obtain ⟨positive,there⟩ := limits item listed
  obtain ⟨windowSeconds,window⟩ := Option.isSome_iff_exists.mp there
  rw [window]
  constructor
  · rintro ⟨seconds,same,room⟩ other there
    cases same
    cases Option.some.inj there
    exact room_card room positive
  · intro few
    exact ⟨windowSeconds,rfl,fun full => absurd full.1 (few windowSeconds rfl).not_ge⟩

theorem same_decision (enabled : settings.rateLimitEnabled = true) (known : Known tenantId h (call::rest))
    (limits : ∀ item ∈ settings.limits call, 1 ≤ item.2 ∧ (windows item.1).isSome) :
    decide ((checkLimit settings tenantId call h.redis).2 = .allowed) = referenceAllows settings h.allowed call ↔
      Uncrowded settings tenantId h call := by
  rw [Bool.eq_iff_iff,decide_eq_true_iff,code_allows enabled limits,reference_allows]
  constructor
  · intro same item listed windowSeconds window full
    by_contra unused
    have allowed := same.mpr fun used member spent => unused ⟨used,member,spent⟩
    exact absurd full (allowed item listed windowSeconds window).not_ge
  · intro uncrowded
    constructor
    · rintro few item listed ⟨windowSeconds,window,spent⟩
      exact absurd (spent.trans (charged_le known window)) (few item listed windowSeconds window).not_ge
    · intro unspent item listed windowSeconds window
      by_contra full
      obtain ⟨used,member,spent⟩ := uncrowded item listed windowSeconds window (not_lt.mp full)
      exact unspent used member spent

theorem decisions_from (enabled : settings.rateLimitEnabled = true) (minute : 1 ≤ settings.rateLimitPerMinute)
    (hour : 1 ≤ settings.rateLimitPerHour) (default : ∀ call ∈ calls, call.customLimits = none)
    (increasing : calls.Pairwise (·.now < ·.now)) (known : Known tenantId h calls) :
    decisions settings tenantId h calls = referenceDecisions settings h.allowed calls ↔
      Runs.Along (fun h call => some (step settings tenantId h call)) (fun h call _ => Uncrowded settings tenantId h call) h calls := by
  induction calls generalizing h with
  | nil => exact iff_of_true rfl trivial
  | cons call rest ih =>
    obtain ⟨here,later⟩ := List.forall_mem_cons.mp default
    obtain ⟨order,increasing⟩ := List.pairwise_cons.mp increasing
    have head := same_decision enabled known (default_limits minute hour here)
    have tail := ih later increasing (known_preserved enabled known order)
    simp only [decisions,referenceDecisions,Runs.Along,List.cons.injEq,Option.some.injEq,forall_eq']
    rw [head]
    refine and_congr_right fun uncrowded => ?_
    have same : (if referenceAllows settings h.allowed call then call::h.allowed else h.allowed) =
        (step settings tenantId h call).allowed := by
      rw [← head.mpr uncrowded]
      simp [step]
    rw [same,tail]

-- The decisions are those of a limiter that charges each type its own quota
-- exactly as long as no set is filled by other entries.
theorem quotas_exact (enabled : settings.rateLimitEnabled = true) (minute : 1 ≤ settings.rateLimitPerMinute)
    (hour : 1 ≤ settings.rateLimitPerHour) (default : ∀ call ∈ calls, call.customLimits = none)
    (increasing : calls.Pairwise (·.now < ·.now)) :
    decisions settings tenantId .start calls = referenceDecisions settings [] calls ↔
      Runs.Along (fun h call => some (step settings tenantId h call)) (fun h call _ => Uncrowded settings tenantId h call)
        .start calls :=
  decisions_from enabled minute hour default increasing (start_known tenantId calls)

def reading (n : Nat) : List Call := (List.range n).map fun i => ⟨i+1,.read,none⟩

theorem quotas_exact_reading : decisions standard "t1" .start (reading 3) = referenceDecisions standard [] (reading 3) ↔
    Runs.Along (fun h call => some (step standard "t1" h call)) (fun h call _ => Uncrowded standard "t1" h call)
      .start (reading 3) :=
  quotas_exact rfl (by decide) (by decide) (by decide +kernel) (by decide +kernel)

-- Ten reads in a minute, and the first write is refused.
theorem quotas_crowded : ¬∀ (settings : Settings) (tenantId : String) (calls : List Call), settings.rateLimitEnabled = true →
    1 ≤ settings.rateLimitPerMinute → 1 ≤ settings.rateLimitPerHour → (∀ call ∈ calls, call.customLimits = none) →
    calls.Pairwise (·.now < ·.now) → decisions settings tenantId .start calls = referenceDecisions settings [] calls := by
  intro equal
  have same := equal standard "t1" (reading 10 ++ [⟨11,.write,none⟩]) rfl (by decide) (by decide) (by decide +kernel) (by decide +kernel)
  have differ : decisions standard "t1" .start (reading 10 ++ [⟨11,.write,none⟩]) ≠
      referenceDecisions standard [] (reading 10 ++ [⟨11,.write,none⟩]) := by decide +kernel
  exact differ same

end SmartParking.Api.Quotas
