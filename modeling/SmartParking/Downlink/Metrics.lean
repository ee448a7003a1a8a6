import Mathlib.Data.List.Sort
import Mathlib.Tactic.Linarith
import SmartParking.Lib.Rounding
import SmartParking.Downlink.Serial

namespace SmartParking.Downlink.Metrics
open Lib Rounding

-- What `get_metrics` returns.
structure QueueMetrics where
  queueDepth : Nat
  deadLetterDepth : Nat
  totalEnqueued : Nat
  totalSucceeded : Nat
  totalRetried : Nat
  totalDeadLettered : Nat
  totalDeduplicated : Nat
  totalCoalesced : Nat
  successRate : ℚ
  latencyP50Ms : Int
  latencyP99Ms : Int

-- The double that the literal 0.99 denotes.
def ninetyNine : ℚ := 4458563631096791/4503599627370496

-- The index of the 99th percentile: `int(len(sorted_latencies)*0.99)`.
def p99Index (round : ℚ → ℚ) (length : Nat) : Nat := (truncate (round (length*ninetyNine))).toNat

-- `none` is an IndexError.
def latencyP50 (sortedLatencies : List Int) : Option Int :=
  if sortedLatencies ≠ [] then sortedLatencies[sortedLatencies.length/2]? else some 0

def latencyP99 (round : ℚ → ℚ) (sortedLatencies : List Int) : Option Int :=
  if 1 < sortedLatencies.length then sortedLatencies[p99Index round sortedLatencies.length]?
  else if sortedLatencies ≠ [] then sortedLatencies[0]? else some 0

-- `round` is the rounding of a result to a double.
def getMetrics (round : ℚ → ℚ) (r : Redis) : Option QueueMetrics := do
  let sortedLatencies := (r.latencies.take 100).insertionSort (· ≤ ·)
  let p50 ← latencyP50 sortedLatencies
  let p99 ← latencyP99 round sortedLatencies
  return {
    queueDepth := r.pending.length
    deadLetterDepth := r.dead.length
    totalEnqueued := r.metrics .enqueued
    totalSucceeded := r.metrics .succeeded
    totalRetried := r.metrics .retried
    totalDeadLettered := r.metrics .deadLettered
    totalDeduplicated := r.metrics .deduplicated
    totalCoalesced := r.metrics .coalesced
    successRate := if 0 < r.metrics .enqueued then round (round (r.metrics .succeeded/r.metrics .enqueued)*100) else 0
    latencyP50Ms := p50
    latencyP99Ms := p99}

variable {round : ℚ → ℚ} {r next : Redis} {issued : CmdId → Option EnqueueArgs} {a : EnqueueArgs} {uuid : CmdId}
  {answer : Option CmdId} {outcome : Outcome} {s : Serial}

theorem p99Index_lt (nearest : Nearest round) {length : Nat} (several : 1 < length) (few : length ≤ 100) :
    p99Index round length < length := by
  have two : (2 : ℚ) ≤ length := by exact_mod_cast several
  have hundred : (length : ℚ) ≤ 100 := by exact_mod_cast few
  -- One 64th below the length there is a double, and the product is below it.
  have multiple : ((64*length-1 : Nat) : ℚ)/64 = length-1/64 := by
    rw [Nat.cast_sub (by omega)]
    push_cast
    ring
  have product : length*ninetyNine ≤ ((64*length-1 : Nat) : ℚ)/64 := by
    rw [multiple]
    unfold ninetyNine
    linarith
  have rounded := nearest.le_double (by omega) product
  have nonneg : 0 ≤ round (length*ninetyNine) := nearest.nonneg (by unfold ninetyNine; positivity)
  have below : (truncate (round (length*ninetyNine)) : ℚ) < length := by
    have cut := truncate_le nonneg
    rw [multiple] at rounded
    linarith
  have index : truncate (round (length*ninetyNine)) < length := by exact_mod_cast below
  unfold p99Index
  omega

theorem percentile_found (items : List Int) (index : Nat) (within : index < items.length) :
    ∃ x, items[index]? = some x := ⟨items[index],List.getElem?_eq_getElem within⟩

theorem latencyP50_found (sortedLatencies : List Int) : ∃ x, latencyP50 sortedLatencies = some x := by
  unfold latencyP50
  split
  · rename_i some
    exact percentile_found _ _ (Nat.div_lt_self (List.length_pos_iff.mpr some) (by decide))
  · exact ⟨0,rfl⟩

theorem latencyP99_found (nearest : Nearest round) {sortedLatencies : List Int} (few : sortedLatencies.length ≤ 100) :
    ∃ x, latencyP99 round sortedLatencies = some x := by
  unfold latencyP99
  split
  · rename_i several
    exact percentile_found _ _ (p99Index_lt nearest several few)
  · split
    · rename_i some
      exact percentile_found _ _ (List.length_pos_iff.mpr some)
    · exact ⟨0,rfl⟩

-- Every enqueued command succeeded, is dead, was replaced or is pending.
structure Balanced (r : Redis) : Prop where
  enqueued : r.metrics .enqueued = r.metrics .succeeded+r.metrics .deadLettered+r.metrics .coalesced+r.pending.length
  dead : r.dead.length = r.metrics .deadLettered

theorem initial_balanced : Balanced .empty := ⟨rfl,rfl⟩

theorem removeExisting_metrics (valid : Consistent r.pending r.cmd r.coalesce issued) (device : DeviceEui) :
    (removeExisting r device).metrics .enqueued = r.metrics .enqueued ∧
    (removeExisting r device).metrics .succeeded = r.metrics .succeeded ∧
    (removeExisting r device).metrics .deadLettered = r.metrics .deadLettered ∧
    (removeExisting r device).dead = r.dead ∧
    (removeExisting r device).metrics .coalesced+(removeExisting r device).pending.length =
      r.metrics .coalesced+r.pending.length := by
  unfold removeExisting
  cases key : r.coalesce device with
  | none => exact ⟨rfl,rfl,rfl,rfl,rfl⟩
  | some existing =>
    obtain ⟨member,_⟩ := (valid.tracked device existing).mp key
    have named : existing ≠ "" := fun empty => valid.unissued valid.named (empty ▸ member)
    have shorter : (r.pending.filter (· ≠ existing)).length+1 = r.pending.length := by
      have erased : r.pending.filter (· ≠ existing) = r.pending.erase existing := by
        rw [valid.nodup.erase_eq_filter]
        exact List.filter_congr fun other _ => by by_cases same : other = existing <;> simp [same]
      rw [erased,List.length_erase_of_mem member]
      exact Nat.sub_add_cancel (List.length_pos_of_mem member)
    simp only [named,if_false]
    refine ⟨rfl,rfl,rfl,rfl,?_⟩
    simp only [Redis.incr_metrics,Redis.incr_pending,Redis.deleteCmd,Redis.lrem,Function.update_self]
    omega

theorem enqueue_balanced (balanced : Balanced r) (valid : Consistent r.pending r.cmd r.coalesce issued)
    (ran : enqueue r a uuid = (next,answer)) : Balanced next := by
  unfold enqueue at ran
  split at ran
  · cases ran
    exact ⟨balanced.enqueued,balanced.dead⟩
  · cases ran
    obtain ⟨enqueued,succeeded,deadLettered,dead,coalesced⟩ := removeExisting_metrics valid a.deviceEui
    generalize removeExisting r a.deviceEui = removed at enqueued succeeded deadLettered dead coalesced
    obtain ⟨total,buried⟩ := balanced
    constructor
    · simp [Redis.setCoalesce,Redis.rpush,Redis.hset]
      omega
    · simp [Redis.setCoalesce,Redis.rpush,Redis.hset,dead,deadLettered,buried]

theorem cycle_balanced (balanced : Balanced r) (valid : Consistent r.pending r.cmd r.coalesce issued) :
    Balanced (cycle r outcome) := by
  obtain ⟨total,buried⟩ := balanced
  cases queue : r.pending with
  | nil =>
    rw [queue] at total
    simp only [cycle,dequeue,Redis.blpop,queue]
    exact ⟨by rw [total,queue],buried⟩
  | cons id rest =>
    obtain ⟨cmd,_,_,popped,_⟩ := dequeue_command valid queue
    rw [queue,List.length_cons] at total
    cases outcome with
    | success =>
      simp only [cycle,popped,finishCycle]
      constructor
      · simp
        omega
      · simpa using buried
    | failure error requeue =>
      simp only [cycle,popped,finishCycle,markFailure]
      split
      · constructor
        · simp
          omega
        · simp [buried]
      · constructor
        · simp [Redis.rpush,Redis.hset]
          omega
        · simpa [Redis.rpush,Redis.hset] using buried

theorem step_balanced {next : Serial} (balanced : Balanced s.redis)
    (valid : Consistent s.redis.pending s.redis.cmd s.redis.coalesce s.issued) (unexpired : s.Unexpired op)
    (ran : s.step op = some next) : Balanced next.redis := by
  cases op with
  | enqueue a uuid =>
    simp only [Serial.step] at ran
    split at ran
    · split at ran
      · rename_i called
        cases ran
        exact enqueue_balanced balanced valid called
      · rename_i called
        cases ran
        exact enqueue_balanced balanced valid called
    · cases ran
  | cycle outcome =>
    cases ran
    exact cycle_balanced balanced valid
  | wait now =>
    cases ran
    have same : s.redis.advance now = {s.redis with clock := now} := unexpired
    rw [same]
    exact ⟨balanced.enqueued,balanced.dead⟩

theorem serial_balanced (path : Runs.Reached Serial.step Serial.Unexpired .empty s) : Balanced s.redis :=
  path.invariantUnder (fun s => Consistent s.redis.pending s.redis.cmd s.redis.coalesce s.issued)
    (fun s => Balanced s.redis) serial_consistent initial_balanced fun valid balanced => step_balanced balanced valid

theorem successRate_bounds (nearest : Nearest round) {succeeded enqueued : Nat} (fewer : succeeded ≤ enqueued)
    (positive : 0 < enqueued) : 0 ≤ round (round (succeeded/enqueued)*100) ∧ round (round (succeeded/enqueued)*100) ≤ 100 := by
  have total : (0 : ℚ) < enqueued := by exact_mod_cast positive
  have part : (succeeded : ℚ)/enqueued ≤ (64 : Nat)/64 := by
    rw [div_le_iff₀ total]
    norm_num
    exact fewer
  have ratio : round (succeeded/enqueued) ≤ 1 := by simpa using nearest.le_double (by decide) part
  have nonneg : 0 ≤ round (succeeded/enqueued) := nearest.nonneg (by positivity)
  have percent := nearest.le_double (k := 6400) (q := round (succeeded/enqueued)*100) (by decide) (by norm_num; linarith)
  norm_num at percent
  exact ⟨nearest.nonneg (by positivity),percent⟩

-- The counters account for every command, the rate is a percentage, and
-- `get_metrics` reads no percentile outside the list.
theorem metrics_add_up (nearest : Nearest round) (path : Runs.Reached Serial.step Serial.Unexpired .empty s) :
    ∃ m, getMetrics round s.redis = some m ∧
      m.totalEnqueued = m.totalSucceeded+m.totalDeadLettered+m.totalCoalesced+m.queueDepth ∧
      m.deadLetterDepth = m.totalDeadLettered ∧ 0 ≤ m.successRate ∧ m.successRate ≤ 100 := by
  obtain ⟨total,dead⟩ := serial_balanced path
  obtain ⟨p50,readP50⟩ := latencyP50_found ((s.redis.latencies.take 100).insertionSort (· ≤ ·))
  have few : ((s.redis.latencies.take 100).insertionSort (· ≤ ·)).length ≤ 100 := by
    rw [List.length_insertionSort]
    exact List.length_take_le _ _
  obtain ⟨p99,readP99⟩ := latencyP99_found nearest few
  refine ⟨_,by unfold getMetrics; dsimp only; rw [readP50,readP99]; rfl,total,dead,?_⟩
  dsimp only
  split
  · rename_i positive
    exact successRate_bounds nearest (by omega) positive
  · exact ⟨le_refl 0,by norm_num⟩

-- A command fails, is retried and replaced, and another one succeeds.
theorem metrics_add_up_sample : ∃ (s : Serial) (m : QueueMetrics), s.redis.metrics .enqueued = 4 ∧
    s.redis.metrics .retried = 1 ∧ s.redis.metrics .coalesced = 2 ∧ s.redis.metrics .succeeded = 1 ∧
    getMetrics id s.redis = some m ∧ m.totalEnqueued = m.totalSucceeded+m.totalDeadLettered+m.totalCoalesced+m.queueDepth ∧
    m.deadLetterDepth = m.totalDeadLettered ∧ 0 ≤ m.successRate ∧ m.successRate ≤ 100 := by
  have start : Runs.Reached Serial.step Serial.Unexpired .empty .empty := .refl
  obtain ⟨s,path,enqueued,retried,coalesced,succeeded⟩ := start.found (fun _ => Op.instant)
    (fun s => s.redis.metrics .enqueued = 4 ∧ s.redis.metrics .retried = 1 ∧ s.redis.metrics .coalesced = 2 ∧
      s.redis.metrics .succeeded = 1)
    (serialSample ++ [.cycle .success,.enqueue {deviceEui := "d2",payload := "FFFFFF",fport := 15,tenantId := "t"} "d"])
    (fun _ test => Op.instant_unexpired test) (by decide +kernel)
  obtain ⟨m,found,adds⟩ := metrics_add_up nearest_id path
  exact ⟨s,m,enqueued,retried,coalesced,succeeded,found,adds⟩

end SmartParking.Downlink.Metrics
