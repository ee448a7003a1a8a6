import Mathlib.Algebra.Order.Field.Basic
import Mathlib.Tactic.Linarith
import Mathlib.Tactic.Ring

namespace SmartParking.Lib.TokenBucket

variable {K : Type} [Field K] [LinearOrder K]

-- A bucket holds at most `capacity` tokens and gains `rate` of them in each unit
-- of time.
structure Bucket (K : Type) where
  capacity : K
  rate : K

structure Level (K : Type) where
  tokens : K
  since : K

namespace Bucket

def refill (b : Bucket K) (l : Level K) (t : K) : K := min b.capacity (l.tokens+b.rate*(t-l.since))

def allows (b : Bucket K) (l : Level K) (t : K) : Bool := decide (1 ≤ b.refill l t)

def take (b : Bucket K) (l : Level K) (t : K) : Level K :=
  if b.allows l t then ⟨b.refill l t-1,t⟩ else ⟨b.refill l t,t⟩

def answers (b : Bucket K) : Level K → List K → List Bool
  | _,[] => []
  | l,t::rest => b.allows l t::b.answers (b.take l t) rest

-- The times of the allowed calls.
def admitted (b : Bucket K) : Level K → List K → List K
  | _,[] => []
  | l,t::rest => if b.allows l t then t::b.admitted (b.take l t) rest else b.admitted (b.take l t) rest

variable {b : Bucket K} {l : Level K} {s t u start stop : K} {times : List K}

theorem refill_le (b : Bucket K) (l : Level K) (t : K) : b.refill l t ≤ b.capacity := min_le_left _ _

theorem take_since (b : Bucket K) (l : Level K) (t : K) : (b.take l t).since = t := by
  unfold take
  split <;> rfl

theorem admitted_ordered (b : Bucket K) (l : Level K) (ordered : ∀ u ∈ times, t ≤ u) : ∀ u ∈ b.admitted l times, t ≤ u := by
  induction times generalizing l with
  | nil => exact fun _ listed => nomatch listed
  | cons first rest ih =>
    obtain ⟨head,tail⟩ := List.forall_mem_cons.mp ordered
    unfold admitted
    split
    · exact List.forall_mem_cons.mpr ⟨head,ih (b.take l first) tail⟩
    · exact ih (b.take l first) tail

variable [IsStrictOrderedRing K]

-- Looking at the bucket in between changes nothing.
theorem refill_refill (rate : 0 ≤ b.rate) (later : s ≤ t) : b.refill ⟨b.refill l s,s⟩ t = b.refill l t := by
  have gained : 0 ≤ b.rate*(t-s) := mul_nonneg rate (sub_nonneg.mpr later)
  have whole : l.tokens+b.rate*(s-l.since)+b.rate*(t-s) = l.tokens+b.rate*(t-l.since) := by ring
  unfold refill
  rw [min_add,whole,← min_assoc,min_eq_left (le_add_of_nonneg_right gained)]

theorem admitted_refilled (rate : 0 ≤ b.rate) (rest : List K) :
    b.admitted ⟨b.refill l t,t⟩ (t::rest) = b.admitted l (t::rest) := by
  have there : b.refill ⟨b.refill l t,t⟩ t = b.refill l t := refill_refill rate le_rfl
  have answer : b.allows ⟨b.refill l t,t⟩ t = b.allows l t := by rw [allows,there,allows]
  have level : b.take ⟨b.refill l t,t⟩ t = b.take l t := by rw [take,answer,there,take]
  rw [admitted,answer,level,admitted]

theorem refill_full (rate : 0 ≤ b.rate) (full : b.capacity ≤ l.tokens) (later : l.since ≤ t) :
    b.refill l t = b.capacity :=
  min_eq_left (le_add_of_le_of_nonneg full (mul_nonneg rate (sub_nonneg.mpr later)))

-- The next call is allowed as soon as the missing part of a token has flowed in.
theorem allows_exact (rate : 0 < b.rate) (capacity : 1 ≤ b.capacity) (later : t ≤ u) :
    b.allows l u = true ↔ (1-b.refill l t)/b.rate ≤ u-t := by
  rw [allows,decide_eq_true_iff,← refill_refill rate.le later,refill,le_min_iff,and_iff_right capacity,
    div_le_iff₀ rate,mul_comm (u-t)]
  exact sub_le_iff_le_add'.symm

theorem take_nonneg (rate : 0 ≤ b.rate) (capacity : 0 ≤ b.capacity) (tokens : 0 ≤ l.tokens) (later : l.since ≤ t) :
    0 ≤ (b.take l t).tokens := by
  unfold take
  split
  · rename_i allowed
    exact sub_nonneg.mpr (of_decide_eq_true allowed)
  · exact le_min capacity (add_nonneg tokens (mul_nonneg rate (sub_nonneg.mpr later)))

-- What is taken out until a given time was in the bucket or has flowed in.
theorem admitted_until (rate : 0 ≤ b.rate) (capacity : 0 ≤ b.capacity) (tokens : 0 ≤ l.tokens)
    (ordered : (l.since::times).Pairwise (· ≤ ·)) (last : l.since ≤ stop) :
    ((b.admitted l times).countP (· ≤ stop) : K) ≤ l.tokens+b.rate*(stop-l.since) := by
  induction times generalizing l with
  | nil =>
    have gained : 0 ≤ b.rate*(stop-l.since) := mul_nonneg rate (sub_nonneg.mpr last)
    simpa [admitted] using add_nonneg tokens gained
  | cons t rest ih =>
    obtain ⟨after,ordered⟩ := List.pairwise_cons.mp ordered
    have later : l.since ≤ t := after t List.mem_cons_self
    by_cases inside : t ≤ stop
    · have before : (b.take l t).since = t := take_since b l t
      have spent := ih (take_nonneg rate capacity tokens later) (before.symm ▸ ordered) (before.symm ▸ inside)
      rw [before] at spent
      have there : b.refill l t ≤ l.tokens+b.rate*(t-l.since) := min_le_right _ _
      have whole : b.rate*(t-l.since)+b.rate*(stop-t) = b.rate*(stop-l.since) := by ring
      by_cases allowed : b.allows l t = true
      · have left : (b.take l t).tokens = b.refill l t-1 := by rw [take,if_pos allowed]
        rw [left] at spent
        rw [admitted,if_pos allowed,List.countP_cons_of_pos (by simpa using inside)]
        push_cast
        linarith
      · have left : (b.take l t).tokens = b.refill l t := by rw [take,if_neg allowed]
        rw [left] at spent
        rw [admitted,if_neg allowed]
        linarith
    · have beyond : ∀ u ∈ b.admitted l (t::rest), t ≤ u :=
        admitted_ordered b l (List.forall_mem_cons.mpr ⟨le_rfl,(List.pairwise_cons.mp ordered).1⟩)
      have none : (b.admitted l (t::rest)).countP (· ≤ stop) = 0 := by
        refine List.countP_eq_zero.mpr fun u listed => ?_
        simpa using (not_le.mp inside).trans_le (beyond u listed)
      rw [none,Nat.cast_zero]
      exact add_nonneg tokens (mul_nonneg rate (sub_nonneg.mpr last))

-- In an interval no more calls are allowed than the bucket holds when full, and
-- what flows in meanwhile.
theorem admitted_between (rate : 0 ≤ b.rate) (capacity : 0 ≤ b.capacity) (tokens : 0 ≤ l.tokens)
    (ordered : (l.since::times).Pairwise (· ≤ ·)) (interval : start ≤ stop) :
    ((b.admitted l times).countP (fun t => start ≤ t ∧ t ≤ stop) : K) ≤ b.capacity+b.rate*(stop-start) := by
  have most : 0 ≤ b.capacity+b.rate*(stop-start) := add_nonneg capacity (mul_nonneg rate (sub_nonneg.mpr interval))
  induction times generalizing l with
  | nil => simpa [admitted] using most
  | cons t rest ih =>
    obtain ⟨after,ordered⟩ := List.pairwise_cons.mp ordered
    have later : l.since ≤ t := after t List.mem_cons_self
    by_cases begun : start ≤ t
    · by_cases past : stop < t
      · have beyond : ∀ u ∈ b.admitted l (t::rest), t ≤ u :=
          admitted_ordered b l (List.forall_mem_cons.mpr ⟨le_rfl,(List.pairwise_cons.mp ordered).1⟩)
        have none : (b.admitted l (t::rest)).countP (fun u => start ≤ u ∧ u ≤ stop) = 0 := by
          refine List.countP_eq_zero.mpr fun u listed => ?_
          have outside := past.trans_le (beyond u listed)
          simpa using fun _ => outside
        rw [none,Nat.cast_zero]
        exact most
      · have left : 0 ≤ b.refill l t := le_min capacity (add_nonneg tokens (mul_nonneg rate (sub_nonneg.mpr later)))
        have spent := admitted_until rate capacity (l := ⟨b.refill l t,t⟩) left
          (List.pairwise_cons.mpr ⟨List.forall_mem_cons.mpr ⟨le_rfl,(List.pairwise_cons.mp ordered).1⟩,ordered⟩)
          (not_lt.mp past)
        have fewer : (b.admitted l (t::rest)).countP (fun u => start ≤ u ∧ u ≤ stop) ≤
            (b.admitted ⟨b.refill l t,t⟩ (t::rest)).countP (· ≤ stop) := by
          rw [admitted_refilled rate]
          exact List.countP_mono_left fun u _ counted => by simpa using (of_decide_eq_true counted).2
        have gained : b.rate*(stop-t) ≤ b.rate*(stop-start) := mul_le_mul_of_nonneg_left (sub_le_sub_left begun stop) rate
        calc ((b.admitted l (t::rest)).countP (fun u => start ≤ u ∧ u ≤ stop) : K)
            ≤ (b.admitted ⟨b.refill l t,t⟩ (t::rest)).countP (· ≤ stop) := Nat.cast_le.mpr fewer
          _ ≤ b.refill l t+b.rate*(stop-t) := spent
          _ ≤ b.capacity+b.rate*(stop-start) := add_le_add (refill_le b l t) gained
    · have before : (b.take l t).since = t := take_since b l t
      have later := ih (take_nonneg rate capacity tokens later) (before.symm ▸ ordered)
      have skipped : (b.admitted l (t::rest)).countP (fun u => start ≤ u ∧ u ≤ stop) =
          (b.admitted (b.take l t) rest).countP (fun u => start ≤ u ∧ u ≤ stop) := by
        rw [admitted]
        split
        · exact List.countP_cons_of_neg (p := fun u => decide (start ≤ u ∧ u ≤ stop)) (by simp [begun])
        · rfl
      rw [skipped]
      exact later

end Bucket

end SmartParking.Lib.TokenBucket
