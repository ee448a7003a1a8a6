import Mathlib.Order.Interval.Set.LinearOrder
import SmartParking.Reservations.Availability

namespace SmartParking.Reservations.Intervals

-- Times of any linear order: a row's `a` to `b`, a request's `s` to `e`.
variable {τ : Type*} [LinearOrder τ] {a b s e x y u v t : τ}

-- The WHERE clause of `check_availability`.
def checkAvailabilityClause (a b s e : τ) : Bool := a ≤ s && s < b || a < e && e ≤ b || s ≤ a && b ≤ e

-- The WHERE clause of `create_reservation`, `(a, b) OVERLAPS (s, e)`: the ends
-- come in either order, and equal ends stand for one time.
def overlapsClause (a b s e : τ) : Bool :=
  let low₁ := min a b
  let low₂ := min s e
  if low₁ < low₂ then low₂ < max a b
  else if low₂ < low₁ then low₁ < max s e
  else true

-- `tstzrange(a, b, '[)') && tstzrange(s, e, '[)')` of `uq_reservations_no_overlap`.
def excludeClause (a b s e : τ) : Bool := a < e && s < b

-- The times that the two ends of a period stand for.
def period (x y : τ) : Set τ := if x = y then {x} else Set.Ico (min x y) (max x y)

theorem period_of_lt (ordered : x < y) : period x y = Set.Ico x y := by
  rw [period,if_neg (ne_of_lt ordered),min_eq_left (le_of_lt ordered),max_eq_right (le_of_lt ordered)]

theorem min_mem_period : min x y ∈ period x y := by
  unfold period
  split
  · rename_i same
    rw [same,min_self]
    exact Set.mem_singleton y
  · rename_i apart
    exact ⟨le_refl _,min_lt_max.mpr apart⟩

theorem min_le_of_mem (member : t ∈ period x y) : min x y ≤ t := by
  unfold period at member
  split at member
  · rw [Set.mem_singleton_iff.mp member]
    exact min_le_left x y
  · exact member.1

-- A period holds nothing but its beginning at or after its end.
theorem lt_max_of_mem (member : t ∈ period x y) (later : min x y < t) : t < max x y := by
  unfold period at member
  split at member
  · rename_i same
    rw [Set.mem_singleton_iff.mp member,same,min_self] at later
    exact absurd later (lt_irrefl y)
  · exact member.2

-- The period that begins later begins inside the other one, if they meet at all.
theorem meets_later (first : min x y < min u v) : (period x y ∩ period u v).Nonempty ↔ min u v < max x y := by
  constructor
  · rintro ⟨t,one,two⟩
    have after := min_le_of_mem two
    exact lt_of_le_of_lt after (lt_max_of_mem one (lt_of_lt_of_le first after))
  · intro inside
    refine ⟨min u v,?_,min_mem_period⟩
    have apart : x ≠ y := by
      rintro rfl
      rw [min_self] at first
      rw [max_self] at inside
      exact lt_asymm first inside
    rw [period,if_neg apart]
    exact ⟨le_of_lt first,inside⟩

-- What the standard says of OVERLAPS, whatever the order of the ends.
theorem overlapsClause_period : overlapsClause x y u v = true ↔ (period x y ∩ period u v).Nonempty := by
  unfold overlapsClause
  dsimp only
  rcases lt_trichotomy (min x y) (min u v) with first | same | second
  · rw [if_pos first,decide_eq_true_iff]
    exact (meets_later first).symm
  · rw [if_neg (not_lt_of_ge (ge_of_eq same)),if_neg (not_lt_of_ge (le_of_eq same))]
    refine ⟨fun _ => ⟨min x y,min_mem_period,?_⟩,fun _ => rfl⟩
    rw [same]
    exact min_mem_period
  · rw [if_neg (lt_asymm second),if_pos second,decide_eq_true_iff,Set.inter_comm]
    exact (meets_later second).symm

theorem intersect_iff (row : a < b) (query : s < e) : (Set.Ico a b ∩ Set.Ico s e).Nonempty ↔ a < e ∧ s < b := by
  rw [Set.Ico_inter_Ico,Set.nonempty_Ico,max_lt_iff,lt_min_iff,lt_min_iff]
  constructor
  · rintro ⟨⟨_,early⟩,late,_⟩
    exact ⟨early,late⟩
  · rintro ⟨early,late⟩
    exact ⟨⟨row,early⟩,late,query⟩

theorem excludeClause_iff : excludeClause a b s e = true ↔ a < e ∧ s < b := by
  rw [excludeClause,Bool.and_eq_true,decide_eq_true_iff,decide_eq_true_iff]

theorem checkAvailabilityClause_iff (row : a < b) (query : s < e) :
    checkAvailabilityClause a b s e = true ↔ a < e ∧ s < b := by
  simp only [checkAvailabilityClause,Bool.or_eq_true,Bool.and_eq_true,decide_eq_true_iff]
  constructor
  · rintro ((⟨begun,open'⟩ | ⟨begun,open'⟩) | ⟨inside,ended⟩)
    · exact ⟨lt_of_le_of_lt begun query,open'⟩
    · exact ⟨begun,lt_of_lt_of_le query open'⟩
    · exact ⟨lt_of_lt_of_le row ended,lt_of_le_of_lt inside row⟩
  · rintro ⟨early,late⟩
    rcases le_total a s with begun | inside
    · exact .inl (.inl ⟨begun,late⟩)
    · rcases le_total b e with ended | open'
      · exact .inr ⟨inside,ended⟩
      · exact .inl (.inr ⟨early,open'⟩)

-- The three tests of the code are one: the half-open intervals have a time in
-- common.
theorem clauses_intersect {τ : Type*} [LinearOrder τ] (s e a b : τ) (query : s < e) (row : a < b) :
    (checkAvailabilityClause a b s e = true ↔ (Set.Ico a b ∩ Set.Ico s e).Nonempty) ∧
    (overlapsClause a b s e = true ↔ (Set.Ico a b ∩ Set.Ico s e).Nonempty) ∧
    (excludeClause a b s e = true ↔ (Set.Ico a b ∩ Set.Ico s e).Nonempty) := by
  refine ⟨?_,?_,?_⟩
  · rw [intersect_iff row query]
    exact checkAvailabilityClause_iff row query
  · rw [overlapsClause_period,period_of_lt row,period_of_lt query]
  · rw [intersect_iff row query]
    exact excludeClause_iff

-- A row that ends when the request begins leaves it free.
theorem clauses_intersect_touching :
    (checkAvailabilityClause (0 : Int) 10 10 20 = true ↔ (Set.Ico (0 : Int) 10 ∩ Set.Ico 10 20).Nonempty) ∧
    (overlapsClause (0 : Int) 10 10 20 = true ↔ (Set.Ico (0 : Int) 10 ∩ Set.Ico 10 20).Nonempty) ∧
    (excludeClause (0 : Int) 10 10 20 = true ↔ (Set.Ico (0 : Int) 10 ∩ Set.Ico 10 20).Nonempty) :=
  clauses_intersect 10 20 0 10 (by decide) (by decide)

-- At instants these are the tests that the tables make.
theorem threeWay_clause (a b s e : Instant) : Availability.threeWay a b s e = checkAvailabilityClause a b s e := rfl

theorem periodsOverlap_clause (a b s e : Instant) : periodsOverlap a b s e = overlapsClause a b s e := rfl

theorem rangesOverlap_clause (a b s e : Instant) : rangesOverlap a b s e = excludeClause a b s e := rfl

-- A space is available where no active reservation has a time in common with the
-- request.
theorem checkAvailability_disjoint (rows : Table) (spaceId : Uuid) {startTime endTime : Instant}
    (ordered : startTime < endTime) :
    Availability.checkAvailability rows spaceId startTime endTime = true ↔
      ∀ r ∈ rows.rows, r.spaceId = spaceId → r.status = .active →
        Disjoint (Set.Ico r.startTime r.endTime) (Set.Ico startTime endTime) := by
  unfold Availability.checkAvailability
  rw [beq_iff_eq,List.length_eq_zero_iff,List.filter_eq_nil_iff]
  refine forall₂_congr fun r _ => ?_
  have meets : Availability.threeWay r.startTime r.endTime startTime endTime = true ↔
      (Set.Ico r.startTime r.endTime ∩ Set.Ico startTime endTime).Nonempty := by
    rw [threeWay_clause,intersect_iff r.validTimes ordered]
    exact checkAvailabilityClause_iff r.validTimes ordered
  rw [decide_eq_true_iff,meets]
  constructor
  · intro apart same active
    refine Set.disjoint_iff_inter_eq_empty.mpr (Set.not_nonempty_iff_eq_empty.mp fun shared => ?_)
    exact apart ⟨same,active,shared⟩
  · rintro disjoint ⟨same,active,shared⟩
    have empty := Set.disjoint_iff_inter_eq_empty.mp (disjoint same active)
    exact Set.not_nonempty_iff_eq_empty.mpr empty shared

-- The constraint refuses two rows exactly where they have a time in common.
theorem overlaps_intersect (r other : Reservation) : r.overlaps other = true ↔
    (Set.Ico r.startTime r.endTime ∩ Set.Ico other.startTime other.endTime).Nonempty := by
  unfold Reservation.overlaps
  rw [rangesOverlap_clause,intersect_iff r.validTimes other.validTimes]
  exact excludeClause_iff

end SmartParking.Reservations.Intervals
