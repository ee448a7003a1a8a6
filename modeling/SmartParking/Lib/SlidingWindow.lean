import Mathlib.Algebra.Order.Monoid.Defs
import Mathlib.Data.Finset.Card
import Mathlib.Data.List.Count

namespace SmartParking.Lib.SlidingWindow

variable {K : Type} [Add K] [LinearOrder K]

-- The entries of a log that a window of the given length still reaches.
def retained (W : K) (log : List K) (now : K) : Finset K := log.toFinset.filter (now < ·+W)

-- Each entry of the log, newest first, was made when fewer than `L` of the
-- earlier ones were within its reach.
def Paced (W : K) (L : Nat) : List K → Prop
  | [] => True
  | entry::earlier => earlier.countP (entry < ·+W) < L ∧ Paced W L earlier

variable {W now later t entry : K} {L : Nat} {log : List K} {stored : Finset K}

@[simp] theorem mem_retained : entry ∈ retained W log now ↔ entry ∈ log ∧ now < entry+W := by
  simp [retained]

-- What a later moment reaches was within reach before.
theorem reached_later (stored : Finset K) (after : now ≤ later) :
    (stored.filter (now < ·+W)).filter (later < ·+W) = stored.filter (later < ·+W) := by
  ext m
  simp only [Finset.mem_filter]
  constructor
  · intro both
    exact ⟨both.1.1,both.2⟩
  · intro both
    exact ⟨⟨both.1,after.trans_lt both.2⟩,both.2⟩

theorem retained_none (gone : ∀ m ∈ log, m+W ≤ now) : retained W log now = ∅ := by
  refine Finset.eq_empty_of_forall_notMem fun m member => ?_
  obtain ⟨listed,reached⟩ := mem_retained.mp member
  exact absurd reached (gone m listed).not_gt

theorem retained_cons (after : now ≤ later) :
    (insert entry (retained W log now)).filter (later < ·+W) = retained W (entry::log) later := by
  have earlier : (retained W log now).filter (later < ·+W) = retained W log later := reached_later _ after
  rw [Finset.filter_insert,earlier,retained,retained,List.toFinset_cons,Finset.filter_insert]

theorem retained_card (distinct : log.Nodup) : (retained W log now).card = log.countP (now < ·+W) := by
  have filtered : retained W log now = (log.filter (now < ·+W)).toFinset := by
    ext m
    simp
  rw [filtered,List.toFinset_card_of_nodup (distinct.filter _),List.countP_eq_length_filter]

-- A store that has kept what a window reaches counts no fewer.
theorem counted_le (distinct : log.Nodup) (kept : ∀ m ∈ log, now < m+W → m ∈ stored) :
    log.countP (now < ·+W) ≤ (stored.filter (now < ·+W)).card := by
  rw [← retained_card distinct]
  refine Finset.card_le_card fun m member => ?_
  obtain ⟨listed,reached⟩ := mem_retained.mp member
  exact Finset.mem_filter.mpr ⟨kept m listed reached,reached⟩

theorem Paced.sublist (paced : Paced W L log) {part : List K} (sub : part.Sublist log) : Paced W L part := by
  induction sub with
  | slnil => trivial
  | cons _ _ ih => exact ih paced.2
  | cons_cons entry sub ih => exact ⟨(sub.countP_le).trans_lt paced.1,ih paced.2⟩

-- No window then holds more than `L` entries, wherever it ends.
theorem Paced.within (paced : Paced W L log) (t : K) : log.countP (fun m => t < m+W ∧ m ≤ t) ≤ L := by
  induction log with
  | nil => exact Nat.zero_le L
  | cons entry earlier ih =>
    by_cases inside : t < entry+W ∧ entry ≤ t
    · -- What the window holds is within the reach of its newest entry.
      have fewer : earlier.countP (fun m => t < m+W ∧ m ≤ t) ≤ earlier.countP (entry < ·+W) := by
        refine List.countP_mono_left fun m _ counted => ?_
        have reached := (of_decide_eq_true counted).1
        exact decide_eq_true (inside.2.trans_lt reached)
      have room : earlier.countP (entry < ·+W) < L := paced.1
      rw [List.countP_cons_of_pos (by simpa using inside)]
      omega
    · rw [List.countP_cons_of_neg (by simpa using inside)]
      exact ih paced.2

end SmartParking.Lib.SlidingWindow
