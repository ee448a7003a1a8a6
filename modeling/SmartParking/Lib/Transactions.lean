import Mathlib.Data.List.Flatten
import Mathlib.Data.List.Nodup
import Mathlib.Data.Finset.Max

namespace SmartParking.Lib.Transactions

variable {Row Key : Type} [DecidableEq Key]

-- The rows of a database under unique constraints, and those that each open
-- transaction has inserted and not committed.
structure Store (Row : Type) where
  committed : List Row
  staged : List (List Row)

inductive Outcome (Row : Type) where
  | inserted (next : Store Row)
  | violation
  | waits (holder : Nat)

namespace Store

def own (s : Store Row) (i : Nat) : List Row := (s.staged[i]?).getD []

def begin (s : Store Row) : Store Row := {s with staged := s.staged ++ [[]]}

def commit (s : Store Row) (i : Nat) : Store Row := ⟨s.committed ++ s.own i,s.staged.set i []⟩

def rollback (s : Store Row) (i : Nat) : Store Row := {s with staged := s.staged.set i []}

section Keys

-- The keys that a row takes, one or more for each unique constraint.
variable (keys : Row → List Key)

def clash (rows : List Row) (row : Row) : Bool := rows.any fun other => (keys other).any (keys row).contains

def holder (s : Store Row) (i : Nat) (row : Row) : Option Nat :=
  (List.range s.staged.length).find? fun j => j != i && clash keys (s.own j) row

-- An INSERT sees what is committed and what its own transaction has inserted. A
-- key that another open transaction has taken makes it wait for that one's end.
def insert (s : Store Row) (i : Nat) (row : Row) : Outcome Row :=
  if clash keys (s.committed ++ s.own i) row then .violation
  else
    match s.holder keys i row with
    | some j => .waits j
    | none => .inserted {s with staged := s.staged.modify i (· ++ [row])}

def all (s : Store Row) : List Row := s.committed ++ s.staged.flatten

-- No key is taken twice, not even by two rows of which one may be rolled back.
def Exclusive (s : Store Row) : Prop := (s.all.flatMap keys).Nodup

end Keys

variable {keys : Row → List Key} {s next : Store Row} {i j : Nat} {row : Row}

theorem clash_iff {rows : List Row} : clash keys rows row = true ↔ ∃ other ∈ rows, ∃ key ∈ keys other, key ∈ keys row := by
  unfold clash
  simp only [List.any_eq_true,List.contains_iff_mem]

theorem own_set (bound : i < s.staged.length) (rows : List Row) :
    own {s with staged := s.staged.set i rows} j = if j = i then rows else s.own j := by
  unfold own
  split
  · rename_i same
    subst same
    rw [List.getElem?_set_self bound]
    rfl
  · rename_i apart
    rw [List.getElem?_set_ne (Ne.symm apart)]

theorem own_outside (outside : s.staged.length ≤ i) : s.own i = [] := by
  unfold own
  rw [List.getElem?_eq_none outside]
  rfl

theorem own_inside (filled : s.own i ≠ []) : i < s.staged.length := by
  by_contra outside
  exact filled (own_outside (Nat.le_of_not_lt outside))

omit [DecidableEq Key] in
theorem own_begin : s.begin.own j = s.own j := by
  by_cases bound : j < s.staged.length
  · exact congrArg (·.getD []) (List.getElem?_append_left bound)
  · rw [own_outside (Nat.le_of_not_lt bound)]
    unfold own begin
    rw [List.getElem?_append_right (Nat.le_of_not_lt bound),List.getElem?_singleton]
    split <;> rfl

-- The rows of one transaction can be taken out of the others'.
theorem staged_perm {staged : List (List Row)} (bound : i < staged.length) (rows : List Row) :
    (staged.set i rows).flatten.Perm (rows ++ (staged.set i []).flatten) := by
  induction staged generalizing i with
  | nil => cases bound
  | cons first rest ih =>
    cases i with
    | zero => exact List.Perm.refl _
    | succ i =>
      have later := ih (Nat.lt_of_succ_lt_succ bound)
      simp only [List.set_cons_succ,List.flatten_cons]
      calc (first ++ (rest.set i rows).flatten).Perm (first ++ (rows ++ (rest.set i []).flatten)) :=
            later.append_left first
        _ = (first ++ rows) ++ (rest.set i []).flatten := (List.append_assoc ..).symm
        List.Perm _ ((rows ++ first) ++ (rest.set i []).flatten) := List.perm_append_comm.append_right _
        _ = rows ++ (first ++ (rest.set i []).flatten) := List.append_assoc ..

theorem own_perm (bound : i < s.staged.length) : s.staged.flatten.Perm (s.own i ++ (s.staged.set i []).flatten) := by
  have same : s.staged = s.staged.set i (s.own i) := by
    unfold own
    rw [List.getElem?_eq_getElem bound,Option.getD_some,List.set_getElem_self]
  calc s.staged.flatten.Perm (s.staged.set i (s.own i)).flatten := by rw [←same]
    List.Perm _ (s.own i ++ (s.staged.set i []).flatten) := staged_perm bound (s.own i)

omit [DecidableEq Key] in
theorem begin_exclusive (exclusive : s.Exclusive keys) : s.begin.Exclusive keys := by
  unfold Exclusive all begin at *
  simpa using exclusive

omit [DecidableEq Key] in
theorem rollback_exclusive (exclusive : s.Exclusive keys) (i : Nat) : (s.rollback i).Exclusive keys := by
  by_cases bound : i < s.staged.length
  · have fewer : (s.rollback i).all.Sublist (s.committed ++ (s.own i ++ (s.staged.set i []).flatten)) :=
      (List.sublist_append_right (s.own i) _).append_left s.committed
    have same := ((own_perm bound).append_left s.committed).flatMap_right keys
    exact (same.nodup_iff.mp exclusive).sublist (fewer.flatMap keys)
  · have same : s.rollback i = s := by
      unfold rollback
      rw [List.set_eq_of_length_le (Nat.le_of_not_lt bound)]
    rwa [same]

omit [DecidableEq Key] in
theorem commit_exclusive (exclusive : s.Exclusive keys) (i : Nat) : (s.commit i).Exclusive keys := by
  by_cases bound : i < s.staged.length
  · have same := ((own_perm bound).append_left s.committed).flatMap_right keys
    unfold Exclusive all commit
    rw [List.append_assoc]
    exact same.nodup_iff.mp exclusive
  · have same : s.commit i = s := by
      unfold commit
      rw [List.set_eq_of_length_le (Nat.le_of_not_lt bound),own_outside (Nat.le_of_not_lt bound),List.append_nil]
    rwa [same]

theorem holder_some (found : s.holder keys i row = some j) : j ≠ i ∧ ∃ other ∈ s.own j, ∃ key ∈ keys other, key ∈ keys row := by
  have tested := List.find?_some found
  rw [Bool.and_eq_true,bne_iff_ne] at tested
  exact ⟨tested.1,clash_iff.mp tested.2⟩

theorem holder_none (absent : s.holder keys i row = none) (apart : j ≠ i) : clash keys (s.own j) row = false := by
  by_cases bound : j < s.staged.length
  · have missed := List.find?_eq_none.mp absent j (List.mem_range.mpr bound)
    rw [Bool.and_eq_true,bne_iff_ne,not_and] at missed
    exact Bool.eq_false_iff.mpr (missed apart)
  · rw [own_outside (Nat.le_of_not_lt bound)]
    rfl

-- What an INSERT that goes through has found free, and what it changes.
structure Inserts (keys : Row → List Key) (s : Store Row) (i : Nat) (row : Row) (next : Store Row) : Prop where
  committed : clash keys s.committed row = false
  free : ∀ j, clash keys (s.own j) row = false
  result : next = {s with staged := s.staged.modify i (· ++ [row])}

theorem insert_inserts (ran : s.insert keys i row = .inserted next) : Inserts keys s i row next := by
  unfold insert at ran
  split at ran
  · cases ran
  · rename_i clear
    split at ran
    · cases ran
    · rename_i absent
      cases ran
      have apart : ∀ rows, rows ⊆ s.committed ++ s.own i → clash keys rows row = false := by
        intro rows within
        rw [Bool.eq_false_iff]
        intro clashes
        obtain ⟨other,member,shared⟩ := clash_iff.mp clashes
        exact clear (clash_iff.mpr ⟨other,within member,shared⟩)
      refine ⟨apart _ (List.subset_append_left ..),?_,rfl⟩
      intro j
      by_cases same : j = i
      · subst same
        exact apart _ (List.subset_append_right ..)
      · exact holder_none absent same

theorem insert_waits (ran : s.insert keys i row = .waits j) :
    j ≠ i ∧ ∃ other ∈ s.own j, ∃ key ∈ keys other, key ∈ keys row := by
  unfold insert at ran
  split at ran
  · cases ran
  · split at ran
    · cases ran
      exact holder_some ‹_›
    · cases ran

theorem staged_modify (bound : i < s.staged.length) (rows : List Row) :
    s.staged.modify i (· ++ rows) = s.staged.set i (s.own i ++ rows) := by
  unfold own
  rw [List.modify_eq_set_getElem?,List.getElem?_eq_getElem bound]
  rfl

theorem Inserts.own (inserts : Inserts keys s i row next) (bound : i < s.staged.length) :
    next.own j = if j = i then s.own i ++ [row] else s.own j := by
  rw [inserts.result,staged_modify bound,own_set bound]

theorem insert_exclusive (inserts : Inserts keys s i row next) (distinct : (keys row).Nodup)
    (exclusive : s.Exclusive keys) : next.Exclusive keys := by
  rw [inserts.result]
  by_cases bound : i < s.staged.length
  · have free : ∀ other ∈ s.all, ∀ key ∈ keys other, key ∉ keys row := by
      intro other member key held shared
      rcases List.mem_append.mp member with committed | staged
      · exact Bool.eq_false_iff.mp inserts.committed (clash_iff.mpr ⟨other,committed,key,held,shared⟩)
      · obtain ⟨rows,listed,within⟩ := List.mem_flatten.mp staged
        obtain ⟨j,inside,same⟩ := List.mem_iff_getElem.mp listed
        refine Bool.eq_false_iff.mp (inserts.free j) (clash_iff.mpr ⟨other,?_,key,held,shared⟩)
        unfold own
        rw [List.getElem?_eq_getElem inside,same]
        exact within
    have added : (s.committed ++ (s.staged.modify i (· ++ [row])).flatten).Perm (s.all ++ [row]) := by
      rw [staged_modify bound]
      unfold all
      rw [List.append_assoc]
      refine List.Perm.append_left s.committed ?_
      calc (s.staged.set i (s.own i ++ [row])).flatten.Perm ((s.own i ++ [row]) ++ (s.staged.set i []).flatten) :=
            staged_perm bound _
        _ = s.own i ++ ([row] ++ (s.staged.set i []).flatten) := List.append_assoc ..
        List.Perm _ (s.own i ++ ((s.staged.set i []).flatten ++ [row])) := List.perm_append_comm.append_left _
        _ = (s.own i ++ (s.staged.set i []).flatten) ++ [row] := (List.append_assoc ..).symm
        List.Perm _ (s.staged.flatten ++ [row]) := (own_perm bound).symm.append_right _
    refine (added.flatMap_right keys).nodup_iff.mpr ?_
    rw [List.flatMap_append,List.flatMap_singleton]
    refine List.Nodup.append exclusive distinct ?_
    intro key taken wanted
    obtain ⟨other,member,held⟩ := List.mem_flatMap.mp taken
    exact free other member key held wanted
  · have same : s.staged.modify i (· ++ [row]) = s.staged :=
      List.modify_eq_self (by omega)
    rw [same]
    exact exclusive

end Store

-- Among transactions that wait only for ones that have come further, one that
-- has come furthest does not wait.
theorem furthest_moves (transactions : List Nat) (progress : Nat → Nat) (waits : Nat → Nat → Prop)
    (further : ∀ i ∈ transactions, ∀ j, waits i j → j ∈ transactions ∧ progress i < progress j)
    (present : transactions ≠ []) : ∃ i ∈ transactions, ∀ j, ¬waits i j := by
  have nonempty : transactions.toFinset.Nonempty := List.toFinset_nonempty_iff _ |>.mpr present
  obtain ⟨i,member,furthest⟩ := transactions.toFinset.exists_max_image progress nonempty
  refine ⟨i,List.mem_toFinset.mp member,?_⟩
  intro j waiting
  obtain ⟨listed,ahead⟩ := further i (List.mem_toFinset.mp member) j waiting
  have bound := furthest j (List.mem_toFinset.mpr listed)
  omega

end SmartParking.Lib.Transactions
