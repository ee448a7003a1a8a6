import Mathlib.Data.List.Nodup

namespace SmartParking.Lib

-- A `dict` of Python: one entry for each key, in the order in which the keys came.
structure Dict (κ ν : Type) where
  entries : List (κ × ν)
  distinct : (entries.map Prod.fst).Nodup

namespace Dict

variable {κ ν : Type} [DecidableEq κ]

def empty : Dict κ ν := ⟨[],List.nodup_nil⟩

def keys (d : Dict κ ν) : List κ := d.entries.map Prod.fst

def values (d : Dict κ ν) : List ν := d.entries.map Prod.snd

-- A key that is there keeps its place.
def assign (entries : List (κ × ν)) (key : κ) (value : ν) : List (κ × ν) :=
  if key ∈ entries.map Prod.fst then entries.map fun e => if e.1 = key then (key,value) else e
  else entries ++ [(key,value)]

theorem assign_keys (entries : List (κ × ν)) (key : κ) (value : ν) :
    (assign entries key value).map Prod.fst =
      if key ∈ entries.map Prod.fst then entries.map Prod.fst else entries.map Prod.fst ++ [key] := by
  unfold assign
  split
  · rw [List.map_map]
    apply List.map_congr_left
    intro e _
    by_cases same : e.1 = key
    · simp [same]
    · simp [same]
  · rw [List.map_append,List.map_singleton]

theorem assign_distinct {entries : List (κ × ν)} (distinct : (entries.map Prod.fst).Nodup) (key : κ) (value : ν) :
    ((assign entries key value).map Prod.fst).Nodup := by
  rw [assign_keys]
  split
  · exact distinct
  · rename_i fresh
    exact distinct.append (List.nodup_singleton key) (List.disjoint_singleton.mpr fresh)

def set (d : Dict κ ν) (key : κ) (value : ν) : Dict κ ν := ⟨assign d.entries key value,assign_distinct d.distinct key value⟩

variable {d : Dict κ ν} {key k : κ} {value : ν} {e : κ × ν} {items : List (κ × ν)}

theorem mem_set : e ∈ (d.set key value).entries ↔ e = (key,value) ∨ e.1 ≠ key ∧ e ∈ d.entries := by
  unfold set assign
  dsimp only
  split
  · rename_i present
    rw [List.mem_map]
    constructor
    · rintro ⟨old,member,rfl⟩
      by_cases same : old.1 = key
      · exact .inl (if_pos same)
      · rw [if_neg same]
        exact .inr ⟨same,member⟩
    · rintro (rfl | ⟨other,member⟩)
      · obtain ⟨old,member,same⟩ := List.mem_map.mp present
        exact ⟨old,member,if_pos same⟩
      · exact ⟨e,member,if_neg other⟩
  · rename_i fresh
    have other : e ∈ d.entries → e.1 ≠ key := fun member same => fresh (same ▸ List.mem_map_of_mem member)
    rw [List.mem_append,List.mem_singleton,or_comm,and_iff_right_of_imp other]

theorem mem_keys_set : k ∈ (d.set key value).keys ↔ k = key ∨ k ∈ d.keys := by
  unfold keys set
  dsimp only
  rw [assign_keys]
  split
  · rename_i present
    exact ⟨.inr,fun either => either.elim (fun same => same ▸ present) id⟩
  · rw [List.mem_append,List.mem_singleton,or_comm]

def get? (d : Dict κ ν) (key : κ) : Option ν := (d.entries.find? (·.1 == key)).map Prod.snd

theorem get?_some : d.get? key = some value ↔ (key,value) ∈ d.entries := by
  unfold get?
  constructor
  · intro found
    obtain ⟨e,held,rfl⟩ := Option.map_eq_some_iff.mp found
    have same := List.find?_some (p := fun e : κ × ν => e.1 == key) held
    rw [←beq_iff_eq.mp same]
    exact List.mem_of_find?_eq_some held
  · intro member
    have some : (d.entries.find? (·.1 == key)).isSome := List.find?_isSome.mpr ⟨_,member,beq_self_eq_true key⟩
    obtain ⟨e,held⟩ := Option.isSome_iff_exists.mp some
    have same := List.find?_some (p := fun e : κ × ν => e.1 == key) held
    have one := List.inj_on_of_nodup_map d.distinct (List.mem_of_find?_eq_some held) member (beq_iff_eq.mp same)
    rw [held,one]
    rfl

theorem get?_set : (d.set key value).get? k = if k = key then some value else d.get? k := by
  apply Option.ext
  intro found
  rw [get?_some,mem_set]
  by_cases same : k = key
  · rw [if_pos same,same,Option.some.injEq,Prod.mk.injEq]
    constructor
    · rintro (⟨_,rfl⟩ | ⟨other,_⟩)
      · rfl
      · exact absurd rfl other
    · intro equal
      exact .inl ⟨rfl,equal.symm⟩
  · rw [if_neg same,get?_some]
    exact ⟨fun either => either.elim (fun equal => absurd (congrArg Prod.fst equal) same) And.right,
      fun member => .inr ⟨same,member⟩⟩

-- `d[key] = value` for one item after the other.
def update (d : Dict κ ν) (items : List (κ × ν)) : Dict κ ν := items.foldl (fun d item => d.set item.1 item.2) d

theorem mem_keys_update : k ∈ (d.update items).keys ↔ k ∈ items.map Prod.fst ∨ k ∈ d.keys := by
  unfold update
  induction items generalizing d with
  | nil => simp
  | cons item rest ih => rw [List.foldl_cons,ih,mem_keys_set,List.map_cons,List.mem_cons,or_left_comm,or_assoc]

theorem mem_update (distinct : (items.map Prod.fst).Nodup) :
    e ∈ (d.update items).entries ↔ e ∈ items ∨ e.1 ∉ items.map Prod.fst ∧ e ∈ d.entries := by
  unfold update
  induction items generalizing d with
  | nil => simp
  | cons item rest ih =>
    obtain ⟨absent,others⟩ := List.nodup_cons.mp distinct
    have first : e = item → e.1 ∉ rest.map Prod.fst := fun same => same ▸ absent
    rw [List.foldl_cons,ih others,mem_set,List.map_cons,List.mem_cons,List.mem_cons]
    tauto

-- What a dictionary is after an update is the update alone exactly where it had no
-- other key.
theorem update_perm (distinct : (items.map Prod.fst).Nodup) :
    (d.update items).entries.Perm items ↔ ∀ k ∈ d.keys, k ∈ items.map Prod.fst := by
  constructor
  · intro same k member
    have kept : k ∈ (d.update items).keys := mem_keys_update.mpr (.inr member)
    exact (same.map Prod.fst).mem_iff.mp kept
  · intro known
    refine (List.perm_ext_iff_of_nodup (d.update items).distinct.of_map (distinct.of_map)).mpr fun e => ?_
    rw [mem_update distinct]
    refine ⟨fun either => either.elim id ?_,.inl⟩
    rintro ⟨absent,member⟩
    exact absurd (known e.1 (List.mem_map_of_mem member)) absent

end Dict

end SmartParking.Lib
