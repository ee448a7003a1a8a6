import Mathlib.Data.List.Nodup
import Mathlib.Logic.Function.Basic

namespace SmartParking.Lib

-- Where an item of a work queue can be. Producers and workers are numbered.
inductive Place where
  | nowhere
  | incoming (p : Nat)
  | queued
  | held (w : Nat)
  | finished
  | buried
  | withdrawn
  deriving DecidableEq

def Place.Final (place : Place) : Prop := place = .finished ∨ place = .buried ∨ place = .withdrawn

def Place.Arrived : Place → Prop
  | .nowhere | .incoming _ => False
  | _ => True

inductive Handover : Place → Place → Prop where
  | create : Handover .nowhere (.incoming p)
  | enqueue : Handover (.incoming p) .queued
  | withdraw : Handover .queued .withdrawn
  | take : Handover .queued (.held w)
  | giveBack : Handover (.held w) .queued
  | settle : final.Final → Handover (.held w) final

-- The queue, what each producer is about to put into it, what each worker has
-- taken from it, and the place each item was last brought to.
structure Custody (Item : Type) where
  queue : List Item
  incoming : Nat → Option Item
  held : Nat → Option Item
  place : Item → Place

namespace Custody

variable {Item : Type} [DecidableEq Item]

-- One item changes hands at a time.
inductive Moved (c : Custody Item) : Custody Item → Prop where
  | still : Moved c c
  | created : c.place item = .nowhere → c.incoming p = none →
      Moved c {c with incoming := Function.update c.incoming p (some item),
                      place := Function.update c.place item (.incoming p)}
  | queued : c.incoming p = some item →
      Moved c {c with queue := c.queue ++ [item],incoming := Function.update c.incoming p none,
                      place := Function.update c.place item .queued}
  | withdrawn : item ∈ c.queue →
      Moved c {c with queue := c.queue.filter (· ≠ item),place := Function.update c.place item .withdrawn}
  | taken : c.queue = item::rest → c.held w = none →
      Moved c {c with queue := rest,held := Function.update c.held w (some item),
                      place := Function.update c.place item (.held w)}
  | returned : c.held w = some item →
      Moved c {c with queue := c.queue ++ [item],held := Function.update c.held w none,
                      place := Function.update c.place item .queued}
  | settled : c.held w = some item → final.Final →
      Moved c {c with held := Function.update c.held w none,place := Function.update c.place item final}

def abandon (c : Custody Item) (w : Nat) : Custody Item := {c with held := Function.update c.held w none}

-- Nothing is in two places.
structure Sound (c : Custody Item) : Prop where
  nodup : c.queue.Nodup
  queued : ∀ item, item ∈ c.queue ↔ c.place item = .queued
  incoming : ∀ p item, c.incoming p = some item ↔ c.place item = .incoming p
  held : ∀ w item, c.held w = some item → c.place item = .held w

variable {c next : Custody Item} {item other : Item} {p w : Nat}

theorem final_ne_queued {place : Place} (final : place.Final) : place ≠ .queued := by
  rcases final with rfl | rfl | rfl <;> decide

theorem final_ne_incoming {place : Place} (final : place.Final) (p : Nat) : place ≠ .incoming p := by
  rcases final with rfl | rfl | rfl <;> exact nofun

theorem final_ne_held {place : Place} (final : place.Final) (w : Nat) : place ≠ .held w := by
  rcases final with rfl | rfl | rfl <;> exact nofun

theorem handover_update {place : Place} (before : c.place item = old) (step : Handover old place) (other : Item) :
    Function.update c.place item place other = c.place other ∨
    Handover (c.place other) (Function.update c.place item place other) := by
  by_cases same : other = item
  · subst other
    right
    rwa [Function.update_self,before]
  · exact .inl (Function.update_of_ne same _ _)

theorem Moved.handover (moved : Moved c next) (sound : c.Sound) (item : Item) :
    next.place item = c.place item ∨ Handover (c.place item) (next.place item) := by
  cases moved with
  | still => exact .inl rfl
  | created fresh _ => exact handover_update fresh .create item
  | queued making => exact handover_update ((sound.incoming _ _).mp making) .enqueue item
  | withdrawn member => exact handover_update ((sound.queued _).mp member) .withdraw item
  | taken queue _ => exact handover_update ((sound.queued _).mp (queue ▸ List.mem_cons_self)) .take item
  | returned holds => exact handover_update (sound.held _ _ holds) .giveBack item
  | settled holds final => exact handover_update (sound.held _ _ holds) (.settle final) item

theorem Moved.final (moved : Moved c next) (sound : c.Sound) (final : (c.place item).Final) :
    next.place item = c.place item := by
  rcases moved.handover sound item with same | step
  · exact same
  · generalize c.place item = old at *
    rcases final with rfl | rfl | rfl <;> cases step

theorem Moved.arrived (moved : Moved c next) (sound : c.Sound) (arrived : (c.place item).Arrived) :
    (next.place item).Arrived := by
  rcases moved.handover sound item with same | step
  · rwa [same]
  · generalize c.place item = old at *
    generalize next.place item = new at *
    cases step with
    | create => exact arrived.elim
    | settle final => rcases final with rfl | rfl | rfl <;> trivial
    | _ => trivial

theorem Moved.fresh (moved : Moved c next) (sound : c.Sound) (fresh : c.place item = .nowhere) :
    next.place item = .nowhere ∨ ∃ p, next.place item = .incoming p := by
  rcases moved.handover sound item with same | step
  · exact .inl (same.trans fresh)
  · rw [fresh] at step
    generalize next.place item = new at *
    cases step
    exact .inr ⟨_,rfl⟩

-- A worker lets go of its item, wherever that goes: the others keep theirs.
theorem Sound.released (sound : c.Sound) (holds : c.held w = some item) (place : Place) :
    ∀ v other, Function.update c.held w none v = some other →
      Function.update c.place item place other = .held v := by
  intro v other kept
  have different : v ≠ w := by
    rintro rfl
    simp at kept
  have old := sound.held v other (by simpa [different] using kept)
  have distinct : other ≠ item := by
    rintro rfl
    rw [sound.held w other holds] at old
    exact different (Place.held.inj old).symm
  simpa [distinct] using old

theorem Sound.incoming_kept {place : Place} (sound : c.Sound) (before : ∀ q, c.place item ≠ .incoming q)
    (after : ∀ q, place ≠ .incoming q) (p : Nat) (other : Item) :
    c.incoming p = some other ↔ Function.update c.place item place other = .incoming p := by
  by_cases same : other = item
  · simp [same,sound.incoming,before,after]
  · simp [same,sound.incoming]

theorem Sound.held_kept (sound : c.Sound) (before : ∀ v, c.place item ≠ .held v) (place : Place) (w : Nat)
    (other : Item) (holds : c.held w = some other) : Function.update c.place item place other = .held w := by
  have different : other ≠ item := by
    rintro rfl
    exact before w (sound.held w other holds)
  rw [Function.update_of_ne different]
  exact sound.held w other holds

theorem Sound.queued_kept {place : Place} (sound : c.Sound) (before : c.place item ≠ .queued)
    (after : place ≠ .queued) (other : Item) :
    other ∈ c.queue ↔ Function.update c.place item place other = .queued := by
  by_cases same : other = item
  · simp [same,sound.queued,before,after]
  · simp [same,sound.queued]

theorem Sound.append (sound : c.Sound) (before : c.place item ≠ .queued) :
    (c.queue ++ [item]).Nodup ∧
      ∀ other, other ∈ c.queue ++ [item] ↔ Function.update c.place item .queued other = .queued := by
  have missing : item ∉ c.queue := by simpa [sound.queued] using before
  refine ⟨sound.nodup.append (List.nodup_singleton item) (List.disjoint_singleton.mpr missing),?_⟩
  intro other
  by_cases same : other = item <;> simp [same,sound.queued]

theorem Sound.create (sound : c.Sound) (fresh : c.place item = .nowhere) (free : c.incoming p = none) :
    Sound {c with incoming := Function.update c.incoming p (some item),
                  place := Function.update c.place item (.incoming p)} := by
  refine ⟨sound.nodup,sound.queued_kept (by simp [fresh]) (by simp),?_,sound.held_kept (by simp [fresh]) _⟩
  intro q other
  by_cases same : other = item <;> by_cases equal : q = p
  · simp [same,equal]
  · have unmade : c.incoming q ≠ some item := by
      intro making
      simp [(sound.incoming q item).mp making] at fresh
    simp [same,equal,unmade,Ne.symm equal]
  · have unplaced : c.place other ≠ .incoming p := by
      intro placed
      simp [(sound.incoming p other).mpr placed] at free
    simp [same,equal,unplaced,Ne.symm same]
  · simp [same,equal,sound.incoming]

theorem Sound.enqueue (sound : c.Sound) (making : c.incoming p = some item) :
    Sound {c with queue := c.queue ++ [item],incoming := Function.update c.incoming p none,
                  place := Function.update c.place item .queued} := by
  have placed := (sound.incoming p item).mp making
  have waiting : c.place item ≠ .queued := by simp [placed]
  obtain ⟨distinct,queued⟩ := sound.append waiting
  refine ⟨distinct,queued,?_,sound.held_kept (by simp [placed]) _⟩
  intro q other
  by_cases same : other = item <;> by_cases equal : q = p
  · simp [same,equal]
  · have unmade : c.incoming q ≠ some item := by
      intro made
      rw [(sound.incoming q item).mp made] at placed
      exact equal (Place.incoming.inj placed)
    simp [same,equal,unmade]
  · have unplaced : c.place other ≠ .incoming p := by
      intro there
      rw [(sound.incoming p other).mpr there] at making
      exact same (Option.some.inj making)
    simp [same,equal,unplaced]
  · simp [same,equal,sound.incoming]

theorem Sound.withdraw (sound : c.Sound) (member : item ∈ c.queue) :
    Sound {c with queue := c.queue.filter (· ≠ item),place := Function.update c.place item .withdrawn} := by
  have placed := (sound.queued item).mp member
  refine ⟨sound.nodup.filter _,?_,sound.incoming_kept (by simp [placed]) (by simp),
    sound.held_kept (by simp [placed]) _⟩
  intro other
  by_cases same : other = item <;> simp [same,sound.queued]

theorem Sound.take (sound : c.Sound) (queue : c.queue = item::rest) :
    Sound {c with queue := rest,held := Function.update c.held w (some item),
                  place := Function.update c.place item (.held w)} := by
  have placed := (sound.queued item).mp (queue ▸ List.mem_cons_self)
  have distinct := sound.nodup
  rw [queue,List.nodup_cons] at distinct
  refine ⟨distinct.2,?_,sound.incoming_kept (by simp [placed]) (by simp),?_⟩
  · intro other
    by_cases same : other = item
    · simp [same,distinct.1]
    · simp [same,← sound.queued,queue]
  · intro v other holds
    by_cases equal : v = w
    · simp only [equal,Function.update_self,Option.some.injEq] at holds
      simp [holds,equal]
    · exact sound.held_kept (by simp [placed]) _ v other (by simpa [equal] using holds)

theorem Moved.sound (moved : Moved c next) (sound : c.Sound) : next.Sound := by
  cases moved with
  | still => exact sound
  | created fresh free => exact sound.create fresh free
  | queued making => exact sound.enqueue making
  | withdrawn member => exact sound.withdraw member
  | taken queue _ => exact sound.take queue
  | @returned w item holds =>
    have placed := sound.held w item holds
    have waiting : c.place item ≠ .queued := by simp [placed]
    obtain ⟨distinct,queued⟩ := sound.append waiting
    exact ⟨distinct,queued,sound.incoming_kept (by simp [placed]) (by simp),sound.released holds .queued⟩
  | settled holds final =>
    have placed := sound.held _ _ holds
    exact ⟨sound.nodup,sound.queued_kept (by simp [placed]) (final_ne_queued final),
      sound.incoming_kept (by simp [placed]) (final_ne_incoming final),sound.released holds _⟩

omit [DecidableEq Item] in
theorem Sound.abandon (sound : c.Sound) (w : Nat) : (c.abandon w).Sound := by
  refine ⟨sound.nodup,sound.queued,sound.incoming,?_⟩
  intro v item holds
  by_cases same : v = w
  · simp [Custody.abandon,same] at holds
  · exact sound.held v item (by simpa [Custody.abandon,same] using holds)

def Has (c : Custody Item) (item : Item) : Prop := item ∈ c.queue ∨ ∃ w, c.held w = some item

omit [DecidableEq Item] in
theorem held_update {held : Nat → Option Item} {v : Option Item} (holds : Function.update held w v u = some item) :
    held u = some item ∨ v = some item := by
  by_cases same : u = w
  · subst u
    exact .inr (by simpa using holds)
  · exact .inl (by simpa [same] using holds)

theorem Moved.has (moved : Moved c next) (has : next.Has item) :
    c.Has item ∨ ∃ p, c.incoming p = some item ∧ next.incoming p = none := by
  cases moved with
  | still | created _ _ => exact .inl has
  | queued making =>
    rename_i p other
    rcases has with member | holds
    · rcases List.mem_append.mp member with old | last
      · exact .inl (.inl old)
      · cases List.mem_singleton.mp last
        exact .inr ⟨p,making,by simp⟩
    · exact .inl (.inr holds)
  | withdrawn _ => exact .inl (has.imp_left List.mem_of_mem_filter)
  | taken queue _ =>
    rcases has with member | ⟨u,holds⟩
    · exact .inl (.inl (queue ▸ List.mem_cons_of_mem _ member))
    · rcases held_update holds with old | new
      · exact .inl (.inr ⟨u,old⟩)
      · cases new
        exact .inl (.inl (queue ▸ List.mem_cons_self))
  | returned holds =>
    rename_i w other
    rcases has with member | ⟨u,kept⟩
    · rcases List.mem_append.mp member with old | last
      · exact .inl (.inl old)
      · cases List.mem_singleton.mp last
        exact .inl (.inr ⟨w,holds⟩)
    · rcases held_update kept with old | new
      · exact .inl (.inr ⟨u,old⟩)
      · cases new
  | settled _ _ =>
    rcases has with member | ⟨u,kept⟩
    · exact .inl (.inl member)
    · rcases held_update kept with old | new
      · exact .inl (.inr ⟨u,old⟩)
      · cases new

omit [DecidableEq Item] in
theorem abandon_has (has : (c.abandon w).Has item) : c.Has item := by
  rcases has with member | ⟨u,kept⟩
  · exact .inl member
  · rcases held_update kept with old | new
    · exact .inr ⟨u,old⟩
    · cases new

omit [DecidableEq Item] in
theorem Sound.has_place (sound : c.Sound) (has : c.Has item) : c.place item = .queued ∨ ∃ w, c.place item = .held w := by
  rcases has with member | ⟨w,holds⟩
  · exact .inl ((sound.queued item).mp member)
  · exact .inr ⟨w,sound.held w item holds⟩

omit [DecidableEq Item] in
theorem Sound.has_open (sound : c.Sound) (has : c.Has item) : ¬(c.place item).Final := by
  rcases sound.has_place has with at' | ⟨w,at'⟩ <;> simp [at',Place.Final]

omit [DecidableEq Item] in
theorem Sound.has_known (sound : c.Sound) (has : c.Has item) : c.place item ≠ .nowhere := by
  rcases sound.has_place has with at' | ⟨w,at'⟩ <;> simp [at']

theorem Moved.leaves (moved : Moved c next) (has : c.Has item) :
    next.Has item ∨ (next.place item).Final := by
  have handed : ∀ {w other v}, c.held w = some other → other ≠ item → ∀ u, c.held u = some item →
      Function.update c.held w v u = some item := by
    intro w other v holds different u kept
    have distinct : u ≠ w := by
      rintro rfl
      rw [holds] at kept
      exact different (Option.some.inj kept)
    simpa [distinct] using kept
  cases moved with
  | still | created _ _ => exact .inl has
  | queued _ => exact .inl (has.imp_left fun member => List.mem_append_left _ member)
  | withdrawn member =>
    rename_i other
    by_cases same : other = item
    · exact .inr (by simp [same,Place.Final])
    · exact .inl (has.imp_left fun waiting => List.mem_filter.mpr ⟨waiting,by simpa using Ne.symm same⟩)
  | taken queue free =>
    rename_i other rest w
    rcases has with member | ⟨u,holds⟩
    · rw [queue] at member
      rcases List.mem_cons.mp member with rfl | later
      · exact .inl (.inr ⟨w,by simp⟩)
      · exact .inl (.inl later)
    · have different : u ≠ w := by
        rintro rfl
        rw [free] at holds
        cases holds
      exact .inl (.inr ⟨u,by simpa [different] using holds⟩)
  | returned holds =>
    rename_i w other
    by_cases same : other = item
    · exact .inl (.inl (List.mem_append_right _ (by simp [same])))
    · rcases has with member | ⟨u,kept⟩
      · exact .inl (.inl (List.mem_append_left _ member))
      · exact .inl (.inr ⟨u,handed holds same u kept⟩)
  | settled holds final =>
    rename_i w other place
    by_cases same : other = item
    · exact .inr (by simpa [same] using final)
    · rcases has with member | ⟨u,kept⟩
      · exact .inl (.inl member)
      · exact .inl (.inr ⟨u,handed holds same u kept⟩)

def Kept (c : Custody Item) : Prop := ∀ w item, c.place item = .held w → c.held w = some item

-- An item changes its place while worker `w`, whose hands were empty or held
-- this very item, is left with what its place says.
theorem Kept.settle (kept : c.Kept) (holds : c.held w = some item) (place : Place) (free : ∀ v, place ≠ .held v) :
    ∀ v other, Function.update c.place item place other = .held v →
      Function.update c.held w none v = some other := by
  intro v other placed
  by_cases same : other = item
  · simp [same,free] at placed
  · have old := kept v other (by simpa [same] using placed)
    have different : v ≠ w := by
      rintro rfl
      rw [holds] at old
      exact same (Option.some.inj old).symm
    simpa [different] using old

theorem Kept.place (kept : c.Kept) (item : Item) (place : Place) (free : ∀ v, place ≠ .held v) :
    ∀ v other, Function.update c.place item place other = .held v → c.held v = some other := by
  intro v other placed
  by_cases same : other = item
  · simp [same,free] at placed
  · exact kept v other (by simpa [same] using placed)

theorem Moved.kept (moved : Moved c next) (kept : c.Kept) : next.Kept := by
  cases moved with
  | still => exact kept
  | created _ _ => exact kept.place _ _ (by simp)
  | queued _ => exact kept.place _ _ (by simp)
  | withdrawn _ => exact kept.place _ _ (by simp)
  | taken queue empty =>
    rename_i item rest w
    intro v other placed
    by_cases same : other = item
    · simp only [same,Function.update_self,Place.held.injEq] at placed
      simp [same,placed]
    · have old := kept v other (by simpa [same] using placed)
      have different : v ≠ w := by
        rintro rfl
        rw [empty] at old
        cases old
      simpa [different] using old
  | returned holds => exact kept.settle holds _ (by simp)
  | settled holds final => exact kept.settle holds _ (final_ne_held final)

end Custody
end SmartParking.Lib
