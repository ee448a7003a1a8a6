import SmartParking.Uplink.Spool

namespace SmartParking.Uplink.SpoolCrashes
open Lib.Runs Spool

-- `returned` are the ids that `enqueue` has returned.
structure State (Json : Type) where
  spool : Spool.State Json
  returned : List String

def State.initial {Json : Type} : State Json := ⟨.initial,[]⟩

inductive Action (Json : Type) where
  | run (action : Spool.Action Json)
  | raise
  | restart

-- A stop ends every call of `enqueue` and the pass that is under way. The `.tmp`
-- files that are left over are not looked at again, and neither is a file cut
-- short while it was written: `json.load` refuses it, so for every later pass it
-- is as good as missing. A new `WebhookSpool` creates the directories where they
-- are missing and leaves their files alone.
def State.restart {Json : Type} (s : State Json) : State Json :=
  {s with spool := {s.spool with temporary := ∅,worker := .idle}}

-- What `_process_envelope` raises is caught in the loop, which goes on with the
-- next file.
def step {Json : Type} (s : State Json) : Action Json → Option (State Json)
  | .run (.publish id) => (Spool.step s.spool (.publish id)).map fun spool => ⟨spool,id::s.returned⟩
  | .run action => (Spool.step s.spool action).map fun spool => {s with spool}
  | .raise =>
    match s.spool.worker with
    | .processing now files _ _ => some {s with spool := {s.spool with worker := .scanning now files}}
    | _ => none
  | .restart => some s.restart

def Drawn {Json : Type} (s : State Json) : Action Json → Prop
  | .run action => Spool.Drawn s.spool action
  | _ => True

-- An envelope whose file is in the processing directory alone.
def Worker.exposed {Json : Type} : Worker Json → Bool
  | .processing .. | .burying .. | .retrying .. => true
  | _ => false

def Phase.exposed {Json : Type} : Phase Json → Bool
  | .processing _ | .burying _ | .retrying _ => true
  | _ => false

def Spared {Json : Type} (s : State Json) : Action Json → Prop
  | .run _ => True
  | .raise => False
  | .restart => Worker.exposed s.spool.worker = false

-- Where an id can be, and whether its `enqueue` has returned. A restart may leave
-- a file behind in the processing directory.
inductive Fate {Json : Type} : View Json → Bool → Prop where
  | absent : Fate ⟨none,.away,none,none,none,none,false⟩ false
  | temporary : Carries c e → Fate ⟨some c,.away,some e,none,none,none,false⟩ false
  | cut : Fate ⟨some c,.away,none,none,none,none,false⟩ false
  | pending : Carries c e → Fate ⟨some c,.away,none,some e,left,none,false⟩ true
  | ready : Carries c e → Fate ⟨some c,.ready e,none,some e,left,none,false⟩ true
  | processing : Carries c e → Fate ⟨some c,.processing e,none,none,some e,none,false⟩ true
  | succeeded : Fate ⟨some c,.succeeded,none,none,left,none,true⟩ true
  | burying : Carries c e → Fate ⟨some c,.burying e,none,none,left,none,false⟩ true
  | buried : Carries c e → Fate ⟨some c,.buried,none,none,left,some e,false⟩ true
  | retrying : Carries c e → Carries c old → Fate ⟨some c,.retrying e,none,none,some old,none,false⟩ true
  | retried : Carries c e → Carries c old → Fate ⟨some c,.retried,none,some e,some old,none,false⟩ true
  | deadLetter : Carries c e → Fate ⟨some c,.away,none,none,left,some e,false⟩ true
  | done : Fate ⟨some c,.away,none,none,left,none,true⟩ true
  | stranded : Fate ⟨some c,.away,none,none,left,none,false⟩ true

-- The envelope is in no directory a pass reads, and nobody has it in hand.
structure Lost {Json : Type} (v : View Json) (returned : Bool) : Prop where
  phase : v.phase = .away
  pending : v.pending = none
  deadLetter : v.deadLetter = none
  success : v.success = false
  returned : returned = true

def Sound {Json : Type} (s : State Json) : Prop := ∀ id, Fate (s.spool.view id) (id ∈ s.returned)

def Safe {Json : Type} (s : State Json) : Prop := ∀ id, ¬Lost (s.spool.view id) (id ∈ s.returned)

-- After a restart: whatever was enqueued and not processed will be looked at
-- again, or is in the dead-letter directory.
def Surviving {Json : Type} (s : State Json) : Prop :=
  ∀ c ∈ s.spool.calls, c.id ∈ s.returned → (c.id,true) ∉ s.spool.outcomes →
    (∃ e, s.spool.pending.lookup c.id = some e ∧ Carries c e) ∨
      ∃ e, s.spool.deadLetter.lookup c.id = some e ∧ Carries c e

variable {Json : Type} {s next : State Json} {v w : View Json} {c : Call Json} {e : Envelope Json} {id file : String} {success returned : Bool}
  {now clock : Instant}

theorem lost_iff : Lost v returned ↔
    v.phase = .away ∧ v.pending = none ∧ v.deadLetter = none ∧ v.success = false ∧ returned = true := by
  constructor
  · rintro ⟨phase,pending,deadLetter,success,returned⟩
    exact ⟨phase,pending,deadLetter,success,returned⟩
  · rintro ⟨phase,pending,deadLetter,success,returned⟩
    exact ⟨phase,pending,deadLetter,success,returned⟩

-- The steps of a pass lose nothing, and bring nothing back.
theorem Fate.moved (fate : Fate v returned) (moved : Moved success clock v w) :
    Fate w returned ∧ (Lost w returned ↔ Lost v returned) := by
  cases moved with
  | passed _ => exact ⟨fate,Iff.rfl⟩
  | opened phase lying =>
    cases fate <;> cases phase <;> cases lying
    exact ⟨.ready ‹_›,by constructor <;> rintro ⟨⟩ <;> contradiction⟩
  | vanished phase missing =>
    cases fate <;> cases phase
    cases missing
  | taken phase lying =>
    cases fate <;> cases phase
    cases lying
    exact ⟨.processing ‹_›,by constructor <;> rintro ⟨⟩ <;> contradiction⟩
  | accepted phase _ =>
    cases fate <;> cases phase
    exact ⟨.succeeded,by constructor <;> rintro ⟨⟩ <;> contradiction⟩
  | given_up phase _ _ =>
    cases fate <;> cases phase
    rename_i carried
    exact ⟨.burying carried.retry,by constructor <;> rintro ⟨⟩ <;> contradiction⟩
  | postponed phase _ _ =>
    cases fate <;> cases phase
    rename_i carried
    exact ⟨.retrying (carried.retry.reschedule clock) carried,by constructor <;> rintro ⟨⟩ <;> contradiction⟩
  | finished phase =>
    cases fate <;> cases phase
    exact ⟨.done,by constructor <;> rintro ⟨⟩ <;> contradiction⟩
  | copied phase =>
    cases fate <;> cases phase
    exact ⟨.buried ‹_›,by constructor <;> rintro ⟨⟩ <;> contradiction⟩
  | moved_away phase =>
    cases fate <;> cases phase
    exact ⟨.deadLetter ‹_›,by constructor <;> rintro ⟨⟩ <;> contradiction⟩
  | rewritten phase =>
    cases fate <;> cases phase
    exact ⟨.retried ‹_› ‹_›,by constructor <;> rintro ⟨⟩ <;> contradiction⟩
  | dropped phase missing =>
    cases fate <;> cases phase
    cases missing
  | put_back phase lying =>
    cases fate <;> cases phase
    cases lying
    exact ⟨.pending ‹_›,by constructor <;> rintro ⟨⟩ <;> contradiction⟩

-- A stop loses what was in the processing directory alone.
theorem Fate.restarted (fate : Fate v returned) :
    Fate {v with phase := .away,temporary := none} returned ∧
      (Lost {v with phase := .away,temporary := none} returned ↔ Lost v returned ∨ Phase.exposed v.phase = true) := by
  cases fate with
  | absent => exact ⟨.absent,by simp [Phase.exposed]⟩
  | temporary => exact ⟨.cut,by simp [Phase.exposed,lost_iff]⟩
  | cut => exact ⟨.cut,by simp [Phase.exposed]⟩
  | pending carried => exact ⟨.pending carried,by simp [Phase.exposed]⟩
  | ready carried => exact ⟨.pending carried,by simp [Phase.exposed,lost_iff]⟩
  | processing => exact ⟨.stranded,by simp [Phase.exposed,lost_iff]⟩
  | succeeded => exact ⟨.done,by simp [Phase.exposed,lost_iff]⟩
  | burying => exact ⟨.stranded,by simp [Phase.exposed,lost_iff]⟩
  | buried carried => exact ⟨.deadLetter carried,by simp [Phase.exposed,lost_iff]⟩
  | retrying => exact ⟨.stranded,by simp [Phase.exposed,lost_iff]⟩
  | retried carried => exact ⟨.pending carried,by simp [Phase.exposed,lost_iff]⟩
  | deadLetter carried => exact ⟨.deadLetter carried,by simp [Phase.exposed]⟩
  | done => exact ⟨.done,by simp [Phase.exposed]⟩
  | stranded => exact ⟨.stranded,by simp [Phase.exposed]⟩

theorem Fate.raised (fate : Fate v returned) (phase : v.phase = .processing e) :
    Fate {v with phase := .away} returned ∧ Lost {v with phase := .away} returned := by
  cases fate <;> cases phase
  exact ⟨.stranded,rfl,rfl,rfl,rfl,rfl⟩

theorem Fate.of_temporary (fate : Fate v returned) (lying : v.temporary = some e) :
    ∃ c, Carries c e ∧ v = ⟨some c,.away,some e,none,none,none,false⟩ ∧ returned = false := by
  cases fate <;> cases lying
  exact ⟨_,‹_›,rfl,rfl⟩

theorem Fate.of_unknown (fate : Fate v returned) (unknown : v.call = none) :
    v = ⟨none,.away,none,none,none,none,false⟩ ∧ returned = false := by
  cases fate <;> cases unknown
  exact ⟨rfl,rfl⟩

theorem kept_views (known : Sound s)
    (views : ∀ id, Fate (s.spool.view id) (id ∈ s.returned) → Fate (next.spool.view id) (id ∈ next.returned) ∧
      (Lost (next.spool.view id) (id ∈ next.returned) ↔ Lost (s.spool.view id) (id ∈ s.returned))) :
    Sound next ∧ (Safe next ↔ Safe s) :=
  ⟨fun id => (views id (known id)).1,forall_congr' fun id => not_congr (views id (known id)).2⟩

theorem write_kept (known : Sound s) (c : Call Json) (fresh : ∀ earlier ∈ s.spool.calls, earlier.id ≠ c.id)
    (ran : step s (.run (.write c)) = some next) : Sound next ∧ (Safe next ↔ Safe s) := by
  cases ran
  refine kept_views known fun id fate => ?_
  by_cases same : id = c.id
  · subst same
    have unknown : (s.spool.view c.id).call = none := by simpa [Spool.State.view] using fresh
    obtain ⟨shape,unreturned⟩ := fate.of_unknown unknown
    have written : Fate {s.spool.view c.id with call := some c,temporary := some c.envelope} false := by
      rw [shape]
      exact .temporary c.envelope_carries
    rw [unreturned]
    refine ⟨by simpa [Spool.State.view] using written,?_⟩
    simp [lost_iff]
  · simpa [Spool.State.view,same,Ne.symm same] using fate

theorem publish_kept (known : Sound s) (ran : step s (.run (.publish file)) = some next) :
    Sound next ∧ (Safe next ↔ Safe s) := by
  obtain ⟨spool,published,rfl⟩ := Option.map_eq_some_iff.mp ran
  obtain ⟨e,lying,rfl⟩ := Option.map_eq_some_iff.mp published
  refine kept_views known fun id fate => ?_
  by_cases same : id = file
  · subst same
    obtain ⟨c,carried,shape,unreturned⟩ := fate.of_temporary lying
    have pending : Fate {s.spool.view id with temporary := none,pending := some e} true := by
      rw [shape]
      exact .pending carried
    rw [unreturned]
    refine ⟨by simpa [Spool.State.view] using pending,?_⟩
    simp [lost_iff,Spool.State.view]
  · simpa [Spool.State.view,same] using fate

theorem pass_kept (known : Sound s) (ran : step s (.run (.pass now)) = some next) :
    Sound next ∧ (Safe next ↔ Safe s) := by
  obtain ⟨spool,passed,rfl⟩ := Option.map_eq_some_iff.mp ran
  refine kept_views known fun id fate => ?_
  rw [pass_view passed]
  exact ⟨fate,Iff.rfl⟩

theorem advance_kept (known : Sound s) (ran : step s (.run (.advance success clock)) = some next) :
    Sound next ∧ (Safe next ↔ Safe s) := by
  obtain ⟨spool,advanced,rfl⟩ := Option.map_eq_some_iff.mp ran
  refine kept_views known fun id fate => ?_
  by_cases working : s.spool.worker.file = some id
  · exact fate.moved (advance_moved working advanced)
  · rw [advance_view working advanced]
    exact ⟨fate,Iff.rfl⟩

theorem raise_kept (known : Sound s) (ran : step s .raise = some next) : Sound next ∧ ¬Safe next := by
  cases working : s.spool.worker with
  | processing now files file e =>
    simp only [step,working,Option.some.injEq] at ran
    subst ran
    have phase : (s.spool.view file).phase = .processing e := by simp [Spool.State.view,working,Worker.phase]
    obtain ⟨stranded,lost⟩ := (known file).raised phase
    refine ⟨fun id => ?_,fun safe => safe file (by simpa [Spool.State.view,Worker.phase] using lost)⟩
    by_cases same : id = file
    · subst same
      simpa [Spool.State.view,Worker.phase] using stranded
    · simpa [Spool.State.view,working,Worker.phase,Ne.symm same] using known id
  | _ => simp [step,working] at ran

theorem exposed_phase (worker : Worker Json) :
    Worker.exposed worker = true ↔ ∃ id, Phase.exposed (worker.phase id) = true := by
  cases worker with
  | processing now files file e | burying now files file e | retrying now files file e =>
    exact iff_of_true rfl ⟨file,by simp [Worker.phase,Phase.exposed]⟩
  | idle | scanning now files => simp [Worker.exposed,Worker.phase,Phase.exposed]
  | ready now files file e =>
    refine iff_of_false Bool.false_ne_true ?_
    rintro ⟨id,exposed⟩
    by_cases same : file = id <;> simp [Worker.phase,same,Phase.exposed] at exposed
  | succeeded now files file | buried now files file | retried now files file =>
    refine iff_of_false Bool.false_ne_true ?_
    rintro ⟨id,exposed⟩
    by_cases same : file = id <;> simp [Worker.phase,same,Phase.exposed] at exposed

theorem restart_kept (known : Sound s) :
    Sound s.restart ∧ (Safe s.restart ↔ Safe s ∧ Worker.exposed s.spool.worker = false) := by
  have view (id : String) : s.restart.spool.view id = {s.spool.view id with phase := .away,temporary := none} :=
    rfl
  refine ⟨fun id => by rw [view]; exact (known id).restarted.1,?_⟩
  have each (id : String) : ¬Lost (s.restart.spool.view id) (id ∈ s.restart.returned) ↔
      ¬Lost (s.spool.view id) (id ∈ s.returned) ∧ ¬Phase.exposed (s.spool.worker.phase id) = true := by
    rw [view,← not_or]
    exact not_congr (known id).restarted.2
  unfold Safe
  rw [forall_congr' each,forall_and]
  refine and_congr_right fun _ => ?_
  rw [← Bool.not_eq_true,exposed_phase,not_exists]

theorem step_kept {action : Action Json} (known : Sound s) (drawn : Drawn s action) (ran : step s action = some next) :
    Sound next ∧ (Safe next ↔ Safe s ∧ Spared s action) := by
  cases action with
  | run action =>
    have kept : Sound next ∧ (Safe next ↔ Safe s) := by
      cases action with
      | write c => exact write_kept known c drawn ran
      | publish id => exact publish_kept known ran
      | pass now => exact pass_kept known ran
      | advance success clock => exact advance_kept known ran
    exact ⟨kept.1,kept.2.trans (and_iff_left trivial).symm⟩
  | raise =>
    obtain ⟨sound,exposed⟩ := raise_kept known ran
    exact ⟨sound,iff_of_false exposed And.right⟩
  | restart =>
    cases ran
    exact restart_kept known

structure Known (s : State Json) : Prop where
  sound : Sound s
  distinct : Distinct s.spool

theorem initial_known : Known (State.initial : State Json) := ⟨fun _ => .absent,.nil⟩

theorem initial_safe : Safe (State.initial : State Json) := fun _ lost => nomatch lost.returned

theorem step_known {action : Action Json} (known : Known s) (drawn : Drawn s action) (ran : step s action = some next) :
    Known next := by
  refine ⟨(step_kept known.sound drawn ran).1,?_⟩
  cases action with
  | run action =>
    have distinct {spool : Spool.State Json} (ran : Spool.step s.spool action = some spool) : Distinct spool :=
      step_distinct known.distinct drawn ran
    cases action with
    | write c =>
      cases ran
      exact distinct rfl
    | publish id | pass now | advance success clock =>
      obtain ⟨spool,moved,rfl⟩ := Option.map_eq_some_iff.mp ran
      exact distinct moved
  | raise =>
    simp only [step] at ran
    split at ran
    · cases ran
      exact known.distinct
    · cases ran
  | restart =>
    cases ran
    exact known.distinct

theorem Fate.lying (fate : Fate v returned) (away : v.phase = .away) (called : v.call = some c) (was : returned = true)
    (unsuccessful : v.success = false) (safe : ¬Lost v returned) :
    (∃ e, v.pending = some e ∧ Carries c e) ∨ ∃ e, v.deadLetter = some e ∧ Carries c e := by
  cases fate <;> cases away <;> cases called <;> cases was <;> cases unsuccessful
  · exact .inl ⟨_,rfl,‹_›⟩
  · exact .inr ⟨_,rfl,‹_›⟩
  · exact absurd ⟨rfl,rfl,rfl,rfl,rfl⟩ safe

theorem Fate.called (fate : Fate v returned) (was : returned = true) : ∃ c, v.call = some c := by
  cases fate <;> cases was
  all_goals exact ⟨_,rfl⟩

-- With no pass under way, what is not lost is in one of the two directories.
theorem surviving_exact (known : Known s) (idle : s.spool.worker = .idle) : Surviving s ↔ Safe s := by
  constructor
  · intro surviving id lost
    obtain ⟨c,found⟩ := (known.sound id).called lost.returned
    have same : c.id = id := by simpa using List.find?_some found
    subst same
    have listed : c ∈ s.spool.calls := List.mem_of_find?_eq_some found
    rcases surviving c listed (of_decide_eq_true lost.returned) (of_decide_eq_false lost.success) with
      ⟨e,lying,_⟩ | ⟨e,lying,_⟩
    · exact nomatch lying.symm.trans lost.pending
    · exact nomatch lying.symm.trans lost.deadLetter
  · intro safe c listed returned unsuccessful
    have away : (s.spool.view c.id).phase = .away := by simp [Spool.State.view,idle,Worker.phase]
    exact (known.sound c.id).lying away (find_call known.distinct listed) (decide_eq_true returned)
      (decide_eq_false unsuccessful) (safe c.id)

theorem restart_idle (actions : List (Action Json)) (ran : exec step .initial (actions ++ [.restart]) = some s) :
    s.spool.worker = .idle := by
  rw [exec_append] at ran
  obtain ⟨before,_,restarted⟩ := Option.bind_eq_some_iff.mp ran
  cases restarted
  rfl

theorem executed_known (actions : List (Action Json)) (drawn : Along step (fun s action _ => Drawn s action) s actions)
    (known : Known s) (ran : exec step s actions = some next) : Known next := by
  induction actions generalizing s with
  | nil => cases ran; exact known
  | cons action rest ih =>
    obtain ⟨middle,first,later⟩ := Option.bind_eq_some_iff.mp ran
    obtain ⟨fresh,drawn⟩ := drawn middle first
    exact ih drawn (step_known known fresh first) later

-- After a run and a restart every envelope is where a pass will look for it, or
-- a dead letter, exactly when `_process_envelope` never raised and no stop came
-- while a file was in the processing directory alone.
theorem crash_survival (actions : List (Action Json))
    (drawn : Along step (fun s action _ => Drawn s action) .initial (actions ++ [.restart]))
    (ran : exec step .initial (actions ++ [.restart]) = some s) :
    Surviving s ↔ Along step (fun s action _ => Spared s action) .initial (actions ++ [.restart]) := by
  have known : Known s := executed_known _ drawn initial_known ran
  rw [surviving_exact known (restart_idle actions ran)]
  have exact : Safe s ↔ Safe .initial ∧ Along step (fun s action _ => Spared s action) .initial (actions ++ [.restart]) :=
    executed_iff Safe Known _ (fun known drawn ran => step_known known drawn ran)
      (fun known drawn ran => (step_kept known.sound drawn ran).2) initial_known drawn ran
  rw [exact]
  exact and_iff_right initial_safe

def drawn (s : State Json) : Action Json → Bool
  | .run action => Spool.drawn s.spool action
  | _ => true

theorem drawn_sound {action : Action Json} (test : drawn s action = true) : Drawn s action := by
  cases action with
  | run action => exact Spool.drawn_sound test
  | _ => trivial

def spared (s : State Json) : Action Json → Bool
  | .run _ => true
  | .raise => false
  | .restart => !Worker.exposed s.spool.worker

theorem spared_sound {action : Action Json} (test : spared s action = true) : Spared s action := by
  cases action with
  | run action => trivial
  | raise => cases test
  | restart => simpa [spared,Spared] using test

def delivered : List (Action Nat) :=
  [.run (.write ⟨"a","0004A30B001A2B3C","request-1",[("fCnt",7)],none,0,0⟩),.run (.publish "a")]

-- A restart between two passes, and one when the next pass has read the envelope.
theorem crash_survival_reread : ∃ s : State Nat,
    exec step .initial (delivered ++ [.restart,.run (.pass 5),.run (.advance false 5)] ++ [.restart]) = some s ∧
      (∃ c ∈ s.spool.calls, c.id ∈ s.returned ∧ (c.id,true) ∉ s.spool.outcomes) ∧ Surviving s := by
  have found : ∃ s ∈ exec step .initial (delivered ++ [.restart,.run (.pass 5),.run (.advance false 5)] ++ [.restart]),
      ∃ c ∈ s.spool.calls, c.id ∈ s.returned ∧ (c.id,true) ∉ s.spool.outcomes := by decide +kernel
  obtain ⟨s,ran,waiting⟩ := found
  refine ⟨s,ran,waiting,(crash_survival _ ?_ ran).mpr ?_⟩
  · exact along_tested drawn_sound _ (by decide +kernel)
  · exact along_tested spared_sound _ (by decide +kernel)

-- The process is stopped while `_process_envelope` runs.
theorem crash_survival_stopped : ¬∀ (actions : List (Action Nat)) (s : State Nat),
    Along step (fun s action _ => Drawn s action) .initial (actions ++ [.restart]) →
    exec step .initial (actions ++ [.restart]) = some s → Surviving s := by
  intro survives
  have found : ∃ s ∈ exec step .initial
      (delivered ++ [.run (.pass 5),.run (.advance false 5),.run (.advance false 5)] ++ [.restart]),
      ∃ c ∈ s.spool.calls, c.id ∈ s.returned ∧ (c.id,true) ∉ s.spool.outcomes ∧
        s.spool.pending.lookup c.id = none ∧ s.spool.deadLetter.lookup c.id = none := by decide +kernel
  obtain ⟨s,ran,c,listed,returned,unsuccessful,pending,deadLetter⟩ := found
  have waiting := survives _ s (along_tested drawn_sound _ (by decide +kernel)) ran c listed returned unsuccessful
  rcases waiting with ⟨e,lying,_⟩ | ⟨e,lying,_⟩
  · exact nomatch lying.symm.trans pending
  · exact nomatch lying.symm.trans deadLetter

end SmartParking.Uplink.SpoolCrashes
