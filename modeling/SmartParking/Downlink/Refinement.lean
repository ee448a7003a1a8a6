import SmartParking.Downlink.Durable
import SmartParking.Downlink.Serial

namespace SmartParking.Downlink
open Lib

abbrev Undisturbed (start s : State) : Prop := Runs.Reached step Unexpired start s

variable {start m : State} {r : Redis} {events : List Event}

theorem put_put (m : State) (p : Nat) (first second : Redis × List Event × EnqueuePc) :
    (m.put p first).put p second = m.put p (second.1,second.2.1 ++ first.2.1,second.2.2) := by
  simp [State.put]

theorem set_set (m : State) (w : Nat) (first second : Redis × List Event × WorkerPc) :
    (m.set w first).set w second = m.set w (second.1,second.2.1 ++ first.2.1,second.2.2) := by
  simp [State.set]

theorem produce_on {pc : EnqueuePc} (uuid : CmdId) (path : Undisturbed start (m.put 0 (r,events,pc)))
    (made : produce r 0 uuid (createdBy (events ++ m.events) uuid).isSome pc = some (next,more,later)) :
    Undisturbed start (m.put 0 (next,more ++ events,later)) := by
  have ran : step (m.put 0 (r,events,pc)) (.produce 0 uuid) = some ((m.put 0 (r,events,pc)).put 0 (next,more,later)) := by
    simp only [step,State.put,Function.update_self,made]
    rfl
  have allowed : Unexpired (m.put 0 (r,events,pc)) (.produce 0 uuid) := trivial
  rw [put_put] at ran
  exact .step path allowed ran

theorem work_on {pc : WorkerPc} (path : Undisturbed start (m.set 0 (r,events,pc)))
    (made : work r 0 .ok pc = some (next,more,later)) : Undisturbed start (m.set 0 (next,more ++ events,later)) := by
  have ran : step (m.set 0 (r,events,pc)) (.work 0 .ok) = some ((m.set 0 (r,events,pc)).set 0 (next,more,later)) := by
    simp only [step,State.set,Function.update_self,made]
    rfl
  have allowed : Unexpired (m.set 0 (r,events,pc)) (.work 0 .ok) := trivial
  rw [set_set] at ran
  exact .step path allowed ran

theorem store_run (path : Undisturbed start (m.put 0 (r,events,.hset a))) (named : uuid ≠ "")
    (fresh : createdBy (events ++ m.events) uuid = none) :
    ∃ more, Undisturbed start (m.put 0
        (((((r.hset uuid (a.command uuid r.clock).mapping).expire uuid).rpush uuid).setCoalesce a.deviceEui uuid).incr
          .enqueued,more,.idle)) ∧
      createdBy (more ++ m.events) = Function.update (createdBy (events ++ m.events)) uuid (some a) := by
  have made : produce r 0 uuid (createdBy (events ++ m.events) uuid).isSome (.hset a) =
      some (r.hset uuid (a.command uuid r.clock).mapping,[.created 0 uuid a],.expire a uuid) := by
    simp [produce,named,fresh]
  have hset := produce_on uuid path made
  have expire := produce_on uuid hset rfl
  have rpush := produce_on uuid expire rfl
  have setCoalesce := produce_on uuid rpush rfl
  have incr := produce_on uuid setCoalesce rfl
  exact ⟨_,incr,rfl⟩

theorem removeExisting_run (uuid : CmdId) (path : Undisturbed start (m.put 0 (r,events,.getCoalesce a))) :
    ∃ more, Undisturbed start (m.put 0 (removeExisting r a.deviceEui,more,.hset a)) ∧
      createdBy (more ++ m.events) = createdBy (events ++ m.events) := by
  unfold removeExisting
  cases stored : r.coalesce a.deviceEui with
  | none => exact ⟨_,produce_on uuid path (by simp only [produce,stored]; rfl),rfl⟩
  | some existing =>
    dsimp only
    by_cases blank : existing = ""
    · rw [if_pos blank]
      exact ⟨_,produce_on uuid path (by simp only [produce,stored,if_pos blank]; rfl),rfl⟩
    · have read := produce_on uuid path (by simp only [produce,stored,if_neg blank]; rfl)
      have lrem : ∃ more, Undisturbed start (m.put 0 (r.lrem existing,more,.deleteCmd a existing)) ∧
          createdBy (more ++ m.events) = createdBy (events ++ m.events) := by
        by_cases waiting : existing ∈ r.pending
        · exact ⟨_,produce_on uuid read (if_pos waiting),rfl⟩
        · exact ⟨_,produce_on uuid read (if_neg waiting),rfl⟩
      obtain ⟨before,removed,same⟩ := lrem
      have deleted := produce_on uuid removed rfl
      have incr := produce_on uuid deleted rfl
      rw [if_neg blank]
      exact ⟨_,incr,same⟩

-- A call that nobody interrupts does what `enqueue` does in one go.
theorem enqueue_run (path : Undisturbed start m) (idle : m.producers 0 = .idle) (named : uuid ≠ "")
    (fresh : createdBy m.events uuid = none) (a : EnqueueArgs) :
    ∃ more, Undisturbed start (m.put 0 ((enqueue m.redis a uuid).1,more,.idle)) ∧
      createdBy (more ++ m.events) =
        (enqueue m.redis a uuid).2.elim (createdBy m.events) fun id => Function.update (createdBy m.events) id (some a) := by
  have ran : step m (.call 0 a) = some (m.put 0 (m.redis,[.called a],.getLastHash a)) := by
    simp only [step,idle]
  have allowed : Unexpired m (.call 0 a) := trivial
  have called : Undisturbed start (m.put 0 (m.redis,[.called a],.getLastHash a)) := .step path allowed ran
  by_cases duplicate : m.redis.lastHash a.deviceEui = some a.contentHash
  · have read := produce_on uuid called (if_pos duplicate)
    have incr := produce_on uuid read rfl
    rw [enqueue,if_pos duplicate]
    exact ⟨_,incr,rfl⟩
  · have read := produce_on uuid called (if_neg duplicate)
    obtain ⟨before,coalesced,same⟩ := removeExisting_run uuid read
    have unmade : createdBy (before ++ m.events) = createdBy m.events := same
    obtain ⟨more,done,created⟩ := store_run coalesced named (by rw [unmade,fresh])
    rw [enqueue,if_neg duplicate]
    exact ⟨more,done,by rw [created,unmade]; rfl⟩

theorem markSuccess_run (path : Undisturbed start (m.set 0 (r,events,.setLastHash cmd))) :
    ∃ more, Undisturbed start (m.set 0 (markSuccess r cmd,more,.blpop)) ∧
      createdBy (more ++ m.events) = createdBy (events ++ m.events) := by
  have setLastHash := work_on path rfl
  have deleteCmd := work_on setLastHash rfl
  have deleteCoalesce := work_on deleteCmd rfl
  have incr := work_on deleteCoalesce rfl
  have rpush := work_on incr rfl
  have ltrim := work_on rpush rfl
  exact ⟨_,ltrim,rfl⟩

theorem markFailure_run (path : Undisturbed start (m.set 0 (r,events,failing cmd error requeue r.clock))) :
    ∃ more, Undisturbed start (m.set 0 (markFailure r cmd error requeue,more,.blpop)) ∧
      createdBy (more ++ m.events) = createdBy (events ++ m.events) := by
  unfold failing at path
  unfold markFailure
  dsimp only
  split at path
  · rename_i given
    have rpushDead := work_on path rfl
    have deleteDead := work_on rpushDead rfl
    have deleteCoalesce := work_on deleteDead rfl
    have incr := work_on deleteCoalesce rfl
    rw [if_pos given]
    exact ⟨_,incr,rfl⟩
  · rename_i kept
    have hset := work_on path rfl
    have rpush := work_on hset rfl
    have incr := work_on rpush rfl
    rw [if_neg kept]
    exact ⟨_,incr,rfl⟩

theorem finishCycle_run (path : Undisturbed start (m.set 0 (r,events,.ready cmd))) (outcome : Outcome) :
    ∃ more, Undisturbed start (m.set 0 (finishCycle r cmd outcome,more,.blpop)) ∧
      createdBy (more ++ m.events) = createdBy (events ++ m.events) := by
  cases outcome with
  | success =>
    have ran : step (m.set 0 (r,events,.ready cmd)) (.markSuccess 0) =
        some ((m.set 0 (r,events,.ready cmd)).set 0 (r,[],.setLastHash cmd)) := by
      simp only [step,State.set,Function.update_self]
    have allowed : Unexpired (m.set 0 (r,events,.ready cmd)) (.markSuccess 0) := trivial
    rw [set_set] at ran
    exact markSuccess_run (.step path allowed ran)
  | failure error requeue =>
    have ran : step (m.set 0 (r,events,.ready cmd)) (.markFailure 0 error requeue) =
        some ((m.set 0 (r,events,.ready cmd)).set 0 (r,[],failing cmd error requeue r.clock)) := by
      simp only [step,State.set,Function.update_self]
    have allowed : Unexpired (m.set 0 (r,events,.ready cmd)) (.markFailure 0 error requeue) := trivial
    rw [set_set] at ran
    exact markFailure_run (.step path allowed ran)

-- A worker that nobody interrupts does what `cycle` does in one go.
theorem cycle_run (path : Undisturbed start m) (ready : m.workers 0 = .blpop) (outcome : Outcome) :
    ∃ more, Undisturbed start (m.set 0 (cycle m.redis outcome,more,.blpop)) ∧
      createdBy (more ++ m.events) = createdBy m.events := by
  have still : m.set 0 (m.redis,[],.blpop) = m := by
    simp [State.set,← ready]
  have waiting : Undisturbed start (m.set 0 (m.redis,[],.blpop)) := still.symm ▸ path
  unfold cycle dequeue
  cases popped : m.redis.blpop with
  | none => exact ⟨[],waiting,rfl⟩
  | some taken =>
    obtain ⟨cmdId,r⟩ := taken
    have blpop := work_on waiting (by simp only [work,popped]; rfl)
    dsimp only
    cases decoded : deserialize (r.cmd cmdId) cmdId r.clock with
    | nothing => exact ⟨_,work_on blpop (by simp only [work,decoded]; rfl),rfl⟩
    | raised => exact ⟨_,work_on blpop (by simp only [work,decoded]; rfl),rfl⟩
    | command cmd =>
      have hgetall := work_on blpop (by simp only [work,decoded]; rfl)
      exact finishCycle_run hgetall outcome

-- The machine at rest between two operations of serial use.
structure Simulates (m : State) (s : Serial) : Prop where
  redis : m.redis = s.redis
  issued : createdBy m.events = s.issued
  idle : m.producers 0 = .idle
  ready : m.workers 0 = .blpop

def Serial.Onward (s : Serial) (op : Op) : Prop :=
  s.Unexpired op ∧ ∀ now, op = .wait now → s.redis.clock ≤ now

theorem serial_simulated {s next : Serial} (path : Undisturbed start m) (same : Simulates m s) (met : s.Onward op)
    (ran : s.step op = some next) : ∃ later, Undisturbed start later ∧ Simulates later next := by
  obtain ⟨redis,issued,idle,ready⟩ := same
  cases op with
  | enqueue a uuid =>
    simp only [Serial.step,Option.ite_none_right_eq_some] at ran
    obtain ⟨⟨named,fresh⟩,ran⟩ := ran
    rw [← issued,Option.isNone_iff_eq_none] at fresh
    obtain ⟨more,done,created⟩ := enqueue_run path idle named fresh a
    rw [redis] at done created
    refine ⟨_,done,?_⟩
    split at ran
    · rename_i r answer
      cases ran
      exact ⟨by simp [State.put,answer],by simp [State.put,created,answer,issued],by simp [State.put],ready⟩
    · rename_i r key answer
      cases ran
      exact ⟨by simp [State.put,answer],by simp [State.put,created,answer,issued],by simp [State.put],ready⟩
  | cycle outcome =>
    cases ran
    obtain ⟨more,done,created⟩ := cycle_run path ready outcome
    rw [redis] at done
    exact ⟨_,done,rfl,created.trans issued,idle,by simp [State.set]⟩
  | wait now =>
    cases ran
    obtain ⟨unexpired,onward⟩ := met
    have passed : m.redis.clock ≤ now := by
      rw [redis]
      exact onward now rfl
    have allowed : Unexpired m (.tick now) := by
      show m.redis.NoneExpires now
      rw [redis]
      exact unexpired
    exact ⟨_,.step path allowed (if_pos passed),congrArg (·.advance now) redis,issued,idle,ready⟩

theorem serial_refines {s : Serial} (path : Runs.Reached Serial.step Serial.Onward .empty s) :
    ∃ m, Undisturbed State.initial m ∧ Simulates m s := by
  induction path with
  | refl =>
    have allowed : Unexpired State.initial (.start 0) := trivial
    exact ⟨State.initial.set 0 (.empty,[],.blpop),.step .refl allowed rfl,rfl,rfl,rfl,by simp [State.set]⟩
  | step _ met ran ih =>
    obtain ⟨m,reached,same⟩ := ih
    exact serial_simulated reached same met ran

end SmartParking.Downlink
