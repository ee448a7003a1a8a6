import SmartParking.Downlink.Machine

namespace SmartParking.Downlink
open Lib

-- The steps of an enqueue call, one constructor for each command and answer.
inductive Produced (r : Redis) (p : Nat) (uuid : CmdId) (issued : Bool) :
    EnqueuePc → Redis → List Event → EnqueuePc → Prop where
  | duplicate : r.lastHash a.deviceEui = some a.contentHash →
      Produced r p uuid issued (.getLastHash a) r [] (.incrDeduplicated a)
  | different : r.lastHash a.deviceEui ≠ some a.contentHash →
      Produced r p uuid issued (.getLastHash a) r [] (.getCoalesce a)
  | incrDeduplicated :
      Produced r p uuid issued (.incrDeduplicated a) (r.incr .deduplicated) [.returned none a] .idle
  | untracked : (∀ existing, r.coalesce a.deviceEui = some existing → existing = "") →
      Produced r p uuid issued (.getCoalesce a) r [] (.hset a)
  | tracked : r.coalesce a.deviceEui = some existing →
      Produced r p uuid issued (.getCoalesce a) r [] (.lrem a existing)
  | lremFound : existing ∈ r.pending →
      Produced r p uuid issued (.lrem a existing) (r.lrem existing) [.removed existing a] (.deleteCmd a existing)
  | lremMissing : existing ∉ r.pending →
      Produced r p uuid issued (.lrem a existing) (r.lrem existing) [] (.deleteCmd a existing)
  | deleteCmd :
      Produced r p uuid issued (.deleteCmd a existing) (r.deleteCmd existing) [.deleted existing a] (.incrCoalesced a)
  | incrCoalesced : Produced r p uuid issued (.incrCoalesced a) (r.incr .coalesced) [] (.hset a)
  | hset : uuid ≠ "" → issued = false →
      Produced r p uuid issued (.hset a) (r.hset uuid (a.command uuid r.clock).mapping)
        [.created p uuid a] (.expire a uuid)
  | expire : Produced r p uuid issued (.expire a cmdId) (r.expire cmdId) [] (.rpush a cmdId)
  | rpush : Produced r p uuid issued (.rpush a cmdId) (r.rpush cmdId) [.pushed cmdId] (.setCoalesce a cmdId)
  | setCoalesce : Produced r p uuid issued (.setCoalesce a cmdId) (r.setCoalesce a.deviceEui cmdId) [] (.incrEnqueued a cmdId)
  | incrEnqueued : Produced r p uuid issued (.incrEnqueued a cmdId) (r.incr .enqueued) [.returned (some cmdId) a] .idle

theorem produce_sound (ran : produce r p uuid issued pc = some (next,events,later)) :
    Produced r p uuid issued pc next events later := by
  cases pc with
  | idle => cases ran
  | getLastHash a =>
    simp only [produce] at ran
    split at ran
    · cases ran; exact .duplicate ‹_›
    · cases ran; exact .different ‹_›
  | getCoalesce a =>
    simp only [produce] at ran
    split at ran
    · rename_i missing
      cases ran
      exact .untracked (by simp [missing])
    · rename_i existing found
      split at ran
      · rename_i empty
        cases ran
        exact .untracked (by simp [found,empty])
      · cases ran; exact .tracked found
  | lrem a existing =>
    simp only [produce] at ran
    split at ran
    · cases ran; exact .lremFound ‹_›
    · cases ran; exact .lremMissing ‹_›
  | hset a =>
    simp only [produce] at ran
    split at ran
    · cases ran
    · rename_i guard
      have parts : uuid ≠ "" ∧ issued = false := by simpa using guard
      cases ran
      exact .hset parts.1 parts.2
  | incrDeduplicated a => cases ran; exact .incrDeduplicated
  | deleteCmd a existing => cases ran; exact .deleteCmd
  | incrCoalesced a => cases ran; exact .incrCoalesced
  | expire a id => cases ran; exact .expire
  | rpush a id => cases ran; exact .rpush
  | setCoalesce a id => cases ran; exact .setCoalesce
  | incrEnqueued a id => cases ran; exact .incrEnqueued

def EnqueuePc.args : EnqueuePc → Option EnqueueArgs
  | .idle => none
  | .getLastHash a | .incrDeduplicated a | .getCoalesce a | .lrem a _ | .deleteCmd a _ | .incrCoalesced a
  | .hset a | .expire a _ | .rpush a _ | .setCoalesce a _ | .incrEnqueued a _ => some a

theorem produced_args (produced : Produced r p uuid issued pc next events later) (of : later.args = some a) :
    pc.args = some a := by
  cases produced <;> first | exact of | cases of

-- The id a worker is responsible for: from the pop to the command that records
-- what became of it.
def WorkerPc.held : WorkerPc → Option CmdId
  | .hgetall id => some id
  | .ready cmd | .tenantLimit cmd | .limited cmd _ | .queueDownlink cmd | .setLastHash cmd
  | .hset cmd | .rpush cmd | .rpushDead cmd => some cmd.id
  | _ => none

def WorkerPc.command : WorkerPc → Option DownlinkCommand
  | .ready cmd | .tenantLimit cmd | .limited cmd _ | .queueDownlink cmd | .setLastHash cmd
  | .deleteCmd cmd | .deleteCoalesce cmd | .incrSucceeded cmd | .rpushLatency cmd
  | .hset cmd | .rpush cmd | .rpushDead cmd | .deleteDead cmd | .deleteDeadCoalesce cmd => some cmd
  | _ => none

def WorkerPc.unsent : WorkerPc → Option DownlinkCommand
  | .ready cmd | .tenantLimit cmd | .limited cmd _ | .queueDownlink cmd => some cmd
  | _ => none

theorem unsent_held {pc : WorkerPc} (unsent : pc.unsent = some cmd) : pc.held = some cmd.id := by
  cases pc <;> simp_all [WorkerPc.unsent,WorkerPc.held]

theorem unsent_command {pc : WorkerPc} (unsent : pc.unsent = some cmd) : pc.command = some cmd := by
  cases pc <;> simp_all [WorkerPc.unsent,WorkerPc.command]

theorem failing_cases (cmd : DownlinkCommand) (error : String) (requeue : Bool) (now : Time) :
    failing cmd error requeue now = .rpushDead (cmd.failed error now) ∨
    failing cmd error requeue now = .hset (cmd.failed error now) := by
  unfold failing
  split
  · exact .inl rfl
  · exact .inr rfl

@[simp] theorem failing_held (cmd : DownlinkCommand) (error : String) (requeue : Bool) (now : Time) :
    (failing cmd error requeue now).held = some cmd.id := by
  rcases failing_cases cmd error requeue now with same | same <;> rw [same] <;> rfl

@[simp] theorem failing_command (cmd : DownlinkCommand) (error : String) (requeue : Bool) (now : Time) :
    (failing cmd error requeue now).command = some (cmd.failed error now) := by
  rcases failing_cases cmd error requeue now with same | same <;> rw [same] <;> rfl

-- The steps of a worker. The way from `dequeue` to the send, with its rate
-- limiters, changes nothing but the worker itself.
inductive Worked (r : Redis) (w : Nat) : WorkerPc → Redis → List Event → WorkerPc → Prop where
  | empty : r.pending = [] → Worked r w .blpop r [] .blpop
  | popped : r.pending = cmdId::rest → Worked r w .blpop {r with pending := rest} [.popped w cmdId] (.hgetall cmdId)
  | missing : r.cmd cmdId = .absent → Worked r w (.hgetall cmdId) r [.dropped cmdId] .blpop
  | raised : (r.cmd cmdId).decode cmdId r.clock = none → Worked r w (.hgetall cmdId) r [] .blpop
  | dequeued : (r.cmd cmdId).present = true → (r.cmd cmdId).decode cmdId r.clock = some cmd →
      Worked r w (.hgetall cmdId) r [.dequeued cmd] (.ready cmd)
  | processed : pc.unsent = some cmd → later.unsent = some cmd → Worked r w pc r [] later
  | failed : pc.unsent = some cmd → (events = [] ∨ events = [.handed cmd]) →
      Worked r w pc r events (failing cmd error true r.clock)
  | sent : Worked r w (.queueDownlink cmd) r [.sent cmd,.handed cmd] (.setLastHash cmd)
  | setLastHash : Worked r w (.setLastHash cmd) (r.setLastHash cmd.deviceEui cmd.contentHash)
      [.succeeded cmd] (.deleteCmd cmd)
  | deleteCmd : Worked r w (.deleteCmd cmd) (r.deleteCmd cmd.id) [] (.deleteCoalesce cmd)
  | deleteCoalesce : Worked r w (.deleteCoalesce cmd) (r.deleteCoalesce cmd.deviceEui) [] (.incrSucceeded cmd)
  | incrSucceeded : Worked r w (.incrSucceeded cmd) (r.incr .succeeded) [] (.rpushLatency cmd)
  | rpushLatency : Worked r w (.rpushLatency cmd) (r.rpushLatency cmd) [] .ltrimLatencies
  | ltrimLatencies : Worked r w .ltrimLatencies r.ltrimLatencies [] .blpop
  | hset : Worked r w (.hset cmd) (r.hset cmd.id cmd.retryMapping) [] (.rpush cmd)
  | rpush : Worked r w (.rpush cmd) (r.rpush cmd.id) [.requeued cmd.id] .incrRetried
  | incrRetried : Worked r w .incrRetried (r.incr .retried) [] .blpop
  | rpushDead : Worked r w (.rpushDead cmd) (r.rpushDead cmd) [.deadLettered cmd] (.deleteDead cmd)
  | deleteDead : Worked r w (.deleteDead cmd) (r.deleteCmd cmd.id) [] (.deleteDeadCoalesce cmd)
  | deleteDeadCoalesce :
      Worked r w (.deleteDeadCoalesce cmd) (r.deleteCoalesce cmd.deviceEui) [] .incrDeadLettered
  | incrDeadLettered : Worked r w .incrDeadLettered (r.incr .deadLettered) [] .blpop

-- A command object comes from a stored hash, and only `mark_failure` changes it.
theorem worked_command (worked : Worked r w pc next events later) (carried : later.command = some cmd) :
    pc.command = some cmd ∨ (∃ old error now, pc.command = some old ∧ cmd = old.failed error now) ∨
    ∃ key, pc = .hgetall key ∧ (r.cmd key).decode key r.clock = some cmd := by
  cases worked with
  | dequeued _ decoded =>
    cases carried
    exact .inr (.inr ⟨_,rfl,decoded⟩)
  | processed unsent next =>
    rw [unsent_command next] at carried
    cases carried
    exact .inl (unsent_command unsent)
  | failed unsent _ =>
    rw [failing_command] at carried
    cases carried
    exact .inr (.inl ⟨_,_,_,unsent_command unsent,rfl⟩)
  | _ => first | exact .inl carried | cases carried

theorem decodePayload_worked {r : Redis} {pc : WorkerPc} (unsent : pc.unsent = some cmd) :
    Worked r w pc r [] (decodePayload cmd r.clock) := by
  unfold decodePayload
  split
  · exact .failed unsent (.inl rfl)
  · exact .processed unsent rfl

theorem checkTenant_worked {r : Redis} {pc : WorkerPc} (unsent : pc.unsent = some cmd) (reply : Reply) :
    Worked r w pc r [] (checkTenant cmd r.clock reply) := by
  cases reply with
  | ok => exact decodePayload_worked unsent
  | refused error => exact .processed unsent rfl

theorem work_sound (ran : work r w reply pc = some (next,events,later)) : Worked r w pc next events later := by
  cases pc with
  | stopped => cases ran
  | blpop =>
    simp only [work,Redis.blpop] at ran
    cases queue : r.pending with
    | nil => simp only [queue] at ran; cases ran; exact .empty queue
    | cons id rest => simp only [queue] at ran; cases ran; exact .popped queue
  | hgetall id =>
    simp only [work,deserialize] at ran
    by_cases present : (r.cmd id).present = true
    · simp only [present,if_true] at ran
      cases decoded : (r.cmd id).decode id r.clock with
      | none => simp only [decoded] at ran; cases ran; exact .raised decoded
      | some cmd => simp only [decoded] at ran; cases ran; exact .dequeued present decoded
    · simp only [present] at ran
      cases ran
      exact .missing ((CmdHash.present_exact _).mp (by simpa using present))
  | ready cmd =>
    simp only [work] at ran
    split at ran
    · cases ran; exact .processed rfl rfl
    · cases ran; exact .processed rfl rfl
    · cases ran; exact checkTenant_worked rfl _
  | tenantLimit cmd => cases ran; exact checkTenant_worked rfl _
  | limited cmd error => cases ran; exact .failed rfl (.inl rfl)
  | queueDownlink cmd =>
    simp only [work] at ran
    split at ran
    · cases ran; exact .sent
    · cases ran; exact .failed rfl (.inr rfl)
  | setLastHash cmd => cases ran; exact .setLastHash
  | deleteCmd cmd => cases ran; exact .deleteCmd
  | deleteCoalesce cmd => cases ran; exact .deleteCoalesce
  | incrSucceeded cmd => cases ran; exact .incrSucceeded
  | rpushLatency cmd => cases ran; exact .rpushLatency
  | ltrimLatencies => cases ran; exact .ltrimLatencies
  | hset cmd => cases ran; exact .hset
  | rpush cmd => cases ran; exact .rpush
  | incrRetried => cases ran; exact .incrRetried
  | rpushDead cmd => cases ran; exact .rpushDead
  | deleteDead cmd => cases ran; exact .deleteDead
  | deleteDeadCoalesce cmd => cases ran; exact .deleteDeadCoalesce
  | incrDeadLettered => cases ran; exact .incrDeadLettered

-- All that a step can do, thread by thread.
inductive Stepped (s : State) : Action → State → Prop where
  | call (p : Nat) (a : EnqueueArgs) : s.producers p = .idle → Stepped s (.call p a) (s.put p (s.redis,[.called a],.getLastHash a))
  | produce (p : Nat) (uuid : CmdId) : s.producers p = pc → Produced s.redis p uuid (createdBy s.events uuid).isSome pc r events later →
      Stepped s (.produce p uuid) (s.put p (r,events,later))
  | work (w : Nat) (reply : Reply) : s.workers w = pc → Worked s.redis w pc r events later →
      Stepped s (.work w reply) (s.set w (r,events,later))
  | markSuccess (w : Nat) (cmd : DownlinkCommand) : s.workers w = .ready cmd → Stepped s (.markSuccess w) (s.set w (s.redis,[],.setLastHash cmd))
  | markFailure (w : Nat) (cmd : DownlinkCommand) (error : String) (requeue : Bool) : s.workers w = .ready cmd →
      Stepped s (.markFailure w error requeue) (s.set w (s.redis,[],failing cmd error requeue s.redis.clock))
  | start (w : Nat) : s.workers w = .stopped → Stepped s (.start w) (s.set w (s.redis,[],.blpop))
  | stop (w : Nat) : Stepped s (.stop w) (s.set w (s.redis,[],.stopped))
  | tick (now : Time) : s.redis.clock ≤ now → Stepped s (.tick now) {s with redis := s.redis.advance now}

theorem step_sound (ran : step s action = some next) : Stepped s action next := by
  cases action with
  | call p a =>
    simp only [step] at ran
    split at ran
    · cases ran; exact .call p a ‹_›
    · cases ran
  | produce p uuid =>
    obtain ⟨⟨r,events,pc⟩,produced,rfl⟩ := Option.map_eq_some_iff.mp ran
    exact .produce p uuid rfl (produce_sound produced)
  | work w reply =>
    obtain ⟨⟨r,events,pc⟩,worked,rfl⟩ := Option.map_eq_some_iff.mp ran
    exact .work w reply rfl (work_sound worked)
  | markSuccess w =>
    simp only [step] at ran
    split at ran
    · cases ran; exact .markSuccess w _ ‹_›
    · cases ran
  | markFailure w error requeue =>
    simp only [step] at ran
    split at ran
    · cases ran; exact .markFailure w _ error requeue ‹_›
    · cases ran
  | start w =>
    simp only [step] at ran
    split at ran
    · cases ran; exact .start w ‹_›
    · cases ran
  | stop w => cases ran; exact .stop w
  | tick now =>
    simp only [step] at ran
    split at ran
    · cases ran; exact .tick now ‹_›
    · cases ran

def Action.producer : Action → Option Nat
  | .call p _ | .produce p _ => some p
  | _ => none

def Action.worker : Action → Option Nat
  | .work w _ | .markSuccess w | .markFailure w _ _ | .start w | .stop w => some w
  | _ => none

theorem step_producers (stepped : Stepped s action next) (other : action.producer ≠ some p) :
    next.producers p = s.producers p := by
  cases stepped with
  | call q | produce q =>
    have different : p ≠ q := fun same => other (by rw [same]; rfl)
    simp [State.put,different]
  | _ => rfl

theorem step_args (stepped : Stepped s action next) (of : (next.producers p).args = some a) :
    (s.producers p).args = some a ∨ action = .call p a := by
  cases stepped with
  | call q b before =>
    by_cases same : p = q
    · subst p
      simp only [State.put,Function.update_self,EnqueuePc.args,Option.some.injEq] at of
      exact .inr (by rw [of])
    · exact .inl (by simpa [State.put,same] using of)
  | produce q uuid before produced =>
    by_cases same : p = q
    · subst p
      have earlier := produced_args produced (by simpa [State.put] using of)
      exact .inl (by rw [before,earlier])
    · exact .inl (by simpa [State.put,same] using of)
  | work | markSuccess | markFailure | start | stop | tick => exact .inl of

theorem step_workers (stepped : Stepped s action next) (other : action.worker ≠ some w) :
    next.workers w = s.workers w := by
  cases stepped with
  | work v | markSuccess v | markFailure v | start v | stop v =>
    have different : w ≠ v := fun same => other (by rw [same]; rfl)
    simp [State.set,different]
  | _ => rfl

-- How a step may move one worker.
inductive WorkerChange (s : State) (action : Action) (next : State) (w : Nat) : Prop where
  | same : action.worker ≠ some w → next.workers w = s.workers w → WorkerChange s action next w
  | worked (reply : Reply) (events : List Event) : action = .work w reply →
      Worked s.redis w (s.workers w) next.redis events (next.workers w) → next.events = events ++ s.events →
      WorkerChange s action next w
  | succeeding (cmd : DownlinkCommand) : s.workers w = .ready cmd → next.workers w = .setLastHash cmd →
      WorkerChange s action next w
  | failing (cmd : DownlinkCommand) (error : String) (requeue : Bool) : s.workers w = .ready cmd →
      next.events = s.events → next.workers w = failing cmd error requeue s.redis.clock →
      WorkerChange s action next w
  | switched : next.workers w = .blpop ∨ next.workers w = .stopped → WorkerChange s action next w

theorem step_worker (stepped : Stepped s action next) (w : Nat) : WorkerChange s action next w := by
  by_cases mover : action.worker = some w
  · cases stepped with
    | call | produce | tick => cases mover
    | work v reply before worked =>
      cases mover
      exact .worked reply _ rfl (by simpa [State.set,before] using worked) rfl
    | markSuccess v cmd before =>
      cases mover
      exact .succeeding cmd before (by simp [State.set])
    | markFailure v cmd error requeue before =>
      cases mover
      exact .failing cmd error requeue before rfl (by simp [State.set])
    | start v _ =>
      cases mover
      exact .switched (.inl (by simp [State.set]))
    | stop v =>
      cases mover
      exact .switched (.inr (by simp [State.set]))
  · exact .same mover (step_workers stepped mover)

theorem reached_idle (path : Runs.Reached step meets State.initial s)
    (alone : ∀ s action, meets s action → action.producer ≠ some p) : s.producers p = .idle := by
  refine path.invariant (fun s => s.producers p = .idle) rfl ?_
  intro s action next idle met ran
  rw [step_producers (step_sound ran) (alone s action met),idle]

theorem reached_stopped (path : Runs.Reached step meets State.initial s)
    (alone : ∀ s action, meets s action → action.worker ≠ some w) : s.workers w = .stopped := by
  refine path.invariant (fun s => s.workers w = .stopped) rfl ?_
  intro s action next stopped met ran
  rw [step_workers (step_sound ran) (alone s action met),stopped]

inductive Logged (s next : State) : Prop where
  | nothing : next.events = s.events → Logged s next
  | event (e : Event) : next.events = e::s.events → Logged s next
  | sent (cmd : DownlinkCommand) : next.events = .sent cmd::.handed cmd::s.events → Logged s next

theorem step_logged (stepped : Stepped s action next) : Logged s next := by
  cases stepped with
  | call p a _ => exact .event _ rfl
  | produce p uuid _ produced => cases produced <;> first | exact .nothing rfl | exact .event _ rfl
  | work w reply _ worked =>
    cases worked with
    | failed _ logged =>
      rcases logged with rfl | rfl
      · exact .nothing rfl
      · exact .event _ rfl
    | sent => exact .sent _ rfl
    | _ => first | exact .nothing rfl | exact .event _ rfl
  | _ => exact .nothing rfl

theorem step_keeps_events (stepped : Stepped s action next) (member : e ∈ s.events) : e ∈ next.events := by
  cases step_logged stepped with
  | nothing same => rwa [same]
  | event other log => rw [log]; exact List.mem_cons_of_mem _ member
  | sent cmd log => rw [log]; exact List.mem_cons_of_mem _ (List.mem_cons_of_mem _ member)

-- What has to hold before a step that logs an event.
def Cause (s : State) : Event → Prop
  | .called _ => True
  | .created p _ a => s.producers p = .hset a
  | .pushed id => ∃ p a, s.producers p = .rpush a id
  | .returned (some id) a => ∃ p, s.producers p = .incrEnqueued a id
  | .returned none a => ∃ p, s.producers p = .incrDeduplicated a
  | .removed id a => ∃ p, s.producers p = .lrem a id
  | .deleted id a => ∃ p, s.producers p = .deleteCmd a id
  | .popped w _ => s.workers w = .blpop
  | .dropped id => ∃ w, s.workers w = .hgetall id ∧ s.redis.cmd id = .absent
  | .dequeued cmd => ∃ w key, s.workers w = .hgetall key ∧ (s.redis.cmd key).present = true ∧
      (s.redis.cmd key).decode key s.redis.clock = some cmd
  | .handed cmd => ∃ w, (s.workers w).unsent = some cmd
  | .sent cmd => ∃ w, s.workers w = .queueDownlink cmd
  | .succeeded cmd => ∃ w, s.workers w = .setLastHash cmd
  | .requeued id => ∃ w cmd, s.workers w = .rpush cmd ∧ cmd.id = id
  | .deadLettered cmd => ∃ w, s.workers w = .rpushDead cmd

theorem produced_cause (before : s.producers p = pc)
    (produced : Produced s.redis p uuid issued pc r events later) (member : e ∈ events) : Cause s e := by
  cases produced with
  | hset => cases List.mem_singleton.mp member; exact before
  | rpush => cases List.mem_singleton.mp member; exact ⟨p,_,before⟩
  | incrDeduplicated | lremFound | deleteCmd | incrEnqueued =>
    cases List.mem_singleton.mp member; exact ⟨p,before⟩
  | _ => cases member

theorem worked_cause (before : s.workers w = pc) (worked : Worked s.redis w pc r events later)
    (member : e ∈ events) : Cause s e := by
  cases worked with
  | popped => cases List.mem_singleton.mp member; exact before
  | missing absent => cases List.mem_singleton.mp member; exact ⟨w,before,absent⟩
  | dequeued present decoded => cases List.mem_singleton.mp member; exact ⟨w,_,before,present,decoded⟩
  | failed unsent logged =>
    rcases logged with rfl | rfl
    · cases member
    · cases List.mem_singleton.mp member
      exact ⟨w,by rw [before,unsent]⟩
  | sent =>
    rcases List.mem_cons.mp member with equal | member
    · cases equal; exact ⟨w,before⟩
    · cases List.mem_singleton.mp member
      exact ⟨w,by rw [before]; rfl⟩
  | setLastHash | rpushDead => cases List.mem_singleton.mp member; exact ⟨w,before⟩
  | rpush => cases List.mem_singleton.mp member; exact ⟨w,_,before,rfl⟩
  | _ => cases member

theorem step_cause (stepped : Stepped s action next) (member : e ∈ next.events) : e ∈ s.events ∨ Cause s e := by
  cases stepped with
  | call p a _ =>
    rcases List.mem_cons.mp member with rfl | old
    · exact .inr trivial
    · exact .inl old
  | produce p uuid before produced =>
    rcases List.mem_append.mp member with new | old
    · exact .inr (produced_cause before produced new)
    · exact .inl old
  | work w reply before worked =>
    rcases List.mem_append.mp member with new | old
    · exact .inr (worked_cause before worked new)
    · exact .inl old
  | markSuccess | markFailure | start | stop | tick => exact .inl member

inductive CoalesceChange (s next : State) (device : DeviceEui) : Prop where
  | same : next.redis.coalesce device = s.redis.coalesce device → CoalesceChange s next device
  | gone : next.redis.coalesce device = none → CoalesceChange s next device
  | set (p : Nat) (a : EnqueueArgs) (id : CmdId) : s.producers p = .setCoalesce a id → a.deviceEui = device →
      next.redis.coalesce device = some id → CoalesceChange s next device

theorem step_coalesce (stepped : Stepped s action next) (device : DeviceEui) : CoalesceChange s next device := by
  have updated : ∀ (other : DeviceEui) (v : Option CmdId),
      Function.update s.redis.coalesce other v device = s.redis.coalesce device ∨
      other = device ∧ Function.update s.redis.coalesce other v device = v := by
    intro other v
    by_cases same : device = other
    · exact .inr ⟨same.symm,by rw [same,Function.update_self]⟩
    · exact .inl (Function.update_of_ne same _ _)
  cases stepped with
  | produce p uuid before produced =>
    cases produced with
    | expire => exact .same (congrFun (Redis.expire_coalesce _ _) device)
    | setCoalesce =>
      rename_i a cmdId
      rcases updated a.deviceEui (some cmdId) with same | ⟨equal,set⟩
      · exact .same same
      · exact .set p a cmdId before equal set
    | _ => exact .same rfl
  | work w reply before worked =>
    cases worked with
    | deleteCoalesce | deleteDeadCoalesce =>
      rename_i cmd
      rcases updated cmd.deviceEui none with same | ⟨_,set⟩
      · exact .same same
      · exact .gone set
    | _ => exact .same rfl
  | tick now _ =>
    by_cases expired : s.redis.coalesceDeadline device ≤ now
    · exact .gone (by simp [Redis.advance,expired])
    · exact .same (by simp [Redis.advance,expired])
  | _ => exact .same rfl

-- Only `enqueue` gives ids out, and an id keeps its call.
inductive IdChange (s next : State) (key : CmdId) : Prop where
  | same : createdBy next.events key = createdBy s.events key → IdChange s next key
  | created (p : Nat) (a : EnqueueArgs) : key ≠ "" → createdBy s.events key = none →
      createdBy next.events key = some a → s.producers p = .hset a → next.producers p = .expire a key →
      next.redis.cmd key = (s.redis.cmd key).hset (a.command key s.redis.clock).mapping → IdChange s next key

theorem step_created (stepped : Stepped s action next) (key : CmdId) : IdChange s next key := by
  cases stepped with
  | produce p uuid before produced =>
    cases produced with
    | hset named fresh =>
      rename_i a
      by_cases same : key = uuid
      · subst key
        have missing : createdBy s.events uuid = none := by simpa using fresh
        exact .created p a named missing (by simp [State.put,createdBy]) before (by simp [State.put])
          (by simp [State.put,Redis.hset])
      · exact .same (by simp [State.put,createdBy,same])
    | _ => exact .same rfl
  | work w reply _ worked =>
    cases worked with
    | failed _ logged => rcases logged with rfl | rfl <;> exact .same rfl
    | _ => exact .same rfl
  | _ => exact .same rfl

theorem step_keeps_created (stepped : Stepped s action next) (known : createdBy s.events key = some a) :
    createdBy next.events key = some a := by
  cases step_created stepped key with
  | same same => rw [same,known]
  | created _ _ _ missing => rw [known] at missing; cases missing

end SmartParking.Downlink
