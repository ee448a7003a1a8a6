import SmartParking.Downlink.RateLimiter
import SmartParking.Downlink.Retries

namespace SmartParking.Downlink.RateLimited
open Lib RateLimiter

-- A worker's check of one bucket: the clock is read, then the hash, and then the
-- answer is there and the hash written. `sleeping` is the wait after a refusal.
inductive Check where
  | none
  | timed (now : Seconds)
  | looked (now : Seconds) (stored : Option BucketHash)
  | sleeping (wakes : Seconds)

-- The queue with its workers, the buckets of the rate limiter, and how often
-- `_process_command` called `mark_failure` for an id: after `queue_downlink` or
-- the decoding of the payload had failed, and after a refusal by the limiter.
structure State where
  queue : Downlink.State
  buckets : Buckets
  checks : Nat → Check
  failures : CmdId → Nat
  refusals : CmdId → Nat

def State.initial : State := ⟨.initial,fun _ => none,fun _ => .none,fun _ => 0,fun _ => 0⟩

def seconds (t : Time) : Seconds := t/1000

def State.now (s : State) : Seconds := seconds s.queue.redis.clock

-- The bucket that the worker asks next, and its limit.
def bucket : WorkerPc → Option (String × Int)
  | .ready cmd =>
    match orNone cmd.gatewayId with
    | some gatewayId => some (gatewayKey gatewayId,defaultGatewayLimitPerMin)
    | none => some (tenantKey cmd.tenantId,defaultTenantLimitPerMin)
  | .tenantLimit cmd => some (tenantKey cmd.tenantId,defaultTenantLimitPerMin)
  | _ => none

inductive Action where
  | call (p : Nat) (a : EnqueueArgs)
  | produce (p : Nat) (uuid : CmdId)
  | start (w : Nat)
  | stop (w : Nat)
  | tick (now : Time)
  | clock (w : Nat)
  | look (w : Nat)
  | work (w : Nat) (reply : Reply)

def refused : WorkerPc → Bool
  | .limited .. => true
  | _ => false

-- The id that `mark_failure` has just been called for.
def marked (before after : WorkerPc) : Option CmdId :=
  match after with
  | .hset _ | .rpushDead _ => before.unsent.map (·.id)
  | _ => none

def count (counts : CmdId → Nat) (id : Option CmdId) : CmdId → Nat :=
  fun key => if id = some key then counts key+1 else counts key

def State.work (s : State) (w : Nat) (reply : Reply) (buckets : Buckets) (check : Check) : Option State :=
  (Downlink.step s.queue (.work w reply)).map fun queue =>
    let id := marked (s.queue.workers w) (queue.workers w)
    {queue,buckets
     checks := Function.update s.checks w check
     failures := if refused (s.queue.workers w) then s.failures else count s.failures id
     refusals := if refused (s.queue.workers w) then count s.refusals id else s.refusals}

def step (s : State) : Action → Option State
  | .call p a => (Downlink.step s.queue (.call p a)).map fun queue => {s with queue}
  | .produce p uuid => (Downlink.step s.queue (.produce p uuid)).map fun queue => {s with queue}
  | .start w => (Downlink.step s.queue (.start w)).map fun queue => {s with queue}
  | .stop w =>
    (Downlink.step s.queue (.stop w)).map fun queue => {s with queue,checks := Function.update s.checks w .none}
  | .tick now => (Downlink.step s.queue (.tick now)).map fun queue => {s with queue}
  | .clock w =>
    match bucket (s.queue.workers w),s.checks w with
    | some _,.none => some {s with checks := Function.update s.checks w (.timed s.now)}
    | _,_ => none
  | .look w =>
    match bucket (s.queue.workers w),s.checks w with
    | some (key,_),.timed now =>
      some {s with checks := Function.update s.checks w (.looked now (found (s.buckets key) s.now))}
    | _,_ => none
  | .work w reply =>
    match bucket (s.queue.workers w),s.checks w with
    | some (key,limit),.looked now stored =>
      let checked := checkTokenBucket limit stored now
      match checked.1.retryAfter with
      | none =>
        -- EXPIRE counts from the moment it is executed.
        let stored := checked.2.map fun written => {written with deadline := s.now+120}
        s.work w .ok (Function.update s.buckets key stored) .none
      | some retryAfter => s.work w (.refused "") s.buckets (.sleeping (s.now+retryAfter))
    | some _,_ => none
    | none,.sleeping wakes => if wakes ≤ s.now then s.work w .ok s.buckets .none else none
    | none,_ => s.work w reply s.buckets .none

-- `mark_failure` after a refusal by the limiter.
def Charges (s : State) : Action → Prop
  | .work w _ => refused (s.queue.workers w) = true
  | _ => False

-- The commands whose number of attempts is about to be written or used.
def numbered : WorkerPc → Option DownlinkCommand
  | .rpushDead cmd => some cmd
  | pc => pc.counting

-- Attempts are failed sends, and only a command that failed so often is given up.
structure Uncharged (s : State) : Prop where
  dead : ∀ letter ∈ s.queue.redis.dead, maxAttempts ≤ s.failures letter.command.id
  attempts : ∀ w cmd, numbered (s.queue.workers w) = some cmd → cmd.attempts = s.failures cmd.id

-- What a step does to the queue and to the two counts.
inductive Moved (s : State) (action : Action) (next : State) : Prop where
  | aside : next.queue = s.queue → next.failures = s.failures → next.refusals = s.refusals → ¬Charges s action →
      Moved s action next
  | queued (other : Downlink.Action) : Downlink.step s.queue other = some next.queue → (∀ w reply, other ≠ .work w reply) →
      (∀ w, other ≠ .markSuccess w) → (∀ w error requeue, other ≠ .markFailure w error requeue) →
      next.failures = s.failures → next.refusals = s.refusals → ¬Charges s action → Moved s action next
  | worked (w : Nat) (reply : Reply) : Downlink.step s.queue (.work w reply) = some next.queue →
      next.failures = (if refused (s.queue.workers w) then s.failures
        else count s.failures (marked (s.queue.workers w) (next.queue.workers w))) →
      next.refusals = (if refused (s.queue.workers w) then
        count s.refusals (marked (s.queue.workers w) (next.queue.workers w)) else s.refusals) →
      (Charges s action ↔ refused (s.queue.workers w) = true) → Moved s action next

variable {s next : State} {action : Action} {key : CmdId} {cmd : DownlinkCommand} {w : Nat}

theorem work_moved (ran : s.work w reply buckets check = some next) :
    Moved s (.work w answer) next := by
  obtain ⟨queue,moved,rfl⟩ := Option.map_eq_some_iff.mp ran
  exact .worked w reply moved rfl rfl Iff.rfl

theorem step_moved (ran : step s action = some next) : Moved s action next := by
  cases action with
  | call p a =>
    obtain ⟨queue,moved,rfl⟩ := Option.map_eq_some_iff.mp ran
    exact .queued _ moved nofun nofun nofun rfl rfl id
  | produce p uuid =>
    obtain ⟨queue,moved,rfl⟩ := Option.map_eq_some_iff.mp ran
    exact .queued _ moved nofun nofun nofun rfl rfl id
  | start w =>
    obtain ⟨queue,moved,rfl⟩ := Option.map_eq_some_iff.mp ran
    exact .queued _ moved nofun nofun nofun rfl rfl id
  | stop w =>
    cases ran
    exact .queued (.stop w) rfl nofun nofun nofun rfl rfl id
  | tick now =>
    obtain ⟨queue,moved,rfl⟩ := Option.map_eq_some_iff.mp ran
    exact .queued _ moved nofun nofun nofun rfl rfl id
  | clock w | look w =>
    simp only [step] at ran
    split at ran
    · cases ran
      exact .aside rfl rfl rfl id
    · cases ran
  | work w reply =>
    simp only [step] at ran
    split at ran
    · split at ran <;> exact work_moved ran
    · cases ran
    · split at ran
      · exact work_moved ran
      · cases ran
    · exact work_moved ran

-- How often a command was marked failed, for whatever reason.
def State.marks (s : State) (key : CmdId) : Nat := s.failures key+s.refusals key

theorem worked_marks {id : Option CmdId} (failures : next.failures = if refused pc then s.failures else count s.failures id)
    (refusals : next.refusals = if refused pc then count s.refusals id else s.refusals) (key : CmdId) :
    next.marks key = if id = some key then s.marks key+1 else s.marks key := by
  unfold State.marks count at *
  rw [failures,refusals]
  by_cases limited : refused pc = true <;> by_cases same : id = some key <;> simp [limited,same] <;> omega

theorem marked_unsent {before after : WorkerPc} (calling : marked before after = some key) :
    ∃ cmd, before.unsent = some cmd ∧ cmd.id = key := by
  unfold marked at calling
  split at calling
  · exact Option.map_eq_some_iff.mp calling
  · exact Option.map_eq_some_iff.mp calling
  · cases calling

theorem marked_failing {before : WorkerPc} (unsent : before.unsent = some cmd) (error : String) (requeue : Bool) (now : Time) :
    marked before (failing cmd error requeue now) = some cmd.id := by
  rcases failing_cases cmd error requeue now with shape | shape <;> rw [shape,marked,unsent] <;> rfl

-- The number of attempts is the number of marks.
def Counts (s : State) (key : CmdId) (n : Int) : Prop := (s.marks key : Int) = n

theorem marked_passing {before after : WorkerPc} (unsent : after.unsent = some cmd) : marked before after = none := by
  cases after <;> first | rfl | cases unsent

section Steps

variable {q last : Downlink.State} {act : Downlink.Action}

-- Starting or stopping a worker marks nothing.
theorem unfailing (stepped : Stepped q act last) (notWork : ∀ w reply, act ≠ .work w reply)
    (notSuccess : ∀ w, act ≠ .markSuccess w) (notFailure : ∀ w error requeue, act ≠ .markFailure w error requeue)
    (mover : act.worker = some w) (unsent : (q.workers w).unsent = some cmd)
    (after : last.workers w = failing cmd error requeue now) : False := by
  cases stepped with
  | work v reply => exact notWork v reply rfl
  | markSuccess v => exact notSuccess v rfl
  | markFailure v _ error requeue => exact notFailure v error requeue rfl
  | start v before =>
    cases mover
    rw [before] at unsent
    cases unsent
  | stop v =>
    cases mover
    have shape : WorkerPc.stopped = failing cmd error requeue now := by simpa [Downlink.State.set] using after
    have holds := congrArg WorkerPc.held shape
    rw [failing_held] at holds
    cases holds
  | _ => cases mover

theorem burying_mover (stepped : Stepped q act last) (notFailure : ∀ w error requeue, act ≠ .markFailure w error requeue)
    (burying : last.workers w = .rpushDead cmd) : act.worker ≠ some w ∧ q.workers w = .rpushDead cmd ∨
      ∃ reply r events, act = .work w reply ∧ Worked q.redis w (q.workers w) r events (.rpushDead cmd) := by
  by_cases mover : act.worker = some w
  · refine .inr ?_
    cases stepped with
    | call | produce | tick => cases mover
    | work v reply before worked =>
      cases mover
      simp only [Downlink.State.set,Function.update_self] at burying
      subst burying
      exact ⟨reply,_,_,rfl,before ▸ worked⟩
    | markFailure v _ error requeue => exact absurd rfl (notFailure v error requeue)
    | markSuccess v _ _ | start v _ | stop v =>
      cases mover
      simp [Downlink.State.set] at burying
  · exact .inl ⟨mover,(step_workers stepped mover).symm.trans burying⟩

theorem worked_burying (worked : Worked r w pc later events (.rpushDead cmd)) :
    ∃ old error, pc.unsent = some old ∧ .rpushDead cmd = failing old error true r.clock := by
  generalize shape : WorkerPc.rpushDead cmd = burying at worked
  cases worked with
  | failed unsent _ => exact ⟨_,_,unsent,rfl⟩
  | processed _ unsent => rw [← shape] at unsent; cases unsent
  | _ => cases shape

end Steps

-- Everything a step can do to the queue, with what it makes of the marks.
theorem moved_tallied (moved : Moved s action next) : next.queue = s.queue ∧ next.marks = s.marks ∨
    ∃ other, Downlink.step s.queue other = some next.queue ∧ (∀ w error requeue, other ≠ .markFailure w error requeue) ∧
      Tallied s.queue other next.queue (Counts s) (Counts next) := by
  cases moved with
  | aside queue failures refusals _ =>
    refine .inl ⟨queue,?_⟩
    funext key
    rw [State.marks,failures,refusals,State.marks]
  | queued other ran notWork notSuccess notFailure failures refusals _ =>
    have same (key : CmdId) : next.marks key = s.marks key := by rw [State.marks,failures,refusals,State.marks]
    refine .inr ⟨other,ran,notFailure,?_,?_,?_⟩
    · intro key _ n fit
      rwa [Counts,same]
    · intro w cmd _ _ _ _ fit
      rwa [Counts,same]
    · intro w cmd error requeue mover unsent after _
      exact (unfailing (step_sound ran) notWork notSuccess notFailure mover unsent after).elim
  | worked w reply ran failures refusals _ =>
    have marks := worked_marks failures refusals
    refine .inr ⟨_,ran,nofun,?_,?_,?_⟩
    · intro key apart n fit
      have other : marked (s.queue.workers w) (next.queue.workers w) ≠ some key := by
        intro calling
        obtain ⟨cmd,unsent,same⟩ := marked_unsent calling
        exact apart w cmd rfl unsent same
      rwa [Counts,marks,if_neg other]
    · intro v cmd mover _ after _ fit
      cases mover
      have none : marked (s.queue.workers w) (next.queue.workers w) = none := marked_passing after
      rwa [Counts,marks,none,if_neg nofun]
    · intro v cmd error requeue mover unsent after fit
      cases mover
      rw [Counts,marks,after,marked_failing unsent,if_pos rfl]
      push_cast
      exact congrArg (·+1) fit

theorem marks_mono (moved : Moved s action next) (key : CmdId) : s.marks key ≤ next.marks key := by
  cases moved with
  | aside _ failures refusals _ | queued _ _ _ _ _ failures refusals _ =>
    rw [State.marks,State.marks,failures,refusals]
  | worked w reply _ failures refusals _ =>
    rw [worked_marks failures refusals]
    split <;> omega

structure Known (s : State) : Prop where
  reached : Runs.Reached Downlink.step (fun _ _ => True) .initial s.queue
  fitting : Fitting (Counts s) s.queue
  burying : ∀ w cmd, s.queue.workers w = .rpushDead cmd → Counts s cmd.id cmd.attempts ∧ maxAttempts ≤ cmd.attempts
  dead : ∀ letter ∈ s.queue.redis.dead, maxAttempts ≤ (s.marks letter.command.id : Int)

theorem initial_known : Known .initial := by
  refine ⟨.refl,⟨fun _ _ => rfl,?_,?_⟩,?_,?_⟩
  · intro key _ present
    cases present
  · intro w cmd counting
    cases counting
  · intro w cmd burying
    cases burying
  · intro letter buried
    cases buried

theorem failing_burying (burying : failing old error true now = .rpushDead cmd) :
    cmd = old.failed error now ∧ maxAttempts ≤ cmd.attempts := by
  unfold failing at burying
  split at burying
  · rename_i spent
    cases burying
    exact ⟨rfl,by simpa [gaveUp] using spent⟩
  · cases burying

theorem burying_kept (known : Known s) {other : Downlink.Action} (ran : Downlink.step s.queue other = some next.queue)
    (own : ∀ w error requeue, other ≠ .markFailure w error requeue)
    (tallied : Tallied s.queue other next.queue (Counts s) (Counts next)) (burying : next.queue.workers w = .rpushDead cmd) :
    Counts next cmd.id cmd.attempts ∧ maxAttempts ≤ cmd.attempts := by
  rcases burying_mover (step_sound ran) own burying with ⟨idle,before⟩ | ⟨reply,r,events,mover,worked⟩
  · obtain ⟨fit,spent⟩ := known.burying w cmd before
    have held : (s.queue.workers w).Holds cmd.id := .inl (by rw [before]; rfl)
    exact ⟨tallied.apart (reached_single known.reached) held idle fit,spent⟩
  · obtain ⟨old,error,unsent,after⟩ := worked_burying worked
    obtain ⟨rfl,spent⟩ := failing_burying after.symm
    obtain ⟨fit,_⟩ := known.fitting.counting w old (unsent_counting unsent)
    exact ⟨tallied.failed w old error true (by rw [mover]; rfl) unsent (burying.trans after) fit,spent⟩

theorem dead_kept (known : Known s) (moved : Moved s action next) {other : Downlink.Action}
    (ran : Downlink.step s.queue other = some next.queue) (member : letter ∈ next.queue.redis.dead) :
    maxAttempts ≤ (next.marks letter.command.id : Int) := by
  have old (before : letter ∈ s.queue.redis.dead) : maxAttempts ≤ (next.marks letter.command.id : Int) := by
    have already := known.dead letter before
    have more := marks_mono moved letter.command.id
    omega
  have stepped := step_sound ran
  cases step_dead stepped with
  | same dead _ => exact old (dead ▸ member)
  | added cmd dead log =>
    rw [dead] at member
    rcases List.mem_append.mp member with before | last
    · exact old before
    · obtain ⟨news,recent,cause,_⟩ := step_news stepped
      have only : news = [.deadLettered cmd] := List.append_cancel_right (recent.symm.trans log)
      subst only
      cases List.mem_singleton.mp last
      obtain ⟨w,before⟩ := cause _ List.mem_cons_self
      obtain ⟨fit,spent⟩ := known.burying w cmd before
      have more := marks_mono moved cmd.id
      unfold Counts at fit
      show maxAttempts ≤ (next.marks cmd.id : Int)
      omega

theorem known_preserved (known : Known s) (moved : Moved s action next) : Known next := by
  rcases moved_tallied moved with ⟨queue,marks⟩ | ⟨other,ran,own,tallied⟩
  · have counts : Counts next = Counts s := by
      funext key n
      rw [Counts,marks,Counts]
    refine ⟨queue ▸ known.reached,?_,?_,?_⟩
    · rw [queue,counts]
      exact known.fitting
    · rw [queue,counts]
      exact known.burying
    · rw [queue,marks]
      exact known.dead
  · have single := reached_single known.reached
    refine ⟨.step known.reached trivial ran,?_,fun w cmd => burying_kept known ran own tallied,fun letter => dead_kept known moved ran⟩
    exact fitting_preserved known.fitting tallied single (reached_placed known.reached) (reached_shaped known.reached)
      (step_sound ran)

theorem numbered_counts (known : Known s) (holds : numbered (s.queue.workers w) = some cmd) : Counts s cmd.id cmd.attempts := by
  unfold numbered at holds
  split at holds
  · rename_i burying
    cases holds
    exact (known.burying w cmd burying).1
  · exact (known.fitting.counting w cmd holds).1

-- Without a refusal every mark is a failure.
theorem unrefused_uncharged (known : Known s) (unrefused : ∀ key, s.refusals key = 0) : Uncharged s := by
  have same (key : CmdId) : s.marks key = s.failures key := by rw [State.marks,unrefused,Nat.add_zero]
  refine ⟨fun letter member => ?_,fun w cmd holds => ?_⟩
  · rw [← same]
    exact known.dead letter member
  · rw [← same]
    exact (numbered_counts known holds).symm

theorem refused_limited {pc : WorkerPc} (limited : refused pc = true) : ∃ cmd error, pc = .limited cmd error := by
  cases pc with
  | limited cmd error => exact ⟨cmd,error,rfl⟩
  | _ => cases limited

-- A refusal that is marked is an attempt without a failure.
theorem charged (known : Known s) (unrefused : ∀ key, s.refusals key = 0) (charges : Charges s action)
    (ran : step s action = some next) : ¬Uncharged next := by
  intro uncharged
  have moved := step_moved ran
  have after := known_preserved known moved
  cases moved with
  | aside _ _ _ free | queued _ _ _ _ _ _ _ free => exact free charges
  | worked w reply worked _ refusals charged =>
    have limited := charged.mp charges
    obtain ⟨cmd,error,before⟩ := refused_limited limited
    have marking : next.queue.workers w = failing cmd error true s.queue.redis.clock := by
      simp only [Downlink.step,before,Downlink.work,Option.map_some,Option.some.injEq] at worked
      rw [← worked]
      simp [Downlink.State.set]
    have once : next.refusals cmd.id = 1 := by
      rw [refusals,if_pos limited,marking,marked_failing (by rw [before]; rfl),count,if_pos rfl,unrefused]
    have holds : numbered (next.queue.workers w) = some (cmd.failed error s.queue.redis.clock) := by
      rw [marking]
      rcases failing_cases cmd error true s.queue.redis.clock with shape | shape <;> rw [shape] <;> rfl
    have attempts := uncharged.attempts w _ holds
    have counts := numbered_counts after holds
    have id : (cmd.failed error s.queue.redis.clock).id = cmd.id := rfl
    rw [id] at attempts counts
    unfold Counts State.marks at counts
    omega

theorem unrefused_kept (unrefused : ∀ key, s.refusals key = 0) (free : ¬Charges s action) (moved : Moved s action next)
    (key : CmdId) : next.refusals key = 0 := by
  cases moved with
  | aside _ _ refusals _ | queued _ _ _ _ _ _ refusals _ => rw [refusals,unrefused]
  | worked w reply _ _ refusals charged => rw [refusals,if_neg fun limited => free (charged.mpr limited),unrefused]

-- Attempts are failures of the send in every state of a run exactly when no
-- refusal by the limiter comes to `mark_failure` in it.
theorem limiter_charges_nothing (actions : List Action) :
    Runs.Along step (fun _ _ next => Uncharged next) .initial actions ↔
      Runs.Along step (fun s action _ => ¬Charges s action) .initial actions := by
  refine Runs.along_iff (fun s => Known s ∧ ∀ key, s.refusals key = 0) actions ⟨initial_known,fun _ => rfl⟩ ?_ ?_
  · intro s action next known ran
    have moved := step_moved ran
    constructor
    · intro uncharged charges
      exact charged known.1 known.2 charges ran uncharged
    · intro free
      exact unrefused_uncharged (known_preserved known.1 moved) (unrefused_kept known.2 free moved)
  · intro s action next known free ran
    have moved := step_moved ran
    exact ⟨known_preserved known.1 moved,unrefused_kept known.2 free moved⟩

def display (device : DeviceEui) : EnqueueArgs :=
  {deviceEui := device,payload := "01",fport := 15,tenantId := "t1",gatewayId := some "g1"}

def enqueuing (device : DeviceEui) : List Action := .call 0 (display device)::List.replicate 7 (.produce 0 device)

def checking (w : Nat) : List Action := [.clock w,.look w,.work w .ok]

def proceeding (w n : Nat) : List Action := List.replicate n (.work w .ok)

-- Both buckets allow, the send fails, and `mark_failure` takes the given steps.
def attempting (w n : Nat) : List Action :=
  proceeding w 2 ++ checking w ++ checking w ++ .work w (.refused "timeout")::proceeding w n

def exhausting (w : Nat) (device : DeviceEui) : List Action :=
  enqueuing device ++ attempting w 3 ++ attempting w 3 ++ attempting w 3 ++ attempting w 3 ++ attempting w 4

-- Sends to one gateway fail. The command for "X" has failed four times when the
-- thirtieth token of the minute is gone; it waits, and that is its fifth attempt.
def outage : List Action :=
  .start 0::.start 1::enqueuing "X" ++ attempting 0 3 ++ attempting 0 3 ++ attempting 0 3 ++ attempting 0 3 ++ proceeding 0 2 ++
    exhausting 1 "A" ++ exhausting 1 "B" ++ exhausting 1 "C" ++ exhausting 1 "D" ++ exhausting 1 "E" ++
    enqueuing "F" ++ attempting 1 3 ++ checking 0 ++ .tick 3000::proceeding 0 2

theorem limiter_buries : ¬∀ (actions : List Action) (s : State), Runs.exec step .initial actions = some s →
    ∀ letter ∈ s.queue.redis.dead, maxAttempts ≤ s.failures letter.command.id := by
  intro failed
  have found : ∃ s ∈ Runs.exec step .initial outage, ∃ letter ∈ s.queue.redis.dead, s.failures letter.command.id = 4 := by
    decide +kernel
  obtain ⟨s,ran,letter,member,four⟩ := found
  have five := failed outage s ran letter member
  rw [four] at five
  exact absurd five (by decide)

end SmartParking.Downlink.RateLimited
