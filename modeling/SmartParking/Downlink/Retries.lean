import Mathlib.Data.Set.Card
import SmartParking.Downlink.Durable

namespace SmartParking.Downlink
open Lib

-- What a worker still has in hand after the outcome is recorded: it deletes the
-- keys of the command and counts.
def WorkerPc.clearing : WorkerPc → Option CmdId
  | .deleteCmd cmd | .deleteCoalesce cmd | .incrSucceeded cmd | .rpushLatency cmd
  | .deleteDead cmd | .deleteDeadCoalesce cmd => some cmd.id
  | _ => none

def WorkerPc.Holds (pc : WorkerPc) (id : CmdId) : Prop := pc.held = some id ∨ pc.clearing = some id

theorem unsent_clearing {pc : WorkerPc} (unsent : pc.unsent = some cmd) : pc.clearing = none := by
  cases pc <;> first | rfl | cases unsent

@[simp] theorem failing_clearing (cmd : DownlinkCommand) (error : String) (requeue : Bool) (now : Time) :
    (failing cmd error requeue now).clearing = none := by
  rcases failing_cases cmd error requeue now with same | same <;> rw [same] <;> rfl

theorem failing_holds (cmd : DownlinkCommand) (error : String) (requeue : Bool) (now : Time) :
    (failing cmd error requeue now).Holds key ↔ cmd.id = key := by
  simp [WorkerPc.Holds]

theorem unsent_holds {pc : WorkerPc} (unsent : pc.unsent = some cmd) : pc.Holds key ↔ cmd.id = key := by
  simp [WorkerPc.Holds,unsent_held unsent,unsent_clearing unsent]

theorem worked_holds (shaped : Shaped s) (worked : Worked s.redis w pc r events later) (holds : later.Holds key) :
    pc.Holds key ∨ key ∈ s.redis.pending := by
  cases worked with
  | popped queue =>
    rcases holds with held | clearing
    · cases held
      exact .inr (queue ▸ List.mem_cons_self)
    · cases clearing
  | dequeued _ decoded =>
    rcases holds with held | clearing
    · cases held
      exact .inl (.inl (congrArg some (shaped.decode decoded).1.symm))
    · cases clearing
  | processed before after => exact .inl ((unsent_holds before).mpr ((unsent_holds after).mp holds))
  | failed before _ => exact .inl ((unsent_holds before).mpr ((failing_holds ..).mp holds))
  | setLastHash | rpushDead => exact .inl (.inl (holds.resolve_left (by simp [WorkerPc.held])))
  | _ => first | exact .inl holds | (rcases holds with held | clearing <;> first | cases held | cases clearing)

theorem step_holds (shaped : Shaped s) (stepped : Stepped s action next) (holds : (next.workers w).Holds key) :
    (s.workers w).Holds key ∨ key ∈ s.redis.pending ∧ action.worker = some w := by
  cases step_worker stepped w with
  | same _ same => exact .inl (same ▸ holds)
  | worked reply events equal worked _ =>
    subst equal
    exact (worked_holds shaped worked holds).imp_right fun pending => ⟨pending,rfl⟩
  | succeeding cmd before after =>
    rw [after] at holds
    rw [before]
    exact .inl (holds.imp_right nofun)
  | failing cmd error requeue before _ after =>
    rw [after,failing_holds] at holds
    rw [before]
    exact .inl (.inl (congrArg some holds))
  | switched after => rcases after with after | after <;> rw [after] at holds <;> rcases holds with none | none <;> cases none

-- The id is a token: whoever has it has it alone, and it is in the queue only
-- while nobody has it.
structure Single (s : State) : Prop where
  cleared : ∀ w key, (s.workers w).clearing = some key → (place s.events key).Final
  alone : ∀ v w key, (s.workers v).Holds key → (s.workers w).Holds key → v = w

theorem Single.outside (single : Single s) (placed : Placed s) (holds : (s.workers w).Holds key) :
    place s.events key = .held w ∨ (place s.events key).Final :=
  holds.imp (placed.sound.held w key) (single.cleared w key)

theorem Single.unqueued (single : Single s) (placed : Placed s) (holds : (s.workers w).Holds key) :
    key ∉ s.redis.pending := by
  intro pending
  have queued : place s.events key = .queued := (placed.sound.queued key).mp pending
  rcases single.outside placed holds with held | final
  · rw [queued] at held
    cases held
  · exact Custody.final_ne_queued final queued

theorem worked_clearing (worked : Worked r w pc next events later) (clearing : later.clearing = some key) :
    pc.clearing = some key ∨ ∃ e ∈ events, ∃ reached : Place, e.moves = some (key,reached) ∧ reached.Final := by
  cases worked with
  | setLastHash => cases clearing; exact .inr ⟨_,List.mem_cons_self,_,rfl,.inl rfl⟩
  | rpushDead => cases clearing; exact .inr ⟨_,List.mem_cons_self,_,rfl,.inr (.inl rfl)⟩
  | processed _ unsent =>
    rw [unsent_clearing unsent] at clearing
    cases clearing
  | failed =>
    rw [failing_clearing] at clearing
    cases clearing
  | _ => first | exact .inl clearing | cases clearing

theorem single_cleared (single : Single s) (placed : Placed s) (shaped : Shaped s) (lasting : Lasting next)
    (stepped : Stepped s action next) (clearing : (next.workers w).clearing = some key) :
    (place next.events key).Final := by
  have kept : (s.workers w).clearing = some key → (place next.events key).Final := by
    intro before
    have final := single.cleared w key before
    rwa [step_final placed shaped stepped final]
  cases step_worker stepped w with
  | same _ same => exact kept (same ▸ clearing)
  | worked reply events _ worked log =>
    rcases worked_clearing worked clearing with old | ⟨e,member,reached,moves,final⟩
    · exact kept old
    · rw [lasting e (log ▸ List.mem_append_left _ member) key reached moves final]
      exact final
  | succeeding cmd _ after => rw [after] at clearing; cases clearing
  | failing cmd error requeue _ _ after => simp [after] at clearing
  | switched after => rcases after with after | after <;> rw [after] at clearing <;> cases clearing

theorem single_preserved (single : Single s) (placed : Placed s) (shaped : Shaped s) (lasting : Lasting next)
    (stepped : Stepped s action next) : Single next := by
  refine ⟨fun w key => single_cleared single placed shaped lasting stepped,?_⟩
  intro v w key one two
  rcases step_holds shaped stepped one with old | ⟨pending,mover⟩ <;>
    rcases step_holds shaped stepped two with prior | ⟨queued,other⟩
  · exact single.alone v w key old prior
  · exact absurd queued (single.unqueued placed old)
  · exact absurd pending (single.unqueued placed prior)
  · exact Option.some.inj (mover.symm.trans other)

theorem reached_single (path : Runs.Reached step meets State.initial s) : Single s := by
  induction path with
  | refl => exact ⟨nofun,fun _ _ _ holds => by rcases holds with held | clearing <;> first | cases held | cases clearing⟩
  | step prior met ran ih =>
    exact single_preserved ih (reached_placed prior) (reached_shaped prior) (reached_lasting (.step prior met ran))
      (step_sound ran)

def Event.hands (key : CmdId) : Event → Bool
  | .handed cmd => cmd.id == key
  | _ => false

def handings (events : List Event) (key : CmdId) : Nat := events.countP (Event.hands key)

theorem worked_handings (worked : Worked r w pc next events later) (key : CmdId) :
    handings events key = 0 ∨ handings events key = 1 ∧ ∃ cmd, pc.unsent = some cmd ∧ cmd.id = key := by
  have single : ∀ cmd, handings [.handed cmd] key = 0 ∨ handings [.handed cmd] key = 1 ∧ cmd.id = key := by
    intro cmd
    by_cases same : cmd.id = key <;> simp [handings,Event.hands,same]
  cases worked with
  | failed unsent logged =>
    rcases logged with rfl | rfl
    · exact .inl rfl
    · exact (single _).imp_right fun once => ⟨once.1,_,unsent,once.2⟩
  | sent => exact (single _).imp_right fun once => ⟨once.1,_,rfl,once.2⟩
  | _ => exact .inl rfl

theorem step_handings (stepped : Stepped s action next) (key : CmdId) :
    handings next.events key = handings s.events key ∨ handings next.events key = handings s.events key+1 ∧
      ∃ w cmd, action.worker = some w ∧ (s.workers w).unsent = some cmd ∧ cmd.id = key := by
  cases stepped with
  | produce p uuid _ produced => cases produced <;> exact .inl rfl
  | work w reply before worked =>
    have total : ∀ new, handings (new ++ s.events) key = handings new key+handings s.events key :=
      fun new => List.countP_append
    rcases worked_handings worked key with none | ⟨once,cmd,unsent,same⟩
    · exact .inl (by simp [State.set,total,none])
    · exact .inr ⟨by simp [State.set,total,once,Nat.add_comm],w,cmd,rfl,by rw [before,unsent],same⟩
  | _ => exact .inl rfl

-- The command objects whose attempts count: those that may still be sent, and
-- those that go back to the queue with their new number.
def WorkerPc.counting : WorkerPc → Option DownlinkCommand
  | .ready cmd | .tenantLimit cmd | .limited cmd _ | .queueDownlink cmd | .hset cmd => some cmd
  | _ => none

theorem counting_held {pc : WorkerPc} (counting : pc.counting = some cmd) : pc.held = some cmd.id := by
  cases pc <;> simp_all [WorkerPc.counting,WorkerPc.held]

theorem unsent_counting {pc : WorkerPc} (unsent : pc.unsent = some cmd) : pc.counting = some cmd := by
  cases pc <;> simp_all [WorkerPc.unsent,WorkerPc.counting]

-- The ids whose number of attempts is the one in their hash.
def Waiting (s : State) (key : CmdId) : Prop :=
  key ∈ s.redis.pending ∨ (∃ p, (s.producers p).incoming = some key) ∨ (∃ w, s.workers w = .hgetall key) ∨
    ∃ w cmd, s.workers w = .rpush cmd ∧ cmd.id = key

theorem Waiting.uncounted (waiting : Waiting s key) (placed : Placed s) (single : Single s)
    (counting : (s.workers w).counting = some cmd) : cmd.id ≠ key := by
  rintro rfl
  have held := counting_held counting
  have at' : place s.events cmd.id = .held w := placed.sound.held w cmd.id held
  rcases waiting with pending | ⟨p,incoming⟩ | ⟨v,reading⟩ | ⟨v,other,pushing,same⟩
  · have queued : place s.events cmd.id = .queued := (placed.sound.queued cmd.id).mp pending
    rw [queued] at at'
    cases at'
  · have coming : place s.events cmd.id = .incoming p := (placed.sound.incoming p cmd.id).mp incoming
    rw [coming] at at'
    cases at'
  · have equal := single.alone v w cmd.id (.inl (by rw [reading]; rfl)) (.inl held)
    rw [← equal,reading] at counting
    cases counting
  · have equal := single.alone v w cmd.id (.inl (by rw [pushing,← same]; rfl)) (.inl held)
    rw [← equal,pushing] at counting
    cases counting

theorem step_pending (stepped : Stepped s action next) (member : key ∈ next.redis.pending) : Waiting s key := by
  cases stepped with
  | produce p uuid before produced =>
    cases produced with
    | lremFound | lremMissing => exact .inl (List.mem_of_mem_filter member)
    | expire => exact .inl (by simpa [State.put] using member)
    | rpush =>
      rcases List.mem_append.mp member with old | last
      · exact .inl old
      · cases List.mem_singleton.mp last
        exact .inr (.inl ⟨p,by rw [before]; rfl⟩)
    | _ => exact .inl member
  | work w reply before worked =>
    cases worked with
    | popped queue => exact .inl (queue ▸ List.mem_cons_of_mem _ member)
    | rpush =>
      rcases List.mem_append.mp member with old | last
      · exact .inl old
      · cases List.mem_singleton.mp last
        exact .inr (.inr (.inr ⟨w,_,before,rfl⟩))
    | _ => exact .inl member
  | _ => exact .inl member

theorem worked_fetched (worked : Worked r w pc next events later) (reading : later = .hgetall key) :
    key ∈ r.pending := by
  cases worked with
  | popped queue =>
    cases reading
    exact queue ▸ List.mem_cons_self
  | processed _ unsent => rw [reading] at unsent; cases unsent
  | failed =>
    have command := congrArg WorkerPc.command reading
    rw [failing_command] at command
    cases command
  | _ => cases reading

theorem step_fetched (stepped : Stepped s action next) (reading : next.workers w = .hgetall key) : Waiting s key := by
  cases step_worker stepped w with
  | same _ same => exact .inr (.inr (.inl ⟨w,same ▸ reading⟩))
  | worked reply events _ worked _ => exact .inl (worked_fetched worked reading)
  | succeeding cmd _ after => rw [after] at reading; cases reading
  | failing cmd error requeue _ _ after =>
    have command := congrArg WorkerPc.command (after.symm.trans reading)
    rw [failing_command] at command
    cases command
  | switched after => rcases after with after | after <;> rw [after] at reading <;> cases reading

theorem failing_not_pushing (pushing : failing old error requeue now = .rpush cmd) : False := by
  rcases failing_cases old error requeue now with same | same <;> rw [same] at pushing <;> cases pushing

theorem worked_pushing (worked : Worked r w pc next events later) (pushing : later = .rpush cmd) :
    pc = .hset cmd := by
  cases worked with
  | hset => cases pushing; rfl
  | processed _ unsent => rw [pushing] at unsent; cases unsent
  | failed => exact (failing_not_pushing pushing).elim
  | _ => cases pushing

theorem step_pushing (stepped : Stepped s action next) (pushing : next.workers w = .rpush cmd) :
    s.workers w = .rpush cmd ∨ ∃ reply, action = .work w reply ∧ s.workers w = .hset cmd := by
  cases step_worker stepped w with
  | same _ same => exact .inl (same ▸ pushing)
  | worked reply events equal worked _ => exact .inr ⟨reply,equal,worked_pushing worked pushing⟩
  | succeeding cmd _ after => rw [after] at pushing; cases pushing
  | failing cmd error requeue _ _ after => exact (failing_not_pushing (after.symm.trans pushing)).elim
  | switched after => rcases after with after | after <;> rw [after] at pushing <;> cases pushing

theorem step_making (stepped : Stepped s action next) (incoming : (next.producers p).incoming = some key) :
    (s.producers p).incoming = some key ∨ createdBy s.events key = none ∧ ∃ a, createdBy next.events key = some a := by
  cases stepped with
  | call q b _ =>
    by_cases same : p = q
    · subst p
      simp [State.put,EnqueuePc.incoming] at incoming
    · exact .inl (by simpa [State.put,same] using incoming)
  | produce q uuid before produced =>
    by_cases same : p = q
    · subst p
      simp only [State.put,Function.update_self] at incoming
      cases produced with
      | hset named fresh =>
        rename_i a
        cases incoming
        exact .inr ⟨by simpa using fresh,a,by simp [State.put,createdBy]⟩
      | expire => exact .inl (by rw [before]; exact incoming)
      | _ => cases incoming
    · exact .inl (by simpa [State.put,same] using incoming)
  | _ => exact .inl incoming

theorem step_waiting (stepped : Stepped s action next) (waiting : Waiting next key) :
    Waiting s key ∨ (createdBy s.events key = none ∧ ∃ a, createdBy next.events key = some a) ∨
      ∃ w reply cmd, action = .work w reply ∧ s.workers w = .hset cmd ∧ cmd.id = key := by
  rcases waiting with pending | ⟨p,incoming⟩ | ⟨w,reading⟩ | ⟨w,cmd,pushing,same⟩
  · exact .inl (step_pending stepped pending)
  · exact (step_making stepped incoming).imp (fun before => .inr (.inl ⟨p,before⟩)) .inl
  · exact .inl (step_fetched stepped reading)
  · rcases step_pushing stepped pushing with before | ⟨reply,equal,before⟩
    · exact .inl (.inr (.inr (.inr ⟨w,cmd,before,same⟩)))
    · exact .inr (.inr ⟨w,reply,cmd,equal,before,same⟩)

-- A relation between ids and numbers of attempts, and what a step makes of it:
-- only the id that the moving worker has in hand may change its number, and it
-- goes up by one when the worker marks it failed.
structure Tallied (s : State) (action : Action) (next : State) (fits later : CmdId → Int → Prop) : Prop where
  still : ∀ key, (∀ w cmd, action.worker = some w → (s.workers w).unsent = some cmd → cmd.id ≠ key) →
    ∀ n, fits key n → later key n
  passed : ∀ w cmd, action.worker = some w → (s.workers w).unsent = some cmd → (next.workers w).unsent = some cmd →
    next.events = s.events → fits cmd.id cmd.attempts → later cmd.id cmd.attempts
  failed : ∀ w cmd error requeue, action.worker = some w → (s.workers w).unsent = some cmd →
    next.workers w = failing cmd error requeue s.redis.clock → fits cmd.id cmd.attempts → later cmd.id (cmd.attempts+1)

-- The numbers of attempts that the queue keeps fit, and what goes back to the
-- queue has attempts left.
structure Fitting (fits : CmdId → Int → Prop) (s : State) : Prop where
  unknown : ∀ key, createdBy s.events key = none → fits key 0
  stored : ∀ key, Waiting s key → (s.redis.cmd key).present = true →
    ∃ n : Int, (s.redis.cmd key .attempts).elim (some 0) Decimal.read = some n ∧ fits key n ∧ n < maxAttempts
  counting : ∀ w cmd, (s.workers w).counting = some cmd → fits cmd.id cmd.attempts ∧ cmd.attempts < maxAttempts

theorem failing_counting (counting : (failing cmd error requeue now).counting = some later) :
    later = cmd.failed error now ∧ later.attempts < maxAttempts := by
  unfold failing at counting
  split at counting
  · cases counting
  · rename_i kept
    cases counting
    simp only [gaveUp,Bool.or_eq_true,decide_eq_true_eq,not_or,not_le] at kept
    exact ⟨rfl,kept.1⟩

theorem worked_counting (worked : Worked r w pc next events later) (counting : later.counting = some cmd) :
    pc.unsent = some cmd ∧ later.unsent = some cmd ∧ events = [] ∨
    (∃ old error, pc.unsent = some old ∧ later = failing old error true r.clock ∧ cmd = old.failed error r.clock ∧
      cmd.attempts < maxAttempts) ∨
    ∃ key, pc = .hgetall key ∧ (r.cmd key).present = true ∧ (r.cmd key).decode key r.clock = some cmd := by
  cases worked with
  | dequeued present decoded =>
    cases counting
    exact .inr (.inr ⟨_,rfl,present,decoded⟩)
  | processed before after =>
    rw [unsent_counting after] at counting
    cases counting
    exact .inl ⟨before,after,rfl⟩
  | failed unsent _ =>
    obtain ⟨same,left⟩ := failing_counting counting
    exact .inr (.inl ⟨_,_,unsent,rfl,same,left⟩)
  | _ => cases counting

section Tally

variable {fits later : CmdId → Int → Prop}

theorem Tallied.apart (tallied : Tallied s action next fits later) (single : Single s) (holds : (s.workers w).Holds key)
    (other : action.worker ≠ some w) (fit : fits key n) : later key n := by
  refine tallied.still key (fun v cmd mover unsent same => ?_) n fit
  subst same
  have equal := single.alone v w cmd.id (.inl (unsent_held unsent)) holds
  exact other (equal ▸ mover)

theorem Tallied.waiting (tallied : Tallied s action next fits later) (placed : Placed s) (single : Single s)
    (waiting : Waiting s key) (fit : fits key n) : later key n :=
  tallied.still key (fun _ _ _ unsent => waiting.uncounted placed single (unsent_counting unsent)) n fit

theorem Tallied.unknown (tallied : Tallied s action next fits later) (placed : Placed s)
    (missing : createdBy s.events key = none) (fit : fits key 0) : later key 0 := by
  refine tallied.still key (fun w cmd _ unsent same => ?_) 0 fit
  subst same
  have held : place s.events cmd.id = .held w := placed.sound.held w cmd.id (unsent_held unsent)
  rw [placed.unplaced cmd.id missing] at held
  cases held

theorem fitting_counting (fitting : Fitting fits s) (tallied : Tallied s action next fits later) (single : Single s)
    (placed : Placed s) (shaped : Shaped s) (stepped : Stepped s action next)
    (counting : (next.workers w).counting = some cmd) : later cmd.id cmd.attempts ∧ cmd.attempts < maxAttempts := by
  cases step_worker stepped w with
  | same other same =>
    rw [same] at counting
    obtain ⟨fit,left⟩ := fitting.counting w cmd counting
    exact ⟨tallied.apart single (.inl (counting_held counting)) other fit,left⟩
  | worked reply events mover worked log =>
    have moving : action.worker = some w := by rw [mover]; rfl
    rcases worked_counting worked counting with ⟨before,after,rfl⟩ | ⟨old,error,unsent,after,rfl,left⟩ |
      ⟨key,reading,present,decoded⟩
    · obtain ⟨fit,left⟩ := fitting.counting w cmd (unsent_counting before)
      exact ⟨tallied.passed w cmd moving before after log fit,left⟩
    · obtain ⟨fit,_⟩ := fitting.counting w old (unsent_counting unsent)
      exact ⟨tallied.failed w old error true moving unsent after fit,left⟩
    · have same := (shaped.decode decoded).1
      obtain ⟨_,_,_,_,_,_,_,_,attempts⟩ := decode_parts decoded
      have waiting : Waiting s key := .inr (.inr (.inl ⟨w,reading⟩))
      obtain ⟨n,read,fit,left⟩ := fitting.stored key waiting present
      rw [read] at attempts
      cases attempts
      rw [same]
      exact ⟨tallied.waiting placed single waiting fit,left⟩
  | succeeding cmd _ after => rw [after] at counting; cases counting
  | failing old error requeue before _ after =>
    have moving : action.worker = some w := by
      by_contra other
      have same := after.symm.trans (step_workers stepped other)
      rcases failing_cases old error requeue s.redis.clock with shape | shape <;> rw [shape,before] at same <;> cases same
    rw [after] at counting
    obtain ⟨rfl,left⟩ := failing_counting counting
    have unsent : (s.workers w).unsent = some old := by rw [before]; rfl
    obtain ⟨fit,_⟩ := fitting.counting w old (unsent_counting unsent)
    exact ⟨tallied.failed w old error requeue moving unsent after fit,left⟩
  | switched after => rcases after with after | after <;> rw [after] at counting <;> cases counting

theorem step_retry (stepped : Stepped s (.work w reply) next) (before : s.workers w = .hset cmd) :
    next.redis.cmd cmd.id = (s.redis.cmd cmd.id).hset cmd.retryMapping := by
  cases stepped with
  | work _ _ at' worked =>
    cases at'.symm.trans before
    cases worked with
    | hset => simp [State.set,Redis.hset]
    | processed unsent _ => cases unsent
    | failed unsent _ => cases unsent

theorem fitting_stored (fitting : Fitting fits s) (tallied : Tallied s action next fits later) (single : Single s)
    (placed : Placed s) (stepped : Stepped s action next) (waiting : Waiting next key)
    (present : (next.redis.cmd key).present = true) :
    ∃ n : Int, (next.redis.cmd key .attempts).elim (some 0) Decimal.read = some n ∧ later key n ∧ n < maxAttempts := by
  have gone : next.redis.cmd key ≠ .absent := by
    intro absent
    rw [absent] at present
    cases present
  have started : ∀ {a now}, createdBy s.events key = none →
      next.redis.cmd key = (s.redis.cmd key).hset (EnqueueArgs.command a key now).mapping →
      ∃ n : Int, (next.redis.cmd key .attempts).elim (some 0) Decimal.read = some n ∧ later key n ∧ n < maxAttempts := by
    intro a now missing set
    rw [set]
    exact ⟨0,by simp [CmdHash.hset,DownlinkCommand.mapping,EnqueueArgs.command],
      tallied.unknown placed missing (fitting.unknown key missing),by decide⟩
  rcases step_waiting stepped waiting with old | ⟨missing,a,created⟩ | ⟨w,reply,cmd,rfl,before,rfl⟩
  · cases step_cmd stepped key with
    | same same =>
      rw [same] at present ⊢
      obtain ⟨n,read,fit,left⟩ := fitting.stored key old present
      exact ⟨n,read,tallied.waiting placed single old fit,left⟩
    | deleted _ _ _ _ absent | cleaned _ _ _ _ absent | expired _ _ _ absent => exact absurd absent gone
    | enqueued a missing _ set => exact started missing set
    | retried w reply cmd _ before same _ =>
      have counting : (s.workers w).counting = some cmd := by rw [before]; rfl
      exact absurd same (old.uncounted placed single counting)
  · cases step_created stepped key with
    | same same =>
      rw [same,missing] at created
      cases created
    | created _ _ _ _ _ _ _ set => exact started missing set
  · have counting : (s.workers w).counting = some cmd := by rw [before]; rfl
    have unsent : (s.workers w).unsent = none := by rw [before]; rfl
    obtain ⟨fit,left⟩ := fitting.counting w cmd counting
    rw [step_retry stepped before]
    refine ⟨cmd.attempts,Decimal.read_toString _,tallied.still cmd.id (fun v old mover holds _ => ?_) _ fit,left⟩
    cases mover
    rw [unsent] at holds
    cases holds

theorem fitting_preserved (fitting : Fitting fits s) (tallied : Tallied s action next fits later) (single : Single s)
    (placed : Placed s) (shaped : Shaped s) (stepped : Stepped s action next) : Fitting later next := by
  refine ⟨?_,fun key => fitting_stored fitting tallied single placed stepped,
    fun w cmd => fitting_counting fitting tallied single placed shaped stepped⟩
  intro key missing
  have before : createdBy s.events key = none := by
    cases step_created stepped key with
    | same same => rw [← same,missing]
    | created _ _ _ unmade => exact unmade
  exact tallied.unknown placed before (fitting.unknown key before)

end Tally

-- The number of attempts is never behind the number of times the command was
-- handed over, and what goes back to the queue has attempts left.
structure Counted (s : State) : Prop where
  unknown : ∀ key, createdBy s.events key = none → handings s.events key = 0
  stored : ∀ key, Waiting s key → (s.redis.cmd key).present = true →
    ∃ n : Int, (s.redis.cmd key .attempts).elim (some 0) Decimal.read = some n ∧
      (handings s.events key : Int) ≤ n ∧ n < maxAttempts
  counting : ∀ w cmd, (s.workers w).counting = some cmd →
    (handings s.events cmd.id : Int) ≤ cmd.attempts ∧ cmd.attempts < maxAttempts
  bound : ∀ key, (handings s.events key : Int) ≤ maxAttempts

theorem initial_counted : Counted State.initial := by
  refine ⟨fun _ _ => rfl,?_,?_,?_⟩
  · intro key _ present
    cases present
  · intro w cmd counting
    cases counting
  · intro key
    simp [handings,State.initial,maxAttempts]

def NotBehind (s : State) (key : CmdId) (n : Int) : Prop := (handings s.events key : Int) ≤ n

theorem counted_exact (bound : ∀ key, (handings s.events key : Int) ≤ maxAttempts) :
    Counted s ↔ Fitting (NotBehind s) s := by
  have none (key : CmdId) : handings s.events key = 0 ↔ NotBehind s key 0 := by
    unfold NotBehind
    omega
  constructor
  · intro counted
    exact ⟨fun key missing => (none key).mp (counted.unknown key missing),counted.stored,counted.counting⟩
  · intro fitting
    exact ⟨fun key missing => (none key).mpr (fitting.unknown key missing),fitting.stored,fitting.counting,bound⟩

theorem handings_tallied (stepped : Stepped s action next) : Tallied s action next (NotBehind s) (NotBehind next) where
  still := by
    intro key apart n fit
    unfold NotBehind
    rcases step_handings stepped key with same | ⟨_,w,cmd,mover,unsent,same⟩
    · rwa [same]
    · exact absurd same (apart w cmd mover unsent)
  passed := by
    intro w cmd _ _ _ log fit
    unfold NotBehind
    rwa [log]
  failed := by
    intro w cmd error requeue _ _ _ fit
    unfold NotBehind at fit ⊢
    rcases step_handings stepped cmd.id with same | ⟨once,_⟩ <;> omega

theorem counted_bound (counted : Counted s) (stepped : Stepped s action next) (key : CmdId) :
    (handings next.events key : Int) ≤ maxAttempts := by
  rcases step_handings stepped key with same | ⟨once,w,cmd,_,unsent,rfl⟩
  · rw [same]
    exact counted.bound key
  · obtain ⟨tried,left⟩ := counted.counting w cmd (unsent_counting unsent)
    rw [once]
    omega

theorem counted_preserved (counted : Counted s) (single : Single s) (placed : Placed s) (shaped : Shaped s)
    (stepped : Stepped s action next) : Counted next := by
  have fitting : Fitting (NotBehind s) s := (counted_exact counted.bound).mp counted
  have bound := counted_bound counted stepped
  exact (counted_exact bound).mpr (fitting_preserved fitting (handings_tallied stepped) single placed shaped stepped)

theorem reached_counted (path : Runs.Reached step meets State.initial s) : Counted s :=
  path.invariantUnder (fun s => Single s ∧ Placed s ∧ Shaped s) Counted
    (fun prior => ⟨reached_single prior,reached_placed prior,reached_shaped prior⟩) initial_counted
    fun known counted _ ran => counted_preserved counted known.1 known.2.1 known.2.2 (step_sound ran)


-- What a step adds to the log, each entry with its cause. Only one entry of a
-- step moves an id, and it is the oldest one.
theorem step_news (stepped : Stepped s action next) :
    ∃ news, next.events = news ++ s.events ∧ (∀ e ∈ news, Cause s e) ∧
      news.Pairwise fun _ older => older.moves = none := by
  cases stepped with
  | call p a _ => exact ⟨[.called a],rfl,fun e member => List.mem_singleton.mp member ▸ trivial,List.pairwise_singleton ..⟩
  | produce p uuid before produced =>
    refine ⟨_,rfl,fun e => produced_cause before produced,?_⟩
    cases produced <;> simp
  | work w reply before worked =>
    refine ⟨_,rfl,fun e => worked_cause before worked,?_⟩
    cases worked with
    | failed _ logged => rcases logged with rfl | rfl <;> simp
    | _ => simp [Event.moves]
  | _ => exact ⟨[],rfl,List.forall_mem_nil _,.nil⟩

theorem handed_place (placed : Placed s) (cause : Cause s (.handed cmd)) : ∃ w, place s.events cmd.id = .held w := by
  obtain ⟨w,unsent⟩ := cause
  exact ⟨w,placed.sound.held w cmd.id (unsent_held unsent)⟩

theorem deadLettered_place (placed : Placed s) (cause : Cause s (.deadLettered cmd)) :
    ∃ w, place s.events cmd.id = .held w := by
  obtain ⟨w,before⟩ := cause
  exact ⟨w,placed.sound.held w cmd.id (by simp [State.custody,before,WorkerPc.held])⟩

-- Nothing is handed over after an entry that settles its id. The log is newest
-- first.
def Spent (s : State) : Prop :=
  s.events.Pairwise fun newer older => ∀ cmd reached, newer = .handed cmd →
    older.moves = some (cmd.id,reached) → ¬reached.Final

theorem spent_preserved (spent : Spent s) (placed : Placed s) (lasting : Lasting s) (stepped : Stepped s action next) :
    Spent next := by
  obtain ⟨news,log,cause,order⟩ := step_news stepped
  unfold Spent
  rw [log]
  refine List.pairwise_append.mpr ⟨order.imp ?_,spent,?_⟩
  · intro newer older still cmd reached _ moves
    rw [still] at moves
    cases moves
  · rintro newer recent older earlier cmd reached rfl moves final
    obtain ⟨w,held⟩ := handed_place placed (cause _ recent)
    rw [lasting older earlier cmd.id reached moves final] at held
    exact Custody.final_ne_held final w held

theorem reached_spent (path : Runs.Reached step meets State.initial s) : Spent s :=
  path.invariantUnder (fun s => Placed s ∧ Lasting s) Spent (fun prior => ⟨reached_placed prior,reached_lasting prior⟩)
    .nil fun known spent _ ran => spent_preserved spent known.1 known.2 (step_sound ran)

def Redis.deadIds (r : Redis) : List CmdId := r.dead.map (·.command.id)

theorem deadIds_preserved (distinct : s.redis.deadIds.Nodup) (placed : Placed s) (lasting : Lasting s)
    (buried : Buried s) (stepped : Stepped s action next) : next.redis.deadIds.Nodup := by
  cases step_dead stepped with
  | same dead _ =>
    unfold Redis.deadIds
    rwa [dead]
  | added cmd dead log =>
    obtain ⟨news,recent,cause,_⟩ := step_news stepped
    have only : news = [.deadLettered cmd] := List.append_cancel_right (recent.symm.trans log)
    subst only
    obtain ⟨w,held⟩ := deadLettered_place placed (cause _ List.mem_cons_self)
    have fresh : cmd.id ∉ s.redis.deadIds := by
      intro member
      obtain ⟨letter,found,same⟩ := List.mem_map.mp member
      have logged := (buried letter.command).mpr ⟨letter,found,rfl⟩
      rw [← same,lasting _ logged letter.command.id .buried rfl (.inr (.inl rfl))] at held
      cases held
    unfold Redis.deadIds
    rw [dead,List.map_append]
    refine List.nodup_append.mpr ⟨distinct,List.nodup_singleton _,?_⟩
    rintro one member two last rfl
    have same : one = cmd.id := List.mem_singleton.mp last
    exact fresh (same ▸ member)

theorem reached_deadIds (path : Runs.Reached step meets State.initial s) : s.redis.deadIds.Nodup :=
  path.invariantUnder (fun s => Placed s ∧ Lasting s ∧ Buried s) (fun s => s.redis.deadIds.Nodup)
    (fun prior => ⟨reached_placed prior,reached_lasting prior,reached_buried prior⟩) List.nodup_nil
    fun known distinct _ ran => deadIds_preserved distinct known.1 known.2.1 known.2.2 (step_sound ran)

theorem one_holder (single : Single s) (placed : Placed s) (key : CmdId) :
    (s.redis.pending.count key : ℕ∞)+{w | (s.workers w).Holds key}.encard ≤ 1 := by
  have once : s.redis.pending.count key ≤ 1 := List.nodup_iff_count_le_one.mp placed.sound.nodup key
  by_cases pending : key ∈ s.redis.pending
  · have nobody : {w | (s.workers w).Holds key} = ∅ := by
      rw [Set.eq_empty_iff_forall_notMem]
      intro w holds
      exact single.unqueued placed holds pending
    rw [nobody,Set.encard_empty,add_zero]
    exact_mod_cast once
  · rw [List.count_eq_zero_of_not_mem pending,Nat.cast_zero,zero_add,Set.encard_le_one_iff]
    intro v w one two
    exact single.alone v w key one two

-- A command id never has two holders, is handed to `queue_downlink` at most
-- `maxAttempts` times and dead-lettered at most once, and is never handed over
-- again once it was dead-lettered or marked successful.
theorem bounded_retries (path : Runs.Reached step (fun _ _ => True) State.initial s) (key : CmdId) :
    (s.redis.pending.count key : ℕ∞)+{w | (s.workers w).Holds key}.encard ≤ 1 ∧
    (handings s.events key : Int) ≤ maxAttempts ∧ s.redis.deadIds.count key ≤ 1 ∧
    ∀ later earlier, s.events = later ++ earlier →
      (∃ cmd, cmd.id = key ∧ (.deadLettered cmd ∈ earlier ∨ .succeeded cmd ∈ earlier)) →
      ∀ cmd, .handed cmd ∈ later → cmd.id ≠ key := by
  refine ⟨one_holder (reached_single path) (reached_placed path) key,(reached_counted path).bound key,
    List.nodup_iff_count_le_one.mp (reached_deadIds path) key,?_⟩
  rintro later earlier log ⟨settled,rfl,member⟩ cmd handed same
  have spent := reached_spent path
  unfold Spent at spent
  rw [log] at spent
  have order := (List.pairwise_append.mp spent).2.2 (.handed cmd) handed
  rcases member with dead | success
  · exact order _ dead cmd .buried rfl (by rw [same]; rfl) (.inr (.inl rfl))
  · exact order _ success cmd .finished rfl (by rw [same]; rfl) (.inl rfl)

-- One attempt from the pop to the counter of retries, the send refused.
def attempt : List Reply := [.ok,.ok,.ok,.refused "timeout",.ok,.ok,.ok]

-- Five refusals use the attempts up, and the worker finds nothing more to send.
theorem bounded_retries_exhausted : ∃ s : State, handings s.events "A" = 5 ∧ s.redis.deadIds = ["A"] ∧
    ((s.redis.pending.count "A" : ℕ∞)+{w | (s.workers w).Holds "A"}.encard ≤ 1 ∧
    (handings s.events "A" : Int) ≤ maxAttempts ∧ s.redis.deadIds.count "A" ≤ 1 ∧
    ∀ later earlier, s.events = later ++ earlier →
      (∃ cmd, cmd.id = "A" ∧ (.deadLettered cmd ∈ earlier ∨ .succeeded cmd ∈ earlier)) →
      ∀ cmd, .handed cmd ∈ later → cmd.id ≠ "A") := by
  have start : Runs.Reached step (fun _ _ => True) State.initial State.initial := .refl
  obtain ⟨s,path,five,dead⟩ := start.found (fun _ _ => true)
    (fun s => handings s.events "A" = 5 ∧ s.redis.deadIds = ["A"])
    (calling 0 free "A" 7 ++ .start 0::working (attempt ++ attempt ++ attempt ++ attempt ++ attempt ++ [.ok,.ok]))
    (fun _ _ => trivial) (by decide +kernel)
  exact ⟨s,five,dead,bounded_retries path "A"⟩

end SmartParking.Downlink
