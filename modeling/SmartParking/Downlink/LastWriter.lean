import SmartParking.Downlink.Durable
import SmartParking.Downlink.Coalescing

namespace SmartParking.Downlink
open Lib

def lastSent : List Event → DeviceEui → Option (String × Int)
  | [],_ => none
  | .sent cmd::earlier,device => if cmd.deviceEui = device then some cmd.content else lastSent earlier device
  | _::earlier,device => lastSent earlier device

def lastCalled : List Event → DeviceEui → Option (String × Int)
  | [],_ => none
  | .called a::earlier,device => if a.deviceEui = device then some a.content else lastCalled earlier device
  | _::earlier,device => lastCalled earlier device

-- Enqueue calls by any number of producers, the steps of one worker, no expiry.
def Scope (s : State) : Action → Prop
  | .call _ _ | .produce _ _ => True
  | .work w _ | .start w => w = 0
  | .tick now => s.redis.NoneExpires now
  | _ => False

-- The condition on the calls for one device. A call starts after the previous
-- one has returned and shares its digest with no call of other content; it is a
-- duplicate of the last command sent only while nothing else is due; and the
-- coalesce key it reads names what is due.
def Ordered (device : DeviceEui) (s : State) : Action → Prop
  | .call _ a => a.deviceEui = device →
      (∀ p b, (s.producers p).args = some b → b.deviceEui ≠ device) ∧
      ∀ b, .called b ∈ s.events → b.deviceEui = device → b.contentHash = a.contentHash → b.content = a.content
  | .produce p _ =>
      (∀ a, s.producers p = .getLastHash a → a.deviceEui = device → s.redis.lastHash device = some a.contentHash →
        ∀ id b, Live s device id → createdBy s.events id = some b → b.content = a.content) ∧
      ∀ a, s.producers p = .getCoalesce a → a.deviceEui = device →
        ∀ id, Live s device id → s.redis.coalesce device = some id
  | _ => True

-- Nothing of the device is under way and none of its commands was given up.
structure Quiet (device : DeviceEui) (s : State) : Prop where
  calls : ∀ p a, (s.producers p).args = some a → a.deviceEui ≠ device
  commands : ∀ id a, createdBy s.events id = some a → a.deviceEui = device →
    id ∉ s.redis.pending ∧ ∀ w, (s.workers w).held ≠ some id
  dead : ∀ letter ∈ s.redis.dead, ∀ a, createdBy s.events letter.command.id = some a → a.deviceEui ≠ device

def Steady (device : DeviceEui) (s : State) (action : Action) : Prop := Scope s action ∧ Ordered device s action

theorem scope_alone (scope : Scope s action) (other : w ≠ 0) : action.worker ≠ some w := by
  intro same
  cases action with
  | work v reply | start v =>
    cases same
    exact other scope
  | markSuccess v | markFailure v error requeue | stop v => exact scope
  | call p a | produce p uuid | tick now => cases same

theorem steady_stopped (path : Runs.Reached step (Steady device) State.initial s) (other : w ≠ 0) :
    s.workers w = .stopped :=
  reached_stopped path fun _ _ steady => scope_alone steady.1 other

structure Called (s : State) : Prop where
  calling : ∀ p a, (s.producers p).args = some a → .called a ∈ s.events
  created : ∀ id a, createdBy s.events id = some a → .called a ∈ s.events

theorem step_called (stepped : Stepped s action next) (member : .called a ∈ next.events) :
    .called a ∈ s.events ∨ ∃ p, action = .call p a := by
  cases stepped with
  | call p b _ =>
    rcases List.mem_cons.mp member with equal | old
    · cases equal
      exact .inr ⟨p,rfl⟩
    · exact .inl old
  | produce p uuid _ produced => cases produced <;> exact .inl (by simpa [State.put] using member)
  | work w reply _ worked =>
    cases worked with
    | failed _ logged => rcases logged with rfl | rfl <;> exact .inl (by simpa [State.set] using member)
    | _ => exact .inl (by simpa [State.set] using member)
  | _ => exact .inl member

theorem call_logged (stepped : Stepped s (.call p a) next) : next.events = .called a::s.events := by
  cases stepped
  rfl

theorem called_preserved (called : Called s) (stepped : Stepped s action next) : Called next := by
  constructor
  · intro p a of
    rcases step_args stepped of with old | rfl
    · exact step_keeps_events stepped (called.calling p a old)
    · rw [call_logged stepped]
      exact List.mem_cons_self
  · intro id a created
    cases step_created stepped id with
    | same same => exact step_keeps_events stepped (called.created id a (by rw [← same,created]))
    | created p b _ _ now before _ _ =>
      rw [created] at now
      cases now
      exact step_keeps_events stepped (called.calling p a (by rw [before]; rfl))

theorem reached_called (path : Runs.Reached step meets State.initial s) : Called s :=
  path.invariant Called ⟨fun _ _ of => (by cases of),fun _ _ of => (by cases of)⟩ fun called _ ran => called_preserved called (step_sound ran)

-- Calls for the device are made one after the other, and their digests tell
-- their contents apart.
structure InTurn (device : DeviceEui) (s : State) : Prop where
  alone : ∀ p q a b, (s.producers p).args = some a → a.deviceEui = device → (s.producers q).args = some b →
    b.deviceEui = device → p = q
  distinct : ∀ a b, .called a ∈ s.events → a.deviceEui = device → .called b ∈ s.events → b.deviceEui = device →
    a.contentHash = b.contentHash → a.content = b.content

theorem inTurn_preserved (inTurn : InTurn device s) (ordered : Ordered device s action)
    (stepped : Stepped s action next) : InTurn device next := by
  constructor
  · intro p q a b one oneOf other otherOf
    rcases step_args stepped one with old | rfl <;> rcases step_args stepped other with prior | equal
    · exact inTurn.alone p q a b old oneOf prior otherOf
    · subst equal
      exact absurd oneOf ((ordered otherOf).1 p a old)
    · exact absurd otherOf ((ordered oneOf).1 q b prior)
    · cases equal
      rfl
  · intro a b one oneOf other otherOf same
    rcases step_called stepped one with old | ⟨p,rfl⟩ <;> rcases step_called stepped other with prior | ⟨q,equal⟩
    · exact inTurn.distinct a b old oneOf prior otherOf same
    · subst equal
      exact (ordered otherOf).2 a old oneOf same
    · exact ((ordered oneOf).2 b prior otherOf same.symm).symm
    · cases equal
      rfl

theorem steady_inTurn (path : Runs.Reached step (Steady device) State.initial s) : InTurn device s := by
  refine path.invariant (InTurn device) ⟨?_,?_⟩ fun inTurn steady ran =>
    inTurn_preserved inTurn steady.2 (step_sound ran)
  · intro p q a b of
    cases of
  · intro a b member
    exact absurd member List.not_mem_nil

theorem critical_args {pc : EnqueuePc} (critical : pc.critical = some device) :
    ∃ a, pc.args = some a ∧ a.deviceEui = device := by
  cases pc <;> first | exact ⟨_,rfl,Option.some.inj critical⟩ | cases critical

theorem steady_tracked (path : Runs.Reached step (Steady device) State.initial s)
    (steady : Steady device s action) : Tracked device s action := by
  have inTurn := steady_inTurn path
  cases action with
  | produce p uuid =>
    intro a before of
    refine ⟨?_,steady.2.2 a before of⟩
    intro q other critical
    obtain ⟨b,args,same⟩ := critical_args critical
    exact other (inTurn.alone q p b a args same (by rw [before]; rfl) of)
  | _ => trivial

theorem steady_coalesced (path : Runs.Reached step (Steady device) State.initial s) : Coalesced device s :=
  reached_coalesced (path.meeting steady_tracked)

-- A command object that tells less than its call belongs to a hash that has
-- lost its fields, and stays so.
def Bared (s : State) : Prop := ∀ w cmd, (s.workers w).command = some cmd → (s.workers w).held = some cmd.id →
  (∃ a, createdBy s.events cmd.id = some a ∧ Carries cmd a) ∨ Bare (s.redis.cmd cmd.id)

theorem step_bare (placed : Placed s) (stepped : Stepped s action next) (known : place s.events key ≠ .nowhere)
    (bare : Bare (s.redis.cmd key)) : Bare (next.redis.cmd key) := by
  cases step_cmd stepped key with
  | same same => rwa [same]
  | deleted _ _ _ _ gone | cleaned _ _ _ _ gone | expired _ _ _ gone => rw [gone]; exact bare_absent
  | enqueued a fresh _ _ => exact absurd (placed.unplaced key fresh) known
  | retried w reply cmd _ _ _ set => rw [set]; exact bare.retry cmd

theorem bared_kept (bared : Bared s) (placed : Placed s) (stepped : Stepped s action next)
    (carried : (s.workers w).command = some cmd) (held : (s.workers w).held = some cmd.id) :
    (∃ a, createdBy next.events cmd.id = some a ∧ Carries cmd a) ∨ Bare (next.redis.cmd cmd.id) := by
  have known : place s.events cmd.id ≠ .nowhere := placed.sound.has_known (.inr ⟨w,held⟩)
  rcases bared w cmd carried held with ⟨a,created,carries⟩ | bare
  · exact .inl ⟨a,step_keeps_created stepped created,carries⟩
  · exact .inr (step_bare placed stepped known bare)

theorem bared_preserved (bared : Bared s) (placed : Placed s) (shaped : Shaped s) (scope : Scope s action)
    (stepped : Stepped s action next) : Bared next := by
  intro v cmd carried held
  have kept : ∀ {old}, (s.workers v).command = some old → (s.workers v).held = some old.id →
      (∃ a, createdBy next.events old.id = some a ∧ Carries old a) ∨ Bare (next.redis.cmd old.id) :=
    fun was has => bared_kept bared placed stepped was has
  cases stepped with
  | call | produce | tick => exact kept carried held
  | start w before =>
    by_cases same : v = w
    · subst v
      simp [State.set,WorkerPc.command] at carried
    · exact kept (by simpa [State.set,same] using carried) (by simpa [State.set,same] using held)
  | work w reply before worked =>
    by_cases same : v = w
    · subst v
      simp only [State.set,Function.update_self] at carried held
      cases worked with
      | dequeued present decoded =>
        rename_i key old
        cases carried
        rcases shaped.origin key with ⟨a,created,genuine⟩ | bare
        · obtain ⟨equal,carries⟩ := genuine.decode decoded
          exact .inl ⟨a,by simpa [State.set,createdBy,equal] using created,carries⟩
        · rw [(bare.decode decoded).1]
          exact .inr bare
      | processed unsent later =>
        rw [unsent_command later] at carried
        cases carried
        exact kept (by rw [before,unsent_command unsent]) (by rw [before,unsent_held unsent])
      | failed unsent logged =>
        rename_i old _ _
        rw [failing_command] at carried
        cases carried
        rcases kept (by rw [before,unsent_command unsent]) (by rw [before,unsent_held unsent]) with
          ⟨a,created,carries⟩ | bare
        · exact .inl ⟨a,created,carries.failed _ _⟩
        · exact .inr bare
      | sent | hset =>
        cases carried
        exact kept (by rw [before]; rfl) (by rw [before]; rfl)
      | popped => cases carried
      | _ => cases held
    · exact kept (by simpa [State.set,same] using carried) (by simpa [State.set,same] using held)
  | markSuccess | markFailure | stop => exact scope.elim

theorem steady_bared (path : Runs.Reached step (Steady device) State.initial s) : Bared s := by
  refine path.invariantUnder (fun s => Placed s ∧ Shaped s) Bared
    (fun prior => ⟨reached_placed prior,reached_shaped prior⟩) ?_ fun known bared steady ran =>
    bared_preserved bared known.1 known.2 steady.1 (step_sound ran)
  intro w cmd carried
  cases carried

def WorkerPc.recording : WorkerPc → Option DownlinkCommand
  | .setLastHash cmd => some cmd
  | _ => none

def WorkerPc.sending : WorkerPc → Option DownlinkCommand
  | .ready cmd | .tenantLimit cmd | .limited cmd _ | .queueDownlink cmd | .setLastHash cmd => some cmd
  | _ => none

theorem unsent_recording {pc : WorkerPc} (unsent : pc.unsent = some cmd) : pc.recording = none := by
  cases pc <;> first | rfl | cases unsent

theorem unsent_sending {pc : WorkerPc} (unsent : pc.unsent = some cmd) : pc.sending = some cmd := by
  cases pc <;> first | exact unsent | cases unsent

theorem failing_recording (cmd : DownlinkCommand) (error : String) (requeue : Bool) (now : Time) :
    (failing cmd error requeue now).recording = none := by
  rcases failing_cases cmd error requeue now with same | same <;> rw [same] <;> rfl

theorem failing_sending (cmd : DownlinkCommand) (error : String) (requeue : Bool) (now : Time) :
    (failing cmd error requeue now).sending = none := by
  rcases failing_cases cmd error requeue now with same | same <;> rw [same] <;> rfl

-- The digest kept for the device is that of the last command sent, except while
-- a send is being recorded.
structure Hashed (device : DeviceEui) (s : State) : Prop where
  recording : ∀ cmd, (s.workers 0).recording = some cmd → cmd.deviceEui = device →
    lastSent s.events device = some cmd.content
  recorded : (∀ cmd, (s.workers 0).recording = some cmd → cmd.deviceEui ≠ device) →
    s.redis.lastHash device = (lastSent s.events device).map fun c => computeContentHash device c.1 c.2
  called : ∀ c, lastSent s.events device = some c → ∃ a, .called a ∈ s.events ∧ a.deviceEui = device ∧ a.content = c

theorem hashed_same (hashed : Hashed device s) (stepped : Stepped s action next)
    (recording : (next.workers 0).recording = (s.workers 0).recording)
    (sent : lastSent next.events device = lastSent s.events device)
    (hash : next.redis.lastHash device = s.redis.lastHash device) : Hashed device next := by
  constructor
  · rw [recording,sent]
    exact hashed.recording
  · rw [recording,sent,hash]
    exact hashed.recorded
  · intro c last
    obtain ⟨a,member,of,same⟩ := hashed.called c (sent ▸ last)
    exact ⟨a,step_keeps_events stepped member,of,same⟩

theorem advance_lastHash {r : Redis} (kept : r.NoneExpires now) : (r.advance now).lastHash = r.lastHash :=
  (congrArg Redis.lastHash kept).trans rfl

theorem carried_named (carried : Carried s) (named : device ≠ "") (holds : (s.workers w).command = some cmd)
    (of : cmd.deviceEui = device) : ∃ a, createdBy s.events cmd.id = some a ∧ Carries cmd a := by
  rcases carried w cmd holds with found | empty
  · exact found
  · rw [of] at empty
    exact absurd empty named

theorem Carries.content (carries : Carries cmd a) : cmd.content = a.content := by
  simp [DownlinkCommand.content,EnqueueArgs.content,carries.payload,carries.fport]

theorem Carries.digest (carries : Carries cmd a) :
    cmd.contentHash = computeContentHash cmd.deviceEui cmd.content.1 cmd.content.2 := by
  rw [carries.contentHash,carries.content,carries.deviceEui]
  rfl

theorem hashed_sent (hashed : Hashed device s) (called : Called s) (before : s.workers 0 = .queueDownlink cmd)
    (carries : cmd.deviceEui = device → ∃ a, createdBy s.events cmd.id = some a ∧ Carries cmd a) :
    Hashed device (s.set 0 (s.redis,[.sent cmd,.handed cmd],.setLastHash cmd)) := by
  have recording : ((s.set 0 (s.redis,[.sent cmd,.handed cmd],.setLastHash cmd)).workers 0).recording = some cmd := by
    simp [State.set,WorkerPc.recording]
  by_cases of : cmd.deviceEui = device
  · have last : lastSent (.sent cmd::.handed cmd::s.events) device = some cmd.content := by simp [lastSent,of]
    refine ⟨?_,?_,?_⟩
    · intro other found _
      cases Option.some.inj (recording.symm.trans found)
      exact last
    · intro elsewhere
      exact absurd of (elsewhere cmd recording)
    · intro c found
      have equal : cmd.content = c := Option.some.inj (last.symm.trans found)
      obtain ⟨a,created,carries⟩ := carries of
      refine ⟨a,List.mem_append_right _ (called.created cmd.id a created),?_,?_⟩
      · rw [← carries.deviceEui,of]
      · rw [← carries.content,equal]
  · have last : lastSent (.sent cmd::.handed cmd::s.events) device = lastSent s.events device := by
      simp [lastSent,of]
    refine ⟨?_,?_,?_⟩
    · intro other found same
      cases Option.some.inj (recording.symm.trans found)
      exact absurd same of
    · intro _
      refine (hashed.recorded ?_).trans (congrArg (Option.map _) last.symm)
      intro other found
      rw [before] at found
      cases found
    · intro c found
      obtain ⟨a,member,rest⟩ := hashed.called c (last ▸ found)
      exact ⟨a,List.mem_append_right _ member,rest⟩

theorem hashed_recorded (hashed : Hashed device s) (before : s.workers 0 = .setLastHash cmd)
    (carries : cmd.deviceEui = device → ∃ a, createdBy s.events cmd.id = some a ∧ Carries cmd a) :
    Hashed device (s.set 0 (s.redis.setLastHash cmd.deviceEui cmd.contentHash,[.succeeded cmd],.deleteCmd cmd)) := by
  refine ⟨?_,?_,?_⟩
  · intro other recording
    simp [State.set,WorkerPc.recording] at recording
  · intro _
    by_cases of : cmd.deviceEui = device
    · have last := hashed.recording cmd (by rw [before]; rfl) of
      obtain ⟨a,_,carries⟩ := carries of
      have digest := carries.digest
      simp only [State.set,Redis.setLastHash,of,Function.update_self,List.cons_append,List.nil_append,lastSent,last]
      rw [digest,of]
      rfl
    · have kept := hashed.recorded (by
        intro other recording
        rw [before] at recording
        cases recording
        exact of)
      simpa [State.set,Redis.setLastHash,Function.update_of_ne (Ne.symm of),lastSent] using kept
  · intro c found
    obtain ⟨a,member,rest⟩ := hashed.called c found
    exact ⟨a,List.mem_append_right _ member,rest⟩

theorem hashed_preserved (hashed : Hashed device s) (named : device ≠ "") (carried : Carried s) (called : Called s)
    (scope : Scope s action) (stepped : Stepped s action next) : Hashed device next := by
  have whole := stepped
  cases stepped with
  | call p a _ => exact hashed_same hashed whole rfl rfl rfl
  | produce p uuid _ produced =>
    cases produced with
    | expire => exact hashed_same hashed whole rfl rfl (congrFun (Redis.expire_lastHash _ _) device)
    | _ => exact hashed_same hashed whole rfl rfl rfl
  | tick now _ => exact hashed_same hashed whole rfl rfl (congrFun (advance_lastHash scope) device)
  | start w before =>
    cases scope
    exact hashed_same hashed whole (by simp [State.set,before,WorkerPc.recording]) rfl rfl
  | markSuccess | markFailure | stop => exact scope.elim
  | work w reply before worked =>
    cases scope
    have carries : ∀ {cmd}, (s.workers 0).command = some cmd → cmd.deviceEui = device →
        ∃ a, createdBy s.events cmd.id = some a ∧ Carries cmd a := carried_named carried named
    cases worked with
    | sent => exact hashed_sent hashed called before (carries (by rw [before]; rfl))
    | setLastHash => exact hashed_recorded hashed before (carries (by rw [before]; rfl))
    | processed unsent later =>
      refine hashed_same hashed whole ?_ rfl rfl
      simp [State.set,before,unsent_recording unsent,unsent_recording later]
    | failed unsent logged =>
      refine hashed_same hashed whole ?_ ?_ rfl
      · simp [State.set,before,unsent_recording unsent,failing_recording]
      · rcases logged with rfl | rfl <;> rfl
    | _ => exact hashed_same hashed whole (by simp [State.set,before,WorkerPc.recording]) rfl rfl

theorem steady_hashed (path : Runs.Reached step (Steady device) State.initial s) (named : device ≠ "") :
    Hashed device s := by
  refine path.invariantUnder (fun s => Carried s ∧ Called s) (Hashed device)
    (fun prior => ⟨reached_carried prior,reached_called prior⟩) ?_ fun known hashed steady ran =>
    hashed_preserved hashed named known.1 known.2 steady.1 (step_sound ran)
  refine ⟨?_,fun _ => rfl,?_⟩
  · intro cmd recording
    cases recording
  · intro c found
    cases found

-- What a call for the device has stored stays whole until it is pushed: only
-- another call for the device could delete it.
def Stocked (device : DeviceEui) (s : State) : Prop := ∀ p a id, (s.producers p).args = some a →
  a.deviceEui = device → (s.producers p).incoming = some id → Genuine (s.redis.cmd id) id a

theorem incoming_owned (owned : Owned s) (of : (s.producers p).args = some a)
    (incoming : (s.producers p).incoming = some key) : createdBy s.events key = some a := by
  have owns := owned.producers p
  cases pc : s.producers p with
  | expire b id | rpush b id =>
    rw [pc] at of incoming owns
    cases of
    cases incoming
    exact owns
  | _ => rw [pc] at incoming; cases incoming

theorem step_incoming (stepped : Stepped s action next) (of : (next.producers p).args = some a)
    (incoming : (next.producers p).incoming = some key) :
    (s.producers p).args = some a ∧ (s.producers p).incoming = some key ∨
    next.redis.cmd key = (s.redis.cmd key).hset (a.command key s.redis.clock).mapping := by
  cases stepped with
  | call q b _ =>
    by_cases same : p = q
    · subst p
      simp [State.put,EnqueuePc.incoming] at incoming
    · exact .inl ⟨by simpa [State.put,same] using of,by simpa [State.put,same] using incoming⟩
  | produce q uuid before produced =>
    by_cases same : p = q
    · subst p
      simp only [State.put,Function.update_self] at of incoming
      cases produced with
      | hset =>
        cases of
        cases incoming
        exact .inr (by simp [State.put,Redis.hset])
      | expire => exact .inl ⟨by rw [before]; exact of,by rw [before]; exact incoming⟩
      | _ => cases incoming
    · exact .inl ⟨by simpa [State.put,same] using of,by simpa [State.put,same] using incoming⟩
  | _ => exact .inl ⟨of,incoming⟩

theorem stocked_preserved (stocked : Stocked device s) (inTurn : InTurn device s) (placed : Placed s)
    (owned : Owned s) (scope : Scope s action) (stepped : Stepped s action next) : Stocked device next := by
  intro p a id of equal incoming
  rcases step_incoming stepped of incoming with ⟨args,making⟩ | set
  · have genuine := stocked p a id args equal making
    have created := incoming_owned owned args making
    cases step_cmd stepped id with
    | same same => rwa [same]
    | deleted q b before _ _ =>
      -- the deleting call would be a second one for the device
      have owns := owned.producers q
      rw [before] at owns
      obtain ⟨c,creator,device⟩ := owns
      rw [created] at creator
      cases creator
      have same : p = q := inTurn.alone p q a b args equal (by rw [before]; rfl) (device.symm.trans equal)
      subst same
      rw [before] at making
      cases making
    | cleaned w cmd before same _ =>
      subst same
      have final := placed.settled w cmd before
      have at' : place s.events cmd.id = .incoming p := (placed.sound.incoming p cmd.id).mp making
      simp [at',Place.Final] at final
    | expired now tick set gone =>
      subst tick
      rw [set,advance_cmd scope]
      exact genuine
    | enqueued b fresh _ _ => rw [created] at fresh; cases fresh
    | retried w reply cmd _ _ _ set => rw [set]; exact genuine.retry cmd
  · rw [set]
    exact genuine_enqueued _ _ _ _

theorem steady_stocked (path : Runs.Reached step (Steady device) State.initial s) : Stocked device s := by
  refine path.invariantUnder (fun s => InTurn device s ∧ Placed s ∧ Owned s) (Stocked device)
    (fun prior => ⟨steady_inTurn prior,reached_placed prior,reached_owned prior⟩) ?_ fun known stocked steady ran =>
    stocked_preserved stocked known.1 known.2.1 known.2.2 steady.1 (step_sound ran)
  intro p a id of
  cases of

-- What the device will show, or shows, once the worker has caught up: a live
-- command is due, or the last one due has been sent. Otherwise a command was
-- given up.
inductive Settled (device : DeviceEui) (s : State) (content : Option (String × Int)) : Prop where
  | due (id : CmdId) (a : EnqueueArgs) : Live s device id → createdBy s.events id = some a →
      content = some a.content → Settled device s content
  | sent : (∀ id, ¬Live s device id) → (∀ cmd, (s.workers 0).sending = some cmd → cmd.deviceEui ≠ device) →
      lastSent s.events device = content → Settled device s content
  | dead (cmd : DownlinkCommand) (a : EnqueueArgs) : .deadLettered cmd ∈ s.events →
      createdBy s.events cmd.id = some a → a.deviceEui = device → Settled device s content

def Calm (device : DeviceEui) (s : State) : Prop :=
  ∀ p, (s.producers p).critical = some device → ∃ a own, s.producers p = .setCoalesce a own

theorem Calm.not_pushing (calm : Calm device s) (of : a.deviceEui = device) : s.producers p ≠ .rpush a key := by
  intro before
  obtain ⟨b,own,equal⟩ := calm p (by rw [before,← of]; rfl)
  rw [before] at equal
  cases equal

structure Known (device : DeviceEui) (s : State) : Prop where
  named : device ≠ ""
  shaped : Shaped s
  owned : Owned s
  placed : Placed s
  lasting : Lasting s
  bared : Bared s
  inTurn : InTurn device s
  called : Called s
  coalesced : Coalesced device s
  hashed : Hashed device s
  stocked : Stocked device s
  stopped : ∀ w, w ≠ 0 → s.workers w = .stopped

theorem steady_known (path : Runs.Reached step (Steady device) State.initial s) (named : device ≠ "") :
    Known device s :=
  ⟨named,reached_shaped path,reached_owned path,reached_placed path,reached_lasting path,steady_bared path,
    steady_inTurn path,reached_called path,steady_coalesced path,steady_hashed path named,steady_stocked path,
    fun _ other => steady_stopped path other⟩

variable {device : DeviceEui}

theorem calm_live (calm : Calm device s) (known : Known device s) (stepped : Stepped s action next)
    (live : Live next device key) : Live s device key := by
  rcases step_live known.shaped known.owned known.placed stepped live with old | ⟨p,a,of,before,_⟩
  · exact old
  · exact absurd before (calm.not_pushing of)

-- The data of a live command are kept: the calls that delete them are not
-- running, and the worker deletes only what is settled.
theorem calm_stored (calm : Calm device s) (known : Known device s) (scope : Scope s action)
    (stepped : Stepped s action next) (live : Live s device key) : next.redis.cmd key .deviceEui = some device := by
  obtain ⟨stored,has⟩ := live
  obtain ⟨a,created,_,of⟩ := known.shaped.genuine stored
  cases step_cmd stepped key with
  | same same => rwa [same]
  | deleted p b before _ _ =>
    have owns := known.owned.producers p
    rw [before] at owns
    obtain ⟨c,creator,equal⟩ := owns
    rw [created] at creator
    cases creator
    obtain ⟨_,_,setting⟩ := calm p (by rw [before,← of,equal]; rfl)
    rw [before] at setting
    cases setting
  | cleaned w cmd before same _ =>
    subst same
    exact absurd (known.placed.settled w cmd before) (known.placed.sound.has_open has)
  | expired now tick set _ =>
    subst tick
    rw [set,advance_cmd scope]
    exact stored
  | enqueued b fresh _ _ => rw [created] at fresh; cases fresh
  | retried w reply cmd _ _ _ set => rw [set]; exact stored

theorem step_leaves (known : Known device s) (scope : Scope s action) (stepped : Stepped s action next)
    (has : s.custody.Has key) : next.custody.Has key ∨
    ∃ e ∈ next.events, e ∉ s.events ∧ Cause s e ∧
      ∃ reached, e.moves = some (key,reached) ∧ reached.Final ∧ place next.events key = reached := by
  have moved : s.custody.Moved next.custody := by
    rcases step_custody known.shaped known.placed.unplaced stepped with moved | ⟨w,rfl,_⟩
    · exact moved
    · exact scope.elim
  rcases moved.leaves has with stays | final
  · exact .inl stays
  · have at' : (place next.events key).Final := final
    obtain ⟨e,member,moves⟩ := place_event next.events key (by
      intro nowhere
      simp [nowhere,Place.Final] at at')
    have fresh : e ∉ s.events := by
      intro old
      have before := known.lasting e old key _ moves at'
      have was : (place s.events key).Final := by rwa [before]
      exact known.placed.sound.has_open has was
    rcases step_cause stepped member with old | cause
    · exact absurd old fresh
    · exact .inr ⟨e,member,fresh,cause,_,moves,at',rfl⟩

theorem step_succeeded (stepped : Stepped s action next) (member : .succeeded cmd ∈ next.events)
    (fresh : .succeeded cmd ∉ s.events) :
    ∃ w, next.workers w = .deleteCmd cmd ∧ next.events = .succeeded cmd::s.events := by
  cases stepped with
  | call => exact absurd (by simpa [State.put] using member) fresh
  | produce p uuid _ produced => cases produced <;> exact absurd (by simpa [State.put] using member) fresh
  | work w reply _ worked =>
    cases worked with
    | setLastHash =>
      rcases List.mem_cons.mp member with equal | old
      · cases equal
        exact ⟨w,by simp [State.set],rfl⟩
      · exact absurd old fresh
    | failed _ logged => rcases logged with rfl | rfl <;> exact absurd (by simpa [State.set] using member) fresh
    | _ => exact absurd (by simpa [State.set] using member) fresh
  | _ => exact absurd member fresh

-- The one live command has been sent and recorded: nothing is due any more, and
-- it was the last one sent.
theorem succeeded_settled (calm : Calm device s) (known : Known device s) (scope : Scope s action)
    (stepped : Stepped s action next) (live : Live s device cmd.id) (created : createdBy s.events cmd.id = some a)
    (before : s.workers w = .setLastHash cmd) (member : .succeeded cmd ∈ next.events)
    (fresh : .succeeded cmd ∉ s.events) (final : (place next.events cmd.id).Final) :
    Settled device next (some a.content) := by
  obtain ⟨b,creator,_,of⟩ := known.shaped.genuine live.1
  rw [created] at creator
  cases creator
  have zero : w = 0 := by
    by_contra other
    rw [known.stopped w other] at before
    cases before
  subst zero
  have carries : Carries cmd a := by
    rcases known.bared 0 cmd (by rw [before]; rfl) (by rw [before]; rfl) with ⟨c,creator,carries⟩ | bare
    · rw [created] at creator
      cases creator
      exact carries
    · have stored := live.1
      rw [bare .deviceEui (by decide) (by decide) (by decide)] at stored
      cases stored
  have last := known.hashed.recording cmd (by rw [before]; rfl) (by rw [carries.deviceEui,of])
  obtain ⟨v,after,log⟩ := step_succeeded stepped member fresh
  have worker : v = 0 := by
    by_contra other
    rw [step_workers stepped (scope_alone scope other),known.stopped v other] at after
    cases after
  subst worker
  refine .sent ?_ ?_ ?_
  · intro id still
    have same := known.coalesced.unique id cmd.id (calm_live calm known stepped still) live
    subst same
    exact (placed_sound known.placed known.shaped stepped).has_open still.2 final
  · intro other sending
    rw [after] at sending
    cases sending
  · rw [log,← carries.content]
    exact last

theorem due_settled (calm : Calm device s) (known : Known device s) (scope : Scope s action)
    (stepped : Stepped s action next) (live : Live s device key) (created : createdBy s.events key = some a) :
    Settled device next (some a.content) := by
  obtain ⟨b,creator,_,of⟩ := known.shaped.genuine live.1
  rw [created] at creator
  cases creator
  rcases step_leaves known scope stepped live.2 with stays | ⟨e,member,fresh,cause,reached,moves,final,at'⟩
  · exact .due key a ⟨calm_stored calm known scope stepped live,stays⟩ (step_keeps_created stepped created) rfl
  · cases e with
    | removed id c =>
      cases moves
      obtain ⟨p,before⟩ := cause
      have owns := known.owned.producers p
      rw [before] at owns
      obtain ⟨d,creator,equal⟩ := owns
      rw [created] at creator
      cases creator
      obtain ⟨_,_,setting⟩ := calm p (by rw [before,← of,equal]; rfl)
      rw [before] at setting
      cases setting
    | dropped id =>
      cases moves
      obtain ⟨w,_,absent⟩ := cause
      have stored := live.1
      rw [absent] at stored
      cases stored
    | succeeded cmd =>
      cases moves
      obtain ⟨w,before⟩ := cause
      exact succeeded_settled calm known scope stepped live created before member fresh (at' ▸ final)
    | deadLettered cmd =>
      cases moves
      exact .dead cmd a member (step_keeps_created stepped created) of
    | created p id c | pushed id | requeued id | popped w id =>
      cases moves
      simp [Place.Final] at final
    | called | returned | deleted | dequeued | handed | sent => cases moves

theorem step_sending (scope : Scope s action) (stepped : Stepped s action next)
    (sending : (next.workers v).sending = some cmd) : (s.workers v).sending = some cmd ∨
    ∃ key, s.workers v = .hgetall key ∧ (s.redis.cmd key).decode key s.redis.clock = some cmd := by
  cases stepped with
  | call | produce | tick => exact .inl sending
  | markSuccess | markFailure | stop => exact scope.elim
  | start w before =>
    by_cases same : v = w
    · subst v
      simp [State.set,WorkerPc.sending] at sending
    · exact .inl (by simpa [State.set,same] using sending)
  | work w reply before worked =>
    by_cases same : v = w
    · subst v
      simp only [State.set,Function.update_self] at sending
      cases worked with
      | dequeued present decoded =>
        cases sending
        exact .inr ⟨_,before,decoded⟩
      | processed unsent later =>
        rw [unsent_sending later] at sending
        cases sending
        exact .inl (by rw [before,unsent_sending unsent])
      | failed unsent logged => rw [failing_sending] at sending; cases sending
      | sent => cases sending; exact .inl (by rw [before]; rfl)
      | _ => cases sending
    · exact .inl (by simpa [State.set,same] using sending)

theorem step_lastSent (stepped : Stepped s action next) (device : DeviceEui) :
    lastSent next.events device = lastSent s.events device ∨
    ∃ w cmd, s.workers w = .queueDownlink cmd ∧ cmd.deviceEui = device := by
  cases stepped with
  | produce p uuid _ produced => cases produced <;> exact .inl rfl
  | work w reply before worked =>
    cases worked with
    | failed _ logged => rcases logged with rfl | rfl <;> exact .inl rfl
    | sent =>
      rename_i cmd
      by_cases of : cmd.deviceEui = device
      · exact .inr ⟨w,cmd,before,of⟩
      · exact .inl (by simp [State.set,lastSent,of])
    | _ => exact .inl rfl
  | _ => exact .inl rfl

theorem sent_settled (calm : Calm device s) (known : Known device s) (scope : Scope s action)
    (stepped : Stepped s action next) (none : ∀ id, ¬Live s device id)
    (free : ∀ cmd, (s.workers 0).sending = some cmd → cmd.deviceEui ≠ device) :
    Settled device next (lastSent s.events device) := by
  refine .sent ?_ ?_ ?_
  · intro id live
    exact none id (calm_live calm known stepped live)
  · intro cmd sending of
    rcases step_sending scope stepped sending with old | ⟨key,before,decoded⟩
    · exact free cmd old of
    · have stored := decode_device decoded (of ▸ known.named)
      rw [of] at stored
      exact none key ⟨stored,.inr ⟨0,by simp [State.custody,before,WorkerPc.held]⟩⟩
  · rcases step_lastSent stepped device with same | ⟨w,cmd,before,of⟩
    · exact same
    · have zero : w = 0 := by
        by_contra other
        rw [known.stopped w other] at before
        cases before
      subst zero
      exact absurd of (free cmd (by rw [before]; rfl))

theorem settled_preserved (settled : Settled device s content) (calm : Calm device s) (known : Known device s)
    (scope : Scope s action) (stepped : Stepped s action next) : Settled device next content := by
  cases settled with
  | due id a live created same => rw [same]; exact due_settled calm known scope stepped live created
  | sent none free last => rw [← last]; exact sent_settled calm known scope stepped none free
  | dead cmd a member created of =>
    exact .dead cmd a (step_keeps_events stepped member) (step_keeps_created stepped created) of

-- What is known of the device while a call for it is at some command. Between
-- the coalesce GET and the RPUSH nothing need be due.
def Progress (device : DeviceEui) (s : State) : EnqueuePc → Prop
  | .getLastHash _ | .getCoalesce _ => ∃ content, Settled device s content
  | .incrDeduplicated a | .setCoalesce a _ | .incrEnqueued a _ => Settled device s (some a.content)
  | _ => True

structure Follows (device : DeviceEui) (s : State) : Prop where
  resting : (∀ p a, (s.producers p).args = some a → a.deviceEui ≠ device) →
    Settled device s (lastCalled s.events device)
  running : ∀ p a, (s.producers p).args = some a → a.deviceEui = device →
    Progress device s (s.producers p) ∧ lastCalled s.events device = some a.content

theorem calm_resting (rest : ∀ p a, (s.producers p).args = some a → a.deviceEui ≠ device) : Calm device s := by
  intro p critical
  obtain ⟨a,args,of⟩ := critical_args critical
  exact absurd of (rest p a args)

theorem calm_running (known : Known device s) (args : (s.producers p).args = some a) (of : a.deviceEui = device)
    (outside : (s.producers p).critical = some device → ∃ b own, s.producers p = .setCoalesce b own) :
    Calm device s := by
  intro q critical
  obtain ⟨b,others,equal⟩ := critical_args critical
  have same : q = p := known.inTurn.alone q p b a others equal args of
  subst same
  exact outside critical

theorem step_lastCalled (stepped : Stepped s action next) (device : DeviceEui) :
    lastCalled next.events device = lastCalled s.events device ∨
    ∃ p a, action = .call p a ∧ a.deviceEui = device ∧ lastCalled next.events device = some a.content := by
  cases stepped with
  | call p a _ =>
    by_cases of : a.deviceEui = device
    · exact .inr ⟨p,a,rfl,of,by simp [State.put,lastCalled,of]⟩
    · exact .inl (by simp [State.put,lastCalled,of])
  | produce p uuid _ produced => cases produced <;> exact .inl rfl
  | work w reply _ worked =>
    cases worked with
    | failed _ logged => rcases logged with rfl | rfl <;> exact .inl rfl
    | _ => exact .inl rfl
  | _ => exact .inl rfl

theorem step_ends (stepped : Stepped s action next) (args : (s.producers p).args = some a) :
    (next.producers p).args = some a ∨
    s.producers p = .incrDeduplicated a ∨ ∃ id, s.producers p = .incrEnqueued a id := by
  cases stepped with
  | call q b before =>
    by_cases same : p = q
    · subst p
      rw [before] at args
      cases args
    · exact .inl (by simpa [State.put,same] using args)
  | produce q uuid before produced =>
    by_cases same : p = q
    · subst p
      rw [before] at args ⊢
      simp only [State.put,Function.update_self]
      cases produced with
      | incrDeduplicated => cases args; exact .inr (.inl rfl)
      | incrEnqueued => cases args; exact .inr (.inr ⟨_,rfl⟩)
      | _ => exact .inl args
    · exact .inl (by simpa [State.put,same] using args)
  | _ => exact .inl args

theorem follows_resting (follows : Follows device s) (known : Known device s) (steady : Steady device s action)
    (stepped : Stepped s action next) (rest : ∀ p a, (next.producers p).args = some a → a.deviceEui ≠ device) :
    Settled device next (lastCalled next.events device) := by
  have unchanged : lastCalled next.events device = lastCalled s.events device := by
    rcases step_lastCalled stepped device with same | ⟨p,a,rfl,of,_⟩
    · exact same
    · refine absurd of (rest p a ?_)
      cases stepped
      simp [State.put,EnqueuePc.args]
  rw [unchanged]
  by_cases before : ∀ p a, (s.producers p).args = some a → a.deviceEui ≠ device
  · exact settled_preserved (follows.resting before) (calm_resting before) known steady.1 stepped
  · simp only [not_forall,ne_eq,not_not] at before
    obtain ⟨p,a,args,of⟩ := before
    obtain ⟨progress,last⟩ := follows.running p a args of
    rw [last]
    rcases step_ends stepped args with still | ending | ⟨id,ending⟩
    · exact absurd of (rest p a still)
    · rw [ending] at progress
      exact settled_preserved progress (calm_running known args of (by simp [ending,EnqueuePc.critical])) known
        steady.1 stepped
    · rw [ending] at progress
      exact settled_preserved progress (calm_running known args of (by simp [ending,EnqueuePc.critical])) known
        steady.1 stepped

theorem recording_sending {pc : WorkerPc} (recording : pc.recording = some cmd) : pc.sending = some cmd := by
  cases pc <;> first | exact recording | cases recording

-- A duplicate of the last command sent: what is due, or was last sent, is just
-- what the call asks for.
theorem duplicate_settled (settled : Settled a.deviceEui s content) (known : Known a.deviceEui s)
    (ordered : Ordered a.deviceEui s (.produce p uuid)) (before : s.producers p = .getLastHash a)
    (duplicate : s.redis.lastHash a.deviceEui = some a.contentHash) : Settled a.deviceEui s (some a.content) := by
  cases settled with
  | due id b live created _ =>
    have same := ordered.1 a before rfl duplicate id b live created
    exact .due id b live created (by rw [same])
  | dead cmd b member created of => exact .dead cmd b member created of
  | sent none free _ =>
    have digest := known.hashed.recorded fun cmd recording => free cmd (recording_sending recording)
    rw [duplicate] at digest
    obtain ⟨c,last,hash⟩ := Option.map_eq_some_iff.mp digest.symm
    obtain ⟨b,called,of,same⟩ := known.hashed.called c last
    have calling := known.called.calling p a (by rw [before]; rfl)
    have equal : b.contentHash = a.contentHash := by
      rw [← hash,← same,EnqueueArgs.contentHash,of]
      rfl
    have content := known.inTurn.distinct b a called of calling rfl equal
    exact .sent none free (by rw [last,← same,content])

theorem pushed_settled (known : Known a.deviceEui s) (before : s.producers p = .rpush a own) :
    Settled a.deviceEui (s.put p (s.redis.rpush own,[.pushed own],.setCoalesce a own)) (some a.content) := by
  have genuine := known.stocked p a own (by rw [before]; rfl) rfl (by rw [before]; rfl)
  have created : createdBy s.events own = some a := by
    have owns := known.owned.producers p
    rw [before] at owns
    exact owns
  refine .due own a ⟨genuine.deviceEui,.inl ?_⟩ created rfl
  exact List.mem_append_right _ List.mem_cons_self

theorem produced_progress (known : Known a.deviceEui s) (ordered : Ordered a.deviceEui s (.produce p uuid))
    (progress : Progress a.deviceEui s pc) (args : pc.args = some a) (before : s.producers p = pc)
    (produced : Produced s.redis p uuid (createdBy s.events uuid).isSome pc r events later)
    (stepped : Stepped s (.produce p uuid) (s.put p (r,events,later))) :
    Progress a.deviceEui (s.put p (r,events,later)) later := by
  have scope : Scope s (.produce p uuid) := trivial
  have calm : pc.critical = none → Calm a.deviceEui s := by
    intro outside
    exact calm_running known (by rw [before,args]) rfl (by simp [before,outside])
  cases produced with
  | duplicate same =>
    cases args
    obtain ⟨content,settled⟩ := progress
    exact settled_preserved (duplicate_settled settled known ordered before same) (calm rfl) known scope stepped
  | different =>
    obtain ⟨content,settled⟩ := progress
    exact ⟨content,settled_preserved settled (calm rfl) known scope stepped⟩
  | rpush => cases args; exact pushed_settled known before
  | setCoalesce =>
    exact settled_preserved progress (calm_running known (by rw [before,args]) rfl fun _ => ⟨_,_,before⟩) known
      scope stepped
  | _ => trivial

theorem unmoved_progress (known : Known device s) (scope : Scope s action) (stepped : Stepped s action next)
    (progress : Progress device s (s.producers p)) (args : (s.producers p).args = some a)
    (of : a.deviceEui = device) : Progress device next (s.producers p) := by
  have kept : ∀ {content}, (s.producers p).critical = none → Settled device s content → Settled device next content :=
    fun outside settled =>
      settled_preserved settled (calm_running known args of (by simp [outside])) known scope stepped
  cases pc : s.producers p with
  | getLastHash b | getCoalesce b =>
    rw [pc] at progress kept
    obtain ⟨content,settled⟩ := progress
    exact ⟨content,kept rfl settled⟩
  | incrDeduplicated b | incrEnqueued b id =>
    rw [pc] at progress kept
    exact kept rfl progress
  | setCoalesce b own =>
    rw [pc] at progress
    exact settled_preserved progress (calm_running known args of fun _ => ⟨b,own,pc⟩) known scope stepped
  | _ => trivial

theorem follows_running (follows : Follows device s) (known : Known device s) (steady : Steady device s action)
    (stepped : Stepped s action next) (args : (next.producers p).args = some a) (of : a.deviceEui = device) :
    Progress device next (next.producers p) ∧ lastCalled next.events device = some a.content := by
  rcases step_args stepped args with old | rfl
  · obtain ⟨progress,last⟩ := follows.running p a old of
    constructor
    · by_cases moving : action.producer = some p
      · cases stepped with
        | call q b before =>
          cases moving
          rw [before] at old
          cases old
        | produce q uuid before produced =>
          cases moving
          subst of
          rw [before] at progress old
          simpa [State.put] using
            produced_progress known steady.2 progress old before produced (.produce p uuid before produced)
        | _ => cases moving
      · rw [step_producers stepped moving]
        exact unmoved_progress known steady.1 stepped progress old of
    · rcases step_lastCalled stepped device with same | ⟨q,b,rfl,other,_⟩
      · rw [same,last]
      · exact absurd of ((steady.2 other).1 p a old)
  · have rest := (steady.2 of).1
    have settled := settled_preserved (follows.resting rest) (calm_resting rest) known steady.1 stepped
    constructor
    · cases stepped
      simp only [State.put,Function.update_self] at settled ⊢
      exact ⟨_,settled⟩
    · rw [call_logged stepped]
      simp [lastCalled,of]

theorem steady_follows (path : Runs.Reached step (Steady device) State.initial s) (named : device ≠ "") :
    Follows device s := by
  refine path.invariantUnder (Known device) (Follows device) (fun prior => steady_known prior named) ?_ ?_
  · refine ⟨fun _ => .sent ?_ ?_ rfl,?_⟩
    · intro id live
      cases live.1
    · intro cmd sending
      cases sending
    · intro p a of
      cases of
  · intro s action next known follows steady ran
    exact ⟨follows_resting follows known steady (step_sound ran),
      fun p a => follows_running follows known steady (step_sound ran)⟩

theorem last_writer_wins (path : Runs.Reached step (Steady device) State.initial s) (named : device ≠ "")
    (quiet : Quiet device s) : lastSent s.events device = lastCalled s.events device := by
  cases (steady_follows path named).resting quiet.calls with
  | due id a live created _ =>
    obtain ⟨b,creator,_,of⟩ := (reached_shaped path).genuine live.1
    obtain ⟨missing,free⟩ := quiet.commands id b creator of
    rcases live.2 with member | ⟨w,held⟩
    · exact absurd member missing
    · exact absurd held (free w)
  | sent _ _ last => exact last
  | dead cmd a member created of =>
    obtain ⟨letter,found,rfl⟩ := (reached_buried path cmd).mp member
    exact absurd of (quiet.dead letter found a created)

theorem solo_has (path : Runs.Reached step meets State.initial s)
    (solo : ∀ s action, meets s action → action.solo = true) (queue : s.redis.pending = [])
    (empty : (s.workers 0).held = none) : ¬s.custody.Has key := by
  rintro (member | ⟨w,held⟩)
  · have waiting : key ∈ s.redis.pending := member
    rw [queue] at waiting
    exact absurd waiting List.not_mem_nil
  · have holds : (s.workers w).held = some key := held
    by_cases same : w = 0
    · rw [same,empty] at holds
      cases holds
    · rw [reached_stopped path fun _ _ met => solo_worker (solo _ _ met) same] at holds
      cases holds

theorem solo_quiet (path : Runs.Reached step meets State.initial s)
    (solo : ∀ s action, meets s action → action.solo = true) (queue : s.redis.pending = [])
    (empty : (s.workers 0).held = none) (idle : (s.producers 0).args = none) (dead : s.redis.dead = []) :
    Quiet device s := by
  refine ⟨?_,?_,?_⟩
  · intro p a args
    by_cases same : p = 0
    · rw [same,idle] at args
      cases args
    · rw [reached_idle path fun _ _ met => solo_producer (solo _ _ met) same] at args
      cases args
  · intro id a _ _
    have free : ¬s.custody.Has id := solo_has path solo queue empty
    exact ⟨fun member => free (.inl member),fun w held => free (.inr ⟨w,held⟩)⟩
  · intro letter member
    rw [dead] at member
    exact absurd member List.not_mem_nil

def soloScope (_ : State) (action : Action) : Bool :=
  action.solo &&
    match action with
    | .call _ _ | .produce _ _ | .work _ _ | .start _ => true
    | _ => false

theorem soloScope_sound (test : soloScope s action = true) : Scope s action ∧ action.solo = true := by
  simp only [soloScope,Bool.and_eq_true] at test
  obtain ⟨solo,kind⟩ := test
  refine ⟨?_,solo⟩
  cases action with
  | call | produce => trivial
  | work w reply | start w => simpa [Action.solo,Action.producer,Action.worker,Scope] using solo
  | markSuccess | markFailure | stop | tick => cases kind

-- The commands `enqueue` executes for a duplicate are two; a worker cycle that
-- succeeds takes ten steps.
def sending : List Action := working (List.replicate 10 .ok)

-- The display is told A, then B, then A again while B is pending: the last call
-- returns None because A was the last command sent.
theorem last_writer_loses : ∃ s, Runs.Reached step Scope State.initial s ∧ Quiet "d1" s ∧
    lastSent s.events "d1" = some occupied.content ∧ lastSent s.events "d1" ≠ lastCalled s.events "d1" := by
  have start : Runs.Reached step (fun s action => Scope s action ∧ action.solo = true) State.initial
    State.initial := .refl
  obtain ⟨s,path,queue,empty,idle,dead,called,sent⟩ := start.found soloScope
    (fun s => s.redis.pending = [] ∧ (s.workers 0).held = none ∧ (s.producers 0).args = none ∧
      s.redis.dead.length = 0 ∧ lastCalled s.events "d1" = some free.content ∧
      lastSent s.events "d1" = some occupied.content)
    (.start 0::calling 0 free "A" 7 ++ sending ++ calling 0 occupied "B" 7 ++ calling 0 free "C" 2 ++ sending)
    (fun _ => soloScope_sound) (by decide +kernel)
  exact ⟨s,path.weaken fun _ _ met => met.1,
    solo_quiet path (fun _ _ met => met.2) queue empty idle (List.length_eq_zero_iff.mp dead),sent,by
      rw [called,sent]; decide⟩

def soloSteady (s : State) (action : Action) : Bool :=
  soloScope s action &&
    match action with
    | .call _ a => (s.producers 0).args.isNone &&
        s.events.all fun e => match e with
          | .called b => b.contentHash ≠ a.contentHash || b.content = a.content
          | _ => true
    | .produce _ _ =>
      match s.producers 0 with
      | .getLastHash _ | .getCoalesce _ => s.redis.pending.isEmpty && (s.workers 0).held.isNone
      | _ => true
    | _ => true

theorem soloSteady_sound
    (path : Runs.Reached step (fun s action => Steady device s action ∧ action.solo = true) State.initial s)
    (test : soloSteady s action = true) : Steady device s action ∧ action.solo = true := by
  simp only [soloSteady,Bool.and_eq_true] at test
  obtain ⟨inside,ordered⟩ := test
  obtain ⟨scope,solo⟩ := soloScope_sound inside
  refine ⟨⟨scope,?_⟩,solo⟩
  cases action with
  | call p a =>
    simp only [Bool.and_eq_true,Option.isNone_iff_eq_none,List.all_eq_true] at ordered
    intro of
    refine ⟨?_,?_⟩
    · intro q b args
      by_cases same : q = 0
      · rw [same,ordered.1] at args
        cases args
      · rw [reached_idle path fun _ _ met => solo_producer met.2 same] at args
        cases args
    · intro b member _ same
      simpa [same] using ordered.2 _ member
  | produce p uuid =>
    have zero : p = 0 := by simpa [Action.solo,Action.producer,Action.worker] using solo
    subst zero
    refine ⟨?_,?_⟩
    · intro a before _ _ id b live
      simp only [before,Bool.and_eq_true,List.isEmpty_iff,Option.isNone_iff_eq_none] at ordered
      exact absurd live.2 (solo_has path (fun _ _ met => met.2) ordered.1 ordered.2)
    · intro a before _ id live
      simp only [before,Bool.and_eq_true,List.isEmpty_iff,Option.isNone_iff_eq_none] at ordered
      exact absurd live.2 (solo_has path (fun _ _ met => met.2) ordered.1 ordered.2)
  | _ => trivial

theorem last_writer_wins_duplicate : ∃ s : State, lastCalled s.events "d1" = some free.content ∧
    .returned none free ∈ s.events ∧ lastSent s.events "d1" = lastCalled s.events "d1" := by
  have start : Runs.Reached step (fun s action => Steady "d1" s action ∧ action.solo = true) State.initial
    State.initial := .refl
  obtain ⟨s,path,queue,empty,idle,dead,called,returned⟩ := start.found soloSteady
    (fun s => s.redis.pending = [] ∧ (s.workers 0).held = none ∧ (s.producers 0).args = none ∧
      s.redis.dead.length = 0 ∧ lastCalled s.events "d1" = some free.content ∧ .returned none free ∈ s.events)
    (.start 0::calling 0 free "A" 7 ++ sending ++ calling 0 free "B" 2) soloSteady_sound (by decide +kernel)
  have quiet : Quiet "d1" s :=
    solo_quiet path (fun _ _ met => met.2) queue empty idle (List.length_eq_zero_iff.mp dead)
  exact ⟨s,called,returned,last_writer_wins (path.weaken fun _ _ met => met.1) (by decide) quiet⟩

end SmartParking.Downlink
