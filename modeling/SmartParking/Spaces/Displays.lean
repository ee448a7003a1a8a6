import SmartParking.Downlink.LastWriter
import SmartParking.Spaces.Updates

namespace SmartParking.Spaces.Displays
open Lib
open Updates (UpdateArgs Updating Body resource)
open Downlink (CmdId DeviceEui Event EnqueueArgs EnqueuePc WorkerPc createdBy lastCalled lastSent)

-- The calls of the state manager and the worker of the queue that they fill.
structure State where
  updates : Updates.State
  workers : Nat → WorkerPc

inductive Action where
  | manage (a : Updates.Action)
  | deliver (b : Downlink.Action)

def enqueuePc : Option Updating → EnqueuePc
  | some ⟨_,.enqueue _ _ _ pc⟩ => pc
  | _ => .idle

-- The queue as its producers and workers see it.
def State.downlink (s : State) : Downlink.State :=
  ⟨s.updates.store.queue,fun c => enqueuePc (s.updates.calls c),s.workers,s.updates.log⟩

-- The enqueue call that a command of an update makes, for the log.
def started : Option Updating → Option Updating → List Event
  | some ⟨_,.fetchTenant _ _ _⟩,some ⟨_,.enqueue _ _ _ (.getLastHash a)⟩ => [.called a]
  | _,_ => []

def called (s next : Updates.State) : Updates.Action → List Event
  | .run c _ => started (s.calls c) (next.calls c)
  | _ => []

def logged (s next : Updates.State) (a : Updates.Action) : Updates.State := {next with log := called s next a ++ next.log}

def delivers : Downlink.Action → Bool
  | .work _ _ | .start _ | .stop _ | .tick _ => true
  | _ => false

def State.deliver (s : State) (d : Downlink.State) : State :=
  ⟨{s.updates with store := {s.updates.store with queue := d.redis},log := d.events},d.workers⟩

def step (s : State) : Action → Option State
  | .manage a => (Updates.step s.updates a).map fun next => {s with updates := logged s.updates next a}
  | .deliver b => if delivers b then (Downlink.step s.downlink b).map s.deliver else none

-- What a command of the body leaves alone unless it is the one that changes it.
structure Same (s changed : Updates.State) : Prop where
  lock : changed.lock = s.lock
  calls : changed.calls = s.calls
  spaces : changed.store.spaces = s.store.spaces
  displays : changed.store.displays = s.store.displays
  queue : changed.store.queue = s.store.queue
  log : changed.log = s.log

def askedArgs (s : Updates.State) (a : UpdateArgs) (display : DisplayDevice) (payloadHex : String) : EnqueueArgs :=
  {deviceEui := display.devEui,payload := payloadHex,fport := display.fport,tenantId := s.store.tenantText a.spaceId,
   confirmed := display.confirmedDownlinks,spaceId := some a.spaceId,triggerSource := some a.requestId}

def shownBy (s : Updates.State) (displayEui : String) : Option DisplayDevice :=
  s.store.displays.find? fun display => display.devEui == displayEui && display.enabled

-- The commands of the body one by one.
inductive Ran (s : Updates.State) (c : Nat) (uuid : CmdId) (a : UpdateArgs) : Body → Updates.State → Body → Prop where
  | left : Ran s c uuid a .getSpace s .done
  | read : s.store.spaces.getSpace a.spaceId = some space → Ran s c uuid a .getSpace s (.update space)
  | updated : Ran s c uuid a (.update space)
      {s with store := {s.store with spaces := s.store.spaces.setState a.spaceId a.newState}} (.insert space)
  | inserted : Same s changed → Ran s c uuid a (.insert space) changed (.clearSpace space)
  | clearSpace : Same s changed → Ran s c uuid a (.clearSpace space) changed (.clearState space)
  | clearState : Same s changed → Ran s c uuid a (.clearState space) changed (.clearAll space)
  | unequipped : Same s changed → Downlink.orNone space.displayEui = none → Ran s c uuid a (.clearAll space) changed .done
  | equipped : Same s changed → Downlink.orNone space.displayEui = some displayEui →
      Ran s c uuid a (.clearAll space) changed (.fetchDisplay space displayEui)
  | unshown : (∀ display, shownBy s displayEui = some display → Downlink.orNone (display.displayCodes a.newState) = none) →
      Ran s c uuid a (.fetchDisplay space displayEui) s .done
  | undecodable : shownBy s displayEui = some display → Downlink.orNone (display.displayCodes a.newState) = some payloadHex →
      Hex.fromHex payloadHex = .error position → Ran s c uuid a (.fetchDisplay space displayEui) s (.insertActuation row)
  | shown : shownBy s displayEui = some display → Downlink.orNone (display.displayCodes a.newState) = some payloadHex →
      Ran s c uuid a (.fetchDisplay space displayEui) s (.fetchTenant space display payloadHex)
  | asked : Ran s c uuid a (.fetchTenant space display payloadHex) s
      (.enqueue space display payloadHex (.getLastHash (askedArgs s a display payloadHex)))
  | enqueued : Downlink.produce s.store.queue c uuid (createdBy s.log uuid).isSome pc = some (queue,events,.idle) →
      Ran s c uuid a (.enqueue space display payloadHex pc)
        {s with store := {s.store with queue := queue},log := events ++ s.log} (.insertActuation row)
  | enqueuing : Downlink.produce s.store.queue c uuid (createdBy s.log uuid).isSome pc = some (queue,events,later) →
      later ≠ .idle → Ran s c uuid a (.enqueue space display payloadHex pc)
        {s with store := {s.store with queue := queue},log := events ++ s.log} (.enqueue space display payloadHex later)
  | recorded : Same s changed → Ran s c uuid a (.insertActuation row) changed .done

theorem Same.refl (s : Updates.State) : Same s s := ⟨rfl,rfl,rfl,rfl,rfl,rfl⟩

theorem body_ran {s changed : Updates.State} {c : Nat} {uuid : CmdId} {a : UpdateArgs} {before later : Body}
    (ran : Updates.body s c uuid a before = some (changed,later)) : Ran s c uuid a before changed later := by
  cases before with
  | getSpace =>
    simp only [Updates.body] at ran
    split at ran
    · cases ran; exact .left
    · split at ran
      · cases ran; exact .left
      · split at ran
        · cases ran; exact .read ‹_›
        · cases ran; exact .left
  | update space => cases ran; exact .updated
  | insert space => cases ran; exact .inserted ⟨rfl,rfl,rfl,rfl,rfl,rfl⟩
  | clearSpace space => cases ran; exact .clearSpace ⟨rfl,rfl,rfl,rfl,rfl,rfl⟩
  | clearState space => cases ran; exact .clearState ⟨rfl,rfl,rfl,rfl,rfl,rfl⟩
  | clearAll space =>
    cases ran
    unfold Updates.afterCache
    split
    · exact .unequipped ⟨rfl,rfl,rfl,rfl,rfl,rfl⟩ ‹_›
    · exact .equipped ⟨rfl,rfl,rfl,rfl,rfl,rfl⟩ ‹_›
  | fetchDisplay space displayEui =>
    simp only [Updates.body] at ran
    split at ran
    · rename_i missing
      cases ran
      refine .unshown fun display found => ?_
      rw [shownBy,missing] at found
      cases found
    · rename_i display found
      split at ran
      · rename_i missing
        cases ran
        refine .unshown fun other also => ?_
        rw [shownBy,found] at also
        cases also
        exact missing
      · rename_i payloadHex coded
        split at ran
        · cases ran; exact .undecodable found coded ‹_›
        · cases ran; exact .shown found coded
  | fetchTenant space display payloadHex => cases ran; exact .asked
  | enqueue space display payloadHex pc =>
    simp only [Updates.body] at ran
    split at ran
    · cases ran
    · rename_i queue events later produced
      split at ran
      · cases ran; exact .enqueued produced
      · rename_i open'
        cases ran
        exact .enqueuing produced open'
  | insertActuation row => cases ran; exact .recorded ⟨rfl,rfl,rfl,rfl,rfl,rfl⟩
  | done => cases ran

-- What a step of the manager does to its calls and its tables.
inductive Managed (s : Updates.State) : Updates.Action → Updates.State → Prop where
  | update (c : Nat) (a : UpdateArgs) (utcnow : Downlink.Time) : s.calls c = none →
      Managed s (.update c a utcnow) ({s with lock := lock}.put c (some ⟨a,.getSpace⟩))
  | ran (c : Nat) (uuid : CmdId) (call : Updating) : s.calls c = some call → s.lock.clients c = .inside attempt →
      Ran s c uuid call.args call.body changed later → next.store = changed.store → next.log = changed.log →
      next.calls = Function.update s.calls c (some ⟨call.args,later⟩) → Managed s (.run c uuid) next
  | locking (c : Nat) (uuid : CmdId) (call : Updating) : s.calls c = some call →
      (∀ attempt, s.lock.clients c ≠ .inside attempt) → after = some call ∨ after = none →
      Managed s (.run c uuid) ({s with lock := lock}.put c after)
  | tick (now : Downlink.Time) : Managed s (.tick now) {s with lock := lock}

theorem Ran.calls {s changed : Updates.State} (ran : Ran s c uuid a before changed later) : changed.calls = s.calls := by
  cases ran with
  | inserted same | clearSpace same | clearState same | unequipped same | equipped same | recorded same => exact same.calls
  | _ => rfl

theorem step_managed {s next : Updates.State} {action : Updates.Action} (stepped : Updates.step s action = some next) :
    Managed s action next := by
  cases action with
  | update c a utcnow =>
    simp only [Updates.step] at stepped
    split at stepped
    · cases stepped
    · rename_i free
      split at stepped
      · cases stepped
      · cases stepped; exact .update c a utcnow free
  | run c uuid =>
    simp only [Updates.step] at stepped
    split at stepped
    · cases stepped
    · rename_i call calling
      split at stepped
      · rename_i attempt inside
        split at stepped
        · cases stepped
        · rename_i changed ended
          cases stepped
          have ran := body_ran ended
          refine .ran c uuid call calling inside ran rfl rfl ?_
          show Function.update changed.calls c _ = _
          rw [ran.calls]
        · rename_i changed later _ moved
          cases stepped
          have ran := body_ran moved
          refine .ran c uuid call calling inside ran rfl rfl ?_
          show Function.update changed.calls c _ = _
          rw [ran.calls]
      · rename_i outside
        split at stepped
        · cases stepped
        · rename_i lock moved
          split at stepped
          · cases stepped; exact .locking c uuid call calling outside (.inr rfl)
          · cases stepped
            have same : {s with lock := lock} = {s with lock := lock}.put c (some call) := by
              simp [Updates.State.put,←calling]
            rw [same]
            exact .locking c uuid call calling outside (.inl rfl)
  | tick now =>
    simp only [Updates.step] at stepped
    split at stepped
    · cases stepped
    · cases stepped; exact .tick now

section Working

def working : Body → Bool
  | .getSpace | .done => false
  | _ => true

-- A call is at work only inside its lock.
def Working (s : Updates.State) : Prop :=
  ∀ c call, s.calls c = some call → working call.body = true → ∃ attempt, s.lock.clients c = .inside attempt

theorem working_preserved {s next : Updates.State} {action : Updates.Action} (held : Working s)
    (stepped : Updates.Stepped s action next) : Working next := by
  intro c call calling busy
  cases Updates.step_call stepped c with
  | same called client =>
    rw [called] at calling
    rw [client]
    exact held c call calling busy
  | called a utcnow called _ =>
    rw [called] at calling
    cases calling
    cases busy
  | bodied old later _ _ after client =>
    rw [after] at calling
    cases calling
    rcases client with client | ⟨_,rfl⟩
    · exact ⟨_,client⟩
    · cases busy
  | locking old called outside after _ =>
    rcases after with after | after <;> rw [after] at calling <;> cases calling
    obtain ⟨attempt,inside⟩ := held c call called busy
    exact absurd inside (outside attempt)

-- What the manager's own invariants say of a state.
structure Sound (s : Updates.State) : Prop where
  entered : Updates.Entered s
  locked : Lock.Locked s.lock
  current : Updates.Current s
  working : Working s

theorem Sound.alone {s : Updates.State} {call other : Updating} (sound : Sound s) (one : s.calls c = some call)
    (two : s.calls d = some other) (busy : Displays.working call.body = true) (also : Displays.working other.body = true)
    (same : call.args.spaceId = other.args.spaceId) : c = d := by
  obtain ⟨a,first⟩ := sound.working c call one busy
  obtain ⟨b,second⟩ := sound.working d other two also
  have key := sound.entered.key c call a one (by rw [first]; rfl)
  have other := sound.entered.key d other b two (by rw [second]; rfl)
  apply sound.locked.alone (a := a) (b := b)
  · rw [first]; rfl
  · rw [second]; rfl
  · rw [key,other,same]

theorem Sound.kept {s next : Updates.State} (sound : Sound s) (lock : next.lock = s.lock) (calls : next.calls = s.calls)
    (spaces : next.store.spaces = s.store.spaces) : Sound next := by
  refine ⟨⟨?_,?_⟩,?_,sound.current.quiet spaces fun c call calling _ => ?_,?_⟩
  · rw [lock,calls]
    exact sound.entered.key
  · rw [lock,calls]
    exact sound.entered.inside
  · rw [lock]
    exact sound.locked
  · rwa [calls] at calling
  · rw [Working,lock,calls]
    exact sound.working

theorem sound_managed {s next : Updates.State} {a : Updates.Action} (sound : Sound s) (lasting : Updates.Lasting s a)
    (stepped : Updates.step s a = some next) : Sound next := by
  have inverted := Updates.step_sound stepped
  refine ⟨Updates.entered_preserved sound.entered inverted,?_,
    Updates.current_preserved sound.current sound.entered sound.locked inverted,
    working_preserved sound.working inverted⟩
  rcases Updates.step_lock inverted lasting with same | ⟨b,kept,moved⟩
  · rw [same]
    exact sound.locked
  · exact Lock.locked_preserved sound.locked kept (Lock.step_sound moved)

end Working

section Projection

theorem enqueuePc_update (calls : Nat → Option Updating) (c : Nat) (call : Option Updating) :
    (fun d => enqueuePc (Function.update calls c call d)) =
      Function.update (fun d => enqueuePc (calls d)) c (enqueuePc call) := by
  funext d
  by_cases same : d = c
  · subst d
    simp
  · simp [same]

theorem enqueuePc_same {calls : Nat → Option Updating} {call : Option Updating} (same : enqueuePc call = enqueuePc (calls c)) :
    (fun d => enqueuePc (Function.update calls c call d)) = fun d => enqueuePc (calls d) := by
  rw [enqueuePc_update,same]
  exact Function.update_eq_self c _

-- The enqueue call that a step makes.
def asked (s : State) : Action → Option EnqueueArgs
  | .manage (.run c _) =>
    match s.updates.calls c with
    | some ⟨a,.fetchTenant _ display payloadHex⟩ => some (askedArgs s.updates a display payloadHex)
    | _ => none
  | _ => none

-- How a step looks to the queue.
inductive Turn (s : State) : Action → State → Prop where
  | same : asked s (.manage a) = none → next.downlink = s.downlink → Turn s (.manage a) next
  | called (c : Nat) (uuid : CmdId) (a : EnqueueArgs) : asked s (.manage (.run c uuid)) = some a →
      Downlink.step s.downlink (.call c a) = some next.downlink → Turn s (.manage (.run c uuid)) next
  | produced (c : Nat) (uuid : CmdId) : asked s (.manage (.run c uuid)) = none →
      Downlink.step s.downlink (.produce c uuid) = some next.downlink → Turn s (.manage (.run c uuid)) next
  | delivered (b : Downlink.Action) : delivers b = true → Downlink.step s.downlink b = some next.downlink →
      Turn s (.deliver b) next

theorem deliver_downlink {s : State} {d : Downlink.State} (same : d.producers = s.downlink.producers) :
    (s.deliver d).downlink = d := by
  obtain ⟨redis,producers,workers,events⟩ := d
  cases same
  rfl

theorem delivers_producers {s next : Downlink.State} {b : Downlink.Action} (delivering : delivers b = true)
    (ran : Downlink.step s b = some next) : next.producers = s.producers := by
  cases Downlink.step_sound ran with
  | call | produce | markSuccess | markFailure => cases delivering
  | work | start | stop | tick => rfl

theorem asleep_idle {call : Updating} (idle : working call.body = false) : enqueuePc (some call) = .idle := by
  obtain ⟨a,body⟩ := call
  cases body <;> first | rfl | cases idle

theorem started_other {call : Updating} {after : Option Updating}
    (other : ∀ space display payloadHex, call.body ≠ .fetchTenant space display payloadHex) :
    started (some call) after = [] := by
  obtain ⟨a,body⟩ := call
  cases body with
  | fetchTenant space display payloadHex => exact absurd rfl (other space display payloadHex)
  | _ => rfl

theorem asked_other {s : State} {call : Updating} (calling : s.updates.calls c = some call)
    (other : ∀ space display payloadHex, call.body ≠ .fetchTenant space display payloadHex) :
    asked s (.manage (.run c uuid)) = none := by
  obtain ⟨a,body⟩ := call
  simp only [asked,calling]
  cases body with
  | fetchTenant space display payloadHex => exact absurd rfl (other space display payloadHex)
  | _ => rfl

-- A command that is neither of the two has no part in the queue.
theorem ran_same {s : State} (next : Updates.State) {call : Updating} (calling : s.updates.calls c = some call)
    (calls : next.calls = Function.update s.updates.calls c after) (queue : next.store.queue = s.updates.store.queue)
    (log : next.log = s.updates.log) (idle : enqueuePc (some call) = .idle) (still : enqueuePc after = .idle)
    (other : ∀ space display payloadHex, call.body ≠ .fetchTenant space display payloadHex) (uuid : CmdId) :
    Turn s (.manage (.run c uuid)) {s with updates := logged s.updates next (.run c uuid)} := by
  have unlogged : called s.updates next (.run c uuid) = [] := by
    show started (s.updates.calls c) (next.calls c) = []
    rw [calling]
    exact started_other other
  have producers : (fun d => enqueuePc (next.calls d)) = fun d => enqueuePc (s.updates.calls d) := by
    rw [calls]
    exact enqueuePc_same (by rw [still,calling,idle])
  refine .same (asked_other calling other) ?_
  simp only [State.downlink,logged,unlogged,List.nil_append,queue,log,producers]

theorem produced_turn {s : State} (next : Updates.State) {call : Updating} {after : Updating} {events : List Event}
    (calling : s.updates.calls c = some call) (body : call.body = .enqueue space display payloadHex pc)
    (calls : next.calls = Function.update s.updates.calls c (some after)) (queue : next.store.queue = redis)
    (log : next.log = events ++ s.updates.log)
    (produced : Downlink.produce s.updates.store.queue c uuid (createdBy s.updates.log uuid).isSome pc =
      some (redis,events,enqueuePc (some after))) :
    Turn s (.manage (.run c uuid)) {s with updates := logged s.updates next (.run c uuid)} := by
  obtain ⟨args,before⟩ := call
  cases body
  have producer : s.downlink.producers c = pc := by
    show enqueuePc (s.updates.calls c) = _
    rw [calling]
    rfl
  have unlogged : called s.updates next (.run c uuid) = [] := by
    show started (s.updates.calls c) (next.calls c) = []
    rw [calling]
    rfl
  have moved : Downlink.produce s.downlink.redis c uuid (createdBy s.downlink.events uuid).isSome pc =
      some (redis,events,enqueuePc (some after)) := produced
  refine .produced c uuid (asked_other calling fun _ _ _ same => by cases same) ?_
  rw [Downlink.step,producer,moved]
  simp only [Option.map_some,State.downlink,Downlink.State.put,logged,unlogged,List.nil_append,queue,log,calls,
    enqueuePc_update]

theorem step_turn {s next : State} {action : Action} (sound : Sound s.updates) (ran : step s action = some next) :
    Turn s action next := by
  cases action with
  | deliver b =>
    simp only [step] at ran
    split at ran
    · rename_i delivering
      obtain ⟨d,moved,rfl⟩ := Option.map_eq_some_iff.mp ran
      refine .delivered b delivering ?_
      rw [deliver_downlink (delivers_producers delivering moved)]
      exact moved
    · cases ran
  | manage a =>
    obtain ⟨updates,stepped,rfl⟩ := Option.map_eq_some_iff.mp ran
    cases step_managed stepped with
    | update c a utcnow free =>
      refine .same rfl ?_
      show Downlink.State.mk _ (fun d => enqueuePc (Function.update s.updates.calls c _ d)) _ _ = _
      rw [enqueuePc_same (by rw [free]; rfl)]
      rfl
    | tick now => exact .same rfl rfl
    | locking c uuid call calling outside after =>
      rename_i later lock
      have idle : working call.body = false := by
        cases busy : working call.body with
        | false => rfl
        | true =>
          obtain ⟨attempt,inside⟩ := sound.working c call calling busy
          exact absurd inside (outside attempt)
      refine ran_same ({s.updates with lock := lock}.put c later) calling rfl rfl rfl (asleep_idle idle) ?_ ?_ uuid
      · rcases after with rfl | rfl
        · exact asleep_idle idle
        · rfl
      · intro space display payloadHex same
        rw [same] at idle
        cases idle
    | ran c uuid call calling inside ran store log calls =>
      obtain ⟨args,body⟩ := call
      cases ran with
      | left | read | updated | unshown | undecodable | shown =>
        refine ran_same _ calling calls ?_ log rfl rfl (fun _ _ _ same => by cases same) uuid
        rw [store]
      | inserted same | clearSpace same | clearState same | unequipped same | equipped same | recorded same =>
        refine ran_same _ calling calls ?_ ?_ rfl rfl (fun _ _ _ same => by cases same) uuid
        · rw [store,same.queue]
        · rw [log,same.log]
      | asked =>
        rename_i space display payloadHex
        refine .called c uuid (askedArgs s.updates args display payloadHex) (by simp [asked,calling]) ?_
        have idle : s.downlink.producers c = .idle := by
          show enqueuePc (s.updates.calls c) = _
          rw [calling]
          rfl
        have event : called s.updates updates (.run c uuid) = [.called (askedArgs s.updates args display payloadHex)] := by
          show started (s.updates.calls c) (updates.calls c) = _
          rw [calling,calls,Function.update_self]
          rfl
        rw [Downlink.step,idle]
        simp only [State.downlink,Downlink.State.put,logged,event,store,log,calls,enqueuePc_update]
        rfl
      | enqueued produced =>
        refine produced_turn _ calling rfl calls ?_ ?_ produced
        · rw [store]
        · rw [log]
      | enqueuing produced open' =>
        refine produced_turn _ calling rfl calls ?_ ?_ produced
        · rw [store]
        · rw [log]

end Projection

section Commands

-- Between its UPDATE and its enqueue call an update owes the display a payload.
def owing : Body → Bool
  | .insert _ | .clearSpace _ | .clearState _ | .clearAll _ | .fetchDisplay _ _ | .fetchTenant _ _ _ => true
  | _ => false

theorem owing_working {body : Body} (owes : owing body = true) : working body = true := by
  cases body <;> first | rfl | cases owes

theorem ran_displays {s changed : Updates.State} (ran : Ran s c uuid a before changed later) :
    changed.store.displays = s.store.displays := by
  cases ran with
  | inserted same | clearSpace same | clearState same | unequipped same | equipped same | recorded same =>
    exact same.displays
  | _ => rfl

theorem ran_spaces {s changed : Updates.State} (ran : Ran s c uuid a before changed later) :
    changed.store.spaces = s.store.spaces ∨ ∃ space, before = .update space ∧ later = .insert space ∧
      changed.store.spaces = s.store.spaces.setState a.spaceId a.newState := by
  cases ran with
  | inserted same | clearSpace same | clearState same | unequipped same | equipped same | recorded same =>
    exact .inl same.spaces
  | updated => exact .inr ⟨_,rfl,rfl,rfl⟩
  | _ => exact .inl rfl

theorem ran_owing {s changed : Updates.State} (ran : Ran s c uuid a before changed later) (owes : owing later = true) :
    owing before = true ∨ ∃ space, before = .update space := by
  cases ran with
  | updated => exact .inr ⟨_,rfl⟩
  | inserted | clearSpace | clearState | equipped | shown => exact .inl rfl
  | left | read | unequipped | unshown | undecodable | asked | enqueued | enqueuing | recorded => cases owes

end Commands

-- A space and the display device that shows it.
structure Pairing where
  spaceId : String
  display : DisplayDevice
  payload : SpaceState → String

def Pairing.device (pair : Pairing) : DeviceEui := pair.display.devEui

def Pairing.content (pair : Pairing) (new : SpaceState) : String × Int := (pair.payload new,pair.display.fport)

-- The tables name the device for this space and for no other, and the device has
-- a decodable code for every state, no two of which share a digest.
structure Pairing.Configured (pair : Pairing) (store : Store) : Prop where
  named : pair.device ≠ ""
  shown : (store.displays.find? fun display => display.devEui == pair.device && display.enabled) = some pair.display
  coded : ∀ new, Downlink.orNone (pair.display.displayCodes new) = some (pair.payload new)
  decodable : ∀ new, ∃ decoded, Hex.fromHex (pair.payload new) = .ok decoded
  distinct : ∀ new other, Downlink.computeContentHash pair.device (pair.payload new) pair.display.fport =
    Downlink.computeContentHash pair.device (pair.payload other) pair.display.fport → pair.payload new = pair.payload other
  own : ∀ spaceId space, store.spaces.getSpace spaceId = some space →
    (space.displayEui = some pair.device ↔ spaceId = pair.spaceId)

-- What a call knows of the display it is on the way to.
def Pairing.Aims (pair : Pairing) (a : UpdateArgs) : Body → Prop
  | .update space | .insert space | .clearSpace space | .clearState space | .clearAll space =>
    space.displayEui = some pair.device ↔ a.spaceId = pair.spaceId
  | .fetchDisplay _ displayEui => displayEui = pair.device ↔ a.spaceId = pair.spaceId
  | .fetchTenant _ display payloadHex => (display.devEui = pair.device ↔ a.spaceId = pair.spaceId) ∧
      (a.spaceId = pair.spaceId → (payloadHex,display.fport) = pair.content a.newState)
  | .enqueue _ _ _ pc => ∀ b, pc.args = some b → (b.deviceEui = pair.device ↔ a.spaceId = pair.spaceId) ∧
      (a.spaceId = pair.spaceId → b.content = pair.content a.newState)
  | _ => True

section Aims

variable {pair : Pairing} {s changed : Updates.State} {a : UpdateArgs} {before later : Body}

theorem Pairing.Configured.setState {store : Store} (configured : pair.Configured store) (spaceId : String)
    (new : SpaceState) : pair.Configured {store with spaces := store.spaces.setState spaceId new} := by
  refine {configured with own := ?_}
  intro other space found
  by_cases same : other = spaceId
  · subst other
    have found : (store.spaces.setState spaceId new).getSpace spaceId = some space := found
    rw [Table.getSpace,Table.find_setState new (fun space => space.id == spaceId && !space.deleted) fun _ => rfl] at found
    obtain ⟨old,read,rfl⟩ := Option.map_eq_some_iff.mp found
    have kept := configured.own spaceId old read
    split
    · exact kept
    · exact kept
  · refine configured.own other space ?_
    rw [← found]
    exact (Table.setState_getSpace_other same new).symm

theorem ran_configured (configured : pair.Configured s.store) (ran : Ran s c uuid a before changed later) :
    pair.Configured changed.store := by
  have displays := ran_displays ran
  rcases ran_spaces ran with spaces | ⟨_,_,_,spaces⟩
  · exact {configured with shown := by rw [displays]; exact configured.shown, own := by rw [spaces]; exact configured.own}
  · have moved := configured.setState a.spaceId a.newState
    exact {configured with shown := by rw [displays]; exact configured.shown, own := by rw [spaces]; exact moved.own}

theorem orNone_device (named : device ≠ "") : Downlink.orNone displayEui = some device ↔ displayEui = some device := by
  constructor
  · intro kept
    exact (Option.filter_eq_some_iff.mp kept).1
  · rintro rfl
    exact Option.filter_eq_some_iff.mpr ⟨rfl,by simpa using named⟩

theorem ran_aims (configured : pair.Configured s.store) (aims : pair.Aims a before)
    (ran : Ran s c uuid a before changed later) : pair.Aims a later := by
  cases ran with
  | read found => exact configured.own a.spaceId _ found
  | updated | inserted | clearSpace | clearState => exact aims
  | equipped _ equipped =>
    have aims : _ ↔ _ := aims
    rw [← orNone_device configured.named,equipped,Option.some.injEq] at aims
    exact aims
  | shown found coded =>
    rename_i displayEui display payloadHex space
    have selected := List.find?_some found
    simp only [Bool.and_eq_true,beq_iff_eq] at selected
    have aims : displayEui = pair.device ↔ _ := aims
    refine ⟨by rw [selected.1]; exact aims,fun own => ?_⟩
    rw [aims.mpr own] at found
    cases found.symm.trans configured.shown
    cases coded.symm.trans (configured.coded a.newState)
    rfl
  | asked =>
    intro b args
    cases args
    exact aims
  | enqueuing produced _ =>
    intro b args
    exact aims b (Downlink.produced_args (Downlink.produce_sound produced) args)
  | left | unequipped | unshown | undecodable | enqueued | recorded => trivial

-- A call for the space of the pair gets as far as the enqueue call.
theorem ran_owes (configured : pair.Configured s.store) (aims : pair.Aims a before) (own : a.spaceId = pair.spaceId)
    (owes : owing before = true) (ran : Ran s c uuid a before changed later) :
    owing later = true ∨ ∃ space display payloadHex, before = .fetchTenant space display payloadHex := by
  cases ran with
  | inserted | clearSpace | clearState | equipped | shown => exact .inl rfl
  | asked => exact .inr ⟨_,_,_,rfl⟩
  | unequipped _ missing =>
    have shown := (orNone_device configured.named).mpr (aims.mpr own)
    rw [missing] at shown
    cases shown
  | unshown missing =>
    have uncoded := missing pair.display (by rw [shownBy,aims.mpr own]; exact configured.shown)
    rw [configured.coded] at uncoded
    cases uncoded
  | undecodable found coded undecodable =>
    rw [shownBy,aims.mpr own] at found
    cases found.symm.trans configured.shown
    cases coded.symm.trans (configured.coded a.newState)
    obtain ⟨decoded,decodable⟩ := configured.decodable a.newState
    cases undecodable.symm.trans decodable
  | left | read | updated | enqueued | enqueuing | recorded => cases owes

end Aims

section Managed

variable {s next : Updates.State} {action : Updates.Action} {call : Updating}

theorem managed_call (managed : Managed s action next) (calling : next.calls d = some call) :
    s.calls d = some call ∨ call.body = .getSpace ∨ ∃ old changed uuid, s.calls d = some old ∧ call.args = old.args ∧
      Ran s d uuid old.args old.body changed call.body ∧ next.store = changed.store := by
  cases managed with
  | update c a utcnow free =>
    rcases Updates.put_calls calling with ⟨_,rfl⟩ | ⟨_,old⟩
    · exact .inr (.inl rfl)
    · exact .inl old
  | ran c uuid old calling' inside ran store log calls =>
    rw [calls] at calling
    by_cases same : d = c
    · subst d
      rw [Function.update_self] at calling
      cases calling
      exact .inr (.inr ⟨old,_,uuid,calling',rfl,ran,store⟩)
    · rw [Function.update_of_ne same] at calling
      exact .inl calling
  | locking c uuid old calling' outside after =>
    by_cases same : d = c
    · subst d
      have slot : _ = some call := (Function.update_self c _ s.calls).symm.trans calling
      rcases after with rfl | rfl
      · cases slot
        exact .inl calling'
      · cases slot
    · have slot : s.calls d = some call := (Function.update_of_ne same _ s.calls).symm.trans calling
      exact .inl slot
  | tick => exact .inl calling

theorem managed_spaces (managed : Managed s action next) : next.store.spaces = s.store.spaces ∨
    ∃ c old space, s.calls c = some old ∧ old.body = .update space ∧ next.calls c = some ⟨old.args,.insert space⟩ ∧
      next.store.spaces = s.store.spaces.setState old.args.spaceId old.args.newState := by
  cases managed with
  | ran c uuid old calling inside ran store log calls =>
    rw [store]
    rcases ran_spaces ran with same | ⟨space,before,rfl,set⟩
    · exact .inl same
    · exact .inr ⟨c,old,space,calling,before,by rw [calls,Function.update_self],set⟩
  | _ => exact .inl rfl

-- What a call has written stays so until it has asked for the display.
def Written (s : Updates.State) : Prop :=
  ∀ c call, s.calls c = some call → owing call.body = true →
    s.store.spaces.stateOf call.args.spaceId = some call.args.newState

theorem written_kept (sound : Sound s) (written : Written s) (managed : Managed s action next)
    (calling : s.calls d = some call) (owes : owing call.body = true) :
    next.store.spaces.stateOf call.args.spaceId = some call.args.newState := by
  have before := written d call calling owes
  rcases managed_spaces managed with same | ⟨c,old,space,updating,body,_,set⟩
  · rw [same]
    exact before
  · have apart : call.args.spaceId ≠ old.args.spaceId := by
      intro same
      have alone := sound.alone calling updating (owing_working owes) (by rw [body]; rfl) same
      subst alone
      cases calling.symm.trans updating
      rw [body] at owes
      cases owes
    rw [set,Table.setState_stateOf_other apart]
    exact before

theorem written_managed (sound : Sound s) (written : Written s) (managed : Managed s action next) : Written next := by
  intro d call calling owes
  rcases managed_call managed calling with old | start | ⟨old,changed,uuid,was,args,ran,store⟩
  · exact written_kept sound written managed old owes
  · rw [start] at owes
    cases owes
  · rw [args]
    rcases ran_owing ran owes with before | ⟨space,before⟩
    · exact written_kept sound written managed was before
    · have known := Table.getSpace_stateOf (sound.current.update d old space was before)
      rw [store]
      rw [before] at ran
      generalize call.body = later at ran
      cases ran
      exact Table.setState_stateOf (by rw [known]; rfl) _

theorem managed_aims {pair : Pairing} (configured : pair.Configured s.store)
    (aims : ∀ c call, s.calls c = some call → pair.Aims call.args call.body) (managed : Managed s action next) :
    ∀ c call, next.calls c = some call → pair.Aims call.args call.body := by
  intro d call calling
  rcases managed_call managed calling with old | start | ⟨old,changed,uuid,was,args,ran,_⟩
  · exact aims d call old
  · rw [start]
    trivial
  · rw [args]
    exact ran_aims configured (aims d old was) ran

theorem managed_configured {pair : Pairing} (configured : pair.Configured s.store) (managed : Managed s action next) :
    pair.Configured next.store := by
  cases managed with
  | ran c uuid old calling inside ran store log calls =>
    rw [store]
    exact ran_configured configured ran
  | _ => exact configured

end Managed

-- The manager loses no lock to its expiry, one worker runs, nothing expires, and
-- an enqueue call for the device reads keys that name what is due.
def Careful (device : DeviceEui) (s : State) : Action → Prop
  | .manage (.run c uuid) => Downlink.Ordered device s.downlink (.produce c uuid)
  | .manage a => Updates.Lasting s.updates a
  | .deliver b => Downlink.Scope s.downlink b

-- What ties the calls of the manager to the device in every state of a run.
structure Tied (pair : Pairing) (s : State) : Prop where
  sound : Sound s.updates
  configured : pair.Configured s.updates.store
  aims : ∀ c call, s.updates.calls c = some call → pair.Aims call.args call.body
  written : Written s.updates
  known : ∀ b, .called b ∈ s.updates.log → b.deviceEui = pair.device → ∃ new, b.content = pair.content new

section Tied

variable {pair : Pairing} {s next : State} {action : Action}

theorem careful_lasting (careful : Careful device s (.manage a)) : Updates.Lasting s.updates a := by
  cases a with
  | run c uuid => trivial
  | update c args utcnow => trivial
  | tick now => exact careful

theorem turn_called (turn : Turn s action next) (member : .called b ∈ next.updates.log) :
    .called b ∈ s.updates.log ∨ asked s action = some b := by
  have member : .called b ∈ next.downlink.events := member
  cases turn with
  | same _ same =>
    rw [same] at member
    exact .inl member
  | called c uuid a asks ran =>
    rcases Downlink.step_called (Downlink.step_sound ran) member with old | ⟨p,equal⟩
    · exact .inl old
    · cases equal
      exact .inr asks
  | produced c uuid _ ran =>
    rcases Downlink.step_called (Downlink.step_sound ran) member with old | ⟨p,equal⟩
    · exact .inl old
    · cases equal
  | delivered b delivering ran =>
    rcases Downlink.step_called (Downlink.step_sound ran) member with old | ⟨p,rfl⟩
    · exact .inl old
    · cases delivering

theorem asked_call (asks : asked s action = some b) : ∃ c uuid call space display payloadHex,
    action = .manage (.run c uuid) ∧ s.updates.calls c = some call ∧ call.body = .fetchTenant space display payloadHex ∧
      b = askedArgs s.updates call.args display payloadHex := by
  cases action with
  | deliver b => cases asks
  | manage a =>
    cases a with
    | update c a utcnow | tick now => cases asks
    | run c uuid =>
      simp only [asked] at asks
      split at asks
      · rename_i a space display payloadHex calling
        cases asks
        exact ⟨c,uuid,_,space,display,payloadHex,rfl,calling,rfl,rfl⟩
      · cases asks

-- The calls for the device are those of the space, each with the code of its
-- own new state.
theorem asked_content (tied : Tied pair s) (asks : asked s action = some b) : ∃ c uuid call,
    action = .manage (.run c uuid) ∧ s.updates.calls c = some call ∧ owing call.body = true ∧
      (b.deviceEui = pair.device ↔ call.args.spaceId = pair.spaceId) ∧
      (call.args.spaceId = pair.spaceId → b.content = pair.content call.args.newState) := by
  obtain ⟨c,uuid,call,space,display,payloadHex,rfl,calling,body,rfl⟩ := asked_call asks
  have aims := tied.aims c call calling
  rw [body] at aims
  exact ⟨c,uuid,call,rfl,calling,by rw [body]; rfl,aims⟩

theorem tied_preserved (tied : Tied pair s) (careful : Careful pair.device s action) (ran : step s action = some next) :
    Tied pair next := by
  have known : ∀ b, .called b ∈ next.updates.log → b.deviceEui = pair.device → ∃ new, b.content = pair.content new := by
    intro b member of
    rcases turn_called (step_turn tied.sound ran) member with old | asks
    · exact tied.known b old of
    · obtain ⟨c,uuid,call,_,_,_,own,content⟩ := asked_content tied asks
      exact ⟨call.args.newState,content (own.mp of)⟩
  cases action with
  | manage a =>
    obtain ⟨updates,stepped,rfl⟩ := Option.map_eq_some_iff.mp ran
    have managed := step_managed stepped
    have sound := sound_managed tied.sound (careful_lasting careful) stepped
    have configured := managed_configured tied.configured managed
    have aims := managed_aims tied.configured tied.aims managed
    have written := written_managed tied.sound tied.written managed
    exact ⟨sound.kept rfl rfl rfl,configured,aims,written,known⟩
  | deliver b =>
    simp only [step] at ran
    split at ran
    · obtain ⟨d,moved,rfl⟩ := Option.map_eq_some_iff.mp ran
      exact ⟨tied.sound.kept rfl rfl rfl,{tied.configured with},tied.aims,tied.written,known⟩
    · cases ran

-- No update of the space is between its UPDATE and its enqueue call.
def Paid (spaceId : String) (s : State) : Prop :=
  ∀ c call, s.updates.calls c = some call → call.args.spaceId = spaceId → owing call.body = false

def State.stateOf (s : State) (spaceId : String) : Option SpaceState := s.updates.store.spaces.stateOf spaceId

-- The content of a state of the space, or none before the first change.
def Shows (pair : Pairing) (first : Option SpaceState) (s : State) (content : Option (String × Int)) : Prop :=
  content = none ∧ s.stateOf pair.spaceId = first ∨
    ∃ new, s.stateOf pair.spaceId = some new ∧ content = some (pair.content new)

theorem turn_lastCalled (turn : Turn s action next) (device : DeviceEui) :
    (∀ b, asked s action = some b → b.deviceEui ≠ device) ∧
      lastCalled next.updates.log device = lastCalled s.updates.log device ∨
    ∃ b, asked s action = some b ∧ b.deviceEui = device ∧ lastCalled next.updates.log device = some b.content := by
  show _ ∧ lastCalled next.downlink.events device = lastCalled s.downlink.events device ∨
    ∃ b, _ ∧ _ ∧ lastCalled next.downlink.events device = _
  cases turn with
  | same unasked same =>
    rw [same,unasked]
    exact .inl ⟨fun _ asks => (by cases asks),rfl⟩
  | called c uuid a asks ran =>
    rw [asks,Downlink.call_logged (Downlink.step_sound ran),lastCalled]
    by_cases of : a.deviceEui = device
    · exact .inr ⟨a,rfl,of,if_pos of⟩
    · refine .inl ⟨fun b equal => ?_,if_neg of⟩
      cases equal
      exact of
  | produced c uuid unasked ran =>
    rw [unasked]
    rcases Downlink.step_lastCalled (Downlink.step_sound ran) device with same | ⟨p,a,equal,_⟩
    · exact .inl ⟨fun _ asks => (by cases asks),same⟩
    · cases equal
  | delivered b delivering ran =>
    rcases Downlink.step_lastCalled (Downlink.step_sound ran) device with same | ⟨p,a,rfl,_⟩
    · exact .inl ⟨fun _ asks => (by cases asks),same⟩
    · cases delivering

theorem owing_kept {next : Updates.State} (tied : Tied pair s) (managed : Managed s.updates a next)
    (calling : s.updates.calls d = some call) (own : call.args.spaceId = pair.spaceId) (owes : owing call.body = true) :
    (∃ later, next.calls d = some ⟨call.args,later⟩ ∧ owing later = true) ∨
    ∃ uuid space display payloadHex, a = .run d uuid ∧ call.body = .fetchTenant space display payloadHex := by
  cases managed with
  | update c args utcnow free =>
    have apart : d ≠ c := by
      rintro rfl
      rw [free] at calling
      cases calling
    exact .inl ⟨call.body,(Function.update_of_ne apart _ _).trans calling,owes⟩
  | ran c uuid old calling' inside ran store log calls =>
    rw [calls]
    by_cases same : d = c
    · subst d
      cases calling.symm.trans calling'
      have aims := tied.aims c call calling
      rcases ran_owes tied.configured aims own owes ran with later | ⟨space,display,payloadHex,body⟩
      · exact .inl ⟨_,Function.update_self c _ _,later⟩
      · exact .inr ⟨uuid,space,display,payloadHex,rfl,body⟩
    · exact .inl ⟨call.body,(Function.update_of_ne same _ _).trans calling,owes⟩
  | locking c uuid old calling' outside after =>
    have apart : d ≠ c := by
      rintro rfl
      cases calling.symm.trans calling'
      obtain ⟨attempt,inside⟩ := tied.sound.working d call calling (owing_working owes)
      exact outside attempt inside
    exact .inl ⟨call.body,(Function.update_of_ne apart _ _).trans calling,owes⟩
  | tick => exact .inl ⟨call.body,calling,owes⟩

theorem shows_managed (next : Updates.State) (tied : Tied pair s) (managed : Managed s.updates a next)
    (shows' : Paid pair.spaceId s → Shows pair first s content) (paid : Paid pair.spaceId {s with updates := next})
    (unasked : ∀ b, asked s (.manage a) = some b → b.deviceEui ≠ pair.device) :
    Shows pair first {s with updates := next} content := by
  have before : Paid pair.spaceId s := by
    intro d call calling own
    by_contra still
    have owes : owing call.body = true := by simpa using still
    rcases owing_kept tied managed calling own owes with ⟨later,after,owes⟩ | ⟨uuid,space,display,payloadHex,rfl,body⟩
    · have none := paid d _ after own
      rw [owes] at none
      cases none
    · obtain ⟨args,body'⟩ := call
      cases body
      have aims := tied.aims d _ calling
      have asks : asked s (.manage (.run d uuid)) = some (askedArgs s.updates args display payloadHex) := by
        simp only [asked,calling]
      exact unasked _ asks (aims.1.mpr own)
  have same : State.stateOf {s with updates := next} pair.spaceId = s.stateOf pair.spaceId := by
    show next.store.spaces.stateOf _ = s.updates.store.spaces.stateOf _
    rcases managed_spaces managed with same | ⟨c,old,space,_,_,after,set⟩
    · rw [same]
    · rw [set]
      refine Table.setState_stateOf_other (fun own => ?_) _
      have none := paid c _ after own.symm
      cases none
  rw [Shows,same]
  exact shows' before

theorem shows_preserved (tied : Tied pair s) (shows' : Paid pair.spaceId s →
      Shows pair first s (lastCalled s.updates.log pair.device))
    (ran : step s action = some next) (paid : Paid pair.spaceId next) :
    Shows pair first next (lastCalled next.updates.log pair.device) := by
  have turn := step_turn tied.sound ran
  cases action with
  | deliver b =>
    rcases turn_lastCalled turn pair.device with ⟨_,same⟩ | ⟨b,asks,_⟩
    · rw [same]
      simp only [step] at ran
      split at ran
      · obtain ⟨d,_,rfl⟩ := Option.map_eq_some_iff.mp ran
        exact shows' paid
      · cases ran
    · cases asks
  | manage a =>
    rcases turn_lastCalled turn pair.device with ⟨unasked,same⟩ | ⟨b,asks,of,last⟩
    · rw [same]
      obtain ⟨updates,stepped,rfl⟩ := Option.map_eq_some_iff.mp ran
      exact shows_managed updates tied (step_managed stepped) shows' paid unasked
    · obtain ⟨c,uuid,call,_,calling,owes,own,content⟩ := asked_content tied asks
      obtain ⟨updates,stepped,rfl⟩ := Option.map_eq_some_iff.mp ran
      have kept := written_kept tied.sound tied.written (step_managed stepped) calling owes
      rw [own.mp of] at kept
      refine .inr ⟨call.args.newState,kept,?_⟩
      rw [last,content (own.mp of)]

theorem enqueuePc_args {call : Option Updating} (args : (enqueuePc call).args = some b) :
    ∃ a space display payloadHex pc, call = some ⟨a,.enqueue space display payloadHex pc⟩ ∧ pc.args = some b := by
  rcases call with _ | ⟨a,body⟩
  · cases args
  · cases body with
    | enqueue space display payloadHex pc => exact ⟨a,space,display,payloadHex,pc,rfl,args⟩
    | _ => cases args

-- The lock of the space is what makes the calls for its display come one after
-- the other.
theorem asked_ordered (tied : Tied pair s) (asks : asked s (.manage (.run c uuid)) = some a) :
    Downlink.Ordered pair.device s.downlink (.call c a) := by
  intro of
  obtain ⟨d,_,call,equal,calling,owes,own,content⟩ := asked_content tied asks
  cases equal
  refine ⟨fun p b args named => ?_,fun b member named same => ?_⟩
  · obtain ⟨args,space,display,payloadHex,pc,running,under⟩ := enqueuePc_args args
    have aims := tied.aims p _ running b under
    have alone := tied.sound.alone running calling rfl (owing_working owes)
      (show args.spaceId = call.args.spaceId by rw [aims.1.mp named,own.mp of])
    subst alone
    cases running.symm.trans calling
    cases owes
  · obtain ⟨new,shown⟩ := tied.known b member named
    have content := content (own.mp of)
    obtain ⟨payload,fport⟩ := Prod.mk.inj shown
    obtain ⟨payload',fport'⟩ := Prod.mk.inj content
    rw [Downlink.EnqueueArgs.contentHash,Downlink.EnqueueArgs.contentHash,named,of,payload,fport,payload',fport'] at same
    rw [shown,content,Pairing.content,Pairing.content,tied.configured.distinct _ _ same]

theorem turn_steady (tied : Tied pair s) (careful : Careful pair.device s action) (turn : Turn s action next) :
    next.downlink = s.downlink ∨ ∃ b, Downlink.Steady pair.device s.downlink b ∧
      Downlink.step s.downlink b = some next.downlink := by
  cases turn with
  | same _ same => exact .inl same
  | called c uuid a asks ran => exact .inr ⟨.call c a,⟨trivial,asked_ordered tied asks⟩,ran⟩
  | produced c uuid _ ran => exact .inr ⟨.produce c uuid,⟨trivial,careful⟩,ran⟩
  | delivered b delivering ran =>
    refine .inr ⟨b,⟨careful,?_⟩,ran⟩
    cases b with
    | call | produce => cases delivering
    | _ => trivial

end Tied

-- Nothing is locked, called, queued or sent yet.
structure Fresh (s : State) : Prop where
  lock : s.updates.lock = .initial
  calls : s.updates.calls = fun _ => none
  queue : s.updates.store.queue = .empty
  log : s.updates.log = []
  workers : s.workers = fun _ => .stopped

section Runs

variable {pair : Pairing} {start s : State}

theorem Fresh.downlink (fresh : Fresh start) : start.downlink = .initial := by
  rw [State.downlink,fresh.queue,fresh.calls,fresh.log,fresh.workers]
  rfl

theorem Fresh.tied (fresh : Fresh start) (configured : pair.Configured start.updates.store) : Tied pair start := by
  have idle : ∀ c call, start.updates.calls c = some call → False := by
    intro c call calling
    rw [fresh.calls] at calling
    cases calling
  refine ⟨⟨⟨?_,?_⟩,?_,⟨?_,?_,?_⟩,?_⟩,configured,?_,?_,?_⟩
  · exact fun c call _ calling => (idle c call calling).elim
  · exact fun c call calling => (idle c call calling).elim
  · rw [fresh.lock]
    exact Lock.reached_locked .refl
  · exact fun c call _ calling => (idle c call calling).elim
  · exact fun c call _ calling => (idle c call calling).elim
  · exact fun c call _ calling => (idle c call calling).elim
  · exact fun c call calling => (idle c call calling).elim
  · exact fun c call calling => (idle c call calling).elim
  · exact fun c call calling => (idle c call calling).elim
  · intro b member
    rw [fresh.log] at member
    exact absurd member List.not_mem_nil

theorem reached_tied (fresh : Fresh start) (configured : pair.Configured start.updates.store)
    (path : Runs.Reached step (Careful pair.device) start s) : Tied pair s :=
  path.invariant (Tied pair) (fresh.tied configured) fun tied careful ran => tied_preserved tied careful ran

theorem reached_shows (fresh : Fresh start) (configured : pair.Configured start.updates.store)
    (path : Runs.Reached step (Careful pair.device) start s) (paid : Paid pair.spaceId s) :
    Shows pair (start.stateOf pair.spaceId) s (lastCalled s.updates.log pair.device) := by
  refine path.invariantUnder (Tied pair) (fun s => Paid pair.spaceId s →
    Shows pair (start.stateOf pair.spaceId) s (lastCalled s.updates.log pair.device))
    (fun prior => reached_tied fresh configured prior) ?_
    (fun tied shows' _ ran => shows_preserved tied shows' ran) paid
  intro _
  rw [fresh.log]
  exact .inl ⟨rfl,rfl⟩

-- The run of the queue alone, each of whose calls waits for the one before.
theorem reached_steady (fresh : Fresh start) (configured : pair.Configured start.updates.store)
    (path : Runs.Reached step (Careful pair.device) start s) :
    Runs.Reached Downlink.step (Downlink.Steady pair.device) .initial s.downlink := by
  have linked : Runs.Reached step (fun s action => Tied pair s ∧ Careful pair.device s action) start s :=
    path.meeting fun prior careful => ⟨reached_tied fresh configured prior,careful⟩
  rw [← fresh.downlink]
  exact linked.project State.downlink fun met ran => turn_steady met.1 met.2 (step_turn met.1.sound ran)

theorem quiet_sent {d : Downlink.State} {content : Option (String × Int)}
    (path : Runs.Reached Downlink.step meets .initial d) (settled : Downlink.Settled device d content)
    (quiet : Downlink.Quiet device d) : lastSent d.events device = content := by
  cases settled with
  | due id a live _ _ =>
    obtain ⟨b,created,_,of⟩ := (Downlink.reached_shaped path).genuine live.1
    obtain ⟨missing,free⟩ := quiet.commands id b created of
    rcases live.2 with member | ⟨w,held⟩
    · exact absurd member missing
    · exact absurd held (free w)
  | sent _ _ last => exact last
  | dead cmd a member created of =>
    obtain ⟨letter,found,rfl⟩ := (Downlink.reached_buried path cmd).mp member
    exact absurd of (quiet.dead letter found a created)

-- Once no update of the space owes its display a payload and the queue holds
-- nothing for the device, the device was last sent the code of the state that
-- the table has, whatever updates came at the same time and in whatever order.
theorem displays_settle (fresh : Fresh start) (configured : pair.Configured start.updates.store)
    (path : Runs.Reached step (Careful pair.device) start s) (paid : Paid pair.spaceId s)
    (quiet : Downlink.Quiet pair.device s.downlink) :
    lastSent s.updates.log pair.device = none ∧ s.stateOf pair.spaceId = start.stateOf pair.spaceId ∨
    ∃ new, s.stateOf pair.spaceId = some new ∧ lastSent s.updates.log pair.device = some (pair.content new) := by
  have steady := reached_steady fresh configured path
  have settled := (Downlink.steady_follows steady configured.named).resting quiet.calls
  have sent := quiet_sent steady settled quiet
  have sent : lastSent s.updates.log pair.device = lastCalled s.updates.log pair.device := sent
  rw [sent]
  exact reached_shows fresh configured path paid

end Runs

section Example

def uncreated (log : List Event) : Bool :=
  log.all fun event => match event with
    | .created _ _ _ => false
    | _ => true

theorem uncreated_createdBy {log : List Event} (test : uncreated log = true) (id : CmdId) : createdBy log id = none := by
  induction log with
  | nil => rfl
  | cons event log ih =>
    obtain ⟨first,later⟩ := Bool.and_eq_true_iff.mp test
    cases event with
    | created p key a => cases first
    | _ => exact ih later

-- One call and one worker, and nothing is due when the call reads its keys.
def single (s : State) : Action → Bool
  | .manage (.update c _ _) => c == 0
  | .manage (.run c _) => c == 0 &&
      match enqueuePc (s.updates.calls c) with
      | .getLastHash _ | .getCoalesce _ => uncreated s.updates.log
      | _ => true
  | .manage (.tick _) => false
  | .deliver (.work w _) | .deliver (.start w) => w == 0
  | .deliver _ => false

variable {pair : Pairing} {start s : State}

theorem single_careful (fresh : Fresh start) (configured : pair.Configured start.updates.store)
    (path : Runs.Reached step (fun s action => Careful pair.device s action ∧ single s action = true) start s)
    (test : single s action = true) : Careful pair.device s action ∧ single s action = true := by
  refine ⟨?_,test⟩
  have steady := reached_steady fresh configured (path.weaken fun _ _ met => met.1)
  have shaped := Downlink.reached_shaped steady
  cases action with
  | manage a =>
    cases a with
    | update c a utcnow => trivial
    | tick now => cases test
    | run c uuid =>
      obtain ⟨_,reads⟩ := Bool.and_eq_true_iff.mp test
      constructor
      · intro a before _ _ id b _ created
        have before : enqueuePc (s.updates.calls c) = _ := before
        rw [before] at reads
        have created : createdBy s.updates.log id = some b := created
        rw [uncreated_createdBy reads id] at created
        cases created
      · intro a before _ id live
        have before : enqueuePc (s.updates.calls c) = _ := before
        rw [before] at reads
        obtain ⟨b,created,_⟩ := shaped.genuine live.1
        have created : createdBy s.updates.log id = some b := created
        rw [uncreated_createdBy reads id] at created
        cases created
  | deliver b =>
    cases b with
    | work w reply | start w => exact beq_iff_eq.mp test
    | _ => cases test

theorem single_calls (fresh : Fresh start)
    (path : Runs.Reached step (fun s action => Careful pair.device s action ∧ single s action = true) start s)
    (other : c ≠ 0) : s.updates.calls c = none := by
  refine path.invariant (fun s => s.updates.calls c = none) (by rw [fresh.calls]) ?_
  intro s action next held met ran
  have test := met.2
  cases action with
  | deliver b =>
    simp only [step] at ran
    split at ran
    · obtain ⟨d,_,rfl⟩ := Option.map_eq_some_iff.mp ran
      exact held
    · cases ran
  | manage a =>
    obtain ⟨updates,stepped,rfl⟩ := Option.map_eq_some_iff.mp ran
    show updates.calls c = none
    cases step_managed stepped with
    | update d a utcnow free =>
      have zero : d = 0 := beq_iff_eq.mp test
      exact (Function.update_of_ne (zero ▸ other) _ _).trans held
    | ran d uuid call calling inside ran store log calls =>
      have zero : d = 0 := beq_iff_eq.mp (Bool.and_eq_true_iff.mp test).1
      rw [calls,zero,Function.update_of_ne other]
      exact held
    | locking d uuid call calling outside after =>
      have zero : d = 0 := beq_iff_eq.mp (Bool.and_eq_true_iff.mp test).1
      exact (Function.update_of_ne (zero ▸ other) _ _).trans held
    | tick => exact held

def oneDisplay : DisplayDevice where
  id := "D1"
  devEui := "d1"
  displayCodes
    | .free => some "00"
    | .occupied => some "01"
    | .reserved => some "02"
    | .maintenance => some "03"
  fport := 1
  confirmedDownlinks := false

def onePair : Pairing where
  spaceId := "A1"
  display := oneDisplay
  payload
    | .free => "00"
    | .occupied => "01"
    | .reserved => "02"
    | .maintenance => "03"

def shownSpace : Table where
  rows := [{id := "A1",code := "A-1",sensorEui := none,displayEui := some "d1",state := .free,tenantId := none}]
  primaryKey := by decide
  sensorEui := by decide

def oneDisplayState : State :=
  ⟨⟨.initial,fun _ => none,⟨shownSpace,[],[oneDisplay],[],fun _ => none,.empty⟩,fun _ => none,[]⟩,fun _ => .stopped⟩

theorem oneDisplay_configured : onePair.Configured oneDisplayState.updates.store := by
  refine ⟨by decide,rfl,?_,?_,?_,?_⟩
  · intro new
    cases new <;> rfl
  · intro new
    cases new <;> exact ⟨_,rfl⟩
  · intro new other
    cases new <;> cases other <;> decide +kernel
  · intro spaceId space found
    obtain ⟨member,rfl,_⟩ := Table.getSpace_row found
    cases List.mem_singleton.mp member
    exact ⟨fun _ => rfl,fun _ => rfl⟩

theorem single_quiet (fresh : Fresh start) (configured : pair.Configured start.updates.store)
    (path : Runs.Reached step (fun s action => Careful pair.device s action ∧ single s action = true) start s)
    (ended : (s.updates.calls 0).isNone) (queue : s.updates.store.queue.pending = []) (empty : (s.workers 0).held = none)
    (dead : s.updates.store.queue.dead = []) : Paid pair.spaceId s ∧ Downlink.Quiet pair.device s.downlink := by
  have calls : ∀ c, s.updates.calls c = none := by
    intro c
    by_cases zero : c = 0
    · rw [zero]
      exact Option.isNone_iff_eq_none.mp ended
    · exact single_calls fresh path zero
  have steady := reached_steady fresh configured (path.weaken fun _ _ met => met.1)
  refine ⟨fun c call calling => ?_,?_,?_,?_⟩
  · rw [calls c] at calling
    cases calling
  · intro p a args
    have args : (enqueuePc (s.updates.calls p)).args = some a := args
    rw [calls p] at args
    cases args
  · intro id a _ _
    refine ⟨?_,fun w held => ?_⟩
    · show id ∉ s.updates.store.queue.pending
      rw [queue]
      exact List.not_mem_nil
    · by_cases zero : w = 0
      · have held : (s.workers w).held = some id := held
        rw [zero,empty] at held
        cases held
      · rw [Downlink.steady_stopped steady zero] at held
        cases held
  · intro letter member
    have member : letter ∈ s.updates.store.queue.dead := member
    rw [dead] at member
    exact absurd member List.not_mem_nil

theorem displays_settle_occupied : ∃ s : State, s.stateOf "A1" = some .occupied ∧
    (lastSent s.updates.log "d1" = none ∧ s.stateOf "A1" = oneDisplayState.stateOf "A1" ∨
      ∃ new, s.stateOf "A1" = some new ∧ lastSent s.updates.log "d1" = some (onePair.content new)) := by
  have fresh : Fresh oneDisplayState := ⟨rfl,rfl,rfl,rfl,rfl⟩
  have start : Runs.Reached step (fun s action => Careful onePair.device s action ∧ single s action = true)
    oneDisplayState oneDisplayState := .refl
  obtain ⟨s,path,ended,queue,empty,dead,last⟩ := start.found single
    (fun s => (s.updates.calls 0).isNone ∧ s.updates.store.queue.pending = [] ∧ (s.workers 0).held = none ∧
      s.updates.store.queue.dead.length = 0 ∧ s.stateOf "A1" = some .occupied)
    (.manage (.update 0 ⟨"A1",.occupied,"sensor_uplink","req-1"⟩ 7)::.deliver (.start 0)::
      (List.replicate 19 (.manage (.run 0 "A")) ++ List.replicate 11 (.deliver (.work 0 .ok))))
    (fun prior test => single_careful fresh oneDisplay_configured prior test) (by decide +kernel)
  obtain ⟨paid,quiet⟩ := single_quiet fresh oneDisplay_configured path ended queue empty (List.length_eq_zero_iff.mp dead)
  exact ⟨s,last,displays_settle fresh oneDisplay_configured (path.weaken fun _ _ met => met.1) paid quiet⟩

end Example

end SmartParking.Spaces.Displays
