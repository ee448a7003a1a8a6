import SmartParking.Downlink.Machine
import SmartParking.Spaces.Lock
import SmartParking.Spaces.StateManager

namespace SmartParking.Spaces.Updates
open Lib
open Downlink (CmdId Time EnqueueArgs EnqueuePc createdBy)

structure UpdateArgs where
  spaceId : String
  newState : SpaceState
  source : String
  requestId : String
  deriving DecidableEq

-- The body of the `async with` between two commands. A constructor names the
-- command that comes next; `done` is the way out, by a return or an exception.
inductive Body where
  | getSpace
  | update (space : Space)
  | insert (space : Space)
  | clearSpace (space : Space)
  | clearState (space : Space)
  | clearAll (space : Space)
  | fetchDisplay (space : Space) (displayEui : String)
  | fetchTenant (space : Space) (display : DisplayDevice) (payloadHex : String)
  | enqueue (space : Space) (display : DisplayDevice) (payloadHex : String) (pc : EnqueuePc)
  | insertActuation (row : Actuation)
  | done

structure Updating where
  args : UpdateArgs
  body : Body

-- The store's own `locks` are not used here: the lock keys are those of `lock`.
structure State where
  lock : Lock.State
  calls : Nat → Option Updating
  store : Store
  cache : String → Option String
  log : List Downlink.Event

def resource (spaceId : String) : String := "space:" ++ spaceId

-- Clear cache, then update display if configured.
def afterCache (space : Space) : Body :=
  match Downlink.orNone space.displayEui with
  | none => .done
  | some displayEui => .fetchDisplay space displayEui

def actuation (a : UpdateArgs) (space : Space) (display : DisplayDevice) (payloadHex : String) :
    Option CmdId → Option String → Actuation :=
  .mk a.spaceId a.source a.requestId space.state a.newState display.devEui display.id payloadHex

def queued : EnqueuePc → Option CmdId
  | .incrEnqueued _ id => some id
  | _ => none

def State.deleteCache (s : State) (key : String) : State := {s with cache := Function.update s.cache key none}

def body (s : State) (c : Nat) (uuid : CmdId) (a : UpdateArgs) : Body → Option (State × Body)
  | .getSpace =>
    match s.store.spaces.getSpace a.spaceId with
    | none => some (s,.done)
    | some space =>
      if space.state = a.newState then some (s,.done)
      else if isValidTransition space.state a.newState a.source then some (s,.update space)
      else some (s,.done)
  | .update space =>
    some ({s with store := {s.store with spaces := s.store.spaces.setState a.spaceId a.newState}},.insert space)
  | .insert space =>
    some ({s with store := {s.store with stateChanges := s.store.stateChanges ++
      [⟨a.spaceId,space.state,a.newState,a.source,a.requestId,s.lock.clock⟩]}},.clearSpace space)
  | .clearSpace space => some (s.deleteCache ("space:" ++ a.spaceId),.clearState space)
  | .clearState space => some (s.deleteCache ("space:" ++ a.spaceId ++ ":state"),.clearAll space)
  | .clearAll space => some (s.deleteCache "spaces:all",afterCache space)
  | .fetchDisplay space displayEui =>
    match s.store.displays.find? fun display => display.devEui == displayEui && display.enabled with
    | none => some (s,.done)
    | some display =>
      match Downlink.orNone (display.displayCodes a.newState) with
      | none => some (s,.done)
      | some payloadHex =>
        match Hex.fromHex payloadHex with
        | .error position =>
          some (s,.insertActuation (actuation a space display payloadHex none (some (Hex.errorText position))))
        | .ok _ => some (s,.fetchTenant space display payloadHex)
  | .fetchTenant space display payloadHex =>
    some (s,.enqueue space display payloadHex (.getLastHash
      {deviceEui := display.devEui,payload := payloadHex,fport := display.fport,
       tenantId := s.store.tenantText a.spaceId,confirmed := display.confirmedDownlinks,
       spaceId := some a.spaceId,triggerSource := some a.requestId}))
  | .enqueue space display payloadHex pc =>
    match Downlink.produce s.store.queue c uuid (createdBy s.log uuid).isSome pc with
    | none => none
    | some (queue,events,later) =>
      let s := {s with store := {s.store with queue := queue},log := events ++ s.log}
      match later with
      | .idle => some (s,.insertActuation (actuation a space display payloadHex (queued pc) none))
      | later => some (s,.enqueue space display payloadHex later)
  | .insertActuation row => some ({s with store := {s.store with actuations := s.store.actuations ++ [row]}},.done)
  | .done => none

def State.put (s : State) (c : Nat) (call : Option Updating) : State :=
  {s with calls := Function.update s.calls c call}

def State.leave (s : State) (c : Nat) (attempt : Lock.Attempt) : State :=
  {s with lock := s.lock.move c (.get attempt)}

inductive Action where
  | update (c : Nat) (a : UpdateArgs) (utcnow : Time)
  | run (c : Nat) (uuid : CmdId)
  | tick (now : Time)

def step (s : State) : Action → Option State
  | .update c a utcnow =>
    match s.calls c with
    | some _ => none
    | none =>
      match Lock.step s.lock (.acquire c (resource a.spaceId) none utcnow) with
      | none => none
      | some lock => some ({s with lock := lock}.put c (some ⟨a,.getSpace⟩))
  | .run c uuid =>
    match s.calls c with
    | none => none
    | some call =>
      match s.lock.clients c with
      | .inside attempt =>
        match body s c uuid call.args call.body with
        | none => none
        | some (changed,.done) => some ((changed.leave c attempt).put c (some ⟨call.args,.done⟩))
        | some (changed,later) => some (changed.put c (some ⟨call.args,later⟩))
      | _ =>
        match Lock.step s.lock (.run c) with
        | none => none
        | some lock =>
          if lock.clients c = .outside then some ({s with lock := lock}.put c none)
          else some {s with lock := lock}
  | .tick now =>
    match Lock.step s.lock (.tick now) with
    | none => none
    | some lock => some {s with lock := lock}

-- The row a call has read and not yet accounted for in `state_changes`.
def Body.read : Body → Option Space
  | .update space | .insert space => some space
  | _ => none

-- What a command of the body does to the two tables.
inductive Bodied (s : State) (a : UpdateArgs) : Body → State → Body → Prop where
  | read : s.store.spaces.getSpace a.spaceId = some space → space.state ≠ a.newState →
      isValidTransition space.state a.newState a.source = true → Bodied s a .getSpace s (.update space)
  | updated : Bodied s a (.update space)
      {s with store := {s.store with spaces := s.store.spaces.setState a.spaceId a.newState}} (.insert space)
  | inserted : Bodied s a (.insert space)
      {s with store := {s.store with stateChanges := s.store.stateChanges ++
        [⟨a.spaceId,space.state,a.newState,a.source,a.requestId,s.lock.clock⟩]}} (.clearSpace space)
  | other : before.read = none → later.read = none → changed.lock = s.lock → changed.calls = s.calls →
      changed.store.spaces = s.store.spaces → changed.store.stateChanges = s.store.stateChanges →
      Bodied s a before changed later

theorem afterCache_read (space : Space) : (afterCache space).read = none := by
  unfold afterCache
  split <;> rfl

theorem body_sound (ran : body s c uuid a before = some (changed,later)) : Bodied s a before changed later := by
  cases before with
  | getSpace =>
    simp only [body] at ran
    split at ran
    · cases ran; exact .other rfl rfl rfl rfl rfl rfl
    · rename_i space found
      split at ran
      · cases ran; exact .other rfl rfl rfl rfl rfl rfl
      · split at ran
        · cases ran; exact .read found ‹_› ‹_›
        · cases ran; exact .other rfl rfl rfl rfl rfl rfl
  | update space => cases ran; exact .updated
  | insert space => cases ran; exact .inserted
  | clearSpace space | clearState space => cases ran; exact .other rfl rfl rfl rfl rfl rfl
  | clearAll space => cases ran; exact .other rfl (afterCache_read space) rfl rfl rfl rfl
  | fetchDisplay space displayEui =>
    simp only [body] at ran
    repeat' split at ran
    all_goals cases ran; exact .other rfl rfl rfl rfl rfl rfl
  | fetchTenant space display payloadHex => cases ran; exact .other rfl rfl rfl rfl rfl rfl
  | enqueue space display payloadHex pc =>
    simp only [body] at ran
    split at ran
    · cases ran
    · split at ran <;> (cases ran; exact .other rfl rfl rfl rfl rfl rfl)
  | insertActuation row => cases ran; exact .other rfl rfl rfl rfl rfl rfl
  | done => cases ran

-- All that a step can do. The lock moves on its own, except where a call ends
-- its body.
inductive Stepped (s : State) : Action → State → Prop where
  | update (c : Nat) (a : UpdateArgs) (utcnow : Time) : s.calls c = none →
      Lock.step s.lock (.acquire c (resource a.spaceId) none utcnow) = some lock →
      Stepped s (.update c a utcnow) ({s with lock := lock}.put c (some ⟨a,.getSpace⟩))
  | bodied (c : Nat) (uuid : CmdId) (call : Updating) : s.calls c = some call → s.lock.clients c = .inside attempt →
      Bodied s call.args call.body changed later → later ≠ .done →
      Stepped s (.run c uuid) (changed.put c (some ⟨call.args,later⟩))
  | ended (c : Nat) (uuid : CmdId) (call : Updating) : s.calls c = some call → s.lock.clients c = .inside attempt →
      Bodied s call.args call.body changed .done →
      Stepped s (.run c uuid) ((changed.leave c attempt).put c (some ⟨call.args,.done⟩))
  | locking (c : Nat) (uuid : CmdId) (call : Updating) : s.calls c = some call →
      (∀ attempt, s.lock.clients c ≠ .inside attempt) → Lock.step s.lock (.run c) = some lock →
      after = some call ∨ after = none ∧ lock.clients c = .outside →
      Stepped s (.run c uuid) ({s with lock := lock}.put c after)
  | tick (now : Time) : Lock.step s.lock (.tick now) = some lock → Stepped s (.tick now) {s with lock := lock}

theorem step_sound (ran : step s action = some next) : Stepped s action next := by
  cases action with
  | update c a utcnow =>
    simp only [step] at ran
    split at ran
    · cases ran
    · split at ran
      · cases ran
      · cases ran; exact .update c a utcnow ‹_› ‹_›
  | run c uuid =>
    simp only [step] at ran
    split at ran
    · cases ran
    · rename_i call called
      split at ran
      · rename_i attempt inside
        split at ran
        · cases ran
        · rename_i changed ended
          cases ran
          exact .ended c uuid call called inside (body_sound ended)
        · rename_i changed later open' moved
          cases ran
          exact .bodied c uuid call called inside (body_sound moved) open'
      · rename_i outside
        split at ran
        · cases ran
        · rename_i lock moved
          split at ran
          · cases ran
            exact .locking c uuid call called outside moved (.inr ⟨rfl,‹_›⟩)
          · cases ran
            have same : {s with lock := lock} = {s with lock := lock}.put c (some call) := by
              simp [State.put,← called]
            rw [same]
            exact .locking c uuid call called outside moved (.inl rfl)
  | tick now =>
    simp only [step] at ran
    split at ran
    · cases ran
    · cases ran; exact .tick now ‹_›

theorem Bodied.lock (bodied : Bodied s a before changed later) : changed.lock = s.lock := by
  cases bodied <;> first | rfl | assumption

theorem Bodied.calls (bodied : Bodied s a before changed later) : changed.calls = s.calls := by
  cases bodied <;> first | rfl | assumption

theorem Bodied.finished (bodied : Bodied s a before changed .done) :
    before.read = none ∧ changed.store.spaces = s.store.spaces ∧
      changed.store.stateChanges = s.store.stateChanges := by
  cases bodied with
  | other unread _ _ _ spaces changes => exact ⟨unread,spaces,changes⟩

-- No lock key expires while the call that set it is inside its `async with`.
def Lasting (s : State) : Action → Prop
  | .tick now => Lock.Lasting s.lock (.tick now)
  | _ => True

theorem step_lock (stepped : Stepped s action next) (lasting : Lasting s action) :
    next.lock = s.lock ∨ ∃ b, Lock.Lasting s.lock b ∧ Lock.step s.lock b = some next.lock := by
  cases stepped with
  | update c a utcnow _ acquired => exact .inr ⟨.acquire c (resource a.spaceId) none utcnow,trivial,acquired⟩
  | bodied c uuid call _ _ bodied _ => exact .inl bodied.lock
  | ended c uuid call _ inside bodied =>
    refine .inr ⟨.leave c,trivial,?_⟩
    simp [Lock.step,inside,State.put,State.leave,bodied.lock]
  | locking c uuid call _ _ moved _ => exact .inr ⟨.run c,trivial,moved⟩
  | tick now moved => exact .inr ⟨.tick now,lasting,moved⟩

theorem reached_locked (fresh : start.lock = .initial) (path : Runs.Reached step Lasting start s) :
    Lock.Locked s.lock := by
  have projected := path.project State.lock fun lasting ran => step_lock (step_sound ran) lasting
  rw [fresh] at projected
  exact Lock.reached_locked projected

-- How a step may move one call.
inductive CallChange (s next : State) (c : Nat) : Prop where
  | same : next.calls c = s.calls c → next.lock.clients c = s.lock.clients c → CallChange s next c
  | called (a : UpdateArgs) (utcnow : Time) : next.calls c = some ⟨a,.getSpace⟩ →
      next.lock.clients c = .set (Lock.attempt (resource a.spaceId) none utcnow) → CallChange s next c
  | bodied (call : Updating) (later : Body) : s.calls c = some call → s.lock.clients c = .inside attempt →
      next.calls c = some ⟨call.args,later⟩ →
      next.lock.clients c = .inside attempt ∨ next.lock.clients c = .get attempt ∧ later = .done → CallChange s next c
  | locking (call : Updating) : s.calls c = some call → (∀ attempt, s.lock.clients c ≠ .inside attempt) →
      next.calls c = some call ∨ next.calls c = none → Lock.Stepped s.lock (.run c) next.lock → CallChange s next c

theorem step_call (stepped : Stepped s action next) (c : Nat) : CallChange s next c := by
  cases stepped with
  | update d a utcnow _ acquired =>
    have moved := Lock.step_sound acquired
    by_cases same : c = d
    · subst c
      cases moved
      exact .called a utcnow (by simp [State.put]) (by simp [State.put,Lock.State.move])
    · refine .same (by simp [State.put,same]) (Lock.step_clients moved ?_)
      intro mover
      exact same (Option.some.inj mover).symm
  | bodied d uuid call called inside bodied _ =>
    rename_i later _
    by_cases same : c = d
    · subst c
      exact .bodied call later called inside (by simp [State.put]) (.inl (by simp [State.put,bodied.lock,inside]))
    · exact .same (by simp [State.put,bodied.calls,same]) (by simp [State.put,bodied.lock])
  | ended d uuid call called inside bodied =>
    by_cases same : c = d
    · subst c
      exact .bodied call .done called inside (by simp [State.put])
        (.inr ⟨by simp [State.put,State.leave,Lock.State.move],rfl⟩)
    · exact .same (by simp [State.put,State.leave,bodied.calls,same])
        (by simp [State.put,State.leave,Lock.State.move,bodied.lock,same])
  | locking d uuid call called outside moved after =>
    by_cases same : c = d
    · subst c
      refine .locking call called outside ?_ (Lock.step_sound moved)
      rcases after with rfl | ⟨rfl,_⟩ <;> simp [State.put]
    · refine .same (by simp [State.put,same]) (Lock.step_clients (Lock.step_sound moved) ?_)
      intro mover
      exact same (Option.some.inj mover).symm
  | tick now moved =>
    refine .same rfl (Lock.step_clients (Lock.step_sound moved) ?_)
    intro mover
    cases mover

-- A call works under the lock of its own space, and only inside it does it hold
-- what it has read.
structure Entered (s : State) : Prop where
  key : ∀ c call attempt, s.calls c = some call → (s.lock.clients c).attempt = some attempt →
    attempt.lockKey = "lock:" ++ resource call.args.spaceId
  inside : ∀ c call, s.calls c = some call → call.body.read.isSome → ∃ attempt, s.lock.clients c = .inside attempt

theorem entered_preserved (entered : Entered s) (stepped : Stepped s action next) : Entered next := by
  constructor
  · intro c call attempt calling running
    cases step_call stepped c with
    | same called client =>
      rw [called] at calling
      rw [client] at running
      exact entered.key c call attempt calling running
    | called a utcnow called client =>
      rw [called] at calling
      rw [client] at running
      cases calling
      cases running
      rfl
    | bodied old later called inside after client =>
      rw [after] at calling
      cases calling
      apply entered.key c old attempt called
      rcases client with client | ⟨client,_⟩ <;> (rw [client] at running; rw [inside]; exact running)
    | locking old called _ after moved =>
      rcases after with after | after <;> rw [after] at calling <;> cases calling
      exact entered.key c call attempt called (Lock.run_attempt moved running)
  · intro c call calling reading
    cases step_call stepped c with
    | same called client =>
      rw [called] at calling
      rw [client]
      exact entered.inside c call calling reading
    | called a utcnow called _ =>
      rw [called] at calling
      cases calling
      cases reading
    | bodied old later _ _ after client =>
      rw [after] at calling
      cases calling
      rcases client with client | ⟨_,rfl⟩
      · exact ⟨_,client⟩
      · cases reading
    | locking old called outside after _ =>
      rcases after with after | after <;> rw [after] at calling <;> cases calling
      obtain ⟨attempt,inside⟩ := entered.inside c call called reading
      exact absurd inside (outside attempt)

theorem exclusive (entered : Entered s) (locked : Lock.Locked s.lock) (one : s.calls c = some call)
    (two : s.calls d = some other) (reading : call.body.read.isSome) (also : other.body.read.isSome)
    (same : call.args.spaceId = other.args.spaceId) : c = d := by
  obtain ⟨a,first⟩ := entered.inside c call one reading
  obtain ⟨b,second⟩ := entered.inside d other two also
  have keyed := entered.key c call a one (by rw [first]; rfl)
  have also := entered.key d other b two (by rw [second]; rfl)
  apply locked.alone (a := a) (b := b)
  · rw [first]; rfl
  · rw [second]; rfl
  · rw [keyed,also,same]

def Reading (s : State) (c : Nat) (spaceId : String) : Prop :=
  ∃ call, s.calls c = some call ∧ call.args.spaceId = spaceId ∧ call.body.read.isSome

def Inserting (s : State) (c : Nat) (spaceId : String) (space : Space) : Prop :=
  ∃ call, s.calls c = some call ∧ call.args.spaceId = spaceId ∧ call.body = .insert space

-- What a call has read is still so when it writes.
structure Current (s : State) : Prop where
  update : ∀ c call space, s.calls c = some call → call.body = .update space →
    s.store.spaces.getSpace call.args.spaceId = some space
  insert : ∀ c call space, s.calls c = some call → call.body = .insert space →
    s.store.spaces.stateOf call.args.spaceId = some call.args.newState
  valid : ∀ c call space, s.calls c = some call → call.body.read = some space →
    space.state ≠ call.args.newState ∧ isValidTransition space.state call.args.newState call.args.source = true

theorem Current.quiet (current : Current s) (spaces : next.store.spaces = s.store.spaces)
    (calls : ∀ c call, next.calls c = some call → call.body.read.isSome → s.calls c = some call) : Current next := by
  constructor
  · intro c call space calling body
    rw [spaces]
    exact current.update c call space (calls c call calling (by rw [body]; rfl)) body
  · intro c call space calling body
    rw [spaces]
    exact current.insert c call space (calls c call calling (by rw [body]; rfl)) body
  · intro c call space calling reading
    exact current.valid c call space (calls c call calling (by rw [reading]; rfl)) reading

theorem put_calls {s : State} (calling : (s.put c (some call)).calls d = some other) :
    d = c ∧ other = call ∨ d ≠ c ∧ s.calls d = some other := by
  by_cases same : d = c
  · subst d
    simp only [State.put,Function.update_self,Option.some.injEq] at calling
    exact .inl ⟨rfl,calling.symm⟩
  · simp only [State.put,Function.update_of_ne same] at calling
    exact .inr ⟨same,calling⟩

section Body

variable {s changed : State} {c : Nat} {call : Updating} {later : Body} {space : Space}

theorem current_read (current : Current s) (found : s.store.spaces.getSpace call.args.spaceId = some space)
    (moved : space.state ≠ call.args.newState)
    (accepted : isValidTransition space.state call.args.newState call.args.source = true) :
    Current (s.put c (some ⟨call.args,.update space⟩)) := by
  constructor
  · intro d other row calling body
    rcases put_calls calling with ⟨rfl,rfl⟩ | ⟨_,old⟩
    · cases body
      exact found
    · exact current.update d other row old body
  · intro d other row calling body
    rcases put_calls calling with ⟨rfl,rfl⟩ | ⟨_,old⟩
    · cases body
    · exact current.insert d other row old body
  · intro d other row calling reading
    rcases put_calls calling with ⟨rfl,rfl⟩ | ⟨_,old⟩
    · cases reading
      exact ⟨moved,accepted⟩
    · exact current.valid d other row old reading

theorem current_updated (current : Current s) (called : s.calls c = some call) (body : call.body = .update space)
    (apart : ∀ d other, s.calls d = some other → other.body.read.isSome → d ≠ c →
      other.args.spaceId ≠ call.args.spaceId)
    (store : changed.store.spaces = s.store.spaces.setState call.args.spaceId call.args.newState)
    (calls : changed.calls = s.calls) : Current (changed.put c (some ⟨call.args,.insert space⟩)) := by
  constructor
  · intro d other row calling at'
    rcases put_calls calling with ⟨rfl,rfl⟩ | ⟨different,old⟩
    · cases at'
    · rw [calls] at old
      have apart := apart d other old (by rw [at']; rfl) different
      show changed.store.spaces.getSpace _ = _
      rw [store,Table.setState_getSpace_other apart]
      exact current.update d other row old at'
  · intro d other row calling at'
    show changed.store.spaces.stateOf _ = _
    rw [store]
    rcases put_calls calling with ⟨rfl,rfl⟩ | ⟨different,old⟩
    · apply Table.setState_stateOf
      rw [Table.getSpace_stateOf (current.update d call space called body)]
      rfl
    · rw [calls] at old
      have apart := apart d other old (by rw [at']; rfl) different
      rw [Table.setState_stateOf_other apart]
      exact current.insert d other row old at'
  · intro d other row calling reading
    rcases put_calls calling with ⟨rfl,rfl⟩ | ⟨_,old⟩
    · cases reading
      exact current.valid d call space called (by rw [body]; rfl)
    · rw [calls] at old
      exact current.valid d other row old reading

end Body

-- Every step but those at the three commands of the section leaves the
-- readers and the table alone.
theorem quiet_put {s : State} (calling : (s.put c (some ⟨a,later⟩)).calls d = some call) (quiet : later.read = none)
    (reading : call.body.read.isSome) : s.calls d = some call := by
  rcases put_calls calling with ⟨rfl,rfl⟩ | ⟨_,old⟩
  · rw [quiet] at reading
    cases reading
  · exact old

theorem current_preserved (current : Current s) (entered : Entered s) (locked : Lock.Locked s.lock)
    (stepped : Stepped s action next) : Current next := by
  cases stepped with
  | update c a utcnow free _ =>
    exact current.quiet rfl fun d call calling reading => quiet_put calling rfl reading
  | bodied c uuid call called _ bodied _ =>
    generalize body : call.body = before at bodied
    cases bodied with
    | read found moved accepted => exact current_read current found moved accepted
    | updated =>
      refine current_updated current called body ?_ rfl rfl
      intro d other calling reading different same
      exact different (exclusive entered locked calling called reading (by rw [body]; rfl) same)
    | inserted => exact current.quiet rfl fun d call calling reading => quiet_put calling rfl reading
    | other _ quiet _ calls spaces _ =>
      refine current.quiet spaces fun d call calling reading => ?_
      rw [← calls]
      exact quiet_put calling quiet reading
  | ended c uuid call called _ bodied =>
    refine current.quiet bodied.finished.2.1 fun d call calling reading => ?_
    rw [← bodied.calls]
    exact quiet_put (s := State.leave _ c _) calling rfl reading
  | locking c uuid call called _ _ after =>
    refine current.quiet rfl fun d other calling reading => ?_
    rcases after with rfl | ⟨rfl,_⟩
    · rcases put_calls calling with ⟨rfl,rfl⟩ | ⟨_,old⟩
      · exact called
      · exact old
    · by_cases same : d = c
      · subst d
        simp [State.put] at calling
      · simpa [State.put,same] using calling
  | tick now _ => exact current.quiet rfl fun d call calling reading => calling

-- The rows lead from the first state to the last one, each starting where the
-- one before it ended.
def Linked : SpaceState → List StateChange → SpaceState → Prop
  | first,[],last => first = last
  | first,row::rest,last => row.previousState = first ∧ Linked row.newState rest last

theorem Linked.append (linked : Linked first rows last) (same : row.previousState = last) :
    Linked first (rows ++ [row]) row.newState := by
  induction rows generalizing first with
  | nil => exact ⟨same.trans linked.symm,rfl⟩
  | cons head rest ih => exact ⟨linked.1,ih linked.2⟩

def State.changesOf (s : State) (spaceId : String) : List StateChange :=
  s.store.stateChanges.filter (·.spaceId == spaceId)

-- The chain ends in the state of the space; between an UPDATE and its INSERT it
-- still ends in the state before.
structure Chained (start s : State) : Prop where
  linked : ∀ spaceId first, start.store.spaces.stateOf spaceId = some first →
    ∃ last, Linked first (s.changesOf spaceId) last ∧ (∀ c space, Inserting s c spaceId space → space.state = last) ∧
      ((∀ c space, ¬Inserting s c spaceId space) → s.store.spaces.stateOf spaceId = some last)
  rows : ∀ row ∈ s.store.stateChanges, row.previousState ≠ row.newState ∧
    isValidTransition row.previousState row.newState row.source = true

theorem Chained.quiet (chained : Chained start s) (spaces : next.store.spaces = s.store.spaces)
    (changes : next.store.stateChanges = s.store.stateChanges)
    (inserting : ∀ c spaceId space, Inserting next c spaceId space ↔ Inserting s c spaceId space) :
    Chained start next := by
  constructor
  · intro spaceId first known
    simp only [State.changesOf,changes,spaces,inserting]
    exact chained.linked spaceId first known
  · rw [changes]
    exact chained.rows

-- Every step but the UPDATE and the INSERT.
theorem Chained.unread (chained : Chained start s) (spaces : next.store.spaces = s.store.spaces)
    (changes : next.store.stateChanges = s.store.stateChanges) (calls : next.calls = Function.update s.calls c slot)
    (before : ∀ call, s.calls c = some call → call.body.read = none)
    (after : ∀ call space, slot = some call → call.body ≠ .insert space) : Chained start next := by
  refine chained.quiet spaces changes fun d spaceId space => ?_
  unfold Inserting
  by_cases same : d = c
  · subst d
    simp only [calls,Function.update_self]
    constructor
    · rintro ⟨call,calling,_,body⟩
      exact absurd body (after call space calling)
    · rintro ⟨call,calling,_,body⟩
      have unread := before call calling
      rw [body] at unread
      cases unread
  · simp only [calls,Function.update_of_ne same]

theorem inserting_other {s changed : State} (calls : changed.calls = s.calls) (called : s.calls c = some call)
    (apart : spaceId ≠ call.args.spaceId) (later : Body) :
    Inserting (changed.put c (some ⟨call.args,later⟩)) d spaceId space ↔ Inserting s d spaceId space := by
  unfold Inserting
  by_cases same : d = c
  · subst d
    simp only [State.put,Function.update_self,called]
    constructor
    · rintro ⟨other,equal,rfl,_⟩
      cases equal
      exact absurd rfl apart
    · rintro ⟨other,equal,rfl,_⟩
      cases equal
      exact absurd rfl apart
  · simp only [State.put,Function.update_of_ne same,calls]

theorem insert_reading (body : b = Body.insert space) : b.read.isSome := by
  rw [body]
  rfl

section Section

variable {start s changed : State} {c : Nat} {call : Updating} {space : Space}

theorem chained_updated (chained : Chained start s) (current : Current s) (called : s.calls c = some call)
    (body : call.body = .update space)
    (apart : ∀ d other, s.calls d = some other → other.body.read.isSome → d ≠ c →
      other.args.spaceId ≠ call.args.spaceId)
    (spaces : changed.store.spaces = s.store.spaces.setState call.args.spaceId call.args.newState)
    (changes : changed.store.stateChanges = s.store.stateChanges) (calls : changed.calls = s.calls) :
    Chained start (changed.put c (some ⟨call.args,.insert space⟩)) := by
  refine ⟨?_,?_⟩
  · intro spaceId first known
    obtain ⟨last,linked,inserting,settled⟩ := chained.linked spaceId first known
    have rows : (changed.put c (some ⟨call.args,.insert space⟩)).changesOf spaceId = s.changesOf spaceId := by
      simp only [State.changesOf,State.put,changes]
    refine ⟨last,by rw [rows]; exact linked,?_⟩
    by_cases same : spaceId = call.args.spaceId
    · subst spaceId
      have nobody : ∀ d row, ¬Inserting s d call.args.spaceId row := by
        rintro d row ⟨other,calling,equal,at'⟩
        by_cases mover : d = c
        · subst d
          cases called.symm.trans calling
          rw [body] at at'
          cases at'
        · exact apart d other calling (insert_reading at') mover equal
      have found := Table.getSpace_stateOf (current.update c call space called body)
      rw [settled nobody] at found
      constructor
      · rintro d row ⟨other,calling,equal,at'⟩
        rcases put_calls calling with ⟨rfl,rfl⟩ | ⟨_,old⟩
        · cases at'
          exact (Option.some.inj found).symm
        · rw [calls] at old
          exact absurd ⟨other,old,equal,at'⟩ (nobody d row)
      · intro free
        exact absurd ⟨⟨call.args,.insert space⟩,by simp [State.put],rfl,rfl⟩ (free c space)
    · simp only [inserting_other calls called same]
      refine ⟨inserting,fun free => ?_⟩
      show changed.store.spaces.stateOf spaceId = _
      rw [spaces,Table.setState_stateOf_other same]
      exact settled free
  · show ∀ row ∈ changed.store.stateChanges,_
    rw [changes]
    exact chained.rows

theorem chained_inserted (chained : Chained start s) (current : Current s) (called : s.calls c = some call)
    (body : call.body = .insert space)
    (apart : ∀ d other, s.calls d = some other → other.body.read.isSome → d ≠ c →
      other.args.spaceId ≠ call.args.spaceId)
    (spaces : changed.store.spaces = s.store.spaces)
    (changes : changed.store.stateChanges = s.store.stateChanges ++
      [⟨call.args.spaceId,space.state,call.args.newState,call.args.source,call.args.requestId,now⟩])
    (calls : changed.calls = s.calls) : Chained start (changed.put c (some ⟨call.args,.clearSpace space⟩)) := by
  refine ⟨?_,?_⟩
  · intro spaceId first known
    obtain ⟨last,linked,inserting,settled⟩ := chained.linked spaceId first known
    by_cases same : spaceId = call.args.spaceId
    · subst spaceId
      have ended := inserting c space ⟨call,called,rfl,body⟩
      refine ⟨call.args.newState,?_,?_,?_⟩
      · simp only [State.changesOf,State.put,changes,List.filter_append,List.filter_cons,beq_self_eq_true,if_true,
          List.filter_nil]
        exact linked.append ended
      · rintro d row ⟨other,calling,equal,at'⟩
        rcases put_calls calling with ⟨rfl,rfl⟩ | ⟨different,old⟩
        · cases at'
        · rw [calls] at old
          exact absurd equal (apart d other old (insert_reading at') different)
      · intro _
        show changed.store.spaces.stateOf _ = _
        rw [spaces]
        exact current.insert c call space called body
    · refine ⟨last,?_,?_⟩
      · simp only [State.changesOf,State.put,changes,List.filter_append,List.filter_cons,List.filter_nil,
          beq_eq_false_iff_ne.mpr (Ne.symm same),Bool.false_eq_true,if_false,List.append_nil]
        exact linked
      · simp only [inserting_other calls called same]
        refine ⟨inserting,fun free => ?_⟩
        show changed.store.spaces.stateOf _ = _
        rw [spaces]
        exact settled free
  · intro row member
    change row ∈ changed.store.stateChanges at member
    rw [changes] at member
    rcases List.mem_append.mp member with old | last
    · exact chained.rows row old
    · cases List.mem_singleton.mp last
      exact current.valid c call space called (by rw [body]; rfl)

end Section

theorem chained_preserved (chained : Chained start s) (current : Current s) (entered : Entered s)
    (locked : Lock.Locked s.lock) (stepped : Stepped s action next) : Chained start next := by
  cases stepped with
  | update c a utcnow free _ =>
    refine chained.unread rfl rfl rfl ?_ ?_
    · intro call calling
      rw [free] at calling
      cases calling
    · rintro call space equal
      cases equal
      exact nofun
  | bodied c uuid call called _ bodied _ =>
    generalize body : call.body = before at bodied
    have apart : before.read.isSome → ∀ d other, s.calls d = some other → other.body.read.isSome → d ≠ c →
        other.args.spaceId ≠ call.args.spaceId := by
      intro reading d other calling also different same
      exact different (exclusive entered locked calling called also (by rwa [body]) same)
    cases bodied with
    | read =>
      refine chained.unread rfl rfl rfl ?_ ?_
      · intro other calling
        cases called.symm.trans calling
        rw [body]
        rfl
      · rintro other space equal
        cases equal
        exact nofun
    | updated => exact chained_updated chained current called body (apart rfl) rfl rfl rfl
    | inserted => exact chained_inserted chained current called body (apart rfl) rfl rfl rfl
    | other unread quiet _ calls spaces changes =>
      refine chained.unread spaces changes (congrArg (Function.update · c _) calls) ?_ ?_
      · intro other calling
        cases called.symm.trans calling
        rw [body,unread]
      · intro other space equal at'
        cases equal
        have read : _ = some space := congrArg Body.read at'
        cases quiet.symm.trans read
  | ended c uuid call called _ bodied =>
    obtain ⟨unread,spaces,changes⟩ := bodied.finished
    refine chained.unread spaces changes (congrArg (Function.update · c _) bodied.calls) ?_ ?_
    · intro other calling
      cases called.symm.trans calling
      exact unread
    · rintro other space equal
      cases equal
      exact nofun
  | locking c uuid call called outside _ after =>
    have unread : ∀ other, s.calls c = some other → other.body.read = none := by
      intro other calling
      by_contra reading
      obtain ⟨attempt,inside⟩ := entered.inside c other calling (Option.isSome_iff_ne_none.mpr reading)
      exact outside attempt inside
    refine chained.unread rfl rfl rfl unread ?_
    rintro other space equal body
    rcases after with rfl | ⟨rfl,_⟩
    · cases equal
      have quiet := unread call called
      rw [body] at quiet
      cases quiet
    · cases equal
  | tick now _ => exact chained.quiet rfl rfl fun d spaceId space => Iff.rfl

-- No call runs and nothing is recorded or locked yet.
structure Fresh (s : State) : Prop where
  lock : s.lock = .initial
  calls : ∀ c, s.calls c = none
  changes : s.store.stateChanges = []

theorem reached_entered (fresh : Fresh start) (path : Runs.Reached step Lasting start s) : Entered s := by
  refine path.invariant Entered ?_ fun entered _ ran => entered_preserved entered (step_sound ran)
  constructor
  · intro c call attempt calling
    rw [fresh.calls c] at calling
    cases calling
  · intro c call calling
    rw [fresh.calls c] at calling
    cases calling

theorem reached_current (fresh : Fresh start) (path : Runs.Reached step Lasting start s) : Current s := by
  refine path.invariantUnder (fun s => Entered s ∧ Lock.Locked s.lock) Current
    (fun prior => ⟨reached_entered fresh prior,reached_locked fresh.lock prior⟩) ?_
    fun known current _ ran => current_preserved current known.1 known.2 (step_sound ran)
  have idle : ∀ c call, start.calls c = some call → False := by
    intro c call calling
    rw [fresh.calls c] at calling
    cases calling
  exact ⟨fun c call _ calling => (idle c call calling).elim,fun c call _ calling => (idle c call calling).elim,
    fun c call _ calling => (idle c call calling).elim⟩

theorem reached_chained (fresh : Fresh start) (path : Runs.Reached step Lasting start s) : Chained start s := by
  refine path.invariantUnder (fun s => Current s ∧ Entered s ∧ Lock.Locked s.lock) (Chained start)
    (fun prior => ⟨reached_current fresh prior,reached_entered fresh prior,reached_locked fresh.lock prior⟩) ?_
    fun known chained _ ran => chained_preserved chained known.1 known.2.1 known.2.2 (step_sound ran)
  constructor
  · intro spaceId first known
    refine ⟨first,by simp [State.changesOf,fresh.changes,Linked],?_,fun _ => known⟩
    rintro c space ⟨call,calling,_⟩
    rw [fresh.calls c] at calling
    cases calling
  · simp [fresh.changes]

theorem transition_allowed (accepted : isValidTransition current new source = true) :
    source = "manual" ∨ new ∈ validTransitions current := by
  simpa [isValidTransition] using accepted

-- Concurrent updates of one space behave as if they ran one after the other.
-- The chain ends in `spaces.state` except between the UPDATE and the INSERT of
-- one call.
theorem updates_serialized (fresh : Fresh start) (path : Runs.Reached step Lasting start s) :
    (∀ c d spaceId, Reading s c spaceId → Reading s d spaceId → c = d) ∧
    (∀ spaceId first, start.store.spaces.stateOf spaceId = some first → ∃ last,
      Linked first (s.changesOf spaceId) last ∧
      (∀ c space, Inserting s c spaceId space → space.state = last) ∧
      ((∀ c space, ¬Inserting s c spaceId space) → s.store.spaces.stateOf spaceId = some last)) ∧
    ∀ row ∈ s.store.stateChanges, row.previousState ≠ row.newState ∧
      (row.source = "manual" ∨ row.newState ∈ validTransitions row.previousState) := by
  have chained := reached_chained fresh path
  refine ⟨?_,chained.linked,?_⟩
  · rintro c d spaceId ⟨call,one,rfl,reading⟩ ⟨other,two,same,also⟩
    exact exclusive (reached_entered fresh path) (reached_locked fresh.lock path) one two reading also same.symm
  · intro row member
    obtain ⟨moved,accepted⟩ := chained.rows row member
    exact ⟨moved,transition_allowed accepted⟩

def oneSpace : Table where
  rows := [{id := "A1",code := "A-1",sensorEui := none,displayEui := none,state := .free,tenantId := none}]
  primaryKey := by decide
  sensorEui := by decide

def oneSpaceState : State :=
  ⟨.initial,fun _ => none,⟨oneSpace,[],[],[],fun _ => none,.empty⟩,fun _ => none,[]⟩

def untimed (_ : State) : Action → Bool
  | .tick _ => false
  | _ => true

theorem untimed_sound (test : untimed s action = true) : Lasting s action := by
  cases action with
  | tick now => cases test
  | _ => trivial

-- The second call comes while the first is between its UPDATE and its INSERT,
-- gets the lock at its retry, and its row starts where the first one's ended.
theorem updates_serialized_contended : ∃ s, s.store.stateChanges.length = 2 ∧
    s.store.spaces.stateOf "A1" = some .maintenance ∧
    (∀ c d spaceId, Reading s c spaceId → Reading s d spaceId → c = d) ∧
    (∀ spaceId first, oneSpaceState.store.spaces.stateOf spaceId = some first → ∃ last,
      Linked first (s.changesOf spaceId) last ∧
      (∀ c space, Inserting s c spaceId space → space.state = last) ∧
      ((∀ c space, ¬Inserting s c spaceId space) → s.store.spaces.stateOf spaceId = some last)) ∧
    ∀ row ∈ s.store.stateChanges, row.previousState ≠ row.newState ∧
      (row.source = "manual" ∨ row.newState ∈ validTransitions row.previousState) := by
  have start : Runs.Reached step Lasting oneSpaceState oneSpaceState := .refl
  obtain ⟨s,path,two,last⟩ := start.found untimed
    (fun s => s.store.stateChanges.length = 2 ∧ s.store.spaces.stateOf "A1" = some .maintenance)
    ([.update 0 ⟨"A1",.occupied,"sensor_uplink","req-1"⟩ 7,.run 0 "",.run 0 "",.run 0 "",
      .update 1 ⟨"A1",.maintenance,"manual","req-2"⟩ 7,.run 1 ""] ++ List.replicate 6 (.run 0 "") ++
      List.replicate 7 (.run 1 "")) (fun _ => untimed_sound) (by decide +kernel)
  exact ⟨s,two,last,updates_serialized ⟨rfl,fun _ => rfl,rfl⟩ path⟩

end SmartParking.Spaces.Updates
