import SmartParking.Lib.Hex
import SmartParking.Downlink.Queue
import SmartParking.Spaces.State

namespace SmartParking.Spaces
open Downlink (CmdId Time Redis EnqueueArgs enqueue)

structure StateChange where
  spaceId : String
  previousState : SpaceState
  newState : SpaceState
  source : String
  requestId : String
  timestamp : Time
  deriving DecidableEq

structure DisplayDevice where
  id : String
  devEui : String
  displayCodes : SpaceState → Option String
  fport : Int
  confirmedDownlinks : Bool
  enabled : Bool := true

structure Actuation where
  spaceId : String
  triggerType : String
  triggerSource : String
  previousState : SpaceState
  newState : SpaceState
  displayEui : String
  displayDeviceId : String
  displayCode : String
  downlinkQueueId : Option CmdId := none
  downlinkError : Option String := none
  deriving DecidableEq

-- What `StateManager` works on: its tables, the `lock:*` keys and the queue.
structure Store where
  spaces : Table
  stateChanges : List StateChange
  displays : List DisplayDevice
  actuations : List Actuation
  locks : String → Option String
  queue : Redis

-- What is outside the program's control during one call: the request id, the
-- clock, the id `uuid4` returns and whether a lock held by another client is
-- gone when it is tried for the second time.
structure Call where
  requestId : String
  now : Time
  cmdId : CmdId
  lockFreed : Bool := false

inductive TransitionError where
  | lockNotAcquired (resource : String)
  | invalidTransition (current new : SpaceState) (source : String)
  deriving DecidableEq

structure StateUpdateResult where
  success : Bool
  previousState : Option SpaceState
  newState : SpaceState
  displayUpdated : Bool := false
  error : Option String := none
  deriving DecidableEq

namespace Store

def lockKey (spaceId : String) : String := "lock:space:" ++ spaceId

def lockOpen (s : Store) (spaceId : String) (call : Call) : Bool :=
  (s.locks (lockKey spaceId)).isNone || call.lockFreed

def lockValue (call : Call) : String := toString call.now

def acquireLock (s : Store) (spaceId : String) (call : Call) : Store :=
  {s with locks := Function.update s.locks (lockKey spaceId) (some (lockValue call))}

-- Release lock only if we own it.
def releaseLock (s : Store) (spaceId : String) (call : Call) : Store :=
  if s.locks (lockKey spaceId) = some (lockValue call) then
    {s with locks := Function.update s.locks (lockKey spaceId) none}
  else s

-- `str(space_info['tenant_id'])`, which is the text None for a NULL.
def tenantText (s : Store) (spaceId : String) : String :=
  ((s.spaces.rows.find? (·.id == spaceId)).map fun space => space.tenantId.getD "None").getD ""

-- `update_display`, with the client and the queue that the application's
-- startup links to the manager.
def updateDisplay (s : Store) (spaceId displayEui : String) (previous new : SpaceState) (triggerType : String)
    (call : Call) : Store × Bool :=
  match s.displays.find? fun display => display.devEui == displayEui && display.enabled with
  | none => (s,false)
  | some display =>
    match Downlink.orNone (display.displayCodes new) with
    | none => (s,false)
    | some payloadHex =>
      let row := Actuation.mk spaceId triggerType call.requestId previous new displayEui display.id payloadHex
      match Lib.Hex.fromHex payloadHex with
      | .error position => ({s with actuations := s.actuations ++ [row none (some (Lib.Hex.errorText position))]},false)
      | .ok _ =>
        let enqueued := enqueue s.queue
          {deviceEui := displayEui,payload := payloadHex,fport := display.fport,tenantId := s.tenantText spaceId,
           confirmed := display.confirmedDownlinks,spaceId := some spaceId,triggerSource := some call.requestId}
          call.cmdId
        ({s with queue := enqueued.1,actuations := s.actuations ++ [row enqueued.2 none]},true)

def recordState (s : Store) (space : Space) (new : SpaceState) (source : String) (call : Call) : Store :=
  {s with
    spaces := s.spaces.setState space.id new
    stateChanges := s.stateChanges ++ [⟨space.id,space.state,new,source,call.requestId,call.now⟩]}

def changeState (s : Store) (spaceId : String) (new : SpaceState) (source : String) (call : Call) :
    Store × Except TransitionError StateUpdateResult :=
  match s.spaces.getSpace spaceId with
  | none => (s,.ok {success := false,previousState := none,newState := new,error := some "Space not found"})
  | some space =>
    if space.state = new then (s,.ok {success := true,previousState := some space.state,newState := new})
    else if !isValidTransition space.state new source then (s,.error (.invalidTransition space.state new source))
    else
      let s := s.recordState space new source call
      let updated :=
        match Downlink.orNone space.displayEui with
        | none => (s,false)
        | some displayEui => s.updateDisplay spaceId displayEui space.state new source call
      (updated.1,.ok {success := true,previousState := some space.state,newState := new,displayUpdated := updated.2})

-- `StateManager.update_space_state`, run without interruption.
def updateSpaceState (s : Store) (spaceId : String) (new : SpaceState) (source : String) (call : Call) :
    Store × Except TransitionError StateUpdateResult :=
  if s.lockOpen spaceId call then
    let changed := (s.acquireLock spaceId call).changeState spaceId new source call
    (changed.1.releaseLock spaceId call,changed.2)
  else (s,.error (.lockNotAcquired ("space:" ++ spaceId)))

structure Unchanged (s next : Store) : Prop where
  states : next.spaces.states = s.spaces.states
  stateChanges : next.stateChanges = s.stateChanges
  queue : next.queue = s.queue

theorem Unchanged.rfl {s : Store} : Unchanged s s := ⟨by rfl,by rfl,by rfl⟩

section Locks

variable (s : Store) (spaceId : String) (call : Call)

@[simp] theorem acquireLock_spaces : (s.acquireLock spaceId call).spaces = s.spaces := rfl
@[simp] theorem acquireLock_stateChanges : (s.acquireLock spaceId call).stateChanges = s.stateChanges := rfl
@[simp] theorem acquireLock_queue : (s.acquireLock spaceId call).queue = s.queue := rfl

@[simp] theorem releaseLock_spaces : (s.releaseLock spaceId call).spaces = s.spaces := by
  unfold releaseLock; split <;> rfl
@[simp] theorem releaseLock_stateChanges : (s.releaseLock spaceId call).stateChanges = s.stateChanges := by
  unfold releaseLock; split <;> rfl
@[simp] theorem releaseLock_queue : (s.releaseLock spaceId call).queue = s.queue := by
  unfold releaseLock; split <;> rfl

end Locks

theorem updateDisplay_stateChanges (s : Store) (spaceId displayEui : String) (previous new : SpaceState)
    (triggerType : String) (call : Call) :
    (s.updateDisplay spaceId displayEui previous new triggerType call).1.stateChanges = s.stateChanges := by
  unfold updateDisplay
  repeat' split
  all_goals rfl

theorem updateDisplay_spaces (s : Store) (spaceId displayEui : String) (previous new : SpaceState)
    (triggerType : String) (call : Call) :
    (s.updateDisplay spaceId displayEui previous new triggerType call).1.spaces = s.spaces := by
  unfold updateDisplay
  repeat' split
  all_goals rfl

variable {s : Store} {spaceId source : String} {new : SpaceState} {call : Call} {space : Space}

def Settled (s : Store) (spaceId : String) (new : SpaceState) (source : String) : Prop :=
  ∀ space, s.spaces.getSpace spaceId = some space →
    space.state = new ∨ isValidTransition space.state new source = false

theorem not_settled_iff : ¬s.Settled spaceId new source ↔ ∃ space, s.spaces.getSpace spaceId = some space ∧
    space.state ≠ new ∧ isValidTransition space.state new source = true := by
  simp [Settled,not_or]

theorem changeState_settled (settled : s.Settled spaceId new source) :
    (s.changeState spaceId new source call).1 = s := by
  unfold changeState
  cases found : s.spaces.getSpace spaceId with
  | none => rfl
  | some space =>
    rcases settled space found with same | refused
    · simp [same]
    · by_cases same : space.state = new
      · simp [same]
      · simp [same,refused]

theorem changeState_recorded (found : s.spaces.getSpace spaceId = some space) (moved : space.state ≠ new)
    (accepted : isValidTransition space.state new source = true) :
    (s.changeState spaceId new source call).1.stateChanges =
      s.stateChanges ++ [⟨space.id,space.state,new,source,call.requestId,call.now⟩] := by
  simp only [changeState,found,moved,accepted,if_false,Bool.not_true,Bool.false_eq_true]
  split
  · rfl
  · exact updateDisplay_stateChanges ..

theorem updateSpaceState_unchanged :
    s.Unchanged (s.updateSpaceState spaceId new source call).1 ↔
      s.lockOpen spaceId call = false ∨ s.Settled spaceId new source := by
  unfold updateSpaceState
  cases entered : s.lockOpen spaceId call with
  | false => simp [Unchanged.rfl]
  | true =>
    simp only [if_true,Bool.true_eq_false,false_or]
    constructor
    · intro unchanged space found
      by_contra acted
      rw [not_or,Bool.not_eq_false] at acted
      have audited := unchanged.stateChanges
      rw [releaseLock_stateChanges,
        changeState_recorded (s := s.acquireLock spaceId call) found acted.1 acted.2] at audited
      simp at audited
    · intro settled
      have idle : (s.acquireLock spaceId call).Settled spaceId new source := settled
      rw [changeState_settled idle]
      exact ⟨by simp,by simp,by simp⟩

-- Whether a call gets as far as its UPDATE.
def changes (s : Store) (spaceId : String) (new : SpaceState) (source : String) (call : Call) : Bool :=
  s.lockOpen spaceId call && (s.spaces.getSpace spaceId).any fun space =>
    decide (space.state ≠ new) && isValidTransition space.state new source

theorem changes_iff : s.changes spaceId new source call = true ↔ s.lockOpen spaceId call = true ∧
    ∃ space, s.spaces.getSpace spaceId = some space ∧ space.state ≠ new ∧
      isValidTransition space.state new source = true := by
  simp [changes,Option.any_eq_true]

theorem updateSpaceState_spaces (s : Store) (spaceId : String) (new : SpaceState) (source : String) (call : Call) :
    (s.updateSpaceState spaceId new source call).1.spaces =
      if s.changes spaceId new source call then s.spaces.setState spaceId new else s.spaces := by
  unfold updateSpaceState changes
  cases entered : s.lockOpen spaceId call with
  | false => rfl
  | true =>
    simp only [if_true,releaseLock_spaces,Bool.true_and]
    unfold changeState
    simp only [acquireLock_spaces]
    cases found : s.spaces.getSpace spaceId with
    | none => rfl
    | some space =>
      by_cases same : space.state = new
      · simp [same]
      · cases accepted : isValidTransition space.state new source with
        | false => simp [same,accepted]
        | true =>
          obtain ⟨_,rfl,_⟩ := Table.getSpace_row found
          simp only [same,accepted,if_false,Bool.not_true,Bool.false_eq_true,Option.any_some,ne_eq,not_false_eq_true,
            decide_true,Bool.and_self,if_true]
          split
          · rfl
          · exact updateDisplay_spaces ..

theorem updateSpaceState_stateChanges (s : Store) (spaceId : String) (new : SpaceState) (source : String)
    (call : Call) :
    (s.updateSpaceState spaceId new source call).1.stateChanges =
      if s.changes spaceId new source call then
        s.stateChanges ++ ((s.spaces.getSpace spaceId).map fun space =>
          ⟨space.id,space.state,new,source,call.requestId,call.now⟩).toList
      else s.stateChanges := by
  cases acted : s.changes spaceId new source call with
  | false =>
    have unchanged : s.Unchanged (s.updateSpaceState spaceId new source call).1 := by
      rw [updateSpaceState_unchanged]
      by_contra moved
      obtain ⟨entered,unsettled⟩ := not_or.mp moved
      rw [changes_iff.mpr ⟨eq_true_of_ne_false entered,not_settled_iff.mp unsettled⟩] at acted
      cases acted
    exact unchanged.stateChanges
  | true =>
    obtain ⟨entered,space,found,moved,accepted⟩ := changes_iff.mp acted
    unfold updateSpaceState
    rw [entered,if_pos rfl,releaseLock_stateChanges,
      changeState_recorded (s := s.acquireLock spaceId call) found moved accepted,found]
    rfl

end Store

end SmartParking.Spaces
