import SmartParking.Lib.Faults
import SmartParking.Spaces.StateManager

namespace SmartParking.Spaces
open Lib Lib.Faults
open Downlink (EnqueueArgs Redis orNone)

-- The keys `invalidate_cache` deletes. Nothing else is kept of the cache.
inductive CacheKey where
  | space | state | all
  deriving DecidableEq

-- The places from which `update_space_state` sends a command to Redis or to the
-- database, with those of `update_display` and `enqueue`.
inductive Site where
  | lockSet | lockRetry | getSpace | updateSpace | insertStateChange | deleteCache (key : CacheKey)
  | selectDisplay | selectTenant
  | getLastHash | incrDeduplicated | getCoalesce | lrem | deleteCmd | incrCoalesced
  | hset | expire | rpush | setCoalesce | incrEnqueued
  | insertActuation | insertFailure
  | releaseGet | releaseDelete
  deriving DecidableEq

-- The commands that release the lock.
def Site.releases : Site → Bool
  | .releaseGet | .releaseDelete => true
  | _ => false

-- The commands of `update_space_state` itself between the UPDATE and the display.
def Site.completes : Site → Bool
  | .insertStateChange | .deleteCache _ => true
  | _ => false

theorem releases_cases {fault : Option Site} (broken : fault.any Site.releases = true) :
    fault = some .releaseGet ∨ fault = some .releaseDelete := by
  cases fault with
  | none => cases broken
  | some site => cases site <;> first | exact .inl rfl | exact .inr rfl | cases broken

theorem completes_cases {fault : Option Site} (broken : fault.any Site.completes = true) :
    fault = some .insertStateChange ∨ ∃ key, fault = some (.deleteCache key) := by
  cases fault with
  | none => cases broken
  | some site => cases site <;> first | exact .inl rfl | exact .inr ⟨_,rfl⟩ | cases broken

inductive Raised where
  | transition (e : TransitionError)
  | exception (message : String)
  deriving DecidableEq

-- A row of `actuations` for a display whose own row could not be read.
structure BareActuation where
  spaceId : String
  triggerType : String
  triggerSource : String
  previousState : SpaceState
  newState : SpaceState
  displayEui : String
  downlinkError : String
  deriving DecidableEq

structure Bench where
  store : Store
  bare : List BareActuation

namespace Bench

section Commands
variable {Error : Type} (error : Error)

def ask (site : Site) (read : Store → α) : Program Site Bench Error α :=
  .command site error fun b => (b,read b.store)

def act (site : Site) (write : Store → Store) : Program Site Bench Error Unit :=
  .command site error fun b => ({b with store := write b.store},())

def queueAct (site : Site) (write : Redis → Redis) : Program Site Bench Error Unit :=
  act error site fun s => {s with queue := write s.queue}

end Commands

-- What the exception of the failing command says.
variable (message : String)

def removeExisting (existing : Option Downlink.CmdId) : Program Site Bench String Unit :=
  match orNone existing with
  | none => pure ()
  | some existing => do
    queueAct message .lrem (·.lrem existing)
    queueAct message .deleteCmd (·.deleteCmd existing)
    queueAct message .incrCoalesced (·.incr .coalesced)

-- `DownlinkQueue.enqueue`, command by command.
def enqueue (a : EnqueueArgs) (cmdId : Downlink.CmdId) : Program Site Bench String (Option Downlink.CmdId) := do
  let lastHash ← ask message .getLastHash (·.queue.lastHash a.deviceEui)
  if lastHash = some a.contentHash then
    queueAct message .incrDeduplicated (·.incr .deduplicated)
    pure none
  else
    let existing ← ask message .getCoalesce (·.queue.coalesce a.deviceEui)
    removeExisting message existing
    queueAct message .hset fun r => r.hset cmdId (a.command cmdId r.clock).mapping
    queueAct message .expire (·.expire cmdId)
    queueAct message .rpush (·.rpush cmdId)
    queueAct message .setCoalesce (·.setCoalesce a.deviceEui cmdId)
    queueAct message .incrEnqueued (·.incr .enqueued)
    pure (some cmdId)

section Display
variable (spaceId displayEui : String) (previous new : SpaceState) (triggerType : String) (call : Call)

def deliver (display : DisplayDevice) (payloadHex : String)
    (row : Option Downlink.CmdId → Option String → Actuation) : Program Site Bench String Unit :=
  match Hex.fromHex payloadHex with
  | .error position => .raise (Hex.errorText position)
  | .ok _ => do
    let tenantId ← ask message .selectTenant (·.tenantText spaceId)
    let queueId ← enqueue message
      {deviceEui := displayEui,payload := payloadHex,fport := display.fport,tenantId := tenantId,
       confirmed := display.confirmedDownlinks,spaceId := some spaceId,triggerSource := some call.requestId}
      call.cmdId
    act message .insertActuation fun s => {s with actuations := s.actuations ++ [row queueId none]}

-- `update_display`. Its exceptions are logged with a row of their own.
def updateDisplay : Program Site Bench Raised Bool := do
  let looked ← .attempt (ask message .selectDisplay
    (·.displays.find? fun display => display.devEui == displayEui && display.enabled))
  match looked with
  | .error text =>
    let _ ← .attempt (.command .insertFailure message fun b =>
      ({b with bare := b.bare ++ [⟨spaceId,triggerType,call.requestId,previous,new,displayEui,text⟩]},()))
    pure false
  | .ok none => pure false
  | .ok (some display) =>
    match orNone (display.displayCodes new) with
    | none => pure false
    | some payloadHex =>
      let row := Actuation.mk spaceId triggerType call.requestId previous new displayEui display.id payloadHex
      let sent ← .attempt (deliver message spaceId displayEui call display payloadHex row)
      match sent with
      | .ok _ => pure true
      | .error text =>
        let _ ← .attempt (act message .insertFailure fun s => {s with actuations := s.actuations ++ [row none (some text)]})
        pure false

end Display

section Update
variable (spaceId : String) (new : SpaceState) (source : String) (call : Call)

-- `except Exception`: the failure becomes a result, unless it is a refusal.
def rescue (previous : Option SpaceState) : Except Raised StateUpdateResult → Program Site Bench Raised StateUpdateResult
  | .ok result => pure result
  | .error (.transition e) => .raise (.transition e)
  | .error (.exception text) =>
    pure {success := false,previousState := previous,newState := new,error := some text}

def invalidateCache : Program Site Bench Raised Unit := do
  act (.exception message) (.deleteCache .space) fun s => s
  act (.exception message) (.deleteCache .state) fun s => s
  act (.exception message) (.deleteCache .all) fun s => s

def refreshDisplay (space : Space) : Program Site Bench Raised Bool :=
  match orNone space.displayEui with
  | none => pure false
  | some displayEui => updateDisplay message spaceId displayEui space.state new source call

def applyChange (space : Space) : Program Site Bench Raised StateUpdateResult := do
  act (.exception message) .updateSpace fun s => {s with spaces := s.spaces.setState space.id new}
  act (.exception message) .insertStateChange fun s =>
    {s with stateChanges := s.stateChanges ++ [⟨space.id,space.state,new,source,call.requestId,call.now⟩]}
  invalidateCache message
  let displayUpdated ← refreshDisplay message spaceId new source call space
  pure {success := true,previousState := some space.state,newState := new,displayUpdated := displayUpdated}

def judge (space : Space) : Program Site Bench Raised StateUpdateResult :=
  if space.state = new then pure {success := true,previousState := some space.state,newState := new}
  else if !isValidTransition space.state new source then .raise (.transition (.invalidTransition space.state new source))
  else applyChange message spaceId new source call space

-- The body under the lock. `current_state` is bound once the SELECT has answered.
def changeState : Program Site Bench Raised StateUpdateResult := do
  let looked ← .attempt (ask (Raised.exception message) .getSpace (·.spaces.getSpace spaceId))
  match looked with
  | .error e => rescue new none (.error e)
  | .ok none => pure {success := false,previousState := none,newState := new,error := some "Space not found"}
  | .ok (some space) =>
    let judged ← .attempt (judge message spaceId new source call space)
    rescue new (some space.state) judged

def acquireLock : Program Site Bench Raised Unit := do
  let acquired ← .command .lockSet (.exception message) fun b =>
    if (b.store.locks (Store.lockKey spaceId)).isNone then ({b with store := b.store.acquireLock spaceId call},true)
    else (b,false)
  if acquired then pure ()
  else
    -- wait and retry once
    let acquired ← .command .lockRetry (.exception message) fun b =>
      if call.lockFreed then ({b with store := b.store.acquireLock spaceId call},true) else (b,false)
    if acquired then pure () else .raise (.transition (.lockNotAcquired ("space:" ++ spaceId)))

def releaseLock : Program Site Bench Raised Unit := do
  let current ← ask (.exception message) .releaseGet (·.locks (Store.lockKey spaceId))
  if current = some (Store.lockValue call) then
    act (.exception message) .releaseDelete fun s => {s with locks := Function.update s.locks (Store.lockKey spaceId) none}
  else pure ()

def updateSpaceState : Program Site Bench Raised StateUpdateResult := do
  acquireLock message spaceId call
  .ensuring (changeState message spaceId new source call) (releaseLock message spaceId call)

end Update

-- Without a failing command the programs are the functions of the store.
section Healthy
open Program

variable {message} {b : Bench}

theorem ask_run {error : Error} {site : Site} {read : Store → α} (healthy : fault ≠ some site) :
    ask error site read fault b = (b,.ok (read b.store)) := command_runs healthy

theorem act_run {error : Error} {site : Site} {write : Store → Store} (healthy : fault ≠ some site) :
    act error site write fault b = ({b with store := write b.store},.ok ()) := command_runs healthy

theorem act_fails {error : Error} {site : Site} {write : Store → Store} :
    act error site write (some site) b = (b,.error error) := command_fails

def onQueue (b : Bench) (queue : Redis) : Bench := {b with store := {b.store with queue := queue}}

theorem removeExisting_healthy (existing : Option Downlink.CmdId) :
    removeExisting message existing none b =
      (b.onQueue ((orNone existing).elim b.store.queue fun existing =>
        ((b.store.queue.lrem existing).deleteCmd existing).incr .coalesced),.ok ()) := by
  unfold removeExisting
  cases orNone existing <;> rfl

theorem enqueue_healthy (a : EnqueueArgs) (cmdId : Downlink.CmdId) :
    enqueue message a cmdId none b =
      (b.onQueue (Downlink.enqueue b.store.queue a cmdId).1,.ok (Downlink.enqueue b.store.queue a cmdId).2) := by
  unfold enqueue Downlink.enqueue
  rw [bind_ok (ask_run (by simp))]
  split
  · rfl
  · rw [bind_ok (ask_run (by simp)),bind_ok (removeExisting_healthy _)]
    have removed : (orNone (b.store.queue.coalesce a.deviceEui)).elim b.store.queue (fun existing =>
        ((b.store.queue.lrem existing).deleteCmd existing).incr .coalesced) =
          Downlink.removeExisting b.store.queue a.deviceEui := by
      unfold Downlink.removeExisting
      cases b.store.queue.coalesce a.deviceEui with
      | none => rfl
      | some existing =>
        by_cases empty : existing = ""
        · simp [empty,orNone,Option.filter]
        · simp [empty,orNone,Option.filter]
    rw [removed]
    rfl

def onStore (b : Bench) (store : Store) : Bench := {b with store := store}

variable {spaceId displayEui source : String} {previous new : SpaceState} {call : Call}

theorem updateDisplay_healthy :
    updateDisplay message spaceId displayEui previous new source call none b =
      (b.onStore (b.store.updateDisplay spaceId displayEui previous new source call).1,
        .ok (b.store.updateDisplay spaceId displayEui previous new source call).2) := by
  unfold updateDisplay Store.updateDisplay
  rw [bind_ok attempt_run,ask_run (by simp)]
  cases b.store.displays.find? fun display => display.devEui == displayEui && display.enabled with
  | none => rfl
  | some display =>
    dsimp only
    cases orNone (display.displayCodes new) with
    | none => rfl
    | some payloadHex =>
      dsimp only
      rw [bind_ok attempt_run]
      unfold deliver
      cases Hex.fromHex payloadHex with
      | error position => rfl
      | ok bytes =>
        dsimp only
        rw [bind_ok (ask_run (by simp)),bind_ok (enqueue_healthy _ _)]
        rfl

theorem invalidateCache_run (healthy : ∀ key, fault ≠ some (.deleteCache key)) :
    invalidateCache message fault b = (b,.ok ()) := by
  unfold invalidateCache
  rw [bind_ok (act_run (healthy .space)),bind_ok (act_run (healthy .state)),act_run (healthy .all)]

theorem changeState_healthy :
    changeState message spaceId new source call none b =
      (b.onStore (b.store.changeState spaceId new source call).1,
        (b.store.changeState spaceId new source call).2.mapError .transition) := by
  unfold changeState Store.changeState
  rw [bind_ok attempt_run,ask_run (by simp)]
  cases b.store.spaces.getSpace spaceId with
  | none => rfl
  | some space =>
    dsimp only
    rw [bind_ok attempt_run]
    unfold judge
    split
    · rfl
    · split
      · rfl
      · unfold applyChange
        rw [bind_ok (act_run (by simp)),bind_ok (act_run (by simp))]
        unfold refreshDisplay
        cases orNone space.displayEui with
        | none => rfl
        | some displayEui =>
          rw [bind_ok (invalidateCache_run (by simp)),bind_ok updateDisplay_healthy]
          rfl

theorem acquireLock_healthy :
    acquireLock message spaceId call none b =
      if b.store.lockOpen spaceId call then (b.onStore (b.store.acquireLock spaceId call),.ok ())
      else (b,.error (.transition (.lockNotAcquired ("space:" ++ spaceId)))) := by
  unfold acquireLock Store.lockOpen
  rw [bind_run,command_none]
  cases (b.store.locks (Store.lockKey spaceId)).isNone with
  | true => rfl
  | false => cases call.lockFreed <;> rfl

theorem releaseLock_healthy :
    releaseLock message spaceId call none b = (b.onStore (b.store.releaseLock spaceId call),.ok ()) := by
  unfold releaseLock Store.releaseLock
  rw [bind_ok (ask_run (by simp))]
  split <;> rfl

theorem updateSpaceState_healthy :
    updateSpaceState message spaceId new source call none b =
      (b.onStore (b.store.updateSpaceState spaceId new source call).1,
        (b.store.updateSpaceState spaceId new source call).2.mapError .transition) := by
  unfold updateSpaceState Store.updateSpaceState
  rw [bind_run,acquireLock_healthy]
  cases b.store.lockOpen spaceId call with
  | false => rfl
  | true =>
    simp only [if_true]
    rw [ensuring_run,changeState_healthy,releaseLock_healthy]
    rfl

end Healthy

section Faulty
open Program

variable {message} {b : Bench} {spaceId displayEui source : String} {previous new : SpaceState} {call : Call}

def record (b : Bench) : Table × List StateChange := (b.store.spaces,b.store.stateChanges)

def locks (b : Bench) : String → Option String := b.store.locks

theorem ask_keeps {view : Bench → β} {error : Error} {site : Site} {read : Store → α} :
    Keeps view (ask error site read) := keeps_command fun _ => rfl

theorem queueAct_keeps {view : Bench → β} {error : Error} {site : Site} {write : Redis → Redis}
    (stable : ∀ b queue, view (onQueue b queue) = view b) : Keeps view (queueAct error site write) :=
  keeps_command fun b => stable b _

theorem enqueue_keeps {view : Bench → β} (stable : ∀ b queue, view (onQueue b queue) = view b) (a : EnqueueArgs)
    (cmdId : Downlink.CmdId) : Keeps view (enqueue message a cmdId) := by
  unfold enqueue
  refine keeps_bind ask_keeps fun lastHash => ?_
  split
  · exact keeps_bind (queueAct_keeps stable) fun _ => keeps_pure _
  · refine keeps_bind ask_keeps fun existing => keeps_bind ?_ fun _ => ?_
    · unfold removeExisting
      split
      · exact keeps_pure _
      · exact keeps_bind (queueAct_keeps stable) fun _ => keeps_bind (queueAct_keeps stable) fun _ => queueAct_keeps stable
    · exact keeps_bind (queueAct_keeps stable) fun _ => keeps_bind (queueAct_keeps stable) fun _ =>
        keeps_bind (queueAct_keeps stable) fun _ => keeps_bind (queueAct_keeps stable) fun _ =>
        keeps_bind (queueAct_keeps stable) fun _ => keeps_pure _

-- A view of neither the queue nor the rows of `actuations`.
structure Aside (view : Bench → β) : Prop where
  queue : ∀ b queue, view (onQueue b queue) = view b
  actuations : ∀ b rows, view (onStore b {b.store with actuations := rows}) = view b
  bare : ∀ b rows, view {b with bare := rows} = view b

theorem updateDisplay_keeps {view : Bench → β} (aside : Aside view) :
    Keeps view (updateDisplay message spaceId displayEui previous new source call) := by
  unfold updateDisplay
  refine keeps_bind (keeps_attempt ask_keeps) fun looked => ?_
  split
  · refine keeps_bind (keeps_attempt (keeps_command ?_)) fun _ => keeps_pure _
    intro b
    exact aside.bare b _
  · exact keeps_pure _
  · split
    · exact keeps_pure _
    · refine keeps_bind (keeps_attempt ?_) fun sent => ?_
      · unfold deliver
        split
        · exact keeps_raise _
        · exact keeps_bind ask_keeps fun _ => keeps_bind (enqueue_keeps aside.queue _ _) fun _ =>
            keeps_command fun b => aside.actuations b _
      · split
        · exact keeps_pure _
        · exact keeps_bind (keeps_attempt (keeps_command fun b => aside.actuations b _)) fun _ => keeps_pure _

theorem updateDisplay_total : Total (updateDisplay message spaceId displayEui previous new source call) := by
  unfold updateDisplay
  refine total_bind (total_attempt _) fun looked => ?_
  split
  · exact total_bind (total_attempt _) fun _ => total_pure _
  · exact total_pure _
  · split
    · exact total_pure _
    · refine total_bind (total_attempt _) fun sent => ?_
      split
      · exact total_pure _
      · exact total_bind (total_attempt _) fun _ => total_pure _

theorem record_aside : Aside record := ⟨fun _ _ => rfl,fun _ _ => rfl,fun _ _ => rfl⟩

theorem locks_aside : Aside locks := ⟨fun _ _ => rfl,fun _ _ => rfl,fun _ _ => rfl⟩

-- Whether the lock is taken although a command may fail.
def granted (b : Bench) (spaceId : String) (call : Call) (fault : Option Site) : Bool :=
  fault ≠ some .lockSet &&
    ((b.store.locks (Store.lockKey spaceId)).isNone || (fault ≠ some .lockRetry && call.lockFreed))

theorem acquireLock_granted (vacancy : b.granted spaceId call fault = true) :
    acquireLock message spaceId call fault b = (b.onStore (b.store.acquireLock spaceId call),.ok ()) := by
  simp only [granted,Bool.and_eq_true,Bool.or_eq_true,decide_eq_true_eq] at vacancy
  obtain ⟨first,free⟩ := vacancy
  unfold acquireLock
  rw [bind_ok (command_runs first)]
  cases vacant : (b.store.locks (Store.lockKey spaceId)).isNone with
  | true => rfl
  | false =>
    rw [vacant] at free
    obtain ⟨second,freed⟩ := free.resolve_left Bool.false_ne_true
    simp only [Bool.false_eq_true,if_false]
    rw [bind_ok (command_runs second),freed]
    rfl

theorem acquireLock_denied (closed : b.granted spaceId call fault = false) :
    ∃ e, acquireLock message spaceId call fault b = (b,.error e) := by
  unfold acquireLock
  by_cases first : fault = some .lockSet
  · rw [first]
    exact ⟨_,bind_error command_fails⟩
  · rw [bind_ok (command_runs first)]
    cases vacant : (b.store.locks (Store.lockKey spaceId)).isNone with
    | true => simp [granted,first,vacant] at closed
    | false =>
      simp only [Bool.false_eq_true,if_false]
      by_cases second : fault = some .lockRetry
      · rw [second]
        exact ⟨_,bind_error command_fails⟩
      · have held : call.lockFreed = false := by simpa [granted,first,vacant,second] using closed
        rw [bind_ok (command_runs second),held]
        exact ⟨_,rfl⟩

theorem releaseLock_keeps : Keeps record (releaseLock message spaceId call) := by
  unfold releaseLock
  refine keeps_bind ask_keeps fun current => ?_
  split
  · exact keeps_command fun _ => rfl
  · exact keeps_pure _

theorem releaseLock_run (owned : b.store.locks (Store.lockKey spaceId) = some (Store.lockValue call))
    (healthy : fault.any Site.releases = false) : ∃ last, releaseLock message spaceId call fault b = (last,.ok ()) := by
  have first : fault ≠ some .releaseGet := spared_ne healthy rfl
  have second : fault ≠ some .releaseDelete := spared_ne healthy rfl
  unfold releaseLock
  rw [bind_ok (ask_run first),if_pos owned]
  exact ⟨_,act_run second⟩

theorem releaseLock_raises (owned : b.store.locks (Store.lockKey spaceId) = some (Store.lockValue call))
    (broken : fault.any Site.releases = true) : ∃ last e, releaseLock message spaceId call fault b = (last,.error e) := by
  unfold releaseLock
  rcases releases_cases broken with rfl | rfl
  · exact ⟨_,_,bind_error command_fails⟩
  · rw [bind_ok (ask_run (by simp)),if_pos owned]
    exact ⟨_,_,act_fails⟩

theorem rescue_keeps {view : Bench → β} (previous : Option SpaceState) (result : Except Raised StateUpdateResult) :
    Keeps view (rescue new previous result) := by
  unfold rescue
  split
  · exact keeps_pure _
  · exact keeps_raise _
  · exact keeps_pure _

-- The body leaves the lock as it is.
theorem changeState_locks : Keeps locks (changeState message spaceId new source call) := by
  have written : ∀ {error : Raised} {site : Site} {write : Store → Store}, (∀ s, (write s).locks = s.locks) →
      Keeps locks (act error site write) := fun same => keeps_command fun b => same b.store
  unfold changeState
  refine keeps_bind (keeps_attempt ask_keeps) fun looked => ?_
  split
  · exact rescue_keeps _ _
  · exact keeps_pure _
  · refine keeps_bind (keeps_attempt ?_) fun judged => rescue_keeps _ _
    unfold judge
    split
    · exact keeps_pure _
    · split
      · exact keeps_raise _
      · unfold applyChange invalidateCache refreshDisplay
        refine keeps_bind (written fun _ => rfl) fun _ => keeps_bind (written fun _ => rfl) fun _ =>
          keeps_bind (keeps_bind (written fun _ => rfl) fun _ => keeps_bind (written fun _ => rfl) fun _ =>
            written fun _ => rfl) fun _ => keeps_bind ?_ fun _ => keeps_pure _
        split
        · exact keeps_pure _
        · exact updateDisplay_keeps locks_aside

theorem refreshDisplay_run (space : Space) :
    ∃ last displayUpdated, refreshDisplay message spaceId new source call space fault b = (last,.ok displayUpdated) ∧
      last.record = b.record := by
  unfold refreshDisplay
  cases orNone space.displayEui with
  | none => exact ⟨b,false,rfl,rfl⟩
  | some displayEui =>
    have total : Total (updateDisplay message spaceId displayEui space.state new source call) := updateDisplay_total
    obtain ⟨displayUpdated,ran⟩ := total fault b
    exact ⟨_,displayUpdated,Prod.ext rfl ran,updateDisplay_keeps record_aside fault b⟩

variable {space : Space}

-- The UPDATE is done and the body ends well: no command of its own failed.
theorem applyChange_done (update : fault ≠ some .updateSpace) (healthy : fault.any Site.completes = false) :
    ∃ last displayUpdated, applyChange message spaceId new source call space fault b =
      (last,.ok {success := true,previousState := some space.state,newState := new,displayUpdated := displayUpdated}) ∧
      last.store.spaces = b.store.spaces.setState space.id new := by
  have insert : fault ≠ some .insertStateChange := spared_ne healthy rfl
  have delete : ∀ key, fault ≠ some (.deleteCache key) := fun _ => spared_ne healthy rfl
  unfold applyChange
  rw [bind_ok (act_run update),bind_ok (act_run insert),bind_ok (invalidateCache_run delete)]
  obtain ⟨last,displayUpdated,ran,kept⟩ := refreshDisplay_run space
  rw [bind_ok ran]
  exact ⟨last,displayUpdated,rfl,congrArg Prod.fst kept⟩

theorem invalidateCache_fails (key : CacheKey) :
    invalidateCache message (some (.deleteCache key)) b = (b,.error (.exception message)) := by
  cases key <;> rfl

-- The UPDATE is done, and a later command of the body fails.
theorem applyChange_broken (broken : fault.any Site.completes = true) :
    ∃ last, applyChange message spaceId new source call space fault b = (last,.error (.exception message)) ∧
      last.store.spaces = b.store.spaces.setState space.id new := by
  have sites : fault = some .insertStateChange ∨ ∃ key, fault = some (.deleteCache key) := completes_cases broken
  unfold applyChange
  rcases sites with rfl | ⟨key,rfl⟩
  · rw [bind_ok (act_run (by simp))]
    exact ⟨_,bind_error act_fails,rfl⟩
  · rw [bind_ok (act_run (by simp)),bind_ok (act_run (by simp))]
    exact ⟨_,bind_error (invalidateCache_fails key),rfl⟩

theorem rescue_exception (previous : Option SpaceState) (text : String) (b : Bench) :
    rescue new previous (.error (.exception text)) fault b =
      (b,.ok {success := false,previousState := previous,newState := new,error := some text}) := rfl

theorem changeState_lost : ∃ result, changeState message spaceId new source call (some .getSpace) b = (b,.ok result) := by
  unfold changeState
  rw [bind_ok attempt_run,show ask (Raised.exception message) .getSpace _ (some .getSpace) b = _ from command_fails]
  exact ⟨_,rescue_exception ..⟩

theorem changeState_missing (looked : fault ≠ some .getSpace) (missing : b.store.spaces.getSpace spaceId = none) :
    ∃ result, changeState message spaceId new source call fault b = (b,.ok result) := by
  unfold changeState
  rw [bind_ok attempt_run,ask_run looked,missing]
  exact ⟨_,pure_run _⟩

theorem changeState_judged (looked : fault ≠ some .getSpace) (found : b.store.spaces.getSpace spaceId = some space) :
    changeState message spaceId new source call fault b =
      (.attempt (judge message spaceId new source call space) >>= rescue new (some space.state)) fault b := by
  unfold changeState
  rw [bind_ok attempt_run,ask_run looked,found]

theorem judge_applies (moved : space.state ≠ new) (accepted : isValidTransition space.state new source = true) :
    judge message spaceId new source call space = applyChange message spaceId new source call space := by
  unfold judge
  rw [if_neg moved,accepted]
  rfl

-- Without the UPDATE, the state is set already or the transition is refused.
theorem judge_settled (settled : space.state = new ∨ isValidTransition space.state new source = false) :
    judge message spaceId new source call space fault b =
      (b,if space.state = new then .ok {success := true,previousState := some space.state,newState := new}
        else .error (.transition (.invalidTransition space.state new source))) := by
  unfold judge
  by_cases same : space.state = new
  · rw [if_pos same,if_pos same]
    rfl
  · rw [if_neg same,if_neg same,settled.resolve_left same]
    rfl

theorem changeState_applies (found : b.store.spaces.getSpace spaceId = some space) (moved : space.state ≠ new)
    (accepted : isValidTransition space.state new source = true) (looked : fault ≠ some .getSpace) :
    changeState message spaceId new source call fault b =
      (.attempt (applyChange message spaceId new source call space) >>= rescue new (some space.state)) fault b := by
  rw [changeState_judged looked found,judge_applies moved accepted]

-- The UPDATE is not reached.
theorem changeState_idle (idle : fault = some .getSpace ∨ fault = some .updateSpace ∨
      b.store.Settled spaceId new source) :
    (changeState message spaceId new source call fault b).1.record = b.record := by
  by_cases lost : fault = some .getSpace
  · subst fault
    obtain ⟨result,ran⟩ : ∃ result, changeState message spaceId new source call (some .getSpace) b = (b,.ok result) :=
      changeState_lost
    rw [ran]
  · cases found : b.store.spaces.getSpace spaceId with
    | none =>
      obtain ⟨result,ran⟩ := changeState_missing lost found
      rw [ran]
    | some space =>
      rw [changeState_judged lost found,bind_ok attempt_run]
      refine (rescue_keeps (some space.state) _ fault _).trans ?_
      by_cases settled : space.state = new ∨ isValidTransition space.state new source = false
      · rw [judge_settled settled]
      · obtain ⟨moved,accepted⟩ := not_or.mp settled
        rw [judge_applies moved (eq_true_of_ne_false accepted)]
        rcases idle with same | refused | idle
        · exact absurd same lost
        · unfold applyChange
          rw [refused,bind_error act_fails]
        · exact absurd (idle space found) settled

-- The record after the call is the record its body leaves.
theorem updateSpaceState_record (message : String) (new : SpaceState) (source : String) (entered : b.granted spaceId call fault = true) :
    (updateSpaceState message spaceId new source call fault b).1.record =
      (changeState message spaceId new source call fault (b.onStore (b.store.acquireLock spaceId call))).1.record := by
  unfold updateSpaceState
  rw [bind_ok (acquireLock_granted entered),ensuring_state]
  exact releaseLock_keeps fault _

theorem locked (b : Bench) (spaceId : String) (call : Call) (fault : Option Site) :
    (changeState message spaceId new source call fault
      (b.onStore (b.store.acquireLock spaceId call))).1.store.locks (Store.lockKey spaceId) = some (Store.lockValue call) := by
  have kept : Keeps locks (changeState message spaceId new source call) := changeState_locks
  have same := congrFun (kept fault (b.onStore (b.store.acquireLock spaceId call))) (Store.lockKey spaceId)
  exact same.trans (Function.update_self ..)

theorem updateSpaceState_released (entered : b.granted spaceId call fault = true)
    (healthy : fault.any Site.releases = false) :
    (updateSpaceState message spaceId new source call fault b).2 =
      (changeState message spaceId new source call fault (b.onStore (b.store.acquireLock spaceId call))).2 := by
  unfold updateSpaceState
  rw [bind_ok (acquireLock_granted entered),ensuring_run]
  obtain ⟨last,ran⟩ := releaseLock_run (locked b spaceId call fault) healthy
  rw [ran]

theorem updateSpaceState_unreleased (entered : b.granted spaceId call fault = true)
    (broken : fault.any Site.releases = true) :
    ∃ e, (updateSpaceState message spaceId new source call fault b).2 = .error e := by
  unfold updateSpaceState
  rw [bind_ok (acquireLock_granted entered),ensuring_run]
  obtain ⟨last,e,ran⟩ := releaseLock_raises (locked b spaceId call fault) broken
  rw [ran]
  exact ⟨e,rfl⟩

end Faulty

def failed : Except Raised StateUpdateResult → Bool
  | .ok result => !result.success
  | .error _ => true

section Atomicity
open Program

variable {message : String} {b : Bench} {spaceId source : String} {new : SpaceState} {call : Call} {space : Space}

theorem states_stateOf {t other : Table} (same : other.states = t.states) (spaceId : String) :
    other.stateOf spaceId = t.stateOf spaceId := by
  have read : ∀ t : Table, t.stateOf spaceId = (t.states.find? (·.1 == spaceId)).map (·.2) := by
    intro t
    rw [Table.states,List.find?_map,Option.map_map]
    rfl
  rw [read,read,same]

theorem setState_moves {t : Table} (found : t.getSpace spaceId = some space) (moved : space.state ≠ new) :
    (t.setState spaceId new).states ≠ t.states := by
  intro same
  have before := Table.getSpace_stateOf found
  have after := Table.setState_stateOf (by rw [before]; rfl) new
  rw [states_stateOf same,before] at after
  exact moved (Option.some.inj after)

-- The commands after which the change is made but the call can still fail.
def Exposed (fault : Option Site) : Prop := fault.any Site.completes = true ∨ fault.any Site.releases = true

theorem exposed_ne (exposed : Exposed fault) {site : Site} (before : site.completes = false ∧ site.releases = false) :
    fault ≠ some site := by
  rcases exposed with later | last
  · exact hit_ne later before.1
  · exact hit_ne last before.2

theorem granted_open (exposed : Exposed fault) :
    b.granted spaceId call fault = b.store.lockOpen spaceId call := by
  have set : fault ≠ some .lockSet := exposed_ne exposed ⟨rfl,rfl⟩
  have retry : fault ≠ some .lockRetry := exposed_ne exposed ⟨rfl,rfl⟩
  simp [granted,Store.lockOpen,set,retry]

theorem changeState_done (message : String) (call : Call) (found : b.store.spaces.getSpace spaceId = some space) (moved : space.state ≠ new)
    (accepted : isValidTransition space.state new source = true) (looked : fault ≠ some .getSpace)
    (update : fault ≠ some .updateSpace) :
    ∃ last result, changeState message spaceId new source call fault b = (last,.ok result) ∧
      last.store.spaces = b.store.spaces.setState spaceId new ∧
      (result.success = false ↔ fault.any Site.completes = true) := by
  obtain ⟨_,rfl,_⟩ := Table.getSpace_row found
  rw [changeState_applies found moved accepted looked,bind_ok attempt_run]
  cases broken : fault.any Site.completes with
  | true =>
    obtain ⟨last,ran,spaces⟩ := applyChange_broken broken
    rw [ran]
    exact ⟨last,_,rfl,spaces,by simp⟩
  | false =>
    obtain ⟨last,displayUpdated,ran,spaces⟩ := applyChange_done update broken
    rw [ran]
    exact ⟨last,_,rfl,spaces,by simp⟩

-- A call that gets as far as its UPDATE is answered with a failure exactly when
-- one of the exposed commands fails.
theorem updateSpaceState_done (entered : b.granted spaceId call fault = true)
    (found : b.store.spaces.getSpace spaceId = some space) (moved : space.state ≠ new)
    (accepted : isValidTransition space.state new source = true) (looked : fault ≠ some .getSpace)
    (update : fault ≠ some .updateSpace) :
    (updateSpaceState message spaceId new source call fault b).1.store.spaces = b.store.spaces.setState spaceId new ∧
    (failed (updateSpaceState message spaceId new source call fault b).2 = true ↔ Exposed fault) := by
  obtain ⟨last,result,ran,spaces,succeeded⟩ :=
    changeState_done (b := b.onStore (b.store.acquireLock spaceId call)) message call found moved accepted looked update
  have record := updateSpaceState_record message new source entered
  rw [ran] at record
  refine ⟨(congrArg Prod.fst record).trans spaces,?_⟩
  unfold Exposed
  cases broken : fault.any Site.releases with
  | true =>
    obtain ⟨e,raised⟩ := updateSpaceState_unreleased entered broken
    rw [raised]
    exact iff_of_true rfl (.inr rfl)
  | false =>
    rw [updateSpaceState_released entered broken,ran,← succeeded]
    simp [failed]

-- What a failed call leaves of the space states and of the audit log is what it
-- found, unless the change was made before the failure.
theorem failed_update_unchanged (message : String) (b : Bench) (spaceId : String) (new : SpaceState) (source : String)
    (call : Call) (fault : Option Site) :
    (failed (updateSpaceState message spaceId new source call fault b).2 = true →
      (updateSpaceState message spaceId new source call fault b).1.store.spaces.states = b.store.spaces.states ∧
      (updateSpaceState message spaceId new source call fault b).1.store.stateChanges = b.store.stateChanges) ↔
    ¬(b.store.changes spaceId new source call = true ∧ Exposed fault) := by
  constructor
  · intro atomic changed
    obtain ⟨acts,exposed⟩ := changed
    obtain ⟨entered,space,found,moved,accepted⟩ := Store.changes_iff.mp acts
    obtain ⟨spaces,failure⟩ := updateSpaceState_done (by rw [granted_open exposed]; exact entered) found moved accepted
      (exposed_ne exposed ⟨rfl,rfl⟩) (exposed_ne exposed ⟨rfl,rfl⟩)
    have same := (atomic (failure.mpr exposed)).1
    rw [spaces] at same
    exact setState_moves found moved same
  · intro safe failure
    suffices kept : (updateSpaceState message spaceId new source call fault b).1.record = b.record from
      ⟨congrArg (·.1.states) kept,congrArg Prod.snd kept⟩
    cases entered : b.granted spaceId call fault with
    | false =>
      obtain ⟨e,ran⟩ := acquireLock_denied entered
      unfold updateSpaceState
      rw [bind_error ran]
    | true =>
      rw [updateSpaceState_record message new source entered]
      refine changeState_idle ?_
      by_contra acting
      rw [not_or,not_or] at acting
      obtain ⟨looked,update,unsettled⟩ := acting
      obtain ⟨space,found,moved,accepted⟩ := Store.not_settled_iff.mp unsettled
      obtain ⟨_,exposed⟩ := updateSpaceState_done entered found moved accepted looked update
      have beyond := exposed.mp failure
      rw [granted_open beyond] at entered
      exact safe ⟨Store.changes_iff.mpr ⟨entered,space,found,moved,accepted⟩,beyond⟩

-- Under the lock, only a refused transition is raised.
theorem changeState_raises : (∃ e, (changeState message spaceId new source call fault b).2 = .error e) ↔
    fault ≠ some .getSpace ∧ ∃ space, b.store.spaces.getSpace spaceId = some space ∧ space.state ≠ new ∧
      isValidTransition space.state new source = false := by
  have ended : (∃ last result, changeState message spaceId new source call fault b = (last,.ok result)) →
      ¬∃ e, (changeState message spaceId new source call fault b).2 = .error e := by
    rintro ⟨last,result,ran⟩ ⟨e,raised⟩
    rw [ran] at raised
    cases raised
  by_cases lost : fault = some .getSpace
  · subst fault
    exact iff_of_false (ended ⟨b,changeState_lost⟩) fun looked => looked.1 rfl
  cases found : b.store.spaces.getSpace spaceId with
  | none => exact iff_of_false (ended ⟨b,changeState_missing lost found⟩) (by simp)
  | some space =>
    by_cases settled : space.state = new ∨ isValidTransition space.state new source = false
    · rw [changeState_judged lost found,bind_ok attempt_run,judge_settled settled]
      by_cases same : space.state = new
      · rw [if_pos same]
        simp [same,rescue]
      · rw [if_neg same]
        exact iff_of_true ⟨_,rfl⟩ ⟨lost,space,rfl,same,settled.resolve_left same⟩
    · obtain ⟨moved,valid⟩ := not_or.mp settled
      have accepted := eq_true_of_ne_false valid
      refine iff_of_false (ended ?_) (by simp [accepted])
      by_cases update : fault = some .updateSpace
      · rw [changeState_applies found moved accepted lost,bind_ok attempt_run]
        unfold applyChange
        rw [update,bind_error act_fails]
        exact ⟨_,_,rescue_exception ..⟩
      · obtain ⟨last,result,ran,_⟩ := changeState_done message call found moved accepted lost update
        exact ⟨last,result,ran⟩

theorem updateSpaceState_raises (message : String) (b : Bench) (spaceId : String) (new : SpaceState) (source : String)
    (call : Call) (fault : Option Site) :
    (∃ e, (updateSpaceState message spaceId new source call fault b).2 = .error e) ↔
      b.granted spaceId call fault = false ∨ fault.any Site.releases = true ∨
      (fault ≠ some .getSpace ∧ ∃ space, b.store.spaces.getSpace spaceId = some space ∧ space.state ≠ new ∧
        isValidTransition space.state new source = false) := by
  cases entered : b.granted spaceId call fault with
  | false =>
    obtain ⟨e,ran⟩ := acquireLock_denied entered
    refine iff_of_true ⟨e,?_⟩ (.inl rfl)
    unfold updateSpaceState
    rw [bind_error ran]
  | true =>
    cases broken : fault.any Site.releases with
    | true => exact iff_of_true (updateSpaceState_unreleased entered broken) (.inr (.inl rfl))
    | false =>
      rw [updateSpaceState_released entered broken,changeState_raises]
      simp [onStore]

-- The commands whose failure is raised and not answered.
def raisesAt (s : Store) (spaceId : String) : Site → Bool
  | .lockSet | .releaseGet | .releaseDelete => true
  | .lockRetry => (s.locks (Store.lockKey spaceId)).isSome
  | _ => false

theorem granted_released : b.granted spaceId call fault = true ∧ fault.any Site.releases = false ↔
    b.store.lockOpen spaceId call = true ∧ fault.any (raisesAt b.store spaceId) = false := by
  unfold granted Store.lockOpen
  cases held : b.store.locks (Store.lockKey spaceId) <;> cases fault with
  | none => simp
  | some site => cases site <;> simp [Site.releases,raisesAt,held]

-- A call returns exactly when it gets the lock, the space may go to the state
-- asked for, as far as that is known, and no failing command is raised.
theorem updateSpaceState_returns (message : String) (b : Bench) (spaceId : String) (new : SpaceState) (source : String)
    (call : Call) (fault : Option Site) :
    (∃ result, (updateSpaceState message spaceId new source call fault b).2 = .ok result) ↔
      b.store.lockOpen spaceId call = true ∧ fault.any (raisesAt b.store spaceId) = false ∧
      (fault = some .getSpace ∨ ∀ space, b.store.spaces.getSpace spaceId = some space →
        space.state = new ∨ isValidTransition space.state new source = true) := by
  have raises := updateSpaceState_raises message b spaceId new source call fault
  have either : (∃ result, (updateSpaceState message spaceId new source call fault b).2 = .ok result) ↔
      ¬∃ e, (updateSpaceState message spaceId new source call fault b).2 = .error e := by
    cases (updateSpaceState message spaceId new source call fault b).2 <;> simp
  rw [either,raises,← and_assoc,← granted_released,not_or,not_or,Bool.not_eq_false,Bool.not_eq_true,and_assoc,not_and_or,
    not_not]
  simp [or_iff_not_imp_left]

def oneSpace : Bench where
  store :=
    {spaces := ⟨[{id := "1",code := "A001",sensorEui := none,displayEui := none,state := .free,tenantId := some "1"}],
       List.nodup_singleton _,List.nodup_nil⟩,
     stateChanges := [],displays := [],actuations := [],locks := fun _ => none,queue := .empty}
  bare := []

def lostConnection : String := "Connection lost"

-- The first DELETE of the cache fails: the answer says so, but the space is
-- occupied and its audit row is written.
theorem failed_update_occupies :
    failed (updateSpaceState lostConnection "1" .occupied "sensor_uplink" ⟨"req_1",0,"A",false⟩
      (some (.deleteCache .space)) oneSpace).2 = true ∧
    oneSpace.store.spaces.states = [("1",.free)] ∧
    (updateSpaceState lostConnection "1" .occupied "sensor_uplink" ⟨"req_1",0,"A",false⟩
      (some (.deleteCache .space)) oneSpace).1.store.spaces.states = [("1",.occupied)] ∧
    (updateSpaceState lostConnection "1" .occupied "sensor_uplink" ⟨"req_1",0,"A",false⟩
      (some (.deleteCache .space)) oneSpace).1.store.stateChanges.length = 1 := by decide +kernel

end Atomicity

end Bench

end SmartParking.Spaces
