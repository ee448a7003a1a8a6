import SmartParking.Downlink.Coalescing
import SmartParking.Uplink.Replay

namespace SmartParking.Downlink

def Bears (h : CmdHash) (device : DeviceEui) (payload : String) : Prop :=
  h .deviceEui = some device ∧ h .payload = some payload

-- A command that tells a device a payload waits in `dl:pending`, or a worker has
-- taken it and is not done with it.
inductive Outstanding (r : Redis) (workers : Nat → WorkerPc) (device : DeviceEui) (payload : String) : Prop where
  | pending (id : CmdId) : id ∈ r.pending → Bears (r.cmd id) device payload → Outstanding r workers device payload
  | popped (w : Nat) (id : CmdId) : workers w = .hgetall id → Bears (r.cmd id) device payload →
      Outstanding r workers device payload
  | taken (w : Nat) (cmd : DownlinkCommand) : (workers w).command = some cmd → cmd.deviceEui = device →
      cmd.payload = payload → Outstanding r workers device payload

-- Only the list and the stored commands matter.
theorem Outstanding.congr {r other : Redis} (outstanding : Outstanding r workers device payload)
    (pending : other.pending = r.pending) (cmd : other.cmd = r.cmd) : Outstanding other workers device payload := by
  cases outstanding with
  | pending id member stored => exact .pending id (pending ▸ member) (cmd ▸ stored)
  | popped w id held stored => exact .popped w id held (cmd ▸ stored)
  | taken w command held named same => exact .taken w command held named same

theorem enqueue_outstanding (r : Redis) (workers : Nat → WorkerPc) (a : EnqueueArgs) (cmdId : CmdId) :
    Outstanding (enqueue r a cmdId).1 workers a.deviceEui a.payload ↔
      r.lastHash a.deviceEui ≠ some a.contentHash ∨ Outstanding r workers a.deviceEui a.payload := by
  unfold enqueue
  by_cases sent : r.lastHash a.deviceEui = some a.contentHash
  · rw [if_pos sent]
    constructor
    · intro outstanding
      exact .inr (outstanding.congr rfl rfl)
    · intro before
      exact (before.resolve_left (not_not.mpr sent)).congr rfl rfl
  · rw [if_neg sent]
    refine iff_of_true (.pending cmdId ?_ ?_) (.inl sent)
    · exact List.mem_append_right _ List.mem_cons_self
    · simp [Bears,Redis.setCoalesce,Redis.incr,Redis.rpush,Redis.hset,CmdHash.hset,DownlinkCommand.mapping,
        EnqueueArgs.command]

end SmartParking.Downlink

namespace SmartParking.Background
open Lib
open Spaces (SpaceState Space DisplayDevice Store Call)
open Uplink (Platform KuandoUplink)
open Downlink (Outstanding orNone computeContentHash)

-- The body of `_reconciliation_loop` for one row of its query, which joins a
-- space that is not deleted with its enabled display. Exceptions end the body
-- and are logged.
def reconcileSpace (p : Platform) (space : Space) (display : DisplayDevice) (call : Call) : Platform :=
  match space.displayEui with
  | none => p
  | some displayEui =>
    let refresh (triggerSource : String) : Platform :=
      {p with store := (p.store.updateDisplay space.id displayEui space.state space.state "system_cleanup"
        {call with requestId := triggerSource}).1}
    match p.lastKuandoUplink displayEui with
    | some lastData =>
      match orNone (display.displayCodes space.state) with
      | none => p
      | some expectedHex =>
        match Hex.fromHex expectedHex with
        | .ok (first::second::third::_) =>
          if lastData.rgb ≠ (first,second,third) then refresh "reconciliation" else p
        | _ => p
    | none => if "202020".toList.isPrefixOf displayEui.toList then refresh "reconciliation_poll" else p

-- A space with an enabled display that reported other colours than those of the
-- payload for the space's state.
structure Mismatch (p : Platform) (space : Space) (display : DisplayDevice) (displayEui payload : String)
    (reported : KuandoUplink) (expected : Nat × Nat × Nat) (rest : List Nat) : Prop where
  stored : space ∈ p.store.spaces.rows ∧ space.deleted = false
  shown : space.displayEui = some displayEui
  found : p.store.displays.find? (fun display => display.devEui == displayEui && display.enabled) = some display
  configured : display.displayCodes space.state = some payload
  decoded : Hex.fromHex payload = .ok (expected.1::expected.2.1::expected.2.2::rest)
  recorded : p.lastKuandoUplink displayEui = some reported
  differs : reported.rgb ≠ expected

theorem Mismatch.code (mismatch : Mismatch p space display displayEui payload reported expected rest) :
    orNone (display.displayCodes space.state) = some payload := by
  have named : payload ≠ "" := by
    intro empty
    have decoded := mismatch.decoded
    rw [empty] at decoded
    cases decoded
  simp [mismatch.configured,orNone,Option.filter,named]

-- The correction reaches the queue exactly when the queue does not remember the
-- payload as the last one sent, or has it outstanding anyway.
theorem reconciliation_corrects (workers : Nat → Downlink.WorkerPc)
    (mismatch : Mismatch p space display displayEui payload reported expected rest) (call : Call) :
    Outstanding (reconcileSpace p space display call).store.queue workers displayEui payload ↔
      p.store.queue.lastHash displayEui ≠ some (computeContentHash displayEui payload display.fport) ∨
      Outstanding p.store.queue workers displayEui payload := by
  have differs : reported.rgb ≠ (expected.1,expected.2.1,expected.2.2) := mismatch.differs
  simp only [reconcileSpace,mismatch.shown,mismatch.recorded,mismatch.code,mismatch.decoded,if_pos differs,
    Store.updateDisplay,mismatch.found]
  exact Downlink.enqueue_outstanding p.store.queue workers _ _

def corridorDisplay : DisplayDevice where
  id := "display-9"
  devEui := "2020203705250102"
  displayCodes
    | .free => some "0000FFFF00"
    | .occupied => some "FF0000FF00"
    | _ => none
  fport := 15
  confirmedDownlinks := false

def corridor : Space :=
  {id := "9",code := "B009",sensorEui := some "58A0CB0000112244",displayEui := some "2020203705250102",
   state := .occupied,tenantId := some "1"}

def darkReport : KuandoUplink := ⟨0,12,(0,0,0),255,"req_1"⟩

-- The display has come back from a power failure and reports that it is dark.
def darkCorridor (queue : Downlink.Redis) : Platform :=
  let p := Platform.fresh ⟨[corridor],List.nodup_singleton _,List.nodup_singleton _⟩ [corridorDisplay] [] [] []
  {p with store := {p.store with queue := queue},
          lastKuandoUplink := Function.update p.lastKuandoUplink "2020203705250102" (some darkReport)}

theorem darkCorridor_mismatch (queue : Downlink.Redis) :
    Mismatch (darkCorridor queue) corridor corridorDisplay "2020203705250102" "FF0000FF00" darkReport (255,0,0)
      [255,0] where
  stored := ⟨List.mem_cons_self,rfl⟩
  shown := rfl
  found := by rfl
  configured := rfl
  decoded := by decide +kernel
  recorded := by simp [darkCorridor]
  differs := by decide

theorem reconciliation_corrects_fresh :
    Outstanding (reconcileSpace (darkCorridor .empty) corridor corridorDisplay ⟨"",0,"A",false⟩).store.queue
      (fun _ => .stopped) "2020203705250102" "FF0000FF00" := by
  refine (reconciliation_corrects _ (darkCorridor_mismatch .empty) _).mpr (.inl ?_)
  intro remembered
  cases remembered

-- The command that made the display red was sent before the power failed, and
-- the queue still remembers it.
def reddening : List Downlink.Action :=
  Downlink.calling 0 {deviceEui := "2020203705250102",payload := "FF0000FF00",fport := 15,tenantId := "1"} "A" 7 ++
    .start 0::Downlink.working (List.replicate 9 .ok)

theorem reconciliation_deduplicated : ∃ q, Runs.Reached Downlink.step (fun _ _ => True) Downlink.State.initial q ∧
    Mismatch (darkCorridor q.redis) corridor corridorDisplay "2020203705250102" "FF0000FF00" darkReport (255,0,0)
      [255,0] ∧
    ¬Outstanding (reconcileSpace (darkCorridor q.redis) corridor corridorDisplay ⟨"",0,"B",false⟩).store.queue q.workers
      "2020203705250102" "FF0000FF00" := by
  have start : Runs.Reached Downlink.step (fun _ action => action.solo = true) Downlink.State.initial
    Downlink.State.initial := .refl
  obtain ⟨q,path,sent,unheld,untaken⟩ := start.found (fun _ action => action.solo)
    (fun q => (reconcileSpace (darkCorridor q.redis) corridor corridorDisplay ⟨"",0,"B",false⟩).store.queue.pending = [] ∧
      (q.workers 0).held = none ∧ (q.workers 0).command = none)
    reddening (fun _ solo => solo) (by decide +kernel)
  refine ⟨q,path.weaken fun _ _ _ => trivial,darkCorridor_mismatch q.redis,?_⟩
  have others : ∀ w, w ≠ 0 → q.workers w = .stopped :=
    fun w other => Downlink.reached_stopped path fun _ _ solo => Downlink.solo_worker solo other
  intro outstanding
  cases outstanding with
  | pending id member _ =>
    rw [sent] at member
    cases member
  | popped w id held _ =>
    by_cases zero : w = 0
    · rw [← zero,held] at unheld
      cases unheld
    · rw [others w zero] at held
      cases held
  | taken w cmd held _ _ =>
    by_cases zero : w = 0
    · rw [← zero,held] at untaken
      cases untaken
    · rw [others w zero] at held
      cases held

end SmartParking.Background
