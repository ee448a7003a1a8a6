import SmartParking.Uplink.Process

namespace SmartParking.Uplink
open Lib Lib.Runs Spaces

-- What happens to the platform between two uplinks. Besides the webhook there
-- are the other callers of `update_space_state`, the routers that write the
-- tables, other processes' locks and the users of the downlink queue.
inductive Action where
  | uplink (d : Delivery)
  | updateSpaceState (spaceId : String) (new : SpaceState) (source : String) (call : Call)
  | writeSpaces (spaces : Table)
  | configure (displays : List DisplayDevice) (types : List DeviceType) (devices : List SensorDevice)
      (secrets : List WebhookSecret)
  | lock (key : String) (value : Option String)
  | enqueue (a : Downlink.EnqueueArgs) (cmdId : Downlink.CmdId)
  | dequeue
  | markSuccess (cmd : Downlink.DownlinkCommand)
  | markFailure (cmd : Downlink.DownlinkCommand) (error : String) (requeue : Bool)
  | pass (now : Time)

namespace Platform

def withQueue (p : Platform) (queue : Downlink.Redis) : Platform := {p with store := {p.store with queue := queue}}

def step (p : Platform) : Action → Option Platform
  | .uplink d => some (p.processUplink d).1
  | .updateSpaceState spaceId new source call =>
    some {p with store := (p.store.updateSpaceState spaceId new source call).1}
  | .writeSpaces spaces => some {p with store := {p.store with spaces := spaces}}
  | .configure displays types devices secrets =>
    some {p with store := {p.store with displays := displays},deviceTypes := types,sensorDevices := devices,
                 webhookSecrets := secrets}
  | .lock key value => some {p with store := {p.store with locks := Function.update p.store.locks key value}}
  | .enqueue a cmdId => some (p.withQueue (Downlink.enqueue p.store.queue a cmdId).1)
  | .dequeue => some (p.withQueue (Downlink.dequeue p.store.queue).1)
  | .markSuccess cmd => some (p.withQueue (Downlink.markSuccess p.store.queue cmd))
  | .markFailure cmd error requeue => some (p.withQueue (Downlink.markFailure p.store.queue cmd error requeue))
  | .pass now => some (p.withQueue (p.store.queue.advance now))

def fresh (spaces : Table) (displays : List DisplayDevice) (types : List DeviceType) (devices : List SensorDevice)
    (secrets : List WebhookSecret) : Platform where
  store := ⟨spaces,[],displays,[],fun _ => none,.empty⟩
  readings := .empty
  deviceTypes := types
  sensorDevices := devices
  orphanDevices := []
  webhookSecrets := secrets
  registry := .autoRegister
  lastKuandoUplink := fun _ => none
  pendingDownlink := fun _ => none

variable {p : Platform} {d : Delivery} {deviceEui : String} {row : Reading}

theorem handle_readings {space : Option Space} {uplink : Option SensorUplink} {parsed : Parsed}
    (member : row ∈ (p.handle deviceEui space uplink parsed d).1.readings.rows) :
    row ∈ p.readings.rows ∨ row.deviceEui = upper deviceEui := by
  have found := (discover_kept p deviceEui parsed d).readings
  have stored : ∀ {q : Platform} {new : Reading}, q.readings = p.readings → new.deviceEui = upper deviceEui →
      row ∈ (q.readings.insert new).rows → row ∈ p.readings.rows ∨ row.deviceEui = upper deviceEui := by
    intro q new same named member
    rw [same] at member
    rcases Readings.insert_member member with old | rfl
    · exact .inl old
    · exact .inr named
  unfold handle at member
  dsimp only at member
  split at member
  · have tracked := (handleOrphanDevice_kept (p.discover deviceEui parsed d) deviceEui parsed d.call.now).readings
    cases uplink with
    | none => exact .inl (found ▸ tracked ▸ member)
    | some u => exact stored (tracked.trans found) rfl member
  · split at member
    · exact .inl (found ▸ member)
    · unfold reportOccupancy at member
      dsimp only at member
      split at member
      · exact .inl (found ▸ member)
      · exact stored found rfl member

end Platform

theorem normalizeDeveui_named (named : text ≠ "") (normal : normalizeDeveui text = some deviceEui) :
    deviceEui ≠ "" := by
  unfold normalizeDeveui at normal
  rw [if_neg named] at normal
  dsimp only at normal
  split at normal
  · rename_i shaped
    cases Option.some.inj normal
    intro emptied
    have nothing := congrArg String.toList emptied
    simp only [String.toList_ofList,String.toList_empty,List.map_eq_nil_iff] at nothing
    rw [nothing] at shaped
    exact absurd shaped (by decide)
  · cases normal

theorem upper_named (named : deviceEui ≠ "") : Platform.upper deviceEui ≠ "" := by
  intro emptied
  have nothing := congrArg String.toList emptied
  simp only [Platform.upper,String.toList_ofList,String.toList_empty,List.map_eq_nil_iff] at nothing
  exact named (String.toList_eq_nil_iff.mp nothing)

namespace Platform

variable {p : Platform} {d : Delivery} {deviceEui : String}

def Named (p : Platform) : Prop := ∀ row ∈ p.readings.rows, row.deviceEui ≠ ""

theorem processUplink_named (named : p.Named) (d : Delivery) : (p.processUplink d).1.Named := by
  intro row member
  unfold processUplink at member
  split at member
  · exact named row member
  · rename_i given
    split at member
    · exact named row member
    · rename_i deviceEui normal
      dsimp only at member
      split at member
      · split at member
        · exact named row member
        · rcases handle_readings member with old | fresh
          · exact named row old
          · rw [fresh]
            exact upper_named (normalizeDeveui_named given normal)
      · exact named row member

theorem named_preserved (named : p.Named) (ran : p.step action = some next) : next.Named := by
  cases action with
  | uplink d =>
    cases Option.some.inj ran
    exact processUplink_named named d
  | _ =>
    cases Option.some.inj ran
    exact named

theorem reached_named (path : Reached step (fun _ _ => True) (fresh spaces displays types devices secrets) p) :
    p.Named :=
  path.invariant Named (fun _ member => absurd member List.not_mem_nil) fun named _ ran => named_preserved named ran

structure Replay (p : Platform) (d : Delivery) (deviceEui : String) : Prop where
  normal : normalizeDeveui d.webhook.devEui = some deviceEui
  held : ∃ tenantId fcnt, d.webhook.fCnt = some fcnt ∧ (tenantId,deviceEui,fcnt) ∈ p.readings.rows.filterMap (·.key)

theorem Replay.named (replay : Replay p d deviceEui) (named : p.Named) : d.webhook.devEui ≠ "" := by
  obtain ⟨normal,tenantId,fcnt,_,held⟩ := replay
  obtain ⟨row,member,keyed⟩ := List.mem_filterMap.mp held
  have device : row.deviceEui = deviceEui := by
    obtain ⟨_,_,keyed⟩ := Option.bind_eq_some_iff.mp keyed
    obtain ⟨_,_,keyed⟩ := Option.bind_eq_some_iff.mp keyed
    exact congrArg (·.2.1) (Option.some.inj keyed)
  intro empty
  rw [empty] at normal
  exact named row member (device.trans (Option.some.inj normal).symm)

-- Nothing is left to do for the sensor's word: it is refused on the way, or the
-- space already is as it says, or is out of service while it says occupied.
def quiet (p : Platform) (deviceEui : String) (d : Delivery) : Bool :=
  match p.asked deviceEui d with
  | none => true
  | some (space,state) =>
    !p.store.lockOpen space.id d.call || space.state == state || (space.state == .maintenance && state == .occupied)

theorem asked_parts (sought : p.asked deviceEui d = some (space,state)) :
    p.store.spaces.getSpace space.id = some space ∧ (state = .free ∨ state = .occupied) := by
  unfold asked at sought
  split at sought
  · cases sought
  · rename_i assigned found
    split at sought
    · obtain ⟨_,_,sought⟩ := Option.bind_eq_some_iff.mp sought
      obtain ⟨handler,_,sought⟩ := Option.bind_eq_some_iff.mp sought
      obtain ⟨u,parsed,sought⟩ := Option.bind_eq_some_iff.mp sought
      obtain ⟨detected,occupancy,sought⟩ := Option.bind_eq_some_iff.mp sought
      cases Option.some.inj sought
      exact ⟨Table.getSpace_of_sensor found,parseUplink_detected parsed occupancy⟩
    · cases sought

theorem settled_quiet (sought : p.asked deviceEui d = some (space,state)) :
    p.store.Settled space.id state "sensor_uplink" ↔
      space.state = state ∨ space.state = .maintenance ∧ state = .occupied := by
  obtain ⟨found,detected⟩ := asked_parts sought
  have refused := sensor_transition space.state state detected
  constructor
  · intro settled
    rcases settled space found with same | invalid
    · exact .inl same
    · exact refused.mp invalid
  · intro idle other looked
    cases found.symm.trans looked
    exact .inr (refused.mpr idle)

-- A replay is harmless exactly when it has nothing to change. Its frame counter
-- plays no part: the readings are deduplicated, the state update before is not.
theorem replay_idempotent (path : Reached step (fun _ _ => True) (fresh spaces displays types devices secrets) p)
    (replay : Replay p d deviceEui) :
    p.store.Unchanged (p.processUplink d).1.store ↔ p.quiet deviceEui d = true := by
  rw [processUplink_store p d (replay.named (reached_named path)) replay.normal]
  unfold quiet
  cases sought : p.asked deviceEui d with
  | none => exact iff_of_true .rfl rfl
  | some update =>
    obtain ⟨space,state⟩ := update
    dsimp only
    rw [Store.updateSpaceState_unchanged,settled_quiet sought]
    simp [or_assoc]

def bay : Table where
  rows := [{id := "space-1",code := "A001",sensorEui := some "58A0CB0000112233",displayEui := some "70B3D50000445566",
            state := .free,tenantId := some "tenant-1"}]
  primaryKey := by decide
  sensorEui := by decide

def bayDisplay : DisplayDevice where
  id := "display-1"
  devEui := "70B3D50000445566"
  displayCodes
    | .free => some "00FF00"
    | .occupied => some "FF0000"
    | _ => none
  fport := 15
  confirmedDownlinks := false

def equippedBay : Platform := fresh bay [bayDisplay] [] [] []

def frame (fcnt : Int) (data : String) (now : Time) : Delivery where
  webhook := {devEui := "58a0cb0000112233",deviceProfileName := "browan_tbms100_motion",data := data,
              fCnt := some fcnt,time := some fcnt}
  call := ⟨"req_" ++ toString now,now,"cmd-" ++ toString now,false⟩
  typeId := "type-1"
  deviceId := "device-1"

-- A frame that is delivered twice in a row finds the space as it left it.
theorem replay_idempotent_repeated : ∃ p,
    Reached step (fun _ _ => True) equippedBay p ∧ Replay p (frame 1 "AQ==" 2) "58A0CB0000112233" ∧
    p.store.Unchanged (p.processUplink (frame 1 "AQ==" 2)).1.store := by
  have begun : Reached step (fun _ _ => True) equippedBay equippedBay := .refl
  obtain ⟨p,path,held,quiet⟩ := begun.found (fun _ _ => true)
    (fun p => ("tenant-1","58A0CB0000112233",1) ∈ p.readings.rows.filterMap (·.key) ∧
      p.quiet "58A0CB0000112233" (frame 1 "AQ==" 2) = true)
    [.uplink (frame 1 "AQ==" 1)] (fun _ _ => trivial) (by decide +kernel)
  have replay : Replay p (frame 1 "AQ==" 2) "58A0CB0000112233" := ⟨by decide +kernel,"tenant-1",1,rfl,held⟩
  exact ⟨p,path,replay,(replay_idempotent path replay).mpr quiet⟩

-- The space was entered, then left; the first frame comes again and the space is
-- occupied once more, with an audit row and a command for its display.
theorem replay_reoccupies : ∃ p, Reached step (fun _ _ => True) equippedBay p ∧
    Replay p (frame 1 "AQ==" 3) "58A0CB0000112233" ∧
    p.store.spaces.states = [("space-1",.free)] ∧
    (p.processUplink (frame 1 "AQ==" 3)).1.store.spaces.states = [("space-1",.occupied)] ∧
    p.store.stateChanges.length = 2 ∧ (p.processUplink (frame 1 "AQ==" 3)).1.store.stateChanges.length = 3 ∧
    p.store.queue.pending = ["cmd-2"] ∧ (p.processUplink (frame 1 "AQ==" 3)).1.store.queue.pending = ["cmd-3"] ∧
    ¬p.store.Unchanged (p.processUplink (frame 1 "AQ==" 3)).1.store := by
  have begun : Reached step (fun _ _ => True) equippedBay equippedBay := .refl
  obtain ⟨p,path,held,free,occupied,rest⟩ := begun.found (fun _ _ => true)
    (fun p => ("tenant-1","58A0CB0000112233",1) ∈ p.readings.rows.filterMap (·.key) ∧
      p.store.spaces.states = [("space-1",.free)] ∧
      (p.processUplink (frame 1 "AQ==" 3)).1.store.spaces.states = [("space-1",.occupied)] ∧
      p.store.stateChanges.length = 2 ∧ (p.processUplink (frame 1 "AQ==" 3)).1.store.stateChanges.length = 3 ∧
      p.store.queue.pending = ["cmd-2"] ∧ (p.processUplink (frame 1 "AQ==" 3)).1.store.queue.pending = ["cmd-3"])
    [.uplink (frame 1 "AQ==" 1),.uplink (frame 2 "AA==" 2)] (fun _ _ => trivial) (by decide +kernel)
  refine ⟨p,path,⟨by decide +kernel,"tenant-1",1,rfl,held⟩,free,occupied,rest.1,rest.2.1,rest.2.2.1,rest.2.2.2,?_⟩
  intro unchanged
  have kept := unchanged.states
  rw [free,occupied] at kept
  cases kept

end Platform

end SmartParking.Uplink
