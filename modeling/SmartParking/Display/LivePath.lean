import SmartParking.Display.Priority
import SmartParking.Uplink.Replay

namespace SmartParking.Spaces.Store
open Downlink (orNone)

-- The state whose payload was last asked for a display, as `actuations` has it.
def lastRequested (s : Store) (displayEui : String) : Option SpaceState :=
  ((s.actuations.filter (·.displayEui == displayEui)).getLast?).map (·.newState)

variable {s : Store} {spaceId displayEui source : String} {new : SpaceState} {call : Call}

@[simp] theorem acquireLock_lastRequested :
    (s.acquireLock spaceId call).lastRequested displayEui = s.lastRequested displayEui := rfl
@[simp] theorem releaseLock_lastRequested :
    (s.releaseLock spaceId call).lastRequested displayEui = s.lastRequested displayEui := by
  unfold releaseLock; split <;> rfl

-- An enabled display with a payload for every state.
structure Equipped (s : Store) (displayEui : String) (display : DisplayDevice) : Prop where
  found : s.displays.find? (fun display => display.devEui == displayEui && display.enabled) = some display
  payloads : ∀ state, (orNone (display.displayCodes state)).isSome = true

theorem lastRequested_concat (row : Actuation) (queue : Downlink.Redis) (named : row.displayEui = displayEui) :
    lastRequested {s with queue := queue,actuations := s.actuations ++ [row]} displayEui = some row.newState := by
  simp [lastRequested,named]

theorem updateDisplay_requests (equipped : s.Equipped displayEui display) (previous new : SpaceState) :
    (s.updateDisplay spaceId displayEui previous new source call).1.lastRequested displayEui = some new := by
  obtain ⟨payload,configured⟩ := Option.isSome_iff_exists.mp (equipped.payloads new)
  simp only [updateDisplay,equipped.found,configured]
  split
  · exact lastRequested_concat _ s.queue rfl
  · exact lastRequested_concat _ _ rfl

theorem changeState_requests (equipped : s.Equipped displayEui display) (found : s.spaces.getSpace spaceId = some space)
    (shown : orNone space.displayEui = some displayEui) (moved : space.state ≠ new)
    (accepted : isValidTransition space.state new source = true) :
    (s.changeState spaceId new source call).1.lastRequested displayEui = some new := by
  simp only [changeState,found,moved,accepted,if_false,Bool.not_true,Bool.false_eq_true,shown]
  exact updateDisplay_requests (s := s.recordState space new source call) ⟨equipped.found,equipped.payloads⟩ _ _

theorem updateSpaceState_requests (equipped : s.Equipped displayEui display)
    (found : s.spaces.getSpace spaceId = some space) (shown : orNone space.displayEui = some displayEui) :
    (s.updateSpaceState spaceId new source call).1.lastRequested displayEui =
      if s.changes spaceId new source call then some new else s.lastRequested displayEui := by
  by_cases acted : s.changes spaceId new source call = true
  · obtain ⟨entered,other,looked,moved,accepted⟩ := changes_iff.mp acted
    cases found.symm.trans looked
    rw [if_pos acted,updateSpaceState,if_pos entered]
    simp only [releaseLock_lastRequested]
    exact changeState_requests (s := s.acquireLock spaceId call) ⟨equipped.found,equipped.payloads⟩ found shown moved
      accepted
  · rw [if_neg acted,updateSpaceState]
    split
    · have settled : (s.acquireLock spaceId call).Settled spaceId new source := by
        intro other looked
        by_contra moved
        rw [not_or,Bool.not_eq_false] at moved
        exact acted (changes_iff.mpr ⟨‹_›,other,looked,moved⟩)
      simp only [changeState_settled settled,releaseLock_lastRequested,acquireLock_lastRequested]
    · rfl

end SmartParking.Spaces.Store

namespace SmartParking.Display
open Reservations (Uuid)
open Spaces Uplink

-- The text the debouncer has for what a sensor detects.
def sensorText : SpaceState → String
  | .occupied => "occupied"
  | _ => "vacant"

-- The space has a fresh debounce row whose stable state is the occupancy.
structure Sensed (db : Database) (spaceId tenantId : Uuid) (now : Instant) (state : SpaceState) (sensor : Row) : Prop where
  found : db.debounce.find? (·.spaceId == toString spaceId) = some sensor
  stable : sensor.stableSensorState = some (sensorText state)
  fresh : fresh (db.policy tenantId now) now sensor = true

def overridden (db : Database) (spaceId : Uuid) (now : Instant) : Bool :=
  db.overrides.any fun o => o.inForce .outOfService spaceId now || o.inForce .blocked spaceId now

def booked (db : Database) (spaceId tenantId : Uuid) (now : Instant) : Bool :=
  db.reservations.any fun r => reservedNow spaceId now r || reservedSoon (db.policy tenantId now) spaceId now r

-- The state of the truth table's rows with a fresh sensor.
def prescribed (db : Database) (spaceId tenantId : Uuid) (now : Instant) (state : SpaceState) : SpaceState :=
  if overridden db spaceId now then .maintenance else if booked db spaceId tenantId now then .reserved else state

section
variable {db : Database} {spaceId tenantId : Uuid} {now : Instant} {state : SpaceState} {sensor : Row}

theorem overridden_iff : overridden db spaceId now = true ↔
    ∃ o ∈ db.overrides, o.inForce .outOfService spaceId now = true ∨ o.inForce .blocked spaceId now = true := by
  simp [overridden]

theorem booked_iff : booked db spaceId tenantId now = true ↔
    ∃ r ∈ db.reservations, reservedNow spaceId now r = true ∨
      reservedSoon (db.policy tenantId now) spaceId now r = true := by
  simp [booked]

theorem sensorRow_stable (sensed : Sensed db spaceId tenantId now state sensor) (detected : state = .free ∨ state = .occupied) :
    ∃ row, sensorRow (db.policy tenantId now) now sensor = some row ∧ row.displayState = state.value := by
  rcases detected with rfl | rfl
  · exact ⟨_,by rw [sensorRow,if_pos sensed.fresh,sensed.stable,if_neg (by decide),if_pos (by rfl)],rfl⟩
  · exact ⟨_,by rw [sensorRow,if_pos sensed.fresh,sensed.stable,if_pos (by rfl)],rfl⟩

-- The levels after the reservations: a fresh stable state, a held one, the default.
def sensedState (db : Database) (spaceId tenantId : Uuid) (now : Instant) : String :=
  match db.debounce.find? (·.spaceId == toString spaceId) with
  | none => "FREE"
  | some sensor =>
    match sensorRow (db.policy tenantId now) now sensor with
    | some row => row.displayState
    | none => sensor.lastDisplayState.getD "FREE"

theorem computed_states (db : Database) (spaceId tenantId : Uuid) (now : Instant) :
    (computeDisplayState db spaceId tenantId now).map (·.displayState) =
      [if overridden db spaceId now then "MAINTENANCE" else if booked db spaceId tenantId now then "RESERVED"
       else sensedState db spaceId tenantId now] := by
  unfold computeDisplayState
  dsimp only
  split
  · rename_i o found
    obtain ⟨member,held⟩ := selected_override found
    rw [if_pos (overridden_iff.mpr ⟨o,member,.inl held⟩)]
    rfl
  rename_i inService
  split
  · rename_i o found
    obtain ⟨member,held⟩ := selected_override found
    rw [if_pos (overridden_iff.mpr ⟨o,member,.inr held⟩)]
    rfl
  rename_i unblocked
  have admitted : ¬overridden db spaceId now = true := by
    intro admin
    obtain ⟨o,member,held | held⟩ := overridden_iff.mp admin
    · exact latest_none.mp inService o member held
    · exact latest_none.mp unblocked o member held
  rw [if_neg admitted]
  split
  · rename_i r found
    obtain ⟨member,held⟩ := selected_reservation found
    rw [if_pos (booked_iff.mpr ⟨r,member,.inl held⟩)]
    rfl
  rename_i unreserved
  split
  · rename_i r found
    obtain ⟨member,held⟩ := selected_reservation found
    rw [if_pos (booked_iff.mpr ⟨r,member,.inr held⟩)]
    rfl
  rename_i unannounced
  have unbooked : ¬booked db spaceId tenantId now = true := by
    intro reserved
    obtain ⟨r,member,held | held⟩ := booked_iff.mp reserved
    · exact earliest_none.mp unreserved r member held
    · exact earliest_none.mp unannounced r member held
  rw [if_neg unbooked,sensedState]
  cases db.debounce.find? (·.spaceId == toString spaceId) with
  | none => rfl
  | some sensor =>
    dsimp only
    cases sensorRow (db.policy tenantId now) now sensor with
    | some row => rfl
    | none => cases held : sensor.lastDisplayState <;> simp [heldRow,held]

-- What `compute_display_state` shows once the sensor has a say.
theorem computed_state (sensed : Sensed db spaceId tenantId now state sensor)
    (detected : state = .free ∨ state = .occupied) :
    (computeDisplayState db spaceId tenantId now).map (·.displayState) =
      [(prescribed db spaceId tenantId now state).value] := by
  obtain ⟨seen,shown,seenState⟩ := sensorRow_stable sensed detected
  have reached : sensedState db spaceId tenantId now = state.value := by
    unfold sensedState
    rw [sensed.found]
    dsimp only
    rw [shown]
    exact seenState
  rw [computed_states,reached,prescribed]
  split
  · rfl
  · split <;> rfl

end

-- An occupancy uplink of a space that has an enabled display with all payloads.
structure Live (p : Platform) (d : Delivery) (deviceEui : String) (spaceId : Uuid) (space : Space) (state : SpaceState)
    (displayEui : String) (display : DisplayDevice) : Prop where
  named : d.webhook.devEui ≠ ""
  normal : normalizeDeveui d.webhook.devEui = some deviceEui
  asked : p.asked deviceEui d = some (space,state)
  keyed : space.id = toString spaceId
  shown : Downlink.orNone space.displayEui = some displayEui
  equipped : p.store.Equipped displayEui display

theorem changes_quiet {p : Platform} (sought : p.asked deviceEui d = some (space,state)) :
    p.store.changes space.id state "sensor_uplink" d.call = !p.quiet deviceEui d := by
  obtain ⟨found,detected⟩ := Platform.asked_parts sought
  have accepted : isValidTransition space.state state "sensor_uplink" =
      !(space.state == state || (space.state == .maintenance && state == .occupied)) := by
    rw [Bool.eq_iff_iff,← not_iff_not,Bool.not_eq_true,sensor_transition space.state state detected]
    simp [or_iff_not_imp_left]
  simp only [Store.changes,found,Option.any_some,Platform.quiet,sought,accepted]
  by_cases same : space.state = state <;> simp [same,Bool.and_assoc]

theorem processUplink_requests (live : Live p d deviceEui spaceId space state displayEui display) :
    (p.processUplink d).1.store.lastRequested displayEui =
      if p.quiet deviceEui d then p.store.lastRequested displayEui else some state := by
  obtain ⟨found,_⟩ := Platform.asked_parts live.asked
  rw [Platform.processUplink_store p d live.named live.normal,live.asked]
  dsimp only
  rw [Store.updateSpaceState_requests live.equipped found live.shown,changes_quiet live.asked]
  cases p.quiet deviceEui d <;> rfl

-- An override or a reservation is shown only if its state was asked for before
-- and the uplink changes nothing; without one the uplink must change the space,
-- or its state must have been asked for last.
def Follows (p : Platform) (d : Delivery) (deviceEui displayEui : String) (db : Database) (spaceId tenantId : Uuid)
    (now : Instant) (state : SpaceState) : Prop :=
  if overridden db spaceId now then
    p.quiet deviceEui d = true ∧ p.store.lastRequested displayEui = some .maintenance
  else if booked db spaceId tenantId now then
    p.quiet deviceEui d = true ∧ p.store.lastRequested displayEui = some .reserved
  else p.quiet deviceEui d = true → p.store.lastRequested displayEui = some state

theorem value_injective {one two : SpaceState} (same : one.value = two.value) : one = two := by
  cases one <;> cases two <;> first | rfl | exact absurd same (by decide)

theorem shown_iff {last : Option SpaceState} : [state.value] = (last.map SpaceState.value).toList ↔ last = some state := by
  cases last with
  | none => simp
  | some other =>
    simp only [Option.map_some,Option.toList_some,List.cons.injEq,and_true,Option.some.injEq]
    exact ⟨fun same => (value_injective same).symm,fun same => by rw [same]⟩

theorem live_path_agrees (live : Live p d deviceEui spaceId space state displayEui display)
    (sensed : Sensed db spaceId tenantId now state sensor) :
    (computeDisplayState db spaceId tenantId now).map (·.displayState) =
        (((p.processUplink d).1.store.lastRequested displayEui).map (·.value)).toList ↔
      Follows p d deviceEui displayEui db spaceId tenantId now state := by
  obtain ⟨_,detected⟩ := Platform.asked_parts live.asked
  rw [computed_state sensed detected,processUplink_requests live]
  rw [shown_iff]
  unfold Follows prescribed
  have sensor : state ≠ .maintenance ∧ state ≠ .reserved := by
    rcases detected with rfl | rfl <;> decide
  cases overridden db spaceId now with
  | true => cases p.quiet deviceEui d <;> simp [sensor]
  | false => cases booked db spaceId tenantId now <;> cases p.quiet deviceEui d <;> simp [sensor]

def guestBay : Space :=
  {id := "7",code := "A007",sensorEui := some "58A0CB0000112233",displayEui := some "70B3D50000445566",
   state := .reserved,tenantId := some "1"}

def guestDisplay : DisplayDevice where
  id := "display-7"
  devEui := "70B3D50000445566"
  displayCodes
    | .free => some "00FF00"
    | .occupied => some "FF0000"
    | .reserved => some "FFA500"
    | .maintenance => some "800080"
  fport := 15
  confirmedDownlinks := false

def guestPlatform : Platform :=
  Platform.fresh ⟨[guestBay],List.nodup_singleton _,List.nodup_singleton _⟩ [guestDisplay] [] [] []

def guestSensor : Row := {spaceId := "7",stableSensorState := some "occupied",stableSince := some 5}

def guestDatabase (reservations : List Reservations.Reservation) : Database :=
  ⟨[],[],reservations,[guestSensor],List.nodup_nil,List.nodup_singleton _⟩

def guestReservation : Reservations.Reservation where
  id := 1
  spaceId := 7
  startTime := 0
  endTime := 3600000000
  userEmail := none
  userPhone := none
  status := .confirmed
  metadata := none
  createdAt := 0
  updatedAt := 0
  requestId := 2
  tenantId := 1
  validTimes := by decide
  validDuration := by decide

theorem guest_live : Live guestPlatform (Platform.frame 1 "AQ==" 1) "58A0CB0000112233" 7 guestBay .occupied
    "70B3D50000445566" guestDisplay where
  named := by decide
  normal := by decide +kernel
  asked := by decide +kernel
  keyed := by decide +kernel
  shown := rfl
  equipped := ⟨by rfl,by intro state; cases state <;> rfl⟩

theorem guest_sensed (reservations : List Reservations.Reservation) :
    Sensed (guestDatabase reservations) 7 1 10 .occupied guestSensor :=
  ⟨by rfl,rfl,show fresh (defaultPolicy 1 10) 10 guestSensor = true by decide⟩

theorem live_path_agrees_unreserved :
    (computeDisplayState (guestDatabase []) 7 1 10).map (·.displayState) =
      (((guestPlatform.processUplink (Platform.frame 1 "AQ==" 1)).1.store.lastRequested
        "70B3D50000445566").map (·.value)).toList :=
  (live_path_agrees guest_live (guest_sensed [])).mpr (by unfold Follows; decide +kernel)

-- The guest parks; the display is told to show occupied although the reservation
-- has the higher priority.
theorem live_path_shows_sensor_over_reservation :
    Live guestPlatform (Platform.frame 1 "AQ==" 1) "58A0CB0000112233" 7 guestBay .occupied "70B3D50000445566"
      guestDisplay ∧
    Sensed (guestDatabase [guestReservation]) 7 1 10 .occupied guestSensor ∧
    (computeDisplayState (guestDatabase [guestReservation]) 7 1 10).map (·.displayState) = ["RESERVED"] ∧
    (guestPlatform.processUplink (Platform.frame 1 "AQ==" 1)).1.store.lastRequested "70B3D50000445566" =
      some .occupied :=
  ⟨guest_live,guest_sensed _,by decide +kernel,by decide +kernel⟩

end SmartParking.Display
