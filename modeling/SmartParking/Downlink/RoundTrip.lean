import SmartParking.Lib.Json
import SmartParking.Downlink.Serial

namespace SmartParking.Downlink.RoundTrip
open Lib

def optional (v : Option String) : Json.Scalar := v.elim .null .string

-- `asdict(cmd)`. An instant is a whole number here, as in the hash.
def asdict (cmd : DownlinkCommand) : Json.Record :=
  [("id",.string cmd.id),("device_eui",.string cmd.deviceEui),("tenant_id",.string cmd.tenantId),
   ("gateway_id",optional cmd.gatewayId),("payload",.string cmd.payload),("fport",.number cmd.fport),
   ("confirmed",.bool cmd.confirmed),("content_hash",.string cmd.contentHash),("created_at",.number cmd.createdAt),
   ("attempts",.number cmd.attempts),("last_error",optional cmd.lastError),
   ("last_attempt_at",cmd.lastAttemptAt.elim .null .number),("space_id",optional cmd.spaceId),
   ("trigger_source",optional cmd.triggerSource)]

def deadLetterData (letter : DeadLetter) : Json.Record :=
  asdict letter.command ++ [("dead_lettered_at",.number letter.deadLetteredAt)]

-- The element of `dl:dead`.
def deadLetterJson (letter : DeadLetter) : String := Json.dumps (deadLetterData letter)

-- The serial queue beside the errors of the failed rounds of one command, newest
-- first.
structure Watched where
  serial : Serial
  errors : List String

def failing (id : CmdId) (s : Serial) : Op → Option String
  | .cycle (.failure error _) => if s.redis.pending.head? = some id then some error else none
  | _ => none

def Watched.step (id : CmdId) (t : Watched) (op : Op) : Option Watched :=
  (t.serial.step op).map fun next => ⟨next,(failing id t.serial op).elim t.errors (·::t.errors)⟩

-- Nothing expires, no other call is for the device, and every round of the command
-- fails with `requeue` left at its default.
def Undisturbed (device : DeviceEui) (id : CmdId) (t : Watched) (op : Op) : Prop :=
  t.serial.Unexpired op ∧
    match op with
    | .enqueue a _ => a.deviceEui ≠ device
    | .cycle outcome => t.serial.redis.pending.head? = some id → ∃ error, outcome = .failure error true
    | .wait _ => True

-- The optional strings are absent or non-empty.
def Present (a : EnqueueArgs) : Prop := a.gatewayId ≠ some "" ∧ a.spaceId ≠ some "" ∧ a.triggerSource ≠ some ""

-- The command after some failed rounds.
def failed (a : EnqueueArgs) (id : CmdId) (created : Time) (errors : List String) (attempted : Option Time) :
    DownlinkCommand :=
  {a.command id created with attempts := errors.length,lastError := errors.head?,lastAttemptAt := attempted}

variable {a b : EnqueueArgs} {id uuid : CmdId} {cmd : DownlinkCommand} {created : Time} {errors : List String}
  {error : String} {attempted : Option Time} {r next : Redis} {issued : CmdId → Option EnqueueArgs} {rest : List CmdId}
  {answer : Option CmdId} {outcome : Outcome} {s first : Serial} {t later : Watched} {op : Op}

theorem orNone_present {v : Option String} (present : v ≠ some "") : orNone v = v := by
  cases v with
  | none => rfl
  | some text =>
    have named : text ≠ "" := fun empty => present (congrArg some empty)
    simp [orNone,named]

theorem decode_mapping (cmd : DownlinkCommand) (id : CmdId) (now : Time) :
    CmdHash.decode cmd.mapping id now =
      some {cmd with gatewayId := orNone cmd.gatewayId,lastError := orNone cmd.lastError,
                     spaceId := orNone cmd.spaceId,triggerSource := orNone cmd.triggerSource} := by
  have confirmed : ((if cmd.confirmed then "True" else "False") == "True") = cmd.confirmed := by
    cases cmd.confirmed <;> decide
  have last : (orNone (cmd.lastAttemptAt.map toString)).elim (some none) (fun text => (Decimal.read text).map some) =
      some cmd.lastAttemptAt := by
    cases cmd.lastAttemptAt with
    | none => rfl
    | some t => simp [orNone,Option.filter]
  unfold CmdHash.decode
  simp only [DownlinkCommand.mapping,Option.getD_some,Option.elim_some,orNone_stored,Decimal.read_toString]
  rw [last,confirmed]
  rfl

-- What a failed round of the command writes is what its next errors say.
theorem mapping_retried (a : EnqueueArgs) (id : CmdId) (created : Time) (errors : List String) (attempted : Option Time)
    (error : String) (now : Time) (cmd : DownlinkCommand) (attempts : cmd.attempts = errors.length) :
    CmdHash.hset (failed a id created errors attempted).mapping (cmd.failed error now).retryMapping =
      (failed a id created (error::errors) (some now)).mapping := by
  have count : (cmd.failed error now).attempts = (failed a id created (error::errors) (some now)).attempts := by
    simp [DownlinkCommand.failed,failed,attempts]
  funext field
  cases field
  case attempts => exact congrArg (fun n : Int => some (toString n)) count
  all_goals rfl

-- What one operation on other commands leaves alone.
structure Unmoved (r next : Redis) (id : CmdId) : Prop where
  pending : id ∈ next.pending ↔ id ∈ r.pending
  cmd : next.cmd id = r.cmd id
  dead : ∀ letter ∈ r.dead, letter ∈ next.dead

theorem removeExisting_unmoved (valid : Consistent r.pending r.cmd r.coalesce issued)
    (other : r.cmd id .deviceEui ≠ some b.deviceEui) : Unmoved r (removeExisting r b.deviceEui) id := by
  unfold removeExisting
  cases key : r.coalesce b.deviceEui with
  | none => exact ⟨Iff.rfl,rfl,fun _ old => old⟩
  | some existing =>
    have different : id ≠ existing := by
      rintro rfl
      exact other ((valid.tracked b.deviceEui id).mp key).2
    dsimp only
    split
    · exact ⟨Iff.rfl,rfl,fun _ old => old⟩
    · refine ⟨?_,?_,fun _ old => old⟩
      · simp [Redis.deleteCmd,Redis.lrem,different]
      · simp [Redis.deleteCmd,Redis.lrem,different]

theorem enqueue_unmoved (valid : Consistent r.pending r.cmd r.coalesce issued) (apart : id ≠ uuid)
    (other : r.cmd id .deviceEui ≠ some b.deviceEui) (ran : enqueue r b uuid = (next,answer)) : Unmoved r next id := by
  unfold enqueue at ran
  split at ran
  · cases ran
    exact ⟨Iff.rfl,rfl,fun _ old => old⟩
  · cases ran
    obtain ⟨pending,cmd,dead⟩ := removeExisting_unmoved valid other
    refine ⟨?_,?_,?_⟩
    · simpa [Redis.setCoalesce,Redis.rpush,Redis.hset,apart] using pending
    · simpa [Redis.setCoalesce,Redis.rpush,Redis.hset,apart] using cmd
    · simpa [Redis.setCoalesce,Redis.rpush,Redis.hset] using dead

theorem cycle_unmoved (valid : Consistent r.pending r.cmd r.coalesce issued) (other : r.pending.head? ≠ some id) :
    Unmoved r (cycle r outcome) id := by
  cases queue : r.pending with
  | nil =>
    simp only [cycle,dequeue,Redis.blpop,queue]
    exact ⟨Iff.rfl,rfl,fun _ old => old⟩
  | cons head rest =>
    obtain ⟨cmd,_,_,popped,_,_,same,_⟩ := dequeue_command valid queue
    have different : id ≠ head := by
      rintro rfl
      exact other (by rw [queue]; rfl)
    cases outcome with
    | success =>
      simp only [cycle,popped,finishCycle]
      refine ⟨?_,?_,fun _ old => old⟩
      · simp [queue,different]
      · simp [same,different]
    | failure error requeue =>
      simp only [cycle,popped,finishCycle,markFailure]
      split
      · refine ⟨?_,?_,fun _ old => List.mem_append_left _ old⟩
        · simp [queue,different]
        · simp [DownlinkCommand.failed,same,different]
      · refine ⟨?_,?_,fun _ old => old⟩
        · simp [Redis.rpush,Redis.hset,DownlinkCommand.failed,same,queue,different]
        · simp [Redis.rpush,Redis.hset,DownlinkCommand.failed,same,different]

-- Until the fifth failure the command is pending with what its rounds left, and
-- then it is a dead letter.
inductive Whereabouts (r : Redis) (a : EnqueueArgs) (id : CmdId) (created : Time) (errors : List String) : Prop where
  | waiting (attempted : Option Time) : errors.length < 5 → id ∈ r.pending →
      r.cmd id = (failed a id created errors attempted).mapping → Whereabouts r a id created errors
  | buried (letter : DeadLetter) (attempted : Option Time) : errors.length = 5 → id ∉ r.pending → letter ∈ r.dead →
      letter.command = failed a id created errors attempted → Whereabouts r a id created errors

theorem Whereabouts.unmoved (here : Whereabouts r a id created errors) (same : Unmoved r next id) :
    Whereabouts next a id created errors := by
  cases here with
  | waiting attempted few member stored => exact .waiting attempted few (same.pending.mpr member) (same.cmd.trans stored)
  | buried letter attempted all gone dead data =>
    exact .buried letter attempted all (fun member => gone (same.pending.mp member)) (same.dead letter dead) data

theorem dequeue_failed (present : Present a) (head : r.pending = id::rest)
    (stored : r.cmd id = (failed a id created errors attempted).mapping) :
    dequeue r = ({r with pending := rest},
      .command {failed a id created errors attempted with lastError := orNone errors.head?}) := by
  obtain ⟨gateway,space,trigger⟩ := present
  have nonempty : (r.cmd id).present = true := (r.cmd id).present_of .id (by rw [stored]; rfl)
  have decoded := decode_mapping (failed a id created errors attempted) id r.clock
  simp only [dequeue,Redis.blpop,head,deserialize,nonempty,if_true]
  rw [stored,decoded]
  simp only [failed,EnqueueArgs.command,orNone_present gateway,orNone_present space,orNone_present trigger]

theorem gaveUp_exact (cmd : DownlinkCommand) : gaveUp cmd true = true ↔ maxAttempts ≤ cmd.attempts := by simp [gaveUp]

theorem round_whereabouts (present : Present a) (distinct : r.pending.Nodup) (head : r.pending = id::rest)
    (few : errors.length < 5) (stored : r.cmd id = (failed a id created errors attempted).mapping) :
    Whereabouts (cycle r (.failure error true)) a id created (error::errors) := by
  have missing : id ∉ rest := by
    rw [head] at distinct
    exact (List.nodup_cons.mp distinct).1
  simp only [cycle,dequeue_failed present head stored,finishCycle,markFailure]
  split
  · rename_i finished
    have last : errors.length = 4 := by
      have bound : 5 ≤ (errors.length : Int)+1 := (gaveUp_exact _).mp finished
      omega
    refine .buried ⟨failed a id created (error::errors) (some r.clock),r.clock⟩ (some r.clock) ?_ ?_ ?_ rfl
    · simp [last]
    · simpa using missing
    · simp [DownlinkCommand.failed,failed]
  · rename_i left
    have more : errors.length < 4 := by
      have bound : ¬5 ≤ (errors.length : Int)+1 := (gaveUp_exact _).not.mp left
      omega
    refine .waiting (some r.clock) (by rw [List.length_cons]; omega) ?_ ?_
    · simp [Redis.rpush,Redis.hset,DownlinkCommand.failed,failed,EnqueueArgs.command]
    · have written := mapping_retried a id created errors attempted error r.clock
        {failed a id created errors attempted with lastError := orNone errors.head?} rfl
      rw [← stored] at written
      exact (Function.update_self _ _ _).trans written

theorem enqueue_given {given : CmdId} (ran : enqueue r a uuid = (next,some given)) : given = uuid := by
  unfold enqueue at ran
  split at ran
  · cases ran
  · cases ran
    rfl

theorem enqueued_whereabouts (r : Redis) (a : EnqueueArgs) (id : CmdId) (ran : enqueue r a id = (next,some id)) :
    Whereabouts next a id r.clock [] := by
  have clock : (removeExisting r a.deviceEui).clock = r.clock := by
    unfold removeExisting
    split
    · rfl
    · split <;> rfl
  unfold enqueue at ran
  split at ran
  · cases ran
  · cases ran
    refine .waiting none (by decide) ?_ ?_
    · simp [Redis.setCoalesce,Redis.rpush]
    · simp only [Redis.incr_cmd,Redis.setCoalesce,Redis.rpush,Redis.expire_cmd,Redis.hset,Function.update_self,clock]
      funext field
      cases field <;> rfl

structure Kept (a : EnqueueArgs) (id : CmdId) (created : Time) (t : Watched) : Prop where
  valid : Consistent t.serial.redis.pending t.serial.redis.cmd t.serial.redis.coalesce t.serial.issued
  issued : t.serial.issued id = some a
  here : Whereabouts t.serial.redis a id created t.errors

theorem kept_preserved (present : Present a) (kept : Kept a id created t) (undisturbed : Undisturbed a.deviceEui id t op)
    (ran : t.step id op = some later) : Kept a id created later := by
  obtain ⟨unexpired,alone⟩ := undisturbed
  obtain ⟨next,moved,rfl⟩ := Option.map_eq_some_iff.mp ran
  obtain ⟨valid,issued,here⟩ := kept
  have device : t.serial.redis.cmd id .deviceEui = some a.deviceEui ∨ id ∉ t.serial.redis.pending := by
    cases here with
    | waiting _ _ _ stored => exact .inl (by rw [stored]; rfl)
    | buried _ _ _ gone => exact .inr gone
  have consistent := Serial.step_consistent valid unexpired moved
  cases op with
  | enqueue b uuid =>
    have other : t.serial.redis.cmd id .deviceEui ≠ some b.deviceEui := by
      rcases device with mine | gone
      · rw [mine]
        exact fun same => alone (Option.some.inj same).symm
      · rw [valid.absent id gone]
        exact nofun
    simp only [Serial.step] at moved
    split at moved
    · rename_i guard
      have apart : id ≠ uuid := by
        rintro rfl
        simp [issued] at guard
      split at moved
      · rename_i called
        cases moved
        exact ⟨consistent,issued,here.unmoved (enqueue_unmoved valid apart other called)⟩
      · rename_i given called
        have fresh := enqueue_given called
        cases moved
        refine ⟨consistent,?_,here.unmoved (enqueue_unmoved valid apart other called)⟩
        exact (Function.update_of_ne (fresh ▸ apart) _ _).trans issued
    · cases moved
  | cycle outcome =>
    cases moved
    by_cases turn : t.serial.redis.pending.head? = some id
    · obtain ⟨error,rfl⟩ := alone turn
      obtain ⟨rest,head⟩ := List.head?_eq_some_iff.mp turn
      refine ⟨consistent,issued,?_⟩
      simp only [failing,turn,if_true,Option.elim_some]
      cases here with
      | waiting attempted few member stored => exact round_whereabouts present valid.nodup head few stored
      | buried _ _ _ gone => exact absurd (head ▸ List.mem_cons_self) gone
    · have same : (failing id t.serial (.cycle outcome)).elim t.errors (·::t.errors) = t.errors := by
        cases outcome <;> simp [failing,turn]
      refine ⟨consistent,issued,?_⟩
      dsimp only
      rw [same]
      exact here.unmoved (cycle_unmoved valid turn)
  | wait now =>
    cases moved
    have same : t.serial.redis.advance now = {t.serial.redis with clock := now} := unexpired
    refine ⟨consistent,issued,here.unmoved ?_⟩
    rw [same]
    exact ⟨Iff.rfl,rfl,fun _ old => old⟩

theorem called_kept (valid : Consistent s.redis.pending s.redis.cmd s.redis.coalesce s.issued)
    (called : s.step (.enqueue a id) = some first) (accepted : first.issued id = some a) :
    Kept a id s.redis.clock ⟨first,[]⟩ := by
  have unexpired : s.Unexpired (.enqueue a id) := trivial
  refine ⟨Serial.step_consistent valid unexpired called,accepted,?_⟩
  simp only [Serial.step] at called
  split at called
  · rename_i guard
    split at called
    · cases called
      have fresh : s.issued id = none := by simpa using guard.2
      cases fresh.symm.trans accepted
    · rename_i ran
      have fresh := enqueue_given ran
      cases called
      exact enqueued_whereabouts s.redis a id (fresh ▸ ran)
  · cases called

-- A stored command is dequeued as it was enqueued, with its failed rounds counted
-- and the last error, and the dead letter of five failures holds the same.
theorem storage_round_trip (before : Runs.Reached Serial.step Serial.Unexpired .empty s)
    (called : s.step (.enqueue a id) = some first) (accepted : first.issued id = some a) (present : Present a)
    (rounds : Runs.Reached (Watched.step id) (Undisturbed a.deviceEui id) ⟨first,[]⟩ t) :
    (t.errors.length < 5 → id ∈ t.serial.redis.pending ∧ ∀ rest, t.serial.redis.pending = id::rest →
      ∃ lastAttemptAt, dequeue t.serial.redis = ({t.serial.redis with pending := rest},
        .command {a.command id s.redis.clock with
          attempts := t.errors.length,lastError := orNone t.errors.head?,lastAttemptAt := lastAttemptAt})) ∧
    (t.errors.length = 5 → ∃ letter ∈ t.serial.redis.dead, ∃ lastAttemptAt,
      Json.loads (deadLetterJson letter) = some (asdict {a.command id s.redis.clock with
        attempts := 5,lastError := t.errors.head?,lastAttemptAt := lastAttemptAt} ++
          [("dead_lettered_at",.number letter.deadLetteredAt)])) ∧
    t.errors.length ≤ 5 := by
  have start := called_kept (serial_consistent before) called accepted
  have kept := rounds.invariant (Kept a id s.redis.clock) start (kept_preserved present)
  cases kept.here with
  | waiting attempted few member stored =>
    refine ⟨fun _ => ⟨member,fun rest head => ⟨attempted,dequeue_failed present head stored⟩⟩,?_,Nat.le_of_lt few⟩
    intro all
    exact absurd all (Nat.ne_of_lt few)
  | buried letter attempted all gone dead data =>
    refine ⟨fun few => absurd all (Nat.ne_of_lt few),fun _ => ⟨letter,dead,attempted,?_⟩,Nat.le_of_eq all⟩
    have loaded : Json.loads (deadLetterJson letter) = some (deadLetterData letter) := Json.loads_dumps _
    rw [loaded,deadLetterData,data,failed,all]
    rfl

def Watched.instant (device : DeviceEui) (id : CmdId) (t : Watched) : Op → Bool
  | .enqueue a _ => a.deviceEui ≠ device
  | .cycle (.failure _ true) => true
  | .cycle _ => t.serial.redis.pending.head? ≠ some id
  | .wait _ => false

theorem instant_undisturbed {device : DeviceEui} (instant : t.instant device id op = true) : Undisturbed device id t op := by
  cases op with
  | enqueue a uuid => exact ⟨trivial,by simpa [Watched.instant] using instant⟩
  | wait now => cases instant
  | cycle outcome =>
    refine ⟨trivial,fun turn => ?_⟩
    unfold Watched.instant at instant
    split at instant
    · rename_i equal
      cases equal
    · rename_i error equal
      cases equal
      exact ⟨error,rfl⟩
    · exact absurd turn (by simpa using instant)
    · rename_i equal
      cases equal

def parked : EnqueueArgs := {deviceEui := "d1",payload := "01",fport := 15,tenantId := "é",spaceId := some "s:1"}

def failures : List Op :=
  [.cycle .success,.cycle (.failure "timeout" true),.cycle (.failure "timeout" true),.cycle (.failure "" true),
   .cycle (.failure "timeout" true),.cycle (.failure "no \"gateway\"\n" true)]

-- Another device's command waits before it and is sent, and then its own five
-- rounds fail.
theorem storage_round_trip_five : ∃ (s first : Serial) (t : Watched),
    s.redis.pending = ["B"] ∧ s.step (.enqueue parked "A") = some first ∧
    t.errors = ["no \"gateway\"\n","timeout","","timeout","timeout"] ∧
    ∃ letter ∈ t.serial.redis.dead, ∃ lastAttemptAt,
      Json.loads (deadLetterJson letter) = some (asdict {parked.command "A" s.redis.clock with
        attempts := 5,lastError := t.errors.head?,lastAttemptAt := lastAttemptAt} ++
          [("dead_lettered_at",.number letter.deadLetteredAt)]) := by
  have empty : Runs.Reached Serial.step Serial.Unexpired .empty .empty := .refl
  obtain ⟨s,before,pending,called⟩ := empty.found (fun _ => Op.instant)
    (fun s => s.redis.pending = ["B"] ∧
      (s.step (.enqueue parked "A")).any (fun first => first.issued "A" = some parked &&
        (Runs.exec (Runs.guarded (Watched.step "A") (Watched.instant "d1" "A")) ⟨first,[]⟩ failures).any
          fun t => t.errors = ["no \"gateway\"\n","timeout","","timeout","timeout"]) = true)
    [.enqueue {deviceEui := "d2",payload := "02",fport := 15,tenantId := "t"} "B"]
    (fun _ test => Op.instant_unexpired test) (by decide +kernel)
  obtain ⟨first,step,ran⟩ := (Option.any_eq_true _ _).mp called
  obtain ⟨accepted,failing⟩ := Bool.and_eq_true_iff.mp ran
  obtain ⟨last,executed,errors⟩ := (Option.any_eq_true _ _).mp failing
  have start : Runs.Reached (Watched.step "A") (Undisturbed "d1" "A") ⟨first,[]⟩ ⟨first,[]⟩ := .refl
  obtain ⟨t,rounds,five⟩ := start.found (Watched.instant "d1" "A")
    (fun t => t.errors = ["no \"gateway\"\n","timeout","","timeout","timeout"]) failures
    (fun _ test => instant_undisturbed test) ⟨last,executed,of_decide_eq_true errors⟩
  have dead := (storage_round_trip before step (of_decide_eq_true accepted) ⟨by decide,by decide,by decide⟩ rounds).2.1
  exact ⟨s,first,t,pending,step,five,dead (by rw [five]; rfl)⟩

end SmartParking.Downlink.RoundTrip
