import Mathlib.Logic.Function.Basic
import SmartParking.Downlink.Command

namespace SmartParking.Downlink
open Lib

def maxAttempts : Int := 5
def cmdTtl : Time := 3600*1000
def lastHashTtl : Time := 3600*1000
def coalesceTtl : Time := 300*1000

-- One entry of `dl:dead`: the JSON of `asdict(cmd)` with `dead_lettered_at`.
structure DeadLetter where
  command : DownlinkCommand
  deadLetteredAt : Time

inductive Metric where
  | enqueued | succeeded | retried | deadLettered | deduplicated | coalesced
  deriving DecidableEq

-- The keys of the queue: `dl:pending`, `dl:cmd:*`, `dl:last_hash:*`,
-- `dl:coalesce:*`, `dl:dead` and `dl:metrics:*`. A deadline is kept beside each
-- key that has a time to live; it says nothing while the key is missing.
structure Redis where
  clock : Time
  pending : List CmdId
  cmd : CmdId → CmdHash
  cmdDeadline : CmdId → Option Time
  lastHash : DeviceEui → Option String
  lastHashDeadline : DeviceEui → Time
  coalesce : DeviceEui → Option CmdId
  coalesceDeadline : DeviceEui → Time
  dead : List DeadLetter
  metrics : Metric → Nat
  latencies : List Int

namespace Redis

def empty : Redis :=
  ⟨0,[],fun _ => .absent,fun _ => none,fun _ => none,fun _ => 0,fun _ => none,fun _ => 0,[],fun _ => 0,[]⟩

-- Each definition below is one Redis command.
def lrem (r : Redis) (id : CmdId) : Redis := {r with pending := r.pending.filter (· ≠ id)}

def rpush (r : Redis) (id : CmdId) : Redis := {r with pending := r.pending ++ [id]}

def blpop (r : Redis) : Option (CmdId × Redis) :=
  match r.pending with
  | [] => none
  | id::rest => some (id,{r with pending := rest})

def deleteCmd (r : Redis) (id : CmdId) : Redis :=
  {r with cmd := Function.update r.cmd id .absent,cmdDeadline := Function.update r.cmdDeadline id none}

def hset (r : Redis) (id : CmdId) (mapping : Field → Option String) : Redis :=
  {r with cmd := Function.update r.cmd id ((r.cmd id).hset mapping)}

def expire (r : Redis) (id : CmdId) : Redis :=
  if (r.cmd id).present then
    {r with cmdDeadline := Function.update r.cmdDeadline id (some (r.clock+cmdTtl))}
  else r

@[simp] theorem expire_pending (r : Redis) (id : CmdId) : (r.expire id).pending = r.pending := by
  unfold expire; split <;> rfl
@[simp] theorem expire_cmd (r : Redis) (id : CmdId) : (r.expire id).cmd = r.cmd := by
  unfold expire; split <;> rfl
@[simp] theorem expire_coalesce (r : Redis) (id : CmdId) : (r.expire id).coalesce = r.coalesce := by
  unfold expire; split <;> rfl
@[simp] theorem expire_dead (r : Redis) (id : CmdId) : (r.expire id).dead = r.dead := by
  unfold expire; split <;> rfl
@[simp] theorem expire_metrics (r : Redis) (id : CmdId) : (r.expire id).metrics = r.metrics := by
  unfold expire; split <;> rfl
@[simp] theorem expire_lastHash (r : Redis) (id : CmdId) : (r.expire id).lastHash = r.lastHash := by
  unfold expire; split <;> rfl
@[simp] theorem expire_lastHashDeadline (r : Redis) (id : CmdId) : (r.expire id).lastHashDeadline = r.lastHashDeadline := by
  unfold expire; split <;> rfl
@[simp] theorem expire_clock (r : Redis) (id : CmdId) : (r.expire id).clock = r.clock := by
  unfold expire; split <;> rfl

def setLastHash (r : Redis) (device : DeviceEui) (hash : String) : Redis :=
  {r with lastHash := Function.update r.lastHash device (some hash),
          lastHashDeadline := Function.update r.lastHashDeadline device (r.clock+lastHashTtl)}

def setCoalesce (r : Redis) (device : DeviceEui) (id : CmdId) : Redis :=
  {r with coalesce := Function.update r.coalesce device (some id),
          coalesceDeadline := Function.update r.coalesceDeadline device (r.clock+coalesceTtl)}

def deleteCoalesce (r : Redis) (device : DeviceEui) : Redis :=
  {r with coalesce := Function.update r.coalesce device none}

def rpushDead (r : Redis) (cmd : DownlinkCommand) : Redis :=
  {r with dead := r.dead ++ [⟨cmd,r.clock⟩]}

def incr (r : Redis) (metric : Metric) : Redis :=
  {r with metrics := Function.update r.metrics metric (r.metrics metric+1)}

@[simp] theorem incr_pending (r : Redis) (metric : Metric) : (r.incr metric).pending = r.pending := rfl
@[simp] theorem incr_cmd (r : Redis) (metric : Metric) : (r.incr metric).cmd = r.cmd := rfl
@[simp] theorem incr_coalesce (r : Redis) (metric : Metric) : (r.incr metric).coalesce = r.coalesce := rfl
@[simp] theorem incr_dead (r : Redis) (metric : Metric) : (r.incr metric).dead = r.dead := rfl
@[simp] theorem incr_metrics (r : Redis) (metric : Metric) :
    (r.incr metric).metrics = Function.update r.metrics metric (r.metrics metric+1) := rfl

def rpushLatency (r : Redis) (cmd : DownlinkCommand) : Redis :=
  {r with latencies := r.latencies ++ [r.clock-cmd.createdAt]}

def ltrimLatencies (r : Redis) : Redis :=
  {r with latencies := r.latencies.drop (r.latencies.length-100)}

-- Time passes: keys whose deadline has come are gone.
def advance (r : Redis) (now : Time) : Redis :=
  {r with
    clock := now
    cmd := fun id => if (r.cmdDeadline id).any (· ≤ now) then .absent else r.cmd id
    cmdDeadline := fun id => (r.cmdDeadline id).filter (now < ·)
    lastHash := fun device => if r.lastHashDeadline device ≤ now then none else r.lastHash device
    coalesce := fun device => if r.coalesceDeadline device ≤ now then none else r.coalesce device}

def NoneExpires (r : Redis) (now : Time) : Prop :=
  r.advance now = {r with clock := now}

end Redis

-- The coalescing part of `enqueue`: a command the device already has pending is
-- removed together with its data.
def removeExisting (r : Redis) (device : DeviceEui) : Redis :=
  match r.coalesce device with
  | none => r
  | some existing =>
    if existing = "" then r
    else ((r.lrem existing).deleteCmd existing).incr .coalesced

-- `DownlinkQueue.enqueue` run without interruption. `cmdId` is what `uuid4`
-- returns; it is used only when the command is not a duplicate.
def enqueue (r : Redis) (a : EnqueueArgs) (cmdId : CmdId) : Redis × Option CmdId :=
  if r.lastHash a.deviceEui = some a.contentHash then (r.incr .deduplicated,none)
  else
    let r := removeExisting r a.deviceEui
    let r := r.hset cmdId (a.command cmdId r.clock).mapping
    let r := (r.expire cmdId).rpush cmdId
    ((r.setCoalesce a.deviceEui cmdId).incr .enqueued,some cmdId)

inductive Dequeued where
  | nothing
  | raised
  | command (cmd : DownlinkCommand)

def deserialize (h : CmdHash) (cmdId : CmdId) (now : Time) : Dequeued :=
  if h.present then
    match h.decode cmdId now with
    | none => .raised
    | some cmd => .command cmd
  else .nothing

def dequeue (r : Redis) : Redis × Dequeued :=
  match r.blpop with
  | none => (r,.nothing)
  | some (cmdId,r) => (r,deserialize (r.cmd cmdId) cmdId r.clock)

def markSuccess (r : Redis) (cmd : DownlinkCommand) : Redis :=
  let r := r.setLastHash cmd.deviceEui cmd.contentHash
  let r := (r.deleteCmd cmd.id).deleteCoalesce cmd.deviceEui
  ((r.incr .succeeded).rpushLatency cmd).ltrimLatencies

section Success

variable (r : Redis) (cmd : DownlinkCommand)

@[simp] theorem markSuccess_pending : (markSuccess r cmd).pending = r.pending := rfl
@[simp] theorem markSuccess_cmd : (markSuccess r cmd).cmd = Function.update r.cmd cmd.id .absent := rfl
@[simp] theorem markSuccess_coalesce :
    (markSuccess r cmd).coalesce = Function.update r.coalesce cmd.deviceEui none := rfl
@[simp] theorem markSuccess_dead : (markSuccess r cmd).dead = r.dead := rfl
@[simp] theorem markSuccess_metrics :
    (markSuccess r cmd).metrics = Function.update r.metrics .succeeded (r.metrics .succeeded+1) := rfl

end Success

def DownlinkCommand.failed (cmd : DownlinkCommand) (error : String) (now : Time) : DownlinkCommand :=
  {cmd with attempts := cmd.attempts+1,lastError := some error,lastAttemptAt := some now}

def moveToDeadLetter (r : Redis) (cmd : DownlinkCommand) : Redis :=
  ((r.rpushDead cmd).deleteCmd cmd.id).deleteCoalesce cmd.deviceEui

section DeadLetter

variable (r : Redis) (cmd : DownlinkCommand)

@[simp] theorem moveToDeadLetter_pending : (moveToDeadLetter r cmd).pending = r.pending := rfl
@[simp] theorem moveToDeadLetter_cmd : (moveToDeadLetter r cmd).cmd = Function.update r.cmd cmd.id .absent := rfl
@[simp] theorem moveToDeadLetter_coalesce :
    (moveToDeadLetter r cmd).coalesce = Function.update r.coalesce cmd.deviceEui none := rfl
@[simp] theorem moveToDeadLetter_dead : (moveToDeadLetter r cmd).dead = r.dead ++ [⟨cmd,r.clock⟩] := rfl
@[simp] theorem moveToDeadLetter_metrics : (moveToDeadLetter r cmd).metrics = r.metrics := rfl

end DeadLetter

def gaveUp (cmd : DownlinkCommand) (requeue : Bool) : Bool := decide (maxAttempts ≤ cmd.attempts) || !requeue

def markFailure (r : Redis) (cmd : DownlinkCommand) (error : String) (requeue : Bool) : Redis :=
  let cmd := cmd.failed error r.clock
  if gaveUp cmd requeue then (moveToDeadLetter r cmd).incr .deadLettered
  else ((r.hset cmd.id cmd.retryMapping).rpush cmd.id).incr .retried

end SmartParking.Downlink
