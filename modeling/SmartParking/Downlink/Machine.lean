import SmartParking.Lib.Hex
import SmartParking.Lib.Runs
import SmartParking.Downlink.Queue

namespace SmartParking.Downlink
open Lib

-- An enqueue call between two Redis commands. A constructor names the command
-- that comes next.
inductive EnqueuePc where
  | idle
  | getLastHash (a : EnqueueArgs)
  | incrDeduplicated (a : EnqueueArgs)
  | getCoalesce (a : EnqueueArgs)
  | lrem (a : EnqueueArgs) (existing : CmdId)
  | deleteCmd (a : EnqueueArgs) (existing : CmdId)
  | incrCoalesced (a : EnqueueArgs)
  | hset (a : EnqueueArgs)
  | expire (a : EnqueueArgs) (id : CmdId)
  | rpush (a : EnqueueArgs) (id : CmdId)
  | setCoalesce (a : EnqueueArgs) (id : CmdId)
  | incrEnqueued (a : EnqueueArgs) (id : CmdId)

-- A worker between two awaits of `_run_loop`, `dequeue`, `_process_command`,
-- `mark_success` and `mark_failure`. `ready` is the moment `dequeue` has
-- returned; `limited` is the sleep after a rate limiter's refusal.
inductive WorkerPc where
  | stopped
  | blpop
  | hgetall (id : CmdId)
  | ready (cmd : DownlinkCommand)
  | tenantLimit (cmd : DownlinkCommand)
  | limited (cmd : DownlinkCommand) (error : String)
  | queueDownlink (cmd : DownlinkCommand)
  | setLastHash (cmd : DownlinkCommand)
  | deleteCmd (cmd : DownlinkCommand)
  | deleteCoalesce (cmd : DownlinkCommand)
  | incrSucceeded (cmd : DownlinkCommand)
  | rpushLatency (cmd : DownlinkCommand)
  | ltrimLatencies
  | hset (cmd : DownlinkCommand)
  | rpush (cmd : DownlinkCommand)
  | incrRetried
  | rpushDead (cmd : DownlinkCommand)
  | deleteDead (cmd : DownlinkCommand)
  | deleteDeadCoalesce (cmd : DownlinkCommand)
  | incrDeadLettered

-- What happened, for the statements about whole runs. Nothing below reads the
-- log except `uuid4`, which never returns an id twice.
inductive Event where
  | called (a : EnqueueArgs)
  | created (p : Nat) (id : CmdId) (a : EnqueueArgs)
  | pushed (id : CmdId)
  | returned (id : Option CmdId) (a : EnqueueArgs)
  | removed (id : CmdId) (a : EnqueueArgs)
  | deleted (id : CmdId) (a : EnqueueArgs)
  | popped (w : Nat) (id : CmdId)
  | dropped (id : CmdId)
  | dequeued (cmd : DownlinkCommand)
  | handed (cmd : DownlinkCommand)
  | sent (cmd : DownlinkCommand)
  | succeeded (cmd : DownlinkCommand)
  | requeued (id : CmdId)
  | deadLettered (cmd : DownlinkCommand)
  deriving DecidableEq

-- The call an id was made for. The log is newest first.
def createdBy : List Event → CmdId → Option EnqueueArgs
  | [] => fun _ => none
  | .created _ id a::earlier => Function.update (createdBy earlier) id (some a)
  | _::earlier => createdBy earlier

structure State where
  redis : Redis
  producers : Nat → EnqueuePc
  workers : Nat → WorkerPc
  events : List Event

def State.initial : State := ⟨.empty,fun _ => .idle,fun _ => .stopped,[]⟩

-- What the rate limiter or `queue_downlink` answers. Any answer is possible.
inductive Reply where
  | ok
  | refused (error : String)

inductive Action where
  | call (p : Nat) (a : EnqueueArgs)
  | produce (p : Nat) (uuid : CmdId)
  | work (w : Nat) (reply : Reply)
  | markSuccess (w : Nat)
  | markFailure (w : Nat) (error : String) (requeue : Bool)
  | start (w : Nat)
  | stop (w : Nat)
  | tick (now : Time)

def produce (r : Redis) (p : Nat) (uuid : CmdId) (issued : Bool) :
    EnqueuePc → Option (Redis × List Event × EnqueuePc)
  | .idle => none
  | .getLastHash a =>
    if r.lastHash a.deviceEui = some a.contentHash then some (r,[],.incrDeduplicated a)
    else some (r,[],.getCoalesce a)
  | .incrDeduplicated a => some (r.incr .deduplicated,[.returned none a],.idle)
  | .getCoalesce a =>
    match r.coalesce a.deviceEui with
    | none => some (r,[],.hset a)
    | some existing => if existing = "" then some (r,[],.hset a) else some (r,[],.lrem a existing)
  | .lrem a existing =>
    if existing ∈ r.pending then some (r.lrem existing,[.removed existing a],.deleteCmd a existing)
    else some (r.lrem existing,[],.deleteCmd a existing)
  | .deleteCmd a existing => some (r.deleteCmd existing,[.deleted existing a],.incrCoalesced a)
  | .incrCoalesced a => some (r.incr .coalesced,[],.hset a)
  | .hset a =>
    if uuid = "" ∨ issued then none
    else some (r.hset uuid (a.command uuid r.clock).mapping,[.created p uuid a],.expire a uuid)
  | .expire a id => some (r.expire id,[],.rpush a id)
  | .rpush a id => some (r.rpush id,[.pushed id],.setCoalesce a id)
  | .setCoalesce a id => some (r.setCoalesce a.deviceEui id,[],.incrEnqueued a id)
  | .incrEnqueued a id => some (r.incr .enqueued,[.returned (some id) a],.idle)

def failing (cmd : DownlinkCommand) (error : String) (requeue : Bool) (now : Time) : WorkerPc :=
  if gaveUp (cmd.failed error now) requeue then .rpushDead (cmd.failed error now)
  else .hset (cmd.failed error now)

-- The end of `_process_command` once both limiters allow: the payload is
-- decoded before the send, and a decoding error is handled like a failed send.
def decodePayload (cmd : DownlinkCommand) (now : Time) : WorkerPc :=
  match Hex.fromHex cmd.payload with
  | .error position => failing cmd (Hex.errorText position) true now
  | .ok _ => .queueDownlink cmd

def checkTenant (cmd : DownlinkCommand) (now : Time) : Reply → WorkerPc
  | .ok => decodePayload cmd now
  | .refused _ => .limited cmd "Tenant rate limited"

def work (r : Redis) (w : Nat) (reply : Reply) : WorkerPc → Option (Redis × List Event × WorkerPc)
  | .stopped => none
  | .blpop =>
    match r.blpop with
    | none => some (r,[],.blpop)
    | some (id,r) => some (r,[.popped w id],.hgetall id)
  | .hgetall id =>
    match deserialize (r.cmd id) id r.clock with
    | .nothing => some (r,[.dropped id],.blpop)
    | .raised => some (r,[],.blpop)
    | .command cmd => some (r,[.dequeued cmd],.ready cmd)
  | .ready cmd =>
    match orNone cmd.gatewayId,reply with
    | some _,.ok => some (r,[],.tenantLimit cmd)
    | some _,.refused _ => some (r,[],.limited cmd "Gateway rate limited")
    | none,reply => some (r,[],checkTenant cmd r.clock reply)
  | .tenantLimit cmd => some (r,[],checkTenant cmd r.clock reply)
  | .limited cmd error => some (r,[],failing cmd error true r.clock)
  | .queueDownlink cmd =>
    match reply with
    | .ok => some (r,[.sent cmd,.handed cmd],.setLastHash cmd)
    | .refused error => some (r,[.handed cmd],failing cmd error true r.clock)
  | .setLastHash cmd => some (r.setLastHash cmd.deviceEui cmd.contentHash,[.succeeded cmd],.deleteCmd cmd)
  | .deleteCmd cmd => some (r.deleteCmd cmd.id,[],.deleteCoalesce cmd)
  | .deleteCoalesce cmd => some (r.deleteCoalesce cmd.deviceEui,[],.incrSucceeded cmd)
  | .incrSucceeded cmd => some (r.incr .succeeded,[],.rpushLatency cmd)
  | .rpushLatency cmd => some (r.rpushLatency cmd,[],.ltrimLatencies)
  | .ltrimLatencies => some (r.ltrimLatencies,[],.blpop)
  | .hset cmd => some (r.hset cmd.id cmd.retryMapping,[],.rpush cmd)
  | .rpush cmd => some (r.rpush cmd.id,[.requeued cmd.id],.incrRetried)
  | .incrRetried => some (r.incr .retried,[],.blpop)
  | .rpushDead cmd => some (r.rpushDead cmd,[.deadLettered cmd],.deleteDead cmd)
  | .deleteDead cmd => some (r.deleteCmd cmd.id,[],.deleteDeadCoalesce cmd)
  | .deleteDeadCoalesce cmd => some (r.deleteCoalesce cmd.deviceEui,[],.incrDeadLettered)
  | .incrDeadLettered => some (r.incr .deadLettered,[],.blpop)

def State.put (s : State) (p : Nat) (result : Redis × List Event × EnqueuePc) : State :=
  {s with redis := result.1,producers := Function.update s.producers p result.2.2,events := result.2.1 ++ s.events}

def State.set (s : State) (w : Nat) (result : Redis × List Event × WorkerPc) : State :=
  {s with redis := result.1,workers := Function.update s.workers w result.2.2,events := result.2.1 ++ s.events}

-- `markSuccess` and `markFailure` are calls by a client of the queue other than
-- `DownlinkWorker`, on the command its own `dequeue` returned.
def step (s : State) : Action → Option State
  | .call p a =>
    match s.producers p with
    | .idle => some (s.put p (s.redis,[.called a],.getLastHash a))
    | _ => none
  | .produce p uuid =>
    (produce s.redis p uuid (createdBy s.events uuid).isSome (s.producers p)).map (s.put p)
  | .work w reply => (work s.redis w reply (s.workers w)).map (s.set w)
  | .markSuccess w =>
    match s.workers w with
    | .ready cmd => some (s.set w (s.redis,[],.setLastHash cmd))
    | _ => none
  | .markFailure w error requeue =>
    match s.workers w with
    | .ready cmd => some (s.set w (s.redis,[],failing cmd error requeue s.redis.clock))
    | _ => none
  | .start w =>
    match s.workers w with
    | .stopped => some (s.set w (s.redis,[],.blpop))
    | _ => none
  | .stop w => some (s.set w (s.redis,[],.stopped))
  | .tick now => if s.redis.clock ≤ now then some {s with redis := s.redis.advance now} else none

end SmartParking.Downlink
