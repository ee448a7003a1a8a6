import SmartParking.Lib.Faults
import SmartParking.Lib.Hex
import SmartParking.Downlink.RateLimiter
import SmartParking.Downlink.Retries

namespace SmartParking.Downlink.Faulted
open Lib Lib.Faults RateLimiter

-- The commands of `mark_failure` and `_move_to_dead_letter`.
inductive Marking where
  | hset | rpush | incrRetried | rpushDead | deleteCmd | deleteCoalesce | incrDeadLettered
  deriving DecidableEq

-- The Redis commands of one call of `_process_command`; a pipeline is executed
-- as one. `mark_failure` is called within the `try` and from its handler.
inductive Site where
  | readGateway | writeGateway | readTenant | writeTenant
  | setLastHash | deleteCmd | deleteCoalesce | incrSucceeded | rpushLatency | ltrimLatencies
  | failure (handler : Bool) (marking : Marking)
  deriving DecidableEq

-- The command object is changed in place.
structure Call where
  redis : Redis
  buckets : Buckets
  command : DownlinkCommand

def Call.now (s : Call) : Seconds := s.redis.clock/1000

-- The text of the exception that a failing command raises, what `queue_downlink`
-- does, and the time at which a sleep is over.
structure World where
  redisError : String
  send : Except String Unit
  wakes : Time

abbrev Run (α : Type) := Program Site Call String α

variable (world : World)

def redisCommand (site : Site) (run : Redis → Redis) : Run Unit :=
  .command site world.redisError fun s => ({s with redis := run s.redis},())

def the (read : Call → α) : Run α := .compute fun s => (s,read s)

def checkBucket (read write : Site) (key : String) (limit : Int) : Run Answer := do
  let stored ← .command read world.redisError fun s => (s,found (s.buckets key) s.now)
  let now ← the Call.now
  let checked := checkTokenBucket limit stored now
  match checked.1.retryAfter with
  | some _ => pure checked.1
  | none => do
    .command write world.redisError fun s => ({s with buckets := Function.update s.buckets key checked.2},())
    pure checked.1

def markSuccess : Run Unit := do
  let cmd ← the Call.command
  redisCommand world .setLastHash (·.setLastHash cmd.deviceEui cmd.contentHash)
  redisCommand world .deleteCmd (·.deleteCmd cmd.id)
  redisCommand world .deleteCoalesce (·.deleteCoalesce cmd.deviceEui)
  redisCommand world .incrSucceeded (·.incr .succeeded)
  redisCommand world .rpushLatency (·.rpushLatency cmd)
  redisCommand world .ltrimLatencies (·.ltrimLatencies)

-- The attempt is counted in the object before the first command.
def markFailure (handler : Bool) (error : String) : Run Unit := do
  let cmd ← .compute fun s =>
    ({s with command := s.command.failed error s.redis.clock},s.command.failed error s.redis.clock)
  if gaveUp cmd true then do
    redisCommand world (.failure handler .rpushDead) (·.rpushDead cmd)
    redisCommand world (.failure handler .deleteCmd) (·.deleteCmd cmd.id)
    redisCommand world (.failure handler .deleteCoalesce) (·.deleteCoalesce cmd.deviceEui)
    redisCommand world (.failure handler .incrDeadLettered) (·.incr .deadLettered)
  else do
    redisCommand world (.failure handler .hset) (·.hset cmd.id cmd.retryMapping)
    redisCommand world (.failure handler .rpush) (·.rpush cmd.id)
    redisCommand world (.failure handler .incrRetried) (·.incr .retried)

-- A refused command sleeps and is marked failed.
def refuse (error : String) : Run Unit := do
  .compute fun s => ({s with redis := s.redis.advance world.wakes},())
  markFailure world false error

def sendDownlink : Run Unit := do
  let cmd ← the Call.command
  match Hex.fromHex cmd.payload with
  | .error position => .raise (Hex.errorText position)
  | .ok _ =>
    match world.send with
    | .error e => .raise e
    | .ok _ => markSuccess world

def checkTenant : Run Unit := do
  let cmd ← the Call.command
  let answer ← checkBucket world .readTenant .writeTenant (tenantKey cmd.tenantId) defaultTenantLimitPerMin
  if answer.allowed then sendDownlink world else refuse world "Tenant rate limited"

-- The body of the `try`.
def body : Run Unit := do
  let cmd ← the Call.command
  match orNone cmd.gatewayId with
  | none => checkTenant world
  | some gatewayId => do
    let answer ← checkBucket world .readGateway .writeGateway (gatewayKey gatewayId) defaultGatewayLimitPerMin
    if answer.allowed then checkTenant world else refuse world "Gateway rate limited"

def processCommand : Run Unit := do
  let result ← (body world).attempt
  match result with
  | .ok _ => pure ()
  | .error e => markFailure world true e

-- A command that a call leaves in at most one of the lists, at most once, with
-- at most one attempt more.
structure Single (cmd : DownlinkCommand) (attempts : Option String) (s : Call) : Prop where
  pending : s.redis.pending.count cmd.id ≤ 1
  dead : s.redis.deadIds.count cmd.id ≤ 1
  apart : cmd.id ∉ s.redis.pending ∨ cmd.id ∉ s.redis.deadIds
  counter : s.command.attempts ≤ cmd.attempts+1
  stored : s.redis.cmd cmd.id .attempts = attempts ∨ s.redis.cmd cmd.id .attempts = none ∨
    s.redis.cmd cmd.id .attempts = some (toString (cmd.attempts+1))
  letters : ∀ letter ∈ s.redis.dead, letter.command.id = cmd.id → letter.command.attempts ≤ cmd.attempts+1

-- The limiter refuses the command with the buckets as they are at the start.
def Limited (s : Call) : Prop :=
  (∃ gatewayId, s.command.gatewayId = some gatewayId ∧ (checkGatewayLimit s.buckets gatewayId none s.now).1.allowed = false) ∨
  (checkTenantLimit s.buckets s.command.tenantId none s.now).1.allowed = false

-- The commands `mark_failure` has for a command with this many attempts.
def issued (attempts : Int) : List Marking :=
  if maxAttempts ≤ attempts+1 then [.rpushDead,.deleteCmd,.deleteCoalesce,.incrDeadLettered] else [.hset,.rpush,.incrRetried]

-- Nothing has been done about the command yet.
structure Fresh (cmd : DownlinkCommand) (attempts : Option String) (s : Call) : Prop where
  object : s.command = cmd
  pending : cmd.id ∉ s.redis.pending
  dead : cmd.id ∉ s.redis.deadIds
  stored : s.redis.cmd cmd.id .attempts = attempts ∨ s.redis.cmd cmd.id .attempts = none

-- `mark_failure` has counted the attempt and no more.
structure Counted (cmd : DownlinkCommand) (attempts : Option String) (s : Call) : Prop where
  counter : s.command.attempts = cmd.attempts+1
  pending : cmd.id ∉ s.redis.pending
  dead : cmd.id ∉ s.redis.deadIds
  stored : s.redis.cmd cmd.id .attempts = attempts ∨ s.redis.cmd cmd.id .attempts = none ∨
    s.redis.cmd cmd.id .attempts = some (toString (cmd.attempts+1))

variable {world : World} {cmd : DownlinkCommand} {attempts : Option String} {s : Call} {fault : Option Site} {α : Type}

theorem Counted.single (counted : Counted cmd attempts s) : Single cmd attempts s where
  pending := by
    rw [List.count_eq_zero_of_not_mem counted.pending]
    exact Nat.zero_le 1
  dead := by
    rw [List.count_eq_zero_of_not_mem counted.dead]
    exact Nat.zero_le 1
  apart := .inl counted.pending
  counter := counted.counter.le
  stored := counted.stored
  letters := fun letter member same => absurd (List.mem_map.mpr ⟨letter,member,same⟩) counted.dead

theorem Fresh.single (fresh : Fresh cmd attempts s) : Single cmd attempts s where
  pending := by
    rw [List.count_eq_zero_of_not_mem fresh.pending]
    exact Nat.zero_le 1
  dead := by
    rw [List.count_eq_zero_of_not_mem fresh.dead]
    exact Nat.zero_le 1
  apart := .inl fresh.pending
  counter := by
    rw [fresh.object]
    omega
  stored := fresh.stored.imp_right .inl
  letters := fun letter member same => absurd (List.mem_map.mpr ⟨letter,member,same⟩) fresh.dead

theorem Fresh.counted (fresh : Fresh cmd attempts s) (error : String) :
    Counted cmd attempts {s with command := s.command.failed error s.redis.clock} where
  counter := by
    rw [fresh.object]
    rfl
  pending := fresh.pending
  dead := fresh.dead
  stored := fresh.stored.imp_right .inl

-- Commands about other keys, and the deletion of the command's own.
theorem Single.deleteCmd (single : Single cmd attempts s) (id : CmdId) :
    Single cmd attempts {s with redis := s.redis.deleteCmd id} := by
  refine ⟨single.pending,single.dead,single.apart,single.counter,?_,single.letters⟩
  by_cases same : cmd.id = id
  · exact .inr (.inl (by simp [Redis.deleteCmd,same,CmdHash.absent]))
  · simpa [Redis.deleteCmd,same] using single.stored

theorem Fresh.deleteCmd (fresh : Fresh cmd attempts s) (id : CmdId) :
    Fresh cmd attempts {s with redis := s.redis.deleteCmd id} := by
  refine ⟨fresh.object,fresh.pending,fresh.dead,?_⟩
  by_cases same : cmd.id = id
  · exact .inr (by simp [Redis.deleteCmd,same,CmdHash.absent])
  · simpa [Redis.deleteCmd,same] using fresh.stored

theorem Fresh.advance (fresh : Fresh cmd attempts s) (now : Time) :
    Fresh cmd attempts {s with redis := s.redis.advance now} := by
  refine ⟨fresh.object,fresh.pending,fresh.dead,?_⟩
  by_cases gone : (s.redis.cmdDeadline cmd.id).any (· ≤ now) = true
  · exact .inr (by simp [Redis.advance,gone,CmdHash.absent])
  · simpa [Redis.advance,gone] using fresh.stored

theorem Counted.rpushDead (counted : Counted cmd attempts s) {failed : DownlinkCommand} (id : failed.id = cmd.id)
    (number : failed.attempts = cmd.attempts+1) : Single cmd attempts {s with redis := s.redis.rpushDead failed} := by
  have ids : ({s with redis := s.redis.rpushDead failed} : Call).redis.deadIds = s.redis.deadIds ++ [cmd.id] := by
    simp [Redis.deadIds,Redis.rpushDead,id]
  refine ⟨counted.single.pending,?_,.inl counted.pending,counted.counter.le,counted.stored,?_⟩
  · rw [ids,List.count_append,List.count_eq_zero_of_not_mem counted.dead]
    simp
  · intro letter member same
    rcases List.mem_append.mp member with old | last
    · exact absurd (List.mem_map.mpr ⟨letter,old,same⟩) counted.dead
    · cases List.mem_singleton.mp last
      exact number.le

theorem Counted.hset (counted : Counted cmd attempts s) {failed : DownlinkCommand} (id : failed.id = cmd.id)
    (number : failed.attempts = cmd.attempts+1) :
    Counted cmd attempts {s with redis := s.redis.hset failed.id failed.retryMapping} := by
  refine ⟨counted.counter,counted.pending,counted.dead,.inr (.inr ?_)⟩
  simp [Redis.hset,id,CmdHash.hset,DownlinkCommand.retryMapping,number]

theorem Counted.rpush (counted : Counted cmd attempts s) : Single cmd attempts {s with redis := s.redis.rpush cmd.id} := by
  refine ⟨?_,counted.single.dead,.inr counted.dead,counted.counter.le,counted.stored,counted.single.letters⟩
  rw [Redis.rpush,List.count_append,List.count_eq_zero_of_not_mem counted.pending]
  simp

theorem the_run (read : Call → α) (fault : Option Site) (s : Call) : the read fault s = (s,.ok (read s)) := rfl

section Commands

variable {site : Site} {run : Redis → Redis}

theorem redisCommand_fails : redisCommand world site run (some site) s = (s,.error world.redisError) := Program.command_fails

theorem redisCommand_runs (healthy : fault ≠ some site) :
    redisCommand world site run fault s = ({s with redis := run s.redis},.ok ()) := Program.command_runs healthy

theorem redisCommand_returns : (∃ u, (redisCommand world site run fault s).2 = .ok u) ↔ fault ≠ some site := by
  by_cases hit : fault = some site
  · rw [hit,redisCommand_fails]
    simp
  · rw [redisCommand_runs hit]
    simp [hit]

theorem redisCommand_then {f : Unit → Run Unit} : (∃ u, ((redisCommand world site run >>= f) fault s).2 = .ok u) ↔
    fault ≠ some site ∧ ∃ u, (f () fault {s with redis := run s.redis}).2 = .ok u := by
  by_cases hit : fault = some site
  · rw [hit,Program.bind_error redisCommand_fails]
    simp
  · rw [Program.bind_ok (redisCommand_runs hit)]
    exact (and_iff_right hit).symm

theorem redisCommand_preserves {holds : Call → Prop} (preserved : ∀ s, holds s → holds {s with redis := run s.redis}) :
    Program.Preserves holds (redisCommand world site run) := Program.preserves_command preserved

theorem redisCommand_object : Program.Keeps Call.command (redisCommand world site run) := Program.keeps_command fun _ => rfl

end Commands

theorem markSuccess_fresh : Program.Preserves (Fresh cmd attempts) (markSuccess world) := by
  have other {site : Site} {run : Redis → Redis} (pending : ∀ r, (run r).pending = r.pending) (dead : ∀ r, (run r).dead = r.dead)
      (hash : ∀ r, (run r).cmd = r.cmd) : Program.Preserves (Fresh cmd attempts) (redisCommand world site run) := by
    refine redisCommand_preserves fun s fresh => ⟨fresh.object,?_,?_,?_⟩
    · rw [pending]
      exact fresh.pending
    · rw [Redis.deadIds,dead]
      exact fresh.dead
    · rw [hash]
      exact fresh.stored
  refine Program.preserves_bind (Program.preserves_compute fun _ fresh => fresh) fun found => ?_
  refine Program.preserves_bind (other (fun _ => rfl) (fun _ => rfl) fun _ => rfl) fun _ => ?_
  refine Program.preserves_bind (redisCommand_preserves fun _ fresh => fresh.deleteCmd found.id) fun _ => ?_
  refine Program.preserves_bind (other (fun _ => rfl) (fun _ => rfl) fun _ => rfl) fun _ => ?_
  refine Program.preserves_bind (other (fun _ => rfl) (fun _ => rfl) fun _ => rfl) fun _ => ?_
  refine Program.preserves_bind (other (fun _ => rfl) (fun _ => rfl) fun _ => rfl) fun _ => ?_
  exact other (fun _ => rfl) (fun _ => rfl) fun _ => rfl

theorem sendDownlink_fresh : Program.Preserves (Fresh cmd attempts) (sendDownlink world) := by
  refine Program.preserves_bind (Program.preserves_compute fun _ fresh => fresh) fun found => ?_
  split
  · exact Program.preserves_raise _
  · split
    · exact Program.preserves_raise _
    · exact markSuccess_fresh

-- What is left of `mark_failure` once the command is in one of the lists.
theorem buried_rest (handler : Bool) (failed : DownlinkCommand) : Program.Preserves (Single cmd attempts) (do
    redisCommand world (.failure handler .deleteCmd) (·.deleteCmd failed.id)
    redisCommand world (.failure handler .deleteCoalesce) (·.deleteCoalesce failed.deviceEui)
    redisCommand world (.failure handler .incrDeadLettered) (·.incr .deadLettered)) := by
  refine Program.preserves_bind (redisCommand_preserves fun _ single => single.deleteCmd failed.id) fun _ => ?_
  refine Program.preserves_bind (redisCommand_preserves ?_) fun _ => redisCommand_preserves ?_
  all_goals exact fun _ single =>
    ⟨single.pending,single.dead,single.apart,single.counter,single.stored,single.letters⟩

theorem markFailure_single (fresh : Fresh cmd attempts s) (handler : Bool) (error : String) (fault : Option Site) :
    Single cmd attempts (markFailure world handler error fault s).1 := by
  have counted := fresh.counted error
  have id : (s.command.failed error s.redis.clock).id = cmd.id := by
    rw [fresh.object]
    rfl
  have number : (s.command.failed error s.redis.clock).attempts = cmd.attempts+1 := by
    rw [fresh.object]
    rfl
  unfold markFailure
  rw [Program.bind_ok (Program.compute_run _)]
  dsimp only
  generalize s.command.failed error s.redis.clock = failed at counted id number ⊢
  split
  · by_cases hit : fault = some (.failure handler .rpushDead)
    · rw [hit,Program.bind_error redisCommand_fails]
      exact counted.single
    · rw [Program.bind_ok (redisCommand_runs hit)]
      exact buried_rest handler failed fault _ (counted.rpushDead id number)
  · by_cases hit : fault = some (.failure handler .hset)
    · rw [hit,Program.bind_error redisCommand_fails]
      exact counted.single
    · rw [Program.bind_ok (redisCommand_runs hit)]
      have stored := counted.hset id number
      by_cases hit : fault = some (.failure handler .rpush)
      · rw [hit,Program.bind_error redisCommand_fails]
        exact stored.single
      · rw [Program.bind_ok (redisCommand_runs hit)]
        dsimp only
        rw [id]
        have pushed := stored.rpush
        rw [id] at pushed
        exact redisCommand_preserves (fun _ single =>
          ⟨single.pending,single.dead,single.apart,single.counter,single.stored,single.letters⟩) fault _ pushed

theorem markFailure_counts (world : World) (handler : Bool) (error : String) (fault : Option Site) (s : Call) :
    (markFailure world handler error fault s).1.command.attempts = s.command.attempts+1 := by
  unfold markFailure
  rw [Program.bind_ok (Program.compute_run _)]
  dsimp only
  have kept : ∀ p : Run Unit, Program.Keeps Call.command p →
      (p fault {s with command := s.command.failed error s.redis.clock}).1.command.attempts = s.command.attempts+1 := by
    intro p keeps
    rw [keeps]
    rfl
  split
  · refine kept _ (Program.keeps_bind redisCommand_object fun _ => Program.keeps_bind redisCommand_object fun _ =>
      Program.keeps_bind redisCommand_object fun _ => redisCommand_object)
  · refine kept _ (Program.keeps_bind redisCommand_object fun _ => Program.keeps_bind redisCommand_object fun _ =>
      redisCommand_object)

theorem markFailure_returns (world : World) (handler : Bool) (error : String) (fault : Option Site) (s : Call) :
    (∃ u, (markFailure world handler error fault s).2 = .ok u) ↔
      ∀ marking ∈ issued s.command.attempts, fault ≠ some (.failure handler marking) := by
  unfold markFailure
  rw [Program.bind_ok (Program.compute_run _)]
  dsimp only
  have spent : gaveUp (s.command.failed error s.redis.clock) true = true ↔ maxAttempts ≤ s.command.attempts+1 := by
    rw [gaveUp,Bool.not_true,Bool.or_false,decide_eq_true_iff]
    rfl
  by_cases last : maxAttempts ≤ s.command.attempts+1
  · rw [if_pos (spent.mpr last),issued,if_pos last,redisCommand_then,redisCommand_then,redisCommand_then,redisCommand_returns]
    simp
  · rw [if_neg fun left => last (spent.mp left),issued,if_neg last,redisCommand_then,redisCommand_then,redisCommand_returns]
    simp

theorem found_twice (stored : Option BucketHash) (now : Seconds) : found (found stored now) now = found stored now := by
  simp [found,Option.filter_filter]

theorem newTokens_found (limit : Int) (stored : Option BucketHash) (now : Seconds) :
    newTokens limit (found stored now) now = newTokens limit stored now := by
  simp only [newTokens,found_twice]

theorem check_found (limit : Int) (stored : Option BucketHash) (now : Seconds) :
    (checkTokenBucket limit (found stored now) now).1 = (checkTokenBucket limit stored now).1 := by
  by_cases enough : 1 ≤ newTokens limit stored now
  · rw [check_allows enough,check_allows (by rwa [newTokens_found])]
  · rw [check_refuses enough,check_refuses (by rwa [newTokens_found]),newTokens_found]

-- A check answers as the bucket does and leaves the other buckets alone, or one
-- of its two commands has failed.
theorem checkBucket_cases (world : World) (read write : Site) (key : String) (limit : Int) (fault : Option Site) (s : Call) :
    (∃ next, checkBucket world read write key limit fault s = (next,.ok (checkTokenBucket limit (s.buckets key) s.now).1) ∧
      next.redis = s.redis ∧ next.command = s.command ∧ ∀ other, other ≠ key → next.buckets other = s.buckets other) ∨
    (fault = some read ∨ fault = some write) ∧
      checkBucket world read write key limit fault s = (s,.error world.redisError) := by
  unfold checkBucket
  by_cases unread : fault = some read
  · rw [unread,Program.bind_error Program.command_fails]
    exact .inr ⟨.inl rfl,rfl⟩
  · rw [Program.bind_ok (Program.command_runs unread),Program.bind_ok (the_run _ _ _)]
    dsimp only
    rw [check_found]
    cases refused : (checkTokenBucket limit (s.buckets key) s.now).1.retryAfter with
    | some retryAfter => exact .inl ⟨s,rfl,rfl,rfl,fun _ _ => rfl⟩
    | none =>
      dsimp only
      by_cases unwritten : fault = some write
      · rw [unwritten,Program.bind_error Program.command_fails]
        exact .inr ⟨.inr rfl,rfl⟩
      · rw [Program.bind_ok (Program.command_runs unwritten)]
        exact .inl ⟨_,rfl,rfl,rfl,fun other apart => Function.update_of_ne apart _ _⟩

theorem check_allowed (limit : Int) (stored : Option BucketHash) (now : Seconds) :
    (checkTokenBucket limit stored now).1.allowed = false ↔ ¬1 ≤ newTokens limit stored now := by
  by_cases enough : 1 ≤ newTokens limit stored now
  · rw [check_allows enough]
    exact iff_of_false nofun (not_not_intro enough)
  · rw [check_refuses enough]
    exact iff_of_true rfl enough

-- The checks without limits of their own go by the defaults.
theorem tenant_refuses (buckets : Buckets) (tenantId : String) (now : Seconds) :
    (checkTenantLimit buckets tenantId none now).1.allowed = false ↔
      ¬1 ≤ newTokens defaultTenantLimitPerMin (buckets (tenantKey tenantId)) now := check_allowed _ _ _

theorem gateway_refuses (buckets : Buckets) (gatewayId : Option String) (now : Seconds) :
    (∃ id, gatewayId = some id ∧ (checkGatewayLimit buckets id none now).1.allowed = false) ↔
      ∃ id, orNone gatewayId = some id ∧ ¬1 ≤ newTokens defaultGatewayLimitPerMin (buckets (gatewayKey id)) now := by
  refine exists_congr fun id => ?_
  by_cases named : id = ""
  · subst named
    simp [orNone,checkGatewayLimit]
  · have found : orNone gatewayId = some id ↔ gatewayId = some id := by simp [orNone,named]
    rw [found,checkGatewayLimit,if_neg named]
    exact and_congr_right fun _ => check_allowed _ _ _

theorem gateway_ne_tenant (gatewayId tenantId : String) : tenantKey tenantId ≠ gatewayKey gatewayId := by
  intro same
  have letters := congrArg String.toList same
  simp [tenantKey,gatewayKey] at letters

-- How the body of the `try` ends: the command was refused, or nothing has been
-- done about it, and then it was not refused unless a check failed.
inductive Outcome (world : World) (cmd : DownlinkCommand) (attempts : Option String) (fault : Option Site) (limited : Prop) :
    Call × Except String Unit → Prop where
  | refused (error : String) : limited → Fresh cmd attempts start →
      Outcome world cmd attempts fault limited (refuse world error fault start)
  | untouched : Fresh cmd attempts result.1 → (limited → ∀ handler marking, fault ≠ some (.failure handler marking)) →
      Outcome world cmd attempts fault limited result

theorem Outcome.imp {limited same : Prop} {result : Call × Except String Unit} (equal : limited ↔ same)
    (outcome : Outcome world cmd attempts fault limited result) : Outcome world cmd attempts fault same result := by
  rwa [← propext equal]

theorem checkBucket_outcome {read write : Site} {key : String} {limit : Int} {error : String} {proceed : Run Unit}
    {limited : Prop} (fresh : Fresh cmd attempts s) (checks : ∀ handler marking, read ≠ .failure handler marking ∧
      write ≠ .failure handler marking)
    (allowed : ∀ next, Fresh cmd attempts next → next.redis = s.redis →
      (∀ other, other ≠ key → next.buckets other = s.buckets other) →
      Outcome world cmd attempts fault limited (proceed fault next)) :
    Outcome world cmd attempts fault (¬1 ≤ newTokens limit (s.buckets key) s.now ∨ limited) ((do
      let answer ← checkBucket world read write key limit
      if answer.allowed then proceed else refuse world error : Run Unit) fault s) := by
  rcases checkBucket_cases world read write key limit fault s with ⟨next,ran,redis,object,others⟩ | ⟨hit,ran⟩
  · rw [Program.bind_ok ran]
    have after : Fresh cmd attempts next := by
      refine ⟨object.trans fresh.object,?_,?_,?_⟩
      · rw [redis]
        exact fresh.pending
      · rw [redis]
        exact fresh.dead
      · rw [redis]
        exact fresh.stored
    by_cases enough : 1 ≤ newTokens limit (s.buckets key) s.now
    · rw [check_allows enough,if_pos rfl]
      exact (allowed next after redis others).imp (or_iff_right (not_not_intro enough)).symm
    · rw [check_refuses enough,if_neg Bool.false_ne_true]
      exact .refused error (.inl enough) after
  · rw [Program.bind_error ran]
    refine .untouched fresh fun _ handler marking same => ?_
    rcases hit with hit | hit
    · exact (checks handler marking).1 (Option.some.inj (hit.symm.trans same))
    · exact (checks handler marking).2 (Option.some.inj (hit.symm.trans same))

theorem checkTenant_outcome (fresh : Fresh cmd attempts s) : Outcome world cmd attempts fault
    (¬1 ≤ newTokens defaultTenantLimitPerMin (s.buckets (tenantKey cmd.tenantId)) s.now) (checkTenant world fault s) := by
  unfold checkTenant
  rw [Program.bind_ok (the_run _ _ _),fresh.object]
  refine Outcome.imp (or_iff_left id) (checkBucket_outcome fresh (fun _ _ => ⟨nofun,nofun⟩) fun next after _ _ => ?_)
  exact .untouched (sendDownlink_fresh fault next after) False.elim

theorem body_outcome (fresh : Fresh cmd attempts s) : Outcome world cmd attempts fault (Limited s) (body world fault s) := by
  unfold body Limited
  rw [Program.bind_ok (the_run _ _ _),gateway_refuses,tenant_refuses,fresh.object]
  cases gateway : orNone cmd.gatewayId with
  | none =>
    dsimp only
    exact (checkTenant_outcome fresh).imp (or_iff_right (by simp)).symm
  | some gatewayId =>
    dsimp only
    have tenant : ∀ next, Fresh cmd attempts next → next.redis = s.redis →
        (∀ other, other ≠ gatewayKey gatewayId → next.buckets other = s.buckets other) → Outcome world cmd attempts fault
          (¬1 ≤ newTokens defaultTenantLimitPerMin (s.buckets (tenantKey cmd.tenantId)) s.now) (checkTenant world fault next) := by
      intro next after redis others
      have same := others _ (gateway_ne_tenant gatewayId cmd.tenantId)
      have now : next.now = s.now := by rw [Call.now,redis,Call.now]
      rw [← same,← now]
      exact checkTenant_outcome after
    exact Outcome.imp (by simp) (checkBucket_outcome fresh (fun _ _ => ⟨nofun,nofun⟩) tenant)

theorem refuse_marks (waiting : Fresh cmd attempts s) (world : World) (error : String) (fault : Option Site) :
    ∃ awake, Fresh cmd attempts awake ∧ refuse world error fault s = markFailure world false error fault awake :=
  ⟨{s with redis := s.redis.advance world.wakes},waiting.advance world.wakes,rfl⟩

-- A command that a worker has dequeued is as fresh as that in every state the
-- queue reaches.
theorem taken_fresh {q : State} (path : Runs.Reached step meets State.initial q) (held : (q.workers w).unsent = some cmd)
    (redis : s.redis = q.redis) (object : s.command = cmd) : Fresh cmd (q.redis.cmd cmd.id .attempts) s := by
  have placed := reached_placed path
  refine ⟨object,?_,?_,.inl (by rw [redis])⟩
  · rw [redis]
    exact (reached_single path).unqueued placed (.inl (unsent_held held))
  · rw [redis]
    intro member
    obtain ⟨letter,found,same⟩ := List.mem_map.mp member
    have logged := (reached_buried path letter.command).mpr ⟨letter,found,rfl⟩
    have kept : place q.events cmd.id = .held w := placed.sound.held w cmd.id (unsent_held held)
    rw [← same,reached_lasting path _ logged letter.command.id .buried rfl (.inr (.inl rfl))] at kept
    cases kept

-- One failing Redis command duplicates the command, or counts two attempts,
-- exactly when it is one that `mark_failure` issues for a refused command: the
-- exception takes the call to `mark_failure` a second time.
theorem fault_duplicates (fault : Option Site) (fresh : Fresh cmd attempts s) :
    Single cmd attempts (processCommand world fault s).1 ↔
      ¬(Limited s ∧ ∃ marking ∈ issued cmd.attempts, fault = some (.failure false marking)) := by
  have outcome : Outcome world cmd attempts fault (Limited s) (body world fault s) := body_outcome fresh
  unfold processCommand
  rw [Program.bind_ok Program.attempt_run]
  generalize body world fault s = result at outcome ⊢
  cases outcome with
  | untouched after unmarked =>
    refine iff_of_true ?_ fun ⟨limited,marking,_,hit⟩ => unmarked limited false marking hit
    cases result.2 with
    | ok u => exact after.single
    | error e => exact markFailure_single after true e fault
  | refused error limited waiting =>
    obtain ⟨awake,untouched,marks⟩ := refuse_marks waiting world error fault
    rw [marks]
    have returns := markFailure_returns world false error fault awake
    have first := markFailure_counts world false error fault awake
    rw [untouched.object] at returns first
    by_cases hit : ∃ marking ∈ issued cmd.attempts, fault = some (.failure false marking)
    · refine iff_of_false ?_ (not_not_intro ⟨limited,hit⟩)
      cases ended : (markFailure world false error fault awake).2 with
      | ok u =>
        obtain ⟨marking,member,same⟩ := hit
        exact absurd same (returns.mp ⟨u,ended⟩ marking member)
      | error e =>
        intro single
        have counter := single.counter
        have second := markFailure_counts world true e fault (markFailure world false error fault awake).1
        dsimp only at counter
        omega
    · refine iff_of_true ?_ fun both => hit both.2
      obtain ⟨u,ended⟩ := returns.mpr fun marking member same => hit ⟨marking,member,same⟩
      rw [ended]
      exact markFailure_single untouched false error fault

def waiting : DownlinkCommand :=
  {id := "a",deviceEui := "d1",tenantId := "t1",gatewayId := some "g1",payload := "01",fport := 15,confirmed := false,
    contentHash := "",createdAt := 0}

-- The gateway has no token left.
def drained : Call := ⟨.empty,Function.update (fun _ => none) (gatewayKey "g1") (some ⟨0,0,120⟩),waiting⟩

def healthy : World := ⟨"Connection reset by peer",.ok (),3000⟩

theorem drained_fresh : Fresh waiting none drained :=
  ⟨rfl,List.not_mem_nil,List.not_mem_nil,.inl rfl⟩

theorem fault_duplicates_drained : Single waiting none (processCommand healthy (some .readGateway) drained).1 ↔
    ¬(Limited drained ∧ ∃ marking ∈ issued waiting.attempts, some Site.readGateway = some (.failure false marking)) :=
  fault_duplicates (some .readGateway) drained_fresh

-- The counter of retries fails after the push, so the handler pushes again.
theorem fault_duplicates_retried : ¬∀ (world : World) (fault : Option Site) (cmd : DownlinkCommand)
    (attempts : Option String) (s : Call), Fresh cmd attempts s → Single cmd attempts (processCommand world fault s).1 := by
  intro failed
  have single := failed healthy (some (.failure false .incrRetried)) waiting none drained drained_fresh
  have pushed : (processCommand healthy (some (.failure false .incrRetried)) drained).1.redis.pending = ["a","a"] := by
    decide +kernel
  have once := single.pending
  rw [pushed] at once
  exact absurd once (by decide)

end SmartParking.Downlink.Faulted
