import SmartParking.Lib.RoundRobin
import SmartParking.Downlink.Serial

namespace SmartParking.Downlink.Drain
open Lib Lib.Runs RoundRobin

-- The attempts a stored command has left.
def triesLeft (h : CmdHash) : Nat := (maxAttempts-((h .attempts).bind Decimal.read).getD 0).toNat

def entries (r : Redis) : List (CmdId × Nat) := r.pending.map fun id => (id,triesLeft (r.cmd id))

def Op.enqueues : Op → Bool
  | .enqueue .. => true
  | _ => false

def cycles : List Op → Nat
  | [] => 0
  | .cycle _::ops => cycles ops+1
  | _::ops => cycles ops

def sent (r : Redis) : Outcome → List CmdId
  | .success => r.pending.head?.toList
  | .failure .. => []

-- The ids whose downlink was sent, in the order in which they were.
def deliveries : Serial → List Op → List CmdId
  | _,[] => []
  | s,op::ops =>
    (match op with
      | .cycle outcome => sent s.redis outcome
      | _ => []) ++ (s.step op).elim [] (deliveries · ops)

-- How a cycle leaves the command at the head: sent, dead, or at the tail.
inductive Cycled (r : Redis) (id : CmdId) (rest : List CmdId) : Outcome → Redis → Prop where
  | sent {after : Redis} : after.pending = rest → after.dead = r.dead →
      (∀ other, other ≠ id → after.cmd other = r.cmd other) → Cycled r id rest .success after
  | dead {after : Redis} {letter : DeadLetter} : after.pending = rest → letter.command.id = id →
      after.dead = r.dead ++ [letter] → (∀ other, other ≠ id → after.cmd other = r.cmd other) →
      Cycled r id rest (.failure error requeue) after
  | requeued {after : Redis} {n : Int} : after.pending = rest ++ [id] → after.dead = r.dead →
      (∀ other, other ≠ id → after.cmd other = r.cmd other) → r.cmd id .attempts = some (toString n) →
      after.cmd id .attempts = some (toString (n+1)) → n+1 < maxAttempts → Cycled r id rest (.failure error requeue) after

variable {r after : Redis} {issued : CmdId → Option EnqueueArgs} {id : CmdId} {rest : List CmdId} {outcome : Outcome}
  {s next last : Serial} {ops : List Op} {op : Op} {a : EnqueueArgs} {uuid : CmdId} {answer : Option CmdId} {h : CmdHash}

theorem triesLeft_stored {n : Int} (held : h .attempts = some (toString n)) : triesLeft h = (maxAttempts-n).toNat := by
  unfold triesLeft
  rw [held,Option.bind_some,Decimal.read_toString,Option.getD_some]

theorem popped_attempts {cmd : DownlinkCommand} {n : Int} (head : r.pending = id::rest)
    (popped : (dequeue r).2 = .command cmd) (held : r.cmd id .attempts = some (toString n)) : cmd.attempts = n := by
  simp only [dequeue,Redis.blpop,head] at popped
  unfold deserialize at popped
  split at popped
  · split at popped
    · cases popped
    · rename_i decoded
      cases popped
      have parsed := (decode_parts decoded).2.2.2.2.2.2.2.2
      rw [held,Option.elim_some,Decimal.read_toString] at parsed
      exact (Option.some.inj parsed).symm
  · cases popped

theorem cycle_cycled (outcome : Outcome) (valid : Consistent r.pending r.cmd r.coalesce issued) (head : r.pending = id::rest) :
    Cycled r id rest outcome (cycle r outcome) := by
  obtain ⟨cmd,a,_,popped,of,stored,same,carries,_,_⟩ := dequeue_command valid head
  obtain ⟨n,held,_⟩ := stored.attempts
  have count := popped_attempts head (by rw [popped]) held
  have untouched : ∀ (h : CmdHash) (other : CmdId), other ≠ id → Function.update r.cmd id h other = r.cmd other :=
    fun h other different => Function.update_of_ne different _ _
  cases outcome with
  | success =>
    simp only [cycle,popped,finishCycle]
    refine .sent (by simp) (by simp) fun other different => ?_
    rw [markSuccess_cmd,same]
    exact untouched _ other different
  | failure error requeue =>
    simp only [cycle,popped,finishCycle,markFailure]
    split
    · refine .dead (by simp) (show (⟨cmd.failed error r.clock,r.clock⟩ : DeadLetter).command.id = id from same) (by simp) fun other different => ?_
      simpa [DownlinkCommand.failed,same] using untouched _ other different
    · rename_i kept
      have both : ¬(maxAttempts ≤ (cmd.failed error r.clock).attempts) ∧ requeue = true := by
        simpa [gaveUp] using kept
      refine .requeued (n := n) ?_ rfl (fun other different => ?_) held ?_ ?_
      · simp [Redis.rpush,Redis.hset,DownlinkCommand.failed,same]
      · simpa [Redis.rpush,Redis.hset,DownlinkCommand.failed,same] using untouched _ other different
      · simp [Redis.rpush,Redis.hset,DownlinkCommand.failed,same,count,CmdHash.hset,DownlinkCommand.retryMapping]
      · simpa [DownlinkCommand.failed,count] using Int.not_le.mp both.1

theorem entries_congr (list : List CmdId) {cmd cmd' : CmdId → CmdHash} (same : ∀ id ∈ list, cmd' id = cmd id) :
    (list.map fun id => (id,triesLeft (cmd' id))) = list.map fun id => (id,triesLeft (cmd id)) :=
  List.map_congr_left fun id member => by rw [same id member]

theorem entries_charged (valid : Consistent r.pending r.cmd r.coalesce issued) : Charged (entries r) := by
  intro entry member
  obtain ⟨id,waiting,rfl⟩ := List.mem_map.mp member
  obtain ⟨_,_,stored⟩ := valid.stored id waiting
  obtain ⟨n,held,bound⟩ := stored.attempts
  rw [triesLeft_stored held]
  omega

-- A cycle is a turn of the queue: what it takes out is sent or dead.
theorem cycle_turn (outcome : Outcome) (valid : Consistent r.pending r.cmd r.coalesce issued) :
    ∃ letters : List DeadLetter, (cycle r outcome).dead = r.dead ++ letters ∧
      Turn (entries r) (entries (cycle r outcome)) (sent r outcome ++ letters.map (·.command.id)) := by
  cases head : r.pending with
  | nil =>
    have same : cycle r outcome = r := by simp [cycle,dequeue,Redis.blpop,head]
    have none' : sent r outcome = [] := by cases outcome <;> simp [sent,head]
    refine ⟨[],by rw [same,List.append_nil],?_⟩
    rw [same,none',entries,head]
    exact .idle
  | cons id rest =>
    have distinct := valid.nodup
    rw [head,List.nodup_cons] at distinct
    have listed : entries r = (id,triesLeft (r.cmd id))::rest.map fun other => (other,triesLeft (r.cmd other)) := by
      rw [entries,head,List.map_cons]
    have others : ∀ {after : Redis}, (∀ other, other ≠ id → after.cmd other = r.cmd other) →
        (rest.map fun other => (other,triesLeft (after.cmd other))) = rest.map fun other => (other,triesLeft (r.cmd other)) :=
      fun kept => entries_congr rest fun other member => kept other fun same => distinct.1 (same ▸ member)
    have cycled := cycle_cycled outcome valid head
    revert cycled
    generalize cycle r outcome = after
    intro cycled
    rw [listed]
    cases cycled with
    | sent pending dead kept =>
      refine ⟨[],by rw [dead,List.append_nil],?_⟩
      rw [entries,pending,others kept,sent,head]
      exact .leaves
    | dead pending named dead kept =>
      refine ⟨[_],dead,?_⟩
      rw [entries,pending,others kept,sent,List.nil_append,List.map_singleton,named]
      exact .leaves
    | requeued pending dead kept held again bound =>
      refine ⟨[],by rw [dead,List.append_nil],?_⟩
      rw [entries,pending,List.map_append,others kept,List.map_singleton,sent,triesLeft_stored held,triesLeft_stored again]
      exact .again (by omega)

-- Nothing is enqueued, but time may pass.
theorem quiet_turns (ops : List Op) (valid : Consistent s.redis.pending s.redis.cmd s.redis.coalesce s.issued)
    (quiet : ∀ op ∈ ops, Op.enqueues op = false) (unexpired : Along Serial.step (fun s op _ => s.Unexpired op) s ops)
    (ran : exec Serial.step s ops = some last) :
    ∃ (letters : List DeadLetter) (out : List CmdId), last.redis.dead = s.redis.dead ++ letters ∧
      out.Perm (deliveries s ops ++ letters.map (·.command.id)) ∧
      Turns (cycles ops) (entries s.redis) (entries last.redis) out ∧
      Consistent last.redis.pending last.redis.cmd last.redis.coalesce last.issued := by
  induction ops generalizing s with
  | nil =>
    cases ran
    exact ⟨[],[],(List.append_nil _).symm,.refl _,.refl (entries_charged valid),valid⟩
  | cons op ops ih =>
    obtain ⟨next,first,ran⟩ := Option.bind_eq_some_iff.mp ran
    obtain ⟨met,along⟩ := unexpired next first
    have kept := Serial.step_consistent valid met first
    obtain ⟨letters,out,dead,perm,turns,consistent⟩ :=
      ih kept (fun op member => quiet op (List.mem_cons_of_mem _ member)) along ran
    cases op with
    | enqueue =>
      have never := quiet _ List.mem_cons_self
      cases never
    | wait now =>
      cases first
      have same : s.redis.advance now = {s.redis with clock := now} := met
      have view : entries (s.redis.advance now) = entries s.redis := by
        rw [same]
        rfl
      have buried : (s.redis.advance now).dead = s.redis.dead := rfl
      dsimp only at turns dead
      rw [view] at turns
      rw [buried] at dead
      exact ⟨letters,out,dead,perm,turns,consistent⟩
    | cycle outcome =>
      cases first
      obtain ⟨earlier,added,turn⟩ := cycle_turn outcome valid
      dsimp only at dead turns
      refine ⟨earlier ++ letters,sent s.redis outcome ++ earlier.map (·.command.id) ++ out,?_,?_,
        .turn (entries_charged valid) turn turns,consistent⟩
      · rw [dead,added,List.append_assoc]
      · show (_ ++ _ ++ out).Perm (sent s.redis outcome ++ deliveries _ ops ++ _)
        rw [List.map_append,List.append_assoc,List.append_assoc]
        refine List.Perm.append_left _ ((perm.append_left _).trans ?_)
        rw [←List.append_assoc,←List.append_assoc]
        exact List.Perm.append_right _ List.perm_append_comm

-- The attempts of what is pending are counted from zero.
def Counted (r : Redis) : Prop := ∀ id ∈ r.pending, ∃ n : Int, 0 ≤ n ∧ r.cmd id .attempts = some (toString n)

theorem removeExisting_kept {device : DeviceEui} (member : id ∈ (removeExisting r device).pending) :
    id ∈ r.pending ∧ (removeExisting r device).cmd id = r.cmd id := by
  unfold removeExisting at member ⊢
  cases key : r.coalesce device with
  | none =>
    rw [key] at member
    exact ⟨member,rfl⟩
  | some existing =>
    rw [key] at member
    dsimp only at member ⊢
    split
    · rename_i empty
      rw [if_pos empty] at member
      exact ⟨member,rfl⟩
    · rename_i named
      rw [if_neg named] at member
      obtain ⟨waiting,other⟩ := List.mem_filter.mp member
      exact ⟨waiting,Function.update_of_ne (by simpa using other) _ _⟩

theorem enqueue_counted (counted : Counted r) (unheld : uuid ∉ r.pending) (ran : enqueue r a uuid = (after,answer)) :
    Counted after := by
  unfold enqueue at ran
  split at ran
  · cases ran
    exact counted
  · cases ran
    intro id member
    simp only [Redis.setCoalesce,Redis.incr_pending,Redis.rpush,Redis.expire_pending,Redis.hset,List.mem_append,
      List.mem_singleton] at member
    simp only [Redis.setCoalesce,Redis.incr_cmd,Redis.rpush,Redis.expire_cmd,Redis.hset]
    rcases member with old | rfl
    · obtain ⟨waiting,same⟩ := removeExisting_kept old
      have different : id ≠ uuid := fun equal => unheld (equal ▸ waiting)
      rw [Function.update_of_ne different,same]
      exact counted id waiting
    · rw [Function.update_self]
      exact ⟨0,Int.le_refl _,rfl⟩

theorem cycle_counted (counted : Counted r) (valid : Consistent r.pending r.cmd r.coalesce issued) :
    Counted (cycle r outcome) := by
  cases head : r.pending with
  | nil =>
    have same : cycle r outcome = r := by simp [cycle,dequeue,Redis.blpop,head]
    rw [same]
    exact counted
  | cons id rest =>
    have distinct := valid.nodup
    rw [head,List.nodup_cons] at distinct
    have others : ∀ {after : Redis}, (∀ other, other ≠ id → after.cmd other = r.cmd other) → ∀ other ∈ rest,
        ∃ n : Int, 0 ≤ n ∧ after.cmd other .attempts = some (toString n) := by
      intro after kept other member
      rw [kept other fun same => distinct.1 (same ▸ member)]
      exact counted other (by rw [head]; exact List.mem_cons_of_mem _ member)
    have cycled := cycle_cycled outcome valid head
    revert cycled
    generalize cycle r outcome = after
    intro cycled
    unfold Counted
    cases cycled with
    | sent pending dead kept =>
      rw [pending]
      exact others kept
    | dead pending named dead kept =>
      rw [pending]
      exact others kept
    | requeued pending dead kept held again bound =>
      rw [pending]
      intro other member
      rcases List.mem_append.mp member with old | new
      · exact others kept other old
      · cases List.mem_singleton.mp new
        obtain ⟨m,positive,stored⟩ := counted id (by rw [head]; exact List.mem_cons_self)
        have equal := Decimal.toString_inj (Option.some.inj (stored.symm.trans held))
        exact ⟨_,by omega,again⟩

theorem reached_counted (path : Reached Serial.step Serial.Unexpired .empty s) : Counted s.redis := by
  refine path.invariantUnder (fun s => Consistent s.redis.pending s.redis.cmd s.redis.coalesce s.issued)
    (fun s => Counted s.redis) serial_consistent (fun _ member => absurd member List.not_mem_nil) ?_
  intro s op next valid counted met ran
  cases op with
  | enqueue a uuid =>
    simp only [Serial.step] at ran
    split at ran
    · rename_i guard
      have unheld := valid.unissued (show s.issued uuid = none by simpa using guard.2)
      split at ran
      · rename_i called
        cases ran
        exact enqueue_counted counted unheld called
      · rename_i called
        cases ran
        exact enqueue_counted counted unheld called
    · cases ran
  | cycle outcome =>
    cases ran
    exact cycle_counted counted valid
  | wait now =>
    cases ran
    have same : s.redis.advance now = {s.redis with clock := now} := met
    rw [same]
    exact counted

-- From any state of serial use, five worker cycles for each pending command
-- empty the queue, whatever becomes of the sends: each command has been sent
-- once or is dead once, and nothing of it is left.
theorem serial_drains (path : Reached Serial.step Serial.Unexpired .empty s) (ops : List Op)
    (quiet : ∀ op ∈ ops, Op.enqueues op = false) (unexpired : Along Serial.step (fun s op _ => s.Unexpired op) s ops)
    (ran : exec Serial.step s ops = some last) (enough : 5*s.redis.pending.length ≤ cycles ops) :
    last.redis.pending = [] ∧ (∀ id, last.redis.cmd id = .absent) ∧ (∀ device, last.redis.coalesce device = none) ∧
      ∃ letters : List DeadLetter, last.redis.dead = s.redis.dead ++ letters ∧
        (deliveries s ops ++ letters.map (·.command.id)).Perm s.redis.pending := by
  obtain ⟨letters,out,dead,perm,turns,consistent⟩ := quiet_turns ops (serial_consistent path) quiet unexpired ran
  have bounded : total (entries s.redis) ≤ 5*s.redis.pending.length := by
    have each : ∀ entry ∈ entries s.redis, entry.2 ≤ 5 := by
      intro entry member
      obtain ⟨id,waiting,rfl⟩ := List.mem_map.mp member
      obtain ⟨n,positive,held⟩ := reached_counted path id waiting
      rw [triesLeft_stored held,maxAttempts]
      omega
    simpa [entries] using total_bound _ each
  have tries := Nat.le_trans bounded enough
  have emptied : last.redis.pending = [] := List.map_eq_nil_iff.mp (turns.empties tries)
  refine ⟨emptied,?_,?_,letters,dead,?_⟩
  · exact fun id => consistent.absent id (by simp [emptied])
  · intro device
    cases key : last.redis.coalesce device with
    | none => rfl
    | some id =>
      have waiting := ((consistent.tracked device id).mp key).1
      rw [emptied] at waiting
      exact absurd waiting List.not_mem_nil
  · have drained := turns.drains tries
    rw [entries,List.map_map] at drained
    exact perm.symm.trans (by simpa [Function.comp_def] using drained)

def outage : List Op :=
  [.cycle .success] ++ List.replicate 9 (.cycle (.failure "timeout" true))

theorem outage_drains : ∃ (s last : Serial) (letters : List DeadLetter), s.redis.pending = ["c","b"] ∧
    exec Serial.step s outage = some last ∧ last.redis.pending = [] ∧
    (deliveries s outage ++ letters.map (·.command.id)).Perm ["c","b"] := by
  have start : Reached Serial.step Serial.Unexpired .empty .empty := .refl
  obtain ⟨s,path,pending⟩ := start.found (fun _ => Op.instant) (fun s => s.redis.pending = ["c","b"]) serialSample
    (fun _ test => Op.instant_unexpired test) (by decide +kernel)
  have free : Along Serial.step (fun s op _ => s.Unexpired op) s outage :=
    along_tested (fun instant => Op.instant_unexpired instant) outage
      (show tested Serial.step (fun _ => Op.instant) s outage = true from rfl)
  obtain ⟨last,ran⟩ : ∃ last, exec Serial.step s outage = some last := ⟨_,rfl⟩
  have quiet : ∀ op ∈ outage, Op.enqueues op = false := by decide
  obtain ⟨emptied,_,_,letters,_,drained⟩ := serial_drains path outage quiet free ran (by rw [pending]; decide)
  exact ⟨s,last,letters,pending,ran,emptied,pending ▸ drained⟩

end SmartParking.Downlink.Drain
