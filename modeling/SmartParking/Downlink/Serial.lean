import SmartParking.Lib.Lists
import SmartParking.Lib.Runs
import SmartParking.Downlink.Queue

namespace SmartParking.Downlink
open Lib

-- One operation at a time: enqueue calls and complete worker cycles, with time
-- passing between them.
inductive Outcome where
  | success
  | failure (error : String) (requeue : Bool)

inductive Op where
  | enqueue (a : EnqueueArgs) (uuid : CmdId)
  | cycle (outcome : Outcome)
  | wait (now : Time)

structure Serial where
  redis : Redis
  issued : CmdId → Option EnqueueArgs

def Serial.empty : Serial := ⟨.empty,fun _ => none⟩

def finishCycle (r : Redis) (cmd : DownlinkCommand) : Outcome → Redis
  | .success => markSuccess r cmd
  | .failure error requeue => markFailure r cmd error requeue

def cycle (r : Redis) (outcome : Outcome) : Redis :=
  match dequeue r with
  | (r,.command cmd) => finishCycle r cmd outcome
  | (r,_) => r

def Serial.step (s : Serial) : Op → Option Serial
  | .enqueue a uuid =>
    if uuid ≠ "" ∧ (s.issued uuid).isNone then
      match enqueue s.redis a uuid with
      | (r,none) => some ⟨r,s.issued⟩
      | (r,some id) => some ⟨r,Function.update s.issued id (some a)⟩
    else none
  | .cycle outcome => some ⟨cycle s.redis outcome,s.issued⟩
  | .wait now => some ⟨s.redis.advance now,s.issued⟩

def Serial.Unexpired (s : Serial) : Op → Prop
  | .wait now => s.redis.NoneExpires now
  | _ => True

-- A stored command holds what its call gave it and has attempts left.
structure Stored (h : CmdHash) (id : CmdId) (a : EnqueueArgs) : Prop extends Genuine h id a where
  readable : Readable h
  attempts : ∃ n : Int, h .attempts = some (toString n) ∧ n < maxAttempts

-- The four structures agree: pending ids, stored hashes and coalesce keys.
structure Consistent (pending : List CmdId) (cmd : CmdId → CmdHash) (coalesce : DeviceEui → Option CmdId)
    (issued : CmdId → Option EnqueueArgs) : Prop where
  nodup : pending.Nodup
  named : issued "" = none
  stored : ∀ id ∈ pending, ∃ a, issued id = some a ∧ Stored (cmd id) id a
  absent : ∀ id, id ∉ pending → cmd id = .absent
  tracked : ∀ device id, coalesce device = some id ↔ id ∈ pending ∧ cmd id .deviceEui = some device

variable {pending : List CmdId} {cmd : CmdId → CmdHash} {coalesce : DeviceEui → Option CmdId}
  {issued : CmdId → Option EnqueueArgs} {id : CmdId} {device : DeviceEui} {h : CmdHash} {a : EnqueueArgs}

theorem Consistent.unissued (valid : Consistent pending cmd coalesce issued) (fresh : issued id = none) :
    id ∉ pending := by
  intro member
  obtain ⟨_,found,_⟩ := valid.stored id member
  rw [fresh] at found
  cases found

-- One command leaves: its id, its hash and its coalesce key go together.
theorem Consistent.remove (valid : Consistent pending cmd coalesce issued) (member : id ∈ pending)
    (of : cmd id .deviceEui = some device) (left : List CmdId) (distinct : left.Nodup)
    (remaining : ∀ other, other ∈ left ↔ other ∈ pending ∧ other ≠ id) :
    Consistent left (Function.update cmd id .absent) (Function.update coalesce device none) issued := by
  refine ⟨distinct,valid.named,?_,?_,?_⟩
  · intro other kept
    obtain ⟨old,different⟩ := (remaining other).mp kept
    simpa [different] using valid.stored other old
  · intro other gone
    by_cases same : other = id
    · simp [same]
    · have missing : other ∉ pending := fun old => gone ((remaining other).mpr ⟨old,same⟩)
      simpa [same] using valid.absent other missing
  · intro other key
    by_cases same : key = id
    · subst key
      have gone : id ∉ left := fun kept => ((remaining id).mp kept).2 rfl
      by_cases equal : other = device
      · simp [equal,gone]
      · have elsewhere : coalesce other ≠ some id := by
          intro found
          have stored := ((valid.tracked other id).mp found).2
          rw [of] at stored
          exact equal (Option.some.inj stored).symm
        simp [equal,gone,elsewhere]
    · by_cases equal : other = device
      · subst other
        have unique : coalesce device = some id := (valid.tracked device id).mpr ⟨member,of⟩
        have alone : ¬(key ∈ pending ∧ cmd key .deviceEui = some device) := by
          intro found
          have tracked := (valid.tracked device key).mpr found
          rw [unique] at tracked
          exact same (Option.some.inj tracked).symm
        simp only [Function.update_self,reduceCtorEq,false_iff,Function.update_of_ne same,not_and]
        intro kept stored
        exact alone ⟨((remaining key).mp kept).1,stored⟩
      · rw [Function.update_of_ne equal,Function.update_of_ne same,valid.tracked other key]
        constructor
        · rintro ⟨old,stored⟩
          exact ⟨(remaining key).mpr ⟨old,same⟩,stored⟩
        · rintro ⟨kept,stored⟩
          exact ⟨((remaining key).mp kept).1,stored⟩

theorem Consistent.add (valid : Consistent pending cmd coalesce issued) (named : id ≠ "")
    (fresh : issued id = none) (free : coalesce a.deviceEui = none) (stored : Stored h id a) :
    Consistent (pending ++ [id]) (Function.update cmd id h) (Function.update coalesce a.deviceEui (some id))
      (Function.update issued id (some a)) := by
  have missing := valid.unissued fresh
  refine ⟨?_,?_,?_,?_,?_⟩
  · exact List.nodup_append.mpr ⟨valid.nodup,by simp,by
      intro other old another new
      rw [List.mem_singleton.mp new]
      rintro rfl
      exact missing old⟩
  · rw [Function.update_of_ne (Ne.symm named)]
    exact valid.named
  · intro other member
    rcases List.mem_append.mp member with old | new
    · have different : other ≠ id := fun equal => missing (equal ▸ old)
      simpa [different] using valid.stored other old
    · rw [List.mem_singleton.mp new]
      exact ⟨a,by simp,by simpa using stored⟩
  · intro other gone
    have parts : other ∉ pending ∧ other ≠ id := by simpa using gone
    simpa [parts.2] using valid.absent other parts.1
  · intro other key
    by_cases same : key = id
    · subst key
      by_cases equal : other = a.deviceEui
      · simp [equal,stored.deviceEui]
      · have elsewhere : coalesce other ≠ some id := fun found => missing ((valid.tracked other id).mp found).1
        simpa [equal,stored.deviceEui,elsewhere] using Ne.symm equal
    · by_cases equal : other = a.deviceEui
      · subst other
        have alone := valid.tracked a.deviceEui key
        rw [free] at alone
        simpa [same,Ne.symm same] using alone
      · simpa [same,equal] using valid.tracked other key

-- The command at the head goes to the tail with its retry fields rewritten.
theorem Consistent.requeue (valid : Consistent (id::pending) cmd coalesce issued)
    (stored : Stored h id a) (of : issued id = some a) :
    Consistent (pending ++ [id]) (Function.update cmd id h) coalesce issued := by
  have same : ∀ other, other ∈ pending ++ [id] ↔ other ∈ id::pending := by
    intro other
    simp [or_comm]
  have device : h .deviceEui = cmd id .deviceEui := by
    obtain ⟨b,issuedTo,old⟩ := valid.stored id List.mem_cons_self
    rw [of] at issuedTo
    cases Option.some.inj issuedTo
    rw [stored.deviceEui,old.deviceEui]
  refine ⟨?_,valid.named,?_,?_,?_⟩
  · exact (List.nodup_cons.mp valid.nodup).2.append (by simp) (by
      simpa using (List.nodup_cons.mp valid.nodup).1)
  · intro other member
    by_cases equal : other = id
    · subst other
      exact ⟨a,of,by simpa using stored⟩
    · simpa [equal] using valid.stored other ((same other).mp member)
  · intro other gone
    have old : other ∉ id::pending := fun member => gone ((same other).mpr member)
    have different : other ≠ id := fun equal => old (equal ▸ List.mem_cons_self)
    simpa [different] using valid.absent other old
  · intro other key
    rw [same,valid.tracked other key]
    by_cases equal : key = id
    · subst key
      simp [device]
    · simp [equal]

variable {r : Redis} {uuid : CmdId} {outcome : Outcome}

theorem stored_enqueued (h : CmdHash) (a : EnqueueArgs) (id : CmdId) (now : Time) :
    Stored (h.hset (a.command id now).mapping) id a :=
  ⟨genuine_enqueued h a id now,readable_enqueued h _,0,rfl,by decide⟩

theorem removeExisting_consistent (valid : Consistent r.pending r.cmd r.coalesce issued) (device : DeviceEui) :
    Consistent (removeExisting r device).pending (removeExisting r device).cmd
      (Function.update r.coalesce device none) issued ∧ (removeExisting r device).coalesce = r.coalesce := by
  unfold removeExisting
  cases key : r.coalesce device with
  | none =>
    refine ⟨?_,rfl⟩
    have unchanged : Function.update r.coalesce device none = r.coalesce := by
      rw [← key,Function.update_eq_self]
    simpa only [unchanged] using valid
  | some existing =>
    obtain ⟨member,of⟩ := (valid.tracked device existing).mp key
    have named : existing ≠ "" := by
      intro empty
      exact valid.unissued valid.named (empty ▸ member)
    simp only [named,if_false]
    refine ⟨?_,by rfl⟩
    exact valid.remove member of _ (valid.nodup.filter _) (by
      simp [Redis.deleteCmd,Redis.lrem])

theorem enqueue_consistent (valid : Consistent r.pending r.cmd r.coalesce issued) (named : uuid ≠ "")
    (fresh : issued uuid = none) (ran : enqueue r a uuid = (next,answer)) :
    Consistent next.pending next.cmd next.coalesce
      (answer.elim issued fun id => Function.update issued id (some a)) := by
  unfold enqueue at ran
  split at ran
  · cases ran
    exact valid
  · cases ran
    obtain ⟨removed,kept⟩ := removeExisting_consistent valid a.deviceEui
    have added := removed.add named fresh (by simp)
      (stored_enqueued ((removeExisting r a.deviceEui).cmd uuid) a uuid (removeExisting r a.deviceEui).clock)
    simpa [Redis.setCoalesce,Redis.rpush,Redis.hset,kept] using added

theorem dequeue_command (valid : Consistent r.pending r.cmd r.coalesce issued) (head : r.pending = id::pending) :
    ∃ cmd a n, dequeue r = ({r with pending := pending},.command cmd) ∧ issued id = some a ∧ Stored (r.cmd id) id a ∧
      cmd.id = id ∧ Carries cmd a ∧ cmd.attempts = n ∧ n < maxAttempts := by
  obtain ⟨a,of,stored⟩ := valid.stored id (by rw [head]; exact List.mem_cons_self)
  obtain ⟨cmd,decoded⟩ := stored.readable.decode id r.clock
  obtain ⟨same,carries⟩ := stored.toGenuine.decode decoded
  obtain ⟨n,attempts,bound⟩ := stored.attempts
  have count : cmd.attempts = n := by
    have parsed := (decode_parts decoded).2.2.2.2.2.2.2.2
    rw [attempts] at parsed
    simpa using parsed.symm
  refine ⟨cmd,a,n,?_,of,stored,same,carries,count,bound⟩
  simp [dequeue,Redis.blpop,head,deserialize,stored.toGenuine.present,decoded]

theorem Stored.retry (stored : Stored h id a) {cmd : DownlinkCommand} (bound : cmd.attempts < maxAttempts) :
    Stored (h.hset cmd.retryMapping) id a :=
  ⟨stored.toGenuine.retry cmd,stored.readable.retry cmd,cmd.attempts,rfl,bound⟩

theorem cycle_consistent (valid : Consistent r.pending r.cmd r.coalesce issued) :
    Consistent (cycle r outcome).pending (cycle r outcome).cmd (cycle r outcome).coalesce issued := by
  cases queue : r.pending with
  | nil => simpa [cycle,dequeue,Redis.blpop,queue] using valid
  | cons id rest =>
    obtain ⟨cmd,a,n,popped,of,stored,same,carries,count,bound⟩ := dequeue_command valid queue
    have member : id ∈ r.pending := by rw [queue]; exact List.mem_cons_self
    have distinct := valid.nodup
    rw [queue,List.nodup_cons] at distinct
    have removed := valid.remove member stored.deviceEui rest distinct.2 (by
      intro other
      rw [queue,List.mem_cons]
      constructor
      · intro kept
        exact ⟨.inr kept,fun equal => distinct.1 (equal ▸ kept)⟩
      · rintro ⟨equal | kept,different⟩
        · exact absurd equal different
        · exact kept)
    cases outcome with
    | success =>
      simpa [cycle,popped,finishCycle,same,carries.deviceEui] using removed
    | failure error requeue =>
      simp only [cycle,popped,finishCycle,markFailure]
      split
      · simpa [DownlinkCommand.failed,same,carries.deviceEui] using removed
      · rename_i retried
        have attemptsLeft : (cmd.failed error r.clock).attempts < maxAttempts := by
          have both : ¬(maxAttempts ≤ (cmd.failed error r.clock).attempts) ∧ requeue = true := by
            simpa [gaveUp] using retried
          exact Int.not_le.mp both.1
        rw [queue] at valid
        have requeued := valid.requeue (stored.retry attemptsLeft) of
        simpa [Redis.rpush,Redis.hset,DownlinkCommand.failed,same] using requeued

theorem Serial.step_consistent {s next : Serial}
    (valid : Consistent s.redis.pending s.redis.cmd s.redis.coalesce s.issued)
    (unexpired : s.Unexpired op) (ran : s.step op = some next) :
    Consistent next.redis.pending next.redis.cmd next.redis.coalesce next.issued := by
  cases op with
  | enqueue a uuid =>
    simp only [Serial.step] at ran
    split at ran
    · rename_i guard
      have fresh : s.issued uuid = none := by simpa using guard.2
      split at ran
      · rename_i called
        cases ran
        simpa using enqueue_consistent valid guard.1 fresh called
      · rename_i called
        cases ran
        simpa using enqueue_consistent valid guard.1 fresh called
    · cases ran
  | cycle outcome =>
    cases ran
    exact cycle_consistent valid
  | wait now =>
    cases ran
    have same : s.redis.advance now = {s.redis with clock := now} := unexpired
    simpa only [same] using valid

theorem Consistent.empty : Consistent [] (fun _ => .absent) (fun _ => none) (fun _ => none) := by
  refine ⟨.nil,rfl,?_,?_,?_⟩ <;> simp

-- The representation invariant of serial use, in terms of the keys alone.
structure Represents (s : Serial) : Prop where
  distinct : s.redis.pending.Nodup
  onePerDevice : ∀ device, (s.redis.pending.filter (fun id => s.redis.cmd id .deviceEui = some device)).length ≤ 1
  hashes : ∀ id, (s.redis.cmd id).present = true ↔ id ∈ s.redis.pending
  fields : ∀ id ∈ s.redis.pending, ∃ a, s.issued id = some a ∧ Genuine (s.redis.cmd id) id a ∧
    ∃ n : Int, s.redis.cmd id .attempts = some (toString n) ∧ n < maxAttempts
  tracked : ∀ device id, s.redis.coalesce device = some id ↔
    id ∈ s.redis.pending ∧ s.redis.cmd id .deviceEui = some device

theorem represents_of_consistent {s : Serial}
    (valid : Consistent s.redis.pending s.redis.cmd s.redis.coalesce s.issued) : Represents s := by
  refine ⟨valid.nodup,?_,?_,?_,valid.tracked⟩
  · intro device
    apply Lists.filter_length_le_one valid.nodup
    intro one oneIn other otherIn oneOf otherOf
    have first := (valid.tracked device one).mpr ⟨oneIn,by simpa using oneOf⟩
    have second := (valid.tracked device other).mpr ⟨otherIn,by simpa using otherOf⟩
    rw [first] at second
    exact Option.some.inj second
  · intro id
    constructor
    · intro present
      by_contra missing
      rw [valid.absent id missing] at present
      cases present
    · intro member
      obtain ⟨a,_,stored⟩ := valid.stored id member
      exact stored.toGenuine.present
  · intro id member
    obtain ⟨a,of,stored⟩ := valid.stored id member
    exact ⟨a,of,stored.toGenuine,stored.attempts⟩

theorem serial_consistent {s : Serial} (path : Runs.Reached Serial.step Serial.Unexpired .empty s) :
    Consistent s.redis.pending s.redis.cmd s.redis.coalesce s.issued :=
  path.invariant (fun s => Consistent s.redis.pending s.redis.cmd s.redis.coalesce s.issued) Consistent.empty
    Serial.step_consistent

theorem serial_representation {s : Serial} (path : Runs.Reached Serial.step Serial.Unexpired .empty s) :
    Represents s := by
  have valid := serial_consistent path
  exact represents_of_consistent valid

def serialSample : List Op :=
  [.enqueue {deviceEui := "d1",payload := "FF0000",fport := 15,tenantId := "t"} "a",
   .enqueue {deviceEui := "d2",payload := "00FF00",fport := 15,tenantId := "t"} "b",
   .enqueue {deviceEui := "d1",payload := "0000FF",fport := 15,tenantId := "t"} "c",
   .cycle (.failure "timeout" true)]

def Op.instant : Op → Bool
  | .wait _ => false
  | _ => true

theorem Op.instant_unexpired {s : Serial} {op : Op} (instant : op.instant = true) : s.Unexpired op := by
  cases op with
  | wait now => cases instant
  | _ => trivial

theorem serial_representation_sample : ∃ s : Serial, s.redis.pending = ["c","b"] ∧ Represents s := by
  have start : Runs.Reached Serial.step Serial.Unexpired .empty .empty := .refl
  obtain ⟨s,path,pending⟩ := start.found (fun _ => Op.instant) (fun s => s.redis.pending = ["c","b"]) serialSample
    (fun _ test => Op.instant_unexpired test) (by decide +kernel)
  exact ⟨s,pending,serial_representation path⟩

end SmartParking.Downlink
