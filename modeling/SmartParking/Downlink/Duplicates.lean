import SmartParking.Downlink.LastWriter

namespace SmartParking.Downlink.Duplicates
open Lib

-- A write of `mark_success` to `dl:last_hash`.
structure Success where
  written : Time
  cmd : DownlinkCommand

-- The moment at which a call has read the key, and the writes before it, newest
-- first.
structure Read where
  now : Time
  successes : List Success

structure Answer where
  args : EnqueueArgs
  result : Option CmdId
  read : Read

-- The machine beside a record of the writes, the reads and the returned calls.
-- No step reads the record.
structure Watched where
  state : State
  successes : List Success
  reads : Nat → Read
  answers : List Answer

def Watched.initial : Watched := ⟨.initial,[],fun _ => ⟨0,[]⟩,[]⟩

def marking (s : State) : Action → Option DownlinkCommand
  | .work w _ =>
    match s.workers w with
    | .setLastHash cmd => some cmd
    | _ => none
  | _ => none

def isReading : EnqueuePc → Bool
  | .getLastHash _ => true
  | _ => false

def reading (s : State) : Action → Option Nat
  | .produce p _ => if isReading (s.producers p) then some p else none
  | _ => none

def answering (s : State) : Action → Option (Nat × EnqueueArgs × Option CmdId)
  | .produce p _ =>
    match s.producers p with
    | .incrDeduplicated a => some (p,a,none)
    | .incrEnqueued a id => some (p,a,some id)
    | _ => none
  | _ => none

def Watched.record (t : Watched) (action : Action) (next : State) : Watched where
  state := next
  successes := (marking t.state action).elim t.successes fun cmd => ⟨t.state.redis.clock,cmd⟩::t.successes
  reads := (reading t.state action).elim t.reads fun p => Function.update t.reads p ⟨t.state.redis.clock,t.successes⟩
  answers := (answering t.state action).elim t.answers fun (p,a,result) => ⟨a,result,t.reads p⟩::t.answers

def Watched.step (t : Watched) (action : Action) : Option Watched := (Downlink.step t.state action).map (t.record action)

def lastSuccess (successes : List Success) (device : DeviceEui) : Option Success :=
  successes.find? (·.cmd.deviceEui == device)

-- The most recent write for the device is less than an hour old and was for a
-- command enqueued with the same device, payload and port.
def Repeats (events : List Event) (read : Read) (a : EnqueueArgs) : Prop :=
  ∃ success b, lastSuccess read.successes a.deviceEui = some success ∧ read.now-success.written < lastHashTtl ∧
    createdBy events success.cmd.id = some b ∧ b.deviceEui = a.deviceEui ∧ b.payload = a.payload ∧ b.fport = a.fport

-- The same in terms of the digests.
def Matches (read : Read) (a : EnqueueArgs) : Prop :=
  ∃ success, lastSuccess read.successes a.deviceEui = some success ∧ read.now-success.written < lastHashTtl ∧
    success.cmd.contentHash = a.contentHash

-- The string that is hashed.
def hashed (a : EnqueueArgs) : String := a.deviceEui ++ ":" ++ a.payload ++ ":" ++ toString a.fport

def Collisionless (events : List Event) : Prop := ∀ a b, .called a ∈ events → .called b ∈ events →
  a.contentHash = b.contentHash → hashed a = hashed b

variable {s next : State} {t later : Watched} {action : Action} {a b : EnqueueArgs} {device : DeviceEui} {read : Read}
  {events : List Event} {success : Success} {p : Nat} {pc : EnqueuePc} {answer : Answer}

theorem contentHash_hashed (a : EnqueueArgs) : a.contentHash = String.ofList ((Sha256.hexdigest (hashed a)).take 16) := rfl

theorem hashed_inj (device : a.deviceEui = b.deviceEui) : hashed a = hashed b ↔ a.payload = b.payload ∧ a.fport = b.fport := by
  have clear : ∀ n : Int, ':' ∉ (toString n).toList := by
    intro n member
    rcases Decimal.mem_toString member with digit | minus
    · exact absurd digit (by decide)
    · exact absurd minus (by decide)
  constructor
  · intro same
    unfold hashed at same
    rw [device] at same
    have letters := congrArg String.toList same
    simp only [String.toList_append,List.append_assoc] at letters
    have tails := List.append_cancel_left (List.append_cancel_left letters)
    obtain ⟨payload,port⟩ := Lists.separated_inj (clear a.fport) (clear b.fport) tails
    exact ⟨String.toList_inj.mp payload,Decimal.toString_inj (String.toList_inj.mp port)⟩
  · rintro ⟨payload,fport⟩
    unfold hashed
    rw [device,payload,fport]

-- What a step does to the keys `dl:last_hash:*`.
inductive HashChange (s : State) (action : Action) (next : State) : Prop where
  | same : marking s action = none → next.redis.lastHash = s.redis.lastHash →
      next.redis.lastHashDeadline = s.redis.lastHashDeadline → next.redis.clock = s.redis.clock → HashChange s action next
  | marked (cmd : DownlinkCommand) : marking s action = some cmd →
      next.redis = s.redis.setLastHash cmd.deviceEui cmd.contentHash → HashChange s action next
  | ticked (now : Time) : marking s action = none → s.redis.clock ≤ now → next.redis = s.redis.advance now →
      HashChange s action next

theorem unsent_marking {w : Nat} {reply : Reply} {cmd : DownlinkCommand} (unsent : (s.workers w).unsent = some cmd) :
    marking s (.work w reply) = none := by
  simp only [marking]
  split
  · rename_i before
    rw [before] at unsent
    cases unsent
  · rfl

theorem step_hash (stepped : Stepped s action next) : HashChange s action next := by
  cases stepped with
  | produce p uuid _ produced =>
    cases produced with
    | expire => exact .same rfl (Redis.expire_lastHash _ _) (Redis.expire_lastHashDeadline _ _) (Redis.expire_clock _ _)
    | _ => exact .same rfl rfl rfl rfl
  | work w reply before worked =>
    cases worked with
    | setLastHash => exact .marked _ (by simp only [marking,before]) rfl
    | processed unsent _ | failed unsent _ => exact .same (unsent_marking (by rw [before,unsent])) rfl rfl rfl
    | _ => exact .same (by simp only [marking,before]) rfl rfl rfl
  | tick now order => exact .ticked now rfl order rfl
  | _ => exact .same rfl rfl rfl rfl

-- The key of a device has the digest of the last write, as long as that is less
-- than an hour old.
structure Stored (r : Redis) (successes : List Success) : Prop where
  lastHash : ∀ device, r.lastHash device = (lastSuccess successes device).bind fun success =>
    if r.clock-success.written < lastHashTtl then some success.cmd.contentHash else none
  deadline : ∀ device, ∀ success ∈ lastSuccess successes device, r.lastHashDeadline device = success.written+lastHashTtl

theorem lastSuccess_other {cmd : DownlinkCommand} (time : Time) (successes : List Success) (other : cmd.deviceEui ≠ device) :
    lastSuccess (⟨time,cmd⟩::successes) device = lastSuccess successes device := by
  simp [lastSuccess,other]

theorem stored_marked {r : Redis} {successes : List Success} (stored : Stored r successes) (cmd : DownlinkCommand) :
    Stored (r.setLastHash cmd.deviceEui cmd.contentHash) (⟨r.clock,cmd⟩::successes) := by
  constructor
  · intro device
    by_cases same : cmd.deviceEui = device
    · subst same
      simp [Redis.setLastHash,lastSuccess,lastHashTtl]
    · rw [lastSuccess_other r.clock successes same]
      exact (Function.update_of_ne (Ne.symm same) _ _).trans (stored.lastHash device)
  · intro device success last
    by_cases same : cmd.deviceEui = device
    · subst same
      have newest : success = ⟨r.clock,cmd⟩ := by simpa [lastSuccess,eq_comm] using last
      simp [Redis.setLastHash,newest]
    · rw [lastSuccess_other r.clock successes same] at last
      exact (Function.update_of_ne (Ne.symm same) _ _).trans (stored.deadline device success last)

theorem stored_ticked {r : Redis} {successes : List Success} {now : Time} (stored : Stored r successes) (order : r.clock ≤ now) :
    Stored (r.advance now) successes := by
  refine ⟨fun device => ?_,stored.deadline⟩
  have before := stored.lastHash device
  have passed : (r.advance now).lastHash device = if r.lastHashDeadline device ≤ now then none else r.lastHash device := rfl
  have clock : (r.advance now).clock = now := rfl
  rw [passed,clock]
  cases last : lastSuccess successes device with
  | none =>
    rw [last] at before
    simp only [before,Option.bind_none,ite_self]
  | some success =>
    rw [last,Option.bind_some] at before
    rw [stored.deadline device success last,before,Option.bind_some]
    by_cases gone : success.written+lastHashTtl ≤ now
    · have expired : ¬now-success.written < lastHashTtl := fun young =>
        Int.not_lt.mpr gone (Int.lt_add_of_sub_left_lt young)
      rw [if_pos gone,if_neg expired]
    · have young : now-success.written < lastHashTtl := Int.sub_left_lt_of_lt_add (Int.not_le.mp gone)
      have younger : r.clock-success.written < lastHashTtl := Int.lt_of_le_of_lt (Int.sub_le_sub_right order _) young
      rw [if_neg gone,if_pos young,if_pos younger]

theorem marking_command {cmd : DownlinkCommand} (marked : marking s action = some cmd) : ∃ w, (s.workers w).command = some cmd := by
  cases action with
  | work w reply =>
    simp only [marking] at marked
    split at marked
    · rename_i before
      exact ⟨w,by rw [before]; exact marked⟩
    · cases marked
  | _ => cases marked

theorem stored_matches {r : Redis} {successes : List Success} (stored : Stored r successes) (a : EnqueueArgs) :
    r.lastHash a.deviceEui = some a.contentHash ↔ Matches ⟨r.clock,successes⟩ a := by
  rw [stored.lastHash a.deviceEui]
  unfold Matches
  cases lastSuccess successes a.deviceEui with
  | none => simp
  | some success => simp [Option.ite_none_right_eq_some]

theorem step_stored (stored : Stored t.state.redis t.successes) (stepped : Stepped t.state action next) :
    Stored next.redis (t.record action next).successes := by
  unfold Watched.record
  cases step_hash stepped with
  | same unmarked hashes deadlines clock =>
    rw [unmarked]
    refine ⟨fun device => ?_,fun device => ?_⟩
    · rw [hashes,clock]
      exact stored.lastHash device
    · rw [deadlines]
      exact stored.deadline device
  | marked cmd marking redis =>
    rw [marking,redis]
    exact stored_marked stored cmd
  | ticked now unmarked order redis =>
    rw [unmarked,redis]
    exact stored_ticked stored order

def Genuinely (events : List Event) (successes : List Success) : Prop := ∀ success ∈ successes, Authentic events success.cmd

theorem genuinely_kept {successes : List Success} (authentic : Genuinely s.events successes) (stepped : Stepped s action next) :
    Genuinely next.events successes := by
  intro success listed
  exact (authentic success listed).imp_left fun ⟨b,created,carries⟩ => ⟨b,step_keeps_created stepped created,carries⟩

theorem genuinely_marked (authentic : Genuinely t.state.events t.successes) (carried : Carried t.state)
    (stepped : Stepped t.state action next) : Genuinely next.events (t.record action next).successes := by
  have kept := genuinely_kept authentic stepped
  unfold Watched.record
  cases step_hash stepped with
  | same unmarked | ticked _ unmarked =>
    rw [unmarked]
    exact kept
  | marked cmd marking _ =>
    rw [marking]
    obtain ⟨w,command⟩ := marking_command marking
    have newest := (carried w cmd command).imp_left fun ⟨b,created,carries⟩ =>
      (⟨b,step_keeps_created stepped created,carries⟩ : ∃ b, createdBy next.events cmd.id = some b ∧ Carries cmd b)
    exact List.forall_mem_cons.mpr ⟨newest,kept⟩

-- What a call past its read knows: it is on the way to return None exactly if the
-- digests matched.
def Noted (read : Read) (a : EnqueueArgs) (pc : EnqueuePc) : Prop :=
  pc.args = some a → isReading pc = false → (pc = .incrDeduplicated a ↔ Matches read a)

theorem produced_noted {r after : Redis} {uuid : CmdId} {issued : Bool} {logged : List Event} {later : EnqueuePc}
    {successes : List Success} (produced : Produced r p uuid issued pc after logged later) (stored : Stored r successes)
    (noted : Noted read a pc) : Noted (if isReading pc then ⟨r.clock,successes⟩ else read) a later := by
  intro args _
  have same : pc.args = some a := produced_args produced args
  have unmatched : isReading pc = false → pc ≠ .incrDeduplicated a → later ≠ .incrDeduplicated a →
      (later = .incrDeduplicated a ↔ Matches (if isReading pc then ⟨r.clock,successes⟩ else read) a) := by
    intro past going unrepeated
    rw [past]
    exact iff_of_false unrepeated ((noted same past).not.mp going)
  cases produced with
  | duplicate found =>
    cases same
    exact iff_of_true rfl ((stored_matches stored a).mp found)
  | different other =>
    cases same
    exact iff_of_false nofun fun matched => other ((stored_matches stored a).mpr matched)
  | incrDeduplicated | incrEnqueued => cases args
  | _ => exact unmatched rfl nofun nofun

theorem reading_cases (t : Watched) (action : Action) (next : State) (p : Nat) :
    (t.record action next).reads p =
      if reading t.state action = some p then ⟨t.state.redis.clock,t.successes⟩ else t.reads p := by
  unfold Watched.record
  cases reading t.state action with
  | none => rfl
  | some q =>
    dsimp only [Option.elim_some]
    by_cases same : p = q
    · rw [same,Function.update_self,if_pos rfl]
    · rw [Function.update_of_ne same,if_neg (fun equal => same (Option.some.inj equal).symm)]

structure Recorded (t : Watched) : Prop where
  stored : Stored t.state.redis t.successes
  authentic : Genuinely t.state.events t.successes
  readers : ∀ p, Genuinely t.state.events (t.reads p).successes
  noted : ∀ p a, Noted (t.reads p) a (t.state.producers p)
  answered : ∀ answer ∈ t.answers, .called answer.args ∈ t.state.events ∧
    Genuinely t.state.events answer.read.successes ∧ (answer.result = none ↔ Matches answer.read answer.args)

theorem step_noted (recorded : Recorded t) (stepped : Stepped t.state action next) (p : Nat) (a : EnqueueArgs) :
    Noted ((t.record action next).reads p) a (next.producers p) := by
  have unmoved : reading t.state action ≠ some p → next.producers p = t.state.producers p →
      Noted ((t.record action next).reads p) a (next.producers p) := by
    intro other same
    rw [reading_cases,if_neg other,same]
    exact recorded.noted p a
  cases stepped with
  | call q b before =>
    by_cases same : p = q
    · subst same
      intro args past
      simp [State.put,isReading] at past
    · exact unmoved (fun equal => by cases equal) (by simp [State.put,same])
  | produce q uuid before produced =>
    by_cases same : p = q
    · subst same
      have noted := produced_noted produced recorded.stored (before ▸ recorded.noted p a)
      rw [reading_cases]
      simpa [reading,before,State.put] using noted
    · refine unmoved ?_ (by simp [State.put,same])
      simp only [reading]
      split
      · exact fun equal => same (Option.some.inj equal).symm
      · exact fun equal => by cases equal
  | _ => exact unmoved (fun equal => by cases equal) rfl

theorem answering_noted {result : Option CmdId} (found : answering s action = some (p,a,result)) :
    (s.producers p).args = some a ∧ isReading (s.producers p) = false ∧
      (result = none ↔ s.producers p = .incrDeduplicated a) := by
  cases action with
  | produce q uuid =>
    simp only [answering] at found
    split at found
    · rename_i before
      cases found
      rw [before]
      exact ⟨rfl,rfl,iff_of_true rfl rfl⟩
    · rename_i before
      cases found
      rw [before]
      exact ⟨rfl,rfl,iff_of_false nofun nofun⟩
    · cases found
  | _ => cases found

theorem step_answered (recorded : Recorded t) (called : Called t.state) (stepped : Stepped t.state action next) :
    ∀ answer ∈ (t.record action next).answers, .called answer.args ∈ next.events ∧
      Genuinely next.events answer.read.successes ∧ (answer.result = none ↔ Matches answer.read answer.args) := by
  have kept : ∀ answer ∈ t.answers, .called answer.args ∈ next.events ∧
      Genuinely next.events answer.read.successes ∧ (answer.result = none ↔ Matches answer.read answer.args) := by
    intro answer listed
    obtain ⟨known,authentic,exact'⟩ := recorded.answered answer listed
    exact ⟨step_keeps_events stepped known,genuinely_kept authentic stepped,exact'⟩
  unfold Watched.record
  cases found : answering t.state action with
  | none => exact kept
  | some answer =>
    obtain ⟨p,a,result⟩ := answer
    obtain ⟨args,past,repeated⟩ := answering_noted found
    refine List.forall_mem_cons.mpr ⟨⟨?_,?_,?_⟩,kept⟩
    · exact step_keeps_events stepped (called.calling p a args)
    · exact genuinely_kept (recorded.readers p) stepped
    · exact repeated.trans (recorded.noted p a args past)

theorem recorded_preserved (recorded : Recorded t) (carried : Carried t.state) (called : Called t.state)
    (stepped : Stepped t.state action next) : Recorded (t.record action next) where
  stored := step_stored recorded.stored stepped
  authentic := genuinely_marked recorded.authentic carried stepped
  readers := by
    intro p
    rw [reading_cases]
    split
    · exact genuinely_kept recorded.authentic stepped
    · exact genuinely_kept (recorded.readers p) stepped
  noted := step_noted recorded stepped
  answered := step_answered recorded called stepped

theorem initial_recorded : Recorded .initial where
  stored := ⟨fun _ => rfl,fun _ _ found => nomatch found⟩
  authentic := List.forall_mem_nil _
  readers := fun _ => List.forall_mem_nil _
  noted := fun _ _ args => nomatch args
  answered := List.forall_mem_nil _

-- The record is beside the machine, not in its way.
theorem watched_state (path : Runs.Reached Watched.step (fun _ _ => True) .initial t) :
    Runs.Reached step (fun _ _ => True) State.initial t.state := by
  refine path.project Watched.state fun {t action next} _ ran => .inr ⟨action,trivial,?_⟩
  obtain ⟨state,moved,rfl⟩ := Option.map_eq_some_iff.mp ran
  exact moved

theorem watched_recorded (path : Runs.Reached Watched.step (fun _ _ => True) .initial t) : Recorded t := by
  refine path.invariantUnder (fun t => Carried t.state ∧ Called t.state) Recorded
    (fun prior => ⟨reached_carried (watched_state prior),reached_called (watched_state prior)⟩) initial_recorded ?_
  intro t action next known recorded _ ran
  obtain ⟨state,moved,rfl⟩ := Option.map_eq_some_iff.mp ran
  exact recorded_preserved recorded known.1 known.2 (step_sound moved)

theorem matches_repeats (clear : Collisionless events) (named : a.deviceEui ≠ "") (called : .called a ∈ events)
    (known : ∀ id b, createdBy events id = some b → .called b ∈ events) (authentic : Genuinely events read.successes) :
    Matches read a ↔ Repeats events read a := by
  have made : ∀ success, lastSuccess read.successes a.deviceEui = some success →
      ∃ b, createdBy events success.cmd.id = some b ∧ b.deviceEui = a.deviceEui ∧ success.cmd.contentHash = b.contentHash := by
    intro success last
    have of : success.cmd.deviceEui = a.deviceEui := by simpa using List.find?_some last
    rcases authentic success (List.mem_of_find?_eq_some last) with ⟨b,created,carries⟩ | nowhere
    · exact ⟨b,created,carries.deviceEui.symm.trans of,carries.contentHash⟩
    · exact absurd (of.symm.trans nowhere) named
  constructor
  · rintro ⟨success,last,young,same⟩
    obtain ⟨b,created,of,hash⟩ := made success last
    have equal := clear b a (known _ b created) called (hash.symm.trans same)
    obtain ⟨payload,fport⟩ := (hashed_inj of).mp equal
    exact ⟨success,b,last,young,created,of,payload,fport⟩
  · rintro ⟨success,b,last,young,created,of,payload,fport⟩
    obtain ⟨c,also,_,hash⟩ := made success last
    cases created.symm.trans also
    refine ⟨success,last,young,?_⟩
    rw [hash,contentHash_hashed,contentHash_hashed,(hashed_inj of).mpr ⟨payload,fport⟩]

-- A call returns None exactly if, at its read, the last write for the device was
-- less than an hour old and for a command enqueued with the same content.
theorem deduplication_exact (path : Runs.Reached Watched.step (fun _ _ => True) .initial t)
    (clear : Collisionless t.state.events) :
    ∀ answer ∈ t.answers, answer.args.deviceEui ≠ "" →
      (answer.result = none ↔ Repeats t.state.events answer.read answer.args) := by
  intro answer listed named
  obtain ⟨called,authentic,returned⟩ := (watched_recorded path).answered answer listed
  have known := (reached_called (watched_state path)).created
  exact returned.trans (matches_repeats clear named called known authentic)

def callOf : Event → Option EnqueueArgs
  | .called a => some a
  | _ => none

-- The same call a millisecond before and at the end of the hour, with a call of
-- other content between the two.
def hour : List Action :=
  .start 0::calling 0 free "A" 7 ++ sending ++ .tick 3599999::calling 0 free "B" 2 ++ calling 0 occupied "B" 7 ++
    .tick 3600000::calling 0 free "C" 10

theorem deduplication_exact_hour : ∃ t : Watched, t.answers.map (·.result) = [some "C",some "B",none,some "A"] ∧
    ∀ answer ∈ t.answers, answer.args.deviceEui ≠ "" →
      (answer.result = none ↔ Repeats t.state.events answer.read answer.args) := by
  have start : Runs.Reached Watched.step (fun _ _ => True) .initial .initial := .refl
  obtain ⟨t,path,results,calls⟩ := start.found (fun _ _ => true)
    (fun t => t.answers.map (·.result) = [some "C",some "B",none,some "A"] ∧
      t.state.events.all (fun e => (callOf e).all fun a => a = free || a = occupied) = true) hour
    (fun _ _ => trivial) (by decide +kernel)
  have only : ∀ a, .called a ∈ t.state.events → a = free ∨ a = occupied := by
    intro a member
    simpa [callOf] using List.all_eq_true.mp calls _ member
  refine ⟨t,results,deduplication_exact path ?_⟩
  intro a b one two same
  have apart : free.contentHash ≠ occupied.contentHash := by decide +kernel
  rcases only a one with rfl | rfl <;> rcases only b two with rfl | rfl
  · rfl
  · exact absurd same apart
  · exact absurd same.symm apart
  · rfl

end SmartParking.Downlink.Duplicates
