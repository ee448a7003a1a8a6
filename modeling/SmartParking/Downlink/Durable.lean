import SmartParking.Downlink.Custody

namespace SmartParking.Downlink
open Lib

def Unexpired (s : State) : Action → Prop
  | .tick now => s.redis.NoneExpires now
  | _ => True

-- A worker is stopped only between two commands.
def EmptyHanded (s : State) : Action → Prop
  | .stop w => (s.workers w).held = none
  | _ => True

-- Where an id returned by `enqueue` can be. A command is removed when a later
-- call for its device takes it off the list, or deletes its data and a worker
-- then finds the id without data.
inductive Situation where
  | pending | held | successful | deadLettered | removed

def Situation.Holds (s : State) (id : CmdId) (a : EnqueueArgs) : Situation → Prop
  | .pending => id ∈ s.redis.pending
  | .held => ∃ w, (s.workers w).held = some id
  | .successful => ∃ cmd, cmd.id = id ∧ .succeeded cmd ∈ s.events
  | .deadLettered => ∃ letter ∈ s.redis.dead, letter.command.id = id
  | .removed => ∃ b, b.deviceEui = a.deviceEui ∧
      (.removed id b ∈ s.events ∨ .deleted id b ∈ s.events ∧ .dropped id ∈ s.events)

def Situation.At : Situation → Place → Prop
  | .pending,.queued | .held,.held _ | .successful,.finished | .deadLettered,.buried | .removed,.withdrawn => True
  | _,_ => False

theorem situation_unique {reached : Place} (arrived : reached.Arrived) : ∃! situation, Situation.At situation reached := by
  cases reached with
  | nowhere | incoming p => exact arrived.elim
  | queued => exact ⟨.pending,trivial,fun other at' => by cases other <;> first | rfl | exact at'.elim⟩
  | held w => exact ⟨.held,trivial,fun other at' => by cases other <;> first | rfl | exact at'.elim⟩
  | finished => exact ⟨.successful,trivial,fun other at' => by cases other <;> first | rfl | exact at'.elim⟩
  | buried => exact ⟨.deadLettered,trivial,fun other at' => by cases other <;> first | rfl | exact at'.elim⟩
  | withdrawn => exact ⟨.removed,trivial,fun other at' => by cases other <;> first | rfl | exact at'.elim⟩

theorem place_event (events : List Event) (key : CmdId) (known : place events key ≠ .nowhere) :
    ∃ e ∈ events, e.moves = some (key,place events key) := by
  induction events with
  | nil => exact absurd rfl known
  | cons e earlier ih =>
    have later : (∃ e' ∈ earlier, e'.moves = some (key,place earlier key)) →
        ∃ e' ∈ e::earlier, e'.moves = some (key,place earlier key) :=
      fun ⟨e',member,moves⟩ => ⟨e',List.mem_cons_of_mem _ member,moves⟩
    cases moves : e.moves with
    | none =>
      simp only [place,moves] at known ⊢
      exact later (ih known)
    | some moved =>
      obtain ⟨id,reached⟩ := moved
      simp only [place,moves] at known ⊢
      by_cases same : key = id
      · subst key
        exact ⟨e,List.mem_cons_self,by simp [moves]⟩
      · rw [Function.update_of_ne same] at known ⊢
        exact later (ih known)

-- A final place is never left, so the event that brought an id there is still
-- the one that counts.
def Lasting (s : State) : Prop :=
  ∀ e ∈ s.events, ∀ id reached, e.moves = some (id,reached) → reached.Final → place s.events id = reached

theorem lasting_preserved (lasting : Lasting s) (placed : Placed s) (shaped : Shaped s)
    (stepped : Stepped s action next) : Lasting next := by
  intro e member id reached moves final
  have old : e ∈ s.events → place next.events id = reached := by
    intro prior
    have before := lasting e prior id reached moves final
    rw [step_final placed shaped stepped (before ▸ final),before]
  cases step_logged stepped with
  | nothing same => exact old (same ▸ member)
  | event new log =>
    rcases List.mem_cons.mp (log ▸ member) with rfl | prior
    · simp [log,place,moves]
    · exact old prior
  | sent cmd log =>
    rw [log] at member
    rcases List.mem_cons.mp member with rfl | member
    · cases moves
    · rcases List.mem_cons.mp member with rfl | prior
      · cases moves
      · exact old prior

theorem reached_lasting (path : Runs.Reached step meets State.initial s) : Lasting s :=
  path.invariantUnder (fun s => Shaped s ∧ Placed s) Lasting (fun prior => ⟨reached_shaped prior,reached_placed prior⟩)
    (fun _ member => absurd member List.not_mem_nil)
    fun known lasting _ ran => lasting_preserved lasting known.2 known.1 (step_sound ran)

inductive DeadChange (s next : State) : Prop where
  | same : next.redis.dead = s.redis.dead → (∀ cmd, .deadLettered cmd ∈ next.events → .deadLettered cmd ∈ s.events) →
      DeadChange s next
  | added (cmd : DownlinkCommand) : next.redis.dead = s.redis.dead ++ [⟨cmd,s.redis.clock⟩] →
      next.events = .deadLettered cmd::s.events → DeadChange s next

theorem step_dead (stepped : Stepped s action next) : DeadChange s next := by
  cases stepped with
  | call => exact .same rfl (by simp [State.put])
  | produce p uuid before produced =>
    cases produced with
    | expire => exact .same (Redis.expire_dead _ _) (by simp [State.put])
    | _ => exact .same rfl (by simp [State.put])
  | work w reply _ worked =>
    cases worked with
    | failed _ logged => rcases logged with rfl | rfl <;> exact .same rfl (by simp [State.set])
    | rpushDead => exact .added _ rfl rfl
    | _ => exact .same rfl (by simp [State.set])
  | _ => exact .same rfl (fun _ member => member)

def Buried (s : State) : Prop := ∀ cmd, .deadLettered cmd ∈ s.events ↔ ∃ letter ∈ s.redis.dead, letter.command = cmd

theorem buried_preserved (buried : Buried s) (stepped : Stepped s action next) : Buried next := by
  intro cmd
  cases step_dead stepped with
  | same dead log =>
    rw [dead,← buried cmd]
    exact ⟨log cmd,step_keeps_events stepped⟩
  | added new dead log =>
    rw [dead,log,List.mem_cons,buried cmd]
    constructor
    · rintro (equal | ⟨letter,member,same⟩)
      · cases equal
        exact ⟨_,List.mem_append_right _ List.mem_cons_self,rfl⟩
      · exact ⟨letter,List.mem_append_left _ member,same⟩
    · rintro ⟨letter,member,rfl⟩
      rcases List.mem_append.mp member with old | last
      · exact .inr ⟨letter,old,rfl⟩
      · cases List.mem_singleton.mp last
        exact .inl rfl

theorem reached_buried (path : Runs.Reached step meets State.initial s) : Buried s := by
  refine path.invariant Buried ?_ fun buried _ ran => buried_preserved buried (step_sound ran)
  intro cmd
  simp [State.initial,Redis.empty]

def EnqueuePc.stored : EnqueuePc → Option CmdId
  | .setCoalesce _ id | .incrEnqueued _ id => some id
  | _ => none

structure Arriving (s : State) : Prop where
  stored : ∀ p id, (s.producers p).stored = some id → (place s.events id).Arrived
  returned : ∀ id a, .returned (some id) a ∈ s.events → (place s.events id).Arrived

theorem arriving_stored (arriving : Arriving s) (placed : Placed s) (shaped : Shaped s)
    (stepped : Stepped s action next) (stored : (next.producers p).stored = some key) :
    (place next.events key).Arrived := by
  have kept : (s.producers p).stored = some key → (place next.events key).Arrived :=
    fun before => step_arrived placed shaped stepped (arriving.stored p key before)
  cases stepped with
  | call q a _ =>
    by_cases same : p = q
    · subst p
      simp [State.put,EnqueuePc.stored] at stored
    · exact kept (by simpa [State.put,same] using stored)
  | produce q uuid before produced =>
    by_cases same : p = q
    · subst p
      simp only [State.put,Function.update_self] at stored
      cases produced with
      | rpush =>
        cases stored
        simp [State.put,place,Event.moves,Place.Arrived]
      | setCoalesce => exact kept (by rw [before]; exact stored)
      | _ => cases stored
    · exact kept (by simpa [State.put,same] using stored)
  | work | markSuccess | markFailure | start | stop | tick => exact kept stored

theorem arriving_preserved (arriving : Arriving s) (placed : Placed s) (shaped : Shaped s)
    (stepped : Stepped s action next) : Arriving next := by
  refine ⟨fun p id => arriving_stored arriving placed shaped stepped,?_⟩
  intro id a member
  rcases step_cause stepped member with old | ⟨p,before⟩
  · exact step_arrived placed shaped stepped (arriving.returned id a old)
  · exact step_arrived placed shaped stepped (arriving.stored p id (by rw [before]; rfl))

theorem reached_arriving (path : Runs.Reached step meets State.initial s) : Arriving s :=
  path.invariantUnder (fun s => Shaped s ∧ Placed s) Arriving (fun prior => ⟨reached_shaped prior,reached_placed prior⟩)
    ⟨nofun,fun _ _ member => absurd member List.not_mem_nil⟩
    fun known arriving _ ran => arriving_preserved arriving known.2 known.1 (step_sound ran)

def ErasedBy (events : List Event) (key : CmdId) : Prop :=
  ∃ a b, createdBy events key = some a ∧ .deleted key b ∈ events ∧ b.deviceEui = a.deviceEui

theorem ErasedBy.keep (erased : ErasedBy s.events key) (stepped : Stepped s action next) : ErasedBy next.events key := by
  obtain ⟨a,b,created,deleted,same⟩ := erased
  exact ⟨a,b,step_keeps_created stepped created,step_keeps_events stepped deleted,same⟩

-- Without expiry, a command that is still due loses its data only to such a call.
structure Erased (s : State) : Prop where
  removed : ∀ id b, .removed id b ∈ s.events → ∃ a, createdBy s.events id = some a ∧ b.deviceEui = a.deviceEui
  absent : ∀ id a, createdBy s.events id = some a → ¬(place s.events id).Final → s.redis.cmd id = .absent →
    ErasedBy s.events id
  dropped : ∀ id, .dropped id ∈ s.events → ErasedBy s.events id

theorem retried_present (h : CmdHash) (cmd : DownlinkCommand) : (h.hset cmd.retryMapping).present = true :=
  CmdHash.present_of _ .attempts rfl

theorem advance_cmd {r : Redis} (kept : r.NoneExpires now) : (r.advance now).cmd = r.cmd :=
  (congrArg Redis.cmd kept).trans rfl

theorem erased_absent (erased : Erased s) (placed : Placed s) (shaped : Shaped s) (owned : Owned s)
    (unexpired : Unexpired s action) (stepped : Stepped s action next)
    (created : createdBy next.events key = some a) (due : ¬(place next.events key).Final)
    (absent : next.redis.cmd key = .absent) : ErasedBy next.events key := by
  have pending : ¬(place s.events key).Final := by
    intro final
    rw [step_final placed shaped stepped final] at due
    exact due final
  have known : createdBy s.events key = some a := by
    cases step_created stepped key with
    | same same => rw [← same,created]
    | created p b _ _ now _ _ set =>
      rw [set] at absent
      have present := (genuine_enqueued (s.redis.cmd key) b key s.redis.clock).present
      rw [absent] at present
      cases present
  cases step_cmd stepped key with
  | same same => exact (erased.absent key a known pending (same ▸ absent)).keep stepped
  | deleted p b before logged _ =>
    have owns := owned.producers p
    rw [before] at owns
    obtain ⟨c,creator,same⟩ := owns
    exact ⟨c,b,step_keeps_created stepped creator,logged,same.symm⟩
  | cleaned w cmd before same _ =>
    subst same
    exact absurd (placed.settled w cmd before) pending
  | expired now equal set _ =>
    subst equal
    have kept : (s.redis.advance now).cmd = s.redis.cmd := advance_cmd unexpired
    rw [set,kept] at absent
    exact (erased.absent key a known pending absent).keep stepped
  | enqueued b _ _ set =>
    have present := (genuine_enqueued (s.redis.cmd key) b key s.redis.clock).present
    rw [← set,absent] at present
    cases present
  | retried w reply cmd _ _ _ set =>
    have present := retried_present (s.redis.cmd key) cmd
    rw [← set,absent] at present
    cases present

theorem erased_preserved (erased : Erased s) (placed : Placed s) (shaped : Shaped s) (owned : Owned s)
    (unexpired : Unexpired s action) (stepped : Stepped s action next) : Erased next := by
  refine ⟨?_,fun id a => erased_absent erased placed shaped owned unexpired stepped,?_⟩
  · intro id b member
    rcases step_cause stepped member with old | ⟨p,before⟩
    · obtain ⟨a,created,same⟩ := erased.removed id b old
      exact ⟨a,step_keeps_created stepped created,same⟩
    · have owns := owned.producers p
      rw [before] at owns
      obtain ⟨a,created,same⟩ := owns
      exact ⟨a,step_keeps_created stepped created,same.symm⟩
  · intro id member
    rcases step_cause stepped member with old | ⟨w,before,absent⟩
    · exact (erased.dropped id old).keep stepped
    · have held : place s.events id = .held w := placed.sound.held w id (by simp [State.custody,before,WorkerPc.held])
      cases creator : createdBy s.events id with
      | none => rw [placed.unplaced id creator] at held; cases held
      | some a => exact (erased.absent id a creator (by simp [held,Place.Final]) absent).keep stepped

theorem reached_erased (path : Runs.Reached step meets State.initial s)
    (unexpired : ∀ s action, meets s action → Unexpired s action) : Erased s := by
  refine path.invariantUnder (fun s => Placed s ∧ Shaped s ∧ Owned s) Erased
    (fun prior => ⟨reached_placed prior,reached_shaped prior,reached_owned prior⟩) ?_ ?_
  · exact ⟨fun _ _ member => absurd member List.not_mem_nil,nofun,fun _ member => absurd member List.not_mem_nil⟩
  · intro s action next known erased met ran
    exact erased_preserved erased known.1 known.2.1 known.2.2 (unexpired s action met) (step_sound ran)

theorem reached_kept (path : Runs.Reached step meets State.initial s)
    (resting : ∀ s action, meets s action → EmptyHanded s action) : s.custody.Kept := by
  refine path.invariantUnder (fun s => Shaped s ∧ Placed s) (fun s => s.custody.Kept)
    (fun prior => ⟨reached_shaped prior,reached_placed prior⟩) nofun ?_
  intro s action next known kept met ran
  rcases step_custody known.1 known.2.unplaced (step_sound ran) with moved | ⟨w,rfl,same⟩
  · exact moved.kept kept
  · have empty : s.custody.held w = none := resting s _ met
    rw [same,Custody.abandon,update_same empty]
    exact kept

theorem holds_at {situation : Situation} (placed : Placed s) (lasting : Lasting s) (buried : Buried s)
    (holds : situation.Holds s key a) : situation.At (place s.events key) := by
  cases situation with
  | pending =>
    have at' : place s.events key = .queued := (placed.sound.queued key).mp holds
    rw [at']
    trivial
  | held =>
    obtain ⟨w,held⟩ := holds
    have at' : place s.events key = .held w := placed.sound.held w key held
    rw [at']
    trivial
  | successful =>
    obtain ⟨cmd,rfl,member⟩ := holds
    rw [lasting _ member cmd.id .finished rfl (.inl rfl)]
    trivial
  | deadLettered =>
    obtain ⟨letter,member,rfl⟩ := holds
    rw [lasting _ ((buried _).mpr ⟨letter,member,rfl⟩) letter.command.id .buried rfl (.inr (.inl rfl))]
    trivial
  | removed =>
    obtain ⟨b,_,member | ⟨_,member⟩⟩ := holds
    · rw [lasting _ member key .withdrawn rfl (.inr (.inr rfl))]
      trivial
    · rw [lasting _ member key .withdrawn rfl (.inr (.inr rfl))]
      trivial

theorem at_holds {situation : Situation} (placed : Placed s) (kept : s.custody.Kept) (buried : Buried s)
    (erased : Erased s) (created : createdBy s.events key = some a) (at' : situation.At (place s.events key)) :
    situation.Holds s key a := by
  have logged : ∀ {reached}, place s.events key = reached → reached ≠ .nowhere →
      ∃ e ∈ s.events, e.moves = some (key,reached) := by
    rintro reached rfl known
    exact place_event s.events key known
  cases equal : place s.events key with
  | nowhere | incoming p => rw [equal] at at'; cases situation <;> exact at'.elim
  | queued =>
    rw [equal] at at'
    cases situation <;> first | exact at'.elim | exact (placed.sound.queued key).mpr equal
  | held w =>
    rw [equal] at at'
    cases situation <;> first | exact at'.elim | exact ⟨w,kept w key equal⟩
  | finished =>
    obtain ⟨e,member,moves⟩ := logged equal (by decide)
    rw [equal] at at'
    cases situation <;> first | exact at'.elim | skip
    cases e <;> cases moves
    exact ⟨_,rfl,member⟩
  | buried =>
    obtain ⟨e,member,moves⟩ := logged equal (by decide)
    rw [equal] at at'
    cases situation <;> first | exact at'.elim | skip
    cases e <;> cases moves
    obtain ⟨letter,found,rfl⟩ := (buried _).mp member
    exact ⟨letter,found,rfl⟩
  | withdrawn =>
    obtain ⟨e,member,moves⟩ := logged equal (by decide)
    rw [equal] at at'
    cases situation <;> first | exact at'.elim | skip
    cases e with
    | removed id b =>
      cases moves
      obtain ⟨c,creator,same⟩ := erased.removed key b member
      rw [created] at creator
      cases creator
      exact ⟨b,same,.inl member⟩
    | dropped id =>
      cases moves
      obtain ⟨c,b,creator,deleted,same⟩ := erased.dropped key member
      rw [created] at creator
      cases creator
      exact ⟨b,same,.inr ⟨deleted,member⟩⟩
    | _ => cases moves

theorem no_command_lost
    (path : Runs.Reached step (fun s action => Unexpired s action ∧ EmptyHanded s action) State.initial s)
    (returned : .returned (some key) a ∈ s.events) : ∃! situation, Situation.Holds s key a situation := by
  have placed := reached_placed path
  have lasting := reached_lasting path
  have buried := reached_buried path
  have erased := reached_erased path fun _ _ met => met.1
  have kept := reached_kept path fun _ _ met => met.2
  have created := (reached_owned path).returned key a returned
  obtain ⟨situation,at',unique⟩ := situation_unique ((reached_arriving path).returned key a returned)
  refine ⟨situation,at_holds placed kept buried erased created at',?_⟩
  intro other holds
  exact unique other (holds_at placed lasting buried holds)

def restful (s : State) : Action → Bool
  | .stop w => (s.workers w).held.isNone
  | .tick _ => false
  | _ => true

theorem restful_sound (test : restful s action = true) : Unexpired s action ∧ EmptyHanded s action := by
  cases action with
  | stop w => exact ⟨trivial,by simpa [restful,EmptyHanded] using test⟩
  | tick now => cases test
  | _ => exact ⟨trivial,trivial⟩

-- A command is coalesced away and the next one sent before the worker stops.
theorem no_command_lost_coalesced : ∃ s, .returned (some "A") free ∈ s.events ∧ .returned (some "B") occupied ∈ s.events ∧
    (∃! situation, Situation.Holds s "A" free situation) ∧ ∃! situation, Situation.Holds s "B" occupied situation := by
  have start : Runs.Reached step (fun s action => Unexpired s action ∧ EmptyHanded s action) State.initial
    State.initial := .refl
  obtain ⟨s,path,one,two⟩ := start.found restful
    (fun s => .returned (some "A") free ∈ s.events ∧ .returned (some "B") occupied ∈ s.events)
    (calling 0 free "A" 7 ++ calling 0 occupied "B" 10 ++ .start 0::working (List.replicate 10 .ok) ++ [.stop 0])
    (fun _ => restful_sound) (by decide +kernel)
  exact ⟨s,one,two,no_command_lost path one,no_command_lost path two⟩

def restless (_ : State) : Action → Bool
  | .tick _ => false
  | _ => true

theorem restless_sound (_ : Runs.Reached step Unexpired State.initial s) (test : restless s action = true) :
    Unexpired s action := by
  cases action with
  | tick now => cases test
  | _ => trivial

-- The worker is stopped right after BLPOP: the id is in no list any more.
theorem command_lost_by_stop : ∃ s, Runs.Reached step Unexpired State.initial s ∧
    .returned (some "A") free ∈ s.events ∧ ¬∃ situation, Situation.Holds s "A" free situation := by
  have start : Runs.Reached step Unexpired State.initial State.initial := .refl
  obtain ⟨s,path,member,at',stopped⟩ := start.found restless
    (fun s => .returned (some "A") free ∈ s.events ∧ place s.events "A" = .held 0 ∧ (s.workers 0).held = none)
    (calling 0 free "A" 7 ++ [.start 0,.work 0 .ok,.stop 0]) restless_sound (by decide +kernel)
  refine ⟨s,path,member,?_⟩
  rintro ⟨situation,holds⟩
  have placed := reached_placed path
  have there := holds_at placed (reached_lasting path) (reached_buried path) holds
  rw [at'] at there
  cases situation <;> first | exact there.elim | skip
  obtain ⟨w,held⟩ := holds
  have same : place s.events "A" = .held w := placed.sound.held w "A" held
  rw [at'] at same
  cases same
  rw [stopped] at held
  cases held

end SmartParking.Downlink
