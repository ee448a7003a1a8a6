import SmartParking.Lib.Custody
import SmartParking.Downlink.Genuine

namespace SmartParking.Downlink
open Lib

def Event.moves : Event → Option (CmdId × Place)
  | .created p id _ => some (id,.incoming p)
  | .pushed id | .requeued id => some (id,.queued)
  | .removed id _ | .dropped id => some (id,.withdrawn)
  | .popped w id => some (id,.held w)
  | .succeeded cmd => some (cmd.id,.finished)
  | .deadLettered cmd => some (cmd.id,.buried)
  | _ => none

def place : List Event → CmdId → Place
  | [] => fun _ => .nowhere
  | event::earlier =>
    match event.moves with
    | some (id,reached) => Function.update (place earlier) id reached
    | none => place earlier

def EnqueuePc.incoming : EnqueuePc → Option CmdId
  | .expire _ id | .rpush _ id => some id
  | _ => none

def State.custody (s : State) : Custody CmdId :=
  ⟨s.redis.pending,fun p => (s.producers p).incoming,fun w => (s.workers w).held,place s.events⟩

theorem update_same {f : Nat → Option CmdId} (same : f i = v) : Function.update f i v = f := by
  rw [← same,Function.update_eq_self]

theorem put_custody (s : State) (p : Nat) (r : Redis) (events : List Event) (later : EnqueuePc) :
    (s.put p (r,events,later)).custody =
      ⟨r.pending,Function.update s.custody.incoming p later.incoming,s.custody.held,place (events ++ s.events)⟩ := by
  have incoming : (fun q => (Function.update s.producers p later q).incoming) =
      Function.update s.custody.incoming p later.incoming := by
    funext q
    by_cases same : q = p
    · simp [same]
    · simp [same,State.custody]
  simp only [State.custody,State.put,incoming]

theorem set_custody (s : State) (w : Nat) (r : Redis) (events : List Event) (later : WorkerPc) :
    (s.set w (r,events,later)).custody =
      ⟨r.pending,s.custody.incoming,Function.update s.custody.held w later.held,place (events ++ s.events)⟩ := by
  have held : (fun v => (Function.update s.workers w later v).held) =
      Function.update s.custody.held w later.held := by
    funext v
    by_cases same : v = w
    · simp [same]
    · simp [same,State.custody]
  simp only [State.custody,State.set,held]

theorem put_still {s : State} {r : Redis} {later : EnqueuePc}
    (pushing : (s.producers p).incoming = later.incoming) (queue : r.pending = s.redis.pending) (log : place (events ++ s.events) = place s.events) :
    s.custody.Moved (s.put p (r,events,later)).custody := by
  rw [put_custody,queue,log,update_same (show s.custody.incoming p = later.incoming from pushing)]
  exact .still

theorem set_still {s : State} {r : Redis} {later : WorkerPc} (held : (s.workers w).held = later.held)
    (queue : r.pending = s.redis.pending) (log : place (events ++ s.events) = place s.events) :
    s.custody.Moved (s.set w (r,events,later)).custody := by
  rw [set_custody,queue,log,update_same (show s.custody.held w = later.held from held)]
  exact .still

def Unplaced (s : State) : Prop := ∀ key, createdBy s.events key = none → place s.events key = .nowhere

theorem produced_custody (unplaced : Unplaced s) (before : s.producers p = pc)
    (produced : Produced s.redis p uuid (createdBy s.events uuid).isSome pc r events later) :
    s.custody.Moved (s.put p (r,events,later)).custody := by
  have incoming : s.custody.incoming p = pc.incoming := congrArg EnqueuePc.incoming before
  cases produced with
  | lremFound member =>
    rw [put_custody,update_same (v := EnqueuePc.incoming (.deleteCmd _ _)) incoming]
    exact .withdrawn member
  | lremMissing missing =>
    rename_i existing a
    have queue : s.redis.pending.filter (· ≠ existing) = s.redis.pending := by
      apply List.filter_eq_self.mpr
      intro other member
      have different : other ≠ existing := fun same => missing (same ▸ member)
      simpa using different
    exact put_still incoming queue rfl
  | hset named fresh =>
    rw [put_custody]
    exact .created (unplaced uuid (by simpa using fresh)) incoming
  | expire => exact put_still incoming (by simp) rfl
  | rpush =>
    rw [put_custody]
    exact .queued incoming
  | _ => exact put_still incoming rfl rfl

theorem worked_custody (shaped : Shaped s) (before : s.workers w = pc)
    (worked : Worked s.redis w pc r events later) : s.custody.Moved (s.set w (r,events,later)).custody := by
  have held : s.custody.held w = pc.held := congrArg WorkerPc.held before
  cases worked with
  | popped queue =>
    rw [set_custody]
    exact .taken queue held
  | missing absent =>
    rw [set_custody]
    exact .settled held (.inr (.inr rfl))
  | raised failed =>
    rename_i key
    obtain ⟨cmd,decoded⟩ := (shaped.readable key).decode key s.redis.clock
    rw [failed] at decoded
    cases decoded
  | dequeued present decoded =>
    have same := (shaped.decode decoded).1
    exact set_still (held.trans (congrArg some same.symm)) rfl rfl
  | processed unsent next => exact set_still (held.trans ((unsent_held unsent).trans (unsent_held next).symm)) rfl rfl
  | failed unsent logged =>
    refine set_still (held.trans ((unsent_held unsent).trans (failing_held _ _ _ _).symm)) rfl ?_
    rcases logged with rfl | rfl <;> rfl
  | setLastHash =>
    rw [set_custody]
    exact .settled held (.inl rfl)
  | rpush =>
    rw [set_custody]
    exact .returned held
  | rpushDead =>
    rw [set_custody]
    exact .settled held (.inr (.inl rfl))
  | _ => exact set_still held rfl rfl

-- The queue of the code is a work queue: each step hands one id on, except that
-- a worker that is stopped forgets what it holds.
theorem step_custody (shaped : Shaped s) (unplaced : Unplaced s) (stepped : Stepped s action next) :
    s.custody.Moved next.custody ∨ ∃ w, action = .stop w ∧ next.custody = s.custody.abandon w := by
  cases stepped with
  | call p a before => exact .inl (put_still (by simp [before,EnqueuePc.incoming]) rfl rfl)
  | produce p uuid before produced => exact .inl (produced_custody unplaced before produced)
  | work w reply before worked => exact .inl (worked_custody shaped before worked)
  | markSuccess w cmd before => exact .inl (set_still (by simp [before,WorkerPc.held]) rfl rfl)
  | markFailure w cmd error requeue before =>
    exact .inl (set_still (by rw [before]; exact (failing_held cmd error requeue _).symm) rfl rfl)
  | start w before => exact .inl (set_still (by simp [before,WorkerPc.held]) rfl rfl)
  | stop w => exact .inr ⟨w,rfl,by rw [set_custody]; rfl⟩
  | tick now _ => exact .inl .still

-- The ids an enqueue call works on: its own, or one of the same device.
def Owns (events : List Event) : EnqueuePc → Prop
  | .lrem a existing | .deleteCmd a existing => ∃ b, createdBy events existing = some b ∧ b.deviceEui = a.deviceEui
  | .expire a id | .rpush a id | .setCoalesce a id | .incrEnqueued a id => createdBy events id = some a
  | _ => True

structure Owned (s : State) : Prop where
  coalesce : ∀ device id, s.redis.coalesce device = some id →
    ∃ a, createdBy s.events id = some a ∧ a.deviceEui = device
  producers : ∀ p, Owns s.events (s.producers p)
  returned : ∀ id a, .returned (some id) a ∈ s.events → createdBy s.events id = some a
  named : createdBy s.events "" = none

theorem initial_owned : Owned State.initial :=
  ⟨nofun,fun _ => trivial,fun _ _ member => absurd member List.not_mem_nil,rfl⟩

theorem Owns.keep {pc : EnqueuePc} (owns : Owns events pc)
    (keeps : ∀ {key a}, createdBy events key = some a → createdBy later key = some a) : Owns later pc := by
  cases pc with
  | lrem a existing | deleteCmd a existing =>
    obtain ⟨b,created,same⟩ := owns
    exact ⟨b,keeps created,same⟩
  | expire a id | rpush a id | setCoalesce a id | incrEnqueued a id => exact keeps owns
  | _ => trivial

theorem produced_owns (owned : Owned s) (before : s.producers p = pc)
    (produced : Produced s.redis p uuid (createdBy s.events uuid).isSome pc r events later) :
    Owns (events ++ s.events) later := by
  have owns : Owns s.events pc := before ▸ owned.producers p
  cases produced with
  | tracked found => exact owned.coalesce _ _ found
  | hset => simp [Owns,createdBy]
  | lremFound | lremMissing | expire | rpush | setCoalesce => exact owns
  | _ => trivial

theorem owned_producers (owned : Owned s) (stepped : Stepped s action next) (p : Nat) :
    Owns next.events (next.producers p) := by
  have keep : Owns next.events (s.producers p) := (owned.producers p).keep (step_keeps_created stepped)
  cases stepped with
  | call q a _ =>
    by_cases same : p = q
    · simp [State.put,same,Owns]
    · simpa [State.put,same] using keep
  | produce q uuid before produced =>
    by_cases same : p = q
    · subst p
      simpa [State.put] using produced_owns owned before produced
    · simpa [State.put,same] using keep
  | work | markSuccess | markFailure | start | stop | tick => exact keep

theorem owned_preserved (owned : Owned s) (stepped : Stepped s action next) : Owned next := by
  refine ⟨?_,owned_producers owned stepped,?_,?_⟩
  · intro device id found
    cases step_coalesce stepped device with
    | same same =>
      obtain ⟨a,created,equal⟩ := owned.coalesce device id (same ▸ found)
      exact ⟨a,step_keeps_created stepped created,equal⟩
    | gone gone => rw [gone] at found; cases found
    | set p a other before equal set =>
      rw [set] at found
      cases found
      have owns := owned.producers p
      rw [before] at owns
      exact ⟨a,step_keeps_created stepped owns,equal⟩
  · intro id a member
    rcases step_cause stepped member with old | ⟨p,before⟩
    · exact step_keeps_created stepped (owned.returned id a old)
    · have owns := owned.producers p
      rw [before] at owns
      exact step_keeps_created stepped owns
  · cases step_created stepped "" with
    | same same => rw [same,owned.named]
    | created _ _ named => exact absurd rfl named

theorem reached_owned (path : Runs.Reached step meets State.initial s) : Owned s :=
  path.invariant Owned initial_owned fun owned _ ran => owned_preserved owned (step_sound ran)

-- Ids are where the log says, and a command whose outcome is recorded has come
-- to rest before its data are deleted.
structure Placed (s : State) : Prop where
  sound : s.custody.Sound
  unplaced : Unplaced s
  settled : ∀ w cmd, s.workers w = .deleteCmd cmd ∨ s.workers w = .deleteDead cmd → (place s.events cmd.id).Final

theorem initial_placed : Placed State.initial := by
  refine ⟨⟨List.nodup_nil,?_,?_,?_⟩,fun _ _ => rfl,?_⟩
  · intro id
    simp [State.custody,State.initial,Redis.empty,place]
  · intro p id
    simp [State.custody,State.initial,EnqueuePc.incoming,place]
  · intro w id holds
    cases holds
  · intro w cmd cleaning
    rcases cleaning with equal | equal <;> cases equal

theorem placed_sound (placed : Placed s) (shaped : Shaped s) (stepped : Stepped s action next) :
    next.custody.Sound := by
  rcases step_custody shaped placed.unplaced stepped with moved | ⟨w,_,same⟩
  · exact moved.sound placed.sound
  · rw [same]
    exact placed.sound.abandon w

theorem step_final (placed : Placed s) (shaped : Shaped s) (stepped : Stepped s action next)
    (final : (place s.events key).Final) : place next.events key = place s.events key := by
  rcases step_custody shaped placed.unplaced stepped with moved | ⟨w,_,same⟩
  · exact moved.final placed.sound final
  · exact congrFun (congrArg Custody.place same) key

theorem step_arrived (placed : Placed s) (shaped : Shaped s) (stepped : Stepped s action next)
    (arrived : (place s.events key).Arrived) : (place next.events key).Arrived := by
  rcases step_custody shaped placed.unplaced stepped with moved | ⟨w,_,same⟩
  · exact moved.arrived placed.sound arrived
  · rw [show place next.events = place s.events from congrArg Custody.place same]
    exact arrived

theorem placed_unplaced (placed : Placed s) (shaped : Shaped s) (owned : Owned next)
    (stepped : Stepped s action next) : Unplaced next := by
  intro key missing
  have earlier : createdBy s.events key = none := by
    cases step_created stepped key with
    | same same => rw [← same,missing]
    | created _ _ _ absent => exact absent
  have before := placed.unplaced key earlier
  rcases step_custody shaped placed.unplaced stepped with moved | ⟨w,_,same⟩
  · rcases moved.fresh placed.sound before with still | ⟨p,coming⟩
    · exact still
    · have incoming : (next.producers p).incoming = some key :=
        ((moved.sound placed.sound).incoming p key).mpr coming
      have owns := owned.producers p
      cases pc : next.producers p with
      | expire a id | rpush a id =>
        rw [pc] at incoming owns
        cases incoming
        have created : createdBy next.events key = some a := owns
        rw [missing] at created
        cases created
      | _ => rw [pc] at incoming; cases incoming
  · rw [show place next.events = place s.events from congrArg Custody.place same]
    exact before

theorem failing_not_cleaning (cleaning : failing old error requeue now = .deleteCmd cmd ∨
    failing old error requeue now = .deleteDead cmd) : False := by
  rcases failing_cases old error requeue now with same | same <;> rw [same] at cleaning <;>
    rcases cleaning with equal | equal <;> cases equal

theorem placed_settled (placed : Placed s) (shaped : Shaped s) (stepped : Stepped s action next)
    (cleaning : next.workers w = .deleteCmd cmd ∨ next.workers w = .deleteDead cmd) :
    (place next.events cmd.id).Final := by
  have kept : s.workers w = .deleteCmd cmd ∨ s.workers w = .deleteDead cmd → (place next.events cmd.id).Final := by
    intro before
    have final := placed.settled w cmd before
    rwa [step_final placed shaped stepped final]
  cases step_worker stepped w with
  | same _ same =>
    rw [same] at cleaning
    exact kept cleaning
  | worked reply events _ worked log =>
    generalize s.workers w = before, next.workers w = later, next.redis = redis at worked cleaning
    rw [log]
    cases worked with
    | setLastHash =>
      rcases cleaning with equal | equal <;> cases equal
      exact .inl (by simp [place,Event.moves])
    | rpushDead =>
      rcases cleaning with equal | equal <;> cases equal
      exact .inr (.inl (by simp [place,Event.moves]))
    | processed _ next =>
      rcases cleaning with equal | equal <;> rw [equal] at next <;> cases next
    | failed _ _ => exact (failing_not_cleaning cleaning).elim
    | _ => rcases cleaning with equal | equal <;> cases equal
  | succeeding old _ after =>
    rw [after] at cleaning
    rcases cleaning with equal | equal <;> cases equal
  | failing old error requeue _ _ after =>
    rw [after] at cleaning
    exact (failing_not_cleaning cleaning).elim
  | switched later =>
    rcases later with after | after
    · rw [after] at cleaning
      rcases cleaning with equal | equal <;> cases equal
    · rw [after] at cleaning
      rcases cleaning with equal | equal <;> cases equal

theorem placed_preserved (placed : Placed s) (shaped : Shaped s) (owned : Owned s)
    (stepped : Stepped s action next) : Placed next :=
  ⟨placed_sound placed shaped stepped,placed_unplaced placed shaped (owned_preserved owned stepped) stepped,
    fun _ _ => placed_settled placed shaped stepped⟩

theorem reached_placed (path : Runs.Reached step meets State.initial s) : Placed s :=
  path.invariantUnder (fun s => Shaped s ∧ Owned s) Placed (fun prior => ⟨reached_shaped prior,reached_owned prior⟩)
    initial_placed fun known placed _ ran => placed_preserved placed known.1 known.2 (step_sound ran)

end SmartParking.Downlink
