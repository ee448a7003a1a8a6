import SmartParking.Lib.Fifo
import SmartParking.Downlink.Durable

namespace SmartParking.Downlink.FirstAttempts
open Lib Fifo

-- The queue as a line: an enqueue call joins with its RPUSH, a dequeue serves with
-- its BLPOP, and coalescing withdraws. A failed command's RPUSH is no entry.
def entry : Event → Option (Entry CmdId)
  | .pushed id => some (.joined id)
  | .popped _ id => some (.served id)
  | .removed id _ => some (.withdrew id)
  | _ => none

def line (events : List Event) : List (Entry CmdId) := events.filterMap entry

def untried (events : List Event) (pending : List CmdId) : List CmdId :=
  pending.filter fun id => .served id ∉ line events

variable {s next : State} {action : Action} {events later earlier : List Event} {id x y : CmdId} {w : Nat}

theorem mem_served : .served id ∈ line events ↔ ∃ w, .popped w id ∈ events := by
  unfold line
  rw [List.mem_filterMap]
  constructor
  · rintro ⟨e,member,same⟩
    cases e <;> cases same
    exact ⟨_,member⟩
  · exact fun ⟨_,member⟩ => ⟨_,member,rfl⟩

theorem mem_withdrew : .withdrew id ∈ line events ↔ ∃ a, .removed id a ∈ events := by
  unfold line
  rw [List.mem_filterMap]
  constructor
  · rintro ⟨e,member,same⟩
    cases e <;> cases same
    exact ⟨_,member⟩
  · exact fun ⟨_,member⟩ => ⟨_,member,rfl⟩

-- How a step moves the queue and the line.
inductive LineChange (s next : State) : Prop where
  | same : line next.events = line s.events → next.redis.pending = s.redis.pending → LineChange s next
  | joined (p : Nat) (id : CmdId) : s.custody.incoming p = some id → line next.events = .joined id::line s.events →
      next.redis.pending = s.redis.pending ++ [id] → LineChange s next
  | served (id : CmdId) : s.redis.pending = id::next.redis.pending → line next.events = .served id::line s.events →
      LineChange s next
  | withdrew (id : CmdId) : line next.events = .withdrew id::line s.events →
      next.redis.pending = s.redis.pending.filter (· ≠ id) → LineChange s next
  | requeued (w : Nat) (id : CmdId) : s.custody.held w = some id → line next.events = line s.events →
      next.redis.pending = s.redis.pending ++ [id] → LineChange s next

theorem step_line (stepped : Stepped s action next) : LineChange s next := by
  cases stepped with
  | produce p uuid before produced =>
    cases produced with
    | expire => exact .same rfl (by simp [State.put])
    | lremFound => exact .withdrew _ rfl rfl
    | lremMissing missing =>
      rename_i existing a
      refine .same rfl (List.filter_eq_self.mpr fun other member => ?_)
      have different : other ≠ existing := fun same => missing (same ▸ member)
      simpa using different
    | rpush => exact .joined p _ (congrArg EnqueuePc.incoming before) rfl rfl
    | _ => exact .same rfl rfl
  | work w reply before worked =>
    cases worked with
    | popped queue => exact .served _ queue rfl
    | rpush => exact .requeued w _ (congrArg WorkerPc.held before) rfl rfl
    | failed _ logged => rcases logged with rfl | rfl <;> exact .same rfl rfl
    | _ => exact .same rfl rfl
  | _ => exact .same rfl rfl

-- Who was never popped stands in the queue in the order of the line.
structure Lined (s : State) : Prop where
  fair : Fair (line s.events)
  waiting : waiting (line s.events) = untried s.events s.redis.pending
  arrived : ∀ id, .joined id ∈ line s.events ∨ .served id ∈ line s.events → (place s.events id).Arrived

theorem initial_lined : Lined .initial :=
  ⟨trivial,rfl,fun _ known => known.elim nofun nofun⟩

theorem held_served (sound : s.custody.Sound) (holds : s.custody.held w = some id) : .served id ∈ line s.events := by
  have held : place s.events id = .held w := sound.held w id holds
  obtain ⟨e,member,moves⟩ := place_event s.events id (by rw [held]; exact nofun)
  rw [held] at moves
  cases e <;> cases moves
  exact mem_served.mpr ⟨w,member⟩

theorem lined_preserved (lined : Lined s) (placed : Placed s) (shaped : Shaped s) (stepped : Stepped s action next) :
    Lined next := by
  have kept : ∀ {id}, .joined id ∈ line s.events ∨ .served id ∈ line s.events → (place next.events id).Arrived :=
    fun known => step_arrived placed shaped stepped (lined.arrived _ known)
  have sound := placed_sound placed shaped stepped
  have queued : ∀ {id}, id ∈ next.redis.pending → (place next.events id).Arrived := by
    intro id member
    have here : place next.events id = .queued := (sound.queued id).mp member
    rw [here]
    trivial
  cases step_line stepped with
  | same log queue =>
    refine ⟨log ▸ lined.fair,?_,fun id known => kept (log ▸ known)⟩
    unfold untried
    rw [log,queue]
    exact lined.waiting
  | joined p id incoming log queue =>
    have coming : place s.events id = .incoming p := (placed.sound.incoming p id).mp incoming
    have fresh : ¬(.joined id ∈ line s.events ∨ .served id ∈ line s.events) := by
      intro known
      have arrived := lined.arrived id known
      rw [coming] at arrived
      exact arrived
    obtain ⟨unjoined,unserved⟩ := not_or.mp fresh
    refine ⟨?_,?_,?_⟩
    · rw [log]
      exact ⟨fun joined => unjoined (mem_joins.mp joined),lined.fair⟩
    · unfold untried
      rw [log,queue,Fifo.waiting,lined.waiting]
      simp [untried,unserved]
    · intro other known
      by_cases same : other = id
      · exact queued (by rw [same,queue]; exact List.mem_append_right _ List.mem_cons_self)
      · refine kept ?_
        simpa [log,same] using known
  | served id queue log =>
    refine ⟨?_,?_,?_⟩
    · rw [log]
      refine ⟨fun first => ?_,lined.fair⟩
      rw [lined.waiting,untried,queue,List.filter_cons_of_pos (by simpa using first)]
      rfl
    · unfold untried
      rw [log,Fifo.waiting,lined.waiting,untried,queue,List.filter_filter]
      simp
    · intro other known
      by_cases same : other = id
      · have waits : id ∈ s.redis.pending := by
          rw [queue]
          exact List.mem_cons_self
        have arrived : (place s.events id).Arrived := by
          have here : place s.events id = .queued := (placed.sound.queued id).mp waits
          rw [here]
          trivial
        rw [same]
        exact step_arrived placed shaped stepped arrived
      · refine kept ?_
        simpa [log,same] using known
  | withdrew id log queue =>
    refine ⟨log ▸ lined.fair,?_,?_⟩
    · unfold untried
      rw [log,queue,Fifo.waiting,lined.waiting,untried,List.filter_filter,List.filter_filter]
      simp [Bool.and_comm]
    · intro other known
      exact kept (by simpa [log] using known)
  | requeued w id holds log queue =>
    have served := held_served placed.sound holds
    refine ⟨log ▸ lined.fair,?_,fun other known => kept (log ▸ known)⟩
    unfold untried
    rw [log,queue,lined.waiting,untried,List.filter_append]
    simp [served]

theorem reached_lined (path : Runs.Reached step meets State.initial s) : Lined s :=
  path.invariantUnder (fun s => Placed s ∧ Shaped s) Lined (fun prior => ⟨reached_placed prior,reached_shaped prior⟩)
    initial_lined fun known lined _ ran => lined_preserved lined known.1 known.2 (step_sound ran)

-- Where `y` is popped for the first time, whoever was pushed before `y` has been
-- popped already, or removed.
theorem first_attempts_fifo (path : Runs.Reached step (fun _ _ => True) State.initial s)
    (pop : s.events = later ++ .popped w y::earlier) (first : ∀ v, .popped v y ∉ earlier)
    (order : [.pushed y,.pushed x].Sublist s.events) :
    (∃ v, .popped v x ∈ earlier) ∨ ∃ a, .removed x a ∈ earlier := by
  have fair := (reached_lined path).fair
  have split : line s.events = line later ++ .served y::line earlier := by
    rw [pop]
    exact List.filterMap_append
  have before : [.joined y,.joined x].Sublist (line s.events) := order.filterMap entry
  rw [split] at fair before
  have unserved : .served y ∉ line earlier := by
    intro served
    obtain ⟨v,popped⟩ := mem_served.mp served
    exact first v popped
  exact (served_in_order fair unserved before).imp mem_served.mp mem_withdrew.mp

-- The first command fails and goes to the end of the queue before the second is
-- popped.
def behind : List Action :=
  calling 0 free "A" 7 ++ calling 1 {free with deviceEui := "d2"} "B" 7 ++
    .start 0::working [.ok,.ok,.ok,.refused "timeout",.ok,.ok,.ok,.ok]

theorem first_attempts_fifo_behind : ∃ (s : State) (earlier : List Event),
    s.events = [] ++ .popped 0 "B"::earlier ∧ .requeued "A" ∈ earlier ∧
    ((∃ v, .popped v "A" ∈ earlier) ∨ ∃ a, .removed "A" a ∈ earlier) := by
  have start : Runs.Reached step (fun _ _ => True) State.initial State.initial := .refl
  obtain ⟨s,path,pop,retried,first,order⟩ := start.found (fun _ _ => true)
    (fun s => s.events.head? = some (.popped 0 "B") ∧ .requeued "A" ∈ s.events.tail ∧
      s.events.tail.all (fun e => match e with | .popped _ id => id ≠ "B" | _ => true) = true ∧
      [.pushed "B",.pushed "A"].Sublist s.events) behind (fun _ _ => trivial) (by decide +kernel)
  obtain ⟨earlier,split⟩ := List.head?_eq_some_iff.mp pop
  rw [split] at retried first
  have unpopped : ∀ v, .popped v "B" ∉ earlier := by
    intro v popped
    have other := List.all_eq_true.mp first _ popped
    simp at other
  have last : s.events = [] ++ .popped 0 "B"::earlier := split
  exact ⟨s,earlier,last,retried,first_attempts_fifo path last unpopped order⟩

end SmartParking.Downlink.FirstAttempts
