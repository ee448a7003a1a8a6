import SmartParking.Uplink.Spool

namespace SmartParking.Uplink.SpoolRetries
open Lib.Runs Spool

variable {Json : Type}

-- One call of `_process_pending_files`: the time it reads at its start and, for
-- every file, what `_process_envelope` returns and the time it reads again.
structure Pass where
  now : Instant
  success : String → Bool
  clock : String → Instant

-- The body of the loop over the pending files, without interruption.
def turn (p : Pass) (s : State Json) (file : String) : State Json :=
  match s.pending.lookup file with
  | none => s
  | some envelope =>
    if envelope.nextRetryAt > p.now then s
    else
      let outcomes := (file,p.success file)::s.outcomes
      let pending := s.pending.erase file
      let processing := s.processing.insert file envelope
      if p.success file then {s with outcomes,pending,processing := processing.erase file}
      else if envelope.retry.retryCount ≥ maxRetryAttempts then {s with
        outcomes
        pending
        processing := processing.erase file
        deadLetter := s.deadLetter.insert file envelope.retry}
      else
        let pending := pending.insert file (envelope.retry.reschedule (p.clock file))
        {s with
          outcomes
          pending := (processing.lookup file).elim pending (pending.insert file)
          processing := processing.erase file}

def State.pass (s : State Json) (p : Pass) : State Json :=
  (s.pending.keys.insertionSort (· ≤ ·)).foldl (turn p) s

def passed (s : State Json) (p : Pass) : Option (State Json) := some (State.pass s p)

-- How often `_process_envelope` was called for an id.
def attempts (s : State Json) (id : String) : Nat := s.outcomes.countP (·.1 = id)

-- What a pass that processes an envelope in vain is to leave behind.
structure BacksOff (id : String) (p : Pass) (s next : State Json) : Prop where
  due : ∃ e, s.pending.lookup id = some e ∧ e.nextRetryAt ≤ p.now
  retried : attempts next id ≠ maxRetryAttempts → ∃ e later, s.pending.lookup id = some e ∧
    next.pending.lookup id = some later ∧ next.deadLetter.lookup id = none ∧ later.retryCount = e.retryCount+1 ∧
    p.now+1000000*(backoff e.retryCount : Nat) ≤ later.nextRetryAt
  buried : attempts next id = maxRetryAttempts → ∃ e later, s.pending.lookup id = some e ∧
    next.deadLetter.lookup id = some later ∧ next.pending.lookup id = none ∧ later.retryCount = e.retryCount+1

-- Where an envelope can be, given that no attempt is ever counted on disk: what
-- lies in the directories is what `enqueue` wrote, but for the moment between
-- the last two operations on a file.
inductive Original : View Json → Prop where
  | absent : Original ⟨none,.away,none,none,none,none,false⟩
  | temporary (c) : Original ⟨some c,.away,some c.envelope,none,none,none,false⟩
  | pending (c) : Original ⟨some c,.away,none,some c.envelope,none,none,false⟩
  | ready (c) : Original ⟨some c,.ready c.envelope,none,some c.envelope,none,none,false⟩
  | processing (c) : Original ⟨some c,.processing c.envelope,none,none,some c.envelope,none,false⟩
  | succeeded (c) : Original ⟨some c,.succeeded,none,none,some c.envelope,none,true⟩
  | retrying (c e) : Original ⟨some c,.retrying e,none,none,some c.envelope,none,false⟩
  | retried (c e) : Original ⟨some c,.retried,none,some e,some c.envelope,none,false⟩
  | done (c) : Original ⟨some c,.away,none,none,none,none,true⟩

variable {s next : State Json} {id file : String} {e : Envelope Json} {p : Pass} {files : List String}

-- The steps that the loop's body takes.
theorem turn_runs (p : Pass) (s : State Json) (file : String) (files : List String) :
    ∃ n, exec step {s with worker := .scanning p.now (file::files)}
      (List.replicate n (.advance (p.success file) (p.clock file))) =
        some {turn p s file with worker := .scanning p.now files} := by
  cases lying : s.pending.lookup file with
  | none => exact ⟨1,by simp [turn,exec,step,State.advance,lying]⟩
  | some e =>
    by_cases early : e.nextRetryAt > p.now
    · exact ⟨1,by simp [turn,exec,step,State.advance,lying,early]⟩
    · by_cases returned : p.success file = true
      · exact ⟨4,by simp [turn,exec,step,State.advance,lying,early,returned]⟩
      · by_cases spent : e.retry.retryCount ≥ maxRetryAttempts
        · exact ⟨5,by simp [turn,exec,step,State.advance,lying,early,returned,spent]⟩
        · exact ⟨5,by simp [turn,exec,step,State.advance,lying,early,returned,spent]⟩

theorem turns_run (p : Pass) (files : List String) (s : State Json) :
    ∃ actions, exec step {s with worker := .scanning p.now files} actions =
      some {files.foldl (turn p) s with worker := .idle} := by
  induction files generalizing s with
  | nil => exact ⟨[.advance false 0],rfl⟩
  | cons file files ih =>
    obtain ⟨n,first⟩ := turn_runs p s file files
    obtain ⟨actions,rest⟩ := ih (turn p s file)
    refine ⟨List.replicate n (.advance (p.success file) (p.clock file)) ++ actions,?_⟩
    rw [exec_append,first]
    exact rest

theorem turn_worker (p : Pass) (s : State Json) (file : String) : (turn p s file).worker = s.worker := by
  unfold turn
  split
  · rfl
  · split
    · rfl
    · split
      · rfl
      · split <;> rfl

theorem turns_worker (p : Pass) (files : List String) (s : State Json) :
    (files.foldl (turn p) s).worker = s.worker := by
  induction files generalizing s with
  | nil => rfl
  | cons file files ih => exact (ih _).trans (turn_worker p s file)

-- A pass is a run of the worker's steps.
theorem pass_runs (p : Pass) (idle : s.worker = .idle) :
    ∃ actions, exec step s (.pass p.now::actions) = some (State.pass s p) := by
  obtain ⟨actions,ran⟩ := turns_run p (s.pending.keys.insertionSort (· ≤ ·)) s
  have same : {State.pass s p with worker := .idle} = State.pass s p := by
    rw [← idle,← turns_worker p (s.pending.keys.insertionSort (· ≤ ·)) s]
    rfl
  refine ⟨actions,?_⟩
  simp only [exec,step,idle,Option.bind_some]
  exact ran.trans (congrArg some same)

theorem turn_other (p : Pass) (s : State Json) (other : file ≠ id) :
    (turn p s file).pending.lookup id = s.pending.lookup id ∧ attempts (turn p s file) id = attempts s id := by
  have apart : id ≠ file := other.symm
  unfold turn
  split
  · exact ⟨rfl,rfl⟩
  · split
    · exact ⟨rfl,rfl⟩
    · split
      · simp [attempts,apart,other]
      · split <;> simp [attempts,apart,other]

-- A failing envelope with attempts left: the rename puts the file back as it was.
theorem turn_failing (lying : s.pending.lookup id = some e) (failing : p.success id = false)
    (left : e.retry.retryCount < maxRetryAttempts) :
    (turn p s id).pending.lookup id = some e ∧
      attempts (turn p s id) id = attempts s id+if e.nextRetryAt ≤ p.now then 1 else 0 := by
  have unspent : ¬e.retry.retryCount ≥ maxRetryAttempts := Nat.not_le_of_lt left
  by_cases due : e.nextRetryAt ≤ p.now
  · have punctual : ¬e.nextRetryAt > p.now := Int.not_lt.mpr due
    simp [turn,lying,punctual,failing,unspent,attempts,due]
  · have early : e.nextRetryAt > p.now := Int.not_le.mp due
    simp [turn,lying,early,due]

theorem turns_failing (files : List String) (lying : s.pending.lookup id = some e) (failing : p.success id = false)
    (left : e.retry.retryCount < maxRetryAttempts) :
    (files.foldl (turn p) s).pending.lookup id = some e ∧ attempts (files.foldl (turn p) s) id =
      attempts s id+if e.nextRetryAt ≤ p.now then files.count id else 0 := by
  induction files generalizing s with
  | nil => exact ⟨lying,by simp⟩
  | cons file files ih =>
    by_cases same : file = id
    · subst same
      obtain ⟨kept,counted⟩ := turn_failing lying failing left
      obtain ⟨pending,later⟩ := ih kept
      refine ⟨pending,?_⟩
      rw [List.foldl_cons,later,counted,List.count_cons_self]
      split <;> omega
    · obtain ⟨kept,counted⟩ := turn_other p s same
      obtain ⟨pending,later⟩ := ih (kept.trans lying)
      refine ⟨pending,?_⟩
      rw [List.foldl_cons,later,counted,List.count_cons_of_ne same]

theorem pass_failing (lying : s.pending.lookup id = some e) (failing : p.success id = false)
    (left : e.retry.retryCount < maxRetryAttempts) :
    (State.pass s p).pending.lookup id = some e ∧ (attempts s id < attempts (State.pass s p) id ↔ e.nextRetryAt ≤ p.now) := by
  obtain ⟨pending,counted⟩ := turns_failing (s.pending.keys.insertionSort (· ≤ ·)) lying failing left
  refine ⟨pending,?_⟩
  have listed : id ∈ s.pending.keys.insertionSort (· ≤ ·) := by
    rw [List.mem_insertionSort]
    exact AList.lookup_isSome.mp (by rw [lying]; rfl)
  have once := List.count_pos_iff.mpr listed
  unfold State.pass
  rw [counted]
  by_cases due : e.nextRetryAt ≤ p.now
  · rw [if_pos due]
    exact iff_of_true (by omega) due
  · rw [if_neg due]
    exact iff_of_false (by omega) due

theorem pass_backs_off {c : Call Json} (lying : s.pending.lookup c.id = some c.envelope) (failing : p.success c.id = false) :
    (attempts s c.id < attempts (State.pass s p) c.id → BacksOff c.id p s (State.pass s p)) ↔ p.now < c.nextRetryAt := by
  obtain ⟨pending,processed⟩ := pass_failing lying failing (by decide : 1 < maxRetryAttempts)
  constructor
  · intro backsOff
    by_contra late
    obtain ⟨_,retried,buried⟩ := backsOff (processed.mpr (Int.not_lt.mp late))
    by_cases last : attempts (State.pass s p) c.id = maxRetryAttempts
    · obtain ⟨_,_,_,_,gone,_⟩ := buried last
      rw [pending] at gone
      cases gone
    · obtain ⟨e,later,read,left,_,counted,_⟩ := retried last
      obtain rfl : c.envelope = e := Option.some.inj (lying.symm.trans read)
      obtain rfl : c.envelope = later := Option.some.inj (pending.symm.trans left)
      omega
  · intro early more
    exact absurd (processed.mp more) (Int.not_le.mpr early)

-- A pass that processes a failing envelope leaves its file exactly as `enqueue`
-- wrote it: nothing is counted and nothing is put off.
theorem spool_backs_off {c : Call Json} (passes : List Pass) (lying : s.pending.lookup c.id = some c.envelope)
    (failing : ∀ p ∈ passes, p.success c.id = false) :
    Along passed (fun s p next => attempts s c.id < attempts next c.id → BacksOff c.id p s next) s passes ↔
      ∀ p ∈ passes, p.now < c.nextRetryAt := by
  induction passes generalizing s with
  | nil => simp [Along]
  | cons p passes ih =>
    obtain ⟨fails,failing⟩ := List.forall_mem_cons.mp failing
    have kept := (pass_failing lying fails (by decide : 1 < maxRetryAttempts)).1
    simp only [Along,passed,Option.some.injEq,forall_eq',List.forall_mem_cons]
    rw [pass_backs_off lying fails]
    exact and_congr_right fun _ => ih kept failing

theorem original_closed : Closed (Original : View Json → Prop) where
  absent := .absent
  written := by
    intro v c original unknown
    cases original <;> cases unknown
    exact .temporary c
  published := by
    intro v e original lying
    cases original <;> cases lying
    exact .pending _
  moved := by
    intro v w success clock original moved
    cases moved with
    | passed _ => exact original
    | opened phase lying =>
      cases original <;> cases phase <;> cases lying
      exact .ready _
    | vanished phase missing =>
      cases original <;> cases phase
      cases missing
    | taken phase lying =>
      cases original <;> cases phase
      cases lying
      exact .processing _
    | accepted phase _ => cases original <;> cases phase; exact .succeeded _
    | given_up phase _ spent =>
      cases original <;> cases phase
      exact absurd spent (by decide : ¬maxRetryAttempts ≤ 1)
    | postponed phase _ _ => cases original <;> cases phase; exact .retrying _ _
    | finished phase => cases original <;> cases phase; exact .done _
    | copied phase => cases original <;> cases phase
    | moved_away phase => cases original <;> cases phase
    | rewritten phase => cases original <;> cases phase; exact .retried _ _
    | dropped phase missing =>
      cases original <;> cases phase
      cases missing
    | put_back phase lying =>
      cases original <;> cases phase
      cases lying
      exact .pending _

-- However often an envelope fails, it never gets to the dead-letter directory,
-- and between two passes it lies in the pending directory as it was enqueued.
theorem never_counted (path : Reached step Drawn State.initial s) :
    s.deadLetter = ∅ ∧ (s.worker = .idle → ∀ id e, s.pending.lookup id = some e →
      ∃ c ∈ s.calls, c.id = id ∧ e = c.envelope) := by
  have original (id : String) : Original (s.view id) := original_closed.reached path id
  constructor
  · refine Directory.eq_empty _ fun id => ?_
    have shape := original id
    generalize view : s.view id = v at shape
    have same : s.deadLetter.lookup id = v.deadLetter := congrArg View.deadLetter view
    rw [same]
    cases shape <;> rfl
  · intro idle id e lying
    have away : (s.view id).phase = .away := by simp [State.view,idle,Worker.phase]
    have called : ∃ c, (s.view id).call = some c ∧ e = c.envelope := by
      have shape := original id
      have pending : (s.view id).pending = some e := lying
      generalize s.view id = v at shape away pending
      cases shape <;> cases away <;> cases pending
      exact ⟨_,rfl,rfl⟩
    obtain ⟨c,found,same⟩ := called
    exact ⟨c,List.mem_of_find?_eq_some found,by simpa using List.find?_some found,same⟩

def uplink : Call Nat := ⟨"a","0004A30B001A2B3C","request-1",[("fCnt",7)],none,0,0⟩

-- `uplink` as its `enqueue` leaves it.
def enqueued : State Nat :=
  {State.initial with pending := (∅ : Directory Nat).insert "a" uplink.envelope,calls := [uplink]}

def failingAt (now : Instant) : Pass := ⟨now,fun _ => false,fun _ => now⟩

-- Two passes before the envelope is due.
theorem spool_backs_off_early :
    Along passed (fun s p next => attempts s "a" < attempts next "a" → BacksOff "a" p s next) enqueued
      [failingAt (-5000000),failingAt (-1)] :=
  (spool_backs_off (c := uplink) _ rfl fun p listed => by
    rcases List.mem_pair.mp listed with rfl | rfl <;> rfl).mpr fun p listed => by
      rcases List.mem_pair.mp listed with rfl | rfl <;> decide

-- Six passes, five seconds apart, all process the envelope, and it is still
-- pending as it was on the first day.
theorem spool_backs_off_repeats : ¬Along passed (fun s p next => attempts s "a" < attempts next "a" → BacksOff "a" p s next)
    enqueued ([0,5,10,15,20,25].map fun second => failingAt (1000000*second)) := by
  intro backsOff
  have read : enqueued.pending.lookup "a" = some uplink.envelope := rfl
  have left : (State.pass enqueued (failingAt 0)).pending.lookup "a" = some uplink.envelope := by decide +kernel
  obtain ⟨first,_⟩ := backsOff _ rfl
  obtain ⟨_,retried,_⟩ := first (by decide +kernel)
  obtain ⟨e,later,before,after,_,counted,_⟩ := retried (by decide +kernel)
  obtain rfl : uplink.envelope = e := Option.some.inj (read.symm.trans before)
  obtain rfl : uplink.envelope = later := Option.some.inj (left.symm.trans after)
  exact absurd counted (by decide)

end SmartParking.Uplink.SpoolRetries
