import Mathlib.Algebra.Group.Nat.Defs
import Mathlib.Data.List.AList
import Mathlib.Data.List.Sort
import SmartParking.Lib.Runs

namespace SmartParking.Uplink.Spool
open Lib.Runs

-- Microseconds.
abbrev Instant := Int

def maxRetryAttempts : Nat := 5

def initialBackoffSeconds : Nat := 2

def maxBackoffSeconds : Nat := 300

variable {Json : Type}

abbrev Dict (Json : Type) := List (String × Json)

-- The arguments of one call of `enqueue`, with the `uuid4` and the two clock
-- readings it draws.
structure Call (Json : Type) where
  id : String
  deviceEui : String
  requestId : String
  webhookData : Dict Json
  metadata : Option (Dict Json)
  enqueuedAt : Instant
  nextRetryAt : Instant
  deriving DecidableEq

structure Envelope (Json : Type) where
  id : String
  deviceEui : String
  requestId : String
  enqueuedAt : Instant
  retryCount : Nat
  nextRetryAt : Instant
  webhookData : Dict Json
  metadata : Dict Json
  deriving DecidableEq

def Call.envelope (c : Call Json) : Envelope Json where
  id := c.id
  deviceEui := c.deviceEui
  requestId := c.requestId
  enqueuedAt := c.enqueuedAt
  retryCount := 0
  nextRetryAt := c.nextRetryAt
  webhookData := c.webhookData
  metadata := c.metadata.getD []

-- The files of a directory with one suffix, by their stem.
abbrev Directory (Json : Type) := AList fun _ : String => Envelope Json

-- What `_process_pending_files` does next. Every file operation is a step of its
-- own; `now` is read once, before the directory is listed.
inductive Worker (Json : Type) where
  | idle
  | scanning (now : Instant) (files : List String)
  | ready (now : Instant) (files : List String) (file : String) (envelope : Envelope Json)
  | processing (now : Instant) (files : List String) (file : String) (envelope : Envelope Json)
  | succeeded (now : Instant) (files : List String) (file : String)
  | burying (now : Instant) (files : List String) (file : String) (envelope : Envelope Json)
  | buried (now : Instant) (files : List String) (file : String)
  | retrying (now : Instant) (files : List String) (file : String) (envelope : Envelope Json)
  | retried (now : Instant) (files : List String) (file : String)
  deriving DecidableEq

-- `temporary` holds the `.tmp` files of the pending directory, which its glob
-- leaves out. `calls` are the calls of `enqueue` and `outcomes` the returns of
-- `_process_envelope` so far, the latest first.
structure State (Json : Type) where
  temporary : Directory Json
  pending : Directory Json
  processing : Directory Json
  deadLetter : Directory Json
  worker : Worker Json
  calls : List (Call Json)
  outcomes : List (String × Bool)

def State.initial : State Json where
  temporary := ∅
  pending := ∅
  processing := ∅
  deadLetter := ∅
  worker := .idle
  calls := []
  outcomes := []

def backoff (retryCount : Nat) : Nat := min (initialBackoffSeconds*2^retryCount) maxBackoffSeconds

def Envelope.retry (envelope : Envelope Json) : Envelope Json :=
  {envelope with retryCount := envelope.retryCount+1}

def Envelope.reschedule (envelope : Envelope Json) (clock : Instant) : Envelope Json :=
  {envelope with nextRetryAt := clock+1000000*(backoff envelope.retryCount : Nat)}

-- One step of the pass. `success` is what `_process_envelope` returns and
-- `clock` the time where the code reads it again. A file that is not there
-- raises, and the loop goes on with the next one.
def State.advance (s : State Json) (success : Bool) (clock : Instant) : Option (State Json) :=
  match s.worker with
  | .idle => none
  | .scanning _ [] => some {s with worker := .idle}
  | .scanning now (file::files) =>
    match s.pending.lookup file with
    | none => some {s with worker := .scanning now files}
    | some envelope =>
      if envelope.nextRetryAt > now then some {s with worker := .scanning now files}
      else some {s with worker := .ready now files file envelope}
  | .ready now files file envelope =>
    match s.pending.lookup file with
    | none => some {s with worker := .scanning now files}
    | some content => some {s with
        pending := s.pending.erase file
        processing := s.processing.insert file content
        worker := .processing now files file envelope}
  | .processing now files file envelope =>
    let outcomes := (file,success)::s.outcomes
    if success then some {s with outcomes,worker := .succeeded now files file}
    else if envelope.retry.retryCount ≥ maxRetryAttempts then
      some {s with outcomes,worker := .burying now files file envelope.retry}
    else some {s with outcomes,worker := .retrying now files file (envelope.retry.reschedule clock)}
  | .succeeded now files file =>
    some {s with processing := s.processing.erase file,worker := .scanning now files}
  | .burying now files file envelope =>
    some {s with deadLetter := s.deadLetter.insert file envelope,worker := .buried now files file}
  | .buried now files file =>
    some {s with processing := s.processing.erase file,worker := .scanning now files}
  | .retrying now files file envelope =>
    some {s with pending := s.pending.insert file envelope,worker := .retried now files file}
  | .retried now files file =>
    match s.processing.lookup file with
    | none => some {s with worker := .scanning now files}
    -- The rename replaces the file just written.
    | some content => some {s with
        processing := s.processing.erase file
        pending := s.pending.insert file content
        worker := .scanning now files}

inductive Action (Json : Type) where
  | write (call : Call Json)
  | publish (id : String)
  | pass (now : Instant)
  | advance (success : Bool) (clock : Instant)

-- Calls of `enqueue`, each a write of the temporary file and its renaming, come
-- in anywhere in a pass. There is one worker: passes do not overlap.
def step (s : State Json) : Action Json → Option (State Json)
  | .write call => some {s with temporary := s.temporary.insert call.id call.envelope,calls := call::s.calls}
  | .publish id =>
    (s.temporary.lookup id).map fun envelope =>
      {s with temporary := s.temporary.erase id,pending := s.pending.insert id envelope}
  | .pass now =>
    match s.worker with
    | .idle => some {s with worker := .scanning now (s.pending.keys.insertionSort (· ≤ ·))}
    | _ => none
  | .advance success clock => s.advance success clock

-- `uuid4` does not repeat itself.
def Drawn (s : State Json) : Action Json → Prop
  | .write call => ∀ earlier ∈ s.calls, earlier.id ≠ call.id
  | _ => True

-- What the worker is doing with one file.
inductive Phase (Json : Type) where
  | away
  | ready (envelope : Envelope Json)
  | processing (envelope : Envelope Json)
  | succeeded
  | burying (envelope : Envelope Json)
  | buried
  | retrying (envelope : Envelope Json)
  | retried

def Worker.phase (id : String) : Worker Json → Phase Json
  | .idle | .scanning .. => .away
  | .ready _ _ file envelope => if file = id then .ready envelope else .away
  | .processing _ _ file envelope => if file = id then .processing envelope else .away
  | .succeeded _ _ file => if file = id then .succeeded else .away
  | .burying _ _ file envelope => if file = id then .burying envelope else .away
  | .buried _ _ file => if file = id then .buried else .away
  | .retrying _ _ file envelope => if file = id then .retrying envelope else .away
  | .retried _ _ file => if file = id then .retried else .away

-- The file the worker looks at or has in hand.
def Worker.file : Worker Json → Option String
  | .idle | .scanning _ [] => none
  | .scanning _ (file::_) | .ready _ _ file _ | .processing _ _ file _ | .succeeded _ _ file | .burying _ _ file _
  | .buried _ _ file | .retrying _ _ file _ | .retried _ _ file => some file

-- Everything the spool has about one id.
structure View (Json : Type) where
  call : Option (Call Json)
  phase : Phase Json
  temporary : Option (Envelope Json)
  pending : Option (Envelope Json)
  processing : Option (Envelope Json)
  deadLetter : Option (Envelope Json)
  success : Bool

def State.view (s : State Json) (id : String) : View Json where
  call := s.calls.find? (·.id = id)
  phase := s.worker.phase id
  temporary := s.temporary.lookup id
  pending := s.pending.lookup id
  processing := s.processing.lookup id
  deadLetter := s.deadLetter.lookup id
  success := (id,true) ∈ s.outcomes

structure Carries (c : Call Json) (envelope : Envelope Json) : Prop where
  id : envelope.id = c.id
  deviceEui : envelope.deviceEui = c.deviceEui
  requestId : envelope.requestId = c.requestId
  webhookData : envelope.webhookData = c.webhookData
  metadata : envelope.metadata = c.metadata.getD []

theorem Call.envelope_carries (c : Call Json) : Carries c c.envelope := ⟨rfl,rfl,rfl,rfl,rfl⟩

theorem Carries.retry {c : Call Json} (carried : Carries c envelope) : Carries c envelope.retry :=
  ⟨carried.id,carried.deviceEui,carried.requestId,carried.webhookData,carried.metadata⟩

theorem Carries.reschedule {c : Call Json} (carried : Carries c envelope) (clock : Instant) :
    Carries c (envelope.reschedule clock) :=
  ⟨carried.id,carried.deviceEui,carried.requestId,carried.webhookData,carried.metadata⟩

-- The places an envelope can be in. In the two phases in which it lies in two
-- directories at once the worker still has it in hand.
inductive Placed : View Json → Prop where
  | absent : Placed ⟨none,.away,none,none,none,none,false⟩
  | temporary : Carries c e → Placed ⟨some c,.away,some e,none,none,none,false⟩
  | pending : Carries c e → Placed ⟨some c,.away,none,some e,none,none,false⟩
  | ready : Carries c e → Placed ⟨some c,.ready e,none,some e,none,none,false⟩
  | processing : Carries c e → Placed ⟨some c,.processing e,none,none,some e,none,false⟩
  | succeeded : Placed ⟨some c,.succeeded,none,none,some e,none,true⟩
  | burying : Carries c e → Placed ⟨some c,.burying e,none,none,some old,none,false⟩
  | buried : Carries c e → Placed ⟨some c,.buried,none,none,some old,some e,false⟩
  | retrying : Carries c e → Carries c old → Placed ⟨some c,.retrying e,none,none,some old,none,false⟩
  | retried : Carries c e → Carries c old → Placed ⟨some c,.retried,none,some e,some old,none,false⟩
  | deadLetter : Carries c e → Placed ⟨some c,.away,none,none,none,some e,false⟩
  | done : Placed ⟨some c,.away,none,none,none,none,true⟩

-- What the worker's steps do to the view of the file they are about.
inductive Moved (success : Bool) (clock : Instant) : View Json → View Json → Prop where
  | passed : v.phase = .away → Moved success clock v v
  | opened : v.phase = .away → v.pending = some e → Moved success clock v {v with phase := .ready e}
  | vanished : v.phase = .ready e → v.pending = none → Moved success clock v {v with phase := .away}
  | taken : v.phase = .ready e → v.pending = some content →
      Moved success clock v {v with phase := .processing e,pending := none,processing := some content}
  | accepted : v.phase = .processing e → success = true →
      Moved success clock v {v with phase := .succeeded,success := true}
  | given_up : v.phase = .processing e → success = false → maxRetryAttempts ≤ e.retry.retryCount →
      Moved success clock v {v with phase := .burying e.retry}
  | postponed : v.phase = .processing e → success = false → e.retry.retryCount < maxRetryAttempts →
      Moved success clock v {v with phase := .retrying (e.retry.reschedule clock)}
  | finished : v.phase = .succeeded → Moved success clock v {v with phase := .away,processing := none}
  | copied : v.phase = .burying e → Moved success clock v {v with phase := .buried,deadLetter := some e}
  | moved_away : v.phase = .buried → Moved success clock v {v with phase := .away,processing := none}
  | rewritten : v.phase = .retrying e → Moved success clock v {v with phase := .retried,pending := some e}
  | dropped : v.phase = .retried → v.processing = none → Moved success clock v {v with phase := .away}
  | put_back : v.phase = .retried → v.processing = some content →
      Moved success clock v {v with phase := .away,processing := none,pending := some content}

-- A property of views that the calls of `enqueue` and the worker keep.
structure Closed (holds : View Json → Prop) : Prop where
  absent : holds ⟨none,.away,none,none,none,none,false⟩
  written : ∀ v c, holds v → v.call = none → holds {v with call := some c,temporary := some c.envelope}
  published : ∀ v e, holds v → v.temporary = some e → holds {v with temporary := none,pending := some e}
  moved : ∀ v w success clock, holds v → Moved success clock v w → holds w

variable {s next : State Json} {v w : View Json} {e content : Envelope Json} {id file : String} {now clock : Instant}
  {files : List String} {success : Bool}

-- What the worker does with the file it has in hand, and where that leaves it.
theorem Placed.opened (placed : Placed v) (phase : v.phase = .away) (lying : v.pending = some e) :
    Placed {v with phase := .ready e} := by
  cases placed <;> cases phase <;> cases lying
  exact .ready ‹_›

theorem Placed.taken (placed : Placed v) (phase : v.phase = .ready e) :
    v.pending = some e ∧ Placed {v with phase := .processing e,pending := none,processing := some e} := by
  cases placed <;> cases phase
  exact ⟨rfl,.processing ‹_›⟩

theorem Placed.of_processing (placed : Placed v) (phase : v.phase = .processing e) :
    ∃ c, Carries c e ∧ v = ⟨some c,.processing e,none,none,some e,none,false⟩ := by
  cases placed <;> cases phase
  exact ⟨_,‹_›,rfl⟩

theorem Placed.accepted (placed : Placed v) (phase : v.phase = .processing e) :
    Placed {v with phase := .succeeded,success := true} := by
  obtain ⟨c,carried,rfl⟩ := placed.of_processing phase
  exact .succeeded

theorem Placed.given_up (placed : Placed v) (phase : v.phase = .processing e) :
    Placed {v with phase := .burying e.retry} := by
  obtain ⟨c,carried,rfl⟩ := placed.of_processing phase
  exact .burying carried.retry

theorem Placed.postponed (placed : Placed v) (phase : v.phase = .processing e) (clock : Instant) :
    Placed {v with phase := .retrying (e.retry.reschedule clock)} := by
  obtain ⟨c,carried,rfl⟩ := placed.of_processing phase
  exact .retrying (carried.retry.reschedule clock) carried

theorem Placed.finished (placed : Placed v) (phase : v.phase = .succeeded) :
    Placed {v with phase := .away,processing := none} := by
  cases placed <;> cases phase
  exact .done

theorem Placed.copied (placed : Placed v) (phase : v.phase = .burying e) :
    Placed {v with phase := .buried,deadLetter := some e} := by
  cases placed <;> cases phase
  exact .buried ‹_›

theorem Placed.moved_away (placed : Placed v) (phase : v.phase = .buried) :
    Placed {v with phase := .away,processing := none} := by
  cases placed <;> cases phase
  exact .deadLetter ‹_›

theorem Placed.rewritten (placed : Placed v) (phase : v.phase = .retrying e) :
    Placed {v with phase := .retried,pending := some e} := by
  cases placed <;> cases phase
  exact .retried ‹_› ‹_›

theorem Placed.put_back (placed : Placed v) (phase : v.phase = .retried) :
    ∃ old, v.processing = some old ∧ Placed {v with phase := .away,processing := none,pending := some old} := by
  cases placed <;> cases phase
  exact ⟨_,rfl,.pending ‹_›⟩

theorem Placed.of_temporary (placed : Placed v) (lying : v.temporary = some e) :
    ∃ c, Carries c e ∧ v = ⟨some c,.away,some e,none,none,none,false⟩ := by
  cases placed <;> cases lying
  exact ⟨_,‹_›,rfl⟩

theorem Placed.of_unknown (placed : Placed v) (unknown : v.call = none) :
    v = ⟨none,.away,none,none,none,none,false⟩ := by
  cases placed <;> cases unknown
  rfl

-- A step of the pass is about one file.
theorem advance_view (other : s.worker.file ≠ some id) (ran : s.advance success clock = some next) :
    next.view id = s.view id := by
  unfold State.advance at ran
  cases working : s.worker with
  | idle => simp [working] at ran
  | scanning now files =>
    cases files with
    | nil =>
      simp only [working,Option.some.injEq] at ran
      subst ran
      simp [State.view,working,Worker.phase]
    | cons file files =>
      have apart : file ≠ id := by simpa [working,Worker.file] using other
      simp only [working] at ran
      split at ran
      · cases ran
        simp [State.view,working,Worker.phase]
      · split at ran
        · cases ran
          simp [State.view,working,Worker.phase]
        · cases ran
          simp [State.view,working,Worker.phase,apart]
  | ready now files file e =>
    have apart : file ≠ id := by simpa [working,Worker.file] using other
    simp only [working] at ran
    split at ran
    · cases ran
      simp [State.view,working,Worker.phase,apart]
    · cases ran
      simp [State.view,working,Worker.phase,apart,apart.symm]
  | processing now files file e =>
    have apart : file ≠ id := by simpa [working,Worker.file] using other
    simp only [working] at ran
    split at ran
    · cases ran
      simp [State.view,working,Worker.phase,apart,apart.symm]
    · split at ran
      · cases ran
        simp [State.view,working,Worker.phase,apart,apart.symm]
      · cases ran
        simp [State.view,working,Worker.phase,apart,apart.symm]
  | succeeded now files file | buried now files file =>
    have apart : file ≠ id := by simpa [working,Worker.file] using other
    simp only [working,Option.some.injEq] at ran
    subst ran
    simp [State.view,working,Worker.phase,apart,apart.symm]
  | burying now files file e | retrying now files file e =>
    have apart : file ≠ id := by simpa [working,Worker.file] using other
    simp only [working,Option.some.injEq] at ran
    subst ran
    simp [State.view,working,Worker.phase,apart,apart.symm]
  | retried now files file =>
    have apart : file ≠ id := by simpa [working,Worker.file] using other
    simp only [working] at ran
    split at ran
    · cases ran
      simp [State.view,working,Worker.phase,apart]
    · cases ran
      simp [State.view,working,Worker.phase,apart,apart.symm]

-- What the step does to that file.
theorem advance_moved (working : s.worker.file = some file) (ran : s.advance success clock = some next) :
    Moved success clock (s.view file) (next.view file) := by
  unfold State.advance at ran
  cases held : s.worker with
  | idle => simp [held] at ran
  | scanning now files =>
    cases files with
    | nil => simp [held,Worker.file] at working
    | cons first files =>
      obtain rfl : first = file := by simpa [held,Worker.file] using working
      have phase : (s.view first).phase = .away := by simp [State.view,held,Worker.phase]
      simp only [held] at ran
      split at ran
      · cases ran
        simpa [State.view,held,Worker.phase] using Moved.passed phase
      · rename_i lying
        split at ran
        · cases ran
          simpa [State.view,held,Worker.phase] using Moved.passed phase
        · cases ran
          simpa [State.view,Worker.phase] using Moved.opened phase lying
  | ready now files opened e =>
    obtain rfl : opened = file := by simpa [held,Worker.file] using working
    have phase : (s.view opened).phase = .ready e := by simp [State.view,held,Worker.phase]
    simp only [held] at ran
    split at ran
    · rename_i missing
      cases ran
      simpa [State.view,Worker.phase] using Moved.vanished phase missing
    · rename_i lying
      cases ran
      simpa [State.view,Worker.phase] using Moved.taken phase lying
  | processing now files opened e =>
    obtain rfl : opened = file := by simpa [held,Worker.file] using working
    have phase : (s.view opened).phase = .processing e := by simp [State.view,held,Worker.phase]
    simp only [held] at ran
    split at ran
    · rename_i returned
      cases ran
      simpa [State.view,Worker.phase,returned] using Moved.accepted phase returned
    · rename_i returned
      have failed : success = false := by simpa using returned
      split at ran
      · cases ran
        simpa [State.view,Worker.phase,failed] using Moved.given_up phase failed ‹_›
      · cases ran
        simpa [State.view,Worker.phase,failed] using Moved.postponed phase failed (Nat.lt_of_not_le ‹_›)
  | succeeded now files opened =>
    obtain rfl : opened = file := by simpa [held,Worker.file] using working
    have phase : (s.view opened).phase = .succeeded := by simp [State.view,held,Worker.phase]
    simp only [held,Option.some.injEq] at ran
    subst ran
    simpa [State.view,Worker.phase] using Moved.finished phase
  | burying now files opened e =>
    obtain rfl : opened = file := by simpa [held,Worker.file] using working
    have phase : (s.view opened).phase = .burying e := by simp [State.view,held,Worker.phase]
    simp only [held,Option.some.injEq] at ran
    subst ran
    simpa [State.view,Worker.phase] using Moved.copied phase
  | buried now files opened =>
    obtain rfl : opened = file := by simpa [held,Worker.file] using working
    have phase : (s.view opened).phase = .buried := by simp [State.view,held,Worker.phase]
    simp only [held,Option.some.injEq] at ran
    subst ran
    simpa [State.view,Worker.phase] using Moved.moved_away phase
  | retrying now files opened e =>
    obtain rfl : opened = file := by simpa [held,Worker.file] using working
    have phase : (s.view opened).phase = .retrying e := by simp [State.view,held,Worker.phase]
    simp only [held,Option.some.injEq] at ran
    subst ran
    simpa [State.view,Worker.phase] using Moved.rewritten phase
  | retried now files opened =>
    obtain rfl : opened = file := by simpa [held,Worker.file] using working
    have phase : (s.view opened).phase = .retried := by simp [State.view,held,Worker.phase]
    simp only [held] at ran
    split at ran
    · rename_i missing
      cases ran
      simpa [State.view,Worker.phase] using Moved.dropped phase missing
    · rename_i lying
      cases ran
      simpa [State.view,Worker.phase] using Moved.put_back phase lying

theorem Placed.moved (placed : Placed v) (moved : Moved success clock v w) : Placed w := by
  cases moved with
  | passed _ => exact placed
  | opened phase lying => exact placed.opened phase lying
  | vanished phase missing =>
    obtain ⟨lying,_⟩ := placed.taken phase
    rw [missing] at lying
    cases lying
  | taken phase lying =>
    obtain ⟨read,taken⟩ := placed.taken phase
    obtain rfl := Option.some.inj (read.symm.trans lying)
    exact taken
  | accepted phase _ => exact placed.accepted phase
  | given_up phase _ _ => exact placed.given_up phase
  | postponed phase _ _ => exact placed.postponed phase clock
  | finished phase => exact placed.finished phase
  | copied phase => exact placed.copied phase
  | moved_away phase => exact placed.moved_away phase
  | rewritten phase => exact placed.rewritten phase
  | dropped phase missing =>
    obtain ⟨old,lying,_⟩ := placed.put_back phase
    rw [missing] at lying
    cases lying
  | put_back phase lying =>
    obtain ⟨old,read,back⟩ := placed.put_back phase
    obtain rfl := Option.some.inj (read.symm.trans lying)
    exact back

section Views

variable {holds : View Json → Prop}

theorem Closed.write (closed : Closed holds) (valid : ∀ id, holds (s.view id)) (c : Call Json)
    (fresh : ∀ earlier ∈ s.calls, earlier.id ≠ c.id) (ran : step s (.write c) = some next) : ∀ id, holds (next.view id) := by
  cases ran
  intro id
  by_cases same : id = c.id
  · subst same
    have unknown : (s.view c.id).call = none := by simpa [State.view] using fresh
    simpa [State.view] using closed.written _ c (valid c.id) unknown
  · simpa [State.view,same,Ne.symm same] using valid id

theorem Closed.publish (closed : Closed holds) (valid : ∀ id, holds (s.view id))
    (ran : step s (.publish file) = some next) : ∀ id, holds (next.view id) := by
  obtain ⟨e,lying,rfl⟩ := Option.map_eq_some_iff.mp ran
  intro id
  by_cases same : id = file
  · subst same
    simpa [State.view] using closed.published _ e (valid id) lying
  · simpa [State.view,same] using valid id

theorem pass_view (ran : step s (.pass now) = some next) : next.view id = s.view id := by
  cases working : s.worker with
  | idle =>
    simp only [step,working,Option.some.injEq] at ran
    subst ran
    simp [State.view,working,Worker.phase]
  | _ => simp [step,working] at ran

theorem Closed.advance (closed : Closed holds) (valid : ∀ id, holds (s.view id))
    (ran : s.advance success clock = some next) : ∀ id, holds (next.view id) := by
  intro id
  by_cases working : s.worker.file = some id
  · exact closed.moved _ _ _ _ (valid id) (advance_moved working ran)
  · rw [advance_view working ran]
    exact valid id

theorem Closed.step {action : Action Json} (closed : Closed holds) (valid : ∀ id, holds (s.view id))
    (drawn : Drawn s action) (ran : step s action = some next) : ∀ id, holds (next.view id) := by
  cases action with
  | write c => exact closed.write valid c drawn ran
  | publish id => exact closed.publish valid ran
  | pass now =>
    intro id
    rw [pass_view ran]
    exact valid id
  | advance success clock => exact closed.advance valid ran

theorem Closed.reached (closed : Closed holds) (path : Reached Spool.step Drawn State.initial s) (id : String) :
    holds (s.view id) :=
  path.invariant (fun s => ∀ id, holds (s.view id)) (fun _ => closed.absent) closed.step id

end Views

theorem placed_closed : Closed (Placed : View Json → Prop) where
  absent := .absent
  written := by
    intro v c placed unknown
    rw [placed.of_unknown unknown]
    exact .temporary c.envelope_carries
  published := by
    intro v e placed lying
    obtain ⟨c,carried,rfl⟩ := placed.of_temporary lying
    exact .pending carried
  moved := fun _ _ _ _ placed => placed.moved

def Sound (s : State Json) : Prop := ∀ id, Placed (s.view id)

theorem reached_sound (path : Reached step Drawn State.initial s) : Sound s := placed_closed.reached path

def Distinct (s : State Json) : Prop := s.calls.Pairwise fun later earlier => earlier.id ≠ later.id

theorem advance_calls (ran : s.advance success clock = some next) : next.calls = s.calls := by
  unfold State.advance at ran
  repeat' split at ran
  all_goals cases ran
  all_goals rfl

theorem step_distinct {action : Action Json} (distinct : Distinct s) (drawn : Drawn s action)
    (ran : step s action = some next) : Distinct next := by
  cases action with
  | write c =>
    cases ran
    exact List.pairwise_cons.mpr ⟨drawn,distinct⟩
  | publish id =>
    obtain ⟨e,_,rfl⟩ := Option.map_eq_some_iff.mp ran
    exact distinct
  | pass now =>
    cases working : s.worker with
    | idle =>
      simp only [step,working,Option.some.injEq] at ran
      subst ran
      exact distinct
    | _ => simp [step,working] at ran
  | advance success clock =>
    unfold Distinct
    rw [advance_calls ran]
    exact distinct

theorem find_call {calls : List (Call Json)} (distinct : calls.Pairwise fun later earlier => earlier.id ≠ later.id)
    (called : c ∈ calls) : calls.find? (·.id = c.id) = some c := by
  induction calls with
  | nil => cases called
  | cons latest earlier ih =>
    obtain ⟨apart,rest⟩ := List.pairwise_cons.mp distinct
    rcases List.mem_cons.mp called with rfl | before
    · simp
    · have differs : latest.id ≠ c.id := fun same => apart c before same.symm
      simpa [differs] using ih rest before

def Settled (s : State Json) : Prop :=
  s.outcomes.Pairwise fun later earlier => earlier.2 = true → later.1 ≠ earlier.1

-- No envelope is handed to `_process_envelope` after it was processed.
structure Once (s : State Json) : Prop where
  returned : Settled s
  running : ∀ now files file e, s.worker = .processing now files file e → (file,true) ∉ s.outcomes

theorem Sound.running (valid : Sound s) (working : s.worker = .processing now files file e) :
    (file,true) ∉ s.outcomes := by
  have phase : (s.view file).phase = .processing e := by simp [State.view,working,Worker.phase]
  obtain ⟨c,_,shape⟩ := (valid file).of_processing phase
  exact of_decide_eq_false (congrArg View.success shape)

-- Only a return of `_process_envelope` adds to the outcomes.
theorem step_outcomes {action : Action Json} (ran : step s action = some next) :
    next.outcomes = s.outcomes ∨
      ∃ now files file e success, s.worker = .processing now files file e ∧
        next.outcomes = (file,success)::s.outcomes := by
  cases action with
  | write c => cases ran; exact .inl rfl
  | publish id =>
    obtain ⟨e,_,rfl⟩ := Option.map_eq_some_iff.mp ran
    exact .inl rfl
  | pass now =>
    cases working : s.worker with
    | idle =>
      simp only [step,working,Option.some.injEq] at ran
      subst ran
      exact .inl rfl
    | _ => simp [step,working] at ran
  | advance success clock =>
    cases working : s.worker with
    | processing now files file e =>
      refine .inr ⟨now,files,file,e,success,rfl,?_⟩
      simp only [step,State.advance,working] at ran
      repeat' split at ran
      all_goals cases ran
      all_goals rfl
    | scanning now files =>
      refine .inl ?_
      cases files <;> simp only [step,State.advance,working] at ran
      all_goals repeat' split at ran
      all_goals cases ran
      all_goals rfl
    | _ =>
      refine .inl ?_
      simp only [step,State.advance,working] at ran
      repeat' split at ran
      all_goals cases ran
      all_goals rfl

theorem step_settled {action : Action Json} (valid : Sound s) (settled : Settled s)
    (ran : step s action = some next) : Settled next := by
  unfold Settled
  rcases step_outcomes ran with same | ⟨now,files,file,e,success,working,added⟩
  · rw [same]
    exact settled
  · rw [added]
    refine List.pairwise_cons.mpr ⟨?_,settled⟩
    intro earlier before succeeded same
    obtain ⟨other,outcome⟩ := earlier
    cases same
    cases succeeded
    exact valid.running working before

theorem reached_once (path : Reached step Drawn State.initial s) : Once s := by
  refine ⟨?_,fun _ _ _ _ working => (reached_sound path).running working⟩
  exact path.invariantUnder Sound Settled reached_sound .nil fun valid settled _ ran => step_settled valid settled ran

-- Between two passes.
structure Conserved (s : State Json) : Prop where
  processing : s.processing = ∅
  unprocessed : ∀ c ∈ s.calls, c.id ∉ s.temporary → (c.id,true) ∉ s.outcomes →
    (∃ e, s.pending.lookup c.id = some e ∧ c.id ∉ s.deadLetter ∧ Carries c e) ∨
      ∃ e, s.deadLetter.lookup c.id = some e ∧ c.id ∉ s.pending ∧ Carries c e
  processed : ∀ c ∈ s.calls, (c.id,true) ∈ s.outcomes → c.id ∉ s.pending ∧ c.id ∉ s.deadLetter

theorem Directory.eq_empty (d : Directory Json) (bare : ∀ id, d.lookup id = none) : d = ∅ := by
  have keys : d.keys = [] :=
    List.eq_nil_iff_forall_not_mem.mpr fun id listed => AList.lookup_eq_none.mp (bare id) listed
  exact AList.ext (List.map_eq_nil_iff.mp keys)

theorem Placed.away_processing (placed : Placed v) (away : v.phase = .away) : v.processing = none := by
  cases placed <;> first | rfl | cases away

theorem Placed.away_unprocessed (placed : Placed v) (away : v.phase = .away) (called : v.call = some c)
    (published : v.temporary = none) (unsuccessful : v.success = false) :
    (∃ e, v.pending = some e ∧ v.deadLetter = none ∧ Carries c e) ∨
      ∃ e, v.deadLetter = some e ∧ v.pending = none ∧ Carries c e := by
  cases placed <;> cases away <;> cases called <;> cases published <;> cases unsuccessful
  · exact .inl ⟨_,rfl,rfl,‹_›⟩
  · exact .inr ⟨_,rfl,rfl,‹_›⟩

theorem Placed.away_processed (placed : Placed v) (away : v.phase = .away) (successful : v.success = true) :
    v.pending = none ∧ v.deadLetter = none := by
  cases placed <;> cases away <;> cases successful
  exact ⟨rfl,rfl⟩

theorem Sound.conserved (valid : Sound s) (distinct : Distinct s) (idle : s.worker = .idle) : Conserved s := by
  have away (id : String) : (s.view id).phase = .away := by simp [State.view,idle,Worker.phase]
  refine ⟨Directory.eq_empty _ fun id => (valid id).away_processing (away id),?_,?_⟩
  · intro c called published unsuccessful
    have placed := (valid c.id).away_unprocessed (away c.id) (find_call distinct called)
      (AList.lookup_eq_none.mpr published) (decide_eq_false unsuccessful)
    rcases placed with ⟨e,lying,elsewhere,carried⟩ | ⟨e,lying,elsewhere,carried⟩
    · exact .inl ⟨e,lying,AList.lookup_eq_none.mp elsewhere,carried⟩
    · exact .inr ⟨e,lying,AList.lookup_eq_none.mp elsewhere,carried⟩
  · intro c _ successful
    obtain ⟨pending,deadLetter⟩ := (valid c.id).away_processed (away c.id) (decide_eq_true successful)
    exact ⟨AList.lookup_eq_none.mp pending,AList.lookup_eq_none.mp deadLetter⟩

-- However calls of `enqueue` and passes interleave, and whatever the handler
-- returns, nothing is lost, changed or processed twice.
theorem spool_conserves (path : Reached step Drawn State.initial s) :
    Once s ∧ (s.worker = .idle → Conserved s) := by
  refine ⟨reached_once path,(reached_sound path).conserved ?_⟩
  exact path.invariant Distinct .nil step_distinct

def drawn (s : State Json) : Action Json → Bool
  | .write call => s.calls.all (·.id ≠ call.id)
  | _ => true

theorem drawn_sound {action : Action Json} (test : drawn s action = true) : Drawn s action := by
  cases action with
  | write c => simpa [drawn,Drawn] using test
  | _ => trivial

-- The first envelope fails in one pass and is processed in the next; the second,
-- enqueued while the first pass runs, stays pending.
theorem spool_conserves_retried : ∃ s : State Nat,
    Reached step Drawn State.initial s ∧ s.worker = .idle ∧ ("a",true) ∈ s.outcomes ∧ ("a",false) ∈ s.outcomes ∧
      (∃ c ∈ s.calls, c.id = "b" ∧ c.id ∉ s.temporary ∧ ("b",true) ∉ s.outcomes) ∧ Once s ∧ Conserved s := by
  have begun : Reached step Drawn (State.initial : State Nat) State.initial := .refl
  obtain ⟨s,path,idle,processed,failed,second⟩ := begun.found drawn
    (fun s => s.worker = .idle ∧ ("a",true) ∈ s.outcomes ∧ ("a",false) ∈ s.outcomes ∧
      ∃ c ∈ s.calls, c.id = "b" ∧ c.id ∉ s.temporary ∧ ("b",true) ∉ s.outcomes)
    [.write ⟨"a","0004A30B001A2B3C","request-1",[("fCnt",7)],none,0,0⟩,.publish "a",.pass 1,.advance false 1,
     .advance false 1,.write ⟨"b","0004A30B001A2B3D","request-2",[("fCnt",8)],some [("error",0)],2,2⟩,
     .advance false 3,.publish "b",.advance false 3,.advance false 3,.advance false 3,
     .pass 4,.advance true 4,.advance true 4,.advance true 4,.advance true 4,
     .advance false 5,.advance false 5,.advance false 5,.advance false 5,.advance false 5,.advance false 5]
    (fun _ test => drawn_sound test) (by decide +kernel)
  obtain ⟨once,conserved⟩ := spool_conserves path
  exact ⟨s,path,idle,processed,failed,second,once,conserved idle⟩

end SmartParking.Uplink.Spool
