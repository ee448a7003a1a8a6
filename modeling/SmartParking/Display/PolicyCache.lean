import SmartParking.Display.Priority
import SmartParking.Lib.Runs

namespace SmartParking.Display.PolicyCache
open Lib
open Reservations (Uuid)

-- The object that `_get_display_policy` makes of a row, or of none.
structure DisplayPolicy where
  id : String
  tenantId : Uuid
  name : String
  reservedSoonThresholdSec : Int := 900
  sensorUnknownTimeoutSec : Int := 60
  debounceWindowSec : Int := 10
  occupiedColor : String := "FF0000"
  freeColor : String := "00FF00"
  reservedColor : String := "FFA500"
  reservedSoonColor : String := "FFFF00"
  blockedColor : String := "808080"
  outOfServiceColor : String := "800080"
  blinkReservedSoon : Bool := false
  blinkPatternMs : Option Int := some 500
  allowSensorOverride : Bool := true
  deriving DecidableEq

-- `str(row['id'])`; a stored row has an id.
def idText (id : Option Uuid) : String := (id.map toString).getD "None"

def displayPolicy (tenantId : Uuid) : Option PolicyRow → DisplayPolicy
  | none => {id := "default",tenantId := tenantId,name := "Default Policy"}
  | some row =>
    {id := idText row.id,tenantId := row.tenantId,name := row.name
     reservedSoonThresholdSec := row.reservedSoonThresholdSec
     sensorUnknownTimeoutSec := row.sensorUnknownTimeoutSec
     debounceWindowSec := row.debounceWindowSec
     occupiedColor := row.occupiedColor
     freeColor := row.freeColor
     reservedColor := row.reservedColor
     reservedSoonColor := row.reservedSoonColor
     blockedColor := row.blockedColor
     outOfServiceColor := row.outOfServiceColor
     blinkReservedSoon := row.blinkReservedSoon
     blinkPatternMs := row.blinkPatternMs
     allowSensorOverride := row.allowSensorOverride}

def cacheTtl : Instant := 300*second

-- A call of process `p` between two awaits. `check` has the reply of the version
-- GET, `store` the row of the SELECT. `announced` lists the changes whose INCR
-- came before the GET; the program does not have it.
inductive CallPc where
  | idle
  | get (p : Nat) (tenantId : Uuid)
  | check (p : Nat) (tenantId : Uuid) (version : Nat) (announced : List Nat)
  | fetch (p : Nat) (tenantId : Uuid) (version : Nat) (announced : List Nat)
  | store (p : Nat) (tenantId : Uuid) (version : Nat) (announced : List Nat) (row : Option PolicyRow)

-- A writer that has committed a change is about to bump the version.
inductive WriterPc where
  | idle
  | committed (tenantId : Uuid) (index : Nat)

structure Returned where
  call : Nat
  tenantId : Uuid
  announced : List Nat
  policy : DisplayPolicy

-- `history` has every committed active policy of a tenant, oldest first, and a
-- change is known by its place there. `version` is the Redis key, 0 when it does
-- not exist.
structure State where
  history : Uuid → List (Option PolicyRow)
  version : Uuid → Nat
  cache : Nat → Uuid → Option (DisplayPolicy × Nat)
  cacheTime : Nat → Uuid → Option Instant
  calls : Nat → CallPc
  writers : Nat → WriterPc
  announced : Uuid → List Nat
  returned : List Returned

def State.initial (rows : Uuid → Option PolicyRow) : State :=
  ⟨fun t => [rows t],fun _ => 0,fun _ _ => none,fun _ _ => none,fun _ => .idle,fun _ => .idle,fun _ => [],[]⟩

def State.current (s : State) (tenantId : Uuid) : Option PolicyRow := ((s.history tenantId).getLast?).join

def State.move (s : State) (c : Nat) (pc : CallPc) : State := {s with calls := Function.update s.calls c pc}

def State.answer (s : State) (c : Nat) (tenantId : Uuid) (announced : List Nat) (policy : DisplayPolicy) : State :=
  {s with calls := Function.update s.calls c .idle,returned := ⟨c,tenantId,announced,policy⟩::s.returned}

-- Only use cache if version matches.
def State.hit (s : State) (p : Nat) (tenantId : Uuid) (version : Nat) (now : Instant) : Option DisplayPolicy :=
  match s.cacheTime p tenantId with
  | none => none
  | some time =>
    if now-time < cacheTtl then
      match s.cache p tenantId with
      | none => none
      | some (policy,cached) => if cached = version then some policy else none
    else none

def State.remember (s : State) (p : Nat) (tenantId : Uuid) (policy : DisplayPolicy) (version : Nat) (now : Instant) : State :=
  {s with
    cache := Function.update s.cache p (Function.update (s.cache p) tenantId (some (policy,version)))
    cacheTime := Function.update s.cacheTime p (Function.update (s.cacheTime p) tenantId (some now))}

def State.forget (s : State) (p : Nat) (tenantId : Uuid) : State :=
  {s with
    cache := Function.update s.cache p (Function.update (s.cache p) tenantId none)
    cacheTime := Function.update s.cacheTime p (Function.update (s.cacheTime p) tenantId none)}

def run (s : State) (c : Nat) (now : Instant) : CallPc → Option State
  | .idle => none
  | .get p t => some (s.move c (.check p t (s.version t) (s.announced t)))
  | .check p t version announced =>
    match s.hit p t version now with
    | some policy => some (s.answer c t announced policy)
    | none => some (s.move c (.fetch p t version announced))
  | .fetch p t version announced => some (s.move c (.store p t version announced (s.current t)))
  | .store p t version announced row =>
    some ((s.remember p t (displayPolicy t row) version now).answer c t announced (displayPolicy t row))

def State.commit (s : State) (w : Nat) (tenantId : Uuid) (row : Option PolicyRow) : State :=
  {s with
    history := Function.update s.history tenantId (s.history tenantId ++ [row])
    writers := Function.update s.writers w (.committed tenantId (s.history tenantId).length)}

def State.incr (s : State) (w : Nat) (tenantId : Uuid) (index : Nat) : State :=
  {s with
    version := Function.update s.version tenantId (s.version tenantId+1)
    announced := Function.update s.announced tenantId (s.announced tenantId ++ [index])
    writers := Function.update s.writers w .idle}

-- A writer may commit more than once before its INCR: a new policy is stored
-- after the old one is made inactive.
inductive Action where
  | call (c p : Nat) (tenantId : Uuid)
  | run (c : Nat) (now : Instant)
  | commit (w : Nat) (tenantId : Uuid) (row : Option PolicyRow)
  | incr (w : Nat)
  | invalidate (p : Nat) (tenantId : Uuid)

def step (s : State) : Action → Option State
  | .call c p t =>
    match s.calls c with
    | .idle => some (s.move c (.get p t))
    | _ => none
  | .run c now => run s c now (s.calls c)
  | .commit w t row => some (s.commit w t row)
  | .incr w =>
    match s.writers w with
    | .idle => none
    | .committed t index => some (s.incr w t index)
  | .invalidate p t => some (s.forget p t)

-- All that a step can do.
inductive Stepped (s : State) : State → Prop where
  | called (c p : Nat) (t : Uuid) : Stepped s (s.move c (.get p t))
  | got (c p : Nat) (t : Uuid) : Stepped s (s.move c (.check p t (s.version t) (s.announced t)))
  | hit (c p : Nat) : s.calls c = .check p t version announced → s.cache p t = some (policy,version) →
      Stepped s (s.answer c t announced policy)
  | missed (c p : Nat) : s.calls c = .check p t version announced → Stepped s (s.move c (.fetch p t version announced))
  | fetched (c p : Nat) : s.calls c = .fetch p t version announced →
      Stepped s (s.move c (.store p t version announced (s.current t)))
  | stored (c p : Nat) (now : Instant) : s.calls c = .store p t version announced row →
      Stepped s ((s.remember p t (displayPolicy t row) version now).answer c t announced (displayPolicy t row))
  | committed (w : Nat) (t : Uuid) (row : Option PolicyRow) : Stepped s (s.commit w t row)
  | incremented (w : Nat) : s.writers w = .committed t index → Stepped s (s.incr w t index)
  | forgotten (p : Nat) (t : Uuid) : Stepped s (s.forget p t)

theorem hit_cached {s : State} (found : s.hit p t version now = some policy) : s.cache p t = some (policy,version) := by
  unfold State.hit at found
  split at found
  · cases found
  · split at found
    · split at found
      · cases found
      · rename_i cached stored
        split at found
        · rename_i same
          cases found
          rw [stored,same]
        · cases found
    · cases found

theorem run_sound (ran : run s c now (s.calls c) = some next) : Stepped s next := by
  cases before : s.calls c with
  | idle => rw [before] at ran; cases ran
  | get p t =>
    rw [before] at ran
    cases ran
    exact .got c p t
  | check p t version announced =>
    simp only [before,run] at ran
    split at ran
    · rename_i policy found
      cases ran
      exact .hit c p before (hit_cached found)
    · cases ran
      exact .missed c p before
  | fetch p t version announced =>
    rw [before] at ran
    cases ran
    exact .fetched c p before
  | store p t version announced row =>
    rw [before] at ran
    cases ran
    exact .stored c p now before

theorem step_sound (ran : step s action = some next) : Stepped s next := by
  cases action with
  | call c p t =>
    simp only [step] at ran
    split at ran
    · cases ran; exact .called c p t
    · cases ran
  | run c now => exact run_sound ran
  | commit w t row => cases ran; exact .committed w t row
  | incr w =>
    simp only [step] at ran
    split at ran
    · cases ran
    · cases ran; exact .incremented w ‹_›
  | invalidate p t => cases ran; exact .forgotten p t

-- The policy was the committed one at or after every change of the list.
def Recent (history : List (Option PolicyRow)) (tenantId : Uuid) (changes : List Nat) (policy : DisplayPolicy) : Prop :=
  ∃ later row, history[later]? = some row ∧ policy = displayPolicy tenantId row ∧ ∀ index ∈ changes, index ≤ later

theorem Recent.append (recent : Recent history t changes policy) (row : Option PolicyRow) :
    Recent (history ++ [row]) t changes policy := by
  obtain ⟨later,old,found,same,covers⟩ := recent
  refine ⟨later,old,?_,same,covers⟩
  rw [List.getElem?_append_left (List.getElem?_eq_some_iff.mp found).1,found]

def CallPc.reading : CallPc → Option (Uuid × Nat × List Nat)
  | .check _ t version announced | .fetch _ t version announced | .store _ t version announced _ =>
    some (t,version,announced)
  | _ => none

-- A version stands for the changes announced up to it. What is cached under a
-- version, or fetched by a call that knows it, has seen all of these.
structure Coherent (s : State) : Prop where
  version : ∀ t, s.version t = (s.announced t).length
  written : ∀ w t index, s.writers w = .committed t index → index < (s.history t).length
  announced : ∀ t, ∀ index ∈ s.announced t, index < (s.history t).length
  nonempty : ∀ t, s.history t ≠ []
  cached : ∀ p t policy version, s.cache p t = some (policy,version) → version ≤ (s.announced t).length ∧
    Recent (s.history t) t ((s.announced t).take version) policy
  reading : ∀ c t version known, (s.calls c).reading = some (t,version,known) →
    version ≤ (s.announced t).length ∧ known = (s.announced t).take version
  fetched : ∀ c p t version known row, s.calls c = .store p t version known row →
    Recent (s.history t) t known (displayPolicy t row)
  returned : ∀ r ∈ s.returned, Recent (s.history r.tenantId) r.tenantId r.announced r.policy

theorem current_recent (coherent : Coherent s) (within : ∀ index ∈ known, index ∈ s.announced t) :
    Recent (s.history t) t known (displayPolicy t (s.current t)) := by
  have last := List.getLast?_eq_some_getLast (coherent.nonempty t)
  refine ⟨(s.history t).length-1,s.current t,?_,rfl,?_⟩
  · rw [State.current,last,Option.join_some,← List.getLast?_eq_getElem?,last]
  · intro index member
    have bound := coherent.announced t index (within index member)
    omega

theorem Coherent.move (coherent : Coherent s)
    (reading : ∀ t version known, pc.reading = some (t,version,known) →
      version ≤ (s.announced t).length ∧ known = (s.announced t).take version)
    (fetched : ∀ p t version known row, pc = .store p t version known row →
      Recent (s.history t) t known (displayPolicy t row)) : Coherent (s.move c pc) := by
  refine {coherent with reading := ?_,fetched := ?_}
  · intro d t version known at'
    by_cases same : d = c
    · subst d
      simp only [State.move,Function.update_self] at at'
      exact reading t version known at'
    · simp only [State.move,Function.update_of_ne same] at at'
      exact coherent.reading d t version known at'
  · intro d p t version known row at'
    by_cases same : d = c
    · subst d
      simp only [State.move,Function.update_self] at at'
      exact fetched p t version known row at'
    · simp only [State.move,Function.update_of_ne same] at at'
      exact coherent.fetched d p t version known row at'

theorem Coherent.answer (coherent : Coherent s) (recent : Recent (s.history t) t known policy) :
    Coherent (s.answer c t known policy) := by
  have idle : Coherent (s.move c .idle) := by
    apply coherent.move
    · intro _ _ _ none
      cases none
    · intro _ _ _ _ _ none
      cases none
  refine {idle with returned := ?_}
  intro r member
  rcases List.mem_cons.mp member with rfl | old
  · exact recent
  · exact coherent.returned r old

theorem Coherent.remember (coherent : Coherent s) (within : v ≤ (s.announced t).length)
    (recent : Recent (s.history t) t ((s.announced t).take v) policy) : Coherent (s.remember p t policy v now) := by
  refine {coherent with cached := ?_}
  intro q u other w found
  by_cases same : q = p
  · rw [same] at found
    simp only [State.remember,Function.update_self] at found
    by_cases tenant : u = t
    · subst u
      simp only [Function.update_self] at found
      cases found
      exact ⟨within,recent⟩
    · rw [Function.update_of_ne tenant] at found
      exact coherent.cached p u other w found
  · simp only [State.remember,Function.update_of_ne same] at found
    exact coherent.cached q u other w found

theorem Coherent.forget (coherent : Coherent s) : Coherent (s.forget p t) := by
  refine {coherent with cached := ?_}
  intro q u other v found
  by_cases same : q = p
  · rw [same] at found
    simp only [State.forget,Function.update_self] at found
    by_cases tenant : u = t
    · simp [tenant] at found
    · rw [Function.update_of_ne tenant] at found
      exact coherent.cached p u other v found
  · simp only [State.forget,Function.update_of_ne same] at found
    exact coherent.cached q u other v found

theorem commit_history (s : State) (w : Nat) (t u : Uuid) (row : Option PolicyRow) :
    (s.commit w t row).history u = s.history u ∨ (s.commit w t row).history u = s.history u ++ [row] := by
  by_cases same : u = t
  · subst u
    exact .inr (by simp [State.commit])
  · exact .inl (by simp [State.commit,same])

-- A commit only lengthens the history.
theorem Coherent.commit (coherent : Coherent s) : Coherent (s.commit w t row) := by
  have longer : ∀ u, (s.history u).length ≤ ((s.commit w t row).history u).length := by
    intro u
    rcases commit_history s w t u row with same | more
    · rw [same]
    · simp [more]
  have kept : ∀ u known policy, Recent (s.history u) u known policy →
      Recent ((s.commit w t row).history u) u known policy := by
    intro u known policy recent
    rcases commit_history s w t u row with same | more
    · rwa [same]
    · rw [more]
      exact recent.append row
  refine {coherent with written := ?_,announced := ?_,nonempty := ?_,cached := ?_,fetched := ?_,returned := ?_}
  · intro v u index at'
    by_cases same : v = w
    · rw [same] at at'
      simp only [State.commit,Function.update_self,WriterPc.committed.injEq] at at'
      obtain ⟨rfl,rfl⟩ := at'
      simp [State.commit]
    · simp only [State.commit,Function.update_of_ne same] at at'
      exact lt_of_lt_of_le (coherent.written v u index at') (longer u)
  · intro u index member
    exact lt_of_lt_of_le (coherent.announced u index member) (longer u)
  · intro u
    have before := List.length_pos_iff.mpr (coherent.nonempty u)
    exact List.length_pos_iff.mp (lt_of_lt_of_le before (longer u))
  · intro p u policy v found
    obtain ⟨within,recent⟩ := coherent.cached p u policy v found
    exact ⟨within,kept u _ _ recent⟩
  · intro c p u v known old at'
    exact kept u _ _ (coherent.fetched c p u v known old at')
  · intro r member
    exact kept _ _ _ (coherent.returned r member)

theorem incr_announced (s : State) (w : Nat) (t u : Uuid) (index : Nat) (within : v ≤ (s.announced u).length) :
    v ≤ ((s.incr w t index).announced u).length ∧
      ((s.incr w t index).announced u).take v = (s.announced u).take v := by
  by_cases same : u = t
  · subst u
    simp only [State.incr,Function.update_self]
    exact ⟨le_trans within (by simp),List.take_append_of_le_length within⟩
  · have unchanged : (s.incr w t index).announced u = s.announced u := by simp [State.incr,same]
    rw [unchanged]
    exact ⟨within,rfl⟩

-- An INCR adds a change after those that the older versions stand for.
theorem Coherent.incr (coherent : Coherent s) (before : s.writers w = .committed t index) :
    Coherent (s.incr w t index) := by
  refine {coherent with version := ?_,written := ?_,announced := ?_,cached := ?_,reading := ?_}
  · intro u
    by_cases same : u = t
    · subst u
      simp [State.incr,coherent.version]
    · simp [State.incr,same,coherent.version]
  · intro v u place at'
    by_cases same : v = w
    · simp [State.incr,same] at at'
    · simp only [State.incr,Function.update_of_ne same] at at'
      exact coherent.written v u place at'
  · intro u place member
    by_cases same : u = t
    · rw [same] at member ⊢
      simp only [State.incr,Function.update_self] at member
      rcases List.mem_append.mp member with old | last
      · exact coherent.announced t place old
      · rw [List.mem_singleton.mp last]
        exact coherent.written w t index before
    · simp only [State.incr,Function.update_of_ne same] at member
      exact coherent.announced u place member
  · intro p u policy v found
    obtain ⟨within,recent⟩ := coherent.cached p u policy v found
    obtain ⟨longer,same⟩ := incr_announced s w t u index within
    refine ⟨longer,?_⟩
    rw [same]
    exact recent
  · intro c u v known at'
    obtain ⟨within,rfl⟩ := coherent.reading c u v known at'
    obtain ⟨longer,same⟩ := incr_announced s w t u index within
    exact ⟨longer,same.symm⟩

theorem coherent_preserved (coherent : Coherent s) (stepped : Stepped s next) : Coherent next := by
  cases stepped with
  | called c p t =>
    apply coherent.move
    · intro _ _ _ none
      cases none
    · intro _ _ _ _ _ none
      cases none
  | got c p t =>
    apply coherent.move
    · intro u v known at'
      cases at'
      rw [coherent.version,List.take_length]
      exact ⟨le_rfl,rfl⟩
    · intro _ _ _ _ _ none
      cases none
  | hit c p before found =>
    obtain ⟨_,known⟩ := coherent.reading c _ _ _ (by rw [before]; rfl)
    subst known
    exact coherent.answer (coherent.cached p _ _ _ found).2
  | missed c p before =>
    apply coherent.move
    · intro u v known at'
      exact coherent.reading c u v known (by rw [before]; exact at')
    · intro _ _ _ _ _ none
      cases none
  | fetched c p before =>
    have read := coherent.reading c _ _ _ (by rw [before]; rfl)
    apply coherent.move
    · intro u v known at'
      cases at'
      exact read
    · intro q u v known row at'
      cases at'
      apply current_recent coherent
      intro index member
      rw [read.2] at member
      exact List.mem_of_mem_take member
  | stored c p now before =>
    obtain ⟨within,known⟩ := coherent.reading c _ _ _ (by rw [before]; rfl)
    have recent := coherent.fetched c p _ _ _ _ before
    subst known
    exact (coherent.remember within recent).answer recent
  | committed w t row => exact coherent.commit
  | incremented w before => exact coherent.incr before
  | forgotten p t => exact coherent.forget

theorem initial_coherent (rows : Uuid → Option PolicyRow) : Coherent (State.initial rows) where
  version _ := rfl
  written _ _ _ at' := by cases at'
  announced _ := List.forall_mem_nil _
  nonempty _ := List.cons_ne_nil _ _
  cached _ _ _ _ found := by cases found
  reading _ _ _ _ at' := by cases at'
  fetched _ _ _ _ _ _ at' := by cases at'
  returned := List.forall_mem_nil _

-- A call whose version GET comes after the INCR of a change returns a policy
-- committed no earlier than that change.
theorem policy_cache_coherent (path : Runs.Reached step (fun _ _ => True) (State.initial rows) s) :
    ∀ r ∈ s.returned, ∀ index ∈ r.announced, ∃ later row, index ≤ later ∧
      (s.history r.tenantId)[later]? = some row ∧ r.policy = displayPolicy r.tenantId row := by
  have coherent := path.invariant Coherent (initial_coherent rows)
    fun coherent _ ran => coherent_preserved coherent (step_sound ran)
  intro r member index announced
  obtain ⟨later,row,found,same,covers⟩ := coherent.returned r member
  exact ⟨later,row,covers index announced,found,same⟩

def policyRow (occupied : String) : PolicyRow := {defaultPolicy 7 0 with id := some 1,occupiedColor := occupied}

-- Two processes. The first reader of process 0 is slow: it stores its old pair
-- after the change was announced and a second reader has stored the new one.
theorem policy_cache_coherent_late_store : ∃ s : State,
    s.returned.map (fun r => (r.call,r.announced,r.policy.occupiedColor)) =
      [(2,[1],"0000FF"),(0,[],"FF0000"),(1,[1],"0000FF")] ∧
    ∀ r ∈ s.returned, ∀ index ∈ r.announced, ∃ later row, index ≤ later ∧
      (s.history r.tenantId)[later]? = some row ∧ r.policy = displayPolicy r.tenantId row := by
  have start : Runs.Reached step (fun _ _ => True) (State.initial fun _ => some (policyRow "FF0000"))
    (State.initial fun _ => some (policyRow "FF0000")) := .refl
  obtain ⟨s,path,returned⟩ := start.found (fun _ _ => true)
    (fun s => s.returned.map (fun r => (r.call,r.announced,r.policy.occupiedColor)) =
      [(2,[1],"0000FF"),(0,[],"FF0000"),(1,[1],"0000FF")])
    [.call 0 0 7,.run 0 0,.run 0 0,.run 0 0,.commit 0 7 (some (policyRow "0000FF")),.invalidate 1 7,.incr 0,
      .call 1 0 7,.run 1 1,.run 1 1,.run 1 1,.run 1 1,.run 0 2,.call 2 0 7,.run 2 3,.run 2 3,.run 2 3,.run 2 3]
    (fun _ _ => trivial) (by decide +kernel)
  exact ⟨s,returned,policy_cache_coherent path⟩

end SmartParking.Display.PolicyCache
