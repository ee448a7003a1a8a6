import SmartParking.Auth.Registration

namespace SmartParking.Auth.Registration
open Lib Lib.Transactions

-- The statements a request has still to send.
def Pc.remaining : Pc → Nat
  | .selectUser => 7
  | .selectTenant => 6
  | .insertUser => 5
  | .insertTenant _ => 4
  | .insertSite .. => 3
  | .insertMembership .. => 2
  | .commit .. => 1
  | .answered _ | .cancelled => 0

-- The rows it has inserted.
def Pc.progress : Pc → Nat
  | .insertTenant _ => 1
  | .insertSite .. => 2
  | .insertMembership .. => 3
  | .commit .. => 4
  | _ => 0

-- The tables in the order of the INSERTs. Rows of different tables share no key.
def Row.rank : Row → Nat
  | .user _ => 0
  | .tenant _ => 1
  | .site _ => 2
  | .membership _ => 3

def remainingOf : List Running → Nat
  | [] => 0
  | r::rest => r.pc.remaining + remainingOf rest

def World.remaining (w : World) : Nat := remainingOf w.calls

variable {hashpw : String → String → String} {s store : Store Row} {i : Nat} {r : Running} {sampled : Sampled}
  {start : List Row} {w next : World} {action : Action} {row : Row} {pc : Pc} {request : RegistrationRequest}

theorem shared_rank {one other : Row} {key : Key} (first : key ∈ one.keys) (second : key ∈ other.keys) :
    one.rank = other.rank := by
  cases one <;> cases other <;> first | rfl | (revert first second; simp [Row.keys]; rintro (rfl | rfl) <;> simp)

theorem staged_rank (member : row ∈ pc.rows) : row.rank < pc.progress := by
  cases pc <;> simp only [Pc.rows,List.mem_cons,List.not_mem_nil,or_false] at member
  case insertTenant =>
    subst member
    exact Nat.zero_lt_one
  case insertSite =>
    rcases member with rfl | rfl <;> simp [Row.rank,Pc.progress]
  case insertMembership =>
    rcases member with rfl | rfl | rfl <;> simp [Row.rank,Pc.progress]
  case commit =>
    rcases member with rfl | rfl | rfl | rfl <;> simp [Row.rank,Pc.progress]

theorem attempt_remaining (ran : attempt s i row pc = some (store,pc')) : pc' = pc ∨ pc'.remaining = 0 := by
  unfold attempt at ran
  split at ran
  · split at ran
    · cases ran
      exact .inl rfl
    · cases ran
      exact .inr rfl
    · cases ran
  · cases ran
    exact .inr rfl

-- Each statement brings the answer nearer.
theorem execute_remaining (ran : execute hashpw s i r sampled = some (store,pc)) : pc.remaining < r.pc.remaining := by
  obtain ⟨request,from'⟩ := r
  unfold execute at ran
  cases from' with
  | selectUser | selectTenant =>
    dsimp only at ran
    split at ran <;> cases ran <;> simp [Pc.remaining]
  | insertUser | insertTenant | insertSite | insertMembership =>
    rcases attempt_remaining ran with rfl | ended
    · simp [Pc.remaining]
    · rw [ended]
      simp [Pc.remaining]
  | commit user tenant site membership =>
    cases ran
    exact Nat.zero_lt_one
  | answered | cancelled => cases ran

theorem attempt_none (stuck : attempt s i row pc = none) : ∃ j, s.insert Row.keys i row = .waits j := by
  unfold attempt at stuck
  split at stuck
  · split at stuck
    · cases stuck
    · cases stuck
    · exact ⟨_,‹_›⟩
  · cases stuck

-- A statement that does not run waits to insert a row of the next table.
theorem execute_none (stuck : execute hashpw s i r sampled = none) :
    r.pc.ended = true ∨ ∃ row j, row.rank = r.pc.progress ∧ s.insert Row.keys i row = .waits j := by
  obtain ⟨request,from'⟩ := r
  unfold execute at stuck
  cases from' with
  | selectUser | selectTenant =>
    dsimp only at stuck
    split at stuck <;> cases stuck
  | insertUser | insertTenant | insertSite | insertMembership =>
    obtain ⟨j,waits⟩ := attempt_none stuck
    exact .inr ⟨_,j,rfl,waits⟩
  | commit => cases stuck
  | answered | cancelled => exact .inl rfl

-- The request waits, under its next statement, for another's transaction.
def Waiting (hashpw : String → String → String) (w : World) (i j : Nat) : Prop :=
  ∃ r sampled row, w.calls[i]? = some r ∧ execute hashpw w.store i r sampled = none ∧ row.rank = r.pc.progress ∧
    w.store.insert Row.keys i row = .waits j

def progressOf (w : World) (i : Nat) : Nat := (w.calls[i]?.map (·.pc.progress)).getD 0

def running (w : World) (i : Nat) : Bool := w.calls[i]?.any (!·.pc.ended)

theorem running_iff : running w i = true ↔ ∃ r, w.calls[i]? = some r ∧ r.pc.ended = false := by
  unfold running
  cases w.calls[i]? <;> simp

-- Whom a request waits for has come further, and still runs.
theorem waiting_further (sound : Sound hashpw start w) {j : Nat} (waiting : Waiting hashpw w i j) :
    running w j = true ∧ progressOf w i < progressOf w j := by
  obtain ⟨r,_,row,held,_,ranked,waits⟩ := waiting
  obtain ⟨_,other,member,key,first,second⟩ := Store.insert_waits waits
  have inside : j < w.calls.length := by
    rw [←sound.slots]
    exact Store.own_inside fun empty => by rw [empty] at member; cases member
  have held' : w.calls[j]? = some w.calls[j] := List.getElem?_eq_getElem inside
  rw [sound.own j _ held'] at member
  have ahead : r.pc.progress < w.calls[j].pc.progress := by
    rw [←ranked,shared_rank second first]
    exact staged_rank member
  constructor
  · refine running_iff.mpr ⟨_,held',?_⟩
    cases at' : w.calls[j].pc <;> rw [at'] at ahead <;> first | rfl | cases ahead
  · unfold progressOf
    rw [held,held']
    exact ahead

theorem some_running (sound : Sound hashpw start w) (unfinished : ∃ r ∈ w.calls, r.pc.ended = false) :
    ∃ i, ∀ sampled, (step hashpw w (.statement i sampled)).isSome := by
  obtain ⟨r,member,open'⟩ := unfinished
  obtain ⟨k,inside,rfl⟩ := List.mem_iff_getElem.mp member
  have listed : k ∈ (List.range w.calls.length).filter (running w) :=
    List.mem_filter.mpr ⟨List.mem_range.mpr inside,running_iff.mpr ⟨_,List.getElem?_eq_getElem inside,open'⟩⟩
  obtain ⟨i,among,free⟩ := furthest_moves ((List.range w.calls.length).filter (running w)) (progressOf w)
    (Waiting hashpw w)
    (by
      intro i _ j waiting
      obtain ⟨runs,further⟩ := waiting_further sound waiting
      obtain ⟨q,held,_⟩ := running_iff.mp runs
      exact ⟨List.mem_filter.mpr ⟨List.mem_range.mpr (List.getElem?_eq_some_iff.mp held).1,runs⟩,further⟩)
    (List.ne_nil_of_mem listed)
  obtain ⟨q,held,open'⟩ := running_iff.mp (List.mem_filter.mp among).2
  refine ⟨i,fun sampled => ?_⟩
  cases ran : execute hashpw w.store i q sampled with
  | none =>
    rcases execute_none ran with ended | ⟨row,j,ranked,waits⟩
    · rw [ended] at open'
      cases open'
    · exact absurd ⟨q,sampled,row,held,ran,ranked,waits⟩ (free j)
  | some moved => simp [step,held,ran]

def Action.isStatement : Action → Bool
  | .statement .. => true
  | _ => false

theorem remainingOf_set {calls : List Running} (held : calls[i]? = some r) (new : Running) :
    remainingOf (calls.set i new) + r.pc.remaining = remainingOf calls + new.pc.remaining := by
  induction calls generalizing i with
  | nil => cases held
  | cons first rest ih =>
    cases i with
    | zero =>
      cases held
      simp only [List.set_cons_zero,remainingOf]
      omega
    | succ i =>
      have later := ih (i := i) held
      simp only [List.set_cons_succ,remainingOf]
      omega

theorem statement_remaining (ran : step hashpw w (.statement i sampled) = some next) : next.remaining < w.remaining := by
  obtain ⟨r,held,same⟩ := Option.bind_eq_some_iff.mp ran
  obtain ⟨⟨store,pc⟩,executed,same⟩ := Option.bind_eq_some_iff.mp same
  cases same
  have fewer := execute_remaining executed
  have total := remainingOf_set held {r with pc}
  unfold World.remaining
  dsimp only at total ⊢
  omega

theorem statements_remaining (actions : List Action) (only : ∀ action ∈ actions, action.isStatement = true)
    (ran : Runs.exec (step hashpw) w actions = some next) : actions.length + next.remaining ≤ w.remaining := by
  induction actions generalizing w with
  | nil =>
    cases ran
    simp
  | cons action rest ih =>
    obtain ⟨middle,first,later⟩ := Option.bind_eq_some_iff.mp ran
    have after := ih (fun action member => only action (List.mem_cons_of_mem _ member)) later
    cases action with
    | statement i sampled =>
      have fewer := statement_remaining first
      rw [List.length_cons]
      omega
    | _ => cases only _ List.mem_cons_self

theorem remaining_le (w : World) : w.remaining ≤ 7 * w.calls.length := by
  unfold World.remaining
  induction w.calls with
  | nil => exact Nat.le_refl _
  | cons r rest ih =>
    have one : r.pc.remaining ≤ 7 := by cases r.pc <;> simp [Pc.remaining]
    simp only [remainingOf,List.length_cons]
    omega

-- Requests that wait for each other's keys never wait in a circle, and all of
-- them come to an end: whatever ids, salts and times are drawn, statements can be
-- sent until every request has ended, and there are never more than seven each.
theorem registration_completes (hashpw : String → String → String) (start : List Row)
    (distinct : (start.flatMap Row.keys).Nodup) (w : World) (path : Reached hashpw start w) (actions : List Action)
    (only : ∀ action ∈ actions, action.isStatement = true) (last : World)
    (ran : Runs.exec (step hashpw) w actions = some last) :
    actions.length + last.remaining ≤ 7 * w.calls.length ∧
      ((∀ r ∈ last.calls, r.pc.ended = true) ∨ ∃ i, ∀ sampled, (step hashpw last (.statement i sampled)).isSome) := by
  constructor
  · exact (statements_remaining actions only ran).trans (remaining_le w)
  · by_cases finished : ∀ r ∈ last.calls, r.pc.ended = true
    · exact .inl finished
    · have later := reached_sound distinct (path.executed actions ran)
      push Not at finished
      obtain ⟨r,member,open'⟩ := finished
      exact .inr (some_running later ⟨r,member,Bool.eq_false_iff.mpr open'⟩)

-- Where the rival has to wait, the other one goes on.
theorem rival_waits : ∃ w, Reached hashed [] w ∧ (step hashed w (.statement 1 (sample "U2"))).isNone ∧
    ((∀ r ∈ w.calls, r.pc.ended = true) ∨ ∃ i, ∀ sampled, (step hashed w (.statement i sampled)).isSome) := by
  obtain ⟨w,path,_,passed⟩ := Runs.Reached.passed (.refl : Reached hashed [] (World.idle [])) (race.take 7)
    (fun w => (step hashed w (.statement 1 (sample "U2"))).isNone) (by decide +kernel)
  exact ⟨w,path,passed,(registration_completes hashed [] List.nodup_nil w path [] (fun _ absent => by cases absent) w rfl).2⟩

-- No other transaction is open.
def Alone (s : Store Row) (i : Nat) : Prop := ∀ j, j ≠ i → s.own j = []

structure Bare (rows : List Row) (s : Store Row) (i : Nat) (own : List Row) : Prop where
  committed : s.committed = rows
  own : s.own i = own
  inside : i < s.staged.length
  alone : Alone s i

-- What the four INSERTs draw.
structure Drawn where
  user : Sampled
  tenant : Sampled
  site : Sampled
  membership : Sampled

section Outcome

variable (hashpw : String → String → String) (request : RegistrationRequest) (drawn : Drawn)

def records : Records :=
  let user := newUser hashpw request drawn.user.newId drawn.user.salt drawn.user.now
  let tenant := newTenant request drawn.tenant.newId
  {user := user,tenant := tenant,site := newSite request drawn.site.newId tenant,
   membership := newMembership drawn.membership.newId user tenant drawn.membership.now}

-- The ids drawn are new ones.
def Fresh (rows : List Row) : Prop :=
  ∀ key ∈ [Key.userId drawn.user.newId,.tenantId drawn.tenant.newId,.siteId drawn.site.newId,
      .siteName drawn.tenant.newId (mainSite request.tenant.name),.membershipId drawn.membership.newId,
      .member drawn.user.newId drawn.tenant.newId], key ∉ rows.flatMap Row.keys

-- The addresses are compared in lower case by the index, and as they are by the
-- SELECT before it.
def emailIndexed (rows : List Row) (email : String) : Bool :=
  rows.any fun
    | .user row => lower row.email == email
    | _ => false

-- The answer to a request that no other one overlaps, by the rows it starts from.
def outcome (rows : List Row) : Response :=
  if emailTaken rows (lower request.user.email) then .badRequest "Email already registered"
  else if slugTaken rows (lower request.tenant.slug) then .badRequest "Tenant slug already taken"
  else if emailIndexed rows (lower request.user.email) || 243 < request.tenant.name.length then .failed
  else .created (records hashpw request drawn).user

def added (rows : List Row) : List Row :=
  match outcome hashpw request drawn rows with
  | .created _ => (records hashpw request drawn).rows
  | _ => []

end Outcome

variable {rows : List Row} {drawn : Drawn}

-- An INSERT that goes through, or does not.
section Inserts

variable (hashpw : String → String → String) (s : Store Row) (i : Nat) (request : RegistrationRequest) (drawn : Drawn)

end Inserts

end SmartParking.Auth.Registration
