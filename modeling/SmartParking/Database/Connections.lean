import Mathlib.Logic.Function.Basic
import SmartParking.Downlink.Command
import SmartParking.Lib.Runs
import SmartParking.Lib.Settings

namespace SmartParking.Database.Connections
open Lib Lib.Runs

-- Statements as far as `app.current_tenant` is concerned, whose value is the text
-- of a tenant id.
abbrev Sql : Type := Settings.Statement String String
abbrev Connection : Type := Settings.Connection String String

inductive Entry where
  | acquire
  | transaction
  deriving DecidableEq

-- Where a use of the pool is: `acquired` before `if tenant_id`, `opening` before
-- `conn.transaction()` begins, `leaving` when only the release is left.
inductive Stage where
  | acquired
  | opening
  | body
  | leaving
  deriving DecidableEq

-- `ran` are the statements since the connection was acquired, SET LOCAL apart.
structure Use where
  entry : Entry
  tenantId : Option String
  connection : Nat
  stage : Stage
  ran : List (Sql × Bool)

structure State where
  connections : Nat → Connection
  holder : Nat → Option Nat
  uses : Nat → Option Use

def State.initial : State := ⟨fun _ => Settings.fresh,fun _ => none,fun _ => none⟩

def Entry.first : Entry → Stage
  | .acquire => .body
  | .transaction => .opening

def State.assign (s : State) (u : Nat) (use : Use) (connection : Connection) : State :=
  {s with
    uses := Function.update s.uses u (some use)
    connections := Function.update s.connections use.connection connection}

-- A statement of a use goes to its connection and is recorded.
def State.send (s : State) (u : Nat) (use : Use) (sql : Sql) (succeeds : Bool) (stage : Stage) : State :=
  s.assign u {use with stage := stage,ran := use.ran ++ [(sql,succeeds)]}
    (Settings.execute (s.connections use.connection) sql succeeds)

-- `if tenant_id: await conn.execute(f"SET LOCAL app.current_tenant = '{tenant_id}'")`.
def State.setTenant (s : State) (u : Nat) (use : Use) (succeeds : Bool) : State :=
  match Downlink.orNone use.tenantId with
  | none => s.assign u {use with stage := use.entry.first} (s.connections use.connection)
  | some tenantId =>
    s.assign u {use with stage := if succeeds then use.entry.first else .leaving}
      (Settings.execute (s.connections use.connection) (.assignLocal (some tenantId)) succeeds)

-- The end of the body: `conn.transaction()` commits, or rolls back what raised.
def State.leave (s : State) (u : Nat) (use : Use) (raised succeeds : Bool) : State :=
  match use.entry with
  | .acquire => s.assign u {use with stage := .leaving} (s.connections use.connection)
  | .transaction => s.send u use (if raised then .rollback else .commit) succeeds .leaving

def State.release (s : State) (u : Nat) (use : Use) : State :=
  {connections := Function.update s.connections use.connection (Settings.reset (s.connections use.connection))
   holder := Function.update s.holder use.connection none
   uses := Function.update s.uses u none}

inductive Action where
  | enter (u : Nat) (entry : Entry) (tenantId : Option String) (connection : Nat)
  | setTenant (u : Nat) (succeeds : Bool)
  | opened (u : Nat) (succeeds : Bool)
  | statement (u : Nat) (sql : Sql) (succeeds : Bool)
  | leave (u : Nat) (raised succeeds : Bool)
  | release (u : Nat)
  | replaced (connection : Nat)

-- `Pool.acquire` hands out any connection that nobody holds. An idle one may be
-- closed and replaced at any time.
def step (s : State) : Action → Option State
  | .enter u entry tenantId connection =>
    if s.uses u = none ∧ s.holder connection = none then
      some {s with
        holder := Function.update s.holder connection (some u)
        uses := Function.update s.uses u (some ⟨entry,tenantId,connection,.acquired,[]⟩)}
    else none
  | .setTenant u succeeds => do
    let use ← s.uses u
    if use.stage = .acquired then some (s.setTenant u use succeeds) else none
  | .opened u succeeds => do
    let use ← s.uses u
    if use.stage = .opening then some (s.send u use .begin succeeds (if succeeds then .body else .leaving)) else none
  | .statement u sql succeeds => do
    let use ← s.uses u
    if use.stage = .body then some (s.send u use sql succeeds .body) else none
  | .leave u raised succeeds => do
    let use ← s.uses u
    if use.stage = .body then some (s.leave u use raised succeeds) else none
  | .release u => do
    let use ← s.uses u
    if use.stage = .leaving then some (s.release u use) else none
  | .replaced connection =>
    if s.holder connection = none then some {s with connections := Function.update s.connections connection Settings.fresh}
    else none

-- A statement of a body whose use was given a tenant runs with that tenant.
def InContext (s : State) : Action → Prop
  | .statement u _ _ => ∀ use tenantId, s.uses u = some use → use.tenantId = some tenantId →
    (s.connections use.connection).values.current = some tenantId
  | _ => True

-- No body whose use was given a tenant executes a statement.
def Unscoped (s : State) : Action → Prop
  | .statement u _ _ => ∀ use, s.uses u = some use → use.tenantId = none
  | _ => True

-- All that a step can do, with what it requires.
inductive Stepped (s : State) : Action → State → Prop where
  | enter (u c : Nat) (entry : Entry) (tenantId : Option String) : s.holder c = none →
      Stepped s (.enter u entry tenantId c)
        {s with
          holder := Function.update s.holder c (some u)
          uses := Function.update s.uses u (some ⟨entry,tenantId,c,.acquired,[]⟩)}
  | setTenant (u : Nat) (use : Use) (succeeds : Bool) : s.uses u = some use → use.stage = .acquired →
      Stepped s (.setTenant u succeeds) (s.setTenant u use succeeds)
  | opened (u : Nat) (use : Use) (succeeds : Bool) : s.uses u = some use → use.stage = .opening →
      Stepped s (.opened u succeeds) (s.send u use .begin succeeds (if succeeds then .body else .leaving))
  | statement (u : Nat) (use : Use) (sql : Sql) (succeeds : Bool) : s.uses u = some use → use.stage = .body →
      Stepped s (.statement u sql succeeds) (s.send u use sql succeeds .body)
  | leave (u : Nat) (use : Use) (raised succeeds : Bool) : s.uses u = some use → use.stage = .body →
      Stepped s (.leave u raised succeeds) (s.leave u use raised succeeds)
  | release (u : Nat) (use : Use) : s.uses u = some use → use.stage = .leaving →
      Stepped s (.release u) (s.release u use)
  | replaced (c : Nat) : s.holder c = none →
      Stepped s (.replaced c) {s with connections := Function.update s.connections c Settings.fresh}

variable {s next : State} {action : Action} {u c : Nat} {use : Use}

theorem step_sound (ran : step s action = some next) : Stepped s action next := by
  cases action with
  | enter u entry tenantId c =>
    obtain ⟨⟨_,unheld⟩,⟨⟩⟩ := Option.ite_none_right_eq_some.mp ran
    exact .enter u c entry tenantId unheld
  | setTenant u succeeds =>
    obtain ⟨use,known,moved⟩ := Option.bind_eq_some_iff.mp ran
    obtain ⟨acquired,⟨⟩⟩ := Option.ite_none_right_eq_some.mp moved
    exact .setTenant u use succeeds known acquired
  | opened u succeeds =>
    obtain ⟨use,known,moved⟩ := Option.bind_eq_some_iff.mp ran
    obtain ⟨opening,⟨⟩⟩ := Option.ite_none_right_eq_some.mp moved
    exact .opened u use succeeds known opening
  | statement u sql succeeds =>
    obtain ⟨use,known,moved⟩ := Option.bind_eq_some_iff.mp ran
    obtain ⟨inside,⟨⟩⟩ := Option.ite_none_right_eq_some.mp moved
    exact .statement u use sql succeeds known inside
  | leave u raised succeeds =>
    obtain ⟨use,known,moved⟩ := Option.bind_eq_some_iff.mp ran
    obtain ⟨inside,⟨⟩⟩ := Option.ite_none_right_eq_some.mp moved
    exact .leave u use raised succeeds known inside
  | release u =>
    obtain ⟨use,known,moved⟩ := Option.bind_eq_some_iff.mp ran
    obtain ⟨leaving,⟨⟩⟩ := Option.ite_none_right_eq_some.mp moved
    exact .release u use known leaving
  | replaced c =>
    obtain ⟨unheld,⟨⟩⟩ := Option.ite_none_right_eq_some.mp ran
    exact .replaced c unheld

-- A held connection is as the statements of its one use left it, an idle one as
-- new. The tenant of the use does not occur.
structure Owned (s : State) : Prop where
  held : ∀ {u use}, s.uses u = some use → s.holder use.connection = some u
  own : ∀ {u use}, s.uses u = some use → s.connections use.connection = Settings.run Settings.fresh use.ran
  idle : ∀ {c}, s.holder c = none → s.connections c = Settings.fresh
  before : ∀ {u use}, s.uses u = some use → use.stage = .acquired ∨ use.stage = .opening → use.ran = []

theorem initial_owned : Owned State.initial where
  held := nofun
  own := nofun
  idle _ := rfl
  before := nofun

theorem Owned.apart (owned : Owned s) {v : Nat} {other : Use} (known : s.uses u = some use)
    (found : s.uses v = some other) (different : v ≠ u) : other.connection ≠ use.connection := by
  intro shared
  have holder := owned.held found
  rw [shared,owned.held known] at holder
  exact different (Option.some.inj holder).symm

theorem Owned.unheld (owned : Owned s) (found : s.uses u = some use) (free : s.holder c = none) :
    use.connection ≠ c := by
  intro shared
  have holder := owned.held found
  rw [shared,free] at holder
  cases holder

theorem assign_owned (owned : Owned s) {after : Use} (known : s.uses u = some use)
    (same : after.connection = use.connection) {connection : Connection}
    (ran : connection = Settings.run Settings.fresh after.ran)
    (early : after.stage = .acquired ∨ after.stage = .opening → after.ran = []) :
    Owned (s.assign u after connection) where
  held := by
    intro v other found
    simp only [State.assign,Function.update_apply] at found ⊢
    split at found
    · rename_i same'
      cases found
      rw [same,same']
      exact owned.held known
    · exact owned.held found
  own := by
    intro v other found
    simp only [State.assign,Function.update_apply] at found ⊢
    split at found
    · cases found
      rw [if_pos rfl]
      exact ran
    · rename_i apart
      rw [same,if_neg (owned.apart known found apart)]
      exact owned.own found
  idle := by
    intro c unheld
    simp only [State.assign,Function.update_apply] at unheld ⊢
    split
    · rename_i here
      rw [here,same,owned.held known] at unheld
      cases unheld
    · exact owned.idle unheld
  before := by
    intro v other found
    simp only [State.assign,Function.update_apply] at found
    split at found
    · cases found
      exact early
    · exact owned.before found

theorem send_owned (owned : Owned s) (known : s.uses u = some use) (sql : Sql) (succeeds : Bool) {stage : Stage}
    (later : stage = .body ∨ stage = .leaving) : Owned (s.send u use sql succeeds stage) := by
  refine assign_owned owned known (by rfl) ?_ ?_
  · rw [Settings.run_append,owned.own known]
  · intro early
    rcases later with rfl | rfl <;> rcases early with early | early <;> cases early

-- SET LOCAL comes before the block that would hold it.
theorem setTenant_owned (owned : Owned s) (known : s.uses u = some use) (acquired : use.stage = .acquired)
    (succeeds : Bool) : Owned (s.setTenant u use succeeds) := by
  have empty : use.ran = [] := owned.before known (.inl acquired)
  have own := owned.own known
  unfold State.setTenant
  split
  · exact assign_owned owned known (by rfl) own fun _ => empty
  · refine assign_owned owned known (by rfl) ?_ fun _ => empty
    rw [own,empty]
    exact Settings.assignLocal_outside rfl _ _

theorem leave_owned (owned : Owned s) (known : s.uses u = some use) (raised succeeds : Bool) :
    Owned (s.leave u use raised succeeds) := by
  unfold State.leave
  split
  · refine assign_owned owned known (by rfl) (owned.own known) ?_
    intro early
    rcases early with early | early <;> cases early
  · exact send_owned owned known _ _ (.inr rfl)

theorem release_owned (owned : Owned s) (known : s.uses u = some use) : Owned (s.release u use) where
  held := by
    intro v other found
    simp only [State.release,Function.update_apply] at found ⊢
    split at found
    · cases found
    · rename_i apart
      rw [if_neg (owned.apart known found apart)]
      exact owned.held found
  own := by
    intro v other found
    simp only [State.release,Function.update_apply] at found ⊢
    split at found
    · cases found
    · rename_i apart
      rw [if_neg (owned.apart known found apart)]
      exact owned.own found
  idle := by
    intro c unheld
    simp only [State.release,Function.update_apply] at unheld ⊢
    split
    · exact Settings.reset_fresh _
    · rename_i apart
      rw [if_neg apart] at unheld
      exact owned.idle unheld
  before := by
    intro v other found
    simp only [State.release,Function.update_apply] at found
    split at found
    · cases found
    · exact owned.before found

theorem enter_owned (owned : Owned s) (unheld : s.holder c = none)
    (entry : Entry) (tenantId : Option String) :
    Owned {s with
      holder := Function.update s.holder c (some u)
      uses := Function.update s.uses u (some ⟨entry,tenantId,c,.acquired,[]⟩)} where
  held := by
    intro v other found
    simp only [Function.update_apply] at found ⊢
    split at found
    · rename_i same
      cases found
      rw [if_pos rfl,same]
    · rw [if_neg (owned.unheld found unheld)]
      exact owned.held found
  own := by
    intro v other found
    simp only [Function.update_apply] at found ⊢
    split at found
    · cases found
      exact owned.idle unheld
    · exact owned.own found
  idle := by
    intro d free
    simp only [Function.update_apply] at free
    split at free
    · cases free
    · exact owned.idle free
  before := by
    intro v other found
    simp only [Function.update_apply] at found
    split at found
    · cases found
      exact fun _ => rfl
    · exact owned.before found

theorem replaced_owned (owned : Owned s) (unheld : s.holder c = none) :
    Owned {s with connections := Function.update s.connections c Settings.fresh} where
  held := owned.held
  own := by
    intro v other found
    dsimp only
    rw [Function.update_of_ne (owned.unheld found unheld)]
    exact owned.own found
  idle := by
    intro d free
    dsimp only
    rw [Function.update_apply]
    split
    · rfl
    · exact owned.idle free
  before := owned.before

theorem stepped_owned (owned : Owned s) (stepped : Stepped s action next) : Owned next := by
  cases stepped with
  | enter u c entry tenantId unheld => exact enter_owned owned unheld entry tenantId
  | setTenant u use succeeds known acquired => exact setTenant_owned owned known acquired succeeds
  | opened u use succeeds known _ => exact send_owned owned known _ _ (by cases succeeds <;> simp)
  | statement u use sql succeeds known _ => exact send_owned owned known _ _ (.inl rfl)
  | leave u use raised succeeds known _ => exact leave_owned owned known raised succeeds
  | release u use known _ => exact release_owned owned known
  | replaced c unheld => exact replaced_owned owned unheld

-- What a body sees: `app.current_tenant` is what its own statements made it, the
-- block of `transaction` included.
theorem body_observes (path : Reached step (fun _ _ => True) State.initial s) (known : s.uses u = some use) :
    s.connections use.connection = Settings.run Settings.fresh use.ran :=
  (path.invariant Owned initial_owned fun owned _ ran => stepped_owned owned (step_sound ran)).own known

-- Where no body of a tenant has executed anything, nothing has set the parameter.
def Untouched (s : State) : Prop :=
  ∀ u use, s.uses u = some use → use.tenantId ≠ none → use.stage = .body →
    (Settings.run Settings.fresh use.ran : Connection).values.current = none

theorem assign_untouched (untouched : Untouched s) {after : Use} {connection : Connection}
    (kept : after.tenantId ≠ none → after.stage = .body →
      (Settings.run Settings.fresh after.ran : Connection).values.current = none) :
    Untouched (s.assign u after connection) := by
  intro v other found given inside
  simp only [State.assign,Function.update_apply] at found
  split at found
  · cases found
    exact kept given inside
  · exact untouched _ _ found given inside

theorem setTenant_untouched (owned : Owned s) (untouched : Untouched s) (known : s.uses u = some use)
    (acquired : use.stage = .acquired) (succeeds : Bool) : Untouched (s.setTenant u use succeeds) := by
  have empty : use.ran = [] := owned.before known (.inl acquired)
  unfold State.setTenant
  split
  all_goals
    refine assign_untouched untouched ?_
    intro _ _
    rw [empty]
    rfl

theorem opened_untouched (owned : Owned s) (untouched : Untouched s) (known : s.uses u = some use)
    (opening : use.stage = .opening) (succeeds : Bool) (stage : Stage) :
    Untouched (s.send u use .begin succeeds stage) := by
  refine assign_untouched untouched ?_
  intro _ _
  rw [owned.before known (.inr opening),Settings.run_append,Settings.Values.current,Settings.begin_current rfl]
  rfl

theorem leave_untouched (untouched : Untouched s) (raised succeeds : Bool) :
    Untouched (s.leave u use raised succeeds) := by
  unfold State.leave
  split
  all_goals
    refine assign_untouched untouched ?_
    intro _ inside
    cases inside

theorem stepped_untouched (owned : Owned s) (untouched : Untouched s) (unscoped : Unscoped s action)
    (stepped : Stepped s action next) : Untouched next := by
  cases stepped with
  | enter u c entry tenantId unheld =>
    intro v other found given inside
    simp only [Function.update_apply] at found
    split at found
    · cases found
      cases inside
    · exact untouched _ _ found given inside
  | setTenant u use succeeds known acquired => exact setTenant_untouched owned untouched known acquired succeeds
  | opened u use succeeds known opening => exact opened_untouched owned untouched known opening succeeds _
  | statement u use sql succeeds known _ =>
    exact assign_untouched untouched fun given => absurd (unscoped use known) given
  | leave u use raised succeeds _ _ => exact leave_untouched untouched raised succeeds
  | release u use _ _ =>
    intro v other found given inside
    simp only [State.release,Function.update_apply] at found
    split at found
    · cases found
    · exact untouched _ _ found given inside
  | replaced c _ => exact untouched

-- The first statement of a tenant's body already runs without the tenant.
theorem inContext_iff (owned : Owned s) (untouched : Untouched s) (stepped : Stepped s action next) :
    InContext s action ↔ Unscoped s action := by
  cases stepped with
  | statement u use sql succeeds known inside =>
    constructor
    · intro context other found
      cases known.symm.trans found
      cases given : use.tenantId with
      | none => rfl
      | some tenantId =>
        have seen := context use tenantId known given
        rw [owned.own known,untouched _ _ known (by simp [given]) inside] at seen
        cases seen
    · intro unscoped other tenantId found given
      have absent := unscoped other found
      rw [given] at absent
      cases absent
  | _ => exact Iff.rfl

theorem tenant_context (actions : List Action) :
    Along step (fun s action _ => InContext s action) State.initial actions ↔
      Along step (fun s action _ => Unscoped s action) State.initial actions :=
  along_iff (fun s => Owned s ∧ Untouched s) actions ⟨initial_owned,nofun⟩
    (fun known ran => inContext_iff known.1 known.2 (step_sound ran))
    fun known unscoped ran =>
      ⟨stepped_owned known.1 (step_sound ran),stepped_untouched known.1 known.2 unscoped (step_sound ran)⟩

-- One query in a body of each kind.
theorem context_unset :
    ¬Along step (fun s action _ => InContext s action) State.initial
        [.enter 0 .acquire (some "t") 0,.setTenant 0 true,.statement 0 .other true] ∧
      ¬Along step (fun s action _ => InContext s action) State.initial
        [.enter 0 .transaction (some "t") 0,.setTenant 0 true,.opened 0 true,.statement 0 .other true] := by
  constructor
  · intro within
    obtain ⟨_,within⟩ := within _ rfl
    obtain ⟨_,within⟩ := within _ rfl
    have seen := (within _ rfl).1 _ _ rfl rfl
    cases seen
  · intro within
    obtain ⟨_,within⟩ := within _ rfl
    obtain ⟨_,within⟩ := within _ rfl
    obtain ⟨_,within⟩ := within _ rfl
    have seen := (within _ rfl).1 _ _ rfl rfl
    cases seen

end SmartParking.Database.Connections
