import Mathlib.Data.List.Basic

namespace SmartParking.Lib.Settings

variable {Name Value : Type}

-- The values of one configuration parameter in a database session: that of the
-- session, and that of the open transaction block, which hides it.
structure Values (Value : Type) where
  session : Option Value
  inBlock : Option (Option Value)
  deriving DecidableEq

def Values.current (values : Values Value) : Option Value := values.inBlock.getD values.session

-- An open transaction block: the values it began with and, innermost first,
-- those of its savepoints.
structure Block (Name Value : Type) where
  outer : Values Value
  savepoints : List (Name × Values Value)
  aborted : Bool
  deriving DecidableEq

structure Connection (Name Value : Type) where
  values : Values Value
  block : Option (Block Name Value)
  deriving DecidableEq

def fresh : Connection Name Value := ⟨⟨none,none⟩,none⟩

-- `none` as a value is the default. `other` is every statement that neither
-- opens or closes a block nor sets the parameter.
inductive Statement (Name Value : Type) where
  | begin
  | commit
  | rollback
  | savepoint (name : Name)
  | release (name : Name)
  | rollbackTo (name : Name)
  | assign (value : Option Value)
  | assignLocal (value : Option Value)
  | other
  deriving DecidableEq

-- From the newest savepoint of a name outwards.
def back [DecidableEq Name] (name : Name) (savepoints : List (Name × Values Value)) : List (Name × Values Value) :=
  savepoints.dropWhile (·.1 ≠ name)

-- Outside a block SET LOCAL, COMMIT and ROLLBACK are accepted with a warning and
-- the savepoint statements are refused.
def outside (values : Values Value) (statement : Statement Name Value) (succeeds : Bool) : Connection Name Value :=
  if succeeds then
    match statement with
    | .begin => ⟨values,some ⟨values,[],false⟩⟩
    | .assign value => ⟨⟨value,none⟩,none⟩
    | _ => ⟨values,none⟩
  else ⟨values,none⟩

def abort (values : Values Value) (block : Block Name Value) : Connection Name Value :=
  ⟨values,some {block with aborted := true}⟩

def inside [DecidableEq Name] (values : Values Value) (block : Block Name Value) (statement : Statement Name Value)
    (succeeds : Bool) : Connection Name Value :=
  match statement with
  | .rollback => ⟨block.outer,none⟩
  | .commit => if succeeds && !block.aborted then ⟨⟨values.session,none⟩,none⟩ else ⟨block.outer,none⟩
  | .rollbackTo name =>
    match back name block.savepoints with
    | [] => abort values block
    | point::older => ⟨point.2,some {block with savepoints := point::older,aborted := false}⟩
  | statement =>
    if block.aborted || !succeeds then abort values block
    else match statement with
      | .savepoint name => ⟨values,some {block with savepoints := (name,values)::block.savepoints}⟩
      | .release name =>
        match back name block.savepoints with
        | [] => abort values block
        | _::older => ⟨values,some {block with savepoints := older}⟩
      | .assign value => ⟨⟨value,none⟩,some block⟩
      | .assignLocal value => ⟨{values with inBlock := some value},some block⟩
      | _ => ⟨values,some block⟩

-- What a statement, which may fail, does to the parameter.
def execute [DecidableEq Name] (connection : Connection Name Value) (statement : Statement Name Value) (succeeds : Bool) :
    Connection Name Value :=
  match connection.block with
  | none => outside connection.values statement succeeds
  | some block => inside connection.values block statement succeeds

def run [DecidableEq Name] (connection : Connection Name Value) (statements : List (Statement Name Value × Bool)) :
    Connection Name Value :=
  statements.foldl (fun connection ran => execute connection ran.1 ran.2) connection

-- A pool rolls an open block back and resets every parameter.
def reset [DecidableEq Name] (connection : Connection Name Value) : Connection Name Value :=
  execute (execute connection .rollback true) (.assign none) true

variable [DecidableEq Name]

theorem run_append (connection : Connection Name Value) (statements : List (Statement Name Value × Bool))
    (statement : Statement Name Value) (succeeds : Bool) :
    run connection (statements ++ [(statement,succeeds)]) = execute (run connection statements) statement succeeds :=
  List.foldl_append

theorem assignLocal_outside {connection : Connection Name Value} (unopened : connection.block = none)
    (value : Option Value) (succeeds : Bool) : execute connection (.assignLocal value) succeeds = connection := by
  obtain ⟨values,block⟩ := connection
  cases unopened
  cases succeeds <;> rfl

theorem begin_current {connection : Connection Name Value} (unopened : connection.block = none) (succeeds : Bool) :
    (execute connection .begin succeeds).values = connection.values := by
  obtain ⟨values,block⟩ := connection
  cases unopened
  cases succeeds <;> rfl

theorem rollback_closes (connection : Connection Name Value) :
    (execute connection .rollback true).block = none := by
  obtain ⟨values,block⟩ := connection
  cases block <;> rfl

theorem reset_fresh (connection : Connection Name Value) : reset connection = fresh := by
  unfold reset
  generalize closed : execute connection .rollback true = after
  have unopened := rollback_closes connection
  rw [closed] at unopened
  obtain ⟨values,block⟩ := after
  cases unopened
  rfl

end SmartParking.Lib.Settings
