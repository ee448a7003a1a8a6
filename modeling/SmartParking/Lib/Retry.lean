import Mathlib.Logic.Function.Iterate
import Mathlib.Data.List.Range

namespace SmartParking.Lib.Retry

variable {σ ε β : Type}

-- How a loop ends that calls a function until it returns or has been called often
-- enough. The errors that are not caught end it too.
inductive Outcome (ε β : Type) where
  | returned (b : β)
  | raised (e : ε)
  | exhausted (last : Option ε)

-- `slept` has the attempts that the loop waited after.
structure Ended (σ ε β : Type) where
  outcome : Outcome ε β
  state : σ
  slept : List Nat

def loop (caught : ε → Bool) (func : σ → Except ε β × σ) : (left attempt : Nat) → Option ε → σ → Ended σ ε β
  | 0,_,last,s => ⟨.exhausted last,s,[]⟩
  | left+1,attempt,_,s =>
    match func s with
    | (.ok b,next) => ⟨.returned b,next,[]⟩
    | (.error e,next) =>
      if caught e then
        let rest := loop caught func left (attempt+1) (some e) next
        if left = 0 then rest else {rest with slept := attempt::rest.slept}
      else ⟨.raised e,next,[]⟩

def run (caught : ε → Bool) (func : σ → Except ε β × σ) (maxAttempts : Nat) (s : σ) : Ended σ ε β :=
  loop caught func maxAttempts 0 none s

-- The state after some calls, whatever they came to.
def after (func : σ → Except ε β × σ) (calls : Nat) (s : σ) : σ := (fun s => (func s).2)^[calls] s

def Fails (caught : ε → Bool) (func : σ → Except ε β × σ) (s : σ) (e : ε) : Prop :=
  (func s).1 = .error e ∧ caught e = true

-- How a call that is not followed by another one ends the loop.
def settled (caught : ε → Bool) : Except ε β → Option (Outcome ε β)
  | .ok b => some (.returned b)
  | .error e => if caught e then none else some (.raised e)

variable {caught : ε → Bool} {func : σ → Except ε β × σ} {s : σ} {e : ε} {last : Option ε} {left attempt calls : Nat}
  {outcome : Outcome ε β}

theorem after_succ : after func (calls+1) s = after func calls (func s).2 := rfl

theorem loop_settled (ends : settled caught (func s).1 = some outcome) :
    loop caught func (left+1) attempt last s = ⟨outcome,(func s).2,[]⟩ := by
  rw [loop]
  rcases called : func s with ⟨answer,next⟩
  rw [called] at ends
  cases answer with
  | ok b =>
    cases Option.some.inj ends
    rfl
  | error e =>
    dsimp only [settled] at ends ⊢
    split at ends
    · cases ends
    · rename_i free
      cases Option.some.inj ends
      rw [if_neg free]

theorem loop_fails (failed : Fails caught func s e) :
    loop caught func (left+1) attempt last s =
      let rest := loop caught func left (attempt+1) (some e) (func s).2
      if left = 0 then rest else {rest with slept := attempt::rest.slept} := by
  rw [loop]
  obtain ⟨answered,held⟩ := failed
  rcases called : func s with ⟨answer,next⟩
  rw [called] at answered
  cases answered
  dsimp only
  rw [if_pos held]

-- Induction on the failed calls before the one that ends the loop.
theorem loop_first (failed : ∀ i < calls, ∃ e, Fails caught func (after func i s) e) (few : calls < left)
    (ends : settled caught (func (after func calls s)).1 = some outcome) :
    loop caught func left attempt last s = ⟨outcome,after func (calls+1) s,List.range' attempt calls⟩ := by
  induction calls generalizing left attempt last s with
  | zero =>
    cases left with
    | zero => cases few
    | succ left => exact loop_settled ends
  | succ calls ih =>
    cases left with
    | zero => cases few
    | succ left =>
      obtain ⟨e,first⟩ : ∃ e, Fails caught func s e := failed 0 (Nat.succ_pos calls)
      have fewer : calls < left := Nat.lt_of_succ_lt_succ few
      have rest := @ih (func s).2 (some e) left (attempt+1)
        (fun i bound => failed (i+1) (Nat.succ_lt_succ bound)) fewer ends
      rw [loop_fails first,rest]
      dsimp only
      rw [if_neg (Nat.ne_of_gt (Nat.zero_lt_of_lt fewer)),List.range'_succ]
      rfl

-- Induction on the calls, all of which fail.
theorem loop_never (failed : ∀ i < calls, ∃ e, Fails caught func (after func i s) e)
    (final : Fails caught func (after func calls s) e) :
    loop caught func (calls+1) attempt last s = ⟨.exhausted (some e),after func (calls+1) s,List.range' attempt calls⟩ := by
  induction calls generalizing attempt last s with
  | zero =>
    have last : Fails caught func s e := final
    rw [loop_fails last]
    rfl
  | succ calls ih =>
    obtain ⟨other,first⟩ : ∃ e, Fails caught func s e := failed 0 (Nat.succ_pos calls)
    have rest := @ih (func s).2 (some other) (attempt+1)
      (fun i bound => failed (i+1) (Nat.succ_lt_succ bound)) final
    rw [loop_fails first,rest]
    dsimp only
    rw [if_neg (Nat.succ_ne_zero calls),List.range'_succ]
    rfl

end SmartParking.Lib.Retry
