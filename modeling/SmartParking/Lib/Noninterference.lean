import SmartParking.Lib.Runs

namespace SmartParking.Lib.Noninterference
open Runs

variable {State Shadow Action Answer : Type}

-- The state that a list of requests leaves, and what one party is answered.
def serveAll (serve : State → Action → State × Answer) (mine : Action → Bool) : State → List Action → State × List Answer
  | s,[] => (s,[])
  | s,action::rest =>
    let served := serve s action
    let later := serveAll serve mine served.1 rest
    (later.1,if mine action then served.2::later.2 else later.2)

variable (serve : State → Action → State × Answer) (shadow : Shadow → Action → Shadow × Answer) (mine : Action → Bool)
  (known : State → Prop) (agree : State → Shadow → Prop) (meets : State → Action → Prop) {s : State} {v : Shadow}

-- Where the requests of the others do not show, and those of one party are
-- answered alike in two states that agree for it, the party is answered as if
-- the others had sent nothing.
theorem purged (kept : ∀ {s action}, known s → meets s action → known (serve s action).1)
    (hidden : ∀ {s v action}, known s → agree s v → meets s action → mine action = false → agree (serve s action).1 v)
    (seen : ∀ {s v action}, known s → agree s v → meets s action → mine action = true →
      (serve s action).2 = (shadow v action).2 ∧ agree (serve s action).1 (shadow v action).1)
    (actions : List Action) (initial : known s) (agreed : agree s v)
    (along : Along (fun s action => some (serve s action).1) (fun s action _ => meets s action) s actions) :
    (serveAll serve mine s actions).2 = (serveAll shadow (fun _ => true) v (actions.filter mine)).2 ∧
      agree (serveAll serve mine s actions).1 (serveAll shadow (fun _ => true) v (actions.filter mine)).1 := by
  induction actions generalizing s v with
  | nil => exact ⟨rfl,agreed⟩
  | cons action rest ih =>
    obtain ⟨met,later⟩ := along _ rfl
    have next := kept initial met
    cases own : mine action with
    | false =>
      obtain ⟨answers,left⟩ := ih next (hidden initial agreed met own) later
      rw [List.filter_cons_of_neg (by simp [own])]
      simp only [serveAll,own]
      exact ⟨answers,left⟩
    | true =>
      obtain ⟨same,agreed⟩ := seen initial agreed met own
      obtain ⟨answers,left⟩ := ih next agreed later
      rw [List.filter_cons_of_pos own]
      simp only [serveAll,own,if_true]
      exact ⟨by rw [same,answers],left⟩

end SmartParking.Lib.Noninterference
