import MqttProtocolCore.General.Runs

namespace MqttProtocolCore.General

universe u

variable {σ ι ο γ : Type u}

/-- The inputs and outputs that lead from a start to a state of a specification, whose steps are a
relation. -/
inductive Behaves (step : γ → ι → γ → ο → Prop) (start : γ) : List (ι × ο) → γ → Prop where
  | nil : Behaves step start [] start
  | concat {l : List (ι × ο)} {g g' : γ} {i : ι} {o : ο} :
      Behaves step start l g → step g i g' o → Behaves step start (l ++ [(i, o)]) g'

/-- What is seen of a run from outside. -/
def observed (trace : List (Transition σ ι ο)) : List (ι × ο) :=
  trace.map fun t ↦ (t.input, t.output)

/-- A machine whose steps, seen through an abstraction, are steps of the specification behaves as
the specification does. -/
theorem Run.behaves {S : System σ ι ο} {ok : σ → ι → Prop} {trace : List (Transition σ ι ο)} {s : σ}
    {start : γ} {step : γ → ι → γ → ο → Prop} (h : Run S ok trace s) (I : σ → Prop) (abs : σ → γ)
    (init : ∀ s, S.Init s → I s ∧ abs s = start)
    (sim : ∀ s i, I s → ok s i → (S.step s i).Ensures fun r ↦ I r.1 ∧ step (abs s) i (abs r.1) r.2) :
    I s ∧ Behaves step start (observed trace) (abs s) := by
  induction h with
  | init h =>
    obtain ⟨hI, rfl⟩ := init _ h
    exact ⟨hI, .nil⟩
  | step _ hok hstep ih =>
    obtain ⟨hI, hs⟩ := sim _ _ ih.1 hok _ hstep
    refine ⟨hI, ?_⟩
    rw [observed, List.map_append]
    exact ih.2.concat hs

end MqttProtocolCore.General
