import MqttProtocolCore.General.Runs

namespace MqttProtocolCore.General

universe u

variable {σ ι ο : Type u} {S : System σ ι ο} {s t : σ}

namespace System

/-- What a machine gives back for the inputs, one after the other. -/
def replies (S : System σ ι ο) (s : σ) (inputs : List ι) : Outcome (List ο) :=
  (fun r ↦ r.1.map Transition.output) <$> S.run s inputs

def after (S : System σ ι ο) (s : σ) (inputs : List ι) : Outcome σ := Prod.snd <$> S.run s inputs

@[simp] theorem after_nil : S.after s [] = .ret s := rfl

@[simp] theorem after_cons (i : ι) (inputs : List ι) :
    S.after s (i :: inputs) = S.step s i >>= fun r ↦ S.after r.1 inputs := by
  unfold after
  rw [run]
  simp only [map_bind]
  apply bind_congr
  intro r
  cases S.run r.1 inputs <;> rfl

theorem after_append (inputs inputs' : List ι) :
    S.after s (inputs ++ inputs') = S.after s inputs >>= (S.after · inputs') := by
  induction inputs generalizing s with
  | nil => rfl
  | cons i inputs ih => simp only [List.cons_append, after_cons, ih, bind_assoc]

end System

/-- No inputs tell the two states apart by what the machine gives back for them. -/
def Indistinguishable (S : System σ ι ο) (s t : σ) : Prop :=
  ∀ inputs, S.replies s inputs = S.replies t inputs

theorem Indistinguishable.refl (S : System σ ι ο) (s : σ) : Indistinguishable S s s :=
  fun _ ↦ rfl

end MqttProtocolCore.General
