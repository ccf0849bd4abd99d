import Mathlib.Tactic.Common

namespace MqttProtocolCore.General

universe u v

variable {α β γ : Type u} {ε : Type v}

/-- What code that may abort does: it returns a value or it panics. -/
inductive Outcome (α : Type u) where
  | ret (value : α)
  | panic
deriving DecidableEq

namespace Outcome

def bind (x : Outcome α) (f : α → Outcome β) : Outcome β :=
  match x with
  | ret a => f a
  | panic => panic

instance : Monad Outcome where
  pure := ret
  bind := bind

@[simp] theorem pure_eq (a : α) : (pure a : Outcome α) = ret a := rfl

@[simp] theorem ret_bind (a : α) (f : α → Outcome β) : (ret a >>= f) = f a := rfl

@[simp] theorem panic_bind (f : α → Outcome β) : ((panic : Outcome α) >>= f) = panic := rfl

instance : LawfulMonad Outcome := LawfulMonad.mk' _
  (fun x ↦ by cases x <;> rfl) (fun _ _ ↦ rfl) (fun x _ _ ↦ by cases x <;> rfl)

@[simp] theorem map_ret (f : α → β) (a : α) : f <$> (ret a) = ret (f a) := rfl

@[simp] theorem map_panic (f : α → β) : f <$> (panic : Outcome α) = panic := rfl

theorem bind_eq_ret {x : Outcome α} {f : α → Outcome β} {b : β} :
    (x >>= f) = ret b ↔ ∃ a, x = ret a ∧ f a = ret b := by
  cases x <;> simp

theorem map_eq_ret {x : Outcome α} {f : α → β} {b : β} :
    f <$> x = ret b ↔ ∃ a, x = ret a ∧ f a = b := by
  cases x <;> simp

def Returns (x : Outcome α) : Prop := ∃ a, x = ret a

def Ensures (x : Outcome α) (P : α → Prop) : Prop := ∀ a, x = ret a → P a

@[simp] theorem returns_ret (a : α) : (ret a).Returns := ⟨a, rfl⟩

@[simp] theorem not_returns_panic : ¬ (panic : Outcome α).Returns := by
  rintro ⟨a, h⟩
  cases h

instance (x : Outcome α) : Decidable x.Returns :=
  match x with
  | ret a => isTrue ⟨a, rfl⟩
  | panic => isFalse not_returns_panic

theorem returns_bind {x : Outcome α} {f : α → Outcome β} :
    (x >>= f).Returns ↔ ∃ a, x = ret a ∧ (f a).Returns := by
  cases x <;> simp

@[simp] theorem returns_map {x : Outcome α} {f : α → β} : (f <$> x).Returns ↔ x.Returns := by
  cases x <;> simp

def Attains (x : Outcome α) (P : α → Prop) : Prop := ∃ a, x = ret a ∧ P a

@[simp] theorem attains_ret {a : α} {P : α → Prop} : (ret a).Attains P ↔ P a := by
  simp [Attains]

@[simp] theorem not_attains_panic {P : α → Prop} : ¬ (panic : Outcome α).Attains P := by
  simp [Attains]

instance (x : Outcome α) (P : α → Prop) [DecidablePred P] : Decidable (x.Attains P) :=
  match x with
  | ret _ => decidable_of_iff _ attains_ret.symm
  | panic => isFalse not_attains_panic

@[simp] theorem ensures_ret {a : α} {P : α → Prop} : (ret a).Ensures P ↔ P a :=
  ⟨fun h ↦ h a rfl, fun h b hb ↦ by cases hb; exact h⟩

@[simp] theorem ensures_panic {P : α → Prop} : (panic : Outcome α).Ensures P := by
  intro a h
  cases h

/-- The value the code returns satisfies `P`, and it panics only when `Q` holds. -/
def Spec (x : Outcome α) (P : α → Prop) (Q : Prop) : Prop :=
  match x with
  | ret a => P a
  | panic => Q

@[simp] theorem spec_ret {a : α} {P : α → Prop} {Q : Prop} : (ret a).Spec P Q ↔ P a := Iff.rfl

@[simp] theorem spec_panic {P : α → Prop} {Q : Prop} : (panic : Outcome α).Spec P Q ↔ Q := Iff.rfl

section Spec

variable {x : Outcome α} {f : α → Outcome β} {a : α} {P P' : α → Prop} {R : β → Prop}
  {Q Q' : Prop}

theorem Spec.mono (h : x.Spec P Q) (hP : ∀ a, P a → P' a) (hQ : Q → Q') : x.Spec P' Q' := by
  cases x with
  | ret a => exact hP a h
  | panic => exact hQ h

theorem Spec.bind (hx : x.Spec P Q) (hf : ∀ a, P a → (f a).Spec R Q') (hQ : Q → Q') :
    (x >>= f).Spec R Q' := by
  cases x with
  | ret a => exact hf a hx
  | panic => exact hQ hx

theorem Spec.of_ret (h : x.Spec P Q) (hx : x = ret a) : P a := by
  subst hx
  exact h

theorem Spec.exists_ret (h : x.Spec P Q) (hQ : ¬ Q) : ∃ a, x = ret a ∧ P a := by
  cases x with
  | ret a => exact ⟨a, rfl, h⟩
  | panic => exact (hQ h).elim

/-- A specification whose two parts exclude each other says exactly when the code returns. -/
theorem Spec.returns_iff (h : x.Spec P Q) (hex : ∀ a, P a → ¬ Q) : x.Returns ↔ ¬ Q := by
  cases x with
  | ret a => simpa using hex a h
  | panic =>
    rw [spec_panic] at h
    simp [h]

end Spec

theorem Ensures.mono {x : Outcome α} {P Q : α → Prop} (h : x.Ensures P) (hPQ : ∀ a, P a → Q a) :
    x.Ensures Q := fun a ha ↦ hPQ a (h a ha)

theorem Ensures.bind {x : Outcome α} {f : α → Outcome β} {P : α → Prop} {Q : β → Prop}
    (hx : x.Ensures P) (hf : ∀ a, P a → (f a).Ensures Q) : (x >>= f).Ensures Q := by
  intro b hb
  obtain ⟨a, ha, hfa⟩ := bind_eq_ret.mp hb
  exact hf a (hx a ha) b hfa

end Outcome

/-- What fallible code does: it returns a value, reports an error or panics. -/
inductive Fallible (ε : Type v) (α : Type u) where
  | ok (value : α)
  | err (error : ε)
  | panic
deriving DecidableEq

namespace Fallible

def bind (x : Fallible ε α) (f : α → Fallible ε β) : Fallible ε β :=
  match x with
  | ok a => f a
  | err e => err e
  | panic => panic

instance : Monad (Fallible ε) where
  pure := ok
  bind := bind

@[simp] theorem pure_eq (a : α) : (pure a : Fallible ε α) = ok a := rfl

@[simp] theorem ok_bind (a : α) (f : α → Fallible ε β) : (ok a >>= f) = f a := rfl

@[simp] theorem err_bind (e : ε) (f : α → Fallible ε β) : (err e >>= f) = err e := rfl

@[simp] theorem panic_bind (f : α → Fallible ε β) : ((panic : Fallible ε α) >>= f) = panic := rfl

instance : LawfulMonad (Fallible ε) := LawfulMonad.mk' _
  (fun x ↦ by cases x <;> rfl) (fun _ _ ↦ rfl) (fun x _ _ ↦ by cases x <;> rfl)

def unwrap : Fallible ε α → Outcome α
  | ok a => .ret a
  | err _ => .panic
  | panic => .panic

@[simp] theorem unwrap_ok (a : α) : (ok a : Fallible ε α).unwrap = .ret a := rfl

@[simp] theorem unwrap_err (e : ε) : (err e : Fallible ε α).unwrap = .panic := rfl

def ofExcept : Except ε α → Fallible ε α
  | .ok a => ok a
  | .error e => err e

def require (cond : Prop) [Decidable cond] (error : ε) : Fallible ε PUnit.{u + 1} :=
  if cond then ok ⟨⟩ else err error

def assert (cond : Prop) [Decidable cond] : Fallible ε PUnit.{u + 1} :=
  if cond then ok ⟨⟩ else panic

/-- The code does not panic and every value it returns satisfies `P`. -/
def Yields (x : Fallible ε α) (P : α → Prop) : Prop :=
  match x with
  | ok a => P a
  | err _ => True
  | panic => False

@[simp] theorem yields_ok {a : α} {P : α → Prop} : (ok a : Fallible ε α).Yields P ↔ P a := Iff.rfl

@[simp] theorem yields_err {e : ε} {P : α → Prop} : (err e : Fallible ε α).Yields P := trivial

theorem Yields.of_ok {x : Fallible ε α} {P : α → Prop} {a : α} (h : x.Yields P) (hx : x = ok a) :
    P a := by
  subst hx
  exact h

theorem Yields.mono {x : Fallible ε α} {P Q : α → Prop} (h : x.Yields P) (hPQ : ∀ a, P a → Q a) :
    x.Yields Q := by
  cases x with
  | ok a => exact hPQ a h
  | err e => trivial
  | panic => exact h

theorem Yields.bind {x : Fallible ε α} {f : α → Fallible ε β} {P : α → Prop} {Q : β → Prop}
    (hx : x.Yields P) (hf : ∀ a, P a → (f a).Yields Q) : (x >>= f).Yields Q := by
  cases x with
  | ok a => exact hf a hx
  | err e => trivial
  | panic => exact hx.elim

theorem require_eq_ok {cond : Prop} [Decidable cond] {error : ε} {u : PUnit.{u + 1}} :
    (require cond error : Fallible ε PUnit.{u + 1}) = ok u ↔ cond := by
  unfold require
  split <;> simp [*]

theorem yields_require {cond : Prop} [Decidable cond] {error : ε} :
    (require cond error : Fallible ε PUnit.{u + 1}).Yields fun _ ↦ cond := by
  unfold require
  split
  · assumption
  · trivial

theorem unwrap_eq_ret {x : Fallible ε α} {a : α} : x.unwrap = .ret a ↔ x = ok a := by
  cases x <;> simp [unwrap]

theorem bind_eq_ok {x : Fallible ε α} {f : α → Fallible ε β} {b : β} :
    (x >>= f) = ok b ↔ ∃ a, x = ok a ∧ f a = ok b := by
  cases x <;> simp

end Fallible

end MqttProtocolCore.General
