import Mathlib.Logic.Function.Basic

namespace MqttProtocolCore.General

universe u v

/-- A word names its meaning, gives a key to the meaning that it names, or refers to the meaning of
a key. -/
inductive Word (κ : Type u) (ν : Type v) where
  | plain (meaning : ν)
  | define (key : κ) (meaning : ν)
  | refer (key : κ)

variable {κ : Type u} {ν : Type v} [DecidableEq κ]

namespace Word

/-- What a word means to one who knows the keys in `d`. -/
def meaning (d : κ → Option ν) : Word κ ν → Option ν
  | plain m | define _ m => some m
  | refer k => d k

def learn (d : κ → Option ν) : Word κ ν → κ → Option ν
  | define k m => Function.update d k (some m)
  | _ => d

end Word

/-- The words on their way are taken as they were meant, one after the other, by a listener who
knows the keys in `d`. -/
def Understood (d : κ → Option ν) : List (Word κ ν × Option ν) → Prop
  | [] => True
  | (word, m) :: rest => word.meaning d = m ∧ Understood (word.learn d) rest

def afterWords (d : κ → Option ν) (words : List (Word κ ν × Option ν)) : κ → Option ν :=
  words.foldl (fun d x ↦ x.1.learn d) d

/-- Every key that the speaker knows is known to the listener with the same meaning. -/
def Shares (s d : κ → Option ν) : Prop := ∀ k m, s k = some m → d k = some m

/-- The words on their way are understood, and after them the listener knows the keys of the
speaker. -/
structure Agree (s d : κ → Option ν) (words : List (Word κ ν × Option ν)) : Prop where
  understood : Understood d words
  shared : Shares s (afterWords d words)

variable {s s' d : κ → Option ν} {word : Word κ ν} {words : List (Word κ ν × Option ν)} {m : ν}
  {o : Option ν}

omit [DecidableEq κ] in
theorem Shares.meaning (h : Shares s d) (hm : word.meaning s = some m) :
    word.meaning d = some m := by
  cases word with
  | plain | define => exact hm
  | refer k => exact h k m hm

theorem Shares.learn (h : Shares s d) (word : Word κ ν) : Shares (word.learn s) (word.learn d) := by
  cases word with
  | plain | refer => exact h
  | define k m =>
    intro k' m' hk
    by_cases heq : k' = k
    · subst heq
      simpa [Word.learn] using hk
    · simp only [Word.learn, Function.update_of_ne heq] at hk ⊢
      exact h k' m' hk

theorem understood_append (h : Understood d words)
    (hm : word.meaning (afterWords d words) = o) : Understood d (words ++ [(word, o)]) := by
  induction words generalizing d with
  | nil => exact ⟨hm, trivial⟩
  | cons x words ih => exact ⟨h.1, ih h.2 hm⟩

theorem Agree.say (h : Agree s d words) (hm : word.meaning s = some m) :
    Agree (word.learn s) d (words ++ [(word, some m)]) := by
  refine ⟨understood_append h.understood (h.shared.meaning hm), ?_⟩
  unfold afterWords
  rw [List.foldl_append]
  exact h.shared.learn word

theorem Agree.forget (h : Agree s d words) (hs : Shares s' s) : Agree s' d words :=
  ⟨h.understood, fun k m hk ↦ h.shared k m (hs k m hk)⟩

theorem Agree.hear (h : Agree s d ((word, o) :: words)) :
    word.meaning d = o ∧ Agree s (word.learn d) words :=
  ⟨h.understood.1, h.understood.2, h.shared⟩

theorem agree_nil (h : ∀ k, s k = none) : Agree s d [] :=
  ⟨trivial, fun k m hk ↦ by simp [h k] at hk⟩

end MqttProtocolCore.General
