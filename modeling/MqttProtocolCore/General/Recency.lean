import Mathlib.Data.List.Dedup
import Mathlib.Data.List.Induction

namespace MqttProtocolCore.General

universe u

variable {α : Type u} [DecidableEq α] {a b : α} {l : List α}

/-- What was used in a history, the element whose last use is the oldest first. -/
def recency (l : List α) : List α := l.dedup

def moveToEnd (l : List α) (a : α) : List α := l.filter (· ≠ a) ++ [a]

/-- In a history `a` was used, and every other element of a set was used after its last use. -/
def Oldest (l : List α) (s : Set α) (a : α) : Prop :=
  ∃ before after, l = before ++ a :: after ∧ a ∉ after ∧ ∀ b ∈ s, b ≠ a → b ∈ after

@[simp] theorem mem_recency : a ∈ recency l ↔ a ∈ l := List.mem_dedup

theorem recency_concat (l : List α) (a : α) : recency (l ++ [a]) = moveToEnd (recency l) a := by
  unfold recency moveToEnd
  induction l with
  | nil => simp
  | cons b l ih =>
    rw [List.cons_append, List.dedup_cons, List.dedup_cons, ih]
    by_cases hb : b ∈ l
    · simp [hb]
    · by_cases hba : b = a
      · subst hba
        simp [hb]
      · simp [hb, hba]

theorem moveToEnd_getLast (h : l.Nodup) (ha : l.getLast? = some a) : moveToEnd l a = l := by
  obtain ⟨l', rfl⟩ := List.getLast?_eq_some_iff.mp ha
  have hno : a ∉ l' := fun hm ↦ (List.nodup_append.mp h).2.2 a hm a List.mem_cons_self rfl
  unfold moveToEnd
  rw [List.filter_append, List.filter_eq_self.mpr]
  · simp
  · intro b hb
    simp only [ne_eq, decide_not, Bool.not_eq_true', decide_eq_false_iff_not]
    rintro rfl
    exact hno hb

theorem getLast?_recency (l : List α) : (recency l).getLast? = l.getLast? := by
  induction l using List.reverseRecOn with
  | nil => rfl
  | append_singleton l a ih =>
    rw [recency_concat]
    simp [moveToEnd]

theorem oldest_of_recency {rest : List α} (h : recency l = a :: rest) :
    Oldest l {b | b ∈ l} a := by
  induction l generalizing rest with
  | nil => cases h
  | cons b l ih =>
    unfold recency at *
    by_cases hb : b ∈ l
    · rw [List.dedup_cons_of_mem hb] at h
      obtain ⟨before, after, rfl, hno, hall⟩ := ih h
      refine ⟨b :: before, after, rfl, hno, fun x hx hne ↦ hall x ?_ hne⟩
      obtain rfl | hx := List.mem_cons.mp hx
      · exact hb
      · exact hx
    · rw [List.dedup_cons_of_notMem hb] at h
      obtain ⟨rfl, -⟩ := List.cons.inj h
      exact ⟨[], l, rfl, hb, fun x hx hne ↦ (List.mem_cons.mp hx).resolve_left hne⟩

end MqttProtocolCore.General
