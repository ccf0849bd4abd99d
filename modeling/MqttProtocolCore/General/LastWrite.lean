import Mathlib.Data.List.Basic
import Mathlib.Tactic.Common

namespace MqttProtocolCore.General

universe u v

variable {α β σ : Type u} {κ κ' : Type v} [DecidableEq κ] [DecidableEq κ']

/-- Of each kind of write only the last one. -/
def lastOnly (kind : α → κ) : List α → List α
  | [] => []
  | a :: as => if kind a ∈ as.map kind then lastOnly kind as else a :: lastOnly kind as

variable {kind : α → κ} {a : α} {as : List α}

theorem lastOnly_subset : ∀ {as : List α}, lastOnly kind as ⊆ as := by
  intro as
  induction as with
  | nil => exact List.Subset.refl _
  | cons a as ih =>
    rw [lastOnly]
    split
    · exact List.subset_cons_of_subset a ih
    · exact List.cons_subset_cons a ih

theorem exists_of_mem_lastOnly (h : a ∈ lastOnly kind as) :
    ∃ front back, as = front ++ a :: back ∧ kind a ∉ back.map kind := by
  induction as with
  | nil => cases h
  | cons b as ih =>
    rw [lastOnly] at h
    split at h
    · obtain ⟨front, back, hsplit, hback⟩ := ih h
      exact ⟨b :: front, back, congrArg (b :: ·) hsplit, hback⟩
    · rename_i hb
      cases List.mem_cons.mp h with
      | inl heq =>
        rw [heq]
        exact ⟨[], as, rfl, hb⟩
      | inr h =>
        obtain ⟨front, back, hsplit, hback⟩ := ih h
        exact ⟨b :: front, back, congrArg (b :: ·) hsplit, hback⟩

/-- Writes of one kind overwrite each other, writes of different kinds do not interfere. -/
structure Overwrites (kind : α → κ) (write : σ → α → σ) : Prop where
  same {s : σ} {a b : α} : kind a = kind b → write (write s a) b = write s b
  other {s : σ} {a b : α} : kind a ≠ kind b → write (write s a) b = write (write s b) a

theorem Overwrites.absorb {write : σ → α → σ} (h : Overwrites kind write) {s : σ}
    (ha : kind a ∈ as.map kind) : as.foldl write (write s a) = as.foldl write s := by
  induction as generalizing s with
  | nil => cases ha
  | cons b as ih =>
    rw [List.foldl_cons, List.foldl_cons]
    by_cases hb : kind a = kind b
    · rw [h.same hb]
    · rw [h.other hb]
      apply ih
      rw [List.map_cons] at ha
      exact (List.mem_cons.mp ha).resolve_left hb

theorem Overwrites.foldl_lastOnly {write : σ → α → σ} (h : Overwrites kind write) (s : σ) :
    (lastOnly kind as).foldl write s = as.foldl write s := by
  induction as generalizing s with
  | nil => rfl
  | cons a as ih =>
    rw [lastOnly, List.foldl_cons]
    split
    · rw [ih, h.absorb ‹_›]
    · rw [List.foldl_cons, ih]

theorem filterMap_lastOnly {kind' : β → κ'} {f : α → Option β}
    (hkind : ∀ {a a' : α} {b : β}, f a = some b →
      (kind a' = kind a ↔ ∃ b', f a' = some b' ∧ kind' b' = kind' b)) :
    (lastOnly kind as).filterMap f = lastOnly kind' (as.filterMap f) := by
  induction as with
  | nil => rfl
  | cons a as ih =>
    rw [lastOnly]
    cases hf : f a with
    | none =>
      rw [List.filterMap_cons_none hf]
      split
      · exact ih
      · rw [List.filterMap_cons_none hf, ih]
    | some b =>
      have hmem : kind a ∈ as.map kind ↔ kind' b ∈ (as.filterMap f).map kind' := by
        simp only [List.mem_map, List.mem_filterMap]
        constructor
        · intro ⟨a', ha', heq⟩
          obtain ⟨b', hb', hk⟩ := (hkind hf).mp heq
          exact ⟨b', ⟨a', ha', hb'⟩, hk⟩
        · intro ⟨b', ⟨a', ha', hb'⟩, hk⟩
          exact ⟨a', ha', (hkind hf).mpr ⟨b', hb', hk⟩⟩
      rw [List.filterMap_cons_some hf, lastOnly]
      by_cases h : kind a ∈ as.map kind
      · rw [if_pos h, if_pos (hmem.mp h), ih]
      · rw [if_neg h, if_neg fun h' ↦ h (hmem.mpr h'), List.filterMap_cons_some hf, ih]

end MqttProtocolCore.General
