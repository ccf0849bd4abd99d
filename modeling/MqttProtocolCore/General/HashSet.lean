import Mathlib.Data.List.Nodup

namespace MqttProtocolCore.General

universe u

/-- A set kept as a duplicate-free list. The order of the list stands for the order in which the
set is drained. -/
structure HashSet (α : Type u) where
  elems : List α
  nodup : elems.Nodup
deriving DecidableEq

namespace HashSet

variable {α : Type u}

instance : Membership α (HashSet α) := ⟨fun s a ↦ a ∈ s.elems⟩

theorem mem_def {s : HashSet α} {a : α} : a ∈ s ↔ a ∈ s.elems := Iff.rfl

instance [DecidableEq α] (s : HashSet α) (a : α) : Decidable (a ∈ s) :=
  inferInstanceAs (Decidable (a ∈ s.elems))

def empty : HashSet α := ⟨[], List.nodup_nil⟩

instance : EmptyCollection (HashSet α) := ⟨empty⟩

def len (s : HashSet α) : ℕ := s.elems.length

variable [DecidableEq α]

def insert (s : HashSet α) (a : α) : HashSet α where
  elems := if a ∈ s.elems then s.elems else s.elems ++ [a]
  nodup := by
    split
    · exact s.nodup
    · rename_i h
      exact List.nodup_append.mpr ⟨s.nodup, List.nodup_singleton a, by grind⟩

def remove (s : HashSet α) (a : α) : HashSet α := ⟨s.elems.erase a, s.nodup.erase a⟩

omit [DecidableEq α] in
omit [DecidableEq α] in
@[simp] theorem notMem_empty (a : α) : a ∉ (∅ : HashSet α) := List.not_mem_nil

@[simp] theorem mem_insert {s : HashSet α} {a b : α} : b ∈ s.insert a ↔ b = a ∨ b ∈ s := by
  simp only [mem_def, insert]
  split
  · grind
  · simp [or_comm]

@[simp] theorem mem_remove {s : HashSet α} {a b : α} : b ∈ s.remove a ↔ b ≠ a ∧ b ∈ s := by
  simp only [mem_def, remove]
  exact s.nodup.mem_erase_iff

theorem insert_of_mem {s : HashSet α} {a : α} (h : a ∈ s) : s.insert a = s := by
  simp only [mem_def] at h
  simp [insert, h]

theorem remove_of_notMem {s : HashSet α} {a : α} (h : a ∉ s) : s.remove a = s := by
  simp only [mem_def] at h
  simp [remove, List.erase_of_not_mem h]

theorem len_remove_le {s : HashSet α} {a : α} : (s.remove a).len ≤ s.len :=
  List.length_erase_le

theorem len_insert_le {s : HashSet α} {a : α} : (s.insert a).len ≤ s.len + 1 := by
  simp only [len, insert]
  split <;> simp

end HashSet

end MqttProtocolCore.General
