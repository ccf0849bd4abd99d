import MqttProtocolCore.General.Slice

namespace MqttProtocolCore.General

universe u v

/-- An array of `n` elements. -/
abbrev Block (α : Type u) (n : ℕ) := {l : List α // l.length = n}

namespace Block

variable {α : Type u} {ε : Type v} {n start stop i : ℕ} {source : List α} {x : α}
  {buffer : Block α n}

def replicate (n : ℕ) (x : α) : Block α n := ⟨List.replicate n x, List.length_replicate⟩

def store (buffer : Block α n) (i : ℕ) (x : α) : Fallible ε (Block α n) :=
  if i < n then .ok ⟨buffer.val.set i x, List.length_set.trans buffer.property⟩ else .panic

theorem length_copy (buffer : Block α n)
    (h : start ≤ stop ∧ stop ≤ n ∧ source.length = stop - start) :
    (buffer.val.take start ++ source ++ buffer.val.drop stop).length = n := by
  have hlen := buffer.property
  simp only [List.length_append, List.length_take, List.length_drop]
  omega

/-- `buffer[start..stop].copy_from_slice(source)`: panics out of range, or when the lengths
differ. -/
def copyFrom (buffer : Block α n) (start stop : ℕ) (source : List α) : Fallible ε (Block α n) :=
  if h : start ≤ stop ∧ stop ≤ n ∧ source.length = stop - start then
    .ok ⟨_, length_copy buffer h⟩
  else .panic

theorem store_eq (h : i < n) : (buffer.store i x : Fallible ε (Block α n)) =
    .ok ⟨buffer.val.set i x, List.length_set.trans buffer.property⟩ := if_pos h

theorem copyFrom_eq (h : start ≤ stop ∧ stop ≤ n ∧ source.length = stop - start) :
    (buffer.copyFrom start stop source : Fallible ε (Block α n)) =
      .ok ⟨_, length_copy buffer h⟩ := dif_pos h

end Block

end MqttProtocolCore.General
