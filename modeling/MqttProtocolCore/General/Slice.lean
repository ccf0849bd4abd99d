import MqttProtocolCore.General.Outcome

namespace MqttProtocolCore.General

universe u v

variable {α : Type u} {ε : Type v}

/-- `data[i]`: out of range panics. -/
def index (data : List α) (i : ℕ) : Fallible ε α :=
  match data[i]? with
  | some a => .ok a
  | none => .panic

def sliceFrom (data : List α) (start : ℕ) : Fallible ε (List α) :=
  if start ≤ data.length then .ok (data.drop start) else .panic

def slice (data : List α) (start stop : ℕ) : Fallible ε {d : List α // d.length = stop - start} :=
  if h : start ≤ stop ∧ stop ≤ data.length then
    .ok ⟨(data.take stop).drop start, by simp [h.2]⟩
  else .panic

variable {data : List α} {i start stop : ℕ}

theorem index_eq (h : i < data.length) : (index data i : Fallible ε α) = .ok data[i] := by
  simp [index, h]

theorem sliceFrom_eq (h : start ≤ data.length) :
    (sliceFrom data start : Fallible ε (List α)) = .ok (data.drop start) := if_pos h

theorem length_slice (h : stop ≤ data.length) :
    ((data.take stop).drop start).length = stop - start := by simp [h]

theorem slice_eq (h₁ : start ≤ stop) (h₂ : stop ≤ data.length) :
    (slice data start stop : Fallible ε {d : List α // d.length = stop - start}) =
      .ok ⟨(data.take stop).drop start, length_slice h₂⟩ := dif_pos ⟨h₁, h₂⟩

theorem yields_index (h : i < data.length) :
    (index data i : Fallible ε α).Yields fun _ ↦ True := by
  simp [index_eq h]

theorem yields_sliceFrom (h : start ≤ data.length) :
    (sliceFrom data start : Fallible ε (List α)).Yields fun d ↦ d.length = data.length - start := by
  simp [sliceFrom_eq h]

theorem yields_slice (h₁ : start ≤ stop) (h₂ : stop ≤ data.length) :
    (slice data start stop : Fallible ε {d : List α // d.length = stop - start}).Yields
      fun _ ↦ True := by
  simp [slice_eq h₁ h₂]

end MqttProtocolCore.General
