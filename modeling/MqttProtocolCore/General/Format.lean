import MqttProtocolCore.General.Slice

namespace MqttProtocolCore.General

universe u v

variable {β : Type u} {α : Type u} {ε : Type v}

/-- Which codes stand for which values. -/
abbrev Format (β α : Type u) := List β → α → Prop

/-- The format in which the only code of a value is the one that `encode` writes. -/
def Format.exactly (encode : α → List β) : Format β α := fun code a ↦ code = encode a

inductive Format.listOf (G : Format β α) : Format β (List α) where
  | nil : listOf G [] []
  | cons {code codes : List β} {a : α} {as : List α} :
    G code a → listOf G codes as → listOf G (code ++ codes) (a :: as)

/-- The parser accepts the data that begin with a code, and consumes the code. -/
structure Accepts (G : Format β α) (parse : List β → Fallible ε (α × ℕ)) : Prop where
  iff {data : List β} {a : α} {n : ℕ} : parse data = .ok (a, n) ↔
    ∃ code rest, data = code ++ rest ∧ n = code.length ∧ G code a

/-- From `cursor` on the data are `tail`. -/
def At (data : List β) (cursor : ℕ) (tail : List β) : Prop :=
  ∃ front, data = front ++ tail ∧ cursor = front.length

/-- A parser with a cursor accepts the format. -/
structure AcceptsAt (G : Format β α) (step : List β → ℕ → Fallible ε (α × ℕ)) : Prop where
  iff {data : List β} {cursor : ℕ} {tail : List β} {a : α} {n : ℕ} (hat : At data cursor tail) :
    step data cursor = .ok (a, n) ↔
      ∃ code rest, tail = code ++ rest ∧ n = cursor + code.length ∧ G code a

/-- `encode` writes the one shortest code of a value that is `valid`. -/
structure Shortest (G : Format β α) (valid : α → Prop) (encode : α → List β) : Prop where
  code {a : α} : valid a → G (encode a) a
  valid {code : List β} {a : α} : G code a → valid a
  le {code : List β} {a : α} : G code a → (encode a).length ≤ code.length
  unique {code : List β} {a : α} : G code a → code.length = (encode a).length → code = encode a

/-- Where codes are not empty, the empty list is the only one with the empty code. -/
theorem Format.listOf_nil_iff {G : Format β α} (hne : ∀ {code a}, G code a → code ≠ [])
    {as : List α} : G.listOf [] as ↔ as = [] := by
  constructor
  · intro h
    generalize hcode : ([] : List β) = code at h
    cases h with
    | nil => rfl
    | cons hG _ => exact (hne hG (List.append_eq_nil_iff.mp hcode.symm).1).elim
  · rintro rfl
    exact .nil

theorem Format.listOf.mono {G G' : Format β α} {codes : List β} {as : List α} (h : G.listOf codes as)
    (hG : ∀ {code a}, G code a → G' code a) : G'.listOf codes as := by
  induction h with
  | nil => exact .nil
  | cons hcode _ ih => exact .cons (hG hcode) ih

theorem Format.listOf_exactly_iff {encode : α → List β} {codes : List β} {as : List α} :
    (Format.exactly encode).listOf codes as ↔ codes = as.flatMap encode := by
  constructor
  · intro h
    induction h with
    | nil => rfl
    | cons hG _ ih => rw [List.flatMap_cons, ← ih, ← hG]
  · rintro rfl
    induction as with
    | nil => exact .nil
    | cons a as ih =>
      rw [List.flatMap_cons]
      exact .cons rfl ih

namespace At

variable {data code rest tail : List β} {cursor : ℕ}

theorem start (data : List β) : At data 0 data := ⟨[], rfl, rfl⟩

theorem next (h : At data cursor (code ++ rest)) : At data (cursor + code.length) rest := by
  obtain ⟨front, rfl, rfl⟩ := h
  exact ⟨front ++ code, by rw [List.append_assoc], by rw [List.length_append]⟩

theorem next_cons {b : β} (h : At data cursor (b :: rest)) : At data (cursor + 1) rest := by
  change At data cursor ([b] ++ rest) at h
  exact h.next

theorem length (h : At data cursor tail) : data.length = cursor + tail.length := by
  obtain ⟨front, rfl, rfl⟩ := h
  exact List.length_append

theorem le (h : At data cursor tail) : cursor ≤ data.length := by
  have := h.length
  omega

theorem lt_iff (h : At data cursor tail) : cursor < data.length ↔ tail ≠ [] := by
  rw [← List.length_pos_iff]
  have := h.length
  omega

theorem drop (h : At data cursor tail) : data.drop cursor = tail := by
  obtain ⟨front, rfl, rfl⟩ := h
  exact List.drop_left

theorem sliceFrom_eq (h : At data cursor tail) :
    (sliceFrom data cursor : Fallible ε (List β)) = .ok tail := by
  rw [General.sliceFrom_eq h.le, h.drop]

theorem index_eq {b : β} (h : At data cursor (b :: rest)) :
    (index data cursor : Fallible ε β) = .ok b := by
  obtain ⟨front, rfl, rfl⟩ := h
  simp [index]

theorem slice_eq (h : At data cursor (code ++ rest)) (stop : ℕ)
    (hs : stop = cursor + code.length) :
    ∃ hlen, (slice data cursor stop : Fallible ε {d : List β // d.length = stop - cursor}) =
      .ok ⟨code, hlen⟩ := by
  subst hs
  have hlen := h.next.le
  refine ⟨by omega, ?_⟩
  rw [General.slice_eq (by omega) hlen]
  obtain ⟨front, rfl, rfl⟩ := h
  simp [← List.append_assoc]

end At

section Accepts

variable {G : Format β α} {parse : List β → Fallible ε (α × ℕ)} {data code rest tail : List β}
  {cursor : ℕ} {a : α} {n : ℕ}

theorem Accepts.complete (h : Accepts G parse) (hG : G code a) (rest : List β) :
    parse (code ++ rest) = .ok (a, code.length) := h.iff.mpr ⟨code, rest, rfl, rfl, hG⟩

theorem Accepts.inj {code' rest' : List β} {a' : α} (h : Accepts G parse) (hG : G code a)
    (hG' : G code' a') (heq : code ++ rest = code' ++ rest') :
    code = code' ∧ a = a' ∧ rest = rest' := by
  have h₁ := h.complete hG rest
  rw [heq, h.complete hG' rest', Fallible.ok.injEq, Prod.mk.injEq] at h₁
  obtain ⟨hcode, hrest⟩ := List.append_inj heq h₁.2.symm
  exact ⟨hcode, h₁.1.symm, hrest⟩

variable {step : List β → ℕ → Fallible ε (α × ℕ)}

theorem AcceptsAt.complete (h : AcceptsAt G step) (hat : At data cursor (code ++ rest))
    (hG : G code a) : step data cursor = .ok (a, cursor + code.length) :=
  (h.iff hat).mpr ⟨code, rest, rfl, rfl, hG⟩

theorem AcceptsAt.sound (h : AcceptsAt G step) (hat : At data cursor tail)
    (hs : step data cursor = .ok (a, n)) :
    ∃ code rest, tail = code ++ rest ∧ n = cursor + code.length ∧ G code a ∧ At data n rest := by
  obtain ⟨code, rest, rfl, rfl, hG⟩ := (h.iff hat).mp hs
  exact ⟨code, rest, rfl, rfl, hG, hat.next⟩

end Accepts

namespace Shortest

variable {G : Format β α} {P : α → Prop} {encode : α → List β} {code : List β} {a : α}

theorem exactly_valid {valid : α → Prop} (encode : α → List β) :
    Shortest (fun code a ↦ code = encode a ∧ valid a) valid encode where
  code h := ⟨rfl, h⟩
  valid h := h.2
  le h := Nat.le_of_eq (congrArg List.length h.1.symm)
  unique h _ := h.1

theorem length_listOf (h : Shortest G P encode) {codes : List β} {as : List α}
    (hG : G.listOf codes as) : (as.flatMap encode).length ≤ codes.length := by
  induction hG with
  | nil => exact Nat.le_refl _
  | cons hG _ ih =>
    have := h.le hG
    rw [List.flatMap_cons, List.length_append, List.length_append]
    omega

theorem listOf (h : Shortest G P encode) :
    Shortest G.listOf (fun as ↦ ∀ a ∈ as, P a) (List.flatMap encode) where
  code {as} hP := by
    induction as with
    | nil => exact .nil
    | cons a as ih =>
      rw [List.flatMap_cons]
      exact .cons (h.code (hP a List.mem_cons_self)) (ih fun b hb ↦ hP b (List.mem_cons_of_mem _ hb))
  valid hG := by
    induction hG with
    | nil =>
      intro a ha
      cases ha
    | cons hG _ ih => exact List.forall_mem_cons.mpr ⟨h.valid hG, ih⟩
  le hG := h.length_listOf hG
  unique hG hlen := by
    induction hG with
    | nil => rfl
    | cons hG hGs ih =>
      -- neither part is shorter than what `encode` writes, so neither is longer
      have h₁ := h.le hG
      have h₂ := h.length_listOf hGs
      rw [List.flatMap_cons, List.length_append, List.length_append] at hlen
      rw [List.flatMap_cons, ← h.unique hG (by omega), ← ih (by omega)]

end Shortest

end MqttProtocolCore.General
