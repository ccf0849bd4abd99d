import Mathlib.Data.List.Nodup
import Mathlib.Data.List.Perm.Subperm

namespace MqttProtocolCore.General

universe u v

/-- A map that iterates in the order in which its keys were first inserted. -/
structure IndexMap (κ : Type u) (ν : Type v) where
  entries : List (κ × ν)
  nodup : (entries.map Prod.fst).Nodup
deriving DecidableEq

namespace IndexMap

variable {κ : Type u} {ν : Type v}

def empty : IndexMap κ ν := ⟨[], List.nodup_nil⟩

instance : EmptyCollection (IndexMap κ ν) := ⟨empty⟩

def keys (m : IndexMap κ ν) : List κ := m.entries.map Prod.fst

def values (m : IndexMap κ ν) : List ν := m.entries.map Prod.snd

def retain (m : IndexMap κ ν) (p : κ × ν → Bool) : IndexMap κ ν where
  entries := m.entries.filter p
  nodup := m.nodup.sublist (List.filter_sublist.map Prod.fst)

variable [DecidableEq κ]

def get (m : IndexMap κ ν) (k : κ) : Option ν := (m.entries.find? (·.1 = k)).map Prod.snd

def containsKey (m : IndexMap κ ν) (k : κ) : Bool := decide (k ∈ m.keys)

def insert (m : IndexMap κ ν) (k : κ) (v : ν) : IndexMap κ ν where
  entries := if k ∈ m.keys then m.entries.map (fun e ↦ if e.1 = k then (k, v) else e)
    else m.entries ++ [(k, v)]
  nodup := by
    split
    · rw [List.map_map]
      have : (Prod.fst ∘ fun e : κ × ν ↦ if e.1 = k then (k, v) else e) = Prod.fst := by
        funext e
        by_cases h : e.1 = k <;> simp [h]
      rw [this]
      exact m.nodup
    · rename_i h
      rw [List.map_append]
      exact List.nodup_append.mpr ⟨m.nodup, List.nodup_singleton k, by simp_all [keys]; grind⟩

def shiftRemove (m : IndexMap κ ν) (k : κ) : IndexMap κ ν := m.retain (fun e ↦ decide (e.1 ≠ k))

omit [DecidableEq κ] in
theorem mem_entries_unique {m : IndexMap κ ν} {k : κ} {v w : ν} (hv : (k, v) ∈ m.entries)
    (hw : (k, w) ∈ m.entries) : v = w := by
  have h := List.inj_on_of_nodup_map m.nodup hv hw rfl
  exact (Prod.mk.injEq .. ▸ h).2

theorem get_eq_some {m : IndexMap κ ν} {k : κ} {v : ν} :
    m.get k = some v ↔ (k, v) ∈ m.entries := by
  simp only [get, Option.map_eq_some_iff]
  constructor
  · rintro ⟨e, he, rfl⟩
    have hk := List.find?_some he
    simp only [decide_eq_true_eq] at hk
    exact hk ▸ List.mem_of_find?_eq_some he
  · intro h
    cases hf : m.entries.find? (·.1 = k) with
    | none => simpa using List.find?_eq_none.mp hf (k, v) h
    | some e =>
      have hk := List.find?_some hf
      simp only [decide_eq_true_eq] at hk
      refine ⟨e, rfl, mem_entries_unique (k := k) ?_ h⟩
      exact hk ▸ List.mem_of_find?_eq_some hf

theorem get_eq_none {m : IndexMap κ ν} {k : κ} : m.get k = none ↔ k ∉ m.keys := by
  simp only [get, Option.map_eq_none_iff, List.find?_eq_none, keys, List.mem_map]
  grind

omit [DecidableEq κ] in
theorem mem_keys {m : IndexMap κ ν} {k : κ} : k ∈ m.keys ↔ ∃ v, (k, v) ∈ m.entries := by
  simp [keys]

omit [DecidableEq κ] in
@[simp] theorem entries_empty : (∅ : IndexMap κ ν).entries = [] := rfl

@[simp] theorem get_empty (k : κ) : (∅ : IndexMap κ ν).get k = none := rfl

omit [DecidableEq κ] in
theorem mem_entries_retain {m : IndexMap κ ν} {p : κ × ν → Bool} {e : κ × ν} :
    e ∈ (m.retain p).entries ↔ e ∈ m.entries ∧ p e := List.mem_filter

theorem mem_entries_insert {m : IndexMap κ ν} {k : κ} {v : ν} {e : κ × ν} :
    e ∈ (m.insert k v).entries ↔ e = (k, v) ∨ e ∈ m.entries ∧ e.1 ≠ k := by
  simp only [insert]
  split
  · rename_i h
    obtain ⟨w, hw⟩ := mem_keys.mp h
    simp only [List.mem_map]
    constructor
    · rintro ⟨a, ha, rfl⟩
      by_cases hk : a.1 = k <;> simp [hk, ha]
    · rintro (rfl | ⟨he, hk⟩)
      · exact ⟨(k, w), hw, by simp⟩
      · exact ⟨e, he, by simp [hk]⟩
  · rename_i h
    simp only [keys, List.mem_map, not_exists, not_and] at h
    simp only [List.mem_append, List.mem_singleton]
    grind

theorem mem_entries_shiftRemove {m : IndexMap κ ν} {k : κ} {e : κ × ν} :
    e ∈ (m.shiftRemove k).entries ↔ e ∈ m.entries ∧ e.1 ≠ k := by
  simp [shiftRemove, mem_entries_retain]

theorem insert_of_notMem {m : IndexMap κ ν} {k : κ} {v : ν} (h : k ∉ m.keys) :
    (m.insert k v).entries = m.entries ++ [(k, v)] := by
  simp [insert, h]

theorem keys_insert_of_notMem {m : IndexMap κ ν} {k : κ} {v : ν} (h : k ∉ m.keys) :
    (m.insert k v).keys = m.keys ++ [k] := by
  simp [keys, insert_of_notMem h]

theorem keys_shiftRemove (m : IndexMap κ ν) (k : κ) :
    (m.shiftRemove k).keys = m.keys.filter (· ≠ k) := by
  unfold keys shiftRemove retain
  rw [List.filter_map]
  rfl

theorem get_retain {m : IndexMap κ ν} {p : κ × ν → Bool} {k : κ} :
    (m.retain p).get k = (m.get k).filter fun v ↦ p (k, v) := by
  refine Option.ext fun v ↦ ?_
  rw [get_eq_some, mem_entries_retain, Option.filter_eq_some_iff, get_eq_some]

@[simp] theorem get_insert_self (m : IndexMap κ ν) (k : κ) (v : ν) :
    (m.insert k v).get k = some v := get_eq_some.mpr (mem_entries_insert.mpr (.inl rfl))

theorem get_insert_of_ne {m : IndexMap κ ν} {k l : κ} {v : ν} (h : l ≠ k) :
    (m.insert k v).get l = m.get l := by
  refine Option.ext fun w ↦ ?_
  rw [get_eq_some, get_eq_some, mem_entries_insert]
  simp [h]

@[simp] theorem get_shiftRemove_self (m : IndexMap κ ν) (k : κ) :
    (m.shiftRemove k).get k = none := by
  rw [get_eq_none, mem_keys]
  simp [mem_entries_shiftRemove]

theorem get_shiftRemove_of_ne {m : IndexMap κ ν} {k l : κ} (h : l ≠ k) :
    (m.shiftRemove k).get l = m.get l := by
  refine Option.ext fun w ↦ ?_
  rw [get_eq_some, get_eq_some, mem_entries_shiftRemove]
  simp [h]

section Follows

omit [DecidableEq κ]

variable {m m' : IndexMap κ ν}

/-- What stays keeps its order, and what is new stands behind it. -/
def Follows (m m' : IndexMap κ ν) (added : List (κ × ν)) : Prop :=
  ∃ kept, kept.Sublist m.entries ∧ (∀ e ∈ added, e ∉ m.entries) ∧ m'.entries = kept ++ added

theorem nodup_entries (m : IndexMap κ ν) : m.entries.Nodup := m.nodup.of_map _

theorem Follows.of_sublist (h : m'.entries.Sublist m.entries) : Follows m m' [] :=
  ⟨m'.entries, h, by simp, (List.append_nil _).symm⟩

theorem Follows.of_append {added : List (κ × ν)} (h : m'.entries = m.entries ++ added) :
    Follows m m' added := by
  refine ⟨m.entries, .refl _, fun e he hm ↦ ?_, h⟩
  have hnd := m'.nodup_entries
  rw [h] at hnd
  exact (List.nodup_append.mp hnd).2.2 e hm e he rfl

/-- Where the entries of two maps agree, they stand in the same order. -/
theorem Follows.filter_eq {added : List (κ × ν)} (h : Follows m m' added) {p : κ × ν → Bool}
    (hp : ∀ e, p e → (e ∈ m.entries ↔ e ∈ m'.entries)) :
    m'.entries.filter p = m.entries.filter p := by
  obtain ⟨kept, hsub, hnew, heq⟩ := h
  have hadded : added.filter p = [] := by
    rw [List.filter_eq_nil_iff]
    intro e he hpe
    exact hnew e he ((hp e hpe).mpr (heq ▸ List.mem_append_right _ he))
  have hkept : kept.filter p = m.entries.filter p := by
    refine (hsub.filter p).eq_of_length_le ?_
    refine ((m.nodup_entries.filter p).subperm fun e he ↦ ?_).length_le
    obtain ⟨hm, hpe⟩ := List.mem_filter.mp he
    have hm' : e ∈ kept ++ added := heq ▸ (hp e hpe).mp hm
    refine List.mem_filter.mpr ⟨(List.mem_append.mp hm').resolve_right fun ha ↦ hnew e ha hm, hpe⟩
  rw [heq, List.filter_append, hadded, hkept, List.append_nil]

end Follows

theorem filterMap_entries {α : Type v} {m : IndexMap κ ν} {k : κ} {f : κ × ν → Option α}
    (h : ∀ e ∈ m.entries, e.1 ≠ k → f e = none) :
    m.entries.filterMap f = ((m.get k).bind fun v ↦ f (k, v)).toList := by
  obtain ⟨entries, hnodup⟩ := m
  unfold get
  dsimp only at h ⊢
  induction entries with
  | nil => rfl
  | cons e entries ih =>
    obtain ⟨hnot, hnodup⟩ := List.nodup_cons.mp hnodup
    have hrest := ih hnodup fun e' he' ↦ h e' (List.mem_cons_of_mem _ he')
    by_cases hk : e.1 = k
    · have hnone : entries.filterMap f = [] := by
        refine List.filterMap_eq_nil_iff.mpr fun e' he' ↦ h e' (List.mem_cons_of_mem _ he') ?_
        intro heq
        exact hnot (List.mem_map.mpr ⟨e', he', heq.trans hk.symm⟩)
      have hfind : (e :: entries).find? (·.1 = k) = some e := List.find?_cons_of_pos (by simp [hk])
      rw [hfind, List.filterMap_cons, hnone]
      obtain ⟨k', v⟩ := e
      obtain rfl : k' = k := hk
      cases hf : f (k', v) <;> simp [hf]
    · have hfind : (e :: entries).find? (·.1 = k) = entries.find? (·.1 = k) :=
        List.find?_cons_of_neg (by simp [hk])
      rw [hfind, List.filterMap_cons, h e List.mem_cons_self hk]
      exact hrest

end IndexMap

end MqttProtocolCore.General
