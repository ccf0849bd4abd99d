import Mathlib.Data.Fin.Basic
import Mathlib.Data.Set.Insert
import MqttProtocolCore.General.Outcome
import MqttProtocolCore.General.OrderedSet

namespace MqttProtocolCore.Common

open General

variable {m : ℕ}

/-- An interval of values of the unsigned integer type with maximum `m`. -/
structure ValueInterval (m : ℕ) where
  low : Fin (m + 1)
  high : Fin (m + 1)
deriving DecidableEq

namespace ValueInterval

def newSingle (value : Fin (m + 1)) : ValueInterval m := ⟨value, value⟩

def contains (iv : ValueInterval m) (value : Fin (m + 1)) : Prop :=
  iv.low ≤ value ∧ value ≤ iv.high

instance (iv : ValueInterval m) (value : Fin (m + 1)) : Decidable (iv.contains value) :=
  inferInstanceAs (Decidable (_ ∧ _))

/-- Disjoint intervals are ordered from left to right; overlapping ones compare equal. -/
instance : Ord (ValueInterval m) where
  compare a b := if a.high < b.low then .lt else if b.high < a.low then .gt else .eq

theorem compare_eq_lt {a b : ValueInterval m} : compare a b = .lt ↔ a.high < b.low := by
  simp only [compare]
  grind

theorem compare_eq_gt {a b : ValueInterval m} :
    compare a b = .gt ↔ ¬ a.high < b.low ∧ b.high < a.low := by
  simp only [compare]
  grind

theorem compare_eq_eq {a b : ValueInterval m} :
    compare a b = .eq ↔ ¬ a.high < b.low ∧ ¬ b.high < a.low := by
  simp only [compare]
  grind

/-- Nonempty intervals, in order, with at least one value between them. -/
def Separated (a b : ValueInterval m) : Prop :=
  a.low ≤ a.high ∧ a.high.val + 1 < b.low.val ∧ b.low ≤ b.high

theorem separated_refines : OrderedSet.Refines (Separated (m := m)) where
  trans {a b c} := by
    simp only [Separated, Fin.le_def]
    omega
  lt {a b} h := by
    simp only [Separated, Fin.le_def] at h
    exact compare_eq_lt.mpr (Fin.lt_def.mpr (by omega))
  gt {a b} h := by
    simp only [Separated, Fin.le_def] at h
    refine compare_eq_gt.mpr ⟨?_, Fin.lt_def.mpr (by omega)⟩
    rw [Fin.lt_def]
    omega

end ValueInterval

open ValueInterval

abbrev Pool (m : ℕ) := OrderedSet (ValueInterval m)

namespace Pool

/-- The pool's intervals are nonempty, sorted, not adjacent, and inside `lowest..highest`. -/
structure Wf (lowest highest : Fin (m + 1)) (pool : Pool m) : Prop where
  sorted : pool.elems.Pairwise Separated
  inside : ∀ iv ∈ pool, lowest ≤ iv.low ∧ iv.low ≤ iv.high ∧ iv.high ≤ highest

def free (pool : Pool m) : Set (Fin (m + 1)) := {v | ∃ iv ∈ pool, iv.contains v}

def allocate (pool : Pool m) : Option (Fin (m + 1) × Pool m) :=
  match pool.first with
  | none => none
  | some iv =>
    let pool := pool.remove iv
    if h : iv.low < iv.high then
      some (iv.low, pool.insert ⟨⟨iv.low + 1, by omega⟩, iv.high⟩)
    else some (iv.low, pool)

def addOne (value : Fin (m + 1)) : Outcome (Fin (m + 1)) :=
  if h : value.val < m then .ret ⟨value + 1, by omega⟩ else .panic

def deallocate (lowest highest : Fin (m + 1)) (pool : Pool m) (value : Fin (m + 1)) :
    Outcome (Pool m) :=
  if lowest ≤ value ∧ value ≤ highest then
    let right := pool.firstFrom (newSingle value)
    let left := pool.lastBefore (newSingle value)
    match left, right with
    | some l, some r => do
      let next ← addOne value
      if l.high.val + 1 = value.val ∧ next = r.low then
        return ((pool.remove l).remove r).insert ⟨l.low, r.high⟩
      else if l.high.val + 1 = value.val then
        return (pool.remove l).insert ⟨l.low, value⟩
      else if next = r.low then
        return (pool.remove r).insert ⟨value, r.high⟩
      else return pool.insert (newSingle value)
    | some l, none =>
      if l.high.val + 1 = value.val then .ret ((pool.remove l).insert ⟨l.low, value⟩)
      else .ret (pool.insert (newSingle value))
    | none, some r => do
      let next ← addOne value
      if next = r.low then return (pool.remove r).insert ⟨value, r.high⟩
      else return pool.insert (newSingle value)
    | none, none => .ret (pool.insert (newSingle value))
  else .panic

/-- Put back the part of `iv` below `value`. -/
def insertBelow (pool : Pool m) (iv : ValueInterval m) (value : Fin (m + 1)) : Pool m :=
  if iv.low < value then pool.insert ⟨iv.low, ⟨value - 1, by omega⟩⟩ else pool

def insertAbove (pool : Pool m) (iv : ValueInterval m) (value : Fin (m + 1)) : Pool m :=
  if h : value < iv.high then pool.insert ⟨⟨value + 1, by omega⟩, iv.high⟩ else pool

def useValue (pool : Pool m) (value : Fin (m + 1)) : Option (Pool m) :=
  match pool.elems.find? (fun iv ↦ iv.contains value) with
  | none => none
  | some iv =>
    let pool := pool.remove iv
    let pool := insertBelow pool iv value
    some (insertAbove pool iv value)

def isUsed (pool : Pool m) (value : Fin (m + 1)) : Bool :=
  !pool.elems.any (fun iv ↦ iv.contains value)

variable {lowest highest value u : Fin (m + 1)} {pool : Pool m} {iv : ValueInterval m}

theorem isUsed_iff : pool.isUsed value ↔ value ∉ pool.free := by
  simp [isUsed, free, OrderedSet.mem_def]

theorem compare_self (hiv : iv.low ≤ iv.high) : compare iv iv = .eq := by
  rw [compare_eq_eq]
  simp only [Fin.lt_def, Fin.le_def] at *
  omega

theorem compare_single_eq_lt : compare iv (newSingle value) = .lt ↔ iv.high < value := compare_eq_lt

theorem Wf.apart {a b : ValueInterval m} (h : Wf lowest highest pool) (ha : a ∈ pool)
    (hb : b ∈ pool) (hab : a ≠ b) : Separated a b ∨ Separated b a :=
  OrderedSet.rel_of_mem h.sorted ha hb hab

theorem mem_remove {a : ValueInterval m} (h : Wf lowest highest pool) (hiv : iv ∈ pool) :
    a ∈ OrderedSet.remove pool iv ↔ a ∈ pool ∧ a ≠ iv :=
  OrderedSet.mem_remove separated_refines h.sorted hiv (compare_self (h.inside iv hiv).2.1)

theorem Wf.remove (h : Wf lowest highest pool) (hiv : iv ∈ pool) :
    Wf lowest highest (OrderedSet.remove pool iv) where
  sorted := OrderedSet.pairwise_remove h.sorted
  inside a ha := h.inside a ((mem_remove h hiv).mp ha).1

theorem free_remove (h : Wf lowest highest pool) (hiv : iv ∈ pool) :
    u ∈ free (OrderedSet.remove pool iv) ↔ u ∈ free pool ∧ ¬ iv.contains u := by
  simp only [free, Set.mem_ofPred_eq, mem_remove h hiv]
  constructor
  · rintro ⟨a, ⟨ha, hne⟩, hau⟩
    refine ⟨⟨a, ha, hau⟩, fun hu ↦ ?_⟩
    have := h.apart ha hiv hne
    simp only [Separated, contains, Fin.le_def] at *
    omega
  · rintro ⟨⟨a, ha, hau⟩, hu⟩
    refine ⟨a, ⟨ha, ?_⟩, hau⟩
    rintro rfl
    exact hu hau

def Fits (lowest highest : Fin (m + 1)) (pool : Pool m) (iv : ValueInterval m) : Prop :=
  (lowest ≤ iv.low ∧ iv.low ≤ iv.high ∧ iv.high ≤ highest) ∧
    ∀ a ∈ pool, Separated iv a ∨ Separated a iv

theorem Fits.mem_insert {a : ValueInterval m} (hf : Fits lowest highest pool iv) :
    a ∈ OrderedSet.insert pool iv ↔ a = iv ∨ a ∈ pool := by
  refine OrderedSet.mem_insertList fun c hc he ↦ ?_
  rcases hf.2 c hc with h | h
  · rw [separated_refines.lt h] at he
    cases he
  · rw [separated_refines.gt h] at he
    cases he

theorem Wf.insert (h : Wf lowest highest pool) (hf : Fits lowest highest pool iv) :
    Wf lowest highest (OrderedSet.insert pool iv) where
  sorted := OrderedSet.pairwise_insertList separated_refines h.sorted hf.2
  inside a ha := by
    rcases hf.mem_insert.mp ha with rfl | ha
    · exact hf.1
    · exact h.inside a ha

theorem free_insert (hf : Fits lowest highest pool iv) :
    u ∈ free (OrderedSet.insert pool iv) ↔ iv.contains u ∨ u ∈ free pool := by
  simp [free, hf.mem_insert]

/-- What replacing the interval `iv` of a pool by a smaller one does. -/
theorem fits_of_subset {a : ValueInterval m} (h : Wf lowest highest pool) (hiv : iv ∈ pool)
    (ha : iv.low ≤ a.low ∧ a.low ≤ a.high ∧ a.high ≤ iv.high) :
    Fits lowest highest (OrderedSet.remove pool iv) a := by
  have hin := h.inside iv hiv
  refine ⟨by simp only [Fin.le_def] at *; omega, fun b hb ↦ ?_⟩
  obtain ⟨hb, hne⟩ := (mem_remove h hiv).mp hb
  have := h.apart hb hiv hne
  simp only [Separated, Fin.le_def] at *
  omega

theorem allocate_eq_none : pool.allocate = none ↔ pool.elems = [] := by
  simp only [allocate, OrderedSet.first]
  cases h : pool.elems <;> simp
  split <;> simp

theorem allocate_spec {pool' : Pool m} (h : Wf lowest highest pool)
    (ha : pool.allocate = some (value, pool')) :
    Wf lowest highest pool' ∧ value ∈ pool.free ∧ (∀ u ∈ pool.free, value ≤ u) ∧
      pool'.free = pool.free \ {value} := by
  obtain ⟨l⟩ := pool
  cases l with
  | nil => cases ha
  | cons iv l =>
    have hiv : iv ∈ (⟨iv :: l⟩ : Pool m) := by simp [OrderedSet.mem_def]
    have hin := h.inside iv hiv
    have hmin : ∀ u ∈ free (⟨iv :: l⟩ : Pool m), iv.low ≤ u := by
      rintro u ⟨a, ha, hau⟩
      rcases List.mem_cons.mp ha with rfl | ha
      · exact hau.1
      · have := (List.pairwise_cons.mp h.sorted).1 a ha
        simp only [Separated, contains, Fin.le_def] at *
        omega
    have hself : iv.low ∈ free (⟨iv :: l⟩ : Pool m) := ⟨iv, hiv, Fin.le_refl _, hin.2.1⟩
    simp only [allocate, OrderedSet.first, List.head?_cons] at ha
    split at ha
    · rename_i hlt
      obtain ⟨rfl, rfl⟩ := Prod.mk.injEq .. ▸ Option.some.inj ha
      have hf := fits_of_subset h hiv (a := ⟨⟨iv.low + 1, by omega⟩, iv.high⟩)
        (by simp only [Fin.le_def] at *; omega)
      refine ⟨(h.remove hiv).insert hf, hself, hmin, Set.ext fun u ↦ ?_⟩
      rw [free_insert hf, free_remove h hiv]
      simp only [Set.mem_sdiff, Set.mem_singleton_iff, contains, Fin.le_def, Fin.ext_iff] at *
      constructor
      · rintro (hu | hu)
        · exact ⟨⟨iv, hiv, Fin.le_def.mpr (by omega), Fin.le_def.mpr hu.2⟩, by omega⟩
        · exact ⟨hu.1, by omega⟩
      · rintro ⟨hu, hne⟩
        have := hmin u hu
        simp only [hu, true_and]
        omega
    · rename_i hlt
      obtain ⟨rfl, rfl⟩ := Prod.mk.injEq .. ▸ Option.some.inj ha
      refine ⟨h.remove hiv, hself, hmin, Set.ext fun u ↦ ?_⟩
      rw [free_remove h hiv]
      simp only [Set.mem_sdiff, Set.mem_singleton_iff, contains, Fin.le_def, Fin.lt_def,
        Fin.ext_iff] at *
      refine and_congr_right fun hu ↦ ?_
      omega

theorem useValue_eq_none : pool.useValue value = none ↔ value ∉ pool.free := by
  simp only [useValue, free, Set.mem_ofPred_eq, OrderedSet.mem_def]
  cases h : pool.elems.find? (fun iv ↦ iv.contains value) with
  | none => simpa using List.find?_eq_none.mp h
  | some iv =>
    have hiv := List.mem_of_find?_eq_some h
    have hc := List.find?_some h
    simp only [decide_eq_true_eq] at hc
    simp only [reduceCtorEq, not_exists, not_and, false_iff, not_forall, not_not]
    exact ⟨iv, hiv, hc⟩

theorem insertBelow_spec (h : Wf lowest highest pool) (hiv : iv ∈ pool)
    (hc : iv.contains value) :
    let pool' := insertBelow (OrderedSet.remove pool iv) iv value
    Wf lowest highest pool' ∧ (∀ a ∈ pool', a.high < value ∨ Separated a iv ∨ Separated iv a) ∧
      ∀ u, u ∈ free pool' ↔ u ∈ free pool ∧ ¬ (value ≤ u ∧ u ≤ iv.high) := by
  have hin := h.inside iv hiv
  have hrest : ∀ a ∈ OrderedSet.remove pool iv, Separated a iv ∨ Separated iv a := fun a ha ↦
    have ha := (mem_remove h hiv).mp ha
    h.apart ha.1 hiv ha.2
  simp only [insertBelow, contains] at hc ⊢
  split
  · rename_i hlt
    have hf := fits_of_subset h hiv (a := ⟨iv.low, ⟨value - 1, by omega⟩⟩)
      (by simp only [Fin.le_def] at *; omega)
    refine ⟨(h.remove hiv).insert hf, fun a ha ↦ ?_, fun u ↦ ?_⟩
    · rcases hf.mem_insert.mp ha with rfl | ha
      · exact .inl (by simp only [Fin.lt_def] at *; omega)
      · exact .inr (hrest a ha)
    · rw [free_insert hf, free_remove h hiv]
      constructor
      · rintro (hu | hu)
        · refine ⟨⟨iv, hiv, ?_⟩, ?_⟩
          all_goals simp only [contains, Fin.le_def] at *; omega
        · simp only [contains, Fin.le_def] at *
          exact ⟨hu.1, by omega⟩
      · rintro ⟨hu, hne⟩
        simp only [hu, contains, Fin.le_def, true_and] at *
        omega
  · rename_i hlt
    refine ⟨h.remove hiv, fun a ha ↦ .inr (hrest a ha), fun u ↦ ?_⟩
    rw [free_remove h hiv]
    refine and_congr_right fun _ ↦ not_congr ?_
    simp only [contains, Fin.le_def, Fin.lt_def] at *
    omega

theorem insertAbove_spec (h : Wf lowest highest pool) (hc : iv.contains value)
    (hin : lowest ≤ iv.low ∧ iv.high ≤ highest)
    (hrest : ∀ a ∈ pool, a.high < value ∨ Separated a iv ∨ Separated iv a) :
    Wf lowest highest (insertAbove pool iv value) ∧
      ∀ u, u ∈ free (insertAbove pool iv value) ↔ u ∈ free pool ∨ value < u ∧ u ≤ iv.high := by
  simp only [insertAbove, contains] at hc ⊢
  split
  · rename_i hlt
    have hf : Fits lowest highest pool ⟨⟨value + 1, by omega⟩, iv.high⟩ := by
      refine ⟨by simp only [Fin.le_def, Fin.lt_def] at *; omega, fun a ha ↦ ?_⟩
      have := h.inside a ha
      rcases hrest a ha with h | h | h
      all_goals simp only [Separated, Fin.le_def, Fin.lt_def] at *; omega
    refine ⟨h.insert hf, fun u ↦ ?_⟩
    rw [free_insert hf, or_comm]
    simp only [contains, Fin.le_def, Fin.lt_def]
    rfl
  · rename_i hlt
    refine ⟨h, fun u ↦ ?_⟩
    simp only [Fin.le_def, Fin.lt_def] at *
    exact ⟨.inl, fun h ↦ h.elim id (fun _ ↦ by omega)⟩

theorem useValue_spec {pool' : Pool m} (h : Wf lowest highest pool)
    (hu : pool.useValue value = some pool') :
    Wf lowest highest pool' ∧ pool'.free = pool.free \ {value} := by
  unfold useValue at hu
  cases hfind : pool.elems.find? (fun iv ↦ iv.contains value) with
  | none => rw [hfind] at hu; cases hu
  | some iv =>
    have hiv : iv ∈ pool := List.mem_of_find?_eq_some hfind
    have hc : iv.contains value := by simpa using List.find?_some hfind
    have hin := h.inside iv hiv
    rw [hfind] at hu
    obtain rfl := Option.some.inj hu
    obtain ⟨hwf, hrest, hfree⟩ := insertBelow_spec h hiv hc
    obtain ⟨hwf', hfree'⟩ := insertAbove_spec hwf hc ⟨hin.1, hin.2.2⟩ hrest
    refine ⟨hwf', Set.ext fun u ↦ ?_⟩
    rw [hfree', hfree, Set.mem_sdiff, Set.mem_singleton_iff]
    constructor
    · rintro (⟨hu, hne⟩ | hu)
      · refine ⟨hu, ?_⟩
        rintro rfl
        exact hne ⟨Fin.le_refl _, hc.2⟩
      · refine ⟨⟨iv, hiv, ?_⟩, ?_⟩
        all_goals simp only [contains, Fin.le_def, Fin.lt_def, Fin.ext_iff] at *; omega
    · rintro ⟨hu, hne⟩
      simp only [hu, Fin.le_def, Fin.lt_def, Fin.ext_iff, true_and] at *
      omega

/-- What the intervals around `value` are when a value is given back. -/
structure Around (pool : Pool m) (value : Fin (m + 1)) (left right : Option (ValueInterval m)) :
    Prop where
  left_mem : ∀ l ∈ left, l ∈ pool ∧ l.high < value
  right_mem : ∀ r ∈ right, r ∈ pool ∧ value ≤ r.high
  below : ∀ c ∈ pool, c.high < value → ∃ l ∈ left, c = l ∨ Separated c l
  above : ∀ c ∈ pool, value ≤ c.high → ∃ r ∈ right, c = r ∨ Separated r c

theorem around (h : Wf lowest highest pool) (value : Fin (m + 1)) :
    Around pool value (pool.lastBefore (newSingle value)) (pool.firstFrom (newSingle value)) where
  left_mem l hl :=
    have hl := OrderedSet.lastBefore_eq_some h.sorted hl
    ⟨hl.1, compare_single_eq_lt.mp hl.2.1⟩
  right_mem r hr :=
    have hr := OrderedSet.firstFrom_eq_some h.sorted hr
    ⟨hr.1, by simpa only [ne_eq, compare_single_eq_lt, Fin.not_lt] using hr.2.1⟩
  below c hc hlt := by
    cases hl : pool.lastBefore (newSingle value) with
    | none => exact absurd (compare_single_eq_lt.mpr hlt) (OrderedSet.lastBefore_eq_none hl c hc)
    | some l =>
      have hl := OrderedSet.lastBefore_eq_some h.sorted hl
      exact ⟨l, rfl, hl.2.2 c hc (compare_single_eq_lt.mpr hlt)⟩
  above c hc hle := by
    cases hr : pool.firstFrom (newSingle value) with
    | none =>
      have := compare_single_eq_lt.mp (OrderedSet.firstFrom_eq_none hr c hc)
      rw [Fin.lt_def] at this
      rw [Fin.le_def] at hle
      omega
    | some r =>
      refine ⟨r, rfl, ((OrderedSet.firstFrom_eq_some h.sorted hr).2.2 c hc).resolve_left ?_⟩
      rw [compare_single_eq_lt, Fin.not_lt]
      exact hle

theorem insert_single_of_free (h : Wf lowest highest pool) (hiv : iv ∈ pool)
    (hc : iv.contains value) : OrderedSet.insert pool (newSingle value) = pool := by
  have heq : compare (newSingle value) iv = .eq := by
    simp only [contains, Fin.le_def] at hc
    rw [compare_eq_eq]
    simp only [newSingle, Fin.lt_def]
    omega
  refine congrArg OrderedSet.mk (OrderedSet.insertList_of_eq separated_refines h.sorted hiv heq ?_)
  intro d hd hlt
  have hlt := compare_eq_lt.mp hlt
  have hne : d ≠ iv := by
    rintro rfl
    simp only [newSingle, contains, Fin.le_def, Fin.lt_def] at *
    omega
  have := h.apart hd hiv hne
  rw [compare_eq_gt]
  simp only [Separated, newSingle, contains, Fin.le_def, Fin.lt_def] at *
  omega

section Deallocate

variable {l r : ValueInterval m} {left right : Option (ValueInterval m)}

theorem dealloc_both (h : Wf lowest highest pool) (ha : Around pool value (some l) (some r))
    (hl : l.high.val + 1 = value.val) (hr : value.val + 1 = r.low.val) :
    let pool' := OrderedSet.insert (OrderedSet.remove (OrderedSet.remove pool l) r) ⟨l.low, r.high⟩
    Wf lowest highest pool' ∧ free pool' = insert value (free pool) := by
  obtain ⟨hlm, hlv⟩ := ha.left_mem l rfl
  obtain ⟨hrm, hvr⟩ := ha.right_mem r rfl
  have hll := h.inside l hlm
  have hrr := h.inside r hrm
  have hne : r ≠ l := by
    rintro rfl
    simp only [Fin.le_def, Fin.lt_def] at *
    omega
  have hrm' : r ∈ OrderedSet.remove pool l := (mem_remove h hlm).mpr ⟨hrm, hne⟩
  have hwf := (h.remove hlm).remove hrm'
  have hf : Fits lowest highest (OrderedSet.remove (OrderedSet.remove pool l) r)
      ⟨l.low, r.high⟩ := by
    refine ⟨by simp only [Fin.le_def] at *; omega, fun c hc ↦ ?_⟩
    obtain ⟨hc, hcr⟩ := (mem_remove (h.remove hlm) hrm').mp hc
    obtain ⟨hc, hcl⟩ := (mem_remove h hlm).mp hc
    have hcl := h.apart hc hlm hcl
    have hcr := h.apart hc hrm hcr
    simp only [Separated, Fin.le_def, Fin.lt_def] at *
    omega
  refine ⟨hwf.insert hf, Set.ext fun u ↦ ?_⟩
  rw [free_insert hf, free_remove (h.remove hlm) hrm', free_remove h hlm, Set.mem_insert_iff]
  have hlu : l.contains u → u ∈ free pool := fun hu ↦ ⟨l, hlm, hu⟩
  have hru : r.contains u → u ∈ free pool := fun hu ↦ ⟨r, hrm, hu⟩
  simp only [contains, Fin.le_def, Fin.lt_def, Fin.ext_iff] at *
  grind

theorem dealloc_left (h : Wf lowest highest pool) (ha : Around pool value (some l) right)
    (hv : value ≤ highest) (hl : l.high.val + 1 = value.val)
    (hr : ∀ r ∈ right, value.val + 1 ≠ r.low.val) :
    let pool' := OrderedSet.insert (OrderedSet.remove pool l) ⟨l.low, value⟩
    Wf lowest highest pool' ∧ free pool' = insert value (free pool) := by
  obtain ⟨hlm, hlv⟩ := ha.left_mem l rfl
  have hll := h.inside l hlm
  have hf : Fits lowest highest (OrderedSet.remove pool l) ⟨l.low, value⟩ := by
    refine ⟨by simp only [Fin.le_def] at *; omega, fun c hc ↦ ?_⟩
    obtain ⟨hc, hne⟩ := (mem_remove h hlm).mp hc
    have hcl := h.apart hc hlm hne
    have habove : value ≤ c.high → value.val + 1 < c.low.val := by
      intro hvc
      obtain ⟨r, hr', hcr⟩ := ha.above c hc hvc
      have hrl := h.apart (ha.right_mem r hr').1 hlm (by
        rintro rfl
        have := (ha.right_mem r hr').2
        simp only [Fin.le_def, Fin.lt_def] at *
        omega)
      have := hr r hr'
      have := (ha.right_mem r hr').2
      have := h.inside c hc
      rcases hcr with rfl | hcr
      all_goals simp only [Separated, Fin.le_def, Fin.lt_def] at *; omega
    simp only [Separated, Fin.le_def, Fin.lt_def] at *
    omega
  refine ⟨(h.remove hlm).insert hf, Set.ext fun u ↦ ?_⟩
  rw [free_insert hf, free_remove h hlm, Set.mem_insert_iff]
  have hlu : l.contains u → u ∈ free pool := fun hu ↦ ⟨l, hlm, hu⟩
  simp only [contains, Fin.le_def, Fin.lt_def, Fin.ext_iff] at *
  grind

theorem dealloc_right (h : Wf lowest highest pool) (ha : Around pool value left (some r))
    (hv : lowest ≤ value) (hl : ∀ l ∈ left, l.high.val + 1 ≠ value.val)
    (hr : value.val + 1 = r.low.val) :
    let pool' := OrderedSet.insert (OrderedSet.remove pool r) ⟨value, r.high⟩
    Wf lowest highest pool' ∧ free pool' = insert value (free pool) := by
  obtain ⟨hrm, hvr⟩ := ha.right_mem r rfl
  have hrr := h.inside r hrm
  have hf : Fits lowest highest (OrderedSet.remove pool r) ⟨value, r.high⟩ := by
    refine ⟨by simp only [Fin.le_def] at *; omega, fun c hc ↦ ?_⟩
    obtain ⟨hc, hne⟩ := (mem_remove h hrm).mp hc
    have hcr := h.apart hc hrm hne
    have hcc := h.inside c hc
    have hbelow : c.high < value → c.high.val + 1 < value.val := by
      intro hcv
      obtain ⟨l, hl', hcl⟩ := ha.below c hc hcv
      have := hl l hl'
      have := (ha.left_mem l hl').2
      rcases hcl with rfl | hcl
      all_goals simp only [Separated, Fin.le_def, Fin.lt_def] at *; omega
    simp only [Separated, Fin.le_def, Fin.lt_def] at *
    omega
  refine ⟨(h.remove hrm).insert hf, Set.ext fun u ↦ ?_⟩
  rw [free_insert hf, free_remove h hrm, Set.mem_insert_iff]
  have hru : r.contains u → u ∈ free pool := fun hu ↦ ⟨r, hrm, hu⟩
  simp only [contains, Fin.le_def, Fin.ext_iff] at *
  grind

/-- The value is not next to an interval of the pool, or it is inside one. -/
theorem dealloc_single (h : Wf lowest highest pool) (ha : Around pool value left right)
    (hv : lowest ≤ value ∧ value ≤ highest) (hl : ∀ l ∈ left, l.high.val + 1 ≠ value.val)
    (hr : ∀ r ∈ right, value.val + 1 ≠ r.low.val) :
    let pool' := OrderedSet.insert pool (newSingle value)
    Wf lowest highest pool' ∧ free pool' = insert value (free pool) := by
  by_cases hfree : value ∈ free pool
  · obtain ⟨iv, hiv, hc⟩ := hfree
    have hmem : value ∈ free pool := ⟨iv, hiv, hc⟩
    rw [insert_single_of_free h hiv hc]
    exact ⟨h, (Set.insert_eq_of_mem hmem).symm⟩
  · have hf : Fits lowest highest pool (newSingle value) := by
      refine ⟨⟨hv.1, Fin.le_refl _, hv.2⟩, fun c hc ↦ ?_⟩
      have hcc := h.inside c hc
      have hout : ¬ c.contains value := fun hcv ↦ hfree ⟨c, hc, hcv⟩
      have hbelow : c.high < value → c.high.val + 1 < value.val := by
        intro hcv
        obtain ⟨l, hl', hcl⟩ := ha.below c hc hcv
        have := hl l hl'
        have := (ha.left_mem l hl').2
        rcases hcl with rfl | hcl
        all_goals simp only [Separated, Fin.le_def, Fin.lt_def] at *; omega
      have habove : value ≤ c.high → value.val + 1 < c.low.val := by
        intro hvc
        obtain ⟨r, hr', hcr⟩ := ha.above c hc hvc
        have := hr r hr'
        have := (ha.right_mem r hr').2
        have hout' : ¬ r.contains value := fun hcv ↦ hfree ⟨r, (ha.right_mem r hr').1, hcv⟩
        rcases hcr with rfl | hcr
        all_goals simp only [Separated, contains, Fin.le_def, Fin.lt_def] at *; omega
      simp only [Separated, contains, newSingle, Fin.le_def, Fin.lt_def] at *
      omega
    refine ⟨h.insert hf, Set.ext fun u ↦ ?_⟩
    rw [free_insert hf, Set.mem_insert_iff]
    refine or_congr_left ?_
    simp only [newSingle, contains, Fin.le_def, Fin.ext_iff]
    omega

end Deallocate

theorem free_of_right {r : ValueInterval m} {left : Option (ValueInterval m)}
    (h : Wf lowest highest pool) (ha : Around pool value left (some r)) (hm : ¬ value.val < m) :
    value ∈ free pool := by
  obtain ⟨hrm, hvr⟩ := ha.right_mem r rfl
  have hin := h.inside r hrm
  refine ⟨r, hrm, ?_, hvr⟩
  rw [Fin.le_def]
  omega

/-- A value is given back unless it is out of range, or is the maximum of its type and already
free: then `value + 1` overflows. -/
theorem deallocate_spec (h : Wf lowest highest pool) :
    (deallocate lowest highest pool value).Spec
      (fun pool' ↦ (lowest ≤ value ∧ value ≤ highest) ∧ ¬ (value ∈ free pool ∧ value.val = m) ∧
        Wf lowest highest pool' ∧ free pool' = insert value (free pool))
      (¬ (lowest ≤ value ∧ value ≤ highest) ∨ value ∈ free pool ∧ value.val = m) := by
  by_cases hv : lowest ≤ value ∧ value ≤ highest
  swap
  · rw [deallocate, if_neg hv]
    exact .inl hv
  have ha := around h value
  rw [deallocate, if_pos hv]
  cases hleft : pool.lastBefore (newSingle value) with
  | none =>
    cases hright : pool.firstFrom (newSingle value) with
    | none =>
      rw [hleft, hright] at ha
      refine ⟨hv, ?_, dealloc_single h ha hv (by simp) (by simp)⟩
      rintro ⟨⟨iv, hiv, hc⟩, -⟩
      obtain ⟨r, hr, -⟩ := ha.above iv hiv hc.2
      cases hr
    | some r =>
      rw [hleft, hright] at ha
      by_cases hm : value.val < m
      · simp only [addOne, hm, dite_true, Outcome.ret_bind, Fin.ext_iff]
        split
        · exact ⟨hv, by omega, dealloc_right h ha hv.1 (by simp) ‹_›⟩
        · exact ⟨hv, by omega, dealloc_single h ha hv (by simp) (by simpa using ‹_›)⟩
      · simp only [addOne, hm, dite_false, Outcome.panic_bind]
        exact .inr ⟨free_of_right h ha hm, by omega⟩
  | some l =>
    cases hright : pool.firstFrom (newSingle value) with
    | none =>
      rw [hleft, hright] at ha
      have hfree : value ∉ free pool := by
        rintro ⟨iv, hiv, hc⟩
        obtain ⟨r, hr, -⟩ := ha.above iv hiv hc.2
        cases hr
      dsimp only
      split
      · exact ⟨hv, fun h ↦ hfree h.1, dealloc_left h ha hv.2 ‹_› (by simp)⟩
      · exact ⟨hv, fun h ↦ hfree h.1, dealloc_single h ha hv (by simpa using ‹_›) (by simp)⟩
    | some r =>
      rw [hleft, hright] at ha
      by_cases hm : value.val < m
      · simp only [addOne, hm, dite_true, Outcome.ret_bind, Fin.ext_iff]
        split
        · exact ⟨hv, by omega, dealloc_both h ha ‹_ ∧ _›.1 ‹_ ∧ _›.2⟩
        split
        · exact ⟨hv, by omega, dealloc_left h ha hv.2 ‹_› (by simp; tauto)⟩
        split
        · exact ⟨hv, by omega, dealloc_right h ha hv.1 (by simpa using ‹_›) ‹_›⟩
        · exact ⟨hv, by omega, dealloc_single h ha hv (by simpa using ‹_›) (by simpa using ‹_›)⟩
      · simp only [addOne, hm, dite_false, Outcome.panic_bind]
        exact .inr ⟨free_of_right h ha hm, by omega⟩

end Pool

/-- The pool of the values in `lowest..highest` that are not in use. -/
structure ValueAllocator (m : ℕ) where
  pool : Pool m
  lowest : Fin (m + 1)
  highest : Fin (m + 1)
  ordered : lowest ≤ highest
  wf : pool.Wf lowest highest
deriving DecidableEq

namespace ValueAllocator

def full (lowest highest : Fin (m + 1)) : Pool m := .singleton ⟨lowest, highest⟩

theorem wf_full {lowest highest : Fin (m + 1)} (h : lowest ≤ highest) :
    (full lowest highest).Wf lowest highest where
  sorted := List.pairwise_singleton ..
  inside iv hiv := by
    obtain rfl := List.mem_singleton.mp hiv
    exact ⟨Fin.le_refl _, h, Fin.le_refl _⟩

/-- The constructor asserts that the range is not empty. -/
def new (lowest highest : Fin (m + 1)) : Outcome (ValueAllocator m) :=
  if h : lowest ≤ highest then .ret ⟨full lowest highest, lowest, highest, h, wf_full h⟩ else .panic

section

variable (a : ValueAllocator m) (value : Fin (m + 1))

def allocate : Option (Fin (m + 1) × ValueAllocator m) :=
  match h : a.pool.allocate with
  | none => none
  | some (value, pool) =>
    some (value, { a with pool := pool, wf := (Pool.allocate_spec a.wf h).1 })

def firstVacant : Option (Fin (m + 1)) := a.pool.first.map ValueInterval.low

def deallocate : Outcome (ValueAllocator m) :=
  match h : a.pool.deallocate a.lowest a.highest value with
  | .ret pool => .ret { a with
      pool := pool
      wf := ((h ▸ Pool.deallocate_spec a.wf : (Outcome.ret pool).Spec ..)).2.2.1 }
  | .panic => .panic

def useValue : Option (ValueAllocator m) :=
  match h : a.pool.useValue value with
  | none => none
  | some pool => some { a with pool := pool, wf := (Pool.useValue_spec a.wf h).1 }

def isUsed : Bool := a.pool.isUsed value

def clear : ValueAllocator m :=
  { a with pool := full a.lowest a.highest, wf := wf_full a.ordered }

end

variable {a : ValueAllocator m} {value u : Fin (m + 1)}

theorem isUsed_iff : a.isUsed value ↔ value ∉ a.pool.free := Pool.isUsed_iff

theorem free_inside (h : value ∈ a.pool.free) : a.lowest ≤ value ∧ value ≤ a.highest := by
  obtain ⟨iv, hiv, hc⟩ := h
  have := a.wf.inside iv hiv
  simp only [contains, Fin.le_def] at *
  omega

theorem inside_of_not_used (h : ¬ a.isUsed value) : a.lowest ≤ value ∧ value ≤ a.highest := by
  rw [isUsed_iff, not_not] at h
  exact free_inside h

theorem allocate_spec {a' : ValueAllocator m} (h : a.allocate = some (value, a')) :
    ¬ a.isUsed value ∧ (a'.lowest = a.lowest ∧ a'.highest = a.highest) ∧
      ∀ u, a'.isUsed u ↔ a.isUsed u ∨ u = value := by
  unfold allocate at h
  split at h
  · cases h
  · rename_i v pool hp
    obtain ⟨rfl, rfl⟩ := Prod.mk.injEq .. ▸ Option.some.inj h
    obtain ⟨-, hfree, -, hset⟩ := Pool.allocate_spec a.wf hp
    refine ⟨by rwa [isUsed_iff, not_not], ⟨rfl, rfl⟩, fun u ↦ ?_⟩
    simp only [isUsed_iff, hset, Set.mem_sdiff, Set.mem_singleton_iff]
    tauto

theorem useValue_eq_none : a.useValue value = none ↔ a.isUsed value := by
  rw [isUsed_iff, ← Pool.useValue_eq_none]
  unfold useValue
  split <;> simp_all

theorem useValue_spec {a' : ValueAllocator m} (h : a.useValue value = some a') :
    ¬ a.isUsed value ∧ (a'.lowest = a.lowest ∧ a'.highest = a.highest) ∧
      ∀ u, a'.isUsed u ↔ a.isUsed u ∨ u = value := by
  have hused : ¬ a.isUsed value := by
    rw [← useValue_eq_none, h]
    simp
  unfold useValue at h
  split at h
  · cases h
  · rename_i pool hp
    obtain rfl := Option.some.inj h
    obtain ⟨-, hset⟩ := Pool.useValue_spec a.wf hp
    refine ⟨hused, ⟨rfl, rfl⟩, fun u ↦ ?_⟩
    simp only [isUsed_iff, hset, Set.mem_sdiff, Set.mem_singleton_iff]
    tauto

theorem deallocate_spec : (a.deallocate value).Spec
    (fun a' ↦ ((a.lowest ≤ value ∧ value ≤ a.highest) ∧ (a.isUsed value ∨ value.val ≠ m)) ∧
      (a'.lowest = a.lowest ∧ a'.highest = a.highest) ∧
      ∀ u, a'.isUsed u ↔ a.isUsed u ∧ u ≠ value)
    (¬ (a.lowest ≤ value ∧ value ≤ a.highest) ∨ ¬ a.isUsed value ∧ value.val = m) := by
  have h := @Pool.deallocate_spec _ _ _ value _ a.wf
  unfold deallocate
  split
  · rename_i pool hp
    simp only [hp, Outcome.spec_ret] at h
    obtain ⟨hin, hmax, -, hset⟩ := h
    refine ⟨⟨hin, ?_⟩, ⟨rfl, rfl⟩, fun u ↦ ?_⟩
    · rw [isUsed_iff]
      tauto
    · simp only [isUsed_iff, hset, Set.mem_insert_iff]
      tauto
  · rename_i hp
    simp only [hp, Outcome.spec_panic] at h
    rw [Outcome.spec_panic, isUsed_iff, not_not]
    exact h

theorem isUsed_clear : a.clear.isUsed u ↔ ¬ (a.lowest ≤ u ∧ u ≤ a.highest) := by
  rw [isUsed_iff]
  simp [clear, full, Pool.free, OrderedSet.mem_def, OrderedSet.singleton, contains]

theorem new_spec {lowest highest : Fin (m + 1)} : (new lowest highest).Spec
    (fun a ↦ lowest ≤ highest ∧ (a.lowest = lowest ∧ a.highest = highest) ∧
      ∀ u, a.isUsed u ↔ ¬ (lowest ≤ u ∧ u ≤ highest))
    (¬ lowest ≤ highest) := by
  unfold new
  split
  · rename_i h
    refine ⟨h, ⟨rfl, rfl⟩, fun u ↦ ?_⟩
    rw [isUsed_iff]
    simp [full, Pool.free, OrderedSet.mem_def, OrderedSet.singleton, contains]
  · assumption

theorem firstVacant_spec (h : a.firstVacant = some value) : ¬ a.isUsed value := by
  simp only [firstVacant, OrderedSet.first, Option.map_eq_some_iff] at h
  obtain ⟨iv, hiv, rfl⟩ := h
  have hiv : iv ∈ a.pool := List.mem_of_mem_head? hiv
  rw [isUsed_iff, not_not]
  exact ⟨iv, hiv, Fin.le_refl _, (a.wf.inside iv hiv).2.1⟩

end ValueAllocator

end MqttProtocolCore.Common
