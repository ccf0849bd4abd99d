import Mathlib.Data.List.Pairwise

namespace MqttProtocolCore.General

universe u

/-- A set kept as a list in the order of `compare`; elements that compare equal are identified, so
the operations find an element by its comparison only. -/
structure OrderedSet (α : Type u) where
  elems : List α
deriving DecidableEq

namespace OrderedSet

variable {α : Type u}

instance : Membership α (OrderedSet α) := ⟨fun s a ↦ a ∈ s.elems⟩

theorem mem_def {s : OrderedSet α} {a : α} : a ∈ s ↔ a ∈ s.elems := Iff.rfl

def singleton (a : α) : OrderedSet α := ⟨[a]⟩

variable [Ord α]

def insertList (a : α) : List α → List α
  | [] => [a]
  | b :: l =>
    match compare a b with
    | .lt => a :: b :: l
    | .eq => b :: l
    | .gt => b :: insertList a l

def insert (s : OrderedSet α) (a : α) : OrderedSet α := ⟨insertList a s.elems⟩

def remove (s : OrderedSet α) (a : α) : OrderedSet α := ⟨s.elems.eraseP (fun b ↦ compare b a == .eq)⟩

def first (s : OrderedSet α) : Option α := s.elems.head?

def firstFrom (s : OrderedSet α) (a : α) : Option α := s.elems.find? (fun b ↦ compare b a != .lt)

def lastBefore (s : OrderedSet α) (a : α) : Option α :=
  (s.elems.filter (fun b ↦ compare b a == .lt)).getLast?

/-- A strict order whose elements compare accordingly, such as disjoint intervals from left to
right. -/
structure Refines (r : α → α → Prop) : Prop where
  trans : ∀ {a b c}, r a b → r b c → r a c
  lt : ∀ {a b}, r a b → compare a b = .lt
  gt : ∀ {a b}, r a b → compare b a = .gt

variable {r : α → α → Prop}

theorem mem_insertList {a b : α} {l : List α} (h : ∀ c ∈ l, compare a c ≠ .eq) :
    b ∈ insertList a l ↔ b = a ∨ b ∈ l := by
  induction l with
  | nil => simp [insertList]
  | cons c l ih =>
    have hl := ih (fun d hd ↦ h d (List.mem_cons_of_mem _ hd))
    unfold insertList
    cases hc : compare a c with
    | lt => simp
    | eq => exact absurd hc (h c (by simp))
    | gt => grind

theorem insertList_of_eq {a c : α} {l : List α} (hr : Refines r) (hl : l.Pairwise r) (hc : c ∈ l)
    (h : compare a c = .eq) (hlt : ∀ d ∈ l, compare a d = .lt → compare d c = .gt) :
    insertList a l = l := by
  induction l with
  | nil => cases hc
  | cons d l ih =>
    obtain ⟨hd, hl⟩ := List.pairwise_cons.mp hl
    unfold insertList
    cases hda : compare a d with
    | lt =>
      have hgt := hlt d (by simp) hda
      rcases List.mem_cons.mp hc with rfl | hc
      · rw [h] at hda; cases hda
      · have := hr.lt (hd c hc)
        rw [this] at hgt
        cases hgt
    | eq => rfl
    | gt =>
      rcases List.mem_cons.mp hc with rfl | hc
      · rw [h] at hda; cases hda
      · simp only [List.cons.injEq, true_and]
        exact ih hl hc (fun e he ↦ hlt e (List.mem_cons_of_mem _ he))

theorem pairwise_insertList {a : α} {l : List α} (hr : Refines r) (hl : l.Pairwise r)
    (h : ∀ b ∈ l, r a b ∨ r b a) : (insertList a l).Pairwise r := by
  induction l with
  | nil => simp [insertList]
  | cons b l ih =>
    obtain ⟨hb, hl⟩ := List.pairwise_cons.mp hl
    have hrest : ∀ c ∈ l, r a c ∨ r c a := fun c hc ↦ h c (List.mem_cons_of_mem _ hc)
    unfold insertList
    rcases h b (by simp) with hab | hba
    · rw [hr.lt hab]
      refine List.pairwise_cons.mpr ⟨?_, List.pairwise_cons.mpr ⟨hb, hl⟩⟩
      intro c hc
      rcases List.mem_cons.mp hc with rfl | hc
      · exact hab
      · exact hr.trans hab (hb c hc)
    · rw [hr.gt hba]
      refine List.pairwise_cons.mpr ⟨?_, ih hl hrest⟩
      intro c hc
      have hne : ∀ d ∈ l, compare a d ≠ .eq := by
        intro d hd he
        rcases hrest d hd with had | hda
        · rw [hr.lt had] at he; cases he
        · rw [hr.gt hda] at he; cases he
      rcases (mem_insertList hne).mp hc with rfl | hc
      · exact hba
      · exact hb c hc

theorem mem_remove {s : OrderedSet α} {a b : α} (hr : Refines r) (hs : s.elems.Pairwise r)
    (ha : a ∈ s) (hrefl : compare a a = .eq) : b ∈ s.remove a ↔ b ∈ s ∧ b ≠ a := by
  obtain ⟨l⟩ := s
  simp only [mem_def, remove] at *
  induction l with
  | nil => cases ha
  | cons c l ih =>
    obtain ⟨hc, hl⟩ := List.pairwise_cons.mp hs
    have hirr : ∀ d, compare d d = .eq → ¬ r d d := by
      intro d hd hdd
      rw [hr.lt hdd] at hd
      cases hd
    rcases List.mem_cons.mp ha with rfl | ha
    · rw [List.eraseP_cons_of_pos (by simp [hrefl])]
      have : a ∉ l := fun hal ↦ hirr a hrefl (hc a hal)
      grind
    · have hca := hc a ha
      rw [List.eraseP_cons_of_neg (by simp [hr.lt hca])]
      have hne : c ≠ a := by
        rintro rfl
        exact hirr c hrefl hca
      have := ih hl ha
      grind

theorem pairwise_remove {s : OrderedSet α} {a : α} (hs : s.elems.Pairwise r) :
    (s.remove a).elems.Pairwise r := hs.sublist List.eraseP_sublist

omit [Ord α] in
theorem rel_of_mem {s : OrderedSet α} {a b : α} (hs : s.elems.Pairwise r) (ha : a ∈ s) (hb : b ∈ s)
    (hab : a ≠ b) : r a b ∨ r b a := by
  have hs : s.elems.Pairwise (fun a b ↦ r a b ∨ r b a) := hs.imp Or.inl
  have : Std.Symm (fun a b ↦ r a b ∨ r b a) := ⟨fun _ _ h ↦ Or.symm h⟩
  exact hs.forall ha hb hab

theorem firstFrom_eq_some {s : OrderedSet α} {a b : α} (hs : s.elems.Pairwise r)
    (h : s.firstFrom a = some b) :
    b ∈ s ∧ compare b a ≠ .lt ∧ ∀ c ∈ s, compare c a = .lt ∨ c = b ∨ r b c := by
  obtain ⟨hb, l, l', hl, hlt⟩ := List.find?_eq_some_iff_append.mp h
  refine ⟨List.mem_of_find?_eq_some h, by simpa using hb, fun c hc ↦ ?_⟩
  rw [mem_def, hl] at hc
  rw [hl] at hs
  rcases List.mem_append.mp hc with hc | hc
  · exact .inl (by simpa using hlt c hc)
  · rcases List.mem_cons.mp hc with rfl | hc
    · exact .inr (.inl rfl)
    · exact .inr (.inr ((List.pairwise_cons.mp (List.pairwise_append.mp hs).2.1).1 c hc))

theorem firstFrom_eq_none {s : OrderedSet α} {a : α} (h : s.firstFrom a = none) :
    ∀ c ∈ s, compare c a = .lt := by
  intro c hc
  simpa using List.find?_eq_none.mp h c hc

theorem lastBefore_eq_some {s : OrderedSet α} {a b : α} (hs : s.elems.Pairwise r)
    (h : s.lastBefore a = some b) :
    b ∈ s ∧ compare b a = .lt ∧ ∀ c ∈ s, compare c a = .lt → c = b ∨ r c b := by
  have hb := List.mem_of_getLast? h
  obtain ⟨hb, hlt⟩ := List.mem_filter.mp hb
  refine ⟨hb, by simpa using hlt, fun c hc hca ↦ ?_⟩
  obtain ⟨l, hl⟩ := List.getLast?_eq_some_iff.mp h
  have hc' : c ∈ l ++ [b] := hl ▸ List.mem_filter.mpr ⟨hc, by simp [hca]⟩
  have hp : (l ++ [b]).Pairwise r := hl ▸ hs.filter _
  rcases List.mem_append.mp hc' with hc' | hc'
  · exact .inr ((List.pairwise_append.mp hp).2.2 c hc' b (by simp))
  · exact .inl (List.mem_singleton.mp hc')

theorem lastBefore_eq_none {s : OrderedSet α} {a : α} (h : s.lastBefore a = none) :
    ∀ c ∈ s, compare c a ≠ .lt := by
  intro c hc hca
  have := List.getLast?_eq_none_iff.mp h
  exact List.filter_eq_nil_iff.mp this c hc (by simp [hca])

end OrderedSet

end MqttProtocolCore.General
