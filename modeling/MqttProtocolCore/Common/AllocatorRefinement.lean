import Mathlib.Order.Bounds.Defs
import Mathlib.Order.Fin.Basic
import Mathlib.Order.Interval.Set.Defs
import MqttProtocolCore.Common.ValueAllocator
import MqttProtocolCore.General.Simulation

namespace MqttProtocolCore.Common

open General ValueInterval

variable {m : ℕ}

inductive Call (m : ℕ) where
  | allocate
  | firstVacant
  | useValue (value : Fin (m + 1))
  | deallocate (value : Fin (m + 1))
  | isUsed (value : Fin (m + 1))
  | clear

inductive Answer (m : ℕ) where
  | value (value : Option (Fin (m + 1)))
  | flag (flag : Bool)
  | unit

/-- A finite set of free values, of which the least one is handed out. -/
inductive FreeStep (lowest highest : Fin (m + 1)) :
    Set (Fin (m + 1)) → Call m → Set (Fin (m + 1)) → Answer m → Prop where
  | allocated {free : Set (Fin (m + 1))} {value : Fin (m + 1)} :
      IsLeast free value →
      FreeStep lowest highest free .allocate (free \ {value}) (.value (some value))
  | exhausted : FreeStep lowest highest ∅ .allocate ∅ (.value none)
  | vacant {free : Set (Fin (m + 1))} {value : Fin (m + 1)} :
      IsLeast free value → FreeStep lowest highest free .firstVacant free (.value (some value))
  | full : FreeStep lowest highest ∅ .firstVacant ∅ (.value none)
  | used {free : Set (Fin (m + 1))} {value : Fin (m + 1)} : value ∈ free →
      FreeStep lowest highest free (.useValue value) (free \ {value}) (.flag true)
  | taken {free : Set (Fin (m + 1))} {value : Fin (m + 1)} : value ∉ free →
      FreeStep lowest highest free (.useValue value) free (.flag false)
  | freed {free : Set (Fin (m + 1))} {value : Fin (m + 1)} : value ∈ Set.Icc lowest highest →
      value ∉ free → FreeStep lowest highest free (.deallocate value) (insert value free) .unit
  | asked {free : Set (Fin (m + 1))} {value : Fin (m + 1)} {used : Bool} : (used ↔ value ∉ free) →
      FreeStep lowest highest free (.isUsed value) free (.flag used)
  | cleared {free : Set (Fin (m + 1))} :
      FreeStep lowest highest free .clear (Set.Icc lowest highest) .unit

namespace Pool

variable {lowest highest value : Fin (m + 1)} {pool : Pool m} {call : Call m}

/-- `value - 1` in the value type: overflow panics. -/
def subOne : Fin (m + 1) → Outcome (Fin (m + 1))
  | ⟨0, _⟩ => .panic
  | ⟨n + 1, h⟩ => .ret ⟨n, Nat.lt_of_succ_lt h⟩

def touches (a b : Fin (m + 1)) : Outcome Bool := do return decide ((← addOne a) = b)

section Checked

variable (pool : Pool m) (value : Fin (m + 1))

def allocateChecked : Outcome (Option (Fin (m + 1) × Pool m)) :=
  match pool.first with
  | none => return none
  | some iv => do
    let pool := pool.remove iv
    if iv.low < iv.high then
      let next ← addOne iv.low
      return some (iv.low, pool.insert ⟨next, iv.high⟩)
    else return some (iv.low, pool)

def useValueChecked : Outcome (Option (Pool m)) :=
  match pool.elems.find? (fun iv ↦ iv.contains value) with
  | none => return none
  | some iv => do
    let pool := pool.remove iv
    let pool ← if iv.low < value then do
        let last ← subOne value
        pure (OrderedSet.insert pool ⟨iv.low, last⟩)
      else pure pool
    let pool ← if value < iv.high then do
        let next ← addOne value
        pure (OrderedSet.insert pool ⟨next, iv.high⟩)
      else pure pool
    return some pool

def deallocateChecked (lowest highest : Fin (m + 1)) : Outcome (Pool m) :=
  if lowest ≤ value ∧ value ≤ highest then
    let right := pool.firstFrom (newSingle value)
    let left := pool.lastBefore (newSingle value)
    match left, right with
    | some l, some r => do
      if ← touches l.high value then
        if ← touches value r.low then
          return ((pool.remove l).remove r).insert ⟨l.low, r.high⟩
        else return (pool.remove l).insert ⟨l.low, value⟩
      else if ← touches value r.low then
        return (pool.remove r).insert ⟨value, r.high⟩
      else return pool.insert (newSingle value)
    | some l, none => do
      if ← touches l.high value then return (pool.remove l).insert ⟨l.low, value⟩
      else return pool.insert (newSingle value)
    | none, some r => do
      if ← touches value r.low then return (pool.remove r).insert ⟨value, r.high⟩
      else return pool.insert (newSingle value)
    | none, none => return pool.insert (newSingle value)
  else .panic

end Checked

theorem allocateChecked_eq : pool.allocateChecked = .ret pool.allocate := by
  unfold allocateChecked allocate
  cases pool.first with
  | none => rfl
  | some iv =>
    dsimp only
    split
    · rename_i h
      have hm : iv.low.val < m := by
        have := iv.high.isLt
        rw [Fin.lt_def] at h
        omega
      rw [addOne, dif_pos hm]
      rfl
    · rfl

theorem useValueChecked_eq : pool.useValueChecked value = .ret (pool.useValue value) := by
  unfold useValueChecked useValue insertBelow insertAbove
  cases pool.elems.find? (fun iv ↦ iv.contains value) with
  | none => rfl
  | some iv =>
    have hbelow (h : iv.low < value) :
        subOne value = .ret ⟨value.val - 1, by omega⟩ := by
      obtain ⟨_ | n, hn⟩ := value
      · exact absurd h (Nat.not_lt_zero _)
      · rfl
    have habove (h : value < iv.high) : value.val < m := by
      have := iv.high.isLt
      rw [Fin.lt_def] at h
      omega
    dsimp only
    by_cases hlow : iv.low < value
    · by_cases hhigh : value < iv.high
      · simp [hlow, hhigh, addOne, hbelow hlow, habove hhigh]
      · simp [hlow, hhigh, hbelow hlow]
    · by_cases hhigh : value < iv.high
      · simp [hlow, hhigh, addOne, habove hhigh]
      · simp [hlow, hhigh]

theorem deallocateChecked_eq (h : Wf lowest highest pool) :
    pool.deallocateChecked value lowest highest = pool.deallocate lowest highest value := by
  have ha := around h value
  unfold deallocateChecked deallocate
  split
  · have hleft (l : ValueInterval m) (hl : pool.lastBefore (newSingle value) = some l) :
        touches l.high value = .ret (decide (l.high.val + 1 = value.val)) := by
      obtain ⟨-, hlt⟩ := ha.left_mem l hl
      have hm : l.high.val < m := by
        have := value.isLt
        rw [Fin.lt_def] at hlt
        omega
      simp only [touches, addOne, hm, dite_true, Outcome.ret_bind, Outcome.pure_eq, Fin.ext_iff]
    have hright (r : ValueInterval m) : touches value r.low =
        (addOne value >>= fun next ↦ .ret (decide (next = r.low))) := rfl
    cases hl : pool.lastBefore (newSingle value) with
    | none =>
      cases pool.firstFrom (newSingle value) with
      | none => rfl
      | some r =>
        simp only [hright]
        cases addOne value with
        | ret next => simp
        | panic => rfl
    | some l =>
      cases pool.firstFrom (newSingle value) with
      | none => simp [hleft l hl]
      | some r =>
        simp only [hleft l hl, hright]
        by_cases hadj : l.high.val + 1 = value.val
        · cases addOne value with
          | ret next => by_cases hnext : next = r.low <;> simp [hadj, hnext]
          | panic => simp [hadj]
        · cases addOne value with
          | ret next => simp [hadj]
          | panic => simp [hadj]
  · rfl

def step (lowest highest : Fin (m + 1)) (pool : Pool m) : Call m → Outcome (Pool m × Answer m)
  | .allocate => do
    match ← pool.allocateChecked with
    | some (value, pool) => return (pool, .value (some value))
    | none => return (pool, .value none)
  | .firstVacant => return (pool, .value (pool.first.map ValueInterval.low))
  | .useValue value => do
    match ← pool.useValueChecked value with
    | some pool => return (pool, .flag true)
    | none => return (pool, .flag false)
  | .deallocate value => do return (← pool.deallocateChecked value lowest highest, .unit)
  | .isUsed value => return (pool, .flag (pool.isUsed value))
  | .clear => return (.singleton ⟨lowest, highest⟩, .unit)

def system (lowest highest : Fin (m + 1)) : System (Pool m) (Call m) (Answer m) where
  Init pool := lowest ≤ highest ∧ pool = .singleton ⟨lowest, highest⟩
  step := Pool.step lowest highest

/-- Only values in use are given back. -/
def Permitted (lowest highest : Fin (m + 1)) (pool : Pool m) : Call m → Prop
  | .deallocate value => (lowest ≤ value ∧ value ≤ highest) ∧ pool.isUsed value
  | _ => True

theorem free_singleton : free (.singleton ⟨lowest, highest⟩) = Set.Icc lowest highest := by
  ext u
  simp [free, OrderedSet.mem_def, OrderedSet.singleton, contains]

theorem free_of_first_none (h : pool.first = none) : pool.free = ∅ := by
  have hnil : pool.elems = [] := List.head?_eq_none_iff.mp h
  ext u
  simp [free, OrderedSet.mem_def, hnil]

theorem isLeast_first {iv : ValueInterval m} (h : Wf lowest highest pool)
    (hiv : pool.first = some iv) : IsLeast pool.free iv.low := by
  cases ha : pool.allocate with
  | none =>
    rw [allocate_eq_none] at ha
    rw [OrderedSet.first, ha] at hiv
    cases hiv
  | some r =>
    obtain ⟨value, pool'⟩ := r
    obtain ⟨-, hmem, hmin, -⟩ := allocate_spec h ha
    have hlow : value = iv.low := by
      simp only [allocate, hiv] at ha
      split at ha
      · exact (Prod.mk.inj (Option.some.inj ha)).1.symm
      · exact (Prod.mk.inj (Option.some.inj ha)).1.symm
    exact hlow ▸ ⟨hmem, hmin⟩

theorem step_spec (h : Wf lowest highest pool) (hlh : lowest ≤ highest)
    (hok : Permitted lowest highest pool call) :
    ∃ r, pool.step lowest highest call = .ret r ∧ Wf lowest highest r.1 ∧
      FreeStep lowest highest pool.free call r.1.free r.2 := by
  cases call with
  | allocate =>
    have hstep : pool.step lowest highest .allocate = (do
        match ← pool.allocateChecked with
        | some (value, pool) => return (pool, .value (some value))
        | none => return (pool, .value none)) := rfl
    rw [hstep, allocateChecked_eq, Outcome.ret_bind]
    cases ha : pool.allocate with
    | none =>
      have hempty : pool.free = ∅ :=
        free_of_first_none (List.head?_eq_none_iff.mpr (allocate_eq_none.mp ha))
      refine ⟨_, rfl, h, ?_⟩
      rw [hempty]
      exact .exhausted
    | some r =>
      obtain ⟨value, pool'⟩ := r
      obtain ⟨hwf, hmem, hmin, hfree⟩ := allocate_spec h ha
      refine ⟨_, rfl, hwf, ?_⟩
      rw [hfree]
      exact .allocated ⟨hmem, hmin⟩
  | firstVacant =>
    refine ⟨_, rfl, h, ?_⟩
    cases hf : pool.first with
    | none =>
      rw [free_of_first_none hf]
      exact .full
    | some iv => exact .vacant (isLeast_first h hf)
  | useValue value =>
    have hstep : pool.step lowest highest (.useValue value) = (do
        match ← pool.useValueChecked value with
        | some pool => return (pool, .flag true)
        | none => return (pool, .flag false)) := rfl
    rw [hstep, useValueChecked_eq, Outcome.ret_bind]
    cases hu : pool.useValue value with
    | none => exact ⟨_, rfl, h, .taken (useValue_eq_none.mp hu)⟩
    | some pool' =>
      obtain ⟨hwf, hfree⟩ := useValue_spec h hu
      have hmem : value ∈ pool.free := by
        by_contra hno
        cases (useValue_eq_none.mpr hno).symm.trans hu
      refine ⟨_, rfl, hwf, ?_⟩
      rw [hfree]
      exact .used hmem
  | deallocate value =>
    obtain ⟨hin, hused⟩ := hok
    have hno : value ∉ pool.free := isUsed_iff.mp hused
    have hspec := @deallocate_spec m lowest highest value pool h
    obtain ⟨pool', hd, -, -, hwf, hfree⟩ := hspec.exists_ret
      (not_or.mpr ⟨not_not.mpr hin, fun hbad ↦ hno hbad.1⟩)
    refine ⟨(pool', .unit), ?_, hwf, ?_⟩
    · rw [← deallocateChecked_eq h] at hd
      simp only [step, hd, Outcome.ret_bind, Outcome.pure_eq]
    · rw [hfree]
      exact .freed hin hno
  | isUsed value => exact ⟨_, rfl, h, .asked isUsed_iff⟩
  | clear =>
    refine ⟨_, rfl, ValueAllocator.wf_full hlh, ?_⟩
    rw [free_singleton]
    exact .cleared

/-- The pool of an allocator stays a list of ordered, disjoint intervals that are not adjacent and
lie in the range, it covers the values that are free, and no call panics: the arithmetic does not
overflow. -/
theorem refines_free {trace : List (Transition (Pool m) (Call m) (Answer m))}
    (hrun : Run (system lowest highest) (Permitted lowest highest) trace pool) :
    Wf lowest highest pool ∧
      Behaves (FreeStep lowest highest) (Set.Icc lowest highest) (observed trace) pool.free ∧
      ∀ call, Permitted lowest highest pool call → (pool.step lowest highest call).Returns := by
  have hlh : lowest ≤ highest := by
    refine hrun.invariant (I := fun _ ↦ lowest ≤ highest) ?_ ?_
    · intro _ hinit
      exact hinit.1
    · intro _ _ h _ _ _
      exact h
  have hI : Wf lowest highest pool ∧
      Behaves (FreeStep lowest highest) (Set.Icc lowest highest) (observed trace) pool.free := by
    refine hrun.behaves (Wf lowest highest) free ?_ ?_
    · rintro _ ⟨-, rfl⟩
      exact ⟨ValueAllocator.wf_full hlh, free_singleton⟩
    · intro pool call hwf hok r hr
      obtain ⟨r', hr', hwf', hs⟩ := step_spec hwf hlh hok
      obtain rfl := Outcome.ret.inj (hr'.symm.trans hr)
      exact ⟨hwf', hs⟩
  refine ⟨hI.1, hI.2, fun call hok ↦ ?_⟩
  obtain ⟨r, hr, -⟩ := step_spec hI.1 hlh hok
  exact ⟨r, hr⟩

theorem refines_free_u8 : ∃ pool : Pool 255, pool.elems = [⟨0, 0⟩, ⟨2, 255⟩] ∧ Wf 0 255 pool ∧
    ∀ call, Permitted 0 255 pool call → (pool.step 0 255 call).Returns := by
  obtain ⟨⟨trace, pool⟩, hrun, hused, ⟨pool', answer⟩, hstep, hpool⟩ :
      ((system (0 : Fin 256) 255).run (.singleton ⟨0, 255⟩) [.allocate, .allocate]).Attains
        fun r ↦ r.2.isUsed 0 ∧ (r.2.step 0 255 (.deallocate 0)).Attains fun r' ↦
          r'.1.elems = [⟨0, 0⟩, ⟨2, 255⟩] := by
    decide +kernel
  have hinit : (system (0 : Fin 256) 255).Init (.singleton ⟨0, 255⟩) := ⟨by decide, rfl⟩
  have hstart : Run (system (0 : Fin 256) 255) (Permitted 0 255) _ _ := .init hinit
  have hok : Permitted 0 255 pool (.deallocate 0) := ⟨by decide, hused⟩
  obtain ⟨hwf, -, hreturns⟩ :=
    refines_free ((hstart.append_ok (by simp [Permitted]) hrun).step hok hstep)
  exact ⟨pool', hpool, hwf, hreturns⟩

end Pool

end MqttProtocolCore.Common
