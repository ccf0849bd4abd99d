import MqttProtocolCore.General.Outcome

namespace MqttProtocolCore.General

universe u

/-- A state machine that takes one input at a time; a step gives the next state and an output, or
it panics. -/
structure System (σ ι ο : Type u) where
  Init : σ → Prop
  step : σ → ι → Outcome (σ × ο)

structure Transition (σ ι ο : Type u) where
  before : σ
  input : ι
  after : σ
  output : ο

variable {σ ι ο γ : Type u}

inductive Reachable (S : System σ ι ο) : σ → Prop where
  | init {s : σ} : S.Init s → Reachable S s
  | step {s t : σ} {i : ι} {o : ο} :
      Reachable S s → S.step s i = .ret (t, o) → Reachable S t

/-- The runs from an initial state whose every step meets the condition `ok`, with the transitions
they took. -/
inductive Run (S : System σ ι ο) (ok : σ → ι → Prop) : List (Transition σ ι ο) → σ → Prop where
  | init {s : σ} : S.Init s → Run S ok [] s
  | step {trace : List (Transition σ ι ο)} {s t : σ} {i : ι} {o : ο} :
      Run S ok trace s → ok s i → S.step s i = .ret (t, o) → Run S ok (trace ++ [⟨s, i, t, o⟩]) t

variable {S : System σ ι ο} {s : σ}

theorem Reachable.invariant {I : σ → Prop} (init : ∀ s, S.Init s → I s)
    (step : ∀ s i, I s → (S.step s i).Ensures fun r ↦ I r.1) (h : Reachable S s) : I s := by
  induction h with
  | init h => exact init _ h
  | step _ h ih => exact step _ _ ih _ h

theorem Run.reachable {ok : σ → ι → Prop} {trace : List (Transition σ ι ο)}
    (h : Run S ok trace s) : Reachable S s := by
  induction h with
  | init h => exact .init h
  | step _ _ h ih => exact .step ih h

/-- An invariant of the steps that meet `ok` holds at the end of every run of such steps. -/
theorem Run.invariant {ok : σ → ι → Prop} {I : σ → Prop} (init : ∀ s, S.Init s → I s)
    (step : ∀ s i, I s → ok s i → (S.step s i).Ensures fun r ↦ I r.1)
    {trace : List (Transition σ ι ο)} (h : Run S ok trace s) : I s := by
  induction h with
  | init h => exact init _ h
  | step _ hok h ih => exact step _ _ ih hok _ h

theorem Run.mono {ok ok' : σ → ι → Prop} (himp : ∀ s i, ok s i → ok' s i)
    {trace : List (Transition σ ι ο)} (h : Run S ok trace s) : Run S ok' trace s := by
  induction h with
  | init h => exact .init h
  | step _ hok hstep ih => exact ih.step (himp _ _ hok) hstep

/-- What a step from the invariant leaves holds of every transition of a run. -/
theorem Run.transitions {ok : σ → ι → Prop} {I : σ → Prop} {P : Transition σ ι ο → Prop}
    (init : ∀ s, S.Init s → I s)
    (step : ∀ s i, I s → ok s i → (S.step s i).Ensures fun r ↦ I r.1 ∧ P ⟨s, i, r.1, r.2⟩)
    {trace : List (Transition σ ι ο)} (h : Run S ok trace s) : I s ∧ ∀ t ∈ trace, P t := by
  induction h with
  | init h => exact ⟨init _ h, by simp⟩
  | @step trace s t i o _ hok h ih =>
    obtain ⟨hI, hP⟩ := step s i ih.1 hok _ h
    refine ⟨hI, fun tr htr ↦ ?_⟩
    obtain htr | htr := List.mem_append.mp htr
    · exact ih.2 tr htr
    · rw [List.mem_singleton.mp htr]
      exact hP

def System.monitor (S : System σ ι ο) (start : γ) (read : γ → Transition σ ι ο → γ) :
    System (σ × γ) ι ο where
  Init p := S.Init p.1 ∧ p.2 = start
  step p i := do
    let (t, o) ← S.step p.1 i
    return ((t, read p.2 ⟨p.1, i, t, o⟩), o)

section Monitor

variable {start : γ} {read : γ → Transition σ ι ο → γ} {ok : σ × γ → ι → Prop}
  {trace : List (Transition (σ × γ) ι ο)} {p : σ × γ}

theorem Run.monitored {I : σ → γ → Prop} (h : Run (S.monitor start read) ok trace p)
    (init : ∀ s, S.Init s → I s start)
    (step : ∀ s g i, I s g → ok (s, g) i →
      (S.step s i).Ensures fun r ↦ I r.1 (read g ⟨s, i, r.1, r.2⟩)) : I p.1 p.2 := by
  refine h.invariant (I := fun p ↦ I p.1 p.2) ?_ fun p i hp hok ↦ ?_
  · rintro ⟨s, g⟩ ⟨hs, hg⟩
    dsimp only at hs hg ⊢
    exact hg ▸ init s hs
  · exact (step p.1 p.2 i hp hok).bind fun r hr ↦ Outcome.ensures_ret.mpr hr

theorem Run.monitor_step {s t : σ} {g : γ} {i : ι} {o : ο}
    (h : Run (S.monitor start read) ok trace (s, g)) (hok : ok (s, g) i)
    (hstep : S.step s i = .ret (t, o)) : Run (S.monitor start read) ok
      (trace ++ [⟨(s, g), i, (t, read g ⟨s, i, t, o⟩), o⟩]) (t, read g ⟨s, i, t, o⟩) :=
  h.step hok (by simp [System.monitor, hstep])

theorem Run.reachable_fst (h : Run (S.monitor start read) ok trace p) : Reachable S p.1 :=
  h.monitored (I := fun s _ ↦ Reachable S s) (fun _ hs ↦ .init hs)
    fun _ _ _ hs _ _ hr ↦ .step hs hr

end Monitor

def System.run (S : System σ ι ο) (s : σ) : List ι → Outcome (List (Transition σ ι ο) × σ)
  | [] => return ([], s)
  | i :: inputs => do
    let (t, o) ← S.step s i
    let (trace, t') ← S.run t inputs
    return (⟨s, i, t, o⟩ :: trace, t')

theorem System.step_of_mem_run {s t : σ} {inputs : List ι} {trace : List (Transition σ ι ο)}
    (hrun : S.run s inputs = .ret (trace, t)) {tr : Transition σ ι ο} (h : tr ∈ trace) :
    S.step tr.before tr.input = .ret (tr.after, tr.output) := by
  induction inputs generalizing s trace with
  | nil =>
    obtain ⟨rfl, -⟩ := Prod.mk.inj (Outcome.ret.inj hrun)
    cases h
  | cons i inputs ih =>
    obtain ⟨⟨s', o⟩, hstep, hrest⟩ := Outcome.bind_eq_ret.mp hrun
    obtain ⟨⟨rest, t'⟩, hrec, hret⟩ := Outcome.bind_eq_ret.mp hrest
    obtain ⟨rfl, rfl⟩ := Prod.mk.inj (Outcome.ret.inj hret)
    obtain rfl | h := List.mem_cons.mp h
    · exact hstep
    · exact ih hrec h

/-- A run goes on with inputs that meet the condition in every state. -/
theorem Run.append_ok {ok : σ → ι → Prop} {trace trace' : List (Transition σ ι ο)} {t : σ}
    {inputs : List ι} (h : Run S ok trace s) (hok : ∀ i ∈ inputs, ∀ s, ok s i)
    (hrun : S.run s inputs = .ret (trace', t)) : Run S ok (trace ++ trace') t := by
  induction inputs generalizing s trace trace' with
  | nil =>
    obtain ⟨rfl, rfl⟩ := Prod.mk.inj (Outcome.ret.inj hrun)
    simpa using h
  | cons i inputs ih =>
    obtain ⟨⟨s', o⟩, hstep, hrest⟩ := Outcome.bind_eq_ret.mp hrun
    obtain ⟨⟨rest, t'⟩, hrec, hret⟩ := Outcome.bind_eq_ret.mp hrest
    obtain ⟨rfl, rfl⟩ := Prod.mk.inj (Outcome.ret.inj hret)
    obtain ⟨hi, hok⟩ := List.forall_mem_cons.mp hok
    simpa using ih (h.step (hi s) hstep) hok hrec

theorem Run.append {trace trace' : List (Transition σ ι ο)} {t : σ} {inputs : List ι}
    (h : Run S (fun _ _ ↦ True) trace s) (hrun : S.run s inputs = .ret (trace', t)) :
    Run S (fun _ _ ↦ True) (trace ++ trace') t := h.append_ok (fun _ _ _ ↦ trivial) hrun

theorem Run.of_run {trace : List (Transition σ ι ο)} {t : σ} {inputs : List ι} (h : S.Init s)
    (hrun : S.run s inputs = .ret (trace, t)) : Run S (fun _ _ ↦ True) trace t :=
  (Run.init h).append hrun

theorem Run.monitor_append {start : γ} {read : γ → Transition σ ι ο → γ} {ok : σ × γ → ι → Prop}
    {s t : σ} {g : γ} {trace : List (Transition (σ × γ) ι ο)} {trace' : List (Transition σ ι ο)}
    {inputs : List ι} (h : Run (S.monitor start read) ok trace (s, g))
    (hok : ∀ t ∈ trace', ∀ g, ok (t.before, g) t.input) (hrun : S.run s inputs = .ret (trace', t)) :
    ∃ trace'', Run (S.monitor start read) ok trace'' (t, trace'.foldl read g) := by
  induction inputs generalizing s g trace trace' with
  | nil =>
    obtain ⟨rfl, rfl⟩ := Prod.mk.inj (Outcome.ret.inj hrun)
    exact ⟨trace, h⟩
  | cons i inputs ih =>
    obtain ⟨⟨s', o⟩, hstep, hrest⟩ := Outcome.bind_eq_ret.mp hrun
    obtain ⟨⟨rest, t'⟩, hrec, hret⟩ := Outcome.bind_eq_ret.mp hrest
    obtain ⟨rfl, rfl⟩ := Prod.mk.inj (Outcome.ret.inj hret)
    obtain ⟨hi, hok⟩ := List.forall_mem_cons.mp hok
    have hrest' := ih (h.monitor_step (hi g) hstep) hok hrec
    exact hrest'

/-- A run whose steps all meet the condition has its monitored counterpart. -/
theorem Run.monitor_run_ok {start : γ} {read : γ → Transition σ ι ο → γ} {ok : σ × γ → ι → Prop}
    {s t : σ} {trace : List (Transition σ ι ο)} {inputs : List ι} (h : S.Init s)
    (hok : ∀ t ∈ trace, ∀ g, ok (t.before, g) t.input) (hrun : S.run s inputs = .ret (trace, t)) :
    ∃ trace', Run (S.monitor start read) ok trace' (t, trace.foldl read start) :=
  Run.monitor_append (.init ⟨h, rfl⟩) hok hrun

theorem Run.monitor_run {start : γ} {read : γ → Transition σ ι ο → γ} {s t : σ}
    {trace : List (Transition σ ι ο)} {inputs : List ι} (h : S.Init s)
    (hrun : S.run s inputs = .ret (trace, t)) :
    ∃ trace', Run (S.monitor start read) (fun _ _ ↦ True) trace' (t, trace.foldl read start) :=
  Run.monitor_run_ok h (fun _ _ _ ↦ trivial) hrun

end MqttProtocolCore.General
