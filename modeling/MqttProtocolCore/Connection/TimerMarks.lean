import MqttProtocolCore.Connection.Timers

namespace MqttProtocolCore.Connection

open General Packet

variable {w : IdWidth}

/-- What happens to a timer: the application is asked to start it or to cancel it, or it fires. -/
inductive TimerMark where
  | reset | cancel | fired
deriving DecidableEq

namespace TimerMark

variable {kind : TimerKind} {mark : TimerMark} {marks : List (TimerKind × TimerMark)}

/-- The last thing that happened to a timer. -/
def last (kind : TimerKind) (marks : List (TimerKind × TimerMark)) : Option TimerMark :=
  (marks.filter fun m ↦ m.1 = kind).getLast?.map Prod.snd

/-- Only a timer that has been started, and has neither fired nor been cancelled since, is
cancelled. -/
def Orderly (marks : List (TimerKind × TimerMark)) : Prop :=
  ∀ kind before after, marks = before ++ (kind, .cancel) :: after → last kind before = some .reset

/-- The timers that run according to what happened to them. -/
def running (marks : List (TimerKind × TimerMark)) (kind : TimerKind) : Bool :=
  last kind marks = some .reset

theorem last_concat {kind' : TimerKind} (h : kind ≠ kind') :
    last kind' (marks ++ [(kind, mark)]) = last kind' marks := by
  simp [last, h]

theorem running_concat : running (marks ++ [(kind, mark)]) =
    Function.update (running marks) kind (mark = .reset) := by
  funext kind'
  by_cases hk : kind' = kind
  · subst hk
    simp [running, last]
  · rw [Function.update_of_ne hk, running, last_concat (Ne.symm hk), running]

theorem orderly_nil : Orderly [] := by
  intro kind before after h
  simp at h

theorem Orderly.concat (h : Orderly marks) (hc : mark = .cancel → running marks kind) :
    Orderly (marks ++ [(kind, mark)]) := by
  intro kind' before after heq
  obtain rfl | ⟨after', m, rfl⟩ := List.eq_nil_or_concat after
  · obtain ⟨rfl, hm⟩ := List.append_inj' heq rfl
    cases hm
    simpa [running] using hc rfl
  · have heq' : marks ++ [(kind, mark)] = before ++ (kind', .cancel) :: after' ++ [m] := by
      simpa using heq
    exact h _ _ _ (List.append_inj' heq' rfl).1

def ofEvent : GenericEvent w → Option (TimerKind × TimerMark)
  | .requestTimerReset kind _ => some (kind, .reset)
  | .requestTimerCancel kind => some (kind, .cancel)
  | _ => none

def ofOperation : Operation w → List (TimerKind × TimerMark)
  | .notifyTimerFired kind => [(kind, .fired)]
  | _ => []

def ofTransition (t : Transition (GenericConnection w) (Operation w) (Reply w)) :
    List (TimerKind × TimerMark) :=
  ofOperation t.input ++ t.output.toEvents.filterMap ofEvent

theorem running_ofOperation (op : Operation w) :
    running (marks ++ ofOperation op) = GenericConnection.expire (running marks) op := by
  cases op with
  | notifyTimerFired kind => exact running_concat
  | _ => simp [ofOperation, GenericConnection.expire]

theorem Orderly.operation (h : Orderly marks) (op : Operation w) :
    Orderly (marks ++ ofOperation op) := by
  cases op with
  | notifyTimerFired kind => exact h.concat (by simp)
  | _ => simpa [ofOperation] using h

theorem running_ofEvent (events : List (GenericEvent w)) :
    running (marks ++ events.filterMap ofEvent) =
      GenericConnection.timersAfter (running marks) events := by
  induction events generalizing marks with
  | nil => rw [List.filterMap_nil, List.append_nil]; rfl
  | cons e events ih =>
    cases e with
    | requestTimerReset kind d =>
      have hrest := @ih (marks ++ [(kind, .reset)])
      rw [running_concat, List.append_assoc] at hrest
      exact hrest
    | requestTimerCancel kind =>
      have hrest := @ih (marks ++ [(kind, .cancel)])
      rw [running_concat, List.append_assoc] at hrest
      exact hrest
    | _ => exact ih

theorem Orderly.events {events : List (GenericEvent w)} (h : Orderly marks)
    (hc : GenericConnection.CancelsRunning (running marks) events) :
    Orderly (marks ++ events.filterMap ofEvent) := by
  induction events generalizing marks with
  | nil => simpa using h
  | cons e events ih =>
    obtain ⟨he, hrest⟩ := hc
    cases e with
    | requestTimerReset kind d =>
      have hstarted : Orderly (marks ++ [(kind, .reset)]) := h.concat (by simp)
      have hall := ih hstarted (by rw [running_concat]; exact hrest)
      rwa [List.append_assoc] at hall
    | requestTimerCancel kind =>
      have hstopped : Orderly (marks ++ [(kind, .cancel)]) := h.concat fun _ ↦ he kind rfl
      have hall := ih hstopped (by rw [running_concat]; exact hrest)
      rwa [List.append_assoc] at hall
    | _ => exact ih h hrest

end TimerMark

namespace GenericConnection

open TimerMark

variable {c : GenericConnection w}
  {trace : List (Transition (GenericConnection w) (Operation w) (Reply w))}

/-- In every run, whatever it keeps to (timers may even fire at any time), a timer is set exactly
when the last thing that happened to it is its start, and only a timer that is set is cancelled. -/
theorem timers_mirror_events {ok : GenericConnection w → Operation w → Prop}
    (h : Run (system w) ok trace c) :
    (∀ kind, c.timerSet kind ↔ last kind (trace.flatMap ofTransition) = some .reset) ∧
      Orderly (trace.flatMap ofTransition) := by
  have hinv : c.Reading ∧ c.timerSet = running (trace.flatMap ofTransition) ∧
      Orderly (trace.flatMap ofTransition) := by
    induction h with
    | init hinit =>
      obtain ⟨role, version, rfl⟩ := hinit
      refine ⟨⟨[], .header⟩, ?_, orderly_nil⟩
      funext kind
      cases kind <;> rfl
    | @step trace c c' op reply _ _ hstep ih =>
      obtain ⟨hc, hset, horderly⟩ := ih
      have hkept := step_kept hc op _ hstep
      have hlapse : (c.lapse op).timerSet = running (trace.flatMap ofTransition ++ ofOperation op) := by
        rw [lapse_timerSet, hset, running_ofOperation]
      rw [List.flatMap_append, List.flatMap_singleton, ofTransition, ← List.append_assoc]
      refine ⟨step_reading hc op _ hstep, ?_, (horderly.operation op).events (hlapse ▸ hkept.cancels)⟩
      rw [running_ofEvent, ← hlapse]
      exact hkept.timers
  refine ⟨fun kind ↦ ?_, hinv.2.2⟩
  rw [hinv.2.1]
  simp [running]

theorem timers_mirror_events_pingreq : ∃ (c : GenericConnection .u16)
    (trace : List (Transition (GenericConnection .u16) (Operation .u16) (Reply .u16))),
    Run (system .u16) FiresSet trace c ∧
      last .pingreqSend (trace.flatMap ofTransition) = some .cancel ∧
      (∀ kind, c.timerSet kind ↔ last kind (trace.flatMap ofTransition) = some .reset) ∧
      Orderly (trace.flatMap ofTransition) := by
  obtain ⟨p, _, ⟨c₁, o₁⟩, h₁, ⟨c₂, o₂⟩, h₂, hset, ⟨c₃, o₃⟩, h₃, ⟨c₄, o₄⟩, h₄, hlast⟩ :
      (V311.Connect.parse [0, 4, 0x4d, 0x51, 0x54, 0x54, 4, 0, 0, 10, 0, 1, 0x61]).unwrap.Attains
        fun p ↦ ((new .client .u16 .v311).step (.send (.v311Connect p.1))).Attains fun r₁ ↦
        (r₁.1.step (.recv [0x20, 2, 0, 0])).Attains fun r₂ ↦ r₂.1.timerSet .pingreqSend ∧
        (r₂.1.step (.notifyTimerFired .pingreqSend)).Attains fun r₃ ↦
        (r₃.1.step (.setPingreqSendInterval (some 0))).Attains fun r₄ ↦
        last .pingreqSend (r₁.2.toEvents.filterMap ofEvent ++ r₂.2.toEvents.filterMap ofEvent ++
          (.pingreqSend, .fired) :: r₃.2.toEvents.filterMap ofEvent ++
          r₄.2.toEvents.filterMap ofEvent) = some .cancel := by
    decide +kernel
  have hstart : Run (system .u16) FiresSet [] (new .client .u16 .v311) := .init ⟨.client, .v311, rfl⟩
  have hfires : FiresSet c₂ (.notifyTimerFired .pingreqSend) := by
    rintro _ ⟨⟩
    exact hset
  have hrun₁ := Run.step (i := Operation.send (.v311Connect p.1)) (o := o₁) hstart (by rintro _ ⟨⟩) h₁
  have hrun₂ := Run.step (i := Operation.recv [0x20, 2, 0, 0]) (o := o₂) hrun₁ (by rintro _ ⟨⟩) h₂
  have hrun₃ := Run.step (i := Operation.notifyTimerFired .pingreqSend) (o := o₃) hrun₂ hfires h₃
  have hrun₄ := Run.step (i := Operation.setPingreqSendInterval (some 0)) (o := o₄) hrun₃
    (by rintro _ ⟨⟩) h₄
  refine ⟨c₄, _, hrun₄, ?_, timers_mirror_events hrun₄⟩
  simpa [ofTransition, ofOperation] using hlast

end GenericConnection

end MqttProtocolCore.Connection
