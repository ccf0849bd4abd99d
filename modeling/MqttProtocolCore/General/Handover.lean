import Mathlib.Logic.Basic

namespace MqttProtocolCore.General

/-- What goes to the receiver of a handover: the item is offered, and what was accepted is
confirmed. -/
inductive Forth where
  | offer | confirm
deriving DecidableEq

inductive Back where
  | accept | decline | finish
deriving DecidableEq

inductive Due where
  | answer | finish
deriving DecidableEq

/-- How far the sender is. -/
inductive Stage where
  | idle | offering | confirming | dropped
deriving DecidableEq

/-- Where a handover is: on its way in one direction, with the receiver, or nowhere. -/
inductive Place where
  | nowhere | offer | answer | accept | decline | confirm | closing | finish
deriving DecidableEq

namespace Place

def forth : Place → List Forth
  | offer => [.offer]
  | confirm => [.confirm]
  | _ => []

def back : Place → List Back
  | accept => [.accept]
  | decline => [.decline]
  | finish => [.finish]
  | _ => []

def due : Place → List Due
  | answer => [.answer]
  | closing => [.finish]
  | _ => []

theorem forth_cons {place : Place} {t : Forth} {rest : List Forth} (h : place.forth = t :: rest) :
    rest = [] := by
  cases place <;> simp [forth] at h <;> exact h.2

theorem back_cons {place : Place} {t : Back} {rest : List Back} (h : place.back = t :: rest) :
    rest = [] := by
  cases place <;> simp [back] at h <;> exact h.2

theorem eq_nowhere {place : Place} (hf : place.forth = []) (hb : place.back = []) (hd : place.due = []) :
    place = .nowhere := by
  cases place with
  | nowhere => rfl
  | offer | confirm => cases hf
  | accept | decline | finish => cases hb
  | answer | closing => cases hd

theorem eq_decline {place : Place} (h : place.back = [.decline]) : place = .decline := by
  cases place <;> first | rfl | cases h

theorem eq_of_tokens {place place' : Place} (hf : place.forth = place'.forth)
    (hb : place.back = place'.back) (hd : place.due = place'.due) : place = place' := by
  cases place <;> cases place' <;> simp_all [forth, back, due]

theorem due_eq_nil {place : Place} {t : Forth} (h : place.forth = [t]) : place.due = [] := by
  cases place <;> first | rfl | cases h

end Place

/-- The sender, the place and the receiver fit together: `handled` says that the receiver keeps
track of the item, `heard` that it was told of the item. -/
inductive Phase : Stage → Place → Prop → Prop → Prop where
  | idle {handled heard : Prop} : ¬ handled → ¬ heard → Phase .idle .nowhere handled heard
  | offered {place : Place} {handled heard : Prop} : place = .nowhere ∨ place = .offer →
      (handled ↔ heard) → Phase .offering place handled heard
  | taken {place : Place} {handled heard : Prop} : place = .answer ∨ place = .accept →
      handled → heard → Phase .offering place handled heard
  | declined {handled heard : Prop} : ¬ handled → heard → Phase .offering .decline handled heard
  | confirmed {place : Place} {handled heard : Prop} : place = .nowhere ∨ place = .confirm →
      heard → Phase .confirming place handled heard
  | closing {place : Place} {handled heard : Prop} : place = .closing ∨ place = .finish →
      ¬ handled → heard → Phase .confirming place handled heard
  | dropped {handled heard : Prop} : heard → Phase .dropped .nowhere handled heard

/-- The receiver keeps track of an item only while something is owed or on its way for it. -/
def Prompt (place : Place) (handled : Prop) : Prop :=
  place = .nowhere ∨ place = .offer → ¬ handled

/-- What the sender does with what has come back; `follows` says that it can confirm, `renews` that
everything before is given up. -/
inductive SenderMove (follows renews : Prop) :
    Stage → Option Back → Stage → List Forth → Prop where
  | rest {stage : Stage} : SenderMove follows renews stage none stage []
  | offers {sent : List Forth} : sent = [] ∨ sent = [.offer] →
      SenderMove follows renews .idle none .offering sent
  | repeats : SenderMove follows renews .offering none .offering [.offer]
  | reconfirms : SenderMove follows renews .confirming none .confirming [.confirm]
  | confirms : SenderMove follows renews .offering (some .accept) .confirming [.confirm]
  | drops : ¬ follows → SenderMove follows renews .offering (some .accept) .dropped []
  | declined : SenderMove follows renews .offering (some .decline) .idle []
  | finished : SenderMove follows renews .confirming (some .finish) .idle []
  | resets {stage : Stage} : renews → SenderMove follows renews stage none .idle []

/-- What the receiver does with what has arrived; `told` says that it is told of the item, `decides`
that it may decline one. -/
inductive ReceiverMove (decides handled : Prop) :
    List Due → Option Forth → Prop → Prop → List Back → List Due → Prop where
  | rest {due : List Due} {handled' told : Prop} : (handled' ↔ handled) → ¬ told →
      ReceiverMove decides handled due none handled' told [] due
  | accepts {handled' told : Prop} : (handled' ↔ handled) → ¬ told →
      ReceiverMove decides handled [.answer] none handled' told [.accept] []
  | declines {handled' told : Prop} : decides → ¬ handled' → ¬ told →
      ReceiverMove decides handled [.answer] none handled' told [.decline] []
  | finishes {handled' told : Prop} : (handled' ↔ handled) → ¬ told →
      ReceiverMove decides handled [.finish] none handled' told [.finish] []
  | answers {handled' told : Prop} : handled' → (told ↔ ¬ handled) →
      ReceiverMove decides handled [] (some .offer) handled' told [.accept] []
  | takes {handled' told : Prop} : handled' → told → ¬ handled →
      ReceiverMove decides handled [] (some .offer) handled' told [] [.answer]
  | repeats {handled' told : Prop} : handled' → ¬ told → handled →
      ReceiverMove decides handled [] (some .offer) handled' told [] []
  | refuses {handled' told : Prop} : (handled' ↔ handled) → ¬ told →
      ReceiverMove decides handled [] (some .offer) handled' told [] []
  | closes {handled' told : Prop} : ¬ handled' → ¬ told →
      ReceiverMove decides handled [] (some .confirm) handled' told [] [.finish]
  | ends {handled' told : Prop} : ¬ handled' → ¬ told →
      ReceiverMove decides handled [] (some .confirm) handled' told [.finish] []

variable {stage stage' : Stage} {place place' : Place}
  {handled handled' heard told follows renews decides : Prop}
  {got : Option Back} {took : Option Forth} {sent : List Forth} {reply : List Back}
  {due : List Due}

theorem Phase.of_accept (h : Phase stage place handled heard) (hp : place.back = [.accept]) :
    stage = .offering ∧ place = .accept ∧ handled ∧ heard := by
  cases h with
  | taken hp' hyes hheard =>
    rcases hp' with rfl | rfl
    · cases hp
    · exact ⟨rfl, rfl, hyes, hheard⟩
  | confirmed hp' | offered hp' | closing hp' => rcases hp' with rfl | rfl <;> cases hp
  | _ => cases hp

theorem Phase.of_decline (h : Phase stage place handled heard) (hp : place.back = [.decline]) :
    stage = .offering ∧ place = .decline ∧ ¬ handled ∧ heard := by
  cases h with
  | declined hno hheard => exact ⟨rfl, rfl, hno, hheard⟩
  | confirmed hp' | offered hp' | closing hp' | taken hp' => rcases hp' with rfl | rfl <;> cases hp
  | _ => cases hp

theorem Phase.of_finish (h : Phase stage place handled heard) (hp : place.back = [.finish]) :
    stage = .confirming ∧ place = .finish ∧ ¬ handled ∧ heard := by
  cases h with
  | closing hp' hno hheard =>
    rcases hp' with rfl | rfl
    · cases hp
    · exact ⟨rfl, rfl, hno, hheard⟩
  | confirmed hp' | offered hp' | taken hp' => rcases hp' with rfl | rfl <;> cases hp
  | _ => cases hp

theorem SenderMove.mono {follows' renews' : Prop} (h : SenderMove follows renews stage got stage' sent)
    (hf : follows' → follows) (hr : renews → renews') :
    SenderMove follows' renews' stage got stage' sent := by
  cases h with
  | rest => exact .rest
  | offers h => exact .offers h
  | repeats => exact .repeats
  | reconfirms => exact .reconfirms
  | confirms => exact .confirms
  | drops h => exact .drops (mt hf h)
  | declined => exact .declined
  | finished => exact .finished
  | resets h => exact .resets (hr h)

theorem SenderMove.of_accept (h : SenderMove follows renews .offering (some .accept) stage' sent)
    (hf : follows) : stage' = .confirming ∧ sent = [.confirm] := by
  cases h with
  | confirms => exact ⟨rfl, rfl⟩
  | drops hno => exact (hno hf).elim

theorem SenderMove.of_decline (h : SenderMove follows renews stage (some .decline) stage' sent) :
    stage' = .idle := by
  cases h
  rfl

structure SenderAt (follows renews : Prop) (stage : Stage) (place : Place) (handled heard : Prop)
    (got : Option Back) (stage' : Stage) (sent : List Forth) (place' : Place) : Prop where
  forth : place'.forth = place.forth ++ sent
  back : place'.back = if got.isSome then [] else place.back
  due : place'.due = place.due
  phase : Phase stage' place' handled (heard ∧ stage' ≠ .idle)
  ended : stage ≠ .idle → stage' = .idle → ¬ renews → heard
  prompt : (got = some .accept → follows) → Prompt place handled → Prompt place' handled

theorem Phase.sender (h : Phase stage place handled heard)
    (hm : SenderMove follows renews stage got stage' sent) (hgot : ∀ t ∈ got, place.back = [t])
    (hquiet : got = none → sent ≠ [] → place = .nowhere)
    (hrenews : renews → place = .nowhere ∧ ¬ handled) :
    ∃ place', SenderAt follows renews stage place handled heard got stage' sent place' := by
  cases hm with
  | rest =>
    refine ⟨place, by simp, by simp, rfl, ?_, fun h h' ↦ (h h').elim, fun _ h ↦ h⟩
    cases h with
    | idle hno hun => exact .idle hno (by simp [hun])
    | offered hp h => exact .offered hp (by simpa using h)
    | taken hp h h' => exact .taken hp h (by simpa using h')
    | declined h h' => exact .declined h (by simpa using h')
    | confirmed hp h => exact .confirmed hp (by simpa using h)
    | closing hp h h' => exact .closing hp h (by simpa using h')
    | dropped h => exact .dropped (by simpa using h)
  | offers hsent =>
    cases h with
    | idle hno hun =>
      rcases hsent with rfl | rfl
      · exact ⟨.nowhere, rfl, rfl, rfl, .offered (.inl rfl) (by simp [hno, hun]),
          fun h ↦ (h rfl).elim, fun _ h ↦ h⟩
      · exact ⟨.offer, rfl, rfl, rfl, .offered (.inr rfl) (by simp [hno, hun]),
          fun h ↦ (h rfl).elim, fun _ _ _ ↦ hno⟩
  | repeats =>
    obtain rfl := hquiet rfl (by simp)
    cases h with
    | offered hp h =>
      exact ⟨.offer, rfl, rfl, rfl, .offered (.inr rfl) (by simpa using h), by simp,
        fun _ h _ ↦ h (.inl rfl)⟩
    | taken hp => simp at hp
  | reconfirms =>
    obtain rfl := hquiet rfl (by simp)
    cases h with
    | confirmed hp h =>
      exact ⟨.confirm, rfl, rfl, rfl, .confirmed (.inr rfl) (by simpa using h), by simp,
        by simp [Prompt]⟩
    | closing hp => simp at hp
  | confirms =>
    obtain ⟨-, rfl, -, hheard⟩ := h.of_accept (hgot _ rfl)
    exact ⟨.confirm, rfl, rfl, rfl, .confirmed (.inr rfl) (by simpa using hheard), by simp,
      by simp [Prompt]⟩
  | drops hno =>
    obtain ⟨-, rfl, -, hheard⟩ := h.of_accept (hgot _ rfl)
    exact ⟨.nowhere, rfl, rfl, rfl, .dropped (by simpa using hheard), by simp,
      fun h ↦ (hno (h rfl)).elim⟩
  | declined =>
    obtain ⟨-, rfl, hnot, hheard⟩ := h.of_decline (hgot _ rfl)
    exact ⟨.nowhere, rfl, rfl, rfl, .idle hnot (by simp), fun _ _ _ ↦ hheard, fun _ _ _ ↦ hnot⟩
  | finished =>
    obtain ⟨-, rfl, hnot, hheard⟩ := h.of_finish (hgot _ rfl)
    exact ⟨.nowhere, rfl, rfl, rfl, .idle hnot (by simp), fun _ _ _ ↦ hheard, fun _ _ _ ↦ hnot⟩
  | resets hren =>
    obtain ⟨rfl, hnot⟩ := hrenews hren
    exact ⟨.nowhere, rfl, rfl, rfl, .idle hnot (by simp), fun _ _ h ↦ (h hren).elim,
      fun _ _ _ ↦ hnot⟩

/-- Where the item is on its way, the receiver keeps track of it exactly if it was told of it. -/
theorem Phase.of_offer (h : Phase stage place handled heard) (hp : place.forth = [.offer]) :
    stage = .offering ∧ place = .offer ∧ (handled ↔ heard) := by
  cases h with
  | offered hp' hiff =>
    rcases hp' with rfl | rfl
    · cases hp
    · exact ⟨rfl, rfl, hiff⟩
  | taken hp' | confirmed hp' | closing hp' => rcases hp' with rfl | rfl <;> cases hp
  | _ => cases hp

theorem Phase.of_confirm (h : Phase stage place handled heard) (hp : place.forth = [.confirm]) :
    stage = .confirming ∧ place = .confirm ∧ heard := by
  cases h with
  | confirmed hp' hheard =>
    rcases hp' with rfl | rfl
    · cases hp
    · exact ⟨rfl, rfl, hheard⟩
  | taken hp' | offered hp' | closing hp' => rcases hp' with rfl | rfl <;> cases hp
  | _ => cases hp

theorem Phase.of_answer (h : Phase stage place handled heard) (hp : place.due = [.answer]) :
    stage = .offering ∧ place = .answer ∧ handled ∧ heard := by
  cases h with
  | taken hp' hyes hheard =>
    rcases hp' with rfl | rfl
    · exact ⟨rfl, rfl, hyes, hheard⟩
    · cases hp
  | confirmed hp' | offered hp' | closing hp' => rcases hp' with rfl | rfl <;> cases hp
  | _ => cases hp

theorem Phase.of_closing (h : Phase stage place handled heard) (hp : place.due = [.finish]) :
    stage = .confirming ∧ place = .closing ∧ ¬ handled ∧ heard := by
  cases h with
  | closing hp' hno hheard =>
    rcases hp' with rfl | rfl
    · exact ⟨rfl, rfl, hno, hheard⟩
    · cases hp
  | confirmed hp' | offered hp' | taken hp' => rcases hp' with rfl | rfl <;> cases hp
  | _ => cases hp

structure ReceiverAt (stage : Stage) (place : Place) (handled heard : Prop) (took : Option Forth)
    (handled' told : Prop) (reply : List Back) (due : List Due) (place' : Place) : Prop where
  forth : place'.forth = if took.isSome then [] else place.forth
  back : place'.back = place.back ++ reply
  due : place'.due = due
  phase : Phase stage place' handled' (heard ∨ told)
  once : told → stage ≠ .idle ∧ ¬ heard
  known : took = some .offer → handled → heard
  prompt : Prompt place handled → Prompt place' handled'

theorem Phase.receiver (h : Phase stage place handled heard)
    (hm : ReceiverMove decides handled place.due took handled' told reply due)
    (htook : ∀ t ∈ took, place.forth = [t]) :
    ∃ place', ReceiverAt stage place handled heard took handled' told reply due place' := by
  generalize hdue : place.due = owed at hm
  cases hm with
  | rest hsame hno =>
    refine ⟨place, by simp, by simp, hdue, ?_, fun h ↦ (hno h).elim, by simp,
      fun hp hn ↦ hsame.not.mpr (hp hn)⟩
    cases h with
    | idle h h' => exact .idle (hsame.not.mpr h) (by simp [h', hno])
    | offered hp h => exact .offered hp (by rw [hsame, h, or_iff_left hno])
    | taken hp h h' => exact .taken hp (hsame.mpr h) (.inl h')
    | declined h h' => exact .declined (hsame.not.mpr h) (.inl h')
    | confirmed hp h => exact .confirmed hp (.inl h)
    | closing hp h h' => exact .closing hp (hsame.not.mpr h) (.inl h')
    | dropped h => exact .dropped (.inl h)
  | accepts hsame hno =>
    obtain ⟨rfl, rfl, hyes, hheard⟩ := h.of_answer hdue
    exact ⟨.accept, rfl, rfl, rfl, .taken (.inr rfl) (hsame.mpr hyes) (.inl hheard),
      fun h ↦ (hno h).elim, nofun, by simp [Prompt]⟩
  | declines hdecides hnot hno =>
    obtain ⟨rfl, rfl, -, hheard⟩ := h.of_answer hdue
    exact ⟨.decline, rfl, rfl, rfl, .declined hnot (.inl hheard), fun h ↦ (hno h).elim, nofun,
      by simp [Prompt]⟩
  | finishes hsame hno =>
    obtain ⟨rfl, rfl, hnot, hheard⟩ := h.of_closing hdue
    exact ⟨.finish, rfl, rfl, rfl, .closing (.inr rfl) (hsame.not.mpr hnot) (.inl hheard),
      fun h ↦ (hno h).elim, nofun, by simp [Prompt]⟩
  | answers hyes htold =>
    obtain ⟨rfl, rfl, hiff⟩ := h.of_offer (htook _ rfl)
    have hheard : heard ∨ told := by rw [htold, hiff]; exact em heard
    exact ⟨.accept, rfl, rfl, rfl, .taken (.inr rfl) hyes hheard,
      fun h ↦ ⟨nofun, hiff.not.mp (htold.mp h)⟩, fun _ h ↦ hiff.mp h, by simp [Prompt]⟩
  | takes hyes htold hnot =>
    obtain ⟨rfl, rfl, hiff⟩ := h.of_offer (htook _ rfl)
    exact ⟨.answer, rfl, rfl, rfl, .taken (.inl rfl) hyes (.inr htold),
      fun _ ↦ ⟨nofun, hiff.not.mp hnot⟩, fun _ h ↦ hiff.mp h, by simp [Prompt]⟩
  | repeats hyes hno hhandled =>
    obtain ⟨rfl, rfl, hiff⟩ := h.of_offer (htook _ rfl)
    have hheard := hiff.mp hhandled
    exact ⟨.nowhere, rfl, rfl, rfl, .offered (.inl rfl) (by simp [hyes, hheard]),
      fun h ↦ (hno h).elim, fun _ _ ↦ hheard, fun hp ↦ (hp (.inr rfl) hhandled).elim⟩
  | refuses hsame hno =>
    obtain ⟨rfl, rfl, hiff⟩ := h.of_offer (htook _ rfl)
    exact ⟨.nowhere, rfl, rfl, rfl, .offered (.inl rfl) (by rw [hsame, hiff, or_iff_left hno]),
      fun h ↦ (hno h).elim, fun _ h ↦ hiff.mp h, fun hp _ ↦ hsame.not.mpr (hp (.inr rfl))⟩
  | closes hnot hno =>
    obtain ⟨rfl, rfl, hheard⟩ := h.of_confirm (htook _ rfl)
    exact ⟨.closing, rfl, rfl, rfl, .closing (.inl rfl) hnot (.inl hheard),
      fun h ↦ (hno h).elim, nofun, by simp [Prompt]⟩
  | ends hnot hno =>
    obtain ⟨rfl, rfl, hheard⟩ := h.of_confirm (htook _ rfl)
    exact ⟨.finish, rfl, rfl, rfl, .closing (.inr rfl) hnot (.inl hheard),
      fun h ↦ (hno h).elim, nofun, by simp [Prompt]⟩

/-- Without an arrival and without anything owed, the receiver does nothing. -/
theorem ReceiverMove.of_quiet {due' : List Due}
    (h : ReceiverMove decides handled [] none handled' told reply due') :
    reply = [] ∧ due' = [] ∧ (handled' ↔ handled) := by
  cases h with
  | rest hsame => exact ⟨rfl, rfl, hsame⟩

theorem ReceiverMove.of_confirm {due' : List Due}
    (h : ReceiverMove decides handled due (some .confirm) handled' told reply due') : ¬ handled' := by
  cases h with
  | closes hno | ends hno => exact hno

theorem SenderAt.declined (h : SenderAt follows renews stage place handled heard got stage' sent .decline) :
    place = .decline := by
  have hback := h.back
  split at hback
  · cases hback
  · exact Place.eq_decline hback.symm

theorem ReceiverAt.declined
    (hm : ReceiverMove decides handled place.due took handled' told reply due)
    (h : ReceiverAt stage place handled heard took handled' told reply due .decline) :
    decides ∨ place = .decline := by
  have hback : [.decline] = place.back ++ reply := h.back
  rw [List.singleton_eq_append_iff] at hback
  generalize place.due = owed at hm
  cases hm with
  | declines hdecides => exact .inl hdecides
  | _ =>
    right
    apply Place.eq_decline
    rcases hback with ⟨-, h⟩ | ⟨h, -⟩
    · cases h
    · exact h

/-- What is on its way gets lost, and the receiver owes nothing any more. -/
theorem Phase.lost (h : Phase stage place handled heard) (hplace : place ≠ .decline) :
    Phase stage .nowhere handled heard := by
  cases h with
  | idle h h' => exact .idle h h'
  | offered _ h => exact .offered (.inl rfl) h
  | taken _ h h' => exact .offered (.inl rfl) (by simp [h, h'])
  | declined => exact (hplace rfl).elim
  | confirmed _ h => exact .confirmed (.inl rfl) h
  | closing _ _ h => exact .confirmed (.inl rfl) h
  | dropped h => exact .dropped h

/-- What the receiver keeps track of, it was told of; and the sender is not idle. -/
theorem Phase.of_handled (h : Phase stage place handled heard) (hh : handled) :
    stage ≠ .idle ∧ heard := by
  cases h with
  | idle hno => exact (hno hh).elim
  | offered _ h => exact ⟨nofun, h.mp hh⟩
  | taken _ _ h => exact ⟨nofun, h⟩
  | declined hno | closing _ hno => exact (hno hh).elim
  | confirmed _ h => exact ⟨nofun, h⟩
  | dropped h => exact ⟨nofun, h⟩

/-- What the receiver keeps track of, and what is neither nowhere nor on its way to it. -/
theorem Phase.of_kept (h : Phase stage place handled heard) (hh : handled)
    (hp : ¬ (place = .nowhere ∨ place = .offer)) :
    place = .answer ∨ place = .accept ∨ place = .confirm := by
  cases h with
  | idle | dropped => exact (hp (.inl rfl)).elim
  | offered hplace => exact (hp hplace).elim
  | taken hplace => exact hplace.imp_right .inl
  | declined hno | closing _ hno => exact (hno hh).elim
  | confirmed hplace => exact .inr (.inr (hplace.resolve_left fun h ↦ hp (.inl h)))

/-- The receiver was told only of what the sender is not done with. -/
theorem Phase.of_heard (h : Phase stage place handled heard) (hh : heard) : stage ≠ .idle := by
  cases h with
  | idle _ hno => exact (hno hh).elim
  | _ => exact nofun

end MqttProtocolCore.General
