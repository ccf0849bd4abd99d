import MqttProtocolCore.Connection.AliasRecency
import MqttProtocolCore.Connection.AliasWords
import MqttProtocolCore.Connection.Resend

namespace MqttProtocolCore.Connection

open General Packet GenericConnection

variable {w : IdWidth}

namespace GenericConnection

variable {c c' : GenericConnection w} {packet : GenericPacket w} {p q : V50.Publish w} {max : U16}
  {op : Operation w} {h : AliasHistory}

def Fresh (max : U16) (aliases : Option TopicAliasSend) : Prop :=
  ∀ s, aliases = some s → s.max ≤ max ∧ ∀ a, s.peek a = none

def RenewsAliases (max : U16) (c c' : GenericConnection w) : Prop :=
  c'.topicAliasSend = c.topicAliasSend ∨ Fresh max c'.topicAliasSend

def AnnouncesWithin (max : U16) : GenericPacket w → Prop
  | .v50Connect p => ∀ v, .topicAliasMaximum v ∈ p.props → v ≤ max
  | .v50Connack p => ∀ v, .topicAliasMaximum v ∈ p.props → v ≤ max
  | _ => True

theorem fresh_none : Fresh max none := fun _ h ↦ by cases h

theorem fresh_new {v : U16} (hv : v ≤ max) :
    (TopicAliasSend.new v).Ensures fun s ↦ Fresh max (some s) := by
  intro s hs s' hs'
  obtain rfl := Option.some.inj hs'
  obtain ⟨-, hmax, hpeek⟩ := TopicAliasSend.new_spec.of_ret hs
  exact ⟨hmax.le.trans hv, hpeek⟩

theorem localFrames_renewsAliases : LocalFrames (RenewsAliases (w := w) max) where
  refl _ := .inl rfl
  trans h h' := by
    rcases h' with h' | h'
    · unfold RenewsAliases
      rwa [h']
    · exact .inr h'
  idle h := .inl (localFrames_topicAliasSend.idle h)
  awaiting kind ids := .inl (localFrames_topicAliasSend.awaiting kind ids)
  used man := .inl (localFrames_topicAliasSend.used man)
  counted n := .inl (localFrames_topicAliasSend.counted n)
  handled ids := .inl (localFrames_topicAliasSend.handled ids)
  cleared c := .inl (localFrames_topicAliasSend.cleared c)
  resent c := (localFrames_topicAliasSend.resent c).mono fun _ hr ↦ .inl hr
  adjusted h := .inl (localFrames_topicAliasSend.adjusted h)
  adds stored c := (localFrames_topicAliasSend.adds stored c).mono fun _ hr ↦ .inl hr
  erases response id c := .inl (localFrames_topicAliasSend.erases response id c)

theorem fresh_noteConnect {props : Properties} (hmax : ∀ v, .topicAliasMaximum v ∈ props → v ≤ max)
    (hf : Fresh max c.topicAliasSend) :
    (props.foldlM noteConnect c).Ensures fun c' ↦ Fresh max c'.topicAliasSend := by
  induction props generalizing c with
  | nil => exact Outcome.ensures_ret.mpr hf
  | cons prop props ih =>
    rw [List.foldlM_cons]
    refine Outcome.Ensures.bind (P := fun c' ↦ Fresh max c'.topicAliasSend) ?_
      fun c₁ h₁ ↦ ih (fun v hv ↦ hmax v (List.mem_cons_of_mem _ hv)) h₁
    cases prop with
    | topicAliasMaximum v =>
      exact (fresh_new (hmax v List.mem_cons_self)).bind fun s hs ↦ Outcome.ensures_ret.mpr hs
    | sessionExpiryInterval v =>
      refine Outcome.ensures_ret.mpr ?_
      split <;> exact hf
    | _ => exact Outcome.ensures_ret.mpr hf

theorem renews_noteAll {props : Properties} (hmax : ∀ v, .topicAliasMaximum v ∈ props → v ≤ max) :
    (c.noteAll props).Ensures fun r ↦ RenewsAliases max c r.1 := by
  induction props generalizing c with
  | nil => exact Outcome.ensures_ret.mpr (.inl rfl)
  | cons prop props ih =>
    unfold noteAll
    refine Outcome.Ensures.bind (P := fun r ↦ RenewsAliases max c r.1) ?_ fun r₁ h₁ ↦
      (ih fun v hv ↦ hmax v (List.mem_cons_of_mem _ hv)).bind fun r₂ h₂ ↦
        Outcome.ensures_ret.mpr (localFrames_renewsAliases.trans h₁ h₂)
    cases prop with
    | topicAliasMaximum v =>
      dsimp only [noteConnack]
      split
      · exact (fresh_new (hmax v List.mem_cons_self)).bind fun s hs ↦
          Outcome.ensures_ret.mpr (.inr hs)
      · exact Outcome.ensures_ret.mpr (.inl rfl)
    | serverKeepAlive v =>
      dsimp only [noteConnack]
      split
      · exact Outcome.ensures_ret.mpr (.inl rfl)
      · split <;> exact Outcome.ensures_ret.mpr (.inl rfl)
    | _ => exact Outcome.ensures_ret.mpr (.inl rfl)

theorem renews_deliver (hmax : AnnouncesWithin max packet) :
    (c.deliver packet).Ensures fun r ↦ RenewsAliases max c r.1 := by
  have hreceived {c' : GenericConnection w} {packet : GenericPacket w} :
      (c'.received packet).1.topicAliasSend = c'.topicAliasSend :=
    localFrames_topicAliasSend.received
  cases packet with
  | v311Connect p =>
    change (if _ then _ else _ : Outcome (Handled w)).Ensures _
    split
    · exact localFrames_renewsAliases.refusal (c.handleV311Error_spec _)
    · refine Outcome.ensures_ret.mpr (.inr ?_)
      unfold recvV311Connect
      dsimp only
      rw [hreceived]
      split <;> split <;> exact fresh_none
  | v50Connect p =>
    change (if _ then _ else _ : Outcome (Handled w)).Ensures _
    split
    · exact localFrames_renewsAliases.refusal (c.handleV50Error_spec _)
    · unfold recvV50Connect
      refine (fresh_noteConnect hmax ?_).bind fun c' hc' ↦ Outcome.ensures_ret.mpr (.inr ?_)
      · split <;> split <;> exact fresh_none
      · rw [hreceived]
        exact hc'
  | v311Connack p =>
    change (c.recvV311Connack p).Ensures _
    unfold recvV311Connack
    split
    · exact localFrames_topicAliasSend.resumeSession.bind fun r hr ↦ Outcome.ensures_ret.mpr (.inl hr)
    · exact Outcome.ensures_ret.mpr (.inl rfl)
  | v50Connack p =>
    change (c.recvV50Connack p).Ensures _
    unfold recvV50Connack
    split
    · refine (renews_noteAll hmax).bind fun r hr ↦ ?_
      refine localFrames_topicAliasSend.resumeSession.bind fun r' hr' ↦ Outcome.ensures_ret.mpr ?_
      exact localFrames_renewsAliases.trans hr (.inl hr')
    · exact Outcome.ensures_ret.mpr (.inl rfl)
  | _ =>
    exact localFrames_renewsAliases.deliver (fun _ _ ↦ .inl rfl) (fun _ _ _ ↦ .inl rfl) (by simp [partOf])
      (by simp [partOf])

/-- What an operation makes of the aliases of the sender, unless it opens or closes the network
connection or sends a PUBLISH of version 5.0. -/
theorem renewsAliases_step (hc : c.Reading) (hclosed : op ≠ .notifyClosed)
    (hconnect : ∀ packet, op = .send packet → partOf packet ≠ .connect)
    (hpublish : ∀ p, op ≠ .send (.v50Publish p))
    (hmax : ∀ data v packet, op = .recv data → c.arrival data = some (v, packet) →
      AnnouncesWithin max packet) :
    (c.step op).Ensures fun r ↦ RenewsAliases max c r.1 := by
  have hlocal (hsend : ∀ packet, op ≠ .send packet) (hrecv : ∀ data, op ≠ .recv data) :
      (c.step op).Ensures fun r ↦ RenewsAliases max c r.1 :=
    (localFrames_renewsAliases.step hsend hrecv hclosed).mono fun r hr ↦ hr
  cases op with
  | send packet =>
    refine Outcome.Ensures.bind (P := fun r ↦ RenewsAliases max c r.1) ?_
      fun r hr ↦ Outcome.ensures_ret.mpr hr
    have hno : ¬ ∃ p, packet = .v50Publish p := fun ⟨p, hp⟩ ↦ hpublish p (by rw [hp])
    exact (topicAliasSend_send hno (hconnect packet rfl)).mono fun r hr ↦ .inl hr
  | recv data =>
    refine Outcome.Ensures.bind (P := fun r ↦ RenewsAliases max c r.1.1) ?_
      fun r hr ↦ Outcome.ensures_ret.mpr hr
    refine localFrames_renewsAliases.recv hc data fun b v packet ha ↦ ?_
    exact renews_deliver (hmax data v packet rfl ha)
  | notifyClosed => exact (hclosed rfl).elim
  | _ => exact hlocal (by simp) (by simp)

end GenericConnection

end MqttProtocolCore.Connection
