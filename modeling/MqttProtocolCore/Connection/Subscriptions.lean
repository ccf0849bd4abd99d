import MqttProtocolCore.Connection.StepFrame
import MqttProtocolCore.Connection.Tracking

namespace MqttProtocolCore.Connection.GenericConnection

open General Packet

variable {w : IdWidth} {c : GenericConnection w} {packet : GenericPacket w} {id : PacketId w}
  {kind : AckKind} {input : Input w} {s : Session w} {rep : Report w}

theorem stepFrames_role : StepFrames fun c c' : GenericConnection w ↦ c'.role = c.role where
  refl _ := rfl
  trans h h' := h'.trans h
  idle h := by rw [h]
  awaiting kind _ := by cases kind <;> rfl
  used _ := rfl
  counted _ := rfl
  handled _ := rfl
  configured h := by rw [h]
  cleared _ := rfl
  resent c := by
    unfold sendStored
    exact Outcome.Ensures.bind (P := fun _ ↦ True) (fun _ _ ↦ trivial)
      fun _ _ ↦ Outcome.ensures_ret.mpr rfl
  realiased h := by rw [h]
  adjusted h := by rw [h]
  adds _ c := by
    unfold storeAdd
    exact Outcome.Ensures.bind (P := fun _ ↦ True) (fun _ _ ↦ trivial)
      fun _ _ ↦ Outcome.ensures_ret.mpr rfl
  erases _ _ _ := rfl

theorem foldl_restore_subscriptions (packets : List (GenericStorePacket w))
    (hk : ¬ Session.publishes kind) : (packets.foldl Session.restore s).awaits kind = s.awaits kind := by
  induction packets generalizing s with
  | nil => rfl
  | cons packet packets ih =>
    rw [List.foldl_cons, ih]
    unfold Session.restore
    split
    · rename_i kind' id hack _
      have hne : kind ≠ kind' := by
        rintro rfl
        exact hk (publishes_restoredAck hack)
      have hawait : (s.await kind' id).awaits kind = s.awaits kind := Function.update_of_ne hne _ _
      dsimp only
      split <;> exact hawait
    · rfl

/-- Only a SUBSCRIBE or an UNSUBSCRIBE that goes out begins to wait for its acknowledgement. -/
theorem Change.subscriptions (h : Change c input s rep) (hk : ¬ Session.publishes kind)
    (hout : ∀ packet, input = .send packet → packet ∈ rep.requested → subscriptionOf packet = none) :
    s.awaits kind ⊆ c.session.awaits kind := by
  have hawait {s : Session w} {kind' : AckKind} {u : PacketId w} (h : Session.publishes kind') :
      (s.await kind' u).awaits kind = s.awaits kind := by
    refine Function.update_of_ne ?_ _ _
    rintro rfl
    exact hk h
  have hsettle {s : Session w} {kind' : AckKind} {u : PacketId w} :
      (s.settle kind' u).awaits kind ⊆ s.awaits kind := by
    by_cases hkk : kind = kind'
    · subst hkk
      simp [Session.settle]
    · simp [Session.settle, hkk]
  have hopened {v : Version} {clean keeps : Bool} {quota : Option ℕ} :
      (c.session.opened v clean keeps quota).awaits kind ⊆ c.session.awaits kind := by
    cases clean <;> simp [Session.opened, Session.clear, hk]
  cases h with
  | subscribed hp => exact absurd (hout _ rfl (by simp)) (by simp [hp])
  | connectSent => exact hopened
  | connectReceived => exact hopened
  | connackSent _ _ hres => rw [hres.state]
  | connackResumes _ hres => rw [hres.state]
  | connackAnew => simp [Session.clear, hk]
  | @publishWithdrawn _ id qos _ _ _ _ _ hs =>
    have hq : Session.publishes (publishAck qos) := by cases qos <;> rfl
    change (Session.await _ _ _).awaits kind ⊆ _
    rw [hawait hq]
    rcases hs with ⟨-, rfl⟩ | ⟨-, -, _, -, -, rfl⟩ <;> exact fun _ h ↦ h
  | @published _ _ id qos _ _ _ _ _ hs =>
    have hq : Session.publishes (publishAck qos) := by cases qos <;> rfl
    rw [Session.counted_frame, hawait hq]
    rcases hs with ⟨-, rfl⟩ | ⟨-, -, _, -, -, rfl⟩ <;> exact fun _ h ↦ h
  | @pubrelSent _ _ s hp _ hs =>
    have hpub : Session.publishes .pubcomp := rfl
    have hkept : s.awaits kind = c.session.awaits kind := by
      rcases hs with ⟨-, rfl⟩ | ⟨-, -, _, -, rfl⟩ <;> rfl
    split
    · rw [hawait hpub, hkept]
    · rw [hkept]
  | acknowledged =>
    rw [Session.finished_frame]
    exact hsettle
  | pubrecFailed =>
    rw [Session.finished_frame]
    exact hsettle
  | pubrecReceived _ _ _ _ hs =>
    have hpub : Session.publishes .pubcomp := rfl
    rcases hs with ⟨-, -, rfl⟩ | ⟨-, -, _, -, -, ⟨-, rfl⟩ | ⟨-, -, _, -, rfl⟩⟩
    · exact hsettle
    · rw [hawait hpub]
      exact hsettle
    · rw [hawait hpub]
      exact hsettle
  | subscriptionAcked => exact hsettle
  | closed =>
    simp only [Session.closed]
    split
    · exact Set.empty_subset _
    · exact fun _ h ↦ h
  | restored => rw [foldl_restore_subscriptions _ hk]
  | _ => exact fun _ h ↦ h

theorem send_subscription_refused (hp : subscriptionOf packet = some (kind, id))
    (hrole : ¬ actsAsClient c.role) : ∃ e, c.send packet = .ret (c.reject e) := by
  unfold send
  split
  · exact ⟨_, rfl⟩
  · cases packet with
    | v311Subscribe | v50Subscribe | v311Unsubscribe | v50Unsubscribe => exact ⟨_, if_neg hrole⟩
    | _ => cases hp

theorem step_server (hc : c.Reading) (hrole : c.role = .server) (hk : ¬ Session.publishes kind)
    (hnone : ∀ id, id ∉ c.awaiting kind) (op : Operation w) :
    (c.step op).Ensures fun r ↦ ∀ id, id ∉ r.1.awaiting kind := by
  intro r hr id hid
  have hspec := step_spec hc op
  obtain ⟨-, c₀, hprep, hchange⟩ := hspec.of_ret hr
  have hsub := hchange.subscriptions hk ?_
  · have hid : id ∈ c₀.session.awaits kind := hsub hid
    rw [hprep.session] at hid
    exact hnone id hid
  · intro packet hin hmem
    obtain rfl := send_of_inputOf hin
    cases hp : subscriptionOf packet with
    | none => rfl
    | some a =>
      obtain ⟨e, he⟩ := send_subscription_refused hp (c := c) (by simp [actsAsClient, hrole])
      have hstep : c.step (.send packet) =
        (c.send packet >>= fun r ↦ Outcome.ret (r.1, Reply.events r.2)) := rfl
      rw [hstep, he] at hr
      cases hr
      exact absurd hmem List.not_mem_nil

theorem reachable_server (h : Reachable (system w) c) (hrole : c.role = .server)
    (hk : ¬ Session.publishes kind) : ∀ id, id ∉ c.awaiting kind := by
  induction h with
  | init h =>
    obtain ⟨role, version, rfl⟩ := h
    cases kind <;> simp [new, awaiting]
  | @step c c' op o hr hstep ih =>
    have hc := reachable_reading hr
    have hsame : c'.role = c.role := stepFrames_role.step hc op _ hstep
    exact step_server hc (hsame ▸ hrole) hk (ih (hsame ▸ hrole)) op _ hstep

end MqttProtocolCore.Connection.GenericConnection
