import MqttProtocolCore.Connection.AliasHistory
import MqttProtocolCore.Connection.ClientRun
import MqttProtocolCore.Connection.Origin
import MqttProtocolCore.Connection.StepFrame
import MqttProtocolCore.Connection.Violation

namespace MqttProtocolCore.Connection.GenericConnection

open General Packet AliasHistory

variable {w : IdWidth} {c c' : GenericConnection w} {h : AliasHistory} {packet : GenericPacket w}
  {r : Handled w} {p : V50.Publish w}

theorem localFrames_topicAliasRecv :
    LocalFrames fun c c' : GenericConnection w ↦ c'.topicAliasRecv = c.topicAliasRecv where
  refl _ := rfl
  trans h h' := h'.trans h
  idle h := by rw [h]
  awaiting kind _ := by cases kind <;> rfl
  used _ := rfl
  counted _ := rfl
  handled _ := rfl
  cleared _ := rfl
  resent c := by
    unfold sendStored
    exact Outcome.Ensures.bind (P := fun _ ↦ True) (fun _ _ ↦ trivial)
      fun _ _ ↦ Outcome.ensures_ret.mpr rfl
  adjusted h := by rw [h]
  adds _ c := by
    unfold storeAdd
    exact Outcome.Ensures.bind (P := fun _ ↦ True) (fun _ _ ↦ trivial)
      fun _ _ ↦ Outcome.ensures_ret.mpr rfl
  erases _ _ _ := rfl

theorem describes_announceConnect (hd : h.Describes c.topicAliasRecv) (props : Properties) :
    (props.foldl announce h).Describes (props.foldl announceConnect c).topicAliasRecv := by
  induction props generalizing c h with
  | nil => exact hd
  | cons prop props ih =>
    rw [List.foldl_cons, List.foldl_cons]
    apply ih
    cases prop with
    | topicAliasMaximum v =>
      dsimp only [announce, announceConnect]
      split
      · exact describes_new ‹_›
      · exact hd
    | sessionExpiryInterval v =>
      dsimp only [announce, announceConnect]
      split <;> exact hd
    | _ => exact hd

theorem describes_announceAll (hd : h.Describes c.topicAliasRecv) (props : Properties) :
    (props.foldl announce h).Describes (c.announceAll announceConnack props).1.topicAliasRecv := by
  induction props generalizing c h with
  | nil => exact hd
  | cons prop props ih =>
    rw [List.foldl_cons]
    dsimp only [announceAll]
    apply ih
    cases prop with
    | topicAliasMaximum v =>
      dsimp only [announce, announceConnack]
      split
      · exact describes_new ‹_›
      · exact hd
    | serverKeepAlive v =>
      dsimp only [announce, announceConnack]
      split <;> exact hd
    | _ => exact hd

def Leaves (h : AliasHistory) (packet : GenericPacket w) (r : Handled w) : Prop :=
  (if packet ∈ requested r.2 then h.sent packet else h).Describes r.1.topicAliasRecv

theorem leaves_reject (hd : h.Describes c.topicAliasRecv) (e : MqttError) :
    Leaves h packet (c.reject e) := by
  unfold Leaves
  rw [if_neg (by simp [reject])]
  exact hd

theorem leaves_sent {packet : GenericPacket w} (hp : packet ∈ requested r.2)
    (hd : (h.sent packet).Describes r.1.topicAliasRecv) : Leaves h packet r := by
  unfold Leaves
  rwa [if_pos hp]

theorem leaves_request (hd : (h.sent packet).Describes c.topicAliasRecv) :
    Leaves h packet (c.request packet none) := by
  refine leaves_sent (by simp) ?_
  have hsame : (c.request packet none).1.topicAliasRecv = c.topicAliasRecv :=
    localFrames_topicAliasRecv.request
  rwa [hsame]

theorem leaves_finishConnack {accepted : Bool} (hd : (h.sent packet).Describes c.topicAliasRecv) :
    (c.finishConnack accepted packet).Ensures (Leaves h packet) := by
  intro r hr
  have hsame : r.1.topicAliasRecv = c.topicAliasRecv :=
    localFrames_topicAliasRecv.finishConnack r hr
  refine leaves_sent ?_ (by rwa [hsame])
  unfold finishConnack at hr
  split at hr
  · obtain rfl := Outcome.ret.inj hr
    simp
  · obtain ⟨r', -, hret⟩ := Outcome.bind_eq_ret.mp hr
    obtain rfl := Outcome.ret.inj hret
    simp

/-- A packet that is sent leaves the aliases that the history tells. -/
theorem leaves_send (hd : h.Describes c.topicAliasRecv) (packet : GenericPacket w) :
    (c.send packet).Ensures (Leaves h packet) := by
  have hreject (e : MqttError) : (Outcome.ret (c.reject e)).Ensures (Leaves h packet) :=
    Outcome.ensures_ret.mpr (leaves_reject hd e)
  unfold send
  split
  · exact hreject _
  by_cases hopen : partOf packet = .connect ∨ partOf packet = .connack
  swap
  · obtain ⟨hconnect, hconnack⟩ := not_or.mp hopen
    refine (localFrames_topicAliasRecv.processSend (fun _ _ ↦ rfl) (fun _ {c c'} h ↦ by rw [h]) hconnect
      hconnack).mono fun r hr ↦ ?_
    have hsent : h.sent packet = h := by
      cases packet with
      | v311Connect | v50Connect => exact (hconnect rfl).elim
      | v50Connack => exact (hconnack rfl).elim
      | _ => rfl
    unfold Leaves
    rw [hsent, ite_self, hr]
    exact hd
  have hrole {q : Prop} [Decidable q] {x : Outcome (Handled w)} (hx : x.Ensures (Leaves h packet)) :
      (if q then x else .ret (c.reject .packetNotAllowedToSend)).Ensures (Leaves h packet) := by
    split
    · exact hx
    · exact hreject _
  have hstatus {q : Prop} [Decidable q] {x : Outcome (Handled w)}
      (hx : x.Ensures (Leaves h packet)) :
      (if q then .ret (c.reject .packetNotAllowedToSend) else x).Ensures (Leaves h packet) := by
    split
    · exact hreject _
    · exact hx
  have hlimited {size : ℕ} {x : Outcome (Handled w)} (hx : x.Ensures (Leaves h packet)) :
      (c.limited size x).Ensures (Leaves h packet) := by
    unfold limited
    split
    · exact hx
    · exact hreject _
  cases packet with
  | v311Connect p =>
    refine hrole (Outcome.ensures_ret.mpr ?_)
    unfold processSendV311Connect
    split
    · exact leaves_reject hd _
    · refine leaves_request ?_
      split <;> exact describes_empty
  | v50Connect p =>
    refine hrole (hlimited (hstatus (Outcome.ensures_ret.mpr (leaves_request ?_))))
    refine describes_announceConnect ?_ p.props
    split <;> exact describes_empty
  | v311Connack p => exact hrole (hstatus (leaves_finishConnack hd))
  | v50Connack p =>
    refine hrole (hlimited (hstatus ?_))
    dsimp only
    have hquiet : requested (if decide (p.reasonCode = .success) = true then
        c.announceAll announceConnack p.props else (c, [])).2 = [] := by
      split
      · exact (announceAll_announceConnack p.props).2.requested
      · rfl
    refine Outcome.Ensures.bind (leaves_finishConnack (h := h) ?_) fun r hr ↦ Outcome.ensures_ret.mpr ?_
    · dsimp only [sent]
      by_cases hacc : p.reasonCode = .success
      · simp only [hacc, decide_true, if_true]
        exact describes_announceAll hd p.props
      · simpa [hacc] using hd
    · unfold Leaves at hr ⊢
      rwa [requested_append, hquiet, List.nil_append]
  | _ => simp [partOf] at hopen

/-- A PUBLISH is answered with an error: it is not handed over, and the aliases stay. -/
structure Turned (c : GenericConnection w) (e : MqttError) (r : Handled w) : Prop where
  notified : notified r.2 = []
  error : e ∈ errors r.2
  reason : c.canDisconnect → ∃ d, .v50Disconnect d ∈ requested r.2 ∧
    d.reasonCode = some e.toDisconnectReasonCode
  aliases : r.1.topicAliasRecv = c.topicAliasRecv

theorem turned_handleV50Error (hc : Admitted c c') (e : MqttError) :
    (c'.handleV50Error e).Ensures (Turned c e) := by
  have haliases : c'.topicAliasRecv = c.topicAliasRecv := by rw [hc]
  have hcan : c'.canDisconnect = c.canDisconnect := by
    rw [hc]
    rfl
  rcases c'.handleV50Error_cases e with ⟨-, d, hcode, hr⟩ | ⟨hno, e', hr⟩
  · rw [hr]
    refine Outcome.ensures_ret.mpr ⟨?_, by simp, fun _ ↦ ⟨d, by simp, hcode⟩, haliases⟩
    simp [timersOnly_cancelTimers.notified]
  · rw [hr]
    exact Outcome.ensures_ret.mpr ⟨rfl, by simp, fun h ↦ (hno (hcan ▸ h)).elim, haliases⟩

inductive Topical (c : GenericConnection w) (h : AliasHistory) (p : V50.Publish w)
    (r : Handled w) : Prop where
  | exceeded : ¬ c.admits p → Turned c .receiveMaximumExceeded r → Topical c h p r
  | invalid : c.admits p → ¬ c.Resolves p → Turned c .topicAliasInvalid r → Topical c h p r
  | named {q : V50.Publish w} : c.admits p → h.Named p q → notified r.2 ⊆ [.v50Publish q] →
      (h.told p).Describes r.1.topicAliasRecv → Topical c h p r

theorem topical_recvV50Publish (hd : h.Describes c.topicAliasRecv) (p : V50.Publish w) :
    (c.recvV50Publish p).Ensures (Topical c h p) := by
  obtain ⟨o, ho, hnone, hframe⟩ := c.admitPublish_spec p
  unfold recvV50Publish
  rw [ho, Outcome.ret_bind]
  cases o with
  | none =>
    have hsame : Admitted c c := rfl
    exact (turned_handleV50Error hsame _).mono fun r hr ↦ .exceeded (hnone.mp rfl) hr
  | some a =>
    obtain ⟨admission, c₁⟩ := a
    have hc₁ : Admitted c c₁ := hframe _ rfl
    have hadmits : c.admits p := by simpa using hnone
    have hd₁ : h.Describes c₁.topicAliasRecv := by
      rw [hc₁]
      exact hd
    have hresolves : c₁.Resolves p ↔ c.Resolves p := by
      rw [hc₁]
      exact Iff.rfl
    refine Outcome.Ensures.bind (fun _ hx ↦ resolveTopic_spec.of_ret hx) fun o ho ↦ ?_
    obtain ⟨-, hnone', hsome⟩ := ho
    cases o with
    | none =>
      refine (turned_handleV50Error hc₁ _).mono fun r hr ↦ .invalid hadmits ?_ hr
      rw [← hresolves]
      exact hnone'.mp rfl
    | some b =>
      obtain ⟨q, c₂⟩ := b
      have hres : c₁.Resolves p := by
        by_contra hno
        cases hnone'.mpr hno
      obtain ⟨hnamed, hd₂⟩ := hd₁.resolved hres (hsome q c₂ rfl)
      have hquiet : Emitting (fun _ ↦ True) (fun _ ↦ False)
          (c₂.respond admission.answer q.packetId) := emitting_respond fun _ _ ↦ trivial
      refine Outcome.Ensures.bind (P := fun r ↦ notified r.2 = [] ∧
        r.1.topicAliasRecv = c₂.topicAliasRecv) (fun r hr ↦ ⟨?_, ?_⟩) fun r hr ↦ ?_
      · exact List.eq_nil_iff_forall_not_mem.mpr fun x hx ↦ (hquiet.emits hr).notices x hx
      · exact Frames.respond ⟨localFrames_topicAliasRecv.toCoreFrames, fun _ _ ↦ rfl⟩ r hr
      have ht : notified r.1.refreshPingreqRecv.2 = [] := timersOnly_refreshPingreqRecv.notified
      have hidle : r.1.refreshPingreqRecv.1.topicAliasRecv = r.1.topicAliasRecv :=
        localFrames_topicAliasRecv.idle idle_refreshPingreqRecv
      have hdone : Topical c h p (r.1.refreshPingreqRecv.1, r.2 ++ r.1.refreshPingreqRecv.2 ++
          if admission.alreadyHandled then [] else [.notifyPacketReceived (.v50Publish q)]) := by
        refine .named hadmits hnamed ?_ ?_
        · rw [notified_append, notified_append, hr.1, ht]
          split <;> simp
        · dsimp only
          rw [hidle, hr.2]
          exact hd₂
      exact Outcome.ensures_ret.mpr hdone

/-- A packet that is delivered leaves the aliases that the history tells. -/
theorem describes_deliver (hd : h.Describes c.topicAliasRecv) (packet : GenericPacket w) :
    (c.deliver packet).Ensures fun r ↦ (h.received c packet).Describes r.1.topicAliasRecv := by
  have hsame {x : Outcome (Handled w)} (hp : h.received c packet = h)
      (hx : x.Ensures fun r ↦ r.1.topicAliasRecv = c.topicAliasRecv) :
      x.Ensures fun r ↦ (h.received c packet).Describes r.1.topicAliasRecv := by
    refine hx.mono fun r hr ↦ ?_
    rw [hp, hr]
    exact hd
  have hopened {c' : GenericConnection w} {packet : GenericPacket w}
      (hc : c'.topicAliasRecv = none) : empty.Describes (c'.received packet).1.topicAliasRecv := by
    have hreceived : (c'.received packet).1.topicAliasRecv = c'.topicAliasRecv :=
      localFrames_topicAliasRecv.received
    rw [hreceived, hc]
    exact describes_empty
  cases packet with
  | v311Connect p =>
    change (if _ then _ else _ : Outcome (Handled w)).Ensures _
    by_cases hs : c.status = .disconnected
    · rw [if_neg (not_not.mpr hs)]
      refine Outcome.ensures_ret.mpr ?_
      dsimp only [AliasHistory.received]
      rw [if_pos hs]
      unfold recvV311Connect
      dsimp only
      apply hopened
      split <;> split <;> rfl
    · rw [if_pos hs]
      exact hsame (if_neg hs) (localFrames_topicAliasRecv.refusal (c.handleV311Error_spec _))
  | v50Connect p =>
    change (if _ then _ else _ : Outcome (Handled w)).Ensures _
    by_cases hs : c.status = .disconnected
    · rw [if_neg (not_not.mpr hs)]
      dsimp only [AliasHistory.received]
      rw [if_pos hs]
      unfold recvV50Connect
      refine (learns_noteConnect p.props).bind fun c' hc' ↦ Outcome.ensures_ret.mpr ?_
      apply hopened
      rw [hc'.topicAliasRecv]
      split <;> split <;> rfl
    · rw [if_pos hs]
      exact hsame (if_neg hs) (localFrames_topicAliasRecv.refusal (c.handleV50Error_spec _))
  | v311Connack p =>
    refine hsame rfl ?_
    change (c.recvV311Connack p).Ensures _
    unfold recvV311Connack
    split
    · exact localFrames_topicAliasRecv.resumeSession.bind fun r hr ↦ Outcome.ensures_ret.mpr hr
    · exact Outcome.ensures_ret.mpr rfl
  | v50Connack p =>
    refine hsame rfl ?_
    change (c.recvV50Connack p).Ensures _
    unfold recvV50Connack
    split
    · refine (learns_noteAll p.props).bind fun r hr ↦ ?_
      refine localFrames_topicAliasRecv.resumeSession.bind fun r' hr' ↦ Outcome.ensures_ret.mpr ?_
      exact hr'.trans hr.topicAliasRecv
    · exact Outcome.ensures_ret.mpr rfl
  | v50Publish p =>
    refine (topical_recvV50Publish hd p).mono fun r hr ↦ ?_
    dsimp only [AliasHistory.received]
    cases hr with
    | exceeded ha ht =>
      rw [if_neg ha, ht.aliases]
      exact hd
    | invalid ha hno ht =>
      rw [if_pos ha, hd.told_eq hno, ht.aliases]
      exact hd
    | named ha _ _ hd' => rwa [if_pos ha]
  | _ =>
    exact hsame rfl (localFrames_topicAliasRecv.deliver (fun _ _ ↦ rfl) (by simp) (by simp [partOf])
      (by simp [partOf]))

/-- The aliases of the current network connection, read off the packets that went over it. -/
def readAliases (h : AliasHistory)
    (t : Transition (GenericConnection w) (Operation w) (Reply w)) : AliasHistory :=
  match t.input with
  | .notifyClosed => empty
  | .send packet => if packet ∈ requested t.output.toEvents then h.sent packet else h
  | .recv data =>
    match t.before.arrival data with
    | some (_, packet) => h.received t.before packet
    | none => h
  | _ => h

theorem arrival_of_delivered {b : PacketBuilder} {raw : RawPacket} {rest data : Bytes}
    {a : Version × GenericPacket w} (hfeed : c.packetBuilder.feed data = .ret (b, .complete raw, rest))
    (ha : c.arrived raw = some a) : c.arrival data = some a := by
  simp [arrival, hfeed, ha]

theorem describes_recv (hc : c.Reading) (hd : h.Describes c.topicAliasRecv) (data : Bytes) :
    (c.recv data).Ensures fun r ↦ match c.arrival data with
      | some (_, packet) => (h.received c packet).Describes r.1.1.topicAliasRecv
      | none => notified r.1.2 = [] ∧ r.1.1.topicAliasRecv = c.topicAliasRecv := by
  intro r hr
  cases recv_cases hc hr with
  | incomplete hfeed =>
    have ha : c.arrival data = none := by simp [arrival, hfeed]
    rw [ha]
    exact ⟨rfl, rfl⟩
  | malformed hfeed =>
    have ha : c.arrival data = none := by simp [arrival, hfeed]
    rw [ha]
    exact ⟨by simp [timersOnly_cancelTimers.notified], rfl⟩
  | refused hfeed harr href =>
    have ha : c.arrival data = none := by simp [arrival, hfeed, harr]
    rw [ha]
    obtain ⟨v, r', hr', hrefused, -⟩ := href.refused
    obtain rfl := Outcome.ret.inj hr'
    have hsame := localFrames_topicAliasRecv.idle hrefused.idle
    exact ⟨hrefused.notified, hsame⟩
  | @delivered b raw rest v packet r hfeed harr _ hdel =>
    rw [arrival_of_delivered hfeed harr]
    have hreceived : h.received ({ c with packetBuilder := b }.determine v) packet =
        h.received c packet := by
      cases packet <;> rfl
    have hd' : h.Describes ({ c with packetBuilder := b }.determine v).topicAliasRecv := hd
    have hdescribes := describes_deliver hd' packet r hdel
    rw [hreceived] at hdescribes
    exact hdescribes

theorem describes_step (hc : c.Reading) (hd : h.Describes c.topicAliasRecv) (op : Operation w) :
    (c.step op).Ensures fun r ↦
      (readAliases h ⟨c, op, r.1, r.2⟩).Describes r.1.topicAliasRecv := by
  have hlocal (hsend : ∀ packet, op ≠ .send packet) (hrecv : ∀ data, op ≠ .recv data)
      (hclosed : op ≠ .notifyClosed) (hread : ∀ r : GenericConnection w × Reply w,
        readAliases h ⟨c, op, r.1, r.2⟩ = h) : (c.step op).Ensures fun r ↦
          (readAliases h ⟨c, op, r.1, r.2⟩).Describes r.1.topicAliasRecv := by
    refine (localFrames_topicAliasRecv.step hsend hrecv hclosed).mono fun r hr ↦ ?_
    rw [hread, hr]
    exact hd
  cases op with
  | send packet => exact (leaves_send hd packet).bind fun r hr ↦ Outcome.ensures_ret.mpr hr
  | recv data =>
    refine (describes_recv hc hd data).bind fun r hr ↦ Outcome.ensures_ret.mpr ?_
    dsimp only [readAliases]
    cases ha : c.arrival data with
    | none =>
      rw [ha] at hr
      dsimp only at hr ⊢
      rw [hr.2]
      exact hd
    | some a =>
      rw [ha] at hr
      exact hr
  | notifyClosed =>
    refine notifyClosed_frame.bind fun r hr ↦ Outcome.ensures_ret.mpr ?_
    have hnone : r.1.topicAliasRecv = none := by
      rw [hr]
      rfl
    dsimp only [readAliases]
    rw [hnone]
    exact describes_empty
  | _ => exact hlocal (by simp) (by simp) (by simp) fun _ ↦ rfl

/-- Every PUBLISH that is handed over has a topic, its own or the one that its alias was given last
on the network connection; without one it is turned down and the aliases stay, as they do for what
cannot be read. -/
theorem topics_resolved {trace : List (Transition _ _ _)}
    (hrun : Run ((system w).monitor .empty readAliases) (fun _ _ ↦ True) trace (c, h))
    (op : Operation w) : (c.step op).Ensures fun r ↦
      (∀ q, .v50Publish q ∈ notified r.2.toEvents → ∃ data v p, op = .recv data ∧
        c.arrival data = some (v, .v50Publish p) ∧ h.Named p q) ∧
      ∀ data, op = .recv data →
        (c.arrival data = none → notified r.2.toEvents = [] ∧
          r.1.topicAliasRecv = c.topicAliasRecv) ∧
        ∀ v p, c.arrival data = some (v, .v50Publish p) → h.topicOf p = none →
          if c.admits p then Turned c .topicAliasInvalid (r.1, r.2.toEvents)
          else Turned c .receiveMaximumExceeded (r.1, r.2.toEvents) := by
  have hc : c.Reading := reachable_reading hrun.reachable_fst
  have hd : h.Describes c.topicAliasRecv := by
    have hinv := hrun.monitored (I := fun c h ↦ c.Reading ∧ h.Describes c.topicAliasRecv) ?_ ?_
    · exact hinv.2
    · rintro _ ⟨role, version, rfl⟩
      exact ⟨⟨[], .header⟩, describes_empty⟩
    · intro c h op hI _ r hr
      exact ⟨step_reading hI.1 op r hr, describes_step hI.1 hI.2 op r hr⟩
  have htopical {data : Bytes} {r : Handled w × Bytes} (hr : c.recv data = .ret r) {v : Version}
      {p : V50.Publish w} (ha : c.arrival data = some (v, .v50Publish p)) : Topical c h p r.1 := by
    cases recv_cases hc hr with
    | incomplete hfeed => simp [arrival, hfeed] at ha
    | malformed hfeed => simp [arrival, hfeed] at ha
    | refused hfeed harr => simp [arrival, hfeed, harr] at ha
    | @delivered b raw rest v' packet r hfeed harr _ hdel =>
      obtain ⟨rfl, rfl⟩ := Prod.mk.inj (Option.some.inj
        ((arrival_of_delivered hfeed harr).symm.trans ha))
      have hd' : h.Describes ({ c with packetBuilder := b }.determine v').topicAliasRecv := hd
      cases topical_recvV50Publish hd' p r hdel with
      | exceeded hno ht => exact .exceeded hno ⟨ht.notified, ht.error, ht.reason, ht.aliases⟩
      | invalid hyes hno ht => exact .invalid hyes hno ⟨ht.notified, ht.error, ht.reason, ht.aliases⟩
      | named hyes hn hq hd' => exact .named hyes hn hq hd'
  intro r hr
  refine ⟨fun q hq ↦ ?_, ?_⟩
  · cases (step_emits hc op r hr).notices _ hq with
    | @received data v packet _ ha hhanded =>
      obtain ⟨r', hr', hret⟩ := Outcome.bind_eq_ret.mp hr
      obtain rfl := Outcome.ret.inj hret
      obtain ⟨p, rfl⟩ : ∃ p, packet = .v50Publish p := by
        cases hhanded <;> exact ⟨_, rfl⟩
      refine ⟨data, v, p, rfl, ha, ?_⟩
      cases htopical hr' ha with
      | exceeded _ ht => exact absurd (ht.notified ▸ hq) List.not_mem_nil
      | invalid _ _ ht => exact absurd (ht.notified ▸ hq) List.not_mem_nil
      | named _ hn hsub _ =>
        have hmem := hsub hq
        simp only [List.mem_singleton, GenericPacket.v50Publish.injEq] at hmem
        exact hmem ▸ hn
  · rintro data rfl
    obtain ⟨r', hr', hret⟩ := Outcome.bind_eq_ret.mp hr
    obtain rfl := Outcome.ret.inj hret
    refine ⟨fun ha ↦ ?_, fun v p ha ht ↦ ?_⟩
    · have hnone := describes_recv hc hd data r' hr'
      rw [ha] at hnone
      exact hnone
    · cases htopical hr' ha with
      | exceeded hno hturned =>
        rw [if_neg hno]
        exact hturned
      | invalid hyes _ hturned =>
        rw [if_pos hyes]
        exact hturned
      | named _ hn => exact absurd (ht.symm.trans hn.topic) (by simp)

/-- A PUBLISH without a topic is handed over with the topic that its alias was given. -/
theorem topics_resolved_alias : ∃ (h : AliasHistory) (p q : V50.Publish .u16),
    p.topicName.isEmpty ∧ h.Named p q := by
  obtain ⟨⟨trace, c⟩, hrun, ⟨v, packet⟩, ha, p, hp, hempty, ⟨c', o⟩, hr, packet', hq, q,
      hq'⟩ :
      (clientRun (w := .u16) .v50 2 0 [3, 0x22, 0, 10] []
        [.recv [0x20, 3, 0, 0, 0], .recv [0x30, 7, 0, 1, 0x61, 3, 0x23, 0, 1]]).Attains fun r ↦
          (∃ a ∈ r.2.arrival [0x30, 6, 0, 0, 3, 0x23, 0, 1],
            ∃ p ∈ a.2.v50PublishOf, p.topicName.isEmpty ∧
            (r.2.step (.recv [0x30, 6, 0, 0, 3, 0x23, 0, 1])).Attains
              fun r' ↦ ∃ packet ∈ notified r'.2.toEvents, ∃ q ∈ packet.v50PublishOf, True) := by
    decide +kernel
  obtain ⟨_, hrun⟩ := monitor_of_clientRun .empty readAliases hrun
  obtain rfl := GenericPacket.v50PublishOf_eq_some.mp hp
  obtain rfl := GenericPacket.v50PublishOf_eq_some.mp hq'.1
  obtain ⟨data, v', p', hop, ha', hn⟩ := (topics_resolved hrun _ _ hr).1 q hq
  obtain rfl := Operation.recv.inj hop
  obtain ⟨rfl, hpacket⟩ := Prod.mk.inj (Option.some.inj ((Option.mem_def.mp ha).symm.trans ha'))
  obtain rfl := GenericPacket.v50Publish.inj hpacket
  exact ⟨_, p, q, hempty, hn⟩

/-- The alias 0 is malformed, and a PUBLISH beyond the receive maximum is turned down for that,
whatever its alias. -/
theorem alias_not_looked_at :
    (¬ ∀ (c : GenericConnection .u16) data b rest r, Reachable (system .u16) c →
      c.protocolVersion = .v50 → c.packetBuilder.feed data =
        .ret (b, .complete (rawPacket 0x30 [0, 1, 0x61, 3, 0x23, 0, 0]), rest) →
      c.step (.recv data) = .ret r → .topicAliasInvalid ∈ errors r.2.toEvents) ∧
    ¬ ∀ (c : GenericConnection .u16) h trace data v p r,
      Run ((system .u16).monitor .empty readAliases) (fun _ _ ↦ True) trace (c, h) →
      c.arrival data = some (v, .v50Publish p) → h.topicOf p = none →
      c.step (.recv data) = .ret r → .topicAliasInvalid ∈ errors r.2.toEvents := by
  refine ⟨fun hall ↦ ?_, fun hall ↦ ?_⟩
  · obtain ⟨⟨b, result, rest⟩, hfeed, hraw, r, hr, hno⟩ :
        ((new .client .u16 .v50).packetBuilder.feed [0x30, 7, 0, 1, 0x61, 3, 0x23, 0, 0]).Attains
          fun f ↦ f.2.1 = .complete (rawPacket 0x30 [0, 1, 0x61, 3, 0x23, 0, 0]) ∧
            ((new .client .u16 .v50).step (.recv [0x30, 7, 0, 1, 0x61, 3, 0x23, 0, 0])).Attains
              fun r ↦ ¬ .topicAliasInvalid ∈ errors r.2.toEvents := by
      decide +kernel
    obtain rfl : result = _ := hraw
    exact hno (hall _ _ b rest r (.init ⟨.client, .v50, rfl⟩) rfl hfeed hr)
  · obtain ⟨⟨trace, c⟩, hrun, ⟨v, packet⟩, ha, p, hp, ht, r, hr, hno⟩ :
        (clientRun (w := .u16) .v50 2 0 [3, 0x21, 0, 1] []
          [.recv [0x20, 3, 0, 0, 0], .recv [0x32, 6, 0, 1, 0x61, 0, 1, 0]]).Attains fun r ↦
            (∃ a ∈ r.2.arrival [0x32, 9, 0, 1, 0x61, 0, 2, 3, 0x23, 0, 1],
              ∃ p ∈ a.2.v50PublishOf, (r.1.foldl readAliases .empty).topicOf p = none ∧
              (r.2.step (.recv [0x32, 9, 0, 1, 0x61, 0, 2, 3, 0x23, 0, 1])).Attains fun r' ↦
                ¬ .topicAliasInvalid ∈ errors r'.2.toEvents) := by
      decide +kernel
    obtain ⟨_, hrun⟩ := monitor_of_clientRun .empty readAliases hrun
    obtain rfl := GenericPacket.v50PublishOf_eq_some.mp hp
    exact hno (hall c _ _ _ v p r hrun ha ht hr)

end MqttProtocolCore.Connection.GenericConnection
