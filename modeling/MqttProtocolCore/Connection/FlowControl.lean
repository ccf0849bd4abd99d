import MqttProtocolCore.Connection.ExactlyOnce
import MqttProtocolCore.Connection.Flight
import MqttProtocolCore.Connection.Swallow

namespace MqttProtocolCore.Connection.GenericConnection

open General Packet

variable {w : IdWidth} {c : GenericConnection w} {op : Operation w} {packet : GenericPacket w}
  {u id : PacketId w} {input : Input w} {flight : List (PacketId w)}

theorem takesPublish_of_sent {p : V50.Publish w} (hid : p.packetId = some id) :
    (c.send (.v50Publish p)).Ensures fun r ↦ errors r.2 = [] → c.takesPublish p id := by
  unfold send
  split
  · exact Outcome.ensures_ret.mpr (by simp [reject])
  change (c.processSendV50Publish p).Ensures _
  unfold processSendV50Publish limited
  split
  on_goal 2 => exact Outcome.ensures_ret.mpr (by simp [reject])
  rename_i hsize
  simp only [hid]
  split
  · exact (errors_refuse _ _).mono fun r hr he ↦ (hr he).elim
  rename_i hcan
  split
  · exact Outcome.ensures_ret.mpr (by simp [reject])
  rename_i hused
  have htakes (h : ¬ (c.storesPublish ∧ p.topicName.isEmpty ∧
      (c.validateTopicAlias (V50.topicAliasOf p.props)).1 = none)) : c.takesPublish p id :=
    ⟨by simpa using hsize, hcan, by simpa using hused, h⟩
  split
  · refine Outcome.Ensures.bind (fun _ hx ↦ (c.storablePublish_spec p).of_ret hx) ?_
    rintro ⟨stored, c'⟩ ⟨-, -, hstored⟩
    cases stored with
    | none => exact (errors_refuse _ _).mono fun r hr he ↦ (hr he).elim
    | some stored => exact fun _ _ _ ↦ htakes fun h ↦ hstored.2.1 h.2.1 h.2.2
  · rename_i hstores
    exact fun _ _ _ ↦ htakes fun h ↦ hstores h.1

/-- An operation after which the counter does not agree with the packets in flight. -/
def Unaccounts (c : GenericConnection w) (flight : List (PacketId w)) (op : Operation w) : Prop :=
  Miscounts c flight (c.inputOf op) ∧
    ∀ packet, op = .send packet → c.protocolVersion = packet.protocolVersion ∧ c.permits packet

theorem withdraws_prepared {c₀ : GenericConnection w} (h : Prepared c c₀) :
    c₀.withdraws packet = c.withdraws packet := by
  have ha : c₀.topicAliasSend = c.topicAliasSend := by rw [h.1]
  have hs : c₀.storesPublish = c.storesPublish := by
    rw [h.1]
    rfl
  have hq : c₀.quotaReached = c.quotaReached := by
    rw [h.1]
    rfl
  cases packet with
  | v50Publish p =>
    simp only [withdraws, refusesAlias, validateTopicAlias_congr ha,
      validateTopicAliasRange_congr ha, hs, hq]
    rfl
  | _ => rfl

theorem takesPublish_prepared {c₀ : GenericConnection w} {p : V50.Publish w} (h : Prepared c c₀) :
    c₀.takesPublish p id ↔ c.takesPublish p id := by
  have ha : c₀.topicAliasSend = c.topicAliasSend := by rw [h.1]
  unfold takesPublish
  rw [validateTopicAlias_congr ha, h.1]
  exact Iff.rfl

theorem miscounts_congr {c₀ : GenericConnection w} (h : Prepared c c₀)
    (hm : Miscounts c₀ flight input) : Miscounts c flight input := by
  have hwithdraws {packet : GenericPacket w} := @withdraws_prepared w c packet c₀ h
  have htakes {p : V50.Publish w} {id : PacketId w} := @takesPublish_prepared w c id c₀ p h
  cases hm with
  | withheld hid hq hc hw ht =>
    rw [hwithdraws] at hw
    rw [htakes] at ht
    rw [h.1] at hq hc
    exact .withheld hid hq hc hw ht
  | @resent packet _ _ _ hp hper hq hget hsize hcount =>
    rw [h.1] at hper hq hget hsize
    refine .resent hp ?_ hq hget hsize hcount
    cases packet <;> exact hper
  | resumed hp hq hget hsize hcount =>
    rw [h.1] at hq hget hsize
    exact .resumed hp hq hget hsize hcount
  | announced hp hq hbad =>
    rw [h.1] at hq hbad
    exact .announced hp hq hbad
  | @unmatched _ kind _ hack hmem hf hq hno =>
    rw [h.1] at hmem hq
    refine .unmatched hack ?_ hf hq hno
    cases kind <;> exact hmem
  | undecided hq hmem hs hf =>
    rw [h.1] at hmem hq
    exact .undecided hq hmem hs hf

theorem step_accounts (hc : c.Reading) (hI : Accounts c.session flight)
    (hok : ¬ Unaccounts c flight op) : (c.step op).Ensures fun r ↦
      Accounts r.1.session (readFlight flight ⟨c, op, r.1, r.2⟩) := by
  intro r hr
  by_cases hfit : ∀ packet, op = .send packet →
      c.protocolVersion = packet.protocolVersion ∧ c.permits packet
  · have hmis : ¬ Miscounts c flight (c.inputOf op) := fun h ↦ hok ⟨h, hfit⟩
    obtain ⟨-, c₀, hprep, hchange⟩ := (step_spec hc op).of_ret hr
    have hI₀ : Accounts c₀.session flight := by
      rw [hprep.session]
      exact hI.same rfl rfl
    refine hchange.accounts hI₀ (fun h ↦ hmis (miscounts_congr hprep h)) ?_ ?_
    · intro p hp
      obtain rfl := send_of_inputOf hp
      have hper := (hfit p rfl).2
      rw [hprep.1]
      cases p <;> exact hper
    · intro p id hp hid herr
      obtain rfl := send_of_inputOf hp
      obtain ⟨r', hr', hret⟩ := Outcome.bind_eq_ret.mp
        (show (c.send (.v50Publish p) >>= fun r ↦ Outcome.ret (r.1, Reply.events r.2)) = .ret r
          from hr)
      obtain rfl := Outcome.ret.inj hret
      have htakes := takesPublish_of_sent hid r' hr' herr
      exact (takesPublish_prepared hprep).mpr htakes
  · push Not at hfit
    obtain ⟨packet, rfl, hno⟩ := hfit
    obtain ⟨e, he⟩ := send_misfit fun h ↦ hno h.1 h.2
    have hstep : c.step (.send packet) =
        (c.send packet >>= fun r ↦ Outcome.ret (r.1, Reply.events r.2)) := rfl
    rw [hstep, he] at hr
    obtain rfl := Outcome.ret.inj hr
    have hquiet : readFlight flight ⟨c, .send packet, c, .events (c.reject e).2⟩ = flight :=
      inFlight_quiet (by simp [report, reject, Reply.toEvents])
        (by simp [report, reject, Reply.toEvents])
    exact hquiet.symm ▸ hI

def Finishes (c : GenericConnection w) : GenericPacket w → Prop
  | .v50Puback p => p.packetId ∈ c.pidPuback
  | .v50Pubcomp p => p.packetId ∈ c.pidPubcomp
  | .v50Pubrec p => p.packetId ∈ c.pidPubrec ∧ ¬ p.reasonCode.all (· = .success)
  | _ => False

/-- The counter is the number of the PUBLISH packets in flight, the quota of the peer covers it, and
no acknowledgement brings it below zero. -/
structure FlowKept (c : GenericConnection w) (flight : List (PacketId w)) : Prop where
  count : ∀ max, c.publishSendMax = some max → c.publishSendCount.val = flight.length
  bound : ∀ max, c.publishSendMax = some max → flight.length ≤ max.val
  vacancy : ∀ max, c.publishSendMax = some max →
    c.getReceiveMaximumVacancyForSend = some (max.val - flight.length)
  decrement : ∀ packet, c.Finishes packet → ¬ Miscounts c flight (.receive packet) →
    c.countFinished.Returns

theorem Accounts.flowKept (h : Accounts c.session flight) : FlowKept c flight := by
  have hwithin (max) (hmax : c.publishSendMax = some max) :
      c.publishSendCount.val = flight.length ∧ flight.length ≤ max.val :=
    h.within max.val (by simp [session, hmax])
  refine ⟨fun max hmax ↦ (hwithin max hmax).1, fun max hmax ↦ (hwithin max hmax).2,
    fun max hmax ↦ ?_, fun packet hfin hmis ↦ ?_⟩
  · simp [getReceiveMaximumVacancyForSend, hmax, (hwithin max hmax).1]
  · rw [countFinished_spec.returns_iff fun _ hs ↦ hs.1]
    rintro ⟨hq, h0⟩
    obtain ⟨q, hq⟩ := Option.isSome_iff_exists.mp hq
    have hempty : flight = [] := List.length_eq_zero_iff.mp ((h.within q hq).1.symm.trans h0)
    have hmax : c.publishSendMax.isSome := by
      have := Option.isSome_of_eq_some hq
      simpa [session] using this
    subst hempty
    cases packet with
    | v50Puback p => exact hmis (.unmatched rfl hfin rfl hmax List.not_mem_nil)
    | v50Pubcomp p => exact hmis (.unmatched rfl hfin rfl hmax List.not_mem_nil)
    | v50Pubrec p =>
      by_cases hfail : p.reasonCode.any PubrecReasonCode.isFailure
      · exact hmis (.unmatched rfl hfin.1 (if_pos hfail) hmax List.not_mem_nil)
      · exact hmis (.undecided hmax hfin.1 hfin.2 hfail)
    | _ => exact hfin

/-- In every run in which no step makes the counter disagree with the packets in flight, the flow
control accounts for them. -/
theorem flow_kept {trace : List (Transition _ _ _)}
    (h : Run ((system w).monitor [] readFlight) (fun p op ↦ ¬ Unaccounts p.1 p.2 op) trace
      (c, flight)) : FlowKept c flight := by
  suffices hinv : c.Reading ∧ Accounts c.session flight from hinv.2.flowKept
  refine h.monitored (I := fun c flight ↦ c.Reading ∧ Accounts c.session flight) ?_ ?_
  · rintro _ ⟨role, version, rfl⟩
    exact ⟨⟨[], .header⟩, fun _ ↦ rfl, fun q hq ↦ by cases hq⟩
  · intro c flight op ⟨hc, hI⟩ hok r hr
    exact ⟨step_reading hc op r hr, step_accounts hc hI hok r hr⟩

theorem flow_kept_publish : ∃ (c : GenericConnection .u16) (flight : List (PacketId .u16)),
    c.publishSendMax = some 10 ∧ flight = [1] ∧ FlowKept c flight := by
  obtain ⟨p, _, q, _, ⟨c₁, o₁⟩, h₁, hnil, ⟨c₂, o₂⟩, h₂, ⟨⟨v, packet⟩, ha, hconnack⟩, hnil',
      ⟨c₃, o₃⟩, h₃, hconn, ⟨c₄, o₄⟩, h₄, hmax, hone⟩ :
      (V50.Connect.parse [0, 4, 0x4d, 0x51, 0x54, 0x54, 5, 2, 0, 0, 0, 0, 1, 0x61]).unwrap.Attains
        fun p ↦ (V50.Publish.parse (w := .u16) 2 [0, 1, 0x61, 0, 1, 0]).unwrap.Attains fun q ↦
        ((new .client .u16 .v50).step (.send (.v50Connect p.1))).Attains fun r₁ ↦
          readFlight [] ⟨new .client .u16 .v50, .send (.v50Connect p.1), r₁.1, r₁.2⟩ = [] ∧
        (r₁.1.step (.recv [0x20, 6, 0, 0, 3, 0x21, 0, 10])).Attains fun r₂ ↦
          (∃ a ∈ r₁.1.arrival [0x20, 6, 0, 0, 3, 0x21, 0, 10], a.2.connackOf = some false) ∧
          readFlight [] ⟨r₁.1, .recv [0x20, 6, 0, 0, 3, 0x21, 0, 10], r₂.1, r₂.2⟩ = [] ∧
        (r₂.1.step .acquirePacketId).Attains fun r₃ ↦ r₃.1.status = .connected ∧
        (r₃.1.step (.send (.v50Publish q.1))).Attains fun r₄ ↦ r₄.1.publishSendMax = some 10 ∧
          readFlight (readFlight [] ⟨r₂.1, .acquirePacketId, r₃.1, r₃.2⟩)
            ⟨r₃.1, .send (.v50Publish q.1), r₄.1, r₄.2⟩ = [1] := by
    decide +kernel
  have hstart : Run ((system .u16).monitor [] readFlight)
      (fun p op ↦ ¬ Unaccounts p.1 p.2 op) [] (new .client .u16 .v50, []) :=
    .init ⟨⟨.client, .v50, rfl⟩, rfl⟩
  obtain ⟨_, hrun⟩ := run_step hstart (by rintro ⟨h, -⟩; cases h with | resent h => cases h) h₁
  rw [hnil] at hrun
  have hannounce : ¬ Unaccounts c₁ [] (.recv [0x20, 6, 0, 0, 3, 0x21, 0, 10]) := by
    rintro ⟨hmis, -⟩
    have hinput : c₁.inputOf (.recv [0x20, 6, 0, 0, 3, 0x21, 0, 10]) = .receive packet := by
      simp only [inputOf, Option.mem_def.mp ha, Option.map_some, Option.getD_some]
    rw [hinput] at hmis
    cases hmis with
    | resumed h => cases hconnack.symm.trans h
    | announced _ _ hbad => simp at hbad
    | unmatched h => cases (partOf_connack hconnack).symm.trans (partOf_ack h)
    | undecided => cases hconnack
  obtain ⟨_, hrun⟩ := run_step hrun hannounce h₂
  rw [hnil'] at hrun
  obtain ⟨_, hrun⟩ := run_step hrun (by rintro ⟨h, -⟩; cases h) h₃
  have hpublish (flight : List (PacketId .u16)) : ¬ Unaccounts c₃ flight (.send (.v50Publish q.1)) := by
    rintro ⟨hmis, -⟩
    cases hmis with
    | withheld _ _ hno => exact hno hconn
    | resent h => cases h
  obtain ⟨_, hrun⟩ := run_step hrun (hpublish _) h₄
  exact ⟨c₄, _, hmax, hone, flow_kept hrun⟩

/-- A PUBLISH that is resent on a new connection does not count against the receive maximum. -/
theorem resent_publish_uncounted : ¬ ∀ (c : GenericConnection .u16) (flight : List (PacketId .u16))
    trace, Run ((system .u16).monitor [] readFlight) (fun _ _ ↦ True) trace (c, flight) →
      FlowKept c flight := by
  intro h
  obtain ⟨p, _, q, _, ⟨trace, c⟩, hrun, hmax, hcount, hflight⟩ :
      (V50.Connect.parse [0, 4, 0x4d, 0x51, 0x54, 0x54, 5, 0, 0, 0, 5, 0x11, 0, 0, 0, 10, 0, 1,
        0x61]).unwrap.Attains fun p ↦
      (V50.Publish.parse (w := .u16) 2 [0, 1, 0x61, 0, 1, 0]).unwrap.Attains fun q ↦
        ((system .u16).run (new .client .u16 .v50)
          [.send (.v50Connect p.1), .recv [0x20, 6, 0, 0, 3, 0x21, 0, 1], .acquirePacketId,
            .send (.v50Publish q.1), .notifyClosed, .send (.v50Connect p.1),
            .recv [0x20, 6, 1, 0, 3, 0x21, 0, 1]]).Attains fun r ↦
          r.2.publishSendMax = some 1 ∧ r.2.publishSendCount.val = 0 ∧
            r.1.foldl readFlight [] = [1] := by
    decide +kernel
  have hinit : (system .u16).Init (new .client .u16 .v50) := ⟨.client, .v50, rfl⟩
  obtain ⟨_, hrun⟩ := @Run.monitor_run _ _ _ _ (system .u16) [] readFlight _ _ _ _ hinit hrun
  have hcounts := (h _ _ _ hrun).count 1 hmax
  rw [hcount, hflight] at hcounts
  cases hcounts

end MqttProtocolCore.Connection.GenericConnection
