import MqttProtocolCore.Connection.Emission

namespace MqttProtocolCore.Connection.GenericConnection

open General Packet

variable {w : IdWidth} {R N : GenericPacket w → Prop} {c c' : GenericConnection w}
  {packet : GenericPacket w} {id : PacketId w} {x : Outcome (Handled w)} {r : Handled w}
  {events : List (GenericEvent w)} {raw : RawPacket} {v : Version}

structure Neutral (v : Version) (q : GenericPacket w) : Prop where
  version : q.protocolVersion = v
  client : clientOnly q = false
  server : serverOnly q = false
  publish : partOf q ≠ .publish

/-- What the handler of a received packet can send for it by itself. -/
structure AutoReply (c : GenericConnection w) (v : Version) (q : GenericPacket w) : Prop where
  version : q.protocolVersion = v
  client : clientOnly q = false
  server : serverOnly q → c.answersPing
  publish : partOf q ≠ .publish

theorem Neutral.partOf {q : GenericPacket w} (h : Neutral v q) : partOf q ≠ .connack := by
  have hserver := h.server
  cases q <;> first | (cases hserver; done) | exact nofun

theorem Neutral.autoReply {q : GenericPacket w} (h : Neutral v q) : AutoReply c v q :=
  ⟨h.version, h.client, fun hs ↦ by simp [h.server] at hs, h.publish⟩

theorem emitting_handleV311Error (e : MqttError) : Emitting R N (c.handleV311Error e) :=
  emitting_ret (emits_quiet rfl rfl)

theorem emitting_handleV50Error (e : MqttError) (h : ∀ p, R (.v50Disconnect p)) :
    Emitting R N (c.handleV50Error e) := by
  apply emitting_after
  intro p
  refine Emitting.bind (emitting_limited (emitting_ret (emits_sendDisconnect (h p)))) ?_
  exact fun r hr ↦ emitting_ret (hr.append (emits_quiet rfl rfl))

theorem emitting_respondIf {q : Prop} [Decidable q] (h : q → Emitting R N x) :
    Emitting R N (c.respondIf q x) := by
  unfold respondIf
  split
  · exact h ‹_›
  · exact emitting_ret (emits_quiet rfl rfl)

theorem Emitting.thenReceived (h : Emitting R N x) (hN : N packet) : Emitting R N (x >>= fun r ↦
    .ret ((r.1.received packet).1, r.2 ++ (r.1.received packet).2)) :=
  h.bind fun _ hr ↦ emitting_ret (hr.append (emits_received hN))

theorem emitting_recvFinalAck {response : ResponsePacket} {kind : AckKind} {counted : Bool}
    {onError : GenericConnection w → MqttError → Outcome (Handled w)}
    (he : ∀ e, Emitting R N (onError c e)) (hN : N packet) :
    Emitting R N (c.recvFinalAck response kind counted onError id packet) := by
  unfold recvFinalAck
  split
  · refine emitting_releaseIfUsed.bind fun r hr ↦ ?_
    dsimp only
    split
    · exact emitting_after fun c' ↦ emitting_ret (hr.append (emits_received hN))
    · exact emitting_ret (hr.append (emits_received hN))
  · exact he _

theorem emitting_recvSubscriptionAck {kind : AckKind}
    {onError : GenericConnection w → MqttError → Outcome (Handled w)}
    (he : ∀ e, Emitting R N (onError c e)) (hN : N packet) :
    Emitting R N (c.recvSubscriptionAck kind onError id packet) := by
  unfold recvSubscriptionAck
  split
  · exact Emitting.thenReceived emitting_releaseIfUsed hN
  · exact he _

/-- The packet that is handed over for a received one: a PUBLISH may come with its topic. -/
inductive Handed : GenericPacket w → GenericPacket w → Prop where
  | same (packet : GenericPacket w) : Handed packet packet
  | extracted {p p' : V50.Publish w} {topic : Utf8String} :
      p.addExtractedTopicName topic = .ok p' → Handed (.v50Publish p) (.v50Publish p')

theorem handed_resolveTopic (p : V50.Publish w) : (c.resolveTopic p).Ensures fun o ↦
    ∀ r ∈ o, Handed (.v50Publish p) (.v50Publish r.1) := by
  have hnone : (Outcome.ret (none : Option (V50.Publish w × GenericConnection w))).Ensures
      fun o ↦ ∀ r ∈ o, Handed (.v50Publish p) (.v50Publish r.1) :=
    Outcome.ensures_ret.mpr fun r hr ↦ by cases hr
  have hsame (c' : GenericConnection w) : (Outcome.ret (some (p, c'))).Ensures
      fun o ↦ ∀ r ∈ o, Handed (.v50Publish p) (.v50Publish r.1) := by
    refine Outcome.ensures_ret.mpr fun r hr ↦ ?_
    obtain rfl := Option.mem_some.mp hr
    exact .same _
  unfold resolveTopic
  split
  · split
    · exact hnone
    · exact hsame c
  · split
    · exact hnone
    split
    · split
      · exact hnone
      · split
        · refine Outcome.ensures_ret.mpr fun r hr ↦ ?_
          obtain rfl := Option.mem_some.mp hr
          exact .extracted ‹_›
        · exact hnone
        · simp
    · exact Outcome.Ensures.bind (P := fun _ ↦ True) (fun _ _ ↦ trivial) fun a _ ↦ hsame _
  · exact hnone

theorem emitting_respond {answer : Answer} {id : Option (PacketId w)}
    (h : ∀ q, Neutral .v50 q → R q) : Emitting R N (c.respond answer id) := by
  unfold respond
  split
  · exact emitting_ret (emits_quiet rfl rfl)
  · exact emitting_after fun p ↦ emitting_answered (h _ ⟨rfl, rfl, rfl, nofun⟩)
  · exact emitting_after fun p ↦ emitting_answered (h _ ⟨rfl, rfl, rfl, nofun⟩)
  · simp [Emitting]

theorem Emitting.thenNotice {repeated : Bool} (hx : Emitting R N x) (hN : N packet) :
    Emitting R N (x >>= fun r ↦ .ret (r.1.refreshPingreqRecv.1, r.2 ++ r.1.refreshPingreqRecv.2 ++
      if repeated then [] else [.notifyPacketReceived packet])) := by
  refine hx.bind fun r hr ↦ emitting_ret ?_
  refine (hr.append (emits_timers timersOnly_refreshPingreqRecv)).append ?_
  split
  · exact emits_quiet rfl rfl
  · exact emits_notified hN

theorem emitting_recvV50Publish {p : V50.Publish w} (h : ∀ q, Neutral .v50 q → R q)
    (hN : ∀ q, Handed (.v50Publish p) q → N q) : Emitting R N (c.recvV50Publish p) := by
  have hdisconnect (p : V50.Disconnect) : R (.v50Disconnect p) := h _ ⟨rfl, rfl, rfl, nofun⟩
  unfold recvV50Publish
  apply emitting_after
  intro o
  cases o with
  | none => exact emitting_handleV50Error _ hdisconnect
  | some a =>
    refine (handed_resolveTopic p).bind fun o ho ↦ ?_
    cases o with
    | none => exact emitting_handleV50Error _ hdisconnect
    | some b => exact (emitting_respond h).thenNotice (hN _ (ho b rfl))

theorem emitting_recvV311Publish {p : V311.Publish w} (h : ∀ q, Neutral .v311 q → R q)
    (hN : N (.v311Publish p)) : Emitting R N (c.recvV311Publish p) := by
  unfold recvV311Publish
  split
  · exact emitting_ret (emits_received hN)
  · refine Emitting.thenReceived (emitting_respondIf fun _ ↦ emitting_after fun a ↦ ?_) hN
    exact emitting_ret (emits_sendConnected (h _ ⟨rfl, rfl, rfl, nofun⟩))
  · refine Emitting.thenNotice (emitting_respondIf fun _ ↦ emitting_after fun a ↦ ?_) hN
    exact emitting_ret (emits_sendConnected (h _ ⟨rfl, rfl, rfl, nofun⟩))
  · simp [Emitting]

theorem neutral_v311Pubrel {p : V311.Pubrel w} : Neutral .v311 (.v311Pubrel p) :=
  ⟨rfl, rfl, rfl, nofun⟩

theorem emitting_recvV311Pubrec {p : V311.Pubrec w} (h : ∀ q, Neutral .v311 q → R q)
    (hN : N (.v311Pubrec p)) : Emitting R N (c.recvV311Pubrec p) := by
  unfold recvV311Pubrec
  dsimp only
  split
  · refine Emitting.thenReceived (emitting_respondIf fun _ ↦ emitting_after fun a ↦ ?_) hN
    exact emitting_sendPubrel (h _ neutral_v311Pubrel)
  · exact emitting_handleV311Error _

theorem emitting_recvV50Pubrec {p : V50.Pubrec w} (h : ∀ p, R (.v50Pubrel p))
    (hclose : ∀ p, R (.v50Disconnect p)) (hN : N (.v50Pubrec p)) : Emitting R N (c.recvV50Pubrec p) := by
  unfold recvV50Pubrec
  dsimp only
  split
  · split
    · refine Emitting.thenReceived (emitting_respondIf fun _ ↦ emitting_after fun a ↦ ?_) hN
      exact emitting_limited (emitting_sendPubrel (h _))
    · refine emitting_releaseIfUsed.bind fun r hr ↦ emitting_after fun c' ↦ emitting_ret ?_
      exact hr.append (emits_received hN)
  · exact emitting_handleV50Error _ hclose

theorem emitting_recvV311Pubrel {p : V311.Pubrel w} (h : ∀ q, Neutral .v311 q → R q)
    (hN : N (.v311Pubrel p)) : Emitting R N (c.recvV311Pubrel p) := by
  refine Emitting.thenReceived (emitting_respondIf fun _ ↦ emitting_after fun a ↦ ?_) hN
  exact emitting_ret (emits_sendConnected (h _ ⟨rfl, rfl, rfl, nofun⟩))

theorem emitting_recvV50Pubrel {p : V50.Pubrel w} (h : ∀ q, Neutral .v50 q → R q)
    (hN : N (.v50Pubrel p)) : Emitting R N (c.recvV50Pubrel p) := by
  refine Emitting.thenReceived (emitting_respondIf fun _ ↦ emitting_after fun a ↦ ?_) hN
  exact emitting_answered (h _ ⟨rfl, rfl, rfl, nofun⟩)

theorem emitting_recvV311Pingreq {p : V311.Pingreq} (h : ∀ p, c.answersPing → R (.v311Pingresp p))
    (hN : N (.v311Pingreq p)) : Emitting R N (c.recvV311Pingreq p) := by
  refine Emitting.thenReceived (emitting_respondIf fun hping ↦ emitting_after fun a ↦ ?_) hN
  exact emitting_ret (emits_sendConnected (h _ hping))

theorem emitting_recvV50Pingreq {p : V311.Pingreq} (h : ∀ p, c.answersPing → R (.v50Pingresp p))
    (hN : N (.v50Pingreq p)) : Emitting R N (c.recvV50Pingreq p) := by
  refine Emitting.thenReceived (emitting_respondIf fun hping ↦ emitting_after fun a ↦ ?_) hN
  exact emitting_limited (emitting_ret (emits_sendConnected (h _ hping)))

theorem emitting_resumeSession {present : Bool} (hs : Sendable R c) :
    Emitting R N (c.resumeSession present) := by
  unfold resumeSession
  split
  · exact emitting_sendStored hs
  · exact emitting_ret (emits_quiet rfl rfl)

theorem emitting_recvV311Connack {p : V311.Connack} (hs : Sendable R c)
    (hN : N (.v311Connack p)) : Emitting R N (c.recvV311Connack p) := by
  unfold recvV311Connack
  split
  · have hs' : Sendable R ({ c with status := .connected } : GenericConnection w) := hs
    refine (emitting_resumeSession hs').bind fun r hr ↦ emitting_ret ?_
    exact hr.append (emits_notified hN)
  · exact emitting_ret (emits_notified hN)

theorem emitting_recvV50Connack {p : V50.Connack} (hs : Sendable R c)
    (hN : N (.v50Connack p)) : Emitting R N (c.recvV50Connack p) := by
  unfold recvV50Connack
  split
  · obtain ⟨r, hr, hnoted⟩ := noteAll_spec (c := { c with status := .connected }) p.props
    have hs' : Sendable R r.1 := by
      unfold Sendable
      rw [hnoted.session]
      exact hs
    rw [hr, Outcome.ret_bind]
    refine (emitting_resumeSession hs').bind fun r' hr' ↦ emitting_ret ?_
    exact ((emits_timers hnoted.timers).append hr').append (emits_notified hN)
  · exact emitting_ret (emits_notified hN)

/-- The handler of a received packet sends answers and the store, and hands over the packet. -/
theorem emitting_deliver (hs : Sendable R c)
    (h : ∀ q, AutoReply c packet.protocolVersion q → partOf q ≠ .connack →
      (answersPublish q → asksAnswer packet) → R q)
    (hN : ∀ q, Handed packet q → N q) : Emitting R N (c.deliver packet) := by
  have hself : N packet := hN packet (.same packet)
  have hold {q : GenericPacket w} (hv : q.protocolVersion = .v311) :
      answersPublish q → asksAnswer packet := by
    cases q <;> first | (cases hv; done) | exact nofun
  have hclose (hv : packet.protocolVersion = .v50) (p : V50.Disconnect) : R (.v50Disconnect p) :=
    h _ ⟨hv.symm, rfl, nofun, nofun⟩ nofun nofun
  cases packet with
  | v311Connect p =>
    change Emitting R N (if _ then _ else _)
    split
    · exact emitting_handleV311Error _
    · exact emitting_ret (emits_received hself)
  | v50Connect p =>
    change Emitting R N (if _ then _ else _)
    split
    · exact emitting_handleV50Error _ (hclose rfl)
    · exact emitting_after fun c' ↦ emitting_ret (emits_received hself)
  | v311Connack p => exact emitting_recvV311Connack hs hself
  | v50Connack p => exact emitting_recvV50Connack hs hself
  | v311Publish p =>
    exact emitting_recvV311Publish (fun q hq ↦ h q hq.autoReply hq.partOf (hold hq.version)) hself
  | v50Publish p => exact emitting_recvV50Publish (fun q hq ↦ h q hq.autoReply hq.partOf fun _ ↦ rfl) hN
  | v311Puback p | v311Pubcomp p => exact emitting_recvFinalAck emitting_handleV311Error hself
  | v50Puback p | v50Pubcomp p =>
    exact emitting_recvFinalAck (fun e ↦ emitting_handleV50Error e (hclose rfl)) hself
  | v311Pubrec p =>
    exact emitting_recvV311Pubrec (fun q hq ↦ h q hq.autoReply hq.partOf (hold hq.version)) hself
  | v50Pubrec p =>
    exact emitting_recvV50Pubrec (fun p ↦ h _ ⟨rfl, rfl, nofun, nofun⟩ nofun nofun) (hclose rfl) hself
  | v311Pubrel p =>
    exact emitting_recvV311Pubrel (fun q hq ↦ h q hq.autoReply hq.partOf (hold hq.version)) hself
  | v50Pubrel p => exact emitting_recvV50Pubrel (fun q hq ↦ h q hq.autoReply hq.partOf fun _ ↦ rfl) hself
  | v311Suback p | v311Unsuback p =>
    exact emitting_recvSubscriptionAck emitting_handleV311Error hself
  | v50Suback p | v50Unsuback p =>
    exact emitting_recvSubscriptionAck (fun e ↦ emitting_handleV50Error e (hclose rfl)) hself
  | v311Pingreq p =>
    exact emitting_recvV311Pingreq (fun p hping ↦ h _ ⟨rfl, rfl, fun _ ↦ hping, nofun⟩ nofun nofun) hself
  | v50Pingreq p =>
    exact emitting_recvV50Pingreq (fun p hping ↦ h _ ⟨rfl, rfl, fun _ ↦ hping, nofun⟩ nofun nofun) hself
  | v311Pingresp p | v50Pingresp p =>
    exact emitting_ret ((emits_timers (timersOnly_cancelEvents ..)).append (emits_notified hself))
  | v311Disconnect p | v50Disconnect p =>
    exact emitting_ret ((emits_timers timersOnly_cancelTimers).append (emits_notified hself))
  | _ => exact emitting_ret (emits_received hself)

end MqttProtocolCore.Connection.GenericConnection
