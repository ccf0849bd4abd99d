import MqttProtocolCore.Connection.DeliverSpec

namespace MqttProtocolCore.Connection.GenericConnection

open General Packet

variable {w : IdWidth} {c c' : GenericConnection w} {input : Input w} {packet : GenericPacket w}
  {id : PacketId w} {r : Handled w}

theorem acts_releasePacketId : c.Acts (.release id) (id ≠ 0) (c.releasePacketId id) := by
  refine releaseIfUsed_spec.mono (fun r ⟨h0, _, hs, hrep⟩ ↦ ⟨h0, ?_⟩) fun h ↦ not_not.mpr h
  rw [hs, hrep]
  exact .released

/-- A version has to be settled before the keep-alive of the peer can run out. -/
theorem acts_keepAliveTimeout (hc : Idle c c') (hs : c'.status = c.status) :
    c.Acts .other (c'.protocolVersion ≠ .undetermined) c'.keepAliveTimeout := by
  have hidle (events : List (GenericEvent w)) (h : report events = ⟨[], [], [], []⟩) :
      Change c .other c'.session (report events) := by
    rw [h, hc.session]
    exact .idle trivial (fun h ↦ hs ▸ h) (by simp) (by simp)
  unfold keepAliveTimeout
  cases hv : c'.protocolVersion with
  | v311 => exact ⟨by simp, hidle _ rfl⟩
  | v50 =>
    obtain ⟨p, hp, -⟩ := V50.Disconnect.build_spec .keepAliveTimeout
    obtain ⟨r, hr, hplain, hst⟩ := c'.processSendV50Disconnect_spec p
    by_cases hconn : c'.status = .connected
    · simp only [hconn, if_true, hp, Fallible.unwrap_ok, Outcome.ret_bind, hr]
      refine ⟨by simp, Plain.change ⟨hc.trans hplain.idle, hplain.sends, hplain.notified,
        hplain.released⟩ trivial (silent_disconnect p) fun h ↦ hs ▸ hst h⟩
    · simp only [hconn, if_false]
      exact ⟨by simp, hidle _ rfl⟩
  | undetermined => exact fun h ↦ h rfl

def TimerSafe (c : GenericConnection w) : TimerKind → Prop
  | .pingreqSend => c.status = .connected → c.protocolVersion ≠ .undetermined
  | .pingreqRecv | .pingrespRecv => c.protocolVersion ≠ .undetermined

theorem Plain.change_after (hc : Idle c c') (h : Plain c' r packet) (hcalm : input.Calm)
    (hsilent : Silent packet) (hs : r.1.status = .connected → c.status = .connected) :
    Change c input r.1.session (report r.2) :=
  Plain.change ⟨hc.trans h.idle, h.sends, h.notified, h.released⟩ hcalm hsilent hs

theorem acts_keepAlive (hc : Idle c c') (hs : c'.status = c.status) :
    c.Acts .other (c'.status = .connected → c'.protocolVersion ≠ .undetermined) c'.keepAlive := by
  obtain ⟨a, ha, -⟩ := V311.Empty.new_spec
  have hsilent : Silent (.v311Pingreq a : GenericPacket w) := ⟨rfl, rfl, rfl, rfl, rfl⟩
  have hsilent' : Silent (.v50Pingreq a : GenericPacket w) := ⟨rfl, rfl, rfl, rfl, rfl⟩
  unfold keepAlive
  by_cases hconn : c'.status = .connected
  · suffices h : c.Acts .other (c'.protocolVersion ≠ .undetermined) _ from h.congr (by simp [hconn])
    rw [if_pos hconn, ha]
    cases hv : c'.protocolVersion with
    | v311 =>
      exact ⟨by simp, plain_sendPingreq.change_after hc trivial hsilent fun _ ↦ hs ▸ hconn⟩
    | v50 =>
      obtain ⟨r, hr, hplain⟩ := @plain_limited w c' (.v50Pingreq a) a.size _ plain_sendPingreq
      have hr' : c'.processSendV50Pingreq a = .ret r := hr
      simp only [Fallible.unwrap_ok, Outcome.ret_bind, hr']
      exact ⟨by simp, hplain.change_after hc trivial hsilent' fun _ ↦ hs ▸ hconn⟩
    | undetermined => exact fun h ↦ h rfl
  · rw [if_neg hconn]
    refine ⟨fun h ↦ (hconn h).elim, ?_⟩
    rw [hc.session, hs]
    exact .idle trivial (fun h ↦ h) (by simp) (by simp)

theorem acts_notifyTimerFired (kind : TimerKind) :
    c.Acts .other (c.TimerSafe kind) (c.notifyTimerFired kind) := by
  cases kind with
  | pingreqSend => exact acts_keepAlive rfl rfl
  | pingreqRecv => exact acts_keepAliveTimeout rfl rfl
  | pingrespRecv => exact acts_keepAliveTimeout rfl rfl

theorem releaseAll_spec (ids : List (PacketId w)) : (c.releaseAll ids).Spec
    (fun r ↦ 0 ∉ ids ∧ r.1 = { c with pidMan := r.1.pidMan } ∧
      r.1.session = { c.session with used := c.session.used \ {id | id ∈ ids} } ∧
      ∃ released, report r.2 = ⟨[], [], released, []⟩ ∧
        ∀ id, id ∈ released ↔ id ∈ ids ∧ id ∈ c.session.used)
    (0 ∈ ids) := by
  induction ids generalizing c with
  | nil => exact ⟨by simp, rfl, by simp, [], rfl, by simp⟩
  | cons u ids ih =>
    unfold releaseAll
    refine releaseIfUsed_spec.bind (fun ⟨c₁, events⟩ ⟨h0, hc₁, hs₁, hrep₁⟩ ↦ ?_)
      fun h ↦ List.mem_cons.mpr (.inl h.symm)
    dsimp only at hc₁ hs₁ hrep₁ ⊢
    refine ih.bind (fun ⟨c₂, rest⟩ ⟨h0', hc₂, hs₂, rel, hrep₂, hrel⟩ ↦ ?_)
      fun h ↦ List.mem_cons_of_mem _ h
    dsimp only at hc₂ hs₂ hrep₂ ⊢
    refine ⟨?_, ?_, ?_, (if c.pidMan.isUsedId u then [u] else []) ++ rel, ?_, ?_⟩
    · simpa [eq_comm] using And.intro h0 h0'
    · rw [hc₂, hc₁]
    · rw [hs₂, hs₁]
      refine Session.ext rfl rfl rfl ?_ rfl rfl rfl rfl rfl rfl
      ext v
      simp [Session.free]
      tauto
    · simp only [report, Report.mk.injEq] at hrep₁ hrep₂ ⊢
      simp [hrep₁, hrep₂]
    · intro v
      have hu : c.pidMan.isUsedId u ↔ u ∈ c.session.used := Iff.rfl
      rw [List.mem_append, hrel, hs₁]
      by_cases hcu : c.pidMan.isUsedId u
      · simp [hcu, Session.free]
        by_cases hv : v = u
        · subst hv
          simpa using hu.mp hcu
        · simp [hv]
      · simp [hcu, Session.free]
        grind

structure Drained (c : GenericConnection w) (kinds : List AckKind) (r : Handled w) : Prop where
  needStore : r.1.needStore = c.needStore
  session : r.1.session = { c.session with
    used := c.session.used \ {id | ∃ kind ∈ kinds, id ∈ c.session.awaits kind}
    awaits := fun kind ↦ if kind ∈ kinds then ∅ else c.session.awaits kind }
  released : ∃ released, report r.2 = ⟨[], [], released, []⟩ ∧
    ∀ id, id ∈ released ↔ (∃ kind ∈ kinds, id ∈ c.session.awaits kind) ∧ id ∈ c.session.used

theorem drain_spec (kind : AckKind) : (c.drain kind).Spec
    (fun r ↦ 0 ∉ c.awaiting kind ∧ r.1.needStore = c.needStore ∧
      r.1.session = { c.session with
        used := c.session.used \ c.session.awaits kind
        awaits := Function.update c.session.awaits kind ∅ } ∧
      ∃ released, report r.2 = ⟨[], [], released, []⟩ ∧
        ∀ id, id ∈ released ↔ id ∈ c.session.awaits kind ∧ id ∈ c.session.used)
    (0 ∈ c.awaiting kind) := by
  have hs : (c.setAwaiting kind ∅).session =
      { c.session with awaits := Function.update c.session.awaits kind ∅ } := by
    rw [session_setAwaiting]
    simp
  have hn : (c.setAwaiting kind ∅).needStore = c.needStore := by cases kind <;> rfl
  refine (releaseAll_spec _).mono (fun r ⟨h0, hr, hsess, rel, hrep, hrel⟩ ↦ ?_) fun h ↦ h
  rw [hs] at hsess hrel
  refine ⟨h0, ?_, hsess, rel, hrep, hrel⟩
  rw [hr]
  exact hn

theorem drainAll_spec {kinds : List AckKind} (hk : kinds.Nodup) : (c.drainAll kinds).Spec
    (fun r ↦ (∀ kind ∈ kinds, 0 ∉ c.awaiting kind) ∧ c.Drained kinds r)
    (¬ ∀ kind ∈ kinds, 0 ∉ c.awaiting kind) := by
  induction kinds generalizing c with
  | nil => exact ⟨by simp, rfl, by simp, [], rfl, by simp⟩
  | cons kind kinds ih =>
    obtain ⟨hkind, hk⟩ := List.nodup_cons.mp hk
    unfold drainAll
    refine (drain_spec kind).bind (fun ⟨c₁, events⟩ ⟨h0, hn₁, hs₁, rel₁, hrep₁, hrel₁⟩ ↦ ?_)
      fun h h' ↦ h' kind List.mem_cons_self h
    dsimp only at hn₁ hs₁ hrep₁ ⊢
    have haw : ∀ k ∈ kinds, c₁.session.awaits k = c.session.awaits k := by
      intro k hk'
      have hne : k ≠ kind := by
        rintro rfl
        exact hkind hk'
      rw [hs₁]
      exact Function.update_of_ne hne _ _
    have hzero : (∀ k ∈ kinds, 0 ∉ c₁.awaiting k) ↔ ∀ k ∈ kinds, 0 ∉ c.awaiting k := by
      refine forall₂_congr fun k hk' ↦ not_congr ?_
      exact (iff_of_eq (congrArg (0 ∈ ·) (haw k hk')) : 0 ∈ c₁.session.awaits k ↔ _)
    refine (ih hk).bind (fun ⟨c₂, rest⟩ ⟨h0', hn₂, hs₂, rel₂, hrep₂, hrel₂⟩ ↦ ?_)
      fun h h' ↦ h (hzero.mpr fun k hk' ↦ h' k (List.mem_cons_of_mem _ hk'))
    dsimp only at hn₂ hs₂ hrep₂ ⊢
    have hset : {id | ∃ k ∈ kinds, id ∈ c₁.session.awaits k} =
        {id | ∃ k ∈ kinds, id ∈ c.session.awaits k} := by
      ext u
      exact exists_congr fun k ↦ and_congr_right fun hk' ↦ by rw [haw k hk']
    refine ⟨List.forall_mem_cons.mpr ⟨h0, hzero.mp h0'⟩, hn₂.trans hn₁, ?_, rel₁ ++ rel₂, ?_, ?_⟩
    · rw [hs₂, hset, hs₁]
      refine Session.ext rfl rfl rfl ?_ ?_ rfl rfl rfl rfl rfl
      · ext u
        simp only [Set.mem_sdiff, Set.mem_ofPred_eq, List.mem_cons, exists_eq_or_imp, not_or,
          and_assoc]
      · funext k
        by_cases hk' : k ∈ kinds
        · simp [hk']
        · by_cases heq : k = kind <;> simp [hk', heq]
    · simp only [report, Report.mk.injEq] at hrep₁ hrep₂ ⊢
      simp [hrep₁, hrep₂]
    · intro u
      have hu : (∃ k ∈ kinds, u ∈ c₁.session.awaits k) ↔ ∃ k ∈ kinds, u ∈ c.session.awaits k :=
        iff_of_eq (congrArg (u ∈ ·) hset)
      rw [List.mem_append, hrel₁, hrel₂, hu, hs₁]
      simp only [Set.mem_sdiff, List.mem_cons, exists_eq_or_imp]
      grind

theorem mem_drained {s : Session w} : id ∈ s.drained ↔
    (∃ kind ∈ [AckKind.suback, .unsuback], id ∈ s.awaits kind) ∨
      ¬ s.keeps ∧ ∃ kind ∈ [AckKind.puback, .pubrec, .pubcomp], id ∈ s.awaits kind := by
  simp only [Session.drained, Set.mem_ofPred_eq, List.mem_cons, List.not_mem_nil, or_false,
    exists_eq_or_imp, exists_eq_left]
  constructor
  · rintro ⟨kind, hd, h⟩
    cases kind <;> simp_all [Session.drains, Session.publishes]
  · rintro ((h | h) | ⟨hk, h | h | h⟩) <;> exact ⟨_, by simp_all [Session.drains, Session.publishes], h⟩

def awaitsAny (s : Session w) (kinds : List AckKind) : Set (PacketId w) :=
  {id | ∃ kind ∈ kinds, id ∈ s.awaits kind}

theorem closed_of_keeps {s : Session w} (hk : s.keeps) : s.closed = { s with
    status := .disconnected
    used := s.used \ awaitsAny s [.suback, .unsuback]
    awaits := fun kind ↦ if kind ∈ [AckKind.suback, .unsuback] then ∅ else s.awaits kind } := by
  refine Session.ext rfl rfl rfl ?_ ?_ rfl ?_ rfl rfl rfl
  · ext u
    simp [Session.closed, mem_drained, awaitsAny, hk]
  · funext kind
    cases kind <;> simp [Session.closed, Session.drains, Session.publishes, hk]
  · simp [Session.closed, hk]

theorem closed_of_forgets {s : Session w} (hk : ¬ s.keeps) : s.closed = { s with
    status := .disconnected
    used := (s.used \ awaitsAny s [.suback, .unsuback]) \ awaitsAny s [.puback, .pubrec, .pubcomp]
    awaits := fun kind ↦ if kind ∈ [AckKind.puback, .pubrec, .pubcomp] then ∅
      else if kind ∈ [AckKind.suback, .unsuback] then ∅ else s.awaits kind
    handled := ∅ } := by
  refine Session.ext rfl rfl rfl ?_ ?_ rfl ?_ rfl rfl rfl
  · ext u
    simp only [Session.closed, Set.mem_sdiff, mem_drained, awaitsAny, Set.mem_ofPred_eq, hk]
    grind
  · funext kind
    cases kind <;> simp [Session.closed, Session.drains, Session.publishes, hk]
  · simp [Session.closed, hk]

/-- A connection that is closed without a session to keep gives up the rest as well. -/
theorem respondDrain_spec : (c.respondIf (¬ c.needStore)
      ({ c with qos2PublishHandled := ∅ }.drainAll [.puback, .pubrec, .pubcomp])).Spec
    (fun r ↦ (¬ c.needStore → ∀ kind ∈ [AckKind.puback, .pubrec, .pubcomp], 0 ∉ c.awaiting kind) ∧
      if c.needStore then r = (c, [])
      else Drained { c with qos2PublishHandled := ∅ } [.puback, .pubrec, .pubcomp] r)
    (¬ (¬ c.needStore → ∀ kind ∈ [AckKind.puback, .pubrec, .pubcomp], 0 ∉ c.awaiting kind)) := by
  unfold respondIf
  by_cases hn : c.needStore
  · rw [if_neg (not_not.mpr hn)]
    exact ⟨fun h ↦ (h hn).elim, by simp [hn]⟩
  · rw [if_pos hn]
    refine (drainAll_spec (by decide)).mono (fun r ⟨h0, h⟩ ↦ ⟨fun _ ↦ ?_, by simpa [hn] using h⟩) ?_
    · exact h0
    · exact fun h h' ↦ h (h' hn)

/-- `notify_closed` releases the identifiers that it drains, and reports nothing else. -/
theorem notifyClosed_spec : c.notifyClosed.Spec
    (fun r ↦ 0 ∉ c.session.drained ∧ r.1.session = c.session.closed ∧
      ∃ released, report r.2 = ⟨[], [], released, []⟩ ∧
        ∀ id, id ∈ released ↔ id ∈ c.session.drained ∧ id ∈ c.session.used)
    (¬ 0 ∉ c.session.drained) := by
  have h0 : 0 ∉ c.session.drained ↔ (∀ kind ∈ [AckKind.suback, .unsuback], 0 ∉ c.awaiting kind) ∧
      (¬ c.needStore → ∀ kind ∈ [AckKind.puback, .pubrec, .pubcomp], 0 ∉ c.awaiting kind) := by
    have haw (kind : AckKind) : 0 ∈ c.session.awaits kind ↔ 0 ∈ c.awaiting kind := Iff.rfl
    have hk : c.session.keeps = c.needStore := rfl
    simp only [mem_drained, haw, hk]
    grind
  unfold notifyClosed
  rw [h0]
  refine (@drainAll_spec w { c with
    maximumPacketSizeSend := mqttPacketSizeNoLimit
    maximumPacketSizeRecv := mqttPacketSizeNoLimit
    status := .disconnected
    topicAliasSend := none
    topicAliasRecv := none } [.suback, .unsuback] (by decide)).bind ?_ fun h h' ↦ h h'.1
  rintro ⟨c₁, events⟩ ⟨hz₁, hn₁, hs₁, rel₁, hrep₁, hrel₁⟩
  have hn : c₁.needStore = c.needStore := hn₁
  have hs : c₁.session = { c.session with
      status := .disconnected
      used := c.session.used \ awaitsAny c.session [.suback, .unsuback]
      awaits := fun kind ↦ if kind ∈ [AckKind.suback, .unsuback] then ∅ else c.session.awaits kind } :=
    hs₁
  have hrel : ∀ id, id ∈ rel₁ ↔ id ∈ awaitsAny c.session [.suback, .unsuback] ∧
      id ∈ c.session.used := hrel₁
  have haw (kind : AckKind) (h : kind ∈ [AckKind.puback, .pubrec, .pubcomp]) :
      c₁.session.awaits kind = c.session.awaits kind := by
    rw [hs]
    cases kind <;> first | rfl | simp at h
  have hset : awaitsAny c₁.session [.puback, .pubrec, .pubcomp] =
      awaitsAny c.session [.puback, .pubrec, .pubcomp] := by
    ext u
    exact exists_congr fun kind ↦ and_congr_right fun h ↦ by rw [haw kind h]
  have hz : (∀ kind ∈ [AckKind.puback, .pubrec, .pubcomp], 0 ∉ c₁.awaiting kind) ↔
      ∀ kind ∈ [AckKind.puback, .pubrec, .pubcomp], 0 ∉ c.awaiting kind := by
    refine forall₂_congr fun kind hkind ↦ not_congr ?_
    exact (iff_of_eq (congrArg (0 ∈ ·) (haw kind hkind)) : 0 ∈ c₁.session.awaits kind ↔ _)
  dsimp only
  refine respondDrain_spec.bind ?_ fun h h' ↦ h fun hn' ↦ hz.mpr (h'.2 (hn ▸ hn'))
  rintro ⟨c₂, rest⟩ ⟨hz₂, h₂⟩
  have hfinish {rel₂ : List (PacketId w)} (hrep₂ : report rest = ⟨[], [], rel₂, []⟩)
      (hclosed : c₂.session = c.session.closed)
      (hall : ∀ id, id ∈ rel₁ ++ rel₂ ↔ id ∈ c.session.drained ∧ id ∈ c.session.used) :
      c₂.cancelTimers.1.session = c.session.closed ∧ ∃ released,
        report (events ++ rest ++ c₂.cancelTimers.2) = ⟨[], [], released, []⟩ ∧
        ∀ id, id ∈ released ↔ id ∈ c.session.drained ∧ id ∈ c.session.used := by
    have ht := timersOnly_cancelTimers (c := c₂)
    have hrep : report (events ++ rest ++ c₂.cancelTimers.2) = ⟨[], [], rel₁ ++ rel₂, []⟩ := by
      simp only [report, Report.mk.injEq] at hrep₁ hrep₂ ⊢
      simp [hrep₁, hrep₂, ht.requested, ht.notified, ht.released, ht.errors]
    exact ⟨hclosed, _, hrep, hall⟩
  refine ⟨⟨hz₁, fun hn' ↦ hz.mp (hz₂ (hn ▸ hn'))⟩, ?_⟩
  by_cases hkeep : c.needStore
  · rw [if_pos (hn ▸ hkeep)] at h₂
    obtain ⟨rfl, rfl⟩ := Prod.mk.inj h₂
    have hk : c.session.keeps = true := hkeep
    refine @hfinish [] rfl (hs.trans (closed_of_keeps hk).symm) fun id ↦ ?_
    rw [List.append_nil, hrel]
    simp [mem_drained, hk, awaitsAny]
  · rw [if_neg (hn ▸ hkeep)] at h₂
    obtain ⟨-, hs₂, rel₂, hrep₂, hrel₂⟩ := h₂
    have hk : ¬ c.session.keeps = true := hkeep
    have hs₂' : c₂.session = { c₁.session with
        used := c₁.session.used \ awaitsAny c₁.session [.puback, .pubrec, .pubcomp]
        awaits := fun kind ↦ if kind ∈ [AckKind.puback, .pubrec, .pubcomp] then ∅
          else c₁.session.awaits kind
        handled := {id | id ∈ (∅ : HashSet (PacketId w))} } := hs₂
    have hrel' : ∀ id, id ∈ rel₂ ↔ id ∈ awaitsAny c₁.session [.puback, .pubrec, .pubcomp] ∧
        id ∈ c₁.session.used := hrel₂
    have hempty : {id | id ∈ (∅ : HashSet (PacketId w))} = ∅ := by simp
    refine hfinish hrep₂ ?_ fun id ↦ ?_
    · rw [hs₂', hset, hs, hempty]
      exact (closed_of_forgets hk).symm
    · rw [List.mem_append, hrel, hrel', hset, hs, mem_drained]
      simp only [Set.mem_sdiff, awaitsAny, Set.mem_ofPred_eq, hk]
      clear * -
      grind

theorem acts_notifyClosed : c.Acts .close (0 ∉ c.session.drained) c.notifyClosed := by
  refine notifyClosed_spec.mono (fun r ⟨hsafe, hs, released, hrep, hrel⟩ ↦ ⟨hsafe, ?_⟩) fun h ↦ h
  rw [hs, hrep]
  exact .closed hrel

theorem setPingreqSendInterval_spec (durationMs : Option ℕ) :
    (c.setPingreqSendInterval durationMs).1.session = c.session ∧
      TimersOnly (c.setPingreqSendInterval durationMs).2 := by
  unfold setPingreqSendInterval
  cases durationMs with
  | none => exact ⟨rfl, rfl, rfl, rfl, rfl⟩
  | some ms =>
    dsimp only
    split
    · exact ⟨rfl, timersOnly_cancelEvents ..⟩
    · split
      · exact ⟨rfl, rfl, rfl, rfl, rfl⟩
      · exact ⟨rfl, rfl, rfl, rfl, rfl⟩

theorem acquirePacketId_spec (h : c.acquirePacketId = .ok (id, c')) : id ∉ c.session.used ∧
    c'.session = { c.session with used := insert id c.session.used } := by
  unfold acquirePacketId at h
  cases ha : c.pidMan.acquireUniqueId with
  | error e => simp [ha, bind, Except.bind] at h
  | ok r =>
    obtain ⟨u, man⟩ := r
    simp only [ha, bind, Except.bind, pure, Except.pure, Except.ok.injEq, Prod.mk.injEq] at h
    obtain ⟨rfl, rfl⟩ := h
    obtain ⟨hfree, hset⟩ := PacketIdManager.acquireUniqueId_spec ha
    refine ⟨hfree, Session.ext rfl rfl rfl ?_ rfl rfl rfl rfl rfl rfl⟩
    ext v
    simp [session, hset, or_comm]

theorem registerPacketId_spec (h : c.registerPacketId id = .ok c') : id ∉ c.session.used ∧
    c'.session = { c.session with used := insert id c.session.used } := by
  unfold registerPacketId at h
  cases ha : c.pidMan.registerId id with
  | error e => simp [ha, bind, Except.bind] at h
  | ok man =>
    simp only [ha, bind, Except.bind, pure, Except.pure, Except.ok.injEq] at h
    obtain rfl := h
    obtain ⟨hfree, hset⟩ := PacketIdManager.registerId_spec ha
    refine ⟨hfree, Session.ext rfl rfl rfl ?_ rfl rfl rfl rfl rfl rfl⟩
    ext v
    simp [session, hset, or_comm]

/-- A restored packet that waits for an acknowledgement has an identifier. -/
theorem packetId_of_restoredAck {packet : GenericStorePacket w} {kind : AckKind}
    (h : restoredAck packet = some kind) : ∃ id, packet.packetId = some id := by
  refine Option.isSome_iff_exists.mp ?_
  cases packet with
  | v311Publish p =>
    by_cases hq : p.qos = .atMostOnce
    · simp [restoredAck, hq] at h
    · exact p.id.2.mpr hq
  | v50Publish p =>
    by_cases hq : p.qos = .atMostOnce
    · simp [restoredAck, hq] at h
    · exact p.id.2.mpr hq
  | v311Pubrel p => rfl
  | v50Pubrel p => rfl

theorem session_restored {packet : GenericStorePacket w} {man : PacketIdManager w}
    {store : GenericStore w} (hset : ∀ u, man.isUsedId u ↔ c.pidMan.isUsedId u ∨ u = id)
    (hget : ∀ u, store.get u =
      if u = id then some ((c.session.stored id).getD packet) else c.session.stored u) :
    { c with pidMan := man, store := store }.session = { c.session with
      used := insert id c.session.used
      stored := Function.update c.session.stored id (some ((c.session.stored id).getD packet)) } := by
  refine Session.ext rfl rfl rfl ?_ rfl ?_ rfl rfl rfl rfl
  · ext u
    simp [session, hset, or_comm]
  · funext u
    exact (hget u).trans (Function.update_apply ..).symm

def SameTimers (c c' : GenericConnection w) : Prop :=
  c'.pingreqSendSet = c.pingreqSendSet ∧ c'.pingreqRecvSet = c.pingreqRecvSet ∧
    c'.pingrespRecvSet = c.pingrespRecvSet

theorem restorePacket_spec (packet : GenericStorePacket w) : ∃ c', c.restorePacket packet = .ret c' ∧
    c'.session = c.session.restore packet ∧ SameTimers c c' := by
  unfold restorePacket Session.restore
  cases hk : restoredAck packet with
  | none => exact ⟨c, rfl, rfl, rfl, rfl, rfl⟩
  | some kind =>
    obtain ⟨id, hid⟩ := packetId_of_restoredAck hk
    have htimers : SameTimers c (c.await kind id) := by cases kind <;> exact ⟨rfl, rfl, rfl⟩
    rw [hid]
    dsimp only
    rw [← session_await]
    generalize c.await kind id = c₁ at htimers
    have hused : id ∈ c₁.session.used ↔ c₁.pidMan.isUsedId id := Iff.rfl
    cases hr : c₁.pidMan.registerId id with
    | error e =>
      refine ⟨_, rfl, ?_, htimers⟩
      rw [if_pos (hused.mpr (PacketIdManager.registerId_error hr))]
    | ok man =>
      obtain ⟨hfree, hset⟩ := PacketIdManager.registerId_spec hr
      rw [if_neg (hused.not.mpr hfree)]
      rcases @GenericStore.add_spec w c₁.store id packet hid with ⟨hc, ha⟩ | ⟨hc, s', ha, hget⟩
      · obtain ⟨stored, hsome⟩ := GenericStore.containsKey_iff.mp hc
        refine ⟨{ c₁ with pidMan := man }, by simp only [ha]; rfl, ?_, htimers⟩
        refine @session_restored w c₁ id packet man c₁.store hset fun u ↦ ?_
        have hsome' : c₁.session.stored id = some stored := hsome
        split
        · subst u
          rw [hsome', hsome]
          rfl
        · rfl
      · have hnone : c₁.session.stored id = none := GenericStore.get_eq_none.mpr hc
        refine ⟨{ c₁ with pidMan := man, store := s' }, by simp only [ha]; rfl, ?_, htimers⟩
        refine session_restored hset fun u ↦ ?_
        rw [hget, hnone]
        rfl

theorem restorePackets_spec (packets : List (GenericStorePacket w)) :
    ∃ c', c.restorePackets packets = .ret c' ∧
      c'.session = packets.foldl Session.restore c.session ∧ SameTimers c c' := by
  unfold restorePackets
  induction packets generalizing c with
  | nil => exact ⟨c, rfl, rfl, rfl, rfl, rfl⟩
  | cons packet packets ih =>
    obtain ⟨c₁, h₁, hs₁, ht₁⟩ := restorePacket_spec (c := c) packet
    obtain ⟨c₂, h₂, hs₂, ht₂⟩ := ih (c := c₁)
    refine ⟨c₂, ?_, ?_, ht₂.1.trans ht₁.1, ht₂.2.1.trans ht₁.2.1, ht₂.2.2.trans ht₁.2.2⟩
    · rw [List.foldlM_cons, h₁, Outcome.ret_bind, h₂]
    · rw [List.foldl_cons, hs₂, hs₁]

end MqttProtocolCore.Connection.GenericConnection
