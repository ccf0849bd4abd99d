import MqttProtocolCore.Connection.Renewal

namespace MqttProtocolCore.Connection

open General Packet

variable {w : IdWidth}

/-- The exchange that establishes a clean session: what the client sends and is sent, or what the
server is sent and sends; the bytes come in slices. -/
inductive CleanStart (w : IdWidth) where
  | byClient (connect : GenericPacket w) (connack : List Bytes)
  | byServer (connect : List Bytes) (connack : GenericPacket w)

def carried (w : IdWidth) (v : Version) (slices : List Bytes) : Option (GenericPacket w) :=
  match PacketBuilder.new.feed slices.flatten with
  | .ret (_, .complete raw, []) => GenericConnection.readIn v raw
  | _ => none

namespace CleanStart

def operations : CleanStart w → List (Operation w)
  | byClient connect connack => .send connect :: connack.map .recv
  | byServer connect connack => connect.map .recv ++ [.send connack]

/-- A clean session is asked for and granted, in the part that the role of the connection allows. -/
def Valid (role : Role) (v : Version) : CleanStart w → Prop
  | byClient connect connack => GenericConnection.actsAsClient role ∧
      connect.protocolVersion = v ∧ connect.connectOf = some true ∧
      (carried w v connack).bind GenericPacket.connackOf = some false
  | byServer connect connack => GenericConnection.actsAsServer role ∧
      (carried w v connect).bind GenericPacket.connectOf = some true ∧
      connack.protocolVersion = v ∧ connack.connackOf = some false

def SetsTimeout (v : Version) : CleanStart w → Prop
  | byClient _ _ => False
  | byServer connect connack => (∃ k, (carried w v connect).bind keepAliveOf = some k ∧ k ≠ 0) ∨
      serverKeepAliveOf connack ≠ none

end CleanStart

namespace GenericConnection

variable {c c' : GenericConnection w} {packet : GenericPacket w}

def configuration (c : GenericConnection w) : List (Operation w) :=
  [.setOfflinePublish c.offlinePublish, .setAutoPubResponse c.autoPubResponse,
    .setAutoPingResponse c.autoPingResponse, .setAutoMapTopicAliasSend c.autoMapTopicAliasSend,
    .setAutoReplaceTopicAliasSend c.autoReplaceTopicAliasSend,
    .setPingreqSendInterval c.pingreqUserSendIntervalMs,
    .setPingrespRecvTimeout c.pingrespRecvTimeoutMs]

/-- Nothing of the old session is out of reach of a clean start. -/
def LeavesNothing (c : GenericConnection w) (start : CleanStart w) : Prop :=
  c.packetBuilder = .new ∧ (c.needStore → c.qos2PublishHandled = ∅) ∧
    (c.pingreqRecvTimeoutMs = 0 ∨ start.SetsTimeout c.protocolVersion)

def renewed (c : GenericConnection w) : GenericConnection w :=
  { new c.role w c.protocolVersion with
    needStore := c.offlinePublish
    offlinePublish := c.offlinePublish
    autoPubResponse := c.autoPubResponse
    autoPingResponse := c.autoPingResponse
    autoMapTopicAliasSend := c.autoMapTopicAliasSend
    autoReplaceTopicAliasSend := c.autoReplaceTopicAliasSend
    pingreqUserSendIntervalMs := c.pingreqUserSendIntervalMs
    pingrespRecvTimeoutMs := c.pingrespRecvTimeoutMs }

theorem after_configuration (inputs : List (Operation w)) :
    (system w).after (new c.role w c.protocolVersion) (c.configuration ++ inputs) =
      (system w).after c.renewed inputs := by
  have hset {d : GenericConnection w} (hs : d.status = .disconnected) (hq : d.pingreqSendSet = false)
      (durationMs : Option ℕ) :
      (d.setPingreqSendInterval durationMs).1 = { d with pingreqUserSendIntervalMs := durationMs } := by
    unfold setPingreqSendInterval
    cases durationMs with
    | none => rfl
    | some ms => by_cases h0 : ms = 0 <;> simp [h0, hs, hq]
  rw [System.after_append]
  refine congrArg (· >>= fun d ↦ (system w).after d inputs) (?_ : _ = .ret c.renewed)
  simp only [configuration, System.after_cons, System.after_nil, system, step, Outcome.pure_eq,
    Outcome.ret_bind]
  rw [hset rfl rfl]
  simp [renewed, new, setOfflinePublish]

theorem fed_of_carried {v : Version} {slices : List Bytes} (h : carried w v slices = some packet) :
    ∃ raw, PacketBuilder.Fed slices.flatten .new (.complete raw) [] ∧ readIn v raw = some packet := by
  obtain ⟨b, result, rest, hfeed, hfed⟩ := PacketBuilder.feed_spec .header slices.flatten
  rw [carried, hfeed] at h
  rw [List.nil_append] at hfed
  cases hfed with
  | @complete header f body _ hf hlen hbody hs =>
    cases rest with
    | nil => exact ⟨_, .complete hf hlen hbody hs, h⟩
    | cons => cases h
  | _ => cases h

theorem forget_closed (h : GivesBack c.closedState c') (hbuilder : c.packetBuilder = .new)
    (hhandled : c.needStore → c.qos2PublishHandled = ∅) :
    c'.forget = { c.renewed.forget with pingreqRecvTimeoutMs := c.pingreqRecvTimeoutMs } := by
  have hids : (if c.needStore then c.qos2PublishHandled else ∅) = ∅ := by
    split
    · exact hhandled ‹_›
    · rfl
  have hforget : c'.forget = c.closedState.forget := by
    unfold GivesBack at h
    rw [h]
    rfl
  rw [hforget]
  simp only [forget, closedState, renewed, new, hbuilder, hids]

/-- The client sends its clean CONNECT from the same state as a new connection. -/
theorem send_renewed (h : c'.forget = c.renewed.forget) (hs : c'.status = .disconnected)
    (hlimit : c'.maximumPacketSizeSend = mqttPacketSizeNoLimit) (hrole : actsAsClient c.role)
    (hv : packet.protocolVersion = c.protocolVersion) (hclean : packet.connectOf = some true) :
    c'.send packet = c.renewed.send packet := by
  have hrole' : c'.role = c.role := (congrArg role h :)
  have hv' : c'.protocolVersion = c.protocolVersion := (congrArg protocolVersion h :)
  rw [send_forget (hrole' ▸ hrole) (hv.trans hv'.symm) hclean hs hlimit, h,
    ← send_forget (c := c.renewed) hrole hv hclean rfl rfl]

/-- The server answers the clean CONNECT from the same state as a new connection, when the timeout
is set. -/
theorem deliverClean_renewed {t k : ℕ}
    (h : c'.forget = { c.renewed.forget with pingreqRecvTimeoutMs := t })
    (hk : keepAliveOf packet = some k) (ht : t = 0 ∨ k ≠ 0) :
    c'.deliverClean packet = c.renewed.deliverClean packet := by
  have ht' : c'.pingreqRecvTimeoutMs = t := (congrArg pingreqRecvTimeoutMs h :)
  have hcleaned {a : U16} (ha : a.val = k) : c'.cleaned a = c.renewed.cleaned a := by
    subst ha
    unfold cleaned
    rw [h, ht']
    obtain rfl | ha := ht
    · rfl
    · have hpos : a > 0 := Fin.pos_iff_ne_zero.mpr fun h0 ↦ ha (congrArg Fin.val h0)
      simp only [if_pos hpos]
  cases packet with
  | v311Connect p => rw [deliverClean, deliverClean, hcleaned (Option.some.inj hk)]
  | v50Connect p => rw [deliverClean, deliverClean, hcleaned (Option.some.inj hk)]
  | _ => cases hk

/-- After a clean start the connection is in the state of a new one. -/
theorem after_cleanStart {start : CleanStart w} {c₂ : GenericConnection w}
    (hclosed : GivesBack c.closedState c') (hvalid : start.Valid c.role c.protocolVersion)
    (hleaves : c.LeavesNothing start) (hafter : (system w).after c' start.operations = .ret c₂)
    (hconnected : c₂.status = .connected) :
    (system w).after c.renewed start.operations = .ret c₂ := by
  obtain ⟨hbuilder, hhandled, htimeout⟩ := hleaves
  have hforget := forget_closed hclosed hbuilder hhandled
  have hs : c'.status = .disconnected := (congrArg status hclosed).trans rfl
  have hsend : c'.maximumPacketSizeSend = mqttPacketSizeNoLimit :=
    (congrArg maximumPacketSizeSend hclosed).trans rfl
  have hrecv : c'.maximumPacketSizeRecv = mqttPacketSizeNoLimit :=
    (congrArg maximumPacketSizeRecv hclosed).trans rfl
  have hv : c'.protocolVersion = c.protocolVersion := (congrArg protocolVersion hforget :)
  have hrole : c'.role = c.role := (congrArg role hforget :)
  have hnew : c'.packetBuilder = .new := (congrArg packetBuilder hforget :)
  cases start with
  | byClient connect connack =>
    obtain ⟨hclient, hversion, hclean, -⟩ := hvalid
    obtain ht | hset := htimeout
    swap
    · exact hset.elim
    rw [ht] at hforget
    have hsame := send_renewed hforget hs hsend hclient hversion hclean
    have hstep : (system w).step c' (.send connect) = (system w).step c.renewed (.send connect) := by
      change c'.send connect >>= _ = c.renewed.send connect >>= _
      rw [hsame]
    rw [CleanStart.operations, System.after_cons] at hafter ⊢
    rwa [← hstep]
  | byServer connect connack =>
    obtain ⟨hserver, hclean, hversion, hgrant⟩ := hvalid
    obtain ⟨packet, hcarried, hconnect⟩ := Option.bind_eq_some_iff.mp hclean
    obtain ⟨raw, hfed, hread⟩ := fed_of_carried hcarried
    have hne : packet.connectOf ≠ none := by simp [hconnect]
    obtain ⟨k, hk⟩ : ∃ k, keepAliveOf packet = some k := by
      cases packet <;> first | exact ⟨_, rfl⟩ | cases hconnect
    have hfresh : (system w).after c.renewed (connect.map .recv) =
        Prod.fst <$> c.renewed.deliverClean packet := by
      rw [after_slices (c := c.renewed) (p := []) .header hfed, ← deliver_clean hconnect rfl]
      exact congrArg _ (processRecvPacket_connect (c := c.renewed) hfed hread hne hserver rfl)
    have hold : (system w).after c' (connect.map .recv) = Prod.fst <$> c'.deliverClean packet := by
      have hreset : { c' with packetBuilder := .new } = c' := by rw [← hnew]
      rw [after_slices (p := []) (hnew ▸ .header) hfed, hreset, ← deliver_clean hconnect hs]
      exact congrArg _ (processRecvPacket_connect hfed (hv.symm ▸ hread) hne (hrole.symm ▸ hserver) hrecv)
    rw [CleanStart.operations, System.after_append] at hafter ⊢
    rw [hold] at hafter
    rw [hfresh]
    by_cases ht : c.pingreqRecvTimeoutMs = 0 ∨ k ≠ 0
    · rwa [← deliverClean_renewed hforget hk ht]
    have hsent : serverKeepAliveOf connack ≠ none := by
      obtain h0 | hset := htimeout
      · exact (ht (.inl h0)).elim
      obtain ⟨k', hk', h0⟩ | hsent := hset
      · rw [hcarried, Option.bind_some, hk] at hk'
        exact (ht (.inr (Option.some.inj hk' ▸ h0))).elim
      · exact hsent
    obtain ⟨d, hd, hrest⟩ := Outcome.bind_eq_ret.mp hafter
    obtain ⟨r, hr, rfl⟩ := Outcome.map_eq_ret.mp hd
    have huntimed := untimed_deliverClean (f := c.renewed) (congrArg untimed hforget :) packet
    rw [hr] at huntimed
    obtain ⟨r', hr', hsame⟩ := Outcome.map_eq_ret.mp huntimed.symm
    have hkept := deliverClean_kept packet r hr
    have hconnecting := (deliver_connect hk hs r ((deliver_clean hconnect hs).trans hr)).1
    rw [System.after_cons] at hrest
    obtain ⟨⟨d, reply⟩, hstep, hd⟩ := Outcome.bind_eq_ret.mp hrest
    obtain rfl := Outcome.ret.inj hd
    obtain ⟨⟨d, events⟩, hsend', hret⟩ := Outcome.bind_eq_ret.mp hstep
    obtain ⟨rfl, -⟩ := Prod.mk.inj (Outcome.ret.inj hret)
    obtain ⟨r₂, hr₂, hr₂'⟩ := send_connack_untimed hsame.symm (hkept.1.symm ▸ hrole.symm ▸ hserver)
      (hversion.trans (hv.symm.trans hkept.2.symm)) hsent hconnecting hsend' hconnected
    rw [hr', Outcome.map_ret, Outcome.ret_bind, System.after_cons]
    have hstep' : (system w).step r'.1 (.send connack) = .ret (r₂.1, .events r₂.2) := by
      change r'.1.send connack >>= _ = _
      rw [hr₂]
      rfl
    rw [hstep']
    exact congrArg Outcome.ret hr₂'

/-- A connection that is closed and then establishes a clean session cannot be told from a new one
with the same configuration that goes through the same exchange, when no bytes of a packet are
pending, the handled identifiers are not kept, and the timeout for a silent peer is off or set anew. -/
theorem clean_start_indistinguishable {c₁ c₂ : GenericConnection w} {reply : Reply w}
    {start : CleanStart w} (hclosed : (system w).step c .notifyClosed = .ret (c₁, reply))
    (hvalid : start.Valid c.role c.protocolVersion)
    (hafter : (system w).after c₁ start.operations = .ret c₂) (hconnected : c₂.status = .connected)
    (hleaves : c.LeavesNothing start) :
    ∃ f, (system w).after (new c.role w c.protocolVersion) (c.configuration ++ start.operations) =
      .ret f ∧ Indistinguishable (system w) c₂ f := by
  obtain ⟨r, hr, hret⟩ := Outcome.bind_eq_ret.mp hclosed
  obtain ⟨rfl, -⟩ := Prod.mk.inj (Outcome.ret.inj hret)
  have hsame := after_cleanStart (notifyClosed_frame r hr) hvalid hleaves hafter hconnected
  exact ⟨c₂, (after_configuration _).trans hsame, .refl _ _⟩

/-- A server of version 3.1.1 that closed a persistent session without messages. -/
theorem clean_start_indistinguishable_server : ∃ c c₂ f : GenericConnection .u16,
    ∃ start : CleanStart .u16, Reachable (system .u16) c ∧ c.needStore ∧
    (system .u16).after (new c.role .u16 c.protocolVersion) (c.configuration ++ start.operations) =
      .ret f ∧ Indistinguishable (system .u16) c₂ f := by
  obtain ⟨k, -, hk, ⟨trace, c⟩, hrun, hneed, hrole, hv, hbuilder, hhandled, ht, ⟨c₁, reply⟩, hclosed,
      c₂, hafter, hconnected⟩ : (V311.Connack.build false .accepted).unwrap.Attains fun k ↦
      GenericPacket.connackOf (w := .u16) (.v311Connack k) = some false ∧
      ((system .u16).run (new .server .u16 .v311)
        [.recv [0x10, 13, 0, 4, 0x4d, 0x51, 0x54, 0x54, 4, 0, 0, 0, 0, 1, 0x61],
          .send (.v311Connack k)]).Attains fun r ↦
      r.2.needStore ∧ r.2.role = .server ∧ r.2.protocolVersion = .v311 ∧ r.2.packetBuilder = .new ∧
      r.2.qos2PublishHandled = ∅ ∧ r.2.pingreqRecvTimeoutMs = 0 ∧
      ((system .u16).step r.2 .notifyClosed).Attains fun t ↦
      ((system .u16).after t.1 (CleanStart.byServer
        [[0x10, 13, 0, 4, 0x4d, 0x51, 0x54, 0x54, 4, 2, 0, 0, 0, 1, 0x61]]
        (.v311Connack k)).operations).Attains fun c₂ ↦ c₂.status = .connected := by decide +kernel
  have hinit : (system .u16).Init (new .server .u16 .v311) := ⟨.server, .v311, rfl⟩
  dsimp only at hneed hrole hv hbuilder hhandled ht hclosed hafter
  obtain ⟨f, hf⟩ := clean_start_indistinguishable hclosed
    (by rw [hrole, hv]; exact ⟨by decide, by decide, rfl, hk⟩) hafter hconnected
    ⟨hbuilder, fun _ ↦ hhandled, .inl ht⟩
  exact ⟨c, c₂, f, _, (Run.of_run hinit hrun).reachable, hneed, hf⟩

/-- A server of version 3.1.1 keeps the identifier of a PUBLISH of quality of service 2 through a
clean start, and drops the first message of the new session with this identifier. -/
theorem clean_start_remembers_handled : ∃ c c₁ c₂ f : GenericConnection .u16, ∃ reply,
    ∃ start : CleanStart .u16, ∃ later, Reachable (system .u16) c ∧ (system .u16).step c .notifyClosed = .ret (c₁, reply) ∧
    start.Valid c.role c.protocolVersion ∧
    (system .u16).after c₁ start.operations = .ret c₂ ∧ c₂.status = .connected ∧
    (system .u16).after (new c.role .u16 c.protocolVersion) (c.configuration ++ start.operations) =
      .ret f ∧
    List.map Reply.toEvents <$> (system .u16).replies c₂ later ≠
      List.map Reply.toEvents <$> (system .u16).replies f later := by
  obtain ⟨k, -, hk, ⟨trace, c⟩, hrun, hrole, hv, ⟨c₁, reply⟩, hclosed, c₂, hafter, hconnected, f, hf,
      hdiffer⟩ : (V311.Connack.build false .accepted).unwrap.Attains fun k ↦
      GenericPacket.connackOf (w := .u16) (.v311Connack k) = some false ∧
      ((system .u16).run (new .server .u16 .v311)
        [.recv [0x10, 13, 0, 4, 0x4d, 0x51, 0x54, 0x54, 4, 0, 0, 0, 0, 1, 0x61],
          .send (.v311Connack k), .recv [0x34, 5, 0, 1, 0x61, 0, 1]]).Attains fun r ↦
      r.2.role = .server ∧ r.2.protocolVersion = .v311 ∧
      ((system .u16).step r.2 .notifyClosed).Attains fun t ↦
      ((system .u16).after t.1 (CleanStart.byServer
        [[0x10, 13, 0, 4, 0x4d, 0x51, 0x54, 0x54, 4, 2, 0, 0, 0, 1, 0x61]]
        (.v311Connack k)).operations).Attains fun c₂ ↦ c₂.status = .connected ∧
      ((system .u16).after (new r.2.role .u16 r.2.protocolVersion) (r.2.configuration ++
        (CleanStart.byServer [[0x10, 13, 0, 4, 0x4d, 0x51, 0x54, 0x54, 4, 2, 0, 0, 0, 1, 0x61]]
        (.v311Connack k)).operations)).Attains fun f ↦
      List.map Reply.toEvents <$> (system .u16).replies c₂ [.recv [0x34, 5, 0, 1, 0x61, 0, 1]] ≠
        List.map Reply.toEvents <$> (system .u16).replies f [.recv [0x34, 5, 0, 1, 0x61, 0, 1]] := by
    decide +kernel
  have hinit : (system .u16).Init (new .server .u16 .v311) := ⟨.server, .v311, rfl⟩
  dsimp only at hrole hv hclosed hafter
  refine ⟨c, c₁, c₂, f, reply, _, _, (Run.of_run hinit hrun).reachable, hclosed, ?_, hafter,
    hconnected, hf, hdiffer⟩
  rw [hrole, hv]
  exact ⟨by decide, by decide, rfl, hk⟩

end GenericConnection

end MqttProtocolCore.Connection
