import MqttProtocolCore.Connection.Chunks
import MqttProtocolCore.Connection.ServerKeepAlive
import MqttProtocolCore.General.Replies

namespace MqttProtocolCore.Connection.GenericConnection

open General Packet

variable {w : IdWidth} {c f : GenericConnection w} {packet : GenericPacket w}

def forget (c : GenericConnection w) : GenericConnection w :=
  { c with
    pidMan := .new w
    pidSuback := ∅
    pidUnsuback := ∅
    pidPuback := ∅
    pidPubrec := ∅
    pidPubcomp := ∅
    needStore := false
    store := .new
    topicAliasSend := none
    topicAliasRecv := none
    publishSendMax := none
    publishRecvMax := none
    publishSendCount := 0
    publishRecv := ∅
    pingreqKeepAliveMs := 0
    pingreqServerKeepAliveMs := none
    isClient := false }

theorem clear_pidMan (man : PacketIdManager w) : man.clear = .new w := by
  obtain ⟨⟨pool, lowest, highest, ordered, wf⟩, hlowest, hhighest⟩ := man
  simp only at hlowest hhighest
  subst hlowest hhighest
  rfl

theorem packetSize_le (v : VariableByteInteger) : packetSize v ≤ mqttPacketSizeNoLimit := by
  have hsize := v.size_le_four
  have hval := v.toU32_le
  rw [VariableByteInteger.max] at hval
  unfold packetSize mqttPacketSizeNoLimit
  omega

theorem send_forget (hrole : actsAsClient c.role) (hv : packet.protocolVersion = c.protocolVersion)
    (hclean : packet.connectOf = some true) (hs : c.status = .disconnected)
    (hlimit : c.maximumPacketSizeSend = mqttPacketSizeNoLimit) :
    c.send packet = c.forget.send packet := by
  have hsend {d : GenericConnection w} (h : d.protocolVersion = c.protocolVersion) :
      d.send packet = d.processSend packet := if_neg (not_not.mpr (h.trans hv.symm))
  rw [hsend rfl, hsend (d := c.forget) rfl]
  cases packet with
  | v311Connect p =>
    have hp : p.cleanStart := Option.some.inj hclean
    change (if actsAsClient c.role then _ else _) = (if actsAsClient c.role then _ else _)
    rw [if_pos hrole, if_pos hrole]
    unfold processSendV311Connect
    simp only [hs, hp, forget, not_true, if_false, if_true, ne_eq]
    simp only [clearStoreRelated, initializeState, clear_pidMan]
    rfl
  | v50Connect p =>
    have hp : p.cleanStart := Option.some.inj hclean
    have hfits {d : GenericConnection w} (h : d.maximumPacketSizeSend = c.maximumPacketSizeSend) :
        d.validateMaximumPacketSizeSend p.size := by
      rw [validateMaximumPacketSizeSend, h, hlimit]
      exact decide_eq_true (packetSize_le _)
    change (if actsAsClient c.role then _ else _) = (if actsAsClient c.role then _ else _)
    rw [if_pos hrole, if_pos hrole]
    unfold processSendV50Connect limited
    rw [if_pos (hfits rfl), if_pos (hfits (d := c.forget) rfl)]
    simp only [hs, hp, forget, not_true, if_false, if_true, ne_eq]
    simp only [clearStoreRelated, initializeState, clear_pidMan]
    rfl
  | _ => cases hclean

def cleaned (c : GenericConnection w) (keepAlive : U16) : GenericConnection w :=
  { c.forget with
    status := .connecting
    pingreqRecvTimeoutMs :=
      if keepAlive > 0 then keepAlive * 1000 * 3 / 2 else c.pingreqRecvTimeoutMs }

def deliverClean (c : GenericConnection w) : GenericPacket w → Outcome (Handled w)
  | .v311Connect p => return (c.cleaned p.keepAlive).received (.v311Connect p)
  | .v50Connect p => do
    return (← p.props.foldlM noteConnect (c.cleaned p.keepAlive)).received (.v50Connect p)
  | _ => .panic

theorem deliver_clean (hclean : packet.connectOf = some true) (hs : c.status = .disconnected) :
    c.deliver packet = c.deliverClean packet := by
  have hopened (k : U16) : clearStoreRelated
      (if k > 0 then
        { initializeState { c with status := .connecting } false with
          pingreqRecvTimeoutMs := k * 1000 * 3 / 2 }
      else initializeState { c with status := .connecting } false) = c.cleaned k := by
    unfold cleaned
    split <;> simp only [clearStoreRelated, initializeState, clear_pidMan] <;> rfl
  cases packet with
  | v311Connect p =>
    have hp : p.cleanSession := Option.some.inj hclean
    change (if c.status ≠ .disconnected then _ else _ : Outcome (Handled w)) = _
    rw [if_neg (not_not.mpr hs)]
    unfold recvV311Connect
    simp only [hp, if_true, hopened]
    rfl
  | v50Connect p =>
    have hp : p.cleanStart := Option.some.inj hclean
    change (if c.status ≠ .disconnected then _ else _ : Outcome (Handled w)) = _
    rw [if_neg (not_not.mpr hs)]
    unfold recvV50Connect
    simp only [hp, if_true, hopened]
    rfl
  | _ => cases hclean

def untimed (c : GenericConnection w) : GenericConnection w :=
  { c with pingreqRecvTimeoutMs := 0, pingreqRecvSet := false }

theorem untimed_received (packet : GenericPacket w) :
    (c.received packet).1.untimed = c.untimed := by
  change c.refreshPingreqRecv.1.untimed = _
  unfold refreshPingreqRecv
  split <;> rfl

theorem untimed_noteConnect (prop : Property) :
    untimed <$> c.noteConnect prop = c.untimed.noteConnect prop := by
  unfold noteConnect
  cases prop with
  | topicAliasMaximum v =>
    dsimp only
    cases TopicAliasSend.new v <;> rfl
  | sessionExpiryInterval v =>
    dsimp only
    split <;> rfl
  | _ => rfl

theorem untimed_noteConnects (props : Properties) :
    untimed <$> props.foldlM noteConnect c = props.foldlM noteConnect c.untimed := by
  induction props generalizing c with
  | nil => rfl
  | cons prop props ih =>
    rw [List.foldlM_cons, List.foldlM_cons, ← untimed_noteConnect, map_bind, bind_map_left]
    apply bind_congr
    intro d
    exact ih

theorem untimed_deliverClean (h : c.forget.untimed = f.forget.untimed) (packet : GenericPacket w) :
    (fun r ↦ r.1.untimed) <$> c.deliverClean packet = (fun r ↦ r.1.untimed) <$> f.deliverClean packet := by
  have hcleaned (k : U16) : (c.cleaned k).untimed = (f.cleaned k).untimed :=
    congrArg (fun d ↦ { d with status := .connecting }) h
  cases packet with
  | v311Connect p =>
    simp only [deliverClean, Outcome.pure_eq, Outcome.map_ret, untimed_received, hcleaned]
  | v50Connect p =>
    simp only [deliverClean, Outcome.pure_eq, map_bind, Outcome.map_ret]
    have hbind (x : Outcome (GenericConnection w)) :
        (x >>= fun d ↦ .ret (d.received (.v50Connect p)).1.untimed) = untimed <$> x := by
      cases x with
      | ret d => exact congrArg Outcome.ret (untimed_received _)
      | panic => rfl
    rw [hbind, hbind, untimed_noteConnects, untimed_noteConnects, hcleaned]
  | _ => rfl

theorem untimed_announceConnack (prop : Property) :
    (c.announceConnack prop).1.untimed = (c.untimed.announceConnack prop).1.untimed ∧
      (serverKeepAliveIn none [prop] ≠ none →
        (c.announceConnack prop).1 = (c.untimed.announceConnack prop).1) := by
  cases prop with
  | serverKeepAlive v =>
    unfold announceConnack
    dsimp only
    split <;> exact ⟨rfl, fun _ ↦ rfl⟩
  | topicAliasMaximum v =>
    unfold announceConnack
    dsimp only
    split <;> exact ⟨rfl, fun h ↦ (h rfl).elim⟩
  | _ => exact ⟨rfl, fun h ↦ (h rfl).elim⟩

theorem announceAll_untimed (props : Properties) :
    (c.announceAll announceConnack props).1.untimed =
        (c.untimed.announceAll announceConnack props).1.untimed ∧
      (serverKeepAliveIn none props ≠ none →
        (c.announceAll announceConnack props).1 =
          (c.untimed.announceAll announceConnack props).1) := by
  induction props generalizing c with
  | nil => exact ⟨rfl, fun h ↦ (h rfl).elim⟩
  | cons prop props ih =>
    obtain ⟨hsame, heq⟩ := untimed_announceConnack (c := c) prop
    obtain ⟨hc, hc'⟩ := @ih (c.announceConnack prop).1
    obtain ⟨hd, hd'⟩ := @ih (c.untimed.announceConnack prop).1
    rw [← hsame] at hd hd'
    refine ⟨hc.trans hd.symm, fun h ↦ ?_⟩
    by_cases hprop : serverKeepAliveIn none [prop] = none
    · rw [serverKeepAliveIn_cons, hprop] at h
      exact (hc' h).trans (hd' h).symm
    · exact congrArg (fun d ↦ (d.announceAll announceConnack props).1) (heq hprop)

theorem deliverClean_kept (packet : GenericPacket w) : (c.deliverClean packet).Ensures fun r ↦
    r.1.role = c.role ∧ r.1.protocolVersion = c.protocolVersion := by
  have hreceived {d : GenericConnection w} :
      (d.received packet).1.role = d.role ∧
        (d.received packet).1.protocolVersion = d.protocolVersion := by
    have h : Idle d (d.received packet).1 := idle_received
    unfold Idle at h
    rw [h]
    exact ⟨rfl, rfl⟩
  cases packet with
  | v311Connect p => exact Outcome.ensures_ret.mpr hreceived
  | v50Connect p =>
    refine (learns_noteConnect p.props).bind fun d hd ↦ Outcome.ensures_ret.mpr ?_
    have hd' : d.role = c.role ∧ d.protocolVersion = c.protocolVersion := by
      unfold Learns at hd
      rw [hd]
      exact ⟨rfl, rfl⟩
    exact ⟨hreceived.1.trans hd'.1, hreceived.2.trans hd'.2⟩
  | _ => exact Outcome.ensures_panic

/-- A CONNACK with ServerKeepAlive leaves nothing of the timeout before it. -/
theorem send_connack_untimed (h : c.untimed = f.untimed) (hrole : actsAsServer c.role)
    (hv : packet.protocolVersion = c.protocolVersion) (hsent : serverKeepAliveOf packet ≠ none)
    (hs : c.status = .connecting) {r : Handled w} (hr : c.send packet = .ret r)
    (hconnected : r.1.status = .connected) : ∃ r', f.send packet = .ret r' ∧ r'.1 = r.1 := by
  have hfrole : f.role = c.role := (congrArg role h).symm
  have hfv : f.protocolVersion = c.protocolVersion := (congrArg protocolVersion h).symm
  have hfs : f.status = c.status := (congrArg status h).symm
  have hfmax : f.maximumPacketSizeSend = c.maximumPacketSizeSend :=
    (congrArg maximumPacketSizeSend h).symm
  have hsend {d : GenericConnection w} (hd : d.protocolVersion = c.protocolVersion) :
      d.send packet = d.processSend packet := if_neg (not_not.mpr (hd.trans hv.symm))
  rw [hsend rfl] at hr
  rw [hsend hfv]
  cases packet with
  | v50Connack p =>
    by_cases hcode : p.reasonCode = .success
    swap
    · exact absurd (if_neg hcode) hsent
    have hin : serverKeepAliveIn none p.props ≠ none := by rwa [serverKeepAliveOf, if_pos hcode] at hsent
    have hsame : (c.announceAll announceConnack p.props).1 =
        (f.announceAll announceConnack p.props).1 := by
      rw [(announceAll_untimed p.props).2 hin, h, (announceAll_untimed (c := f) p.props).2 hin]
    change (if actsAsServer c.role then c.processSendV50Connack p else _ : Outcome (Handled w)) = _ at hr
    change ∃ r', (if actsAsServer f.role then f.processSendV50Connack p else _ : Outcome (Handled w)) =
      .ret r' ∧ _
    rw [if_pos hrole] at hr
    rw [hfrole, if_pos hrole]
    unfold processSendV50Connack limited at hr ⊢
    have hfits : f.validateMaximumPacketSizeSend p.size = c.validateMaximumPacketSizeSend p.size := by
      rw [validateMaximumPacketSizeSend, validateMaximumPacketSizeSend, hfmax]
    by_cases hsize : c.validateMaximumPacketSizeSend p.size
    swap
    · rw [if_neg hsize] at hr
      obtain rfl := Outcome.ret.inj hr
      cases hs.symm.trans hconnected
    rw [if_pos hsize, if_neg (not_not.mpr hs), decide_eq_true hcode] at hr
    rw [hfits, if_pos hsize, hfs, if_neg (not_not.mpr hs), decide_eq_true hcode]
    obtain ⟨r', hfinish, hret⟩ := Outcome.bind_eq_ret.mp hr
    obtain rfl := Outcome.ret.inj hret
    simp only [if_true] at hfinish ⊢
    rw [hsame] at hfinish
    rw [hfinish]
    exact ⟨_, rfl, rfl⟩
  | _ => exact (hsent rfl).elim

theorem after_empty {slices : List Bytes} (h : slices.flatten = []) :
    (system w).after c (slices.map .recv) = .ret c := by
  induction slices with
  | nil => rfl
  | cons data slices ih =>
    obtain ⟨rfl, hslices⟩ := List.append_eq_nil_iff.mp h
    rw [List.map_cons, System.after_cons]
    exact ih hslices

open PacketBuilder in
theorem after_slices {p : Bytes} {slices : List Bytes} {raw : RawPacket}
    (hp : Pending c.packetBuilder p) (hfed : Fed (p ++ slices.flatten) .new (.complete raw) []) :
    (system w).after c (slices.map .recv) =
      Prod.fst <$> { c with packetBuilder := .new }.processRecvPacket raw := by
  induction slices generalizing c p with
  | nil =>
    rw [List.flatten_nil, List.append_nil] at hfed
    cases (hfed.unique (.incomplete hp)).2.1
  | cons data slices ih =>
    obtain ⟨b, result, rest, hfeed, hfed'⟩ := feed_spec hp data
    rw [List.flatten_cons, ← List.append_assoc] at hfed
    by_cases hr : result = .incomplete
    · subst hr
      cases hfed' with
      | incomplete hp' =>
        have hstep : (system w).step c (.recv data) =
            .ret ({ c with packetBuilder := b }, .received [] []) := by
          change c.recv data >>= _ = _
          simp [recv, hfeed]
        rw [List.map_cons, System.after_cons, hstep]
        exact @ih { c with packetBuilder := b } _ hp' hfed
    · obtain ⟨rfl, piece, hs, hpiece⟩ := hfed'.split hr
      rw [hs, List.append_assoc] at hfed
      obtain ⟨-, hres, hrest⟩ := hfed.unique (hpiece.append hr _)
      obtain ⟨rfl, hslices⟩ := List.append_eq_nil_iff.mp hrest.symm
      have hrecv : (system w).step c (.recv data) =
          { c with packetBuilder := .new }.processRecvPacket raw >>= fun r ↦
            .ret (r.1, .received r.2 []) := by
        change c.recv data >>= _ = _
        unfold recv
        rw [hfeed, ← hres]
        simp only [Outcome.ret_bind, bind_assoc]
        rfl
      rw [List.map_cons, System.after_cons, hrecv, bind_assoc]
      cases { c with packetBuilder := .new }.processRecvPacket raw with
      | ret r => exact after_empty hslices
      | panic => rfl

theorem processRecvPacket_connect {raw : RawPacket} {s : Bytes}
    (hraw : PacketBuilder.Fed s .new (.complete raw) [])
    (hread : readIn c.protocolVersion raw = some packet) (hconnect : packet.connectOf ≠ none)
    (hrole : actsAsServer c.role) (hlimit : c.maximumPacketSizeRecv = mqttPacketSizeNoLimit) :
    c.processRecvPacket raw = c.deliver packet := by
  obtain ⟨-, h, body, rfl, hmax⟩ : (PacketBuilder.new = .new) ∧
      ∃ h body, raw = rawPacket h body ∧ body.length < VariableByteInteger.max := by
    obtain ⟨b, result, rest, hfeed, hfed⟩ := PacketBuilder.feed_spec .header s
    obtain ⟨rfl, rfl, rfl⟩ := hfed.unique hraw
    exact Reading.complete (c := new .client w .v311) ⟨_, .header⟩ hfeed
  have hclient : clientOnly packet := by
    cases packet <;> first | rfl | exact (hconnect rfl).elim
  have hrecv : c.canReceive (rawPacket h body).packetType := by
    have htype := packetType_clientOnly hread hclient
    have hne : c.role ≠ .client := by
      rintro hr
      simp [actsAsServer, hr] at hrole
    unfold canReceive
    simp only [List.mem_cons, List.not_mem_nil, or_false] at htype
    rcases htype with (ht | ht | ht | ht) | ⟨ht, -⟩ <;> simp [← UInt8.toNat_inj, ht, hne]
  have hsize := not_oversize (h := h) hmax hlimit
  have harrived : c.arrived (rawPacket h body) = some (c.protocolVersion, packet) := by
    have hsize' : ¬ remainingLengthToTotalSize (rawPacket h body).dataAsSlice.length >
        c.maximumPacketSizeRecv := by simpa [oversize] using hsize
    unfold arrived
    rw [if_neg hsize', if_neg (not_not.mpr hrecv)]
    cases hv : c.protocolVersion with
    | undetermined =>
      rw [hv] at hread
      cases hread
    | _ =>
      rw [hv] at hread
      exact congrArg (Option.map _) hread
  have hdel := c.processRecvPacket_delivers (h := h) hmax
  rw [harrived] at hdel
  exact hdel.1

end MqttProtocolCore.Connection.GenericConnection
