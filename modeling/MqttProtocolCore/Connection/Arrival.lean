import MqttProtocolCore.Connection.Dispatch

namespace MqttProtocolCore.Connection.GenericConnection

open General Packet

variable {w : IdWidth} {α : Type} {c : GenericConnection w} {raw : RawPacket} {r : Handled w}
  {e : MqttError} {packet : GenericPacket w} {x : Outcome (Handled w)} {v : Version} {connect : Prop}

/-- The handlers of a version know this type of packet. -/
def knows (v : Version) (packetType : UInt8) : Bool :=
  1 ≤ packetType ∧ (packetType ≤ 14 ∨ packetType ≤ 15 ∧ v = .v50)

/-- What the handler of a packet does when the packet cannot be read; only a CONNECT is refused with
CONNACK. -/
inductive Misread (c : GenericConnection w) (connect : Prop) : Outcome (Handled w) → Prop where
  | closed (e : MqttError) : c.protocolVersion = .v311 → Misread c connect (c.handleV311Error e)
  | disconnected (e : MqttError) : c.protocolVersion = .v50 → Misread c connect (c.handleV50Error e)
  | ignored (e : MqttError) : c.protocolVersion = .v50 → c.status ≠ .connected →
      Misread c connect (.ret (c.reject e))
  | refusedV311 (e : MqttError) : c.protocolVersion = .v311 → c.status = .disconnected → connect →
      Misread c connect ({ c with status := .connecting }.refuseV311Connect e)
  | refusedV50 (e : MqttError) : c.protocolVersion = .v50 → c.status = .disconnected → connect →
      Misread c connect ({ c with status := .connecting }.refuseV50Connect e)

def oversize (c : GenericConnection w) (raw : RawPacket) : Bool :=
  c.maximumPacketSizeRecv < remainingLengthToTotalSize raw.dataAsSlice.length

def takes (c : GenericConnection w) (raw : RawPacket) : Bool :=
  c.canReceive raw.packetType &&
    match c.protocolVersion with
    | .undetermined => raw.packetType = 1 ∧ 7 ≤ raw.dataAsSlice.length ∧
        (raw.dataAsSlice[6]? = some 4 ∨ raw.dataAsSlice[6]? = some 5)
    | v => knows v raw.packetType

/-- What `process_recv_packet` does with a packet that it does not hand to a handler, or that the
handler cannot read. -/
inductive Refusal (c : GenericConnection w) (raw : RawPacket) : Outcome (Handled w) → Prop where
  | tooLarge : c.oversize raw → Refusal c raw (c.handleV50Error .packetTooLarge)
  | rejected (e : MqttError) : ¬ c.oversize raw → ¬ c.takes raw →
      Refusal c raw (.ret (c.reject e))
  | misread {v : Version} {x : Outcome (Handled w)} : ¬ c.oversize raw → c.takes raw →
      v = c.protocolVersion ∨ c.protocolVersion = .undetermined →
      Misread (c.determine v) (raw.packetType = 1) x →
      Refusal c raw x

theorem plain_finishConnack (c : GenericConnection w) (packet : GenericPacket w) :
    ∃ r, c.finishConnack false packet = .ret r ∧ Plain c r packet ∧ r.1.status = .disconnected := by
  refine ⟨_, rfl, ⟨rfl, .inl ⟨?_, ?_⟩, ?_, ?_⟩, rfl⟩ <;> simp

theorem connackRefusal_ne (e : MqttError) : connackRefusal e ≠ .accepted := by
  cases e <;> simp [connackRefusal]

theorem connackReason_ne (e : MqttError) : connackReason e ≠ .success := by
  cases e <;> simp [connackReason]

theorem refuseV311Connect_spec {c c' : GenericConnection w} (hc : Idle c c')
    (hs : c'.status = .connecting) (e : MqttError) :
    ∃ r, c'.refuseV311Connect e = .ret r ∧ Refused c r := by
  obtain ⟨p, hp, -, hcode⟩ := V311.Connack.build_spec false (connackRefusal e)
  have hacc : p.returnCode ≠ .accepted := hcode ▸ connackRefusal_ne e
  obtain ⟨r, hr, hplain, hr'⟩ := plain_finishConnack c' (.v311Connack p)
  refine ⟨(r.1, r.2 ++ [.notifyError e]), ?_, ?_⟩
  · simp [refuseV311Connect, hp, processSendV311Connack, hs, hacc, hr]
  · refine refused_of_plain hc hplain (by simp [hr']) ⟨rfl, ?_, rfl, rfl, rfl⟩ e
    simp [GenericPacket.connackOf, hacc]

theorem refuseV50Connect_spec {c c' : GenericConnection w} (hc : Idle c c')
    (hs : c'.status = .connecting) (e : MqttError) :
    ∃ r, c'.refuseV50Connect e = .ret r ∧ Refused c r := by
  obtain ⟨p, hp, -, hcode, -⟩ := V50.Connack.build_spec false (connackReason e)
  have hacc : p.reasonCode ≠ .success := hcode ▸ connackReason_ne e
  by_cases hsize : c'.validateMaximumPacketSizeSend p.size
  · obtain ⟨r, hr, hplain, hr'⟩ := plain_finishConnack c' (.v50Connack p)
    refine ⟨(r.1, r.2 ++ [.notifyError e]), ?_, ?_⟩
    · simp [refuseV50Connect, hp, processSendV50Connack, limited, hsize, hs, hacc, hr]
    · refine refused_of_plain hc hplain (by simp [hr']) ⟨rfl, ?_, rfl, rfl, rfl⟩ e
      simp [GenericPacket.connackOf, hacc]
  · refine ⟨(c', [.notifyError .packetTooLarge, .notifyError e]), ?_, ?_⟩
    · simp [refuseV50Connect, hp, processSendV50Connack, limited, hsize, reject]
    · exact ⟨hc, by simp [hs], by simp, rfl, rfl, by simp⟩

theorem Misread.refused (h : Misread c connect x) : ∃ r, x = .ret r ∧ Refused c r := by
  cases h with
  | closed e => exact c.handleV311Error_spec e
  | disconnected e => exact c.handleV50Error_spec e
  | ignored e => exact ⟨_, rfl, refused_reject c e⟩
  | refusedV311 e =>
    have hidle : Idle c { c with status := .connecting } := rfl
    exact refuseV311Connect_spec hidle rfl e
  | refusedV50 e =>
    have hidle : Idle c { c with status := .connecting } := rfl
    exact refuseV50Connect_spec hidle rfl e

theorem Refusal.refused (h : Refusal c raw x) : ∃ v r, x = .ret r ∧ Refused (c.determine v) r ∧
    (v = c.protocolVersion ∨ c.protocolVersion = .undetermined) := by
  cases h with
  | tooLarge =>
    obtain ⟨r, hr, href⟩ := c.handleV50Error_spec .packetTooLarge
    exact ⟨c.protocolVersion, r, hr, href, .inl rfl⟩
  | rejected e => exact ⟨c.protocolVersion, _, rfl, refused_reject c e, .inl rfl⟩
  | misread _ _ hv h =>
    obtain ⟨r, hr, href⟩ := h.refused
    exact ⟨_, r, hr, href, hv⟩

/-- The dispatch on a packet type delivers the packet that can be read; what it does with any other
packet satisfies `R`. -/
def Reads (c : GenericConnection w) (R : Outcome (Handled w) → Prop) (x : Outcome (Handled w))
    (packet : Option (GenericPacket w)) : Prop :=
  match packet with
  | some packet => x = c.deliver packet
  | none => R x

section Reads

variable {R : Outcome (Handled w) → Prop} {y : Fallible MqttError (α × ℕ)} {f : α → GenericPacket w}
  {Q : α × ℕ → Prop}

theorem parsed_reads {onPacket : α → Outcome (Handled w)} {onError : MqttError → Outcome (Handled w)}
    (hy : y.Yields Q) (hp : ∀ p, onPacket p = c.deliver (f p)) (he : ∀ e, R (onError e)) :
    c.Reads R (parsed y onPacket onError) (readAs y f) := by
  cases y with
  | ok a => exact hp a.1
  | err e => exact he e
  | panic => exact hy.elim

/-- A CONNECT on a connection that is not closed is refused before it is parsed. -/
theorem unparsed_reads (hx : R x) (hf : ∀ p, c.deliver (f p) = x) :
    c.Reads R x (readAs y f) := by
  cases y with
  | ok a => exact (hf a.1).symm
  | err e => exact hx
  | panic => exact hx

end Reads

theorem publishData_rawPacket {h : UInt8} (body : Bytes) (hh : h.toNat / 16 = 3) :
    publishData (rawPacket h body) = .ret body := by
  simp [rawPacket, publishData, and_f0_eq_30, hh]

theorem processRecvV311Connect_reads (hv : c.protocolVersion = .v311) {data : Bytes}
    (hmax : data.length ≤ VariableByteInteger.max) (hp : connect) : c.Reads (Misread c connect)
      (c.processRecvV311Connect data) (readAs (V311.Connect.parse data) .v311Connect) := by
  unfold processRecvV311Connect
  by_cases hc : c.status = .disconnected
  · rw [if_neg (by simp [hc])]
    refine parsed_reads (V311.Connect.parses_parse hmax) (fun p ↦ ?_) fun e ↦ .refusedV311 e hv hc hp
    simp [deliver, hc]
  · rw [if_pos hc]
    exact unparsed_reads (.closed _ hv) fun p ↦ by simp [deliver, hc]

theorem processRecvV50Connect_reads (hv : c.protocolVersion = .v50) {data : Bytes}
    (hmax : data.length ≤ VariableByteInteger.max) (hp : connect) : c.Reads (Misread c connect)
      (c.processRecvV50Connect data) (readAs (V50.Connect.parse data) .v50Connect) := by
  unfold processRecvV50Connect
  by_cases hc : c.status = .disconnected
  · rw [if_neg (by simp [hc])]
    refine parsed_reads (V50.Connect.parses_parse hmax) (fun p ↦ ?_) fun e ↦ .refusedV50 e hv hc hp
    simp [deliver, hc]
  · rw [if_pos hc]
    exact unparsed_reads (.disconnected _ hv) fun p ↦ by simp [deliver, hc]

theorem misread_connected (hv : c.protocolVersion = .v50) (e : MqttError) :
    Misread c connect (c.handleV50ErrorConnected e) := by
  unfold handleV50ErrorConnected
  split
  · exact .disconnected e hv
  · exact .ignored e hv ‹_›

theorem packetType_lt (h : UInt8) : h.toNat / 16 < 16 := by
  have := h.toNat_lt
  omega

theorem knows_rawPacket (v : Version) (h : UInt8) (body : Bytes) :
    knows v (rawPacket h body).packetType ↔
      1 ≤ h.toNat / 16 ∧ (h.toNat / 16 ≤ 14 ∨ h.toNat / 16 ≤ 15 ∧ v = .v50) := by
  simp [knows, UInt8.le_iff_toNat_le, packetType_rawPacket]

def Unread (c : GenericConnection w) (known : Bool) (connect : Prop) (x : Outcome (Handled w)) :
    Prop :=
  if known then Misread c connect x else ∃ e, x = .ret (c.reject e)

theorem packetType_eq_one {h : UInt8} {body : Bytes} (ht : h.toNat / 16 = 1) :
    (rawPacket h body).packetType = 1 := by
  rw [← UInt8.toNat_inj, packetType_rawPacket, ht]
  rfl

theorem processRecvV311_reads (hv : c.protocolVersion = .v311) {h : UInt8} {body : Bytes}
    (hmax : body.length < VariableByteInteger.max) :
    c.Reads (c.Unread (knows .v311 (rawPacket h body).packetType)
      ((rawPacket h body).packetType = 1))
      (c.processRecvV311 (rawPacket h body)) (readV311 (rawPacket h body)) := by
  have he (e : MqttError) : Misread c ((rawPacket h body).packetType = 1) (c.handleV311Error e) :=
    .closed e hv
  have hlt := packetType_lt h
  have hknows := knows_rawPacket .v311 h body
  obtain ⟨t, ht⟩ : ∃ t, h.toNat / 16 = t := ⟨_, rfl⟩
  unfold processRecvV311 readV311
  rw [packetType_rawPacket]
  simp only [dataAsSlice_rawPacket]
  rw [ht] at hlt hknows ⊢
  by_cases hk : 1 ≤ t ∧ t ≤ 14
  · have : c.Unread (knows .v311 (rawPacket h body).packetType) ((rawPacket h body).packetType = 1) =
        Misread c ((rawPacket h body).packetType = 1) := by
      funext x
      exact if_pos (hknows.mpr ⟨hk.1, .inl hk.2⟩)
    rw [this]
    obtain ⟨hk, hk'⟩ := hk
    interval_cases t
    · exact processRecvV311Connect_reads hv hmax.le (packetType_eq_one ht)
    · exact parsed_reads V311.Connack.parses_parse (fun _ ↦ rfl) he
    · simp only [processRecvV311Publish, publishData_rawPacket body ht, Outcome.ret_bind]
      exact parsed_reads (V311.Publish.parses_parse _ hmax.le) (fun _ ↦ rfl) he
    · exact parsed_reads V311.Ack.parses_parse (fun _ ↦ rfl) he
    · exact parsed_reads V311.Ack.parses_parse (fun _ ↦ rfl) he
    · exact parsed_reads V311.Ack.parses_parse (fun _ ↦ rfl) he
    · exact parsed_reads V311.Ack.parses_parse (fun _ ↦ rfl) he
    · exact parsed_reads (V311.Subscribe.parses_parse hmax.le) (fun _ ↦ rfl) he
    · exact parsed_reads (V311.Suback.parses_parse hmax.le) (fun _ ↦ rfl) he
    · exact parsed_reads (V311.Unsubscribe.parses_parse hmax.le) (fun _ ↦ rfl) he
    · exact parsed_reads V311.Unsuback.parses_parse (fun _ ↦ rfl) he
    · exact parsed_reads V311.Empty.parses_parse (fun _ ↦ rfl) he
    · exact parsed_reads V311.Empty.parses_parse (fun _ ↦ rfl) he
    · exact parsed_reads V311.Empty.parses_parse (fun _ ↦ rfl) he
  · have hfalse : ¬ knows .v311 (rawPacket h body).packetType := by
      rw [hknows]
      simp
      omega
    have hrejects (e : MqttError) : c.Unread (knows .v311 (rawPacket h body).packetType)
        ((rawPacket h body).packetType = 1) (.ret (c.reject e)) := (if_neg hfalse).mpr ⟨e, rfl⟩
    obtain rfl | rfl : t = 0 ∨ t = 15 := by omega
    · exact hrejects _
    · exact hrejects _

theorem processRecvV50_reads (hv : c.protocolVersion = .v50) {h : UInt8} {body : Bytes}
    (hmax : body.length < VariableByteInteger.max) :
    c.Reads (c.Unread (knows .v50 (rawPacket h body).packetType)
      ((rawPacket h body).packetType = 1))
      (c.processRecvV50 (rawPacket h body)) (readV50 (rawPacket h body)) := by
  have he (e : MqttError) : Misread c ((rawPacket h body).packetType = 1) (c.handleV50Error e) :=
    .disconnected e hv
  have hlt := packetType_lt h
  have hknows := knows_rawPacket .v50 h body
  obtain ⟨t, ht⟩ : ∃ t, h.toNat / 16 = t := ⟨_, rfl⟩
  unfold processRecvV50 readV50
  rw [packetType_rawPacket]
  simp only [dataAsSlice_rawPacket]
  rw [ht] at hlt hknows ⊢
  by_cases hk : 1 ≤ t
  · have : c.Unread (knows .v50 (rawPacket h body).packetType) ((rawPacket h body).packetType = 1) =
        Misread c ((rawPacket h body).packetType = 1) := by
      funext x
      exact if_pos (hknows.mpr ⟨hk, .inr ⟨by omega, rfl⟩⟩)
    rw [this]
    interval_cases t
    · exact processRecvV50Connect_reads hv hmax.le (packetType_eq_one ht)
    · exact parsed_reads (V50.Connack.parses_parse hmax.le) (fun _ ↦ rfl) (misread_connected hv)
    · simp only [processRecvV50Publish, publishData_rawPacket body ht, Outcome.ret_bind]
      exact parsed_reads (V50.Publish.parses_parse _ hmax.le) (fun _ ↦ rfl) (misread_connected hv)
    · exact parsed_reads (V50.Ack.parses_parse hmax.le) (fun _ ↦ rfl) he
    · exact parsed_reads (V50.Ack.parses_parse hmax.le) (fun _ ↦ rfl) he
    · exact parsed_reads (V50.Ack.parses_parse hmax.le) (fun _ ↦ rfl) he
    · exact parsed_reads (V50.Ack.parses_parse hmax.le) (fun _ ↦ rfl) he
    · exact parsed_reads (V50.Subscribe.parses_parse hmax.le) (fun _ ↦ rfl) he
    · exact parsed_reads (V50.Suback.parses_parse hmax.le) (fun _ ↦ rfl) he
    · exact parsed_reads (V50.Unsubscribe.parses_parse hmax.le) (fun _ ↦ rfl) he
    · exact parsed_reads (V50.Unsuback.parses_parse hmax.le) (fun _ ↦ rfl) he
    · exact parsed_reads V311.Empty.parses_parse (fun _ ↦ rfl) he
    · exact parsed_reads V311.Empty.parses_parse (fun _ ↦ rfl) he
    · exact parsed_reads (V50.Disconnect.parses_parse hmax.le) (fun _ ↦ rfl) he
    · exact parsed_reads (V50.Auth.parses_parse hmax.le) (fun _ ↦ rfl) he
  · have hfalse : ¬ knows .v50 (rawPacket h body).packetType := by
      rw [hknows]
      omega
    obtain rfl : t = 0 := by omega
    exact (if_neg hfalse).mpr ⟨_, rfl⟩

theorem remainingLength_rawPacket {h : UInt8} {body : Bytes}
    (hmax : body.length < VariableByteInteger.max) :
    (rawPacket h body).remainingLength = .ret body.length := by
  have hs : (rawPacket h body).data.asSlice = body := dataAsSlice_rawPacket h body
  unfold RawPacket.remainingLength PacketData.len
  rw [hs, if_pos (by rw [VariableByteInteger.u32Max]; rw [VariableByteInteger.max] at hmax; omega)]

@[simp] theorem determine_self (c : GenericConnection w) : c.determine c.protocolVersion = c := rfl

def Delivers (c : GenericConnection w) (R : Outcome (Handled w) → Prop) (x : Outcome (Handled w))
    (arrived : Option (Version × GenericPacket w)) : Prop :=
  match arrived with
  | some (v, packet) => x = (c.determine v).deliver packet ∧
      (v = c.protocolVersion ∨ c.protocolVersion = .undetermined)
  | none => R x

theorem Reads.delivers {R R' : Outcome (Handled w) → Prop} {o : Option (GenericPacket w)}
    (h : (c.determine v).Reads R' x o) (hv : v = c.protocolVersion ∨ c.protocolVersion = .undetermined)
    (hR : R' x → R x) : c.Delivers R x (o.map (v, ·)) := by
  cases o with
  | none => exact hR h
  | some packet => exact ⟨h, hv⟩

theorem processRecvUndetermined_delivers {h : UInt8} {body : Bytes}
    (hmax : body.length < VariableByteInteger.max) (hv : c.protocolVersion = .undetermined)
    (hsize : ¬ c.oversize (rawPacket h body)) (hrecv : c.canReceive (rawPacket h body).packetType) :
    c.Delivers (c.Refusal (rawPacket h body)) (c.processRecvUndetermined (rawPacket h body))
      (if (rawPacket h body).packetType = 1 ∧ 7 ≤ body.length then
        match (body[6]? : Option UInt8) with
        | some 4 => (readV311 (rawPacket h body)).map (.v311, ·)
        | some 5 => (readV50 (rawPacket h body)).map (.v50, ·)
        | _ => none
      else none) := by
  have htakes : c.takes (rawPacket h body) ↔ (rawPacket h body).packetType = 1 ∧ 7 ≤ body.length ∧
      (body[6]? = some 4 ∨ body[6]? = some 5) := by
    simp [takes, hrecv, hv]
  have hreject (e : MqttError) (hno : ¬ c.takes (rawPacket h body)) :
      c.Refusal (rawPacket h body) (.ret (c.reject e)) := .rejected e hsize hno
  unfold processRecvUndetermined
  rw [remainingLength_rawPacket hmax, dataAsSlice_rawPacket]
  by_cases ht : (rawPacket h body).packetType = 1
  swap
  · rw [if_neg ht, if_neg (by tauto)]
    exact hreject _ (by rw [htakes]; tauto)
  have h311 : readV311 (rawPacket h body) = readAs (w := w) (V311.Connect.parse body) .v311Connect := by
    simp [readV311, ht]
  have h50 : readV50 (rawPacket h body) = readAs (w := w) (V50.Connect.parse body) .v50Connect := by
    simp [readV50, ht]
  by_cases hlen : 7 ≤ body.length
  swap
  · rw [if_pos ht, if_neg (by tauto), Outcome.ret_bind, if_pos (by omega)]
    exact hreject _ (by rw [htakes]; tauto)
  rw [if_pos ht, if_pos ⟨ht, hlen⟩, Outcome.ret_bind, if_neg (by omega), h311, h50]
  have hsome : body[6]? = some body[6] := List.getElem?_eq_getElem (by omega)
  rw [hsome] at htakes ⊢
  split
  · cases ‹some _ = none›
  · rename_i hb
    rw [hb]
    refine (processRecvV311Connect_reads rfl hmax.le ht).delivers (.inr hv) fun h ↦ ?_
    exact .misread hsize (htakes.mpr ⟨ht, hlen, .inl hb⟩) (.inr hv) h
  · rename_i hb
    rw [hb]
    refine (processRecvV50Connect_reads rfl hmax.le ht).delivers (.inr hv) fun h ↦ ?_
    exact .misread hsize (htakes.mpr ⟨ht, hlen, .inr hb⟩) (.inr hv) h
  · rename_i h4 h5 hb
    obtain rfl := Option.some.inj hb
    split
    · exact (h4 (Option.some.inj ‹_›)).elim
    · exact (h5 (Option.some.inj ‹_›)).elim
    · exact hreject _ (by rw [htakes]; tauto)

theorem Unread.refusal (h : c.Unread (knows v raw.packetType) (raw.packetType = 1) x) (hv : c.protocolVersion = v)
    (hne : v ≠ .undetermined) (hsize : ¬ c.oversize raw) (hrecv : c.canReceive raw.packetType) :
    c.Refusal raw x := by
  have htakes : c.takes raw ↔ knows v raw.packetType := by
    unfold takes
    rw [hv]
    cases v with
    | undetermined => exact (hne rfl).elim
    | _ => simp [hrecv]
  unfold Unread at h
  split at h
  · exact .misread hsize (htakes.mpr ‹_›) (.inl rfl) h
  · obtain ⟨e, rfl⟩ := h
    exact .rejected e hsize (by rwa [htakes])

theorem readAs_eq {α : Type} {y : Fallible MqttError (α × ℕ)} {f : α → GenericPacket w}
    (h : readAs y f = some packet) : ∃ a, packet = f a := by
  cases y with
  | ok a => exact ⟨a.1, (Option.some.inj h).symm⟩
  | err e => cases h
  | panic => cases h

theorem readV311_some (h : readV311 raw = some packet) :
    packet.protocolVersion = .v311 ∧ knows .v311 raw.packetType := by
  unfold readV311 at h
  split at h
  all_goals first
    | rename_i ht
      obtain ⟨a, rfl⟩ := readAs_eq h
      exact ⟨rfl, by simp [knows, UInt8.le_iff_toNat_le, ht]⟩
    | cases h

theorem readV50_some (h : readV50 raw = some packet) :
    packet.protocolVersion = .v50 ∧ knows .v50 raw.packetType := by
  unfold readV50 at h
  split at h
  all_goals first
    | rename_i ht
      obtain ⟨a, rfl⟩ := readAs_eq h
      exact ⟨rfl, by simp [knows, UInt8.le_iff_toNat_le, ht]⟩
    | cases h

/-- A packet that arrives has a handler, which reads it in its own version. -/
theorem arrived_some (h : c.arrived raw = some (v, packet)) :
    ¬ c.oversize raw ∧ c.takes raw ∧ packet.protocolVersion = v := by
  unfold arrived at h
  split at h
  · cases h
  rename_i hsize
  split at h
  · cases h
  rename_i hrecv
  have hsize' : ¬ c.oversize raw := by simpa [oversize] using hsize
  have hrecv' : c.canReceive raw.packetType := not_not.mp hrecv
  refine ⟨hsize', ?_⟩
  unfold takes
  rw [hrecv', Bool.true_and]
  cases hv : c.protocolVersion with
  | v311 =>
    rw [hv] at h
    obtain ⟨p, hp, hret⟩ := Option.map_eq_some_iff.mp h
    obtain ⟨rfl, rfl⟩ := Prod.mk.inj hret
    exact (readV311_some hp).symm
  | v50 =>
    rw [hv] at h
    obtain ⟨p, hp, hret⟩ := Option.map_eq_some_iff.mp h
    obtain ⟨rfl, rfl⟩ := Prod.mk.inj hret
    exact (readV50_some hp).symm
  | undetermined =>
    rw [hv] at h
    dsimp only at h ⊢
    split at h
    swap
    · cases h
    rename_i ht
    split at h
    · rename_i hb
      obtain ⟨p, hp, hret⟩ := Option.map_eq_some_iff.mp h
      obtain ⟨rfl, rfl⟩ := Prod.mk.inj hret
      exact ⟨by simp [ht, hb], (readV311_some hp).1⟩
    · rename_i hb
      obtain ⟨p, hp, hret⟩ := Option.map_eq_some_iff.mp h
      obtain ⟨rfl, rfl⟩ := Prod.mk.inj hret
      exact ⟨by simp [ht, hb], (readV50_some hp).1⟩
    · cases h

theorem protocolVersion_ne (packet : GenericPacket w) : packet.protocolVersion ≠ .undetermined := by
  cases packet <;> simp [GenericPacket.protocolVersion]

theorem arrived_version (h : c.arrived raw = some (v, packet)) : v ≠ .undetermined :=
  (arrived_some h).2.2 ▸ protocolVersion_ne packet

/-- `process_recv_packet` delivers the packet that arrived, in its version, or refuses it. -/
theorem processRecvPacket_delivers (c : GenericConnection w) {h : UInt8} {body : Bytes}
    (hmax : body.length < VariableByteInteger.max) : c.Delivers (c.Refusal (rawPacket h body))
      (c.processRecvPacket (rawPacket h body)) (c.arrived (rawPacket h body)) := by
  unfold processRecvPacket arrived
  rw [remainingLength_rawPacket hmax, Outcome.ret_bind]
  have hsize : c.oversize (rawPacket h body) ↔
      remainingLengthToTotalSize body.length > c.maximumPacketSizeRecv := by simp [oversize]
  simp only [dataAsSlice_rawPacket]
  split
  · exact .tooLarge (hsize.mpr ‹_›)
  have hsize' : ¬ c.oversize (rawPacket h body) := by rwa [hsize]
  by_cases hrecv : c.canReceive (rawPacket h body).packetType
  swap
  · rw [if_pos hrecv, if_pos hrecv]
    exact .rejected _ hsize' (by simp [takes, hrecv])
  rw [if_neg (not_not.mpr hrecv), if_neg (not_not.mpr hrecv)]
  cases hv : c.protocolVersion with
  | v311 =>
    have hc : c.determine .v311 = c := hv ▸ determine_self c
    have hreads : (c.determine .v311).Reads (c.Unread (knows .v311 (rawPacket h body).packetType)
      ((rawPacket h body).packetType = 1))
        (c.processRecvV311 (rawPacket h body)) (readV311 (rawPacket h body)) := by
      rw [hc]
      exact processRecvV311_reads hv hmax
    exact hreads.delivers (.inl hv.symm) fun h ↦ h.refusal hv (by simp) hsize' hrecv
  | v50 =>
    have hc : c.determine .v50 = c := hv ▸ determine_self c
    have hreads : (c.determine .v50).Reads (c.Unread (knows .v50 (rawPacket h body).packetType)
      ((rawPacket h body).packetType = 1))
        (c.processRecvV50 (rawPacket h body)) (readV50 (rawPacket h body)) := by
      rw [hc]
      exact processRecvV50_reads hv hmax
    exact hreads.delivers (.inl hv.symm) fun h ↦ h.refusal hv (by simp) hsize' hrecv
  | undetermined => exact processRecvUndetermined_delivers hmax hv hsize' hrecv

def Processes (c : GenericConnection w) (x : Outcome (Handled w))
    (arrived : Option (Version × GenericPacket w)) : Prop :=
  match arrived with
  | some (v, packet) => x = (c.determine v).deliver packet ∧
      (v = c.protocolVersion ∨ c.protocolVersion = .undetermined)
  | none => ∃ v r, x = .ret r ∧ Refused (c.determine v) r ∧
      (v = c.protocolVersion ∨ c.protocolVersion = .undetermined)

theorem processRecvPacket_spec (c : GenericConnection w) {h : UInt8} {body : Bytes}
    (hmax : body.length < VariableByteInteger.max) :
    c.Processes (c.processRecvPacket (rawPacket h body)) (c.arrived (rawPacket h body)) := by
  have hdel := c.processRecvPacket_delivers (h := h) hmax
  cases ha : c.arrived (rawPacket h body) with
  | none =>
    rw [ha] at hdel
    exact hdel.refused
  | some a =>
    rw [ha] at hdel
    exact hdel

def Reading (c : GenericConnection w) : Prop := ∃ p, PacketBuilder.Pending c.packetBuilder p

theorem Reading.complete (hc : c.Reading) {data rest : Bytes} {b : PacketBuilder}
    (h : c.packetBuilder.feed data = .ret (b, .complete raw, rest)) : b = .new ∧
      ∃ h body, raw = rawPacket h body ∧ body.length < VariableByteInteger.max := by
  obtain ⟨p, hp⟩ := hc
  obtain ⟨b', result, rest', hfeed, hfed⟩ := PacketBuilder.feed_spec hp data
  obtain ⟨rfl, rfl, rfl⟩ : b' = b ∧ result = .complete raw ∧ rest' = rest := by
    simpa using hfeed.symm.trans h
  cases hfed with
  | @complete header f body _ hf hlen hbody _ =>
    refine ⟨rfl, header, body, rfl, ?_⟩
    have hlt := VariableByteInteger.fieldValue_lt (f := f)
    have hpow : 128 ^ f.length ≤ 128 ^ 3 := Nat.pow_le_pow_right (by norm_num) hlen
    rw [VariableByteInteger.max]
    omega

def Receives (c : GenericConnection w) (x : Outcome (Handled w × Bytes))
    (arrival : Option (Version × GenericPacket w)) : Prop :=
  match arrival with
  | some (v, packet) => ∃ b rest, { c with packetBuilder := b }.Reading ∧
      (v = c.protocolVersion ∨ c.protocolVersion = .undetermined) ∧
      x = (·, rest) <$> ({ c with packetBuilder := b }.determine v).deliver packet
  | none => ∃ b v r rest, { c with packetBuilder := b }.Reading ∧
      (v = c.protocolVersion ∨ c.protocolVersion = .undetermined) ∧ x = .ret (r, rest) ∧
      (Refused ({ c with packetBuilder := b }.determine v) r ∨
        v = c.protocolVersion ∧ r = ({ c with packetBuilder := b }, []))

/-- `recv` reads on, delivers the packet that arrived, or refuses it. -/
theorem recv_spec (hc : c.Reading) (data : Bytes) : c.Receives (c.recv data) (c.arrival data) := by
  obtain ⟨p, hp⟩ := hc
  obtain ⟨b, result, rest, hfeed, hfed⟩ := PacketBuilder.feed_spec hp data
  unfold recv arrival
  rw [hfeed]
  cases hfed with
  | incomplete hb =>
    exact ⟨b, c.protocolVersion, _, [], ⟨_, hb⟩, .inl rfl, rfl, .inr ⟨rfl, rfl⟩⟩
  | error _ _ _ =>
    refine ⟨_, c.protocolVersion, _, rest, ⟨_, .header⟩, .inl rfl, rfl, .inl ?_⟩
    refine ⟨rfl, id, ?_, ?_, ?_, ?_⟩ <;> simp
  | @complete h f body _ hf hlen hbody _ =>
    obtain ⟨-, h', body', heq, hmax⟩ := Reading.complete ⟨p, hp⟩ hfeed
    rw [heq]
    have hpr := { c with packetBuilder := .new }.processRecvPacket_spec (h := h') hmax
    have hsame : { c with packetBuilder := .new }.arrived (rawPacket h' body') =
        c.arrived (rawPacket h' body') := rfl
    rw [hsame] at hpr
    simp only [Outcome.ret_bind]
    cases ha : c.arrived (rawPacket h' body') with
    | none =>
      rw [ha] at hpr
      obtain ⟨v, r, hr, href, hv⟩ := hpr
      exact ⟨_, v, r, rest, ⟨_, .header⟩, hv, by rw [hr]; rfl, .inl href⟩
    | some a =>
      rw [ha] at hpr
      exact ⟨_, rest, ⟨_, .header⟩, hpr.2, by rw [hpr.1]; rfl⟩

/-- What a call of `recv` has done when it returns. -/
inductive RecvCase (c : GenericConnection w) (data : Bytes) : Handled w × Bytes → Prop where
  | incomplete {b : PacketBuilder} {rest : Bytes} :
      c.packetBuilder.feed data = .ret (b, .incomplete, rest) →
      RecvCase c data (({ c with packetBuilder := b }, []), rest)
  | malformed {b : PacketBuilder} {e : MqttError} {rest : Bytes} :
      c.packetBuilder.feed data = .ret (b, .error e, rest) →
      RecvCase c data (({ c with packetBuilder := b }.cancelTimers.1,
        c.cancelTimers.2 ++ [.requestClose, .notifyError e]), rest)
  | refused {b : PacketBuilder} {raw : RawPacket} {rest : Bytes} {r : Handled w} :
      c.packetBuilder.feed data = .ret (b, .complete raw, rest) → c.arrived raw = none →
      Refusal { c with packetBuilder := b } raw (.ret r) → RecvCase c data (r, rest)
  | delivered {b : PacketBuilder} {raw : RawPacket} {rest : Bytes} {v : Version}
      {packet : GenericPacket w} {r : Handled w} :
      c.packetBuilder.feed data = .ret (b, .complete raw, rest) →
      c.arrived raw = some (v, packet) →
      v = c.protocolVersion ∨ c.protocolVersion = .undetermined →
      ({ c with packetBuilder := b }.determine v).deliver packet = .ret r →
      RecvCase c data (r, rest)

theorem recv_cases (hc : c.Reading) {data : Bytes} {r : Handled w × Bytes}
    (hr : c.recv data = .ret r) : c.RecvCase data r := by
  unfold recv at hr
  obtain ⟨⟨b, result, rest⟩, hfeed, hrest⟩ := Outcome.bind_eq_ret.mp hr
  cases result with
  | incomplete =>
    obtain rfl := Outcome.ret.inj hrest
    exact .incomplete hfeed
  | error e =>
    obtain rfl := Outcome.ret.inj hrest
    exact .malformed hfeed
  | complete raw =>
    obtain ⟨rfl, h, body, rfl, hmax⟩ := hc.complete hfeed
    obtain ⟨r', hr', hret⟩ := Outcome.bind_eq_ret.mp hrest
    obtain rfl := Outcome.ret.inj hret
    have hdel := { c with packetBuilder := .new }.processRecvPacket_delivers (h := h) hmax
    have hsame : { c with packetBuilder := .new }.arrived (rawPacket h body) =
        c.arrived (rawPacket h body) := rfl
    rw [hsame, hr'] at hdel
    cases ha : c.arrived (rawPacket h body) with
    | none =>
      rw [ha] at hdel
      exact .refused hfeed ha hdel
    | some a =>
      rw [ha] at hdel
      exact .delivered hfeed ha hdel.2 hdel.1.symm

theorem recv_delivers (hc : c.Reading) {data : Bytes} {r : Handled w × Bytes}
    (hr : c.recv data = .ret r) {v : Version} {packet : GenericPacket w}
    (ha : c.arrival data = some (v, packet)) :
    (v = c.protocolVersion ∨ c.protocolVersion = .undetermined) ∧
      ∃ b, ({ c with packetBuilder := b }.determine v).deliver packet = .ret r.1 := by
  cases recv_cases hc hr with
  | incomplete hfeed => simp [arrival, hfeed] at ha
  | malformed hfeed => simp [arrival, hfeed] at ha
  | refused hfeed harr => simp [arrival, hfeed, harr] at ha
  | @delivered b _ _ v' packet' _ hfeed harr hv hdel =>
    obtain ⟨rfl, rfl⟩ : v' = v ∧ packet' = packet := by simpa [arrival, hfeed, harr] using ha
    exact ⟨hv, b, hdel⟩

/-- What comes of bytes that bring no packet. -/
structure Unarrived (c : GenericConnection w) (r : Handled w) : Prop where
  idle : ∃ b v, Idle ({ c with packetBuilder := b }.determine v) r.1
  requested : ∀ p ∈ requested r.2, Silent p
  notified : notified r.2 = []

theorem recv_unarrived (hc : c.Reading) {data : Bytes} {r : Handled w × Bytes}
    (hr : c.recv data = .ret r) (ha : c.arrival data = none) : Unarrived c r.1 := by
  cases recv_cases hc hr with
  | @incomplete b => exact ⟨⟨b, c.protocolVersion, rfl⟩, by simp, rfl⟩
  | @malformed b =>
    refine ⟨⟨b, c.protocolVersion, rfl⟩, ?_, ?_⟩
    · simp [timersOnly_cancelTimers.requested]
    · simp [timersOnly_cancelTimers.notified]
  | @refused b _ _ _ _ _ href =>
    obtain ⟨v, r', hr', hrefused, -⟩ := href.refused
    obtain rfl := Outcome.ret.inj hr'
    exact ⟨⟨b, v, hrefused.idle⟩, hrefused.requested, hrefused.notified⟩
  | delivered hfeed harr => simp [arrival, hfeed, harr] at ha

end MqttProtocolCore.Connection.GenericConnection
