import MqttProtocolCore.Connection.Dispatch
import MqttProtocolCore.Packet.Codec.GenericWire

namespace MqttProtocolCore.Connection

open General Packet

variable {w : IdWidth}

def readFrame (v : Version) (raw : RawPacket) : Option (GenericPacket w) :=
  match v with
  | .v311 => readV311 raw
  | .v50 => readV50 raw
  | .undetermined => none

def readBack (v : Version) (bytes : Bytes) : Option (GenericPacket w) :=
  readFrame v (rawPacket (bytes.headD 0) (frameBody bytes))

/-- The lengths of a packet are right, and it is read back from its own bytes. -/
structure Wired (p : GenericPacket w) : Prop where
  lengths : LengthsAgree p
  read : readBack p.protocolVersion p.toContinuousBuffer = some p

section Wired

variable {P : Type} [GenericPacketTrait P] {p : P} {f : P → GenericPacket w} {header : UInt8}
  {remainingLength : VariableByteInteger} {body : Bytes} {x : Fallible MqttError (P × ℕ)}
  {g : Bytes → Fallible MqttError (P × ℕ)} {packet : GenericPacket w} {v : Version}

omit [GenericPacketTrait P] in
theorem readAs_eq_some : readAs x f = some packet ↔ ∃ a n, x = .ok (a, n) ∧ f a = packet := by
  cases x with
  | ok r =>
    obtain ⟨a, n⟩ := r
    simp [readAs]
  | _ => simp [readAs]

theorem readBack_laidOut (h : LaidOut packet header remainingLength body) :
    readBack v packet.toContinuousBuffer = readFrame (w := w) v (rawPacket header body) := by
  have hbytes : packet.toContinuousBuffer = header :: (remainingLength.asBytes ++ body) := h.bytes
  have hbody : frameBody packet.toContinuousBuffer = body := h.frameBody
  rw [readBack, hbody, hbytes]
  rfl

/-- A packet is wired when its lengths are right and its parser gives it back. -/
theorem wired_iff (h : LaidOut p header remainingLength body)
    (hf : LaidOut (f p) header remainingLength body) (hinj : ∀ a b, f a = f b → a = b)
    (hread : readFrame (f p).protocolVersion (rawPacket header body) = readAs (g body) f) :
    Wired (f p) ↔ LengthsAgree p ∧ ∃ n, g body = .ok (p, n) := by
  have hlen : LengthsAgree (f p) ↔ LengthsAgree p :=
    hf.lengthsAgree_iff.trans h.lengthsAgree_iff.symm
  have hback : readBack (f p).protocolVersion (f p).toContinuousBuffer = some (f p) ↔
      ∃ n, g body = .ok (p, n) := by
    rw [readBack_laidOut hf, hread, readAs_eq_some]
    constructor
    · rintro ⟨a, n, ha, heq⟩
      obtain rfl := hinj a p heq
      exact ⟨n, ha⟩
    · intro ⟨n, hn⟩
      exact ⟨p, n, hn, rfl⟩
  rw [← hlen, ← hback]
  constructor
  · intro hw
    exact ⟨hw.lengths, hw.read⟩
  · intro hw
    exact ⟨hw.1, hw.2⟩

end Wired

/-- A packet that one of the builders has made. -/
inductive Built : GenericPacket w → Prop where
  | v311Connect {cs : List ConnectCall} {b : ConnectBuilder} {p : V311.Connect} :
      ConnectBuilder.new.calls cs = .ok b → V311.Connect.build b = .ok p → Built (.v311Connect p)
  | v311Connack {b : V311.ConnackBuilder} {p : V311.Connack} :
      b.build = .ok p → Built (.v311Connack p)
  | v311Publish {b : V311.PublishBuilder w} {p : V311.Publish w} :
      V311.Publish.build b = .ok p → Built (.v311Publish p)
  | v311Puback {b : V311.AckBuilder w PubackReasonCode} {p : V311.Puback w} :
      b.build = .ok p → Built (.v311Puback p)
  | v311Pubrec {b : V311.AckBuilder w PubrecReasonCode} {p : V311.Pubrec w} :
      b.build = .ok p → Built (.v311Pubrec p)
  | v311Pubrel {b : V311.AckBuilder w PubrelReasonCode} {p : V311.Pubrel w} :
      b.build = .ok p → Built (.v311Pubrel p)
  | v311Pubcomp {b : V311.AckBuilder w PubcompReasonCode} {p : V311.Pubcomp w} :
      b.build = .ok p → Built (.v311Pubcomp p)
  | v311Subscribe {b : V311.ListingBuilder w SubEntry} {p : V311.Subscribe w} :
      V311.Listing.build b = .ok p → Built (.v311Subscribe p)
  | v311Suback {b : V311.ListingBuilder w SubackReturnCode} {p : V311.Suback w} :
      V311.Listing.build b = .ok p → Built (.v311Suback p)
  | v311Unsubscribe {b : V311.ListingBuilder w MqttString} {p : V311.Unsubscribe w} :
      V311.Listing.build b = .ok p → Built (.v311Unsubscribe p)
  | v311Unsuback {id : Option (PacketId w)} {p : V311.Unsuback w} :
      V311.Unsuback.build id = .ok p → Built (.v311Unsuback p)
  | v311Pingreq {p : V311.Pingreq} : V311.Empty.new = .ok p → Built (.v311Pingreq p)
  | v311Pingresp {p : V311.Pingresp} : V311.Empty.new = .ok p → Built (.v311Pingresp p)
  | v311Disconnect {p : V311.Disconnect} : V311.Empty.new = .ok p → Built (.v311Disconnect p)
  | v50Connect {cs : List V50.ConnectCall} {b : V50.ConnectBuilder} {p : V50.Connect} :
      V50.ConnectBuilder.new.calls cs = .ok b → V50.Connect.build b = .ok p → Built (.v50Connect p)
  | v50Connack {b : V50.ConnackBuilder} {p : V50.Connack} : b.build = .ok p → Built (.v50Connack p)
  | v50Publish {b : V50.PublishBuilder w} {p : V50.Publish w} :
      V50.Publish.build b = .ok p → Built (.v50Publish p)
  | v50Puback {b : V50.AckBuilder w PubackReasonCode} {p : V50.Puback w} :
      b.build = .ok p → Built (.v50Puback p)
  | v50Pubrec {b : V50.AckBuilder w PubrecReasonCode} {p : V50.Pubrec w} :
      b.build = .ok p → Built (.v50Pubrec p)
  | v50Pubrel {b : V50.AckBuilder w PubrelReasonCode} {p : V50.Pubrel w} :
      b.build = .ok p → Built (.v50Pubrel p)
  | v50Pubcomp {b : V50.AckBuilder w PubcompReasonCode} {p : V50.Pubcomp w} :
      b.build = .ok p → Built (.v50Pubcomp p)
  | v50Subscribe {b : V50.ListingBuilder w SubEntry} {p : V50.Subscribe w} :
      V50.Listing.build b = .ok p → Built (.v50Subscribe p)
  | v50Suback {b : V50.ListingBuilder w SubackReasonCode} {p : V50.Suback w} :
      V50.Listing.build b = .ok p → Built (.v50Suback p)
  | v50Unsubscribe {b : V50.ListingBuilder w MqttString} {p : V50.Unsubscribe w} :
      V50.Listing.build b = .ok p → Built (.v50Unsubscribe p)
  | v50Unsuback {b : V50.ListingBuilder w UnsubackReasonCode} {p : V50.Unsuback w} :
      V50.Listing.build b = .ok p → Built (.v50Unsuback p)
  | v50Pingreq {p : V311.Pingreq} : V311.Empty.new = .ok p → Built (.v50Pingreq p)
  | v50Pingresp {p : V311.Pingresp} : V311.Empty.new = .ok p → Built (.v50Pingresp p)
  | v50Disconnect {b : V50.DisconnectBuilder} {p : V50.Disconnect} :
      b.build = .ok p → Built (.v50Disconnect p)
  | v50Auth {b : V50.AuthBuilder} {p : V50.Auth} : V50.Auth.build b = .ok p → Built (.v50Auth p)

/-- A CONNECT of version 5.0 has properties of a will only together with a will. -/
def WillGiven : GenericPacket w → Prop
  | .v50Connect p => willFlag p.connectFlags ∨ p.willProps = []
  | _ => True

section Built

variable {P : Type} [GenericPacketTrait P] {p : P} {f : P → GenericPacket w} {header : UInt8}
  {remainingLength : VariableByteInteger} {body : Bytes} {g : Bytes → Fallible MqttError (P × ℕ)}

theorem wired_iff_agree (h : LaidOut p header remainingLength body)
    (hsize : (f p).size = GenericPacketTrait.size p)
    (hbuffers : (f p).toBuffers = GenericPacketTrait.toBuffers p)
    (hbytes : (f p).toContinuousBuffer = GenericPacketTrait.toContinuousBuffer p)
    (hinj : ∀ a b, f a = f b → a = b)
    (hread : readFrame (f p).protocolVersion (rawPacket header body) = readAs (g body) f)
    (hwill : WillGiven (f p)) (hround : LengthsAgree p → RoundTrips g p) :
    Wired (f p) ↔ LengthsAgree (f p) ∧ WillGiven (f p) := by
  have hf : LaidOut (f p) header remainingLength body := h.lift hsize hbuffers hbytes
  rw [wired_iff h hf hinj hread, hf.lengthsAgree_iff, ← h.lengthsAgree_iff]
  constructor
  · intro hw
    exact ⟨hw.1, hwill⟩
  · intro hl
    exact ⟨hl.1, _, h.roundTrips_iff.mp (hround hl.1)⟩

theorem roundTrips_of_faithful {B : Type} {build : B → Fallible MqttError P} {short : B → Prop}
    {plain : Bytes → Prop} {b : B} (h : Faithful build g short plain) (hb : build b = .ok p)
    (hshort : short b) : RoundTrips g p :=
  ((h.built b p hb).mpr hshort).2

attribute [local simp] readFrame readV311 readV50 GenericPacket.protocolVersion packetType_rawPacket
  PacketType.toFixedHeader V50.AckCode.packetType ListingEntry.packetType

theorem header_div (h : PublishHeader) : h.toU8.toNat / 16 = 3 := by
  obtain ⟨dup, qos, retain⟩ := h
  cases dup <;> cases qos <;> cases retain <;> decide

theorem flags_rawPacket (h : UInt8) (body : Bytes) : (rawPacket h body).flags = h &&& 0x0F := rfl

theorem readFrame_v311Publish (p : V311.Publish w) :
    readFrame (w := w) .v311 (rawPacket p.fixedHeader.toU8 p.bodyBytes) =
      readAs (V311.Publish.parse (frameFlags p.toContinuousBuffer) p.bodyBytes) .v311Publish := by
  have hflags : frameFlags p.toContinuousBuffer = p.fixedHeader.toU8 &&& 0x0F := p.laidOut.frameFlags
  simp [header_div, flags_rawPacket, hflags]

theorem readFrame_v50Publish (p : V50.Publish w) :
    readFrame (w := w) .v50 (rawPacket p.fixedHeader.toU8 p.bodyBytes) =
      readAs (V50.Publish.parse (frameFlags p.toContinuousBuffer) p.bodyBytes) .v50Publish := by
  have hflags : frameFlags p.toContinuousBuffer = p.fixedHeader.toU8 &&& 0x0F := p.laidOut.frameFlags
  simp [header_div, flags_rawPacket, hflags]

/-- An UNSUBACK whose lengths agree has an identifier of two bytes. -/
theorem unsuback_roundTrips {id : Option (PacketId w)} {p : V311.Unsuback w}
    (hb : V311.Unsuback.build id = .ok p) (h : LengthsAgree p) :
    RoundTrips V311.Unsuback.parse p := by
  have hround := V311.Unsuback.framed.roundTrips_iff p
  have hlen := (V311.Unsuback.framed.lengthsAgree_iff p).mp h
  rw [hround, V311.Unsuback.length_bodyBytes] at *
  cases id with
  | none => cases hb
  | some id =>
    obtain ⟨⟨⟩, -, hb⟩ := Fallible.bind_eq_ok.mp hb
    obtain ⟨r, hr, hb⟩ := Fallible.bind_eq_ok.mp hb
    cases hb
    rw [← hlen, lengthOf_eq_ok.mp hr]
    exact ⟨trivial, hr⟩

/-- A CONNECT whose lengths agree is valid when a will comes with the properties of a will. -/
theorem v50Connect_valid_iff {cs : List V50.ConnectCall} {b : V50.ConnectBuilder} {p : V50.Connect}
    (hc : V50.ConnectBuilder.new.calls cs = .ok b) (hb : V50.Connect.build b = .ok p)
    (h : LengthsAgree p) : p.Valid ↔ willFlag p.connectFlags ∨ p.willProps = [] := by
  obtain ⟨-, hps, hwps, -⟩ := V50.calls_setters (f := .initial) hc rfl rfl
  obtain ⟨-, hp, -⟩ := V50.Connect.build_eq_ok.mp hb
  obtain ⟨hlen, hwlen⟩ := (V50.Connect.agreesWhen b p hb).mp h
  rw [← hp.connectFlags, ← hp.willProps] at hwlen
  rw [← hp.willProps] at hwps
  rw [V50.valid_iff_of_build hc hb, ← V50.willFlag_of_build hc hb]
  unfold V50.asked
  rw [← hps, ← hwps]
  by_cases hw : willFlag p.connectFlags = true
  · simp [hw, hlen, hwlen hw]
  · simp [hw, hlen]

theorem listing_roundTrips {α : Type} [V50.PropsEntry α] {b : V50.ListingBuilder w α}
    {p : V50.Listing w α} (hb : V50.Listing.build b = .ok p) (h : LengthsAgree p) :
    RoundTrips V50.Listing.parseListing p := by
  have hlt := (V50.Listing.agreesWhen b p hb).mp h
  apply (V50.Listing.roundTrips_of_build hb).mpr
  dsimp only [V50.ListingBuilder.encodedSize] at hlt
  omega

theorem valid_of_parse {G : Format UInt8 P} {valid : P → Prop} {bytes : P → Bytes}
    {length : P → VariableByteInteger} (h : Framed g G valid bytes length) {data : Bytes} {n : ℕ}
    (hp : g data = .ok (p, n)) : valid p := by
  obtain ⟨code, rest, -, -, hG, -⟩ := h.sound hp
  exact h.shortest.valid hG

theorem empty_wired_iff {type : PacketType} {p : V311.Empty} {f : V311.Empty → GenericPacket w}
    (hb : V311.Empty.new = .ok p) (hsize : (f p).size = p.size)
    (hbuffers : (f p).toBuffers = p.toBuffers type)
    (hbytes : (f p).toContinuousBuffer = p.toContinuousBuffer type)
    (hinj : ∀ a b, f a = f b → a = b)
    (hread : readFrame (f p).protocolVersion (rawPacket type.toFixedHeader []) =
      readAs (V311.Empty.parse []) f) (hwill : WillGiven (f p)) :
    Wired (f p) ↔ LengthsAgree (f p) ∧ WillGiven (f p) := by
  let _ := V311.Empty.written type
  exact wired_iff_agree (p.laidOut type) hsize hbuffers hbytes hinj hread
    hwill fun _ ↦ roundTrips_of_faithful (b := ()) (V311.Empty.faithful type) hb trivial

/-- A packet that was built is read back exactly when its lengths are right, and when a will comes
with the properties of a will. -/
theorem wired_iff_of_built {p : GenericPacket w} (h : Built p) :
    Wired p ↔ LengthsAgree p ∧ WillGiven p := by
  cases h with
  | @v311Connect cs b p hc hb =>
    refine wired_iff_agree (f := .v311Connect) (g := V311.Connect.parse) p.laidOut rfl rfl rfl
      (by simp) (by simp) trivial ?_
    intro _
    exact V311.Connect.roundTrips_of_build hc hb
  | @v311Connack b p hb =>
    refine wired_iff_agree (f := .v311Connack) (g := V311.Connack.parse) p.laidOut rfl rfl rfl
      (by simp) (by simp) trivial ?_
    intro _
    exact roundTrips_of_faithful V311.Connack.faithful hb trivial
  | @v311Publish b p hb =>
    refine wired_iff_agree (f := .v311Publish)
      (g := V311.Publish.parse (frameFlags p.toContinuousBuffer)) p.laidOut rfl rfl rfl
      (by simp) (readFrame_v311Publish p) trivial ?_
    intro _
    exact V311.Publish.roundTrips_of_build hb
  | @v311Puback b p hb =>
    refine wired_iff_agree (f := .v311Puback) (g := V311.Ack.parse) p.laidOut rfl rfl rfl
      (by simp) (by simp) trivial ?_
    intro _
    exact roundTrips_of_faithful V311.Ack.faithful hb trivial
  | @v311Pubrec b p hb =>
    refine wired_iff_agree (f := .v311Pubrec) (g := V311.Ack.parse) p.laidOut rfl rfl rfl
      (by simp) (by simp) trivial ?_
    intro _
    exact roundTrips_of_faithful V311.Ack.faithful hb trivial
  | @v311Pubrel b p hb =>
    refine wired_iff_agree (f := .v311Pubrel) (g := V311.Ack.parse) p.laidOut rfl rfl rfl
      (by simp) (by simp) trivial ?_
    intro _
    exact roundTrips_of_faithful V311.Ack.faithful hb trivial
  | @v311Pubcomp b p hb =>
    refine wired_iff_agree (f := .v311Pubcomp) (g := V311.Ack.parse) p.laidOut rfl rfl rfl
      (by simp) (by simp) trivial ?_
    intro _
    exact roundTrips_of_faithful V311.Ack.faithful hb trivial
  | @v311Subscribe b p hb =>
    refine wired_iff_agree (f := .v311Subscribe) (g := V311.Subscribe.parse) p.laidOut rfl rfl rfl
      (by simp) (by simp) trivial ?_
    intro hl
    exact roundTrips_of_faithful V311.Listing.faithful hb
      ((V311.Listing.agreesWhen b p hb).mp hl)
  | @v311Suback b p hb =>
    refine wired_iff_agree (f := .v311Suback) (g := V311.Suback.parse) p.laidOut rfl rfl rfl
      (by simp) (by simp) trivial ?_
    intro hl
    exact roundTrips_of_faithful V311.Listing.faithful hb
      ((V311.Listing.agreesWhen b p hb).mp hl)
  | @v311Unsubscribe b p hb =>
    refine wired_iff_agree (f := .v311Unsubscribe) (g := V311.Unsubscribe.parse) p.laidOut rfl rfl rfl
      (by simp) (by simp) trivial ?_
    intro hl
    exact roundTrips_of_faithful V311.Listing.faithful hb
      ((V311.Listing.agreesWhen b p hb).mp hl)
  | @v311Unsuback b p hb =>
    refine wired_iff_agree (f := .v311Unsuback) (g := V311.Unsuback.parse) p.laidOut rfl rfl rfl
      (by simp) (by simp) trivial ?_
    intro hl
    exact unsuback_roundTrips hb hl
  | @v50Connack b p hb =>
    refine wired_iff_agree (f := .v50Connack) (g := V50.Connack.parse) p.laidOut rfl rfl rfl
      (by simp) (by simp) trivial ?_
    intro hl
    exact (V50.Connack.roundTrips_of_build hb).mpr ((V50.Connack.agreesWhen b p hb).mp hl)
  | @v50Publish b p hb =>
    refine wired_iff_agree (f := .v50Publish)
      (g := V50.Publish.parse (frameFlags p.toContinuousBuffer)) p.laidOut rfl rfl rfl
      (by simp) (readFrame_v50Publish p) trivial ?_
    intro hl
    exact (V50.Publish.roundTrips_of_build hb).mpr
      ((V50.Publish.measured_of_build hb).lengthsAgree_iff.mp hl)
  | @v50Puback b p hb =>
    refine wired_iff_agree (f := .v50Puback) (g := V50.Ack.parse) p.laidOut rfl rfl rfl
      (by simp) (by simp) trivial ?_
    intro hl
    exact (V50.Ack.roundTrips_of_build hb).mpr ((V50.Ack.agreesWhen b p hb).mp hl)
  | @v50Pubrec b p hb =>
    refine wired_iff_agree (f := .v50Pubrec) (g := V50.Ack.parse) p.laidOut rfl rfl rfl
      (by simp) (by simp) trivial ?_
    intro hl
    exact (V50.Ack.roundTrips_of_build hb).mpr ((V50.Ack.agreesWhen b p hb).mp hl)
  | @v50Pubrel b p hb =>
    refine wired_iff_agree (f := .v50Pubrel) (g := V50.Ack.parse) p.laidOut rfl rfl rfl
      (by simp) (by simp) trivial ?_
    intro hl
    exact (V50.Ack.roundTrips_of_build hb).mpr ((V50.Ack.agreesWhen b p hb).mp hl)
  | @v50Pubcomp b p hb =>
    refine wired_iff_agree (f := .v50Pubcomp) (g := V50.Ack.parse) p.laidOut rfl rfl rfl
      (by simp) (by simp) trivial ?_
    intro hl
    exact (V50.Ack.roundTrips_of_build hb).mpr ((V50.Ack.agreesWhen b p hb).mp hl)
  | @v50Subscribe b p hb =>
    refine wired_iff_agree (f := .v50Subscribe) (g := V50.Subscribe.parse) p.laidOut rfl rfl rfl
      (by simp) (by simp) trivial ?_
    intro hl
    exact listing_roundTrips hb hl
  | @v50Suback b p hb =>
    refine wired_iff_agree (f := .v50Suback) (g := V50.Suback.parse) p.laidOut rfl rfl rfl
      (by simp) (by simp) trivial ?_
    intro hl
    exact listing_roundTrips hb hl
  | @v50Unsubscribe b p hb =>
    refine wired_iff_agree (f := .v50Unsubscribe) (g := V50.Unsubscribe.parse) p.laidOut rfl rfl rfl
      (by simp) (by simp) trivial ?_
    intro hl
    exact listing_roundTrips hb hl
  | @v50Unsuback b p hb =>
    refine wired_iff_agree (f := .v50Unsuback) (g := V50.Unsuback.parse) p.laidOut rfl rfl rfl
      (by simp) (by simp) trivial ?_
    intro hl
    exact listing_roundTrips hb hl
  | @v50Disconnect b p hb =>
    refine wired_iff_agree (f := .v50Disconnect) (g := V50.Disconnect.parse) p.laidOut rfl rfl rfl
      (by simp) (by simp) trivial ?_
    intro hl
    exact (V50.Disconnect.roundTrips_of_build hb).mpr
      ((V50.Disconnect.agreesWhen b p hb).mp hl)
  | @v50Auth b p hb =>
    refine wired_iff_agree (f := .v50Auth) (g := V50.Auth.parse) p.laidOut rfl rfl rfl
      (by simp) (by simp) trivial ?_
    intro hl
    exact (V50.Auth.roundTrips_of_build hb).mpr ((V50.Auth.agreesWhen b p hb).mp hl)
  | @v50Connect cs b p hc hb =>
    have hlift : LaidOut (.v50Connect p : GenericPacket w) _ _ _ := p.laidOut.lift rfl rfl rfl
    rw [wired_iff (f := .v50Connect) p.laidOut hlift (by simp) (g := V50.Connect.parse) (by simp),
      hlift.lengthsAgree_iff, ← p.laidOut.lengthsAgree_iff]
    constructor
    · rintro ⟨hl, n, hn⟩
      exact ⟨hl, (v50Connect_valid_iff hc hb hl).mp (valid_of_parse V50.Connect.framed hn)⟩
    · rintro ⟨hl, hwill⟩
      refine ⟨hl, p.bodyBytes.length, ?_⟩
      obtain ⟨-, -, hr⟩ := V50.Connect.build_eq_ok.mp hb
      have hround := (V50.Connect.framed.roundTrips_iff p).mpr
        ⟨(v50Connect_valid_iff hc hb hl).mpr hwill, hr⟩
      exact p.laidOut.roundTrips_iff.mp hround
  | @v311Pingreq p hb =>
    exact empty_wired_iff (f := .v311Pingreq) hb rfl rfl rfl (by simp) (by simp) trivial
  | @v311Pingresp p hb =>
    exact empty_wired_iff (f := .v311Pingresp) hb rfl rfl rfl (by simp) (by simp) trivial
  | @v311Disconnect p hb =>
    exact empty_wired_iff (f := .v311Disconnect) hb rfl rfl rfl (by simp) (by simp) trivial
  | @v50Pingreq p hb =>
    exact empty_wired_iff (f := .v50Pingreq) hb rfl rfl rfl (by simp) (by simp) trivial
  | @v50Pingresp p hb =>
    exact empty_wired_iff (f := .v50Pingresp) hb rfl rfl rfl (by simp) (by simp) trivial

end Built

end MqttProtocolCore.Connection
