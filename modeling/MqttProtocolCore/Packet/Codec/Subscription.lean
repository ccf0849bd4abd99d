import MqttProtocolCore.Packet.Codec.ShortForms
import MqttProtocolCore.Packet.V311
import MqttProtocolCore.Packet.V50.Subscription

namespace MqttProtocolCore.Packet

open General

variable {w : IdWidth} {α : Type}

class ListingEntry (α : Type) where
  packetType : PacketType
  size : α → ℕ
  parse : Bytes → Fallible MqttError (α × ℕ)
  toBytes : α → Bytes
  toBuffers : List α → List Bytes
  accepts : Accepts (.exactly toBytes) parse
  ne_nil (a : α) : toBytes a ≠ []
  length_toBytes (a : α) : (toBytes a).length = size a
  flatten_toBuffers (as : List α) : (toBuffers as).flatten = as.flatMap toBytes

/-- A list of codes is written as one buffer, unless it is empty. -/
def codeBuffers {C : Type} [EncodedCode C] (codes : List C) : List Bytes :=
  bufferOf (codes.map EncodedCode.toU8)

theorem flatten_codeBuffers {C : Type} [EncodedCode C] (codes : List C) :
    (codeBuffers codes).flatten = codes.flatMap fun c ↦ [EncodedCode.toU8 c] := by
  rw [codeBuffers, flatten_bufferOf, List.map_eq_flatMap]

theorem SubEntry.toContinuousBuffer_ne_nil (e : SubEntry) : e.toContinuousBuffer ≠ [] :=
  List.append_ne_nil_of_right_ne_nil _ (List.cons_ne_nil _ _)

theorem flatten_flatMap {toBuffers : α → List Bytes} {toBytes : α → Bytes}
    (h : ∀ a, (toBuffers a).flatten = toBytes a) (as : List α) :
    (as.flatMap toBuffers).flatten = as.flatMap toBytes := by
  induction as with
  | nil => rfl
  | cons a as ih => rw [List.flatMap_cons, List.flatMap_cons, List.flatten_append, h, ih]

theorem MqttString.asBytes_ne_nil (s : MqttString) : s.asBytes ≠ [] := by
  apply List.ne_nil_of_length_pos
  rw [s.length_asBytes]
  exact s.one_le_size

instance : ListingEntry SubEntry where
  packetType := .subscribe
  size := SubEntry.size
  parse := SubEntry.parse
  toBytes := SubEntry.toContinuousBuffer
  toBuffers entries := entries.flatMap SubEntry.toBuffers
  accepts := SubEntry.accepts_parse
  ne_nil := SubEntry.toContinuousBuffer_ne_nil
  length_toBytes := SubEntry.length_toContinuousBuffer
  flatten_toBuffers := flatten_flatMap SubEntry.flatten_toBuffers

instance : ListingEntry MqttString where
  packetType := .unsubscribe
  size := MqttString.size
  parse := MqttString.decode
  toBytes := MqttString.asBytes
  toBuffers entries := entries.flatMap MqttString.toBuffers
  accepts := MqttString.accepts_decode
  ne_nil := MqttString.asBytes_ne_nil
  length_toBytes := MqttString.length_asBytes
  flatten_toBuffers := flatten_flatMap fun _ ↦ List.append_nil _

instance : ListingEntry SubackReasonCode where
  packetType := .suback
  size _ := 1
  parse := parseCode SubackReasonCode
  toBytes c := [EncodedCode.toU8 c]
  toBuffers := codeBuffers
  accepts := accepts_parseCode
  ne_nil _ := List.cons_ne_nil _ _
  length_toBytes _ := rfl
  flatten_toBuffers := flatten_codeBuffers

instance : ListingEntry SubackReturnCode where
  packetType := .suback
  size _ := 1
  parse := parseCode SubackReturnCode
  toBytes c := [EncodedCode.toU8 c]
  toBuffers := codeBuffers
  accepts := accepts_parseCode
  ne_nil _ := List.cons_ne_nil _ _
  length_toBytes _ := rfl
  flatten_toBuffers := flatten_codeBuffers

instance : ListingEntry UnsubackReasonCode where
  packetType := .unsuback
  size _ := 1
  parse := parseCode UnsubackReasonCode
  toBytes c := [EncodedCode.toU8 c]
  toBuffers := codeBuffers
  accepts := accepts_parseCode
  ne_nil _ := List.cons_ne_nil _ _
  length_toBytes _ := rfl
  flatten_toBuffers := flatten_codeBuffers

section Entries

variable [ListingEntry α]

def entriesBytes (entries : List α) : Bytes := entries.flatMap ListingEntry.toBytes

theorem length_entriesBytes (entries : List α) :
    (entriesBytes entries).length = entriesSize ListingEntry.size entries := by
  rw [entriesBytes, List.length_flatMap, entriesSize]
  simp only [ListingEntry.length_toBytes]

theorem parseEntries_listing {data tail : Bytes} {cursor : ℕ} (hat : At data cursor tail)
    {entries : List α} {n : ℕ} :
    parseEntries ListingEntry.parse data data.length cursor [] = .ok (entries, n) ↔
      tail = entriesBytes entries ∧ n = data.length := by
  have hlen := hat.length
  have hne : ∀ {code : Bytes} {a : α}, Format.exactly ListingEntry.toBytes code a → code ≠ [] := by
    rintro _ a rfl
    exact ListingEntry.ne_nil a
  rw [parseEntries_eq_ok ListingEntry.accepts hne hat (by omega)]
  constructor
  · rintro ⟨entries', rfl, hG, hn⟩
    exact ⟨Format.listOf_exactly_iff.mp hG, hn⟩
  · rintro ⟨htail, hn⟩
    exact ⟨entries, rfl, Format.listOf_exactly_iff.mpr htail, hn⟩

end Entries

namespace V50

class PropsEntry (α : Type) extends ListingEntry α where
  validate : Properties → Fallible MqttError Unit
  validate_nil : validate [] = .ok ()

instance : PropsEntry SubEntry := ⟨validateSubscribeProperties, rfl⟩

instance : PropsEntry MqttString := ⟨validateUnsubscribeProperties, rfl⟩

instance : PropsEntry SubackReasonCode := ⟨validateSubackProperties, rfl⟩

instance : PropsEntry UnsubackReasonCode := ⟨validateSubackProperties, rfl⟩

structure ListingBuilder (w : IdWidth) (α : Type) where
  packetId : Option (PacketId w)
  props : Option Properties
  entries : Option (List α)

namespace Listing

variable [PropsEntry α]

def parseListing (data : Bytes) : Fallible MqttError (Listing w α × ℕ) :=
  parse (PropsEntry.validate α) ListingEntry.size ListingEntry.parse data

def remainingSize (w : IdWidth) (propertyLength : VariableByteInteger) (props : Properties)
    (entries : List α) : ℕ :=
  w.bufferSize + propertyLength.size + props.size + entriesSize ListingEntry.size entries

def build (b : ListingBuilder w α) : Fallible MqttError (Listing w α) :=
  match b.packetId with
  | none => .err .malformedPacket
  | some packetId => do
    .require (packetId ≠ 0) .malformedPacket
    let entries := b.entries.getD []
    .require (entries ≠ []) .protocolError
    checkProps (PropsEntry.validate α) b.props
    let props := b.props.getD []
    let propertyLength ← lengthOf props.size
    let remainingLength ← lengthOf (remainingSize w propertyLength props entries)
    return ⟨remainingLength, packetId, propertyLength, props, entries⟩

def toBuffers (p : Listing w α) : List Bytes :=
  [[(ListingEntry.packetType α).toFixedHeader], p.remainingLength.asBytes,
    PacketId.toBuffer p.packetId, p.propertyLength.asBytes] ++ p.props.toBuffers ++
    ListingEntry.toBuffers p.entries

def toContinuousBuffer (p : Listing w α) : Bytes :=
  [(ListingEntry.packetType α).toFixedHeader] ++ p.remainingLength.asBytes ++
    PacketId.toBuffer p.packetId ++ p.propertyLength.asBytes ++ p.props.toContinuousBuffer ++
    entriesBytes p.entries

instance : GenericPacketTrait (Listing w α) := ⟨size, toBuffers, toContinuousBuffer⟩

def bodyWith (p : Listing w α) (props : Bytes) : Bytes :=
  PacketId.toBuffer p.packetId ++ (props ++ entriesBytes p.entries)

def bodyBytes (p : Listing w α) : Bytes := p.bodyWith (sectionBytes (p.propertyLength, p.props))

theorem length_bodyWith (p : Listing w α) (props : Bytes) :
    (p.bodyWith props).length =
      w.bufferSize + props.length + entriesSize ListingEntry.size p.entries := by
  rw [bodyWith, List.length_append, List.length_append, PacketId.length_toBuffer,
    length_entriesBytes, Nat.add_assoc]

theorem length_bodyBytes (p : Listing w α) :
    p.bodyBytes.length = remainingSize w p.propertyLength p.props p.entries := by
  rw [bodyBytes, length_bodyWith, length_sectionBytes, remainingSize]
  dsimp only
  omega

theorem laidOut (p : Listing w α) :
    LaidOut p (ListingEntry.packetType α).toFixedHeader p.remainingLength p.bodyBytes where
  size := rfl
  flatten := by
    change p.toBuffers.flatten = p.toContinuousBuffer
    simp only [toBuffers, toContinuousBuffer, List.flatten_append, List.flatten_cons,
      List.flatten_nil, Properties.flatten_toBuffers, ListingEntry.flatten_toBuffers, entriesBytes,
      List.append_nil, List.append_assoc]
  bytes := by
    change p.toContinuousBuffer = _
    simp only [toContinuousBuffer, bodyBytes, bodyWith, sectionBytes, List.append_assoc,
      List.cons_append, List.nil_append]

def Code : Format UInt8 (Listing w α) := fun code p ↦ p.entries ≠ [] ∧ ∃ props,
  code = p.bodyWith props ∧
    SectionCode (PropsEntry.validate α) props (p.propertyLength, p.props)

structure Valid (p : Listing w α) : Prop where
  entries : p.entries ≠ []
  props : PropsEntry.validate α p.props = .ok ()
  propertyLength : p.propertyLength.toU32 = p.props.size

theorem shortest_code : Shortest Code Valid (bodyBytes (w := w) (α := α)) where
  code h := ⟨h.entries, _, rfl, (shortest_sectionCode _).code ⟨h.props, h.propertyLength⟩⟩
  valid h := by
    obtain ⟨he, props, rfl, hS⟩ := h
    obtain ⟨hv, hl⟩ := (shortest_sectionCode _).valid hS
    exact ⟨he, hv, hl⟩
  le h := by
    obtain ⟨-, props, rfl, hS⟩ := h
    have hle := (shortest_sectionCode _).le hS
    rw [bodyBytes, length_bodyWith, length_bodyWith]
    omega
  unique h hlen := by
    obtain ⟨-, props, rfl, hS⟩ := h
    rw [bodyBytes, length_bodyWith, length_bodyWith] at hlen
    rw [(shortest_sectionCode _).unique hS (by omega)]
    rfl

theorem parse_eq_ok {data : Bytes} {p : Listing w α} {n : ℕ} :
    parseListing data = .ok (p, n) ↔ n = data.length ∧ Code data p ∧
      lengthOf data.length = .ok p.remainingLength := by
  constructor
  · intro h
    obtain ⟨⟨id, c⟩, hid, h⟩ := Fallible.bind_eq_ok.mp h
    obtain ⟨_, tail, rfl, rfl, rfl⟩ := accepts_parsePacketId.iff.mp hid
    have hat := (At.start (PacketId.toBuffer id ++ tail)).next
    rw [Nat.zero_add] at hat
    obtain ⟨⟨⟨l, ps⟩, c⟩, hps, h⟩ := Fallible.bind_eq_ok.mp h
    obtain ⟨props, tail, rfl, rfl, hS, hat⟩ := (acceptsAt_parseProperties _).sound hat hps
    obtain ⟨⟨entries, c⟩, hes, h⟩ := Fallible.bind_eq_ok.mp h
    obtain ⟨rfl, rfl⟩ := (parseEntries_listing hat).mp hes
    obtain ⟨⟨⟩, hne, h⟩ := Fallible.bind_eq_ok.mp h
    obtain ⟨r, hr, h⟩ := Fallible.bind_eq_ok.mp h
    cases h
    refine ⟨rfl, ⟨Fallible.require_eq_ok.mp hne, props, rfl, hS⟩, ?_⟩
    rw [← hr, Nat.add_sub_cancel_left, List.length_append, List.length_append,
      PacketId.length_toBuffer, length_entriesBytes, Nat.add_assoc]
  · rintro ⟨rfl, ⟨hne, props, rfl, hS⟩, hr⟩
    obtain ⟨r, id, l, ps, entries⟩ := p
    dsimp only [bodyWith] at hne hS hr ⊢
    have hat := (At.start (PacketId.toBuffer id ++ (props ++ entriesBytes entries))).next
    rw [Nat.zero_add] at hat
    rw [parseListing, parse, accepts_parsePacketId.complete (a := id) rfl, Fallible.ok_bind]
    dsimp only
    rw [(acceptsAt_parseProperties _).complete hat hS, Fallible.ok_bind]
    dsimp only
    rw [(parseEntries_listing hat.next).mpr ⟨rfl, rfl⟩, Fallible.ok_bind]
    dsimp only
    rw [(Fallible.require_eq_ok (u := ⟨⟩)).mpr hne, Fallible.ok_bind, Nat.add_sub_cancel_left]
    rw [List.length_append, List.length_append, PacketId.length_toBuffer, length_entriesBytes,
      ← Nat.add_assoc] at hr
    rw [hr]
    rfl

theorem framed :
    Framed parseListing Code Valid bodyBytes (remainingLength (w := w) (α := α)) where
  laidOut p := ⟨_, p.laidOut⟩
  sound {data p n} h := by
    obtain ⟨hn, hG, hr⟩ := parse_eq_ok.mp h
    exact ⟨data, [], (List.append_nil _).symm, hn, hG, hr⟩
  complete hG hr := parse_eq_ok.mpr ⟨rfl, hG, hr⟩
  shortest := shortest_code
  excess h := by
    obtain ⟨-, props, rfl, hS⟩ := h
    have hle := hS.length_le
    rw [VariableByteInteger.max] at hle
    rw [bodyBytes, length_bodyWith, length_bodyWith]
    omega

theorem build_eq_ok {b : ListingBuilder w α} {p : Listing w α} :
    build b = .ok p ↔ b.packetId = some p.packetId ∧ p.packetId ≠ 0 ∧
      p.entries = b.entries.getD [] ∧ p.entries ≠ [] ∧ p.props = b.props.getD [] ∧
      PropsEntry.validate α p.props = .ok () ∧ lengthOf p.props.size = .ok p.propertyLength ∧
      lengthOf p.bodyBytes.length = .ok p.remainingLength := by
  have hcheck := checkProps_eq_ok (PropsEntry.validate_nil (α := α)) b.props
  obtain ⟨packetId, props, entries⟩ := b
  cases packetId with
  | none =>
    constructor
    · intro h
      cases h
    · rintro ⟨h, -⟩
      cases h
  | some id =>
    constructor
    · intro h
      obtain ⟨⟨⟩, hid, h⟩ := Fallible.bind_eq_ok.mp h
      obtain ⟨⟨⟩, hne, h⟩ := Fallible.bind_eq_ok.mp h
      obtain ⟨⟨⟩, hv, h⟩ := Fallible.bind_eq_ok.mp h
      obtain ⟨l, hl, h⟩ := Fallible.bind_eq_ok.mp h
      obtain ⟨r, hr, h⟩ := Fallible.bind_eq_ok.mp h
      cases h
      refine ⟨rfl, Fallible.require_eq_ok.mp hid, rfl, Fallible.require_eq_ok.mp hne, rfl,
        hcheck.mp hv, hl, ?_⟩
      rw [length_bodyBytes]
      exact hr
    · rintro ⟨hid, hne, hes, hnil, hps, hv, hl, hr⟩
      obtain ⟨r, packetId, l, ps, es⟩ := p
      dsimp only at *
      cases hid
      subst hes hps
      rw [length_bodyBytes] at hr
      dsimp only at hr
      simp only [build, (Fallible.require_eq_ok (u := ⟨⟩)).mpr hne,
        (Fallible.require_eq_ok (u := ⟨⟩)).mpr hnil, hcheck.mpr hv, hl, hr, Fallible.ok_bind]
      rfl

/-- Parsing gives back what was built exactly when the length of the properties did not wrap. -/
theorem roundTrips_of_build {b : ListingBuilder w α} {p : Listing w α} (h : build b = .ok p) :
    RoundTrips parseListing p ↔ (b.props.getD []).size < 4294967296 := by
  obtain ⟨-, -, -, hne, hps, hv, hl, hr⟩ := build_eq_ok.mp h
  rw [framed.roundTrips_iff, ← hps, ← toU32_eq_iff_of_lengthOf hl]
  exact ⟨fun h ↦ h.1.propertyLength, fun h ↦ ⟨⟨hne, hv, h⟩, hr⟩⟩

end Listing

/-- What is built parses back exactly when the length of its properties did not wrap. -/
def ParsesBack [PropsEntry α] (parse : Bytes → Fallible MqttError (Listing w α × ℕ)) : Prop :=
  ∀ (b : ListingBuilder w α) (p : Listing w α), Listing.build b = .ok p →
    (RoundTrips parse p ↔ (b.props.getD []).size < 4294967296)

/-- SUBSCRIBE, SUBACK, UNSUBSCRIBE and UNSUBACK. -/
theorem subscription_round_trip (w : IdWidth) :
    ParsesBack (Subscribe.parse (w := w)) ∧ ParsesBack (Suback.parse (w := w)) ∧
      ParsesBack (Unsubscribe.parse (w := w)) ∧ ParsesBack (Unsuback.parse (w := w)) :=
  ⟨fun _ _ ↦ Listing.roundTrips_of_build, fun _ _ ↦ Listing.roundTrips_of_build,
    fun _ _ ↦ Listing.roundTrips_of_build, fun _ _ ↦ Listing.roundTrips_of_build⟩

theorem subscription_round_trip_suback : ∃ p : Suback .u16,
    Listing.build ⟨some 1, none, some [.grantedQos1, .notAuthorized]⟩ = .ok p ∧
      RoundTrips Suback.parse p := by
  obtain ⟨p, hp⟩ : ∃ p : Suback .u16,
    Listing.build ⟨some 1, none, some [.grantedQos1, .notAuthorized]⟩ = .ok p := ⟨_, rfl⟩
  exact ⟨p, hp, ((subscription_round_trip .u16).2.1 _ p hp).mpr (by decide)⟩

/-- A SUBACK with properties of 4294967296 bytes is built, but does not parse back. -/
theorem wide_suback_differs : ∃ p : Suback .u16,
    Listing.build ⟨some 1, some wideProps, some [.grantedQos0]⟩ = .ok p ∧
      ¬ RoundTrips Suback.parse p := by
  have hfits : LengthFits (2 + 1 + 4294967296 + 1) := by
    rw [LengthFits, VariableByteInteger.max]
    omega
  obtain ⟨r, hr, -⟩ := lengthOf_of_fits hfits
  have hbuild : Listing.build (w := .u16) ⟨some 1, some wideProps, some [.grantedQos0]⟩ =
      .ok ⟨r, 1, .zero, wideProps, [SubackReasonCode.grantedQos0]⟩ := by
    refine Listing.build_eq_ok.mpr ⟨rfl, packetId_one_ne, rfl, List.cons_ne_nil _ _, rfl, ?_, ?_, ?_⟩
    · exact validateProperties_wideProps (by decide) (by decide)
    · apply lengthOf_eq_ok.mpr
      rw [size_wideProps]
      rfl
    · rw [Listing.length_bodyBytes, Listing.remainingSize, size_wideProps]
      exact hr
  refine ⟨_, hbuild, fun h ↦ ?_⟩
  have hlt := (Listing.roundTrips_of_build hbuild).mp h
  rw [Option.getD_some, size_wideProps] at hlt
  exact Nat.lt_irrefl _ hlt

end V50

namespace V311

structure ListingBuilder (w : IdWidth) (α : Type) where
  packetId : Option (PacketId w)
  entries : Option (List α)

namespace Listing

variable [ListingEntry α]

def parseListing (data : Bytes) : Fallible MqttError (Listing w α × ℕ) :=
  parse ListingEntry.size ListingEntry.parse data

def build (b : ListingBuilder w α) : Fallible MqttError (Listing w α) :=
  match b.packetId with
  | none => .err .malformedPacket
  | some packetId => do
    .require (packetId ≠ 0) .malformedPacket
    let entries := b.entries.getD []
    .require (entries ≠ []) .protocolError
    let remainingLength ← lengthOf (w.bufferSize + entriesSize ListingEntry.size entries)
    return ⟨remainingLength, packetId, entries⟩

def toBuffers (p : Listing w α) : List Bytes :=
  [[(ListingEntry.packetType α).toFixedHeader], p.remainingLength.asBytes,
    PacketId.toBuffer p.packetId] ++ ListingEntry.toBuffers p.entries

def toContinuousBuffer (p : Listing w α) : Bytes :=
  [(ListingEntry.packetType α).toFixedHeader] ++ p.remainingLength.asBytes ++
    PacketId.toBuffer p.packetId ++ entriesBytes p.entries

instance : GenericPacketTrait (Listing w α) := ⟨size, toBuffers, toContinuousBuffer⟩

def bodyBytes (p : Listing w α) : Bytes := PacketId.toBuffer p.packetId ++ entriesBytes p.entries

theorem length_bodyBytes (p : Listing w α) :
    p.bodyBytes.length = w.bufferSize + entriesSize ListingEntry.size p.entries := by
  rw [bodyBytes, List.length_append, PacketId.length_toBuffer, length_entriesBytes]

theorem laidOut (p : Listing w α) :
    LaidOut p (ListingEntry.packetType α).toFixedHeader p.remainingLength p.bodyBytes where
  size := rfl
  flatten := by
    change p.toBuffers.flatten = p.toContinuousBuffer
    simp only [toBuffers, toContinuousBuffer, List.flatten_append, List.flatten_cons,
      List.flatten_nil, ListingEntry.flatten_toBuffers, entriesBytes, List.append_nil,
      List.append_assoc]
  bytes := by
    change p.toContinuousBuffer = _
    simp only [toContinuousBuffer, bodyBytes, List.append_assoc, List.cons_append,
      List.nil_append]

theorem parse_eq_ok {data : Bytes} {p : Listing w α} {n : ℕ} :
    parseListing data = .ok (p, n) ↔ n = data.length ∧ (data = p.bodyBytes ∧ p.entries ≠ []) ∧
      lengthOf data.length = .ok p.remainingLength := by
  constructor
  · intro h
    obtain ⟨⟨id, c⟩, hid, h⟩ := Fallible.bind_eq_ok.mp h
    obtain ⟨_, tail, rfl, rfl, rfl⟩ := accepts_parsePacketId.iff.mp hid
    have hat := (At.start (PacketId.toBuffer id ++ tail)).next
    rw [Nat.zero_add] at hat
    obtain ⟨⟨entries, c⟩, hes, h⟩ := Fallible.bind_eq_ok.mp h
    obtain ⟨rfl, rfl⟩ := (parseEntries_listing hat).mp hes
    obtain ⟨⟨⟩, hne, h⟩ := Fallible.bind_eq_ok.mp h
    obtain ⟨r, hr, h⟩ := Fallible.bind_eq_ok.mp h
    cases h
    refine ⟨rfl, ⟨rfl, Fallible.require_eq_ok.mp hne⟩, ?_⟩
    rw [← hr, List.length_append, PacketId.length_toBuffer, length_entriesBytes]
  · rintro ⟨rfl, ⟨hbody, hne⟩, hr⟩
    obtain ⟨r, id, entries⟩ := p
    dsimp only [bodyBytes] at hne hbody hr ⊢
    subst hbody
    have hat := (At.start (PacketId.toBuffer id ++ entriesBytes entries)).next
    rw [Nat.zero_add] at hat
    rw [List.length_append, PacketId.length_toBuffer, length_entriesBytes] at hr
    rw [parseListing, parse, accepts_parsePacketId.complete (a := id) rfl, Fallible.ok_bind]
    dsimp only
    rw [(parseEntries_listing hat).mpr ⟨rfl, rfl⟩, Fallible.ok_bind]
    dsimp only
    rw [(Fallible.require_eq_ok (u := ⟨⟩)).mpr hne, Fallible.ok_bind, hr]
    rfl

theorem build_eq_ok {b : ListingBuilder w α} {p : Listing w α} :
    build b = .ok p ↔ b.packetId = some p.packetId ∧ p.packetId ≠ 0 ∧
      p.entries = b.entries.getD [] ∧ p.entries ≠ [] ∧
      lengthOf p.bodyBytes.length = .ok p.remainingLength := by
  obtain ⟨packetId, entries⟩ := b
  cases packetId with
  | none =>
    constructor
    · intro h
      cases h
    · rintro ⟨h, -⟩
      cases h
  | some id =>
    constructor
    · intro h
      obtain ⟨⟨⟩, hid, h⟩ := Fallible.bind_eq_ok.mp h
      obtain ⟨⟨⟩, hne, h⟩ := Fallible.bind_eq_ok.mp h
      obtain ⟨r, hr, h⟩ := Fallible.bind_eq_ok.mp h
      cases h
      refine ⟨rfl, Fallible.require_eq_ok.mp hid, rfl, Fallible.require_eq_ok.mp hne, ?_⟩
      rw [length_bodyBytes]
      exact hr
    · rintro ⟨hid, hne, hes, hnil, hr⟩
      obtain ⟨r, packetId, es⟩ := p
      dsimp only at *
      cases hid
      subst hes
      rw [length_bodyBytes] at hr
      dsimp only at hr
      simp only [build, (Fallible.require_eq_ok (u := ⟨⟩)).mpr hne,
        (Fallible.require_eq_ok (u := ⟨⟩)).mpr hnil, hr, Fallible.ok_bind]
      rfl

end Listing

end V311

end MqttProtocolCore.Packet
