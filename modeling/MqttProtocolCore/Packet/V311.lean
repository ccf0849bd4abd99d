import MqttProtocolCore.Packet.Parse

namespace MqttProtocolCore.Packet.V311

open General

variable {w : IdWidth}

structure Connect where
  remainingLength : VariableByteInteger
  connectFlags : UInt8
  keepAlive : U16
  clientId : MqttString
  willTopic : MqttString
  willPayload : MqttBinary
  userName : MqttString
  password : MqttBinary
deriving DecidableEq

namespace Connect

def cleanSession (p : Connect) : Bool := p.connectFlags &&& 0b00000010 ≠ 0

def cleanStart (p : Connect) : Bool := p.cleanSession

def size (p : Connect) : ℕ := packetSize p.remainingLength

def parse (data : Bytes) : Fallible MqttError (Connect × ℕ) := do
  let ((connectFlags, keepAlive), cursor) ← parseConnectHeader 0x04 data
  let (clientId, cursor) ←
    parseAt (fun d ↦ mapErr .clientIdentifierNotValid (MqttString.decode d)) data cursor
  let will := willFlag connectFlags
  let (willTopic, cursor) ← parseIf will .default MqttString.decode data cursor
  let (willPayload, cursor) ← parseIf will .default MqttBinary.decode data cursor
  let ((userName, password), cursor) ← parseCredentials connectFlags data cursor
  let remainingLength ← lengthOf cursor
  return (⟨remainingLength, connectFlags, keepAlive, clientId, willTopic, willPayload, userName,
    password⟩, cursor)

end Connect

structure Connack where
  remainingLength : VariableByteInteger
  sessionPresent : Bool
  returnCode : ConnectReturnCode
deriving DecidableEq

namespace Connack

def size (p : Connack) : ℕ := packetSize p.remainingLength

def build (sessionPresent : Bool) (returnCode : ConnectReturnCode) : Fallible MqttError Connack := do
  return ⟨← lengthOf 2, sessionPresent, returnCode⟩

def parse (data : Bytes) : Fallible MqttError (Connack × ℕ) := do
  .require (2 ≤ data.length) .malformedPacket
  let flags ← index data 0
  match ConnectReturnCode.tryFrom (← index data 1) with
  | some returnCode => return (← build (flags &&& 0x01 ≠ 0) returnCode, 2)
  | none => .err .malformedPacket

end Connack

structure Publish (w : IdWidth) where
  fixedHeader : PublishHeader
  remainingLength : VariableByteInteger
  topicName : MqttString
  id : PublishId w fixedHeader.qos
  payload : Bytes
deriving DecidableEq

structure PublishBuilder (w : IdWidth) where
  fixedHeader : Option PublishHeader
  topicName : Option MqttString
  packetId : Option (PacketId w)
  payload : Option Bytes

namespace Publish

def packetId (p : Publish w) : Option (PacketId w) := p.id.val

def qos (p : Publish w) : Qos := p.fixedHeader.qos

def size (p : Publish w) : ℕ := packetSize p.remainingLength

def setDup (p : Publish w) (dup : Bool) : Publish w :=
  { p with fixedHeader := { p.fixedHeader with dup := dup } }

def remainingSize (topicName : MqttString) {qos : Qos} (id : PublishId w qos) (payload : Bytes) : ℕ :=
  topicName.size + id.size + payload.length

def parse (flags : UInt8) (data : Bytes) : Fallible MqttError (Publish w × ℕ) := do
  let fixedHeader ← PublishHeader.parse flags
  let (topicName, cursor) ← MqttString.decode data
  let (id, cursor) ← parsePublishId w fixedHeader.qos data cursor
  let payload ← sliceFrom data cursor
  let remainingLength ← lengthOf (remainingSize topicName id payload)
  return (⟨fixedHeader, remainingLength, topicName, id, payload⟩, data.length)

def build (b : PublishBuilder w) : Fallible MqttError (Publish w) := do
  let topicName := b.topicName.getD .default
  let fixedHeader := b.fixedHeader.getD .default
  let payload := b.payload.getD []
  .require (¬ topicName.isEmpty) .malformedPacket
  let id ← PublishId.check fixedHeader.qos b.packetId
  .require (payload.length ≤ 268435455) .malformedPacket
  let remainingLength ← lengthOf (remainingSize topicName id payload)
  return ⟨fixedHeader, remainingLength, topicName, id, payload⟩

end Publish

/-- The acknowledgements PUBACK, PUBREC, PUBREL and PUBCOMP, which differ in their reason codes. -/
structure Ack (w : IdWidth) (C : Type) where
  remainingLength : VariableByteInteger
  id : {id : PacketId w // id ≠ 0}
  reasonCode : Option C
deriving DecidableEq

abbrev Puback (w : IdWidth) := Ack w PubackReasonCode

abbrev Pubrec (w : IdWidth) := Ack w PubrecReasonCode

abbrev Pubrel (w : IdWidth) := Ack w PubrelReasonCode

abbrev Pubcomp (w : IdWidth) := Ack w PubcompReasonCode

namespace Ack

variable {C : Type}

def packetId (p : Ack w C) : PacketId w := p.id.val

def size (p : Ack w C) : ℕ := packetSize p.remainingLength

def remainingSize (w : IdWidth) (reasonCode : Option C) : ℕ :=
  w.bufferSize + if reasonCode.isSome then 1 else 0

def build (id : PacketId w) (reasonCode : Option C) : Fallible MqttError (Ack w C) :=
  if h : id ≠ 0 then do return ⟨← lengthOf (remainingSize w reasonCode), ⟨id, h⟩, reasonCode⟩
  else .err .malformedPacket

def parse [ReasonCode C] (data : Bytes) : Fallible MqttError (Ack w C × ℕ) := do
  let (id, cursor) ← parseNonZeroPacketId w data
  let (reasonCode, cursor) ← parseReasonCode C data cursor
  let remainingLength ← lengthOf (remainingSize w reasonCode)
  return (⟨remainingLength, id, reasonCode⟩, cursor)

end Ack

/-- What SUBSCRIBE, SUBACK and UNSUBSCRIBE have in common: an identifier and a list of entries that
is not empty. -/
structure Listing (w : IdWidth) (α : Type) where
  remainingLength : VariableByteInteger
  packetId : PacketId w
  entries : List α
deriving DecidableEq

namespace Listing

variable {α : Type}

def size (p : Listing w α) : ℕ := packetSize p.remainingLength

def parse (entrySize : α → ℕ) (parseEntry : Bytes → Fallible MqttError (α × ℕ)) (data : Bytes) :
    Fallible MqttError (Listing w α × ℕ) := do
  let (packetId, cursor) ← parsePacketId w data
  let (entries, cursor) ← parseEntries parseEntry data data.length cursor []
  .require (entries ≠ []) .protocolError
  let remainingLength ← lengthOf (w.bufferSize + entriesSize entrySize entries)
  return (⟨remainingLength, packetId, entries⟩, cursor)

end Listing

abbrev Subscribe (w : IdWidth) := Listing w SubEntry

abbrev Suback (w : IdWidth) := Listing w SubackReturnCode

abbrev Unsubscribe (w : IdWidth) := Listing w MqttString

def Subscribe.parse : Bytes → Fallible MqttError (Subscribe w × ℕ) :=
  Listing.parse SubEntry.size SubEntry.parse

def Suback.parse : Bytes → Fallible MqttError (Suback w × ℕ) :=
  Listing.parse (fun _ ↦ 1) (parseCode SubackReturnCode)

def Unsubscribe.parse : Bytes → Fallible MqttError (Unsubscribe w × ℕ) :=
  Listing.parse MqttString.size MqttString.decode

structure Unsuback (w : IdWidth) where
  remainingLength : VariableByteInteger
  packetId : PacketId w
deriving DecidableEq

namespace Unsuback

def size (p : Unsuback w) : ℕ := packetSize p.remainingLength

def parse (data : Bytes) : Fallible MqttError (Unsuback w × ℕ) := do
  let (packetId, cursor) ← parsePacketId w data
  return (⟨← lengthOf w.bufferSize, packetId⟩, cursor)

end Unsuback

/-- The packets without a body: PINGREQ, PINGRESP and DISCONNECT. -/
structure Empty where
  remainingLength : VariableByteInteger
deriving DecidableEq

abbrev Pingreq := Empty

abbrev Pingresp := Empty

abbrev Disconnect := Empty

namespace Empty

def size (p : Empty) : ℕ := packetSize p.remainingLength

def new : Fallible MqttError Empty := do return ⟨← lengthOf 0⟩

def parse (_data : Bytes) : Fallible MqttError (Empty × ℕ) := do return (← new, 0)

end Empty

section Safety

variable {data : Bytes}

theorem Connect.parses_parse (hmax : data.length ≤ VariableByteInteger.max) :
    Parses (fun _ ↦ 0) data (Connect.parse data) := by
  refine (parses_parseConnectHeader 0x04 data).bind fun ⟨⟨flags, _⟩, _⟩ h ↦ ?_
  refine (parsesFrom_parseAt (fun d _ ↦ parses_mapErr (MqttString.parses_decode d)) h.2).bind
    fun _ h ↦ ?_
  refine (parsesFrom_parseIf MqttString.parses_decode h.2).bind fun _ h ↦ ?_
  refine (parsesFrom_parseIf MqttBinary.parses_decode h.2).bind fun _ h ↦ ?_
  refine (parsesFrom_parseCredentials flags h.2).bind fun ⟨⟨_, _⟩, _⟩ h ↦ ?_
  exact (yields_lengthOf (le_trans h.2 hmax)).bind fun _ _ ↦ ⟨Nat.zero_le _, h.2⟩

theorem Connack.build_spec (sessionPresent : Bool) (returnCode : ConnectReturnCode) :
    ∃ p, Connack.build sessionPresent returnCode = .ok p ∧ p.sessionPresent = sessionPresent ∧
      p.returnCode = returnCode := by
  obtain ⟨v, hv, -⟩ := exists_lengthOf (n := 2) (by simp [VariableByteInteger.max])
  exact ⟨⟨v, sessionPresent, returnCode⟩, by simp [build, hv], rfl, rfl⟩

theorem Connack.parses_parse : Parses (fun _ ↦ 0) data (Connack.parse data) := by
  refine Fallible.yields_require.bind fun _ h ↦ (yields_index (by omega)).bind fun flags _ ↦ ?_
  refine (yields_index (by omega)).bind fun code _ ↦ ?_
  cases ConnectReturnCode.tryFrom code with
  | none => trivial
  | some returnCode =>
    obtain ⟨p, hp, -⟩ := Connack.build_spec (flags &&& 0x01 ≠ 0) returnCode
    simp only [hp, Fallible.ok_bind, Fallible.pure_eq]
    exact ⟨Nat.zero_le _, h⟩

theorem Publish.parses_parse (flags : UInt8) (hmax : data.length ≤ VariableByteInteger.max) :
    Parses (fun _ ↦ 0) data (Publish.parse flags data : Fallible MqttError (Publish w × ℕ)) := by
  refine (PublishHeader.yields_parse flags).bind fun fixedHeader _ ↦ ?_
  refine (MqttString.parses_decode data).bind fun ⟨topicName, _⟩ ht ↦ ?_
  refine (parsesFrom_parsePublishId w fixedHeader.qos ht.2).bind fun ⟨id, _⟩ hid ↦ ?_
  refine (yields_sliceFrom hid.2).bind fun payload hp ↦ ?_
  refine (yields_lengthOf ?_).bind fun _ _ ↦ ⟨Nat.zero_le _, le_rfl⟩
  simp only [remainingSize] at *
  omega

variable {C : Type}

theorem Ack.remainingSize_le (reasonCode : Option C) :
    Ack.remainingSize w reasonCode ≤ VariableByteInteger.max := by
  unfold Ack.remainingSize VariableByteInteger.max
  cases w <;> simp only [IdWidth.bufferSize] <;> split <;> omega

theorem Ack.packetId_ne (p : Ack w C) : p.packetId ≠ 0 := p.id.2

theorem Ack.build_spec {id : PacketId w} (reasonCode : Option C) (h : id ≠ 0) :
    ∃ p : Ack w C, Ack.build id reasonCode = .ok p ∧ p.packetId = id ∧
      p.reasonCode = reasonCode := by
  obtain ⟨v, hv, -⟩ := exists_lengthOf (Ack.remainingSize_le (w := w) reasonCode)
  exact ⟨⟨v, ⟨id, h⟩, reasonCode⟩, by simp [Ack.build, h, hv], rfl, rfl⟩

theorem Ack.build_zero (reasonCode : Option C) :
    Ack.build (0 : PacketId w) reasonCode = .err .malformedPacket := dif_neg (by simp)

theorem Ack.parses_parse [ReasonCode C] :
    Parses (fun _ ↦ 0) data (Ack.parse data : Fallible MqttError (Ack w C × ℕ)) := by
  refine (parses_parseNonZeroPacketId w data).bind fun ⟨id, _⟩ h ↦ ?_
  refine (parsesFrom_parseReasonCode C h.2).bind fun ⟨code, _⟩ h ↦ ?_
  exact (yields_lengthOf (Ack.remainingSize_le code)).bind fun _ _ ↦ ⟨Nat.zero_le _, h.2⟩

theorem Listing.parses_parse {α : Type} {entrySize : α → ℕ}
    {parseEntry : Bytes → Fallible MqttError (α × ℕ)}
    (he : ∀ d, 1 ≤ d.length → Parses entrySize d (parseEntry d)) (hpos : ∀ a, 1 ≤ entrySize a)
    (hmax : data.length ≤ VariableByteInteger.max) :
    Parses (fun _ ↦ 0) data
      (Listing.parse entrySize parseEntry data : Fallible MqttError (Listing w α × ℕ)) := by
  refine (parses_parsePacketId w data).bind fun ⟨id, _⟩ h ↦ ?_
  refine (parsesFrom_parseEntries he hpos (by omega) h.2).bind
    fun ⟨entries, _⟩ hl ↦ Fallible.yields_require.bind fun _ _ ↦ ?_
  refine (yields_lengthOf ?_).bind fun _ _ ↦ ⟨Nat.zero_le _, hl.2⟩
  simp only [entriesSize, List.map_nil, List.sum_nil] at *
  omega

theorem Subscribe.parses_parse (hmax : data.length ≤ VariableByteInteger.max) :
    Parses (fun _ ↦ 0) data (Subscribe.parse data : Fallible MqttError (Subscribe w × ℕ)) :=
  Listing.parses_parse (fun d _ ↦ SubEntry.parses_parse d) SubEntry.one_le_size hmax

theorem Suback.parses_parse (hmax : data.length ≤ VariableByteInteger.max) :
    Parses (fun _ ↦ 0) data (Suback.parse data : Fallible MqttError (Suback w × ℕ)) :=
  Listing.parses_parse (fun _ h ↦ parses_parseCode _ h) (fun _ ↦ le_rfl) hmax

theorem Unsubscribe.parses_parse (hmax : data.length ≤ VariableByteInteger.max) :
    Parses (fun _ ↦ 0) data (Unsubscribe.parse data : Fallible MqttError (Unsubscribe w × ℕ)) :=
  Listing.parses_parse (fun d _ ↦ MqttString.parses_decode d) MqttString.one_le_size hmax

theorem Unsuback.parses_parse :
    Parses (fun _ ↦ 0) data (Unsuback.parse data : Fallible MqttError (Unsuback w × ℕ)) := by
  refine (parses_parsePacketId w data).bind fun ⟨id, _⟩ h ↦ ?_
  refine (yields_lengthOf ?_).bind fun _ _ ↦ ⟨Nat.zero_le _, h.2⟩
  cases w <;> simp [IdWidth.bufferSize, VariableByteInteger.max]

theorem Empty.new_spec : ∃ p, Empty.new = .ok p ∧ p.size = 2 := ⟨_, rfl, rfl⟩

theorem Empty.parses_parse : Parses (fun _ ↦ 0) data (Empty.parse data) := by
  obtain ⟨p, hp, -⟩ := Empty.new_spec
  simp [Empty.parse, hp, Parses]

end Safety

end MqttProtocolCore.Packet.V311
