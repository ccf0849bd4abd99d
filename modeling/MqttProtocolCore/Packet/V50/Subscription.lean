import MqttProtocolCore.Packet.Parse

namespace MqttProtocolCore.Packet.V50

open General

variable {w : IdWidth} {α : Type}

structure Listing (w : IdWidth) (α : Type) where
  remainingLength : VariableByteInteger
  packetId : PacketId w
  propertyLength : VariableByteInteger
  props : Properties
  entries : List α
deriving DecidableEq

namespace Listing

def size (p : Listing w α) : ℕ := packetSize p.remainingLength

/-- The remaining length counts the property section as it was received. -/
def parse (validate : Properties → Fallible MqttError Unit) (entrySize : α → ℕ)
    (parseEntry : Bytes → Fallible MqttError (α × ℕ)) (data : Bytes) :
    Fallible MqttError (Listing w α × ℕ) := do
  let (packetId, idEnd) ← parsePacketId w data
  let ((propertyLength, props), propsEnd) ← parseProperties validate data idEnd
  let (entries, cursor) ← parseEntries parseEntry data data.length propsEnd []
  .require (entries ≠ []) .protocolError
  let remainingLength ←
    lengthOf (w.bufferSize + (propsEnd - idEnd) + entriesSize entrySize entries)
  return (⟨remainingLength, packetId, propertyLength, props, entries⟩, cursor)

theorem parses_parse {validate : Properties → Fallible MqttError Unit} {entrySize : α → ℕ}
    {parseEntry : Bytes → Fallible MqttError (α × ℕ)} {data : Bytes}
    (hv : ∀ props, (validate props).Yields fun _ ↦ True)
    (he : ∀ d, 1 ≤ d.length → Parses entrySize d (parseEntry d)) (hpos : ∀ a, 1 ≤ entrySize a)
    (hmax : data.length ≤ VariableByteInteger.max) :
    Parses (fun _ ↦ 0) data
      (parse validate entrySize parseEntry data : Fallible MqttError (Listing w α × ℕ)) := by
  refine (parses_parsePacketId w data).bind fun ⟨id, _⟩ h ↦ ?_
  refine (parsesFrom_parseProperties hv hmax h.2).bind fun ⟨⟨_, _⟩, _⟩ hp ↦ ?_
  refine (parsesFrom_parseEntries he hpos (by omega) hp.2).bind
    fun ⟨entries, _⟩ hl ↦ Fallible.yields_require.bind fun _ _ ↦ ?_
  refine (yields_lengthOf ?_).bind fun _ _ ↦ ⟨Nat.zero_le _, hl.2⟩
  simp only [entriesSize, List.map_nil, List.sum_nil] at *
  omega

end Listing

abbrev Subscribe (w : IdWidth) := Listing w SubEntry

abbrev Suback (w : IdWidth) := Listing w SubackReasonCode

abbrev Unsubscribe (w : IdWidth) := Listing w MqttString

abbrev Unsuback (w : IdWidth) := Listing w UnsubackReasonCode

def validateSubscribeProperties : Properties → Fallible MqttError Unit :=
  validateProperties [] [.subscriptionIdentifier, .userProperty]

def validateUnsubscribeProperties : Properties → Fallible MqttError Unit :=
  validateProperties [] [.userProperty]

def validateSubackProperties : Properties → Fallible MqttError Unit :=
  validateProperties [.reasonString] [.userProperty]

def Subscribe.parse : Bytes → Fallible MqttError (Subscribe w × ℕ) :=
  Listing.parse validateSubscribeProperties SubEntry.size SubEntry.parse

def Unsubscribe.parse : Bytes → Fallible MqttError (Unsubscribe w × ℕ) :=
  Listing.parse validateUnsubscribeProperties MqttString.size MqttString.decode

def Suback.parse : Bytes → Fallible MqttError (Suback w × ℕ) :=
  Listing.parse validateSubackProperties (fun _ ↦ 1) (parseCode SubackReasonCode)

def Unsuback.parse : Bytes → Fallible MqttError (Unsuback w × ℕ) :=
  Listing.parse validateSubackProperties (fun _ ↦ 1) (parseCode UnsubackReasonCode)

section Safety

variable {data : Bytes}

theorem Subscribe.parses_parse (hmax : data.length ≤ VariableByteInteger.max) :
    Parses (fun _ ↦ 0) data (Subscribe.parse data : Fallible MqttError (Subscribe w × ℕ)) :=
  Listing.parses_parse (yields_validateProperties _ _) (fun d _ ↦ SubEntry.parses_parse d)
    SubEntry.one_le_size hmax

theorem Unsubscribe.parses_parse (hmax : data.length ≤ VariableByteInteger.max) :
    Parses (fun _ ↦ 0) data (Unsubscribe.parse data : Fallible MqttError (Unsubscribe w × ℕ)) :=
  Listing.parses_parse (yields_validateProperties _ _) (fun d _ ↦ MqttString.parses_decode d)
    MqttString.one_le_size hmax

theorem Suback.parses_parse (hmax : data.length ≤ VariableByteInteger.max) :
    Parses (fun _ ↦ 0) data (Suback.parse data : Fallible MqttError (Suback w × ℕ)) :=
  Listing.parses_parse (yields_validateProperties _ _) (fun _ h ↦ parses_parseCode _ h)
    (fun _ ↦ le_rfl) hmax

theorem Unsuback.parses_parse (hmax : data.length ≤ VariableByteInteger.max) :
    Parses (fun _ ↦ 0) data (Unsuback.parse data : Fallible MqttError (Unsuback w × ℕ)) :=
  Listing.parses_parse (yields_validateProperties _ _) (fun _ h ↦ parses_parseCode _ h)
    (fun _ ↦ le_rfl) hmax

end Safety

end MqttProtocolCore.Packet.V50
