import MqttProtocolCore.Packet.MqttString
import MqttProtocolCore.Packet.VariableByteInteger

namespace MqttProtocolCore.Packet

open General

inductive PropertyId where
  | payloadFormatIndicator | messageExpiryInterval | contentType | responseTopic
  | correlationData | subscriptionIdentifier | sessionExpiryInterval | assignedClientIdentifier
  | serverKeepAlive | authenticationMethod | authenticationData | requestProblemInformation
  | willDelayInterval | requestResponseInformation | responseInformation | serverReference
  | reasonString | receiveMaximum | topicAliasMaximum | topicAlias | maximumQos | retainAvailable
  | userProperty | maximumPacketSize | wildcardSubscriptionAvailable
  | subscriptionIdentifierAvailable | sharedSubscriptionAvailable
deriving DecidableEq

def PropertyId.toU8 : PropertyId → UInt8
  | .payloadFormatIndicator => 1
  | .messageExpiryInterval => 2
  | .contentType => 3
  | .responseTopic => 8
  | .correlationData => 9
  | .subscriptionIdentifier => 11
  | .sessionExpiryInterval => 17
  | .assignedClientIdentifier => 18
  | .serverKeepAlive => 19
  | .authenticationMethod => 21
  | .authenticationData => 22
  | .requestProblemInformation => 23
  | .willDelayInterval => 24
  | .requestResponseInformation => 25
  | .responseInformation => 26
  | .serverReference => 28
  | .reasonString => 31
  | .receiveMaximum => 33
  | .topicAliasMaximum => 34
  | .topicAlias => 35
  | .maximumQos => 36
  | .retainAvailable => 37
  | .userProperty => 38
  | .maximumPacketSize => 39
  | .wildcardSubscriptionAvailable => 40
  | .subscriptionIdentifierAvailable => 41
  | .sharedSubscriptionAvailable => 42

def PropertyId.tryFrom (id : UInt8) : Option PropertyId :=
  match id.toNat with
  | 1 => some .payloadFormatIndicator
  | 2 => some .messageExpiryInterval
  | 3 => some .contentType
  | 8 => some .responseTopic
  | 9 => some .correlationData
  | 11 => some .subscriptionIdentifier
  | 17 => some .sessionExpiryInterval
  | 18 => some .assignedClientIdentifier
  | 19 => some .serverKeepAlive
  | 21 => some .authenticationMethod
  | 22 => some .authenticationData
  | 23 => some .requestProblemInformation
  | 24 => some .willDelayInterval
  | 25 => some .requestResponseInformation
  | 26 => some .responseInformation
  | 28 => some .serverReference
  | 31 => some .reasonString
  | 33 => some .receiveMaximum
  | 34 => some .topicAliasMaximum
  | 35 => some .topicAlias
  | 36 => some .maximumQos
  | 37 => some .retainAvailable
  | 38 => some .userProperty
  | 39 => some .maximumPacketSize
  | 40 => some .wildcardSubscriptionAvailable
  | 41 => some .subscriptionIdentifierAvailable
  | 42 => some .sharedSubscriptionAvailable
  | _ => none

abbrev Flag := {v : UInt8 // v ≤ 1}

/-- A property with its value; the types of the values are what the validators admit. -/
inductive Property where
  | payloadFormatIndicator (val : Flag)
  | messageExpiryInterval (val : U32)
  | contentType (val : MqttString)
  | responseTopic (val : MqttString)
  | correlationData (val : MqttBinary)
  | subscriptionIdentifier (val : {v : VariableByteInteger // v.toU32 ≠ 0})
  | sessionExpiryInterval (val : U32)
  | assignedClientIdentifier (val : MqttString)
  | serverKeepAlive (val : U16)
  | authenticationMethod (val : MqttString)
  | authenticationData (val : MqttBinary)
  | requestProblemInformation (val : Flag)
  | willDelayInterval (val : U32)
  | requestResponseInformation (val : Flag)
  | responseInformation (val : MqttString)
  | serverReference (val : MqttString)
  | reasonString (val : MqttString)
  | receiveMaximum (val : NonZero 65535)
  | topicAliasMaximum (val : U16)
  | topicAlias (val : NonZero 65535)
  | maximumQos (val : Flag)
  | retainAvailable (val : Flag)
  | userProperty (val : MqttString × MqttString)
  | maximumPacketSize (val : NonZero 4294967295)
  | wildcardSubscriptionAvailable (val : Flag)
  | subscriptionIdentifierAvailable (val : Flag)
  | sharedSubscriptionAvailable (val : Flag)
deriving DecidableEq

abbrev Properties := List Property

namespace Property

def id : Property → PropertyId
  | payloadFormatIndicator _ => .payloadFormatIndicator
  | messageExpiryInterval _ => .messageExpiryInterval
  | contentType _ => .contentType
  | responseTopic _ => .responseTopic
  | correlationData _ => .correlationData
  | subscriptionIdentifier _ => .subscriptionIdentifier
  | sessionExpiryInterval _ => .sessionExpiryInterval
  | assignedClientIdentifier _ => .assignedClientIdentifier
  | serverKeepAlive _ => .serverKeepAlive
  | authenticationMethod _ => .authenticationMethod
  | authenticationData _ => .authenticationData
  | requestProblemInformation _ => .requestProblemInformation
  | willDelayInterval _ => .willDelayInterval
  | requestResponseInformation _ => .requestResponseInformation
  | responseInformation _ => .responseInformation
  | serverReference _ => .serverReference
  | reasonString _ => .reasonString
  | receiveMaximum _ => .receiveMaximum
  | topicAliasMaximum _ => .topicAliasMaximum
  | topicAlias _ => .topicAlias
  | maximumQos _ => .maximumQos
  | retainAvailable _ => .retainAvailable
  | userProperty _ => .userProperty
  | maximumPacketSize _ => .maximumPacketSize
  | wildcardSubscriptionAvailable _ => .wildcardSubscriptionAvailable
  | subscriptionIdentifierAvailable _ => .subscriptionIdentifierAvailable
  | sharedSubscriptionAvailable _ => .sharedSubscriptionAvailable

def size : Property → ℕ
  | payloadFormatIndicator _ => 2
  | messageExpiryInterval _ => 5
  | contentType v => 1 + v.size
  | responseTopic v => 1 + v.size
  | correlationData v => 1 + v.size
  | subscriptionIdentifier v => 1 + v.val.size
  | sessionExpiryInterval _ => 5
  | assignedClientIdentifier v => 1 + v.size
  | serverKeepAlive _ => 3
  | authenticationMethod v => 1 + v.size
  | authenticationData v => 1 + v.size
  | requestProblemInformation _ => 2
  | willDelayInterval _ => 5
  | requestResponseInformation _ => 2
  | responseInformation v => 1 + v.size
  | serverReference v => 1 + v.size
  | reasonString v => 1 + v.size
  | receiveMaximum _ => 3
  | topicAliasMaximum _ => 3
  | topicAlias _ => 3
  | maximumQos _ => 2
  | retainAvailable _ => 2
  | userProperty v => 1 + v.1.size + v.2.size
  | maximumPacketSize _ => 5
  | wildcardSubscriptionAvailable _ => 2
  | subscriptionIdentifierAvailable _ => 2
  | sharedSubscriptionAvailable _ => 2

def parseU8 (bytes : Bytes) : Fallible MqttError (UInt8 × ℕ) := do
  .require (1 ≤ bytes.length) .malformedPacket
  return (← index bytes 0, 1)

def parseU16 (bytes : Bytes) : Fallible MqttError (U16 × ℕ) := do
  .require (2 ≤ bytes.length) .malformedPacket
  return (U16.fromBeBytes (← index bytes 0) (← index bytes 1), 2)

def parseU32 (bytes : Bytes) : Fallible MqttError (U32 × ℕ) := do
  .require (4 ≤ bytes.length) .malformedPacket
  let v := U32.fromBeBytes (← index bytes 0) (← index bytes 1) (← index bytes 2) (← index bytes 3)
  return (v, 4)

def validated {α : Type} (valid : α → Prop) [DecidablePred valid]
    (x : Fallible MqttError (α × ℕ)) : Fallible MqttError ({a // valid a} × ℕ) := do
  let (v, n) ← x
  if h : valid v then return (⟨v, h⟩, n) else .err .protocolError

def parseFlag (bytes : Bytes) : Fallible MqttError (Flag × ℕ) := validated (· ≤ 1) (parseU8 bytes)

def parseVariableByteInteger (bytes : Bytes) :
    Fallible MqttError ({v : VariableByteInteger // v.toU32 ≠ 0} × ℕ) :=
  match VariableByteInteger.decodeStream bytes with
  | .ok vbi len => validated (·.toU32 ≠ 0) (.ok (vbi, len))
  | .incomplete => .err .insufficientBytes
  | .err _ => .err .insufficientBytes

def parseStringPair (bytes : Bytes) : Fallible MqttError ((MqttString × MqttString) × ℕ) := do
  let (key, keyConsumed) ← MqttString.decode bytes
  let (val, valConsumed) ← MqttString.decode (← sliceFrom bytes keyConsumed)
  return ((key, val), keyConsumed + valConsumed)

def tagged {α : Type} (property : α → Property) (x : Fallible MqttError (α × ℕ)) :
    Fallible MqttError (Property × ℕ) := do
  let (v, n) ← x
  return (property v, n + 1)

def parseValue (id : PropertyId) (bytes : Bytes) : Fallible MqttError (Property × ℕ) :=
  match id with
  | .payloadFormatIndicator => tagged payloadFormatIndicator (parseFlag bytes)
  | .messageExpiryInterval => tagged messageExpiryInterval (parseU32 bytes)
  | .contentType => tagged contentType (MqttString.decode bytes)
  | .responseTopic => tagged responseTopic (MqttString.decode bytes)
  | .correlationData => tagged correlationData (MqttBinary.decode bytes)
  | .subscriptionIdentifier => tagged subscriptionIdentifier (parseVariableByteInteger bytes)
  | .sessionExpiryInterval => tagged sessionExpiryInterval (parseU32 bytes)
  | .assignedClientIdentifier => tagged assignedClientIdentifier (MqttString.decode bytes)
  | .serverKeepAlive => tagged serverKeepAlive (parseU16 bytes)
  | .authenticationMethod => tagged authenticationMethod (MqttString.decode bytes)
  | .authenticationData => tagged authenticationData (MqttBinary.decode bytes)
  | .requestProblemInformation => tagged requestProblemInformation (parseFlag bytes)
  | .willDelayInterval => tagged willDelayInterval (parseU32 bytes)
  | .requestResponseInformation => tagged requestResponseInformation (parseFlag bytes)
  | .responseInformation => tagged responseInformation (MqttString.decode bytes)
  | .serverReference => tagged serverReference (MqttString.decode bytes)
  | .reasonString => tagged reasonString (MqttString.decode bytes)
  | .receiveMaximum => tagged receiveMaximum (validated (· ≠ 0) (parseU16 bytes))
  | .topicAliasMaximum => tagged topicAliasMaximum (parseU16 bytes)
  | .topicAlias => tagged topicAlias (validated (· ≠ 0) (parseU16 bytes))
  | .maximumQos => tagged maximumQos (parseFlag bytes)
  | .retainAvailable => tagged retainAvailable (parseFlag bytes)
  | .userProperty => tagged userProperty (parseStringPair bytes)
  | .maximumPacketSize => tagged maximumPacketSize (validated (· ≠ 0) (parseU32 bytes))
  | .wildcardSubscriptionAvailable => tagged wildcardSubscriptionAvailable (parseFlag bytes)
  | .subscriptionIdentifierAvailable => tagged subscriptionIdentifierAvailable (parseFlag bytes)
  | .sharedSubscriptionAvailable => tagged sharedSubscriptionAvailable (parseFlag bytes)

def parse (bytes : Bytes) : Fallible MqttError (Property × ℕ) := do
  .require (bytes ≠ []) .malformedPacket
  match PropertyId.tryFrom (← index bytes 0) with
  | none => .err .malformedPacket
  | some id => parseValue id (← sliceFrom bytes 1)

theorem parses_parseU8 (bytes : Bytes) : Parses (fun _ ↦ 1) bytes (parseU8 bytes) := by
  refine Fallible.yields_require.bind fun _ h ↦ ?_
  exact (yields_index (by omega)).bind fun _ _ ↦ ⟨le_rfl, h⟩

theorem parses_parseU16 (bytes : Bytes) : Parses (fun _ ↦ 2) bytes (parseU16 bytes) := by
  refine Fallible.yields_require.bind fun _ h ↦ ?_
  refine (yields_index (by omega)).bind fun _ _ ↦ (yields_index (by omega)).bind fun _ _ ↦ ?_
  exact ⟨le_rfl, h⟩

theorem parses_parseU32 (bytes : Bytes) : Parses (fun _ ↦ 4) bytes (parseU32 bytes) := by
  refine Fallible.yields_require.bind fun _ h ↦ ?_
  refine (yields_index (by omega)).bind fun _ _ ↦ (yields_index (by omega)).bind fun _ _ ↦ ?_
  refine (yields_index (by omega)).bind fun _ _ ↦ (yields_index (by omega)).bind fun _ _ ↦ ?_
  exact ⟨le_rfl, h⟩

theorem parses_validated {α : Type} {valid : α → Prop} [DecidablePred valid] {size : α → ℕ}
    {bytes : Bytes} {x : Fallible MqttError (α × ℕ)} (h : Parses size bytes x) :
    Parses (fun v ↦ size v.val) bytes (validated valid x) := by
  refine h.bind fun r hr ↦ ?_
  obtain ⟨v, n⟩ := r
  dsimp only
  split
  · exact hr
  · trivial

theorem parses_parseVariableByteInteger (bytes : Bytes) :
    Parses (fun v ↦ v.val.size) bytes (parseVariableByteInteger bytes) := by
  unfold parseVariableByteInteger
  cases h : VariableByteInteger.decodeStream bytes with
  | incomplete => trivial
  | err => trivial
  | ok v n =>
    have hv : Parses VariableByteInteger.size bytes (.ok (v, n)) :=
      ⟨VariableByteInteger.size_le_consumed h, VariableByteInteger.consumed_le h⟩
    exact parses_validated hv

theorem parses_parseStringPair (bytes : Bytes) :
    Parses (fun v ↦ v.1.size + v.2.size) bytes (parseStringPair bytes) := by
  refine (MqttString.parses_decode bytes).bind fun key hkey ↦ ?_
  refine (yields_sliceFrom hkey.2).bind fun rest hrest ↦ ?_
  refine (MqttString.parses_decode rest).bind fun val hval ↦ ?_
  simp only [Fallible.pure_eq, Fallible.yields_ok]
  omega

theorem tagged_yields {α : Type} {property : α → Property} {size : α → ℕ} {bytes : Bytes}
    {x : Fallible MqttError (α × ℕ)} (hsize : ∀ v, (property v).size ≤ size v + 1)
    (h : Parses size bytes x) :
    (tagged property x).Yields fun r ↦ 1 ≤ r.2 ∧ r.1.size ≤ r.2 ∧ r.2 ≤ bytes.length + 1 :=
  h.bind fun r hr ↦ ⟨by simp, by have := hsize r.1; dsimp only; omega, by simpa using hr.2⟩

theorem parseValue_yields (id : PropertyId) (bytes : Bytes) :
    (parseValue id bytes).Yields fun r ↦ 1 ≤ r.2 ∧ r.1.size ≤ r.2 ∧ r.2 ≤ bytes.length + 1 := by
  have hflag : Parses (fun _ ↦ 1) bytes (parseFlag bytes) := parses_validated (parses_parseU8 bytes)
  have hu16 := parses_parseU16 bytes
  have hu32 := parses_parseU32 bytes
  have hstr := MqttString.parses_decode bytes
  have hbin := MqttBinary.parses_decode bytes
  have hvar := parses_parseVariableByteInteger bytes
  have hpair := parses_parseStringPair bytes
  cases id <;> first
    | exact tagged_yields (fun _ ↦ by simp [Property.size]) hflag
    | exact tagged_yields (fun _ ↦ by simp [Property.size]) hu16
    | exact tagged_yields (fun _ ↦ by simp [Property.size]) hu32
    | exact tagged_yields (fun _ ↦ by simp [Property.size]; omega) hstr
    | exact tagged_yields (fun _ ↦ by simp [Property.size]; omega) hbin
    | exact tagged_yields (fun _ ↦ by simp [Property.size]; omega) hvar
    | exact tagged_yields (fun _ ↦ by simp [Property.size]; omega) hpair
    | exact tagged_yields (fun _ ↦ by simp [Property.size]) (parses_validated hu16)
    | exact tagged_yields (fun _ ↦ by simp [Property.size]) (parses_validated hu32)

theorem parse_yields (bytes : Bytes) :
    (parse bytes).Yields fun r ↦ 1 ≤ r.2 ∧ r.1.size ≤ r.2 ∧ r.2 ≤ bytes.length := by
  refine Fallible.yields_require.bind fun _ hne ↦ ?_
  have hlen : 1 ≤ bytes.length := List.length_pos_iff.mpr hne
  refine (yields_index hlen).bind fun b _ ↦ ?_
  cases PropertyId.tryFrom b with
  | none => trivial
  | some id =>
    refine (yields_sliceFrom hlen).bind fun rest hrest ↦ ?_
    refine (parseValue_yields id rest).mono fun r hr ↦ ⟨hr.1, hr.2.1, ?_⟩
    omega

end Property

namespace Properties

def size (props : Properties) : ℕ := (props.map Property.size).sum

/-- The loop over the properties up to `propsEnd`. Every property takes a byte or more, so the
fuel, one for each byte, does not run out. -/
def parseLoop (data : Bytes) (propsEnd : ℕ) : ℕ → ℕ → Properties → Fallible MqttError (Properties × ℕ)
  | fuel, cursor, props =>
    if cursor < propsEnd then
      match fuel with
      | 0 => .panic
      | fuel + 1 => do
        let (p, c) ← Property.parse (← slice data cursor propsEnd).val
        parseLoop data propsEnd fuel (cursor + c) (props ++ [p])
    else .ok (props, cursor)

def parse (data : Bytes) : Fallible MqttError (Properties × ℕ) := do
  .require (data ≠ []) .malformedPacket
  match VariableByteInteger.decodeStream data with
  | .ok propLen consumed =>
    if propLen.toU32 = 0 then return ([], consumed)
    else
      let propsEnd := consumed + propLen.toU32
      .require (propsEnd ≤ data.length) .malformedPacket
      parseLoop data propsEnd (propsEnd - consumed) consumed []
  | _ => .err .malformedPacket

theorem parseLoop_yields {data : Bytes} {propsEnd : ℕ} (hend : propsEnd ≤ data.length) :
    ∀ {fuel cursor : ℕ} {props : Properties}, propsEnd ≤ cursor + fuel → cursor ≤ propsEnd →
      (parseLoop data propsEnd fuel cursor props).Yields fun r ↦
        size r.1 + cursor ≤ r.2 + size props ∧ r.2 ≤ propsEnd := by
  intro fuel
  induction fuel with
  | zero =>
    intro cursor props hf hc
    rw [parseLoop, if_neg (by omega)]
    exact ⟨by dsimp only; omega, hc⟩
  | succ fuel ih =>
    intro cursor props hf hc
    rw [parseLoop]
    split
    · refine (yields_slice (by omega) hend).bind fun d _ ↦ ?_
      refine (Property.parse_yields d.val).bind fun r hr ↦ ?_
      have := d.property
      refine (ih (by omega) (by omega)).mono fun r' hr' ↦ ⟨?_, hr'.2⟩
      have hr1 := hr'.1
      simp only [size, List.map_append, List.sum_append, List.map_cons, List.map_nil,
        List.sum_singleton] at hr1 ⊢
      omega
    · exact ⟨by dsimp only; omega, hc⟩

def sectionSize (props : Properties) : ℕ := VariableByteInteger.sizeOf (size props) + size props

theorem parses_parse (data : Bytes) : Parses sectionSize data (parse data) := by
  refine Fallible.yields_require.bind fun _ hne ↦ ?_
  cases h : VariableByteInteger.decodeStream data with
  | incomplete => trivial
  | err => trivial
  | ok v n =>
    have hn := VariableByteInteger.size_le_consumed h
    rw [VariableByteInteger.size_eq_sizeOf] at hn
    dsimp only
    split
    · rename_i hv
      refine ⟨?_, VariableByteInteger.consumed_le h⟩
      simpa [sectionSize, size, hv] using hn
    · refine Fallible.yields_require.bind fun _ hend ↦ ?_
      refine (parseLoop_yields hend (by omega) (by omega)).mono fun r hr ↦ ⟨?_, le_trans hr.2 hend⟩
      have hr1 := hr.1
      simp only [size, List.map_nil, List.sum_nil] at hr1
      have hv : size r.1 ≤ v.toU32 := by simp only [size]; omega
      have := VariableByteInteger.sizeOf_mono hv
      simp only [sectionSize, size] at *
      omega

end Properties

end MqttProtocolCore.Packet
