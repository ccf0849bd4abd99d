import MqttProtocolCore.Packet.Parse

namespace MqttProtocolCore.Packet.V50

open General

variable {w : IdWidth}

structure Publish (w : IdWidth) where
  fixedHeader : PublishHeader
  remainingLength : VariableByteInteger
  topicName : MqttString
  id : PublishId w fixedHeader.qos
  propertyLength : VariableByteInteger
  props : Properties
  payload : Bytes
  topicNameExtracted : Bool
deriving DecidableEq

structure PublishBuilder (w : IdWidth) where
  fixedHeader : Option PublishHeader
  topicName : Option MqttString
  packetId : Option (PacketId w)
  props : Option Properties
  payload : Option Bytes

def topicAliasOf : Properties → Option (NonZero 65535)
  | [] => none
  | .topicAlias ta :: _ => some ta
  | _ :: props => topicAliasOf props

def isTopicAlias (p : Property) : Bool := p.id = .topicAlias

namespace Publish

def packetId (p : Publish w) : Option (PacketId w) := p.id.val

def qos (p : Publish w) : Qos := p.fixedHeader.qos

def size (p : Publish w) : ℕ := packetSize p.remainingLength

def setDup (p : Publish w) (dup : Bool) : Publish w :=
  { p with fixedHeader := { p.fixedHeader with dup := dup } }

def validatePublishProperties : Properties → Fallible MqttError Unit :=
  validateProperties
    [.contentType, .correlationData, .messageExpiryInterval, .payloadFormatIndicator,
      .responseTopic, .topicAlias]
    [.subscriptionIdentifier, .userProperty]

def remainingSize (topicName : MqttString) {qos : Qos} (id : PublishId w qos)
    (propertyLength : VariableByteInteger) (props : Properties) (payload : Bytes) : ℕ :=
  topicName.size + id.size + propertyLength.size + props.size + payload.length

/-- The properties of a PUBLISH, absent when the body ends before them. -/
def parsePublishProperties (data : Bytes) (cursor : ℕ) :
    Fallible MqttError ((VariableByteInteger × Properties) × ℕ) :=
  if cursor < data.length then parseProperties validatePublishProperties data cursor
  else do return ((← lengthOf 0, []), cursor)

def parse (flags : UInt8) (data : Bytes) : Fallible MqttError (Publish w × ℕ) := do
  let fixedHeader ← PublishHeader.parse flags
  let (topicName, cursor) ← MqttString.decode data
  let (id, cursor) ← parsePublishId w fixedHeader.qos data cursor
  let ((propertyLength, props), cursor) ← parsePublishProperties data cursor
  let payload ← sliceFrom data cursor
  let remainingLength ← lengthOf (remainingSize topicName id propertyLength props payload)
  return (⟨fixedHeader, remainingLength, topicName, id, propertyLength, props, payload, false⟩,
    data.length)

def build (b : PublishBuilder w) : Fallible MqttError (Publish w) := do
  let topicName := b.topicName.getD .default
  let fixedHeader := b.fixedHeader.getD .default
  let props := b.props.getD []
  let payload := b.payload.getD []
  validatePublishProperties props
  .require (¬ topicName.isEmpty ∨ (topicAliasOf props).isSome) .malformedPacket
  let id ← PublishId.check fixedHeader.qos b.packetId
  .require (payload.length ≤ 268435455) .malformedPacket
  let propertyLength ← lengthOf props.size
  let remainingLength ← lengthOf (remainingSize topicName id propertyLength props payload)
  return ⟨fixedHeader, remainingLength, topicName, id, propertyLength, props, payload, false⟩

def recalculateLengths (p : Publish w) : Fallible MqttError (Publish w) := do
  let propertyLength ← lengthOf p.props.size
  let remainingLength ← lengthOf (remainingSize p.topicName p.id propertyLength p.props p.payload)
  return { p with propertyLength := propertyLength, remainingLength := remainingLength }

def replaceTopic (p : Publish w) (topic : Utf8String) : Fallible MqttError (Publish w) := do
  .require p.topicName.isEmpty .topicNameInvalid
  .require (¬ (topic.containsAscii 0x23 ∨ topic.containsAscii 0x2B)) .malformedPacket
  return { p with topicName := ← .ofExcept (MqttString.new topic) }

def retainNonAlias (p : Publish w) : Publish w :=
  { p with props := p.props.filter fun prop ↦ !isTopicAlias prop }

def removeTopicAliasAddTopic (p : Publish w) (topic : Utf8String) :
    Fallible MqttError (Publish w) := do
  let p ← p.replaceTopic topic
  p.retainNonAlias.recalculateLengths

def removeTopicAlias (p : Publish w) : Fallible MqttError (Publish w) :=
  p.retainNonAlias.recalculateLengths

def addExtractedTopicName (p : Publish w) (topic : Utf8String) : Fallible MqttError (Publish w) := do
  let p ← p.replaceTopic topic
  recalculateLengths { p with topicNameExtracted := true }

/-- The alias takes the place of the topic; a topic alias of 0 cannot be made. -/
def removeTopicAddTopicAlias (p : Publish w) (topicAlias : U16) : Fallible MqttError (Publish w) :=
  if h : topicAlias ≠ 0 then
    let p := { p with topicName := .default }.retainNonAlias
    recalculateLengths { p with props := p.props ++ [.topicAlias ⟨topicAlias, h⟩] }
  else .panic

end Publish

section Safety

variable {data : Bytes}

/-- A body that ends before the properties is written again with one byte more. -/
theorem Publish.yields_parsePublishProperties {cursor : ℕ}
    (hmax : data.length ≤ VariableByteInteger.max) (hc : cursor ≤ data.length) :
    (Publish.parsePublishProperties data cursor).Yields fun r ↦
      (cursor + (r.1.1.size + r.1.2.size) ≤ r.2 ∨
        cursor + (r.1.1.size + r.1.2.size) = r.2 + 1 ∧ r.2 = cursor ∧ r.2 = data.length) ∧
      r.2 ≤ data.length := by
  unfold Publish.parsePublishProperties
  split
  · refine (parsesFrom_parseProperties (yields_validateProperties _ _) hmax hc).mono fun r hr ↦ ?_
    exact ⟨.inl hr.1, hr.2⟩
  · refine (yields_lengthOf (Nat.zero_le _)).bind fun l hl ↦ ⟨.inr ⟨?_, rfl, ?_⟩, hc⟩
    · simp [VariableByteInteger.size_eq_sizeOf, hl, VariableByteInteger.sizeOf, Properties.size]
    · dsimp only
      omega

theorem Publish.parses_parse (flags : UInt8) (hmax : data.length ≤ VariableByteInteger.max) :
    Parses (fun _ ↦ 0) data (Publish.parse flags data : Fallible MqttError (Publish w × ℕ)) := by
  refine (PublishHeader.yields_parse flags).bind fun fixedHeader _ ↦ ?_
  refine (MqttString.parses_decode data).bind fun ⟨topicName, _⟩ ht ↦ ?_
  refine (parsesFrom_parsePublishId w fixedHeader.qos ht.2).bind fun ⟨id, _⟩ hid ↦ ?_
  refine (Publish.yields_parsePublishProperties hmax hid.2).bind fun ⟨⟨_, _⟩, _⟩ hp ↦ ?_
  refine (yields_sliceFrom hp.2).bind fun payload hl ↦ ?_
  refine (yields_lengthOf ?_).bind fun _ _ ↦ ⟨Nat.zero_le _, le_rfl⟩
  have htopic := topicName.size_le
  have hbuffer : id.size ≤ 4 := PublishId.size_le id
  simp only [remainingSize] at *
  rw [VariableByteInteger.max] at *
  omega

end Safety

section Rewriting

def LengthFits (n : ℕ) : Prop := n % 4294967296 ≤ VariableByteInteger.max

theorem lengthOf_of_fits {n : ℕ} (h : LengthFits n) :
    ∃ v, lengthOf n = .ok v ∧ v.toU32 = n % 4294967296 := by
  rw [lengthOf, VariableByteInteger.fromU32_eq h]
  exact ⟨_, rfl, VariableByteInteger.toU32_of_fromU32 (VariableByteInteger.fromU32_eq h)⟩

theorem lengthOf_of_not_fits {n : ℕ} (h : ¬ LengthFits n) : lengthOf n = .panic := by
  rw [lengthOf]
  cases hv : VariableByteInteger.fromU32 (n % 4294967296) with
  | none => rfl
  | some v => exact (h (VariableByteInteger.fromU32_isSome.mp (by rw [hv]; rfl))).elim

namespace Publish

def Encodes (p : Publish w) : Prop :=
  LengthFits p.props.size ∧
    LengthFits (p.topicName.size + p.id.size +
      VariableByteInteger.sizeOf (p.props.size % 4294967296) + p.props.size + p.payload.length)

def Relengthed (p p' : Publish w) : Prop :=
  p' = { p with propertyLength := p'.propertyLength, remainingLength := p'.remainingLength }

theorem recalculateLengths_cases (p : Publish w) :
    (∃ p', p.recalculateLengths = .ok p' ∧ p.Encodes ∧ p.Relengthed p') ∨
      p.recalculateLengths = .panic ∧ ¬ p.Encodes := by
  unfold recalculateLengths remainingSize
  by_cases hl : LengthFits p.props.size
  · obtain ⟨l, hl', hn⟩ := lengthOf_of_fits hl
    rw [hl', Fallible.ok_bind, VariableByteInteger.size_eq_sizeOf, hn]
    by_cases hr : LengthFits (p.topicName.size + p.id.size +
      VariableByteInteger.sizeOf (p.props.size % 4294967296) + p.props.size + p.payload.length)
    · obtain ⟨r, hr', -⟩ := lengthOf_of_fits hr
      rw [hr']
      exact .inl ⟨_, rfl, ⟨hl, hr⟩, rfl⟩
    · rw [lengthOf_of_not_fits hr]
      exact .inr ⟨rfl, fun h ↦ hr h.2⟩
  · rw [lengthOf_of_not_fits hl]
    exact .inr ⟨rfl, fun h ↦ hl h.1⟩

theorem recalculateLengths_spec (p : Publish w) :
    p.recalculateLengths.unwrap.Spec (fun p' ↦ p.Encodes ∧ p.Relengthed p') (¬ p.Encodes) := by
  rcases p.recalculateLengths_cases with ⟨p', hp', h⟩ | ⟨hp', h⟩
  · rw [hp']
    exact h
  · rw [hp']
    exact h

theorem removeTopicAlias_spec (p : Publish w) :
    p.removeTopicAlias.unwrap.Spec
      (fun p' ↦ p.retainNonAlias.Encodes ∧ p.retainNonAlias.Relengthed p')
      (¬ p.retainNonAlias.Encodes) :=
  recalculateLengths_spec _

def IsTopicName (topic : Utf8String) : Prop :=
  ¬ (topic.containsAscii 0x23 ∨ topic.containsAscii 0x2B) ∧ topic.len ≤ 65535

/-- The topic is given by its name, without an alias. -/
def NamesTopic (p : Publish w) : Prop := ¬ p.topicName.isEmpty ∧ topicAliasOf p.props = none

instance {p : Publish w} : Decidable p.NamesTopic := inferInstanceAs (Decidable (_ ∧ _))

/-- The copy for the store of a PUBLISH whose topic is known by its alias. -/
def StoresTopic (p : Publish w) (topic : Utf8String) : Prop :=
  IsTopicName topic ∧ ∀ t : MqttString, t.str = topic →
    ({ p with topicName := t }.retainNonAlias).Encodes

theorem replaceTopic_spec {p : Publish w} (hp : p.topicName.isEmpty) (topic : Utf8String) :
    (IsTopicName topic ∧ ∃ t : MqttString, t.str = topic ∧
      p.replaceTopic topic = .ok { p with topicName := t }) ∨
    ¬ IsTopicName topic ∧ ∃ e, p.replaceTopic topic = .err e := by
  unfold replaceTopic IsTopicName
  simp only [Fallible.require, hp, if_true, Fallible.ok_bind]
  by_cases hw : topic.containsAscii 0x23 ∨ topic.containsAscii 0x2B
  · exact .inr ⟨fun h ↦ h.1 hw, _, by rw [if_neg (not_not.mpr hw)]; rfl⟩
  · rw [if_pos hw]
    by_cases hl : topic.len ≤ 65535
    · refine .inl ⟨⟨hw, hl⟩, ⟨topic, hl⟩, rfl, ?_⟩
      simp [MqttString.new, Nat.not_lt.mpr hl, Fallible.ofExcept]
    · refine .inr ⟨fun h ↦ hl h.2, .malformedPacket, ?_⟩
      simp [MqttString.new, Nat.lt_of_not_le hl, Fallible.ofExcept]

theorem removeTopicAliasAddTopic_spec {p : Publish w} (hp : p.topicName.isEmpty)
    (topic : Utf8String) : (p.removeTopicAliasAddTopic topic).unwrap.Spec
      (fun p' ↦ p.StoresTopic topic ∧ ∃ t : MqttString, t.str = topic ∧
        ({ p with topicName := t }.retainNonAlias).Relengthed p') (¬ p.StoresTopic topic) := by
  unfold removeTopicAliasAddTopic
  rcases replaceTopic_spec hp topic with ⟨hn, t, rfl, hr⟩ | ⟨hn, e, hr⟩
  · rw [hr, Fallible.ok_bind]
    have huniq : ∀ t' : MqttString, t'.str = t.str → t' = t := by
      rintro ⟨_, _⟩ rfl
      rfl
    refine (recalculateLengths_spec _).mono (fun p' ⟨he, hp'⟩ ↦ ⟨⟨hn, ?_⟩, t, rfl, hp'⟩) ?_
    · intro t' ht'
      rwa [huniq t' ht']
    · exact fun he h ↦ he (h.2 t rfl)
  · rw [hr]
    exact fun h ↦ hn h.1

/-- The received packet with the topic of its alias can be written. -/
def ExtractsTopic (p : Publish w) (topic : Utf8String) : Prop :=
  IsTopicName topic → ∀ t : MqttString, t.str = topic → { p with topicName := t }.Encodes

theorem addExtractedTopicName_spec {p : Publish w} (hp : p.topicName.isEmpty) (topic : Utf8String) :
    match p.addExtractedTopicName topic with
    | .ok p' => IsTopicName topic ∧ p.ExtractsTopic topic ∧ p'.packetId = p.packetId ∧
      p'.qos = p.qos ∧ p'.topicName.asStr = topic ∧
      Relengthed { p with topicName := p'.topicName, topicNameExtracted := true } p'
    | .err _ => ¬ IsTopicName topic
    | .panic => ¬ p.ExtractsTopic topic := by
  unfold addExtractedTopicName
  rcases replaceTopic_spec hp topic with ⟨hn, t, rfl, hr⟩ | ⟨hn, e, hr⟩
  · rw [hr, Fallible.ok_bind]
    have huniq : ∀ t' : MqttString, t'.str = t.str → t' = t := by
      rintro ⟨_, _⟩ rfl
      rfl
    rcases recalculateLengths_cases { { p with topicName := t } with topicNameExtracted := true } with
      ⟨p', hc, he, hp'⟩ | ⟨hc, he⟩
    · rw [hc]
      refine ⟨hn, fun _ t' ht' ↦ ?_, ?_, ?_, ?_, ?_⟩
      · rw [huniq t' ht']
        exact he
      · rw [hp']
        rfl
      · rw [hp']
        rfl
      · rw [hp']
        rfl
      · unfold Relengthed at hp' ⊢
        rw [hp']
    · rw [hc]
      exact fun h ↦ he (h hn t rfl)
  · rw [hr]
    exact hn

def aliased (p : Publish w) (topicAlias : NonZero 65535) : Publish w :=
  let p := { p with topicName := .default }.retainNonAlias
  { p with props := p.props ++ [.topicAlias topicAlias] }

theorem removeTopicAddTopicAlias_spec (p : Publish w) (topicAlias : NonZero 65535) :
    (p.removeTopicAddTopicAlias topicAlias.val).unwrap.Spec
      (fun p' ↦ (p.aliased topicAlias).Encodes ∧ (p.aliased topicAlias).Relengthed p')
      (¬ (p.aliased topicAlias).Encodes) := by
  unfold removeTopicAddTopicAlias
  rw [dif_pos topicAlias.property]
  exact recalculateLengths_spec _

theorem size_props_aliased (p : Publish w) (a : NonZero 65535) :
    (p.aliased a).props.size = p.retainNonAlias.props.size + 3 := by
  simp [aliased, retainNonAlias, Properties.size, Property.size]

theorem encodes_aliased {p : Publish w} (a b : NonZero 65535) :
    (p.aliased a).Encodes ↔ (p.aliased b).Encodes := by
  unfold Encodes
  rw [size_props_aliased, size_props_aliased]
  exact Iff.rfl

def encodedSize (p : Publish w) : ℕ :=
  let remaining := (p.topicName.size + p.id.size +
    VariableByteInteger.sizeOf (p.props.size % 4294967296) + p.props.size + p.payload.length) %
      4294967296
  1 + VariableByteInteger.sizeOf remaining + remaining

theorem recalculateLengths_size (p : Publish w) :
    p.recalculateLengths.unwrap.Ensures fun p' ↦ p'.size = p.encodedSize := by
  unfold recalculateLengths remainingSize
  by_cases hl : LengthFits p.props.size
  · obtain ⟨l, hl', hn⟩ := lengthOf_of_fits hl
    rw [hl', Fallible.ok_bind, VariableByteInteger.size_eq_sizeOf, hn]
    by_cases hr : LengthFits (p.topicName.size + p.id.size +
      VariableByteInteger.sizeOf (p.props.size % 4294967296) + p.props.size + p.payload.length)
    · obtain ⟨r, hr', hn'⟩ := lengthOf_of_fits hr
      rw [hr']
      refine Outcome.ensures_ret.mpr ?_
      change packetSize r = _
      rw [packetSize_eq, hn']
      rfl
    · rw [lengthOf_of_not_fits hr]
      exact Outcome.ensures_panic
  · rw [lengthOf_of_not_fits hl]
    exact Outcome.ensures_panic

def aliasedSize (p : Publish w) : ℕ := (p.aliased ⟨1, U16.isNonZero_one⟩).encodedSize

theorem removeTopicAddTopicAlias_size (p : Publish w) (a : NonZero 65535) :
    (p.removeTopicAddTopicAlias a.val).unwrap.Ensures fun p' ↦ p'.size = p.aliasedSize := by
  unfold removeTopicAddTopicAlias
  rw [dif_pos a.property]
  refine (recalculateLengths_size (p.aliased a)).mono fun p' hp' ↦ hp'.trans ?_
  unfold aliasedSize encodedSize
  rw [size_props_aliased, size_props_aliased]
  rfl

end Publish

end Rewriting

end MqttProtocolCore.Packet.V50
