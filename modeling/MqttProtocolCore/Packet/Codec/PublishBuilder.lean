import MqttProtocolCore.Packet.Codec.Rebuild

namespace MqttProtocolCore.Packet

open General

variable {w : IdWidth}

def setHeader (header : Option PublishHeader) (f : PublishHeader → PublishHeader) :
    Option PublishHeader := some (f (header.getD .default))

def idSize (id : Option (PacketId w)) : ℕ := if id.isSome then w.bufferSize else 0

def IdAdmitted (qos : Qos) (id : Option (PacketId w)) : Prop :=
  (id.isSome ↔ qos ≠ .atMostOnce) ∧ id ≠ some 0

theorem check_of_admitted {qos : Qos} {id : Option (PacketId w)} (h : IdAdmitted qos id) :
    ∃ id' : PublishId w qos, PublishId.check qos id = .ok id' ∧ id'.size = idSize id := by
  refine ⟨⟨id, h.1⟩, ?_, rfl⟩
  rw [PublishId.check, dif_pos h.1, if_neg h.2]

theorem check_of_not_admitted {qos : Qos} {id : Option (PacketId w)} (h : ¬ IdAdmitted qos id) :
    ∃ e, PublishId.check qos id = .err e := by
  unfold PublishId.check
  split
  · rename_i hsome
    by_cases hzero : id = some 0
    · rw [if_pos hzero]
      exact ⟨_, rfl⟩
    · exact (h ⟨hsome, hzero⟩).elim
  · exact ⟨_, rfl⟩

theorem require_of_not {P : Prop} [Decidable P] {e : MqttError} (h : ¬ P) :
    Fallible.require P e = .err e := if_neg h

theorem validateProperties_cases (single multiple : List PropertyId) (props : Properties) :
    validateProperties single multiple props = .ok () ∨
      validateProperties single multiple props = .err .protocolError := by
  unfold validateProperties
  split
  · exact .inl rfl
  · exact .inr rfl

theorem exists_of_yields {α : Type} {n : ℕ} {f : VariableByteInteger → Fallible MqttError α}
    {P : α → Prop} (h : (lengthOf n >>= f).Yields P) : ∃ v, lengthOf n = .ok v ∧ (f v).Yields P := by
  unfold lengthOf at h ⊢
  split at h
  · exact ⟨_, rfl, h⟩
  · exact h.elim

theorem yields_topicNameOf (topic : Utf8String) : (topicNameOf topic).Yields fun _ ↦ True := by
  unfold topicNameOf
  cases MqttString.new topic with
  | error e => trivial
  | ok s => exact Fallible.yields_require.bind fun _ _ ↦ trivial

namespace V311

inductive PublishSetter (w : IdWidth) where
  | topicName (topic : Utf8String)
  | qos (qos : Qos)
  | dup (dup : Bool)
  | retain (retain : Bool)
  | packetId (id : PacketId w)
  | payload (data : Bytes)

namespace PublishBuilder

def new : PublishBuilder w := ⟨none, none, none, none⟩

def set (b : PublishBuilder w) : PublishSetter w → Fallible MqttError (PublishBuilder w)
  | .topicName topic => do return { b with topicName := some (← topicNameOf topic) }
  | .qos qos => .ok { b with fixedHeader := setHeader b.fixedHeader ({ · with qos := qos }) }
  | .dup dup => .ok { b with fixedHeader := setHeader b.fixedHeader ({ · with dup := dup }) }
  | .retain retain =>
    .ok { b with fixedHeader := setHeader b.fixedHeader ({ · with retain := retain }) }
  | .packetId id => .ok { b with packetId := some id }
  | .payload data => .ok { b with payload := some data }

def setAll (setters : List (PublishSetter w)) : Fallible MqttError (PublishBuilder w) :=
  setters.foldlM set new

theorem yields_setAll (setters : List (PublishSetter w)) :
    (setAll setters).Yields fun _ ↦ True := by
  unfold setAll
  generalize (new : PublishBuilder w) = b
  induction setters generalizing b with
  | nil => trivial
  | cons setter setters ih =>
    rw [List.foldlM_cons]
    refine Fallible.Yields.bind (P := fun _ ↦ True) ?_ fun b _ ↦ ih b
    cases setter with
    | topicName topic => exact (yields_topicNameOf topic).bind fun _ _ ↦ trivial
    | _ => trivial

def contentSize (b : PublishBuilder w) : ℕ :=
  (b.topicName.getD .default).size + idSize b.packetId + (b.payload.getD []).length

structure Acceptable (b : PublishBuilder w) : Prop where
  topic : ¬ (b.topicName.getD .default).isEmpty
  id : IdAdmitted (b.fixedHeader.getD .default).qos b.packetId
  payload : (b.payload.getD []).length ≤ 268435455

/-- The builder rejects what cannot be encoded: it does not panic, and what it builds has the
length of its content. -/
def BuildsSoundly (b : PublishBuilder w) : Prop :=
  (Publish.build b).Yields fun p ↦
    b.contentSize ≤ 268435455 ∧ p.remainingLength.toU32 = b.contentSize

theorem build_of_not_acceptable {b : PublishBuilder w} (h : ¬ b.Acceptable) :
    ∃ e, Publish.build b = .err e := by
  rw [Publish.build]
  by_cases ht : ¬ (b.topicName.getD .default).isEmpty
  · rw [(Fallible.require_eq_ok (u := ⟨⟩)).mpr ht, Fallible.ok_bind]
    by_cases hid : IdAdmitted (b.fixedHeader.getD .default).qos b.packetId
    · obtain ⟨id, hcheck, -⟩ := check_of_admitted hid
      rw [hcheck, Fallible.ok_bind, require_of_not fun hp ↦ h ⟨ht, hid, hp⟩]
      exact ⟨_, rfl⟩
    · obtain ⟨e, he⟩ := check_of_not_admitted hid
      rw [he]
      exact ⟨_, rfl⟩
  · rw [require_of_not ht]
    exact ⟨_, rfl⟩

theorem build_of_acceptable {b : PublishBuilder w} (h : b.Acceptable) :
    ∃ f : VariableByteInteger → Publish w, (∀ r, (f r).remainingLength = r) ∧
      Publish.build b = do return f (← lengthOf b.contentSize) := by
  obtain ⟨id, hcheck, hsize⟩ := check_of_admitted h.id
  refine ⟨fun r ↦ ⟨b.fixedHeader.getD .default, r, b.topicName.getD .default, id, b.payload.getD []⟩,
    fun r ↦ rfl, ?_⟩
  rw [Publish.build, (Fallible.require_eq_ok (u := ⟨⟩)).mpr h.topic, Fallible.ok_bind, hcheck,
    Fallible.ok_bind, (Fallible.require_eq_ok (u := ⟨⟩)).mpr h.payload, Fallible.ok_bind,
    Publish.remainingSize, hsize]
  rfl

theorem buildsSoundly_iff (b : PublishBuilder w) :
    b.BuildsSoundly ↔ (b.Acceptable → b.contentSize ≤ 268435455) := by
  unfold BuildsSoundly
  by_cases h : b.Acceptable
  · obtain ⟨f, hf, hbuild⟩ := build_of_acceptable h
    rw [hbuild]
    constructor
    · intro hy _
      obtain ⟨r, -, hr⟩ := exists_of_yields hy
      exact hr.1
    · intro hfits
      obtain ⟨r, hr, hn⟩ := exists_lengthOf (hfits h)
      rw [hr]
      exact ⟨hfits h, (congrArg VariableByteInteger.toU32 (hf r)).trans hn⟩
  · obtain ⟨e, he⟩ := build_of_not_acceptable h
    rw [he]
    exact iff_of_true trivial fun ha ↦ (h ha).elim

end PublishBuilder

end V311

namespace V50

inductive PublishSetter (w : IdWidth) where
  | topicName (topic : Utf8String)
  | qos (qos : Qos)
  | dup (dup : Bool)
  | retain (retain : Bool)
  | packetId (id : PacketId w)
  | props (props : Properties)
  | payload (data : Bytes)

namespace PublishBuilder

def new : PublishBuilder w := ⟨none, none, none, none, none⟩

def set (b : PublishBuilder w) : PublishSetter w → Fallible MqttError (PublishBuilder w)
  | .topicName topic => do return { b with topicName := some (← topicNameOf topic) }
  | .qos qos => .ok { b with fixedHeader := setHeader b.fixedHeader ({ · with qos := qos }) }
  | .dup dup => .ok { b with fixedHeader := setHeader b.fixedHeader ({ · with dup := dup }) }
  | .retain retain =>
    .ok { b with fixedHeader := setHeader b.fixedHeader ({ · with retain := retain }) }
  | .packetId id => .ok { b with packetId := some id }
  | .props props => .ok { b with props := some props }
  | .payload data => .ok { b with payload := some data }

def setAll (setters : List (PublishSetter w)) : Fallible MqttError (PublishBuilder w) :=
  setters.foldlM set new

theorem yields_setAll (setters : List (PublishSetter w)) :
    (setAll setters).Yields fun _ ↦ True := by
  unfold setAll
  generalize (new : PublishBuilder w) = b
  induction setters generalizing b with
  | nil => trivial
  | cons setter setters ih =>
    rw [List.foldlM_cons]
    refine Fallible.Yields.bind (P := fun _ ↦ True) ?_ fun b _ ↦ ih b
    cases setter with
    | topicName topic => exact (yields_topicNameOf topic).bind fun _ _ ↦ trivial
    | _ => trivial

def contentSize (b : PublishBuilder w) : ℕ :=
  (b.topicName.getD .default).size + idSize b.packetId +
    VariableByteInteger.sizeOf (b.props.getD []).size + (b.props.getD []).size +
    (b.payload.getD []).length

structure Acceptable (b : PublishBuilder w) : Prop where
  props : Publish.validatePublishProperties (b.props.getD []) = .ok ()
  topic : ¬ (b.topicName.getD .default).isEmpty ∨ (topicAliasOf (b.props.getD [])).isSome
  id : IdAdmitted (b.fixedHeader.getD .default).qos b.packetId
  payload : (b.payload.getD []).length ≤ 268435455

def BuildsSoundly (b : PublishBuilder w) : Prop :=
  (Publish.build b).Yields fun p ↦ b.contentSize ≤ 268435455 ∧
    p.propertyLength.toU32 = (b.props.getD []).size ∧ p.remainingLength.toU32 = b.contentSize

theorem build_of_not_acceptable {b : PublishBuilder w} (h : ¬ b.Acceptable) :
    ∃ e, Publish.build b = .err e := by
  rw [Publish.build]
  obtain hv | hv := validateProperties_cases _ _ (b.props.getD [])
  · change Publish.validatePublishProperties _ = _ at hv
    rw [hv, Fallible.ok_bind]
    by_cases ht : ¬ (b.topicName.getD .default).isEmpty ∨ (topicAliasOf (b.props.getD [])).isSome
    · rw [(Fallible.require_eq_ok (u := ⟨⟩)).mpr ht, Fallible.ok_bind]
      by_cases hid : IdAdmitted (b.fixedHeader.getD .default).qos b.packetId
      · obtain ⟨id, hcheck, -⟩ := check_of_admitted hid
        rw [hcheck, Fallible.ok_bind, require_of_not fun hp ↦ h ⟨hv, ht, hid, hp⟩]
        exact ⟨_, rfl⟩
      · obtain ⟨e, he⟩ := check_of_not_admitted hid
        rw [he]
        exact ⟨_, rfl⟩
    · rw [require_of_not ht]
      exact ⟨_, rfl⟩
  · change Publish.validatePublishProperties _ = _ at hv
    rw [hv]
    exact ⟨_, rfl⟩

theorem build_of_acceptable {b : PublishBuilder w} (h : b.Acceptable) :
    ∃ f : VariableByteInteger → VariableByteInteger → Publish w,
      (∀ l r, (f l r).propertyLength = l ∧ (f l r).remainingLength = r) ∧
      Publish.build b = do
        let l ← lengthOf (b.props.getD []).size
        let r ← lengthOf ((b.topicName.getD .default).size + idSize b.packetId + l.size +
          (b.props.getD []).size + (b.payload.getD []).length)
        return f l r := by
  obtain ⟨id, hcheck, hsize⟩ := check_of_admitted h.id
  refine ⟨fun l r ↦ ⟨b.fixedHeader.getD .default, r, b.topicName.getD .default, id, l,
    b.props.getD [], b.payload.getD [], false⟩, fun l r ↦ ⟨rfl, rfl⟩, ?_⟩
  rw [Publish.build, h.props, Fallible.ok_bind, (Fallible.require_eq_ok (u := ⟨⟩)).mpr h.topic,
    Fallible.ok_bind, hcheck, Fallible.ok_bind, (Fallible.require_eq_ok (u := ⟨⟩)).mpr h.payload,
    Fallible.ok_bind]
  simp only [Publish.remainingSize, hsize]

theorem buildsSoundly_iff (b : PublishBuilder w) :
    b.BuildsSoundly ↔ (b.Acceptable → b.contentSize ≤ 268435455) := by
  unfold BuildsSoundly
  by_cases h : b.Acceptable
  · obtain ⟨f, hf, hbuild⟩ := build_of_acceptable h
    rw [hbuild]
    constructor
    · intro hy _
      obtain ⟨l, -, hl⟩ := exists_of_yields hy
      obtain ⟨r, -, hr⟩ := exists_of_yields hl
      exact hr.1
    · intro hfits
      have hmax := hfits h
      rw [contentSize] at hmax
      obtain ⟨l, hl, hn⟩ := exists_lengthOf (n := (b.props.getD []).size) (by
        rw [VariableByteInteger.max]
        omega)
      obtain ⟨r, hr, hm⟩ := exists_lengthOf (hfits h)
      have hsize : l.size = VariableByteInteger.sizeOf (b.props.getD []).size := by
        rw [VariableByteInteger.size_eq_sizeOf, hn]
      rw [hl, Fallible.ok_bind, hsize]
      rw [contentSize] at hr
      rw [hr]
      obtain ⟨hfl, hfr⟩ := hf l r
      exact ⟨hfits h, (congrArg VariableByteInteger.toU32 hfl).trans hn,
        (congrArg VariableByteInteger.toU32 hfr).trans hm⟩
  · obtain ⟨e, he⟩ := build_of_not_acceptable h
    rw [he]
    exact iff_of_true trivial fun ha ↦ (h ha).elim

end PublishBuilder

end V50

/-- A PUBLISH builder rejects what cannot be encoded, whichever setters were called, exactly when
the content fits or another check refuses it: the payload alone is held against the limit. -/
theorem publish_builds_soundly_iff (w : IdWidth) :
    (∀ setters : List (V311.PublishSetter w), (V311.PublishBuilder.setAll setters).Yields fun b ↦
        (b.BuildsSoundly ↔ (b.Acceptable → b.contentSize ≤ 268435455))) ∧
      ∀ setters : List (V50.PublishSetter w), (V50.PublishBuilder.setAll setters).Yields fun b ↦
        (b.BuildsSoundly ↔ (b.Acceptable → b.contentSize ≤ 268435455)) := by
  constructor
  · intro setters
    exact (V311.PublishBuilder.yields_setAll setters).mono fun b _ ↦ b.buildsSoundly_iff
  · intro setters
    exact (V50.PublishBuilder.yields_setAll setters).mono fun b _ ↦ b.buildsSoundly_iff

@[irreducible] def longestPayload : Bytes := List.replicate 268435455 0

theorem length_longestPayload : longestPayload.length = 268435455 := by
  rw [longestPayload, List.length_replicate]

theorem lengthOf_beyond {n : ℕ} (h : VariableByteInteger.max < n) (hn : n < 4294967296) :
    lengthOf n = .panic := by
  refine V50.lengthOf_of_not_fits ?_
  rw [V50.LengthFits, Nat.mod_eq_of_lt hn]
  omega

/-- With any topic the longest payload is beyond the limit, and the code panics. -/
theorem longest_payload_panics :
    (V311.PublishBuilder.setAll [.topicName ⟨[0x61], rfl⟩, .payload longestPayload] >>=
        V311.Publish.build : Fallible MqttError (V311.Publish .u16)) = .panic ∧
      (V50.PublishBuilder.setAll [.topicName ⟨[0x61], rfl⟩, .payload longestPayload] >>=
        V50.Publish.build : Fallible MqttError (V50.Publish .u16)) = .panic := by
  have hlen := length_longestPayload
  obtain ⟨topic, htopic, hsize, hne⟩ : ∃ topic : MqttString,
      topicNameOf ⟨[0x61], rfl⟩ = .ok topic ∧ topic.size = 3 ∧ ¬ topic.isEmpty :=
    ⟨_, rfl, rfl, by decide⟩
  have hid : IdAdmitted PublishHeader.default.qos (none : Option (PacketId .u16)) :=
    ⟨by decide, by decide⟩
  constructor
  · have hset : V311.PublishBuilder.setAll (w := .u16)
        [.topicName ⟨[0x61], rfl⟩, .payload longestPayload] =
        .ok ⟨none, some topic, none, some longestPayload⟩ := by
      simp [V311.PublishBuilder.setAll, V311.PublishBuilder.set, htopic, V311.PublishBuilder.new]
    obtain ⟨f, -, hbuild⟩ := V311.PublishBuilder.build_of_acceptable (w := .u16)
      (b := ⟨none, some topic, none, some longestPayload⟩) ⟨hne, hid, hlen.le⟩
    have hcontent : V311.PublishBuilder.contentSize (w := .u16)
        ⟨none, some topic, none, some longestPayload⟩ = 268435458 := by
      simp [V311.PublishBuilder.contentSize, hsize, hlen, idSize]
    rw [hset, Fallible.ok_bind, hbuild, hcontent, lengthOf_beyond (by decide) (by decide)]
    rfl
  · have hset : V50.PublishBuilder.setAll (w := .u16)
        [.topicName ⟨[0x61], rfl⟩, .payload longestPayload] =
        .ok ⟨none, some topic, none, none, some longestPayload⟩ := by
      simp [V50.PublishBuilder.setAll, V50.PublishBuilder.set, htopic, V50.PublishBuilder.new]
    obtain ⟨f, -, hbuild⟩ := V50.PublishBuilder.build_of_acceptable (w := .u16)
      (b := ⟨none, some topic, none, none, some longestPayload⟩) ⟨rfl, .inl hne, hid, hlen.le⟩
    obtain ⟨l, hl, hone⟩ : ∃ l, lengthOf (Properties.size []) = .ok l ∧ l.size = 1 :=
      ⟨_, rfl, rfl⟩
    rw [hset, Fallible.ok_bind, hbuild]
    dsimp only [Option.getD_none, Option.getD_some]
    rw [hl, Fallible.ok_bind, hone, hsize, hlen, lengthOf_beyond (by decide) (by decide)]
    rfl

end MqttProtocolCore.Packet
