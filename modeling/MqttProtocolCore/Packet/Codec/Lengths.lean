import MqttProtocolCore.Packet.Codec.ConnectRoundTrip
import MqttProtocolCore.Packet.Codec.Subscription
import MqttProtocolCore.Packet.Codec.V311

namespace MqttProtocolCore.Packet

open General

variable {w : IdWidth}

/-- A length that was computed, and that the cast to `u32` kept, can be encoded. -/
theorem le_max_of_lengthOf {n : ℕ} {v : VariableByteInteger} (h : lengthOf n = .ok v)
    (hn : n < 4294967296) : n ≤ VariableByteInteger.max := by
  rw [← (toU32_eq_iff_of_lengthOf h).mpr hn]
  exact v.toU32_le

theorem mod_le_max_of_lengthOf {n : ℕ} {v : VariableByteInteger} (h : lengthOf n = .ok v) :
    n % 4294967296 ≤ VariableByteInteger.max := by
  rw [← lengthOf_eq_ok.mp h]
  exact v.toU32_le

theorem willSize_le (will : Bool) (m : MqttString × MqttBinary) : willSize will m ≤ 131074 := by
  have := m.1.size_le
  have := m.2.size_le
  unfold willSize
  split <;> omega

theorem credentialSize_le (connectFlags : UInt8) (c : MqttString × MqttBinary) :
    credentialSize connectFlags c ≤ 131074 := by
  have := c.1.size_le
  have := c.2.size_le
  unfold credentialSize
  split <;> split <;> omega

namespace V50

section Rewriting

inductive Rewriting where
  | setDup (dup : Bool)
  | removeTopicAlias
  | removeTopicAliasAddTopic (topic : Utf8String)
  | removeTopicAddTopicAlias (topicAlias : U16)
  | addExtractedTopicName (topic : Utf8String)

namespace Publish

def rewrite (p : Publish w) : Rewriting → Fallible MqttError (Publish w)
  | .setDup dup => .ok (p.setDup dup)
  | .removeTopicAlias => p.removeTopicAlias
  | .removeTopicAliasAddTopic topic => p.removeTopicAliasAddTopic topic
  | .removeTopicAddTopicAlias topicAlias => p.removeTopicAddTopicAlias topicAlias
  | .addExtractedTopicName topic => p.addExtractedTopicName topic

def rewrites (p : Publish w) (rs : List Rewriting) : Fallible MqttError (Publish w) :=
  rs.foldlM rewrite p

def aliases (p : Publish w) : List Property := p.props.filter isTopicAlias

/-- The lengths of a PUBLISH are those computed for what it holds, and its properties are
`narrow`. -/
structure Measured (p : Publish w) (narrow : Prop) : Prop where
  propertyLength : lengthOf p.props.size = .ok p.propertyLength
  remainingLength : lengthOf (remainingSize p.topicName p.id p.propertyLength p.props p.payload) =
    .ok p.remainingLength
  payload : p.payload.length ≤ 268435455
  aliases : p.aliases.length ≤ 1
  narrow : p.props.size < 4294967296 ↔ narrow

/-- The lengths of such a PUBLISH agree exactly when its properties are not too long. -/
theorem Measured.lengthsAgree_iff {p : Publish w} {narrow : Prop} (h : p.Measured narrow) :
    LengthsAgree p ↔ narrow := by
  have htopic := p.topicName.size_le
  have hid := p.id.size_le
  have hl := p.propertyLength.size_le_four
  have hpayload := h.payload
  rw [p.laidOut.lengthsAgree_iff, p.length_bodyBytes, toU32_eq_iff_of_lengthOf h.remainingLength,
    ← h.narrow]
  unfold remainingSize
  constructor
  · intro hlt
    omega
  · intro hlt
    have hmax := le_max_of_lengthOf h.propertyLength hlt
    rw [VariableByteInteger.max] at hmax
    omega

theorem size_topicAlias {p : Property} (h : isTopicAlias p) : p.size = 3 := by
  cases p with
  | topicAlias => rfl
  | _ => cases h

theorem size_retainNonAlias (p : Publish w) :
    p.retainNonAlias.props.size + 3 * p.aliases.length = p.props.size := by
  change Properties.size (p.props.filter fun prop ↦ !isTopicAlias prop) +
    3 * (p.props.filter isTopicAlias).length = p.props.size
  induction p.props with
  | nil => rfl
  | cons prop props ih =>
    change Properties.size _ + _ = prop.size + Properties.size props
    cases ha : isTopicAlias prop with
    | true =>
      have hsize := size_topicAlias ha
      simp only [List.filter_cons, ha, Bool.not_true, Bool.false_eq_true, if_false, if_true,
        List.length_cons]
      omega
    | false =>
      simp only [List.filter_cons, ha, Bool.not_false, Bool.false_eq_true, if_false, if_true]
      change prop.size + Properties.size _ + _ = _
      omega

theorem aliases_retainNonAlias (p : Publish w) : p.retainNonAlias.aliases = [] := by
  apply List.filter_eq_nil_iff.mpr
  intro prop hprop
  have hkeep := (List.mem_filter.mp hprop).2
  simpa using hkeep

theorem recalculateLengths_measured {p p' q : Publish w} {narrow : Prop}
    (h : p.recalculateLengths = .ok p') (hq : q.Measured narrow)
    (hpayload : p.payload = q.payload) (haliases : p.aliases.length ≤ 1)
    (hle : p.props.size ≤ q.props.size + 3) (hge : q.props.size ≤ p.props.size + 3) :
    p'.Measured narrow := by
  obtain ⟨l, hl, h⟩ := Fallible.bind_eq_ok.mp h
  obtain ⟨r, hr, h⟩ := Fallible.bind_eq_ok.mp h
  cases h
  refine ⟨hl, hr, ?_, haliases, ?_⟩
  · change p.payload.length ≤ _
    rw [hpayload]
    exact hq.payload
  · -- lengths between what can be encoded and the wrap are not computed, so 3 bytes do not cross it
    change p.props.size < _ ↔ _
    have hp := mod_le_max_of_lengthOf hl
    have hq' := mod_le_max_of_lengthOf hq.propertyLength
    rw [VariableByteInteger.max] at hp hq'
    rw [← hq.narrow]
    omega

theorem exists_of_replaceTopic {p q : Publish w} {topic : Utf8String}
    (h : p.replaceTopic topic = .ok q) : ∃ t, q = { p with topicName := t } := by
  obtain ⟨⟨⟩, -, h⟩ := Fallible.bind_eq_ok.mp h
  obtain ⟨⟨⟩, -, h⟩ := Fallible.bind_eq_ok.mp h
  obtain ⟨t, -, h⟩ := Fallible.bind_eq_ok.mp h
  cases h
  exact ⟨t, rfl⟩

theorem Measured.retainNonAlias {p q p' : Publish w} {narrow : Prop} (h : p.Measured narrow)
    (hprops : q.props = p.props) (hpayload : q.payload = p.payload)
    (hr : q.retainNonAlias.recalculateLengths = .ok p') : p'.Measured narrow := by
  have hsize := q.size_retainNonAlias
  have haliases : q.aliases = p.aliases := congrArg (List.filter isTopicAlias) hprops
  have hle := h.aliases
  apply recalculateLengths_measured hr h hpayload
  · rw [aliases_retainNonAlias]
    exact Nat.zero_le _
  · rw [hprops] at hsize
    omega
  · rw [haliases, hprops] at hsize
    omega

theorem Measured.of_rewrite {p p' : Publish w} {narrow : Prop} (h : p.Measured narrow)
    {r : Rewriting} (hr : p.rewrite r = .ok p') : p'.Measured narrow := by
  cases r with
  | setDup dup =>
    cases hr
    exact ⟨h.propertyLength, h.remainingLength, h.payload, h.aliases, h.narrow⟩
  | removeTopicAlias => exact h.retainNonAlias rfl rfl hr
  | removeTopicAliasAddTopic topic =>
    obtain ⟨q, hq, hr⟩ := Fallible.bind_eq_ok.mp hr
    obtain ⟨t, rfl⟩ := exists_of_replaceTopic hq
    exact h.retainNonAlias (q := { p with topicName := t }) rfl rfl hr
  | removeTopicAddTopicAlias topicAlias =>
    by_cases ha : topicAlias ≠ 0
    · have hr : (p.aliased ⟨topicAlias, ha⟩).recalculateLengths = .ok p' := by
        rwa [rewrite, removeTopicAddTopicAlias, dif_pos ha] at hr
      have hsize := p.size_retainNonAlias
      have haliased := p.size_props_aliased ⟨topicAlias, ha⟩
      have hle := h.aliases
      apply recalculateLengths_measured hr h rfl
      · have hnone : (p.retainNonAlias.props.filter isTopicAlias) = [] := p.aliases_retainNonAlias
        change ((p.retainNonAlias.props ++ [_]).filter isTopicAlias).length ≤ 1
        rw [List.filter_append, hnone]
        exact List.length_filter_le _ _
      · omega
      · omega
    · rw [rewrite, removeTopicAddTopicAlias, dif_neg ha] at hr
      cases hr
  | addExtractedTopicName topic =>
    obtain ⟨q, hq, hr⟩ := Fallible.bind_eq_ok.mp hr
    obtain ⟨t, rfl⟩ := exists_of_replaceTopic hq
    apply recalculateLengths_measured hr h rfl h.aliases
    · exact Nat.le_add_right _ _
    · exact Nat.le_add_right _ _

theorem Measured.of_rewrites {rs : List Rewriting} : ∀ {p p' : Publish w} {narrow : Prop},
    p.Measured narrow → p.rewrites rs = .ok p' → p'.Measured narrow := by
  induction rs with
  | nil =>
    intro p p' narrow h hr
    cases hr
    exact h
  | cons r rs ih =>
    intro p p' narrow h hr
    rw [Publish.rewrites, List.foldlM_cons] at hr
    obtain ⟨q, hq, hr⟩ := Fallible.bind_eq_ok.mp hr
    exact ih (h.of_rewrite hq) hr

theorem aliases_of_validate {props : Properties} (h : validatePublishProperties props = .ok ()) :
    (props.filter isTopicAlias).length ≤ 1 := by
  unfold validatePublishProperties validateProperties at h
  split at h
  · rename_i hv
    have hcount := hv.2 .topicAlias (by decide)
    rw [List.count, List.countP_map] at hcount
    rw [← List.countP_eq_length_filter]
    apply le_trans (le_of_eq ?_) hcount
    apply List.countP_congr
    intro prop _
    simp [isTopicAlias]
  · cases h

theorem measured_of_build {b : PublishBuilder w} {p : Publish w} (h : build b = .ok p) :
    p.Measured ((b.props.getD []).size < 4294967296) := by
  obtain ⟨-, -, hps, -, -, -, hv, -, hlen, hl, hr⟩ := build_eq_ok.mp h
  refine ⟨hl, hr, hlen, aliases_of_validate hv, ?_⟩
  rw [hps]

end Publish

end Rewriting

section ShortForms

variable {C : Type} {validate : Properties → Fallible MqttError Unit}

theorem reasonSize_lt_iff {reasonCode : Option C} {props : Option Properties}
    {properties : Option (VariableByteInteger × Properties)} {n : ℕ} (hn : n ≤ 4)
    (h : buildProperties validate props = .ok properties) :
    n + reasonSize (reasonCode, properties) < 4294967296 ↔ ShortProps props := by
  obtain ⟨hmap, hs⟩ := buildProperties_eq_ok.mp h
  subst hmap
  have hcode : (if reasonCode.isSome then 1 else 0) ≤ 1 := by split <;> omega
  unfold reasonSize
  dsimp only
  cases properties with
  | none =>
    refine ⟨fun _ ↦ nofun, fun _ ↦ ?_⟩
    rw [Option.elim_none]
    omega
  | some s =>
    obtain ⟨-, hl⟩ := hs s rfl
    have hsize := s.1.size_le_four
    have hle := s.1.toU32_le
    rw [hl, VariableByteInteger.max] at hle
    rw [Option.elim_some]
    constructor
    · intro hlt ps hps
      cases hps
      omega
    · intro hshort
      have hlt := hshort s.2 rfl
      omega

theorem ShortForm.lengthsAgree_iff {P : Type} [GenericPacketTrait P] [EncodedCode C]
    {parse : Bytes → Fallible MqttError (P × ℕ)} {front : P → Bytes}
    {reason : P → Option C × Option (VariableByteInteger × Properties)}
    {remainingLength : P → VariableByteInteger} {extra : P → Prop}
    (h : ShortForm parse validate front reason remainingLength extra) {p : P}
    (hr : lengthOf ((front p).length + reasonSize (reason p)) = .ok (remainingLength p)) :
    LengthsAgree p ↔ (front p).length + reasonSize (reason p) < 4294967296 := by
  obtain ⟨header, hlaid⟩ := h.laidOut p
  rw [hlaid.lengthsAgree_iff, List.length_append, length_reasonBytes, toU32_eq_iff_of_lengthOf hr]

end ShortForms

end V50

def AgreesWhen {B P : Type} [GenericPacketTrait P] (build : B → Fallible MqttError P)
    (short : B → Prop) : Prop :=
  ∀ (b : B) (p : P), build b = .ok p → (LengthsAgree p ↔ short b)

namespace V50

theorem Ack.agreesWhen {C : Type} [AckCode C] :
    AgreesWhen (AckBuilder.build (w := w) (C := C)) fun b ↦ ShortProps b.2.2 := by
  intro b p h
  obtain ⟨id, reasonCode, props⟩ := b
  unfold AckBuilder.build Ack.build at h
  split at h
  · rename_i hid
    obtain ⟨⟨⟩, -, h⟩ := Fallible.bind_eq_ok.mp h
    obtain ⟨properties, hp, h⟩ := Fallible.bind_eq_ok.mp h
    obtain ⟨l, hl, h⟩ := Fallible.bind_eq_ok.mp h
    cases h
    have hw : w.bufferSize ≤ 4 := by cases w <;> decide
    have hfront : (PacketId.toBuffer id).length = w.bufferSize := PacketId.length_toBuffer id
    rw [← hfront] at hl hw
    rw [Ack.shortForm.lengthsAgree_iff (p := ⟨l, ⟨id, hid⟩, reasonCode, properties⟩) hl]
    exact reasonSize_lt_iff hw hp
  · cases h

theorem Disconnect.agreesWhen : AgreesWhen DisconnectBuilder.build fun b ↦ ShortProps b.2 := by
  intro b p h
  obtain ⟨⟨⟩, -, h⟩ := Fallible.bind_eq_ok.mp h
  obtain ⟨properties, hp, h⟩ := Fallible.bind_eq_ok.mp h
  obtain ⟨l, hl, h⟩ := Fallible.bind_eq_ok.mp h
  cases h
  rw [← Nat.zero_add (reasonSize _)] at hl
  apply (Disconnect.shortForm.lengthsAgree_iff (p := ⟨l, b.1, properties⟩) hl).trans
  exact reasonSize_lt_iff (Nat.zero_le 4) hp

theorem Auth.agreesWhen : AgreesWhen Auth.build fun b ↦ ShortProps b.props := by
  intro b p h
  obtain ⟨⟨⟩, -, h⟩ := Fallible.bind_eq_ok.mp h
  obtain ⟨⟨⟩, -, h⟩ := Fallible.bind_eq_ok.mp h
  obtain ⟨properties, hp, h⟩ := Fallible.bind_eq_ok.mp h
  obtain ⟨l, hl, h⟩ := Fallible.bind_eq_ok.mp h
  cases h
  rw [← Nat.zero_add (reasonSize _)] at hl
  apply (Auth.shortForm.lengthsAgree_iff (p := ⟨l, b.reasonCodeBuf, properties⟩) hl).trans
  exact reasonSize_lt_iff (Nat.zero_le 4) hp

theorem Connect.agreesWhen : AgreesWhen Connect.build fun b ↦
    (b.props.getD []).size < 4294967296 ∧
      (willFlag b.flags → (b.willProps.getD []).size < 4294967296) := by
  intro b p h
  obtain ⟨-, hb, hr⟩ := Connect.build_eq_ok.mp h
  have hclient := p.clientId.size_le
  have hwill := willSize_le (willFlag p.connectFlags) (p.willTopic, p.willPayload)
  have hcred := credentialSize_le p.connectFlags (p.userName, p.password)
  have hl := p.propertyLength.size_le_four
  have hwl := p.willPropertyLength.size_le_four
  dsimp only
  rw [Connect.framed.lengthsAgree_iff, toU32_eq_iff_of_lengthOf hr, Connect.length_bodyBytes,
    ← hb.props, ← hb.willProps, ← hb.connectFlags]
  unfold Connect.remainingSize
  dsimp only
  constructor
  · intro hlt
    refine ⟨by omega, fun hflag ↦ ?_⟩
    rw [if_pos hflag] at hlt
    omega
  · rintro ⟨hp, hwp⟩
    have hmax := le_max_of_lengthOf hb.propertyLength hp
    rw [VariableByteInteger.max] at hmax
    split
    · rename_i hflag
      have hwmax := le_max_of_lengthOf hb.willPropertyLength (hwp hflag)
      rw [VariableByteInteger.max] at hwmax
      omega
    · omega

abbrev ConnackBuilder := Bool × ConnectReasonCode × Properties

def ConnackBuilder.build (b : ConnackBuilder) : Fallible MqttError Connack :=
  Connack.build b.1 b.2.1 b.2.2

theorem Connack.agreesWhen :
    AgreesWhen ConnackBuilder.build fun b ↦ b.2.2.size < 4294967296 := by
  intro b p h
  obtain ⟨⟨⟩, -, h⟩ := Fallible.bind_eq_ok.mp h
  obtain ⟨l, hl, h⟩ := Fallible.bind_eq_ok.mp h
  obtain ⟨r, hr, h⟩ := Fallible.bind_eq_ok.mp h
  cases h
  have hsize := l.size_le_four
  rw [Connack.framed.lengthsAgree_iff, Connack.bodyBytes, List.length_append, length_sectionBytes]
  have hlen : [if b.1 then (1 : UInt8) else 0, b.2.1.toU8].length + (l.size + b.2.2.size) =
      1 + 1 + l.size + b.2.2.size := by
    rw [List.length_cons, List.length_singleton, Nat.add_assoc (1 + 1)]
  change r.toU32 = [if b.1 then (1 : UInt8) else 0, b.2.1.toU8].length + (l.size + b.2.2.size) ↔ _
  rw [hlen, toU32_eq_iff_of_lengthOf hr]
  constructor
  · intro hlt
    omega
  · intro hlt
    have hmax := le_max_of_lengthOf hl hlt
    rw [VariableByteInteger.max] at hmax
    omega

def ListingBuilder.encodedSize {α : Type} [PropsEntry α] (b : ListingBuilder w α) : ℕ :=
  w.bufferSize + VariableByteInteger.sizeOf ((b.props.getD []).size % 4294967296) +
    (b.props.getD []).size + entriesSize ListingEntry.size (b.entries.getD [])

theorem Listing.agreesWhen {α : Type} [PropsEntry α] :
    AgreesWhen (Listing.build (w := w) (α := α)) fun b ↦ b.encodedSize < 4294967296 := by
  intro b p h
  obtain ⟨-, -, hes, -, hps, -, hl, hr⟩ := Listing.build_eq_ok.mp h
  rw [Listing.framed.lengthsAgree_iff, toU32_eq_iff_of_lengthOf hr, Listing.length_bodyBytes,
    Listing.remainingSize, VariableByteInteger.size_eq_sizeOf, lengthOf_eq_ok.mp hl, hps, hes]
  rfl

end V50

namespace V311

theorem Connect.agreesWhen : AgreesWhen Connect.build fun _ ↦ True := by
  intro b p h
  obtain ⟨-, -, hr⟩ := Connect.build_eq_ok.mp h
  have hclient := p.clientId.size_le
  have hwill := willSize_le (willFlag p.connectFlags) (p.willTopic, p.willPayload)
  have hcred := credentialSize_le p.connectFlags (p.userName, p.password)
  rw [Connect.framed.lengthsAgree_iff, toU32_eq_iff_of_lengthOf hr, Connect.length_bodyBytes]
  unfold Connect.remainingSize
  exact iff_true_intro (by omega)

theorem Publish.agreesWhen : AgreesWhen (Publish.build (w := w)) fun _ ↦ True := by
  intro b p h
  obtain ⟨-, -, -, -, -, hpayload, hr⟩ := Publish.build_eq_ok.mp h
  have htopic := p.topicName.size_le
  have hid := p.id.size_le
  rw [p.laidOut.lengthsAgree_iff, p.length_bodyBytes, toU32_eq_iff_of_lengthOf hr]
  unfold Publish.remainingSize
  exact iff_true_intro (by omega)

theorem Publish.lengthsAgree_setDup {p : Publish w} (dup : Bool) :
    LengthsAgree (p.setDup dup) ↔ LengthsAgree p := by
  rw [(p.setDup dup).laidOut.lengthsAgree_iff, p.laidOut.lengthsAgree_iff]
  exact Iff.rfl

theorem Listing.agreesWhen {α : Type} [ListingEntry α] :
    AgreesWhen (Listing.build (w := w) (α := α)) fun b ↦
      w.bufferSize + entriesSize ListingEntry.size (b.entries.getD []) < 4294967296 := by
  intro b p h
  obtain ⟨-, -, hes, -, hr⟩ := Listing.build_eq_ok.mp h
  rw [p.laidOut.lengthsAgree_iff, toU32_eq_iff_of_lengthOf hr, Listing.length_bodyBytes, hes]

end V311

/-- The lengths of what is built agree exactly when nothing that was counted wrapped. -/
theorem lengths_agree (w : IdWidth) :
    AgreesWhen V50.Connect.build (fun b ↦ (b.props.getD []).size < 4294967296 ∧
      (willFlag b.flags → (b.willProps.getD []).size < 4294967296)) ∧
    AgreesWhen V50.ConnackBuilder.build (fun b ↦ b.2.2.size < 4294967296) ∧
    (∀ (b : V50.PublishBuilder w) (p p' : V50.Publish w) (rs : List V50.Rewriting),
      V50.Publish.build b = .ok p → p.rewrites rs = .ok p' →
        (LengthsAgree p' ↔ (b.props.getD []).size < 4294967296)) ∧
    AgreesWhen (V50.AckBuilder.build (w := w) (C := PubackReasonCode))
      (fun b ↦ V50.ShortProps b.2.2) ∧
    AgreesWhen (V50.Listing.build (w := w) (α := SubEntry)) (fun b ↦ b.encodedSize < 4294967296) ∧
    AgreesWhen (V50.Listing.build (w := w) (α := SubackReasonCode))
      (fun b ↦ b.encodedSize < 4294967296) ∧
    AgreesWhen (V50.Listing.build (w := w) (α := MqttString))
      (fun b ↦ b.encodedSize < 4294967296) ∧
    AgreesWhen (V50.Listing.build (w := w) (α := UnsubackReasonCode))
      (fun b ↦ b.encodedSize < 4294967296) ∧
    AgreesWhen V50.DisconnectBuilder.build (fun b ↦ V50.ShortProps b.2) ∧
    AgreesWhen V50.Auth.build (fun b ↦ V50.ShortProps b.props) ∧
    AgreesWhen V311.Connect.build (fun _ ↦ True) ∧
    AgreesWhen (V311.Publish.build (w := w)) (fun _ ↦ True) ∧
    (∀ (b : V311.PublishBuilder w) (p : V311.Publish w) (dup : Bool),
      V311.Publish.build b = .ok p → LengthsAgree (p.setDup dup)) ∧
    AgreesWhen (V311.Listing.build (w := w) (α := SubEntry)) (fun b ↦
      w.bufferSize + entriesSize ListingEntry.size (b.entries.getD []) < 4294967296) := by
  refine ⟨V50.Connect.agreesWhen, V50.Connack.agreesWhen, ?_, V50.Ack.agreesWhen,
    V50.Listing.agreesWhen, V50.Listing.agreesWhen, V50.Listing.agreesWhen,
    V50.Listing.agreesWhen, V50.Disconnect.agreesWhen, V50.Auth.agreesWhen,
    V311.Connect.agreesWhen, V311.Publish.agreesWhen, ?_, V311.Listing.agreesWhen⟩
  · intro b p p' rs h hr
    exact ((V50.Publish.measured_of_build h).of_rewrites hr).lengthsAgree_iff
  · intro b p dup h
    exact (V311.Publish.lengthsAgree_setDup dup).mpr ((V311.Publish.agreesWhen b p h).mpr trivial)

theorem lengths_agree_aliased : ∃ p p' : V50.Publish .u16,
    V50.Publish.build ⟨none, some (.replicate 1 one_le_maxLength), none, none, none⟩ = .ok p ∧
      p.rewrites [.removeTopicAddTopicAlias 1] = .ok p' ∧ LengthsAgree p' := by
  obtain ⟨p, hp⟩ : ∃ p : V50.Publish .u16,
      V50.Publish.build ⟨none, some (.replicate 1 one_le_maxLength), none, none, none⟩ = .ok p :=
    ⟨_, rfl⟩
  obtain ⟨p', hp'⟩ : ∃ p', p.rewrites [.removeTopicAddTopicAlias 1] = .ok p' := by
    cases hp
    exact ⟨_, rfl⟩
  exact ⟨p, p', hp, hp', ((lengths_agree .u16).2.2.1 _ p p' _ hp hp').mpr (by decide)⟩

/-- A PUBACK whose properties take 4294967296 bytes is built with a remaining length of 4. -/
theorem wide_puback_lengths_differ : ∃ p : V50.Puback .u16,
    V50.Ack.build 1 (some .success) (some wideProps) = .ok p ∧ ¬ LengthsAgree p := by
  obtain ⟨p, hp⟩ := V50.exists_wide_puback
  have hshort := V50.Ack.agreesWhen (1, some PubackReasonCode.success, some wideProps) p hp
  exact ⟨p, hp, fun h ↦ V50.wideProps_not_short (hshort.mp h)⟩

end MqttProtocolCore.Packet
