import MqttProtocolCore.Connection.ClientRun
import MqttProtocolCore.Connection.PublishSpec
import MqttProtocolCore.Packet.Codec.Lengths

namespace MqttProtocolCore.Connection.GenericConnection

open General Packet

variable {w : IdWidth} {c c' : GenericConnection w} {p q stored : V50.Publish w}

def boundTopic (c : GenericConnection w) (a : U16) : Option Utf8String :=
  c.topicAliasSend.bind fun s ↦ s.peek a

def aliasTopic (c : GenericConnection w) (p : V50.Publish w) : Option Utf8String :=
  (V50.topicAliasOf p.props).bind fun a ↦ c.boundTopic a

theorem validateTopicAlias_fst (ta : Option (NonZero 65535)) :
    (c.validateTopicAlias ta).1 = ta.bind fun a ↦ c.boundTopic a := by
  unfold validateTopicAlias boundTopic
  cases ta with
  | none => rfl
  | some a =>
    cases hs : c.topicAliasSend with
    | none => rfl
    | some s =>
      simp only [validateTopicAliasRange, hs, Option.bind_some, decide_eq_true_eq]
      split
      · exact TopicAliasSend.get_fst
      · rename_i hrange
        symm
        by_contra hne
        obtain ⟨topic, ht⟩ := Option.ne_none_iff_exists'.mp hne
        exact hrange ⟨a.property, (TopicAliasSend.inRange_of_peek ht).2⟩

/-- Reading an alias changes when it was used last, not what it stands for. -/
theorem boundTopic_validateTopicAlias (ta : Option (NonZero 65535)) (b : U16) :
    (c.validateTopicAlias ta).2.boundTopic b = c.boundTopic b := by
  unfold validateTopicAlias
  split
  · rename_i a s hs
    split
    · simp only [boundTopic, hs, Option.bind_some]
      exact TopicAliasSend.get_snd.2
    · rfl
  · rfl

theorem boundTopic_nonempty {a : U16} {topic : Utf8String} (h : c.boundTopic a = some topic) :
    ¬ topic.isEmpty := by
  obtain ⟨s, -, hs⟩ := Option.bind_eq_some_iff.mp h
  exact s.nonempty a topic (TopicAliasSend.peek_eq ▸ hs)

theorem regulateForStore_eq : c.regulateForStore p = if p.topicName.isEmpty then
    match c.aliasTopic p with
    | some topic => p.removeTopicAliasAddTopic topic
    | none => .err .packetNotRegulated
  else p.removeTopicAlias := by
  unfold regulateForStore aliasTopic boundTopic
  cases V50.topicAliasOf p.props with
  | none => rfl
  | some a =>
    cases c.topicAliasSend with
    | none => rfl
    | some s => rfl

theorem exists_ret_stored {x : Fallible MqttError (V50.Publish w)} :
    (∃ c', (do
      let stored ← x.unwrap
      return (some (stored.setDup true), c) : Outcome _) = .ret (some stored, c')) ↔
      ∃ q, x = .ok q ∧ stored = q.setDup true := by
  cases x with
  | ok q => simp [eq_comm]
  | err e => simp
  | panic => simp [Fallible.unwrap]

/-- The handler stores what `regulate_for_store` returns, with the DUP flag set. -/
theorem storablePublish_iff : (∃ c', c.storablePublish p = .ret (some stored, c')) ↔
    ∃ q, c.regulateForStore p = .ok q ∧ stored = q.setDup true := by
  rw [regulateForStore_eq]
  unfold storablePublish
  by_cases ht : p.topicName.isEmpty
  · rw [if_pos ht, if_pos ht]
    have hfst := validateTopicAlias_fst (c := c) (V50.topicAliasOf p.props)
    cases hval : c.validateTopicAlias (V50.topicAliasOf p.props) with
    | mk topic c₁ =>
      rw [hval] at hfst
      rw [show c.aliasTopic p = topic from hfst.symm]
      cases topic with
      | none => simp
      | some topic => exact exists_ret_stored
  · rw [if_neg ht, if_neg ht]
    exact exists_ret_stored

/-- A PUBLISH as it is stored: it names the topic that was meant, carries no topic alias, and is
otherwise the PUBLISH that was given. -/
structure Regulated (c : GenericConnection w) (p q : V50.Publish w) : Prop where
  topic : ¬ q.topicName.isEmpty
  meant : if p.topicName.isEmpty then c.aliasTopic p = some q.topicName.asStr
    else q.topicName = p.topicName
  props : q.props = p.props.filter fun prop ↦ !V50.isTopicAlias prop
  rest : q = { p with
    topicName := q.topicName
    props := q.props
    propertyLength := q.propertyLength
    remainingLength := q.remainingLength }

theorem topicAliasOf_filter (props : Properties) :
    V50.topicAliasOf (props.filter fun prop ↦ !V50.isTopicAlias prop) = none := by
  induction props with
  | nil => rfl
  | cons prop props ih =>
    cases prop with
    | topicAlias => exact ih
    | _ => exact ih

theorem Regulated.noAlias (h : c.Regulated p q) : V50.topicAliasOf q.props = none := by
  rw [h.props]
  exact topicAliasOf_filter p.props

theorem regulated (h : c.regulateForStore p = .ok q) : c.Regulated p q := by
  rw [regulateForStore_eq] at h
  by_cases ht : p.topicName.isEmpty
  · rw [if_pos ht] at h
    cases halias : c.aliasTopic p with
    | none =>
      rw [halias] at h
      cases h
    | some topic =>
      rw [halias] at h
      obtain ⟨-, t, rfl, hq⟩ :=
        (V50.Publish.removeTopicAliasAddTopic_spec ht topic).of_ret (Fallible.unwrap_eq_ret.mpr h)
      obtain ⟨a, -, ha⟩ := Option.bind_eq_some_iff.mp halias
      rw [hq]
      refine ⟨boundTopic_nonempty ha, ?_, rfl, rfl⟩
      rw [if_pos ht]
      exact halias
  · rw [if_neg ht] at h
    obtain ⟨-, hq⟩ := p.removeTopicAlias_spec.of_ret (Fallible.unwrap_eq_ret.mpr h)
    rw [hq]
    refine ⟨ht, ?_, rfl, rfl⟩
    rw [if_neg ht]
    rfl

theorem recalculateLengths_idem (h : p.recalculateLengths = .ok q) :
    q.recalculateLengths = .ok q := by
  obtain ⟨l, hl, h⟩ := Fallible.bind_eq_ok.mp h
  obtain ⟨r, hr, h⟩ := Fallible.bind_eq_ok.mp h
  cases h
  exact Fallible.bind_eq_ok.mpr ⟨l, hl, Fallible.bind_eq_ok.mpr ⟨r, hr, rfl⟩⟩

theorem recalculated (h : c.regulateForStore p = .ok q) :
    ∃ p' : V50.Publish w, p'.recalculateLengths = .ok q := by
  rw [regulateForStore_eq] at h
  split at h
  · split at h
    · obtain ⟨p', -, h⟩ := Fallible.bind_eq_ok.mp h
      exact ⟨_, h⟩
    · cases h
  · exact ⟨_, h⟩

theorem regulateForStore_idem (h : c.regulateForStore p = .ok q) : c.regulateForStore q = .ok q := by
  have hform := regulated h
  obtain ⟨p', hp'⟩ := recalculated h
  have hkeep : q.retainNonAlias = q := by
    have hprops : (q.props.filter fun prop ↦ !V50.isTopicAlias prop) = q.props := by
      rw [hform.props, List.filter_filter]
      simp only [Bool.and_self]
    unfold V50.Publish.retainNonAlias
    rw [hprops]
  rw [regulateForStore_eq, if_neg hform.topic, V50.Publish.removeTopicAlias, hkeep]
  exact recalculateLengths_idem hp'

/-- Both lengths of a PUBLISH are those of what it is written as. -/
def ConsistentLengths (p : V50.Publish w) : Prop :=
  LengthsAgree p ∧ p.propertyLength.toU32 = p.props.size

theorem consistentLengths_iff {narrow : Prop} (h : p.Measured narrow) :
    ConsistentLengths p ↔ narrow := by
  unfold ConsistentLengths
  rw [h.lengthsAgree_iff, toU32_eq_iff_of_lengthOf h.propertyLength, h.narrow, and_self]

theorem Measured.regulated {narrow : Prop} (h : p.Measured narrow)
    (hq : c.regulateForStore p = .ok q) : q.Measured narrow := by
  rw [regulateForStore_eq] at hq
  split at hq
  · split at hq
    · exact h.of_rewrite (r := .removeTopicAliasAddTopic _) hq
    · cases hq
  · exact h.of_rewrite (r := .removeTopicAlias) hq

/-- The two ways to prepare a PUBLISH for the store agree, and leave what the aliases stand for. -/
structure SameForm (c : GenericConnection w) (p : V50.Publish w) : Prop where
  succeeds : (∃ q, c.regulateForStore p = .ok q) ↔
    ∃ stored c', c.storablePublish p = .ret (some stored, c')
  same : ∀ q stored c', c.regulateForStore p = .ok q →
    c.storablePublish p = .ret (some stored, c') → stored = q.setDup true
  form : ∀ q, c.regulateForStore p = .ok q → c.Regulated p q ∧ V50.topicAliasOf q.props = none
  again : ∀ q, c.regulateForStore p = .ok q → c.regulateForStore q = .ok q
  bindings : ∀ r, c.storablePublish p = .ret r → ∀ a, r.2.boundTopic a = c.boundTopic a

theorem boundTopic_storablePublish {r : Option (V50.Publish w) × GenericConnection w}
    (h : c.storablePublish p = .ret r) (a : U16) : r.2.boundTopic a = c.boundTopic a := by
  unfold storablePublish at h
  by_cases ht : p.topicName.isEmpty
  · rw [if_pos ht] at h
    have hbound := boundTopic_validateTopicAlias (c := c) (V50.topicAliasOf p.props) a
    cases hval : c.validateTopicAlias (V50.topicAliasOf p.props) with
    | mk topic c₁ =>
      rw [hval] at h hbound
      cases topic with
      | none =>
        obtain rfl := Outcome.ret.inj h
        exact hbound
      | some topic =>
        obtain ⟨stored, -, h⟩ := Outcome.bind_eq_ret.mp h
        obtain rfl := Outcome.ret.inj h
        exact hbound
  · rw [if_neg ht] at h
    obtain ⟨stored, -, h⟩ := Outcome.bind_eq_ret.mp h
    obtain rfl := Outcome.ret.inj h
    rfl

theorem sameForm (c : GenericConnection w) (p : V50.Publish w) : c.SameForm p where
  succeeds := by
    constructor
    · rintro ⟨q, hq⟩
      obtain ⟨c', hc'⟩ := storablePublish_iff.mpr ⟨q, hq, rfl⟩
      exact ⟨_, c', hc'⟩
    · rintro ⟨stored, c', hc'⟩
      obtain ⟨q, hq, -⟩ := storablePublish_iff.mp ⟨c', hc'⟩
      exact ⟨q, hq⟩
  same := by
    intro q stored c' hq hc'
    obtain ⟨q', hq', rfl⟩ := storablePublish_iff.mp ⟨c', hc'⟩
    obtain rfl := Fallible.ok.inj (hq.symm.trans hq')
    rfl
  form := fun q hq ↦ ⟨regulated hq, (regulated hq).noAlias⟩
  again := fun q hq ↦ regulateForStore_idem hq
  bindings := fun r hr a ↦ boundTopic_storablePublish hr a

/-- Both ways to prepare a PUBLISH agree, and the lengths of the result are right exactly when the
properties it was built with are not too long to count. -/
theorem forms_agree (c : GenericConnection w) {b : V50.PublishBuilder w} {p : V50.Publish w}
    (hb : V50.Publish.build b = .ok p) : c.SameForm p ∧ ∀ q, c.regulateForStore p = .ok q →
      (ConsistentLengths q ↔ (b.props.getD []).size < 4294967296) := by
  refine ⟨c.sameForm p, fun q hq ↦ ?_⟩
  exact consistentLengths_iff (Measured.regulated (V50.Publish.measured_of_build hb) hq)

/-- A PUBLISH with a topic and an alias, and one whose empty topic stands for what the alias is bound
to. -/
theorem forms_agree_aliased :
    (∃ p q : V50.Publish .u16,
      V50.Publish.build ⟨some ⟨false, .atLeastOnce, false⟩, some (.replicate 1 one_le_maxLength), some 1,
        some [.topicAlias ⟨1, U16.isNonZero_one⟩], none⟩ = .ok p ∧
      (new .client .u16 .v50).regulateForStore p = .ok q ∧ ConsistentLengths q) ∧
    ∃ (c : GenericConnection .u16) (p q : V50.Publish .u16), Reachable (system .u16) c ∧
      p.topicName.isEmpty ∧ ¬ q.topicName.isEmpty ∧ c.regulateForStore p = .ok q ∧
      ConsistentLengths q := by
  constructor
  · obtain ⟨p, hp⟩ : ∃ p : V50.Publish .u16, V50.Publish.build ⟨some ⟨false, .atLeastOnce, false⟩,
        some (.replicate 1 one_le_maxLength), some 1, some [.topicAlias ⟨1, U16.isNonZero_one⟩],
        none⟩ = .ok p := ⟨_, rfl⟩
    obtain ⟨q, hq⟩ : ∃ q, (new .client .u16 .v50).regulateForStore p = .ok q := by
      cases hp
      exact ⟨_, rfl⟩
    exact ⟨p, q, hp, hq, ((forms_agree _ hp).2 q hq).mpr (by decide)⟩
  · obtain ⟨binding, _, ⟨_, c⟩, hrun, p, hp, hempty, q, hq, hname⟩ :
        (V50.Publish.parse (w := .u16) 0 [0, 1, 0x61, 3, 0x23, 0, 1]).unwrap.Attains fun binding ↦
        (clientRun .v50 2 0 [0] []
          [.recv [0x20, 6, 0, 0, 3, 0x22, 0, 10], .send (.v50Publish binding.1)]).Attains fun r ↦
        (V50.Publish.build (w := .u16) ⟨some ⟨false, .atLeastOnce, false⟩, none, some 1,
          some [.topicAlias ⟨1, U16.isNonZero_one⟩], none⟩).unwrap.Attains fun p ↦
        p.topicName.isEmpty ∧ (r.2.regulateForStore p).unwrap.Attains fun q ↦
          ¬ q.topicName.isEmpty := by
      decide +kernel
    have hreach := (run_of_clientRun hrun).reachable
    rw [Fallible.unwrap_eq_ret] at hp hq
    exact ⟨c, p, q, hreach, hempty, hname, hq, ((forms_agree c hp).2 q hq).mpr (by decide)⟩

theorem not_isTopicAlias_wideProps : ∀ prop ∈ wideProps, ¬ V50.isTopicAlias prop := by
  intro prop hprop
  unfold wideProps at hprop
  rw [List.eq_of_mem_replicate hprop]
  simp [V50.isTopicAlias, Property.id]

/-- A PUBLISH with properties of 4294967296 bytes is stored with wrong lengths. -/
theorem wide_publish_inconsistent : ¬ ∀ (c : GenericConnection .u16) b p q,
    V50.Publish.build b = .ok p → p.qos = .atLeastOnce → c.regulateForStore p = .ok q →
      ConsistentLengths q := by
  intro h
  have hfits : V50.LengthFits (6 + 4294967296) := by
    rw [V50.LengthFits, VariableByteInteger.max]
    omega
  obtain ⟨r, hr, -⟩ := V50.lengthOf_of_fits hfits
  have hl : lengthOf wideProps.size = .ok .zero := by
    rw [size_wideProps]
    exact lengthOf_eq_ok.mpr rfl
  have hne : ¬ (MqttString.replicate 1 one_le_maxLength).isEmpty := by decide
  let p : V50.Publish .u16 := ⟨⟨false, .atLeastOnce, false⟩, r, .replicate 1 one_le_maxLength,
    ⟨some 1, by decide⟩, .zero, wideProps, [], false⟩
  have hlengths : lengthOf (V50.Publish.remainingSize p.topicName p.id p.propertyLength p.props
      p.payload) = .ok p.remainingLength := by
    have hsize : V50.Publish.remainingSize p.topicName p.id p.propertyLength p.props p.payload =
        6 + wideProps.size := by
      have htopic : p.topicName.size = 3 := MqttString.size_replicate 1 one_le_maxLength
      have hid : p.id.size = 2 := rfl
      have hzero : p.propertyLength.size = 1 := rfl
      have hpayload : p.payload.length = 0 := rfl
      have hprops : p.props = wideProps := rfl
      rw [V50.Publish.remainingSize, htopic, hid, hzero, hpayload, hprops]
      omega
    rw [hsize, size_wideProps]
    exact hr
  have hbuild : V50.Publish.build ⟨some ⟨false, .atLeastOnce, false⟩,
      some (.replicate 1 one_le_maxLength), some 1, some wideProps, none⟩ = .ok p :=
    V50.Publish.build_eq_ok.mpr ⟨rfl, rfl, rfl, rfl, rfl, rfl,
      validateProperties_wideProps (by decide) (by decide), .inl hne, Nat.zero_le _, hl,
      hlengths⟩
  have hkeep : p.retainNonAlias = p := by
    have hprops : (wideProps.filter fun prop ↦ !V50.isTopicAlias prop) = wideProps :=
      List.filter_eq_self.mpr fun prop hprop ↦ by simp [not_isTopicAlias_wideProps prop hprop]
    unfold V50.Publish.retainNonAlias
    rw [show p.props = wideProps from rfl, hprops]
  have hstore : (new .client .u16 .v50).regulateForStore p = .ok p := by
    rw [regulateForStore_eq, if_neg hne, V50.Publish.removeTopicAlias, hkeep]
    exact Fallible.bind_eq_ok.mpr ⟨_, hl, Fallible.bind_eq_ok.mpr ⟨_, hlengths, rfl⟩⟩
  have hmeasured := Measured.regulated (V50.Publish.measured_of_build hbuild) hstore
  have hlt := (consistentLengths_iff hmeasured).mp (h _ _ p p hbuild rfl hstore)
  rw [Option.getD_some, size_wideProps] at hlt
  exact Nat.lt_irrefl _ hlt

end MqttProtocolCore.Connection.GenericConnection
