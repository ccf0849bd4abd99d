import MqttProtocolCore.Connection.Wire
import MqttProtocolCore.Packet.Codec.AliasRewriting

namespace MqttProtocolCore.Connection

open General Packet

variable {w : IdWidth}

structure Writable (p : V50.Publish w) : Prop where
  valid : V50.Publish.validatePublishProperties p.props = .ok ()
  plain : p.topicNameExtracted = false
  measured : p.Measured True

theorem Writable.of_lengthsAgree {p : V50.Publish w} (hl : LengthsAgree p)
    (h : RoundTrips (V50.Publish.parse (frameFlags p.toContinuousBuffer)) p) : Writable p := by
  obtain ⟨hv, hlen, he, hr⟩ := p.roundTrips_iff.mp h
  have hbody := p.laidOut.lengthsAgree_iff.mp hl
  have hmax := p.remainingLength.toU32_le
  rw [hbody, p.length_bodyBytes, VariableByteInteger.max, V50.Publish.remainingSize] at hmax
  refine ⟨hv, he, lengthOf_of_toU32 hlen, hr, by omega, V50.Publish.aliases_of_validate hv, ?_⟩
  exact iff_true_intro (by omega)

theorem wired_v50Publish_iff {p : V50.Publish w} :
    Wired (.v50Publish p : GenericPacket w) ↔ Writable p := by
  have hlaid := p.laidOut
  rw [wired_iff (f := .v50Publish) (g := V50.Publish.parse (frameFlags p.toContinuousBuffer)) hlaid
    (hlaid.lift rfl rfl rfl) (by simp) (readFrame_v50Publish p)]
  constructor
  · rintro ⟨hl, n, hn⟩
    exact .of_lengthsAgree hl (V50.Publish.roundTrips_of_parse hn)
  · intro h
    have hsize := h.measured.narrow.mpr trivial
    have hlen := (toU32_eq_iff_of_lengthOf h.measured.propertyLength).mpr hsize
    refine ⟨h.measured.lengthsAgree_iff.mpr trivial, _, hlaid.roundTrips_iff.mp ?_⟩
    exact p.roundTrips_iff.mpr ⟨h.valid, hlen, h.plain, h.measured.remainingLength⟩

theorem validate_filter {props : Properties} (keep : Property → Bool)
    (h : V50.Publish.validatePublishProperties props = .ok ()) :
    V50.Publish.validatePublishProperties (props.filter keep) = .ok () := by
  unfold V50.Publish.validatePublishProperties validateProperties at h ⊢
  split at h
  · rename_i hvalid
    refine if_pos ⟨?_, ?_⟩
    · intro prop hprop
      exact hvalid.1 prop (List.mem_filter.mp hprop).1
    · intro id hid
      have hsub : ((props.filter keep).map Property.id).Sublist (props.map Property.id) :=
        List.filter_sublist.map _
      exact le_trans (hsub.count_le id) (hvalid.2 id hid)
  · cases h

/-- What a rewriting leaves of the properties, and that it does not resolve a topic. -/
theorem kept_of_recalculateLengths {p p' : V50.Publish w} (h : p.recalculateLengths = .ok p') :
    p'.props = p.props ∧ p'.topicNameExtracted = p.topicNameExtracted := by
  obtain ⟨l, -, h⟩ := Fallible.bind_eq_ok.mp h
  obtain ⟨r, -, h⟩ := Fallible.bind_eq_ok.mp h
  cases h
  exact ⟨rfl, rfl⟩

variable {p q : V50.Publish w}

theorem Writable.setDup (h : Writable p) (dup : Bool) : Writable (p.setDup dup) :=
  ⟨h.valid, h.plain, h.measured.of_rewrite (r := .setDup dup) rfl⟩

theorem Writable.removeTopicAlias (h : Writable p) (hr : p.removeTopicAlias = .ok q) : Writable q := by
  obtain ⟨hp, he⟩ := kept_of_recalculateLengths hr
  refine ⟨?_, he.trans h.plain, h.measured.of_rewrite (r := .removeTopicAlias) hr⟩
  rw [hp]
  exact validate_filter _ h.valid

theorem Writable.removeTopicAliasAddTopic {topic : Utf8String} (h : Writable p)
    (hr : p.removeTopicAliasAddTopic topic = .ok q) : Writable q := by
  obtain ⟨q', ht, hrest⟩ := Fallible.bind_eq_ok.mp hr
  obtain ⟨t, rfl⟩ := V50.Publish.exists_of_replaceTopic ht
  obtain ⟨hp, he⟩ := kept_of_recalculateLengths hrest
  refine ⟨?_, he.trans h.plain, h.measured.of_rewrite (r := .removeTopicAliasAddTopic topic) hr⟩
  rw [hp]
  exact validate_filter _ h.valid

theorem topicAliasOf_retainNonAlias (props : Properties) :
    V50.topicAliasOf (props.filter fun prop ↦ !V50.isTopicAlias prop) = none := by
  induction props with
  | nil => rfl
  | cons prop props ih =>
    cases prop with
    | topicAlias ta => exact ih
    | _ => exact ih

theorem Writable.removeTopicAddTopicAlias {topicAlias : U16} (h : Writable p)
    (hr : p.removeTopicAddTopicAlias topicAlias = .ok q) : Writable q := by
  have hm := h.measured.of_rewrite (r := .removeTopicAddTopicAlias topicAlias) hr
  unfold V50.Publish.removeTopicAddTopicAlias at hr
  split at hr
  · obtain ⟨hp, he⟩ := kept_of_recalculateLengths hr
    refine ⟨?_, he.trans h.plain, hm⟩
    rw [hp]
    apply V50.Publish.validate_append (validate_filter _ h.valid)
    exact topicAliasOf_retainNonAlias p.props
  · cases hr

theorem wired_v311Publish_setDup {p : V311.Publish w} (h : Wired (.v311Publish p : GenericPacket w))
    (dup : Bool) : Wired (.v311Publish (p.setDup dup) : GenericPacket w) := by
  have hiff (p : V311.Publish w) := wired_iff (f := .v311Publish)
    (g := V311.Publish.parse (frameFlags p.toContinuousBuffer)) p.laidOut
    (p.laidOut.lift rfl rfl rfl) (by simp) (readFrame_v311Publish p)
  obtain ⟨hl, n, hn⟩ := (hiff p).mp h
  have hround := (V311.Publish.parse_eq_ok.mp hn).2.2.2
  refine (hiff _).mpr ⟨?_, _, (p.setDup dup).laidOut.roundTrips_iff.mp ?_⟩
  · exact (V311.Publish.lengthsAgree_setDup dup).mpr hl
  · exact (p.setDup dup).roundTrips_iff.mpr hround

end MqttProtocolCore.Connection
