import MqttProtocolCore.Packet.Codec.Rebuild

namespace MqttProtocolCore.Packet.V50.Publish

open General

variable {w : IdWidth} {p q : Publish w} {b : PublishBuilder w} {a : NonZero 65535}

def contentSize (p : Publish w) : ℕ :=
  p.topicName.size + p.id.size + VariableByteInteger.sizeOf p.props.size + p.props.size +
    p.payload.length

/-- The length fields and the size of a PUBLISH are those of its content. -/
structure ExactLengths (p : Publish w) : Prop where
  propertyLength : p.propertyLength.toU32 = p.props.size
  remainingLength : p.remainingLength.toU32 = p.contentSize
  size : p.size = 1 + VariableByteInteger.sizeOf p.contentSize + p.contentSize

theorem exactLengths_of (hl : lengthOf p.props.size = .ok p.propertyLength)
    (hr : lengthOf (remainingSize p.topicName p.id p.propertyLength p.props p.payload) =
      .ok p.remainingLength)
    (hfits : p.contentSize ≤ VariableByteInteger.max) : p.ExactLengths := by
  have hmax := hfits
  rw [VariableByteInteger.max, contentSize] at hmax
  have hprops := (toU32_eq_iff_of_lengthOf hl).mpr (by omega)
  have hcontent : remainingSize p.topicName p.id p.propertyLength p.props p.payload =
      p.contentSize := by
    rw [remainingSize, VariableByteInteger.size_eq_sizeOf, hprops, contentSize]
  rw [hcontent] at hr
  have hremaining := (toU32_eq_iff_of_lengthOf hr).mpr (by rw [contentSize]; omega)
  refine ⟨hprops, hremaining, ?_⟩
  change packetSize p.remainingLength = _
  rw [packetSize_eq, hremaining]

theorem recalculateLengths_of_fits (hfits : p.contentSize ≤ VariableByteInteger.max) :
    ∃ q, p.recalculateLengths = .ok q ∧ p.Relengthed q ∧
      lengthOf q.props.size = .ok q.propertyLength ∧
      lengthOf (remainingSize q.topicName q.id q.propertyLength q.props q.payload) =
        .ok q.remainingLength := by
  have hmax := hfits
  rw [contentSize] at hmax
  obtain ⟨l, hl, hn⟩ := exists_lengthOf (n := p.props.size) (by omega)
  have hcontent : remainingSize p.topicName p.id l p.props p.payload = p.contentSize := by
    rw [remainingSize, VariableByteInteger.size_eq_sizeOf, hn, contentSize]
  obtain ⟨r, hr, -⟩ := exists_lengthOf hfits
  rw [← hcontent] at hr
  refine ⟨{ p with propertyLength := l, remainingLength := r }, ?_, rfl, hl, hr⟩
  rw [recalculateLengths, hl, Fallible.ok_bind, hr]
  rfl

theorem not_isTopicAlias_of_none {props : Properties} (h : topicAliasOf props = none) :
    ∀ prop ∈ props, ¬ isTopicAlias prop := by
  induction props with
  | nil => simp
  | cons prop props ih =>
    cases prop with
    | topicAlias ta => cases h
    | _ =>
      intro prop' hmem
      rcases List.mem_cons.mp hmem with rfl | hmem
      · simp [isTopicAlias, Property.id]
      · exact ih h prop' hmem

theorem filter_of_none {props : Properties} (h : topicAliasOf props = none) :
    (props.filter fun prop ↦ !isTopicAlias prop) = props :=
  List.filter_eq_self.mpr fun prop hprop ↦ by simp [not_isTopicAlias_of_none h prop hprop]

theorem props_aliased (h : topicAliasOf p.props = none) :
    (p.aliased a).props = p.props ++ [.topicAlias a] := by
  change (p.props.filter fun prop ↦ !isTopicAlias prop) ++ _ = _
  rw [filter_of_none h]

theorem topicAliasOf_append {props : Properties} (h : topicAliasOf props = none) :
    topicAliasOf (props ++ [.topicAlias a]) = some a := by
  induction props with
  | nil => rfl
  | cons prop props ih =>
    cases prop with
    | topicAlias ta => cases h
    | _ => exact ih h

/-- The properties of a PUBLISH stay valid when a topic alias is added where there was none. -/
theorem validate_append {props : Properties} (hv : validatePublishProperties props = .ok ())
    (h : topicAliasOf props = none) :
    validatePublishProperties (props ++ [.topicAlias a]) = .ok () := by
  unfold validatePublishProperties validateProperties at hv ⊢
  split at hv
  · rename_i hvalid
    refine if_pos ⟨fun prop hprop ↦ ?_, fun id hid ↦ ?_⟩
    · rcases List.mem_append.mp hprop with hprop | hprop
      · exact hvalid.1 prop hprop
      · obtain rfl := List.mem_singleton.mp hprop
        exact .inl (by simp [Property.id])
    · rw [List.map_append, List.count_append]
      by_cases hta : id = .topicAlias
      · have hnone : (props.map Property.id).count id = 0 := by
          refine List.count_eq_zero.mpr fun hmem ↦ ?_
          obtain ⟨prop, hprop, hpid⟩ := List.mem_map.mp hmem
          refine not_isTopicAlias_of_none h prop hprop ?_
          simp [isTopicAlias, hpid, hta]
        have hone : ([Property.topicAlias a].map Property.id).count id ≤ 1 := List.count_le_length
        omega
      · have hnone : ([Property.topicAlias a].map Property.id).count id = 0 := by
          refine List.count_eq_zero.mpr fun hmem ↦ hta ?_
          exact List.mem_singleton.mp hmem
        have hone := hvalid.2 id hid
        omega
  · cases hv

theorem check_ne_zero {qos : Qos} {id' : Option (PacketId w)} {id : PublishId w qos}
    (h : PublishId.check qos id' = .ok id) : id.val ≠ some 0 := by
  unfold PublishId.check at h
  split at h
  · split at h
    · cases h
    · rename_i h0
      obtain rfl := Fallible.ok.inj h
      exact h0
  · cases h

/-- A PUBLISH whose topic is replaced by an alias, and the alias by the topic again, is the PUBLISH
it was; each of the two is what the builder makes of its content, with the lengths of that content. -/
theorem alias_inverted {t : Utf8String} {name : MqttString} (ht : topicNameOf t = .ok name)
    (hb : build { b with topicName := some name } = .ok p) (hne : ¬ name.isEmpty)
    (hno : topicAliasOf p.props = none) (a : NonZero 65535)
    (hfits : (p.aliased a).contentSize ≤ VariableByteInteger.max) :
    ∃ q, p.removeTopicAddTopicAlias a.val = .ok q ∧ q.removeTopicAliasAddTopic t = .ok p ∧
      (q.rebuild = .ok q ∧ q.ExactLengths) ∧ p.rebuild = .ok p ∧ p.ExactLengths := by
  obtain ⟨hname, hplain⟩ : t = name.asStr ∧ ¬ name.HasWildcard := by
    obtain ⟨v, hv, hw⟩ := Fallible.bind_eq_ok.mp ht
    obtain ⟨⟨⟩, hw, hret⟩ := Fallible.bind_eq_ok.mp hw
    cases hret
    exact ⟨(MqttString.new_eq_ok.mp hv).symm, Fallible.require_eq_ok.mp hw⟩
  obtain ⟨hf, htopic, hps, hp, he, hid, hv, -, hlen, hl, hr⟩ := build_eq_ok.mp hb
  have hpname : p.topicName = name := htopic
  have hcheck : PublishId.check p.fixedHeader.qos p.id.val = .ok p.id :=
    PublishId.check_eq_ok.mpr (check_ne_zero hid)
  have hprops : (p.aliased a).props = p.props ++ [.topicAlias a] := props_aliased hno
  obtain ⟨q, hq, hrel, hql, hqr⟩ := recalculateLengths_of_fits hfits
  have hqprops : q.props = p.props ++ [.topicAlias a] := by
    rw [hrel]
    exact hprops
  have hqsize : q.contentSize = (p.aliased a).contentSize := by
    rw [hrel]
    rfl
  have hsmaller : p.contentSize ≤ VariableByteInteger.max := by
    -- what was built fits, once nothing in it is too long to be counted
    have hsize := size_props_aliased p a
    rw [show p.retainNonAlias.props = p.props from filter_of_none hno] at hsize
    have hbound := hfits
    rw [contentSize, VariableByteInteger.max] at hbound
    have hn := p.topicName.size_le
    have hi := p.id.size_le
    have hpl := p.propertyLength.size_le_four
    have hexact := (toU32_eq_iff_of_lengthOf hl).mpr (by omega)
    have hcontent : remainingSize p.topicName p.id p.propertyLength p.props p.payload =
        p.contentSize := by
      rw [remainingSize, VariableByteInteger.size_eq_sizeOf, hexact, contentSize]
    rw [← hcontent]
    refine le_max_of_lengthOf hr ?_
    rw [remainingSize]
    omega
  refine ⟨q, ?_, ?_, ⟨?_, ?_⟩, ?_, ?_⟩
  · rw [removeTopicAddTopicAlias, dif_pos a.property]
    exact hq
  · have hempty : q.topicName.isEmpty := by
      rw [hrel]
      rfl
    have hreplace : q.replaceTopic t = .ok { q with topicName := name } := by
      refine Fallible.bind_eq_ok.mpr ⟨⟨⟩, Fallible.require_eq_ok.mpr hempty, ?_⟩
      refine Fallible.bind_eq_ok.mpr ⟨⟨⟩, Fallible.require_eq_ok.mpr (hname ▸ hplain), ?_⟩
      exact Fallible.bind_eq_ok.mpr ⟨name, MqttString.new_eq_ok.mpr hname.symm, rfl⟩
    have hback : ({ q with topicName := name } : Publish w).retainNonAlias = { p with
        propertyLength := q.propertyLength, remainingLength := q.remainingLength } := by
      have hfilter : (q.props.filter fun prop ↦ !isTopicAlias prop) = p.props := by
        rw [hqprops, List.filter_append, filter_of_none hno]
        exact List.append_nil _
      rw [retainNonAlias, hfilter, ← hpname, hrel]
      rfl
    rw [removeTopicAliasAddTopic, hreplace, Fallible.ok_bind, hback]
    refine Fallible.bind_eq_ok.mpr ⟨p.propertyLength, hl, ?_⟩
    exact Fallible.bind_eq_ok.mpr ⟨p.remainingLength, hr, rfl⟩
  · have hdefault : q.topicName = .default := by
      rw [hrel]
      rfl
    have hname' : topicNameOf q.topicName.asStr = .ok q.topicName := by
      rw [hdefault]
      exact topicNameOf_eq_ok.mpr ⟨rfl, by decide⟩
    rw [rebuild, hname', Fallible.ok_bind]
    have hvalid : validatePublishProperties q.props = .ok () := by
      rw [hqprops]
      exact validate_append hv hno
    have halias : (topicAliasOf q.props).isSome := by
      rw [hqprops, topicAliasOf_append hno]
      rfl
    have hrest : q.topicNameExtracted = false ∧ q.payload.length ≤ 268435455 ∧
        PublishId.check q.fixedHeader.qos q.packetId = .ok q.id := by
      rw [hrel]
      exact ⟨he, hlen, hcheck⟩
    exact build_eq_ok.mpr ⟨rfl, rfl, rfl, rfl, hrest.1, hrest.2.2, hvalid, .inr halias, hrest.2.1,
      hql, hqr⟩
  · exact exactLengths_of hql hqr (hqsize ▸ hfits)
  · have hname' : topicNameOf p.topicName.asStr = .ok p.topicName :=
      topicNameOf_eq_ok.mpr ⟨rfl, hpname ▸ hplain⟩
    rw [rebuild, hname', Fallible.ok_bind]
    refine build_eq_ok.mpr ⟨rfl, rfl, rfl, rfl, he, hcheck, hv, .inl ?_, hlen, hl, hr⟩
    rw [hpname]
    exact hne
  · exact exactLengths_of hl hr hsmaller

theorem alias_inverted_short : ∃ p q : Publish .u16, p.removeTopicAddTopicAlias 1 = .ok q ∧
    q.removeTopicAliasAddTopic (MqttString.replicate 1 one_le_maxLength).asStr = .ok p := by
  have ht : topicNameOf (MqttString.replicate 1 one_le_maxLength).asStr =
      .ok (.replicate 1 one_le_maxLength) := by decide
  obtain ⟨p, hp, hno, hfits⟩ : (build (w := .u16) { (⟨none, none, none, none, none⟩ :
      PublishBuilder .u16) with topicName := some (.replicate 1 one_le_maxLength) }).unwrap.Attains
        fun p ↦ topicAliasOf p.props = none ∧
          (p.aliased ⟨1, U16.isNonZero_one⟩).contentSize ≤ VariableByteInteger.max := by
    decide +kernel
  obtain ⟨q, hq, hback, -⟩ := alias_inverted ht (Fallible.unwrap_eq_ret.mp hp) (by decide) hno
    ⟨1, U16.isNonZero_one⟩ hfits
  exact ⟨p, q, hq, hback⟩

end MqttProtocolCore.Packet.V50.Publish
