import MqttProtocolCore.Connection.SizeLimit
import MqttProtocolCore.Connection.StoredForm
import MqttProtocolCore.Connection.Swallow

namespace MqttProtocolCore.Connection.GenericConnection

open General Packet

variable {w : IdWidth} {c c' : GenericConnection w} {p q : V50.Publish w} {validated : Bool}
  {r : Handled w} {id : PacketId w}

theorem topicAliasOf_append {props : Properties} (h : V50.topicAliasOf props = none)
    (a : NonZero 65535) : V50.topicAliasOf (props ++ [.topicAlias a]) = some a := by
  induction props with
  | nil => rfl
  | cons prop props ih =>
    cases prop with
    | topicAlias => cases h
    | _ => exact ih h

def aliasOf (p : V50.Publish w) : Option U16 := (V50.topicAliasOf p.props).map Subtype.val

theorem aliasOf_replaced {a : U16} (ha : a ≠ 0) :
    (p.removeTopicAddTopicAlias a).unwrap.Ensures fun q ↦ aliasOf q = some a := by
  intro q hq
  obtain ⟨-, hrel⟩ := (p.removeTopicAddTopicAlias_spec ⟨a, ha⟩).of_ret hq
  have hprops : q.props = (p.aliased ⟨a, ha⟩).props := by rw [hrel]
  have happend : V50.topicAliasOf (p.aliased ⟨a, ha⟩).props = some ⟨a, ha⟩ :=
    topicAliasOf_append (topicAliasOf_filter p.props) _
  unfold aliasOf
  rw [hprops, happend]
  rfl

/-- How the topic alias of an outgoing PUBLISH is settled: the PUBLISH that goes out, and the
aliases of the sender afterwards. -/
inductive AliasCase (c : GenericConnection w) (p : V50.Publish w) (validated : Bool) :
    Option (V50.Publish w) × GenericConnection w → Prop where
  | invalid : c.invalidAlias p validated → AliasCase c p validated (none, c)
  | validated : p.topicName.isEmpty → validated → AliasCase c p validated (some p, c)
  | touched {a : U16} {s : TopicAliasSend} : p.topicName.isEmpty → ¬ validated →
      aliasOf p = some a → c.topicAliasSend = some s → (s.peek a).isSome →
      AliasCase c p validated (some p, { c with topicAliasSend := some (s.get a).2 })
  | registered {a : U16} {s s' : TopicAliasSend} : ¬ p.topicName.isEmpty → aliasOf p = some a →
      c.topicAliasSend = some s → s.insertOrUpdate p.topicName.asStr a = .ret s' →
      AliasCase c p validated (some p, { c with topicAliasSend := some s' })
  | found {a : U16} {s : TopicAliasSend} {q : V50.Publish w} : c.mapsTopic p →
      c.topicAliasSend = some s → s.findByTopic p.topicName.asStr = some a → aliasOf q = some a →
      AliasCase c p validated (some q, c)
  | bound {a : U16} {s s' : TopicAliasSend} {q : V50.Publish w} : c.mapsTopic p →
      c.topicAliasSend = some s → s.findByTopic p.topicName.asStr = none →
      s.getLruAlias = .ret a → s.insertOrUpdate p.topicName.asStr a = .ret s' →
      aliasOf q = some a →
      AliasCase c p validated (some q, { c with topicAliasSend := some s' })
  | plain : ¬ p.topicName.isEmpty → aliasOf p = none → ¬ c.mapsTopic p →
      AliasCase c p validated (some p, c)

/-- The alias of a PUBLISH without a topic is looked up, and becomes the one used last. -/
theorem validateTopicAlias_cases (ta : Option (NonZero 65535)) :
    (∃ a s topic, ta.map Subtype.val = some a ∧ c.topicAliasSend = some s ∧ s.peek a = some topic ∧
      c.validateTopicAlias ta = (some topic, { c with topicAliasSend := some (s.get a).2 })) ∨
    c.validateTopicAlias ta = (none, c) := by
  cases ta with
  | none => exact .inr rfl
  | some a =>
    cases hs : c.topicAliasSend with
    | none =>
      right
      simp [validateTopicAlias, hs]
    | some s =>
      unfold validateTopicAlias
      simp only [hs]
      by_cases hr : c.validateTopicAliasRange a
      · rw [if_pos hr, TopicAliasSend.get_fst]
        cases ht : s.peek a with
        | some topic => exact .inl ⟨a, s, topic, rfl, rfl, ht, rfl⟩
        | none =>
          right
          have hget : (s.get a).2 = s := by
            unfold TopicAliasSend.get
            split
            · split
              · rfl
              · rename_i t hg
                rw [TopicAliasSend.peek_eq, hg] at ht
                cases ht
            · rfl
          rw [hget, ← hs]
      · rw [if_neg hr]
        exact .inr rfl

theorem mapsTopic_iff : c.mapsTopic p ↔ ¬ p.topicName.isEmpty ∧ V50.topicAliasOf p.props = none ∧
    c.status = .connected ∧ ∃ s, c.topicAliasSend = some s ∧ (c.autoMapTopicAliasSend ∨
      c.autoReplaceTopicAliasSend ∧ (s.findByTopic p.topicName.asStr).isSome) := by
  simp [mapsTopic, Option.any_eq_true]

theorem applyTopicAlias_cases : (c.applyTopicAlias p validated).Ensures (c.AliasCase p validated) := by
  unfold applyTopicAlias
  by_cases ht : p.topicName.isEmpty
  · rw [if_pos ht]
    by_cases hv : validated
    · rw [if_pos hv]
      exact Outcome.ensures_ret.mpr (.validated ht hv)
    · rw [if_neg hv]
      rcases c.validateTopicAlias_cases (V50.topicAliasOf p.props) with
        ⟨a, s, topic, ha, hs, hpeek, hval⟩ | hval
      · rw [hval]
        exact Outcome.ensures_ret.mpr (.touched ht hv ha hs (by simp [hpeek]))
      · rw [hval]
        exact Outcome.ensures_ret.mpr (.invalid (by simp [invalidAlias, ht, hv, hval]))
  · rw [if_neg ht]
    cases ha : V50.topicAliasOf p.props with
    | some ta =>
      dsimp only
      split
      · rename_i hr
        unfold registerTopicAlias
        cases hs : c.topicAliasSend with
        | none => simp [validateTopicAliasRange, hs] at hr
        | some s =>
          refine Outcome.Ensures.bind (P := fun c' ↦ ∃ s', s.insertOrUpdate p.topicName.asStr ta =
            .ret s' ∧ c' = { c with topicAliasSend := some s' }) ?_ fun c' hc' ↦ ?_
          · intro c' hc'
            obtain ⟨s', hs', hret⟩ := Outcome.bind_eq_ret.mp hc'
            exact ⟨s', hs', (Outcome.ret.inj hret).symm⟩
          · obtain ⟨s', hs', rfl⟩ := hc'
            exact Outcome.ensures_ret.mpr (.registered ht (by simp [aliasOf, ha]) hs hs')
      · rename_i hr
        exact Outcome.ensures_ret.mpr (.invalid (by simp [invalidAlias, ht, ha, hr]))
    | none =>
      have hnone : aliasOf p = none := by simp [aliasOf, ha]
      have hrange {a : U16} (h : 1 ≤ a) : a ≠ 0 := by
        rintro rfl
        exact absurd h (by decide)
      have hfound {s : TopicAliasSend} {a : U16} (hf : s.findByTopic p.topicName.asStr = some a) :
          a ≠ 0 :=
        hrange (TopicAliasSend.inRange_of_peek (TopicAliasSend.findByTopic_spec hf)).1
      dsimp only
      by_cases hm : c.status = .connected ∧ c.autoMapTopicAliasSend
      · rw [if_pos hm]
        unfold autoMapTopicAlias
        cases hs : c.topicAliasSend with
        | none =>
          refine Outcome.ensures_ret.mpr (.plain ht hnone ?_)
          simp [mapsTopic, hs]
        | some s =>
          have hmaps := mapsTopic_iff.mpr ⟨ht, ha, hm.1, s, hs, .inl hm.2⟩
          dsimp only
          cases hf : s.findByTopic p.topicName.asStr with
          | some a =>
            refine Outcome.Ensures.bind (P := fun r ↦ aliasOf r.1 = some a ∧ r.2 = c) ?_ fun r hr ↦ ?_
            · exact (aliasOf_replaced (hfound hf)).bind fun q hq ↦ Outcome.ensures_ret.mpr ⟨hq, rfl⟩
            · obtain ⟨q, c'⟩ := r
              obtain ⟨hq, rfl⟩ := hr
              exact Outcome.ensures_ret.mpr (.found hmaps hs hf hq)
          | none =>
            intro r hr
            obtain ⟨⟨q, c'⟩, hr', hret⟩ := Outcome.bind_eq_ret.mp hr
            obtain ⟨a, hlru, hr'⟩ := Outcome.bind_eq_ret.mp hr'
            obtain ⟨s', hs', hr'⟩ := Outcome.bind_eq_ret.mp hr'
            obtain ⟨q', hq', hr'⟩ := Outcome.bind_eq_ret.mp hr'
            obtain ⟨rfl, rfl⟩ := Prod.mk.inj (Outcome.ret.inj hr')
            obtain rfl := Outcome.ret.inj hret
            obtain ⟨a', ha', h1, -⟩ := s.getLruAlias_spec
            obtain rfl := Outcome.ret.inj (ha'.symm.trans hlru)
            exact .bound hmaps hs hf hlru hs' (aliasOf_replaced (hrange h1) _ hq')
      · rw [if_neg hm]
        by_cases hr : c.status = .connected ∧ c.autoReplaceTopicAliasSend
        · rw [if_pos hr]
          unfold autoReplaceTopicAlias
          cases hf : c.topicAliasSend.bind fun s ↦ s.findByTopic p.topicName.asStr with
          | some a =>
            obtain ⟨s, hs, hf'⟩ := Option.bind_eq_some_iff.mp hf
            have hmaps := mapsTopic_iff.mpr ⟨ht, ha, hr.1, s, hs, .inr ⟨hr.2, by simp [hf']⟩⟩
            exact (aliasOf_replaced (hfound hf')).bind fun q hq ↦
              Outcome.ensures_ret.mpr (.found hmaps hs hf' hq)
          | none =>
            refine Outcome.ensures_ret.mpr (.plain ht hnone fun hmaps ↦ ?_)
            obtain ⟨-, -, -, s, hs, hauto⟩ := mapsTopic_iff.mp hmaps
            rw [hs, Option.bind_some] at hf
            rcases hauto with hauto | ⟨-, hsome⟩
            · exact hm ⟨hr.1, hauto⟩
            · simp [hf] at hsome
        · rw [if_neg hr]
          refine Outcome.ensures_ret.mpr (.plain ht hnone fun hmaps ↦ ?_)
          obtain ⟨-, -, hc, s, -, hauto⟩ := mapsTopic_iff.mp hmaps
          rcases hauto with hauto | ⟨hauto, -⟩
          · exact hm ⟨hc, hauto⟩
          · exact hr ⟨hc, hauto⟩

/-- A PUBLISH that was not refused went on with its alias settled. -/
theorem sendV50Publish_cases {rel : Option (PacketId w)} :
    (c.sendV50Publish p validated rel).Ensures fun r ↦ errors r.2 = [] → ∃ q c',
      AliasCase c p validated (some q, c') ∧ r.1.topicAliasSend = c'.topicAliasSend ∧
        requested r.2 = if c.status = .connected then [.v50Publish q] else [] := by
  have hrefuse {c' : GenericConnection w} {e : MqttError} {id : Option (PacketId w)}
      {P : Handled w → Prop} : (c'.refuse e id).Ensures fun r ↦ errors r.2 = [] → P r :=
    (errors_refuse e id).mono fun r hr h ↦ (hr h).elim
  unfold sendV50Publish
  refine applyTopicAlias_cases.bind fun o ho ↦ ?_
  obtain ⟨o, c'⟩ := o
  cases o with
  | none => exact hrefuse
  | some q =>
    have hstatus : c'.status = c.status := by cases ho <;> rfl
    refine countPublish_frame.bind fun o h ↦ ?_
    cases o with
    | none => exact hrefuse
    | some c'' =>
      have hcounted : c'' = { c' with publishSendCount := c''.publishSendCount } := h c'' rfl
      have hs : c''.topicAliasSend = c'.topicAliasSend := by rw [hcounted]
      have hst : c''.status = c.status := (by rw [hcounted] : c''.status = c'.status).trans hstatus
      refine Outcome.ensures_ret.mpr fun _ ↦ ⟨q, c', ho, ?_, ?_⟩
      · unfold transmit
        split
        · have hidle : (c''.request (.v50Publish q) rel).1.topicAliasSend = c''.topicAliasSend := by
            rw [idle_request]
          exact hidle.trans hs
        · exact hs
      · unfold transmit
        rw [← hst]
        split <;> simp

/-- What a PUBLISH that is sent without an error does with the aliases of the sender. -/
inductive AliasUse (c : GenericConnection w) (p : V50.Publish w) (r : Handled w) : Prop where
  | given {a : U16} {s s' : TopicAliasSend} : aliasOf p = some a → c.topicAliasSend = some s →
      r.1.topicAliasSend = some s' → s'.order = moveToEnd s.order a → AliasUse c p r
  | found {a : U16} {s : TopicAliasSend} {q : V50.Publish w} : c.mapsTopic p →
      c.topicAliasSend = some s → s.findByTopic p.topicName.asStr = some a →
      r.1.topicAliasSend = some s → requested r.2 = [.v50Publish q] → aliasOf q = some a →
      AliasUse c p r
  | bound {a : U16} {s s' : TopicAliasSend} {q : V50.Publish w} : c.mapsTopic p →
      c.topicAliasSend = some s → s.findByTopic p.topicName.asStr = none →
      s.getLruAlias = .ret a → s.insertOrUpdate p.topicName.asStr a = .ret s' →
      r.1.topicAliasSend = some s' → requested r.2 = [.v50Publish q] → aliasOf q = some a →
      AliasUse c p r
  | plain : aliasOf p = none → ¬ c.mapsTopic p → r.1.topicAliasSend = c.topicAliasSend →
      (∀ q, .v50Publish q ∈ requested r.2 → aliasOf q = none) → AliasUse c p r

theorem AliasUse.transfer (h : c'.AliasUse p r) (hs : c'.topicAliasSend = c.topicAliasSend)
    (hm : c'.mapsTopic p = c.mapsTopic p) : c.AliasUse p r := by
  cases h with
  | given ha hc hr ho => exact .given ha (hs ▸ hc) hr ho
  | found hmaps hc hf hr hq ha => exact .found (hm ▸ hmaps) (hs ▸ hc) hf hr hq ha
  | bound hmaps hc hf hl hi hr hq ha => exact .bound (hm ▸ hmaps) (hs ▸ hc) hf hl hi hr hq ha
  | plain ha hmaps hr hq => exact .plain ha (hm ▸ hmaps) (hr.trans hs) hq

theorem aliasUse_sendV50Publish (hv : ¬ validated) {rel : Option (PacketId w)} :
    (c.sendV50Publish p validated rel).Ensures fun r ↦ errors r.2 = [] → c.AliasUse p r := by
  refine sendV50Publish_cases.mono fun r hr he ↦ ?_
  obtain ⟨q, c', hcase, hs, hreq⟩ := hr he
  have hconnected (hmaps : c.mapsTopic p) : requested r.2 = [.v50Publish q] := by
    rw [hreq, if_pos (mapsTopic_iff.mp hmaps).2.2.1]
  cases hcase with
  | validated _ h => exact (hv h).elim
  | touched _ _ ha hc hpeek => exact .given ha hc hs (TopicAliasSend.order_get hpeek)
  | registered _ ha hc hi => exact .given ha hc hs (TopicAliasSend.order_insertOrUpdate _ hi)
  | found hmaps hc hf ha => exact .found hmaps hc hf (hs.trans hc) (hconnected hmaps) ha
  | bound hmaps hc hf hl hi ha => exact .bound hmaps hc hf hl hi hs (hconnected hmaps) ha
  | plain _ ha hmaps =>
    refine .plain ha hmaps hs fun q' hq' ↦ ?_
    rw [hreq] at hq'
    split at hq'
    · simp only [List.mem_singleton, GenericPacket.v50Publish.injEq] at hq'
      rw [hq']
      exact ha
    · cases hq'

theorem aliasUse_send (p : V50.Publish w) : (c.send (.v50Publish p)).Ensures fun r ↦
    errors r.2 = [] → c.AliasUse p r := by
  have hreject {e : MqttError} {P : Handled w → Prop} :
      (Outcome.ret (c.reject e)).Ensures fun r ↦ errors r.2 = [] → P r :=
    Outcome.ensures_ret.mpr fun h ↦ by simp [reject] at h
  have hrefuse {c' : GenericConnection w} {e : MqttError} {id : Option (PacketId w)}
      {P : Handled w → Prop} : (c'.refuse e id).Ensures fun r ↦ errors r.2 = [] → P r :=
    (errors_refuse e id).mono fun r hr h ↦ (hr h).elim
  have hawait {c' : GenericConnection w} (kind : AckKind) (id : PacketId w) :
      (c'.await kind id).topicAliasSend = c'.topicAliasSend ∧
        (c'.await kind id).mapsTopic p = c'.mapsTopic p := by
    cases kind <;> exact ⟨rfl, rfl⟩
  unfold send
  split
  · exact hreject
  change (c.processSendV50Publish p).Ensures _
  unfold processSendV50Publish limited
  split
  swap
  · exact hreject
  split
  swap
  · split
    · exact hreject
    · exact aliasUse_sendV50Publish (by simp)
  rename_i id _
  split
  · exact hrefuse
  split
  · exact hreject
  split
  swap
  · obtain ⟨hs, hm⟩ := @hawait c (publishAck p.qos) id
    exact (aliasUse_sendV50Publish (by simp)).mono fun r hr he ↦ (hr he).transfer hs hm
  unfold storablePublish
  by_cases ht : p.topicName.isEmpty
  · rw [if_pos ht]
    rcases c.validateTopicAlias_cases (V50.topicAliasOf p.props) with
      ⟨a, s, topic, ha, hs, hpeek, hval⟩ | hval
    · rw [hval]
      refine Outcome.Ensures.bind (P := fun o ↦ o.2 = { c with topicAliasSend := some (s.get a).2 })
        ?_ fun o ho ↦ ?_
      · exact Outcome.Ensures.bind (P := fun _ ↦ True) (fun _ _ ↦ trivial)
          fun _ _ ↦ Outcome.ensures_ret.mpr rfl
      · obtain ⟨o, c₁⟩ := o
        obtain rfl : c₁ = _ := ho
        cases o with
        | none => exact hrefuse
        | some stored =>
          refine storeAdd_frame.bind fun c₂ hc₂ ↦ ?_
          obtain ⟨hs₂, -⟩ := @hawait c₂ (publishAck p.qos) id
          refine sendV50Publish_cases.mono fun r hr he ↦ ?_
          obtain ⟨q, c', hcase, hr', -⟩ := hr he
          have hc' : c'.topicAliasSend = some (s.get a).2 := by
            cases hcase with
            | validated => rw [hs₂, hc₂]
            | touched _ hv => exact (hv ht).elim
            | registered hne => exact (hne ht).elim
            | found hmaps => exact ((mapsTopic_iff.mp hmaps).1 ht).elim
            | bound hmaps => exact ((mapsTopic_iff.mp hmaps).1 ht).elim
            | plain hne => exact (hne ht).elim
          exact .given ha hs (hr'.trans hc') (TopicAliasSend.order_get (by simp [hpeek]))
    · rw [hval]
      have hinvalid : (c.refuse .packetNotAllowedToSend (some id)).Ensures fun r ↦
          errors r.2 = [] → c.AliasUse p r := hrefuse
      exact hinvalid
  · rw [if_neg ht]
    refine Outcome.Ensures.bind (P := fun o ↦ o.2 = c) ?_ fun o ho ↦ ?_
    · exact Outcome.Ensures.bind (P := fun _ ↦ True) (fun _ _ ↦ trivial)
        fun _ _ ↦ Outcome.ensures_ret.mpr rfl
    · obtain ⟨o, c₁⟩ := o
      obtain rfl : c₁ = c := ho
      cases o with
      | none => exact hrefuse
      | some stored =>
        refine storeAdd_frame.bind fun c₂ hc₂ ↦ ?_
        obtain ⟨hs, hm⟩ := @hawait c₂ (publishAck p.qos) id
        have hs₂ : c₂.topicAliasSend = c₁.topicAliasSend := by rw [hc₂]
        have hm₂ : c₂.mapsTopic p = c₁.mapsTopic p := by
          rw [hc₂]
          rfl
        exact (aliasUse_sendV50Publish ht).mono fun r hr he ↦
          (hr he).transfer (hs.trans hs₂) (hm.trans hm₂)

end MqttProtocolCore.Connection.GenericConnection
