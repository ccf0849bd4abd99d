import MqttProtocolCore.Connection.SendSpec

namespace MqttProtocolCore.Connection.GenericConnection

open General Packet

variable {w : IdWidth} {c c' : GenericConnection w} {input : Input w} {packet : GenericPacket w}
  {id : PacketId w}

section PublishV50

variable {p p' : V50.Publish w}

def mapsTopic (c : GenericConnection w) (p : V50.Publish w) : Bool :=
  ¬ p.topicName.isEmpty ∧ V50.topicAliasOf p.props = none ∧ c.status = .connected ∧
    c.topicAliasSend.any fun s ↦ c.autoMapTopicAliasSend ∨
      c.autoReplaceTopicAliasSend ∧ (s.findByTopic p.topicName.asStr).isSome

def AliasFits (c : GenericConnection w) (p : V50.Publish w) : Prop :=
  c.mapsTopic p → ∀ a, (p.aliased a).Encodes

def SameId (p p' : V50.Publish w) : Prop := p'.packetId = p.packetId ∧ p'.qos = p.qos

def Realiased (c c' : GenericConnection w) : Prop :=
  c' = { c with topicAliasSend := c'.topicAliasSend }

theorem autoMapTopicAlias_spec (hc : c.status = .connected) (ht : ¬ p.topicName.isEmpty)
    (ha : V50.topicAliasOf p.props = none) (hm : c.autoMapTopicAliasSend) :
    (c.autoMapTopicAlias p).Spec
      (fun r ↦ c.AliasFits p ∧ SameId p r.1 ∧ Realiased c r.2)
      (¬ c.AliasFits p) := by
  unfold autoMapTopicAlias
  cases hs : c.topicAliasSend with
  | none => exact ⟨fun h ↦ by simp [mapsTopic, hs] at h, ⟨rfl, rfl⟩, rfl⟩
  | some s =>
    have hmaps : c.mapsTopic p := by simp [mapsTopic, ht, ha, hc, hs, hm]
    have hfits (a : NonZero 65535) : (p.aliased a).Encodes ↔ c.AliasFits p :=
      ⟨fun h _ b ↦ (V50.Publish.encodes_aliased a b).mp h, fun h ↦ h hmaps a⟩
    have hrange (a : U16) (h : 1 ≤ a) : a ≠ 0 := by
      rintro rfl
      exact absurd h (by decide)
    cases hf : s.findByTopic p.topicName.asStr with
    | some found =>
      simp only [hf]
      have h0 := hrange found (TopicAliasSend.inRange_of_peek (TopicAliasSend.findByTopic_spec hf)).1
      refine (p.removeTopicAddTopicAlias_spec ⟨found, h0⟩).bind (fun p' ⟨he, hp'⟩ ↦ ?_) (hfits _).not.mp
      refine ⟨(hfits _).mp he, ?_, rfl⟩
      rw [hp']
      exact ⟨rfl, rfl⟩
    | none =>
      obtain ⟨lru, hlru, h1, hmax⟩ := s.getLruAlias_spec
      simp only [hf, hlru, Outcome.ret_bind]
      refine TopicAliasSend.insertOrUpdate_spec.bind (fun s' _ ↦ ?_) fun h ↦ (h ⟨?_, h1, hmax⟩).elim
      · refine (p.removeTopicAddTopicAlias_spec ⟨lru, hrange lru h1⟩).bind (fun p' ⟨he, hp'⟩ ↦ ?_)
          (hfits _).not.mp
        refine ⟨(hfits _).mp he, ?_, rfl⟩
        rw [hp']
        exact ⟨rfl, rfl⟩
      · exact ht

theorem autoReplaceTopicAlias_spec (hc : c.status = .connected) (ht : ¬ p.topicName.isEmpty)
    (ha : V50.topicAliasOf p.props = none) (hm : ¬ c.autoMapTopicAliasSend)
    (hr : c.autoReplaceTopicAliasSend) :
    (c.autoReplaceTopicAlias p).Spec (fun p' ↦ c.AliasFits p ∧ SameId p p') (¬ c.AliasFits p) := by
  unfold autoReplaceTopicAlias
  cases hf : c.topicAliasSend.bind fun s ↦ s.findByTopic p.topicName.asStr with
  | none =>
    refine ⟨fun h ↦ ?_, rfl, rfl⟩
    have hnone : ∀ s, c.topicAliasSend = some s → s.findByTopic p.topicName.asStr = none := by
      simpa [Option.bind_eq_none_iff] using hf
    obtain ⟨s, hs, hfound⟩ : ∃ s, c.topicAliasSend = some s ∧
        (s.findByTopic p.topicName.asStr).isSome := by
      simpa [mapsTopic, ht, ha, hc, hm, hr, Option.any_eq_true] using h
    simp [hnone s hs] at hfound
  | some found =>
    obtain ⟨s, hs, hfound⟩ := Option.bind_eq_some_iff.mp hf
    have hmaps : c.mapsTopic p := by simp [mapsTopic, ht, ha, hc, hs, hr, hfound]
    have h1 := (TopicAliasSend.inRange_of_peek (TopicAliasSend.findByTopic_spec hfound)).1
    have h0 : found ≠ 0 := by
      rintro rfl
      exact absurd h1 (by decide)
    have hfits : (p.aliased ⟨found, h0⟩).Encodes ↔ c.AliasFits p :=
      ⟨fun h _ b ↦ (V50.Publish.encodes_aliased _ b).mp h, fun h ↦ h hmaps _⟩
    refine (p.removeTopicAddTopicAlias_spec ⟨found, h0⟩).mono (fun p' ⟨he, hp'⟩ ↦ ?_) hfits.not.mp
    refine ⟨hfits.mp he, ?_⟩
    rw [hp']
    exact ⟨rfl, rfl⟩

theorem realiased_validateTopicAlias (a : Option (NonZero 65535)) :
    Realiased c (c.validateTopicAlias a).2 := by
  unfold validateTopicAlias
  split
  · split <;> rfl
  · rfl

theorem registerTopicAlias_spec {topic : Utf8String} {a : U16} (ht : ¬ topic.isEmpty)
    (hr : c.validateTopicAliasRange a) :
    ∃ c', c.registerTopicAlias topic a = .ret c' ∧ Realiased c c' := by
  unfold validateTopicAliasRange at hr
  unfold registerTopicAlias
  cases hs : c.topicAliasSend with
  | none => simp [hs] at hr
  | some s =>
    simp only [hs, decide_eq_true_eq] at hr
    have h1 : 1 ≤ a := by
      have := Fin.val_ne_of_ne hr.1
      simp only [Fin.le_def, Fin.val_one, Fin.val_zero] at *
      omega
    have hspec := @TopicAliasSend.insertOrUpdate_spec s topic a
    cases hi : s.insertOrUpdate topic a with
    | panic =>
      rw [hi] at hspec
      exact (hspec ⟨ht, h1, hr.2⟩).elim
    | ret s' =>
      dsimp only
      rw [hi]
      exact ⟨_, rfl, rfl⟩

def invalidAlias (c : GenericConnection w) (p : V50.Publish w) (validated : Bool) : Bool :=
  if p.topicName.isEmpty then
    ¬ validated ∧ (c.validateTopicAlias (V50.topicAliasOf p.props)).1 = none
  else (V50.topicAliasOf p.props).any fun ta ↦ ¬ c.validateTopicAliasRange ta

theorem applyTopicAlias_spec (validated : Bool) : (c.applyTopicAlias p validated).Spec
    (fun r ↦ c.AliasFits p ∧ Realiased c r.2 ∧ (r.1 = none ↔ c.invalidAlias p validated) ∧
      ∀ p', r.1 = some p' → SameId p p')
    (¬ c.AliasFits p) := by
  have hsame : ∀ p', some p = some p' → SameId p p' := by
    rintro p' h
    cases h
    exact ⟨rfl, rfl⟩
  have hfine (h : ¬ c.mapsTopic p) : c.AliasFits p := fun h' ↦ (h h').elim
  unfold applyTopicAlias
  by_cases ht : p.topicName.isEmpty
  · have hno : ¬ c.mapsTopic p := by simp [mapsTopic, ht]
    rw [if_pos ht]
    by_cases hv : validated
    · rw [if_pos hv]
      exact ⟨hfine hno, rfl, by simp [invalidAlias, ht, hv], hsame⟩
    · rw [if_neg hv]
      have hre := realiased_validateTopicAlias (c := c) (V50.topicAliasOf p.props)
      cases hval : c.validateTopicAlias (V50.topicAliasOf p.props) with
      | mk topic c' =>
        rw [hval] at hre
        cases topic with
        | none => exact ⟨hfine hno, hre, by simp [invalidAlias, ht, hv, hval], by simp⟩
        | some t => exact ⟨hfine hno, hre, by simp [invalidAlias, ht, hv, hval], hsame⟩
  · rw [if_neg ht]
    cases ha : V50.topicAliasOf p.props with
    | some ta =>
      have hno : ¬ c.mapsTopic p := by simp [mapsTopic, ha]
      by_cases hr : c.validateTopicAliasRange ta
      · obtain ⟨c', hc', hre⟩ := @registerTopicAlias_spec w c p.topicName.asStr ta ht hr
        simp only [hr, if_true, hc', Outcome.ret_bind]
        exact ⟨hfine hno, hre, by simp [invalidAlias, ht, ha, hr], hsame⟩
      · simp only [hr]
        exact ⟨hfine hno, rfl, by simp [invalidAlias, ht, ha, hr], by simp⟩
    | none =>
      by_cases hm : c.status = .connected ∧ c.autoMapTopicAliasSend
      · simp only [hm, and_self, if_true]
        refine (autoMapTopicAlias_spec hm.1 ht ha hm.2).bind (fun r ⟨hf, hid, hre⟩ ↦ ?_) fun h ↦ h
        refine ⟨hf, hre, by simp [invalidAlias, ht, ha], fun p' hp' ↦ ?_⟩
        cases hp'
        exact hid
      · simp only [hm, if_false]
        by_cases hr : c.status = .connected ∧ c.autoReplaceTopicAliasSend
        · have hm' : ¬ c.autoMapTopicAliasSend := fun h ↦ hm ⟨hr.1, h⟩
          simp only [hr, and_self, if_true]
          refine (autoReplaceTopicAlias_spec hr.1 ht ha hm' hr.2).bind (fun r ⟨hf, hid⟩ ↦ ?_)
            fun h ↦ h
          refine ⟨hf, rfl, by simp [invalidAlias, ht, ha], fun p' hp' ↦ ?_⟩
          cases hp'
          exact hid
        · simp only [hr, if_false]
          refine ⟨hfine fun h ↦ ?_, rfl, by simp [invalidAlias, ht, ha], hsame⟩
          obtain ⟨-, -, hc, s, hs, hor⟩ : ¬ p.topicName.isEmpty ∧ V50.topicAliasOf p.props = none ∧
              c.status = .connected ∧ ∃ s, c.topicAliasSend = some s ∧ (c.autoMapTopicAliasSend ∨
                c.autoReplaceTopicAliasSend ∧ (s.findByTopic p.topicName.asStr).isSome) := by
            simpa [mapsTopic, Option.any_eq_true] using h
          rcases hor with h' | ⟨h', -⟩
          · exact hm ⟨hc, h'⟩
          · exact hr ⟨hc, h'⟩

def CountFits (c : GenericConnection w) : Prop :=
  ∀ max, c.publishSendMax = some max → c.publishSendCount = max ∨ c.publishSendCount < 65535

theorem countPublish_spec (c : GenericConnection w) (id : PacketId w) :
    (c.countPublish (some id)).Spec
      (fun r ↦ c.CountFits ∧ (r = none ↔ c.quotaReached) ∧
        ∀ c', r = some c' → c'.session = c.session.counted .v50)
      (¬ c.CountFits) := by
  unfold countPublish
  cases hm : c.publishSendMax with
  | none =>
    refine ⟨by simp [CountFits, hm], by simp [quotaReached, hm], ?_⟩
    rintro c' h
    cases h
    rw [Session.counted, if_neg (by simp [session, hm])]
  | some max =>
    by_cases hc : c.publishSendCount = max
    · simp only [hc, if_true]
      exact ⟨by simp [CountFits, hm, hc], by simp [quotaReached, hm, hc], by simp⟩
    · by_cases hlt : c.publishSendCount < 65535
      · simp only [hc, if_false, hlt, dif_pos]
        refine ⟨by simp [CountFits, hm, hlt], by simp [quotaReached, hm, Ne.symm hc], ?_⟩
        rintro c' h
        cases h
        rw [Session.counted, if_pos (by simp [session, hm])]
        exact Session.ext rfl rfl rfl rfl rfl rfl rfl rfl (by simp [session, hm]) rfl
      · simp only [hc, if_false, hlt]
        exact fun h ↦ (h max hm).elim hc hlt

/-- The counter of the PUBLISH packets in flight is all that changes. -/
theorem countPublish_frame {o : Option (PacketId w)} : (c.countPublish o).Ensures fun r ↦
    ∀ c' ∈ r, c' = { c with publishSendCount := c'.publishSendCount } := by
  unfold countPublish
  split
  · split
    · simp
    split
    · refine Outcome.ensures_ret.mpr fun c' hc' ↦ ?_
      obtain rfl := Option.some.inj hc'
      rfl
    · simp
  · refine Outcome.ensures_ret.mpr fun c' hc' ↦ ?_
    obtain rfl := Option.some.inj hc'
    rfl

structure SendFits (c : GenericConnection w) (p : V50.Publish w) (validated : Bool)
    (id : PacketId w) : Prop where
  aliased : c.AliasFits p
  invalid : c.invalidAlias p validated → id ≠ 0
  counted : ¬ c.invalidAlias p validated → c.CountFits
  reached : ¬ c.invalidAlias p validated → c.quotaReached → id ≠ 0

theorem acts_sendV50Publish {validated : Bool} {rel : Option (PacketId w)} {s : Session w}
    (hid : p.packetId = some id) (hu : c.pidMan.isUsedId id)
    (hinv : c'.invalidAlias p validated = c.refusesAlias p)
    (hreached : c'.quotaReached = c.quotaReached)
    (hs : c'.session = s.await (publishAck p.qos) id)
    (hkeep : ¬ c.storesPublish ∧ s = c.session ∨ c.storesPublish ∧ c.session.stored id = none ∧
      ∃ stored : GenericStorePacket w, stored.toPacket.publishOf = some (id, p.qos) ∧
        stored.toPacket.protocolVersion = .v50 ∧ s = c.session.keep id stored) :
    c.Acts (.send (.v50Publish p)) (c'.SendFits p validated id)
      (c'.sendV50Publish p validated rel) := by
  have hpub : (GenericPacket.v50Publish p).publishOf = some (id, p.qos) := by
    simp [GenericPacket.publishOf, hid]
  have hused (c₁ : GenericConnection w) (h₁ : c₁.session = c'.session) : c₁.pidMan.isUsedId id := by
    have hmem : id ∈ c₁.session.used := by
      rw [h₁, hs]
      rcases hkeep with ⟨-, rfl⟩ | ⟨-, -, _, -, -, rfl⟩ <;> exact hu
    exact hmem
  have hwithdraw {c₁ : GenericConnection w} (h₁ : c₁.session = c'.session)
      (hw : c.withdraws (.v50Publish p)) (e : MqttError) :
      c.Acts (.send (.v50Publish p)) (id ≠ 0) (c₁.refuse e (some id)) := by
    refine (refuse_spec e).mono ?_ fun h ↦ h
    rintro r ⟨h0, hs₁, hrep⟩
    refine ⟨h0, ?_⟩
    rw [hs₁, hrep, h₁, hs, if_pos (hused c₁ h₁)]
    exact .publishWithdrawn hpub hw hu hkeep (by simp)
  unfold sendV50Publish
  rw [hid]
  refine (applyTopicAlias_spec validated).bind ?_ fun h h' ↦ h h'.aliased
  rintro ⟨o, c₁⟩ ⟨hfits, hre, hnone, hsame⟩
  dsimp only at hre hnone hsame
  have h₁ : c₁.session = c'.session := by
    rw [hre]
    rfl
  cases o with
  | none =>
    have hinv' := hnone.mp rfl
    have hw : c.withdraws (.v50Publish p) := by simp [withdraws, ← hinv, hinv']
    refine (hwithdraw h₁ hw _).congr ⟨fun h ↦ ⟨hfits, fun _ ↦ h, ?_, ?_⟩, fun h ↦ h.invalid hinv'⟩
    · exact fun h ↦ (h hinv').elim
    · exact fun h ↦ (h hinv').elim
  | some p' =>
    have hinv' : ¬ c'.invalidAlias p validated := fun h ↦ by simpa using hnone.mpr h
    have hcf : c₁.CountFits ↔ c'.CountFits := by
      rw [hre]
      exact Iff.rfl
    have hqr : c₁.quotaReached = c'.quotaReached := by
      rw [hre]
      rfl
    refine (countPublish_spec c₁ id).bind ?_ fun h h' ↦ h (hcf.mpr (h'.counted hinv'))
    rintro r ⟨hcount, hnone', hsome⟩
    cases r with
    | none =>
      have hr := hnone'.mp rfl
      have hw : c.withdraws (.v50Publish p) := by simp [withdraws, ← hreached, ← hqr, hr]
      refine (hwithdraw h₁ hw _).congr ⟨fun h ↦ ⟨hfits, ?_, ?_, ?_⟩, fun h ↦ ?_⟩
      · exact fun h ↦ (hinv' h).elim
      · exact fun _ ↦ hcf.mp hcount
      · exact fun _ _ ↦ h
      · exact h.reached hinv' (hqr ▸ hr)
    | some c₂ =>
      have hr : ¬ c.quotaReached := by
        rw [← hreached, ← hqr]
        exact fun h ↦ by simpa using hnone'.mpr h
      refine (acts_of_change (change_transmit rfl ?_)).congr ?_
      · have hst : ((s.await (publishAck p.qos) id).counted .v50).status = c.status := by
          unfold Session.counted
          rcases hkeep with ⟨-, rfl⟩ | ⟨-, -, _, -, -, rfl⟩ <;> split <;> rfl
        have hsent : (GenericPacket.v50Publish p').publishOf = some (id, p.qos) := by
          obtain ⟨hid', hqos⟩ := hsame p' rfl
          simp [GenericPacket.publishOf, hid', hid, hqos]
        rw [hsome c₂ rfl, h₁, hs, hst]
        refine .published hpub ?_ hu ⟨hsent, rfl⟩ hkeep
        simp only [withdraws, ← hinv, hinv', hr]
        simp
      · refine ⟨fun _ ↦ ⟨hfits, ?_, ?_, ?_⟩, fun _ ↦ trivial⟩
        · exact fun h ↦ (hinv' h).elim
        · exact fun _ ↦ hcf.mp hcount
        · exact fun _ h ↦ (hr (hreached ▸ h)).elim

def StoreFits (c : GenericConnection w) (p : V50.Publish w) (id : PacketId w) : Prop :=
  if p.topicName.isEmpty then
    match (c.validateTopicAlias (V50.topicAliasOf p.props)).1 with
    | none => id ≠ 0
    | some topic => p.StoresTopic topic ∧ c.session.stored id = none
  else p.retainNonAlias.Encodes ∧ c.session.stored id = none

theorem storablePublish_spec (c : GenericConnection w) (p : V50.Publish w) :
    (c.storablePublish p).Spec
      (fun r ↦ Realiased c r.2 ∧ (¬ p.topicName.isEmpty → r.2 = c) ∧
        match r.1 with
        | none => p.topicName.isEmpty ∧
          (c.validateTopicAlias (V50.topicAliasOf p.props)).1 = none
        | some stored => SameId p stored ∧
          (p.topicName.isEmpty → (c.validateTopicAlias (V50.topicAliasOf p.props)).1 ≠ none) ∧
          ∀ id, c.StoreFits p id ↔ c.session.stored id = none)
      (∀ id, ¬ c.StoreFits p id) := by
  unfold storablePublish
  by_cases ht : p.topicName.isEmpty
  · rw [if_pos ht]
    have hre := realiased_validateTopicAlias (c := c) (V50.topicAliasOf p.props)
    cases hval : c.validateTopicAlias (V50.topicAliasOf p.props) with
    | mk topic c' =>
      rw [hval] at hre
      cases topic with
      | none => exact ⟨hre, by simp [ht], ht, rfl⟩
      | some topic =>
        have hfits (id : PacketId w) : c.StoreFits p id ↔
            p.StoresTopic topic ∧ c.session.stored id = none := by
          rw [StoreFits, if_pos ht, hval]
        refine (V50.Publish.removeTopicAliasAddTopic_spec ht topic).bind
          (fun p' ⟨hok, t, _, hp'⟩ ↦ ?_) fun h id hid ↦ h ((hfits id).mp hid).1
        refine ⟨hre, by simp [ht], ?_, by simp, fun id ↦ by simp [hfits, hok]⟩
        rw [hp']
        exact ⟨rfl, rfl⟩
  · rw [if_neg ht]
    have hfits (id : PacketId w) : c.StoreFits p id ↔
        p.retainNonAlias.Encodes ∧ c.session.stored id = none := by
      rw [StoreFits, if_neg ht]
    refine p.removeTopicAlias_spec.bind (fun p' ⟨hok, hp'⟩ ↦ ?_)
      fun h id hid ↦ h ((hfits id).mp hid).1
    refine ⟨rfl, fun _ ↦ rfl, ?_, fun h ↦ (ht h).elim, fun id ↦ by simp [hfits, hok]⟩
    rw [hp']
    exact ⟨rfl, rfl⟩

/-- The conditions under which the handler of a PUBLISH with an identifier does not panic. -/
structure PublishV50Fits (c : GenericConnection w) (p : V50.Publish w) (id : PacketId w) : Prop where
  cannot : c.cannotPublish → id ≠ 0
  stores : ¬ c.cannotPublish → c.pidMan.isUsedId id → c.storesPublish → c.StoreFits p id
  sends : ¬ c.cannotPublish → c.pidMan.isUsedId id →
    (c.storesPublish → p.topicName.isEmpty →
      (c.validateTopicAlias (V50.topicAliasOf p.props)).1 ≠ none) →
    c.AliasFits p ∧ (c.refusesAlias p → id ≠ 0) ∧
      (¬ c.refusesAlias p → c.CountFits ∧ (c.quotaReached → id ≠ 0))

structure SameSending (c c' : GenericConnection w) : Prop where
  status : c'.status = c.status
  autoMap : c'.autoMapTopicAliasSend = c.autoMapTopicAliasSend
  autoReplace : c'.autoReplaceTopicAliasSend = c.autoReplaceTopicAliasSend
  max : c'.publishSendMax = c.publishSendMax
  count : c'.publishSendCount = c.publishSendCount

theorem sameSending_await {kind : AckKind} : SameSending c (c.await kind id) := by
  cases kind <;> exact ⟨rfl, rfl, rfl, rfl, rfl⟩

theorem topicAliasSend_await {kind : AckKind} :
    (c.await kind id).topicAliasSend = c.topicAliasSend := by
  cases kind <;> rfl

theorem validateTopicAliasRange_congr (h : c'.topicAliasSend = c.topicAliasSend) (a : U16) :
    c'.validateTopicAliasRange a = c.validateTopicAliasRange a := by
  unfold validateTopicAliasRange
  rw [h]

theorem validateTopicAlias_congr (h : c'.topicAliasSend = c.topicAliasSend)
    (a : Option (NonZero 65535)) : (c'.validateTopicAlias a).1 = (c.validateTopicAlias a).1 := by
  unfold validateTopicAlias
  simp only [validateTopicAliasRange_congr h]
  rw [h]
  split
  · split <;> rfl
  · rfl

theorem SameSending.quotaReached (h : SameSending c c') : c'.quotaReached = c.quotaReached := by
  unfold GenericConnection.quotaReached
  rw [h.max, h.count]

theorem SameSending.mapsTopic (h : SameSending c c')
    (ha : ¬ p.topicName.isEmpty → c'.topicAliasSend = c.topicAliasSend) :
    c'.mapsTopic p = c.mapsTopic p := by
  unfold GenericConnection.mapsTopic
  rw [h.status, h.autoMap, h.autoReplace]
  by_cases ht : p.topicName.isEmpty
  · simp [ht]
  · rw [ha ht]

theorem SameSending.sendFits {validated : Bool} (h : SameSending c c')
    (ha : ¬ p.topicName.isEmpty → c'.topicAliasSend = c.topicAliasSend)
    (hinv : c'.invalidAlias p validated = c.refusesAlias p) :
    c'.SendFits p validated id ↔ c.AliasFits p ∧ (c.refusesAlias p → id ≠ 0) ∧
      (¬ c.refusesAlias p → c.CountFits ∧ (c.quotaReached → id ≠ 0)) := by
  have hf : c'.AliasFits p ↔ c.AliasFits p := by
    unfold AliasFits
    rw [h.mapsTopic ha]
  have hc : c'.CountFits ↔ c.CountFits := by
    unfold CountFits
    rw [h.max, h.count]
  have hq := h.quotaReached
  constructor
  · rintro ⟨h₁, h₂, h₃, h₄⟩
    rw [hinv] at h₂ h₃ h₄
    exact ⟨hf.mp h₁, h₂, fun hn ↦ ⟨hc.mp (h₃ hn), fun hr ↦ h₄ hn (hq ▸ hr)⟩⟩
  · rintro ⟨h₁, h₂, h₃⟩
    refine ⟨hf.mpr h₁, ?_, ?_, ?_⟩
    · rwa [hinv]
    · rw [hinv]
      exact fun hn ↦ hc.mpr (h₃ hn).1
    · rw [hinv, hq]
      exact fun hn ↦ (h₃ hn).2

theorem acts_sendV50PublishQos0 (hid : p.packetId = none) :
    c.Acts (.send (.v50Publish p)) (c.AliasFits p) (c.sendV50Publish p false none) := by
  unfold sendV50Publish
  rw [hid]
  refine (applyTopicAlias_spec false).bind (fun ⟨o, c₁⟩ ⟨hfits, hre, _, hsame⟩ ↦ ?_) fun h ↦ h
  dsimp only at hre hsame
  have h₁ : c₁.session = c.session := by
    rw [hre]
    rfl
  cases o with
  | none =>
    refine ⟨hfits, ?_⟩
    have : (c₁.reject MqttError.packetNotAllowedToSend).1.session = c.session := h₁
    rw [this]
    exact .refused (.inl rfl) (fun h ↦ h) (by simp [reject]) (by simp [reject])
  | some p' =>
    have hsilent : Silent (.v50Publish p) :=
      ⟨rfl, rfl, by simp [GenericPacket.publishOf, hid], rfl, rfl⟩
    refine ⟨hfits, change_transmit h₁ (.idle hsilent (fun h ↦ h) (fun q hq ↦ ?_) (by simp))⟩
    have hid' : p'.packetId = none := (hsame p' rfl).1.trans hid
    split at hq
    · obtain rfl := List.mem_singleton.mp hq
      exact ⟨rfl, rfl, by simp [GenericPacket.publishOf, hid'], rfl, rfl⟩
    · simp at hq

theorem acts_processSendV50Publish (p : V50.Publish w) :
    c.Acts (.send (.v50Publish p))
      (c.validateMaximumPacketSizeSend p.size →
        (∀ id, p.packetId = some id → c.PublishV50Fits p id) ∧
          (p.packetId = none → c.status = .connected → c.AliasFits p))
      (c.processSendV50Publish p) := by
  unfold processSendV50Publish
  refine acts_limited ?_
  cases hid : p.packetId with
  | none => exact (acts_status fun hc ↦ acts_sendV50PublishQos0 hid).congr (by simp)
  | some id =>
    have hpub : (GenericPacket.v50Publish p).publishOf = some (id, p.qos) := by
      simp [GenericPacket.publishOf, hid]
    suffices h : c.Acts (.send (.v50Publish p)) (c.PublishV50Fits p id) _ from h.congr (by simp)
    by_cases hcannot : c.cannotPublish
    · simp only [hcannot, if_true]
      refine (acts_refusePublish hpub _ rfl).congr ⟨fun h ↦ ⟨fun _ ↦ h, ?_, ?_⟩, fun h ↦ h.cannot hcannot⟩
      · exact fun h ↦ (h hcannot).elim
      · exact fun h ↦ (h hcannot).elim
    simp only [hcannot, Bool.false_eq_true, if_false]
    by_cases hu : c.pidMan.isUsedId id
    swap
    · rw [if_pos hu]
      refine (acts_reject _).congr ⟨fun _ ↦ ⟨fun h ↦ (hcannot h).elim, ?_, ?_⟩, fun _ ↦ trivial⟩
      · exact fun _ h ↦ (hu h).elim
      · exact fun _ h ↦ (hu h).elim
    rw [if_neg (not_not.mpr hu)]
    by_cases hstores : c.storesPublish
    · rw [if_pos hstores]
      refine (storablePublish_spec c p).bind ?_ fun h h' ↦ h id (h'.stores hcannot hu hstores)
      rintro ⟨o, c₁⟩ ⟨hre, heq, ho⟩
      dsimp only at hre heq ho
      have h₁ : c₁.session = c.session := by
        rw [hre]
        rfl
      cases o with
      | none =>
        obtain ⟨ht, hval⟩ := ho
        have hfits : c.StoreFits p id ↔ id ≠ 0 := by rw [StoreFits, if_pos ht, hval]
        refine (acts_refusePublish hpub _ h₁).congr ⟨fun h ↦ ?_, fun h ↦ ?_⟩
        · exact ⟨fun _ ↦ h, fun _ _ _ ↦ hfits.mpr h, fun _ _ h' ↦ (h' hstores ht hval).elim⟩
        · exact hfits.mp (h.stores hcannot hu hstores)
      | some stored =>
        obtain ⟨hsame, hvalid, hfits⟩ := ho
        refine (@storeAdd_spec _ c₁ id (.v50Publish stored) (hsame.1.trans hid)).bind ?_
          (fun h (h' : c.PublishV50Fits p id) ↦ h (h₁ ▸ (hfits id).mp (h'.stores hcannot hu hstores)))
        · rintro c₂ ⟨hnone, heq₂, hs₂⟩
          have hre₂ : (c₂.await (publishAck p.qos) id).topicAliasSend = c₁.topicAliasSend := by
            rw [topicAliasSend_await, heq₂]
          have hsend : SameSending c (c₂.await (publishAck p.qos) id) := by
            have h₂ := @sameSending_await w c₂ id (publishAck p.qos)
            rw [heq₂, hre] at h₂ ⊢
            exact ⟨h₂.status, h₂.autoMap, h₂.autoReplace, h₂.max, h₂.count⟩
          have ha : ¬ p.topicName.isEmpty →
              (c₂.await (publishAck p.qos) id).topicAliasSend = c.topicAliasSend := fun ht ↦ by
            rw [hre₂, heq ht]
          have hinv : (c₂.await (publishAck p.qos) id).invalidAlias p p.topicName.isEmpty =
              c.refusesAlias p := by
            unfold invalidAlias refusesAlias
            by_cases ht : p.topicName.isEmpty
            · simp [ht, hstores]
            · simp only [ht, Bool.false_eq_true, if_false, validateTopicAliasRange_congr (ha ht)]
          refine (acts_sendV50Publish (s := c.session.keep id _) hid hu hinv hsend.quotaReached
            (session_await.trans (by rw [hs₂, h₁])) (.inr ⟨hstores, h₁ ▸ hnone,
              .v50Publish stored, ?_, rfl, rfl⟩)).congr ?_
          · simp [GenericStorePacket.toPacket, GenericPacket.publishOf, hsame.1, hsame.2, hid]
          · rw [hsend.sendFits ha hinv]
            refine ⟨fun h ↦ ⟨fun h' ↦ (hcannot h').elim, fun _ _ _ ↦ (hfits id).mpr (h₁ ▸ hnone), ?_⟩,
              fun h ↦ h.sends hcannot hu fun _ ↦ hvalid⟩
            exact fun _ _ _ ↦ h
    · rw [if_neg hstores]
      have ha : (c.await (publishAck p.qos) id).topicAliasSend = c.topicAliasSend := topicAliasSend_await
      have hsend := @sameSending_await w c id (publishAck p.qos)
      have hinv : (c.await (publishAck p.qos) id).invalidAlias p false = c.refusesAlias p := by
        unfold invalidAlias refusesAlias
        simp only [validateTopicAliasRange_congr ha, validateTopicAlias_congr ha, hstores]
      refine (acts_sendV50Publish hid hu hinv hsend.quotaReached session_await
        (.inl ⟨hstores, rfl⟩)).congr ?_
      rw [hsend.sendFits (fun _ ↦ ha) hinv]
      refine ⟨fun h ↦ ⟨fun h' ↦ (hcannot h').elim, fun _ _ h' ↦ (hstores h').elim, ?_⟩, fun h ↦ ?_⟩
      · exact fun _ _ _ ↦ h
      · exact h.sends hcannot hu fun h' ↦ (hstores h').elim

end PublishV50

/-- The conditions under which the handler of a packet to send does not panic. -/
def SendSafe (c : GenericConnection w) : GenericPacket w → Prop
  | .v311Connack p => actsAsServer c.role → c.status = .connecting → p.returnCode = .accepted →
      c.CanResend c.maximumPacketSizeSend
  | .v50Connack p => actsAsServer c.role → c.validateMaximumPacketSizeSend p.size →
      c.status = .connecting → p.reasonCode = .success → c.CanResend c.maximumPacketSizeSend
  | .v311Publish p => ∀ id, p.packetId = some id → c.PublishFits id
  | .v50Publish p => c.validateMaximumPacketSizeSend p.size →
      (∀ id, p.packetId = some id → c.PublishV50Fits p id) ∧
        (p.packetId = none → c.status = .connected → c.AliasFits p)
  | .v311Pubrel p => c.PubrelFits p.packetId
  | .v50Pubrel p => c.validateMaximumPacketSizeSend p.size → c.PubrelFits p.packetId
  | .v311Subscribe p => actsAsClient c.role → c.status ≠ .connected → p.packetId ≠ 0
  | .v50Subscribe p => actsAsClient c.role → c.validateMaximumPacketSizeSend p.size →
      c.status ≠ .connected → p.packetId ≠ 0
  | .v311Unsubscribe p => actsAsClient c.role → c.status ≠ .connected → p.packetId ≠ 0
  | .v50Unsubscribe p => actsAsClient c.role → c.validateMaximumPacketSizeSend p.size →
      c.status ≠ .connected → p.packetId ≠ 0
  | _ => True

theorem acts_processSend (packet : GenericPacket w) :
    c.Acts (.send packet) (c.SendSafe packet) (c.processSend packet) := by
  cases packet with
  | v311Connect p => exact (acts_guard fun _ ↦ acts_sendV311Connect p).always
  | v50Connect p => exact (acts_guard fun _ ↦ acts_sendV50Connect p).always
  | v311Connack p => exact acts_guard fun _ ↦ acts_sendV311Connack p
  | v50Connack p => exact acts_guard fun _ ↦ acts_sendV50Connack p
  | v311Publish p => exact acts_sendV311Publish p
  | v50Publish p => exact acts_processSendV50Publish p
  | v311Puback p => exact acts_sendAck rfl (by simp [failsPubrec, pubrecReasonOf])
  | v50Puback p => exact acts_sendV50Answer rfl (by simp [failsPubrec, pubrecReasonOf]) rfl
  | v311Pubrec p => exact acts_sendV311Pubrec p
  | v50Pubrec p => exact acts_sendV50Pubrec p
  | v311Pubrel p => exact @acts_sendPubrel w c p.packetId (.v311Pubrel p) rfl rfl
  | v50Pubrel p => exact acts_limited (@acts_sendPubrel w c p.packetId (.v50Pubrel p) rfl rfl)
  | v311Pubcomp p => exact acts_sendAck rfl (by simp [failsPubrec, pubrecReasonOf])
  | v50Pubcomp p => exact acts_sendV50Answer rfl (by simp [failsPubrec, pubrecReasonOf]) rfl
  | v311Subscribe p => exact acts_guard fun _ ↦ acts_sendSubscription rfl
  | v50Subscribe p => exact acts_guard fun _ ↦ acts_limited (acts_sendSubscription rfl)
  | v311Unsubscribe p => exact acts_guard fun _ ↦ acts_sendSubscription rfl
  | v50Unsubscribe p => exact acts_guard fun _ ↦ acts_limited (acts_sendSubscription rfl)
  | v311Suback p =>
    exact (acts_guard fun _ ↦ acts_sendAck rfl (by simp [failsPubrec, pubrecReasonOf])).always
  | v50Suback p =>
    exact (acts_guard fun _ ↦
      (acts_limited (acts_sendAck rfl (by simp [failsPubrec, pubrecReasonOf]))).always).always
  | v311Unsuback p =>
    exact (acts_guard fun _ ↦ acts_sendAck rfl (by simp [failsPubrec, pubrecReasonOf])).always
  | v50Unsuback p =>
    exact (acts_guard fun _ ↦
      (acts_limited (acts_sendAck rfl (by simp [failsPubrec, pubrecReasonOf]))).always).always
  | v311Pingreq p => exact (acts_guard fun _ ↦ acts_sendPingreq ⟨rfl, rfl, rfl, rfl, rfl⟩).always
  | v50Pingreq p =>
    exact (acts_guard fun _ ↦
      (acts_limited (acts_sendPingreq ⟨rfl, rfl, rfl, rfl, rfl⟩)).always).always
  | v311Pingresp p => exact (acts_guard fun _ ↦ acts_sendConnected ⟨rfl, rfl, rfl, rfl, rfl⟩).always
  | v50Pingresp p =>
    exact (acts_guard fun _ ↦
      (acts_limited (acts_sendConnected ⟨rfl, rfl, rfl, rfl, rfl⟩)).always).always
  | v311Disconnect p =>
    exact (acts_guard fun _ ↦ acts_sendDisconnect ⟨rfl, rfl, rfl, rfl, rfl⟩).always
  | v50Disconnect p => exact (acts_limited (acts_sendDisconnect (silent_disconnect p))).always
  | v50Auth p => exact acts_sendV50Auth p

theorem acts_send (packet : GenericPacket w) :
    c.Acts (.send packet) (c.protocolVersion = packet.protocolVersion → c.SendSafe packet)
      (c.send packet) := by
  unfold send
  by_cases hv : c.protocolVersion = packet.protocolVersion
  · rw [if_neg (not_not.mpr hv)]
    exact (acts_processSend packet).congr (by simp [hv])
  · rw [if_pos hv]
    exact (acts_reject _).congr (by simp [hv])

end MqttProtocolCore.Connection.GenericConnection
