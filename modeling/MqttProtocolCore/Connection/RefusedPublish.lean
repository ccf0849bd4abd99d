import MqttProtocolCore.Connection.AliasUse
import MqttProtocolCore.Connection.ClientRun
import MqttProtocolCore.Connection.FlowControl
import MqttProtocolCore.Connection.Restoring
import MqttProtocolCore.Connection.Ticks

namespace MqttProtocolCore.Connection.GenericConnection

open General Packet

variable {w : IdWidth} {c c' c'' : GenericConnection w} {p : V50.Publish w} {id : PacketId w}
  {o : Option (PacketId w)} {r : Handled w} {validated : Bool}

def FreesOwn (c : GenericConnection w) (o : Option (PacketId w)) (r : Handled w) : Prop :=
  r.1.pidMan = c.pidMan ∧ released r.2 = [] ∨
    ∃ id, o = some id ∧ c.pidMan.releaseId id = .ret r.1.pidMan ∧ released r.2 = [id]

/-- An error is reported, and nothing differs but that the identifier may have been released. -/
structure GivesUp (c : GenericConnection w) (o : Option (PacketId w)) (r : Handled w) : Prop where
  frame : r.1 = { c with pidMan := r.1.pidMan }
  frees : FreesOwn c o r
  timers : ∀ e ∈ r.2, ¬ isTimer e

/-- Nothing differs but that the identifier may have been released, and when an alias was used. -/
structure LeavesAlone (c : GenericConnection w) (o : Option (PacketId w)) (r : Handled w) :
    Prop where
  frame : r.1 = { c with pidMan := r.1.pidMan, topicAliasSend := r.1.topicAliasSend }
  bindings : ∀ a, r.1.boundTopic a = c.boundTopic a
  frees : FreesOwn c o r
  timers : ∀ e ∈ r.2, ¬ isTimer e

/-- The alias for the topic of a PUBLISH stands for another topic, or for none. -/
def Rebinds (c : GenericConnection w) (p : V50.Publish w) : Prop :=
  ¬ p.topicName.isEmpty ∧ match aliasOf p with
    | some a => c.boundTopic a ≠ some p.topicName.asStr
    | none => c.mapsTopic p ∧ ∀ a, c.boundTopic a ≠ some p.topicName.asStr

/-- A PUBLISH is given up after it was stored, after its identifier was noted as awaited, or after
its topic was bound to an alias. -/
structure LeavesTrace (c : GenericConnection w) (p : V50.Publish w) (id : PacketId w) : Prop where
  packetId : p.packetId = some id
  taken : c.takesPublish p id
  withdrawn : c.withdraws (.v50Publish p)
  trace : c.storesPublish ∨ id ∉ c.awaiting (publishAck p.qos) ∨ ¬ c.refusesAlias p ∧ c.Rebinds p

theorem givesUp_reject (e : MqttError) : GivesUp c o (c.reject e) :=
  ⟨rfl, .inl ⟨rfl, rfl⟩, by simp [reject, isTimer]⟩

theorem givesUp_refuse (e : MqttError) : (c.refuse e o).Ensures (GivesUp c o) := by
  cases o with
  | none => exact Outcome.ensures_ret.mpr (givesUp_reject e)
  | some id =>
    intro r hr
    obtain ⟨r', hr', hret⟩ := Outcome.bind_eq_ret.mp hr
    obtain rfl := Outcome.ret.inj hret
    unfold releaseIfUsed at hr'
    split at hr'
    · obtain ⟨man, hman, hret'⟩ := Outcome.bind_eq_ret.mp hr'
      obtain rfl := Outcome.ret.inj hret'
      exact ⟨rfl, .inr ⟨id, rfl, hman, rfl⟩, by simp [isTimer]⟩
    · obtain rfl := Outcome.ret.inj hr'
      exact ⟨rfl, .inl ⟨rfl, rfl⟩, by simp [isTimer]⟩

theorem GivesUp.realiased (h : GivesUp c' o r) (hre : Realiased c c')
    (hb : ∀ a, c'.boundTopic a = c.boundTopic a) : LeavesAlone c o r where
  frame := by
    rw [h.frame, hre]
  bindings := by
    intro a
    rw [← hb a, h.frame]
    rfl
  frees := by
    have hman : c'.pidMan = c.pidMan := by rw [hre]
    have hfrees := h.frees
    unfold FreesOwn at *
    rwa [hman] at hfrees
  timers := h.timers

theorem GivesUp.leavesAlone (h : GivesUp c o r) : LeavesAlone c o r :=
  h.realiased rfl fun _ ↦ rfl

inductive Halts (c : GenericConnection w) (p : V50.Publish w) (validated : Bool) (r : Handled w) :
    Prop where
  | invalid : c.invalidAlias p validated → GivesUp c p.packetId r → Halts c p validated r
  | quota {q : V50.Publish w} {c' : GenericConnection w} : ¬ c.invalidAlias p validated →
      AliasCase c p validated (some q, c') → p.packetId.isSome → c.quotaReached →
      GivesUp c' p.packetId r → Halts c p validated r

theorem AliasCase.frame {x : Option (V50.Publish w) × GenericConnection w}
    (h : AliasCase c p validated x) : x.2 = { c with topicAliasSend := x.2.topicAliasSend } := by
  cases h <;> rfl

theorem sendV50Publish_halts {rel : Option (PacketId w)} :
    (c.sendV50Publish p validated rel).Ensures fun r ↦
      errors r.2 ≠ [] → Halts c p validated r := by
  intro r hr herr
  obtain ⟨⟨x, c'⟩, hx, hr⟩ := Outcome.bind_eq_ret.mp hr
  have hcase := applyTopicAlias_cases _ hx
  have hinv := ((applyTopicAlias_spec validated).of_ret hx).2.2.1
  cases x with
  | none => 
    cases hcase with
    | invalid h => exact .invalid h (givesUp_refuse _ r hr)
  | some q =>
    have hframe : c' = { c with topicAliasSend := c'.topicAliasSend } := hcase.frame
    have hvalid : ¬ c.invalidAlias p validated := fun h ↦ by simpa using hinv.mpr h
    obtain ⟨y, hy, hr⟩ := Outcome.bind_eq_ret.mp hr
    cases y with
    | none =>
      cases hid : p.packetId with
      | none =>
        rw [hid] at hy
        cases hy
      | some id =>
        rw [hid] at hy
        have hquota : c'.quotaReached := ((c'.countPublish_spec id).of_ret hy).2.1.mp rfl
        rw [hframe] at hquota
        exact .quota hvalid hcase (by simp [hid]) hquota (givesUp_refuse _ r hr)
    | some c'' =>
      obtain rfl := Outcome.ret.inj hr
      have hquiet : errors (c''.transmit (.v50Publish q) rel).2 = [] := by
        unfold transmit
        split <;> simp
      exact (herr hquiet).elim

theorem findByTopic_eq_none {s : TopicAliasSend} {topic : Utf8String}
    (h : s.findByTopic topic = none) (a : U16) : s.peek a ≠ some topic := by
  intro ha
  rw [TopicAliasSend.peek_eq, ← s.inverse topic a] at ha
  obtain ⟨aliases, haliases, hmem⟩ := ha
  unfold TopicAliasSend.findByTopic at h
  rw [haliases] at h
  cases aliases with
  | nil => cases hmem
  | cons b aliases => cases h

/-- A PUBLISH whose alias is settled leaves what the aliases stand for exactly when it does not
bind its topic anew. -/
theorem AliasCase.bindings {q : V50.Publish w} (h : AliasCase c p validated (some q, c')) :
    (∀ a, c'.boundTopic a = c.boundTopic a) ↔ ¬ c.Rebinds p := by
  have hinsert {s s' : TopicAliasSend} {a : U16} (hs : c.topicAliasSend = some s)
      (hi : s.insertOrUpdate p.topicName.asStr a = .ret s') :
      (∀ b, { c with topicAliasSend := some s' }.boundTopic b = c.boundTopic b) ↔
        c.boundTopic a = some p.topicName.asStr := by
    have hpeek := (TopicAliasSend.insertOrUpdate_spec.of_ret hi).2.2
    constructor
    · intro hsame
      rw [← hsame a]
      simp [boundTopic, hpeek]
    · intro hbound b
      simp only [boundTopic, hs, Option.bind_some, hpeek] at hbound ⊢
      split
      · rename_i hb
        rw [hb, hbound]
      · rfl
  cases h with
  | validated ht => simp [Rebinds, ht]
  | @touched a s ht _ _ hs =>
    have hsame (b : U16) : { c with topicAliasSend := some (s.get a).2 }.boundTopic b =
        c.boundTopic b := by
      simp only [boundTopic, hs, Option.bind_some]
      exact TopicAliasSend.get_snd.2
    simp [Rebinds, ht, hsame]
  | registered ht ha hs hi =>
    rw [hinsert hs hi]
    simp [Rebinds, ht, ha]
  | @found a s _ hmaps hs hf =>
    have hbound : c.boundTopic a = some p.topicName.asStr := by
      simp only [boundTopic, hs, Option.bind_some]
      exact TopicAliasSend.findByTopic_spec hf
    obtain ⟨-, hnone, -⟩ := mapsTopic_iff.mp hmaps
    have ha : aliasOf p = none := by simp [aliasOf, hnone]
    simp only [implies_true, true_iff]
    intro hre
    have hre' := hre.2
    rw [ha] at hre'
    exact hre'.2 a hbound
  | @bound a s s' _ hmaps hs hf _ hi =>
    rw [hinsert hs hi]
    obtain ⟨ht, hnone, -⟩ := mapsTopic_iff.mp hmaps
    have ha : aliasOf p = none := by simp [aliasOf, hnone]
    have hunbound (b : U16) : c.boundTopic b ≠ some p.topicName.asStr := by
      simp only [boundTopic, hs, Option.bind_some]
      exact findByTopic_eq_none hf b
    refine ⟨fun h ↦ (hunbound a h).elim, fun h ↦ (h ⟨ht, ?_⟩).elim⟩
    rw [ha]
    exact ⟨hmaps, hunbound⟩
  | plain ht ha hmaps =>
    simp only [implies_true, true_iff]
    intro hre
    have hre' := hre.2
    rw [ha] at hre'
    exact hmaps hre'.1

theorem await_of_mem {kind : AckKind} (h : id ∈ c.awaiting kind) : c.await kind id = c := by
  unfold await
  rw [HashSet.insert_of_mem h]
  cases kind <;> rfl

/-- A PUBLISH that is given up when its identifier is awaited leaves the state alone when the
identifier was awaited before, and no alias stands for another topic. -/
theorem leavesAlone_iff {kind : AckKind}
    (hframe : c' = { c.await kind id with topicAliasSend := c'.topicAliasSend })
    (h : GivesUp c' o r) : LeavesAlone c o r ↔
      id ∈ c.awaiting kind ∧ ∀ a, c'.boundTopic a = c.boundTopic a := by
  have hbound (a : U16) : r.1.boundTopic a = c'.boundTopic a := by
    rw [h.frame]
    rfl
  constructor
  · intro hl
    refine ⟨?_, fun a ↦ (hbound a).symm.trans (hl.bindings a)⟩
    have hawaiting : r.1.awaiting kind = (c.await kind id).awaiting kind := by
      rw [h.frame, hframe]
      cases kind <;> rfl
    have hsame : r.1.awaiting kind = c.awaiting kind := by
      rw [hl.frame]
      cases kind <;> rfl
    rw [← hsame, hawaiting]
    exact mem_awaiting_await.mpr (.inl ⟨rfl, rfl⟩)
  · intro ⟨hid, hb⟩
    rw [await_of_mem hid] at hframe
    exact h.realiased hframe hb

theorem boundTopic_congr (h : c'.topicAliasSend = c.topicAliasSend) :
    c'.boundTopic = c.boundTopic := by
  unfold boundTopic
  rw [h]

theorem rebinds_await {kind : AckKind} : (c.await kind id).Rebinds p ↔ c.Rebinds p := by
  cases kind <;> exact Iff.rfl

/-- What is not stored and given up leaves no trace when its identifier was awaited before. -/
theorem leavesAlone_unstored (hid : p.packetId = some id) (hstores : ¬ c.storesPublish)
    (htaken : c.takesPublish p id) (h : Halts (c.await (publishAck p.qos) id) p false r) :
    LeavesAlone c p.packetId r ↔ ¬ ∃ id, c.LeavesTrace p id := by
  have ha := @topicAliasSend_await w c id (publishAck p.qos)
  have hinvalid : (c.await (publishAck p.qos) id).invalidAlias p false = c.refusesAlias p := by
    unfold invalidAlias refusesAlias
    simp only [validateTopicAlias_congr ha, validateTopicAliasRange_congr ha, hstores]
  have htrace : (∃ u, c.LeavesTrace p u) ↔ c.withdraws (.v50Publish p) ∧
      (id ∉ c.awaiting (publishAck p.qos) ∨ ¬ c.refusesAlias p ∧ c.Rebinds p) := by
    constructor
    · intro ⟨u, hu⟩
      obtain rfl := Option.some.inj (hu.packetId.symm.trans hid)
      exact ⟨hu.withdrawn, hu.trace.resolve_left hstores⟩
    · intro ⟨hw, ht⟩
      exact ⟨id, hid, htaken, hw, .inr ht⟩
  rw [htrace]
  cases h with
  | invalid hinv hg =>
    rw [hinvalid] at hinv
    rw [leavesAlone_iff rfl hg, boundTopic_congr ha]
    simp [withdraws, hinv]
  | @quota q c' hvalid hcase _ hq hg =>
    rw [hinvalid] at hvalid
    have hquota : c.quotaReached := by
      have hsame := @sameSending_await w c id (publishAck p.qos)
      simpa [quotaReached, hsame.max, hsame.count] using hq
    have hb := hcase.bindings
    rw [rebinds_await, boundTopic_congr ha] at hb
    rw [leavesAlone_iff hcase.frame hg, hb]
    simp [withdraws, hvalid, hquota]

theorem leavesTrace_stored {stored : V50.Publish w} {c₁ c₂ : GenericConnection w}
    (hid : p.packetId = some id) (hsize : c.validateMaximumPacketSizeSend p.size)
    (hcan : ¬ c.cannotPublish) (hused : c.pidMan.isUsedId id) (hstores : c.storesPublish)
    (hstored : c.storablePublish p = .ret (some stored, c₁))
    (hadd : c₁.storeAdd (.v50Publish stored) = .ret c₂)
    (h : Halts (c₂.await (publishAck p.qos) id) p p.topicName.isEmpty r) :
    ¬ LeavesAlone c p.packetId r ∧ c.LeavesTrace p id := by
  obtain ⟨hre, hsame, hsid, hval, -⟩ := (storablePublish_spec c p).of_ret hstored
  have hre : c₁ = { c with topicAliasSend := c₁.topicAliasSend } := hre
  have hsid' : (GenericStorePacket.v50Publish stored).packetId = some id := hsid.1.trans hid
  obtain ⟨hfree, hframe₂, hkeep⟩ := (storeAdd_spec hsid').of_ret hadd
  have hstore₁ : c₁.store = c.store := by rw [hre]
  have ha := @topicAliasSend_await w c₂ id (publishAck p.qos)
  have hsend := @sameSending_await w c₂ id (publishAck p.qos)
  have halias : (c₂.await (publishAck p.qos) id).topicAliasSend = c₁.topicAliasSend := by
    rw [ha, hframe₂]
  have hkept {c' : GenericConnection w} (hg : GivesUp c' p.packetId r)
      (hframe : c' = { c₂.await (publishAck p.qos) id with topicAliasSend := c'.topicAliasSend }) :
      ¬ LeavesAlone c p.packetId r := by
    intro hl
    have hstore : r.1.store = c₂.store := by
      rw [hg.frame, hframe]
      exact store_await
    have hfree' : c.session.stored id = none := by
      have hsess : c₁.session.stored = c.session.stored := congrArg GenericStore.get hstore₁
      rwa [hsess] at hfree
    have hsome : c₂.session.stored id = some (.v50Publish stored) := by
      rw [hkeep]
      simp [Session.keep]
    have hget : c₂.session.stored = c.session.stored := by
      have hsame' : r.1.store = c.store := by rw [hl.frame]
      exact congrArg GenericStore.get (hstore.symm.trans hsame')
    rw [hget, hfree'] at hsome
    cases hsome
  have htaken : c.takesPublish p id := ⟨hsize, hcan, hused, fun h ↦ hval h.2.1 h.2.2⟩
  have htrace (hw : c.withdraws (.v50Publish p)) : c.LeavesTrace p id :=
    ⟨hid, htaken, hw, .inl hstores⟩
  cases h with
  | invalid hinv hg =>
    refine ⟨hkept hg rfl, htrace ?_⟩
    have ht : ¬ p.topicName.isEmpty := fun ht ↦ by simp [invalidAlias, ht] at hinv
    obtain rfl := hsame ht
    have hrefuses : c₁.refusesAlias p := by
      simpa only [invalidAlias, refusesAlias, if_neg ht,
        validateTopicAliasRange_congr halias] using hinv
    simp [withdraws, hrefuses]
  | quota hvalid hcase _ hq hg =>
    refine ⟨hkept hg hcase.frame, htrace ?_⟩
    have hquota : c.quotaReached := by
      have hmax : c₂.publishSendMax = c.publishSendMax := by rw [hframe₂, hre]
      have hcount : c₂.publishSendCount = c.publishSendCount := by rw [hframe₂, hre]
      simpa [quotaReached, hsend.max, hsend.count, hmax, hcount] using hq
    simp [withdraws, hquota]

/-- A PUBLISH that is refused changes nothing, unless it is given up after it was stored, awaited or
bound to an alias. -/
theorem refusal_leaves_alone (hv : c.protocolVersion = .v50) : (c.send (.v50Publish p)).Ensures fun r ↦
    errors r.2 ≠ [] → (LeavesAlone c p.packetId r ↔ ¬ ∃ id, c.LeavesTrace p id) := by
  have hnottaken (h : ∀ id, p.packetId = some id → ¬ c.takesPublish p id) :
      ¬ ∃ id, c.LeavesTrace p id := fun ⟨id, hl⟩ ↦ h id hl.packetId hl.taken
  have hreject {e : MqttError} (hno : ¬ ∃ id, c.LeavesTrace p id) :
      (Outcome.ret (c.reject e)).Ensures fun r ↦
        errors r.2 ≠ [] → (LeavesAlone c p.packetId r ↔ ¬ ∃ id, c.LeavesTrace p id) :=
    Outcome.ensures_ret.mpr fun _ ↦ iff_of_true (givesUp_reject e).leavesAlone hno
  have hrefuse {e : MqttError} (hno : ¬ ∃ id, c.LeavesTrace p id) :
      (c.refuse e p.packetId).Ensures fun r ↦
        errors r.2 ≠ [] → (LeavesAlone c p.packetId r ↔ ¬ ∃ id, c.LeavesTrace p id) :=
    (givesUp_refuse e).mono fun r hr _ ↦ iff_of_true hr.leavesAlone hno
  unfold send
  rw [if_neg (by simp [hv, GenericPacket.protocolVersion])]
  change (c.processSendV50Publish p).Ensures _
  unfold processSendV50Publish limited
  split
  swap
  · rename_i hsize
    exact hreject (hnottaken fun id _ h ↦ hsize h.1)
  rename_i hsize
  cases hid : p.packetId with
  | none =>
    have hno : ¬ ∃ id, c.LeavesTrace p id := hnottaken (by simp [hid])
    dsimp only
    split
    · exact hid ▸ hreject hno
    · refine sendV50Publish_halts.mono fun r hr herr ↦ ?_
      cases hr herr with
      | invalid _ hg => exact hid ▸ iff_of_true hg.leavesAlone hno
      | quota _ _ hsome => simp [hid] at hsome
  | some id =>
    rw [hid] at hrefuse
    dsimp only
    split
    · rename_i hcan
      exact hrefuse (hnottaken fun u _ h ↦ h.2.1 hcan)
    rename_i hcan
    split
    · rename_i hused
      refine hid ▸ hreject (hnottaken fun u hu h ↦ ?_)
      obtain rfl := Option.some.inj (hid.symm.trans hu)
      exact hused h.2.2.1
    rename_i hused
    have hused' : c.pidMan.isUsedId id := not_not.mp hused
    split
    · rename_i hstores
      intro r hr herr
      obtain ⟨⟨x, c₁⟩, hx, hr⟩ := Outcome.bind_eq_ret.mp hr
      cases x with
      | none =>
        obtain ⟨hre, -, ht, hnone⟩ := (storablePublish_spec c p).of_ret hx
        have hg : GivesUp c₁ (some id) r := givesUp_refuse _ r hr
        refine iff_of_true (hg.realiased hre (boundTopic_storablePublish hx)) ?_
        exact hnottaken fun u _ h ↦ h.2.2.2 ⟨hstores, ht, hnone⟩
      | some stored =>
        obtain ⟨c₂, hadd, hr⟩ := Outcome.bind_eq_ret.mp hr
        have hhalts := sendV50Publish_halts r hr herr
        obtain ⟨hno, htrace⟩ :=
          leavesTrace_stored hid hsize hcan hused' hstores hx hadd hhalts
        exact iff_of_false (hid ▸ hno) (not_not.mpr ⟨id, htrace⟩)
    · rename_i hstores
      have htaken : c.takesPublish p id := ⟨hsize, hcan, hused', fun h ↦ hstores h.1⟩
      exact sendV50Publish_halts.mono fun r hr herr ↦
        hid ▸ leavesAlone_unstored hid hstores htaken (hr herr)

theorem refusal_leaves_alone_offline : ∃ (c : GenericConnection .u16) (p : V50.Publish .u16)
    (r : Handled .u16), Reachable (system .u16) c ∧ c.send (.v50Publish p) = .ret r ∧
      errors r.2 ≠ [] ∧ LeavesAlone c p.packetId r := by
  obtain ⟨p, _, hcannot, r, hr, herr⟩ :
      (V50.Publish.parse (w := .u16) 2 [0, 1, 0x61, 0, 1, 0]).unwrap.Attains fun p ↦
        (new .client .u16 .v50).cannotPublish ∧
        ((new .client .u16 .v50).send (.v50Publish p.1)).Attains fun r ↦ errors r.2 ≠ [] := by
    decide +kernel
  have hno : ¬ ∃ id, (new .client .u16 .v50).LeavesTrace p.1 id :=
    fun ⟨_, h⟩ ↦ h.taken.2.1 hcannot
  exact ⟨_, _, r, .init ⟨.client, .v50, rfl⟩, hr, herr,
    (refusal_leaves_alone rfl r hr herr).mpr hno⟩

/-- A PUBLISH that exceeds the receive maximum of the peer stays in the store, while its identifier
is released. -/
theorem refused_publish_stored : ¬ ∀ (c : GenericConnection .u16) (p : V50.Publish .u16),
    Reachable (system .u16) c → c.protocolVersion = .v50 → (c.send (.v50Publish p)).Ensures fun r ↦
      errors r.2 ≠ [] → LeavesAlone c p.packetId r := by
  intro h
  obtain ⟨q, _, q', _, ⟨trace, c⟩, hrun, hv, r, hr, herr, hstore⟩ :
      (V50.Publish.parse (w := .u16) 2 [0, 1, 0x61, 0, 1, 0]).unwrap.Attains fun q ↦
        (V50.Publish.parse (w := .u16) 2 [0, 1, 0x61, 0, 2, 0]).unwrap.Attains fun q' ↦
        (clientRun .v50 0 0 [5, 0x11, 0, 0, 0, 10] []
          [.recv [0x20, 6, 0, 0, 3, 0x21, 0, 1], .acquirePacketId, .send (.v50Publish q.1),
            .acquirePacketId]).Attains fun r ↦ r.2.protocolVersion = .v50 ∧
          (r.2.send (.v50Publish q'.1)).Attains fun r' ↦
            errors r'.2 ≠ [] ∧ r'.1.store ≠ r.2.store := by
    decide +kernel
  have hreach : Reachable (system .u16) c := (run_of_clientRun hrun).reachable
  have hkept := (h c q'.1 hreach hv r hr herr).frame
  apply hstore
  rw [hkept]

end MqttProtocolCore.Connection.GenericConnection
