import MqttProtocolCore.Connection.AliasResolution
import MqttProtocolCore.Connection.Fate
import MqttProtocolCore.General.Dictionary

namespace MqttProtocolCore.Connection.GenericConnection

open General Packet AliasHistory

variable {w : IdWidth} {c c' : GenericConnection w} {h : AliasHistory} {p q : V50.Publish w}
  {validated : Bool} {r : Handled w} {id : PacketId w} {t : Utf8String}
  {word : Word U16 Utf8String}

def wordOf (p : V50.Publish w) : Option (Word U16 Utf8String) :=
  match aliasOf p with
  | none => if p.topicName.isEmpty then none else some (.plain p.topicName.asStr)
  | some a => if p.topicName.isEmpty then some (.refer a) else some (.define a p.topicName.asStr)

section Receiver

/-- The history of the receiver takes a PUBLISH as a word, when its alias is in the range. -/
theorem topicOf_word (hword : wordOf p = some word) (hle : ∀ a, aliasOf p = some a → a ≤ h.max) :
    h.topicOf p = word.meaning h.topics ∧ (h.told p).topics = word.learn h.topics ∧
      (h.told p).max = h.max := by
  unfold wordOf at hword
  unfold topicOf told
  cases ha : V50.topicAliasOf p.props with
  | none =>
    have hnone : aliasOf p = none := by simp [aliasOf, ha]
    rw [hnone] at hword
    by_cases he : p.topicName.isEmpty
    · simp [he] at hword
    · dsimp only at hword ⊢
      rw [if_neg he] at hword ⊢
      obtain rfl := Option.some.inj hword
      exact ⟨rfl, rfl, rfl⟩
  | some a =>
    have hsome : aliasOf p = some a.val := by simp [aliasOf, ha]
    have hlt : ¬ h.max < a.val := Fin.not_lt.mpr (hle a hsome)
    rw [hsome] at hword
    dsimp only at hword ⊢
    by_cases he : p.topicName.isEmpty
    · simp only [he, if_true] at hword
      obtain rfl := Option.some.inj hword
      rw [if_neg hlt, if_pos he, if_pos (.inl he)]
      exact ⟨rfl, rfl, rfl⟩
    · simp only [he] at hword
      obtain rfl := Option.some.inj hword
      rw [if_neg hlt, if_neg he, if_neg (not_or.mpr ⟨he, hlt⟩)]
      exact ⟨rfl, rfl, rfl⟩

/-- A PUBLISH whose topic is known in the history is known to the receiver. -/
theorem Describes.resolves (hd : h.Describes c.topicAliasRecv) (ht : h.topicOf p = some t)
    (hname : p.topicName.isEmpty → V50.Publish.IsTopicName t) : c.Resolves p := by
  unfold topicOf at ht
  unfold Resolves
  cases ha : V50.topicAliasOf p.props with
  | none =>
    rw [ha] at ht
    by_cases he : p.topicName.isEmpty
    · simp [he] at ht
    · rw [if_neg he]
      simp
  | some a =>
    rw [ha] at ht
    dsimp only at ht
    by_cases hlt : h.max < a
    · simp [hlt] at ht
    · have hvalid := (hd.valid a).mpr (Fin.not_lt.mp hlt)
      rw [if_neg hlt] at ht
      by_cases he : p.topicName.isEmpty
      · rw [if_pos he] at ht ⊢
        refine ⟨t, ?_, hname he⟩
        unfold recvTopic
        rw [ha]
        simpa [hvalid] using (hd.topics a).trans ht
      · rw [if_neg he]
        rintro b hb
        obtain rfl := Option.some.inj hb
        exact hvalid

def Repeats (c : GenericConnection w) (p : V50.Publish w) : Prop :=
  p.qos = .exactlyOnce ∧ ∃ id, p.packetId = some id ∧ id ∈ c.qos2PublishHandled

theorem admitPublish_repeats : (c.admitPublish p).Ensures fun o ↦
    ∀ a ∈ o, (a.1.alreadyHandled ↔ c.Repeats p) := by
  have hsome : p.packetId.isSome ↔ p.qos ≠ .atMostOnce := p.id.2
  unfold admitPublish
  cases hq : p.qos with
  | atMostOnce => exact Outcome.ensures_ret.mpr (by simp [Repeats, hq])
  | _ =>
    obtain ⟨id, hid⟩ := Option.isSome_iff_exists.mp (hsome.mpr (by simp [hq]))
    simp only [hid]
    split <;> exact Outcome.ensures_ret.mpr (by simp [Repeats, hq, hid])

theorem errors_respond {answer : Answer} {o : Option (PacketId w)} :
    (c.respond answer o).Ensures fun r ↦ .topicAliasInvalid ∉ errors r.2 := by
  have hanswered {c' : GenericConnection w} {size : ℕ} {packet : GenericPacket w} :
      (c.limited size (if c.status ≠ .connected then .ret (c.reject .packetNotAllowedToSend)
        else .ret (c'.request packet none))).Ensures
          fun r ↦ .topicAliasInvalid ∉ errors r.2 := by
    unfold limited
    split
    · split
      · exact Outcome.ensures_ret.mpr (by simp [reject])
      · exact Outcome.ensures_ret.mpr (by simp)
    · exact Outcome.ensures_ret.mpr (by simp [reject])
  unfold respond
  split
  · exact Outcome.ensures_ret.mpr (by simp)
  · exact Outcome.Ensures.bind (P := fun _ ↦ True) (fun _ _ ↦ trivial) fun _ _ ↦ hanswered
  · exact Outcome.Ensures.bind (P := fun _ ↦ True) (fun _ _ ↦ trivial) fun _ _ ↦ hanswered
  · simp

/-- What the receiver makes of a PUBLISH that it can take: it is handed over with its topic, and
the aliases are those that the history tells. -/
structure Takes (c : GenericConnection w) (h : AliasHistory) (p : V50.Publish w) (r : Handled w) :
    Prop where
  handed : ¬ c.Repeats p → ∃ q, h.Named p q ∧ notified r.2 = [.v50Publish q]
  valid : .topicAliasInvalid ∉ errors r.2
  aliases : (h.told p).Describes r.1.topicAliasRecv

theorem takes_recvV50Publish (hd : h.Describes c.topicAliasRecv) (ha : c.admits p)
    (hres : c.Resolves p) : (c.recvV50Publish p).Ensures (Takes c h p) := by
  obtain ⟨o, ho, hnone, hframe⟩ := c.admitPublish_spec p
  have hrepeats := admitPublish_repeats _ ho
  unfold recvV50Publish
  rw [ho, Outcome.ret_bind]
  cases o with
  | none => exact (hnone.mp rfl ha).elim
  | some a =>
    obtain ⟨admission, c₁⟩ := a
    have hc₁ : Admitted c c₁ := hframe _ rfl
    have hd₁ : h.Describes c₁.topicAliasRecv := by
      rw [hc₁]
      exact hd
    have hres₁ : c₁.Resolves p := by
      rw [hc₁]
      exact hres
    refine Outcome.Ensures.bind (fun _ hx ↦ resolveTopic_spec.of_ret hx) fun o ho ↦ ?_
    obtain ⟨-, hnone', hsome⟩ := ho
    cases o with
    | none => exact (hnone'.mp rfl hres₁).elim
    | some b =>
      obtain ⟨q, c₂⟩ := b
      obtain ⟨hnamed, hd₂⟩ := hd₁.resolved hres₁ (hsome q c₂ rfl)
      have hquiet : Emitting (fun _ ↦ True) (fun _ ↦ False)
          (c₂.respond admission.answer q.packetId) := emitting_respond fun _ _ ↦ trivial
      refine Outcome.Ensures.bind (P := fun r ↦ notified r.2 = [] ∧
        .topicAliasInvalid ∉ errors r.2 ∧ r.1.topicAliasRecv = c₂.topicAliasRecv)
        (fun r hr ↦ ⟨?_, errors_respond r hr, ?_⟩) fun r hr ↦ ?_
      · exact List.eq_nil_iff_forall_not_mem.mpr (hquiet.emits hr).notices
      · exact Frames.respond ⟨localFrames_topicAliasRecv.toCoreFrames, fun _ _ ↦ rfl⟩ r hr
      have ht := timersOnly_refreshPingreqRecv (c := r.1)
      have hidle : r.1.refreshPingreqRecv.1.topicAliasRecv = r.1.topicAliasRecv :=
        localFrames_topicAliasRecv.idle idle_refreshPingreqRecv
      have hdone : Takes c h p (r.1.refreshPingreqRecv.1, r.2 ++ r.1.refreshPingreqRecv.2 ++
          if admission.alreadyHandled then [] else [.notifyPacketReceived (.v50Publish q)]) := by
        refine ⟨fun hno ↦ ⟨q, hnamed, ?_⟩, ?_, ?_⟩
        · have hfresh : ¬ admission.alreadyHandled := fun h ↦ hno ((hrepeats _ rfl).mp h)
          rw [if_neg hfresh, notified_append, notified_append, hr.1, ht.notified]
          rfl
        · rw [errors_append, errors_append, ht.errors]
          split <;> simpa using hr.2.1
        · dsimp only
          rw [hidle, hr.2.2]
          exact hd₂
      exact Outcome.ensures_ret.mpr hdone

end Receiver

section Sender

def meantTopic (c : GenericConnection w) (p : V50.Publish w) : Option Utf8String :=
  if p.topicName.isEmpty then c.aliasTopic p else some p.topicName.asStr

structure Speaks (c c' : GenericConnection w) (p q : V50.Publish w) : Prop where
  word : ∃ word m, wordOf q = some word ∧ c.meantTopic p = some m ∧
    word.meaning c.boundTopic = some m ∧ c'.boundTopic = word.learn c.boundTopic ∧
    (q.topicName.isEmpty → c.boundTopic ((aliasOf q).getD 0) = some m)
  range : ∀ a, aliasOf q = some a → ∃ s, c.topicAliasSend = some s ∧ a ≤ s.max
  max : c'.topicAliasSend.map TopicAliasSend.max = c.topicAliasSend.map TopicAliasSend.max

theorem boundTopic_of_peek {s : TopicAliasSend} (hs : c.topicAliasSend = some s) (a : U16) :
    c.boundTopic a = s.peek a := by
  unfold boundTopic
  rw [hs, Option.bind_some]

theorem AliasCase.max (hcase : AliasCase c p validated (some q, c')) :
    c'.topicAliasSend.map TopicAliasSend.max = c.topicAliasSend.map TopicAliasSend.max := by
  cases hcase with
  | touched _ _ _ hs =>
    rw [hs]
    exact congrArg some (TopicAliasSend.get_snd (b := 0)).1
  | registered _ _ hs hi | bound _ hs _ _ hi =>
    rw [hs]
    exact congrArg some (TopicAliasSend.insertOrUpdate_spec.of_ret hi).2.1
  | _ => rfl

/-- An alias that did not stand for its topic before stands for the topic of the PUBLISH. -/
theorem AliasCase.new_topic (hcase : AliasCase c p validated (some q, c')) {a : U16}
    (ht : c'.boundTopic a = some t) : c.boundTopic a = some t ∨ t = p.topicName.asStr := by
  have hinsert {b : U16} {s s' : TopicAliasSend} (hs : c.topicAliasSend = some s)
      (hi : s.insertOrUpdate p.topicName.asStr b = .ret s')
      (ht : ({ c with topicAliasSend := some s' } : GenericConnection w).boundTopic a = some t) :
      c.boundTopic a = some t ∨ t = p.topicName.asStr := by
    have hpeek := (TopicAliasSend.insertOrUpdate_spec.of_ret hi).2.2 a
    simp only [boundTopic, Option.bind_some, hs] at ht ⊢
    rw [hpeek] at ht
    split at ht
    · exact .inr (Option.some.inj ht).symm
    · exact .inl ht
  cases hcase with
  | @touched a' s _ _ _ hs =>
    left
    rw [boundTopic_of_peek hs]
    rw [boundTopic_of_peek (s := (s.get a').2) rfl] at ht
    exact TopicAliasSend.get_snd.2.symm.trans ht
  | registered _ _ hs hi | bound _ hs _ _ hi => exact hinsert hs hi ht
  | _ => exact .inl ht

/-- The sender says what it knows, when it binds no topic on its own. -/
theorem AliasCase.speaks (hcase : AliasCase c p validated (some q, c'))
    (hq : q = p ∨ q.topicName.isEmpty) (hknown : validated → c.meantTopic p ≠ none)
    (hbound : c.Rebinds p → aliasOf p ≠ none) : Speaks c c' p q := by
  have hmax := hcase.max
  have hrefer {a : U16} {m : Utf8String} (hempty : q.topicName.isEmpty) (ha : aliasOf q = some a)
      (hm : c.meantTopic p = some m) (hpeek : c.boundTopic a = some m)
      (hsame : c'.boundTopic = c.boundTopic) : Speaks c c' p q := by
    obtain ⟨s, hs, hs'⟩ := Option.bind_eq_some_iff.mp hpeek
    refine ⟨⟨.refer a, m, ?_, hm, hpeek, hsame, fun _ ↦ ?_⟩, fun b hb ↦ ?_, hmax⟩
    · unfold wordOf
      rw [ha]
      exact if_pos hempty
    · rw [ha]
      exact hpeek
    · obtain rfl := Option.some.inj (ha.symm.trans hb)
      exact ⟨s, hs, (TopicAliasSend.inRange_of_peek hs').2⟩
  have hmeant (ht : p.topicName.isEmpty) {a : U16} (ha : aliasOf p = some a) :
      c.meantTopic p = c.boundTopic a := by
    obtain ⟨ta, hta, rfl⟩ := Option.map_eq_some_iff.mp ha
    unfold meantTopic aliasTopic
    rw [if_pos ht, hta, Option.bind_some]
  have hown (ht : ¬ p.topicName.isEmpty) : c.meantTopic p = some p.topicName.asStr := if_neg ht
  cases hcase with
  | validated ht hv =>
    obtain ⟨m, hm⟩ := Option.ne_none_iff_exists'.mp (hknown hv)
    obtain ⟨a, ha⟩ : ∃ a, aliasOf p = some a := by
      rw [meantTopic, if_pos ht] at hm
      obtain ⟨ta, hta, -⟩ := Option.bind_eq_some_iff.mp hm
      exact ⟨ta, by simp [aliasOf, hta]⟩
    exact hrefer ht ha hm ((hmeant ht ha).symm.trans hm) rfl
  | @touched a s ht hv ha hs hpeek =>
    obtain ⟨m, hm⟩ := Option.isSome_iff_exists.mp hpeek
    rw [← boundTopic_of_peek hs] at hm
    refine hrefer ht ha ((hmeant ht ha).trans hm) hm ?_
    funext b
    rw [boundTopic_of_peek hs]
    exact TopicAliasSend.get_snd.2
  | @registered a s s' ht ha hs hi =>
    obtain ⟨⟨-, -, hle⟩, -, hpeek⟩ := TopicAliasSend.insertOrUpdate_spec.of_ret hi
    refine ⟨⟨.define a p.topicName.asStr, _, ?_, hown ht, rfl, ?_, fun h ↦ (ht h).elim⟩,
      fun b hb ↦ ?_, hmax⟩
    · unfold wordOf
      rw [ha]
      exact if_neg ht
    · funext b
      have hb := hpeek b
      by_cases heq : b = a
      · subst heq
        rw [if_pos rfl] at hb
        simpa [boundTopic, Word.learn] using hb
      · rw [if_neg heq] at hb
        simpa [boundTopic, Word.learn, hs, heq] using hb
    · obtain rfl := Option.some.inj (ha.symm.trans hb)
      exact ⟨s, hs, hle⟩
  | @found a s q hmaps hs hf ha =>
    obtain ⟨ht, hnone, -⟩ := mapsTopic_iff.mp hmaps
    have hempty : q.topicName.isEmpty := by
      refine hq.resolve_left ?_
      rintro rfl
      simp [aliasOf, hnone] at ha
    have hpeek : c.boundTopic a = some p.topicName.asStr := by
      rw [boundTopic_of_peek hs]
      exact TopicAliasSend.findByTopic_spec hf
    exact hrefer hempty ha (hown ht) hpeek rfl
  | @bound a s s' q hmaps hs hf =>
    obtain ⟨ht, hnone, -⟩ := mapsTopic_iff.mp hmaps
    have ha : aliasOf p = none := by simp [aliasOf, hnone]
    refine (hbound ⟨ht, ?_⟩ ha).elim
    rw [ha]
    refine ⟨hmaps, fun b ↦ ?_⟩
    rw [boundTopic_of_peek hs]
    exact findByTopic_eq_none hf b
  | plain ht ha hmaps =>
    refine ⟨⟨.plain p.topicName.asStr, _, ?_, hown ht, rfl, rfl, fun h ↦ (ht h).elim⟩,
      fun b hb ↦ ?_, hmax⟩
    · unfold wordOf
      rw [ha]
      exact if_neg ht
    · rw [ha] at hb
      cases hb

structure Misbinds (c : GenericConnection w) (p : V50.Publish w) : Prop where
  sends : c.MaySend (.v50Publish p)
  takes : ∀ id, p.packetId = some id → c.takesPublish p id
  connected : p.packetId = none → c.status = .connected
  accepts : ¬ c.refusesAlias p
  rebinds : c.Rebinds p
  misses : aliasOf p = none ∨ c.status ≠ .connected ∨ p.packetId.isSome ∧ c.quotaReached ∨
    ¬ V50.Publish.IsTopicName p.topicName.asStr

inductive Utters (c : GenericConnection w) (p : V50.Publish w) (r : Handled w) : Prop where
  | silent : requested r.2 = [] → r.1.boundTopic = c.boundTopic →
      r.1.topicAliasSend.map TopicAliasSend.max = c.topicAliasSend.map TopicAliasSend.max →
      Utters c p r
  | spoken {q : V50.Publish w} : requested r.2 = [.v50Publish q] → Speaks c r.1 p q →
      (∀ a t, r.1.boundTopic a = some t → c.boundTopic a = some t ∨ V50.Publish.IsTopicName t) →
      Utters c p r

theorem requested_refuse (e : MqttError) (o : Option (PacketId w)) :
    (c.refuse e o).Ensures fun r ↦ requested r.2 = [] ∧ r.1.topicAliasSend = c.topicAliasSend := by
  intro r hr
  have hgives := givesUp_refuse (o := o) e r hr
  have hquiet : Emitting (fun _ ↦ False) (fun _ ↦ False) (c.refuse e o) := emitting_refuse e o
  exact ⟨List.eq_nil_iff_forall_not_mem.mpr (hquiet.emits hr).requests, by rw [hgives.frame]⟩

theorem empty_of_replaced (a : U16) :
    (p.removeTopicAddTopicAlias a).unwrap.Ensures fun q ↦ q.topicName.isEmpty := by
  intro q hq
  by_cases ha : a ≠ 0
  · obtain ⟨-, hrel⟩ := (p.removeTopicAddTopicAlias_spec ⟨a, ha⟩).of_ret hq
    rw [hrel]
    rfl
  · unfold V50.Publish.removeTopicAddTopicAlias at hq
    rw [dif_neg ha] at hq
    cases hq

theorem applyTopicAlias_empties : (c.applyTopicAlias p validated).Ensures fun r ↦
    ∀ q, r.1 = some q → q = p ∨ q.topicName.isEmpty := by
  have hsame {c' : GenericConnection w} : (Outcome.ret (some p, c')).Ensures
      fun r ↦ ∀ q, r.1 = some q → q = p ∨ q.topicName.isEmpty :=
    Outcome.ensures_ret.mpr fun q hq ↦ .inl (Option.some.inj hq).symm
  have hnone {c' : GenericConnection w} :
      (Outcome.ret ((none : Option (V50.Publish w)), c')).Ensures
        fun r ↦ ∀ q, r.1 = some q → q = p ∨ q.topicName.isEmpty :=
    Outcome.ensures_ret.mpr fun q hq ↦ by cases hq
  unfold applyTopicAlias
  split
  · split
    · exact hsame
    · split
      · exact hnone
      · exact hsame
  split
  · split
    · exact Outcome.Ensures.bind (P := fun _ ↦ True) (fun _ _ ↦ trivial) fun c' _ ↦ hsame
    · exact hnone
  split
  · refine Outcome.Ensures.bind (P := fun r ↦ r.1 = p ∨ r.1.topicName.isEmpty) ?_
      fun r hr ↦ Outcome.ensures_ret.mpr fun q hq ↦ ?_
    · unfold autoMapTopicAlias
      split
      · exact Outcome.ensures_ret.mpr (.inl rfl)
      split
      · exact (empty_of_replaced _).bind fun q hq ↦ Outcome.ensures_ret.mpr (.inr hq)
      · refine Outcome.Ensures.bind (P := fun _ ↦ True) (fun _ _ ↦ trivial) fun a _ ↦ ?_
        refine Outcome.Ensures.bind (P := fun _ ↦ True) (fun _ _ ↦ trivial) fun s' _ ↦ ?_
        exact (empty_of_replaced _).bind fun q hq ↦ Outcome.ensures_ret.mpr (.inr hq)
    · exact Option.some.inj hq ▸ hr
  split
  · refine Outcome.Ensures.bind (P := fun q ↦ q = p ∨ q.topicName.isEmpty) ?_
      fun q' hq' ↦ Outcome.ensures_ret.mpr fun q hq ↦ ?_
    · unfold autoReplaceTopicAlias
      split
      · exact (empty_of_replaced _).mono fun q hq ↦ .inr hq
      · exact Outcome.ensures_ret.mpr (.inl rfl)
    · exact Option.some.inj hq ▸ hq'
  · exact hsame

/-- The second half of the handler: a PUBLISH is refused, or its alias is settled and it goes out
when the connection and the receive maximum of the peer allow it. -/
theorem sendV50Publish_settles {rel : Option (PacketId w)} :
    (c.sendV50Publish p validated rel).Ensures fun r ↦
      (requested r.2 = [] ∧ r.1.topicAliasSend = c.topicAliasSend) ∨
      ¬ c.invalidAlias p validated ∧ ∃ q c', AliasCase c p validated (some q, c') ∧
        (q = p ∨ q.topicName.isEmpty) ∧ r.1.topicAliasSend = c'.topicAliasSend ∧ requested r.2 =
          if c.status = .connected ∧ ¬ (p.packetId.isSome ∧ c.quotaReached) then [.v50Publish q]
          else [] := by
  intro r hr
  obtain ⟨⟨x, c'⟩, hx, hr⟩ := Outcome.bind_eq_ret.mp hr
  have hcase := applyTopicAlias_cases _ hx
  have hempties := applyTopicAlias_empties _ hx
  cases x with
  | none =>
    obtain ⟨hreq, hs⟩ := requested_refuse _ _ r hr
    cases hcase with
    | invalid => exact .inl ⟨hreq, hs⟩
  | some q =>
    have hframe : c' = { c with topicAliasSend := c'.topicAliasSend } := hcase.frame
    have hstatus : c'.status = c.status := by rw [hframe]
    have hquota : c'.quotaReached = c.quotaReached := by
      rw [hframe]
      rfl
    obtain ⟨y, hy, hr⟩ := Outcome.bind_eq_ret.mp hr
    have hvalid : ¬ c.invalidAlias p validated := fun h ↦ by
      simpa using ((applyTopicAlias_spec validated).of_ret hx).2.2.1.mpr h
    refine .inr ⟨hvalid, q, c', hcase, hempties q rfl, ?_⟩
    have hreached : y = none ↔ p.packetId.isSome ∧ c.quotaReached := by
      cases hid : p.packetId with
      | none =>
        rw [hid] at hy
        obtain rfl := Outcome.ret.inj hy
        simp
      | some id =>
        rw [hid] at hy
        simpa [hquota] using ((c'.countPublish_spec id).of_ret hy).2.1
    cases y with
    | none =>
      obtain ⟨hreq, hs⟩ := requested_refuse _ _ r hr
      rw [if_neg (fun hno ↦ hno.2 (hreached.mp rfl))]
      exact ⟨hs, hreq⟩
    | some c'' =>
      have hcounted : c'' = { c' with publishSendCount := c''.publishSendCount } :=
        countPublish_frame _ hy c'' rfl
      have hroom : ¬ (p.packetId.isSome ∧ c.quotaReached) := fun hno ↦ by simpa using hreached.mpr hno
      have hs : c''.topicAliasSend = c'.topicAliasSend := by rw [hcounted]
      have hst : c''.status = c.status := (by rw [hcounted] : c''.status = c'.status).trans hstatus
      obtain rfl := Outcome.ret.inj hr
      unfold transmit
      by_cases hconn : c.status = .connected
      · rw [if_pos (hst.trans hconn), if_pos ⟨hconn, hroom⟩, idle_request]
        exact ⟨hs, by simp⟩
      · rw [if_neg (fun h ↦ hconn (hst.symm.trans h)), if_neg (fun h ↦ hconn h.1)]
        exact ⟨hs, rfl⟩

theorem Speaks.congr {c'' : GenericConnection w} (h : Speaks c c' p q)
    (hs : c''.topicAliasSend = c'.topicAliasSend) : Speaks c c'' p q := by
  refine ⟨?_, h.range, by rw [hs, h.max]⟩
  rw [boundTopic_congr hs]
  exact h.word

/-- A PUBLISH that binds its topic to an alias only when it goes out with both says what was
meant. -/
theorem utters_sendV50Publish {rel : Option (PacketId w)}
    (hknown : validated → c.meantTopic p ≠ none)
    (hno : ¬ c.invalidAlias p validated → c.Rebinds p → aliasOf p ≠ none ∧ c.status = .connected ∧
      ¬ (p.packetId.isSome ∧ c.quotaReached) ∧ V50.Publish.IsTopicName p.topicName.asStr) :
    (c.sendV50Publish p validated rel).Ensures (Utters c p) := by
  refine sendV50Publish_settles.mono fun r hr ↦ ?_
  rcases hr with ⟨hreq, hs⟩ | ⟨hvalid, q, c', hcase, hq, hs, hreq⟩
  · exact .silent hreq (boundTopic_congr hs) (by rw [hs])
  have hmax : r.1.topicAliasSend.map TopicAliasSend.max =
      c.topicAliasSend.map TopicAliasSend.max := by
    rw [hs]
    exact hcase.max
  have hsame (hre : ¬ c.Rebinds p) : r.1.boundTopic = c.boundTopic :=
    (boundTopic_congr hs).trans (funext (hcase.bindings.mpr hre))
  by_cases hout : c.status = .connected ∧ ¬ (p.packetId.isSome ∧ c.quotaReached)
  · rw [if_pos hout] at hreq
    have hspeaks := hcase.speaks hq hknown fun hre ↦ (hno hvalid hre).1
    refine .spoken hreq (hspeaks.congr hs) fun a t ht ↦ ?_
    by_cases hre : c.Rebinds p
    · rw [boundTopic_congr hs] at ht
      refine (hcase.new_topic ht).imp_right fun (heq : t = p.topicName.asStr) ↦ ?_
      rw [heq]
      exact (hno hvalid hre).2.2.2
    · exact .inl (hsame hre ▸ ht)
  · rw [if_neg hout] at hreq
    exact .silent hreq (hsame fun hre ↦ hout ⟨(hno hvalid hre).2.1, (hno hvalid hre).2.2.1⟩) hmax

theorem Utters.congr (h : Utters c' p r) (hb : c'.boundTopic = c.boundTopic)
    (hs : c'.topicAliasSend.map TopicAliasSend.max = c.topicAliasSend.map TopicAliasSend.max) :
    Utters c p r := by
  cases h with
  | silent hreq hbound hmax => exact .silent hreq (hbound.trans hb) (hmax.trans hs)
  | @spoken q hreq hspeaks hnamed =>
    have hmeant : c'.meantTopic p = c.meantTopic p := by
      unfold meantTopic aliasTopic
      rw [hb]
    obtain ⟨word, m, hword, hm, hmeaning, hlearn, hempty⟩ := hspeaks.word
    rw [hb] at hmeaning hlearn hempty hnamed
    refine .spoken hreq ⟨⟨word, m, hword, hmeant ▸ hm, hmeaning, hlearn, hempty⟩, fun a ha ↦ ?_,
      hspeaks.max.trans hs⟩ hnamed
    obtain ⟨s, hs', hle⟩ := hspeaks.range a ha
    rw [hs', Option.map_some] at hs
    obtain ⟨s₀, hs₀, hmax⟩ := Option.map_eq_some_iff.mp hs.symm
    exact ⟨s₀, hs₀, hmax ▸ hle⟩

theorem meantTopic_eq (ht : p.topicName.isEmpty) :
    c.meantTopic p = (c.validateTopicAlias (V50.topicAliasOf p.props)).1 := by
  rw [validateTopicAlias_fst]
  exact if_pos ht

theorem invalidAlias_eq (ht : ¬ p.topicName.isEmpty) (hs : c'.topicAliasSend = c.topicAliasSend) :
    c'.invalidAlias p validated = c.refusesAlias p := by
  unfold invalidAlias refusesAlias
  simp only [if_neg ht, validateTopicAliasRange_congr hs]

theorem rebinds_congr (h : SameSending c c') (hs : c'.topicAliasSend = c.topicAliasSend) :
    c'.Rebinds p ↔ c.Rebinds p := by
  unfold Rebinds mapsTopic
  rw [h.status, h.autoMap, h.autoReplace, boundTopic_congr hs, hs]

theorem max_storablePublish {x : Option (V50.Publish w) × GenericConnection w}
    (h : c.storablePublish p = .ret x) :
    x.2.topicAliasSend.map TopicAliasSend.max = c.topicAliasSend.map TopicAliasSend.max := by
  unfold storablePublish at h
  split at h
  · have hval : (c.validateTopicAlias (V50.topicAliasOf p.props)).2.topicAliasSend.map
        TopicAliasSend.max = c.topicAliasSend.map TopicAliasSend.max := by
      rcases c.validateTopicAlias_cases (V50.topicAliasOf p.props) with
        ⟨a, s, topic, -, hs, -, hval⟩ | hval
      · rw [hval, hs]
        exact congrArg some (TopicAliasSend.get_snd (b := 0)).1
      · rw [hval]
    split at h
    · rename_i c₁ heq
      obtain rfl := Outcome.ret.inj h
      rw [heq] at hval
      exact hval
    · rename_i topic c₁ heq
      obtain ⟨stored, -, hret⟩ := Outcome.bind_eq_ret.mp h
      obtain rfl := Outcome.ret.inj hret
      rw [heq] at hval
      exact hval
  · obtain ⟨stored, -, hret⟩ := Outcome.bind_eq_ret.mp h
    obtain rfl := Outcome.ret.inj hret
    rfl

theorem utters_stored {stored : V50.Publish w} {c₁ c₂ : GenericConnection w}
    (hid : p.packetId = some id) (hstored : c.storablePublish p = .ret (some stored, c₁))
    (hadd : c₁.storeAdd (.v50Publish stored) = .ret c₂)
    (hno : ¬ c.refusesAlias p → c.Rebinds p → aliasOf p ≠ none ∧ c.status = .connected ∧
      ¬ (p.packetId.isSome ∧ c.quotaReached) ∧ V50.Publish.IsTopicName p.topicName.asStr) :
    ((c₂.await (publishAck p.qos) id).sendV50Publish p p.topicName.isEmpty none).Ensures
      (Utters c p) := by
  obtain ⟨-, hsame, hsid, hval, -⟩ := (storablePublish_spec c p).of_ret hstored
  have hsid' : (GenericStorePacket.v50Publish stored).packetId = some id := hsid.1.trans hid
  obtain ⟨-, hframe, -⟩ := (storeAdd_spec hsid').of_ret hadd
  have halias : (c₂.await (publishAck p.qos) id).topicAliasSend = c₁.topicAliasSend := by
    rw [topicAliasSend_await, hframe]
  have hbound : (c₂.await (publishAck p.qos) id).boundTopic = c.boundTopic := by
    rw [boundTopic_congr halias]
    exact funext fun a ↦ boundTopic_storablePublish hstored a
  have hmax : (c₂.await (publishAck p.qos) id).topicAliasSend.map TopicAliasSend.max =
      c.topicAliasSend.map TopicAliasSend.max := by
    rw [halias]
    exact max_storablePublish hstored
  refine (utters_sendV50Publish (fun ht ↦ ?_) fun hvalid hre ↦ ?_).mono
    fun r hr ↦ hr.congr hbound hmax
  · have hmeant : (c₂.await (publishAck p.qos) id).meantTopic p = c.meantTopic p := by
      unfold meantTopic aliasTopic
      rw [hbound]
    rw [hmeant, meantTopic_eq ht]
    exact hval ht
  · have ht : ¬ p.topicName.isEmpty := hre.1
    obtain rfl : c₁ = c := hsame ht
    have hawait := @sameSending_await w c₂ id (publishAck p.qos)
    have hsending : SameSending c₁ (c₂.await (publishAck p.qos) id) := by
      refine ⟨hawait.status.trans ?_, hawait.autoMap.trans ?_, hawait.autoReplace.trans ?_,
        hawait.max.trans ?_, hawait.count.trans ?_⟩ <;> rw [hframe]
    rw [invalidAlias_eq ht halias] at hvalid
    rw [rebinds_congr hsending halias] at hre
    rw [hsending.status, hsending.quotaReached]
    exact hno hvalid hre

/-- A PUBLISH that is sent says what was meant, unless it binds its topic amiss. -/
theorem utters_send (hno : ¬ c.Misbinds p) : (c.send (.v50Publish p)).Ensures (Utters c p) := by
  by_cases hmay : c.MaySend (.v50Publish p)
  swap
  · obtain ⟨e, he⟩ := send_barred hmay
    rw [he]
    exact Outcome.ensures_ret.mpr (.silent rfl rfl rfl)
  have hreject {e : MqttError} : (Outcome.ret (c.reject e)).Ensures (Utters c p) :=
    Outcome.ensures_ret.mpr (.silent rfl rfl rfl)
  have hrefuse {c' : GenericConnection w} {e : MqttError} {o : Option (PacketId w)}
      (hb : c'.boundTopic = c.boundTopic)
      (hs : c'.topicAliasSend.map TopicAliasSend.max = c.topicAliasSend.map TopicAliasSend.max) :
      (c'.refuse e o).Ensures (Utters c p) := by
    refine (requested_refuse e o).mono fun r hr ↦ ?_
    have hutters : Utters c' p r := .silent hr.1 (boundTopic_congr hr.2) (by rw [hr.2])
    exact hutters.congr hb hs
  have hbinds (htakes : ∀ id, p.packetId = some id → c.takesPublish p id)
      (hconn : p.packetId = none → c.status = .connected) (hacc : ¬ c.refusesAlias p)
      (hre : c.Rebinds p) : aliasOf p ≠ none ∧ c.status = .connected ∧
        ¬ (p.packetId.isSome ∧ c.quotaReached) ∧ V50.Publish.IsTopicName p.topicName.asStr := by
    by_contra hmiss
    refine hno ⟨hmay, htakes, hconn, hacc, hre, ?_⟩
    by_contra hall
    push Not at hall
    exact hmiss ⟨hall.1, hall.2.1, fun hq ↦ hall.2.2.1 hq.1 hq.2, hall.2.2.2⟩
  have hsend : c.send (.v50Publish p) = c.processSendV50Publish p :=
    if_neg (not_not.mpr hmay.version)
  have hsize : c.validateMaximumPacketSizeSend p.size := hmay.size rfl
  rw [hsend]
  unfold processSendV50Publish limited
  rw [if_pos hsize]
  cases hid : p.packetId with
  | none =>
    dsimp only
    split
    · exact hreject
    · rename_i hconn
      refine utters_sendV50Publish (by simp) fun hvalid hre ↦ ?_
      rw [invalidAlias_eq hre.1 rfl] at hvalid
      exact hbinds (by simp [hid]) (fun _ ↦ not_not.mp hconn) hvalid hre
  | some id =>
    dsimp only
    split
    · exact hrefuse rfl rfl
    rename_i hcan
    split
    · exact hreject
    rename_i hused
    have htakes (hne : ¬ p.topicName.isEmpty) : ∀ u, p.packetId = some u → c.takesPublish p u := by
      intro u hu
      obtain rfl := Option.some.inj (hid.symm.trans hu)
      exact ⟨hsize, hcan, not_not.mp hused, fun h ↦ hne h.2.1⟩
    have hbinds' (hvalid : ¬ c.refusesAlias p) (hre : c.Rebinds p) :=
      hbinds (htakes hre.1) (by simp [hid]) hvalid hre
    split
    · refine Outcome.Ensures.bind (P := fun x ↦ c.storablePublish p = .ret x) (fun x hx ↦ hx) ?_
      intro x hx
      obtain ⟨o, c₁⟩ := x
      cases o with
      | none =>
        exact hrefuse (funext fun a ↦ boundTopic_storablePublish hx a) (max_storablePublish hx)
      | some stored =>
        refine Outcome.Ensures.bind (P := fun c₂ ↦ c₁.storeAdd (.v50Publish stored) = .ret c₂)
          (fun c₂ hc₂ ↦ hc₂) fun c₂ hc₂ ↦ ?_
        exact utters_stored hid hx hc₂ hbinds'
    · have halias := @topicAliasSend_await w c id (publishAck p.qos)
      have hsending := @sameSending_await w c id (publishAck p.qos)
      refine (utters_sendV50Publish (by simp) fun hvalid hre ↦ ?_).mono
        fun r hr ↦ hr.congr (boundTopic_congr halias) (by rw [halias])
      rw [invalidAlias_eq hre.1 halias] at hvalid
      rw [rebinds_congr hsending halias] at hre
      rw [hsending.status, hsending.quotaReached]
      exact hbinds' hvalid hre

end Sender

end MqttProtocolCore.Connection.GenericConnection
