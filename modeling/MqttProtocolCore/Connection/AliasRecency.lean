import MqttProtocolCore.Connection.AliasUse
import MqttProtocolCore.Connection.ClientRun
import MqttProtocolCore.Connection.StepFrame

namespace MqttProtocolCore.Connection

open General Packet

variable {w : IdWidth}

def Operation.publishSent : Operation w → Option (V50.Publish w)
  | send packet => packet.v50PublishOf
  | _ => none

def renew (uses : List U16) : Property → List U16
  | .topicAliasMaximum v => if v > 0 then [] else uses
  | _ => uses

namespace GenericConnection

variable {c c' : GenericConnection w} {uses : List U16} {packet : GenericPacket w} {r : Handled w}
  {p : V50.Publish w} {op : Operation w}

def sentAlias (events : List (GenericEvent w)) : Option U16 :=
  (requested events).head?.bind fun
    | .v50Publish q => aliasOf q
    | _ => none

def usesAfter (c : GenericConnection w) (uses : List U16) : GenericPacket w → List U16
  | .v311Connect _ | .v50Connect _ => if c.status = .disconnected then [] else uses
  | .v50Connack p => if p.reasonCode = .success then p.props.foldl renew uses else uses
  | _ => uses

/-- The uses of the aliases on the current network connection, the last one at the end: the alias of
every PUBLISH that was sent, its own or the one that took the place of its topic. -/
def readUses (uses : List U16)
    (t : Transition (GenericConnection w) (Operation w) (Reply w)) : List U16 :=
  match t.input with
  | .notifyClosed => []
  | .send (.v50Publish p) => uses ++ ((aliasOf p).or (sentAlias t.output.toEvents)).toList
  | .send packet =>
    if packet.connectOf.isSome ∧ packet ∈ requested t.output.toEvents then [] else uses
  | .recv data =>
    match t.before.arrival data with
    | some (_, packet) => t.before.usesAfter uses packet
    | none => uses
  | _ => uses

/-- The aliases of the sender are in the order of their last use. -/
def InOrder (uses : List U16) (aliases : Option TopicAliasSend) : Prop :=
  match aliases with
  | none => uses = []
  | some s => s.order = recency uses

def Succeeds (c : GenericConnection w) (p : V50.Publish w) : Prop :=
  (c.send (.v50Publish p)).Ensures fun r ↦ errors r.2 = []

/-- A PUBLISH is sent without an error, and not with an alias that was found by its topic, unless
that alias is the one used last. -/
def KeepsOrder (c : GenericConnection w) (uses : List U16) : Operation w → Prop
  | .send (.v50Publish p) => c.Succeeds p ∧ ∀ s a, c.mapsTopic p → c.topicAliasSend = some s →
      s.findByTopic p.topicName.asStr = some a → uses.getLast? = some a
  | _ => True

theorem localFrames_topicAliasSend :
    LocalFrames fun c c' : GenericConnection w ↦ c'.topicAliasSend = c.topicAliasSend where
  refl _ := rfl
  trans h h' := h'.trans h
  idle h := by rw [h]
  awaiting kind _ := by cases kind <;> rfl
  used _ := rfl
  counted _ := rfl
  handled _ := rfl
  cleared _ := rfl
  resent c := by
    unfold sendStored
    exact Outcome.Ensures.bind (P := fun _ ↦ True) (fun _ _ ↦ trivial)
      fun _ _ ↦ Outcome.ensures_ret.mpr rfl
  adjusted h := by rw [h]
  adds _ c := by
    unfold storeAdd
    exact Outcome.Ensures.bind (P := fun _ ↦ True) (fun _ _ ↦ trivial)
      fun _ _ ↦ Outcome.ensures_ret.mpr rfl
  erases _ _ _ := rfl

theorem inOrder_publish (hI : InOrder uses c.topicAliasSend)
    (hok : c.KeepsOrder uses (.send (.v50Publish p))) :
    (c.send (.v50Publish p)).Ensures fun r ↦
      InOrder (uses ++ ((aliasOf p).or (sentAlias r.2)).toList) r.1.topicAliasSend := by
  intro r hr
  have hmove {s s' : TopicAliasSend} {a : U16} (hs : c.topicAliasSend = some s)
      (ho : s'.order = moveToEnd s.order a) : s'.order = recency (uses ++ [a]) := by
    rw [hs] at hI
    have hI' : s.order = recency uses := hI
    rw [recency_concat, ho, hI']
  cases aliasUse_send p r hr (hok.1 r hr) with
  | @given a s s' ha hs hr' ho =>
    rw [hr', ha]
    exact hmove hs ho
  | @found a s q hmaps hs hf hr' hq ha =>
    have hnone : aliasOf p = none := by simp [aliasOf, (mapsTopic_iff.mp hmaps).2.1]
    have hsent : sentAlias r.2 = some a := by simp [sentAlias, hq, ha]
    have hlast := hok.2 s a hmaps hs hf
    rw [hr', hnone, hsent]
    rw [hs] at hI
    have hI' : s.order = recency uses := hI
    refine hmove hs ?_
    rw [hI', moveToEnd_getLast]
    · rw [← hI']
      exact s.nodup_order
    · rw [getLast?_recency, hlast]
  | @bound a s s' q hmaps hs hf hl hi hr' hq ha =>
    have hnone : aliasOf p = none := by simp [aliasOf, (mapsTopic_iff.mp hmaps).2.1]
    have hsent : sentAlias r.2 = some a := by simp [sentAlias, hq, ha]
    rw [hr', hnone, hsent]
    exact hmove hs (TopicAliasSend.order_insertOrUpdate _ hi)
  | plain ha hmaps hr' hq =>
    have hsent : sentAlias r.2 = none := by
      unfold sentAlias
      cases hh : (requested r.2).head? with
      | none => rfl
      | some packet =>
        have hmem := List.mem_of_mem_head? hh
        cases packet with
        | v50Publish q => exact hq q hmem
        | _ => rfl
    rw [hr', ha, hsent]
    simpa using hI

theorem inOrder_none : InOrder [] none := rfl

theorem topicAliasSend_announceConnect (props : Properties) :
    (props.foldl announceConnect c).topicAliasSend = c.topicAliasSend := by
  induction props generalizing c with
  | nil => rfl
  | cons prop props ih =>
    rw [List.foldl_cons, ih]
    cases prop <;> unfold announceConnect <;> first | rfl | (dsimp only; split <;> rfl)

/-- A packet that is sent leaves the aliases alone, unless it opens the network connection or is a
PUBLISH of version 5.0. -/
theorem topicAliasSend_send (hp : ¬ ∃ p, packet = .v50Publish p)
    (hconnect : partOf packet ≠ .connect) :
    (c.send packet).Ensures fun r ↦ r.1.topicAliasSend = c.topicAliasSend := by
  have hrole {q : Prop} [Decidable q] {x : Outcome (Handled w)}
      (hx : x.Ensures fun r ↦ r.1.topicAliasSend = c.topicAliasSend) :
      (if q then x else .ret (c.reject .packetNotAllowedToSend)).Ensures
        fun r ↦ r.1.topicAliasSend = c.topicAliasSend := by
    split
    · exact hx
    · exact Outcome.ensures_ret.mpr rfl
  unfold send
  split
  · exact Outcome.ensures_ret.mpr rfl
  by_cases hconnack : partOf packet = .connack
  swap
  · exact localFrames_topicAliasSend.processSend (fun _ _ ↦ rfl) (fun h ↦ (hp h).elim) hconnect
      hconnack
  cases packet with
  | v311Connack p =>
    apply hrole
    unfold processSendV311Connack
    split
    · exact Outcome.ensures_ret.mpr rfl
    · exact localFrames_topicAliasSend.finishConnack
  | v50Connack p =>
    apply hrole
    unfold processSendV50Connack limited
    split
    swap
    · exact Outcome.ensures_ret.mpr rfl
    split
    · exact Outcome.ensures_ret.mpr rfl
    dsimp only
    have hannounced : (if decide (p.reasonCode = .success) = true then
        c.announceAll announceConnack p.props else (c, [])).1.topicAliasSend = c.topicAliasSend := by
      split
      · rw [(announceAll_announceConnack p.props).1]
      · rfl
    exact localFrames_topicAliasSend.finishConnack.bind fun r hr ↦
      Outcome.ensures_ret.mpr (hr.trans hannounced)
  | _ => simp [partOf] at hconnack

/-- A packet other than a PUBLISH adds nothing to the uses, and a CONNECT begins anew. -/
theorem inOrder_send (hI : InOrder uses c.topicAliasSend) (hp : ¬ ∃ p, packet = .v50Publish p) :
    (c.send packet).Ensures fun r ↦
      InOrder (if packet.connectOf.isSome ∧ packet ∈ requested r.2 then [] else uses)
        r.1.topicAliasSend := by
  by_cases hconnect : partOf packet = .connect
  swap
  · refine (topicAliasSend_send hp hconnect).mono fun r hr ↦ ?_
    rw [if_neg (by simp [connectOf_eq_none hconnect]), hr]
    exact hI
  have hreject (e : MqttError) : InOrder
      (if packet.connectOf.isSome ∧ packet ∈ requested (c.reject e).2 then [] else uses)
        (c.reject e).1.topicAliasSend := by
    rw [if_neg (by simp [reject])]
    exact hI
  have hopened {c' : GenericConnection w} (hc : packet.connectOf.isSome)
      (hn : c'.topicAliasSend = none) : InOrder
      (if packet.connectOf.isSome ∧ packet ∈ requested (c'.request packet none).2 then []
        else uses) (c'.request packet none).1.topicAliasSend := by
    have hsame : (c'.request packet none).1.topicAliasSend = c'.topicAliasSend :=
      localFrames_topicAliasSend.request
    rw [if_pos ⟨hc, by simp⟩, hsame, hn]
    exact inOrder_none
  unfold send
  split
  · exact Outcome.ensures_ret.mpr (hreject _)
  cases packet with
  | v311Connect p =>
    change (if _ then _ else _ : Outcome (Handled w)).Ensures _
    split
    swap
    · exact Outcome.ensures_ret.mpr (hreject _)
    refine Outcome.ensures_ret.mpr ?_
    unfold processSendV311Connect
    split
    · exact hreject _
    · exact hopened rfl rfl
  | v50Connect p =>
    change (if _ then _ else _ : Outcome (Handled w)).Ensures _
    split
    swap
    · exact Outcome.ensures_ret.mpr (hreject _)
    unfold processSendV50Connect limited
    split
    swap
    · exact Outcome.ensures_ret.mpr (hreject _)
    split
    · exact Outcome.ensures_ret.mpr (hreject _)
    · refine Outcome.ensures_ret.mpr (hopened rfl ?_)
      rw [topicAliasSend_announceConnect]
      split <;> rfl
  | _ => simp [partOf] at hconnect

theorem inOrder_noteConnect (hI : InOrder [] c.topicAliasSend) (props : Properties) :
    (props.foldlM noteConnect c).Ensures fun c' ↦ InOrder [] c'.topicAliasSend := by
  induction props generalizing c with
  | nil => exact Outcome.ensures_ret.mpr hI
  | cons prop props ih =>
    rw [List.foldlM_cons]
    refine Outcome.Ensures.bind (P := fun c' ↦ InOrder [] c'.topicAliasSend) ?_ fun c₁ h₁ ↦ ih h₁
    cases prop with
    | topicAliasMaximum v =>
      exact TopicAliasSend.order_new.bind fun s hs ↦ Outcome.ensures_ret.mpr hs
    | sessionExpiryInterval v =>
      refine Outcome.ensures_ret.mpr ?_
      split <;> exact hI
    | _ => exact Outcome.ensures_ret.mpr hI

theorem inOrder_noteAll (hI : InOrder uses c.topicAliasSend) (props : Properties) :
    (c.noteAll props).Ensures fun r ↦ InOrder (props.foldl renew uses) r.1.topicAliasSend := by
  induction props generalizing c uses with
  | nil => exact Outcome.ensures_ret.mpr hI
  | cons prop props ih =>
    unfold noteAll
    refine Outcome.Ensures.bind (P := fun r ↦ InOrder (renew uses prop) r.1.topicAliasSend) ?_
      fun r₁ h₁ ↦ (ih h₁).bind fun r₂ h₂ ↦ Outcome.ensures_ret.mpr h₂
    cases prop with
    | topicAliasMaximum v =>
      dsimp only [noteConnack, renew]
      split
      · exact TopicAliasSend.order_new.bind fun s hs ↦ Outcome.ensures_ret.mpr hs
      · exact Outcome.ensures_ret.mpr hI
    | serverKeepAlive v =>
      dsimp only [noteConnack, renew]
      split
      · exact Outcome.ensures_ret.mpr hI
      · split <;> exact Outcome.ensures_ret.mpr hI
    | _ => exact Outcome.ensures_ret.mpr hI

theorem inOrder_deliver (hI : InOrder uses c.topicAliasSend) (packet : GenericPacket w) :
    (c.deliver packet).Ensures fun r ↦ InOrder (c.usesAfter uses packet) r.1.topicAliasSend := by
  have hsame {x : Outcome (Handled w)} {packet : GenericPacket w}
      (hp : c.usesAfter uses packet = uses)
      (hx : x.Ensures fun r ↦ r.1.topicAliasSend = c.topicAliasSend) :
      x.Ensures fun r ↦ InOrder (c.usesAfter uses packet) r.1.topicAliasSend := by
    refine hx.mono fun r hr ↦ ?_
    rw [hp, hr]
    exact hI
  have hreceived {c' : GenericConnection w} {packet : GenericPacket w} :
      (c'.received packet).1.topicAliasSend = c'.topicAliasSend :=
    localFrames_topicAliasSend.received
  cases packet with
  | v311Connect p =>
    change (if _ then _ else _ : Outcome (Handled w)).Ensures _
    by_cases hs : c.status = .disconnected
    · rw [if_neg (not_not.mpr hs)]
      refine Outcome.ensures_ret.mpr ?_
      dsimp only [usesAfter]
      rw [if_pos hs]
      unfold recvV311Connect
      dsimp only
      rw [hreceived]
      split <;> split <;> exact inOrder_none
    · rw [if_pos hs]
      exact hsame (if_neg hs) (localFrames_topicAliasSend.refusal (c.handleV311Error_spec _))
  | v50Connect p =>
    change (if _ then _ else _ : Outcome (Handled w)).Ensures _
    by_cases hs : c.status = .disconnected
    · rw [if_neg (not_not.mpr hs)]
      dsimp only [usesAfter]
      rw [if_pos hs]
      unfold recvV50Connect
      refine (inOrder_noteConnect ?_ p.props).bind fun c' hc' ↦ Outcome.ensures_ret.mpr ?_
      · split <;> split <;> exact inOrder_none
      · rw [hreceived]
        exact hc'
    · rw [if_pos hs]
      exact hsame (if_neg hs) (localFrames_topicAliasSend.refusal (c.handleV50Error_spec _))
  | v311Connack p =>
    refine hsame rfl ?_
    change (c.recvV311Connack p).Ensures _
    unfold recvV311Connack
    split
    · exact localFrames_topicAliasSend.resumeSession.bind fun r hr ↦ Outcome.ensures_ret.mpr hr
    · exact Outcome.ensures_ret.mpr rfl
  | v50Connack p =>
    change (c.recvV50Connack p).Ensures _
    dsimp only [usesAfter]
    unfold recvV50Connack
    split
    · have hI' : InOrder uses ({ c with status := .connected } : GenericConnection w).topicAliasSend :=
        hI
      refine (inOrder_noteAll hI' p.props).bind fun r hr ↦ ?_
      refine localFrames_topicAliasSend.resumeSession.bind fun r' hr' ↦ Outcome.ensures_ret.mpr ?_
      dsimp only
      rw [hr']
      exact hr
    · exact Outcome.ensures_ret.mpr hI
  | _ =>
    exact hsame rfl (localFrames_topicAliasSend.deliver (fun _ _ ↦ rfl) (fun _ _ _ ↦ rfl) (by simp [partOf])
      (by simp [partOf]))

theorem inOrder_step (hc : c.Reading) (hI : InOrder uses c.topicAliasSend)
    (hok : c.KeepsOrder uses op) : (c.step op).Ensures fun r ↦
      InOrder (readUses uses ⟨c, op, r.1, r.2⟩) r.1.topicAliasSend := by
  have hlocal (hsend : ∀ packet, op ≠ .send packet) (hrecv : ∀ data, op ≠ .recv data)
      (hclosed : op ≠ .notifyClosed) (hread : ∀ r : GenericConnection w × Reply w,
        readUses uses ⟨c, op, r.1, r.2⟩ = uses) : (c.step op).Ensures fun r ↦
          InOrder (readUses uses ⟨c, op, r.1, r.2⟩) r.1.topicAliasSend := by
    refine (localFrames_topicAliasSend.step hsend hrecv hclosed).mono fun r hr ↦ ?_
    rw [hread, hr]
    exact hI
  cases op with
  | send packet =>
    by_cases hp : ∃ p, packet = .v50Publish p
    · obtain ⟨p, rfl⟩ := hp
      exact (inOrder_publish hI hok).bind fun r hr ↦ Outcome.ensures_ret.mpr hr
    · refine (inOrder_send hI hp).bind fun r hr ↦ Outcome.ensures_ret.mpr ?_
      cases packet with
      | v50Publish p => exact (hp ⟨p, rfl⟩).elim
      | _ => exact hr
  | recv data =>
    intro r hr
    obtain ⟨r', hr', hret⟩ := Outcome.bind_eq_ret.mp hr
    obtain rfl := Outcome.ret.inj hret
    have hread : readUses uses ⟨c, .recv data, r'.1.1, Reply.received r'.1.2 r'.2⟩ =
        (c.arrival data).elim uses fun a ↦ c.usesAfter uses a.2 := by
      unfold readUses
      dsimp only
      cases c.arrival data <;> rfl
    dsimp only
    rw [hread]
    cases recv_cases hc hr' with
    | incomplete hfeed =>
      have ha : c.arrival data = none := by simp [arrival, hfeed]
      rw [ha]
      exact hI
    | malformed hfeed =>
      have ha : c.arrival data = none := by simp [arrival, hfeed]
      rw [ha]
      exact hI
    | refused hfeed harr href =>
      have ha : c.arrival data = none := by simp [arrival, hfeed, harr]
      obtain ⟨v, r', hr', hrefused, -⟩ := href.refused
      obtain rfl := Outcome.ret.inj hr'
      have hsame := localFrames_topicAliasSend.idle hrefused.idle
      rw [ha, Option.elim_none, hsame]
      exact hI
    | @delivered b raw rest v packet r hfeed harr _ hdel =>
      have ha : c.arrival data = some (v, packet) := by simp [arrival, hfeed, harr]
      rw [ha]
      have hI' : InOrder uses ({ c with packetBuilder := b }.determine v).topicAliasSend := hI
      have hafter : ({ c with packetBuilder := b }.determine v).usesAfter uses packet =
          c.usesAfter uses packet := by
        cases packet <;> rfl
      have horder := inOrder_deliver hI' packet r hdel
      rw [hafter] at horder
      exact horder
  | notifyClosed =>
    refine notifyClosed_frame.bind fun r hr ↦ Outcome.ensures_ret.mpr ?_
    have hnone : r.1.topicAliasSend = none := by
      rw [hr]
      rfl
    dsimp only [readUses]
    rw [hnone]
    exact inOrder_none
  | _ => exact hlocal (by simp) (by simp) (by simp) fun _ ↦ rfl

/-- A PUBLISH with a topic that has no alias is to get one, and all aliases are taken. -/
structure NeedsAlias (c : GenericConnection w) (s : TopicAliasSend) (p : V50.Publish w) : Prop where
  connected : c.status = .connected
  maps : c.autoMapTopicAliasSend
  aliases : c.topicAliasSend = some s
  taken : ∀ a, 1 ≤ a → a ≤ s.max → (s.peek a).isSome
  topic : ¬ p.topicName.isEmpty
  noAlias : aliasOf p = none
  unmapped : ∀ a, s.peek a ≠ some p.topicName.asStr

/-- In every run in which each PUBLISH is sent without an error, and none goes out with an alias that
was found by its topic unless that alias was used last, the alias that is bound to a new topic is
the one whose last use is the oldest. -/
theorem evicts_oldest {trace : List (Transition _ _ _)}
    (hrun : Run ((system w).monitor [] readUses) (fun p op ↦ p.1.KeepsOrder p.2 op) trace (c, uses))
    {s : TopicAliasSend} (hp : c.NeedsAlias s p) :
    (c.step (.send (.v50Publish p))).Ensures fun r ↦ errors r.2.toEvents = [] →
      ∃ a s', sentAlias r.2.toEvents = some a ∧ r.1.topicAliasSend = some s' ∧
        (∀ b, s'.peek b = if b = a then some p.topicName.asStr else s.peek b) ∧
        Oldest uses {b | 1 ≤ b ∧ b ≤ s.max} a := by
  have hI : InOrder uses c.topicAliasSend := by
    have hinv := hrun.monitored (I := fun c uses ↦ c.Reading ∧ InOrder uses c.topicAliasSend) ?_ ?_
    · exact hinv.2
    · rintro _ ⟨role, version, rfl⟩
      exact ⟨⟨[], .header⟩, inOrder_none⟩
    · intro c uses op hI hok r hr
      exact ⟨step_reading hI.1 op r hr, inOrder_step hI.1 hI.2 hok r hr⟩
  rw [hp.aliases] at hI
  have horder : s.order = recency uses := hI
  have hmaps : c.mapsTopic p := by
    have hnone : V50.topicAliasOf p.props = none := Option.map_eq_none_iff.mp hp.noAlias
    exact mapsTopic_iff.mpr ⟨hp.topic, hnone, hp.connected, s, hp.aliases, .inl hp.maps⟩
  refine (aliasUse_send p).bind fun r hr ↦ Outcome.ensures_ret.mpr fun he ↦ ?_
  have heq {s' : TopicAliasSend} (h : c.topicAliasSend = some s') : s' = s :=
    Option.some.inj (h.symm.trans hp.aliases)
  cases hr he with
  | given ha =>
    rw [hp.noAlias] at ha
    cases ha
  | found _ hs hf =>
    obtain rfl := heq hs
    exact (hp.unmapped _ (TopicAliasSend.findByTopic_spec hf)).elim
  | plain _ hno => exact (hno hmaps).elim
  | @bound a _ s' q _ hs hf hl hi hr' hq ha =>
    obtain rfl := heq hs
    obtain ⟨rest, ho⟩ := TopicAliasSend.getLruAlias_taken hp.taken hl
    obtain ⟨before, after, huses, hno, hall⟩ := oldest_of_recency (horder.symm.trans ho)
    have hsent : sentAlias r.2 = some a := by simp [sentAlias, hq, ha]
    refine ⟨a, s', hsent, hr', ?_, before, after, huses, hno, ?_⟩
    · exact (TopicAliasSend.insertOrUpdate_spec.of_ret hi).2.2
    · intro b hb hne
      refine hall b ?_ hne
      have hmem := TopicAliasSend.mem_order.mpr (hp.taken b hb.1 hb.2)
      rw [horder] at hmem
      exact mem_recency.mp hmem

theorem needsAlias_of_two {s : TopicAliasSend} (hc : c.status = .connected)
    (hm : c.autoMapTopicAliasSend) (hs : c.topicAliasSend = some s) (hmax : s.max = 2)
    (h1 : (s.peek 1).isSome) (h2 : (s.peek 2).isSome) (ht : ¬ p.topicName.isEmpty)
    (ha : aliasOf p = none) (hno : s.maps.topicToAliases.get p.topicName.asStr = none) :
    c.NeedsAlias s p := by
  refine ⟨hc, hm, hs, fun a ha₁ ha₂ ↦ ?_, ht, ha, fun a hpeek ↦ ?_⟩
  · rw [hmax] at ha₂
    obtain rfl | rfl : a = 1 ∨ a = 2 := by
      simp only [Fin.le_def, Fin.ext_iff] at *
      have hone : (1 : U16).val = 1 := rfl
      have htwo : (2 : U16).val = 2 := rfl
      omega
    · exact h1
    · exact h2
  · rw [TopicAliasSend.peek_eq, ← s.inverse] at hpeek
    obtain ⟨aliases, hget, -⟩ := hpeek
    rw [hno] at hget
    cases hget

theorem succeeds_of_step {r : GenericConnection w × Reply w}
    (hr : c.step (.send (.v50Publish p)) = .ret r) (he : errors r.2.toEvents = []) :
    c.Succeeds p := by
  intro r' hr'
  obtain ⟨r'', hr'', hret⟩ := Outcome.bind_eq_ret.mp hr
  obtain rfl := Outcome.ret.inj hret
  obtain rfl := Outcome.ret.inj (hr''.symm.trans hr')
  exact he

/-- Of two aliases, the one that was used again is kept. -/
theorem evicts_oldest_second : ∃ (c : GenericConnection .u16) (uses : List U16)
    (s : TopicAliasSend) (p : V50.Publish .u16), c.NeedsAlias s p ∧ uses = [1, 2, 1] ∧
      Oldest uses {b | 1 ≤ b ∧ b ≤ s.max} 2 := by
  obtain ⟨pa, _, pb, _, again, _, pc, _, ⟨trace, c⟩, hrun, htrace, huses, s, hs, hmax,
      h1, h2, hc, hm, ht, ha, hno, r, hr, he, hsent⟩ :
      (V50.Publish.parse (w := .u16) 0 [0, 1, 0x61, 0]).unwrap.Attains fun pa ↦
      (V50.Publish.parse (w := .u16) 0 [0, 1, 0x62, 0]).unwrap.Attains fun pb ↦
      (V50.Publish.parse (w := .u16) 0 [0, 0, 3, 0x23, 0, 1]).unwrap.Attains fun again ↦
      (V50.Publish.parse (w := .u16) 0 [0, 1, 0x63, 0]).unwrap.Attains fun pc ↦
      (clientRun .v50 2 0 [0] [.setAutoMapTopicAliasSend true]
        [.recv [0x20, 6, 0, 0, 3, 0x22, 0, 2], .send (.v50Publish pa.1), .send (.v50Publish pb.1),
          .send (.v50Publish again.1)]).Attains fun r ↦
          (r.1.all fun t ↦ (errors t.output.toEvents).isEmpty && t.input.publishSent.all fun p ↦
            (t.before.topicAliasSend.bind fun s ↦ s.findByTopic p.topicName.asStr).isNone) = true ∧
          r.1.foldl readUses [] = [1, 2, 1] ∧
          ∃ s ∈ r.2.topicAliasSend, s.max = 2 ∧ (s.peek 1).isSome ∧ (s.peek 2).isSome ∧
            r.2.status = .connected ∧ r.2.autoMapTopicAliasSend ∧ ¬ pc.1.topicName.isEmpty ∧
            aliasOf pc.1 = none ∧ s.maps.topicToAliases.get pc.1.topicName.asStr = none ∧
            (r.2.step (.send (.v50Publish pc.1))).Attains fun r' ↦
              errors r'.2.toEvents = [] ∧ sentAlias r'.2.toEvents = some 2 := by
    decide +kernel
  obtain ⟨_, hrun⟩ := exists_of_clientRun hrun
  have hinit : (system .u16).Init (new .client .u16 .v50) := ⟨.client, .v50, rfl⟩
  have hok : ∀ t ∈ trace, ∀ g, t.before.KeepsOrder g t.input := by
    intro t ht g
    have hstep := System.step_of_mem_run hrun ht
    have hgood := List.all_eq_true.mp htrace t ht
    obtain ⟨before, input, after, output⟩ := t
    cases input with
    | send packet =>
      cases packet with
      | v50Publish p =>
        obtain ⟨he, hnone⟩ := Bool.and_eq_true_iff.mp hgood
        refine ⟨succeeds_of_step hstep (List.isEmpty_iff.mp he), fun s a _ hs hf ↦ ?_⟩
        have hs' : before.topicAliasSend = some s := hs
        simp [Operation.publishSent, GenericPacket.v50PublishOf, hs', hf] at hnone
      | _ => trivial
    | _ => trivial
  obtain ⟨_, hrun⟩ := @Run.monitor_run_ok _ _ _ _ (system .u16) [] readUses
    (fun p op ↦ p.1.KeepsOrder p.2 op) _ _ _ _ hinit hok hrun
  rw [huses] at hrun
  have hneeds := needsAlias_of_two hc hm hs hmax h1 h2 ht ha hno
  obtain ⟨a, _, hsent', -, -, hold⟩ := evicts_oldest hrun hneeds r hr he
  obtain rfl := Option.some.inj (hsent'.symm.trans hsent)
  exact ⟨c, _, s, pc.1, hneeds, rfl, hold⟩

/-- An alias that was found by its topic is bound anew, although it was used last. -/
theorem found_alias_evicted : ¬ ∀ (c : GenericConnection .u16) uses trace s p r,
    Run ((system .u16).monitor [] readUses)
      (fun p op ↦ ∀ q, op = .send (.v50Publish q) → p.1.Succeeds q) trace (c, uses) →
      c.NeedsAlias s p → c.step (.send (.v50Publish p)) = .ret r → errors r.2.toEvents = [] →
      ∃ a, sentAlias r.2.toEvents = some a ∧ Oldest uses {b | 1 ≤ b ∧ b ≤ s.max} a := by
  intro h
  obtain ⟨pa, _, pb, _, pc, _, ⟨trace, c⟩, hrun, htrace, huses, s, hs, hmax,
      h1, h2, hc, hm, ht, ha, hno, r, hr, he, hsent⟩ :
      (V50.Publish.parse (w := .u16) 0 [0, 1, 0x61, 0]).unwrap.Attains fun pa ↦
      (V50.Publish.parse (w := .u16) 0 [0, 1, 0x62, 0]).unwrap.Attains fun pb ↦
      (V50.Publish.parse (w := .u16) 0 [0, 1, 0x63, 0]).unwrap.Attains fun pc ↦
      (clientRun .v50 2 0 [0] [.setAutoMapTopicAliasSend true]
        [.recv [0x20, 6, 0, 0, 3, 0x22, 0, 2], .send (.v50Publish pa.1), .send (.v50Publish pb.1),
          .send (.v50Publish pa.1)]).Attains
        fun r ↦ (r.1.all fun t ↦ (errors t.output.toEvents).isEmpty) = true ∧
          r.1.foldl readUses [] = [1, 2, 1] ∧
          ∃ s ∈ r.2.topicAliasSend, s.max = 2 ∧ (s.peek 1).isSome ∧ (s.peek 2).isSome ∧
            r.2.status = .connected ∧ r.2.autoMapTopicAliasSend ∧ ¬ pc.1.topicName.isEmpty ∧
            aliasOf pc.1 = none ∧ s.maps.topicToAliases.get pc.1.topicName.asStr = none ∧
            (r.2.step (.send (.v50Publish pc.1))).Attains fun r' ↦
              errors r'.2.toEvents = [] ∧ sentAlias r'.2.toEvents = some 1 := by
    decide +kernel
  obtain ⟨_, hrun⟩ := exists_of_clientRun hrun
  have hinit : (system .u16).Init (new .client .u16 .v50) := ⟨.client, .v50, rfl⟩
  have hok : ∀ t ∈ trace, ∀ _ : List U16, ∀ q, t.input = .send (.v50Publish q) →
      t.before.Succeeds q := by
    intro t ht _ q hq
    have hstep := System.step_of_mem_run hrun ht
    rw [hq] at hstep
    exact succeeds_of_step hstep (List.isEmpty_iff.mp (List.all_eq_true.mp htrace t ht))
  obtain ⟨_, hrun⟩ := @Run.monitor_run_ok _ _ _ _ (system .u16) [] readUses
    (fun p op ↦ ∀ q, op = .send (.v50Publish q) → p.1.Succeeds q) _ _ _ _ hinit hok hrun
  rw [huses] at hrun
  have hneeds := needsAlias_of_two hc hm hs hmax h1 h2 ht ha hno
  obtain ⟨a, hsent', before, after, hsplit, hlast, hall⟩ := h c _ _ s pc.1 r hrun hneeds hr he
  obtain rfl := Option.some.inj (hsent'.symm.trans hsent)
  have htwo : (2 : U16) ∈ after := by
    apply hall 2 ⟨by decide, by rw [hmax]⟩
    decide
  -- alias 1 was used before alias 2 and again after it
  cases before with
  | nil =>
    obtain ⟨-, rfl⟩ := List.cons.inj hsplit
    exact hlast (by decide)
  | cons b before =>
    obtain ⟨-, hsplit⟩ := List.cons.inj hsplit
    have hmem : (2 : U16) ∈ [1] := by
      cases before with
      | nil => exact absurd (List.cons.inj hsplit).1 (by decide)
      | cons b before =>
        rw [(List.cons.inj hsplit).2]
        exact List.mem_append_right _ (List.mem_cons_of_mem _ htwo)
    exact absurd hmem (by decide)

end GenericConnection

end MqttProtocolCore.Connection
