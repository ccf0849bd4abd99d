import MqttProtocolCore.Connection.HandoverStage

namespace MqttProtocolCore.Connection

open General Packet GenericConnection

variable {w : IdWidth} {u id : PacketId w} {packet : GenericPacket w} {kind : AckKind} {v : Version}
  {stored : GenericStorePacket w} {s s' : Session w} {rep : Report w} {input : Input w}
  {stage : Stage}

def backIn (u : PacketId w) : Input w → Option Back
  | .receive packet => backOf u packet
  | _ => none

namespace GenericConnection

variable {c : GenericConnection w}

structure Spares (c : GenericConnection w) (u : PacketId w) (stage : Stage) (input : Input w) :
    Prop where
  publish : ∀ packet qos, input = .send packet → stage ≠ .idle → packet.publishOf ≠ some (u, qos)
  apart : ∀ packet, input = .send packet → packet.publishOf = some (u, .exactlyOnce) →
    c.session.Apart u ∧ u ≠ 0
  pubrel : ∀ packet, input = .send packet → packet.pubrelOf ≠ some u
  subscription : ∀ packet kind, input = .send packet → stage ≠ .idle →
    subscriptionOf packet ≠ some (kind, u)
  stored : ∀ packet p, input = .send packet → packet.publishOf = some p →
    ¬ (c.storesPublish ∧ c.withdraws packet)
  released : stage ≠ .idle → input ≠ .release u
  closed : input = .close → stage ≠ .idle → c.needStore
  restored : ∀ packets, input ≠ .restore packets

def publishIn : Input w → Option (PacketId w × Qos)
  | .send packet => packet.publishOf
  | _ => none

def Embarks (u : PacketId w) (input : Input w) (rep : Report w) : Prop :=
  ∃ packet, input = .send packet ∧ packet.publishOf = some (u, .exactlyOnce) ∧ rep.errors = []

def Greets (input : Input w) (rep : Report w) : Prop :=
  (∃ packet present, (input = .send packet ∨ input = .receive packet) ∧
    packet.connackOf = some present) ∧ rep.errors = []

/-- What the sender makes of the exchange with an identifier in a step. -/
structure Sends (c : GenericConnection w) (follows renews : Prop) (u : PacketId w) (stage : Stage)
    (input : Input w) (s : Session w) (rep : Report w) (stage' : Stage) : Prop where
  move : SenderMove follows renews stage (backIn u input) stage' (rep.requested.filterMap (forthOf u))
  at' : s.At u stage'
  freed : stage ≠ .idle → stage' = .idle → u ∉ s.used
  began : stage = .idle → (stage' ≠ .idle ↔ Embarks u input rep)
  greets : backIn u input = none → rep.requested.filterMap (forthOf u) ≠ [] → stage ≠ .idle →
    Greets input rep
  sent : rep.requested.filterMap (forthOf u) ≠ [] → c.status = .connected ∨ Greets input rep

theorem filterMap_forthOf {packets : List (GenericPacket w)}
    (h : ∀ p ∈ packets, forthOf u p = none) : packets.filterMap (forthOf u) = [] :=
  List.filterMap_eq_nil_iff.mpr h

theorem not_embarks (h : partOf packet ≠ .publish) : ¬ Embarks u (.send packet) rep := by
  intro h
  obtain ⟨p, hin, hp, _⟩ := h
  obtain rfl := Input.send.inj hin
  exact h (partOf_publish hp)

theorem not_embarks_failed (h : rep.errors ≠ []) : ¬ Embarks u input rep := fun ⟨_, _, _, he⟩ ↦ h he

theorem not_embarks_other (h : publishIn input = none) : ¬ Embarks u input rep := by
  intro h
  obtain ⟨p, hin, hp, _⟩ := h
  rw [hin] at h
  cases hp.symm.trans h

theorem not_embarks_receive : ¬ Embarks u (.receive packet) rep := not_embarks_other rfl

/-- An input without a part in the exchange leaves it where it is. -/
theorem sends_rest {follows renews : Prop} (hat : s.At u stage) (hback : backIn u input = none)
    (hreq : ∀ p ∈ rep.requested, forthOf u p = none) (hembarks : ¬ Embarks u input rep) :
    ∃ stage', c.Sends follows renews u stage input s rep stage' := by
  have hquiet := filterMap_forthOf hreq
  refine ⟨stage, ?_, hat, fun h h' ↦ (h h').elim, fun h ↦ iff_of_false (fun h' ↦ h' h) hembarks,
    fun _ h ↦ (h hquiet).elim, fun h ↦ (h hquiet).elim⟩
  rw [hback, hquiet]
  exact .rest

theorem sends_quiet {follows renews : Prop} {stage' : Stage} (hreq : ∀ p ∈ rep.requested, forthOf u p = none)
    (hmove : SenderMove follows renews stage (backIn u input) stage' []) (hat : s.At u stage')
    (hfreed : stage ≠ .idle → stage' = .idle → u ∉ s.used) (hembarks : ¬ Embarks u input rep)
    (hidle : stage = .idle → stage' = .idle) :
    c.Sends follows renews u stage input s rep stage' := by
  have hquiet := filterMap_forthOf hreq
  refine ⟨hquiet ▸ hmove, hat, hfreed, fun h ↦ iff_of_false (fun h' ↦ h' (hidle h)) hembarks,
    fun _ h ↦ (h hquiet).elim, fun h ↦ (h hquiet).elim⟩

/-- A PUBLISH that is accepted begins an exchange, or belongs to another one. -/
theorem sends_published {follows renews : Prop} {sent : GenericPacket w} {qos : Qos}
    (hat : c.session.At u stage)
    (hspares : c.Spares u stage (.send packet)) (hp : packet.publishOf = some (id, qos))
    (hused : id ∈ c.session.used) (hsent : sent.publishOf = some (id, qos))
    (hs : s' = c.session ∨ c.session.stored id = none ∧ ∃ stored : GenericStorePacket w,
      stored.toPacket.publishOf = some (id, qos) ∧ s' = c.session.keep id stored) :
    ∃ stage', c.Sends follows renews u stage (.send packet)
      ((s'.await (publishAck qos) id).counted packet.protocolVersion)
      ⟨if c.status = .connected then [sent] else [], [], [], []⟩ stage' := by
  by_cases hu : id = u
  swap
  · have hat' : s'.At u stage := by
      rcases hs with rfl | ⟨-, stored, -, rfl⟩
      · exact hat
      · exact hat.keep hu
    refine sends_rest ((hat'.await fun _ ↦ hu).counted _) rfl (fun p hmem ↦ ?_) ?_
    · dsimp only at hmem
      split at hmem
      · rw [List.mem_singleton.mp hmem, forthOf_publish hsent]
        simp [hu]
      · cases hmem
    · intro h
      obtain ⟨p, hin, hp', _⟩ := h
      obtain rfl := Input.send.inj hin
      exact hu (congrArg Prod.fst (Option.some.inj (hp.symm.trans hp')))
  subst hu
  obtain rfl : stage = .idle := by
    by_contra hne
    exact hspares.publish packet qos rfl hne hp
  have hused' : id ∈ s'.used := by
    rcases hs with rfl | ⟨-, stored, -, rfl⟩ <;> exact hused
  have hstored (stored : GenericStorePacket w) (kind : AckKind) (hget : s'.stored id = some stored)
      (hk : restoredAck stored = some kind) :
      kind = publishAck qos ∨ kind ≠ .pubrec ∧ kind ≠ .pubcomp := by
    rcases hs with rfl | ⟨-, stored', hst, rfl⟩
    · exact .inr (hat.stored stored kind hget hk)
    · obtain rfl : stored' = stored := by simpa [Session.keep] using hget
      exact .inl (restoredAck_publish hst hk)
  by_cases hq : qos = .exactlyOnce
  · subst hq
    obtain ⟨hapart, hne⟩ := hspares.apart packet rfl hp
    have hat' : (s'.await (publishAck .exactlyOnce) id).At id .offering := by
      refine ⟨fun _ ↦ hused', fun _ ↦ ?_, by simp, ?_, fun _ kind hr hc hmem ↦ ?_, fun _ ↦ hne⟩
      · simp [Session.await, publishAck]
      · intro stored kind hget hk
        rcases hstored stored kind hget hk with rfl | h
        · simp [Session.Keeps, publishAck]
        · exact h.2
      · have hmem' : id ∈ s'.awaits kind :=
          (Session.mem_awaits_await.mp hmem).resolve_left fun h ↦ hr h.2
        refine hapart kind hr hc ?_
        rcases hs with rfl | ⟨-, stored, -, rfl⟩ <;> exact hmem'
    refine ⟨.offering, ?_, hat'.counted _, fun h ↦ (h rfl).elim, fun _ ↦ ?_, fun _ _ h ↦ (h rfl).elim,
      fun h ↦ .inl ?_⟩
    · apply SenderMove.offers
      dsimp only
      split
      · right
        simp [forthOf_publish hsent]
      · exact .inl rfl
    · exact iff_of_true (by simp) ⟨packet, rfl, hp, rfl⟩
    · by_contra hst
      simp [hst] at h
  · refine sends_rest (Session.At.counted (Session.at_idle ?_) _) rfl (fun p hmem ↦ ?_) ?_
    · intro stored kind hget hk
      rcases hstored stored kind hget hk with rfl | h
      · simp [Session.Keeps, publishAck, hq]
      · exact h
    · dsimp only at hmem
      split at hmem
      · rw [List.mem_singleton.mp hmem, forthOf_publish hsent]
        simp [hq]
      · cases hmem
    · intro h
      obtain ⟨p, hin, hp', _⟩ := h
      obtain rfl := Input.send.inj hin
      exact hq (congrArg Prod.snd (Option.some.inj (hp.symm.trans hp')))

/-- The packets of a session are sent again: one that does not fit is given up. -/
theorem sends_resumed {follows renews drops : Prop} {s₀ : Session w} {limit : ℕ}
    {requested : List (GenericPacket w)} {released : List (PacketId w)}
    (hat : c.session.At u stage) (hfiled : c.session.Filed v)
    (hres : s₀.Resends s limit requested released) (hused : s₀.used = c.session.used)
    (hawaits : s₀.awaits = c.session.awaits) (hstored : s₀.stored = c.session.stored)
    (hback : backIn u input = none) (hgreets : Greets input rep)
    (hkept : drops ∨ ∀ stored, c.session.stored u = some stored → s.stored u = some stored)
    (htokens : rep.requested.filterMap (forthOf u) =
      ((s.stored u).bind fun stored ↦ forthOf u stored.toPacket).toList)
    (hembarks : ¬ Embarks u input rep) :
    ∃ stage', c.Sends follows (renews ∨ drops) u stage input s rep stage' := by
  by_cases hall : ∀ stored, c.session.stored u = some stored → s.stored u = some stored
  · have hsame : s.stored u = c.session.stored u := by
      cases hs : c.session.stored u with
      | none => rw [hres.stored, hstored, hs]; rfl
      | some stored => exact hall stored hs
    refine ⟨stage, ?_, (hat.frame hused hawaits hstored).resends hres (hstored ▸ hall), fun h h' ↦ (h h').elim,
      fun h ↦ iff_of_false (fun h' ↦ h' h) hembarks, fun _ _ _ ↦ hgreets, fun _ ↦ .inr hgreets⟩
    rw [htokens, hback, hsame]
    exact hat.resent hfiled
  · push Not at hall
    obtain ⟨stored, hs, hne⟩ := hall
    have hs₀ : s₀.stored u = some stored := hstored ▸ hs
    have hlt : limit < stored.size := by
      by_contra hle
      refine hne ?_
      rw [hres.stored, hs₀, Option.filter_some, if_pos (by simpa using hle)]
    have hnone : s.stored u = none := by
      rw [hres.stored, hs₀, Option.filter_some, if_neg (by simpa using hlt)]
    have hquiet : rep.requested.filterMap (forthOf u) = [] := by rw [htokens, hnone]; rfl
    have hfree : u ∉ s.used := by
      rw [hres.used]
      exact fun h ↦ h.2 ((hres.released u).mpr ⟨stored, hs₀, hlt⟩)
    have hat' : s.At u .idle := by
      apply Session.at_idle
      intro _ _ h
      rw [hnone] at h
      cases h
    refine ⟨.idle, ?_, hat', fun _ _ ↦ hfree, fun _ ↦ iff_of_false (fun h ↦ h rfl) hembarks,
      fun _ h ↦ (h hquiet).elim, fun h ↦ (h hquiet).elim⟩
    rw [hquiet, hback]
    exact .resets (.inr (hkept.resolve_right fun h ↦ hne (h stored hs)))

theorem Change.sends {drops : Prop} (h : Change c input s rep) (hat : c.session.At u stage)
    (hfiled : c.session.Filed v) (hspares : c.Spares u stage input)
    (hback : ∀ t ∈ backIn u input, stage = (if t = .finish then .confirming else .offering) ∧
      rep.notified ≠ [])
    (hversion : ∀ packet, input = .receive packet → packet.protocolVersion = v)
    (hresent : ∀ packet present, packet.connackOf = some present →
      input = .send packet ∧ c.status = .connecting ∨ input = .receive packet ∧ present = true →
      rep.errors = [] →
        (drops ∨ ∀ stored, c.session.stored u = some stored → s.stored u = some stored) ∧
          rep.requested.filterMap (forthOf u) =
            ((s.stored u).bind fun stored ↦ forthOf u stored.toPacket).toList) :
    ∃ stage', c.Sends (∀ packet, input = .receive packet → c.FollowsUp packet u)
      (Renews c rep input ∨ drops) u stage input s rep stage' := by
  have hsilent (rep : Report w) (hreq : ∀ p ∈ rep.requested, Silent p) :
      ∀ p ∈ rep.requested, forthOf u p = none := fun p hp ↦ forthOf_silent (hreq p hp)
  cases h with
  | refused hv hst hreq herr =>
    refine sends_rest (hat.frame rfl rfl rfl) ?_ (hsilent _ hreq) (not_embarks_failed herr)
    by_contra hne
    obtain ⟨t, ht⟩ := Option.ne_none_iff_exists'.mp hne
    exact (hback t ht).2 rfl
  | idle hcalm hst hreq hnot =>
    refine sends_rest (hat.frame rfl rfl rfl) ?_ (hsilent _ hreq) ?_
    · cases input with
      | receive packet =>
        obtain ⟨-, -, -, -, hnone⟩ := hcalm
        exact backOf_of_none hnone
      | _ => rfl
    · intro h
      obtain ⟨p, hin, hp, _⟩ := h
      subst hin
      have hpublish : p.publishOf = none := hcalm.publish
      simp [hp] at hpublish
  | answered hans hreq hnot =>
    refine sends_rest (hat.frame rfl rfl rfl) ?_ (fun p hp ↦ ?_) ?_
    · cases input with
      | receive packet =>
        obtain ⟨id, hp⟩ := hans
        exact backOf_of_part (by simp [partOf_publish hp])
      | _ => rfl
    · obtain ⟨-, -, hpublish, hpubrel, -⟩ := hreq p hp
      unfold forthOf
      simp [hpublish, hpubrel]
    · intro h
      obtain ⟨p, hin, hp, _⟩ := h
      subst hin
      obtain ⟨a, hack⟩ := Option.isSome_iff_exists.mp (show (ackOf p).isSome from hans)
      cases (partOf_publish hp).symm.trans (partOf_ack hack)
  | pubrecSent hack =>
    have hpart := partOf_ack hack
    refine sends_rest (hat.frame rfl rfl rfl) rfl ?_ (not_embarks (by simp [hpart]))
    exact List.forall_mem_singleton.mpr (forthOf_of_part (by simp [hpart]) (by simp [hpart]))
  | @connectSent packet clean hp hst =>
    have hquiet : ∀ p ∈ [packet], forthOf u p = none := List.forall_mem_singleton.mpr
      (forthOf_of_part (by simp [partOf_connect hp]) (by simp [partOf_connect hp]))
    have hembarks {rep : Report w} : ¬ Embarks u (.send packet) rep :=
      not_embarks (by simp [partOf_connect hp])
    cases clean with
    | false => exact sends_rest (hat.opened ..) rfl hquiet hembarks
    | true =>
      exact ⟨.idle, sends_quiet hquiet (.resets (.inl (.cleanSent hp hst (by simp)))) (Session.at_clear _)
        (fun hne _ ↦ Session.notMem_clear (hat.nonzero hne)) hembarks fun _ ↦ rfl⟩
  | @connectReceived packet clean v' hp hst hv =>
    have hpart : backIn u (.receive packet) = none :=
      backOf_of_part (by simp [partOf_connect hp])
    cases clean with
    | false => exact sends_rest (hat.opened ..) hpart (by simp) not_embarks_receive
    | true =>
      refine ⟨.idle, sends_quiet (by simp) ?_ (Session.at_clear _)
        (fun hne _ ↦ Session.notMem_clear (hat.nonzero hne)) not_embarks_receive fun _ ↦ rfl⟩
      rw [hpart]
      exact .resets (.inl (.cleanReceived hp hst (by simp)))
  | @connackSent packet present s requested released hp hst hres =>
    obtain ⟨hkept, htokens⟩ := hresent packet present hp (.inl ⟨rfl, hst⟩) rfl
    have hgreets : Greets (.send packet) ⟨packet :: requested, [], released, []⟩ :=
      ⟨⟨packet, present, .inl rfl, hp⟩, rfl⟩
    exact sends_resumed hat hfiled hres rfl rfl rfl rfl hgreets hkept htokens
      (not_embarks (by simp [partOf_connack hp]))
  | @connackResumes packet s requested released hp hres =>
    obtain ⟨hkept, htokens⟩ := hresent packet true hp (.inr ⟨rfl, rfl⟩) rfl
    have hgreets : Greets (.receive packet) ⟨requested, [packet], released, []⟩ :=
      ⟨⟨packet, true, .inr rfl, hp⟩, rfl⟩
    exact sends_resumed hat hfiled hres rfl rfl rfl
      (backOf_of_part (by simp [partOf_connack hp])) hgreets hkept htokens (not_embarks_other rfl)
  | @connackAnew packet hp =>
    refine ⟨.idle, sends_quiet (by simp) ?_ (Session.at_clear _)
      (fun hne _ ↦ Session.notMem_clear (hat.nonzero hne)) not_embarks_receive fun _ ↦ rfl⟩
    rw [show backIn u (.receive packet) = none from backOf_of_part (by simp [partOf_connack hp])]
    exact .resets (.inl (.sessionDenied hp (by simp)))
  | @publishRefused packet id qos errors hp herr =>
    refine sends_rest (hat.free fun hne heq ↦ ?_) rfl (by simp) (not_embarks_failed herr)
    exact hspares.publish packet qos rfl hne (heq ▸ hp)
  | @publishWithdrawn packet id qos s' errors hp hw hused hs herr =>
    obtain ⟨-, rfl⟩ := hs.resolve_right fun hs ↦ hspares.stored packet _ rfl hp ⟨hs.1, hw⟩
    have hother (hne : stage ≠ .idle) : id ≠ u := fun heq ↦
      hspares.publish packet qos rfl hne (heq ▸ hp)
    exact sends_rest ((hat.await hother).free hother) rfl (by simp) (not_embarks_failed herr)
  | @published packet sent id qos s' hp hno hused hsent hs =>
    exact sends_published hat hspares hp hused hsent.1 (hs.imp And.right fun h ↦
      ⟨h.2.1, h.2.2.imp fun _ hst ↦ ⟨hst.1, hst.2.2⟩⟩)
  | @pubrelSent packet id s' hp hused hs =>
    have hu : id ≠ u := fun heq ↦ hspares.pubrel packet rfl (heq ▸ hp)
    have hat' : s'.At u stage := by
      rcases hs with ⟨-, rfl⟩ | ⟨-, -, stored, -, rfl⟩
      · exact hat
      · exact hat.keep hu
    refine sends_rest ?_ rfl (fun p hmem ↦ ?_) (not_embarks (by simp [partOf_pubrel hp]))
    · split
      · exact hat'.await fun _ ↦ hu
      · exact hat'
    · dsimp only at hmem
      split at hmem
      · rw [List.mem_singleton.mp hmem, forthOf_pubrel hp, if_neg hu]
      · cases hmem
  | @subscribed packet kind id hp hused =>
    have hpart := partOf_subscription hp
    refine sends_rest (hat.await fun hne heq ↦ ?_) rfl (List.forall_mem_singleton.mpr ?_)
      (not_embarks (by simp [hpart]))
    · exact hspares.subscription packet kind rfl hne (heq ▸ hp)
    · exact forthOf_of_part (by simp [hpart]) (by simp [hpart])
  | @subscriptionRefused packet kind id errors hp herr =>
    refine sends_rest (hat.free fun hne heq ↦ ?_) rfl (by simp) (not_embarks_failed herr)
    exact hspares.subscription packet kind rfl hne (heq ▸ hp)
  | @publishReceived packet notice id requested errors hp hn hreq =>
    refine sends_rest (hat.frame rfl rfl rfl) (backOf_of_part (by simp [partOf_publish hp]))
      (fun p hmem ↦ ?_) not_embarks_receive
    have hpart := partOf_ack (hreq p hmem).1
    exact forthOf_of_part (by simp [hpart]) (by simp [hpart])
  | @publishDropped packet id st requested errors hid hqos hadm hres hst hreq herr =>
    exact sends_rest (hat.frame rfl rfl rfl) (backOf_of_part (by simp [partOf])) (hsilent _ hreq)
      not_embarks_receive
  | @acknowledged packet kind id response hack hkind hres hid =>
    by_cases hu : id = u
    swap
    · exact sends_rest ((((hat.settle hu).erase).free fun _ ↦ hu).finished _) (backOf_ack hack hu)
        (by simp) not_embarks_receive
    subst hu
    rcases hkind with rfl | rfl
    · obtain rfl : stage = .idle := by
        by_contra hne
        exact hat.apart hne .puback (by simp) (by simp) hid
      have hback' : backIn id (.receive packet) = none := by simp [backIn, backOf, hack]
      refine sends_rest (Session.At.finished (hat.idle fun _ hs ↦ ?_) _) hback' (by simp)
        not_embarks_receive
      exact Session.stored_of_erase hs
    · have hback' : backIn id (.receive packet) = some .finish := by simp [backIn, backOf, hack]
      obtain rfl : stage = .confirming := (hback _ hback').1
      refine ⟨.idle, sends_quiet (by simp) ?_ (Session.At.finished (Session.at_idle ?_) _)
        (fun _ _ ↦ ?_) not_embarks_receive fun _ ↦ rfl⟩
      · rw [hback']
        exact .finished
      · intro stored kind hs hk
        have hkept := hat.answered hfiled hack (hversion _ rfl) hres hs hk
        exact ⟨hkept.2, hkept.1⟩
      · rw [Session.finished_frame]
        exact fun h ↦ h.2 rfl
  | @pubrecReceived packet id response s' requested errors hack hres hcont hid hs =>
    by_cases hu : id = u
    swap
    · have hat' : ((c.session.settle .pubrec id).erase response id).At u stage :=
        (hat.settle hu).erase
      refine sends_rest ?_ (backOf_ack hack hu) ?_ not_embarks_receive
      · rcases hs with ⟨-, -, rfl⟩ | ⟨-, -, p, -, -, ⟨-, rfl⟩ | ⟨-, -, q, -, rfl⟩⟩
        · exact hat'
        · exact hat'.await fun _ ↦ hu
        · exact (hat'.keep hu).await fun _ ↦ hu
      · rcases hs with ⟨rfl, -⟩ | ⟨-, -, p, hp, rfl, -⟩
        · simp
        · exact List.forall_mem_singleton.mpr (by rw [forthOf_pubrel hp, if_neg hu])
    subst hu
    have hback' : backIn id (.receive packet) = some .accept := by
      have hc : continues packet := hcont
      simp [backIn, backOf, hack, hc]
    obtain rfl : stage = .offering := (hback _ hback').1
    have hkept (stored : GenericStorePacket w) (kind : AckKind)
        (hget : ((c.session.settle .pubrec id).erase response id).stored id = some stored)
        (hk : restoredAck stored = some kind) : kind ≠ .pubrec ∧ kind ≠ .pubcomp :=
      hat.answered hfiled hack (hversion _ rfl) hres hget hk
    have hused : id ∈ c.session.used := hat.used (by simp)
    have hapart : ((c.session.settle .pubrec id).erase response id).Apart id := by
      intro kind hr hc hmem
      refine hat.apart (by simp) kind hr hc ?_
      simpa [Session.settle, Session.erase, hr] using hmem
    rcases hs with ⟨rfl, hno, rfl⟩ | ⟨hconn, -, p, hp, rfl, hs⟩
    · refine ⟨.dropped, sends_quiet (by simp) ?_ ⟨fun _ ↦ hused, by simp, by simp, hkept,
        fun _ ↦ hapart, fun _ ↦ hat.nonzero (by simp)⟩ (by simp) not_embarks_receive (by simp)⟩
      rw [hback']
      exact .drops fun hall ↦ hno (hall packet rfl)
    · refine ⟨.confirming, ?_, ?_, by simp, by simp, fun h ↦ ?_, fun _ ↦ .inl hconn⟩
      · have htoken : forthOf id p = some .confirm := by rw [forthOf_pubrel hp, if_pos rfl]
        rw [hback']
        simp only [List.filterMap_cons, htoken, List.filterMap_nil]
        exact .confirms
      · have hapart' {s₀ : Session w} (ha : s₀.Apart id) : (s₀.await .pubcomp id).Apart id := by
          intro kind hr hc hmem
          exact ha kind hr hc ((Session.mem_awaits_await.mp hmem).resolve_left fun h ↦ hc h.2)
        rcases hs with ⟨-, rfl⟩ | ⟨-, -, q, rfl, rfl⟩
        · refine ⟨fun _ ↦ hused, by simp, fun _ ↦ by simp [Session.await], ?_, fun _ ↦ hapart' hapart,
            fun _ ↦ hat.nonzero (by simp)⟩
          exact fun stored kind hget hk ↦ (hkept stored kind hget hk).1
        · refine ⟨fun _ ↦ hused, by simp, fun _ ↦ by simp [Session.await], ?_,
            fun _ ↦ hapart' hapart, fun _ ↦ hat.nonzero (by simp)⟩
          intro stored kind hget hk
          obtain rfl : q = stored := by simpa [Session.await, Session.keep] using hget
          rw [restoredAck_pubrel hp hk]
          simp [Session.Keeps]
      · rw [hback'] at h
        cases h
  | @pubrecFailed packet hfail hid =>
    have hack : ackOf (.v50Pubrec packet) = some (.pubrec, packet.packetId) := rfl
    by_cases hu : packet.packetId = u
    swap
    · exact sends_rest ((((hat.settle hu).erase).free fun _ ↦ hu).finished _) (backOf_ack hack hu)
        (by simp) not_embarks_receive
    subst hu
    have hback' : backIn packet.packetId (.receive (.v50Pubrec packet)) = some .decline := by
      have hc : ¬ continues (GenericPacket.v50Pubrec packet) := by
        rintro (h | h)
        · cases h
        · exact hfail h
      simp [backIn, backOf, hack, hc]
    obtain rfl : stage = .offering := (hback _ hback').1
    refine ⟨.idle, sends_quiet (by simp) ?_ (Session.At.finished (Session.at_idle ?_) _)
      (fun _ _ ↦ ?_) not_embarks_receive fun _ ↦ rfl⟩
    · rw [hback']
      exact .declined
    · intro stored kind hs hk
      exact hat.answered hfiled hack (hversion _ rfl) rfl hs hk
    · rw [Session.finished_frame]
      exact fun h ↦ h.2 rfl
  | @pubrelReceived packet id requested errors hp hreq =>
    refine sends_rest (hat.frame rfl rfl rfl) (backOf_of_part (by simp [partOf_pubrel hp]))
      (fun p hmem ↦ ?_) not_embarks_receive
    have hpart := partOf_ack (hreq p hmem)
    exact forthOf_of_part (by simp [hpart]) (by simp [hpart])
  | @subscriptionAcked packet kind id hack hkind hid =>
    have hback' : backIn u (.receive packet) = none := by
      change backOf u packet = none
      unfold backOf
      rcases hkind with rfl | rfl <;> simp [hack]
    by_cases hu : id = u
    · subst hu
      obtain rfl : stage = .idle := by
        by_contra hne
        rcases hkind with rfl | rfl
        · exact hat.apart hne .suback (by simp) (by simp) hid
        · exact hat.apart hne .unsuback (by simp) (by simp) hid
      exact sends_rest (hat.idle fun _ hs ↦ hs) hback' (by simp) not_embarks_receive
    · exact sends_rest ((hat.settle hu).free fun _ ↦ hu) hback' (by simp) not_embarks_receive
  | @closed released hrel =>
    exact sends_rest (hat.closed (hspares.closed rfl)) rfl (by simp) (not_embarks_other rfl)
  | acquired | registered =>
    refine sends_rest (hat.congr ?_ ?_ ?_ ?_ ?_) rfl (by simp) (not_embarks_other rfl)
    · exact .inr
    · exact fun hu ↦ hu
    · exact fun hu ↦ hu
    · exact fun _ hs ↦ hs
    · exact fun ha ↦ ha
  | @released id =>
    exact sends_rest (hat.free fun hne heq ↦ hspares.released hne (heq ▸ rfl)) rfl (by simp)
      (not_embarks_other rfl)
  | restored => exact (hspares.restored _ rfl).elim
  | restoredHandled | offline =>
    exact sends_rest (hat.frame rfl rfl rfl) rfl (by simp) (not_embarks_other rfl)

theorem notMem_free {used : Bool} (h : u ∈ if used then [id] else []) : u ∉ (s.free id).used := by
  split at h
  · obtain rfl := List.mem_singleton.mp h
    exact fun hmem ↦ hmem.2 rfl
  · cases h

theorem Change.released_unused (h : Change c input s rep) (hu : u ∈ rep.released) : u ∉ s.used := by
  cases h with
  | connackSent hp hst hres | connackResumes hp hres =>
    rw [hres.used]
    exact fun h ↦ h.2 hu
  | publishRefused | subscriptionRefused | subscriptionAcked | released => exact notMem_free hu
  | publishWithdrawn =>
    obtain rfl := List.mem_singleton.mp hu
    exact fun h ↦ h.2 rfl
  | acknowledged | pubrecFailed =>
    rw [Session.finished_frame]
    exact notMem_free hu
  | closed hrel => exact fun h ↦ h.2 ((hrel u).mp hu).1
  | _ => cases hu

theorem Change.released_renewed (h : Change c input s rep) (hren : Renews c rep input) :
    rep.released = [] := by
  have hpart : ∀ packet, input = .send packet ∨ input = .receive packet →
      partOf packet = .connect ∨ packet.connackOf = some false ∧ input = .receive packet := by
    intro packet hin
    cases hren with
    | cleanSent hp =>
      obtain rfl := Input.send.inj (hin.resolve_right nofun)
      exact .inl (partOf_connect hp)
    | cleanReceived hp =>
      obtain rfl := Input.receive.inj (hin.resolve_left nofun)
      exact .inl (partOf_connect hp)
    | sessionDenied hp =>
      obtain rfl := Input.receive.inj (hin.resolve_left nofun)
      exact .inr ⟨hp, rfl⟩
  have hsent {packet : GenericPacket w} (hin : input = .send packet) : partOf packet = .connect :=
    (hpart packet (.inl hin)).resolve_right fun h ↦ by cases hin.symm.trans h.2
  have hother {packet : GenericPacket w} (hin : input = .receive packet) (hp : partOf packet = .ack) :
      False := by
    rcases hpart packet (.inr hin) with h | ⟨h, -⟩
    · cases hp.symm.trans h
    · cases hp.symm.trans (partOf_connack h)
  cases h with
  | connackSent hp => cases (hsent rfl).symm.trans (partOf_connack hp)
  | connackResumes hp =>
    rcases hpart _ (.inr rfl) with h | ⟨h, -⟩
    · cases h.symm.trans (partOf_connack hp)
    · cases hp.symm.trans h
  | publishRefused hp | publishWithdrawn hp => cases (hsent rfl).symm.trans (partOf_publish hp)
  | subscriptionRefused hp => cases (hsent rfl).symm.trans (partOf_subscription hp)
  | acknowledged hack | subscriptionAcked hack => exact (hother rfl (partOf_ack hack)).elim
  | pubrecFailed => exact (hother rfl rfl).elim
  | closed | released => cases hren
  | _ => rfl

section Step

variable {op : Operation w} {data : Bytes}

theorem arrival_version {v' : Version} (ha : c.arrival data = some (v', packet)) :
    packet.protocolVersion = v' := by
  unfold arrival at ha
  split at ha
  · exact (arrived_some ha).2.2
  · cases ha

/-- An acknowledgement that is awaited is handed over when it arrives. -/
theorem step_notified {v' : Version} (hc : c.Reading) (ha : c.arrival data = some (v', packet))
    (hack : ackOf packet = some (kind, id)) (hm : id ∈ c.awaiting kind) :
    (c.step (.recv data)).Ensures fun r ↦ packet ∈ notified r.2.toEvents := by
  refine Outcome.Ensures.bind (P := fun r ↦ c.recv data = .ret r) (fun r hr ↦ hr) fun r hr ↦
    Outcome.ensures_ret.mpr ?_
  obtain ⟨-, b, hdel⟩ := recv_delivers hc hr ha
  have hm' : id ∈ (({ c with packetBuilder := b } : GenericConnection w).determine v').awaiting kind := by
    cases kind <;> exact hm
  exact notified_ack hack hm' _ hdel

/-- What the packets in the store do when all of them are sent again. -/
theorem filterMap_stored (s : GenericStore w) :
    (s.map.entries.map fun e ↦ e.2.toPacket).filterMap (forthOf u) =
      ((s.get u).bind fun stored ↦ forthOf u stored.toPacket).toList := by
  rw [List.filterMap_map]
  refine IndexMap.filterMap_entries fun e he hne ↦ ?_
  rw [Function.comp_apply, forthOf_toPacket (s.keyed e he), if_neg hne]

/-- Every packet in the store fits when it is sent again. -/
def Resendable (c : GenericConnection w) (op : Operation w) : Prop :=
  ∀ limit before, c.Resumes op limit before → ∀ e ∈ c.store.map.entries, e.2.size ≤ limit

/-- Every packet in the store fits under the limit that a CONNACK leaves behind. -/
def Refits (c : GenericConnection w) (packet : GenericPacket w) : Prop :=
  ∀ e ∈ c.store.map.entries, e.2.size ≤ limitAfter c.maximumPacketSizeSend packet

instance {packet : GenericPacket w} : Decidable (c.Refits packet) :=
  inferInstanceAs (Decidable (∀ e ∈ c.store.map.entries, _))

theorem Refits.resendable {packet : GenericPacket w} {data : Bytes} (h : c.Refits packet)
    (ha : c.arrival data = some (v, packet)) : c.Resendable (.recv data) := by
  intro limit before hresumes
  cases hresumes with
  | received ha' hp =>
    obtain ⟨-, rfl⟩ := Prod.mk.inj (Option.some.inj (ha.symm.trans ha'))
    exact h

theorem step_sends (hc : c.Reading) (hv : c.protocolVersion = v) (hdet : v ≠ .undetermined)
    (hfiled : c.session.Filed v) (hat : c.session.At u stage)
    (hspares : c.Spares u stage (c.inputOf op)) (hback : ∀ t ∈ backIn u (c.inputOf op),
      stage = if t = .finish then .confirming else .offering) : (c.step op).Ensures fun r ↦ ∃ stage',
      c.Sends (∀ packet, c.inputOf op = .receive packet → c.FollowsUp packet u)
        (Renews c (report r.2.toEvents) (c.inputOf op) ∨ ¬ c.Resendable op) u stage
        (c.inputOf op) r.1.session (report r.2.toEvents) stage' := by
  intro r hr
  obtain ⟨-, c₀, hprep, hchange⟩ := (step_spec hc op).of_ret hr
  have hsess := hprep.session
  have hat₀ : c₀.session.At u stage := by
    rw [hsess]
    exact hat.frame rfl rfl rfl
  have hfiled₀ : c₀.session.Filed v := by
    rw [hsess]
    exact hfiled
  have hspares₀ : c₀.Spares u stage (c.inputOf op) := by
    refine ⟨hspares.publish, fun packet hin hp ↦ ?_, hspares.pubrel, hspares.subscription,
      fun packet p hin hp ↦ ?_, hspares.released, ?_, hspares.restored⟩
    · rw [hsess]
      exact hspares.apart packet hin hp
    · rw [withdraws_prepared hprep, show c₀.storesPublish = c.storesPublish by rw [hprep.1]; rfl]
      exact hspares.stored packet p hin hp
    · rw [hprep.1]
      exact hspares.closed
  have hback₀ : ∀ t ∈ backIn u (c.inputOf op),
      stage = (if t = .finish then .confirming else .offering) ∧
        (report r.2.toEvents).notified ≠ [] := by
    intro t ht
    refine ⟨hback t ht, ?_⟩
    cases hin : c.inputOf op with
    | receive packet =>
      rw [hin] at ht
      obtain ⟨data, v', rfl, ha⟩ := arrival_of_inputOf hin
      obtain ⟨kind, hack, hm⟩ : ∃ kind, ackOf packet = some (kind, u) ∧ u ∈ c.awaiting kind := by
        have hstage := hback t (hin ▸ ht)
        rcases backOf_cases ht with ⟨hack, hne⟩ | ⟨hack, rfl⟩
        · rw [if_neg hne] at hstage
          exact ⟨.pubrec, hack, hat.offering hstage⟩
        · rw [if_pos rfl] at hstage
          exact ⟨.pubcomp, hack, hat.confirming hstage⟩
      exact List.ne_nil_of_mem (step_notified hc ha hack hm r hr)
    | _ =>
      rw [hin] at ht
      cases ht
  have hversion (packet : GenericPacket w) (hin : c.inputOf op = .receive packet) :
      packet.protocolVersion = v := by
    obtain ⟨data, v', rfl, ha⟩ := arrival_of_inputOf hin
    obtain ⟨r', hr', -⟩ := Outcome.bind_eq_ret.mp hr
    rcases (recv_delivers hc hr' ha).1 with h | h
    · rw [arrival_version ha, h, hv]
    · exact (hdet (hv.symm.trans h)).elim
  have hstored : c₀.session.stored = c.store.get := by
    rw [hsess]
    rfl
  have hresumes (limit : ℕ) (before : List (GenericPacket w)) (h : c.Resumes op limit before)
      (hbefore : ∀ p ∈ before, forthOf u p = none) :
      (¬ c.Resendable op ∨
        ∀ stored, c₀.session.stored u = some stored → r.1.session.stored u = some stored) ∧
        (report r.2.toEvents).requested.filterMap (forthOf u) =
          ((r.1.session.stored u).bind fun stored ↦ forthOf u stored.toPacket).toList := by
    have hres := resumption_step hc h r hr
    constructor
    · refine or_iff_not_imp_left.mpr fun hfits stored hs ↦ ?_
      have hall : (c.store.map.entries.filter fun e ↦ !Oversize limit e) = c.store.map.entries := by
        refine List.filter_eq_self.mpr fun e he ↦ ?_
        simpa [Oversize] using not_not.mp hfits limit before h e he
      have hentries := hres.store
      rw [hall] at hentries
      have hstore : r.1.store = c.store := by
        rw [GenericStore.mk.injEq, IndexMap.mk.injEq]
        exact hentries
      rw [hstored] at hs
      change r.1.store.get u = some stored
      rwa [hstore]
    · have hreq := hres.requests
      rw [← hres.store] at hreq
      rw [report, hreq, List.filterMap_append, filterMap_forthOf hbefore, List.nil_append,
        filterMap_stored]
      rfl
  have hresent (packet : GenericPacket w) (present : Bool) (hp : packet.connackOf = some present)
      (hin : c.inputOf op = .send packet ∧ c₀.status = .connecting ∨
        c.inputOf op = .receive packet ∧ present = true)
      (herr : (report r.2.toEvents).errors = []) :
      (¬ c.Resendable op ∨
        ∀ stored, c₀.session.stored u = some stored → r.1.session.stored u = some stored) ∧
        (report r.2.toEvents).requested.filterMap (forthOf u) =
          ((r.1.session.stored u).bind fun stored ↦ forthOf u stored.toPacket).toList := by
    rcases hin with ⟨hin, hst⟩ | ⟨hin, rfl⟩
    · obtain rfl := send_of_inputOf hin
      have hstatus : c.status = .connecting := by
        rw [hprep.1] at hst
        exact hst
      have hmay : c.MaySend packet := by
        by_contra hno
        obtain ⟨e, he⟩ := step_barred hno
        obtain rfl := Outcome.ret.inj (he.symm.trans hr)
        cases herr
      refine hresumes _ _ (resumes_sent hp hstatus hmay) (List.forall_mem_singleton.mpr ?_)
      exact forthOf_of_part (by simp [partOf_connack hp]) (by simp [partOf_connack hp])
    · obtain ⟨data, v', rfl, ha⟩ := arrival_of_inputOf hin
      exact hresumes _ _ (.received ha hp) (by simp)
  obtain ⟨stage', h⟩ := hchange.sends hat₀ hfiled₀ hspares₀ hback₀ hversion hresent
  have hstatus : c₀.status = c.status := by rw [hprep.1]
  refine ⟨stage', ?_, h.at', h.freed, h.began, h.greets, hstatus ▸ h.sent⟩
  refine h.move.mono (fun h packet hin ↦ ?_) (.imp_left (renews_prepared hprep))
  rw [hprep.1]
  exact h packet hin

end Step

end GenericConnection

end MqttProtocolCore.Connection
