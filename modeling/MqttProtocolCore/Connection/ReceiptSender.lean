import MqttProtocolCore.Connection.HandoverSender
import MqttProtocolCore.Connection.ReceiptStage

namespace MqttProtocolCore.Connection

open General Packet GenericConnection

variable {w : IdWidth} {u id : PacketId w} {packet : GenericPacket w} {kind : AckKind} {v : Version}
  {stored : GenericStorePacket w} {s : Session w} {rep : Report w} {input : Input w} {P : Prop}
  {packets : List (GenericPacket w)}

def receiptIn (u : PacketId w) : Input w → Option Unit
  | .receive packet => receiptOf u packet
  | _ => none

def Commits (u : PacketId w) (input : Input w) (rep : Report w) : Prop :=
  ∃ packet, input = .send packet ∧ packet.publishOf = some (u, .atLeastOnce) ∧ rep.errors = []

theorem not_commits_failed (h : rep.errors ≠ []) : ¬ Commits u input rep := by
  intro hc
  obtain ⟨_, _, _, he⟩ := hc
  exact h he

theorem not_commits_other (h : publishIn input = none) : ¬ Commits u input rep := by
  intro hc
  obtain ⟨p, hin, hp, _⟩ := hc
  subst hin
  cases hp.symm.trans h

theorem not_commits_part (h : partOf packet ≠ .publish) : ¬ Commits u (.send packet) rep :=
  not_commits_other (publishOf_eq_none h)

namespace GenericConnection

variable {c : GenericConnection w}

structure Entrusts (c : GenericConnection w) (u : PacketId w) (underWay : Prop) (input : Input w) :
    Prop where
  publish : ∀ packet qos, input = .send packet → underWay → packet.publishOf ≠ some (u, qos)
  kept : ∀ packet, input = .send packet → packet.publishOf = some (u, .atLeastOnce) →
    c.storesPublish ∧ ¬ c.withdraws packet
  apart : ∀ packet, input = .send packet → packet.publishOf = some (u, .atLeastOnce) →
    (∀ kind, kind ≠ .puback → u ∉ c.session.awaits kind) ∧ u ≠ 0
  pubrel : ∀ packet, input = .send packet → underWay → packet.pubrelOf ≠ some u
  subscription : ∀ packet kind, input = .send packet → underWay →
    subscriptionOf packet ≠ some (kind, u)
  released : underWay → input ≠ .release u
  closed : input ≠ .close
  restored : ∀ packets, input ≠ .restore packets

/-- What the sender makes of the message with an identifier in a step: it offers the message when it
accepts it or when the session is resumed, and gives it up for a receipt or with the session. -/
structure Lent (c : GenericConnection w) (u : PacketId w) (underWay : Prop) (input : Input w)
    (s : Session w) (rep : Report w) : Prop where
  lends : s.Lends u ((underWay ∨ Commits u input rep) ∧ u ∈ s.used)
  once : offersIn u rep.requested ≤ 1
  fresh : 0 < offersIn u rep.requested → (underWay ∨ Commits u input rep) ∧ u ∈ s.used
  again : 0 < offersIn u rep.requested → underWay → Greets input rep
  connected : 0 < offersIn u rep.requested → c.status = .connected ∨ Greets input rep
  ended : underWay → u ∉ s.used → (receiptIn u input).isSome ∨ Renews c rep input
  released : u ∈ rep.released → underWay → (receiptIn u input).isSome

/-- An input without a part in the exchange leaves it where it is. -/
theorem lent_rest (h : s.Lends u P) (hreq : ∀ p ∈ rep.requested, offerOf u p = none)
    (hcommits : ¬ Commits u input rep) (hreleased : P → u ∉ rep.released) :
    c.Lent u P input s rep := by
  have hsame : ((P ∨ Commits u input rep) ∧ u ∈ s.used) = P := by
    apply propext
    constructor
    · intro hp
      exact hp.1.resolve_right hcommits
    · exact fun hp ↦ ⟨.inl hp, h.used hp⟩
  have hquiet := offersIn_eq_zero hreq
  refine ⟨hsame.symm ▸ h, by omega, fun hpos ↦ by omega, fun hpos ↦ by omega, fun hpos ↦ by omega,
    fun hp hfree ↦ (hfree (h.used hp)).elim, fun hmem hp ↦ (hreleased hp hmem).elim⟩

theorem lent_gone (hs : ¬ s.Deposits u) (hfree : u ∉ s.used)
    (hreq : ∀ p ∈ rep.requested, offerOf u p = none)
    (hended : P → (receiptIn u input).isSome ∨ Renews c rep input)
    (hreleased : u ∈ rep.released → P → (receiptIn u input).isSome) :
    c.Lent u P input s rep := by
  have hquiet := offersIn_eq_zero hreq
  have hgone : ((P ∨ Commits u input rep) ∧ u ∈ s.used) = False := eq_false fun h ↦ hfree h.2
  refine ⟨hgone.symm ▸ Session.lends_free hs, by omega, fun hpos ↦ by omega, fun hpos ↦ by omega,
    fun hpos ↦ by omega, fun hp _ ↦ hended hp, hreleased⟩

theorem lent_clear (hne : P → u ≠ 0) (hcommits : ¬ Commits u input rep)
    (hreq : ∀ p ∈ rep.requested, offerOf u p = none) (hren : Renews c rep input)
    (hreleased : rep.released = []) (s₀ : Session w) : c.Lent u P input s₀.clear rep := by
  by_cases hu : u = 0
  · refine lent_rest ?_ hreq hcommits fun hp ↦ (hne hp hu).elim
    rw [eq_false fun hp ↦ hne hp hu]
    exact Session.lends_free (Session.not_deposits_clear s₀)
  · refine lent_gone (Session.not_deposits_clear s₀) (Session.notMem_clear hu) hreq (fun _ ↦ .inr hren) ?_
    intro hmem
    rw [hreleased] at hmem
    cases hmem

theorem lent_resumed {s₀ : Session w} {limit : ℕ} {requested : List (GenericPacket w)}
    (hl : c.session.Lends u P) (hres : s₀.Resends s limit requested rep.released)
    (hused : s₀.used = c.session.used) (hawaits : s₀.awaits = c.session.awaits)
    (hstored : s₀.stored = c.session.stored) (hgreets : Greets input rep)
    (hkept : ∀ stored, c.session.stored u = some stored → s.stored u = some stored)
    (hoffers : rep.requested.filterMap (offerOf u) =
      ((s.stored u).bind fun stored ↦ offerOf u stored.toPacket).toList)
    (hcommits : ¬ Commits u input rep) : c.Lent u P input s rep := by
  have hsame : s.stored u = c.session.stored u := by
    cases hs : c.session.stored u with
    | none => rw [hres.stored, hstored, hs]; rfl
    | some stored => exact hkept stored hs
  have hnot : P → u ∉ rep.released := by
    intro hp hmem
    obtain ⟨stored, hget, hlt⟩ := (hres.released u).mp hmem
    rw [hstored] at hget
    have hfits := hkept stored hget
    rw [hres.stored, hstored, hget] at hfits
    have hle := (Option.filter_eq_some_iff.mp hfits).2
    simp only [decide_eq_true_eq] at hle
    omega
  have hlends : s.Lends u P := by
    apply hl.congr hsame
    · intro hp hu
      rw [hres.used, hused]
      exact ⟨hu, hnot hp⟩
    · intro _ kind _ hmem
      rw [hres.state] at hmem
      rwa [← hawaits]
  have hiff : ((P ∨ Commits u input rep) ∧ u ∈ s.used) = P := by
    apply propext
    constructor
    · exact fun hp ↦ hp.1.resolve_right hcommits
    · exact fun hp ↦ ⟨.inl hp, hlends.used hp⟩
  have hdeposits (hpos : 0 < offersIn u rep.requested) : P := by
    apply hlends.stored.mpr
    unfold offersIn at hpos
    rw [hoffers] at hpos
    cases hs : s.stored u with
    | none => simp [hs] at hpos
    | some stored =>
      refine ⟨stored, hs, ?_⟩
      by_contra hne
      simp [hs, offerOf_eq_none.mpr hne] at hpos
  refine ⟨hiff.symm ▸ hlends, ?_, fun hpos ↦ hiff.symm ▸ hdeposits hpos, fun _ _ ↦ hgreets,
    fun _ ↦ .inr hgreets, fun hp hfree ↦ (hfree (hlends.used hp)).elim,
    fun hmem hp ↦ (hnot hp hmem).elim⟩
  unfold offersIn
  rw [hoffers]
  cases (s.stored u).bind fun stored ↦ offerOf u stored.toPacket <;> simp

/-- A PUBLISH that is accepted is a message, or belongs to another exchange. -/
theorem lent_published {sent : GenericPacket w} {qos : Qos} (hl : c.session.Lends u P)
    (hok : c.Entrusts u P (.send packet)) (hp : packet.publishOf = some (id, qos))
    (hused : id ∈ c.session.used) (hsent : sent.publishOf = some (id, qos))
    (hs : ¬ c.storesPublish ∧ s = c.session ∨ c.storesPublish ∧ c.session.stored id = none ∧
      ∃ stored : GenericStorePacket w, stored.toPacket.publishOf = some (id, qos) ∧
        stored.toPacket.protocolVersion = packet.protocolVersion ∧ s = c.session.keep id stored) :
    c.Lent u P (.send packet) ((s.await (publishAck qos) id).counted packet.protocolVersion)
      ⟨if c.status = .connected then [sent] else [], [], [], []⟩ := by
  by_cases hmine : id = u ∧ qos = .atLeastOnce
  · obtain ⟨rfl, rfl⟩ := hmine
    have hno : ¬ P := fun hP ↦ hok.publish packet _ rfl hP hp
    obtain ⟨hapart, hne⟩ := hok.apart packet rfl hp
    have hcommits {requested : List (GenericPacket w)} :
        Commits id (.send packet) ⟨requested, [], [], []⟩ := ⟨packet, rfl, hp, rfl⟩
    obtain ⟨-, -, stored, hst, -, rfl⟩ := hs.resolve_left fun h ↦ h.1 (hok.kept packet rfl hp).1
    have hlends : ((c.session.keep id stored).await (publishAck .atLeastOnce) id).Lends id True := by
      refine ⟨iff_of_true trivial ⟨stored, by simp [Session.await, Session.keep], hst⟩,
        fun _ ↦ hused, fun _ kind hk hmem ↦ ?_, fun _ ↦ hne⟩
      have hold := (Session.mem_awaits_await.mp hmem).resolve_left fun h ↦ hk h.2
      exact hapart kind hk hold
    have hlent := hlends.counted packet.protocolVersion
    have hall : ((P ∨ Commits id (.send packet) (⟨if c.status = .connected then [sent] else [],
        [], [], []⟩ : Report w)) ∧ id ∈ ((((c.session.keep id stored).await (publishAck .atLeastOnce)
          id).counted packet.protocolVersion).used)) = True :=
      eq_true ⟨.inr hcommits, hlent.used trivial⟩
    refine ⟨hall.symm ▸ hlent, ?_, fun _ ↦ hall.symm ▸ trivial, fun _ h ↦ (hno h).elim,
      fun hpos ↦ .inl ?_, fun h ↦ (hno h).elim, fun hmem ↦ by cases hmem⟩
    · dsimp only
      split
      · rw [offersIn_singleton hsent]
        split <;> omega
      · exact Nat.zero_le _
    · by_contra hst
      simp [hst, offersIn] at hpos
  · have hother : P → id ≠ u := by
      intro hP heq
      subst heq
      exact hok.publish packet qos rfl hP hp
    refine lent_rest (Session.Lends.counted (Session.Lends.await ?_ hother) _) (fun p hmem ↦ ?_) ?_
      fun _ ↦ List.not_mem_nil
    · rcases hs with ⟨-, rfl⟩ | ⟨-, hnone, stored, hst, -, rfl⟩
      · exact hl
      · by_cases hu : id = u
        · subst hu
          refine hl.absent (fun hP ↦ hother hP rfl) fun hd ↦ ?_
          refine (Session.not_deposits_keep ?_ hd).elim
          rw [hst]
          intro heq
          exact hmine ⟨rfl, congrArg Prod.snd (Option.some.inj heq)⟩
        · exact hl.keep hu
    · dsimp only at hmem
      split at hmem
      · rw [List.mem_singleton.mp hmem, offerOf_publish hsent, if_neg hmine]
      · cases hmem
    · intro hc
      obtain ⟨p, hin, hp', _⟩ := hc
      obtain rfl := Input.send.inj hin
      obtain ⟨rfl, rfl⟩ := Prod.mk.inj (Option.some.inj (hp.symm.trans hp'))
      exact hmine ⟨rfl, rfl⟩

theorem notMem_given {used : Bool} (h : P → id ≠ u) (hp : P) : u ∉ if used then [id] else [] := by
  split
  · exact fun hmem ↦ h hp (List.mem_singleton.mp hmem).symm
  · exact List.not_mem_nil

theorem not_commits_receive : ¬ Commits u (.receive packet) rep := not_commits_other rfl

/-- An acknowledgement ends another exchange, or the one that the message waits for. -/
theorem lent_acknowledged {response : ResponsePacket} {errors : List MqttError}
    (hl : c.session.Lends u P) (hfiled : c.session.Filed v) (hv : packet.protocolVersion = v)
    (hack : ackOf packet = some (kind, id)) (hres : responseOf packet = some response)
    (hid : id ∈ c.session.awaits kind) : c.Lent u P (.receive packet)
      ((((c.session.settle kind id).erase response id).free id).finished packet.protocolVersion)
      ⟨[], [packet], if c.pidMan.isUsedId id then [id] else [], errors⟩ := by
  by_cases hmine : id = u ∧ kind = .puback
  · obtain ⟨rfl, rfl⟩ := hmine
    have hin : (receiptIn id (.receive packet)).isSome := by simp [receiptIn, receiptOf, hack]
    refine lent_gone ?_ ?_ (fun _ hmem ↦ by cases hmem) (fun _ ↦ .inl hin) fun _ _ ↦ hin
    · rw [Session.finished_frame]
      exact Session.not_deposits_answered hfiled hack hv hres
    · rw [Session.finished_frame]
      exact fun hmem ↦ hmem.2 rfl
  · have hother : P → id ≠ u := by
      intro hp heq
      subst heq
      exact hl.apart hp kind (fun hk ↦ hmine ⟨rfl, hk⟩) hid
    have herased : ((c.session.settle kind id).erase response id).Lends u P := by
      by_cases hu : id = u
      · exact hl.absent (fun hp ↦ hother hp hu) Session.deposits_of_erase
      · exact hl.settle.erase hu
    exact lent_rest ((herased.free hother).finished _) (fun _ hmem ↦ by cases hmem)
      not_commits_receive (notMem_given hother)

theorem Change.lent (h : Change c input s rep) (hl : c.session.Lends u P)
    (hfiled : c.session.Filed v) (hok : c.Entrusts u P input)
    (hversion : ∀ packet, input = .receive packet → packet.protocolVersion = v)
    (hresent : ∀ packet present, packet.connackOf = some present →
      input = .send packet ∧ c.status = .connecting ∨ input = .receive packet ∧ present = true →
      rep.errors = [] →
        (∀ stored, c.session.stored u = some stored → s.stored u = some stored) ∧
          rep.requested.filterMap (offerOf u) =
            ((s.stored u).bind fun stored ↦ offerOf u stored.toPacket).toList) :
    c.Lent u P input s rep := by
  have hsilent {packets : List (GenericPacket w)} (hreq : ∀ p ∈ packets, Silent p) :
      ∀ p ∈ packets, offerOf u p = none := by
    intro p hp
    apply offerOf_eq_none.mpr
    simp [(hreq p hp).publish]
  have hnone {p : GenericPacket w} (hp : partOf p ≠ .publish) :
      ∀ q ∈ [p], offerOf u q = none := List.forall_mem_singleton.mpr (offerOf_of_part hp)
  cases h with
  | refused hv hst hreq herr =>
    exact lent_rest (hl.frame rfl rfl rfl) (hsilent hreq) (not_commits_failed herr) (by simp)
  | idle hcalm hst hreq hnot =>
    refine lent_rest (hl.frame rfl rfl rfl) (hsilent hreq) ?_ (by simp)
    intro hc
    obtain ⟨p, hin, hp, _⟩ := hc
    subst hin
    have hpublish : p.publishOf = none := hcalm.publish
    simp [hp] at hpublish
  | answered hans hreq hnot =>
    refine lent_rest hl (fun p hp ↦ ?_) ?_ (by simp)
    · apply offerOf_eq_none.mpr
      simp [(hreq p hp).2.2.1]
    · intro hc
      obtain ⟨p, hin, hp, _⟩ := hc
      subst hin
      obtain ⟨a, hack⟩ := Option.isSome_iff_exists.mp (show (ackOf p).isSome from hans)
      cases (partOf_publish hp).symm.trans (partOf_ack hack)
  | pubrecSent hack =>
    have hpart := partOf_ack hack
    exact lent_rest (hl.frame rfl rfl rfl) (hnone (by simp [hpart]))
      (not_commits_part (by simp [hpart])) (by simp)
  | @connectSent packet clean hp hst =>
    have hpart := partOf_connect hp
    have hquiet := hnone (p := packet) (by simp [hpart])
    have hcommits : ¬ Commits u (.send packet) (⟨[packet], [], [], []⟩ : Report w) :=
      not_commits_part (by simp [hpart])
    cases clean with
    | false => exact lent_rest (hl.opened ..) hquiet hcommits (by simp)
    | true => exact lent_clear hl.nonzero hcommits hquiet (.cleanSent hp hst (by simp)) rfl _
  | @connectReceived packet clean v' hp hst hv =>
    cases clean with
    | false => exact lent_rest (hl.opened ..) (by simp) not_commits_receive (by simp)
    | true =>
      exact lent_clear hl.nonzero not_commits_receive (by simp) (.cleanReceived hp hst (by simp)) rfl _
  | @connackSent packet present s requested released hp hst hres =>
    obtain ⟨hkept, hoffers⟩ := hresent packet present hp (.inl ⟨rfl, hst⟩) rfl
    have hgreets : Greets (.send packet) ⟨packet :: requested, [], released, []⟩ :=
      ⟨⟨packet, present, .inl rfl, hp⟩, rfl⟩
    exact lent_resumed hl hres rfl rfl rfl hgreets hkept hoffers
      (not_commits_part (by simp [partOf_connack hp]))
  | @connackResumes packet s requested released hp hres =>
    obtain ⟨hkept, hoffers⟩ := hresent packet true hp (.inr ⟨rfl, rfl⟩) rfl
    have hgreets : Greets (.receive packet) ⟨requested, [packet], released, []⟩ :=
      ⟨⟨packet, true, .inr rfl, hp⟩, rfl⟩
    exact lent_resumed hl hres rfl rfl rfl hgreets hkept hoffers not_commits_receive
  | connackAnew hp =>
    exact lent_clear hl.nonzero not_commits_receive (by simp) (.sessionDenied hp (by simp)) rfl _
  | @publishRefused packet id qos errors hp herr =>
    have hother : P → id ≠ u := fun hP heq ↦ hok.publish packet qos rfl hP (heq ▸ hp)
    exact lent_rest (hl.free hother) (by simp) (not_commits_failed herr) (notMem_given hother)
  | @publishWithdrawn packet id qos s' errors hp hw hused hs herr =>
    have hother : P → id ≠ u := fun hP heq ↦ hok.publish packet qos rfl hP (heq ▸ hp)
    refine lent_rest (Session.Lends.free (Session.Lends.await ?_ hother) hother) (by simp)
      (not_commits_failed herr) fun hP hmem ↦ hother hP (List.mem_singleton.mp hmem).symm
    rcases hs with ⟨-, rfl⟩ | ⟨-, -, stored, hst, -, rfl⟩
    · exact hl
    · by_cases hu : id = u
      · subst hu
        refine hl.absent (fun hP ↦ hother hP rfl) fun hd ↦ ?_
        refine (Session.not_deposits_keep (fun heq ↦ ?_) hd).elim
        have hqos := hst.symm.trans heq
        exact (hok.kept packet rfl (hp.trans hqos)).2 hw
      · exact hl.keep hu
  | published hp hno hused hsent hs =>
    exact lent_published hl hok hp hused hsent.1 hs
  | @pubrelSent packet id s' hp hused hs =>
    have hother : P → id ≠ u := fun hP heq ↦ hok.pubrel packet rfl hP (heq ▸ hp)
    have hpart := partOf_pubrel hp
    have hl' : s'.Lends u P := by
      rcases hs with ⟨-, rfl⟩ | ⟨-, -, stored, hst, rfl⟩
      · exact hl
      · by_cases hu : id = u
        · subst hu
          refine hl.absent (fun hP ↦ hother hP rfl) fun hd ↦ ?_
          refine (Session.not_deposits_keep ?_ hd).elim
          rw [hst, publishOf_eq_none (by simp [hpart])]
          simp
        · exact hl.keep hu
    refine lent_rest ?_ (fun p hmem ↦ ?_) (not_commits_part (by simp [hpart])) (by simp)
    · split
      · exact hl'.await hother
      · exact hl'
    · dsimp only at hmem
      split at hmem
      · rw [List.mem_singleton.mp hmem]
        exact offerOf_of_part (by simp [hpart])
      · cases hmem
  | @subscribed packet kind id hp hused =>
    have hother : P → id ≠ u := fun hP heq ↦ hok.subscription packet kind rfl hP (heq ▸ hp)
    have hpart := partOf_subscription hp
    exact lent_rest (hl.await hother) (hnone (by simp [hpart])) (not_commits_part (by simp [hpart]))
      (by simp)
  | @subscriptionRefused packet kind id errors hp herr =>
    have hother : P → id ≠ u := fun hP heq ↦ hok.subscription packet kind rfl hP (heq ▸ hp)
    exact lent_rest (hl.free hother) (by simp) (not_commits_failed herr) (notMem_given hother)
  | @publishReceived packet notice id requested errors hp hn hreq =>
    refine lent_rest (hl.frame rfl rfl rfl) (fun p hmem ↦ ?_) not_commits_receive (by simp)
    exact offerOf_of_part (by simp [partOf_ack (hreq p hmem).1])
  | publishDropped hid hqos hadm hres hst hreq herr =>
    exact lent_rest (hl.frame rfl rfl rfl) (hsilent hreq) not_commits_receive (by simp)
  | @acknowledged packet kind id response hack hkind hres hid =>
    exact lent_acknowledged hl hfiled (hversion packet rfl) hack hres hid
  | @pubrecReceived packet id response s' requested errors hack hres hcont hid hs =>
    have hother : P → id ≠ u := by
      intro hP heq
      subst heq
      exact hl.apart hP .pubrec (by simp) hid
    have herased : ((c.session.settle .pubrec id).erase response id).Lends u P := by
      by_cases hu : id = u
      · exact hl.absent (fun hP ↦ hother hP hu) Session.deposits_of_erase
      · exact hl.settle.erase hu
    refine lent_rest ?_ (fun p hmem ↦ ?_) not_commits_receive (by simp)
    · rcases hs with ⟨-, -, rfl⟩ | ⟨-, -, p, hp, -, ⟨-, rfl⟩ | ⟨-, -, q, hq, rfl⟩⟩
      · exact herased
      · exact herased.await hother
      · refine Session.Lends.await ?_ hother
        by_cases hu : id = u
        · subst hu
          refine herased.absent (fun hP ↦ hother hP rfl) fun hd ↦ ?_
          refine (Session.not_deposits_keep ?_ hd).elim
          rw [hq, publishOf_eq_none (by simp [partOf_pubrel hp])]
          simp
        · exact herased.keep hu
    · rcases hs with ⟨rfl, -⟩ | ⟨-, -, q, hq, rfl, -⟩
      · cases hmem
      · obtain rfl := List.mem_singleton.mp hmem
        exact offerOf_of_part (by simp [partOf_pubrel hq])
  | @pubrecFailed packet hfail hid =>
    have hack : ackOf (.v50Pubrec packet) = some (.pubrec, packet.packetId) := rfl
    exact lent_acknowledged hl hfiled (hversion _ rfl) hack rfl hid
  | @pubrelReceived packet id requested errors hp hreq =>
    refine lent_rest (hl.frame rfl rfl rfl) (fun p hmem ↦ ?_) not_commits_receive (by simp)
    exact offerOf_of_part (by simp [partOf_ack (hreq p hmem)])
  | @subscriptionAcked packet kind id hack hkind hid =>
    have hother : P → id ≠ u := by
      intro hP heq
      subst heq
      refine hl.apart hP kind ?_ hid
      rcases hkind with rfl | rfl <;> simp
    exact lent_rest (hl.settle.free hother) (by simp) not_commits_receive (notMem_given hother)
  | closed hrel => exact (hok.closed rfl).elim
  | acquired | registered =>
    refine lent_rest (hl.congr rfl (fun _ hu ↦ .inr hu) fun _ _ _ hmem ↦ hmem) (by simp)
      (not_commits_other rfl) (by simp)
  | @released id =>
    have hother : P → id ≠ u := fun hP heq ↦ hok.released hP (heq ▸ rfl)
    exact lent_rest (hl.free hother) (by simp) (not_commits_other rfl) (notMem_given hother)
  | restored => exact (hok.restored _ rfl).elim
  | restoredHandled | offline =>
    exact lent_rest (hl.frame rfl rfl rfl) (by simp) (not_commits_other rfl) (by simp)

section Step

variable {op : Operation w}

/-- What the packets in the store do when all of them are sent again. -/
theorem filterMap_offers (s : GenericStore w) :
    (s.map.entries.map fun e ↦ e.2.toPacket).filterMap (offerOf u) =
      ((s.get u).bind fun stored ↦ offerOf u stored.toPacket).toList := by
  rw [List.filterMap_map]
  refine IndexMap.filterMap_entries fun e he hne ↦ ?_
  rw [Function.comp_apply]
  apply offerOf_eq_none.mpr
  intro hp
  have hid := s.keyed e he
  rcases restoredAck_cases hid with ⟨qos, hp', -⟩ | ⟨hp', -⟩
  · exact hne (congrArg Prod.fst (Option.some.inj (hp'.symm.trans hp)))
  · cases hp'.symm.trans hp

theorem resumed_offers {limit : ℕ} {before : List (GenericPacket w)} (hc : c.Reading)
    (hfits : c.Resendable op) (h : c.Resumes op limit before)
    (hbefore : ∀ p ∈ before, offerOf u p = none) : (c.step op).Ensures fun r ↦
      (∀ stored, c.store.get u = some stored → r.1.session.stored u = some stored) ∧
        (requested r.2.toEvents).filterMap (offerOf u) =
          ((r.1.session.stored u).bind fun stored ↦ offerOf u stored.toPacket).toList := by
  intro r hr
  have hres := resumption_step hc h r hr
  have hall : (c.store.map.entries.filter fun e ↦ !Oversize limit e) = c.store.map.entries := by
    refine List.filter_eq_self.mpr fun e he ↦ ?_
    simpa [Oversize] using hfits limit before h e he
  constructor
  · intro stored hs
    have hentries := hres.store
    rw [hall] at hentries
    have hstore : r.1.store = c.store := by
      rw [GenericStore.mk.injEq, IndexMap.mk.injEq]
      exact hentries
    change r.1.store.get u = some stored
    rwa [hstore]
  · have hreq := hres.requests
    rw [← hres.store] at hreq
    rw [hreq, List.filterMap_append, List.filterMap_eq_nil_iff.mpr hbefore, List.nil_append,
      filterMap_offers]
    rfl

theorem step_lent (hc : c.Reading) (hv : c.protocolVersion = v) (hdet : v ≠ .undetermined)
    (hfiled : c.session.Filed v) (hl : c.session.Lends u P)
    (hok : c.Entrusts u P (c.inputOf op)) (hfits : c.Resendable op) :
    (c.step op).Ensures fun r ↦ c.Lent u P (c.inputOf op) r.1.session (report r.2.toEvents) := by
  intro r hr
  obtain ⟨-, c₀, hprep, hchange⟩ := (step_spec hc op).of_ret hr
  have hsess := hprep.session
  have hstored : c₀.session.stored = c.store.get := by
    rw [hsess]
    rfl
  have hstatus : c₀.status = c.status := by rw [hprep.1]
  have hl₀ : c₀.session.Lends u P := by
    rw [hsess]
    exact hl.frame rfl rfl rfl
  have hfiled₀ : c₀.session.Filed v := by
    rw [hsess]
    exact hfiled
  have hok₀ : c₀.Entrusts u P (c.inputOf op) := by
    refine ⟨hok.publish, fun packet hin hp ↦ ?_, fun packet hin hp ↦ ?_, hok.pubrel, hok.subscription,
      hok.released, hok.closed, hok.restored⟩
    · rw [withdraws_prepared hprep, show c₀.storesPublish = c.storesPublish by rw [hprep.1]; rfl]
      exact hok.kept packet hin hp
    · rw [hsess]
      exact hok.apart packet hin hp
  have hversion (packet : GenericPacket w) (hin : c.inputOf op = .receive packet) :
      packet.protocolVersion = v := by
    obtain ⟨data, v', rfl, ha⟩ := arrival_of_inputOf hin
    obtain ⟨r', hr', -⟩ := Outcome.bind_eq_ret.mp hr
    rcases (recv_delivers hc hr' ha).1 with h | h
    · rw [arrival_version ha, h, hv]
    · exact (hdet (hv.symm.trans h)).elim
  have hresent (packet : GenericPacket w) (present : Bool) (hp : packet.connackOf = some present)
      (hin : c.inputOf op = .send packet ∧ c₀.status = .connecting ∨
        c.inputOf op = .receive packet ∧ present = true)
      (herr : (report r.2.toEvents).errors = []) :
      (∀ stored, c₀.session.stored u = some stored → r.1.session.stored u = some stored) ∧
        (report r.2.toEvents).requested.filterMap (offerOf u) =
          ((r.1.session.stored u).bind fun stored ↦ offerOf u stored.toPacket).toList := by
    rw [hstored]
    rcases hin with ⟨hin, hst⟩ | ⟨hin, rfl⟩
    · obtain rfl := send_of_inputOf hin
      have hmay : c.MaySend packet := by
        by_contra hno
        obtain ⟨e, he⟩ := step_barred hno
        obtain rfl := Outcome.ret.inj (he.symm.trans hr)
        cases herr
      refine resumed_offers hc hfits (resumes_sent hp (hstatus ▸ hst) hmay)
        (List.forall_mem_singleton.mpr ?_) r hr
      exact offerOf_of_part (by simp [partOf_connack hp])
    · obtain ⟨data, v', rfl, ha⟩ := arrival_of_inputOf hin
      exact resumed_offers hc hfits (.received ha hp) (by simp) r hr
  have h := hchange.lent hl₀ hfiled₀ hok₀ hversion hresent
  refine ⟨h.lends, h.once, h.fresh, h.again, hstatus ▸ h.connected, fun hP hfree ↦ ?_, h.released⟩
  exact (h.ended hP hfree).imp_right (renews_prepared hprep)

end Step

end GenericConnection

end MqttProtocolCore.Connection
