import MqttProtocolCore.Connection.Delivered

namespace MqttProtocolCore.Connection

open General Packet

variable {w : IdWidth}

def countedId : GenericPacket w → Option (PacketId w)
  | .v50Publish p => p.packetId
  | _ => none

def finishedId : GenericPacket w → Option (PacketId w)
  | .v50Puback p => some p.packetId
  | .v50Pubcomp p => some p.packetId
  | .v50Pubrec p => if p.reasonCode.any PubrecReasonCode.isFailure then some p.packetId else none
  | _ => none

def Report.opens (rep : Report w) : Bool :=
  (rep.requested ++ rep.notified).any fun p ↦ p.connectOf.isSome

def Report.inFlight (rep : Report w) (flight : List (PacketId w)) : List (PacketId w) :=
  if rep.opens then []
  else (rep.notified.filterMap finishedId).foldl List.erase flight ++
    rep.requested.filterMap countedId

namespace GenericConnection

variable {c c' : GenericConnection w} {op : Operation w} {packet : GenericPacket w}
  {s : Session w} {rep : Report w} {u id : PacketId w} {input : Input w}
  {flight : List (PacketId w)} {p : AckKind × PacketId w}

/-- The identifiers of the PUBLISH packets that were transmitted on this network connection, and
that are not finished yet. -/
def readFlight (flight : List (PacketId w))
    (t : Transition (GenericConnection w) (Operation w) (Reply w)) : List (PacketId w) :=
  (report t.output.toEvents).inFlight flight

/-- The counter agrees with the packets in flight, within the quota of the peer. -/
structure Accounts (s : Session w) (flight : List (PacketId w)) : Prop where
  unlimited : s.quota = none → s.count = 0
  within : ∀ q, s.quota = some q → s.count = flight.length ∧ flight.length ≤ q

def takesPublish (c : GenericConnection w) (p : V50.Publish w) (id : PacketId w) : Prop :=
  c.validateMaximumPacketSizeSend p.size ∧ ¬ c.cannotPublish ∧ c.pidMan.isUsedId id ∧
    ¬ (c.storesPublish ∧ p.topicName.isEmpty ∧
      (c.validateTopicAlias (V50.topicAliasOf p.props)).1 = none)

/-- The counter and the packets in flight come apart. -/
inductive Miscounts (c : GenericConnection w) (flight : List (PacketId w)) : Input w → Prop where
  | withheld {packet : V50.Publish w} {id : PacketId w} :
      packet.packetId = some id → c.publishSendMax.isSome → c.status ≠ .connected →
      ¬ c.withdraws (.v50Publish packet) → c.takesPublish packet id →
      Miscounts c flight (.send (.v50Publish packet))
  | resent {packet : GenericPacket w} {present : Bool} {id : PacketId w}
      {stored : GenericStorePacket w} :
      packet.connackOf = some present → c.permits packet → c.publishSendMax.isSome →
      c.store.get id = some stored → stored.size ≤ c.maximumPacketSizeSend →
      (countedId stored.toPacket).isSome → Miscounts c flight (.send packet)
  | resumed {packet : GenericPacket w} {id : PacketId w} {stored : GenericStorePacket w} :
      packet.connackOf = some true → (quotaAfter c.session.quota packet).isSome →
      c.store.get id = some stored → stored.size ≤ limitAfter c.maximumPacketSizeSend packet →
      (countedId stored.toPacket).isSome → Miscounts c flight (.receive packet)
  | announced {packet : GenericPacket w} {present : Bool} {q : ℕ} :
      packet.connackOf = some present → quotaAfter c.session.quota packet = some q →
      c.publishSendMax = none ∧ flight ≠ [] ∨ q < flight.length →
      Miscounts c flight (.receive packet)
  | unmatched {packet : GenericPacket w} {kind : AckKind} {id : PacketId w} :
      ackOf packet = some (kind, id) → id ∈ c.awaiting kind → finishedId packet = some id →
      c.publishSendMax.isSome → id ∉ flight →
      Miscounts c flight (.receive packet)
  | undecided {packet : V50.Pubrec w} :
      c.publishSendMax.isSome → packet.packetId ∈ c.pidPubrec →
      ¬ packet.reasonCode.all (· = .success) →
      ¬ packet.reasonCode.any PubrecReasonCode.isFailure →
      Miscounts c flight (.receive (.v50Pubrec packet))

theorem inFlight_quiet (hr : ∀ p ∈ rep.requested, countedId p = none ∧ p.connectOf = none)
    (hn : ∀ p ∈ rep.notified, finishedId p = none ∧ p.connectOf = none) :
    rep.inFlight flight = flight := by
  have hopens : ¬ rep.opens := by
    simp only [Report.opens, List.any_eq_true, List.mem_append, not_exists, not_and]
    rintro p (hp | hp)
    · simp [(hr p hp).2]
    · simp [(hn p hp).2]
  have hreq : rep.requested.filterMap countedId = [] := by
    simpa [List.filterMap_eq_nil_iff] using fun p hp ↦ (hr p hp).1
  have hnot : rep.notified.filterMap finishedId = [] := by
    simpa [List.filterMap_eq_nil_iff] using fun p hp ↦ (hn p hp).1
  simp [Report.inFlight, hopens, hreq, hnot]

theorem inFlight_open (h : packet.connectOf.isSome)
    (hm : packet ∈ rep.requested ∨ packet ∈ rep.notified) : rep.inFlight flight = [] := by
  have : rep.opens := List.any_eq_true.mpr ⟨packet, List.mem_append.mpr hm, h⟩
  simp [Report.inFlight, this]

theorem countedId_of_part {part : Part} (hp : partOf packet = part)
    (h : part ≠ .publish ∧ part ≠ .connect) : countedId packet = none ∧ packet.connectOf = none := by
  obtain ⟨h₁, h₂⟩ := hp ▸ h
  refine ⟨?_, connectOf_eq_none h₂⟩
  cases packet with
  | v50Publish => exact (h₁ rfl).elim
  | _ => rfl

theorem finishedId_of_part {part : Part} (hp : partOf packet = part)
    (h : part ≠ .ack ∧ part ≠ .connect) : finishedId packet = none ∧ packet.connectOf = none := by
  obtain ⟨h₁, h₂⟩ := hp ▸ h
  refine ⟨?_, connectOf_eq_none h₂⟩
  cases packet with
  | v50Puback | v50Pubcomp | v50Pubrec => exact (h₁ rfl).elim
  | _ => rfl

theorem countedId_of_silent (h : Silent packet) :
    countedId packet = none ∧ packet.connectOf = none := by
  refine ⟨?_, h.connect⟩
  cases packet with
  | v50Publish p => simpa [GenericPacket.publishOf, countedId] using h.publish
  | _ => rfl

theorem finishedId_of_calm (h : (Input.receive packet).Calm) :
    finishedId packet = none ∧ packet.connectOf = none := by
  obtain ⟨hc, -, -, -, hack⟩ := h
  refine ⟨?_, hc⟩
  cases packet with
  | v50Puback | v50Pubcomp | v50Pubrec => cases hack
  | _ => rfl

theorem Accounts.same {s' : Session w} (h : Accounts s flight) (hq : s'.quota = s.quota)
    (hc : s'.count = s.count) : Accounts s' flight :=
  ⟨fun hn ↦ hc.trans (h.unlimited (hq ▸ hn)), fun q hs ↦ hc ▸ h.within q (hq ▸ hs)⟩

theorem accounts_opened {v : Version} {clean keeps : Bool} {quota : Option ℕ} :
    Accounts (s.opened v clean keeps quota) [] := by
  unfold Session.opened
  cases clean <;> exact ⟨fun _ ↦ rfl, fun q _ ↦ ⟨rfl, Nat.zero_le q⟩⟩

theorem Accounts.counted (h : Accounts s flight) (hq : ∀ q, s.quota = some q → s.count ≠ q) :
    Accounts (s.counted .v50) (flight ++ [id]) := by
  unfold Session.counted
  cases hs : s.quota with
  | none =>
    rw [if_neg (by simp)]
    exact ⟨h.unlimited, fun q hq ↦ by cases hs.symm.trans hq⟩
  | some q =>
    obtain ⟨hc, hle⟩ := h.within q hs
    have hne := hq q hs
    rw [if_pos (by simp)]
    refine ⟨fun hn ↦ (by cases hn), fun q' hq' ↦ ?_⟩
    · obtain rfl := Option.some.inj hq'
      simp only [List.length_append, List.length_singleton]
      omega

theorem Accounts.finished (h : Accounts s flight) (hid : s.quota.isSome → id ∈ flight) :
    Accounts (s.finished .v50) (flight.erase id) := by
  unfold Session.finished
  cases hs : s.quota with
  | none =>
    rw [if_neg (by simp)]
    exact ⟨h.unlimited, fun q hq ↦ by cases hs.symm.trans hq⟩
  | some q =>
    obtain ⟨hc, hle⟩ := h.within q hs
    have hlen := List.length_erase_of_mem (hid (by simp [hs]))
    rw [if_pos (by simp)]
    refine ⟨fun hn ↦ (by cases hn), fun q' hq' ↦ ?_⟩
    · obtain rfl := Option.some.inj hq'
      simp only [hlen]
      omega

theorem inFlight_acked {rel : List (PacketId w)} (h : ackOf packet = some p)
    (hf : finishedId packet = some id) :
    Report.inFlight ⟨[], [packet], rel, []⟩ flight = flight.erase id := by
  have hc : packet.connectOf = none := connectOf_eq_none (by simp [partOf_ack h])
  simp [Report.inFlight, Report.opens, hc, hf]

theorem receiveMaximumOf_none {quota : Option ℕ} {props : Properties}
    (h : receiveMaximumOf quota props = none) : quota = none := by
  unfold receiveMaximumOf at h
  induction props generalizing quota with
  | nil => exact h
  | cons prop props ih =>
    have h' := ih h
    dsimp only at h'
    split at h'
    · cases h'
    · exact h'

theorem quotaAfter_none {quota : Option ℕ} (h : quotaAfter quota packet = none) : quota = none := by
  cases packet with
  | v50Connect | v50Connack => exact receiveMaximumOf_none h
  | _ => exact h

/-- The quota that a CONNACK announces covers the packets in flight. -/
theorem Accounts.announced {present : Bool} {st : ConnectionStatus}
    (h : Accounts c.session flight) (hok : ¬ Miscounts c flight (.receive packet))
    (hp : packet.connackOf = some present) :
    Accounts { c.session with status := st, quota := quotaAfter c.session.quota packet } flight := by
  refine ⟨fun hq ↦ h.unlimited (quotaAfter_none hq), fun q hq ↦ ?_⟩
  have hno : ¬ (c.publishSendMax = none ∧ flight ≠ [] ∨ q < flight.length) :=
    fun hbad ↦ hok (.announced hp hq hbad)
  rw [not_or, not_and, not_not, Nat.not_lt] at hno
  refine ⟨?_, hno.2⟩
  cases hmax : c.session.quota with
  | none =>
    have hmax' : c.publishSendMax = none := by simpa [session] using hmax
    rw [hno.1 hmax']
    exact h.unlimited hmax
  | some max => exact (h.within max hmax).1

theorem inFlight_connack {present : Bool} (hp : packet.connackOf = some present)
    {req : List (GenericPacket w)} {rel : List (PacketId w)} (hreq : ∀ p ∈ req, p.connectOf = none) :
    Report.inFlight ⟨packet :: req, [], rel, []⟩ flight = flight ++ req.filterMap countedId ∧
      Report.inFlight ⟨req, [packet], rel, []⟩ flight = flight ++ req.filterMap countedId := by
  obtain ⟨hc, hcon⟩ := countedId_of_part (partOf_connack hp) (by decide)
  obtain ⟨hf, -⟩ := finishedId_of_part (partOf_connack hp) (by decide)
  have hopens (rep : Report w) (h : ∀ p ∈ rep.requested ++ rep.notified, p = packet ∨ p ∈ req) :
      ¬ rep.opens := by
    simp only [Report.opens, List.any_eq_true, not_exists, not_and]
    intro p hp
    rcases h p hp with rfl | hp
    · simp [hcon]
    · simp [hreq p hp]
  have h₁ := hopens ⟨packet :: req, [], rel, []⟩ (by simp)
  have h₂ := hopens ⟨req, [packet], rel, []⟩ (by simp [or_comm])
  simp [Report.inFlight, h₁, h₂, hc, hf]

/-- The stored packets that are resent count only without a receive maximum. -/
theorem accounts_resent {s₀ : Session w} {limit : ℕ} {req : List (GenericPacket w)}
    {rel : List (PacketId w)} (h : s₀.Resends s limit req rel) (hI : Accounts s₀ flight)
    (hno : s₀.quota.isSome → ∀ id stored, s₀.stored id = some stored → stored.size ≤ limit →
      countedId stored.toPacket = none) : Accounts s (flight ++ req.filterMap countedId) := by
  have hquota := congrArg Session.quota h.state
  have hcount := congrArg Session.count h.state
  cases hs : s₀.quota with
  | none =>
    exact ⟨fun _ ↦ hcount.trans (hI.unlimited hs), fun q hq ↦ by cases (hquota.symm.trans hq).symm.trans hs⟩
  | some q =>
    have hreq : req.filterMap countedId = [] := by
      refine List.filterMap_eq_nil_iff.mpr fun p hp ↦ ?_
      obtain ⟨id, stored, hget, hsize, rfl⟩ := (h.requested p).mp hp
      exact hno (by simp [hs]) id stored hget hsize
    rw [hreq, List.append_nil]
    exact hI.same hquota hcount

theorem connectOf_resent {s₀ : Session w} {limit : ℕ} {req : List (GenericPacket w)}
    {rel : List (PacketId w)} (h : s₀.Resends s limit req rel) : ∀ p ∈ req, p.connectOf = none := by
  intro p hp
  obtain ⟨_, stored, -, -, rfl⟩ := (h.requested p).mp hp
  cases stored <;> rfl

/-- The counter keeps its account through every input that does not miscount. -/
theorem Change.accounts (h : Change c input s rep) (hI : Accounts c.session flight)
    (hok : ¬ Miscounts c flight input) (hpermits : ∀ p, input = .send p → c.permits p)
    (htakes : ∀ p id, input = .send (.v50Publish p) → p.packetId = some id → rep.errors = [] →
      c.takesPublish p id) : Accounts s (rep.inFlight flight) := by
  cases h with
  | refused _ _ hreq =>
    rw [inFlight_quiet (fun p hp ↦ countedId_of_silent (hreq p hp)) (by simp)]
    exact hI.same rfl rfl
  | idle _ _ hreq hnot =>
    rw [inFlight_quiet (fun p hp ↦ countedId_of_silent (hreq p hp))
      fun p hp ↦ finishedId_of_calm (hnot p hp)]
    exact hI.same rfl rfl
  | answered _ hreq hnot =>
    rw [inFlight_quiet (fun p hp ↦ ?_) fun p hp ↦ finishedId_of_calm (hnot p hp)]
    · exact hI
    · obtain ⟨h₁, -, h₃, -⟩ := hreq p hp
      refine ⟨?_, h₁⟩
      cases p with
      | v50Publish p => simpa [GenericPacket.publishOf, countedId] using h₃
      | _ => rfl
  | pubrecSent hack =>
    rw [inFlight_quiet (by simpa using countedId_of_part (partOf_ack hack) (by decide)) (by simp)]
    exact hI.same rfl rfl
  | connectSent hp =>
    rw [inFlight_open (show (GenericPacket.connectOf _).isSome by rw [hp]; rfl)
      (.inl (List.mem_singleton_self _))]
    exact accounts_opened
  | connectReceived hp =>
    rw [inFlight_open (show (GenericPacket.connectOf _).isSome by rw [hp]; rfl)
      (.inr (List.mem_singleton_self _))]
    exact accounts_opened
  | @connackSent packet present _ req rel hp hs hres =>
    rw [(inFlight_connack hp (connectOf_resent hres)).1]
    refine accounts_resent hres (hI.same rfl rfl) fun hq id stored hget hsize ↦ ?_
    by_contra hcount
    exact hok (.resent hp (hpermits _ rfl) (by simpa [session] using hq) hget hsize
      (Option.isSome_iff_ne_none.mpr hcount))
  | @connackResumes packet _ req rel hp hres =>
    rw [(inFlight_connack hp (connectOf_resent hres)).2]
    refine accounts_resent hres (hI.announced hok hp) fun hq id stored hget hsize ↦ ?_
    · by_contra hcount
      exact hok (.resumed hp hq hget hsize (Option.isSome_iff_ne_none.mpr hcount))
  | @connackAnew packet hp =>
    rw [inFlight_quiet (by simp) (by simpa using finishedId_of_part (partOf_connack hp) (by decide))]
    have hI' : Accounts { c.session with
        status := .connected, quota := quotaAfter c.session.quota packet } flight :=
      hI.announced hok hp
    exact ⟨hI'.unlimited, hI'.within⟩
  | publishRefused | subscriptionRefused | released | acquired | registered | offline |
      restoredHandled =>
    rw [inFlight_quiet (by simp) (by simp)]
    exact hI.same rfl rfl
  | publishWithdrawn _ _ _ hs =>
    rw [inFlight_quiet (by simp) (by simp)]
    rcases hs with ⟨-, rfl⟩ | ⟨-, -, _, -, -, rfl⟩ <;> exact hI.same rfl rfl
  | @published packet sent id qos s₁ hp hw hu hsent hs =>
    have hI' : Accounts ((s₁.await (publishAck qos) id)) flight ∧ s₁.quota = c.session.quota ∧
        s₁.count = c.session.count := by
      rcases hs with ⟨-, rfl⟩ | ⟨-, -, _, -, -, rfl⟩ <;> exact ⟨hI.same rfl rfl, rfl, rfl⟩
    have hopen : sent.connectOf = none := connectOf_eq_none (by simp [partOf_publish hsent.1])
    obtain ⟨hI', hq, hn⟩ := hI'
    cases packet with
    | v311Publish p =>
      have hcount : countedId sent = none := by
        cases sent <;> first | rfl | cases hsent.2
      rw [inFlight_quiet ?_ (by simp), Session.counted, if_neg (by simp [GenericPacket.protocolVersion])]
      · exact hI'
      · split
        · simpa using ⟨hcount, hopen⟩
        · simp
    | v50Publish p =>
      have hid : p.packetId = some id := by
        obtain ⟨u, hu, heq⟩ := Option.map_eq_some_iff.mp hp
        rw [hu, (Prod.mk.inj heq).1]
      have hcount : countedId sent = some id := by
        cases sent with
        | v50Publish p' =>
          obtain ⟨u, hu, heq⟩ := Option.map_eq_some_iff.mp hsent.1
          exact hu.trans (congrArg some (Prod.mk.inj heq).1)
        | v311Publish => cases hsent.2
        | _ => cases hsent.1
      by_cases hconn : c.status = .connected
      · have hfly : Report.inFlight ⟨if c.status = .connected then [sent] else [], [], [], []⟩ flight =
            flight ++ [id] := by
          simp [Report.inFlight, Report.opens, hconn, hopen, hcount]
        rw [hfly]
        refine hI'.counted fun q hq' hcq ↦ hw ?_
        have hq₀ : c.publishSendMax.map Fin.val = some q := hq.symm.trans hq'
        obtain ⟨max, hmax, rfl⟩ := Option.map_eq_some_iff.mp hq₀
        have hc₀ : c.publishSendCount.val = max.val := hn.symm.trans hcq
        simp [withdraws, quotaReached, hmax, Fin.ext hc₀]
      · have hnone : c.session.quota = none := by
          by_contra hsome
          refine hok (.withheld hid ?_ hconn hw (htakes p id rfl hid rfl))
          simpa [session, Option.ne_none_iff_isSome] using hsome
        have hsame : (s₁.await (publishAck qos) id).counted .v50 = s₁.await (publishAck qos) id :=
          if_neg (by simp [Session.await, hq, hnone])
        rw [inFlight_quiet (by simp [hconn]) (by simp)]
        exact hsame.symm ▸ hI'
    | _ => cases hp
  | pubrelSent hp _ hs =>
    rw [inFlight_quiet ?_ (by simp)]
    · rcases hs with ⟨-, rfl⟩ | ⟨-, -, _, -, rfl⟩ <;> split <;> exact hI.same rfl rfl
    · split
      · simpa using countedId_of_part (partOf_pubrel hp) (by decide)
      · simp
  | subscribed hp =>
    rw [inFlight_quiet (by simpa using countedId_of_part (partOf_subscription hp) (by decide)) (by simp)]
    exact hI.same rfl rfl
  | publishReceived hp hn hreq =>
    rw [inFlight_quiet (fun p hp ↦ countedId_of_part (partOf_ack (hreq p hp).1) (by decide)) ?_]
    · exact hI.same rfl rfl
    · split
      · simp
      · simpa using finishedId_of_part (partOf_publish hn) (by decide)
  | publishDropped _ _ _ _ _ hreq =>
    rw [inFlight_quiet (fun p hp ↦ countedId_of_silent (hreq p hp)) (by simp)]
    exact hI.same rfl rfl
  | @acknowledged packet kind id response hack hk hres hmem =>
    have hI' : Accounts (((c.session.settle kind id).erase response id).free id) flight :=
      hI.same rfl rfl
    have hmatch (hf : finishedId packet = some id) (hq : c.session.quota.isSome) : id ∈ flight := by
      by_contra hno
      exact hok (.unmatched hack hmem hf (by simpa [session] using hq) hno)
    have hquiet (hf : finishedId packet = none) (rel : List (PacketId w)) :
        Report.inFlight ⟨[], [packet], rel, []⟩ flight = flight :=
      inFlight_quiet (by simp) (by simpa using ⟨hf, connectOf_eq_none (by simp [partOf_ack hack])⟩)
    cases packet with
    | v50Puback p | v50Pubcomp p =>
      cases hack
      rw [inFlight_acked rfl rfl]
      exact hI'.finished (hmatch rfl)
    | v50Pubrec p =>
      cases hack
      rcases hk with hk | hk <;> cases hk
    | v311Puback | v311Pubcomp =>
      rw [hquiet rfl, Session.finished, if_neg (by simp [GenericPacket.protocolVersion])]
      exact hI'
    | v311Pubrec | v311Suback | v50Suback | v311Unsuback | v50Unsuback =>
      cases hack
      rcases hk with hk | hk <;> cases hk
    | _ => cases hack
  | @pubrecReceived packet id response _ requested errors hack hres hcont hmem hs =>
    rw [inFlight_quiet ?_ ?_]
    · rcases hs with ⟨-, -, rfl⟩ | ⟨-, -, _, -, -, ⟨-, rfl⟩ | ⟨-, -, _, -, rfl⟩⟩ <;>
        exact hI.same rfl rfl
    · rcases hs with ⟨rfl, -⟩ | ⟨-, -, _, hp, rfl, -⟩
      · simp
      · simpa using countedId_of_part (partOf_pubrel hp) (by decide)
    · have hc : packet.connectOf = none := connectOf_eq_none (by simp [partOf_ack hack])
      suffices hf : finishedId packet = none by simpa using ⟨hf, hc⟩
      cases packet with
      | v50Pubrec p =>
        have hall : p.reasonCode.all (· = .success) := hcont.resolve_left (by simp [GenericPacket.protocolVersion])
        cases hcode : p.reasonCode with
        | none => simp [finishedId, hcode]
        | some code =>
          rw [hcode, Option.all_some, decide_eq_true_eq] at hall
          subst hall
          simp [finishedId, hcode, show PubrecReasonCode.success.isFailure = false from rfl]
      | v50Puback | v50Pubcomp => cases hack
      | _ => rfl
  | @pubrecFailed packet hcode hmem =>
    have hI' : Accounts (((c.session.settle .pubrec packet.packetId).erase .v50Pubrec
        packet.packetId).free packet.packetId) flight := hI.same rfl rfl
    by_cases hfail : packet.reasonCode.any PubrecReasonCode.isFailure
    · have hf : finishedId (.v50Pubrec packet) = some packet.packetId := if_pos hfail
      rw [inFlight_acked rfl hf]
      refine hI'.finished fun hq ↦ ?_
      have hq' : c.session.quota.isSome := hq
      by_contra hno
      exact hok (.unmatched rfl hmem hf (by simpa [session] using hq') hno)
    · have hf : finishedId (.v50Pubrec packet) = none := if_neg hfail
      have hnone : c.session.quota = none := by
        by_contra hsome
        refine hok (.undecided ?_ hmem hcode hfail)
        simpa [session, Option.ne_none_iff_isSome] using hsome
      have hquota : ((((c.session.settle .pubrec packet.packetId).erase .v50Pubrec
          packet.packetId).free packet.packetId).quota).isSome = false :=
        Option.isSome_eq_false_iff.mpr (Option.isNone_iff_eq_none.mpr hnone)
      rw [inFlight_quiet (by simp) (by simp [hf, GenericPacket.connectOf]), Session.finished,
        if_neg (by simp [hquota])]
      exact hI'
  | pubrelReceived hp hreq =>
    rw [inFlight_quiet (fun p hp ↦ countedId_of_part (partOf_ack (hreq p hp)) (by decide))
      (by simpa using finishedId_of_part (partOf_pubrel hp) (by decide))]
    exact hI.same rfl rfl
  | @subscriptionAcked packet kind id hack hk =>
    rw [inFlight_quiet (by simp) ?_]
    · exact hI.same rfl rfl
    · have hc : packet.connectOf = none := connectOf_eq_none (by simp [partOf_ack hack])
      suffices hf : finishedId packet = none by simpa using ⟨hf, hc⟩
      cases packet with
      | v50Puback | v50Pubrec | v50Pubcomp =>
        cases hack
        rcases hk with hk | hk <;> cases hk
      | _ => rfl
  | closed =>
    rw [inFlight_quiet (by simp) (by simp)]
    exact hI.same rfl rfl
  | restored =>
    rw [inFlight_quiet (by simp) (by simp), foldl_restore_frame]
    exact hI.same rfl rfl

end GenericConnection

end MqttProtocolCore.Connection
