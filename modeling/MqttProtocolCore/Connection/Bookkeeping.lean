import MqttProtocolCore.Connection.ClientRun
import MqttProtocolCore.Connection.Fate
import MqttProtocolCore.Connection.FlowControl

namespace MqttProtocolCore.Connection

open General Packet

variable {w : IdWidth}

def Session.Busy (s : Session w) (id : PacketId w) : Prop :=
  (∃ kind, id ∈ s.awaits kind) ∨ (s.stored id).isSome

/-- The identifiers that are still needed are in use, each for one acknowledgement. -/
structure Session.Booked (s : Session w) : Prop where
  used : ∀ id, s.Busy id → id ∈ s.used
  disjoint : ∀ kind kind' id, id ∈ s.awaits kind → id ∈ s.awaits kind' → kind = kind'

namespace Session

variable {s s' : Session w} {kind kind' : AckKind} {id u : PacketId w}
  {stored : GenericStorePacket w} {response : ResponsePacket}

theorem Booked.awaited (h : s.Booked) (hid : id ∈ s.awaits kind) : id ∈ s.used :=
  h.used id (.inl ⟨kind, hid⟩)

theorem Booked.kept (h : s.Booked) (hid : s.stored id = some stored) : id ∈ s.used :=
  h.used id (.inr (Option.isSome_of_eq_some hid))

/-- Where less is awaited and stored, and what is still needed stays in use. -/
theorem Booked.thinned (h : s.Booked) (ha : ∀ kind, s'.awaits kind ⊆ s.awaits kind)
    (hu : ∀ id, s'.Busy id → id ∈ s.used → id ∈ s'.used)
    (hs : ∀ id, (s'.stored id).isSome → (s.stored id).isSome) : s'.Booked := by
  refine ⟨fun id hid ↦ hu id hid ?_, fun kind kind' id hk hk' ↦ ?_⟩
  · apply h.used
    rcases hid with ⟨kind, hk⟩ | hid
    · exact .inl ⟨kind, ha kind hk⟩
    · exact .inr (hs id hid)
  · exact h.disjoint kind kind' id (ha kind hk) (ha kind' hk')

theorem Booked.free (h : s.Booked) (hid : ¬ s.Busy id) : (s.free id).Booked := by
  apply h.thinned
  · exact fun kind ↦ subset_rfl
  · intro u hu hused
    refine ⟨hused, fun heq ↦ hid ?_⟩
    obtain rfl := heq
    exact hu
  · exact fun _ h ↦ h

theorem mem_awaits_await :
    u ∈ (s.await kind id).awaits kind' ↔ u = id ∧ kind' = kind ∨ u ∈ s.awaits kind' := by
  unfold await
  dsimp only
  by_cases hk : kind' = kind
  · subst hk
    simp
  · simp [hk]

theorem mem_awaits_settle :
    u ∈ (s.settle kind id).awaits kind' ↔ u ∈ s.awaits kind' ∧ ¬ (u = id ∧ kind' = kind) := by
  unfold settle
  dsimp only
  by_cases hk : kind' = kind
  · subst hk
    simp
  · simp [hk]

theorem Booked.await (h : s.Booked) (hused : id ∈ s.used)
    (hfree : ∀ kind', id ∈ s.awaits kind' → kind' = kind) : (s.await kind id).Booked := by
  refine ⟨fun u hu ↦ ?_, fun k k' u hk hk' ↦ ?_⟩
  · rcases hu with ⟨k, hk⟩ | hu
    · rcases mem_awaits_await.mp hk with ⟨rfl, -⟩ | hk
      · exact hused
      · exact h.awaited hk
    · exact h.used u (.inr hu)
  · rcases mem_awaits_await.mp hk with ⟨rfl, rfl⟩ | hold
    · rcases mem_awaits_await.mp hk' with ⟨-, rfl⟩ | hk'
      · rfl
      · exact (hfree k' hk').symm
    · rcases mem_awaits_await.mp hk' with ⟨rfl, rfl⟩ | hk'
      · exact hfree k hold
      · exact h.disjoint k k' u hold hk'

theorem Booked.keep (h : s.Booked) (hused : id ∈ s.used) : (s.keep id stored).Booked := by
  refine ⟨fun u hu ↦ ?_, h.disjoint⟩
  by_cases hid : u = id
  · subst hid
    exact hused
  · rcases hu with hu | hu
    · exact h.used u (.inl hu)
    · refine h.used u (.inr ?_)
      simpa [Session.keep, Function.update_of_ne hid] using hu

theorem Booked.settle (h : s.Booked) : (s.settle kind id).Booked :=
  h.thinned (fun _ _ hu ↦ (mem_awaits_settle.mp hu).1) (fun _ _ hused ↦ hused) fun _ hu ↦ hu

/-- An identifier that was awaited for one acknowledgement is awaited for none afterwards. -/
theorem Booked.settled (h : s.Booked) (hid : id ∈ s.awaits kind) :
    id ∉ (s.settle kind id).awaits kind' := by
  intro hu
  obtain ⟨hu, hne⟩ := mem_awaits_settle.mp hu
  exact hne ⟨rfl, h.disjoint kind' kind id hu hid⟩

theorem Booked.erase (h : s.Booked) : (s.erase response id).Booked := by
  apply h.thinned
  · exact fun kind ↦ subset_rfl
  · exact fun _ _ hused ↦ hused
  · intro u hu
    by_cases hid : u = id
    · subst hid
      simp only [Session.erase, Function.update_self] at hu
      cases hs : s.stored u with
      | none => simp [hs] at hu
      | some => rfl
    · simpa [Session.erase, Function.update_of_ne hid] using hu

theorem Booked.restore (h : s.Booked) (packet : GenericStorePacket w)
    (hfree : ∀ kind kind' id, GenericConnection.restoredAck packet = some kind →
      packet.packetId = some id → id ∈ s.awaits kind' → kind' = kind) : (s.restore packet).Booked := by
  unfold Session.restore
  split
  swap
  · exact h
  rename_i kind id hk hid
  dsimp only
  split
  · exact h.await ‹_› fun kind' hk' ↦ hfree kind kind' id hk hid hk'
  · have hgrown : { s with used := insert id s.used }.Booked :=
      ⟨fun u hu ↦ .inr (h.used u hu), h.disjoint⟩
    have hawaited : ({ s with used := insert id s.used }.await kind id).Booked :=
      hgrown.await (.inl rfl) fun kind' hk' ↦ hfree kind kind' id hk hid hk'
    have hkept : (({ s with used := insert id s.used }.await kind id).keep id
        ((s.stored id).getD packet)).Booked := hawaited.keep (.inl rfl)
    exact hkept

theorem Booked.restoreAll (h : s.Booked) (packets : List (GenericStorePacket w))
    (hfree : ∀ packet ∈ packets, ∀ kind kind' id, GenericConnection.restoredAck packet = some kind →
      packet.packetId = some id → id ∈ s.awaits kind' → kind' = kind)
    (hpair : ∀ packet ∈ packets, ∀ packet' ∈ packets, ∀ kind kind' id,
      GenericConnection.restoredAck packet = some kind →
      GenericConnection.restoredAck packet' = some kind' → packet.packetId = some id →
      packet'.packetId = some id → kind = kind') :
    (packets.foldl Session.restore s).Booked := by
  induction packets generalizing s with
  | nil => exact h
  | cons packet packets ih =>
    refine ih (h.restore packet (hfree packet List.mem_cons_self)) ?_ ?_
    · intro packet' hmem kind kind' id hk hid hid'
      unfold Session.restore at hid'
      split at hid'
      swap
      · exact hfree packet' (List.mem_cons_of_mem _ hmem) kind kind' id hk hid hid'
      rename_i k u hk' hu
      have hmem' : id ∈ (s.await k u).awaits kind' := by
        dsimp only at hid'
        split at hid' <;> exact hid'
      rcases mem_awaits_await.mp hmem' with ⟨rfl, rfl⟩ | hold
      · exact hpair packet List.mem_cons_self packet' (List.mem_cons_of_mem _ hmem) _ _ _ hk' hk hu hid
      · exact hfree packet' (List.mem_cons_of_mem _ hmem) kind kind' id hk hid hold
    · intro p hp p' hp'
      exact hpair p (List.mem_cons_of_mem _ hp) p' (List.mem_cons_of_mem _ hp')

theorem booked_clear (hsub : ∀ kind, ¬ publishes kind → s.awaits kind = ∅) :
    s.clear.Booked := by
  have hnone (kind : AckKind) : s.clear.awaits kind = ∅ := by
    by_cases hk : publishes kind
    · exact if_pos hk
    · exact (if_neg hk).trans (hsub kind hk)
  refine ⟨fun u hu ↦ ?_, fun kind kind' u hu ↦ ?_⟩
  · rcases hu with ⟨kind, hu⟩ | hu
    · rw [hnone] at hu
      exact hu.elim
    · cases hu
  · rw [hnone] at hu
    exact hu.elim

theorem Booked.opened (h : s.Booked) (v : Version) (clean keeps : Bool) (quota : Option ℕ) :
    (s.opened v clean keeps quota).Booked := by
  have hthin : { s with
      version := v
      status := .connecting
      keeps := keeps
      awaits := fun kind ↦ if publishes kind then s.awaits kind else ∅
      count := 0
      quota := quota }.Booked := by
    apply h.thinned
    · intro kind u hu
      dsimp only at hu
      split at hu
      · exact hu
      · exact hu.elim
    · exact fun _ _ hused ↦ hused
    · exact fun _ hu ↦ hu
  unfold Session.opened
  cases clean with
  | true => exact booked_clear fun kind hk ↦ if_neg hk
  | false => exact hthin

theorem Booked.resends {limit : ℕ} {requested : List (GenericPacket w)}
    {released : List (PacketId w)} (h : s.Booked) (hr : s.Resends s' limit requested released)
    (hfree : ∀ id ∈ released, ∀ kind, id ∉ s.awaits kind) : s'.Booked := by
  have hawaits : s'.awaits = s.awaits := by rw [hr.state]
  have hstored (id : PacketId w) (hid : (s'.stored id).isSome) : (s.stored id).isSome := by
    rw [hr.stored] at hid
    cases hs : s.stored id with
    | none => simp [hs] at hid
    | some => rfl
  apply h.thinned
  · intro kind
    rw [hawaits]
  · intro id hid hused
    rw [hr.used]
    refine ⟨hused, fun hmem ↦ ?_⟩
    rcases hid with ⟨kind, hk⟩ | hid
    · rw [hawaits] at hk
      exact hfree id hmem kind hk
    · obtain ⟨packet, hs, hsize⟩ := (hr.released id).mp hmem
      rw [hr.stored, hs, Option.filter_some] at hid
      simp [Nat.not_le.mpr hsize] at hid
  · exact hstored

theorem Booked.closed (h : s.Booked) (hfree : ∀ id ∈ s.drained, s.stored id = none) :
    s.closed.Booked := by
  apply h.thinned
  · intro kind u hu
    simp only [Session.closed] at hu
    split at hu
    · exact hu.elim
    · exact hu
  · intro id hid hused
    refine ⟨hused, fun hdrained ↦ ?_⟩
    rcases hid with ⟨kind, hk⟩ | hid
    · obtain ⟨kind', hd, hk'⟩ := hdrained
      simp only [Session.closed] at hk
      split at hk
      · exact hk.elim
      · rename_i hno
        obtain rfl := h.disjoint kind kind' id hk hk'
        exact hno hd
    · simp [Session.closed, hfree id hdrained] at hid
  · exact fun _ hu ↦ hu

end Session

namespace GenericConnection

variable {c c' : GenericConnection w} {packet : GenericPacket w} {op : Operation w}
  {input : Input w} {s : Session w} {rep : Report w} {id : PacketId w} {kind : AckKind} {qos : Qos}
  {stored : GenericStorePacket w}

def Answered (stored : GenericStorePacket w) (packet : GenericPacket w) : Prop :=
  ∃ response, responseOf packet = some response ∧ stored.responsePacket = some response

/-- An identifier is released while it is still needed, or awaited for a second
acknowledgement. -/
inductive Misbooks (c : GenericConnection w) : Input w → Prop where
  | turned {packet : GenericPacket w} {id : PacketId w} {qos : Qos} :
      packet.publishOf = some (id, qos) → c.turnsAway packet → c.session.Busy id →
      Misbooks c (.send packet)
  | withdrawn {packet : GenericPacket w} {id : PacketId w} {qos : Qos} :
      packet.publishOf = some (id, qos) → ¬ c.turnsAway packet → c.pidMan.isUsedId id →
      c.withdraws packet → Misbooks c (.send packet)
  | taken {packet : GenericPacket w} {id : PacketId w} {qos : Qos} {kind : AckKind} :
      packet.publishOf = some (id, qos) → ¬ c.turnsAway packet → id ∈ c.awaiting kind →
      kind ≠ publishAck qos → Misbooks c (.send packet)
  | pubrel {packet : GenericPacket w} {id : PacketId w} {kind : AckKind} :
      packet.pubrelOf = some id → c.status = .connected → id ∈ c.awaiting kind → kind ≠ .pubcomp →
      Misbooks c (.send packet)
  | subscribed {packet : GenericPacket w} {id : PacketId w} {kind kind' : AckKind} :
      subscriptionOf packet = some (kind, id) → c.status = .connected → id ∈ c.awaiting kind' →
      kind' ≠ kind → Misbooks c (.send packet)
  | unsubscribed {packet : GenericPacket w} {id : PacketId w} {kind : AckKind} :
      subscriptionOf packet = some (kind, id) → c.status ≠ .connected → c.session.Busy id →
      Misbooks c (.send packet)
  | resent {packet : GenericPacket w} {present : Bool} {id : PacketId w} {kind : AckKind}
      {stored : GenericStorePacket w} :
      packet.connackOf = some present → c.status = .connecting → c.store.get id = some stored →
      c.maximumPacketSizeSend < stored.size → id ∈ c.awaiting kind → Misbooks c (.send packet)
  | resumed {packet : GenericPacket w} {id : PacketId w} {kind : AckKind}
      {stored : GenericStorePacket w} :
      packet.connackOf = some true → c.store.get id = some stored →
      limitAfter c.maximumPacketSizeSend packet < stored.size → id ∈ c.awaiting kind →
      Misbooks c (.receive packet)
  | renewed {packet : GenericPacket w} {id : PacketId w} {kind : AckKind} :
      packet.connackOf = some false → ¬ Session.publishes kind → id ∈ c.awaiting kind →
      Misbooks c (.receive packet)
  | acknowledged {packet : GenericPacket w} {id : PacketId w} {kind : AckKind}
      {stored : GenericStorePacket w} :
      ackOf packet = some (kind, id) → (kind = .pubrec → ¬ continues packet) →
      id ∈ c.awaiting kind → c.store.get id = some stored → ¬ Answered stored packet →
      Misbooks c (.receive packet)
  | closed {id : PacketId w} :
      id ∈ c.session.drained → (c.store.get id).isSome → Misbooks c .close
  | released {id : PacketId w} : c.session.Busy id → Misbooks c (.release id)
  | restored {packets : List (GenericStorePacket w)} {packet : GenericStorePacket w}
      {id : PacketId w} {kind kind' : AckKind} :
      packet ∈ packets → restoredAck packet = some kind → packet.packetId = some id →
      id ∈ c.awaiting kind' → kind' ≠ kind → Misbooks c (.restore packets)
  | restoredTwice {packets : List (GenericStorePacket w)} {packet packet' : GenericStorePacket w}
      {id : PacketId w} {kind kind' : AckKind} :
      packet ∈ packets → packet' ∈ packets → packet.packetId = some id →
      packet'.packetId = some id → restoredAck packet = some kind →
      restoredAck packet' = some kind' → kind ≠ kind' → Misbooks c (.restore packets)

/-- The end of an exchange gives back an identifier that nothing needs any more. -/
theorem booked_answered (hb : c.session.Booked) {response : ResponsePacket}
    (hres : responseOf packet = some response) (hid : id ∈ c.session.awaits kind)
    (hans : ∀ stored, c.store.get id = some stored → Answered stored packet) :
    (((c.session.settle kind id).erase response id).free id).Booked := by
  apply hb.settle.erase.free
  intro hbusy
  rcases hbusy with ⟨kind', hk⟩ | hs
  · exact hb.settled hid hk
  · simp only [Session.erase, Session.settle, Function.update_self] at hs
    cases hget : c.session.stored id with
    | none => simp [hget] at hs
    | some stored =>
      obtain ⟨response', hres', hsr⟩ := hans stored hget
      obtain rfl := Option.some.inj (hres'.symm.trans hres)
      simp [hget, hsr] at hs

theorem Change.booked (h : Change c input s rep) (hb : c.session.Booked) (hok : ¬ Misbooks c input)
    (hpub : ∀ packet, input = .send packet → packet.publishOf = none ∧ subscriptionOf packet = none) :
    s.Booked := by
  have hanswered {packet : GenericPacket w} {kind : AckKind} {id : PacketId w}
      (hok : ¬ Misbooks c (.receive packet)) (hack : ackOf packet = some (kind, id))
      (hend : kind = .pubrec → ¬ continues packet) (hid : id ∈ c.session.awaits kind) :
      ∀ stored, c.store.get id = some stored → Answered stored packet := by
    intro stored hget
    by_contra hno
    exact hok (.acknowledged hack hend hid hget hno)
  cases h with
  | connectSent => exact hb.opened _ _ _ _
  | connectReceived => exact hb.opened _ _ _ _
  | connackSent hp hst hres =>
    have hb' : { c.session with status := .connected }.Booked := ⟨hb.used, hb.disjoint⟩
    apply hb'.resends hres
    intro id hid kind hk
    obtain ⟨stored, hget, hsize⟩ := (hres.released id).mp hid
    exact hok (.resent hp hst hget hsize hk)
  | @connackResumes packet _ _ _ hp hres =>
    have hb' : { c.session with
        status := .connected
        quota := quotaAfter c.session.quota packet }.Booked := ⟨hb.used, hb.disjoint⟩
    apply hb'.resends hres
    intro id hid kind hk
    obtain ⟨stored, hget, hsize⟩ := (hres.released id).mp hid
    exact hok (.resumed hp hget hsize hk)
  | connackAnew hp =>
    apply Session.booked_clear
    intro kind hkind
    refine Set.eq_empty_of_forall_notMem fun id hid ↦ ?_
    exact hok (.renewed hp hkind hid)
  | publishRefused hp => cases (hpub _ rfl).1.symm.trans hp
  | publishWithdrawn hp => cases (hpub _ rfl).1.symm.trans hp
  | published hp => cases (hpub _ rfl).1.symm.trans hp
  | @pubrelSent packet id s₀ hp hused hs =>
    have hkept : s₀.Booked ∧ s₀.awaits = c.session.awaits ∧ s₀.used = c.session.used := by
      rcases hs with ⟨-, rfl⟩ | ⟨-, -, stored, -, rfl⟩
      · exact ⟨hb, rfl, rfl⟩
      · exact ⟨hb.keep hused, rfl, rfl⟩
    obtain ⟨hb₀, hawaits, hused₀⟩ := hkept
    split
    · rename_i hst
      apply hb₀.await (hused₀ ▸ hused)
      intro kind hk
      rw [hawaits] at hk
      by_contra hne
      exact hok (.pubrel hp hst hk hne)
    · exact hb₀
  | subscribed hp => cases (hpub _ rfl).2.symm.trans hp
  | subscriptionRefused hp => cases (hpub _ rfl).2.symm.trans hp
  | acknowledged hack hkind hres hid =>
    rw [Session.finished_frame]
    have hend : ∀ {kind : AckKind}, kind = .puback ∨ kind = .pubcomp → kind ≠ .pubrec := by
      rintro _ (rfl | rfl) <;> simp
    have hb' := booked_answered hb hres hid
      (hanswered hok hack (fun h ↦ (hend hkind h).elim) hid)
    exact ⟨hb'.used, hb'.disjoint⟩
  | pubrecReceived hack hres hcont hid hs =>
    rcases hs with ⟨-, -, rfl⟩ | ⟨-, hused, _, -, -, hs⟩
    · exact hb.settle.erase
    · rcases hs with ⟨-, rfl⟩ | ⟨-, -, _, -, rfl⟩
      · exact hb.settle.erase.await hused fun kind hk ↦ (hb.settled hid hk).elim
      · exact (hb.settle.erase.keep hused).await hused fun kind hk ↦ (hb.settled hid hk).elim
  | @pubrecFailed packet hfail hid =>
    rw [Session.finished_frame]
    have hend : ¬ continues (.v50Pubrec packet) := by
      intro h
      rcases h with h | h
      · cases h
      · exact hfail h
    have hres : responseOf (.v50Pubrec packet) = some .v50Pubrec := rfl
    have hb' := booked_answered hb hres hid (hanswered hok rfl (fun _ ↦ hend) hid)
    exact ⟨hb'.used, hb'.disjoint⟩
  | @subscriptionAcked packet kind id hack hkind hid =>
    have hnone : responseOf packet = none := by
      cases packet <;> cases hack <;> first | rfl | simp at hkind
    have hkind' : kind ≠ .pubrec := by
      rintro rfl
      simp at hkind
    apply hb.settle.free
    intro hbusy
    rcases hbusy with ⟨kind', hk⟩ | hs
    · exact hb.settled hid hk
    · obtain ⟨stored, hget⟩ := Option.isSome_iff_exists.mp hs
      obtain ⟨response, hres, -⟩ :=
        hanswered hok hack (fun h ↦ (hkind' h).elim) hid stored hget
      cases hnone.symm.trans hres
  | closed =>
    apply hb.closed
    intro id hid
    by_contra hs
    exact hok (.closed hid (Option.isSome_iff_ne_none.mpr hs))
  | acquired => exact ⟨fun id hid ↦ .inr (hb.used id hid), hb.disjoint⟩
  | registered => exact ⟨fun id hid ↦ .inr (hb.used id hid), hb.disjoint⟩
  | released => exact hb.free fun hbusy ↦ hok (.released hbusy)
  | restored =>
    apply hb.restoreAll
    · intro packet hmem kind kind' id hk hid hid'
      by_contra hne
      exact hok (.restored hmem hk hid hid' hne)
    · intro packet hmem packet' hmem' kind kind' id hk hk' hid hid'
      by_contra hne
      exact hok (.restoredTwice hmem hmem' hid hid' hk hk' hne)
  | _ => exact ⟨hb.used, hb.disjoint⟩

theorem PublishFate.booked {r : Handled w} (h : PublishFate c packet id qos r)
    (hp : packet.publishOf = some (id, qos)) (hb : c.session.Booked)
    (hok : ¬ Misbooks c (.send packet)) : r.1.session.Booked := by
  cases h with
  | unknown _ hs =>
    rw [hs]
    exact hb
  | turned haway _ hs =>
    rw [hs]
    exact hb.free fun hbusy ↦ hok (.turned hp haway hbusy)
  | withdrawn haway hused hw => exact (hok (.withdrawn hp haway hused hw)).elim
  | @taken s haway hused _ hs hsess =>
    have hkept : s.Booked ∧ s.awaits = c.session.awaits ∧ s.used = c.session.used := by
      rcases hs with rfl | ⟨stored, rfl⟩
      · exact ⟨hb, rfl, rfl⟩
      · exact ⟨hb.keep hused, rfl, rfl⟩
    obtain ⟨hb₀, hawaits, hused₀⟩ := hkept
    have hb₁ : (s.await (publishAck qos) id).Booked := by
      apply hb₀.await (hused₀ ▸ hused)
      intro kind hk
      rw [hawaits] at hk
      by_contra hne
      exact hok (.taken hp haway hk hne)
    rw [hsess, Session.counted_frame]
    exact ⟨hb₁.used, hb₁.disjoint⟩

theorem SubscriptionFate.booked {r : Handled w} (h : SubscriptionFate c kind id r)
    (hp : subscriptionOf packet = some (kind, id)) (hb : c.session.Booked)
    (hok : ¬ Misbooks c (.send packet)) : r.1.session.Booked := by
  by_cases hst : c.status = .connected
  · rcases (h.awaited hst).2 with hs | ⟨hused, hs⟩
    · rw [hs]
      exact hb
    · rw [hs]
      apply hb.await hused
      intro kind' hk
      by_contra hne
      exact hok (.subscribed hp hst hk hne)
  · rw [(h.refused hst).1]
    exact hb.free fun hbusy ↦ hok (.unsubscribed hp hst hbusy)

def Unbooks (c : GenericConnection w) (op : Operation w) : Prop :=
  Misbooks c (c.inputOf op) ∧ ∀ packet, op = .send packet → c.MaySend packet

theorem turnsAway_prepared {c₀ : GenericConnection w} (h : Prepared c c₀) :
    c₀.turnsAway packet ↔ c.turnsAway packet := by
  have ha : c₀.topicAliasSend = c.topicAliasSend := by rw [h.1]
  cases packet with
  | v311Publish p =>
    rw [h.1]
    exact Iff.rfl
  | v50Publish p =>
    dsimp only [turnsAway]
    rw [validateTopicAlias_congr ha, h.1]
    exact Iff.rfl
  | _ => exact Iff.rfl

theorem misbooks_congr {c₀ : GenericConnection w} (h : Prepared c c₀) (hm : Misbooks c₀ input) :
    Misbooks c input := by
  have haway {packet : GenericPacket w} := @turnsAway_prepared w c packet c₀ h
  have hwithdraws {packet : GenericPacket w} := @withdraws_prepared w c packet c₀ h
  have hawaiting (kind : AckKind) : c₀.awaiting kind = c.awaiting kind := by
    rw [h.1]
    cases kind <;> rfl
  have hbusy (id : PacketId w) : c₀.session.Busy id ↔ c.session.Busy id := by
    rw [h.session]
    exact Iff.rfl
  cases hm with
  | turned hp ht hb => exact .turned hp (haway.mp ht) ((hbusy _).mp hb)
  | withdrawn hp ht hu hw =>
    rw [hwithdraws] at hw
    rw [h.1] at hu
    exact .withdrawn hp (fun h ↦ ht (haway.mpr h)) hu hw
  | taken hp ht hid hne =>
    rw [hawaiting] at hid
    exact .taken hp (fun h ↦ ht (haway.mpr h)) hid hne
  | pubrel hp hst hid hne =>
    rw [hawaiting] at hid
    rw [h.1] at hst
    exact .pubrel hp hst hid hne
  | subscribed hp hst hid hne =>
    rw [hawaiting] at hid
    rw [h.1] at hst
    exact .subscribed hp hst hid hne
  | unsubscribed hp hst hb =>
    rw [h.1] at hst
    exact .unsubscribed hp hst ((hbusy _).mp hb)
  | resent hp hst hget hsize hid =>
    rw [hawaiting] at hid
    rw [h.1] at hst hget hsize
    exact .resent hp hst hget hsize hid
  | resumed hp hget hsize hid =>
    rw [hawaiting] at hid
    rw [h.1] at hget hsize
    exact .resumed hp hget hsize hid
  | renewed hp hkind hid =>
    rw [hawaiting] at hid
    exact .renewed hp hkind hid
  | acknowledged hack hend hid hget hans =>
    rw [hawaiting] at hid
    rw [h.1] at hget
    exact .acknowledged hack hend hid hget hans
  | @closed id hid hget =>
    have hdrained : id ∈ c.session.drained := by
      have hsame : c₀.session.drained = c.session.drained := by
        rw [h.session]
        rfl
      exact hsame ▸ hid
    rw [h.1] at hget
    exact .closed hdrained hget
  | released hb => exact .released ((hbusy _).mp hb)
  | restored hmem hk hid hid' hne =>
    rw [hawaiting] at hid'
    exact .restored hmem hk hid hid' hne
  | restoredTwice hmem hmem' hid hid' hk hk' hne =>
    exact .restoredTwice hmem hmem' hid hid' hk hk' hne

theorem step_booked (hc : c.Reading) (hb : c.session.Booked) (hok : ¬ Unbooks c op) :
    (c.step op).Ensures fun r ↦ r.1.session.Booked := by
  intro r hr
  by_cases hmay : ∀ packet, op = .send packet → c.MaySend packet
  swap
  · push Not at hmay
    obtain ⟨packet, rfl, hno⟩ := hmay
    obtain ⟨e, he⟩ := step_barred hno
    obtain rfl := Outcome.ret.inj (he.symm.trans hr)
    exact hb
  have hmis : ¬ Misbooks c (c.inputOf op) := fun h ↦ hok ⟨h, hmay⟩
  obtain ⟨-, c₀, hprep, hchange⟩ := (step_spec hc op).of_ret hr
  have hb₀ : c₀.session.Booked := by
    rw [hprep.session]
    exact ⟨hb.used, hb.disjoint⟩
  by_cases hpub : ∀ packet, c.inputOf op = .send packet →
      packet.publishOf = none ∧ subscriptionOf packet = none
  · exact hchange.booked hb₀ (fun h ↦ hmis (misbooks_congr hprep h)) hpub
  push Not at hpub
  obtain ⟨packet, hin, hpub⟩ := hpub
  obtain rfl := send_of_inputOf hin
  obtain ⟨r', hr', hret⟩ := Outcome.bind_eq_ret.mp
    (show (c.send packet >>= fun r ↦ Outcome.ret (r.1, Reply.events r.2)) = .ret r from hr)
  obtain rfl := Outcome.ret.inj hret
  cases hp : packet.publishOf with
  | some p => exact (send_publishFate hp (hmay packet rfl) r' hr').booked hp hb hmis
  | none =>
    obtain ⟨p, hs⟩ := Option.ne_none_iff_exists'.mp (hpub hp)
    exact (send_subscriptionFate hs (hmay packet rfl) r' hr').booked hs hb hmis

/-- Every identifier that is stored or awaited is in use, so that it is not handed out again; it is
awaited for one acknowledgement, and stored once. -/
structure WellBooked (c : GenericConnection w) : Prop where
  stored : ∀ id stored, c.store.get id = some stored → c.pidMan.isUsedId id
  awaited : ∀ kind id, id ∈ c.awaiting kind → c.pidMan.isUsedId id
  acquired : ∀ id c', c.acquirePacketId = .ok (id, c') →
    c.store.get id = none ∧ ∀ kind, id ∉ c.awaiting kind
  disjoint : ∀ kind kind' id, id ∈ c.awaiting kind → id ∈ c.awaiting kind' → kind = kind'
  once : (c.store.map.entries.map fun e ↦ e.2.packetId).Nodup

theorem wellBooked_of_booked (h : c.session.Booked) : WellBooked c := by
  refine ⟨fun id stored hget ↦ h.kept hget, fun kind id hid ↦ h.awaited hid, fun id c' ha ↦ ?_,
    h.disjoint, ?_⟩
  · have hfree := (acquirePacketId_spec ha).1
    refine ⟨?_, fun kind hid ↦ hfree (h.awaited hid)⟩
    by_contra hs
    exact hfree (h.used id (.inr (Option.isSome_iff_ne_none.mpr hs)))
  · have hkeys : (c.store.map.entries.map fun e ↦ e.2.packetId) =
        (c.store.map.entries.map Prod.fst).map some := by
      rw [List.map_map]
      exact List.map_congr_left fun e he ↦ c.store.keyed e he
    rw [hkeys]
    exact c.store.map.nodup.map (Option.some_injective _)

/-- In every run in which no step makes the books wrong, they are right. -/
theorem books_kept {trace : List (Transition _ _ _)}
    (h : Run (system w) (fun c op ↦ ¬ Unbooks c op) trace c) : WellBooked c := by
  suffices hinv : c.Reading ∧ c.session.Booked from wellBooked_of_booked hinv.2
  refine h.invariant (I := fun c ↦ c.Reading ∧ c.session.Booked) ?_ ?_
  · rintro _ ⟨role, version, rfl⟩
    refine ⟨⟨[], .header⟩, ?_, ?_⟩
    · intro id hid
      rcases hid with ⟨kind, hk⟩ | hs
      · cases kind <;> cases hk
      · cases hs
    · intro kind kind' id hk
      cases kind <;> cases hk
  · intro c op ⟨hc, hb⟩ hok r hr
    exact ⟨step_reading hc op r hr, step_booked hc hb hok r hr⟩

theorem books_kept_offline : ∃ (c : GenericConnection .u16) (id : PacketId .u16),
    (∃ stored, c.store.get id = some stored) ∧ WellBooked c := by
  obtain ⟨p, _, ⟨c₁, o₁⟩, h₁, ⟨c₂, o₂⟩, h₂, ⟨hcan, hnone⟩, ⟨c₃, o₃⟩, h₃, stored, hget, -⟩ :
      (V311.Publish.parse (w := .u16) 2 [0, 1, 0x61, 0, 1]).unwrap.Attains fun p ↦
        ((new .client .u16 .v311).step (.setOfflinePublish true)).Attains fun r₁ ↦
        (r₁.1.step .acquirePacketId).Attains fun r₂ ↦ (¬ r₂.1.cannotPublish ∧
          [AckKind.puback, .pubrec, .pubcomp, .suback, .unsuback].all
            fun kind ↦ r₂.1.awaiting kind = ∅) ∧
        (r₂.1.step (.send (.v311Publish p.1))).Attains fun r₃ ↦
        ∃ stored ∈ r₃.1.store.get 1, True := by
    decide +kernel
  have hstart : Run (system .u16) (fun c op ↦ ¬ Unbooks c op) [] (new .client .u16 .v311) :=
    .init ⟨.client, .v311, rfl⟩
  obtain ⟨_, hrun₁⟩ := run_operation hstart (fun h ↦ by cases h.1) h₁
  obtain ⟨_, hrun₂⟩ := run_operation hrun₁ (fun h ↦ by cases h.1) h₂
  have hempty (kind : AckKind) (id : PacketId .u16) : id ∉ c₂.awaiting kind := by
    have h : c₂.awaiting kind = ∅ := by
      have hall := List.all_eq_true.mp hnone kind (by cases kind <;> simp)
      exact of_decide_eq_true hall
    rw [h]
    exact HashSet.notMem_empty id
  have hpublish : ¬ Unbooks c₂ (.send (.v311Publish p.1)) := by
    rintro ⟨hmis, -⟩
    cases hmis with
    | turned _ haway => exact hcan haway
    | withdrawn _ _ _ hw => cases hw
    | taken _ _ hid => exact hempty _ _ hid
    | pubrel hp => cases hp
    | subscribed hp => cases hp
    | unsubscribed hp => cases hp
    | resent hp => cases hp
  obtain ⟨_, hrun₃⟩ := run_operation hrun₂ hpublish h₃
  exact ⟨c₃, 1, ⟨stored, hget⟩, books_kept hrun₃⟩

/-- A PUBLISH that exceeds the receive maximum of the peer stays in the store and awaited, while its
identifier is free again. -/
theorem withdrawn_publish_unbooked : ¬ ∀ (c : GenericConnection .u16) trace,
    Run (system .u16) (fun _ _ ↦ True) trace c → WellBooked c := by
  intro h
  obtain ⟨q, _, q', _, ⟨trace, c⟩, hrun, ⟨stored, hget, -⟩, hused⟩ :
      (V50.Publish.parse (w := .u16) 2 [0, 1, 0x61, 0, 1, 0]).unwrap.Attains fun q ↦
        (V50.Publish.parse (w := .u16) 2 [0, 1, 0x61, 0, 2, 0]).unwrap.Attains fun q' ↦
        (clientRun .v50 0 0 [5, 0x11, 0, 0, 0, 10] []
          [.recv [0x20, 6, 0, 0, 3, 0x21, 0, 1], .acquirePacketId, .send (.v50Publish q.1),
            .acquirePacketId, .send (.v50Publish q'.1)]).Attains fun r ↦
            (∃ stored ∈ r.2.store.get 2, True) ∧ ¬ r.2.pidMan.isUsedId 2 := by
    decide +kernel
  have hbooks := h c trace (run_of_clientRun hrun)
  exact hused (hbooks.stored 2 stored hget)

end GenericConnection

end MqttProtocolCore.Connection
