import MqttProtocolCore.Connection.ClientRun
import MqttProtocolCore.Connection.OperationSpec
import MqttProtocolCore.Connection.Tracking

namespace MqttProtocolCore.Connection.GenericConnection

open General Packet GenericStore

variable {w : IdWidth} {c c' r : GenericConnection w} {packet : GenericStorePacket w}
  {id u : PacketId w} {kind : AckKind} {entries done rest : List (Entry w)}

/-- A connection holds the session of the packets that another one stored. Identifier 0, which is
never handed out, counts as used in every connection. -/
structure RestoredFrom (c r : GenericConnection w) : Prop where
  store : r.store = c.store
  used : ∀ id, r.pidMan.isUsedId id ↔
    id = 0 ∨ ∃ packet ∈ c.getStoredPackets, packet.packetId = some id
  puback : ∀ id, id ∈ r.pidPuback ↔
    ∃ packet ∈ c.getStoredPackets, packet.toPacket.publishOf = some (id, .atLeastOnce)
  pubrec : ∀ id, id ∈ r.pidPubrec ↔
    ∃ packet ∈ c.getStoredPackets, packet.toPacket.publishOf = some (id, .exactlyOnce)
  pubcomp : ∀ id, id ∈ r.pidPubcomp ↔
    ∃ packet ∈ c.getStoredPackets, packet.toPacket.pubrelOf = some id

/-- The store, the allocator and what is waited for stay as they are. -/
structure Skipped (c c' : GenericConnection w) : Prop where
  store : c'.store = c.store
  used : c'.pidMan = c.pidMan
  awaits : ∀ kind id, id ∈ c'.awaiting kind ↔ id ∈ c.awaiting kind

structure Holds (c : GenericConnection w) (entries : List (Entry w)) : Prop where
  store : c.store.map.entries = entries
  used : ∀ id, c.pidMan.isUsedId id ↔ id = 0 ∨ id ∈ entries.map Prod.fst
  awaits : ∀ kind id, id ∈ c.awaiting kind ↔ ∃ e ∈ entries, e.1 = id ∧ restoredAck e.2 = some kind

theorem holds_new (role : Role) (version : Version) : (new role w version).Holds [] where
  store := rfl
  used _ := by simp [new]
  awaits kind _ := by cases kind <;> simp [new, awaiting]

/-- A packet with an identifier is a PUBLISH that has to be acknowledged, or a PUBREL. -/
theorem restoredAck_cases (h : packet.packetId = some id) :
    (∃ qos, packet.toPacket.publishOf = some (id, qos) ∧ packet.toPacket.pubrelOf = none ∧
      restoredAck packet = some (publishAck qos) ∧ qos ≠ .atMostOnce) ∨
    packet.toPacket.publishOf = none ∧ packet.toPacket.pubrelOf = some id ∧
      restoredAck packet = some .pubcomp := by
  have hqos {qos : Qos} {id' : Option (PacketId w)} (hid : id'.isSome ↔ qos ≠ .atMostOnce)
      (h' : id' = some id) : qos ≠ .atMostOnce := hid.mp (by rw [h']; rfl)
  cases packet with
  | v311Publish p =>
    have hp : p.packetId = some id := h
    have hne := hqos p.id.2 h
    refine .inl ⟨p.qos, ?_, rfl, if_neg hne, hne⟩
    simp only [GenericStorePacket.toPacket, GenericPacket.publishOf, hp, Option.map_some]
  | v50Publish p =>
    have hp : p.packetId = some id := h
    have hne := hqos p.id.2 h
    refine .inl ⟨p.qos, ?_, rfl, if_neg hne, hne⟩
    simp only [GenericStorePacket.toPacket, GenericPacket.publishOf, hp, Option.map_some]
  | v311Pubrel p => exact .inr ⟨rfl, h, rfl⟩
  | v50Pubrel p => exact .inr ⟨rfl, h, rfl⟩

theorem restoredAck_of_packetId (h : packet.packetId = some id) :
    ∃ kind, restoredAck packet = some kind := by
  rcases restoredAck_cases h with ⟨qos, -, -, hk, -⟩ | ⟨-, -, hk⟩
  · exact ⟨_, hk⟩
  · exact ⟨_, hk⟩

theorem restoredAck_eq_publishAck {qos : Qos} (h : packet.packetId = some id)
    (hq : qos ≠ .atMostOnce) :
    restoredAck packet = some (publishAck qos) ↔ packet.toPacket.publishOf = some (id, qos) := by
  rcases restoredAck_cases h with ⟨qos', hp, -, hk, hq'⟩ | ⟨hp, -, hk⟩
  · rw [hk, hp]
    cases qos <;> cases qos' <;> simp_all [publishAck]
  · rw [hk, hp]
    cases qos <;> simp [publishAck]

theorem restoredAck_eq_pubcomp (h : packet.packetId = some id) :
    restoredAck packet = some .pubcomp ↔ packet.toPacket.pubrelOf = some id := by
  rcases restoredAck_cases h with ⟨qos, -, hp, hk, -⟩ | ⟨-, hp, hk⟩
  · rw [hk, hp]
    cases qos <;> simp [publishAck]
  · simp [hk, hp]

theorem mem_awaiting_await {kind' : AckKind} :
    u ∈ (c.await kind id).awaiting kind' ↔ kind' = kind ∧ u = id ∨ u ∈ c.awaiting kind' := by
  unfold await
  rw [awaiting_setAwaiting]
  split <;> simp_all

theorem pidMan_await : (c.await kind id).pidMan = c.pidMan := by cases kind <;> rfl

theorem store_await : (c.await kind id).store = c.store := by cases kind <;> rfl

theorem restorePacket_used (hk : restoredAck packet = some kind) (hid : packet.packetId = some id)
    (hu : c.pidMan.isUsedId id) : c.restorePacket packet = .ret (c.await kind id) := by
  unfold GenericConnection.restorePacket
  rw [hk, hid]
  dsimp only
  cases hr : (c.await kind id).pidMan.registerId id with
  | error e => rfl
  | ok man =>
    rw [pidMan_await] at hr
    exact absurd hu (PacketIdManager.registerId_spec hr).1

/-- An entry whose identifier is free and not stored is registered, tracked and stored. -/
theorem Holds.restorePacket (h : c.Holds entries) (hid : packet.packetId = some id) (h0 : id ≠ 0)
    (hnew : id ∉ entries.map Prod.fst) :
    ∃ c', c.restorePacket packet = .ret c' ∧ c'.Holds (entries ++ [(id, packet)]) := by
  obtain ⟨kind, hk⟩ := restoredAck_of_packetId hid
  have hfree : ¬ c.pidMan.isUsedId id := by
    rw [h.used]
    exact not_or.mpr ⟨h0, hnew⟩
  have hkeys : ¬ c.store.containsKey id := by
    rw [← h.store] at hnew
    exact fun hc ↦ hnew (of_decide_eq_true hc)
  unfold GenericConnection.restorePacket
  rw [hk, hid]
  dsimp only
  rw [pidMan_await]
  cases hr : c.pidMan.registerId id with
  | error e => exact absurd (PacketIdManager.registerId_error hr) hfree
  | ok man =>
    dsimp only
    rw [store_await]
    rcases GenericStore.add_spec (s := c.store) hid with ⟨hc, -⟩ | ⟨-, s, hadd, -⟩
    · exact absurd hc hkeys
    · rw [hadd]
      refine ⟨_, rfl, ?_, fun u ↦ ?_, fun kind' u ↦ ?_⟩
      · obtain ⟨u, hu, hentries⟩ := entries_add hadd
        obtain rfl := Option.some.inj (hu.symm.trans hid)
        rw [← h.store]
        exact hentries
      · have hset := (PacketIdManager.registerId_spec hr).2 u
        rw [h.used] at hset
        simpa [or_assoc] using hset
      · have hawait : u ∈ (c.await kind id).awaiting kind' ↔
            ∃ e ∈ entries ++ [(id, packet)], e.1 = u ∧ restoredAck e.2 = some kind' := by
          have hone : (∃ e ∈ [(id, packet)], e.1 = u ∧ restoredAck e.2 = some kind') ↔
              kind' = kind ∧ u = id := by
            simp [hk, eq_comm, and_comm]
          rw [mem_awaiting_await, h.awaits, ← hone, or_comm]
          simp only [List.mem_append, or_and_right, exists_or]
        cases kind' <;> exact hawait

theorem Holds.restorePackets (h : c.Holds done) (hkeyed : ∀ e ∈ rest, e.2.packetId = some e.1)
    (h0 : ∀ e ∈ rest, e.1 ≠ 0) (hnodup : ((done ++ rest).map Prod.fst).Nodup) :
    ∃ c', c.restorePackets (rest.map Prod.snd) = .ret c' ∧ c'.Holds (done ++ rest) := by
  unfold GenericConnection.restorePackets
  induction rest generalizing c done with
  | nil => exact ⟨c, rfl, by simpa using h⟩
  | cons e rest ih =>
    have hnew : e.1 ∉ done.map Prod.fst := by
      rw [List.map_append, List.map_cons] at hnodup
      exact fun hm ↦ (List.nodup_append.mp hnodup).2.2 _ hm _ List.mem_cons_self rfl
    obtain ⟨c₁, h₁, hholds⟩ := h.restorePacket (hkeyed e List.mem_cons_self)
      (h0 e List.mem_cons_self) hnew
    rw [List.append_cons] at hnodup ⊢
    obtain ⟨c₂, h₂, hdone⟩ := ih hholds (fun f hf ↦ hkeyed f (List.mem_cons_of_mem _ hf))
      (fun f hf ↦ h0 f (List.mem_cons_of_mem _ hf)) hnodup
    refine ⟨c₂, ?_, hdone⟩
    rw [List.map_cons, List.foldlM_cons, h₁, Outcome.ret_bind, h₂]

theorem packetId_of_stored (h : packet ∈ c.getStoredPackets) : ∃ id, packet.packetId = some id := by
  obtain ⟨e, he, rfl⟩ := List.mem_map.mp h
  exact ⟨e.1, c.store.keyed e he⟩

theorem exists_entry_iff (P : GenericStorePacket w → Prop) :
    (∃ e ∈ c.store.map.entries, e.1 = id ∧ P e.2) ↔
      ∃ packet ∈ c.getStoredPackets, packet.packetId = some id ∧ P packet := by
  constructor
  · rintro ⟨e, he, rfl, hp⟩
    exact ⟨e.2, List.mem_map_of_mem he, c.store.keyed e he, hp⟩
  · rintro ⟨packet, hmem, hid, hp⟩
    obtain ⟨e, he, rfl⟩ := List.mem_map.mp hmem
    exact ⟨e, he, Option.some.inj ((c.store.keyed e he).symm.trans hid), hp⟩

theorem packetId_of_publishOf {qos : Qos} (hid : packet.packetId = some u)
    (h : packet.toPacket.publishOf = some (id, qos)) : packet.packetId = some id := by
  rcases restoredAck_cases hid with ⟨qos', hp, -, -, -⟩ | ⟨hp, -, -⟩
  · obtain ⟨rfl, -⟩ := Prod.mk.inj (Option.some.inj (hp.symm.trans h))
    exact hid
  · cases hp.symm.trans h

theorem packetId_of_pubrelOf (hid : packet.packetId = some u)
    (h : packet.toPacket.pubrelOf = some id) : packet.packetId = some id := by
  rcases restoredAck_cases hid with ⟨qos', -, hp, -, -⟩ | ⟨-, hp, -⟩
  · cases hp.symm.trans h
  · obtain rfl := Option.some.inj (hp.symm.trans h)
    exact hid

theorem Holds.awaiting_iff (h : r.Holds c.store.map.entries) : id ∈ r.awaiting kind ↔
    ∃ packet ∈ c.getStoredPackets, packet.packetId = some id ∧ restoredAck packet = some kind :=
  (h.awaits kind id).trans (exists_entry_iff fun packet ↦ restoredAck packet = some kind)

theorem Holds.restoredFrom (h : r.Holds c.store.map.entries) : c.RestoredFrom r := by
  have hpublish (qos : Qos) (hq : qos ≠ .atMostOnce) (id : PacketId w) :
      id ∈ r.awaiting (publishAck qos) ↔
        ∃ packet ∈ c.getStoredPackets, packet.toPacket.publishOf = some (id, qos) := by
    refine h.awaiting_iff.trans (exists_congr fun packet ↦ and_congr_right fun hmem ↦ ?_)
    obtain ⟨u, hu⟩ := packetId_of_stored hmem
    constructor
    · intro hk
      exact (restoredAck_eq_publishAck hk.1 hq).mp hk.2
    · intro hp
      have hid := packetId_of_publishOf hu hp
      exact ⟨hid, (restoredAck_eq_publishAck hid hq).mpr hp⟩
  have hentries : r.store.map.entries = c.store.map.entries := h.store
  refine ⟨?_, fun id ↦ ?_, hpublish .atLeastOnce (by simp), hpublish .exactlyOnce (by simp),
    fun id ↦ ?_⟩
  · rw [GenericStore.mk.injEq, IndexMap.mk.injEq]
    exact hentries
  · have hkey : (∃ e ∈ c.store.map.entries, e.1 = id ∧ True) ↔
        ∃ packet ∈ c.getStoredPackets, packet.packetId = some id ∧ True :=
      exists_entry_iff fun _ ↦ True
    simp only [and_true] at hkey
    rw [h.used, ← hkey, List.mem_map]
  · have hawaits : id ∈ r.awaiting .pubcomp ↔ ∃ packet ∈ c.getStoredPackets,
        packet.packetId = some id ∧ restoredAck packet = some .pubcomp := h.awaiting_iff
    refine hawaits.trans (exists_congr fun packet ↦ and_congr_right fun hmem ↦ ?_)
    obtain ⟨u, hu⟩ := packetId_of_stored hmem
    constructor
    · intro hk
      exact (restoredAck_eq_pubcomp hk.1).mp hk.2
    · intro hp
      have hid := packetId_of_pubrelOf hu hp
      exact ⟨hid, (restoredAck_eq_pubcomp hid).mpr hp⟩

/-- Identifier 0 counts as used, so that no packet is stored under it. -/
theorem stored_zero_restore {s : Session w} (hu : 0 ∈ s.used) (h : s.stored 0 = none)
    (packet : GenericStorePacket w) :
    0 ∈ (s.restore packet).used ∧ (s.restore packet).stored 0 = none := by
  unfold Session.restore
  split
  · rename_i kind id _ _
    have hu' : 0 ∈ (s.await kind id).used := hu
    have h' : (s.await kind id).stored 0 = none := h
    dsimp only
    split
    · exact ⟨hu', h'⟩
    · rename_i hfree
      have hne : (0 : PacketId w) ≠ id := by
        rintro rfl
        exact hfree hu'
      exact ⟨.inr hu', (Function.update_of_ne hne ..).trans h'⟩
  · exact ⟨hu, h⟩

theorem stored_zero_foldl (packets : List (GenericStorePacket w)) {s : Session w}
    (hu : 0 ∈ s.used) (h : s.stored 0 = none) :
    (packets.foldl Session.restore s).stored 0 = none := by
  induction packets generalizing s with
  | nil => exact h
  | cons packet packets ih =>
    obtain ⟨hu', h'⟩ := stored_zero_restore hu h packet
    exact ih hu' h'

theorem stored_zero_restorePackets {packets : List (GenericStorePacket w)} {role : Role}
    {version : Version} (h : (new role w version).restorePackets packets = .ret r) :
    r.store.get 0 = none := by
  obtain ⟨r', hr', hs, -⟩ := (new role w version).restorePackets_spec packets
  obtain rfl := Outcome.ret.inj (hr'.symm.trans h)
  have hstored : r'.session.stored 0 = none := by
    rw [hs]
    exact stored_zero_foldl packets PacketIdManager.isUsedId_zero rfl
  exact hstored

/-- A stored session is restored exactly when no packet is stored under identifier 0. -/
theorem restoredFrom_iff (role : Role) :
    (∃ r, (new role w c.protocolVersion).restorePackets c.getStoredPackets = .ret r ∧
      c.RestoredFrom r) ↔ ¬ c.store.containsKey 0 := by
  constructor
  · rintro ⟨r, hr, hres⟩ hc
    obtain ⟨packet, hget⟩ := GenericStore.containsKey_iff.mp hc
    rw [← hres.store] at hget
    cases (stored_zero_restorePackets hr).symm.trans hget
  · intro h0
    obtain ⟨r, hr, hholds⟩ := (holds_new role c.protocolVersion).restorePackets c.store.keyed
      (fun e he hz ↦ h0 (decide_eq_true (hz ▸ List.mem_map_of_mem he))) c.store.map.nodup
    exact ⟨r, hr, hholds.restoredFrom⟩

theorem skipped_iff (hk : restoredAck packet = some kind) :
    c.Skipped (c.await kind id) ↔ id ∈ c.awaiting kind := by
  constructor
  · intro h
    exact (h.awaits kind id).mp (mem_awaiting_await.mpr (.inl ⟨rfl, rfl⟩))
  · intro h
    refine ⟨store_await, pidMan_await, fun kind' u ↦ ?_⟩
    rw [mem_awaiting_await]
    constructor
    · rintro (⟨rfl, rfl⟩ | hm)
      · exact h
      · exact hm
    · exact .inr

/-- A stored session is restored exactly when no packet is stored under identifier 0; an entry whose
identifier is in use leaves everything as it is exactly when the identifier is awaited as the entry
would have it. -/
theorem restored_and_skipped (c : GenericConnection w) :
    (∀ role, (∃ r, (new role w c.protocolVersion).restorePackets c.getStoredPackets = .ret r ∧
      c.RestoredFrom r) ↔ ¬ c.store.containsKey 0) ∧
    ∀ before packet after id c₁, packet.packetId = some id → c.restorePackets before = .ret c₁ →
      c₁.pidMan.isUsedId id → ∃ c₂, c₁.restorePacket packet = .ret c₂ ∧
        c.restorePackets (before ++ packet :: after) = c₂.restorePackets after ∧
        (c₁.Skipped c₂ ↔ ∃ kind, restoredAck packet = some kind ∧ id ∈ c₁.awaiting kind) := by
  refine ⟨restoredFrom_iff, fun before packet after id c₁ hid hbefore hu ↦ ?_⟩
  obtain ⟨kind, hk⟩ := restoredAck_of_packetId hid
  have hone := restorePacket_used hk hid hu
  refine ⟨c₁.await kind id, hone, ?_, ?_⟩
  · unfold GenericConnection.restorePackets at hbefore ⊢
    rw [List.foldlM_append, hbefore, Outcome.ret_bind, List.foldlM_cons, hone, Outcome.ret_bind]
  · rw [skipped_iff hk]
    constructor
    · exact fun h ↦ ⟨kind, hk, h⟩
    · rintro ⟨kind', hk', h⟩
      obtain rfl := Option.some.inj (hk.symm.trans hk')
      exact h

/-- A stored PUBLISH is restored, and restoring it once more changes nothing. -/
theorem restored_and_skipped_stored : ∃ (c c₁ c₂ : GenericConnection .u16) (stored : _),
    Reachable (system .u16) c ∧ c.store.get 1 = some stored ∧
      (new .client .u16 c.protocolVersion).restorePackets c.getStoredPackets = .ret c₁ ∧
      c.RestoredFrom c₁ ∧ c₁.restorePacket stored = .ret c₂ ∧ c₁.Skipped c₂ := by
  obtain ⟨publish, _, ⟨_, c⟩, hrun, hzero, stored, hget, hid, hack, c₁, hrestored, hused, hawaits⟩ :
      (V311.Publish.parse (w := .u16) 2 [0, 1, 0x61, 0, 1]).unwrap.Attains fun publish ↦
        ((system .u16).run (new .client .u16 .v311) [.setOfflinePublish true, .acquirePacketId,
          .send (.v311Publish publish.1)]).Attains fun r ↦
        ¬ r.2.store.containsKey 0 ∧ ∃ stored ∈ r.2.store.get 1, stored.packetId = some 1 ∧
          restoredAck stored = some .puback ∧
          ((new .client .u16 r.2.protocolVersion).restorePackets r.2.getStoredPackets).Attains
            fun c₁ ↦ c₁.pidMan.isUsedId 1 ∧ 1 ∈ c₁.awaiting .puback := by
    decide +kernel
  have hreach := (Run.of_run (S := system .u16) ⟨.client, .v311, rfl⟩ hrun).reachable
  obtain ⟨c₁', hc₁', hfrom⟩ := ((restored_and_skipped c).1 .client).mpr hzero
  obtain rfl := Outcome.ret.inj (hrestored.symm.trans hc₁')
  obtain ⟨c₂, hskip, -, hiff⟩ := (restored_and_skipped _).2 _ stored [] 1 c₁ hid hrestored hused
  exact ⟨c, c₁, c₂, stored, hreach, hget, hrestored, hfrom, hskip,
    hiff.mpr ⟨.puback, hack, hawaits⟩⟩

/-- A PUBLISH that was parsed with identifier 0 is stored, but cannot be restored; and an entry whose
identifier is in use is waited for. -/
theorem zero_lost_used_awaited :
    (¬ ∀ c : GenericConnection .u16, Reachable (system .u16) c → c.needStore → ∀ role,
      ∃ r, (new role .u16 c.protocolVersion).restorePackets c.getStoredPackets = .ret r ∧
        c.RestoredFrom r) ∧
    ¬ ∀ (c : GenericConnection .u16) before packet after id c₁, packet.packetId = some id →
      c.restorePackets before = .ret c₁ → c₁.pidMan.isUsedId id →
      ∃ c₂, c₁.restorePacket packet = .ret c₂ ∧
        c.restorePackets (before ++ packet :: after) = c₂.restorePackets after ∧ c₁.Skipped c₂ := by
  constructor
  · intro h
    obtain ⟨publish, _, ⟨trace, c⟩, hrun, hk, hlost⟩ :
        (V50.Publish.parse (w := .u16) 2 [0, 1, 0x61, 0, 0, 0]).unwrap.Attains fun publish ↦
        (clientRun .v50 0 0 [5, 0x11, 0, 0, 0, 10] []
          [.send (.v50Publish publish.1)]).Attains fun r ↦ r.2.needStore ∧
            ((new .client .u16 r.2.protocolVersion).restorePackets r.2.getStoredPackets).Attains
              fun r' ↦ r'.store ≠ r.2.store := by
      decide +kernel
    have hreach := (run_of_clientRun hrun).reachable
    obtain ⟨r, hr, hne⟩ := hlost
    obtain ⟨r', hr', hres⟩ := h c hreach hk .client
    obtain rfl := Outcome.ret.inj (hr.symm.trans hr')
    exact hne hres.store
  · intro h
    obtain ⟨first, _, second, _, c₁, hc₁, hu, hid, c₂, hc₂, hnew, hold⟩ :
        (V50.Publish.parse (w := .u16) 2 [0, 1, 0x61, 0, 1, 0]).unwrap.Attains fun first ↦
        (V50.Publish.parse (w := .u16) 4 [0, 1, 0x61, 0, 1, 0]).unwrap.Attains fun second ↦
        ((new .client .u16 .v50).restorePackets [.v50Publish first.1]).Attains fun c₁ ↦
          c₁.pidMan.isUsedId 1 ∧
          (GenericStorePacket.v50Publish second.1).packetId = some 1 ∧
          (c₁.restorePacket (.v50Publish second.1)).Attains fun c₂ ↦
            (1 : PacketId .u16) ∈ c₂.awaiting .pubrec ∧
            (1 : PacketId .u16) ∉ c₁.awaiting .pubrec := by
      decide +kernel
    obtain ⟨c', hc', -, hskip⟩ := h _ _ _ [] 1 c₁ hid hc₁ hu
    obtain rfl := Outcome.ret.inj (hc₂.symm.trans hc')
    exact hold ((hskip.awaits .pubrec 1).mp hnew)

end MqttProtocolCore.Connection.GenericConnection
