import MqttProtocolCore.Connection.ClientRun
import MqttProtocolCore.Connection.Integrity
import MqttProtocolCore.Connection.StoreChange
import MqttProtocolCore.Connection.Subscriptions
import MqttProtocolCore.Connection.Violation

namespace MqttProtocolCore.Connection.GenericConnection

open General Packet GenericStore

variable {w : IdWidth} {c : GenericConnection w} {packet : GenericPacket w} {id : PacketId w}
  {r : Handled w} {raw : RawPacket} {kind : AckKind} {s : Session w} {rep : Report w} {v : Version}
  {data : Bytes}

/-- The effect of an acknowledgement: it settles its identifier and erases the packet that it
answers, and touches nothing else. -/
structure Concludes (s s' : Session w) (packet : GenericPacket w) (kind : AckKind) (id : PacketId w) :
    Prop where
  version : s'.version = s.version
  settled : id ∉ s'.awaits kind
  removed : ∀ stored, s.stored id = some stored → (s'.stored id ≠ some stored ↔
    ∃ response, responseOf packet = some response ∧ stored.responsePacket = some response)
  awaits : ∀ u, u ≠ id → ∀ kind', u ∈ s'.awaits kind' ↔ u ∈ s.awaits kind'
  used : ∀ u, u ≠ id → (u ∈ s'.used ↔ u ∈ s.used)
  stored : ∀ u, u ≠ id → s'.stored u = s.stored u

section Concludes

variable {response : ResponsePacket}

theorem notMem_settle : id ∉ (s.settle kind id).awaits kind := by simp [Session.settle]

theorem awaits_settle {u : PacketId w} (h : u ≠ id) (kind' : AckKind) :
    u ∈ (s.settle kind id).awaits kind' ↔ u ∈ s.awaits kind' := by
  by_cases hk : kind' = kind
  · subst hk
    simp [Session.settle, h]
  · simp [Session.settle, hk]

theorem awaits_await {u : PacketId w} (h : u ≠ id) (kind' : AckKind) :
    u ∈ (s.await kind id).awaits kind' ↔ u ∈ s.awaits kind' := by
  by_cases hk : kind' = kind
  · subst hk
    simp [Session.await, h]
  · simp [Session.await, hk]

/-- The packet under the identifier goes exactly when the response answers it. -/
theorem erase_removed {stored : GenericStorePacket w} (hs : s.stored id = some stored) :
    (s.erase response id).stored id ≠ some stored ↔ stored.responsePacket = some response := by
  simp [Session.erase, hs, Option.filter]

theorem concludes_erase (h : responseOf packet = some response) :
    Concludes s ((s.settle kind id).erase response id) packet kind id where
  version := rfl
  settled := notMem_settle
  removed stored hs := by
    have hs' : (s.settle kind id).stored id = some stored := hs
    rw [erase_removed hs']
    simp [h]
  awaits u hu kind' := awaits_settle hu kind'
  used _ _ := Iff.rfl
  stored u hu := Session.erase_stored_of_ne hu

theorem concludes_settle (h : responseOf packet = none) :
    Concludes s (s.settle kind id) packet kind id where
  version := rfl
  settled := notMem_settle
  removed stored hs := by simp [Session.settle, hs, h]
  awaits u hu kind' := awaits_settle hu kind'
  used _ _ := Iff.rfl
  stored _ _ := rfl

theorem Concludes.free {s' : Session w} (h : Concludes s s' packet kind id) :
    Concludes s (s'.free id) packet kind id where
  version := h.version
  settled := h.settled
  removed := h.removed
  awaits := h.awaits
  used u hu := by simp [Session.free, hu, h.used u hu]
  stored := h.stored

theorem Concludes.finished {s' : Session w} (h : Concludes s s' packet kind id) (v : Version) :
    Concludes s (s'.finished v) packet kind id := by
  rw [Session.finished_frame]
  exact ⟨h.version, h.settled, h.removed, h.awaits, h.used, h.stored⟩

theorem Concludes.await {s' : Session w} {kind' : AckKind} (h : Concludes s s' packet kind id)
    (hne : kind ≠ kind') : Concludes s (s'.await kind' id) packet kind id where
  version := h.version
  settled := by
    simpa [Session.await, hne] using h.settled
  removed := h.removed
  awaits u hu kind'' := (awaits_await hu kind'').trans (h.awaits u hu kind'')
  used := h.used
  stored := h.stored

theorem Concludes.keep {s' : Session w} {stored : GenericStorePacket w}
    (h : Concludes s s' packet kind id) (hack : ackOf packet = some (.pubrec, id))
    (hs : stored.toPacket.pubrelOf = some id) (hnone : s'.stored id = none) :
    Concludes s (s'.keep id stored) packet kind id where
  version := h.version
  settled := h.settled
  removed p hp := by
    have hgone := (h.removed p hp).mp (by simp [hnone])
    refine iff_of_true (fun heq ↦ ?_) hgone
    obtain rfl : stored = p := by simpa [Session.keep] using heq
    obtain ⟨response, hresp, hanswer⟩ := hgone
    rcases responseOf_pubrec hack with h₁ | h₁ <;> rcases (responsePacket_pubrel hs).2 with h₂ | h₂ <;>
      simp [← hresp, h₁, h₂] at hanswer
  awaits := h.awaits
  used := h.used
  stored u hu := (Function.update_of_ne hu _ _).trans (h.stored u hu)

theorem responseOf_subscription (h : ackOf packet = some (kind, id))
    (hk : kind = .suback ∨ kind = .unsuback) : responseOf packet = none := by
  cases packet with
  | v311Puback | v50Puback | v311Pubrec | v50Pubrec | v311Pubcomp | v50Pubcomp =>
    obtain ⟨rfl, -⟩ := Prod.mk.inj (Option.some.inj h)
    simp at hk
  | _ => rfl

end Concludes

/-- An acknowledgement that is handed over settles its identifier. -/
theorem Change.concludes (h : Change c (.receive packet) s rep) (hack : ackOf packet = some (kind, id))
    (hn : packet ∈ rep.notified) : Concludes c.session s packet kind id ∧ rep.notified = [packet] := by
  have hpart := partOf_ack hack
  cases h with
  | refused => simp at hn
  | idle hcalm =>
    obtain ⟨-, -, -, -, hnone⟩ := hcalm
    simp [hnone] at hack
  | answered hans =>
    obtain ⟨u, hp⟩ := hans
    simp [partOf_publish hp] at hpart
  | connectReceived hp => simp [partOf_connect hp] at hpart
  | connackResumes hp => simp [partOf_connack hp] at hpart
  | connackAnew hp => simp [partOf_connack hp] at hpart
  | publishReceived hp => simp [partOf_publish hp] at hpart
  | publishDropped => simp at hn
  | pubrelReceived hp => simp [partOf_pubrel hp] at hpart
  | acknowledged hack' _ hresp =>
    obtain ⟨rfl, rfl⟩ := Prod.mk.inj (Option.some.inj (hack.symm.trans hack'))
    exact ⟨((concludes_erase hresp).free).finished _, rfl⟩
  | @pubrecReceived _ _ response _ _ _ hack' hresp _ _ hs =>
    obtain ⟨rfl, rfl⟩ := Prod.mk.inj (Option.some.inj (hack.symm.trans hack'))
    refine ⟨?_, rfl⟩
    have herase : Concludes c.session ((c.session.settle .pubrec id).erase response id) packet
      .pubrec id := concludes_erase hresp
    rcases hs with ⟨-, -, rfl⟩ | ⟨-, -, p, hp, -, ⟨-, rfl⟩ | ⟨-, hnone, q, rfl, rfl⟩⟩
    · exact herase
    · exact herase.await (by simp)
    · exact (herase.keep hack hp hnone).await (by simp)
  | pubrecFailed =>
    obtain ⟨rfl, rfl⟩ := Prod.mk.inj (Option.some.inj hack)
    exact ⟨((concludes_erase rfl).free).finished _, rfl⟩
  | subscriptionAcked hack' hkind =>
    obtain ⟨rfl, rfl⟩ := Prod.mk.inj (Option.some.inj (hack.symm.trans hack'))
    exact ⟨(concludes_settle (responseOf_subscription hack hkind)).free, rfl⟩

theorem notified_ack (hack : ackOf packet = some (kind, id)) (hm : id ∈ c.awaiting kind) :
    (c.deliver packet).Ensures fun r ↦ packet ∈ notified r.2 := by
  by_cases hpub : Session.publishes kind
  · exact (goesThrough_deliver hack hpub hm).mono fun _ hr ↦ hr.1
  have hsub {onError : GenericConnection w → MqttError → Outcome (Handled w)} {id : PacketId w}
      (hm : id ∈ c.awaiting kind) :
      (c.recvSubscriptionAck kind onError id packet).Ensures fun r ↦ packet ∈ notified r.2 := by
    unfold recvSubscriptionAck
    rw [if_pos hm]
    refine (goesThrough_thenReceived (errors_releaseIfUsed.mono fun r hr ↦ ?_)).mono fun _ hr ↦ hr.1
    simp [hr]
  cases packet with
  | v311Puback | v50Puback | v311Pubrec | v50Pubrec | v311Pubcomp | v50Pubcomp =>
    obtain ⟨rfl, -⟩ := Prod.mk.inj (Option.some.inj hack)
    exact (hpub rfl).elim
  | v311Suback | v50Suback | v311Unsuback | v50Unsuback =>
    obtain ⟨rfl, rfl⟩ := Prod.mk.inj (Option.some.inj hack)
    exact hsub hm
  | _ => cases hack

def readIn (v : Version) (raw : RawPacket) : Option (GenericPacket w) :=
  match v with
  | .v311 => readV311 raw
  | .v50 => readV50 raw
  | .undetermined => none

def Completes (c : GenericConnection w) (data : Bytes) (raw : RawPacket) : Prop :=
  ∃ b rest, c.packetBuilder.feed data = .ret (b, .complete raw, rest)

theorem packetType_ack (h : readIn v raw = some packet) (hack : ackOf packet = some (kind, id)) :
    raw.packetType.toNat ∈ [4, 5, 7] ∨ raw.packetType.toNat ∈ [9, 11] ∧ ¬ Session.publishes kind := by
  cases v with
  | v311 =>
    change readV311 raw = some packet at h
    unfold readV311 at h
    split at h
    all_goals first
      | rename_i ht
        obtain ⟨a, rfl⟩ := readAs_eq h
        cases hack <;> simp [ht, Session.publishes]
      | cases h
  | v50 =>
    change readV50 raw = some packet at h
    unfold readV50 at h
    split at h
    all_goals first
      | rename_i ht
        obtain ⟨a, rfl⟩ := readAs_eq h
        cases hack <;> simp [ht, Session.publishes]
      | cases h
  | undetermined => cases h

theorem canReceive_ack (hreach : Reachable (system w) c) (h : readIn v raw = some packet)
    (hack : ackOf packet = some (kind, id)) (hm : id ∈ c.awaiting kind) :
    c.canReceive raw.packetType := by
  have hserver : c.role = .server → Session.publishes kind := by
    intro hrole
    by_contra hk
    exact reachable_server hreach hrole hk id hm
  unfold canReceive
  rcases packetType_ack h hack with ht | ⟨ht, hk⟩
  · simp only [List.mem_cons, List.not_mem_nil, or_false] at ht
    rcases ht with ht | ht | ht <;> simp [← UInt8.toNat_inj, ht]
  · have hrole : c.role ≠ .server := fun hrole ↦ hk (hserver hrole)
    simp only [List.mem_cons, List.not_mem_nil, or_false] at ht
    rcases ht with ht | ht <;> simp [← UInt8.toNat_inj, ht, hrole]

/-- An acknowledgement arrives in the version of the connection, and only when it is not too
large. -/
theorem arrived_ack (h : readIn v raw = some packet) (hack : ackOf packet = some (kind, id))
    (hv : v = c.protocolVersion ∨ c.protocolVersion = .undetermined) {a : Version × GenericPacket w} :
    c.arrived raw = some a ↔ c.protocolVersion = v ∧ ¬ c.oversize raw ∧
      c.canReceive raw.packetType ∧ a = (v, packet) := by
  have harrived (hpv : c.protocolVersion = v) : c.arrived raw =
      if c.oversize raw then none else if ¬ c.canReceive raw.packetType then none
      else (readIn v raw).map (v, ·) := by
    unfold arrived
    rw [hpv]
    simp only [oversize, decide_eq_true_eq, gt_iff_lt]
    cases v with
    | undetermined => cases h
    | _ => rfl
  rcases hv with hv | hv
  · rw [harrived hv.symm, h]
    by_cases hsize : c.oversize raw
    · simp [hsize]
    · by_cases hcan : c.canReceive raw.packetType <;> simp [hsize, hcan, hv, eq_comm]
  · have hne : c.protocolVersion ≠ v := by
      rw [hv]
      rintro rfl
      cases h
    simp only [hne, false_and, iff_false]
    intro harr
    have harr' : c.arrived raw = some (a.1, a.2) := harr
    obtain ⟨-, htakes, -⟩ := arrived_some harr'
    have htype : raw.packetType = 1 := by
      unfold takes at htakes
      rw [hv] at htakes
      simp only [Bool.and_eq_true, decide_eq_true_eq] at htakes
      exact htakes.2.1
    rcases packetType_ack h hack with ht | ⟨ht, -⟩ <;> simp [htype] at ht

theorem deliver_unawaited (hack : ackOf packet = some (kind, id)) (hm : id ∉ c.awaiting kind) :
    ∃ r, c.deliver packet = .ret r ∧ Refused c r := by
  have h311 : ∃ r, c.handleV311Error .protocolError = .ret r ∧ Refused c r :=
    c.handleV311Error_spec .protocolError
  have h50 : ∃ r, c.handleV50Error .protocolError = .ret r ∧ Refused c r :=
    c.handleV50Error_spec .protocolError
  cases packet with
  | v311Puback p | v311Pubcomp p =>
    obtain ⟨rfl, rfl⟩ := Prod.mk.inj (Option.some.inj hack)
    obtain ⟨r, hr, href⟩ := h311
    exact ⟨r, (recvFinalAck_violation hm).trans hr, href⟩
  | v50Puback p | v50Pubcomp p =>
    obtain ⟨rfl, rfl⟩ := Prod.mk.inj (Option.some.inj hack)
    obtain ⟨r, hr, href⟩ := h50
    exact ⟨r, (recvFinalAck_violation hm).trans hr, href⟩
  | v311Pubrec p =>
    obtain ⟨rfl, rfl⟩ := Prod.mk.inj (Option.some.inj hack)
    obtain ⟨r, hr, href⟩ := h311
    exact ⟨r, (show c.recvV311Pubrec p = _ from if_neg hm).trans hr, href⟩
  | v50Pubrec p =>
    obtain ⟨rfl, rfl⟩ := Prod.mk.inj (Option.some.inj hack)
    obtain ⟨r, hr, href⟩ := h50
    exact ⟨r, (show c.recvV50Pubrec p = _ from if_neg hm).trans hr, href⟩
  | v311Suback p | v311Unsuback p =>
    obtain ⟨rfl, rfl⟩ := Prod.mk.inj (Option.some.inj hack)
    obtain ⟨r, hr, href⟩ := h311
    exact ⟨r, (recvSubscriptionAck_violation hm).trans hr, href⟩
  | v50Suback p | v50Unsuback p =>
    obtain ⟨rfl, rfl⟩ := Prod.mk.inj (Option.some.inj hack)
    obtain ⟨r, hr, href⟩ := h50
    exact ⟨r, (recvSubscriptionAck_violation hm).trans hr, href⟩
  | _ => cases hack

/-- An acknowledgement is refused with an error, and nothing else happens to the session. -/
structure AckRefused (c : GenericConnection w) (r : GenericConnection w × Reply w) : Prop where
  notified : notified r.2.toEvents = []
  errors : errors r.2.toEvents ≠ []
  store : r.1.store = c.store
  awaiting : ∀ kind, r.1.awaiting kind = c.awaiting kind
  pidMan : r.1.pidMan = c.pidMan
  count : r.1.publishSendCount = c.publishSendCount
  handled : r.1.qos2PublishHandled = c.qos2PublishHandled

/-- An acknowledgement is handed over: it settles its identifier, and what belongs to the other
identifiers stays, in its order. -/
structure AckTaken (c : GenericConnection w) (packet : GenericPacket w) (kind : AckKind)
    (id : PacketId w) (r : GenericConnection w × Reply w) : Prop where
  notified : notified r.2.toEvents = [packet]
  settled : id ∉ r.1.awaiting kind
  removed : ∀ stored, c.store.get id = some stored → (r.1.store.get id ≠ some stored ↔
    ∃ response, responseOf packet = some response ∧ stored.responsePacket = some response)
  order : (r.1.store.map.entries.filter fun e ↦ e.1 ≠ id) =
    c.store.map.entries.filter fun e ↦ e.1 ≠ id
  awaiting : ∀ u, u ≠ id → ∀ kind', u ∈ r.1.awaiting kind' ↔ u ∈ c.awaiting kind'
  used : ∀ u, u ≠ id → r.1.pidMan.isUsedId u = c.pidMan.isUsedId u

theorem Refused.ackRefused {c₀ : GenericConnection w} {rest : Bytes} (h : Refused c₀ r)
    (hc : c₀ = { c with packetBuilder := c₀.packetBuilder, protocolVersion := c₀.protocolVersion }) :
    AckRefused c (r.1, .received r.2 rest) where
  notified := h.notified
  errors := h.errors
  store := by
    rw [h.idle, hc]
  awaiting kind := by
    rw [h.idle, hc]
    cases kind <;> rfl
  pidMan := by
    rw [h.idle, hc]
  count := by
    rw [h.idle, hc]
  handled := by
    rw [h.idle, hc]

/-- An acknowledgement leaves the order of the other packets in the store. -/
theorem order_deliverAck (hack : ackOf packet = some (kind, id)) :
    (c.deliver packet).Ensures fun r ↦
      (∀ u, u ≠ id → r.1.session.stored u = c.session.stored u) →
      (r.1.store.map.entries.filter fun e ↦ e.1 ≠ id) =
        c.store.map.entries.filter fun e ↦ e.1 ≠ id := by
  refine (changes_deliverAck hack).mono fun r hr hsame ↦ ?_
  obtain ⟨added, -, -, hfollows⟩ := hr.follows fun e f he hf ↦ he.2.1.trans hf.2.1.symm
  refine hfollows.filter_eq fun e he ↦ ?_
  have hget : r.1.store.get e.1 = c.store.get e.1 := hsame e.1 (by simpa using he)
  have hmem (s : GenericStore w) : e ∈ s.map.entries ↔ s.get e.1 = some e.2 :=
    IndexMap.get_eq_some.symm
  rw [hmem, hmem, hget]

theorem ackTaken_deliver (hack : ackOf packet = some (kind, id)) (hm : id ∈ c.awaiting kind)
    (hr : c.deliver packet = .ret r) (rest : Bytes) :
    AckTaken c packet kind id (r.1, .received r.2 rest) ∧
      r.1.protocolVersion = c.protocolVersion := by
  obtain ⟨-, hchange⟩ := (acts_deliver packet).of_ret hr
  obtain ⟨hs, hnotified⟩ := hchange.concludes hack (notified_ack hack hm r hr)
  refine ⟨?_, hs.version⟩
  refine ⟨hnotified, hs.settled, hs.removed, order_deliverAck hack r hr hs.stored, hs.awaits, ?_⟩
  intro u hu
  exact Bool.eq_iff_iff.mpr (hs.used u hu)

theorem ack_cases (h : Reachable (system w) c) (hraw : c.Completes data raw)
    (hv : v = c.protocolVersion ∨ c.protocolVersion = .undetermined)
    (hread : readIn v raw = some packet) (hack : ackOf packet = some (kind, id))
    {r : GenericConnection w × Reply w} (hr : c.step (.recv data) = .ret r) :
    if c.protocolVersion = v ∧ ¬ c.oversize raw ∧ id ∈ c.awaiting kind then
      AckTaken c packet kind id r ∧ r.1.protocolVersion = v else AckRefused c r := by
  have hstep : c.step (.recv data) =
    (c.recv data >>= fun r ↦ Outcome.ret (r.1.1, Reply.received r.1.2 r.2)) := rfl
  have hspec := (step_spec (reachable_reading h) (.recv data)).of_ret hr
  rw [hstep] at hr
  obtain ⟨⟨r, rest⟩, hrecv, hret⟩ := Outcome.bind_eq_ret.mp hr
  obtain rfl := Outcome.ret.inj hret
  obtain ⟨b, rest', hfeed⟩ := hraw
  cases recv_cases (reachable_reading h) hrecv with
  | incomplete hfeed' => cases hfeed'.symm.trans hfeed
  | malformed hfeed' => cases hfeed'.symm.trans hfeed
  | refused hfeed' harr href =>
    cases hfeed'.symm.trans hfeed
    obtain ⟨v', r', hr', hrefused, -⟩ := href.refused
    obtain rfl := Outcome.ret.inj hr'
    rw [if_neg]
    · exact hrefused.ackRefused rfl
    · rintro ⟨hpv, hsize, hm⟩
      have hcan := canReceive_ack h hread hack hm
      cases harr.symm.trans ((arrived_ack hread hack hv).mpr ⟨hpv, hsize, hcan, rfl⟩)
  | delivered hfeed' harr _ hdel =>
    cases hfeed'.symm.trans hfeed
    obtain ⟨hpv, hsize, -, heq⟩ := (arrived_ack hread hack hv).mp harr
    cases heq
    have hawaiting (kind : AckKind) :
        ({ c with packetBuilder := b }.determine v).awaiting kind = c.awaiting kind := by
      cases kind <;> rfl
    by_cases hm : id ∈ c.awaiting kind
    · rw [if_pos ⟨hpv, hsize, hm⟩]
      have hm' : id ∈ ({ c with packetBuilder := b }.determine v).awaiting kind := by
        rw [hawaiting]
        exact hm
      obtain ⟨htaken, hversion⟩ := ackTaken_deliver hack hm' hdel rest
      refine ⟨⟨htaken.notified, htaken.settled, htaken.removed, htaken.order, ?_, htaken.used⟩,
        hversion⟩
      intro u hu kind'
      rw [htaken.awaiting u hu kind', hawaiting]
    · rw [if_neg fun h ↦ hm h.2.2]
      have hm' : id ∉ ({ c with packetBuilder := b }.determine v).awaiting kind := by
        rw [hawaiting]
        exact hm
      obtain ⟨r', hr', hrefused⟩ := deliver_unawaited hack hm'
      obtain rfl := Outcome.ret.inj (hr'.symm.trans hdel)
      exact hrefused.ackRefused rfl

/-- An acknowledgement is handed over exactly when its version is settled, it is not larger than
announced and its identifier is awaited; a second copy of it is refused. -/
theorem ack_matched (h : Reachable (system w) c) (hraw : c.Completes data raw)
    (hv : v = c.protocolVersion ∨ c.protocolVersion = .undetermined)
    (hread : readIn v raw = some packet) (hack : ackOf packet = some (kind, id))
    {r : GenericConnection w × Reply w} (hr : c.step (.recv data) = .ret r) :
    if c.protocolVersion = v ∧ ¬ c.oversize raw ∧ id ∈ c.awaiting kind then
      AckTaken c packet kind id r ∧ ∀ data' raw' packet' r', r.1.Completes data' raw' →
        readIn v raw' = some packet' → ackOf packet' = some (kind, id) →
        r.1.step (.recv data') = .ret r' → AckRefused r.1 r'
    else AckRefused c r := by
  have hcases := ack_cases h hraw hv hread hack hr
  split at hcases
  · rename_i hcond
    obtain ⟨htaken, hversion⟩ := hcases
    rw [if_pos hcond]
    refine ⟨htaken, fun data' raw' packet' r' hraw' hread' hack' hr' ↦ ?_⟩
    have hreach : Reachable (system w) r.1 := by
      obtain ⟨c', o⟩ := r
      exact Reachable.step (i := .recv data) (o := o) h hr
    have hcases' := ack_cases hreach hraw' (.inl hversion.symm) hread' hack' hr'
    rwa [if_neg fun h ↦ htaken.settled h.2.2] at hcases'
  · rename_i hcond
    rwa [if_neg hcond]

/-- A PUBACK for a PUBLISH in flight. -/
theorem ack_matched_puback : ∃ (c : GenericConnection .u16) (packet : GenericPacket .u16)
    (r : GenericConnection .u16 × Reply .u16), Reachable (system .u16) c ∧ 1 ∈ c.pidPuback ∧
      AckTaken c packet .puback 1 r := by
  obtain ⟨publish, _, ⟨trace, c⟩, hrun, hv, hm, hsize, ⟨b, result, rest⟩, hfeed, hraw,
      packet, hread, hack, r, hr, -⟩ :
      (V50.Publish.parse (w := .u16) 2 [0, 1, 0x61, 0, 1, 0]).unwrap.Attains fun publish ↦
      (clientRun .v50 2 0 [0] []
        [.recv [0x20, 3, 0, 0, 0], .registerPacketId 1, .send (.v50Publish publish.1)]).Attains
          fun r ↦ r.2.protocolVersion = .v50 ∧ 1 ∈ r.2.pidPuback ∧
            ¬ r.2.oversize (rawPacket 0x40 [0, 1]) ∧
            (r.2.packetBuilder.feed [0x40, 2, 0, 1]).Attains fun f ↦
              f.2.1 = .complete (rawPacket 0x40 [0, 1]) ∧
                ∃ packet ∈ (readV50 (rawPacket 0x40 [0, 1]) : Option (GenericPacket .u16)),
                  ackOf packet = some (.puback, 1) ∧
                    (r.2.step (.recv [0x40, 2, 0, 1])).Attains fun _ ↦ True := by
    decide +kernel
  obtain rfl : result = _ := hraw
  have hreach := (run_of_clientRun hrun).reachable
  have hmatch := ack_matched hreach ⟨b, rest, hfeed⟩ (.inl hv.symm) hread hack hr
  rw [if_pos ⟨hv, hsize, hm⟩] at hmatch
  exact ⟨c, packet, r, hreach, hm, hmatch.1⟩

/-- A PUBACK that is larger than announced is refused, although it is awaited. -/
theorem ack_too_large : ¬ ∀ (c : GenericConnection .u16) data raw v packet kind id r,
    Reachable (system .u16) c → c.Completes data raw → v = c.protocolVersion →
      readIn v raw = some packet → ackOf packet = some (kind, id) →
      c.step (.recv data) = .ret r → (packet ∈ notified r.2.toEvents ↔ id ∈ c.awaiting kind) := by
  intro h
  obtain ⟨publish, _, ⟨trace, c⟩, hrun, hv, hm, ⟨b, result, rest⟩, hfeed, hraw,
      packet, hread, hack, r, hr, hnot⟩ :
      (V50.Publish.parse (w := .u16) 2 [0, 1, 0x61, 0, 1, 0]).unwrap.Attains fun publish ↦
      (clientRun .v50 2 0 [5, 0x27, 0, 0, 0, 10] []
        [.recv [0x20, 3, 0, 0, 0], .registerPacketId 1, .send (.v50Publish publish.1)]).Attains
          fun r ↦ r.2.protocolVersion = .v50 ∧ 1 ∈ r.2.pidPuback ∧
            (r.2.packetBuilder.feed
              [0x40, 10, 0, 1, 0, 6, 0x1f, 0, 3, 0x61, 0x62, 0x63]).Attains fun f ↦
              f.2.1 = .complete (rawPacket 0x40 [0, 1, 0, 6, 0x1f, 0, 3, 0x61, 0x62, 0x63]) ∧
                ∃ packet ∈ (readV50 (rawPacket 0x40
                    [0, 1, 0, 6, 0x1f, 0, 3, 0x61, 0x62, 0x63]) : Option (GenericPacket .u16)),
                  ackOf packet = some (.puback, 1) ∧
                    (r.2.step (.recv
                      [0x40, 10, 0, 1, 0, 6, 0x1f, 0, 3, 0x61, 0x62, 0x63])).Attains fun r' ↦
                        (notified r'.2.toEvents).isEmpty := by
    decide +kernel
  obtain rfl : result = _ := hraw
  have hreach := (run_of_clientRun hrun).reachable
  have hiff := h c _ _ .v50 packet .puback 1 r hreach ⟨b, rest, hfeed⟩ hv.symm hread hack hr
  rw [List.isEmpty_iff.mp hnot] at hiff
  exact absurd (hiff.mpr hm) List.not_mem_nil

end MqttProtocolCore.Connection.GenericConnection
