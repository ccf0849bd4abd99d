import MqttProtocolCore.Connection.HandoverStage
import MqttProtocolCore.Connection.Restoring

namespace MqttProtocolCore.Connection

open General Packet GenericConnection

variable {w : IdWidth} {u id : PacketId w} {packet : GenericPacket w} {kind : AckKind} {v : Version}
  {stored : GenericStorePacket w} {s s' : Session w} {rep : Report w} {input : Input w} {P : Prop}
  {packets : List (GenericPacket w)}

def offerOf (u : PacketId w) (packet : GenericPacket w) : Option Unit :=
  if packet.publishOf = some (u, .atLeastOnce) then some () else none

def receiptOf (u : PacketId w) (packet : GenericPacket w) : Option Unit :=
  if ackOf packet = some (.puback, u) then some () else none

def offersIn (u : PacketId w) (packets : List (GenericPacket w)) : ℕ :=
  (packets.filterMap (offerOf u)).length

def receiptsIn (u : PacketId w) (packets : List (GenericPacket w)) : ℕ :=
  (packets.filterMap (receiptOf u)).length

theorem offerOf_eq_none : offerOf u packet = none ↔ packet.publishOf ≠ some (u, .atLeastOnce) := by
  unfold offerOf
  split <;> simp_all

theorem offerOf_publish {qos : Qos} (h : packet.publishOf = some (id, qos)) :
    offerOf u packet = if id = u ∧ qos = .atLeastOnce then some () else none := by
  unfold offerOf
  simp [h]

theorem offerOf_of_part (h : partOf packet ≠ .publish) : offerOf u packet = none := by
  apply offerOf_eq_none.mpr
  simp [publishOf_eq_none h]

theorem offersIn_eq_zero (h : ∀ p ∈ packets, offerOf u p = none) : offersIn u packets = 0 := by
  unfold offersIn
  rw [List.filterMap_eq_nil_iff.mpr h, List.length_nil]

theorem receiptsIn_eq_zero (h : ∀ p ∈ packets, receiptOf u p = none) : receiptsIn u packets = 0 := by
  unfold receiptsIn
  rw [List.filterMap_eq_nil_iff.mpr h, List.length_nil]

theorem offersIn_singleton {qos : Qos} (h : packet.publishOf = some (id, qos)) :
    offersIn u [packet] = if id = u ∧ qos = .atLeastOnce then 1 else 0 := by
  unfold offersIn
  by_cases hu : id = u ∧ qos = .atLeastOnce
  · rw [List.filterMap_cons, offerOf_publish h, if_pos hu, if_pos hu]
    rfl
  · rw [List.filterMap_cons, offerOf_publish h, if_neg hu, if_neg hu]
    rfl

theorem offersIn_append (l l' : List (GenericPacket w)) :
    offersIn u (l ++ l') = offersIn u l + offersIn u l' := by
  simp [offersIn]

theorem receiptsIn_append (l l' : List (GenericPacket w)) :
    receiptsIn u (l ++ l') = receiptsIn u l + receiptsIn u l' := by
  simp [receiptsIn]

namespace Session

def Deposits (s : Session w) (u : PacketId w) : Prop :=
  ∃ stored, s.stored u = some stored ∧ stored.toPacket.publishOf = some (u, .atLeastOnce)

/-- A message is under way exactly if it is in the store, and then its identifier is in use and
waits for no other acknowledgement. -/
structure Lends (s : Session w) (u : PacketId w) (underWay : Prop) : Prop where
  stored : underWay ↔ s.Deposits u
  used : underWay → u ∈ s.used
  apart : underWay → ∀ kind, kind ≠ .puback → u ∉ s.awaits kind
  nonzero : underWay → u ≠ 0

theorem Lends.congr (h : s.Lends u P) (hs : s'.stored u = s.stored u)
    (hu : P → u ∈ s.used → u ∈ s'.used)
    (ha : P → ∀ kind, kind ≠ .puback → u ∈ s'.awaits kind → u ∈ s.awaits kind) : s'.Lends u P where
  stored := by
    unfold Deposits
    rw [hs]
    exact h.stored
  used hp := hu hp (h.used hp)
  apart hp kind hk hmem := h.apart hp kind hk (ha hp kind hk hmem)
  nonzero := h.nonzero

theorem Lends.frame (h : s.Lends u P) (hu : s'.used = s.used) (ha : s'.awaits = s.awaits)
    (hs : s'.stored = s.stored) : s'.Lends u P := by
  apply h.congr
  · rw [hs]
  · intro _ hmem
    rwa [hu]
  · intro _ kind _ hmem
    rwa [ha] at hmem

theorem lends_free (h : ¬ s.Deposits u) : s.Lends u False where
  stored := iff_of_false not_false h
  used h := h.elim
  apart h := h.elim
  nonzero h := h.elim

theorem Lends.absent (h : s.Lends u P) (hp : ¬ P) (hs : s'.Deposits u → s.Deposits u) :
    s'.Lends u P := by
  rw [eq_false hp] at h ⊢
  exact lends_free fun hd ↦ h.stored.mpr (hs hd)

theorem Lends.await (h : s.Lends u P) (hne : P → id ≠ u) : (s.await kind id).Lends u P := by
  apply h.congr
  · rfl
  · exact fun _ hu ↦ hu
  · intro hp kind' _ hmem
    exact (awaits_await (hne hp).symm kind').mp hmem

theorem Lends.settle (h : s.Lends u P) : (s.settle kind id).Lends u P := by
  apply h.congr
  · rfl
  · exact fun _ hu ↦ hu
  · intro _ kind' _ hmem
    exact (mem_awaits_settle.mp hmem).1

theorem Lends.free (h : s.Lends u P) (hne : P → id ≠ u) : (s.free id).Lends u P := by
  apply h.congr
  · rfl
  · exact fun hp hu ↦ ⟨hu, (hne hp).symm⟩
  · exact fun _ _ _ hmem ↦ hmem

theorem Lends.keep (h : s.Lends u P) (hne : id ≠ u) : (s.keep id stored).Lends u P := by
  apply h.congr
  · exact Function.update_of_ne hne.symm _ _
  · exact fun _ hu ↦ hu
  · exact fun _ _ _ hmem ↦ hmem

theorem Lends.erase {response : ResponsePacket} (h : s.Lends u P) (hne : id ≠ u) :
    (s.erase response id).Lends u P := by
  apply h.congr
  · exact Session.erase_stored_of_ne hne.symm
  · exact fun _ hu ↦ hu
  · exact fun _ _ _ hmem ↦ hmem

theorem Lends.counted (h : s.Lends u P) (v : Version) : (s.counted v).Lends u P := by
  rw [Session.counted_frame]
  exact h.frame rfl rfl rfl

theorem Lends.finished (h : s.Lends u P) (v : Version) : (s.finished v).Lends u P := by
  rw [Session.finished_frame]
  exact h.frame rfl rfl rfl

theorem Lends.opened (h : s.Lends u P) (v : Version) (keeps : Bool) (quota : Option ℕ) :
    (s.opened v false keeps quota).Lends u P := by
  apply h.congr
  · rfl
  · exact fun _ hu ↦ hu
  · intro _ kind _ hmem
    cases kind with
    | puback | pubrec | pubcomp => exact hmem
    | suback | unsuback => cases hmem

theorem not_deposits_clear (s : Session w) : ¬ s.clear.Deposits u := by
  intro h
  obtain ⟨stored, hget, -⟩ := h
  cases hget

theorem Lends.closed (h : s.Lends u P) (hkeeps : P → s.keeps) : s.closed.Lends u P := by
  apply h.congr
  · rfl
  · intro hp hu
    refine ⟨hu, fun hd ↦ ?_⟩
    obtain ⟨kind, hdrains, hmem⟩ := hd
    by_cases hk : kind = .puback
    · subst hk
      simp [drains, publishes, hkeeps hp] at hdrains
    · exact h.apart hp kind hk hmem
  · intro _ kind _ hmem
    have hmem' : u ∈ if s.drains kind then ∅ else s.awaits kind := hmem
    split at hmem'
    · cases hmem'
    · exact hmem'

theorem deposits_of_erase {response : ResponsePacket} (h : (s.erase response id).Deposits u) :
    s.Deposits u := by
  obtain ⟨stored, hget, hp⟩ := h
  by_cases hu : u = id
  · subst hu
    exact ⟨stored, stored_of_erase hget, hp⟩
  · rw [Session.erase_stored_of_ne hu] at hget
    exact ⟨stored, hget, hp⟩

/-- A stored packet of another kind is no message of quality of service 1. -/
theorem not_deposits_keep (h : stored.toPacket.publishOf ≠ some (u, .atLeastOnce)) :
    ¬ (s.keep u stored).Deposits u := by
  intro hd
  obtain ⟨stored', hget, hp⟩ := hd
  obtain rfl : stored = stored' := by simpa [Session.keep] using hget
  exact h hp

theorem not_deposits_answered {response : ResponsePacket} (hfiled : s.Filed v)
    (hack : ackOf packet = some (.puback, u)) (hv : packet.protocolVersion = v)
    (hres : responseOf packet = some response) :
    ¬ ((s.settle .puback u).erase response u).Deposits u := by
  intro h
  obtain ⟨stored, hget, hp⟩ := h
  have hget' : s.stored u = some stored := stored_of_erase hget
  obtain ⟨hid, hversion⟩ := hfiled u stored hget'
  have hk : restoredAck stored = some .puback :=
    (restoredAck_eq_publishAck hid (by simp)).mpr hp
  have hkept : (s.settle .puback u).stored u = some stored := hget'
  refine (erase_removed hkept).mpr ?_ hget
  rw [responsePacket_restored hk, hversion, ← hres, responseOf_ack hack, hv]

end Session

end MqttProtocolCore.Connection
