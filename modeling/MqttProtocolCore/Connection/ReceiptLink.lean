import MqttProtocolCore.Connection.HandoverDelivery
import MqttProtocolCore.Connection.ReceiptReceiver
import MqttProtocolCore.Connection.ReceiptSender
import MqttProtocolCore.General.Tally

namespace MqttProtocolCore.Connection

open General Packet GenericConnection HandoverLink

variable {w : IdWidth}

/-- What is known of the messages of quality of service 1 between a sender and a receiver: those
that are under way, those that the receiver owes a PUBACK for, and those that it was told of. -/
structure ReceiptBooks (w : IdWidth) where
  underWay : List (PacketId w)
  owed : List (PacketId w)
  heard : List (PacketId w)

def offeredId (packet : GenericPacket w) : Option (PacketId w) :=
  packet.publishOf.bind fun p ↦ if p.2 = .atLeastOnce then some p.1 else none

def pubackId (packet : GenericPacket w) : Option (PacketId w) :=
  (ackOf packet).bind fun p ↦ if p.1 = .puback then some p.2 else none

def committedId (i : HandoverInput w) (events : List (GenericEvent w)) : Option (PacketId w) :=
  match i with
  | .sends (.send packet) => if errors events = [] then offeredId packet else none
  | _ => none

def isLoss : HandoverInput w → Bool
  | .lost => true
  | _ => false

namespace ReceiptBooks

def start : ReceiptBooks w := ⟨[], [], []⟩

/-- The books after a transition: a message is under way from its acceptance on as long as the
sender uses the identifier, and a PUBACK is owed from the notice on until it is sent or the network
connection is lost. -/
def after (books : ReceiptBooks w)
    (t : Transition (HandoverLink w) (HandoverInput w) (HandoverOutput w)) : ReceiptBooks w :=
  let told := (notified t.output.2).filterMap offeredId
  let underWay := ((committedId t.input t.output.1).toList ++ books.underWay).filter
    t.after.sender.pidMan.isUsedId
  { underWay
    owed := if isLoss t.input then []
      else (books.owed ++ told).filter fun u ↦ u ∉ (requested t.output.2).filterMap pubackId
    heard := (told ++ books.heard).filter fun u ↦ u ∈ underWay }

def tally (link : HandoverLink w) (books : ReceiptBooks w) (u : PacketId w) : Tally :=
  ⟨offersIn u link.toReceiver, books.owed.count u, receiptsIn u link.toSender,
    u ∈ books.underWay, u ∈ books.heard⟩

variable {link : HandoverLink w} {books : ReceiptBooks w} {v : Version} {u id : PacketId w}
  {op : Operation w} {rest : List (GenericPacket w)} {packet : GenericPacket w} {data : Bytes}

/-- The application of the sender gives every message an identifier without another exchange, has it
stored, and leaves the identifiers of the messages under way alone; one CONNACK accepts each network
connection, no session is given up while it lasts, and what is stored fits when it is resumed. -/
structure Minds (link : HandoverLink w) (books : ReceiptBooks w) (op : Operation w) : Prop where
  publish : ∀ packet id qos, op = .send packet → packet.publishOf = some (id, qos) →
    id ∉ books.underWay
  kept : ∀ packet id, op = .send packet → packet.publishOf = some (id, .atLeastOnce) →
    link.sender.storesPublish ∧ ¬ link.sender.withdraws packet
  apart : ∀ packet id, op = .send packet → packet.publishOf = some (id, .atLeastOnce) →
    (∀ kind, kind ≠ .puback → id ∉ link.sender.awaiting kind) ∧ id ≠ 0
  pubrel : ∀ packet id, op = .send packet → packet.pubrelOf = some id → id ∉ books.underWay
  subscription : ∀ packet kind id, op = .send packet → subscriptionOf packet = some (kind, id) →
    id ∉ books.underWay
  released : ∀ id, op = .releasePacketId id → id ∉ books.underWay
  restored : ∀ packets, op ≠ .restorePackets packets
  closed : op ≠ .notifyClosed
  opened : link.opened → ¬ greetingIn (link.sender.inputOf op)
  renewed : link.opened → ¬ renewalIn (link.sender.inputOf op)
  fits : link.sender.Resendable op

/-- One step of a sender and a receiver whose application sends a PUBACK only when it is owed; the
session of the sender is kept over a loss of the network connection while messages are under way. -/
def Posts (link : HandoverLink w) (books : ReceiptBooks w) : HandoverInput w → Prop
  | .sends op => (∀ data, op ≠ .recv data) ∧ Minds link books op
  | .returns data => (∃ packet, link.Returns data packet) ∧ Minds link books (.recv data)
  | .answers op => (∀ data, op ≠ .recv data) ∧
      ∀ packet id, op = .send packet → ackOf packet = some (.puback, id) → id ∈ books.owed
  | .delivers data => ∃ packet, link.Delivers data packet
  | .lost => books.underWay ≠ [] → link.sender.needStore

/-- The sender, what is on its way, and the receiver fit together. -/
structure Posted (v : Version) (link : HandoverLink w) (books : ReceiptBooks w) : Prop where
  sender : Reachable (system w) link.sender
  receiver : link.receiver.Reading
  version : link.sender.protocolVersion = v
  determined : v ≠ .undetermined
  filed : link.sender.session.Filed v
  closed : link.opened = false → link.sender.status ≠ .connected
  quiet : link.opened = false → ∀ u, (tally link books u).around = 0
  sound : ∀ u, (tally link books u).Sound
  lends : ∀ u, link.sender.session.Lends u (u ∈ books.underWay)
  heard : ∀ u ∈ books.heard, u ∈ books.underWay

theorem offeredId_eq_some : offeredId packet = some u ↔
    packet.publishOf = some (u, .atLeastOnce) := by
  unfold offeredId
  cases packet.publishOf with
  | none => simp
  | some p =>
    obtain ⟨id, qos⟩ := p
    cases qos <;> simp

theorem pubackId_eq_some : pubackId packet = some u ↔ ackOf packet = some (.puback, u) := by
  unfold pubackId
  cases ackOf packet with
  | none => simp
  | some p =>
    obtain ⟨kind, id⟩ := p
    cases kind <;> simp

theorem count_offeredId (packets : List (GenericPacket w)) :
    (packets.filterMap offeredId).count u = offersIn u packets := by
  induction packets with
  | nil => rfl
  | cons packet packets ih =>
    have hcons : offersIn u (packet :: packets) = offersIn u [packet] + offersIn u packets :=
      offersIn_append [packet] packets
    rw [hcons, ← ih]
    by_cases hp : packet.publishOf = some (u, .atLeastOnce)
    · rw [List.filterMap_cons_some (offeredId_eq_some.mpr hp), List.count_cons_self,
        offersIn_singleton hp, if_pos ⟨rfl, rfl⟩]
      omega
    · have hone : offersIn u [packet] = 0 :=
        offersIn_eq_zero (List.forall_mem_singleton.mpr (offerOf_eq_none.mpr hp))
      cases ho : offeredId packet with
      | none =>
        rw [List.filterMap_cons_none ho]
        omega
      | some a =>
        have hne : a ≠ u := by
          intro heq
          subst heq
          exact hp (offeredId_eq_some.mp ho)
        rw [List.filterMap_cons_some ho, List.count_cons_of_ne hne]
        omega

theorem mem_pubackId {packets : List (GenericPacket w)} :
    u ∈ packets.filterMap pubackId ↔ 0 < receiptsIn u packets := by
  rw [List.mem_filterMap]
  simp only [pubackId_eq_some]
  constructor
  · intro ⟨packet, hmem, hack⟩
    apply List.length_pos_of_mem (a := ())
    exact List.mem_filterMap.mpr ⟨packet, hmem, by simp [receiptOf, hack]⟩
  · intro hpos
    obtain ⟨a, ha⟩ := List.exists_mem_of_length_pos hpos
    obtain ⟨packet, hmem, hsome⟩ := List.mem_filterMap.mp ha
    refine ⟨packet, hmem, ?_⟩
    by_contra hno
    rw [receiptOf_eq_none.mpr hno] at hsome
    cases hsome

theorem mem_committedId {i : HandoverInput w} {events : List (GenericEvent w)} :
    u ∈ committedId i events ↔ ∃ packet, i = .sends (.send packet) ∧
      packet.publishOf = some (u, .atLeastOnce) ∧ errors events = [] := by
  unfold committedId
  split
  · rename_i packet
    by_cases he : errors events = []
    · simp [he, offeredId_eq_some]
    · simp [he]
  · rename_i hno
    constructor
    · intro h
      cases h
    · intro ⟨packet, hin, _⟩
      exact (hno packet hin).elim

theorem commits_iff {c : GenericConnection w} {i : HandoverInput w} {events : List (GenericEvent w)}
    (hi : i = .sends op ∨ ∃ data, i = .returns data ∧ op = .recv data) :
    Commits u (c.inputOf op) (report events) ↔ u ∈ committedId i events := by
  rw [mem_committedId]
  constructor
  · intro ⟨packet, hin, hp, he⟩
    obtain rfl := send_of_inputOf hin
    rcases hi with rfl | ⟨data, -, hop⟩
    · exact ⟨packet, rfl, hp, he⟩
    · cases hop
  · intro ⟨packet, hin, hp, he⟩
    rcases hi with rfl | ⟨data, rfl, -⟩
    · obtain rfl := HandoverInput.sends.inj hin
      exact ⟨packet, rfl, hp, he⟩
    · cases hin

theorem entrusts_minds (hm : Minds link books op) :
    link.sender.Entrusts u (u ∈ books.underWay) (link.sender.inputOf op) where
  publish packet qos hin hu hp := hm.publish packet u qos (send_of_inputOf hin) hp hu
  kept packet hin := hm.kept packet u (send_of_inputOf hin)
  apart packet hin := hm.apart packet u (send_of_inputOf hin)
  pubrel packet hin hu hp := hm.pubrel packet u (send_of_inputOf hin) hp hu
  subscription packet kind hin hu hp := hm.subscription packet kind u (send_of_inputOf hin) hp hu
  released hu hin := hm.released u (release_of_inputOf hin) hu
  closed hin := hm.closed (close_of_inputOf hin)
  restored packets hin := hm.restored packets (restore_of_inputOf hin)

def Reads (link : HandoverLink w) (op : Operation w) (rest : List (GenericPacket w)) : Prop :=
  ∀ u, receiptsIn u link.toSender =
    (receiptIn u (link.sender.inputOf op)).toList.length + receiptsIn u rest

def movedBooks (books : ReceiptBooks w) (committed : Option (PacketId w)) (c : GenericConnection w) :
    ReceiptBooks w :=
  let underWay := (committed.toList ++ books.underWay).filter c.pidMan.isUsedId
  { underWay
    owed := books.owed
    heard := books.heard.filter fun u ↦ u ∈ underWay }

theorem mem_movedBooks {committed : Option (PacketId w)} {c : GenericConnection w} :
    u ∈ (movedBooks books committed c).underWay ↔
      (u ∈ books.underWay ∨ u ∈ committed) ∧ u ∈ c.session.used := by
  change u ∈ (committed.toList ++ books.underWay).filter c.pidMan.isUsedId ↔ _
  rw [List.mem_filter, List.mem_append, Option.mem_toList, or_comm]
  exact Iff.rfl

theorem length_toList_pos {α : Type} {o : Option α} (h : o.isSome) : 0 < o.toList.length := by
  cases o with
  | none => cases h
  | some a => exact Nat.one_pos

/-- The step of the sender as a move of the message with an identifier. -/
theorem moves_moved {committed : Option (PacketId w)} {r : GenericConnection w × Reply w}
    (hj : Posted v link books) (hm : Minds link books op) (hread : Reads link op rest)
    (hlent : link.sender.Lent u (u ∈ books.underWay) (link.sender.inputOf op) r.1.session
      (report r.2.toEvents))
    (hcommits : Commits u (link.sender.inputOf op) (report r.2.toEvents) ↔ u ∈ committed) :
    Tally.Moves (offersIn u (requested r.2.toEvents))
      (receiptIn u (link.sender.inputOf op)).toList.length (tally link books u)
      (tally (link.moved op r.1 r.2.toEvents rest) (movedBooks books committed r.1) u) := by
  have hquiet (hopened : link.opened = false) : (tally link books u).around = 0 :=
    hj.quiet hopened u
  have hunopened (hgreets : Greets (link.sender.inputOf op) (report r.2.toEvents)) :
      link.opened = false := by
    by_contra h
    exact hm.opened (by simpa using h) (greetingIn_of_greets hgreets).1
  refine ⟨?_, rfl, hread u, fun hpos ↦ ⟨hlent.once, ?_, ?_⟩, fun hu hno ↦ ?_, fun hheard hu ↦ ?_⟩
  · exact offersIn_append _ _
  · by_cases hu : u ∈ books.underWay
    · exact hquiet (hunopened (hlent.again hpos hu))
    · by_contra hne
      exact hu ((hj.sound u).sent (Nat.pos_of_ne_zero hne))
  · apply mem_movedBooks.mpr
    rw [← hcommits]
    exact hlent.fresh hpos
  · have hfree : u ∉ r.1.session.used := by
      intro hused
      exact hno (mem_movedBooks.mpr ⟨.inl hu, hused⟩)
    rcases hlent.ended hu hfree with hgot | hren
    · exact .inr (length_toList_pos hgot)
    · left
      apply hquiet
      by_contra h
      exact hm.renewed (by simpa using h) (renewalIn_of_renews hren)
  · change u ∈ books.heard.filter _
    rw [List.mem_filter]
    exact ⟨hheard, decide_eq_true hu⟩

theorem posted_moved {i : HandoverInput w}
    (hi : i = .sends op ∨ ∃ data, i = .returns data ∧ op = .recv data)
    (hj : Posted v link books) (hm : Minds link books op) (hread : Reads link op rest) :
    (link.sender.step op).Ensures fun r ↦
      Posted v (link.moved op r.1 r.2.toEvents rest)
        (movedBooks books (committedId i r.2.toEvents) r.1) ∧
      ∀ u ∈ released r.2.toEvents, u ∈ books.underWay → u ∈ books.heard := by
  intro r hr
  have hlent (u : PacketId w) := step_lent (reachable_reading hj.sender) hj.version hj.determined
    hj.filed (hj.lends u) (entrusts_minds hm) hm.fits r hr
  have hmoves (u : PacketId w) := moves_moved hj hm hread (hlent u) (commits_iff hi)
  obtain ⟨hversion, hfiled⟩ := step_filed hj.sender hj.version hj.determined hj.filed hm.restored r hr
  have hshut (h : (link.moved op r.1 r.2.toEvents rest).opened = false) : link.opened = false ∧
      ¬ Greets (link.sender.inputOf op) (report r.2.toEvents) := by
    constructor
    · by_contra hopened
      simp [moved, hopened] at h
    · intro hgreets
      rw [opened_of_greets hgreets] at h
      cases h
  refine ⟨⟨hj.sender.step hr, hj.receiver, hversion, hj.determined, hfiled, fun hopened hstatus ↦ ?_,
    fun hopened u ↦ ?_, fun u ↦ (hj.sound u).moves (hmoves u), fun u ↦ ?_, fun u hu ↦ ?_⟩,
    fun u hu hmem ↦ ?_⟩
  · obtain ⟨hold, hgreets⟩ := hshut hopened
    exact (step_greeted (reachable_reading hj.sender) r hr hstatus).elim (hj.closed hold) hgreets
  · obtain ⟨hold, hgreets⟩ := hshut hopened
    have hbefore := hj.quiet hold u
    have hsent : offersIn u (requested r.2.toEvents) = 0 := by
      by_contra hne
      exact ((hlent u).connected (Nat.pos_of_ne_zero hne)).elim (hj.closed hold) hgreets
    have hoffers := (hmoves u).offers
    have howed := (hmoves u).owed
    have hreceipts := (hmoves u).receipts
    unfold Tally.around at hbefore ⊢
    omega
  · have hiff : (u ∈ (movedBooks books (committedId i r.2.toEvents) r.1).underWay) =
        ((u ∈ books.underWay ∨ Commits u (link.sender.inputOf op) (report r.2.toEvents)) ∧
          u ∈ r.1.session.used) := by
      rw [commits_iff hi]
      exact propext mem_movedBooks
    rw [hiff]
    exact (hlent u).lends
  · exact of_decide_eq_true (List.mem_filter.mp hu).2
  · have hgot := length_toList_pos ((hlent u).released hu hmem)
    have hreceipts := (hmoves u).receipts
    exact ((hj.sound u).of_receipts (by omega)).2

def servedBooks (books : ReceiptBooks w) (events : List (GenericEvent w)) : ReceiptBooks w :=
  let told := (notified events).filterMap offeredId
  { underWay := books.underWay
    owed := (books.owed ++ told).filter fun u ↦ u ∉ (requested events).filterMap pubackId
    heard := (told ++ books.heard).filter fun u ↦ u ∈ books.underWay }

def Takes (link : HandoverLink w) (op : Operation w) (rest : List (GenericPacket w)) : Prop :=
  ∀ u, offersIn u link.toReceiver =
    (offerIn u (link.receiver.inputOf op)).toList.length + offersIn u rest

/-- The step of the receiver as a move of the message with an identifier. -/
theorem serves_served {r : GenericConnection w × Reply w} (hj : Posted v link books)
    (htakes : Takes link op rest)
    (hpaid : ∀ packet, link.receiver.inputOf op = .send packet →
      ackOf packet = some (.puback, u) → u ∈ books.owed)
    (hhands : Hands u (link.receiver.inputOf op) (report r.2.toEvents)) :
    Tally.Serves (offerIn u (link.receiver.inputOf op)).toList.length
      (offersIn u (notified r.2.toEvents)) (tally link books u)
      (tally (link.served r.1 r.2.toEvents rest) (servedBooks books r.2.toEvents) u) := by
  have hwithin : offersIn u (notified r.2.toEvents) ≤
      (offerIn u (link.receiver.inputOf op)).toList.length := by
    cases hhands with
    | rest hn => exact hn.le.trans (Nat.zero_le _)
    | answered _ _ hn => exact hn.le.trans (Nat.zero_le _)
    | told hin hp hn =>
      have hone : offerIn u (link.receiver.inputOf op) = some () := by
        rw [hin]
        exact (offerOf_publish hp).trans (if_pos ⟨rfl, rfl⟩)
      rw [hone]
      exact hn.le
  have howed : (servedBooks books r.2.toEvents).owed.count u =
      if 0 < receiptsIn u (requested r.2.toEvents) then 0
      else books.owed.count u + offersIn u (notified r.2.toEvents) := by
    unfold servedBooks
    dsimp only
    split
    · rw [List.count_eq_zero, List.mem_filter]
      intro hmem
      exact of_decide_eq_true hmem.2 (mem_pubackId.mpr ‹_›)
    · have hkept : decide (u ∉ (requested r.2.toEvents).filterMap pubackId) = true :=
        decide_eq_true (mt mem_pubackId.mp ‹_›)
      have hcount := List.count_filter (l := books.owed ++ (notified r.2.toEvents).filterMap offeredId)
        (p := fun u ↦ decide (u ∉ (requested r.2.toEvents).filterMap pubackId)) hkept
      rw [hcount, List.count_append, count_offeredId]
  have hreceipts : (servedBooks books r.2.toEvents).owed.count u +
      (receiptsIn u link.toSender + receiptsIn u (requested r.2.toEvents)) ≤
      books.owed.count u + receiptsIn u link.toSender + offersIn u (notified r.2.toEvents) := by
    rw [howed]
    cases hhands with
    | rest hn hr =>
      have hr' : receiptsIn u (requested r.2.toEvents) = 0 := hr
      rw [if_neg (by omega)]
      omega
    | told _ _ hn hr =>
      have hn' : offersIn u (notified r.2.toEvents) = 1 := hn
      have hr' : receiptsIn u (requested r.2.toEvents) ≤ 1 := hr
      split <;> omega
    | answered hin hack hn hr =>
      have hr' : receiptsIn u (requested r.2.toEvents) ≤ 1 := hr
      have hpos : 0 < books.owed.count u := List.count_pos_iff.mpr (hpaid _ hin hack)
      split <;> omega
  have hoffers : (tally link books u).offers = (offerIn u (link.receiver.inputOf op)).toList.length +
      (tally (link.served r.1 r.2.toEvents rest) (servedBooks books r.2.toEvents) u).offers := htakes u
  refine ⟨hoffers, ?_, hwithin, Iff.rfl, fun h ↦ ?_⟩
  · change _ + receiptsIn u (link.toSender ++ requested r.2.toEvents) ≤ _
    rw [receiptsIn_append]
    exact hreceipts
  · change u ∈ ((notified r.2.toEvents).filterMap offeredId ++ books.heard).filter _
    rw [List.mem_filter, List.mem_append]
    rcases h with h | h
    · exact ⟨.inr h, decide_eq_true (hj.heard u h)⟩
    · have hunder : u ∈ books.underWay :=
        (hj.sound u).of_offers (by omega)
      refine ⟨.inl ?_, decide_eq_true hunder⟩
      rw [← List.count_pos_iff, count_offeredId]
      exact h

theorem posted_served (hj : Posted v link books) (htakes : Takes link op rest)
    (hpaid : ∀ packet u, link.receiver.inputOf op = .send packet →
      ackOf packet = some (.puback, u) → u ∈ books.owed) :
    (link.receiver.step op).Ensures fun r ↦
      Posted v (link.served r.1 r.2.toEvents rest) (servedBooks books r.2.toEvents) ∧
      ∀ p ∈ notified r.2.toEvents, ∀ u, p.publishOf = some (u, .atLeastOnce) →
        u ∈ books.underWay := by
  intro r hr
  have hserves (u : PacketId w) := serves_served hj htakes (fun packet ↦ hpaid packet u)
    (step_hands hj.receiver r hr)
  refine ⟨⟨hj.sender, step_reading hj.receiver op r hr, hj.version, hj.determined, hj.filed, hj.closed,
    fun hopened u ↦ ?_, fun u ↦ (hj.sound u).serves (hserves u), hj.lends, fun u hu ↦ ?_⟩,
    fun p hp u hpub ↦ ?_⟩
  · have hbefore : (tally link books u).around = 0 := hj.quiet hopened u
    have hoffers := (hserves u).offers
    have hreceipts := (hserves u).receipts
    have hwithin := (hserves u).within
    unfold Tally.around at hbefore ⊢
    omega
  · exact of_decide_eq_true (List.mem_filter.mp hu).2
  · have htold : 0 < offersIn u (notified r.2.toEvents) := by
      rw [← count_offeredId, List.count_pos_iff]
      exact List.mem_filterMap.mpr ⟨p, hp, offeredId_eq_some.mpr hpub⟩
    have hoffers := (hserves u).offers
    have hwithin := (hserves u).within
    exact (hj.sound u).of_offers (by omega)

/-- The books after the loss of the network connection. -/
def cutBooks (books : ReceiptBooks w) (c : GenericConnection w) : ReceiptBooks w :=
  let underWay := books.underWay.filter c.pidMan.isUsedId
  { underWay
    owed := []
    heard := books.heard.filter fun u ↦ u ∈ underWay }

theorem posted_cut (hj : Posted v link books) (hkept : books.underWay ≠ [] → link.sender.needStore)
    {r r' : GenericConnection w × Reply w} (hr : link.sender.step .notifyClosed = .ret r)
    (hr' : link.receiver.step .notifyClosed = .ret r') :
    Posted v (link.cut r.1 r'.1) (cutBooks books r.1) ∧
      (∀ u ∈ released r.2.toEvents, u ∉ books.underWay) ∧ notified r'.2.toEvents = [] := by
  obtain ⟨hsession, hversion, hstatus, -, hreleased⟩ := step_closed hr
  obtain ⟨-, -, -, hnotified, -⟩ := step_closed hr'
  have hlends (u : PacketId w) : r.1.session.Lends u (u ∈ books.underWay) := by
    rw [hsession]
    exact (hj.lends u).closed fun hu ↦ hkept (List.ne_nil_of_mem hu)
  have hsame (u : PacketId w) : (u ∈ (cutBooks books r.1).underWay) = (u ∈ books.underWay) := by
    apply propext
    change u ∈ books.underWay.filter r.1.pidMan.isUsedId ↔ _
    rw [List.mem_filter]
    exact and_iff_left_of_imp fun hu ↦ (hlends u).used hu
  have hsender : Reachable (system w) r.1 :=
    hj.sender.step (show (system w).step link.sender .notifyClosed = .ret (r.1, r.2) from hr)
  have hquiet (u : PacketId w) :
      (tally (link.cut r.1 r'.1) (cutBooks books r.1) u).around = 0 := rfl
  refine ⟨⟨hsender, step_reading hj.receiver _ r' hr', hversion.trans hj.version, hj.determined,
    fun id stored hget ↦ ?_, fun _ ↦ ?_, fun _ ↦ hquiet, fun u ↦ Tally.sound_quiet (hquiet u),
    fun u ↦ ?_, fun u hu ↦ ?_⟩, fun u hu hmem ↦ hreleased u hu ((hlends u).used hmem), hnotified⟩
  · have hget' : r.1.session.stored id = some stored := hget
    rw [hsession] at hget'
    exact hj.filed id stored hget'
  · change r.1.status ≠ .connected
    rw [hstatus]
    simp
  · rw [hsame]
    exact hlends u
  · exact of_decide_eq_true (List.mem_filter.mp hu).2

end ReceiptBooks

end MqttProtocolCore.Connection
