import MqttProtocolCore.Connection.ReceiptLink

namespace MqttProtocolCore.Connection

open General Packet GenericConnection HandoverLink

variable {w : IdWidth}

namespace ReceiptBooks

variable {link : HandoverLink w} {books : ReceiptBooks w} {v : Version} {u id : PacketId w}
  {op : Operation w} {packet : GenericPacket w} {data : Bytes}

theorem reads_sends (h : ∀ data, op ≠ .recv data) : Reads link op link.toSender := by
  intro u
  cases hin : link.sender.inputOf op with
  | receive packet =>
    obtain ⟨data, -, rfl, -⟩ := arrival_of_inputOf hin
    exact (h data rfl).elim
  | _ => exact (Nat.zero_add _).symm

theorem takes_answers (h : ∀ data, op ≠ .recv data) : Takes link op link.toReceiver := by
  intro u
  cases hin : link.receiver.inputOf op with
  | receive packet =>
    obtain ⟨data, -, rfl, -⟩ := arrival_of_inputOf hin
    exact (h data rfl).elim
  | _ => exact (Nat.zero_add _).symm

theorem reads_returns (h : link.Returns data packet) : Reads link (.recv data) link.toSender.tail := by
  obtain ⟨hhead, v, ha⟩ := h
  intro u
  rw [inputOf_arrival ha]
  unfold receiptsIn
  rw [filterMap_head hhead, List.length_append]
  rfl

theorem takes_delivers (h : link.Delivers data packet) :
    Takes link (.recv data) link.toReceiver.tail := by
  obtain ⟨hhead, v, ha⟩ := h
  intro u
  rw [inputOf_arrival ha]
  unfold offersIn
  rw [filterMap_head hhead, List.length_append]
  rfl

theorem after_moved {i : HandoverInput w} {link' : HandoverLink w} {events : List (GenericEvent w)}
    (hi : isLoss i = false) : books.after ⟨link, i, link', events, []⟩ =
      movedBooks books (committedId i events) link'.sender := by
  simp [after, movedBooks, hi, notified, requested]

theorem after_served {i : HandoverInput w} {link' : HandoverLink w} {events : List (GenericEvent w)}
    (hi : isLoss i = false) (hno : ∀ op, i ≠ .sends op)
    (hused : ∀ u ∈ books.underWay, link'.sender.pidMan.isUsedId u) :
    books.after ⟨link, i, link', [], events⟩ = servedBooks books events := by
  have hnone : committedId i ([] : List (GenericEvent w)) = none := by
    cases i with
    | sends op => exact (hno op rfl).elim
    | _ => rfl
  have hall : books.underWay.filter link'.sender.pidMan.isUsedId = books.underWay :=
    List.filter_eq_self.mpr hused
  simp [after, servedBooks, hi, hnone, hall]

theorem after_cut {link' : HandoverLink w} {events rest : List (GenericEvent w)}
    (hrest : notified rest = []) :
    books.after ⟨link, .lost, link', events, rest⟩ = cutBooks books link'.sender := by
  simp [after, cutBooks, hrest, committedId, isLoss]

/-- What holds of every transition: a message under way is announced as released only after the
receiver was told of it, every PUBACK that comes back is for a message under way that the receiver was
told of, the receiver is told of messages under way only, and a message under way is in the store. -/
structure ReceivesAll (t : Transition (HandoverLink w × ReceiptBooks w) (HandoverInput w)
    (HandoverOutput w)) : Prop where
  released : ∀ u ∈ released t.output.1, u ∈ t.before.2.underWay → u ∈ t.before.2.heard
  returned : ∀ data packet u, t.input = .returns data → t.before.1.Returns data packet →
    ackOf packet = some (.puback, u) → u ∈ t.before.2.underWay ∧ u ∈ t.before.2.heard
  told : ∀ p ∈ notified t.output.2, ∀ u, p.publishOf = some (u, .atLeastOnce) →
    u ∈ t.before.2.underWay
  stored : ∀ u ∈ t.after.2.underWay, ∃ stored, t.after.1.sender.store.get u = some stored ∧
    stored.toPacket.publishOf = some (u, .atLeastOnce)

def receiptSystem (v : Version) :
    System (HandoverLink w × ReceiptBooks w) (HandoverInput w) (HandoverOutput w) :=
  (handoverSystem v).monitor start after

theorem Posted.stored (hj : Posted v link books) (hu : u ∈ books.underWay) :
    ∃ stored, link.sender.store.get u = some stored ∧
      stored.toPacket.publishOf = some (u, .atLeastOnce) := (hj.lends u).stored.mp hu

theorem Posted.congr {books' : ReceiptBooks w} (h : Posted v link books') (hb : books = books') :
    Posted v link books := hb ▸ h

theorem receivesAll_moved {i : HandoverInput w} {link' : HandoverLink w} {books' : ReceiptBooks w}
    {events : List (GenericEvent w)} (hj : Posted v link' books')
    (hreleased : ∀ u ∈ released events, u ∈ books.underWay → u ∈ books.heard)
    (hreturned : ∀ data packet u, i = .returns data → link.Returns data packet →
      ackOf packet = some (.puback, u) → u ∈ books.underWay ∧ u ∈ books.heard) :
    ReceivesAll ⟨(link, books), i, (link', books'), events, []⟩ where
  released := hreleased
  returned := hreturned
  told _ hp := by cases hp
  stored _ hu := hj.stored hu

theorem receivesAll_served {i : HandoverInput w} {link' : HandoverLink w} {books' : ReceiptBooks w}
    {events : List (GenericEvent w)} (hj : Posted v link' books') (hi : ∀ data, i ≠ .returns data)
    (htold : ∀ p ∈ notified events, ∀ u, p.publishOf = some (u, .atLeastOnce) →
      u ∈ books.underWay) : ReceivesAll ⟨(link, books), i, (link', books'), [], events⟩ where
  released _ hu := by cases hu
  returned data _ _ hin := (hi data hin).elim
  told := htold
  stored _ hu := hj.stored hu

/-- A receipt that comes back is for a message that the receiver was told of. -/
theorem Posted.returned (hj : Posted v link books) (hreturns : link.Returns data packet)
    (hack : ackOf packet = some (.puback, u)) : u ∈ books.underWay ∧ u ∈ books.heard := by
  have hread := reads_returns hreturns u
  obtain ⟨-, v', ha⟩ := hreturns
  have hone : receiptIn u (link.sender.inputOf (.recv data)) = some () := by
    rw [inputOf_arrival ha]
    simp [receiptIn, receiptOf, hack]
  rw [hone] at hread
  apply (hj.sound u).of_receipts
  change 0 < receiptsIn u link.toSender
  rw [hread]
  exact Nat.lt_of_lt_of_le Nat.one_pos (Nat.le_add_right _ _)

theorem step_posted {p : HandoverLink w × ReceiptBooks w} {i : HandoverInput w}
    (hj : Posted v p.1 p.2) (hok : Posts p.1 p.2 i) : ((receiptSystem v).step p i).Ensures fun r ↦
      Posted v r.1.1 r.1.2 ∧ ReceivesAll ⟨p, i, r.1, r.2⟩ := by
  obtain ⟨link, books⟩ := p
  dsimp only at hj hok
  have hused (u : PacketId w) (hu : u ∈ books.underWay) : link.sender.pidMan.isUsedId u :=
    (hj.lends u).used hu
  intro x hx
  obtain ⟨y, hy, hret⟩ := Outcome.bind_eq_ret.mp hx
  obtain rfl := Outcome.ret.inj hret
  cases i with
  | sends op =>
    obtain ⟨hrecv, hm⟩ := hok
    obtain ⟨r, hr, hret'⟩ := Outcome.bind_eq_ret.mp hy
    obtain rfl := Outcome.ret.inj hret'
    obtain ⟨hmoved, hreleased⟩ := posted_moved (.inl rfl) hj hm (reads_sends hrecv) r hr
    have hj' : Posted v (link.moved op r.1 r.2.toEvents link.toSender)
        (books.after ⟨link, .sends op, link.moved op r.1 r.2.toEvents link.toSender,
          r.2.toEvents, []⟩) := hmoved.congr (after_moved rfl)
    exact ⟨hj', receivesAll_moved hj' hreleased fun _ _ _ hin ↦ by cases hin⟩
  | returns data =>
    obtain ⟨⟨packet, hreturns⟩, hm⟩ := hok
    obtain ⟨r, hr, hret'⟩ := Outcome.bind_eq_ret.mp hy
    obtain rfl := Outcome.ret.inj hret'
    obtain ⟨hmoved, hreleased⟩ :=
      posted_moved (.inr ⟨data, rfl, rfl⟩) hj hm (reads_returns hreturns) r hr
    have hj' : Posted v (link.moved (.recv data) r.1 r.2.toEvents link.toSender.tail)
        (books.after ⟨link, .returns data, link.moved (.recv data) r.1 r.2.toEvents link.toSender.tail,
          r.2.toEvents, []⟩) := hmoved.congr (after_moved rfl)
    refine ⟨hj', receivesAll_moved hj' hreleased fun data' packet' u hin hreturns' hack ↦ ?_⟩
    obtain rfl := HandoverInput.returns.inj hin
    exact hj.returned hreturns' hack
  | answers op =>
    obtain ⟨hrecv, hpaid⟩ := hok
    obtain ⟨r, hr, hret'⟩ := Outcome.bind_eq_ret.mp hy
    obtain rfl := Outcome.ret.inj hret'
    obtain ⟨hserved, htold⟩ := posted_served hj (takes_answers hrecv)
      (fun packet u hin ↦ hpaid packet u (send_of_inputOf hin)) r hr
    have hj' : Posted v (link.served r.1 r.2.toEvents link.toReceiver)
        (books.after ⟨link, .answers op, link.served r.1 r.2.toEvents link.toReceiver,
          [], r.2.toEvents⟩) := hserved.congr (after_served rfl (by simp) hused)
    exact ⟨hj', receivesAll_served hj' (by simp) htold⟩
  | delivers data =>
    obtain ⟨packet, hdelivers⟩ := hok
    obtain ⟨r, hr, hret'⟩ := Outcome.bind_eq_ret.mp hy
    obtain rfl := Outcome.ret.inj hret'
    have hpaid (packet : GenericPacket w) (u : PacketId w)
        (hin : link.receiver.inputOf (.recv data) = .send packet) : u ∈ books.owed := by
      obtain ⟨-, v', ha⟩ := hdelivers
      cases (inputOf_arrival ha).symm.trans hin
    obtain ⟨hserved, htold⟩ := posted_served hj (takes_delivers hdelivers)
      (fun packet u hin _ ↦ hpaid packet u hin) r hr
    have hj' : Posted v (link.served r.1 r.2.toEvents link.toReceiver.tail)
        (books.after ⟨link, .delivers data, link.served r.1 r.2.toEvents link.toReceiver.tail,
          [], r.2.toEvents⟩) := hserved.congr (after_served rfl (by simp) hused)
    exact ⟨hj', receivesAll_served hj' (by simp) htold⟩
  | lost =>
    obtain ⟨r, hr, hrest⟩ := Outcome.bind_eq_ret.mp hy
    obtain ⟨r', hr', hret'⟩ := Outcome.bind_eq_ret.mp hrest
    obtain rfl := Outcome.ret.inj hret'
    obtain ⟨hcut, hreleased, hnotified⟩ := posted_cut hj hok hr hr'
    have hj' : Posted v (link.cut r.1 r'.1)
        (books.after ⟨link, .lost, link.cut r.1 r'.1,
          r.2.toEvents, r'.2.toEvents⟩) := hcut.congr (after_cut hnotified)
    refine ⟨hj', fun u hu hmem ↦ (hreleased u hu hmem).elim, fun data packet u hin ↦ ?_,
      fun p hp ↦ ?_, fun u hu ↦ hj'.stored hu⟩
    · cases hin
    · have hp' : p ∈ notified r'.2.toEvents := hp
      rw [hnotified] at hp'
      cases hp'

theorem posted_start (hs : Starts v link) : Posted v link start := by
  have hj := joint_starts hs
  have hstored (id : PacketId w) : link.sender.session.stored id = none := by
    change link.sender.store.map.get id = none
    simp [IndexMap.get, hs.stored]
  have hquiet (u : PacketId w) : (tally link start u).around = 0 := by
    rw [hs.quiet]
    rfl
  refine ⟨hj.sender, hj.receiver, hj.version, hj.determined, hj.filed, hj.closed, fun _ ↦ hquiet,
    fun u ↦ Tally.sound_quiet (hquiet u), fun u ↦ ?_, fun u hu ↦ ?_⟩
  · rw [eq_false (show u ∉ (start : ReceiptBooks w).underWay from List.not_mem_nil)]
    apply Session.lends_free
    intro h
    obtain ⟨stored, hget, -⟩ := h
    cases (hstored u).symm.trans hget
  · cases hu

/-- In every run of a sender and a receiver over any losses of the network connection, the sender
announces a message of quality of service 1 as finished only after the receiver was told of it, and
keeps it in its store until then. -/
theorem received_at_least_once {p : HandoverLink w × ReceiptBooks w}
    {trace : List (Transition (HandoverLink w × ReceiptBooks w) (HandoverInput w) (HandoverOutput w))}
    (hrun : Run (receiptSystem v) (fun p i ↦ Posts p.1 p.2 i) trace p) : ∀ t ∈ trace, ReceivesAll t := by
  have h := hrun.transitions (I := fun p ↦ Posted v p.1 p.2) (P := ReceivesAll)
    (fun p hp ↦ hp.2 ▸ posted_start hp.1) (fun p i hj hok ↦ step_posted hj hok)
  exact h.2

section Runs

theorem minds_publish (hp : packet.publishOf = some (id, .atLeastOnce)) (hu : id ∉ books.underWay)
    (hkept : link.sender.storesPublish ∧ ¬ link.sender.withdraws packet)
    (hapart : ∀ kind, kind ≠ .puback → id ∉ link.sender.awaiting kind) (h0 : id ≠ 0) :
    Minds link books (.send packet) where
  publish p a qos h hp' := by
    obtain rfl := Operation.send.inj h
    obtain ⟨rfl, -⟩ := Prod.mk.inj (Option.some.inj (hp.symm.trans hp'))
    exact hu
  kept p a h _ := by
    obtain rfl := Operation.send.inj h
    exact hkept
  apart p a h hp' := by
    obtain rfl := Operation.send.inj h
    obtain ⟨rfl, -⟩ := Prod.mk.inj (Option.some.inj (hp.symm.trans hp'))
    exact ⟨hapart, h0⟩
  pubrel p a h hp' := by
    obtain rfl := Operation.send.inj h
    cases (partOf_pubrel hp').symm.trans (partOf_publish hp)
  subscription p kind a h hs := by
    obtain rfl := Operation.send.inj h
    cases (partOf_subscription hs).symm.trans (partOf_publish hp)
  released _ h := by cases h
  restored _ h := by cases h
  closed h := by cases h
  opened _ := not_greetingIn (by simp [partOf_publish hp])
  renewed _ := not_renewalIn (by simp [partOf_publish hp])
  fits limit before h := by
    cases h with
    | sent hp' => cases (partOf_connack hp').symm.trans (partOf_publish hp)

theorem minds_recv (hopened : link.opened → ¬ greetingIn (link.sender.inputOf (.recv data)))
    (hrenewed : link.opened → ¬ renewalIn (link.sender.inputOf (.recv data)))
    (hfits : link.sender.Resendable (.recv data)) : Minds link books (.recv data) where
  publish _ _ _ h := by cases h
  kept _ _ h := by cases h
  apart _ _ h := by cases h
  pubrel _ _ h := by cases h
  subscription _ _ _ h := by cases h
  released _ h := by cases h
  restored _ h := by cases h
  closed h := by cases h
  opened := hopened
  renewed := hrenewed
  fits := hfits

theorem posts_publish (hp : packet.publishOf = some (id, .atLeastOnce)) (hu : id ∉ books.underWay)
    (hkept : link.sender.storesPublish ∧ ¬ link.sender.withdraws packet)
    (hapart : ∀ kind, kind ≠ .puback → id ∉ link.sender.awaiting kind) (h0 : id ≠ 0) :
    Posts link books (.sends (.send packet)) :=
  ⟨fun _ h ↦ (by cases h), minds_publish hp hu hkept hapart h0⟩

theorem posts_connack {present : Bool} (hp : packet.connackOf = some present) :
    Posts link books (.answers (.send packet)) := by
  refine ⟨fun _ h ↦ (by cases h), fun p id h ↦ ?_⟩
  obtain rfl := Operation.send.inj h
  have hack : ackOf packet = none := ackOf_eq_none (by simp [partOf_connack hp])
  simp [hack]

theorem posts_greeting (h : link.Returns data packet) (hopened : link.opened = false)
    (hfits : link.sender.Refits packet) : Posts link books (.returns data) := by
  obtain ⟨_, ha⟩ := h.2
  exact ⟨⟨packet, h⟩, minds_recv (by simp [hopened]) (by simp [hopened]) (hfits.resendable ha)⟩

theorem posts_receipt (hreturns : link.Returns data packet) (hack : ackOf packet = some (.puback, id)) :
    Posts link books (.returns data) := by
  obtain ⟨_, ha⟩ := hreturns.2
  have hin := inputOf_arrival ha
  refine ⟨⟨packet, hreturns⟩, minds_recv ?_ ?_ ?_⟩
  · intro _
    rw [hin]
    exact not_greetingIn (by simp [partOf_ack hack])
  · intro _ hr
    simp [hin, renewalIn, connectOf_eq_none (show partOf packet ≠ _ by simp [partOf_ack hack]),
      connackOf_eq_none (show partOf packet ≠ _ by simp [partOf_ack hack])] at hr
  · intro limit before h
    cases h with
    | received ha' hp =>
      obtain ⟨-, rfl⟩ := Prod.mk.inj (Option.some.inj (ha.symm.trans ha'))
      cases (partOf_connack hp).symm.trans (partOf_ack hack)

/-- A message was entrusted to a sender without a network connection, and the receiver accepts the
next one with the session it kept. -/
def entrusted : Outcome (HandoverLink .u16 × ReceiptBooks .u16) := do
  let link ← interrupted
  let publish ← (V50.Publish.parse 2 [0, 1, 0x61, 0, 1, 0]).unwrap
  let connack ← (V50.Connack.parse [1, 0, 0]).unwrap
  let (p, _) ← (receiptSystem .v50).step (link, start) (.sends (.send (.v50Publish publish.1)))
  let (p, _) ← (receiptSystem .v50).step p (.answers (.send (.v50Connack connack.1)))
  return p

theorem run_entrusted {p : HandoverLink .u16 × ReceiptBooks .u16} (h : entrusted = .ret p) :
    ∃ trace, trace.length = 2 ∧
      Run (receiptSystem .v50) (fun p i ↦ Posts p.1 p.2 i) trace p := by
  obtain ⟨link, hlink, publish, hpublish, connack, hconnack, hp, hgreets, hapart, hkept⟩ :
      interrupted.Attains fun link ↦
      (V50.Publish.parse (w := .u16) 2 [0, 1, 0x61, 0, 1, 0]).unwrap.Attains fun publish ↦
      (V50.Connack.parse [1, 0, 0]).unwrap.Attains fun connack ↦
      (GenericPacket.v50Publish publish.1).publishOf = some (1, .atLeastOnce) ∧
      (GenericPacket.v50Connack (w := .u16) connack.1).connackOf = some true ∧
      (∀ kind ∈ [AckKind.pubrec, .pubcomp, .suback, .unsuback], 1 ∉ link.sender.awaiting kind) ∧
      link.sender.storesPublish ∧ ¬ link.sender.withdraws (.v50Publish publish.1) := by
    decide +kernel
  rw [entrusted, hlink, Outcome.ret_bind, hpublish, Outcome.ret_bind, hconnack,
    Outcome.ret_bind] at h
  obtain ⟨⟨p₁, _⟩, h₁, h⟩ := Outcome.bind_eq_ret.mp h
  obtain ⟨⟨p₂, _⟩, h₂, h⟩ := Outcome.bind_eq_ret.mp h
  obtain rfl := Outcome.ret.inj h
  have hstarts : (receiptSystem .v50).Init (link, start) := ⟨starts_interrupted hlink, rfl⟩
  have hrun₁ : Run (receiptSystem .v50) (fun p i ↦ Posts p.1 p.2 i) _ p₁ :=
    (Run.init hstarts).step
      (posts_publish hp List.not_mem_nil hkept
        (fun kind h ↦ hapart kind (by cases kind <;> simp at h ⊢)) (by decide)) h₁
  exact ⟨_, rfl, hrun₁.step (posts_connack hgreets) h₂⟩

/-- A message is stored while there is no network connection, sent again when the session is resumed,
and finished by the PUBACK that comes back. -/
theorem received_at_least_once_resumed : ∃ (p : HandoverLink .u16 × ReceiptBooks .u16)
    (trace : List (Transition _ _ _)),
    Run (receiptSystem .v50) (fun p i ↦ Posts p.1 p.2 i) trace p ∧ trace.length = 5 ∧
      ∀ t ∈ trace, ReceivesAll t := by
  obtain ⟨p, hp, connack, -, publish, -, puback, -, hack, hopened, hgreeting, hfits, ⟨p₁, _⟩, h₁,
      hdelivers, ⟨p₂, _⟩, h₂, hreceipt, ⟨p₃, _⟩, h₃⟩ :
      entrusted.Attains fun p ↦
      (V50.Connack.parse [1, 0, 0]).unwrap.Attains fun connack ↦
      (V50.Publish.parse (w := .u16) 10 [0, 1, 0x61, 0, 1, 0]).unwrap.Attains fun publish ↦
      (V50.Ack.parse (w := .u16) (C := PubackReasonCode) [0, 1]).unwrap.Attains fun puback ↦
      ackOf (.v50Puback puback.1) = some (.puback, 1) ∧ p.1.opened = false ∧
      p.1.Returns [0x20, 3, 1, 0, 0] (.v50Connack connack.1) ∧
      p.1.sender.Refits (.v50Connack connack.1) ∧
      ((receiptSystem .v50).step p (.returns [0x20, 3, 1, 0, 0])).Attains fun r₁ ↦
      r₁.1.1.Delivers [0x3A, 6, 0, 1, 0x61, 0, 1, 0] (.v50Publish publish.1) ∧
      ((receiptSystem .v50).step r₁.1 (.delivers [0x3A, 6, 0, 1, 0x61, 0, 1, 0])).Attains fun r₂ ↦
      r₂.1.1.Returns [0x40, 2, 0, 1] (.v50Puback puback.1) ∧
      ((receiptSystem .v50).step r₂.1 (.returns [0x40, 2, 0, 1])).Returns := by
    decide +kernel
  obtain ⟨trace, hlen, hrun⟩ := run_entrusted hp
  have hrun₁ := hrun.step (posts_greeting hgreeting hopened hfits) h₁
  have hposts : Posts p₁.1 p₁.2 (.delivers [0x3A, 6, 0, 1, 0x61, 0, 1, 0]) := ⟨_, hdelivers⟩
  have hrun₂ := hrun₁.step hposts h₂
  have hrun₃ := hrun₂.step (posts_receipt hreceipt hack) h₃
  exact ⟨p₃, _, hrun₃, by simp [hlen], received_at_least_once hrun₃⟩

end Runs

end ReceiptBooks

end MqttProtocolCore.Connection
