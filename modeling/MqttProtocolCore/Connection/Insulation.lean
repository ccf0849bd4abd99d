import MqttProtocolCore.Connection.RecvLoop

namespace MqttProtocolCore.Connection

open General Packet VariableByteInteger

variable {w : IdWidth}

namespace PacketBuilder

variable {b : PacketBuilder} {p d : Bytes}

/-- A fresh builder only reads on over the bytes that another builder has read. -/
theorem Pending.feed_new (h : Pending b p) : ∃ b', new.feed p = .ret (b', .incomplete, []) := by
  obtain ⟨b', result, rest, hfeed, hfed⟩ := feed_spec .header p
  have hb : Fed p b .incomplete [] := .incomplete h
  rw [List.nil_append] at hfed
  cases hfed with
  | incomplete => exact ⟨b', hfeed⟩
  | complete hf hlen hbody hs =>
    rw [hs] at hb
    cases (hb.of_frame hf hlen hbody).2.1
  | error hc hlen hs => cases hb.of_longLength ⟨_, _, _, hs, hc, hlen⟩

theorem Pending.feed_frame {h : UInt8} {f body rest : Bytes} (hp : Pending b p) (hf : IsField f)
    (hlen : f.length ≤ 3) (hbody : body.length = fieldValue f)
    (hs : p ++ d = h :: (f ++ body ++ rest)) :
    b.feed d = .ret (new, .complete (rawPacket h body), rest) := by
  obtain ⟨b', result, rest', hfeed, hfed⟩ := feed_spec hp d
  rw [hs] at hfed
  obtain ⟨rfl, rfl, rfl⟩ := hfed.of_frame hf hlen hbody
  exact hfeed

/-- What the bytes make a builder report at once: an error, or a packet of the reserved type 0. -/
def Reports (b : PacketBuilder) (d : Bytes) : Prop :=
  ∃ b' rest, b.feed d = .ret (b', .error .malformedPacket, rest) ∨
    b.feed d = .ret (b', .complete (rawPacket 0 []), rest)

theorem Pending.reports (h : Pending b p) (hl : LongLength (p ++ d)) : b.Reports d := by
  obtain ⟨b', result, rest, hfeed, hfed⟩ := feed_spec h d
  obtain rfl := hfed.of_longLength hl
  exact ⟨b', rest, .inl hfeed⟩

/-- The bytes for which a fresh builder only reads on, while `b` reports something: at once, or
behind the packet that they complete. -/
def Distinguishes (b : PacketBuilder) (d : Bytes) : Prop :=
  (∃ b', new.feed d = .ret (b', .incomplete, [])) ∧ (b.Reports d ∨
    ∃ h body rest, body.length < VariableByteInteger.max ∧
      b.feed d = .ret (new, .complete (rawPacket h body), rest) ∧ new.Reports rest)

theorem Reports.ne_nil (h : b.Reports d) : d ≠ [] := by
  rintro rfl
  obtain ⟨_, _, h | h⟩ := h <;> simp [feed] at h

theorem Distinguishes.ne_nil (h : b.Distinguishes d) : d ≠ [] := by
  obtain ⟨-, h | ⟨_, _, _, -, h, -⟩⟩ := h
  · exact h.ne_nil
  · rintro rfl
    simp [feed] at h

theorem distinguishes_length {h : UInt8} {lens : Bytes} (hc : Continuing lens)
    (hlen : lens.length ≤ 3) (hp : Pending b (h :: lens)) :
    b.Distinguishes (0x80 :: List.replicate (3 - lens.length) 0x80) := by
  have hrep (n : ℕ) : Continuing (List.replicate n 0x80) := fun c hcm ↦ by
    rw [(List.mem_replicate.mp hcm).2]
    decide
  refine ⟨(Pending.length (h := 0x80) (hrep (3 - lens.length)) (by simp)).feed_new, .inl ?_⟩
  refine hp.reports ⟨h, lens ++ 0x80 :: List.replicate (3 - lens.length) 0x80, [], by simp, ?_, ?_⟩
  · intro c hcm
    rcases List.mem_append.mp (List.mem_of_mem_take hcm) with hcm | hcm
    · exact hc c hcm
    · exact hrep (3 - lens.length + 1) c hcm
  · simp only [List.length_append, List.length_cons, List.length_replicate]
    omega

theorem distinguishes_payload {h : UInt8} {f body : Bytes} (hf : IsField f) (hlen : f.length ≤ 3)
    (hbody : body.length < fieldValue f) (hp : Pending b (h :: (f ++ body))) :
    ∃ d, b.Distinguishes d := by
  have hmax : fieldValue f < 2097152 := by
    have hlt := fieldValue_lt (f := f)
    have hpow : 128 ^ f.length ≤ 128 ^ 3 := Nat.pow_le_pow_right (by norm_num) hlen
    omega
  -- the missing bytes `x` complete the packet of `b`; for a fresh builder they open a longer one
  have hcase (x rest : Bytes) (hx : body.length + x.length = fieldValue f)
      (hpend : ∃ b', Pending b' (x ++ rest)) (hrest : new.Reports rest) : b.Distinguishes (x ++ rest) := by
    obtain ⟨b', hb'⟩ := hpend
    refine ⟨hb'.feed_new, .inr ⟨h, body ++ x, rest, ?_, ?_, hrest⟩⟩
    · rw [List.length_append, hx, VariableByteInteger.max]
      omega
    · exact hp.feed_frame hf hlen (by simp [hx]) (by simp)
  by_cases hone : fieldValue f - body.length = 1
  · refine ⟨_, hcase [0] [0x7F, 0x80, 0x80, 0x80, 0x80] (by simp; omega) ?_ ?_⟩
    · exact ⟨_, @Pending.payload 0 [0x7F] [0x80, 0x80, 0x80, 0x80] (.last (by decide)) (by simp)
        (by decide)⟩
    · exact Pending.header.reports ⟨0x7F, [0x80, 0x80, 0x80, 0x80], [], rfl, by
        simp [Continuing], rfl⟩
  have hempty : new.Reports [0, 0] := ⟨_, _, .inr rfl⟩
  have hlong {g : Bytes} (hg : IsField g) (hglen : g.length ≤ 3)
      (hle : g.length + 1 ≤ fieldValue f - body.length)
      (hlt : fieldValue f - body.length + 1 - g.length < fieldValue g) : ∃ d, b.Distinguishes d := by
    refine ⟨_, hcase (0 :: (g ++ List.replicate (fieldValue f - body.length - 1 - g.length) 0))
      [0, 0] (by simp; omega) ?_ hempty⟩
    have hsplit : 0 :: (g ++ List.replicate (fieldValue f - body.length - 1 - g.length) 0) ++ [0, 0] =
        (0 : UInt8) :: (g ++
          (List.replicate (fieldValue f - body.length - 1 - g.length) 0 ++ [0, 0])) := by simp
    rw [hsplit]
    refine ⟨_, .payload hg hglen ?_⟩
    simp only [List.length_append, List.length_replicate, List.length_cons, List.length_nil]
    omega
  by_cases hsmall : fieldValue f - body.length ≤ 100
  · exact hlong (g := [0x7F]) (.last (by decide)) (by simp) (by simp; omega) (by
      simp [fieldValue]; omega)
  · refine hlong (g := [0xFF, 0xFF, 0x7F])
      (.more (by decide) (.more (by decide) (.last (by decide)))) (by simp) (by simp; omega) (by
      simp [fieldValue]; omega)

/-- Every builder inside a packet differs from a fresh one on some bytes. -/
theorem Pending.exists_distinguishes (h : Pending b p) (hb : b ≠ new) : ∃ d, b.Distinguishes d := by
  cases hp : h with
  | header => exact (hb rfl).elim
  | length hc hlen => exact ⟨_, distinguishes_length hc hlen h⟩
  | payload hf hlen hbody => exact distinguishes_payload hf hlen hbody h

end PacketBuilder

namespace GenericConnection

variable {c c₁ : GenericConnection w} {r : Handled w} {events : List (GenericEvent w)}
  {data d : Bytes}

open PacketBuilder

def nextEvents (c : GenericConnection w) (d : Bytes) : Outcome (List (GenericEvent w)) := do
  let (c, _) ← c.notifyClosed
  let (_, events) ← c.recvAll d
  return events

theorem recv_reports (h : c.packetBuilder.Reports d) :
    (c.recv d).Ensures fun r ↦ r.1.2 ≠ [] := by
  obtain ⟨b', rest, hfeed | hfeed⟩ := h
  · unfold recv
    rw [hfeed]
    exact Outcome.ensures_ret.mpr (by simp)
  · have hmax : ([] : Bytes).length < VariableByteInteger.max := by decide
    have hpr := { c with packetBuilder := b' }.processRecvPacket_spec (h := 0) hmax
    have hnone : { c with packetBuilder := b' }.arrived (rawPacket 0 []) = none := by
      unfold arrived
      split
      · rfl
      split
      · rfl
      cases c.protocolVersion <;> rfl
    rw [hnone] at hpr
    obtain ⟨v, r, hr, href, -⟩ := hpr
    unfold recv
    rw [hfeed]
    simp only [Outcome.ret_bind, hr]
    refine Outcome.ensures_ret.mpr fun hnil ↦ href.errors ?_
    rw [hnil]
    rfl

theorem recvAll_reports (hc : c.Reading) (h : c.packetBuilder.Reports d) :
    (c.recvAll d).Ensures fun r ↦ r.2 ≠ [] := by
  rw [recvAll_eq hc h.ne_nil]
  refine (recv_reports h).bind fun r hr r' hr' ↦ ?_
  obtain ⟨r₁, r₂, hret, -, rfl⟩ := of_andThen hr'
  obtain rfl := Outcome.ret.inj hret
  exact fun hnil ↦ hr (List.append_eq_nil_iff.mp hnil).1

theorem recvAll_distinguishes (hc : c.Reading) (h : c.packetBuilder.Distinguishes d) :
    (c.recvAll d).Ensures fun r ↦ r.2 ≠ [] := by
  have hd := h.ne_nil
  obtain ⟨-, h | ⟨h, body, rest, hmax, hfeed, hrest⟩⟩ := h
  · exact recvAll_reports hc h
  have hrecv : c.recv d = (do
      return (← { c with packetBuilder := .new }.processRecvPacket (rawPacket h body), rest)) := by
    unfold recv
    rw [hfeed]
    rfl
  rw [recvAll_eq hc hd]
  intro r hr
  obtain ⟨r₁, hr₁, hthen⟩ := Outcome.bind_eq_ret.mp hr
  obtain ⟨r₁', r₂, hret, hr₂, rfl⟩ := of_andThen hthen
  obtain rfl := Outcome.ret.inj hret
  have hread₁ := recv_reading hc d _ hr₁
  rw [hrecv] at hr₁
  obtain ⟨r₁', hproc, hret⟩ := Outcome.bind_eq_ret.mp hr₁
  obtain rfl := Outcome.ret.inj hret
  have hb : r₁'.1.packetBuilder = .new := processRecvPacket_builder hmax _ hproc
  have hreports := recvAll_reports hread₁ (hb ▸ hrest) r₂ hr₂
  exact fun hnil ↦ hreports (List.append_eq_nil_iff.mp hnil).2

theorem recvAll_incomplete (hc : c.Reading) (hd : d ≠ []) {b' : PacketBuilder}
    (h : c.packetBuilder.feed d = .ret (b', .incomplete, [])) :
    c.recvAll d = .ret ({ c with packetBuilder := b' }, []) := by
  rw [recvAll_eq hc hd, recv, h]
  rfl

/-- The bytes of one network connection leave the next one alone exactly when they end with a
packet: the framer keeps a part of a packet over `notify_closed`. The other run is the one in which
only the complete packets were received (`recvAll_whole`). -/
theorem insulated_iff (h : Reachable (system w) c) {b : Bytes}
    (hb : c.recvAll b = .ret (c₁, events)) (hclose : c₁.notifyClosed.Returns) :
    (∀ d, c₁.nextEvents d = { c₁ with packetBuilder := .new }.nextEvents d) ↔
      c₁.packetBuilder = .new := by
  have hread : c₁.Reading := recvCalls_reading (reachable_reading h) _ _ _ hb
  constructor
  · intro hsame
    by_contra hne
    obtain ⟨p, hp⟩ := hread
    obtain ⟨d, hd⟩ := hp.exists_distinguishes hne
    have hcloses (c' : GenericConnection w) (hs : c'.session.drained = c₁.session.drained) :
        ∃ r, c'.notifyClosed = .ret r ∧ r.1.packetBuilder = c'.packetBuilder := by
      have hsafe := (acts_notifyClosed (c := c₁)).returns_iff fun _ h h' ↦ h' h.1
      rw [not_not] at hsafe
      obtain ⟨r, hr, -, hchange⟩ := (acts_notifyClosed (c := c')).exists_ret
        (not_not.mpr (hs ▸ hsafe.mp hclose))
      exact ⟨r, hr, hchange.frame.1⟩
    obtain ⟨r, hr, hrb⟩ := hcloses c₁ rfl
    obtain ⟨r', hr', hrb'⟩ := hcloses { c₁ with packetBuilder := .new } rfl
    replace hrb' : r'.1.packetBuilder = .new := hrb'
    obtain ⟨b', hb'⟩ := hd.1
    have hfresh : { c₁ with packetBuilder := .new }.nextEvents d = .ret [] := by
      unfold nextEvents
      rw [hr', Outcome.ret_bind]
      dsimp only
      rw [recvAll_incomplete ⟨[], hrb' ▸ .header⟩ hd.ne_nil (hrb' ▸ hb')]
      rfl
    have hdirty := (hsame d).trans hfresh
    unfold nextEvents at hdirty
    rw [hr, Outcome.ret_bind] at hdirty
    obtain ⟨r₂, hr₂, hret⟩ := Outcome.bind_eq_ret.mp hdirty
    exact recvAll_distinguishes ⟨p, hrb ▸ hp⟩ (hrb ▸ hd) r₂ hr₂ (Outcome.ret.inj hret)
  · intro hnew d
    have hc₁ : { c₁ with packetBuilder := .new } = c₁ := by rw [← hnew]
    rw [hc₁]

theorem insulated_iff_connect : ∃ c₁ events,
    (new .server .u16 .v311).recvAll [0x10, 0x0d, 0] = .ret (c₁, events) ∧
      ¬ ∀ d, c₁.nextEvents d = { c₁ with packetBuilder := .new }.nextEvents d := by
  obtain ⟨⟨c₁, events⟩, hb, hclose, hne⟩ :
      ((new .server .u16 .v311).recvAll [0x10, 0x0d, 0]).Attains fun r ↦
        r.1.notifyClosed.Returns ∧ r.1.packetBuilder ≠ .new := by
    decide +kernel
  refine ⟨c₁, events, hb, fun h ↦ hne ?_⟩
  exact (insulated_iff (.init ⟨.server, .v311, rfl⟩) hb hclose).mp h

/-- The first byte of a PINGREQ makes a packet with the first byte of the next connection. -/
theorem bytes_of_closed_connection : ¬ ∀ (c c₁ : GenericConnection .u16) b events,
    Reachable (system .u16) c → c.recvAll b = .ret (c₁, events) → c₁.notifyClosed.Returns →
      ∀ d, c₁.nextEvents d = { c₁ with packetBuilder := .new }.nextEvents d := by
  intro h
  obtain ⟨⟨c₁, events⟩, hb, hclose, hne⟩ :
      ((new .server .u16 .v311).recvAll [0xC0]).Attains fun r ↦ r.1.notifyClosed.Returns ∧
        r.1.nextEvents [0] ≠ { r.1 with packetBuilder := .new }.nextEvents [0] := by
    decide +kernel
  exact hne (h _ c₁ _ events (.init ⟨.server, .v311, rfl⟩) hb hclose [0])

end GenericConnection

end MqttProtocolCore.Connection
