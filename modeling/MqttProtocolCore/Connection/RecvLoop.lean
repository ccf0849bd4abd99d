import MqttProtocolCore.Connection.Chunks
import MqttProtocolCore.Connection.StepSpec

namespace MqttProtocolCore.Connection.GenericConnection

open General Packet

variable {w : IdWidth} {c c₁ : GenericConnection w} {data rest piece : Bytes} {b : PacketBuilder}
  {result : PacketBuildResult} {events : List (GenericEvent w)}

def recvCalls (c : GenericConnection w) : ℕ → Bytes → Outcome (Handled w)
  | 0, _ => return (c, [])
  | calls + 1, data =>
    if data = [] then return (c, [])
    else do
      let ((c, events), rest) ← c.recv data
      let (c, later) ← c.recvCalls calls rest
      return (c, events ++ later)

def recvAll (c : GenericConnection w) (data : Bytes) : Outcome (Handled w) :=
  c.recvCalls data.length data

def andThen (x : Outcome (Handled w)) (f : GenericConnection w → Outcome (Handled w)) :
    Outcome (Handled w) :=
  x >>= fun r ↦ f r.1 >>= fun r' ↦ .ret (r'.1, r.2 ++ r'.2)

theorem andThen_ret (c : GenericConnection w) (f : GenericConnection w → Outcome (Handled w)) :
    andThen (.ret (c, [])) f = f c := by
  rw [andThen, Outcome.ret_bind]
  cases f c with
  | ret r => rfl
  | panic => rfl

theorem of_andThen {x : Outcome (Handled w)} {f : GenericConnection w → Outcome (Handled w)}
    {r : Handled w} (h : andThen x f = .ret r) :
    ∃ r₁ r₂, x = .ret r₁ ∧ f r₁.1 = .ret r₂ ∧ r = (r₂.1, r₁.2 ++ r₂.2) := by
  obtain ⟨r₁, h₁, hrest⟩ := Outcome.bind_eq_ret.mp h
  obtain ⟨r₂, h₂, hret⟩ := Outcome.bind_eq_ret.mp hrest
  exact ⟨r₁, r₂, h₁, h₂, (Outcome.ret.inj hret).symm⟩

theorem andThen_assoc (x : Outcome (Handled w)) (f g : GenericConnection w → Outcome (Handled w)) :
    andThen (andThen x f) g = andThen x fun c ↦ andThen (f c) g := by
  cases x with
  | panic => rfl
  | ret r =>
    simp only [andThen, Outcome.ret_bind]
    cases f r.1 with
    | panic => rfl
    | ret r' =>
      simp only [Outcome.ret_bind]
      cases g r'.1 with
      | panic => rfl
      | ret r'' => simp only [Outcome.ret_bind, List.append_assoc]

theorem recv_reading (hc : c.Reading) (data : Bytes) :
    (c.recv data).Ensures fun r ↦ r.1.1.Reading := by
  intro r hr
  have hstep : c.step (.recv data) =
    (c.recv data >>= fun r ↦ Outcome.ret (r.1.1, Reply.received r.1.2 r.2)) := rfl
  exact step_reading hc (.recv data) _ (by rw [hstep, hr]; rfl)

theorem recv_rest_lt (hc : c.Reading) (hd : data ≠ []) :
    (c.recv data).Ensures fun r ↦ r.2.length < data.length := by
  intro r hr
  obtain ⟨p, hp⟩ := hc
  obtain ⟨⟨b, result, rest⟩, hfeed, hrest⟩ := Outcome.bind_eq_ret.mp hr
  have hlt := hp.feed_shorter hd hfeed
  cases result with
  | complete raw =>
    obtain ⟨r', -, hret⟩ := Outcome.bind_eq_ret.mp hrest
    cases hret
    exact hlt
  | incomplete =>
    cases hrest
    exact hlt
  | error e =>
    cases hrest
    exact hlt

theorem recvCalls_of_le (hc : c.Reading) {calls : ℕ} (h : data.length ≤ calls) :
    c.recvCalls calls data = c.recvAll data := by
  induction calls using Nat.strong_induction_on generalizing c data with
  | _ calls ih =>
    cases data with
    | nil => cases calls <;> rfl
    | cons byte data =>
      obtain ⟨n, rfl⟩ : ∃ n, calls = n + 1 := ⟨calls - 1, by simp at h; omega⟩
      have hne : byte :: data ≠ [] := by simp
      unfold recvAll
      rw [List.length_cons, recvCalls, recvCalls, if_neg hne, if_neg hne]
      cases hr : c.recv (byte :: data) with
      | panic => rfl
      | ret r =>
        have hlt := recv_rest_lt hc hne r hr
        have hread := recv_reading hc _ r hr
        simp only [List.length_cons] at h hlt
        simp only [Outcome.ret_bind]
        rw [ih n (by omega) hread (by omega), ih data.length (by omega) hread (by omega)]

theorem recvAll_eq (hc : c.Reading) (hd : data ≠ []) :
    c.recvAll data = c.recv data >>= fun r ↦ andThen (.ret r.1) fun c ↦ c.recvAll r.2 := by
  obtain ⟨byte, data', rfl⟩ := List.exists_cons_of_ne_nil hd
  unfold recvAll
  rw [List.length_cons, recvCalls, if_neg hd]
  cases hr : c.recv (byte :: data') with
  | panic => rfl
  | ret r =>
    have hlt := recv_rest_lt hc hd r hr
    simp only [List.length_cons] at hlt
    simp only [Outcome.ret_bind]
    rw [recvCalls_of_le (recv_reading hc _ r hr) (by omega)]
    rfl

theorem recvCalls_reading (hc : c.Reading) (calls : ℕ) (data : Bytes) :
    (c.recvCalls calls data).Ensures fun r ↦ r.1.Reading := by
  induction calls generalizing c data with
  | zero => exact Outcome.ensures_ret.mpr hc
  | succ calls ih =>
    unfold recvCalls
    split
    · exact Outcome.ensures_ret.mpr hc
    · refine (recv_reading hc data).bind fun r hr ↦ ?_
      exact (ih hr r.2).bind fun r' hr' ↦ Outcome.ensures_ret.mpr hr'

/-- The first slice leaves a packet that is not complete, and the second is received behind it; or it
completes a result, and its rest comes before the second. -/
theorem recv_append (hc : c.Reading) (a b : Bytes) :
    (∃ c', c.recv a = .ret ((c', []), []) ∧ c'.recv b = c.recv (a ++ b)) ∨
      c.recv (a ++ b) = c.recv a >>= fun r ↦ .ret (r.1, r.2 ++ b) := by
  obtain ⟨p, hp⟩ := hc
  obtain ⟨pb, result, rest, hfeed, hfed⟩ := PacketBuilder.feed_spec hp a
  obtain ⟨pb', result', rest', hfeed', hfed'⟩ := PacketBuilder.feed_spec hp (a ++ b)
  by_cases hr : result = .incomplete
  · subst hr
    left
    cases hfed with
    | incomplete hpending =>
      obtain ⟨pb'', result'', rest'', hfeed'', hfed''⟩ := PacketBuilder.feed_spec hpending b
      rw [List.append_assoc] at hfed''
      obtain ⟨rfl, rfl, rfl⟩ := hfed'.unique hfed''
      refine ⟨{ c with packetBuilder := pb }, ?_, ?_⟩
      · rw [recv, hfeed]
        rfl
      · rw [recv, recv, hfeed', hfeed'']
  · right
    obtain ⟨rfl, piece, hs, hpiece⟩ := hfed.split hr
    have hwhole := hpiece.append hr (rest ++ b)
    rw [← List.append_assoc, ← hs, List.append_assoc] at hwhole
    obtain ⟨rfl, rfl, rfl⟩ := hfed'.unique hwhole
    rw [recv, recv, hfeed, hfeed']
    cases result' with
    | complete raw =>
      simp only [Outcome.ret_bind, bind_assoc]
      rfl
    | incomplete => rfl
    | error e => rfl

theorem recvAll_append (hc : c.Reading) (a b : Bytes) :
    c.recvAll (a ++ b) = andThen (c.recvAll a) fun c ↦ c.recvAll b := by
  induction hn : a.length using Nat.strong_induction_on generalizing c a with
  | _ n ih =>
    by_cases ha : a = []
    · subst ha
      exact (andThen_ret c fun c ↦ c.recvAll b).symm
    · have hab : a ++ b ≠ [] := by simp [ha]
      rw [recvAll_eq hc hab, recvAll_eq hc ha]
      rcases recv_append hc a b with ⟨c', hr, hb⟩ | hr
      · have hc' : c'.Reading := recv_reading hc a _ hr
        have hwhole : (c.recv a >>= fun r ↦ andThen (.ret r.1) fun c ↦ c.recvAll r.2) =
            .ret (c', []) := by
          rw [hr]
          rfl
        rw [← recvAll_eq hc ha] at hwhole
        rw [← recvAll_eq hc hab, ← recvAll_eq hc ha, hwhole, andThen_ret]
        by_cases hb' : b = []
        · subst hb'
          rw [List.append_nil, hwhole]
          rfl
        · rw [recvAll_eq hc hab, recvAll_eq hc' hb', hb]
      · rw [hr]
        cases ha' : c.recv a with
        | panic => rfl
        | ret r =>
          have hshort := recv_rest_lt hc ha r ha'
          simp only [Outcome.ret_bind, andThen_assoc]
          rw [andThen, andThen]
          simp only [Outcome.ret_bind]
          rw [ih _ (hn ▸ hshort) (recv_reading hc a r ha') r.2 rfl]

theorem processRecvPacket_builder {h : UInt8} {body : Bytes}
    (hmax : body.length < VariableByteInteger.max) :
    (c.processRecvPacket (rawPacket h body)).Ensures
      fun r ↦ r.1.packetBuilder = c.packetBuilder := by
  intro r hr
  have hpr := c.processRecvPacket_spec (h := h) hmax
  cases ha : c.arrived (rawPacket h body) with
  | none =>
    rw [ha] at hpr
    obtain ⟨v, r', hr', href, -⟩ := hpr
    obtain rfl := Outcome.ret.inj (hr.symm.trans hr')
    exact (@Refused.change w _ r .other href).frame.1
  | some a =>
    rw [ha] at hpr
    have := ((acts_deliver a.2).of_ret (hpr.1 ▸ hr)).2.frame.1
    exact this


/-- What a fresh builder makes of the bytes that end with a packet does not depend on what is behind
them. -/
theorem recv_piece (hnew : c.packetBuilder = .new) (hpiece : PacketBuilder.Fed piece .new result [])
    (hr : result ≠ .incomplete) : ∃ x : Outcome (Handled w),
      (x.Ensures fun r ↦ r.1.packetBuilder = .new) ∧
      ∀ rest, c.recv (piece ++ rest) = x >>= fun r ↦ .ret (r, rest) := by
  have hfeed (rest : Bytes) :
      c.packetBuilder.feed (piece ++ rest) = .ret (.new, result, rest) := by
    obtain ⟨b, result', rest', hfeed, hfed⟩ := PacketBuilder.feed_spec .header (piece ++ rest)
    rw [List.nil_append] at hfed
    obtain ⟨rfl, rfl, rfl⟩ := hfed.unique (hpiece.append hr rest)
    rw [hnew, hfeed]
  have hsame : { c with packetBuilder := .new } = c := by rw [← hnew]
  cases hpiece with
  | incomplete => exact (hr rfl).elim
  | @complete h f body _ hf hlen hbody _ =>
    have hmax : body.length < VariableByteInteger.max := by
      have hlt := VariableByteInteger.fieldValue_lt (f := f)
      have hpow : 128 ^ f.length ≤ 128 ^ 3 := Nat.pow_le_pow_right (by norm_num) hlen
      rw [hbody, VariableByteInteger.max]
      omega
    refine ⟨c.processRecvPacket (rawPacket h body),
      (processRecvPacket_builder hmax).mono fun r hr ↦ hr.trans hnew, fun rest ↦ ?_⟩
    rw [recv, hfeed rest]
    simp only [Outcome.ret_bind, hsame]
    rfl
  | error hc hlen hs =>
    refine ⟨.ret (c.cancelTimers.1, c.cancelTimers.2 ++
      [.requestClose, .notifyError .malformedPacket]), Outcome.ensures_ret.mpr hnew, fun rest ↦ ?_⟩
    rw [recv, hfeed rest]
    simp only [Outcome.ret_bind, hsame]
    rfl

/-- From a fresh builder on, the bytes are the complete packets and a part of another one; without
that part the connection is the same, but for the builder. -/
theorem recvAll_fresh (hnew : c.packetBuilder = .new) (h : c.recvAll data = .ret (c₁, events)) :
    ∃ whole part, data = whole ++ part ∧ PacketBuilder.Pending c₁.packetBuilder part ∧
      c.recvAll whole = .ret ({ c₁ with packetBuilder := .new }, events) := by
  induction hn : data.length using Nat.strong_induction_on generalizing c data events with
  | _ n ih =>
    have hsame : { c with packetBuilder := .new } = c := by rw [← hnew]
    have hread : c.Reading := ⟨[], hnew ▸ .header⟩
    by_cases hd : data = []
    · subst hd
      obtain ⟨rfl, rfl⟩ := Prod.mk.inj (Outcome.ret.inj h)
      exact ⟨[], [], rfl, hnew ▸ .header, by rw [hsame]; rfl⟩
    rw [recvAll_eq hread hd] at h
    obtain ⟨r, hr, hthen⟩ := Outcome.bind_eq_ret.mp h
    obtain ⟨r₁, r₂, hret, hrest, hevents⟩ := of_andThen hthen
    obtain rfl := Outcome.ret.inj hret
    obtain ⟨rfl, rfl⟩ := Prod.mk.inj hevents
    obtain ⟨b, result, rest, hfeed, hfed⟩ := PacketBuilder.feed_spec .header data
    rw [List.nil_append] at hfed
    by_cases hincomplete : result = .incomplete
    · subst hincomplete
      cases hfed with
      | incomplete hpending =>
        rw [recv, hnew, hfeed] at hr
        obtain rfl := Outcome.ret.inj hr
        obtain rfl := Outcome.ret.inj hrest
        exact ⟨[], data, rfl, hpending, congrArg (fun c ↦ Outcome.ret (c, [])) hsame.symm⟩
    obtain ⟨rfl, piece, rfl, hpiece⟩ := hfed.split hincomplete
    obtain ⟨x, hbuilder, hx⟩ := recv_piece hnew hpiece hincomplete
    rw [hx rest] at hr
    obtain ⟨r', hr', hret⟩ := Outcome.bind_eq_ret.mp hr
    obtain rfl := Outcome.ret.inj hret
    have hshort : rest.length < (piece ++ rest).length :=
      PacketBuilder.Pending.header.feed_shorter hd hfeed
    obtain ⟨whole, part, hsplit, hpart, hwhole⟩ := ih _ (hn ▸ hshort) (hbuilder r' hr') hrest rfl
    subst hsplit
    refine ⟨piece ++ whole, part, (List.append_assoc _ _ _).symm, hpart, ?_⟩
    have hne : piece ++ whole ≠ [] := by
      intro hnil
      have hfresh := hpiece.append hincomplete whole
      rw [hnil] at hfresh
      cases (hfresh.unique (.incomplete .header)).2.1
      exact hincomplete rfl
    rw [recvAll_eq hread hne, hx whole, hr']
    simp only [Outcome.ret_bind, andThen]
    rw [hwhole]
    rfl

/-- The other run of a connection that stops inside a packet: a fresh builder reads the complete
packets only, of what was begun before and of the bytes. -/
theorem recvAll_whole {p : Bytes} (hp : PacketBuilder.Pending c.packetBuilder p)
    (h : c.recvAll data = .ret (c₁, events)) :
    ∃ whole part, p ++ data = whole ++ part ∧ PacketBuilder.Pending c₁.packetBuilder part ∧
      { c with packetBuilder := .new }.recvAll whole =
        .ret ({ c₁ with packetBuilder := .new }, events) := by
  have hread : { c with packetBuilder := .new }.Reading := ⟨[], .header⟩
  have hbegun : { c with packetBuilder := .new }.recvAll p = .ret (c, []) := by
    by_cases hnil : p = []
    · subst hnil
      have hnew : c.packetBuilder = .new := hp.unique .header
      exact congrArg (fun c ↦ Outcome.ret (c, [])) (show { c with packetBuilder := .new } = c by
        rw [← hnew])
    · obtain ⟨b, result, rest, hfeed, hfed⟩ := PacketBuilder.feed_spec .header p
      obtain ⟨rfl, rfl, rfl⟩ := hfed.unique (.incomplete hp)
      rw [recvAll_eq hread hnil, recv, hfeed]
      rfl
  refine recvAll_fresh rfl ?_
  rw [recvAll_append hread, hbegun, andThen_ret]
  exact h

end MqttProtocolCore.Connection.GenericConnection
