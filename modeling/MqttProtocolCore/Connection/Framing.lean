import MqttProtocolCore.Connection.PacketBuilder

namespace MqttProtocolCore.Connection

open General Packet VariableByteInteger

/-- The packet with header `h` and the given body. -/
def rawPacket (h : UInt8) (body : Bytes) : RawPacket :=
  ⟨h, if h &&& 0xF0 = 0x30 then .publish body else .normal body⟩

@[simp] theorem dataAsSlice_rawPacket (h : UInt8) (body : Bytes) :
    (rawPacket h body).dataAsSlice = body := by
  unfold rawPacket RawPacket.dataAsSlice
  split <;> rfl

namespace PacketBuilder

/-- The builder `b` has read exactly the bytes `p` of a packet that is not complete. -/
inductive Pending : PacketBuilder → Bytes → Prop where
  | header : Pending new []
  | length {h : UInt8} {lens : Bytes} : Continuing lens → lens.length ≤ 3 →
      Pending ⟨.remainingLength, h :: lens, fieldValue lens, 128 ^ lens.length, none, 0⟩ (h :: lens)
  | payload {h : UInt8} {f body : Bytes} : IsField f → f.length ≤ 3 → body.length < fieldValue f →
      Pending ⟨.payload, h :: f, fieldValue f - body.length, 128 ^ f.length, some body, body.length⟩
        (h :: (f ++ body))

/-- What reading `data` after the bytes `p` gives. -/
inductive Fed (s : Bytes) : PacketBuilder → PacketBuildResult → Bytes → Prop where
  | incomplete {b : PacketBuilder} : Pending b s → Fed s b .incomplete []
  | complete {h : UInt8} {f body rest : Bytes} : IsField f → f.length ≤ 3 →
      body.length = fieldValue f → s = h :: (f ++ body ++ rest) →
      Fed s new (.complete (rawPacket h body)) rest
  | error {h : UInt8} {c rest : Bytes} : Continuing (c.take 3) → c.length = 4 →
      s = h :: (c ++ rest) → Fed s new (.error .malformedPacket) rest

theorem finish_eq {b : PacketBuilder} {h : UInt8} {l body : Bytes} (hb : b.headerBuf = h :: l) :
    b.finish body = .ret (new, .complete (rawPacket h body)) := by
  simp [finish, hb, isPublishPacket, getPacketType, rawPacket, reset]

theorem readPayload_spec {h : UInt8} {f body : Bytes} (hf : IsField f) (hlen : f.length ≤ 3)
    (hbody : body.length < fieldValue f) (data : Bytes) :
    ∃ b' result rest, readPayload ⟨.payload, h :: f, fieldValue f - body.length, 128 ^ f.length,
      some body, body.length⟩ data = .ret (b', result, rest) ∧
      Fed (h :: (f ++ body) ++ data) b' result rest := by
  simp only [readPayload]
  by_cases hd : data = []
  · subst hd
    refine ⟨_, _, _, if_pos (by simp), ?_⟩
    rw [List.append_nil]
    exact .incomplete (.payload hf hlen hbody)
  · have hpos : 0 < data.length := List.length_pos_iff.mpr hd
    have hbuf : (resize body (body.length + min (fieldValue f - body.length) data.length)).take
        body.length = body := by
      have hle : body.length ≤ body.length + min (fieldValue f - body.length) data.length := by omega
      simp [resize, List.take_of_length_le hle]
    rw [if_neg (by omega), hbuf]
    by_cases hfull : fieldValue f - body.length ≤ data.length
    · rw [Nat.min_eq_left hfull, Nat.sub_self, if_pos rfl, finish_eq rfl]
      refine ⟨_, _, _, rfl, .complete hf hlen ?_ ?_⟩
      · rw [List.length_append, List.length_take, Nat.min_eq_left hfull]
        omega
      · simp
    · rw [Nat.min_eq_right (by omega), if_neg (by omega)]
      refine ⟨_, _, _, rfl, ?_⟩
      have htake : body ++ data.take data.length = body ++ data := by rw [List.take_length]
      rw [List.drop_length, htake]
      have := @Pending.payload h f (body ++ data) hf hlen (by simp; omega)
      simp only [List.length_append, ← Nat.sub_sub] at this
      refine .incomplete ?_
      simpa using this

theorem feedLoop_spec {data : Bytes} : ∀ {b : PacketBuilder} {p : Bytes}, Pending b p →
    ∃ b' result rest, b.feedLoop data = .ret (b', result, rest) ∧ Fed (p ++ data) b' result rest := by
  induction data with
  | nil =>
    intro b p hp
    cases hp with
    | header => exact ⟨_, _, _, rfl, .incomplete .header⟩
    | length hc hlen => exact ⟨_, _, _, rfl, .incomplete (by simpa using .length hc hlen)⟩
    | payload hf hlen hbody => exact readPayload_spec hf hlen hbody []
  | cons byte data ih =>
    intro b p hp
    cases hp with
    | header =>
      have := ih (@Pending.length byte [] (by simp [Continuing]) (by simp))
      simpa [feedLoop, new, readFixedHeader, fieldValue] using this
    | payload hf hlen hbody => exact readPayload_spec hf hlen hbody _
    | @length h lens hc hlen =>
      have hval : fieldValue lens + (byte &&& 0x7F).toNat * 128 ^ lens.length =
          fieldValue (lens ++ [byte]) := by rw [fieldValue_append, toNat_and_7f]
      have hpow : 128 ^ lens.length * 128 = 128 ^ (lens ++ [byte]).length := by
        rw [List.length_append, List.length_singleton, pow_succ]
      have happ : h :: lens ++ byte :: data = h :: (lens ++ [byte]) ++ data := by simp
      simp only [feedLoop, readRemainingLength, hval, hpow, List.cons_append]
      by_cases hfull : lens.length = 3
      · rw [if_pos (by rw [List.length_append, hfull]; norm_num)]
        refine ⟨_, _, _, rfl, .error (h := h) (c := lens ++ [byte]) ?_ (by simp [hfull]) (by simp)⟩
        rw [List.take_append_of_le_length (by omega), List.take_of_length_le (by omega)]
        exact hc
      have hle : (lens ++ [byte]).length ≤ 3 := by
        rw [List.length_append, List.length_singleton]
        omega
      have hmul : ¬ 128 ^ (lens ++ [byte]).length > 128 * 128 * 128 := by
        have : 128 ^ (lens ++ [byte]).length ≤ 128 ^ 3 := Nat.pow_le_pow_right (by norm_num) hle
        omega
      rw [if_neg hmul]
      by_cases hb : byte.toNat < 128
      · rw [if_pos ((and_80_eq_zero byte).mpr hb)]
        have hf := isField_append hc hb
        by_cases hzero : fieldValue (lens ++ [byte]) = 0
        · rw [if_pos hzero, finish_eq rfl]
          exact ⟨_, _, _, rfl, @Fed.complete _ h _ [] _ hf hle (by simp [hzero]) (by simp)⟩
        · rw [if_neg hzero]
          have := ih (@Pending.payload h _ [] hf hle (by simp; omega))
          simpa using this
      · rw [if_neg (by rwa [and_80_eq_zero])]
        have hc' : Continuing (lens ++ [byte]) := by
          intro c hcm
          rcases List.mem_append.mp hcm with hcm | hcm
          · exact hc c hcm
          · rw [List.mem_singleton.mp hcm]
            omega
        have := ih (Pending.length (h := h) hc' hle)
        simpa using this

/-- A builder that has read the bytes `p` does with `data` what it does with `p ++ data` at once. -/
theorem feed_spec {b : PacketBuilder} {p : Bytes} (hp : Pending b p) (data : Bytes) :
    ∃ b' result rest, b.feed data = .ret (b', result, rest) ∧ Fed (p ++ data) b' result rest := by
  unfold feed
  split
  · rename_i h
    obtain rfl := List.length_eq_zero_iff.mp h
    exact ⟨_, _, _, rfl, by simpa using .incomplete hp⟩
  · exact feedLoop_spec hp

end PacketBuilder

end MqttProtocolCore.Connection
