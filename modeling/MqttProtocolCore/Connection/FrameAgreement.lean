import MqttProtocolCore.Connection.Framing

namespace MqttProtocolCore.Connection

open General Packet VariableByteInteger

namespace PacketBuilder

def LongLength (s : Bytes) : Prop :=
  ∃ h c r, s = h :: (c ++ r) ∧ Continuing (c.take 3) ∧ c.length = 4

theorem LongLength.not_field {h : UInt8} {f r : Bytes} (hf : IsField f) (hlen : f.length ≤ 3) :
    ¬ LongLength (h :: (f ++ r)) := by
  rintro ⟨_, c, r', hs, hc, hc4⟩
  have hs := (List.cons.inj hs).2
  have : c = c.take 3 ++ c.drop 3 := (List.take_append_drop 3 c).symm
  rw [this, List.append_assoc] at hs
  exact hc.not_field hf (by simp; omega) hs.symm

theorem LongLength.not_continuing {h : UInt8} {lens : Bytes} (hlen : lens.length ≤ 3) :
    ¬ LongLength (h :: lens) := by
  rintro ⟨_, c, r', hs, hc, hc4⟩
  obtain ⟨rfl, rfl⟩ := List.cons.injEq .. ▸ hs
  simp only [List.length_append] at hlen
  omega

theorem Fed.of_longLength {s rest : Bytes} {b : PacketBuilder} {result : PacketBuildResult}
    (h : Fed s b result rest) (hs : LongLength s) : result = .error .malformedPacket := by
  cases h with
  | incomplete hp =>
    cases hp with
    | header =>
      obtain ⟨_, _, _, h, _⟩ := hs
      cases h
    | length _ hlen => exact (LongLength.not_continuing hlen hs).elim
    | payload hf hlen _ => exact (LongLength.not_field hf hlen hs).elim
  | complete hf hlen _ heq =>
    rw [heq, List.append_assoc] at hs
    exact (LongLength.not_field hf hlen hs).elim
  | error => rfl

theorem feed_error_iff {s : Bytes} :
    (∃ b e rest, new.feed s = .ret (b, .error e, rest)) ↔ LongLength s := by
  obtain ⟨b, result, rest, hfeed, hfed⟩ := feed_spec .header s
  rw [hfeed, List.nil_append] at *
  constructor
  · rintro ⟨_, _, _, h⟩
    obtain ⟨rfl, rfl, rfl⟩ := by simpa only [Outcome.ret.injEq, Prod.mk.injEq] using h
    cases hfed with
    | error hc hlen hs => exact ⟨_, _, _, hs, hc, hlen⟩
  · intro hs
    exact ⟨_, _, _, by rw [hfed.of_longLength hs]⟩

inductive IsFrame : Bytes → Prop where
  | mk {h : UInt8} {field body : Bytes} {v : VariableByteInteger} :
      decodeStream field = .ok v field.length → body.length = v.toU32 →
      IsFrame (h :: (field ++ body))

theorem isFrame_iff {s : Bytes} : IsFrame s ↔
    ∃ h f body, s = h :: (f ++ body) ∧ IsField f ∧ f.length ≤ 4 ∧ body.length = fieldValue f := by
  constructor
  · rintro ⟨hdec, hbody⟩
    obtain ⟨f, r, hs, hf, hlen, hn, hval⟩ := field_of_decodeStream hdec
    have hr : r = [] := by
      have := congrArg List.length hs
      rw [List.length_append] at this
      exact List.length_eq_zero_iff.mp (by omega)
    subst hr hs
    rw [List.append_nil] at *
    exact ⟨_, _, _, rfl, hf, hlen, by rw [hbody, hval]⟩
  · rintro ⟨h, f, body, rfl, hf, hlen, hbody⟩
    obtain ⟨v, hv, hval⟩ := decodeStream_field hf hlen []
    rw [List.append_nil] at hv
    exact .mk hv (by rw [hbody, hval])

theorem Fed.of_frame {h : UInt8} {f body rest rest' : Bytes} {b : PacketBuilder}
    {result : PacketBuildResult} (hfed : Fed (h :: (f ++ body ++ rest)) b result rest')
    (hf : IsField f) (hlen : f.length ≤ 3) (hbody : body.length = fieldValue f) :
    b = new ∧ result = .complete (rawPacket h body) ∧ rest' = rest := by
  generalize hs : h :: (f ++ body ++ rest) = s at hfed
  cases hfed with
  | incomplete hp =>
    cases hp with
    | header => cases hs
    | length hc hlen' =>
      have hs := (List.cons.inj hs).2
      refine absurd (a := _ ++ [] = f ++ (body ++ rest)) ?_ (hc.not_field hf ?_)
      · rw [List.append_nil, ← hs, List.append_assoc]
      · rw [← hs]
        simp only [List.length_append]
        omega
    | payload hf' hlen' hbody' =>
      have hs := (List.cons.inj hs).2
      rw [List.append_assoc] at hs
      obtain ⟨rfl, hs⟩ := hf.append_inj hf' hs
      have := congrArg List.length hs
      simp only [List.length_append] at this
      omega
  | complete hf' hlen' hbody' hs' =>
    rw [← hs] at hs'
    obtain ⟨rfl, hs₁⟩ := List.cons.inj hs'
    rw [List.append_assoc, List.append_assoc] at hs₁
    obtain ⟨rfl, hs₂⟩ := hf.append_inj hf' hs₁
    obtain ⟨rfl, rfl⟩ := List.append_inj hs₂ (by omega)
    exact ⟨rfl, rfl, rfl⟩
  | error hc hc4 hs' =>
    rw [List.append_assoc] at hs
    exact absurd ⟨_, _, _, hs ▸ hs', hc, hc4⟩ (LongLength.not_field hf hlen)

theorem feed_frame {h : UInt8} {f body rest : Bytes} (hf : IsField f) (hlen : f.length ≤ 3)
    (hbody : body.length = fieldValue f) :
    new.feed (h :: (f ++ body ++ rest)) = .ret (new, .complete (rawPacket h body), rest) := by
  obtain ⟨b, result, rest', hfeed, hfed⟩ := feed_spec .header (h :: (f ++ body ++ rest))
  obtain ⟨rfl, rfl, rfl⟩ := Fed.of_frame hfed hf hlen hbody
  exact hfeed

theorem feed_four {h : UInt8} {f r : Bytes} (hf : IsField f) (hlen : f.length = 4) :
    ∃ b e rest, new.feed (h :: (f ++ r)) = .ret (b, .error e, rest) := by
  refine feed_error_iff.mpr ⟨h, f, r, rfl, ?_, hlen⟩
  obtain ⟨l, b, rfl, hl, -⟩ := hf.exists_last
  rw [List.take_append_of_le_length (by simp at hlen; omega), List.take_of_length_le (by simp at hlen; omega)]
  exact hl

/-- A proper prefix of a packet whose length field takes at most three bytes is pending. -/
theorem pending_of_prefix {s t : Bytes} (ht : t ≠ []) (hf : IsFrame (s ++ t))
    (hlong : ¬ LongLength s) : ∃ b rest, new.feed s = .ret (b, .incomplete, rest) := by
  obtain ⟨b, result, rest, hfeed, hfed⟩ := feed_spec .header s
  rw [hfeed, List.nil_append] at *
  cases hfed with
  | incomplete hp => exact ⟨_, _, rfl⟩
  | error hc hlen hs => exact absurd ⟨_, _, _, hs, hc, hlen⟩ hlong
  | @complete h f body rest hf' hlen hbody hs =>
    obtain ⟨h', f'', body', hst, hf'', -, hbody'⟩ := isFrame_iff.mp hf
    rw [hs] at hst
    simp only [List.cons_append, List.append_assoc, List.cons.injEq] at hst
    obtain ⟨rfl, hst'⟩ := hf'.append_inj hf'' hst.2
    have := congrArg List.length hst'
    have := List.length_pos_iff.mpr ht
    simp only [List.length_append] at *
    omega

theorem prefix_of_pending {b : PacketBuilder} {s : Bytes} (hp : Pending b s) :
    ∃ t, t ≠ [] ∧ IsFrame (s ++ t) := by
  cases hp with
  | header =>
    refine ⟨[0, 0], by simp, isFrame_iff.mpr ⟨0, [0], [], rfl, .last (by decide), by simp, rfl⟩⟩
  | @length h lens hc hlen =>
    have hf : IsField (lens ++ [0]) := isField_append hc (by decide)
    refine ⟨0 :: List.replicate (fieldValue (lens ++ [0])) 0, by simp,
      isFrame_iff.mpr ⟨h, lens ++ [0], List.replicate (fieldValue (lens ++ [0])) 0, by simp, hf, ?_,
        by simp⟩⟩
    simp only [List.length_append, List.length_singleton]
    omega
  | @payload h f body hf hlen hbody =>
    refine ⟨List.replicate (fieldValue f - body.length) 0, ?_,
      isFrame_iff.mpr ⟨h, f, body ++ List.replicate (fieldValue f - body.length) 0, by simp, hf,
        by omega, by simp; omega⟩⟩
    rw [ne_eq, List.replicate_eq_nil_iff]
    omega

theorem prefix_of_incomplete {s rest : Bytes} {b : PacketBuilder}
    (h : new.feed s = .ret (b, .incomplete, rest)) : ∃ t, t ≠ [] ∧ IsFrame (s ++ t) := by
  obtain ⟨b', result, rest', hfeed, hfed⟩ := feed_spec .header s
  rw [h, List.nil_append] at *
  simp only [Outcome.ret.injEq, Prod.mk.injEq] at hfeed
  obtain ⟨rfl, rfl, rfl⟩ := hfeed
  cases hfed with
  | incomplete hp => exact prefix_of_pending hp

end PacketBuilder

open PacketBuilder

/-- The builder completes the packet with header `h` and this body, and stops behind it. -/
def Frames (h : UInt8) (body rest : Bytes) : Prop :=
  ∃ v, fromU32 body.length = some v ∧ ∃ b packet,
    new.feed (h :: (v.encoded ++ body ++ rest)) = .ret (b, .complete packet, rest) ∧
      packet.fixedHeader = h ∧ packet.dataAsSlice = body

/-- On this stream the builder reports an error exactly when `decode_stream` does, and asks for
more exactly when the stream is a proper prefix of a packet. -/
def Agrees (s : Bytes) : Prop :=
  ((∃ b e rest, new.feed s = .ret (b, .error e, rest)) ↔
      ∃ message, decodeStream s.tail = .err message) ∧
    ((∃ b rest, new.feed s = .ret (b, .incomplete, rest)) ↔ ∃ t, t ≠ [] ∧ IsFrame (s ++ t))

def FourByteLength (s : Bytes) : Prop :=
  ∃ h f r, s = h :: (f ++ r) ∧ IsField f ∧ f.length = 4

theorem frames_iff {h : UInt8} {body rest : Bytes} (hmax : body.length ≤ VariableByteInteger.max) :
    Frames h body rest ↔ body.length ≤ 2097151 := by
  have hlt : body.length < 128 ^ 4 := by
    rw [VariableByteInteger.max] at hmax
    omega
  obtain ⟨hf, hval⟩ : IsField (encodeLoop 4 body.length) ∧
    fieldValue (encodeLoop 4 body.length) = body.length := isField_encodeLoop hlt
  have hlen := length_encodeLoop body.length
  unfold Frames
  rw [fromU32_eq hmax]
  simp only [Option.some.injEq, exists_eq_left']
  by_cases hle : body.length ≤ 2097151
  · have hle3 : (encodeLoop 4 body.length).length ≤ 3 := by
      rw [hlen]
      split_ifs <;> omega
    refine iff_of_true ⟨_, _, feed_frame hf hle3 hval.symm, rfl, ?_⟩ hle
    exact dataAsSlice_rawPacket h body
  · have hfour : (encodeLoop 4 body.length).length = 4 := by
      rw [hlen]
      split_ifs <;> omega
    obtain ⟨b, e, r, hfeed⟩ := feed_four hf hfour (h := h) (r := body ++ rest)
    rw [List.append_assoc, hfeed]
    simp [hle]

theorem agrees_iff (s : Bytes) : Agrees s ↔ ¬ FourByteLength s := by
  cases s with
  | nil =>
    refine iff_of_true ⟨?_, ?_⟩ (by rintro ⟨_, _, _, h, -⟩; cases h)
    · exact iff_of_false (by rintro ⟨_, _, _, h⟩; cases h) (by rintro ⟨_, h⟩; cases h)
    · exact iff_of_true ⟨_, _, rfl⟩ (prefix_of_pending .header)
  | cons h t =>
    rcases field_or_continuing 4 t with ⟨f, r, rfl, hf, hlen⟩ | hc
    · obtain ⟨v, hv, -⟩ := decodeStream_field hf hlen r
      have hdec : ¬ ∃ message, decodeStream (f ++ r) = .err message := by simp [hv]
      by_cases hfour : f.length = 4
      · refine iff_of_false (fun ha ↦ hdec (ha.1.mp (feed_four hf hfour))) ?_
        exact not_not.mpr ⟨h, f, r, rfl, hf, hfour⟩
      · have hle : f.length ≤ 3 := by omega
        have hlong : ¬ LongLength (h :: (f ++ r)) := LongLength.not_field hf hle
        refine iff_of_true ⟨iff_of_false (mt feed_error_iff.mp hlong) hdec, ?_, ?_⟩ ?_
        · rintro ⟨b, rest, hfeed⟩
          exact prefix_of_incomplete hfeed
        · rintro ⟨t, ht, hframe⟩
          exact pending_of_prefix ht hframe hlong
        · rintro ⟨h', f', r', hs, hf', hfour'⟩
          obtain ⟨rfl, -⟩ := hf.append_inj hf' (List.cons.inj hs).2
          exact hfour hfour'
    · have hdec := decodeStream_continuing hc
      refine iff_of_true ⟨?_, ?_⟩ ?_
      · rw [feed_error_iff, List.tail_cons, hdec]
        constructor
        · rintro ⟨h', c, r, hs, -, hc4⟩
          obtain ⟨rfl, rfl⟩ := List.cons.inj hs
          rw [if_neg (by simp [hc4])]
          exact ⟨_, rfl⟩
        · rintro ⟨message, hm⟩
          have hle : ¬ t.length < 4 := fun hlt ↦ by simp [hlt] at hm
          refine ⟨h, t.take 4, t.drop 4, by rw [List.take_append_drop], ?_, by simp; omega⟩
          exact fun b hb ↦ hc b (List.mem_of_mem_take hb)
      · constructor
        · rintro ⟨b, rest, hfeed⟩
          exact prefix_of_incomplete hfeed
        · rintro ⟨u, hu, hframe⟩
          refine pending_of_prefix hu hframe ?_
          rintro ⟨h', c, r, hs, -, hc4⟩
          obtain ⟨rfl, rfl⟩ := List.cons.inj hs
          obtain ⟨h', f, body, hs, hf, hlen, -⟩ := isFrame_iff.mp hframe
          simp only [List.cons_append, List.append_assoc, List.cons.injEq] at hs
          rw [List.take_append_of_le_length (by omega), List.take_of_length_le (by omega)] at hc
          exact hc.not_field hf (by omega) hs.2
      · rintro ⟨h', f, r, hs, hf, hfour⟩
        obtain ⟨rfl, rfl⟩ := List.cons.inj hs
        rw [List.take_append_of_le_length (by omega), List.take_of_length_le (by omega)] at hc
        exact hc.not_field hf le_rfl (rfl : f ++ [] = f ++ [])

/-- Framing accepts the fixed headers whose length takes at most three bytes: every frame with a
body of up to 2097151 bytes is completed, no longer one is, and on a stream the builder agrees with
`decode_stream` unless the length field has four bytes. -/
theorem framing_agrees_iff (h : UInt8) (body rest s : Bytes)
    (hbody : body.length ≤ VariableByteInteger.max) :
    (Frames h body rest ↔ body.length ≤ 2097151) ∧ (Agrees s ↔ ¬ FourByteLength s) :=
  ⟨frames_iff hbody, agrees_iff s⟩

theorem framing_agrees_iff_pingreq : Frames 0xC0 [] [0xD0, 0x00] ∧ Agrees [0xC0] :=
  ⟨(framing_agrees_iff 0xC0 [] [0xD0, 0x00] [0xC0] (by decide)).1.mpr (by decide),
    (framing_agrees_iff 0xC0 [] [0xD0, 0x00] [0xC0] (by decide)).2.mpr
      (by rintro ⟨_, f, r, h, hf, hlen⟩; simp_all)⟩

/-- A PUBLISH with a body of two megabytes is refused at the fourth byte of its length, which
`decode_stream` accepts. -/
theorem framing_refuses_two_megabytes :
    (List.replicate 2097152 (0 : UInt8)).length ≤ VariableByteInteger.max ∧
      ¬ Frames 0x30 (List.replicate 2097152 0) [] ∧ ¬ Agrees [0x30, 0x80, 0x80, 0x80, 0x01] := by
  have hlen : (List.replicate 2097152 (0 : UInt8)).length = 2097152 := List.length_replicate
  have hmax : (List.replicate 2097152 (0 : UInt8)).length ≤ VariableByteInteger.max := by
    rw [hlen]
    decide
  refine ⟨hmax, ?_, ?_⟩
  · rw [frames_iff hmax, hlen]
    decide
  · rw [agrees_iff, not_not]
    refine ⟨0x30, [0x80, 0x80, 0x80, 0x01], [], rfl, ?_, rfl⟩
    exact .more (by decide) (.more (by decide) (.more (by decide) (.last (by decide))))

end MqttProtocolCore.Connection
