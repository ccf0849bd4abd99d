import MqttProtocolCore.Packet.VariableByteInteger

namespace MqttProtocolCore.Packet.VariableByteInteger

open General

variable {f s bytes : Bytes} {v : VariableByteInteger} {b : UInt8} {value n i room : ℕ}

/-- A sum of 32-bit integers; overflow panics. -/
def add32 (a b : ℕ) : Outcome ℕ := if a + b ≤ u32Max then .ret (a + b) else .panic

def mul32 (a b : ℕ) : Outcome ℕ := if a * b ≤ u32Max then .ret (a * b) else .panic

/-- The loop of `from_u32`; to push a byte on a full buffer panics. -/
def encodeLoopChecked : ℕ → ℕ → Outcome Bytes
  | 0, _ => .panic
  | room + 1, value =>
    let byte := UInt8.ofNat (value % 128)
    let value := value / 128
    if value > 0 then do return (byte ||| 0x80) :: (← encodeLoopChecked room value)
    else .ret [byte]

def toU32LoopChecked : ℕ → ℕ → Bytes → Outcome ℕ
  | _, result, [] => .ret result
  | multiplier, result, b :: bytes => do
    let result ← add32 result (← mul32 (b &&& 0x7F).toNat multiplier)
    toU32LoopChecked (min (multiplier * 128) u32Max) result bytes

def decodeLoopChecked : ℕ → ℕ → ℕ → Bytes → Outcome (Option (DecodeResult VariableByteInteger))
  | _, _, _, [] => .ret none
  | i, multiplier, value, b :: bytes => do
    let value := min (value + (← mul32 (b &&& 0x7F).toNat multiplier)) u32Max
    if value > max then return some (.err "VariableByteInteger too large")
    else if b &&& 0x80 = 0 then
      match fromU32 value with
      | some vbi => return some (.ok vbi (i + 1))
      | none => return some (.err "Encoding failure")
    else
      let multiplier := if multiplier * 128 ≤ u32Max then multiplier * 128 else 0
      decodeLoopChecked (i + 1) multiplier value bytes

/-- The encoding of a value: it is read back whatever follows it, and no other length field of the
value is shorter. -/
structure Encodes (value : ℕ) (v : VariableByteInteger) : Prop where
  inverse : v.toU32 = value
  decoded : ∀ rest, decodeStream (v.encoded ++ rest) = .ok v v.encoded.length
  shortest : ∀ f, IsField f → fieldValue f = value → v.encoded.length ≤ f.length

/-- What `decode_stream` makes of bytes: the length field at their start, if one ends within the
first four of them, with its value in the shortest encoding. -/
structure Decodes (s : Bytes) : Prop where
  ok : (∃ v n, decodeStream s = .ok v n) ↔ ∃ b ∈ s.take 4, b &&& 0x80 = 0
  field : ∀ v n, decodeStream s = .ok v n → n ≤ s.length ∧ IsField (s.take n) ∧
    fromU32 (fieldValue (s.take n)) = some v
  incomplete : decodeStream s = .incomplete ↔ s.length < 4 ∧ ∀ b ∈ s, b &&& 0x80 ≠ 0
  err : (∃ message, decodeStream s = .err message) ↔
    4 ≤ s.length ∧ ∀ b ∈ s.take 4, b &&& 0x80 ≠ 0

theorem continuing_iff : Continuing s ↔ ∀ b ∈ s, b &&& 0x80 ≠ 0 := by
  unfold Continuing
  refine forall₂_congr fun b _ ↦ ?_
  rw [ne_eq, and_80_eq_zero, not_lt]

theorem isField_encoded (v : VariableByteInteger) :
    IsField v.encoded ∧ fieldValue v.encoded = v.toU32 ∧ v.encoded.length ≤ 4 := by
  obtain ⟨value, hle, h⟩ := v.canonical
  have hlt : value < 128 ^ 4 := by
    rw [max] at hle
    omega
  rw [toU32_eq, h]
  exact ⟨(isField_encodeLoop hlt).1, rfl, length_encodeLoop_le 4 value⟩

theorem encodes_of_fromU32 (h : fromU32 value = some v) : Encodes value v := by
  have hvalue := toU32_of_fromU32 h
  obtain ⟨hfield, hfv, hlen⟩ := isField_encoded v
  refine ⟨hvalue, fun rest ↦ ?_, fun f hf hval ↦ ?_⟩
  · obtain ⟨v', hdec, hv'⟩ := decodeStream_field hfield hlen rest
    obtain rfl : v' = v := toU32_inj (hv'.trans hfv)
    exact hdec
  · have hsize := size_eq_sizeOf v
    have hpos := List.length_pos_iff.mpr hf.ne_nil
    have hlt : value < 128 ^ f.length := hval ▸ fieldValue_lt
    change v.size ≤ f.length
    rw [hsize, hvalue, sizeOf]
    by_cases h4 : f.length ≤ 3
    · interval_cases f.length <;> split_ifs <;> omega
    · split_ifs <;> omega

theorem decodes_field {rest : Bytes} (hf : IsField f) (hlen : f.length ≤ 4) :
    Decodes (f ++ rest) := by
  obtain ⟨v, hdec, hval⟩ := decodeStream_field hf hlen rest
  obtain ⟨l, b, rfl, -, hb⟩ := hf.exists_last
  have hmem : b ∈ (l ++ [b] ++ rest).take 4 := by
    rw [List.take_append, List.take_of_length_le hlen]
    simp
  have hstop : b &&& 0x80 = 0 := (and_80_eq_zero b).mpr hb
  refine ⟨?_, ?_, ?_, ?_⟩
  · exact iff_of_true ⟨v, _, hdec⟩ ⟨b, hmem, hstop⟩
  · intro v' n h
    rw [hdec] at h
    obtain ⟨rfl, rfl⟩ := DecodeResult.ok.injEq .. ▸ h
    rw [List.take_left, ← hval]
    exact ⟨by simp, hf, fromU32_toU32 v⟩
  · rw [hdec]
    refine iff_of_false (by simp) fun h ↦ ?_
    exact h.2 b (List.mem_of_mem_take hmem) hstop
  · rw [hdec]
    refine iff_of_false (by simp) fun h ↦ ?_
    exact h.2 b hmem hstop

theorem decodes_continuing (h : Continuing (s.take 4)) : Decodes s := by
  have hdec := decodeStream_continuing h
  have hcont := continuing_iff.mp h
  refine ⟨?_, ?_, ?_, ?_⟩
  · refine iff_of_false ?_ ?_
    · intro ⟨v, n, hok⟩
      rw [hdec] at hok
      split at hok <;> cases hok
    · intro ⟨b, hb, hstop⟩
      exact hcont b hb hstop
  · intro v n hok
    rw [hdec] at hok
    split at hok <;> cases hok
  · rw [hdec]
    constructor
    · intro hin
      split at hin
      · rename_i hlt
        rw [List.take_of_length_le (by omega)] at hcont
        exact ⟨hlt, hcont⟩
      · cases hin
    · intro hshort
      exact if_pos hshort.1
  · rw [hdec]
    constructor
    · intro ⟨message, herr⟩
      split at herr
      · cases herr
      · exact ⟨by omega, hcont⟩
    · intro hlong
      exact ⟨_, if_neg (by omega)⟩

theorem decodes (s : Bytes) : Decodes s := by
  rcases field_or_continuing 4 s with ⟨f, r, rfl, hf, hlen⟩ | h
  · exact decodes_field hf hlen
  · exact decodes_continuing h

theorem encodeLoopChecked_eq (h : value < 128 ^ (room + 1)) :
    encodeLoopChecked (room + 1) value = .ret (encodeLoop (room + 1) value) := by
  induction room generalizing value with
  | zero =>
    have hv : ¬ value / 128 > 0 := by omega
    simp only [encodeLoopChecked, encodeLoop, hv, if_false]
  | succ room ih =>
    have hlt : value / 128 < 128 ^ (room + 1) := by
      rw [Nat.div_lt_iff_lt_mul (by norm_num)]
      calc value < 128 ^ (room + 1 + 1) := h
        _ = 128 ^ (room + 1) * 128 := pow_succ ..
    rw [encodeLoopChecked, encodeLoop]
    split
    · rw [ih hlt]
      rfl
    · rfl

theorem mul32_place (b : UInt8) (hi : i ≤ 3) :
    mul32 (b &&& 0x7F).toNat (128 ^ i) = .ret ((b &&& 0x7F).toNat * 128 ^ i) := by
  have hpow : 128 ^ i ≤ 128 ^ 3 := Nat.pow_le_pow_right (by norm_num) hi
  have hprod : b.toNat % 128 * 128 ^ i ≤ 127 * 128 ^ 3 := Nat.mul_le_mul (by omega) hpow
  refine if_pos ?_
  rw [toNat_and_7f, u32Max]
  omega

theorem toU32LoopChecked_eq {result : ℕ} (hlen : i + bytes.length ≤ 4) (hr : result < 128 ^ i) :
    toU32LoopChecked (128 ^ i) result bytes = .ret (toU32Loop (128 ^ i) result bytes) := by
  induction bytes generalizing i result with
  | nil => rfl
  | cons b bytes ih =>
    simp only [List.length_cons] at hlen
    have hi : i ≤ 3 := by omega
    have hpow : 128 ^ (i + 1) ≤ 128 ^ 4 := Nat.pow_le_pow_right (by norm_num) (by omega)
    have hsucc : 128 ^ (i + 1) = 128 ^ i * 128 := pow_succ ..
    have hsum : result + (b &&& 0x7F).toNat * 128 ^ i < 128 ^ (i + 1) := by
      have : (b &&& 0x7F).toNat * 128 ^ i ≤ 127 * 128 ^ i := by
        rw [toNat_and_7f]
        exact Nat.mul_le_mul_right _ (by omega)
      omega
    have hadd : add32 result ((b &&& 0x7F).toNat * 128 ^ i) =
        .ret (result + (b &&& 0x7F).toNat * 128 ^ i) := by
      refine if_pos ?_
      rw [u32Max]
      omega
    have hm : min (128 ^ i * 128) u32Max = 128 ^ (i + 1) := by
      rw [← hsucc]
      refine Nat.min_eq_left ?_
      rw [u32Max]
      omega
    rw [toU32LoopChecked, toU32Loop, mul32_place b hi, Outcome.ret_bind, hadd, Outcome.ret_bind, hm]
    exact ih (by omega) hsum

theorem decodeLoopChecked_eq (hlen : i + bytes.length ≤ 4) :
    decodeLoopChecked i (128 ^ i) value bytes = .ret (decodeLoop i (128 ^ i) value bytes) := by
  induction bytes generalizing i value with
  | nil => rfl
  | cons b bytes ih =>
    simp only [List.length_cons] at hlen
    have hi : i ≤ 3 := by omega
    have hpow : 128 ^ (i + 1) ≤ 128 ^ 4 := Nat.pow_le_pow_right (by norm_num) (by omega)
    have hm : 128 ^ i * 128 ≤ u32Max := by
      rw [← pow_succ, u32Max]
      omega
    rw [decodeLoopChecked, decodeLoop, mul32_place b hi, Outcome.ret_bind]
    dsimp only
    split
    · rfl
    split
    · cases fromU32 (min (value + (b &&& 0x7F).toNat * 128 ^ i) u32Max) <;> rfl
    · have hnext := @ih (min (value + (b &&& 0x7F).toNat * 128 ^ i) u32Max) (i + 1) (by omega)
      rwa [pow_succ] at hnext

def decodeStreamChecked (buf : Bytes) : Outcome (DecodeResult VariableByteInteger) := do
  match ← decodeLoopChecked 0 1 0 (buf.take 4) with
  | some result => return result
  | none =>
    if buf.length < 4 then return .incomplete
    else return .err "Malformed VariableByteInteger: too many bytes"

theorem decodeStreamChecked_eq (s : Bytes) : decodeStreamChecked s = .ret (decodeStream s) := by
  have hlen : 0 + (s.take 4).length ≤ 4 := by simp
  have hloop := @decodeLoopChecked_eq (s.take 4) 0 0 hlen
  rw [pow_zero] at hloop
  unfold decodeStreamChecked decodeStream
  rw [hloop, Outcome.ret_bind]
  cases decodeLoop 0 1 0 (s.take 4) with
  | some result => rfl
  | none => exact (apply_ite Outcome.ret _ _ _).symm

/-- The codec of the variable byte integers: what is encoded, what is decoded, and that nothing
overflows. -/
theorem variable_byte_integer_codec :
    (∀ value ≤ max, ∃ v, fromU32 value = some v ∧ encodeLoopChecked 4 value = .ret v.encoded ∧
      Encodes value v) ∧
    (∀ value, fromU32 value = none ↔ max < value) ∧
    (∀ v, fromU32 v.toU32 = some v ∧ toU32LoopChecked 1 0 v.encoded = .ret v.toU32) ∧
    ∀ s, Decodes s ∧ decodeStreamChecked s = .ret (decodeStream s) := by
  refine ⟨fun value hle ↦ ?_, fun value ↦ ?_, fun v ↦ ⟨fromU32_toU32 v, ?_⟩,
    fun s ↦ ⟨decodes s, decodeStreamChecked_eq s⟩⟩
  · have hv := fromU32_eq hle
    refine ⟨_, hv, encodeLoopChecked_eq ?_, encodes_of_fromU32 hv⟩
    rw [max] at hle
    omega
  · rw [← not_iff_not, ← ne_eq, ← Option.isSome_iff_ne_none, fromU32_isSome, not_lt]
  · have hlen : 0 + v.encoded.length ≤ 4 := by
      have := (isField_encoded v).2.2
      omega
    have hloop := @toU32LoopChecked_eq v.encoded 0 0 hlen (by norm_num)
    rwa [pow_zero] at hloop

end MqttProtocolCore.Packet.VariableByteInteger
