import Mathlib.Tactic.IntervalCases
import Mathlib.Tactic.Ring
import MqttProtocolCore.Packet.Basic

namespace MqttProtocolCore.Packet

namespace VariableByteInteger

def max : ℕ := 0x0FFFFFFF

def u32Max : ℕ := 4294967295

/-- The loop of `from_u32` with `room` places left in the buffer; the values up to `max` need at
most four. -/
def encodeLoop : ℕ → ℕ → Bytes
  | 0, _ => []
  | room + 1, value =>
    let byte := UInt8.ofNat (value % 128)
    let value := value / 128
    if value > 0 then (byte ||| 0x80) :: encodeLoop room value else [byte]

end VariableByteInteger

structure VariableByteInteger where
  encoded : Bytes
  canonical : ∃ value ≤ VariableByteInteger.max, encoded = VariableByteInteger.encodeLoop 4 value
deriving DecidableEq

inductive DecodeResult (α : Type) where
  | ok (value : α) (consumed : ℕ)
  | incomplete
  | err (message : String)
deriving DecidableEq

namespace VariableByteInteger

def fromU32 (value : ℕ) : Option VariableByteInteger :=
  if h : value > max then none else some ⟨encodeLoop 4 value, value, by omega, rfl⟩

def toU32Loop : ℕ → ℕ → Bytes → ℕ
  | _, result, [] => result
  | multiplier, result, b :: bytes =>
    toU32Loop (min (multiplier * 128) u32Max) (result + (b &&& 0x7F).toNat * multiplier) bytes

def toU32 (v : VariableByteInteger) : ℕ := toU32Loop 1 0 v.encoded

def size (v : VariableByteInteger) : ℕ := v.encoded.length

def decodeLoop : ℕ → ℕ → ℕ → Bytes → Option (DecodeResult VariableByteInteger)
  | _, _, _, [] => none
  | i, multiplier, value, b :: bytes =>
    let value := min (value + (b &&& 0x7F).toNat * multiplier) u32Max
    if value > max then some (.err "VariableByteInteger too large")
    else if b &&& 0x80 = 0 then
      match fromU32 value with
      | some vbi => some (.ok vbi (i + 1))
      | none => some (.err "Encoding failure")
    else
      let multiplier := if multiplier * 128 ≤ u32Max then multiplier * 128 else 0
      decodeLoop (i + 1) multiplier value bytes

def decodeStream (buf : Bytes) : DecodeResult VariableByteInteger :=
  match decodeLoop 0 1 0 (buf.take 4) with
  | some result => result
  | none =>
    if buf.length < 4 then .incomplete
    else .err "Malformed VariableByteInteger: too many bytes"

theorem toNat_and_7f (b : UInt8) : (b &&& 0x7F).toNat = b.toNat % 128 := by
  rw [UInt8.toNat_and]
  exact Nat.and_two_pow_sub_one_eq_mod b.toNat 7

theorem and_80_eq_zero (b : UInt8) : b &&& 0x80 = 0 ↔ b.toNat < 128 := by
  rw [← UInt8.toNat_inj, UInt8.toNat_and]
  have h : b.toNat < 256 := b.toNat_lt
  have : ∀ n < 256, n &&& 128 = 0 ↔ n < 128 := by decide +kernel
  exact this _ h

theorem toNat_or_80 (n : ℕ) : (UInt8.ofNat (n % 128) ||| 0x80).toNat = n % 128 + 128 := by
  rw [UInt8.toNat_or, UInt8.toNat_ofNat']
  have : ∀ n < 128, n % 2 ^ 8 ||| 128 = n + 128 := by decide +kernel
  exact this _ (Nat.mod_lt _ (by norm_num))

theorem toNat_ofNat_mod (n : ℕ) : (UInt8.ofNat (n % 128)).toNat = n % 128 := by
  rw [UInt8.toNat_ofNat']
  omega

def fieldValue : Bytes → ℕ
  | [] => 0
  | b :: bytes => b.toNat % 128 + 128 * fieldValue bytes

/-- A length field: every byte but the last has the continuation bit. -/
inductive IsField : Bytes → Prop where
  | last {b : UInt8} : b.toNat < 128 → IsField [b]
  | more {b : UInt8} {bytes : Bytes} : 128 ≤ b.toNat → IsField bytes → IsField (b :: bytes)

def Continuing (bytes : Bytes) : Prop := ∀ b ∈ bytes, 128 ≤ b.toNat

theorem IsField.ne_nil {f : Bytes} (h : IsField f) : f ≠ [] := by cases h <;> simp

theorem fieldValue_lt {f : Bytes} : fieldValue f < 128 ^ f.length := by
  induction f with
  | nil => simp [fieldValue]
  | cons b f ih =>
    simp only [fieldValue, List.length_cons, pow_succ]
    omega

theorem fieldValue_append (l : Bytes) (b : UInt8) :
    fieldValue (l ++ [b]) = fieldValue l + b.toNat % 128 * 128 ^ l.length := by
  induction l with
  | nil => simp [fieldValue]
  | cons c l ih =>
    simp only [List.cons_append, fieldValue, ih, List.length_cons, pow_succ]
    ring

theorem isField_append {l : Bytes} {b : UInt8} (hl : Continuing l) (hb : b.toNat < 128) :
    IsField (l ++ [b]) := by
  induction l with
  | nil => exact .last hb
  | cons c l ih =>
    exact .more (hl c (by simp)) (ih fun d hd ↦ hl d (List.mem_cons_of_mem _ hd))

theorem IsField.append_inj {f f' r r' : Bytes} (hf : IsField f) (hf' : IsField f')
    (h : f ++ r = f' ++ r') : f = f' ∧ r = r' := by
  induction hf generalizing f' with
  | last hb =>
    cases hf' with
    | last => simpa using h
    | more hb' =>
      simp only [List.cons_append, List.cons.injEq] at h
      rw [h.1] at hb
      omega
  | more hb _ ih =>
    cases hf' with
    | last hb' =>
      simp only [List.cons_append, List.cons.injEq] at h
      rw [h.1] at hb
      omega
    | more _ hf' =>
      simp only [List.cons_append, List.cons.injEq] at h
      obtain ⟨rfl, h⟩ := h
      obtain ⟨rfl, rfl⟩ := ih hf' h
      exact ⟨rfl, rfl⟩

theorem IsField.exists_last {f : Bytes} (hf : IsField f) :
    ∃ l b, f = l ++ [b] ∧ Continuing l ∧ b.toNat < 128 := by
  induction hf with
  | last hb => exact ⟨[], _, rfl, by simp [Continuing], hb⟩
  | more hb _ ih =>
    obtain ⟨l, c, rfl, hl, hc⟩ := ih
    refine ⟨_ :: l, c, rfl, fun d hd ↦ ?_, hc⟩
    rcases List.mem_cons.mp hd with rfl | hd
    · exact hb
    · exact hl d hd

theorem Continuing.not_field {c f r r' : Bytes} (hc : Continuing c) (hf : IsField f)
    (hlen : f.length ≤ c.length) : c ++ r ≠ f ++ r' := by
  induction hf generalizing c with
  | last hb =>
    cases c with
    | nil => simp at hlen
    | cons a c =>
      intro h
      simp only [List.cons_append, List.cons.injEq] at h
      have := hc a (by simp)
      rw [h.1] at this
      omega
  | more _ _ ih =>
    cases c with
    | nil => simp at hlen
    | cons a c =>
      intro h
      simp only [List.cons_append, List.cons.injEq] at h
      exact ih (fun d hd ↦ hc d (List.mem_cons_of_mem _ hd)) (by simpa using hlen) h.2

/-- A byte string starts with a length field of at most `n` bytes, or its first `n` bytes all
continue. -/
theorem field_or_continuing (n : ℕ) (s : Bytes) :
    (∃ f r, s = f ++ r ∧ IsField f ∧ f.length ≤ n) ∨ Continuing (s.take n) := by
  induction n generalizing s with
  | zero => exact .inr (by simp [Continuing])
  | succ n ih =>
    cases s with
    | nil => exact .inr (by simp [Continuing])
    | cons b s =>
      by_cases hb : b.toNat < 128
      · exact .inl ⟨[b], s, rfl, .last hb, by simp⟩
      · rcases ih s with ⟨f, r, rfl, hf, hn⟩ | h
        · exact .inl ⟨b :: f, r, rfl, .more (by omega) hf, by simpa using hn⟩
        · refine .inr fun c hc ↦ ?_
          rcases List.mem_cons.mp hc with rfl | hc
          · omega
          · exact h c hc

theorem isField_encodeLoop : ∀ {room value : ℕ}, value < 128 ^ (room + 1) →
    IsField (encodeLoop (room + 1) value) ∧ fieldValue (encodeLoop (room + 1) value) = value
  | 0, value, h => by
    have hv : ¬ value / 128 > 0 := by omega
    simp only [encodeLoop, hv, if_false, fieldValue]
    have := toNat_ofNat_mod value
    exact ⟨.last (by omega), by omega⟩
  | room + 1, value, h => by
    have hlt : value / 128 < 128 ^ (room + 1) := by
      rw [Nat.div_lt_iff_lt_mul (by norm_num)]
      calc value < 128 ^ (room + 1 + 1) := h
        _ = 128 ^ (room + 1) * 128 := pow_succ ..
    obtain ⟨hf, hv⟩ := isField_encodeLoop hlt
    rw [encodeLoop]
    split
    · have := toNat_or_80 value
      refine ⟨.more (by omega) hf, ?_⟩
      rw [fieldValue, hv]
      omega
    · have := toNat_ofNat_mod value
      refine ⟨.last (by omega), ?_⟩
      simp only [fieldValue]
      omega

theorem length_encodeLoop_le (room value : ℕ) : (encodeLoop room value).length ≤ room := by
  induction room generalizing value with
  | zero => simp [encodeLoop]
  | succ room ih =>
    simp only [encodeLoop]
    split
    · simpa using ih _
    · simp

theorem length_encodeLoop (value : ℕ) : (encodeLoop 4 value).length =
    if value < 128 then 1 else if value < 128 ^ 2 then 2 else if value < 128 ^ 3 then 3 else 4 := by
  simp only [encodeLoop, gt_iff_lt]
  split_ifs <;> simp only [List.length_cons, List.length_nil] <;> omega

theorem toU32Loop_eq : ∀ {i result : ℕ} {bytes : Bytes}, i + bytes.length ≤ 4 →
    toU32Loop (128 ^ i) result bytes = result + 128 ^ i * fieldValue bytes
  | _, _, [], _ => by simp [toU32Loop, fieldValue]
  | i, result, b :: bytes, h => by
    simp only [List.length_cons] at h
    have hi : i ≤ 3 := by omega
    have hm : min (128 ^ i * 128) u32Max = 128 ^ (i + 1) := by
      rw [pow_succ]
      interval_cases i <;> rfl
    rw [toU32Loop, hm, toU32Loop_eq (by omega), toNat_and_7f, fieldValue, pow_succ]
    ring

theorem toU32_eq (v : VariableByteInteger) : v.toU32 = fieldValue v.encoded := by
  obtain ⟨value, -, h⟩ := v.canonical
  have := length_encodeLoop_le 4 value
  rw [toU32, ← pow_zero 128, toU32Loop_eq (by rw [h]; omega)]
  simp

theorem fromU32_eq {value : ℕ} (h : value ≤ max) :
    fromU32 value = some ⟨encodeLoop 4 value, value, h, rfl⟩ := dif_neg (by omega)

theorem fromU32_isSome {value : ℕ} : (fromU32 value).isSome ↔ value ≤ max := by
  unfold fromU32
  split
  · simp_all
  · simp only [Option.isSome_some, true_iff]
    omega

theorem toU32_of_fromU32 {value : ℕ} {v : VariableByteInteger} (h : fromU32 value = some v) :
    v.toU32 = value := by
  unfold fromU32 at h
  split at h
  · cases h
  · rename_i hle
    obtain rfl := Option.some.inj h
    have hv : ¬ value > 268435455 := hle
    rw [toU32_eq]
    exact (isField_encodeLoop (by norm_num; omega)).2

theorem toU32_le (v : VariableByteInteger) : v.toU32 ≤ max := by
  obtain ⟨value, hle, h⟩ := v.canonical
  have : v = ⟨encodeLoop 4 value, value, hle, rfl⟩ := by cases v; simp_all
  rw [@toU32_of_fromU32 value _ (this ▸ fromU32_eq hle)]
  exact hle

theorem decodeLoop_field {f : Bytes} (hf : IsField f) (r : Bytes) : ∀ {i value : ℕ},
    i + f.length ≤ 4 → value < 128 ^ i →
    decodeLoop i (128 ^ i) value (f ++ r) =
      (fromU32 (value + 128 ^ i * fieldValue f)).map (.ok · (i + f.length)) := by
  induction hf with
  | @last b hb =>
    intro i value hi hv
    simp only [List.length_singleton] at hi
    have hpow : 128 ^ i * 128 ≤ 128 ^ 4 := by
      rw [← pow_succ]
      exact Nat.pow_le_pow_right (by norm_num) hi
    have hsum : value + b.toNat % 128 * 128 ^ i < 128 ^ i * 128 := by
      have : b.toNat % 128 * 128 ^ i ≤ 127 * 128 ^ i := Nat.mul_le_mul_right _ (by omega)
      omega
    have hmax : value + b.toNat % 128 * 128 ^ i ≤ max := by
      rw [max]
      omega
    have hu : value + b.toNat % 128 * 128 ^ i ≤ u32Max := by
      rw [u32Max]
      rw [max] at hmax
      omega
    have hz := (and_80_eq_zero b).mpr hb
    simp only [List.singleton_append, decodeLoop, toNat_and_7f, Nat.min_eq_left hu, hz, if_true,
      fromU32_eq hmax, fieldValue, mul_zero, add_zero, mul_comm (128 ^ i), Option.map_some,
      List.length_singleton]
    rw [if_neg (by omega)]
  | @more b f hb hf ih =>
    intro i value hi hv
    simp only [List.length_cons] at hi
    have hlen : 1 ≤ f.length := List.length_pos_iff.mpr hf.ne_nil
    have hpow : 128 ^ (i + 1) * 128 ≤ 128 ^ 4 := by
      rw [← pow_succ]
      exact Nat.pow_le_pow_right (by norm_num) (by omega)
    have hsucc : 128 ^ (i + 1) = 128 ^ i * 128 := pow_succ ..
    have hsum : value + b.toNat % 128 * 128 ^ i < 128 ^ (i + 1) := by
      have : b.toNat % 128 * 128 ^ i ≤ 127 * 128 ^ i := Nat.mul_le_mul_right _ (by omega)
      omega
    have hu : value + b.toNat % 128 * 128 ^ i ≤ u32Max := by
      rw [u32Max]
      omega
    have hz : ¬ b &&& 0x80 = 0 := by
      rw [and_80_eq_zero]
      omega
    rw [List.cons_append, decodeLoop]
    simp only [toNat_and_7f, Nat.min_eq_left hu, hz, if_false]
    rw [if_neg (by rw [max]; omega), if_pos (by rw [u32Max]; omega), ← hsucc,
      ih (by omega) hsum, fieldValue, hsucc]
    have hval : value + b.toNat % 128 * 128 ^ i + 128 ^ i * 128 * fieldValue f =
        value + 128 ^ i * (b.toNat % 128 + 128 * fieldValue f) := by ring
    have hi' : i + 1 + f.length = i + (b :: f).length := by
      rw [List.length_cons]
      omega
    rw [hval, hi']

theorem decodeLoop_continuing : ∀ {s : Bytes}, Continuing s → ∀ {i value : ℕ}, i + s.length ≤ 4 →
    value < 128 ^ i → decodeLoop i (128 ^ i) value s = none
  | [], _, _, _, _, _ => rfl
  | b :: s, h, i, value, hi, hv => by
    simp only [List.length_cons] at hi
    have hb : 128 ≤ b.toNat := h b (by simp)
    have hpow : 128 ^ i * 128 ≤ 128 ^ 4 := by
      rw [← pow_succ]
      exact Nat.pow_le_pow_right (by norm_num) (by omega)
    have hsum : value + b.toNat % 128 * 128 ^ i < 128 ^ i * 128 := by
      have : b.toNat % 128 * 128 ^ i ≤ 127 * 128 ^ i := Nat.mul_le_mul_right _ (by omega)
      omega
    have hu : value + b.toNat % 128 * 128 ^ i ≤ u32Max := by
      rw [u32Max]
      omega
    have hz : ¬ b &&& 0x80 = 0 := by
      rw [and_80_eq_zero]
      omega
    rw [decodeLoop]
    simp only [toNat_and_7f, Nat.min_eq_left hu, hz, if_false]
    rw [if_neg (by rw [max]; omega), if_pos (by rw [u32Max]; omega), ← pow_succ]
    exact decodeLoop_continuing (fun c hc ↦ h c (List.mem_cons_of_mem _ hc)) (by omega)
      (by rw [pow_succ]; exact hsum)

theorem fieldValue_le_max {f : Bytes} (h : f.length ≤ 4) : fieldValue f ≤ max := by
  have : fieldValue f < 128 ^ 4 := lt_of_lt_of_le fieldValue_lt (Nat.pow_le_pow_right (by norm_num) h)
  rw [max]
  omega

theorem decodeStream_field {f : Bytes} (hf : IsField f) (hlen : f.length ≤ 4) (r : Bytes) :
    ∃ v, decodeStream (f ++ r) = .ok v f.length ∧ v.toU32 = fieldValue f := by
  have hmax := fieldValue_le_max hlen
  have htake : (f ++ r).take 4 = f ++ r.take (4 - f.length) := by
    rw [List.take_append]
    rw [List.take_of_length_le hlen]
  have hloop : decodeLoop 0 1 0 ((f ++ r).take 4) = some (.ok ⟨_, _, hmax, rfl⟩ f.length) := by
    rw [htake]
    have := @decodeLoop_field f hf (r.take (4 - f.length)) 0 0 (by omega) (by norm_num)
    simpa [fromU32_eq hmax] using this
  refine ⟨⟨_, _, hmax, rfl⟩, ?_, ?_⟩
  · simp only [decodeStream, hloop]
  · exact toU32_of_fromU32 (fromU32_eq hmax)

theorem decodeStream_continuing {s : Bytes} (h : Continuing (s.take 4)) :
    decodeStream s = if s.length < 4 then .incomplete
      else .err "Malformed VariableByteInteger: too many bytes" := by
  have : decodeLoop 0 1 0 (s.take 4) = none :=
    decodeLoop_continuing h (i := 0) (by simp [List.length_take]) (by norm_num)
  simp only [decodeStream, this]

/-- The length field that `decode_stream` accepts at the start of a stream. -/
theorem field_of_decodeStream {s : Bytes} {v : VariableByteInteger} {n : ℕ}
    (h : decodeStream s = .ok v n) :
    ∃ f r, s = f ++ r ∧ IsField f ∧ f.length ≤ 4 ∧ n = f.length ∧ v.toU32 = fieldValue f := by
  rcases field_or_continuing 4 s with ⟨f, r, rfl, hf, hlen⟩ | hc
  · obtain ⟨v', hv', hval⟩ := decodeStream_field hf hlen r
    rw [hv'] at h
    obtain ⟨rfl, rfl⟩ := DecodeResult.ok.injEq .. ▸ h
    exact ⟨f, r, rfl, hf, hlen, rfl, hval⟩
  · rw [decodeStream_continuing hc] at h
    split at h <;> cases h

theorem consumed_le {s : Bytes} {v : VariableByteInteger} {n : ℕ} (h : decodeStream s = .ok v n) :
    n ≤ s.length := by
  obtain ⟨f, r, rfl, -, -, rfl, -⟩ := field_of_decodeStream h
  simp

theorem fromU32_toU32 (v : VariableByteInteger) : fromU32 v.toU32 = some v := by
  obtain ⟨value, hle, henc⟩ := v.canonical
  have hv : fromU32 value = some v := by
    rw [fromU32_eq hle]
    cases v
    cases henc
    rfl
  rw [toU32_of_fromU32 hv, hv]

theorem toU32_inj {v v' : VariableByteInteger} (h : v.toU32 = v'.toU32) : v = v' := by
  have hsame : some v = some v' := by
    rw [← fromU32_toU32 v, ← fromU32_toU32 v', h]
  exact Option.some.inj hsame

def sizeOf (value : ℕ) : ℕ :=
  if value < 128 then 1 else if value < 128 ^ 2 then 2 else if value < 128 ^ 3 then 3 else 4

theorem size_eq_sizeOf (v : VariableByteInteger) : v.size = sizeOf v.toU32 := by
  obtain ⟨value, hle, h⟩ := v.canonical
  have hv : v.toU32 = value := toU32_of_fromU32 (v := v) (by rw [fromU32_eq hle]; cases v; simp_all)
  rw [size, h, length_encodeLoop, hv, sizeOf]

theorem sizeOf_mono {m n : ℕ} (h : m ≤ n) : sizeOf m ≤ sizeOf n := by
  unfold sizeOf
  split_ifs <;> omega

theorem size_le_four (v : VariableByteInteger) : v.size ≤ 4 := by
  rw [size_eq_sizeOf, sizeOf]
  split_ifs <;> omega

theorem size_le_consumed {s : Bytes} {v : VariableByteInteger} {n : ℕ}
    (h : decodeStream s = .ok v n) : v.size ≤ n := by
  obtain ⟨f, r, rfl, hf, hlen, rfl, hv⟩ := field_of_decodeStream h
  have hpos := List.length_pos_iff.mpr hf.ne_nil
  have hlt : v.toU32 < 128 ^ f.length := hv ▸ fieldValue_lt
  rw [size_eq_sizeOf, sizeOf]
  interval_cases f.length <;> split_ifs <;> omega

end VariableByteInteger

end MqttProtocolCore.Packet
