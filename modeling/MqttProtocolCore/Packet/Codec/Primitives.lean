import MqttProtocolCore.General.Format
import MqttProtocolCore.Packet.Property

namespace MqttProtocolCore.Packet

open General

namespace VariableByteInteger

def asBytes (v : VariableByteInteger) : Bytes := v.encoded

def zero : VariableByteInteger := ⟨encodeLoop 4 0, 0, Nat.zero_le _, rfl⟩

/-- The codes of a length: more bytes than needed are accepted, up to four. -/
def Code : Format UInt8 VariableByteInteger :=
  fun code v ↦ IsField code ∧ code.length ≤ 4 ∧ fieldValue code = v.toU32

theorem isField_asBytes (v : VariableByteInteger) : IsField v.asBytes := by
  obtain ⟨value, hle, henc⟩ := v.canonical
  rw [asBytes, henc]
  rw [max] at hle
  exact (isField_encodeLoop (by omega)).1

theorem IsField.ext {f g : Bytes} (hf : IsField f) (hg : IsField g) (hlen : f.length = g.length)
    (h : fieldValue f = fieldValue g) : f = g := by
  induction hf generalizing g with
  | @last b hb =>
    cases hg with
    | @last c hc =>
      simp only [fieldValue] at h
      rw [UInt8.toNat_inj.mp (show b.toNat = c.toNat by omega)]
    | more _ hg => exact (hg.ne_nil (List.length_eq_zero_iff.mp (Nat.succ.inj hlen).symm)).elim
  | @more b bytes hb hf ih =>
    cases hg with
    | last => exact (hf.ne_nil (List.length_eq_zero_iff.mp (Nat.succ.inj hlen))).elim
    | @more c _ hc hg =>
      have := b.toNat_lt
      have := c.toNat_lt
      simp only [fieldValue] at h
      rw [UInt8.toNat_inj.mp (show b.toNat = c.toNat by omega),
        ih hg (Nat.succ.inj hlen) (by omega)]

theorem accepts_decodeStream {data : Bytes} {v : VariableByteInteger} {n : ℕ} :
    decodeStream data = .ok v n ↔ ∃ code rest, data = code ++ rest ∧ n = code.length ∧ Code code v := by
  constructor
  · intro h
    obtain ⟨f, r, rfl, hf, hlen, rfl, hv⟩ := field_of_decodeStream h
    exact ⟨f, r, rfl, rfl, hf, hlen, hv.symm⟩
  · rintro ⟨code, rest, rfl, rfl, hf, hlen, hv⟩
    obtain ⟨v', hv', hval⟩ := decodeStream_field hf hlen rest
    rw [hv', toU32_inj (hval.trans hv)]

theorem shortest : Shortest Code (fun _ ↦ True) asBytes where
  code {v} _ := ⟨v.isField_asBytes, v.size_le_four, (toU32_eq v).symm⟩
  valid _ := trivial
  le {code v} hG := by
    have h := accepts_decodeStream.mpr ⟨code, [], (List.append_nil code).symm, rfl, hG⟩
    exact size_le_consumed h
  unique {code v} hG hlen := hG.1.ext v.isField_asBytes hlen (hG.2.2.trans (toU32_eq v))

end VariableByteInteger

theorem length_toBeBytes (n value : ℕ) : (toBeBytes n value).length = n := by
  induction n generalizing value with
  | zero => rfl
  | succ n ih => rw [toBeBytes, List.length_append, ih, List.length_singleton]

theorem ofBeBytes_append (bytes : Bytes) (b : UInt8) :
    ofBeBytes (bytes ++ [b]) = ofBeBytes bytes * 256 + b.toNat := by
  simp [ofBeBytes]

theorem ofBeBytes_lt {n : ℕ} {bytes : Bytes} (h : bytes.length = n) :
    ofBeBytes bytes < 256 ^ n := by
  induction n generalizing bytes with
  | zero =>
    rw [List.length_eq_zero_iff.mp h]
    exact Nat.zero_lt_one
  | succ n ih =>
    have hne : bytes ≠ [] := List.ne_nil_of_length_eq_add_one h
    obtain ⟨front, b, rfl⟩ : ∃ front b, bytes = front ++ [b] :=
      ⟨_, _, (List.dropLast_concat_getLast hne).symm⟩
    rw [List.length_append, List.length_singleton] at h
    have := b.toNat_lt
    have := ih (Nat.succ.inj h)
    rw [ofBeBytes_append, pow_succ]
    omega

theorem ofBeBytes_toBeBytes {n value : ℕ} (h : value < 256 ^ n) :
    ofBeBytes (toBeBytes n value) = value := by
  induction n generalizing value with
  | zero =>
    rw [Nat.lt_one_iff.mp h]
    rfl
  | succ n ih =>
    have hdiv : value / 256 < 256 ^ n := Nat.div_lt_of_lt_mul (by rwa [pow_succ'] at h)
    rw [toBeBytes, ofBeBytes_append, ih hdiv, UInt8.toNat_ofNat']
    omega

theorem toBeBytes_ofBeBytes {n : ℕ} {bytes : Bytes} (h : bytes.length = n) :
    toBeBytes n (ofBeBytes bytes) = bytes := by
  induction n generalizing bytes with
  | zero => rw [List.length_eq_zero_iff.mp h, toBeBytes]
  | succ n ih =>
    have hne : bytes ≠ [] := List.ne_nil_of_length_eq_add_one h
    obtain ⟨front, b, rfl⟩ : ∃ front b, bytes = front ++ [b] :=
      ⟨_, _, (List.dropLast_concat_getLast hne).symm⟩
    rw [List.length_append, List.length_singleton] at h
    have := b.toNat_lt
    rw [ofBeBytes_append, toBeBytes,
      show (ofBeBytes front * 256 + b.toNat) / 256 = ofBeBytes front by omega,
      ih (Nat.succ.inj h)]
    refine congrArg (front ++ [·]) ?_
    rw [← UInt8.toNat_inj, UInt8.toNat_ofNat']
    omega

def U16.toBeBytes (v : U16) : Bytes := Packet.toBeBytes 2 v

def U32.toBeBytes (v : U32) : Bytes := Packet.toBeBytes 4 v

theorem U16.val_fromBeBytes (b₀ b₁ : UInt8) :
    (U16.fromBeBytes b₀ b₁).val = ofBeBytes [b₀, b₁] := by
  simp [U16.fromBeBytes, ofBeBytes]

theorem U32.val_fromBeBytes (b₀ b₁ b₂ b₃ : UInt8) :
    (U32.fromBeBytes b₀ b₁ b₂ b₃).val = ofBeBytes [b₀, b₁, b₂, b₃] := by
  simp [U32.fromBeBytes, ofBeBytes]

theorem U16.exists_toBeBytes (v : U16) :
    ∃ b₀ b₁, toBeBytes v = [b₀, b₁] ∧ U16.fromBeBytes b₀ b₁ = v := by
  have h : ofBeBytes (Packet.toBeBytes 2 v) = v := ofBeBytes_toBeBytes v.isLt
  exact ⟨_, _, rfl, Fin.ext ((U16.val_fromBeBytes _ _).trans h)⟩

theorem U32.exists_toBeBytes (v : U32) :
    ∃ b₀ b₁ b₂ b₃, toBeBytes v = [b₀, b₁, b₂, b₃] ∧ U32.fromBeBytes b₀ b₁ b₂ b₃ = v := by
  have h : ofBeBytes (Packet.toBeBytes 4 v) = v := ofBeBytes_toBeBytes v.isLt
  exact ⟨_, _, _, _, rfl, Fin.ext ((U32.val_fromBeBytes _ _ _ _).trans h)⟩

theorem U16.toBeBytes_fromBeBytes (b₀ b₁ : UInt8) :
    toBeBytes (U16.fromBeBytes b₀ b₁) = [b₀, b₁] := by
  rw [toBeBytes, U16.val_fromBeBytes]
  exact toBeBytes_ofBeBytes rfl

theorem U32.toBeBytes_fromBeBytes (b₀ b₁ b₂ b₃ : UInt8) :
    toBeBytes (U32.fromBeBytes b₀ b₁ b₂ b₃) = [b₀, b₁, b₂, b₃] := by
  rw [toBeBytes, U32.val_fromBeBytes]
  exact toBeBytes_ofBeBytes rfl

theorem exists_append_of_le {n : ℕ} {data : Bytes} (h : n ≤ data.length) :
    ∃ code rest, data = code ++ rest ∧ code.length = n :=
  ⟨data.take n, data.drop n, (List.take_append_drop n data).symm, List.length_take_of_le h⟩

section Announced

variable {α : Type} {finish : ∀ bytes : Bytes, bytes.length < 65536 → Fallible MqttError α}

/-- What the decoders of strings and of binaries share: bytes behind their length. -/
def decodeAnnounced (finish : ∀ bytes : Bytes, bytes.length < 65536 → Fallible MqttError α)
    (data : Bytes) : Fallible MqttError (α × ℕ) := do
  .require (2 ≤ data.length) .malformedPacket
  let b₀ ← index data 0
  let b₁ ← index data 1
  let len := U16.fromBeBytes b₀ b₁
  .require (2 + len ≤ data.length) .malformedPacket
  let bytes ← slice data 2 (2 + len)
  return (← finish bytes.val (by have := bytes.property; omega), 2 + len)

theorem decodeAnnounced_eq {b₀ b₁ : UInt8} {bytes : Bytes} (rest : Bytes)
    (h : bytes.length = (U16.fromBeBytes b₀ b₁).val) (short : bytes.length ≤ 65535) :
    decodeAnnounced finish (b₀ :: b₁ :: (bytes ++ rest)) =
      finish bytes (Nat.lt_succ_of_le short) >>= fun a ↦ .ok (a, 2 + bytes.length) := by
  have hat : At (b₀ :: b₁ :: (bytes ++ rest)) 2 (bytes ++ rest) := ⟨[b₀, b₁], rfl, rfl⟩
  have hlen : 2 + (U16.fromBeBytes b₀ b₁).val ≤ (b₀ :: b₁ :: (bytes ++ rest)).length := by
    simp only [List.length_cons, List.length_append]
    omega
  obtain ⟨hl, hs⟩ := hat.slice_eq (ε := MqttError) _ (by rw [h])
  rw [decodeAnnounced, Fallible.require, if_pos (by simp only [List.length_cons]; omega)]
  simp only [Fallible.ok_bind, index, List.getElem?_cons_zero, List.getElem?_cons_succ,
    Fallible.require, hlen, if_true, hs, h]
  rfl

theorem decodeAnnounced_short {b₀ b₁ : UInt8} {tail : Bytes}
    (h : ¬ (U16.fromBeBytes b₀ b₁).val ≤ tail.length) :
    decodeAnnounced finish (b₀ :: b₁ :: tail) = .err .malformedPacket := by
  have hlen : ¬ 2 + (U16.fromBeBytes b₀ b₁).val ≤ (b₀ :: b₁ :: tail).length := by
    simp only [List.length_cons]
    omega
  rw [decodeAnnounced, Fallible.require, if_pos (by simp only [List.length_cons]; omega)]
  simp only [Fallible.ok_bind, index, List.getElem?_cons_zero, List.getElem?_cons_succ,
    Fallible.require, hlen, if_false, Fallible.err_bind]

/-- A value that is its payload is encoded as the payload behind its length. -/
theorem accepts_decodeAnnounced {payload : α → Bytes} (short : ∀ a, (payload a).length ≤ 65535)
    (hfinish : ∀ {bytes hb a}, finish bytes hb = .ok a ↔ bytes = payload a) :
    Accepts (.exactly fun a ↦ toBeBytes 2 (payload a).length ++ payload a)
      (decodeAnnounced finish) := by
  refine ⟨fun {data a n} ↦ ⟨?_, ?_⟩⟩
  · intro h
    match data with
    | [] => cases h
    | [_] => cases h
    | b₀ :: b₁ :: tail =>
      by_cases hlen : (U16.fromBeBytes b₀ b₁).val ≤ tail.length
      · obtain ⟨bytes, rest, rfl, hb⟩ := exists_append_of_le hlen
        rw [decodeAnnounced_eq rest hb (by omega)] at h
        obtain ⟨v, hv, hn⟩ := Fallible.bind_eq_ok.mp h
        cases hn
        refine ⟨b₀ :: b₁ :: bytes, rest, rfl, Nat.add_comm 2 _, ?_⟩
        rw [Format.exactly, ← hfinish.mp hv, hb]
        exact congrArg (· ++ bytes) (U16.toBeBytes_fromBeBytes b₀ b₁).symm
      · rw [decodeAnnounced_short hlen] at h
        cases h
  · rintro ⟨_, rest, rfl, rfl, rfl⟩
    have hlt : (payload a).length < 65536 := Nat.lt_succ_of_le (short a)
    obtain ⟨b₀, b₁, hb, hv⟩ := U16.exists_toBeBytes ⟨(payload a).length, hlt⟩
    have hbytes : toBeBytes 2 (payload a).length = [b₀, b₁] := hb
    have hlen : (payload a).length = (U16.fromBeBytes b₀ b₁).val := congrArg Fin.val hv.symm
    have hdone : finish (payload a) hlt = .ok a := hfinish.mpr rfl
    have hread : decodeAnnounced finish (b₀ :: b₁ :: (payload a ++ rest)) =
        .ok (a, 2 + (payload a).length) := by
      rw [decodeAnnounced_eq rest hlen (short a), hdone, Fallible.ok_bind]
    simp only [hbytes, List.cons_append, List.nil_append]
    rw [hread, Nat.add_comm 2]
    rfl

end Announced

namespace MqttString

def toBuffers (s : MqttString) : List Bytes := [s.asBytes]

def toContinuousBuffer (s : MqttString) : Bytes := s.asBytes

theorem length_asBytes (s : MqttString) : s.asBytes.length = s.size := by
  rw [asBytes, List.length_append, length_toBeBytes]
  rfl

def checked (bytes : Bytes) (short : bytes.length ≤ 65535) : Fallible MqttError MqttString :=
  if h : utf8Valid bytes then .ok ⟨⟨bytes, h⟩, short⟩ else .err .malformedPacket

theorem checked_eq_ok {bytes : Bytes} {short : bytes.length ≤ 65535} {s : MqttString} :
    checked bytes short = .ok s ↔ bytes = s.str.bytes := by
  unfold checked
  constructor
  · intro h
    split at h <;> cases h
    rfl
  · intro h
    subst h
    exact dif_pos s.str.valid

theorem checked_bind {α : Type} {bytes : Bytes} {short : bytes.length ≤ 65535}
    (f : MqttString → Fallible MqttError α) :
    checked bytes short >>= f =
      if h : utf8Valid bytes then f ⟨⟨bytes, h⟩, short⟩ else .err .malformedPacket :=
  apply_dite (· >>= f) ..

theorem decode_eq_announced :
    decode = decodeAnnounced fun bytes h ↦ checked bytes (Nat.le_of_lt_succ h) := by
  funext data
  simp only [decodeAnnounced, checked_bind]
  rfl

theorem accepts_decode : Accepts (.exactly asBytes) decode := by
  rw [decode_eq_announced]
  exact accepts_decodeAnnounced (fun s ↦ s.short) checked_eq_ok

end MqttString

namespace MqttBinary

def toBuffers (b : MqttBinary) : List Bytes := [b.asBytes]

def toContinuousBuffer (b : MqttBinary) : Bytes := b.asBytes

theorem length_asBytes (b : MqttBinary) : b.asBytes.length = b.size := by
  rw [asBytes, List.length_append, length_toBeBytes]
  rfl

theorem decode_eq_announced :
    decode = decodeAnnounced fun bytes h ↦ .ok ⟨bytes, Nat.le_of_lt_succ h⟩ := rfl

theorem accepts_decode : Accepts (.exactly asBytes) decode := by
  rw [decode_eq_announced]
  refine accepts_decodeAnnounced (fun b ↦ b.short) ?_
  intro bytes hb b
  constructor
  · intro h
    cases h
    rfl
  · intro h
    subst h
    rfl

end MqttBinary

end MqttProtocolCore.Packet
