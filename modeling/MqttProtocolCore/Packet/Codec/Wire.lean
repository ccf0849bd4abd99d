import MqttProtocolCore.Packet.Codec.Sections

namespace MqttProtocolCore.Packet

open General

class GenericPacketTrait (P : Type) where
  size : P → ℕ
  toBuffers : P → List Bytes
  toContinuousBuffer : P → Bytes

def frameFlags (bytes : Bytes) : UInt8 := bytes.headD 0 &&& 0x0F

def frameBody (bytes : Bytes) : Bytes :=
  match VariableByteInteger.decodeStream (bytes.drop 1) with
  | .ok _ n => bytes.drop (1 + n)
  | _ => []

def frameLength (bytes : Bytes) : Option ℕ :=
  match VariableByteInteger.decodeStream (bytes.drop 1) with
  | .ok v _ => some v.toU32
  | _ => none

/-- A buffer is written unless it is empty. -/
def bufferOf (bytes : Bytes) : List Bytes := if bytes ≠ [] then [bytes] else []

theorem flatten_bufferOf (bytes : Bytes) : (bufferOf bytes).flatten = bytes := by
  cases bytes with
  | nil => rfl
  | cons b bytes => exact List.append_nil _

section Frame

variable {P : Type} [GenericPacketTrait P]

/-- The size, the two ways to write the packet and its remaining length agree. -/
structure LengthsAgree (p : P) : Prop where
  size : GenericPacketTrait.size p = (GenericPacketTrait.toContinuousBuffer p).length
  sum : GenericPacketTrait.size p = ((GenericPacketTrait.toBuffers p).map List.length).sum
  flatten : (GenericPacketTrait.toBuffers p).flatten = GenericPacketTrait.toContinuousBuffer p
  remaining : frameLength (GenericPacketTrait.toContinuousBuffer p) =
    some (frameBody (GenericPacketTrait.toContinuousBuffer p)).length

/-- Parsing what the packet is written as gives the packet back and leaves nothing. -/
def RoundTrips (parse : Bytes → Fallible MqttError (P × ℕ)) (p : P) : Prop :=
  let body := frameBody (GenericPacketTrait.toContinuousBuffer p)
  parse body = .ok (p, body.length)

structure LaidOut (p : P) (header : UInt8) (remainingLength : VariableByteInteger) (body : Bytes) :
    Prop where
  size : GenericPacketTrait.size p = packetSize remainingLength
  flatten : (GenericPacketTrait.toBuffers p).flatten = GenericPacketTrait.toContinuousBuffer p
  bytes : GenericPacketTrait.toContinuousBuffer p = header :: (remainingLength.asBytes ++ body)

variable {p : P} {header : UInt8} {remainingLength : VariableByteInteger} {body : Bytes}

theorem decodeStream_asBytes (v : VariableByteInteger) (body : Bytes) :
    VariableByteInteger.decodeStream (v.asBytes ++ body) = .ok v v.size :=
  VariableByteInteger.accepts_decodeStream.mpr
    ⟨v.asBytes, body, rfl, rfl, VariableByteInteger.shortest.code trivial⟩

theorem LaidOut.frameBody (h : LaidOut p header remainingLength body) :
    frameBody (GenericPacketTrait.toContinuousBuffer p) = body := by
  rw [h.bytes, Packet.frameBody, List.drop_one, List.tail_cons, decodeStream_asBytes]
  dsimp only
  rw [Nat.add_comm, List.drop_succ_cons]
  exact List.drop_left

theorem LaidOut.frameLength (h : LaidOut p header remainingLength body) :
    frameLength (GenericPacketTrait.toContinuousBuffer p) = some remainingLength.toU32 := by
  rw [h.bytes, Packet.frameLength, List.drop_one, List.tail_cons, decodeStream_asBytes]

theorem LaidOut.frameFlags (h : LaidOut p header remainingLength body) :
    frameFlags (GenericPacketTrait.toContinuousBuffer p) = header &&& 0x0F := by
  rw [h.bytes]
  rfl

theorem LaidOut.lengthsAgree_iff (h : LaidOut p header remainingLength body) :
    LengthsAgree p ↔ remainingLength.toU32 = body.length := by
  constructor
  · intro hl
    have hr := hl.remaining
    rw [h.frameLength, h.frameBody] at hr
    exact Option.some.inj hr
  · intro hr
    have hlen : GenericPacketTrait.size p = (GenericPacketTrait.toContinuousBuffer p).length := by
      rw [h.size, h.bytes, List.length_cons, List.length_append, packetSize, hr]
      change _ = remainingLength.size + _ + 1
      omega
    refine ⟨hlen, ?_, h.flatten, ?_⟩
    · rw [← List.length_flatten, h.flatten, hlen]
    · rw [h.frameLength, h.frameBody, hr]

theorem LaidOut.roundTrips_iff (h : LaidOut p header remainingLength body)
    {parse : Bytes → Fallible MqttError (P × ℕ)} :
    RoundTrips parse p ↔ parse body = .ok (p, body.length) := by
  unfold RoundTrips
  rw [h.frameBody]

end Frame

section Framed

variable {P : Type} [GenericPacketTrait P]

/-- A packet whose remaining length is the number of bytes it was parsed from. The body that is
written is the shortest code. -/
structure Framed (parse : Bytes → Fallible MqttError (P × ℕ)) (G : Format UInt8 P)
    (valid : P → Prop) (body : P → Bytes) (remainingLength : P → VariableByteInteger) : Prop where
  laidOut (p : P) : ∃ header, LaidOut p header (remainingLength p) (body p)
  sound {data : Bytes} {p : P} {n : ℕ} : parse data = .ok (p, n) →
    ∃ code rest, data = code ++ rest ∧ n = code.length ∧ G code p ∧
      lengthOf code.length = .ok (remainingLength p)
  complete {code : Bytes} {p : P} : G code p → lengthOf code.length = .ok (remainingLength p) →
    parse code = .ok (p, code.length)
  shortest : Shortest G valid body
  /-- Codes are longer than they have to be by less than what the cast to `u32` drops. -/
  excess {code : Bytes} {p : P} : G code p → code.length < (body p).length + 4294967296

variable {parse : Bytes → Fallible MqttError (P × ℕ)} {G : Format UInt8 P} {valid : P → Prop}
  {body : P → Bytes} {remainingLength : P → VariableByteInteger}

theorem Framed.lengthsAgree_iff (h : Framed parse G valid body remainingLength) (p : P) :
    LengthsAgree p ↔ (remainingLength p).toU32 = (body p).length := by
  obtain ⟨header, hlaid⟩ := h.laidOut p
  exact hlaid.lengthsAgree_iff

/-- A valid packet parses back when its length is the one that is computed for its body. -/
theorem Framed.roundTrips_iff (h : Framed parse G valid body remainingLength) (p : P) :
    RoundTrips parse p ↔ valid p ∧ lengthOf (body p).length = .ok (remainingLength p) := by
  obtain ⟨header, hlaid⟩ := h.laidOut p
  rw [hlaid.roundTrips_iff]
  constructor
  · intro hp
    obtain ⟨code, rest, hbody, hlen, hG, hr⟩ := h.sound hp
    have hrest : rest = [] := by
      rw [hbody, List.length_append] at hlen
      exact List.length_eq_zero_iff.mp (by omega)
    rw [hrest, List.append_nil] at hbody
    rw [hbody]
    exact ⟨h.shortest.valid hG, hr⟩
  · intro ⟨hv, hr⟩
    exact h.complete (h.shortest.code hv) hr

/-- A packet that was parsed can be written and parsed again exactly when it came in the shortest
code, and the code was not too long to count. -/
theorem Framed.forwards_iff (h : Framed parse G valid body remainingLength) {code : Bytes} {p : P}
    (hG : G code p) (hr : lengthOf code.length = .ok (remainingLength p)) :
    LengthsAgree p ∧ RoundTrips parse p ↔ code = body p ∧ code.length < 4294967296 := by
  have hle := h.shortest.le hG
  have hexcess := h.excess hG
  have hmod := lengthOf_eq_ok.mp hr
  rw [h.lengthsAgree_iff, h.roundTrips_iff]
  constructor
  · intro hboth
    obtain ⟨hl, -⟩ := hboth
    have hlen : code.length = (body p).length := by omega
    exact ⟨h.shortest.unique hG hlen, by omega⟩
  · intro ⟨hcode, hlt⟩
    rw [← hcode]
    exact ⟨by omega, h.shortest.valid hG, hr⟩

end Framed

section Wrapping

theorem utf8Valid_replicate (n : ℕ) : utf8Valid (List.replicate n 0x61) := by
  induction n with
  | zero => rfl
  | succ n ih =>
    rw [List.replicate_succ]
    unfold utf8Valid
    rw [if_pos (by decide)]
    exact ih

theorem length_replicate_le {n : ℕ} (b : UInt8) (h : n ≤ 65535) :
    (List.replicate n b).length ≤ 65535 := by
  rwa [List.length_replicate]

def MqttString.replicate (n : ℕ) (h : n ≤ 65535) : MqttString :=
  ⟨⟨List.replicate n 0x61, utf8Valid_replicate n⟩, length_replicate_le 0x61 h⟩

theorem MqttString.size_replicate (n : ℕ) (h : n ≤ 65535) :
    (MqttString.replicate n h).size = 2 + n :=
  congrArg (2 + ·) List.length_replicate

theorem one_le_maxLength : 1 ≤ 65535 := by decide

theorem wideLength_le : 65531 ≤ 65535 := by decide

/-- Properties that together take 4294967296 bytes, which the cast to `u32` makes 0. -/
@[irreducible] def wideProps : Properties :=
  List.replicate 65536 (.userProperty (.replicate 65531 wideLength_le, .default))

theorem Properties.size_replicate (n : ℕ) (p : Property) :
    Properties.size (List.replicate n p) = n * p.size := by
  induction n with
  | zero => exact (Nat.zero_mul _).symm
  | succ n ih =>
    rw [List.replicate_succ, Nat.succ_mul, Nat.add_comm, ← ih]
    rfl

theorem Property.size_userProperty (n : ℕ) (h : n ≤ 65535) :
    (Property.userProperty (.replicate n h, .default)).size = n + 5 := by
  have hdefault : MqttString.default.size = 2 := rfl
  rw [Property.size, MqttString.size_replicate, hdefault]
  omega

theorem size_wideProps : wideProps.size = 4294967296 := by
  rw [wideProps, Properties.size_replicate, Property.size_userProperty]

theorem validateProperties_replicate {single multiple : List PropertyId} {p : Property} (n : ℕ)
    (hs : p.id ∉ single) (hm : p.id ∈ multiple) :
    validateProperties single multiple (List.replicate n p) = .ok () := by
  refine if_pos ⟨fun q hq ↦ ?_, fun id hid ↦ ?_⟩
  · rw [List.eq_of_mem_replicate hq]
    exact .inr hm
  · have hne : p.id ≠ id := by
      rintro rfl
      exact hs hid
    rw [List.map_replicate, List.count_replicate, if_neg (by simpa using hne)]
    exact Nat.zero_le _

theorem validateProperties_wideProps {single multiple : List PropertyId}
    (hs : .userProperty ∉ single) (hm : .userProperty ∈ multiple) :
    validateProperties single multiple wideProps = .ok () := by
  rw [wideProps]
  exact validateProperties_replicate 65536 hs hm

end Wrapping

end MqttProtocolCore.Packet
