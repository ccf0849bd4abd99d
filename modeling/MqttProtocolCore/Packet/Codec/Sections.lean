import MqttProtocolCore.Packet.Codec.Fields

namespace MqttProtocolCore.Packet

open General

/-- The codes of a property section that is valid, with the length as it is written again. -/
def SectionCode (validate : Properties → Fallible MqttError Unit) :
    Format UInt8 (VariableByteInteger × Properties) :=
  fun code s ↦ Properties.Section code s.2 ∧ validate s.2 = .ok () ∧ s.1.toU32 = s.2.size

theorem SectionCode.ne_nil {validate : Properties → Fallible MqttError Unit} {code : Bytes}
    {s : VariableByteInteger × Properties} (h : SectionCode validate code s) : code ≠ [] := by
  obtain ⟨⟨len, codes, rfl, -, v, hv, -⟩, -⟩ := h
  exact List.append_ne_nil_of_left_ne_nil hv.1.ne_nil _

theorem SectionCode.length_le {validate : Properties → Fallible MqttError Unit} {code : Bytes}
    {s : VariableByteInteger × Properties} (h : SectionCode validate code s) :
    code.length ≤ VariableByteInteger.max + 4 := by
  obtain ⟨⟨len, codes, rfl, -, v, hv, hlen⟩, -⟩ := h
  have := v.toU32_le
  have := hv.2.1
  rw [List.length_append]
  omega

def sectionBytes (s : VariableByteInteger × Properties) : Bytes :=
  s.1.asBytes ++ s.2.toContinuousBuffer

theorem length_sectionBytes (s : VariableByteInteger × Properties) :
    (sectionBytes s).length = s.1.size + s.2.size := by
  rw [sectionBytes, List.length_append, Properties.length_toContinuousBuffer]
  rfl

theorem sectionBytes_ne_nil (s : VariableByteInteger × Properties) : sectionBytes s ≠ [] :=
  List.append_ne_nil_of_left_ne_nil s.1.isField_asBytes.ne_nil _

theorem lengthOf_eq_ok {n : ℕ} {v : VariableByteInteger} :
    lengthOf n = .ok v ↔ v.toU32 = n % 4294967296 := by
  constructor
  · intro h
    unfold lengthOf at h
    split at h
    · rename_i v' hv
      cases h
      exact VariableByteInteger.toU32_of_fromU32 hv
    · cases h
  · intro h
    have hle : n % 4294967296 ≤ VariableByteInteger.max := h ▸ v.toU32_le
    rw [lengthOf, VariableByteInteger.fromU32_eq hle]
    dsimp only
    rw [VariableByteInteger.toU32_inj (v := v)
      (h.trans (VariableByteInteger.toU32_of_fromU32 (VariableByteInteger.fromU32_eq hle)).symm)]

theorem lengthOf_eq_ok_of_le {n : ℕ} {v : VariableByteInteger} (h : n ≤ VariableByteInteger.max) :
    lengthOf n = .ok v ↔ v.toU32 = n := by
  rw [VariableByteInteger.max] at h
  rw [lengthOf_eq_ok, Nat.mod_eq_of_lt (by omega)]

/-- The length that is written is the right one exactly when the cast to `u32` kept it. -/
theorem toU32_eq_iff_of_lengthOf {n : ℕ} {v : VariableByteInteger} (h : lengthOf n = .ok v) :
    v.toU32 = n ↔ n < 4294967296 := by
  have hv := lengthOf_eq_ok.mp h
  omega

theorem Properties.Section.size_le {code : Bytes} {props : Properties}
    (h : Properties.Section code props) : props.size ≤ VariableByteInteger.max := by
  obtain ⟨len, codes, rfl, hG, v, -, hv⟩ := h
  have hle := Property.shortest.listOf.le hG
  rw [← Properties.length_toContinuousBuffer]
  exact (hv ▸ hle).trans v.toU32_le

theorem acceptsAt_parseProperties (validate : Properties → Fallible MqttError Unit) :
    AcceptsAt (SectionCode validate) (parseProperties validate) := by
  refine ⟨fun {data cursor tail s n} hat ↦ ?_⟩
  obtain ⟨v, props⟩ := s
  constructor
  · intro h
    obtain ⟨⟨props', c⟩, hp, h⟩ := Fallible.bind_eq_ok.mp h
    obtain ⟨code, rest, rfl, rfl, hS, -⟩ :=
      (acceptsAt_parseAt Properties.accepts_parse).sound hat hp
    obtain ⟨⟨⟩, hv, h⟩ := Fallible.bind_eq_ok.mp h
    obtain ⟨l, hl, h⟩ := Fallible.bind_eq_ok.mp h
    cases h
    exact ⟨code, rest, rfl, rfl, hS, hv, (lengthOf_eq_ok_of_le hS.size_le).mp hl⟩
  · rintro ⟨code, rest, rfl, rfl, hS, hv, hl⟩
    dsimp only at hS hv hl
    rw [parseProperties, (acceptsAt_parseAt Properties.accepts_parse).complete hat hS,
      Fallible.ok_bind]
    dsimp only
    rw [hv, Fallible.ok_bind, (lengthOf_eq_ok_of_le hS.size_le).mpr hl]
    rfl

theorem shortest_sectionCode (validate : Properties → Fallible MqttError Unit) :
    Shortest (SectionCode validate)
      (fun s ↦ validate s.2 = .ok () ∧ s.1.toU32 = s.2.size) sectionBytes where
  code {s} h := by
    refine ⟨⟨s.1.asBytes, s.2.toContinuousBuffer, rfl, ?_, s.1, ?_, ?_⟩, h⟩
    · exact Property.shortest.listOf.code fun _ _ ↦ trivial
    · exact VariableByteInteger.shortest.code trivial
    · rw [Properties.length_toContinuousBuffer, h.2]
  valid h := h.2
  le {code s} h := by
    obtain ⟨⟨len, codes, rfl, hG, v, hv, hlen⟩, -, hs⟩ := h
    have hle := Property.shortest.listOf.le hG
    have hvle := VariableByteInteger.shortest.le hv
    change s.2.toContinuousBuffer.length ≤ _ at hle
    rw [Properties.length_toContinuousBuffer] at hle
    have hmono := VariableByteInteger.sizeOf_mono (show s.1.toU32 ≤ v.toU32 by omega)
    rw [← VariableByteInteger.size_eq_sizeOf, ← VariableByteInteger.size_eq_sizeOf] at hmono
    change v.size ≤ _ at hvle
    rw [length_sectionBytes, List.length_append]
    omega
  unique {code s} h heq := by
    obtain ⟨⟨len, codes, rfl, hG, v, hv, hlen⟩, -, hs⟩ := h
    have hle := Property.shortest.listOf.le hG
    have hvle := VariableByteInteger.shortest.le hv
    change s.2.toContinuousBuffer.length ≤ _ at hle
    rw [Properties.length_toContinuousBuffer] at hle
    have hmono := VariableByteInteger.sizeOf_mono (show s.1.toU32 ≤ v.toU32 by omega)
    rw [← VariableByteInteger.size_eq_sizeOf, ← VariableByteInteger.size_eq_sizeOf] at hmono
    change v.size ≤ _ at hvle
    rw [length_sectionBytes, List.length_append] at heq
    have hcodes : codes = s.2.toContinuousBuffer := by
      refine Property.shortest.listOf.unique hG ?_
      change _ = s.2.toContinuousBuffer.length
      rw [Properties.length_toContinuousBuffer]
      omega
    have hv' : v = s.1 := VariableByteInteger.toU32_inj (by
      rw [hlen, hcodes, Properties.length_toContinuousBuffer, hs])
    subst hv'
    rw [sectionBytes, ← hcodes, VariableByteInteger.shortest.unique hv]
    change _ = s.1.size
    omega

def checkProps (validate : Properties → Fallible MqttError Unit) :
    Option Properties → Fallible MqttError Unit
  | some props => validate props
  | none => .ok ()

theorem checkProps_eq_ok {validate : Properties → Fallible MqttError Unit}
    (hnil : validate [] = .ok ()) (props : Option Properties) :
    checkProps validate props = .ok () ↔ validate (props.getD []) = .ok () := by
  cases props with
  | none => exact ⟨fun _ ↦ hnil, fun _ ↦ rfl⟩
  | some ps => exact Iff.rfl

class EncodedCode (C : Type) extends ReasonCode C where
  toU8 : C → UInt8
  tryFrom_eq_some {b : UInt8} {c : C} : tryFrom b = some c ↔ b = toU8 c

/-- A table of codes reads back what it writes, and reads no other byte. -/
theorem tryFrom_eq_some_of {C : Type} {tryFrom : UInt8 → Option C} {toU8 : C → UInt8}
    (written : ∀ c, tryFrom (toU8 c) = some c)
    (read : ∀ n < 256, (tryFrom (.ofNat n)).all fun c ↦ toU8 c = .ofNat n) {b : UInt8} {c : C} :
    tryFrom b = some c ↔ b = toU8 c := by
  constructor
  · intro h
    have hread := read b.toNat b.toNat_lt
    rw [UInt8.ofNat_toNat, h, Option.all_some] at hread
    exact (of_decide_eq_true hread).symm
  · intro h
    rw [h]
    exact written c

theorem ConnectReasonCode.tryFrom_eq_some {b : UInt8} {c : ConnectReasonCode} :
    ConnectReasonCode.tryFrom b = some c ↔ b = c.toU8 :=
  tryFrom_eq_some_of (fun c ↦ by cases c <;> rfl) (by decide +kernel)

theorem ConnectReturnCode.tryFrom_eq_some {b : UInt8} {c : ConnectReturnCode} :
    ConnectReturnCode.tryFrom b = some c ↔ b = c.toU8 :=
  tryFrom_eq_some_of (fun c ↦ by cases c <;> rfl) (by decide +kernel)

instance : EncodedCode PubackReasonCode where
  toU8 := PubackReasonCode.toU8
  tryFrom_eq_some := tryFrom_eq_some_of (fun c ↦ by cases c <;> rfl) (by decide +kernel)

instance : EncodedCode PubrecReasonCode where
  toU8 := PubrecReasonCode.toU8
  tryFrom_eq_some := tryFrom_eq_some_of (fun c ↦ by cases c <;> rfl) (by decide +kernel)

instance : EncodedCode PubrelReasonCode where
  toU8 := PubrelReasonCode.toU8
  tryFrom_eq_some := tryFrom_eq_some_of (fun c ↦ by cases c <;> rfl) (by decide +kernel)

instance : EncodedCode PubcompReasonCode where
  toU8 := PubcompReasonCode.toU8
  tryFrom_eq_some := tryFrom_eq_some_of (fun c ↦ by cases c <;> rfl) (by decide +kernel)

instance : EncodedCode DisconnectReasonCode where
  toU8 := DisconnectReasonCode.toU8
  tryFrom_eq_some := tryFrom_eq_some_of (fun c ↦ by cases c <;> rfl) (by decide +kernel)

instance : EncodedCode AuthReasonCode where
  toU8 := AuthReasonCode.toU8
  tryFrom_eq_some := tryFrom_eq_some_of (fun c ↦ by cases c <;> rfl) (by decide +kernel)

instance : EncodedCode SubackReasonCode where
  toU8 := SubackReasonCode.toU8
  tryFrom_eq_some := tryFrom_eq_some_of (fun c ↦ by cases c <;> rfl) (by decide +kernel)

instance : EncodedCode UnsubackReasonCode where
  toU8 := UnsubackReasonCode.toU8
  tryFrom_eq_some := tryFrom_eq_some_of (fun c ↦ by cases c <;> rfl) (by decide +kernel)

instance : EncodedCode SubackReturnCode where
  toU8 := SubackReturnCode.toU8
  tryFrom_eq_some := tryFrom_eq_some_of (fun c ↦ by cases c <;> rfl) (by decide +kernel)

section Codes

variable {C : Type} [EncodedCode C]

theorem accepts_parseCode : Accepts (.exactly fun c : C ↦ [EncodedCode.toU8 c]) (parseCode C) := by
  refine ⟨fun {data c n} ↦ ⟨fun h ↦ ?_, ?_⟩⟩
  · cases data with
    | nil => cases h
    | cons b rest =>
      have hat := At.start (b :: rest)
      rw [parseCode, hat.index_eq, Fallible.ok_bind] at h
      split at h
      · rename_i code hc
        cases h
        exact ⟨[b], rest, rfl, rfl, congrArg ([·]) (EncodedCode.tryFrom_eq_some.mp hc)⟩
      · cases h
  · rintro ⟨_, rest, rfl, rfl, rfl⟩
    have hat := At.start (EncodedCode.toU8 c :: rest)
    have hc : ReasonCode.tryFrom (EncodedCode.toU8 c) = some c :=
      EncodedCode.tryFrom_eq_some.mpr rfl
    rw [List.singleton_append, parseCode, hat.index_eq, Fallible.ok_bind, hc]
    rfl

/-- A reason code with its property section: what bytes are left for decides what there is. -/
def ReasonSection (validate : Properties → Fallible MqttError Unit) :
    Format UInt8 (Option C × Option (VariableByteInteger × Properties))
  | code, (none, none) => code = []
  | code, (some c, none) => code = [EncodedCode.toU8 c]
  | code, (some c, some s) => ∃ props, code = EncodedCode.toU8 c :: props ∧
      SectionCode validate props s
  | _, (none, some _) => False

theorem parseReasonCode_nil {data : Bytes} {cursor : ℕ} (hat : At data cursor []) :
    parseReasonCode C data cursor = .ok (none, cursor) :=
  if_neg fun h ↦ hat.lt_iff.mp h rfl

theorem parseReasonCode_cons {data tail : Bytes} {cursor : ℕ} {b : UInt8}
    (hat : At data cursor (b :: tail)) {r : Option C} {n : ℕ} :
    parseReasonCode C data cursor = .ok (r, n) ↔
      ∃ c, r = some c ∧ b = EncodedCode.toU8 c ∧ n = cursor + 1 := by
  rw [parseReasonCode, if_pos (hat.lt_iff.mpr (List.cons_ne_nil _ _)), hat.index_eq,
    Fallible.ok_bind]
  constructor
  · intro h
    split at h
    · rename_i c hc
      cases h
      exact ⟨c, rfl, EncodedCode.tryFrom_eq_some.mp hc, rfl⟩
    · cases h
  · rintro ⟨c, rfl, rfl, rfl⟩
    rw [EncodedCode.tryFrom_eq_some.mpr rfl]
    rfl

theorem parseReasonProperties_eq_ok {validate : Properties → Fallible MqttError Unit}
    {data tail : Bytes} {cursor : ℕ} (hat : At data cursor tail)
    {r : Option C × Option (VariableByteInteger × Properties)} {n : ℕ} :
    parseReasonProperties C validate data cursor = .ok (r, n) ↔
      ∃ code rest, tail = code ++ rest ∧ n = cursor + code.length ∧
        ReasonSection validate code r ∧ (r.2 = none → rest = []) := by
  constructor
  · intro h
    obtain ⟨⟨rc, c⟩, hr, h⟩ := Fallible.bind_eq_ok.mp h
    cases tail with
    | nil =>
      rw [parseReasonCode_nil hat] at hr
      cases hr
      simp only [Option.isSome_none, Bool.false_eq_true, false_and, if_false] at h
      cases h
      exact ⟨[], [], rfl, rfl, rfl, fun _ ↦ rfl⟩
    | cons b tail =>
      obtain ⟨code, rfl, rfl, rfl⟩ := (parseReasonCode_cons hat).mp hr
      have hnext : At data (cursor + 1) tail := hat.next_cons
      dsimp only at h
      split at h
      · obtain ⟨⟨s, m⟩, hp, h⟩ := Fallible.bind_eq_ok.mp h
        cases h
        obtain ⟨props, rest, rfl, rfl, hS, -⟩ := (acceptsAt_parseProperties validate).sound hnext hp
        refine ⟨EncodedCode.toU8 code :: props, rest, rfl, ?_, ⟨props, rfl, hS⟩, fun h ↦ nomatch h⟩
        rw [List.length_cons]
        omega
      · rename_i hend
        cases h
        have htail : tail = [] := by
          by_contra hne
          exact hend ⟨rfl, hnext.lt_iff.mpr hne⟩
        exact ⟨[EncodedCode.toU8 code], [], by rw [htail]; rfl, rfl, rfl, fun _ ↦ rfl⟩
  · rintro ⟨code, rest, rfl, rfl, hR, hend⟩
    obtain ⟨rc, s⟩ := r
    cases rc with
    | none =>
      cases s with
      | none =>
        obtain rfl : code = [] := hR
        obtain rfl : rest = [] := hend rfl
        rw [parseReasonProperties, parseReasonCode_nil hat]
        rfl
      | some s => exact hR.elim
    | some c =>
      cases s with
      | none =>
        obtain rfl : code = [EncodedCode.toU8 c] := hR
        obtain rfl : rest = [] := hend rfl
        have hnext := hat.next
        rw [parseReasonProperties, (parseReasonCode_cons hat).mpr ⟨c, rfl, rfl, rfl⟩,
          Fallible.ok_bind]
        dsimp only
        rw [if_neg fun h ↦ hnext.lt_iff.mp h.2 rfl]
        rfl
      | some s =>
        obtain ⟨props, rfl, hS⟩ := hR
        have hnext : At data (cursor + 1) (props ++ rest) := hat.next_cons
        have hne : props ++ rest ≠ [] := List.append_ne_nil_of_left_ne_nil hS.ne_nil _
        rw [parseReasonProperties, (parseReasonCode_cons hat).mpr ⟨c, rfl, rfl, rfl⟩,
          Fallible.ok_bind]
        dsimp only
        rw [if_pos ⟨rfl, hnext.lt_iff.mpr hne⟩,
          (acceptsAt_parseProperties validate).complete hnext hS, List.length_cons,
          Nat.add_comm props.length, ← Nat.add_assoc]
        rfl

end Codes

section Reason

variable {C : Type} [EncodedCode C] {validate : Properties → Fallible MqttError Unit}

def reasonBytes (r : Option C × Option (VariableByteInteger × Properties)) : Bytes :=
  (r.1.elim [] fun c ↦ [EncodedCode.toU8 c]) ++ r.2.elim [] sectionBytes

def reasonBuffers (r : Option C × Option (VariableByteInteger × Properties)) : List Bytes :=
  (r.1.elim [] fun c ↦ [[EncodedCode.toU8 c]]) ++ r.2.elim [] fun s ↦ s.1.asBytes :: s.2.toBuffers

def ReasonValid (validate : Properties → Fallible MqttError Unit)
    (r : Option C × Option (VariableByteInteger × Properties)) : Prop :=
  (r.1 = none → r.2 = none) ∧ ∀ s ∈ r.2, validate s.2 = .ok () ∧ s.1.toU32 = s.2.size

theorem flatten_reasonBuffers (r : Option C × Option (VariableByteInteger × Properties)) :
    (reasonBuffers r).flatten = reasonBytes r := by
  obtain ⟨rc, s⟩ := r
  rw [reasonBuffers, reasonBytes, List.flatten_append]
  cases rc <;> cases s <;> simp [Properties.flatten_toBuffers, sectionBytes]

theorem length_reasonBytes (r : Option C × Option (VariableByteInteger × Properties)) :
    (reasonBytes r).length = reasonSize r := by
  obtain ⟨rc, s⟩ := r
  rw [reasonBytes, reasonSize, List.length_append]
  cases rc <;> cases s <;> simp [length_sectionBytes]

theorem shortest_reasonSection :
    Shortest (ReasonSection validate) (ReasonValid validate) (reasonBytes (C := C)) where
  code {r} h := by
    obtain ⟨rc, s⟩ := r
    cases rc with
    | none =>
      obtain rfl : s = none := h.1 rfl
      rfl
    | some c =>
      cases s with
      | none => rfl
      | some s =>
        exact ⟨sectionBytes s, rfl, (shortest_sectionCode validate).code (h.2 s rfl)⟩
  valid {code r} h := by
    obtain ⟨rc, s⟩ := r
    cases rc with
    | none =>
      cases s with
      | none =>
        refine ⟨fun _ ↦ rfl, fun s hs ↦ ?_⟩
        cases hs
      | some s => exact h.elim
    | some c =>
      refine ⟨nofun, fun s' hs ↦ ?_⟩
      obtain rfl : s = some s' := hs
      obtain ⟨props, rfl, hS⟩ := h
      exact hS.2
  le {code r} h := by
    obtain ⟨rc, s⟩ := r
    cases rc with
    | none =>
      cases s with
      | none => exact Nat.zero_le _
      | some s => exact h.elim
    | some c =>
      cases s with
      | none => exact Nat.le_of_eq (congrArg List.length (show code = _ from h).symm)
      | some s =>
        obtain ⟨props, rfl, hS⟩ := h
        exact Nat.succ_le_succ ((shortest_sectionCode validate).le hS)
  unique {code r} h hlen := by
    obtain ⟨rc, s⟩ := r
    cases rc with
    | none =>
      cases s with
      | none => exact h
      | some s => exact h.elim
    | some c =>
      cases s with
      | none => exact h
      | some s =>
        obtain ⟨props, rfl, hS⟩ := h
        rw [(shortest_sectionCode validate).unique hS (Nat.succ.inj hlen)]
        rfl

theorem ReasonSection.size_le {code : Bytes}
    {r : Option C × Option (VariableByteInteger × Properties)}
    (h : ReasonSection validate code r) : reasonSize r ≤ VariableByteInteger.max + 5 := by
  obtain ⟨rc, s⟩ := r
  cases s with
  | none =>
    rw [reasonSize]
    cases rc <;> simp
  | some s =>
    cases rc with
    | none => exact h.elim
    | some c =>
      obtain ⟨props, rfl, hS⟩ := h
      have := hS.1.size_le
      have := s.1.size_le_four
      simp only [reasonSize, Option.isSome_some, if_true, Option.elim_some]
      omega

end Reason

end MqttProtocolCore.Packet
