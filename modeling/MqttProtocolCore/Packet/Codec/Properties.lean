import MqttProtocolCore.Packet.Codec.Primitives

namespace MqttProtocolCore.Packet

open General

namespace Property

theorem accepts_parseU8 : Accepts (.exactly fun b ↦ [b]) parseU8 := by
  refine ⟨fun {data b n} ↦ ⟨?_, ?_⟩⟩
  · intro h
    match data with
    | [] => cases h
    | a :: rest =>
      cases h
      exact ⟨[b], rest, rfl, rfl, rfl⟩
  · rintro ⟨_, rest, rfl, rfl, rfl⟩
    simp [parseU8, Fallible.require, index]

theorem parseU16_cons (b₀ b₁ : UInt8) (rest : Bytes) :
    parseU16 (b₀ :: b₁ :: rest) = .ok (U16.fromBeBytes b₀ b₁, 2) := by
  simp [parseU16, Fallible.require, index]

theorem parseU32_cons (b₀ b₁ b₂ b₃ : UInt8) (rest : Bytes) :
    parseU32 (b₀ :: b₁ :: b₂ :: b₃ :: rest) = .ok (U32.fromBeBytes b₀ b₁ b₂ b₃, 4) := by
  simp [parseU32, Fallible.require, index]

theorem accepts_parseU16 : Accepts (.exactly U16.toBeBytes) parseU16 := by
  refine ⟨fun {data v n} ↦ ⟨?_, ?_⟩⟩
  · intro h
    match data with
    | [] => cases h
    | [_] => cases h
    | b₀ :: b₁ :: rest =>
      rw [parseU16_cons] at h
      cases h
      exact ⟨[b₀, b₁], rest, rfl, rfl, (U16.toBeBytes_fromBeBytes b₀ b₁).symm⟩
  · rintro ⟨_, rest, rfl, rfl, rfl⟩
    obtain ⟨b₀, b₁, hb, hv⟩ := v.exists_toBeBytes
    rw [hb, ← hv]
    exact parseU16_cons b₀ b₁ rest

theorem accepts_parseU32 : Accepts (.exactly U32.toBeBytes) parseU32 := by
  refine ⟨fun {data v n} ↦ ⟨?_, ?_⟩⟩
  · intro h
    match data with
    | [] => cases h
    | [_] => cases h
    | [_, _] => cases h
    | [_, _, _] => cases h
    | b₀ :: b₁ :: b₂ :: b₃ :: rest =>
      rw [parseU32_cons] at h
      cases h
      exact ⟨_, rest, rfl, rfl, (U32.toBeBytes_fromBeBytes b₀ b₁ b₂ b₃).symm⟩
  · rintro ⟨_, rest, rfl, rfl, rfl⟩
    obtain ⟨b₀, b₁, b₂, b₃, hb, hv⟩ := v.exists_toBeBytes
    rw [hb, ← hv]
    exact parseU32_cons b₀ b₁ b₂ b₃ rest

theorem validated_eq_ok {α : Type} {valid : α → Prop} [DecidablePred valid]
    {x : Fallible MqttError (α × ℕ)} {a : {a // valid a}} {n : ℕ} :
    validated valid x = .ok (a, n) ↔ x = .ok (a.val, n) := by
  obtain ⟨a, ha⟩ := a
  constructor
  · intro hv
    obtain ⟨⟨v, m⟩, hp, hv⟩ := Fallible.bind_eq_ok.mp hv
    dsimp only at hv
    split at hv
    · cases hv
      exact hp
    · cases hv
  · intro hp
    simp only [validated, hp, Fallible.ok_bind, ha, dite_true]
    rfl

theorem accepts_validated {α : Type} {encode : α → Bytes} {valid : α → Prop}
    [DecidablePred valid] {parse : Bytes → Fallible MqttError (α × ℕ)}
    (h : Accepts (.exactly encode) parse) :
    Accepts (.exactly fun a : {a // valid a} ↦ encode a.val)
      (fun data ↦ validated valid (parse data)) :=
  ⟨validated_eq_ok.trans h.iff⟩

theorem accepts_parseVariableByteInteger :
    Accepts (fun code v ↦ VariableByteInteger.Code code v.val) parseVariableByteInteger := by
  refine ⟨fun {data v n} ↦ ?_⟩
  rw [← VariableByteInteger.accepts_decodeStream, parseVariableByteInteger]
  cases VariableByteInteger.decodeStream data with
  | ok v' m => exact validated_eq_ok.trans (by simp)
  | incomplete => simp
  | err => simp

theorem accepts_parseStringPair :
    Accepts (.exactly fun v : MqttString × MqttString ↦ v.1.asBytes ++ v.2.asBytes)
      parseStringPair := by
  refine ⟨fun {data v n} ↦ ⟨?_, ?_⟩⟩
  · intro h
    obtain ⟨⟨key, k⟩, hkey, h⟩ := Fallible.bind_eq_ok.mp h
    obtain ⟨_, rest, rfl, rfl, rfl⟩ := MqttString.accepts_decode.iff.mp hkey
    have hat := (At.start (key.asBytes ++ rest)).next
    rw [Nat.zero_add] at hat
    dsimp only at h
    rw [hat.sliceFrom_eq, Fallible.ok_bind] at h
    obtain ⟨⟨val, m⟩, hval, h⟩ := Fallible.bind_eq_ok.mp h
    obtain ⟨_, rest, rfl, rfl, rfl⟩ := MqttString.accepts_decode.iff.mp hval
    cases h
    exact ⟨_, rest, (List.append_assoc _ _ _).symm, List.length_append.symm, rfl⟩
  · rintro ⟨_, rest, rfl, rfl, rfl⟩
    have hkey := MqttString.accepts_decode.complete rfl (v.2.asBytes ++ rest) (a := v.1)
    have hval := MqttString.accepts_decode.complete rfl rest (a := v.2)
    have hat := (At.start (v.1.asBytes ++ (v.2.asBytes ++ rest))).next
    rw [Nat.zero_add] at hat
    rw [List.append_assoc, parseStringPair, hkey, Fallible.ok_bind]
    dsimp only
    rw [hat.sliceFrom_eq, Fallible.ok_bind, hval, List.length_append]
    rfl

def toBuffers (p : Property) : List Bytes :=
  [p.id.toU8] :: match p with
    | payloadFormatIndicator v | requestProblemInformation v | requestResponseInformation v
    | maximumQos v | retainAvailable v | wildcardSubscriptionAvailable v
    | subscriptionIdentifierAvailable v | sharedSubscriptionAvailable v => [[v.val]]
    | messageExpiryInterval v | sessionExpiryInterval v | willDelayInterval v => [U32.toBeBytes v]
    | contentType v | responseTopic v | assignedClientIdentifier v | authenticationMethod v
    | responseInformation v | serverReference v | reasonString v => v.toBuffers
    | correlationData v | authenticationData v => v.toBuffers
    | subscriptionIdentifier v => [v.val.asBytes]
    | serverKeepAlive v | topicAliasMaximum v => [U16.toBeBytes v]
    | receiveMaximum v | topicAlias v => [U16.toBeBytes v.val]
    | userProperty v => v.1.toBuffers ++ v.2.toBuffers
    | maximumPacketSize v => [U32.toBeBytes v.val]

def valueBytes : Property → Bytes
  | payloadFormatIndicator v | requestProblemInformation v | requestResponseInformation v
  | maximumQos v | retainAvailable v | wildcardSubscriptionAvailable v
  | subscriptionIdentifierAvailable v | sharedSubscriptionAvailable v => [v.val]
  | messageExpiryInterval v | sessionExpiryInterval v | willDelayInterval v => U32.toBeBytes v
  | contentType v | responseTopic v | assignedClientIdentifier v | authenticationMethod v
  | responseInformation v | serverReference v | reasonString v => v.toContinuousBuffer
  | correlationData v | authenticationData v => v.toContinuousBuffer
  | subscriptionIdentifier v => v.val.asBytes
  | serverKeepAlive v | topicAliasMaximum v => U16.toBeBytes v
  | receiveMaximum v | topicAlias v => U16.toBeBytes v.val
  | userProperty v => v.1.toContinuousBuffer ++ v.2.toContinuousBuffer
  | maximumPacketSize v => U32.toBeBytes v.val

def toContinuousBuffer (p : Property) : Bytes := p.id.toU8 :: p.valueBytes

/-- The codes of the value: only a subscription identifier has more than one. -/
def ValueCode (code : Bytes) (p : Property) : Prop :=
  match p with
  | subscriptionIdentifier v => VariableByteInteger.Code code v.val
  | p => code = p.valueBytes

def Code : Format UInt8 Property :=
  fun code p ↦ ∃ value, code = p.id.toU8 :: value ∧ ValueCode value p

theorem tagged_eq_ok {α : Type} {property : α → Property} {x : Fallible MqttError (α × ℕ)}
    {p : Property} {n : ℕ} :
    tagged property x = .ok (p, n) ↔ ∃ a m, x = .ok (a, m) ∧ p = property a ∧ n = m + 1 := by
  constructor
  · intro ht
    obtain ⟨⟨a, m⟩, hp, ht⟩ := Fallible.bind_eq_ok.mp ht
    cases ht
    exact ⟨a, m, hp, rfl, rfl⟩
  · rintro ⟨a, m, rfl, rfl, rfl⟩
    rfl

theorem tagged_sound {α : Type} {G : Format UInt8 α} {property : α → Property} {id : PropertyId}
    {parse : Bytes → Fallible MqttError (α × ℕ)} (h : Accepts G parse) {data : Bytes}
    {p : Property} {n : ℕ} (ht : tagged property (parse data) = .ok (p, n))
    (hid : ∀ a, (property a).id = id)
    (hcode : ∀ code a, G code a → ValueCode code (property a)) :
    p.id = id ∧ ∃ code rest, data = code ++ rest ∧ n = code.length + 1 ∧ ValueCode code p := by
  obtain ⟨a, m, hx, rfl, rfl⟩ := tagged_eq_ok.mp ht
  obtain ⟨code, rest, rfl, rfl, hG⟩ := h.iff.mp hx
  exact ⟨hid a, code, rest, rfl, rfl, hcode code a hG⟩

theorem tagged_complete {α : Type} {G : Format UInt8 α} {property : α → Property}
    {parse : Bytes → Fallible MqttError (α × ℕ)} (h : Accepts G parse) {code : Bytes} {a : α}
    (hG : G code a) (rest : Bytes) :
    tagged property (parse (code ++ rest)) = .ok (property a, code.length + 1) :=
  tagged_eq_ok.mpr ⟨a, _, h.complete hG rest, rfl, rfl⟩

theorem accepts_parseFlag : Accepts (.exactly fun v : Flag ↦ [v.val]) parseFlag :=
  accepts_validated accepts_parseU8

theorem parseValue_sound {id : PropertyId} {data : Bytes} {p : Property} {n : ℕ}
    (h : parseValue id data = .ok (p, n)) :
    p.id = id ∧ ∃ code rest, data = code ++ rest ∧ n = code.length + 1 ∧ ValueCode code p := by
  cases id with
  | payloadFormatIndicator | requestProblemInformation | requestResponseInformation
  | maximumQos | retainAvailable | wildcardSubscriptionAvailable
  | subscriptionIdentifierAvailable | sharedSubscriptionAvailable =>
    exact tagged_sound accepts_parseFlag h (fun _ ↦ rfl) (fun _ _ h ↦ h)
  | messageExpiryInterval | sessionExpiryInterval | willDelayInterval =>
    exact tagged_sound accepts_parseU32 h (fun _ ↦ rfl) (fun _ _ h ↦ h)
  | contentType | responseTopic | assignedClientIdentifier | authenticationMethod
  | responseInformation | serverReference | reasonString =>
    exact tagged_sound MqttString.accepts_decode h (fun _ ↦ rfl) (fun _ _ h ↦ h)
  | correlationData | authenticationData =>
    exact tagged_sound MqttBinary.accepts_decode h (fun _ ↦ rfl) (fun _ _ h ↦ h)
  | subscriptionIdentifier =>
    exact tagged_sound accepts_parseVariableByteInteger h (fun _ ↦ rfl) (fun _ _ h ↦ h)
  | serverKeepAlive | topicAliasMaximum =>
    exact tagged_sound accepts_parseU16 h (fun _ ↦ rfl) (fun _ _ h ↦ h)
  | receiveMaximum | topicAlias =>
    exact tagged_sound (accepts_validated accepts_parseU16) h (fun _ ↦ rfl) (fun _ _ h ↦ h)
  | userProperty =>
    exact tagged_sound accepts_parseStringPair h (fun _ ↦ rfl) (fun _ _ h ↦ h)
  | maximumPacketSize =>
    exact tagged_sound (accepts_validated accepts_parseU32) h (fun _ ↦ rfl) (fun _ _ h ↦ h)

theorem parseValue_complete {p : Property} {code : Bytes} (h : ValueCode code p) (rest : Bytes) :
    parseValue p.id (code ++ rest) = .ok (p, code.length + 1) := by
  cases p with
  | payloadFormatIndicator | requestProblemInformation | requestResponseInformation
  | maximumQos | retainAvailable | wildcardSubscriptionAvailable
  | subscriptionIdentifierAvailable | sharedSubscriptionAvailable =>
    exact tagged_complete accepts_parseFlag h rest
  | messageExpiryInterval | sessionExpiryInterval | willDelayInterval =>
    exact tagged_complete accepts_parseU32 h rest
  | contentType | responseTopic | assignedClientIdentifier | authenticationMethod
  | responseInformation | serverReference | reasonString =>
    exact tagged_complete MqttString.accepts_decode h rest
  | correlationData | authenticationData =>
    exact tagged_complete MqttBinary.accepts_decode h rest
  | subscriptionIdentifier =>
    exact tagged_complete accepts_parseVariableByteInteger h rest
  | serverKeepAlive | topicAliasMaximum =>
    exact tagged_complete accepts_parseU16 h rest
  | receiveMaximum | topicAlias =>
    exact tagged_complete (accepts_validated accepts_parseU16) h rest
  | userProperty =>
    exact tagged_complete accepts_parseStringPair h rest
  | maximumPacketSize =>
    exact tagged_complete (accepts_validated accepts_parseU32) h rest

theorem toU8_of_tryFrom {b : UInt8} {id : PropertyId} (h : PropertyId.tryFrom b = some id) :
    id.toU8 = b := by
  unfold PropertyId.tryFrom at h
  split at h <;> cases h <;> exact UInt8.toNat_inj.mp (Eq.symm ‹_›)

theorem tryFrom_toU8 (id : PropertyId) : PropertyId.tryFrom id.toU8 = some id := by
  cases id <;> rfl

theorem accepts_parse : Accepts Code parse := by
  refine ⟨fun {data p n} ↦ ⟨?_, ?_⟩⟩
  · intro h
    cases data with
    | nil => cases h
    | cons b rest =>
      cases hid : PropertyId.tryFrom b with
      | none => simp [parse, Fallible.require, index, hid] at h
      | some id =>
        have hat : At (b :: rest) 1 rest := ⟨[b], rfl, rfl⟩
        simp only [parse, Fallible.require, index, ne_eq, reduceCtorEq, not_false_eq_true, if_true,
          Fallible.ok_bind, List.getElem?_cons_zero, hid, hat.sliceFrom_eq] at h
        obtain ⟨rfl, code, rest, rfl, rfl, hG⟩ := parseValue_sound h
        exact ⟨b :: code, rest, rfl, rfl, code, by rw [toU8_of_tryFrom hid], hG⟩
  · rintro ⟨_, rest, rfl, rfl, value, rfl, hG⟩
    have hat : At (p.id.toU8 :: (value ++ rest)) 1 (value ++ rest) := ⟨[p.id.toU8], rfl, rfl⟩
    simp only [parse, Fallible.require, index, ne_eq, reduceCtorEq, not_false_eq_true, if_true,
      Fallible.ok_bind, List.getElem?_cons_zero, tryFrom_toU8, hat.sliceFrom_eq, List.cons_append]
    exact parseValue_complete hG rest

theorem Code.ne_nil {code : Bytes} {p : Property} (h : Code code p) : code ≠ [] := by
  obtain ⟨value, rfl, -⟩ := h
  exact List.cons_ne_nil _ _

theorem length_valueBytes (p : Property) : p.valueBytes.length + 1 = p.size := by
  cases p with
  | payloadFormatIndicator | requestProblemInformation | requestResponseInformation | maximumQos
  | retainAvailable | wildcardSubscriptionAvailable | subscriptionIdentifierAvailable
  | sharedSubscriptionAvailable => rfl
  | messageExpiryInterval | sessionExpiryInterval | willDelayInterval | serverKeepAlive
  | topicAliasMaximum | receiveMaximum | topicAlias | maximumPacketSize => rfl
  | contentType v | responseTopic v | assignedClientIdentifier v | authenticationMethod v
  | responseInformation v | serverReference v | reasonString v =>
    exact (Nat.add_comm _ _).trans (congrArg (1 + ·) v.length_asBytes)
  | correlationData v | authenticationData v =>
    exact (Nat.add_comm _ _).trans (congrArg (1 + ·) v.length_asBytes)
  | subscriptionIdentifier v => exact Nat.add_comm _ _
  | userProperty v =>
    have h₁ := v.1.length_asBytes
    have h₂ := v.2.length_asBytes
    simp only [valueBytes, MqttString.toContinuousBuffer, List.length_append, size]
    omega

theorem length_toContinuousBuffer (p : Property) : p.toContinuousBuffer.length = p.size :=
  p.length_valueBytes

theorem flatten_toBuffers (p : Property) : p.toBuffers.flatten = p.toContinuousBuffer := by
  cases p <;> simp only [toBuffers, toContinuousBuffer, valueBytes, MqttString.toBuffers,
    MqttString.toContinuousBuffer, MqttBinary.toBuffers, MqttBinary.toContinuousBuffer,
    List.flatten_cons, List.flatten_nil, List.append_nil, List.cons_append, List.nil_append]

theorem valueCode_valueBytes (p : Property) : ValueCode p.valueBytes p := by
  cases p with
  | subscriptionIdentifier v => exact VariableByteInteger.shortest.code trivial
  | _ => rfl

/-- Only the value of a subscription identifier can be longer than it needs to be. -/
theorem length_valueCode {code : Bytes} {p : Property} (h : ValueCode code p) :
    p.valueBytes.length ≤ code.length ∧ (code.length = p.valueBytes.length → code = p.valueBytes) := by
  cases p with
  | subscriptionIdentifier v =>
    exact ⟨VariableByteInteger.shortest.le h, VariableByteInteger.shortest.unique h⟩
  | _ => exact ⟨Nat.le_of_eq (congrArg List.length h).symm, fun _ ↦ h⟩

theorem shortest : Shortest Code (fun _ ↦ True) toContinuousBuffer where
  code {p} _ := ⟨p.valueBytes, rfl, p.valueCode_valueBytes⟩
  valid _ := trivial
  le hG := by
    obtain ⟨value, rfl, h⟩ := hG
    exact Nat.succ_le_succ (length_valueCode h).1
  unique hG hlen := by
    obtain ⟨value, rfl, h⟩ := hG
    rw [(length_valueCode h).2 (Nat.succ.inj hlen), toContinuousBuffer]

end Property

namespace Properties

def toBuffers (props : Properties) : List Bytes := props.flatMap Property.toBuffers

def toContinuousBuffer (props : Properties) : Bytes := props.flatMap Property.toContinuousBuffer

theorem flatten_toBuffers (props : Properties) :
    props.toBuffers.flatten = props.toContinuousBuffer := by
  induction props with
  | nil => rfl
  | cons p props ih =>
    rw [toBuffers, List.flatMap_cons, List.flatten_append, p.flatten_toBuffers]
    exact congrArg (p.toContinuousBuffer ++ ·) ih

theorem length_toContinuousBuffer (props : Properties) :
    props.toContinuousBuffer.length = props.size := by
  induction props with
  | nil => rfl
  | cons p props ih =>
    rw [toContinuousBuffer, List.flatMap_cons, List.length_append, p.length_toContinuousBuffer]
    exact congrArg (p.size + ·) ih

theorem parseLoop_end {data : Bytes} {propsEnd fuel cursor : ℕ} {acc props : Properties} {n : ℕ}
    (hend : propsEnd = cursor + ([] : Bytes).length) :
    parseLoop data propsEnd fuel cursor acc = .ok (props, n) ↔
      ∃ props', props = acc ++ props' ∧ Property.Code.listOf [] props' ∧ n = propsEnd := by
  have hlt : ¬ cursor < propsEnd := by
    rw [hend]
    exact Nat.lt_irrefl _
  unfold parseLoop
  rw [if_neg hlt]
  constructor
  · intro h
    cases h
    exact ⟨[], (List.append_nil _).symm, .nil, hend.symm⟩
  · rintro ⟨props', rfl, hG, rfl⟩
    rw [(Format.listOf_nil_iff Property.Code.ne_nil).mp hG, List.append_nil, hend]
    rfl

/-- The loop reads properties as long as bytes are left of the section. -/
theorem parseLoop_eq_ok {data rest : Bytes} {propsEnd fuel : ℕ} : ∀ {cursor : ℕ}
    {middle : Bytes} {acc props : Properties} {n : ℕ}, At data cursor (middle ++ rest) →
    propsEnd = cursor + middle.length → middle.length ≤ fuel →
    (parseLoop data propsEnd fuel cursor acc = .ok (props, n) ↔
      ∃ props', props = acc ++ props' ∧ Property.Code.listOf middle props' ∧ n = propsEnd) := by
  induction fuel with
  | zero =>
    intro cursor middle acc props n hat hend hfuel
    obtain rfl := List.length_eq_zero_iff.mp (Nat.le_zero.mp hfuel)
    exact parseLoop_end hend
  | succ fuel ih =>
    intro cursor middle acc props n hat hend hfuel
    cases middle with
    | nil => exact parseLoop_end hend
    | cons b middle =>
      obtain ⟨_, hslice⟩ := hat.slice_eq (ε := MqttError) propsEnd hend
      have hlt : cursor < propsEnd := by
        rw [hend, List.length_cons]
        omega
      rw [parseLoop, if_pos hlt, hslice]
      dsimp only
      rw [Fallible.ok_bind]
      constructor
      · intro h
        obtain ⟨⟨p, c⟩, hp, h⟩ := Fallible.bind_eq_ok.mp h
        obtain ⟨code, middle', hm, rfl, hG⟩ := Property.accepts_parse.iff.mp hp
        dsimp only at hm
        have hpos := List.length_pos_iff.mpr hG.ne_nil
        have hlen := congrArg List.length hm
        rw [List.length_append] at hlen
        rw [hm, List.append_assoc] at hat
        rw [hm, List.length_append, ← Nat.add_assoc] at hend
        obtain ⟨props', rfl, hGs, rfl⟩ := (ih hat.next hend (by omega)).mp h
        exact ⟨p :: props', List.append_assoc _ _ _, hm ▸ .cons hG hGs, rfl⟩
      · rintro ⟨props', rfl, hGs, rfl⟩
        generalize hm : b :: middle = m at *
        cases hGs with
        | nil => cases hm
        | @cons code codes p ps hG hGs =>
          have hpos := List.length_pos_iff.mpr hG.ne_nil
          rw [List.length_append] at hfuel
          rw [List.append_assoc] at hat
          rw [List.length_append, ← Nat.add_assoc] at hend
          rw [Property.accepts_parse.complete hG codes, Fallible.ok_bind]
          exact (ih hat.next hend (by omega)).mpr
            ⟨ps, (List.append_assoc acc [p] ps).symm, hGs, rfl⟩

def Section : Format UInt8 Properties :=
  fun code props ↦ ∃ len codes, code = len ++ codes ∧ Property.Code.listOf codes props ∧
    ∃ v, VariableByteInteger.Code len v ∧ v.toU32 = codes.length

theorem accepts_parse : Accepts Section parse := by
  refine ⟨fun {data props n} ↦ ⟨fun h ↦ ?_, ?_⟩⟩
  · have hne : data ≠ [] := by
      rintro rfl
      cases h
    rw [parse, Fallible.require, if_pos hne, Fallible.ok_bind] at h
    cases hd : VariableByteInteger.decodeStream data with
    | incomplete => simp [hd] at h
    | err => simp [hd] at h
    | ok v consumed =>
      obtain ⟨len, tail, rfl, rfl, hv⟩ := VariableByteInteger.accepts_decodeStream.mp hd
      rw [hd] at h
      dsimp only at h
      split at h
      · rename_i hzero
        cases h
        exact ⟨len, tail, rfl, rfl, len, [], (List.append_nil _).symm, .nil, v, hv, hzero⟩
      · by_cases hle : v.toU32 ≤ tail.length
        · obtain ⟨middle, rest, rfl, hm⟩ := exists_append_of_le hle
          have hat := (At.start (len ++ (middle ++ rest))).next
          rw [Nat.zero_add] at hat
          rw [Fallible.require, if_pos (by rw [List.length_append]; omega), Fallible.ok_bind,
            parseLoop_eq_ok hat (by rw [hm]) (by omega)] at h
          obtain ⟨props', rfl, hG, rfl⟩ := h
          refine ⟨len ++ middle, rest, (List.append_assoc _ _ _).symm, ?_, len, middle, rfl, hG, v,
            hv, hm.symm⟩
          rw [List.length_append, hm]
        · rw [Fallible.require, if_neg (by rw [List.length_append]; omega)] at h
          cases h
  · rintro ⟨_, rest, rfl, rfl, len, middle, rfl, hG, v, hv, hm⟩
    have hdec := VariableByteInteger.accepts_decodeStream.mpr
      ⟨len, middle ++ rest, rfl, rfl, hv⟩
    have hne : len ++ (middle ++ rest) ≠ [] := List.append_ne_nil_of_left_ne_nil hv.1.ne_nil _
    rw [List.append_assoc, parse, Fallible.require, if_pos hne, Fallible.ok_bind, hdec]
    dsimp only
    split
    · rename_i hzero
      obtain rfl := List.length_eq_zero_iff.mp (hm.symm.trans hzero)
      rw [(Format.listOf_nil_iff Property.Code.ne_nil).mp hG, List.append_nil, Fallible.pure_eq]
    · have hat := (At.start (len ++ (middle ++ rest))).next
      rw [Nat.zero_add] at hat
      rw [Fallible.require, if_pos (by simp only [List.length_append]; omega), Fallible.ok_bind,
        parseLoop_eq_ok hat (by rw [hm]) (by omega)]
      exact ⟨props, rfl, hG, by rw [List.length_append, hm]⟩

end Properties

end MqttProtocolCore.Packet
