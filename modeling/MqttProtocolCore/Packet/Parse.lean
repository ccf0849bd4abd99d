import MqttProtocolCore.Packet.Property

namespace MqttProtocolCore.Packet

open General

variable {α β : Type}

/-- `VariableByteInteger::from_u32(n as u32).unwrap()`; the cast keeps the low 32 bits. -/
def lengthOf (n : ℕ) : Fallible MqttError VariableByteInteger :=
  match VariableByteInteger.fromU32 (n % 4294967296) with
  | some v => .ok v
  | none => .panic

def packetSize (remainingLength : VariableByteInteger) : ℕ :=
  1 + remainingLength.size + remainingLength.toU32

/-- `parse(&data[cursor..])?; cursor += consumed`. -/
def parseAt (parse : Bytes → Fallible MqttError (α × ℕ)) (data : Bytes) (cursor : ℕ) :
    Fallible MqttError (α × ℕ) := do
  let (v, consumed) ← parse (← sliceFrom data cursor)
  return (v, cursor + consumed)

/-- `parse(..).map_err(|_| e)`. -/
def mapErr (e : MqttError) (x : Fallible MqttError α) : Fallible MqttError α :=
  match x with
  | .ok v => .ok v
  | .err _ => .err e
  | .panic => .panic

def parseIf (flag : Bool) (default : α) (parse : Bytes → Fallible MqttError (α × ℕ)) (data : Bytes)
    (cursor : ℕ) : Fallible MqttError (α × ℕ) :=
  if flag then parseAt parse data cursor else .ok (default, cursor)

def parsePacketId (w : IdWidth) (data : Bytes) : Fallible MqttError (PacketId w × ℕ) := do
  .require (w.bufferSize ≤ data.length) .malformedPacket
  let buf ← slice data 0 w.bufferSize
  return (PacketId.fromBuffer w buf.val, w.bufferSize)

/-- A packet identifier that may not be zero. -/
def parseNonZeroPacketId (w : IdWidth) (data : Bytes) :
    Fallible MqttError ({id : PacketId w // id ≠ 0} × ℕ) := do
  let (id, n) ← parsePacketId w data
  if h : id ≠ 0 then return (⟨id, h⟩, n) else .err .malformedPacket

/-- The loop over the entries up to the end of the body; `fuel` is the number of bytes. -/
def parseEntries (parseEntry : Bytes → Fallible MqttError (α × ℕ)) (data : Bytes) :
    ℕ → ℕ → List α → Fallible MqttError (List α × ℕ)
  | fuel, cursor, entries =>
    if cursor < data.length then
      match fuel with
      | 0 => .panic
      | fuel + 1 => do
        let (entry, cursor) ← parseAt parseEntry data cursor
        parseEntries parseEntry data fuel cursor (entries ++ [entry])
    else .ok (entries, cursor)

class ReasonCode (C : Type) where
  tryFrom : UInt8 → Option C

instance : ReasonCode PubackReasonCode := ⟨PubackReasonCode.tryFrom⟩

instance : ReasonCode PubrecReasonCode := ⟨PubrecReasonCode.tryFrom⟩

instance : ReasonCode PubrelReasonCode := ⟨PubrelReasonCode.tryFrom⟩

instance : ReasonCode PubcompReasonCode := ⟨PubcompReasonCode.tryFrom⟩

instance : ReasonCode DisconnectReasonCode := ⟨DisconnectReasonCode.tryFrom⟩

instance : ReasonCode AuthReasonCode := ⟨AuthReasonCode.tryFrom⟩

instance : ReasonCode SubackReturnCode := ⟨SubackReturnCode.tryFrom⟩

instance : ReasonCode SubackReasonCode := ⟨SubackReasonCode.tryFrom⟩

instance : ReasonCode UnsubackReasonCode := ⟨UnsubackReasonCode.tryFrom⟩

def parseCode (C : Type) [ReasonCode C] (data : Bytes) : Fallible MqttError (C × ℕ) := do
  match ReasonCode.tryFrom (← index data 0) with
  | some code => return (code, 1)
  | none => .err .malformedPacket

def parseReasonCode (C : Type) [ReasonCode C] (data : Bytes) (cursor : ℕ) :
    Fallible MqttError (Option C × ℕ) :=
  if cursor < data.length then do
    match ReasonCode.tryFrom (← index data cursor) with
    | some code => return (some code, cursor + 1)
    | none => .err .malformedPacket
  else .ok (none, cursor)

structure PublishHeader where
  dup : Bool
  qos : Qos
  retain : Bool
deriving DecidableEq

namespace PublishHeader

def default : PublishHeader := ⟨false, .atMostOnce, false⟩

/-- The flags of a PUBLISH; a quality of service of 3 is malformed. -/
def parse (flags : UInt8) : Fallible MqttError PublishHeader :=
  match Qos.tryFrom ((flags >>> 1) &&& 0b00000011) with
  | some qos => .ok ⟨flags &&& 0b00001000 ≠ 0, qos, flags &&& 0b00000001 ≠ 0⟩
  | none => .err .malformedPacket

end PublishHeader

/-- The packet identifier of a PUBLISH, present exactly when the quality of service asks for it. -/
abbrev PublishId (w : IdWidth) (qos : Qos) :=
  {id : Option (PacketId w) // id.isSome ↔ qos ≠ .atMostOnce}

def PublishId.size {w : IdWidth} {qos : Qos} (id : PublishId w qos) : ℕ :=
  if id.val.isSome then w.bufferSize else 0

def PublishId.check {w : IdWidth} (qos : Qos) (id : Option (PacketId w)) :
    Fallible MqttError (PublishId w qos) :=
  if h : id.isSome ↔ qos ≠ .atMostOnce then
    if id = some 0 then .err .malformedPacket else .ok ⟨id, h⟩
  else .err .malformedPacket

def parsePublishId (w : IdWidth) (qos : Qos) (data : Bytes) (cursor : ℕ) :
    Fallible MqttError (PublishId w qos × ℕ) :=
  if h : qos = .atMostOnce then .ok (⟨none, by simp [h]⟩, cursor)
  else do
    .require (cursor + w.bufferSize ≤ data.length) .malformedPacket
    let buf ← slice data cursor (cursor + w.bufferSize)
    return (⟨some (PacketId.fromBuffer w buf.val), by simp [h]⟩, cursor + w.bufferSize)

def parseConnectHeader (version : UInt8) (data : Bytes) :
    Fallible MqttError ((UInt8 × U16) × ℕ) := do
  .require (6 ≤ data.length) .malformedPacket
  let name ← slice data 0 6
  .require (name.val = [0x00, 0x04, 0x4D, 0x51, 0x54, 0x54]) .protocolError
  .require (7 ≤ data.length) .malformedPacket
  .require ((← index data 6) = version) .unsupportedProtocolVersion
  .require (8 ≤ data.length) .malformedPacket
  let connectFlags ← index data 7
  .require (10 ≤ data.length) .malformedPacket
  return ((connectFlags, U16.fromBeBytes (← index data 8) (← index data 9)), 10)

def willFlag (connectFlags : UInt8) : Bool := connectFlags &&& 0b00000100 ≠ 0

def userNameFlag (connectFlags : UInt8) : Bool := connectFlags &&& 0b10000000 ≠ 0

def passwordFlag (connectFlags : UInt8) : Bool := connectFlags &&& 0b01000000 ≠ 0

def parseCredentials (connectFlags : UInt8) (data : Bytes) (cursor : ℕ) :
    Fallible MqttError ((MqttString × MqttBinary) × ℕ) := do
  let (userName, cursor) ← parseIf (userNameFlag connectFlags) .default
    (fun d ↦ mapErr .badUserNameOrPassword (MqttString.decode d)) data cursor
  let (password, cursor) ← parseIf (passwordFlag connectFlags) .default
    (fun d ↦ mapErr .badUserNameOrPassword (MqttBinary.decode d)) data cursor
  .require (¬ (passwordFlag connectFlags ∧ ¬ userNameFlag connectFlags)) .protocolError
  return ((userName, password), cursor)

/-- The properties that a packet admits: those of `single` once, those of `multiple` any number of
times. -/
def validateProperties (single multiple : List PropertyId) (props : Properties) :
    Fallible MqttError Unit :=
  if (∀ p ∈ props, p.id ∈ single ∨ p.id ∈ multiple) ∧
      ∀ id ∈ single, (props.map Property.id).count id ≤ 1 then .ok ()
  else .err .protocolError

def parseProperties (validate : Properties → Fallible MqttError Unit) (data : Bytes) (cursor : ℕ) :
    Fallible MqttError ((VariableByteInteger × Properties) × ℕ) := do
  let (props, cursor) ← parseAt Properties.parse data cursor
  validate props
  return ((← lengthOf props.size, props), cursor)

def parseReasonProperties (C : Type) [ReasonCode C]
    (validate : Properties → Fallible MqttError Unit) (data : Bytes) (cursor : ℕ) :
    Fallible MqttError ((Option C × Option (VariableByteInteger × Properties)) × ℕ) := do
  let (reasonCode, cursor) ← parseReasonCode C data cursor
  if reasonCode.isSome ∧ cursor < data.length then
    let (section', cursor) ← parseProperties validate data cursor
    return ((reasonCode, some section'), cursor)
  else return ((reasonCode, none), cursor)

def reasonSize {C : Type} (r : Option C × Option (VariableByteInteger × Properties)) : ℕ :=
  (if r.1.isSome then 1 else 0) + r.2.elim 0 fun s ↦ s.1.size + s.2.size

/-- The subscription options: two reserved bits, retain handling and quality of service below 3. -/
structure SubOpts where
  subOptsBuf : UInt8
  valid : subOptsBuf &&& 0b11000000 = 0 ∧ subOptsBuf &&& 0b00000011 ≤ 2 ∧
    (subOptsBuf &&& 0b00110000) >>> 4 ≤ 2
deriving DecidableEq

def SubOpts.fromU8 (value : UInt8) : Except MqttError SubOpts :=
  if h : value &&& 0b11000000 = 0 ∧ value &&& 0b00000011 ≤ 2 ∧ (value &&& 0b00110000) >>> 4 ≤ 2 then
    .ok ⟨value, h⟩
  else .error .malformedPacket

structure SubEntry where
  topicFilter : MqttString
  subOpts : SubOpts
deriving DecidableEq

namespace SubEntry

def size (e : SubEntry) : ℕ := e.topicFilter.size + 1

def parse (data : Bytes) : Fallible MqttError (SubEntry × ℕ) := do
  let (topicFilter, cursor) ← MqttString.decode data
  .require (cursor < data.length) .malformedPacket
  let subOpts ← Fallible.ofExcept (SubOpts.fromU8 (← index data cursor))
  return (⟨topicFilter, subOpts⟩, cursor + 1)

end SubEntry

def entriesSize (size : α → ℕ) (entries : List α) : ℕ := (entries.map size).sum

section Safety

variable {size : α → ℕ} {data : Bytes} {cursor : ℕ}

/-- A parser that goes on from `cursor`. -/
def ParsesFrom (size : α → ℕ) (data : Bytes) (cursor : ℕ) (x : Fallible MqttError (α × ℕ)) : Prop :=
  x.Yields fun r ↦ cursor + size r.1 ≤ r.2 ∧ r.2 ≤ data.length

theorem exists_lengthOf {n : ℕ} (h : n ≤ VariableByteInteger.max) :
    ∃ v, lengthOf n = .ok v ∧ v.toU32 = n := by
  have hmod : n % 4294967296 = n := Nat.mod_eq_of_lt (by rw [VariableByteInteger.max] at h; omega)
  rw [lengthOf, hmod, VariableByteInteger.fromU32_eq h]
  exact ⟨_, rfl, VariableByteInteger.toU32_of_fromU32 (VariableByteInteger.fromU32_eq h)⟩

theorem yields_lengthOf {n : ℕ} (h : n ≤ VariableByteInteger.max) :
    (lengthOf n).Yields fun v ↦ v.toU32 = n := by
  obtain ⟨v, hv, hn⟩ := exists_lengthOf h
  simpa [hv] using hn

theorem packetSize_eq (v : VariableByteInteger) :
    packetSize v = 1 + VariableByteInteger.sizeOf v.toU32 + v.toU32 := by
  rw [packetSize, VariableByteInteger.size_eq_sizeOf]

theorem parsesFrom_parseAt {parse : Bytes → Fallible MqttError (α × ℕ)}
    (h : ∀ d, d.length = data.length - cursor → Parses size d (parse d))
    (hc : cursor ≤ data.length) : ParsesFrom size data cursor (parseAt parse data cursor) := by
  refine (yields_sliceFrom hc).bind fun d hd ↦ (h d hd).bind fun r hr ↦ ?_
  simp only [Fallible.pure_eq, Fallible.yields_ok]
  omega

theorem parses_mapErr {e : MqttError} {x : Fallible MqttError (α × ℕ)} (h : Parses size data x) :
    Parses size data (mapErr e x) := by
  cases x with
  | ok v => exact h
  | err => trivial
  | panic => exact h.elim

theorem parsesFrom_parseIf {flag : Bool} {default : α} {parse : Bytes → Fallible MqttError (α × ℕ)}
    (h : ∀ d, Parses size d (parse d)) (hc : cursor ≤ data.length) :
    ParsesFrom (fun _ ↦ 0) data cursor (parseIf flag default parse data cursor) := by
  unfold parseIf
  split
  · refine (parsesFrom_parseAt (fun d _ ↦ h d) hc).mono fun r hr ↦ ?_
    dsimp only
    omega
  · exact ⟨le_rfl, hc⟩

theorem parses_parsePacketId (w : IdWidth) (data : Bytes) :
    Parses (fun _ ↦ w.bufferSize) data (parsePacketId w data) := by
  refine Fallible.yields_require.bind fun _ h ↦ ?_
  exact (yields_slice (by omega) h).bind fun _ _ ↦ ⟨le_rfl, h⟩

theorem parses_parseNonZeroPacketId (w : IdWidth) (data : Bytes) :
    Parses (fun _ ↦ w.bufferSize) data (parseNonZeroPacketId w data) := by
  refine (parses_parsePacketId w data).bind fun r hr ↦ ?_
  obtain ⟨id, n⟩ := r
  dsimp only
  split
  · exact hr
  · trivial

theorem parsesFrom_parseEntries {parseEntry : Bytes → Fallible MqttError (α × ℕ)}
    (h : ∀ d, 1 ≤ d.length → Parses size d (parseEntry d)) (hpos : ∀ a, 1 ≤ size a) :
    ∀ {fuel cursor : ℕ}
    {entries : List α}, data.length ≤ cursor + fuel → cursor ≤ data.length →
    (parseEntries parseEntry data fuel cursor entries).Yields fun r ↦
      entriesSize size r.1 + cursor ≤ r.2 + entriesSize size entries ∧ r.2 ≤ data.length := by
  intro fuel
  induction fuel with
  | zero =>
    intro cursor entries hf hc
    rw [parseEntries, if_neg (by omega)]
    refine ⟨?_, hc⟩
    dsimp only
    omega
  | succ fuel ih =>
    intro cursor entries hf hc
    rw [parseEntries]
    split
    · refine (parsesFrom_parseAt (fun d hd ↦ h d (by omega)) hc).bind fun r hr ↦ ?_
      have := hpos r.1
      refine (ih (by omega) hr.2).mono fun r' hr' ↦ ⟨?_, hr'.2⟩
      have hr1 := hr'.1
      simp only [entriesSize, List.map_append, List.sum_append, List.map_cons, List.map_nil,
        List.sum_singleton] at hr1 ⊢
      omega
    · refine ⟨?_, hc⟩
      dsimp only
      omega

theorem parses_parseCode (C : Type) [ReasonCode C] (h : 1 ≤ data.length) :
    Parses (fun _ ↦ 1) data (parseCode C data) := by
  refine (yields_index h).bind fun b _ ↦ ?_
  cases (ReasonCode.tryFrom b : Option C) with
  | none => trivial
  | some code => exact ⟨le_rfl, h⟩

theorem parsesFrom_parseReasonCode (C : Type) [ReasonCode C] (hc : cursor ≤ data.length) :
    ParsesFrom (fun code ↦ if code.isSome then 1 else 0) data cursor
      (parseReasonCode C data cursor) := by
  unfold parseReasonCode
  split
  · rename_i h
    refine (yields_index h).bind fun b _ ↦ ?_
    cases (ReasonCode.tryFrom b : Option C) with
    | none => trivial
    | some code => exact ⟨le_rfl, h⟩
  · exact ⟨le_rfl, hc⟩

theorem parsesFrom_parsePublishId (w : IdWidth) (qos : Qos) (hc : cursor ≤ data.length) :
    ParsesFrom PublishId.size data cursor (parsePublishId w qos data cursor) := by
  unfold parsePublishId
  split
  · exact ⟨le_rfl, hc⟩
  · refine Fallible.yields_require.bind fun _ h ↦ ?_
    exact (yields_slice (by omega) h).bind fun _ _ ↦ ⟨le_rfl, h⟩

theorem PublishId.size_le {w : IdWidth} {qos : Qos} (id : PublishId w qos) : id.size ≤ 4 := by
  unfold size
  split
  · cases w <;> decide
  · omega

theorem PublishHeader.yields_parse (flags : UInt8) :
    (PublishHeader.parse flags).Yields fun _ ↦ True := by
  unfold PublishHeader.parse
  split <;> trivial

theorem parses_parseConnectHeader (version : UInt8) (data : Bytes) :
    Parses (fun _ ↦ 10) data (parseConnectHeader version data) := by
  refine Fallible.yields_require.bind fun _ h₆ ↦ (yields_slice (by omega) h₆).bind fun _ _ ↦ ?_
  refine Fallible.yields_require.bind fun _ _ ↦ Fallible.yields_require.bind fun _ h₇ ↦ ?_
  refine (yields_index (by omega)).bind fun _ _ ↦ Fallible.yields_require.bind fun _ _ ↦ ?_
  refine Fallible.yields_require.bind fun _ h₈ ↦ (yields_index (by omega)).bind fun _ _ ↦ ?_
  refine Fallible.yields_require.bind fun _ h₁₀ ↦ ?_
  refine (yields_index (by omega)).bind fun _ _ ↦ (yields_index (by omega)).bind fun _ _ ↦ ?_
  exact ⟨le_rfl, h₁₀⟩

theorem parsesFrom_parseCredentials (connectFlags : UInt8) (hc : cursor ≤ data.length) :
    ParsesFrom (fun _ ↦ 0) data cursor (parseCredentials connectFlags data cursor) := by
  refine (parsesFrom_parseIf (fun d ↦ parses_mapErr (MqttString.parses_decode d)) hc).bind
    fun r hr ↦ ?_
  refine (parsesFrom_parseIf (fun d ↦ parses_mapErr (MqttBinary.parses_decode d)) hr.2).bind
    fun r' hr' ↦ Fallible.yields_require.bind fun _ _ ↦ ⟨?_, hr'.2⟩
  dsimp only
  omega

theorem yields_validateProperties (single multiple : List PropertyId) (props : Properties) :
    (validateProperties single multiple props).Yields fun _ ↦ True := by
  unfold validateProperties
  split <;> trivial

theorem parsesFrom_parseProperties {validate : Properties → Fallible MqttError Unit}
    (hv : ∀ props, (validate props).Yields fun _ ↦ True) (hmax : data.length ≤ VariableByteInteger.max)
    (hc : cursor ≤ data.length) : ParsesFrom (fun s ↦ s.1.size + s.2.size) data cursor
      (parseProperties validate data cursor) := by
  refine (parsesFrom_parseAt (fun d _ ↦ Properties.parses_parse d) hc).bind fun r hr ↦ ?_
  obtain ⟨props, n⟩ := r
  refine (hv props).bind fun _ _ ↦ (yields_lengthOf ?_).bind fun l hl ↦ ⟨?_, hr.2⟩
  · simp only [Properties.sectionSize] at hr
    omega
  · simpa [VariableByteInteger.size_eq_sizeOf, hl, Properties.sectionSize] using hr.1

theorem parsesFrom_parseReasonProperties (C : Type) [ReasonCode C]
    {validate : Properties → Fallible MqttError Unit}
    (hv : ∀ props, (validate props).Yields fun _ ↦ True) (hmax : data.length ≤ VariableByteInteger.max)
    (hc : cursor ≤ data.length) : ParsesFrom reasonSize data cursor
      (parseReasonProperties C validate data cursor) := by
  refine (parsesFrom_parseReasonCode C hc).bind fun r hr ↦ ?_
  obtain ⟨code, n⟩ := r
  dsimp only
  split
  · refine (parsesFrom_parseProperties hv hmax hr.2).bind fun s hs ↦ ⟨?_, hs.2⟩
    simp only [reasonSize, Option.elim_some] at hr hs ⊢
    omega
  · exact ⟨by simpa [reasonSize] using hr.1, hr.2⟩

theorem SubEntry.parses_parse (data : Bytes) : Parses SubEntry.size data (SubEntry.parse data) := by
  refine (MqttString.parses_decode data).bind fun r hr ↦ Fallible.yields_require.bind fun _ h ↦ ?_
  refine (yields_index h).bind fun b _ ↦ ?_
  cases SubOpts.fromU8 b with
  | error => trivial
  | ok o =>
    have := hr.1
    exact ⟨by simp only [SubEntry.size]; omega, h⟩

theorem SubEntry.one_le_size (e : SubEntry) : 1 ≤ e.size := by
  simp [SubEntry.size]

theorem MqttString.one_le_size (s : MqttString) : 1 ≤ s.size := by
  simp only [MqttString.size]
  omega

end Safety

end MqttProtocolCore.Packet
