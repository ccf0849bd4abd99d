import Mathlib.Data.Fintype.Option
import MqttProtocolCore.Packet.Codec.Wire

namespace MqttProtocolCore.Packet

open General

section Flags

def willQos (connectFlags : UInt8) : Qos :=
  (Qos.tryFrom ((connectFlags >>> 3) &&& 0x03)).getD .atMostOnce

def willRetain (connectFlags : UInt8) : Bool := connectFlags &&& 0b00100000 ≠ 0

def cleanSessionFlag (connectFlags : UInt8) : Bool := connectFlags &&& 0b00000010 ≠ 0

def willBits (qos : Qos) (retain : Bool) : Fin 8 :=
  match qos, retain with
  | .atMostOnce, false => 0
  | .atLeastOnce, false => 1
  | .exactlyOnce, false => 2
  | .atMostOnce, true => 4
  | .atLeastOnce, true => 5
  | .exactlyOnce, true => 6

/-- The connect flags for what there is; `will` holds the bits of the will. -/
def connectFlagsOf (cleanSession : Bool) (will : Option (Fin 8)) (userName password : Bool) :
    UInt8 :=
  let cleanSession : UInt8 := if cleanSession then 0b00000010 else 0
  let willBits : UInt8 := UInt8.ofNat (will.getD 0).val <<< 3
  let will : UInt8 := if will.isSome then 0b00000100 ||| willBits else 0
  let userName : UInt8 := if userName then 0b10000000 else 0
  let password : UInt8 := if password then 0b01000000 else 0
  cleanSession ||| will ||| userName ||| password

theorem flags_connectFlagsOf : ∀ cleanSession will userName password,
    cleanSessionFlag (connectFlagsOf cleanSession will userName password) = cleanSession ∧
    willFlag (connectFlagsOf cleanSession will userName password) = will.isSome ∧
    userNameFlag (connectFlagsOf cleanSession will userName password) = userName ∧
    passwordFlag (connectFlagsOf cleanSession will userName password) = password := by
  decide +kernel

theorem will_connectFlagsOf : ∀ cleanSession bits userName password,
    (connectFlagsOf cleanSession (some bits) userName password >>> 3) &&& 0x07 =
      UInt8.ofNat bits.val := by
  decide +kernel

theorem connectFlagsOf_set : ∀ cleanSession will userName password,
    connectFlagsOf cleanSession will userName password ||| 0b00000010 =
      connectFlagsOf true will userName password ∧
    connectFlagsOf cleanSession will userName password &&& ~~~0b00000010 =
      connectFlagsOf false will userName password ∧
    connectFlagsOf cleanSession will userName password ||| 0b10000000 =
      connectFlagsOf cleanSession will true password ∧
    connectFlagsOf cleanSession will userName password ||| 0b01000000 =
      connectFlagsOf cleanSession will userName true := by
  decide +kernel

def setWillFlags (flags : UInt8) (qos : Qos) (retain : Bool) : UInt8 :=
  let qos : UInt8 := qos.toU8 <<< 3
  let flags := flags ||| 0b00000100 ||| qos
  if retain then flags ||| 0b00100000 else flags

theorem setWillFlags_connectFlagsOf (qos : Qos) (retain : Bool) :
    ∀ cleanSession will userName password,
      setWillFlags (connectFlagsOf cleanSession will userName password) qos retain =
        connectFlagsOf cleanSession (some (will.getD 0 ||| willBits qos retain)) userName
          password := by
  cases qos <;> cases retain <;> decide +kernel

end Flags

structure ConnectBuilder where
  connectFlagsBuf : Option UInt8
  keepAliveBuf : Option U16
  clientIdBuf : Option MqttString
  willTopicBuf : Option MqttString
  willPayloadBuf : Option MqttBinary
  userNameBuf : Option MqttString
  passwordBuf : Option MqttBinary

namespace ConnectBuilder

def new : ConnectBuilder := ⟨none, none, none, none, none, none, none⟩

def clientId (b : ConnectBuilder) (id : Utf8String) : Fallible MqttError ConnectBuilder := do
  return { b with clientIdBuf := some (← .ofExcept (MqttString.new id)) }

/-- The flags start at 0 here, and with a clean session in the other setters. -/
def cleanSession (b : ConnectBuilder) (clean : Bool) : ConnectBuilder :=
  let flags := b.connectFlagsBuf.getD 0
  { b with
    connectFlagsBuf := some (if clean then flags ||| 0b00000010 else flags &&& ~~~0b00000010) }

def willMessage (b : ConnectBuilder) (topic : Utf8String) (payload : Bytes) (qos : Qos)
    (retain : Bool) : Fallible MqttError ConnectBuilder := do
  let willTopic ← .ofExcept (MqttString.new topic)
  let willPayload ← .ofExcept (MqttBinary.new payload)
  return { b with
    willTopicBuf := some willTopic
    willPayloadBuf := some willPayload
    connectFlagsBuf := some (setWillFlags (b.connectFlagsBuf.getD 0b00000010) qos retain) }

def userName (b : ConnectBuilder) (name : Utf8String) : Fallible MqttError ConnectBuilder := do
  return { b with
    userNameBuf := some (← .ofExcept (MqttString.new name))
    connectFlagsBuf := some (b.connectFlagsBuf.getD 0b00000010 ||| 0b10000000) }

def password (b : ConnectBuilder) (pwd : Bytes) : Fallible MqttError ConnectBuilder := do
  return { b with
    passwordBuf := some (← .ofExcept (MqttBinary.new pwd))
    connectFlagsBuf := some (b.connectFlagsBuf.getD 0b00000010 ||| 0b01000000) }

def keepAlive (b : ConnectBuilder) (seconds : U16) : ConnectBuilder :=
  { b with keepAliveBuf := some seconds }

def flags (b : ConnectBuilder) : UInt8 := b.connectFlagsBuf.getD 0b00000010

def validate (b : ConnectBuilder) : Fallible MqttError Unit := do
  .require (¬ (passwordFlag b.flags ∧ ¬ userNameFlag b.flags)) .protocolError
  .require (willFlag b.flags → b.willTopicBuf.isSome ∧ b.willPayloadBuf.isSome) .malformedPacket

end ConnectBuilder

inductive ConnectCall where
  | clientId (id : Utf8String)
  | cleanSession (clean : Bool)
  | willMessage (topic : Utf8String) (payload : Bytes) (qos : Qos) (retain : Bool)
  | userName (name : Utf8String)
  | password (pwd : Bytes)
  | keepAlive (seconds : U16)

def ConnectBuilder.call (b : ConnectBuilder) : ConnectCall → Fallible MqttError ConnectBuilder
  | .clientId id => b.clientId id
  | .cleanSession clean => .ok (b.cleanSession clean)
  | .willMessage topic payload qos retain => b.willMessage topic payload qos retain
  | .userName name => b.userName name
  | .password pwd => b.password pwd
  | .keepAlive seconds => .ok (b.keepAlive seconds)

structure Will where
  topic : Utf8String
  payload : Bytes
  qos : Qos
  retain : Bool
deriving DecidableEq

/-- What the calls of the setters ask for: the last value for each field. -/
structure ConnectFields where
  clientId : Utf8String
  cleanSession : Bool
  keepAlive : U16
  will : Option Will
  userName : Option Utf8String
  password : Option Bytes
deriving DecidableEq

namespace ConnectFields

def initial : ConnectFields := ⟨.empty, true, 0, none, none, none⟩

def accept (f : ConnectFields) : ConnectCall → ConnectFields
  | .clientId id => { f with clientId := id }
  | .cleanSession clean => { f with cleanSession := clean }
  | .willMessage topic payload qos retain => { f with will := some ⟨topic, payload, qos, retain⟩ }
  | .userName name => { f with userName := some name }
  | .password pwd => { f with password := some pwd }
  | .keepAlive seconds => { f with keepAlive := seconds }

end ConnectFields

def addWillBits (bits : Option (Fin 8)) : ConnectCall → Option (Fin 8)
  | .willMessage _ _ qos retain => some (bits.getD 0 ||| willBits qos retain)
  | _ => bits

/-- The builder stores what was asked for. The bits of the wills are added up. -/
structure ConnectBuilder.Holds (b : ConnectBuilder) (f : ConnectFields) (bits : Option (Fin 8)) :
    Prop where
  flags : b.flags = connectFlagsOf f.cleanSession bits f.userName.isSome f.password.isSome
  clientId : (b.clientIdBuf.getD .default).str = f.clientId
  keepAlive : b.keepAliveBuf.getD 0 = f.keepAlive
  willTopic : b.willTopicBuf.map MqttString.str = f.will.map Will.topic
  willPayload : b.willPayloadBuf.map MqttBinary.data = f.will.map Will.payload
  userName : b.userNameBuf.map MqttString.str = f.userName
  password : b.passwordBuf.map MqttBinary.data = f.password

theorem MqttString.new_eq_ok {s : Utf8String} {v : MqttString} :
    (Fallible.ofExcept (MqttString.new s) : Fallible MqttError MqttString) = .ok v ↔ v.str = s := by
  unfold MqttString.new
  split
  · rename_i h
    constructor
    · intro hv
      cases hv
    · intro hv
      have := v.short
      rw [hv] at this
      omega
  · constructor
    · intro hv
      cases hv
      rfl
    · rintro rfl
      rfl

theorem MqttBinary.new_eq_ok {data : Bytes} {v : MqttBinary} :
    (Fallible.ofExcept (MqttBinary.new data) : Fallible MqttError MqttBinary) = .ok v ↔
      v.data = data := by
  unfold MqttBinary.new
  split
  · rename_i h
    constructor
    · intro hv
      cases hv
    · intro hv
      have := v.short
      rw [hv] at this
      omega
  · constructor
    · intro hv
      cases hv
      rfl
    · rintro rfl
      rfl

theorem ConnectBuilder.holds_new : new.Holds .initial none :=
  ⟨rfl, rfl, rfl, rfl, rfl, rfl, rfl⟩

/-- Where the flags start does not matter to `clean_session`, which sets the one that differs. -/
theorem ConnectBuilder.Holds.cleanSession {b : ConnectBuilder} {f : ConnectFields}
    {bits : Option (Fin 8)} (h : b.Holds f bits) (clean : Bool) :
    (b.cleanSession clean).Holds { f with cleanSession := clean } bits := by
  have hflags : (b.cleanSession clean).flags =
      if clean then b.flags ||| 0b00000010 else b.flags &&& ~~~0b00000010 := by
    unfold ConnectBuilder.cleanSession ConnectBuilder.flags
    cases b.connectFlagsBuf with
    | some flags => rfl
    | none => cases clean <;> rfl
  obtain ⟨hset, hclear, -, -⟩ :=
    connectFlagsOf_set f.cleanSession bits f.userName.isSome f.password.isSome
  refine ⟨?_, h.clientId, h.keepAlive, h.willTopic, h.willPayload, h.userName, h.password⟩
  rw [hflags, h.flags]
  cases clean with
  | true => exact hset
  | false => exact hclear

theorem ConnectBuilder.Holds.call {b b' : ConnectBuilder} {f : ConnectFields}
    {bits : Option (Fin 8)} (h : b.Holds f bits) {c : ConnectCall} (hc : b.call c = .ok b') :
    b'.Holds (f.accept c) (addWillBits bits c) := by
  obtain ⟨-, -, huser, hpass⟩ :=
    connectFlagsOf_set f.cleanSession bits f.userName.isSome f.password.isSome
  cases c with
  | clientId id =>
    obtain ⟨v, hv, hb⟩ := Fallible.bind_eq_ok.mp hc
    cases hb
    exact ⟨h.flags, MqttString.new_eq_ok.mp hv, h.keepAlive, h.willTopic, h.willPayload,
      h.userName, h.password⟩
  | cleanSession clean =>
    cases hc
    exact h.cleanSession clean
  | willMessage topic payload qos retain =>
    obtain ⟨t, ht, hb⟩ := Fallible.bind_eq_ok.mp hc
    obtain ⟨v, hv, hb⟩ := Fallible.bind_eq_ok.mp hb
    cases hb
    refine ⟨?_, h.clientId, h.keepAlive, ?_, ?_, h.userName, h.password⟩
    · change setWillFlags b.flags qos retain = _
      rw [h.flags, setWillFlags_connectFlagsOf]
      rfl
    · exact congrArg some (MqttString.new_eq_ok.mp ht)
    · exact congrArg some (MqttBinary.new_eq_ok.mp hv)
  | userName name =>
    obtain ⟨v, hv, hb⟩ := Fallible.bind_eq_ok.mp hc
    cases hb
    refine ⟨?_, h.clientId, h.keepAlive, h.willTopic, h.willPayload, ?_, h.password⟩
    · change b.flags ||| 0b10000000 = _
      rw [h.flags, huser]
      rfl
    · exact congrArg some (MqttString.new_eq_ok.mp hv)
  | password pwd =>
    obtain ⟨v, hv, hb⟩ := Fallible.bind_eq_ok.mp hc
    cases hb
    refine ⟨?_, h.clientId, h.keepAlive, h.willTopic, h.willPayload, h.userName, ?_⟩
    · change b.flags ||| 0b01000000 = _
      rw [h.flags, hpass]
      rfl
    · exact congrArg some (MqttBinary.new_eq_ok.mp hv)
  | keepAlive seconds =>
    cases hc
    exact ⟨h.flags, h.clientId, rfl, h.willTopic, h.willPayload, h.userName, h.password⟩

def ConnectBuilder.calls (b : ConnectBuilder) (cs : List ConnectCall) :
    Fallible MqttError ConnectBuilder := cs.foldlM ConnectBuilder.call b

theorem ConnectBuilder.Holds.calls {cs : List ConnectCall} : ∀ {b b' : ConnectBuilder}
    {f : ConnectFields} {bits : Option (Fin 8)}, b.Holds f bits → b.calls cs = .ok b' →
      b'.Holds (cs.foldl ConnectFields.accept f) (cs.foldl addWillBits bits) := by
  induction cs with
  | nil =>
    intro b b' f bits h hc
    cases hc
    exact h
  | cons c cs ih =>
    intro b b' f bits h hc
    rw [ConnectBuilder.calls, List.foldlM_cons] at hc
    obtain ⟨b₁, hb, hc⟩ := Fallible.bind_eq_ok.mp hc
    exact ih (h.call hb) hc

/-- Every call for a will asks for a quality of service and a retain flag that the last one asks
for too. -/
def WillsAgree (cs : List ConnectCall) : Prop :=
  ∀ w ∈ (cs.foldl ConnectFields.accept .initial).will, ∀ topic payload qos retain,
    ConnectCall.willMessage topic payload qos retain ∈ cs →
      (qos = .atMostOnce ∨ qos = w.qos) ∧ (retain → w.retain)

section WillBits

theorem or_absorb_iff : ∀ a b x : Fin 8, (a ||| b) ||| x = x ↔ a ||| x = x ∧ b ||| x = x := by
  decide +kernel

theorem or_eq_of_absorb : ∀ a b : Fin 8, a ||| b = b → b ||| a = a → a = b := by
  decide +kernel

theorem absorb_or : ∀ a b : Fin 8, b ||| (a ||| b) = a ||| b ∧ a ||| a = a := by
  decide +kernel

theorem willBits_absorb_iff (qos qos' : Qos) (retain retain' : Bool) :
    willBits qos retain ||| willBits qos' retain' = willBits qos' retain' ↔
      (qos = .atMostOnce ∨ qos = qos') ∧ (retain → retain') := by
  cases qos <;> cases qos' <;> cases retain <;> cases retain' <;> decide

theorem addWillBits_absorb_iff (x : Fin 8) : ∀ (cs : List ConnectCall) (bits : Option (Fin 8)),
    (∀ b ∈ cs.foldl addWillBits bits, b ||| x = x) ↔ (∀ b ∈ bits, b ||| x = x) ∧
      ∀ topic payload qos retain, ConnectCall.willMessage topic payload qos retain ∈ cs →
        willBits qos retain ||| x = x := by
  intro cs
  induction cs with
  | nil =>
    intro bits
    exact ⟨fun h ↦ ⟨h, nofun⟩, fun h ↦ h.1⟩
  | cons c cs ih =>
    intro bits
    rw [List.foldl_cons, ih]
    have hzero : ∀ x : Fin 8, 0 ||| x = x := by decide
    have hfirst : (∀ b ∈ addWillBits bits c, b ||| x = x) ↔ (∀ b ∈ bits, b ||| x = x) ∧
        ∀ topic payload qos retain, c = .willMessage topic payload qos retain →
          willBits qos retain ||| x = x := by
      cases c with
      | willMessage topic payload qos retain =>
        simp only [addWillBits, Option.mem_def, Option.some.injEq, forall_eq', or_absorb_iff]
        cases bits <;> simp [hzero, and_comm]
      | _ => exact ⟨fun h ↦ ⟨h, nofun⟩, fun h ↦ h.1⟩
    rw [hfirst, and_assoc]
    refine and_congr_right fun _ ↦ ⟨?_, ?_⟩
    · intro h topic payload qos retain hmem
      rcases List.mem_cons.mp hmem with heq | hmem
      · exact h.1 topic payload qos retain heq.symm
      · exact h.2 topic payload qos retain hmem
    · intro h
      refine ⟨fun topic payload qos retain heq ↦ ?_, fun topic payload qos retain hmem ↦ ?_⟩
      · exact h topic payload qos retain (List.mem_cons.mpr (.inl heq.symm))
      · exact h topic payload qos retain (List.mem_cons_of_mem _ hmem)

structure HoldsLast (f : ConnectFields) (bits : Option (Fin 8)) : Prop where
  isSome : bits.isSome = f.will.isSome
  last : ∀ w ∈ f.will, willBits w.qos w.retain ||| bits.getD 0 = bits.getD 0

theorem HoldsLast.foldl {cs : List ConnectCall} : ∀ {f : ConnectFields} {bits : Option (Fin 8)},
    HoldsLast f bits →
      HoldsLast (cs.foldl ConnectFields.accept f) (cs.foldl addWillBits bits) := by
  induction cs with
  | nil => exact id
  | cons c cs ih =>
    intro f bits h
    apply ih
    cases c with
    | willMessage topic payload qos retain =>
      refine ⟨rfl, fun w hw ↦ ?_⟩
      cases hw
      exact (absorb_or _ _).1
    | _ => exact ⟨h.isSome, h.last⟩

/-- The bits of the will are those of the last call exactly when the calls agree. -/
theorem willsAgree_iff (cs : List ConnectCall) :
    cs.foldl addWillBits none = (cs.foldl ConnectFields.accept .initial).will.map
      (fun w ↦ willBits w.qos w.retain) ↔ WillsAgree cs := by
  have hlast : HoldsLast (cs.foldl ConnectFields.accept .initial) (cs.foldl addWillBits none) :=
    HoldsLast.foldl ⟨rfl, nofun⟩
  unfold WillsAgree
  cases hw : (cs.foldl ConnectFields.accept .initial).will with
  | none =>
    have hnone : cs.foldl addWillBits none = none := by
      have hsome := hlast.isSome
      rw [hw, Option.isSome_none] at hsome
      exact Option.isNone_iff_eq_none.mp (Option.isSome_eq_false_iff.mp hsome)
    rw [hnone]
    exact ⟨fun _ ↦ nofun, fun _ ↦ rfl⟩
  | some w =>
    obtain ⟨acc, hacc⟩ : ∃ acc, cs.foldl addWillBits none = some acc := by
      apply Option.isSome_iff_exists.mp
      rw [hlast.isSome, hw]
      rfl
    have habsorb := addWillBits_absorb_iff (willBits w.qos w.retain) cs none
    have hin := hlast.last w hw
    rw [hacc] at habsorb hin ⊢
    simp only [Option.map_some, Option.some.injEq, Option.mem_def, forall_eq',
      ← willBits_absorb_iff] at habsorb ⊢
    constructor
    · intro heq
      apply (habsorb.mp ?_).2
      rw [heq]
      exact (absorb_or _ 0).2
    · intro h
      exact or_eq_of_absorb _ _ (habsorb.mpr ⟨nofun, h⟩) hin

end WillBits

section Wire

variable {b : ConnectBuilder} {f : ConnectFields} {bits : Option (Fin 8)}

theorem ConnectBuilder.Holds.willFlag (h : b.Holds f bits) : willFlag b.flags = bits.isSome := by
  rw [h.flags]
  exact (flags_connectFlagsOf _ _ _ _).2.1

theorem ConnectBuilder.Holds.userNameFlag (h : b.Holds f bits) :
    userNameFlag b.flags = b.userNameBuf.isSome := by
  rw [h.flags, (flags_connectFlagsOf _ _ _ _).2.2.1, ← h.userName, Option.isSome_map]

theorem ConnectBuilder.Holds.passwordFlag (h : b.Holds f bits) :
    passwordFlag b.flags = b.passwordBuf.isSome := by
  rw [h.flags, (flags_connectFlagsOf _ _ _ _).2.2.2, ← h.password, Option.isSome_map]

def wireWill (connectFlags : UInt8) (topic : MqttString) (payload : MqttBinary) : Option Will :=
  if willFlag connectFlags then
    (Qos.tryFrom ((connectFlags >>> 3) &&& 0x03)).map fun qos ↦
      ⟨topic.asStr, payload.data, qos, willRetain connectFlags⟩
  else none

def wireFields (connectFlags : UInt8) (keepAlive : U16) (clientId willTopic : MqttString)
    (willPayload : MqttBinary) (userName : MqttString) (password : MqttBinary) : ConnectFields :=
  ⟨clientId.asStr, cleanSessionFlag connectFlags, keepAlive,
    wireWill connectFlags willTopic willPayload,
    if userNameFlag connectFlags then some userName.asStr else none,
    if passwordFlag connectFlags then some password.data else none⟩

def ConnectBuilder.fields (b : ConnectBuilder) : ConnectFields :=
  wireFields b.flags (b.keepAliveBuf.getD 0) (b.clientIdBuf.getD .default)
    (b.willTopicBuf.getD .default) (b.willPayloadBuf.getD .default) (b.userNameBuf.getD .default)
    (b.passwordBuf.getD .default)

theorem willBits_connectFlagsOf (qos : Qos) (retain : Bool) : ∀ cleanSession bits userName password,
    Qos.tryFrom ((connectFlagsOf cleanSession (some bits) userName password >>> 3) &&& 0x03) =
        some qos ∧
      willRetain (connectFlagsOf cleanSession (some bits) userName password) = retain ↔
    bits = willBits qos retain := by
  cases qos <;> cases retain <;> decide +kernel

theorem ConnectBuilder.Holds.wireWill_eq_iff (h : b.Holds f bits)
    (hbits : bits.isSome = f.will.isSome) :
    wireWill b.flags (b.willTopicBuf.getD .default) (b.willPayloadBuf.getD .default) = f.will ↔
      bits = f.will.map fun w ↦ willBits w.qos w.retain := by
  have htopic := h.willTopic
  have hpayload := h.willPayload
  rw [wireWill, h.willFlag]
  cases hw : f.will with
  | none =>
    rw [hw] at hbits
    cases bits with
    | none => exact ⟨fun _ ↦ rfl, fun _ ↦ rfl⟩
    | some b => cases hbits
  | some w =>
    rw [hw] at hbits htopic hpayload
    cases bits with
    | none => cases hbits
    | some acc =>
      obtain ⟨topic, htopic, ht⟩ := Option.map_eq_some_iff.mp htopic
      obtain ⟨payload, hpayload, hp⟩ := Option.map_eq_some_iff.mp hpayload
      rw [htopic, hpayload, h.flags, Option.map_some, Option.some.injEq,
        ← willBits_connectFlagsOf w.qos w.retain f.cleanSession acc f.userName.isSome
          f.password.isSome]
      obtain ⟨topic', payload', qos, retain⟩ := w
      cases ht
      cases hp
      simp [MqttString.asStr, Option.map_eq_some_iff]

/-- The packet carries what was asked for exactly when the calls for a will agree. -/
theorem ConnectBuilder.fields_eq_iff {cs : List ConnectCall} (hc : new.calls cs = .ok b) :
    b.fields = cs.foldl ConnectFields.accept .initial ↔ WillsAgree cs := by
  have h := ConnectBuilder.holds_new.calls hc
  have hlast : HoldsLast (cs.foldl ConnectFields.accept .initial) (cs.foldl addWillBits none) :=
    HoldsLast.foldl ⟨rfl, nofun⟩
  rw [← willsAgree_iff, ← h.wireWill_eq_iff hlast.isSome]
  generalize cs.foldl ConnectFields.accept .initial = f at *
  have hclean : cleanSessionFlag b.flags = f.cleanSession := by
    rw [h.flags]
    exact (flags_connectFlagsOf _ _ _ _).1
  have huser : (if Packet.userNameFlag b.flags then some (b.userNameBuf.getD .default).asStr
      else none) = f.userName := by
    rw [h.userNameFlag, ← h.userName]
    cases b.userNameBuf <;> rfl
  have hpass : (if Packet.passwordFlag b.flags then some (b.passwordBuf.getD .default).data
      else none) = f.password := by
    rw [h.passwordFlag, ← h.password]
    cases b.passwordBuf <;> rfl
  constructor
  · intro heq
    exact congrArg ConnectFields.will heq
  · intro hwill
    rw [fields, wireFields, hclean, huser, hpass, hwill, h.keepAlive]
    obtain ⟨_, _, _, _, _, _⟩ := f
    congr 1
    exact h.clientId

theorem ConnectBuilder.willFlag_of_calls {cs : List ConnectCall} (hc : new.calls cs = .ok b) :
    Packet.willFlag b.flags = (cs.foldl ConnectFields.accept .initial).will.isSome := by
  have hlast : HoldsLast (cs.foldl ConnectFields.accept .initial) (cs.foldl addWillBits none) :=
    HoldsLast.foldl ⟨rfl, nofun⟩
  rw [(ConnectBuilder.holds_new.calls hc).willFlag, hlast.isSome]

theorem ConnectBuilder.no_will_of_calls {cs : List ConnectCall} (hc : new.calls cs = .ok b)
    (hflag : Packet.willFlag b.flags = false) : b.willTopicBuf = none ∧ b.willPayloadBuf = none := by
  have h := ConnectBuilder.holds_new.calls hc
  have hnone : (cs.foldl ConnectFields.accept .initial).will = none := by
    apply Option.isNone_iff_eq_none.mp
    rw [← Option.isSome_eq_false_iff, ← willFlag_of_calls hc]
    exact hflag
  have htopic := h.willTopic
  have hpayload := h.willPayload
  rw [hnone] at htopic hpayload
  exact ⟨Option.map_eq_none_iff.mp htopic, Option.map_eq_none_iff.mp hpayload⟩

theorem ConnectBuilder.hasCredentials_of_calls {cs : List ConnectCall}
    (hc : new.calls cs = .ok b) (hv : b.validate = .ok ()) :
    HasCredentials b.flags (b.userNameBuf.getD .default, b.passwordBuf.getD .default) := by
  have h := ConnectBuilder.holds_new.calls hc
  obtain ⟨⟨⟩, hflags, -⟩ := Fallible.bind_eq_ok.mp hv
  refine ⟨fun huser ↦ ?_, fun hpass ↦ ?_, Fallible.require_eq_ok.mp hflags⟩
  · rw [h.userNameFlag] at huser
    rw [Option.isNone_iff_eq_none.mp (Option.isSome_eq_false_iff.mp huser)]
    rfl
  · rw [h.passwordFlag] at hpass
    rw [Option.isNone_iff_eq_none.mp (Option.isSome_eq_false_iff.mp hpass)]
    rfl

end Wire

end MqttProtocolCore.Packet
