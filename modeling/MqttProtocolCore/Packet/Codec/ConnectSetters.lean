import MqttProtocolCore.General.LastWrite
import MqttProtocolCore.Packet.Codec.RebuildConnect

namespace MqttProtocolCore.Packet

open General

/-- The setters that both CONNECT builders have; `clean_start` is `clean_session`. -/
inductive ConnectSetter where
  | clientId | cleanSession | willMessage | userName | password | keepAlive
deriving DecidableEq

namespace ConnectCall

def kind : ConnectCall → ConnectSetter
  | clientId _ => .clientId
  | cleanSession _ => .cleanSession
  | willMessage _ _ _ _ => .willMessage
  | userName _ => .userName
  | password _ => .password
  | keepAlive _ => .keepAlive

end ConnectCall

theorem overwrites_accept : Overwrites ConnectCall.kind ConnectFields.accept where
  same {f a b} h := by
    cases a <;> cases b <;> first | rfl | cases h
  other {f a b} h := by
    cases a <;> cases b <;> first | rfl | exact (h rfl).elim

namespace ConnectBuilder

theorem exists_call_of {b₁ b₂ b : ConnectBuilder} {c : ConnectCall} (h : b₁.call c = .ok b₂) :
    ∃ b', b.call c = .ok b' := by
  cases c with
  | clientId id =>
    obtain ⟨v, hv, -⟩ := Fallible.bind_eq_ok.mp h
    exact ⟨_, Fallible.bind_eq_ok.mpr ⟨v, hv, rfl⟩⟩
  | cleanSession clean => exact ⟨_, rfl⟩
  | willMessage topic payload qos retain =>
    obtain ⟨t, ht, h⟩ := Fallible.bind_eq_ok.mp h
    obtain ⟨v, hv, -⟩ := Fallible.bind_eq_ok.mp h
    exact ⟨_, Fallible.bind_eq_ok.mpr ⟨t, ht, Fallible.bind_eq_ok.mpr ⟨v, hv, rfl⟩⟩⟩
  | userName name =>
    obtain ⟨v, hv, -⟩ := Fallible.bind_eq_ok.mp h
    exact ⟨_, Fallible.bind_eq_ok.mpr ⟨v, hv, rfl⟩⟩
  | password pwd =>
    obtain ⟨v, hv, -⟩ := Fallible.bind_eq_ok.mp h
    exact ⟨_, Fallible.bind_eq_ok.mpr ⟨v, hv, rfl⟩⟩
  | keepAlive seconds => exact ⟨_, rfl⟩

theorem exists_call_of_calls {cs : List ConnectCall} : ∀ {b₁ b₂ : ConnectBuilder},
    b₁.calls cs = .ok b₂ → ∀ c ∈ cs, ∀ b : ConnectBuilder, ∃ b', b.call c = .ok b' := by
  induction cs with
  | nil =>
    intro b₁ b₂ _ c hc
    cases hc
  | cons c cs ih =>
    intro b₁ b₂ h c' hc' b
    rw [calls, List.foldlM_cons] at h
    obtain ⟨b₃, hb₃, h⟩ := Fallible.bind_eq_ok.mp h
    cases List.mem_cons.mp hc' with
    | inl heq =>
      rw [heq]
      exact exists_call_of hb₃
    | inr hmem => exact ih h c' hmem b

theorem exists_calls {cs : List ConnectCall}
    (h : ∀ c ∈ cs, ∀ b : ConnectBuilder, ∃ b', b.call c = .ok b') :
    ∀ b : ConnectBuilder, ∃ b', b.calls cs = .ok b' := by
  induction cs with
  | nil =>
    intro b
    exact ⟨b, rfl⟩
  | cons c cs ih =>
    intro b
    obtain ⟨b₁, hb₁⟩ := h c List.mem_cons_self b
    obtain ⟨b₂, hb₂⟩ := ih (fun c' hc' ↦ h c' (List.mem_cons_of_mem c hc')) b₁
    refine ⟨b₂, ?_⟩
    rw [calls, List.foldlM_cons, hb₁]
    exact hb₂

theorem exists_calls_lastOnly {cs : List ConnectCall} {b : ConnectBuilder}
    (h : new.calls cs = .ok b) :
    ∃ b', new.calls (lastOnly ConnectCall.kind cs) = .ok b' :=
  exists_calls (fun c hc ↦ exists_call_of_calls h c (lastOnly_subset hc)) new

end ConnectBuilder

theorem will_foldl_of_not_mem {cs : List ConnectCall} {f : ConnectFields}
    (h : ConnectSetter.willMessage ∉ cs.map ConnectCall.kind) :
    (cs.foldl ConnectFields.accept f).will = f.will := by
  induction cs generalizing f with
  | nil => rfl
  | cons c cs ih =>
    rw [List.map_cons, List.mem_cons, not_or] at h
    rw [List.foldl_cons, ih h.2]
    cases c with
    | willMessage => exact (h.1 rfl).elim
    | _ => rfl

theorem willsAgree_lastOnly (cs : List ConnectCall) :
    WillsAgree (lastOnly ConnectCall.kind cs) := by
  intro w hw topic payload qos retain hmem
  rw [overwrites_accept.foldl_lastOnly] at hw
  obtain ⟨front, back, rfl, hback⟩ := exists_of_mem_lastOnly hmem
  rw [List.foldl_append, List.foldl_cons, will_foldl_of_not_mem hback] at hw
  cases hw
  exact ⟨.inr rfl, id⟩

def ConnectFields.flags (f : ConnectFields) : UInt8 :=
  connectFlagsOf f.cleanSession (f.will.map fun w ↦ willBits w.qos w.retain) f.userName.isSome
    f.password.isSome

/-- The builder that the last calls leave holds what all calls ask for. -/
theorem holds_lastOnly {cs : List ConnectCall} {b : ConnectBuilder}
    (h : ConnectBuilder.new.calls (lastOnly ConnectCall.kind cs) = .ok b) :
    b.Holds (cs.foldl ConnectFields.accept .initial)
      ((cs.foldl ConnectFields.accept .initial).will.map fun w ↦ willBits w.qos w.retain) := by
  have hb := ConnectBuilder.holds_new.calls h
  rwa [(willsAgree_iff _).mpr (willsAgree_lastOnly cs), overwrites_accept.foldl_lastOnly] at hb

/-- The flags of a builder are those that the last calls ask for exactly when the calls for a will
agree. -/
theorem ConnectBuilder.flags_eq_iff {cs : List ConnectCall} {b : ConnectBuilder}
    (h : new.calls cs = .ok b) :
    b.flags = (cs.foldl ConnectFields.accept .initial).flags ↔ WillsAgree cs := by
  have hlast : HoldsLast (cs.foldl ConnectFields.accept .initial) (cs.foldl addWillBits none) :=
    HoldsLast.foldl ⟨rfl, nofun⟩
  have hsome := hlast.isSome
  rw [← willsAgree_iff, (holds_new.calls h).flags, ConnectFields.flags]
  generalize cs.foldl ConnectFields.accept .initial = f at *
  generalize cs.foldl addWillBits none = bits at *
  constructor
  · intro hflags
    cases bits with
    | none =>
      rw [Option.isSome_none] at hsome
      rw [Option.isNone_iff_eq_none.mp (Option.isSome_eq_false_iff.mp hsome.symm), Option.map_none]
    | some acc =>
      obtain ⟨w, hw⟩ := Option.isSome_iff_exists.mp hsome.symm
      rw [hw, Option.map_some] at hflags ⊢
      have hread := will_connectFlagsOf f.cleanSession acc f.userName.isSome f.password.isSome
      rw [hflags, will_connectFlagsOf] at hread
      have hval := congrArg UInt8.toNat hread
      rw [UInt8.toNat_ofNat', UInt8.toNat_ofNat'] at hval
      exact congrArg some (Fin.ext (by omega))
  · intro hbits
    rw [hbits]

/-- The connect flags are those of the last calls: a bit is set exactly when its field was given,
and the bits of the will are those of the last will. -/
structure ConnectFields.FlagsAre (f : ConnectFields) (flags : UInt8) : Prop where
  exact : flags = f.flags
  cleanSession : cleanSessionFlag flags = f.cleanSession
  will : willFlag flags = f.will.isSome
  userName : userNameFlag flags = f.userName.isSome
  password : passwordFlag flags = f.password.isSome
  lastWill : ∀ w ∈ f.will,
    Qos.tryFrom ((flags >>> 3) &&& 0x03) = some w.qos ∧ willRetain flags = w.retain
  qosValid : (flags >>> 3) &&& 0x03 ≠ 3

theorem willQos_connectFlagsOf_none : ∀ cleanSession userName password,
    (connectFlagsOf cleanSession none userName password >>> 3) &&& 0x03 ≠ 3 := by
  decide +kernel

theorem ConnectFields.flagsAre_iff {f : ConnectFields} {flags : UInt8} :
    f.FlagsAre flags ↔ flags = f.flags := by
  constructor
  · intro h
    exact h.exact
  · intro h
    obtain ⟨hclean, hwill, huser, hpass⟩ := flags_connectFlagsOf f.cleanSession
      (f.will.map fun w ↦ willBits w.qos w.retain) f.userName.isSome f.password.isSome
    have hlast : ∀ w ∈ f.will,
        Qos.tryFrom ((flags >>> 3) &&& 0x03) = some w.qos ∧ willRetain flags = w.retain := by
      intro w hw
      rw [h, ConnectFields.flags, Option.mem_def.mp hw]
      exact (willBits_connectFlagsOf w.qos w.retain _ _ _ _).mpr rfl
    rw [Option.isSome_map] at hwill
    refine ⟨h, h ▸ hclean, h ▸ hwill, h ▸ huser, h ▸ hpass, hlast, ?_⟩
    cases hw : f.will with
    | none =>
      rw [h, ConnectFields.flags, hw]
      exact willQos_connectFlagsOf_none _ _ _
    | some w =>
      intro hthree
      obtain ⟨hqos, -⟩ := hlast w hw
      rw [hthree] at hqos
      cases hqos

namespace ConnectBuilder

structure SameBuffers (b b' : ConnectBuilder) : Prop where
  clientId : b.clientIdBuf.getD .default = b'.clientIdBuf.getD .default
  keepAlive : b.keepAliveBuf.getD 0 = b'.keepAliveBuf.getD 0
  willTopic : b.willTopicBuf = b'.willTopicBuf
  willPayload : b.willPayloadBuf = b'.willPayloadBuf
  userName : b.userNameBuf = b'.userNameBuf
  password : b.passwordBuf = b'.passwordBuf

variable {b b' : ConnectBuilder} {f : ConnectFields} {bits bits' : Option (Fin 8)}

theorem Holds.sameBuffers (h : b.Holds f bits) (h' : b'.Holds f bits') : b.SameBuffers b' where
  clientId := MqttString.eq_of_str (h.clientId.trans h'.clientId.symm)
  keepAlive := h.keepAlive.trans h'.keepAlive.symm
  willTopic := Option.map_injective (fun _ _ ↦ MqttString.eq_of_str)
    (h.willTopic.trans h'.willTopic.symm)
  willPayload := Option.map_injective (fun _ _ ↦ MqttBinary.eq_of_data)
    (h.willPayload.trans h'.willPayload.symm)
  userName := Option.map_injective (fun _ _ ↦ MqttString.eq_of_str)
    (h.userName.trans h'.userName.symm)
  password := Option.map_injective (fun _ _ ↦ MqttBinary.eq_of_data)
    (h.password.trans h'.password.symm)

theorem SameBuffers.validate_eq (h : b.SameBuffers b') (hflags : b.flags = b'.flags) :
    b.validate = b'.validate := by
  rw [validate, validate, hflags, h.willTopic, h.willPayload]

/-- The last calls leave the same builder as all calls, when these agree about the will. -/
theorem same_of_lastOnly {cs : List ConnectCall} (h : new.calls cs = .ok b)
    (h' : new.calls (lastOnly ConnectCall.kind cs) = .ok b') (hagree : WillsAgree cs) :
    b.SameBuffers b' ∧ b.flags = b'.flags := by
  have hlast := holds_lastOnly h'
  exact ⟨(holds_new.calls h).sameBuffers hlast,
    ((flags_eq_iff h).mpr hagree).trans hlast.flags.symm⟩

end ConnectBuilder

namespace V311.Connect

variable {cs : List ConnectCall} {p : Connect}

/-- The packet is the one built from the last call of each setter, and its flags are theirs. -/
def LastWriteWins (cs : List ConnectCall) (p : Connect) : Prop :=
  (ConnectBuilder.new.calls (lastOnly ConnectCall.kind cs) >>= build) = .ok p ∧
    (cs.foldl ConnectFields.accept .initial).FlagsAre p.connectFlags

theorem lastWriteWins_iff (h : (ConnectBuilder.new.calls cs >>= build) = .ok p) :
    LastWriteWins cs p ↔ WillsAgree cs := by
  obtain ⟨b, hb, hbuild⟩ := Fallible.bind_eq_ok.mp h
  obtain ⟨hv, hp, hr⟩ := build_eq_ok.mp hbuild
  rw [LastWriteWins, ConnectFields.flagsAre_iff, hp.connectFlags, ConnectBuilder.flags_eq_iff hb,
    and_iff_right_iff_imp]
  intro hagree
  obtain ⟨b', hb'⟩ := ConnectBuilder.exists_calls_lastOnly hb
  obtain ⟨hsame, hflags⟩ := ConnectBuilder.same_of_lastOnly hb hb' hagree
  refine Fallible.bind_eq_ok.mpr ⟨b', hb', build_eq_ok.mpr ⟨?_, ?_, hr⟩⟩
  · rw [← hsame.validate_eq hflags, hv]
  · refine ⟨hp.connectFlags.trans hflags, hp.keepAlive.trans hsame.keepAlive,
      hp.clientId.trans hsame.clientId, ?_, ?_, ?_, ?_⟩
    · rw [hp.willTopic, hsame.willTopic]
    · rw [hp.willPayload, hsame.willPayload]
    · rw [hp.userName, hsame.userName]
    · rw [hp.password, hsame.password]

end V311.Connect

namespace V50

inductive ConnectSetter where
  | setter (s : Packet.ConnectSetter)
  | props
  | willProps
deriving DecidableEq

def ConnectCall.kind : ConnectCall → ConnectSetter
  | setter c => .setter c.kind
  | props _ => .props
  | willProps _ => .willProps

theorem overwrites_accept : Overwrites ConnectCall.kind ConnectFields.accept where
  same {f a b} h := by
    cases a <;> cases b <;> first | rfl | cases h | skip
    simp only [ConnectFields.accept]
    rw [Packet.overwrites_accept.same (ConnectSetter.setter.inj h)]
  other {f a b} h := by
    cases a <;> cases b <;> first | rfl | exact (h rfl).elim | skip
    simp only [ConnectFields.accept]
    rw [Packet.overwrites_accept.other fun heq ↦ h (congrArg ConnectSetter.setter heq)]

theorem setters_lastOnly (cs : List ConnectCall) :
    setters (lastOnly ConnectCall.kind cs) = lastOnly Packet.ConnectCall.kind (setters cs) := by
  apply filterMap_lastOnly
  intro a a' c hc
  cases a with
  | setter c₀ =>
    cases hc
    cases a' <;> simp [ConnectCall.kind]
  | _ => cases hc

variable {cs : List ConnectCall} {p : Connect}

theorem exists_calls_of_setters : ∀ {cs : List ConnectCall} {b : ConnectBuilder}
    {c : Packet.ConnectBuilder}, b.toConnectBuilder.calls (setters cs) = .ok c →
      ∃ b', b.calls cs = .ok b' := by
  intro cs
  induction cs with
  | nil =>
    intro b c _
    exact ⟨b, rfl⟩
  | cons call cs ih =>
    intro b c hc
    cases call with
    | setter call =>
      change List.foldlM _ _ (call :: setters cs) = _ at hc
      rw [List.foldlM_cons] at hc
      obtain ⟨b₁, hb₁, hc⟩ := Fallible.bind_eq_ok.mp hc
      obtain ⟨b', hb'⟩ := ih (b := { b with toConnectBuilder := b₁ }) hc
      refine ⟨b', ?_⟩
      rw [ConnectBuilder.calls, List.foldlM_cons, ConnectBuilder.call, hb₁]
      exact hb'
    | props props => exact ih (b := { b with props := some props }) hc
    | willProps props => exact ih (b := { b with willProps := some props }) hc

namespace Connect

def LastWriteWins (cs : List ConnectCall) (p : Connect) : Prop :=
  (ConnectBuilder.new.calls (lastOnly ConnectCall.kind cs) >>= build) = .ok p ∧
    (asked cs).toConnectFields.FlagsAre p.connectFlags

theorem lastWriteWins_iff (h : (ConnectBuilder.new.calls cs >>= build) = .ok p) :
    LastWriteWins cs p ↔ WillsAgree (setters cs) := by
  obtain ⟨b, hb, hbuild⟩ := Fallible.bind_eq_ok.mp h
  obtain ⟨hv, hp, hr⟩ := build_eq_ok.mp hbuild
  obtain ⟨hs, hps, hwps, hasked⟩ := calls_setters (f := .initial) hb rfl rfl
  change (asked cs).toConnectFields = (setters cs).foldl Packet.ConnectFields.accept .initial at hasked
  rw [LastWriteWins, ConnectFields.flagsAre_iff, hp.connectFlags, hasked,
    Packet.ConnectBuilder.flags_eq_iff hs, and_iff_right_iff_imp]
  intro hagree
  obtain ⟨c, hc⟩ := Packet.ConnectBuilder.exists_calls_lastOnly hs
  rw [← setters_lastOnly] at hc
  obtain ⟨b', hb'⟩ := exists_calls_of_setters (b := .new) hc
  obtain ⟨hs', hps', hwps', -⟩ := calls_setters (f := .initial) hb' rfl rfl
  rw [setters_lastOnly] at hs'
  obtain ⟨hsame, hflags⟩ := Packet.ConnectBuilder.same_of_lastOnly hs hs' hagree
  rw [overwrites_accept.foldl_lastOnly, ← hps] at hps'
  rw [overwrites_accept.foldl_lastOnly, ← hwps] at hwps'
  refine Fallible.bind_eq_ok.mpr ⟨b', hb', build_eq_ok.mpr ⟨?_, ?_, hr⟩⟩
  · rw [validate_eq_ok, ← hsame.validate_eq hflags, hps', hwps']
    exact validate_eq_ok.mp hv
  · refine ⟨hp.connectFlags.trans hflags, hp.keepAlive.trans hsame.keepAlive, ?_, hp.propertyLength,
      hp.clientId.trans hsame.clientId, ?_, hp.willPropertyLength, ?_, ?_, ?_, ?_⟩
    · rw [hp.props, hps']
    · rw [hp.willProps, hwps']
    · rw [hp.willTopic, hsame.willTopic]
    · rw [hp.willPayload, hsame.willPayload]
    · rw [hp.userName, hsame.userName]
    · rw [hp.password, hsame.password]

end Connect

end V50

/-- The setters of the CONNECT builders are last-write-wins exactly when the calls for a will agree
about the bits that `will_message` adds to the flags. -/
theorem connect_last_write_wins_iff (cs : List ConnectCall) (cs' : List V50.ConnectCall) :
    (∀ p, (ConnectBuilder.new.calls cs >>= V311.Connect.build) = .ok p →
        (V311.Connect.LastWriteWins cs p ↔ WillsAgree cs)) ∧
      ∀ p, (V50.ConnectBuilder.new.calls cs' >>= V50.Connect.build) = .ok p →
        (V50.Connect.LastWriteWins cs' p ↔ WillsAgree (V50.setters cs')) :=
  ⟨fun _ h ↦ V311.Connect.lastWriteWins_iff h, fun _ h ↦ V50.Connect.lastWriteWins_iff h⟩

/-- A clean session is asked for and taken back, a user name is given twice. -/
theorem connect_last_write_wins_userName : ∃ p,
    (ConnectBuilder.new.calls [.userName .empty, .cleanSession true, .cleanSession false,
      .userName ⟨[0x61], rfl⟩] >>= V311.Connect.build) = .ok p ∧
      V311.Connect.LastWriteWins [.userName .empty, .cleanSession true, .cleanSession false,
        .userName ⟨[0x61], rfl⟩] p := by
  obtain ⟨p, hp⟩ : ∃ p, (ConnectBuilder.new.calls [.userName .empty, .cleanSession true,
      .cleanSession false, .userName ⟨[0x61], rfl⟩] >>= V311.Connect.build) = .ok p := ⟨_, rfl⟩
  exact ⟨p, hp, ((connect_last_write_wins_iff _ []).1 p hp).mpr ((willsAgree_iff _).mp rfl)⟩

/-- Two wills make the quality of service 3, which is none. -/
theorem second_will_adds_bits :
    (∃ p, (ConnectBuilder.new.calls [.willMessage .empty [] .atLeastOnce false,
        .willMessage .empty [] .exactlyOnce false] >>= V311.Connect.build) = .ok p ∧
        (p.connectFlags >>> 3) &&& 0x03 = 3 ∧
        ¬ V311.Connect.LastWriteWins [.willMessage .empty [] .atLeastOnce false,
          .willMessage .empty [] .exactlyOnce false] p) ∧
      ∃ p, (V50.ConnectBuilder.new.calls [.setter (.willMessage .empty [] .atLeastOnce false),
        .setter (.willMessage .empty [] .exactlyOnce false)] >>= V50.Connect.build) = .ok p ∧
        (p.connectFlags >>> 3) &&& 0x03 = 3 ∧
        ¬ V50.Connect.LastWriteWins [.setter (.willMessage .empty [] .atLeastOnce false),
          .setter (.willMessage .empty [] .exactlyOnce false)] p := by
  constructor
  · obtain ⟨p, hp, hqos⟩ : ∃ p, (ConnectBuilder.new.calls [.willMessage .empty [] .atLeastOnce false,
        .willMessage .empty [] .exactlyOnce false] >>= V311.Connect.build) = .ok p ∧
        (p.connectFlags >>> 3) &&& 0x03 = 3 := ⟨_, rfl, by decide⟩
    exact ⟨p, hp, hqos, fun hlast ↦ hlast.2.qosValid hqos⟩
  · obtain ⟨p, hp, hqos⟩ : ∃ p, (V50.ConnectBuilder.new.calls
        [.setter (.willMessage .empty [] .atLeastOnce false),
          .setter (.willMessage .empty [] .exactlyOnce false)] >>= V50.Connect.build) = .ok p ∧
        (p.connectFlags >>> 3) &&& 0x03 = 3 := ⟨_, rfl, by decide⟩
    exact ⟨p, hp, hqos, fun hlast ↦ hlast.2.qosValid hqos⟩

end MqttProtocolCore.Packet
