import MqttProtocolCore.Packet.Codec.Properties
import MqttProtocolCore.Packet.Parse

namespace MqttProtocolCore.Packet

open General

variable {α : Type} {w : IdWidth}

section Cursor

variable {G : Format UInt8 α} {parse : Bytes → Fallible MqttError (α × ℕ)}

theorem acceptsAt_parseAt (h : Accepts G parse) : AcceptsAt G (parseAt parse) := by
  refine ⟨fun {data cursor tail a n} hat ↦ ?_⟩
  rw [parseAt, hat.sliceFrom_eq, Fallible.ok_bind]
  constructor
  · intro hp
    obtain ⟨⟨a, m⟩, hv, hn⟩ := Fallible.bind_eq_ok.mp hp
    cases hn
    obtain ⟨code, rest, rfl, rfl, hG⟩ := h.iff.mp hv
    exact ⟨code, rest, rfl, rfl, hG⟩
  · rintro ⟨code, rest, rfl, rfl, hG⟩
    rw [h.complete hG rest]
    rfl

theorem accepts_mapErr (e : MqttError) (h : Accepts G parse) :
    Accepts G fun data ↦ mapErr e (parse data) := by
  refine ⟨fun {data a n} ↦ ?_⟩
  rw [← h.iff]
  cases parse data <;> simp [mapErr]

def optional (flag : Bool) (default : α) (G : Format UInt8 α) : Format UInt8 α :=
  fun code a ↦ if flag then G code a else code = [] ∧ a = default

theorem acceptsAt_parseIf (flag : Bool) (default : α) (h : Accepts G parse) :
    AcceptsAt (optional flag default G) (parseIf flag default parse) := by
  refine ⟨fun {data cursor tail a n} hat ↦ ?_⟩
  cases flag with
  | true => exact (acceptsAt_parseAt h).iff hat
  | false =>
    simp only [parseIf, optional, Bool.false_eq_true, if_false]
    constructor
    · intro hp
      cases hp
      exact ⟨[], tail, rfl, rfl, rfl, rfl⟩
    · rintro ⟨_, rest, rfl, rfl, rfl, rfl⟩
      rfl

theorem parseEntries_eq_ok (h : Accepts G parse) (hne : ∀ {code a}, G code a → code ≠ [])
    {data : Bytes} {fuel : ℕ} : ∀ {cursor : ℕ} {tail : Bytes} {acc entries : List α} {n : ℕ},
    At data cursor tail → tail.length ≤ fuel →
    (parseEntries parse data fuel cursor acc = .ok (entries, n) ↔
      ∃ entries', entries = acc ++ entries' ∧ G.listOf tail entries' ∧ n = data.length) := by
  have hend : ∀ {fuel cursor : ℕ} {acc entries : List α} {n : ℕ}, At data cursor [] →
      (parseEntries parse data fuel cursor acc = .ok (entries, n) ↔
        ∃ entries', entries = acc ++ entries' ∧ G.listOf [] entries' ∧ n = data.length) := by
    intro fuel cursor acc entries n hat
    have hlen := hat.length
    rw [List.length_nil, Nat.add_zero] at hlen
    unfold parseEntries
    rw [if_neg (by omega)]
    constructor
    · intro hp
      cases hp
      exact ⟨[], (List.append_nil _).symm, .nil, hlen.symm⟩
    · rintro ⟨entries', rfl, hG, rfl⟩
      rw [(Format.listOf_nil_iff hne).mp hG, List.append_nil, hlen]
  induction fuel with
  | zero =>
    intro cursor tail acc entries n hat hfuel
    obtain rfl := List.length_eq_zero_iff.mp (Nat.le_zero.mp hfuel)
    exact hend hat
  | succ fuel ih =>
    intro cursor tail acc entries n hat hfuel
    cases tail with
    | nil => exact hend hat
    | cons b tail =>
      rw [parseEntries, if_pos (hat.lt_iff.mpr (List.cons_ne_nil _ _))]
      dsimp only
      constructor
      · intro hp
        obtain ⟨⟨a, c⟩, hp, hl⟩ := Fallible.bind_eq_ok.mp hp
        obtain ⟨code, rest, hm, rfl, hG, hat'⟩ := (acceptsAt_parseAt h).sound hat hp
        have hpos := List.length_pos_iff.mpr (hne hG)
        have hlen := congrArg List.length hm
        rw [List.length_append] at hlen
        obtain ⟨entries', rfl, hGs, rfl⟩ := (ih hat' (by omega)).mp hl
        exact ⟨a :: entries', List.append_assoc _ _ _, hm ▸ .cons hG hGs, rfl⟩
      · rintro ⟨entries', rfl, hGs, rfl⟩
        generalize hm : b :: tail = m at *
        cases hGs with
        | nil => cases hm
        | @cons code codes a as hG hGs =>
          have hpos := List.length_pos_iff.mpr (hne hG)
          rw [List.length_append] at hfuel
          rw [(acceptsAt_parseAt h).complete hat hG, Fallible.ok_bind]
          exact (ih hat.next (by omega)).mpr ⟨as, (List.append_assoc acc [a] as).symm, hGs, rfl⟩

end Cursor

theorem PacketId.length_toBuffer (id : PacketId w) : (PacketId.toBuffer id).length = w.bufferSize :=
  length_toBeBytes _ _

theorem IdWidth.max_succ : w.max + 1 = 256 ^ w.bufferSize := by cases w <;> rfl

theorem PacketId.fromBuffer_toBuffer (id : PacketId w) :
    PacketId.fromBuffer w (PacketId.toBuffer id) = id := by
  have hlt : id.val < 256 ^ w.bufferSize := by
    rw [← IdWidth.max_succ]
    exact id.isLt
  rw [fromBuffer, if_pos (Nat.le_of_eq id.length_toBuffer.symm),
    List.take_of_length_le (Nat.le_of_eq id.length_toBuffer), toBuffer, ofBeBytes_toBeBytes hlt]
  exact Fin.ext (Nat.mod_eq_of_lt id.isLt)

theorem PacketId.toBuffer_fromBuffer {buf : Bytes} (h : buf.length = w.bufferSize) :
    PacketId.toBuffer (PacketId.fromBuffer w buf) = buf := by
  have hlt : ofBeBytes buf < w.max + 1 := by
    rw [IdWidth.max_succ]
    exact ofBeBytes_lt h
  rw [fromBuffer, if_pos (Nat.le_of_eq h.symm), List.take_of_length_le (Nat.le_of_eq h), toBuffer,
    Fin.val_ofNat, Nat.mod_eq_of_lt hlt]
  exact toBeBytes_ofBeBytes h

theorem accepts_parsePacketId : Accepts (.exactly PacketId.toBuffer) (parsePacketId w) := by
  refine ⟨fun {data id n} ↦ ⟨fun h ↦ ?_, ?_⟩⟩
  · by_cases hlen : w.bufferSize ≤ data.length
    · obtain ⟨buf, rest, rfl, hbuf⟩ := exists_append_of_le hlen
      obtain ⟨_, hs⟩ := (At.start (buf ++ rest)).slice_eq (ε := MqttError) w.bufferSize
        (by rw [hbuf, Nat.zero_add])
      rw [parsePacketId, Fallible.require, if_pos hlen, Fallible.ok_bind, hs, Fallible.ok_bind] at h
      cases h
      exact ⟨buf, rest, rfl, hbuf.symm, (PacketId.toBuffer_fromBuffer hbuf).symm⟩
    · rw [parsePacketId, Fallible.require, if_neg hlen] at h
      cases h
  · rintro ⟨_, rest, rfl, rfl, rfl⟩
    have hbuf := PacketId.length_toBuffer id
    obtain ⟨_, hs⟩ := (At.start (PacketId.toBuffer id ++ rest)).slice_eq (ε := MqttError) w.bufferSize
      (by rw [hbuf, Nat.zero_add])
    rw [parsePacketId, Fallible.require, if_pos (by rw [List.length_append]; omega),
      Fallible.ok_bind, hs, Fallible.ok_bind, hbuf, PacketId.fromBuffer_toBuffer]
    rfl

theorem accepts_parseNonZeroPacketId :
    Accepts (.exactly fun id : {id : PacketId w // id ≠ 0} ↦ PacketId.toBuffer id.val)
      (parseNonZeroPacketId w) := by
  refine ⟨fun {data id n} ↦ ?_⟩
  obtain ⟨id, hid⟩ := id
  refine Iff.trans ?_ (accepts_parsePacketId (w := w)).iff
  constructor
  · intro h
    obtain ⟨⟨v, m⟩, hp, h⟩ := Fallible.bind_eq_ok.mp h
    dsimp only at h
    split at h
    · cases h
      exact hp
    · cases h
  · intro hp
    simp only [parseNonZeroPacketId, hp, Fallible.ok_bind]
    rw [dif_pos hid]
    rfl

def PublishId.toBuffer {qos : Qos} (id : PublishId w qos) : Bytes :=
  match id.val with
  | some id => PacketId.toBuffer id
  | none => []

theorem PublishId.length_toBuffer {qos : Qos} (id : PublishId w qos) :
    id.toBuffer.length = id.size := by
  obtain ⟨id, hid⟩ := id
  cases id with
  | none => rfl
  | some id => exact id.length_toBuffer

theorem acceptsAt_parsePublishId (qos : Qos) :
    AcceptsAt (.exactly PublishId.toBuffer) (parsePublishId w qos) := by
  refine ⟨fun {data cursor tail id n} hat ↦ ?_⟩
  obtain ⟨id, hid⟩ := id
  unfold parsePublishId
  by_cases hq : qos = .atMostOnce
  · obtain rfl : id = none := by
      cases id with
      | none => rfl
      | some id => exact (hid.mp rfl hq).elim
    rw [dif_pos hq]
    constructor
    · intro h
      cases h
      exact ⟨[], tail, rfl, rfl, rfl⟩
    · rintro ⟨_, rest, rfl, rfl, rfl⟩
      rfl
  · obtain ⟨id, rfl⟩ := Option.isSome_iff_exists.mp (hid.mpr hq)
    rw [dif_neg hq]
    constructor
    · intro h
      by_cases hlen : cursor + w.bufferSize ≤ data.length
      · have := hat.length
        obtain ⟨buf, rest, rfl, hbuf⟩ := exists_append_of_le (show w.bufferSize ≤ tail.length by omega)
        obtain ⟨_, hs⟩ := hat.slice_eq (ε := MqttError) (cursor + w.bufferSize)
          (by rw [hbuf])
        rw [Fallible.require, if_pos hlen, Fallible.ok_bind, hs, Fallible.ok_bind] at h
        cases h
        exact ⟨buf, rest, rfl, by rw [hbuf], (PacketId.toBuffer_fromBuffer hbuf).symm⟩
      · rw [Fallible.require, if_neg hlen] at h
        cases h
    · rintro ⟨_, rest, rfl, rfl, rfl⟩
      have hbuf := PacketId.length_toBuffer id
      have hlen := hat.length
      change At data cursor (PacketId.toBuffer id ++ rest) at hat
      change data.length = cursor + (PacketId.toBuffer id ++ rest).length at hlen
      rw [List.length_append] at hlen
      obtain ⟨_, hs⟩ := hat.slice_eq (ε := MqttError) (cursor + w.bufferSize)
        (by rw [hbuf])
      rw [Fallible.require, if_pos (by omega), Fallible.ok_bind, hs, Fallible.ok_bind]
      simp only [PacketId.fromBuffer_toBuffer]
      change Fallible.ok _ = Fallible.ok (_, cursor + (PacketId.toBuffer id).length)
      rw [hbuf]

namespace SubEntry

def toBuffers (e : SubEntry) : List Bytes := e.topicFilter.toBuffers ++ [[e.subOpts.subOptsBuf]]

def toContinuousBuffer (e : SubEntry) : Bytes :=
  e.topicFilter.toContinuousBuffer ++ [e.subOpts.subOptsBuf]

theorem flatten_toBuffers (e : SubEntry) : e.toBuffers.flatten = e.toContinuousBuffer := by
  simp only [toBuffers, toContinuousBuffer, MqttString.toBuffers, MqttString.toContinuousBuffer,
    List.flatten_cons, List.flatten_nil, List.append_nil, List.cons_append, List.nil_append]

theorem length_toContinuousBuffer (e : SubEntry) : e.toContinuousBuffer.length = e.size := by
  rw [toContinuousBuffer, List.length_append]
  exact congrArg (· + 1) e.topicFilter.length_asBytes

theorem accepts_parse : Accepts (.exactly toContinuousBuffer) parse := by
  refine ⟨fun {data e n} ↦ ⟨fun h ↦ ?_, ?_⟩⟩
  · obtain ⟨⟨topic, c⟩, ht, h⟩ := Fallible.bind_eq_ok.mp h
    obtain ⟨_, tail, rfl, rfl, rfl⟩ := MqttString.accepts_decode.iff.mp ht
    have hat := (At.start (topic.asBytes ++ tail)).next
    rw [Nat.zero_add] at hat
    dsimp only at h
    cases tail with
    | nil =>
      rw [Fallible.require, if_neg fun h ↦ hat.lt_iff.mp h rfl] at h
      cases h
    | cons b rest =>
      rw [Fallible.require, if_pos (hat.lt_iff.mpr (List.cons_ne_nil _ _)), Fallible.ok_bind,
        hat.index_eq, Fallible.ok_bind] at h
      by_cases hb : b &&& 0b11000000 = 0 ∧ b &&& 0b00000011 ≤ 2 ∧ (b &&& 0b00110000) >>> 4 ≤ 2
      · rw [SubOpts.fromU8, dif_pos hb] at h
        cases h
        refine ⟨topic.asBytes ++ [b], rest, List.append_cons _ _ _, ?_, rfl⟩
        rw [List.length_append, List.length_singleton]
      · rw [SubOpts.fromU8, dif_neg hb] at h
        cases h
  · rintro ⟨_, rest, rfl, rfl, rfl⟩
    obtain ⟨topic, opts⟩ := e
    have hat := (At.start (topic.asBytes ++ opts.subOptsBuf :: rest)).next
    rw [Nat.zero_add] at hat
    have hd := MqttString.accepts_decode.complete (a := topic) rfl (opts.subOptsBuf :: rest)
    change parse ((topic.asBytes ++ [opts.subOptsBuf]) ++ rest) = _
    rw [List.append_assoc, List.singleton_append, parse, hd, Fallible.ok_bind]
    dsimp only
    rw [Fallible.require, if_pos (hat.lt_iff.mpr (List.cons_ne_nil _ _)), Fallible.ok_bind,
      hat.index_eq, Fallible.ok_bind, SubOpts.fromU8, dif_pos opts.valid]
    simp only [Fallible.ofExcept, Fallible.ok_bind, toContinuousBuffer, List.length_append,
      List.length_singleton]
    rfl

end SubEntry

def connectHeader (version connectFlags : UInt8) (keepAlive : U16) : Bytes :=
  [0x00, 0x04, 0x4D, 0x51, 0x54, 0x54, version, connectFlags] ++ U16.toBeBytes keepAlive

theorem length_connectHeader (version connectFlags : UInt8) (keepAlive : U16) :
    (connectHeader version connectFlags keepAlive).length = 10 := rfl

theorem parseConnectHeader_eq (version connectFlags b₀ b₁ : UInt8) (rest : Bytes) :
    parseConnectHeader version ([0x00, 0x04, 0x4D, 0x51, 0x54, 0x54, version, connectFlags, b₀, b₁] ++
      rest) = .ok ((connectFlags, U16.fromBeBytes b₀ b₁), 10) := by
  simp [parseConnectHeader, Fallible.require, index, slice]

theorem accepts_parseConnectHeader (version : UInt8) :
    Accepts (.exactly fun h : UInt8 × U16 ↦ connectHeader version h.1 h.2)
      (parseConnectHeader version) := by
  refine ⟨fun {data h n} ↦ ⟨fun hp ↦ ?_, ?_⟩⟩
  · have hlen : 10 ≤ data.length := by
      have hle := (parses_parseConnectHeader version data).of_ok hp
      exact hle.1.trans hle.2
    obtain ⟨code, rest, rfl, hcode⟩ := exists_append_of_le hlen
    match code, hcode with
    | [_, _, _, _, _, _, v, flags, b₀, b₁], _ =>
      simp [parseConnectHeader, index, slice, Fallible.bind_eq_ok, Fallible.require_eq_ok] at hp
      obtain ⟨⟨rfl, rfl, rfl, rfl, rfl, rfl⟩, rfl, rfl, rfl⟩ := hp
      refine ⟨_, rest, rfl, rfl, ?_⟩
      rw [Format.exactly, connectHeader, U16.toBeBytes_fromBeBytes]
      rfl
  · rintro ⟨_, rest, rfl, rfl, rfl⟩
    obtain ⟨flags, keepAlive⟩ := h
    obtain ⟨b₀, b₁, hb, rfl⟩ := keepAlive.exists_toBeBytes
    dsimp only
    rw [connectHeader, hb]
    exact parseConnectHeader_eq version flags b₀ b₁ rest

def credentialBytes (connectFlags : UInt8) (c : MqttString × MqttBinary) : Bytes :=
  (if userNameFlag connectFlags then c.1.asBytes else []) ++
    if passwordFlag connectFlags then c.2.asBytes else []

/-- The flags tell what there is, and there is no password without a user name. -/
def HasCredentials (connectFlags : UInt8) (c : MqttString × MqttBinary) : Prop :=
  (userNameFlag connectFlags = false → c.1 = .default) ∧
    (passwordFlag connectFlags = false → c.2 = .default) ∧
      ¬ (passwordFlag connectFlags ∧ ¬ userNameFlag connectFlags)

theorem optional_exactly_iff {flag : Bool} {default a : α} {encode : α → Bytes} {code : Bytes} :
    optional flag default (.exactly encode) code a ↔
      (code = if flag then encode a else []) ∧ (flag = false → a = default) := by
  cases flag <;> simp [optional, Format.exactly]

theorem acceptsAt_parseCredentials (connectFlags : UInt8) :
    AcceptsAt (fun code c ↦ code = credentialBytes connectFlags c ∧ HasCredentials connectFlags c)
      (parseCredentials connectFlags) := by
  have huser := acceptsAt_parseIf (userNameFlag connectFlags) MqttString.default
    (accepts_mapErr .badUserNameOrPassword MqttString.accepts_decode)
  have hpass := acceptsAt_parseIf (passwordFlag connectFlags) MqttBinary.default
    (accepts_mapErr .badUserNameOrPassword MqttBinary.accepts_decode)
  refine ⟨fun {data cursor tail c n} hat ↦ ⟨fun h ↦ ?_, ?_⟩⟩
  · obtain ⟨⟨user, m⟩, hs, h⟩ := Fallible.bind_eq_ok.mp h
    obtain ⟨_, rest, rfl, rfl, hG, hat'⟩ := huser.sound hat hs
    obtain ⟨rfl, hu⟩ := optional_exactly_iff.mp hG
    obtain ⟨⟨pass, m⟩, hs, h⟩ := Fallible.bind_eq_ok.mp h
    obtain ⟨_, rest, rfl, rfl, hG, -⟩ := hpass.sound hat' hs
    obtain ⟨rfl, hp⟩ := optional_exactly_iff.mp hG
    obtain ⟨⟨⟩, hr, h⟩ := Fallible.bind_eq_ok.mp h
    cases h
    refine ⟨_, rest, (List.append_assoc _ _ _).symm, ?_, rfl, hu, hp, ?_⟩
    · rw [List.length_append, Nat.add_assoc]
    · exact Fallible.require_eq_ok.mp hr
  · rintro ⟨_, rest, rfl, rfl, rfl, hu, hp, hr⟩
    obtain ⟨user, pass⟩ := c
    rw [credentialBytes, List.append_assoc] at hat
    rw [parseCredentials, huser.complete hat (optional_exactly_iff.mpr ⟨rfl, hu⟩), Fallible.ok_bind]
    dsimp only
    rw [hpass.complete hat.next (optional_exactly_iff.mpr ⟨rfl, hp⟩), Fallible.ok_bind]
    dsimp only
    rw [(Fallible.require_eq_ok (u := ⟨⟩)).mpr hr, Fallible.ok_bind, credentialBytes, List.length_append,
      Nat.add_assoc]
    rfl

end MqttProtocolCore.Packet
