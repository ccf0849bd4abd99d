import MqttProtocolCore.Connection.FrameAgreement

namespace MqttProtocolCore.Connection.PacketBuilder

open General Packet VariableByteInteger

variable {b b' : PacketBuilder} {result result' : PacketBuildResult} {p s piece data rest rest' : Bytes}
  {pos : ℕ}

theorem not_continuing_field {f body : Bytes} (hf : IsField f) : ¬ Continuing (f ++ body) := by
  intro hc
  refine hc.not_field (r := []) hf ?_ (List.append_nil _)
  rw [List.length_append]
  omega

theorem Pending.unique (h : Pending b s) (h' : Pending b' s) : b = b' := by
  cases h with
  | header =>
    cases h'
    rfl
  | @length h lens hc hlen =>
    generalize hs : h :: lens = t at h'
    cases h' with
    | header => cases hs
    | length _ _ =>
      cases hs
      rfl
    | payload hf _ _ =>
      cases hs
      exact (not_continuing_field hf hc).elim
  | @payload h f body hf hlen hbody =>
    generalize hs : h :: (f ++ body) = t at h'
    cases h' with
    | header => cases hs
    | length hc _ =>
      cases hs
      exact (not_continuing_field hf hc).elim
    | payload hf' _ _ =>
      obtain ⟨rfl, htail⟩ := List.cons.inj hs
      obtain ⟨rfl, rfl⟩ := hf.append_inj hf' htail
      rfl

/-- What the builder makes of a stream depends on its bytes alone. -/
theorem Fed.unique (h : Fed s b result rest) (h' : Fed s b' result' rest') :
    b = b' ∧ result = result' ∧ rest = rest' := by
  cases h with
  | complete hf hlen hbody hs =>
    obtain ⟨rfl, rfl, rfl⟩ := Fed.of_frame (hs ▸ h') hf hlen hbody
    exact ⟨rfl, rfl, rfl⟩
  | @error h c rest hc hlen hs =>
    have hlong : LongLength s := ⟨h, c, rest, hs, hc, hlen⟩
    cases h' with
    | @error h' c' rest' hc' hlen' hs' =>
      obtain ⟨rfl, htail⟩ := List.cons.inj (hs.symm.trans hs')
      obtain ⟨rfl, rfl⟩ := List.append_inj htail (hlen.trans hlen'.symm)
      exact ⟨rfl, rfl, rfl⟩
    | incomplete hp => cases (Fed.incomplete hp).of_longLength hlong
    | complete hf hl hb hs' => cases (Fed.complete hf hl hb hs').of_longLength hlong
  | incomplete hp =>
    cases h' with
    | incomplete hp' => exact ⟨hp.unique hp', rfl, rfl⟩
    | complete hf hlen hbody hs =>
      cases (Fed.of_frame (hs ▸ Fed.incomplete hp) hf hlen hbody).2.1
    | error hc hlen hs => cases (Fed.incomplete hp).of_longLength ⟨_, _, _, hs, hc, hlen⟩

/-- A result other than `incomplete` comes from the bytes before the rest. -/
theorem Fed.split (h : Fed s b result rest) (hr : result ≠ .incomplete) :
    b = new ∧ ∃ piece, s = piece ++ rest ∧ Fed piece new result [] := by
  cases h with
  | incomplete => exact (hr rfl).elim
  | @complete h f body rest hf hlen hbody hs =>
    refine ⟨rfl, h :: (f ++ body), by rw [hs]; simp, .complete hf hlen hbody ?_⟩
    rw [List.append_nil]
  | @error h c rest hc hlen hs =>
    refine ⟨rfl, h :: c, by rw [hs]; simp, .error (h := h) hc hlen ?_⟩
    rw [List.append_nil]

theorem Fed.append (h : Fed piece b result []) (hr : result ≠ .incomplete) (s : Bytes) :
    Fed (piece ++ s) b result s := by
  cases h with
  | incomplete => exact (hr rfl).elim
  | complete hf hlen hbody hs => exact .complete hf hlen hbody (by rw [hs]; simp)
  | @error h c _ hc hlen hs => exact .error (h := h) hc hlen (by rw [hs]; simp)

/-- The bytes of a packet that is not complete are too few for any result. -/
theorem Pending.length_lt (hp : Pending b p) (h : Fed piece b' result []) (hr : result ≠ .incomplete)
    (hs : p ++ data = piece ++ rest) : p.length < piece.length := by
  by_contra hle
  obtain ⟨t, rfl⟩ : piece <+: p :=
    List.prefix_of_prefix_length_le ⟨rest, hs.symm⟩ ⟨data, rfl⟩ (Nat.not_lt.mp hle)
  exact hr ((h.append hr t).unique (.incomplete hp)).2.1

/-- The results of a stream, each with the position behind it. -/
abbrev Log := List (ℕ × PacketBuildResult)

def note (pos : ℕ) (result : PacketBuildResult) : Log :=
  if result = .incomplete then [] else [(pos, result)]

/-- The loop that feeds a slice until it is used up, in at most the given number of turns. -/
def drain : ℕ → PacketBuilder → ℕ → Bytes → Option (PacketBuilder × ℕ × Log)
  | _, b, pos, [] => some (b, pos, [])
  | 0, _, _, _ :: _ => none
  | turns + 1, b, pos, byte :: data =>
    match b.feed (byte :: data) with
    | .panic => none
    | .ret (b, result, rest) => do
      let pos := pos + ((byte :: data).length - rest.length)
      let (b, last, log) ← drain turns b pos rest
      return (b, last, note pos result ++ log)

def drainSlices (b : PacketBuilder) (pos : ℕ) : List Bytes → Option (PacketBuilder × ℕ × Log)
  | [] => some (b, pos, [])
  | data :: slices => do
    let (b, pos, log) ← drain data.length b pos data
    let (b, last, rest) ← drainSlices b pos slices
    return (b, last, log ++ rest)

/-- The bytes from `pos` on are the pieces of the results in the log, one behind the other, and
those of a packet that is not complete. -/
inductive Reads : ℕ → Bytes → Log → PacketBuilder → Prop where
  | pending {pos : ℕ} {s : Bytes} {b : PacketBuilder} : Pending b s → Reads pos s [] b
  | piece {pos : ℕ} {piece s : Bytes} {result : PacketBuildResult} {log : Log} {b : PacketBuilder} :
      Fed piece new result [] → result ≠ .incomplete → Reads (pos + piece.length) s log b →
      Reads pos (piece ++ s) ((pos + piece.length, result) :: log) b

theorem Pending.feed_shorter (hp : Pending b p) (hd : data ≠ [])
    (h : b.feed data = .ret (b', result, rest)) : rest.length < data.length := by
  obtain ⟨_, _, _, hfeed, hfed⟩ := feed_spec hp data
  rw [h] at hfeed
  cases hfeed
  by_cases hr : result = .incomplete
  · subst hr
    cases hfed
    exact List.length_pos_iff.mpr hd
  · obtain ⟨rfl, piece, hs, hpiece⟩ := hfed.split hr
    have hlt := hp.length_lt hpiece hr hs
    have hlen := congrArg List.length hs
    simp only [List.length_append] at hlen
    omega

variable {log log' : Log}

theorem Reads.unique (h : Reads pos s log b) (h' : Reads pos s log' b') : log = log' ∧ b = b' := by
  induction h generalizing log' with
  | pending hp =>
    cases h' with
    | pending hp' => exact ⟨rfl, hp.unique hp'⟩
    | piece hf hr _ => exact (hr ((hf.append hr _).unique (.incomplete hp)).2.1).elim
  | @piece pos piece s result log b hf hr _ ih =>
    generalize hs : piece ++ s = t at h'
    cases h' with
    | pending hp =>
      subst hs
      exact (hr ((hf.append hr s).unique (.incomplete hp)).2.1).elim
    | @piece _ piece' s' result' log' b' hf' hr' h' =>
      have happ := hs ▸ hf.append hr s
      obtain ⟨-, rfl, rfl⟩ := happ.unique (hf'.append hr' s')
      obtain rfl := List.append_cancel_right hs
      obtain ⟨rfl, rfl⟩ := ih h'
      exact ⟨rfl, rfl⟩

theorem drain_reads {turns : ℕ} (hp : Pending b p) (hturns : data.length ≤ turns) :
    ∃ b' log, drain turns b (pos + p.length) data = some (b', pos + p.length + data.length, log) ∧
      Reads pos (p ++ data) log b' := by
  induction turns generalizing b p pos data with
  | zero =>
    obtain rfl := List.length_eq_zero_iff.mp (Nat.le_zero.mp hturns)
    exact ⟨b, [], rfl, by simpa using .pending hp⟩
  | succ turns ih =>
    cases data with
    | nil => exact ⟨b, [], rfl, by simpa using .pending hp⟩
    | cons byte data =>
      obtain ⟨b', result, rest, hfeed, hfed⟩ := feed_spec hp (byte :: data)
      by_cases hr : result = .incomplete
      · subst hr
        cases hfed with
        | incomplete hp' =>
          refine ⟨b', [], ?_, .pending hp'⟩
          cases turns <;> simp [drain, hfeed, note]
      · obtain ⟨rfl, piece, hs, hpiece⟩ := hfed.split hr
        have hlt := hp.length_lt hpiece hr hs
        have hlen := congrArg List.length hs
        simp only [List.length_append] at hlen
        obtain ⟨b', log, hdrain, hreads⟩ :=
          @ih new [] rest (pos + piece.length) .header (by omega)
        have hpos : pos + p.length + ((byte :: data).length - rest.length) = pos + piece.length := by
          omega
        refine ⟨b', (pos + piece.length, result) :: log, ?_, hs ▸ .piece hpiece hr hreads⟩
        have hlast : pos + piece.length + rest.length = pos + p.length + (byte :: data).length := by
          omega
        simp only [List.length_nil, Nat.add_zero] at hdrain
        simp only [drain, hfeed, hpos, hdrain, note, if_neg hr, hlast, Option.bind_eq_bind,
          Option.bind_some, List.singleton_append]
        rfl

theorem Reads.drain (h : Reads pos s log b) (data : Bytes) :
    ∃ b' log', PacketBuilder.drain data.length b (pos + s.length) data =
        some (b', pos + s.length + data.length, log') ∧
      Reads pos (s ++ data) (log ++ log') b' := by
  induction h with
  | pending hp => exact drain_reads hp (Nat.le_refl _)
  | @piece pos piece s result log b hf hr _ ih =>
    obtain ⟨b', log', hdrain, hreads⟩ := ih
    rw [List.append_assoc, List.length_append, ← Nat.add_assoc]
    exact ⟨b', log', hdrain, .piece hf hr hreads⟩

theorem Reads.drainSlices (h : Reads pos s log b) (slices : List Bytes) :
    ∃ b' log', b.drainSlices (pos + s.length) slices =
        some (b', pos + s.length + slices.flatten.length, log') ∧
      Reads pos (s ++ slices.flatten) (log ++ log') b' := by
  induction slices generalizing s log b with
  | nil => exact ⟨b, [], rfl, by simpa using h⟩
  | cons data slices ih =>
    obtain ⟨b₁, log₁, hdrain, hreads⟩ := h.drain data
    obtain ⟨b₂, log₂, hslices, hreads'⟩ := ih hreads
    rw [List.length_append, ← Nat.add_assoc] at hslices
    refine ⟨b₂, log₁ ++ log₂, ?_, ?_⟩
    · simp only [PacketBuilder.drainSlices, hdrain, Option.bind_eq_bind, Option.bind_some, hslices]
      rw [List.flatten_cons, List.length_append, ← Nat.add_assoc]
      rfl
    · simpa only [List.flatten_cons, List.append_assoc] using hreads'

/-- A stream gives the same results at the same positions, however it is cut into slices: those of
its pieces. -/
theorem feed_slices (slices : List Bytes) : ∃ b log,
    new.drainSlices 0 slices = some (b, slices.flatten.length, log) ∧
      drain slices.flatten.length new 0 slices.flatten = some (b, slices.flatten.length, log) ∧
      Reads 0 slices.flatten log b := by
  have hnew : Reads 0 [] [] new := .pending .header
  obtain ⟨b, log, hslices, hreads⟩ := hnew.drainSlices slices
  obtain ⟨b', log', hdrain, hreads'⟩ := hnew.drain slices.flatten
  obtain ⟨rfl, rfl⟩ := hreads.unique hreads'
  simp only [List.length_nil, Nat.zero_add] at hslices hdrain
  exact ⟨b, log, hslices, hdrain, hreads⟩

/-- A PINGREQ cut behind its header, and a length field that is too long. -/
example : new.drainSlices 0 [[], [0xC0], [0x00, 0x30, 0x80], [0x80, 0x80, 0x80]] =
    some (new, 7, [(2, .complete (rawPacket 0xC0 [])), (7, .error .malformedPacket)]) := by
  decide

end MqttProtocolCore.Connection.PacketBuilder
