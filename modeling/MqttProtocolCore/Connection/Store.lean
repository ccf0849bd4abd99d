import MqttProtocolCore.General.IndexMap
import MqttProtocolCore.Packet.GenericPacket

namespace MqttProtocolCore.Connection

open General Packet

variable {w : IdWidth}

/-- The packets that wait for an acknowledgement, in the order in which they were stored; every
packet is stored under its own identifier. -/
structure GenericStore (w : IdWidth) where
  map : IndexMap (PacketId w) (GenericStorePacket w)
  keyed : ∀ e ∈ map.entries, e.2.packetId = some e.1
deriving DecidableEq

namespace GenericStore

def new : GenericStore w := ⟨∅, by simp⟩

def containsKey (s : GenericStore w) (id : PacketId w) : Bool := s.map.containsKey id

def add (s : GenericStore w) (packet : GenericStorePacket w) : Fallible MqttError (GenericStore w) :=
  match h : packet.packetId with
  | none => .panic
  | some id =>
    if s.containsKey id then .err .packetIdentifierConflict
    else .ok ⟨s.map.insert id packet, by
      intro e he
      rcases IndexMap.mem_entries_insert.mp he with rfl | ⟨he, -⟩
      · exact h
      · exact s.keyed e he⟩

def retain (s : GenericStore w) (p : PacketId w × GenericStorePacket w → Bool) : GenericStore w :=
  ⟨s.map.retain p, fun e he ↦ s.keyed e (IndexMap.mem_entries_retain.mp he).1⟩

def shiftRemove (s : GenericStore w) (id : PacketId w) : GenericStore w :=
  s.retain fun e ↦ decide (e.1 ≠ id)

/-- Remove the packet when it waits for this response. A stored packet has a response: its
identifier is present. -/
def erase (s : GenericStore w) (response : ResponsePacket) (id : PacketId w) : GenericStore w :=
  match s.map.get id with
  | some packet => if packet.responsePacket = some response then s.shiftRemove id else s
  | none => s

def clear (_ : GenericStore w) : GenericStore w := new

variable {σ : Type}

/-- The calls of `func` on the packets, with the identifiers of those that it does not keep. -/
def forEachLoop (func : GenericStorePacket w → σ → Outcome (Bool × σ)) :
    List (PacketId w × GenericStorePacket w) → σ → Outcome (List (PacketId w) × σ)
  | [], state => return ([], state)
  | (id, packet) :: entries, state => do
    let (keep, state) ← func packet state
    let (toRemove, state) ← forEachLoop func entries state
    return (if keep then toRemove else id :: toRemove, state)

def forEach (s : GenericStore w) (func : GenericStorePacket w → σ → Outcome (Bool × σ))
    (state : σ) : Outcome (GenericStore w × σ) := do
  let (toRemove, state) ← forEachLoop func s.map.entries state
  return (toRemove.foldl shiftRemove s, state)

def getStored (s : GenericStore w) : List (GenericStorePacket w) := s.map.values

variable {s s' : GenericStore w} {id u : PacketId w} {packet : GenericStorePacket w}
  {response : ResponsePacket}

def get (s : GenericStore w) (id : PacketId w) : Option (GenericStorePacket w) := s.map.get id

theorem containsKey_iff : s.containsKey id ↔ ∃ packet, s.get id = some packet := by
  simp [containsKey, get, IndexMap.containsKey, IndexMap.mem_keys, IndexMap.get_eq_some]

theorem get_eq_none : s.get id = none ↔ ¬ s.containsKey id := by
  simp [containsKey, get, IndexMap.containsKey, IndexMap.get_eq_none]

@[simp] theorem get_shiftRemove : (s.shiftRemove id).get u = if u = id then none else s.get u := by
  split
  · subst u
    exact IndexMap.get_shiftRemove_self s.map id
  · exact IndexMap.get_shiftRemove_of_ne (m := s.map) ‹_›

theorem get_retain {p : PacketId w × GenericStorePacket w → Bool} :
    (s.retain p).get id = (s.get id).filter fun packet ↦ p (id, packet) := IndexMap.get_retain

theorem add_eq_ok (h : s.add packet = .ok s') : ∃ id, packet.packetId = some id ∧
    ¬ s.containsKey id ∧ ∀ u, s'.get u = if u = id then some packet else s.get u := by
  unfold add at h
  split at h
  · cases h
  · rename_i id hid
    split at h
    · cases h
    · obtain rfl := Fallible.ok.inj h
      refine ⟨id, hid, ‹_›, fun u ↦ ?_⟩
      split
      · subst u
        exact IndexMap.get_insert_self s.map id packet
      · exact IndexMap.get_insert_of_ne (m := s.map) ‹_›

theorem add_spec (hid : packet.packetId = some id) :
    (s.containsKey id ∧ s.add packet = .err .packetIdentifierConflict) ∨
      ¬ s.containsKey id ∧ ∃ s', s.add packet = .ok s' ∧
        ∀ u, s'.get u = if u = id then some packet else s.get u := by
  by_cases hc : s.containsKey id
  · refine .inl ⟨hc, ?_⟩
    unfold add
    split
    · simp_all
    · simp_all
  · refine .inr ⟨hc, ?_⟩
    have hok : ∃ s', s.add packet = .ok s' := by
      unfold add
      split
      · simp_all
      · rename_i id' hid'
        obtain rfl := Option.some.inj (hid'.symm.trans hid)
        exact ⟨_, if_neg hc⟩
    obtain ⟨s', hs'⟩ := hok
    obtain ⟨id', hid', -, hget⟩ := add_eq_ok hs'
    obtain rfl := Option.some.inj (hid'.symm.trans hid)
    exact ⟨s', hs', hget⟩

theorem get_erase : (s.erase response id).get u =
    if u = id ∧ ∃ packet, s.get id = some packet ∧ packet.responsePacket = some response then none
    else s.get u := by
  unfold erase
  cases h : s.map.get id with
  | none => simp [get, h]
  | some packet =>
    dsimp only
    have hg : s.get id = some packet := h
    split
    · rename_i hr
      simp [hg, hr]
    · rename_i hr
      simp [hg, hr]

theorem foldl_shiftRemove (ids : List (PacketId w)) :
    ids.foldl shiftRemove s = s.retain fun e ↦ !ids.contains e.1 := by
  induction ids generalizing s with
  | nil => simp [retain, IndexMap.retain]
  | cons id ids ih =>
    rw [List.foldl_cons, ih]
    simp only [shiftRemove, retain, IndexMap.retain, List.filter_filter, List.contains_cons,
      Bool.not_or, Bool.and_comm, mk.injEq, IndexMap.mk.injEq]
    refine List.filter_congr fun e _ ↦ ?_
    by_cases he : e.1 = id <;> simp [he]

/-- Removing the entries that satisfy `p`, one by one, keeps the others. -/
theorem foldl_shiftRemove_filter (p : PacketId w × GenericStorePacket w → Bool) :
    ((s.map.entries.filter p).map Prod.fst).foldl shiftRemove s = s.retain fun e ↦ !p e := by
  rw [foldl_shiftRemove]
  simp only [retain, IndexMap.retain, mk.injEq, IndexMap.mk.injEq]
  refine List.filter_congr fun e he ↦ ?_
  have huniq : ∀ p', (e.1, p') ∈ s.map.entries → p' = e.2 := fun p' hp' ↦
    IndexMap.mem_entries_unique hp' he
  cases hp : p e with
  | true =>
    simp only [List.contains_eq_mem, List.mem_map, List.mem_filter, Bool.not_true,
      Bool.not_eq_false', decide_eq_true_eq]
    exact ⟨e, ⟨he, hp⟩, rfl⟩
  | false =>
    simp only [List.contains_eq_mem, List.mem_map, List.mem_filter, Bool.not_false,
      Bool.not_eq_true', decide_eq_false_iff_not, not_exists]
    rintro ⟨k, p'⟩ ⟨⟨hmem, hsat⟩, rfl⟩
    obtain rfl := huniq p' hmem
    simp [hp] at hsat

abbrev Entry (w : IdWidth) := PacketId w × GenericStorePacket w

def answeredBy (response : ResponsePacket) (id : PacketId w) (e : Entry w) : Bool :=
  e.1 = id ∧ e.2.responsePacket = some response

theorem entries_erase :
    (s.erase response id).map.entries = s.map.entries.filter fun e ↦ !answeredBy response id e := by
  have hstay (h : ∀ e ∈ s.map.entries, ¬ answeredBy response id e) :
      s.map.entries = s.map.entries.filter fun e ↦ !answeredBy response id e := by
    refine (List.filter_eq_self.mpr fun e he ↦ ?_).symm
    simpa using h e he
  unfold erase
  cases hget : s.map.get id with
  | none =>
    refine hstay fun e he ha ↦ ?_
    obtain ⟨rfl, -⟩ := of_decide_eq_true ha
    cases hget.symm.trans (IndexMap.get_eq_some.mpr he)
  | some packet =>
    have hpacket (e : Entry w) (he : e ∈ s.map.entries) (hid : e.1 = id) : e.2 = packet := by
      subst hid
      exact Option.some.inj ((IndexMap.get_eq_some.mpr he).symm.trans hget)
    dsimp only
    split
    · rename_i hr
      refine List.filter_congr fun e he ↦ ?_
      by_cases hid : e.1 = id
      · simp [answeredBy, hid, hpacket e he hid, hr]
      · simp [answeredBy, hid]
    · rename_i hr
      refine hstay fun e he ha ↦ ?_
      obtain ⟨hid, hresp⟩ := of_decide_eq_true ha
      exact hr (hpacket e he hid ▸ hresp)

theorem entries_add (h : s.add packet = .ok s') : ∃ id, packet.packetId = some id ∧
      s'.map.entries = s.map.entries ++ [(id, packet)] := by
  unfold add at h
  split at h
  · cases h
  · rename_i id hid
    split at h
    · cases h
    · rename_i hc
      obtain rfl := Fallible.ok.inj h
      refine ⟨id, hid, IndexMap.insert_of_notMem ?_⟩
      simpa [containsKey, IndexMap.containsKey] using hc

end GenericStore

end MqttProtocolCore.Connection
