import MqttProtocolCore.Connection.ExactRelease
import MqttProtocolCore.General.Handover

namespace MqttProtocolCore.Connection

open General Packet GenericConnection

variable {w : IdWidth} {u id : PacketId w} {packet q : GenericPacket w} {kind : AckKind} {v : Version}
  {stored : GenericStorePacket w} {s s' : Session w} {rep : Report w} {input : Input w}
  {stage : Stage} {owed : List (AckKind × PacketId w)} {requested notified : List (GenericPacket w)}

instance (packet : GenericPacket w) : Decidable (continues packet) :=
  inferInstanceAs (Decidable (_ ∨ _))

def forthOf (u : PacketId w) (packet : GenericPacket w) : Option Forth :=
  if packet.publishOf = some (u, .exactlyOnce) then some .offer
  else if packet.pubrelOf = some u then some .confirm
  else none

def backOf (u : PacketId w) (packet : GenericPacket w) : Option Back :=
  if ackOf packet = some (.pubrec, u) then
    if continues packet then some .accept else some .decline
  else if ackOf packet = some (.pubcomp, u) then some .finish
  else none

theorem backOf_cases {t : Back} (h : backOf u packet = some t) :
    ackOf packet = some (.pubrec, u) ∧ t ≠ .finish ∨
      ackOf packet = some (.pubcomp, u) ∧ t = .finish := by
  unfold backOf at h
  split at h
  · left
    refine ⟨‹_›, ?_⟩
    split at h <;> cases h <;> nofun
  · split at h
    · exact .inr ⟨‹_›, (Option.some.inj h).symm⟩
    · cases h

theorem backOf_eq_none : backOf u packet = none ↔
    ackOf packet ≠ some (.pubrec, u) ∧ ackOf packet ≠ some (.pubcomp, u) := by
  unfold backOf
  split
  · rename_i h
    split <;> simp [h]
  · split <;> simp [*]

def resentOf : AckKind → Option Forth
  | .pubrec => some .offer
  | .pubcomp => some .confirm
  | _ => none

theorem forthOf_of_part (h : partOf packet ≠ .publish) (h' : partOf packet ≠ .pubrel) :
    forthOf u packet = none := by
  unfold forthOf
  rw [publishOf_eq_none h, pubrelOf_eq_none h']
  simp

theorem forthOf_silent (h : Silent packet) : forthOf u packet = none := by
  unfold forthOf
  rw [h.publish, h.pubrel]
  simp

theorem forthOf_publish {qos : Qos} (h : packet.publishOf = some (id, qos)) :
    forthOf u packet = if id = u ∧ qos = .exactlyOnce then some .offer else none := by
  have hpubrel : packet.pubrelOf = none := pubrelOf_eq_none (by simp [partOf_publish h])
  unfold forthOf
  simp [h, hpubrel]

theorem forthOf_pubrel (h : packet.pubrelOf = some id) :
    forthOf u packet = if id = u then some .confirm else none := by
  have hpublish : packet.publishOf = none := publishOf_eq_none (by simp [partOf_pubrel h])
  unfold forthOf
  simp [h, hpublish]

theorem backOf_of_none (h : ackOf packet = none) : backOf u packet = none := by
  unfold backOf
  rw [h]
  simp

theorem backOf_of_part (h : partOf packet ≠ .ack) : backOf u packet = none :=
  backOf_of_none (ackOf_eq_none h)

theorem backOf_ack (h : ackOf packet = some (kind, id)) (hu : id ≠ u) : backOf u packet = none := by
  unfold backOf
  simp [h, hu]

theorem forthOf_toPacket (h : stored.packetId = some id) :
    forthOf u stored.toPacket = if id = u then (restoredAck stored).bind resentOf else none := by
  cases stored with
  | v311Publish p =>
    have hid : p.packetId = some id := h
    have hp : (GenericStorePacket.v311Publish p).toPacket.publishOf = some (id, p.qos) := by
      simp [GenericStorePacket.toPacket, GenericPacket.publishOf, hid]
    rw [forthOf_publish hp]
    cases hq : p.qos <;> simp [restoredAck, publishAck, hq, resentOf]
  | v50Publish p =>
    have hid : p.packetId = some id := h
    have hp : (GenericStorePacket.v50Publish p).toPacket.publishOf = some (id, p.qos) := by
      simp [GenericStorePacket.toPacket, GenericPacket.publishOf, hid]
    rw [forthOf_publish hp]
    cases hq : p.qos <;> simp [restoredAck, publishAck, hq, resentOf]
  | v311Pubrel p =>
    have hp : (GenericStorePacket.v311Pubrel p).toPacket.pubrelOf = some id := h
    rw [forthOf_pubrel hp]
    simp [restoredAck, resentOf]
  | v50Pubrel p =>
    have hp : (GenericStorePacket.v50Pubrel p).toPacket.pubrelOf = some id := h
    rw [forthOf_pubrel hp]
    simp [restoredAck, resentOf]

def Told (u : PacketId w) (notified : List (GenericPacket w)) : Prop :=
  ∃ p ∈ notified, p.publishOf = some (u, .exactlyOnce)

def owedOf (packet : GenericPacket w) : Option (AckKind × PacketId w) :=
  match packet.publishOf, packet.pubrelOf with
  | some (id, .exactlyOnce), _ => some (.pubrec, id)
  | _, some id => some (.pubcomp, id)
  | _, none => none

def owes (owed : List (AckKind × PacketId w)) (requested notified : List (GenericPacket w)) :
    List (AckKind × PacketId w) :=
  (owed ++ notified.filterMap owedOf).filter fun a ↦ a ∉ requested.filterMap ackOf

def dueOf (u : PacketId w) (owed : AckKind × PacketId w) : Option Due :=
  if owed = (.pubrec, u) then some .answer
  else if owed = (.pubcomp, u) then some .finish
  else none

def dueFor : Forth → Due
  | .offer => .answer
  | .confirm => .finish

theorem owedOf_bind (u : PacketId w) (packet : GenericPacket w) :
    (owedOf packet).bind (dueOf u) = (forthOf u packet).map dueFor := by
  cases hp : packet.publishOf with
  | some a =>
    obtain ⟨id, qos⟩ := a
    have hpubrel : packet.pubrelOf = none := pubrelOf_eq_none (by simp [partOf_publish hp])
    rw [forthOf_publish hp]
    unfold owedOf
    rw [hp, hpubrel]
    cases qos <;> by_cases hu : id = u <;> simp [dueOf, dueFor, hu]
  | none =>
    cases hr : packet.pubrelOf with
    | some id =>
      rw [forthOf_pubrel hr]
      unfold owedOf
      rw [hp, hr]
      by_cases hu : id = u <;> simp [dueOf, dueFor, hu]
    | none =>
      unfold owedOf forthOf
      simp [hp, hr]

def ackFor (u : PacketId w) : Due → AckKind × PacketId w
  | .answer => (.pubrec, u)
  | .finish => (.pubcomp, u)

theorem dueOf_eq_some {a : AckKind × PacketId w} {d : Due} (h : dueOf u a = some d) :
    a = ackFor u d := by
  unfold dueOf at h
  split at h
  · cases h
    assumption
  · split at h
    · cases h
      assumption
    · cases h

theorem filterMap_owes : (owes owed requested notified).filterMap (dueOf u) =
    (owed.filterMap (dueOf u) ++ notified.filterMap fun p ↦ (forthOf u p).map dueFor).filter
      fun d ↦ ackFor u d ∉ requested.filterMap ackOf := by
  have hcomm (l : List (AckKind × PacketId w)) (sent : List (AckKind × PacketId w)) :
      (l.filter fun a ↦ a ∉ sent).filterMap (dueOf u) =
        (l.filterMap (dueOf u)).filter fun d ↦ ackFor u d ∉ sent := by
    induction l with
    | nil => rfl
    | cons a l ih =>
      cases hd : dueOf u a with
      | none =>
        rw [List.filterMap_cons_none hd, List.filter_cons]
        split
        · rw [List.filterMap_cons_none hd, ih]
        · exact ih
      | some d =>
        obtain rfl := dueOf_eq_some hd
        rw [List.filterMap_cons_some hd, List.filter_cons, List.filter_cons]
        split
        · rw [List.filterMap_cons_some hd, ih]
        · exact ih
  unfold owes
  rw [hcomm, List.filterMap_append, List.filterMap_filterMap]
  simp only [owedOf_bind]

theorem filterMap_owes_rest (hn : ∀ p ∈ notified, forthOf u p = none)
    (hr : ∀ q ∈ requested, backOf u q = none) :
    (owes owed requested notified).filterMap (dueOf u) = owed.filterMap (dueOf u) := by
  have hnone : (notified.filterMap fun p ↦ (forthOf u p).map dueFor) = [] :=
    List.filterMap_eq_nil_iff.mpr fun p hp ↦ by rw [hn p hp]; rfl
  rw [filterMap_owes, hnone, List.append_nil, List.filter_eq_self]
  intro d _
  simp only [List.mem_filterMap, not_exists, not_and, decide_eq_true_eq]
  intro q hq hack
  cases d with
  | answer => exact (backOf_eq_none.mp (hr q hq)).1 hack
  | finish => exact (backOf_eq_none.mp (hr q hq)).2 hack

theorem forthOf_calm (h : (Input.receive packet).Calm) : forthOf u packet = none := by
  obtain ⟨-, -, hpublish, hpubrel, -⟩ := h
  unfold forthOf
  rw [hpubrel]
  cases hp : packet.publishOf with
  | none => simp
  | some a =>
    rw [hp] at hpublish
    have hq : a.2 = .atLeastOnce := by simpa using hpublish
    have hne : a ≠ (u, .exactlyOnce) := by
      intro heq
      rw [heq] at hq
      cases hq
    simp [hne]

theorem dueOf_ackFor (u : PacketId w) (d : Due) : dueOf u (ackFor u d) = some d := by
  cases d <;> simp [dueOf, ackFor]

theorem due_of_mem {d : Due} (hdue : ∃ place : Place, owed.filterMap (dueOf u) = place.due)
    (h : ackFor u d ∈ owed) : owed.filterMap (dueOf u) = [d] := by
  obtain ⟨place, hplace⟩ := hdue
  have hmem : d ∈ owed.filterMap (dueOf u) := List.mem_filterMap.mpr ⟨_, h, dueOf_ackFor u d⟩
  rw [hplace] at hmem ⊢
  cases place <;> simp only [Place.due, List.mem_singleton, List.not_mem_nil] at hmem ⊢ <;> rw [hmem]

theorem filterMap_owes_paid {d : Due} (hdue : owed.filterMap (dueOf u) = [d])
    (hack : ackOf q = some (ackFor u d)) (hn : ∀ p ∈ notified, forthOf u p = none) :
    (owes owed [q] notified).filterMap (dueOf u) = [] := by
  have hnone : (notified.filterMap fun p ↦ (forthOf u p).map dueFor) = [] :=
    List.filterMap_eq_nil_iff.mpr fun p hp ↦ by rw [hn p hp]; rfl
  rw [filterMap_owes, hnone, hdue]
  simp [hack]

theorem backOf_accept (hack : ackOf q = some (.pubrec, u)) (hc : continues q) :
    backOf u q = some .accept := by
  unfold backOf
  rw [if_pos hack, if_pos hc]

theorem backOf_decline (hack : ackOf q = some (.pubrec, u)) (hc : ¬ continues q) :
    backOf u q = some .decline := by
  unfold backOf
  rw [if_pos hack, if_neg hc]

theorem backOf_finish (hack : ackOf q = some (.pubcomp, u)) : backOf u q = some .finish := by
  unfold backOf
  simp [hack]

namespace Session

/-- What is stored under an identifier carries that identifier, and has the version of the
session. -/
def Filed (s : Session w) (v : Version) : Prop := ∀ id stored, s.stored id = some stored →
  stored.packetId = some id ∧ stored.toPacket.protocolVersion = v

/-- What the store may hold for an exchange at a stage. -/
def Keeps : Stage → AckKind → Prop
  | .idle, kind | .dropped, kind => kind ≠ .pubrec ∧ kind ≠ .pubcomp
  | .offering, kind => kind ≠ .pubcomp
  | .confirming, kind => kind ≠ .pubrec

def Apart (s : Session w) (u : PacketId w) : Prop :=
  ∀ kind, kind ≠ .pubrec → kind ≠ .pubcomp → u ∉ s.awaits kind

/-- The sender has the exchange with an identifier at a stage. -/
structure At (s : Session w) (u : PacketId w) (stage : Stage) : Prop where
  used : stage ≠ .idle → u ∈ s.used
  offering : stage = .offering → u ∈ s.awaits .pubrec
  confirming : stage = .confirming → u ∈ s.awaits .pubcomp
  stored : ∀ stored kind, s.stored u = some stored → restoredAck stored = some kind →
    Keeps stage kind
  apart : stage ≠ .idle → s.Apart u
  nonzero : stage ≠ .idle → u ≠ 0

theorem At.congr (h : s.At u stage) (hu : u ∈ s.used → u ∈ s'.used)
    (hr : u ∈ s.awaits .pubrec → u ∈ s'.awaits .pubrec)
    (hc : u ∈ s.awaits .pubcomp → u ∈ s'.awaits .pubcomp)
    (hs : ∀ stored, s'.stored u = some stored → s.stored u = some stored)
    (ha : s.Apart u → s'.Apart u) : s'.At u stage :=
  ⟨fun hne ↦ hu (h.used hne), fun he ↦ hr (h.offering he), fun he ↦ hc (h.confirming he),
    fun stored kind hget ↦ h.stored stored kind (hs stored hget), fun hne ↦ ha (h.apart hne),
    h.nonzero⟩

theorem At.frame (h : s.At u stage) (hu : s'.used = s.used) (ha : s'.awaits = s.awaits)
    (hs : s'.stored = s.stored) : s'.At u stage := by
  apply h.congr
  · rw [hu]
    exact id
  · rw [ha]
    exact id
  · rw [ha]
    exact id
  · rw [hs]
    exact fun _ hget ↦ hget
  · unfold Apart
    rw [ha]
    exact id

theorem at_idle (h : ∀ stored kind, s.stored u = some stored → restoredAck stored = some kind →
    Keeps .idle kind) : s.At u .idle where
  used hne := (hne rfl).elim
  offering he := by cases he
  confirming he := by cases he
  stored := h
  apart hne := (hne rfl).elim
  nonzero hne := (hne rfl).elim

theorem At.idle (h : s.At u .idle)
    (hs : ∀ stored, s'.stored u = some stored → s.stored u = some stored) : s'.At u .idle :=
  at_idle fun stored kind hget ↦ h.stored stored kind (hs stored hget)

section Frame

variable {response : ResponsePacket}

theorem At.free (h : s.At u stage) (hne : stage ≠ .idle → id ≠ u) : (s.free id).At u stage :=
  ⟨fun hs ↦ ⟨h.used hs, (hne hs).symm⟩, h.offering, h.confirming, h.stored, h.apart, h.nonzero⟩

theorem At.await (h : s.At u stage) (hne : stage ≠ .idle → id ≠ u) : (s.await kind id).At u stage :=
  ⟨h.used, fun he ↦ mem_awaits_await.mpr (.inr (h.offering he)),
    fun he ↦ mem_awaits_await.mpr (.inr (h.confirming he)), h.stored, fun hs kind' hr hc hu ↦
      h.apart hs kind' hr hc ((awaits_await (hne hs).symm kind').mp hu), h.nonzero⟩

theorem At.keep (h : s.At u stage) (hne : id ≠ u) : (s.keep id stored).At u stage := by
  apply h.congr
  · exact fun hu ↦ hu
  · exact fun hu ↦ hu
  · exact fun hu ↦ hu
  · exact fun _ hs ↦ (Function.update_of_ne hne.symm _ _).symm.trans hs
  · exact fun ha ↦ ha

theorem At.settle (h : s.At u stage) (hne : id ≠ u) : (s.settle kind id).At u stage := by
  apply h.congr
  · exact fun hu ↦ hu
  · exact (awaits_settle hne.symm _).mpr
  · exact (awaits_settle hne.symm _).mpr
  · exact fun _ hs ↦ hs
  · exact fun ha kind' hr hc hu ↦ ha kind' hr hc ((awaits_settle hne.symm _).mp hu)

theorem stored_of_erase (hs : (s.erase response id).stored u = some stored) :
    s.stored u = some stored := by
  by_cases hu : u = id
  · subst hu
    have hs' := (Function.update_self u _ s.stored).symm.trans hs
    exact (Option.filter_eq_some_iff.mp hs').1
  · rwa [Session.erase_stored_of_ne hu] at hs

theorem At.erase (h : s.At u stage) : (s.erase response id).At u stage := by
  apply h.congr
  · exact fun hu ↦ hu
  · exact fun hu ↦ hu
  · exact fun hu ↦ hu
  · exact fun _ hs ↦ stored_of_erase hs
  · exact fun ha ↦ ha

theorem At.counted (h : s.At u stage) (v : Version) : (s.counted v).At u stage := by
  rw [Session.counted_frame]
  exact h.frame rfl rfl rfl

theorem At.finished (h : s.At u stage) (v : Version) : (s.finished v).At u stage := by
  rw [Session.finished_frame]
  exact h.frame rfl rfl rfl

theorem At.answered (h : s.At u stage) (hfiled : s.Filed v)
    (hack : ackOf packet = some (kind, u)) (hv : packet.protocolVersion = v)
    (hres : responseOf packet = some response) {kind' : AckKind}
    (hs : ((s.settle kind u).erase response u).stored u = some stored)
    (hk : restoredAck stored = some kind') : kind' ≠ kind ∧ Keeps stage kind' := by
  have hget : s.stored u = some stored := stored_of_erase hs
  refine ⟨fun heq ↦ ?_, h.stored stored kind' hget hk⟩
  have hget' : (s.settle kind u).stored u = some stored := hget
  refine (erase_removed hget').mpr ?_ hs
  rw [responsePacket_restored hk, (hfiled u stored hget).2, ← hres, responseOf_ack hack, hv, heq]

theorem at_clear (s : Session w) : s.clear.At u .idle := by
  apply at_idle
  intro stored kind hget
  cases hget

theorem notMem_clear (h : u ≠ 0) : u ∉ s.clear.used := h

theorem At.opened (h : s.At u stage) (v : Version) (keeps : Bool) (quota : Option ℕ) :
    (s.opened v false keeps quota).At u stage := by
  apply h.congr
  · exact fun hu ↦ hu
  · exact fun hu ↦ hu
  · exact fun hu ↦ hu
  · exact fun _ hs ↦ hs
  · intro ha kind hr hc hu
    cases kind with
    | puback => exact ha .puback hr hc hu
    | pubrec | pubcomp => simp at hr hc
    | suback | unsuback => exact hu

theorem At.closed (h : s.At u stage) (hkeeps : stage ≠ .idle → s.keeps) : s.closed.At u stage := by
  have hkept (hne : stage ≠ .idle) (kind : AckKind) (hk : publishes kind) (hu : u ∈ s.awaits kind) :
      u ∈ s.closed.awaits kind := by
    simpa [Session.closed, drains, hk, hkeeps hne] using hu
  refine ⟨fun hne ↦ ⟨h.used hne, ?_⟩, fun he ↦ ?_, fun he ↦ ?_, h.stored, fun hne kind hr hc hu ↦ ?_,
    h.nonzero⟩
  · intro hd
    obtain ⟨kind, hdrains, hmem⟩ := hd
    cases kind with
    | suback => exact h.apart hne .suback (by simp) (by simp) hmem
    | unsuback => exact h.apart hne .unsuback (by simp) (by simp) hmem
    | _ => simp [drains, publishes, hkeeps hne] at hdrains
  · exact hkept (by simp [he]) _ rfl (h.offering he)
  · exact hkept (by simp [he]) _ rfl (h.confirming he)
  · refine h.apart hne kind hr hc ?_
    have hu' : u ∈ if s.drains kind then ∅ else s.awaits kind := hu
    split at hu'
    · cases hu'
    · exact hu'

theorem At.resends {limit : ℕ} {requested : List (GenericPacket w)} {released : List (PacketId w)}
    (h : s.At u stage) (hres : s.Resends s' limit requested released)
    (hfits : ∀ stored, s.stored u = some stored → s'.stored u = some stored) : s'.At u stage := by
  have hstate := hres.state
  refine h.congr (fun hu ↦ ?_) (fun hu ↦ ?_) (fun hu ↦ ?_) (fun st hs ↦ ?_) fun ha ↦ ?_
  · rw [hres.used]
    refine ⟨hu, fun hmem ↦ ?_⟩
    obtain ⟨st, hget, hlt⟩ := (hres.released u).mp hmem
    have hkept := hfits st hget
    rw [hres.stored, hget] at hkept
    have hle := (Option.filter_eq_some_iff.mp hkept).2
    simp only [decide_eq_true_eq] at hle
    omega
  · rw [hstate]
    exact hu
  · rw [hstate]
    exact hu
  · rw [hres.stored] at hs
    exact (Option.filter_eq_some_iff.mp hs).1
  · rw [hstate]
    exact ha

end Frame

theorem At.resent {follows renews : Prop} (h : s.At u stage) (hfiled : s.Filed v) :
    SenderMove follows renews stage none stage
      ((s.stored u).bind fun stored ↦ forthOf u stored.toPacket).toList := by
  cases hs : s.stored u with
  | none => exact .rest
  | some stored =>
    rw [Option.bind_some, forthOf_toPacket (hfiled u stored hs).1, if_pos rfl]
    cases hk : restoredAck stored with
    | none => exact .rest
    | some kind =>
      have hkeeps := h.stored stored kind hs hk
      rw [Option.bind_some]
      cases stage <;> cases kind <;> simp only [Keeps, ne_eq, not_true_eq_false, and_false, false_and,
        reduceCtorEq, not_false_eq_true, and_self] at hkeeps
      all_goals first | exact .rest | exact .repeats | exact .reconfirms

end Session

end MqttProtocolCore.Connection
