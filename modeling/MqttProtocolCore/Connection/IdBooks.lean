import MqttProtocolCore.Connection.HandoverSender
import MqttProtocolCore.Connection.RoleSafety

namespace MqttProtocolCore.Connection

open General Packet

variable {w : IdWidth}

def startsAnew (packet : GenericPacket w) : Bool :=
  packet.connectOf = some true ∨ packet.connackOf = some false

def renewed (events : List (GenericEvent w)) : Bool :=
  (requested events).any (fun p ↦ p.connectOf = some true) || (notified events).any startsAnew

def restoredId (packet : GenericStorePacket w) : Option (PacketId w) :=
  (GenericConnection.restoredAck packet).bind fun _ ↦ packet.packetId

def handedOut (op : Operation w) (reply : Reply w) : Option (PacketId w) :=
  match op, reply with
  | .acquirePacketId, .acquired id => some id
  | .registerPacketId id, .registered => some id
  | _, _ => none

def taken (op : Operation w) (reply : Reply w) : Set (PacketId w) :=
  match op with
  | .restorePackets packets => {id | ∃ p ∈ packets, restoredId p = some id}
  | _ => {id | handedOut op reply = some id}

/-- The books that the application can keep of the identifiers in use, from the replies and the
events alone; the identifier 0 counts as used. -/
def bookAfter (books : Set (PacketId w))
    (t : Transition (GenericConnection w) (Operation w) (Reply w)) : Set (PacketId w) :=
  if renewed t.output.toEvents then {0}
  else (books ∪ taken t.input t.output) \ {id | id ∈ released t.output.toEvents}

namespace GenericConnection

variable {c c' : GenericConnection w} {packet : GenericPacket w} {id u : PacketId w}
  {input : Input w} {s : Session w} {rep : Report w} {op : Operation w} {reply : Reply w}
  {books : Set (PacketId w)}

section Change

def Renewed (rep : Report w) : Prop :=
  (∃ p ∈ rep.requested, p.connectOf = some true) ∨ ∃ p ∈ rep.notified, startsAnew p

theorem renewed_iff {events : List (GenericEvent w)} :
    renewed events ↔ Renewed (report events) := by
  simp [renewed, Renewed, report, List.any_eq_true]

theorem plain_of_publishOf {a : PacketId w × Qos} (h : packet.publishOf = some a) :
    packet.connectOf ≠ some true ∧ startsAnew packet = false := by
  cases packet <;> first | exact ⟨by simp [GenericPacket.connectOf], rfl⟩ | cases h

theorem plain_of_ackOf {a : AckKind × PacketId w} (h : ackOf packet = some a) :
    packet.connectOf ≠ some true ∧ startsAnew packet = false := by
  cases packet <;> first | exact ⟨by simp [GenericPacket.connectOf], rfl⟩ | cases h

theorem plain_of_pubrelOf (h : packet.pubrelOf = some id) :
    packet.connectOf ≠ some true ∧ startsAnew packet = false := by
  cases packet <;> first | exact ⟨by simp [GenericPacket.connectOf], rfl⟩ | cases h

theorem plain_of_subscriptionOf {a : AckKind × PacketId w} (h : subscriptionOf packet = some a) :
    packet.connectOf ≠ some true ∧ startsAnew packet = false := by
  cases packet <;> first | exact ⟨by simp [GenericPacket.connectOf], rfl⟩ | cases h

theorem plain_stored (stored : GenericStorePacket w) :
    stored.toPacket.connectOf ≠ some true ∧ startsAnew stored.toPacket = false := by
  cases stored <;> exact ⟨by simp [GenericStorePacket.toPacket, GenericPacket.connectOf], rfl⟩

theorem plain_of_connectOf (h : packet.connectOf = some false) : startsAnew packet = false := by
  cases packet with
  | v311Connect p | v50Connect p => simp [startsAnew, h, GenericPacket.connackOf]
  | _ => cases h

theorem plain_of_connackOf {present : Bool} (h : packet.connackOf = some present) :
    packet.connectOf ≠ some true ∧ (present = true → startsAnew packet = false) := by
  cases packet with
  | v311Connack p | v50Connack p => simp [startsAnew, h, GenericPacket.connectOf]
  | _ => cases h

theorem not_renewed (hr : ∀ p ∈ rep.requested, p.connectOf ≠ some true)
    (hn : ∀ p ∈ rep.notified, startsAnew p = false) : ¬ Renewed rep := by
  intro h
  rcases h with ⟨p, hp, ha⟩ | ⟨p, hp, ha⟩
  · exact hr p hp ha
  · simp [hn p hp] at ha

theorem plain_of_resends {s s' : Session w} {limit : ℕ} {requested : List (GenericPacket w)}
    {released : List (PacketId w)} (h : s.Resends s' limit requested released) :
    ∀ p ∈ requested, p.connectOf ≠ some true := by
  intro p hp
  obtain ⟨id, stored, -, -, rfl⟩ := (h.requested p).mp hp
  exact (plain_stored stored).1

/-- Nothing that is announced has started the session anew, or all identifiers are free. -/
theorem Change.renewed_used (h : Change c input s rep) (hren : Renewed rep) : s.used = {0} := by
  have hsilent {requested : List (GenericPacket w)} (hr : ∀ p ∈ requested, Silent p) :
      ∀ p ∈ requested, p.connectOf ≠ some true := by
    intro p hp
    simp [(hr p hp).connect]
  have hcalm {notified : List (GenericPacket w)}
      (hn : ∀ p ∈ notified, (Input.receive p).Calm) : ∀ p ∈ notified, startsAnew p = false := by
    intro p hp
    obtain ⟨hconnect, hconnack, -⟩ := hn p hp
    simp [startsAnew, hconnect, hconnack]
  have hno {p : Prop} (hr : ∀ p ∈ rep.requested, p.connectOf ≠ some true)
      (hn : ∀ p ∈ rep.notified, startsAnew p = false) : p := (not_renewed hr hn hren).elim
  cases h with
  | refused _ _ hr _ => exact hno (hsilent hr) (by simp)
  | idle _ _ hr hn => exact hno (hsilent hr) (hcalm hn)
  | answered _ hr hn => exact hno (fun p hp ↦ by simp [(hr p hp).1]) (hcalm hn)
  | pubrecSent hack _ => exact hno (by simpa using (plain_of_ackOf hack).1) (by simp)
  | @connectSent packet clean hp _ =>
    cases clean with
    | true => rfl
    | false => exact hno (by simp [hp]) (by simp)
  | @connectReceived packet clean v hp _ _ =>
    cases clean with
    | true => rfl
    | false => exact hno (by simp) (by simpa using plain_of_connectOf hp)
  | connackSent hp _ hres =>
    refine hno ?_ (by simp)
    intro p hmem
    obtain rfl | hmem := List.mem_cons.mp hmem
    · exact (plain_of_connackOf hp).1
    · exact plain_of_resends hres p hmem
  | connackResumes hp hres =>
    exact hno (plain_of_resends hres) (by simpa using (plain_of_connackOf hp).2 rfl)
  | connackAnew _ => rfl
  | published _ _ _ hsent _ =>
    refine hno ?_ (by simp)
    dsimp only
    split
    · simpa using (plain_of_publishOf hsent.1).1
    · simp
  | pubrelSent hp _ _ =>
    refine hno ?_ (by simp)
    dsimp only
    split
    · simpa using (plain_of_pubrelOf hp).1
    · simp
  | subscribed hp _ => exact hno (by simpa using (plain_of_subscriptionOf hp).1) (by simp)
  | publishReceived _ hnotice hr =>
    refine hno (fun p hp ↦ (plain_of_ackOf (hr p hp).1).1) ?_
    dsimp only
    split
    · simp
    · simpa using (plain_of_publishOf hnotice).2
  | publishDropped _ _ _ _ _ hr _ => exact hno (hsilent hr) (by simp)
  | acknowledged hack _ _ _ => exact hno (by simp) (by simpa using (plain_of_ackOf hack).2)
  | pubrecReceived hack _ _ _ hs =>
    refine hno ?_ (by simpa using (plain_of_ackOf hack).2)
    rcases hs with ⟨rfl, -, -⟩ | ⟨-, -, pubrel, hp, rfl, -⟩
    · simp
    · simpa using (plain_of_pubrelOf hp).1
  | pubrecFailed _ _ => exact hno (by simp) (by simp [startsAnew, GenericPacket.connectOf, GenericPacket.connackOf])
  | pubrelReceived hp hr =>
    exact hno (fun p hp ↦ (plain_of_ackOf (hr p hp)).1) (by simpa using (plain_of_pubrelOf hp).2)
  | subscriptionAcked hack _ _ => exact hno (by simp) (by simpa using (plain_of_ackOf hack).2)
  | _ => exact hno (by simp) (by simp)

theorem restore_used (s : Session w) (packet : GenericStorePacket w) :
    (s.restore packet).used = s.used ∪ {id | restoredId packet = some id} := by
  unfold Session.restore restoredId
  split
  · rename_i kind id hack hid
    have hawait : (s.await kind id).used = s.used := rfl
    ext u
    simp only [hack, hid, hawait, Option.bind_some, Set.mem_union, Set.mem_ofPred_eq,
      Option.some.injEq]
    split
    · rw [hawait]
      grind
    · rw [Set.mem_insert_iff]
      grind
  · rename_i hnone
    have hid : (restoredAck packet).bind (fun _ ↦ packet.packetId) = none := by
      cases hack : restoredAck packet with
      | none => rfl
      | some kind =>
        cases hid : packet.packetId with
        | none => rfl
        | some id => exact (hnone kind id hack hid).elim
    simp [hid]

/-- What is restored is in use afterwards, and nothing else is taken. -/
theorem foldl_restore_taken (packets : List (GenericStorePacket w)) (s : Session w) :
    (packets.foldl Session.restore s).used =
      s.used ∪ {id | ∃ p ∈ packets, restoredId p = some id} := by
  induction packets generalizing s with
  | nil => simp
  | cons packet packets ih =>
    rw [List.foldl_cons, ih, restore_used]
    ext u
    simp only [List.mem_cons, exists_eq_or_imp, Set.mem_union, Set.mem_ofPred_eq, or_assoc]

/-- Nothing gets into use but what the application takes, unless the session starts anew. -/
theorem Change.used_new (h : Change c input s rep) (hren : ¬ Renewed rep) (hu : u ∈ s.used) :
    u ∈ c.session.used ∨ input = .acquire ∨ input = .register u ∨
      ∃ packets, input = .restore packets ∧ ∃ p ∈ packets, restoredId p = some u := by
  cases h with
  | @connectSent packet clean hp _ =>
    cases clean with
    | true => exact (hren (.inl ⟨packet, by simp, hp⟩)).elim
    | false => exact .inl hu
  | @connectReceived packet clean v hp _ _ =>
    cases clean with
    | true => exact (hren (.inr ⟨packet, by simp, by simp [startsAnew, hp]⟩)).elim
    | false => exact .inl hu
  | @connackAnew packet hp =>
    exact (hren (.inr ⟨packet, by simp, by simp [startsAnew, hp]⟩)).elim
  | connackSent _ _ hres | connackResumes _ hres =>
    rw [hres.used] at hu
    exact .inl hu.1
  | publishRefused | subscriptionRefused | released | subscriptionAcked | closed =>
    exact .inl hu.1
  | publishWithdrawn _ _ _ hs =>
    rcases hs with ⟨-, rfl⟩ | ⟨-, -, p, -, -, rfl⟩ <;> exact .inl hu.1
  | published _ _ _ _ hs =>
    rw [Session.counted_frame] at hu
    rcases hs with ⟨-, rfl⟩ | ⟨-, -, p, -, -, rfl⟩ <;> exact .inl hu
  | pubrelSent _ _ hs =>
    left
    rcases hs with ⟨-, rfl⟩ | ⟨-, -, p, -, rfl⟩ <;> split at hu <;> exact hu
  | acknowledged | pubrecFailed =>
    rw [Session.finished_frame] at hu
    exact .inl hu.1
  | pubrecReceived _ _ _ _ hs =>
    left
    rcases hs with ⟨-, -, rfl⟩ | ⟨-, -, _, -, -, ⟨-, rfl⟩ | ⟨-, -, _, -, rfl⟩⟩ <;> exact hu
  | acquired => exact .inr (.inl rfl)
  | registered _ =>
    rcases hu with rfl | hu
    · exact .inr (.inr (.inl rfl))
    · exact .inl hu
  | @restored packets =>
    rw [foldl_restore_taken] at hu
    rcases hu with hu | hu
    · exact .inl hu
    · exact .inr (.inr (.inr ⟨packets, rfl, hu⟩))
  | _ => exact .inl hu

end Change

theorem bookAfter_quiet {c' : GenericConnection w} (h : reply.toEvents = []) :
    bookAfter books ⟨c, op, c', reply⟩ = books ∪ taken op reply := by
  simp [bookAfter, h, renewed, requested, notified, released]

theorem acquire_of_inputOf (h : c.inputOf op = .acquire) : op = .acquirePacketId := by
  cases op with
  | acquirePacketId => rfl
  | recv data =>
    unfold inputOf at h
    cases ha : c.arrival data <;> simp [ha] at h
  | _ => cases h

theorem register_of_inputOf (h : c.inputOf op = .register id) : op = .registerPacketId id := by
  cases op with
  | registerPacketId u =>
    obtain rfl := Input.register.inj h
    rfl
  | recv data =>
    unfold inputOf at h
    cases ha : c.arrival data <;> simp [ha] at h
  | _ => cases h

theorem Renews.renewed (h : Renews c rep input) : Renewed rep := by
  cases h with
  | cleanSent hp _ hmem => exact .inl ⟨_, hmem, hp⟩
  | cleanReceived hp _ hmem => exact .inr ⟨_, hmem, by simp [startsAnew, hp]⟩
  | sessionDenied hp hmem => exact .inr ⟨_, hmem, by simp [startsAnew, hp]⟩

/-- An operation that takes no identifier gives back those that it announces. -/
theorem step_gives {r : GenericConnection w × Reply w} (hc : c.Reading)
    (hacquire : op ≠ .acquirePacketId) (hregister : ∀ id, op ≠ .registerPacketId id)
    (hrestore : ∀ packets, op ≠ .restorePackets packets) (hr : c.step op = .ret r) :
    r.1.session.used = if renewed r.2.toEvents then {0}
      else c.session.used \ {id | id ∈ released r.2.toEvents} := by
  obtain ⟨-, c₀, hprep, hchange⟩ := (step_spec hc op).of_ret hr
  have hused : c₀.session.used = c.session.used := by rw [hprep.session]
  by_cases hren : renewed r.2.toEvents
  · rw [if_pos hren]
    exact hchange.renewed_used (renewed_iff.mp hren)
  rw [if_neg hren]
  have hren' : ¬ Renewed (report r.2.toEvents) := fun h ↦ hren (renewed_iff.mpr h)
  ext u
  constructor
  · intro hu
    refine ⟨?_, fun hrel ↦ hchange.released_unused hrel hu⟩
    rcases hchange.used_new hren' hu with h | h | h | ⟨packets, h, -⟩
    · exact hused ▸ h
    · exact (hacquire (acquire_of_inputOf h)).elim
    · exact (hregister u (register_of_inputOf h)).elim
    · exact (hrestore packets (restore_of_inputOf h)).elim
  · intro hu
    rcases hchange.used_kept (hused ▸ hu.1) with h | h | h
    · exact h
    · exact (hu.2 h).elim
    · exact (hren' h.renewed).elim

/-- The books are right after an operation if they were before, and what it hands out is new. -/
theorem step_books (hc : c.Reading) (op : Operation w) : (c.step op).Ensures fun r ↦
    r.1.session.used = bookAfter c.session.used ⟨c, op, r.1, r.2⟩ ∧
      ∀ id, handedOut op r.2 = some id → id ∉ c.session.used := by
  have hinsert (id : PacketId w) (books : Set (PacketId w)) :
      insert id books = books ∪ {u | some id = some u} := by
    ext u
    simp [eq_comm]
  have hother {r : GenericConnection w × Reply w} (hr : c.step op = .ret r)
      (hacquire : op ≠ .acquirePacketId) (hregister : ∀ id, op ≠ .registerPacketId id)
      (hrestore : ∀ packets, op ≠ .restorePackets packets) (htaken : taken op r.2 = ∅)
      (hnone : handedOut op r.2 = none) :
      r.1.session.used = bookAfter c.session.used ⟨c, op, r.1, r.2⟩ ∧
        ∀ id, handedOut op r.2 = some id → id ∉ c.session.used := by
    refine ⟨?_, fun id hid ↦ by simp [hnone] at hid⟩
    rw [step_gives hc hacquire hregister hrestore hr, bookAfter, htaken, Set.union_empty]
  intro r hr
  cases op with
  | acquirePacketId =>
    cases ha : c.acquirePacketId with
    | ok a =>
      obtain ⟨hfree, hs⟩ := acquirePacketId_spec ha
      rw [step_acquired ha] at hr
      obtain rfl := Outcome.ret.inj hr
      rw [bookAfter_quiet rfl, hs]
      refine ⟨hinsert a.1 _, fun id hid ↦ ?_⟩
      obtain rfl := Option.some.inj hid
      exact hfree
    | error e =>
      rw [step_unacquired ha] at hr
      obtain rfl := Outcome.ret.inj hr
      rw [bookAfter_quiet rfl]
      simp [taken, handedOut]
  | registerPacketId id =>
    cases ha : c.registerPacketId id with
    | ok c' =>
      obtain ⟨hfree, hs⟩ := registerPacketId_spec ha
      rw [step_registered ha] at hr
      obtain rfl := Outcome.ret.inj hr
      rw [bookAfter_quiet rfl, hs]
      refine ⟨hinsert id _, fun u hu ↦ ?_⟩
      obtain rfl := Option.some.inj hu
      exact hfree
    | error e =>
      rw [step_unregistered ha] at hr
      obtain rfl := Outcome.ret.inj hr
      rw [bookAfter_quiet rfl]
      simp [taken, handedOut]
  | restorePackets packets =>
    obtain ⟨c', hc', hs, -⟩ := c.restorePackets_spec packets
    obtain ⟨c₁, hc₁, hret⟩ := Outcome.bind_eq_ret.mp hr
    obtain rfl := Outcome.ret.inj (hc'.symm.trans hc₁)
    obtain rfl := Outcome.ret.inj hret
    rw [bookAfter_quiet rfl, hs, foldl_restore_taken]
    exact ⟨rfl, fun id hid ↦ by cases hid⟩
  | _ =>
    refine hother hr (by simp) (by simp) (by simp) ?_ rfl
    simp [taken, handedOut]

theorem booked_init (p : GenericConnection w × Set (PacketId w))
    (h : ((system w).monitor {0} bookAfter).Init p) : p.1.Reading ∧ p.1.session.used = p.2 := by
  obtain ⟨⟨role, version, hnew⟩, hempty⟩ := h
  refine ⟨hnew ▸ ⟨[], .header⟩, ?_⟩
  rw [hnew, hempty]
  ext u
  exact PacketIdManager.isUsedId_new

theorem booked_step {p : GenericConnection w × Set (PacketId w)}
    (hp : p.1.Reading ∧ p.1.session.used = p.2) (op : Operation w) :
    (((system w).monitor {0} bookAfter).step p op).Ensures fun r ↦
      (r.1.1.Reading ∧ r.1.1.session.used = r.1.2) ∧
        ∀ id, handedOut op r.2 = some id → id ∉ p.2 := by
  obtain ⟨hread, hused⟩ := hp
  intro r hr
  obtain ⟨r', hstep, hret⟩ := Outcome.bind_eq_ret.mp hr
  obtain rfl := Outcome.ret.inj hret
  obtain ⟨hbooks, hfresh⟩ := step_books hread op r' hstep
  rw [hused] at hbooks hfresh
  exact ⟨⟨step_reading hread op r' hstep, hbooks⟩, hfresh⟩

variable {trace : List (Transition (GenericConnection w × Set (PacketId w)) (Operation w) (Reply w))}

/-- In every run the books that the application keeps from the replies and the events are exactly
the identifiers in use, and an identifier that is handed out was not on the books. -/
theorem identifiers_booked {ok : GenericConnection w × Set (PacketId w) → Operation w → Prop}
    (h : Run ((system w).monitor {0} bookAfter) ok trace (c, books)) :
    (∀ id, c.pidMan.isUsedId id ↔ id ∈ books) ∧
      ∀ t ∈ trace, ∀ id, handedOut t.input t.output = some id → id ∉ t.before.2 := by
  obtain ⟨⟨-, hbooks⟩, hfresh⟩ := h.transitions
    (I := fun p ↦ p.1.Reading ∧ p.1.session.used = p.2)
    (P := fun t ↦ ∀ id, handedOut t.input t.output = some id → id ∉ t.before.2)
    booked_init fun p op hp _ ↦ booked_step hp op
  refine ⟨fun id ↦ ?_, hfresh⟩
  have hid : id ∈ c.session.used ↔ id ∈ books := by rw [hbooks]
  exact hid

theorem identifiers_booked_acquire : ∃ (c : GenericConnection .u16) (books : Set (PacketId .u16))
    (trace : List (Transition (GenericConnection .u16 × Set (PacketId .u16)) _ _)),
    c.pidMan.isUsedId 1 ∧ ¬ c.pidMan.isUsedId 2 ∧ (∀ id, c.pidMan.isUsedId id ↔ id ∈ books) ∧
      ∀ t ∈ trace, ∀ id, handedOut t.input t.output = some id → id ∉ t.before.2 := by
  obtain ⟨⟨trace, c⟩, hrun, h₁, h₂⟩ : ((system .u16).run (new .client .u16 .v311)
      [.acquirePacketId, .acquirePacketId, .releasePacketId 2]).Attains fun r ↦
        r.2.pidMan.isUsedId 1 ∧ ¬ r.2.pidMan.isUsedId 2 := by
    decide +kernel
  have hinit : (system .u16).Init (new .client .u16 .v311) := ⟨.client, .v311, rfl⟩
  obtain ⟨trace', hrun'⟩ := @Run.monitor_run _ _ _ _ (system .u16) {0} bookAfter _ _ _ _ hinit hrun
  obtain ⟨hbooks, hfresh⟩ := identifiers_booked hrun'
  exact ⟨c, _, trace', h₁, h₂, hbooks, hfresh⟩

end GenericConnection

end MqttProtocolCore.Connection
