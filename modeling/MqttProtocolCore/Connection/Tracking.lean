import MqttProtocolCore.Connection.ClientRun
import MqttProtocolCore.Connection.Loss
import MqttProtocolCore.Connection.Violation

namespace MqttProtocolCore.Connection

open General Packet

variable {w : IdWidth}

/-- Every stored packet waits for its acknowledgement. -/
def Session.Tracked (s : Session w) : Prop :=
  ∀ id stored kind, s.stored id = some stored → GenericConnection.restoredAck stored = some kind →
    id ∈ s.awaits kind

namespace GenericConnection

variable {c c' : GenericConnection w} {packet : GenericPacket w} {op : Operation w}
  {input : Input w} {s s' : Session w} {rep : Report w} {id : PacketId w} {kind : AckKind}
  {stored : GenericStorePacket w} {data : Bytes} {r : Handled w}

theorem publishes_restoredAck (h : restoredAck stored = some kind) : Session.publishes kind := by
  cases stored with
  | v311Publish p =>
    simp only [restoredAck, publishAck] at h
    split at h
    · cases h
    · obtain rfl := Option.some.inj h
      split <;> rfl
  | v50Publish p =>
    simp only [restoredAck, publishAck] at h
    split at h
    · cases h
    · obtain rfl := Option.some.inj h
      split <;> rfl
  | v311Pubrel p => obtain rfl := Option.some.inj h; rfl
  | v50Pubrel p => obtain rfl := Option.some.inj h; rfl

def responseFor (v : Version) (kind : AckKind) : Option ResponsePacket :=
  match v, kind with
  | .v311, .puback => some .v311Puback
  | .v311, .pubrec => some .v311Pubrec
  | .v311, .pubcomp => some .v311Pubcomp
  | .v50, .puback => some .v50Puback
  | .v50, .pubrec => some .v50Pubrec
  | .v50, .pubcomp => some .v50Pubcomp
  | _, _ => none

theorem responsePacket_restored (h : restoredAck stored = some kind) :
    stored.responsePacket = responseFor stored.toPacket.protocolVersion kind := by
  cases stored with
  | v311Publish p =>
    cases hq : p.qos <;> simp only [restoredAck, publishAck, hq] at h <;> cases h <;>
      simp [GenericStorePacket.responsePacket, GenericStorePacket.publishResponse, hq,
        GenericStorePacket.toPacket, GenericPacket.protocolVersion, responseFor]
  | v50Publish p =>
    cases hq : p.qos <;> simp only [restoredAck, publishAck, hq] at h <;> cases h <;>
      simp [GenericStorePacket.responsePacket, GenericStorePacket.publishResponse, hq,
        GenericStorePacket.toPacket, GenericPacket.protocolVersion, responseFor]
  | v311Pubrel p => cases h; rfl
  | v50Pubrel p => cases h; rfl

theorem responseOf_ack (h : ackOf packet = some (kind, id)) :
    responseOf packet = responseFor packet.protocolVersion kind := by
  cases packet <;> cases h <;> rfl

/-- The settling of an exchange, with the stored packet that was answered. -/
theorem tracked_settle (h : c.session.Tracked) {response : ResponsePacket}
    (ha : ackOf packet = some (kind, id)) (hr : responseOf packet = some response)
    (hv : ∀ stored, c.session.stored id = some stored → restoredAck stored = some kind →
      stored.toPacket.protocolVersion = packet.protocolVersion) :
    ((c.session.settle kind id).erase response id).Tracked := by
  intro u stored kind' hu hk
  have hold : c.session.stored u = some stored ∧
      ¬ (u = id ∧ stored.responsePacket = some response) := by
    simp only [Session.erase, Session.settle] at hu
    by_cases hne : u = id
    · subst hne
      rw [Function.update_self] at hu
      obtain ⟨hs, hres⟩ := Option.filter_eq_some_iff.mp hu
      exact ⟨hs, fun h ↦ of_decide_eq_true hres h.2⟩
    · rw [Function.update_of_ne hne] at hu
      exact ⟨hu, fun h ↦ hne h.1⟩
  have hmem := h u stored kind' hold.1 hk
  change u ∈ Function.update c.session.awaits kind (c.session.awaits kind \ {id}) kind'
  by_cases hkind : kind' = kind
  · subst hkind
    rw [Function.update_self]
    refine ⟨hmem, fun hid ↦ hold.2 ⟨hid, ?_⟩⟩
    obtain rfl := hid
    rw [responsePacket_restored hk, hv stored hold.1 hk, ← responseOf_ack ha, hr]
  · rw [Function.update_of_ne hkind]
    exact hmem

theorem tracked_await (h : s.Tracked) : (s.await kind id).Tracked := by
  intro u stored kind' hu hk
  have hmem := h u stored kind' hu hk
  change u ∈ Function.update s.awaits kind (insert id (s.awaits kind)) kind'
  by_cases hkind : kind' = kind
  · subst hkind
    rw [Function.update_self]
    exact .inr hmem
  · rw [Function.update_of_ne hkind]
    exact hmem

theorem tracked_keep (h : s.Tracked) (hk : ∀ kind', restoredAck stored = some kind' → kind' = kind) :
    ((s.keep id stored).await kind id).Tracked := by
  intro u stored' kind' hu hk'
  simp only [Session.keep, Session.await] at hu ⊢
  by_cases hid : u = id
  · subst hid
    rw [Function.update_self] at hu
    obtain rfl := Option.some.inj hu
    obtain rfl := hk kind' hk'
    simp
  · rw [Function.update_of_ne hid] at hu
    exact tracked_await h u stored' kind' hu hk'

theorem tracked_restore (h : s.Tracked) (stored : GenericStorePacket w) : (s.restore stored).Tracked := by
  unfold Session.restore
  split
  swap
  · exact h
  rename_i kind id hk hid
  dsimp only
  split
  · exact tracked_await h
  · intro u stored' kind' hu hk'
    dsimp only at hu
    by_cases hne : u = id
    · subst hne
      rw [Function.update_self] at hu
      obtain rfl := Option.some.inj hu
      cases hs : s.stored u with
      | none =>
        have hsame : (s.await kind u).stored u = none := hs
        rw [hsame, Option.getD_none] at hk'
        obtain rfl := Option.some.inj (hk.symm.trans hk')
        simp [Session.await]
      | some old =>
        have hsame : (s.await kind u).stored u = some old := hs
        rw [hsame, Option.getD_some] at hk'
        exact tracked_await h u old kind' hs hk'
    · rw [Function.update_of_ne hne] at hu
      exact tracked_await h u stored' kind' hu hk'

theorem tracked_resends {limit : ℕ} {req : List (GenericPacket w)} {rel : List (PacketId w)}
    (h : s.Tracked) (hr : s.Resends s' limit req rel) : s'.Tracked := by
  intro u stored kind hu hk
  rw [hr.stored] at hu
  rw [hr.state]
  exact h u stored kind (Option.filter_eq_some_iff.mp hu).1 hk

theorem tracked_clear : s.clear.Tracked := by
  intro u stored kind hu
  cases hu

theorem tracked_opened (h : s.Tracked) (v : Version) (clean keeps : Bool) (quota : Option ℕ) :
    (s.opened v clean keeps quota).Tracked := by
  unfold Session.opened
  cases clean with
  | true => exact tracked_clear
  | false =>
    intro u stored kind hu hk
    have hmem := h u stored kind hu hk
    simpa [publishes_restoredAck hk] using hmem

theorem tracked_closed (h : s.Tracked) (hc : ∀ id stored, s.stored id = some stored → s.keeps) :
    s.closed.Tracked := by
  intro u stored kind hu hk
  have hkeeps := hc u stored hu
  have hmem := h u stored kind hu hk
  simpa [Session.closed, Session.drains, publishes_restoredAck hk, hkeeps] using hmem

theorem restoredAck_publish {qos : Qos} (h : stored.toPacket.publishOf = some (id, qos))
    (hk : restoredAck stored = some kind) : kind = publishAck qos := by
  cases stored with
  | v311Publish p =>
    obtain ⟨u, -, heq⟩ := Option.map_eq_some_iff.mp h
    obtain ⟨-, rfl⟩ := Prod.mk.inj heq
    simp only [restoredAck] at hk
    split at hk
    · cases hk
    · exact (Option.some.inj hk).symm
  | v50Publish p =>
    obtain ⟨u, -, heq⟩ := Option.map_eq_some_iff.mp h
    obtain ⟨-, rfl⟩ := Prod.mk.inj heq
    simp only [restoredAck] at hk
    split at hk
    · cases hk
    · exact (Option.some.inj hk).symm
  | v311Pubrel p => cases h
  | v50Pubrel p => cases h

theorem restoredAck_pubrel (h : stored.toPacket.pubrelOf = some id)
    (hk : restoredAck stored = some kind) : kind = .pubcomp := by
  cases stored with
  | v311Publish p => cases h
  | v50Publish p => cases h
  | v311Pubrel p => exact (Option.some.inj hk).symm
  | v50Pubrel p => exact (Option.some.inj hk).symm

/-- A packet is stored, or left in the store, without waiting for its acknowledgement. -/
inductive Strands (c : GenericConnection w) : Input w → Prop where
  | pubrel {packet : GenericPacket w} {id : PacketId w} :
      packet.pubrelOf = some id → c.status ≠ .connected → c.needStore → c.pidMan.isUsedId id →
      id ∉ c.pidPubcomp → Strands c (.send packet)
  | closed {id : PacketId w} {stored : GenericStorePacket w} :
      ¬ c.needStore → c.store.get id = some stored → Strands c .close
  | foreign {packet : GenericPacket w} {kind : AckKind} {id : PacketId w}
      {stored : GenericStorePacket w} :
      ackOf packet = some (kind, id) → id ∈ c.awaiting kind → c.store.get id = some stored →
      restoredAck stored = some kind →
      stored.toPacket.protocolVersion ≠ packet.protocolVersion → Strands c (.receive packet)

theorem Change.tracked (h : Change c input s rep) (ht : c.session.Tracked) (hs : ¬ Strands c input) :
    s.Tracked := by
  have hsettle {packet : GenericPacket w} {kind : AckKind} {id : PacketId w}
      {response : ResponsePacket} (hs : ¬ Strands c (.receive packet))
      (ha : ackOf packet = some (kind, id)) (hr : responseOf packet = some response)
      (hm : id ∈ c.session.awaits kind) : ((c.session.settle kind id).erase response id).Tracked := by
    refine tracked_settle ht ha hr fun stored hget hk ↦ ?_
    by_contra hv
    exact hs (.foreign ha hm hget hk hv)
  cases h with
  | connectSent => exact tracked_opened ht _ _ _ _
  | connectReceived => exact tracked_opened ht _ _ _ _
  | connackSent _ _ hres => exact tracked_resends (s := { c.session with status := .connected }) ht hres
  | connackResumes _ hres =>
    exact tracked_resends (s := { c.session with status := .connected, quota := _ }) ht hres
  | connackAnew => exact tracked_clear
  | publishWithdrawn _ _ _ hs' =>
    rcases hs' with ⟨-, rfl⟩ | ⟨-, -, p, hp, -, rfl⟩
    · exact tracked_await ht
    · exact tracked_keep ht fun _ ↦ restoredAck_publish hp
  | published _ _ _ _ hs' =>
    rw [Session.counted_frame]
    rcases hs' with ⟨-, rfl⟩ | ⟨-, -, p, hp, -, rfl⟩
    · exact tracked_await ht
    · exact tracked_keep ht fun _ ↦ restoredAck_publish hp
  | @pubrelSent packet id _ hp hused hs' =>
    rcases hs' with ⟨-, rfl⟩ | ⟨hkeep, -, p, rfl, rfl⟩
    · split
      · exact tracked_await ht
      · exact ht
    · have hkept : ((c.session.keep id p).await .pubcomp id).Tracked :=
        tracked_keep ht fun _ ↦ restoredAck_pubrel hp
      split
      · exact hkept
      · rename_i hst
        by_cases hm : id ∈ c.pidPubcomp
        · intro u stored kind hu hk
          have hmem := hkept u stored kind hu hk
          by_cases hkind : kind = .pubcomp
          · subst hkind
            simp only [Session.await, Function.update_self] at hmem
            rcases hmem with rfl | hmem
            · exact hm
            · exact hmem
          · simpa [Session.await, Function.update_of_ne hkind] using hmem
        · exact (hs (.pubrel hp hst hkeep hused hm)).elim
  | acknowledged hack _ hres hmem =>
    rw [Session.finished_frame]
    exact hsettle hs hack hres hmem
  | pubrecReceived hack hres hcont hmem hs' =>
    have hset := hsettle hs hack hres hmem
    rcases hs' with ⟨-, -, rfl⟩ | ⟨-, -, _, hp, -, ⟨-, rfl⟩ | ⟨-, -, p, rfl, rfl⟩⟩
    · exact hset
    · exact tracked_await hset
    · exact tracked_keep hset fun _ ↦ restoredAck_pubrel hp
  | pubrecFailed _ hmem =>
    rw [Session.finished_frame]
    exact hsettle hs rfl rfl hmem
  | @subscriptionAcked packet kind id _ hkind =>
    intro u stored kind' hu hk
    have hmem := ht u stored kind' hu hk
    have hne : kind' ≠ kind := by
      rintro rfl
      have := publishes_restoredAck hk
      rcases hkind with rfl | rfl <;> simp [Session.publishes] at this
    simpa [Session.free, Session.settle, Function.update_of_ne hne] using hmem
  | subscribed => exact tracked_await ht
  | closed =>
    refine tracked_closed ht fun id stored hget ↦ ?_
    by_contra hk
    exact hs (.closed hk hget)
  | @restored packets =>
    clear hsettle hs
    generalize c.session = s at ht ⊢
    induction packets generalizing s with
    | nil => exact ht
    | cons packet packets ih => exact ih _ (tracked_restore ht packet)
  | _ => exact ht

/-- A PUBREL passes the checks of its version and its size. -/
def takesPubrel (c : GenericConnection w) (packet : GenericPacket w) : Prop :=
  c.protocolVersion = packet.protocolVersion ∧
    match packet with
    | .v50Pubrel p => c.validateMaximumPacketSizeSend p.size
    | _ => True

theorem send_pubrel_refused (hp : packet.pubrelOf = some id) (h : ¬ c.takesPubrel packet) :
    ∃ e, c.send packet = .ret (c.reject e) := by
  unfold send
  by_cases hv : c.protocolVersion = packet.protocolVersion
  swap
  · exact ⟨_, if_pos hv⟩
  rw [if_neg (not_not.mpr hv)]
  cases packet with
  | v311Pubrel p => exact (h ⟨hv, trivial⟩).elim
  | v50Pubrel p => exact ⟨_, if_neg fun hsize ↦ h ⟨hv, hsize⟩⟩
  | _ => cases hp

theorem strands_congr {c₀ : GenericConnection w} (h : Prepared c c₀) (hs : Strands c₀ input) :
    Strands c input := by
  rw [h.1] at hs
  cases hs with
  | pubrel hp hst hk hu hm => exact .pubrel hp hst hk hu hm
  | closed hk hget => exact .closed hk hget
  | foreign hack hmem hget hk hv =>
    exact .foreign hack (by cases ‹AckKind› <;> exact hmem) hget hk hv

/-- An operation that leaves a stored packet without its acknowledgement being awaited. -/
def Untracks (c : GenericConnection w) (op : Operation w) : Prop :=
  Strands c (c.inputOf op) ∧ ∀ packet, op = .send packet → c.takesPubrel packet

theorem step_tracked (hc : c.Reading) (ht : c.session.Tracked) (hok : ¬ Untracks c op) :
    (c.step op).Ensures fun r ↦ r.1.session.Tracked := by
  intro r hr
  obtain ⟨-, c₀, hprep, hchange⟩ := (step_spec hc op).of_ret hr
  by_cases hs : Strands c (c.inputOf op)
  · obtain ⟨packet, rfl, hno⟩ : ∃ packet, op = .send packet ∧ ¬ c.takesPubrel packet := by
      simpa [Untracks, hs] using hok
    obtain ⟨id, hp⟩ : ∃ id, packet.pubrelOf = some id := by
      cases hs with
      | pubrel hp => exact ⟨_, hp⟩
    obtain ⟨e, he⟩ := send_pubrel_refused hp hno
    have hstep : c.step (.send packet) =
        (c.send packet >>= fun r ↦ Outcome.ret (r.1, Reply.events r.2)) := rfl
    rw [hstep, he] at hr
    obtain rfl := Outcome.ret.inj hr
    exact ht
  · have hsess : c₀.session.Tracked := by
      rw [hprep.session]
      exact ht
    exact hchange.tracked hsess fun h ↦ hs (strands_congr hprep h)

theorem errors_sendPubrel {stored : GenericStorePacket w} :
    (c.sendPubrel id stored).Ensures fun r ↦ MqttError.protocolError ∉ errors r.2 := by
  unfold sendPubrel
  split
  · exact Outcome.ensures_ret.mpr (by simp [reject])
  split
  · exact Outcome.ensures_ret.mpr (by simp [reject])
  have hsend (c' : GenericConnection w) : (if c'.status = .connected then
        Outcome.ret ((c'.await .pubcomp id).request stored.toPacket none)
      else .ret c'.sendPostProcess).Ensures fun r ↦ MqttError.protocolError ∉ errors r.2 := by
    split
    · exact Outcome.ensures_ret.mpr (by simp)
    · exact Outcome.ensures_ret.mpr (by simp [timersOnly_sendPostProcess.errors])
  split
  · exact Outcome.Ensures.bind (P := fun _ ↦ True) (fun _ _ ↦ trivial) fun c' _ ↦ hsend c'
  · exact hsend c

def GoesThrough (packet : GenericPacket w) (r : Handled w) : Prop :=
  packet ∈ notified r.2 ∧ MqttError.protocolError ∉ errors r.2

theorem goesThrough_received {events : List (GenericEvent w)}
    (h : MqttError.protocolError ∉ errors events) :
    GoesThrough packet ((c.received packet).1, events ++ (c.received packet).2) := by
  simp [GoesThrough, h]

theorem errors_releaseIfUsed : (c.releaseIfUsed id).Ensures fun r ↦ errors r.2 = [] :=
  fun _ hr ↦ congrArg Report.errors (releaseIfUsed_spec.of_ret hr).2.2.2

theorem goesThrough_recvFinalAck {response : ResponsePacket} {counted : Bool}
    {onError : GenericConnection w → MqttError → Outcome (Handled w)} (hm : id ∈ c.awaiting kind) :
    (c.recvFinalAck response kind counted onError id packet).Ensures (GoesThrough packet) := by
  unfold recvFinalAck
  rw [if_pos hm]
  refine errors_releaseIfUsed.bind fun r hr ↦ ?_
  dsimp only
  split
  · exact Outcome.Ensures.bind (P := fun _ ↦ True) (fun _ _ ↦ trivial) fun c' _ ↦
      Outcome.ensures_ret.mpr (goesThrough_received (by simp [hr]))
  · exact Outcome.ensures_ret.mpr (goesThrough_received (by simp [hr]))

theorem goesThrough_thenReceived {x : Outcome (Handled w)}
    (h : x.Ensures fun r ↦ MqttError.protocolError ∉ errors r.2) :
    (x >>= fun r ↦ Outcome.ret ((r.1.received packet).1, r.2 ++ (r.1.received packet).2)).Ensures
      (GoesThrough packet) :=
  h.bind fun _ hr ↦ Outcome.ensures_ret.mpr (goesThrough_received hr)

theorem errors_respondPubrel {α : Type} {build : Outcome α} {send : α → Outcome (Handled w)}
    (h : ∀ a, (send a).Ensures fun r ↦ MqttError.protocolError ∉ errors r.2) :
    (c.respondIf c.answers (build >>= send)).Ensures
      fun r ↦ MqttError.protocolError ∉ errors r.2 := by
  unfold respondIf
  split
  · exact Outcome.Ensures.bind (P := fun _ ↦ True) (fun _ _ ↦ trivial) fun a _ ↦ h a
  · exact Outcome.ensures_ret.mpr (by simp)

theorem errors_limitedPubrel {size : ℕ} {stored : GenericStorePacket w} :
    (c.limited size (c.sendPubrel id stored)).Ensures
      fun r ↦ MqttError.protocolError ∉ errors r.2 := by
  unfold limited
  split
  · exact errors_sendPubrel
  · exact Outcome.ensures_ret.mpr (by simp [reject])

/-- An acknowledgement that is awaited is handled without a protocol error. -/
theorem goesThrough_deliver (hack : ackOf packet = some (kind, id)) (hpub : Session.publishes kind)
    (hm : id ∈ c.awaiting kind) : (c.deliver packet).Ensures (GoesThrough packet) := by
  cases packet with
  | v311Puback p | v50Puback p | v311Pubcomp p | v50Pubcomp p =>
    cases hack
    exact goesThrough_recvFinalAck hm
  | v311Pubrec p =>
    cases hack
    change (c.recvV311Pubrec p).Ensures _
    unfold recvV311Pubrec
    have hm' : p.packetId ∈ c.pidPubrec := hm
    simp only [hm', if_true]
    exact goesThrough_thenReceived (errors_respondPubrel fun a ↦ errors_sendPubrel)
  | v50Pubrec p =>
    cases hack
    change (c.recvV50Pubrec p).Ensures _
    unfold recvV50Pubrec
    have hm' : p.packetId ∈ c.pidPubrec := hm
    simp only [hm', if_true]
    split
    · exact goesThrough_thenReceived (errors_respondPubrel fun a ↦ errors_limitedPubrel)
    · refine errors_releaseIfUsed.bind fun r hr ↦ ?_
      refine Outcome.Ensures.bind (P := fun _ ↦ True) (fun _ _ ↦ trivial) fun c' _ ↦ ?_
      exact Outcome.ensures_ret.mpr (goesThrough_received (by simp [hr]))
  | v311Suback | v50Suback | v311Unsuback | v50Unsuback =>
    cases hack
    cases hpub
  | _ => cases hack

/-- Every stored packet waits for its acknowledgement, and that acknowledgement is not answered with
a protocol error. -/
structure Tracking (c : GenericConnection w) : Prop where
  tracked : c.session.Tracked
  answered : ∀ data v packet kind id stored r rest, c.arrival data = some (v, packet) →
    ackOf packet = some (kind, id) → c.store.get id = some stored →
    restoredAck stored = some kind → c.recv data = .ret (r, rest) → GoesThrough packet r

theorem Session.Tracked.tracking (hc : c.Reading) (ht : c.session.Tracked) : Tracking c := by
  refine ⟨ht, fun data v packet kind id stored r rest ha hack hget hk hr ↦ ?_⟩
  have hrecv := recv_spec hc data
  rw [ha] at hrecv
  obtain ⟨b, rest', -, -, hx⟩ := hrecv
  obtain ⟨r', hr', hret⟩ := Outcome.map_eq_ret.mp (hx.symm.trans hr)
  obtain rfl := (Prod.mk.inj hret).1
  have hm : id ∈ ({ c with packetBuilder := b }.determine v).awaiting kind := by
    have := ht id stored kind hget hk
    cases kind <;> exact this
  exact goesThrough_deliver hack (publishes_restoredAck hk) hm r' hr'

/-- In every run in which no packet is left untracked, what is stored waits for its
acknowledgement, which is never a protocol error. -/
theorem stored_tracked {trace : List (Transition _ _ _)}
    (h : Run (system w) (fun c op ↦ ¬ Untracks c op) trace c) : Tracking c := by
  suffices hinv : c.Reading ∧ c.session.Tracked from Session.Tracked.tracking hinv.1 hinv.2
  refine h.invariant (I := fun c ↦ c.Reading ∧ c.session.Tracked) ?_ ?_
  · rintro _ ⟨role, version, rfl⟩
    exact ⟨⟨[], .header⟩, fun id stored kind hget ↦ by cases hget⟩
  · intro c op ⟨hc, ht⟩ hok r hr
    exact ⟨step_reading hc op r hr, step_tracked hc ht hok r hr⟩

theorem stored_tracked_offline : ∃ (c : GenericConnection .u16) (id : PacketId .u16),
    (∃ stored, c.store.get id = some stored) ∧ Tracking c := by
  obtain ⟨p, _, ⟨c₁, o₁⟩, h₁, ⟨c₂, o₂⟩, h₂, ⟨c₃, o₃⟩, h₃, ⟨stored, hget, -⟩, -⟩ :
      (V311.Publish.parse (w := .u16) 2 [0, 1, 0x61, 0, 1]).unwrap.Attains fun p ↦
        ((new .client .u16 .v311).step (.setOfflinePublish true)).Attains fun r₁ ↦
        (r₁.1.step .acquirePacketId).Attains fun r₂ ↦
        (r₂.1.step (.send (.v311Publish p.1))).Attains fun r₃ ↦
        (∃ stored ∈ r₃.1.store.get 1, True) ∧ True := by
    decide +kernel
  have hstart : Run (system .u16) (fun c op ↦ ¬ Untracks c op) [] (new .client .u16 .v311) :=
    .init ⟨.client, .v311, rfl⟩
  obtain ⟨_, hrun₁⟩ := run_operation hstart (fun h ↦ by cases h.1) h₁
  obtain ⟨_, hrun₂⟩ := run_operation hrun₁ (fun h ↦ by cases h.1) h₂
  obtain ⟨_, hrun₃⟩ := run_operation hrun₂ (fun h ↦ by cases h.1 with | pubrel hp => cases hp) h₃
  exact ⟨c₃, 1, ⟨stored, hget⟩, stored_tracked hrun₃⟩

/-- The application gives up an identifier that is still awaited. -/
def ReleasesTracked (c : GenericConnection w) (op : Operation w) : Prop :=
  ∃ id kind, op = .releasePacketId id ∧ id ∈ c.awaiting kind

/-- A PUBREL that is sent before the connection is up is stored but not tracked: its PUBCOMP is
answered with a protocol error. -/
theorem pubrel_untracked : ¬ ∀ (c : GenericConnection .u16) trace,
    Run (system .u16) (fun c op ↦ ¬ ReleasesTracked c op) trace c → Tracking c := by
  intro h
  obtain ⟨pubrel, _, ⟨_, c⟩, hrun, ⟨stored, hget, hk⟩, ⟨⟨v, packet⟩, ha, hack⟩, ⟨r, rest⟩, hr,
      herr⟩ :
      (V311.Ack.build 1 none : Fallible MqttError (V311.Pubrel .u16)).unwrap.Attains
          fun pubrel ↦
          (clientRun .v311 0 0 [] []
            [.acquirePacketId, .send (.v311Pubrel pubrel), .recv [0x20, 2, 1, 0]]).Attains fun r ↦
        (∃ stored ∈ r.2.store.get 1, restoredAck stored = some .pubcomp) ∧
        (∃ a ∈ r.2.arrival [0x70, 2, 0, 1], ackOf a.2 = some (.pubcomp, 1)) ∧
        (r.2.recv [0x70, 2, 0, 1]).Attains fun r' ↦ MqttError.protocolError ∈ errors r'.1.2 := by
    decide +kernel
  obtain ⟨_, hrun⟩ := exists_of_clientRun hrun
  have hstart : Run (system .u16) (fun c op ↦ ¬ ReleasesTracked c op) [] (new .client .u16 .v311) :=
    .init ⟨.client, .v311, rfl⟩
  have hrun' := hstart.append_ok (by simp [ReleasesTracked]) hrun
  exact ((h c _ hrun').answered _ _ _ _ _ _ _ _ ha hack hget hk hr).2 herr

end GenericConnection

end MqttProtocolCore.Connection
