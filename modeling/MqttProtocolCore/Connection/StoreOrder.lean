import MqttProtocolCore.Connection.RecvLimit
import MqttProtocolCore.Connection.StoreChange

namespace MqttProtocolCore.Connection.GenericConnection

open General Packet GenericStore

variable {w : IdWidth} {c c' : GenericConnection w} {packet : GenericPacket w} {id : PacketId w}
  {r : Handled w} {stored : GenericStorePacket w} {op : Operation w}

/-- How a packet gets into the store: in a form made of a packet that is sent, as the PUBREL that
follows a PUBREC, or restored. -/
inductive Enters (c : GenericConnection w) : Operation w → GenericStorePacket w → Prop where
  | sent {packet : GenericPacket w} {stored : GenericStorePacket w} :
      c.Prepares packet stored → Enters c (.send packet) stored
  | followed {data : Bytes} {stored : GenericStorePacket w} {id : PacketId w} :
      stored.toPacket.pubrelOf = some id → Enters c (.recv data) stored
  | restored {packets : List (GenericStorePacket w)} {stored : GenericStorePacket w} :
      stored ∈ packets → Enters c (.restorePackets packets) stored

def Adds (c : GenericConnection w) (op : Operation w) (added : List (Entry w)) : Prop :=
  (∀ e ∈ added, c.Enters op e.2) ∧ match op with
    | .restorePackets packets => (added.map Prod.snd).Sublist packets
    | _ => added.length ≤ 1

/-- What an operation leaves in the store keeps its order, and what it adds stands behind it. -/
def Appends (c : GenericConnection w) (op : Operation w) (c' : GenericConnection w) : Prop :=
  ∃ added, c.Adds op added ∧ c.store.map.Follows c'.store.map added

theorem Thins.appends (h : Thins c c') : c.Appends op c' := by
  refine ⟨[], ⟨by simp, ?_⟩, .of_sublist h⟩
  split <;> simp

theorem appends_send (packet : GenericPacket w) :
    (c.send packet).Ensures fun r ↦ c.Appends (.send packet) r.1 := by
  unfold send
  split
  · exact Outcome.ensures_ret.mpr (Thins.appends (.of_eq rfl))
  by_cases hconnect : partOf packet = .connect
  · exact (opens_thins.processSend (.inl hconnect)).mono fun _ hr ↦ hr.appends
  by_cases hconnack : partOf packet = .connack
  · exact (resumption_processSend hconnack).mono fun _ hr ↦ hr.1.appends
  have hchanges : (c.processSend packet).Ensures fun r ↦ Changes (fun _ ↦ false)
      (fun e ↦ storedIdOf packet = some e.1 ∧ c.Prepares packet e.2) c r.1 := by
    refine frames_changes.processSend (fun _ {c c'} h ↦ .of_eq (by rw [h])) (fun stored hs ↦ ?_)
      hconnect hconnack
    apply addsStored_changes
    intro id hid
    exact ⟨⟨hs.packetId ▸ hid, hs⟩, by simp⟩
  refine hchanges.mono fun r hr ↦ ?_
  obtain ⟨added, hlength, hadded, hfollows⟩ :=
    hr.follows fun e f he hf ↦ Option.some.inj (he.1.symm.trans hf.1)
  exact ⟨added, ⟨fun e he ↦ .sent (hadded e he).2, hlength⟩, hfollows⟩

theorem appends_deliver {c₀ : GenericConnection w} {data : Bytes} (packet : GenericPacket w)
    (hs : c₀.store = c.store) :
    (c.deliver packet).Ensures fun r ↦ c₀.Appends (.recv data) r.1 := by
  have hthins {c' : GenericConnection w} (h : Thins c c') : c₀.Appends (.recv data) c' := by
    unfold Thins at h
    rw [← hs] at h
    exact Thins.appends h
  by_cases hconnect : partOf packet = .connect
  · exact (opens_thins.deliver (.inl hconnect)).mono fun _ hr ↦ hthins hr
  by_cases hconnack : partOf packet = .connack
  · exact (resumption_deliver hconnack).mono fun _ hr ↦ hthins hr.1
  cases hack : ackOf packet with
  | none => exact (frames_store.deliver hconnect hconnack hack fun _ _ _ ↦ rfl).mono fun _ hr ↦ hthins (.of_eq hr)
  | some a =>
    refine (changes_deliverAck hack).mono fun r hr ↦ ?_
    obtain ⟨added, hlength, hadded, hfollows⟩ :=
      hr.follows fun e f he hf ↦ he.2.1.trans hf.2.1.symm
    exact ⟨added, ⟨fun e he ↦ .followed (hadded e he).2.2, hlength⟩, hs ▸ hfollows⟩

theorem appends_recv (hc : c.Reading) (data : Bytes) :
    (c.recv data).Ensures fun r ↦ c.Appends (.recv data) r.1.1 := by
  intro r hr
  cases recv_cases hc hr with
  | incomplete => exact Thins.appends (.of_eq rfl)
  | malformed => exact Thins.appends (.of_eq rfl)
  | refused _ _ href =>
    obtain ⟨v, r', hr', hrefused, hv⟩ := href.refused
    obtain rfl := Outcome.ret.inj hr'
    exact Thins.appends (.of_eq hrefused.idle.store)
  | @delivered b _ _ v packet _ _ _ _ hdel =>
    have hs : c.store = ({ c with packetBuilder := b }.determine v).store := rfl
    exact appends_deliver packet hs _ hdel

theorem appends_restorePackets (packets : List (GenericStorePacket w)) :
    (c.restorePackets packets).Ensures fun c' ↦ ∃ added : List (Entry w),
      (added.map Prod.snd).Sublist packets ∧
        c'.store.map.entries = c.store.map.entries ++ added := by
  unfold restorePackets
  induction packets generalizing c with
  | nil => exact Outcome.ensures_ret.mpr ⟨[], by simp⟩
  | cons packet packets ih =>
    rw [List.foldlM_cons]
    refine Outcome.Ensures.bind (P := fun c' ↦ ∃ added : List (Entry w),
      (added.map Prod.snd).Sublist [packet] ∧
        c'.store.map.entries = c.store.map.entries ++ added) ?_ fun c₁ h₁ ↦ ih.mono fun c₂ h₂ ↦ ?_
    · have hsame {c' : GenericConnection w} (h : c'.store = c.store) :
          (Outcome.ret c').Ensures fun c' ↦ ∃ added : List (Entry w),
            (added.map Prod.snd).Sublist [packet] ∧
              c'.store.map.entries = c.store.map.entries ++ added :=
        Outcome.ensures_ret.mpr ⟨[], by simp, by rw [h, List.append_nil]⟩
      unfold restorePacket
      split
      · exact hsame rfl
      · simp
      · rename_i kind id _ _
        have hs (man : PacketIdManager w) :
            ({ c.await kind id with pidMan := man } : GenericConnection w).store = c.store := by
          cases kind <;> rfl
        dsimp only
        split
        · exact hsame (hs c.pidMan)
        · rename_i man _
          split
          · rename_i store hadd
            obtain ⟨u, -, hentries⟩ := entries_add hadd
            rw [show (c.await kind id).store = c.store from hs c.pidMan] at hentries
            exact Outcome.ensures_ret.mpr ⟨[(u, packet)], by simp, hentries⟩
          · exact hsame (hs man)
          · simp
    · obtain ⟨added₁, hsub₁, h₁⟩ := h₁
      obtain ⟨added₂, hsub₂, h₂⟩ := h₂
      refine ⟨added₁ ++ added₂, ?_, by rw [h₂, h₁, List.append_assoc]⟩
      rw [List.map_append]
      exact hsub₁.append hsub₂

/-- Every operation leaves the packets in the store in their order, and adds behind them. -/
theorem step_appends (hc : c.Reading) (op : Operation w) :
    (c.step op).Ensures fun r ↦ c.Appends op r.1 := by
  have hsame {x : Outcome (Handled w)} (h : x.Ensures fun r ↦ r.1.store = c.store) :
      (x >>= fun r ↦ Outcome.ret (r.1, Reply.events r.2)).Ensures fun r ↦ c.Appends op r.1 :=
    h.bind fun _ hr ↦ Outcome.ensures_ret.mpr (Thins.appends (.of_eq hr))
  cases op with
  | send packet =>
    exact (appends_send packet).bind fun r hr ↦ Outcome.ensures_ret.mpr hr
  | recv data => exact (appends_recv hc data).bind fun r hr ↦ Outcome.ensures_ret.mpr hr
  | notifyTimerFired kind => exact hsame (frames_store.notifyTimerFired kind)
  | notifyClosed =>
    refine hsame (notifyClosed_frame.mono fun r hr ↦ ?_)
    rw [hr]
    rfl
  | setPingreqSendInterval durationMs =>
    have hs : (c.setPingreqSendInterval durationMs).1.store = c.store := by
      unfold setPingreqSendInterval
      cases durationMs with
      | none => rfl
      | some ms =>
        dsimp only
        split
        · rfl
        · split <;> rfl
    exact Outcome.ensures_ret.mpr (Thins.appends (.of_eq hs))
  | acquirePacketId =>
    cases ha : c.pidMan.acquireUniqueId with
    | ok a =>
      rw [step_acquired (by rw [acquirePacketId, ha]; rfl)]
      exact Outcome.ensures_ret.mpr (Thins.appends (.of_eq rfl))
    | error e =>
      rw [step_unacquired (by rw [acquirePacketId, ha]; rfl)]
      exact Outcome.ensures_ret.mpr (Thins.appends (.of_eq rfl))
  | registerPacketId id =>
    cases ha : c.pidMan.registerId id with
    | ok man =>
      rw [step_registered (by rw [registerPacketId, ha]; rfl)]
      exact Outcome.ensures_ret.mpr (Thins.appends (.of_eq rfl))
    | error e =>
      rw [step_unregistered (by rw [registerPacketId, ha]; rfl)]
      exact Outcome.ensures_ret.mpr (Thins.appends (.of_eq rfl))
  | releasePacketId id => exact hsame frames_store.releaseIfUsed
  | restorePackets packets =>
    refine (appends_restorePackets packets).bind fun c' hc' ↦ Outcome.ensures_ret.mpr ?_
    obtain ⟨added, hsub, hentries⟩ := hc'
    refine ⟨added, ⟨fun e he ↦ .restored (hsub.subset (List.mem_map_of_mem he)), hsub⟩, ?_⟩
    exact .of_append hentries
  | _ => exact Outcome.ensures_ret.mpr (Thins.appends (.of_eq rfl))

section Runs

variable {ok : GenericConnection w → Operation w → Prop}
  {trace : List (Transition (GenericConnection w) (Operation w) (Reply w))}
  {t : Transition (GenericConnection w) (Operation w) (Reply w)} {e f : Entry w}

def storedFor (trace : List (Transition (GenericConnection w) (Operation w) (Reply w)))
    (e : Entry w) : ℕ :=
  (trace.reverse.takeWhile fun t ↦ e ∈ t.before.store.map.entries).length

def storedBy (trace : List (Transition (GenericConnection w) (Operation w) (Reply w)))
    (e : Entry w) : Option (Transition (GenericConnection w) (Operation w) (Reply w)) :=
  trace.reverse[storedFor trace e]?

def StoredBefore (trace : List (Transition (GenericConnection w) (Operation w) (Reply w)))
    (e f : Entry w) : Prop :=
  storedFor trace f < storedFor trace e ∨ storedFor trace f = storedFor trace e ∧
    ∃ t packets, storedBy trace e = some t ∧ t.input = .restorePackets packets ∧
      [e.2, f.2].Sublist packets

theorem storedFor_kept (h : e ∈ t.before.store.map.entries) :
    storedFor (trace ++ [t]) e = storedFor trace e + 1 := by
  simp [storedFor, h]

theorem storedFor_added (h : e ∉ t.before.store.map.entries) : storedFor (trace ++ [t]) e = 0 := by
  simp [storedFor, h]

theorem storedBy_kept (h : e ∈ t.before.store.map.entries) :
    storedBy (trace ++ [t]) e = storedBy trace e := by
  simp [storedBy, storedFor_kept h]

theorem storedBy_added (h : e ∉ t.before.store.map.entries) :
    storedBy (trace ++ [t]) e = some t := by
  simp [storedBy, storedFor_added h]

theorem StoredBefore.kept (h : StoredBefore trace e f) (he : e ∈ t.before.store.map.entries)
    (hf : f ∈ t.before.store.map.entries) : StoredBefore (trace ++ [t]) e f := by
  unfold StoredBefore
  rw [storedFor_kept he, storedFor_kept hf, storedBy_kept he]
  rcases h with h | ⟨h, hby⟩
  · exact .inl (Nat.succ_lt_succ h)
  · exact .inr ⟨congrArg (· + 1) h, hby⟩

/-- The operation that put a packet in the store is found in the run. -/
theorem storedBy_enters (h : Run (system w) ok trace c) (he : e ∈ c.store.map.entries) :
    ∃ t, storedBy trace e = some t ∧ t ∈ trace ∧ t.before.Enters t.input e.2 := by
  induction h with
  | init hinit =>
    obtain ⟨role, version, rfl⟩ := hinit
    cases he
  | @step trace s c' op o hrun _ hstep ih =>
    obtain ⟨added, hadds, kept, hsub, hnew, hentries⟩ :=
      step_appends (reachable_reading hrun.reachable) op _ hstep
    rw [hentries] at he
    rcases List.mem_append.mp he with he | he
    · obtain ⟨t, hby, ht, henters⟩ := ih (hsub.subset he)
      exact ⟨t, (storedBy_kept (hsub.subset he)).trans hby, List.mem_append_left _ ht, henters⟩
    · exact ⟨_, storedBy_added (hnew e he), by simp, hadds.1 e he⟩

/-- The store keeps the packets in the order in which they were stored. -/
theorem stored_in_order (h : Run (system w) ok trace c) :
    c.store.map.entries.Pairwise (StoredBefore trace) := by
  induction h with
  | init hinit =>
    obtain ⟨role, version, rfl⟩ := hinit
    exact .nil
  | @step trace s c' op o hrun _ hstep ih =>
    obtain ⟨added, hadds, kept, hsub, hnew, hentries⟩ :=
      step_appends (reachable_reading hrun.reachable) op _ hstep
    rw [hentries]
    refine List.pairwise_append.mpr ⟨?_, ?_, fun e he f hf ↦ .inl ?_⟩
    · refine (ih.sublist hsub).imp_of_mem fun {e f} he hf hef ↦ ?_
      exact hef.kept (hsub.subset he) (hsub.subset hf)
    · obtain ⟨-, hadds⟩ := hadds
      refine List.pairwise_iff_forall_sublist.mpr fun {e f} hef ↦ .inr ?_
      have he := hnew e (hef.subset (by simp))
      have hf := hnew f (hef.subset (by simp))
      refine ⟨(storedFor_added hf).trans (storedFor_added he).symm, ⟨s, op, c', o⟩, ?_⟩
      cases op with
      | restorePackets packets =>
        exact ⟨packets, storedBy_added he, rfl, (hef.map Prod.snd).trans hadds⟩
      | _ =>
        have hlength : 2 ≤ 1 := hef.length_le.trans hadds
        omega
    · rw [storedFor_added (hnew f hf), storedFor_kept (hsub.subset he)]
      omega

end Runs

end MqttProtocolCore.Connection.GenericConnection
