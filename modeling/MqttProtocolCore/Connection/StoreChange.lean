import MqttProtocolCore.Connection.OpenFrame

namespace MqttProtocolCore.Connection.GenericConnection

open General Packet GenericStore

variable {w : IdWidth} {c c' c'' : GenericConnection w} {packet : GenericPacket w} {id : PacketId w}
  {x : Outcome (Handled w)} {r : Handled w} {stored : GenericStorePacket w} {op : Operation w}
  {answered : Entry w → Bool} {allowed : Entry w → Prop}

/-- The store gives up at most what `answered` says, and gets at most what is `allowed` and is not
answered. -/
def Changes (answered : Entry w → Bool) (allowed : Entry w → Prop) (c c' : GenericConnection w) :
    Prop :=
  ∃ added, (∀ e ∈ added, allowed e ∧ ¬ answered e) ∧
    (c'.store.map.entries = c.store.map.entries ++ added ∨
      c'.store.map.entries = (c.store.map.entries.filter fun e ↦ !answered e) ++ added)

theorem Changes.of_eq (h : c'.store = c.store) : Changes answered allowed c c' :=
  ⟨[], by simp, .inl (by rw [h, List.append_nil])⟩

theorem Changes.trans (h : Changes answered allowed c c') (h' : Changes answered allowed c' c'') :
    Changes answered allowed c c'' := by
  obtain ⟨added, hadded, h⟩ := h
  obtain ⟨added', hadded', h'⟩ := h'
  have hkept : (added.filter fun e ↦ !answered e) = added := by
    refine List.filter_eq_self.mpr fun e he ↦ ?_
    simpa using (hadded e he).2
  refine ⟨added ++ added', fun e he ↦ ?_, ?_⟩
  · exact (List.mem_append.mp he).elim (hadded e) (hadded' e)
  · rcases h with h | h
    · rcases h' with h' | h'
      · exact .inl (by rw [h', h, List.append_assoc])
      · exact .inr (by rw [h', h, List.filter_append, hkept, List.append_assoc])
    · rcases h' with h' | h'
      · exact .inr (by rw [h', h, List.append_assoc])
      · refine .inr ?_
        rw [h', h, List.filter_append, hkept, List.filter_filter, List.append_assoc]
        simp only [Bool.and_self]

theorem frames_changes : Frames (Changes answered allowed) where
  refl _ := .of_eq rfl
  trans := Changes.trans
  idle h := .of_eq (by rw [h])
  awaiting kind _ := .of_eq (by cases kind <;> rfl)
  used _ := .of_eq rfl
  counted _ := .of_eq rfl
  handled _ := .of_eq rfl
  noted _ _ := .of_eq rfl

theorem addsStored_changes (h : ∀ id, stored.packetId = some id →
    allowed (id, stored) ∧ ¬ answered (id, stored)) :
    AddsStored (Changes answered allowed) stored := by
  intro c c' hc'
  obtain ⟨s, hs, hret⟩ := Outcome.bind_eq_ret.mp hc'
  obtain rfl := Outcome.ret.inj hret
  obtain ⟨u, hu, hentries⟩ := entries_add (Fallible.unwrap_eq_ret.mp hs)
  exact ⟨[(u, stored)], by simpa using h u hu, .inl hentries⟩

theorem erasesStored_changes {response : ResponsePacket} :
    ErasesStored (Changes (answeredBy response id) allowed) response id := by
  intro c
  refine ⟨[], by simp, .inr ?_⟩
  rw [List.append_nil]
  exact entries_erase

theorem Changes.follows (h : Changes answered allowed c c')
    (hid : ∀ e f, allowed e → allowed f → e.1 = f.1) :
    ∃ added, added.length ≤ 1 ∧ (∀ e ∈ added, allowed e) ∧
      c.store.map.Follows c'.store.map added := by
  obtain ⟨added, hadded, h⟩ := h
  have hkeys : (added.map Prod.fst).Nodup := by
    have hnd := c'.store.map.nodup
    rcases h with h | h <;>
    · rw [h, List.map_append] at hnd
      exact (List.nodup_append.mp hnd).2.1
  refine ⟨added, ?_, fun e he ↦ (hadded e he).1, ?_⟩
  · cases added with
    | nil => simp
    | cons e rest =>
      cases rest with
      | nil => simp
      | cons f rest =>
        have hef := hid e f (hadded e (by simp)).1 (hadded f (by simp)).1
        simp [hef] at hkeys
  · rcases h with h | h
    · exact .of_append h
    · refine ⟨_, List.filter_sublist, fun e he hm ↦ ?_, h⟩
      have hkept : e ∈ c.store.map.entries.filter fun e ↦ !answered e :=
        List.mem_filter.mpr ⟨hm, by simpa using (hadded e he).2⟩
      have hnd := c'.store.map.nodup_entries
      rw [h] at hnd
      exact (List.nodup_append.mp hnd).2.2 e hkept e he rfl

def Thins (c c' : GenericConnection w) : Prop :=
  c'.store.map.entries.Sublist c.store.map.entries

theorem Thins.of_eq (h : c'.store = c.store) : Thins c c' := by
  unfold Thins
  rw [h]

theorem Idle.store (h : Idle c c') : c'.store = c.store := by rw [h]

theorem Configures.store (h : Configures c c') : c'.store = c.store := by rw [h]

/-- The session is resumed: what fits is sent in the order of the store, and the rest is dropped and
announced. -/
structure Resumption (c : GenericConnection w) (limit : ℕ) (before : List (GenericPacket w))
    (r : Handled w) : Prop where
  store : r.1.store.map.entries = c.store.map.entries.filter fun e ↦ !Oversize limit e
  requests : requested r.2 = before ++
    (c.store.map.entries.filter fun e ↦ !Oversize limit e).map fun e ↦ e.2.toPacket
  releases : released r.2 = (c.store.map.entries.filter (Oversize limit)).map Prod.fst

theorem Resumption.thins {limit : ℕ} {before : List (GenericPacket w)}
    (h : Resumption c limit before r) : Thins c r.1 := by
  unfold Thins
  rw [h.store]
  exact List.filter_sublist

/-- The resend drops the packets that are too large, and sends the others in the order of the
store. -/
theorem sendStored_resumption :
    c.sendStored.Ensures (Resumption c c.maximumPacketSizeSend []) := by
  intro r hr
  unfold sendStored GenericStore.forEach at hr
  obtain ⟨⟨store, man, events⟩, hloop, hret⟩ := Outcome.bind_eq_ret.mp hr
  obtain ⟨⟨ids, man', events'⟩, hloop, hret'⟩ := Outcome.bind_eq_ret.mp hloop
  obtain ⟨hids, -, hevents, -⟩ :=
    (forEachLoop_resend c.store.keyed c.store.map.nodup).of_ret hloop
  obtain rfl := Outcome.ret.inj hret
  obtain ⟨rfl, rfl, rfl⟩ : _ ∧ man' = man ∧ events' = events := by
    simpa using hret'
  dsimp only at hids hevents ⊢
  rw [List.nil_append] at hevents
  subst hids hevents
  refine ⟨?_, requested_resend .., released_resend ..⟩
  rw [foldl_shiftRemove_filter]
  rfl

theorem Resumption.around {c₀ : GenericConnection w} {limit : ℕ}
    {before before' : List (GenericPacket w)} {events events' : List (GenericEvent w)}
    (h : Resumption c₀ limit before r) (hc : c₀.store = c.store) (hc' : c'.store = r.1.store)
    (hb : requested events = before') (hr : released events = []) (he : requested events' = [])
    (he' : released events' = []) :
    Resumption c limit (before' ++ before) (c', events ++ r.2 ++ events') := by
  refine ⟨?_, ?_, ?_⟩
  · rw [hc', h.store, hc]
  · simp [hb, he, h.requests, hc]
  · simp [hr, he', h.releases, hc]

/-- A CONNACK is sent: the packets in the store go with the one that accepts the connection. -/
theorem resumption_finishConnack {accepted : Bool} :
    (c.finishConnack accepted packet).Ensures fun r ↦ if accepted then
      Resumption c c.maximumPacketSizeSend [packet] r else Thins c r.1 := by
  unfold finishConnack
  cases accepted with
  | false => exact Outcome.ensures_ret.mpr (.of_eq rfl)
  | true =>
    rw [if_neg (by simp)]
    refine sendStored_resumption.bind fun r hr ↦ Outcome.ensures_ret.mpr ?_
    have ht := timersOnly_sendPostProcess (c := r.1)
    have hb : requested [GenericEvent.requestSendPacket packet none] = [packet] := rfl
    have h : Resumption c c.maximumPacketSizeSend ([packet] ++ []) (r.1.sendPostProcess.1,
        [.requestSendPacket packet none] ++ r.2 ++ r.1.sendPostProcess.2) :=
      hr.around rfl idle_sendPostProcess.store hb rfl ht.requested ht.released
    rw [if_pos rfl]
    exact h

/-- A connection that can be accepted takes this CONNACK. -/
def Establishes (c : GenericConnection w) (packet : GenericPacket w) : Prop :=
  (∃ present, packet.connackOf = some present) ∧ c.status = .connecting ∧ actsAsServer c.role ∧
    (packet.protocolVersion = .v50 → c.validateMaximumPacketSizeSend packet.size)

theorem resumption_processSend (hpart : partOf packet = .connack) :
    (c.processSend packet).Ensures fun r ↦ Thins c r.1 ∧
      (c.Establishes packet → Resumption c c.maximumPacketSizeSend [packet] r) := by
  have hreject (e : MqttError) (h : ¬ c.Establishes packet) :
      (Outcome.ret (c.reject e)).Ensures fun r ↦ Thins c r.1 ∧
        (c.Establishes packet → Resumption c c.maximumPacketSizeSend [packet] r) :=
    Outcome.ensures_ret.mpr ⟨.of_eq rfl, fun h' ↦ (h h').elim⟩
  cases packet with
  | v311Connack p =>
    change (if _ then _ else _ : Outcome (Handled w)).Ensures _
    split
    swap
    · rename_i hrole
      exact hreject _ fun h ↦ hrole h.2.2.1
    unfold processSendV311Connack
    split
    · rename_i hstatus
      exact hreject _ fun h ↦ hstatus h.2.1
    · refine resumption_finishConnack.mono fun r hr ↦ ?_
      split at hr
      · exact ⟨hr.thins, fun _ ↦ hr⟩
      · rename_i hacc
        refine ⟨hr, fun h ↦ ?_⟩
        obtain ⟨⟨present, hp⟩, -⟩ := h
        simp [GenericPacket.connackOf, of_decide_eq_false (Bool.not_eq_true _ ▸ hacc)] at hp
  | v50Connack p =>
    change (if _ then _ else _ : Outcome (Handled w)).Ensures _
    split
    swap
    · rename_i hrole
      exact hreject _ fun h ↦ hrole h.2.2.1
    unfold processSendV50Connack limited
    split
    swap
    · rename_i hsize
      exact hreject _ fun h ↦ hsize (h.2.2.2 rfl)
    split
    · rename_i hstatus
      exact hreject _ fun h ↦ hstatus h.2.1
    by_cases hacc : p.reasonCode = .success
    · obtain ⟨hann, ht⟩ := announceAll_announceConnack (c := c) p.props
      have hstore : (c.announceAll announceConnack p.props).1.store = c.store := by rw [hann]
      have hlimit : (c.announceAll announceConnack p.props).1.maximumPacketSizeSend =
          c.maximumPacketSizeSend := by rw [hann]
      simp only [hacc, decide_true, if_true]
      refine resumption_finishConnack.bind fun r hr ↦ Outcome.ensures_ret.mpr ?_
      rw [if_pos rfl, hlimit] at hr
      have h : Resumption c c.maximumPacketSizeSend ([] ++ [.v50Connack p]) (r.1, _ ++ r.2 ++ []) :=
        hr.around hstore rfl ht.requested ht.released rfl rfl
      rw [List.append_nil] at h
      exact ⟨h.thins, fun _ ↦ h⟩
    · simp only [hacc, decide_false]
      refine resumption_finishConnack.bind fun r hr ↦ Outcome.ensures_ret.mpr ⟨hr, fun h ↦ ?_⟩
      obtain ⟨⟨present, hp⟩, -⟩ := h
      simp [GenericPacket.connackOf, hacc] at hp
  | _ => cases hpart

theorem Thins.trans (h : Thins c c') (h' : Thins c' c'') : Thins c c'' := List.Sublist.trans h' h

theorem opens_thins : Opens (Thins (w := w)) where
  refl _ := .of_eq rfl
  trans := Thins.trans
  idle h := .of_eq h.store
  awaiting kind _ := .of_eq (by cases kind <;> rfl)
  used _ := .of_eq rfl
  counted _ := .of_eq rfl
  handled _ := .of_eq rfl
  configured h := .of_eq h.store
  cleared _ := List.nil_sublist _
  resent _ := sendStored_resumption.mono fun _ hr ↦ hr.thins

theorem resumption_deliver (hpart : partOf packet = .connack) :
    (c.deliver packet).Ensures fun r ↦ Thins c r.1 ∧ (packet.connackOf = some true →
      Resumption c (limitAfter c.maximumPacketSizeSend packet) [] r) := by
  have hresume {c' : GenericConnection w} {present : Bool} {events : List (GenericEvent w)}
      (hs : c'.store = c.store) (hp : packet.connackOf = some present)
      (hl : c'.maximumPacketSizeSend = limitAfter c.maximumPacketSizeSend packet)
      (ht : TimersOnly events) : (c'.resumeSession present >>= fun r ↦
        .ret (r.1, events ++ r.2 ++ [.notifyPacketReceived packet])).Ensures fun r ↦ Thins c r.1 ∧
          (packet.connackOf = some true →
            Resumption c (limitAfter c.maximumPacketSizeSend packet) [] r) := by
    cases present with
    | false => exact Outcome.ensures_ret.mpr ⟨List.nil_sublist _, by simp [hp]⟩
    | true =>
      refine sendStored_resumption.bind fun r hr ↦ Outcome.ensures_ret.mpr ?_
      rw [hl] at hr
      have h : Resumption c (limitAfter c.maximumPacketSizeSend packet) ([] ++ [])
          (r.1, events ++ r.2 ++ [.notifyPacketReceived packet]) :=
        hr.around hs rfl ht.requested ht.released rfl rfl
      exact ⟨h.thins, fun _ ↦ h⟩
  have hrefused (hp : packet.connackOf = none) :
      (Outcome.ret (c, [.notifyPacketReceived packet])).Ensures fun r : Handled w ↦ Thins c r.1 ∧
        (packet.connackOf = some true →
          Resumption c (limitAfter c.maximumPacketSizeSend packet) [] r) :=
    Outcome.ensures_ret.mpr ⟨.of_eq rfl, by simp [hp]⟩
  cases packet with
  | v311Connack p =>
    change (c.recvV311Connack p).Ensures _
    unfold recvV311Connack
    split
    · rename_i hacc
      have hp : (GenericPacket.v311Connack p : GenericPacket w).connackOf = some p.sessionPresent :=
        if_pos hacc
      have ht : TimersOnly ([] : List (GenericEvent w)) := ⟨rfl, rfl, rfl, rfl⟩
      have hs : ({ c with status := .connected } : GenericConnection w).store = c.store := rfl
      exact hresume hs hp rfl ht
    · rename_i hacc
      exact hrefused (by simp [GenericPacket.connackOf, hacc])
  | v50Connack p =>
    change (c.recvV50Connack p).Ensures _
    unfold recvV50Connack
    split
    · rename_i hacc
      obtain ⟨⟨c', events⟩, hnote, -, hl, ht⟩ :=
        noteAll_spec (c := { c with status := .connected }) p.props
      have hstore := (learns_noteAll (c := { c with status := .connected }) p.props _ hnote).configures.store
      rw [hnote, Outcome.ret_bind]
      exact hresume hstore (by simp [GenericPacket.connackOf, hacc]) hl ht
    · rename_i hacc
      exact hrefused (by simp [GenericPacket.connackOf, hacc])
  | _ => cases hpart

theorem responsePacket_pubrel (h : stored.toPacket.pubrelOf = some id) :
    stored.packetId = some id ∧
      (stored.responsePacket = some .v311Pubcomp ∨ stored.responsePacket = some .v50Pubcomp) := by
  cases stored with
  | v311Publish | v50Publish => cases h
  | v311Pubrel p => exact ⟨h, .inl rfl⟩
  | v50Pubrel p => exact ⟨h, .inr rfl⟩

theorem responseOf_pubrec (h : ackOf packet = some (.pubrec, id)) :
    responseOf packet = some .v311Pubrec ∨ responseOf packet = some .v50Pubrec := by
  cases packet with
  | v311Pubrec p => exact .inl rfl
  | v50Pubrec p => exact .inr rfl
  | _ => simp [ackOf] at h

/-- An acknowledgement removes what it answers, and PUBREC may put PUBREL in its place. -/
theorem changes_deliverAck {kind : AckKind} (hack : ackOf packet = some (kind, id)) :
    (c.deliver packet).Ensures fun r ↦
      Changes (fun e ↦ (responseOf packet).any fun response ↦ answeredBy response id e)
        (fun e ↦ kind = .pubrec ∧ e.1 = id ∧ e.2.toPacket.pubrelOf = some id) c r.1 := by
  refine frames_changes.deliverAck hack (fun hkind stored hs ↦ ?_) fun response hr ↦ ?_
  · apply addsStored_changes
    intro u hu
    obtain ⟨hid, hanswer⟩ := responsePacket_pubrel hs
    obtain rfl := Option.some.inj (hid.symm.trans hu)
    refine ⟨⟨hkind, rfl, hs⟩, ?_⟩
    subst hkind
    rcases responseOf_pubrec hack with hresp | hresp <;> rcases hanswer with ha | ha <;>
      simp [hresp, answeredBy, ha]
  · rw [hr]
    exact erasesStored_changes

theorem frames_store : Frames fun c c' : GenericConnection w ↦ c'.store = c.store where
  refl _ := rfl
  trans h h' := h'.trans h
  idle := Idle.store
  awaiting kind _ := by cases kind <;> rfl
  used _ := rfl
  counted _ := rfl
  handled _ := rfl
  noted _ _ := rfl

end MqttProtocolCore.Connection.GenericConnection
