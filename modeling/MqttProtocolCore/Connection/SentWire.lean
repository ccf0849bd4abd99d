import MqttProtocolCore.Connection.OwnPackets
import MqttProtocolCore.Connection.RoleSafety
import MqttProtocolCore.Connection.StoreOrder
import MqttProtocolCore.Connection.Stream

namespace MqttProtocolCore.Connection.GenericConnection

open General Packet

variable {w : IdWidth} {c c' : GenericConnection w} {packet q : GenericPacket w} {id : PacketId w}
  {stored : GenericStorePacket w} {op : Operation w} {x : Outcome (Handled w)} {r : Handled w}
  {v : Version} {N : GenericPacket w → Prop}

def Given : Operation w → Prop
  | .send packet => Wired packet
  | .restorePackets packets => ∀ stored ∈ packets, Wired stored.toPacket
  | _ => True

section Publish

variable {p : V50.Publish w}

/-- The copy for the store and the PUBLISH that goes out are rewritten from the one that is sent. -/
theorem writable_storablePublish (h : Writable p) :
    (c.storablePublish p).Ensures fun r ↦ ∀ q ∈ r.1, Writable q := by
  unfold storablePublish
  split
  · split
    · exact Outcome.ensures_ret.mpr (by simp)
    · refine Outcome.Ensures.bind (P := Writable) (fun q hq ↦ ?_) fun q hq ↦ ?_
      · exact h.removeTopicAliasAddTopic (Fallible.unwrap_eq_ret.mp hq)
      · refine Outcome.ensures_ret.mpr fun q' hq' ↦ ?_
        obtain rfl := Option.mem_some.mp hq'
        exact hq.setDup true
  · refine Outcome.Ensures.bind (P := Writable) (fun q hq ↦ ?_) fun q hq ↦ ?_
    · exact h.removeTopicAlias (Fallible.unwrap_eq_ret.mp hq)
    · refine Outcome.ensures_ret.mpr fun q' hq' ↦ ?_
      obtain rfl := Option.mem_some.mp hq'
      exact hq.setDup true

theorem writable_unwrap {topicAlias : U16} (h : Writable p) :
    (p.removeTopicAddTopicAlias topicAlias).unwrap.Ensures Writable :=
  fun _ hq ↦ h.removeTopicAddTopicAlias (Fallible.unwrap_eq_ret.mp hq)

theorem writable_autoMapTopicAlias (h : Writable p) :
    (c.autoMapTopicAlias p).Ensures fun r ↦ Writable r.1 := by
  unfold autoMapTopicAlias
  split
  · exact Outcome.ensures_ret.mpr h
  · split
    · exact (writable_unwrap h).bind fun q hq ↦ Outcome.ensures_ret.mpr hq
    · refine Outcome.Ensures.bind (P := fun _ ↦ True) (fun _ _ ↦ trivial) fun lru _ ↦ ?_
      refine Outcome.Ensures.bind (P := fun _ ↦ True) (fun _ _ ↦ trivial) fun s _ ↦ ?_
      exact (writable_unwrap h).bind fun q hq ↦ Outcome.ensures_ret.mpr hq

theorem writable_autoReplaceTopicAlias (h : Writable p) :
    (c.autoReplaceTopicAlias p).Ensures Writable := by
  unfold autoReplaceTopicAlias
  split
  · exact writable_unwrap h
  · exact Outcome.ensures_ret.mpr h

theorem writable_applyTopicAlias {validated : Bool} (h : Writable p) :
    (c.applyTopicAlias p validated).Ensures fun r ↦ ∀ q ∈ r.1, Writable q := by
  have hsome {c' : GenericConnection w} {q : V50.Publish w} (hq : Writable q) :
      (Outcome.ret (some q, c')).Ensures fun r ↦ ∀ q ∈ r.1, Writable q := by
    refine Outcome.ensures_ret.mpr fun q' hq' ↦ ?_
    obtain rfl := Option.mem_some.mp hq'
    exact hq
  have hnone {c' : GenericConnection w} :
      (Outcome.ret ((none : Option (V50.Publish w)), c')).Ensures fun r ↦ ∀ q ∈ r.1, Writable q :=
    Outcome.ensures_ret.mpr (by simp)
  unfold applyTopicAlias
  split
  · split
    · exact hsome h
    · split
      · exact hnone
      · exact hsome h
  · split
    · split
      · exact Outcome.Ensures.bind (P := fun _ ↦ True) (fun _ _ ↦ trivial) fun c' _ ↦ hsome h
      · exact hnone
    · split
      · exact (writable_autoMapTopicAlias h).bind fun q hq ↦ hsome hq
      · split
        · exact (writable_autoReplaceTopicAlias h).bind fun q hq ↦ hsome hq
        · exact hsome h

theorem wired_sendV50Publish {validated : Bool} {rel : Option (PacketId w)} (h : Writable p) :
    Emitting Wired N (c.sendV50Publish p validated rel) := by
  refine (writable_applyTopicAlias h).bind fun o ho ↦ ?_
  obtain ⟨o, c'⟩ := o
  cases o with
  | none => exact emitting_refuse _ _
  | some q =>
    apply emitting_after
    intro o
    cases o with
    | none => exact emitting_refuse _ _
    | some c'' => exact emitting_ret (emits_transmit (wired_v50Publish_iff.mpr (ho q rfl)))

theorem wired_processSendV50Publish (h : Writable p) :
    Emitting Wired N (c.processSendV50Publish p) := by
  apply emitting_limited
  split
  · split
    · exact emitting_refuse _ _
    split
    · exact emitting_reject _
    split
    · apply emitting_after
      intro o
      split
      · exact emitting_refuse _ _
      · exact emitting_after fun c' ↦ wired_sendV50Publish h
    · exact wired_sendV50Publish h
  · split
    · exact emitting_reject _
    · exact wired_sendV50Publish h

end Publish

abbrev StoreWired (c : GenericConnection w) : Prop := Sendable Wired c

theorem wired_send (hs : StoreWired c) (h : Wired packet) :
    Emitting Wired N (c.send packet) := by
  unfold send
  split
  · exact emitting_reject _
  · by_cases hpub : partOf packet = .publish
    · cases packet with
      | v311Publish p => exact emitting_processSendV311Publish h
      | v50Publish p => exact wired_processSendV50Publish (wired_v50Publish_iff.mp h)
      | _ => cases hpub
    · refine emitting_processSend hs fun q hq hform ↦ ?_
      rcases hform with rfl | hform
      · exact h
      · exact (hpub (hq.publish hform)).elim

theorem Prepares.wired (h : c.Prepares packet stored) (hw : Wired packet) :
    Wired stored.toPacket := by
  cases packet with
  | v311Publish p =>
    obtain rfl : stored = .v311Publish (p.setDup true) := h
    exact wired_v311Publish_setDup hw true
  | v50Publish p =>
    obtain ⟨q, c', hq, rfl⟩ := h
    exact wired_v50Publish_iff.mpr (writable_storablePublish (wired_v50Publish_iff.mp hw) _ hq q rfl)
  | v311Pubrel p =>
    obtain rfl : stored = .v311Pubrel p := h
    exact hw
  | v50Pubrel p =>
    obtain rfl : stored = .v50Pubrel p := h
    exact hw
  | _ => exact h.elim

theorem step_wired (hc : c.Reading) (hs : StoreWired c) (hop : Given op) :
    (c.step op).Ensures fun r ↦ ∀ q ∈ requested r.2.toEvents, Wired q := by
  have hevents {y : Outcome (Handled w)} (hy : Emitting Wired (fun _ ↦ True) y) :
      (y >>= fun r ↦ Outcome.ret (r.1, Reply.events r.2)).Ensures fun r ↦
        ∀ q ∈ requested r.2.toEvents, Wired q :=
    Outcome.Ensures.bind (P := fun r : Handled w ↦ Emits Wired (fun _ ↦ True) r.2) hy fun r hr ↦
      Outcome.ensures_ret.mpr hr.requests
  intro r hr q hq
  have hemits := step_emits hc op r hr
  cases op with
  | send packet => exact hevents (wired_send hs hop) r hr q hq
  | recv data =>
    obtain ⟨r', hr', hret⟩ := Outcome.bind_eq_ret.mp hr
    obtain rfl := Outcome.ret.inj hret
    exact (own_recv (fun q ↦ Own.wired) hc hs hr').requests q hq
  | notifyTimerFired kind => exact hevents (own_notifyTimerFired (fun q ↦ Own.wired) kind) r hr q hq
  | _ =>
    cases hemits.requests q hq with
    | stored hstored => exact hs _ _ hstored

theorem step_storeWired (hc : c.Reading) (hs : StoreWired c) (hop : Given op) :
    (c.step op).Ensures fun r ↦ StoreWired r.1 := by
  intro r hr id stored hid
  have hsent := step_wired hc hs hop r hr
  obtain ⟨-, c₀, hprep, hchange⟩ := (step_spec hc op).of_ret hr
  generalize hin : c.inputOf op = input at hchange
  cases hchange.stores hid with
  | kept id' hold =>
    rw [hprep.session] at hold
    exact hs id' stored hold
  | requested hreq => exact hsent _ hreq
  | restored hmem =>
    obtain rfl := restore_of_inputOf hin
    exact hop stored hmem
  | sent =>
    obtain rfl := send_of_inputOf hin
    obtain ⟨added, ⟨hadded, -⟩, kept, hsub, -, hentries⟩ := step_appends hc _ r hr
    have hmem : (id, stored) ∈ r.1.store.map.entries := IndexMap.get_eq_some.mp hid
    rw [hentries, List.mem_append] at hmem
    rcases hmem with hmem | hmem
    · exact hs id stored (IndexMap.get_eq_some.mpr (hsub.subset hmem))
    · cases hadded _ hmem with
      | sent hprepares => exact hprepares.wired hop

/-- In every run, whatever is asked to be sent can be read by the peer, when what the application
sends and restores can. -/
theorem sent_wired {trace : Trace w} (h : Run (system w) (fun _ op ↦ Given op) trace c) :
    ∀ t ∈ trace, ∀ q ∈ requested t.output.toEvents, Wired q := by
  refine (h.transitions (I := fun c ↦ c.Reading ∧ StoreWired c) ?_ ?_).2
  · rintro _ ⟨role, version, rfl⟩
    refine ⟨⟨[], .header⟩, ?_⟩
    intro id stored hs
    cases hs
  · intro c op hinv hop r hr
    obtain ⟨hc, hs⟩ := hinv
    exact ⟨⟨step_reading hc op r hr, step_storeWired hc hs hop r hr⟩, step_wired hc hs hop r hr⟩

def sentIn (trace : Trace w) : List (GenericPacket w) :=
  trace.flatMap fun t ↦ requested t.output.toEvents

/-- Packets are sent in the version of the connection, unless they were restored in another. -/
theorem sent_version {trace : Trace w} (h : Run (system w) (fun _ op ↦ Given op) trace c) :
    ∀ q ∈ sentIn trace, q.protocolVersion = c.protocolVersion ∨ Restored trace q := by
  have hfree : Run (system w) (fun _ _ ↦ True) trace c := by
    induction h with
    | init h => exact .init h
    | step _ _ hstep ih => exact .step ih trivial hstep
  clear h
  induction hfree with
  | init h => simp [sentIn]
  | @step trace c c' op o hrun _ hstep ih =>
    intro q hq
    rw [sentIn, List.flatMap_append, List.mem_append] at hq
    have hver := step_version (reachable_reading hrun.reachable) op _ hstep
    rcases hq with hq | hq
    · rcases ih q hq with hv | hres
      · rcases hver with hver | hundetermined
        · exact .inl (hv.trans hver.symm)
        · exact (protocolVersion_ne q (hv.trans hundetermined)).elim
      · exact .inr (hres.append _)
    · have hproper := sent_proper hrun op _ hstep q (by simpa using hq)
      exact hproper.version.imp_right fun hres ↦ hres.append _

theorem sent_streamable {trace part : Trace w}
    (h : Run (system w) (fun _ op ↦ Given op) trace c) (hpart : part <:+: trace)
    (hrestored : ∀ q, Restored trace q → q.protocolVersion = c.protocolVersion)
    (hsize : ∀ q ∈ sentIn part, q.size ≤ framedMax) :
    ∀ q ∈ sentIn part, Streamable c.protocolVersion q := by
  intro q hq
  obtain ⟨t, ht, hreq⟩ := List.mem_flatMap.mp hq
  have hmem : t ∈ trace := hpart.subset ht
  refine ⟨sent_wired h t hmem q hreq, ?_, hsize q hq⟩
  rcases sent_version h q (List.mem_flatMap.mpr ⟨t, hmem, hreq⟩) with hv | hres
  · exact hv
  · exact hrestored q hres

/-- The bytes of what is sent in a part of a run, in slices of any lengths, are read as these
packets, in their order, by a peer that speaks the version of the connection. -/
theorem sent_stream_read_back {trace part : Trace w}
    (h : Run (system w) (fun _ op ↦ Given op) trace c) (hpart : part <:+: trace)
    (hrestored : ∀ q, Restored trace q → q.protocolVersion = c.protocolVersion)
    (hsize : ∀ q ∈ sentIn part, q.size ≤ framedMax) (slices : List Bytes) {rest : Bytes}
    (hs : slices.flatten ++ rest = stream (sentIn part)) : ∃ b log n,
      PacketBuilder.new.drainSlices 0 slices = some (b, slices.flatten.length, log) ∧
        readLog c.protocolVersion log = ((sentIn part).take n).map some ∧
          (rest = [] → b = .new ∧ n = (sentIn part).length) := by
  exact stream_read_back (sent_streamable h hpart hrestored hsize) slices hs

theorem sends_connect : ∃ (c : GenericConnection .u16) (trace : Trace .u16),
    Run (system .u16) (fun _ op ↦ Given op) trace c ∧ c.protocolVersion = .v311 ∧
      (∀ q, ¬ Restored trace q) ∧ sentIn trace ≠ [] ∧ ∀ q ∈ sentIn trace, q.size ≤ framedMax := by
  obtain ⟨p, -, ⟨hsize, hsum, hflatten, hremaining⟩, hread, r, hr, hv, hmax, hne⟩ :
      (V311.Connect.parse [0, 4, 0x4d, 0x51, 0x54, 0x54, 4, 2, 0, 0, 0, 1, 0x61]).unwrap.Attains
        fun p ↦ (p.1.size = p.1.toContinuousBuffer.length ∧
            p.1.size = (p.1.toBuffers.map List.length).sum ∧
            p.1.toBuffers.flatten = p.1.toContinuousBuffer ∧
            frameLength p.1.toContinuousBuffer = some (frameBody p.1.toContinuousBuffer).length) ∧
          readBack (w := .u16) .v311 p.1.toContinuousBuffer = some (.v311Connect p.1) ∧
          ((new .client .u16 .v311).step (.send (.v311Connect p.1))).Attains fun r ↦
            r.1.protocolVersion = .v311 ∧ (∀ q ∈ requested r.2.toEvents, q.size ≤ framedMax) ∧
              requested r.2.toEvents ≠ [] := by
    decide +kernel
  have hgiven : Given (.send (.v311Connect p.1) : Operation .u16) :=
    ⟨⟨hsize, hsum, hflatten, hremaining⟩, hread⟩
  have hinit : (system .u16).Init (new .client .u16 .v311) := ⟨.client, .v311, rfl⟩
  have hrun : Run (system .u16) (fun _ op ↦ Given op) _ r.1 := .step (.init hinit) hgiven hr
  rw [List.nil_append] at hrun
  have hsent : sentIn [⟨new .client .u16 .v311, .send (.v311Connect p.1), r.1, r.2⟩] =
      requested r.2.toEvents := List.append_nil _
  refine ⟨r.1, _, hrun, hv, ?_, hsent ▸ hne, hsent ▸ hmax⟩
  intro q hq
  obtain ⟨t, ht, packets, hin, -⟩ := hq
  obtain rfl := List.mem_singleton.mp ht
  cases hin

theorem sent_stream_read_back_connect : ∃ (c : GenericConnection .u16) (trace : Trace .u16)
    (slices : List Bytes) (b : PacketBuilder) (log : PacketBuilder.Log) (n : ℕ),
      sentIn trace ≠ [] ∧ slices.length = 2 ∧ slices.flatten = stream (sentIn trace) ∧
      PacketBuilder.new.drainSlices 0 slices = some (b, slices.flatten.length, log) ∧
      readLog c.protocolVersion log = ((sentIn trace).take n).map some ∧
      n = (sentIn trace).length := by
  obtain ⟨c, trace, hrun, -, hrestored, hne, hmax⟩ := sends_connect
  have hcat : [(stream (sentIn trace)).take 3, (stream (sentIn trace)).drop 3].flatten =
      stream (sentIn trace) := by simp
  obtain ⟨b, log, n, hdrain, hlog, hend⟩ := sent_stream_read_back hrun (List.infix_refl _)
    (fun q hq ↦ (hrestored q hq).elim) hmax _ ((List.append_nil _).trans hcat)
  exact ⟨c, trace, _, b, log, n, hne, rfl, hcat, hdrain, hlog, (hend rfl).2⟩

end MqttProtocolCore.Connection.GenericConnection
