import MqttProtocolCore.Connection.HandoverStage
import MqttProtocolCore.Connection.SingleReply

namespace MqttProtocolCore.Connection

open General Packet GenericConnection

variable {w : IdWidth} {u id : PacketId w} {packet q : GenericPacket w} {kind : AckKind}
  {s : Session w} {rep : Report w} {input : Input w} {qos : Qos}
  {owed : List (AckKind × PacketId w)} {requested notified : List (GenericPacket w)}

def tookIn (u : PacketId w) : Input w → Option Forth
  | .receive packet => forthOf u packet
  | _ => none

namespace GenericConnection

variable {c : GenericConnection w}

structure Serves (c : GenericConnection w) (owed : List (AckKind × PacketId w)) (input : Input w) :
    Prop where
  owed : ∀ packet kind id, input = .send packet → ackOf packet = some (kind, id) →
    kind = .pubrec ∨ kind = .pubcomp → (kind, id) ∈ owed
  reason : ∀ packet id, input = .send packet → ackOf packet = some (.pubrec, id) →
    continues packet ∨ failsPubrec packet
  resolves : ∀ p, input = .receive (.v50Publish p) → p.qos = .exactlyOnce → c.admits p →
    c.Resolves p
  handled : ∀ ids, input ≠ .restoreHandled ids
  closed : input ≠ .close

def Decides (input : Input w) : Prop :=
  ∃ packet id, input = .send packet ∧ ackOf packet = some (.pubrec, id)

/-- What the receiver makes of the exchange with an identifier in a step. -/
abbrev Responds (u : PacketId w) (s : Session w) (owed : List (AckKind × PacketId w))
    (input : Input w) (s' : Session w) (rep : Report w) : Prop :=
  ReceiverMove (Decides input) (u ∈ s.handled) (owed.filterMap (dueOf u)) (tookIn u input) (u ∈ s'.handled)
    (Told u rep.notified) (rep.requested.filterMap (backOf u))
    ((owes owed rep.requested rep.notified).filterMap (dueOf u))

theorem responds_rest {s' : Session w} (hs : u ∈ s'.handled ↔ u ∈ s.handled)
    (htook : tookIn u input = none) (hn : ∀ p ∈ rep.notified, forthOf u p = none)
    (hr : ∀ q ∈ rep.requested, backOf u q = none) : Responds u s owed input s' rep := by
  unfold Responds
  rw [htook, filterMap_owes_rest hn hr, List.filterMap_eq_nil_iff.mpr hr]
  refine .rest hs fun ⟨p, hp, hpub⟩ ↦ ?_
  have hnone := hn p hp
  rw [forthOf_publish hpub] at hnone
  simp at hnone

structure Replies (input : Input w) (rep : Report w) : Prop where
  publish : ∀ packet id qos, input = .receive packet → packet.publishOf = some (id, qos) →
    rep.requested = [] ∨ ∃ q, rep.requested = [q] ∧ Answering qos id q
  pubrel : ∀ packet id, input = .receive packet → packet.pubrelOf = some id →
    rep.notified = [packet] ∧ (rep.requested = [] ∨ ∃ q, rep.requested = [q])
  ack : ∀ packet p, input = .send packet → ackOf packet = some p →
    rep.requested = [] ∨ rep.requested = [packet]

theorem tookIn_confirm (h : tookIn u input = some .confirm) :
    ∃ packet, input = .receive packet ∧ packet.pubrelOf = some u := by
  cases input with
  | receive packet =>
    refine ⟨packet, rfl, ?_⟩
    have h' : forthOf u packet = some .confirm := h
    unfold forthOf at h'
    split at h'
    · cases h'
    · split at h'
      · assumption
      · cases h'
  | _ => cases h

/-- The application sends an acknowledgement that leaves what is handled alone. -/
theorem responds_acked {notified : List (GenericPacket w)} {released : List (PacketId w)}
    {errors : List MqttError} (hserves : c.Serves owed (.send packet))
    (hdue : ∃ place : Place, owed.filterMap (dueOf u) = place.due)
    (hack : ackOf packet = some (kind, id)) (hc : kind = .pubrec → continues packet)
    (hn : ∀ p ∈ notified, forthOf u p = none) {s' : Session w}
    (hs : u ∈ s'.handled ↔ u ∈ c.session.handled) :
    Responds u c.session owed (.send packet) s' ⟨[packet], notified, released, errors⟩ := by
  have hnot : ¬ Told u notified := fun ⟨p, hp, hpub⟩ ↦ by
    have hnone := hn p hp
    rw [forthOf_publish hpub] at hnone
    simp at hnone
  by_cases hpubrec : (kind, id) = (.pubrec, u)
  · obtain ⟨rfl, rfl⟩ := Prod.mk.inj hpubrec
    have hpaid := due_of_mem (d := .answer) hdue (hserves.owed _ _ _ rfl hack (.inl rfl))
    unfold Responds
    rw [filterMap_owes_paid hpaid hack hn, hpaid, List.filterMap_cons_some (backOf_accept hack (hc rfl))]
    exact .accepts hs hnot
  by_cases hpubcomp : (kind, id) = (.pubcomp, u)
  · obtain ⟨rfl, rfl⟩ := Prod.mk.inj hpubcomp
    have hpaid := due_of_mem (d := .finish) hdue (hserves.owed _ _ _ rfl hack (.inr rfl))
    unfold Responds
    rw [filterMap_owes_paid hpaid hack hn, hpaid, List.filterMap_cons_some (backOf_finish hack)]
    exact .finishes hs hnot
  refine responds_rest hs rfl hn (List.forall_mem_singleton.mpr (backOf_eq_none.mpr ⟨?_, ?_⟩))
  · rw [hack]
    exact fun h ↦ hpubrec (Option.some.inj h)
  · rw [hack]
    exact fun h ↦ hpubcomp (Option.some.inj h)

theorem backOf_toPacket (stored : GenericStorePacket w) : backOf u stored.toPacket = none :=
  backOf_of_part (by cases stored <;> nofun)

/-- The packets that a resumption sends again are no acknowledgements. -/
theorem backOf_resends {s s' : Session w} {limit : ℕ} {requested : List (GenericPacket w)}
    {released : List (PacketId w)} (h : s.Resends s' limit requested released) :
    ∀ q ∈ requested, backOf u q = none := by
  intro q hq
  obtain ⟨_, stored, -, -, rfl⟩ := (h.requested q).mp hq
  exact backOf_toPacket stored

theorem not_continues (hv : packet.protocolVersion = .v50)
    (hfail : failsPubrec packet) : ¬ continues packet := by
  intro hc
  have hall : (pubrecReasonOf packet).all (· = .success) := hc.resolve_left (by simp [hv])
  have hany : (pubrecReasonOf packet).any PubrecReasonCode.isFailure := hfail
  cases hr : pubrecReasonOf packet with
  | none => simp [hr] at hany
  | some r =>
    simp only [hr, Option.all_some, decide_eq_true_eq] at hall
    subst hall
    rw [hr] at hany
    cases hany

theorem continues_v311 (hack : ackOf packet = some (.pubrec, id))
    (hv : packet.protocolVersion ≠ .v50) : continues packet := by
  cases packet with
  | v311Pubrec => exact .inl rfl
  | v50Pubrec => exact (hv rfl).elim
  | _ => cases hack

theorem Change.responds (h : Change c input s rep) (hserves : c.Serves owed input)
    (hreplies : Replies input rep) (hdue : ∃ place : Place, owed.filterMap (dueOf u) = place.due)
    (htook : tookIn u input ≠ none → owed.filterMap (dueOf u) = []) :
    Responds u c.session owed input s rep := by
  have hsilent {p : GenericPacket w} (hp : Silent p) : backOf u p = none := backOf_of_none hp.ack
  cases h with
  | refused hv hst hreq herr =>
    have hr : ∀ q ∈ _, backOf u q = none := fun q hq ↦ hsilent (hreq q hq)
    cases htok : tookIn u input with
    | none => exact responds_rest Iff.rfl htok (by simp) hr
    | some t =>
      cases t with
      | offer =>
        unfold Responds
        rw [filterMap_owes_rest (by simp) hr, htook (by simp [htok]), htok,
          List.filterMap_eq_nil_iff.mpr hr]
        exact .refuses Iff.rfl (by simp [Told])
      | confirm =>
        obtain ⟨packet, rfl, hp⟩ := tookIn_confirm htok
        exact absurd (hreplies.pubrel packet u rfl hp).1 (by simp)
  | idle hcalm hst hreq hnot =>
    refine responds_rest Iff.rfl ?_ (fun p hp ↦ forthOf_calm (hnot p hp)) fun q hq ↦ hsilent (hreq q hq)
    cases input with
    | receive packet => exact forthOf_calm hcalm
    | _ => rfl
  | answered hans hreq hnot =>
    have hn : ∀ p ∈ _, forthOf u p = none := fun p hp ↦ forthOf_calm (hnot p hp)
    cases input with
    | send packet =>
      obtain ⟨⟨kind, id⟩, hack⟩ := Option.isSome_iff_exists.mp hans
      rcases hreplies.ack packet _ rfl hack with hr | hr
      · dsimp only at hr
        subst hr
        exact responds_rest Iff.rfl rfl hn (by simp)
      · dsimp only at hr
        subst hr
        refine responds_acked hserves hdue hack (fun hk ↦ ?_) hn Iff.rfl
        subst hk
        refine (hserves.reason packet id rfl hack).resolve_right ?_
        exact (hreq packet (List.mem_singleton_self _)).2.2.2.2
    | receive packet =>
      obtain ⟨id, hp⟩ := hans
      refine responds_rest Iff.rfl (by simp [tookIn, forthOf_publish hp]) hn ?_
      rcases hreplies.publish packet id _ rfl hp with hr | ⟨q, hr, hq⟩
      · dsimp only at hr
        simp [hr]
      · dsimp only at hr
        rw [hr]
        refine List.forall_mem_singleton.mpr (backOf_eq_none.mpr ?_)
        rcases hq with hq | ⟨hq, -⟩ <;> simp [hq, publishAck]
    | _ => exact hans.elim
  | @pubrecSent packet id hack hfail =>
    by_cases hv : packet.protocolVersion = .v50
    · rw [if_pos hv]
      by_cases hu : id = u
      · subst hu
        have hpaid := due_of_mem (d := .answer) hdue (hserves.owed _ _ _ rfl hack (.inl rfl))
        have hback := backOf_decline hack (not_continues hv hfail)
        unfold Responds
        rw [filterMap_owes_paid hpaid hack (by simp), hpaid, List.filterMap_cons_some hback]
        exact .declines ⟨packet, id, rfl, hack⟩ (by simp) (by simp [Told])
      · refine responds_rest ?_ rfl (by simp) (List.forall_mem_singleton.mpr (backOf_ack hack hu))
        simp [Ne.symm hu]
    · rw [if_neg hv]
      exact responds_acked hserves hdue hack (fun _ ↦ continues_v311 hack hv) (by simp) Iff.rfl
  | @connectSent packet clean hp hst =>
    refine responds_rest ?_ rfl (by simp) (List.forall_mem_singleton.mpr ?_)
    · cases clean <;> exact Iff.rfl
    · exact backOf_of_part (by simp [partOf_connect hp])
  | @connectReceived packet clean v' hp hst hv =>
    have hpart := partOf_connect hp
    have hforth : forthOf u packet = none := forthOf_of_part (by simp [hpart]) (by simp [hpart])
    refine responds_rest ?_ hforth (List.forall_mem_singleton.mpr hforth) (by simp)
    cases clean <;> exact Iff.rfl
  | @connackSent packet present s requested released hp hst hres =>
    refine responds_rest ?_ rfl (by simp) (List.forall_mem_cons.mpr ⟨?_, backOf_resends hres⟩)
    · rw [hres.state]
    · exact backOf_of_part (by simp [partOf_connack hp])
  | @connackResumes packet s requested released hp hres =>
    have hpart := partOf_connack hp
    have hforth : forthOf u packet = none := forthOf_of_part (by simp [hpart]) (by simp [hpart])
    refine responds_rest ?_ hforth (List.forall_mem_singleton.mpr hforth) (backOf_resends hres)
    rw [hres.state]
  | @connackAnew packet hp =>
    have hpart := partOf_connack hp
    have hforth : forthOf u packet = none := forthOf_of_part (by simp [hpart]) (by simp [hpart])
    exact responds_rest Iff.rfl hforth (List.forall_mem_singleton.mpr hforth) (by simp)
  | @publishRefused packet id qos errors hp herr =>
    exact responds_rest Iff.rfl rfl (by simp) (by simp)
  | @publishWithdrawn packet id qos s' errors hp hw hused hs herr =>
    refine responds_rest ?_ rfl (by simp) (by simp)
    rcases hs with ⟨-, rfl⟩ | ⟨-, -, stored, -, -, rfl⟩ <;> exact Iff.rfl
  | @published packet sent id qos s' hp hno hused hsent hs =>
    refine responds_rest ?_ rfl (by simp) fun q hq ↦ ?_
    · rw [Session.counted_frame]
      rcases hs with ⟨-, rfl⟩ | ⟨-, -, stored, -, -, rfl⟩ <;> exact Iff.rfl
    · dsimp only at hq
      split at hq
      · obtain rfl := List.mem_singleton.mp hq
        exact backOf_of_part (by simp [partOf_publish hsent.1])
      · cases hq
  | @pubrelSent packet id s' hp hused hs =>
    refine responds_rest ?_ rfl (by simp) fun q hq ↦ ?_
    · rcases hs with ⟨-, rfl⟩ | ⟨-, -, stored, -, rfl⟩ <;> split <;> exact Iff.rfl
    · dsimp only at hq
      split at hq
      · obtain rfl := List.mem_singleton.mp hq
        exact backOf_of_part (by simp [partOf_pubrel hp])
      · cases hq
  | @subscribed packet kind id hp hused =>
    refine responds_rest Iff.rfl rfl (by simp) (List.forall_mem_singleton.mpr ?_)
    exact backOf_of_part (by simp [partOf_subscription hp])
  | @subscriptionRefused packet kind id errors hp herr =>
    exact responds_rest Iff.rfl rfl (by simp) (by simp)
  | @publishReceived packet notice id requested errors hp hn hreq =>
    by_cases hu : id = u
    swap
    · refine responds_rest ?_ ?_ (fun p hmem ↦ ?_) fun q hq ↦ backOf_ack (hreq q hq).1 hu
      · simp [Ne.symm hu]
      · simp [tookIn, forthOf_publish hp, hu]
      · dsimp only at hmem
        split at hmem
        · cases hmem
        · obtain rfl := List.mem_singleton.mp hmem
          simp [forthOf_publish hn, hu]
    subst hu
    have htok : tookIn id (.receive packet) = some .offer := by simp [tookIn, forthOf_publish hp]
    have hdue₀ := htook (by simp [htok])
    have hnotice : forthOf id notice = some .offer := by simp [forthOf_publish hn]
    have hyes : id ∈ insert id c.session.handled := Set.mem_insert _ _
    have hreply : requested = [] ∨ ∃ q, requested = [q] ∧ ackOf q = some (.pubrec, id) ∧
        continues q := by
      rcases hreplies.publish packet id _ rfl hp with hr | ⟨q, hr, hq⟩
      · exact .inl hr
      · have hr' : requested = [q] := hr
        have hack := (hreq q (by simp [hr'])).1
        refine .inr ⟨q, hr', hack, .inr ?_⟩
        rcases hq with hq | ⟨-, hq⟩
        · simp [hack] at hq
        · simp [hq]
    unfold Responds
    rw [htok, filterMap_owes, hdue₀]
    dsimp only
    by_cases hh : id ∈ c.qos2PublishHandled
    · have hhandled : id ∈ c.session.handled := hh
      rw [if_pos hh]
      rcases hreply with rfl | ⟨q, rfl, hack, hc⟩
      · exact .repeats hyes (by simp [Told]) hhandled
      · rw [List.filterMap_cons_some (backOf_accept hack hc)]
        exact .answers hyes (by simp [Told, hhandled])
    · have hhandled : id ∉ c.session.handled := hh
      have htold : Told id [notice] := ⟨notice, List.mem_singleton_self _, hn⟩
      rw [if_neg hh]
      rcases hreply with rfl | ⟨q, rfl, hack, hc⟩
      · simp only [List.filterMap_cons, hnotice, Option.map_some, List.filterMap_nil, List.nil_append]
        exact .takes hyes htold hhandled
      · rw [List.filterMap_cons_some (backOf_accept hack hc)]
        simp only [List.filterMap_cons, hnotice, hack, Option.map_some, List.filterMap_nil,
          List.nil_append, dueFor, ackFor, List.filter_cons, List.mem_singleton, not_true_eq_false,
          decide_false, Bool.false_eq_true, if_false, List.filter_nil]
        exact .answers hyes (by simp [htold, hhandled])
  | @publishDropped packet id st requested errors hid hqos hadm hres hst hreq herr =>
    exact (hres (hserves.resolves packet rfl hqos hadm)).elim
  | @acknowledged packet kind id response hack hkind hres hid =>
    have hpart := partOf_ack hack
    have hforth : forthOf u packet = none := forthOf_of_part (by simp [hpart]) (by simp [hpart])
    refine responds_rest ?_ hforth (List.forall_mem_singleton.mpr hforth) (by simp)
    rw [Session.finished_frame]
    exact Iff.rfl
  | @pubrecReceived packet id response s' requested errors hack hres hcont hid hs =>
    have hpart := partOf_ack hack
    have hforth : forthOf u packet = none := forthOf_of_part (by simp [hpart]) (by simp [hpart])
    refine responds_rest ?_ hforth (List.forall_mem_singleton.mpr hforth) ?_
    · rcases hs with ⟨-, -, rfl⟩ | ⟨-, -, p, hp, -, ⟨-, rfl⟩ | ⟨-, -, st, -, rfl⟩⟩ <;> exact Iff.rfl
    · rcases hs with ⟨rfl, -⟩ | ⟨-, -, p, hp, rfl, -⟩
      · simp
      · exact List.forall_mem_singleton.mpr (backOf_of_part (by simp [partOf_pubrel hp]))
  | @pubrecFailed packet hfail hid =>
    have hforth : forthOf u (.v50Pubrec packet) = none := forthOf_of_part (by simp [partOf]) (by simp [partOf])
    refine responds_rest ?_ hforth (List.forall_mem_singleton.mpr hforth) (by simp)
    rw [Session.finished_frame]
    exact Iff.rfl
  | @pubrelReceived packet id requested errors hp hreq =>
    by_cases hu : id = u
    swap
    · refine responds_rest ?_ ?_ ?_ fun q hq ↦ backOf_ack (hreq q hq) hu
      · simp [Ne.symm hu]
      · simp [tookIn, forthOf_pubrel hp, hu]
      · exact List.forall_mem_singleton.mpr (by simp [forthOf_pubrel hp, hu])
    subst hu
    have htok : forthOf id packet = some .confirm := by simp [forthOf_pubrel hp]
    have hdue₀ := htook (by simp [tookIn, htok])
    have hnot : ¬ Told id [packet] := by
      have hpublish : packet.publishOf = none := publishOf_eq_none (by simp [partOf_pubrel hp])
      simp [Told, hpublish]
    unfold Responds
    rw [show tookIn id (.receive packet) = some .confirm from htok, filterMap_owes, hdue₀]
    rcases (hreplies.pubrel packet id rfl hp).2 with hr | ⟨q, hr⟩
    · have hr' : requested = [] := hr
      subst hr'
      simp only [List.filterMap_cons, htok, Option.map_some, List.filterMap_nil, List.nil_append]
      exact .closes (by simp) hnot
    · have hr' : requested = [q] := hr
      subst hr'
      have hack := hreq q (List.mem_singleton_self _)
      rw [List.filterMap_cons_some (backOf_finish hack)]
      simp only [List.filterMap_cons, htok, hack, Option.map_some, List.filterMap_nil,
        List.nil_append, dueFor, ackFor, List.filter_cons, List.mem_singleton, not_true_eq_false,
        decide_false, Bool.false_eq_true, if_false, List.filter_nil]
      exact .ends (by simp) hnot
  | @subscriptionAcked packet kind id hack hkind hid =>
    have hpart := partOf_ack hack
    have hforth : forthOf u packet = none := forthOf_of_part (by simp [hpart]) (by simp [hpart])
    refine responds_rest ?_ hforth (List.forall_mem_singleton.mpr hforth) (by simp)
    exact Iff.rfl
  | @closed released hrel => exact (hserves.closed rfl).elim
  | acquired | registered => exact responds_rest Iff.rfl rfl (by simp) (by simp)
  | @released id => exact responds_rest Iff.rfl rfl (by simp) (by simp)
  | restored =>
    refine responds_rest ?_ rfl (by simp) (by simp)
    rw [foldl_restore_frame]
  | restoredHandled => exact (hserves.handled _ rfl).elim
  | offline => exact responds_rest Iff.rfl rfl (by simp) (by simp)

section Step

variable {op : Operation w}

theorem step_replies (hc : c.Reading) :
    (c.step op).Ensures fun r ↦ Replies (c.inputOf op) (report r.2.toEvents) := by
  intro r hr
  constructor
  · intro packet id qos hin hp
    obtain ⟨data, v, rfl, ha⟩ := arrival_of_inputOf hin
    obtain ⟨r', hr', hret⟩ := Outcome.bind_eq_ret.mp hr
    obtain rfl := Outcome.ret.inj hret
    obtain ⟨-, b, hdel⟩ := recv_delivers hc hr' ha
    exact singly_deliver_publish hp _ hdel
  · intro packet id hin hp
    obtain ⟨data, v, rfl, ha⟩ := arrival_of_inputOf hin
    obtain ⟨r', hr', hret⟩ := Outcome.bind_eq_ret.mp hr
    obtain rfl := Outcome.ret.inj hret
    obtain ⟨-, b, hdel⟩ := recv_delivers hc hr' ha
    obtain ⟨hnotified, hsingle⟩ := deliver_pubrel hp _ hdel
    exact ⟨hnotified, hsingle.imp_right fun ⟨q, hq, _⟩ ↦ ⟨q, hq⟩⟩
  · intro packet p hin hack
    obtain rfl := send_of_inputOf hin
    obtain ⟨r', hr', hret⟩ := Outcome.bind_eq_ret.mp
      (show (c.send packet >>= fun r ↦ Outcome.ret (r.1, Reply.events r.2)) = .ret r from hr)
    obtain rfl := Outcome.ret.inj hret
    exact (singly_send_ack hack _ hr').imp_right fun ⟨q, hq, heq⟩ ↦ heq ▸ hq

theorem step_responds (hc : c.Reading) (hserves : c.Serves owed (c.inputOf op))
    (hdue : ∃ place : Place, owed.filterMap (dueOf u) = place.due)
    (htook : tookIn u (c.inputOf op) ≠ none → owed.filterMap (dueOf u) = []) :
    (c.step op).Ensures fun r ↦
      Responds u c.session owed (c.inputOf op) r.1.session (report r.2.toEvents) := by
  intro r hr
  obtain ⟨-, c₀, hprep, hchange⟩ := (step_spec hc op).of_ret hr
  have hserves₀ : c₀.Serves owed (c.inputOf op) := by
    refine ⟨hserves.owed, hserves.reason, fun p hin hq hadm ↦ ?_, hserves.handled, hserves.closed⟩
    rw [hprep.1] at hadm ⊢
    exact hserves.resolves p hin hq hadm
  have h := hchange.responds hserves₀ (step_replies hc r hr) hdue htook
  have hhandled : c₀.session.handled = c.session.handled := by rw [hprep.session]
  unfold Responds at h ⊢
  rwa [hhandled] at h

end Step

end GenericConnection

end MqttProtocolCore.Connection
