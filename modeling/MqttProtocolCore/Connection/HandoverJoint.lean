import MqttProtocolCore.Connection.HandoverLink
import MqttProtocolCore.Connection.Residue
import MqttProtocolCore.Connection.RoleSafety

namespace MqttProtocolCore.Connection.HandoverLink

open General Packet GenericConnection

variable {w : IdWidth} {link : HandoverLink w} {v : Version} {u : PacketId w} {op : Operation w}
  {stage : Stage} {place : Place} {rest : List (GenericPacket w)}

/-- The packets in the store go on having the version of the connection and their own identifiers. -/
theorem step_filed {c : GenericConnection w} (hc : Reachable (system w) c)
    (hv : c.protocolVersion = v) (hdet : v ≠ .undetermined) (hfiled : c.session.Filed v)
    (hrestored : ∀ packets, op ≠ .restorePackets packets) :
    (c.step op).Ensures fun r ↦ r.1.protocolVersion = v ∧ r.1.session.Filed v := by
  intro r hr
  have hversion : r.1.protocolVersion = v := by
    rcases step_version (reachable_reading hc) op r hr with h | h
    · exact h.trans hv
    · exact (hdet (hv.symm.trans h)).elim
  refine ⟨hversion, fun id stored hs ↦ ⟨?_, ?_⟩⟩
  · exact r.1.store.keyed _ (IndexMap.get_eq_some.mp hs)
  · have hproper : StoreProper [] c := fun id stored hs ↦
      .inl ((hfiled id stored hs).2.trans hv.symm)
    rcases step_storeProper (reachable_reading hc) (reachable_unlimited hc) hproper hr
      id stored hs with h | ⟨t, ht, packets, hin, -⟩
    · exact h.trans hversion
    · obtain rfl := List.mem_singleton.mp ht
      exact (hrestored packets hin).elim

theorem Paired.place_eq {stage' : Stage} {place' : Place} (h : link.Paired u stage place)
    (h' : link.Paired u stage' place') : place = place' :=
  Place.eq_of_tokens (h.forth.symm.trans h'.forth) (h.back.symm.trans h'.back)
    (h.due.symm.trans h'.due)

def Undeclined (link : HandoverLink w) : Prop :=
  ∀ u stage place, link.Paired u stage place → place ≠ .decline

def Prompted (link : HandoverLink w) : Prop :=
  ∀ u stage place, link.Paired u stage place → Prompt place (u ∈ link.receiver.session.handled)

def Reads (link : HandoverLink w) (op : Operation w) (rest : List (GenericPacket w)) : Prop :=
  ∀ u, link.toSender.filterMap (backOf u) =
    (backIn u (link.sender.inputOf op)).toList ++ rest.filterMap (backOf u)

structure Follows (link link' : HandoverLink w) (op : Operation w) (events : List (GenericEvent w)) :
    Prop where
  released : link.sender.Resendable op → ∀ u ∈ released events, u ∈ link.underWay → u ∈ link.heard
  accepted : ∀ u, backIn u (link.sender.inputOf op) = some .accept →
    (∀ packet, link.sender.inputOf op = .receive packet → link.sender.FollowsUp packet u) →
      u ∈ link.receiver.session.handled ∧ link'.sender.pidMan.isUsedId u ∧
        link'.toReceiver.filterMap (forthOf u) = [.confirm]
  declined : ∀ u, backIn u (link.sender.inputOf op) = some .decline →
    u ∉ link.receiver.session.handled ∧ ¬ link'.sender.pidMan.isUsedId u

def Breaks (link : HandoverLink w) (op : Operation w) (events : List (GenericEvent w)) : Prop :=
  Renews link.sender (report events) (link.sender.inputOf op) ∨ ¬ link.sender.Resendable op

theorem Paired.back_of_reads (hp : link.Paired u stage place) (hread : link.Reads op rest) {t : Back}
    (ht : backIn u (link.sender.inputOf op) = some t) :
    place.back = [t] ∧ rest.filterMap (backOf u) = [] := by
  have hall := hread u
  rw [hp.back, ht] at hall
  have hrest : rest.filterMap (backOf u) = [] := Place.back_cons hall
  rw [hrest] at hall
  exact ⟨hall, hrest⟩

theorem paired_moved (hj : link.Joint v) (hc : link.Conducts op) (hread : link.Reads op rest)
    (u : PacketId w) : (link.sender.step op).Ensures fun r ↦ ∃ stage place stage' place',
      link.Paired u stage place ∧
      (link.moved op r.1 r.2.toEvents rest).Paired u stage' place' ∧
      SenderAt (∀ packet, link.sender.inputOf op = .receive packet → link.sender.FollowsUp packet u)
        (link.Breaks op r.2.toEvents) stage place
        (u ∈ link.receiver.session.handled) (u ∈ link.heard) (backIn u (link.sender.inputOf op))
        stage' ((requested r.2.toEvents).filterMap (forthOf u)) place' ∧
      link.sender.Sends
        (∀ packet, link.sender.inputOf op = .receive packet → link.sender.FollowsUp packet u)
        (link.Breaks op r.2.toEvents) u stage
        (link.sender.inputOf op) r.1.session (report r.2.toEvents) stage' := by
  intro r hr
  obtain ⟨stage, place, hp⟩ := hj.paired u
  have hback (t : Back) (ht : t ∈ backIn u (link.sender.inputOf op)) : place.back = [t] ∧
      rest.filterMap (backOf u) = [] := hp.back_of_reads hread ht
  have hstage (t : Back) (ht : t ∈ backIn u (link.sender.inputOf op)) :
      stage = if t = .finish then .confirming else .offering := by
    obtain ⟨hplace, -⟩ := hback t ht
    cases t with
    | accept => exact (hp.phase.of_accept hplace).1
    | decline => exact (hp.phase.of_decline hplace).1
    | finish => exact (hp.phase.of_finish hplace).1
  obtain ⟨stage', hs⟩ := step_sends (reachable_reading hj.sender) hj.version hj.determined hj.filed
    hp.at' (spares_of_conducts hc hp.under) hstage r hr
  have hquiet : backIn u (link.sender.inputOf op) = none →
      (requested r.2.toEvents).filterMap (forthOf u) ≠ [] → place = .nowhere := by
    intro hnone hsent
    by_cases hidle : stage = .idle
    · subst hidle
      cases hp.phase with
      | idle => rfl
    · have hgreets := hs.greets hnone hsent hidle
      have hopened : link.opened = false := by
        by_contra h
        exact hc.opened (by simpa using h) (greetingIn_of_greets hgreets).1
      obtain ⟨hforth, hback', hdue⟩ := hj.quiet hopened u
      exact Place.eq_nowhere (hp.forth ▸ hforth) (hp.back ▸ hback') (hp.due ▸ hdue)
  have hrenews : link.Breaks op r.2.toEvents →
      place = .nowhere ∧ u ∉ link.receiver.session.handled := by
    intro hbreaks
    have hbegun : link.begun = false := by
      by_contra h
      have h' : link.begun := by simpa using h
      exact hbreaks.elim (fun hren ↦ hc.renewed h' (renewalIn_of_renews hren))
        (fun hno ↦ hno (hc.fits h'))
    obtain ⟨hopened, hnot⟩ := hj.begun hbegun
    obtain ⟨hforth, hback', hdue⟩ := hj.quiet hopened u
    exact ⟨Place.eq_nowhere (hp.forth ▸ hforth) (hp.back ▸ hback') (hp.due ▸ hdue), hnot u⟩
  obtain ⟨place', hat⟩ := hp.phase.sender hs.move (fun t ht ↦ (hback t ht).1) hquiet hrenews
  refine ⟨stage, place, stage', place', hp, ?_, hat, hs⟩
  have hused (hne : stage ≠ .idle) : r.1.pidMan.isUsedId u ↔ stage' ≠ .idle :=
    ⟨fun hmem hidle ↦ hs.freed hne hidle hmem, fun hne' ↦ hs.at'.used hne'⟩
  refine ⟨hs.at', ?_, ?_, ?_, ?_, ?_⟩
  · change (link.toReceiver ++ requested r.2.toEvents).filterMap (forthOf u) = place'.forth
    rw [List.filterMap_append, hp.forth]
    exact hat.forth.symm
  · change rest.filterMap (backOf u) = place'.back
    rw [hat.back]
    cases hgot : backIn u (link.sender.inputOf op) with
    | none =>
      have hall := hread u
      rw [hp.back, hgot] at hall
      exact hall.symm
    | some t => exact (hback t hgot).2
  · exact hp.due.trans hat.due.symm
  · have hheard : u ∈ link.heard.filter r.1.pidMan.isUsedId ↔ u ∈ link.heard ∧ stage' ≠ .idle := by
      rw [List.mem_filter]
      exact and_congr_right fun hh ↦ hused (hp.phase.of_heard hh)
    change Phase stage' place' (u ∈ link.receiver.session.handled)
      (u ∈ link.heard.filter r.1.pidMan.isUsedId)
    rw [hheard]
    exact hat.phase
  · change u ∈ (_ ++ link.underWay).filter r.1.pidMan.isUsedId ↔ stage' ≠ .idle
    rw [List.mem_filter, List.mem_append, Option.mem_toList]
    by_cases hne : stage = .idle
    · have hnot : u ∉ link.underWay := fun hmem ↦ hp.under.mp hmem hne
      have hbegan := (hs.began hne).trans embarks_iff
      constructor
      · intro ⟨hmem, _⟩
        exact hbegan.mpr (hmem.resolve_right hnot)
      · intro hne'
        exact ⟨.inl (hbegan.mp hne'), hs.at'.used hne'⟩
    · have hmem := hp.under.mpr hne
      rw [hused hne]
      exact ⟨And.right, fun hne' ↦ ⟨.inr hmem, hne'⟩⟩

theorem undeclined_moved (hj : link.Joint v) (hc : link.Conducts op) (hread : link.Reads op rest)
    (hno : link.Undeclined) : (link.sender.step op).Ensures fun r ↦
      (link.moved op r.1 r.2.toEvents rest).Undeclined := by
  intro r hr u stage₂ place₂ hp₂ heq
  obtain ⟨stage, place, stage', place', hp, hp', hat, -⟩ := paired_moved hj hc hread u r hr
  obtain rfl := (hp'.place_eq hp₂).trans heq
  exact hno u stage place hp hat.declined

theorem prompted_moved (hj : link.Joint v) (hc : link.Conducts op) (hread : link.Reads op rest)
    (hprompt : link.Prompted) (hfollows : ∀ u packet, link.sender.inputOf op = .receive packet →
      backOf u packet = some .accept → link.sender.FollowsUp packet u) :
    (link.sender.step op).Ensures fun r ↦ (link.moved op r.1 r.2.toEvents rest).Prompted := by
  intro r hr u stage₂ place₂ hp₂
  obtain ⟨stage, place, stage', place', hp, hp', hat, -⟩ := paired_moved hj hc hread u r hr
  obtain rfl := hp'.place_eq hp₂
  refine hat.prompt (fun hgot packet hin ↦ hfollows u packet hin ?_) (hprompt u stage place hp)
  rw [hin] at hgot
  exact hgot

theorem step_greeted {c : GenericConnection w} (hc : c.Reading) : (c.step op).Ensures fun r ↦
    r.1.status = .connected → c.status = .connected ∨ Greets (c.inputOf op) (report r.2.toEvents) := by
  intro r hr hs
  obtain ⟨-, c₀, hprep, hchange⟩ := (step_spec hc op).of_ret hr
  have hstatus : c₀.status = c.status := by rw [hprep.1]
  rcases hchange.status_cases hs with h | ⟨⟨packet, present, hp, hin⟩, he, -⟩
  · exact .inl (hstatus ▸ h)
  · exact .inr ⟨⟨packet, present, hin, hp⟩, he⟩

theorem renews_congr {c c' : GenericConnection w} {rep : Report w} {input : Input w}
    (hs : c.status = c'.status) (h : Renews c rep input) : Renews c' rep input := by
  cases h with
  | cleanSent hp hst hr => exact .cleanSent hp (hs ▸ hst) hr
  | cleanReceived hp hst hr => exact .cleanReceived hp (hs ▸ hst) hr
  | sessionDenied hp hr => exact .sessionDenied hp hr

theorem step_released {c : GenericConnection w} (hc : c.Reading) : (c.step op).Ensures fun r ↦
    ∀ u ∈ released r.2.toEvents, u ∉ r.1.session.used ∧
      ¬ Renews c (report r.2.toEvents) (c.inputOf op) := by
  intro r hr u hu
  obtain ⟨-, c₀, hprep, hchange⟩ := (step_spec hc op).of_ret hr
  have hstatus : c.status = c₀.status := by rw [hprep.1]
  refine ⟨hchange.released_unused hu, fun hren ↦ ?_⟩
  have hnone : released r.2.toEvents = [] := hchange.released_renewed (renews_congr hstatus hren)
  rw [hnone] at hu
  cases hu

theorem opened_of_greets {c : GenericConnection w} {events : List (GenericEvent w)}
    (h : Greets (link.sender.inputOf op) (report events)) : (link.moved op c events rest).opened := by
  obtain ⟨hin, he⟩ := greetingIn_of_greets h
  have he' : errors events = [] := he
  simp [moved, hin, he']

theorem joint_moved (hj : link.Joint v) (hc : link.Conducts op) (hread : link.Reads op rest) :
    (link.sender.step op).Ensures fun r ↦ (link.moved op r.1 r.2.toEvents rest).Joint v ∧
      link.Follows (link.moved op r.1 r.2.toEvents rest) op r.2.toEvents := by
  intro r hr
  obtain ⟨hversion, hfiled⟩ := step_filed hj.sender hj.version hj.determined hj.filed hc.restored r hr
  have hpaired := fun u ↦ paired_moved hj hc hread u r hr
  have hshut (h : (link.moved op r.1 r.2.toEvents rest).opened = false) : link.opened = false ∧
      ¬ Greets (link.sender.inputOf op) (report r.2.toEvents) := by
    constructor
    · by_contra hopened
      simp [moved, hopened] at h
    · intro hgreets
      rw [opened_of_greets hgreets] at h
      cases h
  refine ⟨⟨hj.sender.step hr, hj.receiver, hversion, hj.determined, hfiled, fun hopened hstatus ↦ ?_,
    fun hopened u ↦ ?_, fun hbegun ↦ ?_, fun u ↦ ?_⟩, ?_⟩
  · obtain ⟨hold, hgreets⟩ := hshut hopened
    exact (step_greeted (reachable_reading hj.sender) r hr hstatus).elim (hj.closed hold) hgreets
  · obtain ⟨hold, hgreets⟩ := hshut hopened
    obtain ⟨hforth, hback, hdue⟩ := hj.quiet hold u
    obtain ⟨stage, place, stage', place', -, -, -, hs⟩ := hpaired u
    refine ⟨?_, ?_, hdue⟩
    · change (link.toReceiver ++ requested r.2.toEvents).filterMap (forthOf u) = []
      rw [List.filterMap_append, hforth, List.nil_append]
      by_contra hsent
      exact (hs.sent hsent).elim (hj.closed hold) hgreets
    · have hall := hread u
      rw [hback] at hall
      exact (List.append_eq_nil_iff.mp hall.symm).2
  · have hboth : link.begun = false ∧ (link.moved op r.1 r.2.toEvents rest).opened = false :=
      Bool.or_eq_false_iff.mp hbegun
    exact ⟨hboth.2, (hj.begun hboth.1).2⟩
  · obtain ⟨stage, place, stage', place', -, hp, -⟩ := hpaired u
    exact ⟨stage', place', hp⟩
  · refine ⟨fun hfits u hu hmem ↦ ?_, fun u hgot hfollows ↦ ?_, fun u hgot ↦ ?_⟩
    · obtain ⟨stage, place, stage', place', hp, -, hat, hs⟩ := hpaired u
      obtain ⟨hfree, hren⟩ := step_released (reachable_reading hj.sender) r hr u hu
      refine hat.ended (hp.under.mp hmem) ?_ fun hbreaks ↦ hbreaks.elim hren fun hno ↦ hno hfits
      by_contra hne
      exact hfree (hs.at'.used hne)
    · obtain ⟨stage, place, stage', place', hp, hp', hat, hs⟩ := hpaired u
      obtain ⟨rfl, rfl, hhandled, -⟩ := hp.phase.of_accept (hp.back_of_reads hread hgot).1
      have hmove := hs.move
      rw [hgot] at hmove
      obtain ⟨rfl, hsent⟩ := hmove.of_accept hfollows
      refine ⟨hhandled, hs.at'.used nofun, hp'.forth.trans ?_⟩
      rw [hat.forth, show (requested r.2.toEvents).filterMap (forthOf u) = [.confirm] from hsent]
      rfl
    · obtain ⟨stage, place, stage', place', hp, hp', hat, hs⟩ := hpaired u
      obtain ⟨rfl, rfl, hhandled, -⟩ := hp.phase.of_decline (hp.back_of_reads hread hgot).1
      have hmove := hs.move
      rw [hgot] at hmove
      exact ⟨hhandled, hs.freed nofun hmove.of_decline⟩

def Takes (link : HandoverLink w) (op : Operation w) (rest : List (GenericPacket w)) : Prop :=
  ∀ u, link.toReceiver.filterMap (forthOf u) =
    (tookIn u (link.receiver.inputOf op)).toList ++ rest.filterMap (forthOf u)

structure Hears (link link' : HandoverLink w) (op : Operation w) (events : List (GenericEvent w)) :
    Prop where
  once : ∀ u, Told u (notified events) → u ∈ link.underWay ∧ u ∉ link.heard
  known : ∀ u, tookIn u (link.receiver.inputOf op) = some .offer →
    u ∈ link.receiver.session.handled → u ∈ link.heard
  confirmed : ∀ u, tookIn u (link.receiver.inputOf op) = some .confirm →
    u ∉ link'.receiver.session.handled

theorem mem_served {events : List (GenericEvent w)} : u ∈ (notified events).filterMap messageOf ++
    link.heard ↔ u ∈ link.heard ∨ Told u (notified events) := by
  rw [List.mem_append, or_comm]
  refine or_congr_right ?_
  rw [List.mem_filterMap]
  simp only [messageOf_eq_some]
  exact Iff.rfl

theorem paired_served (hj : link.Joint v)
    (hserves : link.receiver.Serves link.owed (link.receiver.inputOf op))
    (htakes : link.Takes op rest) (u : PacketId w) : (link.receiver.step op).Ensures fun r ↦
      ∃ stage place place', link.Paired u stage place ∧
        (link.served r.1 r.2.toEvents rest).Paired u stage place' ∧
        ReceiverMove (Decides (link.receiver.inputOf op)) (u ∈ link.receiver.session.handled) place.due
          (tookIn u (link.receiver.inputOf op)) (u ∈ r.1.session.handled)
          (Told u (notified r.2.toEvents)) ((requested r.2.toEvents).filterMap (backOf u)) place'.due ∧
        ReceiverAt stage place (u ∈ link.receiver.session.handled) (u ∈ link.heard)
          (tookIn u (link.receiver.inputOf op)) (u ∈ r.1.session.handled)
          (Told u (notified r.2.toEvents)) ((requested r.2.toEvents).filterMap (backOf u))
          place'.due place' := by
  intro r hr
  obtain ⟨stage, place, hp⟩ := hj.paired u
  have htook (t : Forth) (ht : t ∈ tookIn u (link.receiver.inputOf op)) : place.forth = [t] ∧
      rest.filterMap (forthOf u) = [] := by
    have hall := htakes u
    rw [hp.forth, ht] at hall
    have hrest : rest.filterMap (forthOf u) = [] := Place.forth_cons hall
    rw [hrest] at hall
    exact ⟨hall, hrest⟩
  have hmove := step_responds hj.receiver hserves ⟨place, hp.due⟩ (fun hne ↦ by
    obtain ⟨t, ht⟩ := Option.ne_none_iff_exists'.mp hne
    rw [hp.due]
    exact Place.due_eq_nil (htook t ht).1) r hr
  unfold Responds at hmove
  rw [hp.due] at hmove
  obtain ⟨place', hat⟩ := hp.phase.receiver hmove fun t ht ↦ (htook t ht).1
  have hdue := hat.due
  rw [← hdue] at hmove hat
  refine ⟨stage, place, place', hp, ⟨hp.at', ?_, ?_, hdue.symm, ?_, hp.under⟩, hmove, hat⟩
  · change rest.filterMap (forthOf u) = place'.forth
    rw [hat.forth]
    cases hgot : tookIn u (link.receiver.inputOf op) with
    | none =>
      have hall := htakes u
      rw [hp.forth, hgot] at hall
      exact hall.symm
    | some t => exact (htook t hgot).2
  · change (link.toSender ++ requested r.2.toEvents).filterMap (backOf u) = place'.back
    rw [List.filterMap_append, hp.back]
    exact hat.back.symm
  · change Phase stage place' (u ∈ r.1.session.handled)
      (u ∈ (notified r.2.toEvents).filterMap messageOf ++ link.heard)
    rw [mem_served]
    exact hat.phase

theorem undeclined_served (hj : link.Joint v)
    (hserves : link.receiver.Serves link.owed (link.receiver.inputOf op))
    (htakes : link.Takes op rest) (hno : link.Undeclined)
    (hanswers : ¬ Decides (link.receiver.inputOf op)) : (link.receiver.step op).Ensures fun r ↦
      (link.served r.1 r.2.toEvents rest).Undeclined := by
  intro r hr u stage₂ place₂ hp₂ heq
  obtain ⟨stage, place, place', hp, hp', hmove, hat⟩ := paired_served hj hserves htakes u r hr
  obtain rfl := (hp'.place_eq hp₂).trans heq
  exact hno u stage place hp ((hat.declined hmove).resolve_left hanswers)

theorem prompted_served (hj : link.Joint v)
    (hserves : link.receiver.Serves link.owed (link.receiver.inputOf op))
    (htakes : link.Takes op rest) (hprompt : link.Prompted) :
    (link.receiver.step op).Ensures fun r ↦ (link.served r.1 r.2.toEvents rest).Prompted := by
  intro r hr u stage₂ place₂ hp₂
  obtain ⟨stage, place, place', hp, hp', -, hat⟩ := paired_served hj hserves htakes u r hr
  obtain rfl := hp'.place_eq hp₂
  exact hat.prompt (hprompt u stage place hp)

theorem joint_served (hj : link.Joint v)
    (hserves : link.receiver.Serves link.owed (link.receiver.inputOf op))
    (htakes : link.Takes op rest) : (link.receiver.step op).Ensures fun r ↦
      (link.served r.1 r.2.toEvents rest).Joint v ∧
        link.Hears (link.served r.1 r.2.toEvents rest) op r.2.toEvents := by
  intro r hr
  have hpaired := fun u ↦ paired_served hj hserves htakes u r hr
  have hrest (h : link.opened = false) (u : PacketId w) : rest.filterMap (forthOf u) = [] ∧
      (requested r.2.toEvents).filterMap (backOf u) = [] ∧
      (owes link.owed (requested r.2.toEvents) (notified r.2.toEvents)).filterMap (dueOf u) = [] ∧
      (u ∈ r.1.session.handled ↔ u ∈ link.receiver.session.handled) := by
    obtain ⟨hforth, hback, hdue⟩ := hj.quiet h u
    obtain ⟨stage, place, place', hp, hp', hmove, -⟩ := hpaired u
    have hall := htakes u
    rw [hforth] at hall
    obtain ⟨htook, hnone⟩ := List.append_eq_nil_iff.mp hall.symm
    rw [Option.toList_eq_nil_iff.mp htook, ← hp.due, hdue] at hmove
    obtain ⟨hreply, hdue', hsame⟩ := hmove.of_quiet
    exact ⟨hnone, hreply, hp'.due.trans hdue', hsame⟩
  refine ⟨⟨hj.sender, step_reading hj.receiver op r hr, hj.version, hj.determined, hj.filed, hj.closed,
    fun hopened u ↦ ?_, fun hbegun ↦ ?_, fun u ↦ ?_⟩, ?_⟩
  · obtain ⟨hforth, hback, hdue, -⟩ := hrest hopened u
    refine ⟨hforth, ?_, hdue⟩
    change (link.toSender ++ requested r.2.toEvents).filterMap (backOf u) = []
    rw [List.filterMap_append, (hj.quiet hopened u).2.1, hback]
    rfl
  · obtain ⟨hopened, hnot⟩ := hj.begun hbegun
    exact ⟨hopened, fun u ↦ (hrest hopened u).2.2.2.not.mpr (hnot u)⟩
  · obtain ⟨stage, place, place', -, hp, -⟩ := hpaired u
    exact ⟨stage, place', hp⟩
  · refine ⟨fun u htold ↦ ?_, fun u htook hh ↦ ?_, fun u htook ↦ ?_⟩
    · obtain ⟨stage, place, place', hp, -, -, hat⟩ := hpaired u
      obtain ⟨hne, hnot⟩ := hat.once htold
      exact ⟨hp.under.mpr hne, hnot⟩
    · obtain ⟨stage, place, place', -, -, -, hat⟩ := hpaired u
      exact hat.known htook hh
    · obtain ⟨stage, place, place', -, -, hmove, -⟩ := hpaired u
      rw [htook] at hmove
      exact hmove.of_confirm

/-- Both sides keep what they have when the network connection is lost. -/
structure Survives (link : HandoverLink w) : Prop where
  sender : link.underWay ≠ [] → link.sender.needStore
  receiver : ∀ u ∈ link.receiver.session.handled, link.receiver.needStore

theorem step_closed {c : GenericConnection w} {r : GenericConnection w × Reply w}
    (h : c.step .notifyClosed = .ret r) : r.1.session = c.session.closed ∧
      r.1.protocolVersion = c.protocolVersion ∧ r.1.status = .disconnected ∧
      notified r.2.toEvents = [] ∧ ∀ id ∈ released r.2.toEvents, id ∉ r.1.session.used := by
  obtain ⟨r', hr', hret⟩ := Outcome.bind_eq_ret.mp
    (show (c.notifyClosed >>= fun r ↦ Outcome.ret (r.1, Reply.events r.2)) = .ret r from h)
  cases hret
  obtain ⟨-, hs, rel, hrep, hrel⟩ := notifyClosed_spec.of_ret hr'
  refine ⟨hs, ?_, (notifyClosed_timers r' hr').1, congrArg Report.notified hrep,
    fun id hid hused ↦ ?_⟩
  · change r'.1.protocolVersion = c.protocolVersion
    rw [notifyClosed_frame r' hr']
    rfl
  · have hused' : id ∈ r'.1.session.used := hused
    rw [hs] at hused'
    obtain rfl : released r'.2 = rel := congrArg Report.released hrep
    exact hused'.2 ((hrel id).mp hid).1

/-- What the loss of the network connection says about the messages under way. -/
theorem joint_cut (hj : link.Joint v) (hno : link.Undeclined) (hs : link.Survives)
    {r r' : GenericConnection w × Reply w} (hr : link.sender.step .notifyClosed = .ret r)
    (hr' : link.receiver.step .notifyClosed = .ret r') :
    (link.cut r.1 r'.1).Joint v ∧ (∀ u ∈ released r.2.toEvents, u ∉ link.underWay) ∧
      notified r'.2.toEvents = [] := by
  obtain ⟨hsession, hversion, hstatus, -, hreleased⟩ := step_closed hr
  obtain ⟨hsession', -, -, hnotified, -⟩ := step_closed hr'
  have hstored : r.1.session.stored = link.sender.session.stored := by rw [hsession]; rfl
  have hhandled : r'.1.session.handled = link.receiver.session.handled := by
    rw [hsession']
    change (if link.receiver.needStore then link.receiver.session.handled else ∅) = _
    split
    · rfl
    · rename_i hno
      exact (Set.eq_empty_of_forall_notMem fun u hu ↦ hno (hs.receiver u hu)).symm
  have hpaired (u : PacketId w) : ∃ stage place, link.Paired u stage place ∧
      (link.cut r.1 r'.1).Paired u stage .nowhere := by
    obtain ⟨stage, place, hp⟩ := hj.paired u
    have hat : r.1.session.At u stage := by
      rw [hsession]
      exact hp.at'.closed fun hne ↦ hs.sender (List.ne_nil_of_mem (hp.under.mpr hne))
    have hkept {ids : List (PacketId w)} (hne : u ∈ ids → stage ≠ .idle) :
        u ∈ ids.filter r.1.pidMan.isUsedId ↔ u ∈ ids := by
      rw [List.mem_filter]
      exact and_iff_left_of_imp fun hu ↦ hat.used (hne hu)
    refine ⟨stage, place, hp, hat, rfl, rfl, rfl, ?_, (hkept hp.under.mp).trans hp.under⟩
    change Phase stage .nowhere (u ∈ r'.1.session.handled)
      (u ∈ link.heard.filter r.1.pidMan.isUsedId)
    rw [hhandled, hkept hp.phase.of_heard]
    exact hp.phase.lost (hno u stage place hp)
  have hsender : Reachable (system w) r.1 :=
    hj.sender.step (show (system w).step link.sender .notifyClosed = .ret (r.1, r.2) from hr)
  refine ⟨⟨hsender, step_reading hj.receiver _ r' hr', hversion.trans hj.version,
    hj.determined, fun id stored hget ↦ hj.filed id stored (hstored ▸ hget), fun _ ↦ ?_,
    fun _ u ↦ ⟨rfl, rfl, rfl⟩, fun hbegun ↦ ⟨rfl, fun u ↦ ?_⟩, fun u ↦ ?_⟩, fun u hu hmem ↦ ?_, hnotified⟩
  · change r.1.status ≠ .connected
    rw [hstatus]
    exact nofun
  · change u ∉ r'.1.session.handled
    rw [hhandled]
    exact (hj.begun hbegun).2 u
  · obtain ⟨stage, place, -, hp⟩ := hpaired u
    exact ⟨stage, .nowhere, hp⟩
  · obtain ⟨stage, place, hp, hp'⟩ := hpaired u
    exact hreleased u hu (hp'.at'.used (hp.under.mp hmem))

end MqttProtocolCore.Connection.HandoverLink
