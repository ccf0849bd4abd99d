import MqttProtocolCore.Connection.AliasLink
import MqttProtocolCore.Connection.ClientRun

namespace MqttProtocolCore.Connection

open General Packet GenericConnection

namespace AliasLink

variable {w : IdWidth} {link : AliasLink w} {max : U16} {h : AliasHistory} {op : Operation w}
  {c : GenericConnection w} {p : V50.Publish w}

theorem agreed_publish (ha : Agreed max link h) (hno : ¬ link.sender.Misbinds p) :
    (link.step (.sends (.send (.v50Publish p)))).Ensures fun r ↦ Agreed max r.1 h := by
  refine Outcome.Ensures.bind (P := fun r ↦ link.sender.step (.send (.v50Publish p)) = .ret r)
    (fun r hr ↦ hr) fun r hr ↦ Outcome.ensures_ret.mpr ?_
  have hreading := step_reading ha.sender _ r hr
  have hstored := namesTopics_step ha.sender ha.stored (by simp) r hr
  obtain ⟨r', hr', hret⟩ := Outcome.bind_eq_ret.mp hr
  obtain rfl := Outcome.ret.inj hret
  dsimp only [Reply.toEvents] at hreading hstored ⊢
  have hwithin (hmax : r'.1.topicAliasSend.map TopicAliasSend.max =
      link.sender.topicAliasSend.map TopicAliasSend.max) (s : TopicAliasSend)
      (hs : r'.1.topicAliasSend = some s) : s.max ≤ max := by
    rw [hs, Option.map_some] at hmax
    obtain ⟨s₀, hs₀, heq⟩ := Option.map_eq_some_iff.mp hmax.symm
    exact heq ▸ ha.within s₀ hs₀
  cases utters_send hno r' hr' with
  | silent hreq hbound hmax =>
    rw [hreq]
    refine ⟨hreading, ha.receiver, ha.describes, ha.maximum, hwithin hmax, ?_, hstored, ?_, ?_⟩
    · rw [hbound]
      exact ha.names
    · simpa [launch] using ha.legible
    · rw [hbound]
      simpa [launch] using ha.agree
  | @spoken q hreq hspeaks hnamed =>
    obtain ⟨word, m, hword, hmeant, hmeaning, hlearn, hempty⟩ := hspeaks.word
    have hlaunch : launch link.sender (.send (.v50Publish p)) [.v50Publish q] =
        [(.v50Publish q, some m)] := by
      unfold launch
      rw [List.map_singleton, meaning, hmeant]
    rw [hreq, hlaunch]
    refine ⟨hreading, ha.receiver, ha.describes, ha.maximum, hwithin hspeaks.max,
      fun a t ht ↦ (hnamed a t ht).elim (ha.names a t) id, hstored, fun p' m' hmem ↦ ?_, ?_⟩
    · rcases List.mem_append.mp hmem with hmem | hmem
      · exact ha.legible p' m' hmem
      · obtain ⟨hp', rfl⟩ := Prod.mk.inj (List.mem_singleton.mp hmem)
        obtain rfl := GenericPacket.v50Publish.inj hp'
        refine ⟨by rw [hword]; rfl, fun a hal ↦ ?_, fun he ↦ ⟨m, rfl, ha.names _ m (hempty he)⟩⟩
        obtain ⟨s, hs, hle⟩ := hspeaks.range a hal
        exact hle.trans (ha.within s hs)
    · rw [words_append, words_publish hword, hlearn]
      exact ha.agree.say hmeaning

theorem agreed_other (ha : Agreed max link h) (hop : ∀ p, op ≠ .send (.v50Publish p))
    (hproceeds : Proceeds max link (.sends op)) :
    (link.step (.sends op)).Ensures fun r ↦ Agreed max r.1 h := by
  obtain ⟨hclosed, hconnect, hannounces, hrestore⟩ := hproceeds
  refine Outcome.Ensures.bind (P := fun r ↦ link.sender.step op = .ret r)
    (fun r hr ↦ hr) fun r hr ↦ Outcome.ensures_ret.mpr ?_
  have hself := requested_selfNamed ha.sender ha.stored hop r hr
  have hrenews := renewsAliases_step ha.sender hclosed hconnect hop hannounces r hr
  have hbound (a : U16) (t : Utf8String) (ht : r.1.boundTopic a = some t) :
      link.sender.boundTopic a = some t := by
    rcases hrenews with hsame | hfresh
    · rwa [boundTopic_congr hsame] at ht
    · obtain ⟨s, hs, hpeek⟩ := Option.bind_eq_some_iff.mp ht
      simp [(hfresh s hs).2 a] at hpeek
  refine ⟨step_reading ha.sender op r hr, ha.receiver, ha.describes, ha.maximum, fun s hs ↦ ?_,
    fun a t ht ↦ ha.names a t (hbound a t ht), namesTopics_step ha.sender ha.stored hrestore r hr,
    fun p m hmem ↦ ?_, ?_⟩
  · rcases hrenews with hsame | hfresh
    · exact ha.within s (hsame ▸ hs)
    · exact (hfresh s hs).1
  · rcases List.mem_append.mp hmem with hmem | hmem
    · exact ha.legible p m hmem
    · obtain ⟨q, hq, heq⟩ := List.mem_map.mp hmem
      obtain ⟨rfl, -⟩ := Prod.mk.inj heq
      exact legible_selfNamed (hself p hq)
  · exact agree_launch hop hself (ha.agree.forget hbound)

/-- The application of the receiver does anything but begin or end the network connection. -/
theorem agreed_answers (ha : Agreed max link h) (hproceeds : Proceeds max link (.answers op)) :
    (link.step (.answers op)).Ensures fun r ↦ Agreed max r.1 h := by
  obtain ⟨hclosed, hrecv, hsend⟩ := hproceeds
  refine Outcome.Ensures.bind (P := fun r ↦ link.receiver.step op = .ret r)
    (fun r hr ↦ hr) fun r hr ↦ Outcome.ensures_ret.mpr ?_
  have hread : readAliases h ⟨link.receiver, op, r.1, r.2⟩ = h := by
    cases op with
    | send packet =>
      obtain ⟨hconnect, hconnack⟩ := hsend packet rfl
      have hsent : h.sent packet = h := by
        cases packet with
        | v311Connect | v50Connect => exact (hconnect rfl).elim
        | v50Connack => exact (hconnack rfl).elim
        | _ => rfl
      dsimp only [readAliases]
      rw [hsent, ite_self]
    | recv data => exact (hrecv data rfl).elim
    | notifyClosed => exact (hclosed rfl).elim
    | _ => rfl
  have hdescribes : (readAliases h ⟨link.receiver, op, r.1, r.2⟩).Describes r.1.topicAliasRecv :=
    describes_step ha.receiver ha.describes op r hr
  rw [hread] at hdescribes
  exact ⟨ha.sender, step_reading ha.receiver op r hr, hdescribes, ha.maximum, ha.within, ha.names,
    ha.stored, ha.legible, ha.agree⟩

theorem takes_recv {data : Bytes} {v : Version} (hc : c.Reading)
    (hd : h.Describes c.topicAliasRecv) (harr : c.arrival data = some (v, .v50Publish p))
    (hadmits : c.admits p) (hres : c.Resolves p) :
    (c.recv data).Ensures fun r ↦ Takes c h p r.1 := by
  intro r hr
  cases recv_cases hc hr with
  | incomplete hfeed => simp [arrival, hfeed] at harr
  | malformed hfeed => simp [arrival, hfeed] at harr
  | refused hfeed ha => simp [arrival, hfeed, ha] at harr
  | @delivered b raw rest v' packet r hfeed ha _ hdel =>
    obtain ⟨rfl, rfl⟩ := Prod.mk.inj (Option.some.inj
      ((arrival_of_delivered hfeed ha).symm.trans harr))
    have hd' : h.Describes ({ c with packetBuilder := b }.determine v').topicAliasRecv := hd
    obtain ⟨hhanded, hvalid, haliases⟩ := takes_recvV50Publish hd' hadmits hres r hdel
    exact ⟨hhanded, hvalid, haliases⟩

theorem asMeant_delivers {link' : AliasLink w} {data : Bytes} {reply : Reply w}
    (h : ∀ p m rest, link.inFlight = (.v50Publish p, m) :: rest →
      .topicAliasInvalid ∉ errors reply.toEvents ∧
        ∃ q, notified reply.toEvents = [.v50Publish q] ∧ m = some q.topicName.asStr) :
    AsMeant ⟨link, .delivers data, link', reply⟩ where
  delivered _ p m rest _ hflight := h p m rest hflight
  stored _ _ _ hin := by cases hin

theorem agreed_delivers {data : Bytes} (ha : Agreed max link h)
    (hproceeds : Proceeds max link (.delivers data)) (hkeeps : Keeps link (.delivers data)) :
    (link.step (.delivers data)).Ensures fun r ↦ ∃ h', Agreed max r.1 h' ∧
      AsMeant ⟨link, .delivers data, r.1, r.2⟩ := by
  obtain ⟨v, packet, m, rest, hflight, harr, hconnect⟩ := hproceeds
  refine Outcome.Ensures.bind (P := fun r ↦ link.receiver.step (.recv data) = .ret r)
    (fun r hr ↦ hr) fun r hr ↦ Outcome.ensures_ret.mpr ?_
  have hreading := step_reading ha.receiver _ r hr
  obtain ⟨r', hr', hret⟩ := Outcome.bind_eq_ret.mp hr
  obtain rfl := Outcome.ret.inj hret
  have hlegible (p : V50.Publish w) (m : Option Utf8String) (hmem : (.v50Publish p, m) ∈ rest) :
      Legible max p m := ha.legible p m (hflight ▸ List.mem_cons_of_mem _ hmem)
  have htail : link.inFlight.tail = rest := by rw [hflight, List.tail_cons]
  have hagree := ha.agree
  rw [hflight] at hagree
  dsimp only [Reply.toEvents] at hreading ⊢
  rw [htail]
  cases hp : packet.v50PublishOf with
  | none =>
    rw [words_other hp] at hagree
    have hdescribes := describes_recv ha.receiver ha.describes data r' hr'
    rw [harr] at hdescribes
    have hreceived : h.received link.receiver packet = h := by
      cases packet with
      | v311Connect | v50Connect => exact (hconnect rfl).elim
      | v50Publish => cases hp
      | _ => rfl
    dsimp only at hdescribes
    rw [hreceived] at hdescribes
    refine ⟨h, ⟨ha.sender, hreading, hdescribes, ha.maximum, ha.within, ha.names, ha.stored, hlegible,
      hagree⟩, asMeant_delivers fun p m' rest' heq ↦ ?_⟩
    rw [hflight] at heq
    obtain ⟨rfl, -⟩ := Prod.mk.inj (List.cons.inj heq).1
    cases hp
  | some p =>
    obtain rfl := GenericPacket.v50PublishOf_eq_some.mp hp
    obtain ⟨hadmits, hrepeats⟩ := hkeeps v p harr
    obtain ⟨hword, hrange, hname⟩ := ha.legible p m (hflight ▸ List.mem_cons_self)
    obtain ⟨word, hword⟩ := Option.isSome_iff_exists.mp hword
    rw [words_publish hword] at hagree
    obtain ⟨hmeaning, hheard⟩ := hagree.hear
    obtain ⟨htopic, htold, hmax⟩ := topicOf_word (h := h) hword fun a hal ↦
      ha.maximum.symm ▸ hrange a hal
    obtain ⟨t, rfl⟩ : ∃ t, m = some t := by
      by_cases he : p.topicName.isEmpty
      · obtain ⟨t, ht, -⟩ := hname he
        exact ⟨t, ht⟩
      · refine ⟨p.topicName.asStr, ?_⟩
        rw [← hmeaning]
        unfold wordOf at hword
        cases hal : aliasOf p <;> simp only [hal, if_neg he] at hword <;>
          rw [← Option.some.inj hword] <;> rfl
    have hres : link.receiver.Resolves p := by
      refine Describes.resolves ha.describes (htopic.trans hmeaning) fun he ↦ ?_
      obtain ⟨t', ht', hn⟩ := hname he
      exact Option.some.inj ht' ▸ hn
    obtain ⟨hhanded, hvalid, haliases⟩ :=
      takes_recv ha.receiver ha.describes harr hadmits hres r' hr'
    obtain ⟨q, hnamed, hnotified⟩ := hhanded hrepeats
    rw [← htold] at hheard
    refine ⟨h.told p, ⟨ha.sender, hreading, haliases, hmax.trans ha.maximum, ha.within, ha.names,
      ha.stored, hlegible, hheard⟩, asMeant_delivers fun p' m' rest' heq ↦ ?_⟩
    rw [hflight] at heq
    obtain ⟨hp', rfl⟩ := Prod.mk.inj (List.cons.inj heq).1
    obtain rfl := GenericPacket.v50Publish.inj hp'
    exact ⟨hvalid, q, hnotified, hmeaning.symm.trans (htopic.symm.trans hnamed.topic)⟩

theorem asMeant_answers {link' : AliasLink w} {reply : Reply w} :
    AsMeant ⟨link, .answers op, link', reply⟩ where
  delivered _ _ _ _ hin := by cases hin
  stored _ _ _ hin := by cases hin

theorem asMeant_sends (hc : link.sender.Reading) :
    (link.step (.sends op)).Ensures fun r ↦ AsMeant ⟨link, .sends op, r.1, r.2⟩ := by
  refine Outcome.Ensures.bind (P := fun r ↦ link.sender.step op = .ret r)
    (fun r hr ↦ hr) fun r hr ↦ Outcome.ensures_ret.mpr
      ⟨fun _ _ _ _ h ↦ (by cases h), ?_⟩
  intro p e q hin he hnew hq
  obtain rfl := LinkInput.sends.inj hin
  exact stored_meant hc r hr e q he hnew hq

theorem agreed_step {i : LinkInput w} (ha : Agreed max link h) (hproceeds : Proceeds max link i)
    (hkeeps : Keeps link i) : (link.step i).Ensures fun r ↦
      (∃ h', Agreed max r.1 h') ∧ AsMeant ⟨link, i, r.1, r.2⟩ := by
  intro r hr
  cases i with
  | sends op =>
    refine ⟨⟨h, ?_⟩, asMeant_sends ha.sender r hr⟩
    by_cases hop : ∃ p, op = .send (.v50Publish p)
    · obtain ⟨p, rfl⟩ := hop
      exact agreed_publish ha (hkeeps p rfl) r hr
    · exact agreed_other ha (fun p hp ↦ hop ⟨p, hp⟩) hproceeds r hr
  | answers op => exact ⟨⟨h, agreed_answers ha hproceeds r hr⟩, asMeant_answers⟩
  | delivers data =>
    obtain ⟨h', ha', hmeant⟩ := agreed_delivers ha hproceeds hkeeps r hr
    exact ⟨⟨h', ha'⟩, hmeant⟩

/-- In every run of a sender and a receiver on one network connection, every PUBLISH that is
delivered is handed over with the topic that was meant, when none binds its topic to an alias unless
it goes out with both. -/
theorem delivered_as_meant {trace : List (Transition (AliasLink w) (LinkInput w) (Reply w))}
    (hrun : Run (linkSystem max) (fun link i ↦ Proceeds max link i ∧ Keeps link i) trace link) :
    ∀ t ∈ trace, AsMeant t := by
  refine (hrun.transitions (I := fun link ↦ ∃ h, Agreed max link h) ?_ ?_).2
  · exact fun link hs ↦ ⟨_, agreed_starts hs⟩
  · exact fun link i ⟨h, ha⟩ hok ↦ agreed_step ha hok.1 hok.2

theorem proceeds_publish : Proceeds max link (.sends (.send (.v50Publish p))) := by
  refine ⟨fun h ↦ (by cases h), fun packet hp ↦ ?_, fun _ _ _ h ↦ (by cases h),
    fun _ _ h ↦ (by cases h)⟩
  obtain rfl := Operation.send.inj hp
  simp [partOf]

theorem proceeds_connack {data : Bytes} {k : V50.Connack} {v : U16}
    (ha : link.sender.arrival data = some (.v50, .v50Connack k))
    (hk : k.props = [.topicAliasMaximum v]) : Proceeds v link (.sends (.recv data)) := by
  refine ⟨fun h ↦ (by cases h), fun _ h ↦ (by cases h), fun data' v' packet hd ha' ↦ ?_,
    fun _ _ h ↦ (by cases h)⟩
  obtain rfl := Operation.recv.inj hd
  obtain ⟨-, rfl⟩ := Prod.mk.inj (Option.some.inj (ha.symm.trans ha'))
  intro u hu
  rw [hk, List.mem_singleton] at hu
  exact (Property.topicAliasMaximum.inj hu).le

/-- The bytes are those of the next PUBLISH in flight, which has QoS 0. -/
def Arrives (link : AliasLink w) (data : Bytes) : Prop :=
  (link.inFlight.head?.bind fun x ↦ x.1.v50PublishOf).any (fun p ↦ p.qos = .atMostOnce) ∧
    link.receiver.arrival data = link.inFlight.head?.map fun x ↦ (.v50, x.1)

instance (link : AliasLink w) (data : Bytes) : Decidable (link.Arrives data) :=
  inferInstanceAs (Decidable (_ ∧ _))

theorem Arrives.cons {data : Bytes} (h : link.Arrives data) : ∃ p m rest,
    link.inFlight = (.v50Publish p, m) :: rest ∧ p.qos = .atMostOnce ∧
      link.receiver.arrival data = some (.v50, .v50Publish p) := by
  obtain ⟨hpublish, harr⟩ := h
  obtain ⟨p, hp, hqos⟩ := (Option.any_eq_true _ _).mp hpublish
  obtain ⟨⟨packet, m⟩, hhead, hpacket⟩ := Option.bind_eq_some_iff.mp hp
  obtain rfl := GenericPacket.v50PublishOf_eq_some.mp hpacket
  obtain ⟨rest, hflight⟩ := List.head?_eq_some_iff.mp hhead
  rw [hhead] at harr
  exact ⟨p, m, rest, hflight, of_decide_eq_true hqos, harr⟩

theorem proceeds_delivers {data : Bytes} (h : link.Arrives data) :
    Proceeds max link (.delivers data) := by
  obtain ⟨p, m, rest, hflight, -, harr⟩ := h.cons
  exact ⟨.v50, _, m, rest, hflight, harr, nofun⟩

theorem keeps_delivers {data : Bytes} (h : link.Arrives data) : Keeps link (.delivers data) := by
  obtain ⟨p, -, -, -, hqos, harr⟩ := h.cons
  intro v p' harr'
  obtain ⟨-, heq⟩ := Prod.mk.inj (Option.some.inj (harr.symm.trans harr'))
  obtain rfl := GenericPacket.v50Publish.inj heq
  exact ⟨by simp [admits, hqos], fun hrepeats ↦ by cases hqos.symm.trans hrepeats.1⟩

/-- A client that has sent CONNECT, and the server whose CONNACK, with a topic alias maximum of 10,
is on its way to it. -/
def announced (automatic : Bool) : Outcome (AliasLink .u16 × V50.Connack) := do
  let sender ← clientRun .v50 2 0 [0] [.setAutoMapTopicAliasSend automatic] []
  let connack ← (V50.Connack.parse [0, 0, 3, 0x22, 0, 10]).unwrap
  let receiver ← (system .u16).run (new .server .u16 .v50)
    [.recv (0x10 :: 14 :: connectBody .v50 2 0 [0]), .send (.v50Connack connack.1)]
  return (⟨sender.2, receiver.2, []⟩, connack.1)

theorem starts_announced {automatic : Bool} {link : AliasLink .u16} {connack : V50.Connack}
    (h : announced automatic = .ret (link, connack)) : Starts 10 link ∧
      Proceeds 10 link (.sends (.recv [0x20, 6, 0, 0, 3, 0x22, 0, 10])) := by
  obtain ⟨⟨link', connack'⟩, h', haliases, hnone, hentries, hprops, harr⟩ :
      (announced automatic).Attains fun r ↦
      r.1.receiver.topicAliasRecv = some (.new 10) ∧ r.1.sender.topicAliasSend.isNone ∧
      r.1.sender.store.map.entries = [] ∧ r.2.props = [.topicAliasMaximum 10] ∧
      r.1.sender.arrival [0x20, 6, 0, 0, 3, 0x22, 0, 10] = some (.v50, .v50Connack r.2) := by
    clear h
    revert automatic
    decide +kernel
  obtain ⟨rfl, rfl⟩ := Prod.mk.inj (Outcome.ret.inj (h'.symm.trans h))
  obtain ⟨⟨_, sender⟩, hsender, h⟩ := Outcome.bind_eq_ret.mp h
  obtain ⟨_, -, h⟩ := Outcome.bind_eq_ret.mp h
  obtain ⟨⟨_, receiver⟩, hreceiver, h⟩ := Outcome.bind_eq_ret.mp h
  obtain ⟨rfl, -⟩ := Prod.mk.inj (Outcome.ret.inj h)
  have hserver : (system .u16).Init (new .server .u16 .v50) := ⟨.server, .v50, rfl⟩
  refine ⟨⟨(run_of_clientRun hsender).reachable, (Run.of_run hserver hreceiver).reachable, haliases,
    ?_, ?_, rfl⟩, proceeds_connack harr hprops⟩
  · rw [Option.isNone_iff_eq_none.mp hnone]
    exact fresh_none
  · intro e he
    rw [hentries] at he
    cases he

/-- A PUBLISH gives an alias to its topic, and the next one goes out with the alias alone. -/
theorem delivered_as_meant_alias : ∃ (link : AliasLink .u16) (trace : List (Transition _ _ _)),
    Run (linkSystem 10) (fun link i ↦ Proceeds 10 link i ∧ Keeps link i) trace link ∧
      trace.length = 5 ∧ ∀ t ∈ trace, AsMeant t := by
  obtain ⟨⟨link, connack⟩, hlink, p, -, hid, halias, hname, q, -, hempty, ⟨link₁, _⟩, h₁, hstatus,
      ⟨link₂, _⟩, h₂, ⟨link₃, _⟩, h₃, harr, ⟨link₄, _⟩, h₄, harr', ⟨link₅, _⟩, h₅⟩ :
      (announced false).Attains fun r ↦
      (V50.Publish.parse (w := .u16) 0 [0, 1, 0x61, 3, 0x23, 0, 1]).unwrap.Attains fun p ↦
      p.1.packetId = none ∧ aliasOf p.1 ≠ none ∧
        (¬ (p.1.topicName.asStr.containsAscii 0x23 ∨ p.1.topicName.asStr.containsAscii 0x2B) ∧
          p.1.topicName.asStr.len ≤ 65535) ∧
      (V50.Publish.parse (w := .u16) 0 [0, 0, 3, 0x23, 0, 1]).unwrap.Attains fun q ↦
      q.1.topicName.isEmpty ∧
      (r.1.step (.sends (.recv [0x20, 6, 0, 0, 3, 0x22, 0, 10]))).Attains fun r₁ ↦
      r₁.1.sender.status = .connected ∧
      (r₁.1.step (.sends (.send (.v50Publish p.1)))).Attains fun r₂ ↦
      (r₂.1.step (.sends (.send (.v50Publish q.1)))).Attains fun r₃ ↦
      r₃.1.Arrives [0x30, 7, 0, 1, 0x61, 3, 0x23, 0, 1] ∧
      (r₃.1.step (.delivers [0x30, 7, 0, 1, 0x61, 3, 0x23, 0, 1])).Attains fun r₄ ↦
      r₄.1.Arrives [0x30, 6, 0, 0, 3, 0x23, 0, 1] ∧
      (r₄.1.step (.delivers [0x30, 6, 0, 0, 3, 0x23, 0, 1])).Returns := by
    decide +kernel
  have hp : ¬ link₁.sender.Misbinds p.1 := by
    intro h
    rcases h.misses with h | h | h | h
    · exact halias h
    · exact h hstatus
    · simp [hid] at h
    · exact h hname
  have hq : ¬ link₂.sender.Misbinds q.1 := fun h ↦ h.rebinds.1 hempty
  have hkeeps {link : AliasLink .u16} {p : V50.Publish .u16} (h : ¬ link.sender.Misbinds p) :
      Keeps link (.sends (.send (.v50Publish p))) := by
    intro p' hp'
    obtain rfl := GenericPacket.v50Publish.inj (Operation.send.inj hp')
    exact h
  obtain ⟨hstarts, hproceeds⟩ := starts_announced hlink
  have hrun₁ : Run (linkSystem 10) (fun link i ↦ Proceeds 10 link i ∧ Keeps link i) _ link₁ :=
    (Run.init hstarts).step ⟨hproceeds, fun _ h ↦ (by cases h)⟩ h₁
  have hrun₂ := hrun₁.step ⟨proceeds_publish, hkeeps hp⟩ h₂
  have hrun₃ := hrun₂.step ⟨proceeds_publish, hkeeps hq⟩ h₃
  have hrun₄ := hrun₃.step ⟨proceeds_delivers harr, keeps_delivers harr⟩ h₄
  have hrun := hrun₄.step ⟨proceeds_delivers harr', keeps_delivers harr'⟩ h₅
  exact ⟨link₅, _, hrun, rfl, delivered_as_meant hrun⟩

/-- An alias that is bound automatically is not known to the receiver. -/
theorem automatic_alias_unknown : ¬ ∀ (max : U16) trace (link : AliasLink .u16),
    Run (linkSystem max) (fun link i ↦ Proceeds max link i) trace link →
      ∀ t ∈ trace, AsMeant t := by
  intro hall
  obtain ⟨⟨link, connack⟩, hlink, p, -, ⟨link₁, _⟩, h₁, ⟨link₂, _⟩, h₂, harr, ⟨link₃, reply⟩, h₃,
      herr⟩ :
      (announced true).Attains fun r ↦
      (V50.Publish.parse (w := .u16) 0 [0, 1, 0x61, 0]).unwrap.Attains fun p ↦
      (r.1.step (.sends (.recv [0x20, 6, 0, 0, 3, 0x22, 0, 10]))).Attains fun r₁ ↦
      (r₁.1.step (.sends (.send (.v50Publish p.1)))).Attains fun r₂ ↦
      r₂.1.Arrives [0x30, 6, 0, 0, 3, 0x23, 0, 1] ∧
      (r₂.1.step (.delivers [0x30, 6, 0, 0, 3, 0x23, 0, 1])).Attains fun r₃ ↦
        .topicAliasInvalid ∈ errors r₃.2.toEvents := by
    decide +kernel
  obtain ⟨hstarts, hproceeds⟩ := starts_announced hlink
  have hrun₁ : Run (linkSystem 10) (fun link i ↦ Proceeds 10 link i) _ link₁ :=
    (Run.init hstarts).step hproceeds h₁
  have hrun₂ := hrun₁.step proceeds_publish h₂
  have hrun := hrun₂.step (proceeds_delivers harr) h₃
  obtain ⟨p, m, rest, hflight, -⟩ := harr.cons
  have hmeant := hall _ _ _ hrun _ (List.mem_append_right _ List.mem_cons_self)
  exact (hmeant.delivered _ p m rest rfl hflight).1 herr

end AliasLink

end MqttProtocolCore.Connection
