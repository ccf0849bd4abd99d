import MqttProtocolCore.Connection.AliasAgreement

namespace MqttProtocolCore.Connection

open General Packet GenericConnection

variable {w : IdWidth}

/-- A sender and a receiver on one network connection, and the packets on their way from the sender
to the receiver, each with the topic that it was meant with if it is a PUBLISH. -/
structure AliasLink (w : IdWidth) where
  sender : GenericConnection w
  receiver : GenericConnection w
  inFlight : List (GenericPacket w × Option Utf8String)

/-- The application of the sender or of the receiver calls an operation, or the bytes of the packet
that is next arrive. -/
inductive LinkInput (w : IdWidth) where
  | sends (op : Operation w)
  | answers (op : Operation w)
  | delivers (data : Bytes)

def SelfNamed (p : V50.Publish w) : Prop := ¬ p.topicName.isEmpty ∧ aliasOf p = none

def NamesTopics (c : GenericConnection w) : Prop :=
  ∀ e ∈ c.store.map.entries, ∀ p, e.2 = .v50Publish p → SelfNamed p

namespace AliasLink

variable {link : AliasLink w} {max : U16} {h : AliasHistory} {op : Operation w}
  {c c' : GenericConnection w} {p q : V50.Publish w}
  {flight : List (GenericPacket w × Option Utf8String)} {s d : U16 → Option Utf8String}

def meaning (c : GenericConnection w) : Operation w → GenericPacket w → Option Utf8String
  | .send (.v50Publish p), _ => c.meantTopic p
  | _, .v50Publish q => some q.topicName.asStr
  | _, _ => none

def launch (c : GenericConnection w) (op : Operation w) (packets : List (GenericPacket w)) :
    List (GenericPacket w × Option Utf8String) :=
  packets.map fun q ↦ (q, meaning c op q)

def step (link : AliasLink w) : LinkInput w → Outcome (AliasLink w × Reply w)
  | .sends op => do
    let (c, reply) ← link.sender.step op
    return ({ link with
      sender := c
      inFlight := link.inFlight ++ launch link.sender op (requested reply.toEvents) }, reply)
  | .answers op => do
    let (c, reply) ← link.receiver.step op
    return ({ link with receiver := c }, reply)
  | .delivers data => do
    let (c, reply) ← link.receiver.step (.recv data)
    return ({ link with receiver := c, inFlight := link.inFlight.tail }, reply)

structure Starts (max : U16) (link : AliasLink w) : Prop where
  sender : Reachable (system w) link.sender
  receiver : Reachable (system w) link.receiver
  announced : link.receiver.topicAliasRecv = if max = 0 then none else some (.new max)
  unbound : Fresh max link.sender.topicAliasSend
  stored : NamesTopics link.sender
  quiet : link.inFlight = []

def linkSystem (max : U16) : System (AliasLink w) (LinkInput w) (Reply w) := ⟨Starts max, step⟩

/-- The network connection goes on: no side opens or closes it or announces another maximum, and the
receiver gets the packets of the sender in their order. -/
def Proceeds (max : U16) (link : AliasLink w) : LinkInput w → Prop
  | .sends op => op ≠ .notifyClosed ∧ (∀ packet, op = .send packet → partOf packet ≠ .connect) ∧
      (∀ data v packet, op = .recv data → link.sender.arrival data = some (v, packet) →
        AnnouncesWithin max packet) ∧
      ∀ packets p, op = .restorePackets packets → .v50Publish p ∈ packets → SelfNamed p
  | .answers op => op ≠ .notifyClosed ∧ (∀ data, op ≠ .recv data) ∧
      ∀ packet, op = .send packet → partOf packet ≠ .connect ∧ partOf packet ≠ .connack
  | .delivers data => ∃ v packet m rest, link.inFlight = (packet, m) :: rest ∧
      link.receiver.arrival data = some (v, packet) ∧ partOf packet ≠ .connect

/-- No PUBLISH binds its topic amiss, and none is too many for the receiver or repeats one that is
still being handled. -/
def Keeps (link : AliasLink w) : LinkInput w → Prop
  | .sends op => ∀ p, op = .send (.v50Publish p) → ¬ link.sender.Misbinds p
  | .answers _ => True
  | .delivers data => ∀ v p, link.receiver.arrival data = some (v, .v50Publish p) →
      link.receiver.admits p ∧ ¬ link.receiver.Repeats p

/-- A PUBLISH that is delivered is handed over with the topic that was meant, and one that is stored
names the topic that was meant. -/
structure AsMeant (t : Transition (AliasLink w) (LinkInput w) (Reply w)) : Prop where
  delivered : ∀ data p m rest, t.input = .delivers data →
    t.before.inFlight = (.v50Publish p, m) :: rest → .topicAliasInvalid ∉ errors t.output.toEvents ∧
      ∃ q, notified t.output.toEvents = [.v50Publish q] ∧ m = some q.topicName.asStr
  stored : ∀ p e q, t.input = .sends (.send (.v50Publish p)) →
    e ∈ t.after.sender.store.map.entries → e ∉ t.before.sender.store.map.entries →
      e.2 = .v50Publish q → t.before.sender.meantTopic p = some q.topicName.asStr

def words (flight : List (GenericPacket w × Option Utf8String)) :
    List (Word U16 Utf8String × Option Utf8String) :=
  flight.filterMap fun x ↦ (x.1.v50PublishOf.bind wordOf).map (·, x.2)

/-- A PUBLISH on its way is a word, its alias is within the maximum, and a topic that it leaves out
is a topic name. -/
structure Legible (max : U16) (p : V50.Publish w) (m : Option Utf8String) : Prop where
  word : (wordOf p).isSome
  range : ∀ a, aliasOf p = some a → a ≤ max
  name : p.topicName.isEmpty → ∃ t, m = some t ∧ V50.Publish.IsTopicName t

/-- The topics of the sender and of the receiver agree, up to what is on its way. -/
structure Agreed (max : U16) (link : AliasLink w) (h : AliasHistory) : Prop where
  sender : link.sender.Reading
  receiver : link.receiver.Reading
  describes : h.Describes link.receiver.topicAliasRecv
  maximum : h.max = max
  within : ∀ s, link.sender.topicAliasSend = some s → s.max ≤ max
  names : ∀ a t, link.sender.boundTopic a = some t → V50.Publish.IsTopicName t
  stored : NamesTopics link.sender
  legible : ∀ p m, (.v50Publish p, m) ∈ link.inFlight → Legible max p m
  agree : Agree link.sender.boundTopic h.topics (words link.inFlight)

theorem words_append (flight flight' : List (GenericPacket w × Option Utf8String)) :
    words (flight ++ flight') = words flight ++ words flight' := List.filterMap_append

theorem words_publish {word : Word U16 Utf8String} {m : Option Utf8String}
    (hword : wordOf p = some word) (flight : List (GenericPacket w × Option Utf8String)) :
    words ((.v50Publish p, m) :: flight) = (word, m) :: words flight := by
  unfold words
  rw [List.filterMap_cons]
  simp [GenericPacket.v50PublishOf, hword]

theorem words_other {packet : GenericPacket w} {m : Option Utf8String}
    (hp : packet.v50PublishOf = none) (flight : List (GenericPacket w × Option Utf8String)) :
    words ((packet, m) :: flight) = words flight := by
  unfold words
  rw [List.filterMap_cons]
  simp [hp]

theorem wordOf_selfNamed (hp : SelfNamed p) : wordOf p = some (.plain p.topicName.asStr) := by
  unfold wordOf
  rw [hp.2]
  exact if_neg hp.1

theorem legible_selfNamed (hp : SelfNamed p) {m : Option Utf8String} : Legible max p m :=
  ⟨by rw [wordOf_selfNamed hp]; rfl, fun a ha ↦ by simp [hp.2] at ha, fun h ↦ (hp.1 h).elim⟩

theorem meaning_other (hop : ∀ p, op ≠ .send (.v50Publish p)) :
    meaning c op (.v50Publish q) = some q.topicName.asStr := by
  cases op with
  | send packet =>
    cases packet with
    | v50Publish p => exact (hop p rfl).elim
    | _ => rfl
  | _ => rfl

/-- Packets whose PUBLISHes name their topics themselves do not touch the aliases. -/
theorem agree_launch (hop : ∀ p, op ≠ .send (.v50Publish p)) {packets : List (GenericPacket w)}
    (hall : ∀ p, .v50Publish p ∈ packets → SelfNamed p) (ha : Agree s d (words flight)) :
    Agree s d (words (flight ++ launch c op packets)) := by
  induction packets generalizing flight with
  | nil => simpa [launch] using ha
  | cons packet packets ih =>
    have hrest := fun p hp ↦ hall p (List.mem_cons_of_mem _ hp)
    have hcons : flight ++ launch c op (packet :: packets) =
        (flight ++ [(packet, meaning c op packet)]) ++ launch c op packets := by
      simp [launch]
    rw [hcons]
    refine ih hrest ?_
    rw [words_append]
    cases hp : packet.v50PublishOf with
    | none =>
      rw [words_other hp]
      simpa [words] using ha
    | some p =>
      obtain rfl := GenericPacket.v50PublishOf_eq_some.mp hp
      rw [words_publish (wordOf_selfNamed (hall p List.mem_cons_self))]
      rw [meaning_other hop]
      exact ha.say (show Word.meaning s (.plain p.topicName.asStr) = some _ from rfl)

/-- What a connection sends of its own accord comes from the store. -/
theorem requested_selfNamed (hc : c.Reading) (hstored : NamesTopics c)
    (hop : ∀ p, op ≠ .send (.v50Publish p)) : (c.step op).Ensures fun r ↦
      ∀ p, .v50Publish p ∈ requested r.2.toEvents → SelfNamed p := by
  intro r hr p hp
  have horigin := (step_emits hc op r hr).requests _ hp
  generalize hq : GenericPacket.v50Publish p = q at horigin
  cases horigin with
  | @sent packet _ _ hout =>
    subst hq
    have hpart := hout.publish rfl
    have hversion := hout.version
    cases packet with
    | v50Publish p' => exact (hop p' rfl).elim
    | v311Publish => cases hversion
    | _ => cases hpart
  | @stored _ id stored hs =>
    cases stored with
    | v50Publish p' =>
      obtain rfl := GenericPacket.v50Publish.inj hq
      exact hstored _ (IndexMap.get_eq_some.mp hs) p rfl
    | _ => cases hq
  | replied ha | refused ha =>
    subst hq
    exact (ha.publish rfl).elim
  | tooLarge => cases hq
  | pinged _ hping =>
    subst hq
    cases hping
  | expired ha =>
    subst hq
    exact (ha.publish rfl).elim

/-- The PUBLISHes in the store go on naming their topics themselves. -/
theorem namesTopics_step (hc : c.Reading) (hstored : NamesTopics c)
    (hrestore : ∀ packets p, op = .restorePackets packets → .v50Publish p ∈ packets →
      SelfNamed p) : (c.step op).Ensures fun r ↦ NamesTopics r.1 := by
  intro r hr e he p hp
  obtain ⟨added, hadds, kept, hsub, -, hentries⟩ := step_appends hc op r hr
  rw [hentries] at he
  rcases List.mem_append.mp he with he | he
  · exact hstored e (hsub.subset he) p hp
  · have henters := hadds.1 e he
    rw [hp] at henters
    cases henters with
    | sent hprepares =>
      obtain ⟨_, -, hself⟩ := selfContained hprepares
      exact ⟨hself.topic, by simp [aliasOf, hself.noAlias]⟩
    | followed hrel => cases hrel
    | restored hmem => exact hrestore _ p rfl hmem

theorem stored_meant (hc : c.Reading) : (c.step (.send (.v50Publish p))).Ensures fun r ↦
    ∀ e q, e ∈ r.1.store.map.entries → e ∉ c.store.map.entries → e.2 = .v50Publish q →
      c.meantTopic p = some q.topicName.asStr := by
  intro r hr e q he hnew hq
  obtain ⟨added, hadds, kept, hsub, -, hentries⟩ := step_appends hc _ r hr
  rw [hentries] at he
  have hadded := (List.mem_append.mp he).resolve_left fun h ↦ hnew (hsub.subset h)
  have henters := hadds.1 e hadded
  rw [hq] at henters
  cases henters with
  | sent hprepares =>
    obtain ⟨p', hp', hself⟩ := selfContained hprepares
    obtain rfl := GenericPacket.v50Publish.inj hp'
    have hmeant := hself.meant
    unfold meantTopic
    split
    · rename_i he
      rwa [if_pos he] at hmeant
    · rename_i he
      rw [if_neg he] at hmeant
      rw [hmeant]

theorem agreed_starts (hs : Starts max link) : Agreed max link ⟨max, fun _ ↦ none⟩ := by
  have hbound (a : U16) : link.sender.boundTopic a = none := by
    unfold boundTopic
    cases ha : link.sender.topicAliasSend with
    | none => rfl
    | some s => exact (hs.unbound s ha).2 a
  refine ⟨reachable_reading hs.sender, reachable_reading hs.receiver, ?_, rfl,
    fun s h ↦ (hs.unbound s h).1, fun a t h ↦ by simp [hbound a] at h, hs.stored, ?_, ?_⟩
  · rw [hs.announced]
    by_cases h0 : max = 0
    · rw [if_pos h0, h0]
      exact AliasHistory.describes_empty
    · rw [if_neg h0]
      exact AliasHistory.describes_new h0
  · rw [hs.quiet]
    exact fun p m h ↦ by cases h
  · rw [hs.quiet]
    exact agree_nil hbound

end AliasLink

end MqttProtocolCore.Connection
