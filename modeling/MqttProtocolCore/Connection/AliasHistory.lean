import MqttProtocolCore.Connection.RecvPublishSpec

namespace MqttProtocolCore.Connection

open General Packet

variable {w : IdWidth}

/-- The topic alias maximum that this side has announced, and the topics that the peer has given to
its aliases since then. -/
structure AliasHistory where
  max : U16
  topics : U16 → Option Utf8String

namespace AliasHistory

def empty : AliasHistory := ⟨0, fun _ ↦ none⟩

def announce (h : AliasHistory) : Property → AliasHistory
  | .topicAliasMaximum v => if v ≠ 0 then ⟨v, fun _ ↦ none⟩ else h
  | _ => h

def sent (h : AliasHistory) : GenericPacket w → AliasHistory
  | .v311Connect _ => empty
  | .v50Connect p => p.props.foldl announce empty
  | .v50Connack p => if p.reasonCode = .success then p.props.foldl announce h else h
  | _ => h

def told (h : AliasHistory) (p : V50.Publish w) : AliasHistory :=
  match V50.topicAliasOf p.props with
  | none => h
  | some a =>
    if p.topicName.isEmpty ∨ h.max < a then h
    else { h with topics := Function.update h.topics a (some p.topicName.asStr) }

def received (h : AliasHistory) (c : GenericConnection w) : GenericPacket w → AliasHistory
  | .v311Connect _ | .v50Connect _ => if c.status = .disconnected then empty else h
  | .v50Publish p => if c.admits p then h.told p else h
  | _ => h

def topicOf (h : AliasHistory) (p : V50.Publish w) : Option Utf8String :=
  match V50.topicAliasOf p.props with
  | none => if p.topicName.isEmpty then none else some p.topicName.asStr
  | some a =>
    if h.max < a then none
    else if p.topicName.isEmpty then h.topics a else some p.topicName.asStr

/-- The aliases of the receiver are those of the history, and each stands for a topic. -/
structure Describes (h : AliasHistory) (aliases : Option TopicAliasRecv) : Prop where
  max : aliases.map TopicAliasRecv.max = if h.max = 0 then none else some h.max
  topics : ∀ a, (aliases.bind fun r ↦ r.get a) = h.topics a
  named : ∀ a topic, h.topics a = some topic → ¬ topic.isEmpty

variable {h : AliasHistory} {aliases : Option TopicAliasRecv} {prop : Property}

theorem describes_empty : empty.Describes none := ⟨rfl, fun _ ↦ rfl, fun _ _ h ↦ by cases h⟩

theorem describes_new {v : U16} (hv : v ≠ 0) :
    Describes ⟨v, fun _ ↦ none⟩ (some (TopicAliasRecv.new v)) := by
  refine ⟨?_, fun a ↦ ?_, fun _ _ h ↦ by cases h⟩
  · rw [if_neg hv]
    rfl
  · exact TopicAliasRecv.get_new

theorem Describes.valid {c : GenericConnection w} (hd : h.Describes c.topicAliasRecv)
    (a : NonZero 65535) : c.validRecvAlias a ↔ a.val ≤ h.max := by
  have hmax := hd.max
  unfold GenericConnection.validRecvAlias
  cases hr : c.topicAliasRecv with
  | none =>
    rw [hr] at hmax
    have h0 : h.max = 0 := by
      by_contra hne
      rw [if_neg hne] at hmax
      cases hmax
    simp only [Option.any_none, Bool.false_eq_true, false_iff, h0]
    intro hle
    exact a.property (Fin.le_zero_iff.mp hle)
  | some r =>
    rw [hr] at hmax
    by_cases h0 : h.max = 0
    · rw [if_pos h0] at hmax
      cases hmax
    · rw [if_neg h0] at hmax
      rw [← Option.some.inj hmax]
      simp

theorem Describes.inRange {c : GenericConnection w} (hd : h.Describes c.topicAliasRecv)
    {p : V50.Publish w} (hp : c.Resolves p) {a : NonZero 65535}
    (ha : V50.topicAliasOf p.props = some a) : a.val ≤ h.max := by
  unfold GenericConnection.Resolves GenericConnection.recvTopic at hp
  rw [← hd.valid a]
  by_cases he : p.topicName.isEmpty
  · rw [if_pos he] at hp
    obtain ⟨topic, ht, -⟩ := hp
    rw [ha] at ht
    by_contra hno
    cases hr : c.topicAliasRecv <;> simp [hr, hno] at ht
  · rw [if_neg he] at hp
    exact hp a ha

theorem Describes.told_eq {c : GenericConnection w} (hd : h.Describes c.topicAliasRecv)
    {p : V50.Publish w} (hp : ¬ c.Resolves p) : h.told p = h := by
  unfold told
  cases ha : V50.topicAliasOf p.props with
  | none => rfl
  | some a =>
    refine if_pos ?_
    by_contra hno
    obtain ⟨he, hlt⟩ := not_or.mp hno
    refine hp ?_
    unfold GenericConnection.Resolves
    rw [if_neg he]
    intro b hb
    rw [ha] at hb
    rw [hd.valid b, ← Option.some.inj hb]
    exact Fin.not_lt.mp hlt

/-- What a PUBLISH is handed over with: the topic of the history, and its other fields as they came,
but for the lengths that depend on the topic. -/
structure Named (h : AliasHistory) (p q : V50.Publish w) : Prop where
  topic : h.topicOf p = some q.topicName.asStr
  nonempty : ¬ q.topicName.isEmpty
  fields : if p.topicName.isEmpty then V50.Publish.Relengthed
    { p with topicName := q.topicName, topicNameExtracted := true } q else q = p

variable {c c' : GenericConnection w} {p p' : V50.Publish w}

theorem Describes.resolved (hd : h.Describes c.topicAliasRecv) (hp : c.Resolves p)
    (hr : c.Resolved c' p p') : h.Named p p' ∧ (h.told p).Describes c'.topicAliasRecv := by
  have htopic := hr.topic
  have hmax : c'.topicAliasRecv.map TopicAliasRecv.max = if h.max = 0 then none else some h.max :=
    hr.max.trans hd.max
  have htopicOf : h.topicOf p = some p'.topicName.asStr := by
    unfold topicOf
    cases ha : V50.topicAliasOf p.props with
    | none =>
      by_cases he : p.topicName.isEmpty
      · simp [he, GenericConnection.recvTopic, ha] at htopic
      · rw [if_neg he] at htopic ⊢
        rw [htopic]
    | some a =>
      have hle := hd.inRange hp ha
      dsimp only
      rw [if_neg (Fin.not_lt.mpr hle)]
      by_cases he : p.topicName.isEmpty
      · rw [if_pos he] at htopic ⊢
        rw [← hd.topics a, ← htopic]
        unfold GenericConnection.recvTopic
        have hvalid := (hd.valid a).mpr hle
        rw [ha]
        simp [hvalid]
      · rw [if_neg he] at htopic ⊢
        rw [htopic]
  have hnonempty : ¬ p'.topicName.isEmpty := by
    by_cases he : p.topicName.isEmpty
    · unfold topicOf at htopicOf
      cases ha : V50.topicAliasOf p.props with
      | none => simp [ha, he] at htopicOf
      | some a =>
        rw [ha] at htopicOf
        dsimp only at htopicOf
        rw [if_neg (Fin.not_lt.mpr (hd.inRange hp ha)), if_pos he] at htopicOf
        exact hd.named a _ htopicOf
    · rw [if_neg he] at htopic
      rwa [htopic]
  refine ⟨⟨htopicOf, hnonempty, hr.fields⟩, ?_⟩
  have haliases := hr.aliases
  unfold told
  cases ha : V50.topicAliasOf p.props with
  | none =>
    refine ⟨hmax, fun a ↦ ?_, hd.named⟩
    rw [← hd.topics a]
    simpa [ha, GenericConnection.recvAlias] using haliases a
  | some a =>
    dsimp only
    have hle := hd.inRange hp ha
    by_cases he : p.topicName.isEmpty
    · rw [if_pos (.inl he)]
      refine ⟨hmax, fun b ↦ ?_, hd.named⟩
      rw [← hd.topics b]
      simpa [he, GenericConnection.recvAlias] using haliases b
    · rw [if_neg (by simp [he, hle])]
      refine ⟨hmax, fun b ↦ ?_, fun b topic hb ↦ ?_⟩
      · have hb := haliases b
        dsimp only
        rw [ha] at hb
        by_cases hab : b = a
        · subst hab
          simpa [he, GenericConnection.recvAlias] using hb
        · rw [Function.update_of_ne hab, ← hd.topics b]
          simpa [he, Ne.symm hab, GenericConnection.recvAlias] using hb
      · dsimp only at hb
        by_cases hab : b = a
        · subst hab
          rw [Function.update_self] at hb
          rw [← Option.some.inj hb]
          exact he
        · rw [Function.update_of_ne hab] at hb
          exact hd.named b topic hb

end AliasHistory

end MqttProtocolCore.Connection
