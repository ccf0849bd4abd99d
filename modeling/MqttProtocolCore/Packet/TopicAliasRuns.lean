import MqttProtocolCore.Common.AllocatorRefinement
import MqttProtocolCore.General.Runs
import MqttProtocolCore.Packet.TopicAlias

namespace MqttProtocolCore.Packet

open General Common

namespace AliasMaps

variable {maps : AliasMaps} {topic t : Utf8String} {a : TopicAliasType}
  {aliases : List TopicAliasType}

/-- No list of aliases is empty, and none has an alias twice. -/
def Tidy (maps : AliasMaps) : Prop :=
  ∀ topic aliases, maps.topicToAliases.get topic = some aliases → aliases ≠ [] ∧ aliases.Nodup

theorem tidy_empty : empty.Tidy := by
  intro topic aliases h
  cases h

theorem Tidy.unlist (h : maps.Tidy) (topic : Utf8String) (a : TopicAliasType) :
    (maps.unlist topic a).Tidy := by
  intro t aliases hl
  unfold AliasMaps.unlist at hl
  cases hg : maps.topicToAliases.get topic with
  | none =>
    rw [hg] at hl
    exact h t aliases hl
  | some old =>
    rw [hg] at hl
    dsimp only at hl
    split at hl
    · by_cases ht : t = topic
      · subst ht
        rw [IndexMap.get_shiftRemove_self] at hl
        cases hl
      · rw [IndexMap.get_shiftRemove_of_ne ht] at hl
        exact h t aliases hl
    · rename_i hne
      by_cases ht : t = topic
      · subst ht
        rw [IndexMap.get_insert_self] at hl
        obtain rfl := Option.some.inj hl
        exact ⟨hne, (h t old hg).2.filter _⟩
      · rw [IndexMap.get_insert_of_ne ht] at hl
        exact h t aliases hl

theorem Tidy.unbind (h : maps.Tidy) (a : TopicAliasType) : (maps.unbind a).Tidy := by
  unfold AliasMaps.unbind
  split
  · exact h
  · rename_i topic _
    have hmaps : Tidy { maps with aliasToTopic := maps.aliasToTopic.shiftRemove a } := h
    exact hmaps.unlist topic a

theorem Tidy.bind (h : maps.Tidy) (hno : ¬ maps.Listed topic a) : (maps.bind topic a).Tidy := by
  intro t aliases hl
  by_cases ht : t = topic
  · subst ht
    have hl' : (maps.topicToAliases.get t).getD [] ++ [a] = aliases :=
      Option.some.inj ((IndexMap.get_insert_self ..).symm.trans hl)
    subst hl'
    refine ⟨by simp, ?_⟩
    cases hg : maps.topicToAliases.get t with
    | none => exact List.nodup_singleton a
    | some old =>
      refine List.nodup_append.mpr ⟨(h t old hg).2, List.nodup_singleton a, ?_⟩
      intro b hb c hc hbc
      obtain rfl := List.mem_singleton.mp hc
      subst hbc
      exact hno ⟨old, hg, hb⟩
  · exact h t aliases ((IndexMap.get_insert_of_ne ht).symm.trans hl)

end AliasMaps

inductive AliasCall where
  | insertOrUpdate (topic : Utf8String) (a : TopicAliasType)
  | get (a : TopicAliasType)
  | peek (a : TopicAliasType)
  | findByTopic (topic : Utf8String)
  | getLruAlias
  | clear

inductive AliasAnswer where
  | unit
  | topic (topic : Option Utf8String)
  | found (a : Option TopicAliasType)
  | oldest (a : TopicAliasType)

namespace TopicAliasSend

variable {s s' : TopicAliasSend} {topic : Utf8String} {a b maxAlias : TopicAliasType}
  {uses : List TopicAliasType} {call : AliasCall}

def step (s : TopicAliasSend) : AliasCall → Outcome (TopicAliasSend × AliasAnswer)
  | .insertOrUpdate topic a => do return (← s.insertOrUpdate topic a, .unit)
  | .get a => return ((s.get a).2, .topic (s.get a).1)
  | .peek a => return (s, .topic (s.peek a))
  | .findByTopic topic => return (s, .found (s.findByTopic topic))
  | .getLruAlias => do return (s, .oldest (← s.getLruAlias))
  | .clear => return (s.clear, .unit)

def system (maxAlias : TopicAliasType) : System TopicAliasSend AliasCall AliasAnswer where
  Init s := new maxAlias = .ret s
  step := step

/-- The aliases that were inserted or got since they were last cleared, in this order. -/
def readTouched (uses : List TopicAliasType)
    (t : Transition TopicAliasSend AliasCall AliasAnswer) : List TopicAliasType :=
  match t.input, t.output with
  | .insertOrUpdate _ a, _ => uses ++ [a]
  | .get a, .topic (some _) => uses ++ [a]
  | .clear, _ => []
  | _, _ => uses

def Permitted (s : TopicAliasSend) : AliasCall → Prop
  | .insertOrUpdate topic a => ¬ topic.isEmpty ∧ 1 ≤ a ∧ a ≤ s.max
  | _ => True

def vacant (s : TopicAliasSend) : Set TopicAliasType := {a | 1 ≤ a ∧ a ≤ s.max ∧ s.peek a = none}

theorem tidy_insertOrUpdate (h : s.maps.Tidy) :
    (s.insertOrUpdate topic a).Ensures fun s' ↦ s'.maps.Tidy := by
  unfold insertOrUpdate
  split
  swap
  · exact Outcome.ensures_panic
  rename_i hok
  refine Outcome.ensures_ret.mpr ?_
  dsimp only
  split
  · rename_i hn
    apply h.bind
    obtain ⟨alloc, halloc⟩ := Option.isSome_iff_exists.mp hn
    intro hl
    exact (ValueAllocator.useValue_spec halloc).1
      ((s.used a hok.2.1 hok.2.2).mpr ⟨topic, (s.inverse topic a).mp hl⟩)
  · apply (h.unbind a).bind
    intro hl
    have hget := ((s.inverse.unbind a) topic a).mp hl
    rw [AliasMaps.get_unbind, if_pos rfl] at hget
    cases hget

theorem get_of_peek_none (h : s.peek a = none) : s.get a = (none, s) := by
  rw [peek_eq] at h
  unfold get
  split
  · split
    · rfl
    · rename_i hg
      cases h.symm.trans hg
  · rfl

theorem tidy_get (h : s.maps.Tidy) : (s.get a).2.maps.Tidy := by
  unfold get
  split
  · split
    · exact h
    · exact h
  · exact h

def Ordered (s : TopicAliasSend) (uses : List TopicAliasType) : Prop :=
  s.maps.Tidy ∧ s.order = recency uses

theorem Ordered.step (h : s.Ordered uses) (call : AliasCall) :
    (s.step call).Ensures fun r ↦ r.1.Ordered (readTouched uses ⟨s, call, r.1, r.2⟩) := by
  obtain ⟨htidy, horder⟩ := h
  cases call with
  | insertOrUpdate topic a =>
    intro r hr
    obtain ⟨s', hs', hret⟩ := Outcome.bind_eq_ret.mp hr
    obtain rfl := Outcome.ret.inj hret
    refine ⟨tidy_insertOrUpdate htidy s' hs', ?_⟩
    have huses : readTouched uses ⟨s, .insertOrUpdate topic a, s', .unit⟩ = uses ++ [a] := rfl
    rw [huses, recency_concat, ← horder]
    exact order_insertOrUpdate s' hs'
  | get a =>
    refine Outcome.ensures_ret.mpr ⟨tidy_get htidy, ?_⟩
    cases hp : s.peek a with
    | none =>
      rw [get_of_peek_none hp]
      exact horder
    | some topic =>
      have hsome : (s.peek a).isSome := by rw [hp]; rfl
      have huses : readTouched uses ⟨s, .get a, (s.get a).2, .topic (s.get a).1⟩ = uses ++ [a] := by
        rw [get_fst, hp]
        rfl
      rw [huses, recency_concat, ← horder]
      exact order_get hsome
  | peek a => exact Outcome.ensures_ret.mpr ⟨htidy, horder⟩
  | findByTopic topic => exact Outcome.ensures_ret.mpr ⟨htidy, horder⟩
  | getLruAlias =>
    intro r hr
    obtain ⟨a, ha, hret⟩ := Outcome.bind_eq_ret.mp hr
    obtain rfl := Outcome.ret.inj hret
    exact ⟨htidy, horder⟩
  | clear => exact Outcome.ensures_ret.mpr ⟨AliasMaps.tidy_empty, rfl⟩

end TopicAliasSend

end MqttProtocolCore.Packet
