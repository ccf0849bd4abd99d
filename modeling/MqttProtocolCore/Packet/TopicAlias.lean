import MqttProtocolCore.Common.ValueAllocator
import MqttProtocolCore.General.IndexMap
import MqttProtocolCore.General.Recency
import MqttProtocolCore.Packet.MqttString

namespace MqttProtocolCore.Packet

open General Common

abbrev TopicAliasType := U16

/-- The two maps of the sender, from aliases to topics and back. -/
structure AliasMaps where
  aliasToTopic : IndexMap TopicAliasType Utf8String
  topicToAliases : IndexMap Utf8String (List TopicAliasType)
deriving DecidableEq

namespace AliasMaps

def Listed (maps : AliasMaps) (topic : Utf8String) (a : TopicAliasType) : Prop :=
  ∃ aliases, maps.topicToAliases.get topic = some aliases ∧ a ∈ aliases

def empty : AliasMaps := ⟨∅, ∅⟩

/-- Take `a` off the list of `topic`, and the list off the map when it becomes empty. -/
def unlist (maps : AliasMaps) (topic : Utf8String) (a : TopicAliasType) : AliasMaps :=
  match maps.topicToAliases.get topic with
  | none => maps
  | some aliases =>
    let aliases := aliases.filter (· ≠ a)
    { maps with
      topicToAliases :=
        if aliases = [] then maps.topicToAliases.shiftRemove topic
        else maps.topicToAliases.insert topic aliases }

def unbind (maps : AliasMaps) (a : TopicAliasType) : AliasMaps :=
  match maps.aliasToTopic.get a with
  | none => maps
  | some topic => unlist { maps with aliasToTopic := maps.aliasToTopic.shiftRemove a } topic a

def bind (maps : AliasMaps) (topic : Utf8String) (a : TopicAliasType) : AliasMaps where
  aliasToTopic := maps.aliasToTopic.insert a topic
  topicToAliases := maps.topicToAliases.insert topic
    ((maps.topicToAliases.get topic).getD [] ++ [a])

def touch (maps : AliasMaps) (a : TopicAliasType) (topic : Utf8String) : AliasMaps :=
  { maps with aliasToTopic := (maps.aliasToTopic.shiftRemove a).insert a topic }

/-- The maps are inverse to each other. -/
def Inverse (maps : AliasMaps) : Prop :=
  ∀ topic a, maps.Listed topic a ↔ maps.aliasToTopic.get a = some topic

variable {maps : AliasMaps} {topic t : Utf8String} {a b : TopicAliasType}

theorem listed_unlist : (maps.unlist topic a).Listed t b ↔
    maps.Listed t b ∧ ¬ (t = topic ∧ b = a) := by
  unfold unlist Listed
  cases h : maps.topicToAliases.get topic with
  | none =>
    by_cases ht : t = topic
    · subst t
      simp [h]
    · simp [ht]
  | some aliases =>
    by_cases ht : t = topic
    · subst t
      dsimp only
      split
      · rename_i hl
        simp only [IndexMap.get_shiftRemove_self, h, Option.some.injEq]
        simp only [List.filter_eq_nil_iff] at hl
        grind
      · simp only [IndexMap.get_insert_self, h, Option.some.injEq]
        grind
    · dsimp only
      split
      · simp [IndexMap.get_shiftRemove_of_ne ht, ht]
      · simp [IndexMap.get_insert_of_ne ht, ht]

theorem aliasToTopic_unlist : (maps.unlist topic a).aliasToTopic = maps.aliasToTopic := by
  unfold unlist
  split <;> rfl

theorem get_unbind : (maps.unbind a).aliasToTopic.get b =
    if b = a then none else maps.aliasToTopic.get b := by
  unfold unbind
  split
  · split
    · subst b
      assumption
    · rfl
  · rw [aliasToTopic_unlist]
    split
    · subst b
      simp
    · rw [IndexMap.get_shiftRemove_of_ne ‹_›]

theorem keys_unbind (maps : AliasMaps) (a : TopicAliasType) :
    (maps.unbind a).aliasToTopic.keys = maps.aliasToTopic.keys.filter (· ≠ a) := by
  unfold unbind
  split
  · rename_i h
    refine (List.filter_eq_self.mpr fun b hb ↦ ?_).symm
    simp only [ne_eq, decide_not, Bool.not_eq_true', decide_eq_false_iff_not]
    rintro rfl
    exact IndexMap.get_eq_none.mp h hb
  · rw [aliasToTopic_unlist]
    exact IndexMap.keys_shiftRemove _ _

theorem Inverse.unbind (h : maps.Inverse) (a : TopicAliasType) : (maps.unbind a).Inverse := by
  intro t b
  rw [get_unbind]
  unfold AliasMaps.unbind
  split
  · rename_i ha
    rw [h t b]
    split
    · subst b
      simp [ha]
    · rfl
  · rename_i topic ha
    rw [listed_unlist]
    have hl : ∀ t b, Listed { maps with aliasToTopic := maps.aliasToTopic.shiftRemove a } t b ↔
        maps.Listed t b := fun _ _ ↦ Iff.rfl
    rw [hl, h t b]
    split
    · subst b
      simp only [ha, Option.some.injEq, reduceCtorEq, iff_false, not_and]
      rintro rfl
      simp
    · simp [*]

theorem get_bind : (maps.bind topic a).aliasToTopic.get b =
    if b = a then some topic else maps.aliasToTopic.get b := by
  unfold bind
  split
  · subst b
    simp
  · exact IndexMap.get_insert_of_ne ‹_›

theorem listed_bind : (maps.bind topic a).Listed t b ↔ maps.Listed t b ∨ t = topic ∧ b = a := by
  unfold bind Listed
  by_cases ht : t = topic
  · subst t
    cases h : maps.topicToAliases.get topic <;> simp
  · simp [IndexMap.get_insert_of_ne ht, ht]

theorem Inverse.bind (h : maps.Inverse) (ha : maps.aliasToTopic.get a = none) :
    (maps.bind topic a).Inverse := by
  intro t b
  rw [listed_bind, get_bind, h t b]
  split
  · subst b
    simp [ha, eq_comm]
  · simp [*]

theorem get_touch (h : maps.aliasToTopic.get a = some topic) :
    (maps.touch a topic).aliasToTopic.get b = maps.aliasToTopic.get b := by
  by_cases hb : b = a
  · subst b
    simp [touch, h]
  · simp [touch, IndexMap.get_insert_of_ne hb, IndexMap.get_shiftRemove_of_ne hb]

theorem Inverse.touch (h : maps.Inverse) (ha : maps.aliasToTopic.get a = some topic) :
    (maps.touch a topic).Inverse := by
  intro t b
  rw [get_touch ha]
  exact h t b

end AliasMaps

/-- The aliases that the sender has bound, in the order of their last use. The maps are inverse to
each other, and the allocator knows which aliases are taken. -/
structure TopicAliasSend where
  maxAlias : TopicAliasType
  maps : AliasMaps
  valueAllocator : ValueAllocator 65535
  range : valueAllocator.lowest = 1 ∧ valueAllocator.highest = maxAlias
  inverse : maps.Inverse
  used : ∀ a, 1 ≤ a → a ≤ maxAlias →
    (valueAllocator.isUsed a ↔ ∃ topic, maps.aliasToTopic.get a = some topic)
  inRange : ∀ a topic, maps.aliasToTopic.get a = some topic → 1 ≤ a ∧ a ≤ maxAlias
  nonempty : ∀ a topic, maps.aliasToTopic.get a = some topic → ¬ topic.isEmpty

namespace TopicAliasSend

def new (maxAlias : TopicAliasType) : Outcome TopicAliasSend :=
  match h : ValueAllocator.new 1 maxAlias with
  | .panic => .panic
  | .ret valueAllocator => .ret {
      maxAlias := maxAlias
      maps := .empty
      valueAllocator := valueAllocator
      range := ((h ▸ ValueAllocator.new_spec : (Outcome.ret valueAllocator).Spec ..)).2.1
      inverse := by simp [AliasMaps.Inverse, AliasMaps.Listed, AliasMaps.empty]
      used := by
        intro a h₁ h₂
        have := ((h ▸ ValueAllocator.new_spec : (Outcome.ret valueAllocator).Spec ..)).2.2 a
        simp [this, h₁, h₂, AliasMaps.empty]
      inRange := by simp [AliasMaps.empty]
      nonempty := by simp [AliasMaps.empty] }

/-- Bind an alias to a topic; the assertion asks for a topic and an alias in the range. -/
def insertOrUpdate (s : TopicAliasSend) (topic : Utf8String) (a : TopicAliasType) :
    Outcome TopicAliasSend :=
  if h : ¬ topic.isEmpty ∧ 1 ≤ a ∧ a ≤ s.maxAlias then
    let isNew := s.valueAllocator.useValue a
    have hget : ∀ b, ((if isNew.isSome then s.maps else s.maps.unbind a).bind topic a).aliasToTopic.get b
        = if b = a then some topic else s.maps.aliasToTopic.get b := by
      intro b
      rw [AliasMaps.get_bind]
      by_cases hb : b = a
      · simp [hb]
      · split_ifs
        · rfl
        · simp [AliasMaps.get_unbind, hb]
    have hfree : isNew.isSome → s.maps.aliasToTopic.get a = none := by
      intro hn
      obtain ⟨alloc, ha⟩ := Option.isSome_iff_exists.mp hn
      by_contra hne
      exact (ValueAllocator.useValue_spec ha).1
        ((s.used a h.2.1 h.2.2).mpr (Option.ne_none_iff_exists'.mp hne))
    .ret {
      maxAlias := s.maxAlias
      maps := (if isNew.isSome then s.maps else s.maps.unbind a).bind topic a
      valueAllocator := isNew.getD s.valueAllocator
      range := by
        cases hn : isNew with
        | none => exact s.range
        | some alloc =>
          have := (ValueAllocator.useValue_spec hn).2.1
          exact ⟨this.1.trans s.range.1, this.2.trans s.range.2⟩
      inverse := by
        split
        · exact s.inverse.bind (hfree ‹_›)
        · exact (s.inverse.unbind a).bind (by simp [AliasMaps.get_unbind])
      used := by
        intro b h₁ h₂
        rw [hget]
        cases hn : isNew with
        | none =>
          have ha : s.valueAllocator.isUsed a := ValueAllocator.useValue_eq_none.mp hn
          by_cases hb : b = a
          · simp [hb, ha]
          · simpa [hb] using s.used b h₁ h₂
        | some alloc =>
          rw [Option.getD_some, (ValueAllocator.useValue_spec hn).2.2 b, s.used b h₁ h₂]
          by_cases hb : b = a <;> simp [hb]
      inRange := by
        intro b t hb
        rw [hget] at hb
        split at hb
        · subst b
          exact h.2
        · exact s.inRange b t hb
      nonempty := by
        intro b t hb
        rw [hget] at hb
        split at hb
        · obtain rfl := Option.some.inj hb
          exact h.1
        · exact s.nonempty b t hb }
  else .panic

def get (s : TopicAliasSend) (a : TopicAliasType) : Option Utf8String × TopicAliasSend :=
  if 1 ≤ a ∧ a ≤ s.maxAlias then
    match h : s.maps.aliasToTopic.get a with
    | none => (none, s)
    | some topic => (some topic, { s with
        maps := s.maps.touch a topic
        inverse := s.inverse.touch h
        used := by simpa only [AliasMaps.get_touch h] using s.used
        inRange := by simpa only [AliasMaps.get_touch h] using s.inRange
        nonempty := by simpa only [AliasMaps.get_touch h] using s.nonempty })
  else (none, s)

def peek (s : TopicAliasSend) (a : TopicAliasType) : Option Utf8String :=
  if 1 ≤ a ∧ a ≤ s.maxAlias then s.maps.aliasToTopic.get a else none

def findByTopic (s : TopicAliasSend) (topic : Utf8String) : Option TopicAliasType :=
  (s.maps.topicToAliases.get topic).bind List.head?

def clear (s : TopicAliasSend) : TopicAliasSend where
  maxAlias := s.maxAlias
  maps := .empty
  valueAllocator := s.valueAllocator.clear
  range := s.range
  inverse := by simp [AliasMaps.Inverse, AliasMaps.Listed, AliasMaps.empty]
  used := by
    intro a h₁ h₂
    rw [ValueAllocator.isUsed_clear, s.range.1, s.range.2]
    simp [h₁, h₂, AliasMaps.empty]
  inRange := by simp [AliasMaps.empty]
  nonempty := by simp [AliasMaps.empty]

/-- A free alias if there is one, otherwise the one whose last use is the oldest. -/
def getLruAlias (s : TopicAliasSend) : Outcome TopicAliasType :=
  if s.maxAlias > 0 then
    .ret (s.valueAllocator.firstVacant.getD (s.maps.aliasToTopic.keys.headD 1))
  else .panic

def max (s : TopicAliasSend) : TopicAliasType := s.maxAlias

variable {s s' : TopicAliasSend} {topic t : Utf8String} {a b maxAlias : TopicAliasType}

theorem peek_eq : s.peek a = s.maps.aliasToTopic.get a := by
  unfold peek
  split
  · rfl
  · cases h : s.maps.aliasToTopic.get a with
    | none => rfl
    | some t => exact absurd (s.inRange a t h) ‹_›

theorem new_spec : (new maxAlias).Spec
    (fun s ↦ maxAlias ≠ 0 ∧ s.maxAlias = maxAlias ∧ ∀ a, s.peek a = none) (maxAlias = 0) := by
  have hle : 1 ≤ maxAlias ↔ maxAlias ≠ 0 := by
    rw [Fin.le_def, ne_eq, Fin.ext_iff]
    simp only [Fin.val_one, Fin.val_zero]
    omega
  have hs := @ValueAllocator.new_spec 65535 1 maxAlias
  unfold new
  split
  · rename_i hn
    rw [hn, Outcome.spec_panic, hle, not_not] at hs
    exact hs
  · rename_i alloc hn
    rw [hn] at hs
    exact ⟨hle.mp hs.1, rfl, fun a ↦ by rw [peek_eq]; simp [AliasMaps.empty]⟩

theorem insertOrUpdate_spec : (s.insertOrUpdate topic a).Spec
    (fun s' ↦ (¬ topic.isEmpty ∧ 1 ≤ a ∧ a ≤ s.maxAlias) ∧ s'.maxAlias = s.maxAlias ∧
      ∀ b, s'.peek b = if b = a then some topic else s.peek b)
    (¬ (¬ topic.isEmpty ∧ 1 ≤ a ∧ a ≤ s.maxAlias)) := by
  unfold insertOrUpdate
  split
  · rename_i h
    refine ⟨h, rfl, fun b ↦ ?_⟩
    rw [peek_eq, peek_eq, AliasMaps.get_bind]
    by_cases hb : b = a
    · simp [hb]
    · split_ifs
      · rfl
      · simp [AliasMaps.get_unbind, hb]
  · assumption

theorem get_fst : (s.get a).1 = s.peek a := by
  rw [peek_eq]
  unfold get
  split
  · split <;> simp [*]
  · cases h : s.maps.aliasToTopic.get a with
    | none => rfl
    | some t => exact absurd (s.inRange a t h) ‹_›

theorem get_snd : (s.get a).2.maxAlias = s.maxAlias ∧ (s.get a).2.peek b = s.peek b := by
  rw [peek_eq, peek_eq]
  unfold get
  split
  · split
    · exact ⟨rfl, rfl⟩
    · exact ⟨rfl, AliasMaps.get_touch ‹_›⟩
  · exact ⟨rfl, rfl⟩

theorem findByTopic_spec (h : s.findByTopic topic = some a) : s.peek a = some topic := by
  rw [peek_eq, ← s.inverse topic a]
  obtain ⟨aliases, hl, ha⟩ := Option.bind_eq_some_iff.mp h
  exact ⟨aliases, hl, List.mem_of_mem_head? ha⟩

theorem inRange_of_peek (h : s.peek a = some topic) : 1 ≤ a ∧ a ≤ s.maxAlias :=
  s.inRange a topic (peek_eq ▸ h)

theorem one_le_maxAlias (s : TopicAliasSend) : 1 ≤ s.maxAlias := by
  have := s.valueAllocator.ordered
  rwa [s.range.1, s.range.2] at this

theorem getLruAlias_spec (s : TopicAliasSend) :
    ∃ a, s.getLruAlias = .ret a ∧ 1 ≤ a ∧ a ≤ s.maxAlias := by
  have hpos : s.maxAlias > 0 := by
    have := s.one_le_maxAlias
    simp only [gt_iff_lt, Fin.lt_def, Fin.le_def, Fin.val_zero, Fin.val_one] at *
    omega
  refine ⟨_, if_pos hpos, ?_⟩
  cases hv : s.valueAllocator.firstVacant with
  | some a =>
    have := ValueAllocator.inside_of_not_used (ValueAllocator.firstVacant_spec hv)
    rwa [s.range.1, s.range.2] at this
  | none =>
    cases hk : s.maps.aliasToTopic.keys with
    | nil => exact ⟨Fin.le_refl _, s.one_le_maxAlias⟩
    | cons a l =>
      obtain ⟨t, ht⟩ := IndexMap.mem_keys.mp (hk ▸ List.mem_cons_self : a ∈ s.maps.aliasToTopic.keys)
      exact s.inRange a t (IndexMap.get_eq_some.mpr ht)

def order (s : TopicAliasSend) : List TopicAliasType := s.maps.aliasToTopic.keys

theorem mem_order : a ∈ s.order ↔ (s.peek a).isSome := by
  unfold order
  rw [peek_eq, ← not_iff_not, ← IndexMap.get_eq_none]
  simp

theorem nodup_order (s : TopicAliasSend) : s.order.Nodup := s.maps.aliasToTopic.nodup

theorem order_new : (new maxAlias).Ensures fun s ↦ s.order = [] := by
  intro s hs
  have hspec := new_spec.of_ret hs
  exact List.eq_nil_iff_forall_not_mem.mpr fun a ha ↦ by simp [mem_order, hspec.2.2] at ha

theorem order_insertOrUpdate : (s.insertOrUpdate topic a).Ensures fun s' ↦
    s'.order = moveToEnd s.order a := by
  unfold insertOrUpdate
  split
  swap
  · exact Outcome.ensures_panic
  rename_i h
  refine Outcome.ensures_ret.mpr ?_
  have hmaps : (if (s.valueAllocator.useValue a).isSome then s.maps else
      s.maps.unbind a).aliasToTopic.keys = s.order.filter (· ≠ a) := by
    split
    · rename_i hn
      obtain ⟨alloc, halloc⟩ := Option.isSome_iff_exists.mp hn
      refine (List.filter_eq_self.mpr fun b hb ↦ ?_).symm
      simp only [ne_eq, decide_not, Bool.not_eq_true', decide_eq_false_iff_not]
      rintro rfl
      obtain ⟨t, ht⟩ := IndexMap.mem_keys.mp hb
      exact (ValueAllocator.useValue_spec halloc).1
        ((s.used b h.2.1 h.2.2).mpr ⟨t, IndexMap.get_eq_some.mpr ht⟩)
    · exact AliasMaps.keys_unbind s.maps a
  have hno : a ∉ (if (s.valueAllocator.useValue a).isSome then s.maps else
      s.maps.unbind a).aliasToTopic.keys := by
    rw [hmaps]
    simp
  exact (IndexMap.keys_insert_of_notMem hno).trans (congrArg (· ++ [a]) hmaps)

theorem order_get (h : (s.peek a).isSome) : (s.get a).2.order = moveToEnd s.order a := by
  obtain ⟨topic, ht⟩ := Option.isSome_iff_exists.mp h
  have hrange := inRange_of_peek ht
  rw [peek_eq] at ht
  have hno : a ∉ (s.maps.aliasToTopic.shiftRemove a).keys := by
    rw [IndexMap.keys_shiftRemove]
    simp
  have hkeys : ((s.maps.aliasToTopic.shiftRemove a).insert a topic).keys = moveToEnd s.order a :=
    (IndexMap.keys_insert_of_notMem hno).trans
      (congrArg (· ++ [a]) (IndexMap.keys_shiftRemove s.maps.aliasToTopic a))
  unfold get
  rw [if_pos hrange]
  split
  · rename_i hg
    cases ht.symm.trans hg
  · rename_i t hg
    obtain rfl := Option.some.inj (ht.symm.trans hg)
    exact hkeys

/-- When every alias is taken, the one that was used longest ago is bound anew. -/
theorem getLruAlias_taken (h : ∀ a, 1 ≤ a → a ≤ s.maxAlias → (s.peek a).isSome)
    (ha : s.getLruAlias = .ret a) : ∃ rest, s.order = a :: rest := by
  have hnone : s.valueAllocator.firstVacant = none := by
    by_contra hne
    obtain ⟨b, hb⟩ := Option.ne_none_iff_exists'.mp hne
    have hfree := ValueAllocator.firstVacant_spec hb
    have hinside := ValueAllocator.inside_of_not_used hfree
    rw [s.range.1, s.range.2] at hinside
    obtain ⟨topic, ht⟩ := Option.isSome_iff_exists.mp (h b hinside.1 hinside.2)
    rw [peek_eq] at ht
    exact hfree ((s.used b hinside.1 hinside.2).mpr ⟨topic, ht⟩)
  have hone : (1 : TopicAliasType) ∈ s.order := mem_order.mpr (h 1 (Fin.le_refl _) s.one_le_maxAlias)
  unfold getLruAlias at ha
  rw [hnone] at ha
  split at ha
  · cases ho : s.order with
    | nil => simp [ho] at hone
    | cons b rest =>
      have hkeys : s.maps.aliasToTopic.keys = b :: rest := ho
      rw [hkeys] at ha
      obtain rfl := Outcome.ret.inj ha
      exact ⟨rest, rfl⟩
  · cases ha

end TopicAliasSend

structure TopicAliasRecv where
  maxAlias : TopicAliasType
  aliases : IndexMap TopicAliasType Utf8String
deriving DecidableEq

namespace TopicAliasRecv

def new (maxAlias : TopicAliasType) : TopicAliasRecv := ⟨maxAlias, ∅⟩

def insertOrUpdate (r : TopicAliasRecv) (topic : Utf8String) (a : TopicAliasType) :
    Outcome TopicAliasRecv :=
  if ¬ topic.isEmpty ∧ 1 ≤ a ∧ a ≤ r.maxAlias then
    .ret { r with aliases := r.aliases.insert a topic }
  else .panic

def get (r : TopicAliasRecv) (a : TopicAliasType) : Option Utf8String :=
  if 1 ≤ a ∧ a ≤ r.maxAlias then r.aliases.get a else none

def max (r : TopicAliasRecv) : TopicAliasType := r.maxAlias

variable {r : TopicAliasRecv} {topic : Utf8String} {a b maxAlias : TopicAliasType}

@[simp] theorem get_new : (new maxAlias).get a = none := by
  unfold get new
  split <;> rfl

theorem insertOrUpdate_spec : (r.insertOrUpdate topic a).Spec
    (fun r' ↦ (¬ topic.isEmpty ∧ 1 ≤ a ∧ a ≤ r.maxAlias) ∧ r'.maxAlias = r.maxAlias ∧
      ∀ b, r'.get b = if b = a then some topic else r.get b)
    (¬ (¬ topic.isEmpty ∧ 1 ≤ a ∧ a ≤ r.maxAlias)) := by
  unfold insertOrUpdate
  split
  · rename_i h
    refine ⟨h, rfl, fun b ↦ ?_⟩
    unfold get
    by_cases hb : b = a
    · simp [hb, h.2]
    · simp [hb, IndexMap.get_insert_of_ne hb]
  · assumption

end TopicAliasRecv

end MqttProtocolCore.Packet
