import MqttProtocolCore.Common.ValueAllocator
import MqttProtocolCore.Packet.Basic

namespace MqttProtocolCore.Connection

open General Common Packet

variable {w : IdWidth}

def minId (w : IdWidth) : PacketId w := ⟨1, by have := w.one_le_max; omega⟩

def maxId (w : IdWidth) : PacketId w := ⟨w.max, by omega⟩

/-- The allocator of packet identifiers, which hands out 1 to the largest value of the type. -/
structure PacketIdManager (w : IdWidth) where
  allocator : ValueAllocator w.max
  range : allocator.lowest = minId w ∧ allocator.highest = maxId w
deriving DecidableEq

namespace PacketIdManager

theorem minId_le_maxId (w : IdWidth) : minId w ≤ maxId w := w.one_le_max

def new (w : IdWidth) : PacketIdManager w :=
  ⟨⟨ValueAllocator.full (minId w) (maxId w), minId w, maxId w, minId_le_maxId w,
    ValueAllocator.wf_full (minId_le_maxId w)⟩, rfl, rfl⟩

theorem allocator_new (w : IdWidth) :
    ValueAllocator.new (minId w) (maxId w) = .ret (new w).allocator := dif_pos (minId_le_maxId w)

def acquireUniqueId (man : PacketIdManager w) : Except MqttError (PacketId w × PacketIdManager w) :=
  match h : man.allocator.allocate with
  | some (id, allocator) => .ok (id, ⟨allocator, by
      have := (ValueAllocator.allocate_spec h).2.1
      exact ⟨this.1.trans man.range.1, this.2.trans man.range.2⟩⟩)
  | none => .error .packetIdentifierFullyUsed

def registerId (man : PacketIdManager w) (id : PacketId w) : Except MqttError (PacketIdManager w) :=
  match h : man.allocator.useValue id with
  | some allocator => .ok ⟨allocator, by
      have := (ValueAllocator.useValue_spec h).2.1
      exact ⟨this.1.trans man.range.1, this.2.trans man.range.2⟩⟩
  | none => .error .packetIdentifierConflict

def isUsedId (man : PacketIdManager w) (id : PacketId w) : Bool := man.allocator.isUsed id

def releaseId (man : PacketIdManager w) (id : PacketId w) : Outcome (PacketIdManager w) :=
  match h : man.allocator.deallocate id with
  | .ret allocator => .ret ⟨allocator, by
      have := ((h ▸ ValueAllocator.deallocate_spec : (Outcome.ret allocator).Spec ..)).2.1
      exact ⟨this.1.trans man.range.1, this.2.trans man.range.2⟩⟩
  | .panic => .panic

def clear (man : PacketIdManager w) : PacketIdManager w := ⟨man.allocator.clear, man.range⟩

variable {man man' : PacketIdManager w} {id u : PacketId w}

theorem inRange_iff : (man.allocator.lowest ≤ id ∧ id ≤ man.allocator.highest) ↔ id ≠ 0 := by
  rw [man.range.1, man.range.2, minId, maxId, Fin.le_def, Fin.le_def, ne_eq, Fin.ext_iff]
  have := id.isLt
  simp only [Fin.val_zero]
  omega

@[simp] theorem isUsedId_zero : man.isUsedId 0 := by
  by_contra h
  exact inRange_iff.mp (ValueAllocator.inside_of_not_used h) rfl

theorem acquireUniqueId_spec (h : man.acquireUniqueId = .ok (id, man')) :
    ¬ man.isUsedId id ∧ ∀ u, man'.isUsedId u ↔ man.isUsedId u ∨ u = id := by
  unfold acquireUniqueId at h
  split at h
  · rename_i id' allocator ha
    obtain ⟨rfl, rfl⟩ := Prod.mk.injEq .. ▸ Except.ok.inj h
    obtain ⟨hfree, -, hset⟩ := ValueAllocator.allocate_spec ha
    exact ⟨hfree, hset⟩
  · cases h

theorem registerId_spec (h : man.registerId id = .ok man') :
    ¬ man.isUsedId id ∧ ∀ u, man'.isUsedId u ↔ man.isUsedId u ∨ u = id := by
  unfold registerId at h
  split at h
  · rename_i allocator ha
    obtain rfl := Except.ok.inj h
    obtain ⟨hfree, -, hset⟩ := ValueAllocator.useValue_spec ha
    exact ⟨hfree, hset⟩
  · cases h

theorem registerId_error (h : man.registerId id = .error e) : man.isUsedId id := by
  unfold registerId at h
  split at h
  · cases h
  · exact ValueAllocator.useValue_eq_none.mp ‹_›

/-- A release panics on the identifier 0, and on the largest one when it is free. -/
theorem releaseId_spec : (man.releaseId id).Spec
    (fun man' ↦ id ≠ 0 ∧ (man.isUsedId id ∨ id ≠ maxId w) ∧
      ∀ u, man'.isUsedId u ↔ man.isUsedId u ∧ u ≠ id)
    (id = 0 ∨ ¬ man.isUsedId id ∧ id = maxId w) := by
  have h := @ValueAllocator.deallocate_spec _ man.allocator id
  rw [inRange_iff] at h
  have hmax : id = maxId w ↔ id.val = w.max := Fin.ext_iff
  unfold releaseId
  split
  · rename_i allocator ha
    simp only [ha, Outcome.spec_ret] at h
    exact ⟨h.1.1, by rw [ne_eq, hmax]; exact h.1.2, h.2.2⟩
  · rename_i ha
    simp only [ha, Outcome.spec_panic, not_not] at h
    rw [Outcome.spec_panic, hmax]
    exact h

theorem releaseId_of_used (h : man.isUsedId id) (h0 : id ≠ 0) :
    ∃ man', man.releaseId id = .ret man' ∧ ∀ u, man'.isUsedId u ↔ man.isUsedId u ∧ u ≠ id := by
  have hs := @releaseId_spec _ man id
  cases hr : man.releaseId id with
  | ret man' =>
    rw [hr] at hs
    exact ⟨man', rfl, hs.2.2⟩
  | panic =>
    rw [hr, Outcome.spec_panic] at hs
    simp_all

@[simp] theorem isUsedId_clear : man.clear.isUsedId u ↔ u = 0 := by
  rw [isUsedId, clear, ValueAllocator.isUsed_clear, inRange_iff, not_not]

@[simp] theorem isUsedId_new : (new w).isUsedId u ↔ u = 0 := by
  have h : (new w).clear = new w := rfl
  rw [← h, isUsedId_clear]

end PacketIdManager

end MqttProtocolCore.Connection
