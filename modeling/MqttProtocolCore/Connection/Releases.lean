import MqttProtocolCore.Connection.Frame
import MqttProtocolCore.Connection.StepSpec
import MqttProtocolCore.Connection.Ticks

namespace MqttProtocolCore.Connection.GenericConnection

open General Packet

variable {w : IdWidth} {c c' : GenericConnection w} {id : PacketId w} {r : Handled w}
  {events : List (GenericEvent w)}

structure Frees (c : GenericConnection w) (r : Handled w) : Prop where
  once : (released r.2).Nodup
  used : ∀ id ∈ released r.2, c.pidMan.isUsedId id
  freed : ∀ id ∈ released r.2, ¬ r.1.pidMan.isUsedId id
  shrinks : ∀ id, r.1.pidMan.isUsedId id → c.pidMan.isUsedId id

theorem frees_of_silent (hman : c'.pidMan = c.pidMan) (he : released events = []) :
    Frees c (c', events) := by
  refine ⟨?_, ?_, ?_, fun id h ↦ hman ▸ h⟩ <;> simp [he]

theorem Frees.append {c₁ c₂ : GenericConnection w} {events' : List (GenericEvent w)}
    (h : Frees c (c₁, events)) (h' : Frees c₁ (c₂, events')) : Frees c (c₂, events ++ events') := by
  refine ⟨?_, fun id hid ↦ ?_, fun id hid hu ↦ ?_, fun id hu ↦ h.shrinks id (h'.shrinks id hu)⟩
  · rw [released_append]
    refine List.nodup_append.mpr ⟨h.once, h'.once, ?_⟩
    rintro id hid _ hid' rfl
    exact h.freed id hid (h'.used id hid')
  · rw [released_append] at hid
    rcases List.mem_append.mp hid with hid | hid
    · exact h.used id hid
    · exact h.shrinks id (h'.used id hid)
  · rw [released_append] at hid
    rcases List.mem_append.mp hid with hid | hid
    · exact h.freed id hid (h'.shrinks id hu)
    · exact h'.freed id hid hu

theorem Frees.after {c₀ : GenericConnection w} (h : Frees c₀ r) (hman : c₀.pidMan = c.pidMan) :
    Frees c r := by
  refine ⟨h.once, ?_, h.freed, ?_⟩
  · rw [← hman]
    exact h.used
  · rw [← hman]
    exact h.shrinks

theorem frees_releaseIfUsed : (c.releaseIfUsed id).Ensures (Frees c) := by
  unfold releaseIfUsed
  split
  · rename_i hu
    refine Outcome.Ensures.bind (P := fun man ↦ ∀ u, man.isUsedId u ↔ c.pidMan.isUsedId u ∧ u ≠ id)
      (fun man hman ↦ ?_) fun man hset ↦ Outcome.ensures_ret.mpr ?_
    · have hspec := @PacketIdManager.releaseId_spec _ c.pidMan id
      exact (hspec.of_ret hman).2.2
    refine ⟨by simp, ?_, ?_, fun u h ↦ ((hset u).mp h).1⟩
    · simpa using hu
    · simp [hset]
  · exact Outcome.ensures_ret.mpr (frees_of_silent rfl rfl)

theorem frees_releaseAll (ids : List (PacketId w)) : (c.releaseAll ids).Ensures (Frees c) := by
  induction ids generalizing c with
  | nil => exact Outcome.ensures_ret.mpr (frees_of_silent rfl rfl)
  | cons id ids ih =>
    refine frees_releaseIfUsed.bind fun r hr ↦ ih.bind fun r' hr' ↦ ?_
    exact Outcome.ensures_ret.mpr (hr.append hr')

theorem frees_drainAll (kinds : List AckKind) : (c.drainAll kinds).Ensures (Frees c) := by
  induction kinds generalizing c with
  | nil => exact Outcome.ensures_ret.mpr (frees_of_silent rfl rfl)
  | cons kind kinds ih =>
    have hman : (c.setAwaiting kind ∅).pidMan = c.pidMan := by cases kind <;> rfl
    refine Outcome.Ensures.bind (frees_releaseAll _) fun r hr ↦ ih.bind fun r' hr' ↦ ?_
    have hr : Frees c r := hr.after hman
    exact Outcome.ensures_ret.mpr (hr.append hr')

theorem frees_notifyClosed : c.notifyClosed.Ensures (Frees c) := by
  unfold notifyClosed
  refine (frees_drainAll _).bind fun r hr ↦ ?_
  refine Outcome.Ensures.bind (P := Frees r.1) ?_ fun r' hr' ↦ Outcome.ensures_ret.mpr ?_
  · unfold respondIf
    split
    · exact (frees_drainAll _).mono fun _ h ↦ h.after rfl
    · exact Outcome.ensures_ret.mpr (frees_of_silent rfl rfl)
  · have hr : Frees c r := hr.after rfl
    exact (hr.append hr').append (frees_of_silent rfl timersOnly_cancelTimers.released)

end MqttProtocolCore.Connection.GenericConnection
