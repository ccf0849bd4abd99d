import MqttProtocolCore.Connection.Session

namespace MqttProtocolCore.Connection.GenericConnection

open General Packet

variable {w : IdWidth} {c c' : GenericConnection w} {kind : AckKind} {id : PacketId w}
  {ids : HashSet (PacketId w)}

theorem awaiting_setAwaiting (kind' : AckKind) :
    (c.setAwaiting kind ids).awaiting kind' = if kind' = kind then ids else c.awaiting kind' := by
  cases kind <;> cases kind' <;> rfl

theorem session_setAwaiting : (c.setAwaiting kind ids).session =
    { c.session with awaits := Function.update c.session.awaits kind {id | id ∈ ids} } := by
  have hawaits : (c.setAwaiting kind ids).session.awaits =
      Function.update c.session.awaits kind {id | id ∈ ids} := by
    funext kind'
    simp only [session, awaiting_setAwaiting, Function.update_apply]
    split <;> rfl
  cases kind <;> exact Session.ext rfl rfl rfl rfl hawaits rfl rfl rfl rfl rfl

@[simp] theorem session_await : (c.await kind id).session = c.session.await kind id := by
  have h : {u | u ∈ (c.awaiting kind).insert id} = insert id (c.session.awaits kind) := by
    ext u
    simp [session]
  rw [await, session_setAwaiting, h, Session.await]

@[simp] theorem session_settle : (c.settle kind id).session = c.session.settle kind id := by
  have h : {u | u ∈ (c.awaiting kind).remove id} = c.session.awaits kind \ {id} := by
    ext u
    simp [session, and_comm]
  rw [settle, session_setAwaiting, h, Session.settle]

@[simp] theorem session_eraseStored {response : ResponsePacket} :
    (c.eraseStored response id).session = c.session.erase response id := by
  refine Session.ext rfl rfl rfl rfl rfl ?_ rfl rfl rfl rfl
  funext u
  simp only [eraseStored, session, Session.erase, Function.update_apply, GenericStore.get_erase]
  by_cases hu : u = id
  · subst hu
    cases hg : c.store.get u with
    | none => simp
    | some packet => simp [Option.filter]
  · simp [hu]

theorem session_clearStoreRelated : c.clearStoreRelated.session = c.session.clear := by
  refine Session.ext rfl rfl rfl ?_ ?_ rfl rfl rfl rfl rfl
  · ext u
    simp [clearStoreRelated, session, Session.clear]
  · funext kind
    cases kind <;> simp [clearStoreRelated, session, awaiting, Session.clear, Session.publishes]

theorem Idle.session (h : Idle c c') : c'.session = { c.session with status := c'.status } := by
  rw [h]
  rfl

theorem releaseIfUsed_spec : (c.releaseIfUsed id).Spec
    (fun r ↦ id ≠ 0 ∧ r.1 = { c with pidMan := r.1.pidMan } ∧ r.1.session = c.session.free id ∧
      report r.2 = ⟨[], [], if c.pidMan.isUsedId id then [id] else [], []⟩) (id = 0) := by
  unfold releaseIfUsed
  by_cases h0 : id = 0
  · subst h0
    rw [if_pos PacketIdManager.isUsedId_zero]
    have hs := @PacketIdManager.releaseId_spec w c.pidMan 0
    cases hr : c.pidMan.releaseId 0 with
    | ret man =>
      rw [hr] at hs
      exact (hs.1 rfl).elim
    | panic => rfl
  · split
    · rename_i hu
      obtain ⟨man, hman, hset⟩ := PacketIdManager.releaseId_of_used hu h0
      rw [hman]
      refine ⟨h0, rfl, ?_, rfl⟩
      refine Session.ext rfl rfl rfl ?_ rfl rfl rfl rfl rfl rfl
      ext u
      simp [GenericConnection.session, Session.free, hset]
    · rename_i hu
      refine ⟨h0, rfl, ?_, rfl⟩
      refine Session.ext rfl rfl rfl ?_ rfl rfl rfl rfl rfl rfl
      ext u
      simp only [GenericConnection.session, Session.free, Set.mem_sdiff, Set.mem_ofPred_eq,
        Set.mem_singleton_iff]
      grind

theorem storeAdd_spec {packet : GenericStorePacket w} (hid : packet.packetId = some id) :
    (c.storeAdd packet).Spec
      (fun c' ↦ c.session.stored id = none ∧ c' = { c with store := c'.store } ∧
        c'.session = c.session.keep id packet) (c.session.stored id ≠ none) := by
  have hkey : c.session.stored id = none ↔ ¬ c.store.containsKey id := GenericStore.get_eq_none
  unfold storeAdd
  rcases GenericStore.add_spec (s := c.store) hid with ⟨hc, ha⟩ | ⟨hc, s', ha, hget⟩
  · rw [ha]
    simp [hkey, hc]
  · rw [ha]
    refine ⟨hkey.mpr hc, rfl, Session.ext rfl rfl rfl rfl rfl ?_ rfl rfl rfl rfl⟩
    funext u
    simp [GenericConnection.session, Session.keep, hget, Function.update_apply]

def Oversize (limit : ℕ) (e : PacketId w × GenericStorePacket w) : Bool := limit < e.2.size

theorem oversize_iff {limit : ℕ} {e : PacketId w × GenericStorePacket w} :
    Oversize limit e ↔ limit < e.2.size := decide_eq_true_iff

def resendEvent (limit : ℕ) (e : PacketId w × GenericStorePacket w) : GenericEvent w :=
  if Oversize limit e then .notifyPacketIdReleased e.1 else .requestSendPacket e.2.toPacket none

def Unreleasable (man : PacketIdManager w) (id : PacketId w) : Prop :=
  id = 0 ∨ ¬ man.isUsedId id ∧ id = maxId w

theorem forEachLoop_resend {limit : ℕ} {entries : List (PacketId w × GenericStorePacket w)}
    (hkey : ∀ e ∈ entries, e.2.packetId = some e.1) (hnd : (entries.map Prod.fst).Nodup) :
    ∀ {man : PacketIdManager w} {events : List (GenericEvent w)},
    (GenericStore.forEachLoop (resend limit) entries (man, events)).Spec
      (fun r ↦ r.1 = (entries.filter (Oversize limit)).map Prod.fst ∧
        (∀ u, r.2.1.isUsedId u ↔ man.isUsedId u ∧ u ∉ r.1) ∧
        r.2.2 = events ++ entries.map (resendEvent limit) ∧
        ∀ e ∈ entries, Oversize limit e → ¬ Unreleasable man e.1)
      (∃ e ∈ entries, Oversize limit e ∧ Unreleasable man e.1) := by
  induction entries with
  | nil => simp [GenericStore.forEachLoop]
  | cons e entries ih =>
    intro man events
    obtain ⟨id, packet⟩ := e
    obtain ⟨hid, hkey⟩ := List.forall_mem_cons.mp hkey
    rw [List.map_cons, List.nodup_cons] at hnd
    have hne : ∀ e ∈ entries, e.1 ≠ id := by
      rintro e he rfl
      exact hnd.1 (List.mem_map.mpr ⟨e, he, rfl⟩)
    simp only [GenericStore.forEachLoop, resend]
    by_cases hsize : packet.size > limit
    · have hover : Oversize limit (id, packet) := by simpa [oversize_iff] using hsize
      rw [if_pos hsize, hid]
      simp only [bind_assoc]
      refine PacketIdManager.releaseId_spec.bind (fun man' ⟨h0, hmax, hset⟩ ↦ ?_)
        fun h ↦ ⟨_, List.mem_cons_self, hover, h⟩
      have hfree : ¬ Unreleasable man id := by
        unfold Unreleasable
        tauto
      have hsame : ∀ e ∈ entries, Unreleasable man' e.1 ↔ Unreleasable man e.1 := by
        intro e he
        simp only [Unreleasable, hset]
        have := hne e he
        tauto
      refine (ih hkey hnd.2).bind (fun r ⟨hrem, hused, hev, hfine⟩ ↦ ?_) ?_
      · refine ⟨?_, ?_, ?_, ?_⟩
        · simp [hover, hrem]
        · intro u
          simp [hused, hset]
          tauto
        · simp [hev, resendEvent, hover]
        · rw [List.forall_mem_cons]
          exact ⟨fun _ ↦ hfree, fun e he hl ↦ (hsame e he).not.mp (hfine e he hl)⟩
      · rintro ⟨e, he, hl, hbad⟩
        exact ⟨e, List.mem_cons_of_mem _ he, hl, (hsame e he).mp hbad⟩
    · have hfits : ¬ Oversize limit (id, packet) := by simpa [oversize_iff] using hsize
      rw [if_neg hsize]
      refine (ih hkey hnd.2).bind (fun r ⟨hrem, hused, hev, hfine⟩ ↦ ?_) ?_
      · refine ⟨?_, ?_, ?_, ?_⟩
        · simp [hfits, hrem]
        · simpa using hused
        · simp [hev, resendEvent, hfits]
        · rw [List.forall_mem_cons]
          exact ⟨fun h ↦ (hfits h).elim, hfine⟩
      · rintro ⟨e, he, hl, hbad⟩
        exact ⟨e, List.mem_cons_of_mem _ he, hl, hbad⟩

/-- Every stored packet that is too large has an identifier that can be released. -/
def CanResend (c : GenericConnection w) (limit : ℕ) : Prop :=
  ∀ id packet, c.store.get id = some packet → limit < packet.size → ¬ Unreleasable c.pidMan id

theorem requested_resend (limit : ℕ) (entries : List (PacketId w × GenericStorePacket w)) :
    requested (entries.map (resendEvent limit)) =
      (entries.filter fun e ↦ !Oversize limit e).map fun e ↦ e.2.toPacket := by
  induction entries with
  | nil => rfl
  | cons e entries ih => by_cases h : Oversize limit e <;> simp [resendEvent, h, ih]

theorem released_resend (limit : ℕ) (entries : List (PacketId w × GenericStorePacket w)) :
    released (entries.map (resendEvent limit)) = (entries.filter (Oversize limit)).map Prod.fst := by
  induction entries with
  | nil => rfl
  | cons e entries ih => by_cases h : Oversize limit e <;> simp [resendEvent, h, ih]

theorem notified_resend (limit : ℕ) (entries : List (PacketId w × GenericStorePacket w)) :
    notified (entries.map (resendEvent limit)) = [] := by
  induction entries with
  | nil => rfl
  | cons e entries ih => by_cases h : Oversize limit e <;> simp [resendEvent, h, ih]

theorem errors_resend (limit : ℕ) (entries : List (PacketId w × GenericStorePacket w)) :
    errors (entries.map (resendEvent limit)) = [] := by
  induction entries with
  | nil => rfl
  | cons e entries ih => by_cases h : Oversize limit e <;> simp [resendEvent, h, ih]

/-- The resend panics exactly when an identifier that it drops cannot be released. -/
theorem sendStored_spec : c.sendStored.Spec
    (fun r ↦ c.CanResend c.maximumPacketSizeSend ∧
      r.1 = { c with store := r.1.store, pidMan := r.1.pidMan } ∧
      ∃ requested released, report r.2 = ⟨requested, [], released, []⟩ ∧
        Session.Resends c.session r.1.session c.maximumPacketSizeSend requested released)
    (¬ c.CanResend c.maximumPacketSizeSend) := by
  have hget : ∀ id packet, c.store.get id = some packet ↔ (id, packet) ∈ c.store.map.entries :=
    fun id packet ↦ IndexMap.get_eq_some
  unfold sendStored GenericStore.forEach
  simp only [bind_assoc]
  refine (forEachLoop_resend c.store.keyed c.store.map.nodup).bind
    (fun ⟨toRemove, man, events⟩ ⟨hrem, hused, hev, hfine⟩ ↦ ?_) ?_
  · dsimp only at hrem hused hev
    subst hrem hev
    refine ⟨fun id packet hp hl ↦ hfine (id, packet) ((hget ..).mp hp) (oversize_iff.mpr hl), rfl,
      (c.store.map.entries.filter fun e ↦ !Oversize c.maximumPacketSizeSend e).map
        fun e ↦ e.2.toPacket,
      (c.store.map.entries.filter (Oversize c.maximumPacketSizeSend)).map Prod.fst, ?_, ?_⟩
    · simp only [report, List.nil_append, requested_resend, notified_resend, released_resend,
        errors_resend]
    · refine ⟨Session.ext rfl rfl rfl rfl rfl rfl rfl rfl rfl rfl, ?_, ?_, ?_, ?_⟩
      · intro id
        simp only [session, GenericStore.foldl_shiftRemove_filter, GenericStore.get_retain]
        refine congrArg (fun f ↦ (c.store.get id).filter f) (funext fun packet ↦ ?_)
        exact Bool.eq_iff_iff.mpr (by simp [Oversize])
      · ext u
        simp [session, hused]
      · intro id
        simp [session, hget, oversize_iff]
      · intro packet
        simp only [List.mem_map, List.mem_filter]
        constructor
        · rintro ⟨⟨id, stored⟩, ⟨hmem, hfits⟩, rfl⟩
          exact ⟨id, stored, (hget ..).mpr hmem, by simpa [Oversize] using hfits, rfl⟩
        · rintro ⟨id, stored, hs, hfits, rfl⟩
          exact ⟨(id, stored), ⟨(hget ..).mp hs, by simpa [Oversize] using hfits⟩, rfl⟩
  · rintro ⟨⟨id, packet⟩, he, hl, hbad⟩ hfine
    exact hfine id packet ((hget ..).mpr he) (oversize_iff.mp hl) hbad

end MqttProtocolCore.Connection.GenericConnection
