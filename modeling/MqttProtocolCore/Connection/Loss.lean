import MqttProtocolCore.Connection.StepSpec

namespace MqttProtocolCore.Connection.GenericConnection

open General Packet

variable {w : IdWidth} {c c' : GenericConnection w} {input : Input w} {s : Session w}
  {rep : Report w} {u : PacketId w} {stored : GenericStorePacket w}

def continues (packet : GenericPacket w) : Prop :=
  packet.protocolVersion = .v311 ∨ (pubrecReasonOf packet).all (· = .success)

inductive Renews (c : GenericConnection w) (rep : Report w) : Input w → Prop where
  | cleanSent {packet : GenericPacket w} :
      packet.connectOf = some true → c.status = .disconnected → packet ∈ rep.requested →
      Renews c rep (.send packet)
  | cleanReceived {packet : GenericPacket w} :
      packet.connectOf = some true → c.status = .disconnected → packet ∈ rep.notified →
      Renews c rep (.receive packet)
  | sessionDenied {packet : GenericPacket w} :
      packet.connackOf = some false → packet ∈ rep.notified → Renews c rep (.receive packet)

def Erases (c : GenericConnection w) (u : PacketId w) (stored : GenericStorePacket w)
    (packet : GenericPacket w) : Prop :=
  ∃ kind, ackOf packet = some (kind, u) ∧ u ∈ c.awaiting kind ∧ (responseOf packet).isSome ∧
    stored.responsePacket = responseOf packet ∧
    (kind = .pubrec ∧ continues packet ∨ ¬ c.pidMan.isUsedId u)

/-- A stored packet goes without an announcement that its identifier is released. -/
inductive Forgets (c : GenericConnection w) (u : PacketId w) (stored : GenericStorePacket w) :
    Input w → Prop where
  | cleanSent {packet : GenericPacket w} :
      packet.connectOf = some true → c.status = .disconnected → Forgets c u stored (.send packet)
  | cleanReceived {packet : GenericPacket w} :
      packet.connectOf = some true → c.status = .disconnected → Forgets c u stored (.receive packet)
  | sessionDenied {packet : GenericPacket w} :
      packet.connackOf = some false → Forgets c u stored (.receive packet)
  | acknowledged {packet : GenericPacket w} {kind : AckKind} :
      ackOf packet = some (kind, u) → u ∈ c.awaiting kind → (responseOf packet).isSome →
      stored.responsePacket = responseOf packet →
      kind = .pubrec ∧ continues packet ∨ ¬ c.pidMan.isUsedId u →
      Forgets c u stored (.receive packet)

theorem Renews.forgets (h : Renews c rep input) : Forgets c u stored input := by
  cases h with
  | cleanSent hp hs => exact .cleanSent hp hs
  | cleanReceived hp hs => exact .cleanReceived hp hs
  | sessionDenied hp => exact .sessionDenied hp

theorem Session.counted_frame (s : Session w) (v : Version) :
    s.counted v = { s with count := (s.counted v).count } := by
  unfold Session.counted
  split <;> rfl

theorem Session.finished_frame (s : Session w) (v : Version) :
    s.finished v = { s with count := (s.finished v).count } := by
  unfold Session.finished
  split <;> rfl

theorem Session.erase_stored {response : ResponsePacket} {id : PacketId w}
    (h : s.stored u = some stored) (hne : ¬ (u = id ∧ stored.responsePacket = some response)) :
    (s.erase response id).stored u = some stored := by
  unfold Session.erase
  by_cases hu : u = id
  · subst hu
    simp only [Function.update_self, h]
    have : stored.responsePacket ≠ some response := fun hr ↦ hne ⟨rfl, hr⟩
    simp [Option.filter, this]
  · simp [Function.update_of_ne hu, h]

theorem Session.foldl_restore_stored (packets : List (GenericStorePacket w))
    (h : s.stored u = some stored) : (packets.foldl Session.restore s).stored u = some stored := by
  induction packets generalizing s with
  | nil => exact h
  | cons packet packets ih =>
    refine ih ?_
    unfold Session.restore
    split
    · dsimp only
      split
      · exact h
      · rename_i id _ _ _
        by_cases hu : u = id
        · subst hu
          simp [Session.await, h]
        · exact (Function.update_of_ne hu _ _).trans h
    · exact h

theorem stored_of_resends {s₀ : Session w} {limit : ℕ} {req : List (GenericPacket w)}
    {rel : List (PacketId w)} (h : s₀.Resends s limit req rel) (hu : s₀.stored u = some stored) :
    s.stored u = some stored ∧ stored.toPacket ∈ req ∨ u ∈ rel := by
  by_cases hsize : stored.size ≤ limit
  · left
    refine ⟨?_, (h.requested _).mpr ⟨u, stored, hu, hsize, rfl⟩⟩
    rw [h.stored, hu]
    simp [Option.filter, hsize]
  · exact .inr ((h.released u).mpr ⟨stored, hu, by omega⟩)

/-- A stored packet stays, its identifier is announced, the session ends, or the packet is
answered. -/
theorem Change.stored_kept (h : Change c input s rep) (hu : c.session.stored u = some stored) :
    s.stored u = some stored ∨ u ∈ rep.released ∨ Renews c rep input ∨
      ∃ packet, input = .receive packet ∧ Erases c u stored packet := by
  have hkeep {id : PacketId w} {p : GenericStorePacket w} (hn : c.session.stored id = none) :
      (c.session.keep id p).stored u = some stored := by
    have hne : u ≠ id := by
      rintro rfl
      cases hn.symm.trans hu
    exact (Function.update_of_ne hne _ _).trans hu
  have herase {packet : GenericPacket w} {kind : AckKind} {id : PacketId w}
      {response : ResponsePacket} (hack : ackOf packet = some (kind, id))
      (hres : responseOf packet = some response) (hmem : id ∈ c.awaiting kind)
      (hend : kind = .pubrec ∧ continues packet ∨
        rep.released = if c.pidMan.isUsedId id then [id] else []) :
      ((c.session.settle kind id).erase response id).stored u = some stored ∨
        u ∈ rep.released ∨ Erases c u stored packet := by
    by_cases hne : u = id ∧ stored.responsePacket = some response
    · obtain ⟨rfl, hr⟩ := hne
      right
      have herases (h : kind = .pubrec ∧ continues packet ∨ ¬ c.pidMan.isUsedId u) :
          Erases c u stored packet :=
        ⟨kind, hack, hmem, by simp [hres], hr.trans hres.symm, h⟩
      rcases hend with hend | hrel
      · exact .inr (herases (.inl hend))
      · by_cases hused : c.pidMan.isUsedId u
        · left
          simp [hrel, hused]
        · exact .inr (herases (.inr hused))
    · exact .inl (Session.erase_stored hu hne)
  cases h with
  | @connectSent packet clean hc hs =>
    cases clean with
    | true => exact .inr (.inr (.inl (.cleanSent hc hs (by simp))))
    | false => exact .inl hu
  | @connectReceived packet clean v hc hs =>
    cases clean with
    | true => exact .inr (.inr (.inl (.cleanReceived hc hs (by simp))))
    | false => exact .inl hu
  | connackSent _ _ hres => exact (stored_of_resends hres hu).imp And.left .inl
  | connackResumes _ hres => exact (stored_of_resends hres hu).imp And.left .inl
  | connackAnew h' => exact .inr (.inr (.inl (.sessionDenied h' (by simp))))
  | @publishWithdrawn _ id _ _ _ _ _ _ hs =>
    by_cases hne : u = id
    · exact .inr (.inl (by simp [hne]))
    · left
      rcases hs with ⟨-, rfl⟩ | ⟨-, -, p, -, -, rfl⟩
      · exact hu
      · exact (Function.update_of_ne hne _ _).trans hu
  | published _ _ _ _ hs =>
    left
    rw [Session.counted_frame]
    rcases hs with ⟨-, rfl⟩ | ⟨-, hn, p, -, -, rfl⟩
    · exact hu
    · exact hkeep hn
  | pubrelSent _ _ hs =>
    left
    rcases hs with ⟨-, rfl⟩ | ⟨-, hn, p, -, rfl⟩
    · split <;> exact hu
    · split <;> exact hkeep hn
  | acknowledged hack _ hres hmem =>
    rw [Session.finished_frame]
    exact (herase hack hres hmem (.inr rfl)).imp_right (.imp_right fun h ↦ .inr ⟨_, rfl, h⟩)
  | pubrecReceived hack hres hcont hmem hs =>
    rcases herase hack hres hmem (.inl ⟨rfl, hcont⟩) with h | h | h
    · left
      rcases hs with ⟨-, -, rfl⟩ | ⟨-, -, _, -, -, ⟨-, rfl⟩ | ⟨-, hn, p, -, rfl⟩⟩
      · exact h
      · exact h
      · have hne : u ≠ _ := fun heq ↦ by cases (heq ▸ h).symm.trans hn
        exact (Function.update_of_ne hne _ _).trans h
    · cases h
    · exact .inr (.inr (.inr ⟨_, rfl, h⟩))
  | pubrecFailed _ hmem =>
    rw [Session.finished_frame]
    exact (herase rfl rfl hmem (.inr rfl)).imp_right (.imp_right fun h ↦ .inr ⟨_, rfl, h⟩)
  | restored => exact .inl (Session.foldl_restore_stored _ hu)
  | _ => exact .inl hu

/-- A stored packet stays, its identifier is announced, or the session forgets it. -/
theorem Change.stored_cases (h : Change c input s rep) (hu : c.session.stored u = some stored) :
    s.stored u = some stored ∨ u ∈ rep.released ∨ Forgets c u stored input := by
  refine (h.stored_kept hu).imp_right (.imp_right ?_)
  rintro (h | ⟨packet, rfl, kind, hack, hmem, hsome, hres, hend⟩)
  · exact h.forgets
  · exact .acknowledged hack hmem hsome hres hend

theorem used_of_resends {s₀ : Session w} {limit : ℕ} {req : List (GenericPacket w)}
    {rel : List (PacketId w)} (h : s₀.Resends s limit req rel) (hu : u ∈ s₀.used) :
    u ∈ s.used ∨ u ∈ rel := by
  by_cases hr : u ∈ rel
  · exact .inr hr
  · left
    rw [h.used]
    exact ⟨hu, hr⟩

theorem foldl_restore_used (packets : List (GenericStorePacket w)) (hu : u ∈ s.used) :
    u ∈ (packets.foldl Session.restore s).used := by
  induction packets generalizing s with
  | nil => exact hu
  | cons packet packets ih =>
    refine ih ?_
    unfold Session.restore
    split
    · dsimp only
      split
      · exact hu
      · exact .inr hu
    · exact hu

/-- An identifier stays in use, it is announced, or the session ends. -/
theorem Change.used_kept (h : Change c input s rep) (hu : u ∈ c.session.used) :
    u ∈ s.used ∨ u ∈ rep.released ∨ Renews c rep input := by
  have hfree {id : PacketId w} {rel : List (PacketId w)}
      (hr : rel = if c.pidMan.isUsedId id then [id] else []) :
      u ∈ c.session.used \ {id} ∨ u ∈ rel := by
    by_cases hne : u = id
    · right
      subst hne
      have hused : c.pidMan.isUsedId u := hu
      simp [hr, hused]
    · exact .inl ⟨hu, hne⟩
  cases h with
  | @connectSent packet clean hc hs =>
    cases clean with
    | true => exact .inr (.inr (.cleanSent hc hs (by simp)))
    | false => exact .inl hu
  | @connectReceived packet clean v hc hs =>
    cases clean with
    | true => exact .inr (.inr (.cleanReceived hc hs (by simp)))
    | false => exact .inl hu
  | connackSent _ _ hres => exact (used_of_resends hres hu).imp_right .inl
  | connackResumes _ hres => exact (used_of_resends hres hu).imp_right .inl
  | connackAnew h' => exact .inr (.inr (.sessionDenied h' (by simp)))
  | publishRefused => exact (hfree rfl).imp_right .inl
  | subscriptionRefused => exact (hfree rfl).imp_right .inl
  | released => exact (hfree rfl).imp_right .inl
  | subscriptionAcked => exact (hfree rfl).imp_right .inl
  | @publishWithdrawn _ id _ _ _ _ _ _ hs =>
    by_cases hne : u = id
    · exact .inr (.inl (by simp [hne]))
    · left
      rcases hs with ⟨-, rfl⟩ | ⟨-, -, p, -, -, rfl⟩ <;> exact ⟨hu, hne⟩
  | published _ _ _ _ hs =>
    left
    rw [Session.counted_frame]
    rcases hs with ⟨-, rfl⟩ | ⟨-, -, p, -, -, rfl⟩ <;> exact hu
  | pubrelSent _ _ hs =>
    left
    rcases hs with ⟨-, rfl⟩ | ⟨-, -, p, -, rfl⟩ <;> split <;> exact hu
  | acknowledged | pubrecFailed =>
    rw [Session.finished_frame]
    exact (hfree rfl).imp_right .inl
  | pubrecReceived _ _ _ _ hs =>
    left
    rcases hs with ⟨-, -, rfl⟩ | ⟨-, -, _, -, -, ⟨-, rfl⟩ | ⟨-, -, _, -, rfl⟩⟩ <;> exact hu
  | closed hrel =>
    by_cases hd : u ∈ c.session.drained
    · exact .inr (.inl ((hrel u).mpr ⟨hd, hu⟩))
    · exact .inl ⟨hu, hd⟩
  | acquired => exact .inl (.inr hu)
  | registered => exact .inl (.inr hu)
  | restored => exact .inl (foldl_restore_used _ hu)
  | _ => exact .inl hu

theorem stored_of_keep {id : PacketId w} {p : GenericStorePacket w} (hn : s.stored u = none)
    (hs : (s.keep id p).stored u = some stored) : u = id := by
  by_contra hne
  cases (hn.symm.trans (Function.update_of_ne hne _ _).symm).trans hs

theorem foldl_restore_new (packets : List (GenericStorePacket w)) (hn : s.stored u = none)
    (hs : (packets.foldl Session.restore s).stored u = some stored) :
    u ∈ (packets.foldl Session.restore s).used := by
  induction packets generalizing s with
  | nil => cases hn.symm.trans hs
  | cons packet packets ih =>
    rw [List.foldl_cons] at hs ⊢
    cases hp : (s.restore packet).stored u with
    | none => exact ih hp hs
    | some p =>
      refine foldl_restore_used packets ?_
      unfold Session.restore at hp ⊢
      split at hp
      · dsimp only at hp ⊢
        split at hp
        · cases hn.symm.trans hp
        · rename_i id _ _ hfree
          rw [if_neg hfree]
          by_cases hne : u = id
          · exact .inl hne
          · cases (hn.symm.trans (Function.update_of_ne hne _ _).symm).trans hp
      · cases hn.symm.trans hp

/-- What is stored anew has an identifier in use, unless it is given up at once. -/
theorem Change.stored_new (h : Change c input s rep) (hn : c.session.stored u = none)
    (hs : s.stored u = some stored) : u ∈ s.used ∨ u ∈ rep.released := by
  have hres {s₀ : Session w} {limit : ℕ} {req : List (GenericPacket w)} {rel : List (PacketId w)}
      (hr : s₀.Resends s limit req rel) (h₀ : s₀.stored u = none) : False := by
    rw [hr.stored, h₀] at hs
    cases hs
  have herase {response : ResponsePacket} {id : PacketId w} {s₀ : Session w}
      (h₀ : s₀.stored u = none) : (s₀.erase response id).stored u = none := by
    unfold Session.erase
    by_cases hne : u = id
    · subst hne
      simp [h₀]
    · exact (Function.update_of_ne hne _ _).trans h₀
  cases h with
  | @connectSent packet clean =>
    cases clean with
    | true => cases hs
    | false => cases hn.symm.trans hs
  | @connectReceived packet clean =>
    cases clean with
    | true => cases hs
    | false => cases hn.symm.trans hs
  | connackSent _ _ hr => exact (hres hr hn).elim
  | connackResumes _ hr => exact (hres hr hn).elim
  | connackAnew => cases hs
  | publishWithdrawn _ _ _ hs' =>
    rcases hs' with ⟨-, rfl⟩ | ⟨-, -, p, -, -, rfl⟩
    · cases hn.symm.trans hs
    · obtain rfl := stored_of_keep hn hs
      exact .inr (by simp)
  | published _ _ hu _ hs' =>
    rw [Session.counted_frame] at hs ⊢
    rcases hs' with ⟨-, rfl⟩ | ⟨-, -, p, -, -, rfl⟩
    · cases hn.symm.trans hs
    · obtain rfl := stored_of_keep hn hs
      exact .inl hu
  | pubrelSent _ hu hs' =>
    left
    rcases hs' with ⟨-, rfl⟩ | ⟨-, -, p, -, rfl⟩
    · split at hs <;> cases hn.symm.trans hs
    · split at hs
      · obtain rfl := stored_of_keep hn hs
        rw [if_pos ‹_›]
        exact hu
      · obtain rfl := stored_of_keep hn hs
        rw [if_neg ‹_›]
        exact hu
  | acknowledged | pubrecFailed =>
    rw [Session.finished_frame] at hs
    cases (herase hn).symm.trans hs
  | pubrecReceived _ _ _ _ hs' =>
    rcases hs' with ⟨-, -, rfl⟩ | ⟨-, hu, _, -, -, ⟨-, rfl⟩ | ⟨-, -, p, -, rfl⟩⟩
    · cases (herase hn).symm.trans hs
    · cases (herase hn).symm.trans hs
    · obtain rfl := stored_of_keep (herase hn) hs
      exact .inl hu
  | restored => exact .inl (foldl_restore_new _ hn hs)
  | _ => cases hn.symm.trans hs

/-- Only a CONNACK establishes a connection; what is stored then is sent, announced or forgotten. -/
theorem Change.status_cases (h : Change c input s rep) (hs : s.status = .connected) :
    c.status = .connected ∨
      (∃ packet present, packet.connackOf = some present ∧
        (input = .send packet ∨ input = .receive packet)) ∧ rep.errors = [] ∧
      ∀ u stored, c.session.stored u = some stored →
        stored.toPacket ∈ rep.requested ∨ u ∈ rep.released ∨ Forgets c u stored input := by
  cases h with
  | refused _ hst => exact .inl (hst hs)
  | idle _ hst => exact .inl (hst hs)
  | @connectSent packet clean => cases clean <;> cases hs
  | @connectReceived packet clean => cases clean <;> cases hs
  | connackSent h' _ hres =>
    refine .inr ⟨⟨_, _, h', .inl rfl⟩, rfl, fun u stored hu ↦ ?_⟩
    exact (stored_of_resends hres hu).imp (fun h ↦ List.mem_cons_of_mem _ h.2) .inl
  | connackResumes h' hres =>
    refine .inr ⟨⟨_, _, h', .inr rfl⟩, rfl, fun u stored hu ↦ ?_⟩
    exact (stored_of_resends hres hu).imp And.right .inl
  | connackAnew h' =>
    exact .inr ⟨⟨_, _, h', .inr rfl⟩, rfl, fun u stored _ ↦ .inr (.inr (.sessionDenied h'))⟩
  | publishWithdrawn _ _ _ hs' =>
    rcases hs' with ⟨-, rfl⟩ | ⟨-, -, _, -, -, rfl⟩ <;> exact .inl hs
  | published _ _ _ _ hs' =>
    rw [Session.counted_frame] at hs
    rcases hs' with ⟨-, rfl⟩ | ⟨-, -, _, -, -, rfl⟩ <;> exact .inl hs
  | pubrelSent _ _ hs' =>
    rcases hs' with ⟨-, rfl⟩ | ⟨-, -, _, -, rfl⟩ <;> split at hs <;> exact .inl hs
  | publishDropped _ _ _ _ hst => exact .inl (hst hs)
  | acknowledged | pubrecFailed =>
    rw [Session.finished_frame] at hs
    exact .inl hs
  | pubrecReceived _ _ _ _ hs' =>
    rcases hs' with ⟨-, -, rfl⟩ | ⟨-, -, _, -, -, ⟨-, rfl⟩ | ⟨-, -, _, -, rfl⟩⟩ <;> exact .inl hs
  | closed => cases hs
  | restored =>
    rw [foldl_restore_frame] at hs
    exact .inl hs
  | _ => exact .inl hs

end MqttProtocolCore.Connection.GenericConnection
