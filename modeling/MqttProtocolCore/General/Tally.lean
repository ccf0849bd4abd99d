import Mathlib.Data.Nat.Notation
import Mathlib.Tactic.ByContra

namespace MqttProtocolCore.General

/-- Where an item is that is handed over against a receipt: how many offers of it are on their way,
how many receipts are owed for it, and how many are on their way back; whether the sender waits for a
receipt, and whether the receiver was told of the item. -/
structure Tally where
  offers : ℕ
  owed : ℕ
  receipts : ℕ
  underWay : Prop
  heard : Prop

namespace Tally

variable {t t' : Tally} {sent got told taken : ℕ}

def around (t : Tally) : ℕ := t.offers + t.owed + t.receipts

/-- An item is outside the sender once at most and only while the sender waits, and there are
receipts only for what the receiver was told of. -/
structure Sound (t : Tally) : Prop where
  once : t.around ≤ 1
  sent : 0 < t.around → t.underWay
  told : 0 < t.owed + t.receipts → t.heard

/-- The sender has got receipts and offers the item, which it does only when nothing of it is
outside; it stops to wait for a receipt or when nothing is outside. -/
structure Moves (sent got : ℕ) (t t' : Tally) : Prop where
  offers : t'.offers = t.offers + sent
  owed : t'.owed = t.owed
  receipts : t.receipts = got + t'.receipts
  fresh : 0 < sent → sent ≤ 1 ∧ t.around = 0 ∧ t'.underWay
  ended : t.underWay → ¬ t'.underWay → t.around = 0 ∨ 0 < got
  heard : t.heard → t'.underWay → t'.heard

/-- The receiver has taken offers, is told of the item for some of them, and owes or sends receipts
for no more. -/
structure Serves (taken told : ℕ) (t t' : Tally) : Prop where
  offers : t.offers = taken + t'.offers
  receipts : t'.owed + t'.receipts ≤ t.owed + t.receipts + told
  within : told ≤ taken
  underWay : t'.underWay ↔ t.underWay
  heard : t.heard ∨ 0 < told → t'.heard

theorem sound_quiet (h : t.around = 0) : t.Sound := by
  have hsum : t.offers + t.owed + t.receipts = 0 := h
  refine ⟨by omega, fun hpos ↦ by omega, fun hpos ↦ by omega⟩

theorem Sound.moves (h : t.Sound) (hm : Moves sent got t t') : t'.Sound := by
  have hoffers := hm.offers
  have howed := hm.owed
  have hreceipts := hm.receipts
  have honce := h.once
  have hunder : 0 < t'.around → t'.underWay := by
    intro hpos
    by_cases hsent : 0 < sent
    · exact (hm.fresh hsent).2.2
    · have hbefore : 0 < t.around := by
        unfold around at hpos ⊢
        omega
      by_contra hno
      rcases hm.ended (h.sent hbefore) hno with hquiet | hgot
      · omega
      · unfold around at hpos honce
        omega
  refine ⟨?_, hunder, fun hpos ↦ ?_⟩
  · by_cases hsent : 0 < sent
    · obtain ⟨hone, hquiet, -⟩ := hm.fresh hsent
      unfold around at hquiet ⊢
      omega
    · unfold around at honce ⊢
      omega
  · refine hm.heard (h.told (by omega)) (hunder ?_)
    unfold around
    omega

theorem Sound.serves (h : t.Sound) (hs : Serves taken told t t') : t'.Sound := by
  have hoffers := hs.offers
  have hreceipts := hs.receipts
  have htold := hs.within
  have honce := h.once
  refine ⟨?_, fun hpos ↦ ?_, fun hpos ↦ ?_⟩
  · unfold around at honce ⊢
    omega
  · apply hs.underWay.mpr
    apply h.sent
    unfold around at hpos ⊢
    omega
  · apply hs.heard
    by_cases hnew : 0 < told
    · exact .inr hnew
    · left
      apply h.told
      omega

/-- A receipt on its way is for an item that the receiver was told of. -/
theorem Sound.of_receipts (h : t.Sound) (hpos : 0 < t.receipts) : t.underWay ∧ t.heard := by
  constructor
  · apply h.sent
    unfold around
    omega
  · apply h.told
    omega

theorem Sound.of_offers (h : t.Sound) (hpos : 0 < t.offers) : t.underWay := by
  apply h.sent
  unfold around
  omega

end Tally

end MqttProtocolCore.General
