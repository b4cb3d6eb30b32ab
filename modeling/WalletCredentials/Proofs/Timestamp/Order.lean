import Mathlib.Order.Defs.LinearOrder
import Mathlib.Algebra.Order.Ring.Int
import WalletCredentials.Timestamp.Basic

/-!
# The order of timestamps

Timestamps are ordered by their ranks, and no two of them share a rank. So they form a
chain, in which a time is past exactly where it lies before the present one.
-/

namespace WalletCredentials.Timestamp

theorem rank_injective {a b : Timestamp} (h : a.rank = b.rank) : a = b := by
  obtain ⟨u, l, _, _⟩ := a
  obtain ⟨u', l', _, _⟩ := b
  cases l <;> cases l' <;> simp [rank] at h ⊢ <;> omega

instance : LinearOrder Timestamp where
  le_refl a := Int.le_refl a.rank
  le_trans a b c := Int.le_trans (a := a.rank)
  le_antisymm a b hab hba := rank_injective (Int.le_antisymm hab hba)
  le_total a b := Int.le_total a.rank b.rank
  lt_iff_le_not_ge a b := Int.lt_iff_le_and_not_ge (a := a.rank)
  toDecidableLE := inferInstance
  toDecidableLT := inferInstance
  toDecidableEq := inferInstance
  compare_eq_compareOfLessAndEq a b := by
    have heq : a.rank = b.rank ↔ a = b := ⟨rank_injective, congrArg rank⟩
    change compare a.rank b.rank = if a.rank < b.rank then .lt else if a = b then .eq else .gt
    rw [LinearOrder.compare_eq_compareOfLessAndEq, compareOfLessAndEq]
    simp only [heq]

/-- The seconds of timestamps are in the order of the timestamps. -/
theorem unix_le_of_le {a b : Timestamp} (h : a ≤ b) : a.unix ≤ b.unix := by
  have hrank : a.rank ≤ b.rank := h
  rw [rank, rank] at hrank
  split at hrank <;> split at hrank <;> omega

theorem isPassedAt_eq_false_iff {t now : Timestamp} : t.isPassedAt now = false ↔ now ≤ t := by
  simp [isPassedAt]

end WalletCredentials.Timestamp
