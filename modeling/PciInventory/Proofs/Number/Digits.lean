import Mathlib.Algebra.Order.Field.Power
import Mathlib.Data.Rat.Cast.Order
import Mathlib.Tactic.NormNum
import Mathlib.Tactic.Positivity
import Mathlib.Tactic.Ring
import PciInventory.Number.Digits

/-!
# The digits of a number start with a digit

The digits that are chosen for a positive number, in either way, are not all zeros: zero does not
round to the number, and a count of significant digits starts at the number's own power of ten.

Nothing is said here of how near the digits come to the number.
-/
namespace PciInventory

namespace Fraction

/-- The number that a fraction is. -/
def value (f : Fraction) : ℚ := f.num / f.den

theorem den_scale_pos {f : Fraction} (hf : 0 < f.den) {base : Nat} (hb : 0 < base) (p : Int) :
    0 < (f.scale base p).den := by
  unfold scale
  split
  · exact hf
  · exact Nat.mul_pos hf (Nat.pow_pos hb)

theorem num_scale_pos {f : Fraction} (hf : 0 < f.num) {base : Nat} (hb : 0 < base) (p : Int) :
    0 < (f.scale base p).num := by
  unfold scale
  split
  · exact Nat.mul_pos hf (Nat.pow_pos hb)
  · exact hf

theorem value_scale (f : Fraction) {base : Nat} (hb : 0 < base) (p : Int) :
    (f.scale base p).value = f.value * (base : ℚ) ^ p := by
  have apart : (base : ℚ) ≠ 0 := by positivity
  unfold scale
  split
  · rename_i up
    have power : (base : ℚ) ^ p = (base : ℚ) ^ p.toNat := by
      rw [← zpow_natCast, Int.toNat_of_nonneg up]
    rw [value, value, power]
    push_cast [Nat.pow_eq]
    ring
  · rename_i down
    have power : (base : ℚ) ^ p = ((base : ℚ) ^ (-p).toNat)⁻¹ := by
      rw [← zpow_natCast, Int.toNat_of_nonneg (by omega), zpow_neg, inv_inv]
    rw [value, value, power]
    push_cast [Nat.pow_eq]
    rw [div_mul_eq_div_div, div_eq_mul_inv]

theorem below_iff {f g : Fraction} (hf : 0 < f.den) (hg : 0 < g.den) :
    f.below g = true ↔ f.value < g.value := by
  rw [below, decide_eq_true_iff, value, value, div_lt_div_iff₀ (by positivity) (by positivity)]
  exact_mod_cast Iff.rfl

theorem div_le_round (f : Fraction) : f.num / f.den ≤ f.round := by
  simp only [round, roundQuotient]
  repeat' split
  all_goals omega

theorem round_pos {f : Fraction} (hf : 0 < f.den) (h : 1 ≤ f.value) : 0 < f.round := by
  have whole : f.den ≤ f.num := by
    rw [value, le_div_iff₀ (by positivity), one_mul] at h
    exact_mod_cast h
  exact Nat.lt_of_lt_of_le (Nat.div_pos whole hf) f.div_le_round

end Fraction

namespace DecimalDigits

open Fraction

theorem lt_pow_count (n : Nat) : n < 10 ^ count n :=
  (Nat.length_toDigits_le_iff (by decide) Nat.length_toDigits_pos).1 (Nat.le_refl _)

theorem pow_count_sub_one_le {n : Nat} (h : 0 < n) : 10 ^ (count n - 1) ≤ n := by
  by_cases one : count n - 1 = 0
  · rw [one]
    exact h
  · refine Nat.le_of_not_lt fun small => ?_
    have shorter : count n ≤ count n - 1 :=
      (Nat.length_toDigits_le_iff (by decide) (Nat.pos_of_ne_zero one)).2 small
    omega

/-- The power of ten that is found for a fraction is not above it. -/
theorem pow_decade_le {f : Fraction} (hn : 0 < f.num) (hd : 0 < f.den) :
    (10 : ℚ) ^ decade f ≤ f.value := by
  unfold decade
  simp only
  split
  · rename_i below
    have top : (10 : ℚ) ^ (count f.num - 1) ≤ f.num := by exact_mod_cast pow_count_sub_one_le hn
    have bottom : (f.den : ℚ) ≤ 10 ^ count f.den := by
      exact_mod_cast Nat.le_of_lt (lt_pow_count f.den)
    have some : 1 ≤ count f.num := Nat.length_toDigits_pos
    have power : (count f.num : Int) - count f.den - 1 =
        ((count f.num - 1 : Nat) : Int) - (count f.den : Nat) := by omega
    rw [power, zpow_sub₀ (by norm_num), zpow_natCast, zpow_natCast, value]
    exact div_le_div₀ (by positivity) top (by positivity) bottom
  · rename_i above
    have unit : (⟨1, 1⟩ : Fraction).value = 1 := by norm_num [value]
    rw [below_iff hd (den_scale_pos Nat.one_pos (by decide) _), value_scale _ (by decide), unit,
      one_mul, not_lt] at above
    exact_mod_cast above

section Chosen
variable {m : Nat} (hm : 0 < m) (e : Int)
include hm

theorem ofSignificand_pos : 0 < (ofSignificand m e).num ∧ 0 < (ofSignificand m e).den :=
  ⟨num_scale_pos hm (by decide) e, den_scale_pos Nat.one_pos (by decide) e⟩

theorem coefficient_rounded_pos {places : Nat} (some : 0 < places) :
    0 < (rounded places m e).coefficient := by
  obtain ⟨hn, hd⟩ := ofSignificand_pos hm e
  refine round_pos (den_scale_pos hd (by decide) _) ?_
  rw [value_scale _ (by decide)]
  have power : -(decade (ofSignificand m e) - (places : Int) + 1) =
      -decade (ofSignificand m e) + (places - 1 : Nat) := by omega
  have apart : (10 : ℚ) ^ decade (ofSignificand m e) ≠ 0 := by positivity
  calc (1 : ℚ) ≤ 10 ^ (places - 1) := one_le_pow₀ (by norm_num)
    _ = 10 ^ decade (ofSignificand m e) *
        (10 ^ (-decade (ofSignificand m e)) * 10 ^ (places - 1)) := by
      rw [zpow_neg, mul_inv_cancel_left₀ apart]
    _ ≤ (ofSignificand m e).value *
        (10 ^ (-decade (ofSignificand m e)) * 10 ^ (places - 1)) := by
      gcongr
      exact pow_decade_le hn hd
    _ = _ := by
      rw [power]
      push_cast
      rw [zpow_add₀ (by norm_num), zpow_natCast]

theorem roundsTo_eq_false {f : Fraction} (zero : f.num = 0) (hf : 0 < f.den) :
    roundsTo f m e = false := by
  have low : 0 < (lowerEnd m e).num := by
    unfold lowerEnd
    split
    · exact (ofSignificand_pos (by omega) _).1
    · exact (ofSignificand_pos (by omega) _).1
  have below : f.below (lowerEnd m e) = true := by
    simp [Fraction.below, zero, low, hf]
  have above : (lowerEnd m e).below f = false := by
    simp [Fraction.below, zero]
  unfold roundsTo
  split
  · simp [below]
  · simp [above]

theorem coefficient_atPower?_pos {power : Int} {d : DecimalDigits}
    (h : atPower? m e power = some d) : 0 < d.coefficient := by
  have low {k : Nat} (reads : roundsTo (toFraction ⟨k, power⟩) m e = true) : 0 < k := by
    refine Nat.pos_of_ne_zero fun zero => ?_
    have none : (toFraction ⟨k, power⟩).num = 0 := by
      simp only [toFraction, Fraction.scale, zero]
      split <;> simp
    rw [roundsTo_eq_false hm e none (den_scale_pos Nat.one_pos (by decide) _)] at reads
    cases reads
  simp only [atPower?] at h
  split at h
  · rename_i reads _
    cases h
    exact Nat.lt_of_lt_of_le (low reads) (div_le_round _)
  · rename_i reads _
    cases h
    exact low reads
  · cases h
    exact Nat.succ_pos _
  · cases h

/-- The fewest digits that read back are not all zeros. -/
theorem coefficient_shortest_pos : 0 < (shortest m e).coefficient := by
  unfold shortest
  simp only
  cases found : (List.range 17).findSome? fun k : Nat =>
      atPower? m e (decade (ofSignificand m e) - (k : Int)) with
  | none => exact coefficient_rounded_pos hm e (by decide)
  | some d =>
    obtain ⟨k, -, at_k⟩ := List.exists_of_findSome?_eq_some found
    exact coefficient_atPower?_pos hm e at_k

end Chosen

end DecimalDigits

end PciInventory
