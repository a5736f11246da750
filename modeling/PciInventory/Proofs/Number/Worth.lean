import Mathlib.Tactic.FieldSimp
import PciInventory.Proofs.Number.Grammar
import PciInventory.Proofs.Number.Rounding

/-!
# What a decimal literal is worth

A literal is worth what its digits in front of the point and after it say, times its power of ten.
The binary64 number of a literal is what that quantity is rounded to; the two short cuts, for powers
of ten that are very high or very low, give what rounding would give.
-/
namespace PciInventory

namespace Text

theorem digitsToNat_append_singleton (t : Text) (c : Char) :
    digitsToNat (t ++ [c]) = 10 * digitsToNat t + (digitValue? c).getD 0 := by
  rw [digitsToNat, List.foldl_append]
  rfl

/-- Digits in front of others count as many times more as there are places for the others. -/
theorem digitsToNat_append (a b : Text) :
    digitsToNat (a ++ b) = digitsToNat a * 10 ^ b.length + digitsToNat b := by
  induction b using List.reverseRecOn with
  | nil => simp [digitsToNat]
  | append_singleton b c ih =>
    rw [← List.append_assoc, digitsToNat_append_singleton, ih, digitsToNat_append_singleton,
      List.length_append, List.length_singleton, pow_succ]
    ring

theorem digitsToNat_lt (t : Text) : digitsToNat t < 10 ^ t.length := by
  induction t using List.reverseRecOn with
  | nil => decide
  | append_singleton t c ih =>
    have digit : (digitValue? c).getD 0 < 10 := by
      cases h : digitValue? c with
      | none => decide
      | some n =>
        obtain ⟨-, -, -, small⟩ := exists_zero h
        exact small
    rw [digitsToNat_append_singleton, List.length_append, List.length_singleton, pow_succ]
    omega

end Text

namespace Literal
variable (l : Literal)

/-- What a literal is worth, apart from its sign. -/
def worth : ℚ :=
  (Text.digitsToNat l.whole + Text.digitsToNat l.fraction / 10 ^ l.fraction.length) * 10 ^ l.power

theorem worth_eq : l.worth = l.coefficient * (10 : ℚ) ^ l.exponent := by
  have ten : (10 : ℚ) ≠ 0 := by norm_num
  have places : (10 : ℚ) ^ l.exponent = 10 ^ l.power / 10 ^ l.fraction.length := by
    rw [exponent, zpow_sub₀ ten, zpow_natCast]
  have nonzero : (10 : ℚ) ^ l.fraction.length ≠ 0 := pow_ne_zero _ ten
  rw [worth, coefficient, Text.digitsToNat_append, places]
  push_cast
  field_simp

theorem worth_nonneg : 0 ≤ l.worth := by
  rw [worth_eq]
  positivity

/-- A literal with digits whose power of ten is high is beyond every finite number. -/
theorem le_worth (some : l.coefficient ≠ 0) (high : 309 ≤ l.exponent) :
    (Binary64.overflowBound : ℚ) ≤ l.worth := by
  have bound : Binary64.overflowBound ≤ 10 ^ 309 := by decide +kernel
  have first : (1 : ℚ) ≤ l.coefficient := by exact_mod_cast Nat.one_le_iff_ne_zero.2 some
  rw [worth_eq]
  calc (Binary64.overflowBound : ℚ) ≤ ((10 ^ 309 : Nat) : ℚ) := Nat.cast_le.2 bound
    _ = (10 : ℚ) ^ (309 : Int) := by rw [Nat.cast_pow]; rfl
    _ ≤ 10 ^ l.exponent := zpow_le_zpow_right₀ (by norm_num) high
    _ ≤ l.coefficient * 10 ^ l.exponent := le_mul_of_one_le_left (by positivity) first

theorem worth_le (low : (l.whole ++ l.fraction).length + l.exponent ≤ -324) :
    2 * l.worth ≤ 2 ^ Binary64.lowestExponent := by
  have ten : (10 : ℚ) ≠ 0 := by norm_num
  have digits : (l.coefficient : ℚ) ≤ (10 : ℚ) ^ ((l.whole ++ l.fraction).length : Int) := by
    rw [zpow_natCast]
    exact_mod_cast (Text.digitsToNat_lt _).le
  have top : l.worth ≤ (10 : ℚ) ^ (-324 : Int) := by
    rw [worth_eq]
    calc l.coefficient * (10 : ℚ) ^ l.exponent
        ≤ 10 ^ ((l.whole ++ l.fraction).length : Int) * 10 ^ l.exponent :=
          mul_le_mul_of_nonneg_right digits (by positivity)
      _ = 10 ^ ((l.whole ++ l.fraction).length + l.exponent) := (zpow_add₀ ten _ _).symm
      _ ≤ 10 ^ (-324 : Int) := zpow_le_zpow_right₀ (by norm_num) low
  have step : (2 : ℚ) ^ Binary64.lowestExponent = 2 * 2 ^ (-1075 : Int) := by
    rw [show Binary64.lowestExponent = -1075 + 1 by rfl, Binary64.two_zpow_succ]
  have powers : (10 : ℚ) ^ (-324 : Int) ≤ 2 ^ (-1075 : Int) := by
    have whole : 2 ^ 1075 ≤ 10 ^ 324 := by decide +kernel
    have both : ((2 ^ 1075 : Nat) : ℚ) ≤ (10 ^ 324 : Nat) := Nat.cast_le.2 whole
    rw [Nat.cast_pow, Nat.cast_pow] at both
    exact inv_anti₀ (pow_pos two_pos 1075) both
  rw [step]
  linarith

/-- The binary64 number of a literal is what it is worth, rounded. -/
theorem rounds_toBinary64 : Binary64.Rounds l.negative l.worth l.toBinary64 := by
  rw [toBinary64]
  by_cases none : l.coefficient = 0
  · have zero : l.worth = 0 := by rw [worth_eq, none, Nat.cast_zero, zero_mul]
    rw [if_pos none, zero]
    refine Binary64.rounds_zero _ le_rfl ?_
    rw [mul_zero]
    positivity
  · rw [if_neg none]
    by_cases high : 309 ≤ l.exponent
    · rw [if_pos high]
      exact .infinite (l.le_worth none high)
    · rw [if_neg high]
      by_cases low : (l.whole ++ l.fraction).length + l.exponent ≤ -324
      · rw [if_pos low]
        exact Binary64.rounds_zero _ l.worth_nonneg (l.worth_le low)
      · have same : ((⟨l.coefficient, 1⟩ : Fraction).scale 10 l.exponent).value = l.worth := by
          rw [Fraction.value_scale _ (by decide), worth_eq, Fraction.value, Nat.cast_one, div_one]
          rfl
        rw [if_neg low, ← same]
        exact Binary64.rounds_ofFraction _ (Fraction.den_scale_pos Nat.one_pos (by decide) _)

end Literal

end PciInventory
