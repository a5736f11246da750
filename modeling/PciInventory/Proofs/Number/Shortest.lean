import PciInventory.Proofs.Number.Value

/-!
# Digits that read back

Around a number of the format lies an interval of quantities that are rounded to it. It reaches half
the way to the number above, half the way to the number below, and has its two ends if the
significand is even. The digits that are chosen for a positive number lie in that interval. Of those
with up to sixteen places this is checked when they are chosen; seventeen places are near enough
always, because they are off by no more than half of the last of them, which is less than a quarter
of `2 ^ 52` parts of the number and less than half of `2 ^ 53` parts.

That no fewer digits would do is not said here.
-/
namespace PciInventory

open Fraction

namespace Binary64

/-- Half the way from a number of the format down to the one below. -/
def halfBelow (m : Nat) (e : Int) : ℚ :=
  if m = 2 ^ 52 ∧ lowestExponent < e then 2 ^ e / 4 else 2 ^ e / 2

section Kept
variable {m m' : Nat} {e e' : Int} {q : ℚ}

theorem halfBelow_pos (m : Nat) (e : Int) : 0 < halfBelow m e := by
  unfold halfBelow
  split <;> positivity

theorem magnitude_succ (m : Nat) (e : Int) : magnitude (m + 1) e = magnitude m e + 2 ^ e := by
  rw [magnitude, magnitude]
  push_cast
  ring

theorem two_zpow_eq (e : Int) : (2 : ℚ) ^ e = 2 * 2 ^ (e - 1) := by
  rw [← two_zpow_succ, sub_add_cancel]

/-- A number above another one is a whole step above it. -/
theorem IsKept.add_step_le (h : IsKept m e) (h' : IsKept m' e')
    (above : magnitude m e < magnitude m' e') : magnitude m e + 2 ^ e ≤ magnitude m' e' := by
  rw [← magnitude_succ]
  exact h.le_of_lt h' above

/-- A number below another one is at least twice as far below as half the way down reaches. -/
theorem IsKept.le_sub_halfBelow (h : IsKept m e) (h' : IsKept m' e')
    (lower : magnitude m' e' < magnitude m e) :
    magnitude m' e' ≤ magnitude m e - 2 * halfBelow m e := by
  have next {k : Nat} {p : Int} (kept : IsKept k p) (same : magnitude (k + 1) p = magnitude m e) :
      magnitude m' e' ≤ magnitude m e - 2 ^ p := by
    rw [← same, magnitude_succ, add_sub_cancel_right]
    by_contra beyond
    have := kept.le_of_lt h' (not_le.1 beyond)
    rw [same] at this
    exact absurd lower (not_lt.2 this)
  have low := h.low
  have high := h.high
  unfold halfBelow
  split
  · rename_i least
    have kept : IsKept (2 ^ 53 - 1) (e - 1) :=
      ⟨by decide, by omega, by omega, fun _ => by decide⟩
    have below := next kept (by
      rw [magnitude, magnitude, two_zpow_eq e, least.1]
      push_cast
      ring)
    linarith [two_zpow_eq e]
  · rename_i other
    have some : 0 < m := by
      by_contra none
      obtain rfl : m = 0 := by omega
      have zero : magnitude 0 e = 0 := by simp [magnitude]
      rw [zero] at lower
      exact absurd lower (not_lt.2 (magnitude_nonneg m' e'))
    have full := h.full
    have small := h.small
    have kept : IsKept (m - 1) e := by
      refine ⟨by omega, low, high, fun higher => ?_⟩
      have := full higher
      have : m ≠ 2 ^ 52 := fun least => other ⟨least, by omega⟩
      omega
    have below := next kept (by rw [Nat.sub_add_cancel some])
    linarith

/-- What lies between the two half ways is nearest to the number between them; the half ways
themselves are, if its significand is even. -/
theorem IsKept.isNearest (h : IsKept m e)
    (low : magnitude m e - halfBelow m e ≤ q) (high : q ≤ magnitude m e + 2 ^ e / 2)
    (inside : m % 2 = 1 → magnitude m e - halfBelow m e < q ∧ q < magnitude m e + 2 ^ e / 2) :
    IsNearest q m e := by
  have near {m' : Nat} {e' : Int} (h' : IsKept m' e') (other : magnitude m' e' ≠ magnitude m e) :
      |q - magnitude m e| ≤ |q - magnitude m' e'| ∧
        (m % 2 = 1 → |q - magnitude m e| < |q - magnitude m' e'|) := by
    have step : (0 : ℚ) < 2 ^ e := by positivity
    have half := halfBelow_pos m e
    rcases lt_or_gt_of_ne other with lower | above
    · have gap := h.le_sub_halfBelow h' lower
      rw [abs_of_pos (by linarith : 0 < q - magnitude m' e')]
      refine ⟨abs_le.2 ⟨by linarith, by linarith⟩, fun odd => ?_⟩
      have := (inside odd).1
      exact abs_lt.2 ⟨by linarith, by linarith⟩
    · have gap := h.add_step_le h' above
      rw [abs_of_neg (by linarith : q - magnitude m' e' < 0)]
      refine ⟨abs_le.2 ⟨by linarith, by linarith⟩, fun odd => ?_⟩
      have := (inside odd).2
      exact abs_lt.2 ⟨by linarith, by linarith⟩
  refine ⟨h, fun m' e' h' => ?_, fun m' e' h' tie other => ?_⟩
  · by_cases same : magnitude m' e' = magnitude m e
    · rw [same]
    · exact (near h' same).1
  · by_contra odd
    exact absurd tie ((near h' other).2 (by omega)).ne

theorem IsKept.add_half_le_bound (h : IsKept m e) : magnitude m e + 2 ^ e / 2 ≤ overflowBound := by
  have power : (2 : ℚ) ^ e ≤ 2 ^ highestExponent := two_zpow_le h.high
  have small : (m : ℚ) + 1 ≤ 2 ^ 53 := by exact_mod_cast h.small
  rw [bound_eq]
  calc magnitude m e + 2 ^ e / 2 = (m + 1 / 2) * 2 ^ e := by
        rw [magnitude]
        ring
    _ ≤ (2 ^ 53 - 1 / 2) * 2 ^ e :=
        mul_le_mul_of_nonneg_right (by linarith) (by positivity)
    _ ≤ (2 ^ 53 - 1 / 2) * 2 ^ highestExponent := mul_le_mul_of_nonneg_left power (by norm_num)

/-- What lies between the two half ways is rounded to the number between them. -/
theorem IsKept.rounds_of_between (h : IsKept m e) (negative : Bool)
    (low : magnitude m e - halfBelow m e ≤ q) (high : q ≤ magnitude m e + 2 ^ e / 2)
    (inside : m % 2 = 1 → magnitude m e - halfBelow m e < q ∧ q < magnitude m e + 2 ^ e / 2) :
    Rounds negative q (.finite negative m e) := by
  refine .finite ?_ (h.isNearest low high inside)
  have bound := h.add_half_le_bound
  refine lt_of_le_of_ne (high.trans bound) fun same => ?_
  -- an even significand is not the last one, so its half way is below the bound
  by_cases odd : m % 2 = 1
  · exact absurd (same ▸ (inside odd).2) (not_lt.2 bound)
  · have small := h.small
    have next : IsKept (m + 1) e :=
      ⟨by omega, h.low, h.high, fun higher => (h.full higher).trans (Nat.le_succ m)⟩
    have further := next.add_half_le_bound
    rw [magnitude_succ] at further
    have step : (0 : ℚ) < 2 ^ e := by positivity
    linarith

end Kept

end Binary64

namespace DecimalDigits

open Binary64

variable {m : Nat} {e : Int}

theorem value_ofSignificand (m : Nat) (e : Int) : (ofSignificand m e).value = magnitude m e := by
  rw [ofSignificand, value_scale _ (by decide), Fraction.value, magnitude]
  norm_num

theorem value_toFraction (d : DecimalDigits) :
    d.toFraction.value = d.coefficient * 10 ^ d.power := by
  rw [toFraction, value_scale _ (by decide), Fraction.value]
  norm_num

theorem den_toFraction_pos (d : DecimalDigits) : 0 < d.toFraction.den :=
  den_scale_pos Nat.one_pos (by decide) _

theorem value_upperEnd (m : Nat) (e : Int) : (upperEnd m e).value = magnitude m e + 2 ^ e / 2 := by
  rw [upperEnd, value_ofSignificand, magnitude, magnitude, two_zpow_eq e]
  push_cast
  ring

theorem value_lowerEnd (hm : 0 < m) (e : Int) :
    (lowerEnd m e).value = magnitude m e - halfBelow m e := by
  unfold lowerEnd halfBelow
  rw [show Nat.pow 2 52 = 2 ^ 52 by rfl]
  split
  · have quarter : (2 : ℚ) ^ e = 4 * 2 ^ (e - 2) := by
      rw [two_zpow_eq e, two_zpow_eq (e - 1), show e - 1 - 1 = e - 2 by omega]
      ring
    rw [value_ofSignificand, magnitude, magnitude, quarter, Nat.cast_sub (by omega)]
    push_cast
    ring
  · rw [value_ofSignificand, magnitude, magnitude, two_zpow_eq e, Nat.cast_sub (by omega)]
    push_cast
    ring

/-- The check of a fraction is whether it lies in the interval of what is rounded to a number. -/
theorem roundsTo_iff (hm : 0 < m) {f : Fraction} (hd : 0 < f.den) : roundsTo f m e = true ↔
    magnitude m e - halfBelow m e ≤ f.value ∧ f.value ≤ magnitude m e + 2 ^ e / 2 ∧
      (m % 2 = 1 → magnitude m e - halfBelow m e < f.value ∧
        f.value < magnitude m e + 2 ^ e / 2) := by
  have lowDen : 0 < (lowerEnd m e).den := by
    unfold lowerEnd
    split <;> exact den_scale_pos Nat.one_pos (by decide) _
  have highDen : 0 < (upperEnd m e).den := den_scale_pos Nat.one_pos (by decide) _
  have low : (lowerEnd m e).below f = true ↔ magnitude m e - halfBelow m e < f.value := by
    rw [below_iff lowDen hd, value_lowerEnd hm]
  have low' : f.below (lowerEnd m e) = true ↔ f.value < magnitude m e - halfBelow m e := by
    rw [below_iff hd lowDen, value_lowerEnd hm]
  have high : f.below (upperEnd m e) = true ↔ f.value < magnitude m e + 2 ^ e / 2 := by
    rw [below_iff hd highDen, value_upperEnd]
  have high' : (upperEnd m e).below f = true ↔ magnitude m e + 2 ^ e / 2 < f.value := by
    rw [below_iff highDen hd, value_upperEnd]
  unfold roundsTo
  split
  · rename_i even
    simp only [Bool.and_eq_true, Bool.not_eq_true', Bool.eq_false_iff, ne_eq, low', high', not_lt]
    exact ⟨fun ⟨l, h⟩ => ⟨l, h, fun odd => by omega⟩, fun ⟨l, h, _⟩ => ⟨l, h⟩⟩
  · rename_i odd
    simp only [Bool.and_eq_true, low, high]
    exact ⟨fun ⟨l, h⟩ => ⟨l.le, h.le, fun _ => ⟨l, h⟩⟩, fun ⟨_, _, inside⟩ => inside (by omega)⟩

theorem roundsTo_of_atPower? {power : Int} {d : DecimalDigits} (h : atPower? m e power = some d) :
    roundsTo d.toFraction m e = true := by
  have near (f : Fraction) : f.round = f.num / f.den ∨ f.round = f.num / f.den + 1 := by
    simp only [Fraction.round, roundQuotient]
    repeat' split
    all_goals simp
  simp only [atPower?] at h
  split at h
  · rename_i low high
    cases h
    rcases near ((ofSignificand m e).scale 10 (-power)) with down | up
    · rw [down]
      exact low
    · rw [up]
      exact high
  · rename_i low _
    cases h
    exact low
  · rename_i _ high
    cases h
    exact high
  · cases h

/-- A number rounded to some places is off by at most half of the last of them. -/
theorem abs_sub_rounded (places : Nat) (hm : 0 < m) (e : Int) :
    |magnitude m e - (rounded places m e).toFraction.value| ≤
      10 ^ (rounded places m e).power / 2 := by
  obtain ⟨-, hd⟩ := ofSignificand_pos hm e
  rw [value_toFraction, rounded]
  simp only
  generalize decade (ofSignificand m e) - (places : Int) + 1 = power
  have positive : (0 : ℚ) < 10 ^ power := by positivity
  obtain ⟨near, -⟩ := abs_sub_round (den_scale_pos hd (by decide : 0 < 10) (-power))
  have scaled : magnitude m e = ((ofSignificand m e).scale 10 (-power)).value * 10 ^ power := by
    rw [value_scale _ (by decide), value_ofSignificand, Nat.cast_ofNat, zpow_neg,
      inv_mul_cancel_right₀ positive.ne']
  rw [scaled, ← sub_mul, abs_mul, abs_of_pos positive]
  linarith [mul_le_mul_of_nonneg_right near positive.le]

/-- Seventeen places are enough for every number. -/
theorem roundsTo_rounded (h : IsKept m e) (hm : 0 < m) :
    roundsTo (rounded 17 m e).toFraction m e = true := by
  have step : (0 : ℚ) < 2 ^ e := by positivity
  have off := abs_le.1 (abs_sub_rounded 17 hm e)
  obtain ⟨hn, hd⟩ := ofSignificand_pos hm e
  have leading := pow_decade_le hn hd
  have last : (10 : ℚ) ^ (rounded 17 m e).power * 10 ^ 16 ≤ magnitude m e := by
    have power : (rounded 17 m e).power = decade (ofSignificand m e) - (16 : Nat) := by
      change decade (ofSignificand m e) - (17 : Nat) + 1 = _
      omega
    rw [power, zpow_sub₀ (by norm_num), zpow_natCast, div_mul_cancel₀ _ (by positivity),
      ← value_ofSignificand]
    exact leading
  generalize (10 : ℚ) ^ (rounded 17 m e).power = place at off last
  have small : (m : ℚ) < 2 ^ 53 := by exact_mod_cast h.small
  have less : place / 2 < halfBelow m e := by
    unfold halfBelow
    split
    · rename_i least
      have exactly : magnitude m e = 2 ^ 52 * 2 ^ e := by
        rw [magnitude, least.1]
        norm_num
      linarith
    · have most : magnitude m e < 2 ^ 53 * 2 ^ e := mul_lt_mul_of_pos_right small step
      linarith
  have shorter : halfBelow m e ≤ 2 ^ e / 2 := by
    unfold halfBelow
    split <;> linarith
  rw [roundsTo_iff hm (den_toFraction_pos _)]
  exact ⟨by linarith, by linarith, fun _ => ⟨by linarith, by linarith⟩⟩

theorem roundsTo_shortest (h : IsKept m e) (hm : 0 < m) :
    roundsTo (shortest m e).toFraction m e = true := by
  unfold shortest
  simp only
  cases found : (List.range 17).findSome? fun k : Nat =>
      atPower? m e (decade (ofSignificand m e) - (k : Int)) with
  | none => exact roundsTo_rounded h hm
  | some d =>
    obtain ⟨k, -, at_k⟩ := List.exists_of_findSome?_eq_some found
    exact roundsTo_of_atPower? at_k

/-- What the digits of a number are worth is rounded to the number. -/
theorem rounds_shortest (h : IsKept m e) (hm : 0 < m) (negative : Bool) :
    Rounds negative ((shortest m e).coefficient * 10 ^ (shortest m e).power)
      (.finite negative m e) := by
  obtain ⟨low, high, inside⟩ :=
    (roundsTo_iff hm (den_toFraction_pos _)).1 (roundsTo_shortest h hm)
  rw [← value_toFraction]
  exact h.rounds_of_between negative low high inside

end DecimalDigits

end PciInventory
