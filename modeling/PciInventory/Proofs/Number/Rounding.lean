import Mathlib.Tactic.Linarith
import PciInventory.Proofs.Number.Digits

/-!
# Rounding to the nearest number

What a quantity is rounded to is said here without saying how it is found: of the finite numbers of
the format one that no other is nearer than, with an even significand if another one is as near, and
infinity from half a step beyond the largest of them on. Rounding a fraction gives such a number,
and there is no second one.

A quantity is taken by its distance from zero, with the sign beside it, since what is rounded to
zero keeps its sign.
-/
namespace PciInventory

/-- A quotient is rounded down or up, to the side that is not further away; to an even number if
neither is. -/
theorem roundQuotient_cases (num : Nat) {den : Nat} (positive : 0 < den) :
    (roundQuotient num den = num / den ∧ 2 * (num % den) ≤ den ∧
      (2 * (num % den) = den → num / den % 2 = 0)) ∨
    (roundQuotient num den = num / den + 1 ∧ den ≤ 2 * (num % den) ∧
      (2 * (num % den) = den → (num / den + 1) % 2 = 0)) := by
  have small : num % den < den := Nat.mod_lt num positive
  simp only [roundQuotient]
  by_cases low : 2 * (num % den) < den
  · rw [if_pos low]
    omega
  · by_cases high : den < 2 * (num % den)
    · rw [if_neg low, if_pos high]
      omega
    · rw [if_neg low, if_neg high]
      by_cases even : num / den % 2 = 0
      · rw [if_pos even]
        omega
      · rw [if_neg even]
        omega

namespace Fraction
variable {f : Fraction}

/-- A fraction is at most half a step from what it is rounded to, and that is even if it is as far
as that. -/
theorem abs_sub_round (hd : 0 < f.den) :
    |f.value - f.round| ≤ 1 / 2 ∧ (|f.value - f.round| = 1 / 2 → f.round % 2 = 0) := by
  have positive : (0 : ℚ) < f.den := by exact_mod_cast hd
  have whole : (f.num : ℚ) = f.den * (f.num / f.den : Nat) + (f.num % f.den : Nat) := by
    exact_mod_cast (Nat.div_add_mod f.num f.den).symm
  have value : f.value = (f.num / f.den : Nat) + (f.num % f.den : Nat) / f.den := by
    rw [Fraction.value, div_eq_iff positive.ne', add_mul, div_mul_cancel₀ _ positive.ne', whole]
    ring
  rw [Fraction.round]
  rcases roundQuotient_cases f.num hd with ⟨down, near, even⟩ | ⟨up, near, even⟩
  · have half : ((f.num % f.den : Nat) : ℚ) / f.den ≤ 1 / 2 := by
      rw [div_le_div_iff₀ positive two_pos]
      exact_mod_cast (by omega : f.num % f.den * 2 ≤ 1 * f.den)
    have distance : f.value - (f.num / f.den : Nat) = (f.num % f.den : Nat) / f.den := by
      rw [value]
      ring
    rw [down, distance, abs_of_nonneg (by positivity)]
    refine ⟨half, fun tie => even ?_⟩
    rw [div_eq_div_iff positive.ne' two_ne_zero] at tie
    have tie' : f.num % f.den * 2 = 1 * f.den := by exact_mod_cast tie
    omega
  · have half : 1 - ((f.num % f.den : Nat) : ℚ) / f.den ≤ 1 / 2 := by
      have : (1 : ℚ) / 2 ≤ (f.num % f.den : Nat) / f.den := by
        rw [div_le_div_iff₀ two_pos positive]
        exact_mod_cast (by omega : 1 * f.den ≤ f.num % f.den * 2)
      linarith
    have below : ((f.num % f.den : Nat) : ℚ) / f.den ≤ 1 := by
      rw [div_le_one₀ positive]
      exact_mod_cast (Nat.mod_lt f.num hd).le
    have distance : f.value - (f.num / f.den + 1 : Nat) =
        -(1 - (f.num % f.den : Nat) / f.den) := by
      rw [value]
      push_cast
      ring
    rw [up, distance, abs_neg, abs_of_nonneg (by linarith)]
    refine ⟨half, fun tie => even ?_⟩
    have tie' : ((f.num % f.den : Nat) : ℚ) / f.den = 1 / 2 := by linarith
    rw [div_eq_div_iff positive.ne' two_ne_zero] at tie'
    have tie'' : f.num % f.den * 2 = 1 * f.den := by exact_mod_cast tie'
    omega

theorem value_nonneg (f : Fraction) : 0 ≤ f.value :=
  div_nonneg (Nat.cast_nonneg _) (Nat.cast_nonneg _)

theorem one_le_abs_sub {a b : Nat} (h : a ≠ b) : (1 : ℚ) ≤ |(a : ℚ) - b| := by
  have apart : (1 : Int) ≤ |(a : Int) - b| := Int.one_le_abs (by omega)
  exact_mod_cast apart

/-- No whole number is nearer to a fraction than the one that it is rounded to, and that is even if
another one is as near. -/
theorem round_nearest (hd : 0 < f.den) (k : Nat) :
    |f.value - f.round| ≤ |f.value - k| ∧
      (|f.value - f.round| = |f.value - k| → k ≠ f.round → f.round % 2 = 0) := by
  obtain ⟨near, even⟩ := abs_sub_round hd
  by_cases same : k = f.round
  · rw [same]
    exact ⟨le_rfl, fun _ other => absurd rfl other⟩
  · have apart := one_le_abs_sub same
    have detour : |(k : ℚ) - f.round| ≤ |f.value - k| + |f.value - f.round| := by
      rw [abs_sub_comm f.value k]
      have := abs_add_le ((k : ℚ) - f.value) (f.value - f.round)
      rwa [sub_add_sub_cancel] at this
    refine ⟨by linarith, fun tie _ => even ?_⟩
    linarith

end Fraction

namespace Binary64

open Fraction

/-- How far `m · 2 ^ e` is from zero. -/
def magnitude (m : Nat) (e : Int) : ℚ := m * 2 ^ e

/-- A significand and an exponent that the format has, in the form in which they are kept. -/
structure IsKept (m : Nat) (e : Int) : Prop where
  small : m < 2 ^ 53
  low : lowestExponent ≤ e
  high : e ≤ highestExponent
  full : e ≠ lowestExponent → 2 ^ 52 ≤ m

/-- A significand and an exponent than which none are nearer to a quantity; the significand is even
if another number is as near. -/
structure IsNearest (q : ℚ) (m : Nat) (e : Int) : Prop where
  kept : IsKept m e
  nearest : ∀ m' e', IsKept m' e' → |q - magnitude m e| ≤ |q - magnitude m' e'|
  even : ∀ m' e', IsKept m' e' → |q - magnitude m e| = |q - magnitude m' e'| →
    magnitude m' e' ≠ magnitude m e → m % 2 = 0

/-- The smallest whole number that is too large: half a step of `2 ^ 971` beyond the largest finite
number, which has 53 ones in front of 971 zeros. -/
def overflowBound : Nat := (2 ^ 54 - 1) * 2 ^ 970

/-- What a quantity with a sign is rounded to. -/
inductive Rounds (negative : Bool) (q : ℚ) : Binary64 → Prop where
  | finite {m : Nat} {e : Int} (below : q < overflowBound) (h : IsNearest q m e) :
      Rounds negative q (.finite negative m e)
  | infinite (beyond : overflowBound ≤ q) : Rounds negative q (.infinite negative)

theorem canonical_finite_iff {negative : Bool} {m : Nat} {e : Int} :
    (finite negative m e).Canonical ↔ IsKept m e := by
  have powers : Nat.pow 2 53 = 2 ^ 53 ∧ Nat.pow 2 52 = 2 ^ 52 := ⟨rfl, rfl⟩
  simp only [Canonical, powers]
  constructor
  · rintro ⟨small, low, high, full⟩
    exact ⟨small, low, high, by omega⟩
  · rintro ⟨small, low, high, full⟩
    exact ⟨small, low, high, by omega⟩

theorem isKept_zero : IsKept 0 lowestExponent :=
  ⟨by decide, le_rfl, by decide, fun other => absurd rfl other⟩

section Kept
variable {m m' : Nat} {e e' p : Int}

theorem magnitude_nonneg (m : Nat) (e : Int) : 0 ≤ magnitude m e := by
  unfold magnitude
  positivity

theorem two_zpow_le (h : e ≤ e') : (2 : ℚ) ^ e ≤ 2 ^ e' := zpow_le_zpow_right₀ one_le_two h

theorem two_zpow_succ (e : Int) : (2 : ℚ) ^ (e + 1) = 2 * 2 ^ e := by
  rw [zpow_add_one₀ two_ne_zero, mul_comm]

/-- A kept number is a whole multiple of a power of two, or it is smaller than every number that has
all its digits in front of that power. -/
theorem IsKept.on_grid (h : IsKept m e) (p : Int) :
    (∃ k : Nat, magnitude m e = k * 2 ^ p) ∨
      (p ≠ lowestExponent ∧ magnitude m e < 2 ^ 52 * 2 ^ p) := by
  by_cases above : p ≤ e
  · left
    refine ⟨m * 2 ^ (e - p).toNat, ?_⟩
    have power : (2 : ℚ) ^ e = 2 ^ (e - p).toNat * 2 ^ p := by
      rw [← zpow_natCast, ← zpow_add₀ two_ne_zero]
      congr 1
      omega
    rw [magnitude, power]
    push_cast
    ring
  · right
    have steps := h.low
    have small : (m : ℚ) < 2 ^ 53 := by exact_mod_cast h.small
    refine ⟨by omega, ?_⟩
    calc magnitude m e < 2 ^ 53 * 2 ^ e := mul_lt_mul_of_pos_right small (by positivity)
      _ = 2 ^ 52 * 2 ^ (e + 1) := by
        rw [two_zpow_succ]
        ring
      _ ≤ 2 ^ 52 * 2 ^ p := by
        gcongr
        · exact one_le_two
        · omega

theorem IsKept.le_of_lt (h : IsKept m e) (h' : IsKept m' e')
    (lt : magnitude m e < magnitude m' e') : magnitude (m + 1) e ≤ magnitude m' e' := by
  have positive : (0 : ℚ) < 2 ^ e := by positivity
  rcases h'.on_grid e with ⟨k, multiple⟩ | ⟨higher, below⟩
  · rw [multiple] at lt ⊢
    have further : (m : ℚ) < k := lt_of_mul_lt_mul_right lt positive.le
    have next : m + 1 ≤ k := by exact_mod_cast further
    rw [magnitude]
    gcongr
  · have full : (2 : ℚ) ^ 52 ≤ m := by exact_mod_cast h.full higher
    have : (2 : ℚ) ^ 52 * 2 ^ e ≤ magnitude m e := by
      rw [magnitude]
      gcongr
    linarith

/-- A number is kept in one form only. -/
theorem IsKept.unique (h : IsKept m e) (h' : IsKept m' e')
    (same : magnitude m e = magnitude m' e') : m = m' ∧ e = e' := by
  have half {m m' : Nat} {e e' : Int} (h : IsKept m e) (h' : IsKept m' e')
      (same : magnitude m e = magnitude m' e') : e' ≤ e := by
    by_contra higher
    have low := h.low
    have steps : (2 : ℚ) ^ e' = 2 ^ (e' - e).toNat * 2 ^ e := by
      rw [← zpow_natCast, ← zpow_add₀ two_ne_zero]
      congr 1
      omega
    have positive : (2 : ℚ) ^ e ≠ 0 := by positivity
    have scaled : m = m' * 2 ^ (e' - e).toNat := by
      rw [magnitude, magnitude, steps, ← mul_assoc, mul_left_inj' positive] at same
      exact_mod_cast same
    have twice : 2 ^ 1 ≤ 2 ^ (e' - e).toNat := Nat.pow_le_pow_right (by decide) (by omega)
    have large := Nat.mul_le_mul (h'.full (by omega)) twice
    have small := h.small
    omega
  have exponents : e = e' := le_antisymm (half h' h same.symm) (half h h' same)
  subst exponents
  have positive : (2 : ℚ) ^ e ≠ 0 := by positivity
  rw [magnitude, magnitude, mul_left_inj' positive] at same
  exact ⟨by exact_mod_cast same, rfl⟩

/-- Of two numbers that are both nearest neither is below the other: between two even significands
there would be an odd one. -/
theorem IsNearest.not_below {q : ℚ} (h : IsNearest q m e) (h' : IsNearest q m' e') :
    ¬ magnitude m e < magnitude m' e' := by
  intro lt
  have tie : |q - magnitude m e| = |q - magnitude m' e'| :=
    le_antisymm (h.nearest m' e' h'.kept) (h'.nearest m e h.kept)
  have even := h.even m' e' h'.kept tie lt.ne'
  have even' := h'.even m e h.kept tie.symm lt.ne
  have room := h.kept.small
  have between : IsKept (m + 1) e :=
    ⟨by omega, h.kept.low, h.kept.high, fun higher => (h.kept.full higher).trans (Nat.le_succ m)⟩
  have above : magnitude m e < magnitude (m + 1) e := by
    unfold magnitude
    gcongr
    exact Nat.lt_succ_self m
  have below : magnitude (m + 1) e < magnitude m' e' := by
    refine lt_of_le_of_ne (h.kept.le_of_lt h'.kept lt) fun same => ?_
    obtain ⟨significands, -⟩ := between.unique h'.kept same
    omega
  have nearer := h.nearest (m + 1) e between
  have middle : q - magnitude m e = magnitude m' e' - q := by
    rcases abs_eq_abs.1 tie with same | opposite
    · linarith
    · linarith
  rw [abs_of_pos (by linarith)] at nearer
  rcases abs_cases (q - magnitude (m + 1) e) with ⟨here, -⟩ | ⟨here, -⟩
  · linarith
  · linarith

theorem IsNearest.unique {q : ℚ} (h : IsNearest q m e) (h' : IsNearest q m' e') :
    m = m' ∧ e = e' :=
  h.kept.unique h'.kept (le_antisymm (not_lt.1 (h'.not_below h)) (not_lt.1 (h.not_below h')))

end Kept

/-- A quantity is rounded to one number only. -/
theorem Rounds.unique {negative : Bool} {q : ℚ} {x y : Binary64} (hx : Rounds negative q x)
    (hy : Rounds negative q y) : x = y := by
  cases hx with
  | finite below h =>
    cases hy with
    | finite below' h' =>
      obtain ⟨rfl, rfl⟩ := h.unique h'
      rfl
    | infinite beyond => exact absurd below (not_lt.2 beyond)
  | infinite beyond =>
    cases hy with
    | finite below h => exact absurd below (not_lt.2 beyond)
    | infinite _ => rfl

theorem Rounds.isFinite_iff {negative : Bool} {q : ℚ} {x : Binary64} (h : Rounds negative q x) :
    x.isFinite = true ↔ q < overflowBound := by
  cases h with
  | finite below h => exact ⟨fun _ => below, fun _ => rfl⟩
  | infinite beyond => exact ⟨nofun, fun below => absurd below (not_lt.2 beyond)⟩

theorem Rounds.canonical {negative : Bool} {q : ℚ} {x : Binary64} (h : Rounds negative q x) :
    x.Canonical := by
  cases h with
  | finite below h => exact canonical_finite_iff.2 h.kept
  | infinite beyond => trivial

theorem bound_eq : (overflowBound : ℚ) = (2 ^ 53 - 1 / 2) * 2 ^ highestExponent := by
  have top : (2 : ℚ) ^ highestExponent = 2 * 2 ^ 970 := by
    rw [highestExponent, show (971 : Int) = ((970 + 1 : Nat) : Int) by rfl, zpow_natCast, pow_succ,
      mul_comm]
  rw [top, overflowBound, Nat.cast_mul, Nat.cast_pow, Nat.cast_ofNat, ← mul_assoc]
  norm_num

theorem one_lt_bound : (1 : ℚ) < overflowBound := by
  have top : (1 : ℚ) ≤ 2 ^ highestExponent := one_le_zpow₀ one_le_two (by decide)
  rw [bound_eq]
  linarith

/-- Zero is rounded to zero, and so is what is at most half as far from it as the number next to
it. -/
theorem rounds_zero (negative : Bool) {q : ℚ} (low : 0 ≤ q) (small : 2 * q ≤ 2 ^ lowestExponent) :
    Rounds negative q (zero negative) := by
  have none : magnitude 0 lowestExponent = 0 := by simp [magnitude]
  refine .finite ?_ ⟨isKept_zero, ?_, fun _ _ _ _ _ => rfl⟩
  · have tiny : (2 : ℚ) ^ lowestExponent ≤ 2 ^ (0 : Int) := two_zpow_le (by decide)
    have large := one_lt_bound
    rw [zpow_zero] at tiny
    linarith
  · intro m e kept
    rw [none, sub_zero, abs_of_nonneg low]
    by_cases first : m = 0
    · subst first
      simp [magnitude, abs_of_nonneg low]
    · have step : (2 : ℚ) ^ lowestExponent ≤ magnitude m e := by
        have some : (1 : ℚ) ≤ m := by exact_mod_cast Nat.pos_of_ne_zero first
        calc (2 : ℚ) ^ lowestExponent ≤ 2 ^ e := two_zpow_le kept.low
          _ ≤ magnitude m e := le_mul_of_one_le_left (by positivity) some
      rw [abs_sub_comm, abs_of_nonneg (by linarith)]
      linarith

/-- The highest digits of a fraction's two numbers tell powers of two that it lies between. -/
theorem value_between {f : Fraction} (hn : 0 < f.num) (hd : 0 < f.den) :
    (2 : ℚ) ^ ((f.num.log2 : Int) - f.den.log2 - 1) ≤ f.value ∧
      f.value < 2 ^ ((f.num.log2 : Int) - f.den.log2 + 1) := by
  have positive : (0 : ℚ) < f.den := by exact_mod_cast hd
  have numLow : (2 : ℚ) ^ f.num.log2 ≤ f.num := by exact_mod_cast Nat.log2_self_le hn.ne'
  have numHigh : (f.num : ℚ) < 2 ^ (f.num.log2 + 1) := by exact_mod_cast Nat.lt_log2_self
  have denLow : (2 : ℚ) ^ f.den.log2 ≤ f.den := by exact_mod_cast Nat.log2_self_le hd.ne'
  have denHigh : (f.den : ℚ) < 2 ^ (f.den.log2 + 1) := by exact_mod_cast Nat.lt_log2_self
  have quotient (a b : Nat) : (2 : ℚ) ^ a / 2 ^ b = 2 ^ ((a : Int) - b) := by
    rw [zpow_sub₀ two_ne_zero, zpow_natCast, zpow_natCast]
  rw [Fraction.value]
  constructor
  · have low : (2 : ℚ) ^ f.num.log2 / 2 ^ (f.den.log2 + 1) ≤ f.num / f.den :=
      div_le_div₀ (by positivity) numLow positive denHigh.le
    rwa [quotient, Nat.cast_succ, ← sub_sub] at low
  · have high : (f.num : ℚ) / f.den < 2 ^ (f.num.log2 + 1) / 2 ^ f.den.log2 :=
      div_lt_div₀ numHigh denLow (by positivity) (by positivity)
    rwa [quotient, Nat.cast_succ, add_sub_right_comm] at high

/-- At the exponent that is found a fraction has a significand of 53 digits. -/
theorem naturalExponent_bounds {f : Fraction} (hn : 0 < f.num) (hd : 0 < f.den) :
    2 ^ 52 * 2 ^ naturalExponent f ≤ f.value ∧ f.value < 2 ^ 53 * 2 ^ naturalExponent f := by
  obtain ⟨low, high⟩ := value_between hn hd
  have steps (k : Nat) (e : Int) : (2 : ℚ) ^ k * 2 ^ e = 2 ^ (e + k) := by
    rw [← zpow_natCast, ← zpow_add₀ two_ne_zero, add_comm]
  have scaled (rough : Int) : (f.scale 2 (-rough)).below ⟨Nat.pow 2 52, 1⟩ = true ↔
      f.value < 2 ^ 52 * 2 ^ rough := by
    have power : (0 : ℚ) < 2 ^ rough := by positivity
    have whole : (⟨Nat.pow 2 52, 1⟩ : Fraction).value = 2 ^ 52 := by norm_num [Fraction.value]
    rw [below_iff (den_scale_pos hd (by decide) _) Nat.one_pos, value_scale _ (by decide), whole,
      Nat.cast_ofNat, zpow_neg, ← div_eq_mul_inv, div_lt_iff₀ power]
  -- The rough exponent comes from the highest digits alone and may be one too high.
  simp only [naturalExponent, scaled, steps]
  split
  · rename_i below
    constructor
    · rwa [show (f.num.log2 : Int) - f.den.log2 - 52 - 1 + (52 : Nat) =
        f.num.log2 - f.den.log2 - 1 by omega]
    · rwa [show (f.num.log2 : Int) - f.den.log2 - 52 - 1 + (53 : Nat) =
        f.num.log2 - f.den.log2 - 52 + (52 : Nat) by omega]
  · rename_i above
    refine ⟨not_lt.1 above, ?_⟩
    rwa [show (f.num.log2 : Int) - f.den.log2 - 52 + (53 : Nat) =
      f.num.log2 - f.den.log2 + 1 by omega]

section Grid
variable {g : Fraction} {p : Int}

/-- No kept number is nearer than the multiple of a power of two that is nearest, as long as only
digits behind that power are cut off. -/
theorem nearest_on_grid (hd : 0 < g.den)
    (full : p ≠ lowestExponent → 2 ^ 52 ≤ g.value) {m : Nat} {e : Int} (kept : IsKept m e) :
    |g.value * 2 ^ p - g.round * 2 ^ p| ≤ |g.value * 2 ^ p - magnitude m e| ∧
      (|g.value * 2 ^ p - g.round * 2 ^ p| = |g.value * 2 ^ p - magnitude m e| →
        magnitude m e ≠ g.round * 2 ^ p → g.round % 2 = 0) := by
  have positive : (0 : ℚ) < 2 ^ p := by positivity
  have distance (k : Nat) : |g.value * 2 ^ p - k * 2 ^ p| = |g.value - k| * 2 ^ p := by
    rw [← sub_mul, abs_mul, abs_of_pos positive]
  rcases kept.on_grid p with ⟨k, multiple⟩ | ⟨higher, below⟩
  · obtain ⟨near, even⟩ := round_nearest hd k
    rw [multiple, distance, distance]
    refine ⟨mul_le_mul_of_nonneg_right near positive.le, fun tie other => even ?_ ?_⟩
    · exact mul_right_cancel₀ positive.ne' tie
    · rintro rfl
      exact other rfl
  · -- The whole number `2 ^ 52` is between the two, and rounding is no worse than that.
    obtain ⟨near, -⟩ := round_nearest hd (2 ^ 52)
    have enough := full higher
    have further : |g.value * 2 ^ p - g.round * 2 ^ p| < |g.value * 2 ^ p - magnitude m e| := by
      have above : (2 : ℚ) ^ 52 * 2 ^ p ≤ g.value * 2 ^ p :=
        mul_le_mul_of_nonneg_right enough positive.le
      have least : |g.value * 2 ^ p - g.round * 2 ^ p| ≤ g.value * 2 ^ p - 2 ^ 52 * 2 ^ p := by
        rw [Nat.cast_pow, Nat.cast_ofNat, abs_of_nonneg (sub_nonneg.2 enough)] at near
        rw [distance, ← sub_mul]
        exact mul_le_mul_of_nonneg_right near positive.le
      rw [abs_of_pos (show 0 < g.value * 2 ^ p - magnitude m e by linarith)]
      linarith
    exact ⟨further.le, fun tie => absurd tie further.ne⟩

theorem below_bound_iff_of_carry (hd : 0 < g.den) (small : g.value < 2 ^ 53)
    (carried : g.round = 2 ^ 53) :
    g.value * 2 ^ p < overflowBound ↔ p + 1 ≤ highestExponent := by
  obtain ⟨near, -⟩ := abs_sub_round hd
  have positive : (0 : ℚ) < 2 ^ p := by positivity
  have top : (0 : ℚ) < 2 ^ highestExponent := by positivity
  have large : (2 : ℚ) ^ 53 - 1 / 2 ≤ g.value := by
    rw [carried, Nat.cast_pow, Nat.cast_ofNat] at near
    have := (abs_le.1 near).1
    linarith
  rw [bound_eq]
  constructor
  · intro below
    by_contra high
    have power : (2 : ℚ) ^ highestExponent ≤ 2 ^ p := two_zpow_le (by omega)
    have beyond := mul_le_mul large power top.le g.value_nonneg
    linarith
  · intro within
    have power : (2 : ℚ) ^ (p + 1) ≤ 2 ^ highestExponent := two_zpow_le within
    rw [two_zpow_succ] at power
    calc g.value * 2 ^ p < 2 ^ 53 * 2 ^ p := mul_lt_mul_of_pos_right small positive
      _ ≤ (2 ^ 53 - 1 / 2) * (2 * 2 ^ p) := by linarith
      _ ≤ (2 ^ 53 - 1 / 2) * 2 ^ highestExponent :=
        mul_le_mul_of_nonneg_left power (by norm_num)

/-- Without a carry the bound is passed at the exponents that there are not. -/
theorem below_bound_iff (hd : 0 < g.den) (full : p ≠ lowestExponent → 2 ^ 52 ≤ g.value)
    (uncarried : g.round < 2 ^ 53) :
    g.value * 2 ^ p < overflowBound ↔ p ≤ highestExponent := by
  obtain ⟨near, even⟩ := abs_sub_round hd
  have positive : (0 : ℚ) < 2 ^ p := by positivity
  have top : (0 : ℚ) < 2 ^ highestExponent := by positivity
  have shorter : g.value < 2 ^ 53 - 1 / 2 := by
    have most : (g.round : ℚ) + 1 ≤ 2 ^ 53 := by exact_mod_cast uncarried
    have above := (abs_le.1 near).2
    by_cases last : g.round + 1 = 2 ^ 53
    · -- The last significand is odd, so a tie is not rounded to it.
      have strict : |g.value - g.round| < 1 / 2 := lt_of_le_of_ne near fun tie => by
        have := even tie
        omega
      have := (abs_lt.1 strict).2
      linarith
    · have room : g.round + 2 ≤ 2 ^ 53 := by omega
      have most' : (g.round : ℚ) + 2 ≤ 2 ^ 53 := by exact_mod_cast room
      linarith
  rw [bound_eq]
  constructor
  · intro below
    by_contra high
    have higher : p ≠ lowestExponent := by
      rintro rfl
      exact high (by decide)
    have enough := full higher
    have power : (2 : ℚ) ^ (highestExponent + 1) ≤ 2 ^ p := two_zpow_le (by omega)
    have beyond := mul_le_mul enough power (by positivity) g.value_nonneg
    rw [two_zpow_succ] at beyond
    linarith
  · intro within
    have power : (2 : ℚ) ^ p ≤ 2 ^ highestExponent := two_zpow_le within
    calc g.value * 2 ^ p ≤ g.value * 2 ^ highestExponent :=
          mul_le_mul_of_nonneg_left power g.value_nonneg
      _ < (2 ^ 53 - 1 / 2) * 2 ^ highestExponent := mul_lt_mul_of_pos_right shorter top

/-- What the nearest multiple is packed into is what the quantity is rounded to. -/
theorem rounds_pack (negative : Bool) (hd : 0 < g.den)
    (full : p ≠ lowestExponent → 2 ^ 52 ≤ g.value) {m : Nat} {e : Int}
    (same : magnitude m e = g.round * 2 ^ p) (parity : g.round % 2 = 0 → m % 2 = 0)
    (kept : e ≤ highestExponent → IsKept m e)
    (range : g.value * 2 ^ p < overflowBound ↔ e ≤ highestExponent) :
    Rounds negative (g.value * 2 ^ p) (pack negative m e) := by
  unfold pack
  by_cases within : e ≤ highestExponent
  · rw [if_pos within]
    refine .finite (range.2 within) ⟨kept within, ?_, ?_⟩
    · intro m' e' kept'
      rw [same]
      exact (nearest_on_grid hd full kept').1
    · intro m' e' kept' tie other
      rw [same] at tie other
      exact parity ((nearest_on_grid hd full kept').2 tie other)
  · rw [if_neg within]
    exact .infinite (not_lt.1 (mt range.1 within))

end Grid

/-- Scaled to the exponent that is chosen for it, a fraction has at most 53 digits in front of the
point, and exactly as many unless the exponent is the lowest one. -/
theorem scale_bounds {f : Fraction} (hn : 0 < f.num) (hd : 0 < f.den) {p : Int}
    (chosen : p = max lowestExponent (naturalExponent f)) :
    f.value = (f.scale 2 (-p)).value * 2 ^ p ∧ (f.scale 2 (-p)).value < 2 ^ 53 ∧
      (p ≠ lowestExponent → 2 ^ 52 ≤ (f.scale 2 (-p)).value) := by
  obtain ⟨natLow, natHigh⟩ := naturalExponent_bounds hn hd
  have positive : (0 : ℚ) < 2 ^ p := by positivity
  have scaled : f.value = (f.scale 2 (-p)).value * 2 ^ p := by
    rw [value_scale _ (by decide), Nat.cast_ofNat, zpow_neg, inv_mul_cancel_right₀ positive.ne']
  refine ⟨scaled, ?_, fun higher => ?_⟩
  · have power : (2 : ℚ) ^ naturalExponent f ≤ 2 ^ p := two_zpow_le (by omega)
    rw [scaled] at natHigh
    refine lt_of_mul_lt_mul_right (natHigh.trans_le ?_) positive.le
    gcongr
  · have natural : naturalExponent f = p := by omega
    rw [natural, scaled] at natLow
    exact le_of_mul_le_mul_right natLow positive

/-- Rounding does not pass a power of two. -/
theorem round_bounds {g : Fraction} (hd : 0 < g.den) (k : Nat) :
    (g.value < 2 ^ k → g.round ≤ 2 ^ k) ∧ (2 ^ k ≤ g.value → 2 ^ k ≤ g.round) := by
  obtain ⟨wholeLow, wholeHigh⟩ := abs_le.1 (abs_sub_round hd).1
  constructor
  · intro small
    have most : (g.round : ℚ) < 2 ^ k + 1 := by linarith
    exact Nat.le_of_lt_succ (by exact_mod_cast most)
  · intro large
    have least : (2 : ℚ) ^ k < g.round + 1 := by linarith
    exact Nat.le_of_lt_succ (by exact_mod_cast least)

theorem rounds_ofFraction (negative : Bool) {f : Fraction} (hd : 0 < f.den) :
    Rounds negative f.value (ofFraction negative f) := by
  by_cases none : f.num = 0
  · have zero : f.value = 0 := by simp [Fraction.value, none]
    rw [ofFraction, if_pos none, zero]
    exact rounds_zero negative le_rfl (by rw [mul_zero]; positivity)
  · rw [ofFraction, if_neg none]
    simp only
    generalize chosen : max lowestExponent (naturalExponent f) = p
    obtain ⟨scaled, small, full⟩ := scale_bounds (Nat.pos_of_ne_zero none) hd chosen.symm
    have hg : 0 < (f.scale 2 (-p)).den := den_scale_pos hd (by decide) _
    rw [scaled]
    generalize f.scale 2 (-p) = g at small full hg ⊢
    by_cases carried : g.round = Nat.pow 2 53
    · have same : magnitude (2 ^ 52) (p + 1) = g.round * 2 ^ p := by
        rw [magnitude, two_zpow_succ, carried]
        norm_num
        ring
      rw [if_pos carried]
      exact rounds_pack negative hg full same (fun _ => by decide)
        (fun within => ⟨by decide, by omega, within, fun _ => le_rfl⟩)
        (below_bound_iff_of_carry hg small carried)
    · have uncarried : g.round < 2 ^ 53 := lt_of_le_of_ne ((round_bounds hg 53).1 small) carried
      rw [if_neg carried]
      exact rounds_pack negative hg full rfl id
        (fun within =>
          ⟨uncarried, by omega, within, fun higher => (round_bounds hg 52).2 (full higher)⟩)
        (below_bound_iff hg full uncarried)

theorem rounds_ofInt (n : Int) : Rounds (n < 0) n.natAbs (ofInt n) := by
  have whole : (⟨n.natAbs, 1⟩ : Fraction).value = n.natAbs := by simp [Fraction.value]
  rw [← whole]
  exact rounds_ofFraction _ Nat.one_pos

theorem isFinite_ofInt (n : Int) : (ofInt n).isFinite = true ↔ n.natAbs < overflowBound := by
  rw [(rounds_ofInt n).isFinite_iff]
  exact Nat.cast_lt

end Binary64

end PciInventory
