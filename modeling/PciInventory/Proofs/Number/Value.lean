import PciInventory.Proofs.Number.Rounding

/-!
# Binary64 numbers as numbers

The number that a finite binary64 number is. A quantity that the format has is not changed by
rounding; whole numbers of up to 53 binary digits are such quantities. Two numbers of the format
count as equal if they are the same number, so that it does not matter which sign a zero has.
-/
namespace PciInventory.Binary64

/-- The number that a finite binary64 number is. -/
def value? : Binary64 → Option ℚ
  | .finite negative m e => some (if negative then -magnitude m e else magnitude m e)
  | _ => none

section Kept
variable {m : Nat} {e : Int}

theorem IsKept.magnitude_lt (h : IsKept m e) : magnitude m e < overflowBound := by
  have positive : (0 : ℚ) < 2 ^ e := by positivity
  have power : (2 : ℚ) ^ e ≤ 2 ^ highestExponent := two_zpow_le h.high
  have small : (m : ℚ) + 1 ≤ 2 ^ 53 := by exact_mod_cast h.small
  rw [bound_eq]
  calc magnitude m e < (2 ^ 53 - 1 / 2) * 2 ^ e :=
        mul_lt_mul_of_pos_right (by linarith) positive
    _ ≤ (2 ^ 53 - 1 / 2) * 2 ^ highestExponent := mul_le_mul_of_nonneg_left power (by norm_num)

/-- A quantity that the format has is rounded to itself. -/
theorem IsKept.rounds (h : IsKept m e) (negative : Bool) :
    Rounds negative (magnitude m e) (.finite negative m e) := by
  refine .finite h.magnitude_lt ⟨h, ?_, ?_⟩
  · intro m' e' _
    rw [sub_self, abs_zero]
    exact abs_nonneg _
  · intro m' e' _ tie other
    rw [sub_self, abs_zero, eq_comm, abs_eq_zero, sub_eq_zero] at tie
    exact absurd tie.symm other

theorem IsKept.eq_zero (h : IsKept m e) (none : magnitude m e = 0) : m = 0 := by
  have zero : magnitude 0 lowestExponent = 0 := by simp [magnitude]
  exact (h.unique isKept_zero (none.trans zero.symm)).1

/-- Every whole number of up to 53 binary digits is in the format. -/
theorem exists_isKept {k : Nat} (small : k < 2 ^ 53) : ∃ m e, IsKept m e ∧ magnitude m e = k := by
  by_cases none : k = 0
  · subst none
    exact ⟨0, lowestExponent, isKept_zero, by simp [magnitude]⟩
  · have digits : k.log2 < 53 := (Nat.log2_lt none).2 small
    have low : 2 ^ k.log2 ≤ k := Nat.log2_self_le none
    have high : k < 2 ^ (k.log2 + 1) := Nat.lt_log2_self
    have positive : (2 : ℚ) ^ (52 - k.log2) ≠ 0 := by positivity
    refine ⟨k * 2 ^ (52 - k.log2), -((52 - k.log2 : Nat) : Int), ⟨?_, ?_, ?_, fun _ => ?_⟩, ?_⟩
    · calc k * 2 ^ (52 - k.log2) < 2 ^ (k.log2 + 1) * 2 ^ (52 - k.log2) :=
            Nat.mul_lt_mul_of_pos_right high (Nat.two_pow_pos _)
        _ = 2 ^ 53 := by
          rw [← Nat.pow_add]
          congr 1
          omega
    · rw [lowestExponent]
      omega
    · rw [highestExponent]
      omega
    · calc 2 ^ 52 = 2 ^ k.log2 * 2 ^ (52 - k.log2) := by
            rw [← Nat.pow_add]
            congr 1
            omega
        _ ≤ k * 2 ^ (52 - k.log2) := Nat.mul_le_mul_right _ low
    · rw [magnitude, zpow_neg, zpow_natCast]
      push_cast
      rw [mul_inv_cancel_right₀ positive]

end Kept

/-- A whole number of up to 53 binary digits stays what it is. -/
theorem value?_ofInt {n : Int} (small : n.natAbs < 2 ^ 53) : (ofInt n).value? = some (n : ℚ) := by
  obtain ⟨m, e, kept, same⟩ := exists_isKept small
  have rounded := rounds_ofInt n
  rw [← same] at rounded
  rw [rounded.unique (kept.rounds _), value?, same]
  by_cases below : n < 0
  · rw [if_pos (decide_eq_true below), Nat.cast_natAbs, abs_of_neg below]
    push_cast
    rw [neg_neg]
  · rw [if_neg (by simpa using below), Nat.cast_natAbs, abs_of_nonneg (not_lt.1 below)]

theorem equals_iff {x y : Binary64} (hx : x.Canonical) (hy : y.Canonical) :
    x.equals y = true ↔ ∃ q, x.value? = some q ∧ y.value? = some q := by
  cases x with
  | infinite negative => simp [equals, value?]
  | notANumber => simp [equals, value?]
  | finite negative m e =>
    cases y with
    | infinite negative' => simp [equals, value?]
    | notANumber => simp [equals, value?]
    | finite negative' m' e' =>
      have kept := canonical_finite_iff.1 hx
      have kept' := canonical_finite_iff.1 hy
      have low := magnitude_nonneg m e
      have low' := magnitude_nonneg m' e'
      have zeros : magnitude m e = 0 → magnitude m' e' = 0 → m = 0 ∧ m' = 0 :=
        fun none none' => ⟨kept.eq_zero none, kept'.eq_zero none'⟩
      simp only [equals, value?, Bool.or_eq_true, Bool.and_eq_true, beq_iff_eq,
        Option.some.injEq]
      constructor
      · rintro (⟨rfl, rfl⟩ | ⟨⟨rfl, rfl⟩, rfl⟩)
        · simp [magnitude]
        · exact ⟨_, rfl, rfl⟩
      · rintro ⟨q, rfl, same⟩
        cases negative <;> cases negative'
        all_goals simp only [if_true, if_false, Bool.false_eq_true] at same
        · obtain ⟨rfl, rfl⟩ := kept.unique kept' same.symm
          exact .inr ⟨⟨rfl, rfl⟩, rfl⟩
        · exact .inl (zeros (by linarith) (by linarith))
        · exact .inl (zeros (by linarith) (by linarith))
        · obtain ⟨rfl, rfl⟩ := kept.unique kept' (by linarith)
          exact .inr ⟨⟨rfl, rfl⟩, rfl⟩

theorem equals_ofInt_iff {x : Binary64} (hx : x.Canonical) {n : Int} (small : n.natAbs < 2 ^ 53) :
    x.equals (ofInt n) = true ↔ x.value? = some (n : ℚ) := by
  rw [equals_iff hx (rounds_ofInt n).canonical, value?_ofInt small]
  constructor
  · rintro ⟨q, here, there⟩
    rw [here, there]
  · intro here
    exact ⟨n, here, rfl⟩

end PciInventory.Binary64
