import PciInventory.Proofs.Number.Shortest
import PciInventory.Proofs.Number.Worth
import PciInventory.Proofs.Number.Writing

/-!
# A number's text reads back

The text of a finite number is a decimal literal that is worth what the number's digits are worth,
wherever its point is put and whether or not it has an exponent. Those digits are rounded to the
number, so reading the text gives the number again, with its sign if it is a zero.

The numbers are those that the format has, in the form in which they are kept.
-/
namespace PciInventory

open Json

namespace Text

theorem digitValue?_of_ascii {c : Char} (h : '0' ≤ c ∧ c ≤ '9') :
    digitValue? c = some (c.toNat - 0x30) := by
  have low : 0x30 ≤ c.toNat := h.1
  have high : c.toNat ≤ 0x39 := h.2
  rw [digitValue?, digitZeros, List.find?_cons_of_pos (by simp; omega)]
  rfl

theorem isDigit_of_ascii {c : Char} (h : '0' ≤ c ∧ c ≤ '9') : isDigit c = true := by
  rw [isDigit, digitValue?_of_ascii h]
  rfl

theorem isNumeral_of_isDigits {t : Text} (h : IsDigits t) : IsNumeral t :=
  ⟨h.1, fun c hc => isDigit_of_ascii (h.2 c hc)⟩

theorem digitsToNat_ofNat (n : Nat) : digitsToNat (ofNat n) = n := by
  have digit : ∀ d < 10, digitsToNat [Nat.digitChar d] = d := by decide
  induction n using Nat.strongRecOn with
  | ind n ih =>
    rw [ofNat, Nat.toDigits_eq_if (by decide)]
    split
    · rename_i small
      exact digit n small
    · have last := digit (n % 10) (Nat.mod_lt n (by decide))
      rw [digitsToNat_append, ← ofNat, ih (n / 10) (Nat.div_lt_self (by omega) (by decide)), last,
        List.length_singleton]
      omega

theorem digitsToNat_replicate_zero (k : Nat) : digitsToNat (List.replicate k '0') = 0 := by
  induction k with
  | zero => rfl
  | succ k ih =>
    rw [List.replicate_succ', digitsToNat_append, ih]
    rfl

/-- Digits apart, those behind a point, are worth as much as the digits together, shifted. -/
theorem digitsToNat_parts (whole fraction : Text) :
    (digitsToNat whole + digitsToNat fraction / 10 ^ fraction.length : ℚ) =
      digitsToNat (whole ++ fraction) * 10 ^ (-(fraction.length : Int)) := by
  have power : (10 : ℚ) ^ fraction.length ≠ 0 := by positivity
  rw [digitsToNat_append, zpow_neg, zpow_natCast]
  push_cast
  field_simp

end Text

open Text

namespace Layout

/-- Digits without the zeros at their end are worth as much, each at its place. -/
theorem exists_significant {t : Text} (h : t ≠ []) :
    ∃ zeros, t = significant t ++ List.replicate zeros '0' := by
  obtain ⟨d, rest, rfl⟩ := List.exists_cons_of_ne_nil h
  obtain ⟨zeros, same⟩ : ∃ zeros, rest.reverse.takeWhile (· == '0') = List.replicate zeros '0' :=
    ⟨_, List.eq_replicate_of_mem fun c hc => by simpa using List.mem_takeWhile_imp hc⟩
  refine ⟨zeros, ?_⟩
  have parted := congrArg List.reverse
    (List.takeWhile_append_dropWhile (p := (· == '0')) (l := rest.reverse))
  rw [same, List.reverse_append, List.reverse_replicate, List.reverse_reverse] at parted
  exact congrArg (d :: ·) parted.symm

theorem isPower_exponentText (top : Int) : Literal.IsPower (exponentText top) top := by
  have numeral : IsNumeral (List.replicate (2 - (ofNat top.natAbs).length) '0' ++
      ofNat top.natAbs) := by
    refine isNumeral_of_isDigits ⟨List.append_ne_nil_of_right_ne_nil _ (isDigits_ofNat _).1, ?_⟩
    exact List.forall_mem_append.2 ⟨digits_replicate _, (isDigits_ofNat _).2⟩
  have worth : digitsToNat (List.replicate (2 - (ofNat top.natAbs).length) '0' ++
      ofNat top.natAbs) = top.natAbs := by
    rw [digitsToNat_append, digitsToNat_replicate_zero, digitsToNat_ofNat, zero_mul, zero_add]
  unfold exponentText
  by_cases below : top < 0
  · have written := Literal.IsPower.some (.inl (rfl : 'e' = 'e')) .minus numeral
    rw [worth, if_pos rfl, show -(top.natAbs : Int) = top by omega] at written
    simpa [below] using written
  · have written := Literal.IsPower.some (.inl (rfl : 'e' = 'e')) .plus numeral
    rw [worth, if_neg Bool.false_ne_true, show (top.natAbs : Int) = top by omega] at written
    simpa [below] using written

/-- A point is put so that the digits behind it are worth what they are at their places. -/
theorem exists_isMantissa_pointed (pointZero : Bool) {whole fraction : Text}
    (hw : IsNumeral whole) (hf : ∀ c ∈ fraction, isDigit c = true) :
    ∃ written, Literal.IsMantissa (pointed pointZero whole fraction) whole written ∧
      (digitsToNat written / 10 ^ written.length : ℚ) =
        digitsToNat fraction / 10 ^ fraction.length := by
  unfold pointed
  split
  · rename_i none
    subst none
    cases pointZero with
    | false => exact ⟨[], .whole hw, rfl⟩
    | true =>
      have zero : ∀ c ∈ ['0'], isDigit c = true := by
        simpa using isDigit_of_ascii (by decide : '0' ≤ '0' ∧ '0' ≤ '9')
      exact ⟨['0'], .pointed hw zero, by norm_num [digitsToNat]; decide⟩
  · exact ⟨fraction, .pointed hw hf, rfl⟩

/-- Digits that a point is put behind, with zeros if there are too few of them, are worth as much as
the digits behind a point at their front, shifted. -/
theorem digitsToNat_filled (digits : Text) (places : Nat) :
    (digitsToNat (digits.take places ++ List.replicate (places - digits.length) '0' ++
        digits.drop places) * 10 ^ (0 - (digits.drop places).length : Int) : ℚ) =
      digitsToNat digits * 10 ^ (places - digits.length : Int) := by
  by_cases long : places < digits.length
  · rw [Nat.sub_eq_zero_of_le long.le, List.replicate_zero, List.append_nil,
      List.take_append_drop, List.length_drop]
    congr 2
    omega
  · rw [List.take_of_length_le (not_lt.1 long), List.drop_of_length_le (not_lt.1 long),
      List.append_nil, digitsToNat_append, digitsToNat_replicate_zero, List.length_replicate,
      add_zero, List.length_nil, Nat.cast_zero, sub_zero, zpow_zero, mul_one,
      ← Nat.cast_sub (not_lt.1 long), zpow_natCast]
    push_cast
    rfl

section Place
variable {sign digits : Text} {negative : Bool}

/-- A text is a literal with a sign that is worth a quantity. -/
def Writes (t : Text) (negative : Bool) (q : ℚ) : Prop :=
  ∃ l, Literal.Spells t l ∧ l.negative = negative ∧ l.worth = q

theorem writes_pointed (signed : IsSign sign negative) (pointZero : Bool)
    {whole fraction exponent : Text} {power : Int} (hw : IsNumeral whole)
    (hf : ∀ c ∈ fraction, isDigit c = true) (hp : Literal.IsPower exponent power) :
    Writes (sign ++ (pointed pointZero whole fraction ++ exponent)) negative
      (digitsToNat (whole ++ fraction) * 10 ^ (power - fraction.length)) := by
  obtain ⟨written, mantissa, same⟩ := exists_isMantissa_pointed pointZero hw hf
  refine ⟨_, .intro signed mantissa hp, rfl, ?_⟩
  rw [Literal.worth, same, digitsToNat_parts, mul_assoc, ← zpow_add₀ (by norm_num), neg_add_eq_sub]

/-- Digits are placed so that the first of them stands at a power of ten. -/
theorem writes_place (layout : Layout) (signed : IsSign sign negative) (h : IsDigits digits)
    (top : Int) : Writes (sign ++ layout.place digits top) negative
      (digitsToNat digits * 10 ^ (top + 1 - digits.length)) := by
  have ascii : ∀ c ∈ digits, isDigit c = true := fun c hc => isDigit_of_ascii (h.2 c hc)
  have zeros (k : Nat) : ∀ c ∈ List.replicate k '0', isDigit c = true :=
    fun c hc => isDigit_of_ascii (digits_replicate k c hc)
  have back (n : Nat) : ∀ c ∈ digits.drop n, isDigit c = true := fun c hc =>
    ascii c (List.mem_of_mem_drop hc)
  have some := List.length_pos_iff.2 h.1
  unfold place
  split
  · split
    · rename_i high
      generalize hn : top.toNat + 1 = places
      have whole : IsNumeral (digits.take places ++
          List.replicate (places - digits.length) '0') := by
        refine ⟨List.ne_nil_of_length_pos (by simp; omega), List.forall_mem_append.2 ⟨?_, zeros _⟩⟩
        exact fun c hc => ascii c (List.mem_of_mem_take hc)
      have written := writes_pointed signed layout.pointZero whole (back places) .none
      rw [List.append_nil, digitsToNat_filled] at written
      convert written using 4
      omega
    · have point : IsNumeral ['0'] := ⟨List.cons_ne_nil _ _, zeros 1⟩
      have written := writes_pointed signed layout.pointZero point
        (List.forall_mem_append.2 ⟨zeros ((-top).toNat - 1), ascii⟩) .none
      rw [List.append_nil] at written
      convert written using 1
      rw [← List.append_assoc, digitsToNat_append (['0'] ++ _), ← List.replicate_one,
        ← List.replicate_add, digitsToNat_replicate_zero, zero_mul, zero_add, List.length_append,
        List.length_replicate]
      congr 2
      omega
  · have first : IsNumeral (digits.take 1) :=
      ⟨List.ne_nil_of_length_pos (by simp; omega), fun c hc => ascii c (List.mem_of_mem_take hc)⟩
    have written := writes_pointed signed false first (back 1) (isPower_exponentText top)
    convert written using 1
    rw [List.take_append_drop, List.length_drop]
    congr 2
    omega

end Place

end Layout

namespace Binary64

open Layout

/-- The text of a number is a literal that is worth what the digits of the number are. -/
theorem writes_text (negative : Bool) {m : Nat} (hm : 0 < m) (e : Int) :
    let d := DecimalDigits.shortest m e
    Writes (finite negative m e).text negative (d.coefficient * 10 ^ d.power) := by
  intro d
  have signed : IsSign (if negative then ['-'] else []) negative := by
    cases negative with
    | false => exact .none
    | true => exact .minus
  have leading : IsLeading (ofNat d.coefficient) :=
    isLeading_ofNat (DecimalDigits.coefficient_shortest_pos hm e)
  obtain ⟨zeros, parted⟩ := exists_significant leading.digits.1
  have written := writes_place .full signed leading.significant.digits
    (d.power + (ofNat d.coefficient).length - 1)
  have number := digitsToNat_ofNat d.coefficient
  have length := congrArg List.length parted
  rw [parted, digitsToNat_append, digitsToNat_replicate_zero, List.length_replicate,
    add_zero] at number
  rw [List.length_append, List.length_replicate] at length
  have text : (finite negative m e).text = (if negative then ['-'] else []) ++
      Layout.full.place (significant (ofNat d.coefficient))
        (d.power + (ofNat d.coefficient).length - 1) := by
    change (if negative then ['-'] else []) ++ Layout.full.magnitude m e = _
    rw [Layout.magnitude, if_neg hm.ne']
    rfl
  rw [text]
  convert written using 1
  have power : d.power + (ofNat d.coefficient).length - 1 + 1 -
      (significant (ofNat d.coefficient)).length = zeros + d.power := by
    omega
  rw [power, zpow_add₀ (by norm_num), zpow_natCast, ← mul_assoc]
  congr 1
  exact_mod_cast number.symm

theorem read_text {x : Binary64} (canonical : x.Canonical) (finite : x.isFinite = true) :
    (Literal.read? x.text).map Literal.toBinary64 = some x := by
  cases x with
  | infinite negative => cases finite
  | notANumber => cases finite
  | finite negative m e =>
    have kept := canonical_finite_iff.1 canonical
    by_cases none : m = 0
    · subst none
      obtain rfl : e = lowestExponent := by
        by_contra higher
        exact absurd (kept.full higher) (by decide)
      cases negative <;> decide +kernel
    · have hm := Nat.pos_of_ne_zero none
      obtain ⟨l, spells, rfl, worth⟩ := writes_text negative hm e
      rw [Literal.read?_eq_some_iff_spells.2 spells, Option.map_some, Option.some.injEq]
      have rounded := l.rounds_toBinary64
      rw [worth] at rounded
      exact rounded.unique (DecimalDigits.rounds_shortest kept hm l.negative)

end Binary64

end PciInventory
