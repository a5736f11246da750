import PciInventory.Proofs.Json.Grammar
import PciInventory.Proofs.Number.Digits

/-!
# A number's text is a JSON number

Every layout whose digits start with one that is not a zero writes a finite number in the form that
JSON has for numbers: no zero in front of another digit, a digit on both sides of a point, and one
behind an exponent's sign. The layout from which a number can be read back is such a layout.

Nothing is said here of what the text is worth.
-/
namespace PciInventory

open Json

namespace Text

theorem isDigits_ofNat (n : Nat) : IsDigits (ofNat n) := by
  have digit : ∀ d < 10, '0' ≤ Nat.digitChar d ∧ Nat.digitChar d ≤ '9' := by decide
  refine ⟨Nat.toDigits_ne_nil, fun c hc => ?_⟩
  obtain ⟨d, small, rfl⟩ := mem_toDigits (by decide) hc
  exact digit d small

/-- The digits of a positive number do not start with a zero. -/
theorem head?_ofNat {n : Nat} (h : 0 < n) : (ofNat n).head? ≠ some '0' := by
  induction n using Nat.strongRecOn with
  | ind n ih =>
    rw [ofNat, Nat.toDigits_eq_if (by decide)]
    split
    · rename_i small
      have digit : ∀ d < 10, 0 < d → [Nat.digitChar d].head? ≠ some '0' := by decide
      exact digit n small h
    · rename_i large
      have shorter := ih (n / 10) (Nat.div_lt_self h (by decide)) (by omega)
      rw [ofNat] at shorter
      rw [List.head?_append_of_ne_nil _ Nat.toDigits_ne_nil]
      exact shorter

end Text

namespace Layout

structure IsLeading (t : Text) : Prop where
  digits : IsDigits t
  head : t.head? ≠ some '0'

theorem isLeading_ofNat {n : Nat} (h : 0 < n) : IsLeading (Text.ofNat n) :=
  ⟨Text.isDigits_ofNat n, Text.head?_ofNat h⟩

theorem IsLeading.isWhole {t : Text} (h : IsLeading t) : IsWhole t :=
  ⟨h.digits, fun zero => absurd zero h.head⟩

/-- Digits that start with the first one of others are leading if the others are. -/
theorem IsLeading.of_cons {d : Char} {rest rest' : Text} (h : IsLeading (d :: rest))
    (each : ∀ c ∈ rest', '0' ≤ c ∧ c ≤ '9') : IsLeading (d :: rest') where
  digits := ⟨List.cons_ne_nil d rest',
    List.forall_mem_cons.2 ⟨h.digits.2 d List.mem_cons_self, each⟩⟩
  head := h.head

theorem IsLeading.significant {t : Text} (h : IsLeading t) : IsLeading (significant t) := by
  obtain ⟨d, rest, rfl, -⟩ := h.digits.exists_cons
  refine h.of_cons fun c hc => h.digits.2 c (List.mem_cons_of_mem d ?_)
  simp only [Text.trimEndBy, List.mem_reverse] at hc
  simpa using (List.dropWhile_sublist _).subset hc

theorem digits_replicate (n : Nat) : ∀ c ∈ List.replicate n '0', '0' ≤ c ∧ c ≤ '9' := by
  intro c hc
  rw [List.eq_of_mem_replicate hc]
  decide

theorem isExponent_exponentText (e : Int) : IsExponent (exponentText e) := by
  obtain ⟨some, each⟩ := Text.isDigits_ofNat e.natAbs
  have digits : IsDigits (List.replicate (2 - (Text.ofNat e.natAbs).length) '0' ++
      Text.ofNat e.natAbs) :=
    ⟨List.append_ne_nil_of_right_ne_nil _ some,
      List.forall_mem_append.2 ⟨digits_replicate _, each⟩⟩
  unfold exponentText
  by_cases negative : e < 0
  · simpa [negative] using IsExponent.some (.inl rfl) (.inr (.inr rfl)) digits
  · simpa [negative] using IsExponent.some (.inl rfl) (.inr (.inl rfl)) digits

theorem isWhole_zero : IsWhole ['0'] :=
  ⟨⟨List.cons_ne_nil '0' [], digits_replicate 1⟩, fun _ => rfl⟩

theorem isUnsigned_pointed {pointZero : Bool} {whole fraction exponent : Text}
    (hw : IsWhole whole) (hf : ∀ c ∈ fraction, '0' ≤ c ∧ c ≤ '9') (he : IsExponent exponent) :
    IsUnsigned (pointed pointZero whole fraction ++ exponent) := by
  unfold pointed
  split
  · split
    · simpa using IsUnsigned.intro hw (.some isWhole_zero.digits) he
    · simpa using IsUnsigned.intro hw .none he
  · rename_i some
    simpa using IsUnsigned.intro hw (.some ⟨some, hf⟩) he

/-- Leading digits are placed as a number, wherever their point is. -/
theorem isUnsigned_place (layout : Layout) {digits : Text} (h : IsLeading digits) (top : Int) :
    IsUnsigned (layout.place digits top) := by
  have back (n : Nat) : ∀ c ∈ digits.drop n, '0' ≤ c ∧ c ≤ '9' := fun c hc =>
    h.digits.2 c (List.mem_of_mem_drop hc)
  unfold place
  split
  · split
    · have front : IsWhole (digits.take (top.toNat + 1) ++
          List.replicate (top.toNat + 1 - digits.length) '0') := by
        obtain ⟨d, rest, rfl, -⟩ := h.digits.exists_cons
        refine (h.of_cons (List.forall_mem_append.2 ⟨fun c hc => ?_, digits_replicate _⟩)).isWhole
        exact h.digits.2 c (List.mem_cons_of_mem d (List.mem_of_mem_take hc))
      simpa using isUnsigned_pointed front (back _) .none
    · simpa using isUnsigned_pointed isWhole_zero
        (List.forall_mem_append.2 ⟨digits_replicate _, h.digits.2⟩) .none
  · have first : IsWhole (digits.take 1) := by
      obtain ⟨d, rest, rfl, -⟩ := h.digits.exists_cons
      exact (h.of_cons (by simp)).isWhole
    exact isUnsigned_pointed first (back 1) (isExponent_exponentText top)

theorem isUnsigned_place_zero (layout : Layout) : IsUnsigned (layout.place ['0'] 0) := by
  unfold place
  split
  · simpa using isUnsigned_pointed isWhole_zero (by simp) .none
  · simpa using isUnsigned_pointed isWhole_zero (by simp) (isExponent_exponentText 0)

variable {layout : Layout} (some : ∀ {m : Nat}, 0 < m → ∀ e, 0 < (layout.digits m e).coefficient)
include some

theorem isUnsigned_magnitude (m : Nat) (e : Int) : IsUnsigned (layout.magnitude m e) := by
  unfold magnitude
  split
  · exact isUnsigned_place_zero layout
  · rename_i positive
    exact isUnsigned_place layout
      (isLeading_ofNat (some (Nat.pos_of_ne_zero positive) e)).significant _

theorem isNumber_write {x : Binary64} (finite : x.isFinite = true) : IsNumber (layout.write x) := by
  cases x with
  | finite negative m e =>
    have number := isUnsigned_magnitude some m e
    cases negative with
    | false => exact .plain number
    | true => exact .negative number
  | infinite negative => cases finite
  | notANumber => cases finite

end Layout

/-- The text from which a finite number can be read back is a JSON number. -/
theorem Binary64.isNumber_text {x : Binary64} (finite : x.isFinite = true) : IsNumber x.text := by
  change IsNumber (Layout.full.write x)
  exact Layout.isNumber_write DecimalDigits.coefficient_shortest_pos finite

end PciInventory
