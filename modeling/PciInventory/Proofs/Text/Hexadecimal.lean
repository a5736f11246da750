import Mathlib.Algebra.Group.Nat.Defs
import PciInventory.Text.Blank
import PciInventory.Text.Case
import PciInventory.Text.Quoted

/-!
# Hexadecimal digits in text

Numbers of a fixed width in lower-case hexadecimal. Equal digits come from equal numbers, digits of
two numbers side by side are the digits of one, and no rule about text touches a digit: none of them
is a blank, and lower-casing leaves them as they are.
-/
namespace PciInventory.Text

theorem lower_eq_self {t : Text} (h : ∀ c ∈ t, c ≠ 'Σ' ∧ Case.lowerOf c = [c]) : lower t = t := by
  have from_any (before : Text) : Case.lowerFrom before t = t := by
    induction t generalizing before with
    | nil => rfl
    | cons c rest ih =>
      obtain ⟨sigma, same⟩ := h c List.mem_cons_self
      rw [Case.lowerFrom, if_neg sigma, same, ih fun c hc => h c (List.mem_cons_of_mem _ hc)]
      rfl
  exact from_any []

/-- The last `width` hexadecimal digits of a number, in lower case and the highest first. -/
def hexDigits : (width n : Nat) → Text
  | 0, _ => []
  | width + 1, n => hexDigits width (n / 16) ++ [Nat.digitChar (n % 16)]

theorem length_hexDigits (width n : Nat) : (hexDigits width n).length = width := by
  induction width generalizing n with
  | zero => rfl
  | succ width ih => simp [hexDigits, ih]

theorem mem_toDigits {b n : Nat} {c : Char} (base : 1 < b) (h : c ∈ Nat.toDigits b n) :
    ∃ d < b, c = Nat.digitChar d := by
  induction n using Nat.strongRecOn with
  | ind n ih =>
    rw [Nat.toDigits_eq_if base] at h
    split at h
    · rename_i small
      exact ⟨n, small, List.mem_singleton.1 h⟩
    · rename_i large
      rcases List.mem_append.1 h with h | h
      · exact ih (n / b) (Nat.div_lt_self (by omega) base) h
      · exact ⟨n % b, Nat.mod_lt n (by omega), List.mem_singleton.1 h⟩

theorem not_mem_toDigits {b : Nat} {c : Char} (base : 1 < b) (other : ∀ d < b, Nat.digitChar d ≠ c)
    (n : Nat) : c ∉ Nat.toDigits b n := by
  intro h
  obtain ⟨d, small, same⟩ := mem_toDigits base h
  exact other d small same.symm

theorem digitChar_inj {a b : Nat} (ha : a < 16) (hb : b < 16)
    (h : Nat.digitChar a = Nat.digitChar b) : a = b := by
  have all : ∀ a < 16, ∀ b < 16, Nat.digitChar a = Nat.digitChar b → a = b := by decide
  exact all a ha b hb h

theorem hexDigits_inj {width n m : Nat} (h : hexDigits width n = hexDigits width m) :
    n % 16 ^ width = m % 16 ^ width := by
  induction width generalizing n m with
  | zero => simp [Nat.mod_one]
  | succ width ih =>
    obtain ⟨high, low⟩ := List.append_inj' h rfl
    have units := digitChar_inj (Nat.mod_lt n (by decide)) (Nat.mod_lt m (by decide))
      (List.cons.inj low).1
    rw [Nat.pow_succ, Nat.mul_comm, Nat.mod_mul, Nat.mod_mul, ih high, units]

/-- The digits of a number are those of its high part and then those of its low part. -/
theorem hexDigits_add (high low n : Nat) :
    hexDigits (high + low) n = hexDigits high (n / 16 ^ low) ++ hexDigits low n := by
  induction low generalizing n with
  | zero => simp [hexDigits]
  | succ low ih =>
    rw [← Nat.add_assoc, hexDigits, ih, hexDigits, ← List.append_assoc, Nat.div_div_eq_div_mul,
      Nat.pow_succ, Nat.mul_comm]

/-- Only the last digits of a number count. -/
theorem hexDigits_mod (width n : Nat) : hexDigits width (n % 16 ^ width) = hexDigits width n := by
  induction width generalizing n with
  | zero => rfl
  | succ width ih =>
    have high : n % 16 ^ (width + 1) / 16 = n / 16 % 16 ^ width := by
      rw [Nat.pow_succ, Nat.mul_comm, Nat.mod_mul_right_div_self]
    have low : n % 16 ^ (width + 1) % 16 = n % 16 :=
      Nat.mod_mod_of_dvd n (Nat.dvd_mul_left 16 (16 ^ width))
    rw [hexDigits, high, low, ih, hexDigits]

theorem mem_hexDigits {width n : Nat} {c : Char} (h : c ∈ hexDigits width n) :
    ∃ d < 16, c = Nat.digitChar d := by
  induction width generalizing n with
  | zero => simp [hexDigits] at h
  | succ width ih =>
    rcases List.mem_append.1 h with h | h
    · exact ih h
    · exact ⟨n % 16, Nat.mod_lt n (by decide), List.mem_singleton.1 h⟩

theorem hexDigits_zero (width : Nat) : hexDigits width 0 = List.replicate width '0' := by
  induction width with
  | zero => rfl
  | succ width ih => rw [hexDigits, Nat.zero_div, ih, List.replicate_succ']; rfl

/-- Filled up with zeros to a width that has room for it, a number is written in its last digits. -/
theorem hexadecimal_eq {width n : Nat} (room : 0 < width) (small : n < 16 ^ width) :
    Quoted.hexadecimal width n = hexDigits width n := by
  induction width generalizing n with
  | zero => exact absurd room (Nat.lt_irrefl 0)
  | succ width ih =>
    rw [hexDigits, Quoted.hexadecimal, Nat.toDigits_eq_if (by decide)]
    split
    · rename_i digit
      rw [Nat.div_eq_of_lt digit, Nat.mod_eq_of_lt digit, hexDigits_zero]
      rfl
    · have high : n / 16 < 16 ^ width := Nat.div_lt_of_lt_mul (by rwa [Nat.pow_succ'] at small)
      have positive : 0 < width := by
        refine Nat.pos_of_ne_zero fun none => ?_
        rw [none, Nat.pow_zero] at high
        omega
      rw [← ih positive high, Quoted.hexadecimal, List.length_append, List.length_singleton,
        Nat.add_sub_add_right, List.append_assoc]

/-- A character that stands for itself wherever an id is read: no blank, no mark of the line format
and its own lower case. -/
structure IsPlain (c : Char) : Prop where
  notBlank : isBlank c = false
  noMark : c ≠ '#' ∧ c ≠ 'C'
  notSigma : c ≠ 'Σ'
  lowerOf : Case.lowerOf c = [c]

theorem isPlain_digitChar {d : Nat} (small : d < 16) : IsPlain (Nat.digitChar d) := by
  have all : ∀ d < 16, isBlank (Nat.digitChar d) = false ∧
      (Nat.digitChar d ≠ '#' ∧ Nat.digitChar d ≠ 'C') ∧ Nat.digitChar d ≠ 'Σ' ∧
      Case.lowerOf (Nat.digitChar d) = [Nat.digitChar d] := by decide +kernel
  obtain ⟨blank, mark, sigma, lower⟩ := all d small
  exact ⟨blank, mark, sigma, lower⟩

theorem isPlain_of_mem_hexDigits {width n : Nat} {c : Char} (h : c ∈ hexDigits width n) :
    IsPlain c := by
  obtain ⟨d, small, rfl⟩ := mem_hexDigits h
  exact isPlain_digitChar small

end PciInventory.Text
