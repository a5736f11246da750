import Mathlib.Data.List.Forall2
import PciInventory.Proofs.Text.Trimming
import PciInventory.Text.Case

/-!
# Hexadecimal letters in either case

Two texts that differ only in the case of hexadecimal letters are the same in lower case, whatever
else stands in them. That holds of a final sigma too, whose form is decided by the characters around
it: a hexadecimal letter has a case in either of its forms, and is skipped in none. Nor is any such
letter a blank, so texts of this kind are trimmed alike.

Nothing is said of other letters, some of which have no single other case.
-/
namespace PciInventory.Text

/-- A character in the place of another: the same one, or the same hexadecimal digit with its letter
in the other case. -/
inductive Recased : Char → Char → Prop where
  | same (c : Char) : Recased c c
  | raised {d : Nat} (digit : d < 16) : Recased (Nat.digitChar d) (Nat.digitChar d).toUpper
  | lowered {d : Nat} (digit : d < 16) : Recased (Nat.digitChar d).toUpper (Nat.digitChar d)

theorem recased_iff {c c' : Char} : Recased c c' ↔ c = c' ∨ ∃ d < 16,
    (c = Nat.digitChar d ∧ c' = (Nat.digitChar d).toUpper) ∨
      (c = (Nat.digitChar d).toUpper ∧ c' = Nat.digitChar d) := by
  constructor
  · intro h
    cases h with
    | same => exact .inl rfl
    | raised digit => exact .inr ⟨_, digit, .inl ⟨rfl, rfl⟩⟩
    | lowered digit => exact .inr ⟨_, digit, .inr ⟨rfl, rfl⟩⟩
  · rintro (rfl | ⟨d, digit, ⟨rfl, rfl⟩ | ⟨rfl, rfl⟩⟩)
    · exact .same c
    · exact .raised digit
    · exact .lowered digit

instance (c c' : Char) : Decidable (Recased c c') := decidable_of_iff _ recased_iff.symm

/-- A text in the place of another, apart from it in the case of hexadecimal letters only. -/
abbrev AlikeButCase (t t' : Text) : Prop := List.Forall₂ Recased t t'

def IsHexadecimal (t : Text) : Prop :=
  ∀ c ∈ t, ∃ d < 16, c = Nat.digitChar d ∨ c = (Nat.digitChar d).toUpper

instance (t : Text) : Decidable (IsHexadecimal t) := List.decidableBAll _ t

/-- What does not tell the two forms of a hexadecimal letter apart is the same for characters in
each other's places. -/
theorem Recased.congr {β : Type} {c c' : Char} (h : Recased c c') (f : Char → β)
    (forms : ∀ d < 16, f (Nat.digitChar d).toUpper = f (Nat.digitChar d)) : f c = f c' := by
  cases h with
  | same => rfl
  | raised digit => exact (forms _ digit).symm
  | lowered digit => exact forms _ digit

/-- A character that is no hexadecimal digit stays in its place. -/
theorem Recased.eq_iff {c c' : Char} (h : Recased c c') (a : Char)
    (other : ∀ d < 16, Nat.digitChar d ≠ a ∧ (Nat.digitChar d).toUpper ≠ a) : c = a ↔ c' = a := by
  have same := h.congr (fun c => decide (c = a)) fun d digit => by
    rw [decide_eq_false (other d digit).1, decide_eq_false (other d digit).2]
  simpa using same

theorem AlikeButCase.refl (t : Text) : AlikeButCase t t := List.forall₂_same.2 fun c _ => .same c

namespace IsHexadecimal
variable {t t' : Text}

/-- What is so of each hexadecimal digit, in either case, is so of each character of such a text. -/
theorem all (h : IsHexadecimal t) (p : Char → Bool)
    (forms : ∀ d < 16, p (Nat.digitChar d) = true ∧ p (Nat.digitChar d).toUpper = true) :
    ∀ c ∈ t, p c = true := by
  intro c hc
  obtain ⟨d, digit, rfl | rfl⟩ := h c hc
  · exact (forms d digit).1
  · exact (forms d digit).2

theorem of_digits (h : ∀ c ∈ t, ∃ d < 16, c = Nat.digitChar d) : IsHexadecimal t := by
  intro c hc
  obtain ⟨d, digit, here⟩ := h c hc
  exact ⟨d, digit, .inl here⟩

theorem recased (h : IsHexadecimal t) (letters : AlikeButCase t t') : IsHexadecimal t' := by
  induction letters with
  | nil => exact nofun
  | cons here later ih =>
    obtain ⟨first, rest⟩ := List.forall_mem_cons.1 h
    refine List.forall_mem_cons.2 ⟨?_, ih rest⟩
    cases here with
    | same => exact first
    | raised digit => exact ⟨_, digit, .inr rfl⟩
    | lowered digit => exact ⟨_, digit, .inl rfl⟩

theorem notBlank (h : IsHexadecimal t) : ∀ c ∈ t, isBlank c = false := by
  have visible := h.all (fun c => !isBlank c) (by decide +kernel)
  simpa using visible

end IsHexadecimal

section Lowering
variable {t t' before before' : Text}

namespace Case

theorem nextIsCased_cons (c : Char) (rest : Text) : nextIsCased (c :: rest) =
    if ignorableSpans.contains c.toNat then nextIsCased rest
    else casedSpans.contains c.toNat := by
  by_cases skipped : ignorableSpans.contains c.toNat = true
  · simp only [nextIsCased, List.dropWhile_cons, skipped, if_true]
  · simp only [nextIsCased, List.dropWhile_cons, skipped, if_false, Bool.false_eq_true]

theorem nextIsCased_congr (h : AlikeButCase t t') : nextIsCased t = nextIsCased t' := by
  induction h with
  | nil => rfl
  | cons here later ih =>
    have skipped := here.congr (fun c => ignorableSpans.contains c.toNat) (by decide +kernel)
    have cased := here.congr (fun c => casedSpans.contains c.toNat) (by decide +kernel)
    rw [nextIsCased_cons, nextIsCased_cons, skipped, cased, ih]

theorem sigma_congr (front : AlikeButCase before before') (back : AlikeButCase t t') :
    sigma before t = sigma before' t' := by
  rw [sigma, sigma, nextIsCased_congr front, nextIsCased_congr back]

theorem lowerFrom_congr (front : AlikeButCase before before') (h : AlikeButCase t t') :
    lowerFrom before t = lowerFrom before' t' := by
  induction h generalizing before before' with
  | nil => rfl
  | cons here later ih =>
    have isSigma := here.eq_iff 'Σ' (by decide)
    have lower := here.congr lowerOf (by decide +kernel)
    rw [lowerFrom, lowerFrom, sigma_congr front later, lower, ih (.cons here front)]
    simp only [isSigma]

end Case

theorem lower_congr (h : AlikeButCase t t') : lower t = lower t' := Case.lowerFrom_congr .nil h

end Lowering

section Trimming
variable {t t' : Text}

theorem dropBlanks_congr (h : AlikeButCase t t') :
    AlikeButCase (t.dropWhile isBlank) (t'.dropWhile isBlank) := by
  induction h with
  | nil => exact .nil
  | cons here later ih =>
    have blank := here.congr isBlank (by decide +kernel)
    rw [List.dropWhile_cons, List.dropWhile_cons, blank]
    split
    · exact ih
    · exact .cons here later

theorem strip_congr (h : AlikeButCase t t') : AlikeButCase (strip t) (strip t') := by
  have front := dropBlanks_congr h
  have back := dropBlanks_congr (List.forall₂_reverse_iff.2 front)
  exact List.forall₂_reverse_iff.2 back

theorem strip_eq_nil_congr (h : AlikeButCase t t') : strip t = [] ↔ strip t' = [] := by
  rw [← List.length_eq_zero_iff, (strip_congr h).length_eq, List.length_eq_zero_iff]

/-- A text begins with a character that is no hexadecimal digit in whatever case its letters are. -/
theorem head?_congr (h : AlikeButCase t t') (a : Char)
    (other : ∀ d < 16, Nat.digitChar d ≠ a ∧ (Nat.digitChar d).toUpper ≠ a) :
    t.head? = some a ↔ t'.head? = some a := by
  cases h with
  | nil => exact Iff.rfl
  | cons here later => simpa using here.eq_iff a other

end Trimming

end PciInventory.Text
