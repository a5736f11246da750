import Mathlib.Tactic.SplitIfs
import PciInventory.Proofs.Text.Hexadecimal
import PciInventory.Text.Quoted

/-!
# What a quoted text holds

Every character of a quoted text is printable, whatever the text between the quotes was: what is not
printable is escaped, and an escape is made of letters, digits and a backslash.

Nothing is said here of reading a quoted text back.
-/
namespace PciInventory.Text

namespace Quoted

theorem isPrintable_mark (t : Text) : isPrintable (mark t) = true := by
  unfold mark
  split <;> decide

theorem isPrintable_of_mem_hexadecimal {width n : Nat} {c : Char} (h : c ∈ hexadecimal width n) :
    isPrintable c = true := by
  have digit : ∀ d < 16, isPrintable (Nat.digitChar d) = true := by decide
  rcases List.mem_append.1 h with h | h
  · rw [List.eq_of_mem_replicate h]
    decide
  · obtain ⟨d, hd, rfl⟩ := mem_toDigits (by decide) h
    exact digit d hd

theorem isPrintable_of_mem_numbered {n : Nat} {c : Char} (h : c ∈ numbered n) :
    isPrintable c = true := by
  have escape {letter : Char} {digits : Text} (hl : isPrintable letter = true)
      (hd : ∀ d ∈ digits, isPrintable d = true) (h : c ∈ '\\' :: letter :: digits) :
      isPrintable c = true := by
    simp only [List.mem_cons] at h
    rcases h with rfl | rfl | h
    · decide
    · exact hl
    · exact hd c h
  unfold numbered at h
  split at h
  · exact escape (by decide) (fun _ => isPrintable_of_mem_hexadecimal) h
  · split at h
    · exact escape (by decide) (fun _ => isPrintable_of_mem_hexadecimal) h
    · exact escape (by decide) (fun _ => isPrintable_of_mem_hexadecimal) h

theorem isPrintable_of_mem_written {quote c d : Char} (hq : isPrintable quote = true)
    (h : d ∈ written quote c) : isPrintable d = true := by
  have pair {first second : Char} (hf : isPrintable first = true) (hs : isPrintable second = true)
      (h : d ∈ [first, second]) : isPrintable d = true := by
    simp only [List.mem_cons, List.not_mem_nil, or_false] at h
    rcases h with rfl | rfl
    · exact hf
    · exact hs
  unfold written at h
  split_ifs at h with marked _ _ _ printable
  · rw [Bool.or_eq_true, decide_eq_true_eq, decide_eq_true_eq] at marked
    rcases marked with rfl | rfl
    · exact pair (by decide) hq h
    · exact pair (by decide) (by decide) h
  · exact pair (by decide) (by decide) h
  · exact pair (by decide) (by decide) h
  · exact pair (by decide) (by decide) h
  · rw [List.mem_singleton.1 h]
    exact printable
  · exact isPrintable_of_mem_numbered h

end Quoted

theorem isPrintable_of_mem_quoted {t : Text} {c : Char} (h : c ∈ quoted t) :
    isPrintable c = true := by
  have marked := Quoted.isPrintable_mark t
  simp only [quoted, List.cons_append, List.mem_cons, List.mem_append, List.mem_flatMap,
    List.not_mem_nil, or_false] at h
  rcases h with rfl | ⟨d, -, h⟩ | rfl
  · exact marked
  · exact Quoted.isPrintable_of_mem_written marked h
  · exact marked

end PciInventory.Text
