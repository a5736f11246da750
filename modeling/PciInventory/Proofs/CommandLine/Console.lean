import PciInventory.CommandLine.Scan
import PciInventory.Proofs.Json.Printing
import PciInventory.Proofs.Terminal.Alerts
import PciInventory.Terminal.Printing

/-!
# What the commands rely on in a console

What is said here of scans holds on every console that keeps three promises: a visible line is
printed as it is, and a message is printed to its end if all its tags are the program's own, be it
that the rest of it was escaped or that there is no bracket in it. Nothing else is asked: neither
what becomes of the words of a message nor where its lines are broken.

The plain console keeps the promises, so they can be kept.
-/
namespace PciInventory

/-- A console that keeps the promises. -/
structure Console.IsSound (C : Console) : Prop where
  line_of_isVisible {t : Text} (visible : Text.IsVisible t) : C.line t = t ++ ['\n']
  message_alert {t : Text} (free : Cell.joiner ∉ t) : (C.message (Markup.alert t)).2 = none
  message_styled {style words rest : Text} (named : style ∈ ["red".toList, "green".toList])
    (hw : '[' ∉ words) (hw' : Cell.joiner ∉ words) (hr : '[' ∉ rest) (hr' : Cell.joiner ∉ rest) :
    (C.message (Markup.styled style words ++ rest)).2 = none

theorem Markup.namesStyle_of_mem {style : Text} (h : style ∈ ["red".toList, "green".toList]) :
    NamesStyle style := by
  simp only [List.mem_cons, List.not_mem_nil, or_false] at h
  rcases h with rfl | rfl
  · exact namesStyle_red
  · exact namesStyle_green

theorem Console.isSound_plain : plain.IsSound where
  line_of_isVisible := Terminal.line_of_isVisible
  message_alert := Terminal.message_alert
  message_styled named := Terminal.message_styled (Markup.namesStyle_of_mem named)

namespace Scan
variable {C : Console}

theorem message_foreignPlatform (sound : C.IsSound) : (C.message foreignPlatform).2 = none := by
  have told : foreignPlatform = Markup.styled "red".toList
      "Non-Linux OS detected; point PCISCOPE_SYSFS_PCI at a sysfs tree.".toList ++ [] := by
    decide +kernel
  rw [told]
  exact sound.message_styled List.mem_cons_self (by decide +kernel) (by decide +kernel)
    List.not_mem_nil List.not_mem_nil

/-- What is said of a saved file, apart into the words in green and the path behind them. -/
theorem savedMessage_eq (count : Nat) (path : Text) :
    savedMessage count path = Markup.styled "green".toList
      ("Wrote ".toList ++ Text.ofNat count ++ " observations to".toList) ++ ' ' :: path := by
  -- the words are named before texts are put together, so that no word is compared with another
  have joined (style front words digits middle words' : Text)
      (hf : front = '[' :: style ++ ']' :: words)
      (hm : middle = words' ++ ('[' :: '/' :: style ++ [']', ' '])) :
      front ++ digits ++ middle ++ path =
        Markup.styled style (words ++ digits ++ words') ++ ' ' :: path := by
    subst hf hm
    simp [Markup.styled]
  exact joined "green".toList "[green]Wrote ".toList "Wrote ".toList _
    " observations to[/green] ".toList " observations to".toList (by simp) (by simp)

/-- For a path without opening brackets, what is said of a saved file is printed to its end. -/
theorem message_savedMessage (sound : C.IsSound) {path : Text} (count : Nat) (plain : '[' ∉ path)
    (free : Cell.joiner ∉ path) : (C.message (savedMessage count path)).2 = none := by
  have inside (c : Char) (hw : c ∉ "Wrote ".toList) (ho : c ∉ " observations to".toList)
      (digit : ∀ d < 10, Nat.digitChar d ≠ c) :
      c ∉ "Wrote ".toList ++ Text.ofNat count ++ " observations to".toList := by
    simp only [List.mem_append, not_or]
    exact ⟨⟨hw, Text.not_mem_toDigits (by decide) digit count⟩, ho⟩
  rw [savedMessage_eq]
  exact sound.message_styled (List.mem_cons_of_mem _ List.mem_cons_self)
    (inside '[' (by decide) (by decide) (by decide))
    (inside Cell.joiner (by decide) (by decide) (by decide))
    (List.not_mem_cons_of_ne_of_not_mem (by decide) plain)
    (List.not_mem_cons_of_ne_of_not_mem (by decide) free)

end Scan

end PciInventory
