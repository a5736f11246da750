import PciInventory.Text.Basic

/-!
# Spans of code points

A class of characters is kept as the spans of consecutive code points that it covers.
-/
namespace PciInventory.Text

/-- Code point spans, each from its first to its last member. -/
abbrev Spans := List (Nat × Nat)

def Spans.contains (spans : Spans) (n : Nat) : Bool :=
  spans.any fun span => decide (span.1 ≤ n) && decide (n ≤ span.2)

theorem Spans.contains_iff {spans : Spans} {n : Nat} :
    spans.contains n = true ↔ ∃ span ∈ spans, span.1 ≤ n ∧ n ≤ span.2 := by
  simp [contains]

end PciInventory.Text
