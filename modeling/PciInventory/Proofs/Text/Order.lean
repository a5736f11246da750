import Mathlib.Data.List.Lex
import PciInventory.Text.Basic

/-!
# The order of texts

Texts stand in the order of their characters' code points, a text in front of those that it begins.
Any two different texts are in order one way or the other, so sorting texts of which no two are the
same puts them in strict order.
-/
namespace PciInventory.Text

/-- The order of characters by their code points. -/
def CharBefore (c d : Char) : Prop := c.toNat < d.toNat

instance : Std.Asymm CharBefore := ⟨fun _ _ h h' => Nat.lt_asymm h h'⟩

instance : IsOrderConnected Char CharBefore := by
  refine ⟨fun c d e h => ?_⟩
  unfold CharBefore at *
  omega

instance : Std.Trichotomous CharBefore := by
  refine ⟨fun c d below above => Char.toNat_inj.1 ?_⟩
  unfold CharBefore at *
  omega

/-- Texts in the order of their characters' code points. -/
def Before (a b : Text) : Prop := List.Lex CharBefore a b

theorem comesBefore_iff {a b : Text} : comesBefore a b = true ↔ Before a b := by
  rw [comesBefore, List.lex_eq_true_iff_lex]
  simp only [decide_eq_true_eq]
  rfl

/-- Texts in order without repetition are in strict order. -/
theorem pairwise_before_of_not_before {ts : List Text}
    (rising : ts.Pairwise fun a b => ¬ Before b a) (distinct : ts.Nodup) : ts.Pairwise Before := by
  refine (rising.and distinct).imp ?_
  rintro a b ⟨above, other⟩
  by_contra below
  exact other ((List.Lex.trichotomous CharBefore).trichotomous a b below above)

/-- A text that comes before another comes before or after any third. -/
theorem Before.connected {a c : Text} (h : Before a c) (b : Text) : Before a b ∨ Before b c :=
  (List.Lex.isOrderConnected CharBefore).conn a b c h

theorem Before.asymm {a b : Text} (h : Before a b) : ¬ Before b a :=
  (List.Lex.asymm CharBefore).asymm a b h

theorem Before.ne {a b : Text} (h : Before a b) : a ≠ b := by
  rintro rfl
  exact h.asymm h

/-- Sorting puts each text of a list without repetition in its place. -/
theorem pairwise_before_mergeSort {ts : List Text} (distinct : ts.Nodup) :
    (ts.mergeSort fun a b => !comesBefore b a).Pairwise Before := by
  have atMost (a b : Text) : (!comesBefore b a) = true ↔ ¬ Before b a := by
    rw [← comesBefore_iff, Bool.not_eq_true', Bool.not_eq_true]
  have rising : (ts.mergeSort fun a b => !comesBefore b a).Pairwise
      fun a b => (!comesBefore b a) = true := by
    refine List.pairwise_mergeSort ?_ ?_ ts
    · intro a b c hab hbc
      rw [atMost] at hab hbc ⊢
      intro h
      rcases h.connected b with h | h
      · exact hbc h
      · exact hab h
    · intro a b
      rw [Bool.or_eq_true, atMost, atMost]
      by_cases h : Before b a
      · exact .inr h.asymm
      · exact .inl h
  exact pairwise_before_of_not_before (rising.imp (atMost _ _).1)
    ((List.mergeSort_perm ts _).nodup_iff.2 distinct)

theorem eq_of_pairwise_before {as bs : List Text} (ha : as.Pairwise Before)
    (hb : bs.Pairwise Before) (same : ∀ t, t ∈ as ↔ t ∈ bs) : as = bs := by
  have perm : as.Perm bs :=
    (List.perm_ext_iff_of_nodup (ha.imp Before.ne) (hb.imp Before.ne)).2 same
  exact perm.eq_of_pairwise (fun a b _ _ below above => absurd above below.asymm) ha hb

end PciInventory.Text
