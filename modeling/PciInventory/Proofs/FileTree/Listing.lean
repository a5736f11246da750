import PciInventory.FileTree.Basic
import PciInventory.Proofs.Text.Order

/-!
# Listing a directory

A listing has the name of each entry of the directory exactly once, in the order of the characters'
code points. That no name comes twice rests on a tree having none twice.
-/
namespace PciInventory

theorem except_bind_eq_ok {E A B : Type} {first : Except E A} {next : A → Except E B} {b : B} :
    (first >>= next) = .ok b ↔ ∃ a, first = .ok a ∧ next a = .ok b := by
  cases first with
  | error e => exact ⟨nofun, fun ⟨_, h, _⟩ => nomatch h⟩
  | ok a => exact ⟨fun h => ⟨a, rfl, h⟩, fun ⟨_, h, h'⟩ => by cases h; exact h'⟩

theorem Node.below?_append_singleton (n : Node) (l : Location) (name : Text) :
    n.below? (l ++ [name]) = (n.below? l).bind (·.child? name) := by
  induction l generalizing n with
  | nil => cases h : n.child? name <;> simp [below?, h]
  | cons first rest ih =>
    rw [List.cons_append, below?, below?]
    cases h : n.child? first with
    | none => rfl
    | some child => exact ih child

namespace FileTree

/-- A listing is of a directory, and has in rising order the names under which it has something. -/
theorem listDirectory_eq_ok {tree : FileTree} {path : Text} {names : List Text}
    (h : tree.listDirectory path = .ok names) : names.Pairwise Text.Before ∧
      ∃ here, tree.locate path = .ok here ∧ tree.entry? here = some .directory ∧
        ∀ name, name ∈ names ↔ ∃ entry, tree.entry? (here ++ [name]) = some entry := by
  obtain ⟨here, located, h⟩ := except_bind_eq_ok.1 h
  split at h
  · rename_i children at_here
    cases h
    have distinct : children.keys.Nodup := by
      cases tree.proper.below? at_here with
      | directory _ distinct _ => exact distinct
    refine ⟨Text.pairwise_before_mergeSort distinct, here, located,
      by simp [at_here, entry?, Node.entry], ?_⟩
    intro name
    rw [List.mem_mergeSort, ← Table.get?_isSome_iff, ← Option.isSome_iff_exists, entry?,
      Node.below?_append_singleton, at_here, Option.bind_some, Node.child?, Option.isSome_map]
  · cases h

end FileTree

end PciInventory
