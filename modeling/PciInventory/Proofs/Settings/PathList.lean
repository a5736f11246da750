import PciInventory.Settings

/-!
# Lists of paths in one text

Several paths are put into one text with colons between them. There may be more colons than needed,
and some in front of the first path and behind the last. Reading such a text finds exactly the paths
that it was made of, and every text is a list of the paths that are found in it.

A path of a list is neither empty nor has it a colon in it: nothing else is asked of it here, and a
colon in a path cannot be written in any way.
-/
namespace PciInventory.Settings

/-- What may stand between two colons as a path. -/
structure IsPath (p : Text) : Prop where
  filled : p ≠ []
  noColon : ':' ∉ p

/-- A text that lists some paths: any number of colons first, then a path, then a colon and the list
of the other paths. Behind the last path the text may end, or colons follow. -/
inductive IsListing : List Text → Text → Prop
  | nothing (n : Nat) : IsListing [] (List.replicate n ':')
  | last (n : Nat) {p : Text} (path : IsPath p) : IsListing [p] (List.replicate n ':' ++ p)
  | next (n : Nat) {p v : Text} {ps : List Text} (path : IsPath p) (others : IsListing ps v) :
    IsListing (p :: ps) (List.replicate n ':' ++ (p ++ ':' :: v))

/-- One more colon in front makes no difference. -/
theorem IsListing.colon {ps : List Text} {v : Text} (h : IsListing ps v) :
    IsListing ps (':' :: v) := by
  cases h with
  | nothing n => exact .nothing (n + 1)
  | last n path => exact .last (n + 1) path
  | next n path others => exact .next (n + 1) path others

theorem paths_append_colon (u v : Text) : paths (u ++ ':' :: v) = paths u ++ paths v := by
  rw [paths, List.splitOn_append_cons_self, List.filter_append]
  rfl

theorem paths_colons_append (n : Nat) (v : Text) : paths (List.replicate n ':' ++ v) = paths v := by
  induction n with
  | zero => rfl
  | succ n ih =>
    rw [List.replicate_succ, List.cons_append, ← ih]
    exact paths_append_colon [] _

theorem IsPath.paths_eq {p : Text} (path : IsPath p) : paths p = [p] := by
  rw [paths, List.splitOn_eq_singleton path.noColon, List.filter_cons_of_pos, List.filter_nil]
  simp [path.filled]

/-- Reading a list gives back the paths that it was made of. -/
theorem IsListing.paths_eq {ps : List Text} {v : Text} (h : IsListing ps v) : paths v = ps := by
  induction h with
  | nothing n =>
    have read := paths_colons_append n []
    rwa [List.append_nil] at read
  | last n path => rw [paths_colons_append, path.paths_eq]
  | next n path _ ih =>
    rw [paths_colons_append, paths_append_colon, path.paths_eq, ih, List.singleton_append]

/-- Whatever the text is, it lists the paths that are found in it. -/
theorem isListing_paths (v : Text) : IsListing (paths v) v := by
  -- The induction is on the length: what stands behind the first colon is a shorter text.
  induction size : v.length using Nat.strongRecOn generalizing v with
  | ind n ih =>
    by_cases colon : ':' ∈ v
    · obtain ⟨p, rest, rfl, noColon⟩ := List.eq_append_cons_of_mem colon
      have others : IsListing (paths rest) rest := by
        refine ih rest.length ?_ rest rfl
        rw [← size, List.length_append, List.length_cons]
        omega
      rw [paths_append_colon]
      by_cases filled : p = []
      · subst filled
        exact others.colon
      · have path : IsPath p := ⟨filled, noColon⟩
        rw [path.paths_eq]
        exact .next 0 path others
    · by_cases filled : v = []
      · subst filled
        exact .nothing 0
      · have path : IsPath v := ⟨filled, colon⟩
        rw [path.paths_eq]
        exact .last 0 path

theorem paths_eq_iff {ps : List Text} {v : Text} : paths v = ps ↔ IsListing ps v :=
  ⟨fun h => h ▸ isListing_paths v, IsListing.paths_eq⟩

end PciInventory.Settings
