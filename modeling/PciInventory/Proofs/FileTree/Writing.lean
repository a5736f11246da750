import PciInventory.FileTree.Writing
import PciInventory.Proofs.FileTree.Following

/-!
# What writing a file changes

Writing a file changes what is at one location, and only what is there and below it; behind the path
that it was written to the file is then read back. The way to it stays, because a directory that a
path goes through is not below a place which is itself no directory.

Making directories changes nothing that is there, also if it comes to a name that is refused.
-/
namespace PciInventory

namespace Node

/-- Whether a location below a node is a directory. -/
def IsDirectoryAt (n : Node) (l : Location) : Prop := (n.below? l).map entry = some .directory

theorem isDirectoryAt_nil {n : Node} (h : n.IsDirectoryAt []) :
    ∃ children, n = directory children := by
  cases n with
  | file content => cases h
  | directory children => exact ⟨children, rfl⟩

theorem isDirectoryAt_cons {n : Node} {name : Text} {rest : Location}
    (h : n.IsDirectoryAt (name :: rest)) :
    ∃ children child, n = directory children ∧ children.get? name = some child ∧
      child.IsDirectoryAt rest := by
  cases n with
  | file content => cases h
  | directory children =>
    cases found : children.get? name with
    | none => simp [IsDirectoryAt, found] at h
    | some child => exact ⟨children, child, rfl, found, by simpa [IsDirectoryAt, found] using h⟩

/-- What is on the way to a directory is a directory. -/
theorem IsDirectoryAt.of_append {n : Node} {l rest : Location} (h : n.IsDirectoryAt (l ++ rest)) :
    n.IsDirectoryAt l := by
  induction l generalizing n with
  | nil =>
    cases rest with
    | nil => exact h
    | cons name rest =>
      obtain ⟨children, -, rfl, -⟩ := isDirectoryAt_cons h
      rfl
  | cons name l ih =>
    obtain ⟨children, child, rfl, found, h⟩ := isDirectoryAt_cons h
    simpa [IsDirectoryAt, found] using ih h

/-- Putting an entry into a directory leaves a directory on the way to it what it is. -/
theorem IsDirectoryAt.put {n : Node} {l rest : Location} (h : n.IsDirectoryAt l) (e : Entry)
    (below : rest ≠ []) : (n.put e (l ++ rest)).IsDirectoryAt l := by
  induction l generalizing n with
  | nil =>
    obtain ⟨children, rfl⟩ := isDirectoryAt_nil h
    obtain ⟨name, rest, rfl⟩ := List.exists_cons_of_ne_nil below
    rfl
  | cons name l ih =>
    obtain ⟨children, child, rfl, found, h⟩ := isDirectoryAt_cons h
    simpa [IsDirectoryAt, Node.put, found, Table.get?_insert] using ih h

theorem IsDirectoryAt.below?_put {n : Node} {l : Location} (h : n.IsDirectoryAt l) (name : Text)
    (content : List UInt8) :
    (n.put (.file content) (l ++ [name])).below? (l ++ [name]) = some (.file content) := by
  induction l generalizing n with
  | nil =>
    obtain ⟨children, rfl⟩ := isDirectoryAt_nil h
    simp [Node.put, Node.below?, Table.get?_insert]
  | cons first l ih =>
    obtain ⟨children, child, rfl, found, h⟩ := isDirectoryAt_cons h
    simpa [Node.put, found, Table.get?_insert] using ih h

/-- Putting a directory where no file is keeps every entry, and what is new is a directory. -/
theorem entry_put_directory {n : Node} {l : Location}
    (free : ∀ content, n.below? l ≠ some (.file content)) (l' : Location) :
    ((n.put .directory l).below? l').map entry = (n.below? l').map entry ∨
      ((n.below? l').map entry = none ∧
        ((n.put .directory l).below? l').map entry = some .directory) := by
  induction l generalizing n l' with
  | nil =>
    cases n with
    | file content => exact absurd rfl (free content)
    | directory children => exact .inl rfl
  | cons name rest ih =>
    cases n with
    | file content => exact .inl rfl
    | directory children =>
      cases l' with
      | nil => exact .inl rfl
      | cons name' rest' =>
        by_cases same : name = name'
        · subst same
          cases found : children.get? name with
          | some child =>
            have free : ∀ content, child.below? rest ≠ some (.file content) := by
              simpa [found] using free
            simpa [Node.put, found, Table.get?_insert] using ih free rest'
          | none =>
            -- what lacks is made as an empty directory, which has no file in it either
            have vacant : ∀ content, emptyDirectory.below? rest ≠ some (.file content) := by
              intro content found
              cases rest with
              | nil => cases found
              | cons name rest => cases found
            rw [put, found, below?_directory, Table.get?_insert, if_pos rfl, below?_directory,
              found]
            cases rest' with
            | nil =>
              refine .inr ⟨rfl, ?_⟩
              cases rest with
              | nil => rfl
              | cons name rest => rfl
            | cons name' rest' =>
              rcases ih vacant (name' :: rest') with same | ⟨-, made⟩
              · exact .inl same
              · exact .inr ⟨rfl, made⟩
        · exact .inl (by simp [Node.put, Table.get?_insert, same])

end Node

namespace FileTree
variable {tree tree' tree'' : FileTree} {here next parent place : Location} {name path : Text}

/-- A tree that has all that another one has, and besides that only directories. -/
def GainsDirectories (tree tree' : FileTree) : Prop :=
  ∀ l, tree'.entry? l = tree.entry? l ∨ (tree.entry? l = none ∧ tree'.entry? l = some .directory)

theorem GainsDirectories.refl (tree : FileTree) : tree.GainsDirectories tree := fun _ => .inl rfl

theorem GainsDirectories.trans (first : tree.GainsDirectories tree')
    (second : tree'.GainsDirectories tree'') : tree.GainsDirectories tree'' := by
  intro l
  rcases first l with same | ⟨vacant, made⟩
  · rw [← same]
    exact second l
  · refine .inr ⟨vacant, ?_⟩
    rcases second l with kept | ⟨vacant', -⟩
    · rw [kept, made]
    · rw [made] at vacant'
      cases vacant'

theorem gainsDirectories_put (vacant : tree.entry? here = none) :
    tree.GainsDirectories (tree.put here .directory) := by
  intro l
  refine Node.entry_put_directory (fun content found => ?_) l
  simp [ entry?, found] at vacant

theorem entry?_of_step (missing : tree.step here name = .error .notFound) :
    tree.entry? (here ++ [name]) = none := by
  unfold step at missing
  split at missing
  · grind
  · cases missing
  · rename_i vacant
    rw [ entry?, Node.below?_append_singleton]
    simp_all [ entry?]

theorem gainsDirectories_makeFrom (tree : FileTree) (here : Location) (names : List Text) :
    tree.GainsDirectories (tree.makeFrom here names).1 := by
  induction names generalizing tree here with
  | nil => exact .refl tree
  | cons name rest ih =>
    unfold makeFrom
    split
    · exact ih tree _
    · rename_i missing
      exact (gainsDirectories_put (entry?_of_step missing)).trans (ih _ _)
    · exact .refl tree

theorem gainsDirectories_makeDirectories (tree : FileTree) (path : Text) :
    tree.GainsDirectories (tree.makeDirectories path).1 := by
  unfold makeDirectories
  split
  · exact .refl tree
  · exact gainsDirectories_makeFrom tree _ _

theorem step_isDirectory (h : tree.step here name = .ok next) :
    tree.entry? here = some .directory := by
  unfold step at h
  split at h
  · assumption
  · cases h
  · cases h

/-- Putting an entry into a directory changes nothing outside the place where it is put. -/
theorem alikeOutside_put (directory : tree.entry? parent = some .directory) (name : Text)
    (e : Entry) : tree.AlikeOutside (tree.put (parent ++ [name]) e) (parent ++ [name]) := by
  refine ⟨rfl, fun l apart => ?_⟩
  by_cases way : l <+: parent ++ [name]
  · have above : l <+: parent := by
      rcases List.prefix_concat_iff.1 way with same | above
      · exact absurd (same ▸ List.prefix_rfl) apart
      · exact above
    obtain ⟨rest, rfl⟩ := above
    have before : tree.top.IsDirectoryAt l := Node.IsDirectoryAt.of_append directory
    have after : (tree.top.put e (l ++ (rest ++ [name]))).IsDirectoryAt l :=
      before.put e (by simp)
    rw [← List.append_assoc] at after
    exact Eq.trans before after.symm
  · rw [ entry?, entry?, put, Node.below?_put e _ l _ apart way]

/-- A directory is not below a place that is none. -/
theorem not_prefix_of_directory (vacant : tree.entry? place ≠ some .directory)
    (directory : tree.entry? here = some .directory) : ¬ place <+: here := by
  rintro ⟨rest, rfl⟩
  have above : tree.top.IsDirectoryAt place := Node.IsDirectoryAt.of_append directory
  exact vacant above

/-- A step between two locations outside a place is the same step in a tree that is alike there. -/
theorem AlikeOutside.step (alike : tree.AlikeOutside tree' place)
    (h : tree.step here name = .ok next) (apart : ¬ place <+: here) (apart' : ¬ place <+: next) :
    tree'.step here name = .ok next := by
  have directory := step_isDirectory h
  unfold FileTree.step at h ⊢
  rw [← alike.entry here apart]
  rw [directory] at h ⊢
  simp only at h ⊢
  split at h
  · rw [if_pos ‹_›]
    exact h
  · rw [if_neg ‹_›]
    split at h
    · rw [if_pos ‹_›]
      exact h
    · rw [if_neg ‹_›]
      split at h
      · cases h
      · rw [if_neg ‹_›]
        split at h
        · rename_i found
          cases h
          rw [← alike.entry _ apart', found]
        · cases h

/-- Steps that end in a directory are the same steps in a tree that is alike outside a place which
is no directory. -/
theorem AlikeOutside.follow (alike : tree.AlikeOutside tree' place)
    (vacant : tree.entry? place ≠ some .directory) {names : List Text}
    (h : tree.follow here names = .ok parent) (directory : tree.entry? parent = some .directory) :
    tree'.follow here names = .ok parent := by
  induction names generalizing here with
  | nil => exact h
  | cons name rest ih =>
    obtain ⟨next, stepped, h⟩ := except_bind_eq_ok.1 h
    have ends : tree.entry? next = some .directory := by
      cases rest with
      | nil =>
        cases h
        exact directory
      | cons name' rest =>
        obtain ⟨next', stepped', -⟩ := except_bind_eq_ok.1 h
        exact step_isDirectory stepped'
    have same : tree'.step here name = .ok next := alike.step stepped
      (not_prefix_of_directory vacant (step_isDirectory stepped))
      (not_prefix_of_directory vacant ends)
    exact except_bind_eq_ok.2 ⟨next, same, ih h⟩

theorem step_to_file (directory : tree.entry? here = some .directory)
    (plain : isStanding name = false) (short : byteCount name ≤ nameLimit) {e : Entry}
    (found : tree.entry? (here ++ [name]) = some e) :
    tree.step here name = .ok (here ++ [name]) := by
  simp only [isStanding, Bool.or_eq_false_iff, beq_eq_false_iff_ne] at plain
  obtain ⟨⟨filled, dot⟩, dots⟩ := plain
  simp only [step, directory, found]
  rw [if_neg (not_or.2 ⟨filled, dot⟩), if_neg dots, if_neg (Nat.not_lt.2 short)]

theorem parentOf_eq_ok (h : tree.parentOf path = .ok (parent, name)) :
    ∃ names, path.splitOn '/' = names ++ [name] ∧ path ≠ [] ∧ byteCount path ≤ pathLimit ∧
      tree.follow (tree.start path) names = .ok parent ∧ tree.entry? parent = some .directory := by
  unfold parentOf at h
  split at h
  · cases h
  · rename_i filled
    split at h
    · cases h
    · rename_i short
      obtain ⟨here, followed, h⟩ := except_bind_eq_ok.1 h
      split at h
      · rename_i directory
        cases h
        refine ⟨_, ?_, filled, Nat.le_of_not_lt short, followed, directory⟩
        have names := List.splitOn_ne_nil '/' path
        rw [List.getLastD_eq_getLast?, List.getLast?_eq_some_getLast names, Option.getD_some,
          List.dropLast_concat_getLast]
      · cases h
      · cases h

/-- A file is written into a directory, where it takes the place of a file or of nothing. -/
theorem writeFile_eq_ok {content : List UInt8} (h : tree.writeFile path content = .ok tree') :
    ∃ parent name, tree.parentOf path = .ok (parent, name) ∧ isStanding name = false ∧
      byteCount name ≤ nameLimit ∧ tree.entry? (parent ++ [name]) ≠ some .directory ∧
      tree' = tree.put (parent ++ [name]) (.file content) := by
  obtain ⟨⟨parent, name⟩, found, h⟩ := except_bind_eq_ok.1 h
  simp only at h
  split at h
  · cases h
  · rename_i plain
    split at h
    · cases h
    · rename_i short
      split at h
      · cases h
      · rename_i vacant
        cases h
        exact ⟨parent, name, found, by simpa using plain, Nat.le_of_not_lt short, vacant, rfl⟩

/-- Behind the path that a file was written to it is read back, and outside its place nothing has
changed. -/
theorem contentAt_writeFile {content : List UInt8} (h : tree.writeFile path content = .ok tree') :
    tree'.contentAt path = .ok content ∧
      ∃ place, tree'.locate path = .ok place ∧ tree.AlikeOutside tree' place := by
  obtain ⟨parent, name, found, plain, brief, vacant, rfl⟩ := writeFile_eq_ok h
  obtain ⟨names, split, filled, short, followed, directory⟩ := parentOf_eq_ok found
  have alike := alikeOutside_put directory name (.file content)
  have written : FileTree.entry? (tree.put (parent ++ [name]) (.file content)) (parent ++ [name]) =
      some (.file content) := by
    rw [ entry?, put, Node.IsDirectoryAt.below?_put directory]
    rfl
  have kept : FileTree.entry? (tree.put (parent ++ [name]) (.file content)) parent =
      some .directory := by
    rw [← alike.entry parent (not_prefix_of_directory vacant directory), directory]
  have located : (tree.put (parent ++ [name]) (.file content)).locate path =
      .ok (parent ++ [name]) := by
    rw [locate, if_neg filled, if_neg (Nat.not_lt.2 short), split, follow_append]
    refine except_bind_eq_ok.2 ⟨parent, alike.follow vacant followed directory, ?_⟩
    rw [follow_singleton]
    exact step_to_file kept plain brief written
  refine ⟨?_, parent ++ [name], located, alike⟩
  rw [contentAt, located]
  simp only [bind, Except.bind, written]

end FileTree

end PciInventory
