import PciInventory.Proofs.FileTree.Writing

/-!
# Trees with the same files

Two trees with the same directories and files, in which only the contents of files may differ, lead
every path to the same place, list every directory alike and refuse the same paths for the same
reasons. What is read at a path is then a pair of contents that may stand in each other's place.

Which contents may do so is a relation, and nothing is assumed of it. A tree in which the content of
one file is replaced is such a tree, if the relation lets every other content stand in its own
place.
-/
namespace PciInventory.FileTree
variable {R : List UInt8 → List UInt8 → Prop} {tree tree' tree'' : FileTree}
variable {here l : Location} {name path : Text} {names : List Text} {content content' : List UInt8}

/-- What may stand in the place of what: nothing of nothing, a directory of a directory, and a file
of a file whose content is related to its own. -/
inductive InPlaceOf (R : List UInt8 → List UInt8 → Prop) : Option Entry → Option Entry → Prop where
  | nothing : InPlaceOf R none none
  | directory : InPlaceOf R (some .directory) (some .directory)
  | file {content content' : List UInt8} (related : R content content') :
      InPlaceOf R (some (.file content)) (some (.file content'))

/-- Two trees with one working directory in which everything is the same, up to the contents of
files, which are related. -/
structure SameUpTo (R : List UInt8 → List UInt8 → Prop) (tree tree' : FileTree) : Prop where
  workingDirectory : tree.workingDirectory = tree'.workingDirectory
  entry : ∀ l, InPlaceOf R (tree.entry? l) (tree'.entry? l)

theorem InPlaceOf.refl (every : ∀ content, R content content) (e : Option Entry) :
    InPlaceOf R e e := by
  cases e with
  | none => exact .nothing
  | some e =>
    cases e with
    | directory => exact .directory
    | file content => exact .file (every content)

theorem InPlaceOf.trans {e e' e'' : Option Entry}
    (further : ∀ {c c' c''}, R c c' → R c' c'' → R c c'') (h : InPlaceOf R e e')
    (h' : InPlaceOf R e' e'') : InPlaceOf R e e'' := by
  cases h with
  | nothing => exact h'
  | directory => exact h'
  | file related =>
    cases h' with
    | file related' => exact .file (further related related')

theorem InPlaceOf.eq_directory_iff {e e' : Option Entry} (h : InPlaceOf R e e') :
    e = some .directory ↔ e' = some .directory := by
  cases h with
  | nothing => rfl
  | directory => rfl
  | file related => simp

theorem InPlaceOf.exists_iff {e e' : Option Entry} (h : InPlaceOf R e e') :
    (∃ d, e = some d) ↔ ∃ d, e' = some d := by
  cases h with
  | nothing => rfl
  | directory => rfl
  | file related => simp

theorem exists_listDirectory (located : tree.locate path = .ok here)
    (directory : tree.entry? here = some .directory) :
    ∃ names, tree.listDirectory path = .ok names := by
  obtain ⟨node, found, entry⟩ := Option.map_eq_some_iff.1 directory
  cases node with
  | file content => cases entry
  | directory children =>
    simp only [listDirectory, located, bind, Except.bind, found]
    exact ⟨_, rfl⟩

theorem listDirectory_of_not_directory (located : tree.locate path = .ok here)
    (other : tree.entry? here ≠ some .directory) :
    tree.listDirectory path = .error .notADirectory := by
  simp only [listDirectory, located, bind, Except.bind]
  split
  · rename_i children found
    exact absurd (by rw [FileTree.entry?, found]; rfl) other
  · rfl

namespace SameUpTo

theorem trans (further : ∀ {c c' c''}, R c c' → R c' c'' → R c c'') (h : tree.SameUpTo R tree')
    (h' : tree'.SameUpTo R tree'') : tree.SameUpTo R tree'' :=
  ⟨h.workingDirectory.trans h'.workingDirectory, fun l => (h.entry l).trans further (h'.entry l)⟩

theorem step (h : tree.SameUpTo R tree') (here : Location) (name : Text) :
    tree.step here name = tree'.step here name := by
  have at_here := h.entry here
  have at_name := h.entry (here ++ [name])
  unfold FileTree.step
  generalize tree.entry? here = e, tree'.entry? here = e' at at_here
  generalize tree.entry? (here ++ [name]) = n, tree'.entry? (here ++ [name]) = n' at at_name
  cases at_here with
  | nothing => rfl
  | file related => rfl
  | directory =>
    cases at_name with
    | nothing => rfl
    | directory => rfl
    | file related => rfl

theorem follow (h : tree.SameUpTo R tree') (here : Location) (names : List Text) :
    tree.follow here names = tree'.follow here names := by
  induction names generalizing here with
  | nil => rfl
  | cons name rest ih =>
    rw [follow_cons, follow_cons, h.step]
    exact bind_congr ih

theorem locate (h : tree.SameUpTo R tree') (path : Text) :
    tree.locate path = tree'.locate path := by
  have start : tree.start path = tree'.start path := by
    unfold FileTree.start
    rw [h.workingDirectory]
  unfold FileTree.locate
  rw [start, h.follow]

/-- A path opens in both trees or is refused for the same reason in both. -/
theorem contentAt_cases (h : tree.SameUpTo R tree') (path : Text) :
    (∃ refusal, tree.contentAt path = .error refusal ∧ tree'.contentAt path = .error refusal) ∨
      ∃ content content', tree.contentAt path = .ok content ∧ tree'.contentAt path = .ok content' ∧
        R content content' := by
  unfold contentAt
  rw [← h.locate]
  cases tree.locate path with
  | error refusal => exact .inl ⟨refusal, rfl, rfl⟩
  | ok l =>
    have there := h.entry l
    simp only [bind, Except.bind]
    generalize tree.entry? l = e, tree'.entry? l = e' at there
    cases there with
    | nothing => exact .inl ⟨_, rfl, rfl⟩
    | directory => exact .inl ⟨_, rfl, rfl⟩
    | file related => exact .inr ⟨_, _, rfl, rfl, related⟩

theorem listDirectory (h : tree.SameUpTo R tree') (path : Text) :
    tree.listDirectory path = tree'.listDirectory path := by
  cases located : tree.locate path with
  | error refusal =>
    have located' := (h.locate path).symm.trans located
    simp only [FileTree.listDirectory, located, located', bind, Except.bind]
  | ok here =>
    have located' := (h.locate path).symm.trans located
    by_cases directory : tree.entry? here = some .directory
    · have directory' := (h.entry here).eq_directory_iff.1 directory
      obtain ⟨names, listed⟩ := exists_listDirectory located directory
      obtain ⟨names', listed'⟩ := exists_listDirectory located' directory'
      obtain ⟨rising, place, led, -, entries⟩ := listDirectory_eq_ok listed
      obtain ⟨rising', place', led', -, entries'⟩ := listDirectory_eq_ok listed'
      cases located.symm.trans led
      cases located'.symm.trans led'
      have same : names = names' := Text.eq_of_pairwise_before rising rising' fun name => by
        rw [entries, entries', (h.entry _).exists_iff]
      rw [listed, listed', same]
    · have directory' : tree'.entry? here ≠ some .directory :=
        fun there => directory ((h.entry here).eq_directory_iff.2 there)
      rw [listDirectory_of_not_directory located directory,
        listDirectory_of_not_directory located' directory']

end SameUpTo

theorem inPlaceOf_put (every : ∀ content, R content content) {n : Node}
    (file : n.below? l = some (.file content)) (related : R content content') (l' : Location) :
    InPlaceOf R ((n.below? l').map Node.entry)
      (((n.put (.file content') l).below? l').map Node.entry) := by
  induction l generalizing n l' with
  | nil =>
    cases file
    cases l' with
    | nil => exact .file related
    | cons name rest => exact .nothing
  | cons name rest ih =>
    cases n with
    | file other => cases file
    | directory children =>
      obtain ⟨child, found, file⟩ := Option.bind_eq_some_iff.1 file
      cases l' with
      | nil => exact .directory
      | cons name' rest' =>
        simp only [Node.put, Node.below?_directory, Table.get?_insert]
        by_cases same : name = name'
        · subst same
          have here : children.get? name = some child := found
          rw [if_pos rfl, here]
          exact ih file rest'
        · rw [if_neg same]
          exact .refl every _

/-- A tree in which the content of a file is replaced is the same up to that. -/
theorem sameUpTo_put (every : ∀ content, R content content)
    (file : tree.entry? l = some (.file content)) (related : R content content') :
    tree.SameUpTo R (tree.put l (.file content')) := by
  obtain ⟨node, found, entry⟩ := Option.map_eq_some_iff.1 file
  cases node with
  | directory children => cases entry
  | file other =>
    cases entry
    exact ⟨rfl, inPlaceOf_put every found related⟩

end PciInventory.FileTree
