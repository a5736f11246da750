import PciInventory.FileTree.Basic
import PciInventory.FileTree.Path

/-!
# Changing a file tree

Files are created or replaced, directories are made, and a place is removed with all below it.
Putting an entry at a location also makes the directories on the way to it.
-/
namespace PciInventory

namespace Node

/-- A node with an entry at a location below it, whose directories on the way are made where they
lack. A directory that is there already keeps what is in it, and below a file there is nothing. -/
def put (e : Entry) : Location → Node → Node
  | [], node =>
    match e, node with
    | .file content, _ => .file content
    | .directory, .directory children => .directory children
    | .directory, .file _ => emptyDirectory
  | _ :: _, .file content => .file content
  | name :: rest, .directory children =>
    .directory (children.insert name (put e rest ((children.get? name).getD emptyDirectory)))

def remove : Location → Node → Node
  | name :: rest, .directory children =>
    match rest, children.get? name with
    | [], _ => .directory (children.eraseWhere (· == name))
    | _, some child => .directory (children.insert name (child.remove rest))
    | _, none => .directory children
  | [], .directory _ => emptyDirectory
  | _, .file content => .file content

/-- Putting an entry at a location changes nothing at one that is neither on the way to it nor
below it. -/
theorem below?_put (e : Entry) (l l' : Location) (n : Node)
    (apart : ¬ l <+: l') (apart' : ¬ l' <+: l) :
    (n.put e l).below? l' = n.below? l' := by
  induction l generalizing n l' with
  | nil => exact absurd List.nil_prefix apart
  | cons name rest ih =>
    cases l' with
    | nil => exact absurd List.nil_prefix apart'
    | cons name' rest' =>
      cases n with
      | file content => rfl
      | directory children =>
        by_cases h : name = name'
        · subst h
          have apart : ¬ rest <+: rest' := fun p => apart (List.cons_prefix_cons.2 ⟨rfl, p⟩)
          have apart' : ¬ rest' <+: rest := fun p => apart' (List.cons_prefix_cons.2 ⟨rfl, p⟩)
          cases hc : children.get? name with
          | some child => simp [put, hc, Table.get?_insert, ih rest' child apart apart']
          | none =>
            cases rest' with
            | nil => exact absurd List.nil_prefix apart'
            | cons name'' rest'' =>
              have := ih (name'' :: rest'') emptyDirectory apart apart'
              simpa [put, hc, Table.get?_insert, emptyDirectory] using this
        · simp [put, Table.get?_insert, h]

theorem Proper.insert {children : Table Text Node} {child : Node}
    (h : (Node.directory children).Proper) (name : Text) (hc : child.Proper) :
    (Node.directory (children.insert name child)).Proper := by
  cases h with
  | directory _ distinct below =>
    refine .directory _ (Table.nodup_keys_insert distinct name child) ?_
    intro name' child' found
    rw [Table.get?_insert] at found
    split at found
    · cases found
      exact hc
    · exact below name' child' found

theorem Proper.put {n : Node} (h : n.Proper) (e : Entry) (l : Location) : (n.put e l).Proper := by
  induction l generalizing n with
  | nil =>
    cases e with
    | file content => exact .file content
    | directory =>
      cases h with
      | file content => exact .emptyDirectory
      | directory children distinct below => exact .directory children distinct below
  | cons name rest ih =>
    cases h with
    | file content => exact .file content
    | directory children distinct below =>
      apply Proper.insert (.directory children distinct below)
      cases hc : children.get? name with
      | none => exact ih .emptyDirectory
      | some child => exact ih (below name child hc)

theorem Proper.remove {n : Node} (h : n.Proper) (l : Location) : (n.remove l).Proper := by
  induction l generalizing n with
  | nil =>
    cases h with
    | file content => exact .file content
    | directory children distinct below => exact .emptyDirectory
  | cons name rest ih =>
    cases h with
    | file content => exact .file content
    | directory children distinct below =>
      cases rest with
      | nil =>
        refine .directory _ (Table.nodup_keys_eraseWhere distinct _) ?_
        intro name' child' found
        rw [Table.get?_eraseWhere] at found
        split at found
        · cases found
        · exact below name' child' found
      | cons name' rest =>
        cases hc : children.get? name with
        | none => simpa [Node.remove, hc] using Proper.directory children distinct below
        | some child =>
          simpa [Node.remove, hc] using
            (Proper.directory children distinct below).insert name (ih (below name child hc))

end Node

namespace FileTree

def put (tree : FileTree) (l : Location) (e : Entry) : FileTree :=
  { tree with top := tree.top.put e l, proper := tree.proper.put e l }

/-- A tree with nothing in it but the way to its working directory. -/
def empty (workingDirectory : Location) : FileTree :=
  ⟨Node.emptyDirectory.put .directory workingDirectory, workingDirectory,
    .put .emptyDirectory .directory workingDirectory⟩

def remove (tree : FileTree) (l : Location) : FileTree :=
  { tree with
    top := (tree.top.remove l).put .directory tree.workingDirectory
    proper := (tree.proper.remove l).put .directory tree.workingDirectory }

/-- The directory that a path's last name is looked up in, and that name. -/
def parentOf (tree : FileTree) (path : Text) : Except Refusal (Location × Text) :=
  if path = [] then .error .notFound
  else if pathLimit < byteCount path then .error .nameTooLong
  else do
    let names := path.splitOn '/'
    let parent ← tree.follow (tree.start path) names.dropLast
    match tree.entry? parent with
    | some .directory => .ok (parent, names.getLastD [])
    | some (.file _) => .error .notADirectory
    | none => .error .notFound

/-- Whether a name stands for a directory that is already there. -/
def isStanding (name : Text) : Bool := name == [] || name == ['.'] || name == ['.', '.']

/-- Follows some names from a location and makes the directories that lack. The last name has to
lead to a directory. If a name is refused, the directories in front of it have been made. -/
def makeFrom (tree : FileTree) (here : Location) : List Text → FileTree × Option Refusal
  | [] => (tree, if tree.entry? here = some .directory then none else some .alreadyExists)
  | name :: rest =>
    match tree.step here name with
    | .ok next => tree.makeFrom next rest
    | .error .notFound => (tree.put (here ++ [name]) .directory).makeFrom (here ++ [name]) rest
    | .error r => (tree, some r)

/-- Makes the directory at a path and those on the way to it, as far as they lack, up to the first
that is refused. -/
def makeDirectories (tree : FileTree) (path : Text) : FileTree × Option Refusal :=
  if pathLimit < byteCount path then (tree, some .nameTooLong)
  else tree.makeFrom (tree.start path) (Path.names path)

/-- How many of some names are left at the first that is not found. -/
def missingFrom (tree : FileTree) (here : Location) : List Text → Nat
  | [] => 0
  | name :: rest =>
    match tree.step here name with
    | .ok next => tree.missingFrom next rest
    | .error .notFound => rest.length + 1
    | .error _ => 0

/-- How many directories lack on the way to a path and at it; a path that is too long is not
followed. -/
def missing (tree : FileTree) (path : Text) : Nat :=
  if pathLimit < byteCount path then 0 else tree.missingFrom (tree.start path) (Path.names path)

/-- Writes a file at a path, in place of the one that is there. -/
def writeFile (tree : FileTree) (path : Text) (content : List UInt8) : Except Refusal FileTree := do
  let (parent, name) ← tree.parentOf path
  if isStanding name then .error .isADirectory
  else if nameLimit < byteCount name then .error .nameTooLong
  else match tree.entry? (parent ++ [name]) with
    | some .directory => .error .isADirectory
    | _ => .ok (tree.put (parent ++ [name]) (.file content))

end FileTree

end PciInventory
