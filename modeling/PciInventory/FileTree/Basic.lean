import PciInventory.Table
import PciInventory.Text.Quoted
import PciInventory.Text.Utf8

/-!
# File trees

A file tree is a directory with files and directories in it, and so on. A path is followed step by
step from the top or from the working directory, and every step but the last has to lead to a
directory. The ways in which following a path can fail are the ones an
operating system reports, with its numbers and its words.
-/
namespace PciInventory

/-- The names on the way from the top of a tree to a place in it. -/
abbrev Location := List Text

/-- What is at a place. -/
inductive Entry where
  | directory
  | file (content : List UInt8)
  deriving DecidableEq

/-- What is at a place, with all that lies below it. -/
inductive Node where
  | file (content : List UInt8)
  | directory (children : Table Text Node)

namespace Node

def emptyDirectory : Node := .directory .empty

def entry : Node → Entry
  | .file content => .file content
  | .directory _ => .directory

def child? : Node → Text → Option Node
  | .file _, _ => none
  | .directory children, name => children.get? name

def below? (n : Node) : Location → Option Node
  | [] => some n
  | name :: rest => (n.child? name).bind (·.below? rest)

@[simp] theorem below?_file (content : List UInt8) (name : Text) (rest : Location) :
    (file content).below? (name :: rest) = none := rfl

@[simp] theorem below?_directory (children : Table Text Node) (name : Text) (rest : Location) :
    (directory children).below? (name :: rest) = (children.get? name).bind (·.below? rest) := rfl

/-- A node in which, and below which, no directory has a name twice. -/
inductive Proper : Node → Prop where
  | file (content : List UInt8) : Proper (.file content)
  | directory (children : Table Text Node) (distinct : children.keys.Nodup)
      (below : ∀ name child, children.get? name = some child → Proper child) :
      Proper (.directory children)

theorem Proper.emptyDirectory : Proper emptyDirectory :=
  .directory .empty List.nodup_nil fun _ _ h => nomatch h

theorem Proper.below? {n m : Node} (h : n.Proper) {l : Location} (found : n.below? l = some m) :
    m.Proper := by
  induction l generalizing n with
  | nil =>
    cases found
    exact h
  | cons name rest ih =>
    cases h with
    | file content => simp at found
    | directory children distinct below =>
      obtain ⟨child, hc, found⟩ := Option.bind_eq_some_iff.1 found
      exact ih (below name child hc) found

end Node

/-- Why an operating system refuses a path. -/
inductive Refusal where
  | notFound
  | alreadyExists
  | notADirectory
  | isADirectory
  | nameTooLong
  deriving DecidableEq

namespace Refusal

def number : Refusal → Nat
  | .notFound => 2
  | .alreadyExists => 17
  | .notADirectory => 20
  | .isADirectory => 21
  | .nameTooLong => 36

def wording : Refusal → Text
  | .notFound => "No such file or directory".toList
  | .alreadyExists => "File exists".toList
  | .notADirectory => "Not a directory".toList
  | .isADirectory => "Is a directory".toList
  | .nameTooLong => "File name too long".toList

/-- A refusal of a path as it is reported. -/
def message (r : Refusal) (path : Text) : Text :=
  "[Errno ".toList ++ Text.ofNat r.number ++ "] ".toList ++ r.wording ++ ": ".toList ++
    Text.quoted path

end Refusal

/-- Directories and files, and the directory that relative paths start from. No directory has a name
twice. -/
structure FileTree where
  top : Node
  workingDirectory : Location
  proper : top.Proper

namespace FileTree

def entry? (tree : FileTree) (l : Location) : Option Entry := (tree.top.below? l).map Node.entry

/-- The most bytes of a name, as on the common file systems of the home platform. -/
def nameLimit : Nat := 255

/-- The most bytes of a path that the home platform takes, without the zero behind it. -/
def pathLimit : Nat := 4095

def byteCount (t : Text) : Nat := (Text.Utf8.encode t).length

/-- One step of a path. A name is looked up only from a directory, and two names stand for
directories that are there already. -/
def step (tree : FileTree) (here : Location) (name : Text) : Except Refusal Location :=
  match tree.entry? here with
  | some .directory =>
    if name = [] ∨ name = ['.'] then .ok here
    else if name = ['.', '.'] then .ok here.dropLast
    else if nameLimit < byteCount name then .error .nameTooLong
    else match tree.entry? (here ++ [name]) with
      | some _ => .ok (here ++ [name])
      | none => .error .notFound
  | some (.file _) => .error .notADirectory
  | none => .error .notFound

def start (tree : FileTree) : Text → Location
  | '/' :: _ => []
  | _ => tree.workingDirectory

def follow (tree : FileTree) (here : Location) (names : List Text) : Except Refusal Location :=
  names.foldlM tree.step here

/-- Where a path leads. The empty path leads nowhere. -/
def locate (tree : FileTree) (path : Text) : Except Refusal Location :=
  if path = [] then .error .notFound
  else if pathLimit < byteCount path then .error .nameTooLong
  else tree.follow (tree.start path) (path.splitOn '/')

/-- The bytes of the file at a path. -/
def contentAt (tree : FileTree) (path : Text) : Except Refusal (List UInt8) := do
  match tree.entry? (← tree.locate path) with
  | some (.file content) => .ok content
  | some .directory => .error .isADirectory
  | none => .error .notFound

/-- The names in the directory at a path, in rising order. -/
def listDirectory (tree : FileTree) (path : Text) : Except Refusal (List Text) := do
  match tree.top.below? (← tree.locate path) with
  | some (.directory children) => .ok (children.keys.mergeSort fun a b => !Text.comesBefore b a)
  | _ => .error .notADirectory

end FileTree

end PciInventory
