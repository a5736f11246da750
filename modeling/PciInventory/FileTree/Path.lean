import PciInventory.Text.Basic

/-!
# Paths

Joining a directory and a name, and the normal form of a path: no empty names, no single dots, no
slash at the end. Double dots stay, because what they lead to depends on the tree.
-/
namespace PciInventory.Path

/-- Whether a path can be handed to the operating system at all. -/
def isPassable (path : Text) : Bool := !path.contains '\x00'

/-- A path inside a directory; an absolute path stays what it is. -/
def join (directory path : Text) : Text :=
  if path.head? = some '/' then path
  else if directory = [] ∨ directory.getLast? = some '/' then directory ++ path
  else directory ++ '/' :: path

/-- What an absolute path starts with: one slash, or the two that a path may start with. -/
def rootOf : Text → Text
  | '/' :: '/' :: '/' :: _ => ['/']
  | '/' :: '/' :: _ => ['/', '/']
  | '/' :: _ => ['/']
  | _ => []

def names (path : Text) : List Text :=
  (path.splitOn '/').filter fun name => name ≠ [] ∧ name ≠ ['.']

/-- A root and names as a path; without either it is the single dot. -/
def ofNames (root : Text) (ns : List Text) : Text :=
  let path := root ++ Text.joinWith ['/'] ns
  if path = [] then ['.'] else path

/-- The normal form of a path. -/
def normalize (path : Text) : Text := ofNames (rootOf path) (names path)

def parent (path : Text) : Text := ofNames (rootOf path) (names path).dropLast

/-- The paths of the directories above a path's last name, the innermost first and the one that the
path starts from last. -/
def ancestors (path : Text) : List Text :=
  let ns := names path
  (List.range (max 1 ns.length)).reverse.map fun n => ofNames (rootOf path) (ns.take n)

example : normalize "./a/../o//".toList = "a/../o".toList := by decide
example : ancestors "a/./b/o".toList = ["a/b".toList, ['a'], ['.']] := by decide

end PciInventory.Path
