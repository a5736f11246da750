import PciInventory.Notice
import PciInventory.Number.WholeLiteral

/-!
# Rows of the module list

A row of the module list has words for a module's name, its size, its reference count, its users,
its state, and more. A row of fewer than five words is no row. A size or count that is no whole
number, or else a state that is none of three, makes the row drop out with a warning. A whole
number beyond the largest binary64 number ends the reading.
-/
namespace PciInventory

structure KernelModule where
  name : Text
  size : Binary64
  refcount : Binary64
  state : Binary64
  deriving DecidableEq

/-- What a row comes to. -/
inductive ModuleRow where
  | tooShort
  | dropped (why : Notice)
  | tooLarge
  | row (m : KernelModule)
  deriving DecidableEq

def moduleState? (t : Text) : Option Int :=
  if t = "Live".toList then some 1
  else if t = "Loading".toList then some 0
  else if t = "Unloading".toList then some (-1)
  else none

/-- A module of given numbers, if its state is known. -/
def ModuleRow.ofState (name : Text) (size refcount : Binary64) (state : Text) : ModuleRow :=
  match moduleState? state with
  | some n => .row ⟨name, size, refcount, .ofInt n⟩
  | none => .dropped (.moduleStateUnknown name state)

/-- Reads a row. A size that is too large counts before a reference count that is no number. -/
def ModuleRow.read (line : Text) : ModuleRow :=
  match Text.words line with
  | name :: size :: refcount :: _ :: state :: _ =>
    match WholeLiteral.read? size with
    | none => .dropped (.moduleNumbersBad name size refcount)
    | some s =>
      if (Binary64.ofInt s).isFinite then
        match WholeLiteral.read? refcount with
        | none => .dropped (.moduleNumbersBad name size refcount)
        | some r =>
          if (Binary64.ofInt r).isFinite then .ofState name (.ofInt s) (.ofInt r) state
          else .tooLarge
      else .tooLarge
  | _ => .tooShort

def readModuleRows : List Text → Logged (Except Failure (List KernelModule))
  | [] => .silent (.ok [])
  | line :: rest =>
    match ModuleRow.read line with
    | .tooShort => readModuleRows rest
    | .dropped why =>
      let later := readModuleRows rest
      ⟨why :: later.notices, later.result⟩
    | .tooLarge => .silent (.error .integerTooLarge)
    | .row m =>
      let later := readModuleRows rest
      ⟨later.notices, later.result.map (m :: ·)⟩

end PciInventory
