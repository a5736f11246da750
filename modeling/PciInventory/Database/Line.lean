import PciInventory.Database.Basic
import PciInventory.Text.Blank
import PciInventory.Text.Case

/-!
# Lines of an id database

A database is a list of lines. A line that declares something has an id, at least two spaces and a
name; how many tabs stand in front of it says what it belongs to. A line without tabs starts a
vendor, or with a capital C in front of its id a class. A line with one tab is a device of the
vendor or a subclass of the class last started, and a line with two tabs is a subsystem of the
device last declared. All other lines say nothing and change nothing.
-/
namespace PciInventory

structure Declaration where
  id : Text
  name : Text
  deriving DecidableEq

namespace Declaration

/-- What stands in front of the first two spaces in a row, and what stands behind them. -/
def splitAtGap? : Text → Option (Text × Text)
  | [] => none
  | ' ' :: ' ' :: rest => some ([], rest)
  | c :: rest => (splitAtGap? rest).map fun (front, back) => (c :: front, back)

/-- The declaration of a line without its tabs. The id is in lower case and is not empty; a name
may be empty. -/
def read? (body : Text) : Option Declaration :=
  match splitAtGap? body with
  | none => none
  | some (front, back) =>
    let id := Text.lower (Text.strip front)
    if id = [] then none else some ⟨id, Text.strip back⟩

end Declaration

/-- What the last line without tabs started, and whether a device was declared since. -/
inductive Section where
  | none
  | inClass
  | inVendor
  | inDevice
  deriving DecidableEq

/-- What a line may belong to. The ids are given as far as they are known. -/
structure Context where
  part : Section
  vendor : Option Text
  device : Option Text
  deviceClass : Option Text
  subclass : Option Text
  deriving DecidableEq

namespace Context

def initial : Context := ⟨.none, none, none, none, none⟩

/-- An id that goes into a key; an unknown one is written as such. -/
def idText (id : Option Text) : Text := id.getD "None".toList

/-- Whether a line says nothing whatever the context: it is blank or a comment. -/
def isSilent (line : Text) : Bool := (Text.strip line).isEmpty || line.head? = some '#'

def depth (line : Text) : Nat := (line.takeWhile (· == '\t')).length

def body (line : Text) : Text := line.dropWhile (· == '\t')

/-- What a line without tabs does. A capital C in front marks a class. -/
def startSection (ctx : Context) (line : Text) : Context × Option DatabaseEntry :=
  match line with
  | 'C' :: rest =>
    match Declaration.read? rest with
    | some d => (⟨.inClass, none, none, some d.id, none⟩, some (.deviceClass d.id d.name))
    | none => (ctx, none)
  | _ =>
    match Declaration.read? line with
    | some d => (⟨.inVendor, some d.id, none, none, none⟩, some (.vendor d.id d.name))
    | none => (ctx, none)

/-- What a line with one tab does: it belongs to the section that it stands in, if there is one. -/
def declareMember (ctx : Context) (body : Text) : Context × Option DatabaseEntry :=
  match ctx.part with
  | .none => (ctx, none)
  | .inClass =>
    match Declaration.read? body with
    | some d =>
      let id := idText ctx.deviceClass ++ d.id
      ({ ctx with subclass := some id }, some (.subclass id d.name))
    | none => (ctx, none)
  | _ =>
    match Declaration.read? body with
    | some d =>
      ({ ctx with part := .inDevice, device := some d.id },
        some (.device (ctx.vendor.getD []) d.id d.name))
    | none => (ctx, none)

/-- The key of a pair of subsystem ids, which stand apart by blanks. -/
def subsystemKey (id : Text) : Text := Text.joinWith [':'] (Text.words id)

/-- What a line with two tabs does. Only a device has subsystems. -/
def declareSubsystem (ctx : Context) (body : Text) : Context × Option DatabaseEntry :=
  match ctx.part with
  | .inDevice =>
    match Declaration.read? body with
    | some d =>
      (ctx, some (.subsystem (Database.pairKey (idText ctx.vendor) (idText ctx.device))
        (subsystemKey d.id) d.name))
    | none => (ctx, none)
  | _ => (ctx, none)

/-- The context after a line, and the entry that the line adds. -/
def advance (ctx : Context) (line : Text) : Context × Option DatabaseEntry :=
  if isSilent line then (ctx, none)
  else match depth line with
    | 0 => ctx.startSection line
    | 1 => ctx.declareMember (body line)
    | 2 => ctx.declareSubsystem (body line)
    | _ => (ctx, none)

def advanceAll (ctx : Context) : List Text → List (Context × Option DatabaseEntry)
  | [] => []
  | line :: rest => ctx.advance line :: (ctx.advance line).1.advanceAll rest

end Context

end PciInventory
