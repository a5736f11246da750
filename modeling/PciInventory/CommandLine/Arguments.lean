import PciInventory.Text.Basic

/-!
# Arguments

A command's options have a long name, and some have a letter as well. A value may follow as the next
argument, behind an equals sign after a long name, or directly behind a letter. Letters without a
value may be put together behind one dash. Two dashes alone end the options; all other arguments,
a single dash among them, are operands.
-/
namespace PciInventory

/-- An option that a command has. -/
structure CommandOption (Key : Type) where
  key : Key
  longName : Text
  letter : Option Char
  takesValue : Bool

/-- A command's arguments, taken apart: options in the order given, and operands. -/
structure Arguments (Key : Type) where
  options : List (Key × Text)
  operands : List Text

namespace Arguments

variable {Key : Type}

def empty : Arguments Key := ⟨[], []⟩

def withOption (key : Key) (value : Text) (a : Arguments Key) : Arguments Key :=
  { a with options := (key, value) :: a.options }

def withOperand (operand : Text) (a : Arguments Key) : Arguments Key :=
  { a with operands := operand :: a.operands }

/-- What an argument that starts with dashes gives: options with their values, and at most one
option behind them whose value is the next argument. -/
structure Given (Key : Type) where
  complete : List (Key × Text)
  waiting : Option Key

/-- An argument that starts with two dashes. -/
def readLong? (known : List (CommandOption Key)) (argument : Text) : Option (Given Key) :=
  let name := argument.takeWhile (· != '=')
  let value? := (argument.dropWhile (· != '=')).tail?
  match known.find? fun o => decide (o.longName = name), value? with
  | some o, some value => if o.takesValue then some ⟨[(o.key, value)], none⟩ else none
  | some o, none => if o.takesValue then some ⟨[], some o.key⟩ else some ⟨[(o.key, [])], none⟩
  | none, _ => none

/-- The letters behind a single dash. -/
def readLetters? (known : List (CommandOption Key)) : Text → Option (Given Key)
  | [] => some ⟨[], none⟩
  | c :: rest =>
    match known.find? fun o => o.letter == some c with
    | none => none
    | some o =>
      if o.takesValue then
        if rest = [] then some ⟨[], some o.key⟩ else some ⟨[(o.key, rest)], none⟩
      else (readLetters? known rest).map fun g => ⟨(o.key, []) :: g.complete, g.waiting⟩

/-- What one argument gives if it is no operand. -/
def readDashed? (known : List (CommandOption Key)) : Text → Option (Given Key)
  | '-' :: '-' :: rest => readLong? known ('-' :: '-' :: rest)
  | '-' :: letters => readLetters? known letters
  | _ => none

def isDashed : Text → Bool
  | '-' :: _ :: _ => true
  | _ => false

/-- Arguments behind an option that waits for its value. -/
def read? (known : List (CommandOption Key)) : Option Key → List Text → Option (Arguments Key)
  | some _, [] => none
  | some key, value :: rest => (read? known none rest).map (·.withOption key value)
  | none, [] => some empty
  | none, argument :: rest =>
    if argument = ['-', '-'] then some ⟨[], rest⟩
    else if isDashed argument then
      match readDashed? known argument with
      | none => none
      | some given =>
        (read? known given.waiting rest).map fun a =>
          { a with options := given.complete ++ a.options }
    else (read? known none rest).map (·.withOperand argument)

variable [DecidableEq Key]

def values (a : Arguments Key) (key : Key) : List Text :=
  (a.options.filter fun o => decide (o.1 = key)).map (·.2)

def last? (a : Arguments Key) (key : Key) : Option Text := (a.values key).getLast?

def has (a : Arguments Key) (key : Key) : Bool := !(a.values key).isEmpty

end Arguments

end PciInventory
