import PciInventory.Collector.Basic
import PciInventory.ObservationTable
import PciInventory.Terminal.Console

/-!
# Outcomes of commands

A command is given its surroundings and leaves an outcome: an exit code, what it printed, which
notices its log level let through, the tables it showed, and the file tree. A failure that the
program does not report itself escapes and ends the command with exit code 1.

Standard error here is what a command reports there of a failure. The program also writes on it the
log lines and, when a failure escapes, the trace of it; these two are not text of an outcome but are
kept as what they tell of, in `notices` and `escaped`. Likewise a table that is shown on standard
output is kept in `tables`.
-/
namespace PciInventory

structure Surroundings where
  environment : Environment
  tree : FileTree
  /-- The name of the operating system. -/
  platform : Text

/-- What a command leaves behind. -/
structure Outcome where
  exitCode : Nat
  stdout : Text
  stderr : Text
  notices : List Notice
  tables : List ObservationTable
  tree : FileTree
  escaped : Option Failure

namespace Outcome

/-- A command that has done nothing yet. -/
def start (tree : FileTree) : Outcome := ⟨0, [], [], [], [], tree, none⟩

/-- An outcome with further notices, as far as a level lets them through. -/
def log (o : Outcome) (level : LogLevel) (ns : List Notice) : Outcome :=
  { o with notices := o.notices ++ ns.filter fun n => decide (level.weight ≤ n.level.weight) }

def escape (o : Outcome) (e : Failure) : Outcome := { o with exitCode := 1, escaped := some e }

def exit (o : Outcome) (code : Nat) : Outcome := { o with exitCode := code }

variable (C : Console)

def line (o : Outcome) (t : Text) : Outcome := { o with stdout := o.stdout ++ C.line t }

def errorLine (o : Outcome) (t : Text) : Outcome := { o with stderr := o.stderr ++ C.line t }

/-- An outcome with a message on standard output, after which the command goes on. -/
def message (o : Outcome) (t : Text) (next : Outcome → Outcome) : Outcome :=
  let printed := C.message t
  let o := { o with stdout := o.stdout ++ printed.1 }
  match printed.2 with
  | none => next o
  | some e => o.escape e

end Outcome

end PciInventory
