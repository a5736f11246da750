import PciInventory.Database.Line
import PciInventory.Text.Lines
import PciInventory.Text.Utf8

/-!
# Reading an id database

The lines of a database are read in order, each in the context that the lines before it leave; what
is declared twice has the name of the later line.
-/
namespace PciInventory.Database

/-- A database being read: the names so far and the context of the next line. -/
structure Reading where
  database : Database
  context : Context

def Reading.feed (r : Reading) (line : Text) : Reading :=
  let next := r.context.advance (Text.dropLineEnd line)
  ⟨match next.2 with
    | some entry => r.database.insert entry
    | none => r.database, next.1⟩

/-- The database that some lines make. -/
def ofLines (lines : List Text) (source : Option Text) : Database :=
  (lines.foldl Reading.feed ⟨{ empty with source := source }, .initial⟩).database

/-- The database that the bytes of a file make, whatever they are. -/
def ofBytes (bytes : List UInt8) (source : Option Text) : Database :=
  ofLines (Text.lines (Text.Utf8.decodeLenient bytes)) source

end PciInventory.Database
