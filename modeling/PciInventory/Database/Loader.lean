import PciInventory.Database.Reader
import PciInventory.Notice

/-!
# Finding an id database

Of several paths the first that leads to a file gives the database, whatever the file holds. If
there is none, the database is empty.
-/
namespace PciInventory.Database

/-- The database of the first of some paths that leads to a file; `all` are the paths to name if
none of them does. -/
def loadFrom (tree : FileTree) (all : List Text) : List Text → Logged (Except Failure Database)
  | [] => ⟨[.databaseMissing all], .ok empty⟩
  | path :: rest =>
    if Path.isPassable path then
      match tree.contentAt path with
      | .ok bytes =>
        let db := ofBytes bytes (some path)
        ⟨[.databaseLoaded db.vendors.size db.classes.size path], .ok db⟩
      | .error refusal =>
        let later := loadFrom tree all rest
        ⟨.databaseRefused path refusal :: later.notices, later.result⟩
    else .silent (.error .nulInPath)

def load (tree : FileTree) (paths : List Text) : Logged (Except Failure Database) :=
  loadFrom tree paths paths

end PciInventory.Database
