import PciInventory.Failure.Basic

/-!
# Consoles

What the commands need of the place where they print. How a message is laid out there, in what
colours and in lines of what width, is the console's own affair and differs from one to the next.
-/
namespace PciInventory

/-- How a console prints. -/
structure Console where
  /-- What is printed of a message, which may hold style tags, and what goes wrong on the way. -/
  message : Text → Text × Option Failure
  /-- What is printed of a line without style tags. -/
  line : Text → Text

end PciInventory
