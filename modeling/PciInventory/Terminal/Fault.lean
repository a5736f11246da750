/-!
# What can go wrong on a terminal

The faults of printing, without the rules that lead to them: tags that make no sense, and texts that
cannot be cut off where a line ends.
-/
namespace PciInventory

/-- What can be wrong with the tags of a text. -/
inductive MarkupFault where
  /-- A tag closes a style that is not open. -/
  | unopenedStyle
  /-- A tag that is closed names an action that cannot be read. -/
  | unreadableAction
  /-- A style has a colour that is mixed from something that is no number. -/
  | mixedFromNoNumber
  deriving DecidableEq

/-- Why a text cannot be cut off behind some cells although, by its count, it takes more. A joiner
at its front joins nothing, so that what is behind the next one is part of a cluster without
cells. -/
inductive CuttingFault where
  /-- Its clusters take no cells at all. -/
  | noCells
  /-- Its clusters take fewer cells than are to be left. -/
  | tooFewCells
  deriving DecidableEq

end PciInventory
