import PciInventory.CommandLine.Arguments
import PciInventory.FileTree.Path

/-!
# Commands

There are three commands: one polls collectors and reports what was observed, one looks up names of
ids, and one lists the collectors. A command line that is none of them is refused as a whole.
-/
namespace PciInventory

/-- The options of all commands. -/
inductive OptionKey where
  | collector
  | format
  | out
  | classId
  | verbose
  deriving DecidableEq

/-- What to poll and how to report. -/
structure ScanRequest where
  collectors : List Text
  format : Text
  out : Option Text
  verbose : Bool
  deriving DecidableEq

/-- What to look up. -/
structure LookupRequest where
  vendor : Text
  device : Option Text
  classId : Option Text
  verbose : Bool
  deriving DecidableEq

/-- A command with its arguments. -/
inductive Command where
  | scan (r : ScanRequest)
  | lookup (r : LookupRequest)
  | collectors
  deriving DecidableEq

namespace Command

def verboseOption : CommandOption OptionKey := ⟨.verbose, "--verbose".toList, some 'v', false⟩

def scanOptions : List (CommandOption OptionKey) :=
  [⟨.collector, "--collector".toList, some 'c', true⟩,
    ⟨.format, "--format".toList, some 'f', true⟩, ⟨.out, "--out".toList, none, true⟩, verboseOption]

def lookupOptions : List (CommandOption OptionKey) :=
  [⟨.classId, "--class-id".toList, none, true⟩, verboseOption]

/-- A scan takes no operands, and writes only to a path that there can be. Without a collector it
polls devices, without a format it makes a table. -/
def scanOf? (a : Arguments OptionKey) : Option Command :=
  match a.operands with
  | [] =>
    let named := a.values .collector
    if (a.last? .out).all Path.isPassable then
      some (.scan ⟨if named = [] then ["pcie".toList] else named,
        (a.last? .format).getD "table".toList, a.last? .out, a.has .verbose⟩)
    else none
  | _ => none

/-- A lookup takes a vendor and perhaps a device. -/
def lookupOf? (a : Arguments OptionKey) : Option Command :=
  match a.operands with
  | [vendor] => some (.lookup ⟨vendor, none, a.last? .classId, a.has .verbose⟩)
  | [vendor, device] => some (.lookup ⟨vendor, some device, a.last? .classId, a.has .verbose⟩)
  | _ => none

def collectorsOf? (a : Arguments OptionKey) : Option Command :=
  match a.operands with
  | [] => some .collectors
  | _ => none

def ofName? (name : Text) (arguments : List Text) : Option Command :=
  if name = "scan".toList then (Arguments.read? scanOptions none arguments).bind scanOf?
  else if name = "lookup".toList then (Arguments.read? lookupOptions none arguments).bind lookupOf?
  else if name = "collectors".toList then (Arguments.read? [] none arguments).bind collectorsOf?
  else none

def read? (arguments : List Text) : Option Command :=
  match arguments with
  | [] => none
  | first :: rest =>
    if first = ['-', '-'] then
      match rest with
      | [] => none
      | name :: rest => ofName? name rest
    else if Arguments.isDashed first then none
    else ofName? first rest

end Command

end PciInventory
