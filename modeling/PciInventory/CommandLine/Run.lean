import PciInventory.CommandLine.Scan
import PciInventory.Terminal.Printing

/-!
# Running commands

The two smaller commands, and the choice between all three, on a console that is left open until the
command is run.
-/
namespace PciInventory

namespace Lookup

/-- What is said if there is no database. -/
def noDatabase : Text :=
  "[yellow]No pci.ids database found; showing raw ids[/yellow]".toList

def answers (db : Database) (r : LookupRequest) : List Text :=
  ["vendor: ".toList ++ db.vendorName r.vendor] ++
    r.device.toList.map (fun d => "device: ".toList ++ db.deviceName r.vendor d) ++
    r.classId.toList.map fun c => "class: ".toList ++ db.className c

def printAnswers (C : Console) (o : Outcome) (db : Database) (r : LookupRequest) : Outcome :=
  (answers db r).foldl (Outcome.line C) o

/-- A lookup whose settings are known to be right. -/
def find (C : Console) (o : Outcome) (settings : Settings) (r : LookupRequest) : Outcome :=
  let level := if r.verbose then .debug else settings.logLevel
  let loaded := Database.load o.tree settings.databasePaths
  let o := o.log level loaded.notices
  match loaded.result with
  | .error e => o.escape e
  | .ok db =>
    if db.isEmpty then o.message C noDatabase fun o => printAnswers C o db r
    else printAnswers C o db r

def run (C : Console) (s : Surroundings) (r : LookupRequest) : Outcome :=
  let o := Outcome.start s.tree
  match Settings.load s.environment with
  | .error e => o.message C (Markup.alert e.report.text) (·.exit 1)
  | .ok settings => find C o settings r

end Lookup

namespace Command

/-- Runs a command on a console. -/
def runOn (C : Console) (s : Surroundings) : Command → Outcome
  | .scan r => Scan.run C s r
  | .lookup r => Lookup.run C s r
  | .collectors =>
    (CollectorKind.all.map CollectorKind.name).foldl (Outcome.line C) (Outcome.start s.tree)

def run (s : Surroundings) (c : Command) : Outcome := c.runOn .plain s

end Command

end PciInventory
