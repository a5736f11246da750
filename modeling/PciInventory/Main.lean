import PciInventory.CommandLine.Run

/-!
# The program

The outer layer: it takes the arguments, the environment and the files that a command can ask for,
runs the command, prints what it left and puts on the disk what it changed, however the command
ended. It decides nothing.
-/
namespace PciInventory.Main

/-- What the program says of a command line that it does not understand. -/
def usage : String :=
  "usage: scan [-c NAME]... [-f table|json] [--out PATH] [-v]\n" ++
  "       lookup VENDOR [DEVICE] [--class-id CODE] [-v]\n" ++
  "       collectors\n"

def place (workingDirectory : Location) (path : Text) : Location :=
  let start := if path.head? = some '/' then [] else workingDirectory
  (Path.names path).foldl (fun l name => if name = ['.', '.'] then l.dropLast else l ++ [name])
    start

/-- What is at a path on the disk. -/
def onDisk? (path : Text) : IO (Option Entry) := do
  try
    let real ← IO.FS.realPath (String.ofList path)
    if ← real.isDir then return some .directory
    let bytes ← IO.FS.readBinFile real
    return some (.file bytes.toList)
  catch _ => return none

/-- The names in a directory on the disk. -/
def namesOnDisk (path : Text) : IO (List Text) := do
  try
    let real ← IO.FS.realPath (String.ofList path)
    return (← real.readDir).toList.map (·.fileName.toList)
  catch _ => return []

def copy (tree : FileTree) (paths : List Text) : IO FileTree :=
  paths.foldlM (fun tree path => do
    match ← onDisk? path with
    | some entry => return tree.put (place tree.workingDirectory path) entry
    | none => return tree) tree

/-- The files of the attributes that a device can have. -/
def attributePaths (root slot : Text) : List Text :=
  (IdentityAttribute.all.map IdentityAttribute.fileName ++
    LinkAttribute.all.map LinkAttribute.fileName).map (devicePath root slot)

/-- The variables that the settings are read from. -/
def environment : IO Environment := do
  let names := [Settings.databaseVariable, Settings.deviceVariable, Settings.moduleVariable,
    logLevelVariable]
  let mut rows := []
  for name in names do
    if let some value ← IO.getEnv (String.ofList name) then
      rows := (name, value.toList) :: rows
  return .ofRows rows

def platform : IO Text := do
  match ← onDisk? "/proc/sys/kernel/ostype".toList with
  | some (.file bytes) => return attributeOfBytes bytes
  | _ => return unknownText

def savedPath? : Command → Option Text
  | .scan r => r.out.map Path.normalize
  | _ => none

/-- The part of the disk that a command can ask for. -/
def snapshot (env : Environment) (command : Command) : IO FileTree := do
  let working := Path.names (← IO.currentDir).toString.toList
  let settings := match Settings.load env with
    | .ok settings => settings
    | .error _ => Settings.defaults
  let slots ← namesOnDisk settings.deviceRoot
  let saved := (savedPath? command).toList.flatMap fun path => path :: Path.ancestors path
  copy (.empty working) (settings.databasePaths ++ [settings.modulePath, settings.deviceRoot] ++
    slots.map (Path.join settings.deviceRoot) ++
    slots.flatMap (attributePaths settings.deviceRoot) ++ saved)

def isDirectory (tree : FileTree) (path : Text) : Bool :=
  match tree.locate path with
  | .ok l => decide (FileTree.entry? tree l = some .directory)
  | .error _ => false

/-- Puts on the disk what a command changed at a path and on the way to it: directories that it made
and the file that it wrote. -/
def applyChanges (before after : FileTree) (path : Text) : IO Unit := do
  for directory in (Path.ancestors path).reverse do
    if isDirectory after directory && !isDirectory before directory then
      IO.FS.createDirAll (String.ofList directory)
  match after.contentAt path with
  | .ok bytes =>
    if (before.contentAt path).toOption ≠ some bytes then
      IO.FS.writeBinFile (String.ofList path) bytes.toByteArray
  | .error _ => return

/-- The rows of a table, with columns as wide as their widest cell. -/
def tableLines (t : ObservationTable) : List String :=
  let rows := t.columns :: t.rows
  let widths := (List.range t.columns.length).map fun i =>
    (rows.map fun row => (row.getD i []).length).foldl max 0
  String.ofList t.title :: rows.map fun row =>
    String.ofList (Text.joinWith "  ".toList ((row.zip widths).map fun (cell, width) =>
      cell ++ List.replicate (width - cell.length) ' '))

/-- Runs a command and shows what it left. -/
def runCommand (command : Command) : IO UInt32 := do
  let env ← environment
  let tree ← snapshot env command
  let o := command.run ⟨env, tree, ← platform⟩
  for n in o.notices do
    IO.eprintln (String.ofList (n.level.name ++ ' ' :: n.message))
  if let some path := savedPath? command then applyChanges tree o.tree path
  IO.print (String.ofList o.stdout)
  for t in o.tables do
    for line in tableLines t do IO.println line
  IO.eprint (String.ofList o.stderr)
  if let some e := o.escaped then IO.eprintln (String.ofList e.text)
  return o.exitCode.toUInt32

end PciInventory.Main

def main (arguments : List String) : IO UInt32 := do
  match PciInventory.Command.read? (arguments.map String.toList) with
  | some command => PciInventory.Main.runCommand command
  | none =>
    IO.eprint PciInventory.Main.usage
    return 2
