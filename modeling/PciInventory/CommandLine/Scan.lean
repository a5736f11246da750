import PciInventory.CommandLine.Command
import PciInventory.CommandLine.Outcome
import PciInventory.FileTree.Writing
import PciInventory.Payload

/-!
# Scanning

A scan checks one thing after the other and stops at the first that is wrong: the settings, the
platform, the format, the names of the collectors, and then each poll. Only when all polls have
been made is anything reported or written, so that a scan that fails reports no observation.
-/
namespace PciInventory.Scan

/-- How observations are reported. -/
inductive Format where
  | table
  | json
  deriving DecidableEq

def Format.ofName? (t : Text) : Option Format :=
  if t = "table".toList then some .table
  else if t = "json".toList then some .json
  else none

/-- The platform on which the default directory of the devices exists. -/
def homePlatform : Text := "Linux".toList

def foreignPlatform : Text :=
  "[red]Non-Linux OS detected; point PCISCOPE_SYSFS_PCI at a sysfs tree.[/red]".toList

def unknownFormat (format : Text) : Text := "[red]Unknown format:[/red] ".toList ++ format

/-- A report as the format wants it: JSON on standard error, or a message behind some words. -/
def fail (C : Console) (o : Outcome) (format : Format) (code : Nat) (front : Text) (r : Report) :
    Outcome :=
  match format with
  | .json => (o.errorLine C r.toJson.compact).exit code
  | .table => o.message C (Markup.alert (front ++ r.text)) (·.exit code)

/-- The words in front of the report on a collector's poll. -/
def failedFront (kind : CollectorKind) : Text :=
  "Collector ".toList ++ kind.name ++ " failed: ".toList

def pollAll (tree : FileTree) : List Collector →
    List Notice × Except (CollectorKind × Failure) (List Observation)
  | [] => ([], .ok [])
  | c :: rest =>
    let polled := c.poll tree
    match polled.result with
    | .error e => (polled.notices, .error (c.kind, e))
    | .ok poll =>
      let later := pollAll tree rest
      (polled.notices ++ .pollDone c.kind poll.count :: later.1,
        later.2.map (poll.observations ++ ·))

/-- The most directories that are made one in the other. The library routine that makes a directory
calls itself for the one around it, so that each level that lacks is one more open call. The runtime
is modelled with its default limit of 1000 open calls, of which about nineteen are taken up before
the routine is entered. -/
def nestingLimit : Nat := 981

/-- A file tree with a text in the file at a path, whose directories are made where they lack, and
what went wrong. Directories that were made stay, also if the file is refused. -/
def save (tree : FileTree) (path content : Text) : FileTree × Option Failure :=
  let parent := Path.parent path
  if nestingLimit < tree.missing parent then (tree, some .nestedTooDeeply)
  else match tree.makeDirectories parent with
    | (made, some r) => (made, some (.refused r path))
    | (made, none) =>
      match made.writeFile path (Text.Utf8.encode content) with
      | .error r => (made, some (.refused r path))
      | .ok written => (written, none)

def savedMessage (count : Nat) (path : Text) : Text :=
  "[green]Wrote ".toList ++ Text.ofNat count ++ " observations to[/green] ".toList ++ path

def report (C : Console) (o : Outcome) (format : Format) (out : Option Text)
    (os : List Observation) : Outcome :=
  match out, format with
  | some path, _ =>
    let path := Path.normalize path
    match save o.tree path (Payload.text os) with
    | (tree, some e) => { o with tree := tree }.escape e
    | (tree, none) => { o with tree := tree }.message C (savedMessage os.length path) id
  | none, .json => o.line C (Payload.text os)
  | none, .table => { o with tables := o.tables ++ [.ofObservations os] }

/-- A scan whose settings and format are known to be right. -/
def collect (C : Console) (o : Outcome) (settings : Settings) (level : LogLevel)
    (format : Format) (r : ScanRequest) : Outcome :=
  let built := Collector.buildAll o.tree settings r.collectors
  let o := o.log level built.notices
  match built.result with
  | .error (.config e) => fail C o format 1 [] e.report
  | .error e => o.escape e
  | .ok cs =>
    let polled := pollAll o.tree cs
    let o := o.log level polled.1
    match polled.2 with
    | .error (kind, .enumeration e) => fail C o format 3 (failedFront kind) e.report
    | .error (_, e) => o.escape e
    | .ok os => report C o format r.out os

/-- A scan whose settings are known to be right. -/
def check (C : Console) (o : Outcome) (platform : Text) (settings : Settings) (r : ScanRequest) :
    Outcome :=
  let level := if r.verbose then .debug else settings.logLevel
  if platform ≠ homePlatform ∧ settings.deviceRoot = Settings.defaultDeviceRoot then
    o.message C foreignPlatform (·.exit 2)
  else match Format.ofName? r.format with
    | none => o.message C (unknownFormat r.format) (·.exit 1)
    | some format => collect C o settings level format r

/-- A scan. -/
def run (C : Console) (s : Surroundings) (r : ScanRequest) : Outcome :=
  let o := Outcome.start s.tree
  match Settings.load s.environment with
  | .error e => o.message C (Markup.alert e.report.text) (·.exit 1)
  | .ok settings => check C o s.platform settings r

end PciInventory.Scan
