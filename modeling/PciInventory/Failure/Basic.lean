import PciInventory.Collector.Kind
import PciInventory.Failure.Report
import PciInventory.FileTree.Basic
import PciInventory.Terminal.Fault

/-!
# Failures

The causes for which a step of the program ends without a result. Those that the program itself
reports are the unreadable values, the listings that cannot be had and the settings that make no
sense; each has its wording here and nowhere else. The others end the program as they come.
-/
namespace PciInventory

/-- What a decimal number measures. -/
inductive Quantity where
  | linkSpeed
  | linkWidth
  | flag
  deriving DecidableEq

def Quantity.wording : Quantity → Text
  | .linkSpeed => "link speed".toList
  | .linkWidth => "link width".toList
  | .flag => "flag".toList

/-- Why a text is no value of the attribute it was read for. -/
inductive Misreading where
  | notANumber (quantity : Quantity)
  | notFinite (quantity : Quantity)
  | powerStateOutOfRange
  | powerStateUnknown
  | flagOutOfRange
  deriving DecidableEq

def Misreading.wording : Misreading → Text
  | .notANumber quantity => "invalid ".toList ++ quantity.wording
  | .notFinite quantity => "non-finite ".toList ++ quantity.wording
  | .powerStateOutOfRange => "power state out of range".toList
  | .powerStateUnknown => "unknown power state".toList
  | .flagOutOfRange => "flag out of range".toList

/-- A text that could not be read, and why. -/
structure ParseError where
  cause : Misreading
  value : Text
  deriving DecidableEq

def ParseError.report (e : ParseError) : Report :=
  .parse (e.cause.wording ++ ": ".toList ++ Text.quoted e.value) (some e.value)

/-- The listings that a poll starts from. -/
inductive Listing where
  | devices
  | modules
  deriving DecidableEq

def Listing.wording : Listing → Text
  | .devices => "failed to list PCI devices".toList
  | .modules => "failed to read kernel modules".toList

/-- A listing that was refused. -/
structure EnumerationError where
  listing : Listing
  refusal : Refusal
  path : Text
  deriving DecidableEq

def EnumerationError.report (e : EnumerationError) : Report :=
  .enumeration (e.listing.wording ++ ": ".toList ++ e.refusal.message e.path) (some e.path)

/-- A setting or a name that makes no sense. -/
inductive ConfigError where
  | logLevel (level : Text)
  | collector (name : Text)
  deriving DecidableEq

def logLevelVariable : Text := "PCISCOPE_LOG_LEVEL".toList

def ConfigError.report : ConfigError → Report
  | .logLevel level =>
    .config ("invalid log level: ".toList ++ Text.quoted level) "variable".toList logLevelVariable
  | .collector name =>
    .config ("unknown collector: ".toList ++ name) "available".toList
      (Text.joinWith ", ".toList (CollectorKind.all.map CollectorKind.name))

/-- Why a step of the program ended without a result. -/
inductive Failure where
  | parse (e : ParseError)
  | enumeration (e : EnumerationError)
  | config (e : ConfigError)
  /-- A whole number lies beyond the largest binary64 number. -/
  | integerTooLarge
  /-- A file that has to be UTF-8 is not. -/
  | undecodable
  /-- A path holds a NUL character, which no path can. -/
  | nulInPath
  /-- A file that was to be written is refused. -/
  | refused (refusal : Refusal) (path : Text)
  /-- Too many directories would have to be made one in the other. -/
  | nestedTooDeeply
  /-- A text for the terminal has tags that make no sense. -/
  | markup (fault : MarkupFault)
  /-- A text for the terminal cannot be cut off where it should be. -/
  | cutting (fault : CuttingFault)
  /-- A fault from outside, in its own words. -/
  | fault (message : Text)
  deriving DecidableEq

namespace Failure

def report? : Failure → Option Report
  | .parse e => some e.report
  | .enumeration e => some e.report
  | .config e => some e.report
  | _ => none

/-- A failure on one line. -/
def text : Failure → Text
  | .parse e => e.report.text
  | .enumeration e => e.report.text
  | .config e => e.report.text
  | .integerTooLarge => "whole number too large".toList
  | .undecodable => "invalid UTF-8".toList
  | .nulInPath => "NUL character in a path".toList
  | .refused refusal path => refusal.message path
  | .nestedTooDeeply => "directories nested too deeply".toList
  | .markup .unopenedStyle => "style closed that was not opened".toList
  | .markup .unreadableAction => "action that cannot be read".toList
  | .markup .mixedFromNoNumber => "colour mixed from no number".toList
  | .cutting .noCells => "text without cells cut off".toList
  | .cutting .tooFewCells => "text cut off behind its last cell".toList
  | .fault message => message

end Failure

end PciInventory
