import PciInventory.Main
import PciInventory.Json.Reader
import PciInventory.Proofs.Database.Meaning
import PciInventory.Proofs.Database.RoundTrip
import PciInventory.Proofs.Collector.Failures
import PciInventory.Proofs.Database.Closure
import PciInventory.Proofs.CommandLine.Checks
import PciInventory.Proofs.Sink.Run
import PciInventory.Proofs.Sink.Values
import PciInventory.Proofs.Json.Grammar
import PciInventory.Proofs.Json.Reading
import PciInventory.Proofs.Number.ReadingBack
import PciInventory.Proofs.Device.Totality
import PciInventory.Proofs.CommandLine.Reports
import PciInventory.Proofs.Database.KeyForm
import PciInventory.Proofs.KernelModule.Accounting
import PciInventory.Proofs.Database.Loading
import PciInventory.Proofs.Database.Overlay
import PciInventory.Proofs.Database.Damage
import PciInventory.Proofs.Database.LetterCase
import PciInventory.Proofs.Database.Naming
import PciInventory.Proofs.Database.Lookup
import PciInventory.Proofs.Database.IdleLines
import PciInventory.Proofs.Database.NamelessLines
import PciInventory.Proofs.Database.Choosing
import PciInventory.Proofs.Device.Explaining
import PciInventory.Proofs.Text.Chunks
import PciInventory.Proofs.Text.Padding
import PciInventory.Proofs.FileTree.Contents
import PciInventory.Proofs.Device.Padding
import PciInventory.Proofs.Sink.LabelCells
import PciInventory.Proofs.Settings.Loading
