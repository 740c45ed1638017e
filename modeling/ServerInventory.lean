import ServerInventory.Absorb
import ServerInventory.Change
import ServerInventory.Command
import ServerInventory.CommandLine.Invocation
import ServerInventory.CommandLine.Run
import ServerInventory.Config
import ServerInventory.Config.Reading
import ServerInventory.Decimal.Nearest
import ServerInventory.Decimal.Shortest
import ServerInventory.Device.Basic
import ServerInventory.Device.Component
import ServerInventory.Device.Identity
import ServerInventory.Device.Kind
import ServerInventory.Dispatch
import ServerInventory.Error
import ServerInventory.Host.FileTree
import ServerInventory.Host.Launch
import ServerInventory.Host.Process
import ServerInventory.Host.Programs
import ServerInventory.Host.Quoting
import ServerInventory.Host.Script
import ServerInventory.Host.Script.Arithmetic
import ServerInventory.Host.Script.Reading
import ServerInventory.Host.Shell
import ServerInventory.Host.Shell.Builtins
import ServerInventory.Host.Shell.Commands
import ServerInventory.Host.Shell.Fields
import ServerInventory.Host.Shell.Running
import ServerInventory.Host.Signal
import ServerInventory.Json.Basic
import ServerInventory.Json.Number
import ServerInventory.Json.Reader
import ServerInventory.Json.Reading
import ServerInventory.Json.Writing
import ServerInventory.Main
import ServerInventory.Pass
import ServerInventory.Probe
import ServerInventory.Proofs.Config
import ServerInventory.Proofs.Device.Documents
import ServerInventory.Proofs.Device.Features
import ServerInventory.Proofs.Device.Lawful
import ServerInventory.Proofs.Device.Repetition
import ServerInventory.Proofs.Device.Retention
import ServerInventory.Proofs.Dispatch
import ServerInventory.Proofs.Json.Locality
import ServerInventory.Proofs.Json.Numbers
import ServerInventory.Proofs.Json.Readers
import ServerInventory.Proofs.Json.Settled
import ServerInventory.Proofs.Json.Texts
import ServerInventory.Proofs.Json.Tokens
import ServerInventory.Proofs.Merge.Absorption
import ServerInventory.Proofs.Merge.Choice
import ServerInventory.Proofs.Merge.Exact
import ServerInventory.Proofs.Merge.Join
import ServerInventory.Proofs.Merge.Precedence
import ServerInventory.Proofs.Merge.Repetition
import ServerInventory.Proofs.Pass.Accounting
import ServerInventory.Proofs.Pass.Breakdown
import ServerInventory.Proofs.Pass.Calls
import ServerInventory.Proofs.Pass.Cancellation
import ServerInventory.Proofs.Pass.Composition
import ServerInventory.Proofs.Pass.Course
import ServerInventory.Proofs.Pass.Defaults
import ServerInventory.Proofs.Pass.Features
import ServerInventory.Proofs.Pass.Hosts
import ServerInventory.Proofs.Pass.Independence
import ServerInventory.Proofs.Pass.Interruption
import ServerInventory.Proofs.Pass.Locality
import ServerInventory.Proofs.Pass.Moments
import ServerInventory.Proofs.Pass.Probes
import ServerInventory.Proofs.Pass.Repetition
import ServerInventory.Proofs.Pass.Retention
import ServerInventory.Proofs.Pass.Silence
import ServerInventory.Proofs.Pass.Strangers
import ServerInventory.Proofs.Readout.Addresses
import ServerInventory.Proofs.Readout.Blocks
import ServerInventory.Proofs.Readout.Cleaned
import ServerInventory.Proofs.Readout.Controllers
import ServerInventory.Proofs.Readout.DriveInfo
import ServerInventory.Proofs.Readout.Features
import ServerInventory.Proofs.Readout.Mac
import ServerInventory.Proofs.Readout.Paragraphs
import ServerInventory.Proofs.Readout.Preorder
import ServerInventory.Proofs.Readout.Serials
import ServerInventory.Proofs.Readout.Sizes
import ServerInventory.Proofs.Readout.Tree
import ServerInventory.Proofs.Readout.WorldWideNames
import ServerInventory.Proofs.Record.Adoption
import ServerInventory.Proofs.Record.Differences
import ServerInventory.Proofs.Record.Failing
import ServerInventory.Proofs.Record.Filling
import ServerInventory.Proofs.Record.Layout
import ServerInventory.Proofs.Record.Leafwise
import ServerInventory.Proofs.Record.Leaves
import ServerInventory.Proofs.Record.Merging
import ServerInventory.Proofs.Record.Patching
import ServerInventory.Proofs.Record.Reordering
import ServerInventory.Proofs.Record.Repetition
import ServerInventory.Proofs.Record.Retention
import ServerInventory.Proofs.Record.Reversal
import ServerInventory.Proofs.Record.Settling
import ServerInventory.Proofs.Record.Slices
import ServerInventory.Proofs.StringMap
import ServerInventory.Proofs.Text.Decimal
import ServerInventory.Proofs.Text.Hexadecimal
import ServerInventory.Proofs.Text.LetterCase
import ServerInventory.Proofs.Text.Lines
import ServerInventory.Proofs.Text.Lowercase
import ServerInventory.Proofs.Text.Returns
import ServerInventory.Proofs.Text.Trimming
import ServerInventory.Proofs.Vendor
import ServerInventory.Readout.Block
import ServerInventory.Readout.Cleaned
import ServerInventory.Readout.Hdparm
import ServerInventory.Readout.Listing
import ServerInventory.Readout.Lshw
import ServerInventory.Readout.Mac
import ServerInventory.Readout.NvmeCli
import ServerInventory.Readout.Size
import ServerInventory.Readout.Smartctl
import ServerInventory.Readout.Storcli
import ServerInventory.Record
import ServerInventory.Record.Diff
import ServerInventory.Record.Merge
import ServerInventory.Record.Patch
import ServerInventory.Registry
import ServerInventory.StringMap
import ServerInventory.Summary
import ServerInventory.Survey
import ServerInventory.Text.Blank
import ServerInventory.Text.CaseTables
import ServerInventory.Text.Lines
import ServerInventory.Text.Lowercase
import ServerInventory.Text.Numeral
import ServerInventory.Text.PrintTables
import ServerInventory.Text.Quoted
import ServerInventory.Text.Ranges
import ServerInventory.Text.Utf8
import ServerInventory.Utility
import ServerInventory.Value
import ServerInventory.Vendor
import ServerInventory.Yaml.Cursor
import ServerInventory.Yaml.Node
import ServerInventory.Yaml.Scalar
import ServerInventory.Yaml.Scanner
