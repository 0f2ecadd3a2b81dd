import HostFacts.Text.Case
import HostFacts.Text.Search
import HostFacts.Text.Printable
import HostFacts.Number.FloatText
import HostFacts.Number.FloatRead
import HostFacts.Calendar
import HostFacts.Entries
import HostFacts.Text.Quoted
import HostFacts.Value.Basic
import HostFacts.Value.Text
import HostFacts.Files
import HostFacts.Fault
import HostFacts.Log
import HostFacts.Act
import HostFacts.World
import HostFacts.Property.Flatten
import HostFacts.Property.Name
import HostFacts.Property.Source
import HostFacts.Cell
import HostFacts.Identity
import HostFacts.OsFamily
import HostFacts.Shell
import HostFacts.Signal
import HostFacts.Version.Parse
import HostFacts.Context
import HostFacts.Report
import HostFacts.Flag
import HostFacts.Host
import HostFacts.Release
import HostFacts.Slot
import HostFacts.Text.Base64
import HostFacts.Text.Pattern
import HostFacts.Yaml.Basic
import HostFacts.Yaml.Block
import HostFacts.Yaml.Plain
import HostFacts.Yaml.Quoted
import HostFacts.Yaml.Token
import HostFacts.Yaml.Word
import HostFacts.Yaml.Lexer
import HostFacts.Yaml.Tag
import HostFacts.Yaml.Node
import HostFacts.Yaml.Scalar
import HostFacts.Yaml.Read
import HostFacts.Property.File
import HostFacts.Registry
import HostFacts.Value.Json
import HostFacts.Yaml.Pen
import HostFacts.Yaml.Style
import HostFacts.Yaml.Write
import HostFacts.CommandLine.Options
import HostFacts.CommandLine.Parse
import HostFacts.CommandLine.Run
import HostFacts.Kernel
import HostFacts.Main
import HostFacts.Proofs.Effects
import HostFacts.Proofs.Facts
import HostFacts.Proofs.Runs
import HostFacts.Proofs.Settled
import HostFacts.Proofs.Precedence
import HostFacts.Proofs.Failing
import HostFacts.Proofs.Layers
import HostFacts.Proofs.Laziness
import HostFacts.Proofs.Independence
import HostFacts.Proofs.VersionText
import HostFacts.Proofs.Reports
import HostFacts.Proofs.PlainReports
import HostFacts.Proofs.CellHistory
import HostFacts.Proofs.TableNames
import HostFacts.Proofs.Utf8
import HostFacts.Proofs.CommandRuns
import HostFacts.Proofs.PropertyFiles
import HostFacts.Proofs.DefaultReports
import HostFacts.Proofs.LegacyVersions
import HostFacts.Proofs.CommandProperties
import HostFacts.Proofs.ExitCodes
import HostFacts.Proofs.DefaultContext
import HostFacts.Proofs.Numerals
import HostFacts.Proofs.VersionGrammar
import HostFacts.Proofs.VersionPrinting
import HostFacts.Proofs.VersionSetting
import HostFacts.Proofs.VersionOrder
import HostFacts.Proofs.VersionCleaning
import HostFacts.Proofs.OwnerNames
import HostFacts.Proofs.CurrentUser
import HostFacts.Proofs.NestedProperties
import HostFacts.Proofs.Overlays
import HostFacts.Proofs.NameOrder
import HostFacts.Proofs.LetterCase
import HostFacts.Proofs.Detection
import HostFacts.Proofs.OsTypes
import HostFacts.Proofs.ComparablePaths
import HostFacts.Proofs.VariableNames
