import MiniTemplate.Asset
import MiniTemplate.Build
import MiniTemplate.CommandLine
import MiniTemplate.Compile
import MiniTemplate.Config
import MiniTemplate.Config.Decode
import MiniTemplate.Config.Dump
import MiniTemplate.Dialect
import MiniTemplate.EventName
import MiniTemplate.Fault
import MiniTemplate.Files.Disk
import MiniTemplate.Files.Fault
import MiniTemplate.Files.Name
import MiniTemplate.Files.Path
import MiniTemplate.Files.System
import MiniTemplate.Generator
import MiniTemplate.Json.Decoder
import MiniTemplate.Json.Reader
import MiniTemplate.Json.Value
import MiniTemplate.Lowering.Control
import MiniTemplate.Lowering.Element
import MiniTemplate.Lowering.Properties
import MiniTemplate.Main
import MiniTemplate.Markup
import MiniTemplate.Options
import MiniTemplate.OutputDir
import MiniTemplate.Proofs.Arrangement
import MiniTemplate.Proofs.Assembly
import MiniTemplate.Proofs.AttributeOrder
import MiniTemplate.Proofs.Buffer
import MiniTemplate.Proofs.BuildEffect
import MiniTemplate.Proofs.CamelCase
import MiniTemplate.Proofs.ComponentNames
import MiniTemplate.Proofs.ConditionPlacement
import MiniTemplate.Proofs.Conservation
import MiniTemplate.Proofs.Containment
import MiniTemplate.Proofs.DialectMarks
import MiniTemplate.Proofs.Directories
import MiniTemplate.Proofs.Emission
import MiniTemplate.Proofs.EventBindings
import MiniTemplate.Proofs.FirstFault
import MiniTemplate.Proofs.Flattening
import MiniTemplate.Proofs.Generation
import MiniTemplate.Proofs.Generators
import MiniTemplate.Proofs.GuardTransparency
import MiniTemplate.Proofs.Guards
import MiniTemplate.Proofs.KeyedRepetition
import MiniTemplate.Proofs.Layering
import MiniTemplate.Proofs.Locations
import MiniTemplate.Proofs.Outlets
import MiniTemplate.Proofs.Paths
import MiniTemplate.Proofs.Placement
import MiniTemplate.Proofs.QuoteFree
import MiniTemplate.Proofs.QuoteSafety
import MiniTemplate.Proofs.Reading
import MiniTemplate.Proofs.Rendering
import MiniTemplate.Proofs.RepetitionScope
import MiniTemplate.Proofs.Rewriting
import MiniTemplate.Proofs.RoundTrip
import MiniTemplate.Proofs.Runs
import MiniTemplate.Proofs.SlotProperties
import MiniTemplate.Proofs.Splicing
import MiniTemplate.Proofs.VirtualHost
import MiniTemplate.Proofs.Visibility
import MiniTemplate.Proofs.WellFormed
import MiniTemplate.Proofs.WrittenFiles
import MiniTemplate.Readiness
import MiniTemplate.Template.Decode
import MiniTemplate.Template.Dump
import MiniTemplate.Template.Expression
import MiniTemplate.Template.Node
import MiniTemplate.Template.Property
import MiniTemplate.Text.Hidden
import MiniTemplate.Text.Hyphenation
import MiniTemplate.Text.Quoted
import MiniTemplate.Text.Readable
import MiniTemplate.Text.Uppercase
