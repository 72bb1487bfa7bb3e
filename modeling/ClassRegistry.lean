import ClassRegistry.Main
import ClassRegistry.Proofs.Generated.ModuleUnit
import ClassRegistry.Proofs.Report.Caret
import ClassRegistry.Proofs.Registry.BaseType
import ClassRegistry.Proofs.Generated.Bindings
import ClassRegistry.Proofs.Generated.Clashes
import ClassRegistry.Proofs.Generated.Reference
import ClassRegistry.Proofs.Declaration.Names
import ClassRegistry.Proofs.Generated.BaseImport
import ClassRegistry.Proofs.Run.Frame
import ClassRegistry.Proofs.Output.Writing
import ClassRegistry.Proofs.Declaration.Exports
import ClassRegistry.Proofs.Generated.Members
import ClassRegistry.Proofs.Report.HelperPath
import ClassRegistry.Proofs.Scan.Relocation
import ClassRegistry.Proofs.Generated.Parsed
import ClassRegistry.Proofs.Run.Counts
import ClassRegistry.Proofs.Scan.Selection
import ClassRegistry.Proofs.Config.Nearest
import ClassRegistry.Proofs.Generated.Specifier
import ClassRegistry.Proofs.Declaration.Arguments
import ClassRegistry.Proofs.Output.Outcome
import ClassRegistry.Proofs.Output.Delivery
import ClassRegistry.Proofs.Order.Walk
import ClassRegistry.Proofs.Declaration.Decorators
import ClassRegistry.Proofs.Registry.RegistryName
import ClassRegistry.Proofs.Source.Location
import ClassRegistry.Proofs.Generated.ClassImports
import ClassRegistry.Proofs.Path.Normalization
import ClassRegistry.Proofs.Generated.FirstRequests
import ClassRegistry.Proofs.Declaration.Positions
