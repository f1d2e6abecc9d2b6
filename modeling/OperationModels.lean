import OperationModels.Main
import OperationModels.Proofs.Results
import OperationModels.Proofs.Selections
import OperationModels.Proofs.BoundVariables
import OperationModels.Proofs.FirstBindings
import OperationModels.Proofs.UndeclaredArguments
import OperationModels.Proofs.Modules
import OperationModels.Proofs.Identifiers
import OperationModels.Proofs.WireNames
import OperationModels.Proofs.DeclaredFields
import OperationModels.Proofs.DefinedTypes
import OperationModels.Proofs.TypeTexts
import OperationModels.Proofs.DiskGrowth
import OperationModels.Proofs.GeneratedFiles
import OperationModels.Proofs.EarlierStructs
import OperationModels.Proofs.RenamedTypes
import OperationModels.Proofs.ResponseKeys
import OperationModels.Proofs.DocumentNames
import OperationModels.Proofs.StructNames
import OperationModels.Proofs.ProvidedParts
import OperationModels.Proofs.SharedSchemas
import OperationModels.Proofs.EarlyExtensions
import OperationModels.Proofs.FieldsOfKinds
import OperationModels.Proofs.DocumentReports
import OperationModels.Proofs.DryRuns
import OperationModels.Proofs.PathPlaces
import OperationModels.Proofs.ChangedPlaces
import OperationModels.Proofs.FollowedNames
import OperationModels.Proofs.MadeFolders
import OperationModels.Proofs.OutputPaths
import OperationModels.Proofs.RepeatedWrites
import OperationModels.Proofs.LoneDocuments
import OperationModels.Proofs.SilentDrops
import OperationModels.Proofs.FaultyFields
import OperationModels.Proofs.UnsupportedConstructs
import OperationModels.Proofs.WholeTypes
import OperationModels.Proofs.ConflictWarnings
import OperationModels.Proofs.Grouping
import OperationModels.Proofs.VariableTypes
import OperationModels.Proofs.ImportLines
import OperationModels.Proofs.UndefinedReferences
import OperationModels.Proofs.WrittenFields
import OperationModels.Proofs.NamedOperations
import OperationModels.Proofs.NormalSelections
import OperationModels.Proofs.RawLiterals
import OperationModels.Proofs.GrownSchemas
import OperationModels.Proofs.MetadataPlaces
import OperationModels.Proofs.PathOrder
import OperationModels.Proofs.CollectedDocuments
import OperationModels.Proofs.FreshIdentifiers
import OperationModels.Proofs.LegalIdentifiers
import OperationModels.Proofs.QuotedNames
import OperationModels.Proofs.ReferredNames
import OperationModels.Proofs.DistinctTypes
