import SchemaBindings.Main
import SchemaBindings.Synthetic
import SchemaBindings.Proofs.DeclarationOrder
import SchemaBindings.Proofs.Distribution
import SchemaBindings.Proofs.ScalarMapping
import SchemaBindings.Proofs.Seeds
import SchemaBindings.Proofs.TypeStructure
import SchemaBindings.Proofs.Warnings
import SchemaBindings.Proofs.Wrappers
import SchemaBindings.Proofs.Names
import SchemaBindings.Proofs.WrittenTokens
import SchemaBindings.Proofs.Lowering
import SchemaBindings.Proofs.Pointwise
import SchemaBindings.Proofs.PrintedTypes
import SchemaBindings.Proofs.CamelCase
import SchemaBindings.Proofs.Identifiers
import SchemaBindings.Proofs.Loading
import SchemaBindings.Proofs.PrintedOutput
import SchemaBindings.Proofs.ConfigText
import SchemaBindings.Proofs.StepOrder
import SchemaBindings.Proofs.DisplayedShapes
import SchemaBindings.Proofs.WorkList
import SchemaBindings.Proofs.DistinctNames
import SchemaBindings.Proofs.CollectingSteps
import SchemaBindings.Proofs.JsonValues
import SchemaBindings.Proofs.JsonMembers
import SchemaBindings.Proofs.ConfigMembers
import SchemaBindings.Proofs.ConfigSteps
import SchemaBindings.Proofs.Lookups
import SchemaBindings.Proofs.OperationSteps
import SchemaBindings.Proofs.Getters
import SchemaBindings.Proofs.Segments
import SchemaBindings.Proofs.IgnoredDeclarations
import SchemaBindings.Proofs.RecordTexts
import SchemaBindings.Proofs.SyntheticTexts
import SchemaBindings.Proofs.SyntheticRuns
