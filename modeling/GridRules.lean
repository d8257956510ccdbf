import GridRules.Main
import GridRules.Proofs.CycleReports
import GridRules.Proofs.Operands
import GridRules.Proofs.NodeNormalization
import GridRules.Expr.Normalize
import GridRules.Proofs.CanonicalExpr
import GridRules.Proofs.DistinctKeys
import GridRules.Proofs.ExpressionReads
import GridRules.Proofs.FieldReferences
import GridRules.Proofs.NormalizedEvaluation
import GridRules.Proofs.PlanDependencies
import GridRules.Proofs.Impact
import GridRules.Proofs.RuleValues
import GridRules.Proofs.IncrementalRuns
import GridRules.Proofs.CanonicalForm
import GridRules.Proofs.ValidatedTrackers
import GridRules.Proofs.CompiledGraphs
import GridRules.Proofs.PipelineRuns
import GridRules.Proofs.StableRows
import GridRules.Proofs.ContainedCycles
import GridRules.Proofs.RuleOrder
import GridRules.Proofs.RespelledRules
import GridRules.Proofs.PlannerRuns
import GridRules.Proofs.OfflineRuns
import GridRules.Proofs.ServedLists
import GridRules.Proofs.ExpiringRuns
import GridRules.Proofs.EngineRuns
import GridRules.Proofs.SecretRuns
import GridRules.Proofs.SettledChecks
import GridRules.Proofs.ReturnedResults
import GridRules.Proofs.ContainedFaults
import GridRules.Proofs.OperandShapes
import GridRules.Proofs.CheckedPatterns
import GridRules.Proofs.CandidateSpellings
import GridRules.Proofs.MissingReferences
import GridRules.Proofs.NormalizedPlans
import GridRules.Proofs.ImpactChains
import GridRules.Proofs.RereadDefinitions
import GridRules.Proofs.ExpressionVerdicts
import GridRules.Proofs.ReportedChanges
import GridRules.Proofs.StructuralEquality
import GridRules.Proofs.DependencyCycles
import GridRules.Proofs.FirstRefusals
import GridRules.Proofs.CappedLists
import GridRules.Proofs.ReportedExpiry
import GridRules.Proofs.FetchedLists
import GridRules.Proofs.SortedRows
import GridRules.Proofs.PlacedFields
import GridRules.Proofs.ListMembership
import GridRules.Proofs.KeyOrder
import GridRules.Proofs.UniqueRows
import GridRules.Proofs.FilledTemplates
