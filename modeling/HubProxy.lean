import HubProxy.Files.Disk
import HubProxy.Json.Writer
import HubProxy.Main
import HubProxy.Service.Reply
import HubProxy.Proofs.RegistryOperations
import HubProxy.Proofs.ResolutionAgenda
import HubProxy.Proofs.ResolutionSimulation
import HubProxy.Proofs.BuildAgenda
import HubProxy.Proofs.ResolutionInvariant
import HubProxy.Proofs.RegistryRuns
import HubProxy.Proofs.NeededTypes
import HubProxy.Proofs.ContractReading
import HubProxy.Proofs.ContractNames
import HubProxy.Proofs.DeclaredTypes
import HubProxy.Proofs.BuildSuccess
import HubProxy.Proofs.Conflicts
import HubProxy.Proofs.GroundedReferences
import HubProxy.Proofs.SourceTokens
import HubProxy.Proofs.SourceReading
import HubProxy.Proofs.EmittedSource
import HubProxy.Proofs.EmittedFile
import HubProxy.Proofs.ContractPrimitives
import HubProxy.Proofs.CaseMapping
import HubProxy.Proofs.CasedNames
import HubProxy.Proofs.BuiltSource
import HubProxy.Proofs.ScanInversion
import HubProxy.Proofs.SourceSegments
import HubProxy.Proofs.EmittedSegments
import HubProxy.Proofs.ScannedBlocks
import HubProxy.Proofs.BuiltSegments
import HubProxy.Proofs.Regeneration
import HubProxy.Proofs.RegenerationChain
import HubProxy.Proofs.DependencyOrder
import HubProxy.Proofs.SharedShapes
import HubProxy.Proofs.NeededImports
import HubProxy.Proofs.RelatedBuilds
import HubProxy.Proofs.ReorderedOperations
import HubProxy.Proofs.Basic
import HubProxy.Proofs.ImportLines
import HubProxy.Proofs.ExactImports
import HubProxy.Proofs.ReadingFailures
import HubProxy.Proofs.ReportedErrors
import HubProxy.Proofs.LineFeeds
import HubProxy.Proofs.DiskFrames
import HubProxy.Proofs.DiskRuns
import HubProxy.Proofs.WrittenFiles
import HubProxy.Proofs.RepeatedRuns
import HubProxy.Proofs.Blueprint
import HubProxy.Proofs.WrittenDocument
import HubProxy.Proofs.WrittenTerms
import HubProxy.Proofs.WrittenModule
import HubProxy.Proofs.LoadedModules
import HubProxy.Proofs.ModuleReading
import HubProxy.Proofs.AlikeBuilds
import HubProxy.Proofs.FormsAgree
import HubProxy.Proofs.ResolutionEnds
import HubProxy.Proofs.EmittedNames
import HubProxy.Proofs.DiffScripts
import HubProxy.Proofs.LoggedDisks
import HubProxy.Proofs.ReadingRuns
import HubProxy.Proofs.RunFrames
import HubProxy.Proofs.TargetContent
import HubProxy.Proofs.RepeatedResolution
import HubProxy.Proofs.ProxyMethods
import HubProxy.Proofs.FailingSteps
import HubProxy.Proofs.AtomicWrites
import HubProxy.Proofs.StrippedSource
import HubProxy.Proofs.LexicalSegments
import HubProxy.Proofs.SelfAlignment
import HubProxy.Proofs.Patches
import HubProxy.Proofs.DiffPatches
import HubProxy.Proofs.SourceForest
import HubProxy.Proofs.ScannedPieces
import HubProxy.Proofs.ScannedForest
import HubProxy.Proofs.TypeExpressions
import HubProxy.Proofs.ReadingEnds
import HubProxy.Proofs.FinishedTypes
import HubProxy.Proofs.SpelledTypes
import HubProxy.Proofs.PrintedLines
import HubProxy.Proofs.PrintedMembers
import HubProxy.Proofs.PrintedTypes
import HubProxy.Proofs.LosslessEmission
import HubProxy.Proofs.WrittenNames
import HubProxy.Proofs.WholeNames
import HubProxy.Proofs.OwnTexts
import HubProxy.Proofs.ReservedWords
import HubProxy.Proofs.ReferenceNames
import HubProxy.Proofs.RefusedCalls
import HubProxy.Proofs.RenderedLiterals
import HubProxy.Proofs.PathTexts
import HubProxy.Proofs.MovedDisks
import HubProxy.Proofs.ContractSources
import HubProxy.Proofs.PascalNames
