import BuildPipeline.Main
import BuildPipeline.Proofs.RunReport
import BuildPipeline.Proofs.EventLog
import BuildPipeline.Proofs.CommandFaults
import BuildPipeline.Proofs.GreenRun
import BuildPipeline.Proofs.RecordedMetrics
import BuildPipeline.Proofs.PolicyRelaxation
import BuildPipeline.Proofs.PageRuns
import BuildPipeline.Proofs.PageReading
import BuildPipeline.Proofs.JsonNumbers
import BuildPipeline.Proofs.JsonTokens
import BuildPipeline.Proofs.JsonRoundTrip
import BuildPipeline.Proofs.JsonRecords
import BuildPipeline.Proofs.ReportRoundTrip
import BuildPipeline.Proofs.PageShape
import BuildPipeline.Proofs.ReportPage
import BuildPipeline.Proofs.CommandPlan
import BuildPipeline.Proofs.Completion
import BuildPipeline.Proofs.JsonOmission
import BuildPipeline.Proofs.SettingsRoundTrip
import BuildPipeline.Proofs.PathText
import BuildPipeline.Proofs.FolderTree
import BuildPipeline.Proofs.FolderWalk
import BuildPipeline.Proofs.FolderMaking
import BuildPipeline.Proofs.FileReplacing
import BuildPipeline.Proofs.DocumentWriting
import BuildPipeline.Proofs.GateCriteria
import BuildPipeline.Proofs.FailureCauses
import BuildPipeline.Proofs.TidyTree
import BuildPipeline.Proofs.PathPlace
import BuildPipeline.Proofs.Confinement
import BuildPipeline.Proofs.Rehearsal
import BuildPipeline.Proofs.ProperTree
import BuildPipeline.Proofs.PinnedPath
import BuildPipeline.Proofs.Relisting
import BuildPipeline.Proofs.FileWriting
import BuildPipeline.Proofs.FileCopying
import BuildPipeline.Proofs.ArtifactSearch
import BuildPipeline.Proofs.ArtifactCopies
import BuildPipeline.Proofs.ArtifactStep
import BuildPipeline.Proofs.ArtifactRepetition
import BuildPipeline.Proofs.ArtifactSources
import BuildPipeline.Proofs.FileListing
import BuildPipeline.Proofs.ArtifactListing
import BuildPipeline.Proofs.ScriptReplay
import BuildPipeline.Proofs.Counts
import BuildPipeline.Proofs.NumberScan
import BuildPipeline.Proofs.PlaceSums
import BuildPipeline.Proofs.SummaryLine
import BuildPipeline.Proofs.Matching
import BuildPipeline.Proofs.LeftmostMatching
import BuildPipeline.Proofs.ToolFooters
import BuildPipeline.Proofs.TruncatedText
import BuildPipeline.Proofs.EnvironmentStep
import BuildPipeline.Proofs.TestStep
import BuildPipeline.Proofs.MetricGroups
import BuildPipeline.Proofs.ShownValues
import BuildPipeline.Proofs.CommandEnvironment
import BuildPipeline.Proofs.DraftGrowth
import BuildPipeline.Proofs.AtomicWriting
