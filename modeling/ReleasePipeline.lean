import ReleasePipeline.Main
import ReleasePipeline.Disk.Node.Lemmas
import ReleasePipeline.Tools.Rehearsal
import ReleasePipeline.Proofs.Text.Utf8
import ReleasePipeline.Proofs.Text.Quoted
import ReleasePipeline.Proofs.Path.Joining
import ReleasePipeline.Proofs.Job.Names
import ReleasePipeline.Proofs.Job.BuildFolder
import ReleasePipeline.Proofs.Json.RoundTrip
import ReleasePipeline.Proofs.Job.Record
import ReleasePipeline.Proofs.Job.Settings
import ReleasePipeline.Proofs.Job.Complaints
import ReleasePipeline.Proofs.ToolCall.CommandLine
import ReleasePipeline.Proofs.Disk.Entries
import ReleasePipeline.Proofs.Disk.Location
import ReleasePipeline.Proofs.Disk.Operations
import ReleasePipeline.Proofs.Disk.SideBySide
import ReleasePipeline.Proofs.Disk.Growing
import ReleasePipeline.Proofs.Disk.Emptying
import ReleasePipeline.Proofs.Stage.Runs
import ReleasePipeline.Proofs.Stage.Matches
import ReleasePipeline.Proofs.Stage.Accords
import ReleasePipeline.Proofs.Stage.Watched
import ReleasePipeline.Proofs.Stage.Unwatched
import ReleasePipeline.Proofs.Stage.Plan
import ReleasePipeline.Proofs.Stage.Endings
import ReleasePipeline.Proofs.Stage.Refusals
import ReleasePipeline.Proofs.Stage.Account
import ReleasePipeline.Proofs.Stage.Reports
import ReleasePipeline.Proofs.Workspace.Nesting
import ReleasePipeline.Proofs.Workspace.Anchored
import ReleasePipeline.Proofs.Release.Tools
import ReleasePipeline.Proofs.Tools.Recorder
import ReleasePipeline.Proofs.Release.PlainTools
import ReleasePipeline.Proofs.Release.Steps
import ReleasePipeline.Proofs.Release.StepsAlike
import ReleasePipeline.Proofs.Release.Sightings
import ReleasePipeline.Proofs.Release.Footprint
import ReleasePipeline.Proofs.Release.Tandem
import ReleasePipeline.Proofs.Release.Abreast
import ReleasePipeline.Proofs.Release.Rerun
import ReleasePipeline.Proofs.Release.Frame
import ReleasePipeline.Proofs.Release.Course
import ReleasePipeline.Proofs.Release.Provenance
import ReleasePipeline.Proofs.Release.InRoot
import ReleasePipeline.Proofs.Release.Pruning
import ReleasePipeline.Proofs.Release.Indifference
import ReleasePipeline.Proofs.Release.TwoJobs
import ReleasePipeline.Proofs.Release.Parallel
import ReleasePipeline.Proofs.Release.Policies
import ReleasePipeline.Proofs.Release.ToldApart
import ReleasePipeline.Proofs.Build.History
import ReleasePipeline.Proofs.Build.HookLines
import ReleasePipeline.Proofs.Build.OneFolder
import ReleasePipeline.Proofs.Build.ProperChild
import ReleasePipeline.Proofs.Toolchain.Lookup
import ReleasePipeline.Proofs.Toolchain.FirstMatch
import ReleasePipeline.Proofs.CommandLine.Status
import ReleasePipeline.Proofs.Path.NormalForm
import ReleasePipeline.Proofs.Release.Recreating
import ReleasePipeline.Proofs.Disk.Placement
