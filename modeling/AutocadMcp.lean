import AutocadMcp.Agent.DecidedOnce
import AutocadMcp.Agent.LostSessions
import AutocadMcp.Agent.Recovery
import AutocadMcp.Agent.Reports
import AutocadMcp.Approval.ApprovedInTime
import AutocadMcp.Contracts.Validation
import AutocadMcp.Dimension.AllOrNothing
import AutocadMcp.Dimension.Callouts
import AutocadMcp.Dimension.Chains
import AutocadMcp.Dimension.CommitCheck
import AutocadMcp.Dimension.CommittedOnce
import AutocadMcp.Dimension.Parts
import AutocadMcp.Dimension.References
import AutocadMcp.Dimension.RepairedDrawing
import AutocadMcp.Dispatcher.Attributes
import AutocadMcp.Dispatcher.ReadsBack
import AutocadMcp.Gateway.CancelIntent
import AutocadMcp.Gateway.DispatchPolicy
import AutocadMcp.Gateway.EventLog
import AutocadMcp.Gateway.ProvenResults
import AutocadMcp.Gateway.SentCommands
import AutocadMcp.Gateway.StartedWrites
import AutocadMcp.Gateway.ToldResults
import AutocadMcp.Gateway.WriteLocks
import AutocadMcp.Host.CanonicalJson
import AutocadMcp.Host.CommitUndo
import AutocadMcp.Host.DocumentEvents
import AutocadMcp.Host.ReplayGuard
import AutocadMcp.Identity.Tokens
import AutocadMcp.Joint.Agreement
import AutocadMcp.Lib.JsonFields
import AutocadMcp.Phase8.Acceptance
import AutocadMcp.Phase8.Binding
import AutocadMcp.Phase8.Evidence
import AutocadMcp.Program.Typing
import AutocadMcp.Revisions.History
import AutocadMcp.Revisions.Rebase
import AutocadMcp.Scene.Components
import AutocadMcp.Scene.Containment
import AutocadMcp.Scene.RedrawnLines
import AutocadMcp.Scene.SamePath
import AutocadMcp.Scene.SegmentRelations
import AutocadMcp.Scene.SelfIntersection
import AutocadMcp.Scene.SpatialIndex
import AutocadMcp.Snapshots.Paging
import AutocadMcp.Sockets.Admission
import AutocadMcp.Sockets.Sequences
import AutocadMcp.Workflow.OutcomeUnknown
import AutocadMcp.Workflow.Plain
import AutocadMcp.Workflow.ResolvedWaits
import AutocadMcp.Workflow.RunLaw
import AutocadMcp.Workflow.StoppedRuns
import AutocadMcp.Workflow.SucceedsOnProof
import AutocadMcp.Workflow.WaitLaw
