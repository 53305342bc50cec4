import PoolConsole.Main
import PoolConsole.Proofs.PanelHistory
import PoolConsole.Proofs.Run.History
import PoolConsole.Proofs.Run.Sequential
import PoolConsole.Simulation.Description
import PoolConsole.Simulation.Machine
import PoolConsole.Simulation.Schedule
import PoolConsole.Proofs.NamespaceProtocol
import PoolConsole.Proofs.TemplateChoice
import PoolConsole.Proofs.SingleSubmission
import PoolConsole.Proofs.JobCoherence
import PoolConsole.Proofs.ReopenedWizard
import PoolConsole.Proofs.WizardCatalogue
import PoolConsole.Proofs.DeploymentValues
import PoolConsole.Proofs.Run.Loading
import PoolConsole.Proofs.Run.NodeLoads
import PoolConsole.Proofs.Run.JobReloads
import PoolConsole.Proofs.Run.Served
import PoolConsole.Proofs.ReadBack
import PoolConsole.Proofs.LabelReadBack
import PoolConsole.Proofs.Run.MonitorLoads
import PoolConsole.Proofs.DeviceFilters
import PoolConsole.Proofs.MonitorPair
import PoolConsole.Proofs.QuotaOwnership
import PoolConsole.Proofs.SessionReads
import PoolConsole.Proofs.LogPolling
import PoolConsole.Proofs.Run.Rereads
import PoolConsole.Proofs.WriteFate
import PoolConsole.Proofs.Debouncing
import PoolConsole.Proofs.FormEdits
import PoolConsole.Proofs.FormDefaults
import PoolConsole.Proofs.Refusals
import PoolConsole.Proofs.AccessGate
import PoolConsole.Proofs.DeletionTargets
import PoolConsole.Proofs.DeletionRequests
import PoolConsole.Proofs.SelectAll
import PoolConsole.Proofs.Paging
import PoolConsole.Proofs.SubmissionOutcome
import PoolConsole.Proofs.ParamDerivation
import PoolConsole.Proofs.LabelText
import PoolConsole.Proofs.TargetLabels
import PoolConsole.Proofs.Run.DeployTranscripts
import PoolConsole.Proofs.DeployArguments
import PoolConsole.Proofs.DeployCommand
import PoolConsole.Proofs.TypedTargets
import PoolConsole.Proofs.EnteredTexts
import PoolConsole.Proofs.DecimalText
import PoolConsole.Proofs.FloatRounding
import PoolConsole.Proofs.FloatRange
import PoolConsole.Proofs.IntegerEntry
import PoolConsole.Proofs.NumberEntry
import PoolConsole.Proofs.ChoiceEntry
import PoolConsole.Proofs.JobRecords
import PoolConsole.Proofs.TemplateNulls
import PoolConsole.Proofs.LogShapes
import PoolConsole.Proofs.NodeTable
import PoolConsole.Proofs.CordonToggle
import PoolConsole.Proofs.ConsoleLock
import PoolConsole.Proofs.MapEntries
import PoolConsole.Proofs.Run.ServiceLoads
import PoolConsole.Proofs.ServiceListing
import PoolConsole.Proofs.ResourceSummary
import PoolConsole.Proofs.QuotaNumbers
