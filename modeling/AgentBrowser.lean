import AgentBrowser.AccessDecision
import AgentBrowser.AccessPlan
import AgentBrowser.AccessState
import AgentBrowser.AsciiLetters
import AgentBrowser.Attachability
import AgentBrowser.AttachabilityVerdicts
import AgentBrowser.AuthorityCommands
import AgentBrowser.AuthorityHost
import AgentBrowser.AuthorityIsolation
import AgentBrowser.AuthorityModel
import AgentBrowser.AuthorityOps
import AgentBrowser.AuthorityRules
import AgentBrowser.AuthorityRuns
import AgentBrowser.AuthoritySteps
import AgentBrowser.AuthorityStore
import AgentBrowser.AvoidedFailures
import AgentBrowser.Backtracking
import AgentBrowser.BackupReservation
import AgentBrowser.Base64Url
import AgentBrowser.BoundExecution
import AgentBrowser.BrowserRecords
import AgentBrowser.BrowserRecovery
import AgentBrowser.BuildEvidence
import AgentBrowser.CancellationWake
import AgentBrowser.CdpClosure
import AgentBrowser.CdpReplies
import AgentBrowser.ChunkedBody
import AgentBrowser.CleanupResume
import AgentBrowser.CleanupRuns
import AgentBrowser.CleanupSelection
import AgentBrowser.ColdRestart
import AgentBrowser.ColdRestartRuns
import AgentBrowser.ColdRestartSafety
import AgentBrowser.ColdRestartTrace
import AgentBrowser.CommandGate
import AgentBrowser.CommandLedger
import AgentBrowser.CommandLine
import AgentBrowser.CommandRetry
import AgentBrowser.CompactJson
import AgentBrowser.CompactTree
import AgentBrowser.ConcurrentReconcile
import AgentBrowser.Confirmation
import AgentBrowser.ConfirmationCommands
import AgentBrowser.ConfirmationSteps
import AgentBrowser.ControlPlane
import AgentBrowser.CrlfLines
import AgentBrowser.DaemonConnection
import AgentBrowser.DaemonRetirement
import AgentBrowser.DashboardAuth
import AgentBrowser.DashboardResponses
import AgentBrowser.DecimalOrder
import AgentBrowser.DerivedFixedPoint
import AgentBrowser.DerivedViews
import AgentBrowser.DiscoveryOrder
import AgentBrowser.DisplayAllocations
import AgentBrowser.DomainFilter
import AgentBrowser.EndedLines
import AgentBrowser.EpochHistory
import AgentBrowser.EpochJourney
import AgentBrowser.ExplainedRank
import AgentBrowser.Finalization
import AgentBrowser.FinalizationOwnership
import AgentBrowser.FinalizeOnce
import AgentBrowser.FlagScanners
import AgentBrowser.FreshnessUpdate
import AgentBrowser.GateCommands
import AgentBrowser.GateEpoch
import AgentBrowser.GateExclusion
import AgentBrowser.GateReadback
import AgentBrowser.GateRecord
import AgentBrowser.GateRuns
import AgentBrowser.GlobalFlags
import AgentBrowser.Guards
import AgentBrowser.HandoffRecovery
import AgentBrowser.HashChain
import AgentBrowser.IframeMerge
import AgentBrowser.IncidentResolution
import AgentBrowser.InsertAfter
import AgentBrowser.InterlockCustody
import AgentBrowser.InterlockRuns
import AgentBrowser.IssuedPlan
import AgentBrowser.JobCancellation
import AgentBrowser.JobPruning
import AgentBrowser.JobReplies
import AgentBrowser.JsonText
import AgentBrowser.JsonValue
import AgentBrowser.KeyedRows
import AgentBrowser.LeaseInterference
import AgentBrowser.LeaseRollback
import AgentBrowser.LedgerSpec
import AgentBrowser.MonitorRuns
import AgentBrowser.ObserverRevocation
import AgentBrowser.OperationContract
import AgentBrowser.OperationLifecycle
import AgentBrowser.OperationRuns
import AgentBrowser.Outline
import AgentBrowser.OwnershipGraph
import AgentBrowser.OwnershipReferences
import AgentBrowser.Panics
import AgentBrowser.Parts
import AgentBrowser.PlanAdmission
import AgentBrowser.PlanBlocks
import AgentBrowser.PlanRuns
import AgentBrowser.PlanSingleUse
import AgentBrowser.PrivateBroker
import AgentBrowser.PrivateCommands
import AgentBrowser.PrivateCoordinator
import AgentBrowser.PrivateHandoff
import AgentBrowser.PrivateIdentity
import AgentBrowser.PrivateJourney
import AgentBrowser.PrivateOperation
import AgentBrowser.PrivateRecipe
import AgentBrowser.PrivateStaging
import AgentBrowser.ProfileDiscovery
import AgentBrowser.ProfileOwnership
import AgentBrowser.ProfileSelection
import AgentBrowser.ProtocolMacs
import AgentBrowser.PublicationLock
import AgentBrowser.PublicationRuns
import AgentBrowser.QueueAccounting
import AgentBrowser.RankedChoice
import AgentBrowser.ReceiptCleanup
import AgentBrowser.ReconcileResume
import AgentBrowser.ReconcileValidation
import AgentBrowser.Reconciliation
import AgentBrowser.RecordedAuthority
import AgentBrowser.RecordedPackages
import AgentBrowser.RecoveryBudget
import AgentBrowser.RecoveryIdentity
import AgentBrowser.RefResolution
import AgentBrowser.RefUniqueness
import AgentBrowser.RemoteViewHandoff
import AgentBrowser.RemoteViewReconcile
import AgentBrowser.RemoteViewRepeat
import AgentBrowser.RenderedTree
import AgentBrowser.RequestFraming
import AgentBrowser.RequestHead
import AgentBrowser.Restart
import AgentBrowser.RetainedBrowser
import AgentBrowser.RetainedRecords
import AgentBrowser.RetainedRequirement
import AgentBrowser.RetainedRotation
import AgentBrowser.RetainedVerifiers
import AgentBrowser.Returns
import AgentBrowser.RotationReaders
import AgentBrowser.RotationRuns
import AgentBrowser.RouteAcquisition
import AgentBrowser.RouteCheckout
import AgentBrowser.RouteDisplayRestore
import AgentBrowser.RouteFinalization
import AgentBrowser.RouteLeases
import AgentBrowser.RouteReadiness
import AgentBrowser.SavedSessions
import AgentBrowser.ServiceConfig
import AgentBrowser.ServiceJobs
import AgentBrowser.ServiceModel
import AgentBrowser.ServiceStore
import AgentBrowser.SingleUse
import AgentBrowser.StandardText
import AgentBrowser.StateFiles
import AgentBrowser.StaticText
import AgentBrowser.StoreTriples
import AgentBrowser.StoredTimes
import AgentBrowser.TerminalClose
import AgentBrowser.TombstoneRoundTrip
import AgentBrowser.TombstoneTampering
import AgentBrowser.TombstoneWriter
import AgentBrowser.Tombstones
import AgentBrowser.TreeTermination
import AgentBrowser.UrlPattern
import AgentBrowser.UserDurations
import AgentBrowser.UtcTime
import AgentBrowser.WireText
