import MonoidKernel.Library.Machine
import MonoidKernel.Library.NumberedLog
import MonoidKernel.Library.AnnouncedGaps
import MonoidKernel.Library.ChainedLog
import MonoidKernel.Library.Program
import MonoidKernel.Core.SafeEvidence
import MonoidKernel.Core.Outcome
import MonoidKernel.Core.SyncBridgeRuns
import MonoidKernel.Core.Events
import MonoidKernel.Core.ModelInvocation
import MonoidKernel.Postgres.InvocationOrder
import MonoidKernel.Hosting.FencedJournal
import MonoidKernel.Hosting.DispatchOnce
import MonoidKernel.Core.Capability
import MonoidKernel.Core.CapabilityGate
import MonoidKernel.Core.CapabilityRuns
import MonoidKernel.Core.EventSubscription
import MonoidKernel.Core.ReplayOrder
import MonoidKernel.Core.EventLogTail
import MonoidKernel.Core.ModelContentRoundTrip
import MonoidKernel.Core.PublicView
import MonoidKernel.Core.PublicViewWalk
import MonoidKernel.Core.PublicViewCeiling
import MonoidKernel.Core.Packages
import MonoidKernel.Core.PackageApply
import MonoidKernel.Workspace.Local
import MonoidKernel.Workspace.LocalView
import MonoidKernel.Workspace.LocalTree
import MonoidKernel.Workspace.LocalMerge
import MonoidKernel.Workspace.LocalCopy
import MonoidKernel.Workspace.LocalRuns
import MonoidKernel.Workspace.Changes
import MonoidKernel.Workspace.ChangesExact
import MonoidKernel.Workspace.ChangesSteps
import MonoidKernel.Workspace.ChangesMerge
import MonoidKernel.Workspace.ChangesRuns
import MonoidKernel.Reference.ModelStream
import MonoidKernel.Reference.ModelStreamRing
import MonoidKernel.Reference.ModelStreamReader
import MonoidKernel.Reference.ModelStreamSteps
import MonoidKernel.Reference.ModelStreamRuns
import MonoidKernel.Library.Counts
import MonoidKernel.Core.ModelReceipt
import MonoidKernel.Core.ModelCallLoop
import MonoidKernel.Core.ModelCallAccounting
import MonoidKernel.Core.ModelCallExits
import MonoidKernel.Studio.ModelStream
import MonoidKernel.Studio.ModelStreamExact
import MonoidKernel.Studio.ModelStreamRuns
import MonoidKernel.Loop.ClosingRuns
import MonoidKernel.Library.HighWater
import MonoidKernel.Reference.TenantLedger
import MonoidKernel.Reference.TenantLedgerRuns
import MonoidKernel.Core.Outbox
import MonoidKernel.Reference.OutboxDispatch
import MonoidKernel.Reference.OutboxRuns
import MonoidKernel.Checkpoint.StoreRuns
import MonoidKernel.Reference.SessionRecovery
import MonoidKernel.Postgres.ObjectCollector
import MonoidKernel.Postgres.ObjectCollectorSteps
import MonoidKernel.Postgres.ObjectCollectorRuns
import MonoidKernel.Hosting.ActivationOrder
import MonoidKernel.Core.SignedScopeCeiling
import MonoidKernel.Core.CapabilityRevocation
import MonoidKernel.Loop.SessionFacadeRuns
import MonoidKernel.Providers.StreamAssembly
import MonoidKernel.Reference.CommandInboxRuns
import MonoidKernel.Core.StatusAgreement
import MonoidKernel.Loop.TaskDelivery
import MonoidKernel.Core.JsonNesting
import MonoidKernel.Core.CapabilityRotation
import MonoidKernel.Memory.EditsExact
import MonoidKernel.Core.FrontmatterRoundTrip
import MonoidKernel.Core.MediaEviction
import MonoidKernel.Workspace.PathPatterns
import MonoidKernel.Workspace.PathPatternsRoundTrip
import MonoidKernel.Core.JsonIngressExact
import MonoidKernel.Core.ExternalAgentIdentity
import MonoidKernel.Core.PayloadGcKept
