import AgentflowHermes.UnsafeBlockers
import AgentflowHermes.StoreInvariant
import AgentflowHermes.ExecutorAgreement
import AgentflowHermes.IngestCursor
import AgentflowHermes.IngestRules
import AgentflowHermes.OwnerInstances
import AgentflowHermes.OwnerStalls
import AgentflowHermes.SelfGrants
import AgentflowHermes.EventLoss
import AgentflowHermes.BoardEnrollment
import AgentflowHermes.CodeFixConvergence
import AgentflowHermes.CallbackRuns
import AgentflowHermes.ExternalWaitStores
import AgentflowHermes.OutcomeErrors
import AgentflowHermes.ResolverErrors
import AgentflowHermes.PoisonPasses
import AgentflowHermes.OperatorBoards
import AgentflowHermes.ConcurrentTransitions
import AgentflowHermes.IncidentSettlement
import AgentflowHermes.MigrationPending
import AgentflowHermes.RefusalOnce
import AgentflowHermes.DryRuns
import AgentflowHermes.ReplyTool
import AgentflowHermes.OwnerRules
import AgentflowHermes.AnswerRules
import AgentflowHermes.AnswerRuns
import AgentflowHermes.GateRuns
import AgentflowHermes.ReplyReading
import AgentflowHermes.ReplyMembers
import AgentflowHermes.ReplyOutcome
import AgentflowHermes.SubmissionRaces
import AgentflowHermes.InboxBatching
import AgentflowHermes.InputInbox
import AgentflowHermes.OpenQuestions
import AgentflowHermes.BatchLanes
import AgentflowHermes.LiveSanitize
import AgentflowHermes.RoadmapTemplates
import AgentflowHermes.RoadmapTransitions
import AgentflowHermes.RoadmapProposal
import AgentflowHermes.RoadmapApply
import AgentflowHermes.RoadmapJudgement
import AgentflowHermes.RoadmapCaps
import AgentflowHermes.JobStates
import AgentflowHermes.JobStore
import AgentflowHermes.LiveDispatch
import AgentflowHermes.JobLifeCycle
import AgentflowHermes.LiveThrottle
import AgentflowHermes.LiveDelivery
import AgentflowHermes.PayloadPrivacy
import AgentflowHermes.JobPrivacy
import AgentflowHermes.MaintenanceGrants
import AgentflowHermes.MaintenanceStore
import AgentflowHermes.MaintenanceRunner
import AgentflowHermes.MaintenanceBounds
import AgentflowHermes.LoopRemediation
import AgentflowHermes.LoopSupervisor
import AgentflowHermes.LoopStorms
import AgentflowHermes.LoopBounds
import AgentflowHermes.ShortTexts
import AgentflowHermes.RoadmapCourses
import AgentflowHermes.LoopRetries
import AgentflowHermes.LoopHonesty
import AgentflowHermes.LoopConsumption
import AgentflowHermes.MarkerOverrides
import AgentflowHermes.UndecidedGo
import AgentflowHermes.RoadmapAtomic
import AgentflowHermes.ReceiptsFile
import AgentflowHermes.ClosedGates
import AgentflowHermes.ScriptRuns
import AgentflowHermes.SchemaSteps
import AgentflowHermes.SchemaRuns
import AgentflowHermes.SchemaRows
import AgentflowHermes.SchemaVersions
import AgentflowHermes.SchemaResume
import AgentflowHermes.DiscordOrigins
import AgentflowHermes.DiscordMerges
import AgentflowHermes.DiscordPlans
import AgentflowHermes.DiscordEdges
import AgentflowHermes.MigrationTraces
import AgentflowHermes.FailedMigrations
import AgentflowHermes.TextLines
import AgentflowHermes.KeySources
import AgentflowHermes.DiscordPasses
import AgentflowHermes.DiscordPostState
import AgentflowHermes.RegexSpans
import AgentflowHermes.EndpointFlags
import AgentflowHermes.RepairProofs
import AgentflowHermes.PlanRuns
import AgentflowHermes.PlanTruth
import AgentflowHermes.DryRunTruth
import AgentflowHermes.StandingPolicies
import AgentflowHermes.ResolutionLadder
import AgentflowHermes.EventReferences
import AgentflowHermes.UniqueReferences
import AgentflowHermes.BackfillPages
import AgentflowHermes.IncidentQuarantine
import AgentflowHermes.ReleaseActions
import AgentflowHermes.CardVerdicts
import AgentflowHermes.ProposalCaps
import AgentflowHermes.AdapterOperations
import AgentflowHermes.RunnerCalls
import AgentflowHermes.ConfigLoads
import AgentflowHermes.PolicyFiles
import AgentflowHermes.AckNormalForm
import AgentflowHermes.ReceiptJoin
import AgentflowHermes.TemplateStability
import AgentflowHermes.SanitiserFixpoints
import AgentflowHermes.ConfigIndexReads
import AgentflowHermes.RefusalProvenance
import AgentflowHermes.RetryRuns
import AgentflowHermes.EndpointTargets
import AgentflowHermes.TrustAuthority
import AgentflowHermes.WatchdogRegistry
import AgentflowHermes.AttemptGate
import AgentflowHermes.ServiceActions
import AgentflowHermes.CronBridge
import AgentflowHermes.AckRows
import AgentflowHermes.AckRepairs
import AgentflowHermes.RemediationCanary
import AgentflowHermes.RemediationWatchdog
import AgentflowHermes.ReleaseRuns
import AgentflowHermes.RoadmapWatch
