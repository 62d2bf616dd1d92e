import ReviveX.Lib.Agree
import ReviveX.Lib.Binary64
import ReviveX.Lib.Bins
import ReviveX.Lib.Cursor
import ReviveX.Lib.Decimal
import ReviveX.Lib.Documents
import ReviveX.Lib.Except
import ReviveX.Lib.History
import ReviveX.Lib.Json
import ReviveX.Lib.JsonText
import ReviveX.Lib.KeyOrder
import ReviveX.Lib.LatestJoin
import ReviveX.Lib.Markers
import ReviveX.Lib.Pages
import ReviveX.Lib.Redaction
import ReviveX.Lib.Register
import ReviveX.Lib.Runs
import ReviveX.Lib.Separated
import ReviveX.Lib.Session
import ReviveX.Lib.Signals
import ReviveX.Lib.Sorting
import ReviveX.Lib.Table
import ReviveX.Lib.Totals
import ReviveX.Lib.Unwinding
import ReviveX.Lib.Window
import ReviveX.Db.Enums
import ReviveX.Db.Models
import ReviveX.Db.Store
import ReviveX.Domain.AttemptTheorems
import ReviveX.Domain.CapturePipeline
import ReviveX.Domain.ClockTheorems
import ReviveX.Domain.ConversionTheorems
import ReviveX.Domain.CreditConcurrency
import ReviveX.Domain.CreditConfluence
import ReviveX.Domain.CreditRuns
import ReviveX.Domain.CreditSoundness
import ReviveX.Domain.CreditTheorems
import ReviveX.Domain.DeadLetterTheorems
import ReviveX.Domain.DenialTheorems
import ReviveX.Domain.DispatchTheorems
import ReviveX.Domain.EffectTheorems
import ReviveX.Domain.Ingestion
import ReviveX.Domain.IngestionTheorems
import ReviveX.Domain.LifecycleTheorems
import ReviveX.Domain.Money
import ReviveX.Domain.Normalize
import ReviveX.Domain.OrderTheorems
import ReviveX.Domain.PaymentConcurrency
import ReviveX.Domain.PaymentTheorems
import ReviveX.Domain.PlanTheorems
import ReviveX.Domain.PolicyContext
import ReviveX.Domain.PolicyEngine
import ReviveX.Domain.PolicyTheorems
import ReviveX.Domain.Processing
import ReviveX.Domain.ProcessingTheorems
import ReviveX.Domain.Processor
import ReviveX.Domain.ProcessorTheorems
import ReviveX.Domain.RecoveryConfig
import ReviveX.Domain.RepetitionTheorems
import ReviveX.Domain.StateMachine
import ReviveX.Domain.StateMachineTheorems
import ReviveX.Domain.StorageTheorems
import ReviveX.Domain.VerdictTheorems
import ReviveX.Domain.Verification
import ReviveX.Domain.VerificationTheorems
import ReviveX.Domain.WindowTheorems
import ReviveX.Tools.ApprovalTheorems
import ReviveX.Tools.Approvals
import ReviveX.Tools.CanonicalTheorems
import ReviveX.Tools.CollectionTheorems
import ReviveX.Tools.CommitTheorems
import ReviveX.Tools.CommunicationTheorems
import ReviveX.Tools.DecisionTheorems
import ReviveX.Tools.DiscountTheorems
import ReviveX.Tools.Execution
import ReviveX.Tools.ExecutionTheorems
import ReviveX.Tools.FidelityTheorems
import ReviveX.Tools.FinalityTheorems
import ReviveX.Tools.FrameTheorems
import ReviveX.Tools.GrantTheorems
import ReviveX.Tools.HandlerTheorems
import ReviveX.Tools.Handlers
import ReviveX.Tools.Idempotency
import ReviveX.Tools.KeyTheorems
import ReviveX.Tools.LifecycleFrame
import ReviveX.Tools.OutcomeTheorems
import ReviveX.Tools.OwnershipTheorems
import ReviveX.Tools.ReplayTheorems
import ReviveX.Tools.RetryCapTheorems
import ReviveX.Tools.RetryEvents
import ReviveX.Tools.RoundTripTheorems
import ReviveX.Tools.RowTheorems
import ReviveX.Tools.RunHistory
import ReviveX.Tools.RunTheorems
import ReviveX.Tools.ScheduleTheorems
import ReviveX.Tools.Schemas
import ReviveX.Tools.TotalityTheorems
import ReviveX.Tools.Transactions
import ReviveX.Agents.ChoiceTheorems
import ReviveX.Agents.ContainmentTheorems
import ReviveX.Agents.ContenderTheorems
import ReviveX.Agents.FenceTheorems
import ReviveX.Agents.IndifferenceTheorems
import ReviveX.Agents.LifecycleFrame
import ReviveX.Agents.LlmAgents
import ReviveX.Agents.Optimizer
import ReviveX.Agents.Orchestrator
import ReviveX.Agents.PredictionTheorems
import ReviveX.Agents.Predictions
import ReviveX.Agents.PricingTheorems
import ReviveX.Agents.ProposalTheorems
import ReviveX.Agents.Ranking
import ReviveX.Agents.RankingTheorems
import ReviveX.Agents.RecordTheorems
import ReviveX.Agents.RedactionTheorems
import ReviveX.Agents.RepricingTheorems
import ReviveX.Agents.SecondRunTheorems
import ReviveX.Agents.Security
import ReviveX.Agents.SelectionTheorems
import ReviveX.System.ApprovalGate
import ReviveX.System.BlockTheorems
import ReviveX.System.CallEffects
import ReviveX.System.CollectionRuns
import ReviveX.System.DebtTheorems
import ReviveX.System.FreezeTheorems
import ReviveX.System.HistoryTheorems
import ReviveX.System.OutcomeRuns
import ReviveX.System.ServiceCalls
import ReviveX.System.StandingRules
import ReviveX.System.TenantTheorems
import ReviveX.Events.Webhooks
import ReviveX.Events.WireTheorems
import ReviveX.Worker.AppliedFollowups
import ReviveX.Worker.EventJobs
import ReviveX.Worker.FollowupJobs
import ReviveX.Worker.MoneyTheorems
import ReviveX.Worker.WebhookRuns
import ReviveX.Worker.WebhookSteps
import ReviveX.Eval.BatchComparison
import ReviveX.Eval.BatchEvaluation
import ReviveX.Eval.BatchTheorems
import ReviveX.Eval.Calibration
import ReviveX.Eval.ComparisonTheorems
import ReviveX.Eval.ContextTheorems
import ReviveX.Eval.CustomerSplit
import ReviveX.Eval.DomainContext
import ReviveX.Eval.ModelRegistry
import ReviveX.Eval.QualityGates
import ReviveX.Eval.RegistryTheorems
import ReviveX.Eval.SplitTheorems
import ReviveX.Eval.VersionTheorems
import ReviveX.Operator.CasePages
import ReviveX.Operator.Metrics
import ReviveX.Operator.MetricsTheorems
import ReviveX.Operator.PolicySettings
import ReviveX.Operator.PolicySettingsTheorems
import ReviveX.Operator.Timeline
import ReviveX.Operator.TimelineTheorems
import ReviveX.Providers.CaptureTheorems
import ReviveX.Providers.InterventionTheorems
import ReviveX.Providers.Interventions
import ReviveX.Providers.LinkScores
import ReviveX.Providers.LocalSimulation
import ReviveX.Providers.PaymentLinkTheorems
import ReviveX.Providers.RetryTheorems
import ReviveX.Providers.ScoreTheorems
import ReviveX.Providers.SimulationTheorems
import ReviveX.Providers.SimulatorBook
