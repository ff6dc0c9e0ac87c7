import Copilotd.Guarantees.OperationStates
import Copilotd.Guarantees.InteractionSettlement
import Copilotd.Guarantees.MailboxDispatch
import Copilotd.Guarantees.MailboxSubmissions
import Copilotd.Guarantees.ScheduleRunFencing
import Copilotd.Guarantees.ScheduleDispatch
import Copilotd.Guarantees.InvalidRequestBudget
import Copilotd.Guarantees.RateLimitCooldown
import Copilotd.Guarantees.RequestWaiters
import Copilotd.Guarantees.ReducerFailure
import Copilotd.Guarantees.ContentIsolation
import Copilotd.Guarantees.ProtocolRequests
import Copilotd.Guarantees.StateOnlyScrubbing
import Copilotd.Guarantees.QueueBlockers
import Copilotd.Guarantees.SubmissionCorrelation
import Copilotd.Guarantees.QueueConsistency
import Copilotd.Guarantees.ShutdownSuperseded
import Copilotd.Guarantees.ModeTransitions
import Copilotd.Guarantees.FinishedRuns
import Copilotd.Guarantees.AttachmentTransitions
import Copilotd.Guarantees.DeletionFinal
import Copilotd.Guarantees.CreationDispatch
import Copilotd.Guarantees.RecoveryRepeated
import Copilotd.Guarantees.QueueExclusion
import Copilotd.Guarantees.RestartBlocked
import Copilotd.Guarantees.SessionConfiguration
import Copilotd.Guarantees.ExplicitResume
import Copilotd.Guarantees.QuiesceExact
import Copilotd.Guarantees.ModeColumnsAgree
import Copilotd.Guarantees.AttachmentDowngrade
import Copilotd.Guarantees.OneShotSchedules
import Copilotd.Guarantees.StaleSnapshots
import Copilotd.Guarantees.CompletionEvidence
import Copilotd.Guarantees.BindingStates
import Copilotd.Guarantees.OpenTransactions
import Copilotd.Guarantees.CoupledTransactions
import Copilotd.Guarantees.ReadyManifests
import Copilotd.Guarantees.QueueCancellation
import Copilotd.Guarantees.UsageSamples
import Copilotd.Guarantees.ShutdownReactions
import Copilotd.Guarantees.RetryBudget
import Copilotd.Guarantees.GenerationLoads
import Copilotd.Guarantees.DeletionTeardown
import Copilotd.Guarantees.StreamReplay
import Copilotd.Guarantees.CronResolution
import Copilotd.Guarantees.RestartStormLimit
import Copilotd.Guarantees.ProtectedSweep
import Copilotd.Guarantees.TableGrammars
import Copilotd.Guarantees.MarkdownText
import Copilotd.Guarantees.RoutePacing
import Copilotd.Guarantees.ImageExtraction
import Copilotd.Guarantees.ElicitationForms
import Copilotd.Guarantees.RowWriting
import Copilotd.Guarantees.TablePages
