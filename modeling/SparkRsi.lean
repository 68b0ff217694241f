import SparkRsi.Actor.Admission
import SparkRsi.Actor.Holdouts
import SparkRsi.Actor.PromotionGate
import SparkRsi.Actor.SubjectVerdict
import SparkRsi.Canary.Digests
import SparkRsi.Canary.Failures
import SparkRsi.Canary.ProductionQuota
import SparkRsi.Canary.Quota
import SparkRsi.Cycle.AdmitCanary
import SparkRsi.Dual.Selection
import SparkRsi.Evaluator.BootstrapSymmetry
import SparkRsi.Evaluator.FisherExact
import SparkRsi.Evaluator.Generator
import SparkRsi.Evaluator.PairedRuns
import SparkRsi.Evaluator.TailTest
import SparkRsi.Evaluator.Versions
import SparkRsi.Explain.WellFormed
import SparkRsi.Governance.Canonical
import SparkRsi.Governance.SharedRefs
import SparkRsi.Governance.RealDiff
import SparkRsi.Governance.Tier
import SparkRsi.Graph.Independence
import SparkRsi.Isolation.SourceDigest
import SparkRsi.Isolation.Tampering
import SparkRsi.Ledger.Binding
import SparkRsi.Ledger.Concurrent
import SparkRsi.Ledger.Readers
import SparkRsi.Ledger.SignedCoverage
import SparkRsi.Measure.CycleLogs
import SparkRsi.Measure.Foreign
import SparkRsi.Measure.Identity
import SparkRsi.Measure.NearestRank
import SparkRsi.Measure.SampleLog
import SparkRsi.Meta.AbFork
import SparkRsi.Propose.Staging
import SparkRsi.Shared.Lines
import SparkRsi.Soak.Runs
import SparkRsi.Supervisor.CanaryChannel
import SparkRsi.Supervisor.Connections
import SparkRsi.Supervisor.Counters
import SparkRsi.Supervisor.Reverting
import SparkRsi.Supervisor.Wire
