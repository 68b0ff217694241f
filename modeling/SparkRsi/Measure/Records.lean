set_option autoImplicit false

namespace SparkRsi.Measure

def SCHEMA_VERSION : UInt32 := 2

inductive Stage where
  | observe
  | propose
  | buildJail
  | judgeEvaluation
  | supervisorCanary
  | cortexCommit
  deriving DecidableEq

namespace Stage

def all : List Stage := [observe, propose, buildJail, judgeEvaluation, supervisorCanary, cortexCommit]

def id : Stage → String
  | observe => "Observe"
  | propose => "Propose"
  | buildJail => "BuildJail"
  | judgeEvaluation => "JudgeEvaluation"
  | supervisorCanary => "SupervisorCanary"
  | cortexCommit => "CortexCommit"

end Stage

inductive StageOutcome where
  | ok
  | refused
  | failed
  deriving DecidableEq

structure StageSample where
  stage : Stage
  durationUs : UInt64
  outcome : StageOutcome
  canaryProtocolVersion : Option UInt16
  deriving DecidableEq

structure ExecutionConfig where
  modelUrl : String
  holdoutsDir : String
  canaryTarget : UInt64
  cortexUrl : String
  cortexSpace : String
  ratifyRoots : List String
  deriving DecidableEq

structure ExecutionProfile where
  model : String
  executionConfig : ExecutionConfig
  cpuCount : Option UInt64
  memoryTotalKib : Option UInt64
  gpu : String
  deriving DecidableEq

structure CycleSampleRecord where
  schemaVersion : UInt32
  cycleId : String
  workloadKey : String
  executionProfileFingerprint : String
  executionProfile : ExecutionProfile
  stages : List StageSample
  sourceCommit : Option String
  recordedAt : String
  deriving DecidableEq

structure MeasureContext where
  workloadKey : String
  profile : ExecutionProfile
  fingerprint : String
  sourceCommit : Option String

end SparkRsi.Measure
