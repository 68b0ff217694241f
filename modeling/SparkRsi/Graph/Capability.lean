import SparkRsi.Shared.KeyedTable
import SparkRsi.Shared.Results
import Mathlib.Algebra.Order.Floor.Ring
import Mathlib.Data.Rat.Floor
import Mathlib.Data.String.Basic

set_option autoImplicit false

namespace SparkRsi.Graph

open Shared

inductive Measurement where
  | measured
  | unavailable
  deriving DecidableEq

inductive RankingBasis where
  | structural
  | measured
  deriving DecidableEq

/-- An `f64`: a number, or an infinity or NaN. Arithmetic on numbers is exact here. -/
inductive Real64 where
  | finite (value : ℚ)
  | special (name : String)

structure Display where
  float : Real64 → String
  threeDecimals : ℚ → String
  twoDecimals : ℚ → String
  oneDecimal : ℚ → String

structure CapabilityNode where
  id : String
  name : String
  subsystem : String
  latencyP95Us : Real64
  memoryRssKb : UInt64
  errorRate : Real64
  weight : Real64
  measurement : Measurement
  latencyMedianUs : Option Real64
  latencyP95UsMeasured : Option Real64
  errorRateMeasured : Option Real64
  sampleCount : Nat
  unavailableReason : Option String

structure CapabilityEdge where
  from_ : String
  to_ : String
  latencyImpactUs : Real64
  callFrequency : Real64

structure BottleneckRank where
  rank : Nat
  nodeId : String
  nodeName : String
  subsystem : String
  bottleneckScore : ℚ
  centrality : ℚ
  latencyP95Us : Real64
  errorRate : Real64
  causalExplanation : String
  measurement : Measurement
  latencyMedianUs : Option Real64
  latencyP95UsMeasured : Option Real64
  errorRateMeasured : Option Real64
  sampleCount : Nat
  unavailableReason : Option String
  rankingBasis : RankingBasis

def checkFiniteNonneg (display : Display) (name : String) (v : Real64) : Except String ℚ :=
  match v with
  | .finite value =>
    if value ≥ 0 then .ok value else .error s!"{name} must be finite and not negative, got {display.float v}"
  | .special _ => .error s!"{name} must be finite and not negative, got {display.float v}"

namespace CapabilityNode

def new (id name subsystem : String) : CapabilityNode :=
  { id
    name
    subsystem
    latencyP95Us := .finite 0
    memoryRssKb := 0
    errorRate := .finite 0
    weight := .finite 1
    measurement := .unavailable
    latencyMedianUs := none
    latencyP95UsMeasured := none
    errorRateMeasured := none
    sampleCount := 0
    unavailableReason := some "no measurement was supplied for this node" }

def withMeasuredLatency (display : Display) (node : CapabilityNode) (medianUs : Real64)
    (p95Us : Option Real64) (errorRate : Real64) (sampleCount : Nat) : Except String CapabilityNode := do
  let _ ← checkFiniteNonneg display "latency_median_us" medianUs
  if let some p := p95Us then
    let _ ← checkFiniteNonneg display "latency_p95_us_measured" p
  let rate ← checkFiniteNonneg display "error_rate_measured" errorRate
  refuseIf (rate > 1) s!"error_rate_measured must be at most 1, got {display.float errorRate}"
  return { node with
    measurement := .measured
    latencyMedianUs := some medianUs
    latencyP95UsMeasured := p95Us
    errorRateMeasured := some errorRate
    sampleCount
    unavailableReason := if p95Us.isSome then none else some "p95 is unavailable: too few valid compatible samples" }

def withUnavailable (node : CapabilityNode) (reason : String) (sampleCount : Nat) : CapabilityNode :=
  { node with
    measurement := .unavailable
    latencyMedianUs := none
    latencyP95UsMeasured := none
    errorRateMeasured := none
    sampleCount
    unavailableReason := some reason }

end CapabilityNode

def CapabilityNode.scoringInputs (display : Display) (node : CapabilityNode) : Except String (ℚ × ℚ) := do
  refuseIf (node.measurement ≠ .measured) (node.unavailableReason.getD "no measurement")
  match node.latencyMedianUs, node.errorRateMeasured with
  | some median, some err =>
    let medianUs ← checkFiniteNonneg display "latency_median_us" median
    let rate ← checkFiniteNonneg display "error_rate_measured" err
    refuseIf (rate > 1) s!"error_rate_measured must be at most 1, got {display.float err}"
    return (medianUs, rate)
  | _, _ => .error "measured state without a median latency or error rate"

structure CapabilityGraph where
  nodes : KeyedTable CapabilityNode CapabilityNode.id
  edges : List CapabilityEdge

/-- What stops a computation: an index without an entry, a division by zero, a search that does not end. -/
inductive Fault where
  | missingKey (id : String)
  | divisionByZero
  | unfinished

section Tables

variable {β : Type}

def keyed (ids : List String) (value : String → β) : String → Option β :=
  fun id => if id ∈ ids then some (value id) else none

def lookup (table : String → Option β) (id : String) : Except Fault β := okOr (.missingKey id) (table id)

def insert (table : String → Option β) (id : String) (value : β) : String → Option β :=
  Function.update table id (some value)

def divide (a b : ℚ) : Except Fault ℚ := if b = 0 then .error .divisionByZero else .ok (a / b)

end Tables

structure Search where
  stack : List String
  pred : String → Option (List String)
  sigma : String → Option ℚ
  dist : String → Option Int
  queue : List String

namespace Search

def discover (dV : Int) (s : Search) (w : String) : Except Fault Search := do
  let known ← lookup s.dist w
  if known < 0 then return { s with dist := insert s.dist w (dV + 1), queue := s.queue ++ [w] }
  else return s

def countPaths (v : String) (dV : Int) (s : Search) (w : String) : Except Fault Search := do
  let level ← lookup s.dist w
  if level = dV + 1 then
    let sigmaV ← lookup s.sigma v
    let sigmaW ← lookup s.sigma w
    let predW ← lookup s.pred w
    return { s with sigma := insert s.sigma w (sigmaW + sigmaV), pred := insert s.pred w (predW ++ [v]) }
  else return s

def visitNeighbor (v : String) (dV : Int) (s : Search) (w : String) : Except Fault Search := do
  let s ← discover dV s w
  countPaths v dV s w

def run (adj : String → Option (List String)) : Nat → Search → Except Fault Search
  | 0, s => if s.queue = [] then .ok s else .error .unfinished
  | fuel + 1, s =>
    match s.queue with
    | [] => .ok s
    | v :: queue => do
      let s := { s with stack := v :: s.stack, queue }
      let dV ← lookup s.dist v
      -- A vertex without an entry has no neighbors.
      let s ← ((adj v).getD []).foldlM (visitNeighbor v dV) s
      run adj fuel s

def credit (s : Search) (w : String) (delta : String → Option ℚ) (v : String) :
    Except Fault (String → Option ℚ) := do
  let sigmaV ← lookup s.sigma v
  let sigmaW ← lookup s.sigma w
  let ratio ← divide sigmaV sigmaW
  let deltaW ← lookup delta w
  let deltaV ← lookup delta v
  return insert delta v (deltaV + ratio * (1 + deltaW))

def unwind (s : Search) (source : String) :
    List String → (String → Option ℚ) → (String → Option ℚ) → Except Fault (String → Option ℚ)
  | [], _, centrality => .ok centrality
  | w :: stack, delta, centrality => do
    let preds ← lookup s.pred w
    let delta ← preds.foldlM (credit s w) delta
    if w ≠ source then
      let deltaW ← lookup delta w
      let central ← lookup centrality w
      unwind s source stack delta (insert centrality w (central + deltaW))
    else unwind s source stack delta centrality

def start (ids : List String) (source : String) : Search :=
  { stack := []
    pred := keyed ids fun _ => []
    sigma := insert (keyed ids fun _ => 0) source 1
    dist := insert (keyed ids fun _ => -1) source 0
    queue := [source] }

end Search

namespace CapabilityGraph

def new : CapabilityGraph := ⟨.empty, []⟩

variable (g : CapabilityGraph)

def addNode (node : CapabilityNode) : CapabilityGraph := { g with nodes := g.nodes.upsert node }

def addEdge (from_ to_ : String) (latencyImpactUs callFrequency : Real64) : CapabilityGraph :=
  { g with edges := g.edges ++ [⟨from_, to_, latencyImpactUs, callFrequency⟩] }

def ids : List String := g.nodes.rows.map CapabilityNode.id

def addNeighbor (adj : String → Option (List String)) (edge : CapabilityEdge) :
    String → Option (List String) :=
  match adj edge.from_ with
  | some neighbors => insert adj edge.from_ (neighbors ++ [edge.to_])
  | none => adj

def adjacencyList : String → Option (List String) := g.edges.foldl addNeighbor (keyed g.ids fun _ => [])

def accumulateSource (centrality : String → Option ℚ) (source : String) :
    Except Fault (String → Option ℚ) := do
  let s ← Search.run g.adjacencyList g.ids.length (Search.start g.ids source)
  s.unwind source s.stack (keyed g.ids fun _ => 0) centrality

def calculateBetweennessCentrality : Except Fault (String → Option ℚ) := do
  let centrality := keyed g.ids fun _ => 0
  let n := g.ids.length
  if n ≤ 2 then return centrality
  let centrality ← g.ids.foldlM g.accumulateSource centrality
  -- Normalize betweenness centrality by (N-1)(N-2)
  let scale ← divide 1 ((n - 1) * (n - 2) : Nat)
  return fun id => (centrality id).map (· * scale)

def quantize (score : ℚ) : Int :=
  let scaled := score * 1000000000
  let rounded := if scaled ≥ 0 then ⌊scaled + 1 / 2⌋ else -⌊-scaled + 1 / 2⌋
  max (-2 ^ 63) (min rounded (2 ^ 63 - 1))

def ranksBefore (a b : BottleneckRank) : Bool :=
  quantize b.bottleneckScore < quantize a.bottleneckScore ||
    (quantize b.bottleneckScore = quantize a.bottleneckScore && a.nodeId ≤ b.nodeId)

variable (display : Display)

def inputs : String → Option (Except String (ℚ × ℚ)) :=
  fun id => (g.nodes.get? id).map (CapabilityNode.scoringInputs display)

def clamp (low high value : ℚ) : ℚ := max low (min value high)

def avgLatency : Except Fault ℚ := do
  let medians ← g.ids.mapM fun id => do
    let input ← lookup (g.inputs display) id
    return input.toOption.map Prod.fst
  let mean ← divide (medians.filterMap id).sum (g.nodes.rows.length : Nat)
  return max mean 1

def score (basis : RankingBasis) (avgLatency c : ℚ) (input : Except String (ℚ × ℚ)) :
    Except Fault (ℚ × String) :=
  match input, basis with
  | .ok (median, err), .measured => do
    let ratio ← divide median avgLatency
    let latRatio := clamp 0 10 ratio
    let errFactor := clamp 0 5 (err * 5)
    let score := c * (4 / 10) + latRatio * (4 / 10) + errFactor * (2 / 10)
    let errPct := err * 100
    return (score, s!"Centrality={display.threeDecimals c}, LatencyRatio={display.twoDecimals latRatio}x (median), ErrorRate={display.oneDecimal errPct}%")
  | _, _ =>
    .ok (c, s!"Centrality={display.threeDecimals c}; latency and error terms unavailable (structural ranking)")

def rankNode (basis : RankingBasis) (avgLatency : ℚ) (centrality : String → Option ℚ)
    (node : CapabilityNode) :
    Except Fault BottleneckRank := do
  let c := (centrality node.id).getD 0
  let input ← lookup (g.inputs display) node.id
  let (score, explanation) ← score display basis avgLatency c input
  let available := input.isOk
  return {
    rank := 0
    nodeId := node.id
    nodeName := node.name
    subsystem := node.subsystem
    bottleneckScore := score
    centrality := c
    latencyP95Us := node.latencyP95Us
    errorRate := node.errorRate
    causalExplanation := explanation
    measurement := if available then .measured else .unavailable
    latencyMedianUs := node.latencyMedianUs.filter fun _ => available
    latencyP95UsMeasured := node.latencyP95UsMeasured.filter fun _ => available
    errorRateMeasured := node.errorRateMeasured.filter fun _ => available
    sampleCount := node.sampleCount
    unavailableReason := match input with
      | .error reason => some reason
      | .ok _ => node.unavailableReason
    rankingBasis := basis }

/-- The ranking where the node map is read in this order. -/
def rankBottlenecksIn (order : List CapabilityNode) : Except Fault (List BottleneckRank) := do
  let centrality ← g.calculateBetweennessCentrality
  let measuredBasis := !order.isEmpty && order.all fun node => (node.scoringInputs display).isOk
  let basis := if measuredBasis then RankingBasis.measured else .structural
  let avgLatency ← if measuredBasis then g.avgLatency display else .ok 1
  let ranks ← order.mapM (g.rankNode display basis avgLatency centrality)
  return (ranks.mergeSort ranksBefore).mapIdx fun idx item => { item with rank := idx + 1 }

def rankBottlenecks : Except Fault (List BottleneckRank) := g.rankBottlenecksIn display g.nodes.rows

end CapabilityGraph

inductive GraphCall where
  | addNode (node : CapabilityNode)
  | addEdge (from_ to_ : String) (latencyImpactUs callFrequency : Real64)

def GraphCall.apply (g : CapabilityGraph) : GraphCall → CapabilityGraph
  | addNode node => g.addNode node
  | addEdge from_ to_ latencyImpactUs callFrequency => g.addEdge from_ to_ latencyImpactUs callFrequency

def build (calls : List GraphCall) : CapabilityGraph := calls.foldl GraphCall.apply .new

end SparkRsi.Graph
