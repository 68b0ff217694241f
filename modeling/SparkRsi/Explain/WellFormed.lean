import SparkRsi.Evaluator.Digest
import SparkRsi.Explain.EvidenceGraph
import SparkRsi.Graph.Ranking
import SparkRsi.Shared.Grounding

set_option autoImplicit false

namespace SparkRsi.Explain

open Shared
open Evaluator (EvaluationReceipt)
open SparkRsi.Graph (BottleneckRank CapabilityGraph CapabilityNode Display)
open Propose (DiagnosticContext HypothesisContract)

section Ids

def segment (id : String) : List Char := (id.toList.drop 4).takeWhile (· ≠ ':')

def Starts (front id : String) : Prop := front.toList <+: id.toList

theorem starts_refl (id : String) : Starts id id := List.prefix_refl _

theorem starts_append {front id : String} (starts : Starts front id) (more : String) :
    Starts front (id ++ more) := by
  rw [Starts, String.toList_append]
  exact starts.trans (List.prefix_append _ _)

-- The second colon is in the front, so nothing behind it matters.
theorem segment_eq {front id : String} (starts : Starts front id) (colon : ':' ∈ front.toList.drop 4) :
    segment id = segment front := by
  obtain ⟨rest, shape⟩ := starts
  have enough : 4 ≤ front.toList.length := by
    have filled := List.length_pos_of_mem colon
    rw [List.length_drop] at filled
    omega
  obtain ⟨before, after, split⟩ := List.append_of_mem colon
  rw [segment, segment, ← shape, List.drop_append_of_le_length enough, split, List.append_assoc,
    List.cons_append]
  clear split colon
  induction before with
  | nil => simp
  | cons c others ih =>
    rw [List.cons_append, List.cons_append, List.takeWhile_cons, List.takeWhile_cons, ih]

theorem segment_capability (nodeId : String) : segment (capabilityNodeId nodeId) = "capability".toList :=
  @segment_eq "rsi:capability:" _ (starts_append (starts_refl _) _) (by decide)

theorem segment_analysis (cycle : String) : segment (analysisId cycle) = "bottleneck".toList :=
  @segment_eq "rsi:bottleneck:" _ (starts_append (starts_refl _) _) (by decide)

theorem segment_alternative (cycle nodeId : String) :
    segment (alternativeId cycle nodeId) = "alternative".toList :=
  @segment_eq "rsi:alternative:" _ (starts_append (starts_append (starts_append (starts_refl _) _) _) _) (by decide)

theorem starts_hypothesis (h : HypothesisContract) : Starts "rsi:hypothesis:" (hypothesisNodeId h) :=
  starts_append (starts_refl _) _

theorem segment_hypothesis (h : HypothesisContract) : segment (hypothesisNodeId h) = "hypothesis".toList :=
  segment_eq (starts_hypothesis h) (by decide)

theorem segment_prediction (h : HypothesisContract) : segment (predictionId h) = "hypothesis".toList :=
  segment_eq (starts_append (starts_hypothesis h) _) (by decide)

theorem segment_falsification (h : HypothesisContract) : segment (falsificationId h) = "hypothesis".toList :=
  segment_eq (starts_append (starts_hypothesis h) _) (by decide)

theorem segment_diagnostic (cycle : String) : segment (diagnosticId cycle) = "diagnostic".toList :=
  @segment_eq "rsi:diagnostic:" _ (starts_append (starts_refl _) _) (by decide)

theorem starts_receipt (r : EvaluationReceipt) : Starts "rsi:receipt:" (receiptNodeId r) :=
  starts_append (starts_append (starts_append (starts_refl _) _) _) _

theorem segment_receipt (r : EvaluationReceipt) : segment (receiptNodeId r) = "receipt".toList :=
  segment_eq (starts_receipt r) (by decide)

theorem segment_summary (r : EvaluationReceipt) : segment (summaryId r) = "receipt".toList :=
  segment_eq (starts_append (starts_receipt r) _) (by decide)

theorem segment_ratification (r : RatificationRecord) : segment (ratificationId r) = "ratification".toList :=
  @segment_eq "rsi:ratification:" _ (starts_append (starts_refl _) _) (by decide)

theorem segment_conclusion (cycle : String) : segment (conclusionId cycle) = "conclusion".toList :=
  @segment_eq "rsi:conclusion:" _ (starts_append (starts_refl _) _) (by decide)

end Ids

section Nodes

def parentIds (n : NodeDoc) : List String := n.parents.map EdgeDoc.to_

theorem unclassified_ne : statusUnclassified ≠ statusVerifiedFact := by decide
theorem observation_ne : statusDirectObservation ≠ statusVerifiedFact := by decide
theorem inference_ne : statusInference ≠ statusVerifiedFact := by decide
theorem hypothesis_ne : statusHypothesis ≠ statusVerifiedFact := by decide

structure Reported (n : NodeDoc) (id : String) (parents : List String) : Prop where
  id : n.id = id
  parents : parentIds n = parents
  status : n.status ≠ statusVerifiedFact

variable (fixed : Fixed) (sha : HexHash) (cycle : String)

theorem capabilityNode_reported (c : CapabilityNode) :
    Reported (capabilityNode fixed c) (capabilityNodeId c.id) [] := by
  rw [capabilityNode]
  split
  next => exact ⟨rfl, rfl, observation_ne⟩
  next => exact ⟨rfl, rfl, unclassified_ne⟩

theorem analysisNode_reported (metricIds : List String) (bottlenecks : List BottleneckRank)
    (b : BottleneckRank) :
    Reported (analysisNode fixed cycle metricIds bottlenecks b) (analysisId cycle) (metricIds.take maxParents) := by
  refine ⟨rfl, ?_, inference_ne⟩
  simp [parentIds, analysisNode, edge, Function.comp_def]

theorem alternativeNode_reported (b : BottleneckRank) :
    Reported (alternativeNode fixed cycle b) (alternativeId cycle b.nodeId) [analysisId cycle] :=
  ⟨rfl, rfl, inference_ne⟩

theorem hypothesisNode_reported (top : Option BottleneckRank) (h : HypothesisContract) :
    Reported (hypothesisNode cycle top h) (hypothesisNodeId h)
      ((top.filter fun b => hypothesisDerivedFrom h b).toList.map fun _ => analysisId cycle) := by
  refine ⟨rfl, ?_, hypothesis_ne⟩
  simp [parentIds, hypothesisNode, edge]

theorem predictionNode_reported (h : HypothesisContract) :
    Reported (predictionNode fixed h) (predictionId h) [hypothesisNodeId h] := by
  rw [predictionNode]
  cases h.latencyClaim with
  | none => exact ⟨rfl, rfl, hypothesis_ne⟩
  | some claim => exact ⟨rfl, rfl, hypothesis_ne⟩

theorem falsificationNode_reported (h : HypothesisContract) :
    Reported (falsificationNode fixed h) (falsificationId h) [hypothesisNodeId h] := ⟨rfl, rfl, hypothesis_ne⟩

-- A diagnosis leans on the hypothesis at most, and on no other.
theorem diagnosticNode_reported (hypothesis : Option HypothesisContract) (d : DiagnosticContext) :
    ∃ behind, behind ⊆ hypothesis.toList.map hypothesisNodeId ∧ behind.length ≤ 1 ∧
      Reported (diagnosticNode cycle hypothesis d) (diagnosticId cycle) behind := by
  rw [diagnosticNode]
  cases d.hypothesis with
  | none => exact ⟨[], List.nil_subset _, Nat.zero_le _, rfl, rfl, inference_ne⟩
  | some dh =>
    simp only
    cases matched : hypothesis.filter fun h => decide (h.id = dh.id) with
    | none => exact ⟨[], List.nil_subset _, Nat.zero_le _, rfl, rfl, inference_ne⟩
    | some h =>
      refine ⟨[hypothesisNodeId h], ?_, le_rfl, rfl, rfl, inference_ne⟩
      rw [Option.filter_eq_some_iff] at matched
      simp [matched.1]

theorem summaryNode_reported (r : EvaluationReceipt) :
    Reported (summaryNode fixed r) (summaryId r) [receiptNodeId r] :=
  ⟨rfl, rfl, unclassified_ne⟩

theorem ratificationNode_reported (receipt : Option EvaluationReceipt) (r : RatificationRecord) :
    Reported (ratificationNode receipt r) (ratificationId r) (receipt.toList.map receiptNodeId) := by
  refine ⟨rfl, ?_, observation_ne⟩
  simp [parentIds, ratificationNode, edge]

variable {fixed sha} {r : EvaluationReceipt}

-- The receipt node is a verified fact where the digest holds.
theorem receiptNode_status :
    (receiptNode fixed sha r).status = statusVerifiedFact ↔ r.verifyDigest sha = true := by
  simp only [receiptNode, node]
  cases r.verifyDigest sha <;> decide

end Nodes

section Groups

/-- What the nodes of one kind keep to, with what they may name as parents. -/
structure Sound (label : List Char) (known : List String) (nodes : List NodeDoc) : Prop where
  labelled : ∀ n ∈ nodes, segment n.id = label
  unique : (nodes.map NodeDoc.id).Nodup
  grounded : Grounded NodeDoc.id parentIds known nodes
  capped : ∀ n ∈ nodes, (parentIds n).length ≤ maxParents

variable {label : List Char} {known : List String}

theorem one_le_maxParents : 1 ≤ maxParents := by decide

theorem sound_nil : Sound label known [] := ⟨nofun, List.nodup_nil, trivial, nofun⟩

theorem sound_singleton {n : NodeDoc} (labelled : segment n.id = label) (within : parentIds n ⊆ known)
    (capped : (parentIds n).length ≤ maxParents) : Sound label known [n] where
  labelled := by simpa using labelled
  unique := List.nodup_singleton _
  grounded := ⟨within, trivial⟩
  capped := by simpa using capped

variable (fixed : Fixed) (sha : HexHash) (ev : RsiCycleEvidence)

theorem sortedNodes_ids_nodup (graph : Option CapabilityGraph) :
    ((sortedNodes graph).map CapabilityNode.id).Nodup := by
  cases graph with
  | none => exact List.nodup_nil
  | some g => exact ((List.mergeSort_perm g.nodes.rows _).map _).nodup_iff.mpr KeyedTable.keys_nodup

theorem capabilityNodes_sound : Sound "capability".toList [] (capabilityNodes fixed ev) := by
  have each (n : NodeDoc) (member : n ∈ capabilityNodes fixed ev) : ∃ c, Reported n (capabilityNodeId c) [] := by
    obtain ⟨c, -, rfl⟩ := List.mem_map.mp member
    exact ⟨c.id, capabilityNode_reported fixed c⟩
  constructor
  case labelled =>
    intro n member
    obtain ⟨c, reported⟩ := each n member
    rw [reported.id, segment_capability]
  case unique =>
    have ids : (capabilityNodes fixed ev).map NodeDoc.id =
        ((sortedNodes ev.graph).map CapabilityNode.id).map capabilityNodeId := by
      simp only [capabilityNodes, List.map_map]
      exact List.map_congr_left fun c _ => (capabilityNode_reported fixed c).id
    rw [ids]
    apply (sortedNodes_ids_nodup ev.graph).map
    intro a b same
    exact (String.append_right_inj "rsi:capability:").mp same
  case grounded =>
    apply Grounded.of_known
    intro n member p parent
    obtain ⟨c, reported⟩ := each n member
    rw [reported.parents] at parent
    cases parent
  case capped =>
    intro n member
    obtain ⟨c, reported⟩ := each n member
    rw [reported.parents]
    exact Nat.zero_le _

theorem analysisNodes_sound :
    Sound "bottleneck".toList ((capabilityNodes fixed ev).map NodeDoc.id) (analysisNodes fixed ev) := by
  rw [analysisNodes]
  cases ev.bottlenecks.head? with
  | none => exact sound_nil
  | some b =>
    have reported := analysisNode_reported fixed ev.cycleId ((capabilityNodes fixed ev).map NodeDoc.id) ev.bottlenecks b
    apply sound_singleton
    next => rw [reported.id, segment_analysis]
    next =>
      rw [reported.parents]
      exact List.take_subset _ _
    next =>
      rw [reported.parents]
      exact List.length_take_le _ _

theorem analysisNodes_ids :
    (analysisNodes fixed ev).map NodeDoc.id =
      ev.bottlenecks.head?.toList.map fun _ => analysisId ev.cycleId := by
  rw [analysisNodes, List.map_map]
  exact List.map_congr_left fun b _ => (analysisNode_reported fixed ev.cycleId _ _ b).id

theorem alternativeNodes_sound (distinct : (ev.bottlenecks.map BottleneckRank.nodeId).Nodup) :
    Sound "alternative".toList ((analysisNodes fixed ev).map NodeDoc.id) (alternativeNodes fixed ev) := by
  have reported := alternativeNode_reported fixed ev.cycleId
  have each (n : NodeDoc) (member : n ∈ alternativeNodes fixed ev) :
      ∃ b, Reported n (alternativeId ev.cycleId b) [analysisId ev.cycleId] := by
    obtain ⟨b, -, rfl⟩ := List.mem_map.mp member
    exact ⟨b.nodeId, reported b⟩
  constructor
  case labelled =>
    intro n member
    obtain ⟨b, shape⟩ := each n member
    rw [shape.id, segment_alternative]
  case unique =>
    have ids : (alternativeNodes fixed ev).map NodeDoc.id =
        (((ev.bottlenecks.drop 1).take maxAlternatives).map BottleneckRank.nodeId).map (alternativeId ev.cycleId) := by
      rw [alternativeNodes, List.map_map, List.map_map]
      exact List.map_congr_left fun b _ => (reported b).id
    rw [ids]
    apply List.Nodup.map
    next =>
      intro a b same
      exact (String.append_right_inj _).mp same
    next => exact distinct.sublist (((List.take_sublist _ _).trans (List.drop_sublist _ _)).map _)
  case grounded =>
    apply Grounded.of_known
    intro n member p parent
    obtain ⟨b, shape⟩ := each n member
    rw [shape.parents, List.mem_singleton] at parent
    -- There is an alternative only behind a first one, and then there is an analysis.
    rw [analysisNodes_ids, parent]
    cases ranked : ev.bottlenecks with
    | nil => simp [alternativeNodes, ranked] at member
    | cons first others => simp
  case capped =>
    intro n member
    obtain ⟨b, shape⟩ := each n member
    rw [shape.parents]
    exact one_le_maxParents

theorem hypothesisNodes_sound :
    Sound "hypothesis".toList ((analysisNodes fixed ev).map NodeDoc.id) (hypothesisNodes fixed ev) := by
  rw [hypothesisNodes]
  cases ev.ownHypothesis with
  | none => exact sound_nil
  | some h =>
    have first := hypothesisNode_reported ev.cycleId ev.bottlenecks.head? h
    have second := predictionNode_reported fixed h
    have third := falsificationNode_reported fixed h
    rw [Option.toList_some, List.flatMap_singleton]
    constructor
    case labelled =>
      simp only [List.forall_mem_cons]
      rw [first.id, second.id, third.id]
      exact ⟨segment_hypothesis h, segment_prediction h, segment_falsification h, nofun⟩
    case unique =>
      -- The suffixes differ in length.
      have lengths : (predictionId h).length = (hypothesisNodeId h).length + 11 ∧
          (falsificationId h).length = (hypothesisNodeId h).length + 14 := by
        constructor
        · exact String.length_append _ _
        · exact String.length_append _ _
      simp only [List.map_cons, List.map_nil, first.id, second.id, third.id]
      have apart : hypothesisNodeId h ≠ predictionId h ∧ hypothesisNodeId h ≠ falsificationId h ∧
          predictionId h ≠ falsificationId h := by
        refine ⟨?_, ?_, ?_⟩ <;>
          · intro same
            have equal := congrArg String.length same
            omega
      simp [apart]
    case grounded =>
      refine ⟨?_, ?_, ?_, trivial⟩
      · rw [first.parents, analysisNodes_ids]
        intro p parent
        obtain ⟨b, listed, rfl⟩ := List.mem_map.mp parent
        rw [Option.mem_toList, Option.filter_eq_some_iff] at listed
        exact List.mem_map_of_mem (Option.mem_toList.mpr listed.1)
      · rw [second.parents, first.id]
        simp
      · rw [third.parents, first.id]
        simp
    case capped =>
      simp only [List.forall_mem_cons]
      rw [first.parents, second.parents, third.parents]
      refine ⟨?_, one_le_maxParents, one_le_maxParents, nofun⟩
      rw [List.length_map]
      exact (Option.length_toList_le).trans one_le_maxParents

theorem hypothesisNodes_ids : (hypothesisNodes fixed ev).map NodeDoc.id =
    ev.ownHypothesis.toList.flatMap fun h => [hypothesisNodeId h, predictionId h, falsificationId h] := by
  rw [hypothesisNodes]
  cases ev.ownHypothesis with
  | none => rfl
  | some h =>
    have second := (predictionNode_reported fixed h).id
    simp only [Option.toList_some, List.flatMap_singleton, List.map_cons, List.map_nil, second]
    rfl

theorem diagnosticNodes_sound :
    Sound "diagnostic".toList ((hypothesisNodes fixed ev).map NodeDoc.id) (diagnosticNodes ev) := by
  rw [diagnosticNodes, hypothesisNodes_ids]
  cases ev.ownDiagnostic with
  | none => exact sound_nil
  | some d =>
    obtain ⟨behind, within, few, reported⟩ := diagnosticNode_reported ev.cycleId ev.ownHypothesis d
    apply sound_singleton
    next => rw [reported.id, segment_diagnostic]
    next =>
      rw [reported.parents]
      intro p parent
      obtain ⟨h, supplied, rfl⟩ := List.mem_map.mp (within parent)
      exact List.mem_flatMap.mpr ⟨h, supplied, List.mem_cons_self⟩
    next =>
      rw [reported.parents]
      exact few.trans one_le_maxParents

theorem receiptNodes_sound : Sound "receipt".toList [] (receiptNodes fixed sha ev) := by
  rw [receiptNodes]
  cases ev.ownReceipt with
  | none => exact sound_nil
  | some r =>
    have second := summaryNode_reported fixed r
    have ids : (receiptNode fixed sha r).id = receiptNodeId r := rfl
    have none : parentIds (receiptNode fixed sha r) = [] := rfl
    rw [Option.toList_some, List.flatMap_singleton]
    constructor
    case labelled =>
      simp only [List.forall_mem_cons]
      rw [ids, second.id]
      exact ⟨segment_receipt r, segment_summary r, nofun⟩
    case unique =>
      have apart : receiptNodeId r ≠ summaryId r := by
        intro same
        have longer : (summaryId r).length = (receiptNodeId r).length + 8 := String.length_append _ _
        rw [← same] at longer
        omega
      simp only [List.map_cons, List.map_nil, ids, second.id]
      simp [apart]
    case grounded =>
      refine ⟨?_, ?_, trivial⟩
      · rw [none]
        exact nofun
      · rw [second.parents, ids]
        simp
    case capped =>
      simp only [List.forall_mem_cons]
      rw [none, second.parents]
      exact ⟨Nat.zero_le _, one_le_maxParents, nofun⟩

theorem receiptNodes_ids : (receiptNodes fixed sha ev).map NodeDoc.id =
    ev.ownReceipt.toList.flatMap fun r => [receiptNodeId r, summaryId r] := by
  rw [receiptNodes, List.map_flatMap]
  rfl

theorem ratificationNodes_sound :
    Sound "ratification".toList ((receiptNodes fixed sha ev).map NodeDoc.id) (ratificationNodes ev) := by
  rw [ratificationNodes, receiptNodes_ids]
  cases ev.ownRatification with
  | none => exact sound_nil
  | some r =>
    have reported := ratificationNode_reported ev.ownReceipt r
    apply sound_singleton
    next => rw [reported.id, segment_ratification]
    next =>
      rw [reported.parents]
      intro p parent
      obtain ⟨rc, supplied, rfl⟩ := List.mem_map.mp parent
      exact List.mem_flatMap.mpr ⟨rc, supplied, List.mem_cons_self⟩
    next =>
      rw [reported.parents, List.length_map]
      exact Option.length_toList_le.trans one_le_maxParents

end Groups

section Conclusion

variable (fixed : Fixed) (sha : HexHash) (ev : RsiCycleEvidence)

theorem diagnosticNodes_ids :
    (diagnosticNodes ev).map NodeDoc.id = ev.ownDiagnostic.toList.map fun _ => diagnosticId ev.cycleId := by
  rw [diagnosticNodes, List.map_map]
  apply List.map_congr_left
  intro d _
  obtain ⟨behind, -, -, reported⟩ := diagnosticNode_reported ev.cycleId ev.ownHypothesis d
  exact reported.id

theorem ratificationNodes_ids :
    (ratificationNodes ev).map NodeDoc.id = ev.ownRatification.toList.map ratificationId := by
  rw [ratificationNodes, List.map_map]
  rfl

-- The conclusion leans on the nodes in front of it.
theorem conclusionNode_parents : parentIds (conclusionNode ev) ⊆
    (hypothesisNodes fixed ev).map NodeDoc.id ++ (diagnosticNodes ev).map NodeDoc.id ++
      (receiptNodes fixed sha ev).map NodeDoc.id ++ (ratificationNodes ev).map NodeDoc.id := by
  rw [hypothesisNodes_ids, diagnosticNodes_ids, receiptNodes_ids, ratificationNodes_ids]
  simp only [parentIds, conclusionNode, edge, List.map_map, Function.comp_def, List.map_id']
  generalize ev.ownDiagnostic = d, ev.ownHypothesis = h, ev.ownReceipt = r, ev.ownRatification = t
  cases d <;> cases h <;> cases r <;> cases t <;> simp

theorem conclusionNode_few : (parentIds (conclusionNode ev)).length ≤ maxParents := by
  have few : (parentIds (conclusionNode ev)).length ≤ 6 := by
    simp only [parentIds, conclusionNode, List.length_map]
    generalize ev.ownDiagnostic = d, ev.ownHypothesis = h, ev.ownReceipt = r, ev.ownRatification = t
    cases d <;> cases h <;> cases r <;> cases t <;> simp
  exact few.trans (by decide)

theorem conclusionNode_status : (conclusionNode ev).status ≠ statusVerifiedFact := by
  simp only [conclusionNode, node]
  split
  next => exact inference_ne
  next => exact hypothesis_ne

end Conclusion

section Graph

variable {fixed : Fixed} {sha : HexHash} {ev : RsiCycleEvidence}

theorem nodes_eq : (evidenceGraph fixed sha ev).nodes =
    capabilityNodes fixed ev ++ (analysisNodes fixed ev ++ (alternativeNodes fixed ev ++ (hypothesisNodes fixed ev ++
      (diagnosticNodes ev ++ (receiptNodes fixed sha ev ++ (ratificationNodes ev ++ [conclusionNode ev])))))) := by
  simp only [evidenceGraph, evidenceNodes, List.append_assoc]

theorem conclusion_sound : Sound "conclusion".toList
    ((hypothesisNodes fixed ev).map NodeDoc.id ++ (diagnosticNodes ev).map NodeDoc.id ++
      (receiptNodes fixed sha ev).map NodeDoc.id ++ (ratificationNodes ev).map NodeDoc.id) [conclusionNode ev] :=
  sound_singleton (segment_conclusion ev.cycleId) (conclusionNode_parents fixed sha ev) (conclusionNode_few ev)

variable (distinct : (ev.bottlenecks.map BottleneckRank.nodeId).Nodup)

include distinct in
-- Ids of different kinds differ in their second segment.
theorem ids_unique : ((evidenceGraph fixed sha ev).nodes.map NodeDoc.id).Nodup := by
  have unique := @nodup_of_labels String (List Char) segment
    [("capability".toList, (capabilityNodes fixed ev).map NodeDoc.id),
      ("bottleneck".toList, (analysisNodes fixed ev).map NodeDoc.id),
      ("alternative".toList, (alternativeNodes fixed ev).map NodeDoc.id),
      ("hypothesis".toList, (hypothesisNodes fixed ev).map NodeDoc.id),
      ("diagnostic".toList, (diagnosticNodes ev).map NodeDoc.id),
      ("receipt".toList, (receiptNodes fixed sha ev).map NodeDoc.id),
      ("ratification".toList, (ratificationNodes ev).map NodeDoc.id),
      ("conclusion".toList, [conclusionNode ev].map NodeDoc.id)]
  simp only [List.forall_mem_cons, List.forall_mem_map, List.map_cons, List.map_nil, List.flatMap_cons,
    List.flatMap_nil] at unique
  rw [nodes_eq]
  simp only [List.map_append, List.map_cons, List.map_nil]
  rw [List.append_nil] at unique
  apply unique
  case distinct => decide
  case each =>
    exact ⟨(capabilityNodes_sound fixed ev).labelled, (analysisNodes_sound fixed ev).labelled,
      (alternativeNodes_sound fixed ev distinct).labelled, (hypothesisNodes_sound fixed ev).labelled,
      (diagnosticNodes_sound fixed ev).labelled, (receiptNodes_sound fixed sha ev).labelled,
      (ratificationNodes_sound fixed sha ev).labelled, ⟨segment_conclusion ev.cycleId, nofun⟩, nofun⟩
  case inside =>
    exact ⟨(capabilityNodes_sound fixed ev).unique, (analysisNodes_sound fixed ev).unique,
      (alternativeNodes_sound fixed ev distinct).unique, (hypothesisNodes_sound fixed ev).unique,
      (diagnosticNodes_sound fixed ev).unique, (receiptNodes_sound fixed sha ev).unique,
      (ratificationNodes_sound fixed sha ev).unique, List.nodup_singleton _, nofun⟩

include distinct in
-- Every part names nodes of the parts in front of it.
theorem grounded : Grounded NodeDoc.id parentIds [] (evidenceGraph fixed sha ev).nodes := by
  rw [nodes_eq]
  simp only [Grounded.append, List.nil_append]
  refine ⟨(capabilityNodes_sound fixed ev).grounded, (analysisNodes_sound fixed ev).grounded, ?_, ?_, ?_,
    ?_, ?_, ?_⟩
  · apply (alternativeNodes_sound fixed ev distinct).grounded.weaken
    exact fun _ member => List.mem_append_right _ member
  · apply (hypothesisNodes_sound fixed ev).grounded.weaken
    exact fun _ member => List.mem_append_left _ (List.mem_append_right _ member)
  · apply (diagnosticNodes_sound fixed ev).grounded.weaken
    exact fun _ member => List.mem_append_right _ member
  · apply (receiptNodes_sound fixed sha ev).grounded.weaken
    exact nofun
  · apply (ratificationNodes_sound fixed sha ev).grounded.weaken
    exact fun _ member => List.mem_append_right _ member
  · apply (@conclusion_sound fixed sha ev).grounded.weaken
    intro p member
    simp only [List.mem_append] at member ⊢
    tauto

include distinct in
theorem capped : ∀ n ∈ (evidenceGraph fixed sha ev).nodes, (parentIds n).length ≤ maxParents := by
  rw [nodes_eq]
  simp only [List.forall_mem_append]
  exact ⟨(capabilityNodes_sound fixed ev).capped, (analysisNodes_sound fixed ev).capped,
    (alternativeNodes_sound fixed ev distinct).capped, (hypothesisNodes_sound fixed ev).capped,
    (diagnosticNodes_sound fixed ev).capped, (receiptNodes_sound fixed sha ev).capped,
    (ratificationNodes_sound fixed sha ev).capped, (@conclusion_sound fixed sha ev).capped⟩

-- Only a receipt's node is a verified fact.
theorem verified_receipt {n : NodeDoc} (member : n ∈ (evidenceGraph fixed sha ev).nodes)
    (verified : n.status = statusVerifiedFact) :
    ∃ r, ev.ownReceipt = some r ∧ r.verifyDigest sha = true ∧ n = receiptNode fixed sha r := by
  have absurd_of {id : String} {parents : List String} (reported : Reported n id parents) : False :=
    reported.status verified
  rw [nodes_eq] at member
  simp only [List.mem_append, List.mem_singleton] at member
  rcases member with here | here | here | here | here | here | here | rfl
  · obtain ⟨c, -, rfl⟩ := List.mem_map.mp here
    exact (absurd_of (capabilityNode_reported fixed c)).elim
  · obtain ⟨b, -, rfl⟩ := List.mem_map.mp here
    exact (absurd_of (analysisNode_reported ..)).elim
  · obtain ⟨b, -, rfl⟩ := List.mem_map.mp here
    exact (absurd_of (alternativeNode_reported ..)).elim
  · obtain ⟨h, -, inside⟩ := List.mem_flatMap.mp here
    simp only [List.mem_cons, List.not_mem_nil, or_false] at inside
    rcases inside with rfl | rfl | rfl
    · exact (absurd_of (hypothesisNode_reported ..)).elim
    · exact (absurd_of (predictionNode_reported ..)).elim
    · exact (absurd_of (falsificationNode_reported ..)).elim
  · obtain ⟨d, -, rfl⟩ := List.mem_map.mp here
    obtain ⟨behind, -, -, reported⟩ := diagnosticNode_reported ev.cycleId ev.ownHypothesis d
    exact (absurd_of reported).elim
  · obtain ⟨r, own, inside⟩ := List.mem_flatMap.mp here
    simp only [List.mem_cons, List.not_mem_nil, or_false] at inside
    rcases inside with rfl | rfl
    · exact ⟨r, Option.mem_toList.mp own, receiptNode_status.mp verified, rfl⟩
    · exact (absurd_of (summaryNode_reported ..)).elim
  · obtain ⟨r, -, rfl⟩ := List.mem_map.mp here
    exact (absurd_of (ratificationNode_reported ..)).elim
  · exact (conclusionNode_status ev verified).elim

end Graph

section Foreign

variable (fixed : Fixed) (sha : HexHash) {ev : RsiCycleEvidence}

-- The nodes in front of the conclusion come from the graph, the ranking and the cycle's own artifacts.
theorem evidenceNodes_congr {other : RsiCycleEvidence} (cycle : other.cycleId = ev.cycleId)
    (graph : other.graph = ev.graph) (ranking : other.bottlenecks = ev.bottlenecks)
    (hypothesis : other.ownHypothesis = ev.ownHypothesis)
    (diagnostic : other.ownDiagnostic = ev.ownDiagnostic) (receipt : other.ownReceipt = ev.ownReceipt)
    (ratification : other.ownRatification = ev.ownRatification) :
    (evidenceGraph fixed sha ev).nodes.dropLast = (evidenceGraph fixed sha other).nodes.dropLast := by
  simp only [evidenceGraph, List.dropLast_concat, evidenceNodes, capabilityNodes, analysisNodes,
    alternativeNodes, hypothesisNodes, diagnosticNodes, receiptNodes, ratificationNodes, cycle, graph,
    ranking, hypothesis, diagnostic, receipt, ratification]

end Foreign

/-- What an explanation's graph promises its reader. -/
structure WellFormed (fixed : Fixed) (sha : HexHash) (ev : RsiCycleEvidence) (doc : EvidenceGraphDoc) : Prop where
  unique : (doc.nodes.map NodeDoc.id).Nodup
  backward : ∀ before n after, doc.nodes = before ++ n :: after → ∀ e ∈ n.parents, e.to_ ∈ before.map NodeDoc.id
  closed : ∀ n ∈ doc.nodes, ∀ e ∈ n.parents, e.to_ ∈ doc.nodes.map NodeDoc.id
  acyclic : ∀ id, ¬Relation.TransGen (Grounded.Edge NodeDoc.id parentIds doc.nodes) id id
  capped : ∀ n ∈ doc.nodes, n.parents.length ≤ maxParents
  concluded : ∃ c, doc.nodes.getLast? = some c ∧ c.id = conclusionId ev.cycleId ∧ c.kind = kindConclusion
  -- The nodes in front of the conclusion are the same without an artifact of another cycle.
  hypothesis : ∀ h, ev.hypothesis = some h → h.cycleId ≠ ev.cycleId →
    doc.nodes.dropLast = (evidenceGraph fixed sha { ev with hypothesis := none }).nodes.dropLast
  diagnostic : ∀ d, ev.diagnostic = some d → d.cycleId ≠ ev.cycleId →
    doc.nodes.dropLast = (evidenceGraph fixed sha { ev with diagnostic := none }).nodes.dropLast
  receipt : ∀ r, ev.receipt = some r → r.cycleId.value ≠ ev.cycleId →
    doc.nodes.dropLast = (evidenceGraph fixed sha { ev with receipt := none }).nodes.dropLast
  -- A ratification belongs to the cycle through a receipt of the cycle for the same candidate.
  ratification : (∀ t, ev.ratification = some t → ∀ r, ev.receipt = some r → r.cycleId.value = ev.cycleId →
      r.candidateId.value ≠ t.proposalId) →
    doc.nodes.dropLast = (evidenceGraph fixed sha { ev with ratification := none }).nodes.dropLast
  verified : ∀ n ∈ doc.nodes, n.status = statusVerifiedFact →
    ∃ r, ev.receipt = some r ∧ r.verifyDigest sha = true ∧ n = receiptNode fixed sha r

section WholeGraph

variable {fixed : Fixed} {sha : HexHash} {display : Display} {ev : RsiCycleEvidence}

theorem ranking_distinct (ranked : ∃ (g : CapabilityGraph) (order : List CapabilityNode),
    order.Perm g.nodes.rows ∧ g.rankBottlenecksIn display order = .ok ev.bottlenecks) :
    (ev.bottlenecks.map BottleneckRank.nodeId).Nodup := by
  obtain ⟨g, order, listed, done⟩ := ranked
  apply (Graph.rankBottlenecksIn_ids done).nodup_iff.mpr
  exact (listed.map CapabilityNode.id).nodup_iff.mpr KeyedTable.keys_nodup

theorem filter_foreign {α : Type} {supplied : Option α} {own : α → Prop} [DecidablePred own]
    (foreign : ∀ a, supplied = some a → ¬own a) : supplied.filter (fun a => decide (own a)) = none := by
  cases supplied with
  | none => rfl
  | some a => simp [Option.filter, foreign a rfl]

/-- The explanation graph of any evidence whose ranking was made by `rank_bottlenecks`. -/
theorem evidenceGraph_wellFormed (ranked : ∃ (g : CapabilityGraph) (order : List CapabilityNode),
    order.Perm g.nodes.rows ∧ g.rankBottlenecksIn display order = .ok ev.bottlenecks) :
    WellFormed fixed sha ev (evidenceGraph fixed sha ev) := by
  have distinct := ranking_distinct ranked
  have unique := @ids_unique fixed sha ev distinct
  have rooted := @grounded fixed sha ev distinct
  have named {n : NodeDoc} {e : EdgeDoc} (listed : e ∈ n.parents) : e.to_ ∈ parentIds n :=
    List.mem_map_of_mem listed
  constructor
  case unique => exact unique
  case backward =>
    intro before n after split e listed
    simpa using rooted.parents_earlier split (named listed)
  case closed => exact fun n member e listed => rooted.closed ⟨n, member, rfl, named listed⟩
  case acyclic => exact rooted.acyclic unique
  case capped =>
    intro n member
    have few := capped distinct n member
    rwa [parentIds, List.length_map] at few
  case concluded => exact ⟨conclusionNode ev, List.getLast?_concat, rfl, rfl⟩
  case hypothesis =>
    intro h supplied foreign
    apply evidenceNodes_congr <;> try rfl
    apply Eq.symm
    apply filter_foreign
    intro other same
    rw [supplied] at same
    cases same
    exact foreign
  case diagnostic =>
    intro d supplied foreign
    apply evidenceNodes_congr <;> try rfl
    apply Eq.symm
    apply filter_foreign
    intro other same
    rw [supplied] at same
    cases same
    exact foreign
  case receipt =>
    intro r supplied foreign
    have left : ev.ownReceipt = none := by
      apply filter_foreign
      intro other same
      rw [supplied] at same
      cases same
      exact foreign
    apply evidenceNodes_congr <;> try rfl
    · exact left.symm
    · rw [RsiCycleEvidence.ownRatification, RsiCycleEvidence.ownRatification, left]
      rfl
  case ratification =>
    intro foreign
    apply evidenceNodes_congr <;> try rfl
    apply Eq.symm
    rw [RsiCycleEvidence.ownRatification]
    cases supplied : ev.ratification with
    | none => rfl
    | some t =>
      apply Option.filter_eq_none_iff.mpr
      intro other same
      cases same
      cases own : ev.ownReceipt with
      | none => simp
      | some r =>
        rw [RsiCycleEvidence.ownReceipt, Option.filter_eq_some_iff] at own
        simpa using foreign t supplied r own.1 (of_decide_eq_true own.2)
  case verified =>
    intro n member verified
    obtain ⟨r, own, holds, is⟩ := verified_receipt member verified
    rw [RsiCycleEvidence.ownReceipt, Option.filter_eq_some_iff] at own
    exact ⟨r, own.1, holds, is⟩

end WholeGraph

section Sample

def twoStages : CapabilityGraph :=
  Graph.build [.addNode (Graph.exampleNode "b"), .addNode (Graph.exampleNode "a"), Graph.exampleEdge "a" "b"]

def sampleEvidence (bottlenecks : List BottleneckRank) : RsiCycleEvidence where
  cycleId := "cycle-2"
  graph := some twoStages
  metricsOrigin := .measured
  bottlenecks
  hypothesis := some {
    id := "h", cycleId := "cycle-1", observedProblem := "slow", suspectedRootCause := "lock"
    targetMetric := "latency", baselineValue := .finite 2, predictedDeltaPct := .finite 1, protectedMetrics := []
    falsificationTest := "", confidenceScore := .finite 1 }
  diagnostic := some {
    cycleId := "cycle-2", targetFile := "src/observe.rs", primaryDefect := .performanceRegression, violations := ["protected path"]
    pastLessons := [], hypothesis := none }
  receipt := some { Evaluator.layeredReceipt with cycleId := ⟨"cycle-2", by decide⟩ }
  ratification := some { proposalId := "candidate", commitHash := none, status := "REJECTED", message := "tier" }

theorem evidenceGraph_wellFormed_sample :
    ∃ ranks, twoStages.rankBottlenecks Graph.exampleDisplay = .ok ranks ∧
    WellFormed ⟨fun _ _ => "0", fun _ _ => "0"⟩ sha256 (sampleEvidence ranks)
      (evidenceGraph ⟨fun _ _ => "0", fun _ _ => "0"⟩ sha256 (sampleEvidence ranks)) := by
  have calculated : ∃ centrality, twoStages.calculateBetweennessCentrality = .ok centrality := ⟨_, rfl⟩
  obtain ⟨centrality, calculated⟩ := calculated
  obtain ⟨ranks, ranked⟩ := Graph.rankBottlenecks_ok Graph.exampleDisplay calculated
  exact ⟨ranks, ranked, evidenceGraph_wellFormed ⟨twoStages, _, List.Perm.refl _, ranked⟩⟩

end Sample

end SparkRsi.Explain
