import SparkRsi.Shared.Run
import SparkRsi.Shared.Sha256
import Mathlib.Data.List.Induction
import Mathlib.Data.List.Nodup

set_option autoImplicit false

namespace SparkRsi.Soak

open Shared

structure BottleneckNode where
  nodeName : String
  causalExplanation : String
  deriving DecidableEq

structure HypothesisQuarantineTracker where
  failureCounts : String → Option Nat
  exhaustedPairings : List String

-- Where `&text[..n]` may cut: nowhere inside a character, and not behind the end of the text.
def isCharBoundary : List Char → Nat → Bool
  | _, 0 => true
  | [], _ + 1 => false
  | c :: rest, n + 1 => c.utf8Size ≤ n + 1 && isCharBoundary rest (n + 1 - c.utf8Size)

section Tracker

variable (sha : HexHash)

def shortDigest (text : String) : List Char := (sha.hex (utf8 text)).toList.take 12

namespace HypothesisQuarantineTracker

def new : HypothesisQuarantineTracker :=
  { failureCounts := fun _ => none
    exhaustedPairings := [] }

def pairingKey (nodeName problemSummary : String) : String :=
  nodeName ++ ":" ++ String.ofList (shortDigest sha problemSummary)

def isExhausted (self : HypothesisQuarantineTracker) (nodeName problemSummary : String) : Bool :=
  self.exhaustedPairings.contains (pairingKey sha nodeName problemSummary)

def recordFailure (self : HypothesisQuarantineTracker) (nodeName problemSummary : String) :
    HypothesisQuarantineTracker × Bool :=
  let key := pairingKey sha nodeName problemSummary
  let count := (self.failureCounts key).getD 0 + 1
  let counted := { self with failureCounts := Function.update self.failureCounts key (some count) }
  if count ≥ 3 then ({ counted with exhaustedPairings := counted.exhaustedPairings.insert key }, true)
  else (counted, false)

def recordSuccess (self : HypothesisQuarantineTracker) (nodeName problemSummary : String) :
    HypothesisQuarantineTracker :=
  let key := pairingKey sha nodeName problemSummary
  { failureCounts := Function.update self.failureCounts key none
    exhaustedPairings := self.exhaustedPairings.filter (· ≠ key) }

end HypothesisQuarantineTracker

def chooseBottleneck (tracker : HypothesisQuarantineTracker) (ranked : List BottleneckNode) :
    Option BottleneckNode :=
  -- The explanation alone is looked up here; what is recorded below is the hypothesis problem.
  (ranked.find? fun b => !tracker.isExhausted sha b.nodeName b.causalExplanation).or ranked.head?

def hypothesisProblem (bottleneck : BottleneckNode) : String :=
  s!"High latency on {bottleneck.nodeName}: {bottleneck.causalExplanation}"

end Tracker

inductive CandidateEnd where
  | rejected (reason : String)
  | judged (admitted : Bool)
  | unrecorded (e : String)

def admissibleProposals : List CandidateEnd → Except String Nat
  | [] => .ok 0
  | .rejected _ :: rest => admissibleProposals rest
  | .judged admitted :: rest => return (← admissibleProposals rest) + if admitted then 1 else 0
  | .unrecorded e :: _ => .error s!"Failed to append evaluation: {e}"

/-- What a cycle meets: the ranking, or why the observation failed, and the ends of its candidates. -/
structure CycleInput where
  observed : Except String (List BottleneckNode)
  candidates : List CandidateEnd

inductive SoakEnd where
  | noBottleneck
  | failed (e : String)
  | panicked

structure ChosenCycle where
  ranked : List BottleneckNode
  bottleneck : BottleneckNode
  admissible : Option Nat
  deriving DecidableEq

structure SoakState where
  tracker : HypothesisQuarantineTracker
  history : List ChosenCycle
  ended : Option SoakEnd

def SoakState.start : SoakState :=
  { tracker := .new
    history := []
    ended := none }

section Cycles

variable (sha : HexHash)

def recordCycle (s : SoakState) (ranked : List BottleneckNode) (bottleneck : BottleneckNode)
    (admissible : Nat) :
    SoakState :=
  let problem := hypothesisProblem bottleneck
  let history := s.history ++ [⟨ranked, bottleneck, some admissible⟩]
  if admissible = 0 then
    let recorded := s.tracker.recordFailure sha bottleneck.nodeName problem
    { tracker := recorded.1
      history
      -- The message about an exhausted pairing cuts the problem at byte 20.
      ended := if recorded.2 && !isCharBoundary problem.toList 20 then some .panicked else none }
  else
    { tracker := s.tracker.recordSuccess sha bottleneck.nodeName problem
      history
      ended := none }

def soakCycle (s : SoakState) (input : CycleInput) : SoakState :=
  if s.ended.isSome then s
  else
    match input.observed with
    | .error e => { s with ended := some (.failed e) }
    | .ok ranked =>
      match chooseBottleneck sha s.tracker ranked with
      | none => { s with ended := some .noBottleneck }
      | some bottleneck =>
        match admissibleProposals input.candidates with
        | .error e => { s with
            history := s.history ++ [⟨ranked, bottleneck, none⟩]
            ended := some (.failed e) }
        | .ok admissible => recordCycle sha s ranked bottleneck admissible

def soakHistory (inputs : List CycleInput) : List ChosenCycle :=
  (Run.final (soakCycle sha) .start inputs).history

end Cycles

section History

def countFailure (bottleneck : BottleneckNode) (failures : Nat) (cycle : ChosenCycle) : Nat :=
  if cycle.bottleneck = bottleneck then
    match cycle.admissible with
    | some 0 => failures + 1
    | some (_ + 1) => 0
    | none => failures
  else failures

/-- The cycles that chose this bottleneck in vain since one of them last had a success. -/
def failuresOf (history : List ChosenCycle) (bottleneck : BottleneckNode) : Nat :=
  history.foldl (countFailure bottleneck) 0

def Throughout (P : List ChosenCycle → ChosenCycle → Prop) (history : List ChosenCycle) : Prop :=
  ∀ i cycle, history[i]? = some cycle → P (history.take i) cycle

def Spent (before : List ChosenCycle) (bottleneck : BottleneckNode) : Prop := 3 ≤ failuresOf before bottleneck

instance (before : List ChosenCycle) (bottleneck : BottleneckNode) : Decidable (Spent before bottleneck) :=
  inferInstanceAs (Decidable (3 ≤ failuresOf before bottleneck))

def LeftAlone (before : List ChosenCycle) (cycle : ChosenCycle) : Prop :=
  Spent before cycle.bottleneck → ∀ b ∈ cycle.ranked, Spent before b

/-- No spent bottleneck leads a ranking that still offers another. -/
def TopOpen (before : List ChosenCycle) (cycle : ChosenCycle) : Prop :=
  ∀ top, cycle.ranked.head? = some top → Spent before top → ∀ b ∈ cycle.ranked, Spent before b

theorem throughout_snoc {P : List ChosenCycle → ChosenCycle → Prop} {history : List ChosenCycle}
    {cycle : ChosenCycle} :
    Throughout P (history ++ [cycle]) ↔ Throughout P history ∧ P history cycle := by
  constructor
  next =>
    intro holds
    constructor
    next =>
      intro i earlier found
      have inside : i < history.length := (List.getElem?_eq_some_iff.mp found).1
      have held := holds i earlier (by rw [List.getElem?_append_left inside, found])
      rwa [List.take_append_of_le_length inside.le] at held
    next =>
      have held := holds history.length cycle (by simp)
      rwa [List.take_left] at held
  next =>
    rintro ⟨earlier, last⟩ i found at_
    by_cases inside : i < history.length
    next =>
      rw [List.getElem?_append_left inside] at at_
      rw [List.take_append_of_le_length inside.le]
      exact earlier i found at_
    next =>
      have index : i = history.length := by
        have within := (List.getElem?_eq_some_iff.mp at_).1
        rw [List.length_append, List.length_singleton] at within
        omega
      rw [index, List.getElem?_concat_length] at at_
      cases at_
      rwa [index, List.take_left]

end History

section Counting

variable (sha : HexHash)

def recordKey (cycle : ChosenCycle) : String :=
  HypothesisQuarantineTracker.pairingKey sha cycle.bottleneck.nodeName (hypothesisProblem cycle.bottleneck)

variable (key : String)

def tally (failures : Nat) : Option Nat → Nat
  | some 0 => failures + 1
  | some (_ + 1) => 0
  | none => failures

/-- The cycles recorded under this key in vain since one of them last had a success. -/
def keyFailures (history : List ChosenCycle) : Nat :=
  history.foldl (fun failures cycle => if recordKey sha cycle = key then tally failures cycle.admissible else failures) 0

theorem keyFailures_snoc (history : List ChosenCycle) (cycle : ChosenCycle) :
    keyFailures sha key (history ++ [cycle]) =
      if recordKey sha cycle = key then tally (keyFailures sha key history) cycle.admissible
      else keyFailures sha key history := by
  rw [keyFailures, List.foldl_concat]
  rfl

theorem keyFailures_update (history : List ChosenCycle) (cycle : ChosenCycle) :
    (fun key => keyFailures sha key (history ++ [cycle])) =
      Function.update (fun key => keyFailures sha key history) (recordKey sha cycle)
        (tally (keyFailures sha (recordKey sha cycle) history) cycle.admissible) := by
  funext key
  rw [keyFailures_snoc, Function.update_apply]
  by_cases same : key = recordKey sha cycle
  next => rw [if_pos same.symm, if_pos same, same]
  next => rw [if_neg (Ne.symm same), if_neg same]

theorem exists_of_keyFailures {history : List ChosenCycle} (failed : 0 < keyFailures sha key history) :
    ∃ cycle ∈ history, recordKey sha cycle = key := by
  induction history using List.reverseRecOn with
  | nil => cases failed
  | append_singleton before cycle ih =>
    by_cases same : recordKey sha cycle = key
    next => exact ⟨cycle, by simp, same⟩
    next =>
      rw [keyFailures_snoc, if_neg same] at failed
      obtain ⟨earlier, member, named⟩ := ih failed
      exact ⟨earlier, List.mem_append_left _ member, named⟩

end Counting

section Counts

variable {sha : HexHash} {tracker : HypothesisQuarantineTracker} {count : String → Nat} {key : String}

structure Counts (tracker : HypothesisQuarantineTracker) (count : String → Nat) : Prop where
  counts : ∀ key, (tracker.failureCounts key).getD 0 = count key
  listed : ∀ key, key ∈ tracker.exhaustedPairings ↔ 3 ≤ count key
  nodup : tracker.exhaustedPairings.Nodup

theorem new_counts : Counts .new fun _ => 0 where
  counts := fun _ => rfl
  listed := fun _ => iff_of_false List.not_mem_nil (by decide)
  nodup := .nil

theorem recordFailure_counts {nodeName problemSummary : String} (counts : Counts tracker count)
    (named : HypothesisQuarantineTracker.pairingKey sha nodeName problemSummary = key) :
    Counts (tracker.recordFailure sha nodeName problemSummary).1 (Function.update count key (count key + 1)) := by
  have updated (other : String) : (Function.update tracker.failureCounts key (some (count key + 1)) other).getD 0 =
      Function.update count key (count key + 1) other := by
    by_cases same : other = key
    next => rw [same, Function.update_self, Function.update_self, Option.getD_some]
    next => rw [Function.update_of_ne same, Function.update_of_ne same, counts.counts]
  rw [HypothesisQuarantineTracker.recordFailure]
  simp only [named, counts.counts]
  split
  next spent =>
    refine ⟨updated, fun other => ?_, counts.nodup.insert⟩
    rw [List.mem_insert_iff]
    by_cases same : other = key
    next =>
      rw [same, Function.update_self]
      exact iff_of_true (.inl rfl) spent
    next => simp only [same, false_or, Function.update_of_ne same, counts.listed]
  next unspent =>
    refine ⟨updated, fun other => ?_, counts.nodup⟩
    by_cases same : other = key
    next =>
      rw [same, Function.update_self, counts.listed]
      omega
    next => rw [Function.update_of_ne same, counts.listed]

theorem recordSuccess_counts {nodeName problemSummary : String} (counts : Counts tracker count)
    (named : HypothesisQuarantineTracker.pairingKey sha nodeName problemSummary = key) :
    Counts (tracker.recordSuccess sha nodeName problemSummary) (Function.update count key 0) := by
  have updated (other : String) :
      (Function.update tracker.failureCounts key none other).getD 0 = Function.update count key 0 other := by
    by_cases same : other = key
    next => rw [same, Function.update_self, Function.update_self, Option.getD_none]
    next => rw [Function.update_of_ne same, Function.update_of_ne same, counts.counts]
  rw [HypothesisQuarantineTracker.recordSuccess]
  simp only [named]
  refine ⟨updated, fun other => ?_, counts.nodup.filter _⟩
  rw [List.mem_filter, decide_eq_true_eq]
  by_cases same : other = key
  next =>
    rw [same, Function.update_self]
    exact iff_of_false (fun kept => kept.2 rfl) (by decide)
  next => simp only [ne_eq, same, not_false_eq_true, and_true, Function.update_of_ne same, counts.listed]

end Counts

section Steps

variable {sha : HexHash} {s after : SoakState}

/-- What one cycle can do: nothing that lasts, or choose a bottleneck, and record how it ended unless it broke off. -/
inductive Stepped (sha : HexHash) (s : SoakState) : SoakState → Prop
  | idle (ended : Option SoakEnd) : Stepped sha s { s with ended }
  | broken (ranked : List BottleneckNode) (bottleneck : BottleneckNode) (ended : Option SoakEnd)
      (choice : chooseBottleneck sha s.tracker ranked = some bottleneck) :
      Stepped sha s { s with history := s.history ++ [⟨ranked, bottleneck, none⟩], ended }
  | recorded (ranked : List BottleneckNode) (bottleneck : BottleneckNode) (admissible : Nat)
      (choice : chooseBottleneck sha s.tracker ranked = some bottleneck) :
      Stepped sha s (recordCycle sha s ranked bottleneck admissible)

theorem soakCycle_stepped (s : SoakState) (input : CycleInput) : Stepped sha s (soakCycle sha s input) := by
  unfold soakCycle
  split
  next => exact .idle s.ended
  next =>
    split
    next => exact .idle _
    next =>
      split
      next => exact .idle _
      next choice =>
        split
        next => exact .broken _ _ _ choice
        next => exact .recorded _ _ _ choice

theorem recordCycle_history (ranked : List BottleneckNode) (bottleneck : BottleneckNode) (admissible : Nat) :
    (recordCycle sha s ranked bottleneck admissible).history = s.history ++ [⟨ranked, bottleneck, some admissible⟩] := by
  unfold recordCycle
  split
  next => rfl
  next => rfl

theorem Stepped.history (stepped : Stepped sha s after) :
    after.history = s.history ∨ ∃ cycle : ChosenCycle,
      chooseBottleneck sha s.tracker cycle.ranked = some cycle.bottleneck ∧ after.history = s.history ++ [cycle] := by
  cases stepped with
  | idle ended => exact .inl rfl
  | broken ranked bottleneck ended choice => exact .inr ⟨⟨ranked, bottleneck, none⟩, choice, rfl⟩
  | recorded ranked bottleneck admissible choice =>
    exact .inr ⟨⟨ranked, bottleneck, some admissible⟩, choice, recordCycle_history ranked bottleneck admissible⟩

variable (sha) in
def Counted (s : SoakState) : Prop := Counts s.tracker fun key => keyFailures sha key s.history

theorem start_counted : Counted sha .start := new_counts

theorem Counted.step (counted : Counted sha s) (stepped : Stepped sha s after) : Counted sha after := by
  cases stepped with
  | idle ended => exact counted
  | broken ranked bottleneck ended choice =>
    rw [Counted, keyFailures_update, tally, Function.update_eq_self]
    exact counted
  | recorded ranked bottleneck admissible choice =>
    rw [Counted, recordCycle]
    by_cases vain : admissible = 0
    next =>
      subst vain
      rw [if_pos rfl, keyFailures_update]
      exact recordFailure_counts counted rfl
    next =>
      obtain ⟨more, rfl⟩ := Nat.exists_eq_succ_of_ne_zero vain
      rw [if_neg vain, keyFailures_update]
      exact recordSuccess_counts counted rfl

theorem run_counted (inputs : List CycleInput) : Counted sha (Run.final (soakCycle sha) .start inputs) :=
  Run.invariant_final (soakCycle sha) (Counted sha) (fun s input counted => counted.step (soakCycle_stepped s input)) .start
    inputs start_counted

theorem length_shortDigest (text : String) : (shortDigest sha text).length = 12 := by
  have digits : (sha.hex (utf8 text)).toList.length = 64 := by
    rw [HexHash.hex, hexEncode, String.toList_ofList, List.length_flatMap]
    simp [sha.length_digest]
  rw [shortDigest, List.length_take, digits]
  rfl

-- Both parts of a key can be read off it: its last twelve characters are the short digest.
theorem pairingKey_inj {nodeName nodeName' problem problem' : String}
    (same : HypothesisQuarantineTracker.pairingKey sha nodeName problem =
      HypothesisQuarantineTracker.pairingKey sha nodeName' problem') :
    nodeName = nodeName' ∧ shortDigest sha problem = shortDigest sha problem' := by
  have texts := congrArg String.toList same
  simp only [HypothesisQuarantineTracker.pairingKey, String.toList_append, String.toList_ofList] at texts
  have tails := List.append_inj' texts (by rw [length_shortDigest, length_shortDigest])
  exact ⟨String.toList_injective (List.append_inj_left' tails.1 rfl), tails.2⟩

/-- No ranked explanation has the short digest of a problem that was recorded three times in vain for its node. -/
def Apart (sha : HexHash) (before : List ChosenCycle) (cycle : ChosenCycle) : Prop :=
  ∀ earlier ∈ before, 3 ≤ keyFailures sha (recordKey sha earlier) before →
    ∀ b ∈ cycle.ranked, earlier.bottleneck.nodeName = b.nodeName →
      shortDigest sha (hypothesisProblem earlier.bottleneck) ≠ shortDigest sha b.causalExplanation

structure Tracked (sha : HexHash) (s : SoakState) : Prop where
  counted : Counted sha s
  tops : Throughout (fun before cycle => Apart sha before cycle → cycle.ranked.head? = some cycle.bottleneck) s.history

theorem chooseBottleneck_top {cycle : ChosenCycle} (counted : Counted sha s)
    (choice : chooseBottleneck sha s.tracker cycle.ranked = some cycle.bottleneck)
    (apart : Apart sha s.history cycle) :
    cycle.ranked.head? = some cycle.bottleneck := by
  have unlisted (b : BottleneckNode) (ranked : b ∈ cycle.ranked) :
      s.tracker.isExhausted sha b.nodeName b.causalExplanation = false := by
    rw [← Bool.not_eq_true]
    intro listed
    have spent := (counted.listed _).mp (List.contains_iff_mem.mp listed)
    obtain ⟨earlier, before, key⟩ := exists_of_keyFailures sha _ (lt_of_lt_of_le (by decide) spent)
    rw [← key] at spent
    obtain ⟨node, digest⟩ := pairingKey_inj key
    exact apart earlier before spent b ranked node digest
  rw [chooseBottleneck] at choice
  cases shown : cycle.ranked with
  | nil =>
    rw [shown] at choice
    cases choice
  | cons top rest =>
    rw [shown, List.find?_cons_of_pos (by simp [unlisted top (shown ▸ List.mem_cons_self)])] at choice
    exact choice

theorem Tracked.step (tracked : Tracked sha s) (stepped : Stepped sha s after) : Tracked sha after := by
  refine ⟨tracked.counted.step stepped, ?_⟩
  cases stepped.history with
  | inl same => exact same ▸ tracked.tops
  | inr chose =>
    obtain ⟨cycle, choice, longer⟩ := chose
    rw [longer, throughout_snoc]
    exact ⟨tracked.tops, chooseBottleneck_top tracked.counted choice⟩

theorem start_tracked : Tracked sha .start := ⟨start_counted, fun i cycle found => by cases found⟩

theorem soakHistory_tops (inputs : List CycleInput) :
    Throughout (fun before cycle => Apart sha before cycle → cycle.ranked.head? = some cycle.bottleneck)
      (soakHistory sha inputs) :=
  (Run.invariant_final (soakCycle sha) (Tracked sha) (fun s input tracked => tracked.step (soakCycle_stepped s input))
    .start inputs start_tracked).tops

end Steps

/-- In a run of any length whose explanations never clash with recorded problems, exhausted bottlenecks are
left alone exactly when none of them ever leads a ranking that still offers another: the quarantine itself
excludes nothing. -/
theorem left_alone_iff (sha : HexHash) (inputs : List CycleInput)
    (apart : Throughout (Apart sha) (soakHistory sha inputs)) :
    Throughout LeftAlone (soakHistory sha inputs) ↔ Throughout TopOpen (soakHistory sha inputs) := by
  have tops : Throughout (fun before cycle => Apart sha before cycle → cycle.ranked.head? = some cycle.bottleneck)
      (soakHistory sha inputs) := soakHistory_tops inputs
  constructor
  next =>
    intro leftAlone i cycle found top first
    have chosen := tops i cycle found (apart i cycle found)
    rw [chosen] at first
    cases first
    exact leftAlone i cycle found
  next =>
    intro open_ i cycle found
    exact open_ i cycle found _ (tops i cycle found (apart i cycle found))

section Sample

def proposeStage : BottleneckNode := { nodeName := "Propose", causalExplanation := "slowest measured stage" }

def judgeStage : BottleneckNode := { nodeName := "Judge", causalExplanation := "second slowest stage" }

def failedCycle : CycleInput :=
  { observed := .ok [proposeStage, judgeStage]
    candidates := [.rejected "Model generation failed to produce valid code"] }

def inVain : ChosenCycle :=
  { ranked := [proposeStage, judgeStage]
    bottleneck := proposeStage
    admissible := some 0 }

/-- The same, ranked the other way round. -/
def turnedCycle : CycleInput := { failedCycle with observed := .ok [judgeStage, proposeStage] }

def turned : ChosenCycle :=
  { ranked := [judgeStage, proposeStage]
    bottleneck := judgeStage
    admissible := some 0 }

theorem propose_apart {before : List ChosenCycle} {cycle : ChosenCycle} (same : ∀ earlier ∈ before, earlier = inVain)
    (ranked : ∀ b ∈ cycle.ranked, b = proposeStage ∨ b = judgeStage) : Apart sha256 before cycle := by
  have digests : shortDigest sha256 (hypothesisProblem proposeStage) ≠
      shortDigest sha256 proposeStage.causalExplanation := by
    decide +kernel
  intro earlier member _ b offered node
  rw [same earlier member] at node ⊢
  cases ranked b offered with
  | inl propose =>
    rw [propose]
    exact digests
  | inr judge =>
    rw [judge] at node
    exact absurd node (by decide)

/-- Three cycles in vain, and a fourth one with another top. -/
theorem left_alone_iff_turned :
    Throughout LeftAlone (soakHistory sha256 (List.replicate 3 failedCycle ++ [turnedCycle])) := by
  have history : soakHistory sha256 (List.replicate 3 failedCycle ++ [turnedCycle]) =
      List.replicate 3 inVain ++ [turned] := by
    decide +kernel
  have each : ∀ i cycle, (List.replicate 3 inVain)[i]? = some cycle → i < 3 ∧ cycle = inVain := by
    intro i cycle found
    have inside := (List.getElem?_eq_some_iff.mp found).1
    exact ⟨by simpa using inside, List.eq_of_mem_replicate (List.mem_of_getElem? found)⟩
  have stages : ∀ b ∈ [proposeStage, judgeStage], b = proposeStage ∨ b = judgeStage := by simp
  apply (left_alone_iff sha256 _ ?_).mpr
  case _ =>
    rw [history, throughout_snoc]
    constructor
    next =>
      intro i cycle found top first spent
      obtain ⟨early, rfl⟩ := each i cycle found
      cases first
      -- Two cycles in vain at most stand in front of any of the three.
      have few : ∀ i < 3, ¬Spent ((List.replicate 3 inVain).take i) proposeStage := by decide
      exact absurd spent (few i early)
    next =>
      intro top first spent
      cases first
      exact absurd spent (by decide)
  case _ =>
    rw [history, throughout_snoc]
    constructor
    next =>
      intro i cycle found
      obtain ⟨-, rfl⟩ := each i cycle found
      exact propose_apart (fun earlier member => List.eq_of_mem_replicate (List.mem_of_mem_take member)) stages
    next =>
      exact propose_apart (fun earlier member => List.eq_of_mem_replicate member) fun b member => (stages b (by
        simpa [turned, or_comm] using member))

theorem spent_chosen_again : ¬Throughout LeftAlone (soakHistory sha256 (List.replicate 4 failedCycle)) := by
  have history : soakHistory sha256 (List.replicate 4 failedCycle) = List.replicate 4 inVain := by
    decide +kernel
  intro leftAlone
  rw [history] at leftAlone
  have fourth := leftAlone 3 inVain rfl (by decide) judgeStage (by decide)
  exact absurd fourth (by decide)

end Sample

end SparkRsi.Soak
