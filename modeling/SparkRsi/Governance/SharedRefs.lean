import SparkRsi.Governance.Ratified
import SparkRsi.Shared.Run
import Mathlib.Logic.Function.Basic

set_option autoImplicit false

namespace SparkRsi.Governance

open Shared Evaluator

variable {debug : Debug}

section Change

variable {entries : List ChangedEntry} {declaredTarget : String} {roots : List String}

structure ChangesFile (entry : ChangedEntry) : Prop where
  regular : isRegularMode entry.newMode = true
  before : entry.oldMode = "000000" ∨ isRegularMode entry.oldMode = true
  kept : entry.status ≠ 'D'

theorem checkEntry_nil {e : ChangedEntry} (clean : (checkEntry debug roots e).1 = []) :
    ChangesFile e ∧ (checkEntry debug roots e).2 = some e.path := by
  unfold checkEntry at clean ⊢
  split at clean
  next => cases clean
  next normalized normal =>
    simp only [List.append_eq_nil_iff, ite_eq_right_iff, List.cons_ne_nil, imp_false, not_not, Bool.or_eq_true,
      Bool.not_eq_true', not_or, Bool.not_eq_false, decide_eq_true_eq, Bool.or_eq_false_iff, not_and,
      decide_eq_false_iff_not] at clean
    obtain ⟨⟨⟨rfl, -⟩, before, after⟩, filled, kept⟩ := clean
    refine ⟨⟨after filled, ?_, kept⟩, rfl⟩
    by_cases absent : e.oldMode = "000000"
    next => exact .inl absent
    next => exact .inr (before absent)

theorem entries_of_checkEntries (clean : checkEntries debug entries declaredTarget roots = []) :
    ∃ entry, entries = [entry] ∧ entry.path = declaredTarget ∧ ChangesFile entry := by
  simp only [checkEntries, List.append_eq_nil_iff, List.flatMap_eq_nil_iff, ite_eq_left_iff, List.cons_ne_nil,
    imp_false, not_not] at clean
  obtain ⟨⟨⟨-, each⟩, paths⟩, -⟩ := clean
  have read : realPaths debug entries roots = entries.map ChangedEntry.path := by
    rw [realPaths, ← List.filterMap_eq_map]
    exact List.filterMap_congr fun entry listed => (checkEntry_nil (each entry listed)).2
  rw [read] at paths
  obtain ⟨entry, rfl, named⟩ := List.map_eq_singleton_iff.mp paths
  exact ⟨entry, rfl, named, (checkEntry_nil (each entry List.mem_cons_self)).1⟩

end Change

inductive RefValue where
  | direct (object : String)
  | symbolic (target : String)
  deriving DecidableEq

abbrev Refs := String → Option RefValue

/-- Where a name leads through the symbolic refs that start at it. -/
inductive LeadsTo (refs : Refs) : String → String → Prop
  | here (name : String) : LeadsTo refs name name
  | through {name target reached : String} (symbolic : refs name = some (.symbolic target))
      (further : LeadsTo refs target reached) : LeadsTo refs name reached

/-- What git documents of the refs: `update-ref` alone writes one, and with an empty old value it creates the ref that
the name leads to. -/
structure RefStore where
  write : Invocation → Refs → Refs
  reads : ∀ line refs, ¬line.writesRef → write line refs = refs
  creates : ∀ repo message name new refs,
    write (invocation repo (.updateRef message name new "")) refs = refs ∨
      ∃ created, LeadsTo refs name created ∧ refs created = none ∧
        write (invocation repo (.updateRef message name new "")) refs =
          Function.update refs created (some (.direct new))

inductive Event where
  | ratifier (line : Invocation)
  -- Whatever else is done to the refs.
  | other (change : Refs → Refs)

def step (store : RefStore) (refs : Refs) : Event → Refs
  | .ratifier line => store.write line refs
  | .other change => change refs

def Commanded (debug : Debug) (line : Invocation) : Prop :=
  ∃ call answer heard output, said line output ∈ (ratifyProposal debug call answer heard).2

/-- A ratification read the real diff of the candidate from git before it ran the command, and accepted it: one file
is changed, the declared target, and nothing forbidden is added. -/
structure Backed (debug : Debug) (line : Invocation) (call : Call) (staged : StagedCandidate) : Prop where
  command : line = reviewUpdate call.targetRepo (reviewBranch call) staged.commit
  passed : call.invariants.passed = true
  change : ∃ target entry, checkDeclaredTarget debug call.proposal.targetFile call.ratifyRoots = .ok target ∧
    staged.entries = [entry] ∧ entry.path = target ∧ ChangesFile entry
  content : ∀ pattern ∈ SecurityLayer.forbidden, ¬pattern.toList <:+: (addedText staged.patchText).toList
  read : ∃ answer heard before after output,
    (ratifyProposal debug call answer heard).2 = before ++ said line output :: after ∧
      Reviewed debug call.targetRepo staged before ∧ NoDefault call.targetRepo (reviewBranch call) before

theorem backed_of_commanded {line : Invocation} (commanded : Commanded debug line) (writes : line.writesRef) :
    ∃ call staged, Backed debug line call staged := by
  obtain ⟨call, answer, heard, output, member⟩ := commanded
  obtain ⟨before, after, split⟩ := List.append_of_mem member
  have ratified := @ratifyProposal_meets debug call answer heard
  obtain ⟨-, staged, licensed, command⟩ := ratified.writes before _ after split line rfl writes
  obtain ⟨target, declared, clean⟩ := licensed.clean
  rw [checkRealDiff_nil] at clean
  obtain ⟨entry, entries, path, change⟩ := entries_of_checkEntries clean.1
  exact ⟨call, staged, command, licensed.passed, ⟨target, entry, declared, entries, path, change⟩, clean.2,
    answer, heard, before, after, output, split, licensed.reviewed, licensed.free⟩

section Store

variable (store : RefStore) {line : Invocation} {refs : Refs} {name : String}

-- A command of a ratification leaves a ref alone or creates it.
theorem write_commanded (commanded : Commanded debug line) (changed : store.write line refs name ≠ refs name) :
    refs name = none ∧ ∃ call staged, Backed debug line call staged ∧
      store.write line refs name = some (.direct staged.commit) ∧
      LeadsTo refs s!"refs/heads/{reviewBranch call}" name := by
  by_cases writes : line.writesRef
  next =>
    obtain ⟨call, staged, backed⟩ := backed_of_commanded commanded writes
    have created := store.creates call.targetRepo "rsi: review branch" s!"refs/heads/{reviewBranch call}" staged.commit refs
    rw [← reviewUpdate, ← backed.command] at created
    cases created with
    | inl same => exact absurd (congrFun same name) changed
    | inr created =>
      obtain ⟨target, named, free, written⟩ := created
      rw [written] at changed ⊢
      by_cases here : name = target
      next =>
        subst here
        exact ⟨free, call, staged, backed, Function.update_self .., named⟩
      next => exact absurd (Function.update_of_ne here _ _) changed
  next => exact absurd (congrFun (store.reads line refs writes) name) changed

theorem write_keeps (commanded : Commanded debug line) {value : RefValue} (held : refs name = some value) :
    store.write line refs name = some value := by
  by_contra changed
  rw [← held] at changed
  have absent := (write_commanded store commanded changed).1
  rw [held] at absent
  cases absent

end Store

/-- In any order of ratification commands and other changes to the refs, a command of a ratification changes a ref
only by creating it where its review branch leads to, for a commit whose real diff was accepted; and a ref that the others
leave alone keeps its value. -/
theorem refs_kept (debug : Debug) (store : RefStore) (start : Refs) (events : List Event)
    (commanded : ∀ line, .ratifier line ∈ events → Commanded debug line) :
    (∀ visit ∈ Run.visits (step store) start events, ∀ line name, visit.2 = .ratifier line →
      store.write line visit.1 name ≠ visit.1 name →
        visit.1 name = none ∧ ∃ call staged, Backed debug line call staged ∧
          store.write line visit.1 name = some (.direct staged.commit) ∧
          LeadsTo visit.1 s!"refs/heads/{reviewBranch call}" name) ∧
    ∀ name value, start name = some value →
      (∀ change, .other change ∈ events → ∀ refs, refs name = some value → change refs name = some value) →
        Run.final (step store) start events name = some value := by
  constructor
  next =>
    rintro ⟨refs, event⟩ visited line name rfl changed
    obtain ⟨first, second, rfl, -⟩ := Run.mem_visits (step store) visited
    exact write_commanded store (commanded line (by simp)) changed
  next =>
    intro name value held others
    induction events generalizing start with
    | nil => exact held
    | cons event rest ih =>
      apply ih (step store start event)
      case commanded => exact fun line member => commanded line (List.mem_cons_of_mem _ member)
      case others => exact fun change member => others change (List.mem_cons_of_mem _ member)
      case held =>
        cases event with
        | ratifier line => exact write_keeps store (commanded line List.mem_cons_self) held
        | other change => exact others change List.mem_cons_self start held

section Sample

def readmeRawChange : RawChange :=
  { oldMode := "100644", newMode := "100644", oldObject := "aa", newObject := "bb", letter := 'M', score := []
    path := "README.md" }

def readmeCall : Call :=
  { proposal := { targetFile := "README.md", proposedPatch := "hello\n", kind := .documentation
                  operatorSignature := none, id := "p1", title := "Greeting" }
    invariants := { passed := true, notes := [] }
    targetRepo := "/srv/target", ratifyRoots := ["README.md"], patchDir := "/srv/patches", ledgerBlockHash := none
    cortexUrl := "http://127.0.0.1", cortexSpace := "rsi", now := "2026-01-01T00:00:00+00:00"
    operator := { name := "Operator", email := "operator@localhost" } }

def calmGit : Option String → Output
  | some "rev-parse" => .ended true (utf8 "b0\n") []
  | some "hash-object" => .ended true (utf8 "h0\n") []
  | some "write-tree" => .ended true (utf8 "t0\n") []
  | some "commit-tree" => .ended true (utf8 "c0\n") []
  | some "diff-tree" => .ended true (printRaw [readmeRawChange]) []
  | some "symbolic-ref" | some "config" => .ended false [] []
  | _ => .ended true [] []

def calmAnswer : (action : Action) → Answer action
  | .git line => calmGit line.args[4]?
  | .tempDir => (.ok "/tmp/rsi" : Except String String)
  | .createDirAll _ => (.ok () : Except String Unit)
  | .write _ _ => (.ok () : Except String Unit)
  | .recordCortexLesson _ => (none, false)

def plainStore : RefStore where
  write line refs :=
    match line.command with
    | .updateRef _ name new old => if old = "" ∧ refs name = none then Function.update refs name (some (.direct new)) else refs
    | _ => refs
  reads := by
    rintro ⟨repo, command⟩ refs reads
    cases command <;> try rfl
    exact absurd (writesRef_invocation.mpr ⟨_, _, _, _, rfl⟩) reads
  creates := by
    intro repo message name new refs
    by_cases free : refs name = none
    next => exact .inr ⟨name, .here name, free, by simp [invocation, free]⟩
    next => exact .inl (by simp [invocation, free])

def mainOnly : Refs := fun name => if name = "refs/heads/main" then some (.direct "b0") else none

def readmeUpdate : Invocation := reviewUpdate "/srv/target" "rsi/p1" "c0"

def plainDebug : Debug := ⟨id, String.join⟩

theorem commanded_readmeUpdate : Commanded plainDebug readmeUpdate := by
  have hash : (ratifyProposal plainDebug readmeCall (fun _ => calmAnswer) []).1.toOption.bind RatificationRecord.commitHash =
      some "c0" := by decide +kernel
  have ratified := @ratifyProposal_meets plainDebug readmeCall (fun _ => calmAnswer) []
  cases run : (ratifyProposal plainDebug readmeCall (fun _ => calmAnswer) []).1 with
  | error e =>
    rw [run] at hash
    cases hash
  | ok record =>
    rw [run] at hash
    have committed : record.commitHash = some "c0" := hash
    cases ratified.returned record run with
    | inl rejection =>
      rw [rejection.2.1] at committed
      cases committed
    | inr proposal =>
      obtain ⟨-, -, -, commit, named, ⟨stdout, stderr, wrote⟩, -⟩ := proposal
      rw [named] at committed
      cases committed
      exact ⟨readmeCall, fun _ => calmAnswer, [], .ended true stdout stderr, wrote⟩

def fetchMain (refs : Refs) : Refs := Function.update refs "refs/remotes/origin/main" (some (.direct "b1"))

theorem refs_kept_readme :
    Run.final (step plainStore) mainOnly [.ratifier readmeUpdate, .other fetchMain, .ratifier readmeUpdate]
        "refs/heads/main" = some (.direct "b0") ∧
      ∃ call staged, Backed plainDebug readmeUpdate call staged ∧
        plainStore.write readmeUpdate mainOnly "refs/heads/rsi/p1" = some (.direct staged.commit) := by
  have commanded : ∀ line, Event.ratifier line ∈ [.ratifier readmeUpdate, .other fetchMain, .ratifier readmeUpdate] →
      Commanded plainDebug line := by
    intro line member
    have same : line = readmeUpdate := by simpa using member
    exact same ▸ commanded_readmeUpdate
  have kept := refs_kept plainDebug plainStore mainOnly _ commanded
  constructor
  next =>
    apply kept.2 "refs/heads/main" (.direct "b0") rfl
    intro change member refs held
    have same : change = fetchMain := by simpa using member
    rw [same, fetchMain, Function.update_of_ne (by decide)]
    exact held
  next =>
    have changed : plainStore.write readmeUpdate mainOnly "refs/heads/rsi/p1" ≠ mainOnly "refs/heads/rsi/p1" := by
      decide +kernel
    have created := kept.1 (mainOnly, .ratifier readmeUpdate) List.mem_cons_self readmeUpdate _ rfl changed
    obtain ⟨-, call, staged, backed, written, -⟩ := created
    exact ⟨call, staged, backed, written⟩

end Sample

end SparkRsi.Governance
