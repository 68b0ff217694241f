import SparkRsi.Governance.Ratify

set_option autoImplicit false

namespace SparkRsi.Governance

open Shared Dialogue

def said (line : Invocation) (output : Output) : (action : Action) × Answer action := ⟨.git line, output⟩

theorem said_inj {line : Invocation} {first second : Output} : said line first = said line second ↔ first = second := by
  constructor
  next =>
    intro same
    cases same
    rfl
  next => exact congrArg (said line)

def Invocation.writesRef (line : Invocation) : Prop := line.args[4]? = some "update-ref"

def Invocation.writesIndex (line : Invocation) : Prop :=
  line.args[4]? ∈ [some "read-tree", some "update-index", some "write-tree"]

def Quiet : (action : Action) × Answer action → Prop
  | ⟨.git line, _⟩ => ¬line.writesRef
  | ⟨.tempDir, _⟩ => True
  | _ => False

section Lines

variable {repo : String} {Allowed : (action : Action) × Answer action → Prop}

theorem writesRef_invocation {command : GitCommand} :
    (invocation repo command).writesRef ↔ ∃ message name new old, command = .updateRef message name new old := by
  cases command <;> simp [Invocation.writesRef, Invocation.args, invocation, GitCommand.args]

theorem only_run {line : Invocation} {what : String} (allowed : ∀ output, Allowed (said line output)) :
    (run line what).Only Allowed := by
  have asked : (askGit line).Only Allowed := @only_ask _ Answer _ _ (.git line) allowed
  exact asked.bind fun _ => only_ofExcept

theorem only_inspectPrefix (debug : Debug) (base : String) (parts : List (List Char)) (mode : String) (i : Nat)
    (listed : ∀ path output, Allowed (said (invocation repo (.lsTree base path)) output)) :
    (inspectPrefix debug repo base parts mode i).Only Allowed := by
  refine (only_run (listed _)).bind fun listing => ?_
  split
  next => exact only_pure
  next =>
    dsimp only
    split
    next => exact only_ofExcept
    next => exact only_pure

def GitCommand.Builds (index : String) : GitCommand → Prop
  | .readTree own _ | .updateIndex own _ _ _ | .writeTree own => own = index
  | .updateRef _ _ _ _ => False
  | _ => True

theorem only_commitThrough {index : String} (base mode targetPath : String) (contents : Bytes) (author : Operator)
    (message : String)
    (built : ∀ command output, GitCommand.Builds index command → Allowed (said (invocation repo command) output)) :
    (commitThrough repo index base mode targetPath contents author message).Only Allowed := by
  have hashed : (askGit (invocation repo (.hashObject contents))).Only Allowed :=
    @only_ask _ Answer _ _ (.git _) fun output => built (.hashObject contents) output trivial
  refine (only_run fun output => built (.readTree index base) output rfl).bind fun _ => ?_
  refine hashed.bind fun output => only_ofExcept.bind fun blob => ?_
  refine (only_run fun output => built (.updateIndex index mode blob targetPath) output rfl).bind fun _ => ?_
  refine (only_run fun output => built (.writeTree index) output rfl).bind fun tree => ?_
  exact only_run fun output => built (.commitTree author tree base message) output trivial

theorem not_writesRef_of_builds {index : String} {command : GitCommand} (builds : command.Builds index) :
    ¬(invocation repo command).writesRef := by
  rw [writesRef_invocation]
  rintro ⟨message, name, new, old, rfl⟩
  exact builds

theorem env_of_builds {index : String} {command : GitCommand} (builds : command.Builds index)
    (writes : (invocation repo command).writesIndex) : command.env = [("GIT_INDEX_FILE", index)] := by
  cases command <;>
    simp_all [Invocation.writesIndex, Invocation.args, invocation, GitCommand.args, GitCommand.env, GitCommand.Builds]

end Lines

def OwnIndex (asked : Transcript Answer) : Prop :=
  ∀ exchange ∈ asked, ∀ line, exchange.1 = .git line → line.writesIndex →
    ∃ directory, ⟨.tempDir, (.ok directory : Except String String)⟩ ∈ asked ∧
      line.command.env = [("GIT_INDEX_FILE", Supervisor.joinPath directory "index")]

theorem ownIndex_append {first second : Transcript Answer} (here : OwnIndex first) (later : OwnIndex second) :
    OwnIndex (first ++ second) := by
  intro exchange member line git writes
  cases List.mem_append.mp member with
  | inl before =>
    obtain ⟨directory, made, env⟩ := here exchange before line git writes
    exact ⟨directory, List.mem_append_left second made, env⟩
  | inr behind =>
    obtain ⟨directory, made, env⟩ := later exchange behind line git writes
    exact ⟨directory, List.mem_append_right first made, env⟩

structure Aside (asked : Transcript Answer) : Prop where
  quiet : ∀ exchange ∈ asked, Quiet exchange
  ownIndex : OwnIndex asked

def Plain (exchange : (action : Action) × Answer action) : Prop :=
  Quiet exchange ∧ ∀ line, exchange.1 = .git line → ¬line.writesIndex

theorem aside_of_plain {asked : Transcript Answer} (plain : ∀ exchange ∈ asked, Plain exchange) : Aside asked := by
  constructor
  case quiet => exact fun exchange member => (plain exchange member).1
  case ownIndex => exact fun exchange member line git writes => absurd writes ((plain exchange member).2 line git)

theorem aside_append (first second : Transcript Answer) (here : Aside first) (later : Aside second) :
    Aside (first ++ second) :=
  ⟨List.forall_mem_append.mpr ⟨here.quiet, later.quiet⟩, ownIndex_append here.ownIndex later.ownIndex⟩

theorem plain_said {repo : String} {command : GitCommand} (env : command.env = [])
    (reads : ¬(invocation repo command).writesRef) (output : Output) : Plain (said (invocation repo command) output) := by
  refine ⟨reads, ?_⟩
  rintro _ ⟨⟩
  cases command <;> simp_all [Invocation.writesIndex, Invocation.args, invocation, GitCommand.args, GitCommand.env]

theorem candidateCommit_meets (debug : Debug) (repo targetPath : String) (contents : Bytes) (author : Operator)
    (message : String) :
    (candidateCommit debug repo targetPath contents author message).Meets fun _ asked => Aside asked := by
  have aside {α : Type} {program : Talk α} (plain : program.Only Plain) : program.Meets fun _ asked => Aside asked :=
    plain.weaken fun _ _ here => aside_of_plain here
  refine (aside (only_run (plain_said rfl (by simp [writesRef_invocation])))).bind_closed aside_append fun base => ?_
  refine (aside only_ofExcept).bind_closed aside_append fun _ => ?_
  have inspected (mode : String) (i : Nat) : (inspectPrefix debug repo base (components targetPath) mode i).Only Plain :=
    only_inspectPrefix debug base _ mode i fun path => plain_said rfl (by simp [writesRef_invocation])
  refine (aside (only_foldlM inspected _ _)).bind_closed aside_append fun mode => ?_
  refine @meets_ask_bind _ Answer _ _ .tempDir _ _ fun made => meets_ofExcept_bind ?_ ?_
  next => exact fun e failed => aside_of_plain (by simp [Plain, Quiet])
  next =>
    intro directory named
    have held : made = (.ok directory : Except String String) := mapError_eq_ok.mp named
    subst held
    -- The index stands in the directory that was just made.
    let index := Supervisor.joinPath directory "index"
    have through : (commitThrough repo index base mode targetPath contents author message).Only fun exchange =>
        Quiet exchange ∧ ∀ line, exchange.1 = .git line → line.writesIndex →
          line.command.env = [("GIT_INDEX_FILE", index)] := by
      apply only_commitThrough
      intro command output builds
      refine ⟨not_writesRef_of_builds builds, ?_⟩
      rintro _ ⟨⟩ writes
      exact env_of_builds builds writes
    refine (through.bind fun commit => only_pure).weaken fun _ asked only => ?_
    constructor
    case quiet =>
      rw [List.forall_mem_cons]
      exact ⟨trivial, fun exchange member => (only exchange member).1⟩
    case ownIndex =>
      intro exchange member line git writes
      cases List.mem_cons.mp member with
      | inl first =>
        rw [first] at git
        cases git
      | inr later => exact ⟨directory, List.mem_cons_self, (only exchange later).2 line git writes⟩

section Contracts

variable (debug : Debug) (repo : String)

def Reviewed (staged : StagedCandidate) (asked : Transcript Answer) : Prop :=
  ∃ listed shown, said (invocation repo (.diffTree staged.base staged.commit)) listed ∈ asked ∧
    readDiff debug listed = .ok staged.entries ∧
    said (invocation repo (.diff staged.base staged.commit)) shown ∈ asked ∧
    readOutput "git diff" shown = .ok staged.patchText

def NoDefault (branch : String) (asked : Transcript Answer) : Prop :=
  ∃ current origin initial, said (invocation repo (.symbolicRef "HEAD")) current ∈ asked ∧
    said (invocation repo (.symbolicRef "refs/remotes/origin/HEAD")) origin ∈ asked ∧
    said (invocation repo (.configGet "init.defaultBranch")) initial ∈ asked ∧
    branch ∉ defaultNames current origin initial

variable {debug repo}

theorem Reviewed.mono {staged : StagedCandidate} {asked more : Transcript Answer} (within : asked ⊆ more)
    (reviewed : Reviewed debug repo staged asked) : Reviewed debug repo staged more := by
  obtain ⟨listed, shown, first, entries, second, patch⟩ := reviewed
  exact ⟨listed, shown, within first, entries, within second, patch⟩

theorem NoDefault.mono {branch : String} {asked more : Transcript Answer} (within : asked ⊆ more)
    (free : NoDefault repo branch asked) : NoDefault repo branch more := by
  obtain ⟨current, origin, initial, first, second, third, other⟩ := free
  exact ⟨current, origin, initial, within first, within second, within third, other⟩

theorem run_meets (line : Invocation) (what : String) :
    (run line what).Meets fun result asked => ∃ output, asked = [said line output] ∧ result = readOutput what output :=
  @meets_reply _ Answer _ _ (.git line) (readOutput what)

theorem realDiff_meets (base commit : String) :
    (realDiff debug repo base commit).Meets fun result asked =>
      ∃ listed, asked = [said (invocation repo (.diffTree base commit)) listed] ∧ result = readDiff debug listed :=
  @meets_reply _ Answer _ _ (.git _) (readDiff debug)

theorem readCandidate_meets (base commit : String) :
    (readCandidate debug repo base commit).Meets fun result asked =>
      Aside asked ∧ ∀ staged, result = .ok staged → Reviewed debug repo staged asked := by
  have listedPlain := @plain_said repo (.diffTree base commit) rfl (by simp [writesRef_invocation])
  have shownPlain := @plain_said repo (.diff base commit) rfl (by simp [writesRef_invocation])
  refine (realDiff_meets base commit).bind (fun entries => (run_meets _ _).thenPure
    fun patchText => ({ base, commit, entries, patchText } : StagedCandidate)) ?_ ?_
  next =>
    rintro e _ ⟨listed, rfl, -⟩
    exact ⟨aside_of_plain (List.forall_mem_singleton.mpr (listedPlain listed)), nofun⟩
  next =>
    rintro entries _ _ _ ⟨listed, rfl, read⟩ ⟨_, ⟨shown, rfl, rfl⟩, rfl⟩
    constructor
    next =>
      apply aside_of_plain
      rw [List.forall_mem_append, List.forall_mem_singleton, List.forall_mem_singleton]
      exact ⟨listedPlain listed, shownPlain shown⟩
    next =>
      intro staged built
      cases text : readOutput "git diff" shown with
      | error e =>
        rw [text] at built
        cases built
      | ok patchText =>
        rw [text] at built
        cases built
        exact ⟨listed, shown, by simp, read.symm, by simp, text⟩

theorem stageCandidateCommit_meets (targetPath : String) (contents : Bytes) (author : Operator) (message : String) :
    (stageCandidateCommit debug repo targetPath contents author message).Meets fun result asked =>
      Aside asked ∧ ∀ staged, result = .ok staged → Reviewed debug repo staged asked := by
  refine (candidateCommit_meets debug repo targetPath contents author message).bind
    (fun built => readCandidate_meets built.1 built.2) ?_ ?_
  next =>
    intro e asked aside
    exact ⟨aside, nofun⟩
  next =>
    intro built result first second aside later
    refine ⟨aside_append first second aside later.1, fun staged read => ?_⟩
    exact (later.2 staged read).mono (List.subset_append_right first second)

theorem defaultBranchNames_meets :
    (defaultBranchNames repo).Meets fun result asked => (∀ exchange ∈ asked, Plain exchange) ∧
      ∃ names, result = .ok names ∧ ∀ branch ∉ names, NoDefault repo branch asked := by
  intro answer heard
  refine ⟨?_, _, rfl, fun branch other => ⟨_, _, _, ?_, ?_, ?_, other⟩⟩
  next =>
    change ∀ exchange ∈ [said _ _, said _ _, said _ _], Plain exchange
    rw [List.forall_mem_cons, List.forall_mem_cons, List.forall_mem_singleton]
    refine ⟨plain_said rfl ?_ _, plain_said rfl ?_ _, plain_said rfl ?_ _⟩ <;> simp [writesRef_invocation]
  next => exact List.mem_cons_self
  next => exact List.mem_cons_of_mem _ List.mem_cons_self
  next => exact List.mem_cons_of_mem _ (List.mem_cons_of_mem _ List.mem_cons_self)

def reviewUpdate (repo short commit : String) : Invocation :=
  invocation repo (.updateRef "rsi: review branch" s!"refs/heads/{short}" commit "")

def Wrote (line : Invocation) (asked : Transcript Answer) : Prop :=
  ∃ stdout stderr, said line (.ended true stdout stderr) ∈ asked

theorem reviewUpdate_writesRef (short commit : String) : (reviewUpdate repo short commit).writesRef :=
  writesRef_invocation.mpr ⟨_, _, _, _, rfl⟩

theorem not_wrote_of_quiet {line : Invocation} {asked : Transcript Answer} (writes : line.writesRef)
    (quiet : ∀ exchange ∈ asked, Quiet exchange) : ¬Wrote line asked := by
  rintro ⟨stdout, stderr, member⟩
  exact quiet _ member writes

theorem wrote_append {line : Invocation} {first second : Transcript Answer} :
    Wrote line (first ++ second) ↔ Wrote line first ∨ Wrote line second := by
  simp only [Wrote, List.mem_append, exists_or]

/-- What is not plain writes a ref as allowed, and the first of it stands behind plain exchanges only. -/
def Writes (Allowed : Transcript Answer → Invocation → Prop) (asked : Transcript Answer) : Prop :=
  Each (fun before exchange => ¬Plain exchange → (∀ other ∈ before, Plain other) ∧
    ∃ line, exchange.1 = .git line ∧ ¬line.writesIndex ∧ Allowed before line) asked

section Written

variable {Allowed : Transcript Answer → Invocation → Prop} {first second : Transcript Answer}

theorem writes_of_plain (plain : ∀ exchange ∈ first, Plain exchange) : Writes Allowed first :=
  each_of_forall fun exchange member _ loud => absurd (plain exchange member) loud

theorem Writes.imp {Also : Transcript Answer → Invocation → Prop} (writes : Writes Allowed first)
    (implied : ∀ before line, Allowed before line → Also before line) : Writes Also first := by
  intro before exchange after split loud
  obtain ⟨plain, line, asked, apart, allowed⟩ := writes before exchange after split loud
  exact ⟨plain, line, asked, apart, implied before line allowed⟩

theorem Writes.behind_plain {Later : Transcript Answer → Invocation → Prop} (writes : Writes Later second)
    (plain : ∀ exchange ∈ first, Plain exchange)
    (allowed : ∀ before line, Later before line → Allowed (first ++ before) line) : Writes Allowed (first ++ second) := by
  apply each_append (writes_of_plain plain)
  intro before exchange after split loud
  obtain ⟨others, line, asked, apart, later⟩ := writes before exchange after split loud
  exact ⟨List.forall_mem_append.mpr ⟨plain, others⟩, line, asked, apart, allowed before line later⟩

end Written

theorem quiet_of_plain {asked : Transcript Answer} (plain : ∀ exchange ∈ asked, Plain exchange) :
    ∀ exchange ∈ asked, Quiet exchange := fun exchange member => (plain exchange member).1

theorem reviewUpdate_not_writesIndex (short commit : String) : ¬(reviewUpdate repo short commit).writesIndex := by
  simp [Invocation.writesIndex, Invocation.args, reviewUpdate, invocation, GitCommand.args]

theorem writeReviewBranch_meets (short commit : String) :
    (writeReviewBranch repo short commit).Meets fun result asked =>
      Writes (fun _ line => line = reviewUpdate repo short commit) asked ∧
      (result = .ok () ↔ Wrote (reviewUpdate repo short commit) asked) := by
  have loud := @reviewUpdate_writesRef repo short commit
  have checked : (run (invocation repo (.checkRefFormat s!"refs/heads/{short}")) "check branch name").Only Plain :=
    only_run (plain_said rfl (by simp [writesRef_invocation]))
  refine Meets.bind checked (fun _ => (run_meets (reviewUpdate repo short commit) _).thenPure fun _ => ()) ?_ ?_
  next =>
    intro e asked plain
    exact ⟨writes_of_plain plain, iff_of_false nofun (not_wrote_of_quiet loud (quiet_of_plain plain))⟩
  next =>
    rintro _ _ first _ plain ⟨_, ⟨output, rfl, rfl⟩, rfl⟩
    constructor
    next =>
      have single : Writes (fun _ line => line = reviewUpdate repo short commit)
          [said (reviewUpdate repo short commit) output] :=
        each_singleton fun _ => ⟨by simp, _, rfl, reviewUpdate_not_writesIndex short commit, rfl⟩
      exact single.behind_plain plain fun _ _ same => same
    next =>
      rw [wrote_append, or_iff_right (not_wrote_of_quiet loud (quiet_of_plain plain))]
      simp only [Wrote, List.mem_singleton, said_inj]
      cases output with
      | failed error => simp [readOutput, Except.map]
      | unwritten error => simp [readOutput, Except.map]
      | ended success stdout stderr => cases success <;> simp [readOutput, Except.map]

theorem createReviewBranch_meets (branch commit : String) :
    let short := String.ofList (trimStartMatches "refs/heads/".toList branch.toList)
    (createReviewBranch debug repo branch commit).Meets fun result asked =>
      Writes (fun before line => line = reviewUpdate repo short commit ∧ NoDefault repo short before) asked ∧
      (result = .ok () ↔ Wrote (reviewUpdate repo short commit) asked) := by
  intro short
  have named (names : List String) : (if short ∈ names then
        refuse s!"refusing to write default branch {debug.text short}"
        else writeReviewBranch repo short commit : Talk Unit).Meets fun result asked =>
      Writes (fun _ line => line = reviewUpdate repo short commit ∧ short ∉ names) asked ∧
      (result = .ok () ↔ Wrote (reviewUpdate repo short commit) asked) := by
    split
    next => exact meets_ofExcept ⟨writes_of_plain (by simp), by simp [Wrote]⟩
    next other =>
      refine (writeReviewBranch_meets short commit).weaken fun result asked holds => ⟨?_, holds.2⟩
      exact holds.1.imp fun before line same => ⟨same, other⟩
  refine defaultBranchNames_meets.bind named ?_ ?_
  next =>
    rintro e asked ⟨-, names, read, -⟩
    cases read
  next =>
    rintro _ result first second ⟨plain, names, ⟨⟩, free⟩ ⟨writes, wrote⟩
    constructor
    next =>
      apply writes.behind_plain plain
      intro before line here
      exact ⟨here.1, (free short here.2).mono (List.subset_append_left first before)⟩
    next =>
      have unwritten := not_wrote_of_quiet (@reviewUpdate_writesRef repo short commit) (quiet_of_plain plain)
      rw [wrote_append, or_iff_right unwritten, wrote]

end Contracts

end SparkRsi.Governance
