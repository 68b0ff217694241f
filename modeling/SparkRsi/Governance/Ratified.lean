import SparkRsi.Governance.ReviewBranches

set_option autoImplicit false

namespace SparkRsi.Governance

open Shared Dialogue

variable {debug : Debug}

theorem meets_run_bind {β : Type} {line : Invocation} {what : String} {next : String → Talk β}
    {Whole : Except String β → Transcript Answer → Prop}
    (refused : ∀ output e, readOutput what output = .error e → Whole (.error e) [said line output])
    (goes : ∀ output text, readOutput what output = .ok text →
      (next text).Meets fun result asked => Whole result (said line output :: asked)) :
    (run line what >>= next).Meets Whole := by
  rw [run, bind_assoc]
  exact @meets_ask_bind _ Answer _ _ (.git line) _ _ fun output => meets_ofExcept_bind (refused output) (goes output)

def Told (asked : Transcript Answer) : Prop := ∃ exchange ∈ asked, ∃ lesson, exchange.1 = .recordCortexLesson lesson

def Filed (call : Call) (commit : String) (asked : Transcript Answer) : Prop :=
  ∃ output patch, said (invocation call.targetRepo (.formatPatch commit)) output ∈ asked ∧
    readOutput "format patch" output = .ok patch ∧
    ⟨.write (Supervisor.joinPath call.patchDir s!"{call.proposal.id}.patch") s!"{patch}\n", .ok ()⟩ ∈ asked

structure Published (call : Call) (commit branch : String) (result : Except String RatificationRecord)
    (asked : Transcript Answer) : Prop where
  reads : ∀ exchange ∈ asked, ∀ line, exchange.1 = .git line → ¬line.writesRef ∧ ¬line.writesIndex
  failed : ∀ e, result = .error e → ¬Told asked
  returned : ∀ record, result = .ok record → record.status = "ProposedForReview" ∧ record.commitHash = some commit ∧
    record.branch = some branch ∧ Filed call commit asked ∧ Told asked

theorem publish_meets (call : Call) (staged : StagedCandidate) (branch : String) :
    (publish debug call staged branch).Meets (Published call staged.commit branch) := by
  have reads : ¬(invocation call.targetRepo (.formatPatch staged.commit)).writesRef ∧
      ¬(invocation call.targetRepo (.formatPatch staged.commit)).writesIndex := by
    constructor <;> simp [Invocation.writesRef, Invocation.writesIndex, Invocation.args, invocation, GitCommand.args]
  refine meets_run_bind ?_ ?_
  next =>
    intro output e refused
    constructor
    case reads => simp [said, reads]
    case failed => simp [Told, said]
    case returned => simp
  next =>
    intro output patch formatted
    refine @meets_ask_bind _ Answer _ _ (.createDirAll _) _ _ fun made => meets_ofExcept_bind ?_ ?_
    next =>
      intro e failed
      constructor
      case reads => simp [said, reads]
      case failed => simp [Told, said]
      case returned => simp
    next =>
      intro _ done
      refine @meets_ask_bind _ Answer _ _ (.write _ _) _ _ fun written => meets_ofExcept_bind ?_ ?_
      next =>
        intro e failed
        constructor
        case reads => simp [said, reads]
        case failed => simp [Told, said]
        case returned => simp
      next =>
        intro _ filed
        refine @meets_ask_bind _ Answer _ _ (.recordCortexLesson _) _ _ fun lesson => meets_pure ?_
        constructor
        case reads => simp [said, reads]
        case failed => simp
        case returned =>
          rintro record ⟨⟩
          have held : written = (.ok () : Except String Unit) := mapError_eq_ok.mp filed
          subst held
          exact ⟨rfl, rfl, rfl, ⟨output, patch, by simp, formatted, by simp⟩,
            ⟨.recordCortexLesson _, lesson⟩, by simp, _, rfl⟩

def reviewBranch (call : Call) : String := s!"rsi/{call.proposal.id}"

/-- How a ratification ends. Refs are written as allowed, behind quiet exchanges only, and indexes on the side; the
result says what was done, and an error means a branch without a record. -/
structure Ratified (call : Call) (Allowed : Transcript Answer → Invocation → Prop)
    (result : Except String RatificationRecord) (asked : Transcript Answer) : Prop where
  writes : Each (fun before exchange => ∀ line, exchange.1 = .git line → line.writesRef →
    (∀ other ∈ before, Quiet other) ∧ Allowed before line) asked
  ownIndex : OwnIndex asked
  failed : ∀ e, result = .error e → ¬Told asked ∧
    ∃ commit, Wrote (reviewUpdate call.targetRepo (reviewBranch call) commit) asked
  returned : ∀ record, result = .ok record →
    record.status = "Rejected" ∧ record.commitHash = none ∧ ¬Told asked ∧
        (∀ line, line.writesRef → ¬Wrote line asked) ∨
      record.status = "ProposedForReview" ∧ record.branch = some (reviewBranch call) ∧ Told asked ∧
        ∃ commit, record.commitHash = some commit ∧
          Wrote (reviewUpdate call.targetRepo (reviewBranch call) commit) asked ∧ Filed call commit asked

section Endings

variable {call : Call} {Allowed : Transcript Answer → Invocation → Prop} {first second : Transcript Answer}
  {result : Except String RatificationRecord}

theorem told_append : Told (first ++ second) ↔ Told first ∨ Told second := by
  simp only [Told, List.mem_append, or_and_right, exists_or]

theorem not_told_of_quiet (quiet : ∀ exchange ∈ first, Quiet exchange) : ¬Told first := by
  rintro ⟨⟨_, answer⟩, member, lesson, rfl⟩
  exact quiet _ member

theorem Writes.not_told (writes : Writes Allowed first) : ¬Told first := by
  rintro ⟨⟨_, answer⟩, member, lesson, rfl⟩
  obtain ⟨before, after, split⟩ := List.append_of_mem member
  obtain ⟨-, line, git, -⟩ := writes before _ after split fun plain => plain.1
  cases git

theorem Writes.wrote {line : Invocation} (writes : Writes Allowed first) (loud : line.writesRef)
    (wrote : Wrote line first) : ∃ before, Allowed before line := by
  obtain ⟨stdout, stderr, member⟩ := wrote
  obtain ⟨before, after, split⟩ := List.append_of_mem member
  obtain ⟨-, _, ⟨⟩, -, allowed⟩ := writes before _ after split fun plain => plain.1 loud
  exact ⟨before, allowed⟩

theorem Writes.each (writes : Writes Allowed first) :
    Each (fun before exchange => ∀ line, exchange.1 = .git line → line.writesRef →
      (∀ other ∈ before, Quiet other) ∧ Allowed before line) first := by
  rintro before ⟨_, answer⟩ after split line rfl loud
  obtain ⟨plain, _, ⟨⟩, -, allowed⟩ := writes before _ after split fun plain => plain.1 loud
  exact ⟨quiet_of_plain plain, allowed⟩

theorem Writes.ownIndex (writes : Writes Allowed first) : OwnIndex first := by
  rintro ⟨_, answer⟩ member line rfl index
  obtain ⟨before, after, split⟩ := List.append_of_mem member
  obtain ⟨-, _, ⟨⟩, apart, -⟩ := writes before _ after split fun plain => plain.2 line rfl index
  exact absurd index apart

theorem ratified_rejected (message : String) (writes : Writes Allowed first)
    (unwritten : ∀ line, line.writesRef → ¬Wrote line first) :
    Ratified call Allowed (.ok (rejected call message)) first := by
  constructor
  case writes => exact writes.each
  case ownIndex => exact writes.ownIndex
  case failed => nofun
  case returned =>
    rintro record ⟨⟩
    exact .inl ⟨rfl, rfl, writes.not_told, unwritten⟩

theorem ratified_nothing (message : String) : Ratified call Allowed (.ok (rejected call message)) [] :=
  ratified_rejected message (writes_of_plain (by simp)) (by simp [Wrote])

theorem Ratified.behind_aside {Later : Transcript Answer → Invocation → Prop}
    (ratified : Ratified call Later result second) (aside : Aside first)
    (allowed : ∀ before line, Later before line → Allowed (first ++ before) line) :
    Ratified call Allowed result (first ++ second) := by
  have told : Told (first ++ second) ↔ Told second := by
    rw [told_append, or_iff_right (not_told_of_quiet aside.quiet)]
  have wrote {line : Invocation} (loud : line.writesRef) : Wrote line (first ++ second) ↔ Wrote line second := by
    rw [wrote_append, or_iff_right (not_wrote_of_quiet loud aside.quiet)]
  have filed {commit : String} (filed : Filed call commit second) : Filed call commit (first ++ second) := by
    obtain ⟨output, patch, formatted, read, written⟩ := filed
    exact ⟨output, patch, List.mem_append_right first formatted, read, List.mem_append_right first written⟩
  constructor
  case writes =>
    apply each_append
    case here =>
      apply each_of_forall
      rintro ⟨_, answer⟩ member before line rfl loud
      exact absurd loud (aside.quiet _ member)
    case there =>
      intro before exchange after split line git loud
      have here := ratified.writes before exchange after split line git loud
      exact ⟨List.forall_mem_append.mpr ⟨aside.quiet, here.1⟩, allowed before line here.2⟩
  case ownIndex => exact ownIndex_append aside.ownIndex ratified.ownIndex
  case failed =>
    intro e failed
    obtain ⟨silent, commit, written⟩ := ratified.failed e failed
    exact ⟨told.not.mpr silent, commit, (wrote (reviewUpdate_writesRef _ _)).mpr written⟩
  case returned =>
    intro record returned
    cases ratified.returned record returned with
    | inl rejection =>
      refine .inl ⟨rejection.1, rejection.2.1, told.not.mpr rejection.2.2.1, fun line loud => ?_⟩
      exact (wrote loud).not.mpr (rejection.2.2.2 line loud)
    | inr proposal =>
      obtain ⟨status, branch, heard, commit, hash, written, file⟩ := proposal
      exact .inr ⟨status, branch, told.mpr heard, commit, hash, (wrote (reviewUpdate_writesRef _ _)).mpr written,
        filed file⟩

end Endings

structure Licensed (debug : Debug) (call : Call) (staged : StagedCandidate) (before : Transcript Answer) : Prop where
  passed : call.invariants.passed = true
  named : reviewBranchName debug call.proposal.id = .ok (reviewBranch call)
  reviewed : Reviewed debug call.targetRepo staged before
  clean : ∃ target, checkDeclaredTarget debug call.proposal.targetFile call.ratifyRoots = .ok target ∧
    checkRealDiff debug staged.entries staged.patchText target call.ratifyRoots = []
  free : NoDefault call.targetRepo (reviewBranch call) before

section Whole

variable {debug : Debug} {call : Call}

theorem trim_reviewBranch :
    String.ofList (trimStartMatches "refs/heads/".toList (reviewBranch call).toList) = reviewBranch call := by
  have apart : ¬"refs/heads/".toList <+: (reviewBranch call).toList := by
    change ¬_ <+: ("rsi/" ++ call.proposal.id).toList
    simp [String.toList_append]
  rw [trimStartMatches]
  cases (reviewBranch call).toList.length with
  | zero => rw [trimTimes, String.ofList_toList]
  | succ times => rw [trimTimes, if_neg apart, String.ofList_toList]

theorem reviewBranchName_eq {branch : String} (named : reviewBranchName debug call.proposal.id = .ok branch) :
    branch = reviewBranch call := by
  simp only [reviewBranchName, bind_eq_ok] at named
  obtain ⟨_, -, ⟨⟩⟩ := named
  rfl

theorem nameReviewed_meets (target : String) (staged : StagedCandidate) :
    (nameReviewed debug call target (reviewBranch call) staged).Meets (Ratified call fun before line =>
      checkRealDiff debug staged.entries staged.patchText target call.ratifyRoots = [] ∧
      NoDefault call.targetRepo (reviewBranch call) before ∧
      line = reviewUpdate call.targetRepo (reviewBranch call) staged.commit) := by
  unfold nameReviewed
  dsimp only
  split
  next => exact meets_pure (ratified_nothing _)
  next clean =>
    rw [not_not] at clean
    have created := @createReviewBranch_meets debug call.targetRepo (reviewBranch call) staged.commit
    rw [trim_reviewBranch] at created
    refine @Meets.bind _ _ _ _ _ _ _ _ (fun made result asked =>
      (∃ e message, made = .error e ∧ result = .ok (rejected call message) ∧ asked = []) ∨
        made = .ok () ∧ Published call staged.commit (reviewBranch call) result asked) _ created.attempted ?_ ?_ ?_
    next =>
      intro made
      cases made with
      | error e => exact meets_pure (.inl ⟨e, _, rfl, rfl, rfl⟩)
      | ok _ => exact (publish_meets call staged (reviewBranch call)).weaken fun _ _ published => .inr ⟨rfl, published⟩
    next =>
      rintro e asked ⟨_, ⟨⟩, -⟩
    next =>
      rintro _ result first second ⟨_, ⟨⟩, writes, wrote⟩ ending
      have allowed : Writes (fun before line =>
          checkRealDiff debug staged.entries staged.patchText target call.ratifyRoots = [] ∧
          NoDefault call.targetRepo (reviewBranch call) before ∧
          line = reviewUpdate call.targetRepo (reviewBranch call) staged.commit) first :=
        writes.imp fun before line here => ⟨clean, here.2, here.1⟩
      cases ending with
      | inl rejection =>
        obtain ⟨e, message, rfl, rfl, rfl⟩ := rejection
        rw [List.append_nil]
        apply ratified_rejected message allowed
        intro line loud written
        obtain ⟨before, here⟩ := writes.wrote loud written
        cases wrote.mpr (here.1 ▸ written)
      | inr published =>
        obtain ⟨rfl, published⟩ := published
        have wroteRef : Wrote (reviewUpdate call.targetRepo (reviewBranch call) staged.commit) (first ++ second) :=
          wrote_append.mpr (.inl (wrote.mp rfl))
        constructor
        case writes =>
          apply each_append allowed.each
          exact each_of_forall fun exchange member _ line git loud =>
            absurd loud (published.reads exchange member line git).1
        case ownIndex =>
          apply ownIndex_append allowed.ownIndex
          exact fun exchange member line git index => absurd index (published.reads exchange member line git).2
        case failed =>
          intro e failed
          rw [told_append, not_or]
          exact ⟨⟨allowed.not_told, published.failed e failed⟩, staged.commit, wroteRef⟩
        case returned =>
          intro record returned
          obtain ⟨status, hash, branch, ⟨output, patch, formatted, read, filed⟩, told⟩ := published.returned record returned
          refine .inr ⟨status, branch, told_append.mpr (.inr told), staged.commit, hash, wroteRef, ?_⟩
          exact ⟨output, patch, List.mem_append_right first formatted, read, List.mem_append_right first filed⟩

theorem ratifyProposal_meets :
    (ratifyProposal debug call).Meets (Ratified call fun before line => ∃ staged,
      Licensed debug call staged before ∧ line = reviewUpdate call.targetRepo (reviewBranch call) staged.commit) := by
  unfold ratifyProposal
  split
  next => exact meets_pure (ratified_nothing _)
  next passed =>
    split
    next => exact meets_pure (ratified_nothing _)
    next target declared =>
      split
      next => exact meets_pure (ratified_nothing _)
      next branch named =>
        obtain rfl := reviewBranchName_eq named
        refine @Meets.bind _ _ _ _ _ _ _ _ (fun made result asked =>
          (∃ message, result = .ok (rejected call message) ∧ asked = []) ∨
            ∃ staged, made = .ok staged ∧ Ratified call (fun before line =>
              checkRealDiff debug staged.entries staged.patchText target call.ratifyRoots = [] ∧
              NoDefault call.targetRepo (reviewBranch call) before ∧
              line = reviewUpdate call.targetRepo (reviewBranch call) staged.commit) result asked) _
          (stageCandidateCommit_meets target _ _ _).attempted ?_ ?_ ?_
        next =>
          intro made
          cases made with
          | error e => exact meets_pure (.inl ⟨_, rfl, rfl⟩)
          | ok staged => exact (nameReviewed_meets target staged).weaken fun _ _ ratified => .inr ⟨staged, rfl, ratified⟩
        next =>
          rintro e asked ⟨_, ⟨⟩, -⟩
        next =>
          rintro _ result first second ⟨_, ⟨⟩, aside, reviewed⟩ ending
          cases ending with
          | inl rejection =>
            obtain ⟨message, rfl, rfl⟩ := rejection
            have nothing : Ratified call (fun _ _ => False) (.ok (rejected call message)) [] := ratified_nothing message
            exact nothing.behind_aside aside fun _ _ never => never.elim
          | inr ending =>
            obtain ⟨staged, rfl, ratified⟩ := ending
            apply ratified.behind_aside aside
            rintro before line ⟨clean, free, rfl⟩
            refine ⟨staged, ?_, rfl⟩
            constructor
            case passed => simpa using passed
            case named => exact named
            case reviewed => exact (reviewed staged rfl).mono (List.subset_append_left first before)
            case clean => exact ⟨target, declared, clean⟩
            case free => exact free.mono (List.subset_append_right first before)

end Whole

/-- Whatever git answers, a rejection has written no ref and told no lesson, a proposal has created its branch, filed
the patch of its commit and told the lesson, and an error comes behind the branch and in front of the lesson. At most
one command writes a ref, and an index is written in a temporary directory only. -/
theorem ratification_tells (debug : Debug) (call : Call) (answer : Surroundings Answer) (heard : Transcript Answer) :
    let (result, asked) := ratifyProposal debug call answer heard
    (match result with
      | .error _ => ¬Told asked ∧ ∃ commit, Wrote (reviewUpdate call.targetRepo (reviewBranch call) commit) asked
      | .ok record =>
        record.status = "Rejected" ∧ record.commitHash = none ∧ ¬Told asked ∧
            (∀ line, line.writesRef → ¬Wrote line asked) ∨
          record.status = "ProposedForReview" ∧ record.branch = some (reviewBranch call) ∧ Told asked ∧
            ∃ commit, record.commitHash = some commit ∧
              Wrote (reviewUpdate call.targetRepo (reviewBranch call) commit) asked ∧ Filed call commit asked) ∧
    (∀ before line output between other reply after,
      asked = before ++ said line output :: between ++ said other reply :: after →
        line.writesRef → ¬other.writesRef) ∧
    OwnIndex asked := by
  have ratified := @ratifyProposal_meets debug call answer heard
  generalize ratifyProposal debug call answer heard = run at ratified
  obtain ⟨result, asked⟩ := run
  refine ⟨?_, ?_, ratified.ownIndex⟩
  next =>
    cases result with
    | error e => exact ratified.failed e rfl
    | ok record => exact ratified.returned record rfl
  next =>
    intro before line output between other reply after split writes again
    have quiet := (ratified.writes _ _ after split other rfl again).1
    exact quiet (said line output) (by simp) writes

end SparkRsi.Governance
