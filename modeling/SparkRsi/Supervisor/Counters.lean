import SparkRsi.Supervisor.Generation
import Mathlib.Algebra.BigOperators.Group.List.Basic
import Mathlib.Data.List.Induction
import Mathlib.Order.Lattice

set_option autoImplicit false

namespace SparkRsi.Supervisor

structure CanaryReport where
  success : Bool
  latencyUs : UInt64
  memory : UInt32 → Except String UInt64

section Runs

variable (supervisor : HostSupervisor) (maxLatencyUs : UInt64) (errorBudget : ErrorBudget)

def recordReport (genInfo : GenerationInfo) (report : CanaryReport) : GenerationInfo :=
  (supervisor.recordCanaryTransaction report.memory genInfo report.success report.latencyUs maxLatencyUs errorBudget).2

def recordReports (genInfo : GenerationInfo) (reports : List CanaryReport) : GenerationInfo :=
  reports.foldl (recordReport supervisor maxLatencyUs errorBudget) genInfo

end Runs

def failures (reports : List CanaryReport) : Nat := reports.countP fun r => !r.success

def latencySum (reports : List CanaryReport) : Nat := (reports.map fun r => r.latencyUs.toNat).sum

def largestLatency (reports : List CanaryReport) : Nat := (reports.map fun r => r.latencyUs.toNat).foldr max 0

def Overflows (genInfo : GenerationInfo) (report : CanaryReport) : Prop :=
  2 ^ 64 ≤ genInfo.canaryTransactions.toNat + 1 ∨
    (report.success = false ∧ 2 ^ 64 ≤ genInfo.canaryErrors.toNat + 1) ∨
    2 ^ 64 ≤ genInfo.totalLatencyUs.toNat + report.latencyUs.toNat

structure Counted (reports : List CanaryReport) (genInfo : GenerationInfo) : Prop where
  transactions : genInfo.canaryTransactions.toNat = reports.length
  errors : genInfo.canaryErrors.toNat = failures reports
  largest : genInfo.maxLatencyUs.toNat = largestLatency reports
  total : genInfo.totalLatencyUs.toNat = latencySum reports

section Sums

variable (reports : List CanaryReport) (report : CanaryReport)

theorem failures_concat :
    failures (reports ++ [report]) = failures reports + if report.success then 0 else 1 := by
  rw [failures, List.countP_append, List.countP_singleton]
  cases report.success <;> rfl

theorem latencySum_append (more : List CanaryReport) :
    latencySum (reports ++ more) = latencySum reports + latencySum more := by
  rw [latencySum, List.map_append, List.sum_append]
  rfl

theorem latencySum_concat :
    latencySum (reports ++ [report]) = latencySum reports + report.latencyUs.toNat := by
  rw [latencySum_append]
  simp [latencySum]

theorem largestLatency_concat :
    largestLatency (reports ++ [report]) = max (largestLatency reports) report.latencyUs.toNat := by
  have general (xs : List Nat) (x : Nat) : (xs ++ [x]).foldr max 0 = max (xs.foldr max 0) x := by
    induction xs with
    | nil => simp
    | cons y rest ih => rw [List.cons_append, List.foldr_cons, List.foldr_cons, ih, max_assoc]
  rw [largestLatency, List.map_append]
  exact general _ _

theorem failures_le : failures reports ≤ reports.length := List.countP_le_length

end Sums

theorem toNat_add_exact {a b : UInt64} (fits : a.toNat + b.toNat < 2 ^ 64) :
    (a + b).toNat = a.toNat + b.toNat := by
  rw [UInt64.toNat_add, Nat.mod_eq_of_lt fits]

section Steps

variable {supervisor : HostSupervisor} {maxLatencyUs : UInt64} {errorBudget : ErrorBudget}
  {genInfo : GenerationInfo} {reports : List CanaryReport} {report : CanaryReport}

-- Whatever budget is broken, the counters are those of the counted report.
theorem recordReport_counters : ∃ state, recordReport supervisor maxLatencyUs errorBudget genInfo report =
    { HostSupervisor.countTransaction genInfo report.success report.latencyUs with state } := by
  rw [recordReport, HostSupervisor.recordCanaryTransaction]
  simp only
  split
  next => exact ⟨.reverting, rfl⟩
  next => exact ⟨.canaryActive, rfl⟩

theorem recordReports_concat :
    recordReports supervisor maxLatencyUs errorBudget genInfo (reports ++ [report]) =
    recordReport supervisor maxLatencyUs errorBudget (recordReports supervisor maxLatencyUs errorBudget genInfo reports)
      report := by
  rw [recordReports, List.foldl_concat]
  rfl

theorem Counted.step (counted : Counted reports genInfo) (fits : ¬Overflows genInfo report) :
    Counted (reports ++ [report]) (recordReport supervisor maxLatencyUs errorBudget genInfo report) := by
  obtain ⟨state, shape⟩ := @recordReport_counters supervisor maxLatencyUs errorBudget genInfo report
  simp only [Overflows, not_or, not_le, not_and] at fits
  rw [shape]
  constructor
  case transactions =>
    rw [List.length_append, List.length_singleton, ← counted.transactions]
    exact toNat_add_exact (by simpa using fits.1)
  case errors =>
    rw [failures_concat, ← counted.errors]
    simp only [HostSupervisor.countTransaction]
    cases failed : report.success with
    | true => rfl
    | false => exact toNat_add_exact (by simpa using fits.2.1 failed)
  case largest =>
    rw [largestLatency_concat, ← counted.largest]
    simp only [HostSupervisor.countTransaction]
    split
    next larger => exact (max_eq_right (UInt64.le_iff_toNat_le.mp (UInt64.le_of_lt larger))).symm
    next smaller => exact (max_eq_left (UInt64.le_iff_toNat_le.mp (UInt64.not_lt.mp smaller))).symm
  case total =>
    rw [latencySum_concat, ← counted.total]
    exact toNat_add_exact fits.2.2

end Steps

section Whole

variable (supervisor : HostSupervisor) (maxLatencyUs : UInt64) (errorBudget : ErrorBudget)

structure Fresh (genInfo : GenerationInfo) : Prop where
  transactions : genInfo.canaryTransactions = 0
  errors : genInfo.canaryErrors = 0
  largest : genInfo.maxLatencyUs = 0
  total : genInfo.totalLatencyUs = 0

/-- No step of the run overflows, each computes its error rate over at least one transaction, and in the end
the counters say what was reported. -/
structure CountsExactly (start : GenerationInfo) (reports : List CanaryReport) : Prop where
  steps : ∀ before report after, reports = before ++ report :: after →
    ¬Overflows (recordReports supervisor maxLatencyUs errorBudget start before) report ∧
      (recordReports supervisor maxLatencyUs errorBudget start (before ++ [report])).canaryTransactions ≠ 0
  counted : Counted reports (recordReports supervisor maxLatencyUs errorBudget start reports)
  bounded : (recordReports supervisor maxLatencyUs errorBudget start reports).canaryErrors ≤
    (recordReports supervisor maxLatencyUs errorBudget start reports).canaryTransactions

variable {supervisor maxLatencyUs errorBudget} {start : GenerationInfo} {reports : List CanaryReport}

theorem Fresh.counted (fresh : Fresh start) : Counted [] start where
  transactions := by rw [fresh.transactions]; rfl
  errors := by rw [fresh.errors]; rfl
  largest := by rw [fresh.largest]; rfl
  total := by rw [fresh.total]; rfl

-- Where the next report still fits the sums, no counter overflows.
theorem Counted.fits {genInfo : GenerationInfo} {report : CanaryReport} (counted : Counted reports genInfo)
    (few : reports.length + 1 < 2 ^ 64) (small : latencySum reports + report.latencyUs.toNat < 2 ^ 64) :
    ¬Overflows genInfo report := by
  have errors := failures_le reports
  rw [Overflows, counted.transactions, counted.errors, counted.total]
  omega

theorem recordReports_counted (fresh : Fresh start) (few : reports.length < 2 ^ 64)
    (small : latencySum reports < 2 ^ 64) :
    Counted reports (recordReports supervisor maxLatencyUs errorBudget start reports) := by
  induction reports using List.reverseRecOn with
  | nil => exact fresh.counted
  | append_singleton before report ih =>
    rw [List.length_append, List.length_singleton] at few
    rw [latencySum_concat] at small
    rw [recordReports_concat]
    have counted := ih (by omega) (by omega)
    exact counted.step (counted.fits few small)

/-- The counters of a staged generation are exact over a run where the reports and the sum of their
latencies each fit a 64-bit number, and over no other. -/
theorem countsExactly_iff (fresh : Fresh start) :
    CountsExactly supervisor maxLatencyUs errorBudget start reports ↔
    reports.length < 2 ^ 64 ∧ latencySum reports < 2 ^ 64 := by
  constructor
  · intro exactly
    rw [← exactly.counted.transactions, ← exactly.counted.total]
    exact ⟨UInt64.toNat_lt _, UInt64.toNat_lt _⟩
  · rintro ⟨few, small⟩
    have counted := @recordReports_counted supervisor maxLatencyUs errorBudget start reports fresh few small
    constructor
    case counted => exact counted
    case bounded =>
      rw [UInt64.le_iff_toNat_le, counted.errors, counted.transactions]
      exact failures_le reports
    case steps =>
      rintro before report after rfl
      rw [List.length_append, List.length_cons] at few
      have split : before ++ report :: after = before ++ [report] ++ after := by simp
      rw [split, latencySum_append, latencySum_concat] at small
      have soFar := @recordReports_counted supervisor maxLatencyUs errorBudget start before fresh (by omega) (by omega)
      have fits := @Counted.fits _ _ report soFar (by omega) (by omega)
      constructor
      · exact fits
      · intro none
        have next := @Counted.step supervisor maxLatencyUs errorBudget _ _ _ soFar fits
        rw [← recordReports_concat] at next
        have length := next.transactions
        rw [none, List.length_append, List.length_singleton] at length
        cases length

end Whole

section Sample

def freshGeneration : GenerationInfo where
  generationId := "gen-002"
  installedPath := "/generations/gen-002"
  manifestDigest := ""
  state := .staged
  pid := none
  socketPath := none
  canaryTransactions := 0
  canaryErrors := 0
  maxLatencyUs := 0
  totalLatencyUs := 0
  stagedTimestamp := ""

def plainReport (latencyUs : UInt64) : CanaryReport := ⟨true, latencyUs, fun _ => .ok 0⟩

def lenient : ErrorBudget := ⟨fun _ _ => false, fun _ _ => ""⟩

theorem countsExactly_iff_sample : CountsExactly ⟨"active", "generations", 512⟩ 0 lenient freshGeneration
    [plainReport 1500, plainReport 0xffffffffffff0000] :=
  (countsExactly_iff ⟨rfl, rfl, rfl, rfl⟩).mpr (by decide)

theorem total_wraps :
    (recordReports ⟨"active", "generations", 512⟩ 0 lenient freshGeneration
        [plainReport 0x8000000000000000, plainReport 0x8000000000000000]).totalLatencyUs = 0 ∧
      ¬CountsExactly ⟨"active", "generations", 512⟩ 0 lenient freshGeneration
        [plainReport 0x8000000000000000, plainReport 0x8000000000000000] := by
  constructor
  · decide
  · intro exactly
    have total := exactly.counted.total
    revert total
    decide

end Sample

end SparkRsi.Supervisor
