import SparkRsi.Shared.Hypergeometric
import Mathlib.Algebra.Order.Floor.Semifield
import Mathlib.Data.List.Range

set_option autoImplicit false

namespace SparkRsi.Evaluator

open Shared

/-- What a machine makes of the numbers it computes with: every result is rounded. -/
structure Machine (α : Type) [Zero α] [Preorder α] where
  round : α → α
  mono : Monotone round
  idem : ∀ x, round (round x) = round x
  zero : round 0 = 0
  ln : α → α
  exp : α → α

structure FishersExactResult (α : Type) where
  parentSuccesses : UInt64
  parentFailures : UInt64
  candidateSuccesses : UInt64
  candidateFailures : UInt64
  parentRate : α
  candidateRate : α
  pValueTwoSided : α
  pValueGreater : α
  pValueLess : α
  isSignificant : Bool

structure Contingency (α : Type) where
  a : α
  b : α
  c : α
  d : α
  r1 : α
  r2 : α
  c1 : α
  c2 : α
  n : α

structure TableSums (α : Type) where
  pTwoSided : α
  pGreater : α
  pLess : α

def usizeMax : Nat := 2 ^ 64 - 1

section Computation

variable {α : Type} [Field α] [LinearOrder α] (m : Machine α)

def add (x y : α) : α := m.round (x + y)

def sub (x y : α) : α := m.round (x - y)

def contingency (parentSuccesses parentFailures candidateSuccesses candidateFailures : UInt64) :
    Contingency α :=
  let a := m.round parentSuccesses.toNat
  let b := m.round parentFailures.toNat
  let c := m.round candidateSuccesses.toNat
  let d := m.round candidateFailures.toNat
  let r1 := add m a b
  let r2 := add m c d
  { a, b, c, d, r1, r2
    c1 := add m a c
    c2 := add m b d
    n := add m r1 r2 }

def enterLnFact (lnFact : List α) (i : Nat) : Option (List α) := do
  let before ← lnFact[i - 1]?
  if i < lnFact.length then some (lnFact.set i (add m before (m.ln (m.round i)))) else none

/-- A table as long as `n + 1` wraps to, filled from two on; a place that is not there panics. -/
def lnFactTable (n : Nat) : Option (List α) :=
  (List.range' 2 (n - 1)).foldlM (enterLnFact m) (List.replicate ((n + 1) % 2 ^ 64) 0)

variable [FloorSemiring α]

def asUsize (x : α) : Nat := min ⌊x⌋₊ usizeMax

def minK (t : Contingency α) : Nat := asUsize (max 0 (sub m (add m t.r1 t.c1) t.n))

def maxK (t : Contingency α) : Nat := asUsize (min t.r1 t.c1)

def probK (t : Contingency α) (lnFact : List α) (k : Nat) : Option α := do
  let kF := m.round k
  let row1 ← lnFact[asUsize t.r1]?
  let row2 ← lnFact[asUsize t.r2]?
  let column1 ← lnFact[asUsize t.c1]?
  let column2 ← lnFact[asUsize t.c2]?
  let total ← lnFact[asUsize t.n]?
  let cellA ← lnFact[k]?
  let cellB ← lnFact[asUsize (sub m t.r1 kF)]?
  let cellC ← lnFact[asUsize (sub m t.c1 kF)]?
  let cellD ← lnFact[asUsize (add m (sub m t.r2 t.c1) kF)]?
  let margins := add m (add m (add m row1 row2) column1) column2
  return m.exp (sub m (sub m (sub m (sub m (sub m margins total) cellA) cellB) cellC) cellD)

def addTable (t : Contingency α) (lnFact : List α) (observedK : Nat) (pObs : α) (s : TableSums α) (k : Nat) :
    Option (TableSums α) := do
  let p ← probK m t lnFact k
  let bound := m.round (pObs * add m 1 (m.round (1 / 10000000)))
  return { pTwoSided := if p ≤ bound then add m s.pTwoSided p else s.pTwoSided
           pGreater := if k ≤ observedK then add m s.pGreater p else s.pGreater
           pLess := if observedK ≤ k then add m s.pLess p else s.pLess }

def enumerated (t : Contingency α) : List Nat := List.range' (minK m t) (maxK t + 1 - minK m t)

def tableSums (t : Contingency α) (lnFact : List α) (pObs : α) : Option (TableSums α) :=
  (enumerated m t).foldlM (addTable m t lnFact (asUsize t.a) pObs) { pTwoSided := 0, pGreater := 0, pLess := 0 }

/-- `none` is a panic on an index out of range. -/
def fishersExactTest (parentSuccesses parentFailures candidateSuccesses candidateFailures : UInt64) :
    Option (Except String (FishersExactResult α)) := do
  let t := contingency m parentSuccesses parentFailures candidateSuccesses candidateFailures
  if t.n = 0 then return .error "Total observations in contingency table cannot be zero"
  else
    let lnFact ← lnFactTable m (asUsize t.n)
    let pObs ← probK m t lnFact (asUsize t.a)
    let sums ← tableSums m t lnFact pObs
    let pValueTwoSided := min sums.pTwoSided 1
    return .ok
      { parentSuccesses, parentFailures, candidateSuccesses, candidateFailures
        parentRate := if 0 < t.r1 then m.round (t.a / t.r1) else 0
        candidateRate := if 0 < t.r2 then m.round (t.c / t.r2) else 0
        pValueTwoSided
        pValueGreater := min sums.pGreater 1
        pValueLess := min sums.pLess 1
        isSignificant := pValueTwoSided < m.round (1 / 20) }

end Computation

section Lookups

variable {α : Type} [Field α] [LinearOrder α] (m : Machine α)

def logs : Nat → α
  | 0 => 0
  | 1 => 0
  | i + 2 => add m (logs (i + 1)) (m.ln (m.round (i + 2 : ℕ)))

theorem enterLnFact_next {front rest : List α} {i : Nat} {x y : α} (place : front.length = i + 2)
    (before : front[i + 1]? = some x) :
    enterLnFact m (front ++ y :: rest) (i + 2) =
      some (front ++ add m x (m.ln (m.round (i + 2 : ℕ))) :: rest) := by
  have last : (front ++ y :: rest)[i + 2 - 1]? = some x := by
    rw [← before]
    exact List.getElem?_append_left (by omega)
  have inside : i + 2 < (front ++ y :: rest).length := by
    rw [List.length_append, List.length_cons]
    omega
  simp only [enterLnFact, last, Option.bind_eq_bind, Option.bind_some, if_pos inside]
  rw [← place, List.set_append_right _ _ (le_refl _), Nat.sub_self, List.set_cons_zero]

theorem fillTable {k left : Nat} :
    (List.range' 2 k).foldlM (enterLnFact m) (List.replicate (k + 2 + left) 0) =
      some ((List.range (k + 2)).map (logs m) ++ List.replicate left 0) := by
  induction k generalizing left with
  | zero =>
    rw [List.replicate_add]
    rfl
  | succ k ih =>
    have place : k + 1 + 2 + left = k + 2 + (left + 1) := by omega
    have front : ((List.range (k + 2)).map (logs m)).length = k + 2 := by simp
    have before : ((List.range (k + 2)).map (logs m))[k + 1]? = some (logs m (k + 1)) := by
      rw [List.getElem?_map, List.getElem?_range (Nat.lt_succ_self (k + 1))]
      rfl
    rw [List.range'_concat, List.foldlM_append, place, ih, List.replicate_succ]
    have step := @enterLnFact_next α _ _ m _ (List.replicate left 0) _ _ 0 front before
    rw [show 2 + 1 * k = k + 2 by omega]
    simp only [Option.bind_eq_bind, Option.bind_some, List.foldlM_cons, List.foldlM_nil, step]
    have grown : (List.range (k + 1 + 2)).map (logs m) =
        (List.range (k + 2)).map (logs m) ++ [logs m (k + 2)] := by
      rw [Nat.add_right_comm, List.range_succ, List.map_append]
      rfl
    rw [grown, List.append_assoc]
    rfl

theorem lnFactTable_eq {n : Nat} (fits : n < usizeMax) :
    lnFactTable m n = some ((List.range (n + 1)).map (logs m)) := by
  have small : (n + 1) % 2 ^ 64 = n + 1 := Nat.mod_eq_of_lt (by rw [usizeMax] at fits; omega)
  rw [lnFactTable, small]
  cases n with
  | zero => rfl
  | succ k =>
    have whole := @fillTable α _ _ m k 0
    rwa [List.replicate_zero, List.append_nil] at whole

-- At the largest number the table has no place at all.
theorem lnFactTable_max : lnFactTable m usizeMax = none := by
  have wraps : (usizeMax + 1) % 2 ^ 64 = 0 := by decide
  have more : usizeMax - 1 = 18446744073709551613 + 1 := by decide
  rw [lnFactTable, wraps, more, List.range'_succ]
  rfl

variable [FloorSemiring α]

def tableProb (t : Contingency α) (k : Nat) : α :=
  let kF := m.round k
  let margins := add m (add m (add m (logs m (asUsize t.r1)) (logs m (asUsize t.r2))) (logs m (asUsize t.c1)))
    (logs m (asUsize t.c2))
  m.exp (sub m (sub m (sub m (sub m (sub m margins (logs m (asUsize t.n))) (logs m k))
    (logs m (asUsize (sub m t.r1 kF)))) (logs m (asUsize (sub m t.c1 kF))))
    (logs m (asUsize (add m (sub m t.r2 t.c1) kF))))

structure Places (t : Contingency α) (n k : Nat) : Prop where
  r1 : asUsize t.r1 ≤ n
  r2 : asUsize t.r2 ≤ n
  c1 : asUsize t.c1 ≤ n
  c2 : asUsize t.c2 ≤ n
  total : asUsize t.n ≤ n
  cellA : k ≤ n
  cellB : asUsize (sub m t.r1 (m.round k)) ≤ n
  cellC : asUsize (sub m t.c1 (m.round k)) ≤ n
  cellD : asUsize (add m (sub m t.r2 t.c1) (m.round k)) ≤ n

variable {m} {t : Contingency α}

theorem probK_eq {n k : Nat} (places : Places m t n k) :
    probK m t ((List.range (n + 1)).map (logs m)) k = some (tableProb m t k) := by
  have entry {i : Nat} (inside : i ≤ n) : ((List.range (n + 1)).map (logs m))[i]? = some (logs m i) := by
    rw [List.getElem?_map, List.getElem?_range (Nat.lt_succ_of_le inside)]
    rfl
  simp only [probK, entry places.r1, entry places.r2, entry places.c1, entry places.c2, entry places.total,
    entry places.cellA, entry places.cellB, entry places.cellC, entry places.cellD, Option.bind_eq_bind, Option.bind_some]
  rfl

def joined (m : Machine α) (t : Contingency α) (pObs : α) (s : TableSums α) (k : Nat) : TableSums α :=
  { pTwoSided :=
      if tableProb m t k ≤ m.round (pObs * add m 1 (m.round (1 / 10000000))) then add m s.pTwoSided (tableProb m t k)
      else s.pTwoSided
    pGreater := if k ≤ asUsize t.a then add m s.pGreater (tableProb m t k) else s.pGreater
    pLess := if asUsize t.a ≤ k then add m s.pLess (tableProb m t k) else s.pLess }

theorem tableSums_eq {n : Nat} {pObs : α} (places : ∀ k ∈ enumerated m t, Places m t n k) :
    tableSums m t ((List.range (n + 1)).map (logs m)) pObs =
      some ((enumerated m t).foldl (joined m t pObs) { pTwoSided := 0, pGreater := 0, pLess := 0 }) := by
  have general (ks : List Nat) (s : TableSums α) (inside : ∀ k ∈ ks, Places m t n k) :
      ks.foldlM (addTable m t ((List.range (n + 1)).map (logs m)) (asUsize t.a) pObs) s =
        some (ks.foldl (joined m t pObs) s) := by
    induction ks generalizing s with
    | nil => rfl
    | cons k rest ih =>
      rw [List.forall_mem_cons] at inside
      rw [List.foldlM_cons, List.foldl_cons, addTable, probK_eq inside.1]
      exact ih _ inside.2
  exact general _ _ places

end Lookups

section Ranges

variable {α : Type} [Field α] [LinearOrder α] [IsStrictOrderedRing α] {m : Machine α}

theorem round_cast_nonneg (n : Nat) : 0 ≤ m.round n := by
  rw [← m.zero]
  exact m.mono (Nat.cast_nonneg n)

-- A rounded number is below its rounded sum with another that is not negative.
theorem le_add_rounded {x y : α} (rounded : m.round x = x) (nonneg : 0 ≤ y) : x ≤ add m x y :=
  calc x
    _ = m.round x := rounded.symm
    _ ≤ m.round (x + y) := m.mono (le_add_of_nonneg_right nonneg)

theorem sub_rounded_le {x y : α} (rounded : m.round x = x) (nonneg : 0 ≤ y) : sub m x y ≤ x :=
  calc m.round (x - y)
    _ ≤ m.round x := m.mono (sub_le_self x nonneg)
    _ = x := rounded

omit [IsStrictOrderedRing α] in
theorem add_comm_rounded (x y : α) : add m x y = add m y x := congrArg m.round (add_comm x y)

theorem add_mono_rounded {x y x' y' : α} (first : x ≤ x') (second : y ≤ y') : add m x y ≤ add m x' y' :=
  m.mono (add_le_add first second)

structure Margins (m : Machine α) (t : Contingency α) : Prop where
  nonneg : 0 ≤ t.a ∧ 0 ≤ t.r1 ∧ 0 ≤ t.r2 ∧ 0 ≤ t.c1
  rounded : m.round t.r1 = t.r1 ∧ m.round t.r2 = t.r2 ∧ m.round t.c1 = t.c1
  cell : t.a ≤ t.r1 ∧ t.a ≤ t.c1
  total : t.n = add m t.r1 t.r2
  columns : t.c1 ≤ t.n ∧ t.c2 ≤ t.n

theorem contingency_margins (ps pf cs cf : UInt64) : Margins m (contingency m ps pf cs cf) := by
  have a := @round_cast_nonneg α _ _ _ m ps.toNat
  have b := @round_cast_nonneg α _ _ _ m pf.toNat
  have c := @round_cast_nonneg α _ _ _ m cs.toNat
  have d := @round_cast_nonneg α _ _ _ m cf.toNat
  have row1 := le_add_rounded (m.idem ps.toNat) b
  have row2 := le_add_rounded (m.idem cs.toNat) d
  have second1 := add_comm_rounded (m := m) _ _ ▸ le_add_rounded (m.idem pf.toNat) a
  have second2 := add_comm_rounded (m := m) _ _ ▸ le_add_rounded (m.idem cf.toNat) c
  have column1 := le_add_rounded (m.idem ps.toNat) c
  constructor
  case nonneg => exact ⟨a, a.trans row1, c.trans row2, a.trans column1⟩
  case rounded => exact ⟨m.idem _, m.idem _, m.idem _⟩
  case cell => exact ⟨row1, column1⟩
  case total => rfl
  case columns => exact ⟨add_mono_rounded row1 row2, add_mono_rounded second1 second2⟩

variable [FloorSemiring α]

theorem asUsize_mono {x y : α} (below : x ≤ y) : asUsize x ≤ asUsize y :=
  min_le_min_right _ (Nat.floor_mono below)

theorem asUsize_cast_le {x : α} (nonneg : 0 ≤ x) : (asUsize x : α) ≤ x :=
  le_trans (Nat.cast_le.mpr (min_le_left _ _)) (Nat.floor_le nonneg)

variable {t : Contingency α}

-- A table of at most the first row is read within the range of the total.
theorem Margins.places (margins : Margins m t) {k : Nat} (row : (k : α) ≤ t.r1) (inside : k ≤ asUsize t.n) :
    Places m t (asUsize t.n) k := by
  obtain ⟨-, r1, r2, c1⟩ := margins.nonneg
  obtain ⟨fixed1, fixed2, fixedC⟩ := margins.rounded
  have first : t.r1 ≤ t.n := margins.total ▸ le_add_rounded fixed1 r2
  have second : t.r2 ≤ t.n := margins.total ▸ add_comm_rounded (m := m) t.r2 t.r1 ▸ le_add_rounded fixed2 r1
  have small : m.round (k : α) ≤ t.r1 := fixed1 ▸ m.mono row
  have counted := @round_cast_nonneg α _ _ _ m k
  constructor
  case r1 => exact asUsize_mono first
  case r2 => exact asUsize_mono second
  case c1 => exact asUsize_mono margins.columns.1
  case c2 => exact asUsize_mono margins.columns.2
  case total => exact le_refl _
  case cellA => exact inside
  case cellB => exact asUsize_mono ((sub_rounded_le fixed1 counted).trans first)
  case cellC => exact asUsize_mono ((sub_rounded_le fixedC counted).trans margins.columns.1)
  case cellD =>
    apply asUsize_mono
    rw [margins.total, add_comm_rounded t.r1]
    exact add_mono_rounded (sub_rounded_le fixed2 c1) small

theorem Margins.places_enumerated (margins : Margins m t) {k : Nat} (member : k ∈ enumerated m t) :
    Places m t (asUsize t.n) k := by
  obtain ⟨-, r1, -, c1⟩ := margins.nonneg
  rw [enumerated, List.mem_range'_1] at member
  have most : k ≤ maxK t := by omega
  have below : (k : α) ≤ min t.r1 t.c1 := (Nat.cast_le.mpr most).trans (asUsize_cast_le (le_min r1 c1))
  apply margins.places (below.trans (min_le_left _ _))
  exact most.trans (asUsize_mono ((min_le_right _ _).trans margins.columns.1))

theorem Margins.places_observed (margins : Margins m t) : Places m t (asUsize t.n) (asUsize t.a) := by
  have below := asUsize_cast_le margins.nonneg.1
  apply margins.places (below.trans margins.cell.1)
  exact asUsize_mono (margins.cell.2.trans margins.columns.1)

-- While the total is below the largest number, no place is read out of range, however the machine rounds.
theorem fishersExactTest_returns (ps pf cs cf : UInt64)
    (fits : asUsize (contingency m ps pf cs cf).n < usizeMax) :
    ∃ result, fishersExactTest m ps pf cs cf = some result := by
  have margins := @contingency_margins α _ _ _ m ps pf cs cf
  rw [fishersExactTest]
  simp only
  split
  next => exact ⟨_, rfl⟩
  next =>
    rw [lnFactTable_eq m fits]
    simp only [Option.bind_eq_bind, Option.bind_some, probK_eq margins.places_observed,
      tableSums_eq fun k member => margins.places_enumerated member]
    exact ⟨_, rfl⟩

-- Where the total is the largest number, the table has no place to read.
theorem fishersExactTest_panics {ps pf cs cf : UInt64}
    (large : asUsize (contingency m ps pf cs cf).n = usizeMax) :
    fishersExactTest m ps pf cs cf = none := by
  have nonempty : (contingency m ps pf cs cf).n ≠ 0 := by
    intro empty
    rw [empty, asUsize, Nat.floor_zero] at large
    exact absurd large (by decide)
  rw [fishersExactTest]
  simp only [if_neg nonempty, large, lnFactTable_max]
  rfl

-- No place is read out of range exactly while the total is below the largest number, however the machine
-- rounds.
theorem fishersExactTest_in_range_iff (ps pf cs cf : UInt64) :
    fishersExactTest m ps pf cs cf ≠ none ↔ asUsize (contingency m ps pf cs cf).n < usizeMax := by
  constructor
  next =>
    intro returns
    by_contra large
    exact returns (fishersExactTest_panics (le_antisymm (min_le_right _ _) (not_lt.mp large)))
  next =>
    intro fits panics
    obtain ⟨result, returned⟩ := fishersExactTest_returns ps pf cs cf fits
    rw [panics] at returned
    cases returned

end Ranges

section Exact

noncomputable def exact : Machine ℝ := ⟨id, monotone_id, fun _ => rfl, rfl, Real.log, Real.exp⟩

theorem logs_exact (n : Nat) : logs exact n = Hypergeometric.logFactorial n := by
  induction n with
  | zero => simp [logs, Hypergeometric.logFactorial]
  | succ n ih =>
    cases n with
    | zero => simp [logs, Hypergeometric.logFactorial]
    | succ n =>
      rw [Hypergeometric.logFactorial_succ, ← ih]
      rfl

theorem asUsize_cast (n : Nat) : asUsize (n : ℝ) = min n usizeMax := by rw [asUsize, Nat.floor_natCast]

theorem asUsize_small {x : ℝ} {n : Nat} (value : x = n) (fits : n < usizeMax) : asUsize x = n := by
  rw [value, asUsize_cast, min_eq_left fits.le]

def countTable (a b c d : Nat) : Contingency ℝ :=
  { a, b, c, d
    r1 := (a + b : ℕ)
    r2 := (c + d : ℕ)
    c1 := (a + c : ℕ)
    c2 := (b + d : ℕ)
    n := (a + b + (c + d) : ℕ) }

theorem contingency_exact (ps pf cs cf : UInt64) :
    contingency exact ps pf cs cf = countTable ps.toNat pf.toNat cs.toNat cf.toNat := by
  simp [contingency, countTable, add, exact]

variable {a b c d : Nat}

theorem range_exact (fits : a + b + (c + d) < usizeMax) :
    minK exact (countTable a b c d) = a - d ∧ maxK (countTable a b c d) = min (a + b) (a + c) ∧
      asUsize (countTable a b c d).a = a ∧ asUsize (countTable a b c d).n = a + b + (c + d) := by
  have low : max 0 (sub exact (add exact (countTable a b c d).r1 (countTable a b c d).c1) (countTable a b c d).n) =
      ((a - d : ℕ) : ℝ) := by
    simp only [sub, add, exact, id, countTable]
    cases le_total a d with
    | inl less =>
      have below : (a : ℝ) ≤ d := Nat.cast_le.mpr less
      rw [Nat.sub_eq_zero_of_le less, max_eq_left (by push_cast; linarith), Nat.cast_zero]
    | inr more =>
      have above : (d : ℝ) ≤ a := Nat.cast_le.mpr more
      rw [Nat.cast_sub more, max_eq_right (by push_cast; linarith)]
      push_cast
      ring
  have high : min (countTable a b c d).r1 (countTable a b c d).c1 = ((min (a + b) (a + c) : ℕ) : ℝ) :=
    (Nat.cast_min (a + b) (a + c)).symm
  refine ⟨asUsize_small low (by omega), asUsize_small high (by omega), asUsize_small rfl (by omega),
    asUsize_small rfl fits⟩

-- A table of the range has the weight of a draw.
theorem tableProb_exact (fits : a + b + (c + d) < usizeMax) {k : Nat} (row : k ≤ a + b) (column : k ≤ a + c)
    (left : a + c ≤ c + d + k) :
    tableProb exact (countTable a b c d) k = Hypergeometric.weight (a + b) (c + d) (a + c) k := by
  have others : a + b + (c + d) - (a + c) = b + d := by omega
  have cellB : sub exact (countTable a b c d).r1 k = ((a + b - k : ℕ) : ℝ) := (Nat.cast_sub row).symm
  have cellC : sub exact (countTable a b c d).c1 k = ((a + c - k : ℕ) : ℝ) := (Nat.cast_sub column).symm
  have cellD : add exact (sub exact (countTable a b c d).r2 (countTable a b c d).c1) k =
      ((c + d + k - (a + c) : ℕ) : ℝ) := by
    rw [Nat.cast_sub left]
    simp only [sub, add, exact, id, countTable]
    push_cast
    ring
  have kept : exact.round (k : ℝ) = k := rfl
  rw [← Hypergeometric.exp_logFactorials row column left, others, tableProb]
  simp only [kept, logs_exact, (range_exact fits).2.2.2, asUsize_small cellB (by omega),
    asUsize_small cellC (by omega), asUsize_small cellD (by omega),
    @asUsize_small (countTable a b c d).r1 (a + b) rfl (by omega),
    @asUsize_small (countTable a b c d).r2 (c + d) rfl (by omega),
    @asUsize_small (countTable a b c d).c1 (a + c) rfl (by omega),
    @asUsize_small (countTable a b c d).c2 (b + d) rfl (by omega)]
  rfl

open Finset in
-- A sum over the enumerated tables.
theorem sum_enumerated (fits : a + b + (c + d) < usizeMax) (f : Nat → ℝ) :
    ((enumerated exact (countTable a b c d)).map f).sum = ∑ k ∈ Icc (a - d) (min (a + b) (a + c)), f k := by
  obtain ⟨low, high, -, -⟩ := @range_exact a b c d fits
  rw [enumerated, low, high]
  rfl

theorem foldl_joined (t : Contingency ℝ) (pObs : ℝ) (ks : List Nat) (s : TableSums ℝ) :
    (ks.foldl (joined exact t pObs) s).pGreater + (ks.foldl (joined exact t pObs) s).pLess =
      s.pGreater + s.pLess + (ks.map (tableProb exact t)).sum +
        (ks.map fun k => if asUsize t.a = k then tableProb exact t k else 0).sum := by
  induction ks generalizing s with
  | nil => simp
  | cons k rest ih =>
    rw [List.foldl_cons, ih, List.map_cons, List.sum_cons, List.map_cons, List.sum_cons]
    simp only [joined, add, exact, id]
    -- The observed table joins both sums, every other one joins one of them.
    rcases lt_trichotomy k (asUsize t.a) with less | same | more
    · rw [if_pos less.le, if_neg (not_le.mpr less), if_neg less.ne']
      ring
    · rw [if_pos same.le, if_pos same.ge, if_pos same.symm]
      ring
    · rw [if_neg (not_le.mpr more), if_pos more.le, if_neg more.ne]
      ring

/-- The tables are read within range, the observed one is among them, their probabilities sum to one, and
the one-sided sums, before they are capped, to one and the probability of the observed table. -/
def IsProbability (ps pf cs cf : UInt64) : Prop :=
  let t := contingency exact ps pf cs cf
  ∃ result lnFact pObs probs sums,
    fishersExactTest exact ps pf cs cf = some (.ok result) ∧
    lnFactTable exact (asUsize t.n) = some lnFact ∧
    (minK exact t ≤ asUsize t.a ∧ asUsize t.a ≤ maxK t) ∧
    probK exact t lnFact (asUsize t.a) = some pObs ∧
    (enumerated exact t).mapM (probK exact t lnFact) = some probs ∧ probs.sum = 1 ∧
    tableSums exact t lnFact pObs = some sums ∧ sums.pGreater + sums.pLess = 1 + pObs

theorem mapM_some {β : Type} {f : Nat → Option β} {g : Nat → β} {ks : List Nat}
    (each : ∀ k ∈ ks, f k = some (g k)) :
    ks.mapM f = some (ks.map g) := by
  induction ks with
  | nil => rfl
  | cons k rest ih =>
    rw [List.forall_mem_cons] at each
    rw [List.mapM_cons, each.1, ih each.2]
    rfl

theorem sum_tableProb (fits : a + b + (c + d) < usizeMax) :
    ((enumerated exact (countTable a b c d)).map (tableProb exact (countTable a b c d))).sum = 1 := by
  have low : a - d = a + c - (c + d) := by omega
  rw [sum_enumerated fits, low, ← Hypergeometric.sum_weight (show a + c ≤ a + b + (c + d) by omega)]
  apply Finset.sum_congr rfl
  intro k inside
  rw [Finset.mem_Icc] at inside
  exact tableProb_exact fits (by omega) (by omega) (by omega)

theorem sum_observed (fits : a + b + (c + d) < usizeMax) :
    ((enumerated exact (countTable a b c d)).map fun k =>
      if asUsize (countTable a b c d).a = k then tableProb exact (countTable a b c d) k else 0).sum =
        tableProb exact (countTable a b c d) a := by
  have here : a ∈ Finset.Icc (a - d) (min (a + b) (a + c)) := by
    rw [Finset.mem_Icc]
    omega
  rw [sum_enumerated fits, (@range_exact a b c d fits).2.2.1, Finset.sum_ite_eq, if_pos here]

theorem isProbability_of_lt {ps pf cs cf : UInt64} (some : 0 < ps.toNat + pf.toNat + (cs.toNat + cf.toNat))
    (fits : ps.toNat + pf.toNat + (cs.toNat + cf.toNat) < usizeMax) : IsProbability ps pf cs cf := by
  have margins := @contingency_margins ℝ _ _ _ exact ps pf cs cf
  obtain ⟨low, high, observed, total⟩ := range_exact fits
  have nonempty : (contingency exact ps pf cs cf).n ≠ 0 := by
    rw [contingency_exact]
    exact Nat.cast_ne_zero.mpr some.ne'
  have small : asUsize (contingency exact ps pf cs cf).n < usizeMax := by
    rw [contingency_exact, total]
    exact fits
  have table := lnFactTable_eq exact small
  have each := fun k member => probK_eq (@Margins.places_enumerated ℝ _ _ _ exact _ _ margins k member)
  have sums := fun pObs => @tableSums_eq ℝ _ _ exact _ _ _ pObs
    fun k member => @Margins.places_enumerated ℝ _ _ _ exact _ _ margins k member
  have result : ∃ result, fishersExactTest exact ps pf cs cf = .some (.ok result) := by
    rw [fishersExactTest]
    simp only [if_neg nonempty, table, Option.bind_eq_bind, Option.bind_some,
      probK_eq margins.places_observed, sums]
    exact ⟨_, rfl⟩
  obtain ⟨result, returned⟩ := result
  refine ⟨result, _, _, _, _, returned, table, ?_, probK_eq margins.places_observed, mapM_some each, ?_,
    sums _, ?_⟩
  next =>
    rw [contingency_exact, low, high, observed]
    omega
  next =>
    rw [contingency_exact]
    exact sum_tableProb fits
  next =>
    rw [contingency_exact, foldl_joined, sum_tableProb fits, sum_observed fits, observed]
    ring

theorem total_large {ps pf cs cf : UInt64} (large : usizeMax ≤ ps.toNat + pf.toNat + (cs.toNat + cf.toNat)) :
    asUsize (contingency exact ps pf cs cf).n = usizeMax := by
  rw [contingency_exact]
  exact (asUsize_cast _).trans (min_eq_right large)

section Doubles

def nearestEven (k : Nat) : Nat := if k % 4 = 1 then k - 1 else if k % 4 = 3 then k + 1 else k

/-- What a double makes of whole numbers: up to `2 ^ 53` it holds all of them, and from there to `2 ^ 54` the
even ones. -/
structure RoundsAsDouble (m : Machine ℝ) : Prop where
  whole : ∀ k : Int, |k| ≤ 2 ^ 53 → m.round k = k
  even : ∀ k : Nat, 2 ^ 53 < k → k ≤ 2 ^ 54 → m.round k = nearestEven k

variable {m : Machine ℝ}

theorem RoundsAsDouble.natCast (double : RoundsAsDouble m) {k : Nat} (small : k ≤ 2 ^ 53) : m.round k = k := by
  have kept := double.whole k (by rw [abs_of_nonneg (Int.natCast_nonneg k)]; exact_mod_cast small)
  exact_mod_cast kept

theorem RoundsAsDouble.add_natCast (double : RoundsAsDouble m) {j k : Nat} (small : j + k ≤ 2 ^ 53) :
    add m j k = ((j + k : ℕ) : ℝ) := by
  rw [add, ← Nat.cast_add, double.natCast small]

-- Up to `2 ^ 53` observations the margins are exact.
theorem RoundsAsDouble.contingency_eq (double : RoundsAsDouble m) {ps pf cs cf : UInt64}
    (small : ps.toNat + pf.toNat + (cs.toNat + cf.toNat) ≤ 2 ^ 53) :
    contingency m ps pf cs cf = countTable ps.toNat pf.toNat cs.toNat cf.toNat := by
  have a := double.natCast (k := ps.toNat) (by omega)
  have b := double.natCast (k := pf.toNat) (by omega)
  have c := double.natCast (k := cs.toNat) (by omega)
  have d := double.natCast (k := cf.toNat) (by omega)
  simp only [contingency, countTable, a, b, c, d, double.add_natCast (j := ps.toNat) (k := pf.toNat) (by omega),
    double.add_natCast (j := cs.toNat) (k := cf.toNat) (by omega),
    double.add_natCast (j := ps.toNat) (k := cs.toNat) (by omega),
    double.add_natCast (j := pf.toNat) (k := cf.toNat) (by omega), double.add_natCast small]

def crossSum (a b c : Nat) : Nat :=
  if a + b + (a + c) ≤ 2 ^ 53 then a + b + (a + c) else nearestEven (a + b + (a + c))

theorem RoundsAsDouble.minK_eq (double : RoundsAsDouble m) (small : a + b + (c + d) ≤ 2 ^ 53) :
    minK m (countTable a b c d) = crossSum a b c - (a + b + (c + d)) := by
  have cross : add m (countTable a b c d).r1 (countTable a b c d).c1 = crossSum a b c := by
    simp only [countTable, crossSum]
    split
    next within => exact double.add_natCast within
    next above => rw [add, ← Nat.cast_add, double.even _ (by omega) (by omega)]
  have near : (crossSum a b c : Int) ≤ a + b + (c + d) + 2 ^ 53 := by
    unfold crossSum nearestEven
    split_ifs <;> omega
  have less : sub m (crossSum a b c) (countTable a b c d).n =
      ((crossSum a b c : Int) - ((a + b + (c + d) : ℕ) : Int) : ℤ) := by
    rw [sub, ← double.whole _ (abs_le.mpr ⟨by omega, by push_cast; omega⟩)]
    simp [countTable]
  rw [minK, cross, less]
  cases le_total (crossSum a b c) (a + b + (c + d)) with
  | inl below =>
    have negative : (((crossSum a b c : Int) - ((a + b + (c + d) : ℕ) : Int) : ℤ) : ℝ) ≤ 0 :=
      Int.cast_nonpos.mpr (by omega)
    rw [max_eq_left negative, Nat.sub_eq_zero_of_le below]
    exact asUsize_small (by simp) (by decide)
  | inr above =>
    have value : (((crossSum a b c : Int) - ((a + b + (c + d) : ℕ) : Int) : ℤ) : ℝ) =
        ((crossSum a b c - (a + b + (c + d)) : ℕ) : ℝ) := by
      rw [← Int.natCast_sub above, Int.cast_natCast]
    rw [value, max_eq_right (Nat.cast_nonneg _)]
    exact asUsize_small rfl (by rw [usizeMax]; omega)

-- The lower end lies above the observed table only where the sum is rounded up and nothing failed twice.
theorem RoundsAsDouble.observed_iff (double : RoundsAsDouble m) {ps pf cs cf : UInt64}
    (small : ps.toNat + pf.toNat + (cs.toNat + cf.toNat) ≤ 2 ^ 53) :
    minK m (contingency m ps pf cs cf) ≤ asUsize (contingency m ps pf cs cf).a ↔
      cf ≠ 0 ∨ 2 * ps.toNat + pf.toNat + cs.toNat ≤ 2 ^ 53 ∨
        (2 * ps.toNat + pf.toNat + cs.toNat) % 4 ≠ 3 := by
  have observed : asUsize (countTable ps.toNat pf.toNat cs.toNat cf.toNat).a = ps.toNat :=
    asUsize_small rfl (by rw [usizeMax]; omega)
  have none_failed : cf ≠ 0 ↔ cf.toNat ≠ 0 := by
    rw [ne_eq, ← UInt64.toNat_inj]
    rfl
  rw [double.contingency_eq small, observed, double.minK_eq small, none_failed]
  unfold crossSum nearestEven
  split_ifs <;> omega

end Doubles

/-- Over a positive total the test is a probability exactly while the total is below the largest number. On a
machine that rounds no place is read out of range exactly while its total is, and the observed table is never above
the enumerated ones; with doubles, up to `2 ^ 53` observations, it is below them exactly where no candidate failed
and the sum of the first margins is rounded up. -/
theorem isProbability_iff (ps pf cs cf : UInt64) (some : 0 < ps.toNat + pf.toNat + (cs.toNat + cf.toNat)) :
    (IsProbability ps pf cs cf ↔ ps.toNat + pf.toNat + (cs.toNat + cf.toNat) < 2 ^ 64 - 1) ∧
      ∀ m : Machine ℝ,
        (fishersExactTest m ps pf cs cf ≠ none ↔ asUsize (contingency m ps pf cs cf).n < 2 ^ 64 - 1) ∧
        asUsize (contingency m ps pf cs cf).a ≤ maxK (contingency m ps pf cs cf) ∧
        (RoundsAsDouble m → ps.toNat + pf.toNat + (cs.toNat + cf.toNat) ≤ 2 ^ 53 →
          (minK m (contingency m ps pf cs cf) ≤ asUsize (contingency m ps pf cs cf).a ↔
            cf ≠ 0 ∨ 2 * ps.toNat + pf.toNat + cs.toNat ≤ 2 ^ 53 ∨
              (2 * ps.toNat + pf.toNat + cs.toNat) % 4 ≠ 3)) := by
  constructor
  next =>
    constructor
    next =>
      intro probability
      by_contra large
      obtain ⟨result, -, -, -, -, returned, -⟩ := probability
      rw [fishersExactTest_panics (total_large (not_lt.mp large))] at returned
      cases returned
    next => exact isProbability_of_lt some
  next =>
    intro m
    have margins := @contingency_margins ℝ _ _ _ m ps pf cs cf
    refine ⟨fishersExactTest_in_range_iff ps pf cs cf, ?_, fun double small => double.observed_iff small⟩
    exact asUsize_mono (le_min margins.cell.1 margins.cell.2)

section Sample

noncomputable def evenBlock (x : ℝ) : ℝ :=
  4 * ⌊x / 4⌋₊ + if x - 4 * ⌊x / 4⌋₊ ≤ 1 then 0 else if x - 4 * ⌊x / 4⌋₊ < 3 then 2 else 4

noncomputable def roundWhole (x : ℝ) : ℝ := if x ≤ 2 ^ 53 then x else evenBlock x

theorem evenBlock_between (x : ℝ) : 4 * (⌊x / 4⌋₊ : ℝ) ≤ evenBlock x ∧ evenBlock x ≤ 4 * (⌊x / 4⌋₊ + 1 : ℕ) := by
  unfold evenBlock
  push_cast
  split_ifs <;> constructor <;> linarith

theorem evenBlock_mono {x y : ℝ} (below : x ≤ y) : evenBlock x ≤ evenBlock y := by
  have blocks : ⌊x / 4⌋₊ ≤ ⌊y / 4⌋₊ := Nat.floor_mono (by linarith)
  cases blocks.eq_or_lt with
  | inl same =>
    unfold evenBlock
    rw [same]
    split_ifs <;> linarith
  | inr less =>
    have next : ((⌊x / 4⌋₊ + 1 : ℕ) : ℝ) ≤ ⌊y / 4⌋₊ := Nat.cast_le.mpr less
    have upper := (evenBlock_between x).2
    have lower := (evenBlock_between y).1
    linarith

theorem le_evenBlock {y : ℝ} (above : 2 ^ 53 < y) : 2 ^ 53 ≤ evenBlock y := by
  have block : 2 ^ 51 ≤ ⌊y / 4⌋₊ := by
    apply Nat.le_floor
    push_cast
    linarith
  have cast : ((2 ^ 51 : ℕ) : ℝ) ≤ ⌊y / 4⌋₊ := Nat.cast_le.mpr block
  have lower := (evenBlock_between y).1
  push_cast at cast
  linarith

theorem evenBlock_natCast (k : Nat) : evenBlock k = nearestEven k := by
  have block : ⌊(k : ℝ) / 4⌋₊ = k / 4 := by
    rw [Nat.floor_div_ofNat, Nat.floor_natCast]
  have split : (k : ℝ) = 4 * (k / 4 : ℕ) + (k % 4 : ℕ) := by exact_mod_cast (Nat.div_add_mod k 4).symm
  have small : k % 4 < 4 := Nat.mod_lt k (by decide)
  have rest : (k : ℝ) - 4 * (k / 4 : ℕ) = (k % 4 : ℕ) := by linarith
  have whole : nearestEven k = 4 * (k / 4) + if k % 4 ≤ 1 then 0 else if k % 4 < 3 then 2 else 4 := by
    unfold nearestEven
    split_ifs <;> omega
  rw [evenBlock, block, rest, whole]
  push_cast
  norm_cast

theorem evenBlock_evenBlock (x : ℝ) : evenBlock (evenBlock x) = evenBlock x := by
  obtain ⟨k, even, value⟩ : ∃ k : ℕ, k % 2 = 0 ∧ evenBlock x = k := by
    unfold evenBlock
    split_ifs
    · exact ⟨4 * ⌊x / 4⌋₊, by omega, by push_cast; ring⟩
    · exact ⟨4 * ⌊x / 4⌋₊ + 2, by omega, by push_cast; ring⟩
    · exact ⟨4 * ⌊x / 4⌋₊ + 4, by omega, by push_cast; ring⟩
  have kept : nearestEven k = k := by
    unfold nearestEven
    split_ifs <;> omega
  rw [value, evenBlock_natCast, kept]

noncomputable def doubles : Machine ℝ where
  round := roundWhole
  mono := by
    intro x y below
    unfold roundWhole
    split_ifs with first second second
    · exact below
    · exact first.trans (le_evenBlock (not_le.mp second))
    · exact absurd (below.trans second) first
    · exact evenBlock_mono below
  idem := by
    intro x
    unfold roundWhole
    split_ifs with first second
    · rfl
    · rfl
    · exact evenBlock_evenBlock x
  zero := if_pos (by norm_num)
  ln := Real.log
  exp := Real.exp

theorem doubles_double : RoundsAsDouble doubles where
  whole k small := by
    have below : (k : ℝ) ≤ 2 ^ 53 := by exact_mod_cast (abs_le.mp small).2
    exact if_pos below
  even k above _ := by
    have large : ¬(k : ℝ) ≤ 2 ^ 53 := by
      rw [not_le]
      exact_mod_cast above
    exact (if_neg large).trans (evenBlock_natCast k)

theorem isProbability_iff_identical_rates :
    IsProbability 10 10 10 10 ∧ fishersExactTest doubles 10 10 10 10 ≠ none ∧
      minK doubles (contingency doubles 10 10 10 10) ≤ asUsize (contingency doubles 10 10 10 10).a ∧
      asUsize (contingency doubles 10 10 10 10).a ≤ maxK (contingency doubles 10 10 10 10) := by
  obtain ⟨probability, machines⟩ := isProbability_iff 10 10 10 10 (by decide)
  obtain ⟨returns, high, low⟩ := machines doubles
  have total : asUsize (contingency doubles 10 10 10 10).n = 40 := by
    rw [doubles_double.contingency_eq (by decide)]
    exact asUsize_small rfl (by decide)
  exact ⟨probability.mpr (by decide), returns.mpr (by rw [total]; decide),
    (low doubles_double (by decide)).mpr (.inl (by decide)), high⟩

theorem largest_count_panics :
    fishersExactTest exact 0xffffffffffffffff 0 0 0 = none ∧ ¬IsProbability 0xffffffffffffffff 0 0 0 ∧
      ¬minK doubles (contingency doubles 3 4503599627370494 4503599627370495 0) ≤
        asUsize (contingency doubles 3 4503599627370494 4503599627370495 0).a := by
  have panics : fishersExactTest exact 0xffffffffffffffff 0 0 0 = none :=
    fishersExactTest_panics (total_large (by decide))
  refine ⟨panics, ?_, ?_⟩
  next =>
    intro probability
    obtain ⟨result, -, -, -, -, returned, -⟩ := probability
    rw [panics] at returned
    cases returned
  next =>
    rw [doubles_double.observed_iff (by decide)]
    decide

end Sample

end Exact

end SparkRsi.Evaluator
