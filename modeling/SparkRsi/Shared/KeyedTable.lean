import Mathlib.Order.Lattice
import Mathlib.Data.List.Nodup

set_option autoImplicit false

/-!
# Tables with a primary key

Rows in the order of their keys, one row for each key.
-/

namespace Shared

variable {ρ κ : Type} [LinearOrder κ]

structure KeyedTable (ρ : Type) {κ : Type} [LinearOrder κ] (key : ρ → κ) where
  rows : List ρ
  ordered : rows.Pairwise fun a b => key a < key b

namespace KeyedTable

variable {key : ρ → κ}

def empty : KeyedTable ρ key := ⟨[], List.Pairwise.nil⟩

def upsertRow (key : ρ → κ) (row : ρ) : List ρ → List ρ
  | [] => [row]
  | other :: rest =>
    if key row < key other then row :: other :: rest
    else if key row = key other then row :: rest
    else other :: upsertRow key row rest

theorem mem_upsertRow (row r : ρ) (rows : List ρ) (member : r ∈ upsertRow key row rows) :
    r = row ∨ r ∈ rows := by
  fun_induction upsertRow key row rows with
  | case1 => simpa using member
  | case2 other rest before => simpa using member
  | case3 other rest same => simp at member; tauto
  | case4 other rest later apart ih => simp at member ⊢; tauto

theorem mem_keys_upsertRow (row : ρ) (rows : List ρ) (k : κ) :
    k ∈ (upsertRow key row rows).map key ↔ k = key row ∨ k ∈ rows.map key := by
  fun_induction upsertRow key row rows with
  | case1 => simp
  | case2 other rest before => simp
  | case3 other rest before same => simp [same]
  | case4 other rest before apart ih =>
    rw [List.map_cons, List.mem_cons, ih, List.map_cons, List.mem_cons]
    tauto

-- A row under a new key comes on top of the others.
theorem upsertRow_perm (row : ρ) (rows : List ρ) (fresh : ∀ r ∈ rows, key r ≠ key row) :
    (upsertRow key row rows).Perm (row :: rows) := by
  fun_induction upsertRow key row rows with
  | case1 => exact List.Perm.refl _
  | case2 other rest before => exact List.Perm.refl _
  | case3 other rest before same => exact absurd same.symm (fresh other (by simp))
  | case4 other rest before apart ih =>
    refine (List.Perm.cons other (ih fun r member => fresh r (List.mem_cons_of_mem _ member))).trans ?_
    exact List.Perm.swap _ _ _

theorem upsertRow_ordered (row : ρ) (rows : List ρ)
    (ordered : rows.Pairwise fun a b => key a < key b) :
    (upsertRow key row rows).Pairwise fun a b => key a < key b := by
  fun_induction upsertRow key row rows with
  | case1 => simp
  | case2 other rest before =>
    have first : ∀ r ∈ rest, key other < key r := fun r => List.rel_of_pairwise_cons ordered
    refine List.Pairwise.cons (fun r member => ?_) ordered
    rcases List.mem_cons.mp member with rfl | later
    · exact before
    · exact lt_trans before (first r later)
  | case3 other rest before same =>
    have first : ∀ r ∈ rest, key other < key r := fun r => List.rel_of_pairwise_cons ordered
    exact List.Pairwise.cons (fun r member => same ▸ first r member) ordered.of_cons
  | case4 other rest before apart ih =>
    have first : ∀ r ∈ rest, key other < key r := fun r => List.rel_of_pairwise_cons ordered
    refine List.Pairwise.cons (fun r member => ?_) (ih ordered.of_cons)
    rcases mem_upsertRow row r rest member with rfl | later
    · exact lt_of_le_of_ne (not_lt.mp before) (Ne.symm apart)
    · exact first r later

def upsert (table : KeyedTable ρ key) (row : ρ) : KeyedTable ρ key :=
  ⟨upsertRow key row table.rows, upsertRow_ordered row table.rows table.ordered⟩

def get? (table : KeyedTable ρ key) (k : κ) : Option ρ := table.rows.find? fun r => key r = k

def latest? (table : KeyedTable ρ key) : Option ρ := table.rows.getLast?

variable {table : KeyedTable ρ key}

theorem keys_nodup : (table.rows.map key).Nodup :=
  List.pairwise_map.mpr (table.ordered.imp fun less => less.ne)

theorem key_injOn {a b : ρ} (first : a ∈ table.rows) (second : b ∈ table.rows)
    (same : key a = key b) : a = b :=
  List.inj_on_of_nodup_map keys_nodup first second same

theorem get?_key {row : ρ} (member : row ∈ table.rows) : table.get? (key row) = some row := by
  cases found : table.get? (key row) with
  | none =>
    have missing := List.find?_eq_none.mp found row member
    simp at missing
  | some other =>
    have same : key other = key row := by simpa using List.find?_some found
    rw [key_injOn (List.mem_of_find?_eq_some found) member same]

-- A row with a larger key than all others comes last.
theorem upsert_rows_of_lt {row : ρ} (larger : ∀ r ∈ table.rows, key r < key row) :
    (table.upsert row).rows = table.rows ++ [row] := by
  have general (rows : List ρ) (larger : ∀ r ∈ rows, key r < key row) :
      upsertRow key row rows = rows ++ [row] := by
    induction rows with
    | nil => rfl
    | cons other rest ih =>
      simp only [List.mem_cons, forall_eq_or_imp] at larger
      simp [upsertRow, not_lt.mpr larger.1.le, larger.1.ne', ih larger.2]
  exact general table.rows larger

-- After putting a row no smaller than all others, it is the latest.
theorem latest?_upsert {row : ρ} (largest : ∀ r ∈ table.rows, key r ≤ key row) :
    (table.upsert row).latest? = some row := by
  have general (rows : List ρ) (largest : ∀ r ∈ rows, key r ≤ key row)
      (ordered : rows.Pairwise fun a b => key a < key b) :
      (upsertRow key row rows).getLast? = some row := by
    induction rows with
    | nil => rfl
    | cons other rest ih =>
      simp only [List.mem_cons, forall_eq_or_imp] at largest
      by_cases same : key row = key other
      · have none_behind : rest = [] := by
          refine List.eq_nil_iff_forall_not_mem.mpr fun r member => ?_
          have above := List.rel_of_pairwise_cons ordered member
          exact absurd (largest.2 r member) (by rw [same]; exact not_le.mpr above)
        simp [upsertRow, same, none_behind]
      · have tail := ih largest.2 ordered.of_cons
        have behind : upsertRow key row rest ≠ [] := by
          intro empty
          simp [empty] at tail
        simp [upsertRow, not_lt.mpr largest.1, same, List.getLast?_cons_of_ne_nil behind, tail]
  exact general table.rows largest table.ordered

theorem mem_upsert {row r : ρ} (member : r ∈ (table.upsert row).rows) :
    r = row ∨ r ∈ table.rows :=
  mem_upsertRow row r table.rows member

end KeyedTable

end Shared
