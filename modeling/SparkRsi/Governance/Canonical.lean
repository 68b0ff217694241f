import SparkRsi.Governance.Paths

set_option autoImplicit false

namespace SparkRsi.Governance

open Shared

namespace RootOfTrust

variable {debug : Debug} {path other : String}

theorem resolve_cons (stack : List (List Char)) (comp : List Char) (rest : List (List Char)) :
    resolve debug path stack (comp :: rest) =
      if comp = [] ∨ comp = ['.'] then resolve debug path stack rest
      else if comp = ['.', '.'] then
        match stack with
        | [] => .error s!"path {debug.text path} climbs above the repository root"
        | _ :: below => resolve debug path below rest
      else resolve debug path (comp :: stack) rest := by
  cases stack <;> rfl

theorem resolve_append (stack first second : List (List Char)) :
    resolve debug path stack (first ++ second) =
      (do let below ← resolve debug path stack first; resolve debug path below second) := by
  induction first generalizing stack with
  | nil => rfl
  | cons comp rest ih =>
    rw [List.cons_append, resolve_cons, resolve_cons]
    by_cases skipped : comp = [] ∨ comp = ['.']
    next => rw [if_pos skipped, if_pos skipped, ih]
    next =>
      rw [if_neg skipped, if_neg skipped]
      by_cases up : comp = ['.', '.']
      next =>
        rw [if_pos up, if_pos up]
        cases stack with
        | nil => rfl
        | cons top below => exact ih below
      next => rw [if_neg up, if_neg up, ih]

-- A walk that stays above its start stays there on any ground, whatever path it is reported under.
theorem resolve_grounded (base : List (List Char)) {stack comps left : List (List Char)}
    (walked : resolve debug path stack comps = .ok left) :
    resolve debug other (stack ++ base) comps = .ok (left ++ base) := by
  induction comps generalizing stack with
  | nil =>
    cases walked
    rfl
  | cons comp rest ih =>
    rw [resolve_cons] at walked ⊢
    by_cases skipped : comp = [] ∨ comp = ['.']
    next =>
      rw [if_pos skipped] at walked ⊢
      exact ih walked
    next =>
      rw [if_neg skipped] at walked ⊢
      by_cases up : comp = ['.', '.']
      next =>
        rw [if_pos up] at walked ⊢
        cases stack with
        | nil => cases walked
        | cons top below => exact ih walked
      next =>
        rw [if_neg up] at walked ⊢
        exact ih walked

theorem resolve_upless (stack : List (List Char)) {comps : List (List Char)}
    (upless : ∀ comp ∈ comps, comp ≠ ['.', '.']) :
    resolve debug path stack comps = .ok ((comps.filter isNamed).reverse ++ stack) := by
  induction comps generalizing stack with
  | nil => rfl
  | cons comp rest ih =>
    rw [List.forall_mem_cons] at upless
    rw [resolve_cons]
    by_cases skipped : comp = [] ∨ comp = ['.']
    next =>
      have dropped : ¬isNamed comp = true := fun named => isNamed_iff.mp named skipped
      rw [if_pos skipped, List.filter_cons_of_neg dropped]
      exact ih stack upless.2
    next =>
      rw [if_neg skipped, if_neg upless.1, List.filter_cons_of_pos (isNamed_iff.mpr skipped), ih _ upless.2]
      simp

theorem resolve_keeps (Good : List Char → Prop) {stack comps left : List (List Char)}
    (start : ∀ part ∈ stack, Good part) (named : ∀ comp ∈ comps, isNamed comp = true → Good comp)
    (walked : resolve debug path stack comps = .ok left) : ∀ part ∈ left, Good part := by
  induction comps generalizing stack with
  | nil =>
    cases walked
    exact start
  | cons comp rest ih =>
    rw [List.forall_mem_cons] at named
    rw [resolve_cons] at walked
    by_cases skipped : comp = [] ∨ comp = ['.']
    next =>
      rw [if_pos skipped] at walked
      exact ih start named.2 walked
    next =>
      rw [if_neg skipped] at walked
      by_cases up : comp = ['.', '.']
      next =>
        rw [if_pos up] at walked
        cases stack with
        | nil => cases walked
        | cons top below =>
          exact ih (fun part member => start part (List.mem_cons_of_mem _ member)) named.2 walked
      next =>
        rw [if_neg up] at walked
        exact ih (List.forall_mem_cons.mpr ⟨named.1 (isNamed_iff.mpr skipped), start⟩) named.2 walked

theorem normalizeStrict_ok {r : String} : normalizeStrict debug path = .ok r ↔
    ('\\' ∉ path.toList ∧ Char.ofNat 0 ∉ path.toList) ∧
      ∃ stack, resolve debug path [] (components path) = .ok stack ∧ r = joinComponents stack.reverse := by
  rw [normalizeStrict, then_eq_ok, refuseIf_eq_ok, not_or]
  rw [bind_eq_ok]
  simp only [pure, Except.pure, Except.ok.injEq, @eq_comm _ r]

theorem components_strict {stack : List (List Char)}
    (walked : resolve debug path [] (components path) = .ok stack) (filled : stack ≠ []) :
    components (joinComponents stack.reverse) = stack.reverse := by
  apply components_joinComponents
  case clean =>
    intro part member
    apply resolve_keeps (fun part => '/' ∉ part) _ _ walked part (List.mem_reverse.mp member)
    next => simp
    next => exact fun comp inside _ => components_clean inside
  case nonempty => simpa using filled

theorem isProtectedPath_congr {r : String} (first : normalizeStrict debug path = .ok r)
    (second : normalizeStrict debug other = .ok r) :
    isProtectedPath debug path = isProtectedPath debug other := by
  rw [isProtectedPath, isProtectedPath, first, second]

def Descends (debug : Debug) (rest : String) : Prop :=
  ∃ stack, resolve debug rest [] (components rest) = .ok stack

theorem components_below (path rest : String) :
    components (path ++ "/" ++ rest) = components path ++ components rest := by
  rw [components, String.toList_append, String.toList_append, List.append_assoc]
  exact Parts.splitOn_append_sep '/' path.toList rest.toList

theorem isProtectedPath_error (path : String)
    (refused : ∀ r, normalizeStrict debug path ≠ .ok r) : isProtectedPath debug path = true := by
  rw [isProtectedPath]
  split
  next => rfl
  next r normalized => exact absurd normalized (refused r)

-- What is below a protected path is protected, unless that path is the repository root.
theorem isProtectedPath_below {rest : String} (isProtected : isProtectedPath debug path = true)
    (inner : normalizeStrict debug path ≠ .ok "") (descends : Descends debug rest) :
    isProtectedPath debug (path ++ "/" ++ rest) = true := by
  by_cases accepted : ∃ r, normalizeStrict debug (path ++ "/" ++ rest) = .ok r
  next =>
    cases accepted with
    | intro r normalized =>
      have plain := (normalizeStrict_ok.mp normalized).1
      simp only [String.toList_append, List.mem_append, not_or] at plain
      obtain ⟨whole, walked, built⟩ := (normalizeStrict_ok.mp normalized).2
      rw [components_below, resolve_append, bind_eq_ok] at walked
      obtain ⟨stack, front, behind⟩ := walked
      obtain ⟨left, descent⟩ := descends
      -- The upper path resolves to `stack` under its own name too, and the lower one adds `left` to it.
      have own : resolve debug path [] (components path) = .ok stack := by
        have moved : resolve debug path ([] ++ []) (components path) = .ok (stack ++ []) :=
          resolve_grounded [] front
        simpa using moved
      have whole_eq : whole = left ++ stack := by
        have moved : resolve debug (path ++ "/" ++ rest) ([] ++ stack) (components rest) =
            .ok (left ++ stack) :=
          resolve_grounded stack descent
        rw [List.nil_append] at moved
        exact Except.ok.inj (behind.symm.trans moved)
      have upper : normalizeStrict debug path = .ok (joinComponents stack.reverse) :=
        normalizeStrict_ok.mpr ⟨⟨plain.1.1.1, plain.2.1.1⟩, stack, own, rfl⟩
      have filled : stack ≠ [] := by
        intro empty
        apply inner
        rw [upper, empty]
        rfl
      have upperParts := components_strict own filled
      have lowerParts : components r = stack.reverse ++ left.reverse := by
        rw [built, whole_eq, List.reverse_append]
        apply components_joinComponents
        case clean =>
          intro part member
          cases List.mem_append.mp member with
          | inl above =>
            exact resolve_keeps (fun part => '/' ∉ part) (by simp) (fun comp inside _ => components_clean inside) own
              part (List.mem_reverse.mp above)
          | inr below =>
            exact resolve_keeps (fun part => '/' ∉ part) (by simp) (fun comp inside _ => components_clean inside) descent
              part (List.mem_reverse.mp below)
        case nonempty => simp [filled]
      rw [isProtectedPath, upper] at isProtected
      rw [isProtectedPath, normalized]
      dsimp only at isProtected ⊢
      by_cases root : r.toList = []
      next => rw [if_pos root]
      next =>
        rw [if_neg root]
        split at isProtected
        next empty =>
          have text : joinComponents stack.reverse = "" := String.toList_inj.mp empty
          apply absurd _ inner
          rw [upper, text]
        next =>
          rw [List.any_eq_true] at isProtected ⊢
          obtain ⟨named, listed, starts⟩ := isProtected
          apply Exists.intro named
          apply And.intro listed
          rw [List.isPrefixOf_iff_prefix, upperParts] at starts
          rw [List.isPrefixOf_iff_prefix, lowerParts]
          exact starts.trans (List.prefix_append _ _)
  next =>
    apply isProtectedPath_error
    exact fun r normalized => accepted ⟨r, normalized⟩

-- The strict normalizer agrees with the gate's on what the gate accepts.
theorem normalizeStrict_of_normalizeRepoPath {raw r : String}
    (normalized : normalizeRepoPath debug raw = .ok r) :
    normalizeStrict debug raw = .ok r := by
  have parts := normalizeRepoPath_ok.mp normalized
  have upless : ∀ comp ∈ components raw, comp ≠ ['.', '.'] :=
    fun comp member => (parts.2.2.2.2.1 comp member).1
  have walked : resolve debug raw [] (components raw) = _ := resolve_upless [] upless
  rw [List.append_nil] at walked
  apply normalizeStrict_ok.mpr
  apply And.intro ⟨parts.2.2.1, parts.2.1⟩
  apply Exists.intro _
  apply And.intro walked
  rw [List.reverse_reverse]
  exact parts.2.2.2.2.2.2

end RootOfTrust

theorem normal_relative {raw r : String} {debug : Debug} (normalized : normalizeRepoPath debug raw = .ok r) :
    r.toList.head? ≠ some '/' ∧
      ∀ part ∈ components r, part ≠ [] ∧ part ≠ ['.'] ∧ part ≠ ['.', '.'] ∧ isGit part = false := by
  have again := normalizeRepoPath_ok.mp (normalizeRepoPath_idem normalized)
  have named := (normal_of_normalizeRepoPath normalized).named
  apply And.intro again.2.2.2.1
  intro part member
  have spelled := isNamed_iff.mp (named part member)
  rw [not_or] at spelled
  exact ⟨spelled.1, spelled.2, again.2.2.2.2.1 part member⟩

theorem withinRoots_iff {path : String} {roots : List String} {debug : Debug} :
    withinRoots debug path roots = true ↔
    ∃ root ∈ roots, ∃ r, normalizeRepoPath debug root = .ok r ∧ components r <+: components path := by
  rw [withinRoots, List.any_eq_true]
  apply exists_congr
  intro root
  apply and_congr_right
  intro _
  cases normalizeRepoPath debug root with
  | error e => simp
  | ok r => simp

theorem assertPatchPermitted_ok {path r : String} {tier : UInt8} {debug : Debug}
    (normalized : RootOfTrust.normalizeStrict debug path = .ok r) :
    RootOfTrust.assertPatchPermitted debug path tier = .ok () ↔
      RootOfTrust.isProtectedPath debug r = false ∨ ¬tier < 2 := by
  rw [RootOfTrust.assertPatchPermitted, normalized]
  change refuseIf _ _ = .ok () ↔ _
  rw [refuseIf_eq_ok, not_and_or, Bool.not_eq_true]

/-- Both normalizers agree on accepted paths, protection follows the strict normal form and reaches below
every path but the root, and an accepted target lies within a declared root and is not protected. -/
theorem path_gate_canonical (debug : Debug) :
    (∀ s r, normalizeRepoPath debug s = .ok r →
      normalizeRepoPath debug r = .ok r ∧ r.toList.head? ≠ some '/' ∧
      (∀ part ∈ components r, part ≠ [] ∧ part ≠ ['.'] ∧ part ≠ ['.', '.'] ∧ isGit part = false) ∧
      RootOfTrust.normalizeStrict debug s = .ok r) ∧
    (∀ s t r, RootOfTrust.normalizeStrict debug s = .ok r → RootOfTrust.normalizeStrict debug t = .ok r →
      RootOfTrust.isProtectedPath debug s = RootOfTrust.isProtectedPath debug t) ∧
    (∀ s rest, RootOfTrust.isProtectedPath debug s = true → RootOfTrust.normalizeStrict debug s ≠ .ok "" →
      RootOfTrust.Descends debug rest → RootOfTrust.isProtectedPath debug (s ++ "/" ++ rest) = true) ∧
    ∀ s roots r, checkDeclaredTarget debug s roots = .ok r →
      normalizeRepoPath debug s = .ok r ∧
      (∃ root ∈ roots, ∃ base, normalizeRepoPath debug root = .ok base ∧ components base <+: components r) ∧
      RootOfTrust.isProtectedPath debug r = false := by
  refine ⟨?_, ?_, ?_, ?_⟩
  case refine_1 =>
    intro s r normalized
    have relative := normal_relative normalized
    exact ⟨normalizeRepoPath_idem normalized, relative.1, relative.2,
      RootOfTrust.normalizeStrict_of_normalizeRepoPath normalized⟩
  case refine_2 => exact fun s t r first second => RootOfTrust.isProtectedPath_congr first second
  case refine_3 => exact fun s rest isProtected inner descends =>
    RootOfTrust.isProtectedPath_below isProtected inner descends
  case refine_4 =>
    intro s roots r accepted
    have gate := checkDeclaredTarget_ok.mp accepted
    have strict := RootOfTrust.normalizeStrict_of_normalizeRepoPath (normalizeRepoPath_idem gate.1)
    have permitted := (assertPatchPermitted_ok strict).mp gate.2.2
    have tier : ratifierTier < 2 := by decide
    exact ⟨gate.1, withinRoots_iff.mp gate.2.1, permitted.resolve_right (not_not.mpr tier)⟩

theorem root_protects_nothing_below :
    RootOfTrust.isProtectedPath ⟨id, String.join⟩ "." = true ∧
      RootOfTrust.Descends ⟨id, String.join⟩ "README.md" ∧
      RootOfTrust.isProtectedPath ⟨id, String.join⟩ ("." ++ "/" ++ "README.md") = false := by
  refine ⟨by decide, ⟨_, rfl⟩, by decide⟩

end SparkRsi.Governance
