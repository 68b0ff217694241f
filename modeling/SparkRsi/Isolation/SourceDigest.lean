import SparkRsi.Isolation.Manifest

set_option autoImplicit false

namespace SparkRsi.Isolation

open Shared

section Hex

theorem hexDigit_cases (n : Nat) (digit : n < 16) : hexDigit n ≠ '/' ∧ hexDigit n ≠ Char.ofNat 0 := by
  interval_cases n <;> decide

variable (hash : HexHash) (content : Bytes)

theorem hex_chars : (hash.hex content).toList =
    (hash.digest content).flatMap fun b => [hexDigit (b.toNat / 16), hexDigit (b.toNat % 16)] := by
  rw [HexHash.hex, hexEncode, String.toList_ofList]

theorem hex_length : (hash.hex content).toList.length = 64 := by
  rw [hex_chars, List.length_flatMap]
  simp [hash.length_digest]

theorem hex_clean : '/' ∉ (hash.hex content).toList ∧ Char.ofNat 0 ∉ (hash.hex content).toList := by
  have digits : ∀ c ∈ (hash.hex content).toList, c ≠ '/' ∧ c ≠ Char.ofNat 0 := by
    intro c member
    rw [hex_chars] at member
    obtain ⟨b, -, here⟩ := List.mem_flatMap.mp member
    have small : b.toNat < 256 := b.toNat_lt
    rw [List.mem_cons, List.mem_singleton] at here
    cases here with
    | inl high => exact high ▸ hexDigit_cases _ (by omega)
    | inr low => exact low ▸ hexDigit_cases _ (by omega)
  exact ⟨fun member => (digits _ member).1 rfl, fun member => (digits _ member).2 rfl⟩

theorem hex_inj {hash : HexHash} {texts : Set Bytes} (free : Set.InjOn hash.digest texts) {a b : Bytes}
    (first : a ∈ texts) (second : b ∈ texts) (same : hash.hex a = hash.hex b) : a = b := by
  apply free first second
  have decoded := hash.decode_hex a
  rw [same, hash.decode_hex b] at decoded
  exact (Except.ok.inj decoded).symm

end Hex

section Paths

def Before : RelPath → RelPath → Prop
  | x :: a, y :: b => x < y ∨ x = y ∧ Before a b
  | _, _ => False

theorem before_irrefl (p : RelPath) : ¬Before p p := by
  induction p with
  | nil => exact id
  | cons x a ih =>
    intro before
    cases before with
    | inl less => exact lt_irrefl x less
    | inr same => exact ih same.2

def Plain (path : RelPath) : Prop := path ≠ [] ∧ ∀ name ∈ path, ValidName name ∧ ¬skippedName name

/-- A path and the path `y :: b` as one: a text between them makes one name of their last and first names. -/
def merge (h y : Name) (b : RelPath) : RelPath → RelPath
  | [] => y :: b
  | [x] => (x ++ h ++ y) :: b
  | x :: x' :: a => x :: merge h y b (x' :: a)

variable {h y : Name} {b q : RelPath}

theorem merge_ne_nil : merge h y b q ≠ [] := by
  fun_cases merge h y b q <;> exact List.cons_ne_nil _ _

theorem join_append_head (front y : Name) (b : RelPath) :
    Parts.join '/' ((front ++ y) :: b) = front ++ Parts.join '/' (y :: b) := by
  cases b with
  | nil => rw [Parts.join_singleton, Parts.join_singleton]
  | cons z rest =>
    rw [Parts.join_cons '/' _ (List.cons_ne_nil z rest), Parts.join_cons '/' _ (List.cons_ne_nil z rest),
      List.append_assoc]

theorem join_merge (nonempty : q ≠ []) :
    Parts.join '/' (merge h y b q) = Parts.join '/' q ++ h ++ Parts.join '/' (y :: b) := by
  fun_induction merge h y b q with
  | case1 => exact absurd rfl nonempty
  | case2 x => rw [join_append_head, Parts.join_singleton]
  | case3 x x' a ih =>
    rw [Parts.join_cons '/' x merge_ne_nil, ih (List.cons_ne_nil x' a),
      Parts.join_cons '/' x (List.cons_ne_nil x' a)]
    simp

theorem before_merge {a : RelPath} (before : Before a q) : Before a (merge h y b q) := by
  fun_induction merge h y b q generalizing a with
  | case1 => cases a <;> exact before.elim
  | case2 x =>
    cases a with
    | nil => exact before.elim
    | cons z rest =>
      left
      cases before with
      | inl less => exact List.append_assoc x h y ▸ List.Lex.append_right _ (h ++ y) less
      | inr same => cases rest <;> exact same.2.elim
  | case3 x x' rest ih =>
    cases a with
    | nil => exact before.elim
    | cons z others =>
      cases before with
      | inl less => exact Or.inl less
      | inr same => exact Or.inr ⟨same.1, ih same.2⟩

-- A text as long as a digest between two names makes a name, and not one that is skipped.
theorem merged_name {x : Name} (hash : HexHash) (content : Bytes) (first : ValidName x)
    (second : ValidName y) :
    ValidName (x ++ (hash.hex content).toList ++ y) ∧ ¬skippedName (x ++ (hash.hex content).toList ++ y) := by
  have length := hex_length hash content
  have clean := hex_clean hash content
  have long : 64 ≤ (x ++ (hash.hex content).toList ++ y).length := by
    rw [List.length_append, List.length_append]
    omega
  have apart (name : Name) (short : name.length < 64) : x ++ (hash.hex content).toList ++ y ≠ name := by
    intro same
    rw [same] at long
    omega
  constructor
  next =>
    refine ⟨apart _ (by decide), apart _ (by decide), apart _ (by decide), ?_, ?_⟩
    · simp [first.2.2.2.1, second.2.2.2.1, clean.1]
    · simp [first.2.2.2.2, second.2.2.2.2, clean.2]
  next =>
    simp only [skippedName, Bool.or_eq_true, decide_eq_true_eq, not_or]
    exact ⟨⟨apart _ (by decide), apart _ (by decide)⟩, apart _ (by decide)⟩

theorem plain_merge (hash : HexHash) (content : Bytes) (first : Plain q) (second : Plain (y :: b)) :
    Plain (merge (hash.hex content).toList y b q) := by
  refine ⟨merge_ne_nil, ?_⟩
  have parts := first.2
  fun_induction merge (hash.hex content).toList y b q with
  | case1 => exact second.2
  | case2 x =>
    rw [List.forall_mem_cons] at parts ⊢
    have behind := List.forall_mem_cons.mp second.2
    exact ⟨merged_name hash content parts.1.1 behind.1.1, behind.2⟩
  | case3 x x' a ih =>
    rw [List.forall_mem_cons] at parts ⊢
    exact ⟨parts.1, ih ⟨List.cons_ne_nil x' a, parts.2⟩ parts.2⟩

end Paths

namespace Dir

section Trees

def hashed : Dir → List (RelPath × Bytes)
  | empty => []
  | file name content rest => if skippedName name then rest.hashed else ([name], content) :: rest.hashed
  | sub name inner rest =>
    if skippedName name then rest.hashed else (inner.hashed.map fun f => (name :: f.1, f.2)) ++ rest.hashed

theorem collectFilesSorted_eq (dir : Dir) (current : RelPath) :
    dir.collectFilesSorted current =
      dir.hashed.map fun f => (String.ofList (Parts.join '/' (current ++ f.1)), f.2) := by
  induction dir generalizing current with
  | empty => rfl
  | file name content rest ih =>
    rw [collectFilesSorted, hashed]
    split
    next => exact ih current
    next => rw [List.map_cons, ih current]
  | sub name inner rest inner_ih ih =>
    rw [collectFilesSorted, hashed]
    split
    next => exact ih current
    next =>
      rw [List.map_append, inner_ih, ih, List.map_map]
      simp [Function.comp_def]

theorem hashed_eq_files {dir : Dir} (plain : dir.NoSkippedNames) : dir.hashed = dir.files := by
  induction dir with
  | empty => rfl
  | file name content rest ih => rw [hashed, if_neg plain.1, ih plain.2, files]
  | sub name inner rest inner_ih ih => rw [hashed, if_neg plain.1, inner_ih plain.2.1, ih plain.2.2, files]

theorem head_mem_names {dir : Dir} {f : RelPath × Bytes} (member : f ∈ dir.files) :
    ∃ name rest, f.1 = name :: rest ∧ name ∈ dir.names := by
  induction dir with
  | empty => cases member
  | file name content rest ih =>
    cases List.mem_cons.mp member with
    | inl here => exact ⟨name, [], by rw [here], List.mem_cons_self⟩
    | inr later =>
      obtain ⟨other, behind, path, listed⟩ := ih later
      exact ⟨other, behind, path, List.mem_cons_of_mem _ listed⟩
  | sub name inner rest inner_ih ih =>
    cases List.mem_append.mp member with
    | inl below =>
      obtain ⟨g, -, rfl⟩ := List.mem_map.mp below
      exact ⟨name, g.1, rfl, List.mem_cons_self⟩
    | inr later =>
      obtain ⟨other, behind, path, listed⟩ := ih later
      exact ⟨other, behind, path, List.mem_cons_of_mem _ listed⟩

theorem files_before {dir : Dir} (formed : dir.WellFormed) :
    dir.files.Pairwise fun f g => Before f.1 g.1 := by
  induction dir with
  | empty => exact List.Pairwise.nil
  | file name content rest ih =>
    apply List.Pairwise.cons _ (ih formed.2.2)
    intro f member
    obtain ⟨other, behind, path, listed⟩ := head_mem_names member
    rw [path]
    exact Or.inl (formed.2.1 other listed)
  | sub name inner rest inner_ih ih =>
    rw [files, List.pairwise_append]
    refine ⟨?_, ih formed.2.2.2, ?_⟩
    · rw [List.pairwise_map]
      exact (inner_ih formed.2.2.1).imp fun before => Or.inr ⟨rfl, before⟩
    · intro f below g member
      obtain ⟨inside, -, rfl⟩ := List.mem_map.mp below
      obtain ⟨other, behind, path, listed⟩ := head_mem_names member
      rw [path]
      exact Or.inl (formed.2.1 other listed)

theorem files_plain {dir : Dir} (formed : dir.WellFormed) (plain : dir.NoSkippedNames) :
    ∀ f ∈ dir.files, Plain f.1 := by
  induction dir with
  | empty => exact fun f member => absurd member List.not_mem_nil
  | file name content rest ih =>
    rw [files, List.forall_mem_cons]
    refine ⟨⟨List.cons_ne_nil _ _, ?_⟩, ih formed.2.2 plain.2⟩
    intro other member
    rw [List.mem_singleton.mp member]
    exact ⟨formed.1, plain.1⟩
  | sub name inner rest inner_ih ih =>
    intro f member
    cases List.mem_append.mp member with
    | inl below =>
      obtain ⟨g, inside, rfl⟩ := List.mem_map.mp below
      refine ⟨List.cons_ne_nil _ _, ?_⟩
      rw [List.forall_mem_cons]
      exact ⟨⟨formed.1, plain.1⟩, (inner_ih formed.2.2.1 plain.2.1 g inside).2⟩
    | inr later => exact ih formed.2.2.2 plain.2.2 f later

end Trees

section Placing

def place (content : Bytes) (rest : Dir) : RelPath → Dir
  | [] => rest
  | [x] => file x content rest
  | x :: y :: a => sub x (place content empty (y :: a)) rest

def placeTwo (first second : Bytes) : RelPath → RelPath → Dir
  | x :: a, y :: b =>
    if x = y then sub x (placeTwo first second a b) empty else place first (place second empty (y :: b)) (x :: a)
  | _, _ => empty

variable {content : Bytes} {rest : Dir} {path : RelPath}

theorem files_place (nonempty : path ≠ []) :
    (place content rest path).files = (path, content) :: rest.files := by
  fun_induction place content rest path with
  | case1 => exact absurd rfl nonempty
  | case2 rest x => rfl
  | case3 rest x y a ih => rw [files, ih (List.cons_ne_nil y a)]; rfl

theorem names_place {x : Name} {a : RelPath} : (place content rest (x :: a)).names = x :: rest.names := by
  cases a <;> rfl

theorem wellFormed_place (plain : ∀ name ∈ path, ValidName name) (formed : rest.WellFormed)
    (first : ∀ name ∈ path.head?, ∀ other ∈ rest.names, name < other) :
    (place content rest path).WellFormed := by
  fun_induction place content rest path with
  | case1 => exact formed
  | case2 rest x => exact ⟨plain x List.mem_cons_self, first x rfl, formed⟩
  | case3 rest x y a ih =>
    rw [List.forall_mem_cons] at plain
    exact ⟨plain.1, first x rfl, ih plain.2 trivial (fun _ _ _ none => absurd none List.not_mem_nil), formed⟩

theorem noSkippedNames_place (plain : ∀ name ∈ path, ¬skippedName name) (others : rest.NoSkippedNames) :
    (place content rest path).NoSkippedNames := by
  fun_induction place content rest path with
  | case1 => exact others
  | case2 rest x => exact ⟨plain x List.mem_cons_self, others⟩
  | case3 rest x y a ih =>
    rw [List.forall_mem_cons] at plain
    exact ⟨plain.1, ih plain.2 trivial, others⟩

variable {one two : Bytes} {p q : RelPath}

theorem files_placeTwo (before : Before p q) : (placeTwo one two p q).files = [(p, one), (q, two)] := by
  fun_induction placeTwo one two p q with
  | case1 a x b ih =>
    have deeper : Before a b := (before.resolve_left (lt_irrefl x)).2
    rw [files, ih deeper]
    rfl
  | case2 x a y b apart =>
    rw [files_place (List.cons_ne_nil x a), files_place (List.cons_ne_nil y b)]
    rfl
  | case3 p q unmatched =>
    cases p with
    | nil => exact before.elim
    | cons x a =>
      cases q with
      | nil => exact before.elim
      | cons y b => exact absurd rfl (unmatched x a y b rfl)

theorem wellFormed_placeTwo (before : Before p q) (first : ∀ name ∈ p, ValidName name)
    (second : ∀ name ∈ q, ValidName name) : (placeTwo one two p q).WellFormed := by
  fun_induction placeTwo one two p q with
  | case1 a x b ih =>
    rw [List.forall_mem_cons] at first second
    have deeper : Before a b := (before.resolve_left (lt_irrefl x)).2
    exact ⟨first.1, fun _ none => absurd none List.not_mem_nil, ih deeper first.2 second.2, trivial⟩
  | case2 x a y b apart =>
    have less := before.resolve_right fun same => apart same.1
    apply wellFormed_place first
    next => exact wellFormed_place second trivial fun _ _ _ none => absurd none List.not_mem_nil
    next =>
      intro name head other listed
      rw [names_place, names, List.mem_singleton] at listed
      cases head
      rw [listed]
      exact less
  | case3 => trivial

theorem noSkippedNames_placeTwo (first : ∀ name ∈ p, ¬skippedName name)
    (second : ∀ name ∈ q, ¬skippedName name) :
    (placeTwo one two p q).NoSkippedNames := by
  fun_induction placeTwo one two p q with
  | case1 a x b ih =>
    rw [List.forall_mem_cons] at first second
    exact ⟨first.1, ih first.2 second.2, trivial⟩
  | case2 x a y b apart => exact noSkippedNames_place first (noSkippedNames_place second trivial)
  | case3 => trivial

end Placing

end Dir

section Texts

variable (hash : HexHash)

def spelled (f : RelPath × Bytes) : List Char := Parts.join '/' f.1 ++ (hash.hex f.2).toList

def sourceText (files : List (RelPath × Bytes)) : List Char := files.flatMap (spelled hash)

theorem sourceText_cons (f : RelPath × Bytes) (rest : List (RelPath × Bytes)) :
    sourceText hash (f :: rest) = spelled hash f ++ sourceText hash rest := List.flatMap_cons

-- The bytes that are hashed are a text.
theorem hashedBytes_eq (dir : Dir) :
    hashedBytes hash (dir.collectFilesSorted []) = utf8 (String.ofList (sourceText hash dir.hashed)) := by
  rw [dir.collectFilesSorted_eq, hashedBytes]
  induction dir.hashed with
  | nil => rfl
  | cons f rest ih =>
    rw [List.map_cons, List.flatMap_cons, ih, sourceText_cons, String.ofList_append, utf8_append, spelled,
      String.ofList_append, utf8_append, String.ofList_toList]
    rfl

theorem spelled_ne_nil (f : RelPath × Bytes) : spelled hash f ≠ [] := by
  intro none
  have length := congrArg List.length none
  rw [spelled, List.length_append, hex_length] at length
  simp at length

theorem spelled_inj {hash : HexHash} {f g : RelPath × Bytes} (same : spelled hash f = spelled hash g) :
    Parts.join '/' f.1 = Parts.join '/' g.1 ∧ hash.hex f.2 = hash.hex g.2 := by
  have parts := List.append_inj' same (by rw [hex_length, hex_length])
  exact ⟨parts.1, String.toList_inj.mp parts.2⟩

theorem join_inj {p q : RelPath} (first : Plain p) (second : Plain q)
    (same : Parts.join '/' p = Parts.join '/' q) :
    p = q := by
  have split := congrArg (List.splitOn '/') same
  rwa [Parts.splitOn_join '/' (fun name member => (first.2 name member).1.2.2.2.1) first.1,
    Parts.splitOn_join '/' (fun name member => (second.2 name member).1.2.2.2.1) second.1] at split

-- The text of files is the text of one file, whose path comes behind what the first file comes behind.
theorem exists_collapsed (f : RelPath × Bytes) (others : List (RelPath × Bytes))
    (plain : ∀ g ∈ f :: others, Plain g.1) :
    ∃ m : RelPath × Bytes, Plain m.1 ∧ sourceText hash (f :: others) = spelled hash m ∧
      (∃ g ∈ f :: others, m.2 = g.2) ∧ ∀ a, Before a f.1 → Before a m.1 := by
  induction others generalizing f with
  | nil =>
    refine ⟨f, plain f List.mem_cons_self, ?_, ⟨f, List.mem_cons_self, rfl⟩, fun a before => before⟩
    simp [sourceText]
  | cons g rest ih =>
    rw [List.forall_mem_cons] at plain
    obtain ⟨m, smooth, text, ⟨k, listed, content⟩, -⟩ := ih g plain.2
    obtain ⟨path, last⟩ := m
    cases path with
    | nil => exact absurd rfl smooth.1
    | cons y b =>
      refine ⟨(merge (hash.hex f.2).toList y b f.1, last), plain_merge hash f.2 plain.1 smooth, ?_,
        ⟨k, List.mem_cons_of_mem _ listed, content⟩, fun a before => before_merge before⟩
      rw [sourceText_cons, text, spelled, spelled, spelled, join_merge plain.1.1]
      simp

end Texts

section Toggling

namespace Dir

def targetName : Name := "target".toList

theorem skipped_targetName : skippedName targetName := by decide

def toggle : Dir → Dir
  | empty => file targetName [] empty
  | file name content rest =>
    if targetName < name then file targetName [] (file name content rest)
    else if name = targetName then rest
    else file name content rest.toggle
  | sub name inner rest =>
    if targetName < name then file targetName [] (sub name inner rest) else sub name inner rest.toggle

theorem names_toggle {dir : Dir} {name : Name} (member : name ∈ dir.toggle.names) :
    name = targetName ∨ name ∈ dir.names := by
  induction dir with
  | empty => exact Or.inl (List.mem_singleton.mp member)
  | file other content rest ih =>
    rw [toggle] at member
    split at member
    next => exact List.mem_cons.mp member
    next =>
      split at member
      next => exact Or.inr (List.mem_cons_of_mem _ member)
      next =>
        cases List.mem_cons.mp member with
        | inl here => exact Or.inr (here ▸ List.mem_cons_self)
        | inr later => exact (ih later).imp_right (List.mem_cons_of_mem _)
  | sub other inner rest inner_ih ih =>
    rw [toggle] at member
    split at member
    next => exact List.mem_cons.mp member
    next =>
      cases List.mem_cons.mp member with
      | inl here => exact Or.inr (here ▸ List.mem_cons_self)
      | inr later => exact (ih later).imp_right (List.mem_cons_of_mem _)

theorem below_toggle {dir : Dir} {name : Name} (below : ∀ other ∈ dir.names, name < other)
    (first : name < targetName) :
    ∀ other ∈ dir.toggle.names, name < other := by
  intro other member
  cases names_toggle member with
  | inl same => rwa [same]
  | inr old => exact below other old

theorem toggle_formed {dir : Dir} (formed : dir.WellFormed) (dirs : dir.NoSkippedDirs) :
    dir.toggle.WellFormed ∧ dir.toggle.NoSkippedDirs := by
  have valid : ValidName targetName := by decide
  induction dir with
  | empty => exact ⟨⟨valid, fun _ none => absurd none List.not_mem_nil, trivial⟩, trivial⟩
  | file name content rest ih =>
    rw [toggle]
    split
    next early =>
      refine ⟨⟨valid, ?_, formed⟩, dirs⟩
      rw [names, List.forall_mem_cons]
      exact ⟨early, fun other member => early.trans (formed.2.1 other member)⟩
    next late =>
      split
      next => exact ⟨formed.2.2, dirs⟩
      next apart =>
        have less : name < targetName := lt_of_le_of_ne (not_lt.mp late) apart
        have inner := ih formed.2.2 dirs
        exact ⟨⟨formed.1, below_toggle formed.2.1 less, inner.1⟩, inner.2⟩
  | sub name inner rest inner_ih ih =>
    rw [toggle]
    split
    next early =>
      refine ⟨⟨valid, ?_, formed⟩, dirs⟩
      rw [names, List.forall_mem_cons]
      exact ⟨early, fun other member => early.trans (formed.2.1 other member)⟩
    next late =>
      have apart : name ≠ targetName := fun same => dirs.1 (same ▸ skipped_targetName)
      have less : name < targetName := lt_of_le_of_ne (not_lt.mp late) apart
      have others := ih formed.2.2.2 dirs.2.2
      exact ⟨⟨formed.1, below_toggle formed.2.1 less, formed.2.2.1, others.1⟩, dirs.1, dirs.2.1, others.2⟩

theorem hashed_toggle (dir : Dir) : dir.toggle.hashed = dir.hashed := by
  induction dir with
  | empty => simp [toggle, hashed, skipped_targetName]
  | file name content rest ih =>
    rw [toggle]
    split
    next => rw [hashed, if_pos skipped_targetName]
    next =>
      split
      next same => rw [hashed, same, if_pos skipped_targetName]
      next => rw [hashed, ih, hashed]
  | sub name inner rest inner_ih ih =>
    rw [toggle]
    split
    next => rw [hashed, if_pos skipped_targetName]
    next => rw [hashed, ih, hashed]

theorem target_notMem {dir : Dir} (above : ∀ other ∈ dir.names, targetName < other) :
    [targetName] ∉ dir.files.map Prod.fst := by
  intro listed
  obtain ⟨f, member, path⟩ := List.mem_map.mp listed
  obtain ⟨name, rest, here, inside⟩ := head_mem_names member
  rw [path] at here
  cases here
  exact lt_irrefl _ (above _ inside)

theorem target_toggle {dir : Dir} (formed : dir.WellFormed) (dirs : dir.NoSkippedDirs) :
    [targetName] ∈ dir.toggle.files.map Prod.fst ↔ [targetName] ∉ dir.files.map Prod.fst := by
  induction dir with
  | empty => simp [toggle, files]
  | file name content rest ih =>
    rw [toggle]
    split
    next early =>
      have none : [targetName] ∉ (file name content rest).files.map Prod.fst := by
        apply target_notMem
        rw [names, List.forall_mem_cons]
        exact ⟨early, fun other member => early.trans (formed.2.1 other member)⟩
      exact iff_of_true List.mem_cons_self none
    next late =>
      split
      next same =>
        rw [same] at formed ⊢
        exact iff_of_false (target_notMem formed.2.1) (not_not.mpr List.mem_cons_self)
      next apart =>
        have other : [targetName] ≠ [name] := fun same => apart (List.singleton_inj.mp same).symm
        rw [files, List.map_cons, List.mem_cons, files, List.map_cons, List.mem_cons, or_iff_right other,
          or_iff_right other]
        exact ih formed.2.2 dirs
  | sub name inner rest inner_ih ih =>
    have deeper : [targetName] ∉ (inner.files.map fun f => (name :: f.1, f.2)).map Prod.fst := by
      rw [List.map_map]
      intro listed
      obtain ⟨f, member, path⟩ := List.mem_map.mp listed
      obtain ⟨x, a, here, -⟩ := head_mem_names member
      have lengths := congrArg List.length path
      simp [here] at lengths
    rw [toggle]
    split
    next early =>
      have none : [targetName] ∉ (sub name inner rest).files.map Prod.fst := by
        apply target_notMem
        rw [names, List.forall_mem_cons]
        exact ⟨early, fun other member => early.trans (formed.2.1 other member)⟩
      exact iff_of_true List.mem_cons_self none
    next late =>
      rw [files, List.map_append, List.mem_append, files, List.map_append, List.mem_append,
        or_iff_right deeper, or_iff_right deeper]
      exact ih formed.2.2.2 dirs.2.2

theorem contentAt_isSome {dir : Dir} {path : RelPath} :
    (dir.contentAt path).isSome ↔ path ∈ dir.files.map Prod.fst := by
  rw [contentAt]
  induction dir.files with
  | nil => simp
  | cons f rest ih =>
    rw [List.lookup_cons, List.map_cons, List.mem_cons]
    by_cases same : path = f.1
    next => simp [same]
    next => rw [beq_false_of_ne same, or_iff_right same, ih]

end Dir

end Toggling

section Standing

variable (hash : HexHash) (texts : Set Bytes)

def HashedWithin (dir : Dir) : Prop :=
  (∀ f ∈ dir.hashed, f.2 ∈ texts) ∧ hashedBytes hash (dir.collectFilesSorted []) ∈ texts

/-- The digest stands for this tree: no other tree of the domain has it. -/
def Stands (domain : Dir → Prop) (dir : Dir) : Prop :=
  ∀ other : Dir, domain other → HashedWithin hash texts other → treeDigest hash other = treeDigest hash dir →
    other.contentAt = dir.contentAt

def Cut (path : RelPath) : Prop :=
  ∃ p q content, content ∈ texts ∧ Plain p ∧ Plain q ∧ Before p q ∧
    Parts.join '/' path = Parts.join '/' p ++ (hash.hex content).toList ++ Parts.join '/' q

variable {hash texts}

theorem treeDigest_congr {dir other : Dir}
    (same : sourceText hash other.hashed = sourceText hash dir.hashed) :
    hashedBytes hash (other.collectFilesSorted []) = hashedBytes hash (dir.collectFilesSorted []) := by
  rw [hashedBytes_eq, hashedBytes_eq, same]

theorem text_of_digest (free : Set.InjOn hash.digest texts) {dir other : Dir}
    (within : HashedWithin hash texts dir) (inside : HashedWithin hash texts other)
    (same : treeDigest hash other = treeDigest hash dir) :
    sourceText hash other.hashed = sourceText hash dir.hashed := by
  have bytes := hex_inj free inside.2 within.2 same
  rw [hashedBytes_eq, hashedBytes_eq] at bytes
  exact String.ofList_injective (utf8_injective bytes)

-- A file whose name is skipped changes no digest.
theorem toggled_not_standing {dir : Dir} (formed : dir.WellFormed) (dirs : dir.NoSkippedDirs)
    (within : HashedWithin hash texts dir) :
    ¬Stands hash texts (fun d => d.WellFormed ∧ d.NoSkippedDirs) dir := by
  intro stands
  have bytes : hashedBytes hash (dir.toggle.collectFilesSorted []) =
      hashedBytes hash (dir.collectFilesSorted []) :=
    treeDigest_congr (congrArg (sourceText hash) dir.hashed_toggle)
  have inside : HashedWithin hash texts dir.toggle := by
    rw [HashedWithin, dir.hashed_toggle, bytes]
    exact within
  have same := stands dir.toggle (Dir.toggle_formed formed dirs) inside (congrArg hash.hex bytes)
  have flipped := Dir.target_toggle formed dirs
  rw [← Dir.contentAt_isSome, ← Dir.contentAt_isSome, same] at flipped
  exact iff_not_self flipped

def PlainTree (dir : Dir) : Prop := dir.WellFormed ∧ dir.NoSkippedNames

variable {dir : Dir}

theorem Stands.of_text (stands : Stands hash texts PlainTree dir) (plain : dir.NoSkippedNames)
    (within : HashedWithin hash texts dir) {other : Dir} (plainTree : PlainTree other)
    (text : sourceText hash other.files = sourceText hash dir.files)
    (contents : ∀ f ∈ other.files, f.2 ∈ texts) :
    other.contentAt = dir.contentAt := by
  have same : sourceText hash other.hashed = sourceText hash dir.hashed := by
    rwa [Dir.hashed_eq_files plainTree.2, Dir.hashed_eq_files plain]
  have bytes := treeDigest_congr same
  apply stands other plainTree _ (congrArg hash.hex bytes)
  rw [HashedWithin, Dir.hashed_eq_files plainTree.2, bytes]
  exact ⟨contents, within.2⟩

theorem mem_paths_congr {other : Dir} (same : other.contentAt = dir.contentAt) (path : RelPath) :
    path ∈ other.files.map Prod.fst ↔ path ∈ dir.files.map Prod.fst := by
  rw [← Dir.contentAt_isSome, ← Dir.contentAt_isSome, same]

-- Two files or more have the text of one.
theorem merged_not_standing (plainTree : PlainTree dir) (within : HashedWithin hash texts dir)
    {f g : RelPath × Bytes} {rest : List (RelPath × Bytes)} (files : dir.files = f :: g :: rest) :
    ¬Stands hash texts PlainTree dir := by
  intro stands
  have paths := Dir.files_plain plainTree.1 plainTree.2
  have before := Dir.files_before plainTree.1
  rw [files] at paths before
  obtain ⟨⟨path, content⟩, smooth, text, ⟨k, listed, last⟩, -⟩ := exists_collapsed hash f (g :: rest) paths
  have one : (Dir.place content .empty path).files = [(path, content)] := Dir.files_place smooth.1
  have formed : PlainTree (Dir.place content .empty path) :=
    ⟨Dir.wellFormed_place (fun name member => (smooth.2 name member).1) trivial
        fun _ _ _ none => absurd none List.not_mem_nil,
      Dir.noSkippedNames_place (fun name member => (smooth.2 name member).2) trivial⟩
  have same := stands.of_text plainTree.2 within formed
    (by rw [one, files, text, sourceText_cons]; exact List.append_nil _)
    (by
      rw [one, List.forall_mem_singleton]
      rw [← files, ← Dir.hashed_eq_files plainTree.2] at listed
      exact last ▸ within.1 k listed)
  have listed (h : RelPath × Bytes) (member : h ∈ f :: g :: rest) : h.1 = path := by
    have there := (mem_paths_congr same h.1).mpr (files ▸ List.mem_map_of_mem member)
    rw [one] at there
    exact List.mem_singleton.mp there
  have first := listed f List.mem_cons_self
  have second := listed g (List.mem_cons_of_mem _ List.mem_cons_self)
  have apart := (List.pairwise_cons.mp before).1 g List.mem_cons_self
  rw [first, second] at apart
  exact before_irrefl path apart

-- One file whose path can be cut has the text of two.
theorem cut_not_standing (plain : dir.NoSkippedNames) (within : HashedWithin hash texts dir) {path : RelPath}
    {last : Bytes} (files : dir.files = [(path, last)]) (cut : Cut hash texts path) :
    ¬Stands hash texts PlainTree dir := by
  intro stands
  obtain ⟨p, q, content, listed, first, second, before, join⟩ := cut
  have two : (Dir.placeTwo content last p q).files = [(p, content), (q, last)] := Dir.files_placeTwo before
  have formed : PlainTree (Dir.placeTwo content last p q) :=
    ⟨Dir.wellFormed_placeTwo before (fun name member => (first.2 name member).1)
        fun name member => (second.2 name member).1,
      Dir.noSkippedNames_placeTwo (fun name member => (first.2 name member).2)
        fun name member => (second.2 name member).2⟩
  have lastIn : last ∈ texts := by
    apply within.1 (path, last)
    rw [Dir.hashed_eq_files plain, files]
    exact List.mem_singleton_self _
  have same := stands.of_text plain within formed
    (by
      rw [two, files, sourceText_cons, sourceText_cons, sourceText_cons, spelled, spelled, spelled, join]
      simp)
    (by
      rw [two, List.forall_mem_cons, List.forall_mem_singleton]
      exact ⟨listed, lastIn⟩)
  have single (r : RelPath) (member : r ∈ [p, q]) : r = path := by
    have there := (mem_paths_congr same r).mp (by rw [two]; exact member)
    rw [files] at there
    exact List.mem_singleton.mp there
  rw [single p List.mem_cons_self, single q (List.mem_cons_of_mem _ List.mem_cons_self)] at before
  exact before_irrefl path before

theorem contentAt_congr {other : Dir} (same : other.files = dir.files) : other.contentAt = dir.contentAt := by
  funext path
  rw [Dir.contentAt, same, Dir.contentAt]

theorem empty_standing (free : Set.InjOn hash.digest texts) (plain : dir.NoSkippedNames)
    (within : HashedWithin hash texts dir) (files : dir.files = []) : Stands hash texts PlainTree dir := by
  intro other plainTree inside same
  have text := text_of_digest free within inside same
  rw [Dir.hashed_eq_files plain, Dir.hashed_eq_files plainTree.2, files] at text
  apply contentAt_congr
  rw [files]
  cases listed : other.files with
  | nil => rfl
  | cons g rest =>
    rw [listed, sourceText_cons] at text
    exact absurd (List.append_eq_nil_iff.mp text).1 (spelled_ne_nil hash g)

theorem uncut_standing (free : Set.InjOn hash.digest texts) (plainTree : PlainTree dir)
    (within : HashedWithin hash texts dir) {path : RelPath} {last : Bytes}
    (files : dir.files = [(path, last)]) (whole : ¬Cut hash texts path) :
    Stands hash texts PlainTree dir := by
  intro other otherTree inside same
  have text := text_of_digest free within inside same
  have own := within.1
  have others := inside.1
  have paths := Dir.files_plain otherTree.1 otherTree.2
  have before := Dir.files_before otherTree.1
  have smooth := Dir.files_plain plainTree.1 plainTree.2
  rw [Dir.hashed_eq_files plainTree.2, files] at own text
  rw [files] at smooth
  rw [List.forall_mem_singleton] at smooth own
  rw [Dir.hashed_eq_files otherTree.2] at others text
  have alone : sourceText hash [(path, last)] = spelled hash (path, last) := by
    rw [sourceText_cons]
    exact List.append_nil _
  apply contentAt_congr
  rw [files]
  cases listed : other.files with
  | nil =>
    rw [listed, alone] at text
    exact absurd text.symm (spelled_ne_nil hash _)
  | cons g rest =>
    rw [listed] at text others paths before
    cases rest with
    | nil =>
      rw [alone, sourceText_cons] at text
      obtain ⟨joins, digests⟩ := spelled_inj ((List.append_nil _).symm.trans text)
      have sameContent := hex_inj free (others g List.mem_cons_self) own digests
      have samePath := join_inj (paths g List.mem_cons_self) smooth joins
      exact congrArg (· :: []) (Prod.ext samePath sameContent)
    | cons k more =>
      exfalso
      rw [List.forall_mem_cons] at paths others
      obtain ⟨m, merged, onward, -, behind⟩ := exists_collapsed hash k more paths.2
      rw [alone, sourceText_cons, onward, spelled, spelled, spelled, ← List.append_assoc] at text
      have parts := List.append_inj' text (by rw [hex_length, hex_length])
      have next := (List.pairwise_cons.mp before).1 k List.mem_cons_self
      exact whole ⟨g.1, m.1, g.2, others.1, paths.1, merged, behind g.1 next, parts.1.symm⟩

end Standing

/-- With files of skipped names about, no tree's digest stands for it. Without them it does for a tree of no
file, and for one of one file whose path cannot be cut at a digest. -/
theorem source_digest_stands_iff {hash : HexHash} {texts : Set Bytes} (free : Set.InjOn hash.digest texts)
    {dir : Dir} (formed : dir.WellFormed) (within : HashedWithin hash texts dir) :
    (dir.NoSkippedDirs → ¬Stands hash texts (fun d => d.WellFormed ∧ d.NoSkippedDirs) dir) ∧
      (dir.NoSkippedNames → (Stands hash texts PlainTree dir ↔
        dir.files = [] ∨ ∃ path content, dir.files = [(path, content)] ∧ ¬Cut hash texts path)) := by
  constructor
  next => exact fun dirs => toggled_not_standing formed dirs within
  next =>
    intro plain
    constructor
    next =>
      intro stands
      cases files : dir.files with
      | nil => exact Or.inl rfl
      | cons f rest =>
        cases rest with
        | nil => exact Or.inr ⟨f.1, f.2, rfl, fun cut => cut_not_standing plain within files cut stands⟩
        | cons g more => exact absurd stands (merged_not_standing ⟨formed, plain⟩ within files)
    next =>
      intro small
      cases small with
      | inl none => exact empty_standing free plain within none
      | inr one =>
        obtain ⟨path, content, files, whole⟩ := one
        exact uncut_standing free ⟨formed, plain⟩ within files whole

def loneFile : Dir := .file ['a'] [] .empty

theorem source_digest_stands_iff_lone :
    (loneFile.NoSkippedDirs → ¬Stands sha256 {[], hashedBytes sha256 (loneFile.collectFilesSorted [])}
        (fun d => d.WellFormed ∧ d.NoSkippedDirs) loneFile) ∧
      (loneFile.NoSkippedNames →
        (Stands sha256 {[], hashedBytes sha256 (loneFile.collectFilesSorted [])} PlainTree loneFile ↔
          loneFile.files = [] ∨ ∃ path content, loneFile.files = [(path, content)] ∧
            ¬Cut sha256 {[], hashedBytes sha256 (loneFile.collectFilesSorted [])} path)) := by
  have apart : sha256.digest [] ≠ sha256.digest (hashedBytes sha256 (loneFile.collectFilesSorted [])) := by
    decide +kernel
  apply source_digest_stands_iff
  case free =>
    intro a first b second same
    cases first with
    | inl none =>
      cases second with
      | inl also => rw [none, also]
      | inr text => exact absurd (none ▸ text ▸ same) apart
    | inr text =>
      cases second with
      | inl none => exact absurd (none ▸ text ▸ same.symm) apart
      | inr also => rw [text, also]
  case formed => exact ⟨by decide, fun _ none => absurd none List.not_mem_nil, trivial⟩
  case within => exact ⟨fun f member => Or.inl (by rw [List.mem_singleton.mp member]), Or.inr rfl⟩

def twoFiles : Dir := .file ['a'] [] (.file ['b'] [] .empty)

def mergedFile : Dir := .file (['a'] ++ (sha256.hex []).toList ++ ['b']) [] .empty

theorem merged_names_share_digest :
    (PlainTree twoFiles ∧ PlainTree mergedFile) ∧ treeDigest sha256 twoFiles = treeDigest sha256 mergedFile ∧
      twoFiles.contentAt ≠ mergedFile.contentAt := by
  have named := merged_name sha256 [] (show ValidName ['a'] by decide) (show ValidName ['b'] by decide)
  have two : PlainTree twoFiles := by
    refine ⟨⟨by decide, ?_, by decide, fun _ none => absurd none List.not_mem_nil, trivial⟩, by decide, by decide, trivial⟩
    intro name member
    rw [List.mem_singleton.mp member]
    decide
  have one : PlainTree mergedFile :=
    ⟨⟨named.1, fun _ none => absurd none List.not_mem_nil, trivial⟩, named.2, trivial⟩
  refine ⟨⟨two, one⟩, ?_, ?_⟩
  · apply congrArg sha256.hex
    apply treeDigest_congr
    rw [Dir.hashed_eq_files two.2, Dir.hashed_eq_files one.2]
    simp [twoFiles, mergedFile, Dir.files, sourceText, spelled]
  · intro same
    have there := (mem_paths_congr same [['a']]).mp List.mem_cons_self
    have length := congrArg List.length (List.head_eq_of_cons_eq (List.mem_singleton.mp there))
    rw [List.length_append, List.length_append, hex_length] at length
    simp at length

end SparkRsi.Isolation
