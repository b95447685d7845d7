import Mathlib.Data.List.Infix
import Mathlib.Data.Set.Lattice
import Mathlib.Order.CompletePartialOrder
import Mathlib.Order.Interval.Set.Basic

/-! # POSIX paths

    Paths as texts denote them, with no file system behind them: a root and
    the components below it, without empty components and without `.`.

    A path is below every path that is an initial part of it. The paths above
    a given one are in line, so the regions below two paths meet only when one
    of the two contains the other.
-/

namespace Lib

/-! ### Forests -/

/-- An order in which everything below one element is in line. -/
class Forest (α : Type) extends PartialOrder α where
  in_line : ∀ a b c : α, a ≤ c → b ≤ c → a ≤ b ∨ b ≤ a

/-- One of the two regions holds the other. -/
def Nested {α : Type} [LE α] (a b : α) : Prop := a ≤ b ∨ b ≤ a

instance {α : Type} [LE α] [DecidableRel (α := α) (· ≤ ·)] : DecidableRel (α := α) Nested :=
  fun a b => inferInstanceAs (Decidable (a ≤ b ∨ b ≤ a))

/-- Regions of a forest meet only by nesting. -/
theorem Forest.disjoint_Ici_iff {α : Type} [Forest α] {a b : α} :
    Disjoint (Set.Ici a) (Set.Ici b) ↔ ¬ Nested a b := by
  rw [Set.disjoint_left]
  constructor
  · intro h hnested
    rcases hnested with hab | hba
    · exact h (Set.mem_Ici.mpr hab) (Set.mem_Ici.mpr le_rfl)
    · exact h (Set.mem_Ici.mpr le_rfl) (Set.mem_Ici.mpr hba)
  -- a point of both regions puts their ends in line
  · intro h c hac hbc
    exact h (Forest.in_line a b c hac hbc)

/-! ### Paths -/

/-- What a path starts at: nothing, `/`, or exactly two slashes. -/
inductive PathRoot
  | relative
  | single
  | double
  deriving DecidableEq, Repr

/-- What may stand between two slashes of a path. -/
def IsComponent (c : String) : Prop := c ≠ "" ∧ c ≠ "." ∧ '/' ∉ c.toList

instance (c : String) : Decidable (IsComponent c) :=
  inferInstanceAs (Decidable (c ≠ "" ∧ c ≠ "." ∧ '/' ∉ c.toList))

/-- A path in the spelling that only its root and its components determine. -/
structure PosixPath where
  root : PathRoot
  parts : List String
  valid : ∀ c ∈ parts, IsComponent c
  deriving DecidableEq

namespace PosixPath

@[ext] theorem ext {p q : PosixPath} (hroot : p.root = q.root) (hparts : p.parts = q.parts) :
    p = q := by
  cases p; cases q; simp_all

/-! #### Reading -/

/-- `os.path.splitroot` -/
def split_root : List Char → PathRoot × List Char
  -- three slashes or more are one
  | '/' :: '/' :: '/' :: rest => (.single, '/' :: '/' :: rest)
  | '/' :: '/' :: rest => (.double, rest)
  | '/' :: rest => (.single, rest)
  | rest => (.relative, rest)

/-- The components of a text. -/
def components (cs : List Char) : List String :=
  ((cs.splitOn '/').map String.ofList).filter (fun c => c ≠ "" ∧ c ≠ ".")

theorem not_mem_of_mem_splitOn {x : Char} {cs : List Char} : ∀ w ∈ cs.splitOn x, x ∉ w := by
  induction cs with
  | nil => simp
  | cons c cs ih =>
    intro w hw
    rw [List.splitOn_cons_eq_if_modifyHead] at hw
    by_cases hc : c = x
    · simp only [hc, beq_self_eq_true, if_true, List.mem_cons] at hw
      rcases hw with rfl | hw
      · exact List.not_mem_nil
      · exact ih w hw
    · simp only [beq_iff_eq, hc, if_false] at hw
      -- the first word grows by `c`; the others are those of the rest
      cases hs : cs.splitOn x with
      | nil => simp [hs] at hw
      | cons v vs =>
        simp only [hs, List.modifyHead_cons, List.mem_cons] at hw
        rcases hw with rfl | hw
        · have hv : x ∉ v := ih v (by rw [hs]; exact List.mem_cons_self)
          simp [Ne.symm hc, hv]
        · exact ih w (by rw [hs]; exact List.mem_cons_of_mem _ hw)

theorem components_valid {cs : List Char} : ∀ c ∈ components cs, IsComponent c := by
  intro c hc
  simp only [components, List.mem_filter, List.mem_map, decide_eq_true_eq] at hc
  obtain ⟨⟨w, hw, rfl⟩, hne, hdot⟩ := hc
  refine ⟨hne, hdot, ?_⟩
  rw [String.toList_ofList]
  exact not_mem_of_mem_splitOn w hw

/-- `PurePosixPath(s)` -/
def ofString (s : String) : PosixPath where
  root := (split_root s.toList).1
  parts := components (split_root s.toList).2
  valid := components_valid

/-! #### Writing -/

/-- The slashes a path starts with. -/
def root_chars : PathRoot → List Char
  | .relative => []
  | .single => ['/']
  | .double => ['/', '/']

/-- `str(p)` -/
def str (p : PosixPath) : String :=
  if p.root = .relative ∧ p.parts = [] then "."
  else String.ofList (root_chars p.root ++ ['/'].intercalate (p.parts.map String.toList))

theorem components_intercalate {parts : List String} (h : ∀ c ∈ parts, IsComponent c) :
    components (['/'].intercalate (parts.map String.toList)) = parts := by
  cases hparts : parts with
  | nil => decide
  | cons c cs =>
    -- splitting undoes the join, and no component is left out
    rw [components, List.splitOn_intercalate, ← hparts, List.map_map, List.filter_eq_self.mpr]
    · simp [Function.comp_def]
    · intro d hd
      obtain ⟨hne, hdot, -⟩ := h d (by simpa [Function.comp_def] using hd)
      simp [hne, hdot]
    · intro l hl
      obtain ⟨d, hd, rfl⟩ := List.mem_map.mp hl
      exact (h d (hparts ▸ hd)).2.2
    · simp

/-- A text of components starts with no slash. -/
theorem intercalate_not_slash {parts : List String} (h : ∀ c ∈ parts, IsComponent c)
    (cs : List Char) : ['/'].intercalate (parts.map String.toList) ≠ '/' :: cs := by
  cases hparts : parts with
  | nil => simp
  | cons c rest =>
    obtain ⟨hne, -, hslash⟩ := h c (by simp [hparts])
    cases hc : c.toList with
    | nil => exact absurd (String.toList_eq_nil_iff.mp hc) hne
    | cons x xs =>
      rw [hc] at hslash
      intro heq
      have hx : x = '/' := by
        cases rest <;> simp [hc] at heq <;> exact heq.1
      exact hslash (by simp [hx])

/-- Past a root, the components are what is left. -/
theorem split_root_append {rest : List Char} (h : ∀ cs, rest ≠ '/' :: cs) (root : PathRoot) :
    split_root (root_chars root ++ rest) = (root, rest) := by
  cases root with
  | relative =>
    match rest with
    | [] => rfl
    | c :: cs =>
      have hc : c ≠ '/' := fun hc => h cs (by rw [hc])
      simp [root_chars, split_root, hc]
  | single =>
    match rest with
    | [] => rfl
    | c :: cs =>
      have hc : c ≠ '/' := fun hc => h cs (by rw [hc])
      simp [root_chars, split_root, hc]
  | double =>
    match rest with
    | [] => rfl
    | c :: cs =>
      have hc : ∀ ds, c :: cs ≠ '/' :: ds := h
      rw [root_chars, List.cons_append, List.cons_append, List.nil_append, split_root]
      exact fun ds hds => hc ds hds

/-- Reading what was written gives the path back. -/
@[simp] theorem ofString_str (p : PosixPath) : ofString p.str = p := by
  by_cases hempty : p.root = .relative ∧ p.parts = []
  · have hdot : p.str = "." := by rw [str, if_pos hempty]
    rw [hdot]
    apply PosixPath.ext
    · rw [hempty.1]; rfl
    · rw [hempty.2]; rfl
  -- the root is read off the slashes, the components off the rest
  · have hstr : p.str.toList
        = root_chars p.root ++ ['/'].intercalate (p.parts.map String.toList) := by
      rw [str, if_neg hempty, String.toList_ofList]
    have hsplit := split_root_append (intercalate_not_slash p.valid) p.root
    apply PosixPath.ext
    · simp only [ofString, hstr, hsplit]
    · simp only [ofString, hstr, hsplit]
      exact components_intercalate p.valid

/-! #### Below a path -/

/-- `p.is_absolute()` -/
def is_absolute (p : PosixPath) : Bool := p.root != .relative

/-- `p / name`, for a name that is one component. -/
def child (p : PosixPath) (name : String) (h : IsComponent name) : PosixPath where
  root := p.root
  parts := p.parts ++ [name]
  valid := by
    intro c hc
    rcases List.mem_append.mp hc with hc | hc
    · exact p.valid c hc
    · rw [List.mem_singleton.mp hc]
      exact h

instance : LE PosixPath := ⟨fun p q => p.root = q.root ∧ p.parts <+: q.parts⟩

instance : DecidableRel (α := PosixPath) (· ≤ ·) := fun p q =>
  inferInstanceAs (Decidable (p.root = q.root ∧ p.parts <+: q.parts))

instance : Forest PosixPath where
  le_refl p := ⟨rfl, List.prefix_refl _⟩
  le_trans p q r hpq hqr := ⟨hpq.1.trans hqr.1, hpq.2.trans hqr.2⟩
  le_antisymm p q hpq hqp := PosixPath.ext hpq.1 (hpq.2.eq_of_length_le hqp.2.length_le)
  in_line p q r hpr hqr := by
    rcases List.prefix_or_prefix_of_prefix hpr.2 hqr.2 with h | h
    · exact Or.inl ⟨hpr.1.trans hqr.1.symm, h⟩
    · exact Or.inr ⟨hqr.1.trans hpr.1.symm, h⟩

/-- `p.parents`, nearest first. -/
def parents (p : PosixPath) : List PosixPath :=
  (List.range p.parts.length).reverse.map (fun n =>
    ⟨p.root, p.parts.take n, fun c hc => p.valid c (List.mem_of_mem_take hc)⟩)

theorem mem_parents {p q : PosixPath} : p ∈ q.parents ↔ p ≤ q ∧ p ≠ q := by
  simp only [parents, List.mem_map, List.mem_reverse, List.mem_range]
  constructor
  -- a parent is shorter, so it is another path
  · rintro ⟨n, hn, rfl⟩
    refine ⟨⟨rfl, List.take_prefix _ _⟩, fun heq => ?_⟩
    have hlength := congrArg (fun r : PosixPath => r.parts.length) heq
    simp only [List.length_take] at hlength
    omega
  · rintro ⟨⟨hroot, hpre⟩, hne⟩
    have htake := List.prefix_iff_eq_take.mp hpre
    refine ⟨p.parts.length, ?_, PosixPath.ext hroot.symm htake.symm⟩
    apply lt_of_le_of_ne hpre.length_le
    intro hlength
    exact hne (PosixPath.ext hroot (hpre.eq_of_length hlength))

/-- Equal, or one among the parents of the other. -/
theorem nested_iff {p q : PosixPath} : p = q ∨ p ∈ q.parents ∨ q ∈ p.parents ↔ Nested p q := by
  simp only [mem_parents, Nested]
  constructor
  · rintro (rfl | ⟨h, -⟩ | ⟨h, -⟩)
    · exact Or.inl le_rfl
    · exact Or.inl h
    · exact Or.inr h
  · intro h
    by_cases heq : p = q
    · exact Or.inl heq
    · rcases h with h | h
      · exact Or.inr (Or.inl ⟨h, heq⟩)
      · exact Or.inr (Or.inr ⟨h, Ne.symm heq⟩)

/-! #### `os.path.normpath` -/

/-- One round of the loop, over the components kept so far, last first. -/
def collapse (absolute : Bool) (kept : List String) (c : String) : List String :=
  if c ≠ ".." ∨ (!absolute ∧ kept = []) ∨ kept.head? = some ".." then c :: kept else kept.tail

theorem mem_foldl_collapse {absolute : Bool} {parts kept : List String} {c : String}
    (h : c ∈ parts.foldl (collapse absolute) kept) : c ∈ parts ∨ c ∈ kept := by
  induction parts generalizing kept with
  | nil => exact Or.inr h
  | cons d ds ih =>
    rcases ih h with hd | hk
    · exact Or.inl (List.mem_cons_of_mem _ hd)
    -- one round keeps the component, drops it or takes one back
    · unfold collapse at hk
      split at hk
      · rcases List.mem_cons.mp hk with rfl | hk
        · exact Or.inl List.mem_cons_self
        · exact Or.inr hk
      · exact Or.inr (List.mem_of_mem_tail hk)

/-- `PurePosixPath(os.path.normpath(str(p)))` -/
def normalize (p : PosixPath) : PosixPath where
  root := p.root
  parts := (p.parts.foldl (collapse p.is_absolute) []).reverse
  valid c hc := by
    rcases mem_foldl_collapse (List.mem_reverse.mp hc) with h | h
    · exact p.valid c h
    · exact absurd h List.not_mem_nil

theorem foldl_collapse_of_no_dots {absolute : Bool} {parts kept : List String}
    (h : ".." ∉ parts) : parts.foldl (collapse absolute) kept = parts.reverse ++ kept := by
  induction parts generalizing kept with
  | nil => rfl
  | cons c cs ih =>
    simp only [List.mem_cons, not_or] at h
    have hstep : collapse absolute kept c = c :: kept := by
      rw [collapse, if_pos (Or.inl (Ne.symm h.1))]
    rw [List.foldl_cons, hstep, ih h.2, List.reverse_cons, List.append_assoc]
    rfl

/-- A path that climbs nowhere is in normal form. -/
theorem normalize_of_no_dots {p : PosixPath} (h : ".." ∉ p.parts) : p.normalize = p := by
  apply PosixPath.ext
  · rfl
  · simp only [normalize, foldl_collapse_of_no_dots h, List.append_nil, List.reverse_reverse]

/-- What `realpath` answers: absolute below one slash, with nothing to climb. -/
def IsReal (p : PosixPath) : Prop := p.root = .single ∧ ".." ∉ p.parts

instance : DecidablePred IsReal := fun p =>
  inferInstanceAs (Decidable (p.root = .single ∧ ".." ∉ p.parts))

/-- A real path is in normal form. -/
theorem IsReal.normalize {p : PosixPath} (h : p.IsReal) : p.normalize = p :=
  normalize_of_no_dots h.2

end PosixPath

/-- A path that a file system may answer. -/
abbrev RealPath := {p : PosixPath // p.IsReal}

end Lib
