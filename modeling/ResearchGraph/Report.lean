import ResearchGraph.State
import ResearchGraph.Lib.Check
import Mathlib.Data.List.Dedup

/-! # Validation reports (`rcp/core/validation/report.py`)

    A rule is a `Check` over the exceptions the source catches and the
    messages a `ValidationReport` collects.  Only `reject` messages refuse a
    Patch; `flag` messages inform.  The string helpers below are the parts of
    Python's text formatting that the messages use.
-/

namespace ResearchGraph

open Lib

/-! ### Python text formatting -/

/-- Characters `repr` escapes, after the quote has been chosen. -/
def repr_char (quote : Char) (c : Char) : List Char :=
  if c = '\\' then ['\\', '\\']
  else if c = quote then ['\\', quote]
  else if c = '\n' then ['\\', 'n']
  else if c = '\r' then ['\\', 'r']
  else if c = '\t' then ['\\', 't']
  else [c]

/-- `repr` of a text: single quotes unless the text holds only those. -/
def repr_str (s : String) : String :=
  let cs := s.toList
  let quote := if '\'' ∈ cs ∧ '"' ∉ cs then '"' else '\''
  String.ofList (quote :: cs.flatMap (repr_char quote) ++ [quote])

/-- `", ".join(xs)` -/
def comma_join (xs : List String) : String := String.intercalate ", " xs

/-- `repr` of a list of texts. -/
def repr_list (xs : List String) : String := "[" ++ comma_join (xs.map repr_str) ++ "]"

/-- `str.isspace` of one character. -/
def is_space (c : Char) : Bool :=
  let n := c.toNat
  (9 ≤ n && n ≤ 13) || (28 ≤ n && n ≤ 32) || (0x2000 ≤ n && n ≤ 0x200a)
    || [0x85, 0xa0, 0x1680, 0x2028, 0x2029, 0x202f, 0x205f, 0x3000].contains n

/-- `str.strip` -/
def strip (s : String) : String :=
  String.ofList (((s.toList.dropWhile is_space).reverse.dropWhile is_space).reverse)

/-- `not s.strip()` -/
def blank (s : String) : Bool := s.toList.all is_space

/-- `sorted(set(xs))` -/
def sorted_set (xs : List String) : List String := xs.dedup.insertionSort (· ≤ ·)

@[simp] theorem mem_sorted_set {x : String} {xs : List String} : x ∈ sorted_set xs ↔ x ∈ xs := by
  simp [sorted_set]

/-- `set(xs) - set(ys)`, sorted. -/
def sorted_diff (xs ys : List String) : List String :=
  sorted_set (xs.filter (fun x => x ∉ ys))

theorem sorted_set_eq_nil {xs : List String} : sorted_set xs = [] ↔ xs = [] := by
  simp only [List.eq_nil_iff_forall_not_mem, mem_sorted_set]

/-! ### Reports -/

instance : Graded ValidationMessage := ⟨fun m => m.level == .reject⟩

/-- A validation rule: it may raise, and it records messages. -/
abbrev Rule (α : Type) := Check PyError ValidationMessage α

/-- `report.reject(code, message, revision, related_node_ids, related_edge_ids)` -/
def reject (code message : String) (revision : Option Nat) (related_node_ids : List String := [])
    (related_edge_ids : List String := []) : Rule Unit :=
  Check.tell ⟨.reject, code, message, revision, related_node_ids, related_edge_ids⟩

/-- `report.flag(code, message, revision, related_node_ids, related_edge_ids)` -/
def flag (code message : String) (revision : Option Nat) (related_node_ids : List String := [])
    (related_edge_ids : List String := []) : Rule Unit :=
  Check.tell ⟨.flag, code, message, revision, related_node_ids, related_edge_ids⟩

@[simp] theorem passes_reject {code message : String} {revision : Option Nat}
    {nodes edges : List String} {u : Unit} :
    Check.Passes (reject code message revision nodes edges) u ↔ False := by
  simp [reject, Graded.refuses]

@[simp] theorem passes_flag {code message : String} {revision : Option Nat}
    {nodes edges : List String} {u : Unit} :
    Check.Passes (flag code message revision nodes edges) u ↔ True := by
  simp [flag, Graded.refuses]

/-- Admission of a new Patch, or replay of a persisted one. -/
inductive ValidationMode
  | admission
  | replay
  deriving DecidableEq, Repr

end ResearchGraph
