import Mathlib.Algebra.Ring.Nat
import ResearchGraph.Store.TaskResults

/-! # `json.dumps`

    The text of a JSON value, compact or indented. The text of a number that is
    no integer is a parameter: no size that is compared here depends on it.

    Sorting the keys of a value reorders its text and keeps its size.
-/

namespace ResearchGraph

open Lib

/-- What stands between the parts of a text, at each depth. -/
structure JsonLayout where
  item : Nat → String
  key : String
  edge : Nat → String

namespace JsonLayout

/-- `separators=(",", ":")` -/
def compact : JsonLayout where
  item _ := ","
  key := ":"
  edge _ := ""

def new_line (depth : Nat) : String := "\n" ++ String.ofList (List.replicate (2 * depth) ' ')

/-- `indent=2` -/
def indented : JsonLayout where
  item depth := "," ++ new_line depth
  key := ": "
  edge := new_line

def separated (separator : String) : List String → String
  | [] => ""
  | [a] => a
  | a :: rest => a ++ separator ++ separated separator rest

/-- The parts of a list or an object between its brackets. -/
def block (layout : JsonLayout) (depth : Nat) (left right : String) (parts : List String) :
    String :=
  if parts.isEmpty then left ++ right
  else left ++ layout.edge (depth + 1) ++ separated (layout.item (depth + 1)) parts
    ++ layout.edge depth ++ right

end JsonLayout

section

variable (float_repr : Rat → String) (layout : JsonLayout)

mutual
/-- `json.dumps(value, ensure_ascii=False, ..)` -/
def json_dumps (depth : Nat) : Value → String
  | .null => "null"
  | .bool b => json_bool b
  | .int i => json_int i
  | .float q => float_repr q
  | .str s => json_str s
  | .list xs => layout.block depth "[" "]" (json_dumps_items (depth + 1) xs)
  | .dict xs => layout.block depth "\x7b" "\x7d" (json_dumps_entries (depth + 1) xs)

def json_dumps_items (depth : Nat) : List Value → List String
  | [] => []
  | x :: xs => json_dumps depth x :: json_dumps_items depth xs

def json_dumps_entries (depth : Nat) : List (String × Value) → List String
  | [] => []
  | (k, x) :: xs => (json_str k ++ layout.key ++ json_dumps depth x) :: json_dumps_entries depth xs
end

end

/-! ### Sizes -/

variable {float_repr : Rat → String} {layout : JsonLayout}

theorem JsonLayout.separated_cons_cons (separator a b : String) (rest : List String) :
    separated separator (a :: b :: rest) = a ++ separator ++ separated separator (b :: rest) := rfl

theorem JsonLayout.size_separated (separator : String) (parts : List String) :
    (separated separator parts).utf8ByteSize
      = (parts.map String.utf8ByteSize).sum + (parts.length - 1) * separator.utf8ByteSize := by
  induction parts with
  | nil => simp [separated]
  | cons a rest ih =>
    cases rest with
    | nil => simp [separated]
    | cons b rest =>
      rw [separated_cons_cons, String.utf8ByteSize_append, String.utf8ByteSize_append, ih]
      simp only [List.map_cons, List.sum_cons, List.length_cons, Nat.add_sub_cancel, Nat.succ_mul]
      omega

/-- The size of a block depends on the sizes of its parts, not on their order. -/
theorem JsonLayout.size_block (layout : JsonLayout) (depth : Nat) (left right : String)
    {parts parts' : List String}
    (h : (parts.map String.utf8ByteSize).Perm (parts'.map String.utf8ByteSize)) :
    (layout.block depth left right parts).utf8ByteSize
      = (layout.block depth left right parts').utf8ByteSize := by
  have hlength : parts.length = parts'.length := by simpa using h.length_eq
  have hempty : parts.isEmpty = parts'.isEmpty := by
    rw [Bool.eq_iff_iff, List.isEmpty_iff_length_eq_zero, List.isEmpty_iff_length_eq_zero, hlength]
  unfold block
  rw [hempty]
  split
  · rfl
  · simp only [String.utf8ByteSize_append, size_separated, h.sum_nat, hlength]

theorem json_dumps_items_eq (depth : Nat) (xs : List Value) :
    json_dumps_items float_repr layout depth xs = xs.map (json_dumps float_repr layout depth) := by
  induction xs with
  | nil => rfl
  | cons x xs ih => rw [json_dumps_items, ih, List.map_cons]

theorem json_dumps_entries_eq (depth : Nat) (xs : List (String × Value)) :
    json_dumps_entries float_repr layout depth xs
      = xs.map (fun e => json_str e.1 ++ layout.key ++ json_dumps float_repr layout depth e.2) := by
  induction xs with
  | nil => rfl
  | cons x xs ih => rw [json_dumps_entries, ih, List.map_cons]

mutual
theorem size_sort_keys : ∀ (v : Value) (depth : Nat),
    (json_dumps float_repr layout depth v.sort_keys).utf8ByteSize
      = (json_dumps float_repr layout depth v).utf8ByteSize
  | .null, _ => rfl
  | .bool _, _ => rfl
  | .int _, _ => rfl
  | .float _, _ => rfl
  | .str _, _ => rfl
  | .list xs, depth => by
    rw [Value.sort_keys, Value.sort_keys_list_eq, json_dumps, json_dumps, json_dumps_items_eq,
      json_dumps_items_eq]
    refine JsonLayout.size_block layout depth "[" "]" ?_
    rw [List.map_map, List.map_map, List.map_map]
    refine List.Perm.of_eq (List.map_congr_left ?_)
    exact size_sort_keys_items xs (depth + 1)
  | .dict xs, depth => by
    rw [Value.sort_keys, Value.sort_keys_entries_eq, json_dumps, json_dumps, json_dumps_entries_eq,
      json_dumps_entries_eq]
    refine JsonLayout.size_block layout depth "\x7b" "\x7d" ?_
    rw [List.map_map, List.map_map]
    refine ((List.perm_insertionSort Value.key_le _).map _).trans ?_
    rw [List.map_map]
    refine List.Perm.of_eq (List.map_congr_left ?_)
    intro e he
    simp only [Function.comp, String.utf8ByteSize_append]
    rw [size_sort_keys_entries xs (depth + 1) e he]

theorem size_sort_keys_items : ∀ (xs : List Value) (depth : Nat), ∀ x ∈ xs,
    (json_dumps float_repr layout depth x.sort_keys).utf8ByteSize
      = (json_dumps float_repr layout depth x).utf8ByteSize
  | [], _, _, h => by cases h
  | y :: ys, depth, x, h => by
    rcases List.mem_cons.mp h with heq | h
    · rw [heq]
      exact size_sort_keys y depth
    · exact size_sort_keys_items ys depth x h

theorem size_sort_keys_entries : ∀ (xs : List (String × Value)) (depth : Nat), ∀ e ∈ xs,
    (json_dumps float_repr layout depth e.2.sort_keys).utf8ByteSize
      = (json_dumps float_repr layout depth e.2).utf8ByteSize
  | [], _, _, h => by cases h
  | (k, y) :: ys, depth, e, h => by
    rcases List.mem_cons.mp h with heq | h
    · rw [heq]
      exact size_sort_keys y depth
    · exact size_sort_keys_entries ys depth e h
end

/-! ### Sorting the keys again -/

mutual
theorem sort_keys_again : ∀ v : Value, v.sort_keys.sort_keys = v.sort_keys
  | .null => rfl
  | .bool _ => rfl
  | .int _ => rfl
  | .float _ => rfl
  | .str _ => rfl
  | .list xs => by
    rw [Value.sort_keys, Value.sort_keys_list_eq, Value.sort_keys, Value.sort_keys_list_eq,
      List.map_map]
    congr 1
    exact List.map_congr_left (sort_keys_again_items xs)
  | .dict xs => by
    rw [Value.sort_keys, Value.sort_keys_entries_eq, Value.sort_keys, Value.sort_keys_entries_eq]
    congr 1
    have hself : ((xs.map (fun e => (e.1, e.2.sort_keys))).insertionSort Value.key_le).map
        (fun e => (e.1, e.2.sort_keys))
        = (xs.map (fun e => (e.1, e.2.sort_keys))).insertionSort Value.key_le := by
      conv_rhs => rw [← List.map_id (List.insertionSort _ _)]
      refine List.map_congr_left ?_
      intro e he
      rw [List.mem_insertionSort] at he
      obtain ⟨f, hf, rfl⟩ := List.mem_map.mp he
      exact Prod.ext rfl (sort_keys_again_entries xs f hf)
    have htrans : IsTrans (String × Value) Value.key_le := ⟨fun _ _ _ => String.le_trans⟩
    have htotal : Std.Total Value.key_le := ⟨fun a b => String.le_total a.1 b.1⟩
    rw [hself]
    exact (List.pairwise_insertionSort Value.key_le _).insertionSort_eq

theorem sort_keys_again_items : ∀ xs : List Value, ∀ x ∈ xs, x.sort_keys.sort_keys = x.sort_keys
  | [], _, h => by cases h
  | y :: ys, x, h => by
    rcases List.mem_cons.mp h with heq | h
    · rw [heq]
      exact sort_keys_again y
    · exact sort_keys_again_items ys x h

theorem sort_keys_again_entries : ∀ xs : List (String × Value), ∀ e ∈ xs,
    e.2.sort_keys.sort_keys = e.2.sort_keys
  | [], _, h => by cases h
  | (k, y) :: ys, e, h => by
    rcases List.mem_cons.mp h with heq | h
    · rw [heq]
      exact sort_keys_again y
    · exact sort_keys_again_entries ys e h
end

/-- The size of a text depends on the value only up to the order of its keys. -/
theorem size_of_sort_keys {v w : Value} (h : v.sort_keys = w.sort_keys) (depth : Nat) :
    (json_dumps float_repr layout depth v).utf8ByteSize
      = (json_dumps float_repr layout depth w).utf8ByteSize := by
  rw [← size_sort_keys v, ← size_sort_keys w, h]

end ResearchGraph
