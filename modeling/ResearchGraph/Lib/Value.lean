import Mathlib.Data.Rat.Defs
import Mathlib.Data.List.Sort

/-! # Dynamic values

    The documents a dynamically typed program reads and writes: JSON values,
    with integers and other numbers kept apart because a strict decoder tells
    them apart.  Numbers that are not integers are the exact rationals their
    finite floating-point values denote.

    Three relations matter to such programs and differ: identity (`=`),
    equality as the host language compares values (`loosely_equal`, under
    which `True`, `1` and `1.0` agree and the order of keys is irrelevant), and
    equality of canonical documents (`sort_keys`).
-/

namespace Lib

inductive Value
  | null
  | bool (b : Bool)
  | int (i : Int)
  | float (q : Rat)
  | str (s : String)
  | list (xs : List Value)
  | dict (xs : List (String × Value))
  deriving Inhabited

namespace Value

mutual
/-- Structural equality test. -/
def same : Value → Value → Bool
  | .null, .null => true
  | .bool a, .bool b => a == b
  | .int a, .int b => a == b
  | .float a, .float b => a == b
  | .str a, .str b => a == b
  | .list xs, .list ys => same_list xs ys
  | .dict xs, .dict ys => same_entries xs ys
  | _, _ => false

def same_list : List Value → List Value → Bool
  | [], [] => true
  | x :: xs, y :: ys => same x y && same_list xs ys
  | _, _ => false

def same_entries : List (String × Value) → List (String × Value) → Bool
  | [], [] => true
  | (k, x) :: xs, (l, y) :: ys => k == l && same x y && same_entries xs ys
  | _, _ => false
end

mutual
theorem same_iff : ∀ (x y : Value), same x y = true ↔ x = y
  | .null, y => by cases y <;> simp [same]
  | .bool _, y => by cases y <;> simp [same]
  | .int _, y => by cases y <;> simp [same]
  | .float _, y => by cases y <;> simp [same]
  | .str _, y => by cases y <;> simp [same]
  | .list xs, y => by cases y <;> simp [same, same_list_iff xs]
  | .dict xs, y => by cases y <;> simp [same, same_entries_iff xs]

theorem same_list_iff : ∀ (xs ys : List Value), same_list xs ys = true ↔ xs = ys
  | [], ys => by cases ys <;> simp [same_list]
  | x :: xs, ys => by cases ys <;> simp [same_list, same_iff x, same_list_iff xs]

theorem same_entries_iff :
    ∀ (xs ys : List (String × Value)), same_entries xs ys = true ↔ xs = ys
  | [], ys => by cases ys <;> simp [same_entries]
  | (k, x) :: xs, ys => by
    cases ys with
    | nil => simp [same_entries]
    | cons y ys =>
      obtain ⟨l, y⟩ := y
      simp [same_entries, same_iff x, same_entries_iff xs]
end

instance : DecidableEq Value := fun x y => decidable_of_iff _ (same_iff x y)

/-- Order of dictionary entries by key. -/
def key_le (a b : String × Value) : Prop := a.1 ≤ b.1

instance : DecidableRel key_le := fun a b => inferInstanceAs (Decidable (a.1 ≤ b.1))

mutual
/-- The document with the keys of every object sorted. -/
def sort_keys : Value → Value
  | .list xs => .list (sort_keys_list xs)
  | .dict xs => .dict ((sort_keys_entries xs).insertionSort key_le)
  | v => v

def sort_keys_list : List Value → List Value
  | [] => []
  | x :: xs => sort_keys x :: sort_keys_list xs

def sort_keys_entries : List (String × Value) → List (String × Value)
  | [] => []
  | (k, x) :: xs => (k, sort_keys x) :: sort_keys_entries xs
end

mutual
/-- The value with truth values and integers read as numbers. -/
def as_numbers : Value → Value
  | .bool b => .float (if b then 1 else 0)
  | .int i => .float i
  | .list xs => .list (as_numbers_list xs)
  | .dict xs => .dict (as_numbers_entries xs)
  | v => v

def as_numbers_list : List Value → List Value
  | [] => []
  | x :: xs => as_numbers x :: as_numbers_list xs

def as_numbers_entries : List (String × Value) → List (String × Value)
  | [] => []
  | (k, x) :: xs => (k, as_numbers x) :: as_numbers_entries xs
end

/-- Equality as the host language compares values. -/
def loosely_equal (x y : Value) : Bool :=
  decide (x.as_numbers.sort_keys = y.as_numbers.sort_keys)

@[simp] theorem loosely_equal_refl (x : Value) : loosely_equal x x = true := by
  simp [loosely_equal]

/-- Truth value of a value in a condition. -/
def truthy : Value → Bool
  | .null => false
  | .bool b => b
  | .int i => i != 0
  | .float q => q != 0
  | .str s => s != ""
  | .list xs => !xs.isEmpty
  | .dict xs => !xs.isEmpty

/-! ### Canonical documents -/

@[simp] theorem sort_keys_null : sort_keys .null = .null := rfl

@[simp] theorem sort_keys_int (i : Int) : sort_keys (.int i) = .int i := rfl

@[simp] theorem sort_keys_str (s : String) : sort_keys (.str s) = .str s := rfl

theorem sort_keys_list_eq (xs : List Value) : sort_keys_list xs = xs.map sort_keys := by
  induction xs with
  | nil => rfl
  | cons x xs ih => simp [sort_keys_list, ih]

theorem sort_keys_entries_eq (xs : List (String × Value)) :
    sort_keys_entries xs = xs.map (fun e => (e.1, e.2.sort_keys)) := by
  induction xs with
  | nil => rfl
  | cons x xs ih => simp [sort_keys_entries, ih]

theorem sort_keys_list_inj {xs ys : List Value} :
    (list xs).sort_keys = (list ys).sort_keys ↔ xs.map sort_keys = ys.map sort_keys := by
  simp [sort_keys, sort_keys_list_eq]

/-- Objects without repeated keys are one document exactly when they have the
    same entries, in any order. -/
theorem sort_keys_dict_inj {xs ys : List (String × Value)} (hx : (xs.map Prod.fst).Nodup) :
    (dict xs).sort_keys = (dict ys).sort_keys ↔
      (xs.map (fun e => (e.1, e.2.sort_keys))).Perm (ys.map (fun e => (e.1, e.2.sort_keys))) := by
  have hle_trans : IsTrans (String × Value) key_le := ⟨fun _ _ _ => String.le_trans⟩
  have hle_total : Std.Total (key_le) := ⟨fun a b => String.le_total a.1 b.1⟩
  simp only [sort_keys, sort_keys_entries_eq, dict.injEq]
  constructor
  · intro h
    exact (List.perm_insertionSort key_le _).symm.trans (h ▸ List.perm_insertionSort key_le _)
  · intro h
    refine List.Perm.eq_of_pairwise ?_ (List.pairwise_insertionSort key_le _)
      (List.pairwise_insertionSort key_le _)
      ((List.perm_insertionSort key_le _).trans (h.trans (List.perm_insertionSort key_le _).symm))
    -- two entries that are not apart have the same key, and keys do not repeat
    intro a b ha hb hab hba
    have ha := (List.mem_insertionSort key_le).mp ha
    have hb := h.symm.subset ((List.mem_insertionSort key_le).mp hb)
    have hnodup : ((xs.map (fun e => (e.1, e.2.sort_keys))).map Prod.fst).Nodup := by
      rwa [List.map_map, show (Prod.fst ∘ fun e : String × Value => (e.1, e.2.sort_keys))
        = Prod.fst from rfl]
    exact List.inj_on_of_nodup_map hnodup ha hb (String.le_antisymm hab hba)

/-- A reordering that keeps every key in its place reorders nothing. -/
theorem perm_fields_eq {xs ys : List (String × Value)} (h : xs.Perm ys)
    (hkeys : xs.map Prod.fst = ys.map Prod.fst) (hnodup : (ys.map Prod.fst).Nodup) : xs = ys := by
  refine List.ext_getElem h.length_eq (fun i hi hj => ?_)
  refine List.inj_on_of_nodup_map hnodup (h.subset (List.getElem_mem hi)) (List.getElem_mem hj) ?_
  have hi' : (xs.map Prod.fst)[i]? = (ys.map Prod.fst)[i]? := by rw [hkeys]
  simpa [hi, hj] using hi'

/-- Objects with the same keys in the same order are one document exactly when
    they agree at each key. -/
theorem sort_keys_fields_inj {xs ys : List (String × Value)} (hx : (xs.map Prod.fst).Nodup)
    (hkeys : xs.map Prod.fst = ys.map Prod.fst) :
    (dict xs).sort_keys = (dict ys).sort_keys ↔
      xs.map (fun e => (e.1, e.2.sort_keys)) = ys.map (fun e => (e.1, e.2.sort_keys)) := by
  have hfst (zs : List (String × Value)) :
      (zs.map (fun e => (e.1, e.2.sort_keys))).map Prod.fst = zs.map Prod.fst := by
    rw [List.map_map]
    rfl
  rw [sort_keys_dict_inj hx]
  constructor
  · intro h
    refine perm_fields_eq h ?_ ?_
    · rw [hfst, hfst, hkeys]
    · rwa [hfst, ← hkeys]
  · exact fun h => h ▸ .refl _

end Value

end Lib
