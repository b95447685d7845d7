import ResearchGraph.Lib.Document

/-! # Values that compare equal, and what is read from them

    Two values the host language compares equal have the same texts, lists and
    keys in the same places; only truth values, integers and floating-point
    values may stand for each other.  A decoder *agrees* when it cannot tell
    such values apart: wherever it accepts both, it reads the same thing.
-/

namespace Lib

namespace Value

/-! ### Leaves and lists -/

theorem eq_null_of_loosely {v : Value} (h : v.loosely_equal .null = true) : v = .null := by
  rw [loosely_equal_iff] at h
  cases v <;> simp_all [as_numbers, sort_keys]

theorem eq_str_of_loosely {v : Value} {s : String} (h : v.loosely_equal (.str s) = true) :
    v = .str s := by
  rw [loosely_equal_iff] at h
  cases v <;> simp_all [as_numbers, sort_keys]

theorem as_numbers_list_eq (xs : List Value) : as_numbers_list xs = xs.map as_numbers := by
  induction xs with
  | nil => rfl
  | cons x xs ih => simp [as_numbers_list, ih]

/-- Lists compare equal element by element. -/
theorem loosely_equal_list {xs ys : List Value} :
    (list xs).loosely_equal (list ys) = true ↔
      List.Forall₂ (fun x y => x.loosely_equal y = true) xs ys := by
  rw [loosely_equal_iff, as_numbers, as_numbers, sort_keys_list_inj, as_numbers_list_eq,
    as_numbers_list_eq]
  simp only [loosely_equal_iff]
  induction xs generalizing ys with
  | nil => cases ys <;> simp
  | cons x xs ih =>
    cases ys with
    | nil => simp
    | cons y ys =>
      simp only [List.map_cons, List.cons.injEq, List.forall₂_cons]
      exact and_congr_right fun _ => ih

theorem eq_list_of_loosely {v : Value} {ys : List Value}
    (h : v.loosely_equal (.list ys) = true) :
    ∃ xs, v = .list xs ∧ List.Forall₂ (fun x y => x.loosely_equal y = true) xs ys := by
  cases v
  case list xs => exact ⟨xs, rfl, loosely_equal_list.mp h⟩
  all_goals simp [loosely_equal_iff, as_numbers, sort_keys] at h

theorem eq_dict_of_loosely {v : Value} {e : List (String × Value)}
    (h : v.loosely_equal (.dict e) = true) : ∃ d, v = .dict d := by
  rw [← is_dict_iff, is_dict_of_loosely_equal h]
  rfl

/-- The number a value stands for in a comparison. -/
def number? : Value → Option Rat
  | .bool b => some (if b then 1 else 0)
  | .int i => some i
  | .float q => some q
  | _ => none

theorem number_of_loosely {v w : Value} (h : v.loosely_equal w = true) :
    v.number? = w.number? := by
  rw [loosely_equal_iff] at h
  cases v <;> cases w <;> simp_all [as_numbers, sort_keys, number?]

/-! ### Objects -/

theorem lookup_cons_ite (e : String × Value) (d : List (String × Value)) (k : String) :
    (e :: d).lookup k = if k = e.1 then some e.2 else d.lookup k := by
  obtain ⟨j, v⟩ := e
  rw [List.lookup_cons]
  by_cases hk : k = j
  · simp [hk]
  · have hne : (k == j) = false := by simpa using hk
    simp [hk, hne]

theorem lookup_orderedInsert (e : String × Value) (l : List (String × Value)) (k : String) :
    (l.orderedInsert key_le e).lookup k = if k = e.1 then some e.2 else l.lookup k := by
  induction l with
  | nil =>
    rw [List.orderedInsert_nil, lookup_cons_ite]
  | cons x l ih =>
    rw [List.orderedInsert_cons]
    by_cases hle : key_le e x
    · rw [if_pos hle, lookup_cons_ite]
    · -- an entry that is passed over has another key
      have hne : x.1 ≠ e.1 := by
        intro heq
        exact hle (show e.1 ≤ x.1 from heq ▸ String.le_refl _)
      rw [if_neg hle, lookup_cons_ite, lookup_cons_ite, ih]
      by_cases hx : k = x.1
      · rw [if_pos hx, if_pos hx, if_neg (hx ▸ hne)]
      · rw [if_neg hx, if_neg hx]

/-- Sorting by key moves no entry in front of one with the same key. -/
theorem lookup_insertionSort (l : List (String × Value)) (k : String) :
    (l.insertionSort key_le).lookup k = l.lookup k := by
  induction l with
  | nil => rfl
  | cons e l ih =>
    rw [List.insertionSort_cons, lookup_orderedInsert, ih, lookup_cons_ite]

theorem lookup_map_snd (f : Value → Value) (d : List (String × Value)) (k : String) :
    (d.map (fun e => (e.1, f e.2))).lookup k = (d.lookup k).map f := by
  induction d with
  | nil => rfl
  | cons e d ih =>
    rw [List.map_cons, lookup_cons_ite, lookup_cons_ite, ih]
    by_cases hk : k = e.1 <;> simp [hk]

theorem canonical_lookup {d e : List (String × Value)}
    (h : (dict d).loosely_equal (dict e) = true) (k : String) :
    (d.lookup k).map (fun v => v.as_numbers.sort_keys) =
      (e.lookup k).map (fun v => v.as_numbers.sort_keys) := by
  rw [loosely_equal_iff] at h
  simp only [as_numbers, sort_keys, dict.injEq, as_numbers_entries_eq, sort_keys_entries_eq,
    List.map_map] at h
  have hlookup := congrArg (List.lookup k) h
  rw [lookup_insertionSort, lookup_insertionSort] at hlookup
  have hmap (l : List (String × Value)) : (l.map ((fun e => (e.1, e.2.sort_keys)) ∘
      fun e => (e.1, e.2.as_numbers))).lookup k =
        (l.lookup k).map (fun v => v.as_numbers.sort_keys) :=
    lookup_map_snd (fun v => v.as_numbers.sort_keys) l k
  rwa [hmap, hmap] at hlookup

/-- Objects that compare equal hold equal values under every key. -/
theorem lookup_of_loosely {d e : List (String × Value)}
    (h : (dict d).loosely_equal (dict e) = true) (k : String) :
    same_or_absent (d.lookup k) (e.lookup k) := by
  have hcanonical := canonical_lookup h k
  cases hd : d.lookup k <;> cases he : e.lookup k <;> rw [hd, he] at hcanonical
  · trivial
  · cases hcanonical
  · cases hcanonical
  · exact loosely_equal_iff.mpr (Option.some.inj hcanonical)

end Value

/-! ### Decoders -/

variable {ε α β : Type}

/-- Wherever the decoder accepts two values that compare equal, it reads
    related things from them. -/
def Agrees (decode : Value → Except ε α) (R : α → α → Prop) : Prop :=
  ∀ v w a b, v.loosely_equal w = true → decode v = .ok a → decode w = .ok b → R a b

theorem Agrees.map {decode : Value → Except ε α} {R : α → α → Prop} {S : β → β → Prop}
    {f : α → β} (h : Agrees decode R) (hf : ∀ a b, R a b → S (f a) (f b)) :
    Agrees (fun v => (decode v).map f) S := by
  intro v w a b hvw ha hb
  simp only at ha hb
  cases hv : decode v <;> rw [hv] at ha <;> cases ha
  cases hw : decode w <;> rw [hw] at hb <;> cases hb
  exact hf _ _ (h v w _ _ hvw hv hw)

/-- Reading a list element by element. -/
theorem Agrees.mapM {decode : Value → Except ε α} {R : α → α → Prop} (h : Agrees decode R)
    {xs ys : List Value} {as bs : List α}
    (hxy : List.Forall₂ (fun x y => x.loosely_equal y = true) xs ys)
    (has : xs.mapM decode = .ok as) (hbs : ys.mapM decode = .ok bs) : List.Forall₂ R as bs := by
  induction hxy generalizing as bs with
  | nil =>
    cases has
    cases hbs
    exact List.Forall₂.nil
  | @cons x y xs ys hxy _ ih =>
    simp only [List.mapM_cons, bind, Except.bind, pure, Except.pure] at has hbs
    cases hx : decode x <;> rw [hx] at has <;> simp only [reduceCtorEq] at has
    cases hxs : xs.mapM decode <;> rw [hxs] at has <;> cases has
    cases hy : decode y <;> rw [hy] at hbs <;> simp only [reduceCtorEq] at hbs
    cases hys : ys.mapM decode <;> rw [hys] at hbs <;> cases hbs
    exact List.Forall₂.cons (h x y _ _ hxy hx hy) (ih hxs hys)

end Lib
