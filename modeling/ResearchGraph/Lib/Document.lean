import ResearchGraph.Lib.Value

/-! # Positions in documents

    A position is the list of keys that leads from the root of a document
    through nested objects.  Lists are not descended into: they are compared as
    wholes.

    Two documents *agree* at a position when both have nothing there, or both an
    object, or equal values.  Agreement at every position is equality up to the
    order of keys, and it is what a comparison that descends into objects decides.
-/

namespace Lib

namespace Value

def is_dict : Value → Bool
  | .dict _ => true
  | _ => false

@[simp] theorem is_dict_bool (b : Bool) : (bool b).is_dict = false := rfl

@[simp] theorem is_dict_int (i : Int) : (int i).is_dict = false := rfl

@[simp] theorem is_dict_str (s : String) : (str s).is_dict = false := rfl

@[simp] theorem is_dict_list (xs : List Value) : (list xs).is_dict = false := rfl

/-- The value under a key; only objects have any. -/
def entry : Value → String → Option Value
  | .dict d, k => d.lookup k
  | _, _ => none

/-- The value at a position. -/
def at_path : Value → List String → Option Value
  | v, [] => some v
  | v, k :: ks => (v.entry k).bind (fun w => w.at_path ks)

@[simp] theorem at_path_nil (v : Value) : v.at_path [] = some v := rfl

@[simp] theorem at_path_cons (v : Value) (k : String) (ks : List String) :
    v.at_path (k :: ks) = (v.entry k).bind (fun w => w.at_path ks) := rfl

@[simp] theorem entry_dict (d : List (String × Value)) (k : String) :
    (dict d).entry k = d.lookup k := rfl

theorem entry_of_not_dict {v : Value} (h : v.is_dict = false) (k : String) :
    v.entry k = none := by
  cases v <;> simp_all [is_dict, entry]

theorem is_dict_iff {v : Value} : v.is_dict = true ↔ ∃ d, v = .dict d := by
  cases v <;> simp [is_dict]

/-! ### Documents without repeated keys -/

/-- No object inside the document repeats a key. -/
def Wf (v : Value) : Prop :=
  ∀ q d, v.at_path q = some (.dict d) → (d.map Prod.fst).Nodup

theorem Wf.entry {v w : Value} {k : String} (h : v.Wf) (hw : v.entry k = some w) : w.Wf := by
  intro q d hd
  exact h (k :: q) d (by simp [hw, hd])

theorem Wf.nodup {d : List (String × Value)} (h : (dict d).Wf) : (d.map Prod.fst).Nodup :=
  h [] d rfl

theorem wf_of_not_dict {v : Value} (h : v.is_dict = false) : v.Wf := by
  intro q d hd
  cases q with
  | nil =>
    obtain rfl : v = .dict d := by simpa using hd
    simp [is_dict] at h
  | cons k q => simp [entry_of_not_dict h] at hd

theorem lookup_some_mem {d : List (String × Value)} {k : String} {v : Value}
    (h : d.lookup k = some v) : (k, v) ∈ d := by
  induction d with
  | nil => simp at h
  | cons e d ih =>
    obtain ⟨j, w⟩ := e
    rw [List.lookup_cons] at h
    by_cases hk : k = j
    · subst hk
      simp_all
    · have hne : (k == j) = false := by simpa using hk
      rw [hne] at h
      exact List.mem_cons_of_mem _ (ih h)

theorem mem_lookup_some {d : List (String × Value)} {k : String} {v : Value}
    (hd : (d.map Prod.fst).Nodup) (h : (k, v) ∈ d) : d.lookup k = some v := by
  induction d with
  | nil => cases h
  | cons e d ih =>
    obtain ⟨j, w⟩ := e
    rw [List.map_cons, List.nodup_cons] at hd
    rw [List.lookup_cons]
    by_cases hk : k = j
    · subst hk
      rcases List.mem_cons.mp h with h | h
      · simp_all
      · exact absurd (List.mem_map_of_mem (f := Prod.fst) h) hd.1
    · have hne : (k == j) = false := by simpa using hk
      rw [hne]
      refine ih hd.2 ((List.mem_cons.mp h).resolve_left (fun he => hk ?_))
      exact congrArg Prod.fst he

theorem lookup_iff_mem {d : List (String × Value)} (hd : (d.map Prod.fst).Nodup) {k : String}
    {v : Value} : d.lookup k = some v ↔ (k, v) ∈ d :=
  ⟨lookup_some_mem, mem_lookup_some hd⟩

theorem wf_dict {d : List (String × Value)} (hd : (d.map Prod.fst).Nodup)
    (h : ∀ k v, (k, v) ∈ d → v.Wf) : (dict d).Wf := by
  intro q e he
  cases q with
  | nil =>
    obtain rfl : d = e := by simpa using he
    exact hd
  | cons k q =>
    simp only [at_path_cons, entry_dict, Option.bind_eq_some_iff] at he
    obtain ⟨w, hw, he⟩ := he
    exact h k w (lookup_some_mem hw) q e he

/-! ### Equality of documents, position by position -/

theorem loosely_equal_iff {x y : Value} :
    x.loosely_equal y = true ↔ x.as_numbers.sort_keys = y.as_numbers.sort_keys := by
  simp [loosely_equal]

theorem loosely_equal_comm {x y : Value} (h : x.loosely_equal y = true) :
    y.loosely_equal x = true :=
  loosely_equal_iff.mpr (loosely_equal_iff.mp h).symm

theorem loosely_equal_trans {x y z : Value} (h : x.loosely_equal y = true)
    (h' : y.loosely_equal z = true) : x.loosely_equal z = true :=
  loosely_equal_iff.mpr ((loosely_equal_iff.mp h).trans (loosely_equal_iff.mp h'))

theorem as_numbers_entries_eq (d : List (String × Value)) :
    as_numbers_entries d = d.map (fun e => (e.1, e.2.as_numbers)) := by
  induction d with
  | nil => rfl
  | cons e d ih => simp [as_numbers_entries, ih]

/-- Equal values are objects together. -/
theorem is_dict_of_loosely_equal {x y : Value} (h : x.loosely_equal y = true) :
    x.is_dict = y.is_dict := by
  rw [loosely_equal_iff] at h
  cases x <;> cases y <;> simp_all [as_numbers, sort_keys, is_dict]

/-- Equal values, or nothing on either side. -/
def same_or_absent : Option Value → Option Value → Prop
  | none, none => True
  | some x, some y => x.loosely_equal y = true
  | _, _ => False

instance (a b : Option Value) : Decidable (same_or_absent a b) :=
  match a, b with
  | none, none => .isTrue trivial
  | some x, some y => inferInstanceAs (Decidable (x.loosely_equal y = true))
  | none, some _ => .isFalse id
  | some _, none => .isFalse id

theorem same_or_absent_refl (a : Option Value) : same_or_absent a a := by
  cases a <;> simp [same_or_absent]

theorem same_or_absent_symm {a b : Option Value} (h : same_or_absent a b) :
    same_or_absent b a := by
  cases a <;> cases b <;> simp_all [same_or_absent]
  exact loosely_equal_comm h

theorem same_or_absent_trans {a b c : Option Value} (h : same_or_absent a b)
    (h' : same_or_absent b c) : same_or_absent a c := by
  cases a <;> cases b <;> cases c <;> simp_all [same_or_absent]
  exact loosely_equal_trans h h'

private theorem dict_entry_transfer {xs ys : List (String × Value)} (hx : (dict xs).Wf)
    (hy : (dict ys).Wf) (h : (dict xs).loosely_equal (dict ys) = true) {k : String} {v : Value}
    (hv : xs.lookup k = some v) : ∃ w, ys.lookup k = some w ∧ v.loosely_equal w = true := by
  have hnodup : ((xs.map (fun e => (e.1, e.2.as_numbers))).map Prod.fst).Nodup := by
    rw [List.map_map]
    exact hx.nodup
  rw [loosely_equal_iff, as_numbers, as_numbers, as_numbers_entries_eq, as_numbers_entries_eq,
    sort_keys_dict_inj hnodup, List.map_map, List.map_map] at h
  have hmem := h.subset (List.mem_map_of_mem (lookup_some_mem hv))
  obtain ⟨⟨j, w⟩, hw, he⟩ := List.mem_map.mp hmem
  simp only [Function.comp_apply, Prod.mk.injEq] at he
  obtain ⟨rfl, he⟩ := he
  exact ⟨w, mem_lookup_some hy.nodup hw, loosely_equal_iff.mpr he.symm⟩

/-- Equal documents hold equal values under every key. -/
theorem entry_of_loosely_equal {x y : Value} (hx : x.Wf) (hy : y.Wf)
    (h : x.loosely_equal y = true) (k : String) : same_or_absent (x.entry k) (y.entry k) := by
  have hdict := is_dict_of_loosely_equal h
  by_cases hd : x.is_dict = true
  · obtain ⟨xs, rfl⟩ := is_dict_iff.mp hd
    obtain ⟨ys, rfl⟩ := is_dict_iff.mp (hdict ▸ hd)
    simp only [entry_dict]
    cases hv : xs.lookup k with
    | some v =>
      obtain ⟨w, hw, he⟩ := dict_entry_transfer hx hy h hv
      simp [hw, same_or_absent, he]
    | none =>
      cases hw : ys.lookup k with
      | none => simp [same_or_absent]
      | some w =>
        obtain ⟨v, hv', -⟩ := dict_entry_transfer hy hx (loosely_equal_comm h) hw
        simp [hv] at hv'
  · have hx' : x.is_dict = false := by simpa using hd
    rw [entry_of_not_dict hx', entry_of_not_dict (hdict ▸ hx')]
    trivial

/-- Equal documents hold equal values at every position. -/
theorem at_path_of_loosely_equal {x y : Value} (hx : x.Wf) (hy : y.Wf)
    (h : x.loosely_equal y = true) (q : List String) :
    same_or_absent (x.at_path q) (y.at_path q) := by
  induction q generalizing x y with
  | nil => exact h
  | cons k q ih =>
    have hk := entry_of_loosely_equal hx hy h k
    simp only [at_path_cons]
    cases hv : x.entry k with
    | none =>
      cases hw : y.entry k with
      | none => trivial
      | some w => simp [hv, hw, same_or_absent] at hk
    | some v =>
      cases hw : y.entry k with
      | none => simp [hv, hw, same_or_absent] at hk
      | some w =>
        rw [hv, hw] at hk
        exact ih (hx.entry hv) (hy.entry hw) hk

/-! ### Agreement at a position -/

/-- Both sides have nothing, or both an object, or equal values. -/
def Agree (a b : Option Value) : Prop :=
  match a, b with
  | some (.dict _), some (.dict _) => True
  | a, b => same_or_absent a b

instance (a b : Option Value) : Decidable (Agree a b) := by
  unfold Agree
  split <;> infer_instance

theorem agree_iff {a b : Option Value} :
    Agree a b ↔ (∃ xs ys, a = some (.dict xs) ∧ b = some (.dict ys)) ∨ same_or_absent a b := by
  unfold Agree
  split
  · next xs ys => simp
  · next hne =>
    constructor
    · exact Or.inr
    · rintro (⟨xs, ys, rfl, rfl⟩ | h)
      · exact absurd rfl (hne xs ys rfl)
      · exact h

theorem agree_of_same {a b : Option Value} (h : same_or_absent a b) : Agree a b :=
  agree_iff.mpr (Or.inr h)

theorem agree_refl (a : Option Value) : Agree a a := agree_of_same (same_or_absent_refl a)

theorem agree_dict (xs ys : List (String × Value)) : Agree (some (.dict xs)) (some (.dict ys)) :=
  trivial

theorem agree_some {x y : Value} (h : Agree (some x) (some y)) :
    (x.is_dict = true ∧ y.is_dict = true) ∨ x.loosely_equal y = true := by
  rcases agree_iff.mp h with ⟨xs, ys, hx, hy⟩ | h
  · exact Or.inl ⟨is_dict_iff.mpr ⟨xs, by simpa using hx⟩, is_dict_iff.mpr ⟨ys, by simpa using hy⟩⟩
  · exact Or.inr h

theorem agree_trans {a b c : Option Value} (h : Agree a b) (h' : Agree b c) : Agree a c := by
  rcases agree_iff.mp h with ⟨xs, ys, rfl, rfl⟩ | hab
  · rcases agree_iff.mp h' with ⟨_, zs, -, rfl⟩ | hbc
    · exact agree_dict xs zs
    · -- a value equal to an object is one
      cases c with
      | none => exact absurd hbc id
      | some z =>
        obtain ⟨zs, rfl⟩ := is_dict_iff.mp (is_dict_of_loosely_equal hbc).symm
        exact agree_dict xs zs
  · rcases agree_iff.mp h' with ⟨ys, zs, rfl, rfl⟩ | hbc
    · cases a with
      | none => exact absurd hab id
      | some x =>
        obtain ⟨xs, rfl⟩ := is_dict_iff.mp (is_dict_of_loosely_equal hab)
        exact agree_dict xs zs
    · exact agree_of_same (same_or_absent_trans hab hbc)

/-! ### The first disagreement on the way to a position -/

/-- The value at a position below a value that may be absent. -/
def under (a : Option Value) (q : List String) : Option Value := a.bind (fun v => v.at_path q)

@[simp] theorem under_some (v : Value) (q : List String) : under (some v) q = v.at_path q := rfl

@[simp] theorem under_none (q : List String) : under none q = none := rfl

@[simp] theorem under_nil (a : Option Value) : under a [] = a := by cases a <;> rfl

theorem under_cons (a : Option Value) (k : String) (q : List String) :
    under a (k :: q) = under (a.bind (fun v => v.entry k)) q := by
  cases a <;> rfl

/-- The documents disagree at `d` and at no position above it. -/
def First (a b : Option Value) : List String → Prop
  | [] => ¬ Agree a b
  | k :: d => Agree a b ∧ First (a.bind (fun v => v.entry k)) (b.bind (fun v => v.entry k)) d

theorem First.not_agree {a b : Option Value} {d : List String} (h : First a b d) :
    ¬ Agree (under a d) (under b d) := by
  induction d generalizing a b with
  | nil => simpa [First] using h
  | cons k d ih =>
    rw [under_cons, under_cons]
    exact ih h.2

/-- A disagreement has a first one at or above it. -/
theorem exists_first {a b : Option Value} {q : List String}
    (h : ¬ Agree (under a q) (under b q)) : ∃ d, d <+: q ∧ First a b d := by
  induction q generalizing a b with
  | nil => exact ⟨[], List.prefix_rfl, by simpa [First] using h⟩
  | cons k q ih =>
    by_cases hab : Agree a b
    · rw [under_cons, under_cons] at h
      obtain ⟨d, hd, hfirst⟩ := ih h
      exact ⟨k :: d, List.cons_prefix_cons.mpr ⟨rfl, hd⟩, hab, hfirst⟩
    · exact ⟨[], List.nil_prefix, hab⟩

theorem not_first_of_same {a b : Option Value} (h : ∀ q, same_or_absent (under a q) (under b q))
    (d : List String) : ¬ First a b d :=
  fun hd => hd.not_agree (agree_of_same (h d))

/-- Under equal documents there is nothing to disagree about. -/
theorem not_first_of_loosely_equal {x y : Value} (hx : x.Wf) (hy : y.Wf)
    (h : x.loosely_equal y = true) (d : List String) : ¬ First (some x) (some y) d :=
  @not_first_of_same (some x) (some y) (fun q => at_path_of_loosely_equal hx hy h q) d

/-- Values that are not both objects disagree here or nowhere. -/
theorem first_leaf {x y : Value} (h : ¬ (x.is_dict = true ∧ y.is_dict = true)) {d : List String} :
    First (some x) (some y) d ↔ d = [] ∧ x.loosely_equal y = false := by
  have hagree : Agree (some x) (some y) ↔ x.loosely_equal y = true := by
    constructor
    · intro hxy
      exact (agree_some hxy).resolve_left h
    · exact fun hxy => agree_of_same hxy
  cases d with
  | nil => simp [First, hagree]
  | cons k d =>
    simp only [First, hagree, reduceCtorEq, false_and, iff_false, not_and]
    intro hxy
    have hdict := is_dict_of_loosely_equal hxy
    have hx : x.is_dict = false := by
      by_contra hx
      have hx : x.is_dict = true := by simpa using hx
      exact h ⟨hx, hdict ▸ hx⟩
    have hx' : (some x).bind (fun v => v.entry k) = none := entry_of_not_dict hx k
    have hy' : (some y).bind (fun v => v.entry k) = none := entry_of_not_dict (hdict ▸ hx) k
    rw [hx', hy']
    exact not_first_of_same (fun q => by simp [same_or_absent]) d

theorem first_dict {xs ys : List (String × Value)} {d : List String} :
    First (some (.dict xs)) (some (.dict ys)) d ↔
      ∃ k e, d = k :: e ∧ First (xs.lookup k) (ys.lookup k) e := by
  cases d with
  | nil => simp [First, agree_dict]
  | cons k d =>
    simp only [First, agree_dict, true_and, Option.bind_some, entry_dict, List.cons.injEq]
    constructor
    · exact fun h => ⟨k, d, ⟨rfl, rfl⟩, h⟩
    · rintro ⟨_, _, ⟨rfl, rfl⟩, h⟩
      exact h

/-- A value that is there on one side only. -/
theorem first_one_sided {x : Value} {d : List String} :
    (First (some x) none d ↔ d = []) ∧ (First none (some x) d ↔ d = []) := by
  have hleft : ¬ Agree (some x) none := by simp [agree_iff, same_or_absent]
  have hright : ¬ Agree none (some x) := by simp [agree_iff, same_or_absent]
  cases d <;> simp [First, hleft, hright]

theorem not_first_absent (d : List String) : ¬ First none none d :=
  @not_first_of_same none none (fun _ => trivial) d

/-- Objects with equal values under every key are equal. -/
theorem loosely_equal_dict {xs ys : List (String × Value)} (hx : (xs.map Prod.fst).Nodup)
    (hy : (ys.map Prod.fst).Nodup) (h : ∀ k, same_or_absent (xs.lookup k) (ys.lookup k)) :
    (dict xs).loosely_equal (dict ys) = true := by
  have hnodup {d : List (String × Value)} (hd : (d.map Prod.fst).Nodup) :
      ((d.map (fun e => (e.1, e.2.as_numbers))).map Prod.fst).Nodup := by
    rw [List.map_map]
    exact hd
  have hcanonical {d : List (String × Value)} (hd : (d.map Prod.fst).Nodup) :
      ((d.map (fun e => (e.1, e.2.as_numbers))).map (fun e => (e.1, e.2.sort_keys))).Nodup := by
    refine List.Nodup.of_map Prod.fst ?_
    rw [List.map_map]
    exact hnodup hd
  -- an entry of one object has its counterpart in the other
  have hentry {d d' : List (String × Value)} (hd : (d.map Prod.fst).Nodup)
      (h : ∀ k, same_or_absent (d.lookup k) (d'.lookup k)) {e : String × Value}
      (he : e ∈ (d.map (fun e => (e.1, e.2.as_numbers))).map (fun e => (e.1, e.2.sort_keys))) :
      e ∈ (d'.map (fun e => (e.1, e.2.as_numbers))).map (fun e => (e.1, e.2.sort_keys)) := by
    rw [List.map_map] at he ⊢
    obtain ⟨⟨k, v⟩, hv, rfl⟩ := List.mem_map.mp he
    have hk := h k
    rw [mem_lookup_some hd hv] at hk
    cases hw : d'.lookup k with
    | none => simp [hw, same_or_absent] at hk
    | some w =>
      rw [hw] at hk
      refine List.mem_map.mpr ⟨(k, w), lookup_some_mem hw, ?_⟩
      simp [loosely_equal_iff.mp hk]
  rw [loosely_equal_iff, as_numbers, as_numbers, as_numbers_entries_eq, as_numbers_entries_eq,
    sort_keys_dict_inj (hnodup hx)]
  refine (List.perm_ext_iff_of_nodup (hcanonical hx) (hcanonical hy)).mpr
    (fun e => ⟨hentry hx h, ?_⟩)
  exact hentry hy (fun k => same_or_absent_symm (h k))

/-! ### The keys of a document -/

/-- Every key on the way to a position of the document satisfies `P`. -/
def KeysIn (P : String → Prop) (v : Value) : Prop :=
  ∀ q, (v.at_path q).isSome → ∀ k ∈ q, P k

variable {P Q : String → Prop}

theorem keysIn_of_not_dict {v : Value} (h : v.is_dict = false) : v.KeysIn P := by
  intro q hq k hk
  cases q with
  | nil => cases hk
  | cons j q => simp [entry_of_not_dict h] at hq

theorem keysIn_dict {d : List (String × Value)} (h : ∀ k v, (k, v) ∈ d → P k ∧ v.KeysIn P) :
    (dict d).KeysIn P := by
  intro q hq j hj
  cases q with
  | nil => cases hj
  | cons k q =>
    obtain ⟨w, hw⟩ := Option.isSome_iff_exists.mp hq
    simp only [at_path_cons, entry_dict, Option.bind_eq_some_iff] at hw
    obtain ⟨v, hv, hw⟩ := hw
    have hkv := h k v (lookup_some_mem hv)
    rcases List.mem_cons.mp hj with rfl | hj
    · exact hkv.1
    · exact hkv.2 q (by simp [hw]) j hj

/-! ### Induction over nested objects -/

mutual
theorem dict_induction {motive : Value → Prop} (leaf : ∀ v, v.is_dict = false → motive v)
    (object : ∀ d, (∀ k v, (k, v) ∈ d → motive v) → motive (.dict d)) : ∀ v, motive v
  | .null => leaf _ rfl
  | .bool _ => leaf _ rfl
  | .int _ => leaf _ rfl
  | .float _ => leaf _ rfl
  | .str _ => leaf _ rfl
  | .list _ => leaf _ rfl
  | .dict d => object d (dict_induction_entries leaf object d)

theorem dict_induction_entries {motive : Value → Prop}
    (leaf : ∀ v, v.is_dict = false → motive v)
    (object : ∀ d, (∀ k v, (k, v) ∈ d → motive v) → motive (.dict d)) :
    ∀ (d : List (String × Value)) (k : String) (v : Value), (k, v) ∈ d → motive v
  | [], _, _, h => by cases h
  | (_, w) :: d, k, v, h => by
    rcases List.mem_cons.mp h with h | h
    · rw [(Prod.mk.inj h).2]
      exact dict_induction leaf object w
    · exact dict_induction_entries leaf object d k v h
end

/-- Documents that are not equal disagree somewhere first. -/
theorem first_of_not_equal {x y : Value} (hx : x.Wf) (hy : y.Wf)
    (h : x.loosely_equal y = false) : ∃ d, First (some x) (some y) d := by
  induction x using dict_induction generalizing y with
  | leaf x hleaf =>
    have hnot : ¬ (x.is_dict = true ∧ y.is_dict = true) := by simp [hleaf]
    exact ⟨[], (first_leaf hnot).mpr ⟨rfl, h⟩⟩
  | object xs ih =>
    by_cases hdict : y.is_dict = true
    · obtain ⟨ys, rfl⟩ := is_dict_iff.mp hdict
      by_contra hnone
      have hsame : (dict xs).loosely_equal (dict ys) = true := by
        refine loosely_equal_dict hx.nodup hy.nodup (fun k => ?_)
        by_contra hk
        apply hnone
        cases hv : xs.lookup k with
        | none =>
          cases hw : ys.lookup k with
          | none => simp [hv, hw, same_or_absent] at hk
          | some w =>
            exact ⟨[k], first_dict.mpr
              ⟨k, [], rfl, by rw [hv, hw]; exact first_one_sided.2.mpr rfl⟩⟩
        | some v =>
          cases hw : ys.lookup k with
          | none =>
            exact ⟨[k], first_dict.mpr
              ⟨k, [], rfl, by rw [hv, hw]; exact first_one_sided.1.mpr rfl⟩⟩
          | some w =>
            have hne : v.loosely_equal w = false := by
              simpa [hv, hw, same_or_absent] using hk
            obtain ⟨d, hd⟩ := ih k v (lookup_some_mem hv) (hx.entry hv) (hy.entry hw) hne
            exact ⟨k :: d, first_dict.mpr ⟨k, d, rfl, by rw [hv, hw]; exact hd⟩⟩
      rw [h] at hsame
      cases hsame
    · have hnot : ¬ ((dict xs).is_dict = true ∧ y.is_dict = true) := fun hb => hdict hb.2
      exact ⟨[], (first_leaf hnot).mpr ⟨rfl, h⟩⟩

end Value

end Lib
