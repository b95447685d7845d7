import Mathlib.Data.List.Nodup
import Mathlib.Data.List.Basic

/-! # Insertion-ordered tables keyed by their own items

    A `Table α` is the finite map a program keeps when every object carries
    its own key: one item a key, in the order in which the keys first arrived.
    Writing an item under a key that is present replaces it in place; writing
    a fresh key appends.  The key of an item is read from the item
    (`Keyed.key`), so a table whose map key and embedded key disagree cannot
    be built.

    `Dict κ α` is the special case of explicit `(key, value)` pairs.
-/

namespace Lib

/-- Objects that carry their own key. -/
class Keyed (α : Type) (κ : outParam Type) where
  key : α → κ

instance {κ α : Type} : Keyed (κ × α) κ := ⟨Prod.fst⟩

/-- A finite map from keys to the items that carry them. -/
structure Table (α : Type) {κ : Type} [Keyed α κ] where
  items : List α
  nodup : (items.map Keyed.key).Nodup
  deriving DecidableEq

/-- Explicit key-value pairs. -/
abbrev Dict (κ α : Type) := Table (κ × α)

namespace Table

variable {α κ : Type} [Keyed α κ]

/-- The empty table. -/
def empty : Table α := ⟨[], by simp⟩

instance : Inhabited (Table α) := ⟨empty⟩

/-- The keys in order. -/
def keys (t : Table α) : List κ := t.items.map Keyed.key

/-- The entries that satisfy `p`, in order. -/
def filter (t : Table α) (p : α → Bool) : Table α where
  items := t.items.filter p
  nodup := t.nodup.sublist (List.filter_sublist.map _)

/-- Two tables with the same items are equal. -/
@[ext] theorem ext {t u : Table α} (h : t.items = u.items) : t = u := by
  cases t; cases u; simpa using h

variable [DecidableEq κ]

/-- The item stored under `k`. -/
def get? (t : Table α) (k : κ) : Option α :=
  t.items.find? (fun a => Keyed.key a = k)

/-- Whether some item is stored under `k`. -/
def contains (t : Table α) (k : κ) : Bool := (t.get? k).isSome

/-- Overwrite the item that has the key of `a`. -/
def replaced (t : Table α) (a : α) : List α :=
  t.items.map (fun b => if Keyed.key b = (Keyed.key a : κ) then a else b)

theorem map_key_replaced (t : Table α) (a : α) :
    (t.replaced a).map (Keyed.key : α → κ) = t.items.map Keyed.key := by
  simp only [replaced, List.map_map]
  apply List.map_congr_left
  intro b _
  by_cases h : (Keyed.key b : κ) = Keyed.key a <;> simp [h]

theorem get?_eq_some_iff {t : Table α} {k : κ} {a : α} :
    t.get? k = some a ↔ a ∈ t.items ∧ Keyed.key a = k := by
  constructor
  · intro h
    exact ⟨List.mem_of_find?_eq_some h, by simpa using List.find?_some h⟩
  · rintro ⟨hmem, rfl⟩
    obtain ⟨b, hb⟩ : ∃ b, t.get? (Keyed.key a) = some b := by
      rw [← Option.isSome_iff_exists, get?, List.find?_isSome]
      exact ⟨a, hmem, by simp⟩
    have hkey : (Keyed.key b : κ) = Keyed.key a := by simpa using List.find?_some hb
    have : b = a := List.inj_on_of_nodup_map t.nodup (List.mem_of_find?_eq_some hb) hmem hkey
    rw [hb, this]

theorem key_of_get? {t : Table α} {k : κ} {a : α} (h : t.get? k = some a) :
    Keyed.key a = k := (get?_eq_some_iff.mp h).2

theorem get?_eq_none_iff {t : Table α} {k : κ} :
    t.get? k = none ↔ ∀ a ∈ t.items, Keyed.key a ≠ k := by
  simp [get?]

theorem mem_items_iff {t : Table α} {a : α} :
    a ∈ t.items ↔ t.get? (Keyed.key a) = some a := by
  simp [get?_eq_some_iff]

theorem mem_keys_iff {t : Table α} {k : κ} : k ∈ t.keys ↔ (t.get? k).isSome := by
  simp [keys, get?]

@[simp] theorem contains_iff {t : Table α} {k : κ} :
    t.contains k = true ↔ ∃ a, t.get? k = some a := by
  simp [contains, Option.isSome_iff_exists]

theorem contains_eq_false_iff {t : Table α} {k : κ} :
    t.contains k = false ↔ t.get? k = none := by
  simp [contains]

@[simp] theorem get?_empty (k : κ) : (empty : Table α).get? k = none := rfl

/-- Store `a` under its key: in place when the key is present, else last. -/
def put (t : Table α) (a : α) : Table α :=
  if h : t.contains (Keyed.key a) then
    ⟨t.replaced a, by rw [map_key_replaced]; exact t.nodup⟩
  else
    ⟨t.items ++ [a], by
      have hnone := get?_eq_none_iff.mp (contains_eq_false_iff.mp (Bool.not_eq_true _ ▸ h))
      rw [List.map_append, List.nodup_append]
      refine ⟨t.nodup, by simp, ?_⟩
      rintro _ hk _ hk' rfl
      obtain ⟨b, hb, hbk⟩ := List.mem_map.mp hk
      obtain rfl := by simpa using hk'
      exact hnone b hb hbk⟩

theorem mem_put_iff {t : Table α} {a b : α} :
    b ∈ (t.put a).items ↔ b = a ∨ (b ∈ t.items ∧ Keyed.key b ≠ (Keyed.key a : κ)) := by
  unfold put
  split
  · next h =>
    obtain ⟨c, hc⟩ := contains_iff.mp h
    have hcmem := (get?_eq_some_iff.mp hc)
    simp only [replaced, List.mem_map]
    constructor
    · rintro ⟨d, hd, rfl⟩
      by_cases hk : (Keyed.key d : κ) = Keyed.key a
      · simp [hk]
      · simp [hk, hd]
    · rintro (rfl | ⟨hb, hne⟩)
      · exact ⟨c, hcmem.1, by simp [hcmem.2]⟩
      · exact ⟨b, hb, by simp [hne]⟩
  · next h =>
    have hnone := get?_eq_none_iff.mp (contains_eq_false_iff.mp (Bool.not_eq_true _ ▸ h))
    simp only [List.mem_append, List.mem_singleton]
    constructor
    · rintro (hb | rfl)
      · exact Or.inr ⟨hb, hnone b hb⟩
      · exact Or.inl rfl
    · rintro (rfl | ⟨hb, _⟩)
      · exact Or.inr rfl
      · exact Or.inl hb

@[simp] theorem get?_put (t : Table α) (a : α) (k : κ) :
    (t.put a).get? k = if k = Keyed.key a then some a else t.get? k := by
  by_cases hk : k = Keyed.key a
  · rw [if_pos hk, get?_eq_some_iff, mem_put_iff]
    exact ⟨Or.inl rfl, hk.symm⟩
  · rw [if_neg hk]
    apply Option.ext
    intro b
    rw [get?_eq_some_iff, get?_eq_some_iff, mem_put_iff]
    constructor
    · rintro ⟨rfl | ⟨hb, _⟩, hbk⟩
      · exact absurd hbk.symm hk
      · exact ⟨hb, hbk⟩
    · rintro ⟨hb, hbk⟩
      exact ⟨Or.inr ⟨hb, by rw [hbk]; exact hk⟩, hbk⟩

theorem get?_put_self (t : Table α) (a : α) :
    (t.put a).get? (Keyed.key a) = some a := by simp

theorem get?_put_ne (t : Table α) {a : α} {k : κ} (h : k ≠ Keyed.key a) :
    (t.put a).get? k = t.get? k := by simp [h]

/-- An item under a fresh key is stored last. -/
theorem items_put_of_fresh (t : Table α) {a : α} (h : t.get? (Keyed.key a) = none) :
    (t.put a).items = t.items ++ [a] := by
  have hcontains : ¬ t.contains (Keyed.key a) = true := by
    rw [contains_eq_false_iff.mpr h]
    exact Bool.false_ne_true
  rw [put, dif_neg hcontains]

/-- Storing what is already stored changes nothing. -/
theorem put_of_get? (t : Table α) {a : α} (h : t.get? (Keyed.key a) = some a) : t.put a = t := by
  have hcontains : t.contains (Keyed.key a) = true := contains_iff.mpr ⟨a, h⟩
  apply ext
  simp only [put, hcontains, dif_pos, replaced]
  rw [List.map_congr_left, List.map_id]
  intro b hb
  by_cases hk : (Keyed.key b : κ) = Keyed.key a
  · simp only [hk, if_true]
    exact List.inj_on_of_nodup_map t.nodup (get?_eq_some_iff.mp h).1 hb hk.symm
  · simp [hk]

/-- The second of two items stored under one key is the one that stays. -/
theorem put_put (t : Table α) {a b : α} (h : (Keyed.key a : κ) = Keyed.key b) :
    (t.put a).put b = t.put b := by
  have hcontains : (t.put a).contains (Keyed.key b) = true := by
    rw [contains_iff, get?_put, if_pos h.symm]
    exact ⟨a, rfl⟩
  have houter : ((t.put a).put b).items = (t.put a).replaced b := by
    rw [put, dif_pos hcontains]
  apply ext
  rw [houter]
  by_cases ht : t.contains (Keyed.key b) = true
  · have ha : t.contains (Keyed.key a) = true := by rw [h]; exact ht
    simp only [put, ha, ht, dif_pos, replaced, List.map_map]
    apply List.map_congr_left
    intro c _
    by_cases hc : (Keyed.key c : κ) = Keyed.key b <;> simp [h, hc]
  · have ha : ¬ t.contains (Keyed.key a) = true := by rw [h]; exact ht
    have hne := get?_eq_none_iff.mp (contains_eq_false_iff.mp (Bool.not_eq_true _ ▸ ht))
    have hmap : t.items.map (fun c => if (Keyed.key c : κ) = Keyed.key b then b else c)
        = t.items := by
      rw [List.map_congr_left (fun c hc => if_neg (hne c hc)), List.map_id']
    have hput : (t.put a).items = t.items ++ [a] :=
      items_put_of_fresh t (contains_eq_false_iff.mp (Bool.not_eq_true _ ▸ ha))
    have hputb : (t.put b).items = t.items ++ [b] :=
      items_put_of_fresh t (contains_eq_false_iff.mp (Bool.not_eq_true _ ▸ ht))
    rw [hputb]
    unfold replaced
    rw [hput, List.map_append, hmap]
    simp [h]

@[simp] theorem get?_filter (t : Table α) (p : α → Bool) (k : κ) :
    (t.filter p).get? k = (t.get? k).filter p := by
  apply Option.ext
  intro b
  simp [get?_eq_some_iff, filter, Option.filter_eq_some_iff, and_assoc, and_comm]

/-- Drop the item stored under `k`. -/
def erase (t : Table α) (k : κ) : Table α := t.filter (fun a => Keyed.key a ≠ k)

@[simp] theorem get?_erase (t : Table α) (k j : κ) :
    (t.erase k).get? j = if j = k then none else t.get? j := by
  rw [erase, get?_filter]
  cases h : t.get? j with
  | none => simp
  | some a =>
    have hkey := key_of_get? h
    by_cases hj : j = k
    · subst hj; simp [Option.filter, hkey]
    · simp [Option.filter, hkey, hj]

/-- Rewrite every item in place, under its own key. -/
def update (t : Table α) (f : α → α) (h : ∀ a, Keyed.key (f a) = (Keyed.key a : κ)) :
    Table α where
  items := t.items.map f
  nodup := by
    have heq : (t.items.map f).map (Keyed.key : α → κ) = t.items.map Keyed.key := by
      rw [List.map_map]
      exact List.map_congr_left (fun a _ => h a)
    rw [heq]
    exact t.nodup

@[simp] theorem get?_update (t : Table α) (f : α → α)
    (h : ∀ a, Keyed.key (f a) = (Keyed.key a : κ)) (k : κ) :
    (t.update f h).get? k = (t.get? k).map f := by
  unfold get? update
  rw [List.find?_map]
  congr 2
  funext a
  simp [h a]

/-- Build a table from items; later items win. -/
def ofList (xs : List α) : Table α := xs.foldl put empty

theorem mem_of_mem_ofList {xs : List α} {a : α} (h : a ∈ (ofList xs).items) : a ∈ xs := by
  have hfold : ∀ (xs : List α) (t : Table α), a ∈ (xs.foldl put t).items →
      a ∈ t.items ∨ a ∈ xs := by
    intro xs
    induction xs with
    | nil => exact fun t h => Or.inl h
    | cons x xs ih =>
      intro t h
      rcases ih (t.put x) h with h | h
      · rcases mem_put_iff.mp h with rfl | ⟨h, -⟩
        · exact Or.inr (by simp)
        · exact Or.inl h
      · exact Or.inr (by simp [h])
  rcases hfold xs empty h with h | h
  · cases h
  · exact h

/-- Under distinct keys nothing is overwritten. -/
theorem mem_ofList {xs : List α} {a : α} (hnodup : (xs.map (Keyed.key (κ := κ))).Nodup)
    (h : a ∈ xs) : a ∈ (ofList xs).items := by
  have hfold : ∀ (xs : List α) (t : Table α), (xs.map (Keyed.key (κ := κ))).Nodup →
      (a ∈ xs ∨ (a ∈ t.items ∧ Keyed.key a ∉ xs.map (Keyed.key (κ := κ)))) →
      a ∈ (xs.foldl put t).items := by
    intro xs
    induction xs with
    | nil =>
      intro t _ h
      rcases h with h | h
      · cases h
      · exact h.1
    | cons x xs ih =>
      intro t hnodup h
      rw [List.map_cons, List.nodup_cons] at hnodup
      refine ih (t.put x) hnodup.2 ?_
      rcases h with h | ⟨h, hkey⟩
      · rcases List.mem_cons.mp h with rfl | h
        · exact Or.inr ⟨mem_put_iff.mpr (Or.inl rfl), hnodup.1⟩
        · exact Or.inl h
      · rw [List.map_cons, List.mem_cons, not_or] at hkey
        exact Or.inr ⟨mem_put_iff.mpr (Or.inr ⟨h, hkey.1⟩), hkey.2⟩
  exact hfold xs empty hnodup (Or.inl h)

theorem ofList_ne_nil {xs : List α} (h : xs ≠ []) : (ofList xs).items ≠ [] := by
  obtain ⟨ys, y, rfl⟩ := List.eq_nil_or_concat xs |>.resolve_left h
  have hy : y ∈ (ofList (ys.concat y)).items := by
    rw [List.concat_eq_append, ofList, List.foldl_append]
    exact mem_put_iff.mpr (Or.inl rfl)
  exact List.ne_nil_of_mem hy

end Table

namespace Dict

variable {κ α : Type} [DecidableEq κ]

/-- The value stored under `k`. -/
def get (d : Dict κ α) (k : κ) : Option α := (Table.get? d k).map Prod.snd

/-- Store `v` under `k`. -/
def set (d : Dict κ α) (k : κ) (v : α) : Dict κ α := Table.put d (k, v)

@[simp] theorem get_set (d : Dict κ α) (k j : κ) (v : α) :
    get (set d k v) j = if j = k then some v else get d j := by
  unfold get set
  rw [Table.get?_put]
  by_cases h : j = k <;> simp [Keyed.key, h]

/-- Whether `k` is bound. -/
def has (d : Dict κ α) (k : κ) : Bool := (get d k).isSome

theorem has_eq_contains (d : Dict κ α) (k : κ) : has d k = Table.contains d k := by
  simp [has, get, Table.contains]

theorem get_eq_some_iff {d : Dict κ α} {k : κ} {v : α} :
    get d k = some v ↔ (k, v) ∈ d.items := by
  simp only [get, Option.map_eq_some_iff, Prod.exists, Table.get?_eq_some_iff]
  constructor
  · rintro ⟨k', v', ⟨hmem, hk⟩, rfl⟩
    exact (show k' = k from hk) ▸ hmem
  · intro h
    exact ⟨k, v, ⟨h, rfl⟩, rfl⟩

/-- A key that is always bound to the same value ends up bound to it. -/
theorem get_foldl_set {xs : List (κ × α)} {d : Dict κ α} {k : κ} {v : α}
    (hall : ∀ w, (k, w) ∈ xs → w = v) (h : (k, v) ∈ xs ∨ get d k = some v) :
    get (xs.foldl (fun d e => set d e.1 e.2) d) k = some v := by
  induction xs generalizing d with
  | nil => exact h.resolve_left (List.not_mem_nil)
  | cons x xs ih =>
    refine ih (fun w hw => hall w (by simp [hw])) ?_
    by_cases hk : k = x.1
    · have hv : x.2 = v := hall x.2 (by simp [hk])
      exact Or.inr (by rw [get_set, if_pos hk, hv])
    · rcases h with h | h
      · refine Or.inl ((List.mem_cons.mp h).resolve_left (fun hx => hk ?_))
        rw [← hx]
      · exact Or.inr (by rw [get_set, if_neg hk, h])

end Dict

end Lib
