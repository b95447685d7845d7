import ResearchGraph.Lib.Document

/-! # Rewriting documents

    Programs that read old documents rewrite them in place: they read, store and
    remove entries of objects, and descend into the values under a key.  A
    rewriting may raise.

    `Settles f` says that a rewriting leaves its own results alone.  It is closed
    under descending into a key, a list or the values of an object, and under
    sequencing of rewritings of which the later keeps what the earlier settled.
-/

namespace Lib

/-- The entries of an object, in the order in which they were stored. -/
abbrev Entries := List (String × Value)

namespace Entries

/-- The value under a key, `null` when there is none. -/
def get (d : Entries) (k : String) : Value := (d.lookup k).getD .null

/-- Whether there is an entry under a key. -/
def has (d : Entries) (k : String) : Bool := (d.lookup k).isSome

/-- The entries without those under a key. -/
def pop (d : Entries) (k : String) : Entries := d.filter (fun e => e.1 ≠ k)

/-- Store a value: in the place of the old one, at the end when there was none. -/
def put (d : Entries) (k : String) (v : Value) : Entries :=
  if d.has k then d.map (fun e => if e.1 = k then (k, v) else e) else d ++ [(k, v)]

variable {d : Entries} {k l : String} {v : Value}

theorem lookup_cons_ne (h : l ≠ k) : ((k, v) :: d).lookup l = d.lookup l := by
  have hne : (l == k) = false := by simpa using h
  rw [List.lookup_cons, hne]

@[simp] theorem lookup_pop_self : (d.pop k).lookup k = none := by
  induction d with
  | nil => rfl
  | cons e d ih =>
    obtain ⟨j, w⟩ := e
    by_cases hj : j = k
    · subst hj
      simpa [pop] using ih
    · have : pop ((j, w) :: d) k = (j, w) :: pop d k := by simp [pop, hj]
      rw [this, lookup_cons_ne (Ne.symm hj), ih]

theorem lookup_pop (h : l ≠ k) : (d.pop k).lookup l = d.lookup l := by
  induction d with
  | nil => rfl
  | cons e d ih =>
    obtain ⟨j, w⟩ := e
    by_cases hj : j = k
    · subst hj
      rw [lookup_cons_ne h, ← ih]
      simp [pop]
    · have hpop : pop ((j, w) :: d) k = (j, w) :: pop d k := by simp [pop, hj]
      rw [hpop, List.lookup_cons, List.lookup_cons, ih]

theorem pop_eq_self (h : d.has k = false) : d.pop k = d := by
  induction d with
  | nil => rfl
  | cons e d ih =>
    obtain ⟨j, w⟩ := e
    by_cases hj : j = k
    · subst hj
      simp [has] at h
    · have hd : has d k = false := by
        rw [has, lookup_cons_ne (Ne.symm hj)] at h
        exact h
      have hpop : pop ((j, w) :: d) k = (j, w) :: pop d k := by simp [pop, hj]
      rw [hpop, ih hd]

private theorem lookup_overwritten (d : Entries) (k l : String) (v : Value) :
    (d.map (fun e => if e.1 = k then (k, v) else e)).lookup l =
      if l = k then (d.lookup k).map (fun _ => v) else d.lookup l := by
  induction d with
  | nil => simp
  | cons e d ih =>
    obtain ⟨j, w⟩ := e
    rw [List.map_cons]
    by_cases hj : j = k
    · subst hj
      by_cases hl : l = j
      · subst hl
        simp
      · simp only [if_pos, lookup_cons_ne hl, ih, if_neg hl]
    · simp only [if_neg hj]
      by_cases hl : l = j
      · subst hl
        simp [hj]
      · rw [lookup_cons_ne hl, ih, lookup_cons_ne hl]
        by_cases hlk : l = k
        · rw [if_pos hlk, if_pos hlk, lookup_cons_ne (Ne.symm hj)]
        · rw [if_neg hlk, if_neg hlk]

private theorem lookup_appended (d : Entries) (k l : String) (v : Value) (hd : d.has k = false) :
    (d ++ [(k, v)]).lookup l = if l = k then some v else d.lookup l := by
  induction d with
  | nil =>
    by_cases hl : l = k
    · subst hl
      simp
    · rw [List.nil_append, lookup_cons_ne hl, if_neg hl]
  | cons e d ih =>
    obtain ⟨j, w⟩ := e
    have hj : k ≠ j := by
      intro hj
      subst hj
      simp [has] at hd
    have hd' : has d k = false := by
      rw [has, lookup_cons_ne hj] at hd
      exact hd
    rw [List.cons_append]
    by_cases hl : l = j
    · subst hl
      simp [Ne.symm hj]
    · rw [lookup_cons_ne hl, lookup_cons_ne hl, ih hd']

theorem lookup_put (d : Entries) (k l : String) (v : Value) :
    (d.put k v).lookup l = if l = k then some v else d.lookup l := by
  by_cases hd : d.has k = true
  · rw [put, if_pos hd, lookup_overwritten]
    obtain ⟨w, hw⟩ := Option.isSome_iff_exists.mp hd
    simp [hw]
  · rw [put, if_neg hd]
    exact lookup_appended d k l v (by simpa using hd)

@[simp] theorem get_put_self : (d.put k v).get k = v := by simp [get, lookup_put]

theorem get_put_ne (h : l ≠ k) : (d.put k v).get l = d.get l := by simp [get, lookup_put, h]

@[simp] theorem has_put_self : (d.put k v).has k = true := by simp [has, lookup_put]

theorem has_put_ne (h : l ≠ k) : (d.put k v).has l = d.has l := by simp [has, lookup_put, h]

@[simp] theorem get_pop_self : (d.pop k).get k = .null := by simp [get]

theorem get_pop_ne (h : l ≠ k) : (d.pop k).get l = d.get l := by simp [get, lookup_pop h]

@[simp] theorem has_pop_self : (d.pop k).has k = false := by simp [has]

theorem has_pop_ne (h : l ≠ k) : (d.pop k).has l = d.has l := by simp [has, lookup_pop h]

theorem get_of_not_has (h : d.has k = false) : d.get k = .null := by
  simp only [has, Option.isSome_eq_false_iff, Option.isNone_iff_eq_none] at h
  simp [get, h]

theorem has_of_get (h : d.get k ≠ .null) : d.has k = true := by
  by_contra hk
  exact h (get_of_not_has (by simpa using hk))

/-- Storing the value that a single entry already has changes nothing. -/
theorem put_put (d : Entries) (k : String) (v w : Value) : (d.put k v).put k w = d.put k w := by
  rw [put, if_pos has_put_self]
  by_cases hd : d.has k = true
  · rw [put, if_pos hd, put, if_pos hd, List.map_map]
    apply List.map_congr_left
    intro e _
    by_cases he : e.1 = k
    · simp [he]
    · simp [he]
  · rw [put, if_neg hd, put, if_neg hd, List.map_append]
    congr 1
    · conv_rhs => rw [← List.map_id d]
      apply List.map_congr_left
      intro e he
      have hne : e.1 ≠ k := by
        intro hk
        obtain ⟨j, u⟩ := e
        obtain rfl : j = k := hk
        have hpop := pop_eq_self (by simpa using hd : d.has j = false)
        rw [pop, List.filter_eq_self] at hpop
        simpa using hpop (j, u) he
      simp [hne]
    · simp

theorem mem_pop {e : String × Value} : e ∈ d.pop k ↔ e ∈ d ∧ e.1 ≠ k := by simp [pop]

@[simp] theorem pop_pop : (d.pop k).pop k = d.pop k := by simp [pop]

@[simp] theorem pop_put : (d.put k v).pop k = d.pop k := by
  by_cases hd : d.has k = true
  · rw [put, if_pos hd]
    clear hd
    induction d with
    | nil => rfl
    | cons e d ih =>
      simp only [pop, List.map_cons] at ih ⊢
      by_cases he : e.1 = k
      · simpa [he] using ih
      · simpa [he] using ih
  · simp [put, hd, pop]

/-- Rewrite the value under a key. -/
def within {ε : Type} (k : String) (f : Value → Except ε Value) (d : Entries) :
    Except ε Entries :=
  d.mapM (fun e => if e.1 = k then (f e.2).map (fun v => (e.1, v)) else .ok e)

end Entries

/-! ### Rewritings that leave their results alone -/

section Settles

variable {ε α : Type}

/-- The rewriting leaves every result of its own as it is. -/
def Settles (f : α → Except ε α) : Prop := ∀ x y, f x = .ok y → f y = .ok y

theorem settles_pure {f : α → α} (h : ∀ x, f (f x) = f x) :
    Settles (fun x => (.ok (f x) : Except ε α)) := by
  intro x y hxy
  obtain rfl : f x = y := by simpa using hxy
  exact congrArg Except.ok (h x)

/-- What the first rewriting leaves alone it still leaves alone after the second. -/
def Keeps (f g : α → Except ε α) : Prop := ∀ x y, f x = .ok x → g x = .ok y → f y = .ok y

theorem Keeps.andThen {f g h : α → Except ε α} (hg : Keeps f g) (hh : Keeps f h) :
    Keeps f (fun x => g x >>= h) := by
  intro x z hfix hz
  cases hx : g x with
  | error e => simp [hx, bind, Except.bind] at hz
  | ok y =>
    have hy : h y = .ok z := by simpa [hx, bind, Except.bind] using hz
    exact hh y z (hg x y hfix hx) hy

theorem Settles.andThen {f g : α → Except ε α} (hf : Settles f) (hg : Settles g)
    (hkeep : Keeps f g) : Settles (fun x => f x >>= g) := by
  intro x z h
  cases hx : f x with
  | error e => simp [hx, bind, Except.bind] at h
  | ok y =>
    have hz : g y = .ok z := by simpa [hx, bind, Except.bind] using h
    have hfz : f z = .ok z := hkeep y z (hf x y hx) hz
    simpa [hfz, bind, Except.bind] using hg y z hz

theorem Settles.guarded {c : α → Prop} [DecidablePred c] {f : α → Except ε α} (hf : Settles f) :
    Settles (fun x => if c x then f x else .ok x) := by
  intro x y h
  by_cases hy : c y
  · by_cases hx : c x
    · simp only [if_pos hx] at h
      simpa only [if_pos hy] using hf x y h
    · simp only [if_neg hx, Except.ok.injEq] at h
      exact absurd (h ▸ hy) hx
  · simp only [if_neg hy]

/-- The two branches of a rewriting keep the condition that chose between them. -/
theorem Settles.either {c : α → Prop} [DecidablePred c] {f g : α → Except ε α} (hf : Settles f)
    (hg : Settles g) (hc : ∀ x y, c x → f x = .ok y → c y)
    (hn : ∀ x y, ¬ c x → g x = .ok y → ¬ c y) : Settles (fun x => if c x then f x else g x) := by
  intro x y h
  by_cases hx : c x
  · simp only [if_pos hx] at h
    simpa only [if_pos (hc x y hx h)] using hf x y h
  · simp only [if_neg hx] at h
    simpa only [if_neg (hn x y hx h)] using hg x y h

theorem mapM_eq_ok_iff {β : Type} {f : α → Except ε β} {xs : List α} {ys : List β} :
    xs.mapM f = .ok ys ↔ List.Forall₂ (fun x y => f x = .ok y) xs ys := by
  induction xs generalizing ys with
  | nil =>
    simp only [List.mapM_nil, pure, Except.pure, Except.ok.injEq, List.forall₂_nil_left_iff]
    exact eq_comm
  | cons x xs ih =>
    rw [List.mapM_cons, List.forall₂_cons_left_iff]
    constructor
    · intro h
      cases hx : f x with
      | error e => simp [hx, bind, Except.bind] at h
      | ok y =>
        cases hxs : xs.mapM f with
        | error e => simp [hx, hxs, bind, Except.bind] at h
        | ok ys' =>
          have hys : y :: ys' = ys := by
            simpa [hx, hxs, bind, Except.bind, pure, Except.pure] using h
          exact ⟨y, ys', rfl, ih.mp hxs, hys.symm⟩
    · rintro ⟨y, ys', hy, hys', rfl⟩
      simp [hy, ih.mpr hys', bind, Except.bind, pure, Except.pure]

theorem mapM_eq_ok_self {f : α → Except ε α} {xs : List α} :
    xs.mapM f = .ok xs ↔ ∀ x ∈ xs, f x = .ok x := by
  rw [mapM_eq_ok_iff, List.forall₂_same]

theorem Settles.mapM {f : α → Except ε α} (hf : Settles f) :
    Settles (fun xs : List α => xs.mapM f) := by
  intro xs ys h
  rw [mapM_eq_ok_self]
  intro y hy
  obtain ⟨i, hi, rfl⟩ := List.getElem_of_mem hy
  have hxs := mapM_eq_ok_iff.mp h
  exact hf _ _ (hxs.get (by rw [hxs.length_eq]; exact hi) hi)

/-- A rewriting seen through an injection. -/
theorem Settles.mapped {β : Type} {f : α → Except ε α} (hf : Settles f) {g : β → Except ε β}
    (wrap : α → β) (hwrap : ∀ x, g (wrap x) = (f x).map wrap)
    (hother : ∀ y, (∀ x, y ≠ wrap x) → g y = .ok y) : Settles g := by
  intro y z h
  by_cases hy : ∃ x, y = wrap x
  · obtain ⟨x, rfl⟩ := hy
    rw [hwrap] at h
    cases hx : f x with
    | error e => simp [hx, Except.map] at h
    | ok x' =>
      obtain rfl : wrap x' = z := by simpa [hx, Except.map] using h
      rw [hwrap, hf x x' hx]
      rfl
  · have hy' := hother y (fun x hx => hy ⟨x, hx⟩)
    rw [hy', Except.ok.injEq] at h
    rw [← h, hy']

end Settles

namespace Value

variable {ε : Type}

/-- Rewrite a value that is an object. -/
def on_dict (f : Entries → Except ε Entries) : Value → Except ε Value
  | .dict d => (f d).map .dict
  | v => .ok v

/-- Rewrite the elements of a value that is a list. -/
def on_list (f : Value → Except ε Value) : Value → Except ε Value
  | .list xs => (xs.mapM f).map .list
  | v => .ok v

/-- Rewrite the values of a value that is an object. -/
def on_values (f : Value → Except ε Value) : Value → Except ε Value
  | .dict d => (d.mapM (fun e => (f e.2).map (fun v => (e.1, v)))).map .dict
  | v => .ok v

theorem on_dict_self {f : Entries → Except ε Entries} (hf : ∀ d, f d = .ok d) (v : Value) :
    v.on_dict f = .ok v := by
  cases v with
  | dict d => simp [on_dict, hf, Except.map]
  | _ => rfl

theorem on_list_self {f : Value → Except ε Value} (hf : ∀ v, f v = .ok v) (v : Value) :
    v.on_list f = .ok v := by
  cases v with
  | list xs =>
    have hxs : xs.mapM f = .ok xs := mapM_eq_ok_self.mpr (fun x _ => hf x)
    simp [on_list, hxs, Except.map]
  | _ => rfl

theorem on_dict_settles {f : Entries → Except ε Entries} (hf : Settles f) :
    Settles (on_dict f) := by
  apply hf.mapped .dict (fun d => rfl)
  intro v hv
  cases v with
  | dict d => exact absurd rfl (hv d)
  | _ => rfl

theorem on_list_settles {f : Value → Except ε Value} (hf : Settles f) : Settles (on_list f) := by
  apply hf.mapM.mapped .list (fun xs => rfl)
  intro v hv
  cases v with
  | list xs => exact absurd rfl (hv xs)
  | _ => rfl

theorem at_value_settles {f : Value → Except ε Value} (hf : Settles f) :
    Settles (fun e : String × Value => (f e.2).map (fun v => (e.1, v))) := by
  rintro ⟨k, v⟩ ⟨l, w⟩ h
  cases hv : f v with
  | error e => simp [hv, Except.map] at h
  | ok v' =>
    obtain ⟨rfl, rfl⟩ : k = l ∧ v' = w := by simpa [hv, Except.map] using h
    simp [hf v v' hv, Except.map]

theorem on_values_settles {f : Value → Except ε Value} (hf : Settles f) :
    Settles (on_values f) := by
  apply (at_value_settles hf).mapM.mapped .dict (fun d => rfl)
  intro v hv
  cases v with
  | dict d => exact absurd rfl (hv d)
  | _ => rfl

end Value

/-! ### Rewritings of objects, key by key -/

namespace Entries

variable {ε : Type} {d d' : Entries} {k l : String}

/-- The rewriting changes nothing but the entries under a key. -/
def Touches (k : String) (f : Entries → Except ε Entries) : Prop :=
  ∀ d d', f d = .ok d' → d'.pop k = d.pop k

/-- Whether the rewriting leaves an object alone does not depend on the entries
    under a key. -/
def Ignores (k : String) (f : Entries → Except ε Entries) : Prop :=
  ∀ d d', d'.pop k = d.pop k → f d = .ok d → f d' = .ok d'

theorem get_of_pop_eq (h : d'.pop k = d.pop k) (hl : l ≠ k) : d'.get l = d.get l := by
  rw [← get_pop_ne hl, h, get_pop_ne hl]

theorem has_of_pop_eq (h : d'.pop k = d.pop k) (hl : l ≠ k) : d'.has l = d.has l := by
  rw [← has_pop_ne hl, h, has_pop_ne hl]

theorem within_eq_ok_self {f : Value → Except ε Value} :
    d.within k f = .ok d ↔ ∀ v, (k, v) ∈ d → f v = .ok v := by
  rw [within, mapM_eq_ok_self]
  constructor
  · intro h v hv
    have hkv := h (k, v) hv
    cases hf : f v with
    | error e => simp [hf, Except.map] at hkv
    | ok w => simpa [hf, Except.map] using hkv
  · rintro h ⟨j, v⟩ hv
    by_cases hj : j = k
    · subst hj
      simp [h v hv, Except.map]
    · simp [hj]

theorem within_self {f : Value → Except ε Value} (hf : ∀ v, f v = .ok v) :
    d.within k f = .ok d :=
  within_eq_ok_self.mpr (fun v _ => hf v)

theorem within_settles (k : String) {f : Value → Except ε Value} (hf : Settles f) :
    Settles (within k f) := by
  have hentry := (Value.at_value_settles hf).guarded (c := fun e => e.1 = k)
  exact hentry.mapM

theorem within_touches (k : String) (f : Value → Except ε Value) : Touches k (within k f) := by
  intro d d' h
  induction mapM_eq_ok_iff.mp h with
  | nil => rfl
  | @cons e e' d d' he htail ih =>
    have hd := ih (mapM_eq_ok_iff.mpr htail)
    by_cases hk : e.1 = k
    · simp only [if_pos hk] at he
      have he' : e'.1 = k := by
        cases hf : f e.2 with
        | error _ => simp [hf, Except.map] at he
        | ok w =>
          rw [hf] at he
          cases he
          exact hk
      simpa [pop, hk, he'] using hd
    · simp only [if_neg hk, Except.ok.injEq] at he
      subst he
      simpa [pop, hk] using hd

theorem within_ignores (h : l ≠ k) (f : Value → Except ε Value) : Ignores l (within k f) := by
  intro d d' hd hfix
  rw [within_eq_ok_self] at hfix ⊢
  intro v hv
  have hmem : (k, v) ∈ d.pop l := hd ▸ mem_pop.mpr ⟨hv, Ne.symm h⟩
  exact hfix v (mem_pop.mp hmem).1

theorem Touches.guarded {c : Entries → Prop} [DecidablePred c] {f : Entries → Except ε Entries}
    (hf : Touches k f) : Touches k (fun d => if c d then f d else .ok d) := by
  intro d d' h
  by_cases hd : c d
  · exact hf d d' (by simpa only [if_pos hd] using h)
  · simp only [if_neg hd, Except.ok.injEq] at h
    rw [h]

theorem Ignores.guarded {c : Entries → Prop} [DecidablePred c] {f : Entries → Except ε Entries}
    (hf : Ignores k f) (hc : ∀ d d' : Entries, d'.pop k = d.pop k → (c d' ↔ c d)) :
    Ignores k (fun d => if c d then f d else .ok d) := by
  intro d d' hpop hfix
  by_cases hd : c d
  · simp only [if_pos ((hc d d' hpop).mpr hd)]
    exact hf d d' hpop (by simpa only [if_pos hd] using hfix)
  · simp only [if_neg (fun h => hd ((hc d d' hpop).mp h))]

/-- The second rewriting changes only what the first does not look at. -/
theorem Ignores.keeps {f g : Entries → Except ε Entries} (hf : Ignores k f) (hg : Touches k g) :
    Keeps f g :=
  fun d d' hfix h => hf d d' (hg d d' h) hfix

end Entries

end Lib
