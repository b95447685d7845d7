import Mathlib.Data.List.Nodup

/-! # Cuts of increasing lists

    A list that increases in a key is cut by a bound into the part below it and
    the part from it on.
-/

namespace Lib

variable {α : Type} {key : α → Nat} {xs pre post : List α} {x : α} {r : Nat}

/-- The list increases strictly in the key. -/
def Increasing (key : α → Nat) (xs : List α) : Prop := xs.Pairwise (fun a b => key a < key b)

theorem Increasing.filter (h : Increasing key xs) (p : α → Bool) : Increasing key (xs.filter p) :=
  List.Pairwise.filter p h

theorem Increasing.sublist {ys : List α} (h : Increasing key xs) (hys : ys.Sublist xs) :
    Increasing key ys := List.Pairwise.sublist hys h

theorem Increasing.left (h : Increasing key (pre ++ post)) : Increasing key pre :=
  (List.pairwise_append.mp h).1

theorem Increasing.right (h : Increasing key (pre ++ post)) : Increasing key post :=
  (List.pairwise_append.mp h).2.1

theorem Increasing.lt (h : Increasing key (pre ++ post)) {a b : α} (ha : a ∈ pre) (hb : b ∈ post) :
    key a < key b := (List.pairwise_append.mp h).2.2 a ha b hb

/-- Entries with one key are one entry. -/
theorem Increasing.eq_of_key {a b : α} (h : Increasing key xs) (ha : a ∈ xs) (hb : b ∈ xs)
    (hk : key a = key b) : a = b := by
  have hnodup : (xs.map key).Nodup :=
    List.pairwise_map.mpr (List.Pairwise.imp (fun hab => Nat.ne_of_lt hab) h)
  exact List.inj_on_of_nodup_map hnodup ha hb hk

/-- The part below a bound, then the part from it on. -/
theorem Increasing.cut (h : Increasing key xs) (r : Nat) :
    xs.filter (fun a => key a < r) ++ xs.filter (fun a => r ≤ key a) = xs := by
  induction xs with
  | nil => rfl
  | cons x xs ih =>
    obtain ⟨hx, hxs⟩ := List.pairwise_cons.mp h
    by_cases hlt : key x < r
    · have hge : ¬ r ≤ key x := by omega
      simp only [List.filter_cons, hlt, hge, decide_true, decide_false, if_true, List.cons_append]
      rw [if_neg (by simp), ih hxs]
    · -- everything behind `x` is above the bound as well
      have hnone : xs.filter (fun a => key a < r) = [] := by
        refine List.filter_eq_nil_iff.mpr (fun a ha => ?_)
        have := hx a ha
        simp only [decide_eq_true_eq]
        omega
      have hall : xs.filter (fun a => r ≤ key a) = xs := by
        refine List.filter_eq_self.mpr (fun a ha => ?_)
        have := hx a ha
        simp only [decide_eq_true_eq]
        omega
      have hge : r ≤ key x := by omega
      simp [hlt, hge, hnone, hall]

/-- Cutting at an element leaves what stands before it. -/
theorem Increasing.filter_lt (h : Increasing key (pre ++ x :: post)) :
    (pre ++ x :: post).filter (fun a => key a < key x) = pre := by
  have hpre : pre.filter (fun a => key a < key x) = pre :=
    List.filter_eq_self.mpr (fun a ha => by simpa using h.lt ha (List.mem_cons_self))
  have hpost : (x :: post).filter (fun a => key a < key x) = [] := by
    refine List.filter_eq_nil_iff.mpr (fun a ha => ?_)
    rcases List.mem_cons.mp ha with rfl | ha
    · simp
    · have := (List.pairwise_cons.mp h.right).1 a ha
      simp only [decide_eq_true_eq]
      omega
  rw [List.filter_append, hpre, hpost, List.append_nil]

/-- Cutting behind an element keeps it as the last one. -/
theorem Increasing.filter_le (h : Increasing key (pre ++ x :: post)) :
    (pre ++ x :: post).filter (fun a => key a ≤ key x) = pre ++ [x] := by
  have hpre : pre.filter (fun a => key a ≤ key x) = pre :=
    List.filter_eq_self.mpr (fun a ha => by simpa using Nat.le_of_lt (h.lt ha List.mem_cons_self))
  have hpost : post.filter (fun a => key a ≤ key x) = [] := by
    refine List.filter_eq_nil_iff.mpr (fun a ha => ?_)
    have := (List.pairwise_cons.mp h.right).1 a ha
    simp only [decide_eq_true_eq]
    omega
  rw [List.filter_append, hpre, List.filter_cons, if_pos (by simp), hpost]

theorem Increasing.cut_le (h : Increasing key xs) (r : Nat) :
    xs.filter (fun a => key a ≤ r) ++ xs.filter (fun a => r < key a) = xs := by
  have hcut := h.cut (r + 1)
  simpa only [Nat.lt_succ_iff, Nat.succ_le_iff] using hcut

theorem Increasing.takeWhile_ne (h : Increasing key (pre ++ x :: post)) :
    (pre ++ x :: post).takeWhile (fun a => key a ≠ key x) = pre := by
  rw [List.takeWhile_append_of_pos]
  · simp
  · intro a ha
    have := h.lt ha (List.mem_cons_self (a := x) (l := post))
    simp only [ne_eq, decide_eq_true_eq]
    omega

/-! ### Searches that stop at an element -/

/-- A search through a list that reports the key of the element it stops at: behind
    that element the list does not matter. -/
structure StopsAt (key : α → Nat) (find : List α → Option Nat) : Prop where
  nil : find [] = none
  keep : ∀ {pre post r}, find pre = some r → find (pre ++ post) = some r
  later : ∀ {pre post r}, find pre = none → find (pre ++ post) = some r → ∃ x ∈ post, key x = r

theorem StopsAt.mem {find : List α → Option Nat} (h : StopsAt key find) (hr : find xs = some r) :
    ∃ x ∈ xs, key x = r := by
  have hall : find ([] ++ xs) = some r := hr
  exact h.later h.nil hall

/-- Below a bound the search finds nothing when it does not stop below the bound. -/
theorem StopsAt.below {find : List α → Option Nat} (h : StopsAt key find)
    (hxs : Increasing key xs) {n : Nat} :
    find (xs.filter (fun a => key a < n)) = none ↔ ∀ r, find xs = some r → n ≤ r := by
  have hcut := hxs.cut n
  constructor
  · intro hnone r hr
    rw [← hcut] at hr
    obtain ⟨x, hx, rfl⟩ := h.later hnone hr
    simpa using (List.mem_filter.mp hx).2
  · intro hge
    by_contra hne
    obtain ⟨r, hr⟩ := Option.ne_none_iff_exists'.mp hne
    obtain ⟨x, hx, rfl⟩ := h.mem hr
    have hfound : find xs = some (key x) := by
      rw [← hcut]
      exact h.keep hr
    have hlt : key x < n := by simpa using (List.mem_filter.mp hx).2
    have hle := hge _ hfound
    omega

/-- The search stops at an element exactly when it finds nothing before it, and it. -/
theorem StopsAt.at_iff {find : List α → Option Nat} (h : StopsAt key find)
    (hxs : Increasing key (pre ++ x :: post)) :
    find (pre ++ x :: post) = some (key x) ↔ find pre = none ∧ find (pre ++ [x]) ≠ none := by
  constructor
  · intro hfound
    have hpre : find pre = none := by
      by_contra hne
      obtain ⟨r, hr⟩ := Option.ne_none_iff_exists'.mp hne
      obtain ⟨y, hy, rfl⟩ := h.mem hr
      rw [h.keep hr, Option.some.injEq] at hfound
      have hlt := hxs.lt hy List.mem_cons_self
      omega
    refine ⟨hpre, fun hnone => ?_⟩
    rw [List.append_cons] at hfound
    obtain ⟨y, hy, hkey⟩ := h.later hnone hfound
    have hlt := (List.pairwise_cons.mp hxs.right).1 y hy
    omega
  · rintro ⟨hpre, hne⟩
    obtain ⟨r, hr⟩ := Option.ne_none_iff_exists'.mp hne
    obtain ⟨y, hy, rfl⟩ := h.later hpre hr
    obtain rfl := List.mem_singleton.mp hy
    rw [List.append_cons]
    exact h.keep hr

end Lib
