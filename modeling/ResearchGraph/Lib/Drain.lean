import Mathlib.Data.List.Basic

/-! # Taking a queue off in pieces

    A queue is read in pieces: every read takes the longest initial part that
    fits. `grow` finds that part; `drain` reads again and again, and its rule
    says that nothing is lost and nothing stays behind.
-/

namespace Lib

variable {α : Type}

/-! ### The longest part that fits -/

/-- Take one element after another while what was taken still fits. -/
def grow (fits : List α → Bool) : List α → List α → List α
  | selected, [] => selected
  | selected, x :: xs => if fits (selected ++ [x]) then grow fits (selected ++ [x]) xs else selected

variable (fits : List α → Bool)

theorem grow_starts (selected xs : List α) : selected <+: grow fits selected xs := by
  induction xs generalizing selected with
  | nil => exact List.prefix_rfl
  | cons x xs ih =>
    unfold grow
    split
    · exact (List.prefix_append selected [x]).trans (ih (selected ++ [x]))
    · exact List.prefix_rfl

theorem grow_isPrefix (selected xs : List α) : grow fits selected xs <+: selected ++ xs := by
  induction xs generalizing selected with
  | nil =>
    rw [List.append_nil]
    exact List.prefix_rfl
  | cons x xs ih =>
    unfold grow
    split
    · have hstep := ih (selected ++ [x])
      rwa [List.append_assoc, List.singleton_append] at hstep
    · exact List.prefix_append selected (x :: xs)

/-- What is selected fits, if what the loop starts with does. -/
theorem fits_grow {fits : List α → Bool} (selected xs : List α) (h : fits selected = true) :
    fits (grow fits selected xs) = true := by
  induction xs generalizing selected with
  | nil => exact h
  | cons x xs ih =>
    unfold grow
    split
    · rename_i hfits
      exact ih (selected ++ [x]) hfits
    · exact h

/-- A first element that fits alone is taken. -/
theorem grow_ne_nil {fits : List α → Bool} {x : α} (xs : List α) (h : fits [x] = true) :
    grow fits [] (x :: xs) ≠ [] := by
  have hgrow : grow fits [] (x :: xs) = grow fits [x] xs := by
    rw [grow, List.nil_append, if_pos h]
  rw [hgrow]
  intro hnil
  have hstart := grow_starts fits [x] xs
  rw [hnil, List.prefix_nil] at hstart
  cases hstart

/-- Growing a mapped list is growing the list by the mapped test. -/
theorem grow_map {β : Type} (f : β → α) (selected xs : List β) :
    grow fits (selected.map f) (xs.map f)
      = (grow (fun ys => fits (ys.map f)) selected xs).map f := by
  induction xs generalizing selected with
  | nil => rfl
  | cons x xs ih =>
    have hmap : selected.map f ++ [f x] = (selected ++ [x]).map f := by simp
    rw [List.map_cons, grow, grow, hmap]
    split
    · exact ih (selected ++ [x])
    · rfl

/-! ### Reading again and again -/

variable {S Op ε : Type} {read : S → Op → Except ε (List α × S)}

/-- One read after another, with the pieces they return. -/
def drain (read : S → Op → Except ε (List α × S)) : S → List Op → Except ε (List (List α) × S)
  | s, [] => .ok ([], s)
  | s, op :: ops => do
    let (piece, s) ← read s op
    let (pieces, s) ← drain read s ops
    return (piece :: pieces, s)

/-- If every read succeeds, returns the front of what waits (`W`) and takes at least one element
    while any waits, then the pieces are all that waited, in order, once there were enough reads. -/
theorem drain_complete {W : S → List α} {I : S → List Op → Prop}
    (hread : ∀ s op ops, I s (op :: ops) → ∃ piece s', read s op = .ok (piece, s') ∧ I s' ops
      ∧ W s = piece ++ W s' ∧ (W s ≠ [] → piece ≠ []))
    {s : S} {ops : List Op} (h : I s ops) :
    ∃ pieces s', drain read s ops = .ok (pieces, s') ∧ W s = pieces.flatten ++ W s'
      ∧ ((W s).length ≤ ops.length → W s' = []) := by
  induction ops generalizing s with
  | nil =>
    refine ⟨[], s, rfl, rfl, ?_⟩
    intro hlength
    exact List.eq_nil_of_length_eq_zero (Nat.le_zero.mp hlength)
  | cons op ops ih =>
    obtain ⟨piece, s₁, hok, hI, hwaiting, hprogress⟩ := hread s op ops h
    obtain ⟨pieces, s', hdrain, hrest, hdone⟩ := ih hI
    refine ⟨piece :: pieces, s', ?_, ?_, ?_⟩
    · simp only [drain, hok, bind, Except.bind, hdrain]
      rfl
    · rw [hwaiting, hrest, List.flatten_cons, List.append_assoc]
    · intro hlength
      refine hdone ?_
      by_cases hempty : W s = []
      · rw [hempty] at hwaiting
        rw [(List.nil_eq_append_iff.mp hwaiting).2]
        exact Nat.zero_le _
      · have hpiece := List.length_pos_iff.mpr (hprogress hempty)
        rw [hwaiting, List.length_append, List.length_cons] at hlength
        omega

end Lib
