import Mathlib.Order.Defs.PartialOrder

/-! # Runs of a store

    A store takes one operation after another. An operation that fails rolls
    its transaction back, so a step always leads to a state. The rules here
    carry what one step preserves to whole runs.
-/

namespace Lib

variable {S Op : Type} {apply : S → Op → S} {guard : S → Op → Prop} {s : S} {ops : List Op}

/-- The state after a list of operations. -/
def run (apply : S → Op → S) (s : S) (ops : List Op) : S := ops.foldl apply s

/-- Every operation meets the guard in the state it starts from. -/
def Along (apply : S → Op → S) (guard : S → Op → Prop) : S → List Op → Prop
  | _, [] => True
  | s, op :: ops => guard s op ∧ Along apply guard (apply s op) ops

@[simp] theorem run_nil : run apply s [] = s := rfl

@[simp] theorem run_cons (op : Op) : run apply s (op :: ops) = run apply (apply s op) ops := rfl

theorem run_append (ops' : List Op) :
    run apply s (ops ++ ops') = run apply (run apply s ops) ops' := List.foldl_append

/-- The part of a run after its first operations is a run from the state they lead to. -/
theorem run_take_of_le {i j : Nat} (h : i ≤ j) :
    run apply s (ops.take j)
      = run apply (run apply s (ops.take i)) ((ops.drop i).take (j - i)) := by
  rw [← run_append]
  congr 1
  have hj : j = i + (j - i) := by omega
  rw [hj, List.take_add, Nat.add_sub_cancel_left]

theorem run_take_succ {op : Op} {i : Nat} (h : ops[i]? = some op) :
    run apply s (ops.take (i + 1)) = apply (run apply s (ops.take i)) op := by
  rw [List.take_add_one, h, run_append]
  rfl

theorem along_append {ops' : List Op} :
    Along apply guard s (ops ++ ops')
      ↔ Along apply guard s ops ∧ Along apply guard (run apply s ops) ops' := by
  induction ops generalizing s with
  | nil => simp [Along]
  | cons op ops ih => simp [Along, ih, and_assoc]

theorem Along.take (h : Along apply guard s ops) (k : Nat) : Along apply guard s (ops.take k) := by
  rw [← List.take_append_drop k ops] at h
  exact (along_append.mp h).1

/-- A guard that holds in every state an operation starts from holds along the run. -/
theorem along_of_take
    (h : ∀ k op, ops[k]? = some op → guard (run apply s (ops.take k)) op) :
    Along apply guard s ops := by
  induction ops generalizing s with
  | nil => exact trivial
  | cons op ops ih =>
    refine ⟨h 0 op rfl, ih ?_⟩
    intro k op' hop
    exact h (k + 1) op' hop

/-- An invariant of the guarded steps holds at the end of a guarded run. -/
theorem invariant_run {I : S → Prop} (hstep : ∀ s op, I s → guard s op → I (apply s op))
    (hs : I s) (h : Along apply guard s ops) : I (run apply s ops) := by
  induction ops generalizing s with
  | nil => exact hs
  | cons op ops ih => exact ih (hstep s op hs h.1) h.2

/-- A reflexive and transitive relation that every step keeps relates the two ends of a run. -/
theorem related_run {R : S → S → Prop} (hrefl : ∀ s, R s s)
    (htrans : ∀ {a b c}, R a b → R b c → R a c) (hstep : ∀ s op, R s (apply s op)) :
    R s (run apply s ops) := by
  induction ops generalizing s with
  | nil => exact hrefl s
  | cons op ops ih => exact htrans (hstep s op) ih

end Lib
