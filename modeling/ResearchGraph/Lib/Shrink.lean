import Mathlib.Data.List.Forall2

/-! # Trimming until something fits

    A loop that takes one piece after another off a value until the value fits,
    or until there is nothing left to take.  `Trim` is the step, with the weight
    that makes the loop end.
-/

namespace Lib

/-- A way to take one piece off a value; every piece has weight. -/
structure Trim (α : Type) where
  step : α → Option α
  weight : α → Nat
  lighter : ∀ a b, step a = some b → weight b < weight a

namespace Trim

variable {α : Type}

/-- Trim a value until it fits. -/
def until_fits (trim : Trim α) (fits : α → Bool) (a : α) : α :=
  if fits a then a
  else match _h : trim.step a with
    | none => a
    | some b => until_fits trim fits b
termination_by trim.weight a
decreasing_by exact trim.lighter a b _h

/-- The loop ends with a value that fits, or one with nothing left to take. -/
theorem until_fits_stops (trim : Trim α) (fits : α → Bool) (a : α) :
    fits (trim.until_fits fits a) = true ∨ trim.step (trim.until_fits fits a) = none := by
  fun_induction until_fits trim fits a with
  | case1 a hfits => exact Or.inl hfits
  | case2 a _ hnone => exact Or.inr hnone
  | case3 a _ b _ ih => exact ih

/-- What every step keeps, the loop keeps. -/
theorem until_fits_keeps (trim : Trim α) (fits : α → Bool) (a : α) {P : α → Prop} (ha : P a)
    (hstep : ∀ a b, trim.step a = some b → P a → P b) : P (trim.until_fits fits a) := by
  fun_induction until_fits trim fits a with
  | case1 a _ => exact ha
  | case2 a _ _ => exact ha
  | case3 a _ b hb ih => exact ih (hstep a b hb ha)

end Trim

/-- Related pointwise twice is related pointwise by what the two relations give. -/
theorem forall₂_trans {α β γ : Type} {R : α → β → Prop} {S : β → γ → Prop} {T : α → γ → Prop}
    (hT : ∀ a b c, R a b → S b c → T a c) {xs : List α} {ys : List β} {zs : List γ}
    (h : List.Forall₂ R xs ys) (h' : List.Forall₂ S ys zs) : List.Forall₂ T xs zs := by
  induction h generalizing zs with
  | nil =>
    cases h'
    exact .nil
  | cons hab _ ih =>
    cases h' with
    | cons hbc hrest => exact .cons (hT _ _ _ hab hbc) (ih hrest)

end Lib
