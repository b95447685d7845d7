import Mathlib.Data.Option.Basic

/-! # Transactions

    A transaction either is refused or ends in a state. What it cannot touch is
    read off its branches.
-/

namespace Lib

variable {S α : Type} {P : S → Prop}

/-- Where the transaction succeeds, the state it ends in has the property. -/
def Ends (P : S → Prop) (x : Option S) : Prop := ∀ s, x = some s → P s

@[simp] theorem ends_none : Ends P none := by
  intro s h
  cases h

@[simp] theorem ends_some {s : S} : Ends P (some s) ↔ P s := by
  constructor
  · exact fun h => h s rfl
  · intro h t ht
    cases ht
    exact h

@[simp] theorem ends_ite {c : Prop} [Decidable c] {x y : Option S} :
    Ends P (if c then x else y) ↔ (c → Ends P x) ∧ (¬ c → Ends P y) := by
  by_cases hc : c <;> simp [hc]

@[simp] theorem ends_bind {x : Option α} {f : α → Option S} :
    Ends P (x.bind f) ↔ ∀ a, x = some a → Ends P (f a) := by
  cases x <;> simp

end Lib
