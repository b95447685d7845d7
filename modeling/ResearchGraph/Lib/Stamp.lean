import Mathlib.Logic.Basic

/-! # Stamped slots

    A store that stamps every write with a growing number lets a reader find
    out from the stamp alone whether a slot was written since it looked.
-/

namespace Lib

variable {α : Type} {r : Nat} {stamp : α → Nat} {x y z : Option α}

/-- The slot reads `x` first and `y` later, and every write in between carries
    a stamp above `r`: either nothing was written, or what is there now says so. -/
def Since (r : Nat) (stamp : α → Nat) (x y : Option α) : Prop :=
  y = x ∨ ∀ a, y = some a → r < stamp a

theorem Since.refl (r : Nat) (stamp : α → Nat) (x : Option α) : Since r stamp x x := Or.inl rfl

theorem Since.of_eq (h : y = x) : Since r stamp x y := Or.inl h

theorem Since.trans (hxy : Since r stamp x y) (hyz : Since r stamp y z) : Since r stamp x z := by
  rcases hyz with rfl | hz
  · exact hxy
  · exact Or.inr hz

/-- An emptied slot needs no stamp. -/
theorem Since.emptied (h : y = none) : Since r stamp x y := by
  refine Or.inr (fun a ha => ?_)
  rw [h] at ha
  cases ha

theorem Since.written {a : α} (h : y = some a) (hr : r < stamp a) : Since r stamp x y := by
  refine Or.inr (fun b hb => ?_)
  rw [h] at hb
  exact Option.some.inj hb ▸ hr

/-- What is still there under an old stamp was there before. -/
theorem Since.unmoved {a : α} (h : Since r stamp x y) (hy : y = some a) (hold : ¬ r < stamp a) :
    x = some a := by
  rcases h with h | h
  · rw [← h, hy]
  · exact absurd (h a hy) hold

end Lib
