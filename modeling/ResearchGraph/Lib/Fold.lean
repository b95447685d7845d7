import Mathlib.Data.List.Basic
import Mathlib.Logic.Relation

/-! # Folds that may fail

    Rules for `List.foldlM` in `Except`: a loop whose body may raise.  What
    one iteration preserves, the whole loop preserves.
-/

namespace Lib

variable {ε α β σ : Type} {f : σ → α → Except ε σ}

theorem except_bind_ok {x : Except ε α} {g : α → Except ε β} {b : β} :
    (x >>= g) = .ok b ↔ ∃ a, x = .ok a ∧ g a = .ok b := by
  cases x with
  | error e => simp [bind, Except.bind]
  | ok a => simp [bind, Except.bind]

theorem except_pure_ok {a b : α} : (pure a : Except ε α) = .ok b ↔ b = a := by
  simp [pure, Except.pure, eq_comm]

theorem except_map_ok {x : Except ε α} {g : α → β} {b : β} :
    x.map g = .ok b ↔ ∃ a, x = .ok a ∧ b = g a := by
  cases x with
  | error e => simp [Except.map]
  | ok a => simp [Except.map, eq_comm]

theorem except_bind_total {x : Except ε α} {g : α → Except ε β} :
    (∃ b, (x >>= g) = .ok b) ↔ ∃ a, x = .ok a ∧ ∃ b, g a = .ok b := by
  simp only [except_bind_ok]
  exact ⟨fun ⟨b, a, ha, hb⟩ => ⟨a, ha, b, hb⟩, fun ⟨a, ha, b, hb⟩ => ⟨b, a, ha, hb⟩⟩

theorem except_pure_total {a : α} : (∃ b, (pure a : Except ε α) = .ok b) ↔ True := by
  simp only [iff_true]
  exact ⟨a, rfl⟩

theorem foldlM_nil_ok {s s' : σ} : ([] : List α).foldlM f s = .ok s' ↔ s = s' := by
  simp [pure, Except.pure]

theorem foldlM_cons_ok {x : α} {xs : List α} {s s' : σ} :
    (x :: xs).foldlM f s = .ok s' ↔ ∃ s₁, f s x = .ok s₁ ∧ xs.foldlM f s₁ = .ok s' := by
  rw [List.foldlM_cons]
  cases f s x with
  | error e => simp [bind, Except.bind]
  | ok s₁ => simp [bind, Except.bind]

theorem foldlM_append_ok {xs ys : List α} {s s' : σ} :
    (xs ++ ys).foldlM f s = .ok s' ↔
      ∃ s₁, xs.foldlM f s = .ok s₁ ∧ ys.foldlM f s₁ = .ok s' := by
  induction xs generalizing s with
  | nil => simp [pure, Except.pure]
  | cons x xs ih => simp only [List.cons_append, foldlM_cons_ok, ih]; grind

theorem foldlM_cons_error {x : α} {xs : List α} {s : σ} {e : ε} :
    (x :: xs).foldlM f s = .error e ↔
      f s x = .error e ∨ ∃ s₁, f s x = .ok s₁ ∧ xs.foldlM f s₁ = .error e := by
  rw [List.foldlM_cons]
  cases f s x with
  | error e' => simp [bind, Except.bind]
  | ok s₁ => simp [bind, Except.bind]

/-- A loop that stops leaves off at one of its iterations. -/
theorem foldlM_error_iff {xs : List α} {s : σ} {e : ε} :
    xs.foldlM f s = .error e ↔
      ∃ pre x post a, xs = pre ++ x :: post ∧ pre.foldlM f s = .ok a ∧ f a x = .error e := by
  constructor
  · intro h
    induction xs generalizing s with
    | nil => cases h
    | cons x xs ih =>
      rcases foldlM_cons_error.mp h with hx | ⟨s₁, hx, hxs⟩
      · exact ⟨[], x, xs, s, rfl, foldlM_nil_ok.mpr rfl, hx⟩
      · obtain ⟨pre, y, post, a, rfl, hpre, hy⟩ := ih hxs
        exact ⟨x :: pre, y, post, a, rfl, foldlM_cons_ok.mpr ⟨s₁, hx, hpre⟩, hy⟩
  · rintro ⟨pre, x, post, a, rfl, hpre, hx⟩
    rw [List.foldlM_append, hpre]
    exact foldlM_cons_error.mpr (Or.inl hx)

/-- Invariant rule: an assertion every iteration keeps holds at the end. -/
theorem foldlM_invariant {xs : List α} {s s' : σ} (P : σ → Prop)
    (h : xs.foldlM f s = .ok s') (hs : P s)
    (hstep : ∀ x ∈ xs, ∀ a b, f a x = .ok b → P a → P b) : P s' := by
  induction xs generalizing s with
  | nil => exact foldlM_nil_ok.mp h ▸ hs
  | cons x xs ih =>
    obtain ⟨s₁, hx, hxs⟩ := foldlM_cons_ok.mp h
    refine ih hxs (hstep x (by simp) s s₁ hx hs) ?_
    exact fun y hy => hstep y (by simp [hy])

/-- A loop whose iterations all succeed under an invariant succeeds. -/
theorem foldlM_total {xs : List α} {s : σ} (P : σ → Prop) (hs : P s)
    (hstep : ∀ x ∈ xs, ∀ a, P a → ∃ b, f a x = .ok b ∧ P b) : ∃ s', xs.foldlM f s = .ok s' := by
  induction xs generalizing s with
  | nil => exact ⟨s, foldlM_nil_ok.mpr rfl⟩
  | cons x xs ih =>
    obtain ⟨b, hb, hPb⟩ := hstep x (by simp) s hs
    obtain ⟨s', hs'⟩ := ih hPb (fun y hy => hstep y (by simp [hy]))
    exact ⟨s', foldlM_cons_ok.mpr ⟨b, hb, hs'⟩⟩

/-- Every element of a loop that succeeds was processed, under the invariant. -/
theorem foldlM_mem_ok {xs : List α} {s s' : σ} (P : σ → Prop) (h : xs.foldlM f s = .ok s')
    (hs : P s) (hstep : ∀ x ∈ xs, ∀ a b, f a x = .ok b → P a → P b) {x : α} (hx : x ∈ xs) :
    ∃ a b, P a ∧ f a x = .ok b := by
  obtain ⟨pre, post, rfl⟩ := List.append_of_mem hx
  obtain ⟨a, hpre, hpost⟩ := foldlM_append_ok.mp h
  obtain ⟨b, hb, -⟩ := foldlM_cons_ok.mp hpost
  exact ⟨a, b, foldlM_invariant P hpre hs (fun y hy => hstep y (by simp [hy])), hb⟩

/-- What one iteration establishes and all of them keep holds at the end. -/
theorem foldlM_established {xs : List α} {s s' : σ} (P : σ → Prop) (h : xs.foldlM f s = .ok s')
    {x : α} (hx : x ∈ xs) (hfirst : ∀ a b, f a x = .ok b → P b)
    (hstep : ∀ y ∈ xs, ∀ a b, f a y = .ok b → P a → P b) : P s' := by
  obtain ⟨pre, post, rfl⟩ := List.append_of_mem hx
  obtain ⟨a, -, hpost⟩ := foldlM_append_ok.mp h
  obtain ⟨b, hb, hrest⟩ := foldlM_cons_ok.mp hpost
  exact foldlM_invariant P hrest (hfirst a b hb) (fun y hy => hstep y (by simp [hy]))

/-- Frame rule: what every iteration leaves equal, the loop leaves equal. -/
theorem foldlM_frame {β : Type} {xs : List α} {s s' : σ} (g : σ → β)
    (h : xs.foldlM f s = .ok s')
    (hstep : ∀ x ∈ xs, ∀ a b, f a x = .ok b → g b = g a) : g s' = g s :=
  foldlM_invariant (fun t => g t = g s) h rfl
    (fun x hx a b hab ha => (hstep x hx a b hab).trans ha)

/-- The last write to a slot decides its content: when some iteration writes
    the slot, its final content is one that a write produced. -/
theorem foldlM_slot {γ : Type} {xs : List α} {s s' : σ} (I : σ → Prop) (slot : σ → Option γ)
    (W : α → Prop) (good : γ → Prop) (h : xs.foldlM f s = .ok s') (hs : I s)
    (hI : ∀ x ∈ xs, ∀ a b, f a x = .ok b → I a → I b)
    (hwrite : ∀ x ∈ xs, ∀ a b, f a x = .ok b → I a → W x → ∀ v, slot b = some v → good v)
    (hframe : ∀ x ∈ xs, ∀ a b, f a x = .ok b → ¬ W x → slot b = slot a)
    (hsome : (∃ x ∈ xs, W x) ∨ ∀ v, slot s = some v → good v) :
    ∀ v, slot s' = some v → good v := by
  induction xs generalizing s with
  | nil =>
    obtain rfl := foldlM_nil_ok.mp h
    simpa using hsome
  | cons x xs ih =>
    obtain ⟨s₁, hx, hxs⟩ := foldlM_cons_ok.mp h
    refine ih hxs (hI x (by simp) s s₁ hx hs) (fun y hy => hI y (by simp [hy]))
      (fun y hy => hwrite y (by simp [hy])) (fun y hy => hframe y (by simp [hy])) ?_
    by_cases hW : W x
    · exact Or.inr (hwrite x (by simp) s s₁ hx hs hW)
    · rcases hsome with ⟨y, hy, hWy⟩ | hgood
      · refine Or.inl ⟨y, ?_, hWy⟩
        rcases List.mem_cons.mp hy with rfl | hy
        · exact absurd hWy hW
        · exact hy
      · exact Or.inr (by rw [hframe x (by simp) s s₁ hx hW]; exact hgood)

theorem foldlM_congr {g : σ → α → Except ε σ} {xs : List α} {s : σ}
    (h : ∀ x ∈ xs, ∀ a, f a x = g a x) : xs.foldlM f s = xs.foldlM g s := by
  induction xs generalizing s with
  | nil => rfl
  | cons x xs ih =>
    rw [List.foldlM_cons, List.foldlM_cons, h x (by simp)]
    cases g s x with
    | error e => rfl
    | ok t => exact ih (fun y hy => h y (by simp [hy]))

/-- Indexes that the body ignores do not matter. -/
theorem foldlM_zipIdx (xs : List α) (k : Nat) (s : σ) :
    (xs.zipIdx k).foldlM (fun t x => f t x.1) s = xs.foldlM f s := by
  induction xs generalizing s k with
  | nil => rfl
  | cons x xs ih =>
    rw [List.zipIdx_cons, List.foldlM_cons, List.foldlM_cons]
    cases f s x with
    | error e => rfl
    | ok t => exact ih (k + 1) t

/-- A loop is a run of its iterations. -/
theorem foldlM_reflTransGen {R : σ → σ → Prop} {xs : List α} {s s' : σ}
    (h : xs.foldlM f s = .ok s') (hstep : ∀ x ∈ xs, ∀ a b, f a x = .ok b → R a b) :
    Relation.ReflTransGen R s s' :=
  foldlM_invariant (Relation.ReflTransGen R s) h .refl
    (fun x hx a b hab ha => ha.tail (hstep x hx a b hab))

theorem foldl_reflTransGen {R : σ → σ → Prop} {g : σ → α → σ} {xs : List α} {s : σ}
    (hstep : ∀ x ∈ xs, ∀ a, R a (g a x)) : Relation.ReflTransGen R s (xs.foldl g s) := by
  induction xs generalizing s with
  | nil => exact .refl
  | cons x xs ih =>
    refine .head (hstep x (by simp) s) (ih ?_)
    exact fun y hy => hstep y (by simp [hy])

/-- A loop commutes with a map its body commutes with. -/
theorem foldlM_map_ok (φ : σ → σ) {xs : List α} {s s' : σ} (h : xs.foldlM f s = .ok s')
    (hstep : ∀ x ∈ xs, ∀ a b, f a x = .ok b → f (φ a) x = .ok (φ b)) :
    xs.foldlM f (φ s) = .ok (φ s') := by
  induction xs generalizing s with
  | nil => exact foldlM_nil_ok.mpr (congrArg φ (foldlM_nil_ok.mp h))
  | cons x xs ih =>
    obtain ⟨s₁, hx, hxs⟩ := foldlM_cons_ok.mp h
    exact foldlM_cons_ok.mpr
      ⟨φ s₁, hstep x (by simp) s s₁ hx, ih hxs (fun y hy => hstep y (by simp [hy]))⟩

end Lib
