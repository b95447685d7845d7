import Mathlib.Data.List.Basic

/-! # Checks that collect findings and may raise

    A `Check ε μ α` is the result of a validator: it either raises an error
    of type `ε`, or returns a value together with the findings of type `μ` it
    recorded on the way.  Some findings only inform, others refuse
    (`Graded.refuses`).

    `Passes c a` says that `c` returned `a` and recorded no refusing finding.
    `Refines c d` says that `d` passes, with the same value, whenever `c`
    does.  Both are compositional; the rules below are the only facts about
    checks that a client needs.
-/

namespace Lib

/-- Findings that may refuse what is being checked. -/
class Graded (μ : Type) where
  refuses : μ → Bool

/-- A validator run: an error, or a value with the findings recorded. -/
inductive Check (ε μ α : Type) where
  | raised (e : ε)
  | done (a : α) (findings : List μ)

namespace Check

variable {ε μ α β : Type}

/-- Sequencing: an error stops the run, findings accumulate. -/
def andThen (c : Check ε μ α) (f : α → Check ε μ β) : Check ε μ β :=
  match c with
  | .raised e => .raised e
  | .done a ms => match f a with
    | .raised e => .raised e
    | .done b ns => .done b (ms ++ ns)

instance : Monad (Check ε μ) where
  pure a := .done a []
  bind := andThen

/-- Record one finding. -/
def tell (m : μ) : Check ε μ Unit := .done () [m]

/-- Raise an error; the findings recorded so far are lost. -/
def raise (e : ε) : Check ε μ α := .raised e

/-- Run a computation that may raise but records nothing. -/
def lift : Except ε α → Check ε μ α
  | .error e => .raised e
  | .ok a => .done a []

/-- Run `c` when `p` holds. -/
def when (p : Prop) [Decidable p] (c : Check ε μ Unit) : Check ε μ Unit :=
  if p then c else pure ()

/-- Run a check on every element, in order. -/
def forEach : List α → (α → Check ε μ Unit) → Check ε μ Unit
  | [], _ => pure ()
  | x :: xs, f => do f x; forEach xs f

/-- Thread a state through a list of checks, in order. -/
def thread (f : β → α → Check ε μ β) : β → List α → Check ε μ β
  | b, [] => pure b
  | b, x :: xs => do
    let b' ← f b x
    thread f b' xs

variable [Graded μ]

/-- Whether the run recorded a refusal. -/
def refused : Check ε μ α → Bool
  | .raised _ => false
  | .done _ ms => ms.any Graded.refuses

/-- Run `c`, then continue with `f` unless `c` recorded a refusal; a refused
    run keeps the findings and returns `skip` of its value. -/
def unlessRefused (c : Check ε μ α) (skip : α → β) (f : α → Check ε μ β) : Check ε μ β :=
  if c.refused then c >>= fun a => pure (skip a) else c >>= f

/-- Run `c` on its own: its refusing findings are summed up in one, the others
    are dropped. -/
def summarize (c : Check ε μ α) (summary : List μ → μ) : Check ε μ Unit :=
  match c with
  | .raised e => .raised e
  | .done _ ms =>
    if ms.any Graded.refuses then tell (summary (ms.filter Graded.refuses)) else pure ()

/-- `c` returned `a` and nothing it recorded refuses. -/
def Passes (c : Check ε μ α) (a : α) : Prop :=
  ∃ ms, c = .done a ms ∧ ∀ m ∈ ms, Graded.refuses m = false

@[simp] theorem passes_pure {a b : α} :
    Passes (pure a : Check ε μ α) b ↔ a = b := by
  constructor
  · rintro ⟨ms, h, _⟩
    cases h
    rfl
  · rintro rfl
    exact ⟨[], rfl, by simp⟩

@[simp] theorem passes_bind {c : Check ε μ α} {f : α → Check ε μ β} {b : β} :
    Passes (c >>= f) b ↔ ∃ a, Passes c a ∧ Passes (f a) b := by
  show Passes (andThen c f) b ↔ _
  constructor
  · rintro ⟨ms, h, hms⟩
    cases c with
    | raised e => cases h
    | done a ns =>
      cases hf : f a with
      | raised e => simp [andThen, hf] at h
      | done b' ns' =>
        simp only [andThen, hf, done.injEq] at h
        obtain ⟨rfl, rfl⟩ := h
        refine ⟨a, ⟨ns, rfl, ?_⟩, ⟨ns', hf, ?_⟩⟩
        · exact fun m hm => hms m (List.mem_append_left _ hm)
        · exact fun m hm => hms m (List.mem_append_right _ hm)
  · rintro ⟨a, ⟨ns, rfl, hns⟩, ⟨ns', hf, hns'⟩⟩
    refine ⟨ns ++ ns', by simp only [andThen, hf], ?_⟩
    intro m hm
    rcases List.mem_append.mp hm with h | h
    · exact hns m h
    · exact hns' m h

/-- A leading action contributes only that it passes. -/
@[simp] theorem exists_unit {P : Unit → Prop} : (∃ u, P u) ↔ P () :=
  ⟨fun ⟨_, h⟩ => h, fun h => ⟨(), h⟩⟩

@[simp] theorem passes_tell {m : μ} {u : Unit} :
    Passes (tell m : Check ε μ Unit) u ↔ Graded.refuses m = false := by
  constructor
  · rintro ⟨ms, h, hms⟩
    cases h
    exact hms m (by simp)
  · intro h
    exact ⟨[m], rfl, by simpa using h⟩

@[simp] theorem passes_raise {e : ε} {a : α} :
    Passes (raise e : Check ε μ α) a ↔ False := by
  simp [Passes, raise]

@[simp] theorem passes_lift {c : Except ε α} {a : α} :
    Passes (lift c : Check ε μ α) a ↔ c = .ok a := by
  constructor
  · rintro ⟨ms, h, _⟩
    cases c with
    | error e => cases h
    | ok b => cases h; rfl
  · rintro rfl
    exact ⟨[], rfl, by simp⟩

@[simp] theorem passes_ite {p : Prop} [Decidable p] {c d : Check ε μ α} {a : α} :
    Passes (if p then c else d) a ↔ (p → Passes c a) ∧ (¬p → Passes d a) := by
  by_cases h : p <;> simp [h]

@[simp] theorem passes_when {p : Prop} [Decidable p] {c : Check ε μ Unit} {u : Unit} :
    Passes (when p c) u ↔ (p → Passes c ()) := by
  by_cases h : p <;> simp [when, h]

@[simp] theorem passes_forEach {xs : List α} {f : α → Check ε μ Unit} {u : Unit} :
    Passes (forEach xs f) u ↔ ∀ x ∈ xs, Passes (f x) () := by
  induction xs with
  | nil => simp [forEach]
  | cons x xs ih => simp [forEach, ih]

theorem passes_thread_nil {f : β → α → Check ε μ β} {b b' : β} :
    Passes (thread f b []) b' ↔ b = b' := by simp [thread]

theorem passes_thread_cons {f : β → α → Check ε μ β} {b b' : β} {x : α} {xs : List α} :
    Passes (thread f b (x :: xs)) b' ↔
      ∃ b₁, Passes (f b x) b₁ ∧ Passes (thread f b₁ xs) b' := by simp [thread]

/-- Every element of a threaded list was checked, at some intermediate state. -/
theorem passes_thread_mem {f : β → α → Check ε μ β} {xs : List α} {b b' : β}
    (h : Passes (thread f b xs) b') {x : α} (hx : x ∈ xs) :
    ∃ b₁ b₂, Passes (f b₁ x) b₂ := by
  induction xs generalizing b with
  | nil => cases hx
  | cons y ys ih =>
    obtain ⟨b₁, hy, hys⟩ := passes_thread_cons.mp h
    rcases List.mem_cons.mp hx with rfl | hx
    · exact ⟨b, b₁, hy⟩
    · exact ih hys hx

/-- Invariant rule for a threaded list: an assertion about the elements done so
    far and the current state that every check keeps holds at the end. -/
theorem passes_thread_invariant {f : β → α → Check ε μ β} {xs : List α} {b b' : β}
    (P : List α → β → Prop) (h : Passes (thread f b xs) b') (hb : P [] b)
    (hstep : ∀ pre x post c d, xs = pre ++ x :: post → P pre c → Passes (f c x) d →
      P (pre ++ [x]) d) : P xs b' := by
  have hrun : ∀ pre rest c, xs = pre ++ rest → P pre c → Passes (thread f c rest) b' →
      P xs b' := by
    intro pre rest
    induction rest generalizing pre with
    | nil =>
      intro c hxs hc hrest
      obtain rfl := passes_thread_nil.mp hrest
      rw [List.append_nil] at hxs
      exact hxs ▸ hc
    | cons x rest ih =>
      intro c hxs hc hrest
      obtain ⟨d, hx, hrest⟩ := passes_thread_cons.mp hrest
      exact ih (pre ++ [x]) d (by simp [hxs]) (hstep pre x rest c d hxs hc hx) hrest
  exact hrun [] xs b rfl hb h

theorem Passes.not_refused {c : Check ε μ α} {a : α} (h : Passes c a) : c.refused = false := by
  obtain ⟨ms, rfl, hms⟩ := h
  simpa [refused] using hms

@[simp] theorem passes_unlessRefused {c : Check ε μ α} {skip : α → β}
    {f : α → Check ε μ β} {b : β} :
    Passes (unlessRefused c skip f) b ↔ ∃ a, Passes c a ∧ Passes (f a) b := by
  unfold unlessRefused
  constructor
  · intro h
    split at h
    · next hr =>
      obtain ⟨a, ha, _⟩ := passes_bind.mp h
      simp [ha.not_refused] at hr
    · exact passes_bind.mp h
  · rintro ⟨a, ha, hf⟩
    simp only [ha.not_refused, Bool.false_eq_true, if_false]
    exact passes_bind.mpr ⟨a, ha, hf⟩

/-! ### Refinement of checks -/

/-- `d` passes, with the same value, whenever `c` does. -/
def Refines (c d : Check ε μ α) : Prop := ∀ a, Passes c a → Passes d a

theorem Refines.rfl {c : Check ε μ α} : Refines c c := fun _ h => h

theorem Refines.of_eq {c d : Check ε μ α} (h : c = d) : Refines c d := h ▸ Refines.rfl

theorem Refines.bind {c d : Check ε μ α} {f g : α → Check ε μ β}
    (hcd : Refines c d) (hfg : ∀ a, Refines (f a) (g a)) : Refines (c >>= f) (d >>= g) := by
  intro b h
  obtain ⟨a, hc, hf⟩ := passes_bind.mp h
  exact passes_bind.mpr ⟨a, hcd a hc, hfg a b hf⟩

theorem Refines.ite {p : Prop} [Decidable p] {c c' d d' : Check ε μ α}
    (hc : p → Refines c c') (hd : ¬p → Refines d d') :
    Refines (if p then c else d) (if p then c' else d') := by
  by_cases h : p
  · simpa [h] using hc h
  · simpa [h] using hd h

theorem Refines.forEach {xs : List α} {f g : α → Check ε μ Unit}
    (h : ∀ x ∈ xs, Refines (f x) (g x)) : Refines (forEach xs f) (forEach xs g) := by
  intro u hu
  simp only [passes_forEach] at hu ⊢
  exact fun x hx => h x hx () (hu x hx)

theorem Refines.thread {f g : β → α → Check ε μ β} {xs : List α}
    (h : ∀ b, ∀ x ∈ xs, Refines (f b x) (g b x)) (b : β) :
    Refines (thread f b xs) (thread g b xs) := by
  induction xs generalizing b with
  | nil => exact Refines.rfl
  | cons x xs ih =>
    refine Refines.bind (h b x (by simp)) (fun b' => ih ?_ b')
    exact fun b y hy => h b y (by simp [hy])

end Check

end Lib
