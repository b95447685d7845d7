import ResearchGraph.Lib.Fold
import Mathlib.Logic.Function.Basic

/-! # Durable procedures

    A saga runs over a durable state. Every commit it makes stays when the
    saga is cut off, so a saga yields the states it committed, in order, next
    to its result. A saga restarts when running it again from any state a
    cut-off run leaves ends as an uninterrupted run does.

    What a run reads of the outside (a clock, a cache) is an index `ι`: two
    runs of one procedure may differ there.
-/

namespace Lib

variable {σ ε α β ι κ : Type}

/-! ### Guards -/

/-- Raise `e` when `c` holds. -/
def refuse (c : Prop) [Decidable c] (e : ε) : Except ε Unit := if c then .error e else .ok ()

theorem refuse_ok {c : Prop} [Decidable c] {e : ε} {u : Unit} : refuse c e = .ok u ↔ ¬ c := by
  by_cases hc : c <;> simp [refuse, hc]

/-- Raise the first problem of a list. -/
def raise_first : List (Bool × ε) → Except ε Unit
  | [] => .ok ()
  | (true, e) :: _ => .error e
  | (false, _) :: rest => raise_first rest

theorem raise_first_ok {problems : List (Bool × ε)} :
    raise_first problems = .ok () ↔ ∀ p ∈ problems, p.1 = false := by
  induction problems with
  | nil => simp [raise_first]
  | cons p rest ih =>
    obtain ⟨b, e⟩ := p
    cases b <;> simp [raise_first, ih]

/-- The value of an optional, or the error. -/
def require (o : Option α) (e : ε) : Except ε α := o.elim (.error e) .ok

theorem require_ok {o : Option α} {e : ε} {a : α} : require o e = .ok a ↔ o = some a := by
  cases o <;> simp [require]

/-! ### Sagas -/

/-- What a run of a saga leaves: the states it committed, and its result. -/
structure Outcome (σ ε α : Type) where
  committed : List σ
  result : Except ε α

/-- A procedure over a durable state. -/
abbrev Saga (σ ε α : Type) := σ → Outcome σ ε α

theorem getLastD_append (l l' : List α) (d : α) :
    (l ++ l').getLastD d = l'.getLastD (l.getLastD d) := by
  rw [List.getLastD_eq_getLast?, List.getLastD_eq_getLast?, List.getLastD_eq_getLast?,
    List.getLast?_append]
  cases l'.getLast? <;> simp

namespace Outcome

/-- The state a run from `s` ends in. -/
def final (o : Outcome σ ε α) (s : σ) : σ := o.committed.getLastD s

/-- The states that a run from `s` may be cut off in. -/
def cuts (o : Outcome σ ε α) (s : σ) : List σ := s :: o.committed

/-- A run may be cut off at its very end. -/
theorem final_mem_cuts (o : Outcome σ ε α) (s : σ) : o.final s ∈ o.cuts s :=
  List.getLastD_mem_cons ..

/-- The state after the first `n` commits. -/
def cut (o : Outcome σ ε α) (s : σ) (n : Nat) : σ := (o.committed.take n).getLastD s

theorem cut_mem_cuts (o : Outcome σ ε α) (s : σ) (n : Nat) : o.cut s n ∈ o.cuts s :=
  List.cons_subset_cons s (List.take_subset n o.committed) (List.getLastD_mem_cons ..)

end Outcome

namespace Saga

/-- A result without a commit. -/
def done (a : α) : Saga σ ε α := fun _ => ⟨[], .ok a⟩

/-- A read that may raise. -/
def inspect (f : σ → Except ε α) : Saga σ ε α := fun s => ⟨[], f s⟩

/-- One transaction: it commits the state it ends in or is rolled back. -/
def commit (f : σ → Except ε (σ × α)) : Saga σ ε α := fun s =>
  match f s with
  | .error e => ⟨[], .error e⟩
  | .ok (t, a) => ⟨[t], .ok a⟩

/-- One saga after another. -/
def andThen (x : Saga σ ε α) (f : α → Saga σ ε β) : Saga σ ε β := fun s =>
  match (x s).result with
  | .error e => ⟨(x s).committed, .error e⟩
  | .ok a =>
    ⟨(x s).committed ++ (f a ((x s).final s)).committed, (f a ((x s).final s)).result⟩

/-- Run the saga only in the states of `c`. -/
def when (c : σ → Prop) [DecidablePred c] (x : Saga σ ε Unit) : Saga σ ε Unit := fun s =>
  if c s then x s else ⟨[], .ok ()⟩

/-- The saga succeeds from `s`, ends in `t` and returns `a`. -/
def Succeeds (x : Saga σ ε α) (s t : σ) (a : α) : Prop :=
  (x s).result = .ok a ∧ (x s).final s = t

theorem Succeeds.unique {x : Saga σ ε α} {s t u : σ} {a b : α} (h : x.Succeeds s t a)
    (h' : x.Succeeds s u b) : t = u ∧ a = b := by
  constructor
  · rw [← h.2, h'.2]
  · have hab : Except.ok (ε := ε) a = .ok b := by rw [← h.1, h'.1]
    exact Except.ok.inj hab

/-- Where a run that succeeds ends. -/
theorem succeeds_of_ok {x : Saga σ ε α} {s : σ} (h : (x s).result.isOk = true) :
    ∃ a, x.Succeeds s ((x s).final s) a := by
  cases hresult : (x s).result with
  | error e =>
    rw [hresult] at h
    cases h
  | ok a => exact ⟨a, hresult, rfl⟩

/-! ### Single steps -/

theorem succeeds_commit {f : σ → Except ε (σ × α)} {s t : σ} {a : α} :
    (commit f).Succeeds s t a ↔ f s = .ok (t, a) := by
  unfold Succeeds commit
  cases f s with
  | error e => simp
  | ok r => simp [Outcome.final, Prod.ext_iff, and_comm]

theorem succeeds_inspect {f : σ → Except ε α} {s t : σ} {a : α} :
    (inspect f).Succeeds s t a ↔ f s = .ok a ∧ t = s := by
  unfold Succeeds inspect
  simp [Outcome.final, eq_comm]

theorem succeeds_done {s t : σ} {a b : α} :
    (done a : Saga σ ε α).Succeeds s t b ↔ b = a ∧ t = s := by
  unfold Succeeds done
  simp [Outcome.final, eq_comm]

/-- One transaction that succeeds is cut off before it or after it. -/
theorem cuts_commit {f : σ → Except ε (σ × α)} {s t s' : σ} {a : α}
    (h : (commit f).Succeeds s t a) (hs' : s' ∈ (commit f s).cuts s) : s' = s ∨ s' = t := by
  rw [succeeds_commit] at h
  simpa [commit, h, Outcome.cuts] using hs'

/-! ### Runs of a sequence -/

theorem succeeds_andThen {x : Saga σ ε α} {f : α → Saga σ ε β} {s u : σ} {b : β} :
    (x.andThen f).Succeeds s u b ↔ ∃ t a, x.Succeeds s t a ∧ (f a).Succeeds t u b := by
  unfold Succeeds andThen
  cases hx : (x s).result with
  | error e => simp
  | ok a =>
    simp only [Outcome.final, getLastD_append, Except.ok.injEq]
    constructor
    · intro h
      exact ⟨_, a, ⟨rfl, rfl⟩, h.1, h.2⟩
    · intro h
      obtain ⟨t, a', ⟨rfl, rfl⟩, h⟩ := h
      exact h

theorem mem_cuts_andThen {x : Saga σ ε α} {f : α → Saga σ ε β} {s t s' : σ} {a : α}
    (h : x.Succeeds s t a) (hs' : s' ∈ (x.andThen f s).cuts s) :
    s' ∈ (x s).cuts s ∨ s' ∈ (f a t).cuts t := by
  obtain ⟨hresult, rfl⟩ := h
  simp only [andThen, hresult, Outcome.cuts, List.mem_cons, List.mem_append] at hs' ⊢
  rcases hs' with hs' | hs' | hs'
  · exact Or.inl (Or.inl hs')
  · exact Or.inl (Or.inr hs')
  · exact Or.inr (Or.inr hs')

/-! ### What a saga keeps -/

/-- From a state of `P`, every committed state is in `I`, and a result is in `Q`. -/
def Meets (P I : σ → Prop) (x : Saga σ ε α) (Q : α → σ → Prop) : Prop :=
  ∀ s, P s → (∀ s' ∈ (x s).committed, I s') ∧ ∀ a, (x s).result = .ok a → Q a ((x s).final s)

theorem Meets.done {P I : σ → Prop} {Q : α → σ → Prop} {a : α} (h : ∀ s, P s → Q a s) :
    Meets P I (done a : Saga σ ε α) Q := by
  intro s hs
  constructor
  · simp [Saga.done]
  · intro b hb
    obtain rfl : a = b := Except.ok.inj hb
    exact h s hs

theorem Meets.inspect {P I : σ → Prop} {Q : α → σ → Prop} {f : σ → Except ε α}
    (h : ∀ s a, P s → f s = .ok a → Q a s) : Meets P I (inspect f) Q := by
  intro s hs
  constructor
  · simp [Saga.inspect]
  · intro a ha
    exact h s a hs ha

theorem Meets.commit {P I : σ → Prop} {Q : α → σ → Prop} {f : σ → Except ε (σ × α)}
    (h : ∀ s t a, P s → (commit f).Succeeds s t a → I t ∧ Q a t) : Meets P I (commit f) Q := by
  intro s hs
  have hstep := h s
  simp only [succeeds_commit] at hstep
  unfold Saga.commit
  cases hf : f s with
  | error e => simp
  | ok r =>
    obtain ⟨hI, hQ⟩ := hstep r.1 r.2 hs hf
    constructor
    · simpa using hI
    · intro a ha
      obtain rfl : r.2 = a := Except.ok.inj ha
      exact hQ

theorem Meets.andThen {P I : σ → Prop} {Q : α → σ → Prop} {R : β → σ → Prop} {x : Saga σ ε α}
    {f : α → Saga σ ε β} (hx : Meets P I x Q) (hf : ∀ a, Meets (Q a) I (f a) R) :
    Meets P I (x.andThen f) R := by
  intro s hs
  obtain ⟨hI, hQ⟩ := hx s hs
  unfold Saga.andThen
  cases hresult : (x s).result with
  | error e =>
    refine ⟨hI, ?_⟩
    intro b hb
    cases hb
  | ok a =>
    obtain ⟨hI', hR⟩ := hf a _ (hQ a hresult)
    constructor
    · intro s' hs'
      rcases List.mem_append.mp hs' with hs' | hs'
      · exact hI s' hs'
      · exact hI' s' hs'
    · intro b hb
      have hfinal := hR b hb
      simpa [Outcome.final, getLastD_append] using hfinal

theorem Meets.when {P I : σ → Prop} {Q : Unit → σ → Prop} {c : σ → Prop} [DecidablePred c]
    {x : Saga σ ε Unit} (hx : Meets (fun s => P s ∧ c s) I x Q)
    (hskip : ∀ s, P s → ¬ c s → Q () s) : Meets P I (x.when c) Q := by
  intro s hs
  unfold Saga.when
  by_cases hc : c s
  · rw [if_pos hc]
    exact hx s ⟨hs, hc⟩
  · rw [if_neg hc]
    constructor
    · simp
    · intro a _
      exact hskip s hs hc

theorem Meets.weaken {P P' I I' : σ → Prop} {Q Q' : α → σ → Prop} {x : Saga σ ε α}
    (h : Meets P I x Q) (hP : ∀ s, P' s → P s) (hI : ∀ s, I s → I' s)
    (hQ : ∀ a s, Q a s → Q' a s) : Meets P' I' x Q' := by
  intro s hs
  obtain ⟨hcommitted, hresult⟩ := h s (hP s hs)
  constructor
  · intro s' hs'
    exact hI s' (hcommitted s' hs')
  · intro a ha
    exact hQ a _ (hresult a ha)

/-- The result alone. -/
theorem Meets.ends {P I : σ → Prop} {Q : α → σ → Prop} {x : Saga σ ε α} (h : Meets P I x Q) :
    Meets P (fun _ => True) x Q :=
  h.weaken (fun _ hs => hs) (fun _ _ => trivial) (fun _ _ hs => hs)

/-- What a saga keeps holds wherever it is cut off. -/
theorem Meets.cuts {I : σ → Prop} {Q : α → σ → Prop} {x : Saga σ ε α} (h : Meets I I x Q) {s : σ}
    (hs : I s) : ∀ s' ∈ (x s).cuts s, I s' := by
  intro s' hs'
  rcases List.mem_cons.mp hs' with rfl | hs'
  · exact hs
  · exact (h s hs).1 s' hs'

theorem Meets.succeeds {P I : σ → Prop} {Q : α → σ → Prop} {x : Saga σ ε α} (h : Meets P I x Q)
    {s t : σ} {a : α} (hs : P s) (hx : x.Succeeds s t a) : Q a t := by
  rw [← hx.2]
  exact (h s hs).2 a hx.1

/-! ### Restarting -/

variable {c I : σ → Prop} {J : α → σ → Prop}

/-- From the states of `I`, a run from any state of `c` that a cut-off run left ends as an
    uninterrupted run does. -/
def RestartsWhile (c I : σ → Prop) (x : ι → Saga σ ε α) : Prop :=
  ∀ ⦃i s t a⦄, I s → (x i).Succeeds s t a → ∀ s' ∈ (x i s).cuts s, c s' → ∀ j,
    ∃ k u b, (x k).Succeeds s u b ∧ (x j).Succeeds s' u b

/-- The same from every state that a cut-off run left. -/
abbrev Restarts (I : σ → Prop) (x : ι → Saga σ ε α) : Prop := RestartsWhile (fun _ => True) I x

/-- Wherever one run succeeds, every run does. -/
def Total (I : σ → Prop) (x : ι → Saga σ ε α) : Prop :=
  ∀ ⦃i s t a⦄, I s → (x i).Succeeds s t a → ∀ j, ∃ u b, (x j).Succeeds s u b

/-- Wherever one run succeeds, every run does the same. -/
def Alike (I : σ → Prop) (x : ι → Saga σ ε α) : Prop :=
  ∀ ⦃i s t a⦄, I s → (x i).Succeeds s t a → ∀ j, (x j).Succeeds s t a

theorem alike_of_fixed {x : Saga σ ε α} : Alike I (fun _ : ι => x) := by
  intro i s t a _ h j
  exact h

theorem Alike.total {x : ι → Saga σ ε α} (h : Alike I x) : Total I x := by
  intro i s t a hs hx j
  exact ⟨t, a, h hs hx j⟩

/-- One transaction that finds its work done afterwards, or that leaves `c`. -/
theorem restarts_commit {f : ι → σ → Except ε (σ × α)} (htotal : Total I (fun i => commit (f i)))
    (hidle : ∀ i s t a, I s → (commit (f i)).Succeeds s t a → c t →
      ∀ j, (commit (f j)).Succeeds t t a) :
    RestartsWhile c I (fun i => commit (f i)) := by
  intro i s t a hs h s' hs' hc j
  rcases cuts_commit h hs' with rfl | rfl
  · obtain ⟨u, b, hj⟩ := htotal hs h j
    exact ⟨j, u, b, hj, hj⟩
  · exact ⟨i, s', a, h, hidle i s s' a hs h hc j⟩

theorem RestartsWhile.mono {c' : σ → Prop} {x : ι → Saga σ ε α} (hx : RestartsWhile c I x)
    (hc : ∀ s, c' s → c s) : RestartsWhile c' I x := by
  intro i s t a hs h s' hs' hc' j
  exact hx hs h s' hs' (hc s' hc') j

/-- What may follow a saga however it ran: it succeeds after every run if it does after one. -/
def Sequel (I : σ → Prop) (x : ι → Saga σ ε α) (f : α → κ → Saga σ ε β) : Prop :=
  ∀ ⦃i s t a⦄, I s → (x i).Succeeds s t a → ∀ ⦃k u b⦄, (f a k).Succeeds t u b →
    ∀ ⦃j v c⦄, (x j).Succeeds s v c → ∀ l, ∃ u' b', (f c l).Succeeds v u' b'

/-- Runs that all end alike are followed by whatever succeeds on every run of its own. -/
theorem Alike.follows {x : ι → Saga σ ε α} {f : α → κ → Saga σ ε β} (hx : Alike I x)
    (hmeets : ∀ i, Meets I (fun _ => True) (x i) J) (hf : ∀ a, Total (J a) (f a)) :
    Sequel I x f := by
  intro i s t a hs hxs k u b hfs j v c hxv l
  obtain ⟨rfl, rfl⟩ := hxv.unique (hx hs hxs j)
  exact hf c ((hmeets i).succeeds hs hxs) hfs l

theorem Alike.andThen {x : ι → Saga σ ε α} {f : α → κ → Saga σ ε β} (hx : Alike I x)
    (hmeets : ∀ i, Meets I (fun _ => True) (x i) J) (hf : ∀ a, Alike (J a) (f a)) :
    Alike I (fun p : ι × κ => (x p.1).andThen (fun a => f a p.2)) := by
  intro p s u b hs h q
  obtain ⟨t, a, hxs, hfs⟩ := succeeds_andThen.mp h
  exact succeeds_andThen.mpr
    ⟨t, a, hx hs hxs q.1, hf a ((hmeets p.1).succeeds hs hxs) hfs q.2⟩

/-- What always succeeds may follow. -/
theorem follows_of_sure {x : ι → Saga σ ε α} {f : α → κ → Saga σ ε β}
    (hmeets : ∀ i, Meets I (fun _ => True) (x i) J)
    (hf : ∀ a s l, J a s → ∃ u b, (f a l).Succeeds s u b) : Sequel I x f := by
  intro i s t a hs hxs k u b hfs j v c hxv l
  exact hf c v l ((hmeets j).succeeds hs hxv)

theorem Total.andThen {x : ι → Saga σ ε α} {f : α → κ → Saga σ ε β} (hx : Total I x)
    (hfollows : Sequel I x f) : Total I (fun p : ι × κ => (x p.1).andThen (fun a => f a p.2)) := by
  intro p s u b hs h q
  obtain ⟨t, a, hxs, hfs⟩ := succeeds_andThen.mp h
  obtain ⟨v, c, hxv⟩ := hx hs hxs q.1
  obtain ⟨u', b', hfv⟩ := hfollows hs hxs hfs hxv q.2
  exact ⟨u', b', succeeds_andThen.mpr ⟨v, c, hxv, hfv⟩⟩

/-- A restarting saga that stands in `J`, where it finds its work done, then one that keeps `J`. -/
theorem RestartsWhile.andThen {x : ι → Saga σ ε α} {f : α → κ → Saga σ ε β}
    (hx : RestartsWhile c I x) (hmeets : ∀ i, Meets I (fun _ => True) (x i) J)
    (hidle : ∀ a s, J a s → ∀ j, (x j).Succeeds s s a) (hf : ∀ a, RestartsWhile c (J a) (f a))
    (hkeeps : ∀ a k, Meets (J a) (fun s => c s → J a s) (f a k) (fun _ _ => True))
    (hfollows : Sequel I x f) :
    RestartsWhile c I (fun p : ι × κ => (x p.1).andThen (fun a => f a p.2)) := by
  intro p s u b hs h s' hs' hc q
  obtain ⟨t, a, hxs, hfs⟩ := succeeds_andThen.mp h
  have ht : J a t := (hmeets p.1).succeeds hs hxs
  rcases mem_cuts_andThen hxs hs' with hs' | hs'
  · -- cut off inside the first saga, which ends where some uninterrupted run of it ends
    obtain ⟨k, v, d, hxk, hcut⟩ := hx hs hxs s' hs' hc q.1
    obtain ⟨u', b', hfv⟩ := hfollows hs hxs hfs hxk q.2
    exact ⟨(k, q.2), u', b', succeeds_andThen.mpr ⟨v, d, hxk, hfv⟩,
      succeeds_andThen.mpr ⟨v, d, hcut, hfv⟩⟩
  · -- cut off inside the second one: the first has nothing left to do
    obtain ⟨k, u', b', hfk, hcut⟩ := hf a ht hfs s' hs' hc q.2
    have hJ : J a s' := by
      rcases List.mem_cons.mp hs' with rfl | hs'
      · exact ht
      · exact (hkeeps a p.2 t ht).1 s' hs' hc
    exact ⟨(p.1, k), u', b', succeeds_andThen.mpr ⟨t, a, hxs, hfk⟩,
      succeeds_andThen.mpr ⟨s', a, hidle a s' hJ q.1, hcut⟩⟩

theorem succeeds_when {c : σ → Prop} [DecidablePred c] {x : Saga σ ε Unit} {s t : σ} {a : Unit} :
    (x.when c).Succeeds s t a ↔ if c s then x.Succeeds s t a else t = s := by
  unfold Succeeds when
  by_cases hc : c s
  · simp [hc]
  · simp [hc, Outcome.final, eq_comm]

theorem succeeds_when_idle {c : σ → Prop} [DecidablePred c] {x : Saga σ ε Unit} {s : σ}
    (hc : ¬ c s) : (x.when c).Succeeds s s () := by
  rw [succeeds_when, if_neg hc]

theorem Alike.when [DecidablePred c] {x : ι → Saga σ ε Unit}
    (hx : Alike (fun s => I s ∧ c s) x) : Alike I (fun i => (x i).when c) := by
  intro i s t a hs h j
  rw [succeeds_when] at h ⊢
  by_cases hc : c s
  · rw [if_pos hc] at h ⊢
    exact hx ⟨hs, hc⟩ h j
  · rw [if_neg hc] at h ⊢
    exact h

theorem Total.when [DecidablePred c] {x : ι → Saga σ ε Unit}
    (hx : Total (fun s => I s ∧ c s) x) : Total I (fun i => (x i).when c) := by
  intro i s t a hs h j
  by_cases hc : c s
  · rw [succeeds_when, if_pos hc] at h
    obtain ⟨u, b, hj⟩ := hx ⟨hs, hc⟩ h j
    refine ⟨u, b, succeeds_when.mpr ?_⟩
    rwa [if_pos hc]
  · exact ⟨s, (), succeeds_when_idle hc⟩

theorem Sequel.when [DecidablePred c] {x : ι → Saga σ ε Unit} {f : Unit → κ → Saga σ ε β}
    (hx : Sequel (fun s => I s ∧ c s) x f) (hf : Total I (f ())) :
    Sequel I (fun i => (x i).when c) f := by
  intro i s t a hs hxs k u b hfs j v d hxv l
  rw [succeeds_when] at hxs hxv
  by_cases hc : c s
  · rw [if_pos hc] at hxs hxv
    exact hx ⟨hs, hc⟩ hxs hfs hxv l
  · rw [if_neg hc] at hxs hxv
    rw [hxs] at hfs
    rw [hxv]
    exact hf hs hfs l

/-- A guarded saga restarts when its guard stays until its last commit. -/
theorem RestartsWhile.when [DecidablePred c] {x : ι → Saga σ ε Unit}
    (hx : RestartsWhile c (fun s => I s ∧ c s) x)
    (hguard : ∀ i s t, I s → c s → (x i).Succeeds s t () → ∀ s' ∈ (x i s).cuts s, c s' ∨ s' = t) :
    Restarts I (fun i => (x i).when c) := by
  intro i s t a hs h s' hs' _ j
  by_cases hc : c s
  · rw [succeeds_when, if_pos hc] at h
    have hcuts : s' ∈ (x i s).cuts s := by simpa [Saga.when, hc] using hs'
    -- the guard tells whether the cut came before the end
    by_cases hc' : c s'
    · obtain ⟨k, u, b, hk, hj⟩ := hx ⟨hs, hc⟩ h s' hcuts hc' j
      refine ⟨k, u, b, succeeds_when.mpr ?_, succeeds_when.mpr ?_⟩
      · rwa [if_pos hc]
      · rwa [if_pos hc']
    · obtain rfl : s' = t := (hguard i s t hs hc h s' hcuts).resolve_left hc'
      refine ⟨i, s', (), succeeds_when.mpr ?_, succeeds_when_idle hc'⟩
      rwa [if_pos hc]
  · obtain rfl : s' = s := by simpa [Saga.when, hc, Outcome.cuts] using hs'
    exact ⟨i, s', (), succeeds_when_idle hc, succeeds_when_idle hc⟩

/-! ### Other indices -/

theorem Alike.reindex {x : ι → Saga σ ε α} (hx : Alike I x) (e : κ → ι) :
    Alike I (fun k => x (e k)) := by
  intro k s t a hs h l
  exact hx hs h (e l)

theorem Total.reindex {x : ι → Saga σ ε α} (hx : Total I x) (e : κ → ι) :
    Total I (fun k => x (e k)) := by
  intro k s t a hs h l
  exact hx hs h (e l)

theorem RestartsWhile.reindex {x : ι → Saga σ ε α} (hx : RestartsWhile c I x) {e : κ → ι}
    (he : Function.Surjective e) : RestartsWhile c I (fun k => x (e k)) := by
  intro k s t a hs h s' hs' hc l
  obtain ⟨i, u, b, hi, hcut⟩ := hx hs h s' hs' hc (e l)
  obtain ⟨k', rfl⟩ := he i
  exact ⟨k', u, b, hi, hcut⟩

/-! ### Resuming -/

/-- A saga that keeps `I` and may be cut off and run again there. -/
structure Resumes (I : σ → Prop) (x : ι → Saga σ ε α) : Prop where
  keeps : ∀ i, Meets I I (x i) (fun _ _ => True)
  total : Total I x
  restarts : Restarts I x

/-- A read resumes: it commits nothing. -/
theorem resumes_inspect {f : σ → Except ε α} : Resumes I (fun _ : ι => inspect f) where
  keeps := fun _ => Meets.inspect (fun _ _ _ _ => trivial)
  total := alike_of_fixed.total
  restarts := by
    intro i s t a hs h s' hs' _ j
    obtain rfl : s' = s := by simpa [inspect, Outcome.cuts] using hs'
    exact ⟨j, t, a, h, h⟩

theorem resumes_done {a : α} : Resumes I (fun _ : ι => (done a : Saga σ ε α)) :=
  resumes_inspect (f := fun _ => .ok a)

/-- A stage of a procedure, and what comes after it. -/
theorem Resumes.andThen {x : ι → Saga σ ε α} {f : α → κ → Saga σ ε β}
    (hmeets : ∀ i, Meets I I (x i) J) (htotal : Total I x) (hx : Restarts I x)
    (hwithin : ∀ a s, J a s → I s) (hidle : ∀ a s, J a s → ∀ j, (x j).Succeeds s s a)
    (hfollows : Sequel I x f) (hf : ∀ a, Resumes (J a) (f a)) :
    Resumes I (fun p : ι × κ => (x p.1).andThen (fun a => f a p.2)) where
  keeps := fun p => (hmeets p.1).andThen (fun a =>
    ((hf a).keeps p.2).weaken (fun _ h => h) (hwithin a) (fun _ _ h => h))
  total := htotal.andThen hfollows
  restarts := hx.andThen
    (fun i => (hmeets i).ends) hidle
    (fun a => (hf a).restarts)
    (fun a k => ((hf a).keeps k).weaken (fun _ h => h) (fun _ h _ => h) (fun _ _ h => h)) hfollows

theorem Resumes.reindex {x : ι → Saga σ ε α} (hx : Resumes I x) {e : κ → ι}
    (he : Function.Surjective e) : Resumes I (fun k => x (e k)) where
  keeps := fun k => hx.keeps (e k)
  total := hx.total.reindex e
  restarts := hx.restarts.reindex he

/-- One transaction of its own, and what comes after it. -/
theorem Resumes.commit_andThen {f : σ → Except ε (σ × α)} {g : α → κ → Saga σ ε β}
    (hmeets : Meets I I (commit f) J) (hwithin : ∀ a s, J a s → I s)
    (hidle : ∀ a s, J a s → (commit f).Succeeds s s a) (hg : ∀ a, Resumes (J a) (g a)) :
    Resumes I (fun k => (commit f).andThen (fun a => g a k)) := by
  have hrestarts : Restarts I (fun _ : Unit => commit f) := by
    refine restarts_commit alike_of_fixed.total ?_
    intro _ s t a hs h _ _
    exact hidle a t (hmeets.succeeds hs h)
  have hstage := Resumes.andThen (fun _ : Unit => hmeets) alike_of_fixed.total hrestarts hwithin
    (fun a s h _ => hidle a s h)
    (alike_of_fixed.follows (fun _ => hmeets.ends) (fun a => (hg a).total)) hg
  exact hstage.reindex (e := fun k => ((), k)) (fun q => ⟨q.2, rfl⟩)

/-- A read, and what comes after it. -/
theorem Resumes.inspect_andThen {f : σ → Except ε α} {g : α → κ → Saga σ ε β}
    (hmeets : Meets I I (inspect f) J) (hwithin : ∀ a s, J a s → I s)
    (hidle : ∀ a s, J a s → (inspect f).Succeeds s s a) (hg : ∀ a, Resumes (J a) (g a)) :
    Resumes I (fun k => (inspect f).andThen (fun a => g a k)) := by
  have hstage := Resumes.andThen (fun _ : Unit => hmeets) alike_of_fixed.total
    resumes_inspect.restarts hwithin (fun a s h _ => hidle a s h)
    (alike_of_fixed.follows (fun _ => hmeets.ends) (fun a => (hg a).total)) hg
  exact hstage.reindex (e := fun k => ((), k)) (fun q => ⟨q.2, rfl⟩)

/-- What any number of cut-off runs may leave. -/
inductive CutRuns (x : ι → Saga σ ε α) (s : σ) : σ → Prop
  | start : CutRuns x s s
  | cut {s' s'' : σ} (i : ι) (earlier : CutRuns x s s') (h : s'' ∈ (x i s').cuts s') :
      CutRuns x s s''

theorem Resumes.keeps_cuts {x : ι → Saga σ ε α} (hx : Resumes I x) {s s' : σ}
    (h : CutRuns x s s') (hs : I s) : I s' := by
  induction h with
  | start => exact hs
  | cut i earlier hcut ih =>
    exact ((hx.keeps i).weaken (fun _ h => h) (fun _ h => h) (fun _ _ h => h)).cuts ih _ hcut

/-- After any number of cut-off runs, a run ends as an uninterrupted one does. -/
theorem Resumes.after_cuts {x : ι → Saga σ ε α} (hx : Resumes I x) {i : ι} {s t s' : σ} {a : α}
    (hs : I s) (h : (x i).Succeeds s t a) (hcuts : CutRuns x s s') (j : ι) :
    ∃ k u b, (x k).Succeeds s u b ∧ (x j).Succeeds s' u b := by
  induction hcuts generalizing j with
  | start =>
    obtain ⟨u, b, hj⟩ := hx.total hs h j
    exact ⟨j, u, b, hj, hj⟩
  | @cut s₁ s₂ l earlier hcut ih =>
    -- the run that was cut off would have succeeded, so the restart law applies to it
    obtain ⟨_, u, b, -, hl⟩ := ih l
    obtain ⟨m, v, d, hm, hj⟩ := hx.restarts (hx.keeps_cuts earlier hs) hl s₂ hcut trivial j
    obtain ⟨k, v', d', hk, hm'⟩ := ih m
    obtain ⟨rfl, rfl⟩ := hm.unique hm'
    exact ⟨k, v, d, hk, hj⟩

end Saga

end Lib
