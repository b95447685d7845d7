import ResearchGraph.Lib.Cut
import Mathlib.Data.List.Induction
import Mathlib.Data.List.Sort

/-! # The newest entries of a table

    A table grows at its end under increasing keys. Its newest `k` entries are
    the first `k` in the descending order of the keys; an entry is among them
    when fewer than `k` entries are newer. The newest entry that meets a test has
    the last index at which the test holds.
-/

namespace Lib

variable {α : Type} {key : α → Nat} {xs : List α} {x : α} {k : Nat}

/-- The first `k` entries in the descending order of their keys. -/
def newest (key : α → Nat) (k : Nat) (xs : List α) : List α :=
  (xs.insertionSort (fun a b => key b ≤ key a)).take k

/-- The entries with a larger key. -/
def newer (key : α → Nat) (x : α) (xs : List α) : List α := xs.filter (fun y => key x < key y)

/-- In a list with strictly decreasing keys the first `k` entries are those with fewer than `k`
    larger ones. -/
theorem mem_take_iff_newer (h : xs.Pairwise (fun a b => key b < key a)) :
    x ∈ xs.take k ↔ x ∈ xs ∧ (newer key x xs).length < k := by
  unfold newer
  induction xs generalizing k with
  | nil => simp
  | cons y ys ih =>
    obtain ⟨hy, hys⟩ := List.pairwise_cons.mp h
    cases k with
    | zero => simp
    | succ k =>
      rw [List.take_succ_cons, List.mem_cons, List.mem_cons, ih hys]
      by_cases hxy : x = y
      · -- nothing stands before the head, and nothing behind it is larger
        subst hxy
        have hnone : (x :: ys).filter (fun z => key x < key z) = [] := by
          refine List.filter_eq_nil_iff.mpr (fun z hz => ?_)
          rcases List.mem_cons.mp hz with rfl | hz
          · simp
          · have := hy z hz
            simp only [decide_eq_true_eq]
            omega
        rw [hnone]
        simp
      · by_cases hx : x ∈ ys
        · have hlt := hy x hx
          have hcount : ((y :: ys).filter (fun z => key x < key z)).length
              = (ys.filter (fun z => key x < key z)).length + 1 := by
            rw [List.filter_cons_of_pos (by simpa using hlt), List.length_cons]
          rw [hcount]
          simp [hxy, hx]
        · simp [hxy, hx]

/-- An entry is among the newest `k` when fewer than `k` entries are newer. -/
theorem mem_newest_iff (h : Increasing key xs) :
    x ∈ newest key k xs ↔ x ∈ xs ∧ (newer key x xs).length < k := by
  have hperm := List.perm_insertionSort (fun a b => key b ≤ key a) xs
  have hsorted : (xs.insertionSort (fun a b => key b ≤ key a)).Pairwise
      (fun a b => key b < key a) := by
    have htotal : Std.Total (fun a b : α => key b ≤ key a) := ⟨fun a b => Nat.le_total _ _⟩
    have htrans : IsTrans α (fun a b => key b ≤ key a) := ⟨fun a b c hab hbc => hbc.trans hab⟩
    have hle := List.pairwise_insertionSort (fun a b => key b ≤ key a) xs
    have hne : (xs.insertionSort (fun a b => key b ≤ key a)).Pairwise
        (fun a b => key a ≠ key b) := by
      refine (List.Perm.pairwise_iff (fun hab => Ne.symm hab) hperm).mpr ?_
      exact List.Pairwise.imp (fun hab => Nat.ne_of_lt hab) h
    refine List.Pairwise.imp₂ (fun a b hab hn => ?_) hle hne
    omega
  unfold newest
  rw [mem_take_iff_newer hsorted, hperm.mem_iff]
  unfold newer
  rw [(hperm.filter _).length_eq]

/-- `ORDER BY .. DESC LIMIT 1`: the entry no other one passes, the later among equals. -/
def latest (le : α → α → Bool) (xs : List α) : Option α :=
  xs.foldl (fun best y => if best.all (fun b => le b y) then some y else best) none

theorem mem_of_latest {le : α → α → Bool} (h : latest le xs = some x) : x ∈ xs := by
  have hfold : ∀ (xs : List α) (best : Option α),
      xs.foldl (fun best y => if best.all (fun b => le b y) then some y else best) best = some x →
      best = some x ∨ x ∈ xs := by
    intro xs
    induction xs with
    | nil => exact fun best h => .inl h
    | cons y ys ih =>
      intro best h
      rcases ih _ h with h' | h'
      · dsimp only at h'
        split at h'
        · cases h'
          exact .inr (by simp)
        · exact .inl h'
      · exact .inr (by simp [h'])
  rcases hfold xs none h with h' | h'
  · cases h'
  · exact h'

theorem latest_append_singleton (le : α → α → Bool) (xs : List α) (y : α) :
    latest le (xs ++ [y])
      = if (latest le xs).all (fun b => le b y) then some y else latest le xs := by
  unfold latest
  rw [List.foldl_append]
  rfl

theorem latest_eq_none_iff {le : α → α → Bool} : latest le xs = none ↔ xs = [] := by
  cases xs using List.reverseRecOn with
  | nil => exact ⟨fun _ => rfl, fun _ => rfl⟩
  | append_singleton xs y =>
    constructor
    · intro h
      rw [latest_append_singleton] at h
      split at h
      · cases h
      · rename_i hnot
        rw [h] at hnot
        exact absurd rfl hnot
    · intro h
      simp at h

/-- Under a total transitive order no entry is above the latest. -/
theorem le_of_latest {le : α → α → Bool} (htotal : ∀ a b, le a b = true ∨ le b a = true)
    (htrans : ∀ a b c, le a b = true → le b c = true → le a c = true) (h : latest le xs = some x) :
    ∀ y ∈ xs, le y x = true := by
  induction xs using List.reverseRecOn generalizing x with
  | nil => cases h
  | append_singleton xs z ih =>
    rw [latest_append_singleton] at h
    intro y hy
    have hy' : y ∈ xs ∨ y = z := by simpa using hy
    split at h
    · rename_i hall
      cases h
      rcases hy' with hy' | rfl
      · -- the earlier entries are below the earlier latest one, which is below the last
        cases hlatest : latest le xs with
        | none =>
          rw [latest_eq_none_iff.mp hlatest] at hy'
          cases hy'
        | some b =>
          rw [hlatest] at hall
          exact htrans _ _ _ (ih hlatest y hy') hall
      · rcases htotal y y with h' | h' <;> exact h'
    · rename_i hnot
      rcases hy' with hy' | rfl
      · exact ih h y hy'
      · rw [h] at hnot
        exact (htotal x y).resolve_left hnot

/-- The index of the last item that meets a test. -/
theorem last_index_of (f : α → Bool) (xs : List α) :
    (∀ c : Nat, ((xs.zipIdx.filter (fun a => f a.1)).getLast?.map Prod.snd) = some c →
      (∃ a, xs[c]? = some a ∧ f a = true) ∧ ∀ k, c < k → ∀ a, xs[k]? = some a → f a = false) ∧
    (((xs.zipIdx.filter (fun a => f a.1)).getLast?.map Prod.snd) = none →
      ∀ (k : Nat) a, xs[k]? = some a → f a = false) := by
  induction xs using List.reverseRecOn with
  | nil => simp
  | append_singleton xs x ih =>
    rw [List.zipIdx_append, List.filter_append, List.getLast?_append, Nat.zero_add]
    have hend {k : Nat} {a : α} (hk : (xs ++ [x])[k]? = some a) :
        xs[k]? = some a ∨ (k = xs.length ∧ a = x) := by
      rw [List.getElem?_append] at hk
      split at hk
      · exact Or.inl hk
      · have : k - xs.length = 0 := by
          have := (List.getElem?_eq_some_iff.mp hk).1
          simpa using this
        rw [this] at hk
        exact Or.inr ⟨by omega, (Option.some.inj hk).symm⟩
    by_cases hx : f x = true
    · -- the new item is the last that meets the test
      have hlast : ([x].zipIdx xs.length).filter (fun a => f a.1) = [(x, xs.length)] := by
        simp [List.zipIdx_cons, hx]
      rw [hlast]
      refine ⟨fun c hc => ?_, fun hnone => by simp at hnone⟩
      have hc : xs.length = c := by simpa using hc
      subst hc
      refine ⟨⟨x, by simp, hx⟩, fun k hk a ha => ?_⟩
      rcases hend ha with ha | ha
      · have := (List.getElem?_eq_some_iff.mp ha).1
        omega
      · omega
    · have hlast : ([x].zipIdx xs.length).filter (fun a => f a.1) = [] := by
        simp [List.zipIdx_cons, hx]
      rw [hlast, List.getLast?_nil, Option.none_or]
      have hx : f x = false := by simpa using hx
      refine ⟨fun c hc => ?_, fun hnone k a ha => ?_⟩
      · obtain ⟨⟨a, ha, hfa⟩, hlater⟩ := ih.1 c hc
        have hlt := (List.getElem?_eq_some_iff.mp ha).1
        refine ⟨⟨a, by rw [List.getElem?_append_left hlt, ha], hfa⟩, fun k hk b hb => ?_⟩
        rcases hend hb with hb | ⟨-, rfl⟩
        · exact hlater k hk b hb
        · exact hx
      · rcases hend ha with ha | ⟨-, rfl⟩
        · exact ih.2 hnone k a ha
        · exact hx

end Lib
