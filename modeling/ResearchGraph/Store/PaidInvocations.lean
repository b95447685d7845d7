import ResearchGraph.Store.EpisodeTasks

/-! # The ledger of paid invocations

    The meter of an episode counts the rows of its ledger, which are numbered
    from 1, and stays below its ceiling. The root tasks of an Experiment loop
    carry the numbers 1, 2, .. in the order in which they were inserted,
    because insertion itself checks them against the roots that are there.
-/

namespace ResearchGraph

open Lib

namespace EpisodeStore

variable {s s' : EpisodeStore} {fence opening : Prop} {paid : Option String}
  {task : Option AgentTaskRecord}

/-! ### Meters -/

/-- Every meter counts the numbered rows of its episode and respects its ceiling, and no row is of
    an episode that is not stored. -/
structure Metered (s : EpisodeStore) : Prop where
  numbers : ∀ id e, s.episodes.get? id = some e →
    (s.ledger id).map EpisodeInvocation.invocation_number = List.range' 1 e.invocations_used
  ceiling : ∀ id e, s.episodes.get? id = some e → e.invocations_used ≤ e.invocation_ceiling
  absent : ∀ id, s.episodes.get? id = none → s.ledger id = []

theorem metered_empty : Metered {} where
  numbers := by
    intro id e h
    cases h
  ceiling := by
    intro id e h
    cases h
  absent := fun _ _ => rfl

/-- A row of the episode itself comes last in its ledger. -/
theorem ledger_append_self {row : EpisodeInvocation}
    (hr : s'.episode_invocations = s.episode_invocations ++ [row]) :
    s'.ledger row.episode_id = s.ledger row.episode_id ++ [row] := by
  unfold ledger
  rw [hr, List.filter_append]
  simp

/-- A step that writes one row meters it, and leaves the ledgers of the others alone. -/
theorem Metered.put (h : s.Metered) {e : Episode} (he : s'.episodes = s.episodes.put e)
    (hnumbers : (s'.ledger e.episode_id).map EpisodeInvocation.invocation_number
      = List.range' 1 e.invocations_used)
    (hceiling : e.invocations_used ≤ e.invocation_ceiling)
    (hothers : ∀ id, id ≠ e.episode_id → s'.ledger id = s.ledger id) : s'.Metered where
  numbers := by
    intro id f hget
    rw [he, Table.get?_put] at hget
    split at hget
    · rename_i hid
      cases hget
      rw [hid]
      exact hnumbers
    · rename_i hid
      rw [hothers id hid]
      exact h.numbers id f hget
  ceiling := by
    intro id f hget
    rw [he, Table.get?_put] at hget
    split at hget
    · cases hget
      exact hceiling
    · exact h.ceiling id f hget
  absent := by
    intro id hget
    rw [he, Table.get?_put] at hget
    split at hget
    · cases hget
    · rename_i hid
      rw [hothers id hid]
      exact h.absent id hget

theorem Metered.step (h : s.Metered) (hstep : LedgerStep fence opening paid s s') :
    s'.Metered := by
  cases hstep with
  | same he hr =>
    constructor
    · intro id e hget
      rw [he] at hget
      rw [ledger_congr hr]
      exact h.numbers id e hget
    · intro id e hget
      rw [he] at hget
      exact h.ceiling id e hget
    · intro id hget
      rw [he] at hget
      rw [ledger_congr hr]
      exact h.absent id hget
  | opened e _ habsent _ hceiling hused he hr =>
    refine h.put he ?_ (by omega) (fun id _ => ledger_congr hr)
    rw [ledger_congr hr, h.absent _ habsent, hused]
    rfl
  | started e operation_id _ habsent _ hceiling hused _ _ _ he hr =>
    refine h.put he ?_ (by omega) (fun id hid => ledger_append_ne (Ne.symm hid) hr)
    -- the first row of a ledger
    rw [ledger_append_self hr, h.absent _ habsent, hused]
    rfl
  | moved e e' hget he hr hsame hused _ _ =>
    refine h.put he ?_ ?_ (fun id _ => ledger_congr hr)
    · rw [ledger_congr hr, hused, hsame.episode_id]
      exact h.numbers _ e hget
    · rw [hused, hsame.invocation_ceiling]
      exact h.ceiling _ e hget
  | spent e e' operation_id hget _ hbelow hsame _ hused _ _ _ he hr =>
    refine h.put he ?_ ?_ (fun id hid => ?_)
    · -- the row comes after those the meter counted
      rw [hsame.episode_id, ledger_append_self hr, List.map_append, h.numbers _ e hget, hused,
        List.range'_concat]
      simp [Nat.add_comm]
    · rw [hused, hsame.invocation_ceiling]
      omega
    · rw [hsame.episode_id] at hid
      exact ledger_append_ne (Ne.symm hid) hr

theorem metered_run (ops : List EpisodeOp) (hs : s.Metered) : (s.run ops).Metered := by
  induction ops generalizing s with
  | nil => exact hs
  | cons op ops ih => exact ih (hs.step (apply_ledger_step))

/-! ### Replays and recoveries -/

/-- An admission of a task that is stored adds no row. -/
theorem LedgerStep_replay {operation_id : String}
    (hstep : LedgerStep fence opening (some operation_id) s s')
    (hstored : (s.tasks.get? operation_id).isSome = true) :
    s'.episode_invocations = s.episode_invocations := by
  have hno : ∀ id, some operation_id = some id → s.tasks.get? id = none → False := by
    intro id hid hnone
    cases hid
    rw [hnone] at hstored
    cases hstored
  cases hstep with
  | same _ hr => exact hr
  | opened _ _ _ _ _ _ _ hr => exact hr
  | started _ id _ _ _ _ _ hpaid hnew _ _ _ => exact (hno id hpaid hnew).elim
  | moved _ _ _ _ hr _ _ _ _ => exact hr
  | spent _ _ id _ _ _ _ _ _ hpaid hnew _ _ _ => exact (hno id hpaid hnew).elim

theorem replay_adds_no_row {op : EpisodeOp} {t : AgentTaskRecord} (htask : op.task = some t)
    (hstored : s.tasks.contains t.operation_id = true) :
    (s.apply op).episode_invocations = s.episode_invocations := by
  have hstep := @apply_ledger_step s op
  rw [htask] at hstep
  exact LedgerStep_replay hstep hstored

end EpisodeStore

/-- The operations that continue a task within its paid allocation. -/
def EpisodeOp.is_recovery : EpisodeOp → Bool
  | .create_experiment_recovery_task .. | .create_auto_research_recovery_task ..
  | .create_auto_research_child_work_recovery .. => true
  | _ => false

namespace EpisodeStore

variable {s s' : EpisodeStore}

theorem recovery_adds_no_row {op : EpisodeOp} (hop : op.is_recovery = true) :
    (s.apply op).episode_invocations = s.episode_invocations := by
  rcases s.apply_cases op with h | h
  · rw [h]
  -- The step lemma of a recovery holds for any paid task, so for none.
  have hnone : LedgerStep True True none s (s.apply op) := by
    cases op with
    | create_experiment_recovery_task => exact create_experiment_recovery_task_step h
    | create_auto_research_recovery_task => exact create_auto_research_recovery_task_step h
    | create_auto_research_child_work_recovery =>
      exact create_auto_research_child_work_recovery_step h
    | _ => cases hop
  cases hnone with
  | same _ hr => exact hr
  | opened _ _ _ _ _ _ _ hr => exact hr
  | started _ _ _ _ _ _ _ hpaid => cases hpaid
  | moved _ _ _ _ hr _ _ _ _ => exact hr
  | spent _ _ _ _ _ _ _ _ _ hpaid => cases hpaid

end EpisodeStore

end ResearchGraph
