import ResearchGraph.Store.LineageRuns
import ResearchGraph.Store.Actors

/-! # Stop settlement and the runtime of a loop

    Settlement asks for a task of the loop that nothing continues, the runtime
    for the newest attempt of an invocation. In a store whose chains of attempts
    are whole these are the same tasks. Settlement does not ask whether such a
    task was abandoned, so it agrees with the runtime only as long as the
    diagnostic that abandoned it stays.
-/

namespace ResearchGraph

open Lib

namespace ExperimentStore

variable {s s' : ExperimentStore} {id node : String} {e : Episode}

/-! ### Leaves and newest attempts -/

theorem mem_unresolved_leaves {v : EpisodeStore} {p n i : String} {t : AgentTaskRecord} :
    t ∈ v.unresolved_leaves p n i ↔ t ∈ v.loop_tasks p (some n) (some i)
      ∧ t.status.unresolved = true
      ∧ ∀ c ∈ v.tasks.items, c.parent_operation_id ≠ some t.operation_id := by
  simp only [EpisodeStore.unresolved_leaves, List.mem_filter, Bool.and_eq_true,
    Bool.not_eq_true', List.any_eq_false, decide_eq_true_eq, ne_eq]

theorem stored_once {v : EpisodeStore} {a b : AgentTaskRecord} (ha : a ∈ v.tasks.items)
    (hb : b ∈ v.tasks.items) (hid : a.operation_id = b.operation_id) : a = b := by
  have ha' : v.tasks.get? b.operation_id = some a := Table.get?_eq_some_iff.mpr ⟨ha, hid⟩
  have hb' : v.tasks.get? b.operation_id = some b := Table.get?_eq_some_iff.mpr ⟨hb, rfl⟩
  rw [ha'] at hb'
  exact Option.some.inj hb'

/-- Nothing continues the newest attempt of an invocation of a loop that is asked to stop. -/
theorem newest_is_leaf {v : EpisodeStore} (h : v.LineageSound)
    (hget : v.episodes.get? id = some e) (hstop : e.stop_requested_at.isSome = true)
    {m c : AgentTaskRecord} (hm : m ∈ v.loop_tasks e.project_id e.control_node_id (some id))
    (hnewest : ∀ a ∈ v.tasks.items, SameInvocation a m → a.attempt ≤ m.attempt)
    (hc : c ∈ v.tasks.items) : c.parent_operation_id ≠ some m.operation_id := by
  intro hparent
  obtain ⟨hmem, -, hloop, -, hctl⟩ := EpisodeStore.mem_loop_tasks.mp hm
  cases hcloop : c.request.experiment_loop with
  | true =>
    -- a later attempt of the same invocation
    obtain ⟨p, hp, hpid, hsame, hlt⟩ := h.chained.parent c.shape (EpisodeStore.shape_mem hc)
      hcloop m.operation_id hparent
    obtain ⟨p, hstored, rfl⟩ := EpisodeStore.mem_shapes.mp hp
    obtain rfl := stored_once hstored hmem hpid
    have hle := hnewest c hc (SameInvocation.shape_iff.mp hsame).symm
    have hlt : p.attempt < c.attempt := hlt
    omega
  | false =>
    -- the report of an episode that ended, which is not asked to stop
    obtain ⟨e', hget', hconcluded⟩ := h.reports c.shape (EpisodeStore.shape_mem hc) hcloop
      m.shape (EpisodeStore.shape_mem hmem) hparent hloop id hctl
    rw [hget] at hget'
    cases hget'
    rw [h.rows.stop_of_concluded hget hconcluded] at hstop
    cases hstop

/-- The runtime finds a task that may still be acted on where settlement does. -/
theorem active_iff_leaf (h : s.store.LineageSound) (hget : s.store.episodes.get? id = some e)
    (hnode : e.control_node_id = some node) (hstop : e.stop_requested_at.isSome = true) :
    s.unresolved_invocation (s.store.loop_tasks e.project_id e.control_node_id (some id)) = true ↔
      ∃ t ∈ s.store.unresolved_leaves e.project_id node id, s.actionable t = true := by
  simp only [unresolved_invocation, List.any_eq_true, List.mem_filterMap, Option.any_eq_true]
  constructor
  · rintro ⟨k, -, m, hlatest, hact⟩
    obtain ⟨hm, hk⟩ := List.mem_filter.mp (mem_of_latest hlatest)
    have hk : m.request.control_invocation = some k := of_decide_eq_true hk
    obtain ⟨hmem, hproject, hloop, hcontrol, hctl⟩ := EpisodeStore.mem_loop_tasks.mp hm
    refine ⟨m, mem_unresolved_leaves.mpr ⟨by rw [← hnode]; exact hm, ?_, ?_⟩, hact⟩
    · simp only [actionable, Bool.and_eq_true] at hact
      exact hact.1
    · intro c hc
      refine newest_is_leaf h hget hstop hm ?_ hc
      intro a ha hsame
      have hle := le_of_latest EpisodeStore.attempt_le_total EpisodeStore.attempt_le_trans hlatest a
        (List.mem_filter.mpr ⟨?_, by rw [hsame.control_invocation, hk]; simp⟩)
      · exact EpisodeStore.attempt_of_le hle hsame.control_invocation
      · rw [← hproject, ← hcontrol, ← hctl]
        exact EpisodeStore.mem_loop_of_same ha hsame
  · rintro ⟨t, ht, hact⟩
    obtain ⟨ht, -, hleaf⟩ := mem_unresolved_leaves.mp ht
    rw [← hnode] at ht
    obtain ⟨hmem, hproject, hloop, hcontrol, hctl⟩ := EpisodeStore.mem_loop_tasks.mp ht
    obtain ⟨k, hk, -⟩ := h.loops.sequenced.tasks _ _ _ t ht
    refine ⟨k, ⟨t, ht, hk⟩, ?_⟩
    have hin : t ∈ (s.store.loop_tasks e.project_id e.control_node_id (some id)).filter
        (fun t => t.request.control_invocation = some k) :=
      List.mem_filter.mpr ⟨ht, by rw [hk]; simp⟩
    cases hlatest :
        newest_attempt (s.store.loop_tasks e.project_id e.control_node_id (some id)) k with
    | none =>
      rw [latest_eq_none_iff.mp hlatest] at hin
      cases hin
    | some m =>
      obtain ⟨hm, hmk⟩ := List.mem_filter.mp (mem_of_latest hlatest)
      have hmk : m.request.control_invocation = some k := of_decide_eq_true hmk
      obtain ⟨hmmem, hmproject, hmloop, hmcontrol, hmctl⟩ := EpisodeStore.mem_loop_tasks.mp hm
      have hsame : SameInvocation t m :=
        ⟨⟨hloop, hmloop⟩, hproject.trans hmproject.symm, hcontrol.trans hmcontrol.symm,
          hctl.trans hmctl.symm, hk.trans hmk.symm⟩
      have hle := le_of_latest EpisodeStore.attempt_le_total EpisodeStore.attempt_le_trans
        hlatest t hin
      have hattempt := EpisodeStore.attempt_of_le hle hsame.control_invocation
      have hshapes := SameInvocation.shape_iff.mpr hsame
      have htm : t = m := by
        rcases Nat.lt_or_eq_of_le hattempt with hlt | heq
        · -- a superseded attempt is continued
          obtain ⟨c, hc, hparent⟩ := h.chained.superseded t.shape (EpisodeStore.shape_mem hmem)
            m.shape (EpisodeStore.shape_mem hmmem) hshapes hlt
          obtain ⟨c, hstored, rfl⟩ := EpisodeStore.mem_shapes.mp hc
          exact absurd hparent (hleaf c hstored)
        · exact stored_once hmem hmmem (h.chained.distinct t.shape (EpisodeStore.shape_mem hmem)
            m.shape (EpisodeStore.shape_mem hmmem) hshapes heq)
      exact ⟨m, rfl, htm ▸ hact⟩

/-- The runtime of an Experiment episode is derived without an error. -/
theorem derive_ok (h : s.store.LineageSound) (hget : s.store.episodes.get? id = some e)
    (hmode : e.mode = .experiment_loop) (has_watcher : Bool) :
    ∃ r, s.derive_experiment_loop_runtime e has_watcher = .ok r
      ∧ r.task_active = s.unresolved_invocation
        (s.store.loop_tasks e.project_id e.control_node_id (some id)) := by
  have hkey : e.episode_id = id := Table.key_of_get? hget
  have hpaid := h.paid id e hget hmode
  have hcount := h.loops.counted id e hget hmode
  unfold derive_experiment_loop_runtime
  rw [hkey]
  cases hroot : latest (fun a b : AgentTaskRecord => decide (a.created_at ≤ b.created_at))
      (s.store.loop_roots e.project_id e.control_node_id (some id)) with
  | none =>
    rw [latest_eq_none_iff.mp hroot] at hcount
    rw [← hcount] at hpaid
    cases hpaid
  | some root =>
    have hmem := mem_of_latest hroot
    have hceiling := h.capped id e hget hmode root hmem
    have hroottask : root ∈ s.store.loop_tasks e.project_id e.control_node_id (some id) :=
      (List.mem_filter.mp hmem).1
    have hbelow := (h.loops.in_sequence hget hmode)
    have hnumbers : ∀ t ∈ s.store.loop_tasks e.project_id e.control_node_id (some id),
        ∃ k, t.request.control_invocation = some k ∧ 1 ≤ k := by
      intro t ht
      obtain ⟨k, hk, hrange⟩ := h.loops.sequenced.tasks _ _ _ t ht
      rw [List.mem_range'_1] at hrange
      exact ⟨k, hk, hrange.1⟩
    have hsome : (s.store.loop_tasks e.project_id e.control_node_id (some id)).all
        (fun t => t.request.control_invocation.isNone) = false := by
      rw [List.all_eq_false]
      obtain ⟨k, hk, -⟩ := hnumbers root hroottask
      exact ⟨root, hroottask, by rw [hk]; simp⟩
    have hpositive : (s.store.loop_tasks e.project_id e.control_node_id (some id)).any
        (fun t => decide (t.request.control_invocation = some 0)) = false := by
      rw [List.any_eq_false]
      intro t ht
      obtain ⟨k, hk, hle⟩ := hnumbers t ht
      rw [hk]
      simp only [Option.some.injEq, decide_eq_true_eq]
      omega
    have hcap := h.metered.ceiling id e hget
    simp only [hceiling, Option.getD_some, hsome, hpositive, hbelow, Bool.or_self,
      Bool.false_eq_true, if_false, ne_eq, not_true_eq_false]
    rw [if_neg (by omega)]
    exact ⟨_, rfl, rfl⟩

/-! ### Abandoned tasks and their diagnostic -/

/-- A task of the loop of the episode was abandoned. -/
def abandoned_loop (s : ExperimentStore) (episode_id : String) : Bool :=
  s.store.tasks.items.any fun t => t.request.experiment_loop
    && t.request.control_episode_id = some episode_id
    && s.store.experiment_abandoned.contains t.operation_id

/-- The operations as their callers use them, where none clears the diagnostic of an episode whose
    loop has an abandoned task. -/
def orderly (s : ExperimentStore) : StopOp → Prop
  | .episode op => s.store.called op
  | .record_experiment_episode_diagnostic episode_id _ _ diagnostic =>
    (truthy diagnostic).isSome = true ∨ s.abandoned_loop episode_id = false
  | .terminalize_watchers _ diagnostic => diagnostic ≠ ""
  | .commit_experiment_episode_turn episode_id _ _ _ _ => s.abandoned_loop episode_id = false
  | _ => True

/-- The task stopped short, and the episode of its loop keeps the diagnostic that abandoned it. -/
structure Halted (s : ExperimentStore) (t : AgentTaskRecord) : Prop where
  stored : t ∈ s.store.tasks.items
  loop : t.request.experiment_loop = true
  status : t.status.recoverable = true
  diagnostic : ∃ episode_id state, t.request.control_episode_id = some episode_id
    ∧ s.states.get? episode_id = some state ∧ (truthy state.session_diagnostic).isSome = true

/-- The loops are sound, every Experiment episode has its state row, and every abandoned task is
    halted. -/
structure StopSound (s : ExperimentStore) : Prop where
  lineage : s.store.LineageSound
  stated : ∀ id e, s.store.episodes.get? id = some e → e.mode = .experiment_loop →
    (s.states.get? id).isSome = true
  halted : ∀ id ∈ s.store.experiment_abandoned, ∃ t, t.operation_id = id ∧ s.Halted t

theorem stopSound_empty : StopSound {} where
  lineage := EpisodeStore.lineageSound_empty
  stated := by
    intro id e h
    cases h
  halted := by
    intro id h
    cases h

theorem get?_set_diagnostic (s : ExperimentStore) (k : String) (diagnostic : Option String)
    (id : String) :
    (s.set_diagnostic k diagnostic).states.get? id = (s.states.get? id).map (fun state =>
      if state.episode_id = k then { state with session_diagnostic := diagnostic } else state) := by
  unfold ExperimentStore.set_diagnostic
  rw [Table.get?_update]

@[simp] theorem set_diagnostic_store (k : String) (diagnostic : Option String) :
    (s.set_diagnostic k diagnostic).store = s.store := rfl

/-- Writing a diagnostic keeps what is halted, unless it clears the diagnostic of an abandoned
    task. -/
theorem StopSound.set_diagnostic (h : s.StopSound) {k : String} {diagnostic : Option String}
    (hkeeps : (truthy diagnostic).isSome = true ∨ s.abandoned_loop k = false) :
    (s.set_diagnostic k diagnostic).StopSound where
  lineage := h.lineage
  stated := by
    intro id e hget hmode
    rw [get?_set_diagnostic, Option.isSome_map]
    exact h.stated id e hget hmode
  halted := by
    intro id hid
    obtain ⟨t, rfl, hmem, hloop, hstatus, episode_id, state, hctl, hstate, hsome⟩ :=
      h.halted id hid
    have hget' := s.get?_set_diagnostic k diagnostic episode_id
    rw [hstate, Option.map_some] at hget'
    by_cases hk : state.episode_id = k
    · rw [if_pos hk] at hget'
      refine ⟨t, rfl, hmem, hloop, hstatus, episode_id, _, hctl, hget', ?_⟩
      rcases hkeeps with hkeeps | hkeeps
      · exact hkeeps
      · -- the row is of the loop of the abandoned task
        have hkey : state.episode_id = episode_id := Table.key_of_get? hstate
        rw [abandoned_loop, List.any_eq_false] at hkeeps
        refine absurd ?_ (hkeeps t hmem)
        simp only [hloop, hctl, ← hk, hkey, decide_true, Bool.true_and,
          List.contains_iff_mem]
        exact hid
    · rw [if_neg hk] at hget'
      exact ⟨t, rfl, hmem, hloop, hstatus, episode_id, _, hctl, hget', hsome⟩

/-- An episode operation keeps the statuses of halted tasks. -/
theorem StopSound.keeps_halted (h : s.StopSound) {op : EpisodeOp} {store : EpisodeStore}
    (hexec : s.store.exec op = some store) {t : AgentTaskRecord} (ht : s.Halted t) :
    t ∈ store.tasks.items := by
  obtain ⟨hmem, hloop, hstatus, -⟩ := ht
  have hstep := (EpisodeStore.exec_task_step hexec).1
  have hget : s.store.tasks.get? t.operation_id = some t := Table.get?_eq_some_iff.mpr ⟨hmem, rfl⟩
  obtain ⟨status, hget'⟩ := hstep.get?_of_get? hget
  rcases hstep.old_task h.lineage.bound hget' with ⟨-, hnew, -⟩ | ⟨r, hr, hcase⟩
  · rw [hnew] at hget
    cases hget
  rw [hget] at hr
  cases hr
  rcases hcase with heq | ⟨status', -, hkind | hactive⟩
  · rw [heq] at hget'
    exact (Table.get?_eq_some_iff.mp hget').1
  · -- a task of a loop is no report
    have hchat := h.lineage.chats t.shape (EpisodeStore.shape_mem hmem) hloop
    rw [show t.shape.kind = t.kind from rfl, hkind] at hchat
    cases hchat
  · revert hactive hstatus
    cases t.status <;> simp [AgentTaskStatus.active, AgentTaskStatus.recoverable]

/-- An episode operation opens state rows, and keeps those that are there. -/
theorem open_state_store (op : EpisodeOp) (store : EpisodeStore) :
    (s.open_state op store).store = store := by
  cases op <;> rfl

/-- A state row that is opened is of a new episode. -/
theorem open_state_get? {op : EpisodeOp} {store : EpisodeStore}
    (hexec : s.store.exec op = some store) {k : String}
    (hk : (s.store.episodes.get? k).isSome = true) :
    (s.open_state op store).states.get? k = s.states.get? k := by
  cases op with
  | create_experiment_episode_with_invocation t route bound =>
    obtain ⟨e', s₁, hnew, -, -, hroute, hopen⟩ :=
      EpisodeStore.create_experiment_episode_with_invocation_eq hexec
    obtain ⟨routes, rfl⟩ := EpisodeStore.open_route_eq hroute
    obtain ⟨habsent, -⟩ := EpisodeStore.open_episode_eq hopen
    obtain ⟨-, -, -, -, hid, -⟩ := EpisodeStore.new_experiment_episode_eq hnew
    have hne : k ≠ e'.episode_id := by
      rintro rfl
      rw [show s.store.episodes.get? e'.episode_id = none from habsent] at hk
      cases hk
    show (t.episode_id.elim s.states _).get? k = _
    rw [hid]
    exact Table.get?_put_ne _ hne
  | _ => rfl

theorem StopSound.episode (h : s.StopSound) {op : EpisodeOp} {store : EpisodeStore}
    (hcalled : s.store.called op) (hexec : s.store.exec op = some store) :
    (s.open_state op store).StopSound where
  lineage := by
    rw [open_state_store]
    exact h.lineage.exec_step hcalled hexec
  stated := by
    intro id e hget hmode
    rw [open_state_store] at hget
    cases hold : s.store.episodes.get? id with
    | some e₀ =>
      rw [open_state_get? hexec (by rw [hold]; rfl)]
      obtain ⟨e', hget', hbudget, -⟩ :=
        EpisodeStore.LedgerStep_meter (EpisodeStore.exec_ledger_step hexec) hold
      rw [hget] at hget'
      cases hget'
      exact h.stated id e₀ hold (hbudget.mode.symm.trans hmode)
    | none =>
      -- an episode of mode experiment is opened together with its loop's state
      obtain ⟨t, hopened⟩ := EpisodeStore.exec_new_experiment hcalled hexec hold hget hmode
      obtain ⟨route, bound, rfl⟩ := hopened.operation
      show ((t.episode_id.elim s.states _).get? id).isSome = true
      rw [hopened.episode_id]
      have hself : (s.states.put { episode_id := id }).get? id = some { episode_id := id } :=
        Table.get?_put_self _ _
      exact (congrArg Option.isSome hself).trans rfl
  halted := by
    intro id hid
    rw [open_state_store] at hid
    -- no step here marks a task: pruning only drops marks, and the abandonment is not called
    have hid' : id ∈ s.store.experiment_abandoned := by
      cases hmarks : EpisodeStore.marks_abandoned op with
      | false =>
        rw [← EpisodeStore.exec_abandoned hmarks hexec]
        exact hid
      | true =>
        cases op with
        | abandon_experiment_recovery => exact hcalled.2.elim
        | retain_receipts =>
          cases hexec
          exact (List.mem_filter.mp hid).1
        | _ => cases hmarks
    obtain ⟨t, rfl, ht⟩ := h.halted id hid'
    have hstored := h.keeps_halted hexec ht
    obtain ⟨hmem, hloop, hstatus, k, state, hctl, hstate, hsome⟩ := ht
    refine ⟨t, rfl, by rw [open_state_store]; exact hstored, hloop, hstatus, k, state, hctl, ?_,
      hsome⟩
    rw [open_state_get? hexec, hstate]
    obtain ⟨k', e, hk', hget⟩ := h.lineage.loops.bound t hmem hloop
    rw [hctl] at hk'
    cases hk'
    rw [hget]
    rfl

/-! ### Settlement -/

theorem context_problems : ∀ problem ∈ [EpisodeStore.cyclic_lineage,
    EpisodeStore.incomplete_lineage, missing_context, invalid_context], problem ≠ "" := by
  decide +kernel

theorem lineage_problem {fuel : Nat} {seen : List String} {operation_id problem : String}
    (h : s.store.lineage_root fuel seen operation_id = .error problem) :
    problem = EpisodeStore.cyclic_lineage ∨ problem = EpisodeStore.incomplete_lineage := by
  induction fuel generalizing seen operation_id with
  | zero =>
    cases h
    exact .inl rfl
  | succ fuel ih =>
    simp only [EpisodeStore.lineage_root] at h
    split at h
    · cases h
      exact .inl rfl
    split at h
    · cases h
      exact .inr rfl
    · rename_i row _
      cases hparent : row.parent_operation_id with
      | none =>
        rw [hparent] at h
        cases h
      | some parent_id =>
        rw [hparent] at h
        exact ih h

/-- A problem of a recovery context is told in words. -/
theorem problem_nonempty {operation_id problem : String}
    (h : s.recovery_context_problem operation_id = some problem) : problem ≠ "" := by
  apply context_problems
  simp only [recovery_context_problem] at h
  split at h
  · rename_i p hp
    cases h
    rcases lineage_problem hp with rfl | rfl <;> simp
  · rename_i root _
    cases hcandidate : s.candidates.get? root with
    | none =>
      rw [hcandidate] at h
      cases h
      simp
    | some candidate =>
      rw [hcandidate, Option.elim_some] at h
      split at h
      · cases h
      · cases h
        simp

@[simp] theorem recorded_store (state : ExperimentState) (unresolved : List AgentTaskRecord) :
    (s.recorded state unresolved).store = s.store := by
  unfold recorded
  split <;> rfl

theorem truthy_settling {state : ExperimentState} {unresolved : List AgentTaskRecord}
    (h : (s.settling_diagnostic state unresolved).isSome = true) :
    (truthy (s.settling_diagnostic state unresolved)).isSome = true := by
  obtain ⟨diagnostic, hsome⟩ := Option.isSome_iff_exists.mp h
  have hne : diagnostic ≠ "" := by
    unfold settling_diagnostic at hsome
    cases hknown : truthy state.session_diagnostic with
    | some known =>
      rw [hknown] at hsome
      cases hsome
      exact of_decide_eq_true (Option.filter_eq_some_iff.mp hknown).2
    | none =>
      rw [hknown] at hsome
      obtain ⟨t, -, hproblem⟩ := List.exists_of_findSome?_eq_some hsome
      exact problem_nonempty hproblem
  rw [hsome]
  simp [truthy, hne]

theorem StopSound.recorded (h : s.StopSound) (state : ExperimentState)
    (unresolved : List AgentTaskRecord) : (s.recorded state unresolved).StopSound := by
  unfold ExperimentStore.recorded
  split
  · rename_i hsome
    simp only [Bool.and_eq_true] at hsome
    exact h.set_diagnostic (.inl (truthy_settling hsome.2))
  · exact h

/-- After settlement has found a diagnostic the state row of the episode has one. -/
theorem recorded_diagnostic {state : ExperimentState} {unresolved : List AgentTaskRecord}
    (hstate : s.states.get? id = some state)
    (hsome : (s.settling_diagnostic state unresolved).isSome = true) :
    ∃ state', (s.recorded state unresolved).states.get? id = some state'
      ∧ (truthy state'.session_diagnostic).isSome = true := by
  have hkey : state.episode_id = id := Table.key_of_get? hstate
  unfold recorded
  cases hknown : (truthy state.session_diagnostic).isNone with
  | true =>
    rw [hsome, Bool.and_self, if_pos rfl]
    refine ⟨_, by rw [get?_set_diagnostic, hstate, Option.map_some, if_pos rfl], ?_⟩
    exact truthy_settling hsome
  | false =>
    refine ⟨state, hstate, ?_⟩
    simpa using hknown

/-- Abandoning tasks that stopped short, under a diagnostic, keeps the store sound. -/
theorem StopSound.abandon (h : s.StopSound) {unresolved : List AgentTaskRecord}
    (hall : ∀ t ∈ unresolved, s.Halted t) :
    { s with store := s.store.abandon_recoveries unresolved }.StopSound where
  lineage := h.lineage.abandon _
  stated := h.stated
  halted := by
    intro k hk
    rcases List.mem_append.mp hk with hk | hk
    · obtain ⟨t, ht, hhalted⟩ := h.halted k hk
      exact ⟨t, ht, hhalted.1, hhalted.2, hhalted.3, hhalted.4⟩
    · obtain ⟨t, ht, rfl⟩ := List.mem_map.mp (List.mem_filter.mp hk).1
      exact ⟨t, rfl, (hall t ht).1, (hall t ht).2, (hall t ht).3, (hall t ht).4⟩

/-- The tasks settlement abandons are halted. -/
theorem halted_of_abandonable {p n : String} {state : ExperimentState}
    (hstate : s.states.get? id = some state)
    (habandonable : s.abandonable state (s.store.unresolved_leaves p n id) = true)
    {t : AgentTaskRecord} (ht : t ∈ s.store.unresolved_leaves p n id) :
    (s.recorded state (s.store.unresolved_leaves p n id)).Halted t := by
  simp only [abandonable, Bool.and_eq_true, List.all_eq_true] at habandonable
  obtain ⟨hin, -⟩ := mem_unresolved_leaves.mp ht
  obtain ⟨hmem, -, hloop, -, hctl⟩ := EpisodeStore.mem_loop_tasks.mp hin
  obtain ⟨state', hstate', hsome⟩ := recorded_diagnostic hstate habandonable.1
  exact ⟨by rw [recorded_store]; exact hmem, hloop, habandonable.2 t ht, id, state', hctl, hstate',
    hsome⟩

theorem StopSound.settle_unresolved (h : s.StopSound) {p n : String} {state : ExperimentState}
    (hstate : s.states.get? id = some state) :
    (s.settle_unresolved state (s.store.unresolved_leaves p n id)).1.StopSound := by
  unfold ExperimentStore.settle_unresolved
  dsimp only
  split
  · rename_i habandonable
    exact (h.recorded state _).abandon (fun t ht => halted_of_abandonable hstate habandonable ht)
  · exact h.recorded state _

theorem experiment_episode_row_eq {state : ExperimentState}
    (h : s.experiment_episode_row id = some (e, state)) :
    s.states.get? id = some state ∧ s.store.episodes.get? id = some e
      ∧ e.mode = .experiment_loop := by
  simp only [experiment_episode_row, Option.bind_eq_some_iff, Option.map_eq_some_iff,
    Prod.mk.injEq] at h
  obtain ⟨state, hstate, e, he, rfl, rfl⟩ := h
  obtain ⟨hget, hmode⟩ := Option.filter_eq_some_iff.mp he
  exact ⟨hstate, hget, of_decide_eq_true hmode⟩

theorem StopSound.settle (h : s.StopSound) (p n id : String) :
    (s.settle_experiment_loop_stop p n id).1.StopSound := by
  unfold settle_experiment_loop_stop
  cases hrow : s.experiment_episode_row id with
  | none => exact h
  | some row =>
    obtain ⟨e, state⟩ := row
    dsimp only [Option.elim_some]
    split
    · exact h
    split
    · exact h
    · exact h.settle_unresolved (experiment_episode_row_eq hrow).1

/-! ### Every operation -/

theorem StopSound.terminalize (h : s.StopSound) {episode_ids : List String} {diagnostic : String}
    (hne : diagnostic ≠ "") :
    (episode_ids.foldl (fun s id => s.set_diagnostic id (some diagnostic)) s).StopSound := by
  induction episode_ids generalizing s with
  | nil => exact h
  | cons id ids ih => exact ih (h.set_diagnostic (.inl (by simp [truthy, hne])))

theorem StopSound.apply (h : s.StopSound) {op : StopOp} (horderly : s.orderly op) :
    (s.apply op).StopSound := by
  unfold ExperimentStore.apply
  cases hexec : s.exec op with
  | none => exact h
  | some s' =>
    rw [Option.getD_some]
    cases op with
    | episode op =>
      obtain ⟨store, hstore, rfl⟩ := Option.map_eq_some_iff.mp hexec
      exact h.episode horderly hstore
    | record_context_candidate candidate =>
      cases hexec
      exact ⟨h.lineage, h.stated, fun id hid =>
        have ⟨t, ht, hhalted⟩ := h.halted id hid
        ⟨t, ht, hhalted.1, hhalted.2, hhalted.3, hhalted.4⟩⟩
    | record_experiment_episode_diagnostic id p n diagnostic =>
      obtain ⟨row, -, rfl⟩ := Option.map_eq_some_iff.mp hexec
      exact h.set_diagnostic horderly
    | terminalize_watchers ids diagnostic =>
      cases hexec
      exact h.terminalize horderly
    | commit_experiment_episode_turn id p n operation_id invocation =>
      obtain ⟨row, -, hexec⟩ := Option.bind_eq_some_iff.mp hexec
      split at hexec
      · cases hexec
        exact h.set_diagnostic (.inr horderly)
      · cases hexec
    | settle_experiment_loop_stop p n id =>
      cases hexec
      exact h.settle p n id

theorem stopSound_run {ops : List StopOp} (h : Along apply orderly {} ops) :
    (run {} ops).StopSound :=
  invariant_run (fun _ _ hs horderly => hs.apply horderly) stopSound_empty h

/-! ### Agreement -/

theorem experiment_episode_row_of (h : s.StopSound) (hget : s.store.episodes.get? id = some e)
    (hmode : e.mode = .experiment_loop) :
    ∃ state, s.experiment_episode_row id = some (e, state) := by
  obtain ⟨state, hstate⟩ := Option.isSome_iff_exists.mp (h.stated id e hget hmode)
  refine ⟨state, ?_⟩
  simp [experiment_episode_row, hstate, hget, hmode, Option.filter]

/-- A task of the loop of an episode that is not halted may be acted on. -/
theorem actionable_of_not_halted (h : s.StopSound) {t : AgentTaskRecord}
    (hmem : t ∈ s.store.tasks.items) (hstatus : t.status.unresolved = true) (hnot : ¬ s.Halted t) :
    s.actionable t = true := by
  simp only [actionable, hstatus, Bool.true_and, Bool.not_eq_true', List.contains_eq_mem,
    decide_eq_false_iff_not]
  intro habandoned
  obtain ⟨r, hr, hhalted⟩ := h.halted t.operation_id habandoned
  rw [stored_once hhalted.stored hmem hr] at hhalted
  exact hnot hhalted

/-- Settlement leaves the loop open exactly when a task of it may still be acted on afterwards. -/
theorem settle_unresolved_open (h : s.StopSound) {p n : String} {state : ExperimentState}
    (hstate : s.states.get? id = some state) (hsome : s.store.unresolved_leaves p n id ≠ []) :
    (s.settle_unresolved state (s.store.unresolved_leaves p n id)).2 = false ↔
      ∃ t ∈ (s.settle_unresolved state
          (s.store.unresolved_leaves p n id)).1.store.unresolved_leaves p n id,
        (s.settle_unresolved state (s.store.unresolved_leaves p n id)).1.actionable t = true := by
  unfold ExperimentStore.settle_unresolved
  dsimp only
  cases habandonable : s.abandonable state (s.store.unresolved_leaves p n id) with
  | true =>
    -- every task that was found is abandoned now
    rw [if_pos rfl]
    refine iff_of_false (by simp) ?_
    rintro ⟨t, ht, hact⟩
    have ht' : t ∈ s.store.unresolved_leaves p n id := by
      rw [← recorded_store (s := s) state (s.store.unresolved_leaves p n id)]
      exact ht
    simp only [actionable, Bool.and_eq_true, Bool.not_eq_true', List.contains_eq_mem,
      decide_eq_false_iff_not] at hact
    refine hact.2 ?_
    unfold EpisodeStore.abandon_recoveries
    by_cases hold : t.operation_id ∈ (s.recorded state
        (s.store.unresolved_leaves p n id)).store.experiment_abandoned
    · exact List.mem_append_left _ hold
    · refine List.mem_append_right _ (List.mem_filter.mpr ⟨List.mem_map.mpr ⟨t, ht', rfl⟩, ?_⟩)
      simpa using hold
  | false =>
    rw [if_neg (by simp)]
    refine iff_of_true rfl ?_
    rw [recorded_store]
    have hrecorded := h.recorded state (s.store.unresolved_leaves p n id)
    rcases Bool.and_eq_false_iff.mp habandonable with hnone | hrunning
    · -- without a diagnostic nothing of the loop was abandoned
      obtain ⟨t, ht⟩ := List.exists_mem_of_ne_nil _ hsome
      obtain ⟨hin, hstatus, -⟩ := mem_unresolved_leaves.mp ht
      obtain ⟨hmem, -, -, -, hctl⟩ := EpisodeStore.mem_loop_tasks.mp hin
      have hsame : s.recorded state (s.store.unresolved_leaves p n id) = s := by
        unfold recorded
        rw [hnone, Bool.and_false, if_neg (by simp)]
      rw [hsame]
      refine ⟨t, ht, actionable_of_not_halted h hmem hstatus ?_⟩
      intro hhalted
      obtain ⟨k, state', hctl', hstate', hdiagnostic⟩ := hhalted.diagnostic
      rw [hctl] at hctl'
      cases hctl'
      rw [hstate] at hstate'
      cases hstate'
      obtain ⟨known, hknown⟩ := Option.isSome_iff_exists.mp hdiagnostic
      unfold settling_diagnostic at hnone
      rw [hknown] at hnone
      cases hnone
    · -- a task that still runs was not abandoned
      obtain ⟨t, ht, hnot⟩ := List.all_eq_false.mp hrunning
      obtain ⟨hin, hstatus, -⟩ := mem_unresolved_leaves.mp ht
      refine ⟨t, ht, actionable_of_not_halted hrecorded ?_ hstatus ?_⟩
      · rw [recorded_store]
        exact (EpisodeStore.mem_loop_tasks.mp hin).1
      · exact fun hhalted => hnot hhalted.status

/-- What settlement of a stopped episode does to its store. -/
theorem settle_of_stopped {state : ExperimentState} (hnode : e.control_node_id = some node)
    (hstop : e.stop_requested_at.isSome = true)
    (hrow : s.experiment_episode_row id = some (e, state)) :
    s.settle_experiment_loop_stop e.project_id node id
      = if (s.store.unresolved_leaves e.project_id node id).isEmpty then (s, true)
        else s.settle_unresolved state (s.store.unresolved_leaves e.project_id node id) := by
  obtain ⟨now, hnow⟩ := Option.isSome_iff_exists.mp hstop
  simp [settle_experiment_loop_stop, hrow, hnode, hnow]

/-- Settlement writes no episode. -/
theorem settle_episodes (p n id : String) :
    (s.settle_experiment_loop_stop p n id).1.store.episodes = s.store.episodes := by
  unfold settle_experiment_loop_stop
  cases s.experiment_episode_row id with
  | none => rfl
  | some row =>
    dsimp only [Option.elim_some]
    split
    · rfl
    split
    · rfl
    unfold settle_unresolved
    dsimp only
    split
    · show (s.recorded _ _).store.episodes = _
      rw [recorded_store]
    · show (s.recorded _ _).store.episodes = _
      rw [recorded_store]

/-- Settlement leaves a stopped loop open exactly when a task of it may still be acted on. -/
theorem settle_open_iff (h : s.StopSound) (hget : s.store.episodes.get? id = some e)
    (hmode : e.mode = .experiment_loop) (hnode : e.control_node_id = some node)
    (hstop : e.stop_requested_at.isSome = true) :
    (s.settle_experiment_loop_stop e.project_id node id).2 = false ↔
      ∃ t ∈ (s.settle_experiment_loop_stop e.project_id node id).1.store.unresolved_leaves
          e.project_id node id,
        (s.settle_experiment_loop_stop e.project_id node id).1.actionable t = true := by
  obtain ⟨state, hrow⟩ := experiment_episode_row_of h hget hmode
  rw [settle_of_stopped hnode hstop hrow]
  by_cases hempty : s.store.unresolved_leaves e.project_id node id = []
  · rw [if_pos (by rw [hempty]; rfl)]
    refine iff_of_false (by simp) ?_
    rintro ⟨t, ht, -⟩
    rw [hempty] at ht
    cases ht
  · rw [if_neg (by simpa using hempty)]
    exact settle_unresolved_open h (experiment_episode_row_eq hrow).1 hempty

end ExperimentStore

/-! ### Stop settlement agrees with the runtime -/

/-- In every run whose operations are used as their callers use them and that never clears the
    diagnostic of an episode whose loop has an abandoned task, an Experiment episode that was asked
    to stop has a runtime, the unresolved tasks that settlement finds hold one that was not
    abandoned exactly when that runtime is active, and settlement leaves the loop open exactly when
    the runtime is active afterwards. -/
theorem stop_settlement_agrees {ops : List StopOp}
    (h : Along ExperimentStore.apply ExperimentStore.orderly {} ops) {id node : String}
    {e : Episode} (hget : (ExperimentStore.run {} ops).store.episodes.get? id = some e)
    (hmode : e.mode = .experiment_loop) (hnode : e.control_node_id = some node)
    (hstop : e.stop_requested_at.isSome = true) (has_watcher : Bool) :
    ∃ r r', (ExperimentStore.run {} ops).derive_experiment_loop_runtime e has_watcher = .ok r
      ∧ ((ExperimentStore.run {} ops).settle_experiment_loop_stop e.project_id node
          id).1.derive_experiment_loop_runtime e has_watcher = .ok r'
      ∧ ((∃ t ∈ (ExperimentStore.run {} ops).store.unresolved_leaves e.project_id node id,
          t.operation_id ∉ (ExperimentStore.run {} ops).store.experiment_abandoned)
        ↔ r.task_active = true)
      ∧ (((ExperimentStore.run {} ops).settle_experiment_loop_stop e.project_id node id).2 = false
        ↔ r'.task_active = true) := by
  have hsound := ExperimentStore.stopSound_run h
  have hafter := hsound.settle e.project_id node id
  have hget' : ((ExperimentStore.run {} ops).settle_experiment_loop_stop e.project_id node
      id).1.store.episodes.get? id = some e := by
    rw [ExperimentStore.settle_episodes]
    exact hget
  obtain ⟨r, hr, hactive⟩ := ExperimentStore.derive_ok hsound.lineage hget hmode has_watcher
  obtain ⟨r', hr', hactive'⟩ := ExperimentStore.derive_ok hafter.lineage hget' hmode has_watcher
  refine ⟨r, r', hr, hr', ?_, ?_⟩
  · rw [hactive, ExperimentStore.active_iff_leaf hsound.lineage hget hnode hstop]
    constructor
    · rintro ⟨t, ht, hnot⟩
      refine ⟨t, ht, ?_⟩
      simp only [ExperimentStore.actionable, (ExperimentStore.mem_unresolved_leaves.mp ht).2.1,
        Bool.true_and, Bool.not_eq_true', List.contains_eq_mem, decide_eq_false_iff_not]
      exact hnot
    · rintro ⟨t, ht, hact⟩
      refine ⟨t, ht, ?_⟩
      simp only [ExperimentStore.actionable, Bool.and_eq_true, Bool.not_eq_true',
        List.contains_eq_mem, decide_eq_false_iff_not] at hact
      exact hact.2
  · rw [hactive', ExperimentStore.active_iff_leaf hafter.lineage hget' hnode hstop]
    exact ExperimentStore.settle_open_iff hsound hget hmode hnode hstop

/-- The task of the second invocation, which a watcher woke. -/
def woken_task : AgentTaskRecord :=
  { EpisodeStore.sample_loop_task with
    operation_id := "u"
    created_at := 1
    request := { EpisodeStore.sample_loop_task.request with
      trigger := .watcher, control_invocation := some 2 } }

/-- `_EXPERIMENT_SESSION_LIMIT_DIAGNOSTIC`. -/
def session_limit : String :=
  "The provider session reached its limit. Retry the same provider to recheck the limit and " ++
    "resume this episode, or switch provider to continue this same episode and invocation."

/-- The first turn of a loop is committed, which binds the session of the episode. The task that a
    watcher woke next fails at the session limit while Stop waits for it, and settlement abandons
    it. -/
def abandoned_run : List StopOp :=
  [.episode (.create_experiment_episode_with_invocation EpisodeStore.sample_loop_task none true),
   .record_context_candidate { operation_id := "t", valid := true },
   .episode (.transition_agent_task "t" .running),
   .commit_experiment_episode_turn "e" "p" "n" "t" 1,
   .episode (.transition_agent_task "t" .succeeded),
   .episode (.create_experiment_watcher_invocation woken_task true),
   .record_context_candidate { operation_id := "u", valid := true },
   .episode (.transition_agent_task "u" .running),
   .episode (.request_episode_stop "e" 2),
   .record_experiment_episode_diagnostic "e" "p" "n" (some session_limit),
   .episode (.transition_agent_task "u" .failed),
   .settle_experiment_loop_stop "p" "n" "e"]

/-- The row of the episode after that run. -/
def stopping_episode : Episode :=
  { episode_id := "e", project_id := "p", mode := .experiment_loop, control_node_id := some "n",
    invocation_ceiling := 3, authorized_by := some "human", root_operation_id := some "t",
    status := .stopping, invocations_used := 2, stop_requested_at := some 2 }

theorem abandoned_loop_settles :
    ∃ r r', (ExperimentStore.run {} abandoned_run).derive_experiment_loop_runtime stopping_episode
        false = .ok r
      ∧ ((ExperimentStore.run {} abandoned_run).settle_experiment_loop_stop "p" "n"
          "e").1.derive_experiment_loop_runtime stopping_episode false = .ok r'
      ∧ ((∃ t ∈ (ExperimentStore.run {} abandoned_run).store.unresolved_leaves "p" "n" "e",
          t.operation_id ∉ (ExperimentStore.run {} abandoned_run).store.experiment_abandoned)
        ↔ r.task_active = true)
      ∧ (((ExperimentStore.run {} abandoned_run).settle_experiment_loop_stop "p" "n" "e").2 = false
        ↔ r'.task_active = true) := by
  have hcreated : ∀ t, (EpisodeOp.create_experiment_episode_with_invocation
      EpisodeStore.sample_loop_task none true).task = some t →
      t = EpisodeStore.sample_loop_task := fun t ht => (Option.some.inj ht).symm
  have hwoken : ∀ t, (EpisodeOp.create_experiment_watcher_invocation woken_task true).task
      = some t → t = woken_task := fun t ht => (Option.some.inj ht).symm
  have horderly : Along ExperimentStore.apply ExperimentStore.orderly {} abandoned_run := by
    refine ⟨⟨?_, ?_⟩, trivial, ⟨?_, ?_⟩, rfl, ⟨?_, ?_⟩, ⟨?_, ?_⟩, trivial, ⟨?_, ?_⟩, ⟨?_, ?_⟩,
      .inl (by decide), ⟨?_, ?_⟩, trivial, trivial⟩
    -- neither admitted task continues another one
    · intro t ht _
      rw [hcreated t ht]
      rfl
    · intro t ht parent_id hparent
      rw [hcreated t ht] at hparent
      cases hparent
    iterate 4 exact fun t ht => by cases ht
    · intro t ht _
      rw [hwoken t ht]
      rfl
    · intro t ht parent_id hparent
      rw [hwoken t ht] at hparent
      cases hparent
    all_goals exact fun t ht => by cases ht
  exact stop_settlement_agrees horderly (by decide +kernel) rfl rfl rfl false

/-- A watcher delivery that was past its preflight clears the diagnostic between the two
    transactions of settlement: it waits for ever for a task that it abandoned itself, while the
    runtime has no active task, before and after. -/
theorem abandoned_loop_left_stopping :
    ¬ ∀ (ops : List StopOp) (id node : String) (e : Episode) (has_watcher : Bool),
      (ExperimentStore.run {} ops).store.episodes.get? id = some e → e.mode = .experiment_loop →
      e.control_node_id = some node → e.stop_requested_at.isSome = true →
      ((ExperimentStore.run {} ops).settle_experiment_loop_stop e.project_id node id).2 = false →
      ∃ r, (ExperimentStore.run {} ops).derive_experiment_loop_runtime e has_watcher = .ok r
        ∧ r.task_active = true := by
  intro h
  obtain ⟨r, hr, hactive⟩ := h
    (abandoned_run ++ [.record_experiment_episode_diagnostic "e" "p" "n" none]) "e" "n"
    stopping_episode false (by decide +kernel) rfl rfl rfl (by decide +kernel)
  have hnow : (((ExperimentStore.run {} (abandoned_run
      ++ [.record_experiment_episode_diagnostic "e" "p" "n" none])).derive_experiment_loop_runtime
        stopping_episode false).toOption.map ExperimentLoopRuntime.task_active)
      = some false := by decide +kernel
  rw [hr] at hnow
  simp only [Except.toOption, Option.map_some, hactive] at hnow
  cases hnow

end ResearchGraph
