import ResearchGraph.Store.EpisodeEndings
import ResearchGraph.Store.EpisodeAdmissions

/-! # Runs of the episode store

    One operation of the episode store is one transaction. A refused operation
    rolls back, so a run goes through every list of operations. The inversion
    lemmas say what the shared statements did when they succeeded.
-/

namespace ResearchGraph

open Lib

/-! ### Operations -/

inductive EpisodeOp
  | request_episode_stop (episode_id : String) (now : Int)
  | fence_episode_ending (episode_id : String) (ending : EpisodeEnding)
      (diagnostic : Option String)
  | guard_auto_research_finish (receipt : FinishReceipt) (diagnostic : Option String)
      (blocked : Bool)
  | begin_episode_wrapup (wrapup : EpisodeWrapup) (task : AgentTaskRecord) (bound : Bool)
  | end_episode_without_report (episode_id : String) (ending : EpisodeEnding)
      (diagnostic : Option String)
  | fail_episode_wrapup_unlaunchable (wrapup : EpisodeWrapup) (ending_diagnostic : Option String)
  | mark_episode_stop_skipped (episode_id : String) (diagnostic : Option String) (now : Int)
  | allocate_episode_report_attempt (episode_id attempt_id : String)
  | mark_episode_report_attempt_running (attempt_id : String)
  | finish_episode_report_attempt_error (attempt_id error : String) (force_final : Bool)
  | finish_episode_report_ready (attempt_id : String) (report : EpisodeReport)
  | requeue_interrupted_episode_report_allocation (episode_id : String)
  | fail_episode_report_allocation_unlaunchable (episode_id diagnostic : String)
  | create_episode (e : Episode)
  | create_episode_with_invocation (e : Episode) (t : AgentTaskRecord) (bound : Bool)
  | allocate_episode_invocation (episode_id : String) (t : AgentTaskRecord) (bound : Bool)
  | create_experiment_episode_with_invocation (t : AgentTaskRecord)
      (route : Option ChildExperiment) (bound : Bool)
  | reserve_experiment_replacement (route : ChildExperiment)
  | cancel_experiment_replacement (child_episode_id : String)
  | create_experiment_watcher_invocation (t : AgentTaskRecord) (bound : Bool)
  | create_experiment_recovery_task (t : AgentTaskRecord) (bound repair : Bool)
  | create_auto_research_episode_with_root_task (e : Episode) (t : AgentTaskRecord)
      (activate bound : Bool)
  | activate_auto_research_reservation (episode_id operation_id : String)
  | create_auto_research_agent_task (t : AgentTaskRecord) (role : AutoResearchRole)
      (bound claimed : Bool)
  | create_auto_research_recovery_task (t : AgentTaskRecord) (bound : Bool)
  | create_auto_research_child_work (w : ChildWork) (t : AgentTaskRecord) (bound : Bool)
  | create_auto_research_child_work_recovery (worker_id : String) (t : AgentTaskRecord)
      (bound : Bool)
  | create_auto_research_child_work_message_wake_task (worker_id : String) (t : AgentTaskRecord)
      (bound claimed : Bool)
  | request_child_work_stop (worker_id : String) (now : Int)
  | create_agent_task (t : AgentTaskRecord) (fresh bound : Bool)
  | create_agent_task_graph_repair (t : AgentTaskRecord) (bound : Bool)
  | create_watcher_notification_task (t : AgentTaskRecord) (bound claimed : Bool)
  | create_branch_merge_task (t : AgentTaskRecord) (bound : Bool)
  | transition_agent_task (operation_id : String) (target : AgentTaskStatus)
  | abandon_auto_research_recovery (operation_id : String)
  | abandon_experiment_recovery (operation_id : String)
  | exit_experiment_loop (operation_id : String)
  | retain_receipts (recovery_abandoned experiment_abandoned loop_exits : List String)
  | release_source_project (project_id : String)

/-- The task an admission inserts. -/
def EpisodeOp.task : EpisodeOp → Option AgentTaskRecord
  | .begin_episode_wrapup _ t _ | .create_episode_with_invocation _ t _
  | .allocate_episode_invocation _ t _ | .create_experiment_episode_with_invocation t _ _
  | .create_experiment_watcher_invocation t _ | .create_experiment_recovery_task t _ _
  | .create_auto_research_episode_with_root_task _ t _ _
  | .create_auto_research_agent_task t _ _ _ | .create_auto_research_recovery_task t _
  | .create_auto_research_child_work _ t _ | .create_auto_research_child_work_recovery _ t _
  | .create_auto_research_child_work_message_wake_task _ t _ _ | .create_agent_task t _ _
  | .create_agent_task_graph_repair t _ | .create_watcher_notification_task t _ _
  | .create_branch_merge_task t _ => some t
  | _ => none

namespace EpisodeStore

variable {s s' : EpisodeStore}

/-- `_transition_agent_task`. -/
def transition_task (s : EpisodeStore) (operation_id : String) (target : AgentTaskStatus) :
    Option EpisodeStore :=
  (s.tasks.get? operation_id).bind fun t =>
    if target.transitions.contains t.status then some (s.set_task_status operation_id target)
    else none

/-- `abandon_auto_research_recovery`. -/
def abandon_recovery (s : EpisodeStore) (operation_id : String) : Option EpisodeStore :=
  if s.tasks.contains operation_id && s.auto_research_invocations.contains operation_id then
    some { s with recovery_abandoned := s.recovery_abandoned ++ [operation_id] }
  else none

/-- What retention leaves of the receipts that admission reads. -/
def retain_receipts (s : EpisodeStore)
    (recovery_abandoned experiment_abandoned loop_exits : List String) : EpisodeStore :=
  { s with
    recovery_abandoned := s.recovery_abandoned.filter recovery_abandoned.contains
    experiment_abandoned := s.experiment_abandoned.filter experiment_abandoned.contains
    loop_exits := s.loop_exits.filter loop_exits.contains }

/-- One transaction; `none` is a refusal. -/
def exec (s : EpisodeStore) : EpisodeOp → Option EpisodeStore
  | .request_episode_stop episode_id now => s.request_episode_stop episode_id now
  | .fence_episode_ending episode_id ending diagnostic =>
    s.fence_episode_ending episode_id ending diagnostic
  | .guard_auto_research_finish receipt diagnostic blocked =>
    s.guard_auto_research_finish receipt diagnostic blocked
  | .begin_episode_wrapup wrapup task bound => s.begin_episode_wrapup wrapup task bound
  | .end_episode_without_report episode_id ending diagnostic =>
    s.end_episode_without_report episode_id ending diagnostic
  | .fail_episode_wrapup_unlaunchable wrapup ending_diagnostic =>
    s.fail_episode_wrapup_unlaunchable wrapup ending_diagnostic
  | .mark_episode_stop_skipped episode_id diagnostic now =>
    s.mark_episode_stop_skipped episode_id diagnostic now
  | .allocate_episode_report_attempt episode_id attempt_id =>
    s.allocate_episode_report_attempt episode_id attempt_id
  | .mark_episode_report_attempt_running attempt_id =>
    s.mark_episode_report_attempt_running attempt_id
  | .finish_episode_report_attempt_error attempt_id error force_final =>
    s.finish_episode_report_attempt_error attempt_id error force_final
  | .finish_episode_report_ready attempt_id report =>
    s.finish_episode_report_ready attempt_id report
  | .requeue_interrupted_episode_report_allocation episode_id =>
    s.requeue_interrupted_episode_report_allocation episode_id
  | .fail_episode_report_allocation_unlaunchable episode_id diagnostic =>
    s.fail_episode_report_allocation_unlaunchable episode_id diagnostic
  | .create_episode e => s.create_episode e
  | .create_episode_with_invocation e t bound => s.create_episode_with_invocation e t bound
  | .allocate_episode_invocation episode_id t bound =>
    s.allocate_episode_invocation episode_id t bound
  | .create_experiment_episode_with_invocation t route bound =>
    s.create_experiment_episode_with_invocation t route bound
  | .reserve_experiment_replacement route => s.reserve_experiment_replacement route
  | .cancel_experiment_replacement child_episode_id =>
    s.cancel_experiment_replacement child_episode_id
  | .create_experiment_watcher_invocation t bound =>
    s.create_experiment_watcher_invocation t bound
  | .create_experiment_recovery_task t bound repair =>
    s.create_experiment_recovery_task t bound repair
  | .create_auto_research_episode_with_root_task e t activate bound =>
    s.create_auto_research_episode_with_root_task e t activate bound
  | .activate_auto_research_reservation episode_id operation_id =>
    s.activate_auto_research_reservation episode_id operation_id
  | .create_auto_research_agent_task t role bound claimed =>
    s.create_auto_research_agent_task t role bound claimed
  | .create_auto_research_recovery_task t bound => s.create_auto_research_recovery_task t bound
  | .create_auto_research_child_work w t bound => s.create_auto_research_child_work w t bound
  | .create_auto_research_child_work_recovery worker_id t bound =>
    s.create_auto_research_child_work_recovery worker_id t bound
  | .create_auto_research_child_work_message_wake_task worker_id t bound claimed =>
    s.create_auto_research_child_work_message_wake_task worker_id t bound claimed
  | .request_child_work_stop worker_id now => s.request_child_work_stop worker_id now
  | .create_agent_task t fresh bound => s.create_agent_task t fresh bound
  | .create_agent_task_graph_repair t bound => s.create_agent_task_graph_repair t bound
  | .create_watcher_notification_task t bound claimed =>
    s.create_watcher_notification_task t bound claimed
  | .create_branch_merge_task t bound => s.create_branch_merge_task t bound
  | .transition_agent_task operation_id target => s.transition_task operation_id target
  | .abandon_auto_research_recovery operation_id => s.abandon_recovery operation_id
  | .abandon_experiment_recovery operation_id =>
    some { s with experiment_abandoned := s.experiment_abandoned ++ [operation_id] }
  | .exit_experiment_loop operation_id =>
    some { s with loop_exits := s.loop_exits ++ [operation_id] }
  | .retain_receipts recovery_abandoned experiment_abandoned loop_exits =>
    some (s.retain_receipts recovery_abandoned experiment_abandoned loop_exits)
  | .release_source_project project_id =>
    some { s with released_projects := s.released_projects ++ [project_id] }

/-- The store after an operation: a refusal leaves it as it was. -/
def apply (s : EpisodeStore) (op : EpisodeOp) : EpisodeStore := (s.exec op).getD s

def run (s : EpisodeStore) (ops : List EpisodeOp) : EpisodeStore := Lib.run apply s ops

/-- An operation either was refused or succeeded. -/
theorem apply_cases (s : EpisodeStore) (op : EpisodeOp) :
    s.apply op = s ∨ s.exec op = some (s.apply op) := by
  unfold apply
  cases h : s.exec op with
  | none => exact .inl rfl
  | some s' => exact .inr rfl

/-! ### What the shared statements did -/

theorem insert_episode_eq {e : Episode} (h : s.insert_episode e = some s') :
    s.episodes.get? e.episode_id = none ∧ s.live_episode_row e = false
      ∧ s' = { s with episodes := s.episodes.put e } := by
  unfold insert_episode at h
  simp only [Option.ite_none_left_eq_some, Bool.not_eq_true, Table.contains_eq_false_iff,
    Option.some.injEq] at h
  exact ⟨h.1, h.2.1, h.2.2.symm⟩

theorem insert_agent_task_eq {t : AgentTaskRecord} {bound repair : Bool}
    (h : s.insert_agent_task t bound repair = some s') :
    s.tasks.get? t.operation_id = none ∧ s.validate_experiment_task_insert t repair = true
      ∧ s.validate_graph_target_insert t = true ∧ s.merge_indexed t = false
      ∧ s' = { s with tasks := s.tasks.put t } := by
  unfold insert_agent_task at h
  simp only [Option.ite_none_left_eq_some, Bool.not_eq_true, Bool.not_eq_false',
    Table.contains_eq_false_iff, Option.some.injEq] at h
  obtain ⟨-, hexp, htarget, hfresh, hmerge, rfl⟩ := h
  exact ⟨hfresh, hexp, htarget, hmerge, rfl⟩

theorem insert_episode_invocation_eq {row : EpisodeInvocation}
    (h : s.insert_episode_invocation row = some s') :
    (∀ r ∈ s.episode_invocations, r.operation_id ≠ row.operation_id
      ∧ ¬ (r.episode_id = row.episode_id ∧ r.invocation_number = row.invocation_number))
      ∧ s' = { s with episode_invocations := s.episode_invocations ++ [row] } := by
  unfold insert_episode_invocation at h
  simp only [Option.ite_none_left_eq_some, Bool.not_eq_true, List.any_eq_false,
    Bool.or_eq_true, decide_eq_true_eq, Bool.and_eq_true, not_or, Option.some.injEq] at h
  exact ⟨h.1, h.2.symm⟩

theorem insert_auto_research_invocation_eq {i : AutoResearchInvocationRecord}
    (h : s.insert_auto_research_invocation i = some s') :
    s.auto_research_invocations.get? i.operation_id = none
      ∧ s' = { s with auto_research_invocations := s.auto_research_invocations.put i } := by
  unfold insert_auto_research_invocation at h
  simp only [Option.ite_none_left_eq_some, Bool.not_eq_true, Table.contains_eq_false_iff,
    Option.some.injEq] at h
  exact ⟨h.1, h.2.symm⟩

/-- The row of the ledger that pays for a task. -/
def paid_row (e : Episode) (t : AgentTaskRecord) : EpisodeInvocation :=
  { episode_id := e.episode_id, operation_id := t.operation_id,
    invocation_number := e.invocations_used + 1 }

/-- A paid admission inserts one task and one row and moves one meter. -/
theorem spend_eq {e : Episode} {t : AgentTaskRecord} {bound : Bool}
    (h : s.spend e t bound = some s') :
    s.tasks.get? t.operation_id = none ∧ s.validate_experiment_task_insert t false = true
      ∧ s.validate_graph_target_insert t = true ∧ s.merge_indexed t = false
      ∧ (∀ r ∈ s.episode_invocations, r.operation_id ≠ t.operation_id)
      ∧ s' = { s with
        tasks := s.tasks.put t
        episode_invocations := s.episode_invocations ++ [paid_row e t]
        episodes := s.episodes.put { e with invocations_used := e.invocations_used + 1 } } := by
  unfold spend at h
  obtain ⟨s₁, h₁, h⟩ := Option.bind_eq_some_iff.mp h
  obtain ⟨s₂, h₂, h⟩ := Option.bind_eq_some_iff.mp h
  obtain ⟨hfresh, hexp, htarget, hmerge, rfl⟩ := insert_agent_task_eq h₁
  obtain ⟨hrow, rfl⟩ := insert_episode_invocation_eq h₂
  refine ⟨hfresh, hexp, htarget, hmerge, fun r hr => (hrow r hr).1, ?_⟩
  exact (Option.some.inj h).symm

/-- A new episode with its first task and row 1. -/
theorem open_episode_eq {e : Episode} {t : AgentTaskRecord} {bound : Bool}
    (h : s.open_episode e t bound = some s') :
    s.episodes.get? e.episode_id = none ∧ s.live_episode_row e = false
      ∧ s.tasks.get? t.operation_id = none
      ∧ { s with episodes := s.episodes.put e }.validate_experiment_task_insert t false = true
      ∧ { s with episodes := s.episodes.put e }.validate_graph_target_insert t = true
      ∧ s.merge_indexed t = false
      ∧ (∀ r ∈ s.episode_invocations, r.operation_id ≠ t.operation_id)
      ∧ s' = { s with
        tasks := s.tasks.put t
        episode_invocations := s.episode_invocations
          ++ [{ episode_id := e.episode_id, operation_id := t.operation_id,
                invocation_number := 1 }]
        episodes := s.episodes.put e } := by
  unfold open_episode at h
  obtain ⟨s₁, h₁, h⟩ := Option.bind_eq_some_iff.mp h
  obtain ⟨s₂, h₂, h⟩ := Option.bind_eq_some_iff.mp h
  obtain ⟨habsent, hlive, rfl⟩ := insert_episode_eq h₁
  obtain ⟨hfresh, hexp, htarget, hmerge, rfl⟩ := insert_agent_task_eq h₂
  obtain ⟨hrow, rfl⟩ := insert_episode_invocation_eq h
  exact ⟨habsent, hlive, hfresh, hexp, htarget, hmerge, fun r hr => (hrow r hr).1, rfl⟩

/-- Closing a route touches no other table. -/
theorem terminalize_child_experiment_eq {id : String}
    (h : s.terminalize_child_experiment id = some s') :
    ∃ routes, s' = { s with child_experiments := routes } := by
  unfold terminalize_child_experiment at h
  split at h
  · exact ⟨s.child_experiments, (Option.some.inj h).symm⟩
  · split at h
    · exact ⟨_, (Option.some.inj h).symm⟩
    · split at h
      · exact ⟨s.child_experiments, (Option.some.inj h).symm⟩
      · cases h

theorem settle_episode_eq {e : Episode} (h : s.settle_episode e = some s') :
    ∃ routes, s' = { s with episodes := s.episodes.put e, child_experiments := routes } := by
  unfold settle_episode at h
  obtain ⟨routes, rfl⟩ := terminalize_child_experiment_eq h
  exact ⟨routes, rfl⟩

theorem activate_child_experiment_eq {route : ChildExperiment}
    (h : s.activate_child_experiment route = some s') :
    s.validate_experiment_route route = true ∧ ∃ r : ChildExperiment,
      r.child_episode_id = route.child_episode_id
      ∧ r.auto_research_episode_id = route.auto_research_episode_id ∧ r.state = .running
      ∧ s' = { s with child_experiments := s.child_experiments.put r } := by
  unfold activate_child_experiment at h
  simp only [Option.ite_none_left_eq_some, Bool.not_eq_true, Bool.not_eq_false'] at h
  refine ⟨h.1, ?_⟩
  have h := h.2
  split at h
  · simp only [Option.ite_none_left_eq_some, ne_eq, Decidable.not_not, Option.some.injEq] at h
    exact ⟨route, rfl, rfl, h.1, h.2.symm⟩
  · rename_i stored hstored
    simp only [Option.ite_none_left_eq_some, ne_eq, Bool.or_eq_true, decide_eq_true_eq, not_or,
      Decidable.not_not, Option.some.injEq] at h
    obtain ⟨⟨-, heq⟩, rfl⟩ := h
    exact ⟨_, by rw [← heq], by rw [← heq], rfl, rfl⟩

theorem open_route_eq {e : Episode} {route : Option ChildExperiment}
    (h : s.open_route e route = some s') :
    ∃ routes, s' = { s with child_experiments := routes } := by
  unfold open_route at h
  split at h
  · exact ⟨s.child_experiments, (Option.some.inj h).symm⟩
  · simp only [Option.ite_none_left_eq_some, Option.bind_eq_some_iff] at h
    obtain ⟨-, -, s₁, h₁, -, h⟩ := h
    obtain ⟨-, r, -, -, -, rfl⟩ := activate_child_experiment_eq h₁
    exact ⟨_, (Option.some.inj h).symm⟩

/-! ### What the admissions did -/

section Admissions

variable {t : AgentTaskRecord} {bound : Bool}

theorem load_auto_research_episode_eq {id : String} {e : Episode}
    (h : s.load_auto_research_episode id = some e) :
    e.episode_id = id ∧ s.episodes.get? e.episode_id = some e ∧ e.mode = .auto_research := by
  obtain ⟨hget, hmode⟩ := Option.filter_eq_some_iff.mp h
  simp only [Bool.and_eq_true, decide_eq_true_eq] at hmode
  have hid : e.episode_id = id := Table.key_of_get? hget
  exact ⟨hid, by rw [hid]; exact hget, hmode.1⟩

theorem create_episode_with_invocation_eq {e : Episode}
    (h : s.create_episode_with_invocation e t bound = some s') :
    s' = s ∨ (validate_new_episode e = true ∧ e.mode ≠ .auto_research
      ∧ root_task_matches e t = true ∧ s.accepts_new_work e.project_id = true
      ∧ s.open_episode (started e t) t bound = some s') := by
  simp only [create_episode_with_invocation, Option.ite_none_left_eq_some, Bool.or_eq_true,
    Bool.not_eq_eq_eq_not, Bool.not_true, not_or, Bool.not_eq_false, decide_eq_true_eq] at h
  obtain ⟨⟨⟨hvalid, hmode⟩, hroot⟩, h⟩ := h
  split at h
  · split at h
    · exact .inl (Option.some.inj h).symm
    · cases h
  · simp only [Option.ite_none_left_eq_some, Bool.not_eq_false] at h
    exact .inr ⟨hvalid, hmode, hroot, h.1, h.2⟩

theorem allocate_episode_invocation_eq {id : String}
    (h : s.allocate_episode_invocation id t bound = some s') :
    s' = s ∨ ∃ e, s.episodes.get? id = some e ∧ t.episode_id = some id
      ∧ t.kind ≠ .episode_report ∧ e.mode ≠ .auto_research ∧ e.status.operational = true
      ∧ e.invocations_used < e.invocation_ceiling
      ∧ s.spend
        { e with
          root_operation_id := some (e.root_operation_id.getD t.operation_id)
          status := .running } t bound = some s' := by
  simp only [allocate_episode_invocation, Option.ite_none_left_eq_some, Bool.or_eq_true,
    decide_eq_true_eq, not_or, ne_eq, Decidable.not_not] at h
  obtain ⟨⟨⟨hkind, -⟩, hid⟩, h⟩ := h
  split at h
  · split at h
    · exact .inl (Option.some.inj h).symm
    · cases h
  obtain ⟨e, hget, h⟩ := Option.bind_eq_some_iff.mp h
  simp only [Option.ite_none_left_eq_some, Bool.not_eq_eq_eq_not, Bool.not_true, not_or,
    Bool.not_eq_false, Nat.not_le] at h
  obtain ⟨⟨⟨⟨hmode, hop⟩, hbelow⟩, -⟩, h⟩ := h
  exact .inr ⟨e, hget, hid, hkind, hmode, hop, hbelow, h⟩

/-- The shape of the first task of an Experiment episode. -/
theorem new_experiment_episode_eq {routed : Bool} {e : Episode}
    (h : new_experiment_episode t routed = some e) :
    t.kind = .node_chat ∧ t.status = .queued ∧ t.parent_operation_id = none
      ∧ t.request.experiment_loop = true ∧ t.episode_id = some e.episode_id
      ∧ e.mode = .experiment_loop ∧ e.project_id = t.project_id
      ∧ e.control_node_id = t.request.control_node_id ∧ e.graph_target = t.graph_target := by
  simp only [new_experiment_episode, Option.bind_eq_some_iff, Option.ite_none_left_eq_some,
    Bool.or_eq_true, Bool.not_eq_eq_eq_not, Bool.not_true, not_or, Bool.not_eq_false,
    decide_eq_true_eq, ne_eq, Decidable.not_not, Bool.not_eq_true, Option.isSome_eq_false_iff,
    Option.isNone_iff_eq_none, Option.some.injEq] at h
  obtain ⟨id, -, ceiling, -,
      ⟨⟨⟨⟨⟨⟨⟨⟨hstatus, -⟩, hkind⟩, hparent⟩, hloop⟩, -⟩, -⟩, hid⟩, -⟩, rfl⟩ := h
  exact ⟨hkind, hstatus, hparent, hloop, hid, rfl, rfl, rfl, rfl⟩

theorem create_experiment_episode_with_invocation_eq {route : Option ChildExperiment}
    (h : s.create_experiment_episode_with_invocation t route bound = some s') :
    ∃ e s₁, new_experiment_episode t route.isSome = some e ∧ validate_new_episode e = true
      ∧ (route = none → s.accepts_new_work t.project_id = true)
      ∧ s.open_route e route = some s₁ ∧ s₁.open_episode (started e t) t bound = some s' := by
  simp only [create_experiment_episode_with_invocation, Option.bind_eq_some_iff,
    Option.ite_none_left_eq_some, Bool.not_eq_true, Bool.not_eq_false'] at h
  obtain ⟨e, hnew, hvalid, haccepts, s₁, hroute, h⟩ := h
  refine ⟨e, s₁, hnew, hvalid, ?_, hroute, h⟩
  rintro rfl
  simpa using haccepts

theorem create_experiment_watcher_invocation_eq
    (h : s.create_experiment_watcher_invocation t bound = some s') :
    s' = s ∨ ∃ e, s.episodes.get? e.episode_id = some e ∧ t.episode_id = some e.episode_id
      ∧ t.parent_operation_id = none ∧ t.request.experiment_loop = true
      ∧ e.mode = .experiment_loop ∧ e.project_id = t.project_id
      ∧ e.control_node_id = t.request.control_node_id ∧ e.graph_target = t.graph_target
      ∧ admits e = true ∧ e.invocations_used < e.invocation_ceiling
      ∧ s.has_active_chat_overlap t = false ∧ s.route_admits e.episode_id = true
      ∧ s.spend e t bound = some s' := by
  simp only [create_experiment_watcher_invocation, Option.bind_eq_some_iff,
    Option.ite_none_left_eq_some, Bool.or_eq_true, Bool.not_eq_eq_eq_not, Bool.not_true, not_or,
    Bool.not_eq_false, decide_eq_true_eq, ne_eq, Decidable.not_not, Bool.not_eq_true,
    Option.isSome_eq_false_iff, Option.isNone_iff_eq_none] at h
  obtain ⟨⟨⟨⟨⟨⟨-, -⟩, hparent⟩, hloop⟩, -⟩, -⟩, e, ⟨id, hid, hget⟩,
    ⟨⟨⟨hmode, hproject⟩, hnode⟩, htarget⟩,
    h⟩ := h
  split at h
  · exact .inl (Option.some.inj h).symm
  rename_i hadmits
  simp only [not_or, Bool.not_eq_false, Bool.not_eq_true] at hadmits
  simp only [Option.ite_none_left_eq_some, Nat.not_le] at h
  obtain ⟨hbelow, -, h⟩ := h
  split at h
  · exact .inl (Option.some.inj h).symm
  rename_i hchat
  simp only [Option.ite_none_left_eq_some, Bool.not_eq_false] at h
  have hkey : e.episode_id = id := Table.key_of_get? hget
  refine .inr ⟨e, by rw [hkey]; exact hget, by rw [hkey]; exact hid, hparent, hloop, hmode,
    hproject, hnode, htarget, hadmits.1, hbelow, by simpa using hchat, h.1, h.2⟩

theorem create_experiment_recovery_task_eq {repair : Bool}
    (h : s.create_experiment_recovery_task t bound repair = some s') :
    ∃ e, s.episodes.get? e.episode_id = some e ∧ t.episode_id = some e.episode_id
      ∧ t.parent_operation_id.isSome = true ∧ e.mode = .experiment_loop
      ∧ e.graph_target = t.graph_target ∧ s.recovery_route_admits e.episode_id = true
      ∧ (e.status = .running ∨ e.status = .stopping) ∧ e.ending = none
      ∧ s.has_active_chat_overlap t = false
      ∧ s.insert_agent_task t bound repair = some s' := by
  simp only [create_experiment_recovery_task, Option.bind_eq_some_iff,
    Option.ite_none_left_eq_some, Bool.or_eq_true, Bool.not_eq_eq_eq_not, Bool.not_true, not_or,
    Bool.not_eq_false, decide_eq_true_eq, ne_eq, Decidable.not_not, Bool.not_eq_true,
    Option.isSome_eq_false_iff, Option.isNone_iff_eq_none] at h
  obtain ⟨-, parent, hparent, e, ⟨id, hid, hget⟩, ⟨⟨⟨hmode, -⟩, htarget⟩, -⟩, hroute,
    ⟨⟨hstatus, hend⟩, -⟩, -, hchat, h⟩ := h
  have hkey : e.episode_id = id := Table.key_of_get? hget
  refine ⟨e, by rw [hkey]; exact hget, by rw [hkey]; exact hid, by rw [hparent]; rfl, hmode,
    htarget, hroute, ?_, hend, hchat, h⟩
  simpa only [Bool.or_eq_true, decide_eq_true_eq] using hstatus

theorem create_auto_research_episode_with_root_task_eq {e : Episode} {activate : Bool}
    (h : s.create_auto_research_episode_with_root_task e t activate bound = some s') :
    validate_new_episode e = true ∧ e.mode = .auto_research ∧ t.episode_id = some e.episode_id
      ∧ t.kind = .auto_research ∧ t.parent_operation_id = none
      ∧ s.accepts_new_work e.project_id = true
      ∧ ∃ s₁ s₂ seat, s.insert_episode (reserved e t activate) = some s₁
        ∧ (s₁.insert_auto_research_state e.episode_id).bind_auto_research_actor
          (reserved e t activate) t .orchestrator none = some seat
        ∧ (s₁.insert_auto_research_state e.episode_id).spend (reserved e t activate) t bound
          = some s₂
        ∧ s₂.insert_auto_research_invocation
          (actor_row (reserved e t activate) t .orchestrator seat t.operation_id) = some s' := by
  simp only [create_auto_research_episode_with_root_task, Option.bind_eq_some_iff,
    Option.ite_none_left_eq_some, Bool.or_eq_true, Bool.not_eq_eq_eq_not, Bool.not_true,
    not_or, Bool.not_eq_false, decide_eq_true_eq, ne_eq, Decidable.not_not, Bool.not_eq_true,
    Option.isSome_eq_false_iff, Option.isNone_iff_eq_none] at h
  obtain ⟨⟨⟨⟨⟨⟨⟨⟨⟨hvalid, hmode⟩, hid⟩, -⟩, hkind⟩, hparent⟩, -⟩, -⟩, -⟩, haccepts, s₁, h₁,
    seat, hseat, s₂, h₂, h⟩ := h
  exact ⟨hvalid, hmode, hid, hkind, hparent, haccepts, s₁, s₂, seat, h₁, hseat, h₂, h⟩

theorem create_auto_research_agent_task_eq {role : AutoResearchRole} {claimed : Bool}
    (h : s.create_auto_research_agent_task t role bound claimed = some s') :
    s' = s ∨ ∃ e s₁ seat, s.episodes.get? e.episode_id = some e ∧ e.mode = .auto_research
      ∧ t.episode_id = some e.episode_id ∧ t.kind = .auto_research ∧ admits e = true
      ∧ e.invocations_used < e.invocation_ceiling
      ∧ s.bind_auto_research_actor e t role none = some seat
      ∧ s.spend e t bound = some s₁
      ∧ s₁.insert_auto_research_invocation (actor_row e t role seat t.operation_id)
        = some s' := by
  simp only [create_auto_research_agent_task, Option.bind_eq_some_iff] at h
  obtain ⟨e, ⟨id, -, hload⟩, h⟩ := h
  split at h
  · exact .inl (Option.some.inj h).symm
  simp only [insert_paid_auto_research_task, Option.bind_eq_some_iff, Option.ite_none_left_eq_some,
    Bool.or_eq_true, Bool.not_eq_eq_eq_not, Bool.not_true, not_or, Bool.not_eq_false,
    decide_eq_true_eq, Nat.not_le, ne_eq, Decidable.not_not] at h
  obtain ⟨⟨⟨⟨⟨⟨hadmits, hbelow⟩, hid⟩, -⟩, hkind⟩, -⟩, seat, hseat, s₁, h₁, h⟩ := h
  obtain ⟨-, hget, hmode⟩ := load_auto_research_episode_eq hload
  exact .inr ⟨e, s₁, seat, hget, hmode, hid, hkind, hadmits, hbelow, hseat, h₁, h⟩

/-- What a task with its actor is. -/
theorem actor_task_eq {episode_id operation_id : String}
    {p : AgentTaskRecord × AutoResearchInvocationRecord}
    (h : s.actor_task episode_id operation_id = some p) :
    s.tasks.get? operation_id = some p.1 ∧ p.1.episode_id = some episode_id
      ∧ s.auto_research_invocations.get? operation_id = some p.2 := by
  simp only [actor_task, Option.bind_eq_some_iff, Option.ite_none_left_eq_some, ne_eq,
    Decidable.not_not, Option.map_eq_some_iff] at h
  obtain ⟨r, hget, hid, i, hi, rfl⟩ := h
  exact ⟨hget, hid, hi⟩

theorem create_auto_research_recovery_task_eq
    (h : s.create_auto_research_recovery_task t bound = some s') :
    ∃ e p s₁ seat parent_id, s.episodes.get? e.episode_id = some e ∧ e.mode = .auto_research
      ∧ t.episode_id = some e.episode_id ∧ t.parent_operation_id = some parent_id
      ∧ s.actor_task e.episode_id parent_id = some p
      ∧ p.1.status.recoverable = true ∧ t.kind = p.1.kind ∧ t.attempt = p.1.attempt + 1
      ∧ (e.status = .running ∨ e.status = .stopping)
      ∧ s.bind_auto_research_actor e t p.2.role (some parent_id) = some seat
      ∧ s.insert_agent_task t bound false = some s₁
      ∧ s₁.insert_auto_research_invocation
        (actor_row e t p.2.role seat p.2.allocation_operation_id) = some s' := by
  simp only [create_auto_research_recovery_task, Option.bind_eq_some_iff,
    Option.ite_none_left_eq_some, Bool.or_eq_true, Bool.not_eq_eq_eq_not, Bool.not_true, not_or,
    Bool.not_eq_false, decide_eq_true_eq, ne_eq, Decidable.not_not] at h
  obtain ⟨e, ⟨id, hid, hload⟩, p, ⟨parent_id, hparent, hp⟩, ⟨⟨⟨⟨hrec, -⟩, hkind⟩, hattempt⟩, -⟩, -,
    hstatus, -, -, -, seat, hseat, s₁, h₁, h⟩ := h
  obtain ⟨hkey, hget, hmode⟩ := load_auto_research_episode_eq hload
  rw [hparent] at hseat
  exact ⟨e, p, s₁, seat, parent_id, hget, hmode, by rw [hkey]; exact hid, hparent, hp, hrec,
    hkind, hattempt, by simpa using hstatus, hseat, h₁, h⟩

theorem create_auto_research_child_work_eq {w : ChildWork}
    (h : s.create_auto_research_child_work w t bound = some s') :
    ∃ e, s.episodes.get? e.episode_id = some e ∧ e.mode = .auto_research
      ∧ t.episode_id = some e.episode_id ∧ t.kind = .node_chat ∧ admits e = true
      ∧ e.invocations_used < e.invocation_ceiling ∧ s.has_active_chat_overlap t = false
      ∧ { s with child_work := s.child_work.put w }.spend e t bound = some s' := by
  simp only [create_auto_research_child_work, Option.bind_eq_some_iff,
    Option.ite_none_left_eq_some, Bool.or_eq_true, Bool.not_eq_eq_eq_not, Bool.not_true, not_or,
    Bool.not_eq_false, decide_eq_true_eq, Nat.not_le, ne_eq, Decidable.not_not,
    Bool.not_eq_true] at h
  obtain ⟨⟨⟨⟨⟨⟨⟨⟨⟨⟨⟨-, -⟩, hid⟩, -⟩, hkind⟩, -⟩, -⟩, -⟩, -⟩, -⟩, -⟩, e, hload,
    ⟨⟨⟨⟨hadmits, -⟩, -⟩, -⟩, hbelow⟩, hchat, -, h⟩ := h
  obtain ⟨hkey, hget, hmode⟩ := load_auto_research_episode_eq hload
  exact ⟨e, hget, hmode, by rw [hkey]; exact hid, hkind, hadmits, hbelow, hchat, h⟩

theorem child_work_continues_eq {w : ChildWork} {e : Episode} {current : AgentTaskRecord}
    (h : child_work_continues w e current t = true) :
    t.kind = .node_chat ∧ t.episode_id = some w.episode_id
      ∧ t.parent_operation_id = some current.operation_id := by
  simp only [child_work_continues, Bool.and_eq_true, decide_eq_true_eq] at h
  obtain ⟨⟨⟨⟨⟨⟨⟨⟨-, -⟩, hkind⟩, -⟩, hid⟩, hparent⟩, -⟩, -⟩, -⟩ := h
  exact ⟨hkind, hid, hparent⟩

theorem create_auto_research_child_work_recovery_eq {worker_id : String}
    (h : s.create_auto_research_child_work_recovery worker_id t bound = some s') :
    ∃ e work, s.episodes.get? e.episode_id = some e ∧ e.mode = .auto_research
      ∧ t.episode_id = some e.episode_id ∧ t.kind = .node_chat
      ∧ t.parent_operation_id.isSome = true ∧ admits e = true
      ∧ s.has_active_chat_overlap t = false
      ∧ { s with child_work := work }.insert_agent_task t bound false = some s' := by
  simp only [create_auto_research_child_work_recovery, Option.bind_eq_some_iff,
    Option.ite_none_left_eq_some, Bool.or_eq_true, Bool.not_eq_eq_eq_not, Bool.not_true, not_or,
    Bool.not_eq_false, Bool.not_eq_true] at h
  obtain ⟨w, -, e, hload, current, -, ⟨⟨hadmits, -⟩, hcontinues⟩, hchat, h⟩ := h
  obtain ⟨hkey, hget, hmode⟩ := load_auto_research_episode_eq hload
  obtain ⟨hkind, hid, hparent⟩ := child_work_continues_eq hcontinues
  exact ⟨e, _, hget, hmode, by rw [hkey]; exact hid, hkind, by rw [hparent]; rfl, hadmits, hchat, h⟩

theorem create_auto_research_child_work_message_wake_task_eq {worker_id : String} {claimed : Bool}
    (h : s.create_auto_research_child_work_message_wake_task worker_id t bound claimed
      = some s') :
    s' = s ∨ ∃ e work, s.episodes.get? e.episode_id = some e ∧ e.mode = .auto_research
      ∧ t.episode_id = some e.episode_id ∧ t.kind = .node_chat ∧ admits e = true
      ∧ e.invocations_used < e.invocation_ceiling ∧ s.has_active_chat_overlap t = false
      ∧ { s with child_work := work }.spend e t bound = some s' := by
  simp only [create_auto_research_child_work_message_wake_task, Option.bind_eq_some_iff,
    Option.ite_none_left_eq_some, Bool.or_eq_true, Bool.not_eq_eq_eq_not, Bool.not_true, not_or,
    Bool.not_eq_false] at h
  obtain ⟨w, -, e, hload, ⟨hadmits, -⟩, h⟩ := h
  split at h
  · exact .inl (Option.some.inj h).symm
  obtain ⟨current, -, h⟩ := Option.bind_eq_some_iff.mp h
  split at h
  · exact .inl (Option.some.inj h).symm
  simp only [Option.ite_none_left_eq_some, not_or, Bool.not_eq_false] at h
  obtain ⟨⟨⟨hcontinues, -⟩, -⟩, h⟩ := h
  split at h
  · exact .inl (Option.some.inj h).symm
  rename_i hchat
  simp only [Option.ite_none_left_eq_some, decide_eq_true_eq, Nat.not_le] at h
  obtain ⟨hkey, hget, hmode⟩ := load_auto_research_episode_eq hload
  obtain ⟨hkind, hid, -⟩ := child_work_continues_eq hcontinues
  exact .inr ⟨e, _, hget, hmode, by rw [hkey]; exact hid, hkind, hadmits, h.1, by simpa using hchat,
    h.2⟩

theorem create_agent_task_eq {fresh : Bool} (h : s.create_agent_task t fresh bound = some s') :
    t.episode_id = none ∧ (fresh = true → s.accepts_new_work t.project_id = true)
      ∧ s.has_active_chat_overlap t = false ∧ s.insert_agent_task t bound false = some s' := by
  simp only [create_agent_task, Option.ite_none_left_eq_some, Bool.or_eq_true, Bool.and_eq_true,
    Bool.not_eq_eq_eq_not, Bool.not_true, not_or, not_and, Bool.not_eq_false, Bool.not_eq_true,
    Option.isSome_eq_false_iff, Option.isNone_iff_eq_none] at h
  exact ⟨h.1.2, h.2.1, h.2.2.1, h.2.2.2⟩

theorem create_agent_task_graph_repair_eq
    (h : s.create_agent_task_graph_repair t bound = some s') :
    t.episode_id = none ∧ s.has_active_chat_overlap t = false
      ∧ s.insert_agent_task t bound false = some s' := by
  simp only [create_agent_task_graph_repair, Option.ite_none_left_eq_some, Bool.or_eq_true,
    Bool.not_eq_eq_eq_not, Bool.not_true, not_or, Bool.not_eq_false, Bool.not_eq_true,
    Option.isSome_eq_false_iff, Option.isNone_iff_eq_none] at h
  obtain ⟨⟨⟨-, hid⟩, -⟩, hchat, h⟩ := h
  exact ⟨hid, hchat, h⟩

theorem create_watcher_notification_task_eq {claimed : Bool}
    (h : s.create_watcher_notification_task t bound claimed = some s') :
    s' = s ∨ (t.kind ≠ .auto_research ∧ s.has_active_chat_overlap t = false
      ∧ s.insert_agent_task t bound false = some s') := by
  simp only [create_watcher_notification_task, Option.ite_none_left_eq_some, Bool.or_eq_true,
    decide_eq_true_eq, not_or] at h
  obtain ⟨⟨-, hkind⟩, h⟩ := h
  split at h
  · exact .inl (Option.some.inj h).symm
  split at h
  · exact .inl (Option.some.inj h).symm
  rename_i hchat
  exact .inr ⟨hkind, by simpa using hchat, h⟩

/-- No task of another kind than a report may still write the branch. -/
def branch_quiet (s : EpisodeStore) (t : AgentTaskRecord) : Prop :=
  ∀ r ∈ s.tasks.items, r.project_id = t.project_id → r.graph_target = t.graph_target →
    r.kind ≠ .branch_merge → r.kind ≠ .episode_report →
    r.status.active = false ∧ r.status ≠ .paused

theorem create_branch_merge_task_eq (h : s.create_branch_merge_task t bound = some s') :
    s' = s ∨ ∃ e, s.episodes.get? e.episode_id = some e ∧ t.episode_id = some e.episode_id
      ∧ t.kind = .branch_merge ∧ e.mode = .auto_research ∧ e.project_id = t.project_id
      ∧ e.graph_target = t.graph_target ∧ e.ending.isSome = true ∧ e.status.live = false
      ∧ t.graph_target ≠ .main ∧ s.accepts_new_work t.project_id = true ∧ s.branch_quiet t
      ∧ s.insert_agent_task t bound false = some s' := by
  simp only [create_branch_merge_task, Option.ite_none_left_eq_some, Bool.or_eq_true,
    decide_eq_true_eq, not_or, ne_eq, Decidable.not_not] at h
  obtain ⟨⟨⟨⟨⟨⟨⟨hkind, -⟩, -⟩, -⟩, -⟩, hmain⟩, -⟩, h⟩ := h
  split at h
  · split at h
    · exact .inl (Option.some.inj h).symm
    · cases h
  simp only [Option.ite_none_left_eq_some, Option.bind_eq_some_iff, Bool.not_eq_eq_eq_not,
    Bool.not_true, Bool.not_eq_false, not_or, Decidable.not_not, Bool.not_eq_true,
    Option.isNone_eq_false_iff, List.any_eq_false, Bool.and_eq_true, decide_eq_true_eq,
    Bool.or_eq_true, not_and, and_imp] at h
  obtain ⟨haccepts, e, ⟨id, hid, hget⟩, ⟨⟨⟨⟨hmode, hproject⟩, htarget⟩, hend⟩, hlive⟩,
    hquiet, h⟩ := h
  have hkey : e.episode_id = id := Table.key_of_get? hget
  refine .inr ⟨e, by rw [hkey]; exact hget, by rw [hkey]; exact hid, hkind, hmode,
    hproject, htarget, hend, hlive, hmain, haccepts, ?_, h⟩
  intro r hr h₁ h₂ h₃ h₄
  exact hquiet r hr h₁ h₂ h₃ h₄

theorem begin_episode_wrapup_eq {wrapup : EpisodeWrapup}
    (h : s.begin_episode_wrapup wrapup t bound = some s') :
    s' = s ∨ ∃ e s₁, s.episodes.get? wrapup.episode_id = some e ∧ wrapup.ending ≠ .stopped
      ∧ t.kind = .episode_report ∧ wrapup.allocation_operation_id = some t.operation_id
      ∧ t.parent_operation_id.isSome = true ∧ e.status.endable = true
      ∧ (e.ending.isSome = true →
        e.ending = some wrapup.ending ∧ e.ending_diagnostic = wrapup.diagnostic)
      ∧ s.insert_agent_task t bound false = some s₁
      ∧ s' = { s₁ with wrapups := s₁.wrapups.put wrapup }.set_episode
        { e with
          status := .wrapping_up, ending := some wrapup.ending,
          ending_diagnostic := wrapup.diagnostic, wrapup_state := .pending,
          wrapup_error := none } := by
  unfold begin_episode_wrapup at h
  simp only [Option.ite_none_left_eq_some, Bool.not_eq_true, Bool.not_eq_false',
    Option.bind_eq_some_iff] at h
  obtain ⟨hvalid, e, hget, hendable, -, h⟩ := h
  simp only [validate_new_wrapup, Bool.and_eq_true, decide_eq_true_eq, ne_eq] at hvalid
  obtain ⟨⟨⟨⟨⟨⟨⟨hne, -⟩, hallocation⟩, hkind⟩, -⟩, hsome⟩, hparent⟩, -⟩ := hvalid
  split at h
  · split at h
    · exact .inl (Option.some.inj h).symm
    · cases h
  simp only [Option.ite_none_left_eq_some, Bool.not_eq_true, Bool.not_eq_false',
    Option.bind_eq_some_iff] at h
  obtain ⟨hagree, -, s₁, h₁, h⟩ := h
  refine .inr ⟨e, s₁, hget, hne, hkind, hallocation, by rw [hparent]; exact hsome, hendable, ?_, h₁,
    (Option.some.inj h).symm⟩
  intro hend
  simpa only [hend, Bool.true_and, Bool.or_eq_false_iff, decide_eq_false_iff_not, ne_eq,
    Decidable.not_not] using hagree

end Admissions

end EpisodeStore

end ResearchGraph
