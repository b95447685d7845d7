import ResearchGraph.Store.EpisodeTasks
import ResearchGraph.Lib.Transaction

/-! # Auto-research actors

    An actor of an Auto-research episode works through one task at a time. A
    paid task finds the actor free; a recovery continues the task its actor
    stopped short at, within the same allocation. Both are read off the tasks,
    their recovery lineage and the abandonment receipts.
-/

namespace ResearchGraph

open Lib

namespace EpisodeStore

variable {s s' : EpisodeStore} {task : Option AgentTaskRecord}

/-! ### The seats an operation leaves alone -/

/-- The seats of the actors. -/
def seats_are (rows : Table AutoResearchInvocationRecord) (s : EpisodeStore) : Prop :=
  s.auto_research_invocations = rows

section Marks

variable {rows : Table AutoResearchInvocationRecord} {ids : List String}

/-- The seats of the actors, and the tasks of loops whose recovery was abandoned. -/
def marks_are (rows : Table AutoResearchInvocationRecord) (ids : List String) (s : EpisodeStore) :
    Prop :=
  s.auto_research_invocations = rows ∧ s.experiment_abandoned = ids

theorem insert_agent_task_marks {t : AgentTaskRecord} {bound repair : Bool}
    (h : s.marks_are rows ids) :
    Ends (marks_are rows ids) (s.insert_agent_task t bound repair) := by
  intro s' h'
  obtain ⟨-, -, -, -, rfl⟩ := insert_agent_task_eq h'
  exact h

theorem spend_marks {e : Episode} {t : AgentTaskRecord} {bound : Bool} (h : s.marks_are rows ids) :
    Ends (marks_are rows ids) (s.spend e t bound) := by
  intro s' h'
  obtain ⟨-, -, -, -, -, rfl⟩ := spend_eq h'
  exact h

theorem open_episode_marks {e : Episode} {t : AgentTaskRecord} {bound : Bool}
    (h : s.marks_are rows ids) : Ends (marks_are rows ids) (s.open_episode e t bound) := by
  intro s' h'
  obtain ⟨-, -, -, -, -, -, -, rfl⟩ := open_episode_eq h'
  exact h

theorem settle_episode_marks {e : Episode} (h : s.marks_are rows ids) :
    Ends (marks_are rows ids) (s.settle_episode e) := by
  intro s' h'
  obtain ⟨routes, rfl⟩ := settle_episode_eq h'
  exact h

theorem close_report_marks {e : Episode} {operation_id error : String} (h : s.marks_are rows ids) :
    Ends (marks_are rows ids) (s.close_report e operation_id error) := by
  unfold close_report
  rw [ends_bind]
  intro x _
  exact settle_episode_marks h

theorem begin_episode_wrapup_marks {wrapup : EpisodeWrapup} {t : AgentTaskRecord} {bound : Bool}
    (h : s.marks_are rows ids) :
    Ends (marks_are rows ids) (s.begin_episode_wrapup wrapup t bound) := by
  intro s' h'
  rcases begin_episode_wrapup_eq h' with rfl | ⟨e, s₁, -, -, -, -, -, -, -, h₁, rfl⟩
  · exact h
  · exact insert_agent_task_marks h s₁ h₁

theorem finish_episode_report_attempt_error_marks {attempt_id error : String} {final : Bool}
    (h : s.marks_are rows ids) :
    Ends (marks_are rows ids) (s.finish_episode_report_attempt_error attempt_id error final) := by
  have hset : ∀ p status, (s.set_attempts p status).marks_are rows ids := fun _ _ => h
  have hpending : ∀ p status id e, (((s.set_attempts p status).set_wrapup_state id
      .pending).set_episode e).marks_are rows ids := fun _ _ _ _ => h
  simp [finish_episode_report_attempt_error, close_report_marks (hset _ _), hpending]

theorem finish_episode_report_ready_marks {attempt_id : String} {report : EpisodeReport}
    (h : s.marks_are rows ids) :
    Ends (marks_are rows ids) (s.finish_episode_report_ready attempt_id report) := by
  simp only [finish_episode_report_ready, ends_bind, ends_ite, ends_none, ends_some]
  intro a _ e _ w _
  refine ⟨by simp, fun _ =>
    ⟨by simp, fun _ => ⟨by simp [h], fun _ => ⟨by simp, fun _ => ?_⟩⟩⟩⟩
  exact settle_episode_marks h

theorem requeue_interrupted_episode_report_allocation_marks {id : String}
    (h : s.marks_are rows ids) :
    Ends (marks_are rows ids) (s.requeue_interrupted_episode_report_allocation id) := by
  have hset : ∀ p status, (s.set_attempts p status).marks_are rows ids := fun _ _ => h
  have hpending : ∀ p status id e id', ((((s.set_attempts p status).set_task_status id
      .queued).set_wrapup id' .pending none).set_episode e).marks_are rows ids :=
    fun _ _ _ _ _ => h
  simp [requeue_interrupted_episode_report_allocation, requeue_report,
    close_report_marks (hset _ _), hpending, h]

theorem fail_episode_report_allocation_unlaunchable_marks {id diagnostic : String}
    (h : s.marks_are rows ids) :
    Ends (marks_are rows ids) (s.fail_episode_report_allocation_unlaunchable id diagnostic) := by
  have hset : ∀ p status, (s.set_attempts p status).marks_are rows ids := fun _ _ => h
  simp [fail_episode_report_allocation_unlaunchable, close_report_marks (hset _ _), h]

end Marks

/-- The operations that seat a task of an actor. -/
def seats : EpisodeOp → Bool
  | .create_auto_research_episode_with_root_task .. | .create_auto_research_agent_task ..
  | .create_auto_research_recovery_task .. => true
  | _ => false

/-- The operations that seat a task the episode pays for. -/
def pays_actor : EpisodeOp → Bool
  | .create_auto_research_episode_with_root_task .. | .create_auto_research_agent_task .. => true
  | _ => false

/-- The operations that write or prune the receipts of an abandoned loop. -/
def marks_abandoned : EpisodeOp → Bool
  | .abandon_experiment_recovery .. | .retain_receipts .. => true
  | _ => false

theorem exec_marks {op : EpisodeOp} (hop : seats op = false) (hmarks : marks_abandoned op = false) :
    Ends (marks_are s.auto_research_invocations s.experiment_abandoned) (s.exec op) := by
  have hself : s.marks_are s.auto_research_invocations s.experiment_abandoned := ⟨rfl, rfl⟩
  cases op with
  -- what ends or reports an episode
  | request_episode_stop => simp [exec, request_episode_stop, marks_are, set_episode]
  | fence_episode_ending => simp [exec, fence_episode_ending, marks_are, set_episode]
  | guard_auto_research_finish =>
    simp [exec, guard_auto_research_finish, fence_finish, marks_are, set_episode]
  | begin_episode_wrapup => exact begin_episode_wrapup_marks hself
  | end_episode_without_report =>
    simp [exec, end_episode_without_report, hself, settle_episode_marks hself]
  | fail_episode_wrapup_unlaunchable wrapup =>
    have hput : { s with wrapups := s.wrapups.put wrapup }.marks_are
      s.auto_research_invocations s.experiment_abandoned := ⟨rfl, rfl⟩
    simp [exec, fail_episode_wrapup_unlaunchable, hself, settle_episode_marks hput]
  | mark_episode_stop_skipped id diagnostic now =>
    have hput : ∀ w, { s with wrapups := s.wrapups.put w }.marks_are
      s.auto_research_invocations s.experiment_abandoned := fun _ => ⟨rfl, rfl⟩
    simp [exec, mark_episode_stop_skipped, hself, settle_episode_marks (hput _)]
  | allocate_episode_report_attempt =>
    simp [exec, allocate_episode_report_attempt, marks_are, set_episode]
  | mark_episode_report_attempt_running =>
    simp [exec, mark_episode_report_attempt_running, marks_are, set_task_status, set_attempts]
  | finish_episode_report_attempt_error =>
    exact finish_episode_report_attempt_error_marks hself
  | finish_episode_report_ready => exact finish_episode_report_ready_marks hself
  | requeue_interrupted_episode_report_allocation =>
    exact requeue_interrupted_episode_report_allocation_marks hself
  | fail_episode_report_allocation_unlaunchable =>
    exact fail_episode_report_allocation_unlaunchable_marks hself
  -- what admits a task of an Experiment episode
  | create_episode => simp [exec, create_episode, insert_episode, marks_are]
  | create_episode_with_invocation =>
    intro s' h
    rcases create_episode_with_invocation_eq h with rfl | ⟨-, -, -, -, h⟩
    · exact hself
    · exact open_episode_marks hself s' h
  | allocate_episode_invocation =>
    intro s' h
    rcases allocate_episode_invocation_eq h with rfl | ⟨e, -, -, -, -, -, -, h⟩
    · exact hself
    · exact spend_marks hself s' h
  | create_experiment_episode_with_invocation =>
    intro s' h
    obtain ⟨e, s₁, -, -, -, hroute, h⟩ := create_experiment_episode_with_invocation_eq h
    obtain ⟨routes, rfl⟩ := open_route_eq hroute
    exact open_episode_marks (by exact ⟨rfl, rfl⟩) s' h
  | reserve_experiment_replacement => simp [exec, reserve_experiment_replacement, marks_are]
  | cancel_experiment_replacement => simp [exec, cancel_experiment_replacement, marks_are]
  | create_experiment_watcher_invocation =>
    intro s' h
    rcases create_experiment_watcher_invocation_eq h with
      rfl | ⟨e, -, -, -, -, -, -, -, -, -, -, -, -, h⟩
    · exact hself
    · exact spend_marks hself s' h
  | create_experiment_recovery_task =>
    intro s' h
    obtain ⟨e, -, -, -, -, -, -, -, -, -, h⟩ := create_experiment_recovery_task_eq h
    exact insert_agent_task_marks hself s' h
  -- what admits a task of an Auto-Research episode
  | create_auto_research_episode_with_root_task => cases hop
  | activate_auto_research_reservation =>
    simp [exec, activate_auto_research_reservation, marks_are, set_episode]
  | create_auto_research_agent_task => cases hop
  | create_auto_research_recovery_task => cases hop
  | create_auto_research_child_work =>
    intro s' h
    obtain ⟨e, -, -, -, -, -, -, -, h⟩ := create_auto_research_child_work_eq h
    exact spend_marks (by exact ⟨rfl, rfl⟩) s' h
  | create_auto_research_child_work_recovery =>
    intro s' h
    obtain ⟨e, work, -, -, -, -, -, -, -, h⟩ := create_auto_research_child_work_recovery_eq h
    exact insert_agent_task_marks (by exact ⟨rfl, rfl⟩) s' h
  | create_auto_research_child_work_message_wake_task =>
    intro s' h
    rcases create_auto_research_child_work_message_wake_task_eq h with
      rfl | ⟨e, work, -, -, -, -, -, -, -, h⟩
    · exact hself
    · exact spend_marks (by exact ⟨rfl, rfl⟩) s' h
  | request_child_work_stop => simp [exec, request_child_work_stop, marks_are]
  -- what admits any other task, and the scheduler
  | create_agent_task =>
    exact fun s' h => insert_agent_task_marks hself s' (create_agent_task_eq h).2.2.2
  | create_agent_task_graph_repair =>
    exact fun s' h => insert_agent_task_marks hself s' (create_agent_task_graph_repair_eq h).2.2
  | create_watcher_notification_task =>
    intro s' h
    rcases create_watcher_notification_task_eq h with rfl | ⟨-, -, h⟩
    · exact hself
    · exact insert_agent_task_marks hself s' h
  | create_branch_merge_task =>
    intro s' h
    rcases create_branch_merge_task_eq h with rfl | ⟨e, -, -, -, -, -, -, -, -, -, -, -, h⟩
    · exact hself
    · exact insert_agent_task_marks hself s' h
  | transition_agent_task => simp [exec, transition_task, marks_are, set_task_status]
  | abandon_auto_research_recovery => simp [exec, abandon_recovery, marks_are]
  | abandon_experiment_recovery => cases hmarks
  | exit_experiment_loop => simp [exec, marks_are]
  | retain_receipts => cases hmarks
  | release_source_project => simp [exec, marks_are]

theorem exec_seats {op : EpisodeOp} (hop : seats op = false) :
    Ends (seats_are s.auto_research_invocations) (s.exec op) := by
  intro s' h
  cases hmarks : marks_abandoned op with
  | false => exact (exec_marks hop hmarks s' h).1
  | true =>
    cases op with
    | abandon_experiment_recovery => cases h; rfl
    | retain_receipts => cases h; rfl
    | _ => cases hmarks

/-- Only an abandonment or retention touches the receipts of abandoned loops. -/
theorem exec_abandoned {op : EpisodeOp} (hmarks : marks_abandoned op = false)
    (h : s.exec op = some s') : s'.experiment_abandoned = s.experiment_abandoned := by
  cases hop : seats op with
  | false => exact (exec_marks hop hmarks s' h).2
  | true =>
    cases op with
    | create_auto_research_episode_with_root_task e t activate bound =>
      obtain ⟨-, -, -, -, -, -, s₁, s₂, seat, h₁, -, h₂, h⟩ :=
        create_auto_research_episode_with_root_task_eq h
      obtain ⟨-, -, rfl⟩ := insert_episode_eq h₁
      obtain ⟨-, -, -, -, -, rfl⟩ := spend_eq h₂
      obtain ⟨-, rfl⟩ := insert_auto_research_invocation_eq h
      rfl
    | create_auto_research_agent_task t role bound claimed =>
      rcases create_auto_research_agent_task_eq h with
        rfl | ⟨e, s₁, seat, -, -, -, -, -, -, -, h₁, h⟩
      · rfl
      · obtain ⟨-, -, -, -, -, rfl⟩ := spend_eq h₁
        obtain ⟨-, rfl⟩ := insert_auto_research_invocation_eq h
        rfl
    | create_auto_research_recovery_task t bound =>
      obtain ⟨e, p, s₁, seat, parent_id, -, -, -, -, -, -, -, -, -, -, h₁, h⟩ :=
        create_auto_research_recovery_task_eq h
      obtain ⟨-, -, -, -, rfl⟩ := insert_agent_task_eq h₁
      obtain ⟨-, rfl⟩ := insert_auto_research_invocation_eq h
      rfl
    | _ => cases hop

/-! ### Seats -/

/-- A stored task with the row that seats it. -/
structure Seated (s : EpisodeStore) (t : AgentTaskRecord) (i : AutoResearchInvocationRecord) :
    Prop where
  task : s.tasks.get? t.operation_id = some t
  row : s.auto_research_invocations.get? t.operation_id = some i

/-- Two seats of one actor of one episode. -/
def SameActor (i j : AutoResearchInvocationRecord) : Prop :=
  i.episode_id = j.episode_id ∧ i.actor_operation_id = j.actor_operation_id

/-- What a seat is bound to: a free actor, and a parent of the same actor unless the task founds
    the actor. -/
theorem bind_auto_research_actor_eq {e : Episode} {t : AgentTaskRecord} {role : AutoResearchRole}
    {continued : Option String} {seat : String × Option String}
    (h : s.bind_auto_research_actor e t role continued = some seat) :
    s.actor_busy e.episode_id seat.1 continued = false
      ∧ (t.parent_operation_id = none ∨ ∃ parent_id p, t.parent_operation_id = some parent_id
        ∧ s.actor_task e.episode_id parent_id = some p
        ∧ (p.2.role ≠ role ∨ p.2.actor_operation_id = seat.1)) := by
  simp only [bind_auto_research_actor, Option.bind_eq_some_iff, Option.ite_none_left_eq_some,
    Bool.not_eq_true, Option.some.injEq] at h
  obtain ⟨seat', hseat, -, -, hfree, rfl⟩ := h
  refine ⟨hfree, ?_⟩
  simp only [bind_actor, Option.ite_none_left_eq_some] at hseat
  have hseat := hseat.2
  split at hseat
  · rename_i hroot
    simp only [Bool.and_eq_true, decide_eq_true_eq, Option.isNone_iff_eq_none] at hroot
    exact .inl hroot.2
  simp only [bind_continuation, Option.bind_eq_some_iff] at hseat
  obtain ⟨p, ⟨parent_id, hparent, hp⟩, actor, -, hseat⟩ := hseat
  refine .inr ⟨parent_id, p, hparent, hp, ?_⟩
  split at hseat
  · -- the task founds a worker, which only the orchestrator may do
    simp only [Option.ite_none_left_eq_some, Bool.or_eq_true, decide_eq_true_eq, not_or, ne_eq,
      Decidable.not_not] at hseat
    obtain ⟨⟨⟨hrole, hparent⟩, -⟩, -⟩ := hseat
    left
    rw [hrole, hparent]
    decide
  · simp only [Option.bind_eq_some_iff, Option.ite_none_left_eq_some, Bool.or_eq_true,
      decide_eq_true_eq, not_or, ne_eq, Decidable.not_not, Option.some.injEq] at hseat
    obtain ⟨a, -, ⟨⟨-, hactor⟩, -⟩, rfl⟩ := hseat
    exact .inr hactor

/-- Whether an actor is busy depends on tasks, seats and abandonment receipts. -/
theorem actor_busy_congr {episode_id actor : String} {continued : Option String}
    (ht : s'.tasks = s.tasks) (hr : s'.auto_research_invocations = s.auto_research_invocations)
    (ha : s'.recovery_abandoned = s.recovery_abandoned) :
    s'.actor_busy episode_id actor continued = s.actor_busy episode_id actor continued := by
  unfold actor_busy actor_unresolved actor_child
  rw [ht, hr, ha]

/-- The effect of an operation on the seats. A paid task finds its actor free. A recovery
    continues a task of its actor, within the same allocation. -/
inductive ActorStep (op : EpisodeOp) (s s' : EpisodeStore) : Prop
  | same (hrows : s'.auto_research_invocations = s.auto_research_invocations)
  | seated (t : AgentTaskRecord) (i : AutoResearchInvocationRecord) (continued : Option String)
      (htask : op.task = some t) (hi : i.operation_id = t.operation_id)
      (hid : t.episode_id = some i.episode_id) (hnew : s.tasks.get? t.operation_id = none)
      (hpaid : pays_actor op = true → continued = none)
      (hfree : s.actor_busy i.episode_id i.actor_operation_id continued = false)
      (hparent : ∀ parent_id, t.parent_operation_id = some parent_id →
        (s.tasks.get? parent_id).isSome = true)
      (horigin : (continued = none ∧ t.kind = .auto_research)
        ∨ ∃ p j, s.Seated p j ∧ continued = some p.operation_id
          ∧ t.parent_operation_id = some p.operation_id ∧ p.status.recoverable = true
          ∧ p.episode_id = some i.episode_id ∧ j.actor_operation_id = i.actor_operation_id
          ∧ j.allocation_operation_id = i.allocation_operation_id ∧ t.kind = p.kind)
      (ht : s'.tasks = s.tasks.put t)
      (hrows : s'.auto_research_invocations = s.auto_research_invocations.put i)

theorem seated_of_actor_task {episode_id parent_id : String}
    {p : AgentTaskRecord × AutoResearchInvocationRecord}
    (h : s.actor_task episode_id parent_id = some p) :
    s.Seated p.1 p.2 ∧ p.1.operation_id = parent_id ∧ p.1.episode_id = some episode_id := by
  obtain ⟨hget, hid, hrow⟩ := actor_task_eq h
  have hkey : p.1.operation_id = parent_id := Table.key_of_get? hget
  exact ⟨⟨by rw [hkey]; exact hget, by rw [hkey]; exact hrow⟩, hkey, hid⟩

/-- The parent of a task that took a seat is stored. -/
theorem parent_stored {e : Episode} {t : AgentTaskRecord} {role : AutoResearchRole}
    {seat : String × Option String}
    (h : t.parent_operation_id = none ∨ ∃ parent_id p, t.parent_operation_id = some parent_id
        ∧ s.actor_task e.episode_id parent_id = some p
        ∧ (p.2.role ≠ role ∨ p.2.actor_operation_id = seat.1)) :
    ∀ parent_id, t.parent_operation_id = some parent_id →
      (s.tasks.get? parent_id).isSome = true := by
  intro parent_id hparent
  rcases h with hnone | ⟨parent_id', p, hparent', hp, -⟩
  · rw [hparent] at hnone
    cases hnone
  · rw [hparent] at hparent'
    cases hparent'
    rw [(actor_task_eq hp).1]
    rfl

theorem exec_actor_step {op : EpisodeOp} (h : s.exec op = some s') : ActorStep op s s' := by
  by_cases hop : seats op = false
  · exact .same (exec_seats hop s' h)
  cases op with
  | create_auto_research_episode_with_root_task e t activate bound =>
    obtain ⟨-, -, hid, hkind, hnone, -, s₁, s₂, seat, h₁, hseat, h₂, h⟩ :=
      create_auto_research_episode_with_root_task_eq h
    obtain ⟨-, -, rfl⟩ := insert_episode_eq h₁
    obtain ⟨hnew, -, -, -, -, rfl⟩ := spend_eq h₂
    obtain ⟨-, rfl⟩ := insert_auto_research_invocation_eq h
    obtain ⟨hfree, -⟩ := bind_auto_research_actor_eq hseat
    refine .seated t (actor_row (reserved e t activate) t .orchestrator seat t.operation_id) none
      rfl rfl hid hnew (fun _ => rfl) ((actor_busy_congr (s := s) rfl rfl rfl).symm.trans hfree) ?_
      (.inl ⟨rfl, hkind⟩) rfl rfl
    intro parent_id hparent
    rw [hnone] at hparent
    cases hparent
  | create_auto_research_agent_task t role bound claimed =>
    rcases create_auto_research_agent_task_eq h with
      rfl | ⟨e, s₁, seat, -, -, hid, hkind, -, -, hseat, h₁, h⟩
    · exact .same rfl
    obtain ⟨hnew, -, -, -, -, rfl⟩ := spend_eq h₁
    obtain ⟨-, rfl⟩ := insert_auto_research_invocation_eq h
    obtain ⟨hfree, hparent⟩ := bind_auto_research_actor_eq hseat
    exact .seated t _ none rfl rfl hid hnew (fun _ => rfl) hfree (parent_stored hparent)
      (.inl ⟨rfl, hkind⟩) rfl rfl
  | create_auto_research_recovery_task t bound =>
    obtain ⟨e, p, s₁, seat, parent_id, -, -, hid, hparent, hp, hrec, hkind, -, -, hseat, h₁, h⟩ :=
      create_auto_research_recovery_task_eq h
    obtain ⟨hnew, -, -, -, rfl⟩ := insert_agent_task_eq h₁
    obtain ⟨-, rfl⟩ := insert_auto_research_invocation_eq h
    obtain ⟨hfree, hbound⟩ := bind_auto_research_actor_eq hseat
    obtain ⟨hseated, hkey, hepisode⟩ := seated_of_actor_task hp
    refine .seated t _ (some parent_id) rfl rfl hid hnew (by intro h; cases h) hfree
      (parent_stored hbound) (.inr ?_) rfl rfl
    refine ⟨p.1, p.2, hseated, by rw [hkey], by rw [hparent, hkey], hrec, hepisode, ?_, rfl, hkind⟩
    -- the role is the one of the parent, so the recovery founds no actor
    rcases hbound with hnone | ⟨parent_id', p', hparent', hp', hactor⟩
    · rw [hparent] at hnone
      cases hnone
    · rw [hparent] at hparent'
      cases hparent'
      rw [hp] at hp'
      cases hp'
      exact hactor.resolve_left (fun hne => hne rfl)
  | _ => exact absurd rfl hop

/-! ### One live task an actor -/

section Sound

-- `A` says of a task that its recovery was abandoned at some time.
variable {A : String → Prop}

/-- The next attempt of a task by the same actor. -/
def Continues (s : EpisodeStore) (t : AgentTaskRecord) (i : AutoResearchInvocationRecord)
    (child : AgentTaskRecord) : Prop :=
  child.parent_operation_id = some t.operation_id ∧ child.episode_id = t.episode_id
    ∧ child.attempt = t.attempt + 1
    ∧ ∃ j, s.Seated child j ∧ j.actor_operation_id = i.actor_operation_id

/-- A recovery of the task within its allocation. -/
def Recovered (s : EpisodeStore) (t : AgentTaskRecord) (i : AutoResearchInvocationRecord) : Prop :=
  ∃ child j, s.Seated child j ∧ child.parent_operation_id = some t.operation_id
    ∧ j.allocation_operation_id = i.allocation_operation_id

/-- The seats are of tasks of the episode, at most one of an actor is live, and a task that its
    actor went on from was settled: it succeeded, was abandoned, or was recovered. -/
structure ActorsSound (A : String → Prop) (s : EpisodeStore) : Prop where
  bound : ∀ id i, s.auto_research_invocations.get? id = some i →
    ∃ t, s.tasks.get? id = some t ∧ t.kind = .auto_research ∧ t.episode_id = some i.episode_id
      ∧ ∀ parent_id, t.parent_operation_id = some parent_id →
        (s.tasks.get? parent_id).isSome = true
  exclusive : ∀ t u i j, s.Seated t i → s.Seated u j → SameActor i j →
    t.status.active = true → u.status.active = true → t.operation_id = u.operation_id
  continued : ∀ t i child, s.Seated t i → s.Continues t i child →
    t.status.active = false ∧ (t.status = .succeeded ∨ A t.operation_id ∨ s.Recovered t i)

theorem actorsSound_empty : ActorsSound A {} where
  bound := by
    intro id i h
    cases h
  exclusive := by
    intro t u i j h
    cases h.task
  continued := by
    intro t i child h
    cases h.task

theorem ActorsSound.seated_kind (h : s.ActorsSound A) {t : AgentTaskRecord}
    {i : AutoResearchInvocationRecord} (ht : s.Seated t i) :
    t.kind = .auto_research ∧ t.episode_id = some i.episode_id := by
  obtain ⟨t', hget, hkind, hid, -⟩ := h.bound _ i ht.row
  rw [ht.task] at hget
  cases hget
  exact ⟨hkind, hid⟩

/-- What the busy query finds no row for: a task of the actor that its actor did not go on from is
    settled, unless it is the one to be continued. -/
theorem settled_of_free {t : AgentTaskRecord} {i : AutoResearchInvocationRecord}
    {episode_id actor : String} {continued : Option String}
    (hfree : s.actor_busy episode_id actor continued = false) (ht : s.Seated t i)
    (he : i.episode_id = episode_id) (ha : i.actor_operation_id = actor)
    (hchild : ¬ ∃ child, s.Continues t i child) :
    t.status.active = false ∧ (t.status = .succeeded ∨ continued = some t.operation_id
      ∨ t.operation_id ∈ s.recovery_abandoned) := by
  have hno : s.actor_child i t = false := by
    by_contra hc
    simp only [actor_child, Bool.not_eq_false, List.any_eq_true, Bool.and_eq_true,
      decide_eq_true_eq, Option.any_eq_true] at hc
    obtain ⟨child, hmem, ⟨⟨hp, hid⟩, hattempt⟩, j, hrow, hactor⟩ := hc
    exact hchild ⟨child, hp, hid, hattempt, j, ⟨Table.mem_items_iff.mp hmem, hrow⟩, hactor⟩
  have hnot := List.any_eq_false.mp hfree t (Table.mem_items_iff.mpr ht.task)
  simp only [actor_unresolved, ht.row, Option.any_some, he, ha, hno, decide_true, Bool.true_and,
    Bool.not_false, Bool.and_true, Bool.or_eq_true, Bool.and_eq_true, not_or, not_and,
    decide_eq_true_eq, Bool.not_eq_true, Bool.not_eq_false', List.contains_iff_mem] at hnot
  refine ⟨hnot.1, ?_⟩
  by_cases hcontinued : continued = some t.operation_id
  · exact .inr (.inl hcontinued)
  cases hstatus : t.status with
  | succeeded => exact .inl rfl
  | paused | failed | interrupted =>
    right; right
    simpa using hnot.2 ⟨by rw [hstatus]; rfl, hcontinued⟩
  | queued | running | pausing =>
    have := hnot.1
    rw [hstatus] at this
    cases this

/-- A free actor has no live task. -/
theorem ActorsSound.idle_of_free (h : s.ActorsSound A) {t : AgentTaskRecord}
    {i : AutoResearchInvocationRecord} {episode_id actor : String} {continued : Option String}
    (hfree : s.actor_busy episode_id actor continued = false) (ht : s.Seated t i)
    (he : i.episode_id = episode_id) (ha : i.actor_operation_id = actor) :
    t.status.active = false := by
  by_cases hchild : ∃ child, s.Continues t i child
  · obtain ⟨child, hchild⟩ := hchild
    exact (h.continued t i child ht hchild).1
  · exact (settled_of_free hfree ht he ha hchild).1

/-- A seated task of a later store, when the seats did not change. -/
theorem ActorsSound.old_seat (h : s.ActorsSound A) (htask : TaskStep task s s')
    (hreports : s.ReportsBound) (hrows : s'.auto_research_invocations = s.auto_research_invocations)
    {t' : AgentTaskRecord} {i : AutoResearchInvocationRecord} (ht : s'.Seated t' i) :
    ∃ t, s.Seated t i ∧ (t' = t ∨ ∃ status, t' = { t with status := status }
      ∧ t.status.active = true) := by
  have hrow := ht.row
  rw [hrows] at hrow
  obtain ⟨t, hget, hkind, -⟩ := h.bound _ i hrow
  have hkey : t.operation_id = t'.operation_id := Table.key_of_get? hget
  refine ⟨t, ⟨by rw [hkey]; exact hget, by rw [hkey]; exact hrow⟩, ?_⟩
  rcases htask.old_task hreports ht.task with ⟨-, hnone, -⟩ | ⟨r, hr, hr'⟩
  · rw [hget] at hnone
    cases hnone
  rw [hget] at hr
  cases hr
  rcases hr' with rfl | ⟨status, rfl, hreport | hactive⟩
  · exact .inl rfl
  · rw [hkind] at hreport
    cases hreport
  · exact .inr ⟨status, rfl, hactive⟩

/-- A seat stays, whatever happens to the status of its task. -/
theorem TaskStep.seated (htask : TaskStep task s s') {t : AgentTaskRecord}
    {i : AutoResearchInvocationRecord} (ht : s.Seated t i)
    (hrow : s'.auto_research_invocations.get? t.operation_id = some i) :
    ∃ status, s'.Seated { t with status := status } i := by
  obtain ⟨status, hget⟩ := htask.get?_of_get? ht.task
  exact ⟨status, hget, hrow⟩

theorem Recovered.step (htask : TaskStep task s s')
    (hrows : ∀ id i, s.auto_research_invocations.get? id = some i →
      s'.auto_research_invocations.get? id = some i)
    {t : AgentTaskRecord} {i : AutoResearchInvocationRecord} (h : s.Recovered t i) :
    s'.Recovered t i := by
  obtain ⟨child, j, hseat, hparent, hallocation⟩ := h
  obtain ⟨status, hseat'⟩ := htask.seated hseat (hrows _ j hseat.row)
  exact ⟨_, j, hseat', hparent, hallocation⟩

/-- An operation that seats nobody. -/
theorem ActorsSound.unseated (h : s.ActorsSound A) (htask : TaskStep task s s')
    (hreports : s.ReportsBound)
    (hrows : s'.auto_research_invocations = s.auto_research_invocations) : s'.ActorsSound A where
  bound := by
    intro id i hrow
    rw [hrows] at hrow
    obtain ⟨t, hget, hkind, hid, hparent⟩ := h.bound id i hrow
    obtain ⟨status, hget'⟩ := htask.get?_of_get? hget
    refine ⟨_, hget', hkind, hid, ?_⟩
    intro parent_id hp
    obtain ⟨p, hp'⟩ := Option.isSome_iff_exists.mp (hparent parent_id hp)
    obtain ⟨status', hp''⟩ := htask.get?_of_get? hp'
    rw [hp'']
    rfl
  exclusive := by
    intro t' u' i j ht hu hsame hactive hactive'
    -- a status is only left while the task is live, so both tasks were live before
    obtain ⟨t, hseat, ht'⟩ := h.old_seat htask hreports hrows ht
    obtain ⟨u, hseat', hu'⟩ := h.old_seat htask hreports hrows hu
    have hlive : t.status.active = true ∧ t'.operation_id = t.operation_id := by
      rcases ht' with rfl | ⟨status, rfl, hact⟩
      · exact ⟨hactive, rfl⟩
      · exact ⟨hact, rfl⟩
    have hlive' : u.status.active = true ∧ u'.operation_id = u.operation_id := by
      rcases hu' with rfl | ⟨status, rfl, hact⟩
      · exact ⟨hactive', rfl⟩
      · exact ⟨hact, rfl⟩
    rw [hlive.2, hlive'.2]
    exact h.exclusive t u i j hseat hseat' hsame hlive.1 hlive'.1
  continued := by
    intro t' i child' ht hchild
    obtain ⟨t, hseat, ht'⟩ := h.old_seat htask hreports hrows ht
    obtain ⟨hparent, hid, hattempt, j, hj, hactor⟩ := hchild
    obtain ⟨child, hseat', hchild'⟩ := h.old_seat htask hreports hrows hj
    have hcontinues : s.Continues t i child := by
      have hsame : t'.operation_id = t.operation_id ∧ t'.episode_id = t.episode_id
          ∧ t'.attempt = t.attempt := by
        rcases ht' with rfl | ⟨status, rfl, -⟩ <;> exact ⟨rfl, rfl, rfl⟩
      have hsame' : child'.parent_operation_id = child.parent_operation_id
          ∧ child'.episode_id = child.episode_id ∧ child'.attempt = child.attempt := by
        rcases hchild' with rfl | ⟨status, rfl, -⟩ <;> exact ⟨rfl, rfl, rfl⟩
      refine ⟨?_, ?_, ?_, j, hseat', hactor⟩
      · rw [← hsame'.1, hparent, hsame.1]
      · rw [← hsame'.2.1, hid, hsame.2.1]
      · rw [← hsame'.2.2, hattempt, hsame.2.2]
    obtain ⟨hidle, hsettled⟩ := h.continued t i child hseat hcontinues
    have heq : t' = t := by
      rcases ht' with rfl | ⟨status, -, hact⟩
      · rfl
      · rw [hidle] at hact
        cases hact
    rw [heq]
    refine ⟨hidle, ?_⟩
    rcases hsettled with hs | hA | hr
    · exact .inl hs
    · exact .inr (.inl hA)
    · exact .inr (.inr (hr.step htask (fun id k hk => by rw [hrows]; exact hk)))

/-- The seats after a task took one. -/
theorem seated_cases {t₀ t : AgentTaskRecord} {i₀ i : AutoResearchInvocationRecord}
    (hi : i₀.operation_id = t₀.operation_id) (ht : s'.tasks = s.tasks.put t₀)
    (hrows : s'.auto_research_invocations = s.auto_research_invocations.put i₀)
    (h : s'.Seated t i) : (t = t₀ ∧ i = i₀) ∨ s.Seated t i := by
  have htask := h.task
  have hrow := h.row
  rw [ht, Table.get?_put] at htask
  rw [hrows, Table.get?_put] at hrow
  by_cases hid : t.operation_id = Keyed.key t₀
  · have hid' : t.operation_id = Keyed.key i₀ := hid.trans hi.symm
    rw [if_pos hid] at htask
    rw [if_pos hid'] at hrow
    exact .inl ⟨(Option.some.inj htask).symm, (Option.some.inj hrow).symm⟩
  · have hid' : t.operation_id ≠ Keyed.key i₀ := fun hkey => hid (Eq.trans hkey hi)
    rw [if_neg hid] at htask
    rw [if_neg hid'] at hrow
    exact .inr ⟨htask, hrow⟩

/-- A new seat takes the place of none. -/
theorem ActorsSound.seat_kept (h : s.ActorsSound A) {t₀ : AgentTaskRecord}
    {i₀ : AutoResearchInvocationRecord} (hi : i₀.operation_id = t₀.operation_id)
    (hnew : s.tasks.get? t₀.operation_id = none)
    (hrows : s'.auto_research_invocations = s.auto_research_invocations.put i₀) (id : String)
    (i : AutoResearchInvocationRecord) (hrow : s.auto_research_invocations.get? id = some i) :
    s'.auto_research_invocations.get? id = some i := by
  obtain ⟨t, hget, -⟩ := h.bound id i hrow
  rw [hrows, Table.get?_put_ne]
  · exact hrow
  · intro hkey
    have hid : id = t₀.operation_id := hkey.trans hi
    rw [hid, hnew] at hget
    cases hget

/-- The seats are of tasks of the episode also when one is added. -/
theorem ActorsSound.seat_bound (h : s.ActorsSound A) (htask : TaskStep task s s')
    {t₀ : AgentTaskRecord} {i₀ : AutoResearchInvocationRecord}
    (hi : i₀.operation_id = t₀.operation_id) (hid : t₀.episode_id = some i₀.episode_id)
    (hget₀ : s'.tasks.get? t₀.operation_id = some t₀) (hkind₀ : t₀.kind = .auto_research)
    (hparent : ∀ parent_id, t₀.parent_operation_id = some parent_id →
      (s.tasks.get? parent_id).isSome = true)
    (hrows : s'.auto_research_invocations = s.auto_research_invocations.put i₀) (id : String)
    (i : AutoResearchInvocationRecord) (hrow : s'.auto_research_invocations.get? id = some i) :
    ∃ t, s'.tasks.get? id = some t ∧ t.kind = .auto_research ∧ t.episode_id = some i.episode_id
      ∧ ∀ parent_id, t.parent_operation_id = some parent_id →
        (s'.tasks.get? parent_id).isSome = true := by
  -- no task is deleted, so a parent stays
  have hstays : ∀ parent_id, (s.tasks.get? parent_id).isSome = true →
      (s'.tasks.get? parent_id).isSome = true := by
    intro parent_id hsome
    obtain ⟨p, hp⟩ := Option.isSome_iff_exists.mp hsome
    obtain ⟨status, hp'⟩ := htask.get?_of_get? hp
    rw [hp']
    rfl
  rw [hrows, Table.get?_put] at hrow
  split at hrow
  · rename_i hkey
    cases hrow
    have hkey' : id = t₀.operation_id := hkey.trans hi
    exact ⟨t₀, by rw [hkey']; exact hget₀, hkind₀, hid,
      fun parent_id hp => hstays parent_id (hparent parent_id hp)⟩
  · obtain ⟨t, hget, hkind, hid', hparent'⟩ := h.bound id i hrow
    obtain ⟨status, hget'⟩ := htask.get?_of_get? hget
    exact ⟨_, hget', hkind, hid', fun parent_id hp => hstays parent_id (hparent' parent_id hp)⟩

/-- An operation that seats a task. -/
theorem ActorsSound.seated (h : s.ActorsSound A) (hA : ∀ id ∈ s.recovery_abandoned, A id)
    (htask : TaskStep task s s') {t₀ : AgentTaskRecord} {i₀ : AutoResearchInvocationRecord}
    {continued : Option String} (hi : i₀.operation_id = t₀.operation_id)
    (hid : t₀.episode_id = some i₀.episode_id) (hnew : s.tasks.get? t₀.operation_id = none)
    (hfree : s.actor_busy i₀.episode_id i₀.actor_operation_id continued = false)
    (hparent : ∀ parent_id, t₀.parent_operation_id = some parent_id →
      (s.tasks.get? parent_id).isSome = true)
    (horigin : (continued = none ∧ t₀.kind = .auto_research)
      ∨ ∃ p j, s.Seated p j ∧ continued = some p.operation_id
        ∧ t₀.parent_operation_id = some p.operation_id ∧ p.status.recoverable = true
        ∧ p.episode_id = some i₀.episode_id ∧ j.actor_operation_id = i₀.actor_operation_id
        ∧ j.allocation_operation_id = i₀.allocation_operation_id ∧ t₀.kind = p.kind)
    (ht : s'.tasks = s.tasks.put t₀)
    (hrows : s'.auto_research_invocations = s.auto_research_invocations.put i₀) :
    s'.ActorsSound A := by
  have hkept := h.seat_kept hi hnew hrows
  have hseat₀ : s'.Seated t₀ i₀ := by
    refine ⟨by rw [ht]; exact Table.get?_put_self _ _, ?_⟩
    rw [hrows, ← hi]
    exact Table.get?_put_self _ _
  constructor
  · refine h.seat_bound htask hi hid hseat₀.task ?_ hparent hrows
    rcases horigin with ⟨-, hkind⟩ | ⟨p, j, hp, -, -, -, -, -, -, hkind⟩
    · exact hkind
    · rw [hkind]
      exact (h.seated_kind hp).1
  · -- the actor was free, so the new task is its only live one
    intro t u i j hti huj hsame hactive hactive'
    rcases seated_cases hi ht hrows hti with ⟨rfl, rfl⟩ | hti'
    · rcases seated_cases hi ht hrows huj with ⟨rfl, rfl⟩ | huj'
      · rfl
      · rw [h.idle_of_free hfree huj' hsame.1.symm hsame.2.symm] at hactive'
        cases hactive'
    · rcases seated_cases hi ht hrows huj with ⟨rfl, rfl⟩ | huj'
      · rw [h.idle_of_free hfree hti' hsame.1 hsame.2] at hactive
        cases hactive
      · exact h.exclusive t u i j hti' huj' hsame hactive hactive'
  · intro t i child hti hchild
    obtain ⟨hp, hepisode, hattempt, j, hj, hactor⟩ := hchild
    have hsettled : ∀ r : AgentTaskRecord, s.Seated t i → s.Continues t i r →
        t.status.active = false
          ∧ (t.status = .succeeded ∨ A t.operation_id ∨ s'.Recovered t i) := by
      intro r hti' hr
      obtain ⟨hidle, hs⟩ := h.continued t i r hti' hr
      refine ⟨hidle, ?_⟩
      rcases hs with hs | hs | hs
      · exact .inl hs
      · exact .inr (.inl hs)
      · exact .inr (.inr (hs.step htask hkept))
    rcases seated_cases hi ht hrows hti with ⟨rfl, rfl⟩ | hti'
    · -- the parent of every seated task was there before it
      rcases seated_cases hi ht hrows hj with ⟨rfl, rfl⟩ | hj'
      · have := hparent _ hp
        rw [hnew] at this
        cases this
      · obtain ⟨r, hr, -, -, hr'⟩ := h.bound _ j hj'.row
        rw [hj'.task] at hr
        cases hr
        have := hr' _ hp
        rw [hnew] at this
        cases this
    rcases seated_cases hi ht hrows hj with ⟨rfl, rfl⟩ | hj'
    · have hepisode' : i.episode_id = j.episode_id := by
        rw [hid, (h.seated_kind hti').2] at hepisode
        exact (Option.some.inj hepisode).symm
      by_cases hbefore : ∃ r, s.Continues t i r
      · obtain ⟨r, hr⟩ := hbefore
        exact hsettled r hti' hr
      obtain ⟨hidle, hs⟩ := settled_of_free hfree hti' hepisode' hactor.symm hbefore
      refine ⟨hidle, ?_⟩
      rcases hs with hs | hs | hs
      · exact .inl hs
      · -- the task is the one the new task recovers
        rcases horigin with ⟨hnone, -⟩ | ⟨p, k, hpk, hcont, -, -, -, -, hallocation, -⟩
        · rw [hs] at hnone
          cases hnone
        · rw [hs] at hcont
          have hkey := Option.some.inj hcont
          have hrow := hpk.row
          rw [← hkey, hti'.row] at hrow
          cases hrow
          exact .inr (.inr ⟨child, j, hseat₀, hp, hallocation.symm⟩)
      · exact .inr (.inl (hA _ hs))
    · exact hsettled child hti' ⟨hp, hepisode, hattempt, j, hj', hactor⟩

theorem ActorsSound.step (h : s.ActorsSound A) (hA : ∀ id ∈ s.recovery_abandoned, A id)
    (hreports : s.ReportsBound) {op : EpisodeOp} (htask : TaskStep op.task s s')
    (hactor : ActorStep op s s') : s'.ActorsSound A := by
  cases hactor with
  | same hrows => exact h.unseated htask hreports hrows
  | seated t i continued _ hi hid hnew _ hfree hparent horigin ht hrows =>
    exact h.seated hA htask hi hid hnew hfree hparent horigin ht hrows

end Sound

/-- A task of the orchestrator: the root, or a continuation of it. -/
def sample_orchestrator (operation_id : String) (parent : Option String) (attempt : Nat) :
    AgentTaskRecord :=
  { operation_id, project_id := "p", kind := .auto_research, attempt,
    parent_operation_id := parent, episode_id := some "e", graph_target := .branch "e",
    authorized_by := some "human",
    request := { episode_id := some "e", role := some .orchestrator } }

end EpisodeStore

end ResearchGraph
