import ResearchGraph.Store.Tasks
import ResearchGraph.Lib.Table
import ResearchGraph.Lib.Runs
import ResearchGraph.Lib.Newest

/-! # Episodes

    An episode is a bounded series of paid agent invocations with one lifecycle
    and one budget. This module has the rows the episode operations share and
    the statements that insert them; the operations themselves are in
    `Store.EpisodeEndings` and `Store.EpisodeAdmissions`.
-/

namespace ResearchGraph

open Lib

/-! ### Statuses and endings -/

inductive EpisodeMode
  | auto_research
  | experiment_loop
  deriving DecidableEq, Repr

inductive EpisodeStatus
  | queued
  | running
  | stopping
  | wrapping_up
  | needs_action
  | completed
  | stopped
  | failed
  deriving DecidableEq, Repr

namespace EpisodeStatus

/-- `_LIVE_EPISODE_STATUSES`. -/
def live : EpisodeStatus → Bool
  | .queued | .running | .stopping | .wrapping_up => true
  | _ => false

/-- The statuses in which operational work may be admitted. -/
def operational : EpisodeStatus → Bool
  | .queued | .running => true
  | _ => false

/-- The statuses Stop can still reach. -/
def stoppable : EpisodeStatus → Bool
  | .queued | .running | .stopping => true
  | _ => false

/-- The statuses an ending other than Stop can settle. -/
def endable : EpisodeStatus → Bool
  | .queued | .running | .wrapping_up => true
  | _ => false

end EpisodeStatus

inductive EpisodeEnding
  | completed
  | exhausted
  | stopped
  | failed
  | human_pause
  deriving DecidableEq, Repr

/-- `_status_for_ending`. -/
def status_for_ending : EpisodeEnding → EpisodeStatus
  | .completed => .completed
  | .exhausted | .human_pause => .needs_action
  | .failed => .failed
  | .stopped => .stopped

/-- An ending never leads to a live status. -/
@[simp] theorem live_status_for_ending (ending : EpisodeEnding) :
    (status_for_ending ending).live = false := by
  cases ending <;> rfl

inductive EpisodeWrapupState
  | not_started
  | pending
  | running
  | ready
  | failed
  | skipped
  deriving DecidableEq, Repr

/-- The states in which a report may still be generated. -/
def EpisodeWrapupState.awaiting : EpisodeWrapupState → Bool
  | .pending | .running => true
  | _ => false

/-! ### Rows -/

/-- A row of `episodes`. -/
structure Episode where
  episode_id : String
  project_id : String
  mode : EpisodeMode
  control_node_id : Option String := none
  graph_target : GraphTargetRef := .main
  root_operation_id : Option String := none
  status : EpisodeStatus := .queued
  invocation_ceiling : Nat
  invocations_used : Nat := 0
  authorized_by : Option String := none
  stop_requested_at : Option Int := none
  ending : Option EpisodeEnding := none
  ending_diagnostic : Option String := none
  wrapup_state : EpisodeWrapupState := .not_started
  wrapup_error : Option String := none
  report_attempts_used : Nat := 0
  deriving DecidableEq, Repr

instance : Keyed Episode String := ⟨Episode.episode_id⟩

inductive TaskTrigger
  | human
  | orchestrator
  | experiment_run
  | watcher
  deriving DecidableEq, Repr

/-- The fields of a task request that admission reads. -/
structure TaskRequest where
  episode_id : Option String := none
  role : Option AutoResearchRole := none
  actor_operation_id : Option String := none
  control_node_id : Option String := none
  wake_cause : Option String := none
  node_id : Option String := none
  /-- `mode == "work"`. -/
  work : Bool := false
  trigger : TaskTrigger := .human
  /-- `patch_kind == "experiment_loop"`. -/
  experiment_loop : Bool := false
  control_episode_id : Option String := none
  control_invocation : Option Nat := none
  control_invocation_ceiling : Option Nat := none
  /-- The other pinned fields of an Experiment episode, as one text. -/
  control_pins : String := ""
  deriving DecidableEq, Repr

/-- `AgentTaskRecord`: a task with its request. -/
structure AgentTaskRecord extends AgentTask where
  visible : Bool := true
  authorized_by : Option String := none
  request : TaskRequest := {}
  created_at : Int := 0
  deriving DecidableEq, Repr

instance : Keyed AgentTaskRecord String := ⟨fun t => t.operation_id⟩

/-- A row of `episode_invocations`: one paid invocation. -/
structure EpisodeInvocation where
  episode_id : String
  operation_id : String
  invocation_number : Nat
  deriving DecidableEq, Repr

/-- `AutoResearchInvocationRecord`: the actor and the paid allocation a task works for. -/
structure AutoResearchInvocationRecord extends AutoResearchInvocation where
  allocation_operation_id : String
  control_node_id : Option String := none
  deriving DecidableEq, Repr

instance : Keyed AutoResearchInvocationRecord String := ⟨fun i => i.operation_id⟩

/-- A row of `auto_research_child_work`. -/
structure ChildWork where
  worker_id : String
  episode_id : String
  project_id : String
  control_node_id : String
  root_operation_id : String
  current_operation_id : String
  admitted_by_operation_id : String
  stop_requested_at : Option Int := none
  deriving DecidableEq, Repr

instance : Keyed ChildWork String := ⟨ChildWork.worker_id⟩

inductive ChildExperimentState
  | pending
  | running
  | terminal
  | cancelled
  deriving DecidableEq, Repr

/-- A row of `auto_research_child_experiments`: the route of a child to its parent. -/
structure ChildExperiment where
  child_episode_id : String
  auto_research_episode_id : String
  project_id : String
  control_node_id : String
  state : ChildExperimentState
  replaces_episode_id : Option String := none
  parent_operation_id : String
  /-- The immutable launch intent, as one text. -/
  request : String := ""
  deriving DecidableEq, Repr

instance : Keyed ChildExperiment String := ⟨ChildExperiment.child_episode_id⟩

/-- A row of `episode_wrapups`. A row that is not of the legacy kind has its ending. -/
structure EpisodeWrapup where
  episode_id : String
  ending : EpisodeEnding
  concluding_operation_id : Option String := none
  allocation_operation_id : Option String := none
  /-- The other immutable fields of the restart fence, as one text. -/
  restart_fence : String := ""
  state : EpisodeWrapupState
  diagnostic : Option String := none
  deriving DecidableEq, Repr

instance : Keyed EpisodeWrapup String := ⟨EpisodeWrapup.episode_id⟩

inductive ReportAttemptStatus
  | queued
  | running
  | succeeded
  | failed
  deriving DecidableEq, Repr

/-- The attempt may still be answered by its provider. -/
def ReportAttemptStatus.unfinished : ReportAttemptStatus → Bool
  | .queued | .running => true
  | _ => false

/-- A row of `episode_report_attempts`. -/
structure ReportAttempt where
  attempt_id : String
  episode_id : String
  attempt_number : Nat
  allocation_operation_id : String
  status : ReportAttemptStatus := .queued
  deriving DecidableEq, Repr

instance : Keyed ReportAttempt String := ⟨ReportAttempt.attempt_id⟩

/-- A row of `episode_reports`. -/
structure EpisodeReport where
  episode_id : String
  attempt_id : String
  allocation_operation_id : String
  ending : EpisodeEnding
  html : String := ""
  deriving DecidableEq, Repr

instance : Keyed EpisodeReport String := ⟨EpisodeReport.episode_id⟩

/-- A row of `auto_research_finish_receipts`. -/
structure FinishReceipt where
  effect_id : String
  episode_id : String
  actor_operation_id : String
  deriving DecidableEq, Repr

/-! ### The store -/

/-- The tables the episode operations read and write. -/
structure EpisodeStore where
  episodes : Table Episode := Table.empty
  /-- `graph_runs`. -/
  tasks : Table AgentTaskRecord := Table.empty
  episode_invocations : List EpisodeInvocation := []
  /-- `auto_research_episodes`: the episodes with an Auto-research mode row. -/
  auto_research_episodes : List String := []
  auto_research_invocations : Table AutoResearchInvocationRecord := Table.empty
  child_work : Table ChildWork := Table.empty
  child_experiments : Table ChildExperiment := Table.empty
  wrapups : Table EpisodeWrapup := Table.empty
  report_attempts : Table ReportAttempt := Table.empty
  reports : Table EpisodeReport := Table.empty
  finish_receipts : List FinishReceipt := []
  /-- The tasks with an `auto_research_recovery_abandoned` receipt. -/
  recovery_abandoned : List String := []
  /-- The tasks with an `experiment_recovery_abandoned` receipt. -/
  experiment_abandoned : List String := []
  /-- The tasks with an `experiment_loop_exit` receipt. -/
  loop_exits : List String := []
  /-- The projects whose source transfer was released. -/
  released_projects : List String := []

namespace EpisodeStore

variable (s : EpisodeStore)

/-- `_require_project_accepts_new_work`. -/
def accepts_new_work (project_id : String) : Bool := !s.released_projects.contains project_id

/-- `_live_episode_row`: a live episode that excludes a new one. -/
def live_episode_row (e : Episode) : Bool :=
  s.episodes.items.any (fun f =>
    f.project_id = e.project_id && f.mode = e.mode && f.status.live
      && (e.mode = .auto_research || f.control_node_id = e.control_node_id))

/-- `_insert_episode`, under the primary key and the two live-episode indexes. -/
def insert_episode (e : Episode) : Option EpisodeStore :=
  if s.episodes.contains e.episode_id then none
  else if s.live_episode_row e then none
  else some { s with episodes := s.episodes.put e }

/-- `UPDATE episodes SET .. WHERE episode_id = ?` on a row that was read. -/
def set_episode (e : Episode) : EpisodeStore := { s with episodes := s.episodes.put e }

/-- `_load_auto_research_episode`. -/
def load_auto_research_episode (episode_id : String) : Option Episode :=
  (s.episodes.get? episode_id).filter fun e =>
    e.mode = .auto_research && s.auto_research_episodes.contains episode_id

/-- `INSERT INTO episode_invocations`, under its two unique keys. -/
def insert_episode_invocation (row : EpisodeInvocation) : Option EpisodeStore :=
  if s.episode_invocations.any (fun r => r.operation_id = row.operation_id
      || (r.episode_id = row.episode_id && r.invocation_number = row.invocation_number)) then none
  else some { s with episode_invocations := s.episode_invocations ++ [row] }

/-- The unique index on active merges of one episode refuses the task. -/
def merge_indexed (t : AgentTaskRecord) : Bool :=
  t.kind = .branch_merge && t.status.active
    && s.tasks.items.any (fun r => r.kind = .branch_merge && r.status.active
      && r.episode_id = t.episode_id && r.episode_id.isSome)

/-- `_validate_graph_target_insert`. -/
def validate_graph_target_insert (t : AgentTaskRecord) : Bool :=
  (t.episode_id.elim (t.graph_target = .main) (fun episode_id =>
    (s.episodes.get? episode_id).any (fun e =>
      e.project_id = t.project_id && e.graph_target = t.graph_target)))
  && (t.parent_operation_id.bind s.tasks.get?).all (fun parent =>
    parent.graph_target = t.graph_target)

/-- The tasks of an Experiment loop. -/
def loop_tasks (project_id : String) (control_node_id control_episode_id : Option String) :
    List AgentTaskRecord :=
  s.tasks.items.filter (fun r => r.project_id = project_id
    && r.request.experiment_loop && r.request.control_node_id = control_node_id
    && r.request.control_episode_id = control_episode_id)

/-- The invocations of an Experiment loop that continue no other task. -/
def loop_roots (project_id : String) (control_node_id control_episode_id : Option String) :
    List AgentTaskRecord :=
  (s.loop_tasks project_id control_node_id control_episode_id).filter
    (fun r => r.parent_operation_id.isNone)

/-- The newest root invocation of any Experiment episode of a node. -/
def newest_root (project_id : String) (control_node_id : Option String) : Option AgentTaskRecord :=
  latest (fun a b => a.created_at ≤ b.created_at) (s.tasks.items.filter (fun r =>
    r.project_id = project_id && r.parent_operation_id.isNone && r.request.experiment_loop
      && r.request.control_node_id = control_node_id))

/-- The pinned fields of an Experiment episode. -/
def pinned (t : AgentTaskRecord) : List (Option String) × Option Nat × String :=
  ([t.chat_id, t.request.control_node_id, t.request.control_episode_id],
    t.request.control_invocation_ceiling, t.request.control_pins)

/-- `_validate_experiment_recovery_claim`, on the parent of the recovery. -/
def validate_experiment_recovery_claim (t parent : AgentTaskRecord) : Bool :=
  !s.experiment_abandoned.contains parent.operation_id && parent.status.recoverable
    && t.attempt = parent.attempt + 1
    && !s.tasks.items.any (fun r => r.parent_operation_id = some parent.operation_id)
    && (s.newest_root t.project_id parent.request.control_node_id).any (fun r =>
      r.request.control_episode_id = parent.request.control_episode_id
        && r.request.control_invocation = parent.request.control_invocation)
    && !(s.loop_tasks t.project_id parent.request.control_node_id
      parent.request.control_episode_id).any (fun r =>
        r.request.control_invocation = parent.request.control_invocation
          && decide (parent.attempt < r.attempt))

/-- The order of the attempts of a loop: by invocation, attempt and creation. -/
def attempt_le (a b : AgentTaskRecord) : Bool :=
  let i := a.request.control_invocation.getD 0
  let j := b.request.control_invocation.getD 0
  decide (i < j) || (i = j && (decide (a.attempt < b.attempt)
    || (a.attempt = b.attempt && decide (a.created_at ≤ b.created_at))))

/-- `_validate_current_experiment_graph_repair`, on the parent of the repair. -/
def validate_current_experiment_graph_repair (t parent : AgentTaskRecord) : Bool :=
  (s.newest_root t.project_id t.request.control_node_id).any (fun r =>
    r.request.control_episode_id = t.request.control_episode_id)
    && !s.episodes.items.any (fun e => some e.episode_id = t.request.control_episode_id
      && e.mode = .experiment_loop && e.stop_requested_at.isSome)
    && (latest attempt_le (s.loop_tasks t.project_id t.request.control_node_id
      t.request.control_episode_id)).any (fun r =>
        r.request.control_invocation = t.request.control_invocation
          && r.operation_id = parent.operation_id)

/-- The recovery half of `_validate_experiment_task_insert`. `repair` says that the task repairs a
    rejected graph update, which a succeeded parent may have. -/
def validate_experiment_recovery (t parent : AgentTaskRecord) (repair : Bool) : Bool :=
  parent.project_id = t.project_id && parent.kind = t.kind && pinned parent = pinned t
    && parent.request.control_invocation = t.request.control_invocation
    && (if repair && parent.status = .succeeded then
        s.validate_current_experiment_graph_repair t parent
      else s.validate_experiment_recovery_claim t parent)

/-- The root half of `_validate_experiment_task_insert`. -/
def validate_experiment_root (t : AgentTaskRecord) : Bool :=
  let prior := s.loop_roots t.project_id t.request.control_node_id t.request.control_episode_id
  let invocation := t.request.control_invocation.getD 0
  (t.request.trigger ≠ .human)
    && (t.request.trigger ≠ .orchestrator
      || s.child_experiments.items.any (fun route =>
        some route.child_episode_id = t.request.control_episode_id
          && route.project_id = t.project_id
          && some route.control_node_id = t.request.control_node_id && route.state = .running))
    && prior.all (fun r => pinned r = pinned t)
    && invocation = (prior.map (fun r => r.request.control_invocation.getD 0)).foldl max 0 + 1
    && (invocation ≠ 1 || prior.isEmpty)
    && (t.request.trigger = .watcher || invocation = 1)
    && (t.request.trigger ≠ .watcher || !prior.isEmpty)

/-- `_validate_experiment_task_insert`. -/
def validate_experiment_task_insert (t : AgentTaskRecord) (repair : Bool) : Bool :=
  if !t.request.experiment_loop then true
  else
    let invocation := t.request.control_invocation.getD 0
    let ceiling := t.request.control_invocation_ceiling.getD 0
    (t.request.control_node_id.isSome && t.request.control_node_id ≠ some "")
      && t.request.control_episode_id.isSome && t.episode_id = t.request.control_episode_id
      && decide (1 ≤ invocation) && decide (1 ≤ ceiling) && decide (invocation ≤ ceiling)
      && t.parent_operation_id.elim (s.validate_experiment_root t) (fun parent_operation_id =>
        (s.tasks.get? parent_operation_id).any (fun parent =>
          s.validate_experiment_recovery t parent repair))

/-- `_insert_agent_task`. The checks on dispatch authority, provider session and stage are of
    data the store here does not keep; `bound` is their answer. -/
def insert_agent_task (t : AgentTaskRecord) (bound repair : Bool) : Option EpisodeStore :=
  if !bound then none
  else if !s.validate_experiment_task_insert t repair then none
  else if !s.validate_graph_target_insert t then none
  else if s.tasks.contains t.operation_id then none
  else if s.merge_indexed t then none
  else some { s with tasks := s.tasks.put t }

/-- `_insert_auto_research_invocation`. -/
def insert_auto_research_invocation (i : AutoResearchInvocationRecord) : Option EpisodeStore :=
  if s.auto_research_invocations.contains i.operation_id then none
  else some { s with auto_research_invocations := s.auto_research_invocations.put i }

/-- `_has_active_chat_overlap`. -/
def has_active_chat_overlap (t : AgentTaskRecord) : Bool :=
  (t.kind = .node_chat || t.kind = .project_chat) && t.chat_id.isSome
    && s.tasks.items.any (fun r => r.project_id = t.project_id && r.kind = t.kind
      && r.chat_id = t.chat_id && r.status.active)

/-- `UPDATE graph_runs SET status = ? WHERE operation_id = ?`. -/
def set_task_status (operation_id : String) (status : AgentTaskStatus) : EpisodeStore :=
  { s with
    tasks := s.tasks.update
      (fun t => if t.operation_id = operation_id then { t with status := status } else t)
      (by
        intro t
        show (if t.operation_id = operation_id then { t with status := status } else t).operation_id
          = t.operation_id
        split <;> rfl) }

end EpisodeStore

end ResearchGraph
