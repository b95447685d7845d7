import ResearchGraph.State

/-! # Agent tasks

    The rows of `graph_runs`: one row for each admitted agent task, with its
    lifecycle status, its recovery lineage and the episode and graph target it
    works for.
-/

namespace ResearchGraph

/-! ### Kinds and statuses -/

inductive AgentTaskKind
  | seed
  | refresh
  | node_chat
  | project_chat
  | paper_coach
  | auto_research
  | branch_merge
  | episode_report
  deriving DecidableEq, Repr

inductive AgentTaskStatus
  | queued
  | running
  | pausing
  | paused
  | succeeded
  | failed
  | interrupted
  deriving DecidableEq, Repr

namespace AgentTaskStatus

/-- `ACTIVE_AGENT_TASK_STATUSES`. -/
def active : AgentTaskStatus → Bool
  | .queued | .running | .pausing => true
  | _ => false

/-- The statuses from which a recovery may continue a task. -/
def recoverable : AgentTaskStatus → Bool
  | .paused | .interrupted | .failed => true
  | _ => false

/-- `AGENT_TASK_TRANSITIONS`: the statuses a target is reached from. Nothing leads back to
    `queued`. -/
def transitions : AgentTaskStatus → List AgentTaskStatus
  | .queued => []
  | .running => [.queued]
  | .pausing => [.queued, .running]
  | .paused | .succeeded | .failed | .interrupted => [.queued, .running, .pausing]

/-- Only an active status is ever left. -/
theorem active_of_mem_transitions {a b : AgentTaskStatus} (h : a ∈ b.transitions) :
    a.active = true := by
  cases b <;> cases a <;> simp_all [transitions, active]

end AgentTaskStatus

/-! ### Rows -/

/-- A row of `graph_runs`. -/
structure AgentTask where
  operation_id : String
  project_id : String
  kind : AgentTaskKind
  status : AgentTaskStatus := .queued
  attempt : Nat := 1
  parent_operation_id : Option String := none
  episode_id : Option String := none
  graph_target : GraphTargetRef := .main
  /-- `request["chat_id"]`, when it is a nonempty string. -/
  chat_id : Option String := none
  deriving DecidableEq, Repr

inductive AutoResearchRole
  | orchestrator
  | worker
  deriving DecidableEq, Repr

/-- A row of `auto_research_invocations`: the actor a task works for. -/
structure AutoResearchInvocation where
  episode_id : String
  operation_id : String
  role : AutoResearchRole
  actor_operation_id : String
  deriving DecidableEq, Repr

/-- `_transition_agent_task`: the status of one task moves when the target is reached from the
    one observed, and the call is refused otherwise. -/
def transition_agent_task (tasks : List AgentTask) (operation_id : String)
    (target : AgentTaskStatus) : List AgentTask :=
  tasks.map (fun run =>
    if run.operation_id = operation_id && target.transitions.contains run.status then
      { run with status := target }
    else run)

/-- What one row becomes: itself, or itself with a status that its own one leads to. -/
theorem mem_transition_agent_task {tasks : List AgentTask} {operation_id : String}
    {target : AgentTaskStatus} {run : AgentTask}
    (h : run ∈ transition_agent_task tasks operation_id target) :
    ∃ old ∈ tasks, run = old
      ∨ (old.status.active = true ∧ run = { old with status := target }) := by
  obtain ⟨old, hold, heq⟩ := List.mem_map.mp h
  refine ⟨old, hold, ?_⟩
  split at heq
  · rename_i hc
    simp only [Bool.and_eq_true, decide_eq_true_eq, List.contains_iff_mem] at hc
    exact .inr ⟨AgentTaskStatus.active_of_mem_transitions hc.2, heq.symm⟩
  · exact .inl heq.symm

end ResearchGraph
