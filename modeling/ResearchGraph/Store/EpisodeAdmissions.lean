import ResearchGraph.Store.Episodes

/-! # Admission of episode work

    The operations that create episodes and admit their tasks: the paid
    invocations of each mode, the recoveries that continue one without paying
    again, and the tasks outside any episode. `bound` stands for the checks of
    authority, provider session and stage, of watcher claims and of mail, which
    can only refuse.
-/

namespace ResearchGraph

open Lib

namespace EpisodeStore

variable (s : EpisodeStore)

/-! ### The paid invocation -/

/-- Insert a task and its row of the ledger, and move the meter of its episode. Every paid
    admission ends so. -/
def spend (e : Episode) (t : AgentTaskRecord) (bound : Bool) : Option EpisodeStore :=
  (s.insert_agent_task t bound false).bind fun s =>
    (s.insert_episode_invocation
      { episode_id := e.episode_id, operation_id := t.operation_id,
        invocation_number := e.invocations_used + 1 }).bind fun s =>
      some (s.set_episode { e with invocations_used := e.invocations_used + 1 })

/-! ### New episodes -/

/-- `EpisodeRecord.lifecycle_is_coherent`, for a record without an ending. -/
def coherent (e : Episode) : Bool :=
  decide (1 ≤ e.invocation_ceiling)
    && (e.mode ≠ .experiment_loop || (e.control_node_id.isSome && e.control_node_id ≠ some ""))
    && (e.mode ≠ .auto_research || e.control_node_id.isNone)
    && (e.mode ≠ .auto_research || e.graph_target = .main
      || e.graph_target = .branch e.episode_id)

/-- `_validate_new_episode`. -/
def validate_new_episode (e : Episode) : Bool :=
  coherent e && e.authorized_by.isSome && (e.mode ≠ .auto_research || e.graph_target ≠ .main)
    && e.status = .queued && e.root_operation_id.isNone && e.invocations_used = 0
    && e.ending.isNone && e.wrapup_state = .not_started && e.report_attempts_used = 0
    && e.stop_requested_at.isNone

/-- `create_episode`. -/
def create_episode (e : Episode) : Option EpisodeStore :=
  if !validate_new_episode e then none
  else if !s.accepts_new_work e.project_id then none
  else s.insert_episode e

/-- The row of an episode that started with its first invocation. -/
def started (e : Episode) (t : AgentTaskRecord) : Episode :=
  { e with
    root_operation_id := some t.operation_id, status := .running, invocations_used := 1 }

/-- Insert a started episode, its first task and row 1 of its ledger. -/
def open_episode (e : Episode) (t : AgentTaskRecord) (bound : Bool) : Option EpisodeStore :=
  (s.insert_episode e).bind fun s =>
    (s.insert_agent_task t bound false).bind fun s =>
      s.insert_episode_invocation
        { episode_id := e.episode_id, operation_id := t.operation_id, invocation_number := 1 }

/-- `_created_episode_pair_matches`. -/
def created_episode_pair_matches (stored e : Episode) (t : AgentTaskRecord) : Bool :=
  stored = started e t
    && s.episode_invocations.contains
      { episode_id := e.episode_id, operation_id := t.operation_id, invocation_number := 1 }
    && s.tasks.get? t.operation_id = some t

/-- The root task names its episode. -/
def root_task_matches (e : Episode) (t : AgentTaskRecord) : Bool :=
  t.episode_id = some e.episode_id && t.project_id = e.project_id
    && t.graph_target = e.graph_target && t.kind ≠ .episode_report && t.status = .queued
    && t.visible && t.parent_operation_id.isNone

/-- `create_episode_with_invocation`. -/
def create_episode_with_invocation (e : Episode) (t : AgentTaskRecord) (bound : Bool) :
    Option EpisodeStore :=
  if !validate_new_episode e || e.mode = .auto_research || !root_task_matches e t then none
  else match s.episodes.get? e.episode_id with
    | some stored => if s.created_episode_pair_matches stored e t then some s else none
    | none =>
      if !s.accepts_new_work e.project_id then none
      else s.open_episode (started e t) t bound

/-- `allocate_episode_invocation`. -/
def allocate_episode_invocation (episode_id : String) (t : AgentTaskRecord) (bound : Bool) :
    Option EpisodeStore :=
  if t.kind = .episode_report || !t.visible || t.episode_id ≠ some episode_id then none
  else match s.episode_invocations.find? (fun r => r.operation_id = t.operation_id) with
    | some row =>
      if row.episode_id = episode_id && s.tasks.contains t.operation_id then some s else none
    | none =>
      (s.episodes.get? episode_id).bind fun e =>
        if e.mode = .auto_research || !e.status.operational
            || decide (e.invocation_ceiling ≤ e.invocations_used)
            || t.project_id ≠ e.project_id then none
        else s.spend
          { e with
            root_operation_id := some (e.root_operation_id.getD t.operation_id)
            status := .running } t bound

/-! ### Experiment loops -/

/-- `_new_experiment_episode`. `routed` says whether an Auto-research parent launches it. -/
def new_experiment_episode (t : AgentTaskRecord) (routed : Bool) : Option Episode :=
  t.request.control_episode_id.bind fun episode_id =>
    t.request.control_invocation_ceiling.bind fun ceiling =>
      if t.status ≠ .queued || !t.visible || t.kind ≠ .node_chat || t.parent_operation_id.isSome
          || !t.request.experiment_loop
          || t.request.trigger ≠ (if routed then .orchestrator else .experiment_run)
          || t.request.control_invocation ≠ some 1 || t.episode_id ≠ some episode_id
          || t.request.node_id ≠ t.request.control_node_id then none
      else some
        { episode_id := episode_id, project_id := t.project_id, mode := .experiment_loop,
          control_node_id := t.request.control_node_id, graph_target := t.graph_target,
          invocation_ceiling := ceiling, authorized_by := t.authorized_by }

/-- `_validate_auto_research_parent_admission`. -/
def admits (e : Episode) : Bool :=
  e.status = .running && e.ending.isNone && e.stop_requested_at.isNone

/-- Whether a task of the episode is its orchestrator. -/
def is_orchestrator (episode_id operation_id : String) : Bool :=
  (s.auto_research_invocations.get? operation_id).any fun i =>
    i.episode_id = episode_id && i.role = .orchestrator

/-- `_validate_auto_research_experiment_route`. -/
def validate_experiment_route (route : ChildExperiment) : Bool :=
  (s.load_auto_research_episode route.auto_research_episode_id).any (fun parent =>
    admits parent && parent.project_id = route.project_id)
    && s.is_orchestrator route.auto_research_episode_id route.parent_operation_id

/-- `_activate_auto_research_child_experiment`. -/
def activate_child_experiment (route : ChildExperiment) : Option EpisodeStore :=
  if !s.validate_experiment_route route then none
  else match s.child_experiments.get? route.child_episode_id with
    | none =>
      if route.state ≠ .running then none
      else some { s with child_experiments := s.child_experiments.put route }
    | some stored =>
      if stored.state ≠ .pending || { stored with state := route.state } ≠ route then none
      else some
        { s with child_experiments := s.child_experiments.put { stored with state := .running } }

/-- `reserve_auto_research_experiment_replacement`, under the index of one pending replacement a
    node. -/
def reserve_experiment_replacement (route : ChildExperiment) : Option EpisodeStore :=
  if route.state ≠ .pending || route.replaces_episode_id.isNone then none
  else if !s.validate_experiment_route route then none
  else if s.child_experiments.contains route.child_episode_id
      || s.child_experiments.items.any (fun r => r.state = .pending
        && r.project_id = route.project_id && r.control_node_id = route.control_node_id) then none
  else some { s with child_experiments := s.child_experiments.put route }

/-- `_settle_auto_research_experiment_replacement`: a pending replacement is cancelled. -/
def cancel_experiment_replacement (child_episode_id : String) : Option EpisodeStore :=
  (s.child_experiments.get? child_episode_id).bind fun route =>
    if route.state = .pending then
      some { s with
        child_experiments := s.child_experiments.put { route with state := .cancelled } }
    else if route.state = .cancelled then some s
    else none

/-- `_claim_auto_research_experiment_allowance`: the route is live and its parent admits work.
    The allowance itself is part of `bound`. -/
def claim_experiment_allowance (auto_research_episode_id child_episode_id : String) : Bool :=
  (s.load_auto_research_episode auto_research_episode_id).any admits
    && (s.child_experiments.get? child_episode_id).any fun route =>
      route.auto_research_episode_id = auto_research_episode_id && route.state = .running

/-- The route of a child Experiment, opened with its first invocation. -/
def open_route (e : Episode) (route : Option ChildExperiment) : Option EpisodeStore :=
  match route with
  | none => some s
  | some r =>
    if !(s.load_auto_research_episode r.auto_research_episode_id).any (fun parent =>
        parent.graph_target = e.graph_target) then none
    else if r.child_episode_id ≠ e.episode_id || r.project_id ≠ e.project_id
        || some r.control_node_id ≠ e.control_node_id then none
    else (s.activate_child_experiment r).bind fun s =>
      if !s.claim_experiment_allowance r.auto_research_episode_id e.episode_id then none
      else some s

/-- `create_experiment_episode_with_invocation`. No path through it asks whether the conversation
    of the task is already active. -/
def create_experiment_episode_with_invocation (t : AgentTaskRecord)
    (route : Option ChildExperiment) (bound : Bool) : Option EpisodeStore :=
  (new_experiment_episode t route.isSome).bind fun e =>
    if !validate_new_episode e then none
    else if route.isNone && !s.accepts_new_work t.project_id then none
    else (s.open_route e route).bind fun s => s.open_episode (started e t) t bound

/-- `_experiment_has_ending_receipt`. -/
def experiment_has_ending_receipt (episode_id : String) : Bool :=
  s.tasks.items.any (fun t => t.episode_id = some episode_id
    && s.loop_exits.contains t.operation_id)

/-- The route of a running child Experiment, if its episode has one, still has an admitting
    parent. -/
def route_admits (child_episode_id : String) : Bool :=
  (s.child_experiments.get? child_episode_id).all fun route =>
    route.state ≠ .running
      || s.claim_experiment_allowance route.auto_research_episode_id child_episode_id

/-- `create_experiment_watcher_invocation`. -/
def create_experiment_watcher_invocation (t : AgentTaskRecord) (bound : Bool) :
    Option EpisodeStore :=
  if t.status ≠ .queued || !t.visible || t.parent_operation_id.isSome
      || !t.request.experiment_loop || t.request.trigger ≠ .watcher
      || t.request.control_episode_id ≠ t.episode_id then none
  else (t.episode_id.bind s.episodes.get?).bind fun e =>
    if e.mode ≠ .experiment_loop || e.project_id ≠ t.project_id
        || e.control_node_id ≠ t.request.control_node_id || e.graph_target ≠ t.graph_target then
      none
    else if !admits e || s.experiment_has_ending_receipt e.episode_id then some s
    else if decide (e.invocation_ceiling ≤ e.invocations_used) then none
    else if t.request.control_invocation ≠ some (e.invocations_used + 1) then none
    else if s.has_active_chat_overlap t then some s
    else if !s.route_admits e.episode_id then none
    else s.spend e t bound

/-- The parent chain of a task, at most `fuel` steps. -/
def has_paid_ancestor (episode_id : String) : Nat → String → Bool
  | 0, _ => false
  | fuel + 1, operation_id =>
    s.episode_invocations.any (fun r => r.episode_id = episode_id && r.operation_id = operation_id)
      || ((s.tasks.get? operation_id).bind (fun t => t.parent_operation_id)).any
        (has_paid_ancestor episode_id fuel)

/-- `_experiment_recovery_has_paid_root`: a chain without repetition is no longer than the
    table. -/
def experiment_recovery_has_paid_root (episode_id operation_id : String) : Bool :=
  s.has_paid_ancestor episode_id (s.tasks.items.length + 1) operation_id

/-- A recovery of a routed child needs a running route with an admitting parent. -/
def recovery_route_admits (child_episode_id : String) : Bool :=
  (s.child_experiments.get? child_episode_id).all fun route =>
    route.state = .running
      && (s.load_auto_research_episode route.auto_research_episode_id).any admits

/-- `create_experiment_recovery_task`, and `create_experiment_graph_repair_task` when `repair`. -/
def create_experiment_recovery_task (t : AgentTaskRecord) (bound repair : Bool) :
    Option EpisodeStore :=
  if t.status ≠ .queued || !t.visible then none
  else t.parent_operation_id.bind fun parent_operation_id =>
    (t.episode_id.bind s.episodes.get?).bind fun e =>
      if e.mode ≠ .experiment_loop || e.project_id ≠ t.project_id
          || e.graph_target ≠ t.graph_target
          || e.control_node_id ≠ t.request.control_node_id then none
      else if !s.recovery_route_admits e.episode_id then none
      else if !(e.status = .running || e.status = .stopping) || e.ending.isSome
          || s.experiment_has_ending_receipt e.episode_id then none
      else if !s.experiment_recovery_has_paid_root e.episode_id parent_operation_id then none
      else if s.has_active_chat_overlap t then none
      else s.insert_agent_task t bound repair

/-! ### Auto-research actors -/

/-- A task of an actor that continues `t` as its next attempt. -/
def actor_child (i : AutoResearchInvocationRecord) (t : AgentTaskRecord) : Bool :=
  s.tasks.items.any (fun child => child.parent_operation_id = some t.operation_id
    && child.episode_id = t.episode_id && child.attempt = t.attempt + 1
    && (s.auto_research_invocations.get? child.operation_id).any
      (fun j => j.actor_operation_id = i.actor_operation_id))

/-- The row of the actor query: the task is active, or stopped short and neither abandoned nor the
    one this recovery continues, and no task of the actor continues it. -/
def actor_unresolved (episode_id actor_operation_id : String) (continued : Option String)
    (t : AgentTaskRecord) : Bool :=
  (s.auto_research_invocations.get? t.operation_id).any fun i =>
    i.episode_id = episode_id && i.actor_operation_id = actor_operation_id
      && (t.status.active || (t.status.recoverable && continued ≠ some t.operation_id
        && !s.recovery_abandoned.contains t.operation_id))
      && !s.actor_child i t

/-- `AutoResearchActorBusy`. -/
def actor_busy (episode_id actor_operation_id : String) (continued : Option String) : Bool :=
  s.tasks.items.any (s.actor_unresolved episode_id actor_operation_id continued)

/-- A task of the episode with its actor. -/
def actor_task (episode_id operation_id : String) :
    Option (AgentTaskRecord × AutoResearchInvocationRecord) :=
  (s.tasks.get? operation_id).bind fun t =>
    if t.episode_id ≠ some episode_id then none
    else (s.auto_research_invocations.get? operation_id).map (fun i => (t, i))

/-- The actor a continuation asks for. -/
def requested_actor (e : Episode) (t : AgentTaskRecord) (role : AutoResearchRole)
    (parent : AutoResearchInvocationRecord) : Option String :=
  match t.request.actor_operation_id with
  | some actor => some actor
  | none =>
    if role = .orchestrator then e.root_operation_id
    else if parent.role = role then some parent.actor_operation_id
    else some t.operation_id

/-- The actor of a continuation and its control seat. -/
def bind_continuation (e : Episode) (t : AgentTaskRecord) (role : AutoResearchRole) :
    Option (String × Option String) :=
  (t.parent_operation_id.bind (s.actor_task e.episode_id)).bind fun p =>
    (requested_actor e t role p.2).bind fun actor =>
      if actor = t.operation_id then
        if role ≠ .worker || p.2.role ≠ .orchestrator || t.request.wake_cause.isSome then none
        else some (actor, t.request.control_node_id)
      else (s.auto_research_invocations.get? actor).bind fun a =>
        if a.episode_id ≠ e.episode_id || a.role ≠ role || p.2.role ≠ role
            || p.2.actor_operation_id ≠ actor
            || t.request.control_node_id ≠ a.control_node_id then none
        else some (actor, a.control_node_id)

/-- The identity half of `_bind_auto_research_actor`. -/
def bind_actor (e : Episode) (t : AgentTaskRecord) (role : AutoResearchRole) :
    Option (String × Option String) :=
  if t.request.episode_id ≠ some e.episode_id || t.request.role ≠ some role then none
  else if some t.operation_id = e.root_operation_id && t.parent_operation_id.isNone then
    if role ≠ .orchestrator || !t.request.actor_operation_id.all (· = t.operation_id) then none
    else some (t.operation_id, none)
  else s.bind_continuation e t role

/-- `_bind_auto_research_actor`. `continued` is the parent of a recovery of the same
    allocation. -/
def bind_auto_research_actor (e : Episode) (t : AgentTaskRecord) (role : AutoResearchRole)
    (continued : Option String) : Option (String × Option String) :=
  (s.bind_actor e t role).bind fun seat =>
    if role = .orchestrator
        && (some seat.1 ≠ e.root_operation_id || t.request.control_node_id.isSome) then none
    else if role = .worker && (seat.2.isNone || seat.2 = some "") then none
    else if s.actor_busy e.episode_id seat.1 continued then none
    else some seat

/-- The row that seats a task. -/
def actor_row (e : Episode) (t : AgentTaskRecord) (role : AutoResearchRole)
    (seat : String × Option String) (allocation : String) : AutoResearchInvocationRecord :=
  { episode_id := e.episode_id, operation_id := t.operation_id, role := role,
    actor_operation_id := seat.1, allocation_operation_id := allocation,
    control_node_id := seat.2 }

/-- The row of a new Auto-research episode: a reservation waits for its graph branch. -/
def reserved (e : Episode) (t : AgentTaskRecord) (activate : Bool) : Episode :=
  { e with
    root_operation_id := some t.operation_id
    status := if activate then .running else .queued }

/-- The mode row of an Auto-research episode. -/
def insert_auto_research_state (episode_id : String) : EpisodeStore :=
  { s with auto_research_episodes := s.auto_research_episodes ++ [episode_id] }

/-- `create_auto_research_episode_with_root_task`. -/
def create_auto_research_episode_with_root_task (e : Episode) (t : AgentTaskRecord)
    (activate bound : Bool) : Option EpisodeStore :=
  if !validate_new_episode e || e.mode ≠ .auto_research || t.episode_id ≠ some e.episode_id
      || t.project_id ≠ e.project_id || t.kind ≠ .auto_research || t.parent_operation_id.isSome
      || t.status ≠ .queued || !t.visible || t.authorized_by ≠ e.authorized_by then none
  else if !s.accepts_new_work e.project_id then none
  else (s.insert_episode (reserved e t activate)).bind fun s =>
    ((s.insert_auto_research_state e.episode_id).bind_auto_research_actor (reserved e t activate) t
      .orchestrator none).bind fun seat =>
      ((s.insert_auto_research_state e.episode_id).spend (reserved e t activate) t bound).bind
        fun s => s.insert_auto_research_invocation
          (actor_row (reserved e t activate) t .orchestrator seat t.operation_id)

/-- `activate_auto_research_reservation`. -/
def activate_auto_research_reservation (episode_id operation_id : String) : Option EpisodeStore :=
  (s.episodes.get? episode_id).bind fun e =>
    (s.tasks.get? operation_id).bind fun t =>
      if e.mode ≠ .auto_research || e.root_operation_id ≠ some operation_id
          || t.episode_id ≠ some episode_id || t.kind ≠ .auto_research
          || t.parent_operation_id.isSome || t.status ≠ .queued then none
      else if e.status = .running then some s
      else if e.status ≠ .queued || e.ending.isSome then none
      else some (s.set_episode { e with status := .running })

/-- `_insert_paid_auto_research_task`. -/
def insert_paid_auto_research_task (e : Episode) (t : AgentTaskRecord) (role : AutoResearchRole)
    (bound : Bool) : Option EpisodeStore :=
  if !admits e || decide (e.invocation_ceiling ≤ e.invocations_used)
      || t.episode_id ≠ some e.episode_id || t.project_id ≠ e.project_id
      || t.kind ≠ .auto_research || t.authorized_by ≠ e.authorized_by then none
  else (s.bind_auto_research_actor e t role none).bind fun seat =>
    (s.spend e t bound).bind fun s =>
      s.insert_auto_research_invocation (actor_row e t role seat t.operation_id)

/-- The paid Auto-research admissions: `create_auto_research_agent_task`, and the mail, lifecycle
    and watcher wakes. A wake whose mail, notices or watchers were claimed meanwhile changes
    nothing, as does a watcher wake of a busy conversation; `claimed` says so. -/
def create_auto_research_agent_task (t : AgentTaskRecord) (role : AutoResearchRole)
    (bound claimed : Bool) : Option EpisodeStore :=
  (t.episode_id.bind s.load_auto_research_episode).bind fun e =>
    if claimed then some s else s.insert_paid_auto_research_task e t role bound

/-- `create_auto_research_recovery_task`. -/
def create_auto_research_recovery_task (t : AgentTaskRecord) (bound : Bool) :
    Option EpisodeStore :=
  (t.episode_id.bind s.load_auto_research_episode).bind fun e =>
    (t.parent_operation_id.bind (s.actor_task e.episode_id)).bind fun p =>
      if !p.1.status.recoverable || t.project_id ≠ p.1.project_id || t.kind ≠ p.1.kind
          || t.attempt ≠ p.1.attempt + 1 || t.authorized_by ≠ e.authorized_by then none
      else if e.status = .stopping && p.1.status ≠ .paused then none
      else if !(e.status = .running || e.status = .stopping) then none
      else if e.wrapup_state ≠ .not_started && e.wrapup_state ≠ .pending then none
      else if s.tasks.items.any (fun child => child.parent_operation_id = some p.1.operation_id
          && child.episode_id = some e.episode_id && child.attempt = t.attempt
          && s.auto_research_invocations.contains child.operation_id) then none
      else if s.recovery_abandoned.contains p.1.operation_id then none
      else (s.bind_auto_research_actor e t p.2.role t.parent_operation_id).bind fun seat =>
        (s.insert_agent_task t bound false).bind fun s =>
          s.insert_auto_research_invocation
            (actor_row e t p.2.role seat p.2.allocation_operation_id)

/-! ### Child Work -/

/-- `create_auto_research_child_work`. -/
def create_auto_research_child_work (w : ChildWork) (t : AgentTaskRecord) (bound : Bool) :
    Option EpisodeStore :=
  if w.root_operation_id ≠ t.operation_id || w.current_operation_id ≠ t.operation_id
      || t.episode_id ≠ some w.episode_id || w.project_id ≠ t.project_id || t.kind ≠ .node_chat
      || t.status ≠ .queued || !t.visible || t.parent_operation_id.isSome || !t.request.work
      || t.request.trigger ≠ .orchestrator || t.request.node_id ≠ some w.control_node_id then none
  else (s.load_auto_research_episode w.episode_id).bind fun e =>
    if !admits e || e.project_id ≠ w.project_id || t.authorized_by ≠ e.authorized_by
        || !s.is_orchestrator w.episode_id w.admitted_by_operation_id
        || decide (e.invocation_ceiling ≤ e.invocations_used) then none
    else if s.has_active_chat_overlap t then none
    else if s.child_work.contains w.worker_id then none
    else { s with child_work := s.child_work.put w }.spend e t bound

/-- What a continuation of child Work preserves. -/
def child_work_continues (w : ChildWork) (e : Episode) (current t : AgentTaskRecord) : Bool :=
  t.status = .queued && t.visible && t.kind = .node_chat && t.project_id = w.project_id
    && t.episode_id = some w.episode_id && t.parent_operation_id = some current.operation_id
    && t.attempt = current.attempt + 1 && t.authorized_by = e.authorized_by
    && t.chat_id = current.chat_id

/-- `create_auto_research_child_work_recovery`. -/
def create_auto_research_child_work_recovery (worker_id : String) (t : AgentTaskRecord)
    (bound : Bool) : Option EpisodeStore :=
  (s.child_work.get? worker_id).bind fun w =>
    (s.load_auto_research_episode w.episode_id).bind fun e =>
      (s.tasks.get? w.current_operation_id).bind fun current =>
        if !admits e || !current.status.recoverable || !child_work_continues w e current t then none
        else if s.has_active_chat_overlap t then none
        else { s with
          child_work := s.child_work.put
            { w with current_operation_id := t.operation_id } }.insert_agent_task t bound false

/-- `create_auto_research_child_work_message_wake_task`. -/
def create_auto_research_child_work_message_wake_task (worker_id : String) (t : AgentTaskRecord)
    (bound claimed : Bool) : Option EpisodeStore :=
  (s.child_work.get? worker_id).bind fun w =>
    (s.load_auto_research_episode w.episode_id).bind fun e =>
      if !admits e || w.stop_requested_at.isSome then none
      else if claimed then some s
      else (s.tasks.get? w.current_operation_id).bind fun current =>
        if current.status ≠ .succeeded then some s
        else if !child_work_continues w e current t || !t.request.work
            || t.request.trigger ≠ .orchestrator then none
        else if s.has_active_chat_overlap t then some s
        else if decide (e.invocation_ceiling ≤ e.invocations_used) then none
        else { s with
          child_work := s.child_work.put
            { w with current_operation_id := t.operation_id } }.spend e t bound

/-- `request_auto_research_child_work_stop`. -/
def request_child_work_stop (worker_id : String) (now : Int) : Option EpisodeStore :=
  (s.child_work.get? worker_id).bind fun w =>
    some { s with
      child_work := s.child_work.put
        { w with stop_requested_at := some (w.stop_requested_at.getD now) } }

/-! ### Tasks outside the ledger -/

/-- `create_agent_task`. `fresh` says whether the continuation cause is `"fresh"`. -/
def create_agent_task (t : AgentTaskRecord) (fresh bound : Bool) : Option EpisodeStore :=
  if t.kind = .episode_report || t.episode_id.isSome then none
  else if fresh && !s.accepts_new_work t.project_id then none
  else if s.has_active_chat_overlap t then none
  else s.insert_agent_task t bound false

/-- `create_agent_task_graph_repair`. -/
def create_agent_task_graph_repair (t : AgentTaskRecord) (bound : Bool) : Option EpisodeStore :=
  if t.status ≠ .queued || !t.visible || t.parent_operation_id.isNone
      || !(t.kind = .node_chat || t.kind = .project_chat) || t.episode_id.isSome
      || !t.request.work then none
  else if s.has_active_chat_overlap t then none
  else s.insert_agent_task t bound false

/-- `create_watcher_notification_task`, for a task of another kind than Auto-research. -/
def create_watcher_notification_task (t : AgentTaskRecord) (bound claimed : Bool) :
    Option EpisodeStore :=
  if t.status ≠ .queued || t.kind = .auto_research then none
  else if claimed then some s
  else if s.has_active_chat_overlap t then some s
  else s.insert_agent_task t bound false

/-- The durable part of `create_branch_merge_task`. Quiescence is read before the transaction and
    is part of `bound`. -/
def create_branch_merge_task (t : AgentTaskRecord) (bound : Bool) : Option EpisodeStore :=
  if t.kind ≠ .branch_merge || t.status ≠ .queued || !t.visible || t.parent_operation_id.isSome
      || t.authorized_by.isNone || t.graph_target = .main || !bound then none
  else if s.tasks.contains t.operation_id then
    if s.tasks.get? t.operation_id = some t then some s else none
  else if !s.accepts_new_work t.project_id then none
  else (t.episode_id.bind s.episodes.get?).bind fun e =>
    if e.mode ≠ .auto_research || e.project_id ≠ t.project_id || e.graph_target ≠ t.graph_target
        || e.ending.isNone || e.status.live then none
    else if s.tasks.items.any (fun r => r.project_id = t.project_id
        && r.graph_target = t.graph_target && r.kind ≠ .branch_merge && r.kind ≠ .episode_report
        && (r.status.active || r.status = .paused)) then none
    else s.insert_agent_task t bound false

end EpisodeStore

end ResearchGraph
