import ResearchGraph.Store.Tasks
import ResearchGraph.Lib.Table
import ResearchGraph.Lib.Runs
import Mathlib.Data.List.Sort

/-! # Watchers

    A watcher waits for external work or for a graph condition and wakes one
    turn when it is ready. Polls, graph boundaries, stops and claims each write
    its row in one guarded statement of their own transaction.
-/

namespace ResearchGraph

open Lib

/-! ### Rows -/

inductive WatcherStatus
  | active
  | degraded
  | completed
  | stopped
  deriving DecidableEq, Repr

inductive WatcherStopper
  | human
  | loop
  | agent
  deriving DecidableEq, Repr

/-- `GraphCondition`. -/
inductive GraphCondition
  | node_status (node_id : String) (status_in : List String)
  | proposal_resolved (node_id : String)
  deriving DecidableEq, Repr

/-- A row of `watchers`. Its continuation is kept as the two policy texts delivery compares and
    the control binding of an Experiment loop. -/
structure Watcher where
  watcher_id : String
  project_id : String
  origin_operation_id : String
  origin_task_kind : AgentTaskKind
  chat_id : String
  node_id : Option String := none
  episode_id : Option String := none
  graph_target : GraphTargetRef := .main
  execution_host : String := ""
  /-- `continuation.patch_kind == "experiment_loop"`. -/
  experiment_loop : Bool := false
  control_episode_id : Option String := none
  /-- `_watcher_delivery_policy(continuation)`. -/
  delivery_policy : String := ""
  /-- `_automatic_watcher_delivery_policy(continuation)`. -/
  automatic_delivery_policy : String := ""
  /-- `graph_condition_json`: present on a graph watcher only. -/
  condition : Option GraphCondition := none
  armed_revision : Option Nat := none
  status : WatcherStatus := .active
  created_at : Int := 0
  completed_at : Option Int := none
  consecutive_error_count : Nat := 0
  group_id : Option String := none
  group_label : Option String := none
  notified : Bool := false
  notification_operation_id : Option String := none
  stopped_by : Option WatcherStopper := none
  stop_reason : Option String := none
  stop_operation_id : Option String := none
  deriving DecidableEq, Repr

instance : Keyed Watcher String := ⟨Watcher.watcher_id⟩

/-- A row of `graph_watcher_reconciliation`: the last boundary consumed for a target. -/
structure ConsumedBoundary where
  revision : Nat
  transition_id : Option String
  deriving DecidableEq, Repr

structure WatcherStore where
  watchers : Table Watcher := Table.empty
  reconciliation : Dict (String × GraphTargetRef) ConsumedBoundary := Table.empty

namespace WatcherStore

/-- `UPDATE watchers SET .. WHERE ..`: a statement that keeps the primary key. -/
def update_watchers (s : WatcherStore) (p : Watcher → Bool) (set : Watcher → Watcher)
    (hset : ∀ w, (set w).watcher_id = w.watcher_id) : WatcherStore :=
  { s with
    watchers := s.watchers.update (fun w => if p w then set w else w) (by
      intro w
      show (if p w then set w else w).watcher_id = w.watcher_id
      split
      · exact hset w
      · rfl) }

theorem get?_update_watchers (s : WatcherStore) (p : Watcher → Bool) (set : Watcher → Watcher)
    (hset : ∀ w, (set w).watcher_id = w.watcher_id) (id : String) :
    (s.update_watchers p set hset).watchers.get? id
      = (s.watchers.get? id).map (fun w => if p w then set w else w) := by
  unfold update_watchers
  rw [Table.get?_update]

/-- `INSERT INTO watchers`: the primary key refuses a watcher id that is stored. -/
def insert_row (s : WatcherStore) (w : Watcher) : Option WatcherStore :=
  if s.watchers.contains w.watcher_id then none
  else some { s with watchers := s.watchers.put w }

end WatcherStore

/-! ### Creation -/

/-- What `_insert_watcher` reads of the origin task and of its episode. -/
structure WatcherOrigin where
  project_id : String
  episode_id : Option String
  graph_target : GraphTargetRef
  /-- The episode has a stop request or an ending. -/
  fenced : Bool
  deriving DecidableEq, Repr

/-- The row a fenced episode leaves of a new watcher. -/
def Watcher.stopped_at_birth (w : Watcher) : Watcher :=
  { w with status := .stopped, notified := true, stopped_by := some .loop }

def Watcher.is_graph (w : Watcher) : Bool := w.condition.isSome

/-- Whether a graph watcher would arm behind the boundary its target has consumed. -/
def WatcherStore.arms_behind (s : WatcherStore) (w : Watcher) : Bool :=
  w.is_graph && w.status ≠ .stopped &&
    match w.armed_revision, s.reconciliation.get (w.project_id, w.graph_target) with
    | some armed, some consumed => armed < consumed.revision
    | _, _ => false

/-- `_insert_watcher`. -/
def WatcherStore.insert_watcher (s : WatcherStore) (origin : String → Option WatcherOrigin)
    (w : Watcher) : Option WatcherStore :=
  match origin w.origin_operation_id with
  | none =>
    if w.graph_target ≠ .main then none
    else if s.arms_behind w then none
    else s.insert_row w
  | some o =>
    if o.project_id ≠ w.project_id
        || (o.episode_id.isSome && o.episode_id ≠ w.episode_id)
        || o.graph_target ≠ w.graph_target then none
    else
      let w := if o.fenced && w.status ≠ .stopped then w.stopped_at_birth else w
      if s.arms_behind w then none else s.insert_row w

/-- What one watch list shares. -/
def Watcher.binding (w : Watcher) : List String × AgentTaskKind × GraphTargetRef ×
    List (Option String) × Bool :=
  ([w.project_id, w.origin_operation_id, w.chat_id, w.execution_host, w.delivery_policy],
    w.origin_task_kind, w.graph_target, [w.node_id, w.episode_id, w.control_episode_id],
    w.experiment_loop)

/-- `_validate_watch_list`. -/
def validate_watch_list (records : List Watcher) : Bool :=
  !records.isEmpty && (records.map Watcher.watcher_id).Nodup
    && records.all (fun a => records.all (fun b => a.binding = b.binding))
    && records.all (fun w => !(w.is_graph && w.status = .degraded))
    && records.all (fun w => !(w.is_graph && w.armed_revision.isNone))
    && records.all (fun w => !(w.is_graph && w.group_id.isSome))
    && records.all (fun w => w.group_id.isNone = w.group_label.isNone)
    && records.all (fun w => w.group_id.isNone || w.experiment_loop)
    && records.all (fun w => w.group_id.isNone
      || decide (2 ≤ (records.filter (fun v => v.group_id = w.group_id)).length))
    && records.all (fun w => !w.experiment_loop
      || (w.control_episode_id.isSome && w.episode_id = w.control_episode_id))

/-- `create_watchers`, on prepared records. -/
def WatcherStore.create_watchers (s : WatcherStore) (origin : String → Option WatcherOrigin)
    (records : List Watcher) : Option WatcherStore :=
  if validate_watch_list records then records.foldlM (fun s w => s.insert_watcher origin w) s
  else none

/-! ### Checks and graph results -/

/-- `record_watcher_check`, its write. -/
def WatcherStore.record_watcher_check (s : WatcherStore) (watcher_id : String)
    (status : WatcherStatus) (checked_at : Int) : WatcherStore :=
  s.update_watchers
    (fun w => w.watcher_id = watcher_id && !w.is_graph
      && (w.status = .active || w.status = .degraded) && !w.notified)
    (fun w => { w with
      status := status
      consecutive_error_count :=
        if status = .degraded then w.consecutive_error_count + 1 else 0
      completed_at :=
        if status = .completed then some (w.completed_at.getD checked_at) else w.completed_at })
    (fun _ => rfl)

inductive BoundaryResult
  | active
  | completed
  | removed
  deriving DecidableEq, Repr

/-- What a graph result writes on a row that is active and not notified. -/
def Watcher.with_result (w : Watcher) (evaluated_at : Int) : BoundaryResult → Watcher
  | .active => w
  | .completed => { w with status := .completed, completed_at := some evaluated_at }
  | .removed =>
    { w with
      status := .stopped
      notified := true
      stopped_by := some .loop
      stop_reason := some "Graph condition target was removed." }

theorem Watcher.with_result_watcher_id (w : Watcher) (evaluated_at : Int) (r : BoundaryResult) :
    (w.with_result evaluated_at r).watcher_id = w.watcher_id := by
  cases r <;> rfl

/-- A graph watcher that still waits. -/
def Watcher.waits (w : Watcher) : Bool := w.is_graph && w.status = .active && !w.notified

/-- `record_graph_watcher_result`. -/
def WatcherStore.record_graph_watcher_result (s : WatcherStore) (watcher_id : String)
    (result : BoundaryResult) (evaluated_at : Int) : WatcherStore :=
  s.update_watchers (fun w => w.watcher_id = watcher_id && w.waits)
    (fun w => w.with_result evaluated_at result)
    (fun w => w.with_result_watcher_id evaluated_at result)

/-- `initialize_graph_watcher_target_baselines`. -/
def WatcherStore.initialize_target_baselines (s : WatcherStore) (project_id : String)
    (target : GraphTargetRef) (armed_revision : Nat) : WatcherStore :=
  s.update_watchers
    (fun w => w.project_id = project_id && w.graph_target = target && w.armed_revision.isNone
      && w.waits)
    (fun w => { w with armed_revision := some armed_revision }) (fun _ => rfl)

/-- Whether a watcher is evaluated at a boundary. -/
def Watcher.sees (w : Watcher) (project_id : String) (head : GraphHeadRef) : Bool :=
  w.waits && w.project_id = project_id && w.graph_target = head.target &&
    match w.armed_revision with
    | none => false
    | some armed => armed < head.revision

/-- The writes of a boundary: the result on every watcher that sees it, and the consumed head. -/
def WatcherStore.write_boundary (s : WatcherStore) (project_id : String) (head : GraphHeadRef)
    (evaluate : Watcher → BoundaryResult) (evaluated_at : Int) : WatcherStore :=
  { s.update_watchers (fun w => w.sees project_id head)
      (fun w => w.with_result evaluated_at (evaluate w))
      (fun w => w.with_result_watcher_id evaluated_at (evaluate w)) with
    reconciliation := s.reconciliation.set (project_id, head.target)
      ⟨head.revision, head.transition_id⟩ }

/-- `consume_graph_watcher_boundary`: a repeated or older boundary writes nothing, a changed
    identity is refused. -/
def WatcherStore.consume_graph_watcher_boundary (s : WatcherStore) (project_id : String)
    (head : GraphHeadRef) (evaluate : Watcher → BoundaryResult) (evaluated_at : Int) :
    Option WatcherStore :=
  match s.reconciliation.get (project_id, head.target) with
  | none => some (s.write_boundary project_id head evaluate evaluated_at)
  | some last =>
    if head.revision < last.revision then some s
    else if last.revision = head.revision then
      if last.transition_id ≠ head.transition_id then none else some s
    else some (s.write_boundary project_id head evaluate evaluated_at)

/-! ### Stops -/

/-- `SET status = 'stopped', notified = 1, stopped_by = COALESCE(stopped_by, ..)`. -/
def Watcher.stop (stopper : WatcherStopper) (w : Watcher) : Watcher :=
  { w with status := .stopped, notified := true, stopped_by := some (w.stopped_by.getD stopper) }

def Watcher.live (w : Watcher) : Bool :=
  w.status = .active || w.status = .degraded || w.status = .completed

/-- `stop_watchers`: the human gives up on watchers that no turn has claimed. -/
def WatcherStore.stop_watchers (s : WatcherStore) (project_id : String) (ids : List String) :
    Option WatcherStore :=
  let rows := s.watchers.items.filter (fun w => ids.contains w.watcher_id)
  if ids.isEmpty || !ids.all (fun id => s.watchers.contains id)
      || rows.any (fun w => w.project_id ≠ project_id) then none
  else if rows.any (fun w => w.notification_operation_id.isSome) then none
  else if rows.any (fun w => w.notified && w.status ≠ .stopped) then none
  else some (s.update_watchers
    (fun w => w.project_id = project_id && ids.contains w.watcher_id && w.live
      && w.notification_operation_id.isNone)
    (Watcher.stop .human) (fun _ => rfl))

/-- A stop an agent asks for: the watcher and the reason. -/
structure WatcherStopRequest where
  stop_watcher_id : String
  reason : String
  deriving DecidableEq, Repr

/-- What the arming transaction of an Experiment turn reads besides the watchers. -/
structure WatcherHandoff where
  project_id : String
  origin_operation_id : String
  control_node_id : String
  /-- `_experiment_watcher_matches_current`. -/
  matches_current : Watcher → Bool
  /-- The episode has a stop request. -/
  stop_requested : Bool
  /-- The maintenance, binding and snapshot checks passed. -/
  admitted : Bool

/-- Whether one stop request passes `_validate_and_apply_agent_watcher_stops`. -/
def WatcherStore.agent_stop_valid (s : WatcherStore) (b : WatcherHandoff)
    (stop : WatcherStopRequest) : Bool :=
  match s.watchers.get? stop.stop_watcher_id with
  | none => false
  | some w =>
    if w.is_graph then false
    else if w.status = .stopped then
      (w.stopped_by = some .agent && w.stop_operation_id = some b.origin_operation_id
        && w.stop_reason = some stop.reason) || b.stop_requested
    else !(w.notified || w.notification_operation_id.isSome)
      && w.project_id = b.project_id && w.node_id = some b.control_node_id && b.matches_current w

/-- `_validate_and_apply_agent_watcher_stops`. -/
def WatcherStore.apply_agent_watcher_stops (s : WatcherStore) (b : WatcherHandoff)
    (stops : List WatcherStopRequest) : Option WatcherStore :=
  if stops.all (fun stop => s.agent_stop_valid b stop) then
    some (stops.foldl (fun s stop => s.update_watchers
      (fun w => w.watcher_id = stop.stop_watcher_id && w.live && !w.notified
        && w.notification_operation_id.isNone)
      (fun w => { w with
        status := .stopped
        notified := true
        stopped_by := some .agent
        stop_reason := some stop.reason
        stop_operation_id := some b.origin_operation_id }) (fun _ => rfl)) s)
  else none

/-- `UPDATE watchers .. WHERE watcher_id IN (..)` of the loop stop: no other guard. -/
def WatcherStore.stop_for_loop (s : WatcherStore) (ids : List String) : WatcherStore :=
  s.update_watchers (fun w => ids.contains w.watcher_id) (Watcher.stop .loop) (fun _ => rfl)

/-- `_validate_idempotent_watcher`. -/
def validate_idempotent_watcher (existing desired : Watcher) : Bool :=
  existing.is_graph = desired.is_graph && existing.binding = desired.binding
    && existing.group_id = desired.group_id && existing.group_label = desired.group_label
    && existing.condition = desired.condition

/-- One record of an idempotent handoff: stored ones are only retired, new ones inserted. -/
def WatcherStore.persist_one (s : WatcherStore) (b : WatcherHandoff)
    (origin : String → Option WatcherOrigin) (desired : Watcher) : Option WatcherStore :=
  match s.watchers.get? desired.watcher_id with
  | some existing =>
    if !validate_idempotent_watcher existing desired then none
    else if b.stop_requested && (existing.status ≠ .stopped || !existing.notified) then
      some (s.stop_for_loop [desired.watcher_id])
    else some s
  | none =>
    s.insert_watcher origin (if b.stop_requested then desired.stopped_at_birth else desired)

/-- `persist_experiment_watchers_idempotently`. -/
def WatcherStore.persist_experiment_watchers (s : WatcherStore) (b : WatcherHandoff)
    (origin : String → Option WatcherOrigin) (records : List Watcher)
    (stops : List WatcherStopRequest) : Option WatcherStore :=
  if !b.admitted || !(stops.map WatcherStopRequest.stop_watcher_id).Nodup then none
  else do
    let s ← s.apply_agent_watcher_stops b stops
    records.foldlM (fun s w => s.persist_one b origin w) s

/-- `settle_experiment_episode_wrapup`: only consumed watchers are retired. -/
def WatcherStore.settle_experiment_wrapup (s : WatcherStore) (episode_id : String) :
    WatcherStore :=
  s.update_watchers (fun w => w.episode_id = some episode_id && w.live && w.notified)
    (Watcher.stop .loop) (fun _ => rfl)

/-- `_settle_auto_research_watchers`. -/
def WatcherStore.settle_auto_research_watchers (s : WatcherStore) (episode_id reason : String) :
    WatcherStore :=
  s.update_watchers
    (fun w => w.episode_id = some episode_id && w.origin_task_kind = .auto_research && w.live)
    (fun w => { w.stop .loop with stop_reason := some (w.stop_reason.getD reason) })
    (fun _ => rfl)

/-! ### Readiness -/

/-- `WATCHER_GROUP_DIAGNOSTIC_ERROR_COUNT`. -/
def watcher_group_diagnostic_error_count : Nat := 5

/-- Retired by the agent that armed it, so no longer part of its group's delivery. -/
def Watcher.agent_retired (w : Watcher) : Bool := w.status = .stopped && w.stopped_by = some .agent

/-- Whether a group member can be delivered. -/
def Watcher.member_ready (w : Watcher) : Bool :=
  w.status = .completed
    || (w.status = .degraded && decide (watcher_group_diagnostic_error_count
      ≤ w.consecutive_error_count))

/-- `_ready_group_members`. -/
def ready_group_members (members : List Watcher) : Option (List Watcher) :=
  let deliverable := members.filter (fun w => !w.agent_retired)
  if members.isEmpty || members.any (fun w => w.group_id.isNone) then none
  else if !members.all (fun a => members.all (fun b => a.graph_target = b.graph_target)) then none
  else if members.any (fun w => w.status = .stopped && w.stopped_by ≠ some .agent) then none
  else if deliverable.isEmpty || deliverable.any (fun w => w.notified) then none
  else if !deliverable.all Watcher.member_ready then none
  else some deliverable

/-- `ORDER BY completed_at, created_at, watcher_id`. -/
def delivery_order (a b : Watcher) : Bool :=
  let key (w : Watcher) := (w.completed_at.isSome, w.completed_at.getD 0, w.created_at)
  if key a = key b then decide (a.watcher_id ≤ b.watcher_id)
  else (!(key a).1 && (key b).1) || ((key a).1 = (key b).1
    && (decide ((key a).2.1 < (key b).2.1) || ((key a).2.1 = (key b).2.1
      && decide ((key a).2.2 < (key b).2.2))))

/-- The rows of one group. -/
def WatcherStore.group_rows (s : WatcherStore) (group_id : String) : List Watcher :=
  s.watchers.items.filter (fun w => w.group_id = some group_id)

/-- The rows that may be delivered alone. -/
def WatcherStore.ungrouped_ready (s : WatcherStore) : List Watcher :=
  (s.watchers.items.filter (fun w => w.group_id.isNone && w.status = .completed && !w.notified)
    ).insertionSort (fun a b => delivery_order a b = true)

/-- The groups with a member that could be delivered, in the order of their first rows. -/
def WatcherStore.candidate_groups (s : WatcherStore) : List String :=
  ((s.watchers.items.insertionSort (fun a b => delivery_order a b = true)).filterMap
    Watcher.group_id).eraseDups.filter (fun group_id =>
      (s.group_rows group_id).any (fun w => !w.notified && w.member_ready))

/-- `_ready_watcher_delivery_units`; `suppressed` is `_watcher_suppressed_by_current_stop`. -/
def WatcherStore.ready_watcher_delivery_units (s : WatcherStore) (suppressed : Watcher → Bool) :
    List (List Watcher) :=
  (s.ungrouped_ready.filter (fun w => !suppressed w)).map (fun w => [w]) ++
    s.candidate_groups.filterMap (fun group_id =>
      match ready_group_members
          ((s.group_rows group_id).insertionSort (fun a b => delivery_order a b = true)) with
      | none => none
      | some [] => none
      | some (first :: rest) => if suppressed first then none else some (first :: rest))

/-- The key under which compatible units are delivered together. -/
def Watcher.delivery_key (w : Watcher) : String × GraphTargetRef ×
    Option (AgentTaskKind × String) × Option String × String × String :=
  if w.experiment_loop then
    (w.project_id, w.graph_target, none, w.node_id, w.execution_host, w.automatic_delivery_policy)
  else
    (w.project_id, w.graph_target, some (w.origin_task_kind, w.chat_id), w.node_id,
      w.execution_host, w.automatic_delivery_policy)

/-- Whether a group is delivered together with a watcher. -/
def delivered_with (first : Watcher) (group : List Watcher) : Bool :=
  match group with
  | [] => false
  | w :: _ => w.delivery_key = first.delivery_key

/-- Append a unit to the group of its first member. -/
def add_unit (groups : List (List Watcher)) (unit : List Watcher) : List (List Watcher) :=
  match unit with
  | [] => groups
  | first :: _ =>
    if groups.any (delivered_with first) then
      groups.map (fun g => if delivered_with first g then g ++ unit else g)
    else groups ++ [unit]

/-- `completed_watcher_groups`. -/
def WatcherStore.completed_watcher_groups (s : WatcherStore) (suppressed : Watcher → Bool) :
    List (List Watcher) :=
  (s.ready_watcher_delivery_units suppressed).foldl add_unit []

/-! ### Claims -/

/-- Ready for a claim: completed or degraded, and not notified. -/
def Watcher.claimable (w : Watcher) : Bool :=
  (w.status = .completed || w.status = .degraded) && !w.notified

/-- `_validate_watcher_notification_members`. -/
def WatcherStore.validate_notification_members (s : WatcherStore) (watchers : List Watcher) :
    Bool :=
  watchers.all (fun w =>
    match w.group_id with
    | none => w.status = .completed
    | some group_id =>
      match ready_group_members (s.group_rows group_id) with
      | none => false
      | some ready => ready.all (fun r => watchers.any (fun v => v.watcher_id = r.watcher_id)))

/-- A claim: the operation that wakes, the watchers it names, and whether the rest of the
    admitting transaction went through. -/
structure WatcherClaim where
  operation_id : String
  project_id : String
  watcher_ids : List String
  /-- The claim is made by `create_experiment_watcher_invocation` or
      `create_experiment_episode_with_invocation`. -/
  experiment : Bool
  /-- The checks on tasks and episodes passed and the task was inserted. -/
  admitted : Bool

/-- The bindings one claim may not mix. -/
def Watcher.claim_binding (w : Watcher) : Option (AgentTaskKind × String) × Option String ×
    Option GraphTargetRef × String × String :=
  if w.experiment_loop then
    (none, w.node_id, some w.graph_target, w.execution_host, w.automatic_delivery_policy)
  else
    (some (w.origin_task_kind, w.chat_id), w.node_id, none, w.execution_host, w.delivery_policy)

/-- Whether the claim passes every check on the watcher rows. -/
def WatcherStore.claim_valid (s : WatcherStore) (c : WatcherClaim) : Bool :=
  let rows := s.watchers.items.filter (fun w => c.watcher_ids.contains w.watcher_id && w.claimable)
  !c.watcher_ids.isEmpty && c.watcher_ids.Nodup
    && c.watcher_ids.all (fun id => rows.any (fun w => w.watcher_id = id))
    && s.validate_notification_members rows
    && rows.all (fun w => w.project_id = c.project_id)
    && rows.all (fun a => rows.all (fun b => a.claim_binding = b.claim_binding))
    && (!c.experiment || rows.all (fun w => w.experiment_loop))

/-- `create_watcher_notification_task` and `_claim_experiment_watchers`: the watchers are marked
    notified with the operation in the transaction that inserts its task, or not at all. -/
def WatcherStore.claim_watchers (s : WatcherStore) (c : WatcherClaim) : Option WatcherStore :=
  if s.claim_valid c && c.admitted then
    some (s.update_watchers (fun w => c.watcher_ids.contains w.watcher_id && w.claimable)
      (fun w => { w with notified := true, notification_operation_id := some c.operation_id })
      (fun _ => rfl))
  else none

/-- `resolve_watcher_delivery_authorizer`, where no human can be held to the wake: the ready
    watchers are consumed with a diagnostic. -/
def WatcherStore.terminate_unauthorized (s : WatcherStore) (ids : List String)
    (diagnostic : String) : Option WatcherStore :=
  let rows := s.watchers.items.filter (fun w => ids.contains w.watcher_id && w.claimable
    && w.notification_operation_id.isNone)
  if !ids.isEmpty && ids.Nodup && ids.all (fun id => rows.any (fun w => w.watcher_id = id))
      && s.validate_notification_members rows then
    some (s.update_watchers (fun w => ids.contains w.watcher_id && w.claimable
        && w.notification_operation_id.isNone)
      (fun w => { w with status := .stopped, notified := true, stop_reason := some diagnostic })
      (fun _ => rfl))
  else none

/-! ### Steps -/

inductive WatcherOp
  | create (origin : String → Option WatcherOrigin) (records : List Watcher)
  | persist (binding : WatcherHandoff) (origin : String → Option WatcherOrigin)
      (records : List Watcher) (stops : List WatcherStopRequest)
  | check (watcher_id : String) (status : WatcherStatus) (checked_at : Int)
  | graph_result (watcher_id : String) (result : BoundaryResult) (evaluated_at : Int)
  | arm_baselines (project_id : String) (target : GraphTargetRef) (armed_revision : Nat)
  | consume_boundary (project_id : String) (head : GraphHeadRef)
      (evaluate : Watcher → BoundaryResult) (evaluated_at : Int)
  | human_stop (project_id : String) (ids : List String)
  | loop_stop (ids : List String)
  | settle_experiment (episode_id : String)
  | settle_auto_research (episode_id reason : String)
  | claim (claim : WatcherClaim)
  | terminate (ids : List String) (diagnostic : String)

namespace WatcherStore

/-- One operation; a refused one leaves the store as it was. -/
def apply (s : WatcherStore) : WatcherOp → WatcherStore
  | .create origin records => (s.create_watchers origin records).getD s
  | .persist binding origin records stops =>
    (s.persist_experiment_watchers binding origin records stops).getD s
  | .check watcher_id status checked_at => s.record_watcher_check watcher_id status checked_at
  | .graph_result watcher_id result evaluated_at =>
    s.record_graph_watcher_result watcher_id result evaluated_at
  | .arm_baselines project_id target armed_revision =>
    s.initialize_target_baselines project_id target armed_revision
  | .consume_boundary project_id head evaluate evaluated_at =>
    (s.consume_graph_watcher_boundary project_id head evaluate evaluated_at).getD s
  | .human_stop project_id ids => (s.stop_watchers project_id ids).getD s
  | .loop_stop ids => s.stop_for_loop ids
  | .settle_experiment episode_id => s.settle_experiment_wrapup episode_id
  | .settle_auto_research episode_id reason => s.settle_auto_research_watchers episode_id reason
  | .claim c => (s.claim_watchers c).getD s
  | .terminate ids diagnostic => (s.terminate_unauthorized ids diagnostic).getD s

/-- The watchers an operation claims. -/
def claimed_by (s : WatcherStore) : WatcherOp → List String
  | .claim c => if s.claim_valid c && c.admitted then c.watcher_ids else []
  | _ => []

end WatcherStore

end ResearchGraph
