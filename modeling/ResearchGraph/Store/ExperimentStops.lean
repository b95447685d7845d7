import ResearchGraph.Store.LoopInvocations

/-! # Stopping an Experiment loop

    Stop settles once the authorized turn of a loop is resolved: no task of the
    loop is left that a human may still resume, or the saved session is known to
    be unusable and Stop abandons the tasks that stopped short. The runtime of
    the loop derives from the same tasks whether one of them is active. The
    watchers that a settled Stop retires are in `Store.Watchers`.
-/

namespace ResearchGraph

open Lib

/-- The statuses of a turn that is not resolved. -/
def AgentTaskStatus.unresolved : AgentTaskStatus → Bool
  | .queued | .running | .pausing | .paused | .failed | .interrupted => true
  | .succeeded => false

/-! ### Rows -/

/-- A row of `experiment_episode_state`. -/
structure ExperimentState where
  episode_id : String
  session_diagnostic : Option String := none
  deriving DecidableEq, Repr

instance : Keyed ExperimentState String := ⟨ExperimentState.episode_id⟩

/-- A context candidate in `graph_run_contracts`; `valid` says that its content is a JSON object. -/
structure ContextCandidate where
  operation_id : String
  valid : Bool
  deriving DecidableEq, Repr

instance : Keyed ContextCandidate String := ⟨ContextCandidate.operation_id⟩

/-- The tables that Stop and the runtime of a loop read. -/
structure ExperimentStore where
  store : EpisodeStore := {}
  states : Table ExperimentState := Table.empty
  candidates : Table ContextCandidate := Table.empty

/-- `bool(diagnostic)`. -/
def truthy (diagnostic : Option String) : Option String := diagnostic.filter (· ≠ "")

namespace EpisodeStore

/-- The tasks of a loop that are not resolved and that no task continues. -/
def unresolved_leaves (s : EpisodeStore) (project_id control_node_id episode_id : String) :
    List AgentTaskRecord :=
  (s.loop_tasks project_id (some control_node_id) (some episode_id)).filter fun t =>
    t.status.unresolved
      && !s.tasks.items.any (fun child => child.parent_operation_id = some t.operation_id)

/-! ### Recovery context -/

def cyclic_lineage : String :=
  "This Experiment-loop turn cannot be resumed or retried because its task lineage contains a " ++
    "cycle. Use Stop loop and press Run to start a fresh episode."

def incomplete_lineage : String :=
  "This Experiment-loop turn cannot be resumed or retried because its task lineage is incomplete. "
    ++ "Use Stop loop and press Run to start a fresh episode."

/-- The root of the lineage of a task. A lineage without a cycle is no longer than the table, so
    `fuel` above its length never runs out. -/
def lineage_root (s : EpisodeStore) : Nat → List String → String → Except String String
  | 0, _, _ => .error cyclic_lineage
  | fuel + 1, seen, current_id =>
    if seen.contains current_id then .error cyclic_lineage
    else match s.tasks.get? current_id with
      | none => .error incomplete_lineage
      | some row => row.parent_operation_id.elim (.ok current_id) (fun parent_id =>
        lineage_root s fuel (current_id :: seen) parent_id)

/-- Write the `experiment_recovery_abandoned` receipts that are missing. -/
def abandon_recoveries (s : EpisodeStore) (tasks : List AgentTaskRecord) : EpisodeStore :=
  { s with
    experiment_abandoned := s.experiment_abandoned
      ++ (tasks.map (fun t => t.operation_id)).filter
        (fun id => !s.experiment_abandoned.contains id) }

end EpisodeStore

namespace ExperimentStore

variable (s : ExperimentStore)

/-- `_MISSING_EXPERIMENT_EPISODE_CONTEXT_DIAGNOSTIC`. -/
def missing_context : String :=
  "This Experiment-loop turn cannot be resumed or retried because its pre-migration root has no " ++
    "retained episode context candidate. Use Stop loop and press Run to start a fresh episode."

def invalid_context : String :=
  "This Experiment-loop turn cannot be resumed or retried because its retained episode context " ++
    "candidate is invalid. Use Stop loop and press Run to start a fresh episode."

/-- `_experiment_episode_recovery_context_problem`. -/
def recovery_context_problem (operation_id : String) : Option String :=
  match s.store.lineage_root (s.store.tasks.items.length + 1) [] operation_id with
  | .error problem => some problem
  | .ok root => (s.candidates.get? root).elim (some missing_context) (fun candidate =>
    if candidate.valid then none else some invalid_context)

/-- `_experiment_episode_row`. -/
def experiment_episode_row (episode_id : String) : Option (Episode × ExperimentState) :=
  (s.states.get? episode_id).bind fun state =>
    ((s.store.episodes.get? episode_id).filter (fun e => e.mode = .experiment_loop)).map
      (fun e => (e, state))

/-- `UPDATE experiment_episode_state SET session_diagnostic = ? WHERE episode_id = ?`. -/
def set_diagnostic (episode_id : String) (diagnostic : Option String) : ExperimentStore :=
  { s with
    states := s.states.update
      (fun state => if state.episode_id = episode_id then
        { state with session_diagnostic := diagnostic } else state)
      (by
        intro state
        show (if state.episode_id = episode_id then { state with session_diagnostic := diagnostic }
          else state).episode_id = state.episode_id
        split <;> rfl) }

/-! ### Settlement -/

/-- The diagnostic under which unresolved tasks may be abandoned: the one of the episode, else the
    first problem of their recovery contexts. -/
def settling_diagnostic (state : ExperimentState) (unresolved : List AgentTaskRecord) :
    Option String :=
  truthy state.session_diagnostic
    <|> unresolved.findSome? (fun t => s.recovery_context_problem t.operation_id)

/-- The store after settlement has written down a diagnostic that it found itself. -/
def recorded (state : ExperimentState) (unresolved : List AgentTaskRecord) : ExperimentStore :=
  if (truthy state.session_diagnostic).isNone
    && (s.settling_diagnostic state unresolved).isSome then
    s.set_diagnostic state.episode_id (s.settling_diagnostic state unresolved)
  else s

/-- The tasks all stopped short, and a diagnostic says that their session cannot be continued. -/
def abandonable (state : ExperimentState) (unresolved : List AgentTaskRecord) : Bool :=
  (s.settling_diagnostic state unresolved).isSome
    && unresolved.all (fun t => t.status.recoverable)

/-- The part of `_settle_experiment_loop_stop` after its unresolved tasks are known. -/
def settle_unresolved (state : ExperimentState) (unresolved : List AgentTaskRecord) :
    ExperimentStore × Bool :=
  let s' := s.recorded state unresolved
  if s.abandonable state unresolved then
    ({ s' with store := s'.store.abandon_recoveries unresolved }, true)
  else (s', false)

/-- `_settle_experiment_loop_stop`: whether the loop is quiescent. -/
def settle_experiment_loop_stop (project_id control_node_id episode_id : String) :
    ExperimentStore × Bool :=
  (s.experiment_episode_row episode_id).elim (s, false) fun (e, state) =>
    if e.project_id ≠ project_id || e.control_node_id ≠ some control_node_id
        || e.stop_requested_at.isNone then (s, false)
    else
      let unresolved := s.store.unresolved_leaves project_id control_node_id episode_id
      if unresolved.isEmpty then (s, true) else s.settle_unresolved state unresolved

end ExperimentStore

/-! ### Runtime -/

/-- `ExperimentLoopRuntime`, without the pinned request fields that it copies. -/
structure ExperimentLoopRuntime where
  episode_id : Option String := none
  invocations_used : Nat := 0
  invocation_ceiling : Option Nat := none
  active : Bool := false
  episode_live : Bool := false
  paused : Bool := false
  task_active : Bool := false
  episode_exited : Bool := false
  stop_requested : Bool := false
  session_diagnostic : Option String := none
  current_operation_id : Option String := none
  current_status : Option AgentTaskStatus := none
  current_invocation : Option Nat := none
  deriving DecidableEq, Repr

namespace ExperimentStore

variable (s : ExperimentStore)

/-- The newest attempt of an invocation. -/
def newest_attempt (entries : List AgentTaskRecord) (invocation : Nat) : Option AgentTaskRecord :=
  latest EpisodeStore.attempt_le
    (entries.filter (fun t => t.request.control_invocation = some invocation))

/-- The task may still be acted on. -/
def actionable (t : AgentTaskRecord) : Bool :=
  t.status.unresolved && !s.store.experiment_abandoned.contains t.operation_id

/-- `unresolved` in `_derive_experiment_loop_runtime`: an invocation is active when its newest
    attempt may still be acted on. -/
def unresolved_invocation (entries : List AgentTaskRecord) : Bool :=
  (entries.filterMap (fun t => t.request.control_invocation)).any fun invocation =>
    (newest_attempt entries invocation).any s.actionable

/-- `_derive_experiment_loop_runtime` of an episode. `has_watcher` says whether a compatible watcher
    waits; the pins of the root were checked when it was inserted. -/
def derive_experiment_loop_runtime (parent : Episode) (has_watcher : Bool) :
    Except String ExperimentLoopRuntime :=
  match latest (fun a b => a.created_at ≤ b.created_at)
      (s.store.loop_roots parent.project_id parent.control_node_id (some parent.episode_id)) with
  | none => .error "Stored Experiment episode is missing its paid root task."
  | some root =>
    let entries := s.store.loop_tasks parent.project_id parent.control_node_id
      (some parent.episode_id)
    let ceiling := root.request.control_invocation_ceiling.getD 0
    if ceiling < 1 then .error "Stored experiment-loop root is missing its pinned ceiling."
    else if entries.all (fun t => t.request.control_invocation.isNone)
        || entries.any (fun t => t.request.control_invocation = some 0) then
      .error "Stored experiment-loop root is missing its invocation number."
    else if s.store.out_of_sequence parent then
      .error "Stored experiment-loop root invocations are out of sequence."
    else if ceiling ≠ parent.invocation_ceiling then
      .error "Stored experiment-loop root changed its parent invocation ceiling."
    else
      let unresolved := s.unresolved_invocation entries
      let episode_exited := parent.ending.isSome
        || entries.any (fun t => s.store.loop_exits.contains t.operation_id)
      let at_ceiling := decide (ceiling ≤ parent.invocations_used)
      let current := latest (fun a b => a.created_at ≤ b.created_at) entries
      .ok
        { episode_id := some parent.episode_id
          invocations_used := parent.invocations_used
          invocation_ceiling := some ceiling
          active := (parent.status = .running || parent.status = .stopping)
            && (unresolved || (has_watcher && !at_ceiling && !episode_exited
              && parent.stop_requested_at.isNone))
          episode_live := parent.status.live
          paused := parent.status = .running && at_ceiling && !unresolved && !episode_exited
            && parent.stop_requested_at.isNone
          task_active := unresolved
          episode_exited := episode_exited
          stop_requested := parent.stop_requested_at.isSome
          session_diagnostic := (s.states.get? parent.episode_id).bind
            ExperimentState.session_diagnostic
          current_operation_id := current.map (fun t => t.operation_id)
          current_status := current.map (fun t => t.status)
          current_invocation := current.bind (fun t => t.request.control_invocation) }

end ExperimentStore

/-! ### Operations -/

inductive StopOp
  | episode (op : EpisodeOp)
  | record_context_candidate (candidate : ContextCandidate)
  | record_experiment_episode_diagnostic (episode_id project_id control_node_id : String)
      (diagnostic : Option String)
  | terminalize_watchers (episode_ids : List String) (diagnostic : String)
  | commit_experiment_episode_turn (episode_id project_id control_node_id operation_id : String)
      (invocation : Nat)
  | settle_experiment_loop_stop (project_id control_node_id episode_id : String)

namespace ExperimentStore

variable (s : ExperimentStore)

/-- An Experiment episode is created together with its state row. -/
def open_state (op : EpisodeOp) (store : EpisodeStore) : ExperimentStore :=
  match op with
  | .create_experiment_episode_with_invocation t _ _ =>
    { s with
      store := store
      states := t.episode_id.elim s.states (fun episode_id =>
        s.states.put { episode_id := episode_id }) }
  | _ => { s with store := store }

/-- The row of the diagnostic and the turn operations. -/
def owned_row (episode_id project_id control_node_id : String) :
    Option (Episode × ExperimentState) :=
  (s.experiment_episode_row episode_id).filter fun (e, _) =>
    e.project_id = project_id && e.control_node_id = some control_node_id

/-- The accepted handoff is of an exact task of the episode. -/
def turn_matches (episode_id project_id control_node_id operation_id : String) (invocation : Nat) :
    Bool :=
  (s.store.tasks.get? operation_id).any fun turn =>
    turn.project_id = project_id && turn.episode_id = some episode_id
      && turn.request.control_node_id = some control_node_id
      && turn.request.control_invocation = some invocation

/-- One transaction; `none` is a refusal. The binding and the watchers of a committed turn are not
    of this store. -/
def exec : StopOp → Option ExperimentStore
  | .episode op => (s.store.exec op).map (s.open_state op)
  | .record_context_candidate candidate =>
    some { s with candidates := s.candidates.put candidate }
  | .record_experiment_episode_diagnostic episode_id project_id control_node_id diagnostic =>
    (s.owned_row episode_id project_id control_node_id).map fun _ =>
      s.set_diagnostic episode_id diagnostic
  | .terminalize_watchers episode_ids diagnostic =>
    some (episode_ids.foldl (fun s episode_id => s.set_diagnostic episode_id (some diagnostic)) s)
  | .commit_experiment_episode_turn episode_id project_id control_node_id operation_id invocation =>
    (s.owned_row episode_id project_id control_node_id).bind fun _ =>
      if s.turn_matches episode_id project_id control_node_id operation_id invocation then
        some (s.set_diagnostic episode_id none)
      else none
  | .settle_experiment_loop_stop project_id control_node_id episode_id =>
    some (s.settle_experiment_loop_stop project_id control_node_id episode_id).1

/-- The store after an operation: a refusal leaves it as it was. -/
def apply (op : StopOp) : ExperimentStore := (s.exec op).getD s

def run (ops : List StopOp) : ExperimentStore := Lib.run apply s ops

end ExperimentStore

end ResearchGraph
