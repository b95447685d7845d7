import ResearchGraph.Transitions
import ResearchGraph.Validation.Approval
import ResearchGraph.Validation.ExperimentLoop
import ResearchGraph.Validation.Proposals

/-! # Patch validation (`rcp/core/validation/patch.py`)

    The rules that judge a Patch as a whole, around the operation loop.
-/

namespace ResearchGraph

open Lib

variable [TextLibrary]

/-! ### Provenance shapes -/

def validate_authorship (ctx : OpContext) : Rule Unit :=
  let p := ctx.patch
  if p.kind = .identity then do
    Check.when (p.producer ≠ .system) (reject "wrong-producer"
      "Identity patches must be produced by RCP's system producer." ctx.revision)
    Check.when (p.author ≠ none) (reject "wrong-author"
      "Identity patches have no human or agent author." ctx.revision)
  else do
    let expected_author : Author := if p.kind = .approval then .human else .agent
    let expected_producer : Option Producer := p.author.map (fun
      | .agent => .agent
      | .human => .human)
    Check.when (p.author ≠ some expected_author) (reject "wrong-author"
      (s!"{p.kind.name} patches must be authored by "
        ++ (if p.kind = .approval then "human." else "agent.")) ctx.revision)
    (if p.producer = .system then
      reject "system-producer-forbidden" "The system producer is reserved for identity patches."
        ctx.revision
    else Check.when (some p.producer ≠ expected_producer) (reject "producer-author-mismatch"
      "Human and agent patches must retain the same producer and legacy author role."
      ctx.revision))

/-- The payloads an identity Patch may not carry. -/
def validate_identity_payload (ctx : OpContext) : Rule Unit := do
  let p := ctx.patch
  Check.when (p.project_identity.isNone ∧ p.project_home_transfer.isNone)
    (reject "missing-project-identity"
      "Identity patches require exactly one project identity payload." ctx.revision)
  Check.when (p.project_identity.isSome ∧ p.project_home_transfer.isSome)
    (reject "conflicting-identity-payloads"
      "Identity patches cannot combine a project identity and home transfer." ctx.revision)
  Check.when (p.ops ≠ []) (reject "identity-has-operations"
    "Identity patches cannot carry graph operations." ctx.revision)
  Check.when (p.run_truth_scope ≠ [] ∨ p.repositories_read ≠ []) (reject "identity-has-run-scope"
    "Identity patches cannot carry raw repository scope." ctx.revision)
  Check.when (p.processed_cursors.items ≠ []) (reject "identity-has-cursors"
    "Identity patches cannot carry coverage cursors." ctx.revision)
  Check.when (p.source_operation_id.isSome ∨ p.source_effect_id.isSome
      ∨ p.source_effect_sha256.isSome) (reject "identity-has-operation-id"
    "Identity patches cannot carry an operation or effect id." ctx.revision)
  Check.when (p.human_action.isSome) (reject "identity-has-human-action"
    "Identity patches cannot carry a human authority action." ctx.revision)
  Check.when (p.agent_action.isSome) (reject "identity-has-agent-action"
    "Identity patches cannot carry an agent authority action." ctx.revision)
  Check.when (p.experiment_control_node_id.isSome ∨ p.experiment_decision_bundle ≠ [])
    (reject "identity-has-experiment-control"
      "Identity patches cannot carry experiment control metadata." ctx.revision)
  Check.when (p.authorized_by.isSome ∨ p.profile.isSome ∨ p.task_id.isSome)
    (reject "identity-has-attribution"
      "Identity patches cannot carry human or task attribution." ctx.revision)

def validate_identity_shape (ctx : OpContext) : Rule Unit :=
  let p := ctx.patch
  if p.kind ≠ .identity then do
    Check.when (p.project_identity.isSome) (reject "unexpected-project-identity"
      "Project identity is legal only on identity patches." ctx.revision)
    Check.when (p.project_home_transfer.isSome) (reject "unexpected-project-home-transfer"
      "Project home transfer is legal only on identity patches." ctx.revision)
  else validate_identity_payload ctx

/-- `not value` for an optional text. -/
def absent (value : Option String) : Bool := value.all (· = "")

def validate_attribution (ctx : OpContext) : Rule Unit :=
  let p := ctx.patch
  if p.authorized_by.isNone ∧ p.profile.isNone ∧ p.task_id.isNone then pure ()
  else if p.kind = .approval then
    Check.when (p.authorized_by.isNone ∨ p.profile.isSome ∨ p.task_id.isSome)
      (reject "invalid-human-attribution"
        ("An attributed human approval requires authorized_by and cannot carry an "
          ++ "agent profile or task id.") ctx.revision)
  else Check.when (p.authorized_by.isNone ∨ p.profile.isNone ∨ absent p.task_id)
    (reject "invalid-agent-attribution"
      ("An attributed agent patch requires authorized_by, one known agent profile, and a "
        ++ "non-empty direct task id.") ctx.revision)

def validate_attribution_shape (ctx : OpContext) : Rule Unit :=
  let p := ctx.patch
  if p.kind = .identity then pure ()
  else do
    Check.when (p.source_effect_id.isNone ≠ p.source_effect_sha256.isNone)
      (reject "invalid-source-effect"
        "A source effect id and its exact Patch digest must be present together." ctx.revision)
    Check.when (p.source_effect_id.isSome
        ∧ (p.author ≠ some .agent ∨ absent p.source_operation_id))
      (reject "invalid-source-effect"
        "A source effect id requires one direct agent task source operation." ctx.revision)
    validate_attribution ctx

/-- Whether some update of the Patch writes the outcome of a Decision. -/
def has_declared_decision_outcome (ctx : OpContext) : Bool :=
  let is_decision (id : String) :=
    (ctx.initial_state.nodes.get? id).any (fun n => n.type = .decision)
      || (created_nodes_of ctx.patch.ops).any (fun raw =>
        raw.node.id = id && raw.node.type = .decision)
  (ctx.patch.ops.flatMap GraphOperation.updates).any (fun u => is_decision u.id
    && (Dict.get u.changes "status" = some (.str "decided")
      || sets_value u.changes "selected_option"))

/-- The elevated producer names its Decision outcomes. -/
def validate_agent_action (ctx : OpContext) : Rule Unit := do
  let p := ctx.patch
  let outcome := has_declared_decision_outcome ctx
  Check.when (p.author = some .agent ∧ p.profile = some .orchestrator ∧ outcome
      ∧ p.agent_action ≠ some .decision_choice) (reject "missing-decision-action"
    "An orchestrator Decision outcome requires agent_action='decision_choice'." ctx.revision)
  (if p.agent_action = none then pure ()
  else if p.author ≠ some .agent ∨ p.profile ≠ some .orchestrator then
    reject "invalid-agent-action"
      "Only the orchestrator profile may declare an agent authority action." ctx.revision
  else Check.when (¬ outcome) (reject "unused-agent-action"
    "agent_action='decision_choice' must name a real Decision outcome in this Patch."
    ctx.revision))

def validate_declared_agent_action (ctx : OpContext) : Rule Unit :=
  let p := ctx.patch
  if p.human_action.isSome ∧ p.agent_action.isSome then
    reject "conflicting-authority-actions"
      "A Patch cannot declare both a human and an agent authority action." ctx.revision
  else do
    Check.when (p.human_action.isSome ∧ (p.kind ≠ .approval ∨ p.author ≠ some .human))
      (reject "invalid-human-action"
        "Only a human approval Patch may declare a human authority action." ctx.revision)
    validate_agent_action ctx

def validate_declared_scope (ctx : OpContext) : Rule Unit :=
  let p := ctx.patch
  if p.kind = .identity then pure ()
  else if p.kind = .approval then
    Check.when (p.run_truth_scope ≠ [] ∨ p.repositories_read ≠ []) (reject "approval-has-run-scope"
      "Human approval patches cannot carry raw repository scope." ctx.revision)
  else do
    Check.when (p.run_truth_scope = []) (reject "empty-run-scope"
      "Agent patches require a non-empty run truth scope." ctx.revision)
    let outside := sorted_diff p.run_truth_scope ctx.project_truth_scope
    Check.when (outside ≠ []) (reject "run-scope-outside-project"
      (s!"Run scope contains repositories outside project truth scope: "
        ++ s!"{repr_list outside}.") ctx.revision)
    let read_outside := sorted_diff p.repositories_read p.run_truth_scope
    Check.when (read_outside ≠ []) (reject "read-outside-run-scope"
      s!"Patch read repositories outside its run scope: {repr_list read_outside}." ctx.revision)

/-! ### Queued Decisions -/

/-- The nodes whose final form a Patch wrote. -/
def touched_node_ids (ops : List GraphOperation) : List String :=
  ops.flatMap (fun
    | .create_nodes nodes => nodes.map (·.node.id)
    | .update_nodes updates => updates.map (·.id)
    | .supersede_nodes nodes => nodes.map (·.id)
    | .merge_nodes merges => merges.map (·.duplicate)
    | .set_standing node_id _ => [node_id]
    | _ => [])

/-- A Decision that is queued offers at least two distinct options. -/
def validate_ballot (s : GraphState) (revision : Option Nat) (node_id : String) : Rule Unit :=
  match s.nodes.get? node_id with
  | none => pure ()
  | some n => match n.body with
    | .decision d => Check.when ((d.status = .ready ∨ d.status = .revisit)
          ∧ d.options.dedup.length < 2)
        (reject "incomplete-decision-ballot"
          (s!"Decision {n.id} must have at least two distinct options before it can be "
            ++ s!"queued as {literal_name DecisionStatus.names d.status}.") revision [n.id])
    | _ => pure ()

def validate_queued_decision_options (ctx : OpContext) (staged : GraphState) : Rule Unit :=
  Check.when (ctx.mode = .admission)
    (Check.forEach (sorted_set (touched_node_ids ctx.patch.ops))
      (validate_ballot staged ctx.revision))

/-! ### Liveness of created Proposals -/

/-- Edges an operation writes, with their endpoints. -/
def created_edges (op : GraphOperation) : List (String × String × String) :=
  match op with
  | .create_edges edges => edges.map (fun e => (e.named_id, e.source, e.target))
  | .supersede_nodes nodes => nodes.filterMap (fun item => item.superseded_by.map (fun target =>
      (derived_edge_id item.id "supersedes" target, item.id, target)))
  | .merge_nodes merges => merges.map (fun item =>
      (derived_edge_id item.duplicate "duplicate_of" item.canonical,
        item.duplicate, item.canonical))
  | _ => []

/-- The nodes and edges present at some point of a Patch. -/
structure Presence where
  nodes : List String
  edges : Dict String (String × String)

/-- `_update_resource_presence` -/
def Presence.update (present : Presence) (op : GraphOperation) : Presence :=
  let present : Presence := match op with
    | .create_nodes nodes => { present with nodes := present.nodes ++ nodes.map (·.node.id) }
    | .remove_nodes node_ids =>
      { nodes := present.nodes.filter (fun id => id ∉ node_ids)
        edges := Table.filter present.edges
          (fun e => e.2.1 ∉ node_ids ∧ e.2.2 ∉ node_ids) }
    | .remove_edges edge_ids =>
      { present with edges := edge_ids.foldl Table.erase present.edges }
    | _ => present
  { present with
    edges := (created_edges op).foldl (fun d e => Dict.set d e.1 e.2) present.edges }

/-- What is present in the graph a Patch starts from. -/
def initial_presence (s : GraphState) : Presence where
  nodes := s.nodes.keys
  edges := Table.ofList (s.edges.items.map (fun e => (e.id, e.source, e.target)))

/-- Nodes an operation rewrites or removes. -/
def changed_nodes (op : GraphOperation) : List String :=
  match op with
  | .update_nodes updates => updates.map (·.id)
  | .supersede_nodes nodes => nodes.map (·.id)
  | .merge_nodes merges => merges.map (·.duplicate)
  | .remove_nodes node_ids => node_ids
  | .set_standing node_id _ => [node_id]
  | _ => []

/-- Edges an operation removes by id. -/
def removed_edges (op : GraphOperation) : List String :=
  match op with
  | .remove_edges edge_ids => edge_ids
  | _ => []

def sets_ontology : GraphOperation → Bool
  | .set_ontology _ => true
  | _ => false

def sets_project_truth_scope : GraphOperation → Bool
  | .set_project_truth_scope _ _ => true
  | _ => false

/-- `_later_dependency_mutations`: what moved after the operation at `position`. -/
def later_dependency_mutations (ctx : OpContext) (position : Nat) (q : Proposal) : Dependencies :=
  let present := (ctx.patch.ops.take position).foldl Presence.update
    (initial_presence ctx.initial_state)
  let later := ctx.patch.ops.drop (position + 1)
  let created_nodes := (created_nodes_of later).map (·.node.id)
  let changed_nodes := later.flatMap changed_nodes
  let created_edges := (later.flatMap created_edges).map Prod.fst
  let removed_edges := later.flatMap removed_edges
  { node_ids := q.related_node_ids.filter (fun id =>
      id ∈ changed_nodes ∨ (id ∈ created_nodes ∧ id ∈ present.nodes))
    edge_ids := q.related_edge_ids.filter (fun id =>
      id ∈ removed_edges ∨ (id ∈ created_edges ∧ id ∈ present.edges.keys))
    config_keys :=
      (if "ontology" ∈ q.related_config_keys ∧ later.any sets_ontology then ["ontology"] else [])
      ++ (if "project_truth_scope" ∈ q.related_config_keys ∧ later.any sets_project_truth_scope then
        ["project_truth_scope"] else []) }

/-- The last operation that creates a Proposal of each id, sorted by id. -/
def proposal_positions (ops : List GraphOperation) : List (String × Nat) :=
  let positions : Dict String Nat := (ops.zipIdx.flatMap (fun (op, index) => match op with
    | .create_proposals proposals => proposals.map (fun raw => (raw.id, index))
    | _ => [])).foldl (fun d e => Dict.set d e.1 e.2) Table.empty
  positions.items.insertionSort (fun a b => a.1 ≤ b.1)

/-- A created Proposal is not stale by the end of its own Patch. -/
def validate_liveness (ctx : OpContext) (staged : GraphState) (entry : String × Nat) :
    Rule Unit :=
  let (proposal_id, position) := entry
  match staged.proposals.get? proposal_id with
  | none => pure ()
  | some q =>
    let moved := later_dependency_mutations ctx position q
    let all_moved := moved.node_ids ++ moved.edge_ids ++ moved.config_keys
    if ctx.mode = .admission ∧ all_moved ≠ [] then
      reject "stale-created-proposal"
        (s!"Proposal {repr_str proposal_id} is already stale because a snapshotted dependency "
          ++ s!"moved later in its outer patch: {comma_join (sorted_set all_moved)}.")
        ctx.revision (sorted_set moved.node_ids) (sorted_set moved.edge_ids)
    else Check.when (proposal_is_stale staged q) (reject "stale-created-proposal"
      s!"Proposal {repr_str proposal_id} is already stale after applying its outer patch."
      ctx.revision q.related_node_ids)

def validate_created_proposal_liveness (ctx : OpContext) (staged : GraphState) : Rule Unit :=
  Check.forEach (proposal_positions ctx.patch.ops) (validate_liveness ctx staged)

/-! ### Whole Patches -/

/-- The project settings a Patch is judged under. -/
structure ValidationSettings where
  repository_aliases : Option (List String) := none
  machine_aliases : Option (List String) := none
  default_run_truth_scope : Option (List String) := none
  state_repository : Option String := none
  deriving DecidableEq

/-- `experiment_control_node_id or patch.experiment_control_node_id` -/
def control_node_id (override : Option String) (p : Patch) : Option String :=
  match override with
  | some id => if id = "" then p.experiment_control_node_id else some id
  | none => p.experiment_control_node_id

/-- The context `_validate_patch` builds. -/
def patch_context (s : GraphState) (p : Patch) (project_truth_scope : List String)
    (settings : ValidationSettings) (mode : ValidationMode) (control : Option String) :
    OpContext where
  state := s
  initial_state := s
  patch := p
  revision := p.revision_label
  project_truth_scope := project_truth_scope
  repositories := match settings.repository_aliases with
    | none | some [] => project_truth_scope
    | some aliases => aliases
  machines := settings.machine_aliases
  default_run_truth_scope := settings.default_run_truth_scope.getD []
  state_repository := settings.state_repository
  mode := mode
  experiment_control_node_id := control

/-- The loop boundary, or the absence of loop metadata. -/
def validate_experiment_control (s : GraphState) (p : Patch) (control : Option String)
    (bundle : List ExperimentDecisionPin) (mode : ValidationMode) : Rule Unit :=
  if p.kind = .experiment_loop then
    validate_experiment_loop_authority s p control bundle mode
  else Check.when (¬ absent control ∨ bundle ≠ []) (reject "unexpected-experiment-control"
    "Experiment control metadata is legal only on experiment-loop patches." p.revision_label)

def flag_coverage (ctx : OpContext) (oldest : Option Datetime) : Rule Unit :=
  match ctx.mode, oldest, ctx.initial_state.coverage.earliest_timestamp with
  | .admission, some ref, some earliest =>
    if ¬ ref.comparable earliest then
      Check.raise (.type_error "can't compare offset-naive and offset-aware datetimes")
    else Check.when (ref.instant < earliest.instant
        ∧ "set_coverage" ∉ ctx.patch.ops.map GraphOperation.op)
      (flag "coverage-mismatch"
        ("This patch cites history older than the graph's coverage boundary without updating "
          ++ "coverage.") ctx.revision)
  | _, _, _ => pure ()

/-- The rules before the operation loop. -/
def validate_patch_shape (ctx : OpContext) (bundle : List ExperimentDecisionPin) : Rule Unit := do
  let p := ctx.patch
  let s := ctx.initial_state
  Check.when (ctx.mode = .admission ∧ p.schema_generation ≠ .two) (reject "legacy-schema-write"
    "New graph writes must use the current schema generation." ctx.revision)
  Check.when (p.revision ≠ 0 ∧ p.revision ≠ s.revision + 1) (reject "non-monotonic-revision"
    s!"Patch revision {p.revision} must follow graph revision {s.revision}." ctx.revision)
  validate_authorship ctx
  validate_identity_shape ctx
  validate_attribution_shape ctx
  validate_declared_agent_action ctx
  validate_declared_scope ctx
  validate_experiment_control s p ctx.experiment_control_node_id bundle ctx.mode
  Check.when (p.ops.any (fun op => "delete".toList.isPrefixOf op.op.toList))
    (reject "delete-forbidden" "Graph objects are never deleted." ctx.revision)
  Check.when (p.kind = .approval) (validate_approval_shape s p ctx.mode)

/-- The rules after the operation loop. -/
def validate_patch_result (ctx : OpContext) (st : Staging) : Rule Unit := do
  validate_queued_decision_options ctx st.state
  validate_created_proposal_liveness ctx st.state
  flag_coverage ctx st.oldest

/-- `_validate_patch`; returns the staged graph the operations were judged on. -/
def validate_patch_rules (ctx : OpContext) (bundle : List ExperimentDecisionPin) :
    Rule GraphState := do
  validate_patch_shape ctx bundle
  let st ← validate_operations validate_proposal ctx
  validate_patch_result ctx st
  return st.state

/-- A raised error becomes the one message of the report. -/
def malformed_report (p : Patch) (e : PyError) : List ValidationMessage :=
  [⟨.reject, "malformed-operation", s!"Patch operations are malformed: {e.text}.",
    p.revision_label, [], []⟩]

/-- The arguments that only the experiment-loop path supplies. -/
structure ExperimentBinding where
  control_node_id : Option String := none
  decision_bundle : Option (List ExperimentDecisionPin) := none

/-- The run of `_validate_patch` for one Patch under some settings. -/
def validation_run (s : GraphState) (p : Patch) (project_truth_scope : List String)
    (settings : ValidationSettings) (mode : ValidationMode)
    (binding : ExperimentBinding := {}) : Rule GraphState :=
  validate_patch_rules
    (patch_context s p project_truth_scope settings mode
      (control_node_id binding.control_node_id p))
    (binding.decision_bundle.getD p.experiment_decision_bundle)

/-- The report of a Patch without a transition trace. -/
def untraced_report (s : GraphState) (p : Patch) (project_truth_scope : List String)
    (settings : ValidationSettings) (mode : ValidationMode)
    (binding : ExperimentBinding := {}) : List ValidationMessage :=
  match validation_run s p project_truth_scope settings mode binding with
  | .raised e => malformed_report p e
  | .done _ messages => messages

/-- `ValidationReport.rejected` -/
def rejected (messages : List ValidationMessage) : Bool :=
  messages.any (fun m => m.level = .reject)

variable [Canonical]

/-- Replay the source Patches of a trace one after the other on the state the
    earlier ones reach, at the revision of the whole transition. -/
def source_reports (settings : ValidationSettings) (revision : Nat) (staged : GraphState) :
    List Patch → Applied (List ValidationMessage)
  | [] => .ok []
  | p :: ps => do
    let validation_state := { staged with revision }
    let report := untraced_report validation_state p validation_state.project_truth_scope
      settings .replay
    if rejected report then .ok report
    else do
      let next ← apply_valid_patch validation_state p
      let rest ← source_reports settings revision { next with revision } ps
      return report ++ rest

/-- `_validate_transition_patch` in replay.  The messages collected before an
    exception are kept; which ones they are does not decide rejection. -/
def traced_report (s : GraphState) (p : Patch) (settings : ValidationSettings) :
    List ValidationMessage :=
  let outcome := do
    let source_patches ← validate_transition_trace s p
    source_reports settings s.revision s source_patches
  match outcome with
  | .ok messages => messages
  | .error e => [⟨.reject, "transition-trace-invalid",
      s!"Committed transition provenance is invalid: {e.text}.", p.revision_label, [], []⟩]

def validate_patch (s : GraphState) (p : Patch) (project_truth_scope : List String)
    (settings : ValidationSettings) (mode : ValidationMode)
    (binding : ExperimentBinding := {}) : List ValidationMessage :=
  match p.transition, mode with
  | none, _ => untraced_report s p project_truth_scope settings mode binding
  | some _, .admission => [⟨.reject, "reserved-transition-trace",
      "A committed transition trace is backend-owned and cannot be supplied for admission.",
      p.revision_label, [], []⟩]
  | some _, .replay => traced_report s p settings

end ResearchGraph
