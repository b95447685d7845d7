import ResearchGraph.Materialize
import ResearchGraph.Validation.Nodes

/-! # Operation rules (`rcp/core/validation/ops.py`, `registry.py`)

    One rule for each operation, and the loop that runs them
    (`_validate_operations` of `patch.py`): each operation is judged on the
    graph staged by the ones before it.  A rule returns the oldest source
    reference it cited.

    The rule of `create_proposals` judges the operations inside a Proposal
    with the same loop.  Operations inside a Proposal never create Proposals,
    so the loop takes the Proposal rule as a parameter and the inner run is
    given one that is never called.
-/

namespace ResearchGraph

open Lib

variable [TextLibrary]

/-- `OpContext`: everything a rule needs to judge one operation of a Patch. -/
structure OpContext where
  state : GraphState
  initial_state : GraphState
  patch : Patch
  revision : Option Nat
  project_truth_scope : List String
  repositories : List String
  machines : Option (List String)
  default_run_truth_scope : List String
  state_repository : Option String
  mode : ValidationMode
  experiment_control_node_id : Option String := none
  reference_patch : Option Patch := none

namespace OpContext

/-- `_created_node_id`: the Patch creates a node of that id somewhere. -/
def created_node_id (ctx : OpContext) (node_id : String) : Bool :=
  (created_node_ids ctx.patch).contains node_id

/-- The operations of the Patch and, behind them, of the outer Patch. -/
def context_ops (ctx : OpContext) : List GraphOperation :=
  ctx.patch.ops ++ (ctx.reference_patch.map Patch.ops).getD []

/-- `_node_type`: the staged type, else that of a node created in context. -/
def node_type (ctx : OpContext) (node_id : String) : Option NodeType :=
  match ctx.state.nodes.get? node_id with
  | some n => some n.type
  | none => created_node_type ctx.context_ops node_id

/-- `_edge_in_context`: the staged edge, else the first one created in context
    under that id, when its relation is a base relation. -/
def edge_in_context (ctx : OpContext) (edge_id : String) : Option Edge :=
  match ctx.state.edges.get? edge_id with
  | some e => some e
  | none =>
    match (ctx.context_ops.flatMap GraphOperation.created_edges).find?
        (fun raw => raw.named_id = edge_id) with
    | none => none
    | some raw => (RELATION_SPEC raw.relation).map (fun spec =>
        { id := edge_id, source := raw.source, target := raw.target, relation := raw.relation,
          layer := spec.layer, explanation := raw.explanation, assessment := raw.assessment })

/-- Whether the Patch carries a `resolve_proposals` operation. -/
def resolves_proposals (ctx : OpContext) : Bool :=
  ctx.patch.ops.any (fun
    | .resolve_proposals _ => true
    | _ => false)

end OpContext

/-! ### Nodes -/

def validate_created_node (ctx : OpContext) (oldest : Option Datetime) (raw : NewNode) :
    Rule (Option Datetime) := do
  let n := raw.node
  Check.when (ctx.mode = .admission ∧ ctx.initial_state.nodes.contains n.id)
    (reject "initial-node-id-replacement"
      (s!"Node {repr_str n.id} existed before this Patch and cannot be recreated; use "
        ++ "update_nodes or a protected Proposal.") ctx.revision [n.id])
  validate_new_node ctx.state ctx.patch n
  let cited ← oldest_source_ref ctx.patch (n.source_refs.map .ok)
  Check.lift (older oldest cited)

def validate_create_nodes (ctx : OpContext) (nodes : List NewNode) : Rule (Option Datetime) :=
  Check.thread (validate_created_node ctx) none nodes

def author_created_node (ctx : OpContext) (raw : NewNode) : Rule Unit := do
  let n := raw.node
  (match n.body with
    | .experiment b => Check.when (b.status = .unspecified) (reject "live-legacy-experiment-phase"
        s!"New Experiment {repr_str n.id} cannot author compatibility-only phase 'unspecified'."
        ctx.revision [n.id])
    | .evidence _ => Check.when ("legacy_strength" ∈ raw.fields_set)
        (reject "live-legacy-evidence-strength"
          s!"New Evidence {repr_str n.id} cannot set compatibility-only legacy_strength."
          ctx.revision [n.id])
    | _ => pure ())
  validate_new_node_authoring ctx.state ctx.patch raw

def author_create_nodes (ctx : OpContext) (nodes : List NewNode) : Rule Unit :=
  Check.forEach nodes (author_created_node ctx)

/-- An update that authors the retired Experiment phase. -/
def live_legacy_phase (ctx : OpContext) (n : Node) (changes : Dict String Value) : Bool :=
  ctx.mode = .admission ∧ n.type = .experiment
    ∧ Dict.get changes "status" = some (.str "unspecified")

/-- An update that authors the retired Evidence strength. -/
def live_legacy_strength (ctx : OpContext) (n : Node) (changes : Dict String Value) : Bool :=
  ctx.mode = .admission ∧ n.type = .evidence ∧ Dict.has changes "legacy_strength"

/-- The compatibility fields a replayed generation-1 update may carry. -/
def OpContext.legacy_replay (ctx : OpContext) : Bool :=
  ctx.mode = .replay ∧ ctx.patch.schema_generation = .one

/-- The system fields an update names and may not change. -/
def immutable_update_fields (ctx : OpContext) (n : Node) (changes : Dict String Value) :
    List String :=
  sorted_set (changes.keys.filter (fun k => k ∈ IMMUTABLE_NODE_UPDATE_FIELDS
    ∧ ¬ (if ctx.legacy_replay then k ∈ LEGACY_COMPATIBILITY_UPDATE_FIELDS
      else live_legacy_strength ctx n changes ∧ k = "legacy_strength")))

def OpContext.decode_mode (ctx : OpContext) : DecodeMode :=
  if ctx.legacy_replay then .lax else .strict

/-- The bounded loop's update of its own Experiment. -/
def is_control_update (ctx : OpContext) (u : NodeUpdate) : Bool :=
  ctx.patch.kind = .experiment_loop ∧ some u.id = ctx.experiment_control_node_id
    ∧ u.changes.keys.all (fun k => k = "attempts" ∨ k = "status")

/-- Belief and Decision transitions an update may not make on its own. -/
def validate_gated_update (ctx : OpContext) (n : Node) (u : NodeUpdate) : Rule Unit :=
  if ¬ is_control_update ctx u ∧ requires_proposal n u.changes then
    if n.type = .decision then
      Check.when (ctx.mode = .admission ∧ ¬ permits ctx.patch .decide_decision)
        (reject "decision-action-refused"
          (if ctx.patch.profile ≠ some .orchestrator then
            s!"Update to {u.id} uses decide_decision; only a human may write "
              ++ "selected_option or status decided."
          else s!"Update to {u.id} is not permitted to use decide_decision.")
          ctx.revision [n.id])
    else Check.when (ctx.patch.kind ≠ .approval) (reject "gated-transition"
      s!"Update to {u.id} requires a Proposal and human approval." ctx.revision)
  else if n.type = .decision ∧ ctx.mode = .admission then do
    let queued ← Check.lift
      (value_in (Dict.get u.changes "status") ["open", "ready", "revisit"])
    Check.when (queued ∧ ¬ permits ctx.patch .queue_decision) (reject "decision-action-refused"
      s!"Update to {u.id} is not permitted to use queue_decision." ctx.revision [n.id])
  else pure ()

def validate_decision_transition (ctx : OpContext) (n : Node) (changes : Dict String Value) :
    Rule Unit :=
  match ctx.mode, n.body with
  | .admission, .decision d => match decision_transition_error n.id d changes with
    | none => pure ()
    | some error => reject "incoherent-decision-transition" error ctx.revision [n.id]
  | _, _ => pure ()

/-- The rules of an update that names no system field. -/
def validate_update_changes (ctx : OpContext) (oldest : Option Datetime) (n : Node)
    (u : NodeUpdate) : Rule (Option Datetime) := do
  (match n.with_changes ctx.decode_mode u.changes with
    | .ok _ => pure ()
    | .error message => reject "invalid-node-update"
        s!"Update to {u.id} is invalid: {message}." ctx.revision)
  validate_extension_update ctx.state ctx.patch n u.changes false
  validate_gated_update ctx n u
  validate_decision_transition ctx n u.changes
  let refs ← Check.lift (raw_source_refs (Dict.get u.changes "source_refs"))
  let cited ← oldest_source_ref ctx.patch refs
  Check.lift (older oldest cited)

def validate_update (ctx : OpContext) (oldest : Option Datetime) (u : NodeUpdate) :
    Rule (Option Datetime) :=
  match ctx.state.nodes.get? u.id with
  | none => do
    reject "unknown-node" s!"Cannot update missing node {repr_str u.id}." ctx.revision
    return oldest
  | some n => do
    let phase := live_legacy_phase ctx n u.changes
    Check.when phase (reject "live-legacy-experiment-phase"
      (s!"Update to Experiment {repr_str n.id} cannot author compatibility-only phase "
        ++ "'unspecified'.") ctx.revision [n.id])
    let strength := live_legacy_strength ctx n u.changes
    Check.when strength (reject "live-legacy-evidence-strength"
      s!"Update to Evidence {repr_str n.id} cannot set compatibility-only legacy_strength."
      ctx.revision [n.id])
    let immutable := immutable_update_fields ctx n u.changes
    (if immutable ≠ [] then do
      reject "immutable-node-field"
        s!"Update to {u.id} cannot change system fields: {comma_join immutable}." ctx.revision
      return oldest
    else if strength ∨ phase then pure oldest
    else validate_update_changes ctx oldest n u)

def validate_update_nodes (ctx : OpContext) (updates : List NodeUpdate) :
    Rule (Option Datetime) :=
  Check.thread (validate_update ctx) none updates

/-! ### Belief causes -/

def validate_evidence_cause (ctx : OpContext) (hypothesis_id ref_id : String) : Rule Unit :=
  let grounded := (ctx.edge_in_context ref_id).any (fun e =>
    e.target = hypothesis_id ∧ e.relation ∈ EVIDENCE_RELATIONS
      ∧ ctx.node_type e.source = some .evidence)
  Check.when (¬ grounded) (reject "invalid-belief-cause"
    (s!"Evidence-edge cause {repr_str ref_id} must be an evidence relation targeting "
      ++ s!"{repr_str hypothesis_id}.") ctx.revision [hypothesis_id] [ref_id])

def validate_belief_cause (ctx : OpContext) (hypothesis_id : String) :
    Option BeliefCause → Rule Unit
  | none => reject "missing-belief-cause"
      s!"Changing Hypothesis {repr_str hypothesis_id} status requires a cause object."
      ctx.revision [hypothesis_id]
  | some .human_edit =>
    Check.when (ctx.patch.kind ≠ .approval ∨ ctx.patch.author ≠ some .human)
      (reject "invalid-belief-cause"
        s!"human_edit cause for {repr_str hypothesis_id} is legal only on human approval."
        ctx.revision [hypothesis_id])
  | some (.decision ref_id) =>
    Check.when (ctx.node_type ref_id ≠ some .decision) (reject "invalid-belief-cause"
      (s!"Decision cause {repr_str ref_id} for {repr_str hypothesis_id} does not name a "
        ++ "Decision.") ctx.revision [hypothesis_id, ref_id])
  | some (.proposal_resolution ref_id) =>
    Check.when (ref_id ∉ (ctx.patch.ops.flatMap GraphOperation.resolutions).map (·.id))
      (reject "invalid-belief-cause"
        (s!"Proposal-resolution cause {repr_str ref_id} for {repr_str hypothesis_id} is not "
          ++ "resolved in this patch.") ctx.revision [hypothesis_id])
  | some (.evidence_edge ref_id) => validate_evidence_cause ctx hypothesis_id ref_id

def author_update (ctx : OpContext) (u : NodeUpdate) : Rule Unit :=
  match ctx.state.nodes.get? u.id with
  | none => pure ()
  | some n => do
    let is_direct_human_edit :=
      ctx.patch.kind = .approval ∧ ctx.reference_patch.isNone ∧ ¬ ctx.resolves_proposals
    Check.when (¬ is_direct_human_edit) (validate_updated_node_authoring n u.changes ctx.revision)
    validate_extension_update ctx.state ctx.patch n u.changes true
    match n.body with
    | .hypothesis h =>
      Check.when (changes_status h u.changes) (validate_belief_cause ctx n.id u.cause)
    | _ => pure ()

def author_update_nodes (ctx : OpContext) (updates : List NodeUpdate) : Rule Unit :=
  Check.forEach updates (author_update ctx)

/-! ### Edges -/

def evidence_endpoints (relation : String) (source target : Option NodeType) : Bool :=
  target = some .hypothesis ∧ (source = some .evidence
    ∨ (relation = "contradicts" ∧ source = some .hypothesis))

/-- Endpoint and assessment rules of the Evidence relations. -/
def validate_edge_assessment (ctx : OpContext) (e : NewEdge) : Rule Unit := do
  let source_type := ctx.node_type e.source
  let target_type := ctx.node_type e.target
  let applies := e.relation ∈ EVIDENCE_RELATIONS ∧ source_type = some .evidence
    ∧ target_type = some .hypothesis
  Check.when (ctx.mode = .admission ∧ e.relation ∈ EVIDENCE_RELATIONS ∧ source_type.isSome
      ∧ target_type.isSome ∧ ¬ evidence_endpoints e.relation source_type target_type)
    (reject "invalid-evidence-relation-endpoints"
      (s!"Relation {repr_str e.relation} requires Evidence -> Hypothesis"
        ++ (if e.relation = "contradicts" then " or Hypothesis -> Hypothesis" else "")
        ++ " endpoints, not " ++ (source_type.map NodeType.name).getD "None" ++ " -> "
        ++ (target_type.map NodeType.name).getD "None" ++ ".")
      ctx.revision [e.source, e.target] [e.named_id])
  (if e.assessment.isSome ∧ ¬ applies then
    reject "inapplicable-evidence-assessment"
      (s!"Edge {repr_str e.named_id} may carry an assessment only when Evidence bears on a "
        ++ "Hypothesis through supports, weakens, refutes, inconclusive, or contradicts.")
      ctx.revision [e.source, e.target] [e.named_id]
  else Check.when (ctx.mode = .admission ∧ applies ∧ e.assessment.isNone)
    (reject "missing-evidence-assessment"
      (s!"New Evidence-to-Hypothesis edge {repr_str e.named_id} requires a claim-relative "
        ++ "assessment.") ctx.revision [e.source, e.target] [e.named_id]))

/-- `repr` of the id field of a new edge's own data. -/
def repr_edge_id (id : EdgeIdField) : String :=
  match id with
  | .given s => repr_str s
  | _ => "None"

/-- The id is unused in admission, and the typed edge validates. -/
def validate_edge_identity (ctx : OpContext) (seen_edge_ids : List String) (e : NewEdge) :
    Rule (List String) :=
  let seen := ctx.mode = .admission ∧ e.stored_id.any (fun id => seen_edge_ids.contains id)
  if seen then do
    reject "duplicate-edge-id"
      (s!"Edge {repr_str (e.stored_id.getD default)} already exists; remove it before creating "
        ++ "a replacement.") ctx.revision [] e.stored_id.toList
    return seen_edge_ids
  else do
    (match validated_edge ctx.state.ontology 0 e with
      | .ok _ => pure ()
      | .error message => reject "invalid-edge"
          s!"Edge {repr_edge_id e.id} is invalid: {message}." ctx.revision
          [e.source, e.target] e.stored_id.toList)
    return seen_edge_ids ++ e.stored_id.toList

def validate_created_edge (ctx : OpContext) (seen_edge_ids : List String) (e : NewEdge) :
    Rule (List String) := do
  Check.when (¬ ctx.state.nodes.contains e.source ∧ ¬ ctx.created_node_id e.source)
    (reject "unknown-edge-source" s!"Unknown edge source {repr_str e.source}." ctx.revision)
  Check.when (¬ ctx.state.nodes.contains e.target ∧ ¬ ctx.created_node_id e.target)
    (reject "unknown-edge-target" s!"Unknown edge target {repr_str e.target}." ctx.revision)
  validate_edge_assessment ctx e
  match RELATION_SPEC e.relation, custom_relation ctx.state.ontology e.relation with
  | some _, _ => validate_edge_identity ctx seen_edge_ids e
  | none, none => do
    reject "invalid-edge"
      s!"Edge {repr_edge_id e.id} uses unknown relation {repr_str e.relation}."
      ctx.revision [e.source, e.target]
    return seen_edge_ids
  | none, some custom => do
    Check.when (¬ edge_matches_relation ctx.state e.source e.target custom
        (created_nodes_of ctx.patch.ops))
      (reject "custom-relation-type-mismatch"
        (s!"Relation {repr_str custom.name} does not allow the semantic endpoint types "
          ++ s!"for {repr_str e.source} -> {repr_str e.target}.")
        ctx.revision [e.source, e.target])
    validate_edge_identity ctx seen_edge_ids e

def validate_create_edges (ctx : OpContext) (edges : List NewEdge) : Rule (Option Datetime) := do
  let _ ← Check.thread (validate_created_edge ctx) ctx.state.edges.keys edges
  return none

/-- Endpoint types a base relation does not list are flagged. -/
def flag_relation_types (ctx : OpContext) (e : NewEdge) (spec : RelationSpec)
    (source_type target_type : NodeType) : Rule Unit :=
  let type_names (types : List NodeType) := comma_join (sorted_set (types.map NodeType.name))
  Check.when (source_type ∉ spec.source_types ∨ target_type ∉ spec.target_types
      ∨ (spec.same_type ∧ source_type ≠ target_type))
    (flag "relation-type-mismatch"
      (s!"Edge {repr_str e.named_id} uses {repr_str e.relation} from {source_type.name} to "
        ++ s!"{target_type.name}; allowed source types are [{type_names spec.source_types}] and "
        ++ s!"target types are [{type_names spec.target_types}]"
        ++ (if spec.same_type then "; source and target must have the same type" else "") ++ ".")
      ctx.revision [e.source, e.target] [e.named_id])

def author_created_edge (ctx : OpContext) (e : NewEdge) : Rule Unit := do
  Check.when ((custom_relation ctx.state.ontology e.relation).any (·.deprecated))
    (reject "deprecated-custom-relation"
      s!"Custom relation {repr_str e.relation} is deprecated and cannot author new edges."
      ctx.revision)
  match RELATION_SPEC e.relation, ctx.node_type e.source, ctx.node_type e.target with
  | some spec, some source_type, some target_type =>
    flag_relation_types ctx e spec source_type target_type
  | _, _, _ => pure ()

def author_create_edges (ctx : OpContext) (edges : List NewEdge) : Rule Unit :=
  Check.forEach edges (author_created_edge ctx)

/-! ### Removals -/

/-- The id list of a removal is not empty, names no empty id and repeats none. -/
def validate_id_list (code noun : String) (ctx : OpContext) (ids : List String) : Rule Unit :=
  if ids = [] ∨ "" ∈ ids then
    reject code (s!"A remove_{noun}s operation requires at least one non-empty {noun} id.")
      ctx.revision
  else Check.when (¬ ids.Nodup) (reject code
    s!"A remove_{noun}s operation cannot name the same {noun} more than once." ctx.revision)

def validate_remove_edges (ctx : OpContext) (edge_ids : List String) : Rule Unit :=
  validate_id_list "invalid-remove-edges-operation" "edge" ctx edge_ids

/-- Whether a node is an Experiment with an open attempt. -/
def Node.has_active_attempt (n : Node) : Bool :=
  match n.body with
  | .experiment b => b.attempts.any (fun a => a.status.active)
  | _ => false

def validate_removed_node (ctx : OpContext) (node_id : String) : Rule Unit :=
  match ctx.state.nodes.get? node_id with
  | none => reject "unknown-node" s!"Cannot remove missing node {repr_str node_id}."
      ctx.revision [node_id]
  | some n => do
    let is_proposal_approval := ctx.patch.kind = .approval
      ∧ (ctx.reference_patch.isSome ∨ ctx.resolves_proposals)
    let initial_node := (ctx.initial_state.nodes.get? node_id).getD n
    Check.when (initial_node.standing = .accepted ∧ ¬ is_proposal_approval)
      (reject "accepted-node-removal"
        (s!"Cannot remove accepted node {repr_str node_id}; clear or contest it in an earlier "
          ++ "human Sync first.") ctx.revision [node_id])
    Check.when (initial_node.has_active_attempt ∨ n.has_active_attempt)
      (reject "active-experiment-removal"
        (s!"Cannot remove Experiment {repr_str node_id} while its bounded loop has an active "
          ++ "attempt.") ctx.revision [node_id])

def validate_remove_nodes (ctx : OpContext) (node_ids : List String) : Rule Unit :=
  if node_ids = [] ∨ "" ∈ node_ids ∨ ¬ node_ids.Nodup then
    validate_id_list "invalid-remove-nodes-operation" "node" ctx node_ids
  else Check.forEach node_ids (validate_removed_node ctx)

/-! ### Supersede and merge -/

def validate_generated_relation_endpoints (ctx : OpContext)
    (source_id target_id relation : String) :
    Rule Unit :=
  let edge_id := derived_edge_id source_id relation target_id
  if source_id = target_id then
    reject "invalid-generated-relation"
      s!"Relation {repr_str relation} requires distinct source and target nodes." ctx.revision
      [source_id]
  else if ctx.mode = .admission ∧ ctx.state.edges.contains edge_id then
    reject "duplicate-edge-id"
      s!"Edge {repr_str edge_id} already exists; remove it before creating a replacement."
      ctx.revision [] [edge_id]
  else match ctx.node_type source_id, ctx.node_type target_id with
    | some source_type, some target_type => Check.when (source_type ≠ target_type)
        (reject "generated-relation-type-mismatch"
          (s!"Relation {repr_str relation} requires endpoints of the same type, not "
            ++ s!"{repr_str source_type.name} and {repr_str target_type.name}.")
          ctx.revision [source_id, target_id])
    | _, _ => pure ()

def validate_superseded_node (ctx : OpContext) (item : SupersedeNode) : Rule Unit := do
  Check.when (¬ ctx.state.nodes.contains item.id) (reject "unknown-node"
    s!"Cannot supersede missing node {repr_str item.id}." ctx.revision)
  match item.superseded_by with
  | none => pure ()
  | some target_id => do
    Check.when (target_id ≠ "" ∧ ¬ ctx.state.nodes.contains target_id
        ∧ ¬ ctx.created_node_id target_id ∧ (ctx.node_type target_id).isNone)
      (reject "unknown-node"
        s!"Cannot supersede {repr_str item.id} with missing node {repr_str target_id}."
        ctx.revision)
    Check.when (ctx.mode = .admission)
      (validate_generated_relation_endpoints ctx item.id target_id "supersedes")

def validate_supersede_nodes (ctx : OpContext) (nodes : List SupersedeNode) : Rule Unit :=
  Check.forEach nodes (validate_superseded_node ctx)

def validate_merged_node (ctx : OpContext) (item : NodeMerge) : Rule Unit := do
  Check.when (¬ ctx.state.nodes.contains item.duplicate) (reject "unknown-node"
    s!"Cannot merge missing duplicate node {repr_str item.duplicate}." ctx.revision)
  Check.when (¬ ctx.state.nodes.contains item.canonical ∧ (ctx.node_type item.canonical).isNone)
    (reject "unknown-node"
      s!"Cannot merge into missing canonical node {repr_str item.canonical}." ctx.revision)
  Check.when (ctx.mode = .admission)
    (validate_generated_relation_endpoints ctx item.duplicate item.canonical "duplicate_of")

def validate_merge_nodes (ctx : OpContext) (merges : List NodeMerge) : Rule Unit :=
  Check.forEach merges (validate_merged_node ctx)

/-! ### Ambiguities and Proposals -/

def validate_resolve_ambiguities (ctx : OpContext) (resolutions : List AmbiguityResolution) :
    Rule Unit :=
  Check.forEach resolutions fun r =>
    Check.when (¬ ctx.state.ambiguities.contains r.id) (reject "unknown-ambiguity"
      s!"Cannot resolve missing ambiguity {repr_str r.id}." ctx.revision)

/-- A Proposal that is resolved or withdrawn exists and is pending. -/
def validate_pending (ctx : OpContext) (verb proposal_id : String) : Rule Unit :=
  match ctx.state.proposals.get? proposal_id with
  | none => reject "unknown-proposal"
      s!"Cannot {verb} missing proposal {repr_str proposal_id}." ctx.revision
  | some q => Check.when (q.status ≠ .pending) (reject "proposal-not-pending"
      s!"Proposal {repr_str proposal_id} is not pending." ctx.revision)

def validate_resolve_proposals (ctx : OpContext) (resolutions : List ProposalResolution) :
    Rule Unit := do
  Check.when (ctx.mode = .admission ∧ ctx.patch.kind ≠ .approval)
    (reject "agent-resolved-proposal"
      "Only a human approval patch may resolve or withdraw a Proposal." ctx.revision)
  Check.forEach resolutions (fun r => validate_pending ctx "resolve" r.id)

def validate_withdraw_proposals (ctx : OpContext) (withdrawals : List ProposalWithdrawal) :
    Rule Unit := do
  Check.when (ctx.patch.author ≠ some .agent ∨ ctx.patch.kind = .approval)
    (reject "human-only-proposal-withdrawal" "Only an agent patch may withdraw a Proposal."
      ctx.revision)
  Check.forEach withdrawals (fun w => validate_pending ctx "withdraw" w.id)

/-! ### Project records -/

def validate_set_standing (ctx : OpContext) (node_id : String) : Rule Unit := do
  Check.when (ctx.mode = .admission ∧ ¬ permits ctx.patch .set_standing)
    (reject "agent-set-standing" "This Patch producer may not set standing." ctx.revision)
  Check.when (¬ ctx.state.nodes.contains node_id) (reject "unknown-node"
    s!"Cannot review missing node {repr_str node_id}." ctx.revision)

def RepositoryDescriptor.complete (d : RepositoryDescriptor) : Bool :=
  d.«alias» ≠ "" ∧ d.machine ≠ "" ∧ d.path ≠ ""

/-- `ctx.repositories` after an operation: a complete new descriptor makes its
    alias available to the operations after it. -/
def repositories_after (repositories : List String) : GraphOperation → List String
  | .set_project_truth_scope _ (some d) =>
    if d.complete ∧ d.«alias» ∉ repositories then repositories ++ [d.«alias»] else repositories
  | _ => repositories

def validate_repository_descriptor (ctx : OpContext) (d : RepositoryDescriptor) : Rule Unit :=
  if ¬ d.complete then
    reject "incomplete-repository" "A new repository descriptor needs alias, machine, and path."
      ctx.revision
  else Check.when (ctx.machines.any (fun ms => !ms.contains d.machine))
    (reject "unknown-repository-machine"
      s!"Repository {repr_str d.alias} uses unknown machine {repr_str d.machine}." ctx.revision)

def validate_set_project_truth_scope (ctx : OpContext) (truth_scope : List String)
    (repository : Option RepositoryDescriptor) : Rule Unit := do
  Check.when (ctx.patch.kind ≠ .approval) (reject "agent-set-project-scope"
    "Project truth-scope membership requires human approval." ctx.revision)
  (match repository with
    | none => pure ()
    | some d => validate_repository_descriptor ctx d)
  let repositories :=
    repositories_after ctx.repositories (.set_project_truth_scope truth_scope repository)
  let unknown := sorted_diff truth_scope repositories
  Check.when (unknown ≠ []) (reject "unknown-project-repository"
    s!"Project truth scope names unknown repositories: {repr_list unknown}." ctx.revision)
  Check.when (ctx.state_repository.any (fun r => r ≠ "" && !truth_scope.contains r))
    (reject "remove-state-repository"
      "The canonical state repository must remain in project truth scope in v1." ctx.revision)
  let removed_defaults := sorted_diff ctx.default_run_truth_scope truth_scope
  Check.when (removed_defaults ≠ []) (reject "remove-default-run-repository"
    ("Project truth scope must retain every repository in the default run scope: "
      ++ s!"{repr_list removed_defaults}.") ctx.revision)

def validate_set_ontology (ctx : OpContext) (ontology : OntologyState) : Rule Unit := do
  validate_ontology_structure ontology ctx.revision
  Check.when (ctx.patch.kind ≠ .approval) (reject "agent-set-ontology"
    "Only the human Settings and Sync paths may change ontology." ctx.revision)
  Check.when (ctx.mode = .admission)
    (validate_ontology_change ctx.state ontology ctx.revision)

/-! ### The operation loop -/

/-- `OpRule.legacy_only` -/
def GraphOperation.legacy_only : GraphOperation → Bool
  | .create_ambiguities _ | .resolve_ambiguities _ => true
  | _ => false

/-- The rule of one Proposal: its context, the Proposal, the validation mode of
    its inner operations, and whether its card is flagged. -/
abbrev ProposalRule := OpContext → NewProposal → ValidationMode → Bool → Rule Unit

/-- A repeated id inside one `create_proposals` operation. -/
def validate_distinct_proposal (ctx : OpContext) (seen : List String) (raw : NewProposal) :
    Rule (List String) := do
  Check.when (ctx.mode = .admission ∧ raw.id ∈ seen) (reject "duplicate-proposal-id"
    s!"Proposal {repr_str raw.id} appears more than once in one create_proposals operation."
    ctx.revision)
  return seen ++ [raw.id]

def validate_create_proposals (validate_proposal : ProposalRule) (ctx : OpContext)
    (proposals : List NewProposal) : Rule Unit := do
  let _ ← Check.thread (fun seen raw => do
    let seen ← validate_distinct_proposal ctx seen raw
    validate_proposal ctx raw .replay false
    return seen) [] proposals

def author_create_proposals (validate_proposal : ProposalRule) (ctx : OpContext)
    (proposals : List NewProposal) : Rule Unit :=
  Check.forEach proposals (fun raw => validate_proposal ctx raw .admission true)

/-- A rule that cites no source reference. -/
def citing_none (rule : Rule Unit) : Rule (Option Datetime) := do
  rule
  return none

/-- `OpRule.structural_validate` -/
def structural_validate (validate_proposal : ProposalRule) (ctx : OpContext) :
    GraphOperation → Rule (Option Datetime)
  | .create_nodes nodes => validate_create_nodes ctx nodes
  | .update_nodes updates => validate_update_nodes ctx updates
  | .create_edges edges => validate_create_edges ctx edges
  | .remove_edges edge_ids => citing_none (validate_remove_edges ctx edge_ids)
  | .remove_nodes node_ids => citing_none (validate_remove_nodes ctx node_ids)
  | .supersede_nodes nodes => citing_none (validate_supersede_nodes ctx nodes)
  | .merge_nodes merges => citing_none (validate_merge_nodes ctx merges)
  | .resolve_ambiguities resolutions => citing_none (validate_resolve_ambiguities ctx resolutions)
  | .create_proposals proposals =>
    citing_none (validate_create_proposals validate_proposal ctx proposals)
  | .resolve_proposals resolutions => citing_none (validate_resolve_proposals ctx resolutions)
  | .withdraw_proposals withdrawals => citing_none (validate_withdraw_proposals ctx withdrawals)
  | .set_standing node_id _ => citing_none (validate_set_standing ctx node_id)
  | .set_project_truth_scope truth_scope repository =>
    citing_none (validate_set_project_truth_scope ctx truth_scope repository)
  | .set_ontology ontology => citing_none (validate_set_ontology ctx ontology)
  | .create_ambiguities _ | .upsert_glossary _ | .set_coverage _ => pure none

/-- `OpRule.authoring_validate` -/
def authoring_validate (validate_proposal : ProposalRule) (ctx : OpContext) :
    GraphOperation → Rule Unit
  | .create_nodes nodes => author_create_nodes ctx nodes
  | .update_nodes updates => author_update_nodes ctx updates
  | .create_edges edges => author_create_edges ctx edges
  | .create_proposals proposals => author_create_proposals validate_proposal ctx proposals
  | _ => pure ()

/-- Check live producer permission once, before an operation is staged. -/
def validate_operation_authority (ctx : OpContext) (op : GraphOperation) : Rule Unit :=
  match ctx.mode with
  | .replay => pure ()
  | .admission => do
    let actions ← Check.lift (operation_actions ctx.initial_state ctx.patch op)
    Check.forEach (actions.dedup.insertionSort (fun a b => a.name ≤ b.name)) fun action =>
      Check.when (¬ permits ctx.patch action) (reject "graph-action-refused"
        s!"Action {repr_str action.name} is not permitted for this Patch producer." ctx.revision)

/-- What the operation loop carries from one operation to the next. -/
structure Staging where
  state : GraphState
  repositories : List String
  oldest : Option Datetime := none

/-- The context one operation is judged in. -/
def OpContext.at (ctx : OpContext) (st : Staging) : OpContext :=
  { ctx with state := st.state, repositories := st.repositories }

/-- Authority, structural and authoring rules of one operation. -/
def judge_operation (validate_proposal : ProposalRule) (ctx : OpContext)
    (oldest : Option Datetime) (op : GraphOperation) : Rule (Option Datetime) := do
  validate_operation_authority ctx op
  let cited ← structural_validate validate_proposal ctx op
  let oldest ← Check.lift (older oldest cited)
  Check.when (ctx.mode = .admission) (authoring_validate validate_proposal ctx op)
  return oldest

/-- Stage a judged operation on the graph. -/
def stage_operation (ctx : OpContext) (st : Staging) (op : GraphOperation) : Rule Staging :=
  match apply_valid_operation st.state ctx.patch op with
  | .ok t => pure { st with state := t }
  | .error e => do
    reject "malformed-operation" s!"Operation {repr_str op.op} could not be staged: {e.text}."
      ctx.revision
    return st

/-- The body of `_validate_operations`: an operation that was rejected is not staged. -/
def validate_operation (validate_proposal : ProposalRule) (ctx : OpContext) (st : Staging)
    (op : GraphOperation) : Rule Staging :=
  if ctx.mode = .admission ∧ op.legacy_only then do
    reject "legacy-only-operation"
      (s!"Operation {repr_str op.op} is retained for historical replay and cannot be admitted "
        ++ "in a new patch.") ctx.revision
    return st
  else
    let repositories := repositories_after st.repositories op
    Check.unlessRefused (judge_operation validate_proposal (ctx.at st) st.oldest op)
      (fun oldest => { st with repositories, oldest })
      (fun oldest => stage_operation ctx { st with repositories, oldest } op)

def validate_operations (validate_proposal : ProposalRule) (ctx : OpContext) : Rule Staging :=
  Check.thread (validate_operation validate_proposal ctx)
    { state := ctx.state, repositories := ctx.repositories } ctx.patch.ops

end ResearchGraph
