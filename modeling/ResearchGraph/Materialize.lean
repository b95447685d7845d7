import ResearchGraph.Ontology
import ResearchGraph.Proposals

/-! # Application of operations (`rcp/core/materialize.py`)

    `_apply_patch` one operation at a time.  A step that raises in the source
    is an `Except.error` here; the caller's state is never touched, as
    `_fork_state` guarantees.
-/

namespace ResearchGraph

open Lib

/-- The outcome of applying an operation. -/
abbrev Applied (α : Type) := Except PyError α

/-! ### Nodes -/

/-- `state.nodes[node_id]` -/
def GraphState.node (s : GraphState) (node_id : String) : Applied Node :=
  match s.nodes.get? node_id with
  | none => .error (.key_error node_id)
  | some n => .ok n

/-- A created node with its revision stamps. -/
def stamped_node (revision : Nat) (raw : NewNode) : Node :=
  { raw.node with created_rev := revision, updated_rev := revision }

def create_node (revision : Nat) (s : GraphState) (raw : NewNode) : GraphState :=
  { s with nodes := s.nodes.put (stamped_node revision raw) }

/-- Append the belief transition of a Hypothesis whose status changed. -/
def record_belief_transition (previous updated : Node) (revision : Nat)
    (cause : Option BeliefCause) (ts : List BeliefTransition) : List BeliefTransition :=
  match previous.body, updated.body, cause with
  | .hypothesis before, .hypothesis after, some cause =>
    if before.status = after.status then ts
    else ts ++ [⟨previous.id, before.status, after.status, revision, cause⟩]
  | _, _, _ => ts

/-- The system fields an update may not name. -/
def immutable_fields (p : Patch) (generated : Bool) : List String :=
  if p.schema_generation = .one then
    IMMUTABLE_NODE_UPDATE_FIELDS.filter (fun f => f ∉ LEGACY_COMPATIBILITY_UPDATE_FIELDS)
  else if generated then
    IMMUTABLE_NODE_UPDATE_FIELDS.filter (fun f => f ∉ GUIDANCE_STALE_FIELDS)
  else IMMUTABLE_NODE_UPDATE_FIELDS

/-- The model validation an update of this Patch goes through. -/
def Patch.decode_mode (p : Patch) : DecodeMode :=
  if p.schema_generation = .one then .lax else .strict

/-- The standing a rewritten node keeps: reviews survive only human approvals. -/
def kept_standing (p : Patch) (n : Node) : Standing :=
  if p.kind = .approval then n.standing else .asserted

/-- The node an update produces. -/
def updated_node (p : Patch) (generated : Bool) (n : Node) (update : NodeUpdate) :
    Applied Node :=
  let immutable := sorted_set
    (update.changes.keys.filter (fun k => k ∈ immutable_fields p generated))
  if immutable ≠ [] then
    .error (.value_error s!"node updates cannot change system fields: {comma_join immutable}")
  else match n.with_changes p.decode_mode update.changes with
    | .error message => .error (.value_error message)
    | .ok m => .ok { m with updated_rev := p.revision, standing := kept_standing p n }

/-- Replace a node and record the belief transition. -/
def replace_node (s : GraphState) (previous updated : Node) (revision : Nat)
    (cause : Option BeliefCause) : GraphState :=
  { s with
    nodes := s.nodes.put updated
    belief_transitions :=
      record_belief_transition previous updated revision cause s.belief_transitions }

def update_node (p : Patch) (generated : Bool) (s : GraphState) (update : NodeUpdate) :
    Applied GraphState := do
  let n ← s.node update.id
  let m ← updated_node p generated n update
  return replace_node s n m p.revision update.cause

/-! ### Edges -/

/-- The layer a relation declares: the base table, else the custom relation. -/
def declared_layer (ontology : OntologyState) (relation : String) : Option RelationLayer :=
  match RELATION_SPEC relation with
  | some spec => some spec.layer
  | none => (custom_relation ontology relation).map (·.layer.relation_layer)

/-- `Edge.model_validate` on a new edge: the id must be a text and the relation
    must declare a layer. -/
def validated_edge (ontology : OntologyState) (revision : Nat) (raw : NewEdge) : Decoded Edge :=
  match raw.stored_id, declared_layer ontology raw.relation with
  | none, _ => .error "Input should be a valid string"
  | some _, none => .error "Field required"
  | some id, some layer =>
    .ok { id, source := raw.source, target := raw.target, relation := raw.relation, layer,
          explanation := raw.explanation, assessment := raw.assessment, created_rev := revision }

/-- The edge with its layer derived from the nodes present. -/
def with_derived_layer (s : GraphState) (e : Edge) : Edge :=
  { e with layer := edge_layer s e.source e.target e.layer }

def create_edge (revision : Nat) (s : GraphState) (raw : NewEdge) : Applied GraphState :=
  match validated_edge s.ontology revision raw with
  | .error message => .error (.value_error message)
  | .ok e => .ok { s with edges := s.edges.put (with_derived_layer s e) }

def remove_edge (s : GraphState) (edge_id : String) : GraphState :=
  { s with edges := s.edges.erase edge_id }

/-- Drop nodes and every edge that touches one of them. -/
def remove_nodes (s : GraphState) (node_ids : List String) : GraphState :=
  { s with
    nodes := s.nodes.filter (fun n => n.id ∉ node_ids)
    edges := s.edges.filter (fun e => e.source ∉ node_ids ∧ e.target ∉ node_ids) }

/-! ### Supersede and merge -/

/-- The body with status `superseded`; Evidence has no status field. -/
def NodeBody.superseded : NodeBody → Option NodeBody
  | .research_question b => some (.research_question { b with status := .superseded })
  | .hypothesis b => some (.hypothesis { b with status := .superseded })
  | .decision b => some (.decision { b with status := .superseded })
  | .experiment b => some (.experiment { b with status := .superseded })
  | .evidence _ => none
  | .blocker b => some (.blocker { b with status := .superseded })

/-- `_set_node_status(…, "superseded", …)` -/
def superseded_node (p : Patch) (n : Node) : Applied Node :=
  match n.body.superseded with
  | none => .error (.value_error "Extra inputs are not permitted")
  | some body =>
    .ok { n with body, updated_rev := p.revision, standing := kept_standing p n }

/-- The edge a lifecycle operation writes. -/
def lifecycle_edge (source relation target explanation : String) (revision : Nat) : Edge :=
  { id := derived_edge_id source relation target, source, target, relation,
    layer := .«meta», explanation, created_rev := revision }

/-- Connect a retired node to its replacement when one is named. -/
def connect_retired (revision : Nat) (s : GraphState) (node_id relation : String)
    (target : Option String) (explanation : String) : GraphState :=
  { s with edges := match target with
      | none => s.edges
      | some target => s.edges.put (lifecycle_edge node_id relation target explanation revision) }

/-- Retire a node and write its lifecycle edge. -/
def retire_node (p : Patch) (s : GraphState) (node_id relation : String)
    (target : Option String) (explanation : String) (cause : Option BeliefCause) :
    Applied GraphState := do
  let previous ← s.node node_id
  let updated ← superseded_node p previous
  return connect_retired p.revision (replace_node s previous updated p.revision cause) node_id
    relation target explanation

def supersede_node (p : Patch) (s : GraphState) (item : SupersedeNode) : Applied GraphState :=
  retire_node p s item.id "supersedes" (item.superseded_by.filter (· ≠ "")) item.explanation
    item.cause

def merge_node (p : Patch) (s : GraphState) (item : NodeMerge) : Applied GraphState :=
  retire_node p s item.duplicate "duplicate_of" (some item.canonical) item.explanation item.cause

/-! ### Ambiguities and Proposals -/

def create_ambiguity (revision : Nat) (s : GraphState) (raw : NewAmbiguity) : GraphState :=
  { s with ambiguities := s.ambiguities.put {
      id := raw.id, question := raw.question, why_it_matters := raw.why_it_matters,
      candidates := raw.candidates, related_node_ids := raw.related_node_ids,
      artifact_refs := raw.artifact_refs, status := raw.status, raised_rev := revision } }

def resolve_ambiguity (s : GraphState) (r : AmbiguityResolution) : Applied GraphState :=
  match s.ambiguities.get? r.id with
  | none => .error (.key_error r.id)
  | some a => .ok { s with ambiguities := s.ambiguities.put { a with status := r.status.status } }

/-- `"human" if patch.author == "human" else "agent"` -/
def Patch.role (p : Patch) : Author := if p.author = some .human then .human else .agent

/-- A created Proposal with the dependencies and stamps RCP derives for it. -/
def stamped_proposal (p : Patch) (s : GraphState) (raw : NewProposal) : Proposal :=
  let dependencies := proposal_dependencies s raw.ops
  { raw.toProposal with
    base_rev := s.revision
    related_node_ids := dependencies.node_ids
    related_edge_ids := dependencies.edge_ids
    related_config_keys := dependencies.config_keys
    created_by := if raw.created_by_set then raw.created_by else p.role
    created_by_operation_id :=
      if raw.created_by_operation_id_set then raw.created_by_operation_id
      else p.source_operation_id
    raised_rev := p.revision }

def create_proposal (p : Patch) (s : GraphState) (raw : NewProposal) : GraphState :=
  { s with proposals := s.proposals.put (stamped_proposal p s raw) }

/-- `state.proposals[proposal_id]` -/
def GraphState.proposal (s : GraphState) (proposal_id : String) : Applied Proposal :=
  match s.proposals.get? proposal_id with
  | none => .error (.key_error proposal_id)
  | some q => .ok q

/-- A Proposal with its resolution stamps. -/
def resolved_proposal (p : Patch) (q : Proposal) (r : ProposalResolution) : Proposal :=
  { q with
    status := r.status.status, resolved_rev := some p.revision, resolved_by := some p.role,
    resolved_by_operation_id := p.source_operation_id, resolution_reason := r.reason,
    rejection_reason := r.reason }

def resolve_proposal (p : Patch) (s : GraphState) (r : ProposalResolution) :
    Applied GraphState := do
  let q ← s.proposal r.id
  return { s with proposals := s.proposals.put (resolved_proposal p q r) }

/-- A Proposal with its withdrawal stamps. -/
def withdrawn_proposal (p : Patch) (q : Proposal) (w : ProposalWithdrawal) : Proposal :=
  { q with
    status := .withdrawn, resolved_rev := some p.revision, resolved_by := some .agent,
    resolved_by_operation_id := p.source_operation_id, resolution_reason := some w.reason }

def withdraw_proposal (p : Patch) (s : GraphState) (w : ProposalWithdrawal) :
    Applied GraphState := do
  let q ← s.proposal w.id
  return { s with proposals := s.proposals.put (withdrawn_proposal p q w) }

/-! ### Project records -/

def upsert_term (revision : Nat) (s : GraphState) (raw : NewGlossaryTerm) : GraphState :=
  { s with glossary := s.glossary.put {
      term := raw.term, plain_definition := raw.plain_definition,
      where_defined := raw.where_defined, updated_rev := revision } }

def set_coverage (s : GraphState) (update : CoverageUpdate) : GraphState :=
  let c := s.coverage
  { s with coverage := {
      repositories_seen := sorted_set (update.repositories_seen.getD c.repositories_seen)
      repositories_never_seen :=
        sorted_set (update.repositories_never_seen.getD c.repositories_never_seen)
      sessions_read := sorted_set (update.sessions_read.getD c.sessions_read)
      sessions_skipped := sorted_set (update.sessions_skipped.getD c.sessions_skipped)
      earliest_timestamp := update.earliest_timestamp.getD c.earliest_timestamp
      note := update.note.getD c.note } }

def set_standing (revision : Nat) (s : GraphState) (node_id : String) (standing : Standing) :
    Applied GraphState := do
  let n ← s.node node_id
  return { s with nodes := s.nodes.put { n with standing, updated_rev := revision } }

def set_project_truth_scope (revision : Nat) (s : GraphState) (truth_scope : List String) :
    GraphState :=
  let seen := s.coverage.repositories_seen
  let never_seen := (s.coverage.repositories_never_seen
    ++ truth_scope.filter (fun r => r ∉ seen)).filter (fun r => r ∈ truth_scope)
  { s with
    project_truth_scope := sorted_set truth_scope
    config_revisions := Dict.set s.config_revisions "project_truth_scope" revision
    coverage := { s.coverage with repositories_never_seen := sorted_set never_seen } }

def set_ontology (revision : Nat) (s : GraphState) (ontology : OntologyState) : GraphState :=
  { s with ontology, config_revisions := Dict.set s.config_revisions "ontology" revision }

/-! ### Operations and Patches -/

/-- The body of the operation loop of `_apply_patch`. -/
def apply_operation (p : Patch) (generated : Bool) (s : GraphState) :
    GraphOperation → Applied GraphState
  | .create_nodes nodes => .ok (nodes.foldl (create_node p.revision) s)
  | .update_nodes updates => updates.foldlM (update_node p generated) s
  | .create_edges edges => edges.foldlM (create_edge p.revision) s
  | .remove_edges edge_ids => .ok (edge_ids.foldl remove_edge s)
  | .remove_nodes node_ids => .ok (remove_nodes s node_ids)
  | .supersede_nodes nodes => nodes.foldlM (supersede_node p) s
  | .merge_nodes merges => merges.foldlM (merge_node p) s
  | .create_ambiguities ambiguities => .ok (ambiguities.foldl (create_ambiguity p.revision) s)
  | .resolve_ambiguities resolutions => resolutions.foldlM resolve_ambiguity s
  | .create_proposals proposals => .ok (proposals.foldl (create_proposal p) s)
  | .resolve_proposals resolutions => resolutions.foldlM (resolve_proposal p) s
  | .withdraw_proposals withdrawals => withdrawals.foldlM (withdraw_proposal p) s
  | .upsert_glossary terms => .ok (terms.foldl (upsert_term p.revision) s)
  | .set_coverage coverage => .ok (set_coverage s coverage)
  | .set_standing node_id standing => set_standing p.revision s node_id standing
  | .set_project_truth_scope truth_scope _ =>
    .ok (set_project_truth_scope p.revision s truth_scope)
  | .set_ontology ontology => .ok (set_ontology p.revision s ontology)

/-- The ids a `create_edges` operation stored edges under, in order. -/
def stored_edge_ids (ops : List GraphOperation) : List String :=
  ((ops.flatMap GraphOperation.created_edges).filterMap NewEdge.stored_id).dedup

/-- Derive the layer of one written edge again. -/
def rederive_edge (s : GraphState) (edge_id : String) : GraphState :=
  match s.edges.get? edge_id with
  | none => s
  | some e => { s with edges := s.edges.put (with_derived_layer s e) }

/-- The second pass over the edges of a completed Patch. -/
def rederive_layers (s : GraphState) (edge_ids : List String) : GraphState :=
  edge_ids.foldl rederive_edge s

/-- Revision and refresh stamps at the end of a Patch. -/
def stamp_patch (p : Patch) (s : GraphState) : GraphState :=
  { s with
    revision := max s.revision p.revision
    last_refresh_at := if p.kind = .seed ∨ p.kind = .refresh then some p.created_at
      else s.last_refresh_at }

/-- Operation indexes of generated actions. -/
def generated_operation_indexes (p : Patch) : List Nat :=
  match p.transition with
  | none => []
  | some trace => trace.generated_actions.map (·.operation_index)

def apply_patch (s : GraphState) (p : Patch) (system_field_operation_indexes : List Nat := []) :
    Applied GraphState := do
  let generated := system_field_operation_indexes ++ generated_operation_indexes p
  let t ← p.ops.zipIdx.foldlM
    (fun t (op, index) => apply_operation p (generated.contains index) t op) s
  return stamp_patch p (rederive_layers t (stored_edge_ids p.ops))

def apply_valid_patch (s : GraphState) (p : Patch) : Applied GraphState := apply_patch s p

/-- Stage one already-validated operation without advancing the graph revision. -/
def apply_valid_operation (s : GraphState) (p : Patch) (op : GraphOperation) :
    Applied GraphState := do
  let t ← apply_patch s { p with ops := [op] }
  return { t with revision := s.revision }

/-- Stage one manager-owned system-field action during transition closure. -/
def apply_transition_generated_operation (s : GraphState) (p : Patch) (op : GraphOperation) :
    Applied GraphState := do
  let t ← apply_patch s { p with ops := [op] } [0]
  return { t with revision := s.revision }

/-! ### Proposal bookkeeping -/

/-- The Proposal metadata RCP owns, replaced using the graph being appended to. -/
def bookkept_proposal (s : GraphState) (p : Patch) (raw : NewProposal) : NewProposal :=
  let dependencies := proposal_dependencies s raw.ops
  { raw with
    related_node_ids := dependencies.node_ids
    related_edge_ids := dependencies.edge_ids
    related_config_keys := dependencies.config_keys
    base_rev := s.revision
    status := .pending
    created_by := p.role
    created_by_operation_id := p.source_operation_id
    raised_rev := 0
    resolved_rev := none
    resolved_by := none
    resolved_by_operation_id := none
    resolution_reason := none
    rejection_reason := none
    created_by_set := true
    created_by_operation_id_set := true }

def prepare_patch_bookkeeping (s : GraphState) (p : Patch) : Patch :=
  { p with ops := p.ops.map (fun
      | .create_proposals proposals => .create_proposals (proposals.map (bookkept_proposal s p))
      | op => op) }

/-- A Proposal with the dependencies the staged graph recorded for it. -/
def finalized_proposal (staged : GraphState) (raw : NewProposal) : NewProposal :=
  match staged.proposals.get? raw.id with
  | none => raw
  | some q => { raw with
      related_node_ids := q.related_node_ids
      related_edge_ids := q.related_edge_ids
      related_config_keys := q.related_config_keys }

def finalize_patch_bookkeeping (p : Patch) (staged : GraphState) : Patch :=
  { p with ops := p.ops.map (fun
      | .create_proposals proposals => .create_proposals (proposals.map (finalized_proposal staged))
      | op => op) }

end ResearchGraph
