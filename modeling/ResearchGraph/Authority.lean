import ResearchGraph.Report

/-! # Graph authority (`rcp/core/authority.py`)

    Every operation is classified into a closed set of actions, read off the
    graph from before the outer Patch, and each producer is permitted some of
    them.
-/

namespace ResearchGraph

open Lib

/-! ### Actions -/

inductive GraphAction
  | create_node
  | update_node
  | update_protected_epistemic
  | decide_decision
  | queue_decision
  | remove_node
  | remove_protected_epistemic
  | supersede_node
  | supersede_protected_epistemic
  | merge_node
  | merge_protected_epistemic
  | create_edge
  | remove_edge
  | restructure_protected_epistemic
  | set_standing
  | create_proposal
  | resolve_proposal
  | withdraw_proposal
  | upsert_glossary
  | set_coverage
  | set_project_truth_scope
  | set_ontology
  | create_ambiguity
  | resolve_ambiguity
  deriving DecidableEq, Repr

def GraphAction.name : GraphAction → String
  | .create_node => "create_node"
  | .update_node => "update_node"
  | .update_protected_epistemic => "update_protected_epistemic"
  | .decide_decision => "decide_decision"
  | .queue_decision => "queue_decision"
  | .remove_node => "remove_node"
  | .remove_protected_epistemic => "remove_protected_epistemic"
  | .supersede_node => "supersede_node"
  | .supersede_protected_epistemic => "supersede_protected_epistemic"
  | .merge_node => "merge_node"
  | .merge_protected_epistemic => "merge_protected_epistemic"
  | .create_edge => "create_edge"
  | .remove_edge => "remove_edge"
  | .restructure_protected_epistemic => "restructure_protected_epistemic"
  | .set_standing => "set_standing"
  | .create_proposal => "create_proposal"
  | .resolve_proposal => "resolve_proposal"
  | .withdraw_proposal => "withdraw_proposal"
  | .upsert_glossary => "upsert_glossary"
  | .set_coverage => "set_coverage"
  | .set_project_truth_scope => "set_project_truth_scope"
  | .set_ontology => "set_ontology"
  | .create_ambiguity => "create_ambiguity"
  | .resolve_ambiguity => "resolve_ambiguity"

def ORDINARY_AGENT_GRAPH_ACTIONS : List GraphAction :=
  [.create_node, .update_node, .queue_decision, .remove_node, .supersede_node, .merge_node,
    .create_edge, .remove_edge, .create_proposal, .withdraw_proposal]

def ORCHESTRATOR_AGENT_GRAPH_ACTIONS : List GraphAction :=
  ORDINARY_AGENT_GRAPH_ACTIONS ++ [.decide_decision, .set_standing]

/-- `HUMAN_GRAPH_ACTIONS`: every action except these. -/
def HUMAN_EXCLUDED_GRAPH_ACTIONS : List GraphAction :=
  [.create_proposal, .upsert_glossary, .set_coverage, .create_ambiguity, .resolve_ambiguity]

/-- Whether the Patch producer may perform an action at admission time. -/
def permits (p : Patch) (action : GraphAction) : Bool :=
  match p.author with
  | some .human => action ∉ HUMAN_EXCLUDED_GRAPH_ACTIONS
  | none => false
  | some .agent =>
    if action = .set_coverage then p.kind = .seed ∨ p.kind = .refresh
    else if p.profile = some .orchestrator then action ∈ ORCHESTRATOR_AGENT_GRAPH_ACTIONS
    else action ∈ ORDINARY_AGENT_GRAPH_ACTIONS

/-! ### Targets -/

/-- `EVIDENCE_RELATIONS` -/
def EVIDENCE_RELATIONS : List String :=
  ["supports", "weakens", "refutes", "inconclusive", "contradicts"]

def PROTECTED_EPISTEMIC_RELATIONS : List String :=
  ["has_subquestion", "has_hypothesis", "supersedes", "duplicate_of"]

/-- The nodes some operations create, in order. -/
def created_nodes_of (ops : List GraphOperation) : List NewNode :=
  ops.flatMap GraphOperation.created_nodes

def created_node_ids (p : Patch) : List String :=
  (created_nodes_of p.ops).map (·.node.id)

def created_edge_ids (p : Patch) : List String :=
  (p.ops.flatMap GraphOperation.created_edges).map NewEdge.named_id

/-- The type of the first created node of that id. -/
def created_node_type (ops : List GraphOperation) (node_id : String) : Option NodeType :=
  ((created_nodes_of ops).find? (fun raw => raw.node.id = node_id)).map (·.node.type)

/-- Whether `node_id` names a pre-Patch ResearchQuestion or Hypothesis. -/
def is_existing_protected_node (s : GraphState) (node_id : String) : Bool :=
  (s.nodes.get? node_id).any (fun n => n.type.protected_belief)

/-- Whether a node id is created by the Patch and absent from the graph before it. -/
def is_new_node (s : GraphState) (p : Patch) (node_id : String) : Bool :=
  (created_node_ids p).contains node_id && !s.nodes.contains node_id

def restructures_protected_relation (s : GraphState) (p : Patch) (relation source target : String) :
    Bool :=
  PROTECTED_EPISTEMIC_RELATIONS.contains relation
    && !(is_new_node s p source || is_new_node s p target)
    && (is_existing_protected_node s source || is_existing_protected_node s target)

/-- Membership of a raw value in a set of texts; a value that cannot be hashed
    is a type error. -/
def value_in (v : Option Value) (names : List String) : Except PyError Bool :=
  match v with
  | some (.str s) => .ok (names.contains s)
  | some (.list _) => .error (.type_error "unhashable type: 'list'")
  | some (.dict _) => .error (.type_error "unhashable type: 'dict'")
  | _ => .ok false

/-- `actions or {base}` -/
def actions_or (base : GraphAction) (actions : List GraphAction) : List GraphAction :=
  if actions.isEmpty then [base] else actions

/-! ### Action derivation -/

/-- The action one node update needs. -/
def update_action (s : GraphState) (p : Patch) (update : NodeUpdate) : Except PyError GraphAction :=
  if is_existing_protected_node s update.id then .ok .update_protected_epistemic
  else
    let existing_decision := (s.nodes.get? update.id).any (fun n => n.type = .decision)
    if (existing_decision ∨ created_node_type p.ops update.id = some .decision)
        ∧ (p.human_action = some .decision_choice ∨ p.agent_action = some .decision_choice) then
      .ok .decide_decision
    else if existing_decision then do
      let queued ← value_in (Dict.get update.changes "status") ["open", "ready", "revisit"]
      return if queued then .queue_decision else .update_node
    else .ok .update_node

def update_actions (s : GraphState) (p : Patch) (updates : List NodeUpdate) :
    Except PyError (List GraphAction) := do
  let actions ← updates.mapM (update_action s p)
  return actions_or .update_node actions

def create_edge_actions (s : GraphState) (p : Patch) (edges : List NewEdge) : List GraphAction :=
  actions_or .create_edge (edges.map fun e =>
    if restructures_protected_relation s p e.relation e.source e.target then
      .restructure_protected_epistemic
    else .create_edge)

/-- The action removing one edge needs.  `edge_id not in new_edge_ids` holds
    for every edge of the graph before the Patch. -/
def remove_edge_action (s : GraphState) (edge_id : String) : GraphAction :=
  match s.edges.get? edge_id with
  | none => .remove_edge
  | some e =>
    if PROTECTED_EPISTEMIC_RELATIONS.contains e.relation
        && (is_existing_protected_node s e.source || is_existing_protected_node s e.target) then
      .restructure_protected_epistemic
    else .remove_edge

def remove_edge_actions (s : GraphState) (edge_ids : List String) : List GraphAction :=
  actions_or .remove_edge (edge_ids.map (remove_edge_action s))

def node_target_actions (s : GraphState) (node_ids : List String) (base «protected» : GraphAction) :
    List GraphAction :=
  actions_or base (node_ids.map fun id =>
    if is_existing_protected_node s id then «protected» else base)

/-- Both the lifecycle action and the implicit protected relation. -/
def node_lifecycle_actions (s : GraphState) (p : Patch) (node_ids : List String)
    (generated_edge_endpoints : List (String × String)) (generated_relation : String)
    (base «protected» : GraphAction) : List GraphAction :=
  node_target_actions s node_ids base «protected» ++
    (if generated_edge_endpoints.any (fun (source, target) =>
        restructures_protected_relation s p generated_relation source target) then
      [.restructure_protected_epistemic]
    else [])

/-- The authority actions one operation needs; `s` is the graph from before
    the outer Patch `p`. -/
def operation_actions (s : GraphState) (p : Patch) :
    GraphOperation → Except PyError (List GraphAction)
  | .create_nodes _ => .ok [.create_node]
  | .update_nodes updates => update_actions s p updates
  | .create_edges edges => .ok (create_edge_actions s p edges)
  | .remove_edges edge_ids => .ok (remove_edge_actions s edge_ids)
  | .remove_nodes node_ids =>
    .ok (node_target_actions s node_ids .remove_node .remove_protected_epistemic)
  | .supersede_nodes nodes =>
    .ok (node_lifecycle_actions s p (nodes.map (·.id))
      (nodes.filterMap (fun item => item.superseded_by.map (item.id, ·))) "supersedes"
      .supersede_node .supersede_protected_epistemic)
  | .merge_nodes merges =>
    .ok (node_lifecycle_actions s p (merges.map (·.duplicate))
      (merges.map (fun item => (item.duplicate, item.canonical))) "duplicate_of"
      .merge_node .merge_protected_epistemic)
  | .set_standing node_id _ =>
    .ok (if is_existing_protected_node s node_id
        ∨ (created_node_type p.ops node_id).any NodeType.protected_belief then
      [.update_protected_epistemic]
    else [.set_standing])
  | .create_ambiguities _ => .ok [.create_ambiguity]
  | .resolve_ambiguities _ => .ok [.resolve_ambiguity]
  | .create_proposals _ => .ok [.create_proposal]
  | .resolve_proposals _ => .ok [.resolve_proposal]
  | .withdraw_proposals _ => .ok [.withdraw_proposal]
  | .upsert_glossary _ => .ok [.upsert_glossary]
  | .set_coverage _ => .ok [.set_coverage]
  | .set_project_truth_scope _ _ => .ok [.set_project_truth_scope]
  | .set_ontology _ => .ok [.set_ontology]

end ResearchGraph
