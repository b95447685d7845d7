import ResearchGraph.Decode
import ResearchGraph.Report

/-! # Proposal dependencies and staleness

    `proposal_dependencies` of `rcp/core/validation/registry.py` and the pure
    functions of `rcp/core/validation/proposals.py`: what a pending Proposal
    depends on, when it has gone stale, and the operations its approval
    replays.
-/

namespace ResearchGraph

open Lib

/-! ### Dependencies -/

/-- The candidate node ids and configuration keys one operation depends on
    (the `depends_*` functions of the operation registry). -/
def operation_dependencies (s : GraphState) : ProposalOperation → List String × List String
  | .content_change _ nodes | .status_change _ nodes =>
    (nodes.map (·.id),
      (nodes.filter (fun u => Dict.has u.changes "extension_fields")).map (fun _ => "ontology"))
  | .removal _ node_ids => (node_ids, [])
  | .supersede _ nodes =>
    (nodes.flatMap (fun item => item.id :: item.superseded_by.toList), [])
  | .merge _ merges => (merges.flatMap (fun item => [item.duplicate, item.canonical]), [])
  | .protected_relation_create _ edges => (edges.flatMap (fun e => [e.source, e.target]), [])
  | .protected_relation_remove _ edge_ids =>
    (edge_ids.flatMap (fun id => match s.edges.get? id with
      | none => []
      | some e => [e.source, e.target]), [])
  | .legacy_project_truth_scope_change _ _ => ([], ["project_truth_scope"])
  | .legacy_ontology_change _ => ([], ["ontology"])
  | .legacy_create_ambiguities ambiguities => (ambiguities.flatMap (·.related_node_ids), [])
  | .legacy_resolve_ambiguities resolutions =>
    (resolutions.flatMap (fun r => match s.ambiguities.get? r.id with
      | none => []
      | some a => a.related_node_ids), [])
  | .legacy_create_nodes _ | .legacy_upsert_glossary _ | .legacy_set_coverage _ => ([], [])

/-- The edges an update's cause names. -/
def cause_edge_ids (updates : List NodeUpdate) : List String :=
  updates.filterMap (fun u => match u.cause with
    | some (.evidence_edge ref_id) => some ref_id
    | _ => none)

/-- The Decisions an update's cause names. -/
def cause_decision_ids (updates : List NodeUpdate) : List String :=
  updates.filterMap (fun u => match u.cause with
    | some (.decision ref_id) => some ref_id
    | _ => none)

/-- The ids of the edges with an endpoint among some nodes. -/
def incident_edge_ids (s : GraphState) (node_ids : List String) : List String :=
  (s.edges.items.filter (fun e => e.source ∈ node_ids ∨ e.target ∈ node_ids)).map Edge.id

/-- The edges whose exact state one operation depends on. -/
def operation_edge_dependencies (s : GraphState) : ProposalOperation → List String
  | .protected_relation_remove _ edge_ids => edge_ids
  | .removal _ node_ids => incident_edge_ids s node_ids
  | .content_change _ nodes | .status_change _ nodes => cause_edge_ids nodes
  | _ => []

structure Dependencies where
  node_ids : List String
  edge_ids : List String
  config_keys : List String
  deriving DecidableEq, Repr

/-- The graph objects and configuration whose exact state a Proposal depends on. -/
def proposal_dependencies (s : GraphState) (ops : List ProposalOperation) : Dependencies where
  node_ids := sorted_set (ops.flatMap (fun op =>
    (operation_dependencies s op).1 ++ cause_decision_ids op.updates))
  edge_ids := sorted_set (ops.flatMap (operation_edge_dependencies s))
  config_keys := sorted_set (ops.flatMap (fun op => (operation_dependencies s op).2))

/-! ### Staleness -/

/-- The nodes a current removal intent names. -/
def proposal_removal_targets (p : Proposal) : List String :=
  p.ops.flatMap (fun
    | .removal false node_ids => node_ids
    | _ => [])

/-- The edges a Proposal's operations refer to directly. -/
def proposal_reference_edges (p : Proposal) : List String :=
  p.ops.flatMap (fun op => match op with
    | .protected_relation_remove _ edge_ids => edge_ids
    | op => cause_edge_ids op.updates)

/-- The Decisions a Proposal's causes refer to. -/
def proposal_reference_decisions (p : Proposal) : List String :=
  p.ops.flatMap (fun op => cause_decision_ids op.updates)

/-- The edge ids whose absence is part of the judged semantic effect. -/
def proposal_created_edge_ids (p : Proposal) : List String :=
  p.ops.flatMap (fun
    | .protected_relation_create false edges => edges.map NewEdge.named_id
    | .supersede false nodes => nodes.filterMap (fun item =>
        item.superseded_by.map (derived_edge_id item.id "supersedes"))
    | .merge false merges => merges.map (fun item =>
        derived_edge_id item.duplicate "duplicate_of" item.canonical)
    | _ => [])

/-- `proposal.raised_rev or proposal.base_rev` -/
def Proposal.dependency_revision (p : Proposal) : Nat :=
  if p.raised_rev = 0 then p.base_rev else p.raised_rev

/-- A node is missing or was written after revision `rev`. -/
def node_moved (s : GraphState) (rev : Nat) (node_id : String) : Bool :=
  match s.nodes.get? node_id with
  | none => true
  | some n => rev < n.updated_rev

/-- An edge is missing or was written after revision `rev`. -/
def edge_moved (s : GraphState) (rev : Nat) (edge_id : String) : Bool :=
  match s.edges.get? edge_id with
  | none => true
  | some e => rev < e.created_rev

/-- A configuration key was written after revision `rev`. -/
def config_moved (s : GraphState) (rev : Nat) (key : String) : Bool :=
  rev < (Dict.get s.config_revisions key).getD 0

/-- A referenced Decision is missing, has another type, or was written after `rev`. -/
def decision_moved (s : GraphState) (rev : Nat) (node_id : String) : Bool :=
  match s.nodes.get? node_id with
  | none => true
  | some n => n.type ≠ .decision || rev < n.updated_rev

/-- `set(xs) == set(ys)` -/
def same_set (xs ys : List String) : Bool :=
  xs.all (fun x => ys.contains x) && ys.all (fun y => xs.contains y)

/-- Whether the state a pending Proposal depends on has moved or disappeared. -/
def proposal_is_stale (s : GraphState) (p : Proposal) : Bool :=
  let rev := p.dependency_revision
  p.related_node_ids.any (node_moved s rev)
    || p.related_config_keys.any (config_moved s rev)
    || (p.related_edge_ids ++ proposal_reference_edges p).any (edge_moved s rev)
    || (proposal_created_edge_ids p).any s.edges.contains
    || (let targets := proposal_removal_targets p
        !targets.isEmpty && !same_set (incident_edge_ids s targets) p.related_edge_ids)
    || (proposal_reference_decisions p).any (decision_moved s rev)

/-! ### Decision transitions -/

/-- `changes.get(key) is not None` -/
def sets_value (changes : Dict String Value) (key : String) : Bool :=
  match Dict.get changes key with
  | none | some .null => false
  | some _ => true

/-- `value in options` for a raw list of options; `none` when it is no list. -/
def listed (options v : Value) : Option Bool :=
  match options with
  | .list xs => some (xs.any (fun x => v.loosely_equal x))
  | _ => none

/-- The authority-coherence error of a proposed Decision transition. -/
def decision_transition_error (decision_id : String) (d : Decision)
    (changes : Dict String Value) : Option String :=
  let selected_option := (Dict.get changes "selected_option").getD (opt_str d.selected_option)
  let status := (Dict.get changes "status").getD (.str (literal_name DecisionStatus.names d.status))
  let options := (Dict.get changes "options").getD (str_list d.options)
  if sets_value changes "selected_option" ∧ listed options selected_option = some false then
    some s!"Decision {decision_id} can select only an option listed in its resulting options."
  else if status = .str "decided"
      ∧ (selected_option = .null ∨ listed options selected_option ≠ some true) then
    some (s!"Decision {decision_id} can be decided only with a selected option listed in its "
      ++ "resulting options.")
  else if status = .str "revisit" ∧ d.status ≠ .revisit ∧ d.selected_option = none then
    some s!"Decision {decision_id} can be revisited only after it has a prior decision."
  else if (d.status = .open ∨ d.status = .ready ∨ d.status = .revisit)
      ∧ sets_value changes "selected_option" ∧ status ≠ .str "decided" then
    some s!"Decision {decision_id} must become decided when an option is selected."
  else none

/-! ### Replayed operations -/

/-- Whether any node update of a Proposal targets a node. -/
def proposal_updates_node (p : Proposal) (node_id : String) : Bool :=
  p.ops.any (fun op => op.updates.any (fun u => u.id = node_id))

/-- Add the implied decided status to one update of an undecided Decision. -/
def normalized_update (s : GraphState) (u : NodeUpdate) : NodeUpdate :=
  match (s.nodes.get? u.id).map Node.body with
  | some (.decision d) =>
    if sets_value u.changes "selected_option" ∧ ¬ Dict.has u.changes "status"
        ∧ d.status ≠ .decided then
      { u with changes := Dict.set u.changes "status" (.str "decided") }
    else u
  | _ => u

/-- The operations an approval replays: the stored ones, with the one implied
    field accepted for legacy Decision Proposals. -/
def normalized_decision_proposal_ops (s : GraphState) (p : Proposal) : List GraphOperation :=
  (graph_operations_from_proposal p.ops).map (fun
    | .update_nodes updates => .update_nodes (updates.map (normalized_update s))
    | op => op)

end ResearchGraph
