import ResearchGraph.Models

/-! # Graph operations and Proposals (`rcp/core/operations.py`)

    The seventeen operations a Patch may carry, the Proposal-only operations
    with their declared intent, and the explicit boundary between the two
    (`graph_operation_from_proposal`).
-/

namespace ResearchGraph

open Lib

/-! ### Payloads -/

inductive BeliefCause
  | evidence_edge (ref_id : String)
  | decision (ref_id : String)
  | proposal_resolution (ref_id : String)
  | human_edit
  deriving DecidableEq, Repr

/-- One node update; `changes` is an arbitrary JSON object. -/
structure NodeUpdate where
  id : String
  changes : Dict String Value
  cause : Option BeliefCause := none
  base_updated_rev : Option Nat := none
  deriving DecidableEq

structure SupersedeNode where
  id : String
  superseded_by : Option String := none
  explanation : String := ""
  cause : Option BeliefCause := none
  deriving DecidableEq, Repr

structure NodeMerge where
  duplicate : String
  canonical : String
  explanation : String := ""
  cause : Option BeliefCause := none
  deriving DecidableEq, Repr

/-- The `id` of a new edge as written: absent, an explicit null, or a text.
    Absence asks for the derived id; a null is kept and fails to validate. -/
inductive EdgeIdField
  | unset
  | null
  | given (id : String)
  deriving DecidableEq, Repr

structure NewEdge where
  id : EdgeIdField := .unset
  source : String
  target : String
  relation : String
  explanation : String := ""
  assessment : Option EvidenceAssessment := none
  deriving DecidableEq, Repr

/-- The id derived from an edge's endpoints and relation. -/
def derived_edge_id (source relation target : String) : String :=
  source ++ "::" ++ relation ++ "::" ++ target

/-- `edge.id or f"{source}::{relation}::{target}"`: an empty text counts as absent. -/
def NewEdge.named_id (e : NewEdge) : String :=
  match e.id with
  | .given s => if s = "" then derived_edge_id e.source e.relation e.target else s
  | _ => derived_edge_id e.source e.relation e.target

/-- The id the materializer stores the edge under: only an absent one is derived. -/
def NewEdge.stored_id (e : NewEdge) : Option String :=
  match e.id with
  | .unset => some (derived_edge_id e.source e.relation e.target)
  | .null => none
  | .given s => some s

structure NewAmbiguity where
  id : String
  question : String
  why_it_matters : String
  candidates : List String := []
  related_node_ids : List String := []
  artifact_refs : List String := []
  status : AmbiguityStatus := .open
  deriving DecidableEq, Repr

inductive AmbiguityVerdict
  | resolved
  | dismissed
  deriving DecidableEq, Repr

def AmbiguityVerdict.status : AmbiguityVerdict → AmbiguityStatus
  | .resolved => .resolved
  | .dismissed => .dismissed

structure AmbiguityResolution where
  id : String
  status : AmbiguityVerdict
  deriving DecidableEq, Repr

inductive ProposalStatus
  | pending
  | approved
  | rejected
  | withdrawn
  deriving DecidableEq, Repr, Inhabited

/-- The statuses a resolution may name. -/
inductive ResolutionStatus
  | approved
  | rejected
  | withdrawn
  deriving DecidableEq, Repr

def ResolutionStatus.status : ResolutionStatus → ProposalStatus
  | .approved => .approved
  | .rejected => .rejected
  | .withdrawn => .withdrawn

structure ProposalResolution where
  id : String
  status : ResolutionStatus
  reason : Option String := none
  deriving DecidableEq, Repr

structure ProposalWithdrawal where
  id : String
  reason : String := ""
  deriving DecidableEq, Repr

structure NewGlossaryTerm where
  term : String
  plain_definition : String
  where_defined : Option String := none
  deriving DecidableEq, Repr

/-- A coverage update; a field left out (`none`) keeps its previous value. -/
structure CoverageUpdate where
  repositories_seen : Option (List String) := none
  repositories_never_seen : Option (List String) := none
  sessions_read : Option (List String) := none
  sessions_skipped : Option (List String) := none
  earliest_timestamp : Option (Option Datetime) := none
  note : Option String := none
  deriving DecidableEq, Repr

structure RepositoryDescriptor where
  «alias» : String
  machine : String
  path : String
  deriving DecidableEq, Repr

/-- A node to create, with the names of the fields its author supplied. -/
structure NewNode where
  node : Node
  fields_set : List String := []
  deriving DecidableEq

/-! ### Proposals -/

/-- Operations inside a Proposal, one constructor for each declared intent;
    `legacy` marks the persisted generation-1 variant of the same shape. -/
inductive ProposalOperation
  | content_change (legacy : Bool) (nodes : List NodeUpdate)
  | status_change (legacy : Bool) (nodes : List NodeUpdate)
  | removal (legacy : Bool) (node_ids : List String)
  | supersede (legacy : Bool) (nodes : List SupersedeNode)
  | merge (legacy : Bool) (merges : List NodeMerge)
  | protected_relation_create (legacy : Bool) (edges : List NewEdge)
  | protected_relation_remove (legacy : Bool) (edge_ids : List String)
  | legacy_project_truth_scope_change (truth_scope : List String)
      (repository : Option RepositoryDescriptor)
  | legacy_ontology_change (ontology : OntologyState)
  | legacy_create_nodes (nodes : List NewNode)
  | legacy_create_ambiguities (ambiguities : List NewAmbiguity)
  | legacy_resolve_ambiguities (resolutions : List AmbiguityResolution)
  | legacy_upsert_glossary (terms : List NewGlossaryTerm)
  | legacy_set_coverage (coverage : CoverageUpdate)
  deriving DecidableEq

/-- `intent.startswith("legacy_")` -/
def ProposalOperation.is_legacy : ProposalOperation → Bool
  | .content_change l _ | .status_change l _ | .removal l _ | .supersede l _ | .merge l _
  | .protected_relation_create l _ | .protected_relation_remove l _ => l
  | _ => true

/-- The text of the declared intent, without the legacy prefix. -/
def ProposalOperation.intent : ProposalOperation → String
  | .content_change .. => "content_change"
  | .status_change .. => "status_change"
  | .removal .. => "removal"
  | .supersede .. => "supersede"
  | .merge .. => "merge"
  | .protected_relation_create .. | .protected_relation_remove .. => "protected_relation_change"
  | .legacy_project_truth_scope_change .. => "project_truth_scope_change"
  | .legacy_ontology_change .. => "ontology_change"
  | .legacy_create_nodes .. => "create_nodes"
  | .legacy_create_ambiguities .. => "create_ambiguities"
  | .legacy_resolve_ambiguities .. => "resolve_ambiguities"
  | .legacy_upsert_glossary .. => "upsert_glossary"
  | .legacy_set_coverage .. => "set_coverage"

/-- The human and agent roles. -/
inductive Author
  | agent
  | human
  deriving DecidableEq, Repr, Inhabited

structure GatedCard where
  situation_cold : String := ""
  why_human_now : String := ""
  consequences : String := ""
  decision_needed : String := ""
  deriving DecidableEq, Repr

structure Proposal where
  id : String
  title : String
  card : GatedCard := {}
  ops : List ProposalOperation
  related_node_ids : List String := []
  related_edge_ids : List String := []
  related_config_keys : List String := []
  base_rev : Nat := 0
  status : ProposalStatus := .pending
  created_by : Author := .agent
  created_by_operation_id : Option String := none
  raised_rev : Nat := 0
  resolved_rev : Option Nat := none
  resolved_by : Option Author := none
  resolved_by_operation_id : Option String := none
  resolution_reason : Option String := none
  rejection_reason : Option String := none
  deriving DecidableEq

instance : Keyed Proposal String := ⟨Proposal.id⟩

/-- A Proposal to create; the flags say which stamps its author supplied. -/
structure NewProposal extends Proposal where
  created_by_set : Bool := false
  created_by_operation_id_set : Bool := false
  deriving DecidableEq

/-! ### Operations -/

inductive GraphOperation
  | create_nodes (nodes : List NewNode)
  | update_nodes (nodes : List NodeUpdate)
  | create_edges (edges : List NewEdge)
  | remove_edges (edge_ids : List String)
  | remove_nodes (node_ids : List String)
  | supersede_nodes (nodes : List SupersedeNode)
  | merge_nodes (merges : List NodeMerge)
  | create_ambiguities (ambiguities : List NewAmbiguity)
  | resolve_ambiguities (resolutions : List AmbiguityResolution)
  | create_proposals (proposals : List NewProposal)
  | resolve_proposals (resolutions : List ProposalResolution)
  | withdraw_proposals (proposals : List ProposalWithdrawal)
  | upsert_glossary (terms : List NewGlossaryTerm)
  | set_coverage (coverage : CoverageUpdate)
  | set_standing (node_id : String) (standing : Standing)
  | set_project_truth_scope (truth_scope : List String)
      (repository : Option RepositoryDescriptor)
  | set_ontology (ontology : OntologyState)
  deriving DecidableEq

/-- The `op` discriminator. -/
def GraphOperation.op : GraphOperation → String
  | .create_nodes .. => "create_nodes"
  | .update_nodes .. => "update_nodes"
  | .create_edges .. => "create_edges"
  | .remove_edges .. => "remove_edges"
  | .remove_nodes .. => "remove_nodes"
  | .supersede_nodes .. => "supersede_nodes"
  | .merge_nodes .. => "merge_nodes"
  | .create_ambiguities .. => "create_ambiguities"
  | .resolve_ambiguities .. => "resolve_ambiguities"
  | .create_proposals .. => "create_proposals"
  | .resolve_proposals .. => "resolve_proposals"
  | .withdraw_proposals .. => "withdraw_proposals"
  | .upsert_glossary .. => "upsert_glossary"
  | .set_coverage .. => "set_coverage"
  | .set_standing .. => "set_standing"
  | .set_project_truth_scope .. => "set_project_truth_scope"
  | .set_ontology .. => "set_ontology"

/-- Drop the Proposal-only intent at the semantic replay boundary. -/
def graph_operation_from_proposal : ProposalOperation → GraphOperation
  | .content_change _ nodes | .status_change _ nodes => .update_nodes nodes
  | .removal _ ids => .remove_nodes ids
  | .supersede _ nodes => .supersede_nodes nodes
  | .merge _ merges => .merge_nodes merges
  | .protected_relation_create _ edges => .create_edges edges
  | .protected_relation_remove _ ids => .remove_edges ids
  | .legacy_project_truth_scope_change scope repository =>
    .set_project_truth_scope scope repository
  | .legacy_ontology_change ontology => .set_ontology ontology
  | .legacy_create_nodes nodes => .create_nodes nodes
  | .legacy_create_ambiguities ambiguities => .create_ambiguities ambiguities
  | .legacy_resolve_ambiguities resolutions => .resolve_ambiguities resolutions
  | .legacy_upsert_glossary terms => .upsert_glossary terms
  | .legacy_set_coverage coverage => .set_coverage coverage

def graph_operations_from_proposal (ops : List ProposalOperation) : List GraphOperation :=
  ops.map graph_operation_from_proposal

/-! ### What an operation list creates -/

/-- The nodes an operation creates, in order. -/
def GraphOperation.created_nodes : GraphOperation → List NewNode
  | .create_nodes nodes => nodes
  | _ => []

/-- The edges an operation writes through `create_edges`. -/
def GraphOperation.created_edges : GraphOperation → List NewEdge
  | .create_edges edges => edges
  | _ => []

/-- The resolutions an operation carries. -/
def GraphOperation.resolutions : GraphOperation → List ProposalResolution
  | .resolve_proposals resolutions => resolutions
  | _ => []

/-- The node updates an operation carries. -/
def GraphOperation.updates : GraphOperation → List NodeUpdate
  | .update_nodes updates => updates
  | _ => []

/-- The node updates of a Proposal operation (either update intent). -/
def ProposalOperation.updates : ProposalOperation → List NodeUpdate
  | .content_change _ nodes | .status_change _ nodes => nodes
  | _ => []

end ResearchGraph
