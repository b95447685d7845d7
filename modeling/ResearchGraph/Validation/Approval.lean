import ResearchGraph.Encode
import ResearchGraph.Validation.Nodes
import ResearchGraph.Proposals

/-! # Shapes of human Patches (`rcp/core/validation/approval.py`)

    A human approval Patch resolves one Proposal, makes one direct Decision
    choice, or does one standalone review, edit, creation or removal.
-/

namespace ResearchGraph

open Lib

/-! ### Operations of a kind -/

/-- The `resolve_proposals` operations of a Patch. -/
def resolution_ops (ops : List GraphOperation) : List (List ProposalResolution) :=
  ops.filterMap (fun
    | .resolve_proposals resolutions => some resolutions
    | _ => none)

/-- The `update_nodes` operations of a Patch. -/
def update_ops (ops : List GraphOperation) : List (List NodeUpdate) :=
  ops.filterMap (fun
    | .update_nodes updates => some updates
    | _ => none)

/-- The targets of the `set_standing` operations of a Patch. -/
def standing_targets (ops : List GraphOperation) : List String :=
  ops.filterMap (fun
    | .set_standing node_id _ => some node_id
    | _ => none)

/-- The operations a resolution replays: all but resolutions and reviews. -/
def semantic_ops (ops : List GraphOperation) : List GraphOperation :=
  ops.filter (fun
    | .resolve_proposals _ | .set_standing _ _ => false
    | _ => true)

/-! ### Direct node edits -/

/-- The attempt records of a human release: open attempts may only move to
    cancelled, and at least one must. -/
def release_attempts (node_id : String) (revision : Option Nat) :
    List (ExperimentAttempt × Value) → Nat → Rule Unit
  | [], released => Check.when (released = 0) (reject "invalid-attempt-release"
      s!"No open attempt on {node_id} was released." revision [node_id])
  | (before, after) :: rest, released =>
    match after with
    | .dict d =>
      let expected := Value.dict (before.json_fields.map (fun (k, v) =>
        if k = "status" then (k, .str "cancelled")
        else if k = "finished_at" ∨ k = "failure_reason" then (k, (d.lookup k).getD .null)
        else (k, v)))
      if after.loosely_equal before.to_json then release_attempts node_id revision rest released
      else if ¬ before.status.active ∨ ¬ after.loosely_equal expected
          ∨ (d.lookup "finished_at").getD .null = .null then
        reject "invalid-attempt-release"
          (s!"A human release on {node_id} may only move an open attempt to cancelled with "
            ++ "its finish time.") revision [node_id]
      else release_attempts node_id revision rest (released + 1)
    | _ => reject "invalid-attempt-release"
        s!"Releasing an attempt on {node_id} requires whole attempt records." revision [node_id]

def validate_attempt_release (n : Node) (raw_attempts : Value) (revision : Option Nat) :
    Rule Unit :=
  match n.body, raw_attempts with
  | .experiment b, .list raw =>
    if raw.length ≠ b.attempts.length then
      reject "invalid-attempt-release"
        s!"Releasing an attempt on {n.id} cannot add or remove attempt records." revision [n.id]
    else release_attempts n.id revision (b.attempts.zip raw) 0
  | .experiment _, _ => reject "invalid-attempt-release"
      s!"Releasing an attempt on {n.id} cannot add or remove attempt records." revision [n.id]
  | _, _ => reject "invalid-attempt-release" s!"{n.id} has no attempts to release."
      revision [n.id]

/-- The fields a human may edit on a node directly. -/
def editable_fields (n : Node) : List String :=
  HUMAN_EDITABLE_NODE_FIELDS n.type ++ ["extension_fields"]

/-- The prose rules of a direct edit. -/
def validate_prose_edit (n : Node) (changes : Dict String Value) (revision : Option Nat) :
    Rule Unit := do
  let disallowed := sorted_diff changes.keys (editable_fields n)
  Check.when (disallowed ≠ []) (reject "non-prose-node-edit"
    s!"Direct edits to {n.id} cannot change: {comma_join disallowed}." revision)
  Check.when (changes.items.all (fun e => n.attr_equals e.1 e.2)) (reject "empty-node-edit"
    "The submitted node edit is unchanged." revision)

/-- A direct edit of one existing node. -/
def validate_edited_node (p : Patch) (n : Node) (update : NodeUpdate) (mode : ValidationMode) :
    Rule Unit := do
  let revision := p.revision_label
  Check.when (update.base_updated_rev ≠ some n.updated_rev) (reject "stale-node-edit"
    s!"{n.id} changed after this editor opened; reload it before saving." revision)
  (if update.changes.items = [] then
    reject "empty-node-edit" "A direct node edit must change at least one editable field." revision
  else do
    Check.when (mode = .admission ∧ n.type = .decision ∧ writes_outcome update.changes)
      (reject "unnamed-decision-action"
        (if permits p .decide_decision then
          s!"An ordinary node edit may queue Decision {n.id}, but only a patch naming "
            ++ "human_action='decision_choice' may decide_decision."
        else s!"This actor is not permitted to decide_decision on Decision {n.id}.")
        revision [n.id])
    (if update.changes.keys = ["attempts"] then
      validate_attempt_release n ((Dict.get update.changes "attempts").getD .null) revision
    else validate_prose_edit n update.changes revision))

def validate_direct_node_edit (s : GraphState) (p : Patch) (updates : List NodeUpdate)
    (mode : ValidationMode) : Rule Unit :=
  let revision := p.revision_label
  match updates with
  | [update] => do
    Check.when (update.base_updated_rev.isNone ∨ update.cause.isSome)
      (reject "invalid-direct-node-edit"
        "A direct node edit requires exactly id, base_updated_rev, and changes." revision)
    (match s.nodes.get? update.id with
      | none => reject "unknown-node" s!"Cannot update missing node {repr_str update.id}." revision
      | some n => validate_edited_node p n update mode)
  | _ => reject "invalid-direct-node-edit"
      "A direct node edit must update exactly one existing node." revision

/-! ### Direct Decision choices -/

/-- One withdrawal beside a Decision choice. -/
def validate_superseded_proposal (s : GraphState) (n : Node) (revision : Option Nat)
    (seen : List String) (resolution : ProposalResolution) : Rule (List String) := do
  let refuse (message : String) := reject "invalid-direct-decision-choice" message revision [n.id]
  (if resolution.id ∈ seen then
    refuse s!"Proposal {repr_str resolution.id} is withdrawn more than once for {n.id}."
  else match s.proposals.get? resolution.id with
    | none => refuse s!"Proposal {repr_str resolution.id} for {n.id} is not pending."
    | some q =>
      if q.status ≠ .pending then
        refuse s!"Proposal {repr_str resolution.id} for {n.id} is not pending."
      else Check.when (¬ proposal_updates_node q n.id)
        (refuse s!"Proposal {repr_str resolution.id} does not target Decision {n.id}."))
  Check.when (resolution.status ≠ .withdrawn)
    (refuse s!"Direct choice on {n.id} may only withdraw superseded Proposals.")
  Check.when (resolution.reason.all blank)
    (refuse s!"Withdrawal of Proposal {repr_str resolution.id} for {n.id} requires a reason.")
  return seen ++ [resolution.id]

def validate_superseded_proposals (s : GraphState) (n : Node) (revision : Option Nat)
    (seen : List String) (resolutions : List ProposalResolution) : Rule (List String) :=
  if resolutions = [] then do
    reject "invalid-direct-decision-choice"
      s!"Proposal withdrawals for {n.id} cannot be empty." revision [n.id]
    return seen
  else Check.thread (validate_superseded_proposal s n revision) seen resolutions

/-- The pending Proposals that update a node. -/
def pending_proposals_for (s : GraphState) (node_id : String) : List String :=
  (s.proposals.items.filter (fun q =>
    q.status = .pending ∧ proposal_updates_node q node_id)).map Proposal.id

/-- Every pending Proposal that updates the Decision is withdrawn, and no other. -/
def validate_choice_withdrawals (s : GraphState) (p : Patch) (n : Node) : Rule Unit := do
  let revision := p.revision_label
  let seen ← Check.thread (validate_superseded_proposals s n revision) [] (resolution_ops p.ops)
  let expected := pending_proposals_for s n.id
  let missing := sorted_diff expected seen
  let unexpected := sorted_diff seen expected
  Check.when (missing ≠ [] ∨ unexpected ≠ []) (reject "invalid-direct-decision-choice"
    (s!"Direct choice on {n.id} must withdraw every pending Proposal targeting it ("
      ++ String.intercalate "; "
        ((if missing = [] then [] else ["missing " ++ comma_join missing])
          ++ (if unexpected = [] then [] else ["unexpected " ++ comma_join unexpected])) ++ ").")
    revision [n.id])

/-- `isinstance(v, str) and v.strip() and v in options` -/
def selectable (options : Value) : Value → Bool
  | .str s => !blank s && listed options (.str s) == some true
  | _ => false

def validate_choice (s : GraphState) (p : Patch) (n : Node) (d : Decision) (update : NodeUpdate) :
    Rule Unit := do
  let revision := p.revision_label
  let refuse (message : String) := reject "invalid-direct-decision-choice" message revision [n.id]
  let changes := update.changes
  Check.when (d.status = .superseded)
    (refuse s!"Decision {n.id} is superseded and cannot be decided again.")
  Check.when (update.base_updated_rev ≠ some n.updated_rev)
    (refuse s!"{n.id} changed after this choice was staged; reload before saving.")
  (if changes.items = [] then
    refuse s!"A direct choice for {n.id} must include selected_option and status."
  else do
    let disallowed := sorted_diff changes.keys (editable_fields n ++ ["selected_option", "status"])
    Check.when (disallowed ≠ [])
      (refuse s!"Direct choice on {n.id} cannot change: {comma_join disallowed}.")
    Check.when (Dict.get changes "status" ≠ some (.str "decided"))
      (refuse s!"Direct choice on {n.id} must set status exactly to decided.")
    Check.when (¬ selectable ((Dict.get changes "options").getD (str_list d.options))
        ((Dict.get changes "selected_option").getD (opt_str d.selected_option)))
      (refuse (s!"Direct choice on {n.id} must select one non-empty option from its current "
        ++ "options."))
    Check.when ((standing_targets p.ops).head?.any (fun id => id ≠ n.id))
      (refuse "A direct Decision choice and its staged judgment must target the same Decision.")
    validate_choice_withdrawals s p n)

def validate_direct_decision_choice (s : GraphState) (p : Patch) : Rule Unit :=
  let revision := p.revision_label
  let refuse (message : String) := reject "invalid-direct-decision-choice" message revision
  if ¬ permits p .decide_decision then
    refuse "Only an actor permitted to decide_decision may choose a Decision option."
  else if p.ops = []
      ∨ p.ops.any (fun op => op.op ∉ ["update_nodes", "resolve_proposals", "set_standing"]) then
    refuse ("A direct Decision choice may only update that Decision, withdraw its Proposals, "
      ++ "and review it.")
  else match update_ops p.ops, standing_targets p.ops with
    | [[update]], [] | [[update]], [_] =>
      if update.base_updated_rev.isNone ∨ update.cause.isSome then
        refuse "A direct Decision choice requires exactly id, base_updated_rev, and changes."
      else match s.nodes.get? update.id with
        | none => refuse s!"Cannot choose an option on non-Decision node {repr_str update.id}."
        | some n => match n.body with
          | .decision d => validate_choice s p n d update
          | _ => refuse s!"Cannot choose an option on non-Decision node {repr_str update.id}."
    | [_], [] | [_], [_] =>
      refuse "A direct Decision choice must update exactly one existing Decision."
    | _, _ => refuse
        "A direct Decision choice must update and optionally review exactly one Decision."

/-! ### Standalone Patches -/

/-- A single operation that is legal on its own. -/
def is_standalone (mode : ValidationMode) : List GraphOperation → Bool
  | [.set_standing _ _] | [.remove_nodes _] | [.set_ontology _]
  | [.set_project_truth_scope _ _] => true
  | [.resolve_ambiguities _] => mode = .replay
  | _ => false

def validate_direct_node_create (nodes : List NewNode) (revision : Option Nat) : Rule Unit :=
  match nodes with
  | [raw] => do
    Check.when (raw.node.extension_type.isNone) (reject "invalid-direct-node-create"
      "The standalone New-node path creates exactly one custom ontology node." revision)
    Check.when (raw.node.standing ≠ .asserted ∨ raw.node.source_refs ≠ [])
      (reject "invalid-direct-node-create"
        "A human-created custom node starts asserted and cannot claim source records." revision)
  | _ => reject "invalid-direct-node-create"
      "A confirmed staged New node patch must create exactly one node." revision

/-- One staged edit, with an optional review of the same node. -/
def validate_standalone_edit (s : GraphState) (p : Patch) (mode : ValidationMode) : Rule Unit :=
  let revision := p.revision_label
  match update_ops p.ops, standing_targets p.ops with
  | [updates], [] => validate_direct_node_edit s p updates mode
  | [updates], [node_id] => do
    validate_direct_node_edit s p updates mode
    Check.when (updates.head?.any (fun u => u.id ≠ node_id)) (reject "invalid-standalone-review"
      "A staged node edit and review must target the same node." revision)
  | _, _ => reject "invalid-standalone-review"
      "One staged node patch may edit and review exactly one node." revision

def validate_standalone (s : GraphState) (p : Patch) (mode : ValidationMode) : Rule Unit :=
  match p.ops with
  | [.create_nodes nodes] => validate_direct_node_create nodes p.revision_label
  | ops =>
    if is_standalone mode ops then pure ()
    else if ops ≠ [] ∧ ops.all (fun op => op.op = "update_nodes" ∨ op.op = "set_standing") then
      validate_standalone_edit s p mode
    else reject "invalid-standalone-review"
      "A standalone human patch must review one node or edit one node directly." p.revision_label

/-! ### Resolutions -/

def validate_approved_decision_result (s : GraphState) (ops : List GraphOperation)
    (revision : Option Nat) : Rule Unit :=
  Check.forEach (ops.flatMap GraphOperation.updates) fun update =>
    match s.nodes.get? update.id with
    | none => pure ()
    | some n => match n.body with
      | .decision d => match decision_transition_error n.id d update.changes with
        | none => pure ()
        | some error => reject "incoherent-decision-approval" error revision [n.id]
      | _ => pure ()

def writes_decision_outcome (s : GraphState) (ops : List GraphOperation) : Bool :=
  (ops.flatMap GraphOperation.updates).any (fun update =>
    (s.nodes.get? update.id).any (fun n => n.type = .decision) && writes_outcome update.changes)

/-- An approval replays the stored operations, or their normalized form. -/
def validate_approved_ops (s : GraphState) (p : Patch) (q : Proposal) (mode : ValidationMode) :
    Rule Unit := do
  let revision := p.revision_label
  let ops := semantic_ops p.ops
  let normalized_ops := normalized_decision_proposal_ops s q
  let proposal_semantic_ops := graph_operations_from_proposal q.ops
  let is_verbatim := same_operations ops proposal_semantic_ops
  let requires_normalization := !same_operations normalized_ops proposal_semantic_ops
  (if ¬ is_verbatim ∧ ¬ same_operations ops normalized_ops then
    reject "proposal-replay-mismatch"
      ("Approval must replay the proposal's stored operations, allowing only the "
        ++ "implied decided status for a legacy Decision selection.") revision
  else if is_verbatim ∧ requires_normalization ∧ mode = .admission then
    reject "unnormalized-decision-approval"
      "A legacy Decision selection approval must add the implied decided status." revision
  else Check.when (¬ (is_verbatim ∧ requires_normalization))
    (validate_approved_decision_result s ops revision))
  (if mode = .admission ∧ writes_decision_outcome s ops then
    if p.human_action ≠ some .decision_choice then
      reject "unnamed-decision-action"
        ("Approving a legacy Decision Proposal that writes selected_option or status "
          ++ "decided must name the decide_decision action.") revision
    else Check.when (¬ permits p .decide_decision) (reject "decision-action-refused"
      ("This actor is not permitted to decide_decision through a legacy "
        ++ "Decision Proposal approval.") revision)
  else Check.when (p.human_action = some .decision_choice ∧ ¬ writes_decision_outcome s ops)
    (reject "invalid-direct-decision-choice"
      "A decision_choice Proposal approval must replay a legacy Decision outcome." revision))

def validate_resolution (s : GraphState) (p : Patch) (q : Proposal) (status : ResolutionStatus)
    (mode : ValidationMode) : Rule Unit := do
  let revision := p.revision_label
  let is_stale := proposal_is_stale s q
  Check.when (is_stale ∧ status ≠ .withdrawn) (reject "stale-proposal"
    "A node, project setting, or semantic cause changed after this proposal was written." revision)
  Check.when (status = .approved) (validate_approved_ops s p q mode)
  Check.when ((status = .rejected ∨ status = .withdrawn) ∧ semantic_ops p.ops ≠ [])
    (reject "rejected-proposal-has-ops"
      "Rejected or withdrawn proposals cannot apply semantic operations." revision)
  Check.when (status = .withdrawn ∧ ¬ is_stale) (reject "invalid-stale-withdrawal"
    "The human UI may withdraw a proposal here only when its base state is stale." revision)

def validate_resolution_shape (s : GraphState) (p : Patch)
    (resolutions : List (List ProposalResolution)) (mode : ValidationMode) : Rule Unit :=
  let revision := p.revision_label
  match resolutions with
  | [[resolution]] => match s.proposals.get? resolution.id with
    | none => reject "proposal-not-pending" "The referenced proposal is not pending." revision
    | some q =>
      if q.status ≠ .pending then
        reject "proposal-not-pending" "The referenced proposal is not pending." revision
      else validate_resolution s p q resolution.status mode
  | _ => reject "invalid-proposal-resolution" "Resolve one proposal per approval patch." revision

/-- Whether some resolution of the Patch approves. -/
def approves (ops : List GraphOperation) : Bool :=
  (ops.flatMap GraphOperation.resolutions).any (fun r => r.status = .approved)

def validate_approval_shape (s : GraphState) (p : Patch) (mode : ValidationMode) : Rule Unit :=
  if p.human_action = some .decision_choice ∧ ¬ approves p.ops then
    validate_direct_decision_choice s p
  else match resolution_ops p.ops with
    | [] => validate_standalone s p mode
    | resolutions => validate_resolution_shape s p resolutions mode

end ResearchGraph
