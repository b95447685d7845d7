import ResearchGraph.Encode
import ResearchGraph.Validation.Nodes

/-! # Experiment-loop rules (`rcp/core/validation/experiment_loop.py`)

    What a bounded loop may write: its own Experiment, the pinned Decisions it
    queues, Evidence and Blockers it creates, and one grounded belief Proposal.
-/

namespace ResearchGraph

open Lib

/-! ### Attempts -/

/-- `_TERMINAL_ATTEMPT_STATUSES` -/
def AttemptStatus.terminal (status : AttemptStatus) : Bool := !status.active

def validate_attempt_close (experiment_id : String) (revision : Option Nat)
    (pair : ExperimentAttempt × ExperimentAttempt) : Rule Unit :=
  let (before, after) := pair
  if ¬ before.same_fixed after then
    reject "experiment-loop-attempt-mutation"
      (s!"Experiment loop {experiment_id} cannot rewrite attempt {repr_str before.id} or "
        ++ "its pinned decision bundle.") revision [experiment_id]
  else Check.when (¬ before.same after ∧ (before.status.terminal ∨ ¬ after.status.terminal))
    (reject "experiment-loop-attempt-close"
      s!"Experiment loop {experiment_id} may only close a nonterminal attempt."
      revision [experiment_id])

def validate_appended_attempt (experiment_id : String) (pinned : List ExperimentDecisionPin)
    (revision : Option Nat) (attempt : ExperimentAttempt) : Rule Unit := do
  Check.when (attempt.decision_bundle ≠ pinned) (reject "experiment-loop-pinned-bundle"
    s!"New attempt {repr_str attempt.id} must copy the RCP-pinned governing decisions."
    revision (experiment_id :: pinned.map (·.decision_id)))
  Check.when (attempt.attempt_kind = .proposal_only ∧ attempt.job_refs ≠ [])
    (reject "experiment-loop-proposal-job"
      s!"Proposal-only attempt {repr_str attempt.id} cannot name an external job."
      revision [experiment_id])
  Check.when (attempt.attempt_kind = .proposal_only ∧ ¬ attempt.status.terminal)
    (reject "experiment-loop-proposal-status"
      (s!"Proposal-only attempt {repr_str attempt.id} must be terminal in the turn that "
        ++ "creates it.") revision [experiment_id])

/-- Attempts are closed or appended, never removed or rewritten.  A value the
    typed model refuses is left to the update rule. -/
def validate_attempts (experiment_id : String) (previous : List ExperimentAttempt)
    (raw_attempts : Value) (pinned : List ExperimentDecisionPin) (has_proposals : Bool)
    (revision : Option Nat) : Rule Unit :=
  match decode_list (ExperimentAttempt.decode .lax) raw_attempts with
  | .error _ => pure ()
  | .ok attempts =>
    if attempts.length < previous.length then
      reject "experiment-loop-attempt-removal"
        s!"Experiment loop {experiment_id} cannot remove attempt records." revision [experiment_id]
    else do
      Check.forEach (previous.zip attempts) (validate_attempt_close experiment_id revision)
      let appended := attempts.drop previous.length
      Check.forEach appended (validate_appended_attempt experiment_id pinned revision)
      Check.when (appended.any (fun a => a.attempt_kind = .proposal_only) ∧ ¬ has_proposals)
        (reject "experiment-loop-proposal-attempt"
          s!"Proposal-only attempt in experiment {experiment_id} requires a proposal."
          revision [experiment_id])
      Check.when (¬ (attempts.map (·.id)).Nodup) (reject "experiment-loop-duplicate-attempt"
        s!"Experiment {experiment_id} cannot contain duplicate attempt ids."
        revision [experiment_id])

/-! ### Updates -/

/-- The fields a loop may change on its own control node; replay also accepts
    the ones that loading a generation-1 Patch adds. -/
def allowed_experiment_fields (p : Patch) (mode : ValidationMode) : List String :=
  ["attempts", "status", "current_summary", "next_action"] ++
    (if mode = .replay ∧ p.schema_generation = .one then LEGACY_COMPATIBILITY_UPDATE_FIELDS
    else [])

/-- Queueing a pinned Decision. -/
def validate_pinned_update (s : GraphState) (experiment_id : String) (update : NodeUpdate)
    (revision : Option Nat) : Rule Unit := do
  let queued ← (if update.changes.keys ≠ ["status"] then pure false
    else Check.lift (value_in (Dict.get update.changes "status") ["open", "ready", "revisit"]))
  (if ¬ queued then
    reject "experiment-loop-decision-action"
      (s!"Experiment loop {experiment_id} may only queue pinned Decision {repr_str update.id} "
        ++ "as open, ready, or revisit; it may never decide it.")
      revision [experiment_id, update.id]
  else Check.when (¬ (s.nodes.get? update.id).any (fun n => n.type = .decision))
    (reject "experiment-loop-foreign-update"
      (s!"Experiment loop {experiment_id} cannot queue missing or non-Decision "
        ++ s!"node {repr_str update.id}.") revision [experiment_id, update.id]))

def validate_loop_update (s : GraphState) (experiment_id : String) (experiment : Experiment)
    (pinned : List ExperimentDecisionPin) (has_proposals : Bool) (allowed : List String)
    (revision : Option Nat) (update : NodeUpdate) : Rule Unit :=
  if update.id ∈ pinned.map (·.decision_id) then
    validate_pinned_update s experiment_id update revision
  else if update.id ≠ experiment_id then
    reject "experiment-loop-foreign-update"
      s!"Experiment loop {experiment_id} cannot update node {repr_str update.id}."
      revision [experiment_id, update.id]
  else do
    let forbidden := sorted_diff update.changes.keys allowed
    Check.when (forbidden ≠ []) (reject "experiment-loop-experiment-field"
      (s!"Experiment loop {experiment_id} may update only status, attempts, "
        ++ s!"current_summary, and next_action; refused: {comma_join forbidden}.")
      revision [experiment_id])
    match Dict.get update.changes "attempts" with
    | none => pure ()
    | some raw_attempts =>
      validate_attempts experiment_id experiment.attempts raw_attempts pinned has_proposals revision

/-! ### Created nodes and edges -/

def validate_loop_created_node (experiment_id : String) (revision : Option Nat) (raw : NewNode) :
    Rule Unit :=
  Check.when (raw.node.type ≠ .evidence ∧ raw.node.type ≠ .blocker)
    (reject "experiment-loop-created-node"
      s!"Experiment loop {experiment_id} may create only Evidence or Blocker nodes."
      revision [experiment_id])

/-- `_created_node_types`: the type of the last created node of that id. -/
def loop_created_type (ops : List GraphOperation) (node_id : String) : Option NodeType :=
  (created_node (created_nodes_of ops) node_id).map Node.type

/-- `_SELF_ATTACHMENT_RELATIONS` -/
def SELF_ATTACHMENT_RELATIONS : String → Option NodeType
  | "produces" => some .evidence
  | "blocked_by" => some .blocker
  | _ => none

/-- `_EVIDENCE_HANDOFF_RELATIONS` -/
def EVIDENCE_HANDOFF_RELATIONS : String → Option NodeType
  | "informs" => some .decision
  | "addresses" => some .blocker
  | _ => none

/-- The staged type of a node, else the type it is created with. -/
def loop_node_type (s : GraphState) (ops : List GraphOperation) (node_id : String) :
    Option NodeType :=
  ((s.nodes.get? node_id).map Node.type).orElse (fun _ => loop_created_type ops node_id)

def validate_loop_created_edge (s : GraphState) (ops : List GraphOperation)
    (experiment_id : String) (revision : Option Nat) (edge : NewEdge) : Rule Unit :=
  match SELF_ATTACHMENT_RELATIONS edge.relation, EVIDENCE_HANDOFF_RELATIONS edge.relation with
  | some expected_type, _ =>
    Check.when (¬ (edge.source = experiment_id
        ∧ loop_created_type ops edge.target = some expected_type))
      (reject "experiment-loop-self-attachment"
        (s!"Experiment loop {experiment_id} may use {repr_str edge.relation} only from its own "
          ++ s!"experiment to a {expected_type.name} node this patch creates.")
        revision [experiment_id, edge.target])
  | none, some expected_target_type =>
    Check.when (¬ (loop_created_type ops edge.source = some .evidence
        ∧ loop_node_type s ops edge.target = some expected_target_type))
      (reject "experiment-loop-evidence-handoff"
        (s!"Experiment loop {experiment_id} may use {repr_str edge.relation} only from Evidence "
          ++ s!"this patch creates to a {expected_target_type.name} node.")
        revision [experiment_id, edge.source, edge.target])
  | none, none =>
    let layer := match RELATION_SPEC edge.relation with
      | some base => some base.layer
      | none => (custom_relation s.ontology edge.relation).map (·.layer.relation_layer)
    Check.when (layer ≠ some .epistemic) (reject "experiment-loop-edge-layer"
      (s!"Experiment loop {experiment_id} may assert only epistemic edges, attach its "
        ++ "own evidence and blockers to its experiment, or hand its new Evidence to a "
        ++ "Decision or Blocker.") revision [experiment_id])

/-! ### Belief Proposals -/

def tested_hypothesis_ids (s : GraphState) (experiment_id : String) : List String :=
  (s.edges.items.filter (fun e => e.source = experiment_id ∧ e.relation = "tests")).map
    (·.target)

/-- Ids of the Evidence edges into a Hypothesis that the Patch itself creates. -/
def grounding_edge_ids (s : GraphState) (ops : List GraphOperation) (hypothesis_id : String) :
    List String :=
  ((ops.flatMap GraphOperation.created_edges).filter (fun e =>
    e.target = hypothesis_id ∧ e.relation ∈ EVIDENCE_RELATIONS
      ∧ loop_node_type s ops e.source = some .evidence)).map NewEdge.named_id

/-- Node ids a Proposal would update, or none when it does anything else. -/
def proposal_update_targets (ops : List ProposalOperation) : List String :=
  if ops.all (fun op => match op with
    | .content_change _ nodes | .status_change _ nodes => !nodes.isEmpty
    | _ => false) then
    (ops.flatMap (fun op => op.updates.map (·.id))).dedup
  else []

def validate_belief_update (experiment_id hypothesis_id : String) (grounding : List String)
    (revision : Option Nat) (update : NodeUpdate) : Rule Unit :=
  if update.changes.keys ≠ ["status"] then
    reject "experiment-loop-belief-proposal-operations"
      s!"A belief proposal from {experiment_id} may change only {hypothesis_id}'s status."
      revision [experiment_id, hypothesis_id]
  else
    let caused : Bool := match update.cause with
      | some (.evidence_edge ref_id) => grounding.contains ref_id
      | _ => false
    Check.when (¬ caused) (reject "experiment-loop-belief-cause"
      (s!"A belief proposal from {experiment_id} must name one of this patch's "
        ++ s!"Evidence edges into {hypothesis_id} as its cause.")
      revision [experiment_id, hypothesis_id])

def validate_belief_proposal (s : GraphState) (ops : List GraphOperation) (experiment_id : String)
    (target_ids : List String) (revision : Option Nat) (proposal : Proposal) : Rule Unit :=
  match target_ids with
  | [hypothesis_id] => do
    let grounding := grounding_edge_ids s ops hypothesis_id
    Check.when (grounding = []) (reject "experiment-loop-belief-grounding"
      (s!"A belief proposal from {experiment_id} must rest on an evidence edge this patch "
        ++ s!"asserts into {hypothesis_id}.") revision [experiment_id, hypothesis_id])
    Check.forEach (proposal.ops.flatMap ProposalOperation.updates)
      (validate_belief_update experiment_id hypothesis_id grounding revision)
  | _ => reject "experiment-loop-belief-proposal-scope"
      s!"Experiment loop {experiment_id} may propose one belief change at a time."
      revision (experiment_id :: sorted_set target_ids)

def validate_loop_proposal (s : GraphState) (ops : List GraphOperation) (experiment_id : String)
    (revision : Option Nat) (proposal : Proposal) : Rule Unit :=
  let target_ids := proposal_update_targets proposal.ops
  if target_ids ≠ [] ∧ target_ids.all (fun id => id ∈ tested_hypothesis_ids s experiment_id) then
    validate_belief_proposal s ops experiment_id target_ids revision proposal
  else reject "experiment-loop-proposal-operations"
    s!"Experiment loop {experiment_id} proposals may update only one tested Hypothesis."
    revision (experiment_id :: sorted_set target_ids)

/-! ### The loop Patch -/

/-- Whether a Patch raises any Proposal. -/
def raises_proposals (ops : List GraphOperation) : Bool :=
  ops.any (fun
    | .create_proposals proposals => !proposals.isEmpty
    | _ => false)

def validate_loop_operation (s : GraphState) (p : Patch) (mode : ValidationMode)
    (experiment_id : String) (experiment : Experiment) (pinned : List ExperimentDecisionPin)
    (op : GraphOperation) : Rule Unit :=
  let revision := p.revision_label
  match op with
  | .update_nodes updates => Check.forEach updates (validate_loop_update s experiment_id experiment
      pinned (raises_proposals p.ops) (allowed_experiment_fields p mode) revision)
  | .create_nodes nodes => Check.forEach nodes (validate_loop_created_node experiment_id revision)
  | .create_edges edges =>
    Check.forEach edges (validate_loop_created_edge s p.ops experiment_id revision)
  | .create_proposals proposals => Check.forEach proposals
      (fun raw => validate_loop_proposal s p.ops experiment_id revision raw.toProposal)
  | op => reject "experiment-loop-operation"
      s!"Experiment loop {experiment_id} cannot use operation {repr_str op.op}."
      revision [experiment_id]

/-- The Experiment a loop Patch is bound to. -/
def control_experiment (s : GraphState) (control_node_id : Option String) :
    Option (Node × Experiment) :=
  match (control_node_id.filter (· ≠ "")).bind s.nodes.get? with
  | none => none
  | some n => match n.body with
    | .experiment b => some (n, b)
    | _ => none

def validate_experiment_loop_authority (s : GraphState) (p : Patch)
    (control_node_id : Option String) (pinned : List ExperimentDecisionPin)
    (mode : ValidationMode) : Rule Unit :=
  let revision := p.revision_label
  match control_experiment s control_node_id with
  | none => reject "experiment-loop-control-node"
      "An experiment-loop patch requires an RCP-bound Experiment node."
      revision (control_node_id.filter (· ≠ "")).toList
  | some (n, experiment) => do
    let pinned_ids := pinned.map (·.decision_id)
    Check.when (¬ pinned_ids.Nodup) (reject "experiment-loop-decision-bundle"
      "The RCP-bound governing decision bundle contains duplicate decisions."
      revision (n.id :: pinned_ids))
    Check.forEach p.ops (validate_loop_operation s p mode n.id experiment pinned)

end ResearchGraph
