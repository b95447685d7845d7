import ResearchGraph.Validation.Ops

/-! # Proposal rules (`rcp/core/validation/proposals.py`)

    The one protected change an agent Proposal may declare, and the trial run
    of the operations its approval would replay.
-/

namespace ResearchGraph

open Lib

variable [TextLibrary]

/-! ### Protected targets -/

/-- A ResearchQuestion or Hypothesis the outer Patch did not itself create. -/
def existing_protected_node (s : GraphState) (context_patch : Patch) (node_id : String) :
    Option Node :=
  (s.nodes.get? node_id).filter (fun n =>
    !((created_node_ids context_patch).contains node_id
        && n.created_rev == context_patch.revision)
      && n.type.protected_belief)

/-- The protected type of a staged node, or of one the outer Patch creates. -/
def protected_node_type (s : GraphState) (context_patch : Patch) (node_id : String) :
    Option NodeType :=
  match (s.nodes.get? node_id).filter (fun n => n.type.protected_belief) with
  | some n => some n.type
  | none => (created_node_type context_patch.ops node_id).filter NodeType.protected_belief

/-! ### Declared intents -/

/-- `_one_update` -/
def one_update (operation : ProposalOperation) : Except String NodeUpdate :=
  match operation with
  | .content_change _ updates | .status_change _ updates => match updates with
    | [update] => .ok update
    | _ => .error "the declared intent must update exactly one node."
  | _ => .error "the declared intent requires exactly one update_nodes operation."

def validate_content_change_intent (s : GraphState) (context_patch : Patch)
    (operation : ProposalOperation) : Option String :=
  match one_update operation with
  | .error error => some error
  | .ok update =>
    if update.cause.isSome ∨ update.base_updated_rev.isSome then
      some "a content change requires exactly id and changes, with no cause."
    else match existing_protected_node s context_patch update.id with
      | none => some "a content change must target one existing ResearchQuestion or Hypothesis."
      | some n =>
        if update.changes.items = [] then
          some "a content change must contain at least one changed field."
        else if Dict.has update.changes "status" ∧ n.type = .hypothesis then
          some "Hypothesis status belongs in a status_change intent."
        else if update.changes.items.all (fun e => n.attr_equals e.1 e.2) then
          some "a content change must actually change the target node."
        else none

def validate_status_change_intent (s : GraphState) (operation : ProposalOperation) :
    Option String :=
  match one_update operation with
  | .error error => some error
  | .ok update => match (s.nodes.get? update.id).map Node.body with
    | some (.decision _) =>
      some (s!"Decision {repr_str update.id} cannot be proposed by an agent; its outcome requires "
        ++ "the decide_decision action.")
    | some (.hypothesis h) =>
      if update.cause.isNone ∨ update.base_updated_rev.isSome then
        some "a status change requires exactly id, changes, and cause."
      else if update.changes.keys ≠ ["status"] then
        some "a status change may change only Hypothesis status."
      else if ¬ changes_status h update.changes then
        some "a status change must actually change the Hypothesis status."
      else match update.cause with
        | some (.evidence_edge ref_id) =>
          if ref_id = "" then
            some "a status change requires an evidence_edge cause naming an epistemic edge."
          else none
        | _ => some "a status change requires an evidence_edge cause naming an epistemic edge."
    | _ => some "a status change must target one Hypothesis in the staged graph."

def validate_removal_intent (s : GraphState) (context_patch : Patch) (node_ids : List String) :
    Option String :=
  match node_ids with
  | [node_id] =>
    if (existing_protected_node s context_patch node_id).isNone then
      some "removal must target one existing ResearchQuestion or Hypothesis."
    else none
  | _ => some "removal must name exactly one node."

/-- The texts of the two lifecycle intents. -/
structure LifecycleTexts where
  retires : String
  distinct : String
  names : String
  same_type : String

/-- The shared shape of supersede and merge: one existing belief is retired in
    favour of a distinct one of the same protected type. -/
def validate_lifecycle_intent (texts : LifecycleTexts) (s : GraphState) (context_patch : Patch)
    (retired : String) (target : Option String) : Option String :=
  match existing_protected_node s context_patch retired, target.filter (· ≠ "") with
  | none, _ => some texts.retires
  | some _, none => some texts.distinct
  | some n, some target =>
    if target = retired then some texts.distinct
    else match protected_node_type s context_patch target with
      | none => some texts.names
      | some t => if t ≠ n.type then some texts.same_type else none

def validate_supersede_intent (s : GraphState) (context_patch : Patch)
    (items : List SupersedeNode) : Option String :=
  match items with
  | [item] =>
    if item.cause.isSome then
      some "supersede accepts only id, superseded_by, and optional explanation."
    else validate_lifecycle_intent
      { retires := "supersede must retire one existing ResearchQuestion or Hypothesis."
        distinct := "supersede must name a distinct successor node."
        names := "supersede must name a ResearchQuestion or Hypothesis successor."
        same_type :=
          "supersede predecessor and successor must be the same protected belief type." }
      s context_patch item.id item.superseded_by
  | _ => some "supersede must name exactly one predecessor and successor."

def validate_merge_intent (s : GraphState) (context_patch : Patch) (items : List NodeMerge) :
    Option String :=
  match items with
  | [item] =>
    if item.cause.isSome then
      some "merge accepts only duplicate, canonical, and optional explanation."
    else validate_lifecycle_intent
      { retires := "merge must fold one existing ResearchQuestion or Hypothesis."
        distinct := "merge must name a distinct canonical node."
        names := "merge must name a ResearchQuestion or Hypothesis canonical node."
        same_type := "merge duplicate and canonical must be the same protected belief type." }
      s context_patch item.duplicate (some item.canonical)
  | _ => some "merge must name exactly one duplicate and canonical node."

def validate_relation_create_intent (s : GraphState) (context_patch : Patch)
    (edges : List NewEdge) : Option String :=
  match edges with
  | [edge] =>
    if edge.relation ∉ PROTECTED_EPISTEMIC_RELATIONS then
      some "a protected relation change must use a protected relation."
    else if edge.relation = "supersedes" ∨ edge.relation = "duplicate_of" then
      some "supersedes and duplicate_of must use their dedicated supersede or merge intent."
    else if edge.source ∈ created_node_ids context_patch
        ∨ edge.target ∈ created_node_ids context_patch then
      some "connecting a node created in the outer Patch is direct, not a Proposal."
    else if (existing_protected_node s context_patch edge.source).isNone
        ∧ (existing_protected_node s context_patch edge.target).isNone then
      some "a protected relation change must touch an existing belief node."
    else none
  | _ => some "a protected relation change must create exactly one edge."

def validate_relation_remove_intent (s : GraphState) (context_patch : Patch)
    (edge_ids : List String) : Option String :=
  match edge_ids with
  | [edge_id] => match s.edges.get? edge_id with
    | none => some "a protected relation removal must target one existing edge."
    | some edge =>
      if edge_id ∈ created_edge_ids context_patch then
        some "a protected relation removal must target one existing edge."
      else if edge.relation ∉ PROTECTED_EPISTEMIC_RELATIONS then
        some "a protected relation change must use a protected relation."
      else if (existing_protected_node s context_patch edge.source).isNone
          ∧ (existing_protected_node s context_patch edge.target).isNone then
        some "a protected relation change must touch an existing belief node."
      else none
  | _ => some "a protected relation change must remove exactly one edge."

/-- The declared intent of one operation; `none` when it is none of
    `PROPOSAL_INTENTS`, else the error its shape has. -/
def validate_intent (s : GraphState) (context_patch : Patch) (operation : ProposalOperation) :
    Option (Option String) :=
  match operation with
  | .content_change false _ => some (validate_content_change_intent s context_patch operation)
  | .status_change false _ => some (validate_status_change_intent s operation)
  | .removal false node_ids => some (validate_removal_intent s context_patch node_ids)
  | .supersede false nodes => some (validate_supersede_intent s context_patch nodes)
  | .merge false merges => some (validate_merge_intent s context_patch merges)
  | .protected_relation_create false edges =>
    some (validate_relation_create_intent s context_patch edges)
  | .protected_relation_remove false edge_ids =>
    some (validate_relation_remove_intent s context_patch edge_ids)
  | _ => none

def validate_agent_proposal_boundary (proposal : Proposal) (s : GraphState)
    (revision : Option Nat) (context_patch : Patch) : Rule Unit :=
  let refuse (message : String) := reject "invalid-agent-proposal-shape" message revision
  match proposal.ops with
  | [operation] => match validate_intent s context_patch operation with
    | none => refuse (s!"Proposal {proposal.id} must declare one of these intents: "
        ++ "content_change, merge, protected_relation_change, removal, status_change, supersede.")
    | some none => pure ()
    | some (some error) =>
      refuse s!"Proposal {proposal.id} declares {repr_str operation.intent}, but {error}"
  | _ => refuse s!"Proposal {proposal.id} must declare exactly one protected-change intent."

/-! ### Cards -/

/-- The fields of a card with their texts. -/
def GatedCard.fields (card : GatedCard) : List (String × String) :=
  [("situation_cold", card.situation_cold), ("why_human_now", card.why_human_now),
    ("consequences", card.consequences), ("decision_needed", card.decision_needed)]

def flag_card (proposal : Proposal) (s : GraphState) (revision : Option Nat) : Rule Unit := do
  let fields := proposal.card.fields
  let missing := (fields.filter (fun f => blank f.2)).map Prod.fst
  Check.when (missing ≠ []) (flag "incomplete-gated-card"
    s!"Proposal {proposal.id} is missing readable card fields: {comma_join missing}." revision)
  let card_text := String.intercalate " " (fields.map Prod.snd)
  let unresolved := (sorted_set (TextLibrary.findall_identifiers card_text)).filter
    (fun token => !s.glossary.contains token)
  Check.when (unresolved ≠ []) (flag "missing-glossary-term"
    s!"Proposal {proposal.id} uses unexplained identifiers: {comma_join unresolved}." revision)

/-! ### Inner operations -/

/-- The source references a proposed content change brings in. -/
def validate_proposed_source_refs (context_patch : Patch) (operation : ProposalOperation) :
    Rule Unit :=
  match operation with
  | .content_change _ updates => Check.forEach updates fun update =>
    match (Dict.get update.changes "source_refs").filter Value.truthy with
    | none => pure ()
    | some value => do
      let refs ← Check.lift (raw_source_refs (some value))
      let _ ← oldest_source_ref context_patch refs
      return ()
  | _ => pure ()

/-- The synthetic approval Patch a Proposal's operations are tried in. -/
def synthetic_patch (proposal : Proposal) (s : GraphState) (revision : Option Nat) : Patch where
  revision := revision.getD (s.revision + 1)
  kind := .approval
  author := some .human
  producer := .human
  created_at := default
  summary := s!"Validate replay operations for {proposal.id}."
  ops := graph_operations_from_proposal proposal.ops

/-- The context of that trial. -/
def proposal_context (ctx : OpContext) (proposal : Proposal) (mode : ValidationMode) :
    OpContext where
  state := ctx.state
  initial_state := ctx.state
  patch := synthetic_patch proposal ctx.state ctx.revision
  revision := ctx.revision
  project_truth_scope := ctx.project_truth_scope
  repositories := ctx.repositories
  machines := ctx.machines
  default_run_truth_scope := ctx.default_run_truth_scope
  state_repository := ctx.state_repository
  mode := mode
  reference_patch := some ctx.patch

/-- The Proposal rule of the inner loop, where no Proposal can be created. -/
def no_nested_proposals : ProposalRule := fun _ _ _ _ => pure ()

def validate_proposal_ops (ctx : OpContext) (proposal : Proposal) (mode : ValidationMode) :
    Rule Unit := do
  Check.when (mode = .admission)
    (Check.forEach proposal.ops (validate_proposed_source_refs ctx.patch))
  Check.summarize (validate_operations no_nested_proposals (proposal_context ctx proposal mode))
    (fun errors =>
      { level := .reject
        code := "invalid-proposal-ops"
        message := s!"Proposal {proposal.id} contains invalid replay operations: "
          ++ String.intercalate "; " (errors.map (·.message))
        patch_revision := ctx.revision })

def validate_proposal : ProposalRule := fun ctx raw mode include_card_flags =>
  let proposal := raw.toProposal
  if ctx.state.proposals.contains proposal.id then
    reject "duplicate-proposal-id" s!"Proposal {repr_str proposal.id} already exists." ctx.revision
  else do
    Check.when (mode = .admission ∧ proposal.base_rev ≠ ctx.state.revision)
      (reject "proposal-base-revision"
        (s!"Proposal {proposal.id} must use the current graph revision "
          ++ s!"{ctx.state.revision}.") ctx.revision)
    Check.when include_card_flags (flag_card proposal ctx.state ctx.revision)
    Check.when (mode = .admission ∧ ctx.patch.author = some .agent)
      (validate_agent_proposal_boundary proposal ctx.state ctx.revision ctx.patch)
    validate_proposal_ops ctx proposal mode

end ResearchGraph
