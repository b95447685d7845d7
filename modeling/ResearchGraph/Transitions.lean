import ResearchGraph.Control
import ResearchGraph.Encode
import ResearchGraph.Materialize

/-! # Graph transitions (`rcp/core/transitions.py`)

    Preparation closes one or more initiating Patches into a single combined
    Patch with a trace; replay validates the trace against the combined Patch
    and splits it back into its source Patches.
-/

namespace ResearchGraph

open Lib

/-- The canonical digest: `sha256` stands for SHA-256 of the canonical JSON
    text of a document (sorted keys), and `operation_document` for the JSON
    dump of an operation by the model library. -/
class Canonical where
  sha256 : Value → String
  operation_document : GraphOperation → Value

variable [Canonical]

/-- `_sha256(value)`: keys are sorted before the digest is taken. -/
def sha256 (document : Value) : String := Canonical.sha256 document.sort_keys

def operations_sha256 (ops : List GraphOperation) : String :=
  sha256 (.list (ops.map Canonical.operation_document))

def TRANSITION_RULESET_TAG : String := "rcp.lifecycle.v2"
def GUIDANCE_RULE_ID : String := "experiment.guidance-validity.v1"
def DEFAULT_MAX_RULE_FIRINGS : Nat := 128

/-! ### JSON documents -/

def GraphTargetRef.to_json : GraphTargetRef → Value
  | .main => .dict [("kind", .str "main"), ("branch_id", .null)]
  | .branch id => .dict [("kind", .str "branch"), ("branch_id", .str id)]

def GraphHeadRef.to_json (h : GraphHeadRef) : Value :=
  .dict [("target", h.target.to_json), ("revision", .int h.revision),
    ("transition_id", opt_str h.transition_id)]

def AuthorityAction.to_json : AuthorityAction → Value
  | .decision_choice => .str "decision_choice"

def TransitionInitiatingGroup.to_json (g : TransitionInitiatingGroup) : Value :=
  .dict [("group_id", .str g.group_id),
    ("operation_indexes", .list (g.operation_indexes.map (fun i => .int i))),
    ("summary", .str g.summary), ("change_summary", str_list g.change_summary),
    ("human_action", opt_json AuthorityAction.to_json g.human_action),
    ("agent_action", opt_json AuthorityAction.to_json g.agent_action)]

def TransitionCauseRef.to_json : TransitionCauseRef → Value
  | .action index =>
    .dict [("kind", .str "action"), ("action_index", .int index), ("event_id", .null)]
  | .event id => .dict [("kind", .str "event"), ("action_index", .null), ("event_id", .str id)]

def TransitionGeneratedAction.to_json (a : TransitionGeneratedAction) : Value :=
  .dict [("operation_index", .int a.operation_index), ("rule_id", .str a.rule_id),
    ("cause", a.cause.to_json)]

def ProjectIdentity.to_json (i : ProjectIdentity) : Value :=
  .dict [("project_id", .str i.project_id), ("home_space_id", .str i.home_space_id),
    ("action", .str (match i.action with | .created => "created" | .adopted => "adopted"))]

def AuthorizedHuman.to_json (h : AuthorizedHuman) : Value :=
  .dict [("space_id", .str h.space_id), ("user_id", .str h.user_id),
    ("display_name", .str h.display_name)]

def ProjectHomeTransfer.to_json (t : ProjectHomeTransfer) : Value :=
  .dict [("project_id", .str t.project_id),
    ("previous_home_space_id", .str t.previous_home_space_id),
    ("new_home_space_id", .str t.new_home_space_id),
    ("source_released_by", t.source_released_by.to_json),
    ("target_admitted_by", t.target_admitted_by.to_json)]

def BranchMergeProvenance.to_json (b : BranchMergeProvenance) : Value :=
  .dict [("schema_generation", .int 1), ("merge_id", .str b.merge_id),
    ("branch_id", .str b.branch_id), ("episode_id", .str b.episode_id),
    ("branch_base_head", b.branch_base_head.to_json), ("branch_head", b.branch_head.to_json),
    ("rebased_main_head", b.rebased_main_head.to_json), ("merge_task_id", .str b.merge_task_id)]

def SchemaGeneration.to_json : SchemaGeneration → Value
  | .one => .int 1
  | .two => .int 2

def Author.to_json : Author → Value
  | .agent => .str "agent"
  | .human => .str "human"

def Producer.to_json : Producer → Value
  | .agent => .str "agent"
  | .human => .str "human"
  | .system => .str "system"

def AgentProfile.to_json : AgentProfile → Value
  | .ordinary => .str "ordinary"
  | .orchestrator => .str "orchestrator"

/-- The cursors of a Patch as one object. -/
def cursors_json (cursors : Dict String String) : Value :=
  .dict (cursors.items.map (fun e => (e.1, .str e.2)))

/-- The fields of a Patch that must agree across one transition. -/
def Patch.provenance_json (p : Patch) : List (String × Value) :=
  [("schema_generation", p.schema_generation.to_json), ("kind", .str p.kind.name),
    ("author", opt_json Author.to_json p.author), ("producer", p.producer.to_json),
    ("source_operation_id", opt_str p.source_operation_id),
    ("source_effect_id", opt_str p.source_effect_id),
    ("source_effect_sha256", opt_str p.source_effect_sha256),
    ("experiment_control_node_id", opt_str p.experiment_control_node_id),
    ("experiment_decision_bundle",
      .list (p.experiment_decision_bundle.map ExperimentDecisionPin.to_json)),
    ("project_identity", opt_json ProjectIdentity.to_json p.project_identity),
    ("authorized_by", opt_json AuthorizedHuman.to_json p.authorized_by),
    ("profile", opt_json AgentProfile.to_json p.profile), ("task_id", opt_str p.task_id),
    ("episode_id", opt_str p.episode_id)]
  ++ (match p.project_home_transfer with
    | none => []
    | some t => [("project_home_transfer", t.to_json)])

/-- The producer envelope of a Patch as the transition id digests it. -/
def Patch.envelope (p : Patch) : Value :=
  .dict ([("run_truth_scope", str_list p.run_truth_scope),
    ("repositories_read", str_list p.repositories_read),
    ("processed_cursors", cursors_json p.processed_cursors),
    ("branch_merge", opt_json BranchMergeProvenance.to_json p.branch_merge)]
    ++ p.provenance_json)

def transition_id (pre_head : GraphHeadRef) (patches : List Patch)
    (groups : List TransitionInitiatingGroup) (operations : List GraphOperation)
    (ruleset_tag : String) (generated_actions : List TransitionGeneratedAction) : String :=
  sha256 (.dict [("pre_head", pre_head.to_json), ("ruleset_tag", .str ruleset_tag),
    ("groups", .list (groups.map TransitionInitiatingGroup.to_json)),
    ("producer_envelopes", .list (patches.map Patch.envelope)),
    ("operations", .list (operations.map Canonical.operation_document)),
    ("generated_actions", .list (generated_actions.map TransitionGeneratedAction.to_json))])

/-! ### Initiating actions -/

/-- The Patch and operation of each initiating action, in order. -/
def source_actions (patches : List Patch) : List (Patch × GraphOperation) :=
  patches.flatMap (fun p => p.ops.map (fun op => (p, op)))

/-- The group of one non-empty Patch. -/
def initiating_group (p : Patch) (group_index first : Nat) : TransitionInitiatingGroup where
  group_id := s!"group-{group_index + 1}"
  operation_indexes := (List.range p.ops.length).map (first + ·)
  summary := p.summary
  change_summary := p.change_summary
  human_action := p.human_action
  agent_action := p.agent_action

/-- Groups of the non-empty Patches; `first` is the index of the next action. -/
def initiating_groups : List Patch → Nat → Nat → List TransitionInitiatingGroup
  | [], _, _ => []
  | p :: ps, group_index, first =>
    (if p.ops = [] then [] else [initiating_group p group_index first])
      ++ initiating_groups ps (group_index + 1) (first + p.ops.length)

/-- `_require_compatible_envelopes` for two Patches. -/
def compatible_envelopes (p q : Patch) : Bool :=
  p.schema_generation = q.schema_generation ∧ p.kind = q.kind ∧ p.author = q.author
    ∧ p.producer = q.producer ∧ p.source_operation_id = q.source_operation_id
    ∧ p.source_effect_id = q.source_effect_id
    ∧ p.source_effect_sha256 = q.source_effect_sha256
    ∧ p.project_identity = q.project_identity
    ∧ p.project_home_transfer = q.project_home_transfer
    ∧ p.authorized_by = q.authorized_by ∧ p.profile = q.profile ∧ p.task_id = q.task_id
    ∧ p.episode_id = q.episode_id
    ∧ p.experiment_control_node_id = q.experiment_control_node_id
    ∧ p.experiment_decision_bundle = q.experiment_decision_bundle

/-- One step of a timeline: the action, and the states around it. -/
structure TimelineStep where
  index : Nat
  before : GraphState
  after : GraphState

/-- Apply actions one at a time, recording the states around each. -/
def timeline_from (s : GraphState) (index : Nat) :
    List (Patch × GraphOperation) → Applied (List TimelineStep × GraphState)
  | [] => .ok ([], s)
  | (p, op) :: rest => do
    let t ← apply_valid_operation s p op
    let (steps, final) ← timeline_from t (index + 1) rest
    return (⟨index, s, t⟩ :: steps, final)

/-- `_apply_timeline` -/
def apply_timeline (s : GraphState) (actions : List (Patch × GraphOperation)) :
    Applied (List TimelineStep × GraphState) := do
  let (steps, final) ← timeline_from s 0 actions
  return (steps, { final with revision := (actions.head?.map (·.1.revision)).getD final.revision })

/-! ### Guidance closure -/

/-- An action changed what an existing Experiment's guidance depends on. -/
def dependency_changed (experiment_id : String) (step : TimelineStep) : Bool :=
  (step.before.experiment? experiment_id).isSome && (step.after.experiment? experiment_id).isSome
    && experiment_dependency_signature step.before experiment_id
      ≠ experiment_dependency_signature step.after experiment_id

/-- `_dependency_change_causes`: the first action that invalidates an Experiment. -/
def invalidation_cause (timeline : List TimelineStep) (experiment_id : String) : Option Nat :=
  (timeline.find? (dependency_changed experiment_id)).map (·.index)

/-- `_explicit_guidance_updates`: the last action that rewrites a guidance field. -/
def explicit_guidance_update (actions : List (Patch × GraphOperation))
    (experiment_id field : String) :
    Option Nat :=
  ((actions.zipIdx.filter (fun a => a.1.2.updates.any (fun u =>
    u.id = experiment_id ∧ Dict.has u.changes field))).getLast?).map (·.2)

/-- The stale flag one guidance field should have, and the action that says so. -/
def desired_stale_flag (invalidation explicit : Option Nat) (has_value : Bool) :
    Option (Nat × Bool) :=
  match invalidation, explicit with
  | some cause, _ => some (cause, has_value)
  | none, some cause => some (cause, false)
  | none, none => none

/-- The stale flags of one Experiment that have to move, with their causes. -/
def stale_flag_changes (timeline : List TimelineStep) (actions : List (Patch × GraphOperation))
    (experiment_id : String) (e : Experiment) : List (Nat × String × Bool) :=
  let invalidation := invalidation_cause timeline experiment_id
  let change (field stale_field : String) (has_value stale : Bool) :=
    match desired_stale_flag invalidation
        (explicit_guidance_update actions experiment_id field) has_value with
    | none => []
    | some (cause, desired) => if stale = desired then [] else [(cause, stale_field, desired)]
  change "current_summary" "current_summary_stale" (e.current_summary ≠ "") e.current_summary_stale
    ++ change "next_action" "next_action_stale" (e.next_action.any (· ≠ "")) e.next_action_stale

/-- One generated update: the flags of one Experiment that share a cause. -/
def guidance_action (experiment_id : String) (flags : List (String × Bool)) : GraphOperation :=
  .update_nodes [{ id := experiment_id
                   changes := Table.ofList (flags.map (fun f => (f.1, Value.bool f.2))) }]

def guidance_actions_of (experiment_id : String) (changes : List (Nat × String × Bool)) :
    List (GraphOperation × Nat) :=
  ((changes.map Prod.fst).dedup.insertionSort (· ≤ ·)).map (fun cause =>
    (guidance_action experiment_id ((changes.filter (fun c => c.1 = cause)).map Prod.snd), cause))

/-- `_guidance_actions` -/
def guidance_actions (s : GraphState) (timeline : List TimelineStep)
    (actions : List (Patch × GraphOperation)) : List (GraphOperation × Nat) :=
  (s.nodes.keys.insertionSort (· ≤ ·)).flatMap (fun id => match s.experiment? id with
    | none => []
    | some e => guidance_actions_of id (stale_flag_changes timeline actions id e))

/-- Apply the generated actions after the initiating ones; `index` is the next
    operation index. -/
def apply_generated (p : Patch) (s : GraphState) (index : Nat) :
    List GraphOperation → Applied (List TimelineStep × GraphState)
  | [] => .ok ([], s)
  | op :: rest => do
    let t ← apply_transition_generated_operation s p op
    let (steps, final) ← apply_generated p t (index + 1) rest
    return (⟨index, s, t⟩ :: steps, final)

def generated_refs (index : Nat) (causes : List Nat) : List TransitionGeneratedAction :=
  causes.zipIdx.map (fun (cause, i) =>
    { operation_index := index + i, rule_id := GUIDANCE_RULE_ID, cause := .action cause })

/-! ### Lifecycle events -/

/-- An event before its id is taken. -/
structure PendingEvent where
  cause : Nat
  node_id : String
  field : String
  before : Value
  after : Value
  event_type : TransitionEventType

def TransitionEventType.name : TransitionEventType → String
  | .node_status_changed => "node_status_changed"
  | .guidance_invalidated => "guidance_invalidated"
  | .guidance_refreshed => "guidance_refreshed"

/-- `getattr(node, field, None)` -/
def GraphState.attr (s : GraphState) (node_id field : String) : Value :=
  ((s.nodes.get? node_id).bind (fun n => n.attr field)).getD .null

/-- The status changes of one initiating action. -/
def status_events (step : TimelineStep) : List PendingEvent :=
  ((step.before.nodes.keys.filter (fun id => step.after.nodes.contains id)).insertionSort
    (· ≤ ·)).filterMap (fun id =>
      let before := step.before.attr id "status"
      let after := step.after.attr id "status"
      if before = after then none
      else some ⟨step.index, id, "status", before, after, .node_status_changed⟩)

/-- The flag changes of one generated action. -/
def guidance_events (ops : List GraphOperation) (step : TimelineStep) : List PendingEvent :=
  ((ops[step.index]?).toList.flatMap GraphOperation.updates).flatMap (fun u =>
    (u.changes.keys.insertionSort (· ≤ ·)).map (fun field =>
      let after := step.after.attr u.id field
      ⟨step.index, u.id, field, step.before.attr u.id field, after,
        if after.truthy then .guidance_invalidated else .guidance_refreshed⟩))

/-- The canonical payload of one event. -/
def event_document (id : String) (ordinal : Nat) (event_type : TransitionEventType) (cause : Value)
    (node_id field : String) (before after : Value) : Value :=
  .dict [("transition_id", .str id), ("ordinal", .int ordinal),
    ("event_type", .str event_type.name), ("cause", cause), ("node_id", .str node_id),
    ("field", .str field), ("before", before), ("after", after)]

def identified_event (id : String) (e : PendingEvent) (ordinal : Nat) : TransitionEvent where
  event_id := sha256 (event_document id ordinal e.event_type (.int e.cause) e.node_id e.field
    e.before e.after)
  event_type := e.event_type
  cause := .action e.cause
  node_id := e.node_id
  field := e.field
  before := e.before
  after := e.after

/-- `_lifecycle_events` -/
def lifecycle_events (id : String) (initiating generated : List TimelineStep)
    (ops : List GraphOperation) : List TransitionEvent :=
  ((initiating.flatMap status_events ++ generated.flatMap (guidance_events ops)).zipIdx).map
    (fun (e, ordinal) => identified_event id e ordinal)

/-! ### The combined Patch -/

/-- First occurrences, in order. -/
def stable_union (values : List (List String)) : List String :=
  values.flatten.foldl (fun result v => if v ∈ result then result else result ++ [v]) []

/-- Merge one cursor; a second value for the same key is a conflict. -/
def merge_cursor (cursors : Dict String String) (entry : String × String) :
    Applied (Dict String String) :=
  match Dict.get cursors entry.1 with
  | none => .ok (Dict.set cursors entry.1 entry.2)
  | some v =>
    if v ≠ entry.2 then
      .error (.value_error s!"transition has conflicting processed cursor {repr_str entry.1}")
    else .ok (Dict.set cursors entry.1 entry.2)

def merged_cursors (patches : List Patch) : Applied (Dict String String) :=
  (patches.flatMap (fun p => p.processed_cursors.items)).foldlM merge_cursor Table.empty

/-- `_combined_patch` -/
def combined_patch (first : Patch) (patches : List Patch) (ops : List GraphOperation)
    (trace : TransitionTrace) : Applied Patch := do
  let cursors ← merged_cursors patches
  return { first with
    summary := if patches.length = 1 then first.summary
      else "Human Sync: " ++ String.intercalate "; " (patches.map (·.summary))
    ops := ops
    run_truth_scope := stable_union (patches.map (·.run_truth_scope))
    repositories_read := stable_union (patches.map (·.repositories_read))
    processed_cursors := cursors
    change_summary := patches.flatMap (·.change_summary)
    human_action := none
    agent_action := none
    admission := .accepted
    admission_messages := []
    transition := some trace }

/-! ### Preparation -/

/-- The checks before any operation is applied. -/
def require_transition_request (s : GraphState) (first : Patch) (patches : List Patch)
    (head : GraphHeadRef) : Applied Unit :=
  if first.revision ≤ s.revision ∨ patches.any (fun p => p.revision ≠ first.revision) then
    .error (.value_error "all initiating patches must share the next canonical revision")
  else if patches.any (fun p => p.transition.isSome) then
    .error (.value_error "initiating patches cannot contain a committed transition trace")
  else if ¬ patches.all (compatible_envelopes first) then
    .error (.value_error "initiating patches in one transition must share producer provenance")
  else if head.revision ≠ s.revision then
    .error (.value_error "transition pre-head does not match the supplied graph state")
  else if source_actions patches = [] then
    .error (.value_error "a graph transition requires at least one semantic operation")
  else .ok ()

/-- What preparation derives before the combined Patch is assembled. -/
structure Closure where
  initiating : List TimelineStep
  generated : List TimelineStep
  generated_operations : List (GraphOperation × Nat)
  final : GraphState

/-- Initiating actions followed by the guidance actions they cause. -/
def transition_closure (s : GraphState) (first : Patch) (patches : List Patch)
    (max_rule_firings : Nat) : Applied Closure := do
  let actions := source_actions patches
  let (initiating, t) ← apply_timeline s actions
  let generated_operations := guidance_actions t initiating actions
  if generated_operations.length > max_rule_firings then
    .error (.value_error
      s!"Graph transition rule closure exceeded {max_rule_firings} generated actions.")
  else do
    let (generated, final) ←
      apply_generated first t actions.length (generated_operations.map Prod.fst)
    return { initiating, generated, generated_operations, final }

/-- The operations of a transition: initiating, then generated. -/
def expanded_operations (patches : List Patch) (c : Closure) : List GraphOperation :=
  (source_actions patches).map Prod.snd ++ c.generated_operations.map Prod.fst

/-- The trace preparation records. -/
def transition_trace (head : GraphHeadRef) (patches : List Patch) (c : Closure) :
    TransitionTrace :=
  let ops := expanded_operations patches c
  let operations := (source_actions patches).map Prod.snd
  let groups := initiating_groups patches 0 0
  let refs := generated_refs operations.length (c.generated_operations.map Prod.snd)
  let id := transition_id head patches groups operations TRANSITION_RULESET_TAG refs
  { transition_id := id
    pre_head := head
    ruleset_tag := TRANSITION_RULESET_TAG
    initiating_groups := groups
    generated_actions := refs
    lifecycle_events := lifecycle_events id c.initiating c.generated ops
    expanded_ops_sha256 := operations_sha256 ops }

/-- A combined Patch and the state it reaches. -/
structure PreparedTransition where
  patch : Patch
  graph : GraphState

/-- `==` on two states: times compare by instant. -/
def GraphState.same (s t : GraphState) : Bool :=
  same_time s.last_refresh_at t.last_refresh_at
    && { s with last_refresh_at := t.last_refresh_at } == t

/-- `GraphTransitionManager.prepare_validated` -/
def prepare_validated (s : GraphState) (patches : List Patch)
    (pre_head : Option GraphHeadRef := none)
    (max_rule_firings : Nat := DEFAULT_MAX_RULE_FIRINGS) : Applied PreparedTransition :=
  match patches with
  | [] => .error (.value_error "a graph transition requires at least one initiating patch")
  | first :: _ => do
    let head := pre_head.getD { revision := s.revision }
    require_transition_request s first patches head
    let c ← transition_closure s first patches max_rule_firings
    let combined ← combined_patch first patches (expanded_operations patches c)
      (transition_trace head patches c)
    let persisted_candidate ← apply_valid_patch s combined
    if ¬ persisted_candidate.same c.final then
      .error (.value_error "Recorded expanded operations do not reproduce the prepared state.")
    else return { patch := combined, graph := persisted_candidate }

/-! ### Replay of a trace -/

def source_patch_for_group (p : Patch) (group : TransitionInitiatingGroup) : Patch :=
  { p with
    summary := group.summary
    change_summary := group.change_summary
    ops := group.operation_indexes.filterMap (fun i => p.ops[i]?)
    human_action := group.human_action
    agent_action := group.agent_action
    transition := none }

/-- Index discipline of a trace. -/
def require_trace_indexes (p : Patch) (trace : TransitionTrace) : Applied Unit :=
  let source_indexes := trace.initiating_groups.flatMap (·.operation_indexes)
  let generated_indexes := trace.generated_actions.map (·.operation_index)
  if ¬ source_indexes.Nodup then
    .error (.value_error "transition initiating operation indexes overlap")
  else if ¬ generated_indexes.Nodup then
    .error (.value_error "transition generated operation indexes overlap")
  else if source_indexes.any (fun i => generated_indexes.contains i) then
    .error (.value_error "transition initiating and generated operation indexes overlap")
  else if (source_indexes ++ generated_indexes).insertionSort (· ≤ ·)
      ≠ List.range p.ops.length then
    .error (.value_error "transition trace must reference every expanded operation exactly once")
  else if source_indexes ≠ source_indexes.insertionSort (· ≤ ·)
      ∨ generated_indexes ≠ generated_indexes.insertionSort (· ≤ ·) then
    .error (.value_error "transition action references must retain written order")
  else if source_indexes.any (fun i => generated_indexes.any (fun j => j ≤ i)) then
    .error (.value_error
      "transition generated operations must follow all initiating operations")
  else .ok ()

def validate_guidance_operation : GraphOperation → Applied Unit
  | .update_nodes (update :: updates) =>
    if (update :: updates).any (fun u => u.changes.items = []
        ∨ u.changes.keys.any (fun k => k ∉ GUIDANCE_STALE_FIELDS)) then
      .error (.value_error "guidance-validity action changes a non-system field")
    else if (update :: updates).any (fun u => u.changes.items.any (fun e => match e.2 with
        | .bool _ => false
        | _ => true)) then
      .error (.value_error "guidance-validity values must be booleans")
    else .ok ()
  | _ => .error (.value_error "guidance-validity rule may generate only non-empty update_nodes")

def validate_generated_action (ops : List GraphOperation) (item : TransitionGeneratedAction) :
    Applied Unit :=
  if item.rule_id ≠ GUIDANCE_RULE_ID then
    .error (.value_error s!"unsupported generated transition rule {repr_str item.rule_id}")
  else match item.cause with
    | .event _ => .error (.value_error "generated actions must cite an earlier action")
    | .action index =>
      if item.operation_index ≤ index then
        .error (.value_error "generated action cause must precede the generated action")
      else match ops[item.operation_index]? with
        | none => .error (.value_error "list index out of range")
        | some op => validate_guidance_operation op

/-- Every recorded event cites an earlier cause and carries its canonical id. -/
def validate_event_ids (id : String) (operation_count : Nat) (known : List String) (ordinal : Nat) :
    List TransitionEvent → Applied Unit
  | [] => .ok ()
  | e :: rest => do
    let cause ← (match e.cause with
      | .action index =>
        if operation_count ≤ index then
          .error (.value_error "transition event cites an unknown action")
        else .ok (Value.int index)
      | .event event_id =>
        if event_id ∉ known then
          .error (.value_error "transition event cites an event that is not earlier")
        else .ok (.str event_id))
    if e.event_id ≠ sha256 (event_document id ordinal e.event_type cause e.node_id e.field
        e.before e.after) then
      .error (.value_error "transition event id does not match its canonical payload")
    else validate_event_ids id operation_count (known ++ [e.event_id]) (ordinal + 1) rest

/-- The timelines a trace claims, replayed from its own operations.  The index
    discipline makes the generated indexes follow the initiating ones. -/
def replay_timelines (s : GraphState) (p : Patch) (trace : TransitionTrace)
    (actions : List (Patch × GraphOperation)) :
    Applied (List TimelineStep × List TimelineStep) := do
  let (initiating, t) ← apply_timeline s actions
  let (generated, _) ← apply_generated p t actions.length
    (trace.generated_actions.filterMap (fun item => p.ops[item.operation_index]?))
  return (initiating, generated)

/-- Validate structural provenance and return the replay source groups. -/
def validate_transition_trace (s : GraphState) (p : Patch) : Applied (List Patch) :=
  match p.transition with
  | none => .error (.value_error "transition patch is missing its trace")
  | some trace =>
    if trace.pre_head.revision ≠ s.revision then
      .error (.value_error (s!"transition pre-head {trace.pre_head.revision} does not match "
        ++ s!"replay head {s.revision}"))
    else if operations_sha256 p.ops ≠ trace.expanded_ops_sha256 then
      .error (.value_error "transition expanded operation digest does not match Patch.ops")
    else do
      require_trace_indexes p trace
      let source_patches := trace.initiating_groups.map (source_patch_for_group p)
      let actions := source_actions source_patches
      if actions = [] then
        .error (.value_error "transition trace requires at least one initiating action")
      else if transition_id trace.pre_head source_patches trace.initiating_groups
          (actions.map Prod.snd) trace.ruleset_tag trace.generated_actions
          ≠ trace.transition_id then
        .error (.value_error "transition id does not match initiating actions and provenance")
      else do
        trace.generated_actions.forM (validate_generated_action p.ops)
        let (initiating, generated) ← replay_timelines s p trace actions
        if trace.lifecycle_events
            ≠ lifecycle_events trace.transition_id initiating generated p.ops then
          .error (.value_error
            "transition lifecycle events do not match expanded operation effects")
        else do
          validate_event_ids trace.transition_id p.ops.length [] 0 trace.lifecycle_events
          return source_patches

end ResearchGraph
