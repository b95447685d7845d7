import ResearchGraph.Operations

/-! # Patches, transition traces and the graph state

    `Patch` and `GraphState` of `rcp/core/models.py` with the trace records
    of `rcp/core/transition_models.py`.
-/

namespace ResearchGraph

open Lib

/-! ### Errors and findings -/

/-- The exceptions the source catches around validation and application. -/
inductive PyError
  | key_error (key : String)
  | value_error (message : String)
  | type_error (message : String)
  | attribute_error (message : String)
  deriving DecidableEq, Repr

def PyError.text : PyError → String
  | .key_error k => "'" ++ k ++ "'"
  | .value_error m | .type_error m | .attribute_error m => m

inductive MessageLevel
  | flag
  | reject
  deriving DecidableEq, Repr

structure ValidationMessage where
  level : MessageLevel
  code : String
  message : String
  patch_revision : Option Nat := none
  related_node_ids : List String := []
  related_edge_ids : List String := []
  deriving DecidableEq, Repr

/-! ### Transition traces -/

inductive GraphTargetRef
  | main
  | branch (branch_id : String)
  deriving DecidableEq, Repr, Inhabited

structure GraphHeadRef where
  target : GraphTargetRef := .main
  revision : Nat
  transition_id : Option String := none
  deriving DecidableEq, Repr

/-- The one authority action a Patch may name. -/
inductive AuthorityAction
  | decision_choice
  deriving DecidableEq, Repr

/-- `TransitionCauseRef`: an action by index, or an event by id. -/
inductive TransitionCauseRef
  | action (action_index : Nat)
  | event (event_id : String)
  deriving DecidableEq, Repr

structure TransitionInitiatingGroup where
  group_id : String
  operation_indexes : List Nat
  summary : String
  change_summary : List String := []
  human_action : Option AuthorityAction := none
  agent_action : Option AuthorityAction := none
  deriving DecidableEq, Repr

structure TransitionGeneratedAction where
  operation_index : Nat
  rule_id : String
  cause : TransitionCauseRef
  deriving DecidableEq, Repr

inductive TransitionEventType
  | node_status_changed
  | guidance_invalidated
  | guidance_refreshed
  deriving DecidableEq, Repr

structure TransitionEvent where
  event_id : String
  event_type : TransitionEventType
  cause : TransitionCauseRef
  node_id : String
  field : String
  before : Value
  after : Value
  deriving DecidableEq

structure TransitionTrace where
  transition_id : String
  pre_head : GraphHeadRef
  ruleset_tag : String
  initiating_groups : List TransitionInitiatingGroup
  generated_actions : List TransitionGeneratedAction := []
  lifecycle_events : List TransitionEvent := []
  expanded_ops_sha256 : String
  deriving DecidableEq

/-! ### Patches -/

inductive IdentityAction
  | created
  | adopted
  deriving DecidableEq, Repr

structure ProjectIdentity where
  project_id : String
  home_space_id : String
  action : IdentityAction
  deriving DecidableEq, Repr

structure AuthorizedHuman where
  space_id : String
  user_id : String
  display_name : String
  deriving DecidableEq, Repr

structure ProjectHomeTransfer where
  project_id : String
  previous_home_space_id : String
  new_home_space_id : String
  source_released_by : AuthorizedHuman
  target_admitted_by : AuthorizedHuman
  deriving DecidableEq, Repr

structure BranchMergeProvenance where
  merge_id : String
  branch_id : String
  episode_id : String
  branch_base_head : GraphHeadRef
  branch_head : GraphHeadRef
  rebased_main_head : GraphHeadRef
  merge_task_id : String
  deriving DecidableEq, Repr

inductive SchemaGeneration
  | one
  | two
  deriving DecidableEq, Repr

inductive PatchKind
  | seed
  | refresh
  | chat
  | work
  | experiment_loop
  | approval
  | identity
  deriving DecidableEq, Repr

inductive Producer
  | agent
  | human
  | system
  deriving DecidableEq, Repr

inductive AgentProfile
  | ordinary
  | orchestrator
  deriving DecidableEq, Repr

inductive Admission
  | accepted
  | rejected
  deriving DecidableEq, Repr

structure Patch where
  schema_generation : SchemaGeneration := .two
  revision : Nat := 0
  kind : PatchKind
  author : Option Author
  producer : Producer
  created_at : Datetime
  summary : String
  ops : List GraphOperation
  run_truth_scope : List String := []
  repositories_read : List String := []
  processed_cursors : Dict String String := Table.empty
  change_summary : List String := []
  source_operation_id : Option String := none
  source_effect_id : Option String := none
  source_effect_sha256 : Option String := none
  human_action : Option AuthorityAction := none
  agent_action : Option AuthorityAction := none
  admission : Admission := .accepted
  admission_messages : List ValidationMessage := []
  experiment_control_node_id : Option String := none
  experiment_decision_bundle : List ExperimentDecisionPin := []
  project_identity : Option ProjectIdentity := none
  project_home_transfer : Option ProjectHomeTransfer := none
  authorized_by : Option AuthorizedHuman := none
  profile : Option AgentProfile := none
  task_id : Option String := none
  episode_id : Option String := none
  branch_merge : Option BranchMergeProvenance := none
  transition : Option TransitionTrace := none
  deriving DecidableEq

/-- The text of a Patch kind. -/
def PatchKind.name : PatchKind → String
  | .seed => "seed"
  | .refresh => "refresh"
  | .chat => "chat"
  | .work => "work"
  | .experiment_loop => "experiment_loop"
  | .approval => "approval"
  | .identity => "identity"

/-- `patch.revision or None` -/
def Patch.revision_label (p : Patch) : Option Nat :=
  if p.revision = 0 then none else some p.revision

/-! ### Graph state -/

structure BeliefTransition where
  hypothesis_id : String
  from_status : HypothesisStatus
  to_status : HypothesisStatus
  revision : Nat
  cause : BeliefCause
  deriving DecidableEq, Repr

structure ReplayFailure where
  revision : Nat
  created_at : Datetime
  code : String
  message : String
  deriving DecidableEq, Repr

inductive ReplayStatus
  | complete
  | degraded
  deriving DecidableEq, Repr

/-- `GraphState`; nodes, edges, Proposals, ambiguities and glossary terms are
    kept under their embedded ids (`project_graph_attention` refuses a map
    whose keys disagree with them). -/
structure GraphState where
  revision : Nat := 0
  project_truth_scope : List String := []
  config_revisions : Dict String Nat := Table.empty
  nodes : Table Node := Table.empty
  edges : Table Edge := Table.empty
  proposals : Table Proposal := Table.empty
  ambiguities : Table Ambiguity := Table.empty
  glossary : Table GlossaryTerm := Table.empty
  ontology : OntologyState := {}
  coverage : CoverageBoundary := {}
  validation_messages : List ValidationMessage := []
  belief_transitions : List BeliefTransition := []
  replay_status : ReplayStatus := .complete
  replay_failure : Option ReplayFailure := none
  last_refresh_at : Option Datetime := none
  deriving DecidableEq

end ResearchGraph
