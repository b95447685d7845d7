import ResearchGraph.Report

/-! # Experiment control (`rcp/control.py`)

    The graph facts that gate an Experiment, and the signature of everything
    its authored guidance depends on.
-/

namespace ResearchGraph

open Lib

def related_targets (s : GraphState) (source_id relation : String) : List String :=
  sorted_set ((s.edges.items.filter (fun e =>
    e.source = source_id ∧ e.relation = relation)).map (·.target))

/-- The nodes one Proposal operation would change. -/
def op_target_ids : ProposalOperation → List String
  | .content_change _ nodes | .status_change _ nodes => nodes.map (·.id)
  | .supersede _ nodes => nodes.flatMap (fun item => item.id :: item.superseded_by.toList)
  | .merge _ merges => merges.flatMap (fun item => [item.duplicate, item.canonical])
  | _ => []

def proposal_changes (q : Proposal) (node_id : String) : Bool :=
  q.ops.any (fun op => (op_target_ids op).contains node_id)

/-- Whether a pending Proposal would actually change a Decision. -/
def has_pending_proposal (s : GraphState) (decision_id : String) : Bool :=
  s.proposals.items.any (fun q => q.status = .pending ∧ proposal_changes q decision_id)

def GraphState.decision? (s : GraphState) (node_id : String) : Option Decision :=
  match (s.nodes.get? node_id).map Node.body with
  | some (.decision d) => some d
  | _ => none

def GraphState.blocker? (s : GraphState) (node_id : String) : Option Blocker :=
  match (s.nodes.get? node_id).map Node.body with
  | some (.blocker b) => some b
  | _ => none

def GraphState.experiment? (s : GraphState) (node_id : String) : Option Experiment :=
  match (s.nodes.get? node_id).map Node.body with
  | some (.experiment b) => some b
  | _ => none

theorem experiment?_eq_some {s : GraphState} {id : String} {e : Experiment} :
    s.experiment? id = some e ↔ ∃ n, s.nodes.get? id = some n ∧ n.body = .experiment e := by
  unfold GraphState.experiment?
  cases hn : s.nodes.get? id with
  | none => simp
  | some n => cases hbody : n.body <;> simp [hbody]

theorem experiment?_congr {s t : GraphState} {id : String}
    (h : t.nodes.get? id = s.nodes.get? id) : t.experiment? id = s.experiment? id := by
  unfold GraphState.experiment?
  rw [h]

def GraphState.evidence? (s : GraphState) (node_id : String) : Option Evidence :=
  match (s.nodes.get? node_id).map Node.body with
  | some (.evidence b) => some b
  | _ => none

def decision_reasons (s : GraphState) (decision_id : String) : List String :=
  (match s.decision? decision_id with
    | none => [s!"Governing decision {decision_id} is missing."]
    | some d =>
      if d.status ≠ .decided ∨ d.selected_option.all (· = "") then
        [s!"Decision {decision_id} is not decided with a selected option."]
      else [])
  ++ (if has_pending_proposal s decision_id then
      [s!"Decision {decision_id} has a pending proposal."]
    else [])

def blocker_reasons (s : GraphState) (blocker_id : String) : List String :=
  match s.blocker? blocker_id with
  | none => [s!"Blocker {blocker_id} is missing."]
  | some b => if b.status = .open then [s!"Blocker {blocker_id} is open."] else []

/-- The graph facts that gate a loop invocation. -/
def experiment_graph_precondition_reasons (s : GraphState) (experiment_id : String) :
    List String :=
  (related_targets s experiment_id "governed_by").flatMap (decision_reasons s)
    ++ (related_targets s experiment_id "blocked_by").flatMap (blocker_reasons s)

/-- The graph-derived readiness of an Experiment. -/
structure ExperimentGraphControl where
  ready : Bool
  reasons : List String
  deriving DecidableEq

def experiment_graph_control (s : GraphState) (experiment_id : String) :
    ExperimentGraphControl where
  ready := (experiment_graph_precondition_reasons s experiment_id).isEmpty
  reasons := experiment_graph_precondition_reasons s experiment_id

/-- What an automatic wake knows of its episode. -/
structure WatcherWake where
  episode_id : Option String
  invocations_used : Int
  invocation_ceiling : Option Int
  decision_bundle : Option (List ExperimentDecisionPin)
  task_active : Bool := false
  episode_exited : Bool := false
  stop_requested : Bool := false
  deriving DecidableEq

structure ExperimentInvocationAdmission where
  episode_id : String
  invocation : Int
  invocation_ceiling : Int
  decision_bundle : List ExperimentDecisionPin
  deriving DecidableEq

/-- Admit the next automatic wake, or leave its watcher completion pending. -/
def admit_experiment_watcher_invocation (s : GraphState) (experiment_id : String)
    (w : WatcherWake) : Except PyError (Option ExperimentInvocationAdmission) :=
  match w.episode_id, w.invocation_ceiling, w.decision_bundle with
  | none, _, _ => .error (.value_error
      "An Experiment watcher cannot wake without an authorized episode.")
  | _, none, _ => .error (.value_error
      "An Experiment watcher cannot wake without its pinned ceiling.")
  | some episode_id, some ceiling, bundle =>
    if w.invocations_used < 1 then
      .error (.value_error "An Experiment watcher cannot wake before invocation 1.")
    else match bundle with
      | none => .error (.value_error
          "An Experiment watcher cannot wake without pinned decisions.")
      | some decision_bundle =>
        if w.task_active ∨ w.episode_exited ∨ w.stop_requested then .ok none
        else if ceiling ≤ w.invocations_used then .ok none
        else if (s.experiment? experiment_id).isNone then
          .error (.value_error s!"Node {repr_str experiment_id} is not an Experiment.")
        else if experiment_graph_precondition_reasons s experiment_id ≠ [] then .ok none
        else .ok (some { episode_id, invocation := w.invocations_used + 1,
                         invocation_ceiling := ceiling, decision_bundle })

structure GoverningDecisionDependency where
  decision_id : String
  status : Option DecisionStatus
  selected_option : Option String
  pending_proposal : Bool
  deriving DecidableEq

structure BlockerDependency where
  blocker_id : String
  status : Option BlockerStatus
  deriving DecidableEq

structure ExperimentControlDependencies where
  gate_reasons : List String
  governing_decisions : List GoverningDecisionDependency
  blockers : List BlockerDependency
  deriving DecidableEq

def experiment_control_dependencies (s : GraphState) (experiment_id : String) :
    ExperimentControlDependencies where
  gate_reasons := experiment_graph_precondition_reasons s experiment_id
  governing_decisions := (related_targets s experiment_id "governed_by").map (fun id =>
    { decision_id := id
      status := (s.decision? id).map (·.status)
      selected_option := (s.decision? id).bind (·.selected_option)
      pending_proposal := has_pending_proposal s id })
  blockers := (related_targets s experiment_id "blocked_by").map (fun id =>
    { blocker_id := id, status := (s.blocker? id).map (·.status) })

/-- One Evidence edge into a tested Hypothesis. -/
structure EvidenceDependency where
  edge_id : String
  source : String
  target : String
  relation : String
  assessment : Option EvidenceAssessment
  deriving DecidableEq

/-- `_experiment_dependency_signature` of an Experiment of the graph. -/
structure DependencySignature where
  control : ExperimentControlDependencies
  tests_relations : List (String × String)
  assessments : List EvidenceDependency
  deriving DecidableEq

def pair_le (a b : String × String) : Prop := a.1 < b.1 ∨ (a.1 = b.1 ∧ a.2 ≤ b.2)

instance : DecidableRel pair_le := fun a b =>
  inferInstanceAs (Decidable (a.1 < b.1 ∨ (a.1 = b.1 ∧ a.2 ≤ b.2)))

def experiment_dependency_signature (s : GraphState) (experiment_id : String) :
    DependencySignature :=
  let tests := s.edges.items.filter (fun e => e.source = experiment_id ∧ e.relation = "tests")
  let hypothesis_ids := tests.map (·.target)
  let assessed := s.edges.items.filter (fun e => e.target ∈ hypothesis_ids
    ∧ e.relation ∈ ["supports", "weakens", "refutes", "inconclusive", "contradicts"]
    ∧ (s.evidence? e.source).isSome)
  { control := experiment_control_dependencies s experiment_id
    tests_relations := (tests.map (fun e => (e.id, e.target))).insertionSort pair_le
    assessments := (assessed.map (fun e =>
      { edge_id := e.id, source := e.source, target := e.target, relation := e.relation,
        assessment := e.assessment : EvidenceDependency })).insertionSort
        (fun a b => a.edge_id ≤ b.edge_id) }

end ResearchGraph
