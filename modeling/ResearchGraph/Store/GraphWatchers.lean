import ResearchGraph.Store.Watchers
import ResearchGraph.Decode
import ResearchGraph.Lib.Cut

/-! # Graph watchers and their reconciliation

    A graph watcher is evaluated at the accepted boundaries of its target. A
    pass reads the history and the consumed boundary of the target, then
    consumes one boundary after another, each in its own transaction; passes
    may repeat, overlap and crash between two boundaries.
-/

namespace ResearchGraph

open Lib

/-! ### Evaluation at one boundary -/

/-- An accepted boundary of a target: the graph after it and its lifecycle events. -/
structure AcceptedGraphBoundary where
  revision : Nat
  transition_id : Option String
  state : GraphState
  lifecycle_events : List TransitionEvent

/-- The head of the target at the boundary. -/
def AcceptedGraphBoundary.head (b : AcceptedGraphBoundary) (target : GraphTargetRef) :
    GraphHeadRef := ⟨target, b.revision, b.transition_id⟩

@[simp] theorem AcceptedGraphBoundary.head_target (b : AcceptedGraphBoundary)
    (target : GraphTargetRef) : (b.head target).target = target := rfl

@[simp] theorem AcceptedGraphBoundary.head_revision (b : AcceptedGraphBoundary)
    (target : GraphTargetRef) : (b.head target).revision = b.revision := rfl

@[simp] theorem AcceptedGraphBoundary.head_transition_id (b : AcceptedGraphBoundary)
    (target : GraphTargetRef) : (b.head target).transition_id = b.transition_id := rfl

def GraphCondition.node_id : GraphCondition → String
  | .node_status node_id _ => node_id
  | .proposal_resolved node_id => node_id

/-- The statuses the type of a node admits; evidence has none. -/
def NodeBody.status_names : NodeBody → Option (List String)
  | .research_question _ => some (QuestionStatus.names.map Prod.fst)
  | .hypothesis _ => some (HypothesisStatus.names.map Prod.fst)
  | .decision _ => some (DecisionStatus.names.map Prod.fst)
  | .experiment _ => some (ExperimentStatus.names.map Prod.fst)
  | .evidence _ => none
  | .blocker _ => some (BlockerStatus.names.map Prod.fst)

/-- Whether `validate_graph_conditions` accepts one condition. -/
def graph_condition_valid (condition : GraphCondition) (state : GraphState) : Bool :=
  state.replay_status = .complete &&
    match state.nodes.get? condition.node_id with
    | none => false
    | some node =>
      match condition with
      | .proposal_resolved _ => true
      | .node_status _ status_in =>
        match node.body.status_names with
        | none => false
        | some names => status_in.all (fun status => names.contains status)

/-- `graph_condition_result`. -/
def graph_condition_result (condition : GraphCondition) (state : GraphState)
    (armed_revision : Nat) : BoundaryResult :=
  if state.replay_status ≠ .complete then .active
  else match state.nodes.get? condition.node_id with
    | none => .removed
    | some node =>
      match condition with
      | .node_status _ status_in =>
        if status_in.any (fun status => node.body.attr "status" = some (.str status)) then
          .completed
        else .active
      | .proposal_resolved node_id =>
        if state.proposals.items.any (fun proposal => proposal.status ≠ .pending
            && (match proposal.resolved_rev with
              | none => false
              | some resolved_rev => armed_revision < resolved_rev)
            && proposal.related_node_ids.contains node_id) then .completed
        else .active

/-- `graph_condition_transition_event_result`: whether a status event completes the condition. -/
def event_completes (condition : GraphCondition) (events : List TransitionEvent)
    (armed_revision boundary_revision : Nat) : Bool :=
  armed_revision < boundary_revision &&
    match condition with
    | .proposal_resolved _ => false
    | .node_status node_id status_in => events.any (fun event =>
        event.event_type = .node_status_changed && event.node_id = node_id
          && event.field = "status" && status_in.any (fun status => event.after = .str status))

/-- `graph_watcher_boundary_result`. A watcher without condition or arming revision is not
    evaluated. -/
def graph_watcher_boundary_result (w : Watcher) (b : AcceptedGraphBoundary) : BoundaryResult :=
  match w.condition, w.armed_revision with
  | some condition, some armed_revision =>
    if event_completes condition b.lifecycle_events armed_revision b.state.revision then .completed
    else
      let result := graph_condition_result condition b.state armed_revision
      if result ≠ .removed && !graph_condition_valid condition b.state then .active else result
  | _, _ => .active

/-! ### The reconciling system -/

/-- A pass over one target, with the boundaries it has not consumed yet. -/
structure ReconciliationPass where
  project_id : String
  target : GraphTargetRef
  remaining : List AcceptedGraphBoundary

structure Reconciler where
  store : WatcherStore
  /-- The accepted boundaries of each project and target, in order. -/
  history : String → GraphTargetRef → List AcceptedGraphBoundary
  passes : List ReconciliationPass

namespace Reconciler

/-- A boundary is accepted on top of the history. -/
def accept (s : Reconciler) (project_id : String) (target : GraphTargetRef)
    (b : AcceptedGraphBoundary) : Reconciler :=
  if (s.history project_id target).all (fun a => a.revision < b.revision) then
    { s with
      history := fun p t => if p = project_id ∧ t = target then s.history p t ++ [b]
        else s.history p t }
  else s

/-- The last boundary the store has consumed for a target. -/
def head (s : Reconciler) (project_id : String) (target : GraphTargetRef) :
    Option ConsumedBoundary := s.store.reconciliation.get (project_id, target)

/-- The boundaries a pass hands over: those the consumed head does not pass by. -/
def unconsumed (s : Reconciler) (project_id : String) (target : GraphTargetRef) :
    List AcceptedGraphBoundary :=
  match s.head project_id target with
  | none => s.history project_id target
  | some last => (s.history project_id target).filter (fun b => last.revision ≤ b.revision)

/-- What `reconcile_accepted_graph_boundaries` checks before it writes: canonical order, unique
    event ids, and no boundary ahead of the current head. -/
def boundaries_valid (boundaries : List AcceptedGraphBoundary) (head_revision : Nat) : Bool :=
  boundaries.Pairwise (fun a b => a.revision < b.revision)
    && (boundaries.flatMap (fun b => b.lifecycle_events.map TransitionEvent.event_id)).Nodup
    && boundaries.all (fun b => b.revision ≤ head_revision)

/-- Whether the history a pass sees ends before what its target has consumed. -/
def is_behind (s : Reconciler) (project_id : String) (target : GraphTargetRef)
    (head_revision : Nat) : Bool :=
  match s.head project_id target with
  | none => false
  | some last => head_revision < last.revision

/-- A pass starts: it reads the history and the consumed head, refuses a history that is behind
    it, and arms the watchers that have no baseline yet. -/
def begin_pass (s : Reconciler) (project_id : String) (target : GraphTargetRef)
    (head_revision : Nat) : Reconciler :=
  if !s.is_behind project_id target head_revision
      && boundaries_valid (s.unconsumed project_id target) head_revision then
    { s with
      store := s.store.initialize_target_baselines project_id target head_revision
      passes := s.passes ++ [⟨project_id, target, s.unconsumed project_id target⟩] }
  else s

/-- The next boundary of a pass is consumed; an error ends the pass. -/
def step_pass (s : Reconciler) (n : Nat) (evaluated_at : Int) : Reconciler :=
  match s.passes[n]? with
  | none => s
  | some pass =>
    match pass.remaining with
    | [] => s
    | b :: rest =>
      match s.store.consume_graph_watcher_boundary pass.project_id
          (b.head pass.target)
          (fun w => graph_watcher_boundary_result w b) evaluated_at with
      | none => { s with passes := s.passes.eraseIdx n }
      | some store => { s with store, passes := s.passes.set n { pass with remaining := rest } }

end Reconciler

inductive ReconcilerOp
  | accept (project_id : String) (target : GraphTargetRef) (boundary : AcceptedGraphBoundary)
  | begin_pass (project_id : String) (target : GraphTargetRef) (head_revision : Nat)
  | step_pass (n : Nat) (evaluated_at : Int)
  | crash (n : Nat)
  | arm (origin : String → Option WatcherOrigin) (records : List Watcher)

def Reconciler.apply (s : Reconciler) : ReconcilerOp → Reconciler
  | .accept project_id target boundary => s.accept project_id target boundary
  | .begin_pass project_id target head_revision => s.begin_pass project_id target head_revision
  | .step_pass n evaluated_at => s.step_pass n evaluated_at
  | .crash n => { s with passes := s.passes.eraseIdx n }
  | .arm origin records =>
    { s with store := (s.store.create_watchers origin records).getD s.store }

/-! ### What has been consumed -/

/-- The boundaries up to the consumed head. -/
def Reconciler.consumed (s : Reconciler) (project_id : String) (target : GraphTargetRef) :
    List AcceptedGraphBoundary :=
  match s.head project_id target with
  | none => []
  | some last => (s.history project_id target).filter (fun b => b.revision ≤ last.revision)

/-- The verdict of one scan: the result of the first boundary after the arming revision that
    gives one. -/
def verdict (w : Watcher) (armed_revision : Nat) (boundaries : List AcceptedGraphBoundary) :
    BoundaryResult :=
  match (boundaries.filter (fun b => armed_revision < b.revision)).find?
      (fun b => graph_watcher_boundary_result w b ≠ .active) with
  | none => .active
  | some b => graph_watcher_boundary_result w b

/-- The history increases, the consumed head is one of its boundaries, and what lies before the
    rest of a pass has been consumed. -/
structure Reconciler.Sound (s : Reconciler) : Prop where
  increasing : ∀ p t, Increasing AcceptedGraphBoundary.revision (s.history p t)
  consumed_head : ∀ p t last, s.head p t = some last →
    ∃ b ∈ s.history p t, b.revision = last.revision ∧ b.transition_id = last.transition_id
  passes_contiguous : ∀ pass ∈ s.passes, ∃ done ahead,
    s.history pass.project_id pass.target = done ++ (pass.remaining ++ ahead) ∧
      ∀ b ∈ done, b ∈ s.consumed pass.project_id pass.target

section
variable {s : Reconciler} {p : String} {t : GraphTargetRef}

theorem mem_consumed {b : AcceptedGraphBoundary} :
    b ∈ s.consumed p t ↔
      ∃ last, s.head p t = some last ∧ b ∈ s.history p t ∧ b.revision ≤ last.revision := by
  unfold Reconciler.consumed
  cases h : s.head p t with
  | none => simp
  | some last => simp

/-- What is consumed is the beginning of the history. -/
theorem Reconciler.Sound.consumed_append (hs : s.Sound) (p : String) (t : GraphTargetRef) :
    ∃ ahead, s.history p t = s.consumed p t ++ ahead := by
  unfold Reconciler.consumed
  cases s.head p t with
  | none => exact ⟨_, rfl⟩
  | some last => exact ⟨_, ((hs.increasing p t).cut_le last.revision).symm⟩

/-- A pass that is not behind: its next boundary is consumed already, or is the next one. -/
theorem Reconciler.Sound.next_boundary (hs : s.Sound) {done rest : List AcceptedGraphBoundary}
    {b : AcceptedGraphBoundary} (hsplit : s.history p t = done ++ b :: rest)
    (hdone : ∀ a ∈ done, a ∈ s.consumed p t) :
    b ∈ s.consumed p t ∨
      (s.consumed p t = done ∧ ∀ last, s.head p t = some last → last.revision < b.revision) := by
  have hinc := hs.increasing p t
  rw [hsplit] at hinc
  by_cases hb : b ∈ s.consumed p t
  · exact .inl hb
  · refine .inr ⟨?_, ?_⟩
    · unfold Reconciler.consumed
      cases hhead : s.head p t with
      | none =>
        -- nothing is consumed, so nothing stands before `b`
        cases done with
        | nil => rfl
        | cons a done =>
          have := hdone a List.mem_cons_self
          rw [mem_consumed] at this
          obtain ⟨last, hlast, -⟩ := this
          rw [hhead] at hlast
          cases hlast
      | some last =>
        have hlt : last.revision < b.revision := by
          by_contra hle
          exact hb (mem_consumed.mpr ⟨last, hhead, by rw [hsplit]; simp, by omega⟩)
        show (s.history p t).filter _ = done
        rw [hsplit, List.filter_append]
        have hkeep : done.filter (fun a => a.revision ≤ last.revision) = done := by
          refine List.filter_eq_self.mpr (fun a ha => ?_)
          obtain ⟨last', hlast', -, hle⟩ := mem_consumed.mp (hdone a ha)
          rw [hhead] at hlast'
          rw [Option.some.inj hlast']
          simpa using hle
        have hdrop : (b :: rest).filter (fun a => a.revision ≤ last.revision) = [] := by
          refine List.filter_eq_nil_iff.mpr (fun a ha => ?_)
          have : b.revision ≤ a.revision := by
            rcases List.mem_cons.mp ha with rfl | ha
            · exact Nat.le_refl _
            · exact Nat.le_of_lt ((List.pairwise_cons.mp hinc.right).1 a ha)
          simp only [decide_eq_true_eq]
          omega
        rw [hkeep, hdrop, List.append_nil]
    · intro last hlast
      by_contra hle
      exact hb (mem_consumed.mpr ⟨last, hlast, by rw [hsplit]; simp, by omega⟩)

end

end ResearchGraph
