import ResearchGraph.Validation.Patch

/-! # Replay of Patches (`rcp/core/materialize.py`, `rcp/core/transitions.py`)

    `materialize_patches` validates and applies a list of Patches in order,
    skips the ones whose admission was rejected, and stops at the first that
    replay refuses.  `accepted_transition_head_chain_failure` scans the same
    list for a transition that does not continue the head before it.
-/

namespace ResearchGraph

open Lib

variable [TextLibrary] [Canonical]

/-- What replay carries from one Patch to the next; `observed` are the calls of
    `accepted_patch_observer`, in order. -/
structure Materialization where
  state : GraphState
  reports : Dict Nat (List ValidationMessage) := Table.empty
  repository_descriptors : List RepositoryDescriptor := []
  processed_cursors : Dict String String := Table.empty
  observed : List (GraphState × Patch × GraphState) := []

structure MaterializationResult extends Materialization where
  patches : List Patch

/-- The state in which replay stops. -/
def GraphState.degrade (s : GraphState) (failure : ReplayFailure) : GraphState :=
  { s with replay_status := .degraded, replay_failure := some failure }

/-- The state after a Patch whose messages are kept. -/
def GraphState.with_messages (s : GraphState) (messages : List ValidationMessage) : GraphState :=
  { s with validation_messages := s.validation_messages ++ messages }

/-- The graph of a project before its first Patch. -/
def initial_state (initial_truth_scope : List String) : GraphState where
  project_truth_scope := initial_truth_scope
  coverage := { repositories_never_seen := initial_truth_scope.insertionSort (· ≤ ·) }

/-- The repositories a Patch registers. -/
def descriptors_of (p : Patch) : List RepositoryDescriptor :=
  p.ops.filterMap (fun
    | .set_project_truth_scope _ repository => repository
    | _ => none)

/-- The report of one accepted Patch in replay. -/
def replay_report (settings : ValidationSettings) (s : GraphState) (p : Patch) :
    List ValidationMessage :=
  validate_patch s p s.project_truth_scope settings .replay ++ p.admission_messages

def unapplied_message (e : PyError) : String :=
  s!"Patch operations could not be applied atomically: {e.text}."

/-- `report.reject("malformed-operation", …)` for operations that raised. -/
def unapplied_report (p : Patch) (e : PyError) : ValidationMessage :=
  ⟨.reject, "malformed-operation", unapplied_message e, some p.revision, [], []⟩

/-- The failure of a refused Patch: the first reject of its report. -/
def refused_failure (p : Patch) (message : ValidationMessage) : ReplayFailure :=
  { revision := p.revision, created_at := p.created_at, code := message.code,
    message := message.message }

/-- The graph after one Patch, or the graph replay stops in. -/
def replay_state (settings : ValidationSettings) (s : GraphState) (p : Patch) :
    Except GraphState GraphState :=
  match (replay_report settings s p).find? (fun m => m.level = .reject) with
  | some message => .error (s.degrade (refused_failure p message))
  | none => match apply_valid_patch s p with
    | .error e => .error (s.degrade (refused_failure p (unapplied_report p e)))
    | .ok t => .ok (t.with_messages p.admission_messages)

/-- The report replay files for one accepted Patch. -/
def filed_report (settings : ValidationSettings) (s : GraphState) (p : Patch) :
    List ValidationMessage :=
  let report := replay_report settings s p
  if report.any (fun m => m.level = .reject) then report
  else match apply_valid_patch s p with
    | .error e => report ++ [unapplied_report p e]
    | .ok _ => report

/-- One iteration of `materialize_patches`; an error is the result it breaks with. -/
def replay_patch (settings : ValidationSettings) (m : Materialization) (p : Patch) :
    Except Materialization Materialization :=
  if p.admission = .rejected then
    .ok { m with
      reports := Dict.set m.reports p.revision p.admission_messages
      state := { m.state.with_messages p.admission_messages with
        revision := max m.state.revision p.revision } }
  else
    let reports := Dict.set m.reports p.revision (filed_report settings m.state p)
    match replay_state settings m.state p with
    | .error halted => .error { m with reports, state := halted }
    | .ok t => .ok {
        state := t
        reports
        repository_descriptors := m.repository_descriptors ++ descriptors_of p
        processed_cursors := p.processed_cursors.items.foldl (fun d e => Dict.set d e.1 e.2)
          m.processed_cursors
        observed := m.observed ++ [(m.state, p, t)] }

/-- The value of a loop that may have stopped early. -/
def outcome {α : Type} : Except α α → α
  | .ok a => a
  | .error a => a

/-- `materialize_patches` -/
def materialize_patches (settings : ValidationSettings) (initial_truth_scope : List String)
    (patches : List Patch) : MaterializationResult where
  toMaterialization := outcome
    (patches.foldlM (replay_patch settings) { state := initial_state initial_truth_scope })
  patches

/-! ### The chain of heads -/

def GraphTargetRef.key : GraphTargetRef → String
  | .main => "main"
  | .branch id => "branch:" ++ id

/-- The transition an accepted Patch commits. -/
def Patch.accepted_trace (p : Patch) : Option TransitionTrace :=
  if p.admission = .accepted then p.transition else none

/-- The transition id of the head after a Patch. -/
def Patch.next_transition_id (transition_id : Option String) (p : Patch) : Option String :=
  match p.accepted_trace with
  | none => transition_id
  | some trace => some trace.transition_id

/-- `accepted_transition_head_chain_failure` -/
def accepted_transition_head_chain_failure (target : GraphTargetRef) :
    Option String → List Patch → Option ReplayFailure
  | _, [] => none
  | transition_id, p :: ps =>
    match p.accepted_trace with
    | none => accepted_transition_head_chain_failure target transition_id ps
    | some trace =>
      if trace.pre_head.target ≠ target ∨ trace.pre_head.transition_id ≠ transition_id then
        some { revision := p.revision, created_at := p.created_at,
               code := "transition-head-mismatch"
               message := (s!"Transition at revision {p.revision} does not continue the exact "
                 ++ s!"{target.key} graph head.") }
      else accepted_transition_head_chain_failure target (some trace.transition_id) ps

/-- The last transition of a list of Patches. -/
def last_transition_id (transition_id : Option String) (patches : List Patch) : Option String :=
  patches.foldl Patch.next_transition_id transition_id

end ResearchGraph
