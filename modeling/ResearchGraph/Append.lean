import ResearchGraph.Snapshot

/-! # Appending to main (`rcp/history/manager.py`)

    Every append happens under one lock: replay, the checks of the caller's
    premises, validation, preparation of one transition, and the new file.  What
    lies outside the graph (who may write, which repositories the manifest knows)
    is asked through `Gates`, and can only refuse.
-/

namespace ResearchGraph

open Lib

/-- The attribution a Patch gets on admission. -/
structure Attribution where
  authorized_by : Option AuthorizedHuman
  profile : Option AgentProfile
  task_id : Option String
  episode_id : Option String

inductive MergeOutcome
  | committed
  | no_change
  deriving DecidableEq, Repr

/-- `BranchMergeReceipt` -/
structure BranchMergeReceipt where
  outcome : MergeOutcome
  provenance : BranchMergeProvenance
  result_main_head : GraphHeadRef
  authorized_by : AuthorizedHuman
  created_at : Datetime
  deriving DecidableEq

/-- The checks that read tasks, members and configuration.
    `attribution` is `_stamp_attribution_for_admission`: `none` when the Patch is
    returned as it is.  `scope_update` is `validate_project_scope_update`. -/
structure Gates where
  attribution : Patch → GraphTargetRef → Applied (Option Attribution)
  scope_update : Manifest → List String → Option RepositoryDescriptor → Applied Unit
  writable_home : MaterializationResult → Applied Unit
  parent_identity : GraphBranchMetadata → MaterializationResult → Applied Unit
  no_change_authority : BranchMergeReceipt → Applied Unit

/-- Gates that let everything pass. -/
def open_gates : Gates where
  attribution _ _ := .ok none
  scope_update _ _ _ := .ok ()
  writable_home _ := .ok ()
  parent_identity _ _ := .ok ()
  no_change_authority _ := .ok ()

def Patch.attributed (p : Patch) : Option Attribution → Patch
  | none => p
  | some a => { p with
      authorized_by := a.authorized_by
      profile := a.profile
      task_id := a.task_id
      episode_id := a.episode_id }

/-! ### The files of a project -/

/-- One branch directory; a receipt is stored under its file name. -/
structure BranchStore where
  metadata : GraphBranchMetadata
  files : List PatchFile
  merges : Dict String BranchMergeReceipt

structure ProjectStore where
  manifest : Manifest
  main_files : List PatchFile := []
  branches : Dict String BranchStore := Table.empty

/-- `_next_revision` -/
def next_revision (files : List PatchFile) : Nat :=
  (files.getLast?.map (fun f => f.revision + 1)).getD 1

/-- `Patch.branch_merge_attribution_is_complete` -/
def branch_merge_attribution_is_complete (p : Patch) : Applied Unit :=
  match p.branch_merge with
  | none => .ok ()
  | some provenance =>
    if p.kind ≠ .work ∨ p.author ≠ some .agent ∨ p.producer ≠ .agent
        ∨ p.profile ≠ some .orchestrator ∨ p.authorized_by = none then
      .error (.value_error "a branch merge must be an attributed orchestrator Work Patch")
    else if p.task_id ≠ some provenance.merge_task_id then
      .error (.value_error "branch merge provenance does not match its direct task")
    else if p.episode_id ≠ some provenance.episode_id then
      .error (.value_error "branch merge provenance does not match its episode")
    else if p.transition.any (fun t => t.pre_head ≠ provenance.rebased_main_head) then
      .error (.value_error "branch merge transition does not start from its rebased main head")
    else .ok ()

/-- What a later replay decodes from the file of a Patch. -/
def persisted (p : Patch) (modified_at : Datetime) : PatchFile where
  revision := p.revision
  content := match branch_merge_attribution_is_complete p with
    | .ok () => .ok p
    | .error e => .error ⟨"patch-schema-invalid", e.text⟩
  created_at := p.created_at
  modified_at := modified_at

variable [TextLibrary] [Canonical]

/-! ### Preparation under the lock -/

/-- A report with the Patch it is about, or the prepared sources and their report. -/
inductive SourcesOutcome
  | rejected (p : Patch) (report : List ValidationMessage)
  | prepared (sources : List Patch) (report : List ValidationMessage)

/-- The descriptor `validate_project_scope_update` is asked about. -/
def scope_descriptor (p : Patch) : Option RepositoryDescriptor := (descriptors_of p).head?

/-- `aggregate.reject(code, message, revision)` -/
def rejection (code message : String) (revision : Nat) : ValidationMessage :=
  ⟨.reject, code, message, some revision, [], []⟩

/-- The loop of `_prepare_transition_locked` over the initiating Patches.
    `before` is the revision of the graph that is appended to. -/
def prepare_sources (gates : Gates) (m : Manifest) (target : GraphTargetRef) (before revision : Nat)
    (sources : List Patch) (aggregate : List ValidationMessage) (staged : GraphState) :
    List Patch → Applied SourcesOutcome
  | [] => .ok (.prepared sources aggregate)
  | raw :: rest => do
    let attribution ← gates.attribution raw target
    let validation_state := { staged with revision := before }
    let p := prepare_patch_bookkeeping validation_state
      { raw.attributed attribution with revision }
    let report := aggregate ++ validate_patch validation_state p
      validation_state.project_truth_scope m.settings .admission
    if rejected report then return .rejected p report
    else match apply_valid_patch validation_state p with
      | .error e =>
        return .rejected p (report
          ++ [rejection "malformed-operation" (unapplied_message e) revision])
      | .ok candidate =>
        let refused : Option PyError :=
          if candidate.project_truth_scope = validation_state.project_truth_scope then none
          else match gates.scope_update m candidate.project_truth_scope (scope_descriptor p) with
            | .error e => some e
            | .ok () => none
        match refused with
        | some e =>
          return .rejected p
            (report ++ [rejection "invalid-project-scope" e.text revision])
        | none =>
          prepare_sources gates m target before revision
            (sources ++ [finalize_patch_bookkeeping p candidate]) report
            { candidate with revision := before } rest

/-- Preparation fails with a `TransitionConflict`: the operations cannot be closed,
    or the combined Patch does not reproduce the graph. -/
def conflicts (s : GraphState) (head : GraphHeadRef) (patches : List Patch) : Bool :=
  match patches with
  | [] => false
  | first :: _ =>
    if (require_transition_request s first patches head).isOk then
      match transition_closure s first patches DEFAULT_MAX_RULE_FIRINGS with
      | .error _ => true
      | .ok c =>
        let combined := do
          let p ← combined_patch first patches (expanded_operations patches c)
            (transition_trace head patches c)
          apply_valid_patch s p
        match combined with
        | .error _ => false
        | .ok candidate => ! candidate.same c.final
    else false

/-- `_prepare_transition_locked` -/
def prepare_transition_locked (gates : Gates) (m : Manifest) (current : MaterializationResult)
    (raw_patches : List Patch) (revision : Nat) (pre_head : Option GraphHeadRef)
    (target : GraphTargetRef) : Applied (Patch × List ValidationMessage) := do
  if pre_head.any (fun h => h.target ≠ target) then
    .error (.value_error "transition pre-head does not match its Apply graph target")
  else
    let head := pre_head.getD
      ⟨.main, current.state.revision, last_transition_id none current.patches⟩
    match ← prepare_sources gates m target current.state.revision revision [] [] current.state
        raw_patches with
    | .rejected p report => return (p, report)
    | .prepared sources report =>
      match prepare_validated current.state sources (some head) with
      | .ok prepared => return ({ prepared.patch with admission_messages := report }, report)
      | .error e => match sources with
        | first :: _ =>
          if conflicts current.state head sources then
            return (first, report ++ [rejection "transition-conflict" e.text revision])
          else .error e
        | [] => .error e

/-- `_validate_candidate_locked` -/
def validate_candidate_locked (gates : Gates) (m : Manifest) (current : MaterializationResult)
    (p : Patch) (revision : Nat) : Applied (Patch × List ValidationMessage) :=
  if p.kind = .identity ∧ p.ops = [] then do
    let attribution ← gates.attribution p .main
    let identity_patch := { p.attributed attribution with revision }
    let report := validate_patch current.state identity_patch current.state.project_truth_scope
      m.settings .admission
    if rejected report then return (identity_patch, report)
    else do
      let _ ← apply_valid_patch current.state identity_patch
      return (identity_patch, report)
  else prepare_transition_locked gates m current [p] revision none .main

/-- The append loop takes an admitted Patch that keeps the truth scope. -/
theorem prepare_sources_admitted {gates : Gates} {m : Manifest} {target : GraphTargetRef}
    {before revision : Nat} {sources raws : List Patch} {aggregate : List ValidationMessage}
    {raw p p' : Patch} {s t : GraphState} {attribution : Option Attribution}
    (hattribution : gates.attribution raw target = .ok attribution)
    (hp : prepare_patch_bookkeeping { s with revision := before }
      { raw.attributed attribution with revision } = p)
    (hreport : rejected (aggregate ++ validate_patch { s with revision := before } p
      s.project_truth_scope m.settings .admission) = false)
    (happly : apply_valid_patch { s with revision := before } p = .ok t)
    (hscope : t.project_truth_scope = s.project_truth_scope)
    (hfinalize : finalize_patch_bookkeeping p t = p') :
    prepare_sources gates m target before revision sources aggregate s (raw :: raws) =
      prepare_sources gates m target before revision (sources ++ [p'])
        (aggregate ++ validate_patch { s with revision := before } p s.project_truth_scope
          m.settings .admission) { t with revision := before } raws := by
  subst hp hfinalize
  rw [prepare_sources, hattribution]
  show (if rejected (aggregate ++ validate_patch _ _ _ _ _) = true then _ else _) = _
  rw [if_neg (by rw [hreport]; decide)]
  simp only [happly, hscope, if_true]

end ResearchGraph
