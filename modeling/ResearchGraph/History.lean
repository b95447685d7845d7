import ResearchGraph.Replay
import ResearchGraph.Staging

/-! # Patch logs (`rcp/history/manager.py`, `rcp/history/branches.py`)

    A log is a list of numbered files, each holding a Patch or not readable as
    one.  The main log and a branch are replayed by different code: both decode,
    check the chain of heads and materialize, but they combine what they find
    in different ways.
-/

namespace ResearchGraph

open Lib

/-! ### Files -/

/-- Why a file holds no Patch: `patch-read-failed` or `patch-schema-invalid`, and
    the text of the exception. -/
structure UnreadablePatch where
  code : String
  message : String

/-- One file of a log.  `revision` is the number in its name, `created_at` the
    time its text or its modification time gives (`_patch_failure_created_at`),
    `modified_at` its modification time. -/
structure PatchFile where
  revision : Nat
  content : Except UnreadablePatch Patch
  created_at : Datetime
  modified_at : Datetime

/-- `path.name`: six digits. -/
def PatchFile.name (f : PatchFile) : String :=
  let digits := toString f.revision
  String.ofList (List.replicate (6 - digits.length) '0') ++ digits ++ ".json"

/-- Decode files in order up to the first that cannot be read. -/
def decode_paths (failure : PatchFile → UnreadablePatch → ReplayFailure) :
    List PatchFile → List Patch × Option ReplayFailure
  | [] => ([], none)
  | f :: fs => match f.content with
    | .error e => ([], some (failure f e))
    | .ok p => (p :: (decode_paths failure fs).1, (decode_paths failure fs).2)

/-- The failure the main log records for an unreadable file. -/
def main_path_failure (f : PatchFile) (e : UnreadablePatch) : ReplayFailure :=
  { revision := f.revision, created_at := f.created_at, code := e.code, message := e.message }

/-- `_path_failure` -/
def path_failure (f : PatchFile) (e : UnreadablePatch) : ReplayFailure :=
  { revision := f.revision, created_at := f.modified_at, code := e.code, message := e.message }

/-- `scope-base.json`: missing, unusable (with its own failure time), or a scope. -/
inductive ScopeBase
  | missing
  | invalid (created_at : Datetime) (message : String)
  | scope (truth_scope : List String)

/-- What replay reads of the manifest; `scope_base_path` is named in messages. -/
structure Manifest where
  truth_scope : List String
  settings : ValidationSettings
  scope_base : ScopeBase
  scope_base_path : String

/-- A project with the one repository `main`. -/
def one_repository : Manifest where
  truth_scope := ["main"]
  settings := {}
  scope_base := .scope ["main"]
  scope_base_path := "scope-base.json"

variable [TextLibrary] [Canonical]

/-! ### The main log -/

/-- `_first_replay_revision` -/
def first_replay_revision (files : List PatchFile) : Nat := (files.head?.map (·.revision)).getD 0

/-- `_first_replay_created_at` -/
def first_replay_created_at (files : List PatchFile) (patches : List Patch) (fallback : Datetime) :
    Datetime :=
  match patches, files with
  | p :: _, _ => p.created_at
  | [], f :: _ => f.created_at
  | [], [] => fallback

/-- The epoch, `datetime.fromtimestamp(0, UTC)`. -/
def epoch : Datetime := { year := 1970, month := 1, day := 1 }

/-- The scope a main log starts from, and the failure when it is not recorded. -/
def main_scope (m : Manifest) (files : List PatchFile) (patches : List Patch) :
    List String × Option ReplayFailure :=
  match m.scope_base with
  | .scope truth_scope => (truth_scope, none)
  | .invalid created_at message => (m.truth_scope, some {
      revision := first_replay_revision files
      created_at := first_replay_created_at files patches created_at
      code := "scope-provenance-invalid"
      message := s!"Canonical scope provenance {m.scope_base_path} is invalid: {message}" })
  | .missing =>
    if files.isEmpty then (m.truth_scope, none)
    else (m.truth_scope, some {
      revision := first_replay_revision files
      created_at := first_replay_created_at files patches epoch
      code := "scope-provenance-missing"
      message := (s!"Canonical scope provenance {m.scope_base_path} is absent while Patch history "
        ++ "exists; replay is refused rather than substituting the current manifest scope.") })

/-- `min(…, key=revision, default=None)` of two failures. -/
def earliest_failure : Option ReplayFailure → Option ReplayFailure → Option ReplayFailure
  | none, b => b
  | some a, none => some a
  | some a, some b => if b.revision < a.revision then some b else some a

/-- The Patches before the one whose head does not continue the chain. -/
def chain_prefix_of (patches : List Patch) : Option ReplayFailure → List Patch
  | none => patches
  | some failure => patches.takeWhile (fun p => p.revision ≠ failure.revision)

/-- A failure degrades a state that replayed completely. -/
def degrade_complete (s : GraphState) : Option ReplayFailure → GraphState
  | none => s
  | some failure => if s.replay_status = .complete then s.degrade failure else s

/-- `HistoryManager._replay` -/
def main_replay (m : Manifest) (files : List PatchFile) : MaterializationResult :=
  let decoded := decode_paths main_path_failure files
  let scope := main_scope m files decoded.1
  let chain_failure := accepted_transition_head_chain_failure .main none decoded.1
  let replayable := if scope.2.isSome then [] else chain_prefix_of decoded.1 chain_failure
  let result := materialize_patches m.settings scope.1 replayable
  let failure := scope.2.or (earliest_failure decoded.2 chain_failure)
  { result with state := degrade_complete result.state failure }

/-! ### A branch -/

structure GraphBranchMetadata where
  branch_id : String
  episode_id : String
  project_id : String
  base_head : GraphHeadRef
  head : GraphHeadRef
  created_at : Datetime
  authorized_by : AuthorizedHuman

/-- `_validate_revision_sequence` on files that were all decoded. -/
def validate_revision_sequence : Nat → List (PatchFile × Patch) → Option ReplayFailure
  | _, [] => none
  | expected, (f, p) :: rest =>
    if f.revision ≠ expected ∨ p.revision ≠ expected then
      some { revision := expected, created_at := p.created_at,
             code := "patch-revision-discontinuous"
             message := (s!"Graph branch history expected revision {expected}, but found "
               ++ s!"{f.name} carrying revision {p.revision}.") }
    else validate_revision_sequence (expected + 1) rest

/-- Decoding, numbering and the chain of heads, in this order; the first of them
    that fails is the structural failure. -/
def structural_failure (files : List PatchFile) (start : Nat) (target : GraphTargetRef)
    (transition_id : Option String) : Option ReplayFailure :=
  let decoded := decode_paths path_failure files
  decoded.2.or
    ((validate_revision_sequence start (files.zip decoded.1)).or
      (accepted_transition_head_chain_failure target transition_id decoded.1))

/-- `_initial_truth_scope` -/
def branch_scope (m : Manifest) (b : GraphBranchMetadata) : List String × Option ReplayFailure :=
  match m.scope_base with
  | .scope truth_scope => (truth_scope, none)
  | .invalid _ message => (m.truth_scope, some {
      revision := b.base_head.revision
      created_at := b.created_at
      code := "scope-provenance-invalid"
      message := s!"Canonical scope provenance {m.scope_base_path} is invalid: {message}" })
  | .missing =>
    if b.base_head.revision = 0 then (m.truth_scope, none)
    else (m.truth_scope, some {
      revision := b.base_head.revision
      created_at := b.created_at
      code := "scope-provenance-missing"
      message := (s!"Canonical scope provenance {m.scope_base_path} is absent for a non-empty "
        ++ "branch base.") })

/-- The main files a branch is based on. -/
def base_paths (b : GraphBranchMetadata) (main_files : List PatchFile) : List PatchFile :=
  main_files.filter (fun f => f.revision ≤ b.base_head.revision)

/-- `_head_for_patches` -/
def head_for_patches (result : MaterializationResult) (target : GraphTargetRef)
    (initial_transition_id : Option String) : GraphHeadRef :=
  { target, revision := result.state.revision
    transition_id := last_transition_id initial_transition_id result.patches }

/-- The base of a branch, replayed from the empty graph. -/
def base_result (m : Manifest) (b : GraphBranchMetadata) (main_files : List PatchFile) :
    MaterializationResult :=
  let scope := branch_scope m b
  materialize_patches m.settings scope.1
    (if scope.2.isSome then [] else (decode_paths path_failure (base_paths b main_files)).1)

/-- The base replays, and it is not the head the branch names. -/
def base_mismatch (m : Manifest) (b : GraphBranchMetadata) (main_files : List PatchFile) :
    Option ReplayFailure :=
  let result := base_result m b main_files
  if result.state.replay_status = .complete
      ∧ head_for_patches result .main none ≠ b.base_head then
    some { revision := b.base_head.revision, created_at := b.created_at,
           code := "branch-base-mismatch"
           message := "Graph branch immutable main base does not match the accepted main prefix." }
  else none

/-- `failure` at the end of `_materialize_base`. -/
def base_failure (m : Manifest) (b : GraphBranchMetadata) (main_files : List PatchFile) :
    Option ReplayFailure :=
  ((branch_scope m b).2.or (structural_failure (base_paths b main_files) 1 .main none)).or
    (base_mismatch m b main_files)

/-- `_materialize_base` -/
def materialize_base (m : Manifest) (b : GraphBranchMetadata) (main_files : List PatchFile) :
    MaterializationResult :=
  let result := base_result m b main_files
  match base_failure m b main_files with
  | none => result
  | some failure => { result with state := result.state.degrade failure }

/-- `BranchHistoryManager._replay` -/
def branch_replay (m : Manifest) (b : GraphBranchMetadata)
    (main_files branch_files : List PatchFile) :
    MaterializationResult :=
  let base := materialize_base m b main_files
  let scope := branch_scope m b
  let base_degraded :=
    if base.state.replay_status = .degraded then base.state.replay_failure else none
  let branch_patches :=
    if base_degraded.isSome then [] else (decode_paths path_failure branch_files).1
  let failure := base_degraded.or (structural_failure branch_files (b.base_head.revision + 1)
    (.branch b.branch_id) b.base_head.transition_id)
  let replayable := if scope.2.isSome then [] else base.patches ++ branch_patches
  let result := materialize_patches m.settings scope.1 replayable
  match failure with
  | none => result
  | some failure => { result with state := result.state.degrade failure }

end ResearchGraph
