import ResearchGraph.Append

/-! # Branch merges and their receipts (`rcp/history/branches.py`, `rcp/runs/branch_merge.py`)

    A branch head is merged by one main Patch that carries its provenance, or is
    resolved without one.  Either outcome leaves a receipt in the branch.  The main
    log and the receipts are written by different operations, and each of them
    looks at what the other has left.
-/

namespace ResearchGraph

open Lib

variable [TextLibrary] [Canonical]

/-! ### Receipts -/

/-- Why an operation on the store was refused. -/
inductive StoreError
  | raised (e : PyError)
  | replay_halted (s : GraphState)
  | patch_rejected (report : List ValidationMessage)
  | revision_conflict (message : String)
  | merge_already_committed (p : Patch)
  | merge_already_resolved (receipt : BranchMergeReceipt)

abbrev Stored (α : Type) := Except StoreError α

def raised {α : Type} : Applied α → Stored α
  | .ok a => .ok a
  | .error e => .error (.raised e)

def refuse {α : Type} (message : String) : Stored α := .error (.raised (.value_error message))

/-- Go on when a condition holds. -/
def demand (condition : Prop) [Decidable condition] (message : String) : Stored Unit :=
  if condition then .ok () else refuse message

/-- `require_writable` -/
def require_writable (s : GraphState) : Stored Unit :=
  if s.replay_status = .degraded then .error (.replay_halted s) else .ok ()

/-- `BranchMergeReceipt.committed_head_is_coherent` -/
def BranchMergeReceipt.validated (r : BranchMergeReceipt) : Stored BranchMergeReceipt := do
  demand (r.result_main_head.target = .main)
    "a branch merge receipt must name a resulting main head"
  match r.outcome with
  | .committed => do
    demand (r.result_main_head.transition_id ≠ none)
      "a committed branch merge requires its transition identity"
    demand (r.result_main_head.revision = r.provenance.rebased_main_head.revision + 1)
      "a committed branch merge must advance main exactly once"
    return r
  | .no_change => do
    demand (r.result_main_head = r.provenance.rebased_main_head)
      "a no-change branch merge must retain the exact rebased main head"
    return r

/-- The receipt of an accepted main Patch that merged a branch head. -/
def committed_receipt (provenance : BranchMergeProvenance) (p : Patch) :
    Stored BranchMergeReceipt :=
  match p.transition, p.authorized_by with
  | some trace, some authorized_by => BranchMergeReceipt.validated {
      outcome := .committed
      provenance
      result_main_head := { revision := p.revision, transition_id := some trace.transition_id }
      authorized_by
      created_at := p.created_at }
  | _, _ => refuse "committed main branch merge lacks its transition or authorizer"

/-- The provenance of an accepted merge. -/
def Patch.merged (p : Patch) : Option BranchMergeProvenance :=
  if p.admission = .accepted then p.branch_merge else none

/-- `_main_merge_receipts`, for all branches and in the order of main. -/
def main_merge_receipts (seen_ids : List String) : List Patch → Stored (List BranchMergeReceipt)
  | [] => .ok []
  | p :: ps => match p.merged with
    | none => main_merge_receipts seen_ids ps
    | some provenance => do
      demand (provenance.merge_id ∉ seen_ids)
        "main history contains duplicate branch merge provenance"
      let receipt ← committed_receipt provenance p
      let rest ← main_merge_receipts (seen_ids ++ [provenance.merge_id]) ps
      return receipt :: rest

/-- The receipts main has for one merge of one branch. -/
def derived_receipts (main : MaterializationResult) (branch_id merge_id : String) :
    Stored (List BranchMergeReceipt) := do
  let receipts ← main_merge_receipts [] main.patches
  return receipts.filter (fun r =>
    r.provenance.branch_id = branch_id ∧ r.provenance.merge_id = merge_id)

/-- `branch_merge_id`, and `_branch_merge_id` -/
def branch_merge_id (b : GraphBranchMetadata) : String :=
  sha256 (.dict [
    ("schema_generation", .int 1),
    ("kind", .str "auto_research_graph_branch_merge"),
    ("branch_id", .str b.branch_id),
    ("episode_id", .str b.episode_id),
    ("project_id", .str b.project_id),
    ("branch_kind", .str "auto_research"),
    ("branch_base_head", b.base_head.to_json),
    ("branch_head", b.head.to_json)])

/-- `_require_receipt_identity` -/
def require_receipt_identity (b : GraphBranchMetadata) (receipt : BranchMergeReceipt) :
    Stored Unit :=
  demand (receipt.provenance.branch_id = b.branch_id ∧ receipt.provenance.episode_id = b.branch_id)
    "branch merge receipt belongs to a different episode branch"

/-- `_head_at_revision` -/
def head_at_revision (b : GraphBranchMetadata) (result : MaterializationResult) (revision : Nat) :
    Stored GraphHeadRef := do
  demand (b.base_head.revision ≤ revision ∧ revision ≤ result.state.revision)
    "branch merge receipt names a revision outside branch history"
  return {
    target := .branch b.branch_id
    revision
    transition_id := last_transition_id b.base_head.transition_id
      ((result.patches.filter (fun p => b.base_head.revision < p.revision)).takeWhile
        (fun p => p.revision ≤ revision)) }

/-- `_validate_summary_receipt` -/
def validate_summary_receipt (b : GraphBranchMetadata) (structural : MaterializationResult)
    (receipt : BranchMergeReceipt) (main_heads : Dict Nat GraphHeadRef) : Stored Unit := do
  require_receipt_identity b receipt
  demand (receipt.provenance.branch_base_head = b.base_head)
    "branch merge receipt names a different immutable main base"
  demand (receipt.provenance.merge_id
      = branch_merge_id { b with head := receipt.provenance.branch_head })
    "branch merge receipt id does not match its exact branch lineage"
  let head ← head_at_revision b structural receipt.provenance.branch_head.revision
  demand (receipt.provenance.branch_head = head)
    "branch merge receipt does not name an exact branch head"
  demand (Dict.get main_heads receipt.result_main_head.revision = some receipt.result_main_head)
    "branch merge receipt does not name an exact main head"

/-- `HistoryManager.head_ref` of a materialization. -/
def main_head_ref (main : MaterializationResult) : Stored GraphHeadRef := do
  require_writable main.state
  match accepted_transition_head_chain_failure .main none main.patches with
  | some failure => refuse failure.message
  | none => return ⟨.main, main.state.revision, last_transition_id none main.patches⟩

/-- `_validate_merge_receipt_source` -/
def validate_merge_receipt_source (b : GraphBranchMetadata) (receipt : BranchMergeReceipt)
    (branch main : MaterializationResult) : Stored Unit := do
  require_writable branch.state
  require_writable main.state
  let _ ← main_head_ref main
  validate_summary_receipt b branch receipt (main_heads_by_revision main.patches)

/-- `_validate_merge_receipt` -/
def validate_merge_receipt (gates : Gates) (b : GraphBranchMetadata) (receipt : BranchMergeReceipt)
    (branch main : MaterializationResult) (require_live_authority : Bool) : Stored Unit := do
  validate_merge_receipt_source b receipt branch main
  let derived ← derived_receipts main b.branch_id receipt.provenance.merge_id
  match receipt.outcome with
  | .committed =>
    demand (derived = [receipt]) "committed branch merge receipt disagrees with main provenance"
  | .no_change => do
    demand (derived = []) "no-change branch merge receipt conflicts with main provenance"
    if require_live_authority then raised (gates.no_change_authority receipt) else .ok ()

/-- `_read_validated_merge_receipt`, of the file with the given stem. -/
def read_validated_merge_receipt (gates : Gates) (b : GraphBranchMetadata) (stem : String)
    (receipt : BranchMergeReceipt) (branch main : MaterializationResult) :
    Stored BranchMergeReceipt := do
  demand (stem = receipt.provenance.merge_id) "branch merge receipt name disagrees with its content"
  validate_merge_receipt gates b receipt branch main false
  return receipt

/-- `_same_no_change_source` -/
def same_no_change_source (winner contender : BranchMergeReceipt) : Bool :=
  winner.outcome = .no_change && contender.outcome = .no_change
    && winner.provenance.merge_id = contender.provenance.merge_id
    && winner.provenance.branch_id = contender.provenance.branch_id
    && winner.provenance.episode_id = contender.provenance.episode_id
    && winner.provenance.branch_base_head = contender.provenance.branch_base_head
    && winner.provenance.branch_head = contender.provenance.branch_head

/-! ### Operations on the store -/

/-- The branch behind an id. -/
def open_branch (store : ProjectStore) (branch_id : String) : Stored BranchStore :=
  match Dict.get store.branches branch_id with
  | none => .error (.raised (.key_error branch_id))
  | some b => do
    demand (b.metadata.branch_id = branch_id)
      "graph branch path disagrees with branch.json identity"
    return b

def ProjectStore.main (store : ProjectStore) : MaterializationResult :=
  main_replay store.manifest store.main_files

def ProjectStore.branch (store : ProjectStore) (b : BranchStore) : MaterializationResult :=
  branch_replay store.manifest b.metadata store.main_files b.files

/-- `existing_receipt_for_main_append` -/
def existing_receipt_for_main_append (gates : Gates) (store : ProjectStore)
    (provenance : BranchMergeProvenance) : Stored (Option BranchMergeReceipt) :=
  match Dict.get store.branches provenance.branch_id with
  | none => .ok none
  | some b => match Dict.get b.merges provenance.merge_id with
    | none => .ok none
    | some stored => do
      demand (b.metadata.branch_id = provenance.branch_id
          ∧ b.metadata.episode_id = provenance.episode_id)
        "branch merge receipt belongs to a different episode branch"
      raised (gates.parent_identity b.metadata store.main)
      let receipt ← read_validated_merge_receipt gates b.metadata provenance.merge_id stored
        (store.branch b) store.main
      demand (receipt.outcome = .no_change)
        "committed branch merge receipt has no accepted main provenance"
      return some receipt

/-- The accepted main Patches of one merge. -/
def matching_merges (patches : List Patch) (merge_id : String) : List Patch :=
  patches.filter (fun p => p.merged.any (fun provenance => provenance.merge_id = merge_id))

/-- The merge admission of `_append_locked`. -/
def admit_merge (gates : Gates) (store : ProjectStore) (p : Patch) : Stored Unit :=
  match p.branch_merge with
  | none => .ok ()
  | some provenance => match matching_merges store.main.patches provenance.merge_id with
    | _ :: _ :: _ => refuse "main history contains duplicate branch merge provenance"
    | [merged] => .error (.merge_already_committed merged)
    | [] => do
      match ← existing_receipt_for_main_append gates store provenance with
      | some receipt => .error (.merge_already_resolved receipt)
      | none => return ()

/-- `_append_locked`: the store with the new file, and the Patch it holds.  A
    rejected Patch is written too, unless it is to be discarded. -/
def append_locked (gates : Gates) (store : ProjectStore) (p : Patch) (discard_on_reject : Bool)
    (expected_revision : Option Nat) (now : Datetime) : Stored (ProjectStore × Patch) := do
  let current := store.main
  require_writable current.state
  raised (gates.writable_home current)
  admit_merge gates store p
  if expected_revision.any (fun expected => current.state.revision ≠ expected) then
    .error (.revision_conflict (s!"the graph moved from revision {expected_revision.getD 0} to "
      ++ s!"{current.state.revision} while this patch was being written"))
  else do
    let revision := next_revision store.main_files
    let (q, report) ← raised (validate_candidate_locked gates store.manifest current p revision)
    if discard_on_reject && rejected report then .error (.patch_rejected report)
    else
      let written := { q with
        admission := if rejected report then .rejected else .accepted
        admission_messages := report }
      return ({ store with main_files := store.main_files ++ [persisted written now] }, written)

/-- The receipt that is written: the one main has, when it has one. -/
def decided_receipt (gates : Gates) (b : GraphBranchMetadata) (receipt : BranchMergeReceipt)
    (derived : List BranchMergeReceipt) (branch main : MaterializationResult) :
    Stored BranchMergeReceipt :=
  match derived with
  | [] => .ok receipt
  | committed :: _ => do
    validate_merge_receipt gates b committed branch main false
    return committed

/-- `write_merge_receipt` -/
def write_merge_receipt (gates : Gates) (store : ProjectStore) (branch_id : String)
    (receipt : BranchMergeReceipt) : Stored (ProjectStore × BranchMergeReceipt) := do
  let b ← open_branch store branch_id
  require_receipt_identity b.metadata receipt
  demand (receipt.provenance.branch_base_head = b.metadata.base_head)
    "branch merge receipt names a different immutable main base"
  let current := store.branch b
  let head ← head_at_revision b.metadata current receipt.provenance.branch_head.revision
  demand (receipt.provenance.branch_head = head)
    "branch merge receipt does not name an exact branch head"
  let main := store.main
  require_writable main.state
  validate_merge_receipt_source b.metadata receipt current main
  let derived ← derived_receipts main b.metadata.branch_id receipt.provenance.merge_id
  let receipt ← decided_receipt gates b.metadata receipt derived current main
  match Dict.get b.merges receipt.provenance.merge_id with
  | some stored => do
    let winner ← read_validated_merge_receipt gates b.metadata receipt.provenance.merge_id stored
      current main
    demand (winner = receipt ∨ same_no_change_source winner receipt = true)
      "branch merge receipt already exists with inconsistent lineage"
    return (store, winner)
  | none => do
    validate_merge_receipt gates b.metadata receipt current main true
    let b := { b with merges := Dict.set b.merges receipt.provenance.merge_id receipt }
    return ({ store with branches := Dict.set store.branches branch_id b }, receipt)

/-- `reconcile_merge_receipt` -/
def reconcile_merge_receipt (gates : Gates) (store : ProjectStore) (branch_id merge_id : String) :
    Stored (ProjectStore × Option BranchMergeReceipt) := do
  let b ← open_branch store branch_id
  match Dict.get b.merges merge_id with
  | some stored => do
    let receipt ← read_validated_merge_receipt gates b.metadata merge_id stored (store.branch b)
      store.main
    return (store, some receipt)
  | none => match matching_merges store.main.patches merge_id with
    | [] => return (store, none)
    | _ :: _ :: _ => refuse "main history contains duplicate branch merge provenance"
    | [p] => match p.branch_merge with
      | none => return (store, none)
      | some provenance => do
        let receipt ← committed_receipt provenance p
        let (store, written) ← write_merge_receipt gates store branch_id receipt
        return (store, some written)

/-! ### A merge task -/

/-- What a merge task knows of its branch and of main. -/
structure BranchMergeContext where
  metadata : GraphBranchMetadata
  main_head : GraphHeadRef
  merge_task_id : String
  authorized_by : AuthorizedHuman

/-- `branch_merge_provenance` -/
def branch_merge_provenance (context : BranchMergeContext) : BranchMergeProvenance where
  merge_id := branch_merge_id context.metadata
  branch_id := context.metadata.branch_id
  episode_id := context.metadata.episode_id
  branch_base_head := context.metadata.base_head
  branch_head := context.metadata.head
  rebased_main_head := context.main_head
  merge_task_id := context.merge_task_id

/-- The stamps `parse_branch_merge_candidate` puts on a Patch of the merge author. -/
def merge_candidate (context : BranchMergeContext) (draft : Patch) : Patch :=
  { draft with
    revision := context.main_head.revision + 1
    authorized_by := some context.authorized_by
    profile := some .orchestrator
    task_id := some context.merge_task_id
    episode_id := some context.metadata.episode_id
    branch_merge := some (branch_merge_provenance context) }

/-- The append of `commit_branch_merge_with_history`. -/
def commit_branch_merge (gates : Gates) (store : ProjectStore) (context : BranchMergeContext)
    (draft : Patch) (now : Datetime) : Stored (ProjectStore × Patch) :=
  append_locked gates store (merge_candidate context draft) true
    (some context.main_head.revision) now

end ResearchGraph
