import Mathlib.Data.Prod.Lex
import Mathlib.Data.String.Basic
import ResearchGraph.Lib.PosixPath
import ResearchGraph.Lib.Rewrite
import ResearchGraph.Lib.Saga
import ResearchGraph.Lib.Table
import ResearchGraph.Report

/-! # Write scopes (`rcp/agents/write_scope.py`)

    The directories that one launch of an agent may write: its workspace and
    the admitted repositories of its project, with the `.research` directories
    under write protection.

    The file system is what three looks at it answer, for the declared paths,
    for the inventory and for the state directory; nothing is assumed to stay
    between two looks. The fingerprint is a parameter, SHA-256 over the
    canonical JSON of everything else in the scope.
-/

namespace ResearchGraph

open Lib

/-! ### Records -/

inductive WriteScopeError
  | value_error (message : String)
  | os_error (message : String)
  | state_unavailable (message : String)
  | key_error (key : String)
  deriving DecidableEq, Repr

inductive AgentCapability
  | discuss
  | work_auto
  | orchestrate
  | scratch_patch
  | paper_readonly
  deriving DecidableEq, Repr

def AgentCapability.name : AgentCapability → String
  | .discuss => "discuss"
  | .work_auto => "work_auto"
  | .orchestrate => "orchestrate"
  | .scratch_patch => "scratch_patch"
  | .paper_readonly => "paper_readonly"

/-- The capabilities that write project files. -/
def AgentCapability.work_like : AgentCapability → Bool
  | .work_auto | .orchestrate => true
  | _ => false

structure MachineConfig where
  machine_alias : String
  host : String
  deriving DecidableEq, Repr

instance : Keyed MachineConfig String := ⟨MachineConfig.machine_alias⟩

structure RepositoryConfig where
  repository_alias : String
  machine : String
  path : String
  deriving DecidableEq, Repr

instance : Keyed RepositoryConfig String := ⟨RepositoryConfig.repository_alias⟩

/-- What write scopes read of the manifest, and what `validate_references` ensures of it. -/
structure ProjectManifest where
  machines : Table MachineConfig
  repositories : Table RepositoryConfig
  truth_scope : List String
  state_repository : RepositoryConfig
  machines_known : ∀ r ∈ repositories.items, r.machine ∈ machines.keys
  scope_known : ∀ a ∈ truth_scope, a ∈ repositories.keys
  state_known : state_repository ∈ repositories.items

structure RepositoryPointer where
  repository_alias : String
  machine : String
  path : String
  deriving DecidableEq, Repr

instance : Keyed RepositoryPointer String := ⟨RepositoryPointer.repository_alias⟩

structure WritableRepositoryRoot where
  repository_alias : String
  machine : String
  path : String
  deriving DecidableEq, Repr

structure RegisteredRepositoryRoot where
  project_id : String
  repository_alias : String
  machine : String
  execution_host : String
  path : String
  deriving DecidableEq, Repr

/-- An opened stage on another machine. -/
structure RemoteRunStage where
  host : String
  root : PosixPath
  deriving DecidableEq

/-! ### The file system -/

/-- What resolving a path finds. -/
inductive Resolution
  | missing
  | failed (message : String)
  | found (path : RealPath) (is_dir writable : Bool)

/-- One look at the file system of the execution account, which has a home: without one
    `expanduser` raises. -/
structure AccountView where
  unreachable : Option String
  expanduser : String → String
  resolve : String → Resolution
  home : RealPath

/-- The looks one resolution takes, and the temporary directory of the server. -/
structure ScopeViews where
  declared : AccountView
  inventory : AccountView
  state : AccountView
  temporary : RealPath

/-- The body of the loop of `_canonical_directories`. -/
def canonical_directory (view : AccountView) (remote require_writable : Bool) (raw : String) :
    Except WriteScopeError String :=
  let candidate := view.expanduser raw
  if ¬ (PosixPath.ofString candidate).is_absolute then
    .error (.value_error s!"project repository root must be absolute: {raw}")
  else match view.resolve candidate with
    | .missing => .error (.value_error s!"project repository root is unavailable: {raw}")
    | .failed message =>
      -- `os.path.realpath` on the remote account answers, and no directory is there
      if remote then .error (.value_error s!"project repository root is unavailable: {raw}")
      else .error (.os_error message)
    | .found path is_dir writable =>
      if ¬ is_dir then .error (.value_error (
        if remote then s!"project repository root is unavailable: {raw}"
        else s!"project repository root is not a directory: {raw}"))
      else if require_writable ∧ ¬ writable then
        .error (.value_error s!"project repository root is not writable: {raw}")
      else .ok path.val.str

/-- SSH answers. -/
def require_reachable (view : AccountView) (remote : Bool) : Except WriteScopeError Unit :=
  match view.unreachable with
  | some message => refuse (remote = true) (.state_unavailable message)
  | none => .ok ()

/-- `_canonical_directories`; a path named twice is looked at once, with the same answer. -/
def canonical_directories (view : AccountView) (remote require_writable : Bool)
    (paths : List String) : Except WriteScopeError (List (String × String) × String) := do
  require_reachable view remote
  let canonical ← paths.mapM (fun raw =>
    (canonical_directory view remote require_writable raw).map (raw, ·))
  return (canonical, view.home.val.str)

/-- `canonical[raw]` -/
def canonical_item (canonical : List (String × String)) (raw : String) :
    Except WriteScopeError String :=
  require (canonical.lookup raw) (.key_error raw)

/-! ### Rejections -/

def research_name : String := ".research"

theorem research_component : IsComponent research_name := by decide

/-- `str(PurePosixPath(path) / ".research")` -/
def research_path (path : String) : String :=
  ((PosixPath.ofString path).child research_name research_component).str

/-- `_reject_broad_repository_root` -/
def reject_broad_repository_root (temporary : RealPath) (root account_home : String)
    (app_data_dir : Option RealPath) : Except WriteScopeError Unit := do
  let candidate := PosixPath.ofString root
  -- only these very directories: one that contains the home is not refused here
  refuse (candidate = PosixPath.ofString "/")
    (.value_error "the filesystem root cannot be a project repository write root")
  refuse (candidate = PosixPath.ofString account_home)
    (.value_error "the execution account home cannot be a project repository write root")
  refuse (candidate = PosixPath.ofString "/tmp" ∨ candidate = PosixPath.ofString "/private/tmp"
      ∨ candidate = temporary.val)
    (.value_error "a broad temporary directory cannot be a project repository write root")
  match app_data_dir with
  | none => pure ()
  | some data_root =>
    refuse (candidate = data_root.val ∨ data_root.val ∈ candidate.parents
        ∨ candidate ∈ data_root.val.parents)
      (.value_error "the RCP application data directory cannot be a repository write root")

/-- `_paths_overlap` -/
def paths_overlap (left right : String) : Prop :=
  let left_path := (PosixPath.ofString left).normalize
  let right_path := (PosixPath.ofString right).normalize
  left_path = right_path ∨ left_path ∈ right_path.parents ∨ right_path ∈ left_path.parents

instance (left right : String) : Decidable (paths_overlap left right) :=
  inferInstanceAs (Decidable (_ ∨ _ ∨ _))

/-- The key of a repository among all owners. -/
abbrev Owner := String × String × String × String

def RegisteredRepositoryRoot.owner (item : RegisteredRepositoryRoot) : Owner :=
  (item.project_id, item.repository_alias, item.machine, item.path)

def RepositoryConfig.owner (project_id : String) (r : RepositoryConfig) : Owner :=
  (project_id, r.repository_alias, r.machine, r.path)

/-- The body of the loop of `_reject_repository_ownership_overlap`. -/
def reject_owner (repository : RepositoryConfig) (project_id : String)
    (admitted_owners : List Owner) (registered_root : String)
    (canonical_inventory : List (String × String)) (owner : RegisteredRepositoryRoot) :
    Except WriteScopeError Unit := do
  if owner.owner ∈ admitted_owners then return ()
  let root ← canonical_item canonical_inventory owner.path
  let relation :=
    if owner.project_id ≠ project_id then "another project" else "an unadmitted repository"
  refuse (paths_overlap repository.path owner.path ∨ paths_overlap registered_root root)
    (.value_error (s!"repository {repr_str repository.repository_alias} overlaps {relation} "
      ++ s!"on this execution host: {owner.project_id}/{owner.repository_alias}"))

/-- `_reject_repository_ownership_overlap` -/
def reject_repository_ownership_overlap (repository : RepositoryConfig) (project_id : String)
    (admitted_owners : List Owner) (registered_root : String)
    (inventory : List RegisteredRepositoryRoot) (canonical_inventory : List (String × String)) :
    Except WriteScopeError Unit :=
  inventory.forM
    (reject_owner repository project_id admitted_owners registered_root canonical_inventory)

/-! ### Scopes -/

/-- A scope without its fingerprint. -/
structure ScopePayload where
  project_id : String
  execution_machine : String
  execution_host : String
  capability : AgentCapability
  stage_root : String
  workspace_root : String
  repositories : List WritableRepositoryRoot
  protected_write_paths : List String
  deriving DecidableEq, Repr

structure ProjectWriteScope extends ScopePayload where
  fingerprint : String
  deriving DecidableEq, Repr

/-- `(item.alias, item.machine, item.path)`, as tuples are ordered. -/
def WritableRepositoryRoot.key (item : WritableRepositoryRoot) : String ×ₗ String ×ₗ String :=
  toLex (item.repository_alias, toLex (item.machine, item.path))

namespace ProjectWriteScope

/-- `repository_roots` -/
def repository_roots (s : ProjectWriteScope) : List String := s.repositories.map (·.path)

/-- `writable_roots` -/
def writable_roots (s : ProjectWriteScope) : List String :=
  s.workspace_root :: s.repository_roots.filter (· ≠ s.workspace_root)

/-- `Field(min_length=1)`, and the two capabilities that have a scope. -/
def fields_valid (s : ProjectWriteScope) : Bool :=
  s.project_id ≠ "" && s.execution_machine ≠ "" && s.capability.work_like && s.stage_root ≠ ""
    && s.workspace_root ≠ "" && s.repositories.all (fun item =>
      item.repository_alias ≠ "" && item.machine ≠ "" && item.path ≠ "")

/-- `model_validate`: the fields, then `validate_canonical_scope`. -/
def validate_canonical_scope (sha : ScopePayload → String) (s : ProjectWriteScope) :
    Except WriteScopeError ProjectWriteScope := do
  let stage := PosixPath.ofString s.stage_root
  let workspace := PosixPath.ofString s.workspace_root
  let repository_keys := s.repositories.map WritableRepositoryRoot.key
  let paths := s.repositories.map (·.path)
  refuse (¬ s.fields_valid) (.value_error "write-scope fields are invalid")
  refuse (¬ stage.is_absolute ∨ ¬ workspace.is_absolute)
    (.value_error "write-scope stage paths must be absolute")
  refuse (workspace ≠ stage ∧ stage ∉ workspace.parents)
    (.value_error "write-scope workspace must be inside its exact task stage")
  refuse (repository_keys ≠ repository_keys.dedup.insertionSort (· ≤ ·))
    (.value_error "write-scope repositories must be sorted and unique")
  refuse (paths.any (fun path => !(PosixPath.ofString path).is_absolute))
    (.value_error "write-scope repository roots must be absolute")
  refuse (¬ paths.Nodup) (.value_error "write-scope repository roots must be exact and unique")
  refuse (s.protected_write_paths ≠ sorted_set s.protected_write_paths)
    (.value_error "protected write paths must be sorted and unique")
  refuse (s.protected_write_paths.any (fun path => !(PosixPath.ofString path).is_absolute))
    (.value_error "protected write paths must be absolute")
  refuse (s.fingerprint ≠ sha s.toScopePayload)
    (.value_error "write-scope fingerprint does not match its canonical roots")
  return s

end ProjectWriteScope

/-- The canonical order of a payload. -/
def ScopePayload.canonical (p : ScopePayload) : ScopePayload :=
  { p with
    repositories := p.repositories.insertionSort
      (fun a b => WritableRepositoryRoot.key a ≤ WritableRepositoryRoot.key b)
    protected_write_paths := sorted_set p.protected_write_paths }

/-- `ProjectWriteScope.create` -/
def ProjectWriteScope.create (sha : ScopePayload → String) (p : ScopePayload) :
    Except WriteScopeError ProjectWriteScope :=
  ProjectWriteScope.validate_canonical_scope sha
    { toScopePayload := p.canonical, fingerprint := sha p.canonical }

/-! ### `resolve_project_write_scope` -/

/-- The arguments of `resolve_project_write_scope`. -/
structure ScopeRequest where
  manifest : ProjectManifest
  project_id : String
  execution_machine : String
  capability : AgentCapability
  stage_root : String
  workspace_root : String
  admitted_aliases : List String
  repository_pointers : List RepositoryPointer
  remote_stage : Option RemoteRunStage
  app_data_dir : Option RealPath
  repository_inventory : List RegisteredRepositoryRoot

namespace ScopeRequest

variable (r : ScopeRequest)

/-- Whether the execution machine is another one. -/
def remote : Bool := r.remote_stage.isSome

/-- The checks on the request itself; its execution machine. -/
def require_machine : Except WriteScopeError MachineConfig := do
  refuse (¬ r.capability.work_like)
    (.value_error s!"capability {repr_str r.capability.name} has no project write scope")
  refuse (r.project_id = "") (.value_error "project write scope requires a durable project id")
  let machine ← require (r.manifest.machines.get? r.execution_machine)
    (.value_error s!"unknown write-scope execution machine: {r.execution_machine}")
  refuse (decide (machine.host ≠ "") ≠ r.remote)
    (.value_error "write-scope execution host does not match its task stage")
  refuse (r.remote_stage.any (fun stage => stage.host ≠ machine.host))
    (.value_error "write-scope remote stage belongs to a different execution host")
  return machine

/-- The admitted aliases, sorted. -/
def aliases : List String := sorted_set r.admitted_aliases

def require_aliases : Except WriteScopeError Unit := do
  refuse (r.aliases ≠ r.admitted_aliases.insertionSort (· ≤ ·))
    (.value_error "write-scope repository aliases must be sorted and unique")
  let unknown := sorted_diff r.aliases r.manifest.truth_scope
  refuse (unknown ≠ []) (.value_error
    s!"write scope names repositories outside this project: {repr_list unknown}")

/-- The loop over the pointers. -/
def add_pointer (pointers : Table RepositoryPointer) (pointer : RepositoryPointer) :
    Except WriteScopeError (Table RepositoryPointer) :=
  if pointers.contains pointer.repository_alias then .error (.value_error
    s!"duplicate repository pointer in write scope: {pointer.repository_alias}")
  else .ok (pointers.put pointer)

/-- The admitted repositories on the execution machine, in the order of their aliases. -/
def eligible : List RepositoryConfig :=
  (r.aliases.filterMap r.manifest.repositories.get?).filter (·.machine = r.execution_machine)

/-- The paths one eligible repository declares. -/
def pointer_paths (pointers : Table RepositoryPointer) (repository : RepositoryConfig) :
    Except WriteScopeError (List String) := do
  let pointer ← require (pointers.get? repository.repository_alias) (.value_error
    s!"write scope is missing repository pointer {repr_str repository.repository_alias}")
  refuse (pointer.machine ≠ repository.machine) (.value_error
    (s!"repository {repr_str repository.repository_alias} does not match its project execution "
      ++ "machine"))
  return [repository.path, pointer.path]

/-- A stage on another machine is the one RCP opened there. -/
def require_stage (canonical_stage canonical_workspace : String) : Except WriteScopeError Unit :=
  match r.remote_stage with
  | none => pure ()
  | some stage =>
    refuse (canonical_stage ≠ stage.root.str
        ∨ canonical_workspace ≠ (stage.root.child "workspace" (by decide)).str)
      (.value_error "remote write scope does not match its exact RCP task stage")

/-- The inventory of the execution host. -/
def execution_inventory (machine : MachineConfig) : List RegisteredRepositoryRoot :=
  r.repository_inventory.filter (·.execution_host = machine.host)

/-- The owners whose repositories this request may write. -/
def admitted_owners : List Owner := r.eligible.map (·.owner r.project_id)

/-- The body of the loop over the eligible repositories. -/
def admit_repository (views : ScopeViews) (inventory : List RegisteredRepositoryRoot)
    (pointers : Table RepositoryPointer) (canonical : List (String × String))
    (account_home : String) (canonical_inventory : List (String × String))
    (repository : RepositoryConfig) : Except WriteScopeError WritableRepositoryRoot := do
  let name := repr_str repository.repository_alias
  let pointer ← require (pointers.get? repository.repository_alias)
    (.key_error repository.repository_alias)
  let registered_root ← canonical_item canonical repository.path
  let pointer_root ← canonical_item canonical pointer.path
  -- the pointer of the launch leads where the registered path leads
  refuse (registered_root ≠ pointer_root)
    (.value_error s!"repository {name} no longer matches its registered project root")
  let ownership := inventory.filter (·.owner = repository.owner r.project_id)
  refuse (ownership.length ≠ 1)
    (.value_error s!"repository {name} is missing from the canonical project inventory")
  -- the second look may find another file system than the first
  let owned_root ← canonical_item canonical_inventory repository.path
  refuse (owned_root ≠ registered_root)
    (.value_error s!"repository {name} changed while its ownership was verified")
  reject_broad_repository_root views.temporary registered_root account_home
    (if r.remote then none else r.app_data_dir)
  reject_repository_ownership_overlap repository r.project_id r.admitted_owners registered_root
    inventory canonical_inventory
  refuse (repository.repository_alias = "" ∨ repository.machine = "" ∨ registered_root = "")
    (.value_error "writable repository root fields must not be empty")
  return ⟨repository.repository_alias, repository.machine, registered_root⟩

/-- The protection of the state directory, canonical when it can be reached. -/
def state_protection (view : AccountView) : Except WriteScopeError (List String) :=
  let declared := research_path r.manifest.state_repository.path
  match canonical_directories view r.remote false [declared] with
  | .ok (canonical, _) => (canonical_item canonical declared).map ([declared, ·])
  -- a state directory that is not there yet is protected under its declared path
  | .error (.value_error _) | .error (.os_error _) => .ok [declared]
  | .error e => .error e

end ScopeRequest

/-- `resolve_project_write_scope` -/
def resolve_project_write_scope (sha : ScopePayload → String) (views : ScopeViews)
    (r : ScopeRequest) : Except WriteScopeError ProjectWriteScope := do
  let machine ← r.require_machine
  r.require_aliases
  let pointers ← r.repository_pointers.foldlM ScopeRequest.add_pointer Table.empty
  let declared ← r.eligible.mapM (ScopeRequest.pointer_paths pointers)
  let (canonical, account_home) ← canonical_directories views.declared r.remote true
    (r.stage_root :: r.workspace_root :: declared.flatten)
  let canonical_stage ← canonical_item canonical r.stage_root
  let canonical_workspace ← canonical_item canonical r.workspace_root
  r.require_stage canonical_stage canonical_workspace
  let inventory := r.execution_inventory machine
  -- what other projects own need not be writable
  let (canonical_inventory, _) ← canonical_directories views.inventory r.remote false
    (inventory.map (·.path))
  let repositories ← r.eligible.mapM
    (r.admit_repository views inventory pointers canonical account_home canonical_inventory)
  let state ← r.state_protection views.state
  ProjectWriteScope.create sha {
    project_id := r.project_id
    execution_machine := r.execution_machine
    execution_host := machine.host
    capability := r.capability
    stage_root := canonical_stage
    workspace_root := canonical_workspace
    repositories := repositories
    protected_write_paths := repositories.map (research_path ·.path) ++ state }

/-! ### A laptop with two projects -/

/-- A file system without symbolic links where every directory is there and writable. -/
def plain_view : AccountView where
  unreachable := none
  expanduser raw := raw
  resolve raw :=
    if h : (PosixPath.ofString raw).IsReal then .found ⟨PosixPath.ofString raw, h⟩ true true
    else .missing
  home := ⟨PosixPath.ofString "/home/ada", by decide⟩

def plain_views : ScopeViews where
  declared := plain_view
  inventory := plain_view
  state := plain_view
  temporary := ⟨PosixPath.ofString "/var/tmp", by decide⟩

/-- Its fields one after the other, in the place of a digest. -/
def plain_sha (p : ScopePayload) : String :=
  p.project_id ++ "," ++ p.stage_root ++ "," ++ p.workspace_root

/-- A project with two repositories, the first of which holds its state. -/
def laptop_manifest (code data : String) : ProjectManifest where
  machines := ⟨[⟨"laptop", ""⟩], by decide⟩
  repositories := ⟨[⟨"code", "laptop", code⟩, ⟨"data", "laptop", data⟩],
    by simp [Keyed.key]⟩
  truth_scope := ["code", "data"]
  state_repository := ⟨"code", "laptop", code⟩
  machines_known := by simp [Table.keys, Keyed.key]
  scope_known := by simp [Table.keys, Keyed.key]
  state_known := by simp

/-- What one project owns on the laptop. -/
def laptop_roots (project_id code data : String) : List RegisteredRepositoryRoot :=
  [⟨project_id, "code", "laptop", "", code⟩, ⟨project_id, "data", "laptop", "", data⟩]

def laptop_inventory : List RegisteredRepositoryRoot :=
  laptop_roots "ants" "/work/ants" "/data/ants" ++ laptop_roots "bees" "/work/bees" "/data/bees"

/-- A request of one project for its first repository. -/
def laptop_request (project_id code data : String) : ScopeRequest where
  manifest := laptop_manifest code data
  project_id := project_id
  execution_machine := "laptop"
  capability := .work_auto
  stage_root := "/stage"
  workspace_root := "/stage/workspace"
  admitted_aliases := ["code"]
  repository_pointers := [⟨"code", "laptop", code⟩]
  remote_stage := none
  app_data_dir := some ⟨PosixPath.ofString "/home/ada/rcp", by decide⟩
  repository_inventory := laptop_inventory

/-- The scope it gets. -/
def laptop_scope (project_id code : String) : ProjectWriteScope where
  project_id := project_id
  execution_machine := "laptop"
  execution_host := ""
  capability := .work_auto
  stage_root := "/stage"
  workspace_root := "/stage/workspace"
  repositories := [⟨"code", "laptop", code⟩]
  protected_write_paths := [research_path code]
  fingerprint := project_id ++ "," ++ "/stage" ++ "," ++ "/stage/workspace"

theorem laptop_ants : resolve_project_write_scope plain_sha plain_views
    (laptop_request "ants" "/work/ants" "/data/ants") = .ok (laptop_scope "ants" "/work/ants") := by
  decide +kernel

theorem laptop_bees : resolve_project_write_scope plain_sha plain_views
    (laptop_request "bees" "/work/bees" "/data/bees") = .ok (laptop_scope "bees" "/work/bees") := by
  decide +kernel

end ResearchGraph
