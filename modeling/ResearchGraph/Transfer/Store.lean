import ResearchGraph.Transfer.Requests

/-! # The transfer tables of a space

    Every operation is one transaction. It reads the request together with its
    protected proof, refuses what does not fit, and writes the request under
    its next revision. Operations that find their work done return what is
    stored.
-/

namespace ResearchGraph

open Lib

inductive SpaceKind
  | personal
  | team
  deriving DecidableEq, Repr

/-! ### Rows -/

/-- A registered project; `retired_at` and its request are set together. -/
structure CatalogProject where
  project_id : String
  home_space_id : String
  locator : String
  name : String
  retired_at : Option String := none
  retired_transfer_request_id : Option String := none
  deriving DecidableEq, Repr

instance : Keyed CatalogProject String := ⟨CatalogProject.project_id⟩

inductive ProvisioningStatus
  | preparing
  | ready_for_review
  | completed
  deriving DecidableEq, Repr

structure ProvisioningRepository where
  repository_alias : String
  machine_alias : String
  identity : String
  resolved_path : Option String := none
  deriving DecidableEq, Repr

instance : Keyed ProvisioningRepository String := ⟨ProvisioningRepository.repository_alias⟩

structure ProvisioningRequest where
  request_id : String
  incoming_transfer : Bool
  status : ProvisioningStatus
  target_space_id : String
  authorized_by : AuthorizedHuman
  proposed_project_id : String
  repositories : Table ProvisioningRepository
  revision : Nat
  final_review_digest : Option String := none
  completed_at : Option String := none
  deriving DecidableEq

instance : Keyed ProvisioningRequest String := ⟨ProvisioningRequest.request_id⟩

inductive TransferUploadStatus
  | active
  | complete
  | consumed
  | invalidated
  deriving DecidableEq, Repr

structure TransferUpload where
  request_id : String
  project_id : String
  archive_sha256 : String
  archive_size_bytes : Nat
  lease_boundary_sha256 : String
  status : TransferUploadStatus
  completed_at : Option String := none
  deriving DecidableEq, Repr

instance : Keyed TransferUpload String := ⟨TransferUpload.request_id⟩

structure TransferImport where
  request_id : String
  project_id : String
  archive_manifest_sha256 : String
  target_manifest_sha256 : String
  operational_payload_sha256 : String
  publication_sha256 : Option String := none
  completed_at : Option String := none
  deriving DecidableEq, Repr

instance : Keyed TransferImport String := ⟨TransferImport.request_id⟩

/-- `ProjectTransferActivationReceipt`. -/
structure TransferActivation where
  target_request_id : String
  source_request_id : String
  project_id : String
  source_space_id : String
  target_space_id : String
  archive_sha256 : String
  source_fence_head : GraphHeadRef
  source_release_proof_sha256 : String
  target_activation_proof_sha256 : String
  upload : TransferUpload
  imported : TransferImport
  provisioning_revision : Nat
  provisioning_final_review_sha256 : String
  admitted_by : AuthorizedHuman
  registered_project : CatalogProject
  activated_at : String
  deriving DecidableEq, Repr

instance : Keyed TransferActivation String := ⟨TransferActivation.target_request_id⟩

/-- `ProjectTransferRestoreReentryReceipt`. -/
structure TransferReentry where
  target_request_id : String
  restored_revision : Nat
  provisioning_revision : Nat
  provisioning_final_review_sha256 : String
  confirmed_by : AuthorizedHuman
  replacement_lease_boundary_sha256 : String
  deriving DecidableEq, Repr

instance : Keyed TransferReentry (String × Nat) :=
  ⟨fun x => (x.target_request_id, x.restored_revision)⟩

structure SpaceStore where
  space_id : String
  space_kind : SpaceKind
  members : List String := []
  projects : Table CatalogProject := Table.empty
  seats : List (String × String) := []
  provisioning : Table ProvisioningRequest := Table.empty
  requests : Table TransferRequest := Table.empty
  proofs : Table TransferProof := Table.empty
  uploads : Table TransferUpload := Table.empty
  imports : Table TransferImport := Table.empty
  activations : Table TransferActivation := Table.empty
  reentries : Table TransferReentry := Table.empty

abbrev TransferResult (α : Type) := Except TransferError α

namespace SpaceStore

variable (sha : TransferDigests) (s : SpaceStore)

/-! ### Reading and writing a request -/

/-- `_project_transfer_record`: a stored payload is validated again. -/
def project_transfer_record (r : TransferRequest) : TransferResult TransferRequest :=
  match (do
    r.model_validate
    refuse (sha.configuration r.source_configuration ≠ r.source_configuration_sha256)
      (.value_error "stored transfer request columns do not match its payload")
    r.target_admission_receipt.elim (.ok ()) r.require_target_admission_matches
    r.link_receipt.elim (.ok ()) r.require_link_receipt_matches
    r.source_release_receipt.elim (.ok ()) (r.require_source_release_matches sha) :
      TransferResult Unit) with
  | .ok () => .ok r
  | .error _ => .error (.runtime_error "stored project transfer request is invalid")

/-- The commitment that the protected proof of a request must open. -/
def commitment (r : TransferRequest) : Option String :=
  match r.side with
  | .source => some r.source_release_proof_sha256
  | .target => r.target_activation_proof_sha256

/-- `_project_transfer_request_from_connection`. -/
def project_transfer_request_from_connection (request_id : String) :
    TransferResult TransferRequest := do
  let row ← require (s.requests.get? request_id) (.key_error request_id)
  let record ← project_transfer_record sha row
  let proof ← require (s.proofs.get? request_id)
    (.runtime_error "stored transfer request lost its protected proof")
  refuse (proof.kind ≠ record.side ∨ some proof.commitment_sha256 ≠ commitment record
      ∨ proof.state ≠ record.proof_state
      ∨ proof.acknowledgement_sha256 ≠ record.proof_acknowledgement_sha256)
    (.runtime_error "stored transfer proof does not match its public request state")
  pure record

/-- The protected row of a request. -/
def protected_proof (request_id : String) : TransferResult TransferProof :=
  require (s.proofs.get? request_id)
    (.runtime_error "transfer request lost its protected proof")

/-- `_updated_project_transfer_record` and `_replace_project_transfer_record`: the changed record
    takes the next revision and is validated. -/
def replace (changed : TransferRequest) : TransferResult (SpaceStore × TransferRequest) := do
  let updated := { changed with revision := changed.revision + 1 }
  updated.model_validate
  pure ({ s with requests := s.requests.put updated }, updated)

/-- The same together with the protected row. -/
def replace_with_proof (proof : TransferProof) (changed : TransferRequest) :
    TransferResult (SpaceStore × TransferRequest) :=
  { s with proofs := s.proofs.put proof }.replace changed

/-- `_require_transfer_space`. -/
def require_transfer_space (expected_kind : SpaceKind) (expected_space_id : String) :
    TransferResult Unit :=
  refuse (s.space_id ≠ expected_space_id ∨ s.space_kind ≠ expected_kind)
    (.value_error "project transfer requires this exact source or target space")

/-- `_require_transfer_actor`; `members` holds the users that are neither removed nor leaving. -/
def require_transfer_actor (actor : AuthorizedHuman) : TransferResult Unit :=
  refuse (actor.space_id ≠ s.space_id ∨ actor.user_id ∉ s.members)
    (.value_error "project transfer actor is not current in this exact space")

/-- `_insert_project_transfer_request`; a side holds one request for a project. -/
def insert_project_transfer_request (record : TransferRequest) (secret : List UInt8) :
    TransferResult SpaceStore := do
  refuse (secret.length ≠ 32 ∨ some (sha.secret secret) ≠ commitment record)
    (.value_error "transfer proof does not match its request commitment")
  refuse (s.requests.contains record.request_id
      ∨ s.requests.items.any (fun r => r.side = record.side ∧ r.project_id = record.project_id))
    (.value_error "the source project already has another transfer request")
  pure { s with
    requests := s.requests.put record
    proofs := s.proofs.put
      { request_id := record.request_id, kind := record.side,
        commitment_sha256 := sha.secret secret, secret := some secret } }

/-! ### The fence -/

/-- The phases in which a source project refuses new work. -/
def fencing (r : TransferRequest) : Bool :=
  r.side = .source
    && [TransferPhase.source_released, .source_fenced, .archive_bound, .cleanup_acknowledged,
      .completed].contains r.phase

/-- `_require_project_accepts_new_work`. -/
def require_project_accepts_new_work (project_id : String) : TransferResult Unit :=
  refuse (s.requests.items.any (fun r => fencing r && r.project_id = project_id))
    (.value_error
      "This project is moving to its admitted team space and cannot accept new work.")

/-! ### Creating and linking -/

/-- The parts of a request that a repeated creation must repeat. -/
def same_source_intent (a b : TransferRequest) : Bool :=
  a.request_id = b.request_id ∧ a.side = b.side ∧ a.project_id = b.project_id
    ∧ a.source_space_id = b.source_space_id ∧ a.target_space_id = b.target_space_id
    ∧ a.initiated_by = b.initiated_by ∧ a.source_configuration = b.source_configuration
    ∧ a.source_configuration_sha256 = b.source_configuration_sha256

def create_source_project_transfer_request (project_id target_space_id : String)
    (initiated_by : AuthorizedHuman) (configuration : TransferSourceConfiguration)
    (request_id : String) (secret : List UInt8) :
    TransferResult (SpaceStore × TransferRequest) := do
  let record : TransferRequest :=
    { request_id, side := .source, phase := .awaiting_link, project_id,
      source_space_id := s.space_id, target_space_id, initiated_by,
      source_configuration := configuration,
      source_configuration_sha256 := sha.configuration configuration,
      source_release_proof_sha256 := sha.secret secret }
  record.model_validate
  s.require_transfer_space .personal record.source_space_id
  s.require_transfer_actor initiated_by
  refuse ((s.projects.get? project_id).map (·.home_space_id) ≠ some record.source_space_id)
    (.value_error "source transfer project is stale or belongs to another space")
  -- a second call under the same id is a retry: it repeats the intent and writes nothing
  if s.requests.contains request_id then do
    let current ← s.project_transfer_request_from_connection sha request_id
    refuse (!same_source_intent current record)
      (.value_error "transfer request identity already names another source intent")
    pure (s, current)
  else do
    let t ← s.insert_project_transfer_request sha record secret
    pure (t, record)

/-- The parts that a repeated link must repeat. -/
def same_target_intent (a b : TransferRequest) : Bool :=
  same_source_intent a b ∧ a.linked_request_id = b.linked_request_id
    ∧ a.accepted_schema_generation = b.accepted_schema_generation
    ∧ a.accepted_archive_codec = b.accepted_archive_codec
    ∧ a.source_release_proof_sha256 = b.source_release_proof_sha256

/-- What the body of a target request names. -/
structure TargetLink where
  source_request_id : String
  source_project_id : String
  source_space_id : String
  initiated_by : AuthorizedHuman
  source_configuration : TransferSourceConfiguration
  source_configuration_sha256 : String
  source_release_proof_sha256 : String
  accepted_schema_generation : Nat
  accepted_archive_codec : String

def create_target_project_transfer_request (provisioning_request_id : String) (link : TargetLink)
    (secret : List UInt8) (now : String) : TransferResult (SpaceStore × TransferRequest) := do
  refuse (sha.configuration link.source_configuration ≠ link.source_configuration_sha256)
    (.value_error "source transfer configuration digest does not match its payload")
  refuse (link.accepted_schema_generation ≠ link.source_configuration.source_schema_generation)
    (.value_error "target does not accept the source transfer schema")
  refuse (link.accepted_archive_codec ∉ link.source_configuration.supported_archive_codecs)
    (.value_error "target selected an archive codec the source did not offer")
  s.require_transfer_space .team s.space_id
  s.require_transfer_actor link.initiated_by
  let provisioning ← require (s.provisioning.get? provisioning_request_id)
    (.key_error provisioning_request_id)
  refuse (!provisioning.incoming_transfer ∨ provisioning.target_space_id ≠ s.space_id
      ∨ provisioning.authorized_by ≠ link.initiated_by
      ∨ provisioning.proposed_project_id ≠ link.source_project_id)
    (.value_error "target transfer does not match its incoming provisioning request")
  let target_repositories : Table TransferRepositoryBinding :=
    (provisioning.repositories.items.insertionSort
      (fun a b => a.repository_alias ≤ b.repository_alias)).foldl
        (fun t x => t.put { repository_alias := x.repository_alias, identity := x.identity })
        Table.empty
  refuse (¬ (link.source_configuration.repositories.items.map
      (fun x => (x.repository_alias, x.identity))).Perm
      (target_repositories.items.map (fun x => (x.repository_alias, x.identity))))
    (.value_error "target transfer repositories do not match the source configuration")
  let receipt : TransferLinkReceipt :=
    { source_request_id := link.source_request_id, target_request_id := provisioning_request_id,
      project_id := link.source_project_id, source_space_id := link.source_space_id,
      target_space_id := s.space_id,
      source_configuration_sha256 := link.source_configuration_sha256, target_repositories,
      accepted_schema_generation := link.accepted_schema_generation,
      accepted_archive_codec := link.accepted_archive_codec,
      source_release_proof_sha256 := link.source_release_proof_sha256,
      target_activation_proof_sha256 := sha.secret secret, created_at := now }
  let record : TransferRequest :=
    { request_id := provisioning_request_id, side := .target, phase := .linked,
      linked_request_id := some link.source_request_id, project_id := link.source_project_id,
      source_space_id := link.source_space_id, target_space_id := s.space_id,
      initiated_by := link.initiated_by, source_configuration := link.source_configuration,
      source_configuration_sha256 := link.source_configuration_sha256,
      accepted_schema_generation := some link.accepted_schema_generation,
      accepted_archive_codec := some link.accepted_archive_codec,
      source_release_proof_sha256 := link.source_release_proof_sha256,
      target_activation_proof_sha256 := some (sha.secret secret),
      link_receipt := some receipt }
  -- a retry answers with the stored row, whose receipt keeps its first time
  if s.requests.contains provisioning_request_id then do
    let current ← s.project_transfer_request_from_connection sha provisioning_request_id
    refuse (!same_target_intent current record)
      (.value_error "target transfer request already names another source intent")
    refuse (current.link_receipt.map (·.target_repositories) ≠ some target_repositories)
      (.value_error "target transfer request already names other repositories")
    pure (s, current)
  else do
    receipt.validate
    record.model_validate
    let t ← s.insert_project_transfer_request sha record secret
    pure (t, record)

def link_source_project_transfer_request (request_id : String) (receipt : TransferLinkReceipt) :
    TransferResult (SpaceStore × TransferRequest) := do
  receipt.validate
  let current ← s.project_transfer_request_from_connection sha request_id
  refuse (current.side ≠ .source)
    (.value_error "only a source transfer request can accept a target link")
  current.require_link_receipt_matches receipt
  -- from here on the row has its link, and only that link is accepted again
  if current.phase ≠ .awaiting_link then do
    refuse (current.link_receipt ≠ some receipt)
      (.value_error "source transfer request is already linked differently")
    pure (s, current)
  else
    s.replace { current with
      phase := .linked
      linked_request_id := some receipt.target_request_id
      accepted_schema_generation := some receipt.accepted_schema_generation
      accepted_archive_codec := some receipt.accepted_archive_codec
      target_activation_proof_sha256 := some receipt.target_activation_proof_sha256
      link_receipt := some receipt }

/-! ### Admission and release -/

def record_target_project_transfer_admission (request_id : String) (admitted_by : AuthorizedHuman)
    (now : String) : TransferResult (SpaceStore × TransferRequest) := do
  let current ← s.project_transfer_request_from_connection sha request_id
  refuse (current.side ≠ .target)
    (.value_error "target admission belongs only to the target transfer request")
  s.require_transfer_actor admitted_by
  match current.target_admission_receipt with
  -- admitted before: of the receipt only the actor is compared
  | some receipt =>
    refuse (receipt.admitted_by ≠ admitted_by)
      (.value_error "target transfer admission already names another actor")
    pure (s, current)
  | none =>
    let provisioning ← require (s.provisioning.get? request_id) (.key_error request_id)
    let not_ready := TransferError.value_error "incoming transfer is not ready for target admission"
    refuse (!provisioning.incoming_transfer ∨ provisioning.status ≠ .ready_for_review) not_ready
    let review ← require provisioning.final_review_digest not_ready
    let source_request_id ← require current.linked_request_id not_ready
    let schema ← require current.accepted_schema_generation not_ready
    let codec ← require current.accepted_archive_codec not_ready
    let activation ← require current.target_activation_proof_sha256 not_ready
    -- a repository without a resolved path falls out of this list, which the length shows
    let resolved_paths := provisioning.repositories.items.filterMap (fun x =>
      x.resolved_path.map (fun path =>
        (⟨x.repository_alias, x.machine_alias, path⟩ : TransferResolvedPath)))
    refuse (resolved_paths.length ≠ provisioning.repositories.items.length)
      (.value_error "target admission requires every resolved central path")
    refuse (¬ (resolved_paths.map TransferResolvedPath.repository_alias).Perm
        (current.source_configuration.repositories.items.map
          TransferRepositorySource.repository_alias))
      (.value_error "target preparation repository aliases changed after linking")
    let receipt : TransferTargetAdmissionReceipt :=
      { source_request_id, target_request_id := current.request_id,
        project_id := current.project_id, source_space_id := current.source_space_id,
        target_space_id := current.target_space_id, admitted_by,
        source_configuration_sha256 := current.source_configuration_sha256,
        target_preparation_revision := provisioning.revision,
        target_preparation_sha256 := review, resolved_paths,
        accepted_schema_generation := schema, accepted_archive_codec := codec,
        source_release_proof_sha256 := current.source_release_proof_sha256,
        target_activation_proof_sha256 := activation, created_at := now }
    receipt.validate
    refuse (current.phase ≠ .linked)
      (.value_error "target transfer request is not awaiting admission")
    s.replace { current with
      phase := .target_admitted, target_admission_receipt := some receipt }

def accept_target_project_transfer_admission (request_id : String)
    (receipt : TransferTargetAdmissionReceipt) : TransferResult (SpaceStore × TransferRequest) := do
  receipt.validate
  let current ← s.project_transfer_request_from_connection sha request_id
  current.require_target_admission_matches receipt
  -- the receipt was taken in before: only the same one is accepted again
  if current.target_admission_receipt ≠ none then do
    refuse (current.target_admission_receipt ≠ some receipt)
      (.value_error "source request already stores another target admission")
    pure (s, current)
  else do
    refuse (current.side ≠ .source ∨ current.phase ≠ .linked)
      (.value_error "source transfer request is not awaiting target admission")
    s.replace { current with
      phase := .target_admitted, target_admission_receipt := some receipt }

def record_source_project_transfer_release (request_id : String) (released_by : AuthorizedHuman)
    (configuration : TransferSourceConfiguration) (source_head : GraphHeadRef) (now : String) :
    TransferResult (SpaceStore × TransferRequest) := do
  let current ← s.project_transfer_request_from_connection sha request_id
  s.require_transfer_actor released_by
  refuse (current.side ≠ .source)
    (.value_error "source release requires the linked target admission")
  let admission ← require current.target_admission_receipt
    (.value_error "source release requires the linked target admission")
  match current.source_release_receipt with
  -- released before: the boundary that is named again must be the stored one
  | some receipt =>
    refuse (receipt.released_by ≠ released_by
        ∨ receipt.source_configuration_sha256 ≠ sha.configuration configuration
        ∨ receipt.source_head ≠ source_head)
      (.value_error "source transfer release already binds another boundary")
    pure (s, current)
  | none =>
    refuse ((s.projects.get? current.project_id).map (·.home_space_id)
        ≠ some current.source_space_id)
      (.value_error "source transfer project is stale or already left this space")
    refuse (sha.configuration configuration ≠ current.source_configuration_sha256)
      (.value_error "source configuration changed after transfer preparation")
    let not_awaiting := TransferError.value_error "source transfer request is not awaiting release"
    let target_request_id ← require current.linked_request_id not_awaiting
    let schema ← require current.accepted_schema_generation not_awaiting
    let codec ← require current.accepted_archive_codec not_awaiting
    let activation ← require current.target_activation_proof_sha256 not_awaiting
    let receipt : TransferSourceReleaseReceipt :=
      { source_request_id := current.request_id, target_request_id,
        project_id := current.project_id, source_space_id := current.source_space_id,
        target_space_id := current.target_space_id, released_by,
        source_configuration_sha256 := current.source_configuration_sha256,
        target_admission_sha256 := sha.admission admission,
        target_preparation_revision := admission.target_preparation_revision,
        target_preparation_sha256 := admission.target_preparation_sha256, source_head,
        accepted_schema_generation := schema, accepted_archive_codec := codec,
        source_release_proof_sha256 := current.source_release_proof_sha256,
        target_activation_proof_sha256 := activation, created_at := now }
    receipt.validate
    refuse (current.phase ≠ .target_admitted) not_awaiting
    s.replace { current with
      phase := .source_released, source_release_receipt := some receipt }

def accept_source_project_transfer_release (request_id : String)
    (receipt : TransferSourceReleaseReceipt) : TransferResult (SpaceStore × TransferRequest) := do
  receipt.validate
  let current ← s.project_transfer_request_from_connection sha request_id
  current.require_source_release_matches sha receipt
  -- as above, for the release
  if current.source_release_receipt ≠ none then do
    refuse (current.source_release_receipt ≠ some receipt)
      (.value_error "target request already stores another source release")
    pure (s, current)
  else do
    refuse (current.side ≠ .target ∨ current.phase ≠ .target_admitted)
      (.value_error "target transfer request is not awaiting source release")
    s.replace { current with
      phase := .source_released, source_release_receipt := some receipt }

/-! ### Fence and archive -/

def mark_source_project_transfer_fenced (request_id : String) (source_head : GraphHeadRef) :
    TransferResult (SpaceStore × TransferRequest) := do
  let current ← s.project_transfer_request_from_connection sha request_id
  let no_advance :=
    TransferError.value_error "source fence does not advance the released canonical head"
  refuse (current.side ≠ .source) no_advance
  let release ← require current.source_release_receipt no_advance
  -- the move of the home is a Patch of its own, so the fence lies past the released head
  refuse (source_head.target ≠ .main ∨ source_head.revision ≤ release.source_head.revision)
    no_advance
  if current.phase = .source_fenced then do
    refuse (current.source_fence_head ≠ some source_head)
      (.value_error "source transfer already binds another fence head")
    pure (s, current)
  else do
    refuse (current.phase ≠ .source_released)
      (.value_error "source transfer request is not awaiting its fence")
    s.replace { current with phase := .source_fenced, source_fence_head := some source_head }

/-- What the protected row of a source must show before its archive is bound. -/
def require_exposed_release_proof (current : TransferRequest) : TransferResult Unit := do
  refuse (current.proof_state = .unexposed)
    (.value_error "sealed source archive must include the exposed release proof")
  let not_exposed :=
    TransferError.value_error "sealed source archive requires its exposed release proof"
  let proof ← require (s.proofs.get? current.request_id) not_exposed
  refuse (current.proof_state ≠ .exposed ∨ proof.state ≠ .exposed) not_exposed
  let secret ← require proof.secret not_exposed
  refuse (secret.length ≠ 32 ∨ sha.secret secret ≠ current.source_release_proof_sha256)
    (.runtime_error "stored source release proof does not match its commitment")

def bind_project_transfer_archive (request_id archive_sha256 : String) (archive_size_bytes : Nat)
    (source_fence_head : Option GraphHeadRef) : TransferResult (SpaceStore × TransferRequest) := do
  refuse (archive_size_bytes < 1) (.value_error "transfer archive size must be positive")
  let current ← s.project_transfer_request_from_connection sha request_id
  let requested_fence_head := source_fence_head.or current.source_fence_head
  -- bound before: digest, size and fence head must be repeated
  if current.archive_sha256 ≠ none then do
    refuse (current.archive_sha256 ≠ some archive_sha256
        ∨ current.archive_size_bytes ≠ some archive_size_bytes
        ∨ current.source_fence_head ≠ requested_fence_head)
      (.value_error "transfer request already binds another archive")
    pure (s, current)
  else do
    refuse (current.phase
        ≠ (match current.side with | .source => .source_fenced | .target => .source_released))
      (.value_error "transfer request is not ready to bind its archive")
    -- only a source puts its own release proof into the archive
    (match current.side with
      | .source => s.require_exposed_release_proof sha current
      | .target => .ok ())
    let not_fenced :=
      TransferError.value_error "transfer archive does not bind the fenced source head"
    let head ← require requested_fence_head not_fenced
    let release ← require current.source_release_receipt not_fenced
    refuse (head.target ≠ .main ∨ head.revision ≤ release.source_head.revision) not_fenced
    s.replace { current with
      phase := .archive_bound
      source_fence_head := some head
      archive_sha256 := some archive_sha256
      archive_size_bytes := some archive_size_bytes }

/-! ### Upload and import -/

/-- `_require_target_upload_request`. -/
def require_target_upload_request (current : TransferRequest) : TransferResult Unit :=
  raise_first
    [(current.side ≠ .target, .value_error "only a target transfer request may own an upload"),
     (current.phase = .operator_action_needed, .value_error
      "target transfer upload is unavailable until restore re-entry"),
     (current.phase ≠ .archive_bound, .value_error
      "target transfer must be archive-bound for upload"),
     (current.archive_sha256 = none ∨ current.archive_size_bytes = none, .runtime_error
      "archive-bound target transfer lost its archive metadata")]

/-- `_require_target_upload_matches`. -/
def require_target_upload_matches (current : TransferRequest) (upload : TransferUpload) :
    TransferResult Unit :=
  refuse (current.side ≠ .target ∨ upload.request_id ≠ current.request_id
      ∨ upload.project_id ≠ current.project_id
      ∨ current.archive_sha256 ≠ some upload.archive_sha256
      ∨ current.archive_size_bytes ≠ some upload.archive_size_bytes)
    (.runtime_error "stored project transfer upload does not match its target request")

/-- An upload that is done, of a request that has not been frozen. -/
def upload_settled (current : TransferRequest) (upload : TransferUpload) : Bool :=
  (upload.status = .complete ∨ upload.status = .consumed)
    && [TransferPhase.archive_bound, .target_activated, .cleanup_acknowledged,
      .completed].contains current.phase

/-- The boundary of a new lease is a fresh token. -/
def begin_target_project_transfer_upload (request_id lease_boundary : String) :
    TransferResult (SpaceStore × TransferUpload) := do
  let current ← s.project_transfer_request_from_connection sha request_id
  let existing := s.uploads.get? request_id
  existing.elim (.ok ()) (require_target_upload_matches current)
  -- a finished upload is answered before the request is checked again
  match existing.filter (upload_settled current) with
  | some upload => pure (s, upload)
  | none =>
    require_target_upload_request current
    match existing.filter (fun upload => upload.status = .active) with
    | some upload => pure (s, upload)
    | none =>
      -- what is left is no upload at all, or one that a restore has invalidated
      refuse (existing.any (fun upload => upload.status ≠ .invalidated))
        (.runtime_error "stored project transfer upload state is invalid")
      let lost := TransferError.runtime_error
        "archive-bound target transfer lost its archive metadata"
      let archive_sha256 ← require current.archive_sha256 lost
      let archive_size_bytes ← require current.archive_size_bytes lost
      let replacement : TransferUpload :=
        { request_id := current.request_id, project_id := current.project_id, archive_sha256,
          archive_size_bytes, lease_boundary_sha256 := lease_boundary, status := .active }
      pure ({ s with uploads := s.uploads.put replacement }, replacement)

def complete_target_project_transfer_upload (request_id lease_boundary now : String) :
    TransferResult (SpaceStore × TransferUpload) := do
  let current ← s.project_transfer_request_from_connection sha request_id
  let existing ← require (s.uploads.get? request_id) (.key_error request_id)
  require_target_upload_matches current existing
  -- completed before: the lease must be the one it was completed under
  if upload_settled current existing then do
    refuse (existing.lease_boundary_sha256 ≠ lease_boundary)
      (.value_error "project transfer upload already has another lease boundary")
    pure (s, existing)
  else do
    require_target_upload_request current
    refuse (existing.status ≠ .active)
      (.value_error "project transfer upload lease is no longer active")
    refuse (existing.lease_boundary_sha256 ≠ lease_boundary)
      (.value_error "project transfer upload lease boundary does not match")
    let updated := { existing with status := .complete, completed_at := some now }
    pure ({ s with uploads := s.uploads.put updated }, updated)

/-- `_validate_transfer_import_boundary`. -/
def validate_transfer_import_boundary (current : TransferRequest) (project_id : String) :
    TransferResult Unit := do
  refuse (current.side ≠ .target ∨ current.phase ≠ .archive_bound
      ∨ current.project_id ≠ project_id)
    (.value_error "target transfer must be archive-bound for database import")
  let provisioning ← require (s.provisioning.get? current.request_id)
    (.value_error "linked incoming provisioning request is missing")
  refuse (!provisioning.incoming_transfer ∨ provisioning.status ≠ .ready_for_review
      ∨ provisioning.proposed_project_id ≠ project_id)
    (.value_error "linked incoming provisioning request is not ready for review")

/-- The import row of `begin_project_transfer_import`; a repeated import must name the same
    digests. -/
def begin_project_transfer_import (imported : TransferImport) :
    TransferResult (SpaceStore × TransferImport) := do
  let current ← s.project_transfer_request_from_connection sha imported.request_id
  s.validate_transfer_import_boundary current imported.project_id
  match s.imports.get? imported.request_id with
  | some existing =>
    refuse (existing.project_id ≠ imported.project_id
        ∨ existing.archive_manifest_sha256 ≠ imported.archive_manifest_sha256
        ∨ existing.target_manifest_sha256 ≠ imported.target_manifest_sha256
        ∨ existing.operational_payload_sha256 ≠ imported.operational_payload_sha256)
      (.value_error "project transfer import already binds another archive")
    pure (s, existing)
  | none =>
    let row := { imported with publication_sha256 := none, completed_at := none }
    pure ({ s with imports := s.imports.put row }, row)

def complete_project_transfer_import (request_id publication_sha256 now : String) :
    TransferResult (SpaceStore × TransferImport) := do
  let current ← require (s.imports.get? request_id) (.key_error request_id)
  if current.completed_at ≠ none then do
    refuse (current.publication_sha256 ≠ some publication_sha256)
      (.value_error "project transfer completion already binds another publication")
    pure (s, current)
  else do
    let target_request ← s.project_transfer_request_from_connection sha request_id
    s.validate_transfer_import_boundary target_request current.project_id
    let updated :=
      { current with publication_sha256 := some publication_sha256, completed_at := some now }
    pure ({ s with imports := s.imports.put updated }, updated)

/-! ### Activation -/

/-- `_validate_target_activation_receipt`. -/
def validate_target_activation_receipt (current : TransferRequest)
    (receipt : TransferActivation) : TransferResult Unit := do
  refuse (current.side ≠ .target ∨ current.rank < 6
      ∨ current.linked_request_id ≠ some receipt.source_request_id
      ∨ current.request_id ≠ receipt.target_request_id
      ∨ current.project_id ≠ receipt.project_id
      ∨ current.source_space_id ≠ receipt.source_space_id
      ∨ current.target_space_id ≠ receipt.target_space_id
      ∨ current.archive_sha256 ≠ some receipt.archive_sha256
      ∨ current.source_fence_head ≠ some receipt.source_fence_head
      ∨ current.source_release_proof_sha256 ≠ receipt.source_release_proof_sha256
      ∨ current.target_activation_proof_sha256 ≠ some receipt.target_activation_proof_sha256
      ∨ current.target_admission_receipt.map (·.admitted_by) ≠ some receipt.admitted_by)
    (.runtime_error "stored target activation does not match its transfer request")
  let upload ← require (s.uploads.get? current.request_id)
    (.runtime_error "stored target activation lost its upload receipt")
  refuse (upload.status ≠ .consumed ∨ upload.completed_at = none
      ∨ upload.lease_boundary_sha256 ≠ receipt.upload.lease_boundary_sha256
      ∨ upload.archive_sha256 ≠ receipt.upload.archive_sha256
      ∨ upload.archive_size_bytes ≠ receipt.upload.archive_size_bytes
      ∨ upload.completed_at ≠ receipt.upload.completed_at)
    (.runtime_error "stored target activation does not match its upload receipt")
  let imported ← require (s.imports.get? current.request_id)
    (.runtime_error "stored target activation lost its import receipt")
  refuse (imported.completed_at = none ∨ imported ≠ receipt.imported)
    (.runtime_error "stored target activation does not match its import receipt")
  let provisioning ← require (s.provisioning.get? current.request_id)
    (.runtime_error "stored target activation lost its provisioning receipt")
  refuse (provisioning.status ≠ .completed
      ∨ provisioning.revision ≠ receipt.provisioning_revision
      ∨ provisioning.final_review_digest ≠ some receipt.provisioning_final_review_sha256
      ∨ provisioning.completed_at ≠ some receipt.activated_at)
    (.runtime_error "stored target activation does not match completed provisioning")
  refuse ((s.projects.get? current.project_id).map (·.home_space_id)
      ≠ some receipt.registered_project.home_space_id)
    (.runtime_error "stored target activation lost its registered target project")

/-- `_latest_project_transfer_restore_reentry`. -/
def latest_restore_reentry (request_id : String) : Option TransferReentry :=
  (s.reentries.items.filter (fun x => x.target_request_id = request_id)).foldl
    (fun best x => if best.any (fun y => x.restored_revision ≤ y.restored_revision) then best
      else some x) none

/-- The reviewed boundary an activation must name: that of the admission, or of the latest
    re-entry after a restore. -/
def reviewed_boundary (current : TransferRequest) (admission : TransferTargetAdmissionReceipt) :
    Nat × String × Bool :=
  match s.latest_restore_reentry current.request_id with
  | none => (admission.target_preparation_revision, admission.target_preparation_sha256, true)
  | some reentry => (reentry.provisioning_revision, reentry.provisioning_final_review_sha256,
      reentry.confirmed_by = admission.admitted_by)

def activate_target_project_transfer (request_id : String) (project : CatalogProject)
    (expected_provisioning_revision : Nat) (expected_final_review_digest now : String) :
    TransferResult (SpaceStore × TransferActivation) := do
  let current ← s.project_transfer_request_from_connection sha request_id
  match s.activations.get? request_id with
  -- activated before: the receipt still fits, and the same boundary is named
  | some existing =>
    s.validate_target_activation_receipt current existing
    refuse (existing.provisioning_revision ≠ expected_provisioning_revision + 1
        ∨ existing.provisioning_final_review_sha256 ≠ expected_final_review_digest
        ∨ existing.registered_project ≠ project)
      (.value_error "target activation retry does not match its committed boundary")
    pure (s, existing)
  | none =>
    refuse (current.side ≠ .target ∨ current.phase ≠ .archive_bound)
      (.value_error "target transfer request is not ready to activate")
    let lost := TransferError.runtime_error
      "archive-bound target transfer lost activation authority"
    let source_request_id ← require current.linked_request_id lost
    let source_fence_head ← require current.source_fence_head lost
    let archive_sha256 ← require current.archive_sha256 lost
    let activation_sha256 ← require current.target_activation_proof_sha256 lost
    let admission ← require current.target_admission_receipt lost
    refuse (current.source_release_receipt = none) lost
    s.require_transfer_actor admission.admitted_by
    refuse (project.project_id ≠ current.project_id
        ∨ project.home_space_id ≠ current.target_space_id
        ∨ project.retired_at ≠ none ∨ project.retired_transfer_request_id ≠ none)
      (.value_error "target activation project does not match its admitted home")
    let provisioning ← require (s.provisioning.get? request_id)
      (.runtime_error "target transfer lost its provisioning request")
    let boundary := s.reviewed_boundary current admission
    refuse (!provisioning.incoming_transfer ∨ provisioning.status ≠ .ready_for_review
        ∨ provisioning.target_space_id ≠ current.target_space_id
        ∨ provisioning.proposed_project_id ≠ current.project_id
        ∨ provisioning.revision ≠ expected_provisioning_revision
        ∨ provisioning.final_review_digest ≠ some expected_final_review_digest
        ∨ boundary.1 ≠ expected_provisioning_revision
        ∨ boundary.2.1 ≠ expected_final_review_digest ∨ !boundary.2.2)
      (.value_error "reviewed transfer provisioning changed before activation")
    let upload ← require (s.uploads.get? request_id)
      (.value_error "target activation requires its completed upload")
    require_target_upload_matches current upload
    refuse (upload.status ≠ .complete ∨ upload.completed_at = none)
      (.value_error "target activation requires its completed upload")
    let imported ← require (s.imports.get? request_id)
      (.value_error "target activation requires its completed import")
    refuse (imported.completed_at = none ∨ imported.project_id ≠ current.project_id)
      (.value_error "target activation requires its completed import")
    refuse (s.projects.items.any (fun p =>
        p.project_id = current.project_id ∨ p.locator = project.locator))
      (.value_error "target activation project is already registered")
    refuse (s.seats.any (fun seat => seat.1 = current.project_id))
      (.value_error "target activation project already has a member seat")
    let activation : TransferActivation :=
      { target_request_id := current.request_id, source_request_id,
        project_id := current.project_id, source_space_id := current.source_space_id,
        target_space_id := current.target_space_id, archive_sha256, source_fence_head,
        source_release_proof_sha256 := current.source_release_proof_sha256,
        target_activation_proof_sha256 := activation_sha256, upload, imported,
        provisioning_revision := provisioning.revision + 1,
        provisioning_final_review_sha256 := expected_final_review_digest,
        admitted_by := admission.admitted_by, registered_project := project,
        activated_at := now }
    -- the project, its seat, the preparation and the upload change with the request or not at all
    let registered := { s with
      projects := s.projects.put project
      seats := s.seats ++ [(current.project_id, admission.admitted_by.user_id)]
      provisioning := s.provisioning.put { provisioning with
        status := .completed
        revision := provisioning.revision + 1
        completed_at := some now }
      uploads := s.uploads.put { upload with status := .consumed }
      activations := s.activations.put activation }
    let (t, _) ← registered.replace { current with phase := .target_activated }
    pure (t, activation)

/-! ### Proofs -/

def expose_project_transfer_proof (request_id : String) :
    TransferResult (SpaceStore × List UInt8) := do
  let current ← s.project_transfer_request_from_connection sha request_id
  refuse (current.proof_state = .consumed) (.value_error "transfer proof was already consumed")
  refuse (!(match current.side with
      | .source => [TransferPhase.source_fenced, .archive_bound]
      | .target => [TransferPhase.target_activated, .cleanup_acknowledged, .completed]).contains
        current.phase)
    (.value_error "transfer proof is not exposed at this protocol boundary")
  let proof ← s.protected_proof request_id
  refuse (proof.state = .consumed) (.value_error "transfer proof was already consumed")
  let secret ← require proof.secret (.value_error "transfer proof was already consumed")
  refuse (secret.length ≠ 32 ∨ sha.secret secret ≠ proof.commitment_sha256)
    (.runtime_error "stored transfer proof does not match its commitment")
  -- shown before: the secret is read again and nothing is written
  if proof.state = .unexposed then do
    let (t, _) ← s.replace_with_proof { proof with state := .exposed }
      { current with proof_state := .exposed }
    pure (t, secret)
  else
    pure (s, secret)

def verify_target_project_transfer_activation (request_id : String) (proof : List UInt8) :
    TransferResult (SpaceStore × TransferCleanupAcknowledgment) := do
  refuse (proof.length ≠ 32) (.value_error "target activation proof must be exactly 32 bytes")
  let current ← s.project_transfer_request_from_connection sha request_id
  let mismatch := TransferError.value_error
    "target activation proof does not match this source transfer"
  refuse (current.side ≠ .source
      ∨ !([TransferPhase.archive_bound, .cleanup_acknowledged, .completed].contains current.phase)
      ∨ current.target_activation_proof_sha256 ≠ some (sha.secret proof)) mismatch
  let target_request_id ← require current.linked_request_id mismatch
  let source_fence_head ← require current.source_fence_head mismatch
  let archive_sha256 ← require current.archive_sha256 mismatch
  let acknowledgment : TransferCleanupAcknowledgment :=
    { source_request_id := current.request_id, target_request_id,
      project_id := current.project_id, source_space_id := current.source_space_id,
      target_space_id := current.target_space_id,
      source_release_proof_sha256 := current.source_release_proof_sha256,
      target_activation_proof_sha256 := sha.secret proof, archive_sha256, source_fence_head }
  acknowledgment.validate
  let stored ← s.protected_proof request_id
  -- verified before, possibly consumed since: the digest still tells the boundaries apart
  if stored.state.verified then do
    refuse (stored.acknowledgement_sha256 ≠ some (sha.acknowledgment acknowledgment))
      (.value_error "source transfer already verified another target boundary")
    pure (s, acknowledgment)
  else do
    refuse (stored.state ≠ .exposed ∨ current.phase ≠ .archive_bound)
      (.value_error "source transfer proof is not ready for target verification")
    let (t, _) ← s.replace_with_proof
      { stored with
        state := .acknowledged
        acknowledgement_sha256 := some (sha.acknowledgment acknowledgment) }
      { current with
        proof_state := .acknowledged
        proof_acknowledgement_sha256 := some (sha.acknowledgment acknowledgment) }
    pure (t, acknowledgment)

def accept_project_transfer_cleanup_acknowledgment (request_id : String)
    (acknowledgment : TransferCleanupAcknowledgment) (accepted_by : AuthorizedHuman) :
    TransferResult (SpaceStore × TransferRequest) := do
  acknowledgment.validate
  let current ← s.project_transfer_request_from_connection sha request_id
  s.require_transfer_actor accepted_by
  current.require_cleanup_acknowledgment_matches acknowledgment
  refuse (current.target_admission_receipt.map (·.admitted_by) ≠ some accepted_by)
    (.value_error "only the target confirmer may accept transfer cleanup")
  let stored ← s.protected_proof request_id
  -- the acknowledgment was taken in before
  if current.phase = .completed then do
    refuse (current.proof_state ≠ .consumed ∨ stored.state ≠ .consumed
        ∨ stored.acknowledgement_sha256 ≠ some (sha.acknowledgment acknowledgment))
      (.value_error "completed transfer has another cleanup acknowledgment")
    pure (s, current)
  else do
    refuse (current.phase ≠ .target_activated ∨ current.proof_state ≠ .exposed)
      (.value_error "target transfer is not ready for cleanup")
    s.replace_with_proof
      { stored with
        state := .consumed
        acknowledgement_sha256 := some (sha.acknowledgment acknowledgment)
        secret := none }
      { current with
        phase := .completed
        proof_state := .consumed
        proof_acknowledgement_sha256 := some (sha.acknowledgment acknowledgment) }

/-- The phase in which each side may acknowledge. -/
def acknowledging_phase : TransferSide → TransferPhase
  | .source => .archive_bound
  | .target => .target_activated

def consume_project_transfer_proof (request_id acknowledgement_sha256 : String) :
    TransferResult (SpaceStore × TransferRequest) := do
  let current ← s.project_transfer_request_from_connection sha request_id
  let stored ← s.protected_proof request_id
  refuse (stored.acknowledgement_sha256 ≠ some acknowledgement_sha256)
    (.value_error "transfer proof acknowledgment does not match")
  -- the secret is gone; the digest was compared above all the same
  if stored.state = .consumed then
    pure (s, current)
  else do
    refuse (stored.state ≠ .acknowledged)
      (.value_error "transfer proof must be acknowledged before consumption")
    refuse (current.phase ≠ .cleanup_acknowledged)
      (.value_error "transfer proof cannot be consumed before cleanup acknowledgment")
    s.replace_with_proof { stored with state := .consumed, secret := none }
      { current with proof_state := .consumed }

def acknowledge_project_transfer_cleanup (request_id : String) :
    TransferResult (SpaceStore × TransferRequest) := do
  let current ← s.project_transfer_request_from_connection sha request_id
  if current.phase = .cleanup_acknowledged ∨ current.phase = .completed then
    pure (s, current)
  else do
    refuse (current.phase ≠ acknowledging_phase current.side ∨ current.proof_state ≠ .acknowledged)
      (.value_error "transfer cleanup cannot be acknowledged at this boundary")
    s.replace { current with phase := .cleanup_acknowledged }

def complete_project_transfer_request (request_id : String) :
    TransferResult (SpaceStore × TransferRequest) := do
  let current ← s.project_transfer_request_from_connection sha request_id
  if current.phase = .completed then
    pure (s, current)
  else do
    refuse (current.phase ≠ .cleanup_acknowledged ∨ current.proof_state ≠ .consumed)
      (.value_error "transfer request cannot complete before proof consumption")
    s.replace { current with phase := .completed }

/-! ### Retirement -/

def retire_source_project_transfer (request_id now : String) :
    TransferResult (SpaceStore × TransferRequest) := do
  let current ← s.project_transfer_request_from_connection sha request_id
  refuse (current.side ≠ .source
      ∨ !([TransferPhase.cleanup_acknowledged, .completed].contains current.phase)
      ∨ !current.proof_state.verified)
    (.value_error "source transfer is not ready to retire its catalog entry")
  let project ← require (s.projects.get? current.project_id)
    (.runtime_error "source transfer lost its retained catalog receipt")
  -- a project retired by this very request is a retry
  if project.retired_transfer_request_id ≠ none then do
    refuse (project.retired_transfer_request_id ≠ some request_id ∨ project.retired_at = none)
      (.value_error "source project was retired by another operation")
    pure (s, current)
  else do
    refuse (project.retired_at ≠ none)
      (.value_error "source project has an unbound retirement marker")
    refuse (project.home_space_id ≠ current.source_space_id)
      (.value_error "source catalog entry no longer belongs to this transfer")
    pure ({ s with
      projects := s.projects.put { project with
        retired_at := some now, retired_transfer_request_id := some request_id } }, current)

/-! ### Restore -/

/-- `_invalidate_project_transfer_upload`. -/
def invalidate_project_transfer_upload (current : TransferRequest) :
    TransferResult SpaceStore := do
  match s.uploads.get? current.request_id with
  | none => pure s
  | some upload =>
    require_target_upload_matches current upload
    -- an activated import keeps its upload
    if upload.status = .invalidated ∨ upload.status = .consumed then
      pure s
    else
      pure { s with
        uploads := s.uploads.put { upload with status := .invalidated, completed_at := none } }

/-- One row of `detach_project_transfers_for_restore`. -/
def detach_project_transfer (diagnostic : String) (request_id : String) :
    TransferResult SpaceStore := do
  let current ← s.project_transfer_request_from_connection sha request_id
  let t ← s.invalidate_project_transfer_upload current
  if current.phase = .operator_action_needed ∧ current.restore_diagnostic = some diagnostic then
    pure t
  else do
    let (u, _) ← t.replace { current with
      phase := .operator_action_needed
      restore_resume_phase := some current.effective_phase
      restore_diagnostic := some diagnostic }
    pure u

/-- `detach_project_transfers_for_restore`: every unfinished target, in the order of the ids. -/
def detach_project_transfers_for_restore (diagnostic : String) : TransferResult SpaceStore :=
  (((s.requests.items.filter (fun r => r.side = .target ∧ r.phase ≠ .completed)).map
    (·.request_id)).mergeSort (· ≤ ·)).foldlM
    (fun t request_id => t.detach_project_transfer sha diagnostic request_id) s

def reenter_restored_target_project_transfer (request_id : String)
    (expected_restored_revision : Nat) (expected_resume_phase : TransferPhase)
    (expected_final_review_digest : String) (confirmed_by : AuthorizedHuman)
    (lease_boundary : String) : TransferResult (SpaceStore × TransferRequest) := do
  refuse (expected_resume_phase ≠ .archive_bound)
    (.value_error "restored target import can resume only its archive-bound phase")
  let current ← s.project_transfer_request_from_connection sha request_id
  let wrong_confirmer := TransferError.value_error
    "restored target transfer requires its exact confirmer"
  let admission ← require current.target_admission_receipt wrong_confirmer
  refuse (current.side ≠ .target ∨ admission.admitted_by.space_id ≠ confirmed_by.space_id
      ∨ admission.admitted_by.user_id ≠ confirmed_by.user_id) wrong_confirmer
  s.require_transfer_actor confirmed_by
  let provisioning ← require (s.provisioning.get? request_id)
    (.runtime_error "restored target transfer lost its provisioning request")
  refuse (!provisioning.incoming_transfer ∨ provisioning.status ≠ .ready_for_review
      ∨ provisioning.target_space_id ≠ current.target_space_id
      ∨ provisioning.proposed_project_id ≠ current.project_id
      ∨ provisioning.final_review_digest ≠ some expected_final_review_digest)
    (.value_error "restored transfer provisioning is no longer ready for import")
  let upload ← require (s.uploads.get? request_id)
    (.value_error "restored target transfer has no invalidated upload to replace")
  require_target_upload_matches current upload
  match s.reentries.get? (request_id, expected_restored_revision) with
  -- entered again before: nothing may have moved since
  | some prior =>
    refuse (current.phase ≠ .archive_bound ∨ current.revision ≠ expected_restored_revision + 1
        ∨ prior.provisioning_revision ≠ provisioning.revision
        ∨ prior.provisioning_final_review_sha256 ≠ expected_final_review_digest
        ∨ prior.confirmed_by ≠ admission.admitted_by
        ∨ ¬ (upload.status = .active ∨ upload.status = .complete)
        ∨ upload.lease_boundary_sha256 ≠ prior.replacement_lease_boundary_sha256)
      (.runtime_error "stored restored-transfer re-entry does not match its current boundary")
    pure (s, current)
  | none =>
    refuse (current.phase ≠ .operator_action_needed
        ∨ current.revision ≠ expected_restored_revision
        ∨ current.restore_resume_phase ≠ some expected_resume_phase)
      (.value_error "restored target transfer changed before re-entry")
    refuse (upload.status ≠ .invalidated)
      (.value_error "restored target transfer upload is not invalidated")
    let lost := TransferError.runtime_error
      "restored archive-bound transfer lost its archive metadata"
    let archive_sha256 ← require current.archive_sha256 lost
    let archive_size_bytes ← require current.archive_size_bytes lost
    let t := { s with
      uploads := s.uploads.put { upload with
        archive_sha256, archive_size_bytes, lease_boundary_sha256 := lease_boundary
        status := .active, completed_at := none }
      reentries := s.reentries.put
        { target_request_id := request_id, restored_revision := current.revision,
          provisioning_revision := provisioning.revision,
          provisioning_final_review_sha256 := expected_final_review_digest,
          confirmed_by := admission.admitted_by,
          replacement_lease_boundary_sha256 := lease_boundary } }
    t.replace { current with
      phase := .archive_bound, restore_resume_phase := none, restore_diagnostic := none }

end SpaceStore

end ResearchGraph
