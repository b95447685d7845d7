import ResearchGraph.State
import ResearchGraph.Lib.Table
import ResearchGraph.Lib.Saga

/-! # Transfer requests

    A project moves from a personal space to a team space. Each space keeps a
    request row of its own, next to a protected secret whose digest it has
    published. The rows learn of each other through receipts: the link, the
    admission of the target, the release of the source, the cleanup
    acknowledgment. A row is validated whenever it is written and whenever it
    is read.
-/

namespace ResearchGraph

open Lib

inductive TransferError
  | key_error (key : String)
  | value_error (message : String)
  | runtime_error (message : String)
  | http_error (status : Nat) (detail : String)
  deriving DecidableEq, Repr

inductive TransferSide
  | source
  | target
  deriving DecidableEq, Repr

inductive TransferPhase
  | awaiting_link
  | linked
  | target_admitted
  | source_released
  | source_fenced
  | archive_bound
  | target_activated
  | cleanup_acknowledged
  | completed
  | operator_action_needed
  deriving DecidableEq, Repr

/-- `_PROJECT_TRANSFER_PHASE_RANK`. -/
def TransferPhase.rank : TransferPhase → Nat
  | .awaiting_link => 0
  | .linked => 1
  | .target_admitted => 2
  | .source_released => 3
  | .source_fenced => 4
  | .archive_bound => 5
  | .target_activated => 6
  | .cleanup_acknowledged => 7
  | .completed => 8
  | .operator_action_needed => 9

/-- `_PROJECT_TRANSFER_RESTORABLE_TARGET_PHASES`. -/
def TransferPhase.restorable : TransferPhase → Bool
  | .linked | .target_admitted | .source_released | .archive_bound | .target_activated
  | .cleanup_acknowledged => true
  | _ => false

inductive TransferProofState
  | unexposed
  | exposed
  | acknowledged
  | consumed
  deriving DecidableEq, Repr

/-! ### Configuration and receipts -/

structure TransferRepositorySource where
  repository_alias : String
  identity : String
  machine_alias : String
  deriving DecidableEq, Repr

instance : Keyed TransferRepositorySource String := ⟨TransferRepositorySource.repository_alias⟩

structure TransferRepositoryBinding where
  repository_alias : String
  identity : String
  deriving DecidableEq, Repr

instance : Keyed TransferRepositoryBinding String := ⟨TransferRepositoryBinding.repository_alias⟩

structure TransferSourceConfiguration where
  source_rcp_version : String
  source_schema_generation : Nat
  supported_archive_codecs : List String
  machine_aliases : List String
  repositories : Table TransferRepositorySource
  state_repository : String
  project_truth_scope : List String
  default_run_truth_scope : List String
  source_manifest_sha256 : String
  deriving DecidableEq

structure TransferLinkReceipt where
  source_request_id : String
  target_request_id : String
  project_id : String
  source_space_id : String
  target_space_id : String
  source_configuration_sha256 : String
  target_repositories : Table TransferRepositoryBinding
  accepted_schema_generation : Nat
  accepted_archive_codec : String
  source_release_proof_sha256 : String
  target_activation_proof_sha256 : String
  created_at : String
  deriving DecidableEq

structure TransferResolvedPath where
  repository_alias : String
  machine_alias : String
  path : String
  deriving DecidableEq, Repr

structure TransferTargetAdmissionReceipt where
  source_request_id : String
  target_request_id : String
  project_id : String
  source_space_id : String
  target_space_id : String
  admitted_by : AuthorizedHuman
  source_configuration_sha256 : String
  target_preparation_revision : Nat
  target_preparation_sha256 : String
  resolved_paths : List TransferResolvedPath
  accepted_schema_generation : Nat
  accepted_archive_codec : String
  source_release_proof_sha256 : String
  target_activation_proof_sha256 : String
  created_at : String
  deriving DecidableEq

structure TransferSourceReleaseReceipt where
  source_request_id : String
  target_request_id : String
  project_id : String
  source_space_id : String
  target_space_id : String
  released_by : AuthorizedHuman
  source_configuration_sha256 : String
  target_admission_sha256 : String
  target_preparation_revision : Nat
  target_preparation_sha256 : String
  source_head : GraphHeadRef
  accepted_schema_generation : Nat
  accepted_archive_codec : String
  source_release_proof_sha256 : String
  target_activation_proof_sha256 : String
  created_at : String
  deriving DecidableEq

structure TransferCleanupAcknowledgment where
  source_request_id : String
  target_request_id : String
  project_id : String
  source_space_id : String
  target_space_id : String
  source_release_proof_sha256 : String
  target_activation_proof_sha256 : String
  archive_sha256 : String
  source_fence_head : GraphHeadRef
  deriving DecidableEq

/-- `TransferArchiveManifest`; the captured files other than the release proof are one payload. -/
structure TransferArchiveManifest where
  project_id : String
  source_space_id : String
  target_space_id : String
  source_request_id : String
  target_request_id : String
  source_rcp_version : String
  source_schema_generation : Nat
  archive_codec : String
  source_configuration_sha256 : String
  source_manifest_sha256 : String
  source_release_proof_sha256 : String
  target_activation_proof_sha256 : String
  main_head : GraphHeadRef
  attributions : List AuthorizedHuman
  payload : String
  created_at : String
  deriving DecidableEq

/-- A sealed archive: its manifest and the bytes of `control/source-release-proof.bin`. -/
structure TransferArchive where
  manifest : TransferArchiveManifest
  release_proof : List UInt8
  deriving DecidableEq

/-- The SHA-256 digests: of a raw secret, of the canonical JSON of a model, of an archive file. -/
structure TransferDigests where
  secret : List UInt8 → String
  configuration : TransferSourceConfiguration → String
  admission : TransferTargetAdmissionReceipt → String
  acknowledgment : TransferCleanupAcknowledgment → String
  manifest : TransferArchiveManifest → String
  archive : TransferArchive → String
  archive_size : TransferArchive → Nat
  archive_size_pos : ∀ a, 0 < archive_size a

/-! ### Request rows -/

structure TransferRequest where
  request_id : String
  side : TransferSide
  phase : TransferPhase
  linked_request_id : Option String := none
  project_id : String
  source_space_id : String
  target_space_id : String
  initiated_by : AuthorizedHuman
  source_configuration : TransferSourceConfiguration
  source_configuration_sha256 : String
  accepted_schema_generation : Option Nat := none
  accepted_archive_codec : Option String := none
  source_release_proof_sha256 : String
  target_activation_proof_sha256 : Option String := none
  link_receipt : Option TransferLinkReceipt := none
  proof_state : TransferProofState := .unexposed
  proof_acknowledgement_sha256 : Option String := none
  target_admission_receipt : Option TransferTargetAdmissionReceipt := none
  source_release_receipt : Option TransferSourceReleaseReceipt := none
  source_fence_head : Option GraphHeadRef := none
  archive_sha256 : Option String := none
  archive_size_bytes : Option Nat := none
  restore_resume_phase : Option TransferPhase := none
  restore_diagnostic : Option String := none
  revision : Nat := 0
  deriving DecidableEq

instance : Keyed TransferRequest String := ⟨TransferRequest.request_id⟩

/-- A row of `project_transfer_proofs`; its kind follows from the side of the request. -/
structure TransferProof where
  request_id : String
  kind : TransferSide
  state : TransferProofState := .unexposed
  commitment_sha256 : String
  secret : Option (List UInt8)
  acknowledgement_sha256 : Option String := none
  deriving DecidableEq

instance : Keyed TransferProof String := ⟨TransferProof.request_id⟩

def TransferProofState.verified : TransferProofState → Bool
  | .acknowledged | .consumed => true
  | .unexposed | .exposed => false

/-! ### The receipts a row may hold -/

/-- `validate_link`; the table of bindings holds each alias once. -/
def TransferLinkReceipt.validate (receipt : TransferLinkReceipt) : Except TransferError Unit :=
  let aliases := receipt.target_repositories.items.map TransferRepositoryBinding.repository_alias
  let identities := receipt.target_repositories.items.map TransferRepositoryBinding.identity
  raise_first
    [(receipt.source_space_id = receipt.target_space_id, .value_error
      "a transfer link must cross spaces"),
     (aliases ≠ aliases.insertionSort (· ≤ ·), .value_error
      "linked target repositories must be ordered by alias"),
     (!decide identities.Nodup, .value_error
      "one target repository cannot appear twice in a transfer link")]

/-- `admission_actor_matches_target`. -/
def TransferTargetAdmissionReceipt.validate (receipt : TransferTargetAdmissionReceipt) :
    Except TransferError Unit :=
  raise_first
    [(receipt.source_space_id = receipt.target_space_id, .value_error
      "a transfer must cross spaces"),
     (receipt.admitted_by.space_id ≠ receipt.target_space_id, .value_error
      "target admission actor must belong to the target space"),
     (!decide (receipt.resolved_paths.map TransferResolvedPath.repository_alias).Nodup, .value_error
      "target admission paths must have unique repository aliases")]

/-- `release_actor_matches_source`. -/
def TransferSourceReleaseReceipt.validate (receipt : TransferSourceReleaseReceipt) :
    Except TransferError Unit :=
  raise_first
    [(receipt.source_space_id = receipt.target_space_id, .value_error
      "a transfer must cross spaces"),
     (receipt.released_by.space_id ≠ receipt.source_space_id, .value_error
      "source release actor must belong to the source space"),
     (receipt.source_head.target ≠ .main, .value_error
      "source release must bind the main canonical head")]

/-- `validate_spaces` of the acknowledgment. -/
def TransferCleanupAcknowledgment.validate (receipt : TransferCleanupAcknowledgment) :
    Except TransferError Unit :=
  raise_first
    [(receipt.source_space_id = receipt.target_space_id, .value_error
      "a transfer cleanup receipt must cross spaces"),
     (receipt.source_fence_head.target ≠ .main, .value_error
      "transfer cleanup must bind the fenced main head")]

namespace TransferRequest

variable (r : TransferRequest)

/-- The phase that counts: a restored target keeps the one it was frozen in. -/
def effective_phase : TransferPhase :=
  if r.phase = .operator_action_needed then r.restore_resume_phase.getD .operator_action_needed
  else r.phase

def rank : Nat := r.effective_phase.rank

/-- The fields that a link sets together. -/
def linked_fields : List Bool :=
  [r.linked_request_id.isSome, r.accepted_schema_generation.isSome,
   r.accepted_archive_codec.isSome, r.target_activation_proof_sha256.isSome]

/-- `validate_protocol_shape`. -/
def validate_protocol_shape : Except TransferError Unit :=
  raise_first
    [(r.source_space_id = r.target_space_id, .value_error "a transfer must cross spaces"),
     (r.initiated_by.space_id
        ≠ (match r.side with | .source => r.source_space_id | .target => r.target_space_id),
      .value_error "transfer initiator belongs to the wrong space"),
     (r.phase = .operator_action_needed
        ∧ (r.side ≠ .target ∨ ¬ (r.restore_resume_phase.any TransferPhase.restorable)
          ∨ r.restore_diagnostic = none),
      .value_error "restored transfer action must preserve one unfinished target phase"),
     (r.phase ≠ .operator_action_needed
        ∧ (r.restore_resume_phase ≠ none ∨ r.restore_diagnostic ≠ none),
      .value_error "ordinary transfer state cannot carry restore action metadata"),
     (r.effective_phase = .awaiting_link
        ∧ (r.side ≠ .source ∨ r.linked_fields.any id ∨ r.link_receipt ≠ none),
      .value_error "only an unlinked source request may await its target"),
     (r.effective_phase ≠ .awaiting_link ∧ (!r.linked_fields.all id ∨ r.link_receipt = none),
      .value_error "a linked transfer request requires its exact link receipt"),
     (r.accepted_schema_generation.any (· ≠ r.source_configuration.source_schema_generation),
      .value_error "accepted transfer schema must match the bound source schema"),
     (r.accepted_archive_codec.any (fun codec =>
        !r.source_configuration.supported_archive_codecs.contains codec),
      .value_error "accepted transfer codec is not supported by the source"),
     (2 ≤ r.rank ∧ r.target_admission_receipt = none,
      .value_error "admitted transfer state requires its target receipt"),
     (r.rank < 2 ∧ r.target_admission_receipt ≠ none,
      .value_error "target admission receipt appears before admission"),
     (3 ≤ r.rank ∧ r.source_release_receipt = none,
      .value_error "released transfer state requires its source receipt"),
     (r.rank < 3 ∧ r.source_release_receipt ≠ none,
      .value_error "source release receipt appears before release"),
     (4 ≤ r.rank ∧ r.side = .source ∧ r.source_fence_head = none,
      .value_error "fenced source transfer state requires its canonical head"),
     (r.rank < 4 ∧ r.source_fence_head ≠ none,
      .value_error "source fence head appears before the fence"),
     (5 ≤ r.rank ∧ (r.archive_sha256 = none ∨ r.archive_size_bytes = none),
      .value_error "archive-bound transfer state requires exact archive metadata"),
     (5 ≤ r.rank ∧ r.source_fence_head = none,
      .value_error "archive binding requires the exact fenced source head"),
     (r.rank < 5 ∧ (r.archive_sha256 ≠ none ∨ r.archive_size_bytes ≠ none),
      .value_error "transfer archive metadata appears before its binding"),
     (r.proof_state.verified ∧ r.proof_acknowledgement_sha256 = none,
      .value_error "acknowledged transfer proof requires its receipt digest"),
     (!r.proof_state.verified ∧ r.proof_acknowledgement_sha256 ≠ none,
      .value_error "transfer proof acknowledgment appears before acknowledgment")]

/-- Loading or changing a record validates the receipts it holds, and then the record. -/
def model_validate : Except TransferError Unit := do
  r.link_receipt.elim (.ok ()) TransferLinkReceipt.validate
  r.target_admission_receipt.elim (.ok ()) TransferTargetAdmissionReceipt.validate
  r.source_release_receipt.elim (.ok ()) TransferSourceReleaseReceipt.validate
  r.validate_protocol_shape

/-- The two requests a receipt must name, from either side. -/
def source_request_id : Option String :=
  match r.side with | .source => some r.request_id | .target => r.linked_request_id

def target_request_id : Option String :=
  match r.side with | .source => r.linked_request_id | .target => some r.request_id

/-- `_require_link_receipt_matches`. -/
def require_link_receipt_matches (receipt : TransferLinkReceipt) : Except TransferError Unit :=
  raise_first
    [(r.source_request_id ≠ some receipt.source_request_id
        ∨ r.target_request_id.any (· ≠ receipt.target_request_id)
        ∨ receipt.project_id ≠ r.project_id
        ∨ receipt.source_space_id ≠ r.source_space_id
        ∨ receipt.target_space_id ≠ r.target_space_id
        ∨ receipt.source_configuration_sha256 ≠ r.source_configuration_sha256
        ∨ receipt.accepted_schema_generation ≠ r.source_configuration.source_schema_generation
        ∨ !r.source_configuration.supported_archive_codecs.contains receipt.accepted_archive_codec
        ∨ receipt.source_release_proof_sha256 ≠ r.source_release_proof_sha256
        ∨ ¬ (r.source_configuration.repositories.items.map
          (fun x => (x.repository_alias, x.identity))).Perm
            (receipt.target_repositories.items.map (fun x => (x.repository_alias, x.identity))),
      .value_error "transfer link receipt does not match the source request"),
     (r.link_receipt ≠ none
        ∧ (r.link_receipt ≠ some receipt
          ∨ r.target_activation_proof_sha256 ≠ some receipt.target_activation_proof_sha256
          ∨ r.accepted_schema_generation ≠ some receipt.accepted_schema_generation
          ∨ r.accepted_archive_codec ≠ some receipt.accepted_archive_codec),
      .value_error "transfer link receipt does not match the target request")]

/-- `_require_target_admission_matches`. -/
def require_target_admission_matches (receipt : TransferTargetAdmissionReceipt) :
    Except TransferError Unit :=
  raise_first
    [(r.source_request_id ≠ some receipt.source_request_id
        ∨ r.target_request_id ≠ some receipt.target_request_id
        ∨ receipt.project_id ≠ r.project_id
        ∨ receipt.source_space_id ≠ r.source_space_id
        ∨ receipt.target_space_id ≠ r.target_space_id
        ∨ receipt.source_configuration_sha256 ≠ r.source_configuration_sha256
        ∨ r.accepted_schema_generation ≠ some receipt.accepted_schema_generation
        ∨ r.accepted_archive_codec ≠ some receipt.accepted_archive_codec
        ∨ receipt.source_release_proof_sha256 ≠ r.source_release_proof_sha256
        ∨ r.target_activation_proof_sha256 ≠ some receipt.target_activation_proof_sha256,
      .value_error "target admission receipt does not match the linked source request")]

/-- `_require_source_release_matches`. -/
def require_source_release_matches (sha : TransferDigests)
    (receipt : TransferSourceReleaseReceipt) : Except TransferError Unit :=
  raise_first
    [(r.source_request_id ≠ some receipt.source_request_id
        ∨ r.target_request_id ≠ some receipt.target_request_id
        ∨ receipt.project_id ≠ r.project_id
        ∨ receipt.source_space_id ≠ r.source_space_id
        ∨ receipt.target_space_id ≠ r.target_space_id
        ∨ receipt.source_configuration_sha256 ≠ r.source_configuration_sha256
        ∨ r.target_admission_receipt.map sha.admission ≠ some receipt.target_admission_sha256
        ∨ r.target_admission_receipt.map (·.target_preparation_revision)
            ≠ some receipt.target_preparation_revision
        ∨ r.target_admission_receipt.map (·.target_preparation_sha256)
            ≠ some receipt.target_preparation_sha256
        ∨ r.accepted_schema_generation ≠ some receipt.accepted_schema_generation
        ∨ r.accepted_archive_codec ≠ some receipt.accepted_archive_codec
        ∨ receipt.source_release_proof_sha256 ≠ r.source_release_proof_sha256
        ∨ r.target_activation_proof_sha256 ≠ some receipt.target_activation_proof_sha256,
      .value_error "source release receipt does not match the admitted target request")]

/-- `_require_cleanup_acknowledgment_matches`. -/
def require_cleanup_acknowledgment_matches (acknowledgment : TransferCleanupAcknowledgment) :
    Except TransferError Unit :=
  raise_first
    [(r.side ≠ .target
        ∨ r.linked_request_id ≠ some acknowledgment.source_request_id
        ∨ acknowledgment.target_request_id ≠ r.request_id
        ∨ acknowledgment.project_id ≠ r.project_id
        ∨ acknowledgment.source_space_id ≠ r.source_space_id
        ∨ acknowledgment.target_space_id ≠ r.target_space_id
        ∨ acknowledgment.source_release_proof_sha256 ≠ r.source_release_proof_sha256
        ∨ r.target_activation_proof_sha256 ≠ some acknowledgment.target_activation_proof_sha256
        ∨ r.archive_sha256 ≠ some acknowledgment.archive_sha256
        ∨ r.source_fence_head ≠ some acknowledgment.source_fence_head,
      .value_error "transfer cleanup acknowledgment does not match the target request")]

end TransferRequest

end ResearchGraph
