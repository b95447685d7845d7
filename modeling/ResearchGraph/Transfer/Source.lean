import ResearchGraph.Transfer.Progress

/-! # The source of a transfer

    The source space moves the canonical home of the project, fences its
    request, seals the archive and binds it; once the target has proved its
    activation, it retires the project and erases the archive. The store, the
    canonical history and the archive file are durable separately, so both
    procedures are sagas: they may be cut off after any commit and are run
    again from the start.
-/

namespace ResearchGraph

open Lib

/-- What the procedures read and move in the canonical history of a project. -/
structure ProjectHistory where
  home_space_id : String
  head : GraphHeadRef
  next_revision : Nat
  configuration : TransferSourceConfiguration
  /-- The first refusal of `export_project_transfer_records`, when work is not settled. -/
  unsettled : Option String := none
  payload : String := ""

structure SourceWorld where
  store : SpaceStore
  history : String → ProjectHistory
  archives : String → Option TransferArchive

abbrev SourceSaga (α : Type) := Saga SourceWorld TransferError α

/-! ### Archives -/

/-- `read_transfer_archive`: the control entry holds the release proof that the manifest names. -/
def read_transfer_archive (sha : TransferDigests) (archive : TransferArchive) :
    TransferResult TransferArchive := do
  refuse (archive.release_proof.length ≠ 32
      ∨ sha.secret archive.release_proof ≠ archive.manifest.source_release_proof_sha256)
    (.value_error "transfer manifest must bind the exact source-release proof entry")
  pure archive

/-- `_require_readback_matches_transfer`. -/
def require_readback_matches_transfer (archive : TransferArchive) (r : TransferRequest) :
    TransferResult Unit :=
  refuse (archive.manifest.project_id ≠ r.project_id
      ∨ archive.manifest.source_request_id ≠ r.request_id
      ∨ r.linked_request_id ≠ some archive.manifest.target_request_id
      ∨ archive.manifest.source_space_id ≠ r.source_space_id
      ∨ archive.manifest.target_space_id ≠ r.target_space_id
      ∨ r.source_fence_head ≠ some archive.manifest.main_head
      ∨ archive.manifest.source_configuration_sha256 ≠ r.source_configuration_sha256
      ∨ archive.manifest.source_release_proof_sha256 ≠ r.source_release_proof_sha256
      ∨ r.target_activation_proof_sha256 ≠ some archive.manifest.target_activation_proof_sha256)
    (.value_error "sealed source archive does not match its transfer receipt")

namespace SourceWorld

variable (sha : TransferDigests) (request_id : String)

/-- A transaction of the store. -/
def on_store {α : Type} (f : SpaceStore → TransferResult (SpaceStore × α)) (w : SourceWorld) :
    TransferResult (SourceWorld × α) := do
  let (t, a) ← f w.store
  pure ({ w with store := t }, a)

/-- The same where the record is read again later. -/
def update_store {α : Type} (f : SpaceStore → TransferResult (SpaceStore × α)) :
    SourceSaga Unit := Saga.commit fun w => do
  let (t, _) ← f w.store
  pure ({ w with store := t }, ())

/-- The row of the request is in the phase. -/
def InPhase (phase : TransferPhase) (w : SourceWorld) : Prop :=
  (w.store.requests.get? request_id).any (fun r => r.phase = phase) = true

instance (phase : TransferPhase) : DecidablePred (InPhase request_id phase) :=
  fun w => inferInstanceAs (Decidable
    ((w.store.requests.get? request_id).any (fun r => r.phase = phase) = true))

/-! ### Reading -/

/-- `_source_transfer`. -/
def source_transfer (w : SourceWorld) : TransferResult TransferRequest := do
  let transfer ← w.store.project_transfer_request_from_connection sha request_id
  refuse (transfer.side ≠ .source) (.key_error request_id)
  pure transfer

def require_confirmations (w : SourceWorld) : TransferResult Unit := do
  let transfer ← w.source_transfer sha request_id
  refuse (transfer.source_release_receipt = none ∨ transfer.target_admission_receipt = none)
    (.value_error "source transfer requires both human confirmations")

/-- `open_transfer_source`: the space the service expects as the home of the project. A service
    that is loaded keeps the one it was opened with. -/
def open_transfer_source (loaded : Bool) (transfer : TransferRequest) (w : SourceWorld) :
    TransferResult String := do
  let home := (w.history transfer.project_id).home_space_id
  refuse (!([TransferPhase.source_released, .source_fenced,
    .archive_bound].contains transfer.phase))
    (.value_error "source transfer is not at an exportable boundary")
  -- opened before, or not yet departed: the service still expects the personal space
  if loaded ∨ (transfer.phase = .source_released ∧ home = transfer.source_space_id) then
    pure transfer.source_space_id
  else do
    refuse (home ≠ transfer.target_space_id) (.value_error
      "Departed source history does not match its bound team-space transfer.")
    pure transfer.target_space_id

/-- The checks that precede both the home transfer and the capture. -/
def require_settled_source (loaded : Bool) (transfer : TransferRequest) (w : SourceWorld) :
    TransferResult String := do
  let expected_space_id ← w.open_transfer_source loaded transfer
  let history := w.history transfer.project_id
  refuse (history.configuration ≠ transfer.source_configuration)
    (.value_error "source configuration changed after the reviewed transfer boundary")
  history.unsettled.elim (.ok ()) (fun message => .error (.value_error message))
  pure expected_space_id

/-! ### Advancing -/

/-- The project with its home moved to the target space by one identity Patch. -/
def with_home (w : SourceWorld) (transfer : TransferRequest) : SourceWorld :=
  let history := w.history transfer.project_id
  { w with
    history := Function.update w.history transfer.project_id { history with
      home_space_id := transfer.target_space_id
      head := { history.head with revision := history.next_revision }
      next_revision := history.next_revision + 1 } }

def move_home (loaded : Bool) : SourceSaga Unit := Saga.commit fun w => do
  let transfer ← w.source_transfer sha request_id
  let expected_space_id ← w.require_settled_source loaded transfer
  let home := (w.history transfer.project_id).home_space_id
  -- a home that has moved already is left by a run that was cut off
  if home = transfer.source_space_id then do
    refuse (expected_space_id ≠ transfer.source_space_id) (.value_error
      "Only the project's current source space may append its home transfer.")
    pure (w.with_home transfer, ())
  else do
    refuse (home ≠ transfer.target_space_id)
      (.value_error "source project moved to an unrelated canonical home")
    pure (w, ())

def fence : SourceSaga Unit := Saga.commit fun w => do
  let transfer ← w.source_transfer sha request_id
  let head := (w.history transfer.project_id).head
  let (t, _) ← w.store.mark_source_project_transfer_fenced sha request_id head
  pure ({ w with store := t }, ())

def expose (loaded : Bool) : SourceSaga (List UInt8) := Saga.commit fun w => do
  let transfer ← w.source_transfer sha request_id
  let _ ← w.require_settled_source loaded transfer
  w.on_store (fun s => s.expose_project_transfer_proof sha request_id)

/-- The archive that `_capture_and_seal_source_archive` writes. -/
def capture (transfer : TransferRequest) (proof : List UInt8) (created_at : String)
    (w : SourceWorld) : TransferResult TransferArchive := do
  let lost := TransferError.value_error "source transfer lost its reviewed linked boundary"
  let target_request_id ← require transfer.linked_request_id lost
  let activation ← require transfer.target_activation_proof_sha256 lost
  let codec ← require transfer.accepted_archive_codec lost
  let incomplete := TransferError.value_error "source transfer has incomplete human attribution"
  let release ← require transfer.source_release_receipt incomplete
  let admission ← require transfer.target_admission_receipt incomplete
  let history := w.history transfer.project_id
  refuse (history.configuration.source_manifest_sha256
      ≠ transfer.source_configuration.source_manifest_sha256)
    (.value_error "source manifest changed after the reviewed transfer boundary")
  pure
    { manifest :=
        { project_id := transfer.project_id
          source_space_id := transfer.source_space_id
          target_space_id := transfer.target_space_id
          source_request_id := transfer.request_id
          target_request_id
          source_rcp_version := transfer.source_configuration.source_rcp_version
          source_schema_generation := transfer.source_configuration.source_schema_generation
          archive_codec := codec
          source_configuration_sha256 := transfer.source_configuration_sha256
          source_manifest_sha256 := history.configuration.source_manifest_sha256
          source_release_proof_sha256 := transfer.source_release_proof_sha256
          target_activation_proof_sha256 := activation
          main_head := history.head
          attributions := [release.released_by, admission.admitted_by]
          payload := history.payload
          created_at }
      release_proof := proof }

/-- The file of a request, replaced or removed. -/
def with_archive (w : SourceWorld) (file : Option TransferArchive) : SourceWorld :=
  { w with archives := Function.update w.archives request_id file }

@[simp] theorem with_archive_store (w : SourceWorld) (file : Option TransferArchive) :
    (w.with_archive request_id file).store = w.store := rfl

@[simp] theorem with_archive_history (w : SourceWorld) (file : Option TransferArchive) :
    (w.with_archive request_id file).history = w.history := rfl

@[simp] theorem with_archive_self (w : SourceWorld) (file : Option TransferArchive) :
    (w.with_archive request_id file).archives request_id = file := Function.update_self ..

theorem with_archive_of_ne {id : String} (h : id ≠ request_id) (w : SourceWorld)
    (file : Option TransferArchive) :
    (w.with_archive request_id file).archives id = w.archives id := Function.update_of_ne h ..

/-- Publishing the archive never replaces one. -/
def seal_archive (proof : List UInt8) (created_at : String) : SourceSaga Unit :=
  Saga.commit fun w => do
  let transfer ← w.source_transfer sha request_id
  let archive ← w.capture transfer proof created_at
  refuse ((w.archives request_id).isSome)
    (.value_error "transfer archive destination already exists")
  -- what was written is read back before it is published
  let archive ← read_transfer_archive sha archive
  pure (w.with_archive request_id (some archive), ())

/-- The archive of the request, read back and matched. -/
def read_matching_archive (transfer : TransferRequest) (w : SourceWorld) :
    TransferResult TransferArchive := do
  let file ← require (w.archives request_id)
    (.value_error "sealed transfer archive is missing")
  let archive ← read_transfer_archive sha file
  require_readback_matches_transfer archive transfer
  pure archive

def bind_archive : SourceSaga Unit := Saga.commit fun w => do
  let transfer ← w.source_transfer sha request_id
  let archive ← w.read_matching_archive sha request_id transfer
  let (t, _) ← w.store.bind_project_transfer_archive sha request_id (sha.archive archive)
    (sha.archive_size archive) transfer.source_fence_head
  pure ({ w with store := t }, ())

/-- The archive still is the one that the request binds. -/
def require_bound_archive (transfer : TransferRequest) (message : String) (w : SourceWorld) :
    TransferResult Unit := do
  let archive ← w.read_matching_archive sha request_id transfer
  refuse (transfer.archive_sha256 ≠ some (sha.archive archive)
      ∨ transfer.archive_size_bytes ≠ some (sha.archive_size archive))
    (.value_error message)

def read_bound (w : SourceWorld) : TransferResult TransferRequest := do
  let transfer ← w.source_transfer sha request_id
  refuse (transfer.phase ≠ .archive_bound)
    (.value_error "source transfer is not ready to expose its sealed archive")
  w.require_bound_archive sha request_id transfer
    "sealed source archive differs from its durable receipt"
  pure transfer

def archive_absent (w : SourceWorld) : Prop := w.archives request_id = none

instance : DecidablePred (archive_absent request_id) :=
  fun w => inferInstanceAs (Decidable (w.archives request_id = none))

/-- The first part of advancing: the project leaves its source space. -/
def leave (loaded : Bool) : SourceSaga Unit :=
  ((move_home sha request_id loaded).andThen fun _ => fence sha request_id).when
    (InPhase request_id .source_released)

/-- The archive is captured where none is published. -/
def publish (loaded : Bool) (created_at : String) : SourceSaga Unit :=
  ((expose sha request_id loaded).andThen fun proof =>
    seal_archive sha request_id proof created_at).when
    (archive_absent request_id)

/-- The second part: the archive is published and bound. -/
def export_archive (loaded : Bool) (created_at : String) : SourceSaga Unit :=
  ((publish sha request_id loaded created_at).andThen fun _ => bind_archive sha request_id).when
    (InPhase request_id .source_fenced)

/-- What a run of `advance_source_project_transfer` finds outside the durable state. -/
structure AdvanceRun where
  loaded : Bool
  reloaded : Bool
  created_at : String

def advance_source_project_transfer (run : AdvanceRun) : SourceSaga TransferRequest :=
  (Saga.inspect (require_confirmations sha request_id)).andThen fun _ =>
  (leave sha request_id run.loaded).andThen fun _ =>
  (export_archive sha request_id run.reloaded run.created_at).andThen fun _ =>
  Saga.inspect (read_bound sha request_id)

/-! ### Completing -/

/-- The project is hidden by the retirement of this request. -/
def retired_by (transfer : TransferRequest) (w : SourceWorld) : Bool :=
  (w.store.projects.get? transfer.project_id).any (fun project =>
    project.retired_at.isSome ∧ project.retired_transfer_request_id = some request_id)

def cleanup_mismatch : String := "source cleanup archive differs from its durable receipt"

def require_recovery_archive (w : SourceWorld) : TransferResult Unit := do
  let transfer ← w.source_transfer sha request_id
  -- without the archive only a project that is retired may go on
  if (w.archives request_id).isSome then
    w.require_bound_archive sha request_id transfer cleanup_mismatch
  else
    refuse (transfer.proof_state ≠ .consumed ∨ !w.retired_by request_id transfer)
      (.value_error "source recovery archive disappeared before retirement")

def consume : SourceSaga Unit := Saga.commit fun w => do
  let transfer ← w.source_transfer sha request_id
  let digest ← require transfer.proof_acknowledgement_sha256
    (.runtime_error "acknowledged transfer proof requires its receipt digest")
  let (t, _) ← w.store.consume_project_transfer_proof sha request_id digest
  pure ({ w with store := t }, ())

/-- `discard_retired_transfer_source` drops the loaded service after this check. -/
def require_retired (w : SourceWorld) : TransferResult Unit := do
  let transfer ← w.source_transfer sha request_id
  refuse (!w.retired_by request_id transfer
      ∨ !([TransferPhase.cleanup_acknowledged, .completed].contains transfer.phase))
    (.value_error "source transfer has no matching durable retirement receipt")

def erase : SourceSaga Unit := Saga.commit fun w => do
  let transfer ← w.source_transfer sha request_id
  if (w.archives request_id).isSome then do
    w.require_bound_archive sha request_id transfer cleanup_mismatch
    pure (w.with_archive request_id none, ())
  else
    pure (w, ())

def complete_source_project_transfer (target_activation_proof : List UInt8) (now : String) :
    SourceSaga TransferCleanupAcknowledgment :=
  (Saga.commit (on_store fun s =>
    s.verify_target_project_transfer_activation sha request_id target_activation_proof)).andThen
      fun acknowledgment =>
  (update_store fun s => s.acknowledge_project_transfer_cleanup sha request_id).andThen fun _ =>
  (Saga.inspect (require_recovery_archive sha request_id)).andThen fun _ =>
  (consume sha request_id).andThen fun _ =>
  (update_store fun s => s.retire_source_project_transfer sha request_id now).andThen fun _ =>
  (Saga.inspect (require_retired sha request_id)).andThen fun _ =>
  (erase sha request_id).andThen fun _ =>
  (update_store fun s => s.complete_project_transfer_request sha request_id).andThen fun _ =>
  Saga.done acknowledgment

end SourceWorld

end ResearchGraph
