import ResearchGraph.Transfer.Moves

/-! # The way of an archive

    The archive that a source has sealed is downloaded, carried to the target
    and uploaded there. The import reads it back against the request of the
    target before the project is activated.
-/

namespace ResearchGraph

open Lib

variable (sha : TransferDigests)

/-- `download_source_project_transfer_archive`: only the sealed archive of a bound source. -/
def SourceWorld.download_source_project_transfer_archive (w : SourceWorld) (request_id : String) :
    TransferResult TransferArchive := do
  let _ ← require (w.store.requests.get? request_id) (.http_error 404 "Transfer request not found")
  let transfer ← w.store.project_transfer_request_from_connection sha request_id
  refuse (transfer.side ≠ .source ∨ transfer.phase ≠ .archive_bound
      ∨ transfer.archive_sha256 = none ∨ transfer.archive_size_bytes = none)
    (.value_error "source transfer has no sealed archive to download")
  let file ← require (w.archives request_id) (.value_error "sealed transfer archive is missing")
  let archive ← read_transfer_archive sha file
  refuse (transfer.archive_sha256 ≠ some (sha.archive archive)
      ∨ transfer.archive_size_bytes ≠ some (sha.archive_size archive))
    (.value_error "sealed source archive differs from its durable receipt")
  pure archive

/-- `_validate_protocol_bindings`: the archive is the one of the reviewed link. -/
def validate_protocol_bindings (provisioning : ProvisioningRequest)
    (source : TransferSourceConfiguration) (link : TransferLinkReceipt)
    (archive : TransferArchiveManifest) : TransferResult Unit :=
  raise_first
    [(!provisioning.incoming_transfer ∨ provisioning.status ≠ .ready_for_review,
      .value_error "target transfer provisioning is not ready for its reviewed import"),
     (link.source_configuration_sha256 ≠ sha.configuration source,
      .value_error "target link does not bind the supplied source configuration"),
     (link.target_request_id ≠ provisioning.request_id
        ∨ link.project_id ≠ provisioning.proposed_project_id
        ∨ link.target_space_id ≠ provisioning.target_space_id,
      .value_error "target provisioning and transfer link identities differ"),
     (archive.source_rcp_version ≠ source.source_rcp_version
        ∨ archive.source_schema_generation ≠ source.source_schema_generation
        ∨ archive.source_schema_generation ≠ link.accepted_schema_generation
        ∨ archive.archive_codec ≠ link.accepted_archive_codec
        ∨ link.accepted_archive_codec ∉ source.supported_archive_codecs,
      .value_error "transfer archive uses a different accepted format"),
     (archive.project_id ≠ link.project_id ∨ archive.source_space_id ≠ link.source_space_id
        ∨ archive.target_space_id ≠ link.target_space_id
        ∨ archive.source_request_id ≠ link.source_request_id
        ∨ archive.target_request_id ≠ link.target_request_id
        ∨ archive.source_configuration_sha256 ≠ sha.configuration source
        ∨ archive.source_manifest_sha256 ≠ source.source_manifest_sha256
        ∨ archive.source_release_proof_sha256 ≠ link.source_release_proof_sha256
        ∨ archive.target_activation_proof_sha256 ≠ link.target_activation_proof_sha256,
      .value_error "transfer archive does not match the reviewed source/target link"),
     (¬ (source.repositories.items.map (fun x => (x.repository_alias, x.identity))).Perm
        (link.target_repositories.items.map (fun x => (x.repository_alias, x.identity))),
      .value_error "transfer link names different GitHub repositories")]

namespace SpaceStore

variable (s : SpaceStore)

def project_transfer_request (request_id : String) : TransferResult (Option TransferRequest) :=
  match s.requests.get? request_id with
  | none => pure none
  | some _ => some <$> s.project_transfer_request_from_connection sha request_id

/-- `_require_ready_boundary`. -/
def require_ready_boundary (request_id : String) (upload : TransferUpload) :
    TransferResult (TransferRequest × ProvisioningRequest) := do
  let lost := TransferError.value_error "target transfer activation lost its durable requests"
  let transfer ← s.project_transfer_request sha request_id
  let transfer ← require transfer lost
  let provisioning ← require (s.provisioning.get? request_id) lost
  refuse (transfer.side ≠ .target ∨ transfer.phase ≠ .archive_bound
      ∨ transfer.request_id ≠ upload.request_id ∨ transfer.project_id ≠ upload.project_id
      ∨ transfer.archive_sha256 ≠ some upload.archive_sha256
      ∨ transfer.archive_size_bytes ≠ some upload.archive_size_bytes
      ∨ transfer.target_space_id ≠ s.space_id ∨ transfer.link_receipt = none
      ∨ transfer.source_release_receipt = none ∨ transfer.target_admission_receipt = none
      ∨ upload.status ≠ .complete ∨ upload.completed_at = none)
    (.value_error "target transfer request is not ready for archive activation")
  refuse (!provisioning.incoming_transfer ∨ provisioning.status ≠ .ready_for_review
      ∨ provisioning.request_id ≠ request_id
      ∨ provisioning.proposed_project_id ≠ transfer.project_id
      ∨ provisioning.target_space_id ≠ transfer.target_space_id
      ∨ provisioning.final_review_digest = none)
    (.value_error "target transfer provisioning is not ready for archive activation")
  pure (transfer, provisioning)

/-- `_validate_protocol` of the importer. The configuration receipt it compares is built from the
    same archive and the same provisioning just before. -/
def validate_protocol (archive : TransferArchive) : TransferResult Unit := do
  let manifest := archive.manifest
  let missing :=
    TransferError.value_error "target transfer import requires its linked durable requests"
  let transfer ← s.project_transfer_request sha manifest.target_request_id
  let transfer ← require transfer missing
  let provisioning ← require (s.provisioning.get? manifest.target_request_id) missing
  refuse (transfer.side ≠ .target ∨ transfer.phase ≠ .archive_bound
      ∨ transfer.request_id ≠ manifest.target_request_id
      ∨ transfer.linked_request_id ≠ some manifest.source_request_id
      ∨ transfer.project_id ≠ manifest.project_id
      ∨ transfer.source_space_id ≠ manifest.source_space_id
      ∨ transfer.target_space_id ≠ manifest.target_space_id
      ∨ transfer.target_space_id ≠ s.space_id
      ∨ transfer.archive_sha256 ≠ some (sha.archive archive)
      ∨ transfer.archive_size_bytes ≠ some (sha.archive_size archive)
      ∨ transfer.source_fence_head ≠ some manifest.main_head
      ∨ transfer.source_configuration_sha256 ≠ manifest.source_configuration_sha256
      ∨ transfer.source_configuration.source_manifest_sha256 ≠ manifest.source_manifest_sha256
      ∨ transfer.source_release_proof_sha256 ≠ manifest.source_release_proof_sha256
      ∨ transfer.target_activation_proof_sha256 ≠ some manifest.target_activation_proof_sha256
      ∨ transfer.accepted_schema_generation ≠ some manifest.source_schema_generation
      ∨ transfer.accepted_archive_codec ≠ some manifest.archive_codec
      ∨ transfer.target_admission_receipt = none ∨ transfer.source_release_receipt = none)
    (.value_error "target transfer request does not bind this archive")
  refuse (!provisioning.incoming_transfer ∨ provisioning.status ≠ .ready_for_review
      ∨ provisioning.request_id ≠ manifest.target_request_id
      ∨ provisioning.proposed_project_id ≠ manifest.project_id
      ∨ provisioning.target_space_id ≠ manifest.target_space_id)
    (.value_error "reviewed target configuration does not bind this import")

/-- What `TargetTransferActivationCoordinator.activate` checks of an uploaded archive before it
    publishes anything. -/
def check_archive (request_id : String) (file : TransferArchive) : TransferResult Unit := do
  let upload ← require (s.uploads.get? request_id)
    (.value_error "target transfer activation has no durable upload")
  let (transfer, provisioning) ← s.require_ready_boundary sha request_id upload
  refuse (sha.archive file ≠ upload.archive_sha256
      ∨ sha.archive_size file ≠ upload.archive_size_bytes)
    (.value_error "target transfer archive differs from its receipt")
  let archive ← read_transfer_archive sha file
  let link ← require transfer.link_receipt
    (.value_error "target transfer activation lost its link receipt")
  validate_protocol_bindings sha provisioning transfer.source_configuration link archive.manifest
  s.validate_protocol sha archive

end SpaceStore

variable {sha}

/-- The row binds the archive, and the archive holds the release proof. -/
structure Imports (sha : TransferDigests) (t : TransferRequest)
    (file : TransferArchive) : Prop where
  side : t.side = .target
  request : file.manifest.target_request_id = t.request_id
  linked : t.linked_request_id = some file.manifest.source_request_id
  project : file.manifest.project_id = t.project_id
  source_space : file.manifest.source_space_id = t.source_space_id
  target_space : file.manifest.target_space_id = t.target_space_id
  digest : t.archive_sha256 = some (sha.archive file)
  size : t.archive_size_bytes = some (sha.archive_size file)
  fence : t.source_fence_head = some file.manifest.main_head
  release : file.manifest.source_release_proof_sha256 = t.source_release_proof_sha256
  activation : t.target_activation_proof_sha256 = some file.manifest.target_activation_proof_sha256
  proof : sha.secret file.release_proof = t.source_release_proof_sha256

theorem imports_of_advanced {t t' : TransferRequest} {q q' : TransferProof}
    {file : TransferArchive} (h : Imports sha t file) (hadvanced : Advanced t q t' q') :
    Imports sha t' file where
  side := hadvanced.side.trans h.side
  request := h.request.trans hadvanced.request_id.symm
  linked := hadvanced.linked_request_id _ h.linked
  project := h.project.trans hadvanced.project_id.symm
  source_space := h.source_space.trans hadvanced.source_space_id.symm
  target_space := h.target_space.trans hadvanced.target_space_id.symm
  digest := hadvanced.archive _ h.digest
  size := hadvanced.archive_size _ h.size
  fence := hadvanced.fence _ h.fence
  release := h.release.trans hadvanced.source_release_proof_sha256.symm
  activation := hadvanced.activation_proof _ h.activation
  proof := h.proof.trans hadvanced.source_release_proof_sha256.symm

namespace SpaceStore

variable {s : SpaceStore} {request_id : String} {file : TransferArchive}

theorem project_transfer_request_ok {r : TransferRequest} :
    s.project_transfer_request sha request_id = .ok (some r) ↔
      s.project_transfer_request_from_connection sha request_id = .ok r := by
  unfold project_transfer_request
  cases hrow : s.requests.get? request_id with
  | none =>
    constructor
    · intro h
      cases except_pure_ok.mp h
    · intro h
      obtain ⟨p, hold, -⟩ := holds_of_read h
      rw [hold.1] at hrow
      cases hrow
  | some row =>
    cases s.project_transfer_request_from_connection sha request_id with
    | error e => simp [Functor.map, Except.map]
    | ok r' => simp [Functor.map, Except.map]

theorem require_ready_boundary_ok {upload : TransferUpload} {t : TransferRequest}
    {provisioning : ProvisioningRequest}
    (h : s.require_ready_boundary sha request_id upload = .ok (t, provisioning)) :
    s.project_transfer_request_from_connection sha request_id = .ok t
      ∧ provisioning.request_id = request_id := by
  simp only [require_ready_boundary, except_bind_ok, except_pure_ok, require_ok, refuse_ok, not_or,
    ne_eq, not_not, Prod.mk.injEq] at h
  obtain ⟨o, hread, t', rfl, provisioning', -, -, -, -, ⟨-, -, hid, -⟩, rfl, rfl⟩ := h
  exact ⟨project_transfer_request_ok.mp hread, hid⟩

/-- An archive that passes the checks is the one that the request of the target binds. -/
theorem check_archive_spec (h : s.check_archive sha request_id file = .ok ()) :
    ∃ t q, s.Holds request_id t q ∧ Imports sha t file := by
  simp only [check_archive, except_bind_ok, read_transfer_archive_ok, require_ok] at h
  obtain ⟨upload, -, ⟨t, provisioning⟩, hready, -, -, archive, ⟨rfl, -, hproof⟩, link, -, ⟨⟩,
    hbindings, h⟩ := h
  obtain ⟨hread, hid⟩ := require_ready_boundary_ok hready
  simp only [validate_protocol_bindings, raise_first_ok, List.forall_mem_cons,
    decide_eq_false_iff_not, not_or, ne_eq, not_not] at hbindings
  obtain ⟨-, -, ⟨hlink, -⟩, -, ⟨-, -, -, -, htarget, -⟩, -⟩ := hbindings
  -- the archive names its target by the link, the link by the row, and the row by the upload
  have hrequest : archive.manifest.target_request_id = request_id := by
    rw [htarget, hlink, hid]
  simp only [validate_protocol, hrequest, except_bind_ok, require_ok, refuse_ok, not_or, ne_eq,
    not_not] at h
  obtain ⟨o, hread', t', rfl, provisioning', -, -, hmatch, -⟩ := h
  -- both checks read the same row
  obtain rfl : t = t' :=
    Except.ok.inj (hread.symm.trans (project_transfer_request_ok.mp hread'))
  obtain ⟨hside, -, hself, hsource, hproject, hspace, hspace', -, hdigest, hsize, hfence, -, -,
    hrelease, hactivation, -⟩ := hmatch
  obtain ⟨q, hold, -⟩ := holds_of_read hread
  refine ⟨t, q, hold, ?_⟩
  exact
    { side := hside
      request := hrequest.trans hself.symm
      linked := hsource
      project := hproject.symm
      source_space := hspace.symm
      target_space := hspace'.symm
      digest := hdigest
      size := hsize
      fence := hfence
      release := hrelease.symm
      activation := hactivation
      proof := hproof.trans hrelease.symm }

end SpaceStore

namespace SourceWorld

variable {w : SourceWorld} {request_id : String} {file : TransferArchive}

/-- What is downloaded is the archive on file of a bound source. -/
theorem download_spec
    (h : w.download_source_project_transfer_archive sha request_id = .ok file) :
    ∃ r p, w.store.Holds request_id r p ∧ r.side = .source ∧ r.phase = .archive_bound
      ∧ w.archives request_id = some file := by
  simp only [download_source_project_transfer_archive, except_bind_ok, except_pure_ok, require_ok,
    refuse_ok, read_transfer_archive_ok, not_or, ne_eq, not_not] at h
  obtain ⟨-, -, r, hread, -, ⟨hside, hphase, -⟩, stored, hfile, archive, ⟨rfl, -⟩, -, -, rfl⟩ := h
  obtain ⟨p, hold, -⟩ := SpaceStore.holds_of_read hread
  exact ⟨r, p, hold, hside, hphase, hfile⟩

end SourceWorld

end ResearchGraph
