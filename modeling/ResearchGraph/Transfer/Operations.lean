import ResearchGraph.Transfer.Progress

/-! # Runs of the transfer operations

    A space takes its transfer operations in any order. An operation that
    raises is rolled back. Whatever the order, every stored request reads back,
    and what a request has bound stays bound.
-/

namespace ResearchGraph

open Lib

variable {sha : TransferDigests}

/-! ### The operations -/

/-- `bind_project_transfer_archive` of the API: only the member who admitted a target binds it. -/
def SpaceStore.api_bind_project_transfer_archive (sha : TransferDigests) (s : SpaceStore)
    (request_id user_id archive_sha256 : String) (archive_size_bytes : Nat)
    (source_fence_head : GraphHeadRef) : TransferResult (SpaceStore × TransferRequest) := do
  let transfer ← s.project_transfer_request_from_connection sha request_id
  refuse (transfer.side ≠ .target)
    (.value_error "source archives are bound only by the source release workflow")
  refuse (transfer.target_admission_receipt.map (·.admitted_by.user_id) ≠ some user_id)
    (.http_error 403 "Only the member who admitted this transfer may bind its archive.")
  s.bind_project_transfer_archive sha request_id archive_sha256 archive_size_bytes
    (some source_fence_head)

/-- The binding of the source workflow repeats the fence head of the request. -/
def SpaceStore.bind_own_archive (sha : TransferDigests) (s : SpaceStore)
    (request_id archive_sha256 : String) (archive_size_bytes : Nat) :
    TransferResult (SpaceStore × TransferRequest) := do
  let transfer ← s.project_transfer_request_from_connection sha request_id
  s.bind_project_transfer_archive sha request_id archive_sha256 archive_size_bytes
    transfer.source_fence_head

inductive TransferOperation
  | create_source (request_id project_id target_space_id : String) (initiated_by : AuthorizedHuman)
      (configuration : TransferSourceConfiguration) (secret : List UInt8)
  | create_target (request_id : String) (body : SpaceStore.TargetLink) (secret : List UInt8)
      (now : String)
  | link (request_id : String) (receipt : TransferLinkReceipt)
  | record_admission (request_id : String) (admitted_by : AuthorizedHuman) (now : String)
  | accept_admission (request_id : String) (receipt : TransferTargetAdmissionReceipt)
  | record_release (request_id : String) (released_by : AuthorizedHuman)
      (configuration : TransferSourceConfiguration) (source_head : GraphHeadRef) (now : String)
  | accept_release (request_id : String) (receipt : TransferSourceReleaseReceipt)
  | mark_fenced (request_id : String) (source_head : GraphHeadRef)
  | bind_own (request_id archive_sha256 : String) (archive_size_bytes : Nat)
  | bind_archive (request_id user_id archive_sha256 : String) (archive_size_bytes : Nat)
      (source_fence_head : GraphHeadRef)
  | begin_upload (request_id lease_boundary : String)
  | complete_upload (request_id lease_boundary now : String)
  | begin_import (imported : TransferImport)
  | complete_import (request_id publication_sha256 now : String)
  | activate (request_id : String) (project : CatalogProject) (provisioning_revision : Nat)
      (final_review_digest now : String)
  | expose (request_id : String)
  | verify_activation (request_id : String) (proof : List UInt8)
  | accept_cleanup (request_id : String) (acknowledgment : TransferCleanupAcknowledgment)
      (accepted_by : AuthorizedHuman)
  | acknowledge_cleanup (request_id : String)
  | consume (request_id acknowledgement_sha256 : String)
  | complete (request_id : String)
  | retire (request_id now : String)
  | detach_for_restore (diagnostic : String)
  | reenter (request_id : String) (restored_revision : Nat) (resume_phase : TransferPhase)
      (final_review_digest : String) (confirmed_by : AuthorizedHuman) (lease_boundary : String)

/-- One operation of the store; a request that was deleted or never made raises. -/
def TransferOperation.exec (sha : TransferDigests) (s : SpaceStore) :
    TransferOperation → TransferResult SpaceStore
  | create_source request_id project_id target_space_id initiated_by configuration secret =>
    Prod.fst <$> s.create_source_project_transfer_request sha project_id target_space_id
      initiated_by configuration request_id secret
  | create_target request_id body secret now =>
    Prod.fst <$> s.create_target_project_transfer_request sha request_id body secret now
  | link request_id receipt =>
    Prod.fst <$> s.link_source_project_transfer_request sha request_id receipt
  | record_admission request_id admitted_by now =>
    Prod.fst <$> s.record_target_project_transfer_admission sha request_id admitted_by now
  | accept_admission request_id receipt =>
    Prod.fst <$> s.accept_target_project_transfer_admission sha request_id receipt
  | record_release request_id released_by configuration source_head now =>
    Prod.fst <$> s.record_source_project_transfer_release sha request_id released_by configuration
      source_head now
  | accept_release request_id receipt =>
    Prod.fst <$> s.accept_source_project_transfer_release sha request_id receipt
  | mark_fenced request_id source_head =>
    Prod.fst <$> s.mark_source_project_transfer_fenced sha request_id source_head
  | bind_own request_id archive_sha256 archive_size_bytes =>
    Prod.fst <$> s.bind_own_archive sha request_id archive_sha256 archive_size_bytes
  | bind_archive request_id user_id archive_sha256 archive_size_bytes source_fence_head =>
    Prod.fst <$> s.api_bind_project_transfer_archive sha request_id user_id archive_sha256
      archive_size_bytes source_fence_head
  | begin_upload request_id lease_boundary =>
    Prod.fst <$> s.begin_target_project_transfer_upload sha request_id lease_boundary
  | complete_upload request_id lease_boundary now =>
    Prod.fst <$> s.complete_target_project_transfer_upload sha request_id lease_boundary now
  | begin_import imported => Prod.fst <$> s.begin_project_transfer_import sha imported
  | complete_import request_id publication_sha256 now =>
    Prod.fst <$> s.complete_project_transfer_import sha request_id publication_sha256 now
  | activate request_id project provisioning_revision final_review_digest now =>
    Prod.fst <$> s.activate_target_project_transfer sha request_id project provisioning_revision
      final_review_digest now
  | expose request_id => Prod.fst <$> s.expose_project_transfer_proof sha request_id
  | verify_activation request_id proof =>
    Prod.fst <$> s.verify_target_project_transfer_activation sha request_id proof
  | accept_cleanup request_id acknowledgment accepted_by =>
    Prod.fst <$> s.accept_project_transfer_cleanup_acknowledgment sha request_id acknowledgment
      accepted_by
  | acknowledge_cleanup request_id =>
    Prod.fst <$> s.acknowledge_project_transfer_cleanup sha request_id
  | consume request_id acknowledgement_sha256 =>
    Prod.fst <$> s.consume_project_transfer_proof sha request_id acknowledgement_sha256
  | complete request_id => Prod.fst <$> s.complete_project_transfer_request sha request_id
  | retire request_id now => Prod.fst <$> s.retire_source_project_transfer sha request_id now
  | detach_for_restore diagnostic => s.detach_project_transfers_for_restore sha diagnostic
  | reenter request_id restored_revision resume_phase final_review_digest confirmed_by
      lease_boundary =>
    Prod.fst <$> s.reenter_restored_target_project_transfer sha request_id restored_revision
      resume_phase final_review_digest confirmed_by lease_boundary

namespace SpaceStore

variable {s t u : SpaceStore} {request_id : String}

/-! ### Operations that leave the requests alone -/

theorem begin_upload_kept {boundary : String} {upload : TransferUpload}
    (h : s.begin_target_project_transfer_upload sha request_id boundary = .ok (t, upload)) :
    t.requests = s.requests ∧ t.proofs = s.proofs := by
  simp only [begin_target_project_transfer_upload, except_bind_ok] at h
  obtain ⟨current, -, ⟨⟩, -, h⟩ := h
  split at h
  · simp only [except_pure_ok, Prod.mk.injEq] at h
    obtain ⟨rfl, -⟩ := h
    exact ⟨rfl, rfl⟩
  · simp only [except_bind_ok] at h
    obtain ⟨⟨⟩, -, h⟩ := h
    split at h
    · simp only [except_pure_ok, Prod.mk.injEq] at h
      obtain ⟨rfl, -⟩ := h
      exact ⟨rfl, rfl⟩
    · simp only [except_bind_ok, except_pure_ok, Prod.mk.injEq] at h
      obtain ⟨-, -, -, -, -, -, rfl, -⟩ := h
      exact ⟨rfl, rfl⟩

theorem complete_upload_kept {boundary now : String} {upload : TransferUpload}
    (h : s.complete_target_project_transfer_upload sha request_id boundary now
      = .ok (t, upload)) : t.requests = s.requests ∧ t.proofs = s.proofs := by
  simp only [complete_target_project_transfer_upload, except_bind_ok] at h
  obtain ⟨current, -, existing, -, ⟨⟩, -, h⟩ := h
  split at h
  · rw [eq_of_retry h]
    exact ⟨rfl, rfl⟩
  · simp only [except_bind_ok, except_pure_ok, Prod.mk.injEq] at h
    obtain ⟨-, -, -, -, -, -, rfl, -⟩ := h
    exact ⟨rfl, rfl⟩

theorem begin_import_kept {imported row : TransferImport}
    (h : s.begin_project_transfer_import sha imported = .ok (t, row)) :
    t.requests = s.requests ∧ t.proofs = s.proofs := by
  simp only [begin_project_transfer_import, except_bind_ok] at h
  obtain ⟨current, -, ⟨⟩, -, h⟩ := h
  split at h
  · rw [eq_of_retry h]
    exact ⟨rfl, rfl⟩
  · simp only [except_pure_ok, Prod.mk.injEq] at h
    obtain ⟨rfl, -⟩ := h
    exact ⟨rfl, rfl⟩

theorem complete_import_kept {publication now : String} {row : TransferImport}
    (h : s.complete_project_transfer_import sha request_id publication now = .ok (t, row)) :
    t.requests = s.requests ∧ t.proofs = s.proofs := by
  simp only [complete_project_transfer_import, except_bind_ok] at h
  obtain ⟨current, -, h⟩ := h
  split at h
  · rw [eq_of_retry h]
    exact ⟨rfl, rfl⟩
  · simp only [except_bind_ok, except_pure_ok, Prod.mk.injEq] at h
    obtain ⟨-, -, ⟨⟩, -, rfl, -⟩ := h
    exact ⟨rfl, rfl⟩

theorem bind_archive_step {user_id digest : String} {size : Nat} {head : GraphHeadRef}
    {v : TransferRequest}
    (h : s.api_bind_project_transfer_archive sha request_id user_id digest size head
      = .ok (t, v)) : RowsStep sha s t .bind := by
  simp only [api_bind_project_transfer_archive, except_bind_ok, refuse_ok, not_not] at h
  obtain ⟨current, hread, -, hside, -, -, h⟩ := h
  refine bind_step ?_ h
  intro r hr hsource
  obtain rfl : current = r := Except.ok.inj (hread.symm.trans hr)
  rw [hside] at hsource
  cases hsource

theorem bind_own_step {digest : String} {size : Nat} {v : TransferRequest}
    (h : s.bind_own_archive sha request_id digest size = .ok (t, v)) :
    RowsStep sha s t .bind := by
  simp only [bind_own_archive, except_bind_ok] at h
  obtain ⟨current, hread, h⟩ := h
  refine bind_step ?_ h
  intro r hr _
  obtain rfl : current = r := Except.ok.inj (hread.symm.trans hr)
  exact Or.inr rfl

/-! ### The restore freeze -/

/-- The request is an unfinished target, if it is stored. -/
def Detachable (s : SpaceStore) (request_id : String) : Prop :=
  ∀ r, s.requests.get? request_id = some r → r.side = .target ∧ r.phase ≠ .completed

theorem detach_detachable {diagnostic id : String} (hid : s.Detachable request_id)
    (hother : s.Detachable id) (h : s.detach_project_transfer sha diagnostic request_id = .ok t) :
    t.Detachable id := by
  have hstep := detach_row_step (fun r hr => by
    obtain ⟨p, hold, -⟩ := holds_of_read hr
    exact hid r hold.1) h
  intro r hr
  -- the row that was frozen stays unfinished, the others are untouched
  cases hstep with
  | kept _ hrequests hproofs =>
    rw [hrequests] at hr
    exact hother r hr
  | changed _ id' x x' y y' hold hchange hshape hrequests hproofs =>
    rw [get?_requests_put hrequests] at hr
    split at hr
    · obtain rfl := Option.some.inj hr
      cases hchange with
      | detach diagnostic hside hphase => exact ⟨hside, by simp⟩
    · exact hother r hr

/-- The steps of one kind that an operation takes on the request rows. -/
abbrev RowsRun (sha : TransferDigests) (kind : TransferChange) : SpaceStore → SpaceStore → Prop :=
  Relation.ReflTransGen (fun s t => RowsStep sha s t kind)

theorem RowsStep.run {kind : TransferChange} (h : RowsStep sha s t kind) : RowsRun sha kind s t :=
  .single h

theorem detach_all_run {diagnostic : String} {ids : List String}
    (hids : ∀ id ∈ ids, s.Detachable id)
    (h : ids.foldlM (fun t id => t.detach_project_transfer sha diagnostic id) s = .ok t) :
    RowsRun sha .detach s t := by
  induction ids generalizing s with
  | nil =>
    obtain rfl := except_pure_ok.mp h
    exact .refl
  | cons id rest ih =>
    rw [List.foldlM_cons, except_bind_ok] at h
    obtain ⟨u, hu, h⟩ := h
    have hid := hids id (List.mem_cons_self ..)
    have hstep := detach_row_step (fun r hr => by
      obtain ⟨p, hold, -⟩ := holds_of_read hr
      exact hid r hold.1) hu
    -- what is still to be frozen was not completed meanwhile
    refine .trans hstep.run (ih ?_ h)
    intro id' hid'
    exact detach_detachable hid (hids id' (List.mem_cons_of_mem _ hid')) hu

theorem detach_run {diagnostic : String}
    (h : s.detach_project_transfers_for_restore sha diagnostic = .ok t) :
    RowsRun sha .detach s t := by
  refine detach_all_run ?_ h
  intro id hid r hr
  rw [List.mem_mergeSort, List.mem_map] at hid
  obtain ⟨x, hx, rfl⟩ := hid
  rw [List.mem_filter, decide_eq_true_eq] at hx
  obtain rfl : x = r := Option.some.inj
    ((Table.mem_items_iff.mp hx.1).symm.trans hr)
  exact hx.2

end SpaceStore

/-! ### Runs -/

namespace TransferOperation

open SpaceStore

variable {s t : SpaceStore}

theorem map_fst_ok {α : Type} {x : TransferResult (SpaceStore × α)} :
    Prod.fst <$> x = .ok t ↔ ∃ a, x = .ok (t, a) := by
  cases x with
  | error e => simp
  | ok y => simp [Functor.map, Except.map, Prod.ext_iff]

/-- How an operation touches the request rows. -/
def change : TransferOperation → TransferChange
  | create_source _ _ _ _ _ secret => .create secret
  | create_target _ _ secret _ => .create secret
  | link _ receipt => .link receipt
  | record_admission _ _ _ => .admitted
  | accept_admission _ _ => .admitted
  | record_release _ _ _ _ _ => .release
  | accept_release _ _ => .release
  | mark_fenced _ _ => .fence
  | bind_own _ _ _ => .bind
  | bind_archive _ _ _ _ _ => .bind
  | begin_upload _ _ => .quiet
  | complete_upload _ _ _ => .quiet
  | begin_import _ => .quiet
  | complete_import _ _ _ => .quiet
  | activate request_id _ _ _ _ => .activate request_id
  | expose _ => .expose
  | verify_activation _ proof => .acknowledge proof
  | accept_cleanup _ acknowledgment _ => .accept_cleanup acknowledgment
  | acknowledge_cleanup _ => .cleanup
  | consume _ _ => .consume
  | complete _ => .complete
  | retire _ _ => .quiet
  | detach_for_restore _ => .detach
  | reenter _ _ _ _ _ _ => .reenter

/-- An operation that succeeds changes one request at a time. -/
theorem exec_run {op : TransferOperation} (h : op.exec sha s = .ok t) :
    RowsRun sha op.change s t := by
  cases op with
  -- a restore is a run of its own; every other operation is one transaction
  | detach_for_restore diagnostic => exact detach_run h
  | create_source request_id project_id target_space_id initiated_by configuration secret =>
    obtain ⟨v, h⟩ := map_fst_ok.mp h
    exact (create_source_step h).run
  | create_target request_id body secret now =>
    obtain ⟨v, h⟩ := map_fst_ok.mp h
    exact (create_target_step h).run
  | link request_id receipt =>
    obtain ⟨v, h⟩ := map_fst_ok.mp h
    exact (link_step h).run
  | record_admission request_id admitted_by now =>
    obtain ⟨v, h⟩ := map_fst_ok.mp h
    exact (admission_step h).run
  | accept_admission request_id receipt =>
    obtain ⟨v, h⟩ := map_fst_ok.mp h
    exact (accept_admission_step h).run
  | record_release request_id released_by configuration source_head now =>
    obtain ⟨v, h⟩ := map_fst_ok.mp h
    exact (release_step h).run
  | accept_release request_id receipt =>
    obtain ⟨v, h⟩ := map_fst_ok.mp h
    exact (accept_release_step h).run
  | mark_fenced request_id source_head =>
    obtain ⟨v, h⟩ := map_fst_ok.mp h
    exact (fence_step h).run
  | bind_own request_id archive_sha256 archive_size_bytes =>
    obtain ⟨v, h⟩ := map_fst_ok.mp h
    exact (bind_own_step h).run
  | bind_archive request_id user_id archive_sha256 archive_size_bytes source_fence_head =>
    obtain ⟨v, h⟩ := map_fst_ok.mp h
    exact (bind_archive_step h).run
  -- uploads and imports have tables of their own
  | begin_upload request_id lease_boundary =>
    obtain ⟨v, h⟩ := map_fst_ok.mp h
    obtain ⟨hrequests, hproofs⟩ := begin_upload_kept h
    exact (RowsStep.kept .quiet hrequests hproofs).run
  | complete_upload request_id lease_boundary now =>
    obtain ⟨v, h⟩ := map_fst_ok.mp h
    obtain ⟨hrequests, hproofs⟩ := complete_upload_kept h
    exact (RowsStep.kept .quiet hrequests hproofs).run
  | begin_import imported =>
    obtain ⟨v, h⟩ := map_fst_ok.mp h
    obtain ⟨hrequests, hproofs⟩ := begin_import_kept h
    exact (RowsStep.kept .quiet hrequests hproofs).run
  | complete_import request_id publication_sha256 now =>
    obtain ⟨v, h⟩ := map_fst_ok.mp h
    obtain ⟨hrequests, hproofs⟩ := complete_import_kept h
    exact (RowsStep.kept .quiet hrequests hproofs).run
  | activate request_id project provisioning_revision final_review_digest now =>
    obtain ⟨v, h⟩ := map_fst_ok.mp h
    exact (activate_step h).run
  | expose request_id =>
    obtain ⟨b, h⟩ := map_fst_ok.mp h
    exact (expose_step h).run
  | verify_activation request_id proof =>
    obtain ⟨a, h⟩ := map_fst_ok.mp h
    exact (verify_step h).run
  | accept_cleanup request_id acknowledgment accepted_by =>
    obtain ⟨v, h⟩ := map_fst_ok.mp h
    exact (accept_cleanup_step h).run
  | acknowledge_cleanup request_id =>
    obtain ⟨v, h⟩ := map_fst_ok.mp h
    exact (cleanup_step h).run
  | consume request_id acknowledgement_sha256 =>
    obtain ⟨v, h⟩ := map_fst_ok.mp h
    exact (consume_step h).run
  | complete request_id =>
    obtain ⟨v, h⟩ := map_fst_ok.mp h
    exact (complete_step h).run
  | retire request_id now =>
    obtain ⟨v, h⟩ := map_fst_ok.mp h
    exact (retire_step h).run
  | reenter request_id restored_revision resume_phase final_review_digest confirmed_by
      lease_boundary =>
    obtain ⟨v, h⟩ := map_fst_ok.mp h
    exact (reenter_step h).run

end TransferOperation

namespace SpaceStore

variable {s t u : SpaceStore}

variable {kind : TransferChange}

theorem RowsRun.consistent (h : RowsRun sha kind s t) (hs : Consistent sha s) :
    Consistent sha t := by
  induction h with
  | refl => exact hs
  | tail _ hstep ih => exact hstep.consistent ih

theorem RowsRun.later (h : RowsRun sha kind s t) (hs : Consistent sha s) : Later s t := by
  induction h with
  | refl => exact Later.refl s
  | tail hrun hstep ih => exact ih.trans (hstep.later (RowsRun.consistent hrun hs))

/-- One step of a space: a transfer operation, or work that leaves the transfer requests alone. -/
inductive SpaceStep (sha : TransferDigests) (s t : SpaceStore) : Prop
  | operation (op : TransferOperation) (h : op.exec sha s = .ok t)
  | elsewhere (hrequests : t.requests = s.requests) (hproofs : t.proofs = s.proofs)

/-- A run of a space. -/
abbrev SpaceRun (sha : TransferDigests) : SpaceStore → SpaceStore → Prop :=
  Relation.ReflTransGen (SpaceStep sha)

theorem SpaceStep.rows (h : SpaceStep sha s t) : ∃ kind, RowsRun sha kind s t := by
  cases h with
  | operation op h => exact ⟨op.change, TransferOperation.exec_run h⟩
  | elsewhere hrequests hproofs => exact ⟨.quiet, (RowsStep.kept .quiet hrequests hproofs).run⟩

/-- A run keeps the requests consistent, and only advances them. -/
theorem SpaceRun.consistent_later (h : SpaceRun sha s t) (hs : Consistent sha s) :
    Consistent sha t ∧ Later s t := by
  induction h with
  | refl => exact ⟨hs, Later.refl s⟩
  | tail _ hstep ih =>
    obtain ⟨kind, hrows⟩ := hstep.rows
    exact ⟨hrows.consistent ih.1, ih.2.trans (hrows.later ih.1)⟩

/-- A space without transfer requests. -/
theorem consistent_of_empty (hrequests : s.requests = Table.empty)
    (hproofs : s.proofs = Table.empty) : Consistent sha s := by
  constructor
  · intro id
    rw [hrequests, hproofs]
    rfl
  · intro id r p hold
    rw [Holds, hrequests] at hold
    cases hold.1
  · rw [hrequests]
    intro r hr
    cases hr

/-- A space that had no transfers, after any run: every stored request reads back, and a side
    holds no other request for the same project. -/
theorem stored_request_reads (hrequests : s.requests = Table.empty)
    (hproofs : s.proofs = Table.empty)
    (hrun : SpaceRun sha s t) {id : String} {r : TransferRequest}
    (hstored : t.requests.get? id = some r) :
    t.project_transfer_request_from_connection sha id = .ok r
      ∧ ∀ id' r', t.requests.get? id' = some r' → r'.side = r.side →
        r'.project_id = r.project_id → id' = id := by
  obtain ⟨ht, -⟩ := hrun.consistent_later (consistent_of_empty hrequests hproofs)
  obtain ⟨p, hold⟩ := ht.holds hstored
  refine ⟨read_of_sound hold (ht.sound id r p hold), ?_⟩
  intro id' r' hstored' hside hproject
  have hsame : r' = r := ht.one r' (Table.get?_eq_some_iff.mp hstored').1 r
    (Table.get?_eq_some_iff.mp hstored).1 hside hproject
  rw [← Table.key_of_get? hstored', ← Table.key_of_get? hstored, hsame]

/-- Whatever follows, the freeze of the stored rows at a restore included, a request keeps its
    receipts, its fence and its archive; its phase, its proof and its revision never go back; its
    secret is kept or erased. Bringing back an older copy of the tables is no step of a run. -/
theorem request_only_advances (hrequests : s.requests = Table.empty)
    (hproofs : s.proofs = Table.empty) (hrun : SpaceRun sha s t) (hlater : SpaceRun sha t u)
    {id : String} {r : TransferRequest} (hstored : t.requests.get? id = some r) :
    ∃ p r' p', t.Holds id r p ∧ u.Holds id r' p' ∧ Advanced r p r' p' := by
  obtain ⟨ht, -⟩ := hrun.consistent_later (consistent_of_empty hrequests hproofs)
  obtain ⟨p, hold⟩ := ht.holds hstored
  obtain ⟨r', p', hold', hadvanced⟩ := (hlater.consistent_later ht).2 id r p hold
  exact ⟨p, r', p', hold, hold', hadvanced⟩

/-! ### Running operations -/

end SpaceStore

/-- The store after an operation; one that raises is rolled back. -/
def TransferOperation.after (sha : TransferDigests) (s : SpaceStore) (op : TransferOperation) :
    SpaceStore :=
  match op.exec sha s with
  | .ok t => t
  | .error _ => s

namespace SpaceStore

variable {s : SpaceStore}

/-- Any list of operations makes a run. -/
theorem run_of_operations (ops : List TransferOperation) :
    SpaceRun sha s (ops.foldl (TransferOperation.after sha) s) := by
  induction ops generalizing s with
  | nil => exact .refl
  | cons op rest ih =>
    rw [List.foldl_cons]
    refine .head ?_ ih
    unfold TransferOperation.after
    cases hop : op.exec sha s with
    | ok t => exact .operation op hop
    | error e => exact .elsewhere rfl rfl

/-- Digests that tell the two secrets of one transfer apart. -/
def sample_digests : TransferDigests where
  secret b := if b.head? = some 1 then "release" else "activation"
  configuration c := c.source_manifest_sha256
  admission a := a.target_preparation_sha256
  acknowledgment a := a.archive_sha256
  manifest m := m.payload
  archive a := a.manifest.payload
  archive_size a := a.release_proof.length + 1
  archive_size_pos _ := Nat.succ_pos _

def sample_owner : AuthorizedHuman := ⟨"personal", "ada", "Ada"⟩

def sample_repository : TransferRepositorySource := ⟨"code", "owner/code", "laptop"⟩

def sample_configuration : TransferSourceConfiguration where
  source_rcp_version := "1"
  source_schema_generation := 7
  supported_archive_codecs := ["tar"]
  machine_aliases := ["laptop"]
  repositories := Table.empty.put sample_repository
  state_repository := "code"
  project_truth_scope := ["code"]
  default_run_truth_scope := ["code"]
  source_manifest_sha256 := "manifest"

def sample_personal : SpaceStore where
  space_id := "personal"
  space_kind := .personal
  members := ["ada"]
  projects := Table.empty.put
    { project_id := "project", home_space_id := "personal", locator := "here", name := "Project" }

def sample_link : TransferLinkReceipt where
  source_request_id := "source"
  target_request_id := "target"
  project_id := "project"
  source_space_id := "personal"
  target_space_id := "team"
  source_configuration_sha256 := "manifest"
  target_repositories := Table.empty.put ⟨"code", "owner/code"⟩
  accepted_schema_generation := 7
  accepted_archive_codec := "tar"
  source_release_proof_sha256 := "release"
  target_activation_proof_sha256 := "activation"
  created_at := "now"

def sample_created : SpaceStore :=
  [TransferOperation.create_source "source" "project" "team" sample_owner sample_configuration
    (List.replicate 32 1)].foldl (TransferOperation.after sample_digests) sample_personal

def sample_linked : SpaceStore :=
  [TransferOperation.link "source" sample_link].foldl (TransferOperation.after sample_digests)
    sample_created

theorem stored_request_reads_linked : ∃ r, sample_linked.requests.get? "source" = some r
    ∧ r.phase = .linked
    ∧ sample_linked.project_transfer_request_from_connection sample_digests "source" = .ok r := by
  have hphase : (sample_linked.requests.get? "source").map TransferRequest.phase
      = some .linked := by
    decide +kernel
  obtain ⟨r, hr, hlinked⟩ := Option.map_eq_some_iff.mp hphase
  have hrun : SpaceRun sample_digests sample_personal sample_linked :=
    (run_of_operations _).trans (run_of_operations _)
  exact ⟨r, hr, hlinked, (stored_request_reads rfl rfl hrun hr).1⟩

def sample_admission : TransferTargetAdmissionReceipt where
  source_request_id := "source"
  target_request_id := "target"
  project_id := "project"
  source_space_id := "personal"
  target_space_id := "team"
  admitted_by := ⟨"team", "ada", "Ada"⟩
  source_configuration_sha256 := "manifest"
  target_preparation_revision := 3
  target_preparation_sha256 := "review"
  resolved_paths := [⟨"code", "hub", "/srv/code"⟩]
  accepted_schema_generation := 7
  accepted_archive_codec := "tar"
  source_release_proof_sha256 := "release"
  target_activation_proof_sha256 := "activation"
  created_at := "now"

/-- The source after its archive was bound. -/
def sample_bound : SpaceStore :=
  [TransferOperation.accept_admission "source" sample_admission,
    .record_release "source" sample_owner sample_configuration { revision := 4 } "now",
    .mark_fenced "source" { revision := 5 },
    .expose "source",
    .bind_own "source" "archive" 33].foldl (TransferOperation.after sample_digests) sample_linked

/-- The same after its target was verified and its proof consumed. -/
def sample_consumed : SpaceStore :=
  [TransferOperation.verify_activation "source" (List.replicate 32 2),
    .acknowledge_cleanup "source",
    .consume "source" "archive"].foldl (TransferOperation.after sample_digests) sample_bound

theorem request_only_advances_bound : ∃ r r' p p', sample_bound.Holds "source" r p
    ∧ sample_consumed.Holds "source" r' p' ∧ r.phase = .archive_bound
    ∧ r'.phase = .cleanup_acknowledged ∧ p'.secret = none
    ∧ r'.archive_sha256 = some "archive" ∧ r'.link_receipt = some sample_link
    ∧ r'.source_fence_head = some { revision := 5 } := by
  have hbound : (sample_bound.requests.get? "source").map (fun r =>
      (r.phase, r.archive_sha256, r.link_receipt, r.source_fence_head))
      = some (.archive_bound, some "archive", some sample_link, some { revision := 5 }) := by
    decide +kernel
  have hconsumed : (sample_consumed.requests.get? "source").map TransferRequest.phase
      = some .cleanup_acknowledged := by
    decide +kernel
  have herased : (sample_consumed.proofs.get? "source").map TransferProof.secret = some none := by
    decide +kernel
  obtain ⟨r, hr, hfields⟩ := Option.map_eq_some_iff.mp hbound
  simp only [Prod.mk.injEq] at hfields
  obtain ⟨r', hr', hphase⟩ := Option.map_eq_some_iff.mp hconsumed
  obtain ⟨p', hp', hsecret⟩ := Option.map_eq_some_iff.mp herased
  have hrun : SpaceRun sample_digests sample_personal sample_bound :=
    (run_of_operations _).trans ((run_of_operations _).trans (run_of_operations _))
  obtain ⟨p, x, y, hold, hold', hadvanced⟩ :=
    request_only_advances rfl rfl hrun (run_of_operations (s := sample_bound) _) hr
  obtain rfl : r' = x := Option.some.inj (hr'.symm.trans hold'.1)
  obtain rfl : p' = y := Option.some.inj (hp'.symm.trans hold'.2)
  exact ⟨r, r', p, p', hold, hold', hfields.1, hphase, hsecret,
    hadvanced.archive _ hfields.2.1, hadvanced.link _ hfields.2.2.1,
    hadvanced.fence _ hfields.2.2.2⟩

end SpaceStore

end ResearchGraph
