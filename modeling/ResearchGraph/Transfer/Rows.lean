import ResearchGraph.Transfer.Store
import Mathlib.Logic.Relation

/-! # What an operation does to the request rows

    However an operation of a space works, it touches at most one request row
    together with its protected proof, in one of a few ways. `RequestChange`
    lists them. Everything that holds of rows over whole runs is read off this
    list.
-/

namespace ResearchGraph

open Lib

variable (sha : TransferDigests)

/-! ### Shapes -/

namespace TransferRequest

variable {r : TransferRequest}

/-- What a validated row shows. -/
structure Shaped (r : TransferRequest) : Prop where
  crosses : r.source_space_id ≠ r.target_space_id
  restored : r.phase = .operator_action_needed →
    r.side = .target ∧ r.restore_resume_phase.any TransferPhase.restorable = true
  ordinary : r.phase ≠ .operator_action_needed → r.restore_resume_phase = none
  unlinked : r.effective_phase = .awaiting_link → r.side = .source
  linked : r.effective_phase ≠ .awaiting_link →
    r.linked_request_id.isSome ∧ r.target_activation_proof_sha256.isSome ∧ r.link_receipt.isSome
  no_link : r.effective_phase = .awaiting_link →
    r.linked_request_id = none ∧ r.target_activation_proof_sha256 = none ∧ r.link_receipt = none
  admission : r.target_admission_receipt.isSome ↔ 2 ≤ r.rank
  release : r.source_release_receipt.isSome ↔ 3 ≤ r.rank
  fence : r.side = .source → (r.source_fence_head.isSome ↔ 4 ≤ r.rank)
  no_fence : r.rank < 4 → r.source_fence_head = none
  archive_fence : 5 ≤ r.rank → r.source_fence_head.isSome
  archive : r.archive_sha256.isSome ↔ 5 ≤ r.rank
  archive_size : r.archive_size_bytes.isSome ↔ 5 ≤ r.rank
  acknowledged : r.proof_acknowledgement_sha256.isSome ↔ r.proof_state.verified = true

/-- Two negated guards that split on a bound say when an optional field is set. -/
private theorem isSome_iff_of_guards {α : Type} {o : Option α} {n m : Nat}
    (hset : ¬ (n ≤ m ∧ o = none)) (hunset : ¬ (m < n ∧ o ≠ none)) : o.isSome ↔ n ≤ m := by
  cases o with
  | none => simpa using hset
  | some a =>
    have : ¬ m < n := by
      intro hlt
      exact hunset ⟨hlt, by simp⟩
    simp only [Option.isSome_some, true_iff]
    omega

/-- A field that is set from a rank on is empty before it. -/
theorem none_before {α : Type} {o : Option α} {n m : Nat} (h : o.isSome ↔ n ≤ m) (hlow : m < n) :
    o = none := by
  rw [← Option.not_isSome_iff_eq_none, h]
  exact Nat.not_le.mpr hlow

theorem elim_ok {α : Type} {o : Option α} {f : α → Except TransferError Unit} :
    o.elim (.ok ()) f = .ok () ↔ ∀ a, o = some a → f a = .ok () := by
  cases o with
  | none => simp
  | some a => simp

theorem model_validate_ok :
    r.model_validate = .ok () ↔ (∀ a, r.link_receipt = some a → a.validate = .ok ()) ∧
      (∀ a, r.target_admission_receipt = some a → a.validate = .ok ()) ∧
      (∀ a, r.source_release_receipt = some a → a.validate = .ok ()) ∧
      r.validate_protocol_shape = .ok () := by
  simp only [model_validate, except_bind_ok]
  constructor
  · rintro ⟨⟨⟩, hl, ⟨⟩, ht, ⟨⟩, hs, h⟩
    exact ⟨elim_ok.mp hl, elim_ok.mp ht, elim_ok.mp hs, h⟩
  · rintro ⟨hl, ht, hs, h⟩
    exact ⟨(), elim_ok.mpr hl, (), elim_ok.mpr ht, (), elim_ok.mpr hs, h⟩

theorem shaped_of_validate (h : r.model_validate = .ok ()) : r.Shaped := by
  obtain ⟨-, -, -, h⟩ := model_validate_ok.mp h
  simp only [validate_protocol_shape, raise_first_ok, List.forall_mem_cons, decide_eq_false_iff_not]
    at h
  obtain ⟨hcross, -, hrestored, hordinary, hunlinked, hlinked, -, -, ha, ha', hr, hr', hf, hf', hz,
    hzf, hz', hp, hp', -⟩ := h
  constructor
  · exact hcross
  · intro hphase
    simp only [hphase, true_and, not_or, not_not] at hrestored
    exact ⟨hrestored.1, hrestored.2.1⟩
  · intro hphase
    by_contra hne
    exact hordinary ⟨hphase, Or.inl hne⟩
  · intro hphase
    by_contra hne
    exact hunlinked ⟨hphase, Or.inl hne⟩
  · intro hphase
    simp only [ne_eq, hphase, not_false_eq_true, true_and, not_or, linked_fields, List.all_cons,
      List.all_nil, id_eq, Bool.and_true, Bool.not_eq_true', Bool.not_eq_false, Bool.and_eq_true]
      at hlinked
    refine ⟨hlinked.1.1, hlinked.1.2.2.2, ?_⟩
    rw [Option.isSome_iff_ne_none]
    exact hlinked.2
  · intro hphase
    simp only [hphase, true_and, not_or, linked_fields, List.any_cons, List.any_nil, id_eq,
      Bool.or_false, Bool.or_eq_true, Option.not_isSome_iff_eq_none, not_not] at hunlinked
    exact ⟨hunlinked.2.1.1, hunlinked.2.1.2.2.2, hunlinked.2.2⟩
  -- from here on each field comes with a guard for too early and one for missing
  · exact isSome_iff_of_guards ha ha'
  · exact isSome_iff_of_guards hr hr'
  · intro hside
    refine isSome_iff_of_guards ?_ hf'
    intro hcontra
    exact hf ⟨hcontra.1, hside, hcontra.2⟩
  · intro hrank
    by_contra hne
    exact hf' ⟨hrank, hne⟩
  · intro hrank
    rw [Option.isSome_iff_ne_none]
    intro hnone
    exact hzf ⟨hrank, hnone⟩
  · refine isSome_iff_of_guards ?_ ?_
    · intro hcontra
      exact hz ⟨hcontra.1, Or.inl hcontra.2⟩
    · intro hcontra
      exact hz' ⟨hcontra.1, Or.inl hcontra.2⟩
  · refine isSome_iff_of_guards ?_ ?_
    · intro hcontra
      exact hz ⟨hcontra.1, Or.inr hcontra.2⟩
    · intro hcontra
      exact hz' ⟨hcontra.1, Or.inr hcontra.2⟩
  · cases hstate : r.proof_state.verified with
    | true =>
      rw [Option.isSome_iff_ne_none]
      simp only [iff_true]
      intro hnone
      exact hp ⟨hstate, hnone⟩
    | false =>
      by_contra hne
      apply hp'
      simp only [hstate, Bool.not_false, true_and]
      intro hnone
      simp [hnone] at hne

/-- Another archive in the place of one that is bound. -/
theorem validate_with_archive {digest : String} {size : Nat}
    (h : r.model_validate = .ok ()) (hbound : r.archive_sha256 ≠ none) :
    { r with archive_sha256 := some digest, archive_size_bytes := some size }.model_validate
      = .ok () := by
  obtain ⟨hl, ht, hs, h⟩ := model_validate_ok.mp h
  refine model_validate_ok.mpr ⟨hl, ht, hs, ?_⟩
  -- the guards are read off a variable, where their instances are those of the definition
  generalize hr' : { r with archive_sha256 := some digest, archive_size_bytes := some size } = r'
  simp only [validate_protocol_shape, raise_first_ok, List.forall_mem_cons, decide_eq_false_iff_not]
    at h ⊢
  subst hr'
  obtain ⟨hcross, hinitiator, hrestored, hordinary, hunlinked, hlinked, hschema, hcodec, ha, ha',
    hr, hr', hf, hf', -, hzf, hz', hp, hp', hnil⟩ := h
  refine ⟨hcross, hinitiator, hrestored, hordinary, hunlinked, hlinked, hschema, hcodec, ha, ha',
    hr, hr', hf, hf', ?_, hzf, ?_, hp, hp', hnil⟩
  · simp
  · intro hlt
    exact hz' ⟨hlt.1, Or.inl hbound⟩

/-- A request that is cleaned up may be completed. -/
theorem validate_completed (h : r.model_validate = .ok ())
    (hphase : r.phase = .cleanup_acknowledged) :
    { r with phase := .completed }.model_validate = .ok () := by
  obtain ⟨hl, ht, hs, h⟩ := model_validate_ok.mp h
  refine model_validate_ok.mpr ⟨hl, ht, hs, ?_⟩
  have heffective : r.effective_phase = .cleanup_acknowledged := by
    rw [effective_phase, hphase]
    rfl
  have hrank : r.rank = 7 := by
    rw [rank, heffective]
    rfl
  generalize hr' : { r with phase := TransferPhase.completed } = r'
  have heffective' : r'.effective_phase = .completed := by
    rw [← hr']
    rfl
  have hrank' : r'.rank = 8 := by
    rw [rank, heffective']
    rfl
  simp only [validate_protocol_shape, raise_first_ok, List.forall_mem_cons, decide_eq_false_iff_not,
    heffective, hrank, heffective', hrank'] at h ⊢
  subst hr'
  -- a completed row has no guard against what is too early, and the others held before
  obtain ⟨hcross, hinitiator, -, hordinary, -, hlinked, hschema, hcodec, ha, -, hr, -, hf, -, hz,
    hzf, -, hp, hp', hnil⟩ := h
  refine ⟨hcross, hinitiator, by simp, ?_, by simp, ?_, hschema, hcodec, ?_, by simp, ?_, by simp,
    ?_, by simp, ?_, ?_, by simp, hp, hp', hnil⟩
  · intro hrestored
    exact hordinary ⟨by simp [hphase], hrestored.2⟩
  · intro hunlinked
    exact hlinked ⟨by simp, hunlinked.2⟩
  · intro hnone
    exact ha ⟨by omega, hnone.2⟩
  · intro hnone
    exact hr ⟨by omega, hnone.2⟩
  · intro hnone
    exact hf ⟨by omega, hnone.2⟩
  · intro hnone
    exact hz ⟨by omega, hnone.2⟩
  · intro hnone
    exact hzf ⟨by omega, hnone.2⟩

/-! ### Receipts that match -/

theorem link_matches_iff {a : TransferLinkReceipt} :
    r.require_link_receipt_matches a = .ok () ↔
      (r.source_request_id = some a.source_request_id
        ∧ (∀ id, r.target_request_id = some id → a.target_request_id = id)
        ∧ a.project_id = r.project_id ∧ a.source_space_id = r.source_space_id
        ∧ a.target_space_id = r.target_space_id
        ∧ a.source_configuration_sha256 = r.source_configuration_sha256
        ∧ a.accepted_schema_generation = r.source_configuration.source_schema_generation
        ∧ a.accepted_archive_codec ∈ r.source_configuration.supported_archive_codecs
        ∧ a.source_release_proof_sha256 = r.source_release_proof_sha256
        ∧ (r.source_configuration.repositories.items.map
            (fun x => (x.repository_alias, x.identity))).Perm
          (a.target_repositories.items.map (fun x => (x.repository_alias, x.identity))))
      ∧ (r.link_receipt ≠ none → r.link_receipt = some a
        ∧ r.target_activation_proof_sha256 = some a.target_activation_proof_sha256
        ∧ r.accepted_schema_generation = some a.accepted_schema_generation
        ∧ r.accepted_archive_codec = some a.accepted_archive_codec) := by
  simp only [require_link_receipt_matches, raise_first_ok, List.forall_mem_cons,
    List.not_mem_nil, IsEmpty.forall_iff, implies_true, and_true, decide_eq_false_iff_not, not_or,
    not_and, ne_eq, not_not, Bool.not_eq_true', Bool.not_eq_false, List.contains_iff_mem]
  refine and_congr_left' (and_congr_right' (and_congr_left' ?_))
  cases r.target_request_id with
  | none => simp
  | some id =>
    simp only [Option.any_some, decide_not, Bool.not_eq_true', decide_eq_false_iff_not, not_not,
      Option.some.injEq, forall_eq']
    exact eq_comm

theorem admission_matches_iff {a : TransferTargetAdmissionReceipt} :
    r.require_target_admission_matches a = .ok () ↔
      r.source_request_id = some a.source_request_id
        ∧ r.target_request_id = some a.target_request_id
        ∧ a.project_id = r.project_id ∧ a.source_space_id = r.source_space_id
        ∧ a.target_space_id = r.target_space_id
        ∧ a.source_configuration_sha256 = r.source_configuration_sha256
        ∧ r.accepted_schema_generation = some a.accepted_schema_generation
        ∧ r.accepted_archive_codec = some a.accepted_archive_codec
        ∧ a.source_release_proof_sha256 = r.source_release_proof_sha256
        ∧ r.target_activation_proof_sha256 = some a.target_activation_proof_sha256 := by
  simp only [require_target_admission_matches, raise_first_ok, List.mem_singleton, forall_eq,
    decide_eq_false_iff_not, not_or, ne_eq, not_not]

theorem release_matches_iff {sha : TransferDigests} {a : TransferSourceReleaseReceipt} :
    r.require_source_release_matches sha a = .ok () ↔
      r.source_request_id = some a.source_request_id
        ∧ r.target_request_id = some a.target_request_id
        ∧ a.project_id = r.project_id ∧ a.source_space_id = r.source_space_id
        ∧ a.target_space_id = r.target_space_id
        ∧ a.source_configuration_sha256 = r.source_configuration_sha256
        ∧ r.target_admission_receipt.map sha.admission = some a.target_admission_sha256
        ∧ r.target_admission_receipt.map (·.target_preparation_revision)
            = some a.target_preparation_revision
        ∧ r.target_admission_receipt.map (·.target_preparation_sha256)
            = some a.target_preparation_sha256
        ∧ r.accepted_schema_generation = some a.accepted_schema_generation
        ∧ r.accepted_archive_codec = some a.accepted_archive_codec
        ∧ a.source_release_proof_sha256 = r.source_release_proof_sha256
        ∧ r.target_activation_proof_sha256 = some a.target_activation_proof_sha256 := by
  simp only [require_source_release_matches, raise_first_ok, List.mem_singleton, forall_eq,
    decide_eq_false_iff_not, not_or, ne_eq, not_not]

/-! ### Changes of a row -/

/-- The next revision of a row, with its changes. -/
def bump (r : TransferRequest) : TransferRequest := { r with revision := r.revision + 1 }

end TransferRequest

/-- The ways in which an operation may touch a request. -/
inductive TransferChange
  | quiet
  | create (secret : List UInt8)
  | link (receipt : TransferLinkReceipt)
  | admitted
  | release
  | fence
  | bind
  | activate (request_id : String)
  | expose
  | acknowledge (proof : List UInt8)
  | accept_cleanup (acknowledgment : TransferCleanupAcknowledgment)
  | consume
  | cleanup
  | complete
  | detach
  | reenter
  deriving DecidableEq

/-- What an operation may do to a request `r` and its protected proof `p`. -/
inductive RequestChange (r : TransferRequest) (p : TransferProof) :
    TransferChange → TransferRequest → TransferProof → Prop
  | link (receipt : TransferLinkReceipt) (hside : r.side = .source)
      (hphase : r.phase = .awaiting_link)
      (hmatch : r.require_link_receipt_matches receipt = .ok ()) :
      RequestChange r p (.link receipt) { r.bump with
        phase := .linked
        linked_request_id := some receipt.target_request_id
        accepted_schema_generation := some receipt.accepted_schema_generation
        accepted_archive_codec := some receipt.accepted_archive_codec
        target_activation_proof_sha256 := some receipt.target_activation_proof_sha256
        link_receipt := some receipt } p
  | admitted (receipt : TransferTargetAdmissionReceipt) (hphase : r.phase = .linked)
      (hmatch : r.require_target_admission_matches receipt = .ok ()) :
      RequestChange r p .admitted { r.bump with
        phase := .target_admitted, target_admission_receipt := some receipt } p
  | release (receipt : TransferSourceReleaseReceipt) (hphase : r.phase = .target_admitted)
      (hmatch : r.require_source_release_matches sha receipt = .ok ()) :
      RequestChange r p .release { r.bump with
        phase := .source_released, source_release_receipt := some receipt } p
  | fence (head : GraphHeadRef) (hside : r.side = .source) (hphase : r.phase = .source_released) :
      RequestChange r p .fence { r.bump with
        phase := .source_fenced, source_fence_head := some head } p
  | bind (head : GraphHeadRef) (digest : String) (size : Nat)
      (hphase : r.phase
        = (match r.side with | .source => .source_fenced | .target => .source_released))
      (hexposed : r.side = .source → p.state = .exposed)
      (hhead : r.side = .source → r.source_fence_head = some head) :
      RequestChange r p .bind { r.bump with
        phase := .archive_bound, source_fence_head := some head,
        archive_sha256 := some digest, archive_size_bytes := some size } p
  | activate (hside : r.side = .target) (hphase : r.phase = .archive_bound) :
      RequestChange r p (.activate r.request_id) { r.bump with phase := .target_activated } p
  | expose (hphase : (match r.side with
        | .source => [TransferPhase.source_fenced, .archive_bound]
        | .target => [TransferPhase.target_activated, .cleanup_acknowledged, .completed]).contains
          r.phase = true)
      (hstate : p.state = .unexposed) :
      RequestChange r p .expose { r.bump with proof_state := .exposed } { p with state := .exposed }
  | acknowledge (proof : List UInt8) (digest : String) (hside : r.side = .source)
      (hphase : r.phase = .archive_bound) (hstate : p.state = .exposed)
      (hproof : r.target_activation_proof_sha256 = some (sha.secret proof)) :
      RequestChange r p (.acknowledge proof)
        { r.bump with
          proof_state := .acknowledged, proof_acknowledgement_sha256 := some digest }
        { p with state := .acknowledged, acknowledgement_sha256 := some digest }
  | accept_cleanup (acknowledgment : TransferCleanupAcknowledgment) (hside : r.side = .target)
      (hphase : r.phase = .target_activated) (hstate : p.state = .exposed)
      (hmatch : r.require_cleanup_acknowledgment_matches acknowledgment = .ok ()) :
      RequestChange r p (.accept_cleanup acknowledgment)
        { r.bump with
          phase := .completed, proof_state := .consumed,
          proof_acknowledgement_sha256 := some (sha.acknowledgment acknowledgment) }
        { p with
          state := .consumed
          acknowledgement_sha256 := some (sha.acknowledgment acknowledgment)
          secret := none }
  | consume (hphase : r.phase = .cleanup_acknowledged) (hstate : p.state = .acknowledged) :
      RequestChange r p .consume { r.bump with proof_state := .consumed }
        { p with state := .consumed, secret := none }
  | cleanup (hphase : r.phase = SpaceStore.acknowledging_phase r.side)
      (hstate : p.state = .acknowledged) :
      RequestChange r p .cleanup { r.bump with phase := .cleanup_acknowledged } p
  | complete (hphase : r.phase = .cleanup_acknowledged) (hstate : p.state = .consumed) :
      RequestChange r p .complete { r.bump with phase := .completed } p
  | detach (diagnostic : String) (hside : r.side = .target) (hphase : r.phase ≠ .completed) :
      RequestChange r p .detach { r.bump with
        phase := .operator_action_needed, restore_resume_phase := some r.effective_phase,
        restore_diagnostic := some diagnostic } p
  | reenter (hphase : r.phase = .operator_action_needed)
      (hresume : r.restore_resume_phase = some .archive_bound) :
      RequestChange r p .reenter { r.bump with
        phase := .archive_bound, restore_resume_phase := none, restore_diagnostic := none } p

/-- A row that reads back, next to its protected proof. -/
structure RowSound (r : TransferRequest) (p : TransferProof) : Prop where
  shape : r.model_validate = .ok ()
  configuration : sha.configuration r.source_configuration = r.source_configuration_sha256
  admission : ∀ a, r.target_admission_receipt = some a →
    r.require_target_admission_matches a = .ok ()
  link : ∀ a, r.link_receipt = some a → r.require_link_receipt_matches a = .ok ()
  release : ∀ a, r.source_release_receipt = some a →
    r.require_source_release_matches sha a = .ok ()
  key : p.request_id = r.request_id
  kind : p.kind = r.side
  commitment : some p.commitment_sha256 = SpaceStore.commitment r
  state : p.state = r.proof_state
  acknowledgement : p.acknowledgement_sha256 = r.proof_acknowledgement_sha256
  secret : ∀ b, p.secret = some b → b.length = 32 ∧ sha.secret b = p.commitment_sha256
  erased : p.secret = none ↔ p.state = .consumed

namespace SpaceStore

variable {sha} {s t : SpaceStore}

/-- The two rows of a request. -/
def Holds (s : SpaceStore) (request_id : String) (r : TransferRequest) (p : TransferProof) : Prop :=
  s.requests.get? request_id = some r ∧ s.proofs.get? request_id = some p

theorem Holds.unique {id : String} {r r' : TransferRequest} {p p' : TransferProof}
    (h : s.Holds id r p) (h' : s.Holds id r' p') : r = r' ∧ p = p' := by
  constructor
  · exact Option.some.inj (h.1.symm.trans h'.1)
  · exact Option.some.inj (h.2.symm.trans h'.2)

/-- A request that reads back is stored next to its proof. -/
theorem holds_of_read {id : String} {r : TransferRequest}
    (h : s.project_transfer_request_from_connection sha id = .ok r) : ∃ p, s.Holds id r p ∧
      p.kind = r.side ∧ p.state = r.proof_state
        ∧ p.acknowledgement_sha256 = r.proof_acknowledgement_sha256 := by
  simp only [project_transfer_request_from_connection, except_bind_ok, except_pure_ok, require_ok,
    refuse_ok] at h
  obtain ⟨row, hrow, record, hrecord, proof, hproof, -, hguard, rfl⟩ := h
  obtain rfl : row = r := by
    unfold project_transfer_record at hrecord
    split at hrecord
    · exact Except.ok.inj hrecord
    · cases hrecord
  simp only [not_or, not_not, ne_eq] at hguard
  exact ⟨proof, ⟨hrow, hproof⟩, hguard.1, hguard.2.2.1, hguard.2.2.2⟩

/-- The row of a sound request reads back. -/
theorem read_of_sound {id : String} {r : TransferRequest} {p : TransferProof}
    (h : s.Holds id r p) (hsound : RowSound sha r p) :
    s.project_transfer_request_from_connection sha id = .ok r := by
  have hrecord : project_transfer_record sha r = .ok r := by
    have hadmission := TransferRequest.elim_ok.mpr hsound.admission
    have hlink := TransferRequest.elim_ok.mpr hsound.link
    have hrelease := TransferRequest.elim_ok.mpr hsound.release
    have hconfiguration : refuse (sha.configuration r.source_configuration
        ≠ r.source_configuration_sha256) (TransferError.value_error
          "stored transfer request columns do not match its payload") = .ok () := by
      rw [refuse_ok, not_not]
      exact hsound.configuration
    rw [project_transfer_record, hsound.shape, hconfiguration, hadmission, hlink, hrelease]
    rfl
  simp only [project_transfer_request_from_connection, except_bind_ok, except_pure_ok, require_ok,
    refuse_ok]
  refine ⟨r, h.1, r, hrecord, p, h.2, (), ?_, rfl⟩
  simp only [not_or, not_not, ne_eq]
  exact ⟨hsound.kind, hsound.commitment, hsound.state, hsound.acknowledgement⟩

/-! ### One transaction -/

/-- The protected row of a new request with the secret `b`. -/
def fresh_proof (sha : TransferDigests) (r : TransferRequest) (b : List UInt8) : TransferProof where
  request_id := r.request_id
  kind := r.side
  commitment_sha256 := sha.secret b
  secret := some b

/-- What one transaction does to the request rows. -/
inductive RowsStep (sha : TransferDigests) (s t : SpaceStore) : TransferChange → Prop
  | kept (kind : TransferChange) (hrequests : t.requests = s.requests)
      (hproofs : t.proofs = s.proofs) : RowsStep sha s t kind
  | changed (kind : TransferChange) (id : String) (r r' : TransferRequest) (p p' : TransferProof)
      (hold : s.Holds id r p) (hchange : RequestChange sha r p kind r' p')
      (hshape : r'.model_validate = .ok ())
      (hrequests : t.requests = s.requests.put r') (hproofs : t.proofs = s.proofs.put p') :
      RowsStep sha s t kind
  | created (r : TransferRequest) (b : List UInt8) (hfresh : s.requests.get? r.request_id = none)
      (hphase : r.phase = .awaiting_link ∨ r.phase = .linked ∧ r.side = .target)
      (hone : ∀ x ∈ s.requests.items, ¬ (x.side = r.side ∧ x.project_id = r.project_id))
      (hsound : RowSound sha r (fresh_proof sha r b))
      (hrequests : t.requests = s.requests.put r)
      (hproofs : t.proofs = s.proofs.put (fresh_proof sha r b)) : RowsStep sha s t (.create b)

variable {request_id : String} {current changed v : TransferRequest} {u : SpaceStore}
  {kind : TransferChange}

theorem replace_eq (h : u.replace changed = .ok (t, v)) :
    changed.bump.model_validate = .ok () ∧ v = changed.bump
      ∧ t = { u with requests := u.requests.put changed.bump } := by
  simp only [replace, except_bind_ok, except_pure_ok, Prod.mk.injEq] at h
  obtain ⟨⟨⟩, hshape, rfl, rfl⟩ := h
  exact ⟨hshape, rfl, rfl⟩

theorem replace_ok (h : changed.bump.model_validate = .ok ()) :
    u.replace changed = .ok ({ u with requests := u.requests.put changed.bump }, changed.bump) := by
  simp only [replace, except_bind_ok, except_pure_ok]
  exact ⟨(), h, rfl⟩

/-- A transaction that writes the request alone. -/
theorem step_of_replace
    (hread : s.project_transfer_request_from_connection sha request_id = .ok current)
    (hrequests : u.requests = s.requests) (hproofs : u.proofs = s.proofs)
    (h : u.replace changed = .ok (t, v))
    (hchange : ∀ p, p.state = current.proof_state →
      RequestChange sha current p kind changed.bump p) :
    RowsStep sha s t kind := by
  obtain ⟨hshape, -, rfl⟩ := replace_eq h
  obtain ⟨p, hold, -, hstate, -⟩ := holds_of_read hread
  have hself : s.proofs.put p = s.proofs := by
    apply Table.put_of_get?
    rw [Table.key_of_get? hold.2]
    exact hold.2
  refine .changed kind request_id current _ p p hold (hchange p hstate) hshape ?_ ?_
  · show u.requests.put changed.bump = s.requests.put changed.bump
    rw [hrequests]
  · show u.proofs = s.proofs.put p
    rw [hproofs, hself]

/-- A transaction that writes the request and its protected proof. -/
theorem step_of_replace_with_proof {stored changed_proof : TransferProof}
    (hread : s.project_transfer_request_from_connection sha request_id = .ok current)
    (hproof : s.protected_proof request_id = .ok stored)
    (h : s.replace_with_proof changed_proof changed = .ok (t, v))
    (hchange : stored.state = current.proof_state →
      RequestChange sha current stored kind changed.bump changed_proof) :
    RowsStep sha s t kind := by
  rw [protected_proof, require_ok] at hproof
  obtain ⟨hshape, -, rfl⟩ := replace_eq h
  obtain ⟨p, hold, -, hstate, -⟩ := holds_of_read hread
  obtain rfl : p = stored := Option.some.inj (hold.2.symm.trans hproof)
  exact .changed kind request_id current _ p _ hold (hchange hstate) hshape rfl rfl

theorem step_refl : RowsStep sha s s kind := .kept kind rfl rfl

/-- A repeated operation only checks that it repeats the first one. -/
theorem eq_of_retry {α : Type} {x : TransferResult Unit} {a b : α}
    (h : (x >>= fun _ => pure (s, a)) = .ok (t, b)) : t = s := by
  simp only [except_bind_ok, except_pure_ok, Prod.mk.injEq] at h
  obtain ⟨-, -, rfl, -⟩ := h
  rfl

theorem step_of_retry {α : Type} {x : TransferResult Unit} {a b : α}
    (h : (x >>= fun _ => pure (s, a)) = .ok (t, b)) : RowsStep sha s t kind := by
  rw [eq_of_retry h]
  exact step_refl

/-! ### The operations -/

theorem link_step {receipt : TransferLinkReceipt}
    (h : s.link_source_project_transfer_request sha request_id receipt = .ok (t, v)) :
    RowsStep sha s t (.link receipt) := by
  simp only [link_source_project_transfer_request, except_bind_ok, refuse_ok, ne_eq, not_not] at h
  obtain ⟨-, -, current, hread, -, hside, ⟨⟩, hmatch, h⟩ := h
  by_cases hphase : current.phase = .awaiting_link
  · rw [if_neg (by simp [hphase])] at h
    exact step_of_replace hread rfl rfl h (fun p _ => .link receipt hside hphase hmatch)
  · simp only [hphase, not_false_eq_true, if_true, except_bind_ok, except_pure_ok,
      Prod.mk.injEq] at h
    obtain ⟨-, -, rfl, -⟩ := h
    exact step_refl

theorem accept_admission_step {receipt : TransferTargetAdmissionReceipt}
    (h : s.accept_target_project_transfer_admission sha request_id receipt = .ok (t, v)) :
    RowsStep sha s t .admitted := by
  simp only [accept_target_project_transfer_admission, except_bind_ok] at h
  obtain ⟨-, -, current, hread, ⟨⟩, hmatch, h⟩ := h
  split at h
  · exact step_of_retry h
  · simp only [except_bind_ok, refuse_ok, not_or, ne_eq, not_not] at h
    obtain ⟨-, ⟨-, hphase⟩, h⟩ := h
    exact step_of_replace hread rfl rfl h (fun p _ => .admitted receipt hphase hmatch)

theorem accept_release_step {receipt : TransferSourceReleaseReceipt}
    (h : s.accept_source_project_transfer_release sha request_id receipt = .ok (t, v)) :
    RowsStep sha s t .release := by
  simp only [accept_source_project_transfer_release, except_bind_ok] at h
  obtain ⟨-, -, current, hread, ⟨⟩, hmatch, h⟩ := h
  split at h
  · exact step_of_retry h
  · simp only [except_bind_ok, refuse_ok, not_or, ne_eq, not_not] at h
    obtain ⟨-, ⟨-, hphase⟩, h⟩ := h
    exact step_of_replace hread rfl rfl h (fun p _ => .release receipt hphase hmatch)

theorem accept_cleanup_step {acknowledgment : TransferCleanupAcknowledgment}
    {accepted_by : AuthorizedHuman}
    (h : s.accept_project_transfer_cleanup_acknowledgment sha request_id acknowledgment accepted_by
      = .ok (t, v)) : RowsStep sha s t (.accept_cleanup acknowledgment) := by
  simp only [accept_project_transfer_cleanup_acknowledgment, except_bind_ok] at h
  obtain ⟨-, -, current, hread, -, -, ⟨⟩, hmatch, -, -, stored, hproof, h⟩ := h
  have hside : current.side = .target := by
    simp only [TransferRequest.require_cleanup_acknowledgment_matches, raise_first_ok,
      List.mem_singleton, forall_eq, decide_eq_false_iff_not, not_or, ne_eq, not_not] at hmatch
    exact hmatch.1
  split at h
  · exact step_of_retry h
  · simp only [except_bind_ok, refuse_ok, not_or, ne_eq, not_not] at h
    obtain ⟨-, ⟨hphase, hstate⟩, h⟩ := h
    refine step_of_replace_with_proof hread hproof h
      (fun hp => .accept_cleanup acknowledgment hside hphase ?_ hmatch)
    rw [hp, hstate]

theorem admission_step {admitted_by : AuthorizedHuman} {now : String}
    (h : s.record_target_project_transfer_admission sha request_id admitted_by now
      = .ok (t, v)) : RowsStep sha s t .admitted := by
  simp only [record_target_project_transfer_admission, except_bind_ok] at h
  obtain ⟨current, hread, ⟨⟩, hside, -, -, h⟩ := h
  rw [refuse_ok, not_not] at hside
  split at h
  · exact step_of_retry h
  · simp only [except_bind_ok, refuse_ok, require_ok, not_not] at h
    obtain ⟨provisioning, -, -, -, review, -, source_id, hsource, schema, hschema, codec, hcodec,
      activation, hactivation, -, -, -, -, -, -, -, hphase, h⟩ := h
    refine step_of_replace hread rfl rfl h (fun p _ => .admitted _ hphase ?_)
    rw [TransferRequest.admission_matches_iff]
    refine ⟨?_, ?_, rfl, rfl, rfl, rfl, hschema, hcodec, rfl, hactivation⟩
    · rw [TransferRequest.source_request_id, hside]
      exact hsource
    · rw [TransferRequest.target_request_id, hside]

theorem release_step {released_by : AuthorizedHuman} {configuration : TransferSourceConfiguration}
    {head : GraphHeadRef} {now : String}
    (h : s.record_source_project_transfer_release sha request_id released_by configuration head now
      = .ok (t, v)) : RowsStep sha s t .release := by
  simp only [record_source_project_transfer_release, except_bind_ok] at h
  obtain ⟨current, hread, -, -, ⟨⟩, hside, admission, hadmission, h⟩ := h
  rw [refuse_ok, not_not] at hside
  rw [require_ok] at hadmission
  split at h
  · exact step_of_retry h
  · simp only [except_bind_ok, refuse_ok, require_ok, not_not] at h
    obtain ⟨-, -, -, -, target_id, htarget, schema, hschema, codec, hcodec, activation, hactivation,
      -, -, -, hphase, h⟩ := h
    refine step_of_replace hread rfl rfl h (fun p _ => .release _ hphase ?_)
    rw [TransferRequest.release_matches_iff, hadmission]
    refine ⟨?_, ?_, rfl, rfl, rfl, rfl, rfl, rfl, rfl, hschema, hcodec, rfl, hactivation⟩
    · rw [TransferRequest.source_request_id, hside]
    · rw [TransferRequest.target_request_id, hside]
      exact htarget

theorem activate_step {project : CatalogProject} {revision : Nat} {review now : String}
    {activation : TransferActivation}
    (h : s.activate_target_project_transfer sha request_id project revision review now
      = .ok (t, activation)) : RowsStep sha s t (.activate request_id) := by
  simp only [activate_target_project_transfer, except_bind_ok] at h
  obtain ⟨current, hread, h⟩ := h
  split at h
  · simp only [except_bind_ok, except_pure_ok, Prod.mk.injEq] at h
    obtain ⟨-, -, -, -, rfl, -⟩ := h
    exact step_refl
  · simp only [except_bind_ok, refuse_ok, not_or, ne_eq, not_not, except_pure_ok,
      Prod.mk.injEq] at h
    obtain ⟨-, ⟨hside, hphase⟩, source_id, -, head, -, digest, -, commitment, -, admission, -, -, -,
      -, -, -, -, provisioning, -, -, -, upload, -, -, -, -, -, imported, -, -, -, -, -, -, -,
      ⟨t', v⟩, h, rfl, -⟩ := h
    obtain ⟨p', hold, -⟩ := holds_of_read hread
    have hid : current.request_id = request_id := Table.key_of_get? hold.1
    rw [← hid]
    refine step_of_replace hread ?_ ?_ h (fun p _ => .activate hside hphase)
    · rfl
    · rfl

theorem reenter_step {revision : Nat} {resume : TransferPhase} {review boundary : String}
    {confirmed_by : AuthorizedHuman}
    (h : s.reenter_restored_target_project_transfer sha request_id revision resume review
      confirmed_by boundary = .ok (t, v)) : RowsStep sha s t .reenter := by
  simp only [reenter_restored_target_project_transfer, except_bind_ok, refuse_ok, not_not] at h
  obtain ⟨-, hresume, current, hread, admission, -, -, -, -, -, provisioning, -, -, -, upload, -, -,
    -, h⟩ := h
  split at h
  · exact step_of_retry h
  · simp only [except_bind_ok, refuse_ok, not_or, ne_eq, not_not] at h
    obtain ⟨-, ⟨hphase, -, hold⟩, -, -, digest, -, size, -, h⟩ := h
    rw [hresume] at hold
    refine step_of_replace hread ?_ ?_ h (fun p _ => .reenter hphase hold)
    · rfl
    · rfl

theorem detach_row_step {diagnostic : String} (hphase : ∀ r,
      s.project_transfer_request_from_connection sha request_id = .ok r →
        r.side = .target ∧ r.phase ≠ .completed)
    (h : s.detach_project_transfer sha diagnostic request_id = .ok t) :
    RowsStep sha s t .detach := by
  simp only [detach_project_transfer, except_bind_ok] at h
  obtain ⟨current, hread, w, hinvalidate, h⟩ := h
  obtain ⟨hside, hphase⟩ := hphase current hread
  -- the invalidated upload is no request
  have hkept : w.requests = s.requests ∧ w.proofs = s.proofs := by
    unfold invalidate_project_transfer_upload at hinvalidate
    split at hinvalidate
    · obtain rfl := except_pure_ok.mp hinvalidate
      exact ⟨rfl, rfl⟩
    · simp only [except_bind_ok] at hinvalidate
      obtain ⟨-, -, hinvalidate⟩ := hinvalidate
      split at hinvalidate
      · obtain rfl := except_pure_ok.mp hinvalidate
        exact ⟨rfl, rfl⟩
      · obtain rfl := except_pure_ok.mp hinvalidate
        exact ⟨rfl, rfl⟩
  split at h
  · obtain rfl := except_pure_ok.mp h
    exact .kept _ hkept.1 hkept.2
  · simp only [except_bind_ok, except_pure_ok] at h
    obtain ⟨⟨t', v⟩, h, rfl⟩ := h
    exact step_of_replace hread hkept.1 hkept.2 h (fun p _ => .detach diagnostic hside hphase)

/-! ### New requests -/

theorem insert_step {record : TransferRequest} {b : List UInt8}
    (hphase : record.phase = .awaiting_link ∨ record.phase = .linked ∧ record.side = .target)
    (hshape : record.model_validate = .ok ())
    (hconfiguration : sha.configuration record.source_configuration
      = record.source_configuration_sha256)
    (hlink : ∀ a, record.link_receipt = some a → record.require_link_receipt_matches a = .ok ())
    (hadmission : record.target_admission_receipt = none)
    (hrelease : record.source_release_receipt = none)
    (hstate : record.proof_state = .unexposed)
    (hacknowledgement : record.proof_acknowledgement_sha256 = none)
    (h : s.insert_project_transfer_request sha record b = .ok t) :
    RowsStep sha s t (.create b) := by
  simp only [insert_project_transfer_request, except_bind_ok, refuse_ok, except_pure_ok, not_or,
    not_not, ne_eq] at h
  obtain ⟨-, ⟨hlength, hcommitment⟩, -, ⟨hfresh, hone⟩, rfl⟩ := h
  refine .created record b ?_ hphase ?_ ?_ rfl rfl
  · exact Table.contains_eq_false_iff.mp (Bool.eq_false_iff.mpr hfresh)
  · intro x hx hsame
    apply hone
    rw [List.any_eq_true]
    exact ⟨x, hx, by simpa using hsame⟩
  · constructor
    · exact hshape
    · exact hconfiguration
    · simp [hadmission]
    · exact hlink
    · simp [hrelease]
    · rfl
    · rfl
    · exact hcommitment
    · exact hstate.symm
    · exact hacknowledgement.symm
    · intro b' hb'
      obtain rfl : b = b' := Option.some.inj hb'
      exact ⟨hlength, rfl⟩
    · simp [fresh_proof]

theorem create_source_step {project_id target_space_id : String} {initiated_by : AuthorizedHuman}
    {configuration : TransferSourceConfiguration} {b : List UInt8}
    (h : s.create_source_project_transfer_request sha project_id target_space_id initiated_by
      configuration request_id b = .ok (t, v)) : RowsStep sha s t (.create b) := by
  simp only [create_source_project_transfer_request, except_bind_ok] at h
  obtain ⟨⟨⟩, hshape, -, -, -, -, -, -, h⟩ := h
  split at h
  · simp only [except_bind_ok, except_pure_ok, Prod.mk.injEq] at h
    obtain ⟨-, -, -, -, rfl, -⟩ := h
    exact step_refl
  · simp only [except_bind_ok, except_pure_ok, Prod.mk.injEq] at h
    obtain ⟨t', h, rfl, -⟩ := h
    exact insert_step (Or.inl rfl) hshape rfl (by simp) rfl rfl rfl rfl h

theorem create_target_step {link : TargetLink} {b : List UInt8} {now : String}
    (h : s.create_target_project_transfer_request sha request_id link b now = .ok (t, v)) :
    RowsStep sha s t (.create b) := by
  simp only [create_target_project_transfer_request, except_bind_ok, refuse_ok, not_not] at h
  obtain ⟨-, hconfiguration, -, hschema, -, hcodec, -, -, -, -, provisioning, -, -, -, -,
    hrepositories, h⟩ := h
  split at h
  · simp only [except_bind_ok, except_pure_ok, Prod.mk.injEq] at h
    obtain ⟨-, -, -, -, -, -, rfl, -⟩ := h
    exact step_refl
  · simp only [except_bind_ok, except_pure_ok, Prod.mk.injEq] at h
    obtain ⟨-, -, ⟨⟩, hshape, t', h, rfl, -⟩ := h
    refine insert_step (Or.inr ⟨rfl, rfl⟩) hshape hconfiguration ?_ rfl rfl rfl rfl h
    intro a ha
    obtain rfl := Option.some.inj ha
    rw [TransferRequest.link_matches_iff]
    refine ⟨⟨rfl, ?_, rfl, rfl, rfl, rfl, hschema, hcodec, rfl, hrepositories⟩, ?_⟩
    · intro id hid
      exact Option.some.inj hid
    · intro hsome
      exact ⟨rfl, rfl, rfl, rfl⟩

/-! ### The operations of the source procedures -/

theorem fence_iff {head : GraphHeadRef} :
    s.mark_source_project_transfer_fenced sha request_id head = .ok (t, v) ↔
      ∃ current, s.project_transfer_request_from_connection sha request_id = .ok current
        ∧ current.side = .source
        ∧ ∃ release, current.source_release_receipt = some release ∧ head.target = .main
          ∧ release.source_head.revision < head.revision
        ∧ if current.phase = .source_fenced then
            current.source_fence_head = some head ∧ t = s ∧ v = current
          else current.phase = .source_released
            ∧ s.replace { current with phase := .source_fenced, source_fence_head := some head }
              = .ok (t, v) := by
  simp only [mark_source_project_transfer_fenced, except_bind_ok, refuse_ok, require_ok, ne_eq,
    not_not, not_or, not_le]
  constructor
  · intro h
    obtain ⟨current, hread, -, hside, release, hrelease, -, ⟨hmain, hlt⟩, h⟩ := h
    refine ⟨current, hread, hside, release, hrelease, hmain, hlt, ?_⟩
    -- a retry, or the fence itself
    by_cases hphase : current.phase = .source_fenced
    · simp only [hphase, if_true, except_bind_ok, except_pure_ok, refuse_ok, not_not,
        Prod.mk.injEq] at h ⊢
      obtain ⟨-, hfence, rfl, rfl⟩ := h
      exact ⟨hfence, rfl, rfl⟩
    · simp only [hphase, if_false, except_bind_ok, refuse_ok, not_not] at h ⊢
      obtain ⟨-, hreleased, h⟩ := h
      exact ⟨hreleased, h⟩
  · intro h
    obtain ⟨current, hread, hside, release, hrelease, hmain, hlt, h⟩ := h
    refine ⟨current, hread, (), hside, release, hrelease, (), ⟨hmain, hlt⟩, ?_⟩
    by_cases hphase : current.phase = .source_fenced
    · simp only [hphase, if_true, except_bind_ok, except_pure_ok, refuse_ok, not_not,
        Prod.mk.injEq] at h ⊢
      exact ⟨(), h⟩
    · simp only [hphase, if_false, except_bind_ok, refuse_ok, not_not] at h ⊢
      exact ⟨(), h⟩

theorem fence_step {head : GraphHeadRef}
    (h : s.mark_source_project_transfer_fenced sha request_id head = .ok (t, v)) :
    RowsStep sha s t .fence := by
  obtain ⟨current, hread, hside, release, -, -, -, h⟩ := fence_iff.mp h
  split at h
  · obtain ⟨-, rfl, -⟩ := h
    exact step_refl
  · exact step_of_replace hread rfl rfl h.2 (fun p _ => .fence head hside h.1)

theorem exposed_iff :
    s.require_exposed_release_proof sha current = .ok () ↔
      current.proof_state = .exposed ∧ ∃ p b, s.proofs.get? current.request_id = some p
        ∧ p.state = .exposed ∧ p.secret = some b ∧ b.length = 32
        ∧ sha.secret b = current.source_release_proof_sha256 := by
  simp only [require_exposed_release_proof, except_bind_ok, refuse_ok, require_ok, not_or, ne_eq,
    not_not]
  constructor
  · intro h
    obtain ⟨-, -, p, hp, -, ⟨hstate, hpstate⟩, b, hb, hlength, hcommitment⟩ := h
    exact ⟨hstate, p, b, hp, hpstate, hb, hlength, hcommitment⟩
  · intro h
    obtain ⟨hstate, p, b, hp, hpstate, hb, hlength, hcommitment⟩ := h
    refine ⟨(), ?_, p, hp, (), ⟨hstate, hpstate⟩, b, hb, hlength, hcommitment⟩
    rw [hstate]
    decide

theorem bind_iff {digest : String} {size : Nat} {head : Option GraphHeadRef} :
    s.bind_project_transfer_archive sha request_id digest size head = .ok (t, v) ↔
      0 < size ∧ ∃ current,
        s.project_transfer_request_from_connection sha request_id = .ok current
        ∧ if current.archive_sha256 ≠ none then
            current.archive_sha256 = some digest ∧ current.archive_size_bytes = some size
              ∧ current.source_fence_head = head.or current.source_fence_head ∧ t = s ∧ v = current
          else current.phase
              = (match current.side with | .source => .source_fenced | .target => .source_released)
            ∧ (current.side = .source → s.require_exposed_release_proof sha current = .ok ())
            ∧ ∃ bound, head.or current.source_fence_head = some bound
              ∧ ∃ release, current.source_release_receipt = some release
              ∧ bound.target = .main ∧ release.source_head.revision < bound.revision
              ∧ s.replace { current with
                  phase := .archive_bound
                  source_fence_head := some bound
                  archive_sha256 := some digest
                  archive_size_bytes := some size } = .ok (t, v) := by
  simp only [bind_project_transfer_archive, except_bind_ok, refuse_ok, not_lt,
    Nat.one_le_iff_ne_zero, Nat.pos_iff_ne_zero]
  constructor
  · intro h
    obtain ⟨-, hsize, current, hread, h⟩ := h
    refine ⟨hsize, current, hread, ?_⟩
    by_cases harchive : current.archive_sha256 = none
    · simp only [harchive, ne_eq, not_true_eq_false, if_false, except_bind_ok, refuse_ok,
        require_ok, not_not, not_or, not_le] at h ⊢
      obtain ⟨-, hphase, ⟨⟩, hexposed, bound, hbound, release, hrelease, -, ⟨hmain, hlt⟩, h⟩ := h
      refine ⟨hphase, ?_, bound, hbound, release, hrelease, hmain, hlt, h⟩
      intro hside
      simpa only [hside] using hexposed
    · simp only [harchive, ne_eq, not_false_eq_true, if_true, except_bind_ok, except_pure_ok,
        refuse_ok, not_or, not_not, Prod.mk.injEq] at h ⊢
      obtain ⟨-, ⟨hdigest, hsize, hhead⟩, rfl, rfl⟩ := h
      exact ⟨hdigest, hsize, hhead, rfl, rfl⟩
  · intro h
    obtain ⟨hsize, current, hread, h⟩ := h
    refine ⟨(), hsize, current, hread, ?_⟩
    by_cases harchive : current.archive_sha256 = none
    · simp only [harchive, ne_eq, not_true_eq_false, if_false, except_bind_ok, refuse_ok,
        require_ok, not_not, not_or, not_le] at h ⊢
      obtain ⟨hphase, hexposed, bound, hbound, release, hrelease, hmain, hlt, h⟩ := h
      refine ⟨(), hphase, (), ?_, bound, hbound, release, hrelease, (), ⟨hmain, hlt⟩, h⟩
      cases hside : current.side with
      | source => exact hexposed hside
      | target => rfl
    · simp only [harchive, ne_eq, not_false_eq_true, if_true, except_bind_ok, except_pure_ok,
        refuse_ok, not_or, not_not, Prod.mk.injEq] at h ⊢
      exact ⟨(), ⟨h.1, h.2.1, h.2.2.1⟩, h.2.2.2⟩

theorem bind_step {digest : String} {size : Nat} {head : Option GraphHeadRef}
    (hhead : ∀ r, s.project_transfer_request_from_connection sha request_id = .ok r →
      r.side = .source → head = none ∨ head = r.source_fence_head)
    (h : s.bind_project_transfer_archive sha request_id digest size head = .ok (t, v)) :
    RowsStep sha s t .bind := by
  obtain ⟨-, current, hread, h⟩ := bind_iff.mp h
  split at h
  · obtain ⟨-, -, -, rfl, -⟩ := h
    exact step_refl
  · obtain ⟨hphase, hexposed, bound, hbound, release, -, -, -, h⟩ := h
    refine step_of_replace hread rfl rfl h (fun p hp => .bind bound digest size hphase ?_ ?_)
    · intro hside
      rw [hp]
      exact (exposed_iff.mp (hexposed hside)).1
    · intro hside
      rcases hhead current hread hside with rfl | rfl
      · simpa using hbound
      · cases hfence : current.source_fence_head with
        | none => simp [hfence] at hbound
        | some old => simpa [hfence] using hbound

/-- The digest and the size of an archive do not decide whether it may be bound. -/
theorem bind_other {digest digest' : String} {size size' : Nat} {head : Option GraphHeadRef}
    (hread : s.project_transfer_request_from_connection sha request_id = .ok current)
    (hunbound : current.archive_sha256 = none) (hsize : 0 < size')
    (h : s.bind_project_transfer_archive sha request_id digest size head = .ok (t, v)) :
    ∃ t' v', s.bind_project_transfer_archive sha request_id digest' size' head = .ok (t', v') := by
  obtain ⟨-, r, hread', h⟩ := bind_iff.mp h
  obtain rfl : current = r := Except.ok.inj (hread.symm.trans hread')
  rw [if_neg (by simp [hunbound])] at h
  obtain ⟨hphase, hexposed, bound, hbound, release, hrelease, hmain, hlt, h⟩ := h
  obtain ⟨hshape, -, -⟩ := replace_eq h
  obtain ⟨t', v', h'⟩ : ∃ t' v', s.replace { current with
      phase := .archive_bound
      source_fence_head := some bound
      archive_sha256 := some digest'
      archive_size_bytes := some size' } = .ok (t', v') := by
    refine ⟨_, _, replace_ok ?_⟩
    exact TransferRequest.validate_with_archive hshape (by simp)
  refine ⟨t', v', bind_iff.mpr ⟨hsize, current, hread, ?_⟩⟩
  rw [if_neg (by simp [hunbound])]
  exact ⟨hphase, hexposed, bound, hbound, release, hrelease, hmain, hlt, h'⟩

theorem cleanup_iff :
    s.acknowledge_project_transfer_cleanup sha request_id = .ok (t, v) ↔
      ∃ current, s.project_transfer_request_from_connection sha request_id = .ok current
        ∧ if current.phase = .cleanup_acknowledged ∨ current.phase = .completed then
            t = s ∧ v = current
          else current.phase = acknowledging_phase current.side ∧
            current.proof_state = .acknowledged
            ∧ s.replace { current with phase := .cleanup_acknowledged } = .ok (t, v) := by
  simp only [acknowledge_project_transfer_cleanup, except_bind_ok]
  refine exists_congr (fun current => and_congr_right' ?_)
  split
  · rw [except_pure_ok, Prod.mk.injEq]
  · simp only [except_bind_ok, refuse_ok, not_or, ne_eq, not_not, exists_const, and_assoc]

theorem cleanup_step
    (h : s.acknowledge_project_transfer_cleanup sha request_id = .ok (t, v)) :
    RowsStep sha s t .cleanup := by
  obtain ⟨current, hread, h⟩ := cleanup_iff.mp h
  split at h
  · obtain ⟨rfl, -⟩ := h
    exact step_refl
  · obtain ⟨hphase, hstate, h⟩ := h
    refine step_of_replace hread rfl rfl h (fun p hp => .cleanup hphase ?_)
    rw [hp, hstate]

theorem complete_iff :
    s.complete_project_transfer_request sha request_id = .ok (t, v) ↔
      ∃ current, s.project_transfer_request_from_connection sha request_id = .ok current
        ∧ if current.phase = .completed then t = s ∧ v = current
          else current.phase = .cleanup_acknowledged ∧ current.proof_state = .consumed
            ∧ s.replace { current with phase := .completed } = .ok (t, v) := by
  simp only [complete_project_transfer_request, except_bind_ok]
  refine exists_congr (fun current => and_congr_right' ?_)
  split
  · rw [except_pure_ok, Prod.mk.injEq]
  · simp only [except_bind_ok, refuse_ok, not_or, ne_eq, not_not, exists_const, and_assoc]

theorem complete_step
    (h : s.complete_project_transfer_request sha request_id = .ok (t, v)) :
    RowsStep sha s t .complete := by
  obtain ⟨current, hread, h⟩ := complete_iff.mp h
  split at h
  · obtain ⟨rfl, -⟩ := h
    exact step_refl
  · obtain ⟨hphase, hstate, h⟩ := h
    refine step_of_replace hread rfl rfl h (fun p hp => .complete hphase ?_)
    rw [hp, hstate]

theorem consume_iff {digest : String} :
    s.consume_project_transfer_proof sha request_id digest = .ok (t, v) ↔
      ∃ current stored, s.project_transfer_request_from_connection sha request_id = .ok current
        ∧ s.proofs.get? request_id = some stored ∧ stored.acknowledgement_sha256 = some digest
        ∧ if stored.state = .consumed then t = s ∧ v = current
          else stored.state = .acknowledged ∧ current.phase = .cleanup_acknowledged
            ∧ s.replace_with_proof { stored with state := .consumed, secret := none }
              { current with proof_state := .consumed } = .ok (t, v) := by
  simp only [consume_project_transfer_proof, except_bind_ok, protected_proof, require_ok, refuse_ok,
    ne_eq, not_not, exists_const]
  refine exists_congr (fun current => ?_)
  rw [← exists_and_left]
  refine exists_congr (fun stored => and_congr_right' (and_congr_right' (and_congr_right' ?_)))
  split
  · rw [except_pure_ok, Prod.mk.injEq]
  · simp only [except_bind_ok, refuse_ok, not_not, exists_const]

theorem consume_step {digest : String}
    (h : s.consume_project_transfer_proof sha request_id digest = .ok (t, v)) :
    RowsStep sha s t .consume := by
  obtain ⟨current, stored, hread, hproof, -, h⟩ := consume_iff.mp h
  split at h
  · obtain ⟨rfl, -⟩ := h
    exact step_refl
  · obtain ⟨hstate, hphase, h⟩ := h
    exact step_of_replace_with_proof hread (require_ok.mpr hproof) h
      (fun _ => .consume hphase hstate)

/-- The phases in which a side may show its secret. -/
def exposable (r : TransferRequest) : Bool :=
  (match r.side with
    | .source => [TransferPhase.source_fenced, .archive_bound]
    | .target => [TransferPhase.target_activated, .cleanup_acknowledged, .completed]).contains
      r.phase

theorem expose_iff {b : List UInt8} :
    s.expose_project_transfer_proof sha request_id = .ok (t, b) ↔
      ∃ current stored, s.project_transfer_request_from_connection sha request_id = .ok current
        ∧ current.proof_state ≠ .consumed ∧ exposable current = true
        ∧ s.proofs.get? request_id = some stored ∧ stored.state ≠ .consumed
        ∧ stored.secret = some b ∧ b.length = 32 ∧ sha.secret b = stored.commitment_sha256
        ∧ if stored.state = .unexposed then ∃ v,
            s.replace_with_proof { stored with state := .exposed }
              { current with proof_state := .exposed } = .ok (t, v)
          else t = s := by
  simp only [expose_project_transfer_proof, except_bind_ok, protected_proof, require_ok, refuse_ok,
    Bool.not_eq_true', Bool.not_eq_false, not_or, ne_eq, not_not, exists_const]
  refine exists_congr (fun current => ?_)
  constructor
  · intro h
    obtain ⟨hread, hstate, hphase, stored, hproof, hstored, b', hb, ⟨hlength, hcommitment⟩, h⟩ := h
    refine ⟨stored, hread, hstate, hphase, hproof, hstored, ?_⟩
    by_cases hunexposed : stored.state = .unexposed
    · rw [if_pos hunexposed] at h ⊢
      simp only [except_bind_ok, except_pure_ok, Prod.mk.injEq, Prod.exists] at h
      obtain ⟨t', v, h, rfl, rfl⟩ := h
      exact ⟨hb, hlength, hcommitment, v, h⟩
    · rw [if_neg hunexposed, except_pure_ok, Prod.mk.injEq] at h
      obtain ⟨rfl, rfl⟩ := h
      rw [if_neg hunexposed]
      exact ⟨hb, hlength, hcommitment, rfl⟩
  · intro h
    obtain ⟨stored, hread, hstate, hphase, hproof, hstored, hb, hlength, hcommitment, h⟩ := h
    refine ⟨hread, hstate, hphase, stored, hproof, hstored, b, hb, ⟨hlength, hcommitment⟩, ?_⟩
    by_cases hunexposed : stored.state = .unexposed
    · rw [if_pos hunexposed] at h ⊢
      obtain ⟨v, h⟩ := h
      simp only [except_bind_ok, except_pure_ok, Prod.mk.injEq, Prod.exists]
      exact ⟨t, v, h, rfl, trivial⟩
    · rw [if_neg hunexposed] at h ⊢
      rw [except_pure_ok, h]

theorem expose_step {b : List UInt8}
    (h : s.expose_project_transfer_proof sha request_id = .ok (t, b)) :
    RowsStep sha s t .expose := by
  obtain ⟨current, stored, hread, -, hphase, hproof, -, -, -, -, h⟩ := expose_iff.mp h
  split at h
  · next hstate =>
    obtain ⟨v, h⟩ := h
    exact step_of_replace_with_proof hread (require_ok.mpr hproof) h
      (fun _ => .expose hphase hstate)
  · rw [h]
    exact step_refl

/-- The acknowledgment that a source row stands for. -/
def acknowledges (r : TransferRequest) (a : TransferCleanupAcknowledgment) : Prop :=
  a.source_request_id = r.request_id ∧ r.linked_request_id = some a.target_request_id
    ∧ a.project_id = r.project_id ∧ a.source_space_id = r.source_space_id
    ∧ a.target_space_id = r.target_space_id
    ∧ a.source_release_proof_sha256 = r.source_release_proof_sha256
    ∧ r.target_activation_proof_sha256 = some a.target_activation_proof_sha256
    ∧ r.archive_sha256 = some a.archive_sha256 ∧ r.source_fence_head = some a.source_fence_head
    ∧ a.validate = .ok ()

theorem verify_iff {proof : List UInt8} {a : TransferCleanupAcknowledgment} :
    s.verify_target_project_transfer_activation sha request_id proof = .ok (t, a) ↔
      proof.length = 32 ∧ ∃ current stored,
        s.project_transfer_request_from_connection sha request_id = .ok current
        ∧ current.side = .source
        ∧ [TransferPhase.archive_bound, .cleanup_acknowledged, .completed].contains current.phase
          = true
        ∧ current.target_activation_proof_sha256 = some (sha.secret proof)
        ∧ acknowledges current a ∧ s.proofs.get? request_id = some stored
        ∧ if stored.state.verified = true then
            stored.acknowledgement_sha256 = some (sha.acknowledgment a) ∧ t = s
          else stored.state = .exposed ∧ current.phase = .archive_bound
            ∧ ∃ v, s.replace_with_proof
              { stored with
                state := .acknowledged
                acknowledgement_sha256 := some (sha.acknowledgment a) }
              { current with
                proof_state := .acknowledged
                proof_acknowledgement_sha256 := some (sha.acknowledgment a) } = .ok (t, v) := by
  simp only [verify_target_project_transfer_activation, except_bind_ok, protected_proof, require_ok,
    refuse_ok, Bool.not_eq_true', Bool.not_eq_false, not_or, ne_eq, not_not, exists_const]
  refine and_congr_right' ⟨?_, ?_⟩
  · intro h
    obtain ⟨current, hread, ⟨hside, hphase, hcommitment⟩, target_id, htarget, head, hhead, digest,
      hdigest, ⟨⟩, hvalid, stored, hproof, h⟩ := h
    split at h
    · next hverified =>
      simp only [except_bind_ok, except_pure_ok, refuse_ok, not_not, exists_const,
        Prod.mk.injEq] at h
      obtain ⟨hack, rfl, rfl⟩ := h
      refine ⟨current, stored, hread, hside, hphase, hcommitment, ?_, hproof, ?_⟩
      · exact ⟨rfl, htarget, rfl, rfl, rfl, rfl, hcommitment, hdigest, hhead, hvalid⟩
      · rw [if_pos hverified]
        exact ⟨hack, rfl⟩
    · next hverified =>
      simp only [except_bind_ok, except_pure_ok, refuse_ok, not_or, not_not, exists_const,
        Prod.mk.injEq, Prod.exists] at h
      obtain ⟨⟨hstate, hbound⟩, t', v, h, rfl, rfl⟩ := h
      refine ⟨current, stored, hread, hside, hphase, hcommitment, ?_, hproof, ?_⟩
      · exact ⟨rfl, htarget, rfl, rfl, rfl, rfl, hcommitment, hdigest, hhead, hvalid⟩
      · rw [if_neg hverified]
        exact ⟨hstate, hbound, v, h⟩
  · intro h
    obtain ⟨current, stored, hread, hside, hphase, hcommitment, hacknowledges, hproof, h⟩ := h
    obtain ⟨hsource, htarget, hproject, hspace, hspace', hrelease, hactivation, harchive, hhead,
      hvalid⟩ := hacknowledges
    -- the acknowledgment is determined by the row and the proof
    have heq : ({ source_request_id := current.request_id
                  target_request_id := a.target_request_id
                  project_id := current.project_id
                  source_space_id := current.source_space_id
                  target_space_id := current.target_space_id
                  source_release_proof_sha256 := current.source_release_proof_sha256
                  target_activation_proof_sha256 := sha.secret proof
                  archive_sha256 := a.archive_sha256
                  source_fence_head := a.source_fence_head } : TransferCleanupAcknowledgment)
        = a := by
      have hsecret : sha.secret proof = a.target_activation_proof_sha256 :=
        Option.some.inj (hcommitment.symm.trans hactivation)
      rw [hsecret, ← hsource, ← hproject, ← hspace, ← hspace', ← hrelease]
    refine ⟨current, hread, ⟨hside, hphase, hcommitment⟩, a.target_request_id, htarget,
      a.source_fence_head, hhead, a.archive_sha256, harchive, (), ?_, stored, hproof, ?_⟩
    · rw [heq]
      exact hvalid
    · rw [heq]
      by_cases hverified : stored.state.verified = true
      · rw [if_pos hverified] at h ⊢
        simp only [except_bind_ok, except_pure_ok, refuse_ok, not_not, exists_const,
          Prod.mk.injEq, and_true]
        exact h
      · rw [if_neg hverified] at h ⊢
        obtain ⟨hstate, hbound, v, h⟩ := h
        simp only [except_bind_ok, except_pure_ok, refuse_ok, not_or, not_not,
          exists_const, Prod.mk.injEq, Prod.exists]
        exact ⟨⟨hstate, hbound⟩, t, v, h, rfl, trivial⟩

theorem verify_step {proof : List UInt8} {a : TransferCleanupAcknowledgment}
    (h : s.verify_target_project_transfer_activation sha request_id proof = .ok (t, a)) :
    RowsStep sha s t (.acknowledge proof) := by
  obtain ⟨-, current, stored, hread, hside, -, hcommitment, -, hproof, h⟩ := verify_iff.mp h
  split at h
  · rw [h.2]
    exact step_refl
  · obtain ⟨hstate, hphase, v, h⟩ := h
    exact step_of_replace_with_proof hread (require_ok.mpr hproof) h
      (fun _ => .acknowledge proof _ hside hphase hstate hcommitment)

theorem retire_iff {now : String} :
    s.retire_source_project_transfer sha request_id now = .ok (t, v) ↔
      ∃ project, s.project_transfer_request_from_connection sha request_id = .ok v
        ∧ v.side = .source
        ∧ [TransferPhase.cleanup_acknowledged, .completed].contains v.phase = true
        ∧ v.proof_state.verified = true ∧ s.projects.get? v.project_id = some project
        ∧ if project.retired_transfer_request_id ≠ none then
            project.retired_transfer_request_id = some request_id ∧ project.retired_at ≠ none
              ∧ t = s
          else project.retired_at = none ∧ project.home_space_id = v.source_space_id
            ∧ t = { s with
              projects := s.projects.put { project with
                retired_at := some now, retired_transfer_request_id := some request_id } } := by
  simp only [retire_source_project_transfer, except_bind_ok, require_ok, refuse_ok,
    Bool.not_eq_true', Bool.not_eq_false, not_or, ne_eq, not_not, exists_const]
  constructor
  · intro h
    obtain ⟨current, hread, ⟨hside, hphase, hstate⟩, project, hproject, h⟩ := h
    by_cases hretired : project.retired_transfer_request_id = none
    · simp only [hretired, not_true_eq_false, if_false, except_bind_ok, except_pure_ok, refuse_ok,
        not_not, exists_const, Prod.mk.injEq] at h
      obtain ⟨hat, hhome, rfl, rfl⟩ := h
      refine ⟨project, hread, hside, hphase, hstate, hproject, ?_⟩
      rw [if_neg (by simp [hretired])]
      exact ⟨hat, hhome, rfl⟩
    · simp only [hretired, not_false_eq_true, if_true, except_bind_ok, except_pure_ok, refuse_ok,
        not_or, not_not, exists_const, Prod.mk.injEq] at h
      obtain ⟨⟨hby, hat⟩, rfl, rfl⟩ := h
      refine ⟨project, hread, hside, hphase, hstate, hproject, ?_⟩
      rw [if_pos hretired]
      exact ⟨hby, hat, rfl⟩
  · intro h
    obtain ⟨project, hread, hside, hphase, hstate, hproject, h⟩ := h
    refine ⟨v, hread, ⟨hside, hphase, hstate⟩, project, hproject, ?_⟩
    by_cases hretired : project.retired_transfer_request_id = none
    · simp only [hretired, not_true_eq_false, if_false, except_bind_ok, except_pure_ok, refuse_ok,
        not_not, exists_const, Prod.mk.injEq] at h ⊢
      exact ⟨h.1, h.2.1, h.2.2, trivial⟩
    · simp only [hretired, not_false_eq_true, if_true, except_bind_ok, except_pure_ok, refuse_ok,
        not_or, not_not, exists_const, Prod.mk.injEq] at h ⊢
      exact ⟨⟨h.1, h.2.1⟩, h.2.2, trivial⟩

theorem retire_step {now : String}
    (h : s.retire_source_project_transfer sha request_id now = .ok (t, v)) :
    RowsStep sha s t kind := by
  obtain ⟨project, -, -, -, -, -, h⟩ := retire_iff.mp h
  split at h
  · rw [h.2.2]
    exact step_refl
  · rw [h.2.2]
    exact .kept _ rfl rfl

end SpaceStore

end ResearchGraph
