import ResearchGraph.Transfer.Advance

/-! # Completing a source transfer

    The proof of the target's activation is verified, the cleanup acknowledged,
    the own proof consumed, the project retired and the archive erased. Every
    step finds its work done once a later one has begun, so completing may be
    cut off anywhere and run again.
-/

namespace ResearchGraph

open Lib

variable {sha : TransferDigests}

theorem acknowledges_of_advanced {r r' : TransferRequest} {p p' : TransferProof}
    {a : TransferCleanupAcknowledgment} (h : SpaceStore.acknowledges r a)
    (hadvanced : Advanced r p r' p') : SpaceStore.acknowledges r' a := by
  obtain ⟨hsource, htarget, hproject, hspace, hspace', hrelease, hactivation, harchive, hhead,
    hvalid⟩ := h
  refine ⟨?_, hadvanced.linked_request_id _ htarget, ?_, ?_, ?_, ?_,
    hadvanced.activation_proof _ hactivation, hadvanced.archive _ harchive,
    hadvanced.fence _ hhead, hvalid⟩
  · rw [hadvanced.request_id]
    exact hsource
  · rw [hadvanced.project_id]
    exact hproject
  · rw [hadvanced.source_space_id]
    exact hspace
  · rw [hadvanced.target_space_id]
    exact hspace'
  · rw [hadvanced.source_release_proof_sha256]
    exact hrelease

theorem verified_iff_rank {state : TransferProofState} :
    state.verified = true ↔ 2 ≤ state.rank := by
  cases state <;> decide

namespace SourceWorld

open Saga

variable {request_id : String} {w v : SourceWorld} {r r' : TransferRequest}
  {p p' : TransferProof} {a : TransferCleanupAcknowledgment} {proof : List UInt8}

theorem on_store_iff {α : Type} {f : SpaceStore → TransferResult (SpaceStore × α)} {x : α} :
    (Saga.commit (on_store f)).Succeeds w v x ↔
      ∃ t, f w.store = .ok (t, x) ∧ v = { w with store := t } := by
  simp only [succeeds_commit, on_store, except_bind_ok, except_pure_ok, Prod.mk.injEq, Prod.exists]
  constructor
  · intro h
    obtain ⟨t, y, hf, rfl, rfl⟩ := h
    exact ⟨t, hf, rfl⟩
  · intro h
    obtain ⟨t, hf, rfl⟩ := h
    exact ⟨t, x, hf, rfl, rfl⟩

theorem update_store_iff {α : Type} {f : SpaceStore → TransferResult (SpaceStore × α)} :
    (update_store f).Succeeds w v () ↔
      ∃ t x, f w.store = .ok (t, x) ∧ v = { w with store := t } := by
  simp only [update_store, succeeds_commit, except_bind_ok, except_pure_ok, Prod.mk.injEq,
    Prod.exists, and_true]

/-! ### How far a completion has come -/

/-- The source has verified the activation of its target and acknowledges it by `a`. -/
structure Verified (sha : TransferDigests) (request_id : String) (proof : List UInt8)
    (a : TransferCleanupAcknowledgment) (r : TransferRequest) (p : TransferProof)
    (w : SourceWorld) : Prop where
  sound : Sound sha w
  holds : w.store.Holds request_id r p
  side : r.side = .source
  phase : [TransferPhase.archive_bound, .cleanup_acknowledged, .completed].contains r.phase = true
  length : proof.length = 32
  commitment : r.target_activation_proof_sha256 = some (sha.secret proof)
  acknowledges : SpaceStore.acknowledges r a
  verified : p.state.verified = true
  digest : p.acknowledgement_sha256 = some (sha.acknowledgment a)

/-- Its cleanup is acknowledged. -/
structure Cleaned (sha : TransferDigests) (request_id : String) (proof : List UInt8)
    (a : TransferCleanupAcknowledgment) (r : TransferRequest) (p : TransferProof)
    (w : SourceWorld) : Prop extends Verified sha request_id proof a r p w where
  cleaned : r.phase = .cleanup_acknowledged ∨ r.phase = .completed

/-- Its own proof is gone. -/
structure Consumed (sha : TransferDigests) (request_id : String) (proof : List UInt8)
    (a : TransferCleanupAcknowledgment) (r : TransferRequest) (p : TransferProof)
    (w : SourceWorld) : Prop extends Cleaned sha request_id proof a r p w where
  consumed : p.state = .consumed

/-- The project is retired. -/
structure Retired (sha : TransferDigests) (request_id : String) (proof : List UInt8)
    (a : TransferCleanupAcknowledgment) (r : TransferRequest) (p : TransferProof)
    (w : SourceWorld) : Prop extends Consumed sha request_id proof a r p w where
  retired : w.retired_by request_id r = true

/-- The archive is erased. -/
structure Erased (sha : TransferDigests) (request_id : String) (proof : List UInt8)
    (a : TransferCleanupAcknowledgment) (r : TransferRequest) (p : TransferProof)
    (w : SourceWorld) : Prop extends Retired sha request_id proof a r p w where
  erased : w.archives request_id = none

/-- Some row stands so in the state. -/
abbrev Stands (P : TransferRequest → TransferProof → SourceWorld → Prop) (w : SourceWorld) :
    Prop :=
  ∃ r p, P r p w

theorem Verified.reads (h : Verified sha request_id proof a r p w) :
    w.store.project_transfer_request_from_connection sha request_id = .ok r :=
  SpaceStore.read_of_sound h.holds (h.sound.row h.holds)

theorem Verified.transfer (h : Verified sha request_id proof a r p w) :
    w.source_transfer sha request_id = .ok r :=
  h.sound.reads h.holds h.side

theorem Verified.rank (h : Verified sha request_id proof a r p w) : 5 ≤ r.rank := by
  rw [(h.sound.shaped h.holds).source_rank h.side]
  have hphase := h.phase
  cases hr : r.phase <;> rw [hr] at hphase <;> first | decide | cases hphase

theorem Verified.verified_row (h : Verified sha request_id proof a r p w) :
    r.proof_state.verified = true := by
  rw [← (h.sound.row h.holds).state]
  exact h.verified

/-- A verified row that has moved on is still verified. -/
theorem Verified.next (h : Verified sha request_id proof a r p w) (hv : Sound sha v)
    (hold' : v.store.Holds request_id r' p') (hadvanced : Advanced r p r' p')
    (hphase : [TransferPhase.archive_bound, .cleanup_acknowledged, .completed].contains r'.phase
      = true) : Verified sha request_id proof a r' p' v where
  sound := hv
  holds := hold'
  side := hadvanced.side.trans h.side
  phase := hphase
  length := h.length
  commitment := hadvanced.activation_proof _ h.commitment
  acknowledges := acknowledges_of_advanced h.acknowledges hadvanced
  verified := by
    have hbefore := verified_iff_rank.mp h.verified
    have hlater := hadvanced.proof
    rw [verified_iff_rank]
    omega
  digest := hadvanced.acknowledgement _ h.digest

/-- The row that a step of the store leaves in the place of `r`. -/
theorem advanced_row {t : SpaceStore} {kind : TransferChange} (hs : Sound sha w)
    (hstep : SpaceStore.RowsStep sha w.store t kind) (hold : w.store.Holds request_id r p)
    (hold' : t.Holds request_id r' p') : Advanced r p r' p' := by
  obtain ⟨x, y, hxy, hadvanced⟩ := hstep.later hs.consistent request_id r p hold
  obtain ⟨rfl, rfl⟩ := hxy.unique hold'
  exact hadvanced

/-! ### Verifying -/

/-- The first transaction: the presented proof opens the commitment of the target. -/
abbrev verify (sha : TransferDigests) (request_id : String) (proof : List UInt8) :
    SourceSaga TransferCleanupAcknowledgment :=
  Saga.commit (on_store fun s => s.verify_target_project_transfer_activation sha request_id proof)

theorem verify_meets : Meets (Sound sha) (Sound sha) (verify sha request_id proof)
    (fun a => Stands fun r p w => Verified sha request_id proof a r p w) := by
  refine Meets.commit ?_
  intro w v a hs hverify
  obtain ⟨t, hstore, rfl⟩ := on_store_iff.mp hverify
  have hstep := SpaceStore.verify_step hstore
  obtain ⟨hlength, r, p, hread, hside, hphase, hcommitment, hacknowledges, hproof, h⟩ :=
    SpaceStore.verify_iff.mp hstore
  obtain ⟨p', hold, -⟩ := SpaceStore.holds_of_read hread
  obtain rfl : p' = p := Option.some.inj (hold.2.symm.trans hproof)
  -- verified by an earlier run, or by this one
  by_cases hverified : p'.state.verified = true
  · rw [if_pos hverified] at h
    obtain ⟨hdigest, rfl⟩ := h
    exact ⟨hs, r, p', hs, hold, hside, hphase, hlength, hcommitment, hacknowledges, hverified,
      hdigest⟩
  · rw [if_neg hverified] at h
    obtain ⟨-, hbound, row, h⟩ := h
    obtain ⟨hrow, hold', hprojects⟩ :=
      SpaceStore.replace_with_proof_holds h hold.key.1 hold.key.2
    have hadvanced := advanced_row hs hstep hold hold'
    have hsound : Sound sha { w with store := t } :=
      hs.quiet hstep (by simp [TransferChange.span]) hprojects
    refine ⟨hsound, row, _, hsound, hold', hadvanced.side.trans hside, ?_, hlength,
      hadvanced.activation_proof _ hcommitment, acknowledges_of_advanced hacknowledges hadvanced,
      rfl, rfl⟩
    rw [hrow]
    exact hphase

theorem verify_idle (h : Stands (fun r p w => Verified sha request_id proof a r p w) w) :
    (verify sha request_id proof).Succeeds w w a := by
  obtain ⟨r, p, h⟩ := h
  refine on_store_iff.mpr ⟨w.store, ?_, rfl⟩
  refine SpaceStore.verify_iff.mpr ⟨h.length, r, p, h.reads, h.side, h.phase, h.commitment,
    h.acknowledges, h.holds.2, ?_⟩
  rw [if_pos h.verified]
  exact ⟨h.digest, rfl⟩

/-! ### Cleaning up -/

abbrev clean_up (sha : TransferDigests) (request_id : String) : SourceSaga Unit :=
  update_store fun s => s.acknowledge_project_transfer_cleanup sha request_id

theorem clean_up_spec (h : Verified sha request_id proof a r p w)
    (hclean : (clean_up sha request_id).Succeeds w v ()) :
    Stands (fun r p w => Cleaned sha request_id proof a r p w) v := by
  obtain ⟨t, row, hstore, rfl⟩ := update_store_iff.mp hclean
  have hstep := SpaceStore.cleanup_step hstore
  obtain ⟨current, hread, hclean⟩ := SpaceStore.cleanup_iff.mp hstore
  obtain rfl : r = current := Except.ok.inj (h.reads.symm.trans hread)
  -- an earlier run may have come this far; then nothing is written
  by_cases hdone : r.phase = .cleanup_acknowledged ∨ r.phase = .completed
  · rw [if_pos hdone] at hclean
    obtain ⟨rfl, -⟩ := hclean
    exact ⟨r, p, h, hdone⟩
  · rw [if_neg hdone] at hclean
    obtain ⟨hrow, hold', hprojects⟩ :=
      SpaceStore.replace_holds hclean.2.2 h.holds h.holds.key.1
    have hsound := h.sound.quiet hstep (by simp [TransferChange.span]) hprojects
    have hphase : row.phase = .cleanup_acknowledged := by
      rw [hrow]
      rfl
    refine ⟨row, p, h.next hsound hold' (advanced_row h.sound hstep h.holds hold') ?_,
      Or.inl hphase⟩
    rw [hphase]
    decide

theorem clean_up_idle (h : Cleaned sha request_id proof a r p w) :
    (clean_up sha request_id).Succeeds w w () := by
  refine update_store_iff.mpr ⟨w.store, r, SpaceStore.cleanup_iff.mpr ⟨r, h.reads, ?_⟩, rfl⟩
  rw [if_pos h.cleaned]
  exact ⟨rfl, rfl⟩

/-- The archive is there, or it is gone for a good reason: the check never fails. -/
theorem recovery_succeeds (h : Cleaned sha request_id proof a r p w) :
    (inspect (require_recovery_archive sha request_id)).Succeeds w w () := by
  rw [succeeds_inspect]
  refine ⟨?_, rfl⟩
  simp only [require_recovery_archive, except_bind_ok]
  refine ⟨r, h.transfer, ?_⟩
  -- an archive on file is the sealed one; a missing one was erased after the retirement
  cases hfile : w.archives request_id with
  | some file =>
    rw [if_pos (by simp)]
    exact require_bound_archive_ok.mpr
      ⟨file, hfile, h.sound.sealed request_id r p h.holds h.side h.rank file hfile⟩
  | none =>
    rw [if_neg (by simp), refuse_ok]
    obtain ⟨hconsumed, hretired⟩ := h.sound.kept request_id r p h.holds h.side h.rank hfile
    rw [← (h.sound.row h.holds).state, hconsumed, hretired]
    decide

/-! ### Consuming the own proof -/

theorem consume_iff : (consume sha request_id).Succeeds w v () ↔
    ∃ r digest, w.source_transfer sha request_id = .ok r
      ∧ r.proof_acknowledgement_sha256 = some digest
      ∧ ∃ t row, w.store.consume_project_transfer_proof sha request_id digest = .ok (t, row)
        ∧ v = { w with store := t } := by
  simp only [consume, succeeds_commit, except_bind_ok, except_pure_ok, require_ok, Prod.mk.injEq,
    Prod.exists, and_true]
  refine exists_congr (fun r => ?_)
  constructor
  · intro h
    obtain ⟨htransfer, digest, hdigest, t, row, hstore, rfl⟩ := h
    exact ⟨digest, htransfer, hdigest, t, row, hstore, rfl⟩
  · intro h
    obtain ⟨digest, htransfer, hdigest, t, row, hstore, rfl⟩ := h
    exact ⟨htransfer, digest, hdigest, t, row, hstore, rfl⟩

theorem consume_spec (h : Cleaned sha request_id proof a r p w)
    (hconsume : (consume sha request_id).Succeeds w v ()) :
    Stands (fun r p w => Consumed sha request_id proof a r p w) v := by
  obtain ⟨x, digest, htransfer, -, t, row, hstore, rfl⟩ := consume_iff.mp hconsume
  obtain rfl : r = x := Except.ok.inj (h.transfer.symm.trans htransfer)
  have hstep := SpaceStore.consume_step hstore
  obtain ⟨current, stored, hread, hproof, -, hrest⟩ := SpaceStore.consume_iff.mp hstore
  obtain rfl : r = current := Except.ok.inj (h.reads.symm.trans hread)
  obtain rfl : p = stored := Option.some.inj (h.holds.2.symm.trans hproof)
  -- consumed before, or the secret is dropped here
  by_cases hdone : p.state = .consumed
  · rw [if_pos hdone] at hrest
    obtain ⟨rfl, -⟩ := hrest
    exact ⟨r, p, h, hdone⟩
  · rw [if_neg hdone] at hrest
    obtain ⟨hrow, hold', hprojects⟩ :=
      SpaceStore.replace_with_proof_holds hrest.2.2 h.holds.key.1 h.holds.key.2
    have hsound := h.sound.quiet hstep (by simp [TransferChange.span]) hprojects
    have hphase : row.phase = r.phase := by
      rw [hrow]
      rfl
    refine ⟨row, _, ⟨h.next hsound hold' (advanced_row h.sound hstep h.holds hold') ?_, ?_⟩, rfl⟩
    · rw [hphase]
      exact h.phase
    · rw [hphase]
      exact h.cleaned

theorem consume_idle (h : Consumed sha request_id proof a r p w) :
    (consume sha request_id).Succeeds w w () := by
  have hrow := h.sound.row h.holds
  refine consume_iff.mpr ⟨r, sha.acknowledgment a, h.transfer, ?_, w.store, r, ?_, rfl⟩
  · rw [← hrow.acknowledgement]
    exact h.digest
  · refine SpaceStore.consume_iff.mpr ⟨r, p, h.reads, h.holds.2, h.digest, ?_⟩
    rw [if_pos h.consumed]
    exact ⟨rfl, rfl⟩

/-! ### Retiring the project -/

abbrev retire (sha : TransferDigests) (request_id now : String) : SourceSaga Unit :=
  update_store fun s => s.retire_source_project_transfer sha request_id now

theorem retire_spec {now : String} (h : Consumed sha request_id proof a r p w)
    (hretire : (retire sha request_id now).Succeeds w v ()) :
    Stands (fun r p w => Retired sha request_id proof a r p w) v := by
  obtain ⟨t, row, hstore, rfl⟩ := update_store_iff.mp hretire
  obtain ⟨project, hread, -, -, -, hproject, hrest⟩ := SpaceStore.retire_iff.mp hstore
  obtain rfl : r = row := Except.ok.inj (h.reads.symm.trans hread)
  -- the project is marked here, or it bears the mark of this request
  by_cases hdone : project.retired_transfer_request_id = none
  · rw [if_neg (by simp [hdone])] at hrest
    obtain ⟨-, -, ht⟩ := hrest
    obtain ⟨hsound, hretired⟩ := h.sound.retire h.holds h.side h.consumed hproject hdone ht
    have hold : t.Holds request_id r p := by
      rw [ht]
      exact h.holds
    exact ⟨r, p, ⟨⟨{ h.toVerified with sound := hsound, holds := hold }, h.cleaned⟩, h.consumed⟩,
      hretired⟩
  · rw [if_pos hdone] at hrest
    obtain ⟨hby, hat, rfl⟩ := hrest
    exact ⟨r, p, h, retired_by_iff.mpr ⟨project, hproject, hat, hby⟩⟩

theorem retire_idle (h : Retired sha request_id proof a r p w) (now : String) :
    (retire sha request_id now).Succeeds w w () := by
  obtain ⟨project, hproject, hat, hby⟩ := retired_by_iff.mp h.retired
  refine update_store_iff.mpr ⟨w.store, r, SpaceStore.retire_iff.mpr
    ⟨project, h.reads, h.side, ?_, h.verified_row, hproject, ?_⟩, rfl⟩
  · rcases h.cleaned with hphase | hphase
    · rw [hphase]
      decide
    · rw [hphase]
      decide
  · rw [if_pos (by simp [hby])]
    exact ⟨hby, hat, rfl⟩

theorem require_retired_succeeds (h : Retired sha request_id proof a r p w) :
    (inspect (require_retired sha request_id)).Succeeds w w () := by
  rw [succeeds_inspect]
  refine ⟨?_, rfl⟩
  simp only [require_retired, except_bind_ok, refuse_ok, not_or]
  refine ⟨r, h.transfer, ?_, ?_⟩
  · simp [h.retired]
  · rcases h.cleaned with hphase | hphase
    · rw [hphase]
      decide
    · rw [hphase]
      decide

/-! ### Erasing the archive -/

theorem erase_iff (h : Retired sha request_id proof a r p w) :
    (erase sha request_id).Succeeds w v () ↔
      if (w.archives request_id).isSome = true then v = w.with_archive request_id none
      else v = w := by
  simp only [erase, succeeds_commit, except_bind_ok, h.transfer, Except.ok.injEq, exists_eq_left']
  cases hfile : w.archives request_id with
  | some file =>
    have hbound : w.require_bound_archive sha request_id r cleanup_mismatch = .ok () :=
      require_bound_archive_ok.mpr
        ⟨file, hfile, h.sound.sealed request_id r p h.holds h.side h.rank file hfile⟩
    simp only [Option.isSome_some, if_true, except_bind_ok, except_pure_ok, hbound,
      Prod.mk.injEq, and_true, true_and, exists_const]
  | none =>
    simp only [Option.isSome_none, Bool.false_eq_true, if_false, except_pure_ok, Prod.mk.injEq,
      and_true]

theorem erase_spec (h : Retired sha request_id proof a r p w)
    (herase : (erase sha request_id).Succeeds w v ()) : Erased sha request_id proof a r p v := by
  rw [erase_iff h] at herase
  split at herase
  · obtain rfl := herase
    have hsound : Sound sha (w.with_archive request_id none) := by
      refine h.sound.refile ?_
      intro x y hxy _ _
      obtain ⟨rfl, rfl⟩ := hxy.unique h.holds
      refine ⟨by simp, fun _ => ⟨h.consumed, h.retired⟩⟩
    exact ⟨⟨⟨⟨{ h.toVerified with sound := hsound }, h.cleaned⟩, h.consumed⟩, h.retired⟩,
      with_archive_self ..⟩
  · next hfile =>
    rw [herase]
    exact ⟨h, by simpa using hfile⟩

theorem erase_idle (h : Erased sha request_id proof a r p w) :
    (erase sha request_id).Succeeds w w () := by
  rw [erase_iff h.toRetired, if_neg (by simp [h.erased])]

/-! ### Completing the request -/

abbrev finish (sha : TransferDigests) (request_id : String) : SourceSaga Unit :=
  update_store fun s => s.complete_project_transfer_request sha request_id

/-- The row is completed. -/
structure Completed (sha : TransferDigests) (request_id : String) (proof : List UInt8)
    (a : TransferCleanupAcknowledgment) (r : TransferRequest) (p : TransferProof)
    (w : SourceWorld) : Prop extends Erased sha request_id proof a r p w where
  completed : r.phase = .completed

theorem finish_spec (h : Erased sha request_id proof a r p w)
    (hfinish : (finish sha request_id).Succeeds w v ()) :
    Stands (fun r p w => Completed sha request_id proof a r p w) v := by
  obtain ⟨t, row, hstore, rfl⟩ := update_store_iff.mp hfinish
  have hstep := SpaceStore.complete_step hstore
  obtain ⟨current, hread, hrest⟩ := SpaceStore.complete_iff.mp hstore
  obtain rfl : r = current := Except.ok.inj (h.reads.symm.trans hread)
  by_cases hdone : r.phase = .completed
  · rw [if_pos hdone] at hrest
    obtain ⟨rfl, -⟩ := hrest
    exact ⟨r, p, h, hdone⟩
  · rw [if_neg hdone] at hrest
    obtain ⟨hrow, hold', hprojects⟩ := SpaceStore.replace_holds hrest.2.2 h.holds h.holds.key.1
    have hsound := h.sound.quiet hstep (by simp [TransferChange.span]) hprojects
    have hadvanced := advanced_row h.sound hstep h.holds hold'
    have hphase : row.phase = .completed := by
      rw [hrow]
      rfl
    refine ⟨row, p, ⟨⟨⟨⟨h.next hsound hold' hadvanced ?_, Or.inr hphase⟩, h.consumed⟩, ?_⟩,
      h.erased⟩, hphase⟩
    · rw [hphase]
      decide
    -- the projects are untouched, so the retirement stands
    · obtain ⟨project, hproject, hretired⟩ := retired_by_iff.mp h.retired
      refine retired_by_iff.mpr ⟨project, ?_, hretired⟩
      rw [hadvanced.project_id, hprojects]
      exact hproject

theorem finish_idle (h : Completed sha request_id proof a r p w) :
    (finish sha request_id).Succeeds w w () := by
  refine update_store_iff.mpr ⟨w.store, r, SpaceStore.complete_iff.mpr ⟨r, h.reads, ?_⟩, rfl⟩
  rw [if_pos h.completed]
  exact ⟨rfl, rfl⟩

/-- An erased row is completed without fail. -/
theorem finish_succeeds (h : Erased sha request_id proof a r p w) :
    ∃ v, (finish sha request_id).Succeeds w v () := by
  have hrow := h.sound.row h.holds
  by_cases hphase : r.phase = .completed
  · exact ⟨w, finish_idle ⟨h, hphase⟩⟩
  · have hcleaned : r.phase = .cleanup_acknowledged := h.cleaned.resolve_right hphase
    have hstate : r.proof_state = .consumed := by
      rw [← hrow.state]
      exact h.consumed
    obtain ⟨t, row, hreplace⟩ :
        ∃ t row, w.store.replace { r with phase := .completed } = .ok (t, row) :=
      ⟨_, _, SpaceStore.replace_ok
        (TransferRequest.validate_completed (r := r.bump) hrow.shape hcleaned)⟩
    refine ⟨_, update_store_iff.mpr
      ⟨t, row, SpaceStore.complete_iff.mpr ⟨r, h.reads, ?_⟩, rfl⟩⟩
    rw [if_neg hphase]
    exact ⟨hcleaned, hstate, hreplace⟩

/-! ### The procedure -/

/-- What follows the retirement. -/
abbrev wind_up (sha : TransferDigests) (request_id : String)
    (a : TransferCleanupAcknowledgment) : SourceSaga TransferCleanupAcknowledgment :=
  (inspect (require_retired sha request_id)).andThen fun _ =>
  (erase sha request_id).andThen fun _ =>
  (finish sha request_id).andThen fun _ =>
  done a

/-- Nothing after the retirement can refuse. -/
theorem wind_up_succeeds (h : Retired sha request_id proof a r p w) :
    ∃ v, (wind_up sha request_id a).Succeeds w v a := by
  obtain ⟨u, herase⟩ : ∃ u, (erase sha request_id).Succeeds w u () := by
    by_cases hfile : (w.archives request_id).isSome = true
    · exact ⟨_, (erase_iff h).mpr (by rw [if_pos hfile])⟩
    · exact ⟨w, (erase_iff h).mpr (by rw [if_neg hfile])⟩
  obtain ⟨v, hfinish⟩ := finish_succeeds (erase_spec h herase)
  exact ⟨v, succeeds_andThen.mpr ⟨w, (), require_retired_succeeds h, succeeds_andThen.mpr
    ⟨u, (), herase, succeeds_andThen.mpr ⟨v, (), hfinish, succeeds_done.mpr ⟨rfl, rfl⟩⟩⟩⟩⟩

theorem wind_up_resumes : Resumes (Stands fun r p w => Retired sha request_id proof a r p w)
    (fun _ : Unit => wind_up sha request_id a) := by
  -- from the last commit backwards: each stage resumes what the later ones leave
  have hfinish : Resumes (Stands fun r p w => Erased sha request_id proof a r p w)
      (fun _ : Unit => (finish sha request_id).andThen (fun _ => done a)) := by
    refine Resumes.commit_andThen
      (J := fun _ => Stands fun r p w => Completed sha request_id proof a r p w) ?_ ?_ ?_ ?_
    · refine Meets.commit ?_
      intro w v _ ⟨r, p, h⟩ hfinish
      obtain ⟨r', p', h'⟩ := finish_spec h hfinish
      exact ⟨⟨r', p', h'.toErased⟩, r', p', h'⟩
    · intro _ w ⟨r, p, h⟩
      exact ⟨r, p, h.toErased⟩
    · intro _ w ⟨r, p, h⟩
      exact finish_idle h
    · intro _
      exact resumes_done
  have herase : Resumes (Stands fun r p w => Retired sha request_id proof a r p w)
      (fun _ : Unit => (erase sha request_id).andThen (fun _ =>
        (finish sha request_id).andThen (fun _ => done a))) := by
    refine Resumes.commit_andThen
      (J := fun _ => Stands fun r p w => Erased sha request_id proof a r p w) ?_ ?_ ?_ ?_
    · refine Meets.commit ?_
      intro w v _ ⟨r, p, h⟩ herase
      have h' := erase_spec h herase
      exact ⟨⟨r, p, h'.toRetired⟩, r, p, h'⟩
    · intro _ w ⟨r, p, h⟩
      exact ⟨r, p, h.toRetired⟩
    · intro _ w ⟨r, p, h⟩
      exact erase_idle h
    · intro _
      exact hfinish
  refine Resumes.inspect_andThen
    (J := fun _ => Stands fun r p w => Retired sha request_id proof a r p w) ?_ ?_ ?_ ?_
  · exact Meets.inspect (fun w _ h _ => h)
  · intro _ w h
    exact h
  · intro _ w ⟨r, p, h⟩
    exact require_retired_succeeds h
  · intro _
    exact herase

/-- Whether a project may be retired does not depend on the time. -/
theorem retire_total :
    Total (Stands fun r p w => Consumed sha request_id proof a r p w) (retire sha request_id) := by
  intro now w v _ _ hretire now'
  obtain ⟨t, row, hstore, -⟩ := update_store_iff.mp hretire
  obtain ⟨project, hread, hside, hphase, hverified, hproject, hrest⟩ :=
    SpaceStore.retire_iff.mp hstore
  obtain ⟨t', hstore'⟩ :
      ∃ t', w.store.retire_source_project_transfer sha request_id now' = .ok (t', row) := by
    -- only the time on the mark differs
    by_cases hdone : project.retired_transfer_request_id = none
    · rw [if_neg (by simp [hdone])] at hrest
      refine ⟨{ w.store with projects := w.store.projects.put { project with
          retired_at := some now', retired_transfer_request_id := some request_id } },
        SpaceStore.retire_iff.mpr
          ⟨project, hread, hside, hphase, hverified, hproject, ?_⟩⟩
      rw [if_neg (by simp [hdone])]
      exact ⟨hrest.1, hrest.2.1, rfl⟩
    · rw [if_pos hdone] at hrest
      refine ⟨w.store, SpaceStore.retire_iff.mpr
        ⟨project, hread, hside, hphase, hverified, hproject, ?_⟩⟩
      rw [if_pos hdone]
      exact ⟨hrest.1, hrest.2.1, rfl⟩
  exact ⟨_, (), update_store_iff.mpr ⟨t', row, hstore', rfl⟩⟩

theorem retire_meets {now : String} :
    Meets (Stands fun r p w => Consumed sha request_id proof a r p w)
      (Stands fun r p w => Consumed sha request_id proof a r p w) (retire sha request_id now)
      (fun _ => Stands fun r p w => Retired sha request_id proof a r p w) := by
  refine Meets.commit ?_
  intro w v _ ⟨r, p, h⟩ hretire
  obtain ⟨r', p', h'⟩ := retire_spec h hretire
  exact ⟨⟨r', p', h'.toConsumed⟩, r', p', h'⟩

theorem retire_resumes : Resumes (Stands fun r p w => Consumed sha request_id proof a r p w)
    (fun now => (retire sha request_id now).andThen (fun _ => wind_up sha request_id a)) := by
  have hrestarts : Restarts (Stands fun r p w => Consumed sha request_id proof a r p w)
      (retire sha request_id) := by
    refine restarts_commit retire_total ?_
    intro now w v _ ⟨r, p, h⟩ hretire _ now'
    obtain ⟨r', p', h'⟩ := retire_spec h hretire
    exact retire_idle h' now'
  have hstage := Resumes.andThen (fun now : String => retire_meets) retire_total hrestarts
    (fun _ _ ⟨r, p, h⟩ => ⟨r, p, h.toConsumed⟩) (fun _ _ ⟨_, _, h⟩ now => retire_idle h now)
    (follows_of_sure (fun _ => retire_meets.ends) (fun _ _ (_ : Unit) ⟨_, _, h⟩ => by
      obtain ⟨v, hv⟩ := wind_up_succeeds h
      exact ⟨v, a, hv⟩)) (fun _ => wind_up_resumes)
  exact hstage.reindex (e := fun now => (now, ())) (fun q => ⟨q.1, rfl⟩)

theorem consume_resumes : Resumes (Stands fun r p w => Cleaned sha request_id proof a r p w)
    (fun now => (consume sha request_id).andThen (fun _ =>
      (retire sha request_id now).andThen (fun _ => wind_up sha request_id a))) := by
  refine Resumes.commit_andThen
    (J := fun _ => Stands fun r p w => Consumed sha request_id proof a r p w) ?_ ?_ ?_ ?_
  · refine Meets.commit ?_
    intro w v _ ⟨r, p, h⟩ hconsume
    obtain ⟨r', p', h'⟩ := consume_spec h hconsume
    exact ⟨⟨r', p', h'.toCleaned⟩, r', p', h'⟩
  · intro _ w ⟨r, p, h⟩
    exact ⟨r, p, h.toCleaned⟩
  · intro _ w ⟨r, p, h⟩
    exact consume_idle h
  · intro _
    exact retire_resumes

theorem clean_up_resumes : Resumes (Stands fun r p w => Verified sha request_id proof a r p w)
    (fun now => (clean_up sha request_id).andThen (fun _ =>
      (inspect (require_recovery_archive sha request_id)).andThen (fun _ =>
        (consume sha request_id).andThen (fun _ =>
          (retire sha request_id now).andThen (fun _ => wind_up sha request_id a))))) := by
  refine Resumes.commit_andThen
    (J := fun _ => Stands fun r p w => Cleaned sha request_id proof a r p w) ?_ ?_ ?_ ?_
  · refine Meets.commit ?_
    intro w v _ ⟨r, p, h⟩ hclean
    obtain ⟨r', p', h'⟩ := clean_up_spec h hclean
    exact ⟨⟨r', p', h'.toVerified⟩, r', p', h'⟩
  · intro _ w ⟨r, p, h⟩
    exact ⟨r, p, h.toVerified⟩
  · intro _ w ⟨r, p, h⟩
    exact clean_up_idle h
  · intro _
    refine Resumes.inspect_andThen
      (J := fun _ => Stands fun r p w => Cleaned sha request_id proof a r p w) ?_ ?_ ?_ ?_
    · exact Meets.inspect (fun w _ h _ => h)
    · intro _ w h
      exact h
    · intro _ w ⟨r, p, h⟩
      exact recovery_succeeds h
    · intro _
      exact consume_resumes

/-- Completing resumes: cut off anywhere and run again with the same proof, at whatever time, it
    ends as an uninterrupted run does. -/
theorem complete_resumes :
    Resumes (Sound sha) (complete_source_project_transfer sha request_id proof) :=
  Resumes.commit_andThen verify_meets (fun _ _ ⟨_, _, h⟩ => h.sound) (fun _ _ h => verify_idle h)
    (fun _ => clean_up_resumes)

end SourceWorld

end ResearchGraph
