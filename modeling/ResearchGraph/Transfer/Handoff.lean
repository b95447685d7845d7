import ResearchGraph.Transfer.Crossing

/-! # A project changes hands

    A source space and a target space take their steps in any order, and what
    is carried between them may be lost, repeated and reordered. Two things are
    asked of the carrier: a secret that its side has not shown cannot be handed
    in, and a new secret has a digest that no request names. A carrier that is
    `relayed` moreover hands in only links that the target has issued and
    archives that were downloaded from the source.
-/

namespace ResearchGraph

open Lib

variable (sha : TransferDigests) (relayed : Prop)

/-- The two spaces, the archives that were downloaded, and the requests whose import has passed its
    checks. -/
structure Handoff where
  source : SourceWorld
  target : SpaceStore
  sent : List TransferArchive := []
  checked : List String := []

namespace Handoff

open SourceWorld SpaceStore

/-- The digest is named nowhere. -/
def Fresh (h : Handoff) (digest : String) : Prop :=
  ¬ h.source.store.Names digest ∧ ¬ h.target.Names digest

instance (h : Handoff) (digest : String) : Decidable (h.Fresh digest) :=
  inferInstanceAs (Decidable (_ ∧ _))

/-- What may be handed in to the source. -/
def admits (h : Handoff) : SourceInput → Prop
  | .secret b => h.Fresh (sha.secret b)
  | .link receipt => relayed → Issued h.target receipt
  | .proof b => ¬ h.target.Protects (sha.secret b)
  | .nothing => True

instance (h : Handoff) [Decidable relayed] : ∀ input, Decidable (h.admits sha relayed input)
  | .secret b => inferInstanceAs (Decidable (h.Fresh (sha.secret b)))
  | .link receipt => inferInstanceAs (Decidable (relayed → Issued h.target receipt))
  | .proof b => inferInstanceAs (Decidable (¬ h.target.Protects (sha.secret b)))
  | .nothing => inferInstanceAs (Decidable True)

/-- What an operation of the target may do outside an import. -/
def admits_change (h : Handoff) : TransferChange → Prop
  | .create b => h.Fresh (sha.secret b)
  | .activate _ => False
  | _ => True

instance (h : Handoff) : ∀ kind, Decidable (h.admits_change sha kind)
  | .create b => inferInstanceAs (Decidable (h.Fresh (sha.secret b)))
  | .activate _ => inferInstanceAs (Decidable False)
  | .quiet | .link _ | .admitted | .release | .fence | .bind | .expose | .acknowledge _
  | .accept_cleanup _ | .consume | .cleanup | .complete | .detach | .reenter =>
    inferInstanceAs (Decidable True)

/-- One step of the two spaces. -/
inductive HandoffStep (h : Handoff) : Handoff → Prop
  | source (input : SourceInput) (w : SourceWorld) (hstep : SourceStep sha h.source w input)
      (hinput : h.admits sha relayed input) : HandoffStep h { h with source := w }
  | download (request_id : String) (file : TransferArchive)
      (hdownload : h.source.download_source_project_transfer_archive sha request_id = .ok file) :
      HandoffStep h { h with sent := file :: h.sent }
  | check (request_id : String) (file : TransferArchive) (hfile : relayed → file ∈ h.sent)
      (hproof : ¬ h.source.store.Protects (sha.secret file.release_proof))
      (hcheck : h.target.check_archive sha request_id file = .ok ()) :
      HandoffStep h { h with checked := request_id :: h.checked }
  | activate (request_id : String) (project : CatalogProject) (provisioning_revision : Nat)
      (final_review_digest now : String) (t : SpaceStore) (activation : TransferActivation)
      (hchecked : request_id ∈ h.checked)
      (hactivate : h.target.activate_target_project_transfer sha request_id project
        provisioning_revision final_review_digest now = .ok (t, activation)) :
      HandoffStep h { h with target := t }
  | target (op : TransferOperation) (t : SpaceStore) (hexec : op.exec sha h.target = .ok t)
      (hchange : h.admits_change sha op.change) : HandoffStep h { h with target := t }
  /-- Work of the target that leaves its transfer requests alone. -/
  | elsewhere (t : SpaceStore) (hrequests : t.requests = h.target.requests)
      (hproofs : t.proofs = h.target.proofs) : HandoffStep h { h with target := t }

/-- Two spaces that have had no transfers. -/
structure Start (h : Handoff) : Prop where
  source : SourceWorld.Initial h.source
  requests : h.target.requests = Table.empty
  proofs : h.target.proofs = Table.empty
  sent : h.sent = []
  checked : h.checked = []

/-- What two spaces can come to. -/
def Reaches (h : Handoff) : Prop :=
  ∃ start, Start start ∧ Relation.ReflTransGen (HandoffStep sha relayed) start h

/-- What holds between any two steps. -/
structure Safe (h : Handoff) : Prop where
  source : SourceWorld.Sound sha h.source
  agreed : Agreed sha relayed h.source.store h.target h.checked
  sent : ∀ file ∈ h.sent, Sealed sha h.source.store file

variable {sha} {relayed} {h k : Handoff}

theorem Start.safe (hstart : Start h) : Safe sha relayed h := by
  have hsource : ∀ id r p, ¬ h.source.store.Holds id r p := by
    intro id r p hold
    rw [Holds, hstart.source.requests] at hold
    cases hold.1
  have htarget : ∀ id r p, ¬ h.target.Holds id r p := by
    intro id r p hold
    rw [Holds, hstart.requests] at hold
    cases hold.1
  refine ⟨sound_of_empty hstart.source.requests hstart.source.proofs hstart.source.retirement,
    ?_, ?_⟩
  · exact
      { source := consistent_of_empty hstart.source.requests hstart.source.proofs
        target := consistent_of_empty hstart.requests hstart.proofs
        source_late := fun id r p hold => absurd hold (hsource id r p)
        target_late := fun id r p hold => absurd hold (htarget id r p)
        source_phase := fun id r p hold => absurd hold (hsource id r p)
        active := fun id r p hold => absurd hold (htarget id r p)
        checked := by simp [hstart.checked]
        verified := fun id r p hold => absurd hold (hsource id r p)
        linked := fun _ id r p hold => absurd hold (hsource id r p) }
  · simp [hstart.sent]

/-- What is handed in to the source is what its moves ask for. -/
theorem admits_changes {input : SourceInput} (hinput : h.admits sha relayed input)
    {kind : TransferChange} (hkind : kind ∈ input.changes) :
    (∀ b, kind = .create b → ¬ h.target.Names (sha.secret b))
      ∧ (∀ b, kind = .acknowledge b → ¬ h.target.Protects (sha.secret b))
      ∧ ∀ receipt, kind = .link receipt → relayed → Issued h.target receipt := by
  cases input with
  | secret b =>
    obtain rfl := List.mem_singleton.mp hkind
    refine ⟨?_, by simp, by simp⟩
    intro b' hb'
    obtain rfl : b = b' := TransferChange.create.inj hb'
    exact hinput.2
  | link receipt =>
    obtain rfl := List.mem_singleton.mp hkind
    refine ⟨by simp, by simp, ?_⟩
    intro receipt' hreceipt
    obtain rfl : receipt = receipt' := TransferChange.link.inj hreceipt
    exact hinput
  | proof b =>
    refine ⟨?_, ?_, ?_⟩
    · rintro b' rfl
      simp [SourceInput.changes] at hkind
    · rintro b' rfl
      obtain rfl : b' = b := by simpa [SourceInput.changes] using hkind
      exact hinput
    · rintro receipt rfl
      simp [SourceInput.changes] at hkind
  | nothing =>
    refine ⟨?_, ?_, ?_⟩
    · rintro b' rfl
      simp [SourceInput.changes] at hkind
    · rintro b' rfl
      simp [SourceInput.changes] at hkind
    · rintro receipt rfl
      simp [SourceInput.changes] at hkind

/-- A step of the source, cut off anywhere. -/
theorem Safe.source_step {input : SourceInput} {w : SourceWorld} (hs : Safe sha relayed h)
    (hstep : SourceStep sha h.source w input) (hinput : h.admits sha relayed input) :
    Safe sha relayed { h with source := w } := by
  -- induction on the moves: agreement carries it, and what was sent needs later rows
  have hmoved := hstep.moves.keeps (I := fun s =>
      Agreed sha relayed s h.target h.checked ∧ Later h.source.store s)
    ⟨hs.agreed, Later.refl _⟩ (by
      intro u v kind hkind hu huv
      obtain ⟨hnew, hproof, hlink⟩ := admits_changes hinput hkind
      exact ⟨hu.1.source_step huv hnew hproof hlink, hu.2.trans (huv.later hu.1.source)⟩)
  refine ⟨hs.source.step hstep, hmoved.1, ?_⟩
  intro file hfile
  exact hmoved.2.sealed (hs.sent file hfile)

/-- Transactions of the target that activate only what was checked. -/
theorem Safe.target_moves {t : SpaceStore} {kind : TransferChange} (hs : Safe sha relayed h)
    (hrun : RowsRun sha kind h.target t)
    (hnew : ∀ b, kind = .create b → ¬ h.source.store.Names (sha.secret b))
    (hactivate : ∀ id, kind = .activate id → id ∈ h.checked) :
    Safe sha relayed { h with target := t } := by
  refine ⟨hs.source, ?_, hs.sent⟩
  refine hrun.moves.keeps (I := fun t => Agreed sha relayed h.source.store t h.checked) hs.agreed ?_
  intro u v kind' hkind hu huv
  obtain rfl := List.mem_singleton.mp hkind
  exact hu.target_step huv hnew hactivate

theorem Safe.step (hs : Safe sha relayed h) (hstep : HandoffStep sha relayed h k) :
    Safe sha relayed k := by
  cases hstep with
  | source input w hstep hinput => exact hs.source_step hstep hinput
  -- the file joins those sent, sealed by a bound source
  | download request_id file hdownload =>
    refine ⟨hs.source, hs.agreed, ?_⟩
    intro file' hfile'
    rcases List.mem_cons.mp hfile' with rfl | hfile'
    · obtain ⟨r, p, hold, hside, hphase, hfile⟩ := download_spec hdownload
      have hrank : 5 ≤ r.rank := Nat.le_of_eq (r.rank_of_phase hphase (by decide)).symm
      have hseals := hs.source.sealed request_id r p hold hside hrank file' hfile
      refine ⟨r, p, ?_, hside, hrank, hseals⟩
      rw [(readback_matches_ok.mp hseals.matched).2.1, hold.key.1]
      exact hold
    · exact hs.sent file' hfile'
  -- the checks of the importer turn the file into backing for the target row
  | check request_id file hfile hproof hcheck =>
    obtain ⟨x, q, hold, himports⟩ := check_archive_spec hcheck
    refine ⟨hs.source, { hs.agreed with checked := ?_ }, hs.sent⟩
    intro id hid
    rcases List.mem_cons.mp hid with rfl | hid
    · refine ⟨x, q, hold, ?_, ?_⟩
      · rw [← himports.proof]
        exact hproof
      · intro hrelayed
        exact ⟨file, himports, hs.sent file (hfile hrelayed)⟩
    · exact hs.agreed.checked id hid
  -- an activation is the one change that needs a checked archive
  | activate request_id project revision review now t activation hchecked hactivate =>
    refine hs.target_moves (activate_step hactivate).run (by simp) ?_
    intro id hid
    obtain rfl : request_id = id := TransferChange.activate.inj hid
    exact hchecked
  | target op t hexec hchange =>
    refine hs.target_moves (TransferOperation.exec_run hexec) ?_ ?_
    · intro b hb
      rw [hb] at hchange
      exact hchange.1
    · intro id hid
      rw [hid] at hchange
      exact hchange.elim
  -- whatever else the target does leaves its requests alone
  | elsewhere t hrequests hproofs =>
    exact hs.target_moves (RowsStep.kept .quiet hrequests hproofs).run (by simp) (by simp)

theorem Reaches.safe (hh : h.Reaches sha relayed) : Safe sha relayed h := by
  obtain ⟨start, hstart, hrun⟩ := hh
  induction hrun with
  | refl => exact hstart.safe
  | tail _ hstep ih => exact ih.step hstep

/-! ### Who has the project -/

variable {id id' : String} {r x : TransferRequest} {p : TransferProof}

/-- The source has let go of the project: it has taken the proof of the target, erased the archive
    it had bound, or retired the project by this request. -/
def GivenUp (w : SourceWorld) (id : String) (r : TransferRequest) : Prop :=
  r.proof_state.verified = true ∨ (r.archive_sha256 ≠ none ∧ w.archives id = none)
    ∨ w.retirement_mark r.project_id = some id

theorem given_up_verified (hs : SourceWorld.Sound sha h.source) (hold : h.source.store.Holds id r p)
    (hside : r.side = .source) (hgiven : GivenUp h.source id r) : 2 ≤ p.state.rank := by
  have hrow := hs.consistent.sound id r p hold
  rcases hgiven with hverified | ⟨hbound, hmissing⟩ | hmark
  · rw [← hrow.state] at hverified
    exact verified_iff_rank.mp hverified
  · have hrank : 5 ≤ r.rank := by
      rw [← (TransferRequest.shaped_of_validate hrow.shape).archive, Option.isSome_iff_ne_none]
      exact hbound
    rw [(hs.kept id r p hold hside hrank hmissing).1]
    decide
  · obtain ⟨r', p', hold', -, -, hconsumed⟩ := hs.retirement r.project_id id hmark
    obtain ⟨rfl, rfl⟩ := hold.unique hold'
    rw [hconsumed]
    decide

/-- No project has two owners: once a target that was prepared for it is active, the home of the
    project has moved and its source refuses new work. The carrier may hand in any archive. -/
theorem active_target_has_fenced_source (hh : h.Reaches sha relayed)
    (hsource : h.source.store.requests.get? id = some r) (hside : r.side = .source)
    (htarget : h.target.requests.get? id' = some x) (hside' : x.side = .target)
    (hcommitment : x.source_release_proof_sha256 = r.source_release_proof_sha256)
    (hactive : 6 ≤ x.rank) :
    4 ≤ r.rank ∧ (h.source.history r.project_id).home_space_id = r.target_space_id
      ∧ ∃ e, h.source.store.require_project_accepts_new_work r.project_id = .error e := by
  have hs := hh.safe
  obtain ⟨p, hold⟩ := hs.agreed.source.holds hsource
  obtain ⟨q, hold'⟩ := hs.agreed.target.holds htarget
  have hrank := hs.agreed.source_fenced hold hside hold' hside' hactive hcommitment
  exact ⟨hrank, hs.source.home id r p hold hside hrank, hs.agreed.refuses_work hold hside hrank⟩

/-- No project is lost: a source lets go of it only when the target is active. -/
theorem given_up_has_active_target (hh : h.Reaches sha relayed)
    (hsource : h.source.store.requests.get? id = some r) (hside : r.side = .source)
    (hgiven : GivenUp h.source id r)
    (htarget : h.target.requests.get? id' = some x) (hside' : x.side = .target)
    (hcommitment : x.target_activation_proof_sha256 = r.target_activation_proof_sha256) :
    6 ≤ x.rank := by
  have hs := hh.safe
  obtain ⟨p, hold⟩ := hs.agreed.source.holds hsource
  obtain ⟨q, hold'⟩ := hs.agreed.target.holds htarget
  exact hs.agreed.target_active hold hside (given_up_verified hs.source hold hside hgiven) hold'
    hside' hcommitment

/-! ### What was handed over -/

/-- Both sides name each other and have bound the same archive of the same fenced head. -/
structure SameBoundary (r x : TransferRequest) : Prop where
  linked : r.linked_request_id = some x.request_id
  linked_back : x.linked_request_id = some r.request_id
  project : x.project_id = r.project_id
  source_space : x.source_space_id = r.source_space_id
  target_space : x.target_space_id = r.target_space_id
  bound : r.archive_sha256.isSome = true
  archive : x.archive_sha256 = r.archive_sha256
  archive_size : x.archive_size_bytes = r.archive_size_bytes
  fence : x.source_fence_head = r.source_fence_head

/-- One archive that both rows bind. -/
theorem same_boundary {file : TransferArchive} (himports : Imports sha x file)
    (hseals : Seals sha r file) : SameBoundary r x := by
  obtain ⟨hproject, hrequest, hlinked, hspace, hspace', hfence, -⟩ :=
    readback_matches_ok.mp hseals.matched
  exact
    { linked := by rw [hlinked, himports.request]
      linked_back := by rw [himports.linked, hrequest]
      project := himports.project.symm.trans hproject
      source_space := himports.source_space.symm.trans hspace
      target_space := himports.target_space.symm.trans hspace'
      bound := by rw [hseals.digest, Option.isSome_some]
      archive := himports.digest.trans hseals.digest.symm
      archive_size := himports.size.trans hseals.size.symm
      fence := himports.fence.trans hfence.symm }

/-- An active target has taken over what a source has sealed: the request it names is a source that
    names it, with the same archive and the same fenced head. -/
theorem active_target_agrees (hh : h.Reaches sha True)
    (htarget : h.target.requests.get? id' = some x) (hside' : x.side = .target)
    (hactive : 6 ≤ x.rank) :
    ∃ r, h.source.store.requests.get? r.request_id = some r ∧ r.side = .source
      ∧ SameBoundary r x := by
  have hs := hh.safe
  obtain ⟨q, hold'⟩ := hs.agreed.target.holds htarget
  obtain ⟨-, hsealed⟩ := hs.agreed.active id' x q hold' hside' hactive
  obtain ⟨file, himports, r, p, hold, hside, -, hseals⟩ := hsealed trivial
  refine ⟨r, ?_, hside, same_boundary himports hseals⟩
  rw [hold.key.1]
  exact hold.1

/-- A project that its source has let go of is active in the target that the source was linked to,
    from the archive that the source has sealed. -/
theorem given_up_is_handed_over (hh : h.Reaches sha True)
    (hsource : h.source.store.requests.get? id = some r) (hside : r.side = .source)
    (hgiven : GivenUp h.source id r) :
    ∃ x, h.target.requests.get? x.request_id = some x ∧ x.side = .target ∧ 6 ≤ x.rank
      ∧ x.link_receipt = r.link_receipt ∧ SameBoundary r x := by
  have hs := hh.safe
  obtain ⟨p, hold⟩ := hs.agreed.source.holds hsource
  -- the source let go only of a proof that it had verified
  have hverified := given_up_verified hs.source hold hside hgiven
  have hrow := hs.agreed.source.sound id r p hold
  have hshaped := TransferRequest.shaped_of_validate hrow.shape
  have hlate := hs.agreed.source_late id r p hold (unexposed_rank hverified)
  rw [hside] at hlate
  -- it is late enough to have a link, and that link was issued by the target
  have hlinked : r.effective_phase ≠ .awaiting_link := by
    intro hphase
    rw [TransferRequest.rank, hphase] at hlate
    exact absurd hlate (by decide)
  obtain ⟨receipt, hreceipt⟩ := Option.isSome_iff_exists.mp (hshaped.linked hlinked).2.2
  obtain ⟨x, htarget, hside', hreceipt'⟩ :=
    issued_iff.mp (hs.agreed.linked trivial id r p hold hside receipt hreceipt)
  obtain ⟨q, hold'⟩ := hs.agreed.target.holds htarget
  have hrow' := hs.agreed.target.sound _ x q hold'
  -- both rows match the one receipt
  obtain ⟨⟨hname, -⟩, hsome⟩ := TransferRequest.link_matches_iff.mp (hrow.link receipt hreceipt)
  obtain ⟨⟨hname', -⟩, hsome'⟩ := TransferRequest.link_matches_iff.mp (hrow'.link receipt hreceipt')
  rw [TransferRequest.source_request_id, hside] at hname
  rw [TransferRequest.source_request_id, hside'] at hname'
  have hcommitment : x.target_activation_proof_sha256 = r.target_activation_proof_sha256 := by
    rw [(hsome (by simp [hreceipt])).2.1, (hsome' (by simp [hreceipt'])).2.1]
  -- so the proof that was verified is that of this target
  have hactive := hs.agreed.target_active hold hside hverified hold' hside' hcommitment
  obtain ⟨r', hget, hside'', hboundary⟩ := active_target_agrees hh hold'.1 hside' hactive
  -- an active target agrees with one source; its link names ours
  have hsame : r'.request_id = r.request_id := by
    have hback := hboundary.linked_back
    rw [show x.linked_request_id = some receipt.source_request_id from hname', ← hname] at hback
    exact (Option.some.inj hback).symm
  rw [hsame, hold.key.1, hold.1] at hget
  obtain rfl : r = r' := Option.some.inj hget
  refine ⟨x, ?_, hside', hactive, by rw [hreceipt, hreceipt'], hboundary⟩
  rw [hold'.key.1]
  exact hold'.1

/-! ### Running moves -/

/-- A move of one of the spaces. -/
inductive HandoffMove
  | source (op : SourceOperation)
  | download (request_id : String)
  | check (request_id : String) (file : TransferArchive)
  | activate (request_id : String) (project : CatalogProject) (provisioning_revision : Nat)
      (final_review_digest now : String)
  | target (op : TransferOperation)

/-- The two spaces after a move, where it is admitted and succeeds. -/
def HandoffMove.exec (sha : TransferDigests) (relayed : Prop) [Decidable relayed] (h : Handoff) :
    HandoffMove → Option Handoff
  | source op =>
    if h.admits sha relayed op.input then some { h with source := op.after sha h.source } else none
  | download request_id =>
    (h.source.download_source_project_transfer_archive sha request_id).toOption.map
      fun file => { h with sent := file :: h.sent }
  | check request_id file =>
    if (relayed → file ∈ h.sent) ∧ ¬ h.source.store.Protects (sha.secret file.release_proof)
        ∧ (h.target.check_archive sha request_id file).isOk = true then
      some { h with checked := request_id :: h.checked }
    else none
  | activate request_id project provisioning_revision final_review_digest now =>
    if request_id ∈ h.checked then
      (h.target.activate_target_project_transfer sha request_id project provisioning_revision
        final_review_digest now).toOption.map fun result => { h with target := result.1 }
    else none
  | target op =>
    if h.admits_change sha op.change then
      (op.exec sha h.target).toOption.map fun t => { h with target := t }
    else none

theorem toOption_map_eq_some {ε α β : Type} {x : Except ε α} {f : α → β} {b : β} :
    x.toOption.map f = some b ↔ ∃ a, x = .ok a ∧ f a = b := by
  cases x <;> simp [Except.toOption]

/-- A move is a step. -/
theorem HandoffMove.step [Decidable relayed] {move : HandoffMove}
    (hmove : move.exec sha relayed h = some k) : HandoffStep sha relayed h k := by
  cases move with
  | source op =>
    simp only [exec, Option.ite_none_right_eq_some, Option.some.injEq] at hmove
    obtain ⟨hinput, rfl⟩ := hmove
    exact .source op.input _ op.step hinput
  | download request_id =>
    simp only [exec, toOption_map_eq_some] at hmove
    obtain ⟨file, hfile, rfl⟩ := hmove
    exact .download request_id file hfile
  | check request_id file =>
    simp only [exec, Option.ite_none_right_eq_some, Option.some.injEq] at hmove
    obtain ⟨⟨hsent, hproof, hcheck⟩, rfl⟩ := hmove
    refine .check request_id file hsent hproof ?_
    cases hresult : h.target.check_archive sha request_id file with
    | ok u => rfl
    | error e =>
      rw [hresult] at hcheck
      cases hcheck
  | activate request_id project revision review now =>
    simp only [exec, Option.ite_none_right_eq_some, toOption_map_eq_some] at hmove
    obtain ⟨hchecked, ⟨t, activation⟩, hactivate, rfl⟩ := hmove
    exact .activate request_id project revision review now t activation hchecked hactivate
  | target op =>
    simp only [exec, Option.ite_none_right_eq_some, toOption_map_eq_some] at hmove
    obtain ⟨hchange, t, hexec, rfl⟩ := hmove
    exact .target op t hexec hchange

theorem run_of_moves [Decidable relayed] {moves : List HandoffMove}
    (hmoves : moves.foldlM (HandoffMove.exec sha relayed) h = some k) :
    Relation.ReflTransGen (HandoffStep sha relayed) h k := by
  induction moves generalizing h with
  | nil =>
    obtain rfl := Option.some.inj hmoves
    exact .refl
  | cons move rest ih =>
    rw [List.foldlM_cons, Option.bind_eq_bind, Option.bind_eq_some_iff] at hmoves
    obtain ⟨u, hu, hrest⟩ := hmoves
    exact .head (HandoffMove.step hu) (ih hrest)

/-! ### One transfer -/

def sample_member : AuthorizedHuman := ⟨"team", "ada", "Ada"⟩

def sample_team : SpaceStore where
  space_id := "team"
  space_kind := .team
  members := ["ada"]
  provisioning := Table.empty.put
    { request_id := "target"
      incoming_transfer := true
      status := .ready_for_review
      target_space_id := "team"
      authorized_by := sample_member
      proposed_project_id := "project"
      repositories := Table.empty.put ⟨"code", "hub", "owner/code", some "/srv/code"⟩
      revision := 3
      final_review_digest := some "review" }

def sample_target_link : TargetLink where
  source_request_id := "source"
  source_project_id := "project"
  source_space_id := "personal"
  initiated_by := sample_member
  source_configuration := sample_configuration
  source_configuration_sha256 := "manifest"
  source_release_proof_sha256 := "release"
  accepted_schema_generation := 7
  accepted_archive_codec := "tar"

def sample_release : TransferSourceReleaseReceipt where
  source_request_id := "source"
  target_request_id := "target"
  project_id := "project"
  source_space_id := "personal"
  target_space_id := "team"
  released_by := sample_owner
  source_configuration_sha256 := "manifest"
  target_admission_sha256 := "review"
  target_preparation_revision := 3
  target_preparation_sha256 := "review"
  source_head := { revision := 4 }
  accepted_schema_generation := 7
  accepted_archive_codec := "tar"
  source_release_proof_sha256 := "release"
  target_activation_proof_sha256 := "activation"
  created_at := "now"

def sample_archive : TransferArchive where
  manifest :=
    { project_id := "project"
      source_space_id := "personal"
      target_space_id := "team"
      source_request_id := "source"
      target_request_id := "target"
      source_rcp_version := "1"
      source_schema_generation := 7
      archive_codec := "tar"
      source_configuration_sha256 := "manifest"
      source_manifest_sha256 := "manifest"
      source_release_proof_sha256 := "release"
      target_activation_proof_sha256 := "activation"
      main_head := { revision := 5 }
      attributions := [sample_owner, sample_member]
      payload := "archive"
      created_at := "now" }
  release_proof := List.replicate 32 1

def sample_project : CatalogProject where
  project_id := "project"
  home_space_id := "team"
  locator := "there"
  name := "Project"

/-- From the first request to the activation of the target. -/
def sample_activation : List HandoffMove :=
  [.source (.create "project" "team" sample_owner sample_configuration "source"
      (List.replicate 32 1)),
    .target (.create_target "target" sample_target_link (List.replicate 32 2) "now"),
    .source (.link "source" sample_link),
    .target (.record_admission "target" sample_member "now"),
    .source (.accept_admission "source" sample_admission),
    .source (.record_release "source" sample_owner sample_configuration { revision := 4 } "now"),
    .target (.accept_release "target" sample_release),
    .source (.advance "source" sample_advance),
    .download "source",
    .target (.bind_archive "target" "ada" "archive" 33 { revision := 5 }),
    .target (.begin_upload "target" "lease"),
    .target (.complete_upload "target" "lease" "now"),
    .check "target" sample_archive,
    .target (.begin_import ⟨"target", "project", "archive", "reviewed", "records", none, none⟩),
    .target (.complete_import "target" "published" "now"),
    .activate "target" sample_project 3 "review" "now"]

def sample_start : Handoff := { source := sample_source, target := sample_team }

def sample_active : Handoff :=
  (sample_activation.foldlM (HandoffMove.exec sample_digests True) sample_start).getD sample_start

/-- The target shows its proof, and the source takes it. -/
def sample_completion : List HandoffMove :=
  [.target (.expose "target"), .source (.complete "source" (List.replicate 32 2) "now")]

def sample_completed : Handoff :=
  (sample_completion.foldlM (HandoffMove.exec sample_digests True) sample_active).getD sample_active

theorem run_of_getD {moves : List HandoffMove}
    (hmoves : (moves.foldlM (HandoffMove.exec sha True) h).isSome = true) :
    Relation.ReflTransGen (HandoffStep sha True) h
      ((moves.foldlM (HandoffMove.exec sha True) h).getD h) := by
  obtain ⟨k, hk⟩ := Option.isSome_iff_exists.mp hmoves
  rw [hk]
  exact run_of_moves hk

theorem sample_active_reaches : Reaches sample_digests True sample_active := by
  refine ⟨sample_start, ⟨sample_source_initial, rfl, rfl, rfl, rfl⟩, ?_⟩
  exact run_of_getD (by decide +kernel)

theorem sample_completed_reaches : Reaches sample_digests True sample_completed := by
  obtain ⟨start, hstart, hrun⟩ := sample_active_reaches
  exact ⟨start, hstart, hrun.trans (run_of_getD (by decide +kernel))⟩

theorem sample_active_rows : ∃ r x, sample_active.source.store.requests.get? "source" = some r
    ∧ sample_active.target.requests.get? "target" = some x ∧ r.side = .source ∧ x.side = .target
    ∧ x.source_release_proof_sha256 = r.source_release_proof_sha256 ∧ 6 ≤ x.rank := by
  have hsource : (sample_active.source.store.requests.get? "source").map
      (fun r => (r.side, r.source_release_proof_sha256)) = some (.source, "release") := by
    decide +kernel
  have htarget : (sample_active.target.requests.get? "target").map
      (fun x => (x.side, x.source_release_proof_sha256, x.rank))
        = some (.target, "release", 6) := by
    decide +kernel
  obtain ⟨r, hr, hsource⟩ := Option.map_eq_some_iff.mp hsource
  obtain ⟨x, hx, htarget⟩ := Option.map_eq_some_iff.mp htarget
  simp only [Prod.mk.injEq] at hsource htarget
  refine ⟨r, x, hr, hx, hsource.1, htarget.1, ?_, ?_⟩
  · rw [hsource.2, htarget.2.1]
  · rw [htarget.2.2]

theorem sample_completed_rows : ∃ r x,
    sample_completed.source.store.requests.get? "source" = some r
    ∧ sample_completed.target.requests.get? "target" = some x ∧ r.side = .source
    ∧ x.side = .target ∧ r.proof_state = .consumed
    ∧ x.target_activation_proof_sha256 = r.target_activation_proof_sha256 := by
  have hsource : (sample_completed.source.store.requests.get? "source").map
      (fun r => (r.side, r.proof_state, r.target_activation_proof_sha256))
        = some (.source, .consumed, some "activation") := by decide +kernel
  have htarget : (sample_completed.target.requests.get? "target").map
      (fun x => (x.side, x.target_activation_proof_sha256))
        = some (.target, some "activation") := by
    decide +kernel
  obtain ⟨r, hr, hsource⟩ := Option.map_eq_some_iff.mp hsource
  obtain ⟨x, hx, htarget⟩ := Option.map_eq_some_iff.mp htarget
  simp only [Prod.mk.injEq] at hsource htarget
  refine ⟨r, x, hr, hx, hsource.1, htarget.1, hsource.2.1, ?_⟩
  rw [hsource.2.2, htarget.2]

theorem active_target_has_fenced_source_activated : ∃ r,
    sample_active.source.store.requests.get? "source" = some r ∧ 4 ≤ r.rank
    ∧ (sample_active.source.history r.project_id).home_space_id = r.target_space_id
    ∧ ∃ e, sample_active.source.store.require_project_accepts_new_work r.project_id = .error e := by
  obtain ⟨r, x, hr, hx, hside, hside', hcommitment, hactive⟩ := sample_active_rows
  obtain ⟨hrank, hhome, hwork⟩ := active_target_has_fenced_source sample_active_reaches hr hside hx
    hside' hcommitment hactive
  exact ⟨r, hr, hrank, hhome, hwork⟩

theorem given_up_has_active_target_completed : ∃ r x,
    sample_completed.source.store.requests.get? "source" = some r
    ∧ sample_completed.target.requests.get? "target" = some x ∧ r.proof_state = .consumed
    ∧ 6 ≤ x.rank := by
  obtain ⟨r, x, hr, hx, hside, hside', hconsumed, hcommitment⟩ := sample_completed_rows
  refine ⟨r, x, hr, hx, hconsumed, given_up_has_active_target sample_completed_reaches hr hside
    (Or.inl ?_) hx hside' hcommitment⟩
  rw [hconsumed]
  rfl

theorem active_target_agrees_activated : ∃ r x,
    sample_active.source.store.requests.get? r.request_id = some r
    ∧ sample_active.target.requests.get? "target" = some x ∧ SameBoundary r x := by
  obtain ⟨-, x, -, hx, -, hside', -, hactive⟩ := sample_active_rows
  obtain ⟨r, hr, -, hboundary⟩ := active_target_agrees sample_active_reaches hx hside' hactive
  exact ⟨r, x, hr, hx, hboundary⟩

theorem given_up_is_handed_over_completed : ∃ r x,
    sample_completed.source.store.requests.get? "source" = some r
    ∧ sample_completed.target.requests.get? x.request_id = some x ∧ r.proof_state = .consumed
    ∧ 6 ≤ x.rank ∧ SameBoundary r x := by
  obtain ⟨r, -, hr, -, hside, -, hconsumed, -⟩ := sample_completed_rows
  obtain ⟨x, hx, -, hactive, -, hboundary⟩ := given_up_is_handed_over sample_completed_reaches hr
    hside (Or.inl (by rw [hconsumed]; rfl))
  exact ⟨r, x, hr, hx, hconsumed, hactive, hboundary⟩

end Handoff

end ResearchGraph
