import ResearchGraph.Transfer.Delivery

/-! # Two spaces

    The rows of a source and of a target change one transaction at a time, in
    any order. What ties them together is who has shown its secret: a source
    shows its release proof only behind its fence, a target its activation
    proof only once it is active.
-/

namespace ResearchGraph

open Lib

variable {sha : TransferDigests}

/-! ### What a change may bring -/

/-- The rank a side has come to when it shows its secret. -/
def exposing_rank : TransferSide → Nat
  | .source => 4
  | .target => 6

/-- A secret that was shown was shown late enough. -/
def ShownLate (r : TransferRequest) (p : TransferProof) : Prop :=
  p.state ≠ .unexposed → exposing_rank r.side ≤ r.rank

variable {r r' : TransferRequest} {p p' : TransferProof} {kind : TransferChange}

theorem RequestChange.commitment (h : RequestChange sha r p kind r' p') :
    p'.commitment_sha256 = p.commitment_sha256 := by
  cases h <;> rfl

theorem RequestChange.shown_late (h : RequestChange sha r p kind r' p') (hsound : RowSound sha r p)
    (hlate : ShownLate r p) : ShownLate r' p' := by
  have hadvanced := h.advanced hsound
  intro hshown
  by_cases hstate : p.state = .unexposed
  · -- only showing the secret leaves this state
    cases h with
    | expose hphase _ =>
      show exposing_rank r.side ≤ r.rank
      cases hside : r.side with
      | source =>
        have hphases : r.phase = .source_fenced ∨ r.phase = .archive_bound := by
          simpa [hside] using hphase
        rcases hphases with hphase | hphase
        · rw [r.rank_of_phase hphase (by decide)]
          decide
        · rw [r.rank_of_phase hphase (by decide)]
          decide
      | target =>
        have hphases : r.phase = .target_activated ∨ r.phase = .cleanup_acknowledged
            ∨ r.phase = .completed := by
          simpa [hside] using hphase
        rcases hphases with hphase | hphase | hphase
        · rw [r.rank_of_phase hphase (by decide)]
          decide
        · rw [r.rank_of_phase hphase (by decide)]
          decide
        · rw [r.rank_of_phase hphase (by decide)]
          decide
    | acknowledge proof digest hside hphase hexposed hproof =>
      rw [hstate] at hexposed
      cases hexposed
    | accept_cleanup acknowledgment hside hphase hexposed hmatch =>
      rw [hstate] at hexposed
      cases hexposed
    | consume hphase hacknowledged =>
      rw [hstate] at hacknowledged
      cases hacknowledged
    | link | admitted | release | fence | bind | activate | cleanup | complete | detach | reenter =>
      exact absurd hstate hshown
  -- it was shown before, and the rank only grows
  · rw [hadvanced.side]
    exact Nat.le_trans (hlate hstate) hadvanced.rank

/-- A target becomes active only by its activation. -/
theorem RequestChange.activates (h : RequestChange sha r p kind r' p') (hside : r.side = .target)
    (hbefore : r.rank < 6) (hafter : 6 ≤ r'.rank) : kind = .activate r.request_id := by
  cases h with
  | activate _ _ => rfl
  -- changes of a source
  | link receipt hsource _ _ =>
    rw [hside] at hsource
    cases hsource
  | fence head hsource _ =>
    rw [hside] at hsource
    cases hsource
  | acknowledge proof digest hsource _ _ _ =>
    rw [hside] at hsource
    cases hsource
  -- changes of a target that is active already
  | accept_cleanup acknowledgment _ hphase _ _ =>
    rw [r.rank_of_phase hphase (by decide)] at hbefore
    exact absurd hbefore (by decide)
  | cleanup hphase _ =>
    rw [hside] at hphase
    rw [r.rank_of_phase hphase (by decide)] at hbefore
    exact absurd hbefore (by decide)
  | complete hphase _ =>
    rw [r.rank_of_phase hphase (by decide)] at hbefore
    exact absurd hbefore (by decide)
  -- changes that end below the activation
  | admitted => exact absurd hafter (show ¬ 6 ≤ 2 by decide)
  | release => exact absurd hafter (show ¬ 6 ≤ 3 by decide)
  | bind => exact absurd hafter (show ¬ 6 ≤ 5 by decide)
  | reenter => exact absurd hafter (show ¬ 6 ≤ 5 by decide)
  | expose | consume | detach => exact absurd hafter (Nat.not_le.mpr hbefore)

/-- Activation is a phase of targets. -/
theorem RequestChange.source_not_activated (h : RequestChange sha r p kind r' p')
    (hsound : RowSound sha r p) (hside : r.side = .source) (hphase : r.phase ≠ .target_activated) :
    r'.phase ≠ .target_activated := by
  rcases h.source_phase hsound hside with hsame | hspan
  · rw [hsame]
    exact hphase
  · intro hactivated
    rw [hactivated] at hspan
    cases kind <;> simp [TransferChange.span, TransferPhase.rank] at hspan

/-- A source takes a proof as that of its target only against its commitment. -/
theorem RequestChange.acknowledges (h : RequestChange sha r p kind r' p') (hside : r.side = .source)
    (hbefore : p.state.rank < 2) (hafter : 2 ≤ p'.state.rank) :
    ∃ b, kind = .acknowledge b ∧ r.target_activation_proof_sha256 = some (sha.secret b) := by
  cases h with
  | acknowledge proof digest _ _ _ hproof => exact ⟨proof, rfl, hproof⟩
  | accept_cleanup acknowledgment htarget _ _ _ =>
    rw [hside] at htarget
    cases htarget
  | consume _ hstate =>
    rw [hstate] at hbefore
    exact absurd hbefore (by decide)
  | expose => exact absurd hafter (show ¬ 2 ≤ 1 by decide)
  | link | admitted | release | fence | bind | activate | cleanup | complete | detach | reenter =>
    exact absurd hafter (Nat.not_le.mpr hbefore)

theorem RequestChange.links (h : RequestChange sha r p kind r' p') {a : TransferLinkReceipt}
    (hlink : r'.link_receipt = some a) : r.link_receipt = some a ∨ kind = .link a := by
  cases h with
  | link receipt _ _ _ =>
    obtain rfl : receipt = a := Option.some.inj hlink
    exact Or.inr rfl
  | admitted | release | fence | bind | activate | expose | acknowledge | accept_cleanup | consume
  | cleanup | complete | detach | reenter => exact Or.inl hlink

namespace SpaceStore

variable {s s' t t' : SpaceStore} {id digest : String}

/-! ### Secrets -/

/-- A secret with this digest has not been shown. -/
def Protects (s : SpaceStore) (digest : String) : Prop :=
  ∃ p ∈ s.proofs.items, p.state = .unexposed ∧ p.commitment_sha256 = digest

instance (s : SpaceStore) (digest : String) : Decidable (s.Protects digest) :=
  inferInstanceAs (Decidable (∃ p ∈ s.proofs.items, _))

/-- A request names this digest as the commitment of its own side or of the other. -/
def Names (s : SpaceStore) (digest : String) : Prop :=
  ∃ r ∈ s.requests.items, r.source_release_proof_sha256 = digest
    ∨ r.target_activation_proof_sha256 = some digest

instance (s : SpaceStore) (digest : String) : Decidable (s.Names digest) :=
  inferInstanceAs (Decidable (∃ r ∈ s.requests.items, _))

theorem Holds.protects {r : TransferRequest} {p : TransferProof} (hold : s.Holds id r p)
    (hstate : p.state = .unexposed) : s.Protects p.commitment_sha256 :=
  ⟨p, (Table.get?_eq_some_iff.mp hold.2).1, hstate, rfl⟩

theorem Holds.names {r : TransferRequest} {p : TransferProof} (hold : s.Holds id r p)
    (hdigest : r.source_release_proof_sha256 = digest
      ∨ r.target_activation_proof_sha256 = some digest) : s.Names digest :=
  ⟨r, (Table.get?_eq_some_iff.mp hold.1).1, hdigest⟩

theorem Consistent.protected_row (hs : Consistent sha s) (h : s.Protects digest) :
    ∃ id r p, s.Holds id r p ∧ p.state = .unexposed ∧ p.commitment_sha256 = digest := by
  obtain ⟨p, hp, hstate, hdigest⟩ := h
  have hproof := Table.mem_items_iff.mp hp
  have hpaired := hs.paired (Keyed.key p)
  rw [hproof, Option.isSome_some, Option.isSome_iff_exists] at hpaired
  obtain ⟨r, hr⟩ := hpaired
  exact ⟨_, r, p, ⟨hr, hproof⟩, hstate, hdigest⟩

/-- A secret that is not protected stays so: a new one has another digest. -/
theorem RowsStep.unprotected (h : RowsStep sha s s' kind) (hs : Consistent sha s)
    (hfree : ¬ s.Protects digest) (hnew : ∀ b, kind = .create b → sha.secret b ≠ digest) :
    ¬ s'.Protects digest := by
  intro hprotects
  obtain ⟨id, r', p', hold', hstate, hdigest⟩ := (h.consistent hs).protected_row hprotects
  rcases h.row hs hold' with hold | ⟨r, p, hold, hchange, -⟩ | ⟨b, hkind, -, -, rfl⟩
  · rw [← hdigest] at hfree
    exact hfree (hold.protects hstate)
  · have hproof := (hchange.advanced (hs.sound id r p hold)).proof
    rw [hstate] at hproof
    have hunexposed : p.state = .unexposed := by
      cases hp : p.state with
      | unexposed => rfl
      | exposed | acknowledged | consumed =>
        rw [hp] at hproof
        exact absurd hproof (by decide)
    rw [← hdigest, hchange.commitment] at hfree
    exact hfree (hold.protects hunexposed)
  · exact hnew b hkind hdigest

theorem RowsStep.shown_late (h : RowsStep sha s s' kind) (hs : Consistent sha s)
    (hlate : ∀ id r p, s.Holds id r p → ShownLate r p) :
    ∀ id r p, s'.Holds id r p → ShownLate r p := by
  intro id r' p' hold'
  rcases h.row hs hold' with hold | ⟨r, p, hold, hchange, -⟩ | ⟨b, -, -, -, rfl⟩
  · exact hlate id r' p' hold
  · exact hchange.shown_late (hs.sound id r p hold) (hlate id r p hold)
  · intro hshown
    exact absurd rfl hshown

/-! ### What backs an activation -/

/-- A source has bound the archive. -/
def Sealed (sha : TransferDigests) (s : SpaceStore) (file : TransferArchive) : Prop :=
  ∃ r p, s.Holds file.manifest.source_request_id r p ∧ r.side = .source ∧ 5 ≤ r.rank
    ∧ Seals sha r file

theorem Later.sealed {file : TransferArchive} (h : Later s s') (hsealed : Sealed sha s file) :
    Sealed sha s' file := by
  obtain ⟨r, p, hold, hside, hrank, hseals⟩ := hsealed
  obtain ⟨r', p', hold', hadvanced⟩ := h _ r p hold
  exact ⟨r', p', hold', hadvanced.side.trans hside, Nat.le_trans hrank hadvanced.rank,
    SourceWorld.seals_of_advanced hseals hadvanced⟩

/-- The source has shown the release proof that the target row names. Where archives are carried
    unchanged, the row binds the archive of a source. -/
def Backed (sha : TransferDigests) (relayed : Prop) (s : SpaceStore) (x : TransferRequest) :
    Prop :=
  ¬ s.Protects x.source_release_proof_sha256
    ∧ (relayed → ∃ file, Imports sha x file ∧ Sealed sha s file)

theorem Backed.advanced {relayed : Prop} {x x' : TransferRequest} {q q' : TransferProof}
    (h : Backed sha relayed s x) (hadvanced : Advanced x q x' q') : Backed sha relayed s x' := by
  refine ⟨?_, ?_⟩
  · rw [hadvanced.source_release_proof_sha256]
    exact h.1
  · intro hrelayed
    obtain ⟨file, himports, hsealed⟩ := h.2 hrelayed
    exact ⟨file, imports_of_advanced himports hadvanced, hsealed⟩

theorem Backed.source_step {relayed : Prop} {x : TransferRequest} (h : Backed sha relayed s x)
    (hstep : RowsStep sha s s' kind) (hs : Consistent sha s)
    (hnew : ∀ b, kind = .create b → sha.secret b ≠ x.source_release_proof_sha256) :
    Backed sha relayed s' x := by
  refine ⟨hstep.unprotected hs h.1 hnew, ?_⟩
  intro hrelayed
  obtain ⟨file, himports, hsealed⟩ := h.2 hrelayed
  exact ⟨file, himports, (hstep.later hs).sealed hsealed⟩

/-- A target holds the link. -/
def Issued (t : SpaceStore) (receipt : TransferLinkReceipt) : Prop :=
  (t.requests.get? receipt.target_request_id).any
    (fun x => x.side = .target ∧ x.link_receipt = some receipt) = true

instance (t : SpaceStore) (receipt : TransferLinkReceipt) : Decidable (t.Issued receipt) :=
  inferInstanceAs (Decidable (_ = true))

theorem issued_iff {receipt : TransferLinkReceipt} :
    Issued t receipt ↔ ∃ x, t.requests.get? receipt.target_request_id = some x
      ∧ x.side = .target ∧ x.link_receipt = some receipt := by
  unfold Issued
  cases t.requests.get? receipt.target_request_id with
  | none => simp
  | some x => simp

theorem Later.issued {receipt : TransferLinkReceipt} (h : Later t t') (ht : Consistent sha t)
    (hissued : Issued t receipt) : Issued t' receipt := by
  obtain ⟨x, hx, hside, hlink⟩ := issued_iff.mp hissued
  obtain ⟨q, hold⟩ := ht.holds hx
  obtain ⟨x', q', hold', hadvanced⟩ := h _ x q hold
  exact issued_iff.mpr ⟨x', hold'.1, hadvanced.side.trans hside, hadvanced.link _ hlink⟩

/-! ### Agreement -/

/-- What ties the rows of a source `s` to those of a target `t`; the imports of the requests in
    `checked` are under way. -/
structure Agreed (sha : TransferDigests) (relayed : Prop) (s t : SpaceStore)
    (checked : List String) : Prop where
  source : s.Consistent sha
  target : t.Consistent sha
  source_late : ∀ id r p, s.Holds id r p → ShownLate r p
  target_late : ∀ id x q, t.Holds id x q → ShownLate x q
  source_phase : ∀ id r p, s.Holds id r p → r.side = .source → r.phase ≠ .target_activated
  active : ∀ id x q, t.Holds id x q → x.side = .target → 6 ≤ x.rank → Backed sha relayed s x
  checked : ∀ id ∈ checked, ∃ x q, t.Holds id x q ∧ Backed sha relayed s x
  verified : ∀ id r p, s.Holds id r p → r.side = .source → 2 ≤ p.state.rank → ∀ digest,
    r.target_activation_proof_sha256 = some digest → ¬ t.Protects digest
  linked : relayed → ∀ id r p, s.Holds id r p → r.side = .source → ∀ receipt,
    r.link_receipt = some receipt → Issued t receipt

variable {relayed : Prop} {checked : List String} {r : TransferRequest} {p : TransferProof}

/-- A source that has shown its secret was linked. -/
theorem activation_commitment (hs : Consistent sha s)
    (hlate : ∀ id r p, s.Holds id r p → ShownLate r p) (hold : s.Holds id r p)
    (hside : r.side = .source) (hshown : p.state ≠ .unexposed) :
    r.target_activation_proof_sha256.isSome = true := by
  have hrank := hlate id r p hold hshown
  rw [hside] at hrank
  have hshaped := TransferRequest.shaped_of_validate (hs.sound id r p hold).shape
  refine (hshaped.linked ?_).2.1
  intro hphase
  rw [TransferRequest.rank, hphase] at hrank
  exact absurd hrank (by decide)

theorem unexposed_rank {state : TransferProofState} (h : 2 ≤ state.rank) : state ≠ .unexposed := by
  rintro rfl
  exact absurd h (by decide)

/-- A transaction of the source. -/
theorem Agreed.source_step (h : Agreed sha relayed s t checked) (hstep : RowsStep sha s s' kind)
    (hnew : ∀ b, kind = .create b → ¬ t.Names (sha.secret b))
    (hproof : ∀ b, kind = .acknowledge b → ¬ t.Protects (sha.secret b))
    (hlink : ∀ receipt, kind = .link receipt → relayed → Issued t receipt) :
    Agreed sha relayed s' t checked := by
  have hs' := hstep.consistent h.source
  have hfresh : ∀ id x q, t.Holds id x q → ∀ b, kind = .create b →
      sha.secret b ≠ x.source_release_proof_sha256 := by
    intro id x q hold b hkind hsame
    exact hnew b hkind (hold.names (Or.inl hsame.symm))
  constructor
  -- both spaces stay consistent, and no secret is shown early
  · exact hs'
  · exact h.target
  · exact hstep.shown_late h.source h.source_late
  · exact h.target_late
  -- no source is activated
  · intro id r' p' hold' hside
    rcases hstep.row h.source hold' with hold | ⟨r, p, hold, hchange, -⟩ | ⟨b, -, -, hphase, -⟩
    · exact h.source_phase id r' p' hold hside
    · have hsound := h.source.sound id r p hold
      have hside' := (hchange.advanced hsound).side.symm.trans hside
      exact hchange.source_not_activated hsound hside' (h.source_phase id r p hold hside')
    · rcases hphase with hphase | ⟨hphase, -⟩
      · simp [hphase]
      · simp [hphase]
  -- every active and every checked target keeps its backing: no fresh secret has its digest
  · intro id x q hold hside hrank
    exact (h.active id x q hold hside hrank).source_step hstep h.source (hfresh id x q hold)
  · intro id hid
    obtain ⟨x, q, hold, hbacked⟩ := h.checked id hid
    exact ⟨x, q, hold, hbacked.source_step hstep h.source (hfresh id x q hold)⟩
  -- a proof that a source has verified is no longer protected in the target
  · intro id r' p' hold' hside hverified digest hdigest
    rcases hstep.row h.source hold' with hold | ⟨r, p, hold, hchange, -⟩ | ⟨b, -, -, -, rfl⟩
    · exact h.verified id r' p' hold hside hverified digest hdigest
    · have hadvanced := hchange.advanced (h.source.sound id r p hold)
      have hside' : r.side = .source := hadvanced.side.symm.trans hside
      by_cases hbefore : 2 ≤ p.state.rank
      · obtain ⟨d, hd⟩ := Option.isSome_iff_exists.mp (activation_commitment h.source
          h.source_late hold hside' (unexposed_rank hbefore))
        rw [hadvanced.activation_proof d hd] at hdigest
        obtain rfl := Option.some.inj hdigest
        exact h.verified id r p hold hside' hbefore d hd
      · -- the proof is handed in here
        obtain ⟨b, hkind, hb⟩ := hchange.acknowledges hside' (by omega) hverified
        rw [hadvanced.activation_proof _ hb] at hdigest
        obtain rfl := Option.some.inj hdigest
        exact hproof b hkind
    · exact absurd hverified (show ¬ 2 ≤ 0 by decide)
  -- a link that is relayed was issued by the target
  · intro hrelayed id r' p' hold' hside receipt hreceipt
    rcases hstep.row h.source hold' with hold | ⟨r, p, hold, hchange, -⟩ | ⟨b, -, -, hphase, -⟩
    · exact h.linked hrelayed id r' p' hold hside receipt hreceipt
    · have hadvanced := hchange.advanced (h.source.sound id r p hold)
      rcases hchange.links hreceipt with hbefore | hkind
      · exact h.linked hrelayed id r p hold (hadvanced.side.symm.trans hside) receipt hbefore
      · exact hlink receipt hkind hrelayed
    · -- a new source awaits its link
      have hawaiting : r'.phase = .awaiting_link := by
        rcases hphase with hphase | ⟨-, htarget⟩
        · exact hphase
        · rw [hside] at htarget
          cases htarget
      have hshaped := TransferRequest.shaped_of_validate (hs'.sound id r' p' hold').shape
      have hnone := (hshaped.no_link (by
        rw [r'.effective_phase_of_ne (by simp [hawaiting]), hawaiting])).2.2
      rw [hnone] at hreceipt
      cases hreceipt

/-- A transaction of the target. -/
theorem Agreed.target_step (h : Agreed sha relayed s t checked) (hstep : RowsStep sha t t' kind)
    (hnew : ∀ b, kind = .create b → ¬ s.Names (sha.secret b))
    (hactivate : ∀ id, kind = .activate id → id ∈ checked) : Agreed sha relayed s t' checked := by
  have hlater := hstep.later h.target
  constructor
  · exact h.source
  · exact hstep.consistent h.target
  · exact h.source_late
  · exact hstep.shown_late h.target h.target_late
  · exact h.source_phase
  -- the rows are those of before, a changed one or a new one
  · intro id x' q' hold' hside hrank
    rcases hstep.row h.target hold' with hold | ⟨x, q, hold, hchange, -⟩ | ⟨b, -, -, hphase, -⟩
    · exact h.active id x' q' hold hside hrank
    · have hadvanced := hchange.advanced (h.target.sound id x q hold)
      have hside' : x.side = .target := hadvanced.side.symm.trans hside
      by_cases hbefore : 6 ≤ x.rank
      · exact (h.active id x q hold hside' hbefore).advanced hadvanced
      · -- the target is activated here, on an archive that was checked
        have hkind := hchange.activates hside' (by omega) hrank
        rw [hold.key.1] at hkind
        obtain ⟨y, q'', hold'', hbacked⟩ := h.checked id (hactivate id hkind)
        obtain ⟨rfl, rfl⟩ := hold.unique hold''
        exact hbacked.advanced hadvanced
    -- a new target is far from active
    · rcases hphase with hphase | ⟨hphase, -⟩
      · rw [TransferRequest.rank_of_phase hphase (by decide)] at hrank
        exact absurd hrank (by decide)
      · rw [TransferRequest.rank_of_phase hphase (by decide)] at hrank
        exact absurd hrank (by decide)
  · intro id hid
    obtain ⟨x, q, hold, hbacked⟩ := h.checked id hid
    obtain ⟨x', q', hold', hadvanced⟩ := hlater id x q hold
    exact ⟨x', q', hold', hbacked.advanced hadvanced⟩
  -- a fresh secret of the target is none whose digest the source names
  · intro id r p hold hside hverified digest hdigest
    refine hstep.unprotected h.target (h.verified id r p hold hside hverified digest hdigest) ?_
    intro b hkind hsame
    refine hnew b hkind (hold.names (Or.inr ?_))
    rw [hsame]
    exact hdigest
  · intro hrelayed id r p hold hside receipt hreceipt
    exact hlater.issued h.target (h.linked hrelayed id r p hold hside receipt hreceipt)

/-! ### What agreement gives -/

/-- Behind an active target stands a fenced source. -/
theorem Agreed.source_fenced (h : Agreed sha relayed s t checked) {id' : String}
    {x : TransferRequest} {q : TransferProof} (hold : s.Holds id r p) (hside : r.side = .source)
    (hold' : t.Holds id' x q) (hside' : x.side = .target) (hactive : 6 ≤ x.rank)
    (hcommitment : x.source_release_proof_sha256 = r.source_release_proof_sha256) :
    4 ≤ r.rank := by
  -- an active target holds the release proof, which its source then no longer protects
  have hshown : p.state ≠ .unexposed := by
    intro hstate
    have hsound := (h.source.sound id r p hold).commitment
    rw [commitment, hside] at hsound
    have hprotects := hold.protects hstate
    rw [Option.some.inj hsound, ← hcommitment] at hprotects
    exact (h.active id' x q hold' hside' hactive).1 hprotects
  have hrank := h.source_late id r p hold hshown
  rwa [hside] at hrank

/-- A fenced source refuses new work on its project. -/
theorem Agreed.refuses_work (h : Agreed sha relayed s t checked) (hold : s.Holds id r p)
    (hside : r.side = .source) (hrank : 4 ≤ r.rank) :
    ∃ e, s.require_project_accepts_new_work r.project_id = .error e := by
  have hfencing : fencing r = true := by
    have hshaped := TransferRequest.shaped_of_validate (h.source.sound id r p hold).shape
    have hactivated := h.source_phase id r p hold hside
    -- only targets are frozen by a restore
    have hfrozen : r.phase ≠ .operator_action_needed := by
      intro hphase
      have htarget := (hshaped.restored hphase).1
      rw [hside] at htarget
      cases htarget
    rw [hshaped.source_rank hside] at hrank
    cases hphase : r.phase with
    | source_fenced | archive_bound | cleanup_acknowledged | completed =>
      simp [fencing, hside, hphase]
    | target_activated => exact absurd hphase hactivated
    | operator_action_needed => exact absurd hphase hfrozen
    | awaiting_link | linked | target_admitted | source_released =>
      rw [hphase] at hrank
      exact absurd hrank (by decide)
  refine ⟨_, if_pos ?_⟩
  rw [List.any_eq_true]
  exact ⟨r, (Table.get?_eq_some_iff.mp hold.1).1, by simp [hfencing]⟩

/-- Behind a source that was shown the proof of its target stands an active target. -/
theorem Agreed.target_active (h : Agreed sha relayed s t checked) {id' : String}
    {x : TransferRequest} {q : TransferProof} (hold : s.Holds id r p) (hside : r.side = .source)
    (hverified : 2 ≤ p.state.rank) (hold' : t.Holds id' x q) (hside' : x.side = .target)
    (hcommitment : x.target_activation_proof_sha256 = r.target_activation_proof_sha256) :
    6 ≤ x.rank := by
  have hsound := (h.target.sound id' x q hold').commitment
  rw [commitment, hside'] at hsound
  -- a target shows its proof only after its activation
  have hshown : q.state ≠ .unexposed := by
    intro hstate
    refine h.verified id r p hold hside hverified q.commitment_sha256 ?_ (hold'.protects hstate)
    rw [← hcommitment]
    exact hsound.symm
  have hrank := h.target_late id' x q hold' hshown
  rwa [hside'] at hrank

end SpaceStore

end ResearchGraph
