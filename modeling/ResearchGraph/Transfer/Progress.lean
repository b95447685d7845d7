import ResearchGraph.Transfer.Rows

/-! # What a transfer never takes back

    A request that an operation wrote reads back, and nothing it has bound is
    ever bound differently: the receipts, the fence head and the archive are
    written once, the phase and the proof only move forward. A restore freezes
    a target in the phase it had reached.
-/

namespace ResearchGraph

open Lib

variable {sha : TransferDigests}

namespace TransferRequest

variable {r : TransferRequest}

theorem effective_phase_of_ne (h : r.phase ≠ .operator_action_needed) :
    r.effective_phase = r.phase := by
  rw [effective_phase, if_neg h]

theorem rank_of_phase {phase : TransferPhase} (h : r.phase = phase)
    (hne : phase ≠ .operator_action_needed) : r.rank = phase.rank := by
  rw [rank, effective_phase_of_ne (by rw [h]; exact hne), h]

theorem rank_le_of_phase {phase : TransferPhase} {n : Nat} (h : r.phase = phase)
    (hne : phase ≠ .operator_action_needed) (hle : phase.rank ≤ n) : r.rank ≤ n := by
  rw [r.rank_of_phase h hne]
  exact hle

/-- A source is never frozen. -/
theorem Shaped.source_rank (h : r.Shaped) (hside : r.side = .source) : r.rank = r.phase.rank := by
  refine r.rank_of_phase rfl ?_
  intro hphase
  rw [(h.restored hphase).1] at hside
  cases hside

end TransferRequest

theorem TransferPhase.rank_injective {a b : TransferPhase} (h : a.rank = b.rank) : a = b := by
  cases a <;> cases b <;> first | rfl | (exact absurd h (by decide))

/-- How far a proof has come. -/
def TransferProofState.rank : TransferProofState → Nat
  | .unexposed => 0
  | .exposed => 1
  | .acknowledged => 2
  | .consumed => 3

/-! ### Rows -/

/-- A row `r` with its proof `p` has become `r'` with `p'`. -/
structure Advanced (r : TransferRequest) (p : TransferProof) (r' : TransferRequest)
    (p' : TransferProof) : Prop where
  request_id : r'.request_id = r.request_id
  side : r'.side = r.side
  project_id : r'.project_id = r.project_id
  source_space_id : r'.source_space_id = r.source_space_id
  target_space_id : r'.target_space_id = r.target_space_id
  configuration : r'.source_configuration = r.source_configuration
  configuration_sha256 : r'.source_configuration_sha256 = r.source_configuration_sha256
  source_release_proof_sha256 : r'.source_release_proof_sha256 = r.source_release_proof_sha256
  link : ∀ a, r.link_receipt = some a → r'.link_receipt = some a
  linked_request_id : ∀ a, r.linked_request_id = some a → r'.linked_request_id = some a
  activation_proof : ∀ a, r.target_activation_proof_sha256 = some a →
    r'.target_activation_proof_sha256 = some a
  admission : ∀ a, r.target_admission_receipt = some a → r'.target_admission_receipt = some a
  release : ∀ a, r.source_release_receipt = some a → r'.source_release_receipt = some a
  fence : ∀ a, r.source_fence_head = some a → r'.source_fence_head = some a
  archive : ∀ a, r.archive_sha256 = some a → r'.archive_sha256 = some a
  archive_size : ∀ a, r.archive_size_bytes = some a → r'.archive_size_bytes = some a
  rank : r.rank ≤ r'.rank
  revision : r.revision ≤ r'.revision
  proof : p.state.rank ≤ p'.state.rank
  acknowledgement : ∀ a, p.acknowledgement_sha256 = some a → p'.acknowledgement_sha256 = some a
  secret : p'.secret = p.secret ∨ p'.secret = none

theorem Advanced.refl (r : TransferRequest) (p : TransferProof) : Advanced r p r p where
  request_id := rfl
  side := rfl
  project_id := rfl
  source_space_id := rfl
  target_space_id := rfl
  configuration := rfl
  configuration_sha256 := rfl
  source_release_proof_sha256 := rfl
  link := fun _ h => h
  linked_request_id := fun _ h => h
  activation_proof := fun _ h => h
  admission := fun _ h => h
  release := fun _ h => h
  fence := fun _ h => h
  archive := fun _ h => h
  archive_size := fun _ h => h
  rank := Nat.le_refl _
  revision := Nat.le_refl _
  proof := Nat.le_refl _
  acknowledgement := fun _ h => h
  secret := Or.inl rfl

theorem Advanced.trans {r r' r'' : TransferRequest} {p p' p'' : TransferProof}
    (h : Advanced r p r' p') (h' : Advanced r' p' r'' p'') : Advanced r p r'' p'' where
  request_id := h'.request_id.trans h.request_id
  side := h'.side.trans h.side
  project_id := h'.project_id.trans h.project_id
  source_space_id := h'.source_space_id.trans h.source_space_id
  target_space_id := h'.target_space_id.trans h.target_space_id
  configuration := h'.configuration.trans h.configuration
  configuration_sha256 := h'.configuration_sha256.trans h.configuration_sha256
  source_release_proof_sha256 := h'.source_release_proof_sha256.trans h.source_release_proof_sha256
  link := fun a ha => h'.link a (h.link a ha)
  linked_request_id := fun a ha => h'.linked_request_id a (h.linked_request_id a ha)
  activation_proof := fun a ha => h'.activation_proof a (h.activation_proof a ha)
  admission := fun a ha => h'.admission a (h.admission a ha)
  release := fun a ha => h'.release a (h.release a ha)
  fence := fun a ha => h'.fence a (h.fence a ha)
  archive := fun a ha => h'.archive a (h.archive a ha)
  archive_size := fun a ha => h'.archive_size a (h.archive_size a ha)
  rank := Nat.le_trans h.rank h'.rank
  revision := Nat.le_trans h.revision h'.revision
  proof := Nat.le_trans h.proof h'.proof
  acknowledgement := fun a ha => h'.acknowledgement a (h.acknowledgement a ha)
  secret := by
    rcases h'.secret with heq | hnone
    · rw [heq]
      exact h.secret
    · exact Or.inr hnone

variable {r r' : TransferRequest} {p p' : TransferProof} {kind : TransferChange}

theorem Advanced.consumed (h : Advanced r p r' p') (hp : p.state = .consumed) :
    p'.state = .consumed := by
  have hproof := h.proof
  rw [hp] at hproof
  cases hstate : p'.state with
  | consumed => rfl
  | unexposed | exposed | acknowledged =>
    rw [hstate] at hproof
    exact absurd hproof (by decide)

theorem RequestChange.request_id (h : RequestChange sha r p kind r' p') :
    r'.request_id = r.request_id ∧ p'.request_id = p.request_id := by
  cases h <;> exact ⟨rfl, rfl⟩

/-- Whoever was only shown a proof has not acknowledged it. -/
theorem RowSound.unacknowledged (h : RowSound sha r p) (hstate : p.state = .exposed) :
    p.acknowledgement_sha256 = none := by
  have hshaped := TransferRequest.shaped_of_validate h.shape
  rw [h.acknowledgement, ← Option.not_isSome_iff_eq_none, hshaped.acknowledged, ← h.state, hstate]
  decide

/-- No change takes the phase back. -/
theorem RequestChange.rank_le (h : RequestChange sha r p kind r' p') : r.rank ≤ r'.rank := by
  cases h with
  | link receipt hside hphase => exact r.rank_le_of_phase (n := 1) hphase nofun (by decide)
  | admitted receipt hphase => exact r.rank_le_of_phase (n := 2) hphase nofun (by decide)
  | release receipt hphase => exact r.rank_le_of_phase (n := 3) hphase nofun (by decide)
  | fence head hside hphase => exact r.rank_le_of_phase (n := 4) hphase nofun (by decide)
  | bind head digest size hphase =>
    cases hside : r.side <;> rw [hside] at hphase <;>
      exact r.rank_le_of_phase (n := 5) hphase nofun (by decide)
  | activate hside hphase => exact r.rank_le_of_phase (n := 6) hphase nofun (by decide)
  | expose => exact Nat.le_refl _
  | acknowledge => exact Nat.le_refl _
  | accept_cleanup acknowledgment hside hphase =>
    exact r.rank_le_of_phase (n := 8) hphase nofun (by decide)
  | consume => exact Nat.le_refl _
  | cleanup hphase =>
    cases hside : r.side <;> rw [hside] at hphase <;>
      exact r.rank_le_of_phase (n := 7) hphase nofun (by decide)
  | complete hphase => exact r.rank_le_of_phase (n := 8) hphase nofun (by decide)
  -- a frozen row ranks as the phase it resumes
  | detach => exact Nat.le_of_eq rfl
  | reenter hphase hresume =>
    show r.rank ≤ 5
    rw [TransferRequest.rank, TransferRequest.effective_phase, if_pos hphase, hresume]
    decide

/-- Nor the proof. -/
theorem RequestChange.proof_le (h : RequestChange sha r p kind r' p') :
    p.state.rank ≤ p'.state.rank := by
  cases h with
  | expose _ hstate => rw [hstate]; exact Nat.le_succ 0
  | acknowledge _ _ _ _ hstate => rw [hstate]; exact Nat.le_succ 1
  | accept_cleanup _ _ _ hstate => rw [hstate]; exact Nat.le_add_right 1 2
  | consume _ hstate => rw [hstate]; exact Nat.le_succ 2
  | _ => exact Nat.le_refl _

/-- Every change of a sound row advances it. -/
theorem RequestChange.advanced (h : RequestChange sha r p kind r' p') (hsound : RowSound sha r p) :
    Advanced r p r' p' := by
  have hshaped := TransferRequest.shaped_of_validate hsound.shape
  have hbase := Advanced.refl r p
  have hrank := h.rank_le
  have hproof := h.proof_le
  cases h with
  -- each field that is written here was empty before
  | link receipt hside hphase hmatch =>
    have hunlinked := hshaped.no_link (by rw [r.effective_phase_of_ne (by simp [hphase]), hphase])
    exact { hbase with
      link := by simp [hunlinked.2.2]
      linked_request_id := by simp [hunlinked.1]
      activation_proof := by simp [hunlinked.2.1]
      rank := hrank
      revision := Nat.le_succ _ }
  | admitted receipt hphase hmatch =>
    have hlow : r.rank = 1 := r.rank_of_phase hphase (by decide)
    have hnone : r.target_admission_receipt = none :=
      TransferRequest.none_before hshaped.admission (by omega)
    exact { hbase with
      admission := by simp [hnone]
      rank := hrank
      revision := Nat.le_succ _ }
  | release receipt hphase hmatch =>
    have hlow : r.rank = 2 := r.rank_of_phase hphase (by decide)
    have hnone : r.source_release_receipt = none :=
      TransferRequest.none_before hshaped.release (by omega)
    exact { hbase with
      release := by simp [hnone]
      rank := hrank
      revision := Nat.le_succ _ }
  | fence head hside hphase =>
    have hlow : r.rank = 3 := r.rank_of_phase hphase (by decide)
    have hnone : r.source_fence_head = none := hshaped.no_fence (by omega)
    exact { hbase with
      fence := by simp [hnone]
      rank := hrank
      revision := Nat.le_succ _ }
  | bind head digest size hphase hexposed hhead =>
    have hlow : r.rank ≤ 4 := by
      cases hside : r.side <;> rw [hside] at hphase <;>
        exact r.rank_le_of_phase hphase nofun (by decide)
    have hnone : r.archive_sha256 = none := TransferRequest.none_before hshaped.archive (by omega)
    have hnone' : r.archive_size_bytes = none :=
      TransferRequest.none_before hshaped.archive_size (by omega)
    exact { hbase with
      fence := by
        intro a ha
        cases hside : r.side with
        | source =>
          rw [← ha, hhead hside]
        | target =>
          -- a target learns the fence head with its archive
          rw [hside] at hphase
          have hlow := r.rank_of_phase hphase (by decide)
          rw [hshaped.no_fence (by rw [hlow]; decide)] at ha
          cases ha
      archive := by simp [hnone]
      archive_size := by simp [hnone']
      rank := hrank
      revision := Nat.le_succ _ }
  -- the proof is acknowledged once, and its secret is dropped, never exchanged
  | acknowledge proof digest hside hphase hstate hmatch =>
    have hnone := hsound.unacknowledged hstate
    exact { hbase with
      revision := Nat.le_succ _
      proof := hproof
      acknowledgement := by simp [hnone] }
  | accept_cleanup acknowledgment hside hphase hstate hmatch =>
    have hnone := hsound.unacknowledged hstate
    exact { hbase with
      rank := hrank
      revision := Nat.le_succ _
      proof := hproof
      acknowledgement := by simp [hnone]
      secret := Or.inr rfl }
  | consume hphase hstate =>
    exact { hbase with
      revision := Nat.le_succ _
      proof := hproof
      secret := Or.inr rfl }
  -- nothing is bound here
  | activate | expose | cleanup | complete | detach | reenter =>
    exact { hbase with
      rank := hrank
      revision := Nat.le_succ _
      proof := hproof }

/-- The ranks between which a change moves a source. -/
def TransferChange.span : TransferChange → Option (Nat × Nat)
  | .link _ => some (0, 1)
  | .admitted => some (1, 2)
  | .release => some (2, 3)
  | .fence => some (3, 4)
  | .bind => some (4, 5)
  | .cleanup => some (5, 7)
  | .complete => some (7, 8)
  | _ => none

theorem RequestChange.source_phase (h : RequestChange sha r p kind r' p')
    (hsound : RowSound sha r p)
    (hside : r.side = .source) :
    r'.phase = r.phase ∨ kind.span = some (r.phase.rank, r'.phase.rank) := by
  cases h with
  | link receipt _ hphase hmatch => exact Or.inr (by rw [hphase]; rfl)
  | admitted receipt hphase hmatch => exact Or.inr (by rw [hphase]; rfl)
  | release receipt hphase hmatch => exact Or.inr (by rw [hphase]; rfl)
  | fence head _ hphase => exact Or.inr (by rw [hphase]; rfl)
  | bind head digest size hphase hexposed hhead => exact Or.inr (by rw [hphase, hside]; rfl)
  | expose hphase hstate => exact Or.inl rfl
  | acknowledge proof digest _ hphase hstate hproof => exact Or.inl rfl
  | consume hphase hstate => exact Or.inl rfl
  | cleanup hphase hstate => exact Or.inr (by rw [hphase, hside]; rfl)
  | complete hphase hstate => exact Or.inr (by rw [hphase]; rfl)
  | activate htarget hphase => exact absurd (hside.symm.trans htarget) (by decide)
  | accept_cleanup acknowledgment htarget hphase hstate hmatch =>
    exact absurd (hside.symm.trans htarget) (by decide)
  | detach diagnostic htarget hphase => exact absurd (hside.symm.trans htarget) (by decide)
  | reenter hphase hresume =>
    have htarget := ((TransferRequest.shaped_of_validate hsound.shape).restored hphase).1
    exact absurd (hside.symm.trans htarget) (by decide)

/-- A source comes to a rank only by the change that reaches it. -/
theorem RequestChange.crosses (h : RequestChange sha r p kind r' p') (hsound : RowSound sha r p)
    (hshape : r'.model_validate = .ok ()) (hside : r.side = .source) {n : Nat}
    (hbefore : r.rank < n) (hafter : n ≤ r'.rank) :
    ∃ a b, kind.span = some (a, b) ∧ a < n ∧ n ≤ b := by
  have hrank := (TransferRequest.shaped_of_validate hsound.shape).source_rank hside
  have hrank' := (TransferRequest.shaped_of_validate hshape).source_rank
    ((h.advanced hsound).side.trans hside)
  rcases h.source_phase hsound hside with hphase | hspan
  · rw [hrank', hphase, ← hrank] at hafter
    omega
  · exact ⟨_, _, hspan, by omega, by omega⟩

/-- A change leaves a row that reads back. -/
theorem RequestChange.sound (h : RequestChange sha r p kind r' p') (hsound : RowSound sha r p)
    (hshape : r'.model_validate = .ok ()) : RowSound sha r' p' := by
  have hshaped := TransferRequest.shaped_of_validate hsound.shape
  cases h with
  | link receipt hside hphase hmatch =>
    have hrank : r.rank = 0 := r.rank_of_phase hphase (by decide)
    have hadmission : r.target_admission_receipt = none :=
      TransferRequest.none_before hshaped.admission (by omega)
    have hrelease : r.source_release_receipt = none :=
      TransferRequest.none_before hshaped.release (by omega)
    have hlinked := TransferRequest.link_matches_iff.mp hmatch
    exact { hsound with
      shape := hshape
      admission := by simp [TransferRequest.bump, hadmission]
      release := by simp [TransferRequest.bump, hrelease]
      -- the link is checked once more against the row that now names it
      link := by
        intro a ha
        obtain rfl : receipt = a := Option.some.inj ha
        refine TransferRequest.link_matches_iff.mpr ⟨⟨?_, ?_, hlinked.1.2.2⟩, ?_⟩
        · have hsource := hlinked.1.1
          rw [TransferRequest.source_request_id, hside] at hsource
          simpa [TransferRequest.source_request_id, TransferRequest.bump, hside] using hsource
        · intro id hid
          simpa [TransferRequest.target_request_id, TransferRequest.bump, hside] using hid
        · intro hsome
          exact ⟨rfl, rfl, rfl, rfl⟩
      commitment := by
        rw [hsound.commitment, SpaceStore.commitment, SpaceStore.commitment]
        simp [TransferRequest.bump, hside] }
  | admitted receipt hphase hmatch =>
    have hrank : r.rank = 1 := r.rank_of_phase hphase (by decide)
    have hrelease : r.source_release_receipt = none :=
      TransferRequest.none_before hshaped.release (by omega)
    exact { hsound with
      shape := hshape
      admission := by
        intro a ha
        obtain rfl : receipt = a := Option.some.inj ha
        exact hmatch
      release := by simp [TransferRequest.bump, hrelease] }
  | release receipt hphase hmatch =>
    exact { hsound with
      shape := hshape
      release := by
        intro a ha
        obtain rfl : receipt = a := Option.some.inj ha
        exact hmatch }
  | fence head hside hphase => exact { hsound with shape := hshape }
  | bind head digest size hphase hexposed hhead => exact { hsound with shape := hshape }
  | activate hside hphase => exact { hsound with shape := hshape }
  | expose hphase hstate =>
    exact { hsound with
      shape := hshape
      state := rfl
      erased := by simpa [hstate] using hsound.erased }
  | acknowledge proof digest hside hphase hstate hproof =>
    exact { hsound with
      shape := hshape
      state := rfl
      acknowledgement := rfl
      erased := by simpa [hstate] using hsound.erased }
  | accept_cleanup acknowledgment hside hphase hstate hmatch =>
    exact { hsound with
      shape := hshape
      state := rfl
      acknowledgement := rfl
      secret := by simp
      erased := by simp }
  | consume hphase hstate =>
    exact { hsound with
      shape := hshape
      state := rfl
      secret := by simp
      erased := by simp }
  | cleanup hphase hstate => exact { hsound with shape := hshape }
  | complete hphase hstate => exact { hsound with shape := hshape }
  | detach diagnostic hside hphase => exact { hsound with shape := hshape }
  | reenter hphase hresume => exact { hsound with shape := hshape }

/-! ### Stores -/

namespace SpaceStore

variable {s t u : SpaceStore} {kind : TransferChange}

/-- Every request stands next to its proof and reads back, and a side holds one request for a
    project. -/
structure Consistent (sha : TransferDigests) (s : SpaceStore) : Prop where
  paired : ∀ id, (s.requests.get? id).isSome = (s.proofs.get? id).isSome
  sound : ∀ id r p, s.Holds id r p → RowSound sha r p
  one : ∀ r ∈ s.requests.items, ∀ r' ∈ s.requests.items,
    r.side = r'.side → r.project_id = r'.project_id → r = r'

theorem Consistent.holds {id : String} {r : TransferRequest} (h : Consistent sha s)
    (hr : s.requests.get? id = some r) : ∃ p, s.Holds id r p := by
  have hpaired := h.paired id
  rw [hr, Option.isSome_some, eq_comm, Option.isSome_iff_exists] at hpaired
  obtain ⟨p, hp⟩ := hpaired
  exact ⟨p, hr, hp⟩

theorem Holds.key {id : String} {r : TransferRequest} {p : TransferProof} (h : s.Holds id r p) :
    r.request_id = id ∧ p.request_id = id := ⟨Table.key_of_get? h.1, Table.key_of_get? h.2⟩

theorem get?_requests_put {r : TransferRequest} (hrequests : t.requests = s.requests.put r)
    (id : String) :
    t.requests.get? id = if id = r.request_id then some r else s.requests.get? id := by
  rw [hrequests]
  exact Table.get?_put _ _ _

theorem get?_proofs_put {p : TransferProof} (hproofs : t.proofs = s.proofs.put p) (id : String) :
    t.proofs.get? id = if id = p.request_id then some p else s.proofs.get? id := by
  rw [hproofs]
  exact Table.get?_put _ _ _

/-- Writing a row next to its proof leaves every other request alone. -/
theorem holds_put {r r' : TransferRequest} {p p' : TransferProof} {id : String}
    (hkey : p.request_id = r.request_id) (hrequests : t.requests = s.requests.put r)
    (hproofs : t.proofs = s.proofs.put p) :
    t.Holds id r' p' ↔
      (id = r.request_id ∧ r' = r ∧ p' = p) ∨ (id ≠ r.request_id ∧ s.Holds id r' p') := by
  unfold Holds
  rw [get?_requests_put hrequests, get?_proofs_put hproofs, hkey]
  by_cases hid : id = r.request_id
  · simp [hid, eq_comm]
  · simp [hid]

/-- What a transaction that writes a request alone leaves. -/
theorem replace_holds {r changed v : TransferRequest} {p : TransferProof} {id : String}
    (h : s.replace changed = .ok (t, v)) (hold : s.Holds id r p) (hkey : changed.request_id = id) :
    v = changed.bump ∧ t.Holds id v p ∧ t.projects = s.projects := by
  obtain ⟨-, rfl, rfl⟩ := replace_eq h
  refine ⟨rfl, ⟨?_, hold.2⟩, rfl⟩
  rw [get?_requests_put (s := s) rfl]
  exact if_pos hkey.symm

/-- The same together with its protected row. -/
theorem replace_with_proof_holds {changed v : TransferRequest} {p : TransferProof} {id : String}
    (h : s.replace_with_proof p changed = .ok (t, v)) (hkey : changed.request_id = id)
    (hproof : p.request_id = id) :
    v = changed.bump ∧ t.Holds id v p ∧ t.projects = s.projects := by
  obtain ⟨-, rfl, rfl⟩ := replace_eq h
  refine ⟨rfl, ⟨?_, ?_⟩, rfl⟩
  · rw [get?_requests_put (s := { s with proofs := s.proofs.put p }) rfl]
    exact if_pos hkey.symm
  · rw [get?_proofs_put (s := s) rfl]
    exact if_pos hproof.symm

/-- One transaction keeps the requests consistent. -/
theorem RowsStep.consistent (h : RowsStep sha s t kind) (hs : Consistent sha s) :
    Consistent sha t := by
  cases h with
  -- nothing of the requests is written
  | kept _ hrequests hproofs =>
    constructor
    · rw [hrequests, hproofs]
      exact hs.paired
    · unfold Holds
      rw [hrequests, hproofs]
      exact hs.sound
    · rw [hrequests]
      exact hs.one
  | changed _ id r r' p p' hold hchange hshape hrequests hproofs =>
    have hsound := hs.sound id r p hold
    have hsound' := hchange.sound hsound hshape
    have hadvanced := hchange.advanced hsound
    obtain ⟨hrkey, hpkey⟩ := hold.key
    have hrid : r'.request_id = id := by rw [hchange.request_id.1, hrkey]
    constructor
    · intro id'
      rw [get?_requests_put hrequests, get?_proofs_put hproofs, hsound'.key, hrid]
      by_cases hid : id' = id
      · simp [hid]
      · simpa [hid] using hs.paired id'
    · intro id' x y hxy
      rcases (holds_put hsound'.key hrequests hproofs).mp hxy with ⟨-, rfl, rfl⟩ | ⟨-, hxy⟩
      · exact hsound'
      · exact hs.sound id' x y hxy
    · -- the row keeps its side and its project, so a clash would have been there before
      have hmem : r ∈ s.requests.items := (Table.get?_eq_some_iff.mp hold.1).1
      have hold_row : ∀ x, x ∈ t.requests.items → x ≠ r' →
          x ∈ s.requests.items ∧ x.request_id ≠ r.request_id := by
        intro x hx hne
        rw [hrequests, Table.mem_put_iff] at hx
        obtain ⟨hx, hkey⟩ := hx.resolve_left hne
        refine ⟨hx, ?_⟩
        intro hsame
        apply hkey
        show x.request_id = r'.request_id
        rw [hsame, hchange.request_id.1]
      intro x hx y hy hside hproject
      by_cases hxr : x = r'
      · by_cases hyr : y = r'
        · rw [hxr, hyr]
        · obtain ⟨hy, hne⟩ := hold_row y hy hyr
          rw [hxr, hadvanced.side] at hside
          rw [hxr, hadvanced.project_id] at hproject
          exact absurd (by rw [hs.one r hmem y hy hside hproject]) hne
      · obtain ⟨hx, hne⟩ := hold_row x hx hxr
        by_cases hyr : y = r'
        · rw [hyr, hadvanced.side] at hside
          rw [hyr, hadvanced.project_id] at hproject
          exact absurd (by rw [hs.one x hx r hmem hside hproject]) hne
        · exact hs.one x hx y (hold_row y hy hyr).1 hside hproject
  -- a new row has a fresh id, and its side had no request for the project
  | created r b hfresh hphase hone hsound hrequests hproofs =>
    constructor
    · intro id
      rw [get?_requests_put hrequests, get?_proofs_put hproofs, hsound.key]
      by_cases hid : id = r.request_id
      · simp [hid]
      · simpa [hid] using hs.paired id
    · intro id x y hxy
      rcases (holds_put hsound.key hrequests hproofs).mp hxy with ⟨-, rfl, rfl⟩ | ⟨-, hxy⟩
      · exact hsound
      · exact hs.sound id x y hxy
    · intro x hx y hy hside hproject
      rw [hrequests, Table.mem_put_iff] at hx hy
      rcases hx with rfl | ⟨hx, -⟩
      · rcases hy with rfl | ⟨hy, -⟩
        · rfl
        · exact absurd ⟨hside.symm, hproject.symm⟩ (hone y hy)
      · rcases hy with rfl | ⟨hy, -⟩
        · exact absurd ⟨hside, hproject⟩ (hone x hx)
        · exact hs.one x hx y hy hside hproject

/-- Every request of `s` is in `t`, advanced. -/
def Later (s t : SpaceStore) : Prop :=
  ∀ id r p, s.Holds id r p → ∃ r' p', t.Holds id r' p' ∧ Advanced r p r' p'

theorem Later.refl (s : SpaceStore) : Later s s :=
  fun _ r p h => ⟨r, p, h, Advanced.refl r p⟩

theorem Later.trans (h : Later s t) (h' : Later t u) : Later s u := by
  intro id r p hold
  obtain ⟨r', p', hold', hadvanced⟩ := h id r p hold
  obtain ⟨r'', p'', hold'', hadvanced'⟩ := h' id r' p' hold'
  exact ⟨r'', p'', hold'', hadvanced.trans hadvanced'⟩

theorem RowsStep.later (h : RowsStep sha s t kind) (hs : Consistent sha s) : Later s t := by
  intro id r p hold
  cases h with
  | kept _ hrequests hproofs =>
    refine ⟨r, p, ?_, Advanced.refl r p⟩
    unfold Holds
    rw [hrequests, hproofs]
    exact hold
  | changed _ id' x x' y y' hold' hchange hshape hrequests hproofs =>
    have hsound := hs.sound id' x y hold'
    have hkey := (hchange.sound hsound hshape).key
    -- the row that changes has advanced; every other one is still there
    by_cases hid : id = x'.request_id
    · refine ⟨x', y', (holds_put hkey hrequests hproofs).mpr (Or.inl ⟨hid, rfl, rfl⟩), ?_⟩
      rw [hchange.request_id.1, hold'.key.1] at hid
      rw [hid] at hold
      obtain ⟨rfl, rfl⟩ := hold.unique hold'
      exact hchange.advanced hsound
    · exact ⟨r, p, (holds_put hkey hrequests hproofs).mpr (Or.inr ⟨hid, hold⟩), Advanced.refl r p⟩
  | created x b hfresh hphase hone hsound hrequests hproofs =>
    have hid : id ≠ x.request_id := by
      intro hid
      rw [← hid, hold.1] at hfresh
      cases hfresh
    exact ⟨r, p, (holds_put hsound.key hrequests hproofs).mpr (Or.inr ⟨hid, hold⟩),
      Advanced.refl r p⟩

/-- Where a row of `t` comes from: it was there, it was changed, or it is new. -/
theorem RowsStep.row (h : RowsStep sha s t kind) (hs : Consistent sha s) {id : String}
    {r' : TransferRequest} {p' : TransferProof} (hold' : t.Holds id r' p') :
    s.Holds id r' p'
      ∨ (∃ r p, s.Holds id r p ∧ RequestChange sha r p kind r' p'
        ∧ r'.model_validate = .ok ())
      ∨ ∃ b, kind = .create b ∧ s.requests.get? id = none
        ∧ (r'.phase = .awaiting_link ∨ r'.phase = .linked ∧ r'.side = .target)
        ∧ p' = fresh_proof sha r' b := by
  cases h with
  | kept _ hrequests hproofs =>
    left
    unfold Holds at hold' ⊢
    rw [← hrequests, ← hproofs]
    exact hold'
  | changed _ id' x x' y y' hold hchange hshape hrequests hproofs =>
    have hkey := (hchange.sound (hs.sound id' x y hold) hshape).key
    rcases (holds_put hkey hrequests hproofs).mp hold' with ⟨hid, rfl, rfl⟩ | ⟨-, hold'⟩
    · rw [hchange.request_id.1, hold.key.1] at hid
      rw [hid]
      exact Or.inr (Or.inl ⟨x, y, hold, hchange, hshape⟩)
    · exact Or.inl hold'
  | created x b hfresh hphase hone hsound hrequests hproofs =>
    rcases (holds_put hsound.key hrequests hproofs).mp hold' with ⟨hid, rfl, rfl⟩ | ⟨-, hold'⟩
    · rw [hid]
      exact Or.inr (Or.inr ⟨b, rfl, hfresh, hphase, rfl⟩)
    · exact Or.inl hold'

/-- A row of `t` was advanced from one of `s`, or it is new. -/
theorem RowsStep.origin (h : RowsStep sha s t kind) (hs : Consistent sha s) {id : String}
    {r' : TransferRequest} {p' : TransferProof} (hold' : t.Holds id r' p') :
    (∃ r p, s.Holds id r p ∧ Advanced r p r' p')
      ∨ s.requests.get? id = none ∧ r'.rank ≤ 1 ∧ p'.state = .unexposed := by
  rcases h.row hs hold' with hold | ⟨r, p, hold, hchange, -⟩ | ⟨b, -, hfresh, hphase, rfl⟩
  · exact Or.inl ⟨r', p', hold, Advanced.refl r' p'⟩
  · exact Or.inl ⟨r, p, hold, hchange.advanced (hs.sound id r p hold)⟩
  · refine Or.inr ⟨hfresh, ?_, rfl⟩
    rcases hphase with hphase | ⟨hphase, -⟩
    · rw [TransferRequest.rank_of_phase hphase (by decide)]
      decide
    · rw [TransferRequest.rank_of_phase hphase (by decide)]
      decide

/-- A source comes to a rank only in a step that reaches it. -/
theorem RowsStep.crosses (h : RowsStep sha s t kind) (hs : Consistent sha s) {id : String}
    {r r' : TransferRequest} {p p' : TransferProof} (hold : s.Holds id r p)
    (hold' : t.Holds id r' p') (hside : r.side = .source) {n : Nat} (hbefore : r.rank < n)
    (hafter : n ≤ r'.rank) : ∃ a b, kind.span = some (a, b) ∧ a < n ∧ n ≤ b := by
  rcases h.row hs hold' with hsame | ⟨x, y, hold'', hchange, hshape⟩ | ⟨b, -, hfresh, -⟩
  · obtain ⟨rfl, -⟩ := hold.unique hsame
    omega
  · obtain ⟨rfl, rfl⟩ := hold.unique hold''
    exact hchange.crosses (hs.sound id r p hold) hshape hside hbefore hafter
  · rw [hold.1] at hfresh
    cases hfresh

end SpaceStore

end ResearchGraph
