import ResearchGraph.Transfer.Source
import ResearchGraph.Transfer.Operations

/-! # Custody of a moving project

    Between any two commits of a source space: a fenced project has its home in
    the target space, a bound archive is the one on file, and the file of a
    bound archive is missing only once the target has proved its activation and
    the project is retired.
-/

namespace ResearchGraph

open Lib

variable {sha : TransferDigests}

/-! ### Archives on file -/

/-- The file is the archive that the request binds. -/
structure Seals (sha : TransferDigests) (r : TransferRequest) (file : TransferArchive) :
    Prop where
  proof_length : file.release_proof.length = 32
  proof : sha.secret file.release_proof = file.manifest.source_release_proof_sha256
  matched : require_readback_matches_transfer file r = .ok ()
  digest : r.archive_sha256 = some (sha.archive file)
  size : r.archive_size_bytes = some (sha.archive_size file)

theorem read_transfer_archive_ok {file archive : TransferArchive} :
    read_transfer_archive sha file = .ok archive ↔
      archive = file ∧ file.release_proof.length = 32
        ∧ sha.secret file.release_proof = file.manifest.source_release_proof_sha256 := by
  simp only [read_transfer_archive, except_bind_ok, except_pure_ok, refuse_ok, not_or, ne_eq,
    not_not, exists_const]
  constructor
  · intro h
    exact ⟨h.2, h.1⟩
  · intro h
    exact ⟨h.2, h.1⟩

theorem readback_matches_ok {file : TransferArchive} {r : TransferRequest} :
    require_readback_matches_transfer file r = .ok () ↔
      file.manifest.project_id = r.project_id ∧ file.manifest.source_request_id = r.request_id
        ∧ r.linked_request_id = some file.manifest.target_request_id
        ∧ file.manifest.source_space_id = r.source_space_id
        ∧ file.manifest.target_space_id = r.target_space_id
        ∧ r.source_fence_head = some file.manifest.main_head
        ∧ file.manifest.source_configuration_sha256 = r.source_configuration_sha256
        ∧ file.manifest.source_release_proof_sha256 = r.source_release_proof_sha256
        ∧ r.target_activation_proof_sha256 = some file.manifest.target_activation_proof_sha256 := by
  simp only [require_readback_matches_transfer, refuse_ok, not_or, ne_eq, not_not]

/-- Showing a secret leaves the request in its phase. -/
theorem SpaceStore.expose_holds {s t : SpaceStore} {request_id : String} {b : List UInt8}
    {r : TransferRequest} {p : TransferProof} (hs : Consistent sha s)
    (hold : s.Holds request_id r p)
    (h : s.expose_project_transfer_proof sha request_id = .ok (t, b)) :
    t.projects = s.projects ∧ ∃ r' p', t.Holds request_id r' p' ∧ r'.phase = r.phase
      ∧ p'.state ≠ .unexposed ∧ p'.state ≠ .consumed ∧ p'.secret = some b := by
  obtain ⟨current, stored, hread, hne, -, hproof, hstored, hb, -, -, h⟩ := expose_iff.mp h
  obtain rfl : current = r :=
    Except.ok.inj (hread.symm.trans (read_of_sound hold (hs.sound _ _ _ hold)))
  obtain rfl : stored = p := Option.some.inj (hproof.symm.trans hold.2)
  split at h
  · obtain ⟨row, h⟩ := h
    obtain ⟨hrow, hold', hprojects⟩ := replace_with_proof_holds h hold.key.1 hold.key.2
    refine ⟨hprojects, row, _, hold', ?_, ?_, ?_, hb⟩
    · rw [hrow]
      rfl
    · simp
    · simp
  · next hstate =>
    rw [h]
    exact ⟨rfl, current, stored, hold, rfl, hstate, hstored, hb⟩

namespace SourceWorld

variable {w v : SourceWorld} {request_id : String} {r : TransferRequest} {p : TransferProof}

theorem source_transfer_ok :
    w.source_transfer sha request_id = .ok r ↔
      w.store.project_transfer_request_from_connection sha request_id = .ok r
        ∧ r.side = .source := by
  simp only [source_transfer, except_bind_ok, except_pure_ok, refuse_ok, not_not]
  constructor
  · intro h
    obtain ⟨current, hread, -, hside, rfl⟩ := h
    exact ⟨hread, hside⟩
  · intro h
    exact ⟨r, h.1, (), h.2, rfl⟩

theorem read_matching_archive_ok {file : TransferArchive} :
    w.read_matching_archive sha request_id r = .ok file ↔
      w.archives request_id = some file ∧ file.release_proof.length = 32
        ∧ sha.secret file.release_proof = file.manifest.source_release_proof_sha256
        ∧ require_readback_matches_transfer file r = .ok () := by
  simp only [read_matching_archive, except_bind_ok, except_pure_ok, require_ok,
    read_transfer_archive_ok]
  constructor
  · intro h
    obtain ⟨stored, hstored, archive, ⟨rfl, hlength, hproof⟩, ⟨⟩, hmatched, rfl⟩ := h
    exact ⟨hstored, hlength, hproof, hmatched⟩
  · intro h
    exact ⟨file, h.1, file, ⟨rfl, h.2.1, h.2.2.1⟩, (), h.2.2.2, rfl⟩

theorem require_bound_archive_ok {message : String} :
    w.require_bound_archive sha request_id r message = .ok () ↔
      ∃ file, w.archives request_id = some file ∧ Seals sha r file := by
  simp only [require_bound_archive, except_bind_ok, read_matching_archive_ok, refuse_ok, not_or,
    ne_eq, not_not]
  refine exists_congr (fun file => ?_)
  constructor
  · intro h
    obtain ⟨⟨hfile, hlength, hproof, hmatched⟩, hdigest, hsize⟩ := h
    exact ⟨hfile, hlength, hproof, hmatched, hdigest, hsize⟩
  · intro h
    obtain ⟨hfile, hlength, hproof, hmatched, hdigest, hsize⟩ := h
    exact ⟨⟨hfile, hlength, hproof, hmatched⟩, hdigest, hsize⟩

/-! ### What holds of a source -/

/-- The request by which a project is marked as retired. -/
def retirement_mark (w : SourceWorld) (project_id : String) : Option String :=
  (w.store.projects.get? project_id).bind (·.retired_transfer_request_id)

/-- What holds of a source space between any two commits. -/
structure Sound (sha : TransferDigests) (w : SourceWorld) : Prop where
  consistent : w.store.Consistent sha
  home : ∀ id r p, w.store.Holds id r p → r.side = .source → 4 ≤ r.rank →
    (w.history r.project_id).home_space_id = r.target_space_id
  sealed : ∀ id r p, w.store.Holds id r p → r.side = .source → 5 ≤ r.rank → ∀ file,
    w.archives id = some file → Seals sha r file
  kept : ∀ id r p, w.store.Holds id r p → r.side = .source → 5 ≤ r.rank →
    w.archives id = none → p.state = .consumed ∧ w.retired_by id r = true
  retirement : ∀ project_id id, w.retirement_mark project_id = some id → ∃ r p,
    w.store.Holds id r p ∧ r.side = .source ∧ r.project_id = project_id ∧ p.state = .consumed

/-- An archive that matches a fenced row matches it later. -/
theorem readback_of_advanced {r' : TransferRequest} {p' : TransferProof} {file : TransferArchive}
    (h : require_readback_matches_transfer file r = .ok ()) (hadvanced : Advanced r p r' p') :
    require_readback_matches_transfer file r' = .ok () := by
  obtain ⟨hproject, hrequest, hlinked, hsource, htarget, hfence, hdigest, hrelease, hactivation⟩ :=
    readback_matches_ok.mp h
  refine readback_matches_ok.mpr ?_
  rw [hadvanced.project_id, hadvanced.request_id, hadvanced.source_space_id,
    hadvanced.target_space_id, hadvanced.source_release_proof_sha256,
    hadvanced.configuration_sha256]
  exact ⟨hproject, hrequest, hadvanced.linked_request_id _ hlinked, hsource, htarget,
    hadvanced.fence _ hfence, hdigest, hrelease, hadvanced.activation_proof _ hactivation⟩

/-- A row that has advanced past its binding still binds the same file. -/
theorem seals_of_advanced {r' : TransferRequest} {p' : TransferProof} {file : TransferArchive}
    (h : Seals sha r file) (hadvanced : Advanced r p r' p') : Seals sha r' file where
  proof_length := h.proof_length
  proof := h.proof
  matched := readback_of_advanced h.matched hadvanced
  digest := hadvanced.archive _ h.digest
  size := hadvanced.archive_size _ h.size

/-- What `retired_by` reads. -/
theorem retired_by_congr (hprojects : v.store.projects = w.store.projects) :
    v.retired_by request_id r = w.retired_by request_id r := by
  unfold retired_by
  rw [hprojects]

/-- A transaction of the store keeps a source sound when it passes the fence only with the home
    moved and the binding only with the archive on file. -/
theorem Sound.stepped {t : SpaceStore} {kind : TransferChange} (hs : Sound sha w)
    (hstep : SpaceStore.RowsStep sha w.store t kind)
    (hprojects : t.projects = w.store.projects)
    (hfence : ∀ id r p r' p', w.store.Holds id r p → t.Holds id r' p' → r.side = .source →
      r.rank < 4 → 4 ≤ r'.rank → (w.history r.project_id).home_space_id = r.target_space_id)
    (hbind : ∀ id r p r' p', w.store.Holds id r p → t.Holds id r' p' → r.side = .source →
      r.rank < 5 → 5 ≤ r'.rank → ∃ file, w.archives id = some file ∧ Seals sha r' file) :
    Sound sha { w with store := t } where
  consistent := hstep.consistent hs.consistent
  home := by
    intro id r' p' hold' hside hrank
    rcases hstep.origin hs.consistent hold' with ⟨r, p, hold, hadvanced⟩ | ⟨-, hlow, -⟩
    · rw [hadvanced.side] at hside
      rw [hadvanced.project_id, hadvanced.target_space_id]
      -- either the fence was passed before, or this change passes it
      by_cases hbefore : 4 ≤ r.rank
      · exact hs.home id r p hold hside hbefore
      · exact hfence id r p r' p' hold hold' hside (by omega) hrank
    · omega
  sealed := by
    intro id r' p' hold' hside hrank file hfile
    rcases hstep.origin hs.consistent hold' with ⟨r, p, hold, hadvanced⟩ | ⟨-, hlow, -⟩
    · rw [hadvanced.side] at hside
      -- likewise for the binding of the archive
      by_cases hbefore : 5 ≤ r.rank
      · exact seals_of_advanced (hs.sealed id r p hold hside hbefore file hfile) hadvanced
      · obtain ⟨file', hfile', hseals⟩ :=
          hbind id r p r' p' hold hold' hside (by omega) hrank
        obtain rfl : file' = file := Option.some.inj (hfile'.symm.trans hfile)
        exact hseals
    · omega
  kept := by
    intro id r' p' hold' hside hrank hfile
    rcases hstep.origin hs.consistent hold' with ⟨r, p, hold, hadvanced⟩ | ⟨-, hlow, -⟩
    · rw [hadvanced.side] at hside
      -- a row that binds an archive here has it on file, so a missing file is an old one
      by_cases hbefore : 5 ≤ r.rank
      · obtain ⟨hconsumed, hretired'⟩ := hs.kept id r p hold hside hbefore hfile
        refine ⟨hadvanced.consumed hconsumed, ?_⟩
        rw [retired_by_congr (v := { w with store := t }) hprojects]
        unfold retired_by at hretired' ⊢
        rw [hadvanced.project_id]
        exact hretired'
      · obtain ⟨file, hfile', -⟩ := hbind id r p r' p' hold hold' hside (by omega) hrank
        rw [hfile] at hfile'
        cases hfile'
    · omega
  retirement := by
    intro project_id id hmark
    have hmark' : w.retirement_mark project_id = some id := by
      rw [← hmark]
      unfold retirement_mark
      rw [hprojects]
    obtain ⟨r, p, hold, hside, hproject, hconsumed⟩ := hs.retirement project_id id hmark'
    obtain ⟨r', p', hold', hadvanced⟩ := hstep.later hs.consistent id r p hold
    exact ⟨r', p', hold', hadvanced.side.trans hside, hadvanced.project_id.trans hproject,
      hadvanced.consumed hconsumed⟩

/-- A change that passes neither the fence nor the binding. -/
theorem Sound.quiet {t : SpaceStore} {kind : TransferChange} (hs : Sound sha w)
    (hstep : SpaceStore.RowsStep sha w.store t kind)
    (hkind : ∀ a b, kind.span = some (a, b) → b ≤ 3 ∨ 5 ≤ a)
    (hprojects : t.projects = w.store.projects) : Sound sha { w with store := t } := by
  refine hs.stepped hstep hprojects ?_ ?_
  · intro id r p r' p' hold hold' hside hbefore hafter
    obtain ⟨a, b, hspan, ha, hb⟩ := hstep.crosses hs.consistent hold hold' hside hbefore hafter
    have := hkind a b hspan
    omega
  · intro id r p r' p' hold hold' hside hbefore hafter
    obtain ⟨a, b, hspan, ha, hb⟩ := hstep.crosses hs.consistent hold hold' hside hbefore hafter
    have := hkind a b hspan
    omega

/-- Another file for one request. -/
theorem Sound.refile (hs : Sound sha w) {file : Option TransferArchive}
    (hfile : ∀ r p, w.store.Holds request_id r p → r.side = .source → 5 ≤ r.rank →
      (∀ a, file = some a → Seals sha r a)
        ∧ (file = none → p.state = .consumed ∧ w.retired_by request_id r = true)) :
    Sound sha (w.with_archive request_id file) where
  consistent := hs.consistent
  home := hs.home
  sealed := by
    intro id x y hxy hside hrank a ha
    by_cases hid : id = request_id
    · rw [hid, with_archive_self] at ha
      rw [hid] at hxy
      exact (hfile x y hxy hside hrank).1 a ha
    · rw [with_archive_of_ne request_id hid] at ha
      exact hs.sealed id x y hxy hside hrank a ha
  kept := by
    intro id x y hxy hside hrank ha
    by_cases hid : id = request_id
    · rw [hid, with_archive_self] at ha
      rw [hid] at hxy ⊢
      exact (hfile x y hxy hside hrank).2 ha
    · rw [with_archive_of_ne request_id hid] at ha
      exact hs.kept id x y hxy hside hrank ha
  retirement := hs.retirement

theorem retired_by_iff : w.retired_by request_id r = true ↔
    ∃ project, w.store.projects.get? r.project_id = some project ∧ project.retired_at ≠ none
      ∧ project.retired_transfer_request_id = some request_id := by
  unfold retired_by
  cases w.store.projects.get? r.project_id with
  | none => simp
  | some project => simp [Option.isSome_iff_ne_none]

/-- A project that a consumed request retires; one that is retired stays so. -/
theorem Sound.retire {t : SpaceStore} {project : CatalogProject} {now : String} (hs : Sound sha w)
    (hold : w.store.Holds request_id r p) (hside : r.side = .source)
    (hconsumed : p.state = .consumed)
    (hproject : w.store.projects.get? r.project_id = some project)
    (hunmarked : project.retired_transfer_request_id = none)
    (ht : t = { w.store with projects := w.store.projects.put { project with
      retired_at := some now, retired_transfer_request_id := some request_id } }) :
    Sound sha { w with store := t } ∧ { w with store := t }.retired_by request_id r = true := by
  have hkey : project.project_id = r.project_id := Table.key_of_get? hproject
  have hget : ∀ id, t.projects.get? id = if id = r.project_id then some { project with
      retired_at := some now, retired_transfer_request_id := some request_id }
      else w.store.projects.get? id := by
    intro id
    rw [ht, ← hkey]
    exact Table.get?_put _ _ _
  have hholds : ∀ id x y, t.Holds id x y ↔ w.store.Holds id x y := by
    intro id x y
    rw [ht]
    exact Iff.rfl
  -- the requests are untouched; only the mark of one project is new
  refine ⟨⟨?_, ?_, ?_, ?_, ?_⟩, ?_⟩
  · exact (SpaceStore.RowsStep.kept .quiet (by rw [ht]) (by rw [ht])).consistent hs.consistent
  · intro id x y hxy
    exact hs.home id x y ((hholds id x y).mp hxy)
  · intro id x y hxy
    exact hs.sealed id x y ((hholds id x y).mp hxy)
  · intro id x y hxy hxside hrank hfile
    obtain ⟨hstate, hretired⟩ := hs.kept id x y ((hholds id x y).mp hxy) hxside hrank hfile
    refine ⟨hstate, ?_⟩
    obtain ⟨z, hz, hat, hby⟩ := retired_by_iff.mp hretired
    refine retired_by_iff.mpr ⟨z, ?_, hat, hby⟩
    rw [hget, if_neg]
    · exact hz
    · -- the project retired here was not retired before
      intro hsame
      rw [hsame, hproject] at hz
      obtain rfl := Option.some.inj hz
      rw [hunmarked] at hby
      cases hby
  -- a mark is the new one, of a consumed request, or an old one
  · intro project_id id hmark
    unfold retirement_mark at hmark
    rw [hget] at hmark
    split at hmark
    · next hsame =>
      obtain rfl : request_id = id := Option.some.inj hmark
      exact ⟨r, p, (hholds request_id r p).mpr hold, hside, hsame.symm, hconsumed⟩
    · obtain ⟨x, y, hxy, hrest⟩ := hs.retirement project_id id hmark
      exact ⟨x, y, (hholds id x y).mpr hxy, hrest⟩
  · refine retired_by_iff.mpr ⟨_, (hget r.project_id).trans (if_pos rfl), ?_, rfl⟩
    simp

end SourceWorld

end ResearchGraph
