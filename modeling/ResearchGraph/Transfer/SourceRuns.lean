import ResearchGraph.Transfer.Complete

/-! # Runs of a source space

    A personal space creates, links, admits and releases its transfers, and
    runs the two procedures, each of which may be cut off after any commit.
    From a space without transfers, every state it reaches is sound.
-/

namespace ResearchGraph

open Lib

variable {sha : TransferDigests}

/-! ### The catalog stays -/

namespace SpaceStore

variable {s t : SpaceStore} {request_id : String} {v : TransferRequest}

theorem create_source_projects {project_id target_space_id : String}
    {initiated_by : AuthorizedHuman} {configuration : TransferSourceConfiguration}
    {b : List UInt8}
    (h : s.create_source_project_transfer_request sha project_id target_space_id initiated_by
      configuration request_id b = .ok (t, v)) : t.projects = s.projects := by
  simp only [create_source_project_transfer_request, except_bind_ok] at h
  obtain ⟨-, -, -, -, -, -, -, -, h⟩ := h
  split at h
  · simp only [except_bind_ok, except_pure_ok, Prod.mk.injEq] at h
    obtain ⟨-, -, -, -, rfl, -⟩ := h
    rfl
  · simp only [insert_project_transfer_request, except_bind_ok, except_pure_ok,
      Prod.mk.injEq] at h
    obtain ⟨-, ⟨-, -, -, -, rfl⟩, rfl, -⟩ := h
    rfl

theorem link_projects {receipt : TransferLinkReceipt}
    (h : s.link_source_project_transfer_request sha request_id receipt = .ok (t, v)) :
    t.projects = s.projects := by
  simp only [link_source_project_transfer_request, except_bind_ok] at h
  obtain ⟨-, -, current, -, -, -, -, -, h⟩ := h
  split at h
  · rw [eq_of_retry h]
  · obtain ⟨-, -, rfl⟩ := replace_eq h
    rfl

theorem accept_admission_projects {receipt : TransferTargetAdmissionReceipt}
    (h : s.accept_target_project_transfer_admission sha request_id receipt = .ok (t, v)) :
    t.projects = s.projects := by
  simp only [accept_target_project_transfer_admission, except_bind_ok] at h
  obtain ⟨-, -, current, -, -, -, h⟩ := h
  split at h
  · rw [eq_of_retry h]
  · simp only [except_bind_ok] at h
    obtain ⟨-, -, h⟩ := h
    obtain ⟨-, -, rfl⟩ := replace_eq h
    rfl

theorem release_projects {released_by : AuthorizedHuman}
    {configuration : TransferSourceConfiguration} {head : GraphHeadRef} {now : String}
    (h : s.record_source_project_transfer_release sha request_id released_by configuration head now
      = .ok (t, v)) : t.projects = s.projects := by
  simp only [record_source_project_transfer_release, except_bind_ok] at h
  obtain ⟨current, -, -, -, -, -, admission, -, h⟩ := h
  split at h
  · rw [eq_of_retry h]
  · simp only [except_bind_ok] at h
    obtain ⟨-, -, -, -, target_id, -, schema, -, codec, -, activation, -, -, -, -, -, h⟩ := h
    obtain ⟨-, -, rfl⟩ := replace_eq h
    rfl

end SpaceStore

/-! ### Steps -/

namespace SourceWorld

open Saga

variable {w v u : SourceWorld} {request_id : String} {r : TransferRequest} {p : TransferProof}

/-- What enters a step of a personal space from outside. -/
inductive SourceInput
  | secret (secret : List UInt8)
  | link (receipt : TransferLinkReceipt)
  | proof (proof : List UInt8)
  | nothing

inductive SourceOperation
  | create (project_id target_space_id : String) (initiated_by : AuthorizedHuman)
      (configuration : TransferSourceConfiguration) (request_id : String) (secret : List UInt8)
  | link (request_id : String) (receipt : TransferLinkReceipt)
  | accept_admission (request_id : String) (receipt : TransferTargetAdmissionReceipt)
  | record_release (request_id : String) (released_by : AuthorizedHuman)
      (configuration : TransferSourceConfiguration) (head : GraphHeadRef) (now : String)
  | advance (request_id : String) (run : AdvanceRun)
  | complete (request_id : String) (proof : List UInt8) (now : String)

def SourceOperation.input : SourceOperation → SourceInput
  | create _ _ _ _ _ secret => .secret secret
  | link _ receipt => .link receipt
  | complete _ proof _ => .proof proof
  | _ => .nothing

/-- One operation of a personal space. -/
def SourceOperation.exec (sha : TransferDigests) : SourceOperation → SourceSaga Unit
  | create project_id target_space_id initiated_by configuration request_id secret =>
    update_store fun s => s.create_source_project_transfer_request sha project_id target_space_id
      initiated_by configuration request_id secret
  | link request_id receipt =>
    update_store fun s => s.link_source_project_transfer_request sha request_id receipt
  | accept_admission request_id receipt =>
    update_store fun s => s.accept_target_project_transfer_admission sha request_id receipt
  | record_release request_id released_by configuration head now =>
    update_store fun s => s.record_source_project_transfer_release sha request_id released_by
      configuration head now
  | advance request_id run =>
    (advance_source_project_transfer sha request_id run).andThen fun _ => Saga.done ()
  | complete request_id proof now =>
    (complete_source_project_transfer sha request_id proof now).andThen fun _ => Saga.done ()

/-- One step of a personal space: an operation, cut off anywhere, or other work. -/
inductive SourceStep (sha : TransferDigests) (w v : SourceWorld) : SourceInput → Prop
  | operation (op : SourceOperation) (h : v ∈ (op.exec sha w).cuts w) : SourceStep sha w v op.input
  /-- Work that touches neither a transfer, its archive, the home of a project nor a retirement. -/
  | elsewhere (hrequests : v.store.requests = w.store.requests)
      (hproofs : v.store.proofs = w.store.proofs)
      (hretired : ∀ id r, w.retired_by id r = true → v.retired_by id r = true)
      (hretirement : ∀ project_id, v.retirement_mark project_id = w.retirement_mark project_id)
      (hhome : ∀ id, (v.history id).home_space_id = (w.history id).home_space_id)
      (harchives : v.archives = w.archives) : SourceStep sha w v .nothing

/-- A run of a personal space. -/
abbrev SourceRun (sha : TransferDigests) : SourceWorld → SourceWorld → Prop :=
  Relation.ReflTransGen (fun w v => ∃ input, SourceStep sha w v input)

/-- A transaction on the rows before the fence. -/
theorem early_keeps {α : Type} {f : SpaceStore → TransferResult (SpaceStore × α)}
    {kind : TransferChange}
    (hstep : ∀ s t x, f s = .ok (t, x) →
      SpaceStore.RowsStep sha s t kind ∧ t.projects = s.projects)
    (hkind : ∀ a b, kind.span = some (a, b) → b ≤ 3) :
    Meets (Sound sha) (Sound sha) (update_store f) (fun _ _ => True) := by
  refine Meets.commit ?_
  intro w v _ hs h
  obtain ⟨t, x, hf, rfl⟩ := update_store_iff.mp h
  obtain ⟨hrows, hprojects⟩ := hstep w.store t x hf
  exact ⟨hs.quiet hrows (fun a b hspan => Or.inl (hkind a b hspan)) hprojects, trivial⟩

/-- Every operation keeps a source sound, wherever it is cut off. -/
theorem operation_keeps (op : SourceOperation) :
    Meets (Sound sha) (Sound sha) (op.exec sha) (fun _ _ => True) := by
  cases op with
  | create project_id target_space_id initiated_by configuration request_id secret =>
    exact early_keeps (fun s t x h =>
      ⟨SpaceStore.create_source_step h, SpaceStore.create_source_projects h⟩)
      (by simp [TransferChange.span])
  | link request_id receipt =>
    exact early_keeps (fun s t x h => ⟨SpaceStore.link_step h, SpaceStore.link_projects h⟩)
      (by simp [TransferChange.span])
  | accept_admission request_id receipt =>
    exact early_keeps (fun s t x h =>
      ⟨SpaceStore.accept_admission_step h, SpaceStore.accept_admission_projects h⟩)
      (by simp [TransferChange.span])
  | record_release request_id released_by configuration head now =>
    exact early_keeps (fun s t x h => ⟨SpaceStore.release_step h, SpaceStore.release_projects h⟩)
      (by simp [TransferChange.span])
  -- the two procedures commit several times; soundness holds between any two commits
  | advance request_id run =>
    exact (advance_resumes.keeps run).andThen (fun _ => Meets.done (fun _ h => h))
  | complete request_id proof now =>
    exact (complete_resumes.keeps now).andThen (fun _ => Meets.done (fun _ h => h))

theorem Sound.step {input : SourceInput} (hs : Sound sha w) (h : SourceStep sha w v input) :
    Sound sha v := by
  cases h with
  | operation op h => exact (operation_keeps op).cuts hs v h
  | elsewhere hrequests hproofs hretired hretirement hhome harchives =>
    -- other work leaves the requests, the departed histories and the archives alone
    have hholds : ∀ id r p, v.store.Holds id r p → w.store.Holds id r p := by
      intro id r p hold
      unfold SpaceStore.Holds at hold ⊢
      rw [← hrequests, ← hproofs]
      exact hold
    constructor
    · exact (SpaceStore.RowsStep.kept .quiet hrequests hproofs).consistent hs.consistent
    · intro id r p hold hside hrank
      rw [hhome]
      exact hs.home id r p (hholds id r p hold) hside hrank
    · intro id r p hold hside hrank file hfile
      rw [harchives] at hfile
      exact hs.sealed id r p (hholds id r p hold) hside hrank file hfile
    · intro id r p hold hside hrank hfile
      rw [harchives] at hfile
      obtain ⟨hconsumed, hby⟩ := hs.kept id r p (hholds id r p hold) hside hrank hfile
      exact ⟨hconsumed, hretired id r hby⟩
    · intro project_id id hmark
      rw [hretirement] at hmark
      obtain ⟨r, p, hold, hrest⟩ := hs.retirement project_id id hmark
      refine ⟨r, p, ?_, hrest⟩
      unfold SpaceStore.Holds
      rw [hrequests, hproofs]
      exact hold

/-- A space without transfers is sound, whatever its history and its files. -/
theorem sound_of_empty (hrequests : w.store.requests = Table.empty)
    (hproofs : w.store.proofs = Table.empty)
    (hretirement : ∀ project_id, w.retirement_mark project_id = none) : Sound sha w := by
  have hnone : ∀ id r p, ¬ w.store.Holds id r p := by
    intro id r p hold
    rw [SpaceStore.Holds, hrequests] at hold
    cases hold.1
  exact
    { consistent := SpaceStore.consistent_of_empty hrequests hproofs
      home := fun id r p hold => absurd hold (hnone id r p)
      sealed := fun id r p hold => absurd hold (hnone id r p)
      kept := fun id r p hold => absurd hold (hnone id r p)
      retirement := by simp [hretirement] }

theorem Sound.run (hs : Sound sha w) (h : SourceRun sha w v) : Sound sha v := by
  induction h with
  | refl => exact hs
  | tail _ hstep ih =>
    obtain ⟨input, hstep⟩ := hstep
    exact ih.step hstep

/-- A space that has had no transfers. -/
structure Initial (w : SourceWorld) : Prop where
  requests : w.store.requests = Table.empty
  proofs : w.store.proofs = Table.empty
  retirement : ∀ project_id, w.retirement_mark project_id = none

/-- What a space can reach from having had none. -/
def Reachable (sha : TransferDigests) (w : SourceWorld) : Prop :=
  ∃ v, Initial v ∧ SourceRun sha v w

theorem Reachable.sound (h : Reachable sha w) : Sound sha w := by
  obtain ⟨v, hv, hrun⟩ := h
  exact (sound_of_empty hv.requests hv.proofs hv.retirement).run hrun

/-! ### What the procedures promise -/

/-- Advancing may be cut off any number of times, at any commit: the run after them succeeds and
    ends, with its result, as an uninterrupted run from the first state does. -/
theorem advance_after_cuts (hw : Reachable sha w) {run : AdvanceRun}
    (h : (advance_source_project_transfer sha request_id run).Succeeds w u r)
    (hcuts : CutRuns (advance_source_project_transfer sha request_id) w v) (run' : AdvanceRun) :
    ∃ run'' u' r', (advance_source_project_transfer sha request_id run'').Succeeds w u' r'
      ∧ (advance_source_project_transfer sha request_id run').Succeeds v u' r' :=
  advance_resumes.after_cuts hw.sound h hcuts run'

/-- So may completing, with the proof of the target. -/
theorem complete_after_cuts (hw : Reachable sha w) {proof : List UInt8}
    {a : TransferCleanupAcknowledgment} {now : String}
    (h : (complete_source_project_transfer sha request_id proof now).Succeeds w u a)
    (hcuts : CutRuns (complete_source_project_transfer sha request_id proof) w v)
    (now' : String) :
    ∃ now'' u' a', (complete_source_project_transfer sha request_id proof now'').Succeeds w u' a'
      ∧ (complete_source_project_transfer sha request_id proof now').Succeeds v u' a' :=
  complete_resumes.after_cuts hw.sound h hcuts now'

/-- In every reachable state the archive that a source has bound is on file as it was bound, or
    its proof is consumed and the project is retired by this very request. -/
theorem archive_in_custody (hw : Reachable sha w) (hold : w.store.Holds request_id r p)
    (hside : r.side = .source) (hbound : r.archive_sha256 ≠ none) :
    (∃ file, w.archives request_id = some file ∧ Seals sha r file)
      ∨ (w.archives request_id = none ∧ p.state = .consumed ∧ p.secret = none
        ∧ ∃ project, w.store.projects.get? r.project_id = some project
          ∧ project.retired_at ≠ none
          ∧ project.retired_transfer_request_id = some request_id) := by
  have hs := hw.sound
  have hrank : 5 ≤ r.rank := by
    rw [← (hs.shaped hold).archive, Option.isSome_iff_ne_none]
    exact hbound
  -- the invariant knows a file that is there, and why one is missing
  cases hfile : w.archives request_id with
  | some file => exact Or.inl ⟨file, rfl, hs.sealed request_id r p hold hside hrank file hfile⟩
  | none =>
    obtain ⟨hconsumed, hretired⟩ := hs.kept request_id r p hold hside hrank hfile
    exact Or.inr ⟨rfl, hconsumed, (hs.row hold).erased.mpr hconsumed, retired_by_iff.mp hretired⟩

/-! ### Running operations -/

/-- The space after an operation, which may have stopped at an error. -/
def SourceOperation.after (sha : TransferDigests) (w : SourceWorld) (op : SourceOperation) :
    SourceWorld :=
  (op.exec sha w).final w

theorem SourceOperation.step (op : SourceOperation) :
    SourceStep sha w (op.after sha w) op.input :=
  .operation op (Outcome.final_mem_cuts _ _)

theorem run_of_operations (ops : List SourceOperation) :
    SourceRun sha w (ops.foldl (SourceOperation.after sha) w) := by
  induction ops generalizing w with
  | nil => exact .refl
  | cons op rest ih => exact .head ⟨op.input, op.step⟩ ih

def sample_source : SourceWorld where
  store := SpaceStore.sample_personal
  history := fun _ =>
    { home_space_id := "personal", head := { revision := 4 }, next_revision := 5,
      configuration := SpaceStore.sample_configuration, payload := "archive" }
  archives := fun _ => none

/-- A source that both humans have confirmed. -/
def sample_released : SourceWorld :=
  [SourceOperation.create "project" "team" SpaceStore.sample_owner SpaceStore.sample_configuration
      "source" (List.replicate 32 1),
    .link "source" SpaceStore.sample_link,
    .accept_admission "source" SpaceStore.sample_admission,
    .record_release "source" SpaceStore.sample_owner SpaceStore.sample_configuration
      { revision := 4 } "now"].foldl (SourceOperation.after SpaceStore.sample_digests) sample_source

theorem sample_source_initial : Initial sample_source := by
  refine ⟨rfl, rfl, ?_⟩
  intro project_id
  by_cases hproject : project_id = "project"
  · rw [hproject]
    decide
  · simp [retirement_mark, sample_source, SpaceStore.sample_personal, Table.get?_put, Keyed.key,
      hproject]

theorem sample_released_reachable : Reachable SpaceStore.sample_digests sample_released :=
  ⟨sample_source, sample_source_initial, run_of_operations _⟩

def sample_advance : AdvanceRun := ⟨false, false, "now"⟩

/-- Advancing, cut off after its second commit. -/
def sample_cut : SourceWorld :=
  (advance_source_project_transfer SpaceStore.sample_digests "source" sample_advance
    sample_released).cut sample_released 2

theorem advance_after_cuts_fenced : InPhase "source" .source_fenced sample_cut
    ∧ ∃ run u r, (advance_source_project_transfer SpaceStore.sample_digests "source" run).Succeeds
        sample_released u r
      ∧ (advance_source_project_transfer SpaceStore.sample_digests "source" sample_advance).Succeeds
        sample_cut u r := by
  obtain ⟨r, h⟩ := succeeds_of_ok (x := advance_source_project_transfer SpaceStore.sample_digests
    "source" sample_advance) (s := sample_released) (by decide +kernel)
  exact ⟨by decide +kernel, advance_after_cuts sample_released_reachable h
    (.cut sample_advance .start (Outcome.cut_mem_cuts ..)) sample_advance⟩

/-- The archive is bound. -/
def sample_bound : SourceWorld :=
  SourceOperation.after SpaceStore.sample_digests sample_released (.advance "source" sample_advance)

theorem sample_bound_reachable : Reachable SpaceStore.sample_digests sample_bound := by
  obtain ⟨w, hw, hrun⟩ := sample_released_reachable
  exact ⟨w, hw, hrun.trans (run_of_operations [.advance "source" sample_advance])⟩

/-- Completing, cut off after its first commit. -/
def sample_verified : SourceWorld :=
  (complete_source_project_transfer SpaceStore.sample_digests "source" (List.replicate 32 2) "now"
    sample_bound).cut sample_bound 1

theorem complete_after_cuts_verified : InPhase "source" .archive_bound sample_verified
    ∧ ∃ now u a, (complete_source_project_transfer SpaceStore.sample_digests "source"
        (List.replicate 32 2) now).Succeeds sample_bound u a
      ∧ (complete_source_project_transfer SpaceStore.sample_digests "source" (List.replicate 32 2)
        "later").Succeeds sample_verified u a := by
  obtain ⟨a, h⟩ := succeeds_of_ok (x := complete_source_project_transfer SpaceStore.sample_digests
    "source" (List.replicate 32 2) "now") (s := sample_bound) (by decide +kernel)
  exact ⟨by decide +kernel, complete_after_cuts sample_bound_reachable h
    (.cut "now" .start (Outcome.cut_mem_cuts ..)) "later"⟩

theorem archive_in_custody_bound : ∃ r file, sample_bound.store.requests.get? "source" = some r
    ∧ sample_bound.archives "source" = some file ∧ Seals SpaceStore.sample_digests r file := by
  have hfields : (sample_bound.store.requests.get? "source").map
      (fun r => (r.side, r.archive_sha256)) = some (.source, some "archive") := by decide +kernel
  obtain ⟨r, hr, hfields⟩ := Option.map_eq_some_iff.mp hfields
  obtain ⟨hside, hbound⟩ := Prod.mk.inj hfields
  obtain ⟨p, hold⟩ := sample_bound_reachable.sound.consistent.holds hr
  rcases archive_in_custody sample_bound_reachable hold hside (by simp [hbound]) with
    ⟨file, hfile, hseals⟩ | ⟨hmissing, -⟩
  · exact ⟨r, file, hr, hfile, hseals⟩
  · have hpresent : (sample_bound.archives "source").isSome = true := by decide +kernel
    rw [hmissing] at hpresent
    cases hpresent

end SourceWorld

end ResearchGraph
