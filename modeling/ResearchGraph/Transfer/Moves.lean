import ResearchGraph.Transfer.SourceRuns

/-! # The moves of a step

    A step of a space is one transaction or a few. What each of them may do to
    the request rows is read off what enters the step from outside: a secret
    that was drawn, a link, a proof that is handed in.
-/

namespace ResearchGraph

open Lib

variable {sha : TransferDigests}

namespace SpaceStore

variable {s t : SpaceStore} {kinds : List TransferChange}

/-- Transactions of these kinds. -/
abbrev Moves (sha : TransferDigests) (kinds : List TransferChange) :
    SpaceStore → SpaceStore → Prop :=
  Relation.ReflTransGen (fun s t => ∃ kind ∈ kinds, RowsStep sha s t kind)

theorem RowsRun.moves {kind : TransferChange} (h : RowsRun sha kind s t) : Moves sha [kind] s t :=
  Relation.ReflTransGen.mono (fun _ _ hstep => ⟨kind, List.mem_singleton_self kind, hstep⟩) _ _ h

theorem RowsStep.moves {kind : TransferChange} (h : RowsStep sha s t kind) (hkind : kind ∈ kinds) :
    Moves sha kinds s t :=
  .single ⟨kind, hkind, h⟩

/-- What every transaction keeps, the step keeps. -/
theorem Moves.keeps {I : SpaceStore → Prop} (h : Moves sha kinds s t) (hs : I s)
    (hstep : ∀ u v kind, kind ∈ kinds → I u → RowsStep sha u v kind → I v) : I t := by
  induction h with
  | refl => exact hs
  | tail _ hlast ih =>
    obtain ⟨kind, hkind, hlast⟩ := hlast
    exact hstep _ _ kind hkind ih hlast

end SpaceStore

namespace SourceWorld

open Saga SpaceStore

/-- How a step that takes this input may touch the request rows. -/
def SourceInput.changes : SourceInput → List TransferChange
  | .secret b => [.create b]
  | .link receipt => [.link receipt]
  | .proof b => [.quiet, .acknowledge b, .cleanup, .consume, .complete]
  | .nothing => [.quiet, .admitted, .release, .fence, .bind, .expose]

variable {request_id : String} {w v : SourceWorld} {s : SpaceStore} {kinds : List TransferChange}
  {input : SourceInput}

/-- The rows have come from `s` by transactions of these kinds. -/
def Reached (sha : TransferDigests) (kinds : List TransferChange) (s : SpaceStore)
    (w : SourceWorld) : Prop :=
  Moves sha kinds s w.store

theorem reached_commit {α : Type} {f : SourceWorld → TransferResult (SourceWorld × α)}
    (hstep : ∀ w v a, (Saga.commit f).Succeeds w v a →
      ∃ kind ∈ kinds, RowsStep sha w.store v.store kind) :
    Meets (Reached sha kinds s) (Reached sha kinds s) (Saga.commit f)
      (fun _ => Reached sha kinds s) := by
  refine Meets.commit ?_
  intro w v a hw h
  have hv : Reached sha kinds s v := Relation.ReflTransGen.tail hw (hstep w v a h)
  exact ⟨hv, hv⟩

theorem reached_inspect {α : Type} {f : SourceWorld → TransferResult α} :
    Meets (Reached sha kinds s) (Reached sha kinds s) (inspect f) (fun _ => Reached sha kinds s) :=
  Meets.inspect (fun _ _ hw _ => hw)

theorem reached_when (c : SourceWorld → Prop) [DecidablePred c] {x : SourceSaga Unit}
    (hx : Meets (Reached sha kinds s) (Reached sha kinds s) x (fun _ => Reached sha kinds s)) :
    Meets (Reached sha kinds s) (Reached sha kinds s) (x.when c)
      (fun _ => Reached sha kinds s) :=
  Meets.when (hx.weaken (fun _ h => h.1) (fun _ h => h) (fun _ _ h => h)) (fun _ h _ => h)

theorem kept_rows {kind : TransferChange} (h : v.store = w.store) :
    RowsStep sha w.store v.store kind :=
  .kept kind (congrArg requests h) (congrArg proofs h)

/-- A transaction of the store is of the kind of its operation. -/
theorem update_store_step {α : Type} {f : SpaceStore → TransferResult (SpaceStore × α)}
    {kind : TransferChange} (hstep : ∀ s t x, f s = .ok (t, x) → RowsStep sha s t kind)
    (h : (update_store f).Succeeds w v ()) : RowsStep sha w.store v.store kind := by
  obtain ⟨t, x, hf, rfl⟩ := update_store_iff.mp h
  exact hstep w.store t x hf

/-! ### Advancing -/

theorem move_home_kept {loaded : Bool} (h : (move_home sha request_id loaded).Succeeds w v ()) :
    v.store = w.store := by
  simp only [move_home, succeeds_commit, except_bind_ok] at h
  obtain ⟨r, -, e, -, h⟩ := h
  split at h
  · simp only [except_bind_ok, except_pure_ok, Prod.mk.injEq] at h
    obtain ⟨-, -, rfl, -⟩ := h
    rfl
  · simp only [except_bind_ok, except_pure_ok, Prod.mk.injEq] at h
    obtain ⟨-, -, rfl, -⟩ := h
    rfl

theorem seal_kept {b : List UInt8} {created_at : String}
    (h : (seal_archive sha request_id b created_at).Succeeds w v ()) : v.store = w.store := by
  have hseal := h
  simp only [seal_archive, succeeds_commit, except_bind_ok] at hseal
  obtain ⟨r, htransfer, -⟩ := hseal
  obtain ⟨archive, -, -, -, -, rfl⟩ := (seal_iff htransfer).mp h
  rfl

theorem fence_rows (h : (fence sha request_id).Succeeds w v ()) :
    RowsStep sha w.store v.store .fence := by
  simp only [fence, succeeds_commit, except_bind_ok, except_pure_ok, Prod.mk.injEq,
    Prod.exists] at h
  obtain ⟨r, -, t, row, h, rfl, -⟩ := h
  exact fence_step h

theorem expose_rows {loaded : Bool} {b : List UInt8}
    (h : (expose sha request_id loaded).Succeeds w v b) :
    RowsStep sha w.store v.store .expose := by
  simp only [expose, on_store, succeeds_commit, except_bind_ok, except_pure_ok, Prod.mk.injEq,
    Prod.exists] at h
  obtain ⟨r, -, e, -, t, b', h, rfl, -⟩ := h
  exact expose_step h

theorem bind_rows (h : (bind_archive sha request_id).Succeeds w v ()) :
    RowsStep sha w.store v.store .bind := by
  have hbind := h
  simp only [bind_archive, succeeds_commit, except_bind_ok] at hbind
  obtain ⟨r, htransfer, -⟩ := hbind
  obtain ⟨file, -, -, -, -, t, row, hstore, rfl⟩ := (bind_archive_iff htransfer).mp h
  refine bind_step ?_ hstore
  intro r' hread _
  obtain rfl : r = r' := Except.ok.inj ((source_transfer_ok.mp htransfer).1.symm.trans hread)
  exact Or.inr rfl

theorem advance_reached (run : AdvanceRun) :
    Meets (Reached sha SourceInput.nothing.changes s) (Reached sha SourceInput.nothing.changes s)
      (advance_source_project_transfer sha request_id run)
      (fun _ => Reached sha SourceInput.nothing.changes s) := by
  -- the five commits of the procedure, each with the change it makes
  have hhome : Meets (Reached sha SourceInput.nothing.changes s) _
      (move_home sha request_id run.loaded) _ := reached_commit (fun _ _ _ h =>
    ⟨.quiet, by simp [SourceInput.changes], kept_rows (move_home_kept h)⟩)
  have hfence : Meets (Reached sha SourceInput.nothing.changes s) _ (fence sha request_id) _ :=
    reached_commit (fun _ _ _ h => ⟨.fence, by simp [SourceInput.changes], fence_rows h⟩)
  have hexpose : Meets (Reached sha SourceInput.nothing.changes s) _
      (expose sha request_id run.reloaded) _ :=
    reached_commit (fun _ _ _ h => ⟨.expose, by simp [SourceInput.changes], expose_rows h⟩)
  have hseal : ∀ b, Meets (Reached sha SourceInput.nothing.changes s) _
      (seal_archive sha request_id b run.created_at) _ := fun b => reached_commit (fun _ _ _ h =>
    ⟨.quiet, by simp [SourceInput.changes], kept_rows (seal_kept h)⟩)
  have hbind : Meets (Reached sha SourceInput.nothing.changes s) _
      (bind_archive sha request_id) _ :=
    reached_commit (fun _ _ _ h => ⟨.bind, by simp [SourceInput.changes], bind_rows h⟩)
  -- put together as the procedure puts them together
  have hleave := reached_when (InPhase request_id .source_released)
    (hhome.andThen (fun _ => hfence))
  have hpublish := reached_when (archive_absent request_id) (hexpose.andThen hseal)
  have hexport := reached_when (InPhase request_id .source_fenced)
    (hpublish.andThen (fun _ => hbind))
  exact reached_inspect.andThen (fun _ => hleave.andThen (fun _ =>
    hexport.andThen (fun _ => reached_inspect)))

/-! ### Completing -/

theorem verify_rows {proof : List UInt8} {a : TransferCleanupAcknowledgment}
    (h : (verify sha request_id proof).Succeeds w v a) :
    RowsStep sha w.store v.store (.acknowledge proof) := by
  obtain ⟨t, hstore, rfl⟩ := on_store_iff.mp h
  exact verify_step hstore

theorem consume_rows (h : (consume sha request_id).Succeeds w v ()) :
    RowsStep sha w.store v.store .consume := by
  simp only [consume, succeeds_commit, except_bind_ok, except_pure_ok, Prod.mk.injEq,
    Prod.exists] at h
  obtain ⟨r, -, digest, -, t, row, h, rfl, -⟩ := h
  exact consume_step h

theorem erase_kept (h : (erase sha request_id).Succeeds w v ()) : v.store = w.store := by
  simp only [erase, succeeds_commit, except_bind_ok] at h
  obtain ⟨r, -, h⟩ := h
  split at h
  · simp only [except_bind_ok, except_pure_ok, Prod.mk.injEq] at h
    obtain ⟨-, -, rfl, -⟩ := h
    rfl
  · simp only [except_pure_ok, Prod.mk.injEq] at h
    obtain ⟨rfl, -⟩ := h
    rfl

theorem complete_reached (proof : List UInt8) (now : String) :
    Meets (Reached sha (SourceInput.proof proof).changes s)
      (Reached sha (SourceInput.proof proof).changes s)
      (complete_source_project_transfer sha request_id proof now)
      (fun _ => Reached sha (SourceInput.proof proof).changes s) := by
  -- only the first commit uses the proof that was handed in
  have hverify : Meets (Reached sha (SourceInput.proof proof).changes s) _
      (verify sha request_id proof) _ :=
    reached_commit (fun _ _ _ h =>
      ⟨.acknowledge proof, by simp [SourceInput.changes], verify_rows h⟩)
  have hclean : Meets (Reached sha (SourceInput.proof proof).changes s) _
      (clean_up sha request_id) _ := reached_commit (fun _ _ _ h =>
    ⟨.cleanup, by simp [SourceInput.changes], update_store_step (fun _ _ _ h => cleanup_step h) h⟩)
  have hconsume : Meets (Reached sha (SourceInput.proof proof).changes s) _
      (consume sha request_id) _ :=
    reached_commit (fun _ _ _ h => ⟨.consume, by simp [SourceInput.changes], consume_rows h⟩)
  have hretire : Meets (Reached sha (SourceInput.proof proof).changes s) _
      (retire sha request_id now) _ := reached_commit (fun _ _ _ h =>
    ⟨.quiet, by simp [SourceInput.changes], update_store_step (fun _ _ _ h => retire_step h) h⟩)
  have herase : Meets (Reached sha (SourceInput.proof proof).changes s) _
      (erase sha request_id) _ :=
    reached_commit (fun _ _ _ h =>
      ⟨.quiet, by simp [SourceInput.changes], kept_rows (erase_kept h)⟩)
  have hfinish : Meets (Reached sha (SourceInput.proof proof).changes s) _
      (finish sha request_id) _ := reached_commit (fun _ _ _ h =>
    ⟨.complete, by simp [SourceInput.changes],
      update_store_step (fun _ _ _ h => complete_step h) h⟩)
  refine hverify.andThen (fun a => hclean.andThen (fun _ => reached_inspect.andThen (fun _ =>
    hconsume.andThen (fun _ => hretire.andThen (fun _ => reached_inspect.andThen (fun _ =>
      herase.andThen (fun _ => hfinish.andThen (fun _ => ?_))))))))
  exact Meets.done (fun _ h => h)

/-! ### Steps -/

/-- An operation makes only the moves of its input, wherever it is cut off. -/
theorem operation_reached (op : SourceOperation) :
    Meets (Reached sha op.input.changes s) (Reached sha op.input.changes s) (op.exec sha)
      (fun _ => Reached sha op.input.changes s) := by
  cases op with
  | create project_id target_space_id initiated_by configuration request_id secret =>
    exact reached_commit (fun _ _ _ h => ⟨.create secret, List.mem_singleton_self _,
      update_store_step (fun _ _ _ h => create_source_step h) h⟩)
  | link request_id receipt =>
    exact reached_commit (fun _ _ _ h => ⟨.link receipt, List.mem_singleton_self _,
      update_store_step (fun _ _ _ h => link_step h) h⟩)
  | accept_admission request_id receipt =>
    exact reached_commit (fun _ _ _ h => ⟨.admitted,
      by simp [SourceInput.changes, SourceOperation.input],
      update_store_step (fun _ _ _ h => accept_admission_step h) h⟩)
  | record_release request_id released_by configuration head now =>
    exact reached_commit (fun _ _ _ h => ⟨.release,
      by simp [SourceInput.changes, SourceOperation.input],
      update_store_step (fun _ _ _ h => release_step h) h⟩)
  | advance request_id run =>
    exact (advance_reached run).andThen (fun _ => Meets.done (fun _ h => h))
  | complete request_id proof now =>
    exact (complete_reached proof now).andThen (fun _ => Meets.done (fun _ h => h))

/-- A step of a personal space makes only the moves of its input. -/
theorem SourceStep.moves (h : SourceStep sha w v input) :
    Moves sha input.changes w.store v.store := by
  cases h with
  | operation op h => exact (operation_reached op).cuts Relation.ReflTransGen.refl v h
  | elsewhere hrequests hproofs hretired hretirement hhome harchives =>
    exact (RowsStep.kept .quiet hrequests hproofs).moves (by simp [SourceInput.changes])

end SourceWorld

end ResearchGraph
