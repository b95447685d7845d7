import ResearchGraph.History

/-! # Complete and halted replay

    Replay of a list either applies every Patch of it, or stops in the state
    before one of them and records that Patch as its failure.
-/

namespace ResearchGraph

open Lib

variable [TextLibrary] [Canonical] {settings : ValidationSettings} {scope : List String}
  {p : Patch} {ps qs : List Patch} {s t : GraphState} {m m' : Materialization} {r : Nat}

/-! ### One Patch -/

omit [TextLibrary] [Canonical] in
/-- Applying a Patch keeps the replay verdict and moves the revision up. -/
theorem apply_valid_patch_stamps (h : apply_valid_patch s p = .ok t) :
    t.revision = max s.revision p.revision ∧ t.replay_status = s.replay_status ∧
      t.replay_failure = s.replay_failure := by
  obtain ⟨u, hu, rfl⟩ := apply_patch_ok.mp h
  obtain ⟨edges, hframe⟩ := rederive_layers_frame (s := u) (stored_edge_ids p.ops)
  have hkept {β : Type} (g : GraphState → β)
      (hwrite : ∀ generated op a b, Write p generated op a b → g b = g a) : g u = g s :=
    foldlM_frame g hu (fun x _ a b hab => apply_operation_frame g hab (hwrite _ _))
  have hrevision := hkept GraphState.revision (fun _ _ a b hab => by cases hab <;> rfl)
  have hstatus := hkept GraphState.replay_status (fun _ _ a b hab => by cases hab <;> rfl)
  have hfailure := hkept GraphState.replay_failure (fun _ _ a b hab => by cases hab <;> rfl)
  rw [hframe]
  exact ⟨by simp [stamp_patch, hrevision], hstatus, hfailure⟩

/-- What one Patch does to the stamps of the graph when replay goes on. -/
theorem replay_patch_ok (h : replay_patch settings m p = .ok m') :
    m'.state.revision = max m.state.revision p.revision ∧
      m'.state.replay_status = m.state.replay_status ∧
      m'.state.replay_failure = m.state.replay_failure := by
  unfold replay_patch at h
  split_ifs at h with hrejected
  · obtain rfl := Except.ok.inj h
    exact ⟨rfl, rfl, rfl⟩
  · simp only [] at h
    cases hstate : replay_state settings m.state p with
    | error halted => simp [hstate] at h
    | ok t =>
      simp only [hstate, Except.ok.injEq] at h
      obtain rfl := h
      unfold replay_state at hstate
      split at hstate
      · cases hstate
      · cases happly : apply_valid_patch m.state p with
        | error e => simp [happly] at hstate
        | ok u =>
          simp only [happly, Except.ok.injEq] at hstate
          obtain rfl := hstate
          have hstamps := apply_valid_patch_stamps happly
          exact hstamps

/-- What is left when one Patch stops replay. -/
theorem replay_patch_error (h : replay_patch settings m p = .error m') :
    ∃ failure : ReplayFailure, failure.revision = p.revision ∧
      m'.state = m.state.degrade failure := by
  unfold replay_patch at h
  split_ifs at h
  simp only [] at h
  cases hstate : replay_state settings m.state p with
  | ok t => simp [hstate] at h
  | error halted =>
    simp only [hstate, Except.error.injEq] at h
    obtain rfl := h
    unfold replay_state at hstate
    split at hstate
    · obtain rfl := Except.error.inj hstate
      exact ⟨_, rfl, rfl⟩
    · cases happly : apply_valid_patch m.state p with
      | ok u => simp [happly] at hstate
      | error e =>
        simp only [happly, Except.error.injEq] at hstate
        obtain rfl := hstate
        exact ⟨_, rfl, rfl⟩

/-! ### A list of Patches -/

/-- Replay of a list from the empty graph. -/
def replay_run (settings : ValidationSettings) (scope : List String) (ps : List Patch) :
    Except Materialization Materialization :=
  ps.foldlM (replay_patch settings) { state := initial_state scope }

theorem run_kept {β : Type} {f : GraphState → β}
    (hf : ∀ m m' p, replay_patch settings m p = .ok m' →
      f m'.state = f m.state) (h : ps.foldlM (replay_patch settings) m = .ok m') :
    f m'.state = f m.state :=
  foldlM_frame (fun x : Materialization => f x.state) h (fun p _ a b hab => hf a b p hab)

theorem run_revision_ge (h : ps.foldlM (replay_patch settings) m = .ok m') :
    m.state.revision ≤ m'.state.revision ∧ ∀ p ∈ ps, p.revision ≤ m'.state.revision := by
  induction ps generalizing m with
  | nil =>
    obtain rfl := foldlM_nil_ok.mp h
    simp
  | cons p ps ih =>
    obtain ⟨a, ha, hrest⟩ := foldlM_cons_ok.mp h
    obtain ⟨hstate, hpatches⟩ := ih hrest
    have hrevision := (replay_patch_ok ha).1
    refine ⟨by omega, fun q hq => ?_⟩
    rcases List.mem_cons.mp hq with rfl | hq
    · omega
    · exact hpatches q hq

theorem run_revision_lt (h : ps.foldlM (replay_patch settings) m = .ok m')
    (hm : m.state.revision < r) (hps : ∀ p ∈ ps, p.revision < r) : m'.state.revision < r := by
  refine foldlM_invariant (fun x : Materialization => x.state.revision < r) h hm ?_
  intro p hp a b hab ha
  have hrevision := (replay_patch_ok hab).1
  have hpr := hps p hp
  omega

/-- Replay of a list is complete when no Patch stops it. -/
theorem complete_iff : (materialize_patches settings scope ps).state.replay_status = .complete ↔
    ∃ m, replay_run settings scope ps = .ok m := by
  unfold materialize_patches replay_run
  cases h : ps.foldlM (replay_patch settings) { state := initial_state scope } with
  | ok m =>
    have hstatus := run_kept (f := GraphState.replay_status)
      (fun _ _ _ hab => (replay_patch_ok hab).2.1) h
    have hcomplete : m.state.replay_status = .complete := hstatus
    simpa [outcome] using hcomplete
  | error m =>
    obtain ⟨pre, x, post, a, -, -, hx⟩ := foldlM_error_iff.mp h
    obtain ⟨failure, -, hstate⟩ := replay_patch_error hx
    simp [outcome, hstate, GraphState.degrade]

theorem complete_state (h : replay_run settings scope ps = .ok m) :
    (materialize_patches settings scope ps).state = m.state := by
  unfold replay_run at h
  simp [materialize_patches, h, outcome]

/-- A complete replay records no failure. -/
theorem complete_failure (h : replay_run settings scope ps = .ok m) :
    m.state.replay_status = .complete ∧ m.state.replay_failure = none :=
  ⟨run_kept (f := GraphState.replay_status) (fun _ _ _ hab => (replay_patch_ok hab).2.1) h,
    run_kept (f := GraphState.replay_failure) (fun _ _ _ hab => (replay_patch_ok hab).2.2) h⟩

theorem degraded_failure
    (h : (materialize_patches settings scope ps).state.replay_status ≠ .complete) :
    ∃ failure, (materialize_patches settings scope ps).state.replay_failure = some failure := by
  cases hrun : ps.foldlM (replay_patch settings) { state := initial_state scope } with
  | ok m => exact absurd (complete_iff.mpr ⟨m, hrun⟩) h
  | error m =>
    obtain ⟨pre, x, post, a, -, -, hx⟩ := foldlM_error_iff.mp hrun
    obtain ⟨failure, -, hstate⟩ := replay_patch_error hx
    exact ⟨failure, by simp [materialize_patches, hrun, outcome, hstate, GraphState.degrade]⟩

/-- A halted replay stopped at one Patch, in the state of the Patches before it. -/
theorem halted_iff {failure : ReplayFailure}
    (h : (materialize_patches settings scope ps).state.replay_failure = some failure) :
    ∃ pre x post a, ps = pre ++ x :: post ∧ replay_run settings scope pre = .ok a ∧
      failure.revision = x.revision ∧
      (materialize_patches settings scope ps).state = a.state.degrade failure := by
  cases hrun : ps.foldlM (replay_patch settings) { state := initial_state scope } with
  | ok m =>
    rw [complete_state hrun, (complete_failure hrun).2] at h
    cases h
  | error m =>
    obtain ⟨pre, x, post, a, hps, hpre, hx⟩ := foldlM_error_iff.mp hrun
    obtain ⟨failure', hrevision, hstate⟩ := replay_patch_error hx
    have hresult : (materialize_patches settings scope ps).state = a.state.degrade failure' := by
      simp [materialize_patches, hrun, outcome, hstate]
    rw [hresult] at h
    obtain rfl : failure' = failure := Option.some.inj h
    exact ⟨pre, x, post, a, hps, hpre, hrevision, hresult⟩

/-- Replay that stops at the first Patch after a complete prefix. -/
theorem halted_after (hpre : replay_run settings scope ps = .ok m)
    (hp : (materialize_patches settings scope (ps ++ [p])).state.replay_status ≠ .complete)
    (qs : List Patch) : ∃ failure,
      (materialize_patches settings scope (ps ++ p :: qs)).state = m.state.degrade failure := by
  have hstop : ∃ m', replay_patch settings m p = .error m' := by
    cases hx : replay_patch settings m p with
    | error m' => exact ⟨m', rfl⟩
    | ok m' =>
      refine absurd (complete_iff.mpr ⟨m', ?_⟩) hp
      exact foldlM_append_ok.mpr ⟨m, hpre, foldlM_cons_ok.mpr ⟨m', hx, foldlM_nil_ok.mpr rfl⟩⟩
  obtain ⟨m', hx⟩ := hstop
  obtain ⟨failure, -, hstate⟩ := replay_patch_error hx
  have hrun : (ps ++ p :: qs).foldlM (replay_patch settings) { state := initial_state scope }
      = .error m' := foldlM_error_iff.mpr ⟨ps, p, qs, m, rfl, hpre, hx⟩
  exact ⟨failure, by simp [materialize_patches, hrun, outcome, hstate]⟩

/-- Replay that gets past a Patch has at least its revision. -/
theorem revision_past
    (hp : (materialize_patches settings scope (ps ++ [p])).state.replay_status = .complete)
    (qs : List Patch) :
    p.revision ≤ (materialize_patches settings scope (ps ++ p :: qs)).state.revision := by
  obtain ⟨m, hm⟩ := complete_iff.mp hp
  have hsplit : ps ++ p :: qs = (ps ++ [p]) ++ qs := by simp
  cases hrun : (ps ++ p :: qs).foldlM (replay_patch settings) { state := initial_state scope } with
  | ok m' =>
    rw [complete_state hrun]
    exact (run_revision_ge hrun).2 p (by simp)
  | error m' =>
    -- it stops behind `p`
    have hrun' := hrun
    rw [hsplit, List.foldlM_append] at hrun'
    unfold replay_run at hm
    rw [hm] at hrun'
    obtain ⟨pre, x, post, a, -, hpre, hx⟩ := foldlM_error_iff.mp hrun'
    obtain ⟨failure, -, hstate⟩ := replay_patch_error hx
    have hge := (run_revision_ge hm).2 p (by simp)
    have hmono := (run_revision_ge hpre).1
    have hresult : (materialize_patches settings scope (ps ++ p :: qs)).state
        = a.state.degrade failure := by simp [materialize_patches, hrun, outcome, hstate]
    rw [hresult]
    exact hge.trans hmono

end ResearchGraph
