import ResearchGraph.HaltedBranch

/-! # The one-snapshot branch reader (`rcp/history/branches.py`)

    The list endpoint replays main once, remembers the head and the state at every
    revision, and replays of each branch only its own Patches, from the state that
    was remembered for its base.
-/

namespace ResearchGraph

open Lib

section

variable [TextLibrary] [Canonical]

/-- One iteration of `_main_heads_by_revision`. -/
def remember_head (acc : Option String × Dict Nat GraphHeadRef) (p : Patch) :
    Option String × Dict Nat GraphHeadRef :=
  let transition_id := p.next_transition_id acc.1
  (transition_id, Dict.set acc.2 p.revision { revision := p.revision, transition_id })

/-- `_main_heads_by_revision` -/
def main_heads_by_revision (patches : List Patch) : Dict Nat GraphHeadRef :=
  (patches.foldl remember_head (none, Dict.set Table.empty 0 { revision := 0 })).2

variable {settings : ValidationSettings} {scope : List String} {m m' a n : Materialization}
  {p : Patch} {ps pre post D : List Patch} {r : Nat}

/-! ### The tail -/

variable {files : List PatchFile} {start : Nat}

variable {manifest : Manifest} {b : GraphBranchMetadata} {main_files branch_files : List PatchFile}

omit [TextLibrary] [Canonical] in
theorem earliest_failure_none {x y : Option ReplayFailure} (h : earliest_failure x y = none) :
    x = none ∧ y = none := by
  cases x with
  | none => exact ⟨rfl, h⟩
  | some f =>
    cases y with
    | none => cases h
    | some g =>
      simp only [earliest_failure] at h
      split_ifs at h

/-- A log of one readable Patch that continues the empty head replays completely. -/
theorem main_replay_single {f : PatchFile} {p : Patch} {scope : List String}
    {trace : TransitionTrace} {t : GraphState} (hscope : manifest.scope_base = .scope scope)
    (hcontent : f.content = .ok p) (hadmission : p.admission = .accepted)
    (htrace : p.transition = some trace) (htarget : trace.pre_head.target = .main)
    (hhead : trace.pre_head.transition_id = none)
    (hreplay : replay_state manifest.settings (initial_state scope) p = .ok t) :
    (main_replay manifest [f]).patches = [p] ∧ (main_replay manifest [f]).state = t := by
  have hchain : accepted_transition_head_chain_failure .main none [p] = none := by
    simp [accepted_transition_head_chain_failure, Patch.accepted_trace, hadmission, htrace, htarget,
      hhead]
  constructor
  · simp [main_replay, main_scope, hscope, decode_paths, hcontent, hchain, chain_prefix_of,
      materialize_patches]
  · simp [main_replay, main_scope, hscope, decode_paths, hcontent, hchain, chain_prefix_of,
      materialize_patches, replay_patch, hadmission, hreplay, outcome, earliest_failure,
      degrade_complete]

/-- What a complete replay of main says of its files. -/
theorem main_complete (h : (main_replay manifest files).state.replay_status = .complete) :
    ∃ scope a, (manifest.scope_base = .scope scope ∨
        (manifest.scope_base = .missing ∧ files = [] ∧ scope = manifest.truth_scope)) ∧
      (decode_paths main_path_failure files).2 = none ∧
      accepted_transition_head_chain_failure .main none
        (decode_paths main_path_failure files).1 = none ∧
      replay_run manifest.settings scope (decode_paths main_path_failure files).1 = .ok a ∧
      (main_replay manifest files).observed = a.observed ∧
      (main_replay manifest files).patches = (decode_paths main_path_failure files).1 := by
  cases hscope : (main_scope manifest files (decode_paths main_path_failure files).1).2 with
  | some failure =>
    -- nothing is replayed, and the missing scope degrades the empty graph
    simp [main_replay, hscope, materialize_patches, outcome, initial_state, degrade_complete,
      GraphState.degrade, pure, Except.pure] at h
  | none =>
    simp only [main_replay, hscope, Option.isSome_none, Bool.false_eq_true, if_false,
      Option.none_or] at h ⊢
    have hcases : ∃ scope,
        (main_scope manifest files (decode_paths main_path_failure files).1).1 = scope ∧
        (manifest.scope_base = .scope scope ∨
          (manifest.scope_base = .missing ∧ files = [] ∧ scope = manifest.truth_scope)) := by
      unfold main_scope at hscope ⊢
      split at hscope
      · next scope hbase => exact ⟨scope, rfl, Or.inl hbase⟩
      · cases hscope
      · next hbase =>
        split_ifs at hscope with hempty
        exact ⟨manifest.truth_scope, by simp [hempty],
          Or.inr ⟨hbase, List.isEmpty_iff.mp hempty, rfl⟩⟩
    obtain ⟨scope, hfirst, hcases⟩ := hcases
    rw [hfirst] at h ⊢
    cases hmin : earliest_failure (decode_paths main_path_failure files).2
        (accepted_transition_head_chain_failure .main none
          (decode_paths main_path_failure files).1) with
    | some failure =>
      rw [hmin] at h
      simp only [degrade_complete] at h
      split_ifs at h with hcomplete
      · simp [GraphState.degrade] at h
      · exact absurd h hcomplete
    | none =>
      have hdecode := earliest_failure_none hmin
      rw [hmin, hdecode.2] at h
      simp only [degrade_complete, chain_prefix_of] at h
      obtain ⟨a, ha⟩ := complete_iff.mp h
      refine ⟨scope, a, hcases, hdecode.1, hdecode.2, ha, ?_, ?_⟩
      · unfold replay_run at ha
        simp [hdecode.2, chain_prefix_of, materialize_patches, ha, outcome]
      · simp [hdecode.2, chain_prefix_of, materialize_patches]

theorem branch_patches (h : PatchLevel manifest b main_files)
    (hsound : structural_failure (base_paths b main_files) 1 .main none = none)
    (hcomplete : (materialize_patches manifest.settings (branch_scope manifest b).1
      (decode_paths path_failure (base_paths b main_files)).1).state.replay_status = .complete)
    (htail : structural_failure branch_files (b.base_head.revision + 1) (.branch b.branch_id)
      b.base_head.transition_id = none) :
    (branch_replay manifest b main_files branch_files).patches
      = (decode_paths path_failure (base_paths b main_files)).1
        ++ (decode_paths path_failure branch_files).1 := by
  have hbase := base_failure_none h hsound
  simp only [branch_replay, materialize_base, hbase, base_result, h.scope, Option.isSome_none,
    Bool.false_eq_true, if_false, hcomplete, htail]
  simp only [reduceCtorEq, if_false, Option.isSome_none, Bool.false_eq_true, Option.none_or]
  rfl

end

/-! ### Two main logs -/

section

open scoped Reference

end

end ResearchGraph
