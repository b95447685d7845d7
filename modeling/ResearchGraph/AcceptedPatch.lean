import ResearchGraph.Admission
import ResearchGraph.Halting

/-! # What replay asks of an accepted Patch

    A Patch that replay does not reject carries the next revision and has an
    author, with a transition trace or without one: the sources of a trace are
    validated like Patches of their own.
-/

namespace ResearchGraph

open Lib

variable {p : Patch} {s : GraphState}

/-! ### The shape of an accepted Patch -/

/-- A source of a valid trace that carries an operation. -/
theorem traced_source [Canonical] {sources : List Patch}
    (h : validate_transition_trace s p = .ok sources) :
    ∃ q ∈ sources, q.revision = p.revision ∧ q.author = p.author ∧ q.ops ≠ [] := by
  unfold validate_transition_trace at h
  cases htrace : p.transition with
  | none => simp [htrace] at h
  | some trace =>
    simp only [htrace] at h
    split at h
    · cases h
    split at h
    · cases h
    obtain ⟨_, -, h⟩ := except_bind_ok.mp h
    split at h
    · cases h
    rename_i hactions
    split at h
    · cases h
    obtain ⟨_, -, h⟩ := except_bind_ok.mp h
    obtain ⟨_, -, h⟩ := except_bind_ok.mp h
    split at h
    · cases h
    obtain ⟨_, -, h⟩ := except_bind_ok.mp h
    obtain rfl := except_pure_ok.mp h
    obtain ⟨a, ha⟩ := List.exists_mem_of_ne_nil _ hactions
    simp only [source_actions, List.mem_flatMap, List.mem_map] at ha
    obtain ⟨q, hq, op, hop, -⟩ := ha
    obtain ⟨group, hgroup, rfl⟩ := hq
    exact ⟨_, List.mem_map.mpr ⟨group, hgroup, rfl⟩, rfl, rfl, List.ne_nil_of_mem hop⟩

section

variable [TextLibrary] [Canonical] {settings : ValidationSettings} {scope : List String}
  {m m' : Materialization}

omit [TextLibrary] [Canonical] in
/-- What the shape rules say about numbering and authorship. -/
theorem passed_shape {ctx : OpContext} {bundle : List ExperimentDecisionPin}
    (h : Check.Passes (validate_patch_shape ctx bundle) ()) :
    (ctx.patch.revision ≠ 0 → ctx.patch.revision = ctx.initial_state.revision + 1) ∧
      (ctx.patch.author = none → ctx.patch.ops = []) := by
  simp only [validate_patch_shape, Check.passes_bind, Check.exists_unit] at h
  obtain ⟨-, hrevision, hauthorship, hidentity, -⟩ := h
  constructor
  · intro hnumbered
    by_contra hother
    simp [hnumbered, hother] at hrevision
  · intro hauthor
    by_cases hkind : ctx.patch.kind = .identity
    · simp only [validate_identity_shape, hkind, ne_eq, not_true_eq_false, if_false,
        validate_identity_payload, Check.passes_bind, Check.exists_unit] at hidentity
      obtain ⟨-, -, hops, -⟩ := hidentity
      by_contra hne
      simp [hne] at hops
    · simp [validate_authorship, hkind, hauthor] at hauthorship

omit [Canonical] in
theorem untraced_shape {q : Patch}
    (h : rejected (untraced_report s q scope settings .replay) = false) :
    (q.revision ≠ 0 → q.revision = s.revision + 1) ∧ (q.author = none → q.ops = []) := by
  obtain ⟨t, ht⟩ := rejected_untraced_report.mp h
  simp only [validation_run, validate_patch_rules, Check.passes_bind] at ht
  obtain ⟨_, hshape, -⟩ := ht
  exact passed_shape hshape

omit [Canonical] in
/-- Source Patches of a trace that raise no rejection pass one by one. -/
theorem source_shapes {revision : Nat} {qs : List Patch} {messages : List ValidationMessage}
    (h : source_reports settings revision s qs = .ok messages)
    (hmessages : rejected messages = false) :
    ∀ q ∈ qs, (q.revision ≠ 0 → q.revision = revision + 1) ∧ (q.author = none → q.ops = []) := by
  induction qs generalizing s messages with
  | nil => simp
  | cons q qs ih =>
    simp only [source_reports] at h
    split at h
    · rename_i hrejected
      cases h
      rw [hmessages] at hrejected
      cases hrejected
    · rename_i hpassed
      obtain ⟨next, -, h⟩ := except_bind_ok.mp h
      obtain ⟨rest, hrest, h⟩ := except_bind_ok.mp h
      obtain rfl := except_pure_ok.mp h
      have htail : rejected rest = false := by
        simp only [rejected, List.any_append, Bool.or_eq_false_iff] at hmessages
        exact hmessages.2
      intro r hr
      rcases List.mem_cons.mp hr with rfl | hr
      · exact untraced_shape (by simpa using hpassed)
      · exact ih hrest htail r hr

/-- A Patch that replay does not reject continues the numbering and has an author. -/
theorem accepted_shape (h : rejected (validate_patch s p scope settings .replay) = false) :
    (p.revision ≠ 0 → p.revision = s.revision + 1) ∧ (p.author = none → p.ops = []) := by
  unfold validate_patch at h
  cases htrace : p.transition with
  | none =>
    simp only [htrace] at h
    exact untraced_shape h
  | some trace =>
    simp only [htrace, traced_report] at h
    cases hvalid : validate_transition_trace s p with
    | error e => simp [hvalid, rejected, bind, Except.bind] at h
    | ok sources =>
      cases hreports : source_reports settings s.revision s sources with
      | error e => simp [hvalid, hreports, rejected, bind, Except.bind] at h
      | ok messages =>
        have hmessages : rejected messages = false := by
          simpa [hvalid, hreports, bind, Except.bind] using h
        have hshapes := source_shapes hreports hmessages
        -- the trace has an initiating action, so one of its sources carries an operation
        obtain ⟨q, hq, hrevision, hauthor, hops⟩ := traced_source hvalid
        have hshape := hshapes q hq
        rw [hrevision, hauthor] at hshape
        refine ⟨hshape.1, ?_⟩
        intro hnone
        exact absurd (hshape.2 hnone) hops

/-- One accepted Patch of a replayed list. -/
theorem replay_accepted (h : replay_patch settings m p = .ok m') (hp : p.admission = .accepted) :
    rejected (replay_report settings m.state p) = false ∧
      m'.reports = Dict.set m.reports p.revision (replay_report settings m.state p) ∧
      ∃ u, apply_valid_patch m.state p = .ok u ∧
        m'.state = u.with_messages p.admission_messages := by
  unfold replay_patch at h
  rw [if_neg (by simp [hp])] at h
  simp only [] at h
  cases hstate : replay_state settings m.state p with
  | error halted => simp [hstate] at h
  | ok t =>
    simp only [hstate, Except.ok.injEq] at h
    subst h
    unfold replay_state at hstate
    split at hstate
    · cases hstate
    · rename_i hnone
      have hpassed : rejected (replay_report settings m.state p) = false := by
        simpa [rejected] using hnone
      cases happly : apply_valid_patch m.state p with
      | error e => simp [happly] at hstate
      | ok u =>
        simp only [happly, Except.ok.injEq] at hstate
        refine ⟨hpassed, ?_, u, rfl, hstate.symm⟩
        simp only [filed_report, happly]
        rw [if_neg (by simpa [rejected] using hpassed)]

/-- The report replay files is the one of the rules, with the messages of admission. -/
theorem replay_report_passed (h : rejected (replay_report settings s p) = false) :
    rejected (validate_patch s p s.project_truth_scope settings .replay) = false := by
  simp only [rejected, replay_report, List.any_append, Bool.or_eq_false_iff] at h
  exact h.1

/-- Replay refuses a Patch that leaves numbers out. -/
theorem refused_of_gap (settings : ValidationSettings) (m : Materialization)
    (hp : p.admission = .accepted) (hnumbered : p.revision ≠ 0)
    (hgap : p.revision ≠ m.state.revision + 1) :
    ∃ m', replay_patch settings m p = .error m' := by
  cases h : replay_patch settings m p with
  | error m' => exact ⟨m', rfl⟩
  | ok m' =>
    have hpassed := (replay_accepted h hp).1
    exact absurd ((accepted_shape (replay_report_passed hpassed)).1 hnumbered) hgap

end

end ResearchGraph
