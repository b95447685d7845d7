import ResearchGraph.Validation.Patch

/-! # What admission establishes

    A Patch is admitted when its report holds no reject.  The lemmas below
    turn a passing run of the rules into the facts later arguments use, one
    lemma for each layer of the validator, so that no proof has to unfold the
    loop again.
-/

namespace ResearchGraph

open Lib

variable [TextLibrary]

/-! ### Reports -/

theorem rejected_untraced_report {s : GraphState} {p : Patch} {scope : List String}
    {settings : ValidationSettings} {mode : ValidationMode} {binding : ExperimentBinding} :
    rejected (untraced_report s p scope settings mode binding) = false ↔
      ∃ t, Check.Passes (validation_run s p scope settings mode binding) t := by
  unfold untraced_report Check.Passes
  cases h : validation_run s p scope settings mode binding with
  | raised e => simp [malformed_report, rejected]
  | done t ms => simp [rejected, Graded.refuses]

variable [Canonical]

/-- A Patch that `validate_patch` does not reject at admission. -/
def Admitted (s : GraphState) (p : Patch) (scope : List String) (settings : ValidationSettings)
    (binding : ExperimentBinding := {}) : Prop :=
  rejected (validate_patch s p scope settings .admission binding) = false

instance {s : GraphState} {p : Patch} {scope : List String} {settings : ValidationSettings}
    {binding : ExperimentBinding} : Decidable (Admitted s p scope settings binding) :=
  inferInstanceAs (Decidable (_ = _))

theorem admitted_iff {s : GraphState} {p : Patch} {scope : List String}
    {settings : ValidationSettings} {binding : ExperimentBinding} :
    Admitted s p scope settings binding ↔ p.transition = none ∧
      ∃ t, Check.Passes (validation_run s p scope settings .admission binding) t := by
  unfold Admitted validate_patch
  cases p.transition with
  | none => simp [rejected_untraced_report]
  | some trace => simp [rejected]

omit [Canonical]

/-! ### The operation loop -/

/-- What one passing iteration of the loop did. -/
theorem passes_validate_operation {vp : ProposalRule} {ctx : OpContext} {st st' : Staging}
    {op : GraphOperation} :
    Check.Passes (validate_operation vp ctx st op) st' ↔
      ¬ (ctx.mode = .admission ∧ op.legacy_only = true) ∧
      ∃ oldest t, Check.Passes (judge_operation vp (ctx.at st) st.oldest op) oldest ∧
        apply_valid_operation st.state ctx.patch op = .ok t ∧
        st' = { state := t, repositories := repositories_after st.repositories op, oldest } := by
  unfold validate_operation
  by_cases hlegacy : ctx.mode = .admission ∧ op.legacy_only = true
  · simp [hlegacy]
  · simp only [hlegacy, if_false, Check.passes_unlessRefused, not_false_eq_true, true_and]
    constructor
    · rintro ⟨oldest, hjudge, hstage⟩
      unfold stage_operation at hstage
      cases happly : apply_valid_operation st.state ctx.patch op with
      | error e => simp [happly] at hstage
      | ok t =>
        simp only [happly, Check.passes_pure] at hstage
        exact ⟨oldest, t, hjudge, rfl, hstage.symm⟩
    · rintro ⟨oldest, t, hjudge, happly, rfl⟩
      exact ⟨oldest, hjudge, by simp [stage_operation, happly]⟩

theorem passes_judge_operation {vp : ProposalRule} {ctx : OpContext}
    {oldest oldest' : Option Datetime}
    {op : GraphOperation} :
    Check.Passes (judge_operation vp ctx oldest op) oldest' ↔
      Check.Passes (validate_operation_authority ctx op) () ∧
      (∃ cited, Check.Passes (structural_validate vp ctx op) cited ∧
        older oldest cited = .ok oldest') ∧
      (ctx.mode = .admission → Check.Passes (authoring_validate vp ctx op) ()) := by
  simp only [judge_operation, Check.passes_bind, Check.exists_unit, Check.passes_lift,
    Check.passes_when, Check.passes_pure]
  constructor
  · rintro ⟨hauth, cited, hcited, o, ho, hwhen, rfl⟩
    exact ⟨hauth, ⟨cited, hcited, ho⟩, hwhen⟩
  · rintro ⟨hauth, ⟨cited, hcited, ho⟩, hwhen⟩
    exact ⟨hauth, cited, hcited, oldest', ho, hwhen, rfl⟩

omit [TextLibrary] in
theorem passes_citing_none {rule : Rule Unit} {cited : Option Datetime} :
    Check.Passes (citing_none rule) cited ↔ Check.Passes rule () ∧ cited = none := by
  simp [citing_none, eq_comm]

omit [TextLibrary] in
/-- Every action of an admitted operation is permitted. -/
theorem passes_authority {ctx : OpContext} {op : GraphOperation} (hmode : ctx.mode = .admission) :
    Check.Passes (validate_operation_authority ctx op) () ↔
      ∃ actions, operation_actions ctx.initial_state ctx.patch op = .ok actions ∧
        ∀ a ∈ actions, permits ctx.patch a = true := by
  simp only [validate_operation_authority, hmode, Check.passes_bind, Check.passes_lift,
    Check.passes_forEach, Check.passes_when, List.mem_insertionSort, List.mem_dedup,
    passes_reject, imp_false, not_not]

end ResearchGraph
