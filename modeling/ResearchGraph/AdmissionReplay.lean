import ResearchGraph.Admission
import ResearchGraph.Reference

/-! # Admission implies replay

    Every rule that looks at the validation mode is at least as permissive in
    replay as it is at admission.  The two runs are related operation by
    operation: both stage the same states, and on a common staged state each
    admission rule refines its replay counterpart.
-/

namespace ResearchGraph

open Lib

section

/-- The same context, judged in replay. -/
def OpContext.replaying (ctx : OpContext) : OpContext := { ctx with mode := .replay }

/-- An admission context of a current-generation Patch. -/
structure OpContext.Current (ctx : OpContext) : Prop where
  admission : ctx.mode = .admission
  generation : ctx.patch.schema_generation = .two

theorem OpContext.Current.at {ctx : OpContext} (h : ctx.Current) (st : Staging) :
    (ctx.at st).Current := ⟨h.admission, h.generation⟩

variable {ctx : OpContext}

/-! ### Nodes and edges -/

theorem create_nodes_refines (nodes : List NewNode) :
    Check.Refines (validate_create_nodes ctx nodes)
      (validate_create_nodes ctx.replaying nodes) := by
  refine Check.Refines.thread (fun oldest raw _ => ?_) none
  refine Check.Refines.bind ?_ (fun _ => Check.Refines.rfl)
  intro u _
  simp [OpContext.replaying]

theorem gated_update_refines (n : Node) (u : NodeUpdate) :
    Check.Refines (validate_gated_update ctx n u) (validate_gated_update ctx.replaying n u) := by
  intro a h
  have hcontrol : is_control_update ctx.replaying u = is_control_update ctx u := rfl
  have hpatch : ctx.replaying.patch = ctx.patch := rfl
  have hmode : ctx.replaying.mode = .replay := rfl
  unfold validate_gated_update at h ⊢
  rw [hcontrol, hpatch, hmode]
  by_cases hgated : ¬ is_control_update ctx u = true ∧ requires_proposal n u.changes = true
  · rw [if_pos hgated] at h ⊢
    by_cases hdecision : n.type = .decision
    · simp [hdecision]
    · rw [if_neg hdecision] at h ⊢
      exact h
  · rw [if_neg hgated]
    simp

theorem update_refines (hctx : ctx.Current) (oldest : Option Datetime) (u : NodeUpdate) :
    Check.Refines (validate_update ctx oldest u) (validate_update ctx.replaying oldest u) := by
  intro a h
  unfold validate_update at h ⊢
  cases hn : ctx.state.nodes.get? u.id with
  | none => simp [hn] at h
  | some n =>
    have hn' : ctx.replaying.state.nodes.get? u.id = some n := hn
    simp only [hn, Check.passes_bind, Check.exists_unit, Check.passes_when, passes_reject,
      imp_false, Bool.not_eq_true] at h
    obtain ⟨hphase, hstrength, h⟩ := h
    have hphase' : live_legacy_phase ctx.replaying n u.changes = false := by
      simp [live_legacy_phase, OpContext.replaying]
    have hstrength' : live_legacy_strength ctx.replaying n u.changes = false := by
      simp [live_legacy_strength, OpContext.replaying]
    have hlegacy : ctx.legacy_replay = false := by simp [OpContext.legacy_replay, hctx.admission]
    have hlegacy' : ctx.replaying.legacy_replay = false := by
      simp [OpContext.legacy_replay, OpContext.replaying, hctx.generation]
    -- with no legacy exception on either side the same system fields are refused
    have himm : immutable_update_fields ctx.replaying n u.changes =
        immutable_update_fields ctx n u.changes := by
      simp [immutable_update_fields, hlegacy, hlegacy', hstrength, hstrength']
    have hdecode : ctx.replaying.decode_mode = ctx.decode_mode := by
      simp [OpContext.decode_mode, hlegacy, hlegacy']
    simp only [hn', hphase', hstrength', himm, Check.passes_bind, Check.exists_unit,
      Check.passes_when, Bool.false_eq_true, false_imp_iff, true_and, or_self, if_false]
    simp only [hphase, hstrength, Bool.false_eq_true, or_self, if_false] at h
    split_ifs at h ⊢ with hfields
    · simp at h
    · simp only [validate_update_changes, hdecode] at h ⊢
      refine Check.Refines.bind Check.Refines.rfl (fun _ => ?_) a h
      refine Check.Refines.bind Check.Refines.rfl (fun _ => ?_)
      refine Check.Refines.bind (gated_update_refines n u) (fun _ => ?_)
      refine Check.Refines.bind ?_ (fun _ => Check.Refines.rfl)
      intro _ _
      simp [validate_decision_transition, OpContext.replaying]

theorem created_edge_refines (seen : List String) (e : NewEdge) :
    Check.Refines (validate_created_edge ctx seen e)
      (validate_created_edge ctx.replaying seen e) := by
  have hidentity : Check.Refines (validate_edge_identity ctx seen e)
      (validate_edge_identity ctx.replaying seen e) := by
    intro a h
    unfold validate_edge_identity at h ⊢
    have hmode : ctx.replaying.mode = .replay := rfl
    have hstate : ctx.replaying.state = ctx.state := rfl
    simp only [hmode, hstate, reduceCtorEq, false_and, if_false] at h ⊢
    split_ifs at h with hseen
    · simp at h
    · exact h
  have hassessment : Check.Refines (validate_edge_assessment ctx e)
      (validate_edge_assessment ctx.replaying e) := by
    intro a h
    have htype : ctx.replaying.node_type = ctx.node_type := rfl
    have hmode : ctx.replaying.mode = .replay := rfl
    simp only [validate_edge_assessment, htype, hmode] at h ⊢
    simp only [Check.passes_bind, Check.exists_unit, Check.passes_when, Check.passes_ite,
      passes_reject] at h ⊢
    refine ⟨by simp, h.2.1, by simp⟩
  unfold validate_created_edge
  refine Check.Refines.bind Check.Refines.rfl (fun _ => ?_)
  refine Check.Refines.bind Check.Refines.rfl (fun _ => ?_)
  refine Check.Refines.bind hassessment (fun _ => ?_)
  cases RELATION_SPEC e.relation with
  | some spec => exact hidentity
  | none =>
    have hcustom : custom_relation ctx.replaying.state.ontology e.relation =
        custom_relation ctx.state.ontology e.relation := rfl
    rw [hcustom]
    cases custom_relation ctx.state.ontology e.relation with
    | none => exact Check.Refines.rfl
    | some custom => exact Check.Refines.bind Check.Refines.rfl (fun _ => hidentity)

theorem create_edges_refines (edges : List NewEdge) :
    Check.Refines (validate_create_edges ctx edges)
      (validate_create_edges ctx.replaying edges) :=
  Check.Refines.bind
    (Check.Refines.thread (fun seen e _ => created_edge_refines seen e) _)
    (fun _ => Check.Refines.rfl)

theorem supersede_nodes_refines (nodes : List SupersedeNode) :
    Check.Refines (validate_supersede_nodes ctx nodes)
      (validate_supersede_nodes ctx.replaying nodes) := by
  refine Check.Refines.forEach (fun item _ => ?_)
  refine Check.Refines.bind Check.Refines.rfl (fun _ => ?_)
  cases item.superseded_by with
  | none => exact Check.Refines.rfl
  | some target =>
    refine Check.Refines.bind Check.Refines.rfl (fun _ => ?_)
    intro _ _
    simp [OpContext.replaying]

theorem merge_nodes_refines (merges : List NodeMerge) :
    Check.Refines (validate_merge_nodes ctx merges)
      (validate_merge_nodes ctx.replaying merges) := by
  refine Check.Refines.forEach (fun item _ => ?_)
  refine Check.Refines.bind Check.Refines.rfl (fun _ => ?_)
  refine Check.Refines.bind Check.Refines.rfl (fun _ => ?_)
  intro _ _
  simp [OpContext.replaying]

/-! ### Patch shapes and results -/

theorem standalone_refines (s : GraphState) (p : Patch) :
    Check.Refines (validate_standalone s p .admission) (validate_standalone s p .replay) := by
  have hedit (n : Node) (u : NodeUpdate) : Check.Refines (validate_edited_node p n u .admission)
      (validate_edited_node p n u .replay) := by
    refine Check.Refines.bind Check.Refines.rfl (fun _ => ?_)
    refine Check.Refines.ite (fun _ => Check.Refines.rfl) (fun _ => ?_)
    refine Check.Refines.bind ?_ (fun _ => Check.Refines.rfl)
    intro _ _
    simp
  have hdirect (updates : List NodeUpdate) :
      Check.Refines (validate_direct_node_edit s p updates .admission)
        (validate_direct_node_edit s p updates .replay) := by
    unfold validate_direct_node_edit
    split
    · refine Check.Refines.bind Check.Refines.rfl (fun _ => ?_)
      split
      · exact Check.Refines.rfl
      · exact hedit _ _
    · exact Check.Refines.rfl
  have hstandalone : Check.Refines (validate_standalone_edit s p .admission)
      (validate_standalone_edit s p .replay) := by
    unfold validate_standalone_edit
    split
    · exact hdirect _
    · exact Check.Refines.bind (hdirect _) (fun _ => Check.Refines.rfl)
    · exact Check.Refines.rfl
  have hmono (ops : List GraphOperation) (h : is_standalone .admission ops = true) :
      is_standalone .replay ops = true := by
    unfold is_standalone at h ⊢
    split at h <;> simp_all
  unfold validate_standalone
  split
  · exact Check.Refines.rfl
  · -- the guard of the first branch is wider in replay
    split_ifs with h h' h''
    · exact Check.Refines.rfl
    · exact absurd (hmono _ h) h'
    · exact absurd (hmono _ h) h'
    · intro _ _
      simp
    · exact hstandalone
    · intro _ _
      simp
    · exact Check.Refines.rfl

theorem approved_ops_refines (s : GraphState) (p : Patch) (q : Proposal) :
    Check.Refines (validate_approved_ops s p q .admission)
      (validate_approved_ops s p q .replay) := by
  intro _ h
  unfold validate_approved_ops at h ⊢
  simp only [Check.passes_bind, Check.exists_unit, Check.passes_ite, Check.passes_when,
    passes_reject, reduceCtorEq, and_false, false_and, false_imp_iff, not_false_eq_true,
    true_imp_iff, and_true, true_and] at h ⊢
  grind

theorem resolution_shape_refines (s : GraphState) (p : Patch)
    (resolutions : List (List ProposalResolution)) :
    Check.Refines (validate_resolution_shape s p resolutions .admission)
      (validate_resolution_shape s p resolutions .replay) := by
  unfold validate_resolution_shape
  split
  · split
    · exact Check.Refines.rfl
    · refine Check.Refines.ite (fun _ => Check.Refines.rfl) (fun _ => ?_)
      refine Check.Refines.bind Check.Refines.rfl (fun _ => ?_)
      refine Check.Refines.bind ?_ (fun _ => Check.Refines.rfl)
      exact Check.Refines.ite (fun _ => approved_ops_refines s p _) (fun _ => Check.Refines.rfl)
  · exact Check.Refines.rfl

theorem approval_shape_refines (s : GraphState) (p : Patch) :
    Check.Refines (validate_approval_shape s p .admission)
      (validate_approval_shape s p .replay) := by
  unfold validate_approval_shape
  refine Check.Refines.ite (fun _ => Check.Refines.rfl) (fun _ => ?_)
  split
  · exact standalone_refines s p
  · exact resolution_shape_refines s p _

theorem experiment_control_refines (s : GraphState) (p : Patch) (control : Option String)
    (bundle : List ExperimentDecisionPin) (hgen : p.schema_generation = .two) :
    validate_experiment_control s p control bundle .admission =
      validate_experiment_control s p control bundle .replay := by
  have hfields : allowed_experiment_fields p .replay = allowed_experiment_fields p .admission := by
    simp [allowed_experiment_fields, hgen]
  have hop (id : String) (e : Experiment) (op : GraphOperation) :
      validate_loop_operation s p .admission id e bundle op =
        validate_loop_operation s p .replay id e bundle op := by
    cases op <;> simp [validate_loop_operation, hfields]
  simp only [validate_experiment_control, validate_experiment_loop_authority, funext (hop _ _)]

theorem shape_refines (hctx : ctx.Current) (bundle : List ExperimentDecisionPin) :
    Check.Refines (validate_patch_shape ctx bundle)
      (validate_patch_shape ctx.replaying bundle) := by
  unfold validate_patch_shape
  have hcontrol := experiment_control_refines ctx.initial_state ctx.patch
    ctx.experiment_control_node_id bundle hctx.generation
  refine Check.Refines.bind ?_ (fun _ => ?_)
  · intro _ _
    simp [OpContext.replaying]
  iterate 6 refine Check.Refines.bind Check.Refines.rfl (fun _ => ?_)
  refine Check.Refines.bind ?_ (fun _ => ?_)
  · rw [hctx.admission, hcontrol]
    exact Check.Refines.rfl
  refine Check.Refines.bind Check.Refines.rfl (fun _ => ?_)
  rw [hctx.admission]
  exact Check.Refines.ite (fun _ => approval_shape_refines _ _) (fun _ => Check.Refines.rfl)

theorem result_refines (hctx : ctx.Current) (st : Staging) :
    Check.Refines (validate_patch_result ctx st) (validate_patch_result ctx.replaying st) := by
  unfold validate_patch_result
  refine Check.Refines.bind ?_ (fun _ => Check.Refines.bind ?_ (fun _ => ?_))
  · intro _ _
    simp [validate_queued_decision_options, OpContext.replaying]
  · refine Check.Refines.forEach (fun entry _ => ?_)
    intro _ h
    unfold validate_liveness at h ⊢
    cases hq : st.state.proposals.get? entry.1 with
    | none => simp [hq]
    | some q =>
      simp only [hq, hctx.admission, Check.passes_ite, Check.passes_when, passes_reject,
        imp_false] at h ⊢
      simp only [OpContext.replaying, reduceCtorEq, false_and, not_false_eq_true, true_imp_iff,
        true_and]
      exact h.2 h.1
  · intro _ _
    simp [flag_coverage, OpContext.replaying]

/-! ### Proposals and project records -/

variable [TextLibrary]

theorem create_proposals_refines (proposals : List NewProposal) :
    Check.Refines (validate_create_proposals validate_proposal ctx proposals)
      (validate_create_proposals validate_proposal ctx.replaying proposals) := by
  refine Check.Refines.bind (Check.Refines.thread (fun seen raw _ => ?_) _)
    (fun _ => Check.Refines.rfl)
  refine Check.Refines.bind ?_ (fun _ => Check.Refines.rfl)
  refine Check.Refines.bind ?_ (fun _ => Check.Refines.rfl)
  intro _ _
  simp [OpContext.replaying]

theorem structural_refines (hctx : ctx.Current) (op : GraphOperation) :
    Check.Refines (structural_validate validate_proposal ctx op)
      (structural_validate validate_proposal ctx.replaying op) := by
  have cited {c d : Rule Unit} (h : Check.Refines c d) :
      Check.Refines (citing_none c) (citing_none d) :=
    Check.Refines.bind h (fun _ => Check.Refines.rfl)
  cases op with
  | create_nodes nodes => exact create_nodes_refines nodes
  | update_nodes updates =>
    exact Check.Refines.thread (fun oldest u _ => update_refines hctx oldest u) none
  | create_edges edges => exact create_edges_refines edges
  | supersede_nodes nodes => exact cited (supersede_nodes_refines nodes)
  | merge_nodes merges => exact cited (merge_nodes_refines merges)
  | create_proposals proposals => exact cited (create_proposals_refines proposals)
  | resolve_proposals resolutions =>
    refine cited (Check.Refines.bind ?_ (fun _ => Check.Refines.rfl))
    intro _ _
    simp [OpContext.replaying]
  | set_standing node_id standing =>
    refine cited (Check.Refines.bind ?_ (fun _ => Check.Refines.rfl))
    intro _ _
    simp [OpContext.replaying]
  | set_ontology ontology =>
    refine cited (Check.Refines.bind Check.Refines.rfl (fun _ => ?_))
    refine Check.Refines.bind Check.Refines.rfl (fun _ => ?_)
    intro _ _
    simp [OpContext.replaying]
  | remove_edges _ | remove_nodes _ | create_ambiguities _ | resolve_ambiguities _
  | withdraw_proposals _ | upsert_glossary _ | set_coverage _
  | set_project_truth_scope _ _ => exact Check.Refines.rfl

/-! ### The operation loop -/

theorem operation_refines (hctx : ctx.Current) (st : Staging) (op : GraphOperation) :
    Check.Refines (validate_operation validate_proposal ctx st op)
      (validate_operation validate_proposal ctx.replaying st op) := by
  intro st' h
  obtain ⟨_, oldest, t, hjudge, happly, hst'⟩ := passes_validate_operation.mp h
  refine passes_validate_operation.mpr
    ⟨by simp [OpContext.replaying], oldest, t, ?_, happly, hst'⟩
  obtain ⟨_, ⟨cited, hcited, hold⟩, _⟩ := passes_judge_operation.mp hjudge
  refine passes_judge_operation.mpr ⟨?_, ⟨cited, ?_, hold⟩, ?_⟩
  · simp [validate_operation_authority, OpContext.replaying, OpContext.at]
  · exact structural_refines (hctx.at st) op cited hcited
  · simp [OpContext.replaying, OpContext.at]

theorem operations_refines (hctx : ctx.Current) :
    Check.Refines (validate_operations validate_proposal ctx)
      (validate_operations validate_proposal ctx.replaying) :=
  Check.Refines.thread (fun st op _ => operation_refines hctx st op) _

/-- The rules of a whole Patch: whatever passes at admission passes in replay,
    with the same staged graph. -/
theorem rules_refines (hctx : ctx.Current) (bundle : List ExperimentDecisionPin) :
    Check.Refines (validate_patch_rules ctx bundle)
      (validate_patch_rules ctx.replaying bundle) :=
  Check.Refines.bind (shape_refines hctx bundle) (fun _ =>
    Check.Refines.bind (operations_refines hctx) (fun st =>
      Check.Refines.bind (result_refines hctx st) (fun _ => Check.Refines.rfl)))

variable [Canonical]

/-- A Patch RCP admitted is never rejected when its history is replayed under
    the same project scope, aliases, default run scope and state repository. -/
theorem admission_implies_replay (s : GraphState) (p : Patch) (scope : List String)
    (settings : ValidationSettings) (binding : ExperimentBinding)
    (hgen : p.schema_generation = .two) (htrace : p.transition = none)
    (hadmitted : rejected (validate_patch s p scope settings .admission binding) = false) :
    rejected (validate_patch s p scope settings .replay binding) = false := by
  obtain ⟨_, t, ht⟩ := admitted_iff.mp hadmitted
  have hctx : (patch_context s p scope settings .admission
      (control_node_id binding.control_node_id p)).Current := ⟨rfl, hgen⟩
  have hreplay : Check.Passes (validation_run s p scope settings .replay binding) t :=
    rules_refines hctx _ t ht
  simp only [validate_patch, htrace]
  exact rejected_untraced_report.mpr ⟨t, hreplay⟩

end

open scoped Reference in
/-- The first Patch of a project, which creates one ResearchQuestion. -/
theorem admission_implies_replay_first_question :
    let p := Reference.agent_patch 1 [.create_nodes [Reference.question "rq/first"]]
    rejected (validate_patch {} p ["main"] {} .admission) = false ∧
      rejected (validate_patch {} p ["main"] {} .replay) = false :=
  ⟨by decide, admission_implies_replay {} _ ["main"] {} {} rfl rfl (by decide)⟩

end ResearchGraph
