import ResearchGraph.Provenance
import ResearchGraph.Reference

/-! # Endpoints of edges

    The rules look an endpoint up in the staged graph, else among all nodes the
    Patch creates anywhere.  The second lookup also finds a node that an
    earlier operation created and removed again, so an edge to such a node is
    admitted.  Apart from that every committed edge has both its endpoints.
-/

namespace ResearchGraph

open Lib

/-- Every edge has both endpoints among the nodes. -/
def GraphState.Anchored (s : GraphState) : Prop :=
  ∀ e ∈ s.edges.items, s.nodes.contains e.source = true ∧ s.nodes.contains e.target = true

instance {s : GraphState} : Decidable s.Anchored := inferInstanceAs (Decidable (∀ _ ∈ _, _))

section

variable {p : Patch} {s t u : GraphState} {k : String} {e : Edge}

theorem GraphState.anchored_iff : s.Anchored ↔ ∀ k e, s.edges.get? k = some e →
    ∀ x ∈ [e.source, e.target], s.nodes.contains x = true := by
  constructor
  · intro h k e he x hx
    obtain ⟨hsource, htarget⟩ := h e (Table.get?_eq_some_iff.mp he).1
    simp only [List.mem_cons, List.not_mem_nil, or_false] at hx
    rcases hx with rfl | rfl
    · exact hsource
    · exact htarget
  · intro h e he
    have hget := Table.mem_items_iff.mp he
    exact ⟨h _ e hget _ (by simp), h _ e hget _ (by simp)⟩

/-- The second pass and the stamps leave the endpoints alone. -/
theorem anchored_stamp (ids : List String) :
    (stamp_patch p (rederive_layers u ids)).Anchored ↔ u.Anchored := by
  have hnodes : (stamp_patch p (rederive_layers u ids)).nodes = u.nodes := by
    obtain ⟨edges, h⟩ := rederive_layers_frame (s := u) ids
    rw [h]
    rfl
  have hends (k : String) (e : Edge) (he : u.edges.get? k = some e) :
      ∃ e', (stamp_patch p (rederive_layers u ids)).edges.get? k = some e' ∧
        [e'.source, e'.target] = [e.source, e.target] := by
    show ∃ e', (rederive_layers u ids).edges.get? k = some e' ∧ _
    rw [rederive_layers_get?, he]
    split_ifs
    · exact ⟨_, rfl, rfl⟩
    · exact ⟨e, rfl, rfl⟩
  rw [GraphState.anchored_iff, GraphState.anchored_iff, hnodes]
  constructor
  · intro h k e he x hx
    obtain ⟨e', he', heq⟩ := hends k e he
    exact h k e' he' x (heq ▸ hx)
  · intro h k e' he' x hx
    cases he : u.edges.get? k with
    | none =>
      have : (rederive_layers u ids).edges.get? k = some e' := he'
      rw [rederive_layers_get?, he] at this
      simp at this
    | some e =>
      obtain ⟨e'', he'', heq⟩ := hends k e he
      obtain rfl := Option.some.inj (he''.symm.trans he')
      exact h k e he x (heq ▸ hx)

/-- No operation writes an edge that stays to the end to a node which an earlier
    operation of the Patch created and removed again, unless a later one creates
    that node. -/
def NoStrandedEdge (s : GraphState) (p : Patch) : Prop :=
  ∀ k e (a : WriteAt p s p.ops k e), Survives a.post k e → ∀ x ∈ [e.source, e.target],
    x ∈ (created_nodes_of a.pre).map (·.node.id) →
      a.after.nodes.contains x = true ∨ x ∈ (created_nodes_of a.post).map (·.node.id)

variable [TextLibrary] {scope : List String} {settings : ValidationSettings}
  {binding : ExperimentBinding}

omit [TextLibrary] in
theorem node_type_known (ctx : OpContext) {x : String} (href : ctx.reference_patch = none)
    (h : (ctx.node_type x).isSome) :
    ctx.state.nodes.contains x = true ∨ x ∈ created_node_ids ctx.patch := by
  unfold OpContext.node_type at h
  cases hx : ctx.state.nodes.get? x with
  | some n => exact Or.inl (by simp [hx])
  | none =>
    simp only [hx, created_node_type, Option.isSome_map, List.find?_isSome,
      OpContext.context_ops, href, Option.map_none, Option.getD_none, List.append_nil] at h
    obtain ⟨raw, hraw, hid⟩ := h
    exact Or.inr (List.mem_map.mpr ⟨raw, hraw, by simpa using hid⟩)

/-- The rules know both endpoints of every edge an operation writes. -/
theorem written_endpoints_known {vp : ProposalRule} {ctx : OpContext} {op : GraphOperation}
    (href : ctx.reference_patch = none)
    (h : JudgedAt vp ctx u op) (he : WrittenBy ctx.patch u op e) :
    ∀ x ∈ [e.source, e.target],
      u.nodes.contains x = true ∨ x ∈ created_node_ids ctx.patch := by
  obtain ⟨time, repositories, cited, hrule⟩ := h.structural
  cases op <;> simp only [WrittenBy] at he
  case create_edges edges =>
    obtain ⟨raw, hraw, e₀, he₀, rfl⟩ := he
    simp only [structural_validate, validate_create_edges, Check.passes_bind] at hrule
    obtain ⟨seen, hthread, -⟩ := hrule
    obtain ⟨_, _, hedge⟩ := Check.passes_thread_mem hthread hraw
    simp only [validate_created_edge, Check.passes_bind, Check.exists_unit, Check.passes_when,
      passes_reject, imp_false, not_and, not_not] at hedge
    obtain ⟨hsource, htarget, -⟩ := hedge
    obtain ⟨-, -, hs, ht, -⟩ := validated_edge_ok he₀
    have hknown {x : String} (hx : ¬ u.nodes.contains x = true →
        (created_node_ids ctx.patch).contains x = true) :
        u.nodes.contains x = true ∨ x ∈ created_node_ids ctx.patch := by
      by_cases hc : u.nodes.contains x = true
      · exact Or.inl hc
      · exact Or.inr (List.contains_iff_mem.mp (hx hc))
    -- both ends of the written edge are those of the raw one
    intro x hx
    simp only [with_derived_layer, hs, ht, List.mem_cons, List.not_mem_nil, or_false] at hx
    rcases hx with rfl | rfl
    · exact hknown hsource
    · exact hknown htarget
  case supersede_nodes nodes =>
    obtain ⟨item, hitem, target, htarget, rfl⟩ := he
    obtain ⟨hby, hne⟩ := Option.filter_eq_some_iff.mp htarget
    simp only [structural_validate, passes_citing_none, validate_supersede_nodes,
      Check.passes_forEach] at hrule
    have hrule := hrule.1 item hitem
    simp only [validate_superseded_node, hby, Check.passes_bind, Check.exists_unit,
      Check.passes_when, passes_reject, imp_false, not_not] at hrule
    obtain ⟨hsource, hknown, -⟩ := hrule
    intro x hx
    simp only [lifecycle_edge, List.mem_cons, List.not_mem_nil, or_false] at hx
    rcases hx with rfl | rfl
    · exact Or.inl hsource
    · -- an unknown successor is refused, unless the Patch creates it
      by_contra hcon
      push Not at hcon
      refine hknown ⟨by simpa using hne, hcon.1, ?_, ?_⟩
      · exact fun hc => hcon.2 (List.contains_iff_mem.mp hc)
      · rw [Option.isNone_iff_eq_none, ← Option.not_isSome_iff_eq_none]
        intro hsome
        rcases node_type_known { ctx with state := u.with_refresh time, repositories }
          href hsome with hc | hc
        · exact hcon.1 hc
        · exact hcon.2 hc
  case merge_nodes merges =>
    obtain ⟨item, hitem, rfl⟩ := he
    simp only [structural_validate, passes_citing_none, validate_merge_nodes,
      Check.passes_forEach] at hrule
    have hrule := hrule.1 item hitem
    simp only [validate_merged_node, Check.passes_bind, Check.exists_unit,
      Check.passes_when, passes_reject, imp_false, not_not] at hrule
    obtain ⟨hsource, hknown, -⟩ := hrule
    intro x hx
    simp only [lifecycle_edge, List.mem_cons, List.not_mem_nil, or_false] at hx
    rcases hx with rfl | rfl
    · exact Or.inl hsource
    · by_cases hc : u.nodes.contains item.canonical = true
      · exact Or.inl hc
      · have hsome : ({ ctx with state := u.with_refresh time, repositories } :
            OpContext).node_type item.canonical |>.isSome := by
          rw [Option.isSome_iff_ne_none]
          exact fun hnone => hknown ⟨hc, Option.isNone_iff_eq_none.mpr hnone⟩
        exact node_type_known { ctx with state := u.with_refresh time, repositories } href hsome

/-- An edge that was written and stays has an endpoint at the end, unless it is
    stranded there. -/
theorem AdmittedRun.endpoint_present {final : GraphState}
    (h : AdmittedRun s p scope settings binding final) (a : WriteAt p s p.ops k e)
    (ha : Survives a.post k e) {x : String} (hx : x ∈ [e.source, e.target])
    (hstranded : x ∈ (created_nodes_of a.pre).map (·.node.id) →
      a.after.nodes.contains x = true ∨ x ∈ (created_nodes_of a.post).map (·.node.id)) :
    final.nodes.contains x = true := by
  refine run_node_present (a.run_post h.run) ?_ (ha.not_removed hx)
  have hjudged := h.judged a.pre a.op a.post a.before a.split a.run
  have hafter : a.before.nodes.contains x = true → a.after.nodes.contains x = true :=
    fun hb => run_node_present (foldlM_cons_ok.mpr ⟨a.after, a.applied, rfl⟩)
      (Or.inl hb) (by
        intro op hop hremoved
        obtain rfl := List.mem_singleton.mp hop
        rw [removed_nodes_of_written a.written] at hremoved
        cases hremoved)
  rcases written_endpoints_known rfl hjudged a.writtenBy x hx with hb | hcreated
  · exact Or.inl (hafter hb)
  · have hsplit : x ∈ (created_nodes_of a.pre).map (·.node.id) ∨
        x ∈ a.op.created_nodes.map (·.node.id) ∨
        x ∈ (created_nodes_of a.post).map (·.node.id) := by
      have : x ∈ (created_nodes_of p.ops).map (·.node.id) := hcreated
      rw [a.split] at this
      simpa [created_nodes_of, List.flatMap_append, or_assoc] using this
    rcases hsplit with hpre | hop | hpost
    · exact hstranded hpre
    · rw [created_nodes_of_written a.written] at hop
      cases hop
    · exact Or.inr hpost

/-- A Patch without stranded edges is what keeps every edge anchored. -/
theorem anchored_run_iff {final : GraphState} (h : AdmittedRun s p scope settings binding final)
    (hs : s.Anchored) : final.Anchored ↔ NoStrandedEdge s p := by
  rw [GraphState.anchored_iff]
  constructor
  · -- an edge stranded to the end would dangle
    intro hfinal k e a ha x hx hcreated
    by_contra hcon
    push Not at hcon
    have habsent := run_node_absent (a.run_post h.run)
      (Table.contains_eq_false_iff.mp (Bool.eq_false_iff.mpr hcon.1)) hcon.2
    have hpresent := hfinal k e (a.stored_at_end ha h.run) x hx
    rw [Table.contains_eq_false_iff.mpr habsent] at hpresent
    cases hpresent
  · intro hstranded k e he x hx
    rcases edge_provenance h.run he with ⟨hold, hkeep⟩ | ⟨a, ha⟩
    · -- an edge from before: its endpoints were there and no operation removed them
      refine run_node_present h.run (Or.inl ?_) (hkeep.not_removed hx)
      exact GraphState.anchored_iff.mp hs k e hold x hx
    · exact h.endpoint_present a ha hx (hstranded k e a ha x hx)

variable [Canonical]

theorem Commits.anchored_iff (h : Commits s p t) (hs : s.Anchored) :
    t.Anchored ↔ NoStrandedEdge s p := by
  obtain ⟨scope, settings, binding, hadmitted, happly⟩ := h
  obtain ⟨final, hrun⟩ := hadmitted.run
  obtain rfl := Except.ok.inj (hrun.applied.symm.trans happly)
  rw [anchored_stamp, anchored_run_iff hrun hs]

/-- Edges dangle exactly when a Patch strands one, and never along a run of
    Patches that strand none. -/
theorem no_dangling_edge_iff :
    (∀ s p t, Commits s p t → s.Anchored → (t.Anchored ↔ NoStrandedEdge s p)) ∧
      ∀ t, Relation.ReflTransGen (fun s t => ∃ p, Commits s p t ∧ NoStrandedEdge s p) {} t →
        t.Anchored := by
  refine ⟨fun s p t h hs => h.anchored_iff hs, fun t hrun => ?_⟩
  induction hrun with
  | refl => intro e he; cases he
  | tail _ hstep ih =>
    obtain ⟨p, hcommit, hp⟩ := hstep
    exact (hcommit.anchored_iff ih).mpr hp

end

open scoped Reference

/-- A question and the blocker it waits for, in one Patch. -/
def blocked_question_patch : Patch := Reference.agent_patch 1 [
  .create_nodes [Reference.question "rq/a", Reference.blocker "blk/b"],
  .create_edges [{ source := "rq/a", target := "blk/b", relation := "blocked_by" }]]

/-- The blocked question commits, strands nothing and dangles nowhere. -/
theorem blocked_question_anchored :
    let t := Reference.result (apply_valid_patch {} blocked_question_patch)
    Commits {} blocked_question_patch t ∧ t.edges.items ≠ [] ∧
      NoStrandedEdge {} blocked_question_patch ∧ t.Anchored := by
  intro t
  have hcommit : Commits {} blocked_question_patch t :=
    ⟨["main"], {}, {}, by decide, Reference.eq_ok_result (by decide)⟩
  have hstranded : NoStrandedEdge {} blocked_question_patch :=
    (no_dangling_edge_iff.1 {} _ t hcommit (by decide)).mp (by decide)
  exact ⟨hcommit, by decide, hstranded, no_dangling_edge_iff.2 t (.single ⟨_, hcommit, hstranded⟩)⟩

/-- The blocker is removed between its creation and the edge. -/
def stranded_edge_patch : Patch := Reference.agent_patch 1 [
  .create_nodes [Reference.question "rq/a", Reference.blocker "blk/b"],
  .remove_nodes ["blk/b"],
  .create_edges [{ source := "rq/a", target := "blk/b", relation := "blocked_by" }]]

/-- From the empty graph, one admitted Patch leaves a dangling edge. -/
theorem stranded_edge_dangles :
    Admitted {} stranded_edge_patch ["main"] {} ∧ ({} : GraphState).Anchored ∧
      ∃ t, apply_valid_patch {} stranded_edge_patch = .ok t ∧ ¬ t.Anchored :=
  ⟨by decide, by decide, _, Reference.eq_ok_result (by decide), by decide⟩

end ResearchGraph
