import ResearchGraph.Judged
import ResearchGraph.Provenance
import ResearchGraph.Reference
import ResearchGraph.Timeline

/-! # Staging and whole-Patch application

    A committed Patch derives the layers of the edges it wrote once more when
    every operation is done; one-at-a-time staging has no such pass.  The two
    agree unless an edge was written before its endpoints and the endpoints
    created later give it another layer than its relation declares.
-/

namespace ResearchGraph

open Lib

section

variable {p : Patch} {s t u : GraphState} {k : String} {e : Edge}

/-- Fold `apply_valid_operation` over the operations, then set the revision. -/
def staged_patch (s : GraphState) (p : Patch) : Applied GraphState := do
  let t ← p.ops.foldlM (fun t op => apply_valid_operation t p op) s
  return { t with revision := p.revision }

/-- An edge written before its endpoints, still there at the end, whose layer is
    not the one the endpoints created later give. -/
def LateLayer (s : GraphState) (p : Patch) : Prop :=
  ∃ k e, ∃ a : WriteAt p s p.ops k e, (∃ edges, a.op = .create_edges edges) ∧
    Survives a.post k e ∧
    ¬ (a.before.nodes.contains e.source = true ∧ a.before.nodes.contains e.target = true) ∧
    ∃ source target, endpoint_type a.before a.post e.source = some source ∧
      endpoint_type a.before a.post e.target = some target ∧ e.layer ≠ .«meta» ∧
      layer_between source target ≠ e.layer

/-! ### The staged run -/

/-- The refresh time after staging some operations one at a time. -/
def staged_refresh (p : Patch) (s : GraphState) (ops : List GraphOperation) : Option Datetime :=
  if ops = [] then s.last_refresh_at else refresh_time p s

theorem refresh_time_idem (time : Option Datetime) (h : time = s.last_refresh_at ∨
    time = refresh_time p s) (hs : u.last_refresh_at = time) :
    refresh_time p u = refresh_time p s := by
  unfold refresh_time at *
  split_ifs at * <;> rcases h with h | h <;> simp_all

theorem staged_run_ok (htrace : p.transition = none) {ops : List GraphOperation} :
    ops.foldlM (fun t op => apply_valid_operation t p op) s = .ok t ↔
      ∃ u, run_operations p s ops = .ok u ∧ t = u.with_refresh (staged_refresh p s ops) := by
  induction ops generalizing s with
  | nil =>
    simp only [foldlM_nil_ok, run_operations, staged_refresh, if_true]
    constructor
    · rintro rfl
      exact ⟨s, rfl, rfl⟩
    · rintro ⟨u, rfl, rfl⟩
      rfl
  | cons op ops ih =>
    simp only [foldlM_cons_ok, run_operations, apply_valid_operation_ok htrace]
    have hstamp (v : GraphState) (hv : apply_operation p false s op = .ok v) :
        staged_refresh p (v.with_refresh (refresh_time p v)) ops
          = staged_refresh p s (op :: ops) := by
      have htime : refresh_time p v = refresh_time p s :=
        refresh_time_idem s.last_refresh_at (Or.inl rfl) (apply_operation_refresh hv)
      unfold staged_refresh
      rw [if_neg (List.cons_ne_nil op ops)]
      split_ifs
      · exact htime
      · rw [refresh_time_idem (refresh_time p s) (Or.inr rfl) htime]
    constructor
    · rintro ⟨_, ⟨v, hv, rfl⟩, hrest⟩
      obtain ⟨u, hu, rfl⟩ := ih.mp hrest
      refine ⟨u.with_refresh v.last_refresh_at, ⟨v, hv, ?_⟩, ?_⟩
      · exact run_with_refresh hu v.last_refresh_at
      · rw [hstamp v hv]
        rfl
    · rintro ⟨u, ⟨v, hv, hu⟩, rfl⟩
      refine ⟨_, ⟨v, hv, rfl⟩, ih.mpr ⟨u.with_refresh (refresh_time p v), ?_, ?_⟩⟩
      · exact run_with_refresh hu (refresh_time p v)
      · rw [hstamp v hv]
        rfl

/-- Every edge the Patch wrote has the layer its endpoints give at the end. -/
def Settled (u : GraphState) (ids : List String) : Prop :=
  ∀ k ∈ ids, ∀ e, u.edges.get? k = some e → with_derived_layer u e = e

theorem settled_iff {ids : List String} : Settled u ids ↔ rederive_layers u ids = u := by
  constructor
  · exact rederive_layers_settled
  · intro h k hk e he
    have hget := rederive_layers_get? (s := u) ids k
    rw [h, he, if_pos hk] at hget
    exact (Option.some.inj hget).symm

/-- The two applications differ in the second pass and in the refresh time of an
    empty Patch. -/
theorem staged_patch_eq_iff (htrace : p.transition = none) (hrev : s.revision < p.revision)
    (hrun : run_operations p s p.ops = .ok u) :
    staged_patch s p = apply_valid_patch s p ↔
      Settled u (stored_edge_ids p.ops) ∧ (p.ops ≠ [] ∨ refresh_time p s = s.last_refresh_at) := by
  have hstaged : staged_patch s p
      = .ok { u with revision := p.revision, last_refresh_at := staged_refresh p s p.ops } := by
    rw [staged_patch, (staged_run_ok htrace).mpr ⟨u, hrun, rfl⟩]
    rfl
  have hwhole := (apply_valid_patch_ok htrace).mpr ⟨u, hrun, rfl⟩
  have hmax : max u.revision p.revision = p.revision := by
    rw [run_revision hrun]
    exact max_eq_right hrev.le
  have htime : (if p.kind = .seed ∨ p.kind = .refresh then some p.created_at
      else u.last_refresh_at) = refresh_time p s := by
    rw [run_refresh hrun]
    rfl
  obtain ⟨edges, hframe⟩ := rederive_layers_frame (s := u) (stored_edge_ids p.ops)
  rw [hstaged, hwhole, Except.ok.injEq, hframe, settled_iff, hframe]
  simp only [stamp_patch, hmax, htime]
  have hrefresh : staged_refresh p s p.ops = refresh_time p s ↔
      (p.ops ≠ [] ∨ refresh_time p s = s.last_refresh_at) := by
    unfold staged_refresh
    by_cases hops : p.ops = []
    · simp [hops, eq_comm]
    · simp [hops]
  rw [← hrefresh]
  constructor
  · intro h
    have hedges := congrArg GraphState.edges h
    have hlast := congrArg GraphState.last_refresh_at h
    simp only at hedges hlast
    exact ⟨by rw [← hedges], hlast⟩
  · rintro ⟨hedges, hlast⟩
    have hedges := congrArg GraphState.edges hedges
    simp only at hedges
    rw [hedges, hlast]

/-! ### When layers are settled -/

theorem edge_layer_of_types (source target : String) (layer : RelationLayer) :
    edge_layer u source target layer = if layer = .«meta» then layer else
      match (u.nodes.get? source).map Node.type, (u.nodes.get? target).map Node.type with
      | some τ, some τ' => layer_between τ τ'
      | _, _ => layer := by
  unfold edge_layer
  cases u.nodes.get? source <;> cases u.nodes.get? target <;> rfl

variable [TextLibrary] {scope : List String} {settings : ValidationSettings}
  {binding : ExperimentBinding} {final : GraphState}

/-- A node that stays is not created a second time. -/
theorem AdmittedRun.not_recreated (h : AdmittedRun s p scope settings binding final)
    {pre post : List GraphOperation} {v : GraphState} (hsplit : p.ops = pre ++ post)
    (hrun : run_operations p s pre = .ok v) {x : String} (hx : v.nodes.contains x = true)
    (hkeep : ∀ op ∈ post, x ∉ removed_nodes op) :
    x ∉ (created_nodes_of post).map (·.node.id) := by
  intro hcreated
  obtain ⟨raw, hraw, rfl⟩ := List.mem_map.mp hcreated
  obtain ⟨op, hop, hmem⟩ := List.mem_flatMap.mp hraw
  obtain ⟨post₁, post₂, rfl⟩ := List.append_of_mem hop
  -- the graph right before the second creation still holds the node
  have hall := h.run
  rw [hsplit, ← List.append_assoc] at hall
  obtain ⟨w, hw, -⟩ := foldlM_append_ok.mp hall
  obtain ⟨v', hv', hpost⟩ := foldlM_append_ok.mp hw
  obtain rfl := Except.ok.inj (hrun.symm.trans hv')
  have hpresent := run_node_present hpost (Or.inl hx)
    (fun op' hop' => hkeep op' (List.mem_append_left _ hop'))
  have hjudged := h.judged (pre ++ post₁) op post₂ w (by rw [hsplit, List.append_assoc]) hw
  cases op <;> simp only [GraphOperation.created_nodes, List.not_mem_nil] at hmem
  rw [judged_nodes_fresh hjudged hmem] at hpresent
  cases hpresent

/-- The final type of an endpoint that was there when its edge was written. -/
theorem AdmittedRun.endpoint_type_kept (h : AdmittedRun s p scope settings binding final)
    (a : WriteAt p s p.ops k e) {x : String} (hx : a.before.nodes.contains x = true)
    (hop : x ∉ removed_nodes a.op) (hkeep : ∀ op ∈ a.post, x ∉ removed_nodes op) :
    endpoint_type a.before a.post x = (a.before.nodes.get? x).map Node.type := by
  have hnot := h.not_recreated a.split a.run hx (by
    intro op hmem
    rcases List.mem_cons.mp hmem with rfl | hmem
    · exact hop
    · exact hkeep op hmem)
  have hlast : last_created_type a.post x = none := by
    rw [← Option.not_isSome_iff_eq_none, last_created_type_isSome]
    intro hmem
    refine hnot ?_
    simp only [created_nodes_of, List.flatMap_cons, List.map_append, List.mem_append]
    exact Or.inr hmem
  rw [endpoint_type, hlast, Option.none_or]

theorem AdmittedRun.settled_iff (h : AdmittedRun s p scope settings binding final) :
    Settled final (stored_edge_ids p.ops) ↔ ¬ LateLayer s p := by
  have hnoremove {k : String} {e : Edge} (a : WriteAt p s p.ops k e) (x : String) :
      x ∉ removed_nodes a.op := by
    rw [removed_nodes_of_written a.written]
    exact List.not_mem_nil
  have htypes {k : String} {e : Edge} (a : WriteAt p s p.ops k e) (ha : Survives a.post k e)
      {x : String} (hx : x ∈ [e.source, e.target]) (hcreate : a.op.created_nodes = []) :
      (final.nodes.get? x).map Node.type = endpoint_type a.before a.post x := by
    have hop := operation_node_type a.applied (hnoremove a x)
    rw [run_node_type (a.run_post h.run) (ha.not_removed hx), endpoint_type, hop]
    simp [endpoint_type, last_created_type, created_nodes_of, hcreate]
  constructor
  · rintro hsettled ⟨k, e, a, ⟨edges, hedges⟩, ha, -, τ, τ', hτ, hτ', hmeta, hne⟩
    have hcreate : a.op.created_nodes = [] := by rw [hedges]; rfl
    have hk : k ∈ stored_edge_ids p.ops := by
      refine stored_edge_ids_mem.mpr ⟨edges, ?_, ?_⟩
      · rw [a.split, ← hedges]
        simp
      · have := a.written
        rwa [hedges] at this
    have hlayer := congrArg Edge.layer (hsettled k hk e (a.stored_at_end ha h.run))
    simp only [with_derived_layer, edge_layer_of_types, if_neg hmeta,
      htypes a ha (by simp : e.source ∈ [e.source, e.target]) hcreate,
      htypes a ha (by simp : e.target ∈ [e.source, e.target]) hcreate, hτ, hτ'] at hlayer
    exact hne hlayer
  · intro hlate k hk e he
    suffices hlayer : edge_layer final e.source e.target e.layer = e.layer by
      simp only [with_derived_layer, hlayer]
    by_cases hmeta : e.layer = .«meta»
    · simp [edge_layer, hmeta]
    obtain ⟨edges, hedges, hid⟩ := stored_edge_ids_mem.mp hk
    rcases edge_provenance h.run he with ⟨-, hkeep⟩ | ⟨a, ha⟩
    · exact absurd (Or.inl hid) (hkeep _ hedges)
    · have hwritten := a.writtenBy
      cases hop : a.op <;> simp only [WrittenBy, hop] at hwritten
      case create_edges edges' =>
        have hcreate : a.op.created_nodes = [] := by rw [hop]; rfl
        have hsource := htypes a ha (by simp : e.source ∈ [e.source, e.target]) hcreate
        have htarget := htypes a ha (by simp : e.target ∈ [e.source, e.target]) hcreate
        obtain ⟨raw, -, e₀, -, he₀⟩ := hwritten
        rw [edge_layer_of_types, if_neg hmeta, hsource, htarget]
        by_cases hboth : a.before.nodes.contains e.source = true ∧
            a.before.nodes.contains e.target = true
        · -- both endpoints were there: the edge was stored with their layer
          rw [h.endpoint_type_kept a hboth.1 (hnoremove a _) (ha.not_removed (by simp)),
            h.endpoint_type_kept a hboth.2 (hnoremove a _) (ha.not_removed (by simp))]
          have hstored : edge_layer a.before e.source e.target e.layer = e.layer := by
            have hderived : with_derived_layer a.before e = e :=
              (congrArg _ he₀).trans ((with_derived_layer_idem e₀).trans he₀.symm)
            exact congrArg Edge.layer hderived
          rw [edge_layer_of_types, if_neg hmeta] at hstored
          exact hstored
        · cases hτ : endpoint_type a.before a.post e.source with
          | none => rfl
          | some τ =>
            cases hτ' : endpoint_type a.before a.post e.target with
            | none => rfl
            | some τ' =>
              by_contra hne
              exact hlate ⟨k, e, a, ⟨edges', hop⟩, ha, hboth, τ, τ', hτ, hτ', hmeta, hne⟩
      case supersede_nodes nodes =>
        obtain ⟨item, -, target, -, rfl⟩ := hwritten
        exact absurd rfl hmeta
      case merge_nodes merges =>
        obtain ⟨item, -, rfl⟩ := hwritten
        exact absurd rfl hmeta

/-! ### The replay-equivalence check of a transition -/

omit [TextLibrary] in
/-- Updates of nodes do not move layers. -/
theorem settled_after_updates (xs : List GraphOperation) {gens : List GraphOperation}
    (hgens : ∀ op ∈ gens, IsUpdate op)
    {v : GraphState} (h : gens.foldlM (apply_operation p true) u = .ok v) :
    Settled v (stored_edge_ids (xs ++ gens)) ↔ Settled u (stored_edge_ids xs) := by
  have hedges : v.edges = u.edges := by
    refine foldlM_frame GraphState.edges h (fun op hop a b hab => ?_)
    obtain ⟨updates, rfl⟩ := hgens op hop
    exact apply_operation_frame GraphState.edges hab (fun _ _ hw => by cases hw; rfl)
  have htypes (x : String) : (v.nodes.get? x).map Node.type = (u.nodes.get? x).map Node.type := by
    refine foldlM_frame (fun a : GraphState => (a.nodes.get? x).map Node.type) h
      (fun op hop a b hab => ?_)
    obtain ⟨updates, rfl⟩ := hgens op hop
    exact apply_operation_frame (fun a => (a.nodes.get? x).map Node.type) hab
      (fun _ _ hw => write_keeps_type hw rfl (by simp [removed_nodes]))
  have hlayer (e : Edge) : with_derived_layer v e = with_derived_layer u e := by
    simp only [with_derived_layer, edge_layer_of_types, htypes]
  have hids (k : String) : k ∈ stored_edge_ids (xs ++ gens) ↔ k ∈ stored_edge_ids xs := by
    simp only [stored_edge_ids_mem, List.mem_append]
    constructor
    · rintro ⟨edges, hmem | hmem, hk⟩
      · exact ⟨edges, hmem, hk⟩
      · obtain ⟨updates, hop⟩ := hgens _ hmem
        cases hop
    · rintro ⟨edges, hmem, hk⟩
      exact ⟨edges, Or.inl hmem, hk⟩
  simp only [Settled, hids, hedges, hlayer]

variable [Canonical]

omit [TextLibrary] in
/-- The check of a one-Patch transition compares exactly the second pass. -/
theorem replay_equivalence_iff (htrace : p.transition = none) (hrev : s.revision < p.revision)
    (hops : p.ops ≠ []) (hrun : run_operations p s p.ops = .ok u) {head : GraphHeadRef} {n : Nat}
    {c : Closure} {combined : Patch} {persisted : GraphState}
    (hclosure : transition_closure s p [p] n = .ok c)
    (hcombined : combined_patch p [p] (expanded_operations [p] c) (transition_trace head [p] c)
      = .ok combined) (happly : apply_valid_patch s combined = .ok persisted) :
    persisted.same c.final = true ↔ Settled u (stored_edge_ids p.ops) := by
  have hactions : source_actions [p] = p.ops.map (fun op => (p, op)) := by
    simp [source_actions]
  have hexpanded : (source_actions [p]).map Prod.snd = p.ops := by
    rw [hactions, List.map_map]
    exact List.map_id _
  obtain ⟨t, htimeline, hgen, hgenerated⟩ := transition_closure_ok hclosure
  -- the initiating run ends at `u` with the stamps of the transition
  have ht : t = u.restamped p.revision (refresh_time p s) := by
    obtain ⟨final, hsteps, rfl⟩ := apply_timeline_ok.mp htimeline
    have hfinal := timeline_final hsteps
    rw [hactions, List.foldlM_map] at hfinal
    obtain ⟨u', hu', rfl⟩ := (staged_run_ok htrace).mp hfinal
    obtain rfl := Except.ok.inj (hrun.symm.trans hu')
    rw [staged_refresh, if_neg hops, hactions]
    cases hp : p.ops with
    | nil => exact absurd hp hops
    | cons op ops => rfl
  -- so does the generated run, at some `v`
  have hupdates := Closure.generated_updates hgen
  have hfinal := generated_final hgenerated
  rw [ht] at hfinal
  obtain ⟨v, hv, hlast⟩ := generated_run_restamped hupdates (fun a ha =>
    refresh_time_idem (refresh_time p s) (Or.inr rfl) ha) hfinal
  -- the combined Patch makes both runs and the second pass
  obtain ⟨cursors, -, hq⟩ := combined_patch_ok hcombined
  have hw : combined.writer = p.writer := by rw [hq]; rfl
  have hcops : combined.ops = p.ops ++ c.generated_operations.map Prod.fst := by
    rw [hq, ← hexpanded]
    rfl
  have hctrace : combined.transition = some (transition_trace head [p] c) := by rw [hq]
  have hrefs : (transition_trace head [p] c).generated_actions
      = generated_refs p.ops.length (c.generated_operations.map Prod.snd) := by
    simp only [transition_trace, hexpanded]
  obtain ⟨u', v', hu', hv', rfl⟩ := (apply_combined_ok p.ops
    (c.generated_operations.map Prod.fst) hcops hctrace hrefs (by simp) hw).mp happly
  obtain rfl := Except.ok.inj (hrun.symm.trans hu')
  obtain rfl := Except.ok.inj (hv.symm.trans hv')
  rw [← settled_after_updates p.ops hupdates hv, settled_iff, hlast]
  obtain ⟨edges, hframe⟩ := rederive_layers_frame (s := v)
    (stored_edge_ids (p.ops ++ c.generated_operations.map Prod.fst))
  have hvrev : v.revision = s.revision :=
    (foldlM_frame GraphState.revision hv
      (fun _ _ _ _ hab => apply_operation_revision hab)).trans (run_revision hrun)
  have hvlast : v.last_refresh_at = s.last_refresh_at :=
    (foldlM_frame GraphState.last_refresh_at hv
      (fun _ _ _ _ hab => apply_operation_refresh hab)).trans (run_refresh hrun)
  have hmax : max s.revision p.revision = p.revision := max_eq_right hrev.le
  have htime : (if p.kind = .seed ∨ p.kind = .refresh then some p.created_at
      else s.last_refresh_at) = refresh_time p s := rfl
  rw [hframe, hq]
  simp only [GraphState.same, stamp_patch, GraphState.restamped, hvrev, hvlast, hmax, htime,
    same_time_refl, Bool.true_and, beq_iff_eq]
  constructor
  · intro h
    have hedges := congrArg GraphState.edges h
    simp only at hedges
    rw [hedges, ← hvrev, ← hvlast]
  · intro h
    have hedges := congrArg GraphState.edges h
    simp only at hedges
    rw [hedges]

/-- Staging and whole application of an admitted Patch agree exactly when no late
    edge changes its layer (and, for a Patch without operations, when it does
    not move the refresh time).  The same condition decides the
    replay-equivalence check when the Patch is prepared as a transition. -/
theorem staging_agrees_iff (h : Admitted s p scope settings binding)
    (hrev : p.revision = s.revision + 1) :
    (staged_patch s p = apply_valid_patch s p ↔
      ¬ LateLayer s p ∧ (p.ops ≠ [] ∨ refresh_time p s = s.last_refresh_at)) ∧
    ∀ head n c combined persisted, p.ops ≠ [] → transition_closure s p [p] n = .ok c →
      combined_patch p [p] (expanded_operations [p] c) (transition_trace head [p] c)
        = .ok combined → apply_valid_patch s combined = .ok persisted →
      (persisted.same c.final = true ↔ ¬ LateLayer s p) := by
  obtain ⟨final, hrun⟩ := h.run
  have hlt : s.revision < p.revision := by omega
  refine ⟨?_, ?_⟩
  · rw [staged_patch_eq_iff hrun.untraced hlt hrun.run, hrun.settled_iff]
  · intro head n c combined persisted hops hclosure hcombined happly
    rw [replay_equivalence_iff hrun.untraced hlt hops hrun.run hclosure hcombined happly,
      hrun.settled_iff]

end

open scoped Reference

/-- The edge of the blocked question is written after both its endpoints. -/
def ordered_edge_patch : Patch := Reference.agent_patch 1 [
  .create_nodes [Reference.question "rq/a", Reference.blocker "blk/b"],
  .create_edges [{ source := "rq/a", target := "blk/b", relation := "blocked_by" }]]

/-- The edge of the blocked question is written before its endpoints. -/
def late_edge_patch : Patch := Reference.agent_patch 1 [
  .create_edges [{ source := "rq/a", target := "blk/b", relation := "blocked_by" }],
  .create_nodes [Reference.question "rq/a", Reference.blocker "blk/b"]]

/-- In order, staging and whole application agree and no layer is late. -/
theorem ordered_edge_agrees :
    Admitted {} ordered_edge_patch ["main"] {} ∧
      staged_patch {} ordered_edge_patch = apply_valid_patch {} ordered_edge_patch ∧
      ¬ LateLayer {} ordered_edge_patch := by
  have hadmitted : Admitted {} ordered_edge_patch ["main"] {} := by decide
  have hagree : staged_patch {} ordered_edge_patch = apply_valid_patch {} ordered_edge_patch := by
    rw [Reference.eq_ok_result (x := staged_patch {} ordered_edge_patch) (by decide),
      Reference.eq_ok_result (x := apply_valid_patch {} ordered_edge_patch) (by decide)]
    exact congrArg _ (by decide)
  exact ⟨hadmitted, hagree, ((staging_agrees_iff hadmitted rfl).1.mp hagree).1⟩

/-- Out of order, the admitted Patch stages to another graph than it commits, and
    its preparation as a transition fails. -/
theorem late_edge_disagrees :
    Admitted {} late_edge_patch ["main"] {} ∧ late_edge_patch.revision = 0 + 1 ∧
      staged_patch {} late_edge_patch ≠ apply_valid_patch {} late_edge_patch ∧
      (prepare_validated {} [late_edge_patch]).isOk = false := by
  refine ⟨by decide, rfl, ?_, by decide⟩
  rw [Reference.eq_ok_result (x := staged_patch {} late_edge_patch) (by decide),
    Reference.eq_ok_result (x := apply_valid_patch {} late_edge_patch) (by decide)]
  exact fun h => absurd (Except.ok.inj h) (by decide)

end ResearchGraph
