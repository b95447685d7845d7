import ResearchGraph.Layers
import ResearchGraph.Lifecycle
import ResearchGraph.Presence
import ResearchGraph.Stamps

/-! # Staleness is sound

    A Proposal that is not stale is judged against the objects it was written
    against.  What moves them in a later Patch carries a later revision; what
    moves them later in the raising Patch is found by the presence scan.  The
    scan goes by names, so the empty name escapes it, and a layer that is only
    settled at the end of the raising Patch is not a write at all.
-/

namespace ResearchGraph

open Lib

section

variable {p : Patch} {s t u v : GraphState} {op : GraphOperation} {id : String} {q : Proposal}

/-! ### The operation that raised a Proposal -/

/-- One operation of a Patch creates the Proposal `id` and reaches the graph `u`. -/
structure RaisedAt (s : GraphState) (p : Patch) (id : String) (u : GraphState) where
  pre : List GraphOperation
  proposals : List NewProposal
  post : List GraphOperation
  before : GraphState
  split : p.ops = pre ++ .create_proposals proposals :: post
  run : run_operations p s pre = .ok before
  applied : apply_operation p false before (.create_proposals proposals) = .ok u
  created : id ∈ proposals.map (·.id)

/-- What a Proposal names is in `s` as it was in `u`. -/
structure Unmoved (u s : GraphState) (q : Proposal) : Prop where
  nodes : ∀ id ∈ q.related_node_ids, ∀ n, u.nodes.get? id = some n → s.nodes.get? id = some n
  edges : ∀ k ∈ q.related_edge_ids, ∀ e, u.edges.get? k = some e → s.edges.get? k = some e
  ontology : "ontology" ∈ q.related_config_keys → s.ontology = u.ontology
  truth_scope : "project_truth_scope" ∈ q.related_config_keys →
    s.project_truth_scope = u.project_truth_scope
  created_edges : ∀ op ∈ graph_operations_from_proposal q.ops, ∀ k ∈ written_edge_ids op,
    s.edges.get? k = none

theorem created_proposal_stored (proposals : List NewProposal)
    (h : id ∈ proposals.map (·.id)) : ∃ raw ∈ proposals, raw.id = id ∧
      (proposals.foldl (create_proposal p) s).proposals.get? id
        = some (stamped_proposal p s raw) := by
  induction proposals generalizing s with
  | nil => cases h
  | cons x proposals ih =>
    rw [List.foldl_cons]
    by_cases hlater : id ∈ proposals.map (·.id)
    · -- creating a Proposal moves nothing that the next one depends on
      obtain ⟨raw, hraw, hid, hget⟩ := ih hlater (s := create_proposal p s x)
      exact ⟨raw, by simp [hraw], hid, hget⟩
    · have hx : x.id = id := by
        simpa [hlater, eq_comm] using h
      have hrun : apply_operation p false (create_proposal p s x) (.create_proposals proposals)
          = .ok (proposals.foldl (create_proposal p) (create_proposal p s x)) := rfl
      have hkept := proposals_frame hrun hlater
      refine ⟨x, by simp, hx, ?_⟩
      rw [hkept, ← hx]
      exact Table.get?_put_self _ _

/-- The Proposal as its operation stored it. -/
theorem RaisedAt.stored (a : RaisedAt s p id u) : ∃ raw ∈ a.proposals, raw.id = id ∧
    u.proposals.get? id = some (stamped_proposal p a.before raw) := by
  obtain ⟨raw, hraw, hid, hget⟩ := created_proposal_stored (p := p) (s := a.before) _ a.created
  have happlied : a.proposals.foldl (create_proposal p) a.before = u := Except.ok.inj a.applied
  exact ⟨raw, hraw, hid, by rw [← hget, happlied]⟩

theorem RaisedAt.run_through (a : RaisedAt s p id u) :
    run_operations p s (a.pre ++ [.create_proposals a.proposals]) = .ok u :=
  foldlM_append_ok.mpr ⟨a.before, a.run, foldlM_cons_ok.mpr ⟨u, a.applied, rfl⟩⟩

theorem RaisedAt.split_after (a : RaisedAt s p id u) :
    p.ops = (a.pre ++ [.create_proposals a.proposals]) ++ a.post := by
  rw [a.split, List.append_assoc, List.singleton_append]

theorem RaisedAt.run_post (a : RaisedAt s p id u) (h : run_operations p s p.ops = .ok v) :
    run_operations p u a.post = .ok v := by
  rw [a.split_after] at h
  obtain ⟨w, hw, h⟩ := foldlM_append_ok.mp h
  obtain rfl := Except.ok.inj (a.run_through.symm.trans hw)
  exact h

/-- Creating Proposals moves neither nodes nor edges nor settings. -/
theorem RaisedAt.edges_eq (a : RaisedAt s p id u) : u.edges = a.before.edges :=
  apply_operation_frame GraphState.edges a.applied (fun x y hxy => by cases hxy; rfl)

variable [TextLibrary] {scope : List String} {settings : ValidationSettings}
  {binding : ExperimentBinding} {final : GraphState}

/-- No two operations of an admitted Patch create the same Proposal. -/
theorem AdmittedRun.created_once (h : AdmittedRun s p scope settings binding final)
    {pre mid post : List GraphOperation} {xs ys : List NewProposal}
    (hops : p.ops = pre ++ .create_proposals xs :: (mid ++ .create_proposals ys :: post))
    (hxs : id ∈ xs.map (·.id)) : id ∉ ys.map (·.id) := by
  intro hys
  obtain ⟨raw, hraw, rfl⟩ := List.mem_map.mp hys
  have hrun := h.run
  rw [hops] at hrun
  obtain ⟨a, ha, hrun⟩ := foldlM_append_ok.mp hrun
  obtain ⟨b, hb, hrun⟩ := foldlM_cons_ok.mp hrun
  obtain ⟨c, hc, -⟩ := foldlM_append_ok.mp hrun
  -- the Proposal of the first operation is still there before the second
  obtain ⟨q, hq⟩ : ∃ q, b.proposals.get? raw.id = some q := by
    obtain ⟨x, -, -, hget⟩ := created_proposal_stored (p := p) (s := a) xs hxs
    exact ⟨_, by rw [← Except.ok.inj hb]; exact hget⟩
  have hbrun : run_operations p s (pre ++ [.create_proposals xs]) = .ok b :=
    foldlM_append_ok.mpr ⟨a, ha, foldlM_cons_ok.mpr ⟨b, hb, rfl⟩⟩
  have hcrun : run_operations p s (pre ++ .create_proposals xs :: mid) = .ok c :=
    foldlM_append_ok.mpr ⟨a, ha, foldlM_cons_ok.mpr ⟨b, hb, hc⟩⟩
  have hjudged := h.judged (pre ++ .create_proposals xs :: mid) (.create_proposals ys) post c
    (by simp [hops]) hcrun
  have hnone := (judged_proposals_fresh hjudged rfl).1 raw hraw
  have hsplit : p.ops = (pre ++ [.create_proposals xs])
      ++ (mid ++ .create_proposals ys :: post) := by
    simp [hops]
  obtain ⟨q', hq', -⟩ := h.continues_between hsplit hbrun hc _ q hq
  rw [hnone] at hq'
  cases hq'

omit [TextLibrary] in
theorem mem_proposal_positions {ops : List GraphOperation} {i : Nat}
    (hi : ∃ xs, ops[i]? = some (.create_proposals xs) ∧ id ∈ xs.map (·.id))
    (hall : ∀ j ys, ops[j]? = some (.create_proposals ys) → id ∈ ys.map (·.id) → j = i) :
    (id, i) ∈ proposal_positions ops := by
  refine (List.mem_insertionSort _).mpr
    (Dict.get_eq_some_iff.mp (Dict.get_foldl_set ?_ (Or.inl ?_)))
  · intro j hj
    obtain ⟨⟨op, index⟩, hop, hid⟩ := List.mem_flatMap.mp hj
    cases op <;> simp only [List.not_mem_nil, List.mem_map, Prod.mk.injEq] at hid
    next ys =>
    obtain ⟨raw, hraw, hrawid, rfl⟩ := hid
    exact hall index ys (List.mem_zipIdx_iff_getElem?.mp hop) (List.mem_map.mpr ⟨raw, hraw, hrawid⟩)
  · obtain ⟨xs, hxs, hid⟩ := hi
    obtain ⟨raw, hraw, rfl⟩ := List.mem_map.mp hid
    exact List.mem_flatMap.mpr
      ⟨(.create_proposals xs, i), List.mem_zipIdx_iff_getElem?.mpr hxs,
        List.mem_map.mpr ⟨raw, hraw, rfl⟩⟩

/-- The scan of a raised Proposal starts at the operation that created it. -/
theorem RaisedAt.position (a : RaisedAt s p id u)
    (h : AdmittedRun s p scope settings binding final) :
    (id, a.pre.length) ∈ proposal_positions p.ops := by
  refine mem_proposal_positions ⟨a.proposals, by simp [a.split], a.created⟩ ?_
  intro j ys hj hid
  rw [a.split] at hj
  rcases Nat.lt_trichotomy j a.pre.length with hlt | heq | hgt
  · -- an earlier operation with the same id
    rw [List.getElem?_append_left hlt] at hj
    obtain ⟨pre, mid, hpre⟩ := List.append_of_mem (List.mem_of_getElem? hj)
    have hsplit : p.ops = pre
        ++ .create_proposals ys :: (mid ++ .create_proposals a.proposals :: a.post) := by
      rw [a.split, hpre, List.append_assoc, List.cons_append]
    exact absurd a.created (h.created_once hsplit hid)
  · exact heq
  · -- a later one
    obtain ⟨k, rfl⟩ : ∃ k, j = a.pre.length + (k + 1) := ⟨j - a.pre.length - 1, by omega⟩
    rw [List.getElem?_append_right (by omega), Nat.add_sub_cancel_left,
      List.getElem?_cons_succ] at hj
    obtain ⟨mid, post, hpost⟩ := List.append_of_mem (List.mem_of_getElem? hj)
    have hsplit : p.ops = a.pre
        ++ .create_proposals a.proposals :: (mid ++ .create_proposals ys :: post) := by
      rw [a.split, hpost]
    exact absurd hid (h.created_once hsplit a.created)

/-! ### The rest of the raising Patch -/

/-- What the scan does not find moved later in the raising Patch. -/
structure Unscanned (s : GraphState) (pre post : List GraphOperation) (q : Proposal) : Prop where
  nodes : ∀ id ∈ q.related_node_ids, ∀ op ∈ post, id ∉ changed_nodes op
  edges : ∀ k ∈ q.related_edge_ids, ∀ op ∈ post, k ∈ (created_edges op).map Prod.fst →
    k ∉ (pre.foldl Presence.update (initial_presence s)).edges.keys
  ontology : "ontology" ∈ q.related_config_keys → ∀ op ∈ post, sets_ontology op = false
  truth_scope : "project_truth_scope" ∈ q.related_config_keys →
    ∀ op ∈ post, sets_project_truth_scope op = false

omit [TextLibrary] in
/-- The scan looks at nothing that a resolution rewrites. -/
theorem Unscanned.congr {pre post : List GraphOperation} {q' : Proposal}
    (h : Unscanned s pre post q) (hraised : q'.raised = q.raised) : Unscanned s pre post q' := by
  have hnodes : q'.related_node_ids = q.related_node_ids :=
    (congrArg Proposal.related_node_ids hraised :)
  have hedges : q'.related_edge_ids = q.related_edge_ids :=
    (congrArg Proposal.related_edge_ids hraised :)
  have hconfig : q'.related_config_keys = q.related_config_keys :=
    (congrArg Proposal.related_config_keys hraised :)
  exact ⟨hnodes ▸ h.nodes, hedges ▸ h.edges, hconfig ▸ h.ontology, hconfig ▸ h.truth_scope⟩

omit [TextLibrary] in
theorem unscanned_of_mutations {ctx : OpContext} {pre post : List GraphOperation}
    (hops : ctx.patch.ops = pre ++ op :: post)
    (h : (later_dependency_mutations ctx pre.length q).node_ids
      ++ (later_dependency_mutations ctx pre.length q).edge_ids
      ++ (later_dependency_mutations ctx pre.length q).config_keys = []) :
    Unscanned ctx.initial_state pre post q := by
  have htake : ctx.patch.ops.take pre.length = pre := by rw [hops, List.take_left]
  have hdrop : ctx.patch.ops.drop (pre.length + 1) = post := by
    rw [hops, ← List.drop_drop, List.drop_left, List.drop_one, List.tail_cons]
  simp only [later_dependency_mutations, htake, hdrop, List.append_eq_nil_iff,
    List.filter_eq_nil_iff, ite_eq_right_iff, List.cons_ne_nil, imp_false, not_and,
    decide_eq_true_eq, not_or, List.mem_map, List.mem_flatMap, List.any_eq_true, not_exists] at h
  obtain ⟨⟨hnodes, hedges⟩, hontology, hscope⟩ := h
  refine ⟨fun id hid op hop hchanged => ?_, fun k hk op hop hcreated hpresent => ?_,
    fun hkey op hop => ?_, fun hkey op hop => ?_⟩
  · exact (hnodes id hid).1 op hop hchanged
  · obtain ⟨e, he, rfl⟩ := List.mem_map.mp hcreated
    exact (hedges e.1 hk).2 ⟨e, ⟨op, hop, he⟩, rfl⟩ hpresent
  · exact Bool.eq_false_iff.mpr (hontology hkey op hop)
  · exact Bool.eq_false_iff.mpr (hscope hkey op hop)

theorem RaisedAt.unscanned (a : RaisedAt s p id u)
    (h : AdmittedRun s p scope settings binding final)
    (hq : final.proposals.get? id = some q) : Unscanned s a.pre a.post q := by
  obtain ⟨time, repositories, oldest, hresult⟩ := h.result
  simp only [validate_patch_result, Check.passes_bind, Check.exists_unit,
    validate_created_proposal_liveness, Check.passes_forEach] at hresult
  have hlive := hresult.2.1 _ (a.position h)
  have hget : (final.with_refresh time).proposals.get? id = some q := hq
  simp only [validate_liveness, hget, Check.passes_ite, passes_reject, imp_false] at hlive
  have hmoved := not_not.mp (not_and.mp hlive.1 rfl)
  have hops : (admission_context s p scope settings binding).patch.ops
      = a.pre ++ .create_proposals a.proposals :: a.post := a.split
  exact unscanned_of_mutations hops hmoved

/-- A related node is rewritten no more in the raising Patch. -/
theorem RaisedAt.node_kept (a : RaisedAt s p id u)
    (h : AdmittedRun s p scope settings binding final)
    (hscan : Unscanned s a.pre a.post q) {x : String} (hx : x ∈ q.related_node_ids) {n : Node}
    (hn : u.nodes.get? x = some n) : final.nodes.get? x = some n := by
  have hkept : ∀ op ∈ a.post, x ∉ removed_nodes op := by
    intro op hop hremoved
    refine hscan.nodes x hx op hop ?_
    cases op <;> simp only [removed_nodes, List.not_mem_nil] at hremoved
    exact hremoved
  have hnew := h.not_recreated a.split_after a.run_through (Table.contains_iff.mpr ⟨n, hn⟩) hkept
  have hframe := foldlM_frame (fun b : GraphState => b.nodes.get? x) (a.run_post h.run)
    (fun op hop b c hbc => nodes_frame hbc (fun hreached => by
      rcases List.mem_append.mp hreached with hcreated | hchanged
      · obtain ⟨raw, hraw, hid⟩ := List.mem_map.mp hcreated
        exact hnew (List.mem_map.mpr ⟨raw, List.mem_flatMap.mpr ⟨op, hop, hraw⟩, hid⟩)
      · exact hscan.nodes x hx op hop hchanged))
  exact hframe.trans hn

/-- A related edge at the end of the raising Patch is the one the Proposal saw. -/
theorem RaisedAt.edge_kept (a : RaisedAt s p id u)
    (h : AdmittedRun s p scope settings binding final)
    (hnames : ∀ op ∈ p.ops, op.names_edges) (hscan : Unscanned s a.pre a.post q) {k : String}
    (hk : k ∈ q.related_edge_ids) {e e' : Edge} (he : u.edges.get? k = some e)
    (he' : final.edges.get? k = some e') : e' = e := by
  rcases edge_provenance (a.run_post h.run) he' with ⟨hu, -⟩ | ⟨w, -⟩
  · exact Option.some.inj (hu.symm.trans he)
  · -- a later write would have a name the scan knows
    exfalso
    have hpre : ∀ op ∈ a.pre, op.names_edges := fun op hop => hnames op (by simp [a.split, hop])
    have hwop : w.op ∈ a.post := by simp [w.split]
    have hwnames : w.op.names_edges := hnames w.op (by simp [a.split, hwop])
    refine hscan.edges k hk w.op hwop (written_edge_scanned hwnames w.written) ?_
    rw [a.edges_eq] at he
    have htracked := tracks_run hpre a.run k e he
    exact List.mem_map.mpr ⟨_, Dict.get_eq_some_iff.mp htracked, rfl⟩

theorem RaisedAt.ontology_kept (a : RaisedAt s p id u)
    (h : AdmittedRun s p scope settings binding final)
    (hscan : Unscanned s a.pre a.post q) (hkey : "ontology" ∈ q.related_config_keys) :
    final.ontology = u.ontology :=
  foldlM_frame GraphState.ontology (a.run_post h.run)
    (fun op hop _ _ hbc => ontology_frame hbc (hscan.ontology hkey op hop))

theorem RaisedAt.truth_scope_kept (a : RaisedAt s p id u)
    (h : AdmittedRun s p scope settings binding final) (hscan : Unscanned s a.pre a.post q)
    (hkey : "project_truth_scope" ∈ q.related_config_keys) :
    final.project_truth_scope = u.project_truth_scope :=
  foldlM_frame GraphState.project_truth_scope (a.run_post h.run)
    (fun op hop _ _ hbc => truth_scope_frame hbc (hscan.truth_scope hkey op hop))

/-! ### What is proposed -/

/-- Only agents propose, and they declare one current intent. -/
theorem judged_proposal_intent {ctx : OpContext} {proposals : List NewProposal}
    (h : JudgedAt validate_proposal ctx u (.create_proposals proposals))
    (hmode : ctx.mode = .admission) {raw : NewProposal} (hraw : raw ∈ proposals) :
    ∃ operation time, raw.ops = [operation] ∧
      validate_intent (u.with_refresh time) ctx.patch operation = some none := by
  have hagent : ctx.patch.author = some .agent := by
    obtain ⟨actions, hactions, hpermits⟩ := h.authority hmode
    obtain rfl : [.create_proposal] = actions := Except.ok.inj hactions
    have hpermit := hpermits .create_proposal (by simp)
    unfold permits at hpermit
    split at hpermit
    · simp [HUMAN_EXCLUDED_GRAPH_ACTIONS] at hpermit
    · cases hpermit
    · assumption
  obtain ⟨time, repositories, hauthoring⟩ := h.authoring hmode
  simp only [authoring_validate, author_create_proposals, Check.passes_forEach] at hauthoring
  have hrule := hauthoring raw hraw
  unfold validate_proposal at hrule
  simp only [] at hrule
  split_ifs at hrule
  · simp at hrule
  simp only [Check.passes_bind, Check.exists_unit, Check.passes_when, hagent, true_and] at hrule
  have hboundary := hrule.2.2.1 trivial
  unfold validate_agent_proposal_boundary at hboundary
  simp only [] at hboundary
  split at hboundary
  · next operation hops =>
    split at hboundary
    · simp at hboundary
    · next hintent => exact ⟨operation, time, hops, hintent⟩
    · simp at hboundary
  · simp at hboundary

omit [TextLibrary] in
theorem current_of_intent {context_patch : Patch} {operation : ProposalOperation}
    {error : Option String} (h : validate_intent s context_patch operation = some error) :
    operation.is_legacy = false := by
  unfold validate_intent at h
  split at h <;> first | rfl | cases h

omit [TextLibrary] in
/-- The ids a current Proposal writes edges under are those its staleness
    watches. -/
theorem created_edge_watched {operation : ProposalOperation} (hops : q.ops = [operation])
    (hcurrent : operation.is_legacy = false)
    (hop : op ∈ graph_operations_from_proposal q.ops) (hn : op.names_edges) {k : String}
    (hk : k ∈ written_edge_ids op) : k ∈ proposal_created_edge_ids q := by
  have hscanned := written_edge_scanned hn hk
  rw [hops, graph_operations_from_proposal, List.map_singleton, List.mem_singleton] at hop
  subst hop
  unfold proposal_created_edge_ids
  rw [hops, List.flatMap_singleton]
  cases operation <;> simp only [ProposalOperation.is_legacy] at hcurrent <;>
    simp only [graph_operation_from_proposal, created_edges, List.map_nil,
      List.not_mem_nil] at hscanned
  case supersede legacy nodes =>
    subst hcurrent
    simpa [List.map_filterMap, Option.map_map, Function.comp_def] using hscanned
  case merge legacy merges =>
    subst hcurrent
    simpa [List.map_map, Function.comp_def] using hscanned
  case protected_relation_create legacy edges =>
    subst hcurrent
    simpa [List.map_map, Function.comp_def] using hscanned

/-! ### Later Patches -/

/-- The raising Patch `p` names its edges, the Proposal names the edges it would
    create, and no layer of `p` is settled late. -/
structure PlainlyRaised (s : GraphState) (p : Patch) (q : Proposal) : Prop where
  names : ∀ op ∈ p.ops, op.names_edges
  proposed : ∀ op ∈ graph_operations_from_proposal q.ops, op.names_edges
  settled : ¬ LateLayer s p

omit [TextLibrary] in
/-- What a Proposal that is not stale says about the graph. -/
theorem not_stale_iff : proposal_is_stale s q = false ↔
    (∀ x ∈ q.related_node_ids, node_moved s q.dependency_revision x = false) ∧
    (∀ key ∈ q.related_config_keys, config_moved s q.dependency_revision key = false) ∧
    (∀ k ∈ q.related_edge_ids ++ proposal_reference_edges q,
      edge_moved s q.dependency_revision k = false) ∧
    (∀ k ∈ proposal_created_edge_ids q, s.edges.contains k = false) ∧
    (proposal_removal_targets q ≠ [] →
      same_set (incident_edge_ids s (proposal_removal_targets q)) q.related_edge_ids = true) ∧
    ∀ x ∈ proposal_reference_decisions q, decision_moved s q.dependency_revision x = false := by
  unfold proposal_is_stale
  simp only [Bool.or_eq_false_iff, List.any_eq_false, Bool.not_eq_true, Bool.and_eq_false_iff,
    List.isEmpty_iff, ne_eq, and_assoc, Bool.not_eq_eq_eq_not, Bool.not_false, imp_iff_not_or,
    not_not]

omit [TextLibrary] in
theorem node_present {r : Nat} {x : String} (h : node_moved s r x = false) :
    ∃ n, s.nodes.get? x = some n ∧ ¬ r < n.updated_rev := by
  unfold node_moved at h
  split at h
  · cases h
  · next n hn => exact ⟨n, hn, of_decide_eq_false h⟩

omit [TextLibrary] in
theorem edge_present {r : Nat} {k : String} (h : edge_moved s r k = false) :
    ∃ e, s.edges.get? k = some e ∧ ¬ r < e.created_rev := by
  unfold edge_moved at h
  split at h
  · cases h
  · next e he => exact ⟨e, he, of_decide_eq_false h⟩

variable [Canonical]

theorem history_continues (h : Relation.ReflTransGen Advances s t) : ProposalsContinue s t := by
  induction h with
  | refl => exact .refl _
  | tail _ hstep ih =>
    obtain ⟨p, -, hcommit⟩ := hstep
    exact ih.trans hcommit.proposal_step.continues

/-- A Proposal that was raised by a plain Patch and is not stale is judged
    against exactly what it was written against. -/
theorem staleness_sound {s₀ s₁ : GraphState} (hcommit : Commits s₀ p s₁)
    (hrev : p.revision = s₀.revision + 1) (a : RaisedAt s₀ p id u)
    (hhistory : Relation.ReflTransGen Advances s₁ s) (hq : s.proposals.get? id = some q)
    (hplain : PlainlyRaised s₀ p q) (hstale : proposal_is_stale s q = false) : Unmoved u s q := by
  obtain ⟨scope, settings, binding, final, hrun, rfl⟩ := hcommit.run
  -- the second pass of the raising Patch finds every layer settled
  have hsettled : rederive_layers final (stored_edge_ids p.ops) = final :=
    settled_iff.mp (hrun.settled_iff.mpr hplain.settled)
  rw [hsettled] at hhistory
  -- the Proposal of `s` is the one that was raised, but for its resolution
  obtain ⟨raw, hraw, -, hstored⟩ := a.stored
  obtain ⟨q₁, hq₁, hcontinues⟩ := hrun.continues_from a.split_after a.run_through id _ hstored
  obtain ⟨q₂, hq₂, hcontinues'⟩ := history_continues hhistory id q₁ hq₁
  obtain rfl := Option.some.inj (hq₂.symm.trans hq)
  have hraised := hcontinues'.raised
  have hraisedfirst := hraised.trans hcontinues.raised
  have hscan : Unscanned s₀ a.pre a.post q₂ := (a.unscanned hrun hq₁).congr hraised
  have hdepends : q₂.dependency_revision = p.revision := by
    have hrevision : q₂.raised_rev = p.revision := congrArg Proposal.raised_rev hraisedfirst
    simp [Proposal.dependency_revision, hrevision, hrev]
  obtain ⟨hnodes, hconfig, hedges, hcreated, -, -⟩ := not_stale_iff.mp hstale
  rw [hdepends] at hnodes hconfig hedges
  have hforward : Forward p.revision (stamp_patch p final) s :=
    history_forward hhistory (le_max_right final.revision p.revision)
  refine ⟨?_, ?_, ?_, ?_, ?_⟩
  · intro x hx n hn
    obtain ⟨m, hm, hold⟩ := node_present (hnodes x hx)
    have hfinal : final.nodes.get? x = some m := (hforward.nodes x).unmoved hm hold
    rw [hm, ← hfinal]
    exact a.node_kept hrun hscan hx hn
  · intro k hk e he
    obtain ⟨e', he', hold⟩ := edge_present (hedges k (List.mem_append_left _ hk))
    have hfinal : final.edges.get? k = some e' := (hforward.edges k).unmoved he' hold
    rw [he', a.edge_kept hrun hplain.names hscan hk he hfinal]
  · intro hkey
    have hslot := hforward.ontology.unmoved rfl (of_decide_eq_false (hconfig "ontology" hkey))
    have hfinal : final.ontology = s.ontology := congrArg Prod.fst (Option.some.inj hslot)
    rw [← hfinal]
    exact a.ontology_kept hrun hscan hkey
  · intro hkey
    have hslot := hforward.truth_scope.unmoved rfl
      (of_decide_eq_false (hconfig "project_truth_scope" hkey))
    have hfinal : final.project_truth_scope = s.project_truth_scope :=
      congrArg Prod.fst (Option.some.inj hslot)
    rw [← hfinal]
    exact a.truth_scope_kept hrun hscan hkey
  · intro op hop k hk
    have hjudged := hrun.judged a.pre _ a.post a.before a.split a.run
    obtain ⟨operation, time, hops, hintent⟩ := judged_proposal_intent hjudged rfl hraw
    have hqops : q₂.ops = [operation] := (congrArg Proposal.ops hraisedfirst).trans hops
    have hwatched := created_edge_watched hqops (current_of_intent hintent) hop
      (hplain.proposed op hop) hk
    exact Table.contains_eq_false_iff.mp (hcreated k hwatched)

end

open scoped Reference

/-- The graph after the first `n` operations of a Patch. -/
def graph_after (s : GraphState) (p : Patch) (n : Nat) : GraphState :=
  Reference.result (run_operations p s (p.ops.take n))

/-- The Proposals the operation at a position creates. -/
def proposals_at (p : Patch) (n : Nat) : List NewProposal :=
  match p.ops[n]? with
  | some (.create_proposals proposals) => proposals
  | _ => []

/-- A later Patch that has nothing to do with the question. -/
def unrelated_patch : Patch := Reference.agent_patch 3 [.create_nodes [Reference.blocker "blk/z"]]

def unrelated_graph : GraphState :=
  Reference.result (apply_valid_patch proposed_graph unrelated_patch)

/-- The removal of `asked_graph` is still judged against the question it was
    written against, after a later Patch. -/
theorem unrelated_patch_unmoved : ∃ q, unrelated_graph.proposals.get? "pr/a" = some q ∧
    proposal_is_stale unrelated_graph q = false ∧ q.related_node_ids = ["rq/a"] ∧
    Unmoved (graph_after asked_graph propose_removal_patch 1) unrelated_graph q := by
  have hraise : Commits asked_graph propose_removal_patch proposed_graph :=
    ⟨["main"], {}, {}, by decide, Reference.eq_ok_result (by decide)⟩
  have hlater : Advances proposed_graph unrelated_graph :=
    ⟨unrelated_patch, by decide, ["main"], {}, {}, by decide, Reference.eq_ok_result (by decide)⟩
  let a : RaisedAt asked_graph propose_removal_patch "pr/a"
      (graph_after asked_graph propose_removal_patch 1) :=
    ⟨[], proposals_at propose_removal_patch 0, [], asked_graph, by decide, rfl,
      Reference.eq_ok_result (by decide), by decide⟩
  have hplain {q : Proposal} (hq : unrelated_graph.proposals.get? "pr/a" = some q) :
      PlainlyRaised asked_graph propose_removal_patch q := by
    refine ⟨?_, ?_, ?_⟩
    · intro op hop
      obtain rfl := List.mem_singleton.mp hop
      trivial
    · obtain rfl := Option.some.inj hq
      intro op hop
      obtain rfl := List.mem_singleton.mp hop
      trivial
    · rintro ⟨k, e, w, ⟨edges, hop⟩, -⟩
      have hmem : w.op ∈ propose_removal_patch.ops := by simp [w.split]
      rw [List.mem_singleton.mp hmem] at hop
      cases hop
  refine ⟨_, rfl, by decide, by decide, ?_⟩
  exact staleness_sound hraise (by decide) a (.single hlater) rfl (hplain rfl) (by decide)

/-- An agent adds two blockers and proposes to remove the question that the first
    one blocks; then the first blocker goes, and an edge of the same empty id
    leads to the second. -/
def swapped_edge_patch : Patch :=
  prepare_patch_bookkeeping asked_graph (Reference.agent_patch 2 [
    .create_nodes [Reference.blocker "blk/b", Reference.blocker "blk/c"],
    .create_edges [{
      id := .given "", source := "rq/a", target := "blk/b", relation := "blocked_by" }],
    .create_proposals [{ id := "pr/a", title := "Drop it", ops := [.removal false ["rq/a"]] }],
    .remove_nodes ["blk/b"],
    .create_edges [{
      id := .given "", source := "rq/a", target := "blk/c", relation := "blocked_by" }]])

def swapped_edge_graph : GraphState :=
  Reference.result (apply_valid_patch asked_graph swapped_edge_patch)

/-- The removal is not stale, though its only related edge has become another. -/
theorem swapped_edge_unnoticed :
    Commits asked_graph swapped_edge_patch swapped_edge_graph ∧
      swapped_edge_patch.revision = asked_graph.revision + 1 ∧
      Nonempty (RaisedAt asked_graph swapped_edge_patch "pr/a"
        (graph_after asked_graph swapped_edge_patch 3)) ∧
      ∃ q, swapped_edge_graph.proposals.get? "pr/a" = some q ∧ q.status = .pending ∧
        proposal_is_stale swapped_edge_graph q = false ∧
        ¬ Unmoved (graph_after asked_graph swapped_edge_patch 3) swapped_edge_graph q := by
  refine ⟨⟨["main"], {}, {}, by decide, Reference.eq_ok_result (by decide)⟩, by decide, ⟨?_⟩, ?_⟩
  · exact ⟨swapped_edge_patch.ops.take 2, proposals_at swapped_edge_patch 2,
      swapped_edge_patch.ops.drop 3, graph_after asked_graph swapped_edge_patch 2, by decide,
      Reference.eq_ok_result (by decide), Reference.eq_ok_result (by decide), by decide⟩
  · refine ⟨_, rfl, by decide, by decide, fun h => ?_⟩
    exact absurd (h.edges "" (by decide) _ rfl) (by decide)

end ResearchGraph
