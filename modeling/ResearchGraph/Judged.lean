import ResearchGraph.Staging

/-! # What the rules of one operation establish

    For each operation that passed, the facts about the graph it was judged on
    that later arguments rest on.
-/

namespace ResearchGraph

open Lib

variable [TextLibrary] {vp : ProposalRule} {ctx : OpContext} {u : GraphState}

/-! ### Created nodes -/

/-- A judged creation names no node that is there. -/
theorem judged_nodes_fresh {nodes : List NewNode} (h : JudgedAt vp ctx u (.create_nodes nodes))
    {raw : NewNode} (hraw : raw ∈ nodes) : u.nodes.contains raw.node.id = false := by
  obtain ⟨time, repositories, cited, hrule⟩ := h.structural
  obtain ⟨_, _, hnode⟩ := Check.passes_thread_mem hrule hraw
  simp only [validate_created_node, validate_new_node, Check.passes_bind, Check.exists_unit,
    Check.passes_when, passes_reject, imp_false] at hnode
  exact Bool.eq_false_iff.mpr hnode.2.1.1

/-- Nor one that was there before the Patch. -/
theorem judged_nodes_new {nodes : List NewNode} (h : JudgedAt vp ctx u (.create_nodes nodes))
    (hmode : ctx.mode = .admission) {raw : NewNode} (hraw : raw ∈ nodes) :
    ctx.initial_state.nodes.get? raw.node.id = none := by
  obtain ⟨time, repositories, cited, hrule⟩ := h.structural
  obtain ⟨_, _, hnode⟩ := Check.passes_thread_mem hrule hraw
  simp only [validate_created_node, Check.passes_bind, Check.exists_unit, Check.passes_when,
    passes_reject, imp_false, not_and] at hnode
  exact Table.contains_eq_false_iff.mp (Bool.eq_false_iff.mpr (hnode.1 hmode))

/-- Outside approvals a created node starts asserted. -/
theorem judged_nodes_asserted {nodes : List NewNode}
    (h : JudgedAt vp ctx u (.create_nodes nodes)) (hkind : ctx.patch.kind ≠ .approval)
    {raw : NewNode} (hraw : raw ∈ nodes) : raw.node.standing = .asserted := by
  obtain ⟨time, repositories, cited, hrule⟩ := h.structural
  obtain ⟨_, _, hnode⟩ := Check.passes_thread_mem hrule hraw
  simp only [validate_created_node, validate_new_node, Check.passes_bind, Check.exists_unit,
    Check.passes_when, passes_reject, imp_false, not_and, not_not] at hnode
  by_contra hstanding
  exact hkind (hnode.2.1.2.2.2.1 hstanding)

/-! ### Written edges -/

omit [TextLibrary] in
/-- The ids a created edge may not use are those seen before it. -/
theorem created_edge_fresh {seen seen' : List String} {raw : NewEdge}
    (hmode : ctx.mode = .admission)
    (h : Check.Passes (validate_created_edge ctx seen raw) seen') :
    (∀ k, raw.stored_id = some k → k ∉ seen) ∧ ∃ added, seen' = seen ++ added := by
  have hidentity {seen'' : List String}
      (h : Check.Passes (validate_edge_identity ctx seen raw) seen'') :
      (∀ k, raw.stored_id = some k → k ∉ seen) ∧ ∃ added, seen'' = seen ++ added := by
    simp only [validate_edge_identity, hmode, true_and] at h
    split at h
    · simp at h
    · next hseen =>
      simp only [Check.passes_bind, Check.exists_unit, Check.passes_pure] at h
      refine ⟨fun k hk hmem => hseen ?_, _, h.2.symm⟩
      simp [hk, hmem]
  simp only [validate_created_edge, Check.passes_bind, Check.exists_unit] at h
  obtain ⟨-, -, -, h⟩ := h
  split at h
  · exact hidentity h
  · simp at h
  · simp only [Check.passes_bind, Check.exists_unit] at h
    exact hidentity h.2

omit [TextLibrary] in
theorem created_edges_fresh {edges : List NewEdge} {seen seen' : List String}
    (hmode : ctx.mode = .admission)
    (h : Check.Passes (Check.thread (validate_created_edge ctx) seen edges) seen') {raw : NewEdge}
    (hraw : raw ∈ edges) {k : String} (hk : raw.stored_id = some k) : k ∉ seen := by
  induction edges generalizing seen with
  | nil => cases hraw
  | cons e edges ih =>
    obtain ⟨seen₁, he, hedges⟩ := Check.passes_thread_cons.mp h
    obtain ⟨hfresh, added, rfl⟩ := created_edge_fresh hmode he
    rcases List.mem_cons.mp hraw with rfl | hraw
    · exact hfresh k hk
    · exact fun hmem => ih hedges hraw (List.mem_append_left _ hmem)

omit [TextLibrary] in
/-- The id of a passing edge is seen by the edges after it. -/
theorem created_edge_seen {seen seen' : List String} {raw : NewEdge}
    (hmode : ctx.mode = .admission)
    (h : Check.Passes (validate_created_edge ctx seen raw) seen') {k : String}
    (hk : raw.stored_id = some k) : k ∈ seen' := by
  have hidentity {seen'' : List String}
      (h : Check.Passes (validate_edge_identity ctx seen raw) seen'') : k ∈ seen'' := by
    simp only [validate_edge_identity, hmode, true_and] at h
    split at h
    · simp at h
    · simp only [Check.passes_bind, Check.exists_unit, Check.passes_pure] at h
      rw [← h.2, hk]
      simp
  simp only [validate_created_edge, Check.passes_bind, Check.exists_unit] at h
  obtain ⟨-, -, -, h⟩ := h
  split at h
  · exact hidentity h
  · simp at h
  · simp only [Check.passes_bind, Check.exists_unit] at h
    exact hidentity h.2

omit [TextLibrary] in
/-- A lifecycle operation writes an edge that is not there. -/
theorem generated_relation_fresh {source target relation : String}
    (hmode : ctx.mode = .admission)
    (h : Check.Passes (validate_generated_relation_endpoints ctx source target relation) ()) :
    ctx.state.edges.contains (derived_edge_id source relation target) = false := by
  simp only [validate_generated_relation_endpoints, hmode, true_and] at h
  split_ifs at h with hsame hexists
  · simp at h
  · simp at h
  · exact Bool.eq_false_iff.mpr hexists

/-- At admission no operation writes over an edge that is there. -/
theorem judged_edges_fresh {op : GraphOperation} (h : JudgedAt vp ctx u op)
    (hmode : ctx.mode = .admission) {k : String} (hk : k ∈ written_edge_ids op) :
    u.edges.get? k = none := by
  obtain ⟨time, repositories, cited, hrule⟩ := h.structural
  cases op <;> simp only [written_edge_ids, List.not_mem_nil] at hk
  case create_edges edges =>
    obtain ⟨raw, hraw, hid⟩ := List.mem_filterMap.mp hk
    simp only [structural_validate, validate_create_edges, Check.passes_bind] at hrule
    obtain ⟨seen, hthread, -⟩ := hrule
    have hnot := created_edges_fresh (by exact hmode) hthread hraw hid
    rw [← Option.not_isSome_iff_eq_none]
    exact fun hsome => hnot (Table.mem_keys_iff.mpr hsome)
  case supersede_nodes nodes =>
    obtain ⟨item, hitem, hid⟩ := List.mem_filterMap.mp hk
    obtain ⟨target, htarget, rfl⟩ := Option.map_eq_some_iff.mp hid
    obtain ⟨hby, -⟩ := Option.filter_eq_some_iff.mp htarget
    simp only [structural_validate, passes_citing_none, validate_supersede_nodes,
      Check.passes_forEach] at hrule
    have hrule := hrule.1 item hitem
    simp only [validate_superseded_node, hby, Check.passes_bind, Check.exists_unit,
      Check.passes_when] at hrule
    exact Table.contains_eq_false_iff.mp
      (generated_relation_fresh (by exact hmode) (hrule.2.2 hmode))
  case merge_nodes merges =>
    obtain ⟨item, hitem, rfl⟩ := List.mem_map.mp hk
    simp only [structural_validate, passes_citing_none, validate_merge_nodes,
      Check.passes_forEach] at hrule
    have hrule := hrule.1 item hitem
    simp only [validate_merged_node, Check.passes_bind, Check.exists_unit,
      Check.passes_when] at hrule
    exact Table.contains_eq_false_iff.mp
      (generated_relation_fresh (by exact hmode) (hrule.2.2 hmode))

/-! ### Updated nodes -/

/-- A judged update found its node and names no system field, and every rule of
    its changes passed. -/
theorem judged_update_changes {updates : List NodeUpdate}
    (h : JudgedAt vp ctx u (.update_nodes updates)) {update : NodeUpdate}
    (hmem : update ∈ updates) :
    ∃ n, u.nodes.get? update.id = some n ∧ immutable_update_fields ctx n update.changes = [] ∧
      ∃ time repositories oldest oldest', Check.Passes (validate_update_changes
        { ctx with state := u.with_refresh time, repositories } oldest n update) oldest' := by
  obtain ⟨time, repositories, cited, hrule⟩ := h.structural
  obtain ⟨oldest, oldest', hupdate⟩ := Check.passes_thread_mem hrule hmem
  unfold validate_update at hupdate
  cases hn : u.nodes.get? update.id with
  | none =>
    have hn' : ({ ctx with state := u.with_refresh time, repositories } :
      OpContext).state.nodes.get? update.id = none := hn
    simp [hn'] at hupdate
  | some n =>
    have hn' : ({ ctx with state := u.with_refresh time, repositories } :
      OpContext).state.nodes.get? update.id = some n := hn
    simp only [hn', Check.passes_bind, Check.exists_unit, Check.passes_when, passes_reject,
      imp_false] at hupdate
    obtain ⟨hphase, hstrength, hupdate⟩ := hupdate
    split_ifs at hupdate with himm hlegacy
    · simp at hupdate
    · exact absurd hlegacy (not_or.mpr ⟨hstrength, hphase⟩)
    · exact ⟨n, rfl, not_not.mp himm, time, repositories, oldest, oldest', hupdate⟩

/-- A judged update found its node, and the rule of gated changes passed. -/
theorem judged_update {updates : List NodeUpdate} (h : JudgedAt vp ctx u (.update_nodes updates))
    {update : NodeUpdate} (hmem : update ∈ updates) :
    ∃ n, u.nodes.get? update.id = some n ∧ immutable_update_fields ctx n update.changes = [] ∧
      Check.Passes (validate_gated_update ctx n update) () ∧
      Check.Passes (validate_decision_transition ctx n update.changes) () := by
  obtain ⟨n, hn, himm, time, repositories, oldest, oldest', hrule⟩ := judged_update_changes h hmem
  simp only [validate_update_changes, Check.passes_bind, Check.exists_unit] at hrule
  exact ⟨n, hn, himm, hrule.2.2.1, hrule.2.2.2.1⟩

/-- The rule of custom fields passed on every judged update. -/
theorem judged_extension_update {updates : List NodeUpdate}
    (h : JudgedAt vp ctx u (.update_nodes updates)) {update : NodeUpdate}
    (hmem : update ∈ updates) :
    ∃ n revision agent, u.nodes.get? update.id = some n ∧ Check.Passes
      (validate_updated_extension_fields u n update.changes revision false agent) () := by
  obtain ⟨n, hn, -, time, repositories, oldest, oldest', hrule⟩ := judged_update_changes h hmem
  simp only [validate_update_changes, Check.passes_bind, Check.exists_unit] at hrule
  exact ⟨n, _, _, hn, hrule.2.1⟩

/-! ### Proposals -/

omit [TextLibrary] in
/-- The ids of one `create_proposals` operation are new to each other. -/
theorem distinct_proposals {proposals : List NewProposal} {seen seen' : List String}
    (hmode : ctx.mode = .admission)
    (h : Check.Passes (Check.thread (fun seen raw => do
      let seen ← validate_distinct_proposal ctx seen raw
      vp ctx raw .replay false
      return seen) seen proposals) seen') :
    (∀ raw ∈ proposals, Check.Passes (vp ctx raw .replay false) () ∧ raw.id ∉ seen) ∧
      (proposals.map (·.id)).Nodup := by
  induction proposals generalizing seen with
  | nil => simp
  | cons raw proposals ih =>
    obtain ⟨seen₁, hraw, hrest⟩ := Check.passes_thread_cons.mp h
    simp only [validate_distinct_proposal, Check.passes_bind, Check.exists_unit,
      Check.passes_when, passes_reject, imp_false, Check.passes_pure, hmode, true_and] at hraw
    obtain ⟨_, ⟨hfresh, rfl⟩, hrule, rfl⟩ := hraw
    obtain ⟨hmem, hnodup⟩ := ih hrest
    refine ⟨?_, ?_⟩
    · intro x hx
      rcases List.mem_cons.mp hx with rfl | hx
      · exact ⟨hrule, hfresh⟩
      · exact ⟨(hmem x hx).1, fun hseen => (hmem x hx).2 (List.mem_append_left _ hseen)⟩
    · rw [List.map_cons, List.nodup_cons]
      refine ⟨fun hid => ?_, hnodup⟩
      obtain ⟨x, hx, hid⟩ := List.mem_map.mp hid
      exact (hmem x hx).2 (by simp [hid])

/-- Created Proposals are new, one of each id. -/
theorem judged_proposals_fresh {proposals : List NewProposal}
    (h : JudgedAt validate_proposal ctx u (.create_proposals proposals))
    (hmode : ctx.mode = .admission) :
    (∀ raw ∈ proposals, u.proposals.get? raw.id = none) ∧ (proposals.map (·.id)).Nodup := by
  obtain ⟨time, repositories, cited, hrule⟩ := h.structural
  simp only [structural_validate, passes_citing_none, validate_create_proposals,
    Check.passes_bind] at hrule
  obtain ⟨⟨seen, hthread, -⟩, -⟩ := hrule
  obtain ⟨hmem, hnodup⟩ := distinct_proposals (by exact hmode) hthread
  refine ⟨fun raw hraw => ?_, hnodup⟩
  have hrule := (hmem raw hraw).1
  unfold validate_proposal at hrule
  simp only [] at hrule
  split_ifs at hrule with hexists
  · simp at hrule
  · exact Table.contains_eq_false_iff.mp (Bool.eq_false_iff.mpr hexists)

omit [TextLibrary] in
theorem passes_pending {verb id : String} :
    Check.Passes (validate_pending ctx verb id) () ↔
      ∃ q, ctx.state.proposals.get? id = some q ∧ q.status = .pending := by
  unfold validate_pending
  cases ctx.state.proposals.get? id <;> simp

/-- Resolved Proposals are pending, and only approvals resolve. -/
theorem judged_resolutions {resolutions : List ProposalResolution}
    (h : JudgedAt vp ctx u (.resolve_proposals resolutions)) (hmode : ctx.mode = .admission) :
    ctx.patch.kind = .approval ∧
      ∀ r ∈ resolutions, ∃ q, u.proposals.get? r.id = some q ∧ q.status = .pending := by
  obtain ⟨time, repositories, cited, hrule⟩ := h.structural
  simp only [structural_validate, passes_citing_none, validate_resolve_proposals,
    Check.passes_bind, Check.exists_unit, Check.passes_when, passes_reject, imp_false, hmode,
    true_and, not_not, Check.passes_forEach, passes_pending] at hrule
  exact hrule.1

/-- Withdrawn Proposals are pending, and only agents withdraw. -/
theorem judged_withdrawals {withdrawals : List ProposalWithdrawal}
    (h : JudgedAt vp ctx u (.withdraw_proposals withdrawals)) :
    (ctx.patch.author = some .agent ∧ ctx.patch.kind ≠ .approval) ∧
      ∀ w ∈ withdrawals, ∃ q, u.proposals.get? w.id = some q ∧ q.status = .pending := by
  obtain ⟨time, repositories, cited, hrule⟩ := h.structural
  simp only [structural_validate, passes_citing_none, validate_withdraw_proposals,
    Check.passes_bind, Check.exists_unit, Check.passes_when, passes_reject, imp_false, not_or,
    not_not, Check.passes_forEach, passes_pending] at hrule
  exact hrule.1

end ResearchGraph
