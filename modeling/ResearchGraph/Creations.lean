import ResearchGraph.Judged
import ResearchGraph.Provenance
import ResearchGraph.Reference

/-! # Creations are not lost

    A created node or a written edge never takes the place of an object that
    the graph, or another creation of the same Patch, already holds.  Nodes
    listed by one `create_nodes` operation, and edges derived by one
    `supersede_nodes` or `merge_nodes` operation, are judged on the graph
    before that operation only, so there an id has to be listed once.
-/

namespace ResearchGraph

open Lib

variable {p : Patch} {s t u v w : GraphState} {op : GraphOperation} {ops : List GraphOperation}
  {k : String} {e : Edge}

/-! ### Statement -/

/-- The nodes an operation introduces. -/
def created_ids (op : GraphOperation) : List String := op.created_nodes.map (·.node.id)

/-- An operation removes the edge `e` stored under `k`, by its id or with one of
    its endpoints. -/
def removes_edge (op : GraphOperation) (k : String) (e : Edge) : Prop :=
  k ∈ removed_edges op ∨ e.source ∈ removed_nodes op ∨ e.target ∈ removed_nodes op

/-- No creation of the Patch is lost. -/
structure CreationsKept (s : GraphState) (p : Patch) : Prop where
  nodes_distinct : ∀ op ∈ p.ops, (created_ids op).Nodup
  edges_distinct : ∀ op ∈ p.ops, (written_edge_ids op).Nodup
  nodes_new : ∀ op ∈ p.ops, ∀ id ∈ created_ids op, s.nodes.get? id = none
  nodes_once : ∀ pre op mid op' post, p.ops = pre ++ op :: (mid ++ op' :: post) →
    ∀ id ∈ created_ids op, id ∈ created_ids op' → ∃ r ∈ mid, id ∈ removed_nodes r
  edges_new : ∀ pre op post, p.ops = pre ++ op :: post → ∀ k ∈ written_edge_ids op,
    ∀ e, s.edges.get? k = some e → ∃ r ∈ pre, removes_edge r k e
  edges_once : ∀ pre op mid op' post, p.ops = pre ++ op :: (mid ++ op' :: post) →
    ∀ k ∈ written_edge_ids op, k ∈ written_edge_ids op' →
      ∃ u e, run_operations p s (pre ++ [op]) = .ok u ∧ u.edges.get? k = some e ∧
        ∃ r ∈ mid, removes_edge r k e
  absent : ∀ pre op post, p.ops = pre ++ op :: post →
    ∃ u, run_operations p s pre = .ok u ∧ (∀ id ∈ created_ids op, u.nodes.get? id = none) ∧
      ∀ k ∈ written_edge_ids op, u.edges.get? k = none

/-- The ids that the rules of an operation do not compare with each other are
    listed once. -/
def GraphOperation.lists_once : GraphOperation → Prop
  | .create_nodes nodes => (nodes.map (·.node.id)).Nodup
  | .supersede_nodes nodes => (written_edge_ids (.supersede_nodes nodes)).Nodup
  | .merge_nodes merges => (written_edge_ids (.merge_nodes merges)).Nodup
  | _ => True

instance : DecidablePred GraphOperation.lists_once := fun op => by
  cases op <;> unfold GraphOperation.lists_once <;> infer_instance

/-! ### What an operation writes is there after it -/

theorem put_present {a : GraphState} {e : Edge} (h : k = e.id ∨ (a.edges.get? k).isSome) :
    ((a.edges.put e).get? k).isSome := by
  rw [Table.get?_put]
  by_cases hk : k = e.id
  · rw [if_pos (show k = Keyed.key e from hk)]
    rfl
  · rw [if_neg (show ¬ k = Keyed.key e from hk)]
    exact h.resolve_left hk

theorem connect_retired_present {a : GraphState} {revision : Nat} {id relation explanation : String}
    {target : Option String} (h : target.map (derived_edge_id id relation) = some k ∨
      (a.edges.get? k).isSome) :
    ((connect_retired revision a id relation target explanation).edges.get? k).isSome := by
  cases target with
  | none =>
    exact h.resolve_left (by simp)
  | some target =>
    refine put_present (h.imp_left ?_)
    intro hid
    exact (Option.some.inj hid).symm

/-- An operation that writes an id leaves an edge under it. -/
theorem written_present (h : apply_operation p false s op = .ok t)
    (hk : k ∈ written_edge_ids op) : ∃ e, t.edges.get? k = some e := by
  rw [← Option.isSome_iff_exists]
  cases op <;> simp only [written_edge_ids, List.not_mem_nil] at hk
  case create_edges edges =>
    obtain ⟨raw, hraw, hid⟩ := List.mem_filterMap.mp hk
    have hstep : ∀ x a b, create_edge p.revision a x = .ok b →
        x.stored_id = some k ∨ (a.edges.get? k).isSome → (b.edges.get? k).isSome := by
      intro x a b hab hx
      obtain ⟨e₀, he₀, rfl⟩ := create_edge_ok.mp hab
      refine put_present (hx.imp_left ?_)
      intro hid
      exact Option.some.inj (hid.symm.trans (validated_edge_ok he₀).1)
    exact foldlM_established (fun a => (a.edges.get? k).isSome) h hraw
      (fun a b hab => hstep raw a b hab (Or.inl hid))
      (fun y _ a b hab ha => hstep y a b hab (Or.inr ha))
  case supersede_nodes nodes =>
    obtain ⟨item, hitem, hid⟩ := List.mem_filterMap.mp hk
    have hstep : ∀ x a b, supersede_node p a x = .ok b →
        (x.superseded_by.filter (· ≠ "")).map (derived_edge_id x.id "supersedes") = some k ∨
          (a.edges.get? k).isSome → (b.edges.get? k).isSome := by
      intro x a b hab hx
      obtain ⟨n, -, m, -, rfl⟩ := retire_node_ok.mp hab
      exact connect_retired_present hx
    exact foldlM_established (fun a => (a.edges.get? k).isSome) h hitem
      (fun a b hab => hstep item a b hab (Or.inl hid))
      (fun y _ a b hab ha => hstep y a b hab (Or.inr ha))
  case merge_nodes merges =>
    obtain ⟨item, hitem, hid⟩ := List.mem_map.mp hk
    have hstep : ∀ x a b, merge_node p a x = .ok b →
        derived_edge_id x.duplicate "duplicate_of" x.canonical = k ∨
          (a.edges.get? k).isSome → (b.edges.get? k).isSome := by
      intro x a b hab hx
      obtain ⟨n, -, m, -, rfl⟩ := retire_node_ok.mp hab
      exact connect_retired_present (hx.imp_left (congrArg some))
    exact foldlM_established (fun a => (a.edges.get? k).isSome) h hitem
      (fun a b hab => hstep item a b hab (Or.inl hid))
      (fun y _ a b hab ha => hstep y a b hab (Or.inr ha))

/-! ### Within one operation -/

section Judged

variable [TextLibrary] {vp : ProposalRule} {ctx : OpContext}

omit [TextLibrary] in
/-- The edges of one `create_edges` operation carry distinct ids: each one is
    compared with those seen before it. -/
theorem created_edges_distinct {edges : List NewEdge} {seen seen' : List String}
    (hmode : ctx.mode = .admission)
    (h : Check.Passes (Check.thread (validate_created_edge ctx) seen edges) seen') :
    (edges.filterMap NewEdge.stored_id).Nodup := by
  induction edges generalizing seen with
  | nil => exact List.nodup_nil
  | cons raw edges ih =>
    obtain ⟨seen₁, hraw, hrest⟩ := Check.passes_thread_cons.mp h
    cases hid : raw.stored_id with
    | none =>
      rw [List.filterMap_cons_none hid]
      exact ih hrest
    | some k =>
      rw [List.filterMap_cons_some hid, List.nodup_cons]
      refine ⟨?_, ih hrest⟩
      intro hk
      obtain ⟨later, hlater, hlaterid⟩ := List.mem_filterMap.mp hk
      exact created_edges_fresh hmode hrest hlater hlaterid (created_edge_seen hmode hraw hid)

/-- What an operation writes carries distinct ids, once the lists its rule does
    not compare name each id once. -/
theorem judged_edges_distinct (h : JudgedAt vp ctx u op) (hmode : ctx.mode = .admission)
    (honce : op.lists_once) : (written_edge_ids op).Nodup := by
  cases op
  case create_edges edges =>
    obtain ⟨time, repositories, cited, hrule⟩ := h.structural
    simp only [structural_validate, validate_create_edges, Check.passes_bind] at hrule
    obtain ⟨seen, hthread, -⟩ := hrule
    exact created_edges_distinct (by exact hmode) hthread
  case supersede_nodes nodes => exact honce
  case merge_nodes merges => exact honce
  all_goals exact List.nodup_nil

omit [TextLibrary] in
theorem created_ids_distinct (honce : op.lists_once) : (created_ids op).Nodup := by
  cases op
  case create_nodes nodes => exact honce
  all_goals exact List.nodup_nil

theorem judged_created_fresh (h : JudgedAt vp ctx u op) {id : String}
    (hid : id ∈ created_ids op) : u.nodes.get? id = none := by
  cases op <;> simp only [created_ids, GraphOperation.created_nodes, List.map_nil,
    List.not_mem_nil] at hid
  obtain ⟨raw, hraw, rfl⟩ := List.mem_map.mp hid
  exact Table.contains_eq_false_iff.mp (judged_nodes_fresh h hraw)

theorem judged_created_new (h : JudgedAt vp ctx u op) (hmode : ctx.mode = .admission)
    {id : String} (hid : id ∈ created_ids op) : ctx.initial_state.nodes.get? id = none := by
  cases op <;> simp only [created_ids, GraphOperation.created_nodes, List.map_nil,
    List.not_mem_nil] at hid
  obtain ⟨raw, hraw, rfl⟩ := List.mem_map.mp hid
  exact judged_nodes_new h hmode hraw

end Judged

/-! ### Across operations -/

section Admitted

variable [TextLibrary] {scope : List String} {settings : ValidationSettings}
  {binding : ExperimentBinding} {final : GraphState}

/-- The graph before an operation of an admitted Patch. -/
theorem AdmittedRun.before (h : AdmittedRun s p scope settings binding final)
    {pre post : List GraphOperation} (hops : p.ops = pre ++ op :: post) :
    ∃ u v, run_operations p s pre = .ok u ∧ apply_operation p false u op = .ok v ∧
      run_operations p v post = .ok final ∧
      JudgedAt validate_proposal (admission_context s p scope settings binding) u op := by
  have hrun := h.run
  rw [hops] at hrun
  obtain ⟨u, hu, hrest⟩ := foldlM_append_ok.mp hrun
  obtain ⟨v, hv, hpost⟩ := foldlM_cons_ok.mp hrest
  exact ⟨u, v, hu, hv, hpost, h.judged pre op post u hops hu⟩

/-- An edge that is gone at a later point of the Patch was removed in between:
    no operation writes over it. -/
theorem AdmittedRun.removed_between (h : AdmittedRun s p scope settings binding final)
    {done mid post : List GraphOperation} (hops : p.ops = done ++ (mid ++ post))
    (hu : run_operations p s done = .ok u) (hw : run_operations p u mid = .ok w)
    (he : u.edges.get? k = some e) (hgone : w.edges.get? k = none) :
    ∃ r ∈ mid, removes_edge r k e := by
  by_contra hkeep
  push Not at hkeep
  -- the edge is carried from operation to operation
  have hw : w.edges.get? k = some e := by
    refine h.invariant_between hops hu hw (fun _ a => a.edges.get? k = some e) he ?_
    intro pre op post a b hsplit hop ha hjudged hab hkept
    refine edges_kept hab hkept ?_
    intro hdrop
    rcases hdrop with hwritten | hremoved
    · rw [judged_edges_fresh hjudged rfl hwritten] at hkept
      cases hkept
    · exact hkeep op hop hremoved
  rw [hgone] at hw
  cases hw

theorem AdmittedRun.creations_kept (h : AdmittedRun s p scope settings binding final)
    (honce : ∀ op ∈ p.ops, op.lists_once) : CreationsKept s p where
  nodes_distinct op hop := created_ids_distinct (honce op hop)
  edges_distinct op hop := by
    obtain ⟨pre, post, hops⟩ := List.append_of_mem hop
    obtain ⟨u, v, -, -, -, hjudged⟩ := h.before hops
    exact judged_edges_distinct hjudged rfl (honce op hop)
  nodes_new op hop id hid := by
    obtain ⟨pre, post, hops⟩ := List.append_of_mem hop
    obtain ⟨u, v, -, -, -, hjudged⟩ := h.before hops
    exact judged_created_new hjudged rfl hid
  nodes_once pre op mid op' post hops id hid hid' := by
    obtain ⟨u, v, hu, hv, -, -⟩ := h.before hops
    have hsplit : p.ops = (pre ++ op :: mid) ++ op' :: post := by
      rw [hops, List.append_assoc, List.cons_append]
    obtain ⟨w, -, hw, -, -, hjudged⟩ := h.before hsplit
    obtain ⟨u', hu', hrest⟩ := foldlM_append_ok.mp hw
    by_contra hkeep
    push Not at hkeep
    -- nothing removes the node, so it is still there when it is created again
    have hnone : removed_nodes op = [] := by
      cases op <;> first | rfl | simp [created_ids, GraphOperation.created_nodes] at hid
    have hpresent : w.nodes.contains id = true := by
      refine run_node_present hrest (Or.inr ?_) ?_
      · show id ∈ ((op :: mid).flatMap GraphOperation.created_nodes).map (·.node.id)
        rw [List.flatMap_cons, List.map_append]
        exact List.mem_append_left _ hid
      · intro r hr
        rcases List.mem_cons.mp hr with rfl | hr
        · rw [hnone]
          exact List.not_mem_nil
        · exact hkeep r hr
    have habsent := judged_created_fresh hjudged hid'
    rw [Table.contains_eq_false_iff.mpr habsent] at hpresent
    cases hpresent
  edges_new pre op post hops k hk e he := by
    obtain ⟨u, -, hu, -, -, hjudged⟩ := h.before hops
    exact h.removed_between (show p.ops = [] ++ (pre ++ op :: post) from hops) rfl hu he
      (judged_edges_fresh hjudged rfl hk)
  edges_once pre op mid op' post hops k hk hk' := by
    obtain ⟨u, v, hu, hv, -, -⟩ := h.before hops
    have hsplit : p.ops = (pre ++ [op]) ++ (mid ++ op' :: post) := by
      rw [hops, List.append_assoc, List.singleton_append]
    have hdone : run_operations p s (pre ++ [op]) = .ok v :=
      foldlM_append_ok.mpr ⟨u, hu, foldlM_cons_ok.mpr ⟨v, hv, foldlM_nil_ok.mpr rfl⟩⟩
    have hsplit' : p.ops = ((pre ++ [op]) ++ mid) ++ op' :: post := by
      rw [hsplit, List.append_assoc (pre ++ [op])]
    obtain ⟨w, -, hw, -, -, hjudged⟩ := h.before hsplit'
    obtain ⟨v', hv', hmid⟩ := foldlM_append_ok.mp hw
    obtain rfl := Except.ok.inj (hdone.symm.trans hv')
    obtain ⟨e, he⟩ := written_present hv hk
    exact ⟨v, e, hdone, he, h.removed_between hsplit hdone hmid he
      (judged_edges_fresh hjudged rfl hk')⟩
  absent pre op post hops := by
    obtain ⟨u, -, hu, -, -, hjudged⟩ := h.before hops
    exact ⟨u, hu, fun id hid => judged_created_fresh hjudged hid,
      fun k hk => judged_edges_fresh hjudged rfl hk⟩

omit [TextLibrary] in
theorem CreationsKept.lists_once (h : CreationsKept s p) (hop : op ∈ p.ops) : op.lists_once := by
  cases op
  case create_nodes nodes => exact h.nodes_distinct _ hop
  case supersede_nodes nodes => exact h.edges_distinct _ hop
  case merge_nodes merges => exact h.edges_distinct _ hop
  all_goals trivial

/-- An admitted Patch loses no creation exactly when no operation lists a node
    to create, or a lifecycle edge to derive, twice. -/
theorem no_creation_lost_iff [Canonical] (h : Admitted s p scope settings binding) :
    CreationsKept s p ↔ ∀ op ∈ p.ops, op.lists_once := by
  obtain ⟨final, hrun⟩ := h.run
  exact ⟨fun hkept op hop => hkept.lists_once hop, hrun.creations_kept⟩

end Admitted

open scoped Reference

/-- A Blocker is created, connected, removed with its edge, and created and
    connected again. -/
def recreated_blocker_patch : Patch := Reference.agent_patch 1 [
  .create_nodes [Reference.question "rq/a", Reference.blocker "blk/b"],
  .create_edges [{ source := "rq/a", target := "blk/b", relation := "blocked_by" }],
  .remove_nodes ["blk/b"],
  .create_nodes [Reference.blocker "blk/b"],
  .create_edges [{ source := "rq/a", target := "blk/b", relation := "blocked_by" }]]

theorem recreated_blocker_kept :
    Admitted {} recreated_blocker_patch ["main"] {} ∧ CreationsKept {} recreated_blocker_patch := by
  have hadmitted : Admitted {} recreated_blocker_patch ["main"] {} := by decide
  exact ⟨hadmitted, (no_creation_lost_iff hadmitted).mpr (by decide)⟩

/-- One operation creates the same question twice, with two titles. -/
def repeated_question_patch : Patch := Reference.agent_patch 1 [
  .create_nodes [Reference.question "rq/a",
    { node := {
        id := "rq/a", title := "Second", body := .research_question { question := "Why?" } } }]]

/-- The Patch is admitted, and only the second question is there afterwards. -/
theorem repeated_question_lost :
    Admitted {} repeated_question_patch ["main"] {} ∧
      (∃ t, apply_valid_patch {} repeated_question_patch = .ok t ∧
        t.nodes.items.map (fun n => (n.id, n.title)) = [("rq/a", "Second")]) ∧
      ¬ CreationsKept {} repeated_question_patch := by
  refine ⟨by decide, ⟨_, Reference.eq_ok_result (by decide), by decide⟩, ?_⟩
  intro hkept
  have hdistinct := hkept.nodes_distinct _ (List.mem_singleton.mpr rfl)
  exact absurd hdistinct (by decide)

end ResearchGraph
