import ResearchGraph.Steps
import ResearchGraph.Validation.Patch

/-! # Frame conditions

    Which nodes, edges, Proposals and settings an operation can reach, and
    that everything else is left as it was.
-/

namespace ResearchGraph

open Lib

variable {p : Patch} {generated : Bool} {s t : GraphState} {op : GraphOperation}

/-! ### Rewritten nodes -/

theorem overlay_absent {α : Type} {changes : Dict String Value} {field : String} {current a : α}
    {decode : Value → Decoded α} (h : overlay changes field current decode = .ok a)
    (habsent : Dict.has changes field = false) : a = current := by
  unfold overlay at h
  cases hget : Dict.get changes field with
  | none =>
    simp only [hget, Except.ok.injEq] at h
    exact h.symm
  | some v => simp [Dict.has, hget] at habsent

/-- An overlay of changes keeps what is not a content field. -/
theorem with_changes_ok {mode : DecodeMode} {n m : Node} {changes : Dict String Value}
    (h : n.with_changes mode changes = .ok m) :
    m.id = n.id ∧ m.type = n.type ∧ m.standing = n.standing ∧ m.created_rev = n.created_rev ∧
      m.extension_type = n.extension_type ∧ n.body.with_changes mode changes = .ok m.body := by
  unfold Node.with_changes at h
  split at h
  · obtain ⟨title, -, h⟩ := except_bind_ok.mp h
    obtain ⟨fields, -, h⟩ := except_bind_ok.mp h
    obtain ⟨refs, -, h⟩ := except_bind_ok.mp h
    obtain ⟨body, hbody, h⟩ := except_bind_ok.mp h
    obtain rfl := except_pure_ok.mp h
    refine ⟨rfl, ?_, rfl, rfl, rfl, hbody⟩
    show body.type = n.body.type
    revert hbody
    cases n.body <;> simp only [NodeBody.with_changes, except_map_ok] <;>
      rintro ⟨b, -, rfl⟩ <;> rfl
  · cases h

/-- What an update does to the node it finds. -/
theorem updated_node_ok {n m : Node} {u : NodeUpdate} (h : updated_node p generated n u = .ok m) :
    (∀ k ∈ u.changes.keys, k ∉ immutable_fields p generated) ∧
      ∃ m', n.with_changes p.decode_mode u.changes = .ok m' ∧
        m = { m' with updated_rev := p.revision, standing := kept_standing p n } := by
  unfold updated_node at h
  simp only [] at h
  split at h
  · cases h
  · next himm =>
    rw [ne_eq, not_not, sorted_set_eq_nil, List.filter_eq_nil_iff] at himm
    refine ⟨by simpa using himm, ?_⟩
    cases hm : n.with_changes p.decode_mode u.changes with
    | error message => simp [hm] at h
    | ok m' =>
      simp only [hm, Except.ok.injEq] at h
      exact ⟨m', rfl, h.symm⟩

/-- What retiring does to a node. -/
theorem superseded_node_ok {n m : Node} (h : superseded_node p n = .ok m) :
    ∃ body, n.body.superseded = some body ∧
      m = { n with body, updated_rev := p.revision, standing := kept_standing p n } := by
  unfold superseded_node at h
  cases hb : n.body.superseded with
  | none => simp [hb] at h
  | some body =>
    simp only [hb, Except.ok.injEq] at h
    exact ⟨body, rfl, h.symm⟩

theorem superseded_type {b b' : NodeBody} (h : b.superseded = some b') : b'.type = b.type := by
  cases b <;> simp [NodeBody.superseded] at h <;> subst h <;> rfl

/-- A rewritten node: same identity and type, stamped by the Patch. -/
structure Rewritten (p : Patch) (n m : Node) : Prop where
  id : m.id = n.id
  type : m.type = n.type
  updated_rev : m.updated_rev = p.revision
  standing : m.standing = kept_standing p n
  created_rev : m.created_rev = n.created_rev
  extension_type : m.extension_type = n.extension_type

theorem rewritten_of_update {n m : Node} {u : NodeUpdate}
    (h : updated_node p generated n u = .ok m) : Rewritten p n m := by
  obtain ⟨-, m', hm', rfl⟩ := updated_node_ok h
  obtain ⟨hid, htype, -, hcreated, hext, -⟩ := with_changes_ok hm'
  exact ⟨hid, htype, rfl, rfl, hcreated, hext⟩

theorem rewritten_of_supersede {n m : Node} (h : superseded_node p n = .ok m) :
    Rewritten p n m := by
  obtain ⟨body, hbody, rfl⟩ := superseded_node_ok h
  exact ⟨rfl, superseded_type hbody, rfl, rfl, rfl, rfl⟩

/-! ### Nodes -/

/-- The nodes an operation removes. -/
def removed_nodes : GraphOperation → List String
  | .remove_nodes node_ids => node_ids
  | _ => []

/-- The nodes an operation may create, rewrite or remove. -/
def reached_nodes (op : GraphOperation) : List String :=
  op.created_nodes.map (·.node.id) ++ changed_nodes op

theorem key_put_ne {n m : Node} {id : String} (t : Table Node) (hn : t.get? id = some n)
    (hm : m.id = n.id) {k : String} (hk : k ≠ id) : (t.put m).get? k = t.get? k := by
  refine Table.get?_put_ne t ?_
  show k ≠ m.id
  rw [hm]
  exact fun h => hk (h.trans (Table.key_of_get? hn))

theorem write_nodes_frame {id : String} (hid : id ∉ reached_nodes op) {a b : GraphState}
    (h : Write p generated op a b) : b.nodes.get? id = a.nodes.get? id := by
  cases h <;> simp only [reached_nodes, GraphOperation.created_nodes, changed_nodes,
    List.append_nil, List.nil_append, List.map_nil, List.mem_map, List.mem_singleton, not_exists,
    not_and] at hid
  case create_node nodes raw hmem =>
    exact Table.get?_put_ne _ (fun h => hid raw hmem h.symm)
  case update_node u n m hmem hm hn =>
    exact key_put_ne _ hn (rewritten_of_update hm).id (fun h => hid u hmem h.symm)
  case remove_nodes node_ids =>
    simp only [remove_nodes, Table.get?_filter]
    cases hn : a.nodes.get? id with
    | none => rfl
    | some n =>
      have hkey : n.id = id := Table.key_of_get? hn
      simp [Option.filter, hkey, hid]
  case supersede_node item n m hmem hm hn =>
    exact key_put_ne _ hn (rewritten_of_supersede hm).id (fun h => hid item hmem h.symm)
  case merge_node item n m hmem hm hn =>
    exact key_put_ne _ hn (rewritten_of_supersede hm).id (fun h => hid item hmem h.symm)
  case set_standing node_id standing n hn =>
    have hm : { n with standing, updated_rev := p.revision }.id = n.id := rfl
    exact key_put_ne _ hn hm hid
  all_goals rfl

/-- An operation leaves the nodes it does not name. -/
theorem nodes_frame {id : String} (h : apply_operation p generated s op = .ok t)
    (hid : id ∉ reached_nodes op) : t.nodes.get? id = s.nodes.get? id :=
  apply_operation_frame (fun u => u.nodes.get? id) h (fun _ _ hab => write_nodes_frame hid hab)

/-! ### Edges -/

/-- The ids an operation stores edges under. -/
def written_edge_ids : GraphOperation → List String
  | .create_edges edges => edges.filterMap NewEdge.stored_id
  | .supersede_nodes nodes => nodes.filterMap (fun item =>
      (item.superseded_by.filter (· ≠ "")).map (derived_edge_id item.id "supersedes"))
  | .merge_nodes merges =>
    merges.map (fun item => derived_edge_id item.duplicate "duplicate_of" item.canonical)
  | _ => []

/-- An operation that writes edges removes no node and creates none. -/
theorem removed_nodes_of_written {k : String} (h : k ∈ written_edge_ids op) :
    removed_nodes op = [] := by
  cases op <;> first | rfl | cases h

theorem created_nodes_of_written {k : String} (h : k ∈ written_edge_ids op) :
    op.created_nodes = [] := by
  cases op <;> first | rfl | cases h

/-- An operation overwrites or removes the edge stored under `k`. -/
def drops (op : GraphOperation) (k source target : String) : Prop :=
  k ∈ written_edge_ids op ∨ k ∈ removed_edges op ∨ source ∈ removed_nodes op ∨
    target ∈ removed_nodes op

theorem validated_edge_ok {ontology : OntologyState} {revision : Nat} {raw : NewEdge} {e : Edge}
    (h : validated_edge ontology revision raw = .ok e) :
    raw.stored_id = some e.id ∧ declared_layer ontology raw.relation = some e.layer ∧
      e.source = raw.source ∧ e.target = raw.target ∧ e.relation = raw.relation ∧
      e.explanation = raw.explanation ∧ e.assessment = raw.assessment ∧
      e.created_rev = revision := by
  unfold validated_edge at h
  split at h
  · cases h
  · cases h
  · next hid hlayer =>
    cases h
    exact ⟨hid, hlayer, rfl, rfl, rfl, rfl, rfl, rfl⟩

theorem edge_put_get? {a : GraphState} {e : Edge} {k : String} (hk : k ≠ e.id) :
    (a.edges.put e).get? k = a.edges.get? k := Table.get?_put_ne _ hk

theorem filter_always (o : Option Edge) : o.filter (fun _ => true) = o := by
  cases o <;> rfl

theorem write_edges_frame {k : String} {a b : GraphState} (h : Write p generated op a b)
    (hwritten : k ∉ written_edge_ids op) (hremoved : k ∉ removed_edges op) :
    b.edges.get? k = (a.edges.get? k).filter
      (fun e => e.source ∉ removed_nodes op ∧ e.target ∉ removed_nodes op) := by
  cases h
  case remove_nodes node_ids =>
    simp only [remove_nodes, Table.get?_filter]
    congr 1
  all_goals
    simp only [removed_nodes, List.not_mem_nil, not_false_eq_true, and_self, decide_true,
      filter_always]
  case create_edge edges raw e hmem he =>
    refine edge_put_get? (fun hk : k = e.id => hwritten ?_)
    exact List.mem_filterMap.mpr ⟨raw, hmem, hk ▸ (validated_edge_ok he).1⟩
  case remove_edge edge_ids id hmem =>
    simp only [remove_edge, Table.get?_erase]
    exact if_neg (fun hk : k = id => hremoved (hk ▸ hmem))
  case supersede_node nodes item n m hmem hn hm =>
    simp only [connect_retired, replace_node]
    cases htarget : item.superseded_by.filter (· ≠ "") with
    | none => rfl
    | some target =>
      refine edge_put_get? (fun h => hwritten ?_)
      exact List.mem_filterMap.mpr ⟨item, hmem, by rw [htarget]; exact congrArg some h.symm⟩
  case merge_node merges item n m hmem hn hm =>
    exact edge_put_get? (fun h => hwritten (List.mem_map.mpr ⟨item, hmem, h.symm⟩))
  all_goals rfl

/-- An operation leaves the edges it does not write or remove, except those
    that touch a removed node. -/
theorem edges_frame {k : String} (h : apply_operation p generated s op = .ok t)
    (hwritten : k ∉ written_edge_ids op) (hremoved : k ∉ removed_edges op) :
    t.edges.get? k = (s.edges.get? k).filter
      (fun e => e.source ∉ removed_nodes op ∧ e.target ∉ removed_nodes op) := by
  by_cases hop : removed_nodes op = []
  · have hframe := apply_operation_frame (fun u => u.edges.get? k) h (fun a b hab => by
      have := write_edges_frame hab hwritten hremoved
      simpa [hop, filter_always] using this)
    simpa [hop, filter_always] using hframe
  · cases op <;> simp [removed_nodes] at hop
    cases h
    exact write_edges_frame (@Write.remove_nodes p generated _ s) hwritten hremoved

theorem edges_kept {k : String} {e : Edge} (h : apply_operation p generated s op = .ok t)
    (he : s.edges.get? k = some e) (hkeep : ¬ drops op k e.source e.target) :
    t.edges.get? k = some e := by
  simp only [drops, not_or] at hkeep
  rw [edges_frame h hkeep.1 hkeep.2.1, he]
  simp [Option.filter, hkeep.2.2]

theorem edges_origin {k : String} {e : Edge} (h : apply_operation p generated s op = .ok t)
    (he : t.edges.get? k = some e) (hwritten : k ∉ written_edge_ids op) :
    s.edges.get? k = some e ∧ ¬ drops op k e.source e.target := by
  by_cases hremoved : k ∈ removed_edges op
  · -- a removal operation erases the id and writes nothing
    cases op <;> simp [removed_edges] at hremoved
    next edge_ids =>
    cases h
    exfalso
    have hnone : ∀ (ids : List String) (u : GraphState), k ∈ ids ∨ u.edges.get? k = none →
        (ids.foldl remove_edge u).edges.get? k = none := by
      intro ids
      induction ids with
      | nil => simp
      | cons id ids ih =>
        intro u hu
        refine ih _ ?_
        by_cases hk : k = id
        · exact Or.inr (by simp [remove_edge, hk])
        · rcases hu with hu | hu
          · exact Or.inl ((List.mem_cons.mp hu).resolve_left hk)
          · exact Or.inr (by simp [remove_edge, hu])
    rw [hnone edge_ids s (Or.inl hremoved)] at he
    cases he
  · rw [edges_frame h hwritten hremoved, Option.filter_eq_some_iff] at he
    obtain ⟨hs, hends⟩ := he
    simp only [decide_eq_true_eq] at hends
    exact ⟨hs, by simp [drops, hwritten, hremoved, hends]⟩

/-! ### Proposals and settings -/

/-- The Proposals an operation may create or resolve. -/
def reached_proposals : GraphOperation → List String
  | .create_proposals proposals => proposals.map (·.id)
  | .resolve_proposals resolutions => resolutions.map (·.id)
  | .withdraw_proposals withdrawals => withdrawals.map (·.id)
  | _ => []

theorem proposals_frame {id : String} (h : apply_operation p generated s op = .ok t)
    (hid : id ∉ reached_proposals op) : t.proposals.get? id = s.proposals.get? id := by
  refine apply_operation_frame (fun u => u.proposals.get? id) h (fun a b hab => ?_)
  cases hab <;> simp only [reached_proposals, List.mem_map, not_exists, not_and] at hid
  case create_proposal raw hmem =>
    exact Table.get?_put_ne _ (fun h => hid raw hmem h.symm)
  case resolve_proposal r q hmem hq =>
    exact Table.get?_put_ne _ (fun h => hid r hmem (by rw [h]; exact (Table.key_of_get? hq).symm))
  case withdraw_proposal w q hmem hq =>
    exact Table.get?_put_ne _ (fun h => hid w hmem (by rw [h]; exact (Table.key_of_get? hq).symm))
  all_goals rfl

theorem ontology_frame (h : apply_operation p generated s op = .ok t)
    (hop : sets_ontology op = false) : t.ontology = s.ontology := by
  refine apply_operation_frame GraphState.ontology h (fun a b hab => ?_)
  cases hab <;> first | rfl | cases hop

theorem truth_scope_frame (h : apply_operation p generated s op = .ok t)
    (hop : sets_project_truth_scope op = false) :
    t.project_truth_scope = s.project_truth_scope := by
  refine apply_operation_frame GraphState.project_truth_scope h (fun a b hab => ?_)
  cases hab <;> first | rfl | cases hop

end ResearchGraph
