import ResearchGraph.Lib.Stamp
import ResearchGraph.Provenance

/-! # Revision stamps

    Every write of a Patch carries its revision: nodes in `updated_rev`, edges
    in `created_rev`, settings in `config_revisions`.  Along a history the
    revisions grow, so an object that still has an old stamp was not written.
-/

namespace ResearchGraph

open Lib

variable {p : Patch} {s t u v : GraphState} {op : GraphOperation} {r : Nat}

/-! ### Slots of a graph -/

/-- The ontology with the revision that last set it. -/
def ontology_slot (s : GraphState) : Option (OntologyState × Nat) :=
  some (s.ontology, (Dict.get s.config_revisions "ontology").getD 0)

/-- The project truth scope with the revision that last set it. -/
def truth_scope_slot (s : GraphState) : Option (List String × Nat) :=
  some (s.project_truth_scope, (Dict.get s.config_revisions "project_truth_scope").getD 0)

/-- `t` comes after `s` by writes stamped above `r`. -/
structure Forward (r : Nat) (s t : GraphState) : Prop where
  nodes : ∀ id, Since r Node.updated_rev (s.nodes.get? id) (t.nodes.get? id)
  edges : ∀ k, Since r Edge.created_rev (s.edges.get? k) (t.edges.get? k)
  ontology : Since r Prod.snd (ontology_slot s) (ontology_slot t)
  truth_scope : Since r Prod.snd (truth_scope_slot s) (truth_scope_slot t)

theorem Forward.refl (r : Nat) (s : GraphState) : Forward r s s :=
  ⟨fun _ => .refl .., fun _ => .refl .., .refl .., .refl ..⟩

theorem Forward.trans (h : Forward r s t) (h' : Forward r t u) : Forward r s u :=
  ⟨fun id => (h.nodes id).trans (h'.nodes id), fun k => (h.edges k).trans (h'.edges k),
    h.ontology.trans h'.ontology, h.truth_scope.trans h'.truth_scope⟩

/-! ### Writes -/

theorem put_node_since {a : Table Node} {m : Node} (hm : r < m.updated_rev) (id : String) :
    Since r Node.updated_rev (a.get? id) ((a.put m).get? id) := by
  rw [Table.get?_put]
  by_cases hid : id = m.id
  · exact .written (if_pos hid) hm
  · exact .of_eq (if_neg hid)

theorem put_edge_since {a : Table Edge} {e : Edge} (he : r < e.created_rev) (k : String) :
    Since r Edge.created_rev (a.get? k) ((a.put e).get? k) := by
  rw [Table.get?_put]
  by_cases hk : k = e.id
  · exact .written (if_pos hk) he
  · exact .of_eq (if_neg hk)

theorem filter_since {α : Type} [Keyed α String] {stamp : α → Nat} (a : Table α) (f : α → Bool)
    (id : String) : Since r stamp (a.get? id) ((a.filter f).get? id) := by
  rw [Table.get?_filter]
  cases h : a.get? id with
  | none => exact .of_eq rfl
  | some x =>
    by_cases hx : f x = true
    · exact .of_eq (by simp [Option.filter, hx])
    · exact .emptied (by simp [Option.filter, hx])

theorem erase_since {a : Table Edge} {edge_id : String} (k : String) :
    Since r Edge.created_rev (a.get? k) ((a.erase edge_id).get? k) := filter_since a _ k

/-- Every write of a Patch is stamped with its revision. -/
theorem write_forward {g : Bool} {a b : GraphState} (h : Write p g op a b) (hr : r < p.revision) :
    Forward r a b := by
  have hnodes {m : Node} (hm : m.updated_rev = p.revision) (id : String) :
      Since r Node.updated_rev (a.nodes.get? id) ((a.nodes.put m).get? id) :=
    put_node_since (by rw [hm]; exact hr) id
  have hedges {e : Edge} (he : e.created_rev = p.revision) (k : String) :
      Since r Edge.created_rev (a.edges.get? k) ((a.edges.put e).get? k) :=
    put_edge_since (by rw [he]; exact hr) k
  have hrest {b' : GraphState} (hn : b'.nodes = a.nodes) (he : b'.edges = a.edges)
      (ho : ontology_slot b' = ontology_slot a) (hs : truth_scope_slot b' = truth_scope_slot a) :
      Forward r a b' :=
    ⟨fun id => .of_eq (by rw [hn]), fun k => .of_eq (by rw [he]), .of_eq ho, .of_eq hs⟩
  -- what is written bears the patch's revision, what is removed is gone
  cases h
  case create_node nodes raw hmem =>
    exact ⟨hnodes rfl, fun _ => .of_eq rfl, .of_eq rfl, .of_eq rfl⟩
  case update_node n m hmem hm hn =>
    exact ⟨hnodes (rewritten_of_update hm).updated_rev, fun _ => .of_eq rfl, .of_eq rfl, .of_eq rfl⟩
  case create_edge edges raw e hmem he =>
    obtain ⟨-, -, -, -, -, -, -, hrev⟩ := validated_edge_ok he
    exact ⟨fun _ => .of_eq rfl, hedges hrev, .of_eq rfl, .of_eq rfl⟩
  case remove_edge edge_ids id hmem =>
    exact ⟨fun _ => .of_eq rfl, fun k => erase_since k, .of_eq rfl, .of_eq rfl⟩
  case remove_nodes node_ids =>
    exact ⟨fun id => filter_since a.nodes _ id, fun k => filter_since a.edges _ k, .of_eq rfl,
      .of_eq rfl⟩
  case supersede_node nodes item n m hmem hm hn =>
    refine ⟨hnodes (rewritten_of_supersede hm).updated_rev, fun k => ?_, .of_eq rfl, .of_eq rfl⟩
    simp only [connect_retired, replace_node]
    cases item.superseded_by.filter (· ≠ "") with
    | none => exact .of_eq rfl
    | some target => exact hedges rfl k
  case merge_node merges item n m hmem hm hn =>
    exact ⟨hnodes (rewritten_of_supersede hm).updated_rev, hedges rfl, .of_eq rfl, .of_eq rfl⟩
  case set_standing node_id standing n hn =>
    exact ⟨hnodes rfl, fun _ => .of_eq rfl, .of_eq rfl, .of_eq rfl⟩
  case set_project_truth_scope truth_scope repository =>
    refine ⟨fun _ => .of_eq rfl, fun _ => .of_eq rfl, .of_eq ?_, .written rfl ?_⟩
    · simp [ontology_slot, set_project_truth_scope]
    · simpa [set_project_truth_scope] using hr
  case set_ontology ontology =>
    refine ⟨fun _ => .of_eq rfl, fun _ => .of_eq rfl, .written rfl ?_, .of_eq ?_⟩
    · simpa [set_ontology] using hr
    · simp [truth_scope_slot, set_ontology]
  all_goals exact hrest rfl rfl rfl rfl

theorem operation_forward {g : Bool} (h : apply_operation p g s op = .ok t) (hr : r < p.revision) :
    Forward r s t :=
  apply_operation_invariant (Forward r s) h (.refl r s)
    (fun _ _ hab ha => ha.trans (write_forward hab hr))

theorem run_forward {ops : List GraphOperation} (h : run_operations p s ops = .ok t)
    (hr : r < p.revision) : Forward r s t :=
  foldlM_invariant (Forward r s) h (.refl r s)
    (fun _ _ _ _ hab ha => ha.trans (operation_forward hab hr))

/-! ### Patches and histories -/

theorem written_created_rev {e : Edge} (h : WrittenBy p u op e) : e.created_rev = p.revision := by
  cases op <;> simp only [WrittenBy] at h
  case create_edges edges =>
    obtain ⟨raw, -, e₀, he₀, rfl⟩ := h
    obtain ⟨-, -, -, -, -, -, -, hrev⟩ := validated_edge_ok he₀
    exact hrev
  case supersede_nodes nodes =>
    obtain ⟨item, -, target, -, rfl⟩ := h
    rfl
  case merge_nodes merges =>
    obtain ⟨item, -, rfl⟩ := h
    rfl

/-- An edge under an id that the run stores was written by the run. -/
theorem stored_created_rev {ops : List GraphOperation} (h : run_operations p s ops = .ok u)
    {k : String} {e : Edge} (hk : k ∈ stored_edge_ids ops) (he : u.edges.get? k = some e) :
    e.created_rev = p.revision := by
  obtain ⟨edges, hop, hid⟩ := stored_edge_ids_mem.mp hk
  rcases edge_provenance h he with ⟨-, hkeep⟩ | ⟨a, -⟩
  · exact absurd (Or.inl hid) (hkeep _ hop)
  · exact written_created_rev a.writtenBy

/-- The second pass and the final stamps move nothing that was there before. -/
theorem committed_forward {ops : List GraphOperation} (h : run_operations p s ops = .ok u)
    (hr : r < p.revision) :
    Forward r s (stamp_patch p (rederive_layers u (stored_edge_ids ops))) := by
  have hrun := run_forward h hr
  obtain ⟨edges, hframe⟩ := rederive_layers_frame (s := u) (stored_edge_ids ops)
  refine ⟨?_, fun k => ?_, ?_, ?_⟩
  · simpa only [stamp_patch, hframe] using hrun.nodes
  · show Since r Edge.created_rev (s.edges.get? k) ((rederive_layers u _).edges.get? k)
    rw [rederive_layers_get?]
    split_ifs with hk
    · refine Or.inr (fun e he => ?_)
      obtain ⟨e₀, he₀, rfl⟩ := Option.map_eq_some_iff.mp he
      rw [show (with_derived_layer u e₀).created_rev = e₀.created_rev from rfl,
        stored_created_rev h hk he₀]
      exact hr
    · exact hrun.edges k
  · rw [hframe]
    exact hrun.ontology
  · rw [hframe]
    exact hrun.truth_scope

variable [TextLibrary] [Canonical]

/-- A committed Patch at the next revision. -/
def Advances (s t : GraphState) : Prop := ∃ p, p.revision = s.revision + 1 ∧ Commits s p t

/-- One step of a history writes above every earlier revision. -/
theorem Advances.forward (h : Advances s t) (hr : r ≤ s.revision) :
    Forward r s t ∧ r ≤ t.revision := by
  obtain ⟨p, hrev, hcommit⟩ := h
  obtain ⟨scope, settings, binding, final, hrun, rfl⟩ := hcommit.run
  refine ⟨committed_forward hrun.run (by omega), ?_⟩
  show r ≤ max (rederive_layers final (stored_edge_ids p.ops)).revision p.revision
  omega

theorem history_forward (h : Relation.ReflTransGen Advances s t) (hr : r ≤ s.revision) :
    Forward r s t := by
  have hrun : Forward r s t ∧ r ≤ t.revision := by
    induction h with
    | refl => exact ⟨.refl r s, hr⟩
    | tail _ hstep ih =>
      obtain ⟨hforward, hrev⟩ := hstep.forward ih.2
      exact ⟨ih.1.trans hforward, hrev⟩
  exact hrun.1

end ResearchGraph
