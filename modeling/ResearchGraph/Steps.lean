import ResearchGraph.Lib.Fold
import ResearchGraph.Materialize

/-! # What an operation writes

    Every operation is a run of single writes, one for each item it carries.
    `Write` says once what a write can do; invariants and frame conditions of
    operations are proved by cases on it.
-/

namespace ResearchGraph

open Lib

/-! ### Single writes -/

/-- One iteration of the loop of an operation. -/
inductive Write (p : Patch) (generated : Bool) : GraphOperation → GraphState → GraphState → Prop
  | create_node {nodes raw s} (hmem : raw ∈ nodes) :
    Write p generated (.create_nodes nodes) s (create_node p.revision s raw)
  | update_node {updates u s n m} (hmem : u ∈ updates) (hn : s.nodes.get? u.id = some n)
    (hm : updated_node p generated n u = .ok m) :
    Write p generated (.update_nodes updates) s (replace_node s n m p.revision u.cause)
  | create_edge {edges raw s e} (hmem : raw ∈ edges)
    (he : validated_edge s.ontology p.revision raw = .ok e) :
    Write p generated (.create_edges edges) s
      { s with edges := s.edges.put (with_derived_layer s e) }
  | remove_edge {edge_ids id s} (hmem : id ∈ edge_ids) :
    Write p generated (.remove_edges edge_ids) s (remove_edge s id)
  | remove_nodes {node_ids s} :
    Write p generated (.remove_nodes node_ids) s (remove_nodes s node_ids)
  | supersede_node {nodes item s n m} (hmem : item ∈ nodes)
    (hn : s.nodes.get? item.id = some n) (hm : superseded_node p n = .ok m) :
    Write p generated (.supersede_nodes nodes) s
      (connect_retired p.revision (replace_node s n m p.revision item.cause) item.id "supersedes"
        (item.superseded_by.filter (· ≠ "")) item.explanation)
  | merge_node {merges item s n m} (hmem : item ∈ merges)
    (hn : s.nodes.get? item.duplicate = some n) (hm : superseded_node p n = .ok m) :
    Write p generated (.merge_nodes merges) s
      (connect_retired p.revision (replace_node s n m p.revision item.cause) item.duplicate
        "duplicate_of" (some item.canonical) item.explanation)
  | create_ambiguity {ambiguities raw s} (hmem : raw ∈ ambiguities) :
    Write p generated (.create_ambiguities ambiguities) s (create_ambiguity p.revision s raw)
  | resolve_ambiguity {resolutions r s a} (hmem : r ∈ resolutions)
    (ha : s.ambiguities.get? r.id = some a) :
    Write p generated (.resolve_ambiguities resolutions) s
      { s with ambiguities := s.ambiguities.put { a with status := r.status.status } }
  | create_proposal {proposals raw s} (hmem : raw ∈ proposals) :
    Write p generated (.create_proposals proposals) s (create_proposal p s raw)
  | resolve_proposal {resolutions r s q} (hmem : r ∈ resolutions)
    (hq : s.proposals.get? r.id = some q) :
    Write p generated (.resolve_proposals resolutions) s
      { s with proposals := s.proposals.put (resolved_proposal p q r) }
  | withdraw_proposal {withdrawals w s q} (hmem : w ∈ withdrawals)
    (hq : s.proposals.get? w.id = some q) :
    Write p generated (.withdraw_proposals withdrawals) s
      { s with proposals := s.proposals.put (withdrawn_proposal p q w) }
  | upsert_term {terms raw s} (hmem : raw ∈ terms) :
    Write p generated (.upsert_glossary terms) s (upsert_term p.revision s raw)
  | set_coverage {coverage s} :
    Write p generated (.set_coverage coverage) s (set_coverage s coverage)
  | set_standing {node_id standing s n} (hn : s.nodes.get? node_id = some n) :
    Write p generated (.set_standing node_id standing) s
      { s with nodes := s.nodes.put { n with standing, updated_rev := p.revision } }
  | set_project_truth_scope {truth_scope repository s} :
    Write p generated (.set_project_truth_scope truth_scope repository) s
      (set_project_truth_scope p.revision s truth_scope)
  | set_ontology {ontology s} :
    Write p generated (.set_ontology ontology) s (set_ontology p.revision s ontology)

variable {p : Patch} {generated : Bool} {s t : GraphState} {op : GraphOperation}

theorem node_ok {id : String} {n : Node} : s.node id = .ok n ↔ s.nodes.get? id = some n := by
  unfold GraphState.node
  cases s.nodes.get? id <;> simp

theorem proposal_ok {id : String} {q : Proposal} :
    s.proposal id = .ok q ↔ s.proposals.get? id = some q := by
  unfold GraphState.proposal
  cases s.proposals.get? id <;> simp

theorem update_node_ok {u : NodeUpdate} : update_node p generated s u = .ok t ↔
    ∃ n, s.nodes.get? u.id = some n ∧ ∃ m, updated_node p generated n u = .ok m ∧
      t = replace_node s n m p.revision u.cause := by
  simp only [update_node, except_bind_ok, node_ok, except_pure_ok]

theorem create_edge_ok {revision : Nat} {raw : NewEdge} : create_edge revision s raw = .ok t ↔
    ∃ e, validated_edge s.ontology revision raw = .ok e ∧
      t = { s with edges := s.edges.put (with_derived_layer s e) } := by
  unfold create_edge
  cases validated_edge s.ontology revision raw <;> simp [eq_comm]

theorem retire_node_ok {id relation explanation : String} {target : Option String}
    {cause : Option BeliefCause} :
    retire_node p s id relation target explanation cause = .ok t ↔
      ∃ n, s.nodes.get? id = some n ∧ ∃ m, superseded_node p n = .ok m ∧
        t = connect_retired p.revision (replace_node s n m p.revision cause) id relation target
          explanation := by
  simp only [retire_node, except_bind_ok, node_ok, except_pure_ok]

theorem resolve_ambiguity_ok {r : AmbiguityResolution} : resolve_ambiguity s r = .ok t ↔
    ∃ a, s.ambiguities.get? r.id = some a ∧
      t = { s with ambiguities := s.ambiguities.put { a with status := r.status.status } } := by
  unfold resolve_ambiguity
  cases s.ambiguities.get? r.id <;> simp [eq_comm]

theorem resolve_proposal_ok {r : ProposalResolution} : resolve_proposal p s r = .ok t ↔
    ∃ q, s.proposals.get? r.id = some q ∧
      t = { s with proposals := s.proposals.put (resolved_proposal p q r) } := by
  simp only [resolve_proposal, except_bind_ok, proposal_ok, except_pure_ok]

theorem withdraw_proposal_ok {w : ProposalWithdrawal} : withdraw_proposal p s w = .ok t ↔
    ∃ q, s.proposals.get? w.id = some q ∧
      t = { s with proposals := s.proposals.put (withdrawn_proposal p q w) } := by
  simp only [withdraw_proposal, except_bind_ok, proposal_ok, except_pure_ok]

theorem set_standing_ok {revision : Nat} {id : String} {standing : Standing} :
    set_standing revision s id standing = .ok t ↔
      ∃ n, s.nodes.get? id = some n ∧
        t = { s with nodes := s.nodes.put { n with standing, updated_rev := revision } } := by
  simp only [set_standing, except_bind_ok, node_ok, except_pure_ok]

/-- An operation is a run of its writes. -/
theorem apply_operation_writes (h : apply_operation p generated s op = .ok t) :
    Relation.ReflTransGen (Write p generated op) s t := by
  cases op with
  | create_nodes nodes =>
    cases h
    exact foldl_reflTransGen (fun raw hraw a => .create_node hraw)
  | update_nodes updates =>
    refine foldlM_reflTransGen h (fun u hu a b hab => ?_)
    obtain ⟨n, hn, m, hm, rfl⟩ := update_node_ok.mp hab
    exact .update_node hu hn hm
  | create_edges edges =>
    refine foldlM_reflTransGen h (fun raw hraw a b hab => ?_)
    obtain ⟨e, he, rfl⟩ := create_edge_ok.mp hab
    exact .create_edge hraw he
  | remove_edges edge_ids =>
    cases h
    exact foldl_reflTransGen (fun id hid a => .remove_edge hid)
  | remove_nodes node_ids =>
    cases h
    exact .single .remove_nodes
  | supersede_nodes nodes =>
    refine foldlM_reflTransGen h (fun item hitem a b hab => ?_)
    obtain ⟨n, hn, m, hm, rfl⟩ := retire_node_ok.mp hab
    exact .supersede_node hitem hn hm
  | merge_nodes merges =>
    refine foldlM_reflTransGen h (fun item hitem a b hab => ?_)
    obtain ⟨n, hn, m, hm, rfl⟩ := retire_node_ok.mp hab
    exact .merge_node hitem hn hm
  | create_ambiguities ambiguities =>
    cases h
    exact foldl_reflTransGen (fun raw hraw a => .create_ambiguity hraw)
  | resolve_ambiguities resolutions =>
    refine foldlM_reflTransGen h (fun r hr a b hab => ?_)
    obtain ⟨x, hx, rfl⟩ := resolve_ambiguity_ok.mp hab
    exact .resolve_ambiguity hr hx
  | create_proposals proposals =>
    cases h
    exact foldl_reflTransGen (fun raw hraw a => .create_proposal hraw)
  | resolve_proposals resolutions =>
    refine foldlM_reflTransGen h (fun r hr a b hab => ?_)
    obtain ⟨q, hq, rfl⟩ := resolve_proposal_ok.mp hab
    exact .resolve_proposal hr hq
  | withdraw_proposals withdrawals =>
    refine foldlM_reflTransGen h (fun w hw a b hab => ?_)
    obtain ⟨q, hq, rfl⟩ := withdraw_proposal_ok.mp hab
    exact .withdraw_proposal hw hq
  | upsert_glossary terms =>
    cases h
    exact foldl_reflTransGen (fun raw hraw a => .upsert_term hraw)
  | set_coverage coverage =>
    cases h
    exact .single .set_coverage
  | set_standing node_id standing =>
    obtain ⟨n, hn, rfl⟩ := set_standing_ok.mp h
    exact .single (.set_standing hn)
  | set_project_truth_scope truth_scope repository =>
    cases h
    exact .single .set_project_truth_scope
  | set_ontology ontology =>
    cases h
    exact .single .set_ontology

/-- What every write keeps, the operation keeps. -/
theorem apply_operation_invariant (P : GraphState → Prop)
    (h : apply_operation p generated s op = .ok t) (hs : P s)
    (hwrite : ∀ a b, Write p generated op a b → P a → P b) : P t := by
  have hrun := apply_operation_writes h
  clear h
  induction hrun with
  | refl => exact hs
  | tail _ hstep ih => exact hwrite _ _ hstep ih

/-- What every write leaves equal, the operation leaves equal. -/
theorem apply_operation_frame {β : Type} (g : GraphState → β)
    (h : apply_operation p generated s op = .ok t)
    (hwrite : ∀ a b, Write p generated op a b → g b = g a) : g t = g s :=
  apply_operation_invariant (fun u => g u = g s) h rfl
    (fun a b hab ha => (hwrite a b hab).trans ha)

/-! ### Fields no write reaches -/

theorem apply_operation_revision (h : apply_operation p generated s op = .ok t) :
    t.revision = s.revision :=
  apply_operation_frame GraphState.revision h (fun a b hab => by cases hab <;> rfl)

theorem apply_operation_refresh (h : apply_operation p generated s op = .ok t) :
    t.last_refresh_at = s.last_refresh_at :=
  apply_operation_frame GraphState.last_refresh_at h (fun a b hab => by cases hab <;> rfl)

end ResearchGraph
