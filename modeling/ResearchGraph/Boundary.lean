import ResearchGraph.Judged
import ResearchGraph.Reference

/-! # The authority boundary of agents

    Whatever sequence of operations an admitted agent Patch carries, the
    beliefs of the graph before it, the relations between them, its Proposals'
    judgments, its ontology and its truth scope are the same afterwards.
-/

namespace ResearchGraph

open Lib

section

variable {p : Patch} {s t u v : GraphState} {op : GraphOperation} {k : String} {e : Edge}

/-! ### The boundary -/

/-- A relation between nodes of `s`, one of them a belief, that agents may not touch. -/
def ProtectedEdge (s : GraphState) (e : Edge) : Prop :=
  e.relation ∈ PROTECTED_EPISTEMIC_RELATIONS ∧
    s.nodes.contains e.source = true ∧ s.nodes.contains e.target = true ∧
    (is_existing_protected_node s e.source = true ∨ is_existing_protected_node s e.target = true)

/-- The Decision keeps its choice and is not newly decided. -/
def SameChoice (d : Decision) (m : Node) : Prop :=
  ∃ d', m.body = .decision d' ∧ d'.selected_option = d.selected_option ∧
    (d'.status = .decided → d.status = .decided)

/-- What an agent Patch leaves of the graph `s` it is applied to. -/
structure AgentBoundary (s : GraphState) (p : Patch) (t : GraphState) : Prop where
  beliefs_kept : ∀ id n, s.nodes.get? id = some n → n.type.protected_belief = true →
    t.nodes.get? id = some n
  relations_kept : ∀ k e, s.edges.get? k = some e →
    e.relation ∈ PROTECTED_EPISTEMIC_RELATIONS → is_existing_protected_node s e.source = true →
    is_existing_protected_node s e.target = true → t.edges.get? k = some e
  no_new_relation : ∀ k e, t.edges.get? k = some e → ProtectedEdge s e → s.edges.get? k = some e
  proposals_unjudged : ∀ id q, s.proposals.get? id = some q → ∃ q', t.proposals.get? id = some q' ∧
    (q'.status = q.status ∨ q'.status = .withdrawn)
  ontology_kept : t.ontology = s.ontology
  truth_scope_kept : t.project_truth_scope = s.project_truth_scope
  no_review : p.profile ≠ some .orchestrator → ∀ id m, t.nodes.get? id = some m →
    m.standing ≠ .asserted → ∃ n, s.nodes.get? id = some n ∧ n.standing = m.standing
  no_choice : p.profile ≠ some .orchestrator → ∀ id n d, s.nodes.get? id = some n →
    n.body = .decision d → ∀ m, t.nodes.get? id = some m → SameChoice d m

/-! ### Actions agents are refused -/

/-- No agent is permitted any of these. -/
def AGENT_REFUSED_ACTIONS : List GraphAction :=
  [.update_protected_epistemic, .remove_protected_epistemic, .supersede_protected_epistemic,
    .merge_protected_epistemic, .restructure_protected_epistemic, .resolve_proposal,
    .set_project_truth_scope, .set_ontology]

theorem agent_refused {a : GraphAction} (hauthor : p.author = some .agent)
    (h : permits p a = true) : a ∉ AGENT_REFUSED_ACTIONS := by
  simp only [permits, hauthor] at h
  cases a <;> simp_all [AGENT_REFUSED_ACTIONS, ORDINARY_AGENT_GRAPH_ACTIONS,
    ORCHESTRATOR_AGENT_GRAPH_ACTIONS]

theorem ordinary_refused (hauthor : p.author = some .agent)
    (hprofile : p.profile ≠ some .orchestrator)
    {a : GraphAction} (ha : a = .set_standing ∨ a = .decide_decision) : permits p a = false := by
  rcases ha with rfl | rfl <;>
    simp [permits, hauthor, hprofile, ORDINARY_AGENT_GRAPH_ACTIONS]

theorem mem_actions_or {base a : GraphAction} {actions : List GraphAction} (h : a ∈ actions) :
    a ∈ actions_or base actions := by
  cases actions with
  | nil => cases h
  | cons b bs => exact h

theorem mem_node_target_actions {ids : List String} {base guarded : GraphAction} {id : String}
    (hid : id ∈ ids) (hprot : is_existing_protected_node s id = true) :
    guarded ∈ node_target_actions s ids base guarded :=
  mem_actions_or (List.mem_map.mpr ⟨id, hid, by simp [hprot]⟩)

theorem mapM_ok_mem {α β ε : Type} {f : α → Except ε β} {xs : List α} {ys : List β}
    (h : xs.mapM f = .ok ys) {x : α} (hx : x ∈ xs) : ∃ y ∈ ys, f x = .ok y := by
  induction xs generalizing ys with
  | nil => cases hx
  | cons a xs ih =>
    rw [List.mapM_cons] at h
    obtain ⟨b, hb, h⟩ := except_bind_ok.mp h
    obtain ⟨bs, hbs, h⟩ := except_bind_ok.mp h
    obtain rfl := except_pure_ok.mp h
    rcases List.mem_cons.mp hx with rfl | hx
    · exact ⟨b, by simp, hb⟩
    · obtain ⟨y, hy, hfy⟩ := ih hbs hx
      exact ⟨y, by simp [hy], hfy⟩

/-- Rewriting or removing a belief needs an action agents are refused. -/
theorem changed_belief_refused {actions : List GraphAction} {id : String}
    (h : operation_actions s p op = .ok actions) (hid : id ∈ changed_nodes op)
    (hprot : is_existing_protected_node s id = true) :
    ∃ a ∈ actions, a ∈ AGENT_REFUSED_ACTIONS := by
  cases op <;> simp only [changed_nodes, List.not_mem_nil] at hid <;>
    simp only [operation_actions, Except.ok.injEq] at h
  case update_nodes updates =>
    obtain ⟨update, hmem, rfl⟩ := List.mem_map.mp hid
    obtain ⟨as, has, h⟩ := except_bind_ok.mp h
    obtain rfl := except_pure_ok.mp h
    obtain ⟨a, ha, haction⟩ := mapM_ok_mem has hmem
    simp only [update_action, hprot, if_true, Except.ok.injEq] at haction
    exact ⟨a, mem_actions_or ha, by simp [← haction, AGENT_REFUSED_ACTIONS]⟩
  case remove_nodes ids =>
    exact ⟨_, h ▸ mem_node_target_actions hid hprot, by simp [AGENT_REFUSED_ACTIONS]⟩
  case supersede_nodes nodes =>
    refine ⟨.supersede_protected_epistemic, ?_, by simp [AGENT_REFUSED_ACTIONS]⟩
    rw [← h]
    exact List.mem_append_left _ (mem_node_target_actions hid hprot)
  case merge_nodes merges =>
    refine ⟨.merge_protected_epistemic, ?_, by simp [AGENT_REFUSED_ACTIONS]⟩
    rw [← h]
    exact List.mem_append_left _ (mem_node_target_actions hid hprot)
  case set_standing node_id standing =>
    obtain rfl := List.mem_singleton.mp hid
    exact ⟨.update_protected_epistemic, by simp [← h, hprot], by simp [AGENT_REFUSED_ACTIONS]⟩

theorem protected_restructures (h : ProtectedEdge s e) :
    restructures_protected_relation s p e.relation e.source e.target = true := by
  obtain ⟨hrel, hsource, htarget, hprot⟩ := h
  simp only [restructures_protected_relation, is_new_node, hsource, htarget, Bool.not_true,
    Bool.and_false, Bool.or_self, Bool.not_false, Bool.and_true, Bool.and_eq_true,
    List.contains_iff_mem, Bool.or_eq_true]
  exact ⟨hrel, hprot⟩

/-- A lifecycle operation that writes a protected relation restructures. -/
theorem mem_node_lifecycle_actions {node_ids : List String} {pairs : List (String × String)}
    {relation source target : String} {base guarded : GraphAction}
    (hpair : (source, target) ∈ pairs)
    (hres : restructures_protected_relation s p relation source target = true) :
    .restructure_protected_epistemic ∈
      node_lifecycle_actions s p node_ids pairs relation base guarded := by
  unfold node_lifecycle_actions
  rw [if_pos (List.any_eq_true.mpr ⟨(source, target), hpair, hres⟩)]
  simp

/-- Writing a protected relation needs an action agents are refused. -/
theorem written_relation_refused {actions : List GraphAction}
    (h : operation_actions s p op = .ok actions) (hwritten : WrittenBy p u op e)
    (hprot : ProtectedEdge s e) : ∃ a ∈ actions, a ∈ AGENT_REFUSED_ACTIONS := by
  have hres := protected_restructures (p := p) hprot
  refine ⟨.restructure_protected_epistemic, ?_, by simp [AGENT_REFUSED_ACTIONS]⟩
  cases op <;> simp only [WrittenBy] at hwritten <;>
    simp only [operation_actions, Except.ok.injEq] at h
  case create_edges edges =>
    obtain ⟨raw, hraw, e₀, he₀, rfl⟩ := hwritten
    obtain ⟨-, -, hs, ht, hr, -⟩ := validated_edge_ok he₀
    simp only [with_derived_layer, hs, ht, hr] at hres
    rw [← h]
    exact mem_actions_or (List.mem_map.mpr ⟨raw, hraw, by simp [hres]⟩)
  case supersede_nodes nodes =>
    obtain ⟨item, hitem, target, htarget, rfl⟩ := hwritten
    obtain ⟨hby, -⟩ := Option.filter_eq_some_iff.mp htarget
    rw [← h]
    exact mem_node_lifecycle_actions
      (List.mem_filterMap.mpr ⟨item, hitem, by simp [hby, lifecycle_edge]⟩) hres
  case merge_nodes merges =>
    obtain ⟨item, hitem, rfl⟩ := hwritten
    rw [← h]
    exact mem_node_lifecycle_actions (List.mem_map.mpr ⟨item, hitem, rfl⟩) hres

/-- So does removing one. -/
theorem removed_relation_refused {actions : List GraphAction}
    (h : operation_actions s p op = .ok actions) (hk : k ∈ removed_edges op)
    (he : s.edges.get? k = some e) (hrel : e.relation ∈ PROTECTED_EPISTEMIC_RELATIONS)
    (hprot : is_existing_protected_node s e.source = true) :
    ∃ a ∈ actions, a ∈ AGENT_REFUSED_ACTIONS := by
  cases op <;> simp only [removed_edges, List.not_mem_nil] at hk
  simp only [operation_actions, Except.ok.injEq] at h
  refine ⟨.restructure_protected_epistemic, ?_, by simp [AGENT_REFUSED_ACTIONS]⟩
  rw [← h]
  refine mem_actions_or (List.mem_map.mpr ⟨k, hk, ?_⟩)
  simp [remove_edge_action, he, hprot, hrel]

/-! ### Decisions -/

theorem mem_of_lookup {α : Type} {text : String} {a : α} {names : List (String × α)}
    (h : names.lookup text = some a) : (text, a) ∈ names := by
  induction names with
  | nil => cases h
  | cons entry names ih =>
    rw [List.lookup_cons] at h
    split at h
    · next heq =>
      obtain rfl := Option.some.inj h
      have : text = entry.1 := by simpa using heq
      simp [this]
    · exact List.mem_cons_of_mem _ (ih h)

/-- A change set that writes no outcome keeps the choice of a Decision. -/
theorem with_changes_same_choice {mode : DecodeMode} {n m : Node} {changes : Dict String Value}
    {d : Decision} (hn : SameChoice d n) (h : n.with_changes mode changes = .ok m)
    (houtcome : writes_outcome changes = false) : SameChoice d m := by
  obtain ⟨d₁, hbody, hselected, hdecided⟩ := hn
  obtain ⟨-, -, -, -, -, hm⟩ := with_changes_ok h
  simp only [writes_outcome, Bool.or_eq_false_iff, decide_eq_false_iff_not] at houtcome
  rw [hbody] at hm
  simp only [NodeBody.with_changes, except_map_ok] at hm
  obtain ⟨d₂, hd₂, hm⟩ := hm
  simp only [Decision.with_changes, except_bind_ok, except_pure_ok] at hd₂
  obtain ⟨_, -, _, -, selected, hsel, _, -, _, -, status, hstatus, rfl⟩ := hd₂
  refine ⟨_, hm, (overlay_absent hsel houtcome.1).trans hselected, fun hst => ?_⟩
  -- the status was kept, or was spelled out as something else than `decided`
  have hst : status = .decided := hst
  unfold overlay at hstatus
  cases hget : Dict.get changes "status" with
  | none =>
    simp only [hget, Except.ok.injEq] at hstatus
    exact hdecided (hstatus.trans hst)
  | some v =>
    simp only [hget] at hstatus
    exfalso
    cases v <;> simp only [decode_literal, reduceCtorEq] at hstatus
    next text =>
    split at hstatus
    · next hlookup =>
      obtain rfl := Except.ok.inj hstatus
      rw [hst] at hlookup
      have hname : text = "decided" := by
        simpa [DecisionStatus.names] using mem_of_lookup hlookup
      exact houtcome.2 (by rw [hget, hname])
    · cases hstatus

/-! ### One operation -/

variable [TextLibrary] {scope : List String} {settings : ValidationSettings}
  {binding : ExperimentBinding}

/-- The protected edges of the graph, none of them written by the operations done. -/
def Unwritten (s : GraphState) (done : List GraphOperation) (u : GraphState) : Prop :=
  ∀ k e, u.edges.get? k = some e → ProtectedEdge s e → ∀ op ∈ done, k ∉ written_edge_ids op

/-- Shape facts of an agent Patch the steps rest on. -/
structure AgentPatch (s : GraphState) (p : Patch) (control : Option String) : Prop where
  author : p.author = some .agent
  kind : p.kind ≠ .approval
  control : p.kind = .experiment_loop → ∀ id n, some id = control →
    s.nodes.get? id = some n → n.type = .experiment

variable (hp : AgentPatch s p (control_node_id binding.control_node_id p))
  (hj : JudgedAt validate_proposal (admission_context s p scope settings binding) u op)

include hp hj

theorem agent_no_refused : ∀ actions, operation_actions s p op = .ok actions →
    ¬ ∃ a ∈ actions, a ∈ AGENT_REFUSED_ACTIONS := by
  rintro actions hactions ⟨a, ha, hrefused⟩
  obtain ⟨actions', hactions', hpermits⟩ := hj.authority rfl
  obtain rfl := Except.ok.inj (hactions.symm.trans hactions')
  exact agent_refused hp.author (hpermits a ha) hrefused

theorem agent_reaches_no_belief {id : String} {n : Node} (hn : s.nodes.get? id = some n)
    (hprot : n.type.protected_belief = true) : id ∉ reached_nodes op := by
  have hexists : is_existing_protected_node s id = true := by
    simp [is_existing_protected_node, hn, hprot]
  intro hreach
  rcases List.mem_append.mp hreach with hcreated | hchanged
  · cases op <;> simp only [GraphOperation.created_nodes, List.map_nil, List.not_mem_nil]
      at hcreated
    obtain ⟨raw, hraw, rfl⟩ := List.mem_map.mp hcreated
    have hnone := judged_nodes_new hj rfl hraw
    rw [show (admission_context s p scope settings binding).initial_state = s from rfl, hn] at hnone
    cases hnone
  · obtain ⟨actions, hactions, -⟩ := hj.authority rfl
    exact agent_no_refused hp hj actions hactions
      (changed_belief_refused hactions hchanged hexists)

theorem agent_keeps_relation (hv : apply_operation p false u op = .ok v)
    (hs : s.edges.get? k = some e) (hu : u.edges.get? k = some e)
    (hrel : e.relation ∈ PROTECTED_EPISTEMIC_RELATIONS)
    (hsource : is_existing_protected_node s e.source = true)
    (htarget : is_existing_protected_node s e.target = true) : v.edges.get? k = some e := by
  obtain ⟨actions, hactions, -⟩ := hj.authority rfl
  have hrefused := agent_no_refused hp hj actions hactions
  have hremoved {id : String} (hid : id ∈ removed_nodes op)
      (hprot : is_existing_protected_node s id = true) : False := by
    refine hrefused (changed_belief_refused hactions ?_ hprot)
    cases op <;> simp_all [removed_nodes, changed_nodes]
  refine edges_kept hv hu ?_
  rintro (hwritten | hremove | hid | hid)
  · rw [judged_edges_fresh hj rfl hwritten] at hu
    cases hu
  · exact hrefused (removed_relation_refused hactions hremove hs hrel hsource)
  · exact hremoved hid hsource
  · exact hremoved hid htarget

theorem agent_writes_no_relation (hv : apply_operation p false u op = .ok v)
    (he : v.edges.get? k = some e) (hprot : ProtectedEdge s e) :
    k ∉ written_edge_ids op ∧ u.edges.get? k = some e := by
  obtain ⟨actions, hactions, -⟩ := hj.authority rfl
  have hnot : k ∉ written_edge_ids op := fun hwritten =>
    agent_no_refused hp hj actions hactions
      (written_relation_refused hactions (written_edge hv hwritten he) hprot)
  exact ⟨hnot, (edges_origin hv he hnot).1⟩

theorem agent_judges_no_proposal (hv : apply_operation p false u op = .ok v) {id : String}
    {q q' : Proposal} (hq' : u.proposals.get? id = some q')
    (hstatus : q'.status = q.status ∨ q'.status = .withdrawn) :
    ∃ q', v.proposals.get? id = some q' ∧
      (q'.status = q.status ∨ q'.status = .withdrawn) := by
  by_cases hid : id ∈ reached_proposals op
  · cases op <;> simp only [reached_proposals, List.not_mem_nil] at hid
    case create_proposals proposals =>
      obtain ⟨raw, hraw, rfl⟩ := List.mem_map.mp hid
      have hnone := (judged_proposals_fresh hj rfl).1 raw hraw
      rw [hq'] at hnone
      cases hnone
    case resolve_proposals resolutions =>
      exact absurd (judged_resolutions hj rfl).1 hp.kind
    case withdraw_proposals withdrawals =>
      refine apply_operation_invariant (fun a => ∃ q', a.proposals.get? id = some q' ∧
        (q'.status = q.status ∨ q'.status = .withdrawn)) hv ⟨q', hq', hstatus⟩ ?_
      rintro a b hab ⟨q₁, hq₁, hst₁⟩
      cases hab
      next w q₂ hmem hq₂ =>
      have hid₂ : (withdrawn_proposal p q₂ w).id = w.id := Table.key_of_get? hq₂
      by_cases hkey : id = w.id
      · refine ⟨withdrawn_proposal p q₂ w, ?_, Or.inr rfl⟩
        rw [hkey, ← hid₂]
        exact Table.get?_put_self _ _
      · refine ⟨q₁, ?_, hst₁⟩
        rw [← hq₁]
        exact Table.get?_put_ne _ (fun h => hkey (h.trans hid₂))
  · exact ⟨q', by rw [proposals_frame hv hid, hq'], hstatus⟩

theorem agent_sets_no_config : sets_ontology op = false ∧ sets_project_truth_scope op = false := by
  obtain ⟨actions, hactions, -⟩ := hj.authority rfl
  have hrefused := agent_no_refused hp hj actions hactions
  cases op <;> simp only [sets_ontology, sets_project_truth_scope, and_self]
  · exact absurd ⟨.set_project_truth_scope, Except.ok.inj hactions ▸ List.mem_singleton_self _,
      by simp [AGENT_REFUSED_ACTIONS]⟩ hrefused
  · exact absurd ⟨.set_ontology, Except.ok.inj hactions ▸ List.mem_singleton_self _,
      by simp [AGENT_REFUSED_ACTIONS]⟩ hrefused

theorem ordinary_sets_no_standing (hprofile : p.profile ≠ some .orchestrator)
    {node_id : String} {standing : Standing} : op ≠ .set_standing node_id standing := by
  rintro rfl
  obtain ⟨actions, hactions, hpermits⟩ := hj.authority rfl
  simp only [operation_actions, Except.ok.injEq] at hactions
  split_ifs at hactions
  · have := hpermits .update_protected_epistemic (by simp [← hactions])
    exact agent_refused hp.author this (by simp [AGENT_REFUSED_ACTIONS])
  · have hpermit : permits p .set_standing = true := hpermits .set_standing (by simp [← hactions])
    rw [ordinary_refused hp.author hprofile (Or.inl rfl)] at hpermit
    cases hpermit

theorem ordinary_keeps_standing (hprofile : p.profile ≠ some .orchestrator)
    (hv : apply_operation p false u op = .ok v)
    (hu : ∀ id m, u.nodes.get? id = some m → m.standing ≠ .asserted →
      ∃ n, s.nodes.get? id = some n ∧ n.standing = m.standing) :
    ∀ id m, v.nodes.get? id = some m → m.standing ≠ .asserted →
      ∃ n, s.nodes.get? id = some n ∧ n.standing = m.standing := by
  refine apply_operation_invariant (fun a => ∀ id m, a.nodes.get? id = some m →
    m.standing ≠ .asserted → ∃ n, s.nodes.get? id = some n ∧ n.standing = m.standing) hv hu ?_
  intro a b hab ha id m hm hstanding
  -- a written node is asserted, any other is from before
  have hput {x : Node} (hx : x.standing = .asserted)
      (h : (a.nodes.put x).get? id = some m) : a.nodes.get? id = some m := by
    rw [Table.get?_put] at h
    split_ifs at h
    · obtain rfl := Option.some.inj h
      exact absurd hx hstanding
    · exact h
  have hkept {n m' : Node} (h : Rewritten p n m') : m'.standing = .asserted := by
    rw [h.standing, kept_standing, if_neg hp.kind]
  refine ha id m ?_ hstanding
  cases hab
  case create_node nodes raw hmem =>
    exact hput (x := stamped_node p.revision raw) (judged_nodes_asserted hj hp.kind hmem) hm
  case update_node hm' _ => exact hput (hkept (rewritten_of_update hm')) hm
  case supersede_node hm' _ => exact hput (hkept (rewritten_of_supersede hm')) hm
  case merge_node hm' _ => exact hput (hkept (rewritten_of_supersede hm')) hm
  case remove_nodes node_ids =>
    simp only [remove_nodes, Table.get?_filter, Option.filter_eq_some_iff] at hm
    exact hm.1
  case set_standing => exact absurd rfl (ordinary_sets_no_standing hp hj hprofile)
  all_goals exact hm

theorem ordinary_writes_no_outcome (hprofile : p.profile ≠ some .orchestrator)
    {updates : List NodeUpdate} (hop : op = .update_nodes updates) {update : NodeUpdate}
    (hmem : update ∈ updates) {n m : Node} {d d' : Decision}
    (hs : s.nodes.get? update.id = some n) (hn : n.body = .decision d)
    (hm : u.nodes.get? update.id = some m) (hm' : m.body = .decision d') :
    writes_outcome update.changes = false := by
  subst hop
  obtain ⟨m₁, hm₁, -, hgated, -⟩ := judged_update hj hmem
  obtain rfl := Option.some.inj (hm.symm.trans hm₁)
  have hcontrol : is_control_update (admission_context s p scope settings binding) update
      = false := by
    rw [Bool.eq_false_iff]
    intro hcontrol
    simp only [is_control_update, decide_eq_true_eq] at hcontrol
    have htype := hp.control hcontrol.1 update.id n hcontrol.2.1 hs
    simp [Node.type, hn, NodeBody.type] at htype
  by_contra houtcome
  have hrequires : requires_proposal m update.changes = true := by
    simpa [requires_proposal, hm'] using houtcome
  simp only [validate_gated_update, hcontrol, hrequires, Bool.false_eq_true, not_false_eq_true,
    and_self, if_true] at hgated
  rw [if_pos (show m.type = .decision by simp [Node.type, hm', NodeBody.type])] at hgated
  simp only [Check.passes_when, passes_reject, imp_false, not_and, not_not] at hgated
  have hpermit : permits p .decide_decision = true := hgated rfl
  rw [ordinary_refused hp.author hprofile (Or.inr rfl)] at hpermit
  cases hpermit

theorem ordinary_keeps_choice (hprofile : p.profile ≠ some .orchestrator)
    (hv : apply_operation p false u op = .ok v) {id : String} {n : Node} {d : Decision}
    (hs : s.nodes.get? id = some n) (hn : n.body = .decision d)
    (hu : ∀ m, u.nodes.get? id = some m → SameChoice d m) :
    ∀ m, v.nodes.get? id = some m → SameChoice d m := by
  refine apply_operation_invariant
    (fun a => ∀ m, a.nodes.get? id = some m → SameChoice d m) hv hu ?_
  intro a b hab ha m hm
  have hput {x : Node} (hx : x.id = id → SameChoice d x)
      (h : (a.nodes.put x).get? id = some m) : SameChoice d m := by
    rw [Table.get?_put] at h
    split_ifs at h with hkey
    · obtain rfl := Option.some.inj h
      exact hx hkey.symm
    · exact ha m h
  cases hab
  -- a created node has an id that the state before did not have
  case create_node nodes raw hmem =>
    refine hput (x := stamped_node p.revision raw) (fun hid => ?_) hm
    have hnone := judged_nodes_new hj rfl hmem
    rw [show raw.node.id = id from hid,
      show (admission_context s p scope settings binding).initial_state = s from rfl, hs] at hnone
    cases hnone
  case update_node updates update n₁ m₁ hmem hm₁ hn₁ =>
    refine hput (fun hid => ?_) hm
    have hkey : update.id = id := by
      rw [← hid, (rewritten_of_update hm₁).id]
      exact (Table.key_of_get? hn₁).symm
    -- the change list was judged against the Decision that stands here
    obtain ⟨-, m', hm', rfl⟩ := updated_node_ok hm₁
    obtain ⟨m₂, hm₂, -⟩ := judged_update hj hmem
    obtain ⟨d₂, hd₂, -⟩ := hu m₂ (hkey ▸ hm₂)
    have houtcome := ordinary_writes_no_outcome hp hj hprofile rfl hmem (hkey ▸ hs) hn hm₂ hd₂
    have hsame := with_changes_same_choice (ha n₁ (hkey ▸ hn₁)) hm' houtcome
    exact hsame
  case supersede_node nodes item n₁ m₁ hmem hm₁ hn₁ =>
    refine hput (fun hid => ?_) hm
    obtain ⟨body, hbody, rfl⟩ := superseded_node_ok hm₁
    have hkey : n₁.id = _ := Table.key_of_get? hn₁
    obtain ⟨d₁, hd₁, hsel, -⟩ := ha n₁ (by rw [← hid, hkey]; exact hn₁)
    simp only [hd₁, NodeBody.superseded, Option.some.injEq] at hbody
    exact ⟨_, hbody.symm, hsel, fun h => by cases h⟩
  case merge_node merges item n₁ m₁ hmem hm₁ hn₁ =>
    refine hput (fun hid => ?_) hm
    obtain ⟨body, hbody, rfl⟩ := superseded_node_ok hm₁
    have hkey : n₁.id = _ := Table.key_of_get? hn₁
    obtain ⟨d₁, hd₁, hsel, -⟩ := ha n₁ (by rw [← hid, hkey]; exact hn₁)
    simp only [hd₁, NodeBody.superseded, Option.some.injEq] at hbody
    exact ⟨_, hbody.symm, hsel, fun h => by cases h⟩
  case remove_nodes node_ids =>
    simp only [remove_nodes, Table.get?_filter, Option.filter_eq_some_iff] at hm
    exact ha m hm.1
  case set_standing => exact absurd rfl (ordinary_sets_no_standing hp hj hprofile)
  all_goals exact ha m hm

/-- One judged operation of an agent keeps the boundary. -/
theorem agent_step (hv : apply_operation p false u op = .ok v) {done : List GraphOperation}
    (hb : AgentBoundary s p u ∧ Unwritten s done u) :
    AgentBoundary s p v ∧ Unwritten s (done ++ [op]) v := by
  obtain ⟨hu, hunwritten⟩ := hb
  refine ⟨⟨?_, ?_, ?_, ?_, ?_, ?_, ?_, ?_⟩, ?_⟩
  · intro id n hn hprot
    rw [nodes_frame hv (agent_reaches_no_belief hp hj hn hprot)]
    exact hu.beliefs_kept id n hn hprot
  · intro k e hs hrel hsource htarget
    exact agent_keeps_relation hp hj hv hs (hu.relations_kept k e hs hrel hsource htarget) hrel
      hsource htarget
  · intro k e he hprot
    exact hu.no_new_relation k e (agent_writes_no_relation hp hj hv he hprot).2 hprot
  · intro id q hq
    obtain ⟨q', hq', hstatus⟩ := hu.proposals_unjudged id q hq
    exact agent_judges_no_proposal hp hj hv hq' hstatus
  · rw [ontology_frame hv (agent_sets_no_config hp hj).1, hu.ontology_kept]
  · rw [truth_scope_frame hv (agent_sets_no_config hp hj).2, hu.truth_scope_kept]
  · intro hprofile
    exact ordinary_keeps_standing hp hj hprofile hv (hu.no_review hprofile)
  · intro hprofile id n d hs hn
    exact ordinary_keeps_choice hp hj hprofile hv hs hn (hu.no_choice hprofile id n d hs hn)
  · intro k e he hprot op' hop'
    obtain ⟨hnot, hold⟩ := agent_writes_no_relation hp hj hv he hprot
    rcases List.mem_append.mp hop' with hop' | hop'
    · exact hunwritten k e hold hprot op' hop'
    · exact List.mem_singleton.mp hop' ▸ hnot

omit hp hj

/-! ### Whole Patches -/

theorem AdmittedRun.agent_patch {final : GraphState}
    (h : AdmittedRun s p scope settings binding final) (hauthor : p.author = some .agent) :
    AgentPatch s p (control_node_id binding.control_node_id p) := by
  have hshape := h.shape
  simp only [validate_patch_shape, Check.passes_bind, Check.exists_unit] at hshape
  obtain ⟨-, -, hauthorship, -, -, -, -, hcontrol, -⟩ := hshape
  refine ⟨hauthor, ?_, ?_⟩
  · intro hkind
    have hkind' : (admission_context s p scope settings binding).patch.kind = .approval := hkind
    have hauthor' : (admission_context s p scope settings binding).patch.author = some .agent :=
      hauthor
    simp [validate_authorship, hkind', hauthor'] at hauthorship
  · intro hkind id n hid hn
    have hkind' : (admission_context s p scope settings binding).patch.kind = .experiment_loop :=
      hkind
    rw [validate_experiment_control, if_pos hkind'] at hcontrol
    unfold validate_experiment_loop_authority at hcontrol
    split at hcontrol
    · simp at hcontrol
    · next m experiment hcontrolled =>
      unfold control_experiment at hcontrolled
      split at hcontrolled
      · cases hcontrolled
      · next m' hm' =>
        rw [show (admission_context s p scope settings binding).experiment_control_node_id
          = control_node_id binding.control_node_id p from rfl, ← hid] at hm'
        obtain ⟨id', hfilter, hget⟩ := Option.bind_eq_some_iff.mp hm'
        obtain ⟨hid', -⟩ := Option.filter_eq_some_iff.mp hfilter
        obtain rfl := Option.some.inj hid'
        obtain rfl := Option.some.inj (hn.symm.trans hget)
        split at hcontrolled
        · next hbody => simp [Node.type, hbody, NodeBody.type]
        · cases hcontrolled

omit [TextLibrary] in
theorem agent_boundary_refl : AgentBoundary s p s where
  beliefs_kept _ _ h _ := h
  relations_kept _ _ h _ _ _ := h
  no_new_relation _ _ h _ := h
  proposals_unjudged _ q h := ⟨q, h, Or.inl rfl⟩
  ontology_kept := rfl
  truth_scope_kept := rfl
  no_review _ _ m h _ := ⟨m, h, rfl⟩
  no_choice _ _ n d h hn m hm := by
    obtain rfl := Option.some.inj (h.symm.trans hm)
    exact ⟨d, hn, rfl, id⟩

omit [TextLibrary] in
/-- The second pass does not reach protected edges. -/
theorem AgentBoundary.committed (h : AgentBoundary s p u) (hunwritten : Unwritten s p.ops u) :
    AgentBoundary s p (stamp_patch p (rederive_layers u (stored_edge_ids p.ops))) := by
  obtain ⟨edges, hframe⟩ := rederive_layers_frame (s := u) (stored_edge_ids p.ops)
  have hedge (k : String) (e : Edge) (he : u.edges.get? k = some e) (hprot : ProtectedEdge s e) :
      k ∉ stored_edge_ids p.ops := by
    intro hk
    obtain ⟨edges, hop, hid⟩ := stored_edge_ids_mem.mp hk
    exact hunwritten k e he hprot _ hop hid
  refine ⟨?_, ?_, ?_, ?_, ?_, ?_, ?_, ?_⟩
  · simpa only [stamp_patch, hframe] using h.beliefs_kept
  · intro k e hs hrel hsource htarget
    have he := h.relations_kept k e hs hrel hsource htarget
    have hpresent {id : String} (hid : is_existing_protected_node s id = true) :
        s.nodes.contains id = true := by
      unfold is_existing_protected_node at hid
      cases hn : s.nodes.get? id with
      | none => simp [hn] at hid
      | some n => exact Table.contains_iff.mpr ⟨n, hn⟩
    have hk := hedge k e he ⟨hrel, hpresent hsource, hpresent htarget, Or.inl hsource⟩
    show (rederive_layers u _).edges.get? k = some e
    rw [rederive_layers_get?, if_neg hk, he]
  · intro k e he hprot
    have he : (rederive_layers u (stored_edge_ids p.ops)).edges.get? k = some e := he
    rw [rederive_layers_get?] at he
    split_ifs at he with hk
    · obtain ⟨e₀, he₀, rfl⟩ := Option.map_eq_some_iff.mp he
      exact absurd hk (hedge k e₀ he₀ hprot)
    · exact h.no_new_relation k e he hprot
  · simpa only [stamp_patch, hframe] using h.proposals_unjudged
  · simpa only [stamp_patch, hframe] using h.ontology_kept
  · simpa only [stamp_patch, hframe] using h.truth_scope_kept
  · simpa only [stamp_patch, hframe] using h.no_review
  · simpa only [stamp_patch, hframe] using h.no_choice

variable [Canonical]

/-- No admitted agent Patch crosses the authority boundary. -/
theorem agent_authority_boundary (h : Admitted s p scope settings binding)
    (hauthor : p.author = some .agent) (happly : apply_valid_patch s p = .ok t) :
    AgentBoundary s p t := by
  obtain ⟨final, hrun⟩ := h.run
  obtain rfl := Except.ok.inj (hrun.applied.symm.trans happly)
  have hp := hrun.agent_patch hauthor
  obtain ⟨hfinal, hunwritten⟩ := hrun.invariant
    (fun done u => AgentBoundary s p u ∧ Unwritten s done u)
    ⟨agent_boundary_refl, by simp [Unwritten]⟩
    (fun pre op post u v _ _ hj hv hb => agent_step hp hj hv hb)
  exact hfinal.committed hunwritten

end

open scoped Reference

/-- A graph with one question, and an agent that adds a blocker to it. -/
def question_graph : GraphState :=
  Reference.result (apply_valid_patch {}
    (Reference.agent_patch 1 [.create_nodes [Reference.question "rq/a"]]))

def block_question_patch : Patch := Reference.agent_patch 2 [
  .create_nodes [Reference.blocker "blk/b"],
  .create_edges [{ source := "rq/a", target := "blk/b", relation := "blocked_by" }]]

/-- The agent's blocker is admitted and the question is as it was. -/
theorem block_question_boundary :
    Admitted question_graph block_question_patch ["main"] {} ∧
      AgentBoundary question_graph block_question_patch
        (Reference.result (apply_valid_patch question_graph block_question_patch)) :=
  have hadmitted : Admitted question_graph block_question_patch ["main"] {} := by decide
  ⟨hadmitted, agent_authority_boundary hadmitted rfl (Reference.eq_ok_result (by decide))⟩

end ResearchGraph
