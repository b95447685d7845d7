import ResearchGraph.Control
import ResearchGraph.Frames
import ResearchGraph.Reference
import ResearchGraph.Staging

/-! # Gates and the Proposals that would move a Decision

    An Experiment waits while a pending Proposal would change a Decision that
    governs it.  The gate looks for the Decision among the targets of updates,
    supersedes and merges; a removal, and a legacy creation over the Decision,
    move it as well and are not looked at.
-/

namespace ResearchGraph

open Lib

variable {p : Patch} {s t u v : GraphState} {q : Proposal} {d e : String} {n : Node}

/-! ### Statement -/

/-- A later approval that replays the Proposal would leave another node, or
    none, in the place of `n`. -/
def moved_by (s : GraphState) (q : Proposal) (n : Node) (p : Patch) : Prop :=
  p.kind = .approval ∧ n.updated_rev < p.revision ∧
    ∃ t, run_operations p s (graph_operations_from_proposal q.ops) = .ok t ∧
      t.nodes.get? n.id ≠ some n

/-- The Experiment `e` is governed by the Decision `n`. -/
structure Governs (s : GraphState) (e : String) (n : Node) : Prop where
  experiment : (s.experiment? e).isSome
  present : s.nodes.get? n.id = some n
  decision : n.type = .decision
  edge : ∃ edge ∈ s.edges.items,
    edge.source = e ∧ edge.relation = "governed_by" ∧ edge.target = n.id

/-- The gate of `e` reports a pending Proposal on `d`: the Experiment is not
    ready and no wake is admitted. -/
structure GateReports (s : GraphState) (e d : String) : Prop where
  reported : s!"Decision {d} has a pending proposal." ∈ experiment_graph_precondition_reasons s e
  not_ready : (experiment_graph_control s e).ready = false
  no_wake : ∀ w a, admit_experiment_watcher_invocation s e w ≠ .ok (some a)

/-- The gate of `e` sees every pending Proposal that would move the Decision `n`. -/
def GateSees (s : GraphState) (e : String) (n : Node) : Prop :=
  ∀ q ∈ s.proposals.items, q.status = .pending → ∀ p, moved_by s q n p → GateReports s e n.id

/-- The nodes a Proposal operation removes, or creates anew over what is there. -/
def displaced_ids : ProposalOperation → List String
  | .removal _ node_ids => node_ids
  | .legacy_create_nodes nodes => nodes.map (·.node.id)
  | _ => []

/-- A pending Proposal that a later approval could replay removes or recreates
    the Decision. -/
def Displaced (s : GraphState) (n : Node) : Prop :=
  ∃ q ∈ s.proposals.items, q.status = .pending ∧ (∃ op ∈ q.ops, n.id ∈ displaced_ids op) ∧
    ∃ p t, p.kind = .approval ∧ n.updated_rev < p.revision ∧
      run_operations p s (graph_operations_from_proposal q.ops) = .ok t

/-- A pending Proposal updates, supersedes or merges the Decision. -/
def Targeted (s : GraphState) (d : String) : Prop :=
  ∃ q ∈ s.proposals.items, q.status = .pending ∧ ∃ op ∈ q.ops, d ∈ op_target_ids op

/-! ### The report -/

theorem has_pending_proposal_iff : has_pending_proposal s d = true ↔ Targeted s d := by
  simp only [has_pending_proposal, proposal_changes, List.any_eq_true, decide_eq_true_eq,
    List.contains_iff_mem, Targeted]

/-- Texts that end differently are different. -/
theorem ne_of_last_chars {a b x y : String}
    (h : a.toList.reverse.take 2 ≠ b.toList.reverse.take 2) (ha : 2 ≤ a.toList.length)
    (hb : 2 ≤ b.toList.length) : x ++ a ≠ y ++ b := by
  intro heq
  apply h
  have hrev := congrArg (fun z : String => z.toList.reverse.take 2) heq
  simp only [String.toList_append, List.reverse_append] at hrev
  rw [List.take_append_of_le_length (by simpa using ha),
    List.take_append_of_le_length (by simpa using hb)] at hrev
  exact hrev

theorem pending_reason_inj {other : String}
    (h : s!"Decision {d} has a pending proposal." = s!"Decision {other} has a pending proposal.") :
    d = other := by
  have hlist := congrArg String.toList h
  simp only [String.toList_append, List.append_left_inj, List.append_right_inj, toString] at hlist
  exact String.toList_inj.mp hlist

theorem mem_decision_reasons {other : String} :
    s!"Decision {d} has a pending proposal." ∈ decision_reasons s other ↔
      d = other ∧ Targeted s d := by
  have hmissing : s!"Decision {d} has a pending proposal." ≠
      s!"Governing decision {other} is missing." :=
        ne_of_last_chars (by decide) (by decide) (by decide)
  have hundecided : s!"Decision {d} has a pending proposal." ≠
      s!"Decision {other} is not decided with a selected option." :=
    ne_of_last_chars (by decide) (by decide) (by decide)
  unfold decision_reasons
  rw [List.mem_append]
  constructor
  · rintro (hfirst | hpending)
    · split at hfirst
      · exact absurd (List.mem_singleton.mp hfirst) hmissing
      · split at hfirst
        · exact absurd (List.mem_singleton.mp hfirst) hundecided
        · cases hfirst
    · split at hpending
      · next htargeted =>
        obtain rfl := pending_reason_inj (List.mem_singleton.mp hpending)
        exact ⟨rfl, has_pending_proposal_iff.mp htargeted⟩
      · cases hpending
  · rintro ⟨rfl, htargeted⟩
    right
    rw [if_pos (has_pending_proposal_iff.mpr htargeted)]
    exact List.mem_singleton.mpr rfl

theorem not_mem_blocker_reasons {b : String} :
    s!"Decision {d} has a pending proposal." ∉ blocker_reasons s b := by
  have hmissing : s!"Decision {d} has a pending proposal." ≠ s!"Blocker {b} is missing." :=
    ne_of_last_chars (by decide) (by decide) (by decide)
  have hopen : s!"Decision {d} has a pending proposal." ≠ s!"Blocker {b} is open." :=
    ne_of_last_chars (by decide) (by decide) (by decide)
  intro hmem
  unfold blocker_reasons at hmem
  split at hmem
  · exact hmissing (List.mem_singleton.mp hmem)
  · split at hmem
    · exact hopen (List.mem_singleton.mp hmem)
    · cases hmem

/-- The gate reports a pending Proposal on a governing Decision exactly when one
    targets it. -/
theorem reported_iff : s!"Decision {d} has a pending proposal." ∈
    experiment_graph_precondition_reasons s e ↔
      d ∈ related_targets s e "governed_by" ∧ Targeted s d := by
  simp only [experiment_graph_precondition_reasons, List.mem_append, List.mem_flatMap,
    mem_decision_reasons, not_mem_blocker_reasons, and_false, exists_false, or_false]
  constructor
  · rintro ⟨_, hgoverns, rfl, htargeted⟩
    exact ⟨hgoverns, htargeted⟩
  · rintro ⟨hgoverns, htargeted⟩
    exact ⟨d, hgoverns, rfl, htargeted⟩

theorem no_wake_of_reasons (h : experiment_graph_precondition_reasons s e ≠ [])
    (w : WatcherWake) (a : ExperimentInvocationAdmission) :
    admit_experiment_watcher_invocation s e w ≠ .ok (some a) := by
  unfold admit_experiment_watcher_invocation
  split
  · simp
  · simp
  · split
    · simp
    · split
      · simp
      · -- past the argument checks, the reasons keep the wake pending
        split_ifs <;> simp

theorem gate_reports_iff (hgoverns : d ∈ related_targets s e "governed_by") :
    GateReports s e d ↔ Targeted s d := by
  constructor
  · intro hreports
    exact (reported_iff.mp hreports.reported).2
  · intro htargeted
    have hmem := reported_iff.mpr ⟨hgoverns, htargeted⟩
    have hne : experiment_graph_precondition_reasons s e ≠ [] := List.ne_nil_of_mem hmem
    exact ⟨hmem, by simpa [experiment_graph_control] using hne, no_wake_of_reasons hne⟩

/-! ### What moves a node -/

/-- A replayed operation reaches only its targets and the nodes it displaces. -/
theorem reached_of_proposal {op : ProposalOperation}
    (h : d ∈ reached_nodes (graph_operation_from_proposal op)) :
    d ∈ op_target_ids op ∨ d ∈ displaced_ids op := by
  cases op <;> simp only [graph_operation_from_proposal, reached_nodes, changed_nodes,
    GraphOperation.created_nodes, List.map_nil, List.nil_append, List.append_nil,
    List.not_mem_nil] at h
  case content_change => exact Or.inl h
  case status_change => exact Or.inl h
  case removal => exact Or.inr h
  case supersede nodes =>
    obtain ⟨item, hitem, rfl⟩ := List.mem_map.mp h
    exact Or.inl (List.mem_flatMap.mpr ⟨item, hitem, List.mem_cons_self⟩)
  case merge merges =>
    obtain ⟨item, hitem, rfl⟩ := List.mem_map.mp h
    exact Or.inl (List.mem_flatMap.mpr ⟨item, hitem, List.mem_cons_self⟩)
  case legacy_create_nodes => exact Or.inr h

/-- The node is gone, or was written by this Patch. -/
def Overwritten (p : Patch) (d : String) (s : GraphState) : Prop :=
  ∀ n, s.nodes.get? d = some n → n.updated_rev = p.revision

theorem created_overwritten {nodes : List NewNode}
    (h : d ∈ nodes.map (·.node.id) ∨ Overwritten p d s) :
    Overwritten p d (nodes.foldl (create_node p.revision) s) := by
  induction nodes generalizing s with
  | nil => exact h.resolve_left List.not_mem_nil
  | cons raw nodes ih =>
    rw [List.foldl_cons]
    apply ih
    by_cases hlater : d ∈ nodes.map (·.node.id)
    · exact Or.inl hlater
    · right
      intro n hn
      have hput : (create_node p.revision s raw).nodes.get? d =
          if d = raw.node.id then some (stamped_node p.revision raw) else s.nodes.get? d :=
        Table.get?_put _ _ _
      rw [hput] at hn
      by_cases hd : d = raw.node.id
      · rw [if_pos hd] at hn
        obtain rfl := Option.some.inj hn
        rfl
      · rw [if_neg hd] at hn
        refine h.resolve_left ?_ n hn
        intro hmem
        rcases List.mem_cons.mp hmem with hfirst | hmem
        · exact hd hfirst
        · exact hlater hmem

theorem removed_overwritten {ids : List String} (h : d ∈ ids ∨ Overwritten p d s) :
    Overwritten p d (remove_nodes s ids) := by
  intro n hn
  simp only [remove_nodes, Table.get?_filter, Option.filter_eq_some_iff, decide_eq_true_eq] at hn
  have hkey : n.id = d := Table.key_of_get? hn.1
  exact h.resolve_left (hkey ▸ hn.2) n hn.1

/-- An operation that displaces a node it does not target leaves no trace of
    the old one, and one that does neither keeps what is there. -/
theorem displaced_overwritten {op : ProposalOperation} (htarget : d ∉ op_target_ids op)
    (h : apply_operation p false s (graph_operation_from_proposal op) = .ok t)
    (hd : d ∈ displaced_ids op ∨ Overwritten p d s) : Overwritten p d t := by
  by_cases hdisplaced : d ∈ displaced_ids op
  · cases op <;> simp only [displaced_ids, List.not_mem_nil] at hdisplaced
    case removal legacy ids =>
      cases h
      exact removed_overwritten (Or.inl hdisplaced)
    case legacy_create_nodes nodes =>
      cases h
      exact created_overwritten (Or.inl hdisplaced)
  · have hframe : t.nodes.get? d = s.nodes.get? d := by
      refine nodes_frame h ?_
      intro hreached
      exact (reached_of_proposal hreached).elim htarget hdisplaced
    intro n hn
    rw [hframe] at hn
    exact hd.resolve_left hdisplaced n hn

/-- Along a replay that never targets the node, displacing it once overwrites it. -/
theorem replay_overwritten {ops : List ProposalOperation}
    (htarget : ∀ op ∈ ops, d ∉ op_target_ids op)
    (h : run_operations p s (graph_operations_from_proposal ops) = .ok t)
    (hd : (∃ op ∈ ops, d ∈ displaced_ids op) ∨ Overwritten p d s) : Overwritten p d t := by
  induction ops generalizing s with
  | nil =>
    obtain rfl := foldlM_nil_ok.mp h
    exact hd.resolve_left (by simp)
  | cons op ops ih =>
    obtain ⟨v, hv, hrest⟩ := foldlM_cons_ok.mp h
    refine ih (fun op' hop' => htarget op' (by simp [hop'])) hrest ?_
    by_cases hlater : ∃ op' ∈ ops, d ∈ displaced_ids op'
    · exact Or.inl hlater
    · right
      refine displaced_overwritten (htarget op (by simp)) hv ?_
      refine hd.imp_left ?_
      rintro ⟨op', hop', hmem⟩
      rcases List.mem_cons.mp hop' with rfl | hop'
      · exact hmem
      · exact absurd ⟨op', hop', hmem⟩ hlater

/-- A replay that neither targets nor displaces a node leaves it. -/
theorem replay_untouched {ops : List ProposalOperation}
    (htarget : ∀ op ∈ ops, d ∉ op_target_ids op) (hkeep : ∀ op ∈ ops, d ∉ displaced_ids op)
    (h : run_operations p s (graph_operations_from_proposal ops) = .ok t) :
    t.nodes.get? d = s.nodes.get? d := by
  refine foldlM_frame (fun a => a.nodes.get? d) h ?_
  intro op hop a b hab
  obtain ⟨op', hop', rfl⟩ := List.mem_map.mp hop
  refine nodes_frame hab ?_
  intro hreached
  exact (reached_of_proposal hreached).elim (htarget op' hop') (hkeep op' hop')

/-! ### Exactness -/

/-- The gate of an Experiment sees every pending Proposal that would move a
    governing Decision exactly when a Decision that such a Proposal removes or
    recreates is also the target of some pending Proposal. -/
theorem gate_sees_iff (h : Governs s e n) : GateSees s e n ↔ (Displaced s n → Targeted s n.id) := by
  have htargets : n.id ∈ related_targets s e "governed_by" := by
    obtain ⟨edge, hedge, hsource, hrelation, htarget⟩ := h.edge
    simp only [related_targets, mem_sorted_set, List.mem_map, List.mem_filter, decide_eq_true_eq]
    exact ⟨edge, ⟨hedge, hsource, hrelation⟩, htarget⟩
  constructor
  · rintro hsees ⟨q, hq, hpending, hdisplaced, p, t, hkind, hlater, hrun⟩
    by_contra hnot
    have htarget : ∀ op ∈ q.ops, n.id ∉ op_target_ids op := by
      intro op hop hmem
      exact hnot ⟨q, hq, hpending, op, hop, hmem⟩
    -- the replay leaves nothing with the old stamp, so it moves the Decision
    have hmoved : t.nodes.get? n.id ≠ some n := by
      intro hsame
      have hstamp := replay_overwritten htarget hrun (Or.inl hdisplaced) n hsame
      omega
    have hreports := hsees q hq hpending p ⟨hkind, hlater, t, hrun, hmoved⟩
    exact hnot ((gate_reports_iff htargets).mp hreports)
  · intro hcond q hq hpending p hmoved
    obtain ⟨hkind, hlater, t, hrun, hmoved⟩ := hmoved
    rw [gate_reports_iff htargets]
    by_contra hnot
    have htarget : ∀ op ∈ q.ops, n.id ∉ op_target_ids op := by
      intro op hop hmem
      exact hnot ⟨q, hq, hpending, op, hop, hmem⟩
    by_cases hdisplaced : ∃ op ∈ q.ops, n.id ∈ displaced_ids op
    · exact hnot (hcond ⟨q, hq, hpending, hdisplaced, p, t, hkind, hlater, hrun⟩)
    · push Not at hdisplaced
      apply hmoved
      rw [replay_untouched htarget hdisplaced hrun]
      exact h.present

open scoped Reference

/-- A decided Decision. -/
def chosen_decision : Node where
  id := "dec/a"
  title := "dec/a"
  body := .decision { question := "Which?", options := ["x"], selected_option := some "x",
                      status := .decided }

/-- An Experiment governed by the decided Decision, and one pending Proposal. -/
def governed_graph (ops : List ProposalOperation) : GraphState where
  revision := 1
  nodes := Table.ofList [chosen_decision,
    { id := "exp/a", title := "exp/a", body := .experiment { objective := "Try." } }]
  edges := Table.ofList [{ id := "exp/a::governed_by::dec/a", source := "exp/a", target := "dec/a",
                           relation := "governed_by", layer := .action }]
  proposals := Table.ofList [{ id := "prop/a", title := "prop/a", ops }]

theorem governed_graph_governs (ops : List ProposalOperation) :
    Governs (governed_graph ops) "exp/a" chosen_decision :=
  ⟨rfl, rfl, rfl, _, List.mem_singleton.mpr rfl, rfl, rfl, rfl⟩

/-- A Proposal that reopens the Decision, and then removes it, is seen. -/
theorem revisited_decision_seen :
    let s := governed_graph [.status_change true
      [{ id := "dec/a", changes := Table.ofList [("status", .str "revisit")] }],
      .removal true ["dec/a"]]
    Governs s "exp/a" chosen_decision ∧ Displaced s chosen_decision ∧
      GateSees s "exp/a" chosen_decision := by
  intro s
  have hgoverns : Governs s "exp/a" chosen_decision := governed_graph_governs _
  refine ⟨hgoverns, ?_, (gate_sees_iff hgoverns).mpr ?_⟩
  · exact ⟨_, List.mem_singleton.mpr rfl, rfl,
      ⟨_, List.mem_cons_of_mem _ (List.mem_singleton.mpr rfl),
      List.mem_singleton.mpr rfl⟩, Reference.human_patch 2 [], _, rfl, by decide,
      Reference.eq_ok_result (by decide)⟩
  · intro _
    exact ⟨_, List.mem_singleton.mpr rfl, rfl, _, List.mem_cons_self, by decide⟩

/-- A pending legacy Proposal that only removes the governing Decision leaves
    the Experiment ready. -/
theorem removed_decision_unseen :
    let s := governed_graph [.removal true ["dec/a"]]
    Governs s "exp/a" chosen_decision ∧
      moved_by s { id := "prop/a", title := "prop/a", ops := [.removal true ["dec/a"]] }
        chosen_decision (Reference.human_patch 2 []) ∧
      experiment_graph_precondition_reasons s "exp/a" = [] ∧
      ¬ GateSees s "exp/a" chosen_decision := by
  intro s
  have hmoved : moved_by s { id := "prop/a", title := "prop/a", ops := [.removal true ["dec/a"]] }
      chosen_decision (Reference.human_patch 2 []) :=
    ⟨rfl, by decide, _, Reference.eq_ok_result (by decide), by decide⟩
  have hready : experiment_graph_precondition_reasons s "exp/a" = [] := by decide
  refine ⟨governed_graph_governs _, hmoved, hready, ?_⟩
  intro hsees
  have hreport := (hsees _ (List.mem_singleton.mpr rfl) rfl _ hmoved).reported
  rw [hready] at hreport
  cases hreport

end ResearchGraph
