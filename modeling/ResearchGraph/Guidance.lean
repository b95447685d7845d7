import ResearchGraph.Reference
import ResearchGraph.Trace

/-! # The frame of guidance actions

    A generated action sets the stale flags of one Experiment.  It is applied
    through the same update as an authored edit, and that update also resets the
    standing of the node unless the Patch is an approval.
-/

namespace ResearchGraph

open Lib

section

variable {p first : Patch} {s t u : GraphState} {n m : Node} {ids : List String}

/-! ### The frame -/

/-- The body without its stale flags. -/
def NodeBody.unflagged : NodeBody → NodeBody
  | .experiment e =>
    .experiment { e with current_summary_stale := false, next_action_stale := false }
  | b => b

/-- What a guidance action leaves of a node: all but the flags and the stamp. -/
def Node.unflagged (n : Node) : Node := { n with body := n.body.unflagged, updated_rev := 0 }

/-- From `s` to `t` only the stale flags and the revision stamp of the nodes
    `ids` change. -/
structure OnlyGuidance (ids : List String) (s t : GraphState) : Prop where
  nodes : ∀ id, (t.nodes.get? id).map Node.unflagged = (s.nodes.get? id).map Node.unflagged
  others : ∀ id, id ∉ ids → t.nodes.get? id = s.nodes.get? id
  edges : t.edges = s.edges
  proposals : t.proposals = s.proposals

theorem OnlyGuidance.refl (ids : List String) (s : GraphState) : OnlyGuidance ids s s :=
  ⟨fun _ => rfl, fun _ _ => rfl, rfl, rfl⟩

theorem OnlyGuidance.trans {ids' : List String} (h : OnlyGuidance ids s t)
    (h' : OnlyGuidance ids' t u) : OnlyGuidance (ids ++ ids') s u := by
  refine ⟨fun id => (h'.nodes id).trans (h.nodes id), fun id hid => ?_,
    h'.edges.trans h.edges, h'.proposals.trans h.proposals⟩
  rw [List.mem_append, not_or] at hid
  exact (h'.others id hid.2).trans (h.others id hid.1)

/-- The nodes a list of operations updates. -/
def targets (ops : List GraphOperation) : List String :=
  ops.flatMap (fun op => op.updates.map (·.id))

/-! ### One generated action -/

/-- The operation sets stale flags of an Experiment that is there. -/
structure Guides (s : GraphState) (op : GraphOperation) (id : String) (n : Node) : Prop where
  action : ∃ flags, op = guidance_action id flags ∧ ∀ f ∈ flags, f.1 ∈ GUIDANCE_STALE_FIELDS
  stored : s.nodes.get? id = some n
  experiment : n.type = .experiment

/-- An Experiment changed in its stale flags only. -/
theorem with_flags {mode : DecodeMode} {c : Dict String Value} (htype : n.type = .experiment)
    (hkeys : ∀ k ∈ c.keys, k ∈ GUIDANCE_STALE_FIELDS) (h : n.with_changes mode c = .ok m) :
    m.unflagged = n.unflagged := by
  have habsent {k : String} (hk : k ∉ GUIDANCE_STALE_FIELDS) : Dict.has c k = false := by
    cases hhas : Dict.has c k with
    | false => rfl
    | true =>
      exact absurd
        (hkeys k (by rwa [Table.mem_keys_iff, ← Table.contains, ← Dict.has_eq_contains])) hk
  have hceiling : ceiling_key c = "invocation_ceiling" := by
    rw [ceiling_key, habsent (by decide)]
    rfl
  unfold Node.with_changes at h
  split at h
  · simp only [except_bind_ok, except_pure_ok] at h
    obtain ⟨title, htitle, fields, hfields, refs, hrefs, body, hbody, rfl⟩ := h
    obtain rfl := overlay_absent htitle (habsent (by decide))
    obtain rfl := overlay_absent hfields (habsent (by decide))
    obtain rfl := overlay_absent hrefs (habsent (by decide))
    cases hn : n.body with
    | experiment e =>
      simp only [hn, NodeBody.with_changes, except_map_ok, Experiment.with_changes, hceiling,
        except_bind_ok, except_pure_ok] at hbody
      -- every field but the two flags is read from the node
      obtain ⟨e', ⟨a₁, h₁, a₂, h₂, a₃, h₃, a₄, h₄, a₅, h₅, a₆, h₆, a₇, h₇, a₈, h₈, a₉, h₉, a₁₀, h₁₀,
        b, -, b', -, rfl⟩, rfl⟩ := hbody
      obtain rfl := overlay_absent h₁ (habsent (by decide))
      obtain rfl := overlay_absent h₂ (habsent (by decide))
      obtain rfl := overlay_absent h₃ (habsent (by decide))
      obtain rfl := overlay_absent h₄ (habsent (by decide))
      obtain rfl := overlay_absent h₅ (habsent (by decide))
      obtain rfl := overlay_absent h₆ (habsent (by decide))
      obtain rfl := overlay_absent h₇ (habsent (by decide))
      obtain rfl := overlay_absent h₈ (habsent (by decide))
      obtain rfl := overlay_absent h₉ (habsent (by decide))
      obtain rfl := overlay_absent h₁₀ (habsent (by decide))
      simp [Node.unflagged, NodeBody.unflagged, hn]
    | _ => simp [Node.type, hn, NodeBody.type] at htype
  · cases h

/-- What one generated action does: it writes the flags, and the standing an
    authored edit of the same Patch would leave. -/
theorem guidance_step {op : GraphOperation} {id : String} (hop : Guides s op id n)
    (h : apply_transition_generated_operation s p op = .ok t) :
    ∃ m, m.id = id ∧ m.type = .experiment ∧
      m.unflagged = { n.unflagged with standing := kept_standing p n } ∧
      t.nodes = s.nodes.put m ∧ t.edges = s.edges ∧ t.proposals = s.proposals := by
  obtain ⟨flags, rfl, hflags⟩ := hop.action
  obtain ⟨u, hu, rfl⟩ := apply_generated_operation_ok.mp h
  obtain ⟨a, ha, hnil⟩ := foldlM_cons_ok.mp hu
  obtain rfl := foldlM_nil_ok.mp hnil
  obtain ⟨n', hn', m, hm, rfl⟩ := update_node_ok.mp ha
  obtain rfl := Option.some.inj (hop.stored.symm.trans hn')
  obtain ⟨-, m', hm', rfl⟩ := updated_node_ok hm
  obtain ⟨hid, htype, -⟩ := with_changes_ok hm'
  have hkeys : ∀ k ∈ (Table.ofList (flags.map (fun f => (f.1, Value.bool f.2)))).keys,
      k ∈ GUIDANCE_STALE_FIELDS := by
    intro k hk
    obtain ⟨e, he, rfl⟩ := List.mem_map.mp hk
    obtain ⟨f, hf, rfl⟩ := List.mem_map.mp (Table.mem_of_mem_ofList he)
    exact hflags f hf
  have hsame := with_flags hop.experiment hkeys hm'
  refine ⟨_, ?_, ?_, ?_, rfl, rfl, rfl⟩
  · exact hid.trans (Table.key_of_get? hop.stored)
  · exact htype.trans hop.experiment
  · rw [← hsame]
    rfl

theorem guidance_targets {op : GraphOperation} {id : String} (hop : Guides s op id n) :
    targets [op] = [id] := by
  obtain ⟨flags, rfl, -⟩ := hop.action
  rfl

/-- The frame of one generated action that keeps the standing. -/
theorem guidance_step_frame {op : GraphOperation} {id : String} (hop : Guides s op id n)
    (hstanding : kept_standing p n = n.standing)
    (h : apply_transition_generated_operation s p op = .ok t) :
    OnlyGuidance (targets [op]) s t := by
  obtain ⟨m, hid, -, hm, hnodes, hedges, hproposals⟩ := guidance_step hop h
  have hsame : m.unflagged = n.unflagged := by
    rw [hm, hstanding]
    rfl
  rw [guidance_targets hop]
  refine ⟨fun x => ?_, fun x hx => ?_, hedges, hproposals⟩
  · rw [hnodes, Table.get?_put]
    split_ifs with hx
    · have hx : x = id := hx.trans hid
      rw [hx, hop.stored, Option.map_some, Option.map_some, hsame]
    · rfl
  · rw [hnodes, Table.get?_put_ne]
    intro hkey
    exact hx (List.mem_singleton.mpr (hkey.trans hid))

/-! ### A run of generated actions -/

/-- Every operation sets stale flags of an Experiment of the graph. -/
def Guidance (s : GraphState) (ops : List GraphOperation) : Prop :=
  ∀ op ∈ ops, ∃ id n, Guides s op id n

theorem Guidance.step {op : GraphOperation} {ops : List GraphOperation}
    (h : Guidance s (op :: ops)) (hstep : apply_transition_generated_operation s p op = .ok t) :
    Guidance t ops := by
  obtain ⟨id, n, hop⟩ := h op (by simp)
  obtain ⟨m, hid, htype, -, hnodes, -, -⟩ := guidance_step hop hstep
  intro op' hop'
  obtain ⟨id', n', haction, hstored, hexperiment⟩ := h op' (by simp [hop'])
  by_cases hx : id' = id
  · refine ⟨id', m, haction, ?_, htype⟩
    rw [hnodes, hx, ← hid]
    exact Table.get?_put_self _ m
  · refine ⟨id', n', haction, ?_, hexperiment⟩
    rw [hnodes, Table.get?_put_ne]
    · exact hstored
    · exact fun hkey => hx (hkey.trans hid)

theorem Guidance.run {pre post : List GraphOperation} (h : Guidance s (pre ++ post))
    (hrun : pre.foldlM (fun u op => apply_transition_generated_operation u p op) s = .ok t) :
    Guidance t post := by
  induction pre generalizing s with
  | nil =>
    obtain rfl := foldlM_nil_ok.mp hrun
    exact h
  | cons op pre ih =>
    obtain ⟨u, hu, hrest⟩ := foldlM_cons_ok.mp hrun
    exact ih (Guidance.step h hu) hrest

/-- The update path keeps the standing of every node the operations target. -/
def KeepsStanding (p : Patch) (s : GraphState) (ops : List GraphOperation) : Prop :=
  p.kind = .approval ∨
    ∀ id ∈ targets ops, ∀ n, s.nodes.get? id = some n → n.standing = .asserted

theorem KeepsStanding.kept {op : GraphOperation} {ops : List GraphOperation} {id : String}
    (h : KeepsStanding p s (op :: ops)) (hop : Guides s op id n) :
    kept_standing p n = n.standing := by
  rcases h with hkind | hasserted
  · rw [kept_standing, if_pos hkind]
  · have hmem : id ∈ targets (op :: ops) := by
      have htargets := guidance_targets hop
      simp only [targets, List.flatMap_cons, List.flatMap_nil, List.append_nil] at htargets ⊢
      simp [htargets]
    have hn := hasserted id hmem n hop.stored
    unfold kept_standing
    split_ifs
    · rfl
    · exact hn.symm

/-- The standing survives everything that only touches guidance. -/
theorem OnlyGuidance.standing (h : OnlyGuidance ids s t) {id : String}
    (hm : t.nodes.get? id = some m) : ∃ n, s.nodes.get? id = some n ∧ n.standing = m.standing := by
  have hnodes := h.nodes id
  rw [hm, Option.map_some] at hnodes
  obtain ⟨n, hn, hsame⟩ := Option.map_eq_some_iff.mp hnodes.symm
  have hstanding : n.unflagged.standing = m.unflagged.standing := by rw [hsame]
  exact ⟨n, hn, hstanding⟩

theorem KeepsStanding.later {pre post : List GraphOperation} (h : KeepsStanding p s (pre ++ post))
    (hframe : OnlyGuidance ids s t) : KeepsStanding p t post := by
  rcases h with hkind | hasserted
  · exact Or.inl hkind
  · refine Or.inr (fun id hid m hm => ?_)
    obtain ⟨n, hn, hstanding⟩ := hframe.standing hm
    rw [← hstanding]
    exact hasserted id (by simp [targets] at hid ⊢; exact Or.inr hid) n hn

/-- A run of generated actions that keeps the standings touches only flags. -/
theorem guidance_run_frame {ops : List GraphOperation} (hops : Guidance s ops)
    (hkeeps : KeepsStanding p s ops)
    (h : ops.foldlM (fun u op => apply_transition_generated_operation u p op) s = .ok t) :
    OnlyGuidance (targets ops) s t := by
  induction ops generalizing s with
  | nil =>
    obtain rfl := foldlM_nil_ok.mp h
    exact .refl _ _
  | cons op ops ih =>
    obtain ⟨u, hu, hrest⟩ := foldlM_cons_ok.mp h
    obtain ⟨id, n, hop⟩ := hops op (by simp)
    have hfirst := guidance_step_frame hop (hkeeps.kept hop) hu
    have hkeeps_rest : KeepsStanding p s ([op] ++ ops) := hkeeps
    have hlater := ih (hops.step hu) (hkeeps_rest.later hfirst) hrest
    have hframe := hfirst.trans hlater
    rwa [targets, targets, ← List.flatMap_append] at hframe

/-- Outside approvals a run of generated actions leaves its targets asserted. -/
theorem guidance_run_standing {ops : List GraphOperation} (hops : Guidance s ops)
    (hkind : p.kind ≠ .approval)
    (h : ops.foldlM (fun u op => apply_transition_generated_operation u p op) s = .ok t)
    {id : String}
    (hid : id ∈ targets ops ∨ ∃ n, s.nodes.get? id = some n ∧ n.standing = .asserted) :
    ∃ m, t.nodes.get? id = some m ∧ m.standing = .asserted := by
  induction ops generalizing s with
  | nil =>
    obtain rfl := foldlM_nil_ok.mp h
    rcases hid with hid | hid
    · cases hid
    · exact hid
  | cons op ops ih =>
    obtain ⟨u, hu, hrest⟩ := foldlM_cons_ok.mp h
    obtain ⟨x, n, hop⟩ := hops op (by simp)
    obtain ⟨m, hx, -, hm, hnodes, -, -⟩ := guidance_step hop hu
    have hasserted : m.standing = .asserted := by
      have hstanding : m.standing = kept_standing p n := congrArg Node.standing hm
      rw [hstanding, kept_standing, if_neg hkind]
    refine ih (hops.step hu) hrest ?_
    by_cases hsame : id = x
    · refine Or.inr ⟨m, ?_, hasserted⟩
      rw [hnodes, hsame, ← hx]
      exact Table.get?_put_self _ m
    · rcases hid with hid | ⟨n', hn', hstanding⟩
      · left
        have htargets := guidance_targets hop
        simp only [targets, List.flatMap_cons, List.flatMap_nil, List.append_nil] at htargets hid ⊢
        rw [htargets] at hid
        simpa [hsame] using hid
      · refine Or.inr ⟨n', ?_, hstanding⟩
        rw [hnodes, Table.get?_put_ne]
        · exact hn'
        · exact fun hkey => hsame (hkey.trans hx)

/-! ### Prepared transitions -/

theorem bare_of_same (h : s.same t = true) : s.bare = t.bare := by
  simp only [GraphState.same, Bool.and_eq_true, beq_iff_eq] at h
  rw [← h.2]
  rfl

/-- The generated actions of a graph are about its Experiments. -/
theorem guidance_of_actions {timeline : List TimelineStep} {actions : List (Patch × GraphOperation)}
    (htimeline : ∀ step ∈ timeline, step.index < actions.length) :
    Guidance s ((guidance_actions s timeline actions).map Prod.fst) := by
  intro op hop
  obtain ⟨x, hx, rfl⟩ := List.mem_map.mp hop
  simp only [guidance_actions, List.mem_flatMap] at hx
  obtain ⟨id, -, hx⟩ := hx
  cases he : s.experiment? id with
  | none => simp [he] at hx
  | some e =>
    simp only [he, guidance_actions_of, List.mem_map] at hx
    obtain ⟨cause, -, rfl⟩ := hx
    unfold GraphState.experiment? at he
    cases hn : s.nodes.get? id with
    | none => simp [hn] at he
    | some n =>
      refine ⟨id, n, ⟨_, rfl, fun f hf => ?_⟩, hn, ?_⟩
      · obtain ⟨z, hz, rfl⟩ := List.mem_map.mp hf
        exact (stale_flag_cause htimeline (List.mem_filter.mp hz).1).2
      · rw [hn, Option.map_some] at he
        cases hbody : n.body <;> simp [hbody] at he
        simp [Node.type, NodeBody.type, hbody]

/-- Every generated action of the closure, and all of them up to the prepared
    graph, touch guidance only. -/
structure GuidanceConfined (first : Patch) (t : GraphState) (ops : List GraphOperation)
    (prepared : GraphState) : Prop where
  each : ∀ pre op post a b, ops = pre ++ op :: post →
    pre.foldlM (fun u op => apply_transition_generated_operation u first op) t = .ok a →
    apply_transition_generated_operation a first op = .ok b → OnlyGuidance (targets [op]) a b
  all : OnlyGuidance (targets ops) t prepared

variable [Canonical]

/-- The generated actions of an accepted preparation change nothing but guidance
    flags and revision stamps, compared with the graph `t` of the initiating
    operations alone, exactly when no standing is there to be reset. -/
theorem guidance_confined_iff {rest : List Patch} {pre_head : Option GraphHeadRef} {k : Nat}
    {r : PreparedTransition} {steps : List TimelineStep}
    (h : prepare_validated s (first :: rest) pre_head k = .ok r)
    (ht : apply_timeline s (source_actions (first :: rest)) = .ok (steps, t)) :
    GuidanceConfined first t
        ((guidance_actions t steps (source_actions (first :: rest))).map Prod.fst) r.graph ↔
      first.kind = .approval ∨
        ∀ id ∈ targets ((guidance_actions t steps (source_actions (first :: rest))).map Prod.fst),
          ∀ n, t.nodes.get? id = some n → n.standing = .asserted := by
  -- the closure that preparation computed is the one named in the statement
  simp only [prepare_validated, except_bind_ok] at h
  obtain ⟨_, -, c, hclosure, combined, -, candidate, -, h⟩ := h
  split_ifs at h with hsame
  obtain rfl := except_pure_ok.mp h
  obtain ⟨t', ht', hgenerated, hrun⟩ := transition_closure_ok hclosure
  obtain ⟨rfl, rfl⟩ := Prod.mk.inj (Except.ok.inj (ht.symm.trans ht'))
  have hgraph : candidate.bare = c.final.bare := bare_of_same (by simpa using hsame)
  have htimeline : ∀ step ∈ c.initiating, step.index < (source_actions (first :: rest)).length := by
    obtain ⟨final, htimeline, -⟩ := apply_timeline_ok.mp ht
    simpa using timeline_indexes htimeline
  rw [hgenerated] at hrun
  have hops := guidance_of_actions (s := t) htimeline
  have hfinal := generated_final hrun
  generalize (guidance_actions t c.initiating (source_actions (first :: rest))).map Prod.fst = ops
    at hops hfinal ⊢
  constructor
  · intro hconfined
    by_cases hkind : first.kind = .approval
    · exact Or.inl hkind
    · refine Or.inr (fun id hid n hn => ?_)
      obtain ⟨m, hm, hasserted⟩ := guidance_run_standing hops hkind hfinal (Or.inl hid)
      rw [← nodes_of_bare hgraph] at hm
      obtain ⟨n', hn', hstanding⟩ := hconfined.all.standing hm
      obtain rfl := Option.some.inj (hn.symm.trans hn')
      exact hstanding.trans hasserted
  · intro hkeeps
    refine ⟨fun pre op post a b hsplit ha hb => ?_, ?_⟩
    · subst hsplit
      have hpre : Guidance t pre := fun op hop => hops op (by simp [hop])
      have hkept : KeepsStanding first t pre := by
        refine Or.imp_right (fun hasserted id hid => hasserted id ?_) hkeeps
        simp only [targets, List.flatMap_append, List.mem_append] at hid ⊢
        exact Or.inl hid
      have hframe := guidance_run_frame hpre hkept ha
      obtain ⟨id, n, hop⟩ := Guidance.run hops ha op (by simp)
      exact guidance_step_frame hop ((KeepsStanding.later hkeeps hframe).kept hop) hb
    · have hframe := guidance_run_frame hops hkeeps hfinal
      have hedges : candidate.edges = c.final.edges := by rw [bare_eq hgraph.symm]; rfl
      have hproposals : candidate.proposals = c.final.proposals := by rw [bare_eq hgraph.symm]; rfl
      refine ⟨?_, ?_, hedges.trans hframe.edges, hproposals.trans hframe.proposals⟩
      · rw [nodes_of_bare hgraph]
        exact hframe.nodes
      · rw [nodes_of_bare hgraph]
        exact hframe.others

end

open scoped Reference

/-- An Experiment with a summary, and a Blocker. -/
def planned_patch : Patch := Reference.agent_patch 1 [.create_nodes [
  { node := { id := "exp/e", title := "e", body := .experiment {
      objective := "Measure.", current_summary := "Ready." } } },
  Reference.blocker "blk/b"]]

/-- The graph after a human accepted the Experiment. -/
def accepted_graph : GraphState :=
  Reference.result (do
    let s ← apply_valid_patch {} planned_patch
    apply_valid_patch s (Reference.human_patch 2 [.set_standing "exp/e" .accepted]))

def block_experiment : List GraphOperation :=
  [.create_edges [{ source := "exp/e", target := "blk/b", relation := "blocked_by" }]]

/-- A prepared transition on that graph. -/
def prepared_block (p : Patch) : Applied PreparedTransition := prepare_validated accepted_graph [p]

/-- A human who blocks the Experiment keeps its standing and stales its summary. -/
theorem approval_block_confined : ∃ steps t r,
    apply_timeline accepted_graph (source_actions [Reference.human_patch 3 block_experiment])
      = .ok (steps, t) ∧
    prepared_block (Reference.human_patch 3 block_experiment) = .ok r ∧
    GuidanceConfined (Reference.human_patch 3 block_experiment) t
      ((guidance_actions t steps
        (source_actions [Reference.human_patch 3 block_experiment])).map Prod.fst) r.graph ∧
    targets ((guidance_actions t steps
      (source_actions [Reference.human_patch 3 block_experiment])).map Prod.fst) = ["exp/e"] := by
  obtain ⟨⟨steps, t⟩, ht⟩ := Reference.exists_ok
    (x := apply_timeline accepted_graph (source_actions [Reference.human_patch 3 block_experiment]))
    (by decide)
  obtain ⟨r, hr⟩ := Reference.exists_ok
    (x := prepared_block (Reference.human_patch 3 block_experiment)) (by decide)
  refine ⟨steps, t, r, ht, hr, (guidance_confined_iff hr ht).mpr (Or.inl rfl), ?_⟩
  cases ht
  decide

/-- An agent that blocks the Experiment takes the human's standing from it. -/
theorem agent_block_resets_standing : ∃ steps t r,
    apply_timeline accepted_graph (source_actions [Reference.agent_patch 3 block_experiment])
      = .ok (steps, t) ∧
    prepared_block (Reference.agent_patch 3 block_experiment) = .ok r ∧
    (t.nodes.get? "exp/e").map (·.standing) = some .accepted ∧
    (r.graph.nodes.get? "exp/e").map (·.standing) = some .asserted ∧
    ¬ GuidanceConfined (Reference.agent_patch 3 block_experiment) t
      ((guidance_actions t steps
        (source_actions [Reference.agent_patch 3 block_experiment])).map Prod.fst) r.graph := by
  obtain ⟨⟨steps, t⟩, ht⟩ := Reference.exists_ok
    (x := apply_timeline accepted_graph (source_actions [Reference.agent_patch 3 block_experiment]))
    (by decide)
  obtain ⟨r, hr⟩ := Reference.exists_ok
    (x := prepared_block (Reference.agent_patch 3 block_experiment)) (by decide)
  have hbefore : (t.nodes.get? "exp/e").map (·.standing) = some .accepted := by
    cases ht
    decide
  have hafter : (r.graph.nodes.get? "exp/e").map (·.standing) = some .asserted := by
    cases hr
    decide
  refine ⟨steps, t, r, ht, hr, hbefore, hafter, fun hconfined => ?_⟩
  obtain ⟨m, hm, hstanding⟩ := Option.map_eq_some_iff.mp hafter
  obtain ⟨n, hn, hsame⟩ := hconfined.all.standing hm
  rw [hn, Option.map_some, hsame, hstanding] at hbefore
  cases hbefore

end ResearchGraph
