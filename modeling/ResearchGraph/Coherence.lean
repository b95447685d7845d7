import ResearchGraph.Judged
import ResearchGraph.Reference

/-! # Decision coherence

    A decided Decision has selected one of its options.  Every update of a
    Decision is judged against the Decision before its operation, so the rule
    sees the outcome that is stored unless an earlier update of the same
    operation has already moved it.
-/

namespace ResearchGraph

open Lib

section

variable {p : Patch} {s t u v : GraphState} {op : GraphOperation} {id : String}
  {d d' d₀ : Decision} {c : Dict String Value}

/-! ### Outcomes -/

/-- The fields of a Decision that its outcome is read from. -/
def Decision.outcome (d : Decision) : List String × Option String × DecisionStatus :=
  (d.options, d.selected_option, d.status)

/-- A decided Decision has selected one of its options. -/
def Decision.coherent (d : Decision) : Prop :=
  d.status = .decided → ∃ o ∈ d.options, d.selected_option = some o

/-- The Decision stored under `id`, if it is one. -/
def decision_at (s : GraphState) (id : String) : Option Decision :=
  match (s.nodes.get? id).map Node.body with
  | some (.decision d) => some d
  | _ => none

/-- Every Decision of the graph is coherent. -/
def Coherent (s : GraphState) : Prop := ∀ id d, decision_at s id = some d → d.coherent

/-- An update writes a field of the outcome. -/
def NodeUpdate.moves_outcome (update : NodeUpdate) : Bool :=
  Dict.has update.changes "options" || Dict.has update.changes "selected_option"
    || Dict.has update.changes "status"

/-- No Decision of `s` has its outcome moved twice by one operation. -/
def GraphOperation.moves_once (s : GraphState) : GraphOperation → Prop
  | .update_nodes updates => ∀ id, (decision_at s id).isSome →
    (updates.filter (fun update => update.id = id && update.moves_outcome)).length ≤ 1
  | _ => True

/-- No operation of the Patch moves an outcome twice, on the graph before it. -/
def MovesOnce (s : GraphState) (p : Patch) : Prop :=
  ∀ pre op post u, p.ops = pre ++ op :: post → run_operations p s pre = .ok u → op.moves_once u

/-! ### Raw fields -/

/-- A decoder that loses nothing: what it accepts is the encoding of its result. -/
def Exact {α : Type} (decode : Value → Decoded α) (encode : α → Value) : Prop :=
  ∀ v a, decode v = .ok a → v = encode a

theorem overlay_raw {α : Type} {decode : Value → Decoded α} {encode : α → Value} {k : String}
    {a b : α} (hexact : Exact decode encode) (h : overlay c k a decode = .ok b) :
    (Dict.get c k).getD (encode a) = encode b := by
  unfold overlay at h
  cases hc : Dict.get c k with
  | none =>
    simp only [hc, Except.ok.injEq] at h
    rw [h]
    rfl
  | some v =>
    simp only [hc] at h
    exact hexact v b h

theorem decode_str_exact : Exact decode_str .str := by
  intro v a h
  cases v <;> simp only [decode_str, reduceCtorEq, Except.ok.injEq] at h
  rw [h]

theorem decode_optional_str_exact : Exact (decode_optional decode_str) opt_str := by
  intro v a h
  cases v <;> simp only [decode_optional, decode_str, Except.map, reduceCtorEq,
    Except.ok.injEq] at h
  all_goals subst h; rfl

theorem mapM_decode_str {xs : List Value} {as : List String} (h : xs.mapM decode_str = .ok as) :
    xs = as.map .str := by
  induction xs generalizing as with
  | nil =>
    simp only [List.mapM_nil, except_pure_ok] at h
    rw [h]
    rfl
  | cons x xs ih =>
    simp only [List.mapM_cons, except_bind_ok, except_pure_ok] at h
    obtain ⟨a, ha, as', has, rfl⟩ := h
    rw [decode_str_exact x a ha, ih has, List.map_cons]

theorem decode_list_str_exact : Exact (decode_list decode_str) str_list := by
  intro v as h
  cases v <;> simp only [decode_list, reduceCtorEq] at h
  rw [mapM_decode_str h, str_list]

theorem decode_decision_status_exact : Exact (decode_literal DecisionStatus.names)
    (fun status => .str (literal_name DecisionStatus.names status)) := by
  intro v status h
  cases v <;> simp only [decode_literal, reduceCtorEq] at h
  next name =>
  cases hname : DecisionStatus.names.lookup name with
  | none => simp [hname] at h
  | some found =>
    simp only [hname, Except.ok.injEq] at h
    subst h
    obtain ⟨before, after, hnames, -⟩ := List.lookup_eq_some_iff.mp hname
    have hmem : (name, found) ∈ DecisionStatus.names := by simp [hnames]
    simp only [DecisionStatus.names, List.mem_cons, Prod.mk.injEq, List.not_mem_nil,
      or_false] at hmem
    rcases hmem with ⟨rfl, rfl⟩ | ⟨rfl, rfl⟩ | ⟨rfl, rfl⟩ | ⟨rfl, rfl⟩ | ⟨rfl, rfl⟩ <;> rfl

/-! ### One update -/

theorem decision_with_changes_ok (h : d.with_changes c = .ok d') :
    overlay c "options" d.options (decode_list decode_str) = .ok d'.options ∧
      overlay c "selected_option" d.selected_option (decode_optional decode_str)
        = .ok d'.selected_option ∧
      overlay c "status" d.status (decode_literal DecisionStatus.names) = .ok d'.status := by
  simp only [Decision.with_changes, except_bind_ok, except_pure_ok] at h
  obtain ⟨question, -, options, hoptions, selected, hselected, rationale, -, consequences, -,
    status, hstatus, rfl⟩ := h
  exact ⟨hoptions, hselected, hstatus⟩

/-- An update that writes no field of the outcome keeps it. -/
theorem outcome_kept {update : NodeUpdate} (h : d.with_changes update.changes = .ok d')
    (hmoves : update.moves_outcome = false) : d'.outcome = d.outcome := by
  simp only [NodeUpdate.moves_outcome, Bool.or_eq_false_iff, Dict.has, Option.isSome_eq_false_iff,
    Option.isNone_iff_eq_none] at hmoves
  obtain ⟨⟨hoptions, hselected⟩, hstatus⟩ := hmoves
  obtain ⟨hoptions', hselected', hstatus'⟩ := decision_with_changes_ok h
  simp only [overlay, hoptions, hselected, hstatus,
    Except.ok.injEq] at hoptions' hselected' hstatus'
  rw [Decision.outcome, Decision.outcome, hoptions', hselected', hstatus']

theorem coherent_of_outcome (h : d.coherent) (houtcome : d'.outcome = d.outcome) :
    d'.coherent := by
  simp only [Decision.outcome, Prod.mk.injEq] at houtcome
  obtain ⟨hoptions, hselected, hstatus⟩ := houtcome
  intro hdecided
  rw [hoptions, hselected]
  exact h (hstatus ▸ hdecided)

theorem listed_str_list {options : List String} {o : String}
    (h : listed (str_list options) (.str o) = some true) : o ∈ options := by
  simp only [listed, str_list, Option.some.injEq, List.any_eq_true, List.mem_map] at h
  obtain ⟨x, ⟨o', ho', rfl⟩, heq⟩ := h
  have hval : Value.str o = .str o' := by
    simpa [Value.loosely_equal, Value.as_numbers] using heq
  rw [Value.str.inj hval]
  exact ho'

/-- An update that its rule lets through on a Decision of the same outcome leaves
    a coherent Decision. -/
theorem coherent_of_transition (herror : decision_transition_error id d₀ c = none)
    (houtcome : d.outcome = d₀.outcome) (h : d.with_changes c = .ok d') : d'.coherent := by
  simp only [Decision.outcome, Prod.mk.injEq] at houtcome
  obtain ⟨hoptions₀, hselected₀, hstatus₀⟩ := houtcome
  obtain ⟨hoptions, hselected, hstatus⟩ := decision_with_changes_ok h
  have hoptions := overlay_raw decode_list_str_exact hoptions
  have hselected := overlay_raw decode_optional_str_exact hselected
  have hstatus := overlay_raw decode_decision_status_exact hstatus
  rw [hoptions₀] at hoptions
  rw [hselected₀] at hselected
  rw [hstatus₀] at hstatus
  intro hdecided
  unfold decision_transition_error at herror
  simp only [hoptions, hselected, hstatus, hdecided] at herror
  split_ifs at herror with hlisted hbad
  all_goals
    have hgood : opt_str d'.selected_option ≠ .null ∧
        listed (str_list d'.options) (opt_str d'.selected_option) = some true := by
      by_contra hnot
      refine hbad ⟨rfl, ?_⟩
      by_cases hnull : opt_str d'.selected_option = .null
      · exact Or.inl hnull
      · exact Or.inr (fun hl => hnot ⟨hnull, hl⟩)
    cases ho : d'.selected_option with
    | none =>
      rw [ho] at hgood
      exact absurd rfl hgood.1
    | some o =>
      rw [ho] at hgood
      exact ⟨o, listed_str_list hgood.2, rfl⟩

/-! ### One operation -/

theorem decision_at_eq_some : decision_at s id = some d ↔
    ∃ n, s.nodes.get? id = some n ∧ n.body = .decision d := by
  unfold decision_at
  cases hn : s.nodes.get? id with
  | none => simp
  | some n => cases hbody : n.body <;> simp [hbody]

theorem decision_at_put {nodes : Table Node} {m : Node} (hs : s.nodes = nodes.put m)
    (h : decision_at s id = some d) :
    (m.id = id ∧ m.body = .decision d) ∨
      (m.id ≠ id ∧ ∃ n, nodes.get? id = some n ∧ n.body = .decision d) := by
  obtain ⟨n, hn, hbody⟩ := decision_at_eq_some.mp h
  rw [hs, Table.get?_put] at hn
  by_cases hid : m.id = id
  · rw [if_pos (show id = Keyed.key m from hid.symm)] at hn
    exact Or.inl ⟨hid, Option.some.inj hn ▸ hbody⟩
  · rw [if_neg (fun hkey : id = Keyed.key m => hid hkey.symm)] at hn
    exact Or.inr ⟨hid, n, hn, hbody⟩

/-- Where the Decision after one update comes from. -/
theorem decision_after_update {update : NodeUpdate} (h : update_node p false s update = .ok t)
    (hd : decision_at t id = some d') :
    ∃ d, decision_at s id = some d ∧
      ((update.id = id ∧ d.with_changes update.changes = .ok d') ∨ (update.id ≠ id ∧ d' = d)) := by
  obtain ⟨n, hn, m, hm, rfl⟩ := update_node_ok.mp h
  have hid : m.id = update.id := (rewritten_of_update hm).id.trans (Table.key_of_get? hn)
  rcases decision_at_put (show (replace_node s n m p.revision update.cause).nodes = _ from rfl) hd
    with ⟨hmid, hbody⟩ | ⟨hmid, n', hn', hbody⟩
  · rw [hid] at hmid
    obtain ⟨-, m', hm', rfl⟩ := updated_node_ok hm
    obtain ⟨-, -, -, -, -, hchanges⟩ := with_changes_ok hm'
    have hbody : m'.body = .decision d' := hbody
    rw [hbody] at hchanges
    -- an overlay of a body keeps its constructor
    cases hnbody : n.body <;> simp only [hnbody, NodeBody.with_changes, except_map_ok, reduceCtorEq,
      and_false, exists_false, NodeBody.decision.injEq] at hchanges
    next d =>
    obtain ⟨d'', hd'', rfl⟩ := hchanges
    exact ⟨d, decision_at_eq_some.mpr ⟨n, hmid ▸ hn, hnbody⟩, Or.inl ⟨hmid, hd''⟩⟩
  · rw [hid] at hmid
    exact ⟨d', decision_at_eq_some.mpr ⟨n', hn', hbody⟩, Or.inr ⟨hmid, rfl⟩⟩

/-- Updates none of which moves the outcome of `id` keep it coherent. -/
theorem updates_keep_coherent {updates : List NodeUpdate}
    (hrun : updates.foldlM (update_node p false) s = .ok t)
    (hmoves : ∀ update ∈ updates, update.id = id → update.moves_outcome = false)
    (hs : ∀ d, decision_at s id = some d → d.coherent) :
    ∀ d, decision_at t id = some d → d.coherent := by
  refine foldlM_invariant (fun a => ∀ d, decision_at a id = some d → d.coherent) hrun hs ?_
  intro update hmem a b hab ha d' hd'
  obtain ⟨d, hd, ⟨hid, hchanges⟩ | ⟨-, rfl⟩⟩ := decision_after_update hab hd'
  · exact coherent_of_outcome (ha d hd) (outcome_kept hchanges (hmoves update hmem hid))
  · exact ha d' hd

/-- Updates that were all judged on the outcome of `d₀`, at most one of which
    moves it, leave a coherent Decision. -/
theorem updates_coherent {updates : List NodeUpdate}
    (hrun : updates.foldlM (update_node p false) s = .ok t)
    (hrules : ∀ update ∈ updates, update.id = id →
      decision_transition_error id d₀ update.changes = none)
    (hcount : (updates.filter (fun update => update.id = id && update.moves_outcome)).length ≤ 1)
    (hcoherent : d₀.coherent) (hs : ∀ d, decision_at s id = some d → d.outcome = d₀.outcome) :
    ∀ d, decision_at t id = some d → d.coherent := by
  induction updates generalizing s with
  | nil =>
    obtain rfl := foldlM_nil_ok.mp hrun
    exact fun d hd => coherent_of_outcome hcoherent (hs d hd)
  | cons update updates ih =>
    obtain ⟨a, ha, hrest⟩ := foldlM_cons_ok.mp hrun
    by_cases hmove : (decide (update.id = id) && update.moves_outcome) = true
    · -- the one move: its rule saw the outcome it overlays, and none comes after it
      rw [List.filter_cons, if_pos hmove, List.length_cons] at hcount
      have hnone : ∀ x ∈ updates, x.id = id → x.moves_outcome = false := by
        intro x hx hxid
        have hempty : updates.filter (fun update => update.id = id && update.moves_outcome) = [] :=
          List.length_eq_zero_iff.mp (by omega)
        simpa [hxid] using List.filter_eq_nil_iff.mp hempty x hx
      refine updates_keep_coherent hrest hnone ?_
      intro d' hd'
      simp only [Bool.and_eq_true, decide_eq_true_eq] at hmove
      obtain ⟨d, hd, ⟨-, hchanges⟩ | ⟨hne, -⟩⟩ := decision_after_update ha hd'
      · exact coherent_of_transition (hrules update (by simp) hmove.1) (hs d hd) hchanges
      · exact absurd hmove.1 hne
    · rw [List.filter_cons, if_neg hmove] at hcount
      refine ih hrest (fun x hx => hrules x (by simp [hx])) hcount ?_
      intro d' hd'
      obtain ⟨d, hd, ⟨hid, hchanges⟩ | ⟨-, rfl⟩⟩ := decision_after_update ha hd'
      · have hkeep : update.moves_outcome = false := by simpa [hid] using hmove
        rw [outcome_kept hchanges hkeep]
        exact hs d hd
      · exact hs d' hd

variable [TextLibrary] {ctx : OpContext}

/-- No author creates a decided Decision. -/
theorem judged_decision_undecided {nodes : List NewNode}
    (h : JudgedAt validate_proposal ctx u (.create_nodes nodes)) (hmode : ctx.mode = .admission)
    {raw : NewNode} (hraw : raw ∈ nodes) (hbody : raw.node.body = .decision d) :
    d.status ≠ .decided := by
  obtain ⟨time, repositories, hrule⟩ := h.authoring hmode
  simp only [authoring_validate, author_create_nodes, Check.passes_forEach] at hrule
  have hnode := hrule raw hraw
  simp only [author_created_node, validate_new_node_authoring, Check.passes_bind, Check.exists_unit,
    validate_new_body_authoring, hbody, validate_new_decision, Check.passes_ite, passes_reject,
    imp_false, not_or] at hnode
  intro hdecided
  have hrevisit : d.status ≠ .revisit := by rw [hdecided]; decide
  exact (hnode.2.2.1.2 hrevisit).1.2 hdecided

theorem judged_transition {updates : List NodeUpdate}
    (h : JudgedAt validate_proposal ctx u (.update_nodes updates)) (hmode : ctx.mode = .admission)
    {update : NodeUpdate} (hmem : update ∈ updates) (hd : decision_at u update.id = some d) :
    decision_transition_error update.id d update.changes = none := by
  obtain ⟨n, hn, hbody⟩ := decision_at_eq_some.mp hd
  obtain ⟨n', hn', -, -, hrule⟩ := judged_update h hmem
  obtain rfl := Option.some.inj (hn.symm.trans hn')
  have hid : n.id = update.id := Table.key_of_get? hn
  simp only [validate_decision_transition, hmode, hbody, hid] at hrule
  cases herror : decision_transition_error update.id d update.changes with
  | none => rfl
  | some error => simp [herror] at hrule

/-- One judged operation keeps every Decision coherent. -/
theorem operation_coherent (h : JudgedAt validate_proposal ctx u op) (hmode : ctx.mode = .admission)
    (honce : op.moves_once u) (hv : apply_operation p false u op = .ok v) (hu : Coherent u) :
    Coherent v := by
  have hput {a : GraphState} {m : Node} {b : GraphState} (ha : Coherent a)
      (hb : b.nodes = a.nodes.put m) (hm : ∀ d, m.body = .decision d → d.coherent) :
      Coherent b := by
    intro id d hd
    rcases decision_at_put hb hd with ⟨-, hbody⟩ | ⟨-, n, hn, hbody⟩
    · exact hm d hbody
    · exact ha id d (decision_at_eq_some.mpr ⟨n, hn, hbody⟩)
  by_cases hupdates : ∃ updates, op = .update_nodes updates
  · obtain ⟨updates, rfl⟩ := hupdates
    intro id d' hd'
    cases hd₀ : decision_at u id with
    | none =>
      -- updates create no Decision
      have hnone := foldlM_invariant (fun a => decision_at a id = none) hv hd₀ (by
        intro update _ a b hab ha
        cases hb : decision_at b id with
        | none => rfl
        | some d =>
          obtain ⟨d₁, hd₁, -⟩ := decision_after_update hab hb
          rw [ha] at hd₁
          cases hd₁)
      rw [hnone] at hd'
      cases hd'
    | some d₀ =>
      refine updates_coherent hv ?_ (honce id (by rw [hd₀]; rfl)) (hu id d₀ hd₀) ?_ d' hd'
      · rintro update hmem rfl
        exact judged_transition h hmode hmem hd₀
      · intro d hd
        rw [hd₀] at hd
        rw [Option.some.inj hd]
  · refine apply_operation_invariant Coherent hv hu (fun a b hab ha => ?_)
    have hsuperseded {n m : Node} (hm : superseded_node p n = .ok m) :
        ∀ d, m.body = .decision d → d.coherent := by
      obtain ⟨body, hbody, rfl⟩ := superseded_node_ok hm
      rintro d rfl hdecided
      cases hn : n.body <;> simp [hn, NodeBody.superseded] at hbody
      subst hbody
      cases hdecided
    cases hab
    case create_node nodes raw hmem =>
      refine hput ha rfl (fun d hbody hdecided => ?_)
      exact absurd hdecided (judged_decision_undecided h hmode hmem hbody)
    case update_node updates _ _ _ _ _ _ => exact absurd ⟨updates, rfl⟩ hupdates
    case supersede_node nodes item n m hmem hm hn =>
      refine hput ha ?_ (hsuperseded hm)
      cases item.superseded_by.filter (· ≠ "") <;> rfl
    case merge_node merges item n m hmem hm hn => exact hput ha rfl (hsuperseded hm)
    case set_standing node_id standing n hn =>
      exact hput ha rfl (fun d hbody => ha node_id d (decision_at_eq_some.mpr ⟨n, hn, hbody⟩))
    case remove_nodes node_ids =>
      intro id d hd
      obtain ⟨n, hn, hbody⟩ := decision_at_eq_some.mp hd
      simp only [remove_nodes, Table.get?_filter, Option.filter_eq_some_iff] at hn
      exact ha id d (decision_at_eq_some.mpr ⟨n, hn.1, hbody⟩)
    all_goals exact ha

/-! ### Patches and runs -/

variable [Canonical]

/-- A committed Patch none of whose operations moves an outcome twice. -/
def CommitsOnce (s t : GraphState) : Prop := ∃ p, Commits s p t ∧ MovesOnce s p

theorem CommitsOnce.coherent (h : CommitsOnce s t) (hs : Coherent s) : Coherent t := by
  obtain ⟨p, hcommit, honce⟩ := h
  obtain ⟨scope, settings, binding, final, hrun, rfl⟩ := hcommit.run
  have hfinal : Coherent final := hrun.invariant (fun _ a => Coherent a) hs (by
    intro pre op post a b hops ha hjudged hop hcoherent
    exact operation_coherent hjudged rfl (honce pre op post a hops ha) hop hcoherent)
  intro id d hd
  obtain ⟨edges, hframe⟩ := rederive_layers_frame (s := final) (stored_edge_ids p.ops)
  rw [hframe] at hd
  exact hfinal id d hd

/-- In every graph that committed Patches reach from the empty one, each moving
    an outcome at most once in an operation, decided Decisions have selected one
    of their options. -/
theorem decisions_coherent (h : Relation.ReflTransGen CommitsOnce {} s) : Coherent s := by
  induction h with
  | refl =>
    intro id d hd
    obtain ⟨n, hn, -⟩ := decision_at_eq_some.mp hd
    cases hn
  | tail _ hstep ih => exact hstep.coherent ih

end

open scoped Reference

/-- An agent poses a Decision between two options. -/
def pose_decision_patch : Patch := Reference.agent_patch 1 [
  .create_nodes [Reference.decision "dec/d" ["left", "right"]]]

def posed_graph : GraphState := Reference.result (apply_valid_patch {} pose_decision_patch)

/-- A Patch of the orchestrator that declares its choice. -/
def orchestrator_choice (updates : List NodeUpdate) : Patch :=
  { Reference.agent_patch 2 [.update_nodes updates] with
    profile := some .orchestrator
    agent_action := some .decision_choice
    authorized_by := some { space_id := "sp", user_id := "u", display_name := "U" }
    task_id := some "task" }

/-- The orchestrator selects an option and decides. -/
def choose_left : NodeUpdate where
  id := "dec/d"
  changes := Table.ofList [("selected_option", .str "left"), ("status", .str "decided")]

/-- The orchestrator narrows the options to the one it selects. -/
def only_right : NodeUpdate where
  id := "dec/d"
  changes := Table.ofList [("options", str_list ["right"]), ("selected_option", .str "right"),
    ("status", .str "decided")]

def chosen_graph : GraphState :=
  Reference.result (apply_valid_patch posed_graph (orchestrator_choice [choose_left]))

theorem posed_once : CommitsOnce {} posed_graph := by
  refine ⟨pose_decision_patch,
    ⟨["main"], {}, {}, by decide, Reference.eq_ok_result (by decide)⟩, ?_⟩
  intro pre op post u hops _
  have hmem : op ∈ pose_decision_patch.ops := by simp [hops]
  obtain rfl := List.mem_singleton.mp hmem
  trivial

/-- One choice of the orchestrator leaves a decided, coherent Decision. -/
theorem chosen_decision_coherent : ∃ d, decision_at chosen_graph "dec/d" = some d ∧
    d.status = .decided ∧ d.coherent := by
  have hchoice : CommitsOnce posed_graph chosen_graph := by
    refine ⟨orchestrator_choice [choose_left],
      ⟨["main"], {}, {}, by decide, Reference.eq_ok_result (by decide)⟩, ?_⟩
    intro pre op post u hops _
    have hmem : op ∈ (orchestrator_choice [choose_left]).ops := by simp [hops]
    obtain rfl := List.mem_singleton.mp hmem
    exact fun id _ => List.length_filter_le _ _
  exact ⟨_, rfl, rfl, decisions_coherent ((Relation.ReflTransGen.single posed_once).tail hchoice)
    "dec/d" _ rfl⟩

/-- Two choices in one operation are admitted and leave a decided Decision whose
    selection is no longer among its options. -/
theorem twice_chosen_incoherent :
    Commits {} pose_decision_patch posed_graph ∧
      Commits posed_graph (orchestrator_choice [only_right, choose_left])
        (Reference.result (apply_valid_patch posed_graph
          (orchestrator_choice [only_right, choose_left]))) ∧
      ∃ d, decision_at (Reference.result (apply_valid_patch posed_graph
          (orchestrator_choice [only_right, choose_left]))) "dec/d" = some d ∧
        d.status = .decided ∧ d.selected_option = some "left" ∧ "left" ∉ d.options :=
  ⟨⟨["main"], {}, {}, by decide, Reference.eq_ok_result (by decide)⟩,
    ⟨["main"], {}, {}, by decide, Reference.eq_ok_result (by decide)⟩,
    ⟨_, rfl, rfl, rfl, by decide⟩⟩

end ResearchGraph
