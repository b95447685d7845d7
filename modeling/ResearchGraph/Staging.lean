import ResearchGraph.Admission
import ResearchGraph.Frames

/-! # Staged runs

    The validator stages one operation at a time with `apply_valid_operation`;
    a committed Patch is applied as a whole.  Up to the refresh stamp a staged
    operation is the bare operation, so both runs go through the same graphs
    and differ only in the second pass over written edges at the end.
-/

namespace ResearchGraph

open Lib

variable {p : Patch} {s t u : GraphState} {op : GraphOperation} {ops : List GraphOperation}

/-! ### Edges an operation writes -/

/-- `e` is an edge that `op` writes on the graph `s`. -/
def WrittenBy (p : Patch) (s : GraphState) (op : GraphOperation) (e : Edge) : Prop :=
  match op with
  | .create_edges edges => ∃ raw ∈ edges, ∃ e₀,
      validated_edge s.ontology p.revision raw = .ok e₀ ∧ e = with_derived_layer s e₀
  | .supersede_nodes nodes => ∃ item ∈ nodes, ∃ target,
      item.superseded_by.filter (· ≠ "") = some target ∧
        e = lifecycle_edge item.id "supersedes" target item.explanation p.revision
  | .merge_nodes merges => ∃ item ∈ merges,
      e = lifecycle_edge item.duplicate "duplicate_of" item.canonical item.explanation p.revision
  | _ => False

theorem with_derived_layer_congr {a : GraphState} (h : a.nodes = s.nodes) (e : Edge) :
    with_derived_layer a e = with_derived_layer s e := by
  simp [with_derived_layer, edge_layer, h]

theorem created_edge_written {edges : List NewEdge} {k : String} {e : Edge}
    (h : edges.foldlM (create_edge p.revision) s = .ok t)
    (hk : k ∈ edges.filterMap NewEdge.stored_id) (he : t.edges.get? k = some e) :
    WrittenBy p s (.create_edges edges) e := by
  obtain ⟨raw, hraw, hid⟩ := List.mem_filterMap.mp hk
  refine foldlM_slot (fun a => a.nodes = s.nodes ∧ a.ontology = s.ontology)
    (fun a => a.edges.get? k) (fun raw => raw.stored_id = some k)
    (WrittenBy p s (.create_edges edges)) h ⟨rfl, rfl⟩ ?_ ?_ ?_ (Or.inl ⟨raw, hraw, hid⟩) e he
  · intro x _ a b hab ha
    obtain ⟨e₀, -, rfl⟩ := create_edge_ok.mp hab
    exact ha
  · intro x hx a b hab ⟨hnodes, hont⟩ hW v hv
    obtain ⟨e₀, he₀, rfl⟩ := create_edge_ok.mp hab
    rw [hont] at he₀
    have hkey : k = e₀.id := Option.some.inj (hW.symm.trans (validated_edge_ok he₀).1)
    have hput : (a.edges.put (with_derived_layer a e₀)).get? k
        = some (with_derived_layer a e₀) := by
      rw [hkey]
      exact Table.get?_put_self _ _
    obtain rfl : with_derived_layer a e₀ = v := Option.some.inj (hput.symm.trans hv)
    exact ⟨x, hx, e₀, he₀, with_derived_layer_congr hnodes e₀⟩
  · intro x _ a b hab hW
    obtain ⟨e₀, he₀, rfl⟩ := create_edge_ok.mp hab
    exact edge_put_get? (fun hk => hW (hk ▸ (validated_edge_ok he₀).1))

/-- Retirement writes one edge or none. -/
theorem retired_edge_written {α : Type} {xs : List α} {f : GraphState → α → Applied GraphState}
    {k : String} {e : Edge} (edge : α → Option Edge) (h : xs.foldlM f s = .ok t)
    (hf : ∀ x ∈ xs, ∀ a b, f a x = .ok b → b.edges = (edge x).elim a.edges a.edges.put)
    (hk : ∃ x ∈ xs, (edge x).map Edge.id = some k) (he : t.edges.get? k = some e) :
    ∃ x ∈ xs, edge x = some e := by
  refine foldlM_slot (fun _ => True) (fun a => a.edges.get? k)
    (fun x => (edge x).map Edge.id = some k) (fun e => ∃ x ∈ xs, edge x = some e) h trivial
    (fun _ _ _ _ _ _ => trivial) ?_ ?_ (Or.inl hk) e he
  · intro x hx a b hab _ hW v hv
    obtain ⟨e', he', rfl⟩ := Option.map_eq_some_iff.mp hW
    rw [hf x hx a b hab, he'] at hv
    have hput : (a.edges.put e').get? e'.id = some e' := Table.get?_put_self _ _
    exact ⟨x, hx, he'.trans (hput.symm.trans hv)⟩
  · intro x hx a b hab hW
    simp only [hf x hx a b hab]
    cases he' : edge x with
    | none => rfl
    | some e' =>
      exact edge_put_get? (fun hk => hW (by rw [he']; exact congrArg some hk.symm))

/-- The edge stored under an id the operation writes is one it wrote. -/
theorem written_edge {g : Bool} {k : String} {e : Edge} (h : apply_operation p g s op = .ok t)
    (hk : k ∈ written_edge_ids op) (he : t.edges.get? k = some e) : WrittenBy p s op e := by
  cases op <;> simp only [written_edge_ids, List.not_mem_nil] at hk
  case create_edges edges => exact created_edge_written h hk he
  case supersede_nodes nodes =>
    obtain ⟨item, hitem, hid⟩ := List.mem_filterMap.mp hk
    have hf : ∀ x ∈ nodes, ∀ a b, supersede_node p a x = .ok b → b.edges =
        ((x.superseded_by.filter (· ≠ "")).map (fun target =>
          lifecycle_edge x.id "supersedes" target x.explanation p.revision)).elim
            a.edges a.edges.put := by
      intro x _ a b hab
      obtain ⟨n, -, m, -, rfl⟩ := retire_node_ok.mp hab
      simp only [connect_retired, replace_node]
      cases x.superseded_by.filter (· ≠ "") <;> rfl
    obtain ⟨x, hx, hxe⟩ := retired_edge_written _ h hf
      ⟨item, hitem, by simpa [lifecycle_edge, Option.map_map, Function.comp_def] using hid⟩ he
    obtain ⟨target, htarget, rfl⟩ := Option.map_eq_some_iff.mp hxe
    exact ⟨x, hx, target, htarget, rfl⟩
  case merge_nodes merges =>
    obtain ⟨item, hitem, hid⟩ := List.mem_map.mp hk
    have hf : ∀ x ∈ merges, ∀ a b, merge_node p a x = .ok b → b.edges =
        (some (lifecycle_edge x.duplicate "duplicate_of" x.canonical x.explanation
          p.revision)).elim a.edges a.edges.put := by
      intro x _ a b hab
      obtain ⟨n, -, m, -, rfl⟩ := retire_node_ok.mp hab
      rfl
    have hwritten : ∃ x ∈ merges, (some (lifecycle_edge x.duplicate "duplicate_of" x.canonical
        x.explanation p.revision)).map Edge.id = some k :=
      ⟨item, hitem, congrArg some hid⟩
    obtain ⟨x, hx, hxe⟩ := retired_edge_written
      (fun x : NodeMerge =>
        some (lifecycle_edge x.duplicate "duplicate_of" x.canonical x.explanation
        p.revision)) h hf hwritten he
    exact ⟨x, hx, by simpa using hxe.symm⟩

/-! ### The second pass over written edges -/

@[simp] theorem edge_layer_idem (source target : String) (layer : RelationLayer) :
    edge_layer s source target (edge_layer s source target layer)
      = edge_layer s source target layer := by
  unfold edge_layer
  split_ifs <;> (try rfl)
  cases s.nodes.get? source <;> cases s.nodes.get? target <;> simp

@[simp] theorem with_derived_layer_idem (e : Edge) :
    with_derived_layer s (with_derived_layer s e) = with_derived_layer s e := by
  simp [with_derived_layer]

theorem rederive_edge_get? (id k : String) :
    (rederive_edge s id).edges.get? k =
      if k = id then (s.edges.get? k).map (with_derived_layer s) else s.edges.get? k := by
  unfold rederive_edge
  cases he : s.edges.get? id with
  | none =>
    by_cases hk : k = id
    · simp [hk, he]
    · simp [hk]
  | some e =>
    have hkey : (with_derived_layer s e).id = id := Table.key_of_get? he
    by_cases hk : k = id
    · subst hk
      have hput := Table.get?_put_self s.edges (with_derived_layer s e)
      rw [show Keyed.key (with_derived_layer s e) = k from hkey] at hput
      simp [hput, he]
    · simp only [hk, if_false]
      exact edge_put_get? (fun h => hk (h.trans hkey))

theorem rederive_edge_frame (id : String) :
    ∃ edges, rederive_edge s id = { s with edges } := by
  unfold rederive_edge
  cases s.edges.get? id with
  | none => exact ⟨s.edges, rfl⟩
  | some e => exact ⟨_, rfl⟩

/-- The second pass touches nothing but edges. -/
theorem rederive_layers_frame (ids : List String) :
    ∃ edges, rederive_layers s ids = { s with edges } := by
  induction ids generalizing s with
  | nil => exact ⟨s.edges, rfl⟩
  | cons id ids ih =>
    obtain ⟨edges, h⟩ := rederive_edge_frame (s := s) id
    obtain ⟨edges', h'⟩ := ih (s := { s with edges })
    exact ⟨edges', by rw [← h'] ; exact congrArg (rederive_layers · ids) h⟩

/-- The second pass and the final stamps leave the nodes. -/
theorem committed_nodes (p : Patch) (ids : List String) :
    (stamp_patch p (rederive_layers s ids)).nodes = s.nodes := by
  obtain ⟨edges, hframe⟩ := rederive_layers_frame (s := s) ids
  rw [hframe]
  rfl

/-- The second pass derives the layers of the edges it is given. -/
theorem rederive_layers_get? (ids : List String) (k : String) :
    (rederive_layers s ids).edges.get? k =
      if k ∈ ids then (s.edges.get? k).map (with_derived_layer s) else s.edges.get? k := by
  induction ids generalizing s with
  | nil => rfl
  | cons id ids ih =>
    have hnodes : (rederive_edge s id).nodes = s.nodes := by
      obtain ⟨edges, h⟩ := rederive_edge_frame (s := s) id
      rw [h]
    have hlayer : with_derived_layer (rederive_edge s id) = with_derived_layer s :=
      funext (with_derived_layer_congr hnodes)
    show (rederive_layers (rederive_edge s id) ids).edges.get? k = _
    rw [ih, rederive_edge_get?, hlayer]
    by_cases hk : k = id
    · cases s.edges.get? k <;> simp [hk]
    · simp [hk]

/-- An edge keeps its place in the second pass when its layer is settled. -/
theorem rederive_edge_settled {k : String}
    (h : ∀ e, s.edges.get? k = some e → with_derived_layer s e = e) : rederive_edge s k = s := by
  unfold rederive_edge
  cases he : s.edges.get? k with
  | none => rfl
  | some e =>
    have hput : s.edges.put e = s.edges :=
      Table.put_of_get? _ (by rw [show Keyed.key e = k from Table.key_of_get? he]; exact he)
    simp only [h e he, hput]

theorem rederive_layers_settled {ids : List String}
    (h : ∀ k ∈ ids, ∀ e, s.edges.get? k = some e → with_derived_layer s e = e) :
    rederive_layers s ids = s := by
  induction ids with
  | nil => rfl
  | cons id ids ih =>
    show rederive_layers (rederive_edge s id) ids = s
    rw [rederive_edge_settled (h id (by simp))]
    exact ih (fun k hk => h k (by simp [hk]))

/-! ### The refresh stamp -/

/-- The graph with another refresh time. -/
def GraphState.with_refresh (s : GraphState) (time : Option Datetime) : GraphState :=
  { s with last_refresh_at := time }

/-- No operation reads the refresh time. -/
theorem apply_operation_with_refresh {g : Bool} (h : apply_operation p g s op = .ok t)
    (time : Option Datetime) :
    apply_operation p g (s.with_refresh time) op = .ok (t.with_refresh time) := by
  have hloop {α : Type} {xs : List α} {f : GraphState → α → GraphState} (a : GraphState)
      (hf : ∀ a x, f (a.with_refresh time) x = (f a x).with_refresh time) :
      xs.foldl f (a.with_refresh time) = (xs.foldl f a).with_refresh time := by
    induction xs generalizing a with
    | nil => rfl
    | cons x xs ih => rw [List.foldl_cons, List.foldl_cons, hf, ih]
  -- a loop carries the refresh time along, whatever it stores
  cases op with
  | create_nodes nodes =>
    cases h
    exact congrArg _ (hloop s (fun _ _ => rfl))
  | update_nodes updates =>
    refine foldlM_map_ok (·.with_refresh time) h (fun u _ a b hab => ?_)
    obtain ⟨n, hn, m, hm, rfl⟩ := update_node_ok.mp hab
    exact update_node_ok.mpr ⟨n, hn, m, hm, rfl⟩
  | create_edges edges =>
    refine foldlM_map_ok (·.with_refresh time) h (fun raw _ a b hab => ?_)
    obtain ⟨e, he, rfl⟩ := create_edge_ok.mp hab
    exact create_edge_ok.mpr ⟨e, he, rfl⟩
  | remove_edges edge_ids =>
    cases h
    exact congrArg _ (hloop s (fun _ _ => rfl))
  | supersede_nodes nodes =>
    refine foldlM_map_ok (·.with_refresh time) h (fun item _ a b hab => ?_)
    obtain ⟨n, hn, m, hm, rfl⟩ := retire_node_ok.mp hab
    exact retire_node_ok.mpr ⟨n, hn, m, hm, rfl⟩
  | merge_nodes merges =>
    refine foldlM_map_ok (·.with_refresh time) h (fun item _ a b hab => ?_)
    obtain ⟨n, hn, m, hm, rfl⟩ := retire_node_ok.mp hab
    exact retire_node_ok.mpr ⟨n, hn, m, hm, rfl⟩
  | create_ambiguities ambiguities =>
    cases h
    exact congrArg _ (hloop s (fun _ _ => rfl))
  | resolve_ambiguities resolutions =>
    refine foldlM_map_ok (·.with_refresh time) h (fun r _ a b hab => ?_)
    obtain ⟨x, hx, rfl⟩ := resolve_ambiguity_ok.mp hab
    exact resolve_ambiguity_ok.mpr ⟨x, hx, rfl⟩
  | create_proposals proposals =>
    cases h
    exact congrArg _ (hloop s (fun _ _ => rfl))
  | resolve_proposals resolutions =>
    refine foldlM_map_ok (·.with_refresh time) h (fun r _ a b hab => ?_)
    obtain ⟨q, hq, rfl⟩ := resolve_proposal_ok.mp hab
    exact resolve_proposal_ok.mpr ⟨q, hq, rfl⟩
  | withdraw_proposals withdrawals =>
    refine foldlM_map_ok (·.with_refresh time) h (fun w _ a b hab => ?_)
    obtain ⟨q, hq, rfl⟩ := withdraw_proposal_ok.mp hab
    exact withdraw_proposal_ok.mpr ⟨q, hq, rfl⟩
  | upsert_glossary terms =>
    cases h
    exact congrArg _ (hloop s (fun _ _ => rfl))
  | set_standing node_id standing =>
    obtain ⟨n, hn, rfl⟩ := set_standing_ok.mp h
    exact set_standing_ok.mpr ⟨n, hn, rfl⟩
  | remove_nodes _ | set_coverage _ | set_project_truth_scope _ _ | set_ontology _ =>
    cases h
    rfl

/-! ### Staged operations and whole Patches -/

/-- The operations of a Patch in order, before the second pass over edges. -/
def run_operations (p : Patch) (s : GraphState) (ops : List GraphOperation) :
    Applied GraphState := ops.foldlM (apply_operation p false) s

theorem run_with_refresh (h : run_operations p s ops = .ok u) (time : Option Datetime) :
    run_operations p (s.with_refresh time) ops = .ok (u.with_refresh time) :=
  foldlM_map_ok (fun a : GraphState => a.with_refresh time) h
    (fun _ _ _ _ hab => apply_operation_with_refresh hab time)

theorem run_revision (h : run_operations p s ops = .ok u) : u.revision = s.revision :=
  foldlM_frame GraphState.revision h (fun _ _ _ _ hab => apply_operation_revision hab)

theorem run_refresh (h : run_operations p s ops = .ok u) :
    u.last_refresh_at = s.last_refresh_at :=
  foldlM_frame GraphState.last_refresh_at h (fun _ _ _ _ hab => apply_operation_refresh hab)

/-- The refresh time after a Patch. -/
def refresh_time (p : Patch) (s : GraphState) : Option Datetime :=
  if p.kind = .seed ∨ p.kind = .refresh then some p.created_at else s.last_refresh_at

theorem stored_edge_ids_mem {k : String} :
    k ∈ stored_edge_ids ops ↔ ∃ edges, .create_edges edges ∈ ops ∧
      k ∈ edges.filterMap NewEdge.stored_id := by
  simp only [stored_edge_ids, List.mem_dedup, List.mem_filterMap, List.mem_flatMap]
  constructor
  · rintro ⟨raw, ⟨op, hop, hraw⟩, hid⟩
    cases op <;> simp only [GraphOperation.created_edges, List.not_mem_nil] at hraw
    exact ⟨_, hop, raw, hraw, hid⟩
  · rintro ⟨edges, hop, raw, hraw, hid⟩
    exact ⟨raw, ⟨_, hop, hraw⟩, hid⟩

/-- The edges one operation wrote are settled: it does not move nodes. -/
theorem staged_layers_settled {g : Bool} (h : apply_operation p g s op = .ok t) :
    rederive_layers t (stored_edge_ids [op]) = t := by
  refine rederive_layers_settled (fun k hk e he => ?_)
  obtain ⟨edges, hop, hid⟩ := stored_edge_ids_mem.mp hk
  obtain rfl := List.mem_singleton.mp hop
  obtain ⟨raw, -, e₀, -, rfl⟩ := written_edge h hid he
  have hnodes : t.nodes = s.nodes :=
    apply_operation_frame GraphState.nodes h (fun a b hab => by cases hab; rfl)
  rw [with_derived_layer_congr hnodes, with_derived_layer_idem]

theorem apply_patch_ok {indexes : List Nat} : apply_patch s p indexes = .ok t ↔
    ∃ u, p.ops.zipIdx.foldlM (fun u x => apply_operation p
        ((indexes ++ generated_operation_indexes p).contains x.2) u x.1) s = .ok u ∧
      t = stamp_patch p (rederive_layers u (stored_edge_ids p.ops)) := by
  simp only [apply_patch, except_bind_ok, except_pure_ok]

theorem apply_valid_patch_ok (htrace : p.transition = none) : apply_valid_patch s p = .ok t ↔
    ∃ u, run_operations p s p.ops = .ok u ∧
      t = stamp_patch p (rederive_layers u (stored_edge_ids p.ops)) := by
  simp only [apply_valid_patch, apply_patch_ok, generated_operation_indexes, htrace,
    List.append_nil, List.contains_nil, run_operations]
  rw [foldlM_zipIdx]

/-- Staging one operation is the bare operation with the refresh stamp. -/
theorem apply_valid_operation_ok (htrace : p.transition = none) :
    apply_valid_operation s p op = .ok t ↔
      ∃ u, apply_operation p false s op = .ok u ∧ t = u.with_refresh (refresh_time p u) := by
  simp only [apply_valid_operation, except_bind_ok, except_pure_ok, apply_patch_ok,
    generated_operation_indexes, htrace, List.append_nil, List.contains_nil, List.zipIdx_cons,
    List.zipIdx_nil, foldlM_cons_ok, foldlM_nil_ok]
  constructor
  · rintro ⟨_, ⟨u, ⟨u, hu, rfl⟩, rfl⟩, rfl⟩
    refine ⟨u, hu, ?_⟩
    rw [staged_layers_settled hu]
    simp [stamp_patch, GraphState.with_refresh, refresh_time, ← apply_operation_revision hu]
  · rintro ⟨u, hu, rfl⟩
    refine ⟨_, ⟨u, ⟨u, hu, rfl⟩, rfl⟩, ?_⟩
    rw [staged_layers_settled hu]
    simp [stamp_patch, GraphState.with_refresh, refresh_time, ← apply_operation_revision hu]

/-! ### Induction over an admitted Patch -/

variable [TextLibrary]

/-- The context an operation of `ctx` was judged in, when the graph before it
    is `u` up to the refresh stamp. -/
structure JudgedAt (vp : ProposalRule) (ctx : OpContext) (u : GraphState)
    (op : GraphOperation) : Prop where
  passed : ∃ time repositories oldest oldest',
    Check.Passes (judge_operation vp { ctx with state := u.with_refresh time, repositories } oldest
      op) oldest'
  current : ¬ (ctx.mode = .admission ∧ op.legacy_only = true)

/-- The structural rule of a judged operation passed. -/
theorem JudgedAt.structural {vp : ProposalRule} {ctx : OpContext} (h : JudgedAt vp ctx u op) :
    ∃ time repositories cited, Check.Passes (structural_validate vp
      { ctx with state := u.with_refresh time, repositories } op) cited := by
  obtain ⟨time, repositories, oldest, oldest', hjudge⟩ := h.passed
  obtain ⟨-, ⟨cited, hcited, -⟩, -⟩ := passes_judge_operation.mp hjudge
  exact ⟨time, repositories, cited, hcited⟩

/-- Every action of a judged operation is permitted to the producer. -/
theorem JudgedAt.authority {vp : ProposalRule} {ctx : OpContext} (h : JudgedAt vp ctx u op)
    (hmode : ctx.mode = .admission) :
    ∃ actions, operation_actions ctx.initial_state ctx.patch op = .ok actions ∧
      ∀ a ∈ actions, permits ctx.patch a = true := by
  obtain ⟨time, repositories, oldest, oldest', hjudge⟩ := h.passed
  obtain ⟨hauth, -, -⟩ := passes_judge_operation.mp hjudge
  exact (passes_authority hmode).mp hauth

/-- The authoring rule of a judged operation passed. -/
theorem JudgedAt.authoring {vp : ProposalRule} {ctx : OpContext} (h : JudgedAt vp ctx u op)
    (hmode : ctx.mode = .admission) :
    ∃ time repositories, Check.Passes (authoring_validate vp
      { ctx with state := u.with_refresh time, repositories } op) () := by
  obtain ⟨time, repositories, oldest, oldest', hjudge⟩ := h.passed
  obtain ⟨-, -, hauthoring⟩ := passes_judge_operation.mp hjudge
  exact ⟨time, repositories, hauthoring hmode⟩

/-- Invariant rule of the operation loop.  The staged graph is the graph of the
    bare operations up to the refresh stamp, and an assertion that every judged
    operation keeps holds of the latter. -/
theorem staged_invariant {vp : ProposalRule} {ctx : OpContext} {st : Staging}
    (htrace : ctx.patch.transition = none) (Q : List GraphOperation → GraphState → Prop)
    (h : Check.Passes (validate_operations vp ctx) st) (h₀ : Q [] ctx.state)
    (hstep : ∀ pre op post u v, ctx.patch.ops = pre ++ op :: post →
      run_operations ctx.patch ctx.state pre = .ok u → JudgedAt vp ctx u op →
      apply_operation ctx.patch false u op = .ok v → Q pre u → Q (pre ++ [op]) v) :
    ∃ u, run_operations ctx.patch ctx.state ctx.patch.ops = .ok u ∧
      (∃ time, st.state = u.with_refresh time) ∧ Q ctx.patch.ops u := by
  refine Check.passes_thread_invariant
    (fun pre (st : Staging) => ∃ u, run_operations ctx.patch ctx.state pre = .ok u ∧
      (∃ time, st.state = u.with_refresh time) ∧ Q pre u) h
    ⟨ctx.state, rfl, ⟨ctx.state.last_refresh_at, rfl⟩, h₀⟩ ?_
  rintro pre op post c d hops ⟨u, hrun, ⟨time, hc⟩, hQ⟩ hop
  obtain ⟨hcurrent, oldest, t, hjudge, happly, rfl⟩ := passes_validate_operation.mp hop
  obtain ⟨v', hv', rfl⟩ := (apply_valid_operation_ok htrace).mp happly
  -- the bare operation on `u` reaches the same graph up to the refresh stamp
  rw [hc] at hv'
  have hv := apply_operation_with_refresh hv' u.last_refresh_at
  have hu : (u.with_refresh time).with_refresh u.last_refresh_at = u := rfl
  rw [hu] at hv
  refine ⟨v'.with_refresh u.last_refresh_at, ?_, ⟨_, rfl⟩, ?_⟩
  · exact foldlM_append_ok.mpr ⟨u, hrun, foldlM_cons_ok.mpr ⟨_, hv, foldlM_nil_ok.mpr rfl⟩⟩
  · refine hstep pre op post u _ hops hrun ⟨⟨time, c.repositories, c.oldest, oldest, ?_⟩,
      hcurrent⟩ hv hQ
    rw [← hc]
    exact hjudge

/-- Every operation of a passing run was judged on the graph before it. -/
theorem judged_everywhere {vp : ProposalRule} {ctx : OpContext} {st : Staging}
    (htrace : ctx.patch.transition = none) (h : Check.Passes (validate_operations vp ctx) st) :
    ∀ pre op post u, ctx.patch.ops = pre ++ op :: post →
      run_operations ctx.patch ctx.state pre = .ok u → JudgedAt vp ctx u op := by
  obtain ⟨-, -, -, hQ⟩ := staged_invariant htrace
    (fun done _ => ∀ pre op post u, done = pre ++ op :: post →
      run_operations ctx.patch ctx.state pre = .ok u → JudgedAt vp ctx u op) h
    (by simp) (by
      intro pre op post u v hops hrun hjudged happly hQ pre' op' post' u' hdone hrun'
      rcases List.eq_nil_or_concat post' with rfl | ⟨post'', last, rfl⟩
      · obtain ⟨rfl, rfl⟩ : pre = pre' ∧ op = op' := by
          simpa using List.append_inj' hdone rfl
        exact Except.ok.inj (hrun.symm.trans hrun') ▸ hjudged
      · refine hQ pre' op' post'' u' ?_ hrun'
        have hdone : pre ++ [op] = (pre' ++ op' :: post'') ++ [last] := by
          rw [hdone, List.concat_eq_append, List.append_assoc, List.cons_append]
        exact (List.append_inj' hdone rfl).1)
  exact hQ

variable [Canonical] {scope : List String} {settings : ValidationSettings}
  {binding : ExperimentBinding}

/-- The context a Patch is admitted in. -/
abbrev admission_context (s : GraphState) (p : Patch) (scope : List String)
    (settings : ValidationSettings) (binding : ExperimentBinding) : OpContext :=
  patch_context s p scope settings .admission (control_node_id binding.control_node_id p)

/-- What the admission of a Patch establishes, stage by stage. -/
structure AdmittedRun (s : GraphState) (p : Patch) (scope : List String)
    (settings : ValidationSettings) (binding : ExperimentBinding) (final : GraphState) : Prop where
  untraced : p.transition = none
  shape : Check.Passes (validate_patch_shape (admission_context s p scope settings binding)
    (binding.decision_bundle.getD p.experiment_decision_bundle)) ()
  run : run_operations p s p.ops = .ok final
  judged : ∀ pre op post u, p.ops = pre ++ op :: post → run_operations p s pre = .ok u →
    JudgedAt validate_proposal (admission_context s p scope settings binding) u op
  result : ∃ time repositories oldest,
    Check.Passes (validate_patch_result (admission_context s p scope settings binding)
      ⟨final.with_refresh time, repositories, oldest⟩) ()

theorem Admitted.run (h : Admitted s p scope settings binding) :
    ∃ final, AdmittedRun s p scope settings binding final := by
  obtain ⟨htrace, t, ht⟩ := admitted_iff.mp h
  simp only [validation_run, validate_patch_rules, Check.passes_bind, Check.exists_unit,
    Check.passes_pure] at ht
  obtain ⟨hshape, st, hst, hresult, -⟩ := ht
  obtain ⟨final, hrun, ⟨time, hfinal⟩, -⟩ :=
    staged_invariant (show (admission_context s p scope settings binding).patch.transition = none
      from htrace) (fun _ _ => True) hst trivial (fun _ _ _ _ _ _ _ _ _ _ => trivial)
  refine ⟨final, htrace, hshape, hrun, judged_everywhere htrace hst,
    ⟨time, st.repositories, st.oldest, ?_⟩⟩
  rw [← hfinal]
  exact hresult

omit [Canonical] in
/-- An admitted Patch applies, and what it commits is the staged graph after the
    second pass over edges. -/
theorem AdmittedRun.applied {final : GraphState}
    (h : AdmittedRun s p scope settings binding final) :
    apply_valid_patch s p
      = .ok (stamp_patch p (rederive_layers final (stored_edge_ids p.ops))) :=
  (apply_valid_patch_ok h.untraced).mpr ⟨final, h.run, rfl⟩

omit [Canonical] in
/-- Invariant rule of an admitted Patch, between any two points of it: an
    assertion about the operations done and the graph they reach that every
    judged operation in between keeps. -/
theorem AdmittedRun.invariant_between {final : GraphState}
    (h : AdmittedRun s p scope settings binding final) {done mid post : List GraphOperation}
    (hops : p.ops = done ++ (mid ++ post)) (hu : run_operations p s done = .ok u)
    (hv : run_operations p u mid = .ok v) (Q : List GraphOperation → GraphState → Prop)
    (h₀ : Q done u) (hstep : ∀ pre op post a b, p.ops = pre ++ op :: post → op ∈ mid →
      run_operations p s pre = .ok a →
      JudgedAt validate_proposal (admission_context s p scope settings binding) a op →
      apply_operation p false a op = .ok b → Q pre a → Q (pre ++ [op]) b) : Q (done ++ mid) v := by
  induction mid generalizing done u with
  | nil =>
    obtain rfl := foldlM_nil_ok.mp hv
    rw [List.append_nil]
    exact h₀
  | cons op mid ih =>
    obtain ⟨w, hw, hmid⟩ := foldlM_cons_ok.mp hv
    have hnext := hstep done op (mid ++ post) u w hops (by simp) hu
      (h.judged done op (mid ++ post) u hops hu) hw h₀
    have hsplit : p.ops = (done ++ [op]) ++ (mid ++ post) := by
      rw [hops, List.append_assoc, List.cons_append, List.singleton_append]
    have hdone : run_operations p s (done ++ [op]) = .ok w :=
      foldlM_append_ok.mpr ⟨u, hu, foldlM_cons_ok.mpr ⟨w, hw, foldlM_nil_ok.mpr rfl⟩⟩
    have hrest := ih hsplit hdone hmid hnext
      (fun pre op' post a b hops hmem => hstep pre op' post a b hops (by simp [hmem]))
    rwa [List.append_assoc, List.singleton_append] at hrest

omit [Canonical] in
/-- Invariant rule of an admitted Patch, up to any point of it. -/
theorem AdmittedRun.invariant_at {final : GraphState}
    (h : AdmittedRun s p scope settings binding final) {pre post : List GraphOperation}
    (hops : p.ops = pre ++ post) (hu : run_operations p s pre = .ok u)
    (Q : List GraphOperation → GraphState → Prop) (h₀ : Q [] s)
    (hstep : ∀ pre op post a b, p.ops = pre ++ op :: post → run_operations p s pre = .ok a →
      JudgedAt validate_proposal (admission_context s p scope settings binding) a op →
      apply_operation p false a op = .ok b → Q pre a → Q (pre ++ [op]) b) : Q pre u := by
  have hsplit : p.ops = [] ++ (pre ++ post) := by rw [hops, List.nil_append]
  exact h.invariant_between hsplit rfl hu Q h₀
    (fun pre op post a b hsplit _ => hstep pre op post a b hsplit)

omit [Canonical] in
/-- Invariant rule of a whole admitted Patch. -/
theorem AdmittedRun.invariant {final : GraphState}
    (h : AdmittedRun s p scope settings binding final)
    (Q : List GraphOperation → GraphState → Prop) (h₀ : Q [] s)
    (hstep : ∀ pre op post u v, p.ops = pre ++ op :: post → run_operations p s pre = .ok u →
      JudgedAt validate_proposal (admission_context s p scope settings binding) u op →
      apply_operation p false u op = .ok v → Q pre u → Q (pre ++ [op]) v) : Q p.ops final :=
  h.invariant_at (List.append_nil _).symm h.run Q h₀ hstep

/-- A committed step: the Patch was admitted under some project settings. -/
def Commits (s : GraphState) (p : Patch) (t : GraphState) : Prop :=
  ∃ scope settings binding, Admitted s p scope settings binding ∧ apply_valid_patch s p = .ok t

/-- What a committed step establishes about its run of operations. -/
theorem Commits.run (h : Commits s p t) : ∃ scope settings binding final,
    AdmittedRun s p scope settings binding final ∧
      t = stamp_patch p (rederive_layers final (stored_edge_ids p.ops)) := by
  obtain ⟨scope, settings, binding, hadmitted, happly⟩ := h
  obtain ⟨final, hrun⟩ := hadmitted.run
  exact ⟨scope, settings, binding, final, hrun,
    Except.ok.inj (happly.symm.trans hrun.applied)⟩

end ResearchGraph
