import ResearchGraph.Staging

/-! # Where the graph at the end of a run comes from

    An edge at the end of a run was there at the start, or some operation
    wrote it, and no later operation overwrote, removed or dropped it.  The
    type of a node that is not removed is the one its last creation gave it.
-/

namespace ResearchGraph

open Lib

variable {p : Patch} {s t u v w : GraphState} {op : GraphOperation} {ops : List GraphOperation}
  {k : String} {e : Edge}

/-! ### Edges -/

/-- No operation of the list touches the edge `e` stored under `k`. -/
def Survives (ops : List GraphOperation) (k : String) (e : Edge) : Prop :=
  ∀ op ∈ ops, ¬ drops op k e.source e.target

theorem survives_cons : Survives (op :: ops) k e ↔
    ¬ drops op k e.source e.target ∧ Survives ops k e := by
  simp [Survives]

theorem Survives.not_removed (h : Survives ops k e) {x : String} (hx : x ∈ [e.source, e.target]) :
    ∀ op ∈ ops, x ∉ removed_nodes op := by
  intro op hop hremoved
  refine h op hop ?_
  simp only [List.mem_cons, List.not_mem_nil, or_false] at hx
  rcases hx with rfl | rfl
  · exact Or.inr (Or.inr (Or.inl hremoved))
  · exact Or.inr (Or.inr (Or.inr hremoved))

theorem edge_survives (h : run_operations p s ops = .ok u) (he : s.edges.get? k = some e)
    (hkeep : Survives ops k e) : u.edges.get? k = some e :=
  foldlM_invariant (fun a => a.edges.get? k = some e) h he
    (fun op hop _ _ hab ha => edges_kept hab ha (hkeep op hop))

/-- One operation of a run writes `e` under `k`, on the graph `before`. -/
structure WriteAt (p : Patch) (s : GraphState) (ops : List GraphOperation) (k : String)
    (e : Edge) where
  pre : List GraphOperation
  op : GraphOperation
  post : List GraphOperation
  before : GraphState
  after : GraphState
  split : ops = pre ++ op :: post
  run : run_operations p s pre = .ok before
  applied : apply_operation p false before op = .ok after
  written : k ∈ written_edge_ids op
  stored : after.edges.get? k = some e

theorem WriteAt.run_post (a : WriteAt p s ops k e) (h : run_operations p s ops = .ok u) :
    run_operations p a.after a.post = .ok u := by
  rw [a.split] at h
  obtain ⟨v, hv, h⟩ := foldlM_append_ok.mp h
  obtain ⟨w, hw, h⟩ := foldlM_cons_ok.mp h
  obtain rfl := Except.ok.inj (a.run.symm.trans hv)
  obtain rfl := Except.ok.inj (a.applied.symm.trans hw)
  exact h

/-- The operation wrote an edge of that shape. -/
theorem WriteAt.writtenBy (a : WriteAt p s ops k e) : WrittenBy p a.before a.op e :=
  written_edge a.applied a.written a.stored

/-- The write, seen from an earlier start of the run. -/
def WriteAt.after_first (a : WriteAt p v ops k e) (h : apply_operation p false s op = .ok v) :
    WriteAt p s (op :: ops) k e where
  pre := op :: a.pre
  op := a.op
  post := a.post
  before := a.before
  after := a.after
  split := congrArg (op :: ·) a.split
  run := foldlM_cons_ok.mpr ⟨v, h, a.run⟩
  applied := a.applied
  written := a.written
  stored := a.stored

/-- Every edge at the end of a run survived from the start or from its last write. -/
theorem edge_provenance (h : run_operations p s ops = .ok u) (he : u.edges.get? k = some e) :
    (s.edges.get? k = some e ∧ Survives ops k e) ∨
      ∃ a : WriteAt p s ops k e, Survives a.post k e := by
  induction ops generalizing s with
  | nil =>
    obtain rfl := foldlM_nil_ok.mp h
    exact Or.inl ⟨he, by simp [Survives]⟩
  | cons op ops ih =>
    obtain ⟨v, hop, hops⟩ := foldlM_cons_ok.mp h
    rcases ih hops with ⟨hv, hkeep⟩ | ⟨a, ha⟩
    · by_cases hk : k ∈ written_edge_ids op
      · exact Or.inr ⟨⟨[], op, ops, s, v, rfl, rfl, hop, hk, hv⟩, hkeep⟩
      · obtain ⟨hs, hdrop⟩ := edges_origin hop hv hk
        exact Or.inl ⟨hs, survives_cons.mpr ⟨hdrop, hkeep⟩⟩
    · exact Or.inr ⟨a.after_first hop, ha⟩

/-- A write that survives is there at the end. -/
theorem WriteAt.stored_at_end (a : WriteAt p s ops k e) (ha : Survives a.post k e)
    (h : run_operations p s ops = .ok u) : u.edges.get? k = some e :=
  edge_survives (a.run_post h) a.stored ha

/-! ### Nodes -/

/-- A reading of nodes that no rewrite of a node moves. -/
structure Steady {β : Type} (g : Node → β) : Prop where
  created : ∀ revision raw, g (stamped_node revision raw) = g raw.node
  rewritten : ∀ {p : Patch} {n m : Node}, Rewritten p n m → g m = g n
  reviewed : ∀ (n : Node) standing revision, g { n with standing, updated_rev := revision } = g n

theorem steady_type : Steady Node.type where
  created _ _ := rfl
  rewritten h := h.type
  reviewed _ _ _ := rfl

/-- A reading of nodes that no rewrite by this Patch moves. -/
structure SteadyUnder {β : Type} (p : Patch) (generated : Bool) (g : Node → β) : Prop where
  created : ∀ revision raw, g (stamped_node revision raw) = g raw.node
  updated : ∀ {n m : Node} {u : NodeUpdate}, updated_node p generated n u = .ok m → g m = g n
  superseded : ∀ {n m : Node}, superseded_node p n = .ok m → g m = g n
  reviewed : ∀ (n : Node) standing revision, g { n with standing, updated_rev := revision } = g n

theorem Steady.under {β : Type} {g : Node → β} (h : Steady g) (p : Patch) (generated : Bool) :
    SteadyUnder p generated g where
  created := h.created
  updated hm := h.rewritten (rewritten_of_update hm)
  superseded hm := h.rewritten (rewritten_of_supersede hm)
  reviewed := h.reviewed

/-- The reading of the last creation of `x` in some operations. -/
def last_created {β : Type} (g : Node → β) (ops : List GraphOperation) (x : String) : Option β :=
  ((created_nodes_of ops).filter (fun raw => raw.node.id = x)).getLast?.map (fun raw => g raw.node)

/-- The type the last creation of `x` in some operations gives. -/
def last_created_type (ops : List GraphOperation) (x : String) : Option NodeType :=
  ((created_nodes_of ops).filter (fun raw => raw.node.id = x)).getLast?.map (·.node.type)

/-- The type of the node `x` after some operations that do not remove it. -/
def endpoint_type (s : GraphState) (ops : List GraphOperation) (x : String) : Option NodeType :=
  (last_created_type ops x).or ((s.nodes.get? x).map Node.type)

section

variable {β : Type} {g : Node → β} {x : String}

theorem last_created_append (xs ys : List GraphOperation) (x : String) :
    last_created g (xs ++ ys) x = (last_created g ys x).or (last_created g xs x) := by
  simp only [last_created, created_nodes_of, List.flatMap_append, List.filter_append,
    List.getLast?_append]
  cases (((ys.flatMap GraphOperation.created_nodes).filter
    (fun raw => raw.node.id = x)).getLast?) <;> rfl

theorem last_created_cons (op : GraphOperation) (ops : List GraphOperation) (x : String) :
    last_created g (op :: ops) x = (last_created g ops x).or (last_created g [op] x) :=
  last_created_append [op] ops x

theorem last_created_isSome :
    (last_created g ops x).isSome ↔ x ∈ (created_nodes_of ops).map (·.node.id) := by
  simp only [last_created, Option.isSome_map, List.getLast?_isSome, ne_eq,
    List.filter_eq_nil_iff, decide_eq_true_eq, not_forall, not_not, List.mem_map, exists_prop]

theorem last_created_type_isSome :
    (last_created_type ops x).isSome ↔ x ∈ (created_nodes_of ops).map (·.node.id) :=
  last_created_isSome (g := Node.type)

theorem created_node_reading (hg : ∀ revision raw, g (stamped_node revision raw) = g raw.node)
    (revision : Nat) (nodes : List NewNode) (x : String) :
    ((nodes.foldl (create_node revision) s).nodes.get? x).map g =
      (last_created g [.create_nodes nodes] x).or ((s.nodes.get? x).map g) := by
  induction nodes generalizing s with
  | nil => rfl
  | cons raw nodes ih =>
    rw [List.foldl_cons, ih]
    have hput : (create_node revision s raw).nodes.get? x =
        if x = raw.node.id then some (stamped_node revision raw) else s.nodes.get? x :=
      Table.get?_put _ _ _
    by_cases hx : raw.node.id = x
    · simp [last_created, created_nodes_of, GraphOperation.created_nodes, List.getLast?_cons, hput,
        hx, hg]
    · simp [last_created, created_nodes_of, GraphOperation.created_nodes, hput, hx, Ne.symm hx]

theorem write_keeps_reading {generated : Bool} (hg : SteadyUnder p generated g) {a b : GraphState}
    (h : Write p generated op a b) (hcreate : op.created_nodes = [])
    (hx : x ∉ removed_nodes op) : (b.nodes.get? x).map g = (a.nodes.get? x).map g := by
  have hput {n m : Node} {id : String} (hn : a.nodes.get? id = some n) (hid : m.id = n.id)
      (hm : g m = g n) : ((a.nodes.put m).get? x).map g = (a.nodes.get? x).map g := by
    by_cases hxid : x = id
    · have hkey : Keyed.key m = id := hid.trans (Table.key_of_get? hn)
      rw [hxid, hn, Table.get?_put, if_pos hkey.symm]
      exact congrArg some hm
    · rw [key_put_ne _ hn hid hxid]
  cases h
  case create_node nodes raw hmem =>
    simp only [GraphOperation.created_nodes] at hcreate
    rw [hcreate] at hmem
    cases hmem
  case update_node u n m hmem hm hn =>
    exact hput hn (rewritten_of_update hm).id (hg.updated hm)
  case supersede_node item n m hmem hm hn =>
    exact hput hn (rewritten_of_supersede hm).id (hg.superseded hm)
  case merge_node item n m hmem hm hn =>
    exact hput hn (rewritten_of_supersede hm).id (hg.superseded hm)
  case set_standing node_id standing n hn =>
    have hid : { n with standing, updated_rev := p.revision }.id = n.id := rfl
    exact hput hn hid (hg.reviewed n standing p.revision)
  case remove_nodes node_ids =>
    simp only [remove_nodes, Table.get?_filter]
    cases hn : a.nodes.get? x with
    | none => rfl
    | some n =>
      have hkey : n.id = x := Table.key_of_get? hn
      have hx : x ∉ node_ids := hx
      simp [Option.filter, hkey, hx]
  all_goals rfl

theorem write_keeps_type {generated : Bool} {a b : GraphState} (h : Write p generated op a b)
    (hcreate : op.created_nodes = []) (hx : x ∉ removed_nodes op) :
    (b.nodes.get? x).map Node.type = (a.nodes.get? x).map Node.type :=
  write_keeps_reading (steady_type.under p generated) h hcreate hx

/-- What one operation that does not remove `x` leaves to read there. -/
theorem operation_node_reading (hg : SteadyUnder p false g)
    (h : apply_operation p false s op = .ok t)
    (hx : x ∉ removed_nodes op) :
    (t.nodes.get? x).map g = (last_created g [op] x).or ((s.nodes.get? x).map g) := by
  by_cases hcreate : op.created_nodes = []
  · rw [apply_operation_frame (fun u => (u.nodes.get? x).map g) h
      (fun a b hab => write_keeps_reading hg hab hcreate hx)]
    simp [last_created, created_nodes_of, hcreate]
  · cases op <;> simp [GraphOperation.created_nodes] at hcreate
    cases h
    exact created_node_reading hg.created _ _ _

theorem operation_node_type (h : apply_operation p false s op = .ok t)
    (hx : x ∉ removed_nodes op) :
    (t.nodes.get? x).map Node.type = endpoint_type s [op] x :=
  operation_node_reading (steady_type.under p false) h hx

end

/-- The type of a node that is not removed, at the end of a run. -/
theorem run_node_type {x : String} (h : run_operations p s ops = .ok u)
    (hx : ∀ op ∈ ops, x ∉ removed_nodes op) :
    (u.nodes.get? x).map Node.type = endpoint_type s ops x := by
  induction ops generalizing s with
  | nil =>
    obtain rfl := foldlM_nil_ok.mp h
    rfl
  | cons op ops ih =>
    obtain ⟨v, hop, hops⟩ := foldlM_cons_ok.mp h
    rw [ih hops (fun op' hop' => hx op' (by simp [hop']))]
    have hlast : last_created_type (op :: ops) x
        = (last_created_type ops x).or (last_created_type [op] x) := last_created_cons op ops x
    simp only [endpoint_type, hlast, operation_node_type hop (hx op (by simp)), Option.or_assoc]

/-- A node that is absent and not created stays absent. -/
theorem run_node_absent {x : String} (h : run_operations p s ops = .ok u)
    (hs : s.nodes.get? x = none) (hx : x ∉ (created_nodes_of ops).map (·.node.id)) :
    u.nodes.get? x = none := by
  refine foldlM_invariant (fun a => a.nodes.get? x = none) h hs (fun op hop a b hab ha => ?_)
  have hcreated : x ∉ op.created_nodes.map (·.node.id) := by
    intro hmem
    obtain ⟨raw, hraw, hid⟩ := List.mem_map.mp hmem
    exact hx (List.mem_map.mpr ⟨raw, List.mem_flatMap.mpr ⟨op, hop, hraw⟩, hid⟩)
  by_cases hremoved : x ∈ removed_nodes op
  · cases op <;> simp [removed_nodes] at hremoved
    cases hab
    simp [remove_nodes, ha]
  · have htype := operation_node_type hab hremoved
    have hlast : last_created_type [op] x = none := by
      rw [← Option.not_isSome_iff_eq_none, last_created_type_isSome]
      simpa [created_nodes_of] using hcreated
    simpa [endpoint_type, hlast, ha] using htype

/-- A node that is present or created later, and not removed, is there at the end. -/
theorem run_node_present {x : String} (h : run_operations p s ops = .ok u)
    (hs : s.nodes.contains x = true ∨ x ∈ (created_nodes_of ops).map (·.node.id))
    (hx : ∀ op ∈ ops, x ∉ removed_nodes op) : u.nodes.contains x = true := by
  have htype := run_node_type h hx
  have hsome : (endpoint_type s ops x).isSome = true := by
    simp only [endpoint_type, Option.isSome_or, Option.isSome_map, Bool.or_eq_true,
      last_created_type_isSome]
    exact hs.symm
  rw [← htype, Option.isSome_map] at hsome
  exact hsome

end ResearchGraph
