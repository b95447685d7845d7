import ResearchGraph.Staging

/-! # The presence scan

    `_later_dependency_mutations` does not look at the staged graph: it
    replays which nodes and edges are present from the operations alone.  As
    long as no edge and no successor is given the empty name, every edge of
    the staged graph is one the scan has, with its endpoints.
-/

namespace ResearchGraph

open Lib

variable {p : Patch} {s a b : GraphState} {op : GraphOperation} {d : Dict String (String × String)}

/-! ### Names -/

/-- No edge is given the empty id and no successor the empty name, both of
    which the scan takes for absent. -/
def GraphOperation.names_edges : GraphOperation → Prop
  | .create_edges edges => ∀ raw ∈ edges, raw.id ≠ .given ""
  | .supersede_nodes nodes => ∀ item ∈ nodes, item.superseded_by ≠ some ""
  | _ => True

theorem named_of_stored {raw : NewEdge} (hid : raw.id ≠ .given "") {k : String}
    (hk : raw.stored_id = some k) : raw.named_id = k := by
  unfold NewEdge.stored_id at hk
  unfold NewEdge.named_id
  cases h : raw.id with
  | unset => simpa [h] using hk
  | null => simp [h] at hk
  | given id =>
    have hne : id ≠ "" := fun hempty => hid (by rw [h, hempty])
    simpa [h, hne] using hk

theorem successor_named {item : SupersedeNode} (h : item.superseded_by ≠ some "") :
    item.superseded_by.filter (· ≠ "") = item.superseded_by := by
  cases hby : item.superseded_by with
  | none => rfl
  | some target =>
    have hne : target ≠ "" := fun hempty => h (by rw [hby, hempty])
    simp [Option.filter, hne]

/-- The ids an operation stores edges under are the ones the scan gives it. -/
theorem written_edge_scanned (h : op.names_edges) {k : String} (hk : k ∈ written_edge_ids op) :
    k ∈ (created_edges op).map Prod.fst := by
  cases op <;> simp only [written_edge_ids, List.not_mem_nil] at hk
  case create_edges edges =>
    obtain ⟨raw, hraw, hid⟩ := List.mem_filterMap.mp hk
    rw [← named_of_stored (h raw hraw) hid]
    simp only [created_edges, List.map_map, List.mem_map]
    exact ⟨raw, hraw, rfl⟩
  case supersede_nodes nodes =>
    obtain ⟨item, hitem, hid⟩ := List.mem_filterMap.mp hk
    rw [successor_named (h item hitem)] at hid
    obtain ⟨target, htarget, rfl⟩ := Option.map_eq_some_iff.mp hid
    simp only [created_edges, List.mem_map, List.mem_filterMap]
    exact ⟨_, ⟨item, hitem, by rw [htarget]; rfl⟩, rfl⟩
  case merge_nodes merges =>
    obtain ⟨item, hitem, rfl⟩ := List.mem_map.mp hk
    simp only [created_edges, List.map_map, List.mem_map]
    exact ⟨item, hitem, rfl⟩

/-! ### Tracked edges -/

/-- Every edge of the graph is tracked with its endpoints. -/
def Tracks (d : Dict String (String × String)) (s : GraphState) : Prop :=
  ∀ k e, s.edges.get? k = some e → Dict.get d k = some (e.source, e.target)

theorem Tracks.congr (h : Tracks d a) (hedges : b.edges = a.edges) : Tracks d b := by
  intro k e he
  rw [hedges] at he
  exact h k e he

theorem Tracks.put (h : Tracks d a) {e : Edge} (hedges : b.edges = a.edges.put e) :
    Tracks (Dict.set d e.id (e.source, e.target)) b := by
  intro k e' he
  rw [hedges, Table.get?_put] at he
  rw [Dict.get_set]
  by_cases hk : k = e.id
  · rw [if_pos (show k = Keyed.key e from hk)] at he
    rw [if_pos hk, Option.some.inj he]
  · rw [if_neg (show k ≠ Keyed.key e from hk)] at he
    rw [if_neg hk]
    exact h k e' he

/-- A loop whose items write one edge each, or none, next to the loop of the
    scan over the same items. -/
theorem Tracks.loop {α : Type} {xs : List α} {f : GraphState → α → Applied GraphState}
    (entry : α → Option (String × String × String)) (hrun : xs.foldlM f a = .ok b)
    (hf : ∀ x ∈ xs, ∀ a b, f a x = .ok b → (entry x = none ∧ b.edges = a.edges) ∨
      ∃ e, entry x = some (e.id, e.source, e.target) ∧ b.edges = a.edges.put e)
    (h : Tracks d a) :
    Tracks ((xs.filterMap entry).foldl (fun d e => Dict.set d e.1 e.2) d) b := by
  induction xs generalizing a d with
  | nil =>
    obtain rfl := foldlM_nil_ok.mp hrun
    exact h
  | cons x xs ih =>
    obtain ⟨a', hx, hrest⟩ := foldlM_cons_ok.mp hrun
    have hxs := fun y hy => hf y (List.mem_cons_of_mem x hy)
    rcases hf x (by simp) a a' hx with ⟨hentry, hedges⟩ | ⟨e, hentry, hedges⟩
    · rw [List.filterMap_cons_none hentry]
      exact ih hrest hxs (h.congr hedges)
    · rw [List.filterMap_cons_some hentry, List.foldl_cons]
      exact ih hrest hxs (h.put hedges)

theorem Tracks.erase (h : Tracks d a) (edge_ids : List String) :
    Tracks (edge_ids.foldl Table.erase d) (edge_ids.foldl remove_edge a) := by
  induction edge_ids generalizing a d with
  | nil => exact h
  | cons id edge_ids ih =>
    refine ih (fun k e he => ?_)
    simp only [remove_edge, Table.get?_erase] at he
    split_ifs at he with hk
    have hget := h k e he
    simp only [Dict.get, Table.get?_erase, if_neg hk]
    exact hget

theorem Tracks.remove_nodes (h : Tracks d a) (node_ids : List String) :
    Tracks (Table.filter d (fun e => e.2.1 ∉ node_ids ∧ e.2.2 ∉ node_ids))
      (ResearchGraph.remove_nodes a node_ids) := by
  intro k e he
  simp only [ResearchGraph.remove_nodes, Table.get?_filter, Option.filter_eq_some_iff] at he
  obtain ⟨he, hends⟩ := he
  have hget := h k e he
  obtain ⟨x, hx, hends'⟩ := Option.map_eq_some_iff.mp hget
  simp only [Dict.get, Table.get?_filter, hx, Option.filter, hends']
  simp only [decide_eq_true_eq] at hends
  simp [hends, hends']

/-- The scan keeps up with one operation. -/
theorem tracks_operation {present : Presence} (h : Tracks present.edges a) (hn : op.names_edges)
    (hop : apply_operation p false a op = .ok b) : Tracks (present.update op).edges b := by
  have hkept (hedges : b.edges = a.edges) : Tracks present.edges b := h.congr hedges
  -- each loop names an edge as it stores it, and the rest leave the edges alone
  cases op
  case create_edges edges =>
    show Tracks ((edges.map (fun e => (e.named_id, e.source, e.target))).foldl
      (fun d e => Dict.set d e.1 e.2) present.edges) b
    rw [show edges.map (fun e => (e.named_id, e.source, e.target)) =
      edges.filterMap (fun e => some (e.named_id, e.source, e.target)) by simp]
    refine h.loop _ hop (fun raw hraw a b hab => Or.inr ?_)
    obtain ⟨e, he, rfl⟩ := create_edge_ok.mp hab
    obtain ⟨hid, -, hsource, htarget, -⟩ := validated_edge_ok he
    refine ⟨with_derived_layer a e, ?_, rfl⟩
    simp only [with_derived_layer, named_of_stored (hn raw hraw) hid, hsource, htarget]
  case supersede_nodes nodes =>
    refine h.loop _ hop (fun item hitem a b hab => ?_)
    obtain ⟨n, -, m, -, rfl⟩ := retire_node_ok.mp hab
    rw [successor_named (hn item hitem)]
    cases item.superseded_by with
    | none => exact Or.inl ⟨rfl, rfl⟩
    | some target =>
      exact Or.inr
        ⟨lifecycle_edge item.id "supersedes" target item.explanation p.revision, rfl, rfl⟩
  case merge_nodes merges =>
    show Tracks ((merges.map (fun item =>
      (derived_edge_id item.duplicate "duplicate_of" item.canonical, item.duplicate,
        item.canonical))).foldl (fun d e => Dict.set d e.1 e.2) present.edges) b
    rw [← List.filterMap_eq_map]
    refine h.loop _ hop (fun item _ a b hab => Or.inr ?_)
    obtain ⟨n, -, m, -, rfl⟩ := retire_node_ok.mp hab
    exact ⟨lifecycle_edge item.duplicate "duplicate_of" item.canonical item.explanation p.revision,
      rfl, rfl⟩
  case remove_edges edge_ids =>
    cases hop
    exact h.erase edge_ids
  case remove_nodes node_ids =>
    cases hop
    exact h.remove_nodes node_ids
  all_goals
    refine hkept (apply_operation_frame GraphState.edges hop (fun x y hxy => ?_))
    cases hxy
    rfl

theorem initial_tracks (s : GraphState) : Tracks (initial_presence s).edges s := by
  intro k e he
  obtain ⟨hmem, hkey⟩ := Table.get?_eq_some_iff.mp he
  refine Dict.get_eq_some_iff.mpr (Table.mem_ofList ?_ ?_)
  · rw [List.map_map]
    exact s.edges.nodup
  · exact List.mem_map.mpr ⟨e, hmem, by rw [show e.id = k from hkey]⟩

/-- The scan has every edge of the graph that some operations reach. -/
theorem tracks_run {ops : List GraphOperation} (hn : ∀ op ∈ ops, op.names_edges)
    (h : run_operations p s ops = .ok b) :
    Tracks (ops.foldl Presence.update (initial_presence s)).edges b := by
  have hrun : ∀ ops (present : Presence) a, (∀ op ∈ ops, op.names_edges) →
      Tracks present.edges a → run_operations p a ops = .ok b →
      Tracks (ops.foldl Presence.update present).edges b := by
    intro ops
    induction ops with
    | nil =>
      intro present a _ ha h
      obtain rfl := foldlM_nil_ok.mp h
      exact ha
    | cons op ops ih =>
      intro present a hn ha h
      obtain ⟨a', hop, hrest⟩ := foldlM_cons_ok.mp h
      exact ih (present.update op) a' (fun x hx => hn x (by simp [hx]))
        (tracks_operation ha (hn op (by simp)) hop) hrest
  exact hrun ops (initial_presence s) s hn (initial_tracks s) h

end ResearchGraph
