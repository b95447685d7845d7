import ResearchGraph.Staging

/-! # Timelines of a transition

    Preparation and replay apply the same operations one at a time, under
    Patches that agree in everything an operation reads.  Their timelines go
    through the same graphs up to the refresh time.
-/

namespace ResearchGraph

open Lib

variable {p q : Patch} {s s' t t' u : GraphState} {op : GraphOperation}

/-! ### What an operation reads of its Patch -/

/-- The fields of a Patch that the application of an operation reads. -/
def Patch.writer (p : Patch) : Patch where
  schema_generation := p.schema_generation
  revision := p.revision
  kind := p.kind
  author := p.author
  producer := .agent
  created_at := { year := 1, month := 1, day := 1 }
  summary := ""
  ops := []
  source_operation_id := p.source_operation_id

theorem apply_operation_writer (p : Patch) (g : Bool) (s : GraphState) (op : GraphOperation) :
    apply_operation p g s op = apply_operation p.writer g s op := by
  cases op <;> rfl

theorem apply_operation_congr (h : p.writer = q.writer) (g : Bool) (s : GraphState)
    (op : GraphOperation) : apply_operation p g s op = apply_operation q g s op := by
  rw [apply_operation_writer p, h, ← apply_operation_writer q]

theorem compatible_writer (hrev : p.revision = q.revision)
    (h : compatible_envelopes p q = true) : p.writer = q.writer := by
  simp only [compatible_envelopes, decide_eq_true_eq] at h
  simp [Patch.writer, hrev, h]

/-! ### Graphs up to the refresh time -/

/-- The graph without its refresh time. -/
def GraphState.bare (s : GraphState) : GraphState := s.with_refresh none

@[simp] theorem bare_with_refresh (time : Option Datetime) :
    (s.with_refresh time).bare = s.bare := rfl

theorem bare_eq (h : s.bare = s'.bare) : s' = s.with_refresh s'.last_refresh_at := by
  have hs : s' = s'.bare.with_refresh s'.last_refresh_at := rfl
  rw [hs, ← h]
  rfl

theorem nodes_of_bare (h : s.bare = s'.bare) : s.nodes = s'.nodes := by
  rw [bare_eq h]
  rfl

/-- Staging one system-field operation, with the refresh stamp. -/
theorem apply_generated_operation_ok {updates : List NodeUpdate} :
    apply_transition_generated_operation s p (.update_nodes updates) = .ok t ↔
      ∃ u, apply_operation p true s (.update_nodes updates) = .ok u ∧
        t = u.with_refresh (refresh_time p u) := by
  simp only [apply_transition_generated_operation, except_bind_ok, except_pure_ok, apply_patch_ok,
    List.zipIdx_cons, List.zipIdx_nil, foldlM_cons_ok, foldlM_nil_ok, List.singleton_append,
    List.contains_cons, beq_self_eq_true, Bool.true_or]
  have hsettled (u : GraphState) :
      rederive_layers u (stored_edge_ids [.update_nodes updates]) = u := rfl
  constructor
  · rintro ⟨_, ⟨u, ⟨u, hu, rfl⟩, rfl⟩, rfl⟩
    refine ⟨u, hu, ?_⟩
    simp [hsettled, stamp_patch, GraphState.with_refresh, refresh_time,
      ← apply_operation_revision hu]
  · rintro ⟨u, hu, rfl⟩
    refine ⟨_, ⟨u, ⟨u, hu, rfl⟩, rfl⟩, ?_⟩
    simp [hsettled, stamp_patch, GraphState.with_refresh, refresh_time,
      ← apply_operation_revision hu]

/-- Staging under another Patch of the same writer, on the same bare graph. -/
theorem apply_valid_operation_bare (hp : p.transition = none) (hq : q.transition = none)
    (hw : p.writer = q.writer) (hs : s.bare = s'.bare)
    (h : apply_valid_operation s p op = .ok t) :
    ∃ t', apply_valid_operation s' q op = .ok t' ∧ t.bare = t'.bare := by
  obtain ⟨u, hu, rfl⟩ := (apply_valid_operation_ok hp).mp h
  have hu' := apply_operation_with_refresh hu s'.last_refresh_at
  rw [← bare_eq hs, apply_operation_congr hw] at hu'
  exact ⟨_, (apply_valid_operation_ok hq).mpr ⟨_, hu', rfl⟩, rfl⟩

theorem apply_generated_operation_bare {updates : List NodeUpdate} (hw : p.writer = q.writer)
    (hs : s.bare = s'.bare)
    (h : apply_transition_generated_operation s p (.update_nodes updates) = .ok t) :
    ∃ t', apply_transition_generated_operation s' q (.update_nodes updates) = .ok t' ∧
      t.bare = t'.bare := by
  obtain ⟨u, hu, rfl⟩ := apply_generated_operation_ok.mp h
  have hu' := apply_operation_with_refresh hu s'.last_refresh_at
  rw [← bare_eq hs, apply_operation_congr hw] at hu'
  exact ⟨_, apply_generated_operation_ok.mpr ⟨_, hu', rfl⟩, rfl⟩

/-! ### Timelines -/

/-- Two timeline steps of one action that differ in the refresh time only. -/
structure SameStep (a b : TimelineStep) : Prop where
  index : a.index = b.index
  before : a.before.bare = b.before.bare
  after : a.after.bare = b.after.bare

/-- The actions of two runs: the same operations under Patches of one writer. -/
def SameAction (a b : Patch × GraphOperation) : Prop :=
  a.1.transition = none ∧ b.1.transition = none ∧ a.1.writer = b.1.writer ∧ a.2 = b.2

theorem timeline_same {xs ys : List (Patch × GraphOperation)} (hxy : List.Forall₂ SameAction xs ys)
    {i : Nat} {steps : List TimelineStep} (hs : s.bare = s'.bare)
    (h : timeline_from s i xs = .ok (steps, t)) :
    ∃ steps' t', timeline_from s' i ys = .ok (steps', t') ∧
      List.Forall₂ SameStep steps steps' ∧ t.bare = t'.bare := by
  induction hxy generalizing s s' i steps with
  | nil =>
    cases h
    exact ⟨[], s', rfl, .nil, hs⟩
  | @cons a b xs ys hab _ ih =>
    obtain ⟨p, op⟩ := a
    obtain ⟨q, op'⟩ := b
    obtain ⟨hp, hq, hw, hop⟩ := hab
    obtain rfl : op = op' := hop
    simp only [timeline_from, except_bind_ok] at h
    obtain ⟨v, hv, ⟨rest, final⟩, hrest, h⟩ := h
    obtain ⟨v', hv', hbare⟩ := apply_valid_operation_bare hp hq hw hs hv
    obtain ⟨rfl, rfl⟩ := Prod.mk.inj (except_pure_ok.mp h)
    obtain ⟨steps', t', hrest', hsteps, ht⟩ := ih hbare hrest
    refine ⟨⟨i, s', v'⟩ :: steps', t', ?_, .cons ⟨rfl, hs, hbare⟩ hsteps, ht⟩
    simp only [timeline_from, except_bind_ok]
    exact ⟨v', hv', (steps', t'), hrest', rfl⟩

theorem timeline_final {actions : List (Patch × GraphOperation)} {i : Nat}
    {steps : List TimelineStep} (h : timeline_from s i actions = .ok (steps, t)) :
    actions.foldlM (fun t a => apply_valid_operation t a.1 a.2) s = .ok t := by
  induction actions generalizing s i steps with
  | nil =>
    cases h
    rfl
  | cons a actions ih =>
    obtain ⟨p, op⟩ := a
    simp only [timeline_from, except_bind_ok] at h
    obtain ⟨v, hv, ⟨rest, final⟩, hrest, h⟩ := h
    obtain ⟨rfl, rfl⟩ := Prod.mk.inj (except_pure_ok.mp h)
    exact foldlM_cons_ok.mpr ⟨v, hv, ih hrest⟩

theorem timeline_indexes {actions : List (Patch × GraphOperation)} {i : Nat}
    {steps : List TimelineStep} (h : timeline_from s i actions = .ok (steps, t)) :
    ∀ step ∈ steps, step.index < i + actions.length := by
  induction actions generalizing s i steps with
  | nil =>
    cases h
    simp
  | cons a actions ih =>
    obtain ⟨p, op⟩ := a
    simp only [timeline_from, except_bind_ok] at h
    obtain ⟨v, hv, ⟨rest, final⟩, hrest, h⟩ := h
    obtain ⟨rfl, rfl⟩ := Prod.mk.inj (except_pure_ok.mp h)
    intro step hstep
    rcases List.mem_cons.mp hstep with rfl | hstep
    · simp
    · have := ih hrest step hstep
      simp only [List.length_cons]
      omega

/-- The operations preparation generates rewrite nodes only. -/
def IsUpdate (op : GraphOperation) : Prop := ∃ updates, op = .update_nodes updates

theorem generated_same {ops : List GraphOperation} (hops : ∀ op ∈ ops, IsUpdate op) {i : Nat}
    {steps : List TimelineStep} (hw : p.writer = q.writer) (hs : s.bare = s'.bare)
    (h : apply_generated p s i ops = .ok (steps, t)) :
    ∃ steps' t', apply_generated q s' i ops = .ok (steps', t') ∧
      List.Forall₂ SameStep steps steps' ∧ t.bare = t'.bare := by
  induction ops generalizing s s' i steps with
  | nil =>
    cases h
    exact ⟨[], s', rfl, .nil, hs⟩
  | cons op ops ih =>
    obtain ⟨updates, rfl⟩ := hops op (by simp)
    simp only [apply_generated, except_bind_ok] at h
    obtain ⟨v, hv, ⟨rest, final⟩, hrest, h⟩ := h
    obtain ⟨v', hv', hbare⟩ := apply_generated_operation_bare hw hs hv
    obtain ⟨rfl, rfl⟩ := Prod.mk.inj (except_pure_ok.mp h)
    obtain ⟨steps', t', hrest', hsteps, ht⟩ :=
      ih (fun op hop => hops op (by simp [hop])) hbare hrest
    refine ⟨⟨i, s', v'⟩ :: steps', t', ?_, .cons ⟨rfl, hs, hbare⟩ hsteps, ht⟩
    simp only [apply_generated, except_bind_ok]
    exact ⟨v', hv', (steps', t'), hrest', rfl⟩

theorem generated_final {ops : List GraphOperation} {i : Nat} {steps : List TimelineStep}
    (h : apply_generated p s i ops = .ok (steps, t)) :
    ops.foldlM (fun t op => apply_transition_generated_operation t p op) s = .ok t := by
  induction ops generalizing s i steps with
  | nil =>
    cases h
    rfl
  | cons op ops ih =>
    simp only [apply_generated, except_bind_ok] at h
    obtain ⟨v, hv, ⟨rest, final⟩, hrest, h⟩ := h
    obtain ⟨rfl, rfl⟩ := Prod.mk.inj (except_pure_ok.mp h)
    exact foldlM_cons_ok.mpr ⟨v, hv, ih hrest⟩

theorem generated_indexes {ops : List GraphOperation} {i : Nat} {steps : List TimelineStep}
    (h : apply_generated p s i ops = .ok (steps, t)) :
    ∀ step ∈ steps, step.index < i + ops.length := by
  induction ops generalizing s i steps with
  | nil =>
    cases h
    simp
  | cons op ops ih =>
    simp only [apply_generated, except_bind_ok] at h
    obtain ⟨v, hv, ⟨rest, final⟩, hrest, h⟩ := h
    obtain ⟨rfl, rfl⟩ := Prod.mk.inj (except_pure_ok.mp h)
    intro step hstep
    rcases List.mem_cons.mp hstep with rfl | hstep
    · simp
    · have := ih hrest step hstep
      simp only [List.length_cons]
      omega

/-! ### Generated operations -/

theorem guidance_actions_update {timeline : List TimelineStep}
    {actions : List (Patch × GraphOperation)} :
    ∀ x ∈ guidance_actions s timeline actions, IsUpdate x.1 := by
  intro x hx
  simp only [guidance_actions, List.mem_flatMap] at hx
  obtain ⟨id, -, hx⟩ := hx
  cases he : s.experiment? id with
  | none => simp [he] at hx
  | some e =>
    simp only [he, guidance_actions_of, List.mem_map] at hx
    obtain ⟨cause, -, rfl⟩ := hx
    exact ⟨_, rfl⟩

/-- The graph with other revision and refresh stamps. -/
def GraphState.restamped (s : GraphState) (revision : Nat) (time : Option Datetime) : GraphState :=
  { s with revision, last_refresh_at := time }

/-- An update of nodes reads no stamp of the graph. -/
theorem apply_update_restamped {g : Bool} {updates : List NodeUpdate} (revision : Nat)
    (time : Option Datetime) (h : apply_operation p g s (.update_nodes updates) = .ok t) :
    apply_operation p g (s.restamped revision time) (.update_nodes updates)
      = .ok (t.restamped revision time) := by
  refine foldlM_map_ok (fun a : GraphState => a.restamped revision time) h (fun u _ a b hab => ?_)
  obtain ⟨n, hn, m, hm, rfl⟩ := update_node_ok.mp hab
  exact update_node_ok.mpr ⟨n, hn, m, hm, rfl⟩

/-- The system-field operations of a transition, on restamped graphs. -/
theorem generated_run_restamped {ops : List GraphOperation} (hops : ∀ op ∈ ops, IsUpdate op)
    {revision : Nat} {time : Option Datetime}
    (htime : ∀ a : GraphState, a.last_refresh_at = time → refresh_time p a = time)
    (h : ops.foldlM (fun t op => apply_transition_generated_operation t p op)
      (u.restamped revision time) = .ok t) :
    ∃ v, ops.foldlM (apply_operation p true) u = .ok v ∧ t = v.restamped revision time := by
  induction ops generalizing u with
  | nil =>
    obtain rfl := foldlM_nil_ok.mp h
    exact ⟨u, rfl, rfl⟩
  | cons op ops ih =>
    obtain ⟨updates, rfl⟩ := hops op (by simp)
    obtain ⟨t₁, hop, hrest⟩ := foldlM_cons_ok.mp h
    obtain ⟨u', hu', rfl⟩ := apply_generated_operation_ok.mp hop
    have hstamp : refresh_time p u' = time := htime u' (apply_operation_refresh hu')
    have hu := apply_update_restamped u.revision u.last_refresh_at hu'
    have hback : u'.with_refresh (refresh_time p u')
        = (u'.restamped u.revision u.last_refresh_at).restamped revision time := by
      have hrev : u'.revision = revision := apply_operation_revision hu'
      rw [hstamp]
      simp [GraphState.with_refresh, GraphState.restamped, hrev]
    rw [hback] at hrest
    obtain ⟨v, hv, rfl⟩ := ih (fun op hop => hops op (by simp [hop])) hrest
    exact ⟨v, foldlM_cons_ok.mpr ⟨_, hu, hv⟩, rfl⟩

/-- The indexes of generated actions follow the initiating ones. -/
theorem mem_generated_refs {n j : Nat} {causes : List Nat} :
    j ∈ (generated_refs n causes).map (·.operation_index) ↔ n ≤ j ∧ j < n + causes.length := by
  simp only [generated_refs, List.map_map, List.mem_map, Function.comp_apply, Prod.exists]
  constructor
  · rintro ⟨cause, i, hmem, rfl⟩
    have := (List.mem_zipIdx hmem).2.1
    omega
  · rintro ⟨hle, hlt⟩
    refine ⟨causes[j - n], j - n, ?_, by omega⟩
    rw [List.mem_zipIdx_iff_getElem?]
    simp

/-- A combined Patch applies its initiating operations, then the generated ones. -/
theorem apply_combined_ok (xs gens : List GraphOperation) {causes : List Nat}
    {trace : TransitionTrace} (hops : q.ops = xs ++ gens) (htrace : q.transition = some trace)
    (hrefs : trace.generated_actions = generated_refs xs.length causes)
    (hlen : causes.length = gens.length) (hw : q.writer = p.writer) :
    apply_valid_patch s q = .ok t ↔
      ∃ u v, run_operations p s xs = .ok u ∧ gens.foldlM (apply_operation p true) u = .ok v ∧
        t = stamp_patch q (rederive_layers v (stored_edge_ids (xs ++ gens))) := by
  -- the generated flag is set behind the actions of the sources, and only there
  have hflag (j : Nat) : (generated_operation_indexes q).contains j
      = decide (xs.length ≤ j ∧ j < xs.length + gens.length) := by
    rw [Bool.eq_iff_iff, List.contains_iff_mem, generated_operation_indexes, htrace]
    simp only [hrefs, mem_generated_refs, hlen, decide_eq_true_eq]
  have hfirst (a : GraphState) : xs.zipIdx.foldlM (fun u x => apply_operation q
      ((generated_operation_indexes q).contains x.2) u x.1) a = run_operations p a xs := by
    rw [foldlM_congr (g := fun u x => apply_operation p false u x.1), foldlM_zipIdx,
      run_operations]
    intro x hx b
    have := (List.mem_zipIdx hx).2.1
    have hfalse : (generated_operation_indexes q).contains x.2 = false := by
      rw [hflag]
      simp only [decide_eq_false_iff_not]
      omega
    rw [hfalse, apply_operation_congr hw]
  have hsecond (a : GraphState) : (gens.zipIdx xs.length).foldlM (fun u x => apply_operation q
      ((generated_operation_indexes q).contains x.2) u x.1) a
        = gens.foldlM (apply_operation p true) a := by
    rw [foldlM_congr (g := fun u x => apply_operation p true u x.1), foldlM_zipIdx]
    intro x hx b
    have h₁ := (List.mem_zipIdx hx).1
    have h₂ := (List.mem_zipIdx hx).2.1
    have htrue : (generated_operation_indexes q).contains x.2 = true := by
      rw [hflag]
      simp only [decide_eq_true_eq]
      omega
    rw [htrue, apply_operation_congr hw]
  simp only [apply_valid_patch, apply_patch_ok, List.nil_append, hops, List.zipIdx_append,
    Nat.zero_add, foldlM_append_ok, hfirst, hsecond]
  constructor
  · rintro ⟨v, ⟨u, hu, hv⟩, rfl⟩
    exact ⟨u, v, hu, hv, rfl⟩
  · rintro ⟨u, v, hu, hv, rfl⟩
    exact ⟨v, ⟨u, hu, hv⟩, rfl⟩

/-! ### Closures -/

theorem apply_timeline_ok {actions : List (Patch × GraphOperation)} {steps : List TimelineStep} :
    apply_timeline s actions = .ok (steps, t) ↔
      ∃ final, timeline_from s 0 actions = .ok (steps, final) ∧
        t = { final with
          revision := (actions.head?.map (·.1.revision)).getD final.revision } := by
  simp only [apply_timeline, except_bind_ok, except_pure_ok, Prod.exists, Prod.mk.injEq]
  constructor
  · rintro ⟨steps', final, h, rfl, rfl⟩
    exact ⟨final, h, rfl⟩
  · rintro ⟨final, h, rfl⟩
    exact ⟨steps, final, h, rfl, rfl⟩

/-- What a closure holds. -/
theorem transition_closure_ok {first : Patch} {patches : List Patch} {n : Nat} {c : Closure}
    (h : transition_closure s first patches n = .ok c) :
    ∃ t, apply_timeline s (source_actions patches) = .ok (c.initiating, t) ∧
      c.generated_operations = guidance_actions t c.initiating (source_actions patches) ∧
      apply_generated first t (source_actions patches).length
        (c.generated_operations.map Prod.fst) = .ok (c.generated, c.final) := by
  simp only [transition_closure, except_bind_ok, Prod.exists] at h
  obtain ⟨initiating, t, htimeline, h⟩ := h
  split at h
  · cases h
  · simp only [except_bind_ok, except_pure_ok, Prod.exists] at h
    obtain ⟨generated, final, hgenerated, rfl⟩ := h
    exact ⟨t, htimeline, rfl, hgenerated⟩

theorem Closure.generated_updates {c : Closure} {timeline : List TimelineStep}
    {actions : List (Patch × GraphOperation)}
    (h : c.generated_operations = guidance_actions s timeline actions) :
    ∀ op ∈ c.generated_operations.map Prod.fst, IsUpdate op := by
  intro op hop
  obtain ⟨x, hx, rfl⟩ := List.mem_map.mp hop
  rw [h] at hx
  exact guidance_actions_update x hx

/-- What a combined Patch takes from its sources. -/
theorem combined_patch_ok {first : Patch} {patches : List Patch} {ops : List GraphOperation}
    {trace : TransitionTrace} (h : combined_patch first patches ops trace = .ok q) :
    ∃ cursors, merged_cursors patches = .ok cursors ∧ q = { first with
      summary := if patches.length = 1 then first.summary
        else "Human Sync: " ++ String.intercalate "; " (patches.map (·.summary))
      ops := ops
      run_truth_scope := stable_union (patches.map (·.run_truth_scope))
      repositories_read := stable_union (patches.map (·.repositories_read))
      processed_cursors := cursors
      change_summary := patches.flatMap (·.change_summary)
      human_action := none
      agent_action := none
      admission := .accepted
      admission_messages := []
      transition := some trace } := by
  simpa only [combined_patch, except_bind_ok, except_pure_ok] using h

end ResearchGraph
