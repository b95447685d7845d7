import ResearchGraph.Timeline
import ResearchGraph.Reference

/-! # The trace of a transition

    Preparation writes a trace, and replay rebuilds the source Patches from the
    combined Patch and the trace.  Everything replay checks is met by
    construction except the transition id: it digests the producer envelopes of
    the initiating Patches, which the combined Patch has merged.
-/

namespace ResearchGraph

open Lib

variable {p q first : Patch} {patches : List Patch} {s t : GraphState} {c : Closure}

/-! ### Source Patches -/

/-- The Patches that carry an operation. -/
def initiating_patches (patches : List Patch) : List Patch :=
  patches.filter (fun p => p.ops ≠ [])

/-- The Patch `p` as replay rebuilds it from the combined Patch `q`. -/
def rebuilt (q p : Patch) : Patch :=
  { q with
    summary := p.summary, change_summary := p.change_summary, ops := p.ops,
    human_action := p.human_action, agent_action := p.agent_action, transition := none }

theorem source_actions_ops (patches : List Patch) :
    (source_actions patches).map Prod.snd = patches.flatMap Patch.ops := by
  induction patches with
  | nil => rfl
  | cons p patches ih =>
    simp only [source_actions, List.flatMap_cons, List.map_append, List.map_map] at ih ⊢
    rw [ih]
    simp [Function.comp_def]

theorem source_actions_length (patches : List Patch) :
    (source_actions patches).length = (patches.flatMap Patch.ops).length := by
  rw [← source_actions_ops, List.length_map]

theorem initiating_patches_ops (patches : List Patch) :
    (initiating_patches patches).flatMap Patch.ops = patches.flatMap Patch.ops := by
  induction patches with
  | nil => rfl
  | cons p patches ih =>
    by_cases hp : p.ops = []
    · simpa [initiating_patches, hp] using ih
    · simpa [initiating_patches, hp] using ih

/-- Looking a block of operations up by its indexes. -/
theorem block_at (a b c : List GraphOperation) :
    ((List.range b.length).map (a.length + ·)).filterMap (fun i => (a ++ (b ++ c))[i]?) = b := by
  rw [List.filterMap_map]
  have hget : ∀ i ∈ List.range b.length,
      ((fun i => (a ++ (b ++ c))[i]?) ∘ (a.length + ·)) i = some (b.getD i (.remove_edges [])) := by
    intro i hi
    have hi := List.mem_range.mp hi
    simp [List.getElem?_append_right, List.getElem?_append_left hi, hi]
  rw [List.filterMap_congr hget, show (fun i => some (b.getD i (.remove_edges [])))
    = some ∘ (b.getD · (.remove_edges [])) from rfl, List.filterMap_eq_map]
  refine List.ext_getElem (by simp) (fun i hi hj => ?_)
  simp [hj]

/-- Replay rebuilds the Patches that carry an operation, in order. -/
theorem source_patches_eq (group_index : Nat) (a c : List GraphOperation)
    (hops : q.ops = a ++ (patches.flatMap Patch.ops ++ c)) :
    (initiating_groups patches group_index a.length).map (source_patch_for_group q)
      = (initiating_patches patches).map (rebuilt q) := by
  induction patches generalizing group_index a with
  | nil => rfl
  | cons p patches ih =>
    have hops' : q.ops = (a ++ p.ops) ++ (patches.flatMap Patch.ops ++ c) := by
      simpa [List.append_assoc] using hops
    have hrest := ih (group_index + 1) (a ++ p.ops) hops'
    rw [List.length_append] at hrest
    by_cases hp : p.ops = []
    · simpa [initiating_groups, initiating_patches, hp] using hrest
    · have hblock := block_at a p.ops (patches.flatMap Patch.ops ++ c)
      have hfirst : source_patch_for_group q (initiating_group p group_index a.length)
          = rebuilt q p := by
        simp only [source_patch_for_group, initiating_group, rebuilt, hops, List.flatMap_cons,
          List.append_assoc, hblock]
      rw [initiating_groups, if_neg hp, List.singleton_append, List.map_cons, hfirst, hrest]
      simp [initiating_patches, hp]

/-! ### Indexes -/

theorem source_indexes_eq (group_index first : Nat) :
    (initiating_groups patches group_index first).flatMap (·.operation_indexes)
      = (List.range (patches.flatMap Patch.ops).length).map (first + ·) := by
  induction patches generalizing group_index first with
  | nil => rfl
  | cons p patches ih =>
    have hsplit : (List.range (p.ops.length + (patches.flatMap Patch.ops).length)).map (first + ·)
        = (List.range p.ops.length).map (first + ·) ++
          (List.range (patches.flatMap Patch.ops).length).map (first + p.ops.length + ·) := by
      rw [List.range_add, List.map_append, List.map_map]
      simp [Function.comp_def, Nat.add_assoc]
    rw [List.flatMap_cons, List.length_append, hsplit, ← ih (group_index + 1)]
    by_cases hp : p.ops = []
    · simp [initiating_groups, hp]
    · simp [initiating_groups, hp, initiating_group]

theorem generated_indexes_eq (n : Nat) (causes : List Nat) :
    (generated_refs n causes).map (·.operation_index)
      = (List.range causes.length).map (n + ·) := by
  simp only [generated_refs, List.map_map]
  refine List.ext_getElem (by simp) (fun i hi hj => ?_)
  simp

/-- The indexes preparation writes are the whole range, in order. -/
theorem trace_indexes_ok {trace : TransitionTrace} {n m : Nat}
    (hsource : trace.initiating_groups.flatMap (·.operation_indexes) = List.range n)
    (hgenerated : trace.generated_actions.map (·.operation_index) = (List.range m).map (n + ·))
    (hops : q.ops.length = n + m) : require_trace_indexes q trace = .ok () := by
  have hsorted (k : Nat) : (List.range k).insertionSort (· ≤ ·) = List.range k :=
    (List.pairwise_le_range).insertionSort_eq
  have hshift : ((List.range m).map (n + ·)).insertionSort (· ≤ ·)
      = (List.range m).map (n + ·) := by
    refine List.Pairwise.insertionSort_eq ?_
    rw [List.pairwise_map]
    exact List.pairwise_le_range.imp (by intros; omega)
  have hnodup : ((List.range m).map (n + ·)).Nodup :=
    List.Nodup.map (fun a b h => Nat.add_left_cancel h) List.nodup_range
  have happend : List.range n ++ (List.range m).map (n + ·) = List.range (n + m) :=
    (List.range_add ..).symm
  have hapart (i j : Nat) (hi : i ∈ List.range n) (hj : j ∈ (List.range m).map (n + ·)) :
      i < j := by
    obtain ⟨k, -, rfl⟩ := List.mem_map.mp hj
    have := List.mem_range.mp hi
    omega
  have hoverlap : (List.range n).any (fun i => ((List.range m).map (n + ·)).contains i)
      = false := by
    simp only [List.any_eq_false, List.contains_iff_mem]
    exact fun i hi hj => (hapart i i hi hj).false
  have hfollow : (List.range n).any (fun i => ((List.range m).map (n + ·)).any (fun j => j ≤ i))
      = false := by
    simp only [List.any_eq_false, List.any_eq_true, decide_eq_true_eq, not_exists, not_and]
    exact fun i hi j hj => Nat.not_le.mpr (hapart i j hi hj)
  simp only [require_trace_indexes, hsource, hgenerated, happend, hsorted, hshift, hops, hoverlap,
    hfollow, List.nodup_range, hnodup, ne_eq, not_true_eq_false, or_self, Bool.false_eq_true,
    if_false]

/-! ### Generated actions -/

theorem forM_ok {α : Type} {f : α → Applied Unit} {xs : List α} (h : ∀ x ∈ xs, f x = .ok ()) :
    xs.forM f = .ok () := by
  induction xs with
  | nil => rfl
  | cons x xs ih =>
    show (f x >>= fun _ => xs.forM f) = .ok ()
    rw [h x (by simp)]
    exact ih (fun y hy => h y (by simp [hy]))

/-- A stale flag changes because of an initiating action. -/
theorem stale_flag_cause {timeline : List TimelineStep} {actions : List (Patch × GraphOperation)}
    (htimeline : ∀ step ∈ timeline, step.index < actions.length) {id : String} {e : Experiment}
    {x : Nat × String × Bool} (hx : x ∈ stale_flag_changes timeline actions id e) :
    x.1 < actions.length ∧ x.2.1 ∈ GUIDANCE_STALE_FIELDS := by
  have hinvalid {cause : Nat} (h : invalidation_cause timeline id = some cause) :
      cause < actions.length := by
    obtain ⟨step, hstep, rfl⟩ := Option.map_eq_some_iff.mp h
    exact htimeline step (List.mem_of_find?_eq_some hstep)
  have hexplicit {field : String} {cause : Nat}
      (h : explicit_guidance_update actions id field = some cause) : cause < actions.length := by
    obtain ⟨a, ha, rfl⟩ := Option.map_eq_some_iff.mp h
    have hmem := (List.mem_filter.mp (List.mem_of_getLast? ha)).1
    simpa using (List.mem_zipIdx hmem).2.1
  have hdesired {field : String} {has_value : Bool} {cause : Nat} {desired : Bool}
      (h : desired_stale_flag (invalidation_cause timeline id)
        (explicit_guidance_update actions id field) has_value = some (cause, desired)) :
      cause < actions.length := by
    unfold desired_stale_flag at h
    split at h
    · next hcause =>
      obtain ⟨rfl, -⟩ := Prod.mk.inj (Option.some.inj h)
      exact hinvalid hcause
    · next hcause =>
      obtain ⟨rfl, -⟩ := Prod.mk.inj (Option.some.inj h)
      exact hexplicit hcause
    · cases h
  simp only [stale_flag_changes, List.mem_append] at hx
  rcases hx with hx | hx
  all_goals
    split at hx
    · cases hx
    · next cause desired hcause =>
      split at hx
      · cases hx
      · obtain rfl := List.mem_singleton.mp hx
        exact ⟨hdesired hcause, by simp [GUIDANCE_STALE_FIELDS]⟩

/-- An update of system fields with truth values. -/
theorem system_update_valid {update : NodeUpdate} (hitems : update.changes.items ≠ [])
    (h : ∀ e ∈ update.changes.items, e.1 ∈ GUIDANCE_STALE_FIELDS ∧ ∃ b, e.2 = .bool b) :
    validate_guidance_operation (.update_nodes [update]) = .ok () := by
  simp only [validate_guidance_operation, List.any_cons, List.any_nil, Bool.or_false]
  rw [if_neg, if_neg]
  · simp only [List.any_eq_true, not_exists, not_and, Bool.not_eq_true]
    intro e he
    obtain ⟨-, b, hb⟩ := h e he
    simp [hb]
  · simp only [hitems, false_or, decide_eq_true_eq, List.any_eq_true, not_exists, not_and, not_not]
    intro k hk
    obtain ⟨e, he, rfl⟩ := List.mem_map.mp hk
    exact (h e he).1

/-- The flags of a generated action are system fields with truth values. -/
theorem guidance_action_valid {id : String} {flags : List (String × Bool)} (hne : flags ≠ [])
    (hfields : ∀ f ∈ flags, f.1 ∈ GUIDANCE_STALE_FIELDS) :
    validate_guidance_operation (guidance_action id flags) = .ok () := by
  refine system_update_valid (Table.ofList_ne_nil (by simpa using hne)) (fun e he => ?_)
  obtain ⟨f, hf, rfl⟩ := List.mem_map.mp (Table.mem_of_mem_ofList he)
  exact ⟨hfields f hf, f.2, rfl⟩

theorem guidance_actions_valid {timeline : List TimelineStep}
    {actions : List (Patch × GraphOperation)}
    (htimeline : ∀ step ∈ timeline, step.index < actions.length) :
    ∀ x ∈ guidance_actions s timeline actions,
      validate_guidance_operation x.1 = .ok () ∧ x.2 < actions.length := by
  intro x hx
  simp only [guidance_actions, List.mem_flatMap] at hx
  obtain ⟨id, -, hx⟩ := hx
  cases he : s.experiment? id with
  | none => simp [he] at hx
  | some e =>
    simp only [he, guidance_actions_of, List.mem_map, List.mem_insertionSort, List.mem_dedup] at hx
    obtain ⟨cause, ⟨y, hy, rfl⟩, rfl⟩ := hx
    refine ⟨guidance_action_valid ?_ ?_, (stale_flag_cause htimeline hy).1⟩
    · exact List.ne_nil_of_mem (List.mem_map.mpr ⟨y, List.mem_filter.mpr ⟨hy, by simp⟩, rfl⟩)
    · intro f hf
      obtain ⟨z, hz, rfl⟩ := List.mem_map.mp hf
      exact (stale_flag_cause htimeline (List.mem_filter.mp hz).1).2

/-- The generated actions a trace records pass their rule. -/
theorem generated_actions_ok {xs : List GraphOperation} {gens : List (GraphOperation × Nat)}
    (hgens : ∀ x ∈ gens, validate_guidance_operation x.1 = .ok () ∧ x.2 < xs.length) :
    (generated_refs xs.length (gens.map Prod.snd)).forM
      (validate_generated_action (xs ++ gens.map Prod.fst)) = .ok () := by
  refine forM_ok (fun item hitem => ?_)
  simp only [generated_refs, List.mem_map, Prod.exists] at hitem
  obtain ⟨cause, i, hmem, rfl⟩ := hitem
  obtain ⟨x, hx, rfl⟩ : ∃ x, gens[i]? = some x ∧ x.2 = cause := by
    rw [List.mem_zipIdx_iff_getElem?, List.getElem?_map] at hmem
    exact Option.map_eq_some_iff.mp hmem
  obtain ⟨hvalid, hlt⟩ := hgens x (List.mem_of_getElem? hx)
  have hop : (xs ++ gens.map Prod.fst)[xs.length + i]? = some x.1 := by
    simp [List.getElem?_append_right, hx]
  simp only [validate_generated_action, ne_eq, not_true_eq_false, if_false, hop, hvalid]
  rw [if_neg (by omega)]

/-- The generated operations, looked up by their indexes. -/
theorem generated_operations_at (xs : List GraphOperation) (gens : List (GraphOperation × Nat)) :
    (generated_refs xs.length (gens.map Prod.snd)).filterMap
      (fun item => (xs ++ gens.map Prod.fst)[item.operation_index]?) = gens.map Prod.fst := by
  have hblock := block_at xs (gens.map Prod.fst) []
  have hlength : (gens.map Prod.fst).length = (gens.map Prod.snd).length := by simp
  rw [List.append_nil, hlength, ← generated_indexes_eq, List.filterMap_map] at hblock
  exact hblock

theorem head_revision_same {xs ys : List (Patch × GraphOperation)}
    (h : List.Forall₂ SameAction xs ys) :
    xs.head?.map (·.1.revision) = ys.head?.map (·.1.revision) := by
  cases h with
  | nil => rfl
  | cons hab _ =>
    have hrevision := congrArg Patch.revision hab.2.2.1
    exact congrArg some hrevision

/-- Whole timelines under Patches of the same writers. -/
theorem apply_timeline_same {xs ys : List (Patch × GraphOperation)} {steps : List TimelineStep}
    (hxy : List.Forall₂ SameAction xs ys) (h : apply_timeline s xs = .ok (steps, t)) :
    ∃ steps' t', apply_timeline s ys = .ok (steps', t') ∧
      List.Forall₂ SameStep steps steps' ∧ t.bare = t'.bare := by
  obtain ⟨final, hfrom, rfl⟩ := apply_timeline_ok.mp h
  obtain ⟨steps', final', hfrom', hsteps, hfinal⟩ := timeline_same hxy rfl hfrom
  refine ⟨steps', _, apply_timeline_ok.mpr ⟨final', hfrom', rfl⟩, hsteps, ?_⟩
  -- both runs end at the revision of their first Patch
  rw [head_revision_same hxy, bare_eq hfinal]
  rfl

/-! ### Lifecycle events -/

theorem attr_of_nodes (h : s.nodes = t.nodes) (id field : String) :
    s.attr id field = t.attr id field := by
  simp [GraphState.attr, h]

theorem status_events_same {a b : TimelineStep} (h : SameStep a b) :
    status_events a = status_events b := by
  have hbefore := nodes_of_bare h.before
  have hafter := nodes_of_bare h.after
  simp only [status_events, hbefore, hafter, h.index, attr_of_nodes hbefore, attr_of_nodes hafter]

theorem guidance_events_same {a b : TimelineStep} (h : SameStep a b) (ops : List GraphOperation) :
    guidance_events ops a = guidance_events ops b := by
  simp only [guidance_events, h.index, attr_of_nodes (nodes_of_bare h.before),
    attr_of_nodes (nodes_of_bare h.after)]

theorem flatMap_same {α : Type} {f : TimelineStep → List α} {xs ys : List TimelineStep}
    (h : List.Forall₂ SameStep xs ys) (hf : ∀ a b, SameStep a b → f a = f b) :
    xs.flatMap f = ys.flatMap f := by
  induction h with
  | nil => rfl
  | cons hab _ ih => rw [List.flatMap_cons, List.flatMap_cons, hf _ _ hab, ih]

variable [Canonical]

theorem lifecycle_events_same {initiating initiating' generated generated' : List TimelineStep}
    (hinitiating : List.Forall₂ SameStep initiating initiating')
    (hgenerated : List.Forall₂ SameStep generated generated') (id : String)
    (ops : List GraphOperation) :
    lifecycle_events id initiating generated ops
      = lifecycle_events id initiating' generated' ops := by
  simp only [lifecycle_events, flatMap_same hinitiating (fun _ _ => status_events_same),
    flatMap_same hgenerated (fun _ _ h => guidance_events_same h ops)]

theorem event_id_ok {id : String} {n ordinal : Nat} {known : List String} {e : PendingEvent}
    {rest : List TransitionEvent} (h : e.cause < n) :
    validate_event_ids id n known ordinal (identified_event id e ordinal :: rest)
      = validate_event_ids id n (known ++ [(identified_event id e ordinal).event_id]) (ordinal + 1)
        rest := by
  have hcause : ¬ n ≤ e.cause := Nat.not_le.mpr h
  rw [validate_event_ids, show (identified_event id e ordinal).cause = .action e.cause from rfl]
  simp only [if_neg hcause]
  exact if_neg (not_not.mpr rfl)

/-- Events that cite an action of the Patch carry the ids replay computes. -/
theorem event_ids_ok {id : String} {n ordinal : Nat} {known : List String}
    {events : List PendingEvent} (h : ∀ e ∈ events, e.cause < n) :
    validate_event_ids id n known ordinal
      ((events.zipIdx ordinal).map (fun (e, ordinal) => identified_event id e ordinal))
        = .ok () := by
  induction events generalizing ordinal known with
  | nil => rfl
  | cons e events ih =>
    rw [List.zipIdx_cons, List.map_cons, event_id_ok (h e (by simp))]
    exact ih (fun x hx => h x (by simp [hx]))

theorem lifecycle_events_ok {id : String} {initiating generated : List TimelineStep}
    {ops : List GraphOperation} (hinitiating : ∀ step ∈ initiating, step.index < ops.length)
    (hgenerated : ∀ step ∈ generated, step.index < ops.length) :
    validate_event_ids id ops.length [] 0 (lifecycle_events id initiating generated ops)
      = .ok () := by
  refine event_ids_ok (fun e he => ?_)
  rcases List.mem_append.mp he with he | he
  · obtain ⟨step, hstep, he⟩ := List.mem_flatMap.mp he
    simp only [status_events, List.mem_filterMap] at he
    obtain ⟨node_id, -, he⟩ := he
    split_ifs at he
    obtain rfl := Option.some.inj he
    exact hinitiating step hstep
  · obtain ⟨step, hstep, he⟩ := List.mem_flatMap.mp he
    simp only [guidance_events, List.mem_flatMap, List.mem_map] at he
    obtain ⟨u, -, field, -, rfl⟩ := he
    exact hgenerated step hstep

/-! ### Replay of a prepared Patch -/

/-- What preparation established when it returned the combined Patch `q`. -/
structure Prepared (s : GraphState) (first : Patch) (patches : List Patch) (head : GraphHeadRef)
    (c : Closure) (q : Patch) : Prop where
  leads : patches.head? = some first
  revisions : ∀ p ∈ patches, p.revision = first.revision
  untraced : ∀ p ∈ patches, p.transition = none
  compatible : ∀ p ∈ patches, compatible_envelopes first p = true
  head_revision : head.revision = s.revision
  acting : source_actions patches ≠ []
  closure : ∃ n, transition_closure s first patches n = .ok c
  combined : combined_patch first patches (expanded_operations patches c)
    (transition_trace head patches c) = .ok q

theorem prepare_validated_ok {pre_head : Option GraphHeadRef} {n : Nat}
    {prepared : PreparedTransition} (h : prepare_validated s patches pre_head n = .ok prepared) :
    ∃ first head c, Prepared s first patches head c prepared.patch := by
  cases patches with
  | nil => cases h
  | cons first rest =>
    simp only [prepare_validated, except_bind_ok] at h
    obtain ⟨_, hrequest, c, hclosure, combined, hcombined, candidate, -, h⟩ := h
    split_ifs at h
    obtain rfl := except_pure_ok.mp h
    unfold require_transition_request at hrequest
    split_ifs at hrequest with hrevision htrace hcompatible hhead hacting
    refine ⟨first, _, c, rfl, ?_, ?_, ?_, not_not.mp hhead, hacting, ⟨n, hclosure⟩, hcombined⟩
    · simp only [not_or, List.any_eq_true, not_exists, not_and, decide_eq_true_eq,
        not_not] at hrevision
      exact hrevision.2
    · simp only [List.any_eq_true, not_exists, not_and, Option.not_isSome_iff_eq_none] at htrace
      exact htrace
    · exact List.all_eq_true.mp hcompatible

/-- The graph of a preparation is the one its Patch reaches. -/
theorem prepared_graph {pre_head : Option GraphHeadRef} {n : Nat} {prepared : PreparedTransition}
    (h : prepare_validated s patches pre_head n = .ok prepared) :
    apply_valid_patch s prepared.patch = .ok prepared.graph := by
  cases patches with
  | nil => cases h
  | cons first rest =>
    simp only [prepare_validated, except_bind_ok] at h
    obtain ⟨_, -, c, -, combined, -, candidate, hcandidate, h⟩ := h
    split_ifs at h
    obtain rfl := except_pure_ok.mp h
    exact hcandidate

namespace Prepared

variable {head : GraphHeadRef}

theorem patch_eq (h : Prepared s first patches head c q) :
    ∃ cursors, merged_cursors patches = .ok cursors ∧
      q.ops = patches.flatMap Patch.ops ++ c.generated_operations.map Prod.fst ∧
      q.transition = some (transition_trace head patches c) ∧ q.writer = first.writer := by
  obtain ⟨cursors, hcursors, rfl⟩ := combined_patch_ok h.combined
  refine ⟨cursors, hcursors, ?_, rfl, rfl⟩
  simp only [expanded_operations, source_actions_ops]

/-- Replay acts with the same operations under Patches of the same writer. -/
theorem same_actions (h : Prepared s first patches head c q) :
    List.Forall₂ SameAction (source_actions patches)
      (source_actions ((initiating_patches patches).map (rebuilt q))) := by
  obtain ⟨_, -, -, -, hwriter⟩ := h.patch_eq
  have hsame (ps : List Patch) (hps : ∀ p ∈ ps, p ∈ patches) :
      List.Forall₂ SameAction (source_actions ps)
        (source_actions ((initiating_patches ps).map (rebuilt q))) := by
    induction ps with
    | nil => exact .nil
    | cons p ps ih =>
      have hrest := ih (fun x hx => hps x (by simp [hx]))
      by_cases hp : p.ops = []
      · simpa [source_actions, initiating_patches, hp] using hrest
      · have hmem := hps p (by simp)
        have hw : p.writer = (rebuilt q p).writer :=
          ((compatible_writer (h.revisions p hmem).symm (h.compatible p hmem)).symm.trans
            hwriter.symm).trans rfl
        have hops : List.Forall₂ SameAction (p.ops.map (fun op => (p, op)))
            (p.ops.map (fun op => (rebuilt q p, op))) := by
          rw [List.forall₂_map_left_iff, List.forall₂_map_right_iff]
          exact List.forall₂_same.mpr (fun op _ => ⟨h.untraced p hmem, rfl, hw, rfl⟩)
        have hinit : initiating_patches (p :: ps) = p :: initiating_patches ps := by
          simp [initiating_patches, hp]
        rw [hinit]
        exact List.rel_append hops hrest
  exact hsame patches (fun _ hp => hp)

/-- Replay goes through the graphs of preparation, up to the refresh time. -/
theorem replay_timelines_ok (h : Prepared s first patches head c q) :
    ∃ initiating generated, replay_timelines s q (transition_trace head patches c)
        (source_actions ((initiating_patches patches).map (rebuilt q)))
          = .ok (initiating, generated) ∧
      List.Forall₂ SameStep c.initiating initiating ∧
      List.Forall₂ SameStep c.generated generated := by
  obtain ⟨cursors, -, hops, -, hwriter⟩ := h.patch_eq
  obtain ⟨n, hclosure⟩ := h.closure
  obtain ⟨t, htimeline, hguidance, hgenerated⟩ := transition_closure_ok hclosure
  have hactions := h.same_actions
  obtain ⟨initiating, t', htimeline', hsteps, ht⟩ := apply_timeline_same hactions htimeline
  obtain ⟨generated, final, hgenerated', hsteps', -⟩ :=
    generated_same (Closure.generated_updates hguidance) hwriter.symm ht hgenerated
  have hgens : (transition_trace head patches c).generated_actions.filterMap
      (fun item => q.ops[item.operation_index]?) = c.generated_operations.map Prod.fst := by
    rw [hops, ← source_actions_ops]
    exact generated_operations_at _ _
  rw [hactions.length_eq] at hgenerated'
  refine ⟨initiating, generated, ?_, hsteps, hsteps'⟩
  simp only [replay_timelines, except_bind_ok, Prod.exists]
  refine ⟨initiating, t', htimeline', generated, final, ?_, rfl⟩
  rw [hgens]
  exact hgenerated'

/-- The transition id that replay computes. -/
def replayed_id (head : GraphHeadRef) (patches : List Patch) (c : Closure) (q : Patch) : String :=
  transition_id head ((initiating_patches patches).map (rebuilt q)) (initiating_groups patches 0 0)
    (patches.flatMap Patch.ops) TRANSITION_RULESET_TAG
    (transition_trace head patches c).generated_actions

theorem indexes_ok (h : Prepared s first patches head c q) :
    require_trace_indexes q (transition_trace head patches c) = .ok () := by
  obtain ⟨cursors, -, hops, -, -⟩ := h.patch_eq
  refine trace_indexes_ok (n := (patches.flatMap Patch.ops).length)
    (m := c.generated_operations.length) ?_ ?_ (by simp [hops])
  · rw [show (transition_trace head patches c).initiating_groups = initiating_groups patches 0 0
      from rfl, source_indexes_eq]
    simp
  · have hindexes := generated_indexes_eq (patches.flatMap Patch.ops).length
      (c.generated_operations.map Prod.snd)
    rw [List.length_map, ← source_actions_ops] at hindexes
    rw [← source_actions_ops]
    exact hindexes

/-- The operations preparation generated pass their rule. -/
theorem generated_ok (h : Prepared s first patches head c q) :
    (transition_trace head patches c).generated_actions.forM (validate_generated_action q.ops)
      = .ok () := by
  obtain ⟨cursors, -, hops, -, -⟩ := h.patch_eq
  obtain ⟨n, hclosure⟩ := h.closure
  obtain ⟨t, htimeline, hguidance, -⟩ := transition_closure_ok hclosure
  obtain ⟨final, hfrom, -⟩ := apply_timeline_ok.mp htimeline
  have hvalid := guidance_actions_valid (s := t) (fun step hstep => by
    simpa using timeline_indexes hfrom step hstep)
  rw [hops, ← source_actions_ops]
  refine generated_actions_ok (fun x hx => ?_)
  rw [hguidance] at hx
  simpa using hvalid x hx

/-- The events preparation recorded carry canonical ids. -/
theorem events_ok (h : Prepared s first patches head c q) :
    validate_event_ids (transition_trace head patches c).transition_id q.ops.length [] 0
      (transition_trace head patches c).lifecycle_events = .ok () := by
  obtain ⟨cursors, -, hops, -, -⟩ := h.patch_eq
  obtain ⟨n, hclosure⟩ := h.closure
  obtain ⟨t, htimeline, -, hgenerated⟩ := transition_closure_ok hclosure
  obtain ⟨final, hfrom, -⟩ := apply_timeline_ok.mp htimeline
  have hexpanded : q.ops = expanded_operations patches c := by
    rw [hops, expanded_operations, source_actions_ops]
  have hlength : q.ops.length
      = (source_actions patches).length + c.generated_operations.length := by
    rw [hops, List.length_append, List.length_map, source_actions_length]
  rw [hexpanded]
  refine lifecycle_events_ok (fun step hstep => ?_) (fun step hstep => ?_)
  · have := timeline_indexes hfrom step hstep
    rw [← hexpanded]
    omega
  · have := generated_indexes hgenerated step hstep
    rw [List.length_map] at this
    rw [← hexpanded]
    omega

/-- Replay of a prepared Patch turns on the transition id alone. -/
theorem replay_ok_iff (h : Prepared s first patches head c q) {sources : List Patch} :
    validate_transition_trace s q = .ok sources ↔
      replayed_id head patches c q = (transition_trace head patches c).transition_id ∧
        sources = (initiating_patches patches).map (rebuilt q) := by
  obtain ⟨cursors, -, hops, htrace, -⟩ := h.patch_eq
  obtain ⟨initiating, generated, htimelines, hinitiating, hgenerated⟩ := h.replay_timelines_ok
  -- the trace of the combined patch gives its sources and its actions back
  have hexpanded : q.ops = expanded_operations patches c := by
    rw [hops, expanded_operations, source_actions_ops]
  have hsources : (transition_trace head patches c).initiating_groups.map (source_patch_for_group q)
      = (initiating_patches patches).map (rebuilt q) := source_patches_eq 0 [] _ hops
  have hactions : (source_actions ((initiating_patches patches).map (rebuilt q))).map Prod.snd
      = patches.flatMap Patch.ops := by
    rw [source_actions_ops, List.flatMap_map]
    exact initiating_patches_ops patches
  have hacting : source_actions ((initiating_patches patches).map (rebuilt q)) ≠ [] := by
    intro hnil
    have hlength := h.same_actions.length_eq
    rw [hnil] at hlength
    exact h.acting (List.length_eq_zero_iff.mp hlength)
  have hevents : (transition_trace head patches c).lifecycle_events
      = lifecycle_events (transition_trace head patches c).transition_id initiating generated
        q.ops := by
    rw [← lifecycle_events_same hinitiating hgenerated, hexpanded]
    rfl
  have hdigest : operations_sha256 q.ops
      = (transition_trace head patches c).expanded_ops_sha256 := by
    rw [hexpanded]
    rfl
  have hhead : (transition_trace head patches c).pre_head.revision = s.revision := h.head_revision
  simp only [validate_transition_trace, htrace, hhead, hdigest, ne_eq, not_true_eq_false, if_false,
    h.indexes_ok, hsources, hactions, hacting, except_bind_ok]
  -- every other check passes, and what is left compares the two transition ids
  have hid : transition_id (transition_trace head patches c).pre_head
      ((initiating_patches patches).map (rebuilt q))
      (transition_trace head patches c).initiating_groups (patches.flatMap Patch.ops)
      (transition_trace head patches c).ruleset_tag
      (transition_trace head patches c).generated_actions = replayed_id head patches c q := rfl
  rw [hid]
  constructor
  · rintro ⟨_, -, h⟩
    split_ifs at h with heq
    obtain ⟨_, -, h⟩ := except_bind_ok.mp h
    obtain ⟨x, hx, h⟩ := except_bind_ok.mp h
    obtain rfl := Except.ok.inj (htimelines.symm.trans hx)
    rw [if_neg (not_not.mpr hevents)] at h
    obtain ⟨_, -, h⟩ := except_bind_ok.mp h
    exact ⟨heq, except_pure_ok.mp h⟩
  · rintro ⟨heq, rfl⟩
    refine ⟨(), trivial, ?_⟩
    rw [if_neg (not_not.mpr heq)]
    refine except_bind_ok.mpr ⟨(), h.generated_ok, ?_⟩
    refine except_bind_ok.mpr ⟨_, htimelines, ?_⟩
    rw [if_neg (not_not.mpr hevents)]
    exact except_bind_ok.mpr ⟨(), h.events_ok, rfl⟩

end Prepared

end ResearchGraph
