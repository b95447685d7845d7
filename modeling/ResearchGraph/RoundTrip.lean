import Mathlib.Data.Int.CharZero
import Mathlib.Data.List.Perm.Basic
import ResearchGraph.Trace

/-! # Round trip of a transition

    Replay recomputes the transition id from envelopes rebuilt out of the
    combined Patch.  They are the envelopes preparation digested exactly when
    the initiating Patches share the fields that the combined Patch merges.
-/

namespace ResearchGraph

open Lib

section

variable {p q first : Patch} {patches : List Patch} {s : GraphState} {c : Closure}
  {head : GraphHeadRef}

/-! ### Merged lists -/

/-- Append what is not there yet. -/
def union_step (result : List String) (v : String) : List String :=
  if v ∈ result then result else result ++ [v]

theorem stable_union_eq (values : List (List String)) :
    stable_union values = values.flatten.foldl union_step [] := rfl

theorem union_nodup {r vs : List String} (hr : r.Nodup) : (vs.foldl union_step r).Nodup := by
  induction vs generalizing r with
  | nil => exact hr
  | cons v vs ih =>
    refine ih ?_
    unfold union_step
    split_ifs with hv
    · exact hr
    · exact List.nodup_append.mpr ⟨hr, by simp, by rintro a ha b hb rfl; simp_all⟩

theorem union_absorbed {r vs : List String} (h : ∀ v ∈ vs, v ∈ r) : vs.foldl union_step r = r := by
  induction vs with
  | nil => rfl
  | cons v vs ih =>
    rw [List.foldl_cons, union_step, if_pos (h v (by simp))]
    exact ih (fun x hx => h x (by simp [hx]))

theorem union_fresh {r vs : List String} (h : (r ++ vs).Nodup) :
    vs.foldl union_step r = r ++ vs := by
  induction vs generalizing r with
  | nil => simp
  | cons v vs ih =>
    have hv : v ∉ r := fun hv => (List.nodup_append.mp h).2.2 v hv v (by simp) rfl
    rw [List.foldl_cons, union_step, if_neg hv, ih (by simpa using h)]
    simp

/-- The merged list is everyone's own list exactly when all have one list
    without repetitions. -/
theorem stable_union_shared {α : Type} {f : α → List String} {xs : List α} :
    (∀ x ∈ xs, stable_union (xs.map f) = f x) ↔
      (∀ x ∈ xs, (f x).Nodup) ∧ ∀ x ∈ xs, ∀ y ∈ xs, f x = f y := by
  constructor
  · intro h
    refine ⟨fun x hx => ?_, fun x hx y hy => (h x hx).symm.trans (h y hy)⟩
    rw [← h x hx, stable_union_eq]
    exact union_nodup List.nodup_nil
  · rintro ⟨hnodup, hsame⟩ x hx
    cases xs with
    | nil => cases hx
    | cons y ys =>
      have hy : y ∈ y :: ys := by simp
      have hfirst : (f y).foldl union_step [] = [] ++ f y :=
        union_fresh (by simpa using hnodup y hy)
      rw [stable_union_eq, List.map_cons, List.flatten_cons, List.foldl_append, hfirst,
        List.nil_append, union_absorbed, hsame y hy x hx]
      intro v hv
      obtain ⟨l, hl, hv⟩ := List.mem_flatten.mp hv
      obtain ⟨z, hz, rfl⟩ := List.mem_map.mp hl
      exact hsame z (by simp [hz]) y hy ▸ hv

/-! ### Merged cursors -/

theorem merge_cursor_mem {d d' : Dict String String} {e : String × String}
    (h : merge_cursor d e = .ok d') (x : String × String) :
    x ∈ d'.items ↔ x = e ∨ x ∈ d.items := by
  have hset (hsame : ∀ v, Dict.get d e.1 = some v → v = e.2) :
      x ∈ (Dict.set d e.1 e.2).items ↔ x = e ∨ x ∈ d.items := by
    rw [Dict.set, Table.mem_put_iff]
    constructor
    · rintro (hx | ⟨hx, -⟩)
      · exact Or.inl hx
      · exact Or.inr hx
    · rintro (hx | hx)
      · exact Or.inl hx
      · by_cases hkey : x.1 = e.1
        · have hget : Dict.get d e.1 = some x.2 := Dict.get_eq_some_iff.mpr (hkey ▸ hx)
          exact Or.inl (Prod.ext hkey (hsame _ hget))
        · exact Or.inr ⟨hx, hkey⟩
  unfold merge_cursor at h
  split at h
  · next hnone =>
    cases h
    exact hset (fun v hv => by rw [hnone] at hv; cases hv)
  · next v hv =>
    split_ifs at h with heq
    cases h
    refine hset (fun w hw => ?_)
    rw [hv] at hw
    exact Option.some.inj hw ▸ not_not.mp heq

theorem merged_cursors_mem {cursors : Dict String String}
    (h : merged_cursors patches = .ok cursors) (x : String × String) :
    x ∈ cursors.items ↔ ∃ p ∈ patches, x ∈ p.processed_cursors.items := by
  have hfold : ∀ (es : List (String × String)) (d d' : Dict String String),
      es.foldlM merge_cursor d = .ok d' → (x ∈ d'.items ↔ x ∈ es ∨ x ∈ d.items) := by
    intro es
    induction es with
    | nil =>
      intro d d' h
      obtain rfl := foldlM_nil_ok.mp h
      simp
    | cons e es ih =>
      intro d d' h
      obtain ⟨d₁, he, hrest⟩ := foldlM_cons_ok.mp h
      rw [ih d₁ d' hrest, merge_cursor_mem he x, List.mem_cons]
      tauto
  rw [hfold _ _ _ h, List.mem_flatMap]
  simp [Table.empty]

/-- The merged cursors are everyone's own exactly when all have the same. -/
theorem merged_cursors_shared {cursors : Dict String String}
    (h : merged_cursors patches = .ok cursors) :
    (∀ p ∈ patches, cursors.items.Perm p.processed_cursors.items) ↔
      ∀ p ∈ patches, ∀ p' ∈ patches,
        p.processed_cursors.items.Perm p'.processed_cursors.items := by
  have hnodup (d : Dict String String) : d.items.Nodup := List.Nodup.of_map _ d.nodup
  constructor
  · exact fun h p hp p' hp' => (h p hp).symm.trans (h p' hp')
  · intro hsame p hp
    rw [List.perm_ext_iff_of_nodup (hnodup _) (hnodup _)]
    intro x
    rw [merged_cursors_mem h]
    constructor
    · rintro ⟨p', hp', hx⟩
      exact (hsame p' hp' p hp).subset hx
    · exact fun hx => ⟨p, hp, hx⟩

/-! ### Documents without collisions -/

theorem str_list_inj {xs ys : List String} :
    (str_list xs).sort_keys = (str_list ys).sort_keys ↔ xs = ys := by
  rw [str_list, str_list, Value.sort_keys_list_inj]
  simp only [List.map_map]
  exact List.map_inj_right (fun a b h => by simpa [Value.sort_keys] using h)

theorem cursors_json_inj {d d' : Dict String String} :
    (cursors_json d).sort_keys = (cursors_json d').sort_keys ↔ d.items.Perm d'.items := by
  have hkeys : (d.items.map (fun e => (e.1, Value.str e.2))).map Prod.fst
      = d.items.map Prod.fst := by
    simp [Function.comp_def]
  rw [cursors_json, cursors_json, Value.sort_keys_dict_inj (by rw [hkeys]; exact d.nodup)]
  simp only [List.map_map, Function.comp_def, Value.sort_keys]
  exact List.map_perm_map_iff (fun a b h => by simpa [Prod.ext_iff] using h)

theorem opt_json_inj {α : Type} {to_json : α → Value} {x y : Option α}
    (hnull : ∀ a, (to_json a).sort_keys ≠ .null)
    (h : ∀ a b, (to_json a).sort_keys = (to_json b).sort_keys → a = b) :
    (opt_json to_json x).sort_keys = (opt_json to_json y).sort_keys ↔ x = y := by
  cases x <;> cases y <;> simp [opt_json, hnull, Ne.symm (hnull _)]
  exact ⟨h _ _, fun h => h ▸ rfl⟩

theorem opt_str_inj {x y : Option String} :
    (opt_str x).sort_keys = (opt_str y).sort_keys ↔ x = y := by
  cases x <;> cases y <;> simp [opt_str]

theorem target_json_inj {x y : GraphTargetRef} :
    x.to_json.sort_keys = y.to_json.sort_keys ↔ x = y := by
  cases x <;> cases y <;> simp only [GraphTargetRef.to_json] <;>
    rw [Value.sort_keys_fields_inj (by simp) (by rfl)] <;> simp

theorem head_json_inj {x y : GraphHeadRef} :
    x.to_json.sort_keys = y.to_json.sort_keys ↔ x = y := by
  rw [GraphHeadRef.to_json, GraphHeadRef.to_json, Value.sort_keys_fields_inj (by simp) (by rfl)]
  cases x
  cases y
  simp [target_json_inj, opt_str_inj]

theorem branch_merge_json_inj {x y : BranchMergeProvenance} :
    x.to_json.sort_keys = y.to_json.sort_keys ↔ x = y := by
  rw [BranchMergeProvenance.to_json, BranchMergeProvenance.to_json,
    Value.sort_keys_fields_inj (by simp) (by rfl)]
  cases x
  cases y
  simp [head_json_inj]

/-! ### Envelopes -/

theorem compatible_provenance (h : compatible_envelopes p q = true) :
    p.provenance_json = q.provenance_json := by
  simp only [compatible_envelopes, decide_eq_true_eq] at h
  simp only [Patch.provenance_json, h]

theorem envelope_keys_nodup (p : Patch) : (([("run_truth_scope", str_list p.run_truth_scope),
    ("repositories_read", str_list p.repositories_read),
    ("processed_cursors", cursors_json p.processed_cursors),
    ("branch_merge", opt_json BranchMergeProvenance.to_json p.branch_merge)]
    ++ p.provenance_json).map Prod.fst).Nodup := by
  cases h : p.project_home_transfer <;> simp [Patch.provenance_json, h]

/-- Envelopes with one provenance are one document exactly when the other
    fields agree. -/
theorem envelope_inj (h : p.provenance_json = q.provenance_json) :
    p.envelope.sort_keys = q.envelope.sort_keys ↔
      p.run_truth_scope = q.run_truth_scope ∧ p.repositories_read = q.repositories_read ∧
        p.processed_cursors.items.Perm q.processed_cursors.items ∧
        p.branch_merge = q.branch_merge := by
  have hnull (b : BranchMergeProvenance) : b.to_json.sort_keys ≠ .null := by
    simp [BranchMergeProvenance.to_json, Value.sort_keys]
  rw [Patch.envelope, Patch.envelope, Value.sort_keys_fields_inj (envelope_keys_nodup p)
    (by simp [h])]
  simp only [List.map_append, h, List.append_left_inj, List.map_cons, List.map_nil, List.cons.injEq,
    Prod.mk.injEq, true_and, and_true, str_list_inj, cursors_json_inj,
    opt_json_inj hnull (fun _ _ => branch_merge_json_inj.mp)]

/-- The initiating Patches all act and share the fields that the combined
    Patch merges: one scope and one list of repositories, without repetitions,
    the same cursors, and one merge provenance. -/
structure SharedEnvelope (patches : List Patch) : Prop where
  acting : ∀ p ∈ patches, p.ops ≠ []
  scope_nodup : ∀ p ∈ patches, p.run_truth_scope.Nodup
  scope : ∀ p ∈ patches, ∀ p' ∈ patches, p.run_truth_scope = p'.run_truth_scope
  read_nodup : ∀ p ∈ patches, p.repositories_read.Nodup
  read : ∀ p ∈ patches, ∀ p' ∈ patches, p.repositories_read = p'.repositories_read
  cursors : ∀ p ∈ patches, ∀ p' ∈ patches,
    p.processed_cursors.items.Perm p'.processed_cursors.items
  branch_merge : ∀ p ∈ patches, ∀ p' ∈ patches, p.branch_merge = p'.branch_merge

variable [Canonical]

/-- The envelope replay rebuilds for a Patch, field by field. -/
theorem rebuilt_envelope_iff (h : Prepared s first patches head c q) {cursors : Dict String String}
    (hcursors : merged_cursors patches = .ok cursors) (hp : p ∈ patches) :
    (rebuilt q p).envelope.sort_keys = p.envelope.sort_keys ↔
      stable_union (patches.map (·.run_truth_scope)) = p.run_truth_scope ∧
        stable_union (patches.map (·.repositories_read)) = p.repositories_read ∧
        cursors.items.Perm p.processed_cursors.items ∧ first.branch_merge = p.branch_merge := by
  obtain ⟨cursors', hcursors', rfl⟩ := combined_patch_ok h.combined
  obtain rfl := Except.ok.inj (hcursors.symm.trans hcursors')
  exact envelope_inj (compatible_provenance (h.compatible p hp))

omit [Canonical] in
theorem all_acting_iff :
    (initiating_patches patches).length = patches.length ↔ ∀ p ∈ patches, p.ops ≠ [] := by
  simp [initiating_patches, List.length_filter_eq_length_iff]

/-- The envelopes replay rebuilds are those preparation digested exactly when
    they are shared. -/
theorem envelopes_rebuilt_iff (h : Prepared s first patches head c q) :
    ((initiating_patches patches).map (rebuilt q)).map (fun p => p.envelope.sort_keys)
        = patches.map (fun p => p.envelope.sort_keys) ↔ SharedEnvelope patches := by
  obtain ⟨cursors, hcursors, -, -, -⟩ := h.patch_eq
  have hfirst : first ∈ patches := List.mem_of_head? h.leads
  have hall (hacting : ∀ p ∈ patches, p.ops ≠ []) : initiating_patches patches = patches := by
    simpa [initiating_patches] using hacting
  constructor
  · intro heq
    have hacting := all_acting_iff.mp (by simpa using congrArg List.length heq)
    rw [hall hacting, List.map_map, List.map_inj_left] at heq
    have hfields (p : Patch) (hp : p ∈ patches) :=
      (rebuilt_envelope_iff h hcursors hp).mp (heq p hp)
    obtain ⟨hscope_nodup, hscope⟩ := stable_union_shared.mp (fun p hp => (hfields p hp).1)
    obtain ⟨hread_nodup, hread⟩ := stable_union_shared.mp (fun p hp => (hfields p hp).2.1)
    exact ⟨hacting, hscope_nodup, hscope, hread_nodup, hread,
      (merged_cursors_shared hcursors).mp (fun p hp => (hfields p hp).2.2.1),
      fun p hp p' hp' => (hfields p hp).2.2.2.symm.trans (hfields p' hp').2.2.2⟩
  · intro hshared
    rw [hall hshared.acting, List.map_map, List.map_inj_left]
    intro p hp
    refine (rebuilt_envelope_iff h hcursors hp).mpr ⟨?_, ?_, ?_, hshared.branch_merge _ hfirst _ hp⟩
    · exact stable_union_shared.mpr ⟨hshared.scope_nodup, hshared.scope⟩ p hp
    · exact stable_union_shared.mpr ⟨hshared.read_nodup, hshared.read⟩ p hp
    · exact (merged_cursors_shared hcursors).mpr hshared.cursors p hp

/-! ### The round trip -/

/-- One transition id stands for one list of envelopes. -/
theorem transition_id_inj (hsha : Function.Injective Canonical.sha256) {a b : List Patch}
    {groups : List TransitionInitiatingGroup} {ops : List GraphOperation} {tag : String}
    {refs : List TransitionGeneratedAction} :
    transition_id head a groups ops tag refs = transition_id head b groups ops tag refs ↔
      a.map (fun p => p.envelope.sort_keys) = b.map (fun p => p.envelope.sort_keys) := by
  simp only [transition_id, sha256]
  rw [hsha.eq_iff, Value.sort_keys_fields_inj (by simp) (by rfl)]
  simp only [List.map_cons, List.map_nil, List.cons.injEq, Prod.mk.injEq, true_and, and_true,
    Value.sort_keys_list_inj, List.map_map, Function.comp_def]

/-- The transition id replay computes is the recorded one exactly when the
    initiating Patches share their envelopes. -/
theorem replayed_id_iff (hsha : Function.Injective Canonical.sha256)
    (h : Prepared s first patches head c q) :
    Prepared.replayed_id head patches c q = (transition_trace head patches c).transition_id ↔
      SharedEnvelope patches := by
  have htrace : (transition_trace head patches c).transition_id = transition_id head patches
      (initiating_groups patches 0 0) (patches.flatMap Patch.ops) TRANSITION_RULESET_TAG
      (transition_trace head patches c).generated_actions := by
    rw [← source_actions_ops]
    rfl
  rw [htrace, Prepared.replayed_id, transition_id_inj hsha, envelopes_rebuilt_iff h]

/-- Replay accepts what preparation returned, with the operations of the
    initiating Patches, exactly when these share their envelopes. -/
theorem transition_round_trip_iff (hsha : Function.Injective Canonical.sha256)
    {pre_head : Option GraphHeadRef} {n : Nat} {prepared : PreparedTransition}
    (h : prepare_validated s patches pre_head n = .ok prepared) :
    (∃ sources, validate_transition_trace s prepared.patch = .ok sources ∧
      sources.map Patch.ops = (initiating_patches patches).map Patch.ops) ↔
        SharedEnvelope patches := by
  obtain ⟨first, head, c, hprepared⟩ := prepare_validated_ok h
  constructor
  · rintro ⟨sources, hsources, -⟩
    exact (replayed_id_iff hsha hprepared).mp (hprepared.replay_ok_iff.mp hsources).1
  · intro hshared
    have hid := (replayed_id_iff hsha hprepared).mpr hshared
    refine ⟨_, hprepared.replay_ok_iff.mpr ⟨hid, rfl⟩, ?_⟩
    rw [List.map_map]
    rfl

end

open scoped Reference

/-- A question asked by an agent that declares its one repository once. -/
def declared_once_patch : Patch :=
  Reference.agent_patch 1 [.create_nodes [Reference.question "rq/a"]]

/-- The prepared question replays. -/
theorem declared_once_round_trip : ∃ prepared,
    prepare_validated {} [declared_once_patch] = .ok prepared ∧
      ∃ sources, validate_transition_trace {} prepared.patch = .ok sources ∧
        sources.map Patch.ops = (initiating_patches [declared_once_patch]).map Patch.ops := by
  obtain ⟨prepared, h⟩ : ∃ prepared, prepare_validated {} [declared_once_patch] = .ok prepared :=
    Reference.exists_ok (by decide)
  refine ⟨prepared, h, (transition_round_trip_iff Value.digest_injective h).mpr ?_⟩
  constructor <;> simp [declared_once_patch, Reference.agent_patch]

/-- The same question by an agent whose declared scope names the repository twice. -/
def declared_twice_patch : Patch :=
  { declared_once_patch with run_truth_scope := ["main", "main"] }

/-- The Patch is admitted and prepared, and replay refuses what was prepared. -/
theorem declared_twice_refused : Admitted {} declared_twice_patch ["main"] {} ∧
    ∃ prepared, prepare_validated {} [declared_twice_patch] = .ok prepared ∧
      ¬ ∃ sources, validate_transition_trace {} prepared.patch = .ok sources := by
  obtain ⟨prepared, h⟩ : ∃ prepared, prepare_validated {} [declared_twice_patch] = .ok prepared :=
    Reference.exists_ok (by decide)
  obtain ⟨first, head, c, hprepared⟩ := prepare_validated_ok h
  refine ⟨by decide, prepared, h, ?_⟩
  rintro ⟨sources, hsources⟩
  have hshared := (replayed_id_iff Value.digest_injective hprepared).mp
    (hprepared.replay_ok_iff.mp hsources).1
  exact absurd (hshared.scope_nodup declared_twice_patch (by simp)) (by decide)

end ResearchGraph
