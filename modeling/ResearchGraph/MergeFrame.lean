import Mathlib.Data.List.Infix
import ResearchGraph.MergeDocuments
import ResearchGraph.Lib.Fold
import ResearchGraph.Reference

/-! # A merge touches only what the branch changed

    The write paths of two documents are the positions of their first
    disagreements.  A step whose write paths are covered by the branch delta
    therefore leaves every position alone that is not at or below a difference
    between base and branch, and so does any run of such steps: agreement at a
    position is transitive, whatever shapes the object passes through.
-/

namespace ResearchGraph

open Lib Value

/-! ### Write paths are first disagreements -/

/-- The mark of a position whose value is an object on one side and absent on the other. -/
def mark : Option Value → Option Value → List String
  | none, some v | some v, none => if v.is_dict then [WHOLE] else []
  | _, _ => []

theorem one_sided_path_eq (path : SemanticWritePath) (v : Value) :
    one_sided_path path v = path ++ (if v.is_dict then [WHOLE] else []) := by
  unfold one_sided_path
  split <;> simp

theorem entry_write_paths_eq (path : SemanticWritePath) (xs ys : List (String × Value)) :
    entry_write_paths path xs ys = xs.flatMap (fun e => match ys.lookup e.1 with
      | none => [one_sided_path (path ++ [e.1]) e.2]
      | some y => document_write_paths (path ++ [e.1]) e.2 y) := by
  induction xs with
  | nil => simp [entry_write_paths]
  | cons e xs ih =>
    obtain ⟨k, x⟩ := e
    rw [entry_write_paths]
    exact congrArg₂ (· ++ ·) rfl ih

/-- The write path of a disagreement at `d`. -/
def written (path : SemanticWritePath) (a b : Option Value) (d : List String) :
    SemanticWritePath :=
  path ++ d ++ mark (under a d) (under b d)

theorem written_cons (path : SemanticWritePath) (a b : Option Value) (k : String)
    (d : List String) : written path a b (k :: d) =
      written (path ++ [k]) (a.bind (fun v => v.entry k)) (b.bind (fun v => v.entry k)) d := by
  simp [written, under_cons]

/-- The paths under the keys of two objects, given those of their common keys. -/
theorem mem_object_write_paths {xs ys : List (String × Value)} {path p : SemanticWritePath}
    (hx : (dict xs).Wf) (hy : (dict ys).Wf)
    (ih : ∀ k x y, xs.lookup k = some x → ys.lookup k = some y →
      (p ∈ document_write_paths (path ++ [k]) x y ↔
        ∃ d, First (some x) (some y) d ∧ p = written (path ++ [k]) (some x) (some y) d)) :
    p ∈ entry_write_paths path xs ys ++ added_write_paths path xs ys ↔
      ∃ d, First (some (dict xs)) (some (dict ys)) d ∧
        p = written path (some (dict xs)) (some (dict ys)) d := by
  -- a first difference of two objects is one of a key, the key put before it
  have hsplit : (∃ d, First (some (dict xs)) (some (dict ys)) d ∧
      p = written path (some (dict xs)) (some (dict ys)) d) ↔
      ∃ k d, First (xs.lookup k) (ys.lookup k) d ∧
        p = written (path ++ [k]) (xs.lookup k) (ys.lookup k) d := by
    constructor
    · rintro ⟨d, hd, hp⟩
      obtain ⟨k, e, rfl, he⟩ := first_dict.mp hd
      exact ⟨k, e, he, by simpa [written_cons] using hp⟩
    · rintro ⟨k, d, hd, hp⟩
      exact ⟨k :: d, first_dict.mpr ⟨k, d, rfl, hd⟩, by simpa [written_cons] using hp⟩
  rw [hsplit, List.mem_append, entry_write_paths_eq, List.mem_flatMap, added_write_paths]
  constructor
  · rintro (⟨⟨k, x⟩, hmem, hp⟩ | hp)
    · have hk : xs.lookup k = some x := mem_lookup_some hx.nodup hmem
      cases hyk : ys.lookup k with
      | none =>
        simp only [hyk, List.mem_singleton, one_sided_path_eq] at hp
        exact ⟨k, [], by simpa [hk, hyk] using first_one_sided.1.mpr rfl,
          by simpa [written, hk, hyk, mark] using hp⟩
      | some y =>
        simp only [hyk] at hp
        obtain ⟨d, hd, hp⟩ := (ih k x y hk hyk).mp hp
        exact ⟨k, d, by rwa [hk, hyk], by rwa [hk, hyk]⟩
    · -- the keys that only the second object has
      obtain ⟨⟨k, y⟩, hmem, rfl⟩ := List.mem_map.mp hp
      obtain ⟨hmem, hnone⟩ := List.mem_filter.mp hmem
      have hk : ys.lookup k = some y := mem_lookup_some hy.nodup hmem
      have hnone : xs.lookup k = none := by simpa using hnone
      exact ⟨k, [], by simpa [hk, hnone] using first_one_sided.2.mpr rfl,
        by simp [written, hk, hnone, mark, one_sided_path_eq]⟩
  · rintro ⟨k, d, hd, hp⟩
    cases hxk : xs.lookup k with
    | none =>
      cases hyk : ys.lookup k with
      | none =>
        rw [hxk, hyk] at hd
        exact absurd hd (not_first_absent d)
      | some y =>
        rw [hxk, hyk, first_one_sided.2] at hd
        refine Or.inr (List.mem_map.mpr ⟨(k, y), ?_, ?_⟩)
        · exact List.mem_filter.mpr ⟨lookup_some_mem hyk, by simp [hxk]⟩
        · simp [hp, hd, written, hxk, hyk, mark, one_sided_path_eq]
    | some x =>
      refine Or.inl ⟨(k, x), lookup_some_mem hxk, ?_⟩
      cases hyk : ys.lookup k with
      | none =>
        rw [hxk, hyk, first_one_sided.1] at hd
        simp [hp, hd, written, hxk, hyk, mark, one_sided_path_eq]
      | some y =>
        rw [hxk, hyk] at hd hp
        simpa [hyk] using (ih k x y hxk hyk).mpr ⟨d, hd, hp⟩

theorem mem_document_write_paths {x y : Value} {path p : SemanticWritePath} (hx : x.Wf)
    (hy : y.Wf) : p ∈ document_write_paths path x y ↔
      ∃ d, First (some x) (some y) d ∧ p = written path (some x) (some y) d := by
  induction x using dict_induction generalizing y path with
  | leaf x hleaf =>
    have hnot : ¬ (x.is_dict = true ∧ y.is_dict = true) := by simp [hleaf]
    have hpaths : document_write_paths path x y = if x.loosely_equal y then [] else [path] := by
      cases x <;> first | rfl | simp [is_dict] at hleaf
    rw [hpaths]
    by_cases hxy : x.loosely_equal y = true
    · simp [hxy, first_leaf hnot]
    · simp [hxy, first_leaf hnot, written, mark]
  | object xs ih =>
    by_cases hdict : y.is_dict = true
    · obtain ⟨ys, rfl⟩ := is_dict_iff.mp hdict
      rw [document_write_paths]
      by_cases hxy : (dict xs).loosely_equal (dict ys) = true
      · rw [if_pos hxy]
        simp [not_first_of_loosely_equal hx hy hxy]
      · rw [if_neg hxy]
        refine mem_object_write_paths hx hy (fun k x y hk hk' => ?_)
        exact ih k x (lookup_some_mem hk) (hx.entry hk) (hy.entry hk')
    · have hnot : ¬ ((dict xs).is_dict = true ∧ y.is_dict = true) := fun h => hdict h.2
      have hpaths : document_write_paths path (.dict xs) y =
          if (dict xs).loosely_equal y then [] else [path] := by
        cases y <;> first | rfl | simp [is_dict] at hdict
      rw [hpaths]
      by_cases hxy : (dict xs).loosely_equal y = true
      · simp [hxy, first_leaf hnot]
      · simp [hxy, first_leaf hnot, written, mark]

/-! ### Write paths of graphs -/

section
variable [OperationDump] {s t base branch : GraphState}

/-- The write path of a disagreement in one part of two graphs; a scope that
    changed is marked although it is no object. -/
def part_written (s t : GraphState) (f : SemanticField) (d : List String) : SemanticWritePath :=
  if f = .project_truth_scope then [f.name, WHOLE]
  else written [f.name] (some (s.part f)) (some (t.part f)) d

theorem mem_collection_write_paths {f : SemanticField} (hf : f ∈ COLLECTIONS)
    {p : SemanticWritePath} :
    p ∈ collection_write_paths f.name (entries (s.part f)) (entries (t.part f)) ↔
      ∃ d, First (some (s.part f)) (some (t.part f)) d ∧ p = part_written s t f d := by
  have hs := collection_is_dict s hf
  have ht := collection_is_dict t hf
  have hscope : f ≠ .project_truth_scope := by
    rintro rfl
    revert hf
    decide
  have hwhole {u : GraphState} {e : String × Value} (hu : (u.part f).Wf)
      (hd : u.part f = .dict (entries (u.part f))) (hmem : e ∈ entries (u.part f)) :
      one_sided_path [f.name, e.1] e.2 = [f.name, e.1, WHOLE] := by
    have hentry : (u.part f).entry e.1 = some e.2 := by
      rw [hd] at hu ⊢
      exact mem_lookup_some hu.nodup hmem
    rw [one_sided_path_eq, object_is_dict hf hentry]
    rfl
  have hpaths : collection_write_paths f.name (entries (s.part f)) (entries (t.part f)) =
      entry_write_paths [f.name] (entries (s.part f)) (entries (t.part f))
        ++ added_write_paths [f.name] (entries (s.part f)) (entries (t.part f)) := by
    rw [collection_write_paths, entry_write_paths_eq, added_write_paths]
    congr 1
    · refine List.flatMap_congr (fun e he => ?_)
      cases (entries (t.part f)).lookup e.1 with
      | none => simpa using (hwhole (part_wf s f) hs he).symm
      | some y => rfl
    · refine List.map_congr_left (fun e he => ?_)
      exact (hwhole (part_wf t f) ht (List.mem_of_mem_filter he)).symm
  have hs' := part_wf s f
  have ht' := part_wf t f
  rw [hs] at hs'
  rw [ht] at ht'
  rw [hpaths, mem_object_write_paths hs' ht'
    (fun k x y hk hk' => mem_document_write_paths (hs'.entry hk) (ht'.entry hk')), ← hs, ← ht]
  simp [part_written, hscope]

theorem mem_global_write_paths {f : SemanticField} (hf : f ∈ GLOBALS) {p : SemanticWritePath} :
    p ∈ global_write_paths f.name (s.part f) (t.part f) ↔
      ∃ d, First (some (s.part f)) (some (t.part f)) d ∧ p = part_written s t f d := by
  simp only [GLOBALS, List.mem_cons, List.not_mem_nil, or_false] at hf
  rcases hf with rfl | hf
  · -- the scope is a list
    have hnot : ¬ ((s.part .project_truth_scope).is_dict = true ∧
        (t.part .project_truth_scope).is_dict = true) := by simp [GraphState.part]
    have hdict : ((s.part .project_truth_scope).is_dict &&
        (t.part .project_truth_scope).is_dict) = false := by simp [GraphState.part]
    simp only [global_write_paths, hdict, first_leaf hnot, part_written]
    by_cases h : (s.part .project_truth_scope).loosely_equal (t.part .project_truth_scope) = true
    · simp [h]
    · simp [h]
  · have hscope : f ≠ .project_truth_scope := by rintro rfl; simp at hf
    have hdict : ((s.part f).is_dict && (t.part f).is_dict) = true := by
      rcases hf with rfl | rfl <;> rfl
    rw [global_write_paths, if_pos hdict, mem_document_write_paths (part_wf s f) (part_wf t f)]
    simp [part_written, hscope]

/-- The write paths of two graphs are their first disagreements, part by part. -/
theorem mem_graph_write_paths {p : SemanticWritePath} : p ∈ graph_semantic_write_paths s t ↔
    ∃ f d, First (some (s.part f)) (some (t.part f)) d ∧ p = part_written s t f d := by
  rw [graph_semantic_write_paths, List.mem_append, List.mem_flatMap, List.mem_flatMap]
  constructor
  · rintro (⟨f, hf, hp⟩ | ⟨f, hf, hp⟩)
    · exact ⟨f, (mem_collection_write_paths hf).mp hp⟩
    · exact ⟨f, (mem_global_write_paths hf).mp hp⟩
  · rintro ⟨f, h⟩
    rcases collection_or_global f with hf | hf
    · exact Or.inl ⟨f, hf, (mem_collection_write_paths hf).mpr h⟩
    · exact Or.inr ⟨f, hf, (mem_global_write_paths hf).mpr h⟩

omit [OperationDump] in
theorem mark_cases (a b : Option Value) : mark a b = [] ∨ mark a b = [WHOLE] := by
  unfold mark
  split
  all_goals first | (split <;> simp) | simp

/-- A write path is its position with or without the mark. -/
theorem part_written_cases {f : SemanticField} {d : List String}
    (h : First (some (s.part f)) (some (t.part f)) d) :
    (part_written s t f d = f.name :: d ∧
        mark (under (some (s.part f)) d) (under (some (t.part f)) d) = []) ∨
      part_written s t f d = f.name :: d ++ [WHOLE] := by
  by_cases hf : f = .project_truth_scope
  · subst hf
    have hnot : ¬ ((s.part .project_truth_scope).is_dict = true ∧
        (t.part .project_truth_scope).is_dict = true) := by simp [GraphState.part]
    obtain ⟨rfl, -⟩ := (first_leaf hnot).mp h
    exact Or.inr rfl
  · rcases mark_cases (under (some (s.part f)) d) (under (some (t.part f)) d) with hm | hm
    · refine Or.inl ⟨?_, hm⟩
      rw [part_written, if_neg hf, written, hm]
      simp
    · refine Or.inr ?_
      rw [part_written, if_neg hf, written, hm]
      simp

/-! ### The mark as a key -/

/-- The mark is a key of a document only as the id of an object or as the name of
    a custom field. -/
theorem whole_key_cases {f : SemanticField} {e : List String}
    (h : ((s.part f).at_path (e ++ [WHOLE])).isSome) :
    (e = [] ∧ f ∈ COLLECTIONS) ∨ (f = .nodes ∧ ∃ id, e = [id, "extension_fields"]) := by
  have hbare {v : Value} {e : List String} (hv : Regular v) : v.at_path (e ++ [WHOLE]) = none := by
    by_contra hne
    have hplain := hv.keys (e ++ [WHOLE]) (Option.isSome_iff_ne_none.mpr hne) WHOLE (by simp)
    exact hplain.2.2 rfl
  rcases collection_or_global f with hf | hf
  · cases e with
    | nil => exact Or.inl ⟨rfl, hf⟩
    | cons id e =>
      rw [List.cons_append, at_path_cons] at h
      obtain ⟨w, hw⟩ := Option.isSome_iff_exists.mp h
      obtain ⟨v, hv, hw⟩ := Option.bind_eq_some_iff.mp hw
      by_cases hnodes : f = .nodes
      · subst hnodes
        obtain ⟨n, -, rfl⟩ := Option.map_eq_some_iff.mp ((part_entry s id).1 ▸ hv)
        refine Or.inr ⟨rfl, id, ?_⟩
        cases e with
        | nil =>
          -- the mark is no declared field
          have hmem : WHOLE ∈ document_fields n.type := by
            rw [← Node.document_keys]
            have hlookup : n.document_entries.lookup WHOLE = some w := by
              simpa [Node.document_eq] using hw
            exact List.mem_map.mpr ⟨(WHOLE, w), lookup_some_mem hlookup, rfl⟩
          exact absurd rfl (document_fields_plain n.type WHOLE hmem).2.2
        | cons k e =>
          rw [Node.document_eq, List.cons_append, at_path_cons, entry_dict] at hw
          obtain ⟨x, hx, hw⟩ := Option.bind_eq_some_iff.mp hw
          rcases Node.document_entry (lookup_some_mem hx) with ⟨rfl, rfl⟩ | ⟨-, hflat⟩
          · cases e with
            | nil => rfl
            | cons j e =>
              rw [List.cons_append, at_path_cons, extension_object_lookup] at hw
              obtain ⟨y, hy, hw⟩ := Option.bind_eq_some_iff.mp hw
              obtain ⟨value, -, rfl⟩ := Option.map_eq_some_iff.mp hy
              rw [show e ++ [WHOLE] = (e ++ [WHOLE]).head (by simp) :: (e ++ [WHOLE]).tail by simp,
                at_path_cons, entry_of_not_dict (is_dict_extension_value value)] at hw
              cases hw
          · rw [show e ++ [WHOLE] = (e ++ [WHOLE]).head (by simp) :: (e ++ [WHOLE]).tail by simp,
              at_path_cons, entry_of_not_dict hflat] at hw
            cases hw
      · rw [hbare (object_regular hf hnodes hv)] at hw
        cases hw
  · rw [hbare (global_regular s hf)] at h
    cases h

/-- No node that both graphs have differs in a custom field named like the mark. -/
def ReservedNameKept (base branch : GraphState) : Prop :=
  ∀ id n m, base.nodes.get? id = some n → branch.nodes.get? id = some m →
    same_or_absent ((Dict.get n.extension_fields WHOLE).map ExtensionValue.to_value)
      ((Dict.get m.extension_fields WHOLE).map ExtensionValue.to_value)

/-- A position at which two graphs disagree is there in one of them. -/
theorem present_of_first {f : SemanticField} {d : List String}
    (h : First (some (s.part f)) (some (t.part f)) d) :
    ((s.part f).at_path d).isSome ∨ ((t.part f).at_path d).isSome := by
  by_contra hne
  simp only [not_or, Option.not_isSome_iff_eq_none] at hne
  apply h.not_agree
  simp only [under_some, hne.1, hne.2]
  exact agree_refl none

/-- Under kept reserved names the mark is no key of a disagreement, except as an id. -/
theorem first_whole_key (hkept : ReservedNameKept base branch) {f : SemanticField}
    {e : List String} (h : First (some (base.part f)) (some (branch.part f)) (e ++ [WHOLE])) :
    e = [] ∧ f ∈ COLLECTIONS := by
  have hcases : (e = [] ∧ f ∈ COLLECTIONS) ∨ (f = .nodes ∧ ∃ id, e = [id, "extension_fields"]) := by
    rcases present_of_first h with hpresent | hpresent
    · exact whole_key_cases hpresent
    · exact whole_key_cases hpresent
  refine hcases.resolve_right ?_
  rintro ⟨rfl, id, rfl⟩
  -- both graphs have the node, or the disagreement is at the node itself
  obtain ⟨-, hfirst⟩ := h
  simp only [Option.bind_some, (part_entry base id).1, (part_entry branch id).1] at hfirst
  cases hn : base.nodes.get? id with
  | none =>
    cases hm : branch.nodes.get? id with
    | none =>
      rw [hn, hm] at hfirst
      exact not_first_absent _ hfirst
    | some m =>
      rw [hn, hm] at hfirst
      simp [first_one_sided] at hfirst
  | some n =>
    cases hm : branch.nodes.get? id with
    | none =>
      rw [hn, hm] at hfirst
      simp [first_one_sided] at hfirst
    | some m =>
      rw [hn, hm] at hfirst
      obtain ⟨-, -, hfirst⟩ := hfirst
      change ¬ Agree ((extension_object n.extension_fields).entry WHOLE)
        ((extension_object m.extension_fields).entry WHOLE) at hfirst
      rw [extension_object_lookup, extension_object_lookup] at hfirst
      exact hfirst (agree_of_same (hkept id n m hn hm))

/-! ### One covered step -/

/-- Under kept reserved names a write path that ends in the mark is marked. -/
theorem getLast_of_unmarked (hkept : ReservedNameKept base branch) {g : SemanticField}
    {e : List String} (he : First (some (base.part g)) (some (branch.part g)) e)
    (hrule : part_written base branch g e = g.name :: e)
    (hmark : mark (under (some (base.part g)) e) (under (some (branch.part g)) e) = []) :
    (part_written base branch g e).getLast? ≠ some WHOLE := by
  intro hlast
  rw [hrule] at hlast
  rcases List.eq_nil_or_concat e with rfl | ⟨e', k, rfl⟩
  · revert hlast
    cases g <;> decide
  · simp only [List.concat_eq_append] at *
    obtain rfl : k = WHOLE := by simpa [List.getLast?_cons] using hlast
    obtain ⟨rfl, hg⟩ := first_whole_key hkept he
    -- an object whose id is the mark: absent on one side it is marked, else it is two objects
    obtain ⟨-, hfirst⟩ := he
    simp only [Option.bind_some] at hfirst
    cases hb : (base.part g).entry WHOLE with
    | none =>
      cases hr : (branch.part g).entry WHOLE with
      | none =>
        rw [hb, hr] at hfirst
        exact not_first_absent _ hfirst
      | some y => simp [hb, hr, mark, object_is_dict hg hr] at hmark
    | some x =>
      cases hr : (branch.part g).entry WHOLE with
      | none => simp [hb, hr, mark, object_is_dict hg hb] at hmark
      | some y =>
        obtain ⟨xs, rfl⟩ := is_dict_iff.mp (object_is_dict hg hb)
        obtain ⟨ys, rfl⟩ := is_dict_iff.mp (object_is_dict hg hr)
        rw [hb, hr] at hfirst
        exact hfirst (agree_dict xs ys)

/-- The position of a write path. -/
theorem unmarked_part_written (hkept : ReservedNameKept base branch) {g : SemanticField}
    {e : List String} (he : First (some (base.part g)) (some (branch.part g)) e) :
    unmarked (part_written base branch g e) = g.name :: e := by
  unfold unmarked
  rcases part_written_cases he with ⟨hrule, hmark⟩ | hrule
  · rw [if_neg (getLast_of_unmarked hkept he hrule hmark), hrule]
  · rw [hrule, if_pos List.getLast?_concat, List.dropLast_concat]

/-- A rule that covers a write path names a position at or above it. -/
theorem position_of_covers (hkept : ReservedNameKept base branch) {f g : SemanticField}
    {d e : List String} (hd : First (some (s.part f)) (some (t.part f)) d)
    (he : First (some (base.part g)) (some (branch.part g)) e)
    (hcovers : semantic_path_covers (part_written base branch g e) (part_written s t f d) = true) :
    g = f ∧ e <+: d := by
  have hname {p : List String} (hp : g.name :: e <+: f.name :: p) : g = f ∧ e <+: p := by
    obtain ⟨hname, hpre⟩ := List.cons_prefix_cons.mp hp
    exact ⟨field_name_injective hname, hpre⟩
  unfold semantic_path_covers at hcovers
  rcases part_written_cases he with ⟨hrule, hmark⟩ | hrule
  · have hlast := getLast_of_unmarked hkept he hrule hmark
    rw [if_neg hlast] at hcovers
    have hcovers : part_written base branch g e = part_written s t f d := by simpa using hcovers
    rcases part_written_cases hd with ⟨hpath, -⟩ | hpath
    · exact hname (by rw [← hrule, ← hpath, hcovers])
    · exact absurd (by rw [hcovers, hpath]; exact List.getLast?_concat) hlast
  · rw [hrule, if_pos List.getLast?_concat, List.dropLast_concat] at hcovers
    have hpre : g.name :: e <+: part_written s t f d := by
      rw [← eq_of_beq hcovers]
      exact List.take_prefix _ _
    rcases part_written_cases hd with ⟨hpath, -⟩ | hpath
    · exact hname (hpath ▸ hpre)
    · rw [hpath, List.cons_append] at hpre
      obtain ⟨rfl, hpre⟩ := hname hpre
      refine ⟨rfl, ?_⟩
      rcases List.prefix_concat_iff.mp (by simpa using hpre) with heq | hpre
      · -- the rule would name a key below an object that is absent on one side
        rw [heq] at he
        obtain ⟨rfl, hg⟩ := first_whole_key hkept he
        rw [collection_is_dict s hg, collection_is_dict t hg] at hd
        exact absurd (agree_dict _ _) hd
      · exact hpre

/-- A step whose write paths the branch delta covers changes nothing at a position
    at and above which base and branch agree. -/
theorem agree_of_covered (hkept : ReservedNameKept base branch)
    (hcovered : ∀ p ∈ graph_semantic_write_paths s t,
      ∃ r ∈ graph_semantic_write_paths base branch, semantic_path_covers r p = true)
    {f : SemanticField} {q : List String}
    (hagree : ∀ d, d <+: q → Agree ((base.part f).at_path d) ((branch.part f).at_path d)) :
    Agree ((s.part f).at_path q) ((t.part f).at_path q) := by
  by_contra hne
  obtain ⟨d, hdq, hd⟩ := @exists_first (some (s.part f)) (some (t.part f)) q hne
  obtain ⟨r, hr, hcovers⟩ := hcovered _ (mem_graph_write_paths.mpr ⟨f, d, hd, rfl⟩)
  obtain ⟨g, e, he, rfl⟩ := mem_graph_write_paths.mp hr
  obtain ⟨rfl, hed⟩ := position_of_covers hkept hd he hcovers
  exact he.not_agree (hagree e (hed.trans hdq))

/-! ### The initiating operations -/

/-- One initiating operation applied to the timeline. -/
def apply_action (prepared : Patch) (timeline : GraphState) (operation_index : Nat) :
    Applied GraphState :=
  match prepared.ops[operation_index]? with
  | none => .error (.key_error "list index out of range")
  | some operation => apply_valid_patch timeline (one_action prepared operation)

/-- The state the initiating operations reach from main. -/
def initiating_state (prepared : Patch) (trace : TransitionTrace) (current_main : GraphState) :
    Applied GraphState :=
  (initiating_indexes trace).foldlM (apply_action prepared) current_main

theorem conform_action_ok {allowed : List SemanticWritePath} {prepared : Patch} {index : Nat}
    (h : conform_action allowed prepared s index = .ok t) :
    apply_action prepared s index = .ok t ∧
      ∀ p ∈ graph_semantic_write_paths s t, ∃ r ∈ allowed, semantic_path_covers r p = true := by
  unfold conform_action at h
  obtain ⟨operation, hop, h⟩ := except_bind_ok.mp h
  have hindex : prepared.ops[index]? = some operation := by
    unfold initiating_operation at hop
    cases hget : prepared.ops[index]? <;> simp_all
  dsimp only at h
  split at h
  · cases h
  · obtain ⟨next_state, hnext, h⟩ := except_bind_ok.mp h
    have happly : apply_valid_patch s (one_action prepared operation) = .ok next_state := by
      unfold replay_action at hnext
      cases hresult : apply_valid_patch s (one_action prepared operation) <;> simp_all
    split at h
    · cases h
    · next hunexpected =>
      obtain rfl := except_pure_ok.mp h
      refine ⟨by simp only [apply_action, hindex, happly], ?_⟩
      intro p hp
      have hcovered := List.filter_eq_nil_iff.mp (not_not.mp hunexpected) p hp
      simpa using hcovered

/-- What every covered step keeps, the whole timeline keeps. -/
theorem conform_timeline_ok {prepared : Patch} {trace : TransitionTrace}
    (hkept : ReservedNameKept base branch)
    (h : conform_timeline (graph_semantic_write_paths base branch) prepared trace s = .ok t) :
    initiating_state prepared trace s = .ok t ∧
      ∀ f q, (∀ d, d <+: q → Agree ((base.part f).at_path d) ((branch.part f).at_path d)) →
        Agree ((s.part f).at_path q) ((t.part f).at_path q) := by
  unfold conform_timeline at h
  unfold initiating_state
  generalize initiating_indexes trace = indexes at h ⊢
  induction indexes generalizing s with
  | nil =>
    obtain rfl := foldlM_nil_ok.mp h
    exact ⟨foldlM_nil_ok.mpr rfl, fun f q _ => agree_refl _⟩
  | cons index indexes ih =>
    obtain ⟨u, hstep, hrest⟩ := foldlM_cons_ok.mp h
    obtain ⟨happly, hcovered⟩ := conform_action_ok hstep
    obtain ⟨hreach, hframe⟩ := ih hrest
    refine ⟨foldlM_cons_ok.mpr ⟨u, happly, hreach⟩, ?_⟩
    intro f q hagree
    exact agree_trans (agree_of_covered hkept hcovered hagree) (hframe f q hagree)

theorem conformance_ok {context : BranchMergeGraphs} {current_main graph : GraphState}
    {prepared : Patch} :
    validate_branch_merge_candidate_conformance context current_main prepared graph = .ok () ↔
      ∃ trace, prepared.transition = some trace ∧
        (∃ t, conform_timeline context.allowed prepared trace current_main = .ok t) ∧
        missing_paths context graph = [] := by
  unfold validate_branch_merge_candidate_conformance
  cases prepared.transition with
  | none => simp
  | some trace =>
    simp only [except_bind_ok, Option.some.injEq, exists_eq_left']
    constructor
    · rintro ⟨t, ht, h⟩
      refine ⟨⟨t, ht⟩, ?_⟩
      by_contra hne
      rw [if_pos hne] at h
      cases h
    · rintro ⟨⟨t, ht⟩, h⟩
      exact ⟨t, ht, by rw [if_neg (not_not.mpr h)]; rfl⟩

/-- An accepted merge leaves main alone wherever the branch left its base alone. -/
theorem merge_keeps_main_elsewhere {context : BranchMergeGraphs} {current_main graph : GraphState}
    {prepared : Patch} (hkept : ReservedNameKept context.base_graph context.branch_graph)
    (h : validate_branch_merge_candidate_conformance context current_main prepared graph = .ok ()) :
    ∃ trace t, prepared.transition = some trace ∧
      initiating_state prepared trace current_main = .ok t ∧
      ∀ q, (∀ d, d <+: q → Agree ((graph_semantic_document context.base_graph).at_path d)
          ((graph_semantic_document context.branch_graph).at_path d)) →
        Agree ((graph_semantic_document current_main).at_path q)
          ((graph_semantic_document t).at_path q) := by
  obtain ⟨trace, htrace, ⟨t, ht⟩, -⟩ := conformance_ok.mp h
  obtain ⟨hreach, hframe⟩ := conform_timeline_ok hkept ht
  refine ⟨trace, t, htrace, hreach, ?_⟩
  intro q hagree
  cases q with
  | nil => exact agree_dict _ _
  | cons k q =>
    by_cases hk : ∃ f : SemanticField, f.name = k
    · obtain ⟨f, rfl⟩ := hk
      rw [document_part, document_part]
      refine hframe f q (fun d hd => ?_)
      have := hagree (f.name :: d) (List.cons_prefix_cons.mpr ⟨rfl, hd⟩)
      rwa [document_part, document_part] at this
    · have hk : ∀ f : SemanticField, f.name ≠ k := fun f hf => hk ⟨f, hf⟩
      rw [document_elsewhere current_main hk, document_elsewhere t hk]
      exact agree_refl none

end

/-! ### A custom field named like the mark -/

namespace Reference

/-- The sample graphs hold no Proposals, so no operation is ever dumped. -/
scoped instance noOperations : OperationDump where
  dump _ := .null

/-- A graph of one question with two custom fields. -/
def two_fields (name : String) (value : Rat) (other : String) : GraphState where
  nodes := Table.ofList [{ (question "n").node with
    extension_fields := Table.ofList [(name, .number value), ("other", .text other)] }]

/-- The branch changes the first field, main the other one. -/
def two_fields_graphs (name : String) : BranchMergeGraphs where
  base_graph := two_fields name 1 "a"
  branch_graph := two_fields name 2 "a"
  main_graph := two_fields name 1 "b"

def initiating_trace (indexes : List Nat) : TransitionTrace where
  transition_id := "t"
  pre_head := { revision := 0 }
  ruleset_tag := ""
  initiating_groups := [{ group_id := "g", operation_indexes := indexes, summary := "" }]
  expanded_ops_sha256 := ""

/-- A merge that writes both fields. -/
def two_fields_merge (name other : String) : Patch :=
  { agent_patch 1 [.update_nodes [{
      id := "n"
      changes := Table.ofList [("extension_fields",
        .dict [(name, .int 2), ("other", .str other)])] }]] with
    transition := some (initiating_trace [0]) }

/-- The graph the merge reaches. -/
def two_fields_merged (name other : String) : GraphState :=
  result (initiating_state (two_fields_merge name other) (initiating_trace [0])
    (two_fields name 1 "b"))

end Reference

open Reference in
/-- A branch that changes a field named like the mark may overwrite what main
    wrote into another field. -/
theorem reserved_name_loses_main :
    validate_branch_merge_candidate_conformance (two_fields_graphs "$") (two_fields "$" 1 "b")
        (two_fields_merge "$" "a") (two_fields_merged "$" "a") = .ok () ∧
      initiating_state (two_fields_merge "$" "a") (initiating_trace [0]) (two_fields "$" 1 "b") =
        .ok (two_fields_merged "$" "a") ∧
      ∃ q, (∀ d, d <+: q → Agree ((graph_semantic_document (two_fields "$" 1 "a")).at_path d)
          ((graph_semantic_document (two_fields "$" 2 "a")).at_path d)) ∧
        ¬ Agree ((graph_semantic_document (two_fields "$" 1 "b")).at_path q)
          ((graph_semantic_document (two_fields_merged "$" "a")).at_path q) := by
  refine ⟨by decide +kernel, eq_ok_result (by decide),
    ["nodes", "n", "extension_fields", "other"], ?_, ?_⟩
  · simp only [← List.mem_inits]
    decide
  · decide

open Reference in
/-- Under another name the merge keeps what main wrote. -/
theorem plain_name_keeps_main :
    ∃ trace t, (two_fields_merge "field" "b").transition = some trace ∧
      initiating_state (two_fields_merge "field" "b") trace (two_fields "field" 1 "b") = .ok t ∧
      ∀ q, (∀ d, d <+: q → Agree ((graph_semantic_document (two_fields "field" 1 "a")).at_path d)
          ((graph_semantic_document (two_fields "field" 2 "a")).at_path d)) →
        Agree ((graph_semantic_document (two_fields "field" 1 "b")).at_path q)
          ((graph_semantic_document t).at_path q) := by
  refine @merge_keeps_main_elsewhere _ (two_fields_graphs "field") (two_fields "field" 1 "b")
    (two_fields_merged "field" "b") (two_fields_merge "field" "b") ?_ (by decide +kernel)
  intro id n m hn hm
  obtain rfl := List.mem_singleton.mp (Table.get?_eq_some_iff.mp hn).1
  obtain rfl := List.mem_singleton.mp (Table.get?_eq_some_iff.mp hm).1
  decide

end ResearchGraph
