import ResearchGraph.MergeConflicts

/-! # A branch whose changes are on main already (`rcp/runs/branch_merge.py`)

    A merge may end without a Patch for two reasons that the source tests
    separately: the semantic delta of the branch is subsumed by main, or main
    has the branch's value at every mandatory path.  Here the two are compared:
    the first asks of each change whether it is present, the second of each
    first disagreement of base and branch whether main has the branch's side.
-/

namespace ResearchGraph

open Lib Value

/-! ### The semantic delta -/

/-- One object of a collection that the branch created, updated or removed. -/
inductive SemanticChange (α : Type)
  | created (identity : String) (after : α)
  | updated (identity : String) (before after : α)
  | removed (identity : String) (before : α)

structure GlobalSemanticDelta where
  field : SemanticField
  before : Value
  after : Value

structure GraphSemanticDelta where
  base_head : GraphHeadRef
  branch_head : GraphHeadRef
  nodes : List (SemanticChange Node)
  edges : List (SemanticChange Edge)
  proposals : List (SemanticChange Proposal)
  ambiguities : List (SemanticChange Ambiguity)
  glossary : List (SemanticChange GlossaryTerm)
  globals : List GlobalSemanticDelta

/-- The change of one object; nothing is recorded when its documents are equal. -/
def object_delta {α : Type} (document : α → Value) (identity : String) (old new : Option α) :
    List (SemanticChange α) :=
  match old, new with
  | none, none => []
  | none, some new => [.created identity new]
  | some old, none => [.removed identity old]
  | some old, some new =>
    if (document old).loosely_equal (document new) then [] else [.updated identity old new]

/-- `_typed_collection_delta` -/
def typed_collection_delta {α : Type} [Keyed α String] (document : α → Value)
    (before after : Table α) : List (SemanticChange α) :=
  (sorted_set (before.keys ++ after.keys)).flatMap (fun identity =>
    object_delta document identity (before.get? identity) (after.get? identity))

/-- `==` on coverage records: times compare by instant. -/
def CoverageBoundary.same (a b : CoverageBoundary) : Bool :=
  same_time a.earliest_timestamp b.earliest_timestamp
    && { a with earliest_timestamp := b.earliest_timestamp } == b

/-- One record of the whole graph; a recorded change has to change the document. -/
def global_delta (field : SemanticField) (changed : Bool) (before after : Value) :
    Applied (List GlobalSemanticDelta) :=
  if ¬ changed then .ok []
  else if before.loosely_equal after then
    .error (.value_error "a global semantic delta must change its field")
  else .ok [⟨field, before, after⟩]

section
variable [OperationDump]

def build_semantic_delta (base branch : GraphState) (base_head branch_head : GraphHeadRef) :
    Applied GraphSemanticDelta :=
  if base.revision ≠ base_head.revision ∨ branch.revision ≠ branch_head.revision then
    .error (.value_error "semantic delta snapshots do not match their exact heads")
  else if base_head.target ≠ .main ∨ branch_head.target = .main then
    .error (.value_error "semantic delta requires a main base and branch head")
  else do
    let scope ← global_delta .project_truth_scope
      (base.project_truth_scope ≠ branch.project_truth_scope)
      (base.part .project_truth_scope) (branch.part .project_truth_scope)
    let ontology ← global_delta .ontology (base.ontology ≠ branch.ontology)
      (base.part .ontology) (branch.part .ontology)
    let coverage ← global_delta .coverage (!base.coverage.same branch.coverage)
      (base.part .coverage) (branch.part .coverage)
    return {
      base_head, branch_head
      nodes := typed_collection_delta Node.document base.nodes branch.nodes
      edges := typed_collection_delta Edge.document base.edges branch.edges
      proposals := typed_collection_delta Proposal.document base.proposals branch.proposals
      ambiguities := typed_collection_delta Ambiguity.document base.ambiguities branch.ambiguities
      glossary := typed_collection_delta GlossaryTerm.document base.glossary branch.glossary
      globals := scope ++ ontology ++ coverage }

end

/-! ### Subsumption -/

mutual
/-- `_branch_changes_are_present`; nothing stands for the missing marker. -/
def branch_changes_are_present : Value → Value → Option Value → Bool
  | .dict xs, .dict ys, main =>
    (Value.dict xs).loosely_equal (.dict ys) || decide (same_or_absent (some (.dict ys)) main)
      || (match main with
        | some (.dict zs) => entries_present xs ys zs
          && (ys.filter (fun e => (xs.lookup e.1).isNone)).all
            (fun e => decide (same_or_absent (some e.2) (zs.lookup e.1)))
        | _ => false)
  | base, branch, main =>
    base.loosely_equal branch || decide (same_or_absent (some branch) main)

/-- The changes under the keys of `base` are present. -/
def entries_present :
    List (String × Value) → List (String × Value) → List (String × Value) → Bool
  | [], _, _ => true
  | (k, x) :: xs, ys, zs =>
    (match ys.lookup k with
      | none => (zs.lookup k).isNone
      | some y => branch_changes_are_present x y (zs.lookup k)) && entries_present xs ys zs
end

/-- `_semantic_change_is_subsumed` -/
def semantic_change_is_subsumed {α : Type} [Keyed α String] (document : α → Value)
    (values : Table α) : SemanticChange α → Bool
  | .created identity after =>
    decide (same_or_absent ((values.get? identity).map document) (some (document after)))
  | .removed identity _ => (values.get? identity).isNone
  | .updated identity before after =>
    branch_changes_are_present (document before) (document after)
      ((values.get? identity).map document)

def semantic_delta_is_subsumed [OperationDump] (delta : GraphSemanticDelta) (main : GraphState) :
    Bool :=
  delta.nodes.all (semantic_change_is_subsumed Node.document main.nodes)
    && delta.edges.all (semantic_change_is_subsumed Edge.document main.edges)
    && delta.proposals.all (semantic_change_is_subsumed Proposal.document main.proposals)
    && delta.ambiguities.all (semantic_change_is_subsumed Ambiguity.document main.ambiguities)
    && delta.glossary.all (semantic_change_is_subsumed GlossaryTerm.document main.glossary)
    && delta.globals.all (fun change =>
      branch_changes_are_present change.before change.after (some (main.part change.field)))

/-- `branch_merge_can_resolve_without_patch` -/
def branch_merge_can_resolve_without_patch [OperationDump] (context : BranchMergeGraphs) : Bool :=
  context.mandatory.all (fun path => decide (same_or_absent
    (semantic_path_value (graph_semantic_document context.branch_graph) path)
    (semantic_path_value (graph_semantic_document context.main_graph) path)))

/-! ### Present changes, position by position -/

theorem entries_present_iff {xs ys zs : List (String × Value)} :
    entries_present xs ys zs = true ↔ ∀ e ∈ xs, (match ys.lookup e.1 with
      | none => (zs.lookup e.1).isNone
      | some y => branch_changes_are_present e.2 y (zs.lookup e.1)) = true := by
  induction xs with
  | nil => simp [entries_present]
  | cons e xs ih =>
    obtain ⟨k, x⟩ := e
    rw [entries_present, Bool.and_eq_true, ih, List.forall_mem_cons]

/-- The changes of two objects that are not on main as a whole are there key by key. -/
structure PresentByKey (xs ys : List (String × Value)) (main : Option Value)
    (zs : List (String × Value)) : Prop where
  object : main = some (.dict zs)
  kept : ∀ k x y, xs.lookup k = some x → ys.lookup k = some y →
    branch_changes_are_present x y (zs.lookup k) = true
  removed : ∀ k x, xs.lookup k = some x → ys.lookup k = none → zs.lookup k = none
  added : ∀ k y, xs.lookup k = none → ys.lookup k = some y →
    same_or_absent (some y) (zs.lookup k)

theorem present_dict {xs ys : List (String × Value)} {main : Option Value} (hx : (dict xs).Wf)
    (hy : (dict ys).Wf) : branch_changes_are_present (.dict xs) (.dict ys) main = true ↔
      (dict xs).loosely_equal (dict ys) = true ∨ same_or_absent (some (dict ys)) main ∨
        ∃ zs, PresentByKey xs ys main zs := by
  have hentries (zs : List (String × Value)) : (entries_present xs ys zs
        && (ys.filter (fun e => (xs.lookup e.1).isNone)).all
          (fun e => decide (same_or_absent (some e.2) (zs.lookup e.1)))) = true ↔
      PresentByKey xs ys (some (.dict zs)) zs := by
    rw [Bool.and_eq_true, entries_present_iff, List.all_eq_true]
    constructor
    · rintro ⟨hbase, hnew⟩
      refine ⟨rfl, fun k x y hkx hky => ?_, fun k x hkx hky => ?_, fun k y hkx hky => ?_⟩
      · simpa [hky] using hbase (k, x) (lookup_some_mem hkx)
      · simpa [hky] using hbase (k, x) (lookup_some_mem hkx)
      · have hmem : (k, y) ∈ ys.filter (fun e => (xs.lookup e.1).isNone) :=
          List.mem_filter.mpr ⟨lookup_some_mem hky, by simp [hkx]⟩
        simpa using hnew (k, y) hmem
    · rintro ⟨-, hkept, hremoved, hadded⟩
      refine ⟨fun e he => ?_, fun e he => ?_⟩
      · have hkx := mem_lookup_some hx.nodup (show (e.1, e.2) ∈ xs from he)
        cases hky : ys.lookup e.1 with
        | none => simp [hremoved _ _ hkx hky]
        | some y => exact hkept _ _ _ hkx hky
      · obtain ⟨he, hnone⟩ := List.mem_filter.mp he
        have hky := mem_lookup_some hy.nodup (show (e.1, e.2) ∈ ys from he)
        simpa using hadded _ _ (by simpa using hnone) hky
  by_cases hobject : ∃ zs, main = some (.dict zs)
  · obtain ⟨zs, rfl⟩ := hobject
    rw [branch_changes_are_present, Bool.or_eq_true, Bool.or_eq_true, decide_eq_true_eq, or_assoc,
      hentries zs]
    refine or_congr_right (or_congr_right ⟨fun h => ⟨zs, h⟩, ?_⟩)
    rintro ⟨us, h⟩
    obtain ⟨⟩ := h.object
    exact h
  · rw [branch_changes_are_present, Bool.or_eq_true, Bool.or_eq_true, decide_eq_true_eq, or_assoc]
    · refine or_congr_right (or_congr_right ⟨fun h => absurd h (by decide), ?_⟩)
      rintro ⟨zs, h⟩
      exact absurd ⟨zs, h.object⟩ hobject
    · exact fun zs hz => hobject ⟨zs, hz⟩

/-- Values that are not both objects change as a whole. -/
theorem present_leaf {x y : Value} {main : Option Value}
    (h : ¬ (x.is_dict = true ∧ y.is_dict = true)) : branch_changes_are_present x y main = true ↔
      x.loosely_equal y = true ∨ same_or_absent (some y) main := by
  have hleaf : branch_changes_are_present x y main =
      (x.loosely_equal y || decide (same_or_absent (some y) main)) := by
    cases x <;> cases y <;> first | rfl | exact absurd ⟨rfl, rfl⟩ h
  rw [hleaf, Bool.or_eq_true, decide_eq_true_eq]

theorem present_of_equal {x y : Value} (main : Option Value) (h : x.loosely_equal y = true) :
    branch_changes_are_present x y main = true := by
  by_cases hdict : x.is_dict = true ∧ y.is_dict = true
  · obtain ⟨xs, rfl⟩ := is_dict_iff.mp hdict.1
    obtain ⟨ys, rfl⟩ := is_dict_iff.mp hdict.2
    by_cases hobject : ∃ zs, main = some (.dict zs)
    · obtain ⟨zs, rfl⟩ := hobject
      rw [branch_changes_are_present, h]
      rfl
    · rw [branch_changes_are_present, h]
      · rfl
      · exact fun zs hzs => hobject ⟨zs, hzs⟩
  · exact (present_leaf hdict).mpr (Or.inl h)

/-- Main has the branch's side of every first disagreement. -/
def Carries (a b m : Option Value) : Prop :=
  ∀ d, First a b d → same_or_absent (under b d) (under m d)

theorem Carries.entry {xs ys : List (String × Value)} {m : Option Value} (k : String)
    (h : Carries (some (.dict xs)) (some (.dict ys)) m) :
    Carries (xs.lookup k) (ys.lookup k) (m.bind (fun v => v.entry k)) := by
  intro d hd
  have hk := h (k :: d) (first_dict.mpr ⟨k, d, rfl, hd⟩)
  rwa [under_cons, under_cons] at hk

theorem carries_of_present {x y : Value} {m : Option Value} (hx : x.Wf) (hy : y.Wf)
    (hm : ∀ z, m = some z → z.Wf) (h : branch_changes_are_present x y m = true) :
    Carries (some x) (some y) m := by
  have hsame {y : Value} {m : Option Value} (hy : y.Wf) (hm : ∀ z, m = some z → z.Wf)
      (h : same_or_absent (some y) m) (d : List String) :
      same_or_absent (under (some y) d) (under m d) := by
    cases m with
    | none => exact absurd h id
    | some z => exact at_path_of_loosely_equal hy (hm z rfl) h d
  induction x using dict_induction generalizing y m with
  | leaf x hleaf =>
    have hnot : ¬ (x.is_dict = true ∧ y.is_dict = true) := by simp [hleaf]
    intro d hd
    rcases (present_leaf hnot).mp h with hxy | hym
    · exact absurd hd (not_first_of_loosely_equal hx hy hxy d)
    · exact hsame hy hm hym d
  | object xs ih =>
    intro d hd
    by_cases hdict : y.is_dict = true
    · obtain ⟨ys, rfl⟩ := is_dict_iff.mp hdict
      rcases (present_dict hx hy).mp h with hxy | hym | ⟨zs, hkeys⟩
      · exact absurd hd (not_first_of_loosely_equal hx hy hxy d)
      · exact hsame hy hm hym d
      · obtain rfl := hkeys.object
        obtain ⟨k, e, rfl, he⟩ := first_dict.mp hd
        rw [under_cons, under_cons]
        simp only [Option.bind_some, entry_dict]
        -- the disagreement is under one key: added, removed or below a common one
        cases hkx : xs.lookup k with
        | none =>
          cases hky : ys.lookup k with
          | none =>
            rw [hkx, hky] at he
            exact absurd he (not_first_absent e)
          | some w =>
            rw [hkx, hky, first_one_sided.2] at he
            subst he
            simpa using hkeys.added k w hkx hky
        | some v =>
          cases hky : ys.lookup k with
          | none =>
            rw [hkx, hky, first_one_sided.1] at he
            subst he
            simp [hkeys.removed k v hkx hky, same_or_absent]
          | some w =>
            rw [hkx, hky] at he
            refine ih k v (lookup_some_mem hkx) (hx.entry hkx) (hy.entry hky) ?_
              (hkeys.kept k v w hkx hky) e he
            intro z hz
            exact (hm _ rfl).entry hz
    · have hnot : ¬ ((dict xs).is_dict = true ∧ y.is_dict = true) := fun hb => hdict hb.2
      rcases (present_leaf hnot).mp h with hxy | hym
      · exact absurd hd (not_first_of_loosely_equal hx hy hxy d)
      · exact hsame hy hm hym d

theorem MainShaped.entry {xs ys zs : List (String × Value)} {k : String} {x y : Value}
    {d : List String} (hkx : xs.lookup k = some x) (hky : ys.lookup k = some y)
    (h : MainShaped (.dict xs) (.dict ys) (some (.dict zs)) (k :: d)) :
    MainShaped x y (zs.lookup k) d := by
  intro e hed hne hnot
  have hshape := h (k :: e) (List.cons_prefix_cons.mpr ⟨rfl, hed⟩) (by simpa using hne) ?_
  · simpa [hkx, hky] using hshape
  · intro us
    rw [under_cons]
    exact hnot us

/-- Main that is shaped like base and branch has a change when it has its positions. -/
theorem present_of_carries {x y : Value} {m : Option Value} (hx : x.Wf) (hy : y.Wf)
    (hshape : ∀ d, First (some x) (some y) d → MainShaped x y m d)
    (h : Carries (some x) (some y) m) : branch_changes_are_present x y m = true := by
  induction x using dict_induction generalizing y m with
  | leaf x hleaf =>
    have hnot : ¬ (x.is_dict = true ∧ y.is_dict = true) := by simp [hleaf]
    rw [present_leaf hnot]
    by_cases hxy : x.loosely_equal y = true
    · exact Or.inl hxy
    · right
      have hroot := h [] ((first_leaf hnot).mpr ⟨rfl, by simpa using hxy⟩)
      simpa using hroot
  | object xs ih =>
    by_cases hdict : y.is_dict = true
    · obtain ⟨ys, rfl⟩ := is_dict_iff.mp hdict
      rw [present_dict hx hy]
      by_cases hxy : (dict xs).loosely_equal (dict ys) = true
      · exact Or.inl hxy
      · refine Or.inr (Or.inr ?_)
        obtain ⟨d, hd⟩ := first_of_not_equal hx hy (by simpa using hxy)
        obtain ⟨k, e, rfl, he⟩ := first_dict.mp hd
        -- main is an object here, or it would lack a position that the branch has
        have hobject : ∃ zs, m = some (.dict zs) := by
          by_contra hnot
          have hpresent := (hshape _ hd) [] List.nil_prefix (by simp)
            (fun zs hz => hnot ⟨zs, by simpa using hz⟩)
          have hcarried := h _ hd
          have hnone : under m (k :: e) = none := by
            rw [under_cons]
            cases m with
            | none => rfl
            | some z =>
              have hz : z.is_dict = false := by
                by_contra hz
                obtain ⟨zs, rfl⟩ := is_dict_iff.mp (by simpa using hz)
                exact hnot ⟨zs, rfl⟩
              simp [entry_of_not_dict hz]
          obtain ⟨w, hw⟩ := Option.isSome_iff_exists.mp hpresent.2
          rw [hnone, under_some, hw] at hcarried
          exact hcarried
        obtain ⟨zs, rfl⟩ := hobject
        refine ⟨zs, rfl, fun k x y hkx hky => ?_, fun k x hkx hky => ?_, fun k y hkx hky => ?_⟩
        · refine ih k x (lookup_some_mem hkx) (hx.entry hkx) (hy.entry hky) (fun d hd => ?_) ?_
          · exact (hshape (k :: d)
              (first_dict.mpr ⟨k, d, rfl, by rw [hkx, hky]; exact hd⟩)).entry hkx hky
          · have hentry := h.entry k
            rwa [hkx, hky] at hentry
        · have hentry := h.entry k [] (by rw [hkx, hky]; exact first_one_sided.1.mpr rfl)
          rw [hky] at hentry
          cases hz : zs.lookup k with
          | none => rfl
          | some z => simp [hz, same_or_absent] at hentry
        · have hentry := h.entry k [] (by rw [hkx, hky]; exact first_one_sided.2.mpr rfl)
          simpa [hky] using hentry
    · have hnot : ¬ ((dict xs).is_dict = true ∧ y.is_dict = true) := fun hb => hdict hb.2
      rw [present_leaf hnot]
      by_cases hxy : (dict xs).loosely_equal y = true
      · exact Or.inl hxy
      · right
        have hroot := h [] ((first_leaf hnot).mpr ⟨rfl, by simpa using hxy⟩)
        simpa using hroot

/-! ### Present changes are no conflicts -/

theorem not_conflict_of_present {x y z : Value} (hx : x.Wf) (hy : y.Wf)
    (h : branch_changes_are_present x y (some z) = true) (ks : List String) :
    ¬ ConflictAt x y z ks := by
  induction ks generalizing x y z with
  | nil =>
    rintro ⟨htwo, hnot⟩
    obtain ⟨hxy, -, hyz⟩ := two_agree_iff.mp htwo
    by_cases hdict : x.is_dict = true ∧ y.is_dict = true
    · obtain ⟨xs, rfl⟩ := is_dict_iff.mp hdict.1
      obtain ⟨ys, rfl⟩ := is_dict_iff.mp hdict.2
      rcases (present_dict hx hy).mp h with hsame | hsame | ⟨zs, hkeys⟩
      · simp [hxy] at hsame
      · simp [same_or_absent, hyz] at hsame
      · obtain rfl := Option.some.inj hkeys.object
        exact hnot ⟨rfl, rfl, rfl⟩
    · rcases (present_leaf hdict).mp h with hsame | hsame
      · simp [hxy] at hsame
      · simp [same_or_absent, hyz] at hsame
  | cons k ks ih =>
    rintro ⟨htwo, ⟨hxd, hyd, -⟩, hbelow⟩
    obtain ⟨hxy, -, hyz⟩ := two_agree_iff.mp htwo
    obtain ⟨xs, rfl⟩ := is_dict_iff.mp hxd
    obtain ⟨ys, rfl⟩ := is_dict_iff.mp hyd
    rcases (present_dict hx hy).mp h with hsame | hsame | ⟨zs, hkeys⟩
    · simp [hxy] at hsame
    · simp [same_or_absent, hyz] at hsame
    · obtain rfl := Option.some.inj hkeys.object
      -- under the key the branch's side is base's or main's, or the change is further down
      have hapart {a b c : Value} (hac : a.loosely_equal b = true ∨ b.loosely_equal c = true) :
          ¬ ConflictAt a b c ks := by
        intro hat
        have htwo : two_agree a b c = false := by cases ks <;> exact hat.1
        obtain ⟨hab, -, hbc⟩ := two_agree_iff.mp htwo
        rcases hac with hac | hac
        · simp [hab] at hac
        · simp [hbc] at hac
      have hfield (d : List (String × Value)) : field (.dict d) k = (d.lookup k).getD .null := rfl
      rw [hfield, hfield, hfield] at hbelow
      revert hbelow
      cases hkx : xs.lookup k with
      | none =>
        cases hky : ys.lookup k with
        | none => exact hapart (Or.inl (loosely_equal_refl _))
        | some w =>
          have hadded := hkeys.added k w hkx hky
          cases hkz : zs.lookup k with
          | none => simp [hkz, same_or_absent] at hadded
          | some u =>
            rw [hkz] at hadded
            exact hapart (Or.inr hadded)
      | some v =>
        cases hky : ys.lookup k with
        | none =>
          rw [hkeys.removed k v hkx hky]
          exact hapart (Or.inr (loosely_equal_refl _))
        | some w =>
          have hkept := hkeys.kept k v w hkx hky
          cases hkz : zs.lookup k with
          | some u =>
            rw [hkz] at hkept
            exact ih (hx.entry hkx) (hy.entry hky) hkept
          | none =>
            rw [hkz] at hkept
            refine hapart (Or.inl ?_)
            by_cases hdict : v.is_dict = true ∧ w.is_dict = true
            · obtain ⟨vs, rfl⟩ := is_dict_iff.mp hdict.1
              obtain ⟨ws, rfl⟩ := is_dict_iff.mp hdict.2
              rcases (present_dict (hx.entry hkx) (hy.entry hky)).mp hkept with
                hsame | hsame | ⟨us, hus⟩
              · exact hsame
              · exact absurd hsame id
              · exact absurd hus.object (by simp)
            · exact ((present_leaf hdict).mp hkept).resolve_right id

theorem no_conflicts_of_present {text : String} {x y z : Value} (hx : x.Wf) (hy : y.Wf)
    (h : branch_changes_are_present x y (some z) = true) : conflicting_fields text x y z = [] := by
  rw [List.eq_nil_iff_forall_not_mem]
  intro c hc
  obtain ⟨ks, hks, -⟩ := (mem_conflicting_fields hx).mp hc
  exact not_conflict_of_present hx hy h ks hks

/-! ### One object -/

/-- The change of one object is on main. -/
def SubsumedAt (a b m : Option Value) : Prop :=
  match a, b with
  | none, none => True
  | none, some y => same_or_absent m (some y)
  | some _, none => m = none
  | some x, some y => branch_changes_are_present x y m = true

/-- The documents of one object: objects without repeated keys, main's shaped like
    the others. -/
structure ObjectDocuments (a b m : Option Value) : Prop where
  base : ∀ x, a = some x → x.Wf ∧ x.is_dict = true
  branch : ∀ y, b = some y → y.Wf ∧ y.is_dict = true
  main : ∀ z, m = some z → z.Wf
  shaped : ∀ x y z d, a = some x → b = some y → m = some z → First (some x) (some y) d →
    MainShaped x y (some z) d

/-- The change of an object is on main exactly when main carries it without conflict. -/
theorem subsumedAt_iff {a b m : Option Value} (h : ObjectDocuments a b m) (f : SemanticField)
    (identity : String) :
    SubsumedAt a b m ↔ Carries a b m ∧ object_conflicts f identity a b m = [] := by
  cases a with
  | none =>
    cases b with
    | none =>
      refine ⟨fun _ => ⟨fun d hd => absurd hd (not_first_absent d), rfl⟩, fun _ => trivial⟩
    | some y =>
      constructor
      · intro hsame
        have hsame : same_or_absent m (some y) := hsame
        refine ⟨fun d hd => ?_, ?_⟩
        · obtain rfl := first_one_sided.2.mp hd
          simpa using same_or_absent_symm hsame
        · cases m with
          | none => exact absurd hsame id
          | some z => simp [object_conflicts, same_or_absent,
              show z.loosely_equal y = true from hsame]
      · rintro ⟨hcarries, -⟩
        have hroot := hcarries [] (first_one_sided.2.mpr rfl)
        exact same_or_absent_symm (by simpa using hroot)
  | some x =>
    cases b with
    | none =>
      constructor
      · rintro rfl
        refine ⟨fun d hd => ?_, by simp [object_conflicts, same_or_absent]⟩
        obtain rfl := first_one_sided.1.mp hd
        simp [same_or_absent]
      · rintro ⟨hcarries, -⟩
        have hroot := hcarries [] (first_one_sided.1.mpr rfl)
        cases m with
        | none => rfl
        | some z => simp [same_or_absent] at hroot
    | some y =>
      obtain ⟨hx, hxd⟩ := h.base x rfl
      obtain ⟨hy, hyd⟩ := h.branch y rfl
      obtain ⟨xs, rfl⟩ := is_dict_iff.mp hxd
      obtain ⟨ys, rfl⟩ := is_dict_iff.mp hyd
      constructor
      · intro hpresent
        have hpresent : branch_changes_are_present (.dict xs) (.dict ys) m = true := hpresent
        refine ⟨carries_of_present hx hy h.main hpresent, ?_⟩
        unfold object_conflicts
        split_ifs with hsame
        · rfl
        · cases m with
          | some z => simp [no_conflicts_of_present hx hy hpresent]
          | none =>
            rcases (present_dict hx hy).mp hpresent with hxy | hym | ⟨zs, hkeys⟩
            · exact absurd hxy hsame
            · exact absurd hym id
            · exact absurd hkeys.object (by simp)
      · rintro ⟨hcarries, hnone⟩
        cases m with
        | some z =>
          exact present_of_carries hx hy (fun d hd => h.shaped _ _ _ d rfl rfl rfl hd) hcarries
        | none =>
          -- main lacks the object: without a conflict the branch left it alone
          refine (present_dict hx hy).mpr (Or.inl ?_)
          by_contra hne
          simp [object_conflicts, same_or_absent, hne] at hnone

/-! ### Collections -/

section

variable {α : Type} [Keyed α String] {document : α → Value}

theorem object_delta_subsumed (values : Table α) (id : String) (old new : Option α) :
    (∀ change ∈ object_delta document id old new,
      semantic_change_is_subsumed document values change = true) ↔
      SubsumedAt (old.map document) (new.map document) ((values.get? id).map document) := by
  cases old with
  | none =>
    cases new with
    | none => simp [object_delta, SubsumedAt]
    | some b => simp [object_delta, SubsumedAt, semantic_change_is_subsumed]
  | some a =>
    cases new with
    | none => simp [object_delta, SubsumedAt, semantic_change_is_subsumed]
    | some b =>
      simp only [object_delta, SubsumedAt, Option.map_some]
      split_ifs with hsame
      · have hpresent := present_of_equal ((values.get? id).map document) hsame
        simp [hpresent]
      · simp [semantic_change_is_subsumed]

theorem collection_subsumed (before after values : Table α) :
    (typed_collection_delta document before after).all
      (semantic_change_is_subsumed document values) = true ↔
      ∀ id, SubsumedAt ((before.get? id).map document) ((after.get? id).map document)
        ((values.get? id).map document) := by
  rw [List.all_eq_true]
  constructor
  · intro h id
    rw [← object_delta_subsumed]
    intro change hchange
    refine h change (List.mem_flatMap.mpr ⟨id, ?_, hchange⟩)
    rw [mem_sorted_set, List.mem_append, Table.mem_keys_iff, Table.mem_keys_iff]
    by_contra hnone
    simp only [not_or, Option.not_isSome_iff_eq_none] at hnone
    simp [object_delta, hnone.1, hnone.2] at hchange
  · intro h change hchange
    obtain ⟨id, -, hchange⟩ := List.mem_flatMap.mp hchange
    exact (object_delta_subsumed values id _ _).mpr (h id) change hchange

end

/-! ### Graphs -/

section

variable [OperationDump] {g : BranchMergeGraphs}

theorem object_documents (g : BranchMergeGraphs) {f : SemanticField} (hf : f ∈ COLLECTIONS)
    (identity : String) : ObjectDocuments ((g.base_graph.part f).entry identity)
      ((g.branch_graph.part f).entry identity) ((g.main_graph.part f).entry identity) where
  base _ hx := ⟨(part_wf _ f).entry hx, object_is_dict hf hx⟩
  branch _ hy := ⟨(part_wf _ f).entry hy, object_is_dict hf hy⟩
  main _ hz := (part_wf _ f).entry hz
  shaped _ _ _ _ hx hy hz hd := object_shaped hf hx hy hz hd

/-- Main carries one part of the branch. -/
def PartCarried (g : BranchMergeGraphs) (f : SemanticField) : Prop :=
  Carries (some (g.base_graph.part f)) (some (g.branch_graph.part f)) (some (g.main_graph.part f))

theorem collection_carried {f : SemanticField} (hf : f ∈ COLLECTIONS) : PartCarried g f ↔
    ∀ identity, Carries ((g.base_graph.part f).entry identity)
      ((g.branch_graph.part f).entry identity) ((g.main_graph.part f).entry identity) := by
  have hbase := collection_is_dict g.base_graph hf
  have hbranch := collection_is_dict g.branch_graph hf
  unfold PartCarried
  constructor
  · intro h identity
    rw [hbase, hbranch] at h
    have hentry := h.entry identity
    rw [hbase, hbranch]
    exact hentry
  · intro h d hd
    rw [hbase, hbranch] at hd
    obtain ⟨k, e, rfl, he⟩ := first_dict.mp hd
    rw [under_cons, under_cons]
    have hk := h k e
    rw [hbase, hbranch] at hk
    have hsame := hk he
    rw [hbranch]
    exact hsame

theorem collection_conflicts_nil {f : SemanticField} (hf : f ∈ COLLECTIONS) :
    collection_conflicts f (entries (g.base_graph.part f)) (entries (g.branch_graph.part f))
        (entries (g.main_graph.part f)) = [] ↔
      ∀ identity, object_conflicts f identity ((g.base_graph.part f).entry identity)
        ((g.branch_graph.part f).entry identity) ((g.main_graph.part f).entry identity) = [] := by
  have hentry (s : GraphState) (identity : String) :
      (s.part f).entry identity = (entries (s.part f)).lookup identity := by
    rw [collection_is_dict s hf]
    rfl
  rw [collection_conflicts, List.flatMap_eq_nil_iff]
  constructor
  · intro h identity
    rw [hentry, hentry, hentry]
    by_cases hkey : identity ∈
        ((entries (g.base_graph.part f)) ++ (entries (g.branch_graph.part f))).map Prod.fst
    · exact h identity (mem_sorted_set.mpr hkey)
    · -- neither base nor branch has the object
      have hnone (d : List (String × Value)) (hd : identity ∉ d.map Prod.fst) :
          d.lookup identity = none := by
        rw [← Option.not_isSome_iff_eq_none, keys_of_lookup]
        exact hd
      rw [List.map_append, List.mem_append, not_or] at hkey
      rw [hnone _ hkey.1, hnone _ hkey.2]
      rfl
  · intro h identity _
    have hidentity := h identity
    rwa [hentry, hentry, hentry] at hidentity

/-- What the delta of one collection says, in terms of main's positions. -/
theorem collection_subsumed_iff {f : SemanticField} (hf : f ∈ COLLECTIONS) :
    (∀ identity, SubsumedAt ((g.base_graph.part f).entry identity)
      ((g.branch_graph.part f).entry identity) ((g.main_graph.part f).entry identity)) ↔
      PartCarried g f ∧ collection_conflicts f (entries (g.base_graph.part f))
        (entries (g.branch_graph.part f)) (entries (g.main_graph.part f)) = [] := by
  rw [collection_carried hf, collection_conflicts_nil hf, ← forall_and]
  exact forall_congr' (fun identity => subsumedAt_iff (object_documents g hf identity) f identity)

/-- Records of the whole graph hold no nested objects. -/
theorem global_flat (s : GraphState) {f : SemanticField} (hf : f ∈ GLOBALS)
    {d vs : List (String × Value)} (hd : s.part f = .dict d) (k : String) :
    d.lookup k ≠ some (.dict vs) := by
  intro hk
  have hmem := lookup_some_mem hk
  simp only [GLOBALS, List.mem_cons, List.not_mem_nil, or_false] at hf
  rcases hf with rfl | rfl | rfl
  · cases hd
  · obtain ⟨⟩ := hd
    simp at hmem
  · obtain ⟨⟩ := hd
    have htime : opt_json Datetime.to_json s.coverage.earliest_timestamp ≠ .dict vs := by
      cases s.coverage.earliest_timestamp <;> simp [opt_json, Datetime.to_json]
    simp [str_list, htime.symm] at hmem

/-- What the delta of one record of the whole graph says. -/
theorem global_subsumed_iff {f : SemanticField} (hf : f ∈ GLOBALS) :
    branch_changes_are_present (g.base_graph.part f) (g.branch_graph.part f)
        (some (g.main_graph.part f)) = true ↔
      PartCarried g f ∧
        global_conflicts f (g.base_graph.part f) (g.branch_graph.part f) (g.main_graph.part f)
          = [] := by
  have hx := part_wf g.base_graph f
  have hy := part_wf g.branch_graph f
  constructor
  · intro h
    refine ⟨carries_of_present hx hy ?_ h, ?_⟩
    · intro z hz
      rw [← Option.some.inj hz]
      exact part_wf g.main_graph f
    · rw [global_conflicts, no_conflicts_of_present hx hy h, List.map_nil]
  · rintro ⟨h, -⟩
    refine present_of_carries hx hy (fun d hd => ?_) h
    by_cases hscope : f = .project_truth_scope
    · subst hscope
      obtain ⟨rfl, -⟩ := (first_leaf (by simp [GraphState.part])).mp hd
      intro e he hne
      exact absurd (List.prefix_nil.mp he) hne
    · have hdict (s : GraphState) : ∃ d, s.part f = .dict d := by
        simp only [GLOBALS, List.mem_cons, List.not_mem_nil, or_false] at hf
        rcases hf with rfl | rfl | rfl
        · exact absurd rfl hscope
        · exact ⟨_, rfl⟩
        · exact ⟨_, rfl⟩
      obtain ⟨xs, hxs⟩ := hdict g.base_graph
      obtain ⟨ys, hys⟩ := hdict g.branch_graph
      obtain ⟨zs, hzs⟩ := hdict g.main_graph
      rw [hxs, hys] at hd ⊢
      rw [hzs]
      exact mainShaped_of_nested hd (fun k vs ws hv _ => absurd hv (global_flat _ hf hxs k))

/-- Without conflicts, resolving without a Patch asks main to carry every part. -/
theorem can_resolve_iff (hkept : ReservedNameKept g.base_graph g.branch_graph)
    (hnone : g.deterministic_conflicts = []) :
    branch_merge_can_resolve_without_patch g = true ↔ ∀ f, PartCarried g f := by
  have hmandatory : g.mandatory = g.allowed := by
    rw [BranchMergeGraphs.mandatory, List.filter_eq_self]
    intro path _
    simp [BranchMergeGraphs.left_out, hnone, branch_conflict_paths]
  have hvalue (s : GraphState) {f : SemanticField} {d : List String}
      (hd : First (some (g.base_graph.part f)) (some (g.branch_graph.part f)) d) :
      semantic_path_value (graph_semantic_document s) (part_written g.base_graph g.branch_graph f d)
        = (s.part f).at_path d := by
    rw [semantic_path_value, unmarked_part_written hkept hd, document_part]
  rw [branch_merge_can_resolve_without_patch, hmandatory, List.all_eq_true]
  constructor
  · intro h f d hd
    have hpath := h _ (mem_graph_write_paths.mpr ⟨f, d, hd, rfl⟩)
    rw [decide_eq_true_eq, hvalue _ hd, hvalue _ hd] at hpath
    exact hpath
  · intro h path hpath
    obtain ⟨f, d, hd, rfl⟩ := mem_graph_write_paths.mp hpath
    rw [decide_eq_true_eq, hvalue _ hd, hvalue _ hd]
    exact h f d hd

/-! ### The two tests -/

/-- Base and branch do not spell one coverage time with two offsets. -/
def CoverageTimeKept (base branch : GraphState) : Prop :=
  same_time base.coverage.earliest_timestamp branch.coverage.earliest_timestamp = true →
    base.coverage.earliest_timestamp = branch.coverage.earliest_timestamp

theorem global_delta_subsumed {f : SemanticField} {changed : Bool} {before after : Value}
    {changes : List GlobalSemanticDelta} (main : GraphState)
    (h : global_delta f changed before after = .ok changes)
    (hsame : changed = false → before.loosely_equal after = true) :
    changes.all (fun change =>
      branch_changes_are_present change.before change.after
        (some (main.part change.field))) = true ↔
      branch_changes_are_present before after (some (main.part f)) = true := by
  unfold global_delta at h
  split_ifs at h with hchanged hequal
  · obtain rfl := Except.ok.inj h
    simp
  · obtain rfl := Except.ok.inj h
    have hpresent := present_of_equal (some (main.part f)) (hsame (by simpa using hchanged))
    simp [hpresent]

omit [OperationDump] in
theorem coverage_kept {base branch : GraphState} (htime : CoverageTimeKept base branch)
    (h : base.coverage.same branch.coverage = true) : base.coverage = branch.coverage := by
  simp only [CoverageBoundary.same, Bool.and_eq_true, beq_iff_eq] at h
  rw [← h.2, ← htime h.1]

/-- What the delta of a branch says, part by part. -/
theorem delta_subsumed_iff {base_head branch_head : GraphHeadRef} {delta : GraphSemanticDelta}
    (htime : CoverageTimeKept g.base_graph g.branch_graph)
    (h : build_semantic_delta g.base_graph g.branch_graph base_head branch_head = .ok delta) :
    semantic_delta_is_subsumed delta g.main_graph = true ↔
      (∀ f ∈ COLLECTIONS, ∀ identity, SubsumedAt ((g.base_graph.part f).entry identity)
        ((g.branch_graph.part f).entry identity) ((g.main_graph.part f).entry identity)) ∧
      ∀ f ∈ GLOBALS, branch_changes_are_present (g.base_graph.part f) (g.branch_graph.part f)
        (some (g.main_graph.part f)) = true := by
  unfold build_semantic_delta at h
  split_ifs at h
  simp only [except_bind_ok, except_pure_ok] at h
  obtain ⟨scope, hscope, ontology, hontology, coverage, hcoverage, rfl⟩ := h
  have hscope := global_delta_subsumed g.main_graph hscope (fun hsame => by
    have heq : g.base_graph.project_truth_scope = g.branch_graph.project_truth_scope := by
      simpa using hsame
    simp [GraphState.part, heq])
  have hontology := global_delta_subsumed g.main_graph hontology (fun hsame => by
    have heq : g.base_graph.ontology = g.branch_graph.ontology := by simpa using hsame
    simp [GraphState.part, heq])
  have hcoverage := global_delta_subsumed g.main_graph hcoverage (fun hsame => by
    have heq := coverage_kept htime (by simpa using hsame)
    simp [GraphState.part, heq])
  -- each table of the delta speaks about one collection
  have hobjects {α : Type} [Keyed α String] {document : α → Value} {f : SemanticField}
      {before after values : Table α}
      (hbefore : ∀ k, (g.base_graph.part f).entry k = (before.get? k).map document)
      (hafter : ∀ k, (g.branch_graph.part f).entry k = (after.get? k).map document)
      (hvalues : ∀ k, (g.main_graph.part f).entry k = (values.get? k).map document) :
      (typed_collection_delta document before after).all
        (semantic_change_is_subsumed document values) = true ↔
      ∀ identity, SubsumedAt ((g.base_graph.part f).entry identity)
        ((g.branch_graph.part f).entry identity) ((g.main_graph.part f).entry identity) := by
    rw [collection_subsumed]
    exact forall_congr' (fun k => by rw [hbefore, hafter, hvalues])
  have hnodes := hobjects (fun k => (part_entry _ k).1) (fun k => (part_entry _ k).1)
    (fun k => (part_entry _ k).1)
  have hedges := hobjects (fun k => (part_entry _ k).2.1) (fun k => (part_entry _ k).2.1)
    (fun k => (part_entry _ k).2.1)
  have hproposals := hobjects (fun k => (part_entry _ k).2.2.1) (fun k => (part_entry _ k).2.2.1)
    (fun k => (part_entry _ k).2.2.1)
  have hambiguities := hobjects (fun k => (part_entry _ k).2.2.2.1)
    (fun k => (part_entry _ k).2.2.2.1) (fun k => (part_entry _ k).2.2.2.1)
  have hglossary := hobjects (fun k => (part_entry _ k).2.2.2.2)
    (fun k => (part_entry _ k).2.2.2.2) (fun k => (part_entry _ k).2.2.2.2)
  simp only [semantic_delta_is_subsumed, Bool.and_eq_true, List.all_append]
  rw [hnodes, hedges, hproposals, hambiguities, hglossary, hscope, hontology, hcoverage]
  simp only [COLLECTIONS, GLOBALS, List.forall_mem_cons, List.not_mem_nil, false_implies,
    implies_true, and_true, and_assoc]

/-- The semantic delta of a branch is subsumed by main exactly when there is no
    conflict and main has the branch's value at every mandatory path. -/
theorem subsumption_agrees {base_head branch_head : GraphHeadRef} {delta : GraphSemanticDelta}
    (hkept : ReservedNameKept g.base_graph g.branch_graph)
    (htime : CoverageTimeKept g.base_graph g.branch_graph)
    (h : build_semantic_delta g.base_graph g.branch_graph base_head branch_head = .ok delta) :
    semantic_delta_is_subsumed delta g.main_graph = true ↔
      detect_branch_merge_conflicts g.base_graph g.branch_graph g.main_graph = [] ∧
        branch_merge_can_resolve_without_patch g = true := by
  have hconflicts : detect_branch_merge_conflicts g.base_graph g.branch_graph g.main_graph = [] ↔
      (∀ f ∈ COLLECTIONS, collection_conflicts f (entries (g.base_graph.part f))
        (entries (g.branch_graph.part f)) (entries (g.main_graph.part f)) = []) ∧
      ∀ f ∈ GLOBALS, global_conflicts f (g.base_graph.part f) (g.branch_graph.part f)
        (g.main_graph.part f) = [] := by
    rw [detect_branch_merge_conflicts, List.append_eq_nil_iff, List.flatMap_eq_nil_iff,
      List.flatMap_eq_nil_iff]
  rw [delta_subsumed_iff htime h]
  constructor
  · rintro ⟨hcollections, hglobals⟩
    have hnone : g.deterministic_conflicts = [] := hconflicts.mpr
      ⟨fun f hf => ((collection_subsumed_iff hf).mp (hcollections f hf)).2,
        fun f hf => ((global_subsumed_iff hf).mp (hglobals f hf)).2⟩
    refine ⟨hnone, (can_resolve_iff hkept hnone).mpr (fun f => ?_)⟩
    rcases collection_or_global f with hf | hf
    · exact ((collection_subsumed_iff hf).mp (hcollections f hf)).1
    · exact ((global_subsumed_iff hf).mp (hglobals f hf)).1
  · rintro ⟨hnone, hresolve⟩
    have hcarried := (can_resolve_iff hkept hnone).mp hresolve
    obtain ⟨hcollections, hglobals⟩ := hconflicts.mp hnone
    exact ⟨fun f hf => (collection_subsumed_iff hf).mpr ⟨hcarried f, hcollections f hf⟩,
      fun f hf => (global_subsumed_iff hf).mpr ⟨hcarried f, hglobals f hf⟩⟩

end

/-! ### A reserved name and a respelled time -/

namespace Reference

/-- Main made the branch's change of the first field and one of its own. -/
def carried_graphs (name : String) : BranchMergeGraphs where
  base_graph := two_fields name 1 "a"
  branch_graph := two_fields name 2 "a"
  main_graph := two_fields name 2 "b"

/-- A graph that saw its first session at a time. -/
def covered (time : Datetime) : GraphState where
  coverage := { earliest_timestamp := some time }

/-- The branch writes the time of base with another offset. -/
def respelled_graphs : BranchMergeGraphs where
  base_graph := covered { year := 2025, month := 1, day := 1 }
  branch_graph := covered { year := 2025, month := 1, day := 1, hour := 1, offset := some 60 }
  main_graph := covered { year := 2025, month := 1, day := 1 }

/-- The delta of the sample graphs. -/
def sample_delta (g : BranchMergeGraphs) : Applied GraphSemanticDelta :=
  build_semantic_delta g.base_graph g.branch_graph { revision := 0 }
    { target := .branch "b", revision := 0 }

end Reference

open Reference in
/-- A field named like the mark, or a coverage time written with another offset: the
    delta is subsumed although main lacks a mandatory value. -/
theorem subsumed_not_resolved :
    (∃ delta, sample_delta (carried_graphs "$") = .ok delta ∧
      semantic_delta_is_subsumed delta (carried_graphs "$").main_graph = true ∧
      branch_merge_can_resolve_without_patch (carried_graphs "$") = false) ∧
    ∃ delta, sample_delta respelled_graphs = .ok delta ∧
      semantic_delta_is_subsumed delta respelled_graphs.main_graph = true ∧
      branch_merge_can_resolve_without_patch respelled_graphs = false := by
  have hsubsumed (g : BranchMergeGraphs) (h : (sample_delta g).toOption.map
      (fun delta => semantic_delta_is_subsumed delta g.main_graph) = some true) :
      ∃ delta, sample_delta g = .ok delta ∧
        semantic_delta_is_subsumed delta g.main_graph = true := by
    cases hd : sample_delta g with
    | error e => simp [hd, Except.toOption] at h
    | ok delta => exact ⟨delta, rfl, by simpa [hd, Except.toOption] using h⟩
  constructor
  · obtain ⟨delta, hd, h⟩ := hsubsumed (carried_graphs "$") (by decide +kernel)
    exact ⟨delta, hd, h, by decide +kernel⟩
  · obtain ⟨delta, hd, h⟩ := hsubsumed respelled_graphs (by decide +kernel)
    exact ⟨delta, hd, h, by decide +kernel⟩

open Reference in
/-- Under another name the two tests agree. -/
theorem plain_name_agrees : ∃ delta, sample_delta (carried_graphs "field") = .ok delta ∧
    (semantic_delta_is_subsumed delta (carried_graphs "field").main_graph = true ↔
      detect_branch_merge_conflicts (carried_graphs "field").base_graph
          (carried_graphs "field").branch_graph (carried_graphs "field").main_graph = [] ∧
        branch_merge_can_resolve_without_patch (carried_graphs "field") = true) := by
  obtain ⟨delta, hd⟩ : ∃ delta, sample_delta (carried_graphs "field") = .ok delta :=
    exists_ok (by decide +kernel)
  refine ⟨delta, hd, subsumption_agrees ?_ (fun _ => rfl) hd⟩
  intro id n m hn hm
  obtain rfl := List.mem_singleton.mp (Table.get?_eq_some_iff.mp hn).1
  obtain rfl := List.mem_singleton.mp (Table.get?_eq_some_iff.mp hm).1
  decide

end ResearchGraph
