import ResearchGraph.MergePaths

/-! # The shape of semantic documents

    No object of a graph's document repeats a key, and every key below the id of
    an object is one of the declared field names, apart from the names of the
    custom fields of a node.
-/

namespace ResearchGraph

open Lib Value

/-! ### Keys -/

/-- A key that a dotted path can carry: not empty, without a dot, and not the mark. -/
def PlainKey (k : String) : Prop := k ≠ "" ∧ '.' ∉ k.toList ∧ k ≠ WHOLE

instance (k : String) : Decidable (PlainKey k) := inferInstanceAs (Decidable (_ ∧ _ ∧ _))

/-! ### Values that are not objects -/

@[simp] theorem is_dict_str_list (xs : List String) : (str_list xs).is_dict = false := rfl

@[simp] theorem is_dict_opt_str (s : Option String) : (opt_str s).is_dict = false := by
  cases s <;> rfl

@[simp] theorem is_dict_opt_time (t : Option Datetime) :
    (opt_json Datetime.to_json t).is_dict = false := by
  cases t <;> rfl

@[simp] theorem is_dict_extension_value (v : ExtensionValue) : v.to_value.is_dict = false := by
  cases v <;> rfl

/-- Documents whose objects repeat no key and use plain ones only. -/
structure Regular (v : Value) : Prop where
  wf : v.Wf
  keys : v.KeysIn PlainKey

theorem regular_of_not_dict {v : Value} (h : v.is_dict = false) : Regular v :=
  ⟨wf_of_not_dict h, keysIn_of_not_dict h⟩

theorem regular_dict {d : List (String × Value)} (names : List String)
    (hnames : d.map Prod.fst = names) (hnodup : names.Nodup) (hplain : ∀ k ∈ names, PlainKey k)
    (h : ∀ e ∈ d, Regular e.2) : Regular (.dict d) := by
  constructor
  · exact wf_dict (hnames ▸ hnodup) (fun k v hmem => (h (k, v) hmem).wf)
  · refine keysIn_dict (fun k v hmem => ⟨?_, (h (k, v) hmem).keys⟩)
    exact hplain k (hnames ▸ List.mem_map.mpr ⟨(k, v), hmem, rfl⟩)

theorem regular_flat {d : List (String × Value)} (names : List String)
    (hnames : d.map Prod.fst = names) (hnodup : names.Nodup) (hplain : ∀ k ∈ names, PlainKey k)
    (h : ∀ e ∈ d, e.2.is_dict = false) : Regular (.dict d) :=
  regular_dict names hnames hnodup hplain (fun e he => regular_of_not_dict (h e he))

/-! ### Objects -/

theorem EvidenceAssessment.document_regular (a : EvidenceAssessment) : Regular a.document :=
  regular_flat ["relevance", "weight", "scope", "qualifications"] rfl (by decide) (by decide)
    (by simp)

theorem assessment_regular (a : Option EvidenceAssessment) :
    Regular (opt_json EvidenceAssessment.document a) := by
  cases a with
  | none => exact regular_of_not_dict rfl
  | some a => exact a.document_regular

theorem Edge.document_regular (e : Edge) : Regular e.document := by
  refine regular_dict
    ["id", "source", "target", "relation", "layer", "explanation", "assessment"] rfl
    (by decide) (by decide) ?_
  intro entry hmem
  simp only [List.mem_cons, List.not_mem_nil, or_false] at hmem
  rcases hmem with rfl | rfl | rfl | rfl | rfl | rfl | rfl
  case inr.inr.inr.inr.inr.inr => exact assessment_regular e.assessment
  all_goals exact regular_of_not_dict rfl

theorem GatedCard.document_regular (c : GatedCard) : Regular c.document :=
  regular_flat ["situation_cold", "why_human_now", "consequences", "decision_needed"] rfl
    (by decide) (by decide) (by simp)

theorem Proposal.document_regular [OperationDump] (q : Proposal) : Regular q.document := by
  refine regular_dict
    ["id", "title", "card", "ops", "related_node_ids", "related_edge_ids", "related_config_keys",
      "status", "created_by", "resolved_by", "resolution_reason", "rejection_reason"] rfl
    (by decide) (by decide) ?_
  intro entry hmem
  simp only [List.mem_cons, List.not_mem_nil, or_false] at hmem
  rcases hmem with rfl | rfl | rfl | rfl | rfl | rfl | rfl | rfl | rfl | rfl | rfl | rfl
  case inr.inr.inl => exact q.card.document_regular
  all_goals exact regular_of_not_dict (by simp)

theorem Ambiguity.document_regular (a : Ambiguity) : Regular a.document :=
  regular_flat ["id", "question", "why_it_matters", "candidates", "related_node_ids",
    "artifact_refs", "status"] rfl (by decide) (by decide) (by simp)

theorem GlossaryTerm.document_regular (t : GlossaryTerm) : Regular t.document :=
  regular_flat ["term", "plain_definition", "where_defined"] rfl (by decide) (by decide) (by simp)

theorem OntologyState.document_regular (o : OntologyState) : Regular o.document :=
  regular_flat ["types", "fields", "relations"] rfl (by decide) (by decide) (by simp)

theorem CoverageBoundary.document_regular (c : CoverageBoundary) : Regular c.document :=
  regular_flat ["repositories_seen", "repositories_never_seen", "sessions_read",
    "sessions_skipped", "earliest_timestamp", "note"] rfl (by decide) (by decide) (by simp)

/-! ### Nodes -/

/-- The document of a node has the declared fields of its type. -/
theorem NodeBody.document_keys (b : NodeBody) :
    b.document.map Prod.fst = typed_node_fields b.type := by
  cases b <;> rfl

theorem NodeBody.document_flat (b : NodeBody) : ∀ e ∈ b.document, e.2.is_dict = false := by
  cases b <;> simp [NodeBody.document]

/-- The field names of a node document. -/
def document_fields (t : NodeType) : List String :=
  ["id", "title", "extension_type", "extension_fields", "standing", "source_refs"]
    ++ typed_node_fields t

theorem document_fields_nodup (t : NodeType) : (document_fields t).Nodup := by
  cases t <;> decide

theorem document_fields_plain (t : NodeType) : ∀ k ∈ document_fields t, PlainKey k := by
  cases t <;> decide

/-- The entries of a node document. -/
def Node.document_entries (n : Node) : List (String × Value) := entries n.document

theorem Node.document_eq (n : Node) : n.document = .dict n.document_entries := rfl

theorem Node.document_keys (n : Node) :
    n.document_entries.map Prod.fst = document_fields n.type := by
  simp [Node.document_entries, Node.document, entries, document_fields, NodeBody.document_keys,
    Node.type]

/-- Custom fields are the only object inside a node document. -/
theorem Node.document_entry {n : Node} {k : String} {v : Value} (h : (k, v) ∈ n.document_entries) :
    (k = "extension_fields" ∧ v = extension_object n.extension_fields) ∨
      (k ≠ "extension_fields" ∧ v.is_dict = false) := by
  simp only [Node.document_entries, Node.document, entries, List.mem_append, List.mem_cons,
    List.not_mem_nil, or_false, Prod.mk.injEq] at h
  rcases h with (⟨rfl, rfl⟩ | ⟨rfl, rfl⟩ | ⟨rfl, rfl⟩ | ⟨rfl, rfl⟩ | ⟨rfl, rfl⟩ | ⟨rfl, rfl⟩) | h
  case inl.inr.inr.inr.inl => exact Or.inl ⟨rfl, rfl⟩
  case inr =>
    refine Or.inr ⟨?_, n.body.document_flat _ h⟩
    rintro rfl
    have hmem : "extension_fields" ∈ typed_node_fields n.type := by
      have := List.mem_map_of_mem (f := Prod.fst) h
      rwa [NodeBody.document_keys] at this
    revert hmem
    cases n.type <;> decide
  all_goals exact Or.inr ⟨by decide, by simp⟩

theorem extension_object_lookup (fields : Dict String ExtensionValue) (k : String) :
    (extension_object fields).entry k = (Dict.get fields k).map ExtensionValue.to_value := by
  have hnodup : ((fields.items.map (fun e => (e.1, e.2.to_value))).map Prod.fst).Nodup := by
    rw [List.map_map]
    exact fields.nodup
  apply Option.ext
  intro v
  rw [extension_object, entry_dict, lookup_iff_mem hnodup, Option.map_eq_some_iff, List.mem_map]
  constructor
  · rintro ⟨⟨j, w⟩, hmem, he⟩
    obtain ⟨rfl, rfl⟩ := Prod.mk.inj he
    exact ⟨w, Dict.get_eq_some_iff.mpr hmem, rfl⟩
  · rintro ⟨w, hw, rfl⟩
    exact ⟨(k, w), Dict.get_eq_some_iff.mp hw, rfl⟩

theorem extension_object_wf (fields : Dict String ExtensionValue) :
    (extension_object fields).Wf := by
  refine wf_dict ?_ ?_
  · rw [List.map_map]
    exact fields.nodup
  · intro k v hmem
    obtain ⟨e, -, he⟩ := List.mem_map.mp hmem
    obtain ⟨-, rfl⟩ := Prod.mk.inj he
    exact wf_of_not_dict (by simp)

theorem Node.document_wf (n : Node) : n.document.Wf := by
  rw [Node.document_eq]
  refine wf_dict ?_ ?_
  · rw [Node.document_keys]
    exact document_fields_nodup n.type
  · intro k v hmem
    rcases Node.document_entry hmem with ⟨-, rfl⟩ | ⟨-, hflat⟩
    · exact extension_object_wf n.extension_fields
    · exact wf_of_not_dict hflat

/-! ### Graphs -/

theorem collection_or_global (f : SemanticField) : f ∈ COLLECTIONS ∨ f ∈ GLOBALS := by
  cases f <;> decide

theorem collection_not_global {f : SemanticField} (hf : f ∈ COLLECTIONS) : f ∉ GLOBALS := by
  revert hf
  cases f <;> decide

theorem field_name_injective {f g : SemanticField} (h : f.name = g.name) : f = g := by
  revert h
  cases f <;> cases g <;> decide

/-- The objects of a collection, looked up by id. -/
theorem lookup_items {α : Type} [Keyed α String] (t : Table α) (document : α → Value)
    (k : String) :
    (t.items.map (fun a => ((Keyed.key a : String), document a))).lookup k =
      (t.get? k).map document := by
  have hnodup :
      ((t.items.map (fun a => ((Keyed.key a : String), document a))).map Prod.fst).Nodup := by
    rw [List.map_map]
    exact t.nodup
  apply Option.ext
  intro v
  rw [lookup_iff_mem hnodup, List.mem_map, Option.map_eq_some_iff]
  constructor
  · rintro ⟨a, ha, he⟩
    obtain ⟨rfl, rfl⟩ := Prod.mk.inj he
    exact ⟨a, Table.get?_eq_some_iff.mpr ⟨ha, rfl⟩, rfl⟩
  · rintro ⟨a, ha, rfl⟩
    obtain ⟨hmem, rfl⟩ := Table.get?_eq_some_iff.mp ha
    exact ⟨a, hmem, rfl⟩

theorem table_wf {α : Type} [Keyed α String] (t : Table α) {document : α → Value}
    (h : ∀ a, (document a).Wf) :
    (dict (t.items.map (fun a => ((Keyed.key a : String), document a)))).Wf := by
  refine wf_dict ?_ ?_
  · rw [List.map_map]
    exact t.nodup
  · intro k v hmem
    obtain ⟨a, -, he⟩ := List.mem_map.mp hmem
    obtain ⟨-, rfl⟩ := Prod.mk.inj he
    exact h a

section
variable [OperationDump]

theorem part_wf (s : GraphState) (f : SemanticField) : (s.part f).Wf := by
  cases f with
  | nodes => exact table_wf s.nodes Node.document_wf
  | edges => exact table_wf s.edges (fun e => e.document_regular.wf)
  | proposals => exact table_wf s.proposals (fun q => q.document_regular.wf)
  | ambiguities => exact table_wf s.ambiguities (fun a => a.document_regular.wf)
  | glossary => exact table_wf s.glossary (fun t => t.document_regular.wf)
  | project_truth_scope => exact wf_of_not_dict rfl
  | ontology => exact s.ontology.document_regular.wf
  | coverage => exact s.coverage.document_regular.wf

/-- The object stored under an id, as a document. -/
theorem part_entry (s : GraphState) (id : String) :
    (s.part .nodes).entry id = (s.nodes.get? id).map Node.document ∧
    (s.part .edges).entry id = (s.edges.get? id).map Edge.document ∧
    (s.part .proposals).entry id = (s.proposals.get? id).map Proposal.document ∧
    (s.part .ambiguities).entry id = (s.ambiguities.get? id).map Ambiguity.document ∧
    (s.part .glossary).entry id = (s.glossary.get? id).map GlossaryTerm.document :=
  ⟨lookup_items s.nodes _ id, lookup_items s.edges _ id, lookup_items s.proposals _ id,
    lookup_items s.ambiguities _ id, lookup_items s.glossary _ id⟩

/-- Every object of a collection is an object of the document. -/
theorem object_is_dict {s : GraphState} {f : SemanticField} (hf : f ∈ COLLECTIONS) {id : String}
    {v : Value} (h : (s.part f).entry id = some v) : v.is_dict = true := by
  obtain ⟨hn, he, hq, ha, hg⟩ := part_entry s id
  simp only [COLLECTIONS, List.mem_cons, List.not_mem_nil, or_false] at hf
  rcases hf with rfl | rfl | rfl | rfl | rfl
  · obtain ⟨_, _, rfl⟩ := Option.map_eq_some_iff.mp (hn ▸ h)
    rfl
  · obtain ⟨_, _, rfl⟩ := Option.map_eq_some_iff.mp (he ▸ h)
    rfl
  · obtain ⟨_, _, rfl⟩ := Option.map_eq_some_iff.mp (hq ▸ h)
    rfl
  · obtain ⟨_, _, rfl⟩ := Option.map_eq_some_iff.mp (ha ▸ h)
    rfl
  · obtain ⟨_, _, rfl⟩ := Option.map_eq_some_iff.mp (hg ▸ h)
    rfl

theorem collection_is_dict (s : GraphState) {f : SemanticField} (hf : f ∈ COLLECTIONS) :
    s.part f = .dict (entries (s.part f)) := by
  simp only [COLLECTIONS, List.mem_cons, List.not_mem_nil, or_false] at hf
  rcases hf with rfl | rfl | rfl | rfl | rfl <;> rfl

/-- Objects other than nodes use plain keys only. -/
theorem object_regular {s : GraphState} {f : SemanticField} (hf : f ∈ COLLECTIONS)
    (hne : f ≠ .nodes) {id : String} {v : Value} (h : (s.part f).entry id = some v) :
    Regular v := by
  obtain ⟨-, he, hq, ha, hg⟩ := part_entry s id
  simp only [COLLECTIONS, List.mem_cons, List.not_mem_nil, or_false] at hf
  rcases hf with rfl | rfl | rfl | rfl | rfl
  · exact absurd rfl hne
  · obtain ⟨e, _, rfl⟩ := Option.map_eq_some_iff.mp (he ▸ h)
    exact e.document_regular
  · obtain ⟨q, _, rfl⟩ := Option.map_eq_some_iff.mp (hq ▸ h)
    exact q.document_regular
  · obtain ⟨a, _, rfl⟩ := Option.map_eq_some_iff.mp (ha ▸ h)
    exact a.document_regular
  · obtain ⟨t, _, rfl⟩ := Option.map_eq_some_iff.mp (hg ▸ h)
    exact t.document_regular

/-- Records of the whole graph use plain keys only. -/
theorem global_regular (s : GraphState) {f : SemanticField} (hf : f ∈ GLOBALS) :
    Regular (s.part f) := by
  simp only [GLOBALS, List.mem_cons, List.not_mem_nil, or_false] at hf
  rcases hf with rfl | rfl | rfl
  · exact regular_of_not_dict rfl
  · exact s.ontology.document_regular
  · exact s.coverage.document_regular

/-- A part of the document of a graph. -/
theorem document_part (s : GraphState) (f : SemanticField) (q : List String) :
    (graph_semantic_document s).at_path (f.name :: q) = (s.part f).at_path q := by
  cases f <;> rfl

/-- Nothing else is in the document of a graph. -/
theorem document_elsewhere (s : GraphState) {k : String} (h : ∀ f : SemanticField, f.name ≠ k)
    (q : List String) : (graph_semantic_document s).at_path (k :: q) = none := by
  have hnone : (graph_semantic_document s).entry k = none := by
    rw [graph_semantic_document, entry_dict, List.lookup_eq_none_iff]
    intro e he
    obtain ⟨f, -, rfl⟩ := List.mem_map.mp he
    simpa [bne_iff_ne] using fun hk => h f hk.symm
  simp [hnone]

end

end ResearchGraph
