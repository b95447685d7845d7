import ResearchGraph.Coherence
import ResearchGraph.Endpoints
import ResearchGraph.Layers

/-! # Ontology conformance

    Nodes and edges meet the definitions of the current ontology.  A change of
    the ontology is compared with the one before it, so a definition that comes
    back after it was removed is new to the rules, and the nodes and edges that
    still carry it are not looked at.
-/

namespace ResearchGraph

open Lib

section

variable {p : Patch} {s t u v : GraphState} {op : GraphOperation} {n m : Node}
  {o : OntologyState} {f f' : OntologyFieldDefinition}

/-! ### Conformance -/

/-- The custom type and the custom fields of a node meet an ontology. -/
structure NodeConforms (o : OntologyState) (n : Node) : Prop where
  base_type : ∀ name definition, n.extension_type = some name →
    o.types.get? name = some definition → definition.base_type = n.type
  kinds : ∀ f ∈ o.fields.items, field_applies n f = true →
    ∀ v, Dict.get n.extension_fields f.name = some v → field_value_matches f v.to_value = true
  required : ∀ f ∈ o.fields.items, field_applies n f = true → f.required = true →
    Dict.has n.extension_fields f.name = true

/-- Every node and every edge of a custom relation meets the current ontology. -/
structure Conforms (s : GraphState) : Prop where
  nodes : ∀ id n, s.nodes.get? id = some n → NodeConforms s.ontology n
  edges : ∀ k e, s.edges.get? k = some e →
    ∀ relation, custom_relation s.ontology e.relation = some relation →
      edge_matches_relation s e.source e.target relation = true

/-! ### Sound ontologies -/

/-- What the structure rule of an ontology establishes. -/
structure SoundOntology (o : OntologyState) : Prop where
  types : ∀ item ∈ o.types.items, item.name ∉ base_type_names
  owners : ∀ f ∈ o.fields.items, f.owner_type ∈ base_type_names ++ o.types.keys
  inherited : ∀ item ∈ o.types.items, ∀ name ∈ fields_by_owner o item.name,
    name ∉ fields_by_owner o item.base_type.name
  relations : ∀ item ∈ o.relations.items, RELATION_SPEC item.name = none

theorem sound_of_structure {revision : Option Nat}
    (h : Check.Passes (validate_ontology_structure o revision) ()) : SoundOntology o := by
  simp only [validate_ontology_structure, Check.passes_bind, Check.exists_unit,
    Check.passes_forEach] at h
  obtain ⟨htypes, hfields, hinherited, hrelations⟩ := h
  refine ⟨fun item hitem => ?_, fun f hf => ?_, fun item hitem name hname hbase => ?_,
    fun item hitem => ?_⟩
  · have hrule := htypes item hitem
    simp only [validate_type_definition, Check.passes_bind, Check.exists_unit, Check.passes_when,
      passes_reject, imp_false] at hrule
    exact hrule.1
  · have hrule := hfields f hf
    simp only [validate_field_definition, Check.passes_bind, Check.exists_unit, Check.passes_when,
      passes_reject, imp_false, not_not] at hrule
    exact hrule.1
  · have hrule := hinherited item hitem
    simp only [validate_inherited_fields, Check.passes_when, passes_reject, imp_false, ne_eq,
      not_not, List.filter_eq_nil_iff, decide_eq_true_eq] at hrule
    exact hrule name hname hbase
  · have hrule := hrelations item hitem
    simp only [validate_relation_definition, Check.passes_bind, Check.exists_unit,
      Check.passes_when, passes_reject, imp_false] at hrule
    exact Option.not_isSome_iff_eq_none.mp hrule.1

/-- The custom type of a node, if it has one, is not named like a base type. -/
def custom_named (n : Node) : Prop := ∀ name, n.extension_type = some name → name ∉ base_type_names

theorem field_applies_iff : field_applies n f = true ↔
    f.owner_type = n.type.name ∨ n.extension_type = some f.owner_type := by
  simp only [field_applies, Bool.or_eq_true, decide_eq_true_eq]
  exact or_congr Iff.rfl eq_comm

theorem mem_applicable : f ∈ applicable_field_definitions o n.type.name n.extension_type ↔
    f ∈ o.fields.items ∧ field_applies n f = true := by
  simp [applicable_field_definitions, field_applies]

/-- A node has at most one applicable field of a name. -/
theorem applicable_unique (ho : SoundOntology o) (hnamed : custom_named n)
    (hbase : ∀ name definition, n.extension_type = some name →
      o.types.get? name = some definition → definition.base_type = n.type)
    (hf : f ∈ o.fields.items) (hf' : f' ∈ o.fields.items) (happ : field_applies n f = true)
    (happ' : field_applies n f' = true) (hname : f.name = f'.name) : f = f' := by
  -- an inherited field and one of the custom type itself cannot share a name
  have hclash {g g' : OntologyFieldDefinition} (hg : g ∈ o.fields.items) (hg' : g' ∈ o.fields.items)
      (hgname : g.name = g'.name) (howner : g.owner_type = n.type.name)
      (hext : n.extension_type = some g'.owner_type) : False := by
    have hcustom := hnamed _ hext
    have hknown := (List.mem_append.mp (ho.owners g' hg')).resolve_left hcustom
    obtain ⟨item, hitem, hitemname⟩ := List.mem_map.mp hknown
    have hget : o.types.get? g'.owner_type = some item :=
      Table.get?_eq_some_iff.mpr ⟨hitem, hitemname⟩
    have hitembase := hbase _ item hext hget
    refine ho.inherited item hitem g'.name ?_ ?_
    · have hitemname : item.name = g'.owner_type := hitemname
      exact List.mem_map.mpr ⟨g', by simp [hg', hitemname], rfl⟩
    · refine List.mem_map.mpr ⟨g, ?_, hgname⟩
      simp [hg, howner, hitembase]
  have hkeys : f.owner_type = f'.owner_type → f = f' := fun howner =>
    List.inj_on_of_nodup_map o.fields.nodup hf hf' (Prod.ext howner hname)
  rcases field_applies_iff.mp happ with h | h <;> rcases field_applies_iff.mp happ' with h' | h'
  · exact hkeys (h.trans h'.symm)
  · exact (hclash hf hf' hname h h').elim
  · exact (hclash hf' hf hname.symm h' h).elim
  · exact hkeys (Option.some.inj (h.symm.trans h'))

theorem known_field_eq (ho : SoundOntology o) (hnamed : custom_named n)
    (hbase : ∀ name definition, n.extension_type = some name →
      o.types.get? name = some definition → definition.base_type = n.type)
    (hf : f ∈ o.fields.items) (happ : field_applies n f = true) :
    known_field (applicable_field_definitions o n.type.name n.extension_type) f.name = some f := by
  unfold known_field
  have hmem := mem_applicable.mpr ⟨hf, happ⟩
  cases hfind : (applicable_field_definitions o n.type.name n.extension_type).reverse.find?
      (fun d => d.name = f.name) with
  | none =>
    have hno := List.find?_eq_none.mp hfind f (List.mem_reverse.mpr hmem)
    simp at hno
  | some g =>
    have hg := mem_applicable.mp (List.mem_reverse.mp (List.mem_of_find?_eq_some hfind))
    have hname : g.name = f.name := by simpa using List.find?_some hfind
    rw [applicable_unique ho hnamed hbase hg.1 hf hg.2 happ hname]

theorem missing_required_nil {definitions : List OntologyFieldDefinition} {present : List String}
    (h : missing_required definitions present = []) (hf : f ∈ definitions)
    (hrequired : f.required = true) : f.name ∈ present := by
  by_contra habsent
  have hmem : f.name ∈ missing_required definitions present := by
    refine (List.mem_insertionSort _).mpr (List.mem_map.mpr ⟨f, ?_, rfl⟩)
    simp [hf, hrequired, habsent]
  rw [h] at hmem
  cases hmem

/-! ### New nodes -/

theorem new_node_conforms (ho : SoundOntology s.ontology) {revision : Option Nat} {agent : Bool}
    (h : Check.Passes (validate_new_node_extensions s n revision false agent) ()) :
    custom_named n ∧ NodeConforms s.ontology n := by
  simp only [validate_new_node_extensions, Check.passes_bind, Check.exists_unit] at h
  obtain ⟨htype, hfields⟩ := h
  have hdefined : ∀ name, n.extension_type = some name →
      ∃ definition, s.ontology.types.get? name = some definition ∧
        definition.base_type = n.type := by
    intro name hname
    simp only [hname, validate_extension_type, ontology_type, Option.bind_some] at htype
    cases hget : s.ontology.types.get? name with
    | none => simp [hget] at htype
    | some definition => exact ⟨definition, rfl, by simpa [hget] using htype⟩
  have hnamed : custom_named n := by
    intro name hname
    obtain ⟨definition, hget, -⟩ := hdefined name hname
    obtain ⟨hmem, hkey⟩ := Table.get?_eq_some_iff.mp hget
    have hkey : definition.name = name := hkey
    exact hkey ▸ ho.types definition hmem
  have hbase : ∀ name definition, n.extension_type = some name →
      s.ontology.types.get? name = some definition → definition.base_type = n.type := by
    intro name definition hname hget
    obtain ⟨definition', hget', hbase⟩ := hdefined name hname
    obtain rfl := Option.some.inj (hget.symm.trans hget')
    exact hbase
  simp only [validate_extension_fields, Check.passes_bind, Check.exists_unit, Check.passes_forEach,
    Check.passes_when, Bool.not_false, true_implies, reject_missing_required, passes_reject,
    imp_false, ne_eq, not_not] at hfields
  obtain ⟨-, hkinds, hmissing⟩ := hfields
  refine ⟨hnamed, hbase, fun f hf happ v hv => ?_, fun f hf happ hrequired => ?_⟩
  · have hrule := hkinds (f.name, v) (Dict.get_eq_some_iff.mp hv)
    simp only [known_field_eq ho hnamed hbase hf happ, validate_one_field, Check.passes_bind,
      Check.exists_unit, Check.passes_when, true_and, passes_reject, imp_false, not_not] at hrule
    exact hrule.1
  · have hkey := missing_required_nil hmissing (mem_applicable.mpr ⟨hf, happ⟩) hrequired
    obtain ⟨entry, hentry, hname⟩ := List.mem_map.mp hkey
    have hget : Dict.get n.extension_fields f.name = some entry.2 :=
      Dict.get_eq_some_iff.mpr (by rw [← show entry.1 = f.name from hname]; exact hentry)
    simp [Dict.has, hget]

/-! ### Updated nodes -/

/-- A truth value, which compares equal to a number. -/
def is_truth_value : Value → Bool
  | .bool _ => true
  | _ => false

/-- The object an update writes to the custom fields has distinct keys, as every
    dictionary has. -/
def NodeUpdate.distinct_fields (update : NodeUpdate) : Prop :=
  ∀ fields, Dict.get update.changes "extension_fields" = some (.dict fields) →
    (fields.map Prod.fst).Nodup

/-- An update writes no truth value over the number it compares equal to, nor
    the other way around. -/
def NodeUpdate.keeps_kinds (n : Node) (update : NodeUpdate) : Prop :=
  ∀ fields name v w, Dict.get update.changes "extension_fields" = some (.dict fields) →
    Dict.get n.extension_fields name = some v → fields.lookup name = some w →
    v.to_value.loosely_equal w = true → is_truth_value w = is_truth_value v.to_value

theorem str_list_of_loosely {ys : List Value} {xs : List String}
    (h : Value.sort_keys_list (Value.as_numbers_list (xs.map .str))
      = Value.sort_keys_list (Value.as_numbers_list ys)) : ys = xs.map .str := by
  induction xs generalizing ys with
  | nil =>
    cases ys with
    | nil => rfl
    | cons y ys => simp [Value.sort_keys_list, Value.as_numbers_list] at h
  | cons x xs ih =>
    cases ys with
    | nil => simp [Value.sort_keys_list, Value.as_numbers_list] at h
    | cons y ys =>
      simp only [List.map_cons, Value.as_numbers_list, Value.sort_keys_list, List.cons.injEq] at h
      rw [ih h.2]
      cases y <;> simp [Value.as_numbers, Value.sort_keys] at h
      rw [h.1, List.map_cons]

/-- Values that compare equal are of the same kind, truth values apart. -/
theorem matches_of_loosely_equal {v : ExtensionValue} {w : Value}
    (h : v.to_value.loosely_equal w = true) (hbool : is_truth_value w = is_truth_value v.to_value) :
    field_value_matches f w = field_value_matches f v.to_value := by
  simp only [Value.loosely_equal, decide_eq_true_eq] at h
  cases v with
  | text x =>
    cases w <;> simp [ExtensionValue.to_value, Value.as_numbers, Value.sort_keys] at h ⊢
    rfl
  | number q =>
    cases w <;> simp [ExtensionValue.to_value, Value.as_numbers, Value.sort_keys, is_truth_value,
      field_value_matches] at h hbool ⊢
  | boolean b =>
    cases w <;> simp [ExtensionValue.to_value, Value.as_numbers, Value.sort_keys, is_truth_value,
      field_value_matches] at h hbool ⊢
  | text_list xs =>
    cases w <;> simp only [ExtensionValue.to_value, Value.as_numbers, Value.sort_keys,
      Value.list.injEq, reduceCtorEq] at h
    rw [str_list_of_loosely h, ExtensionValue.to_value]

/-- Decoding a custom value keeps its kind. -/
theorem matches_of_decode {v : ExtensionValue} {w : Value} (h : ExtensionValue.decode w = .ok v) :
    field_value_matches f v.to_value = field_value_matches f w := by
  cases w <;> simp only [ExtensionValue.decode, Except.ok.injEq, reduceCtorEq, except_map_ok] at h
  case list xs =>
    obtain ⟨texts, htexts, rfl⟩ := h
    rw [mapM_decode_str htexts]
    rfl
  all_goals subst h; rfl

theorem decoded_entries {fields : List (String × Value)} {entries : List (String × ExtensionValue)}
    (h : fields.mapM (fun e => (ExtensionValue.decode e.2).map (fun v => (e.1, v))) = .ok entries) :
    entries.map Prod.fst = fields.map Prod.fst ∧
      ∀ x ∈ entries, ∃ w, (x.1, w) ∈ fields ∧ ExtensionValue.decode w = .ok x.2 := by
  induction fields generalizing entries with
  | nil =>
    simp only [List.mapM_nil, except_pure_ok] at h
    rw [h]
    simp
  | cons field fields ih =>
    simp only [List.mapM_cons, except_bind_ok, except_pure_ok, except_map_ok] at h
    obtain ⟨x, ⟨v, hv, rfl⟩, rest, hrest, rfl⟩ := h
    obtain ⟨hkeys, hvalues⟩ := ih hrest
    refine ⟨by simp [hkeys], fun x hx => ?_⟩
    rcases List.mem_cons.mp hx with rfl | hx
    · exact ⟨field.2, by simp, hv⟩
    · obtain ⟨w, hw, hdecode⟩ := hvalues x hx
      exact ⟨w, by simp [hw], hdecode⟩

/-- What decoding an object of distinct keys gives. -/
theorem decoded_fields {raw : Value} {d : Dict String ExtensionValue}
    (h : decode_extension_fields raw = .ok d) : ∃ fields, raw = .dict fields ∧
      ((fields.map Prod.fst).Nodup →
        (∀ name v, Dict.get d name = some v →
          ∃ w, fields.lookup name = some w ∧ ExtensionValue.decode w = .ok v) ∧
        ∀ name ∈ fields.map Prod.fst, Dict.has d name = true) := by
  cases raw <;> simp only [decode_extension_fields, reduceCtorEq] at h
  next fields =>
  simp only [except_bind_ok, except_pure_ok] at h
  obtain ⟨entries, hentries, rfl⟩ := h
  obtain ⟨hkeys, hvalues⟩ := decoded_entries hentries
  refine ⟨fields, rfl, fun hnodup => ⟨fun name v hv => ?_, fun name hname => ?_⟩⟩
  · obtain ⟨w, hw, hdecode⟩ :=
      hvalues (name, v) (Table.mem_of_mem_ofList (Dict.get_eq_some_iff.mp hv))
    obtain ⟨before, after, hsplit⟩ := List.append_of_mem hw
    refine ⟨w, List.lookup_eq_some_iff.mpr ⟨before, after, hsplit, fun x hx => ?_⟩, hdecode⟩
    -- the first entry of that key is the only one
    rw [hsplit, List.map_append, List.map_cons, List.nodup_append] at hnodup
    have hne := hnodup.2.2 x.1 (List.mem_map_of_mem hx) name (by simp)
    simpa using fun heq => hne heq.symm
  · rw [← hkeys] at hname
    obtain ⟨x, hx, rfl⟩ := List.mem_map.mp hname
    have hmem : x ∈ (Table.ofList entries).items := Table.mem_ofList (hkeys ▸ hnodup) hx
    simp [Dict.has, Dict.get_eq_some_iff.mpr hmem]

theorem with_changes_fields {mode : DecodeMode} {changes : Dict String Value}
    (h : n.with_changes mode changes = .ok m) :
    overlay changes "extension_fields" n.extension_fields decode_extension_fields
      = .ok m.extension_fields := by
  unfold Node.with_changes at h
  split at h
  · obtain ⟨title, -, h⟩ := except_bind_ok.mp h
    obtain ⟨fields, hfields, h⟩ := except_bind_ok.mp h
    obtain ⟨refs, -, h⟩ := except_bind_ok.mp h
    obtain ⟨body, -, h⟩ := except_bind_ok.mp h
    obtain rfl := except_pure_ok.mp h
    exact hfields
  · cases h

/-- What the rule of custom fields lets an update write, against the node `n` it
    was judged on. -/
theorem updated_field_matches (ho : SoundOntology s.ontology) (hnamed : custom_named n)
    (hn : NodeConforms s.ontology n) {update : NodeUpdate} {revision : Option Nat} {agent : Bool}
    {fields : List (String × Value)} {w : Value}
    (hrule : Check.Passes
      (validate_updated_extension_fields s n update.changes revision false agent) ())
    (hkeeps : update.keeps_kinds n)
    (hraw : Dict.get update.changes "extension_fields" = some (.dict fields))
    (hf : f ∈ s.ontology.fields.items) (happ : field_applies n f = true)
    (hw : fields.lookup f.name = some w) : field_value_matches f w = true := by
  simp only [validate_updated_extension_fields, hraw, Check.passes_bind, Check.exists_unit,
    Check.passes_forEach] at hrule
  have hknown := known_field_eq ho hnamed hn.base_type hf happ
  by_cases hsame : ∃ v, Dict.get n.extension_fields f.name = some v
    ∧ v.to_value.loosely_equal w = true
  · -- the value compares equal to the one the node has, and that one conforms
    obtain ⟨v, hv, hequal⟩ := hsame
    rw [matches_of_loosely_equal hequal (hkeeps fields f.name v w hraw hv hw hequal)]
    exact hn.kinds f hf happ v hv
  · have hmem : f.name ∈ fields.map Prod.fst := by
      obtain ⟨before, after, hsplit, -⟩ := List.lookup_eq_some_iff.mp hw
      simp [hsplit]
    have hchanged := hrule.1 f.name (by
      refine List.mem_filter.mpr ⟨mem_sorted_set.mpr (List.mem_append_right _ hmem), ?_⟩
      cases hv : Dict.get n.extension_fields f.name with
      | none => rfl
      | some v =>
        have hne : v.to_value.loosely_equal w = false :=
          Bool.eq_false_iff.mpr (fun hequal => hsame ⟨v, hv, hequal⟩)
        simp only [hw, hne, Bool.not_false])
    simp only [validate_changed_field, hknown, hw, validate_one_field, Check.passes_bind,
      Check.exists_unit, Check.passes_when, Bool.not_false, true_and, passes_reject, imp_false,
      not_not] at hchanged
    exact hchanged.1

theorem updated_conforms (ho : SoundOntology s.ontology) {n₀ : Node} (hnamed : custom_named n₀)
    (hn₀ : NodeConforms s.ontology n₀) {update : NodeUpdate} {revision : Option Nat} {agent : Bool}
    {mode : DecodeMode} (hrule : Check.Passes
      (validate_updated_extension_fields s n₀ update.changes revision false agent) ())
    (hdistinct : update.distinct_fields) (hkeeps : update.keeps_kinds n₀)
    (hn : NodeConforms s.ontology n) (htype : n.type = n₀.type)
    (hext : n.extension_type = n₀.extension_type)
    (h : n.with_changes mode update.changes = .ok m) : NodeConforms s.ontology m := by
  obtain ⟨-, hmtype, -, -, hmext, -⟩ := with_changes_ok h
  have hmtype : m.type = n₀.type := hmtype.trans htype
  have hmext : m.extension_type = n₀.extension_type := hmext.trans hext
  have happlies (f : OntologyFieldDefinition) : field_applies m f = field_applies n₀ f := by
    simp only [field_applies, hmtype, hmext]
  have hbase : ∀ name definition, m.extension_type = some name →
      s.ontology.types.get? name = some definition → definition.base_type = m.type := by
    rw [hmtype, hmext]
    exact hn₀.base_type
  have hfields := with_changes_fields h
  unfold overlay at hfields
  cases hraw : Dict.get update.changes "extension_fields" with
  | none =>
    -- the custom fields are the ones before
    simp only [hraw, Except.ok.injEq] at hfields
    have happlies' (f : OntologyFieldDefinition) : field_applies m f = field_applies n f := by
      rw [happlies]
      simp only [field_applies, htype, hext]
    refine ⟨hbase, fun f hf happ v hv => ?_, fun f hf happ hrequired => ?_⟩
    · exact hn.kinds f hf (happlies' f ▸ happ) v (hfields ▸ hv)
    · exact hfields ▸ hn.required f hf (happlies' f ▸ happ) hrequired
  | some raw =>
    simp only [hraw] at hfields
    obtain ⟨fields, rfl, hdecoded⟩ := decoded_fields hfields
    obtain ⟨hvalues, hkeys⟩ := hdecoded (hdistinct fields hraw)
    refine ⟨hbase, fun f hf happ v hv => ?_, fun f hf happ hrequired => ?_⟩
    · obtain ⟨w, hw, hdecode⟩ := hvalues f.name v hv
      rw [matches_of_decode hdecode]
      exact updated_field_matches ho hnamed hn₀ hrule hkeeps hraw hf (happlies f ▸ happ) hw
    · simp only [validate_updated_extension_fields, hraw, Check.passes_bind, Check.exists_unit,
        Check.passes_when, reject_missing_required, passes_reject, imp_false, ne_eq,
          not_not] at hrule
      have hmissing := hrule.2 (by simp)
      exact hkeys f.name (missing_required_nil hmissing
        (mem_applicable.mpr ⟨hf, happlies f ▸ happ⟩) hrequired)

/-! ### Changed ontologies -/

/-- The definitions that `o` has and the ontology of `s` has not are met by the
    nodes and edges that already carry them. -/
structure Introduces (s : GraphState) (o : OntologyState) : Prop where
  types : ∀ item ∈ o.types.items, s.ontology.types.get? item.name = none →
    ∀ id n, s.nodes.get? id = some n → n.extension_type = some item.name → item.base_type = n.type
  fields : ∀ f ∈ o.fields.items, s.ontology.fields.get? (f.owner_type, f.name) = none →
    ∀ id n, s.nodes.get? id = some n → field_applies n f = true →
      ∀ v, Dict.get n.extension_fields f.name = some v → field_value_matches f v.to_value = true
  relations : ∀ item ∈ o.relations.items, s.ontology.relations.get? item.name = none →
    ∀ k e, s.edges.get? k = some e → e.relation = item.name →
      edge_matches_relation s e.source e.target item = true

theorem sorted_ids_nil {nodes : List Node} (h : sorted_set (nodes.map Node.id) = []) : nodes = [] :=
  List.map_eq_nil_iff.mp (sorted_set_eq_nil.mp h)

theorem changed_ontology_node {revision : Option Nat} {id : String}
    (h : Check.Passes (validate_ontology_change s o revision) ()) (hnew : Introduces s o)
    (hn : s.nodes.get? id = some n) (hconforms : NodeConforms s.ontology n) : NodeConforms o n := by
  simp only [validate_ontology_change, Check.passes_bind, Check.exists_unit,
    Check.passes_forEach] at h
  obtain ⟨-, -, -, htypes, hfields, -⟩ := h
  have hmem : n ∈ s.nodes.items := (Table.get?_eq_some_iff.mp hn).1
  refine ⟨fun name definition hext hget => ?_, fun f hf happ v hv => ?_,
    fun f hf happ hrequired => ?_⟩
  · obtain ⟨hdefinition, hname⟩ := Table.get?_eq_some_iff.mp hget
    have hname : definition.name = name := hname
    cases hold : s.ontology.types.get? name with
    | none =>
      exact hnew.types definition hdefinition (hname ▸ hold) id n hn (hname ▸ hext)
    | some previous =>
      -- a type that stays keeps its base
      obtain ⟨hprevious, hpreviousname⟩ := Table.get?_eq_some_iff.mp hold
      have hpreviousname : previous.name = name := hpreviousname
      have hrule := htypes previous hprevious
      simp only [validate_type_remap, hpreviousname, hget, Check.passes_when, passes_reject,
        imp_false, ne_eq, not_not, Prod.mk.injEq] at hrule
      rw [hrule.1]
      exact hconforms.base_type name previous hext hold
  · have hrule := hfields f hf
    simp only [validate_field_change, Check.passes_bind, Check.exists_unit, Check.passes_when,
      passes_reject, imp_false, not_and, ne_eq, not_not] at hrule
    cases hold : s.ontology.fields.get? (f.owner_type, f.name) with
    | none => exact hnew.fields f hf hold id n hn happ v hv
    | some previous =>
      obtain ⟨hprevious, hkey⟩ := Table.get?_eq_some_iff.mp hold
      have hkey : (previous.owner_type, previous.name) = (f.owner_type, f.name) := hkey
      obtain ⟨howner, hname⟩ := Prod.mk.inj hkey
      by_cases hkind : previous.kind = f.kind
      · have hmatches := hconforms.kinds previous hprevious
          (by simpa [field_applies, howner] using happ) v (hname ▸ hv)
        simpa only [field_value_matches, hkind] using hmatches
      · -- a field that changes its kind does so only when every value allows it
        have hreadable := sorted_ids_nil (hrule.2 (by simp [hold, hkind]))
        have hnot := List.filter_eq_nil_iff.mp hreadable n (List.mem_filter.mpr ⟨hmem, happ⟩)
        simpa [hv] using hnot
  · have hrule := hfields f hf
    simp only [validate_field_change, Check.passes_bind, Check.exists_unit, Check.passes_when,
      passes_reject, imp_false, not_and, ne_eq, not_not] at hrule
    -- a field that was required already is there; one that becomes required must be
    have hbecomes
        (hwas : (s.ontology.fields.get? (f.owner_type, f.name)).any (·.required) = false) :
        Dict.has n.extension_fields f.name = true := by
      have hmissing := sorted_ids_nil (hrule.1 hrequired (by simp [hwas]))
      have hnot := List.filter_eq_nil_iff.mp hmissing n (List.mem_filter.mpr ⟨hmem, happ⟩)
      simpa using hnot
    cases hold : s.ontology.fields.get? (f.owner_type, f.name) with
    | none => exact hbecomes (by rw [hold]; rfl)
    | some previous =>
      by_cases hwas : previous.required = true
      · obtain ⟨hprevious, hkey⟩ := Table.get?_eq_some_iff.mp hold
        have hkey : (previous.owner_type, previous.name) = (f.owner_type, f.name) := hkey
        obtain ⟨howner, hname⟩ := Prod.mk.inj hkey
        exact hname ▸ hconforms.required previous hprevious
          (by simpa [field_applies, howner] using happ) hwas
      · exact hbecomes (by simp [hold, hwas])

theorem changed_ontology_edge {revision : Option Nat} {k : String} {e : Edge}
    {relation : OntologyRelationDefinition}
    (h : Check.Passes (validate_ontology_change s o revision) ()) (hnew : Introduces s o)
    (he : s.edges.get? k = some e) (hget : custom_relation o e.relation = some relation) :
    edge_matches_relation s e.source e.target relation = true := by
  simp only [validate_ontology_change, Check.passes_bind, Check.exists_unit,
    Check.passes_forEach] at h
  obtain ⟨-, -, -, -, -, hrelations⟩ := h
  obtain ⟨hrelation, hname⟩ := Table.get?_eq_some_iff.mp hget
  have hname : relation.name = e.relation := hname
  cases hold : s.ontology.relations.get? e.relation with
  | none => exact hnew.relations relation hrelation (hname ▸ hold) k e he hname.symm
  | some previous =>
    obtain ⟨hprevious, hpreviousname⟩ := Table.get?_eq_some_iff.mp hold
    have hpreviousname : previous.name = e.relation := hpreviousname
    have hget : o.relations.get? e.relation = some relation := hget
    have hrule := hrelations previous hprevious
    simp only [validate_relation_change, hpreviousname, hget, Check.passes_bind, Check.exists_unit,
      Check.passes_when, passes_reject, imp_false, ne_eq, not_not] at hrule
    have hnot := List.filter_eq_nil_iff.mp hrule.2 e
      (List.mem_filter.mpr ⟨(Table.get?_eq_some_iff.mp he).1, by simp⟩)
    simpa using hnot

/-! ### One operation -/

/-- The nodes conform to a sound ontology. -/
structure NodesConform (s : GraphState) : Prop where
  sound : SoundOntology s.ontology
  named : ∀ id n, s.nodes.get? id = some n → custom_named n
  nodes : ∀ id n, s.nodes.get? id = some n → NodeConforms s.ontology n

/-- What an operation leaves to the caller: the definitions it introduces are met
    by what carries them, and custom values keep their kind. -/
def GraphOperation.careful (s : GraphState) : GraphOperation → Prop
  | .update_nodes updates => ∀ update ∈ updates, update.distinct_fields ∧
    ∀ n, s.nodes.get? update.id = some n → update.keeps_kinds n
  | .set_ontology o => Introduces s o
  | _ => True

theorem NodeConforms.congr (h : NodeConforms o n) (htype : m.type = n.type)
    (hext : m.extension_type = n.extension_type)
    (hfields : m.extension_fields = n.extension_fields) :
    NodeConforms o m := by
  have happlies (f : OntologyFieldDefinition) : field_applies m f = field_applies n f := by
    simp only [field_applies, htype, hext]
  refine ⟨?_, fun f hf happ => ?_, fun f hf happ => ?_⟩
  · rw [htype, hext]
    exact h.base_type
  · rw [hfields]
    exact h.kinds f hf (happlies f ▸ happ)
  · rw [hfields]
    exact h.required f hf (happlies f ▸ happ)

theorem NodesConform.put {a b : GraphState} (ha : NodesConform a) (hb : b.nodes = a.nodes.put m)
    (hontology : b.ontology = a.ontology) (hnamed : custom_named m)
    (hm : NodeConforms a.ontology m) : NodesConform b := by
  have hget {id : String} {x : Node} (hx : b.nodes.get? id = some x) :
      x = m ∨ a.nodes.get? id = some x := by
    rw [hb, Table.get?_put] at hx
    split_ifs at hx
    · exact Or.inl (Option.some.inj hx).symm
    · exact Or.inr hx
  refine ⟨hontology ▸ ha.sound, fun id x hx => ?_, fun id x hx => ?_⟩
  · rcases hget hx with rfl | hx
    · exact hnamed
    · exact ha.named id x hx
  · rw [hontology]
    rcases hget hx with rfl | hx
    · exact hm
    · exact ha.nodes id x hx

variable [TextLibrary] {ctx : OpContext}

/-- The updates of one operation were all judged on the nodes before it. -/
theorem updates_conform {updates : List NodeUpdate}
    (h : JudgedAt validate_proposal ctx u (.update_nodes updates))
    (hcareful : (GraphOperation.update_nodes updates).careful u)
    (hv : updates.foldlM (update_node p false) u = .ok v) (hu : NodesConform u) :
    NodesConform v := by
  have hinv := foldlM_invariant (fun a : GraphState => a.ontology = u.ontology ∧
    ∀ id n, a.nodes.get? id = some n → NodeConforms u.ontology n ∧
      ∃ n₀, u.nodes.get? id = some n₀ ∧ n.type = n₀.type ∧ n.extension_type = n₀.extension_type)
    hv ⟨rfl, fun id n hn => ⟨hu.nodes id n hn, n, hn, rfl, rfl⟩⟩ (by
    rintro update hmem a b hab ⟨hontology, ha⟩
    obtain ⟨n, hn, m, hm, rfl⟩ := update_node_ok.mp hab
    refine ⟨hontology, fun id x hx => ?_⟩
    have hrewritten := rewritten_of_update hm
    have hid : m.id = update.id := hrewritten.id.trans (Table.key_of_get? hn)
    simp only [replace_node, Table.get?_put] at hx
    split_ifs at hx with hkey
    · obtain rfl := Option.some.inj hx
      obtain rfl : id = update.id := hkey.trans hid
      obtain ⟨hconforms, n₀, hn₀, htype, hext⟩ := ha _ n hn
      obtain ⟨-, m', hm', hmeq⟩ := updated_node_ok hm
      obtain ⟨n₁, revision, agent, hn₁, hrule⟩ := judged_extension_update h hmem
      obtain rfl := Option.some.inj (hn₀.symm.trans hn₁)
      obtain ⟨hdistinct, hkeeps⟩ := hcareful update hmem
      have hm'conforms := updated_conforms hu.sound (hu.named _ n₀ hn₀) (hu.nodes _ n₀ hn₀) hrule
        hdistinct (hkeeps n₀ hn₀) hconforms htype hext hm'
      refine ⟨?_, n₀, hn₀, hrewritten.type.trans htype, hrewritten.extension_type.trans hext⟩
      exact hm'conforms.congr (by rw [hmeq]; rfl) (by rw [hmeq]) (by rw [hmeq])
    · exact ha id x hx)
  obtain ⟨hontology, hnodes⟩ := hinv
  refine ⟨hontology ▸ hu.sound, fun id n hn name hname => ?_, fun id n hn => ?_⟩
  · obtain ⟨-, n₀, hn₀, -, hext⟩ := hnodes id n hn
    exact hu.named id n₀ hn₀ name (hext ▸ hname)
  · rw [hontology]
    exact (hnodes id n hn).1

/-- A judged change of ontology is sound and passed the rules of changes. -/
theorem judged_ontology {ontology : OntologyState}
    (h : JudgedAt validate_proposal ctx u (.set_ontology ontology))
    (hmode : ctx.mode = .admission) :
    SoundOntology ontology ∧
      ∃ revision, Check.Passes (validate_ontology_change u ontology revision) () := by
  obtain ⟨time, repositories, cited, hrule⟩ := h.structural
  simp only [structural_validate, passes_citing_none, validate_set_ontology, Check.passes_bind,
    Check.exists_unit, Check.passes_when, hmode, true_implies] at hrule
  obtain ⟨⟨hstructure, -, hchange⟩, -⟩ := hrule
  exact ⟨sound_of_structure hstructure, _, hchange⟩

theorem operation_nodes_conform (h : JudgedAt validate_proposal ctx u op)
    (hmode : ctx.mode = .admission) (hcareful : op.careful u)
    (hv : apply_operation p false u op = .ok v) (hu : NodesConform u) : NodesConform v := by
  cases op
  case update_nodes updates => exact updates_conform h hcareful hv hu
  case set_ontology ontology =>
    obtain ⟨hsound, revision, hchange⟩ := judged_ontology h hmode
    cases hv
    exact ⟨hsound, hu.named,
      fun id n hn => changed_ontology_node hchange hcareful hn (hu.nodes id n hn)⟩
  case create_nodes nodes =>
    obtain ⟨time, repositories, cited, hrule⟩ := h.structural
    refine apply_operation_invariant (fun a => a.ontology = u.ontology ∧ NodesConform a) hv
      ⟨rfl, hu⟩ ?_ |>.2
    rintro a b hab ⟨hontology, ha⟩
    cases hab with
    | create_node hmem =>
      obtain ⟨_, _, hnode⟩ := Check.passes_thread_mem hrule hmem
      simp only [validate_created_node, validate_new_node, Check.passes_bind,
        Check.exists_unit] at hnode
      obtain ⟨hnamed, hconforms⟩ := new_node_conforms (s := u.with_refresh time) hu.sound
        hnode.2.1.2.2.2.2
      refine ⟨hontology, ha.put rfl rfl hnamed ?_⟩
      rw [hontology]
      exact hconforms.congr rfl rfl rfl
  -- no other operation writes a field or an ontology, so a type keeps its fields
  all_goals
    refine apply_operation_invariant NodesConform hv hu (fun a b hab ha => ?_)
    cases hab
  case supersede_nodes.supersede_node nodes item n m hm hmem hn =>
    obtain ⟨body, hbody, rfl⟩ := superseded_node_ok hm
    refine ha.put (m := { n with body, updated_rev := p.revision, standing := kept_standing p n })
      ?_ ?_ (ha.named _ n hn)
      ((ha.nodes _ n hn).congr (superseded_type hbody) rfl rfl)
    all_goals cases item.superseded_by.filter (· ≠ "") <;> rfl
  case merge_nodes.merge_node merges item n m hm hmem hn =>
    obtain ⟨body, hbody, rfl⟩ := superseded_node_ok hm
    exact ha.put (m := { n with body, updated_rev := p.revision, standing := kept_standing p n })
      rfl rfl (ha.named _ n hn) ((ha.nodes _ n hn).congr (superseded_type hbody) rfl rfl)
  case set_standing.set_standing node_id standing n hn =>
    exact ha.put (m := { n with standing, updated_rev := p.revision }) rfl rfl (ha.named _ n hn)
      ((ha.nodes _ n hn).congr rfl rfl rfl)
  case remove_nodes.remove_nodes node_ids =>
    have hkept {id : String} {n : Node} (hn : (remove_nodes a node_ids).nodes.get? id = some n) :
        a.nodes.get? id = some n := by
      simp only [remove_nodes, Table.get?_filter, Option.filter_eq_some_iff] at hn
      exact hn.1
    exact ⟨ha.sound, fun id n hn => ha.named id n (hkept hn),
      fun id n hn => ha.nodes id n (hkept hn)⟩
  all_goals exact ⟨ha.sound, ha.named, ha.nodes⟩

/-! ### Edges -/

omit [TextLibrary] in
theorem steady_semantic_type : Steady semantic_type where
  created _ _ := rfl
  rewritten h := by rw [semantic_type, semantic_type, h.type, h.extension_type]
  reviewed _ _ _ := rfl

/-- The semantic type the rules see for `x`: the staged node's, else that of the
    last node the Patch creates under that id. -/
def seen_type (p : Patch) (s : GraphState) (x : String) : Option String :=
  ((s.nodes.get? x).map semantic_type).or (last_created semantic_type p.ops x)

omit [TextLibrary] in
theorem created_node_eq (ops : List GraphOperation) (x : String) :
    (created_node (created_nodes_of ops) x).map semantic_type
      = last_created semantic_type ops x := by
  rw [created_node, last_created, ← List.head?_filter, List.filter_reverse, List.head?_reverse,
    Option.map_map]
  rfl

omit [TextLibrary] in
/-- An edge matches a relation when the types seen at its ends are listed. -/
theorem edge_matches_iff {source target : String} {relation : OntologyRelationDefinition} :
    edge_matches_relation s source target relation (created_nodes_of p.ops) = true ↔
      ∃ a b, seen_type p s source = some a ∧ seen_type p s target = some b ∧
        a ∈ relation.source_types ∧ b ∈ relation.target_types := by
  have hseen (x : String) : seen_type p s x = ((s.nodes.get? x).orElse
      (fun _ => created_node (created_nodes_of p.ops) x)).map semantic_type := by
    rw [seen_type, ← created_node_eq]
    cases s.nodes.get? x <;> rfl
  rw [hseen, hseen]
  unfold edge_matches_relation
  cases (s.nodes.get? source).orElse (fun _ => created_node (created_nodes_of p.ops) source) <;>
    cases (s.nodes.get? target).orElse (fun _ => created_node (created_nodes_of p.ops) target) <;>
    simp

omit [TextLibrary] in
/-- Looking only at the staged graph is stricter. -/
theorem matches_with_created {source target : String} {relation : OntologyRelationDefinition}
    (h : edge_matches_relation s source target relation = true) (created : List NewNode) :
    edge_matches_relation s source target relation created = true := by
  unfold edge_matches_relation at *
  have hnone (x : String) : created_node [] x = none := rfl
  cases hsource : s.nodes.get? source <;> cases htarget : s.nodes.get? target <;>
    simp_all [Option.orElse]

omit [TextLibrary] in
/-- With both endpoints there, nothing else is looked at. -/
theorem matches_without_created {source target : String} {relation : OntologyRelationDefinition}
    {created : List NewNode} (h : edge_matches_relation s source target relation created = true)
    (hsource : s.nodes.contains source = true) (htarget : s.nodes.contains target = true) :
    edge_matches_relation s source target relation = true := by
  obtain ⟨a, ha⟩ := Table.contains_iff.mp hsource
  obtain ⟨b, hb⟩ := Table.contains_iff.mp htarget
  unfold edge_matches_relation at *
  simpa [ha, hb, Option.orElse] using h

variable {scope : List String} {settings : ValidationSettings} {binding : ExperimentBinding}
  {final : GraphState} {k : String} {e : Edge}

/-- What the rules see at an endpoint stays as long as it is not removed. -/
theorem AdmittedRun.seen_kept (h : AdmittedRun s p scope settings binding final)
    {pre post : List GraphOperation} {x : String} (hops : p.ops = pre ++ op :: post)
    (hu : run_operations p s pre = .ok u) (hv : apply_operation p false u op = .ok v)
    (hop : x ∉ removed_nodes op) (hpost : ∀ op ∈ post, x ∉ removed_nodes op) :
    seen_type p v x = seen_type p u x := by
  have hread := operation_node_reading (steady_semantic_type.under _ _) hv hop
  unfold seen_type
  rw [hread]
  cases hlast : last_created semantic_type [op] x with
  | none => rw [Option.none_or]
  | some τ =>
    -- the operation creates `x`: it was not there, and no later operation creates it
    have hcreated : x ∈ (created_nodes_of [op]).map (·.node.id) :=
      last_created_isSome.mp (by rw [hlast]; rfl)
    have habsent : u.nodes.get? x = none := by
      have hjudged := h.judged pre op post u hops hu
      cases op <;> simp [created_nodes_of, GraphOperation.created_nodes] at hcreated
      obtain ⟨raw, hraw, rfl⟩ := hcreated
      exact Table.contains_eq_false_iff.mp (judged_nodes_fresh hjudged hraw)
    have hpresent : v.nodes.contains x = true := by
      have hsome : ((v.nodes.get? x).map semantic_type).isSome = true := by
        rw [hread, hlast]
        rfl
      rwa [Option.isSome_map] at hsome
    have hsplit : p.ops = (pre ++ [op]) ++ post := by simp [hops]
    have hdone : run_operations p s (pre ++ [op]) = .ok v :=
      foldlM_append_ok.mpr ⟨u, hu, foldlM_cons_ok.mpr ⟨v, hv, rfl⟩⟩
    have hnot := h.not_recreated hsplit hdone hpresent hpost
    have hnone : last_created semantic_type post x = none := by
      rw [← Option.not_isSome_iff_eq_none, last_created_isSome]
      exact hnot
    rw [habsent, hsplit, last_created_append, last_created_append, hnone, hlast]
    rfl

/-- The edge matches its custom relation, as far as the rules of the Patch see. -/
def Joins (p : Patch) (s : GraphState) (e : Edge) : Prop :=
  ∀ relation, custom_relation s.ontology e.relation = some relation →
    edge_matches_relation s e.source e.target relation (created_nodes_of p.ops) = true

omit [TextLibrary] in
theorem Joins.congr (h : Joins p u e) (hontology : v.ontology = u.ontology)
    (hseen : ∀ x ∈ [e.source, e.target], seen_type p v x = seen_type p u x) : Joins p v e := by
  intro relation hrelation
  rw [hontology] at hrelation
  have hmatches := edge_matches_iff.mp (h relation hrelation)
  refine edge_matches_iff.mpr ?_
  rw [hseen e.source (by simp), hseen e.target (by simp)]
  exact hmatches

/-- Every operation of the Patch is careful, on the graph before it. -/
def Careful (s : GraphState) (p : Patch) : Prop :=
  ∀ pre op post u, p.ops = pre ++ op :: post → run_operations p s pre = .ok u → op.careful u

theorem AdmittedRun.nodes_conform_at (h : AdmittedRun s p scope settings binding final)
    (hcareful : Careful s p) (hs : NodesConform s) {pre post : List GraphOperation}
    (hops : p.ops = pre ++ post) (hu : run_operations p s pre = .ok u) : NodesConform u :=
  h.invariant_at hops hu (fun _ a => NodesConform a) hs
    (fun pre op post a _ hops ha hjudged hop hconforms =>
      operation_nodes_conform hjudged rfl (hcareful pre op post a hops ha) hop hconforms)

/-- An edge that stays keeps matching its relation to the end. -/
theorem AdmittedRun.joins_kept (h : AdmittedRun s p scope settings binding final)
    (hcareful : Careful s p) {done rest : List GraphOperation} (hops : p.ops = done ++ rest)
    (hu : run_operations p s done = .ok u) (he : u.edges.get? k = some e)
    (hkeep : Survives rest k e) (hjoins : Joins p u e) : Joins p final e := by
  induction rest generalizing done u with
  | nil =>
    have hrun := h.run
    rw [hops, List.append_nil] at hrun
    rw [← Except.ok.inj (hu.symm.trans hrun)]
    exact hjoins
  | cons op rest ih =>
    obtain ⟨hdrop, hrest⟩ := survives_cons.mp hkeep
    have hrun := h.run
    rw [hops] at hrun
    obtain ⟨a, ha, hrun⟩ := foldlM_append_ok.mp hrun
    obtain rfl := Except.ok.inj (hu.symm.trans ha)
    obtain ⟨v, hv, -⟩ := foldlM_cons_ok.mp hrun
    have hsplit : p.ops = (done ++ [op]) ++ rest := by simp [hops]
    have hdone : run_operations p s (done ++ [op]) = .ok v :=
      foldlM_append_ok.mpr ⟨u, hu, foldlM_cons_ok.mpr ⟨v, hv, rfl⟩⟩
    refine ih hsplit hdone (edges_kept hv he hdrop) hrest ?_
    by_cases hset : ∃ ontology, op = .set_ontology ontology
    · -- a change of ontology looks at every edge that is there
      obtain ⟨ontology, rfl⟩ := hset
      obtain ⟨-, revision, hchange⟩ := judged_ontology (h.judged done _ rest u hops hu) rfl
      cases hv
      intro relation hrelation
      exact matches_with_created (changed_ontology_edge hchange
        (hcareful done _ rest u hops hu) he hrelation) _
    · have hontology : v.ontology = u.ontology := by
        refine ontology_frame hv ?_
        cases op <;> first | rfl | exact absurd ⟨_, rfl⟩ hset
      refine hjoins.congr hontology (fun x hx => h.seen_kept hops hu hv ?_ (hrest.not_removed hx))
      exact hkeep.not_removed hx op (by simp)

/-- A new edge of a custom relation matches it, as far as its rule saw. -/
theorem judged_edge_joins {edges : List NewEdge}
    (h : JudgedAt validate_proposal ctx u (.create_edges edges)) (hsound : SoundOntology u.ontology)
    {raw : NewEdge} (hraw : raw ∈ edges) {relation : OntologyRelationDefinition}
    (hrelation : custom_relation u.ontology raw.relation = some relation) :
    edge_matches_relation u raw.source raw.target relation (created_nodes_of ctx.patch.ops)
      = true := by
  obtain ⟨hmem, hname⟩ := Table.get?_eq_some_iff.mp hrelation
  have hname : relation.name = raw.relation := hname
  have hbase : RELATION_SPEC raw.relation = none := hname ▸ hsound.relations relation hmem
  obtain ⟨time, repositories, cited, hrule⟩ := h.structural
  simp only [structural_validate, validate_create_edges, Check.passes_bind] at hrule
  obtain ⟨seen, hthread, -⟩ := hrule
  obtain ⟨_, _, hedge⟩ := Check.passes_thread_mem hthread hraw
  have hcustom : custom_relation (u.with_refresh time).ontology raw.relation = some relation :=
    hrelation
  simp only [validate_created_edge, hbase, hcustom, Check.passes_bind, Check.exists_unit,
    Check.passes_when, passes_reject, imp_false, not_not] at hedge
  exact hedge.2.2.2.1

/-- A written edge matches its relation, as far as its rule saw. -/
theorem AdmittedRun.written_joins (h : AdmittedRun s p scope settings binding final)
    (hcareful : Careful s p) (hs : NodesConform s) (a : WriteAt p s p.ops k e) :
    Joins p a.after e := by
  have hjudged := h.judged a.pre a.op a.post a.before a.split a.run
  have hsound := (h.nodes_conform_at hcareful hs a.split a.run).sound
  have happlied := a.applied
  have hwritten := a.writtenBy
  have hontology : a.after.ontology = a.before.ontology := by
    refine ontology_frame happlied ?_
    cases hop : a.op <;> simp only [hop, WrittenBy] at hwritten <;> rfl
  intro relation hrelation
  rw [hontology] at hrelation
  cases hop : a.op <;> simp only [hop, WrittenBy] at hwritten hjudged happlied
  case create_edges edges =>
    obtain ⟨raw, hraw, e₀, he₀, he⟩ := hwritten
    obtain ⟨-, -, hsource, htarget, hname, -⟩ := validated_edge_ok he₀
    simp only [he, with_derived_layer, hsource, htarget, hname] at hrelation ⊢
    have hnodes : a.after.nodes = a.before.nodes :=
      apply_operation_frame GraphState.nodes happlied (fun x y hxy => by cases hxy; rfl)
    have hmatches := judged_edge_joins hjudged hsound hraw hrelation
    unfold edge_matches_relation at hmatches ⊢
    rw [hnodes]
    exact hmatches
  all_goals
    -- lifecycle edges have base relations
    obtain ⟨hmem, hname⟩ := Table.get?_eq_some_iff.mp hrelation
    have hbase := hsound.relations relation hmem
    rw [show relation.name = e.relation from hname] at hbase
  case supersede_nodes nodes =>
    obtain ⟨item, -, target, -, he⟩ := hwritten
    rw [he] at hbase
    cases hbase
  case merge_nodes merges =>
    obtain ⟨item, -, he⟩ := hwritten
    rw [he] at hbase
    cases hbase

/-! ### Patches and runs -/

/-- No operation writes an edge of a custom relation that stays to the end to a
    node which an earlier operation of the Patch created and removed again,
    unless a later one creates that node. -/
def NoStrandedRelation (s : GraphState) (p : Patch) : Prop :=
  ∀ k e (a : WriteAt p s p.ops k e), RELATION_SPEC e.relation = none → Survives a.post k e →
    ∀ x ∈ [e.source, e.target], x ∈ (created_nodes_of a.pre).map (·.node.id) →
      a.after.nodes.contains x = true ∨ x ∈ (created_nodes_of a.post).map (·.node.id)

/-- Nodes and edges conform to a sound ontology, and an edge of a custom relation
    has both its endpoints, also while the relation is not defined. -/
structure Conforming (s : GraphState) : Prop where
  nodes : NodesConform s
  edges : ∀ k e, s.edges.get? k = some e →
    ∀ relation, custom_relation s.ontology e.relation = some relation →
      edge_matches_relation s e.source e.target relation = true
  anchored : ∀ k e, s.edges.get? k = some e → RELATION_SPEC e.relation = none →
    ∀ x ∈ [e.source, e.target], s.nodes.contains x = true

theorem AdmittedRun.conforming (h : AdmittedRun s p scope settings binding final)
    (hcareful : Careful s p) (hstranded : NoStrandedRelation s p) (hs : Conforming s) :
    Conforming final := by
  have hnodes := h.nodes_conform_at hcareful hs.nodes (List.append_nil _).symm h.run
  have hanchored : ∀ k e, final.edges.get? k = some e → RELATION_SPEC e.relation = none →
      ∀ x ∈ [e.source, e.target], final.nodes.contains x = true := by
    intro k e he hbase x hx
    rcases edge_provenance h.run he with ⟨hold, hkeep⟩ | ⟨a, ha⟩
    · exact run_node_present h.run (Or.inl (hs.anchored k e hold hbase x hx)) (hkeep.not_removed hx)
    · exact h.endpoint_present a ha hx (hstranded k e a hbase ha x hx)
  refine ⟨hnodes, fun k e he relation hrelation => ?_, hanchored⟩
  have hbase : RELATION_SPEC e.relation = none := by
    obtain ⟨hmem, hname⟩ := Table.get?_eq_some_iff.mp hrelation
    rw [← show relation.name = e.relation from hname]
    exact hnodes.sound.relations relation hmem
  -- what the rules saw when the edge was first there still holds at the end
  have hjoins : Joins p final e := by
    rcases edge_provenance h.run he with ⟨hold, hkeep⟩ | ⟨a, ha⟩
    · refine h.joins_kept hcareful (List.nil_append _).symm rfl hold hkeep ?_
      exact fun relation hrelation => matches_with_created (hs.edges k e hold relation hrelation) _
    · have hafter : run_operations p s (a.pre ++ [a.op]) = .ok a.after :=
        foldlM_append_ok.mpr ⟨a.before, a.run, foldlM_cons_ok.mpr ⟨a.after, a.applied, rfl⟩⟩
      have hsplit : p.ops = (a.pre ++ [a.op]) ++ a.post := by
        rw [List.append_assoc, List.singleton_append]
        exact a.split
      exact h.joins_kept hcareful hsplit hafter a.stored ha (h.written_joins hcareful hs.nodes a)
  have hends := hanchored k e he hbase
  exact matches_without_created (hjoins relation hrelation) (hends _ (by simp)) (hends _ (by simp))

omit [TextLibrary] in
/-- The second pass and the stamps leave types, fields and endpoints alone. -/
theorem Conforming.committed (h : Conforming u) (ids : List String) :
    Conforming (stamp_patch p (rederive_layers u ids)) := by
  obtain ⟨edges, hframe⟩ := rederive_layers_frame (s := u) ids
  have hnodes : (stamp_patch p (rederive_layers u ids)).nodes = u.nodes := by rw [hframe]; rfl
  have hontology : (stamp_patch p (rederive_layers u ids)).ontology = u.ontology := by
    rw [hframe]
    rfl
  have hedge {k : String} {e : Edge}
      (he : (stamp_patch p (rederive_layers u ids)).edges.get? k = some e) :
      ∃ e₀, u.edges.get? k = some e₀ ∧ e.relation = e₀.relation ∧ e.source = e₀.source ∧
        e.target = e₀.target := by
    have he : (rederive_layers u ids).edges.get? k = some e := he
    rw [rederive_layers_get?] at he
    split_ifs at he
    · obtain ⟨e₀, he₀, rfl⟩ := Option.map_eq_some_iff.mp he
      exact ⟨e₀, he₀, rfl, rfl, rfl⟩
    · exact ⟨e, he, rfl, rfl, rfl⟩
  refine ⟨⟨hontology ▸ h.nodes.sound, hnodes ▸ h.nodes.named, ?_⟩, ?_, ?_⟩
  · rw [hnodes, hontology]
    exact h.nodes.nodes
  · intro k e he relation hrelation
    obtain ⟨e₀, he₀, hname, hsource, htarget⟩ := hedge he
    rw [hontology, hname] at hrelation
    have hmatches := h.edges k e₀ he₀ relation hrelation
    unfold edge_matches_relation at hmatches ⊢
    rw [hnodes, hsource, htarget]
    exact hmatches
  · intro k e he hbase x hx
    obtain ⟨e₀, he₀, hname, hsource, htarget⟩ := hedge he
    rw [hnodes]
    rw [hsource, htarget] at hx
    exact h.anchored k e₀ he₀ (hname ▸ hbase) x hx

variable [Canonical]

/-- A committed Patch that introduces only definitions that are met, keeps the
    kinds of custom values, and strands no edge of a custom relation. -/
def CommitsCarefully (s t : GraphState) : Prop :=
  ∃ p, Commits s p t ∧ Careful s p ∧ NoStrandedRelation s p

theorem CommitsCarefully.conforming (h : CommitsCarefully s t) (hs : Conforming s) :
    Conforming t := by
  obtain ⟨p, hcommit, hcareful, hstranded⟩ := h
  obtain ⟨scope, settings, binding, final, hrun, rfl⟩ := hcommit.run
  exact (hrun.conforming hcareful hstranded hs).committed (stored_edge_ids p.ops)

omit [TextLibrary] [Canonical] in
theorem empty_conforming : Conforming {} := by
  have hsound : SoundOntology ({} : GraphState).ontology := by
    refine ⟨?_, ?_, ?_, ?_⟩ <;> intro item hitem <;> cases hitem
  have hnode (id : String) (n : Node) (h : ({} : GraphState).nodes.get? id = some n) : False := by
    cases h
  have hedge (k : String) (e : Edge) (h : ({} : GraphState).edges.get? k = some e) : False := by
    cases h
  exact ⟨⟨hsound, fun id n h => (hnode id n h).elim, fun id n h => (hnode id n h).elim⟩,
    fun k e h => (hedge k e h).elim, fun k e h => (hedge k e h).elim⟩

/-- In every graph that careful Patches reach from the empty one, nodes and edges
    meet every definition of the current ontology. -/
theorem ontology_conformance (h : Relation.ReflTransGen CommitsCarefully {} s) : Conforms s := by
  have hconforming : Conforming s := by
    induction h with
    | refl => exact empty_conforming
    | tail _ hstep ih => exact hstep.conforming ih
  exact ⟨hconforming.nodes.nodes, hconforming.edges⟩

end

open scoped Reference

/-- An ontology with one field for Decisions. -/
def risk_ontology (kind : FieldKind) (deprecated : Bool) : OntologyState where
  fields := Table.ofList [{
    owner_type := "decision", name := "risk", definition := "How risky.", kind, deprecated }]

def risk_patch (revision : Nat) (o : OntologyState) : Patch :=
  Reference.human_patch revision [.set_ontology o]

def risky_decision : NewNode :=
  { Reference.decision "dec/d" ["left", "right"] with
    node := { (Reference.decision "dec/d" ["left", "right"]).node with
      extension_fields := Table.ofList [("risk", .text "high")] } }

def risky_patch : Patch := Reference.agent_patch 2 [.create_nodes [risky_decision]]

def risk_graph : GraphState :=
  Reference.result (apply_valid_patch {} (risk_patch 1 (risk_ontology .text false)))

def risky_graph : GraphState := Reference.result (apply_valid_patch risk_graph risky_patch)

/-- The graph after one more change of the ontology. -/
def changed_graph (s : GraphState) (revision : Nat) (o : OntologyState) : GraphState :=
  Reference.result (apply_valid_patch s (risk_patch revision o))

def deprecated_graph : GraphState := changed_graph risky_graph 3 (risk_ontology .text true)

def removed_graph : GraphState := changed_graph deprecated_graph 4 {}

def returned_graph : GraphState := changed_graph removed_graph 5 (risk_ontology .number false)

theorem no_written_edge {p : Patch} {s : GraphState} {k : String} {e : Edge}
    (hops : ∀ op ∈ p.ops, written_edge_ids op = []) (a : WriteAt p s p.ops k e) : False := by
  have hop : a.op ∈ p.ops := by simp [a.split]
  have hwritten := a.written
  rw [hops a.op hop] at hwritten
  cases hwritten

theorem risk_introduced : CommitsCarefully {} risk_graph := by
  refine ⟨risk_patch 1 (risk_ontology .text false),
    ⟨["main"], {}, {}, by decide, Reference.eq_ok_result (by decide)⟩, ?_, ?_⟩
  · intro pre op post u hops hu
    have hpre : pre = [] := by
      cases pre with
      | nil => rfl
      | cons x xs => simp [risk_patch, Reference.human_patch] at hops
    subst hpre
    cases hu
    obtain ⟨rfl, -⟩ := List.cons.inj hops
    -- the empty graph carries nothing
    refine ⟨?_, ?_, ?_⟩ <;> intro _ _ _ _ _ h <;> cases h
  · intro k e a
    refine (no_written_edge ?_ a).elim
    decide

/-- A text in a text field meets the ontology. -/
theorem risky_graph_conforms : Conforms risky_graph := by
  have hcreated : CommitsCarefully risk_graph risky_graph := by
    refine ⟨risky_patch, ⟨["main"], {}, {}, by decide, Reference.eq_ok_result (by decide)⟩, ?_, ?_⟩
    · intro pre op post u hops _
      have hmem : op ∈ risky_patch.ops := by simp [hops]
      obtain rfl := List.mem_singleton.mp hmem
      trivial
    · intro k e a
      refine (no_written_edge ?_ a).elim
      decide
  exact ontology_conformance ((Relation.ReflTransGen.single risk_introduced).tail hcreated)

/-- A field that is deprecated, removed and added back with another kind leaves a
    Decision whose text is now read as a number. -/
theorem returned_field_mismatch :
    Commits {} (risk_patch 1 (risk_ontology .text false)) risk_graph ∧
      Commits risk_graph risky_patch risky_graph ∧
      Commits risky_graph (risk_patch 3 (risk_ontology .text true)) deprecated_graph ∧
      Commits deprecated_graph (risk_patch 4 {}) removed_graph ∧
      Commits removed_graph (risk_patch 5 (risk_ontology .number false)) returned_graph ∧
      ¬ Conforms returned_graph := by
  refine ⟨⟨["main"], {}, {}, by decide, Reference.eq_ok_result (by decide)⟩,
    ⟨["main"], {}, {}, by decide, Reference.eq_ok_result (by decide)⟩,
    ⟨["main"], {}, {}, by decide, Reference.eq_ok_result (by decide)⟩,
    ⟨["main"], {}, {}, by decide, Reference.eq_ok_result (by decide)⟩,
    ⟨["main"], {}, {}, by decide, Reference.eq_ok_result (by decide)⟩, fun hconforms => ?_⟩
  have hkind := (hconforms.nodes "dec/d" _ rfl).kinds _ (List.mem_singleton.mpr rfl) rfl
    (.text "high") rfl
  cases hkind

end ResearchGraph
