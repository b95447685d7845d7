import ResearchGraph.Decode
import ResearchGraph.Report

/-! # Project ontology (`rcp/core/ontology.py`)

    Structure and change rules of the custom ontology, the custom fields of
    nodes, and the derived layer of an edge.
-/

namespace ResearchGraph

open Lib

/-- `BASE_TYPE_LAYERS` -/
def BASE_TYPE_LAYERS : NodeType → OntologyLayer
  | .research_question | .hypothesis | .evidence => .epistemic
  | .decision | .experiment | .blocker => .action

/-- `BASE_FIELD_NAMES`: the declared fields of every typed node. -/
def BASE_FIELD_NAMES : List String :=
  base_node_fields ++ ALL_NODE_TYPES.flatMap typed_node_fields

def OntologyLayer.name : OntologyLayer → String
  | .epistemic => "epistemic"
  | .action => "action"

def FieldKind.name : FieldKind → String
  | .text => "text"
  | .number => "number"
  | .boolean => "boolean"
  | .text_list => "text_list"

/-- The names of the base types. -/
def base_type_names : List String := ALL_NODE_TYPES.map NodeType.name

/-! ### Structure -/

/-- The custom types of one ontology avoid base names and keep their base's layer. -/
def validate_type_definition (revision : Option Nat) (item : OntologyTypeDefinition) :
    Rule Unit := do
  Check.when (item.name ∈ base_type_names) (reject "base-ontology-collision"
    s!"Custom type {repr_str item.name} collides with an immutable base type." revision)
  let expected_layer := BASE_TYPE_LAYERS item.base_type
  Check.when (item.layer ≠ expected_layer) (reject "invalid-base-mapping"
    (s!"Custom type {repr_str item.name} specializes {repr_str item.base_type.name} and must use "
      ++ s!"its {repr_str expected_layer.name} layer.") revision)

def validate_field_definition (known_types : List String) (revision : Option Nat)
    (item : OntologyFieldDefinition) : Rule Unit := do
  Check.when (item.owner_type ∉ known_types) (reject "unknown-ontology-owner"
    s!"Field {item.owner_type}.{item.name} has no known owner type." revision)
  Check.when (item.name ∈ BASE_FIELD_NAMES) (reject "base-ontology-collision"
    s!"Custom field {item.owner_type}.{item.name} collides with an immutable base field." revision)

/-- The names of the fields an ontology declares for an owner type. -/
def fields_by_owner (ontology : OntologyState) (owner : String) : List String :=
  (ontology.fields.items.filter (fun f => f.owner_type = owner)).map (·.name)

def validate_inherited_fields (ontology : OntologyState) (revision : Option Nat)
    (item : OntologyTypeDefinition) : Rule Unit :=
  let inherited_collisions := (fields_by_owner ontology item.name).filter
    (fun name => name ∈ fields_by_owner ontology item.base_type.name)
  Check.when (inherited_collisions ≠ []) (reject "ontology-field-collision"
    (s!"Custom type {repr_str item.name} redeclares inherited project fields: "
      ++ s!"{repr_list (sorted_set inherited_collisions)}.") revision)

def validate_relation_definition (known_types : List String) (revision : Option Nat)
    (item : OntologyRelationDefinition) : Rule Unit := do
  Check.when ((RELATION_SPEC item.name).isSome) (reject "base-ontology-collision"
    s!"Custom relation {repr_str item.name} collides with an immutable base relation." revision)
  Check.when (¬ item.source_types.Nodup ∨ ¬ item.target_types.Nodup)
    (reject "duplicate-relation-endpoint-type"
      s!"Custom relation {repr_str item.name} repeats an endpoint type." revision)
  let unknown := sorted_diff (item.source_types ++ item.target_types) known_types
  Check.when (unknown ≠ []) (reject "unknown-relation-type"
    s!"Custom relation {repr_str item.name} names unknown endpoint types: {repr_list unknown}."
    revision)

def validate_ontology_structure (ontology : OntologyState) (revision : Option Nat) :
    Rule Unit := do
  let known_types := base_type_names ++ ontology.types.keys
  Check.forEach ontology.types.items (validate_type_definition revision)
  Check.forEach ontology.fields.items (validate_field_definition known_types revision)
  Check.forEach ontology.types.items (validate_inherited_fields ontology revision)
  Check.forEach ontology.relations.items (validate_relation_definition known_types revision)

/-! ### Lookups -/

def custom_relation (ontology : OntologyState) (name : String) :
    Option OntologyRelationDefinition := ontology.relations.get? name

def ontology_type (ontology : OntologyState) (name : Option String) :
    Option OntologyTypeDefinition := name.bind ontology.types.get?

/-- The custom type of a node, or its base type. -/
def semantic_type (n : Node) : String := n.extension_type.getD n.type.name

/-- Later created nodes win over earlier ones of the same id. -/
def created_node (created_nodes : List NewNode) (id : String) : Option Node :=
  (created_nodes.reverse.find? (fun raw => raw.node.id = id)).map NewNode.node

def edge_matches_relation (s : GraphState) (source_id target_id : String)
    (relation : OntologyRelationDefinition) (created_nodes : List NewNode := []) : Bool :=
  match (s.nodes.get? source_id).orElse (fun _ => created_node created_nodes source_id),
      (s.nodes.get? target_id).orElse (fun _ => created_node created_nodes target_id) with
  | some source, some target =>
    relation.source_types.contains (semantic_type source)
      && relation.target_types.contains (semantic_type target)
  | _, _ => false

def applicable_field_definitions (ontology : OntologyState) (base_type : String)
    (extension_type : Option String) : List OntologyFieldDefinition :=
  ontology.fields.items.filter
    (fun f => f.owner_type = base_type ∨ some f.owner_type = extension_type)

def field_applies (n : Node) (field : OntologyFieldDefinition) : Bool :=
  field.owner_type = n.type.name || some field.owner_type = n.extension_type

def field_value_matches (field : OntologyFieldDefinition) : Value → Bool
  | .str _ => field.kind = .text
  | .int _ | .float _ => field.kind = .number
  | .bool _ => field.kind = .boolean
  | .list xs => field.kind = .text_list && xs.all (fun | .str _ => true | _ => false)
  | _ => false

/-- The common layer of two node types, or `seam` across layers. -/
def layer_between (source target : NodeType) : RelationLayer :=
  if BASE_TYPE_LAYERS source = BASE_TYPE_LAYERS target then
    (BASE_TYPE_LAYERS source).relation_layer
  else .seam

/-- Resolve the layer of one edge from the nodes it connects.  A declared `meta` is kept, and
    an endpoint that is not there yet leaves the declared layer. -/
def edge_layer (s : GraphState) (source_id target_id : String) (declared : RelationLayer) :
    RelationLayer :=
  if declared = .«meta» then declared
  else match s.nodes.get? source_id, s.nodes.get? target_id with
    | some source, some target => layer_between source.type target.type
    | _, _ => declared

/-! ### Changes -/

def require_deprecation_before_removal {α κ : Type} [Keyed α κ] [DecidableEq κ]
    (label : String) (previous desired : Table α) (deprecated : α → Bool) (repr : κ → String)
    (revision : Option Nat) : Rule Unit :=
  let removed := previous.items.filter (fun item => !desired.contains (Keyed.key item))
  Check.forEach (removed.insertionSort (fun a b => repr (Keyed.key a) ≤ repr (Keyed.key b)))
    fun item => Check.when (¬ deprecated item) (reject "ontology-removal-without-deprecation"
      (s!"Ontology {label} {repr (Keyed.key item)} must be deprecated in an earlier "
        ++ "revision before removal.") revision)

def ids_or_none (ids : List String) : List String := if ids.isEmpty then ["none"] else ids

def validate_type_remap (s : GraphState) (desired : OntologyState) (revision : Option Nat)
    (previous : OntologyTypeDefinition) : Rule Unit :=
  match desired.types.get? previous.name with
  | none => pure ()
  | some current =>
    let blockers := sorted_set ((s.nodes.items.filter
      (fun n => n.extension_type = some previous.name)).map Node.id)
    Check.when ((current.base_type, current.layer) ≠ (previous.base_type, previous.layer))
      (reject "ontology-type-remap"
        (s!"Custom type {repr_str previous.name} cannot change its base mapping; "
          ++ s!"implicated nodes: {repr_list (ids_or_none blockers)}.") revision blockers)

def validate_field_change (s : GraphState) (revision : Option Nat)
    (current : OntologyFieldDefinition) : Rule Unit := do
  let previous := s.ontology.fields.get? (current.owner_type, current.name)
  let applicable := s.nodes.items.filter (fun n => field_applies n current)
  let missing := sorted_set ((applicable.filter
    (fun n => !Dict.has n.extension_fields current.name)).map Node.id)
  Check.when (current.required ∧ ¬ previous.any (·.required) ∧ missing ≠ [])
    (reject "required-field-breaks-existing-nodes"
      (s!"Field {current.owner_type}.{current.name} cannot become required; missing on "
        ++ s!"nodes: {repr_list missing}.") revision missing)
  let unreadable := sorted_set ((applicable.filter (fun n =>
    (Dict.get n.extension_fields current.name).any
      (fun v => !field_value_matches current v.to_value))).map Node.id)
  Check.when (previous.any (fun p => p.kind ≠ current.kind) ∧ unreadable ≠ [])
    (reject "field-kind-breaks-existing-nodes"
      (s!"Field {current.owner_type}.{current.name} cannot change to {current.kind.name}; "
        ++ s!"implicated nodes: {repr_list unreadable}.") revision unreadable)

/-- The sorted endpoints of some edges. -/
def endpoint_ids (edges : List Edge) : List String :=
  sorted_set (edges.flatMap (fun e => [e.source, e.target]))

def validate_relation_change (s : GraphState) (desired : OntologyState) (revision : Option Nat)
    (previous : OntologyRelationDefinition) : Rule Unit :=
  match desired.relations.get? previous.name with
  | none => pure ()
  | some current => do
    let used := s.edges.items.filter (fun e => e.relation = previous.name)
    let used_ids := sorted_set (used.map Edge.id)
    Check.when (previous.layer ≠ current.layer ∧ used ≠ [])
      (reject "relation-layer-breaks-existing-edges"
        (s!"Relation {repr_str previous.name} cannot change layer while used by edges: "
          ++ s!"{repr_list used_ids}.") revision (endpoint_ids used) used_ids)
    let excluded := used.filter (fun e => !edge_matches_relation s e.source e.target current)
    let excluded_ids := sorted_set (excluded.map Edge.id)
    Check.when (excluded ≠ []) (reject "relation-narrowing-breaks-existing-edges"
      (s!"Relation {repr_str previous.name} cannot exclude existing edges "
        ++ s!"{repr_list excluded_ids}; implicated nodes: {repr_list (endpoint_ids excluded)}.")
      revision (endpoint_ids excluded) excluded_ids)

def validate_ontology_change (s : GraphState) (desired : OntologyState) (revision : Option Nat) :
    Rule Unit := do
  require_deprecation_before_removal "type" s.ontology.types desired.types (·.deprecated)
    repr_str revision
  require_deprecation_before_removal "field" s.ontology.fields desired.fields (·.deprecated)
    (fun k => "(" ++ repr_str k.1 ++ ", " ++ repr_str k.2 ++ ")") revision
  require_deprecation_before_removal "relation" s.ontology.relations desired.relations
    (·.deprecated) repr_str revision
  Check.forEach s.ontology.types.items (validate_type_remap s desired revision)
  Check.forEach desired.fields.items (validate_field_change s revision)
  Check.forEach s.ontology.relations.items (validate_relation_change s desired revision)

/-! ### Custom fields of nodes -/

def validate_one_field (node_id : String) (definition : OntologyFieldDefinition) (value : Value)
    (revision : Option Nat) (authoring agent_authored check_kind : Bool) : Rule Unit := do
  let label := definition.owner_type ++ "." ++ definition.name
  Check.when (check_kind ∧ ¬ field_value_matches definition value)
    (reject "invalid-extension-field-kind"
      s!"Field {label} on {repr_str node_id} must be {definition.kind.name}." revision [node_id])
  Check.when (authoring ∧ definition.deprecated) (reject "deprecated-extension-field"
    s!"Field {label} is deprecated and cannot be written." revision [node_id])
  Check.when (authoring ∧ agent_authored ∧ ¬ definition.agent_writable)
    (reject "extension-field-human-only"
      s!"Field {label} may only be written by a human." revision [node_id])

/-- The last definition of that name, as a dictionary built in order keeps it. -/
def known_field (definitions : List OntologyFieldDefinition) (name : String) :
    Option OntologyFieldDefinition := definitions.reverse.find? (fun d => d.name = name)

/-- The required fields that `present` does not name, sorted. -/
def missing_required (definitions : List OntologyFieldDefinition) (present : List String) :
    List String :=
  ((definitions.filter (fun d => d.required && !present.contains d.name)).map
    (·.name)).insertionSort (· ≤ ·)

def reject_missing_required (node_id : String) (missing : List String) (revision : Option Nat) :
    Rule Unit :=
  Check.when (missing ≠ []) (reject "missing-required-extension-field"
    s!"Node {repr_str node_id} is missing required extension fields: {repr_list missing}."
    revision [node_id])

def validate_extension_fields (node_id : String) (fields : Dict String ExtensionValue)
    (definitions : List OntologyFieldDefinition) (revision : Option Nat)
    (authoring agent_authored structural : Bool) : Rule Unit := do
  let unknown := sorted_diff fields.keys (definitions.map (·.name))
  Check.when (structural ∧ unknown ≠ []) (reject "unknown-extension-field"
    s!"Node {repr_str node_id} uses undefined extension fields: {repr_list unknown}."
    revision [node_id])
  Check.forEach fields.items fun entry =>
    match known_field definitions entry.1 with
    | none => pure ()
    | some definition => validate_one_field node_id definition entry.2.to_value revision
        authoring agent_authored structural
  Check.when structural
    (reject_missing_required node_id (missing_required definitions fields.keys) revision)

def validate_extension_type (s : GraphState) (n : Node) (name : String) (revision : Option Nat)
    (authoring : Bool) : Rule Unit :=
  match authoring, ontology_type s.ontology (some name) with
  | false, none => reject "unknown-extension-type"
      s!"Node {repr_str n.id} uses unknown custom type {repr_str name}." revision
  | false, some definition => Check.when (definition.base_type ≠ n.type)
      (reject "invalid-extension-base"
        (s!"Custom type {repr_str name} maps to {repr_str definition.base_type.name}, not "
          ++ s!"{repr_str n.type.name}.") revision)
  | true, some definition => Check.when definition.deprecated
      (reject "deprecated-extension-type"
        s!"Custom type {repr_str name} is deprecated and cannot author new nodes." revision)
  | true, none => pure ()

def validate_new_node_extensions (s : GraphState) (n : Node) (revision : Option Nat)
    (authoring agent_authored : Bool) : Rule Unit := do
  (match n.extension_type with
    | none => pure ()
    | some name => validate_extension_type s n name revision authoring)
  validate_extension_fields n.id n.extension_fields
    (applicable_field_definitions s.ontology n.type.name n.extension_type) revision
    authoring agent_authored (!authoring)

/-- One changed custom field of an update. -/
def validate_changed_field (n : Node) (fields : List (String × Value))
    (definitions : List OntologyFieldDefinition) (revision : Option Nat)
    (authoring agent_authored : Bool) (name : String) : Rule Unit :=
  match known_field definitions name with
  | none => Check.when (¬ authoring) (reject "unknown-extension-field"
      s!"Node {repr_str n.id} cannot change undefined extension field {repr_str name}."
      revision [n.id])
  | some definition => match fields.lookup name with
    | none => pure ()
    | some value => validate_one_field n.id definition value revision authoring agent_authored
        (!authoring)

def validate_updated_extension_fields (s : GraphState) (n : Node) (changes : Dict String Value)
    (revision : Option Nat) (authoring agent_authored : Bool) : Rule Unit :=
  match Dict.get changes "extension_fields" with
  | some (.dict fields) => do
    let definitions :=
      applicable_field_definitions s.ontology n.type.name n.extension_type
    let changed := (sorted_set (n.extension_fields.keys ++ fields.map Prod.fst)).filter
      (fun name => match Dict.get n.extension_fields name, fields.lookup name with
        | some v, some w => !v.to_value.loosely_equal w
        | _, _ => true)
    Check.forEach changed
      (validate_changed_field n fields definitions revision authoring agent_authored)
    Check.when (¬ authoring) (reject_missing_required n.id
      (missing_required definitions (fields.map Prod.fst)) revision)
  | _ => pure ()

end ResearchGraph
