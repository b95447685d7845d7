import ResearchGraph.Lib.Document
import ResearchGraph.Encode
import ResearchGraph.Materialize
import Mathlib.Data.List.Lex
import Mathlib.Data.String.Basic

/-! # Semantic documents and write paths of a merge (`rcp/runs/branch_merge.py`)

    A merge compares graphs as documents: the dumps of their objects without the
    revision and operation-id bookkeeping.  The paths in which the branch differs
    from its base bound what the merge may write, and the paths in which the
    branch and main both left the base are the conflicts it may resolve freely.

    A path that ends in `$` names everything at or below the rest of it.
-/

namespace ResearchGraph

open Lib

/-! ### Documents of objects -/

/-- How the source dumps the operations of a Proposal; the dump leaves out what
    the author of an operation did not supply. -/
class OperationDump where
  dump : ProposalOperation → Value

def RelationLayer.name : RelationLayer → String
  | .epistemic => "epistemic"
  | .action => "action"
  | .seam => "seam"
  | .«meta» => "meta"

def Relevance.name : Relevance → String
  | .direct => "direct"
  | .indirect => "indirect"
  | .contextual => "contextual"

def Weight.name : Weight → String
  | .limited => "limited"
  | .moderate => "moderate"
  | .strong => "strong"

def AmbiguityStatus.name : AmbiguityStatus → String
  | .open => "open"
  | .resolved => "resolved"
  | .dismissed => "dismissed"

def ProposalStatus.name : ProposalStatus → String
  | .pending => "pending"
  | .approved => "approved"
  | .rejected => "rejected"
  | .withdrawn => "withdrawn"

/-- The fields of a typed body, with the discriminator. -/
def NodeBody.document : NodeBody → List (String × Value)
  | .research_question b =>
    [("type", .str "research_question"), ("question", .str b.question),
      ("motivation", .str b.motivation), ("scope", .str b.scope),
      ("status", .str (literal_name QuestionStatus.names b.status))]
  | .hypothesis b =>
    [("type", .str "hypothesis"), ("statement", .str b.statement),
      ("rationale", .str b.rationale), ("predictions", str_list b.predictions),
      ("scope", .str b.scope), ("status", .str (literal_name HypothesisStatus.names b.status))]
  | .decision b =>
    [("type", .str "decision"), ("question", .str b.question), ("options", str_list b.options),
      ("selected_option", opt_str b.selected_option), ("rationale", opt_str b.rationale),
      ("consequences", str_list b.consequences),
      ("status", .str (literal_name DecisionStatus.names b.status))]
  | .experiment b =>
    [("type", .str "experiment"), ("objective", .str b.objective), ("design", .str b.design),
      ("expected_outcomes", str_list b.expected_outcomes),
      ("interpretation_rules", str_list b.interpretation_rules),
      ("completion_criteria", str_list b.completion_criteria),
      ("invocation_ceiling", .int b.invocation_ceiling),
      ("status", .str (literal_name ExperimentStatus.names b.status)),
      ("attempts", .list (b.attempts.map ExperimentAttempt.to_json)),
      ("current_summary", .str b.current_summary), ("next_action", opt_str b.next_action),
      ("current_summary_stale", .bool b.current_summary_stale),
      ("next_action_stale", .bool b.next_action_stale)]
  | .evidence b =>
    [("type", .str "evidence"), ("observation", .str b.observation),
      ("interpretation", .str b.interpretation),
      ("role", .str (literal_name EvidenceRole.names b.role)),
      ("legacy_strength",
        opt_str (b.legacy_strength.map (literal_name LegacyStrength.names))),
      ("validity", .str (literal_name EvidenceValidity.names b.validity)),
      ("origin", .str (literal_name EvidenceOrigin.names b.origin)),
      ("artifact_refs", str_list b.artifact_refs)]
  | .blocker b =>
    [("type", .str "blocker"), ("description", .str b.description),
      ("blocker_type", .str (literal_name BlockerType.names b.blocker_type)),
      ("status", .str (literal_name BlockerStatus.names b.status)),
      ("resolution_condition", .str b.resolution_condition),
      ("recommended_action", opt_str b.recommended_action)]

/-- A node without `created_rev` and `updated_rev`. -/
def Node.document (n : Node) : Value :=
  .dict ([("id", .str n.id), ("title", .str n.title),
    ("extension_type", opt_str n.extension_type),
    ("extension_fields", extension_object n.extension_fields),
    ("standing", .str (literal_name Standing.names n.standing)),
    ("source_refs", .list (n.source_refs.map SourceRef.to_json))] ++ n.body.document)

def EvidenceAssessment.document (a : EvidenceAssessment) : Value :=
  .dict [("relevance", .str a.relevance.name), ("weight", .str a.weight.name),
    ("scope", opt_str a.scope), ("qualifications", str_list a.qualifications)]

/-- An edge without `created_rev`. -/
def Edge.document (e : Edge) : Value :=
  .dict [("id", .str e.id), ("source", .str e.source), ("target", .str e.target),
    ("relation", .str e.relation), ("layer", .str e.layer.name),
    ("explanation", .str e.explanation),
    ("assessment", opt_json EvidenceAssessment.document e.assessment)]

def GatedCard.document (c : GatedCard) : Value :=
  .dict [("situation_cold", .str c.situation_cold), ("why_human_now", .str c.why_human_now),
    ("consequences", .str c.consequences), ("decision_needed", .str c.decision_needed)]

/-- A Proposal without its revisions and operation ids. -/
def Proposal.document [OperationDump] (q : Proposal) : Value :=
  .dict [("id", .str q.id), ("title", .str q.title), ("card", q.card.document),
    ("ops", .list (q.ops.map OperationDump.dump)),
    ("related_node_ids", str_list q.related_node_ids),
    ("related_edge_ids", str_list q.related_edge_ids),
    ("related_config_keys", str_list q.related_config_keys),
    ("status", .str q.status.name),
    ("created_by", .str (match q.created_by with | .agent => "agent" | .human => "human")),
    ("resolved_by", opt_str (q.resolved_by.map (fun
      | .agent => "agent"
      | .human => "human"))),
    ("resolution_reason", opt_str q.resolution_reason),
    ("rejection_reason", opt_str q.rejection_reason)]

/-- An ambiguity without `raised_rev`. -/
def Ambiguity.document (a : Ambiguity) : Value :=
  .dict [("id", .str a.id), ("question", .str a.question),
    ("why_it_matters", .str a.why_it_matters), ("candidates", str_list a.candidates),
    ("related_node_ids", str_list a.related_node_ids),
    ("artifact_refs", str_list a.artifact_refs), ("status", .str a.status.name)]

/-- A glossary term without `updated_rev`. -/
def GlossaryTerm.document (t : GlossaryTerm) : Value :=
  .dict [("term", .str t.term), ("plain_definition", .str t.plain_definition),
    ("where_defined", opt_str t.where_defined)]

def OntologyTypeDefinition.document (d : OntologyTypeDefinition) : Value :=
  .dict [("name", .str d.name), ("definition", .str d.definition),
    ("base_type", .str d.base_type.name), ("layer", .str d.layer.relation_layer.name),
    ("deprecated", .bool d.deprecated)]

def OntologyFieldDefinition.document (d : OntologyFieldDefinition) : Value :=
  .dict [("owner_type", .str d.owner_type), ("name", .str d.name),
    ("definition", .str d.definition), ("kind", .str d.kind.name),
    ("required", .bool d.required), ("agent_writable", .bool d.agent_writable),
    ("deprecated", .bool d.deprecated)]

def OntologyRelationDefinition.document (d : OntologyRelationDefinition) : Value :=
  .dict [("name", .str d.name), ("definition", .str d.definition),
    ("source_types", str_list d.source_types), ("target_types", str_list d.target_types),
    ("layer", .str d.layer.relation_layer.name), ("deprecated", .bool d.deprecated)]

def OntologyState.document (o : OntologyState) : Value :=
  .dict [("types", .list (o.types.items.map OntologyTypeDefinition.document)),
    ("fields", .list (o.fields.items.map OntologyFieldDefinition.document)),
    ("relations", .list (o.relations.items.map OntologyRelationDefinition.document))]

def CoverageBoundary.document (c : CoverageBoundary) : Value :=
  .dict [("repositories_seen", str_list c.repositories_seen),
    ("repositories_never_seen", str_list c.repositories_never_seen),
    ("sessions_read", str_list c.sessions_read),
    ("sessions_skipped", str_list c.sessions_skipped),
    ("earliest_timestamp", opt_json Datetime.to_json c.earliest_timestamp),
    ("note", .str c.note)]

/-! ### The document of a graph -/

/-- The parts of a graph that a merge compares. -/
inductive SemanticField
  | nodes
  | edges
  | proposals
  | ambiguities
  | glossary
  | project_truth_scope
  | ontology
  | coverage
  deriving DecidableEq, Repr

def SemanticField.name : SemanticField → String
  | .nodes => "nodes"
  | .edges => "edges"
  | .proposals => "proposals"
  | .ambiguities => "ambiguities"
  | .glossary => "glossary"
  | .project_truth_scope => "project_truth_scope"
  | .ontology => "ontology"
  | .coverage => "coverage"

/-- The maps from ids to objects. -/
def COLLECTIONS : List SemanticField := [.nodes, .edges, .proposals, .ambiguities, .glossary]

/-- The records of the graph as a whole. -/
def GLOBALS : List SemanticField := [.project_truth_scope, .ontology, .coverage]

section
variable [OperationDump]

/-- `_graph_semantic_document`, one part at a time. -/
def GraphState.part (s : GraphState) : SemanticField → Value
  | .nodes => .dict (s.nodes.items.map (fun n => (n.id, n.document)))
  | .edges => .dict (s.edges.items.map (fun e => (e.id, e.document)))
  | .proposals => .dict (s.proposals.items.map (fun q => (q.id, q.document)))
  | .ambiguities => .dict (s.ambiguities.items.map (fun a => (a.id, a.document)))
  | .glossary => .dict (s.glossary.items.map (fun t => (t.term, t.document)))
  | .project_truth_scope => str_list s.project_truth_scope
  | .ontology => s.ontology.document
  | .coverage => s.coverage.document

def graph_semantic_document (s : GraphState) : Value :=
  .dict ((COLLECTIONS ++ GLOBALS).map (fun f => (f.name, s.part f)))

end

/-! ### Write paths -/

abbrev SemanticWritePath := List String

/-- The last part of a path that stands for everything below the others. -/
def WHOLE : String := "$"

/-- The path of a value that is present on one side only. -/
def one_sided_path (path : SemanticWritePath) (v : Value) : SemanticWritePath :=
  if v.is_dict then path ++ [WHOLE] else path

/-- The paths under the keys that only `after` has. -/
def added_write_paths (path : SemanticWritePath) (before after : List (String × Value)) :
    List SemanticWritePath :=
  (after.filter (fun e => (before.lookup e.1).isNone)).map
    (fun e => one_sided_path (path ++ [e.1]) e.2)

mutual
/-- `_document_write_paths` -/
def document_write_paths (path : SemanticWritePath) : Value → Value → List SemanticWritePath
  | .dict xs, .dict ys =>
    if (Value.dict xs).loosely_equal (.dict ys) then []
    else entry_write_paths path xs ys ++ added_write_paths path xs ys
  | x, y => if x.loosely_equal y then [] else [path]

/-- The paths under the keys of `before`. -/
def entry_write_paths (path : SemanticWritePath) :
    List (String × Value) → List (String × Value) → List SemanticWritePath
  | [], _ => []
  | (k, x) :: xs, ys =>
    (match ys.lookup k with
      | none => [one_sided_path (path ++ [k]) x]
      | some y => document_write_paths (path ++ [k]) x y) ++ entry_write_paths path xs ys
end

/-- The entries of an object. -/
def entries : Value → List (String × Value)
  | .dict d => d
  | _ => []

/-- The paths in which one collection differs. -/
def collection_write_paths (collection : String) (old new : List (String × Value)) :
    List SemanticWritePath :=
  old.flatMap (fun e => match new.lookup e.1 with
    | none => [[collection, e.1, WHOLE]]
    | some y => document_write_paths [collection, e.1] e.2 y)
  ++ (new.filter (fun e => (old.lookup e.1).isNone)).map (fun e => [collection, e.1, WHOLE])

/-- The paths in which one record of the whole graph differs. -/
def global_write_paths (field : String) (old new : Value) : List SemanticWritePath :=
  if old.is_dict && new.is_dict then document_write_paths [field] old new
  else if old.loosely_equal new then []
  else [[field, WHOLE]]

/-- `_graph_semantic_write_paths` -/
def graph_semantic_write_paths [OperationDump] (before after : GraphState) :
    List SemanticWritePath :=
  COLLECTIONS.flatMap (fun f =>
    collection_write_paths f.name (entries (before.part f)) (entries (after.part f)))
  ++ GLOBALS.flatMap (fun f => global_write_paths f.name (before.part f) (after.part f))

/-- A path without its final mark. -/
def unmarked (path : SemanticWritePath) : SemanticWritePath :=
  if path.getLast? = some WHOLE then path.dropLast else path

/-- `_semantic_path_covers` -/
def semantic_path_covers (rule path : SemanticWritePath) : Bool :=
  if rule.getLast? = some WHOLE then path.take (rule.length - 1) == rule.dropLast
  else rule == path

/-- `_semantic_path_authorizes_declared_write` -/
def semantic_path_authorizes_declared_write (allowed declared : SemanticWritePath) : Bool :=
  semantic_path_covers allowed declared
    || (unmarked allowed).take declared.length == declared

/-- `_semantic_path_value`; nothing stands for a position the document lacks. -/
def semantic_path_value (document : Value) (path : SemanticWritePath) : Option Value :=
  document.at_path (unmarked path)

/-- `_declared_bookkeeping_sensitive_write_paths` -/
def declared_bookkeeping_sensitive_write_paths : GraphOperation → List SemanticWritePath
  | .update_nodes updates =>
    updates.flatMap (fun u => u.changes.keys.map (fun k => ["nodes", u.id, k]))
  | .set_standing node_id _ => [["nodes", node_id, "standing"]]
  | _ => []

/-! ### Conflicts -/

inductive ConflictCode
  | both_changed
  | branch_created_main_created
  | branch_removed_main_changed
  | branch_changed_main_removed
  deriving DecidableEq, Repr

structure BranchMergeConflict where
  code : ConflictCode
  collection : SemanticField
  entity_id : Option String := none
  field_path : String
  base : Value
  branch : Value
  main : Value
  message : String
  deriving DecidableEq

/-- The three values of a field that the branch and main both changed, and its
    path as a dotted text. -/
structure FieldConflict where
  field_path : String
  base : Value
  branch : Value
  main : Value

/-- Two of three values are equal. -/
def two_agree (base branch main : Value) : Bool :=
  base.loosely_equal branch || base.loosely_equal main || branch.loosely_equal main

/-- `f"{prefix}.{key}" if prefix else key` -/
def dotted (text key : String) : String := if text = "" then key else text ++ "." ++ key

/-- `dict.get`: an absent key reads as null. -/
def got (d : List (String × Value)) (k : String) : Value := (d.lookup k).getD .null

/-- The conflict at a field whose values are not all objects. -/
def leaf_conflict (text : String) (base branch main : Value) : List FieldConflict :=
  if two_agree base branch main then []
  else [⟨if text = "" then WHOLE else text, base, branch, main⟩]

/-- Findings under one key; the keys of an object are visited in order. -/
def by_key (groups : List (String × List FieldConflict)) : List FieldConflict :=
  (groups.insertionSort (fun a b => a.1 ≤ b.1)).flatMap Prod.snd

/-- The keys of the other two objects that `base` lacks. -/
def later_keys (base branch main : List (String × Value)) : List String :=
  ((branch ++ main).map Prod.fst).dedup.filter (fun k => (base.lookup k).isNone)

mutual
/-- `_conflicting_fields` -/
def conflicting_fields (text : String) : Value → Value → Value → List FieldConflict
  | .dict xs, .dict ys, .dict zs =>
    if two_agree (.dict xs) (.dict ys) (.dict zs) then []
    else by_key (entry_conflicts text xs ys zs ++ (later_keys xs ys zs).map
      (fun k => (k, leaf_conflict (dotted text k) .null (got ys k) (got zs k))))
  | base, branch, main => leaf_conflict text base branch main

/-- The conflicts under each key of `base`. -/
def entry_conflicts (text : String) :
    List (String × Value) → List (String × Value) → List (String × Value) →
      List (String × List FieldConflict)
  | [], _, _ => []
  | (k, x) :: xs, ys, zs =>
    (k, conflicting_fields (dotted text k) x (got ys k) (got zs k)) :: entry_conflicts text xs ys zs
end

/-- `_conflict` -/
def conflict (code : ConflictCode) (collection : SemanticField) (identity field_path : String)
    (base branch main : Value) : BranchMergeConflict where
  code
  collection
  entity_id := some identity
  field_path
  base
  branch
  main
  message := s!"Branch and main changed {collection.name}/{identity} at {field_path} " ++
    "differently from the base."

/-- An absent object as a value. -/
def or_null (v : Option Value) : Value := v.getD .null

/-- The conflicts of one object of a collection. -/
def object_conflicts (collection : SemanticField) (identity : String)
    (base branch main : Option Value) : List BranchMergeConflict :=
  let whole (code : ConflictCode) : List BranchMergeConflict :=
    [conflict code collection identity WHOLE (or_null base) (or_null branch) (or_null main)]
  if Value.same_or_absent base branch then []
  else match base, branch, main with
    | none, _, none => []
    | none, branch, some main =>
      if Value.same_or_absent (some main) branch then [] else whole .branch_created_main_created
    | some _, none, none => []
    | some base, none, some main =>
      if main.loosely_equal base then [] else whole .branch_removed_main_changed
    | some _, some _, none => whole .branch_changed_main_removed
    | some base, some branch, some main =>
      (conflicting_fields "" base branch main).map (fun c =>
        conflict .both_changed collection identity c.field_path c.base c.branch c.main)

/-- `_collection_conflicts` -/
def collection_conflicts (collection : SemanticField) (base branch main : List (String × Value)) :
    List BranchMergeConflict :=
  (sorted_set ((base ++ branch).map Prod.fst)).flatMap (fun identity =>
    object_conflicts collection identity (base.lookup identity) (branch.lookup identity)
      (main.lookup identity))

/-- The conflicts in one record of the whole graph. -/
def global_conflicts (field : SemanticField) (base branch main : Value) :
    List BranchMergeConflict :=
  (conflicting_fields field.name base branch main).map (fun c =>
    { code := .both_changed, collection := field, field_path := c.field_path, base := c.base,
      branch := c.branch, main := c.main,
      message := s!"Branch and main changed {c.field_path} differently from the base." })

def detect_branch_merge_conflicts [OperationDump] (base branch main : GraphState) :
    List BranchMergeConflict :=
  COLLECTIONS.flatMap (fun f => collection_conflicts f (entries (base.part f))
    (entries (branch.part f)) (entries (main.part f)))
  ++ GLOBALS.flatMap (fun f => global_conflicts f (base.part f) (branch.part f) (main.part f))

/-- `text.split(".")` -/
def split_dots : List Char → List (List Char)
  | [] => [[]]
  | c :: cs =>
    if c = '.' then [] :: split_dots cs
    else match split_dots cs with
      | [] => [[c]]
      | word :: words => (c :: word) :: words

/-- The parts of a dotted path that are not empty. -/
def path_parts (text : String) : List String :=
  ((split_dots text.toList).map String.ofList).filter (· ≠ "")

/-- A path that names nothing more than its object names all of it. -/
def or_whole (parts : List String) : List String := if parts = [] then [WHOLE] else parts

/-- The path a conflict names, without the mark its values may add. -/
def BranchMergeConflict.named_path (c : BranchMergeConflict) : SemanticWritePath :=
  let parts := path_parts c.field_path
  match c.entity_id with
  | none =>
    c.collection.name ::
      or_whole (if parts.head? = some c.collection.name then parts.tail else parts)
  | some identity => c.collection.name :: identity :: or_whole parts

def BranchMergeConflict.path (c : BranchMergeConflict) : SemanticWritePath :=
  let path := c.named_path
  if path.getLast? ≠ some WHOLE ∧ (c.base.is_dict ∨ c.branch.is_dict ∨ c.main.is_dict) then
    path ++ [WHOLE]
  else path

/-- `_branch_conflict_paths` -/
def branch_conflict_paths (conflicts : List BranchMergeConflict) : List SemanticWritePath :=
  conflicts.map BranchMergeConflict.path

/-! ### Conformance of a merge -/

/-- The graph snapshots of a merge context; its conflicts are computed from them. -/
structure BranchMergeGraphs where
  base_graph : GraphState
  branch_graph : GraphState
  main_graph : GraphState

section
variable [OperationDump]

def BranchMergeGraphs.allowed (g : BranchMergeGraphs) : List SemanticWritePath :=
  graph_semantic_write_paths g.base_graph g.branch_graph

def BranchMergeGraphs.deterministic_conflicts (g : BranchMergeGraphs) :
    List BranchMergeConflict :=
  detect_branch_merge_conflicts g.base_graph g.branch_graph g.main_graph

/-- A conflict lets the merge choose at this path. -/
def BranchMergeGraphs.left_out (g : BranchMergeGraphs) (path : SemanticWritePath) : Bool :=
  (branch_conflict_paths g.deterministic_conflicts).any (fun c => semantic_path_covers c path)

/-- The paths at which the result must have the branch's value. -/
def BranchMergeGraphs.mandatory (g : BranchMergeGraphs) : List SemanticWritePath :=
  g.allowed.filter (fun path => !g.left_out path)

/-- `_render_semantic_path` -/
def render_semantic_path (path : SemanticWritePath) : String :=
  String.intercalate "/" (unmarked path)

/-- The first eight paths of a set, in order. -/
def rendered (paths : List SemanticWritePath) : String :=
  comma_join (((paths.dedup.insertionSort (· ≤ ·)).take 8).map render_semantic_path)

/-- `BranchMergeSemanticConflict`, or an index outside the Patch. -/
abbrev Conformed (α : Type) := Except String α

/-- The indexes of the initiating operations, in order. -/
def initiating_indexes (trace : TransitionTrace) : List Nat :=
  (trace.initiating_groups.flatMap (·.operation_indexes)).insertionSort (· ≤ ·)

/-- The prepared Patch with one of its operations alone. -/
def one_action (prepared : Patch) (operation : GraphOperation) : Patch :=
  { prepared with ops := [operation], transition := none }

/-- `prepared.ops[operation_index]` -/
def initiating_operation (prepared : Patch) (operation_index : Nat) : Conformed GraphOperation :=
  match prepared.ops[operation_index]? with
  | none => .error "list index out of range"
  | some operation => .ok operation

/-- One operation replayed on the timeline. -/
def replay_action (prepared : Patch) (timeline : GraphState) (operation_index : Nat)
    (operation : GraphOperation) : Conformed GraphState :=
  match apply_valid_patch timeline (one_action prepared operation) with
  | .error e =>
    .error s!"Prepared branch merge action {operation_index} could not be replayed: {e.text}"
  | .ok next_state => .ok next_state

/-- One initiating operation applied to the timeline and checked against the branch delta. -/
def conform_action (allowed : List SemanticWritePath) (prepared : Patch) (timeline : GraphState)
    (operation_index : Nat) : Conformed GraphState := do
  let operation ← initiating_operation prepared operation_index
  let undeclared := (declared_bookkeeping_sensitive_write_paths operation).filter
    (fun path => !allowed.any (fun rule => semantic_path_authorizes_declared_write rule path))
  if undeclared ≠ [] then
    .error ("Branch merge candidate declares writes outside the source branch delta: "
      ++ rendered undeclared)
  else
    let next_state ← replay_action prepared timeline operation_index operation
    let unexpected := (graph_semantic_write_paths timeline next_state).filter
      (fun path => !allowed.any (fun rule => semantic_path_covers rule path))
    if unexpected ≠ [] then
      .error ("Branch merge candidate writes outside the source branch delta: "
        ++ rendered unexpected)
    else return next_state

/-- The state the initiating operations reach from main, checked step by step. -/
def conform_timeline (allowed : List SemanticWritePath) (prepared : Patch)
    (trace : TransitionTrace) (current_main : GraphState) : Conformed GraphState :=
  (initiating_indexes trace).foldlM (conform_action allowed prepared) current_main

/-- The mandatory paths at which the result does not have the branch's value. -/
def missing_paths (g : BranchMergeGraphs) (graph : GraphState) : List SemanticWritePath :=
  g.mandatory.filter (fun path => !decide (Value.same_or_absent
    (semantic_path_value (graph_semantic_document g.branch_graph) path)
    (semantic_path_value (graph_semantic_document graph) path)))

def validate_branch_merge_candidate_conformance (context : BranchMergeGraphs)
    (current_main : GraphState) (prepared : Patch) (graph : GraphState) : Conformed Unit :=
  match prepared.transition with
  | none => .error "Prepared branch merge has no transition trace."
  | some trace => do
    let _ ← conform_timeline context.allowed prepared trace current_main
    let missing := missing_paths context graph
    if missing ≠ [] then
      .error ("Branch merge candidate omits non-conflicting source changes: " ++ rendered missing)
    else return ()

end

end ResearchGraph
