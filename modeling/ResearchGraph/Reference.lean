import ResearchGraph.Lib.Digest
import ResearchGraph.Validation.Patch

/-! # Concrete parameters

    The development is generic in the text library and in the digest.  The
    instances here compute, so that a result can be run on a concrete graph:
    texts are plain ASCII, and the digest is the collision-free text of the
    canonical document.
-/

namespace ResearchGraph

open Lib

namespace Reference

/-- Lower case, with runs of white space collapsed. -/
def normalized_text (s : String) : String :=
  String.intercalate " "
    (((s.toList.map Char.toLower).splitOnP is_space).filter (· ≠ [])
      |>.map String.ofList)

/-- Text processing on plain ASCII texts: none of them holds an identifier, and
    two of them are similar only when they are equal. -/
scoped instance plainText : TextLibrary where
  normalize_grounding_text := normalized_text
  findall_identifiers _ := []
  similar a b := a = b

/-- A list of documents under a key. -/
def entries {α : Type} (key : String) (fields : α → List (String × Value)) (xs : List α) :
    List (String × Value) :=
  [(key, .list (xs.map (fun x => .dict (fields x))))]

/-- What tells an operation from others of its kind: the ids it names and what it
    says of them.  An ontology is not shown. -/
def operation_payload : GraphOperation → List (String × Value)
  | .create_nodes nodes => entries "nodes" (fun n => [("id", .str n.node.id),
      ("type", .str n.node.type.name), ("title", .str n.node.title)]) nodes
  | .update_nodes nodes =>
    entries "nodes" (fun u => [("id", .str u.id), ("changes", .dict u.changes.items)]) nodes
  | .create_edges edges => entries "edges" (fun e => [("source", .str e.source),
      ("target", .str e.target), ("relation", .str e.relation),
      ("explanation", .str e.explanation)]) edges
  | .remove_edges edge_ids => [("edge_ids", str_list edge_ids)]
  | .remove_nodes node_ids => [("node_ids", str_list node_ids)]
  | .supersede_nodes nodes => entries "nodes" (fun n => [("id", .str n.id),
      ("superseded_by", opt_str n.superseded_by), ("explanation", .str n.explanation)]) nodes
  | .merge_nodes merges => entries "merges" (fun m => [("duplicate", .str m.duplicate),
      ("canonical", .str m.canonical), ("explanation", .str m.explanation)]) merges
  | .create_ambiguities ambiguities =>
    entries "ambiguities" (fun a => [("id", .str a.id), ("question", .str a.question)]) ambiguities
  | .resolve_ambiguities resolutions => entries "resolutions" (fun r => [("id", .str r.id),
      ("resolved", .bool (r.status = .resolved))]) resolutions
  | .create_proposals proposals => entries "proposals" (fun q => [("id", .str q.id),
      ("title", .str q.title), ("intents", str_list (q.ops.map (·.intent))),
      ("related_node_ids", str_list q.related_node_ids),
      ("related_edge_ids", str_list q.related_edge_ids)]) proposals
  | .resolve_proposals resolutions => entries "resolutions" (fun r => [("id", .str r.id),
      ("approved", .bool (r.status = .approved)), ("rejected", .bool (r.status = .rejected)),
      ("reason", opt_str r.reason)]) resolutions
  | .withdraw_proposals proposals =>
    entries "proposals" (fun q => [("id", .str q.id), ("reason", .str q.reason)]) proposals
  | .upsert_glossary terms => entries "terms" (fun t => [("term", .str t.term),
      ("plain_definition", .str t.plain_definition), ("where_defined", opt_str t.where_defined)])
      terms
  | .set_coverage coverage => [("sessions_read", opt_json str_list coverage.sessions_read),
      ("sessions_skipped", opt_json str_list coverage.sessions_skipped),
      ("note", opt_str coverage.note)]
  | .set_standing node_id standing =>
    [("node_id", .str node_id), ("standing", .str (literal_name Standing.names standing))]
  | .set_project_truth_scope truth_scope repository => [("truth_scope", str_list truth_scope),
      ("repository", opt_str (repository.map (·.path)))]
  | .set_ontology _ => []

def operation_document (op : GraphOperation) : Value :=
  .dict (("op", .str op.op) :: operation_payload op)

/-- The canonical text of a document is its own digest. -/
scoped instance plainCanonical : Canonical where
  sha256 := Value.digest
  operation_document := operation_document

/-- The graph a successful application reaches. -/
def result (x : Applied GraphState) : GraphState :=
  match x with
  | .ok t => t
  | .error _ => {}

theorem eq_ok_result {x : Applied GraphState} (h : x.isOk = true) : x = .ok (result x) := by
  cases x with
  | ok t => rfl
  | error e => cases h

theorem exists_ok {α : Type} {x : Applied α} (h : x.isOk = true) : ∃ a, x = .ok a := by
  cases x with
  | ok a => exact ⟨a, rfl⟩
  | error e => cases h

/-! ### Sample Patches -/

/-- A chat Patch of an agent that read the one repository `main`. -/
def agent_patch (revision : Nat) (ops : List GraphOperation) : Patch where
  revision := revision
  kind := .chat
  author := some .agent
  producer := .agent
  created_at := { year := 2025, month := 1, day := 1 }
  summary := "agent"
  ops := ops
  run_truth_scope := ["main"]
  repositories_read := ["main"]

/-- A human approval Patch. -/
def human_patch (revision : Nat) (ops : List GraphOperation) : Patch where
  revision := revision
  kind := .approval
  author := some .human
  producer := .human
  created_at := { year := 2025, month := 1, day := 1 }
  summary := "human"
  ops := ops

/-- A ResearchQuestion to create. -/
def question (id : String) : NewNode where
  node := { id, title := id, body := .research_question { question := "Why?" } }

/-- A Blocker to create. -/
def blocker (id : String) : NewNode where
  node := { id, title := id, body := .blocker { description := "Stuck." } }

/-- A Decision to create. -/
def decision (id : String) (options : List String) : NewNode where
  node := { id, title := id, body := .decision { question := "Which?", options } }

end Reference

end ResearchGraph
