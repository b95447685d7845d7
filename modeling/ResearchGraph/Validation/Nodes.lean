import ResearchGraph.Authority
import ResearchGraph.Ontology

/-! # Node rules (`rcp/core/validation/nodes.py`)

    Rules for created and updated nodes, and the source references they cite.
-/

namespace ResearchGraph

open Lib

/-- Text processing of the Python standard library that the rules call: NFKC
    and case folding, regular-expression search and sequence matching.  Every
    result below holds for any implementation. -/
class TextLibrary where
  /-- `" ".join(unicodedata.normalize("NFKC", value).casefold().split())` -/
  normalize_grounding_text : String → String
  /-- `IDENTIFIER_RE.findall(text)` -/
  findall_identifiers : String → List String
  /-- `SequenceMatcher(None, a, b).ratio() >= 0.78` -/
  similar : String → String → Bool

variable [TextLibrary]

/-! ### Slugs -/

/-- `NODE_PREFIXES` -/
def NODE_PREFIXES : NodeType → String
  | .research_question => "rq"
  | .hypothesis => "hyp"
  | .decision => "dec"
  | .experiment => "exp"
  | .evidence => "ev"
  | .blocker => "blk"

/-- `[a-z0-9]` -/
def slug_char (c : Char) : Bool := ('a' ≤ c && c ≤ 'z') || ('0' ≤ c && c ≤ '9')

/-- One or more words of slug characters joined by `separator`. -/
def slug_words (separator : Char) (cs : List Char) : Bool :=
  (cs.splitOn separator).all (fun word => !word.isEmpty && word.all slug_char)

/-- `SLUG_RE.fullmatch(node_id)` -/
def slug_matches (node_id : String) : Bool :=
  match node_id.toList.splitOn '/' with
  | [kind, name] =>
    slug_words '_' kind && kind.head?.any (fun c => 'a' ≤ c && c ≤ 'z') && slug_words '-' name
  | _ => false

/-- `text.split("/", 1)` when there is a slash. -/
def split_slug (text : String) : Option (String × String) :=
  let cs := text.toList
  if '/' ∈ cs then
    some (String.ofList (cs.takeWhile (· ≠ '/')), String.ofList ((cs.dropWhile (· ≠ '/')).drop 1))
  else none

/-- The prefix a node of this type must use. -/
def expected_prefix (n : Node) : String := n.extension_type.getD (NODE_PREFIXES n.type)

def has_prefix (expected node_id : String) : Bool :=
  (expected ++ "/").toList.isPrefixOf node_id.toList

/-! ### Source references -/

/-- `older(left, right)`; comparing a naive with an aware time raises. -/
def older : Option Datetime → Option Datetime → Except PyError (Option Datetime)
  | none, right => .ok right
  | left, none => .ok left
  | some left, some right =>
    if left.comparable right then .ok (some (if right.instant < left.instant then right else left))
    else .error (.type_error "can't compare offset-naive and offset-aware datetimes")

/-- One cited source reference. -/
def validate_source_ref (p : Patch) (oldest : Option Datetime) (item : Decoded SourceRef) :
    Rule (Option Datetime) :=
  match item with
  | .error message => do
    reject "invalid-source-ref" s!"Source reference is malformed: {message}." p.revision_label
    return oldest
  | .ok ref => do
    Check.when (p.kind ≠ .approval ∧ ref.truth_repository ∉ p.run_truth_scope)
      (reject "source-outside-run-scope"
        s!"Source reference uses {repr_str ref.truth_repository} outside this run scope."
        p.revision_label)
    Check.when (p.kind ≠ .approval ∧ ref.truth_repository ∉ p.repositories_read)
      (reject "unread-source-repository"
        (s!"Source reference uses {repr_str ref.truth_repository}, but the patch did not "
          ++ "record reading it.") p.revision_label)
    Check.lift (older oldest (some ref.timestamp))

def oldest_source_ref (p : Patch) (source_refs : List (Decoded SourceRef)) :
    Rule (Option Datetime) :=
  Check.thread (validate_source_ref p) none source_refs

/-- `for item in value`: what a raw value yields when it is iterated. -/
def iterate : Value → Except PyError (List Value)
  | .list xs => .ok xs
  | .dict xs => .ok (xs.map (fun e => .str e.1))
  | .str s => .ok (s.toList.map (fun c => .str (String.ofList [c])))
  | .null => .error (.type_error "'NoneType' object is not iterable")
  | .bool _ => .error (.type_error "'bool' object is not iterable")
  | .int _ => .error (.type_error "'int' object is not iterable")
  | .float _ => .error (.type_error "'float' object is not iterable")

/-- The source references of a raw change set, each decoded on its own. -/
def raw_source_refs (value : Option Value) : Except PyError (List (Decoded SourceRef)) := do
  let items ← iterate (value.getD (.list []))
  return items.map (SourceRef.decode .lax)

/-! ### Grounded scope -/

/-- The text a scope or excerpt is compared as; the typed model has refused
    every other kind of value. -/
def text_of : Value → String
  | .str s => s
  | _ => ""

def validate_grounded_scope (node_id scope : String) (excerpts : List String)
    (revision : Option Nat) : Rule Unit :=
  let scope := TextLibrary.normalize_grounding_text scope
  let grounded := excerpts.any (fun excerpt =>
    (TextLibrary.normalize_grounding_text excerpt).toList.tails.any (scope.toList.isPrefixOf ·))
  Check.when (scope ≠ "" ∧ ¬ grounded) (reject "ungrounded-hypothesis-scope"
    (s!"Hypothesis scope for {repr_str node_id} is not explicitly present in a cited source "
      ++ "excerpt.") revision [node_id])

/-- The excerpts of raw source references. -/
def raw_excerpts (items : List Value) : List String :=
  items.filterMap (fun
    | .dict d => some (text_of ((d.lookup "excerpt").getD (.str "")))
    | _ => none)

/-! ### Created nodes -/

def validate_new_node (s : GraphState) (p : Patch) (n : Node) : Rule Unit := do
  let revision := p.revision_label
  Check.when (s.nodes.contains n.id) (reject "duplicate-node-id"
    s!"Node {repr_str n.id} already exists; use update_nodes." revision)
  Check.when (¬ slug_matches n.id) (reject "malformed-slug"
    s!"Malformed node slug {repr_str n.id}." revision)
  let slug := expected_prefix n
  Check.when (¬ has_prefix slug n.id) (reject "wrong-slug-prefix"
    (s!"Node {repr_str n.id} must use the {slug}/ prefix for type "
      ++ s!"{repr_str (n.extension_type.getD n.type.name)}.") revision)
  Check.when (n.standing ≠ .asserted ∧ p.kind ≠ .approval) (reject "agent-created-trusted-node"
    "Agent-created nodes must start asserted." revision)
  validate_new_node_extensions s n revision false false

/-- The first existing node of the same prefix and a similar name is flagged. -/
def flag_possible_duplicate (node_id : String) (revision : Option Nat) :
    List String → Rule Unit
  | [] => pure ()
  | existing :: rest =>
    match split_slug existing with
    | none => Check.raise (.value_error "not enough values to unpack (expected 2, got 1)")
    | some (existing_pre, existing_suffix) =>
      let (pre, suffix) := (split_slug node_id).getD ("", node_id)
      if pre = existing_pre ∧ TextLibrary.similar suffix existing_suffix then
        flag "possible-duplicate"
          s!"{node_id} may duplicate {existing}; review rather than merge automatically." revision
      else flag_possible_duplicate node_id revision rest

/-- How a Decision may start. -/
def validate_new_decision (p : Patch) (node_id : String) (d : Decision) : Rule Unit :=
  let revision := p.revision_label
  if d.status = .revisit then
    reject "incoherent-decision-creation"
      s!"Decision {repr_str node_id} cannot start revisit because it has no prior decision."
      revision [node_id]
  else if d.selected_option.isSome ∨ d.status = .decided then
    reject "agent-created-decision-action"
      (s!"New Decision {repr_str node_id} cannot use decide_decision; selected_option and "
        ++ "status decided are written only by the human Decision choice action.")
      revision [node_id]
  else if d.status ≠ .open ∧ d.status ≠ .ready then
    reject "agent-created-decision-action"
      s!"New Decision {repr_str node_id} must start open or ready." revision [node_id]
  else Check.when (¬ permits p .queue_decision) (reject "agent-created-decision-action"
    s!"Agent-created Decision {repr_str node_id} is not permitted to use queue_decision."
    revision [node_id])

/-- The authoring rules of a new node that depend on its type. -/
def validate_new_body_authoring (p : Patch) (raw : NewNode) : Rule Unit :=
  let n := raw.node
  let revision := p.revision_label
  match n.body with
  | .evidence _ => Check.when ("origin" ∉ raw.fields_set) (reject "missing-evidence-origin"
      s!"New Evidence node {repr_str n.id} must explicitly supply origin." revision [n.id])
  | .hypothesis h => do
    Check.when (h.scope ≠ "")
      (validate_grounded_scope n.id h.scope (n.source_refs.map (·.excerpt)) revision)
    Check.when (p.author = some .agent ∧ h.status ≠ .proposed)
      (reject "agent-created-belief-transition"
        s!"Agent-created Hypothesis {repr_str n.id} must start proposed." revision [n.id])
  | .decision d => validate_new_decision p n.id d
  | _ => pure ()

def validate_new_node_authoring (s : GraphState) (p : Patch) (raw : NewNode) : Rule Unit := do
  validate_new_node_extensions s raw.node p.revision_label true (p.author = some .agent)
  validate_new_body_authoring p raw
  flag_possible_duplicate raw.node.id p.revision_label s.nodes.keys

/-! ### Updated nodes -/

/-- Whether an update of a Hypothesis moves its status. -/
def changes_status (h : Hypothesis) (changes : Dict String Value) : Bool :=
  (Dict.get changes "status").any
    (fun v => !(Value.str (literal_name HypothesisStatus.names h.status)).loosely_equal v)

/-- `"selected_option" in changes or changes.get("status") == "decided"` -/
def writes_outcome (changes : Dict String Value) : Bool :=
  Dict.has changes "selected_option" || Dict.get changes "status" = some (.str "decided")

def requires_proposal (n : Node) (changes : Dict String Value) : Bool :=
  match n.body with
  | .hypothesis h => changes_status h changes
  | .decision _ => writes_outcome changes
  | _ => false

def validate_updated_node_authoring (n : Node) (changes : Dict String Value)
    (revision : Option Nat) : Rule Unit :=
  match n.body, (Dict.get changes "scope").filter Value.truthy with
  | .hypothesis _, some scope => do
    let excerpts ← (match Dict.get changes "source_refs" with
      | none => pure (n.source_refs.map (·.excerpt))
      | some refs => do
        let items ← Check.lift (iterate refs)
        return raw_excerpts items)
    validate_grounded_scope n.id (text_of scope) excerpts revision
  | _, _ => pure ()

def validate_extension_update (s : GraphState) (p : Patch) (n : Node)
    (changes : Dict String Value) (authoring : Bool) : Rule Unit :=
  validate_updated_extension_fields s n changes p.revision_label authoring
    (p.author = some .agent)

end ResearchGraph
