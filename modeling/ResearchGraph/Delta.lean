import ResearchGraph.Replay
import Mathlib.Algebra.Ring.Nat

/-! # The refresh delta (`rcp/history/delta.py`)

    `build_refresh_delta` condenses an accepted history into a bounded index of
    routing entries.  The standing of the nodes is reconstructed by scanning the
    operations of the log (`standing_transition_entries`), without looking at the
    graph the same operations materialize.
-/

namespace ResearchGraph

open Lib

/-! ### Entries -/

inductive DeltaCategory
  | current_contested
  | standing_transition
  | human_prose_edit
  | node_removal
  | chat_graph_update
  | proposal_decision
  | ambiguity_decision
  deriving DecidableEq, Repr

def DeltaCategory.name : DeltaCategory → String
  | .current_contested => "current_contested"
  | .standing_transition => "standing_transition"
  | .human_prose_edit => "human_prose_edit"
  | .node_removal => "node_removal"
  | .chat_graph_update => "chat_graph_update"
  | .proposal_decision => "proposal_decision"
  | .ambiguity_decision => "ambiguity_decision"

inductive DeltaDecision
  | approved
  | rejected
  | withdrawn
  | resolved
  | dismissed
  deriving DecidableEq, Repr

def DeltaDecision.name : DeltaDecision → String
  | .approved => "approved"
  | .rejected => "rejected"
  | .withdrawn => "withdrawn"
  | .resolved => "resolved"
  | .dismissed => "dismissed"

/-- Routing metadata for one event.  An entry without an author cannot be built: the
    source raises where `author` is `none` here. -/
structure RefreshDeltaEntry where
  category : DeltaCategory
  target_id : String
  target_type : String
  title : String := ""
  revision : Nat
  author : Option Author
  field_names : List String := []
  previous_standing : Option Standing := none
  current_standing : Option Standing := none
  decision : Option DeltaDecision := none
  deriving DecidableEq

def MAX_TITLE_CHARS : Nat := 240
def REFRESH_DELTA_MAX_ENTRIES : Nat := 50
def REFRESH_DELTA_MAX_BYTES : Nat := 16 * 1024

def bounded_title (value : String) : String := String.ofList (value.toList.take MAX_TITLE_CHARS)

/-- The type and title shown for a node id. -/
def node_label (state : GraphState) (node_id : String) : String × String :=
  match state.nodes.get? node_id with
  | some n => (n.type.name, n.title)
  | none => ("node", "")

/-! ### Standings along the log -/

def standing_entry (state : GraphState) (p : Patch) (node_id : String) (before after : Standing) :
    RefreshDeltaEntry where
  category := .standing_transition
  target_id := node_id
  target_type := (node_label state node_id).1
  title := bounded_title (node_label state node_id).2
  revision := p.revision
  author := p.author
  field_names := ["standing"]
  previous_standing := some before
  current_standing := some after

/-- The standings the scan believes in, and the entries it wrote. -/
structure StandingScan where
  standings : Dict String Standing := Table.empty
  entries : List RefreshDeltaEntry := []

/-- Record the standing of a node, with an entry when it moved. -/
def StandingScan.move (scan : StandingScan) (state : GraphState) (p : Patch) (node_id : String)
    (after : Standing) : StandingScan :=
  let before := (Dict.get scan.standings node_id).getD .asserted
  { standings := Dict.set scan.standings node_id after
    entries := if before ≠ after then
        scan.entries ++ [standing_entry state p node_id before after]
      else scan.entries }

def nodes_reset_by_operation : GraphOperation → List String
  | .update_nodes updates => updates.map (·.id)
  | .supersede_nodes nodes => nodes.map (·.id)
  | .merge_nodes merges => merges.map (·.duplicate)
  | _ => []

/-- One operation of the log. -/
def scan_operation (state : GraphState) (p : Patch) (scan : StandingScan) :
    GraphOperation → StandingScan
  | .create_nodes nodes =>
    let created := nodes.foldl (fun d raw => Dict.set d raw.node.id raw.node.standing)
      scan.standings
    { scan with standings := created }
  | .set_standing node_id standing => scan.move state p node_id standing
  | op =>
    if p.kind = .approval then scan
    else (nodes_reset_by_operation op).foldl
      (fun scan node_id => scan.move state p node_id .asserted) scan

/-- One Patch of the log. -/
def scan_patch (state : GraphState) (scan : StandingScan) (p : Patch) : StandingScan :=
  p.ops.foldl (scan_operation state p) scan

def standing_transition_entries (patches : List Patch) (state : GraphState) :
    List RefreshDeltaEntry :=
  (patches.foldl (scan_patch state) {}).entries

/-- The entry of one contested node; `transitions` are in log order. -/
def contested_entry (transitions : List RefreshDeltaEntry) (n : Node) : RefreshDeltaEntry :=
  let transition := transitions.reverse.find? (fun item =>
    item.target_id = n.id ∧ item.current_standing = some .contested)
  { category := .current_contested
    target_id := n.id
    target_type := n.type.name
    title := bounded_title n.title
    revision := (transition.map (·.revision)).getD n.updated_rev
    author := (transition.map (·.author)).getD (some .human)
    field_names := ["standing"]
    previous_standing := transition.bind (·.previous_standing)
    current_standing := some n.standing }

def current_contested_entries (state : GraphState) (transitions : List RefreshDeltaEntry) :
    List RefreshDeltaEntry :=
  ((state.nodes.items.insertionSort (fun a b => a.id ≤ b.id)).filter
    (fun n => n.standing = .contested)).map (contested_entry transitions)

/-! ### Recent events -/

/-- The names of the fields an author supplied, for the payloads whose model here does not
    keep them; the last two say whether a reason was supplied. -/
class FieldsSet where
  edge : NewEdge → List String
  ambiguity : NewAmbiguity → List String
  proposal : NewProposal → List String
  term : NewGlossaryTerm → List String
  resolution_reason : ProposalResolution → Bool
  withdrawal_reason : ProposalWithdrawal → Bool

def ResolutionStatus.decision : ResolutionStatus → DeltaDecision
  | .approved => .approved
  | .rejected => .rejected
  | .withdrawn => .withdrawn

def AmbiguityVerdict.decision : AmbiguityVerdict → DeltaDecision
  | .resolved => .resolved
  | .dismissed => .dismissed

variable [FieldsSet]

def prose_edit_entry (state : GraphState) (p : Patch) (update : NodeUpdate) :
    RefreshDeltaEntry where
  category := .human_prose_edit
  target_id := update.id
  target_type := (node_label state update.id).1
  title := bounded_title (node_label state update.id).2
  revision := p.revision
  author := p.author
  field_names := sorted_set update.changes.keys
  current_standing := (state.nodes.get? update.id).map (·.standing)

/-- The decision on a Proposal, with the field its reason is stored under. -/
def proposal_entry (state : GraphState) (p : Patch) (proposal_id reason_field : String)
    (reason : Bool) (decision : DeltaDecision) : RefreshDeltaEntry where
  category := .proposal_decision
  target_id := proposal_id
  target_type := "proposal"
  title := bounded_title (((state.proposals.get? proposal_id).map (·.title)).getD "")
  revision := p.revision
  author := p.author
  field_names := sorted_set ("status" :: if reason then [reason_field] else [])
  decision := some decision

/-- The entries of an operation outside its chat summary. -/
def decision_entries (state : GraphState) (p : Patch) : GraphOperation → List RefreshDeltaEntry
  | .update_nodes updates =>
    if p.kind = .approval then
      (updates.filter (·.base_updated_rev.isSome)).map (prose_edit_entry state p)
    else []
  | .resolve_proposals resolutions => resolutions.map (fun r =>
      proposal_entry state p r.id "rejection_reason" (FieldsSet.resolution_reason r)
        r.status.decision)
  | .withdraw_proposals withdrawals => withdrawals.map (fun w =>
      proposal_entry state p w.id "resolution_reason" (FieldsSet.withdrawal_reason w) .withdrawn)
  | .resolve_ambiguities resolutions =>
    if p.author = some .human then resolutions.map (fun r =>
      { category := .ambiguity_decision, target_id := r.id, target_type := "ambiguity",
        revision := p.revision, author := p.author, field_names := ["status"],
        decision := some r.status.decision })
    else []
  | .remove_nodes node_ids => node_ids.map (fun node_id =>
      { category := .node_removal, target_id := node_id, target_type := "node",
        revision := p.revision, author := p.author, field_names := ["removed"] })
  | _ => []

/-- What a chat or work operation touched: id, type, title and field names. -/
def chat_targets (state : GraphState) :
    GraphOperation → List (String × String × String × List String)
  | .create_nodes nodes => nodes.map (fun raw =>
      (raw.node.id, raw.node.type.name, raw.node.title, sorted_set raw.fields_set))
  | .update_nodes updates => updates.map (fun u =>
      (u.id, (node_label state u.id).1, (node_label state u.id).2, sorted_set u.changes.keys))
  | .create_edges edges => edges.map (fun e =>
      (e.named_id, "edge", e.relation, sorted_set (FieldsSet.edge e)))
  | .remove_edges edge_ids => edge_ids.map (fun id => (id, "edge", "", ["removed"]))
  | .supersede_nodes nodes => nodes.map (fun item =>
      (item.id, (node_label state item.id).1, (node_label state item.id).2, ["status"]))
  | .merge_nodes merges => merges.map (fun item =>
      (item.duplicate, (node_label state item.duplicate).1, (node_label state item.duplicate).2,
        ["status"]))
  | .create_ambiguities ambiguities => ambiguities.map (fun a =>
      (a.id, "ambiguity", "", sorted_set (FieldsSet.ambiguity a)))
  | .resolve_ambiguities resolutions => resolutions.map (fun r =>
      (r.id, "ambiguity", "", ["status"]))
  | .create_proposals proposals => proposals.map (fun q =>
      (q.id, "proposal", q.title, sorted_set (FieldsSet.proposal q)))
  | .upsert_glossary terms => terms.map (fun t =>
      (t.term, "glossary_term", t.term, sorted_set (FieldsSet.term t)))
  | .set_project_truth_scope .. => [("project_truth_scope", "project", "", ["truth_scope"])]
  | _ => []

def chat_entries (state : GraphState) (p : Patch) (op : GraphOperation) :
    List RefreshDeltaEntry :=
  ((chat_targets state op).filter (·.1 ≠ "")).map (fun (target_id, target_type, title, fields) =>
    { category := .chat_graph_update, target_id, target_type, title := bounded_title title,
      revision := p.revision, author := p.author, field_names := fields,
      current_standing := (state.nodes.get? target_id).map (·.standing) })

/-- The sort key: newest first, then category, type, id and fields. -/
def compare_entries (a b : RefreshDeltaEntry) : Ordering :=
  (compare b.revision a.revision).then
    ((compare a.category.name b.category.name).then
      ((compare a.target_type b.target_type).then
        ((compare a.target_id b.target_id).then (compare a.field_names b.field_names))))

def sorted_entries (entries : List RefreshDeltaEntry) : List RefreshDeltaEntry :=
  entries.insertionSort (fun a b => compare_entries a b ≠ .gt)

def recent_entries (patches : List Patch) (state : GraphState) : List RefreshDeltaEntry :=
  sorted_entries (patches.flatMap (fun p => p.ops.flatMap (fun op =>
    decision_entries state p op ++
      if (p.kind = .chat ∨ p.kind = .work) ∧ op.op ≠ "remove_nodes" then chat_entries state p op
      else [])))

/-! ### The bounded delta -/

structure RefreshDelta where
  after_revision : Nat
  through_revision : Nat
  entries : List RefreshDeltaEntry
  omitted_count : Nat
  omitted_from_revision : Option Nat
  omitted_through_revision : Option Nat
  deriving DecidableEq

/-! Sizes of the compact JSON text, in UTF-8 bytes (`ensure_ascii=False`). -/

def json_char_size (c : Char) : Nat :=
  if c = '"' ∨ c = '\\' ∨ c = '\n' ∨ c = '\r' ∨ c = '\t' ∨ c.toNat = 8 ∨ c.toNat = 12 then 2
  else if c.toNat < 32 then 6
  else c.utf8Size

def json_str_size (s : String) : Nat := 2 + (s.toList.map json_char_size).sum

def json_nat_size (n : Nat) : Nat := (Nat.toDigits 10 n).length

def json_optional_size {α : Type} (size : α → Nat) : Option α → Nat
  | none => 4
  | some a => size a

/-- A bracketed text: brackets, parts and the commas between them. -/
def json_seq_size (parts : List Nat) : Nat := 2 + parts.sum + (parts.length - 1)

def json_dict_size (fields : List (String × Nat)) : Nat :=
  json_seq_size (fields.map (fun (key, size) => json_str_size key + 1 + size))

def Author.name : Author → String
  | .agent => "agent"
  | .human => "human"

def RefreshDeltaEntry.encoded_size (e : RefreshDeltaEntry) : Nat :=
  let standing_size := json_optional_size
    (fun s => json_str_size (literal_name Standing.names s))
  json_dict_size
    [("category", json_str_size e.category.name),
      ("target_id", json_str_size e.target_id),
      ("target_type", json_str_size e.target_type),
      ("title", json_str_size e.title),
      ("revision", json_nat_size e.revision),
      ("author", json_optional_size (fun a => json_str_size a.name) e.author),
      ("field_names", json_seq_size (e.field_names.map json_str_size)),
      ("previous_standing", standing_size e.previous_standing),
      ("current_standing", standing_size e.current_standing),
      ("decision", json_optional_size (fun d => json_str_size d.name) e.decision)]

def RefreshDelta.encoded_size (delta : RefreshDelta) : Nat :=
  json_dict_size
    [("after_revision", json_nat_size delta.after_revision),
      ("through_revision", json_nat_size delta.through_revision),
      ("entries", json_seq_size (delta.entries.map RefreshDeltaEntry.encoded_size)),
      ("omitted_count", json_nat_size delta.omitted_count),
      ("omitted_from_revision", json_optional_size json_nat_size delta.omitted_from_revision),
      ("omitted_through_revision",
        json_optional_size json_nat_size delta.omitted_through_revision)]

/-- The delta that shows some entries and omits the others. -/
def refresh_delta (after_revision through_revision : Nat)
    (entries omitted : List RefreshDeltaEntry) : RefreshDelta where
  after_revision
  through_revision
  entries
  omitted_count := omitted.length
  omitted_from_revision := (omitted.map (·.revision)).min?
  omitted_through_revision := (omitted.map (·.revision)).max?

/-- The selection loop: entries in order, until one does not fit. -/
def select_entries (after_revision through_revision : Nat) :
    List RefreshDeltaEntry → List RefreshDeltaEntry → List RefreshDeltaEntry
  | selected, [] => selected
  | selected, entry :: rest =>
    if REFRESH_DELTA_MAX_ENTRIES ≤ selected.length then selected
    else if REFRESH_DELTA_MAX_BYTES <
        (refresh_delta after_revision through_revision (selected ++ [entry]) rest).encoded_size then
      selected
    else select_entries after_revision through_revision (selected ++ [entry]) rest

/-- The model validator of the delta. -/
def RefreshDelta.enforce_bounds (delta : RefreshDelta) : Applied RefreshDelta :=
  if delta.through_revision < delta.after_revision then
    .error (.value_error "through_revision cannot precede after_revision")
  else if REFRESH_DELTA_MAX_BYTES < delta.encoded_size then
    .error (.value_error s!"refresh_delta exceeds {REFRESH_DELTA_MAX_BYTES} bytes")
  else .ok delta

def RefreshDeltaEntry.identity (e : RefreshDeltaEntry) : String × Nat × String :=
  (e.target_id, e.revision, String.intercalate "," e.field_names)

/-- The Patches whose report does not reject, in revision order. -/
def accepted_patches (patches : List Patch) (m : Materialization) : List Patch :=
  (patches.insertionSort (fun p q => p.revision ≤ q.revision)).filter (fun p =>
    match Dict.get m.reports p.revision with
    | none => false
    | some report => !report.any (fun message => message.level = .reject))

/-- The revision of the last graph ingest. -/
def ingest_baseline (accepted : List Patch) : Nat :=
  ((accepted.filter (fun p => p.kind = .seed ∨ p.kind = .refresh)).map (·.revision)).foldl max 0

/-- The entries of a delta in order of selection: contested nodes first. -/
def delta_candidates (accepted : List Patch) (state : GraphState) : List RefreshDeltaEntry :=
  let baseline := ingest_baseline accepted
  let transitions := standing_transition_entries accepted state
  let mandatory := current_contested_entries state transitions
  let recent := sorted_entries (transitions.filter (fun e => baseline < e.revision) ++
    recent_entries (accepted.filter (fun p => baseline < p.revision)) state)
  let mandatory_keys := mandatory.map RefreshDeltaEntry.identity
  mandatory ++ recent.filter (fun e => e.identity ∉ mandatory_keys)

/-- Whether every entry that is built has an author. -/
def entries_attributed (accepted : List Patch) (state : GraphState) : Bool :=
  (standing_transition_entries accepted state ++ delta_candidates accepted state ++
    recent_entries (accepted.filter (fun p => ingest_baseline accepted < p.revision)) state).all
      (fun e => e.author.isSome)

def build_refresh_delta (patches : List Patch) (m : Materialization) : Applied RefreshDelta :=
  let accepted := accepted_patches patches m
  let baseline := ingest_baseline accepted
  if entries_attributed accepted m.state then
    let candidates := delta_candidates accepted m.state
    let selected := select_entries baseline m.state.revision [] candidates
    (refresh_delta baseline m.state.revision selected
      (candidates.drop selected.length)).enforce_bounds
  else .error (.value_error "Input should be 'agent' or 'human'")

end ResearchGraph
