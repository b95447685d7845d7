import ResearchGraph.Decode
import ResearchGraph.Materialize
import ResearchGraph.Report
import ResearchGraph.Lib.Rewrite
import ResearchGraph.Lib.Shrink

/-! # Bounded task results (`rcp/storage/agent_tasks.py`)

    The result of an agent task is stored as one JSON text of bounded size.
    `bounded_result_json` reads an arbitrary JSON object, keeps what it can of its
    artifacts, graph updates and messages, and trims lists from the end until the
    encoded text fits.
-/

namespace ResearchGraph

open Lib

/-! ### Compact JSON text (`ensure_ascii=False`) -/

def json_hex_digit (n : Nat) : Char := "0123456789abcdef".toList.getD n '0'

def json_char (c : Char) : String :=
  if c = '"' then "\\\""
  else if c = '\\' then "\\\\"
  else if c = '\n' then "\\n"
  else if c = '\r' then "\\r"
  else if c = '\t' then "\\t"
  else if c.toNat = 8 then "\\b"
  else if c.toNat = 12 then "\\f"
  else if c.toNat < 32 then
    "\\u00" ++ String.ofList [json_hex_digit (c.toNat / 16), json_hex_digit (c.toNat % 16)]
  else String.singleton c

def json_str (s : String) : String := "\"" ++ String.join (s.toList.map json_char) ++ "\""

def json_int (i : Int) : String := toString i

def json_bool (b : Bool) : String := if b then "true" else "false"

def json_optional {α : Type} (text : α → String) : Option α → String
  | none => "null"
  | some a => text a

/-- The parts of a list or an object, with the commas between them. -/
def json_join : List String → String
  | [] => ""
  | [a] => a
  | a :: rest => a ++ "," ++ json_join rest

def json_list (items : List String) : String := "[" ++ json_join items ++ "]"

def json_dict (fields : List (String × String)) : String :=
  "\x7b" ++ json_join (fields.map (fun (key, text) => json_str key ++ ":" ++ text)) ++ "\x7d"

/-! ### Artifacts -/

structure AgentArtifactDescriptor where
  artifact_id : String
  name : String
  media_type : String
  size_bytes : Option Nat := none
  kept_filename : Option String := none
  kept_at : Option String := none
  deriving DecidableEq

def ARTIFACT_MEDIA_TYPES : List String :=
  ["text/html", "image/png", "image/jpeg", "image/gif", "image/webp", "image/svg+xml"]

def decode_bounded_text (v : Value) : Decoded String := do
  let s ← decode_text 1 v
  if s.length ≤ 255 then .ok s else .error "String should have at most 255 characters"

def decode_artifact_id (v : Value) : Decoded String := do
  let s ← decode_str v
  if s.length = 24 ∧ s.toList.all (fun c => c.isDigit || ('a' ≤ c && c ≤ 'f')) then .ok s
  else .error "String should match pattern"

def decode_media_type (v : Value) : Decoded String := do
  let s ← decode_str v
  if s ∈ ARTIFACT_MEDIA_TYPES then .ok s else .error "Input is not a permitted literal"

/-- `AgentArtifactDescriptor.model_validate` -/
def AgentArtifactDescriptor.model_validate : Value → Decoded AgentArtifactDescriptor
  | .dict d => do
    if d.any (fun e => e.1 ∉ ["artifact_id", "name", "media_type", "size_bytes", "kept_filename",
        "kept_at"]) then
      .error "Extra inputs are not permitted"
    else
      let artifact_id ← decode_artifact_id (Entries.get d "artifact_id")
      let name ← decode_bounded_text (Entries.get d "name")
      let media_type ← decode_media_type (Entries.get d "media_type")
      let size_bytes ← decode_optional (decode_nat .lax 1) (Entries.get d "size_bytes")
      let kept_filename ← decode_optional decode_bounded_text (Entries.get d "kept_filename")
      let kept_at ← decode_optional decode_str (Entries.get d "kept_at")
      return { artifact_id, name, media_type, size_bytes, kept_filename, kept_at }
  | _ => .error "Input should be a valid dictionary"

def AgentArtifactDescriptor.text (a : AgentArtifactDescriptor) : String :=
  json_dict
    [("artifact_id", json_str a.artifact_id),
      ("name", json_str a.name),
      ("media_type", json_str a.media_type),
      ("size_bytes", json_optional (fun n => json_int n) a.size_bytes),
      ("kept_filename", json_optional json_str a.kept_filename),
      ("kept_at", json_optional json_str a.kept_at)]

/-! ### Graph updates -/

inductive GraphUpdateStatus
  | none
  | applied
  | rejected
  deriving DecidableEq, Repr

def GraphUpdateStatus.names : List (String × GraphUpdateStatus) :=
  [("none", .none), ("applied", .applied), ("rejected", .rejected)]

/-- What is kept of one graph update. -/
structure GraphUpdateView where
  status : GraphUpdateStatus
  applied_revision : Option Int
  change_summary : List String
  proposal_ids : List String
  validation_messages : List String
  correction_rounds : Int
  repairable : Bool
  deriving DecidableEq

/-- `item[:length]` -/
def cut (length : Nat) (s : String) : String := String.ofList (s.toList.take length)

/-- The texts among the first values of a list, each cut. -/
def bounded_texts (count length : Nat) : Value → List String
  | .list xs => (xs.take count).filterMap (fun
    | .str s => some (cut length s)
    | _ => none)
  | _ => []

/-- `raw.get("status") in {"none", "applied", "rejected"}`: the value is hashed first. -/
def update_status (raw : Entries) : Applied (Option GraphUpdateStatus) :=
  match raw.get "status" with
  | .str s => .ok (GraphUpdateStatus.names.lookup s)
  | .list _ => .error (.type_error "unhashable type: 'list'")
  | .dict _ => .error (.type_error "unhashable type: 'dict'")
  | _ => .ok none

/-- `_bounded_graph_update` -/
def bounded_graph_update (concise : Bool) : Value → Applied (Option GraphUpdateView)
  | .dict raw => do
    match ← update_status raw with
    | none => return none
    | some status =>
      let (change_count, change_length) := if concise then (2, 200) else (32, 1600)
      let (proposal_count, proposal_length) := if concise then (8, 100) else (32, 400)
      let (validation_count, validation_length) := if concise then (2, 200) else (8, 1600)
      return some
        { status
          applied_revision := match Entries.get raw "applied_revision" with
            | .int i => some i
            | _ => none
          change_summary :=
            bounded_texts change_count change_length (Entries.get raw "change_summary")
          proposal_ids :=
            bounded_texts proposal_count proposal_length (Entries.get raw "proposal_ids")
          validation_messages := bounded_texts validation_count validation_length
            (Entries.get raw "validation_messages")
          correction_rounds := match Entries.get raw "correction_rounds" with
            | .int i => i
            | _ => 0
          repairable := decide (Entries.get raw "repairable" = .bool true) }
  | _ => .ok none

/-- The update as a document, for the second, concise pass. -/
def GraphUpdateView.document (v : GraphUpdateView) : Value :=
  .dict
    [("status", .str (literal_name GraphUpdateStatus.names v.status)),
      ("applied_revision", (v.applied_revision.map Value.int).getD .null),
      ("change_summary", .list (v.change_summary.map .str)),
      ("proposal_ids", .list (v.proposal_ids.map .str)),
      ("validation_messages", .list (v.validation_messages.map .str)),
      ("correction_rounds", .int v.correction_rounds),
      ("repairable", .bool v.repairable)]

def GraphUpdateView.text (v : GraphUpdateView) : String :=
  json_dict
    [("status", json_str (literal_name GraphUpdateStatus.names v.status)),
      ("applied_revision", json_optional json_int v.applied_revision),
      ("change_summary", json_list (v.change_summary.map json_str)),
      ("proposal_ids", json_list (v.proposal_ids.map json_str)),
      ("validation_messages", json_list (v.validation_messages.map json_str)),
      ("correction_rounds", json_int v.correction_rounds),
      ("repairable", json_bool v.repairable)]

/-- Drop the last text of the first list that has one. -/
def GraphUpdateView.trim (v : GraphUpdateView) : Option GraphUpdateView :=
  if v.change_summary ≠ [] then some { v with change_summary := v.change_summary.dropLast }
  else if v.proposal_ids ≠ [] then some { v with proposal_ids := v.proposal_ids.dropLast }
  else if v.validation_messages ≠ [] then
    some { v with validation_messages := v.validation_messages.dropLast }
  else none

/-! ### The payload -/

structure ResultPayload where
  messages : List String := []
  artifacts : List AgentArtifactDescriptor := []
  graph_update : Option GraphUpdateView := none
  graph_updates : List GraphUpdateView := []
  deriving DecidableEq

def ResultPayload.text (payload : ResultPayload) : String :=
  json_dict
    ([("messages", json_list (payload.messages.map json_str))]
      ++ (if payload.artifacts = [] then []
        else [("artifacts", json_list (payload.artifacts.map AgentArtifactDescriptor.text))])
      ++ (match payload.graph_update with
        | none => []
        | some v => [("graph_update", v.text)])
      ++ (if payload.graph_updates = [] then []
        else [("graph_updates", json_list (payload.graph_updates.map GraphUpdateView.text))]))

def ResultPayload.encoded_size (payload : ResultPayload) : Nat := payload.text.utf8ByteSize

/-- Take one text off the graph update, else the last artifact. -/
def ResultPayload.trim (payload : ResultPayload) : Option ResultPayload :=
  match payload.graph_update.bind GraphUpdateView.trim with
  | some v => some { payload with graph_update := some v }
  | none =>
    if payload.artifacts ≠ [] then some { payload with artifacts := payload.artifacts.dropLast }
    else none

def GraphUpdateView.weight (v : GraphUpdateView) : Nat :=
  v.change_summary.length + v.proposal_ids.length + v.validation_messages.length

def ResultPayload.weight (payload : ResultPayload) : Nat :=
  ((payload.graph_update.map GraphUpdateView.weight).getD 0) + payload.artifacts.length

theorem GraphUpdateView.trim_weight (v w : GraphUpdateView) (h : v.trim = some w) :
    w.weight < v.weight := by
  have hdrop {xs : List String} (hxs : xs ≠ []) : xs.dropLast.length < xs.length := by
    have := List.length_pos_iff.mpr hxs
    rw [List.length_dropLast]
    omega
  simp only [GraphUpdateView.trim] at h
  split at h
  · rename_i hne
    cases h
    have := hdrop hne
    simp only [GraphUpdateView.weight]
    omega
  · split at h
    · rename_i hne
      cases h
      have := hdrop hne
      simp only [GraphUpdateView.weight]
      omega
    · split at h
      · rename_i hne
        cases h
        have := hdrop hne
        simp only [GraphUpdateView.weight]
        omega
      · cases h

def update_trim : Trim GraphUpdateView where
  step := GraphUpdateView.trim
  weight := GraphUpdateView.weight
  lighter := GraphUpdateView.trim_weight

theorem ResultPayload.trim_weight (a b : ResultPayload) (h : a.trim = some b) :
    b.weight < a.weight := by
  simp only [ResultPayload.trim] at h
  split at h
  · rename_i v hv
    cases h
    obtain ⟨u, hu, hv⟩ := Option.bind_eq_some_iff.mp hv
    have := GraphUpdateView.trim_weight u v hv
    simp only [ResultPayload.weight, hu, Option.map_some, Option.getD_some]
    omega
  · split at h
    · rename_i hne
      cases h
      have hpos := List.length_pos_iff.mpr hne
      simp only [ResultPayload.weight, List.length_dropLast]
      omega
    · cases h

def payload_trim : Trim ResultPayload where
  step := ResultPayload.trim
  weight := ResultPayload.weight
  lighter := ResultPayload.trim_weight

/-! ### `_bounded_result_json` -/

def AGENT_TASK_RESULT_MAX_BYTES : Nat := 64 * 1024
def GRAPH_UPDATE_HISTORY_MAX_COUNT : Nat := 33
def GRAPH_UPDATE_HISTORY_RESERVE_BYTES : Nat := 8 * 1024
def CHAT_ARTIFACT_MAX_COUNT : Nat := 8

/-- The largest encoded size that is stored. -/
def result_limit : Nat := AGENT_TASK_RESULT_MAX_BYTES - 1

def list_items : Value → List Value
  | .list xs => xs
  | _ => []

/-- The well-formed updates from the latest on, at most `count` of them. -/
def latest_updates : Nat → List Value → Applied (List GraphUpdateView)
  | 0, _ => .ok []
  | _, [] => .ok []
  | count + 1, raw :: rest => do
    match ← bounded_graph_update false raw with
    | none => latest_updates (count + 1) rest
    | some full => return full :: (← latest_updates count rest)

/-- The concise form of an update that was read; the second pass cannot fail. -/
def concise_update (full : GraphUpdateView) : Applied GraphUpdateView := do
  match ← bounded_graph_update true full.document with
  | some update => return update
  | none => .error (.value_error "AssertionError")

/-- Retain updates from the latest on while they fit. -/
def retain_updates (payload : ResultPayload) :
    List GraphUpdateView → List GraphUpdateView → List GraphUpdateView
  | retained, [] => retained
  | retained, raw :: earlier =>
    let fits (update : GraphUpdateView) : Bool :=
      { payload with graph_updates := update :: retained }.encoded_size ≤ result_limit
    let update := update_trim.until_fits fits raw
    if fits update then retain_updates payload (update :: retained) earlier else retained

/-- Append messages while the payload fits. -/
def bound_messages (payload : ResultPayload) : List String → List Value → List String
  | bounded, [] => bounded
  | bounded, .str raw :: rest =>
    if strip raw = "" then bound_messages payload bounded rest
    else
      let longer := bounded ++ [cut 16000 (strip raw)]
      if { payload with messages := longer }.encoded_size ≤ result_limit then
        bound_messages payload longer rest
      else bounded
  | bounded, _ :: rest => bound_messages payload bounded rest

/-- The artifacts that validate, among the first ones. -/
def valid_artifacts (raw : Value) : List AgentArtifactDescriptor :=
  ((list_items raw).take CHAT_ARTIFACT_MAX_COUNT).filterMap
    (fun raw => (AgentArtifactDescriptor.model_validate raw).toOption)

/-- The payload whose text is stored. -/
def bounded_payload (result : Entries) : Applied ResultPayload := do
  let own ← bounded_graph_update false (result.get "graph_update")
  let latest ← latest_updates GRAPH_UPDATE_HISTORY_MAX_COUNT
    (list_items (result.get "graph_updates")).reverse
  let reverse_updates ← latest.mapM concise_update
  let payload : ResultPayload :=
    { artifacts := valid_artifacts (result.get "artifacts")
      graph_update := own.or latest.head? }
  let base_limit :=
    if reverse_updates = [] then result_limit
    else result_limit - GRAPH_UPDATE_HISTORY_RESERVE_BYTES
  let payload := payload_trim.until_fits (fun p => p.encoded_size ≤ base_limit) payload
  let payload := { payload with graph_updates := retain_updates payload [] reverse_updates }
  return { payload with
    messages := bound_messages payload [] ((list_items (result.get "messages")).take 32) }

def bounded_result_json : Option Entries → Applied (Option String)
  | none => .ok none
  | some result => do
    let payload ← bounded_payload result
    return some payload.text

end ResearchGraph
