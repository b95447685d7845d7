import ResearchGraph.Decode

/-! # JSON forms of typed records

    `model_dump(mode="json")` of the records whose dumps the source compares
    or digests, and equality of typed records as the host language compares
    them.
-/

namespace ResearchGraph

open Lib

/-! ### Times -/

/-- A number in decimal, padded with zeros to `width` digits. -/
def padded (width n : Nat) : String :=
  let ds := Nat.toDigits 10 n
  String.ofList (List.replicate (width - ds.length) '0' ++ ds)

def offset_text : Option Int → String
  | none => ""
  | some o =>
    if o = 0 then "Z"
    else (if o < 0 then "-" else "+") ++ padded 2 (o.natAbs / 60) ++ ":" ++ padded 2 (o.natAbs % 60)

/-- ISO 8601 text of a time. -/
def Datetime.to_json (t : Datetime) : Value :=
  .str (padded 4 t.year ++ "-" ++ padded 2 t.month ++ "-" ++ padded 2 t.day ++ "T"
    ++ padded 2 t.hour ++ ":" ++ padded 2 t.minute ++ ":" ++ padded 2 t.second
    ++ (if t.microsecond = 0 then "" else "." ++ padded 6 t.microsecond)
    ++ offset_text t.offset)

/-- An optional value, absent as null. -/
def opt_json {α : Type} (to_json : α → Value) : Option α → Value
  | none => .null
  | some a => to_json a

/-- Equality of times: aware times are equal when they name one instant. -/
def Datetime.same (s t : Datetime) : Bool := s.comparable t && s.instant == t.instant

@[simp] theorem Datetime.same_refl (t : Datetime) : t.same t = true := by
  simp [Datetime.same, Datetime.comparable]

/-- Pointwise equality of lists. -/
def same_lists {α : Type} (same : α → α → Bool) : List α → List α → Bool
  | [], [] => true
  | x :: xs, y :: ys => same x y && same_lists same xs ys
  | _, _ => false

theorem same_lists_refl {α : Type} {same : α → α → Bool} (h : ∀ a, same a a = true) :
    ∀ xs, same_lists same xs xs = true
  | [] => rfl
  | x :: xs => by simp [same_lists, h, same_lists_refl h xs]

def same_time : Option Datetime → Option Datetime → Bool
  | none, none => true
  | some s, some t => s.same t
  | _, _ => false

@[simp] theorem same_time_refl (t : Option Datetime) : same_time t t = true := by
  cases t <;> simp [same_time]

/-! ### Source references and attempts -/

def SourceRef.to_json (r : SourceRef) : Value :=
  .dict [("machine", .str r.machine), ("truth_repository", .str r.truth_repository),
    ("source", .str (literal_name SourceKind.names r.source)), ("session_id", .str r.session_id),
    ("record_uuid", .str r.record_uuid), ("timestamp", r.timestamp.to_json),
    ("excerpt", .str r.excerpt)]

def SourceRef.same (a b : SourceRef) : Bool :=
  a.timestamp.same b.timestamp && { a with timestamp := b.timestamp } == b

@[simp] theorem SourceRef.same_refl (r : SourceRef) : r.same r = true := by
  simp [SourceRef.same]

def ExperimentDecisionPin.to_json (pin : ExperimentDecisionPin) : Value :=
  .dict [("decision_id", .str pin.decision_id), ("decision_revision", .int pin.decision_revision),
    ("selected_option", .str pin.selected_option)]

def ExperimentAttemptDebug.to_json (d : ExperimentAttemptDebug) : Value :=
  .dict [("mechanical_fault", .str d.mechanical_fault), ("change", .str d.change),
    ("predicted_effect", .str d.predicted_effect)]

/-- The JSON fields of an attempt, in declaration order. -/
def ExperimentAttempt.json_fields (a : ExperimentAttempt) : List (String × Value) :=
  [("id", .str a.id), ("sequence", .int a.sequence), ("purpose", .str a.purpose),
    ("attempt_kind", .str (literal_name AttemptKind.names a.attempt_kind)),
    ("decision_bundle", .list (a.decision_bundle.map ExperimentDecisionPin.to_json)),
    ("debug", opt_json ExperimentAttemptDebug.to_json a.debug),
    ("configuration", .str a.configuration),
    ("status", .str (literal_name AttemptStatus.names a.status)),
    ("job_refs", str_list a.job_refs),
    ("source_refs", .list (a.source_refs.map SourceRef.to_json)),
    ("outcome", opt_str a.outcome), ("failure_reason", opt_str a.failure_reason),
    ("started_at", opt_json Datetime.to_json a.started_at),
    ("finished_at", opt_json Datetime.to_json a.finished_at)]

def ExperimentAttempt.to_json (a : ExperimentAttempt) : Value := .dict a.json_fields

/-- Equality of the fields that closing an attempt may not change. -/
def ExperimentAttempt.same_fixed (a b : ExperimentAttempt) : Bool :=
  a.id == b.id && a.sequence == b.sequence && a.purpose == b.purpose
    && a.attempt_kind == b.attempt_kind && a.decision_bundle == b.decision_bundle
    && a.debug == b.debug && a.configuration == b.configuration && a.job_refs == b.job_refs
    && same_time a.started_at b.started_at

/-- Equality of whole attempts. -/
def ExperimentAttempt.same (a b : ExperimentAttempt) : Bool :=
  a.same_fixed b && a.status == b.status
    && same_lists SourceRef.same a.source_refs b.source_refs
    && a.outcome == b.outcome && a.failure_reason == b.failure_reason
    && same_time a.finished_at b.finished_at

@[simp] theorem ExperimentAttempt.same_refl (a : ExperimentAttempt) : a.same a = true := by
  simp [ExperimentAttempt.same, ExperimentAttempt.same_fixed,
    same_lists_refl SourceRef.same_refl]

/-! ### Nodes and operations -/

def NodeBody.same : NodeBody → NodeBody → Bool
  | .experiment a, .experiment b =>
    { a with attempts := [] } == { b with attempts := [] }
      && same_lists ExperimentAttempt.same a.attempts b.attempts
  | a, b => a == b

@[simp] theorem NodeBody.same_refl (b : NodeBody) : b.same b = true := by
  cases b <;> simp [NodeBody.same, same_lists_refl ExperimentAttempt.same_refl]

/-- Equality of custom field values as one object. -/
def same_extension_fields (a b : Dict String ExtensionValue) : Bool :=
  (extension_object a).loosely_equal (extension_object b)

def Node.same (a b : Node) : Bool :=
  a.id == b.id && a.title == b.title && a.extension_type == b.extension_type
    && same_extension_fields a.extension_fields b.extension_fields
    && a.standing == b.standing && a.created_rev == b.created_rev
    && a.updated_rev == b.updated_rev && same_lists SourceRef.same a.source_refs b.source_refs
    && a.body.same b.body

@[simp] theorem Node.same_refl (n : Node) : n.same n = true := by
  simp [Node.same, same_extension_fields, same_lists_refl SourceRef.same_refl]

def NewNode.same (a b : NewNode) : Bool := a.node.same b.node

@[simp] theorem NewNode.same_refl (raw : NewNode) : raw.same raw = true := by
  simp [NewNode.same]

def NodeUpdate.same (a b : NodeUpdate) : Bool :=
  a.id == b.id && (Value.dict a.changes.items).loosely_equal (.dict b.changes.items)
    && a.cause == b.cause && a.base_updated_rev == b.base_updated_rev

@[simp] theorem NodeUpdate.same_refl (u : NodeUpdate) : u.same u = true := by
  simp [NodeUpdate.same]

/-- The id of a new edge as an optional text. -/
def EdgeIdField.text : EdgeIdField → Option String
  | .given s => some s
  | _ => none

def NewEdge.same (a b : NewEdge) : Bool :=
  a.id.text == b.id.text && { a with id := b.id } == b

@[simp] theorem NewEdge.same_refl (e : NewEdge) : e.same e = true := by simp [NewEdge.same]

/-- A coverage update with the model's defaults in place of absent fields. -/
def CoverageUpdate.filled (c : CoverageUpdate) : CoverageBoundary where
  repositories_seen := c.repositories_seen.getD []
  repositories_never_seen := c.repositories_never_seen.getD []
  sessions_read := c.sessions_read.getD []
  sessions_skipped := c.sessions_skipped.getD []
  note := c.note.getD "No seed has completed."

def CoverageUpdate.same (a b : CoverageUpdate) : Bool :=
  a.filled == b.filled
    && same_time (a.earliest_timestamp.getD none) (b.earliest_timestamp.getD none)

/-- Equality of operations: which fields were supplied does not matter, and
    raw values compare as the host language compares them. -/
def GraphOperation.same : GraphOperation → GraphOperation → Bool
  | .create_nodes a, .create_nodes b => same_lists NewNode.same a b
  | .update_nodes a, .update_nodes b => same_lists NodeUpdate.same a b
  | .create_edges a, .create_edges b => same_lists NewEdge.same a b
  | .set_coverage a, .set_coverage b => a.same b
  | a, b => a == b

theorem GraphOperation.same_refl (op : GraphOperation) : op.same op = true := by
  cases op <;> simp [GraphOperation.same, CoverageUpdate.same,
    same_lists_refl NewNode.same_refl, same_lists_refl NodeUpdate.same_refl,
    same_lists_refl NewEdge.same_refl]

/-- Equality of operation lists. -/
def same_operations (a b : List GraphOperation) : Bool := same_lists GraphOperation.same a b

@[simp] theorem same_operations_refl (ops : List GraphOperation) :
    same_operations ops ops = true := same_lists_refl GraphOperation.same_refl ops

end ResearchGraph
