import ResearchGraph.State
import ResearchGraph.Lib.Fold

/-! # Decoding of raw field values

    A node update carries an arbitrary JSON object.  The source rebuilds the
    node from its own dump overlaid with that object and validates the result
    against the typed model, strictly for current patches
    (`strict_project_node`) and with the lax conversions of the model library
    for persisted generation-1 patches (`NODE_ADAPTER.validate_python`).
    `Node.with_changes` is that overlay; callers have refused the system
    fields (`IMMUTABLE_NODE_UPDATE_FIELDS`) before they reach it.
-/

namespace ResearchGraph

open Lib

/-- Strict validation, or the lax conversions used for legacy documents. -/
inductive DecodeMode
  | strict
  | lax
  deriving DecidableEq, Repr

/-- Outcome of decoding one value; the error is the validator's message. -/
abbrev Decoded (α : Type) := Except String α

/-! ### Texts of enumerations -/

def Standing.names : List (String × Standing) :=
  [("asserted", .asserted), ("accepted", .accepted), ("contested", .contested)]

def SourceKind.names : List (String × SourceKind) :=
  [("claude", .claude), ("codex", .codex), ("app_chat", .app_chat)]

def AttemptStatus.names : List (String × AttemptStatus) :=
  [("planned", .planned), ("submitted", .submitted), ("running", .running),
    ("failed", .failed), ("completed", .completed), ("cancelled", .cancelled),
    ("superseded", .superseded)]

def AttemptKind.names : List (String × AttemptKind) :=
  [("external_run", .external_run), ("proposal_only", .proposal_only)]

def QuestionStatus.names : List (String × QuestionStatus) :=
  [("open", .open), ("answered", .answered), ("abandoned", .abandoned),
    ("superseded", .superseded)]

def HypothesisStatus.names : List (String × HypothesisStatus) :=
  [("proposed", .proposed), ("active", .active), ("supported", .supported),
    ("weakened", .weakened), ("rejected", .rejected), ("superseded", .superseded)]

def DecisionStatus.names : List (String × DecisionStatus) :=
  [("open", .open), ("ready", .ready), ("decided", .decided), ("revisit", .revisit),
    ("superseded", .superseded)]

def ExperimentStatus.names : List (String × ExperimentStatus) :=
  [("proposed", .proposed), ("designing", .designing), ("implementing", .implementing),
    ("debugging", .debugging), ("running", .running), ("analyzing", .analyzing),
    ("completed", .completed), ("unspecified", .unspecified), ("abandoned", .abandoned),
    ("superseded", .superseded)]

def EvidenceRole.names : List (String × EvidenceRole) :=
  [("result", .result), ("diagnostic", .diagnostic)]

def LegacyStrength.names : List (String × LegacyStrength) :=
  [("diagnostic", .diagnostic), ("preliminary", .preliminary), ("supporting", .supporting),
    ("confirmatory", .confirmatory)]

def EvidenceValidity.names : List (String × EvidenceValidity) :=
  [("valid", .valid), ("qualified", .qualified), ("invalid", .invalid),
    ("superseded", .superseded)]

def EvidenceOrigin.names : List (String × EvidenceOrigin) :=
  [("internal_run", .internal_run), ("external_publication", .external_publication),
    ("external_instance", .external_instance), ("analytic", .analytic), ("unknown", .unknown)]

def BlockerType.names : List (String × BlockerType) :=
  [("scientific", .scientific), ("design", .design), ("data", .data),
    ("implementation", .implementation), ("infrastructure", .infrastructure),
    ("unknown", .unknown)]

def BlockerStatus.names : List (String × BlockerStatus) :=
  [("open", .open), ("resolved", .resolved), ("superseded", .superseded)]

/-- The text an enumeration value is written as. -/
def literal_name {α : Type} [DecidableEq α] (names : List (String × α)) (a : α) : String :=
  ((names.find? (fun e => e.2 = a)).map Prod.fst).getD ""

/-! ### Scalars -/

def decode_str : Value → Decoded String
  | .str s => .ok s
  | _ => .error "Input should be a valid string"

def decode_optional {α : Type} (decode : Value → Decoded α) : Value → Decoded (Option α)
  | .null => .ok none
  | v => (decode v).map some

def decode_list {α : Type} (decode : Value → Decoded α) : Value → Decoded (List α)
  | .list xs => xs.mapM decode
  | _ => .error "Input should be a valid list"

def decode_literal {α : Type} (names : List (String × α)) : Value → Decoded α
  | .str s => match names.lookup s with
    | some a => .ok a
    | none => .error "Input is not a permitted literal"
  | _ => .error "Input is not a permitted literal"

/-- Decimal digits as a number. -/
def digits (cs : List Char) : Option Nat :=
  if cs.isEmpty || cs.any (fun c => !c.isDigit) then none
  else some (cs.foldl (fun n c => n * 10 + (c.toNat - '0'.toNat)) 0)

def decode_int (mode : DecodeMode) : Value → Decoded Int
  | .int i => .ok i
  | v => match mode, v with
    | .lax, .bool b => .ok (if b then 1 else 0)
    | .lax, .float q => if q.den = 1 then .ok q.num else .error "Input should be a valid integer"
    | .lax, .str s => match s.toList with
      | '-' :: cs => match digits cs with
        | some n => .ok (-n)
        | none => .error "Input should be a valid integer"
      | cs => match digits cs with
        | some n => .ok n
        | none => .error "Input should be a valid integer"
    | _, _ => .error "Input should be a valid integer"

/-- An integer field with a lower bound. -/
def decode_nat (mode : DecodeMode) (least : Nat) (v : Value) : Decoded Nat := do
  let i ← decode_int mode v
  if (least : Int) ≤ i then .ok i.toNat
  else .error s!"Input should be greater than or equal to {least}"

def decode_bool (mode : DecodeMode) : Value → Decoded Bool
  | .bool b => .ok b
  | v => match mode, v with
    | .lax, .int 0 | .lax, .float 0 => .ok false
    | .lax, .int 1 | .lax, .float 1 => .ok true
    | .lax, .str s =>
      if s ∈ ["0", "off", "f", "false", "n", "no"] then .ok false
      else if s ∈ ["1", "on", "t", "true", "y", "yes"] then .ok true
      else .error "Input should be a valid boolean"
    | _, _ => .error "Input should be a valid boolean"

def decode_text (least : Nat) (v : Value) : Decoded String := do
  let s ← decode_str v
  if least ≤ s.length then .ok s else .error "String should have at least 1 character"

/-! ### Time stamps -/

/-- The offset suffix of a time: `Z`, `+HH:MM` or `-HH:MM`, or none. -/
def parse_offset : List Char → Option (Option Int)
  | [] => some none
  | ['Z'] | ['z'] => some (some 0)
  | [s, a, b, ':', c, d] => do
    let h ← digits [a, b]
    let m ← digits [c, d]
    if 23 < h ∨ 59 < m then none
    else if s = '+' then some (some (h * 60 + m))
    else if s = '-' then some (some (-(h * 60 + m)))
    else none
  | _ => none

/-- Seconds with an optional fraction of up to six digits, then the offset. -/
def parse_seconds (t : Datetime) : List Char → Option Datetime
  | ':' :: a :: b :: rest => do
    let s ← digits [a, b]
    if 59 < s then none
    else match rest with
      | '.' :: frac =>
        let ds := frac.takeWhile Char.isDigit
        let us ← digits ((ds ++ ['0', '0', '0', '0', '0', '0']).take 6)
        if ds.isEmpty then none
        else do
          let o ← parse_offset (frac.dropWhile Char.isDigit)
          some { t with second := s, microsecond := us, offset := o }
      | rest => do
        let o ← parse_offset rest
        some { t with second := s, offset := o }
  | rest => do
    let o ← parse_offset rest
    some { t with offset := o }

def month_days (year month : Nat) : Nat :=
  match month with
  | 2 => if year % 4 = 0 ∧ (year % 100 ≠ 0 ∨ year % 400 = 0) then 29 else 28
  | 4 | 6 | 9 | 11 => 30
  | _ => 31

/-- ISO 8601 date, or date and time, as the model library reads them. -/
def parse_datetime (s : String) : Option Datetime :=
  match s.toList with
  | a :: b :: c :: d :: '-' :: e :: f :: '-' :: g :: h :: rest => do
    let year ← digits [a, b, c, d]
    let month ← digits [e, f]
    let day ← digits [g, h]
    if year = 0 ∨ month = 0 ∨ 12 < month ∨ day = 0 ∨ month_days year month < day then none
    else match rest with
      | [] => some { year, month, day, offset := none }
      | sep :: i :: j :: ':' :: k :: l :: rest => do
        if sep ∉ ['T', 't', ' ', '_'] then none
        else do
          let hour ← digits [i, j]
          let minute ← digits [k, l]
          if 23 < hour ∨ 59 < minute then none
          else parse_seconds { year, month, day, hour, minute, offset := none } rest
      | _ => none
  | _ => none

/-- `_wire_datetime`: only text shaped like a date is parsed in strict mode. -/
def looks_like_date (s : String) : Bool :=
  10 ≤ s.length && s.toList[4]? == some '-' && s.toList[7]? == some '-'

def decode_datetime (mode : DecodeMode) : Value → Decoded Datetime
  | .str s =>
    if mode = .strict ∧ ¬ looks_like_date s then .error "Input should be a valid datetime"
    else match parse_datetime s with
      | some t => .ok t
      | none => .error "Input should be a valid datetime"
  | _ => .error "Input should be a valid datetime"

/-! ### Records -/

/-- A required field of an object. -/
def required {α : Type} (d : List (String × Value)) (k : String) (decode : Value → Decoded α) :
    Decoded α :=
  match d.lookup k with
  | none => .error "Field required"
  | some v => decode v

/-- A field with a default. -/
def optional {α : Type} (d : List (String × Value)) (k : String) (default : α)
    (decode : Value → Decoded α) : Decoded α :=
  match d.lookup k with
  | none => .ok default
  | some v => decode v

/-- `extra="forbid"` -/
def forbid_extra (d : List (String × Value)) (known : List String) : Decoded Unit :=
  if d.all (fun e => known.contains e.1) then .ok ()
  else .error "Extra inputs are not permitted"

def SourceRef.decode (mode : DecodeMode) : Value → Decoded SourceRef
  | .dict d => do
    let excerpt ← required d "excerpt" decode_str
    if 800 < excerpt.length then .error "String should have at most 800 characters"
    else
      return {
        machine := ← required d "machine" decode_str
        truth_repository := ← required d "truth_repository" decode_str
        source := ← required d "source" (decode_literal SourceKind.names)
        session_id := ← required d "session_id" decode_str
        record_uuid := ← required d "record_uuid" decode_str
        timestamp := ← required d "timestamp" (decode_datetime mode)
        excerpt }
  | _ => .error "Input should be a valid dictionary or instance of SourceRef"

def ExperimentDecisionPin.decode (mode : DecodeMode) : Value → Decoded ExperimentDecisionPin
  | .dict d => do
    forbid_extra d ["decision_id", "decision_revision", "selected_option"]
    return {
      decision_id := ← required d "decision_id" decode_str
      decision_revision := ← required d "decision_revision" (decode_nat mode 0)
      selected_option := ← required d "selected_option" (decode_text 1) }
  | _ => .error "Input should be a valid dictionary or instance of ExperimentDecisionPin"

def ExperimentAttemptDebug.decode : Value → Decoded ExperimentAttemptDebug
  | .dict d => do
    forbid_extra d ["mechanical_fault", "change", "predicted_effect"]
    return {
      mechanical_fault := ← required d "mechanical_fault" (decode_text 1)
      change := ← required d "change" (decode_text 1)
      predicted_effect := ← required d "predicted_effect" (decode_text 1) }
  | _ => .error "Input should be a valid dictionary or instance of ExperimentAttemptDebug"

def ExperimentAttempt.decode (mode : DecodeMode) : Value → Decoded ExperimentAttempt
  | .dict d => do
    return {
      id := ← required d "id" decode_str
      sequence := ← required d "sequence" (decode_nat mode 1)
      purpose := ← required d "purpose" decode_str
      attempt_kind :=
        ← optional d "attempt_kind" .external_run (decode_literal AttemptKind.names)
      decision_bundle :=
        ← optional d "decision_bundle" [] (decode_list (ExperimentDecisionPin.decode mode))
      debug := ← optional d "debug" none (decode_optional ExperimentAttemptDebug.decode)
      configuration := ← optional d "configuration" "" decode_str
      status := ← optional d "status" .planned (decode_literal AttemptStatus.names)
      job_refs := ← optional d "job_refs" [] (decode_list decode_str)
      source_refs := ← optional d "source_refs" [] (decode_list (SourceRef.decode mode))
      outcome := ← optional d "outcome" none (decode_optional decode_str)
      failure_reason := ← optional d "failure_reason" none (decode_optional decode_str)
      started_at := ← optional d "started_at" none (decode_optional (decode_datetime mode))
      finished_at := ← optional d "finished_at" none (decode_optional (decode_datetime mode)) }
  | _ => .error "Input should be a valid dictionary or instance of ExperimentAttempt"

/-- One custom field value. -/
def ExtensionValue.decode : Value → Decoded ExtensionValue
  | .str s => .ok (.text s)
  | .int i => .ok (.number i)
  | .float q => .ok (.number q)
  | .bool b => .ok (.boolean b)
  | .list xs => (xs.mapM decode_str).map .text_list
  | _ => .error "Input should be a valid string"

def decode_extension_fields : Value → Decoded (Dict String ExtensionValue)
  | .dict d => do
    let entries ← d.mapM (fun e => (ExtensionValue.decode e.2).map (fun v => (e.1, v)))
    return Table.ofList entries
  | _ => .error "Input should be a valid dictionary"

/-! ### System fields -/

/-- `IMMUTABLE_NODE_UPDATE_FIELDS`: fields no node update may name. -/
def IMMUTABLE_NODE_UPDATE_FIELDS : List String :=
  ["id", "type", "extension_type", "standing", "created_rev", "updated_rev", "legacy_strength",
    "current_summary_stale", "next_action_stale"]

/-- `LEGACY_COMPATIBILITY_UPDATE_FIELDS`: fields that loading a generation-1
    Patch adds to its updates. -/
def LEGACY_COMPATIBILITY_UPDATE_FIELDS : List String :=
  ["legacy_strength", "current_summary_stale", "next_action_stale"]

/-- The fields only a generated action of a transition may write. -/
def GUIDANCE_STALE_FIELDS : List String := ["current_summary_stale", "next_action_stale"]

/-! ### Node overlays -/

/-- The value of a field after the overlay. -/
def overlay {α : Type} (changes : Dict String Value) (k : String) (current : α)
    (decode : Value → Decoded α) : Decoded α :=
  match Dict.get changes k with
  | none => .ok current
  | some v => decode v

def ResearchQuestion.with_changes (c : Dict String Value) (b : ResearchQuestion) :
    Decoded ResearchQuestion := do
  return {
    question := ← overlay c "question" b.question decode_str
    motivation := ← overlay c "motivation" b.motivation decode_str
    scope := ← overlay c "scope" b.scope decode_str
    status := ← overlay c "status" b.status (decode_literal QuestionStatus.names) }

def Hypothesis.with_changes (c : Dict String Value) (b : Hypothesis) : Decoded Hypothesis := do
  return {
    statement := ← overlay c "statement" b.statement decode_str
    rationale := ← overlay c "rationale" b.rationale decode_str
    predictions := ← overlay c "predictions" b.predictions (decode_list decode_str)
    scope := ← overlay c "scope" b.scope decode_str
    status := ← overlay c "status" b.status (decode_literal HypothesisStatus.names) }

def Decision.with_changes (c : Dict String Value) (b : Decision) : Decoded Decision := do
  return {
    question := ← overlay c "question" b.question decode_str
    options := ← overlay c "options" b.options (decode_list decode_str)
    selected_option := ← overlay c "selected_option" b.selected_option (decode_optional decode_str)
    rationale := ← overlay c "rationale" b.rationale (decode_optional decode_str)
    consequences := ← overlay c "consequences" b.consequences (decode_list decode_str)
    status := ← overlay c "status" b.status (decode_literal DecisionStatus.names) }

/-- `migrate_attempt_ceiling`: the retired name wins when it is present. -/
def ceiling_key (c : Dict String Value) : String :=
  if Dict.has c "attempt_ceiling" then "attempt_ceiling" else "invocation_ceiling"

def Experiment.with_changes (mode : DecodeMode) (c : Dict String Value) (b : Experiment) :
    Decoded Experiment := do
  return {
    objective := ← overlay c "objective" b.objective decode_str
    design := ← overlay c "design" b.design decode_str
    expected_outcomes := ← overlay c "expected_outcomes" b.expected_outcomes
      (decode_list decode_str)
    interpretation_rules :=
      ← overlay c "interpretation_rules" b.interpretation_rules (decode_list decode_str)
    completion_criteria :=
      ← overlay c "completion_criteria" b.completion_criteria (decode_list decode_str)
    invocation_ceiling := ← overlay c (ceiling_key c) b.invocation_ceiling (decode_nat mode 1)
    status := ← overlay c "status" b.status (decode_literal ExperimentStatus.names)
    attempts := ← overlay c "attempts" b.attempts (decode_list (ExperimentAttempt.decode mode))
    current_summary := ← overlay c "current_summary" b.current_summary decode_str
    next_action := ← overlay c "next_action" b.next_action (decode_optional decode_str)
    current_summary_stale :=
      ← overlay c "current_summary_stale" b.current_summary_stale (decode_bool mode)
    next_action_stale := ← overlay c "next_action_stale" b.next_action_stale (decode_bool mode) }

def Evidence.with_changes (c : Dict String Value) (b : Evidence) : Decoded Evidence := do
  return {
    observation := ← overlay c "observation" b.observation decode_str
    interpretation := ← overlay c "interpretation" b.interpretation decode_str
    role := ← overlay c "role" b.role (decode_literal EvidenceRole.names)
    legacy_strength := ← overlay c "legacy_strength" b.legacy_strength
      (decode_optional (decode_literal LegacyStrength.names))
    validity := ← overlay c "validity" b.validity (decode_literal EvidenceValidity.names)
    origin := ← overlay c "origin" b.origin (decode_literal EvidenceOrigin.names)
    artifact_refs := ← overlay c "artifact_refs" b.artifact_refs (decode_list decode_str) }

def Blocker.with_changes (c : Dict String Value) (b : Blocker) : Decoded Blocker := do
  return {
    description := ← overlay c "description" b.description decode_str
    blocker_type := ← overlay c "blocker_type" b.blocker_type (decode_literal BlockerType.names)
    status := ← overlay c "status" b.status (decode_literal BlockerStatus.names)
    resolution_condition := ← overlay c "resolution_condition" b.resolution_condition decode_str
    recommended_action :=
      ← overlay c "recommended_action" b.recommended_action (decode_optional decode_str) }

def NodeBody.with_changes (mode : DecodeMode) (c : Dict String Value) :
    NodeBody → Decoded NodeBody
  | .research_question b => (b.with_changes c).map .research_question
  | .hypothesis b => (b.with_changes c).map .hypothesis
  | .decision b => (b.with_changes c).map .decision
  | .experiment b => (b.with_changes mode c).map .experiment
  | .evidence b => (b.with_changes c).map .evidence
  | .blocker b => (b.with_changes c).map .blocker

/-- The declared fields of `BaseNode`. -/
def base_node_fields : List String :=
  ["id", "title", "extension_type", "extension_fields", "standing", "created_rev",
    "updated_rev", "source_refs"]

/-- The declared fields of a typed node beyond `BaseNode`. -/
def typed_node_fields : NodeType → List String
  | .research_question => ["type", "question", "motivation", "scope", "status"]
  | .hypothesis => ["type", "statement", "rationale", "predictions", "scope", "status"]
  | .decision =>
    ["type", "question", "options", "selected_option", "rationale", "consequences", "status"]
  | .experiment =>
    ["type", "objective", "design", "expected_outcomes", "interpretation_rules",
      "completion_criteria", "invocation_ceiling", "status", "attempts", "current_summary",
      "next_action", "current_summary_stale", "next_action_stale"]
  | .evidence =>
    ["type", "observation", "interpretation", "role", "legacy_strength", "validity", "origin",
      "artifact_refs"]
  | .blocker =>
    ["type", "description", "blocker_type", "status", "resolution_condition",
      "recommended_action"]

/-- Field names an update of a node of this type may spell; `attempt_ceiling`
    is the retired name of `invocation_ceiling`. -/
def accepted_fields (t : NodeType) : List String :=
  base_node_fields ++ typed_node_fields t ++
    (if t = .experiment then ["attempt_ceiling"] else [])

/-- The dump of `n` overlaid with `changes`, validated again. -/
def Node.with_changes (mode : DecodeMode) (n : Node) (changes : Dict String Value) :
    Decoded Node := do
  if changes.keys.all (fun k => (accepted_fields n.type).contains k) then
    let title ← overlay changes "title" n.title decode_str
    let extension_fields ←
      overlay changes "extension_fields" n.extension_fields decode_extension_fields
    let source_refs ←
      overlay changes "source_refs" n.source_refs (decode_list (SourceRef.decode mode))
    let body ← n.body.with_changes mode changes
    return { n with title, extension_fields, source_refs, body }
  else .error "Extra inputs are not permitted"

/-! ### Attribute access -/

def str_list (xs : List String) : Value := .list (xs.map .str)

def opt_str : Option String → Value
  | none => .null
  | some s => .str s

/-- The attribute of a typed body as a dynamic value. -/
def NodeBody.attr : NodeBody → String → Option Value
  | .research_question b, "question" => some (.str b.question)
  | .research_question b, "motivation" => some (.str b.motivation)
  | .research_question b, "scope" => some (.str b.scope)
  | .research_question b, "status" => some (.str (literal_name QuestionStatus.names b.status))
  | .hypothesis b, "statement" => some (.str b.statement)
  | .hypothesis b, "rationale" => some (.str b.rationale)
  | .hypothesis b, "predictions" => some (str_list b.predictions)
  | .hypothesis b, "scope" => some (.str b.scope)
  | .hypothesis b, "status" => some (.str (literal_name HypothesisStatus.names b.status))
  | .decision b, "question" => some (.str b.question)
  | .decision b, "options" => some (str_list b.options)
  | .decision b, "selected_option" => some (opt_str b.selected_option)
  | .decision b, "rationale" => some (opt_str b.rationale)
  | .decision b, "consequences" => some (str_list b.consequences)
  | .decision b, "status" => some (.str (literal_name DecisionStatus.names b.status))
  | .experiment b, "objective" => some (.str b.objective)
  | .experiment b, "design" => some (.str b.design)
  | .experiment b, "expected_outcomes" => some (str_list b.expected_outcomes)
  | .experiment b, "interpretation_rules" => some (str_list b.interpretation_rules)
  | .experiment b, "completion_criteria" => some (str_list b.completion_criteria)
  | .experiment b, "invocation_ceiling" => some (.int b.invocation_ceiling)
  | .experiment b, "status" => some (.str (literal_name ExperimentStatus.names b.status))
  | .experiment b, "current_summary" => some (.str b.current_summary)
  | .experiment b, "next_action" => some (opt_str b.next_action)
  | .experiment b, "current_summary_stale" => some (.bool b.current_summary_stale)
  | .experiment b, "next_action_stale" => some (.bool b.next_action_stale)
  | .evidence b, "observation" => some (.str b.observation)
  | .evidence b, "interpretation" => some (.str b.interpretation)
  | .evidence b, "role" => some (.str (literal_name EvidenceRole.names b.role))
  | .evidence b, "legacy_strength" => some (match b.legacy_strength with
    | none => .null
    | some l => .str (literal_name LegacyStrength.names l))
  | .evidence b, "validity" => some (.str (literal_name EvidenceValidity.names b.validity))
  | .evidence b, "origin" => some (.str (literal_name EvidenceOrigin.names b.origin))
  | .evidence b, "artifact_refs" => some (str_list b.artifact_refs)
  | .blocker b, "description" => some (.str b.description)
  | .blocker b, "blocker_type" => some (.str (literal_name BlockerType.names b.blocker_type))
  | .blocker b, "status" => some (.str (literal_name BlockerStatus.names b.status))
  | .blocker b, "resolution_condition" => some (.str b.resolution_condition)
  | .blocker b, "recommended_action" => some (opt_str b.recommended_action)
  | _, _ => none

/-- Custom field values as one object. -/
def extension_object (fields : Dict String ExtensionValue) : Value :=
  .dict (fields.items.map (fun e => (e.1, e.2.to_value)))

/-- `getattr(node, field)` for every attribute a raw value can equal. -/
def Node.attr (n : Node) : String → Option Value
  | "id" => some (.str n.id)
  | "title" => some (.str n.title)
  | "type" => some (.str n.type.name)
  | "extension_type" => some (opt_str n.extension_type)
  | "extension_fields" => some (extension_object n.extension_fields)
  | "standing" => some (.str (literal_name Standing.names n.standing))
  | "created_rev" => some (.int n.created_rev)
  | "updated_rev" => some (.int n.updated_rev)
  | field => n.body.attr field

/-- `getattr(node, field, object()) == value`.  Lists of typed records equal a
    raw list only when both are empty. -/
def Node.attr_equals (n : Node) (field : String) (v : Value) : Bool :=
  match field, n.body with
  | "source_refs", _ => n.source_refs.isEmpty && v == .list []
  | "attempts", .experiment b => b.attempts.isEmpty && v == .list []
  | field, _ => match n.attr field with
    | none => false
    | some a => a.loosely_equal v

end ResearchGraph
