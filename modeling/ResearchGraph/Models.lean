import ResearchGraph.Lib.Table
import ResearchGraph.Lib.Value

/-! # Data model (`rcp/core/models.py`)

    Nodes, edges, the ontology and the records that surround them.  Field
    names are the source's.  A record whose values must keep an invariant
    (unique definition names, a map keyed by the embedded id) is a `Table`, so
    that an ill-formed one cannot be built.
-/

namespace ResearchGraph

open Lib

/-! ### Time stamps -/

/-- A calendar time; `offset` is the UTC offset in minutes of an aware one. -/
structure Datetime where
  year : Nat
  month : Nat
  day : Nat
  hour : Nat := 0
  minute : Nat := 0
  second : Nat := 0
  microsecond : Nat := 0
  offset : Option Int := some 0
  deriving DecidableEq, Repr, Inhabited

namespace Datetime

/-- Days since 1970-01-01 of a date of the proleptic Gregorian calendar. -/
def days (t : Datetime) : Int :=
  let y : Int := if t.month ≤ 2 then (t.year : Int) - 1 else t.year
  let era := y / 400
  let yoe := y - era * 400
  let mp : Int := ((t.month : Int) + 9) % 12
  let doy := (153 * mp + 2) / 5 + (t.day : Int) - 1
  let doe := yoe * 365 + yoe / 4 - yoe / 100 + doy
  era * 146097 + doe - 719468

/-- Microseconds since the epoch, after removing the offset of an aware time. -/
def instant (t : Datetime) : Int :=
  (((t.days * 24 + t.hour) * 60 + t.minute - t.offset.getD 0) * 60 + t.second) * 1000000
    + t.microsecond

/-- Ordering a naive against an aware time is a type error in the source. -/
def comparable (s t : Datetime) : Bool := s.offset.isSome == t.offset.isSome

end Datetime

/-! ### Nodes -/

inductive Standing
  | asserted
  | accepted
  | contested
  deriving DecidableEq, Repr, Inhabited

inductive NodeType
  | research_question
  | hypothesis
  | decision
  | experiment
  | evidence
  | blocker
  deriving DecidableEq, Repr, Inhabited

/-- The discriminator text of a node type. -/
def NodeType.name : NodeType → String
  | .research_question => "research_question"
  | .hypothesis => "hypothesis"
  | .decision => "decision"
  | .experiment => "experiment"
  | .evidence => "evidence"
  | .blocker => "blocker"

def ALL_NODE_TYPES : List NodeType :=
  [.research_question, .hypothesis, .decision, .experiment, .evidence, .blocker]

inductive SourceKind
  | claude
  | codex
  | app_chat
  deriving DecidableEq, Repr, Inhabited

structure SourceRef where
  machine : String
  truth_repository : String
  source : SourceKind
  session_id : String
  record_uuid : String
  timestamp : Datetime
  excerpt : String
  deriving DecidableEq, Repr

structure ExperimentDecisionPin where
  decision_id : String
  decision_revision : Nat
  selected_option : String
  deriving DecidableEq, Repr

structure ExperimentAttemptDebug where
  mechanical_fault : String
  change : String
  predicted_effect : String
  deriving DecidableEq, Repr

inductive AttemptStatus
  | planned
  | submitted
  | running
  | failed
  | completed
  | cancelled
  | superseded
  deriving DecidableEq, Repr, Inhabited

/-- `ACTIVE_EXPERIMENT_ATTEMPT_STATUSES` -/
def AttemptStatus.active : AttemptStatus → Bool
  | .planned | .submitted | .running => true
  | _ => false

inductive AttemptKind
  | external_run
  | proposal_only
  deriving DecidableEq, Repr, Inhabited

structure ExperimentAttempt where
  id : String
  sequence : Nat
  purpose : String
  attempt_kind : AttemptKind := .external_run
  decision_bundle : List ExperimentDecisionPin := []
  debug : Option ExperimentAttemptDebug := none
  configuration : String := ""
  status : AttemptStatus := .planned
  job_refs : List String := []
  source_refs : List SourceRef := []
  outcome : Option String := none
  failure_reason : Option String := none
  started_at : Option Datetime := none
  finished_at : Option Datetime := none
  deriving DecidableEq, Repr

inductive QuestionStatus
  | «open»
  | answered
  | abandoned
  | superseded
  deriving DecidableEq, Repr, Inhabited

structure ResearchQuestion where
  question : String
  motivation : String := ""
  scope : String := ""
  status : QuestionStatus := .open
  deriving DecidableEq, Repr

inductive HypothesisStatus
  | proposed
  | active
  | supported
  | weakened
  | rejected
  | superseded
  deriving DecidableEq, Repr, Inhabited

structure Hypothesis where
  statement : String
  rationale : String := ""
  predictions : List String := []
  scope : String := ""
  status : HypothesisStatus := .proposed
  deriving DecidableEq, Repr

inductive DecisionStatus
  | «open»
  | ready
  | decided
  | revisit
  | superseded
  deriving DecidableEq, Repr, Inhabited

structure Decision where
  question : String
  options : List String := []
  selected_option : Option String := none
  rationale : Option String := none
  consequences : List String := []
  status : DecisionStatus := .open
  deriving DecidableEq, Repr

inductive ExperimentStatus
  | proposed
  | designing
  | implementing
  | debugging
  | running
  | analyzing
  | completed
  | unspecified
  | abandoned
  | superseded
  deriving DecidableEq, Repr, Inhabited

structure Experiment where
  objective : String
  design : String := ""
  expected_outcomes : List String := []
  interpretation_rules : List String := []
  completion_criteria : List String := []
  invocation_ceiling : Nat := 5
  status : ExperimentStatus := .proposed
  attempts : List ExperimentAttempt := []
  current_summary : String := ""
  next_action : Option String := none
  current_summary_stale : Bool := false
  next_action_stale : Bool := false
  deriving DecidableEq, Repr

inductive EvidenceRole
  | result
  | diagnostic
  deriving DecidableEq, Repr, Inhabited

inductive LegacyStrength
  | diagnostic
  | preliminary
  | supporting
  | confirmatory
  deriving DecidableEq, Repr, Inhabited

inductive EvidenceValidity
  | valid
  | qualified
  | invalid
  | superseded
  deriving DecidableEq, Repr, Inhabited

inductive EvidenceOrigin
  | internal_run
  | external_publication
  | external_instance
  | analytic
  | unknown
  deriving DecidableEq, Repr, Inhabited

structure Evidence where
  observation : String
  interpretation : String := ""
  role : EvidenceRole := .result
  legacy_strength : Option LegacyStrength := none
  validity : EvidenceValidity := .valid
  origin : EvidenceOrigin := .unknown
  artifact_refs : List String := []
  deriving DecidableEq, Repr

inductive BlockerType
  | scientific
  | design
  | data
  | implementation
  | infrastructure
  | unknown
  deriving DecidableEq, Repr, Inhabited

inductive BlockerStatus
  | «open»
  | resolved
  | superseded
  deriving DecidableEq, Repr, Inhabited

structure Blocker where
  description : String
  blocker_type : BlockerType := .unknown
  status : BlockerStatus := .open
  resolution_condition : String := ""
  recommended_action : Option String := none
  deriving DecidableEq, Repr

/-- The part of a node that depends on its type. -/
inductive NodeBody
  | research_question (b : ResearchQuestion)
  | hypothesis (b : Hypothesis)
  | decision (b : Decision)
  | experiment (b : Experiment)
  | evidence (b : Evidence)
  | blocker (b : Blocker)
  deriving DecidableEq, Repr

def NodeBody.type : NodeBody → NodeType
  | .research_question _ => .research_question
  | .hypothesis _ => .hypothesis
  | .decision _ => .decision
  | .experiment _ => .experiment
  | .evidence _ => .evidence
  | .blocker _ => .blocker

/-- A custom field value: `str | float | bool | list[str]`. -/
inductive ExtensionValue
  | text (s : String)
  | number (q : Rat)
  | boolean (b : Bool)
  | text_list (xs : List String)
  deriving DecidableEq

def ExtensionValue.to_value : ExtensionValue → Value
  | .text s => .str s
  | .number q => .float q
  | .boolean b => .bool b
  | .text_list xs => .list (xs.map .str)

/-- `ProjectNode`: the common fields of `BaseNode` and the typed body. -/
structure Node where
  id : String
  title : String
  extension_type : Option String := none
  extension_fields : Dict String ExtensionValue := Table.empty
  standing : Standing := .asserted
  created_rev : Nat := 0
  updated_rev : Nat := 0
  source_refs : List SourceRef := []
  body : NodeBody
  deriving DecidableEq

def Node.type (n : Node) : NodeType := n.body.type

instance : Keyed Node String := ⟨Node.id⟩

/-- ResearchQuestion and Hypothesis nodes carry beliefs that agents may not move. -/
def NodeType.protected_belief : NodeType → Bool
  | .research_question | .hypothesis => true
  | _ => false

/-- `HUMAN_EDITABLE_NODE_FIELDS` -/
def HUMAN_EDITABLE_NODE_FIELDS : NodeType → List String
  | .research_question => ["title", "question", "motivation", "scope"]
  | .hypothesis => ["title", "statement", "rationale", "predictions", "scope"]
  | .decision => ["title", "question", "options", "rationale", "consequences", "status"]
  | .experiment =>
    ["title", "objective", "design", "expected_outcomes", "interpretation_rules",
      "completion_criteria", "attempt_ceiling", "invocation_ceiling", "current_summary",
      "next_action"]
  | .evidence => ["title", "observation", "interpretation"]
  | .blocker => ["title", "description", "status", "resolution_condition", "recommended_action"]

/-! ### Relations and edges -/

inductive RelationLayer
  | epistemic
  | action
  | seam
  | «meta»
  deriving DecidableEq, Repr, Inhabited

structure RelationSpec where
  source_types : List NodeType
  target_types : List NodeType
  layer : RelationLayer
  same_type : Bool := false

/-- `RELATION_SPEC`: the immutable base relations. -/
def RELATION_SPEC : String → Option RelationSpec
  | "has_subquestion" => some ⟨[.research_question], [.research_question], .epistemic, false⟩
  | "has_hypothesis" => some ⟨[.research_question], [.hypothesis], .epistemic, false⟩
  | "supports" => some ⟨[.evidence], [.hypothesis], .epistemic, false⟩
  | "weakens" => some ⟨[.evidence], [.hypothesis], .epistemic, false⟩
  | "refutes" => some ⟨[.evidence], [.hypothesis], .epistemic, false⟩
  | "inconclusive" => some ⟨[.evidence], [.hypothesis], .epistemic, false⟩
  | "contradicts" => some ⟨[.evidence, .hypothesis], [.hypothesis], .epistemic, false⟩
  | "tests" => some ⟨[.experiment], [.hypothesis], .seam, false⟩
  | "produces" => some ⟨[.experiment], [.evidence], .seam, false⟩
  | "informs" => some ⟨[.evidence], [.decision], .action, false⟩
  | "addresses" => some ⟨[.evidence], [.blocker], .action, false⟩
  | "has_decision" => some ⟨[.research_question], [.decision], .action, false⟩
  | "governed_by" => some ⟨[.experiment], [.decision], .action, false⟩
  | "blocked_by" =>
    some ⟨[.experiment, .decision, .research_question], [.blocker], .action, false⟩
  | "requires_decision" => some ⟨[.blocker], [.decision], .action, false⟩
  | "supersedes" => some ⟨ALL_NODE_TYPES, ALL_NODE_TYPES, .«meta», true⟩
  | "duplicate_of" => some ⟨ALL_NODE_TYPES, ALL_NODE_TYPES, .«meta», true⟩
  | _ => none

inductive Relevance
  | direct
  | indirect
  | contextual
  deriving DecidableEq, Repr, Inhabited

inductive Weight
  | limited
  | moderate
  | strong
  deriving DecidableEq, Repr, Inhabited

structure EvidenceAssessment where
  relevance : Relevance
  weight : Weight
  scope : Option String := none
  qualifications : List String := []
  deriving DecidableEq, Repr

structure Edge where
  id : String
  source : String
  target : String
  relation : String
  layer : RelationLayer
  explanation : String := ""
  assessment : Option EvidenceAssessment := none
  created_rev : Nat := 0
  deriving DecidableEq, Repr

instance : Keyed Edge String := ⟨Edge.id⟩

/-! ### Ontology -/

/-- The layer of a custom type or relation: `epistemic` or `action`. -/
inductive OntologyLayer
  | epistemic
  | action
  deriving DecidableEq, Repr, Inhabited

def OntologyLayer.relation_layer : OntologyLayer → RelationLayer
  | .epistemic => .epistemic
  | .action => .action

inductive FieldKind
  | text
  | number
  | boolean
  | text_list
  deriving DecidableEq, Repr, Inhabited

structure OntologyTypeDefinition where
  name : String
  definition : String
  base_type : NodeType
  layer : OntologyLayer
  deprecated : Bool := false
  deriving DecidableEq, Repr

structure OntologyFieldDefinition where
  owner_type : String
  name : String
  definition : String
  kind : FieldKind
  required : Bool := false
  agent_writable : Bool := true
  deprecated : Bool := false
  deriving DecidableEq, Repr

structure OntologyRelationDefinition where
  name : String
  definition : String
  source_types : List String
  target_types : List String
  layer : OntologyLayer
  deprecated : Bool := false
  deriving DecidableEq, Repr

instance : Keyed OntologyTypeDefinition String := ⟨OntologyTypeDefinition.name⟩
instance : Keyed OntologyFieldDefinition (String × String) := ⟨fun d => (d.owner_type, d.name)⟩
instance : Keyed OntologyRelationDefinition String := ⟨OntologyRelationDefinition.name⟩

/-- `OntologyState`; `require_unique_names` is the key discipline of the tables. -/
structure OntologyState where
  types : Table OntologyTypeDefinition := Table.empty
  fields : Table OntologyFieldDefinition := Table.empty
  relations : Table OntologyRelationDefinition := Table.empty
  deriving DecidableEq

/-! ### Glossary, ambiguities, coverage -/

inductive AmbiguityStatus
  | «open»
  | resolved
  | dismissed
  deriving DecidableEq, Repr, Inhabited

structure Ambiguity where
  id : String
  question : String
  why_it_matters : String
  candidates : List String := []
  related_node_ids : List String := []
  artifact_refs : List String := []
  status : AmbiguityStatus := .open
  raised_rev : Nat := 0
  deriving DecidableEq, Repr

instance : Keyed Ambiguity String := ⟨Ambiguity.id⟩

structure GlossaryTerm where
  term : String
  plain_definition : String
  where_defined : Option String := none
  updated_rev : Nat := 0
  deriving DecidableEq, Repr

instance : Keyed GlossaryTerm String := ⟨GlossaryTerm.term⟩

structure CoverageBoundary where
  repositories_seen : List String := []
  repositories_never_seen : List String := []
  sessions_read : List String := []
  sessions_skipped : List String := []
  earliest_timestamp : Option Datetime := none
  note : String := "No seed has completed."
  deriving DecidableEq, Repr

end ResearchGraph
