import ResearchGraph.Lib.Rewrite

/-! # Reading documents of older releases

    Patches and graph snapshots are persisted as JSON.  Documents of older
    releases are rewritten to the current vocabulary before they are decoded:
    the name of the episode field, the strength of evidence, the blocked phase
    of an experiment, the revision stored with an ambiguity, and the intents of
    proposals and of approved operations.

    The documents are arbitrary JSON objects; what has not the expected shape
    is left to the decoder.  The rewritings settle (`Settles`): a document that
    was adapted once is not changed by adapting it again.
-/

namespace ResearchGraph

open Lib

/-- What an adapter may raise. -/
inductive AdapterError
  | value_error (text : String)
  | type_error (text : String)
  deriving DecidableEq, Repr

abbrev Adapted := Except AdapterError

/-- Membership in a set and lookup in a dictionary hash the value. -/
def hashed : Value → Adapted Unit
  | .list _ => .error (.type_error "unhashable type: 'list'")
  | .dict _ => .error (.type_error "unhashable type: 'dict'")
  | _ => .ok ()

/-! ### Node records -/

def adapt_legacy_evidence_record (assume_default_strength : Bool) (record : Entries) : Entries :=
  let strength := record.get "strength"
  let record := record.pop "strength"
  let strength :=
    if strength = .null ∧ assume_default_strength = true ∧ record.has "role" = false then
      .str "preliminary"
    else strength
  if strength = .null then record
  else
    let role := if strength = .str "diagnostic" then "diagnostic" else "result"
    (record.put "role" (.str role)).put "legacy_strength" strength

def adapt_legacy_experiment_record (record : Entries) : Entries :=
  if record.get "status" = .str "blocked" then
    let record := record.put "status" (.str "unspecified")
    let record :=
      if (record.get "current_summary").truthy then
        record.put "current_summary_stale" (.bool true)
      else record
    if (record.get "next_action").truthy then record.put "next_action_stale" (.bool true)
    else record
  else record

/-- A record of a `create_nodes` operation. -/
def adapt_legacy_created_node (legacy_generation : Bool) (node : Entries) : Entries :=
  let node :=
    if legacy_generation = true ∧ node.get "type" = .str "evidence" then
      adapt_legacy_evidence_record legacy_generation node
    else node
  if legacy_generation = true ∧ node.get "type" = .str "experiment" then
    adapt_legacy_experiment_record node
  else node

/-- The changes of an `update_nodes` record. -/
def adapt_legacy_changes (legacy_generation : Bool) (changes : Entries) : Entries :=
  let changes :=
    if legacy_generation = true ∧ changes.has "strength" = true then
      adapt_legacy_evidence_record false changes
    else changes
  if legacy_generation = true then adapt_legacy_experiment_record changes else changes

/-! ### Operations

    The source hands each adapter an arbitrary value and returns at once when it is no
    object; here the adapters take the entries, and `Value.on_dict` applies them.
-/

def adapt_legacy_node_operation (legacy_generation : Bool) (operation : Entries) :
    Adapted Entries :=
  if operation.get "op" = .str "create_nodes" then
    operation.within "nodes" (Value.on_list (Value.on_dict fun node =>
      .ok (adapt_legacy_created_node legacy_generation node)))
  else if operation.get "op" = .str "update_nodes" then
    operation.within "nodes" (Value.on_list (Value.on_dict fun update =>
      update.within "changes" (Value.on_dict fun changes =>
        .ok (adapt_legacy_changes legacy_generation changes))))
  else .ok operation

/-- Drop the revision older releases wrote into a persisted ambiguity. -/
def adapt_legacy_ambiguity_operation (operation : Entries) : Adapted Entries :=
  if operation.get "op" = .str "create_ambiguities" then
    operation.within "ambiguities" (Value.on_list (Value.on_dict fun ambiguity =>
      .ok (ambiguity.pop "raised_rev")))
  else .ok operation

/-- Intents an old approval kept on the operations it made semantic. -/
def recognized_intents : List (Value × Value) :=
  [(.str "update_nodes", .str "content_change"),
    (.str "update_nodes", .str "status_change"),
    (.str "remove_nodes", .str "removal"),
    (.str "supersede_nodes", .str "supersede"),
    (.str "merge_nodes", .str "merge"),
    (.str "create_edges", .str "protected_relation_change"),
    (.str "remove_edges", .str "protected_relation_change")]

/-- Drop the Proposal-only intent once an old approval made the operation semantic. -/
def adapt_legacy_approval_operation (operation : Entries) : Adapted Entries := do
  hashed (operation.get "op")
  hashed (operation.get "intent")
  if (operation.get "op", operation.get "intent") ∈ recognized_intents then
    .ok (operation.pop "intent")
  else .ok operation

/-! ### Proposals -/

/-- Intents of the operations whose name alone decides them. -/
def legacy_intents : List (String × String) :=
  [("create_nodes", "legacy_create_nodes"),
    ("create_ambiguities", "legacy_create_ambiguities"),
    ("resolve_ambiguities", "legacy_resolve_ambiguities"),
    ("upsert_glossary", "legacy_upsert_glossary"),
    ("set_coverage", "legacy_set_coverage"),
    ("remove_nodes", "legacy_removal"),
    ("supersede_nodes", "legacy_supersede"),
    ("merge_nodes", "legacy_merge"),
    ("create_edges", "legacy_protected_relation_change"),
    ("remove_edges", "legacy_protected_relation_change"),
    ("set_project_truth_scope", "legacy_project_truth_scope_change"),
    ("set_ontology", "legacy_ontology_change")]

/-- Whether the single update changes nothing but a status, by an evidence edge. -/
def legacy_status_update : Value → Bool
  | .list [.dict update] =>
    match Entries.get update "changes", Entries.get update "cause" with
    | .dict changes, .dict cause =>
      !changes.isEmpty && changes.all (fun e => e.1 = "status") &&
        decide (Entries.get cause "kind" = .str "evidence_edge")
    | _, _ => false
  | _ => false

def legacy_proposal_intent (operation : Entries) : Adapted (Option String) :=
  let name := operation.get "op"
  if name = .str "update_nodes" then
    if legacy_status_update (operation.get "nodes") then .ok (some "legacy_status_change")
    else .ok (some "legacy_content_change")
  else do
    hashed name
    match name with
    | .str s => .ok (legacy_intents.lookup s)
    | _ => .ok none

/-- Supply the discriminator of an operation that predates it. -/
def adapt_legacy_intent (legacy_generation : Bool) (operation : Entries) : Adapted Entries :=
  if legacy_generation = true ∧ operation.has "intent" = false then do
    match ← legacy_proposal_intent operation with
    | some intent => .ok (operation.put "intent" (.str intent))
    | none => .ok operation
  else .ok operation

def adapt_legacy_proposal_document (legacy_generation : Bool) (proposal : Entries) :
    Adapted Entries :=
  proposal.within "ops" (Value.on_list (Value.on_dict fun operation => do
    let operation ← adapt_legacy_node_operation legacy_generation operation
    adapt_legacy_intent legacy_generation operation))

/-! ### Documents -/

/-- The proposals of a `create_proposals` operation. -/
def adapt_created_proposals (legacy_generation : Bool) (operation : Entries) : Adapted Entries :=
  if operation.get "op" = .str "create_proposals" then
    operation.within "proposals" (Value.on_list (Value.on_dict
      (adapt_legacy_proposal_document legacy_generation)))
  else .ok operation

/-- Adapt an operation under a condition on the document. -/
def adapt_if (condition : Bool) (adapt : Entries → Adapted Entries) (operation : Entries) :
    Adapted Entries :=
  if condition = true then adapt operation else .ok operation

/-- One operation of a patch document. -/
def adapt_patch_operation (legacy_generation approval : Bool) (operation : Entries) :
    Adapted Entries := do
  let operation ← adapt_if (legacy_generation && approval) adapt_legacy_approval_operation operation
  let operation ← adapt_legacy_node_operation legacy_generation operation
  let operation ← adapt_if legacy_generation adapt_legacy_ambiguity_operation operation
  adapt_created_proposals legacy_generation operation

/-- Whether an operation creates Evidence that carries the compatibility field. -/
def creates_legacy_strength : Value → Bool
  | .dict operation =>
    if Entries.get operation "op" = .str "create_nodes" then
      match Entries.get operation "nodes" with
      | .list nodes => nodes.any fun
        | .dict node =>
          decide (Entries.get node "type" = .str "evidence") && Entries.has node "legacy_strength"
        | _ => false
      | _ => false
    else false
  | _ => false

/-- The operations of a patch document whose generation is marked.  Of a candidate that was
    rejected only the receipt is kept. -/
def adapt_patch_operations (legacy_generation : Bool) (adapted : Entries) : Adapted Entries :=
  if adapted.get "admission" = .str "rejected" then
    .ok (adapted.put "ops" (.list []))
  else
    match adapted.get "ops" with
    | .list operations =>
      if legacy_generation = false ∧ operations.any creates_legacy_strength = true then
        .error (.value_error ("schema-generation 2 patches cannot create Evidence with " ++
          "legacy_strength compatibility metadata"))
      else
        adapted.within "ops" (Value.on_list (Value.on_dict (adapt_patch_operation
          legacy_generation (decide (adapted.get "kind" = .str "approval")))))
    | _ => .ok adapted

def adapt_persisted_patch_document (document : Entries) : Adapted Entries :=
  if document.has "campaign_id" = true ∧ document.has "episode_id" = true then
    .error (.value_error "persisted Patch cannot contain both campaign_id and episode_id")
  else
    let adapted :=
      if document.has "campaign_id" = true then
        (document.pop "campaign_id").put "episode_id" (document.get "campaign_id")
      else document
    let marker_missing := !adapted.has "schema_generation"
    let legacy_generation :=
      marker_missing || (adapted.get "schema_generation").loosely_equal (.int 1)
    let adapted :=
      if marker_missing = true then adapted.put "schema_generation" (.int 1) else adapted
    adapt_patch_operations legacy_generation adapted

/-- A node of a graph snapshot. -/
def adapt_snapshot_node (node : Entries) : Entries :=
  if node.get "type" = .str "evidence" then adapt_legacy_evidence_record true node
  else if node.get "type" = .str "experiment" then adapt_legacy_experiment_record node
  else node

def adapt_persisted_graph_state_document (document : Entries) : Adapted Entries := do
  let adapted ← document.within "nodes" (Value.on_values (Value.on_dict fun node =>
    .ok (adapt_snapshot_node node)))
  adapted.within "proposals" (Value.on_values (Value.on_dict
    (adapt_legacy_proposal_document true)))

/-! ### Records settle -/

theorem adapted_evidence_strength (assume : Bool) (record : Entries) :
    (adapt_legacy_evidence_record assume record).has "strength" = false := by
  simp only [adapt_legacy_evidence_record]
  split <;> split <;> simp [Entries.has_put_ne]

theorem adapted_evidence_type (assume : Bool) (record : Entries) :
    (adapt_legacy_evidence_record assume record).get "type" = record.get "type" := by
  simp only [adapt_legacy_evidence_record]
  split <;> split <;> simp [Entries.get_put_ne, Entries.get_pop_ne]

/-- A record without the old field that has a role, or need not have one, is current. -/
theorem adapt_evidence_current {assume : Bool} {record : Entries}
    (hstrength : record.has "strength" = false)
    (hrole : assume = true → record.has "role" = true) :
    adapt_legacy_evidence_record assume record = record := by
  have hnull : record.get "strength" = .null := Entries.get_of_not_has hstrength
  have hpop : record.pop "strength" = record := Entries.pop_eq_self hstrength
  have hkeep : ¬ (assume = true ∧ record.has "role" = false) := by
    rintro ⟨ha, hr⟩
    simp [hrole ha] at hr
  simp [adapt_legacy_evidence_record, hnull, hpop, hkeep]

theorem adapted_evidence_role (record : Entries) :
    (adapt_legacy_evidence_record true record).has "role" = true := by
  simp only [adapt_legacy_evidence_record, true_and]
  by_cases hrole : (record.pop "strength").has "role" = true
  · split
    · simp [hrole] at *
    · split
      · exact hrole
      · simp [Entries.has_put_ne]
  · split
    · simp [Entries.has_put_ne]
    · rename_i hcase
      have hs : record.get "strength" ≠ .null := by
        intro hnull
        exact hcase ⟨hnull, by simpa using hrole⟩
      simp [hs, Entries.has_put_ne]

theorem adapt_evidence_idempotent (assume : Bool) (record : Entries) :
    adapt_legacy_evidence_record assume (adapt_legacy_evidence_record assume record) =
      adapt_legacy_evidence_record assume record := by
  apply adapt_evidence_current (adapted_evidence_strength assume record)
  rintro rfl
  exact adapted_evidence_role record

/-- Only the phase and the two freshness marks of an experiment record change. -/
theorem adapted_experiment_get {k : String} (record : Entries) (hs : k ≠ "status")
    (hc : k ≠ "current_summary_stale") (hn : k ≠ "next_action_stale") :
    (adapt_legacy_experiment_record record).lookup k = record.lookup k := by
  simp only [adapt_legacy_experiment_record]
  split <;> try rfl
  split <;> split <;> simp [Entries.lookup_put, hs, hc, hn]

theorem adapted_experiment_status (record : Entries) :
    (adapt_legacy_experiment_record record).get "status" ≠ .str "blocked" := by
  simp only [adapt_legacy_experiment_record]
  split
  · split <;> split <;> simp [Entries.get_put_ne]
  · assumption

theorem adapt_experiment_idempotent (record : Entries) :
    adapt_legacy_experiment_record (adapt_legacy_experiment_record record) =
      adapt_legacy_experiment_record record := by
  conv_lhs => rw [adapt_legacy_experiment_record, if_neg (adapted_experiment_status record)]

theorem adapt_created_idempotent (legacy : Bool) (node : Entries) :
    adapt_legacy_created_node legacy (adapt_legacy_created_node legacy node) =
      adapt_legacy_created_node legacy node := by
  cases legacy with
  | false => simp [adapt_legacy_created_node]
  | true =>
    by_cases hev : node.get "type" = .str "evidence"
    · have htype := adapted_evidence_type true node
      simp [adapt_legacy_created_node, hev, htype, adapt_evidence_idempotent]
    · by_cases hex : node.get "type" = .str "experiment"
      · have htype : (adapt_legacy_experiment_record node).get "type" = node.get "type" := by
          simp [Entries.get, adapted_experiment_get]
        simp [adapt_legacy_created_node, hex, htype, adapt_experiment_idempotent]
      · simp [adapt_legacy_created_node, hev, hex]

theorem adapt_changes_idempotent (legacy : Bool) (changes : Entries) :
    adapt_legacy_changes legacy (adapt_legacy_changes legacy changes) =
      adapt_legacy_changes legacy changes := by
  cases legacy with
  | false => simp [adapt_legacy_changes]
  | true =>
    -- after the first pass the strength is gone, and the second pass finds the phase rewritten
    have hstrength : (adapt_legacy_changes true changes).has "strength" = false := by
      simp only [adapt_legacy_changes, true_and, if_true]
      rw [Entries.has, adapted_experiment_get _ (by decide) (by decide) (by decide)]
      split
      · exact adapted_evidence_strength false changes
      · rename_i h
        exact Bool.eq_false_iff.mpr h
    have hfirst : ∃ record, adapt_legacy_changes true changes =
        adapt_legacy_experiment_record record := ⟨_, rfl⟩
    conv_lhs => rw [adapt_legacy_changes]
    obtain ⟨record, hrecord⟩ := hfirst
    rw [hrecord] at hstrength ⊢
    simp [hstrength, adapt_experiment_idempotent]

theorem adapt_snapshot_idempotent (node : Entries) :
    adapt_snapshot_node (adapt_snapshot_node node) = adapt_snapshot_node node := by
  by_cases hev : node.get "type" = .str "evidence"
  · have htype := adapted_evidence_type true node
    simp [adapt_snapshot_node, hev, htype, adapt_evidence_idempotent]
  · by_cases hex : node.get "type" = .str "experiment"
    · have htype : (adapt_legacy_experiment_record node).get "type" = node.get "type" := by
        simp [Entries.get, adapted_experiment_get]
      simp [adapt_snapshot_node, hex, htype, adapt_experiment_idempotent]
    · simp [adapt_snapshot_node, hev, hex]

/-! ### Operations settle

    Each rewriting of an operation changes the entries under one key and looks at
    the name of the operation besides, so a later one keeps what an earlier settled.
-/

theorem node_operation_settles (legacy : Bool) : Settles (adapt_legacy_node_operation legacy) := by
  have hop (f : Value → Adapted Value) (d d' : Entries) (h : d.within "nodes" f = .ok d') :
      d'.get "op" = d.get "op" :=
    Entries.get_of_pop_eq (Entries.within_touches "nodes" f d d' h) (by decide)
  have hcreated : Settles (fun node => (.ok (adapt_legacy_created_node legacy node) :
      Adapted Entries)) := settles_pure (adapt_created_idempotent legacy)
  have hchanges : Settles (fun changes => (.ok (adapt_legacy_changes legacy changes) :
      Adapted Entries)) := settles_pure (adapt_changes_idempotent legacy)
  have hupdate := Entries.within_settles "changes" (Value.on_dict_settles hchanges)
  apply Settles.either
  · exact Entries.within_settles "nodes" (Value.on_list_settles (Value.on_dict_settles hcreated))
  · exact (Entries.within_settles "nodes"
      (Value.on_list_settles (Value.on_dict_settles hupdate))).guarded
  · intro d d' hd h
    rw [hop _ d d' h, hd]
  · intro d d' hd h
    split at h
    · rwa [hop _ d d' h]
    · cases h
      exact hd

theorem node_operation_touches (legacy : Bool) :
    Entries.Touches "nodes" (adapt_legacy_node_operation legacy) := by
  intro d d' h
  rw [adapt_legacy_node_operation] at h
  split at h
  · exact Entries.within_touches _ _ d d' h
  · split at h
    · exact Entries.within_touches _ _ d d' h
    · cases h
      rfl

/-- The name of an operation is read whatever else changes. -/
theorem named_ignores {k : String} (hk : k ≠ "op") (name : String) (d d' : Entries)
    (h : d'.pop k = d.pop k) : d'.get "op" = .str name ↔ d.get "op" = .str name := by
  rw [Entries.get_of_pop_eq h (Ne.symm hk)]

theorem node_operation_ignores {k : String} (hop : k ≠ "op") (hnodes : k ≠ "nodes")
    (legacy : Bool) : Entries.Ignores k (adapt_legacy_node_operation legacy) := by
  intro d d' hpop hfix
  have hname := Entries.get_of_pop_eq hpop (Ne.symm hop)
  rw [adapt_legacy_node_operation] at hfix ⊢
  rw [hname]
  split
  · rename_i hcreate
    rw [if_pos hcreate] at hfix
    exact Entries.within_ignores hnodes _ d d' hpop hfix
  · rename_i hcreate
    rw [if_neg hcreate] at hfix
    split
    · rename_i hupdate
      rw [if_pos hupdate] at hfix
      exact Entries.within_ignores hnodes _ d d' hpop hfix
    · rfl

theorem ambiguity_operation_settles : Settles adapt_legacy_ambiguity_operation := by
  have hpop : Settles (fun ambiguity : Entries =>
      (.ok (ambiguity.pop "raised_rev") : Adapted Entries)) :=
    settles_pure (fun _ => Entries.pop_pop)
  exact (Entries.within_settles "ambiguities"
    (Value.on_list_settles (Value.on_dict_settles hpop))).guarded

theorem approval_operation_settles : Settles adapt_legacy_approval_operation := by
  intro d d' h
  rw [adapt_legacy_approval_operation] at h ⊢
  cases hop : hashed (d.get "op") with
  | error e => simp [hop, bind, Except.bind] at h
  | ok _ =>
    cases hintent : hashed (d.get "intent") with
    | error e => simp [hop, hintent, bind, Except.bind] at h
    | ok _ =>
      simp only [hop, hintent, bind, Except.bind] at h
      split at h
      · -- the intent is gone, and no recognized pair lacks one
        cases h
        have hname : (d.pop "intent").get "op" = d.get "op" := Entries.get_pop_ne (by decide)
        have hnull : hashed (.null : Value) = .ok () := rfl
        simp [hname, hop, hnull, recognized_intents, bind, Except.bind]
      · rename_i hpair
        cases h
        simp [hop, hintent, hpair, bind, Except.bind]

theorem approval_operation_ignores {k : String} (hop : k ≠ "op") (hintent : k ≠ "intent") :
    Entries.Ignores k adapt_legacy_approval_operation := by
  intro d d' hpop hfix
  have hname := Entries.get_of_pop_eq hpop (Ne.symm hop)
  have hold := Entries.get_of_pop_eq hpop (Ne.symm hintent)
  rw [adapt_legacy_approval_operation] at hfix ⊢
  rw [hname, hold]
  cases hn : hashed (d.get "op") with
  | error e => simp [hn, bind, Except.bind] at hfix
  | ok _ =>
    cases hi : hashed (d.get "intent") with
    | error e => simp [hn, hi, bind, Except.bind] at hfix
    | ok _ =>
      simp only [hn, hi, bind, Except.bind] at hfix ⊢
      split
      · -- an operation that loses its intent is not left alone
        rename_i hpair
        rw [if_pos hpair, Except.ok.injEq] at hfix
        have hget : d.get "intent" = .null := by
          rw [← hfix]
          exact Entries.get_pop_self
        simp [hget, recognized_intents] at hpair
      · rfl

/-- The intent supplied depends on the name and the node records alone. -/
theorem legacy_intent_settles (legacy : Bool) : Settles (adapt_legacy_intent legacy) := by
  intro d d' h
  rw [adapt_legacy_intent] at h ⊢
  by_cases hd : legacy = true ∧ d.has "intent" = false
  · rw [if_pos hd] at h
    cases hintent : legacy_proposal_intent d with
    | error e => simp [hintent, bind, Except.bind] at h
    | ok intent =>
      cases intent with
      | some intent =>
        obtain rfl : d.put "intent" (.str intent) = d' := by
          simpa [hintent, bind, Except.bind] using h
        simp
      | none =>
        obtain rfl : d = d' := by simpa [hintent, bind, Except.bind] using h
        simp [hd, hintent, bind, Except.bind]
  · rw [if_neg hd] at h
    cases h
    rw [if_neg hd]

theorem legacy_intent_touches (legacy : Bool) :
    Entries.Touches "intent" (adapt_legacy_intent legacy) := by
  intro d d' h
  rw [adapt_legacy_intent] at h
  split at h
  · cases hintent : legacy_proposal_intent d with
    | error e => simp [hintent, bind, Except.bind] at h
    | ok intent =>
      cases intent with
      | some intent =>
        obtain rfl : d.put "intent" (.str intent) = d' := by
          simpa [hintent, bind, Except.bind] using h
        exact Entries.pop_put
      | none =>
        obtain rfl : d = d' := by simpa [hintent, bind, Except.bind] using h
        rfl
  · cases h
    rfl

theorem proposal_document_settles (legacy : Bool) :
    Settles (adapt_legacy_proposal_document legacy) := by
  have hoperation : Settles (fun operation : Entries => do
      let operation ← adapt_legacy_node_operation legacy operation
      adapt_legacy_intent legacy operation) :=
    (node_operation_settles legacy).andThen (legacy_intent_settles legacy)
      ((node_operation_ignores (by decide) (by decide) legacy).keeps (legacy_intent_touches legacy))
  exact Entries.within_settles "ops" (Value.on_list_settles (Value.on_dict_settles hoperation))

theorem created_proposals_settles (legacy : Bool) : Settles (adapt_created_proposals legacy) :=
  (Entries.within_settles "proposals"
    (Value.on_list_settles (Value.on_dict_settles (proposal_document_settles legacy)))).guarded

theorem created_proposals_touches (legacy : Bool) :
    Entries.Touches "proposals" (adapt_created_proposals legacy) :=
  (Entries.within_touches "proposals" _).guarded

theorem adapt_if_settles {condition : Bool} {f : Entries → Adapted Entries} (hf : Settles f) :
    Settles (adapt_if condition f) :=
  hf.guarded

theorem adapt_if_ignores {k : String} {condition : Bool} {f : Entries → Adapted Entries}
    (hf : Entries.Ignores k f) : Entries.Ignores k (adapt_if condition f) :=
  hf.guarded (fun _ _ _ => Iff.rfl)

theorem ambiguity_operation_ignores {k : String} (hop : k ≠ "op") (hkey : k ≠ "ambiguities") :
    Entries.Ignores k adapt_legacy_ambiguity_operation :=
  (Entries.within_ignores hkey _).guarded (named_ignores hop "create_ambiguities")

theorem ambiguity_operation_touches (condition : Bool) :
    Entries.Touches "ambiguities" (adapt_if condition adapt_legacy_ambiguity_operation) :=
  (Entries.within_touches "ambiguities" _).guarded.guarded

theorem patch_operation_settles (legacy approval : Bool) :
    Settles (adapt_patch_operation legacy approval) := by
  have hproposals := created_proposals_touches legacy
  have hambiguities := ambiguity_operation_touches legacy
  have hnodes := node_operation_touches legacy
  -- from the last rewriting to the first; each keeps what the ones before it settled
  have hlast : Settles (fun operation => do
      let operation ← adapt_if legacy adapt_legacy_ambiguity_operation operation
      adapt_created_proposals legacy operation) :=
    (adapt_if_settles ambiguity_operation_settles).andThen (created_proposals_settles legacy)
      ((adapt_if_ignores (ambiguity_operation_ignores (by decide) (by decide))).keeps hproposals)
  have hmiddle : Settles (fun operation => do
      let operation ← adapt_legacy_node_operation legacy operation
      let operation ← adapt_if legacy adapt_legacy_ambiguity_operation operation
      adapt_created_proposals legacy operation) :=
    (node_operation_settles legacy).andThen hlast
      (Keeps.andThen ((node_operation_ignores (by decide) (by decide) legacy).keeps hambiguities)
        ((node_operation_ignores (by decide) (by decide) legacy).keeps hproposals))
  have hignores {k : String} (hop : k ≠ "op") (hintent : k ≠ "intent") :
      Entries.Ignores k (adapt_if (legacy && approval) adapt_legacy_approval_operation) :=
    adapt_if_ignores (approval_operation_ignores hop hintent)
  exact (adapt_if_settles approval_operation_settles).andThen hmiddle
    (Keeps.andThen ((hignores (by decide) (by decide)).keeps hnodes)
      (Keeps.andThen ((hignores (by decide) (by decide)).keeps hambiguities)
        ((hignores (by decide) (by decide)).keeps hproposals)))

theorem graph_state_document_settles : Settles adapt_persisted_graph_state_document := by
  have hnode : Settles (fun node => (.ok (adapt_snapshot_node node) : Adapted Entries)) :=
    settles_pure adapt_snapshot_idempotent
  have hnodes := Entries.within_settles "nodes"
    (Value.on_values_settles (Value.on_dict_settles hnode))
  have hproposals := Entries.within_settles "proposals"
    (Value.on_values_settles (Value.on_dict_settles (proposal_document_settles true)))
  exact hnodes.andThen hproposals
    ((Entries.within_ignores (by decide) _).keeps (Entries.within_touches "proposals" _))

/-! ### Patch documents settle -/

/-- Node records of the current generation are not adapted. -/
theorem node_operation_current (operation : Entries) :
    adapt_legacy_node_operation false operation = .ok operation := by
  have hcreated (node : Entries) : adapt_legacy_created_node false node = node := by
    simp [adapt_legacy_created_node]
  have hchanges (changes : Entries) : adapt_legacy_changes false changes = changes := by
    simp [adapt_legacy_changes]
  rw [adapt_legacy_node_operation]
  split
  · exact Entries.within_self (Value.on_list_self (Value.on_dict_self (by simp [hcreated])))
  · split
    · exact Entries.within_self (Value.on_list_self (Value.on_dict_self (fun update =>
        Entries.within_self (Value.on_dict_self (by simp [hchanges])))))
    · rfl

/-- Operations of the current generation are not adapted. -/
theorem patch_operation_current (approval : Bool) (operation : Entries) :
    adapt_patch_operation false approval operation = .ok operation := by
  have hproposals : adapt_created_proposals false operation = .ok operation := by
    rw [adapt_created_proposals]
    split
    · apply Entries.within_self (Value.on_list_self (Value.on_dict_self _))
      intro proposal
      apply Entries.within_self (Value.on_list_self (Value.on_dict_self _))
      intro nested
      simp [node_operation_current, adapt_legacy_intent, bind, Except.bind]
    · rfl
  simp [adapt_patch_operation, adapt_if, node_operation_current, hproposals, bind, Except.bind]

theorem patch_operations_touches (legacy : Bool) :
    Entries.Touches "ops" (adapt_patch_operations legacy) := by
  intro d d' h
  rw [adapt_patch_operations] at h
  split at h
  · cases h
    exact Entries.pop_put
  · split at h
    · split at h
      · cases h
      · exact Entries.within_touches _ _ d d' h
    · cases h
      rfl

theorem patch_operations_settles (legacy : Bool) : Settles (adapt_patch_operations legacy) := by
  intro d d' h
  have hpop := patch_operations_touches legacy d d' h
  have hadmission : d'.get "admission" = d.get "admission" :=
    Entries.get_of_pop_eq hpop (by decide)
  have hkind : d'.get "kind" = d.get "kind" := Entries.get_of_pop_eq hpop (by decide)
  rw [adapt_patch_operations] at h ⊢
  rw [hadmission, hkind]
  split at h
  · rename_i hrejected
    cases h
    rw [if_pos hrejected, Entries.put_put]
  · rename_i hrejected
    rw [if_neg hrejected]
    cases hops : d.get "ops" with
    | list operations =>
      simp only [hops] at h
      split at h
      · cases h
      · rename_i hcheck
        cases legacy with
        | true =>
          -- the check concerns the current generation only
          have hfix := Entries.within_settles "ops" (Value.on_list_settles
            (Value.on_dict_settles (patch_operation_settles true _))) d d' h
          cases d'.get "ops" <;> simp [hfix]
        | false =>
          have hsame : d.within "ops" _ = .ok d := Entries.within_self (Value.on_list_self
            (Value.on_dict_self (patch_operation_current
              (decide (d.get "kind" = .str "approval")))))
          rw [hsame] at h
          cases h
          rw [hops]
          exact (if_neg hcheck).trans hsame
    | _ =>
      simp only [hops] at h
      cases h
      simp only [hops]

/-- On a document whose header is current only the operations are adapted. -/
theorem patch_document_marked {d : Entries} (hcampaign : d.has "campaign_id" = false)
    (hmarker : d.has "schema_generation" = true) :
    adapt_persisted_patch_document d =
      adapt_patch_operations ((d.get "schema_generation").loosely_equal (.int 1)) d := by
  simp [adapt_persisted_patch_document, hcampaign, hmarker]

/-- The header becomes current, and the operations are adapted under its marker. -/
theorem patch_document_ok {d d' : Entries} (h : adapt_persisted_patch_document d = .ok d') :
    ∃ header : Entries, header.has "campaign_id" = false ∧
      header.has "schema_generation" = true ∧
      adapt_patch_operations ((header.get "schema_generation").loosely_equal (.int 1)) header =
        .ok d' := by
  simp only [adapt_persisted_patch_document] at h
  split at h
  · cases h
  · -- the episode field carries its current name from here on
    have hnamed : ∃ named : Entries, named.has "campaign_id" = false ∧
        (if d.has "campaign_id" = true then
          (d.pop "campaign_id").put "episode_id" (d.get "campaign_id") else d) = named := by
      by_cases hd : d.has "campaign_id" = true
      · exact ⟨_, by simp [Entries.has_put_ne], if_pos hd⟩
      · exact ⟨d, by simpa using hd, if_neg hd⟩
    obtain ⟨named, hcampaign, hnamed⟩ := hnamed
    rw [hnamed] at h
    by_cases hmarker : named.has "schema_generation" = true
    · exact ⟨named, hcampaign, hmarker, by simpa [hmarker] using h⟩
    · refine ⟨named.put "schema_generation" (.int 1), ?_, Entries.has_put_self, ?_⟩
      · rwa [Entries.has_put_ne (by decide)]
      · simpa [hmarker] using h

theorem patch_document_settles : Settles adapt_persisted_patch_document := by
  intro d d' h
  obtain ⟨header, hcampaign, hmarker, hops⟩ := patch_document_ok h
  have hpop := patch_operations_touches _ header d' hops
  have hcampaign' : d'.has "campaign_id" = false := by
    rw [Entries.has_of_pop_eq hpop (by decide), hcampaign]
  have hmarker' : d'.has "schema_generation" = true := by
    rw [Entries.has_of_pop_eq hpop (by decide), hmarker]
  have hgeneration : d'.get "schema_generation" = header.get "schema_generation" :=
    Entries.get_of_pop_eq hpop (by decide)
  rw [patch_document_marked hcampaign' hmarker', hgeneration]
  exact patch_operations_settles _ header d' hops

/-- Whether a patch document creates Evidence that carries the compatibility field. -/
def creates_legacy_evidence (document : Entries) : Bool :=
  match document.get "ops" with
  | .list operations => operations.any creates_legacy_strength
  | _ => false

theorem generation_two_not_legacy {v : Value} (h : v.loosely_equal (.int 2) = true) :
    v.loosely_equal (.int 1) = false := by
  by_contra hone
  have htwo := Value.loosely_equal_trans (Value.loosely_equal_comm h) (by simpa using hone)
  exact absurd htwo (by decide)

/-- Documents of generation two that were not rejected are left as they are, unless they
    create Evidence with the compatibility field, which is refused. -/
theorem patch_document_current {d : Entries}
    (hgen : (d.get "schema_generation").loosely_equal (.int 2) = true)
    (hcampaign : d.has "campaign_id" = false) (hadmission : d.get "admission" ≠ .str "rejected") :
    adapt_persisted_patch_document d =
      if creates_legacy_evidence d = true then
        .error (.value_error ("schema-generation 2 patches cannot create Evidence with " ++
          "legacy_strength compatibility metadata"))
      else .ok d := by
  have hmarker : d.has "schema_generation" = true := by
    apply Entries.has_of_get
    intro hnull
    rw [hnull] at hgen
    exact absurd hgen (by decide)
  rw [patch_document_marked hcampaign hmarker, generation_two_not_legacy hgen,
    adapt_patch_operations, if_neg hadmission, creates_legacy_evidence]
  cases d.get "ops" with
  | list operations =>
    have hsame : d.within "ops" _ = .ok d := Entries.within_self (Value.on_list_self
      (Value.on_dict_self (patch_operation_current (decide (d.get "kind" = .str "approval")))))
    by_cases hcheck : operations.any creates_legacy_strength = true
    · simp [hcheck]
    · simp [hcheck, hsame]
  | _ => rfl

/-- Adapting a document a second time changes nothing, and documents of the current
    generation that are accepted and create no Evidence with the compatibility field pass
    unchanged. -/
theorem adaptation_settles :
    (∀ d d' : Entries, adapt_persisted_patch_document d = .ok d' →
      adapt_persisted_patch_document d' = .ok d') ∧
    (∀ d d' : Entries, adapt_persisted_graph_state_document d = .ok d' →
      adapt_persisted_graph_state_document d' = .ok d') ∧
    ∀ d : Entries, (d.get "schema_generation").loosely_equal (.int 2) = true →
      d.has "campaign_id" = false → d.get "admission" ≠ .str "rejected" →
      creates_legacy_evidence d = false → adapt_persisted_patch_document d = .ok d := by
  refine ⟨patch_document_settles, graph_state_document_settles, ?_⟩
  intro d hgen hcampaign hadmission hevidence
  rw [patch_document_current hgen hcampaign hadmission, hevidence]
  rfl

namespace Reference

/-- A patch document of a generation whose one operation creates one piece of evidence. -/
def evidence_document (generation : Int) (admission : String) (fields : Entries) : Entries :=
  [("schema_generation", .int generation), ("kind", .str "refresh"),
    ("admission", .str admission),
    ("ops", .list [.dict [("op", .str "create_nodes"),
      ("nodes", .list [.dict ([("id", .str "e"), ("type", .str "evidence")] ++ fields)])]])]

end Reference

open Reference in
/-- A document of generation two that is marked accepted is refused for the compatibility
    field, and one the adapter takes is changed when it is marked rejected. -/
theorem current_documents_changed :
    (∃ d : Entries, (d.get "schema_generation").loosely_equal (.int 2) = true ∧
      d.has "campaign_id" = false ∧ d.get "admission" = .str "accepted" ∧
      adapt_persisted_patch_document d ≠ .ok d) ∧
    ∃ d d' : Entries, (d.get "schema_generation").loosely_equal (.int 2) = true ∧
      d.has "campaign_id" = false ∧ adapt_persisted_patch_document d = .ok d' ∧ d' ≠ d := by
  constructor
  · exact ⟨evidence_document 2 "accepted" [("legacy_strength", .str "supporting")],
      by decide +kernel, by decide, by decide, by decide +kernel⟩
  · exact ⟨evidence_document 2 "rejected" [],
      (evidence_document 2 "rejected" []).put "ops" (.list []),
      by decide +kernel, by decide, by decide +kernel, by decide +kernel⟩

open Reference in
/-- A legacy document is adapted once, and a current one not at all. -/
theorem evidence_documents_settle :
    (∃ d', adapt_persisted_patch_document
        (evidence_document 1 "accepted" [("strength", .str "diagnostic")]) = .ok d' ∧
      d' ≠ evidence_document 1 "accepted" [("strength", .str "diagnostic")] ∧
      adapt_persisted_patch_document d' = .ok d') ∧
    adapt_persisted_patch_document (evidence_document 2 "accepted" [("role", .str "result")]) =
      .ok (evidence_document 2 "accepted" [("role", .str "result")]) := by
  have hlegacy : adapt_persisted_patch_document
      (evidence_document 1 "accepted" [("strength", .str "diagnostic")]) =
        .ok (evidence_document 1 "accepted" [("role", .str "diagnostic"),
          ("legacy_strength", .str "diagnostic")]) := by decide +kernel
  exact ⟨⟨_, hlegacy, by decide +kernel, adaptation_settles.1 _ _ hlegacy⟩,
    adaptation_settles.2.2 _ (by decide +kernel) (by decide) (by decide) (by decide +kernel)⟩

end ResearchGraph
