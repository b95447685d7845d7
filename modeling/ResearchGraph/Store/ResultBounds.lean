import ResearchGraph.Store.TaskResults

/-! # What bounding a task result keeps

    Bounding trims from the end only.  Every update that is stored is the cut
    form of an update of the input: its verdict is untouched and its lists lose
    texts at the end, each text losing characters at the end.  The updates that
    are stored are the latest ones, without gaps.

    Nothing else in a result makes bounding fail, but a status that is a list or
    an object does: the membership test hashes it.
-/

namespace ResearchGraph

open Lib

/-! ### Cut forms -/

/-- `ys` are texts of an initial run of `xs`, each cut at its end. -/
def Cut (xs ys : List String) : Prop :=
  ∃ zs, zs <+: xs ∧ List.Forall₂ (fun z y => y.toList <+: z.toList) zs ys

/-- The same verdict, with the lists cut. -/
structure CutForm (v w : GraphUpdateView) : Prop where
  status : w.status = v.status
  applied_revision : w.applied_revision = v.applied_revision
  correction_rounds : w.correction_rounds = v.correction_rounds
  repairable : w.repairable = v.repairable
  change_summary : Cut v.change_summary w.change_summary
  proposal_ids : Cut v.proposal_ids w.proposal_ids
  validation_messages : Cut v.validation_messages w.validation_messages

theorem Cut.refl (xs : List String) : Cut xs xs :=
  ⟨xs, List.prefix_rfl, List.forall₂_same.mpr (fun _ _ => List.prefix_rfl)⟩

theorem Cut.trans {xs ys zs : List String} (h : Cut xs ys) (h' : Cut ys zs) : Cut xs zs := by
  obtain ⟨us, hus, hcut⟩ := h
  obtain ⟨vs, hvs, hcut'⟩ := h'
  -- the run that survives both cuts is as long as the second
  have htake : List.Forall₂ (fun z y => y.toList <+: z.toList) (us.take vs.length) vs := by
    have htake := List.forall₂_take vs.length hcut
    rwa [← List.prefix_iff_eq_take.mp hvs] at htake
  refine ⟨us.take vs.length, (List.take_prefix _ us).trans hus, ?_⟩
  exact forall₂_trans (fun _ _ _ hzy hyx => hyx.trans hzy) htake hcut'

theorem Cut.dropLast (xs : List String) : Cut xs xs.dropLast :=
  ⟨xs.dropLast, List.dropLast_prefix xs, List.forall₂_same.mpr (fun _ _ => List.prefix_rfl)⟩

theorem CutForm.refl (v : GraphUpdateView) : CutForm v v :=
  ⟨rfl, rfl, rfl, rfl, .refl _, .refl _, .refl _⟩

theorem CutForm.trans {u v w : GraphUpdateView} (h : CutForm u v) (h' : CutForm v w) :
    CutForm u w where
  status := h'.status.trans h.status
  applied_revision := h'.applied_revision.trans h.applied_revision
  correction_rounds := h'.correction_rounds.trans h.correction_rounds
  repairable := h'.repairable.trans h.repairable
  change_summary := h.change_summary.trans h'.change_summary
  proposal_ids := h.proposal_ids.trans h'.proposal_ids
  validation_messages := h.validation_messages.trans h'.validation_messages

/-- The update an optional cut form comes from. -/
theorem CutForm.of_rel {o o' : Option GraphUpdateView} (h : Option.Rel CutForm o o')
    {w : GraphUpdateView} (hw : o' = some w) : ∃ v, o = some v ∧ CutForm v w := by
  cases h with
  | none => cases hw
  | some hcut =>
    cases hw
    exact ⟨_, rfl, hcut⟩

theorem CutForm.rel_trans {o o' o'' : Option GraphUpdateView} (h : Option.Rel CutForm o o')
    (h' : Option.Rel CutForm o' o'') : Option.Rel CutForm o o'' := by
  cases h' with
  | none => exact h
  | some hcut' =>
    cases h with
    | some hcut => exact .some (hcut.trans hcut')

/-- Trimming an update takes its cut form. -/
theorem GraphUpdateView.trim_cut {v w : GraphUpdateView} (h : v.trim = some w) : CutForm v w := by
  simp only [GraphUpdateView.trim] at h
  split at h
  · cases h
    exact { CutForm.refl v with change_summary := .dropLast _ }
  · split at h
    · cases h
      exact { CutForm.refl v with proposal_ids := .dropLast _ }
    · split at h
      · cases h
        exact { CutForm.refl v with validation_messages := .dropLast _ }
      · cases h

/-- An update with nothing left to take has empty lists. -/
theorem GraphUpdateView.trim_none {v : GraphUpdateView} (h : v.trim = none) :
    v.change_summary = [] ∧ v.proposal_ids = [] ∧ v.validation_messages = [] := by
  simp only [GraphUpdateView.trim] at h
  split at h
  · cases h
  · split at h
    · cases h
    · split at h
      · cases h
      · rename_i hchange hproposal hvalidation
        exact ⟨not_not.mp hchange, not_not.mp hproposal, not_not.mp hvalidation⟩

/-! ### Reading an update -/

/-- The texts of a list. -/
def list_texts (v : Value) : List String :=
  (list_items v).filterMap (fun
    | .str s => some s
    | _ => none)

/-- A well-formed update, with nothing cut. -/
def read_update : Value → Option GraphUpdateView
  | .dict raw => match Entries.get raw "status" with
    | .str s => (GraphUpdateStatus.names.lookup s).map (fun status =>
      { status
        applied_revision := match Entries.get raw "applied_revision" with
          | .int i => some i
          | _ => none
        change_summary := list_texts (Entries.get raw "change_summary")
        proposal_ids := list_texts (Entries.get raw "proposal_ids")
        validation_messages := list_texts (Entries.get raw "validation_messages")
        correction_rounds := match Entries.get raw "correction_rounds" with
          | .int i => i
          | _ => 0
        repairable := decide (Entries.get raw "repairable" = .bool true) })
    | _ => none
  | _ => none

/-- An object whose status cannot be hashed. -/
def unhashable_status : Value → Bool
  | .dict raw => match Entries.get raw "status" with
    | .list _ => true
    | .dict _ => true
    | _ => false
  | _ => false

theorem cut_initial (n : Nat) (s : String) : (cut n s).toList <+: s.toList := by
  rw [cut, String.toList_ofList]
  exact List.take_prefix n s.toList

theorem bounded_texts_cut (count length : Nat) (v : Value) :
    Cut (list_texts v) (bounded_texts count length v) := by
  cases v with
  | list xs =>
    refine ⟨list_texts (.list (xs.take count)), ?_, ?_⟩
    · simp only [list_texts, list_items]
      exact (List.take_prefix count xs).filterMap _
    · simp only [list_texts, list_items, bounded_texts]
      induction xs.take count with
      | nil => exact .nil
      | cons x rest ih =>
        cases x <;> simp only [List.filterMap_cons] <;> try exact ih
        exact .cons (cut_initial length _) ih
  | _ => exact Cut.refl []

theorem bounded_graph_update_read (concise : Bool) {raw : Value} {v : GraphUpdateView}
    (h : read_update raw = some v) :
    ∃ u, bounded_graph_update concise raw = .ok (some u) ∧ CutForm v u := by
  cases raw with
  | dict d =>
    simp only [read_update] at h
    split at h
    · rename_i s hs
      obtain ⟨status, hstatus, rfl⟩ := Option.map_eq_some_iff.mp h
      simp only [bounded_graph_update, update_status, hs, hstatus]
      refine ⟨_, rfl, ?_⟩
      exact ⟨rfl, rfl, rfl, rfl, bounded_texts_cut .., bounded_texts_cut .., bounded_texts_cut ..⟩
    · cases h
  | _ => cases h

theorem bounded_graph_update_malformed (concise : Bool) {raw : Value}
    (h : read_update raw = none) (hhash : unhashable_status raw = false) :
    bounded_graph_update concise raw = .ok none := by
  cases raw with
  | dict d =>
    simp only [read_update] at h
    simp only [unhashable_status] at hhash
    simp only [bounded_graph_update, update_status]
    split at h
    · rename_i s hs
      simp only [Option.map_eq_none_iff] at h
      simp only [hs, h]
      rfl
    · split at hhash
      · cases hhash
      · cases hhash
      · (split <;> simp_all); rfl
  | _ => rfl

theorem bounded_graph_update_unhashable (concise : Bool) {raw : Value}
    (hhash : unhashable_status raw = true) :
    ∃ e, bounded_graph_update concise raw = .error e := by
  cases raw with
  | dict d =>
    simp only [unhashable_status] at hhash
    simp only [bounded_graph_update, update_status]
    split at hhash
    · rename_i hs
      simp only [hs]
      exact ⟨_, rfl⟩
    · rename_i hs
      simp only [hs]
      exact ⟨_, rfl⟩
    · cases hhash
  | _ => cases hhash

theorem read_update_unhashable {raw : Value} (h : unhashable_status raw = true) :
    read_update raw = none := by
  cases raw with
  | dict d =>
    simp only [unhashable_status] at h
    simp only [read_update]
    split at h
    · rename_i hs
      simp only [hs]
    · rename_i hs
      simp only [hs]
    · cases h
  | _ => cases h

theorem list_texts_map (xs : List String) : list_texts (.list (xs.map .str)) = xs := by
  simp [list_texts, list_items, List.filterMap_map]

theorem read_update_document (v : GraphUpdateView) : read_update v.document = some v := by
  obtain ⟨status, revision, summary, ids, messages, rounds, repairable⟩ := v
  have hstatus : GraphUpdateStatus.names.lookup (literal_name GraphUpdateStatus.names status)
      = some status := by
    cases status <;> decide
  have hread : read_update (GraphUpdateView.document
      ⟨status, revision, summary, ids, messages, rounds, repairable⟩)
      = (GraphUpdateStatus.names.lookup (literal_name GraphUpdateStatus.names status)).map
        (fun status =>
          ⟨status, match (revision.map Value.int).getD .null with
            | .int i => some i
            | _ => none,
            list_texts (.list (summary.map .str)), list_texts (.list (ids.map .str)),
            list_texts (.list (messages.map .str)), rounds,
            decide (Value.bool repairable = .bool true)⟩) := rfl
  rw [hread, hstatus, list_texts_map, list_texts_map, list_texts_map]
  cases revision <;> simp

theorem concise_update_cut (v : GraphUpdateView) :
    ∃ u, concise_update v = .ok u ∧ CutForm v u := by
  obtain ⟨u, hu, hcut⟩ := bounded_graph_update_read true (read_update_document v)
  refine ⟨u, ?_, hcut⟩
  simp only [concise_update, hu]
  rfl

/-! ### The history -/

/-- Of the updates from the latest on, an unhashable status is never reached: enough
    well-formed updates are newer. -/
def Unreached (count : Nat) (updates : List Value) : Prop :=
  ∀ newer raw older, updates = newer ++ raw :: older → unhashable_status raw = true →
    count ≤ (newer.filterMap read_update).length

theorem Unreached.head {count : Nat} {raw : Value} {rest : List Value}
    (h : Unreached (count + 1) (raw :: rest)) : unhashable_status raw = false := by
  by_contra hraw
  have hle := h [] raw rest rfl (by simpa using hraw)
  simp at hle

theorem Unreached.tail_malformed {count : Nat} {raw : Value} {rest : List Value}
    (hread : read_update raw = none) :
    Unreached (count + 1) (raw :: rest) ↔
      unhashable_status raw = false ∧ Unreached (count + 1) rest := by
  constructor
  · intro h
    refine ⟨h.head, ?_⟩
    intro newer bad older hrest hbad
    have hle := h (raw :: newer) bad older (by rw [hrest]; rfl) hbad
    rwa [List.filterMap_cons_none hread] at hle
  · rintro ⟨hraw, h⟩ newer bad older hsplit hbad
    cases newer with
    | nil =>
      obtain ⟨rfl, -⟩ := List.cons.inj hsplit
      rw [hraw] at hbad
      cases hbad
    | cons first newer =>
      obtain ⟨rfl, hrest⟩ := List.cons.inj hsplit
      rw [List.filterMap_cons_none hread]
      exact h newer bad older hrest hbad

theorem Unreached.tail_read {count : Nat} {raw : Value} {v : GraphUpdateView} {rest : List Value}
    (hread : read_update raw = some v) :
    Unreached (count + 1) (raw :: rest) ↔ Unreached count rest := by
  constructor
  · intro h newer bad older hrest hbad
    have hle := h (raw :: newer) bad older (by rw [hrest]; rfl) hbad
    rw [List.filterMap_cons_some hread, List.length_cons] at hle
    omega
  · intro h newer bad older hsplit hbad
    cases newer with
    | nil =>
      obtain ⟨rfl, -⟩ := List.cons.inj hsplit
      rw [read_update_unhashable hbad] at hread
      cases hread
    | cons first newer =>
      obtain ⟨rfl, hrest⟩ := List.cons.inj hsplit
      rw [List.filterMap_cons_some hread, List.length_cons]
      have := h newer bad older hrest hbad
      omega

/-- Collecting succeeds when no unhashable status is reached, with the cut forms of the
    newest well-formed updates. -/
theorem latest_updates_cut (count : Nat) (updates : List Value) (h : Unreached count updates) :
    ∃ us, latest_updates count updates = .ok us ∧
      List.Forall₂ CutForm ((updates.filterMap read_update).take count) us := by
  induction updates generalizing count with
  | nil =>
    refine ⟨[], ?_, by simp⟩
    cases count <;> rfl
  | cons raw rest ih =>
    cases count with
    | zero => exact ⟨[], rfl, by simp⟩
    | succ count =>
      cases hread : read_update raw with
      | none =>
        obtain ⟨hhash, hrest⟩ := (Unreached.tail_malformed hread).mp h
        obtain ⟨us, hus, hcut⟩ := ih (count + 1) hrest
        refine ⟨us, ?_, by rwa [List.filterMap_cons_none hread]⟩
        simp only [latest_updates, bounded_graph_update_malformed false hread hhash]
        exact hus
      | some v =>
        obtain ⟨us, hus, hcut⟩ := ih count ((Unreached.tail_read hread).mp h)
        obtain ⟨u, hu, huv⟩ := bounded_graph_update_read false hread
        refine ⟨u :: us, ?_, ?_⟩
        · simp only [latest_updates, hu]
          change (do return u :: (← latest_updates count rest)) = _
          rw [hus]
          rfl
        · rw [List.filterMap_cons_some hread, List.take_succ_cons]
          exact .cons huv hcut

theorem latest_updates_unreached (count : Nat) (updates : List Value) (us : List GraphUpdateView)
    (h : latest_updates count updates = .ok us) : Unreached count updates := by
  induction updates generalizing count us with
  | nil =>
    intro newer raw older hsplit
    cases newer <;> cases hsplit
  | cons raw rest ih =>
    cases count with
    | zero => exact fun _ _ _ _ _ => Nat.zero_le _
    | succ count =>
      cases hread : read_update raw with
      | none =>
        cases hhash : unhashable_status raw with
        | true =>
          obtain ⟨e, he⟩ := bounded_graph_update_unhashable false hhash
          simp only [latest_updates, he] at h
          cases h
        | false =>
          simp only [latest_updates, bounded_graph_update_malformed false hread hhash] at h
          exact (Unreached.tail_malformed hread).mpr ⟨hhash, ih (count + 1) us h⟩
      | some v =>
        obtain ⟨u, hu, -⟩ := bounded_graph_update_read false hread
        simp only [latest_updates, hu] at h
        change (do return u :: (← latest_updates count rest)) = _ at h
        cases hlater : latest_updates count rest with
        | error e =>
          rw [hlater] at h
          cases h
        | ok later => exact (Unreached.tail_read hread).mpr (ih count later hlater)

theorem concise_updates_cut (us : List GraphUpdateView) :
    ∃ ws, us.mapM concise_update = .ok ws ∧ List.Forall₂ CutForm us ws := by
  induction us with
  | nil => exact ⟨[], rfl, .nil⟩
  | cons u rest ih =>
    obtain ⟨w, hw, hcut⟩ := concise_update_cut u
    obtain ⟨ws, hws, hcuts⟩ := ih
    refine ⟨w :: ws, ?_, .cons hcut hcuts⟩
    rw [List.mapM_cons, hw, hws]
    rfl

/-! ### The loops that fill the payload -/

/-- What is retained: cut forms of the newest updates, and the payload with them fits. -/
theorem retain_updates_cut (payload : ResultPayload) (us retained : List GraphUpdateView)
    (hfits : { payload with graph_updates := retained }.encoded_size ≤ result_limit) :
    (∃ ws, List.Forall₂ CutForm (us.take ws.length) ws ∧
      retain_updates payload retained us = ws.reverse ++ retained) ∧
    { payload with graph_updates := retain_updates payload retained us }.encoded_size
      ≤ result_limit := by
  induction us generalizing retained with
  | nil => exact ⟨⟨[], .nil, rfl⟩, hfits⟩
  | cons u rest ih =>
    let fits (update : GraphUpdateView) : Bool :=
      { payload with graph_updates := update :: retained }.encoded_size ≤ result_limit
    have htrim : CutForm u (update_trim.until_fits fits u) :=
      update_trim.until_fits_keeps fits u (CutForm.refl u)
        (fun _ _ hstep hcut => hcut.trans (GraphUpdateView.trim_cut hstep))
    simp only [retain_updates]
    split
    · rename_i hfit
      obtain ⟨⟨ws, hcut, heq⟩, hsize⟩ := ih _ (of_decide_eq_true hfit)
      refine ⟨⟨update_trim.until_fits fits u :: ws, .cons htrim hcut, ?_⟩, hsize⟩
      rw [heq, List.reverse_cons, List.append_assoc]
      rfl
    · exact ⟨⟨[], by simp, rfl⟩, hfits⟩

/-- A message as it is stored: stripped and cut; blank texts and other values are skipped. -/
def bounded_message : Value → Option String
  | .str raw => if strip raw = "" then none else some (cut 16000 (strip raw))
  | _ => none

theorem bound_messages_cut (payload : ResultPayload) (values : List Value) (bounded : List String)
    (hfits : { payload with messages := bounded }.encoded_size ≤ result_limit) :
    (∃ run, run <+: values.filterMap bounded_message ∧
      bound_messages payload bounded values = bounded ++ run) ∧
    { payload with messages := bound_messages payload bounded values }.encoded_size
      ≤ result_limit := by
  induction values generalizing bounded with
  | nil => exact ⟨⟨[], List.prefix_rfl, by simp [bound_messages]⟩, hfits⟩
  | cons value rest ih =>
    -- a value that is no message is skipped
    have hskip (hnone : bounded_message value = none)
        (heq : bound_messages payload bounded (value :: rest)
          = bound_messages payload bounded rest) :
        (∃ run, run <+: (value :: rest).filterMap bounded_message ∧
          bound_messages payload bounded (value :: rest) = bounded ++ run) ∧
        { payload with messages := bound_messages payload bounded (value :: rest) }.encoded_size
          ≤ result_limit := by
      rw [heq, List.filterMap_cons_none hnone]
      exact ih bounded hfits
    cases value with
    | str raw =>
      by_cases hblank : strip raw = ""
      · exact hskip (by simp [bounded_message, hblank]) (by simp [bound_messages, hblank])
      · have hsome : bounded_message (.str raw) = some (cut 16000 (strip raw)) := by
          simp [bounded_message, hblank]
        rw [List.filterMap_cons_some hsome]
        simp only [bound_messages, hblank, if_false]
        split
        · rename_i hfit
          obtain ⟨⟨run, hrun, heq⟩, hsize⟩ := ih _ hfit
          refine ⟨⟨cut 16000 (strip raw) :: run, ?_, ?_⟩, hsize⟩
          · exact (List.prefix_cons_inj _).mpr hrun
          · rw [heq, List.append_assoc]
            rfl
        · exact ⟨⟨[], List.nil_prefix, by simp⟩, hfits⟩
    | _ => exact hskip rfl rfl

/-! ### The size of what cannot be trimmed -/

/-- A decimal text an interpreter writes: at most 4300 digits and a sign. -/
def decimal_limit : Nat := 4301

/-- The numbers of an update have decimal texts. -/
def NumbersBounded (v : GraphUpdateView) : Prop :=
  (∀ i, v.applied_revision = some i → (json_int i).utf8ByteSize ≤ decimal_limit) ∧
    (json_int v.correction_rounds).utf8ByteSize ≤ decimal_limit

theorem CutForm.numbers {v w : GraphUpdateView} (h : CutForm v w) (hv : NumbersBounded v) :
    NumbersBounded w := by
  rw [NumbersBounded, h.applied_revision, h.correction_rounds]
  exact hv

theorem json_list_nil : json_list [] = "[]" := by decide

theorem bare_update_size (v : GraphUpdateView) (hnumbers : NumbersBounded v)
    (hbare : v.trim = none) : v.text.utf8ByteSize ≤ 8800 := by
  obtain ⟨hchange, hproposal, hvalidation⟩ := GraphUpdateView.trim_none hbare
  have hstatus : (json_str (literal_name GraphUpdateStatus.names v.status)).utf8ByteSize ≤ 10 := by
    cases v.status <;> decide
  have hrevision : (json_optional json_int v.applied_revision).utf8ByteSize ≤ decimal_limit := by
    cases hrev : v.applied_revision with
    | none => decide
    | some i => exact hnumbers.1 i hrev
  have hrounds := hnumbers.2
  have hrepairable : (json_bool v.repairable).utf8ByteSize ≤ 5 := by
    cases v.repairable <;> decide
  have hkeys : ∀ key ∈ ["status", "applied_revision", "change_summary", "proposal_ids",
      "validation_messages", "correction_rounds", "repairable"],
      (json_str key ++ ":").utf8ByteSize ≤ 22 := by
    decide
  simp only [List.forall_mem_cons] at hkeys
  simp only [GraphUpdateView.text, hchange, hproposal, hvalidation, List.map_nil, json_list_nil,
    json_dict, List.map_cons, json_join, String.utf8ByteSize_append] at hkeys ⊢
  have hsmall : "[]".utf8ByteSize = 2 ∧ ",".utf8ByteSize = 1 ∧ "\x7b".utf8ByteSize = 1 ∧
      "\x7d".utf8ByteSize = 1 := by
    decide
  unfold decimal_limit at *
  omega

/-- A payload with nothing left to trim is far below the limit. -/
theorem bare_payload_size (payload : ResultPayload) (hmessages : payload.messages = [])
    (hupdates : payload.graph_updates = [])
    (hnumbers : ∀ v, payload.graph_update = some v → NumbersBounded v)
    (hbare : payload.trim = none) : payload.encoded_size ≤ 9000 := by
  obtain ⟨messages, artifacts, graph_update, graph_updates⟩ := payload
  simp only at hmessages hupdates hnumbers
  subst hmessages hupdates
  simp only [ResultPayload.trim] at hbare
  split at hbare
  · cases hbare
  · rename_i htrim
    split at hbare
    · cases hbare
    · rename_i hartifacts
      simp only [ne_eq, not_not] at hartifacts
      subst hartifacts
      cases graph_update with
      | none => decide
      | some v =>
        have hsize := bare_update_size v (hnumbers v rfl) htrim
        have hkeys : (json_str "messages").utf8ByteSize ≤ 22 ∧
            (json_str "graph_update").utf8ByteSize ≤ 22 ∧ "[]".utf8ByteSize = 2 ∧
            ",".utf8ByteSize = 1 ∧ ":".utf8ByteSize = 1 ∧ "\x7b".utf8ByteSize = 1 ∧
            "\x7d".utf8ByteSize = 1 := by
          decide
        simp only [ResultPayload.encoded_size, ResultPayload.text, List.map_nil, json_list_nil,
          if_true, List.append_nil, List.cons_append, List.nil_append, json_dict, List.map_cons,
          json_join, String.utf8ByteSize_append]
        omega

/-! ### The bounded result -/

/-- The well-formed updates of the history, in order. -/
def history_updates (result : Entries) : List GraphUpdateView :=
  (list_items (result.get "graph_updates")).filterMap read_update

/-- The update a result reports: its own, else the latest of the history. -/
def reported_update (result : Entries) : Option GraphUpdateView :=
  (read_update (result.get "graph_update")).or (history_updates result).getLast?

/-- What a bounded result keeps of the result. -/
structure KeptOf (result : Entries) (payload : ResultPayload) : Prop where
  size : payload.text.utf8ByteSize < AGENT_TASK_RESULT_MAX_BYTES
  graph_updates : ∃ earlier latest, history_updates result = earlier ++ latest ∧
    List.Forall₂ CutForm latest payload.graph_updates
  graph_update : Option.Rel CutForm (reported_update result) payload.graph_update
  messages : payload.messages <+:
    ((list_items (result.get "messages")).take 32).filterMap bounded_message

/-- The numbers of every update of a result have decimal texts. -/
def ResultNumbersBounded (result : Entries) : Prop :=
  ∀ raw ∈ result.get "graph_update" :: list_items (result.get "graph_updates"),
    ∀ v, read_update raw = some v → NumbersBounded v

/-- No status that is reached is a list or an object: not that of the result's own update, and
    in the history only before `GRAPH_UPDATE_HISTORY_MAX_COUNT` well-formed updates. -/
def StatusesHashable (result : Entries) : Prop :=
  unhashable_status (result.get "graph_update") = false ∧
  ∀ older raw newer, list_items (result.get "graph_updates") = older ++ raw :: newer →
    unhashable_status raw = true →
    GRAPH_UPDATE_HISTORY_MAX_COUNT ≤ (newer.filterMap read_update).length

theorem unreached_reverse (count : Nat) (updates : List Value) :
    Unreached count updates.reverse ↔
      ∀ older raw newer, updates = older ++ raw :: newer → unhashable_status raw = true →
        count ≤ (newer.filterMap read_update).length := by
  have hsplit (older newer : List Value) (raw : Value) :
      (older ++ raw :: newer).reverse = newer.reverse ++ raw :: older.reverse := by simp
  constructor
  · intro h older raw newer heq hraw
    have hle := h newer.reverse raw older.reverse (by rw [heq, hsplit]) hraw
    rwa [List.filterMap_reverse, List.length_reverse] at hle
  · intro h newer raw older heq hraw
    have hle := h older.reverse raw newer.reverse
      (by rw [← List.reverse_reverse updates, heq, hsplit]) hraw
    rwa [List.filterMap_reverse, List.length_reverse] at hle

/-- The result's own update is read when its status can be hashed. -/
theorem own_update_read {raw : Value} (h : unhashable_status raw = false) :
    ∃ own, bounded_graph_update false raw = .ok own ∧
      Option.Rel CutForm (read_update raw) own := by
  cases hread : read_update raw with
  | none => exact ⟨none, bounded_graph_update_malformed false hread h, .none⟩
  | some v =>
    obtain ⟨u, hu, hcut⟩ := bounded_graph_update_read false hread
    exact ⟨some u, hu, .some hcut⟩

theorem reported_cut {own own' : Option GraphUpdateView} {history latest : List GraphUpdateView}
    (hown : Option.Rel CutForm own own')
    (hlatest : List.Forall₂ CutForm
      (history.reverse.take GRAPH_UPDATE_HISTORY_MAX_COUNT) latest) :
    Option.Rel CutForm (own.or history.getLast?) (own'.or latest.head?) := by
  cases hown with
  | some h => exact .some h
  | none =>
    simp only [Option.none_or]
    rw [← List.head?_reverse]
    cases hrev : history.reverse with
    | nil =>
      rw [hrev] at hlatest
      cases hlatest
      exact .none
    | cons v rest =>
      rw [hrev] at hlatest
      cases hlatest with
      | cons hcut _ => exact .some hcut

/-- What trimming the payload keeps: it takes texts off the update, and artifacts. -/
structure Trimmed (start payload : ResultPayload) : Prop where
  messages : payload.messages = start.messages
  graph_updates : payload.graph_updates = start.graph_updates
  graph_update : Option.Rel CutForm start.graph_update payload.graph_update

theorem Trimmed.refl (start : ResultPayload) : Trimmed start start := by
  refine ⟨rfl, rfl, ?_⟩
  generalize start.graph_update = update
  cases update with
  | none => exact .none
  | some v => exact .some (CutForm.refl v)

theorem Trimmed.step {start a b : ResultPayload} (hstep : a.trim = some b)
    (h : Trimmed start a) : Trimmed start b := by
  simp only [ResultPayload.trim] at hstep
  split at hstep
  · rename_i v hv
    cases hstep
    obtain ⟨u, hu, hv⟩ := Option.bind_eq_some_iff.mp hv
    have hrel := h.graph_update
    rw [hu] at hrel
    refine ⟨h.messages, h.graph_updates, ?_⟩
    exact CutForm.rel_trans hrel (.some (GraphUpdateView.trim_cut hv))
  · split at hstep
    · cases hstep
      exact ⟨h.messages, h.graph_updates, h.graph_update⟩
    · cases hstep

/-- The payload with artifacts and the reported update, trimmed, fits. -/
theorem trimmed_size {start : ResultPayload} {limit : Nat} (hlimit : 9000 ≤ limit)
    (hmessages : start.messages = []) (hupdates : start.graph_updates = [])
    (hnumbers : ∀ v, start.graph_update = some v → NumbersBounded v) :
    (payload_trim.until_fits (fun p => decide (p.encoded_size ≤ limit)) start).encoded_size
      ≤ limit := by
  have hkeeps : Trimmed start
      (payload_trim.until_fits (fun p => decide (p.encoded_size ≤ limit)) start) :=
    payload_trim.until_fits_keeps _ start (Trimmed.refl start)
      (fun _ _ hstep h => Trimmed.step hstep h)
  rcases payload_trim.until_fits_stops (fun p => decide (p.encoded_size ≤ limit)) start with
    hfits | hbare
  · exact of_decide_eq_true hfits
  · refine le_trans (bare_payload_size _ ?_ ?_ ?_ hbare) hlimit
    · rw [hkeeps.messages, hmessages]
    · rw [hkeeps.graph_updates, hupdates]
    · intro v hv
      obtain ⟨u, hu, hcut⟩ := CutForm.of_rel hkeeps.graph_update hv
      exact hcut.numbers (hnumbers u hu)

theorem reported_numbers {result : Entries} (hnumbers : ResultNumbersBounded result)
    {v : GraphUpdateView} (h : reported_update result = some v) : NumbersBounded v := by
  rw [reported_update] at h
  cases hown : read_update (result.get "graph_update") with
  | some own =>
    rw [hown, Option.some_or] at h
    cases h
    exact hnumbers _ List.mem_cons_self v hown
  | none =>
    rw [hown, Option.none_or] at h
    obtain ⟨raw, hraw, hread⟩ := List.mem_filterMap.mp (List.mem_of_getLast? h)
    exact hnumbers raw (List.mem_cons_of_mem _ hraw) v hread

/-- Filling a payload that fits with updates and messages: it still fits, and what it holds is
    the cut forms of the newest updates and an initial run of the messages. -/
theorem fill_payload_kept (base : ResultPayload) (hmessages : base.messages = [])
    (hupdates : base.graph_updates = []) (hsize : base.encoded_size ≤ result_limit)
    (updates : List GraphUpdateView) (values : List Value) (filled payload : ResultPayload)
    (hfilled : filled = { base with graph_updates := retain_updates base [] updates })
    (hpayload : payload = { filled with messages := bound_messages filled [] values }) :
    payload.encoded_size ≤ result_limit ∧
    (∃ ws, List.Forall₂ CutForm (updates.take ws.length) ws ∧
      payload.graph_updates = ws.reverse) ∧
    payload.messages <+: values.filterMap bounded_message ∧
    payload.graph_update = base.graph_update := by
  have hbare : { base with graph_updates := [] } = base := by
    rw [← hupdates]
  obtain ⟨⟨ws, hws, hretained⟩, hfits⟩ := retain_updates_cut base updates []
    (by rw [hbare]; exact hsize)
  rw [List.append_nil] at hretained
  rw [← hfilled] at hfits
  have hsilent : { filled with messages := [] } = filled := by
    rw [hfilled, ← hmessages]
  obtain ⟨⟨run, hrun, hbound⟩, hfits⟩ := bound_messages_cut filled values []
    (by rw [hsilent]; exact hfits)
  rw [← hpayload] at hfits
  refine ⟨hfits, ⟨ws, hws, ?_⟩, ?_, ?_⟩
  · rw [hpayload, hfilled]
    exact hretained
  · rw [hpayload]
    simp only [hbound, List.nil_append]
    exact hrun
  · rw [hpayload, hfilled]

/-- With statuses that can be hashed, bounding succeeds and keeps what it should. -/
theorem bounded_payload_kept (result : Entries) (hnumbers : ResultNumbersBounded result)
    (h : StatusesHashable result) :
    ∃ payload, bounded_payload result = .ok payload ∧ KeptOf result payload := by
  obtain ⟨hown, hhistory⟩ := h
  obtain ⟨own, hown, hrel⟩ := own_update_read hown
  obtain ⟨latest, hlatest, hcut⟩ := latest_updates_cut GRAPH_UPDATE_HISTORY_MAX_COUNT
    (list_items (result.get "graph_updates")).reverse ((unreached_reverse _ _).mpr hhistory)
  obtain ⟨updates, hupdates, hconcise⟩ := concise_updates_cut latest
  rw [List.filterMap_reverse] at hcut
  have hreported : Option.Rel CutForm (reported_update result) (own.or latest.head?) :=
    reported_cut hrel hcut
  let limit := if updates = [] then result_limit
    else result_limit - GRAPH_UPDATE_HISTORY_RESERVE_BYTES
  have hlimit : 9000 ≤ limit ∧ limit ≤ result_limit := by
    simp only [limit]
    split <;> decide
  let start : ResultPayload :=
    { artifacts := valid_artifacts (result.get "artifacts"), graph_update := own.or latest.head? }
  let base := payload_trim.until_fits (fun p => decide (p.encoded_size ≤ limit)) start
  have hbase : Trimmed start base :=
    payload_trim.until_fits_keeps _ start (Trimmed.refl start)
      (fun _ _ hstep h => Trimmed.step hstep h)
  have hstart : ∀ v, start.graph_update = some v → NumbersBounded v := by
    intro v hv
    obtain ⟨u, hu, hcut⟩ := CutForm.of_rel hreported hv
    exact hcut.numbers (reported_numbers hnumbers hu)
  have hsize : base.encoded_size ≤ result_limit :=
    le_trans (trimmed_size hlimit.1 rfl rfl hstart) hlimit.2
  obtain ⟨hfits, ⟨ws, hws, hretained⟩, hmessages, hupdate⟩ :=
    fill_payload_kept base hbase.messages hbase.graph_updates hsize updates
      ((list_items (result.get "messages")).take 32) _ _ rfl rfl
  refine ⟨_, ?_, ?_, ?_, ?_, hmessages⟩
  · simp only [bounded_payload, hown, hlatest, hupdates, bind, Except.bind, pure, Except.pure]
    rfl
  · exact Nat.lt_of_le_of_lt hfits (by decide)
  · -- the newest updates, turned around again, end the history
    let newest := ((history_updates result).reverse.take GRAPH_UPDATE_HISTORY_MAX_COUNT).take
      ws.length
    have htrans (u v w : GraphUpdateView) (h : CutForm u v) (h' : CutForm v w) : CutForm u w :=
      h.trans h'
    have hforms : List.Forall₂ CutForm newest ws :=
      forall₂_trans htrans (List.forall₂_take ws.length (forall₂_trans htrans hcut hconcise)) hws
    have hnewest : newest <+: (history_updates result).reverse :=
      (List.take_prefix _ _).trans (List.take_prefix _ _)
    obtain ⟨older, holder⟩ := hnewest
    refine ⟨older.reverse, newest.reverse, ?_, ?_⟩
    · rw [← List.reverse_append, holder, List.reverse_reverse]
    · rw [hretained]
      exact List.forall₂_reverse_iff.mpr hforms
  · rw [hupdate]
    exact CutForm.rel_trans hreported hbase.graph_update

/-- Bounding a result succeeds, fits, and keeps verdicts, the latest updates and the first
    messages exactly when no status that is reached is a list or an object. -/
theorem bounded_result_kept_iff (result : Entries) (hnumbers : ResultNumbersBounded result) :
    (∃ payload, bounded_result_json (some result) = .ok (some payload.text) ∧
      KeptOf result payload) ↔ StatusesHashable result := by
  constructor
  · rintro ⟨payload, hok, -⟩
    simp only [bounded_result_json] at hok
    cases hown : bounded_graph_update false (result.get "graph_update") with
    | error e =>
      simp only [bounded_payload, hown] at hok
      cases hok
    | ok own =>
      cases hlatest : latest_updates GRAPH_UPDATE_HISTORY_MAX_COUNT
          (list_items (result.get "graph_updates")).reverse with
      | error e =>
        simp only [bounded_payload, hown, hlatest] at hok
        cases hok
      | ok latest =>
        refine ⟨?_, (unreached_reverse _ _).mp (latest_updates_unreached _ _ _ hlatest)⟩
        by_contra hhash
        obtain ⟨e, he⟩ := bounded_graph_update_unhashable false (by simpa using hhash)
        rw [he] at hown
        cases hown
  · intro h
    obtain ⟨payload, hpayload, hkept⟩ := bounded_payload_kept result hnumbers h
    refine ⟨payload, ?_, hkept⟩
    simp only [bounded_result_json, hpayload]
    rfl

/-- A result with an applied update, a malformed history entry and a blank message. -/
def applied_result : Entries :=
  [("messages", .list [.str " done ", .str " ", .int 3]),
    ("graph_update", .dict [("status", .str "applied"), ("applied_revision", .int 7)]),
    ("graph_updates", .list [.str "applied", .dict [("status", .str "rejected")]])]

theorem applied_result_numbers : ResultNumbersBounded applied_result := by
  intro raw hraw v hread
  change raw ∈ [.dict [("status", .str "applied"), ("applied_revision", .int 7)], .str "applied",
    .dict [("status", .str "rejected")]] at hraw
  simp only [List.mem_cons, List.not_mem_nil, or_false] at hraw
  obtain rfl | rfl | rfl := hraw
  · cases hread
    refine ⟨?_, by decide⟩
    intro i hi
    cases hi
    decide
  · cases hread
  · cases hread
    refine ⟨?_, by decide⟩
    intro i hi
    cases hi

theorem applied_result_kept :
    ∃ payload, bounded_result_json (some applied_result) = .ok (some payload.text) ∧
      KeptOf applied_result payload := by
  refine (bounded_result_kept_iff applied_result applied_result_numbers).mpr ⟨by decide, ?_⟩
  intro older raw newer hsplit hraw
  have hmem : raw ∈ list_items (applied_result.get "graph_updates") := by
    rw [hsplit]
    simp
  have hnone : ∀ raw ∈ list_items (applied_result.get "graph_updates"),
      unhashable_status raw = false := by
    decide
  rw [hnone raw hmem] at hraw
  cases hraw

/-- A status that is a list: bounding raises. -/
theorem unhashable_result_raises :
    ResultNumbersBounded [("graph_update", .dict [("status", .list [])])] ∧
    ¬ ∃ payload, bounded_result_json (some [("graph_update", .dict [("status", .list [])])])
      = .ok (some payload.text) ∧
      KeptOf [("graph_update", .dict [("status", .list [])])] payload := by
  constructor
  · intro raw hraw v hread
    change raw ∈ [.dict [("status", .list [])]] at hraw
    rw [List.mem_singleton.mp hraw] at hread
    cases hread
  · rintro ⟨payload, hok, -⟩
    have herr : bounded_result_json (some [("graph_update", .dict [("status", .list [])])])
        = .error (.type_error "unhashable type: 'list'") := rfl
    rw [herr] at hok
    cases hok

end ResearchGraph
