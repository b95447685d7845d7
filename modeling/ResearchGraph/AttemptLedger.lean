import ResearchGraph.Attempts
import ResearchGraph.Control

/-! # What loop Patches and human releases write to the ledger

    A loop Patch may write the attempts of its Experiment several times; every
    write is compared with the ledger before the Patch, so the last one decides.
    A human release is compared on the JSON forms of the attempts.
-/

namespace ResearchGraph

open Lib

variable {p : Patch} {s t : GraphState} {op : GraphOperation} {e : String}

/-! ### Rules of a written ledger -/

/-- What the loop rules establish of the ledger a Patch writes. -/
structure LoopWritten (pinned : List ExperimentDecisionPin)
    (before after : List ExperimentAttempt) :
    Prop where
  extended : Extended before after
  pinned : ∀ a ∈ after.drop before.length, a.decision_bundle = pinned
  distinct : (after.map (·.id)).Nodup

theorem passes_attempt_close {id : String} {revision : Option Nat} {a b : ExperimentAttempt}
    (h : Check.Passes (validate_attempt_close id revision (a, b)) ()) : a.Continues b := by
  unfold validate_attempt_close at h
  by_cases hfixed : a.same_fixed b = true
  · simp only [hfixed, not_true_eq_false, if_false, Check.passes_when, passes_reject, imp_false,
      not_and, not_or] at h
    refine ⟨hfixed, ?_⟩
    intro hclosed
    by_contra hdiffers
    exact (h hdiffers).1 hclosed
  · simp [hfixed] at h

/-- A decoded ledger that passes the loop rules. -/
theorem loop_written_of_passes {id : String} {before after : List ExperimentAttempt} {raw : Value}
    {pinned : List ExperimentDecisionPin} {has_proposals : Bool} {revision : Option Nat}
    {mode : DecodeMode} (hdecode : decode_list (ExperimentAttempt.decode mode) raw = .ok after)
    (h : Check.Passes (validate_attempts id before raw pinned has_proposals revision) ()) :
    LoopWritten pinned before after := by
  have hlax := (ExperimentAttempt.decode_lax mode).decode_list _ _ hdecode
  unfold validate_attempts at h
  rw [hlax] at h
  simp only at h
  split_ifs at h with hshort
  · simp at h
  · simp only [Check.passes_bind, Check.exists_unit, Check.passes_forEach, Check.passes_when,
      passes_reject, imp_false, not_not] at h
    obtain ⟨hclose, happended, -, hdistinct⟩ := h
    refine ⟨⟨Nat.not_lt.mp hshort, ?_⟩, ?_, hdistinct⟩
    · intro i a b ha hb
      refine passes_attempt_close (hclose (a, b) ?_)
      exact List.mem_of_getElem? (List.getElem?_zip_eq_some.mpr ⟨ha, hb⟩)
    · intro a ha
      have hrule := happended a ha
      simp only [validate_appended_attempt, Check.passes_bind, Check.exists_unit,
        Check.passes_when, passes_reject, imp_false, not_not] at hrule
      exact hrule.1

/-- The JSON form of an attempt, released: cancelled, with a finish time and a
    reason of its own. -/
def released_fields (a : ExperimentAttempt) (d : List (String × Value)) : List (String × Value) :=
  a.json_fields.map (fun (k, v) =>
    if k = "status" then (k, .str "cancelled")
    else if k = "finished_at" ∨ k = "failure_reason" then (k, (d.lookup k).getD .null)
    else (k, v))

theorem released_decode {a b : ExperimentAttempt} {d : List (String × Value)} {mode : DecodeMode}
    (ha : a.Typed) (hb : ExperimentAttempt.decode mode (.dict d) = .ok b) :
    ExperimentAttempt.decode mode (.dict (released_fields a d)) = .ok { a with
      status := .cancelled, finished_at := b.finished_at, failure_reason := b.failure_reason } := by
  have hjson := ExperimentAttempt.decode_ok.mp (ExperimentAttempt.decode_json ha mode)
  obtain ⟨hid, hsequence, hpurpose, hkind, hbundle, hdebug, hconfiguration, -, hjobs, hrefs,
    houtcome, -, hstarted, -⟩ := hjson
  obtain ⟨-, -, -, -, -, -, -, -, -, -, -, hreason, -, hfinished⟩ :=
    ExperimentAttempt.decode_ok.mp hb
  have hdefault {α : Type} {decode : Value → Decoded α} {k : String} {o : Option α}
      (h : optional d k none (decode_optional decode) = .ok o) :
      decode_optional decode ((d.lookup k).getD .null) = .ok o := by
    unfold optional at h
    cases hd : d.lookup k <;> simp only [hd] at h <;> exact h
  exact ExperimentAttempt.decode_ok.mpr ⟨hid, hsequence, hpurpose, hkind, hbundle, hdebug,
    hconfiguration, rfl, hjobs, hrefs, houtcome, hdefault hreason, hstarted, hdefault hfinished⟩

/-- One record of a human release, as the ledger stores it: the attempt itself,
    or the open attempt cancelled. -/
theorem released_continues {a b : ExperimentAttempt} {after : Value} {mode : DecodeMode}
    (ha : a.Typed) (hb : ExperimentAttempt.decode mode after = .ok b)
    (h : after.loosely_equal a.to_json = true ∨ (a.status.active = true ∧ ∃ d, after = .dict d ∧
      after.loosely_equal (.dict (released_fields a d)) = true)) : a.Continues b := by
  rcases h with hsame | ⟨hactive, d, rfl, hreleased⟩
  · obtain rfl := ExperimentAttempt.decode_agrees mode _ _ _ _ hsame hb
      (ExperimentAttempt.decode_json ha mode)
    exact .refl b
  · have hcancelled := ExperimentAttempt.decode_agrees mode _ _ _ _ hreleased hb
      (released_decode ha hb)
    refine ⟨?_, ?_⟩
    · rw [hcancelled]
      simp [ExperimentAttempt.same_fixed]
    · intro hclosed
      simp [AttemptStatus.terminal, hactive] at hclosed

theorem passes_release {id : String} {revision : Option Nat}
    {pairs : List (ExperimentAttempt × Value)} {released : Nat}
    (h : Check.Passes (release_attempts id revision pairs released) ()) :
    ∀ pair ∈ pairs, pair.2.loosely_equal pair.1.to_json = true ∨
      (pair.1.status.active = true ∧ ∃ d, pair.2 = .dict d ∧
        pair.2.loosely_equal (.dict (released_fields pair.1 d)) = true) := by
  induction pairs generalizing released with
  | nil => simp
  | cons pair pairs ih =>
    obtain ⟨before, after⟩ := pair
    cases after <;> simp only [release_attempts, passes_reject] at h
    next d =>
    split_ifs at h with hsame hrefused
    · intro x hx
      rcases List.mem_cons.mp hx with rfl | hx
      · exact Or.inl hsame
      · exact ih h x hx
    · simp at h
    · simp only [not_or, Bool.not_eq_true] at hrefused
      intro x hx
      rcases List.mem_cons.mp hx with rfl | hx
      · exact Or.inr ⟨by simpa using hrefused.1, d, rfl,
          by simpa [released_fields] using hrefused.2.1⟩
      · exact ih h x hx

/-- A decoded ledger that passes the rules of a human release. -/
theorem extended_of_release {n : Node} {x : Experiment} {raw : Value} {revision : Option Nat}
    {mode : DecodeMode} {after : List ExperimentAttempt} (hn : n.body = .experiment x)
    (htyped : ∀ a ∈ x.attempts, a.Typed)
    (hdecode : decode_list (ExperimentAttempt.decode mode) raw = .ok after)
    (h : Check.Passes (validate_attempt_release n raw revision) ()) :
    Extended x.attempts after ∧ after.map (·.id) = x.attempts.map (·.id) := by
  cases raw <;> simp only [decode_list, reduceCtorEq] at hdecode
  next raws =>
  simp only [validate_attempt_release, hn] at h
  split_ifs at h with hlength
  · simp at h
  · have hlength : raws.length = x.attempts.length := by simpa using hlength
    have hpairs := passes_release h
    -- the decoded list has one attempt for each raw record
    have hrecords := mapM_records hdecode
    have hcontinues : ∀ (i : Nat) (a b : ExperimentAttempt), x.attempts[i]? = some a →
        after[i]? = some b → a.Continues b := by
      intro i a b ha hb
      obtain ⟨v, hv, hvb⟩ := hrecords.2 i b hb
      refine released_continues (htyped a (List.mem_of_getElem? ha)) hvb ?_
      exact hpairs (a, v) (List.mem_of_getElem? (List.getElem?_zip_eq_some.mpr ⟨ha, hv⟩))
    have hlen : after.length = x.attempts.length := hrecords.1.trans hlength
    refine ⟨⟨hlen.ge, hcontinues⟩, ?_⟩
    refine List.ext_getElem? ?_
    intro i
    rw [List.getElem?_map, List.getElem?_map]
    cases ha : x.attempts[i]? with
    | none =>
      have hnone : after[i]? = none := by
        rw [List.getElem?_eq_none_iff] at ha ⊢
        omega
      rw [hnone]
    | some a =>
      obtain ⟨hi, -⟩ := List.getElem?_eq_some_iff.mp ha
      have hb : after[i]? = some after[i] := List.getElem?_eq_getElem (by omega)
      rw [hb]
      exact congrArg some (hcontinues i a _ ha hb).id_eq.symm

/-! ### Writes to the Experiment -/

theorem experiment?_put {a : GraphState} {n m : Node} {id : String} {x : Experiment}
    (hn : a.nodes.get? id = some n) (hid : m.id = n.id) (hm : m.body = .experiment x) :
    ({ a with nodes := a.nodes.put m } : GraphState).experiment? id = some x := by
  refine experiment?_eq_some.mpr ⟨m, ?_, hm⟩
  have hkey : Keyed.key m = id := hid.trans (Table.key_of_get? hn)
  show (a.nodes.put m).get? id = some m
  rw [Table.get?_put, if_pos hkey.symm]

theorem experiment_changes_attempts {mode : DecodeMode} {changes : Dict String Value}
    {x y : Experiment} (h : x.with_changes mode changes = .ok y) :
    overlay changes "attempts" x.attempts (decode_list (ExperimentAttempt.decode mode))
      = .ok y.attempts := by
  simp only [Experiment.with_changes, except_bind_ok, except_pure_ok] at h
  obtain ⟨_, -, _, -, _, -, _, -, _, -, _, -, _, -, _, hattempts, _, -, _, -, _, -, _, -, rfl⟩ := h
  exact hattempts

/-- The ledger an operation leaves is the one before, or the decoded value of
    one of its updates. -/
theorem write_attempts {a b : GraphState} {x : Experiment} (h : Write p false op a b)
    (hx : a.experiment? e = some x) (hcreate : e ∉ op.created_nodes.map (·.node.id))
    (hremove : e ∉ removed_nodes op) :
    ∃ y, b.experiment? e = some y ∧ (y.attempts = x.attempts ∨ ∃ u ∈ op.updates, u.id = e ∧
      ∃ raw, Dict.get u.changes "attempts" = some raw ∧
        decode_list (ExperimentAttempt.decode p.decode_mode) raw = .ok y.attempts) := by
  by_cases hreached : e ∈ reached_nodes op
  · obtain ⟨n, hn, hbody⟩ := experiment?_eq_some.mp hx
    -- a write to another node leaves the Experiment
    have hother {m n' : Node} {id : String} (hn' : a.nodes.get? id = some n') (hid : m.id = n'.id)
        (hne : id ≠ e) : (a.nodes.put m).get? e = a.nodes.get? e :=
      key_put_ne _ hn' hid (Ne.symm hne)
    -- retiring the Experiment keeps its attempts
    have hretired {m n' : Node} (hn' : a.nodes.get? e = some n')
        (hm : superseded_node p n' = .ok m) :
        ∃ y, m.body = .experiment y ∧ y.attempts = x.attempts := by
      obtain rfl := Option.some.inj (hn.symm.trans hn')
      obtain ⟨body, hsuperseded, rfl⟩ := superseded_node_ok hm
      rw [hbody] at hsuperseded
      obtain rfl := Option.some.inj hsuperseded
      exact ⟨_, rfl, rfl⟩
    cases h
    case create_node nodes raw hmem =>
      have hne : e ≠ raw.node.id := by
        intro heq
        exact hcreate (List.mem_map.mpr ⟨raw, hmem, heq.symm⟩)
      refine ⟨x, ?_, Or.inl rfl⟩
      rw [experiment?_congr (Table.get?_put_ne _ hne)]
      exact hx
    case update_node updates u n' m hmem hm hn' =>
      by_cases hu : u.id = e
      · subst hu
        obtain rfl := Option.some.inj (hn.symm.trans hn')
        obtain ⟨-, m', hm', rfl⟩ := updated_node_ok hm
        obtain ⟨hid, -, -, -, -, hchanges⟩ := with_changes_ok hm'
        rw [hbody] at hchanges
        obtain ⟨y, hy, hbody'⟩ := except_map_ok.mp hchanges
        refine ⟨y, experiment?_put hn hid hbody', ?_⟩
        have hattempts := experiment_changes_attempts hy
        unfold overlay at hattempts
        cases hraw : Dict.get u.changes "attempts" with
        | none =>
          rw [hraw] at hattempts
          exact Or.inl (Except.ok.inj hattempts).symm
        | some raw =>
          rw [hraw] at hattempts
          exact Or.inr ⟨u, hmem, rfl, raw, hraw, hattempts⟩
      · refine ⟨x, ?_, Or.inl rfl⟩
        rw [experiment?_congr (hother hn' (rewritten_of_update hm).id hu)]
        exact hx
    case remove_nodes node_ids => exact absurd hreached hremove
    case supersede_node nodes item n' m hmem hm hn' =>
      by_cases hitem : item.id = e
      · rw [hitem] at hn'
        obtain ⟨y, hy, hattempts⟩ := hretired hn' hm
        exact ⟨y, experiment?_put hn' (rewritten_of_supersede hm).id hy, Or.inl hattempts⟩
      · refine ⟨x, ?_, Or.inl rfl⟩
        rw [experiment?_congr (hother hn' (rewritten_of_supersede hm).id hitem)]
        exact hx
    case merge_node merges item n' m hmem hm hn' =>
      by_cases hitem : item.duplicate = e
      · rw [hitem] at hn'
        obtain ⟨y, hy, hattempts⟩ := hretired hn' hm
        exact ⟨y, experiment?_put hn' (rewritten_of_supersede hm).id hy, Or.inl hattempts⟩
      · refine ⟨x, ?_, Or.inl rfl⟩
        rw [experiment?_congr (hother hn' (rewritten_of_supersede hm).id hitem)]
        exact hx
    case set_standing node_id standing n' hn' =>
      have hid : { n' with standing, updated_rev := p.revision }.id = n'.id := rfl
      by_cases hnode : node_id = e
      · subst hnode
        obtain rfl := Option.some.inj (hn.symm.trans hn')
        exact ⟨x, experiment?_put hn hid hbody, Or.inl rfl⟩
      · refine ⟨x, ?_, Or.inl rfl⟩
        rw [experiment?_congr (hother hn' hid hnode)]
        exact hx
    all_goals exact ⟨x, hx, Or.inl rfl⟩
  · refine ⟨x, ?_, Or.inl rfl⟩
    rw [experiment?_congr (write_nodes_frame hreached h)]
    exact hx

/-- A property of ledgers that holds of the ledger before an operation and of
    every ledger it writes holds after it. -/
theorem operation_attempts (P : List ExperimentAttempt → Prop) {a b : GraphState} {x : Experiment}
    (h : apply_operation p false a op = .ok b) (hx : a.experiment? e = some x) (hP : P x.attempts)
    (hcreate : e ∉ op.created_nodes.map (·.node.id)) (hremove : e ∉ removed_nodes op)
    (hwritten : ∀ u ∈ op.updates, u.id = e → ∀ raw attempts,
      Dict.get u.changes "attempts" = some raw →
      decode_list (ExperimentAttempt.decode p.decode_mode) raw = .ok attempts → P attempts) :
    ∃ y, b.experiment? e = some y ∧ P y.attempts := by
  refine apply_operation_invariant (fun a => ∃ y, a.experiment? e = some y ∧ P y.attempts) h
    ⟨x, hx, hP⟩ ?_
  rintro a b hab ⟨y, hy, hPy⟩
  obtain ⟨z, hz, hsame | ⟨u, hu, hid, raw, hraw, hdecode⟩⟩ := write_attempts hab hy hcreate hremove
  · exact ⟨z, hz, hsame ▸ hPy⟩
  · exact ⟨z, hz, hwritten u hu hid raw _ hraw hdecode⟩

/-! ### Steps of the ledger -/

section Steps

variable [TextLibrary] [Canonical]

/-- An admitted loop Patch, bound to `e` with its pinned Decisions, is applied. -/
def LoopWrite (e : String) (pinned : List ExperimentDecisionPin) (s t : GraphState) : Prop :=
  ∃ p scope settings binding, Admitted s p scope settings binding ∧ p.kind = .experiment_loop ∧
    control_node_id binding.control_node_id p = some e ∧
    binding.decision_bundle.getD p.experiment_decision_bundle = pinned ∧
    apply_valid_patch s p = .ok t

/-- An admitted human release of attempts of `e` is applied. -/
def ReleaseWrite (e : String) (s t : GraphState) : Prop :=
  ∃ p scope settings binding u, Admitted s p scope settings binding ∧ p.kind = .approval ∧
    resolution_ops p.ops = [] ∧ update_ops p.ops = [[u]] ∧ u.id = e ∧
    u.changes.keys = ["attempts"] ∧ apply_valid_patch s p = .ok t

def AttemptStep (e : String) (s t : GraphState) : Prop :=
  (∃ pinned, LoopWrite e pinned s t) ∨ ReleaseWrite e s t

omit [TextLibrary] [Canonical] in
/-- Every run of operations that neither creates nor removes `e`. -/
theorem run_attempts (P : List ExperimentAttempt → Prop) {ops : List GraphOperation}
    {x : Experiment} (h : run_operations p s ops = .ok t) (hx : s.experiment? e = some x)
    (hP : P x.attempts) (hcreate : ∀ op ∈ ops, e ∉ op.created_nodes.map (·.node.id))
    (hremove : ∀ op ∈ ops, e ∉ removed_nodes op)
    (hwritten : ∀ op ∈ ops, ∀ u ∈ op.updates, u.id = e → ∀ raw attempts,
      Dict.get u.changes "attempts" = some raw →
      decode_list (ExperimentAttempt.decode p.decode_mode) raw = .ok attempts → P attempts) :
    ∃ y, t.experiment? e = some y ∧ P y.attempts := by
  refine foldlM_invariant (fun a => ∃ y, a.experiment? e = some y ∧ P y.attempts) h
    ⟨x, hx, hP⟩ ?_
  rintro op hop a b hab ⟨y, hy, hPy⟩
  exact operation_attempts P hab hy hPy (hcreate op hop) (hremove op hop) (hwritten op hop)

omit [TextLibrary] [Canonical] in
theorem typed_of_decode_list {mode : DecodeMode} {raw : Value} {attempts : List ExperimentAttempt}
    (h : decode_list (ExperimentAttempt.decode mode) raw = .ok attempts) :
    ∀ a ∈ attempts, a.Typed := by
  intro a ha
  obtain ⟨v, hv⟩ := decode_list_mem h a ha
  exact ExperimentAttempt.typed_of_decode hv

omit [TextLibrary] [Canonical] in
/-- The rules of a loop bound to the Experiment `n` passed on every operation. -/
theorem passes_loop_authority {n : Node} {x : Experiment} {pinned : List ExperimentDecisionPin}
    {mode : ValidationMode} (hn : s.nodes.get? e = some n) (hbody : n.body = .experiment x)
    (h : Check.Passes (validate_experiment_loop_authority s p (some e) pinned mode) ()) :
    ∀ op ∈ p.ops, Check.Passes (validate_loop_operation s p mode n.id x pinned op) () := by
  unfold validate_experiment_loop_authority at h
  by_cases hempty : e = ""
  · simp [control_experiment, hempty, Option.filter] at h
  · have hcontrol : control_experiment s (some e) = some (n, x) := by
      simp [control_experiment, Option.filter, hempty, hn, hbody]
    simp only [hcontrol, Check.passes_bind, Check.exists_unit, Check.passes_forEach] at h
    exact h.2

omit [TextLibrary] [Canonical] in
/-- A loop operation removes nothing. -/
theorem passes_loop_removed {mode : ValidationMode} {id : String} {x : Experiment}
    {pinned : List ExperimentDecisionPin}
    (h : Check.Passes (validate_loop_operation s p mode id x pinned op) ()) :
    removed_nodes op = [] := by
  cases op <;> first | rfl | simp [validate_loop_operation] at h

omit [TextLibrary] [Canonical] in
/-- A ledger that a loop update writes passed the rules of attempts. -/
theorem passes_loop_update {n : Node} {x : Experiment} {pinned : List ExperimentDecisionPin}
    {mode : ValidationMode} (hn : s.nodes.get? e = some n) (hbody : n.body = .experiment x)
    (h : Check.Passes (validate_loop_operation s p mode n.id x pinned op) ()) {u : NodeUpdate}
    (hu : u ∈ op.updates) (hid : u.id = e) {raw : Value}
    (hraw : Dict.get u.changes "attempts" = some raw) :
    Check.Passes (validate_attempts n.id x.attempts raw pinned (raises_proposals p.ops)
      p.revision_label) () := by
  cases op <;> simp only [GraphOperation.updates, List.not_mem_nil] at hu
  simp only [validate_loop_operation, Check.passes_forEach] at h
  have hrule := h u hu
  unfold validate_loop_update at hrule
  split_ifs at hrule with hpinned hforeign
  · -- a pinned node is a Decision
    exfalso
    simp only [validate_pinned_update, Check.passes_bind] at hrule
    obtain ⟨queued, -, hrule⟩ := hrule
    cases queued
    · simp at hrule
    · simp only [not_true_eq_false, if_false, Check.passes_when, passes_reject, imp_false,
        not_not, hid, hn, Option.any_some, Node.type, hbody, NodeBody.type] at hrule
      simp at hrule
  · simp at hrule
  · simp only [Check.passes_bind, Check.exists_unit, hraw] at hrule
    exact hrule.2

/-- What a loop Patch leaves of the ledger of its Experiment. -/
theorem LoopWrite.written {pinned : List ExperimentDecisionPin} {x : Experiment}
    (h : LoopWrite e pinned s t) (hx : s.experiment? e = some x)
    (htyped : ∀ a ∈ x.attempts, a.Typed) :
    ∃ y, t.experiment? e = some y ∧ (∀ a ∈ y.attempts, a.Typed) ∧
      (y.attempts = x.attempts ∨ LoopWritten pinned x.attempts y.attempts) := by
  obtain ⟨p, scope, settings, binding, hadmitted, hkind, hcontrol, rfl, happly⟩ := h
  obtain ⟨final, hrun⟩ := hadmitted.run
  obtain rfl := Except.ok.inj (hrun.applied.symm.trans happly)
  rw [experiment?_congr (congrArg (fun nodes => Table.get? nodes e) (committed_nodes p _))]
  obtain ⟨n, hn, hbody⟩ := experiment?_eq_some.mp hx
  -- the loop rules of every operation passed on the graph before the Patch
  have hshape := hrun.shape
  simp only [validate_patch_shape, Check.passes_bind, Check.exists_unit] at hshape
  obtain ⟨-, -, -, -, -, -, -, hloop, -, -⟩ := hshape
  have hloop : Check.Passes (validate_experiment_control s p
      (control_node_id binding.control_node_id p) _ .admission) () := hloop
  rw [validate_experiment_control, if_pos hkind, hcontrol] at hloop
  have hrules := passes_loop_authority hn hbody hloop
  refine run_attempts (fun attempts => (∀ a ∈ attempts, a.Typed) ∧ (attempts = x.attempts ∨
    LoopWritten _ x.attempts attempts)) hrun.run hx ⟨htyped, Or.inl rfl⟩ ?_ ?_ ?_
  · intro op hop hcreated
    obtain ⟨pre, post, hops⟩ := List.append_of_mem hop
    obtain ⟨u, hu, -⟩ := foldlM_append_ok.mp (hops ▸ hrun.run)
    have hjudged := hrun.judged pre op post u hops hu
    cases op <;> simp only [GraphOperation.created_nodes, List.map_nil,
      List.not_mem_nil] at hcreated
    obtain ⟨raw, hraw, rfl⟩ := List.mem_map.mp hcreated
    have hnew : s.nodes.get? raw.node.id = none := judged_nodes_new hjudged rfl hraw
    rw [hn] at hnew
    cases hnew
  · intro op hop
    rw [passes_loop_removed (hrules op hop)]
    exact List.not_mem_nil
  · intro op hop u hu hid raw attempts hraw hdecode
    exact ⟨typed_of_decode_list hdecode, Or.inr (loop_written_of_passes hdecode
      (passes_loop_update hn hbody (hrules op hop) hu hid hraw))⟩

omit [TextLibrary] [Canonical] in
theorem standalone_updates {mode : ValidationMode} {ops : List GraphOperation}
    (h : is_standalone mode ops = true) : update_ops ops = [] := by
  unfold is_standalone at h
  split at h <;> first | rfl | cases h

omit [TextLibrary] [Canonical] in
/-- A standalone edit of the attempts of `e` passed the rules of a release, and
    nothing beside it creates, removes or updates. -/
theorem passes_release_shape {u : NodeUpdate} {n : Node} {x : Experiment}
    (hresolutions : resolution_ops p.ops = []) (hupdates : update_ops p.ops = [[u]])
    (hn : s.nodes.get? u.id = some n) (hbody : n.body = .experiment x)
    (hkeys : u.changes.keys = ["attempts"])
    (h : Check.Passes (validate_approval_shape s p .admission) ()) :
    (∀ op ∈ p.ops, op.op = "update_nodes" ∨ op.op = "set_standing") ∧
      Check.Passes (validate_attempt_release n ((Dict.get u.changes "attempts").getD .null)
        p.revision_label) () := by
  have hedit (h : Check.Passes (validate_direct_node_edit s p [u] .admission) ()) :
      Check.Passes (validate_attempt_release n ((Dict.get u.changes "attempts").getD .null)
        p.revision_label) () := by
    simp only [validate_direct_node_edit, hn, validate_edited_node, Check.passes_bind,
      Check.exists_unit] at h
    obtain ⟨-, -, h⟩ := h
    by_cases hempty : u.changes.items = []
    · simp [hempty] at h
    · rw [if_neg hempty, if_pos hkeys] at h
      simp only [Check.passes_bind, Check.exists_unit] at h
      exact h.2
  unfold validate_approval_shape at h
  split_ifs at h with hchoice
  · -- a Decision choice does not update an Experiment
    exfalso
    unfold validate_direct_decision_choice at h
    rw [hupdates] at h
    split_ifs at h with hpermits hops
    · simp at h
    · split at h
      · next update hu _ =>
        obtain rfl : u = update := by simpa using hu
        simp [hn, hbody] at h
        exact h.2 h.1.1 h.1.2
      · next update _ hu _ =>
        obtain rfl : u = update := by simpa using hu
        simp [hn, hbody] at h
        exact h.2 h.1.1 h.1.2
      · simp at h
      · simp at h
      · simp at h
    · simp at h
  · rw [hresolutions] at h
    simp only [validate_standalone] at h
    split at h
    · next nodes hops =>
      rw [hops] at hupdates
      cases hupdates
    · split_ifs at h with hstandalone hnames
      · rw [standalone_updates hstandalone] at hupdates
        cases hupdates
      · refine ⟨?_, ?_⟩
        · intro op hop
          simpa using List.all_eq_true.mp hnames.2 op hop
        · unfold validate_standalone_edit at h
          rw [hupdates] at h
          split at h
          · next updates hu _ =>
            obtain rfl : [u] = updates := by simpa using hu
            exact hedit h
          · next updates _ hu _ =>
            obtain rfl : [u] = updates := by simpa using hu
            simp only [Check.passes_bind, Check.exists_unit] at h
            exact hedit h.1
          · simp at h
      · simp at h

omit [TextLibrary] [Canonical] in
theorem updates_of_update_ops {ops : List GraphOperation} {u : NodeUpdate}
    (h : update_ops ops = [[u]]) (hop : op ∈ ops) {w : NodeUpdate} (hw : w ∈ op.updates) :
    w = u := by
  cases op <;> simp only [GraphOperation.updates, List.not_mem_nil] at hw
  next updates =>
  have hmem : updates ∈ update_ops ops := List.mem_filterMap.mpr ⟨_, hop, rfl⟩
  rw [h, List.mem_singleton] at hmem
  rw [hmem, List.mem_singleton] at hw
  exact hw

omit [TextLibrary] [Canonical] in
/-- Edits and reviews create and remove nothing. -/
theorem edits_only (h : op.op = "update_nodes" ∨ op.op = "set_standing") :
    op.created_nodes = [] ∧ removed_nodes op = [] := by
  cases op <;> simp [GraphOperation.op] at h <;> exact ⟨rfl, rfl⟩

/-- What a human release leaves of the ledger. -/
theorem ReleaseWrite.written {x : Experiment} (h : ReleaseWrite e s t)
    (hx : s.experiment? e = some x) (htyped : ∀ a ∈ x.attempts, a.Typed) :
    ∃ y, t.experiment? e = some y ∧ (∀ a ∈ y.attempts, a.Typed) ∧
      Extended x.attempts y.attempts ∧ y.attempts.map (·.id) = x.attempts.map (·.id) := by
  obtain ⟨p, scope, settings, binding, u, hadmitted, hkind, hresolutions, hupdates, rfl, hkeys,
    happly⟩ := h
  obtain ⟨final, hrun⟩ := hadmitted.run
  obtain rfl := Except.ok.inj (hrun.applied.symm.trans happly)
  rw [experiment?_congr (congrArg (fun nodes => Table.get? nodes u.id) (committed_nodes p _))]
  obtain ⟨n, hn, hbody⟩ := experiment?_eq_some.mp hx
  have hshape := hrun.shape
  simp only [validate_patch_shape, Check.passes_bind, Check.exists_unit] at hshape
  obtain ⟨-, -, -, -, -, -, -, -, -, hshape⟩ := hshape
  have hshape : Check.Passes (validate_approval_shape s p .admission) () :=
    Check.passes_when.mp hshape hkind
  obtain ⟨hnames, hrelease⟩ := passes_release_shape hresolutions hupdates hn hbody hkeys hshape
  refine run_attempts (fun attempts => (∀ a ∈ attempts, a.Typed) ∧ Extended x.attempts attempts ∧
    attempts.map (·.id) = x.attempts.map (·.id)) hrun.run hx ⟨htyped, .refl _, rfl⟩ ?_ ?_ ?_
  · intro op hop
    rw [(edits_only (hnames op hop)).1]
    exact List.not_mem_nil
  · intro op hop
    rw [(edits_only (hnames op hop)).2]
    exact List.not_mem_nil
  · intro op hop w hw hid raw attempts hraw hdecode
    obtain rfl := updates_of_update_ops hupdates hop hw
    rw [hraw] at hrelease
    exact ⟨typed_of_decode_list hdecode, extended_of_release hbody htyped hdecode hrelease⟩

/-! ### Runs -/

/-- What the ledger after some steps is to the one before. -/
structure AttemptsKept (before after : List ExperimentAttempt) : Prop where
  typed : ∀ a ∈ after, a.Typed
  extended : Extended before after
  distinct : (before.map (·.id)).Nodup → (after.map (·.id)).Nodup

theorem AttemptStep.kept {x : Experiment} (h : AttemptStep e s t) (hx : s.experiment? e = some x)
    (htyped : ∀ a ∈ x.attempts, a.Typed) :
    ∃ y, t.experiment? e = some y ∧ AttemptsKept x.attempts y.attempts := by
  rcases h with ⟨pinned, hloop⟩ | hrelease
  · obtain ⟨y, hy, htyped', hsame | hwritten⟩ := hloop.written hx htyped
    · exact ⟨y, hy, htyped', hsame ▸ .refl _, fun hnodup => hsame ▸ hnodup⟩
    · exact ⟨y, hy, htyped', hwritten.extended, fun _ => hwritten.distinct⟩
  · obtain ⟨y, hy, htyped', hextended, hids⟩ := hrelease.written hx htyped
    exact ⟨y, hy, htyped', hextended, fun hnodup => hids ▸ hnodup⟩

/-- Over every run of loop Patches and human releases the ledger of an
    Experiment only grows at its end, keeps what its attempts were started with
    and its closed attempts, and keeps ids distinct; and every attempt a loop
    Patch appends carries the pinned Decisions of that Patch. -/
theorem attempt_ledger :
    (∀ s t e x, Relation.ReflTransGen (AttemptStep e) s t → s.experiment? e = some x →
      (∀ a ∈ x.attempts, a.Typed) →
      ∃ y, t.experiment? e = some y ∧ AttemptsKept x.attempts y.attempts) ∧
    ∀ s t e pinned x y, LoopWrite e pinned s t → s.experiment? e = some x →
      (∀ a ∈ x.attempts, a.Typed) → t.experiment? e = some y →
      ∀ a ∈ y.attempts.drop x.attempts.length, a.decision_bundle = pinned := by
  constructor
  · intro s t e x hrun hx htyped
    induction hrun with
    | refl => exact ⟨x, hx, htyped, .refl _, id⟩
    | tail _ hstep ih =>
      obtain ⟨y, hy, hkept⟩ := ih
      obtain ⟨z, hz, hkept'⟩ := hstep.kept hy hkept.typed
      exact ⟨z, hz, hkept'.typed, hkept.extended.trans hkept'.extended,
        fun hnodup => hkept'.distinct (hkept.distinct hnodup)⟩
  · intro s t e pinned x y hwrite hx htyped hy a ha
    obtain ⟨y', hy', -, hsame | hwritten⟩ := hwrite.written hx htyped
    · obtain rfl := Option.some.inj (hy.symm.trans hy')
      rw [hsame, List.drop_length] at ha
      cases ha
    · obtain rfl := Option.some.inj (hy.symm.trans hy')
      exact hwritten.pinned a ha

end Steps

open scoped Reference

/-- A running attempt. -/
def first_attempt : ExperimentAttempt where
  id := "try-1"
  sequence := 1
  purpose := "First run."
  status := .running

def planned_graph : GraphState where
  nodes := Table.ofList
    [{ id := "exp/a", title := "exp/a", body := .experiment { objective := "Try." } }]

/-- The Experiment's ledger is written as one value. -/
def ledger_update (base_updated_rev : Option Nat) (attempts : Value) : GraphOperation :=
  .update_nodes [{ id := "exp/a", base_updated_rev,
                   changes := Table.ofList [("attempts", attempts)] }]

/-- The loop of the Experiment starts its first attempt. -/
def started_patch : Patch :=
  { Reference.agent_patch 1 [ledger_update none (.list [first_attempt.to_json])] with
    kind := .experiment_loop
    experiment_control_node_id := some "exp/a" }

/-- A human releases it. -/
def released_patch : Patch :=
  let finish := [("finished_at", Value.str "2025-01-02T00:00:00Z")]
  Reference.human_patch 2
    [ledger_update (some 1) (.list [.dict (released_fields first_attempt finish)])]

/-- The attempt is started with no pinned Decision, and stays in the ledger when
    it is released. -/
theorem released_attempt_kept :
    let s := Reference.result (apply_valid_patch planned_graph started_patch)
    let t := Reference.result (apply_valid_patch s released_patch)
    LoopWrite "exp/a" [] planned_graph s ∧ ReleaseWrite "exp/a" s t ∧
      (∃ x, s.experiment? "exp/a" = some x ∧ ∀ a ∈ x.attempts.drop 0, a.decision_bundle = []) ∧
      ∃ y, t.experiment? "exp/a" = some y ∧ AttemptsKept [first_attempt] y.attempts := by
  intro s t
  have hloop : LoopWrite "exp/a" [] planned_graph s :=
    ⟨started_patch, ["main"], {}, {}, by decide +kernel, rfl, rfl, rfl,
      Reference.eq_ok_result (by decide +kernel)⟩
  have hrelease : ReleaseWrite "exp/a" s t :=
    ⟨released_patch, ["main"], {}, {}, _, by decide +kernel, rfl, rfl, rfl, rfl, by decide,
      Reference.eq_ok_result (by decide +kernel)⟩
  have hs : s.experiment? "exp/a" = some { objective := "Try.", attempts := [first_attempt] } := by
    decide +kernel
  have htyped : ∀ a ∈ [first_attempt], a.Typed := by
    intro a ha
    obtain rfl := List.mem_singleton.mp ha
    exact ⟨by decide, nofun, nofun, nofun, nofun, nofun⟩
  refine ⟨hloop, hrelease, ⟨_, hs, ?_⟩, ?_⟩
  · have hempty : ∀ a ∈ ([] : List ExperimentAttempt), a.Typed := by
      intro a ha
      cases ha
    exact attempt_ledger.2 _ _ _ _ { objective := "Try." } _ hloop rfl hempty hs
  · exact attempt_ledger.1 _ _ _ _ (.single (Or.inr hrelease)) hs htyped

end ResearchGraph
