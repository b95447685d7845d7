import ResearchGraph.Agreement
import ResearchGraph.Judged
import ResearchGraph.Reference

/-! # The attempt ledger of an Experiment

    Loop Patches append attempts and close open ones; a human release cancels
    open ones.  Whatever the order of the writes, the ledger only grows at its
    end, no attempt changes what it was started with, and a closed attempt
    stays as it is.
-/

namespace ResearchGraph

open Lib

/-! ### Attempts the typed model holds -/

structure SourceRef.Typed (r : SourceRef) : Prop where
  excerpt : r.excerpt.length ≤ 800
  timestamp : r.timestamp.Calendar

structure ExperimentAttemptDebug.Typed (d : ExperimentAttemptDebug) : Prop where
  mechanical_fault : 1 ≤ d.mechanical_fault.length
  change : 1 ≤ d.change.length
  predicted_effect : 1 ≤ d.predicted_effect.length

/-- The bounds that the typed model puts on the fields of an attempt. -/
structure ExperimentAttempt.Typed (a : ExperimentAttempt) : Prop where
  sequence : 1 ≤ a.sequence
  decision_bundle : ∀ pin ∈ a.decision_bundle, 1 ≤ pin.selected_option.length
  debug : ∀ d, a.debug = some d → d.Typed
  source_refs : ∀ r ∈ a.source_refs, r.Typed
  started_at : ∀ t, a.started_at = some t → t.Calendar
  finished_at : ∀ t, a.finished_at = some t → t.Calendar

section

variable {α : Type} {decode : Value → Decoded α}

/-- A decoded list has the record of each raw value in its place. -/
theorem mapM_records {xs : List Value} {as : List α} (h : xs.mapM decode = .ok as) :
    as.length = xs.length ∧
      ∀ (i : Nat) (a : α), as[i]? = some a → ∃ x, xs[i]? = some x ∧ decode x = .ok a := by
  induction xs generalizing as with
  | nil =>
    cases h
    simp
  | cons x xs ih =>
    simp only [List.mapM_cons, except_bind_ok, except_pure_ok] at h
    obtain ⟨a, ha, rest, hrest, rfl⟩ := h
    obtain ⟨hlength, hrecords⟩ := ih hrest
    refine ⟨by simp [hlength], ?_⟩
    intro i b hb
    cases i with
    | zero =>
      obtain rfl := Option.some.inj hb
      exact ⟨x, rfl, ha⟩
    | succ i => exact hrecords i b hb

theorem decode_list_mem {v : Value} {as : List α} (h : decode_list decode v = .ok as) :
    ∀ a ∈ as, ∃ x, decode x = .ok a := by
  cases v <;> simp only [decode_list, reduceCtorEq] at h
  intro a ha
  obtain ⟨i, hi, rfl⟩ := List.mem_iff_getElem.mp ha
  obtain ⟨x, -, hx⟩ := (mapM_records h).2 i _ (List.getElem?_eq_getElem hi)
  exact ⟨x, hx⟩

theorem decode_optional_some {v : Value} {a : α} (h : decode_optional decode v = .ok (some a)) :
    ∃ x, decode x = .ok a := by
  cases v <;> simp only [decode_optional, except_map_ok, Option.some.injEq, reduceCtorEq,
    Except.ok.injEq, exists_eq_right'] at h
  all_goals exact ⟨_, h⟩

theorem required_ok {d : List (String × Value)} {k : String} {a : α}
    (h : required d k decode = .ok a) : ∃ v, decode v = .ok a := by
  unfold required at h
  cases hd : d.lookup k <;> simp only [hd, reduceCtorEq] at h
  exact ⟨_, h⟩

theorem optional_ok {d : List (String × Value)} {k : String} {a default : α}
    (h : optional d k default decode = .ok a) : a = default ∨ ∃ v, decode v = .ok a := by
  unfold optional at h
  cases hd : d.lookup k <;> simp only [hd, Except.ok.injEq] at h
  · exact Or.inl h.symm
  · exact Or.inr ⟨_, h⟩

end

theorem decode_nat_le {mode : DecodeMode} {least : Nat} {v : Value} {n : Nat}
    (h : decode_nat mode least v = .ok n) : least ≤ n := by
  obtain ⟨i, -, h⟩ := except_bind_ok.mp h
  split_ifs at h with hle
  cases h
  omega

theorem decode_text_le {least : Nat} {v : Value} {s : String}
    (h : decode_text least v = .ok s) : least ≤ s.length := by
  obtain ⟨x, -, h⟩ := except_bind_ok.mp h
  split_ifs at h with hle
  cases h
  exact hle

theorem SourceRef.typed_of_decode {mode : DecodeMode} {v : Value} {r : SourceRef}
    (h : SourceRef.decode mode v = .ok r) : r.Typed := by
  cases v <;> simp only [reduceCtorEq, SourceRef.decode] at h
  obtain ⟨-, hshort, -, -, -, -, -, htime⟩ := decode_ok.mp h
  obtain ⟨w, hw⟩ := required_ok htime
  exact ⟨hshort, decode_datetime_calendar hw⟩

theorem ExperimentAttemptDebug.typed_of_decode {v : Value} {d : ExperimentAttemptDebug}
    (h : ExperimentAttemptDebug.decode v = .ok d) : d.Typed := by
  cases v <;> simp only [reduceCtorEq, ExperimentAttemptDebug.decode] at h
  obtain ⟨-, hfault, hchange, heffect⟩ := decode_ok.mp h
  obtain ⟨_, hfault⟩ := required_ok hfault
  obtain ⟨_, hchange⟩ := required_ok hchange
  obtain ⟨_, heffect⟩ := required_ok heffect
  exact ⟨decode_text_le hfault, decode_text_le hchange, decode_text_le heffect⟩

theorem optional_time_calendar {mode : DecodeMode} {d : List (String × Value)} {k : String}
    {o : Option Datetime}
    (h : optional d k none (decode_optional (decode_datetime mode)) = .ok o) :
    ∀ t, o = some t → t.Calendar := by
  rintro t rfl
  rcases optional_ok h with hnone | ⟨v, hv⟩
  · cases hnone
  · obtain ⟨x, hx⟩ := decode_optional_some hv
    exact decode_datetime_calendar hx

/-- Every attempt that is decoded meets the bounds. -/
theorem ExperimentAttempt.typed_of_decode {mode : DecodeMode} {v : Value} {a : ExperimentAttempt}
    (h : ExperimentAttempt.decode mode v = .ok a) : a.Typed := by
  cases v <;> simp only [reduceCtorEq, ExperimentAttempt.decode] at h
  obtain ⟨-, hsequence, -, -, hbundle, hdebug, -, -, -, hrefs, -, -, hstarted, hfinished⟩ :=
    decode_ok.mp h
  obtain ⟨_, hsequence⟩ := required_ok hsequence
  refine ⟨decode_nat_le hsequence, ?_, ?_, ?_, optional_time_calendar hstarted,
    optional_time_calendar hfinished⟩
  · intro pin hpin
    rcases optional_ok hbundle with hnil | ⟨v, hv⟩
    · rw [hnil] at hpin
      cases hpin
    · obtain ⟨x, hx⟩ := decode_list_mem hv pin hpin
      cases x <;> simp only [reduceCtorEq, ExperimentDecisionPin.decode] at hx
      obtain ⟨-, -, -, hoption⟩ := ExperimentDecisionPin.decode_ok.mp hx
      obtain ⟨_, hoption⟩ := required_ok hoption
      exact decode_text_le hoption
  · intro d hd
    rcases optional_ok hdebug with hnone | ⟨v, hv⟩
    · rw [hd] at hnone
      cases hnone
    · rw [hd] at hv
      obtain ⟨x, hx⟩ := decode_optional_some hv
      exact ExperimentAttemptDebug.typed_of_decode hx
  · intro r hr
    rcases optional_ok hrefs with hnil | ⟨v, hv⟩
    · rw [hnil] at hr
      cases hr
    · obtain ⟨x, hx⟩ := decode_list_mem hv r hr
      exact SourceRef.typed_of_decode hx

/-! ### Round trip -/

theorem decode_list_map {α : Type} {decode : Value → Decoded α} {to_json : α → Value}
    {as : List α} (h : ∀ a ∈ as, decode (to_json a) = .ok a) :
    decode_list decode (.list (as.map to_json)) = .ok as := by
  show (as.map to_json).mapM decode = .ok as
  induction as with
  | nil => rfl
  | cons a as ih =>
    simp only [List.map_cons, List.mapM_cons, except_bind_ok, except_pure_ok]
    exact ⟨a, h a (by simp), as, ih (fun b hb => h b (by simp [hb])), rfl⟩

theorem decode_optional_json {α : Type} {decode : Value → Decoded α} {to_json : α → Value}
    {o : Option α} (hnull : ∀ a, to_json a ≠ .null)
    (h : ∀ a, o = some a → decode (to_json a) = .ok a) :
    decode_optional decode (opt_json to_json o) = .ok o := by
  cases o with
  | none => rfl
  | some a =>
    have hmap {x : Value} (hx : x ≠ .null) : decode_optional decode x = (decode x).map some := by
      cases x <;> simp_all [decode_optional]
    rw [opt_json, hmap (hnull a), h a rfl]
    rfl

theorem decode_opt_str (o : Option String) : decode_optional decode_str (opt_str o) = .ok o := by
  cases o <;> rfl

theorem decode_nat_int {mode : DecodeMode} {least n : Nat} (h : least ≤ n) :
    decode_nat mode least (.int n) = .ok n := by
  have hle : (least : Int) ≤ n := by omega
  simp [decode_nat, decode_int, hle, bind, Except.bind]

theorem decode_text_str {least : Nat} {s : String} (h : least ≤ s.length) :
    decode_text least (.str s) = .ok s := by
  simp [decode_text, decode_str, h, bind, Except.bind]

theorem SourceRef.decode_json {r : SourceRef} (h : r.Typed) (mode : DecodeMode) :
    SourceRef.decode mode r.to_json = .ok r := by
  refine decode_ok.mpr ⟨rfl, h.excerpt, rfl, rfl, ?_, rfl, rfl, ?_⟩
  · show decode_literal SourceKind.names (.str (literal_name SourceKind.names r.source)) = _
    cases r.source <;> rfl
  · exact decode_datetime_text h.timestamp mode

theorem ExperimentDecisionPin.decode_json {pin : ExperimentDecisionPin}
    (h : 1 ≤ pin.selected_option.length) (mode : DecodeMode) :
    ExperimentDecisionPin.decode mode pin.to_json = .ok pin :=
  decode_ok.mpr ⟨rfl, rfl, decode_nat_int (Nat.zero_le _), decode_text_str h⟩

theorem ExperimentAttemptDebug.decode_json {d : ExperimentAttemptDebug} (h : d.Typed) :
    ExperimentAttemptDebug.decode d.to_json = .ok d :=
  decode_ok.mpr ⟨rfl, decode_text_str h.mechanical_fault, decode_text_str h.change,
    decode_text_str h.predicted_effect⟩

theorem decode_status_json (status : AttemptStatus) :
    decode_literal AttemptStatus.names (.str (literal_name AttemptStatus.names status))
      = .ok status := by
  cases status <;> rfl

/-- A typed attempt is read back from its JSON form. -/
theorem ExperimentAttempt.decode_json {a : ExperimentAttempt} (h : a.Typed) (mode : DecodeMode) :
    ExperimentAttempt.decode mode a.to_json = .ok a := by
  have hkind : decode_literal AttemptKind.names
      (.str (literal_name AttemptKind.names a.attempt_kind)) = .ok a.attempt_kind := by
    cases a.attempt_kind <;> rfl
  have hjobs : decode_list decode_str (str_list a.job_refs) = .ok a.job_refs :=
    decode_list_map (fun _ _ => rfl)
  exact decode_ok.mpr ⟨rfl, decode_nat_int h.sequence, rfl, hkind,
    decode_list_map (fun pin hpin =>
      ExperimentDecisionPin.decode_json (h.decision_bundle pin hpin) mode),
    decode_optional_json (fun _ => nofun)
      (fun d hd => ExperimentAttemptDebug.decode_json (h.debug d hd)),
    rfl, decode_status_json a.status, hjobs,
    decode_list_map (fun r hr => SourceRef.decode_json (h.source_refs r hr) mode),
    decode_opt_str a.outcome, decode_opt_str a.failure_reason,
    decode_optional_json (fun _ => nofun)
      (fun t ht => decode_datetime_text (h.started_at t ht) mode),
    decode_optional_json (fun _ => nofun)
      (fun t ht => decode_datetime_text (h.finished_at t ht) mode)⟩

/-! ### Equality of attempts -/

theorem same_lists_trans {α : Type} (same : α → α → Bool)
    (h : ∀ a b c, same a b = true → same b c = true → same a c = true) {xs ys zs : List α}
    (hxy : same_lists same xs ys = true) (hyz : same_lists same ys zs = true) :
    same_lists same xs zs = true := by
  induction xs generalizing ys zs with
  | nil => cases ys <;> cases zs <;> simp_all [same_lists]
  | cons x xs ih =>
    cases ys <;> cases zs <;> simp only [same_lists, Bool.and_eq_true, Bool.false_eq_true] at *
    exact ⟨h _ _ _ hxy.1 hyz.1, ih hxy.2 hyz.2⟩

theorem Datetime.same_trans {a b c : Datetime} (hab : a.same b = true) (hbc : b.same c = true) :
    a.same c = true := by
  simp only [Datetime.same, Datetime.comparable, Bool.and_eq_true, beq_iff_eq] at *
  exact ⟨hab.1.trans hbc.1, hab.2.trans hbc.2⟩

theorem same_time_trans {a b c : Option Datetime} (hab : same_time a b = true)
    (hbc : same_time b c = true) : same_time a c = true := by
  cases a <;> cases b <;> cases c <;> simp only [same_time, Bool.false_eq_true] at *
  exact Datetime.same_trans hab hbc

theorem SourceRef.same_trans {a b c : SourceRef} (hab : a.same b = true) (hbc : b.same c = true) :
    a.same c = true := by
  simp only [SourceRef.same, Bool.and_eq_true, beq_iff_eq] at *
  refine ⟨Datetime.same_trans hab.1 hbc.1, ?_⟩
  rw [← hbc.2, ← hab.2]

theorem ExperimentAttempt.same_fixed_trans {a b c : ExperimentAttempt}
    (hab : a.same_fixed b = true) (hbc : b.same_fixed c = true) : a.same_fixed c = true := by
  simp only [ExperimentAttempt.same_fixed, Bool.and_eq_true, beq_iff_eq] at *
  obtain ⟨⟨⟨⟨⟨⟨⟨⟨hid, hsequence⟩, hpurpose⟩, hkind⟩, hbundle⟩, hdebug⟩, hconfiguration⟩, hjobs⟩,
    hstarted⟩ := hab
  obtain ⟨⟨⟨⟨⟨⟨⟨⟨hid', hsequence'⟩, hpurpose'⟩, hkind'⟩, hbundle'⟩, hdebug'⟩,
    hconfiguration'⟩, hjobs'⟩,
    hstarted'⟩ := hbc
  exact ⟨⟨⟨⟨⟨⟨⟨⟨hid.trans hid', hsequence.trans hsequence'⟩, hpurpose.trans hpurpose'⟩,
    hkind.trans hkind'⟩, hbundle.trans hbundle'⟩, hdebug.trans hdebug'⟩,
    hconfiguration.trans hconfiguration'⟩, hjobs.trans hjobs'⟩, same_time_trans hstarted hstarted'⟩

theorem ExperimentAttempt.same_trans {a b c : ExperimentAttempt} (hab : a.same b = true)
    (hbc : b.same c = true) : a.same c = true := by
  simp only [ExperimentAttempt.same, Bool.and_eq_true, beq_iff_eq] at *
  obtain ⟨⟨⟨⟨⟨hfixed, hstatus⟩, hrefs⟩, houtcome⟩, hreason⟩, hfinished⟩ := hab
  obtain ⟨⟨⟨⟨⟨hfixed', hstatus'⟩, hrefs'⟩, houtcome'⟩, hreason'⟩, hfinished'⟩ := hbc
  have hsources := same_lists_trans SourceRef.same
    (fun _ _ _ hxy hyz => SourceRef.same_trans hxy hyz) hrefs hrefs'
  exact ⟨⟨⟨⟨⟨same_fixed_trans hfixed hfixed', hstatus.trans hstatus'⟩, hsources⟩,
    houtcome.trans houtcome'⟩, hreason.trans hreason'⟩, same_time_trans hfinished hfinished'⟩

/-! ### The ledger law -/

/-- A later record of an attempt: what it was started with is the same, and a
    closed attempt is the same altogether.  Times are compared as instants. -/
structure ExperimentAttempt.Continues (a b : ExperimentAttempt) : Prop where
  fixed : a.same_fixed b = true
  closed : a.status.terminal = true → a.same b = true

theorem ExperimentAttempt.Continues.refl (a : ExperimentAttempt) : a.Continues a :=
  ⟨by simp [ExperimentAttempt.same_fixed], fun _ => a.same_refl⟩

theorem ExperimentAttempt.Continues.trans {a b c : ExperimentAttempt} (hab : a.Continues b)
    (hbc : b.Continues c) : a.Continues c := by
  refine ⟨same_fixed_trans hab.fixed hbc.fixed, ?_⟩
  intro hclosed
  have hsame := hab.closed hclosed
  have hstatus : a.status = b.status := by
    simp only [ExperimentAttempt.same, Bool.and_eq_true, beq_iff_eq] at hsame
    exact hsame.1.1.1.1.2
  exact same_trans hsame (hbc.closed (hstatus ▸ hclosed))

theorem ExperimentAttempt.Continues.id_eq {a b : ExperimentAttempt} (h : a.Continues b) :
    a.id = b.id := by
  have hfixed := h.fixed
  simp only [ExperimentAttempt.same_fixed, Bool.and_eq_true, beq_iff_eq] at hfixed
  exact hfixed.1.1.1.1.1.1.1.1

/-- The ledger `after` extends `before` at its end. -/
structure Extended (before after : List ExperimentAttempt) : Prop where
  length : before.length ≤ after.length
  kept : ∀ (i : Nat) (a b : ExperimentAttempt), before[i]? = some a → after[i]? = some b →
    a.Continues b

theorem Extended.refl (attempts : List ExperimentAttempt) : Extended attempts attempts := by
  refine ⟨Nat.le_refl _, ?_⟩
  intro i a b ha hb
  obtain rfl := Option.some.inj (ha.symm.trans hb)
  exact .refl a

theorem Extended.trans {xs ys zs : List ExperimentAttempt} (hxy : Extended xs ys)
    (hyz : Extended ys zs) : Extended xs zs := by
  refine ⟨Nat.le_trans hxy.length hyz.length, ?_⟩
  intro i a c ha hc
  obtain ⟨hi, -⟩ := List.getElem?_eq_some_iff.mp ha
  have hlt : i < ys.length := Nat.lt_of_lt_of_le hi hxy.length
  have hb : ys[i]? = some ys[i] := List.getElem?_eq_getElem hlt
  exact (hxy.kept i a _ ha hb).trans (hyz.kept i _ c hb hc)

end ResearchGraph
