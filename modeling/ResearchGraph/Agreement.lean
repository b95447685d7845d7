import ResearchGraph.Lib.Loose
import ResearchGraph.Times

/-! # Decoders and the comparison of raw values

    The decoders of node fields cannot tell apart raw values that compare
    equal: where both decode, both decode to the same record.  What the strict
    decoder accepts the lax one reads alike, and the JSON form of a record
    whose times are calendar times is read back as that record.
-/

namespace ResearchGraph

open Lib

/-! ### Scalars -/

theorem decode_str_agrees : Agrees decode_str Eq := by
  intro v w a b hvw ha hb
  unfold decode_str at hb
  split at hb
  · cases hb
    rw [Value.eq_str_of_loosely hvw] at ha
    cases ha
    rfl
  · cases hb

theorem decode_literal_agrees {α : Type} (names : List (String × α)) :
    Agrees (decode_literal names) Eq := by
  intro v w a b hvw ha hb
  cases w <;> simp only [decode_literal, reduceCtorEq] at hb
  rw [Value.eq_str_of_loosely hvw] at ha
  simp only [decode_literal] at ha
  exact Except.ok.inj (ha.symm.trans hb)

theorem decode_int_number {mode : DecodeMode} {v : Value} {i : Int}
    (h : decode_int mode v = .ok i) : (∃ s, v = .str s) ∨ v.number? = some (i : Rat) := by
  cases v
  case str s => exact Or.inl ⟨s, rfl⟩
  case int j =>
    cases h
    exact Or.inr rfl
  all_goals cases mode <;> simp only [decode_int, reduceCtorEq, Except.ok.injEq] at h
  case bool.lax b =>
    subst h
    cases b <;> simp [Value.number?]
  case float.lax q =>
    right
    split_ifs at h with hden
    cases h
    exact congrArg some (Rat.den_eq_one_iff q |>.mp hden).symm

theorem decode_int_agrees (mode : DecodeMode) : Agrees (decode_int mode) Eq := by
  intro v w a b hvw ha hb
  rcases decode_int_number hb with ⟨s, rfl⟩ | hw
  · rw [Value.eq_str_of_loosely hvw] at ha
    exact Except.ok.inj (ha.symm.trans hb)
  · rcases decode_int_number ha with ⟨s, rfl⟩ | hv
    · rw [← Value.eq_str_of_loosely (Value.loosely_equal_comm hvw)] at ha
      exact Except.ok.inj (ha.symm.trans hb)
    · rw [Value.number_of_loosely hvw, hw] at hv
      exact (Rat.intCast_inj.mp (Option.some.inj hv)).symm

theorem decode_nat_agrees (mode : DecodeMode) (least : Nat) :
    Agrees (decode_nat mode least) Eq := by
  intro v w a b hvw ha hb
  obtain ⟨i, hi, ha⟩ := except_bind_ok.mp ha
  obtain ⟨j, hj, hb⟩ := except_bind_ok.mp hb
  obtain rfl := decode_int_agrees mode v w i j hvw hi hj
  exact Except.ok.inj (ha.symm.trans hb)

theorem decode_text_agrees (least : Nat) : Agrees (decode_text least) Eq := by
  intro v w a b hvw ha hb
  obtain ⟨x, hx, ha⟩ := except_bind_ok.mp ha
  obtain ⟨y, hy, hb⟩ := except_bind_ok.mp hb
  obtain rfl := decode_str_agrees v w x y hvw hx hy
  exact Except.ok.inj (ha.symm.trans hb)

theorem decode_datetime_agrees (mode : DecodeMode) : Agrees (decode_datetime mode) Eq := by
  intro v w a b hvw ha hb
  cases w <;> simp only [decode_datetime, reduceCtorEq] at hb
  rw [Value.eq_str_of_loosely hvw] at ha
  simp only [decode_datetime] at ha
  exact Except.ok.inj (ha.symm.trans hb)

theorem decode_optional_agrees {α : Type} {decode : Value → Decoded α} (h : Agrees decode Eq) :
    Agrees (decode_optional decode) Eq := by
  intro v w a b hvw ha hb
  by_cases hw : w = .null
  · subst hw
    rw [Value.eq_null_of_loosely hvw] at ha
    exact Except.ok.inj (ha.symm.trans hb)
  · have hv : v ≠ .null := by
      rintro rfl
      exact hw (Value.eq_null_of_loosely (Value.loosely_equal_comm hvw))
    have hmap {x : Value} (hx : x ≠ .null) : decode_optional decode x = (decode x).map some := by
      cases x <;> simp_all [decode_optional]
    rw [hmap hv] at ha
    rw [hmap hw] at hb
    exact h.map (fun _ _ hab => congrArg some hab) v w a b hvw ha hb

theorem decode_list_agrees {α : Type} {decode : Value → Decoded α} (h : Agrees decode Eq) :
    Agrees (decode_list decode) Eq := by
  intro v w a b hvw ha hb
  cases w <;> simp only [decode_list, reduceCtorEq] at hb
  obtain ⟨xs, rfl, hxy⟩ := Value.eq_list_of_loosely hvw
  exact List.forall₂_eq_eq_eq ▸ h.mapM hxy ha hb

/-! ### Fields of objects -/

section

variable {α : Type} {decode : Value → Decoded α} {d e : List (String × Value)} {k : String}
  {a b default : α}

theorem required_agrees (h : Agrees decode Eq) (hde : (Value.dict d).loosely_equal (.dict e) = true)
    (ha : required d k decode = .ok a) (hb : required e k decode = .ok b) : a = b := by
  have hlookup := Value.lookup_of_loosely hde k
  unfold required at ha hb
  cases hd : d.lookup k <;> cases he : e.lookup k <;>
    simp only [hd, he, reduceCtorEq] at ha hb hlookup
  exact h _ _ a b hlookup ha hb

theorem optional_agrees (h : Agrees decode Eq) (hde : (Value.dict d).loosely_equal (.dict e) = true)
    (ha : optional d k default decode = .ok a) (hb : optional e k default decode = .ok b) :
    a = b := by
  have hlookup := Value.lookup_of_loosely hde k
  unfold optional at ha hb
  cases hd : d.lookup k <;> cases he : e.lookup k <;> simp only [hd, he] at ha hb hlookup
  · exact Except.ok.inj (ha.symm.trans hb)
  · exact absurd hlookup id
  · exact absurd hlookup id
  · exact h _ _ a b hlookup ha hb

end

/-! ### Records -/

theorem SourceRef.decode_ok {mode : DecodeMode} {d : List (String × Value)} {r : SourceRef} :
    SourceRef.decode mode (.dict d) = .ok r ↔
      required d "excerpt" decode_str = .ok r.excerpt ∧ r.excerpt.length ≤ 800 ∧
      required d "machine" decode_str = .ok r.machine ∧
      required d "truth_repository" decode_str = .ok r.truth_repository ∧
      required d "source" (decode_literal SourceKind.names) = .ok r.source ∧
      required d "session_id" decode_str = .ok r.session_id ∧
      required d "record_uuid" decode_str = .ok r.record_uuid ∧
      required d "timestamp" (decode_datetime mode) = .ok r.timestamp := by
  simp only [SourceRef.decode, except_bind_ok]
  constructor
  · rintro ⟨excerpt, hexcerpt, h⟩
    split_ifs at h with hlong
    simp only [except_bind_ok, except_pure_ok] at h
    obtain ⟨_, hmachine, _, hrepository, _, hsource, _, hsession, _, huuid, _, htime, rfl⟩ := h
    exact ⟨hexcerpt, by simpa using hlong, hmachine, hrepository, hsource, hsession, huuid, htime⟩
  · rintro ⟨hexcerpt, hshort, hmachine, hrepository, hsource, hsession, huuid, htime⟩
    refine ⟨_, hexcerpt, ?_⟩
    rw [if_neg (Nat.not_lt.mpr hshort)]
    simp only [except_bind_ok, except_pure_ok]
    exact ⟨_, hmachine, _, hrepository, _, hsource, _, hsession, _, huuid, _, htime, rfl⟩

theorem ExperimentDecisionPin.decode_ok {mode : DecodeMode} {d : List (String × Value)}
    {pin : ExperimentDecisionPin} : ExperimentDecisionPin.decode mode (.dict d) = .ok pin ↔
      forbid_extra d ["decision_id", "decision_revision", "selected_option"] = .ok () ∧
      required d "decision_id" decode_str = .ok pin.decision_id ∧
      required d "decision_revision" (decode_nat mode 0) = .ok pin.decision_revision ∧
      required d "selected_option" (decode_text 1) = .ok pin.selected_option := by
  simp only [ExperimentDecisionPin.decode, except_bind_ok, except_pure_ok]
  constructor
  · rintro ⟨_, hextra, id, hid, revision, hrevision, option, hoption, rfl⟩
    exact ⟨hextra, hid, hrevision, hoption⟩
  · rintro ⟨hextra, hid, hrevision, hoption⟩
    exact ⟨(), hextra, _, hid, _, hrevision, _, hoption, rfl⟩

theorem ExperimentAttemptDebug.decode_ok {d : List (String × Value)}
    {debug : ExperimentAttemptDebug} : ExperimentAttemptDebug.decode (.dict d) = .ok debug ↔
      forbid_extra d ["mechanical_fault", "change", "predicted_effect"] = .ok () ∧
      required d "mechanical_fault" (decode_text 1) = .ok debug.mechanical_fault ∧
      required d "change" (decode_text 1) = .ok debug.change ∧
      required d "predicted_effect" (decode_text 1) = .ok debug.predicted_effect := by
  simp only [ExperimentAttemptDebug.decode, except_bind_ok, except_pure_ok]
  constructor
  · rintro ⟨_, hextra, _, hfault, _, hchange, _, heffect, rfl⟩
    exact ⟨hextra, hfault, hchange, heffect⟩
  · rintro ⟨hextra, hfault, hchange, heffect⟩
    exact ⟨(), hextra, _, hfault, _, hchange, _, heffect, rfl⟩

theorem ExperimentAttempt.decode_ok {mode : DecodeMode} {d : List (String × Value)}
    {a : ExperimentAttempt} : ExperimentAttempt.decode mode (.dict d) = .ok a ↔
      required d "id" decode_str = .ok a.id ∧
      required d "sequence" (decode_nat mode 1) = .ok a.sequence ∧
      required d "purpose" decode_str = .ok a.purpose ∧
      optional d "attempt_kind" .external_run (decode_literal AttemptKind.names)
        = .ok a.attempt_kind ∧
      optional d "decision_bundle" [] (decode_list (ExperimentDecisionPin.decode mode))
        = .ok a.decision_bundle ∧
      optional d "debug" none (decode_optional ExperimentAttemptDebug.decode) = .ok a.debug ∧
      optional d "configuration" "" decode_str = .ok a.configuration ∧
      optional d "status" .planned (decode_literal AttemptStatus.names) = .ok a.status ∧
      optional d "job_refs" [] (decode_list decode_str) = .ok a.job_refs ∧
      optional d "source_refs" [] (decode_list (SourceRef.decode mode)) = .ok a.source_refs ∧
      optional d "outcome" none (decode_optional decode_str) = .ok a.outcome ∧
      optional d "failure_reason" none (decode_optional decode_str) = .ok a.failure_reason ∧
      optional d "started_at" none (decode_optional (decode_datetime mode)) = .ok a.started_at ∧
      optional d "finished_at" none (decode_optional (decode_datetime mode))
        = .ok a.finished_at := by
  simp only [ExperimentAttempt.decode, except_bind_ok, except_pure_ok]
  constructor
  · rintro ⟨_, hid, _, hsequence, _, hpurpose, _, hkind, _, hbundle, _, hdebug, _, hconfiguration,
      _, hstatus, _, hjobs, _, hrefs, _, houtcome, _, hreason, _, hstarted, _, hfinished, rfl⟩
    exact ⟨hid, hsequence, hpurpose, hkind, hbundle, hdebug, hconfiguration, hstatus, hjobs, hrefs,
      houtcome, hreason, hstarted, hfinished⟩
  · rintro ⟨hid, hsequence, hpurpose, hkind, hbundle, hdebug, hconfiguration, hstatus, hjobs, hrefs,
      houtcome, hreason, hstarted, hfinished⟩
    exact ⟨_, hid, _, hsequence, _, hpurpose, _, hkind, _, hbundle, _, hdebug, _, hconfiguration,
      _, hstatus, _, hjobs, _, hrefs, _, houtcome, _, hreason, _, hstarted, _, hfinished, rfl⟩

/-! ### Records agree -/

/-- A decoder that accepts only objects. -/
theorem agrees_of_dict {α : Type} {decode : Value → Decoded α}
    (hdict : ∀ v a, decode v = .ok a → v.is_dict = true)
    (h : ∀ d e a b, (Value.dict d).loosely_equal (.dict e) = true → decode (.dict d) = .ok a →
      decode (.dict e) = .ok b → a = b) : Agrees decode Eq := by
  intro v w a b hvw ha hb
  obtain ⟨e, rfl⟩ := Value.is_dict_iff.mp (hdict w b hb)
  obtain ⟨d, rfl⟩ := Value.eq_dict_of_loosely hvw
  exact h d e a b hvw ha hb

theorem SourceRef.decode_agrees (mode : DecodeMode) : Agrees (SourceRef.decode mode) Eq := by
  refine agrees_of_dict ?_ ?_
  · intro v a h
    cases v <;> simp [SourceRef.decode] at h
    rfl
  · intro d e a b hde ha hb
    obtain ⟨hexcerpt, -, hmachine, hrepository, hsource, hsession, huuid, htime⟩ := decode_ok.mp ha
    obtain ⟨hexcerpt', -, hmachine', hrepository', hsource', hsession', huuid', htime'⟩ :=
      decode_ok.mp hb
    cases a
    cases b
    rw [mk.injEq]
    exact ⟨required_agrees decode_str_agrees hde hmachine hmachine',
      required_agrees decode_str_agrees hde hrepository hrepository',
      required_agrees (decode_literal_agrees _) hde hsource hsource',
      required_agrees decode_str_agrees hde hsession hsession',
      required_agrees decode_str_agrees hde huuid huuid',
      required_agrees (decode_datetime_agrees mode) hde htime htime',
      required_agrees decode_str_agrees hde hexcerpt hexcerpt'⟩

theorem ExperimentDecisionPin.decode_agrees (mode : DecodeMode) :
    Agrees (ExperimentDecisionPin.decode mode) Eq := by
  refine agrees_of_dict ?_ ?_
  · intro v a h
    cases v <;> simp [ExperimentDecisionPin.decode] at h
    rfl
  · intro d e a b hde ha hb
    obtain ⟨-, hid, hrevision, hoption⟩ := decode_ok.mp ha
    obtain ⟨-, hid', hrevision', hoption'⟩ := decode_ok.mp hb
    cases a
    cases b
    rw [mk.injEq]
    exact ⟨required_agrees decode_str_agrees hde hid hid',
      required_agrees (decode_nat_agrees mode 0) hde hrevision hrevision',
      required_agrees (decode_text_agrees 1) hde hoption hoption'⟩

theorem ExperimentAttemptDebug.decode_agrees : Agrees ExperimentAttemptDebug.decode Eq := by
  refine agrees_of_dict ?_ ?_
  · intro v a h
    cases v <;> simp [ExperimentAttemptDebug.decode] at h
    rfl
  · intro d e a b hde ha hb
    obtain ⟨-, hfault, hchange, heffect⟩ := decode_ok.mp ha
    obtain ⟨-, hfault', hchange', heffect'⟩ := decode_ok.mp hb
    cases a
    cases b
    rw [mk.injEq]
    exact ⟨required_agrees (decode_text_agrees 1) hde hfault hfault',
      required_agrees (decode_text_agrees 1) hde hchange hchange',
      required_agrees (decode_text_agrees 1) hde heffect heffect'⟩

theorem ExperimentAttempt.decode_agrees (mode : DecodeMode) :
    Agrees (ExperimentAttempt.decode mode) Eq := by
  refine agrees_of_dict ?_ ?_
  · intro v a h
    cases v <;> simp [ExperimentAttempt.decode] at h
    rfl
  · intro d e a b hde ha hb
    obtain ⟨hid, hsequence, hpurpose, hkind, hbundle, hdebug, hconfiguration, hstatus, hjobs, hrefs,
      houtcome, hreason, hstarted, hfinished⟩ := decode_ok.mp ha
    obtain ⟨hid', hsequence', hpurpose', hkind', hbundle', hdebug', hconfiguration', hstatus',
      hjobs', hrefs', houtcome', hreason', hstarted', hfinished'⟩ := decode_ok.mp hb
    have htime := decode_optional_agrees (decode_datetime_agrees mode)
    have htext := decode_optional_agrees decode_str_agrees
    cases a
    cases b
    rw [mk.injEq]
    exact ⟨required_agrees decode_str_agrees hde hid hid',
      required_agrees (decode_nat_agrees mode 1) hde hsequence hsequence',
      required_agrees decode_str_agrees hde hpurpose hpurpose',
      optional_agrees (decode_literal_agrees _) hde hkind hkind',
      optional_agrees (decode_list_agrees (ExperimentDecisionPin.decode_agrees mode)) hde hbundle
        hbundle',
      optional_agrees (decode_optional_agrees ExperimentAttemptDebug.decode_agrees) hde hdebug
        hdebug',
      optional_agrees decode_str_agrees hde hconfiguration hconfiguration',
      optional_agrees (decode_literal_agrees _) hde hstatus hstatus',
      optional_agrees (decode_list_agrees decode_str_agrees) hde hjobs hjobs',
      optional_agrees (decode_list_agrees (SourceRef.decode_agrees mode)) hde hrefs hrefs',
      optional_agrees htext hde houtcome houtcome', optional_agrees htext hde hreason hreason',
      optional_agrees htime hde hstarted hstarted', optional_agrees htime hde hfinished hfinished'⟩

/-! ### Strict and lax decoding -/

/-- What the first decoder accepts, the second reads alike. -/
def Widens {α : Type} (decode decode' : Value → Decoded α) : Prop :=
  ∀ v a, decode v = .ok a → decode' v = .ok a

theorem decode_nat_lax (mode : DecodeMode) (least : Nat) :
    Widens (decode_nat mode least) (decode_nat .lax least) := by
  intro v a h
  cases mode with
  | lax => exact h
  | strict =>
    obtain ⟨i, hi, h⟩ := except_bind_ok.mp h
    refine except_bind_ok.mpr ⟨i, ?_, h⟩
    cases v <;> simp only [decode_int, reduceCtorEq] at hi ⊢
    exact hi

theorem decode_datetime_lax (mode : DecodeMode) :
    Widens (decode_datetime mode) (decode_datetime .lax) := by
  intro v a h
  cases v <;> simp only [decode_datetime, reduceCtorEq, false_and, if_false] at h ⊢
  split_ifs at h with hmode
  exact h

section

variable {α : Type} {decode decode' : Value → Decoded α} {d : List (String × Value)} {k : String}
  {a default : α}

theorem Widens.required (h : Widens decode decode') (ha : required d k decode = .ok a) :
    ResearchGraph.required d k decode' = .ok a := by
  unfold ResearchGraph.required at ha ⊢
  cases hd : d.lookup k <;> simp only [hd, reduceCtorEq] at ha ⊢
  exact h _ _ ha

theorem Widens.optional (h : Widens decode decode') (ha : optional d k default decode = .ok a) :
    ResearchGraph.optional d k default decode' = .ok a := by
  unfold ResearchGraph.optional at ha ⊢
  cases hd : d.lookup k <;> simp only [hd] at ha ⊢
  · exact ha
  · exact h _ _ ha

theorem Widens.decode_optional (h : Widens decode decode') :
    Widens (decode_optional decode) (decode_optional decode') := by
  intro v a ha
  cases v <;> simp only [ResearchGraph.decode_optional, except_map_ok] at ha ⊢
  case null => exact ha
  all_goals
    obtain ⟨x, hx, rfl⟩ := ha
    exact ⟨x, h _ _ hx, Eq.refl _⟩

theorem Widens.decode_list (h : Widens decode decode') :
    Widens (decode_list decode) (decode_list decode') := by
  intro v as has
  cases v <;> simp only [ResearchGraph.decode_list, reduceCtorEq] at has ⊢
  next xs =>
  induction xs generalizing as with
  | nil => exact has
  | cons x xs ih =>
    simp only [List.mapM_cons, except_bind_ok, except_pure_ok] at has ⊢
    obtain ⟨a, ha, rest, hrest, rfl⟩ := has
    exact ⟨a, h _ _ ha, rest, ih rest hrest, Eq.refl _⟩

end

theorem SourceRef.decode_lax (mode : DecodeMode) :
    Widens (SourceRef.decode mode) (SourceRef.decode .lax) := by
  intro v r h
  cases v <;> simp only [reduceCtorEq, SourceRef.decode] at h
  obtain ⟨hexcerpt, hshort, hmachine, hrepository, hsource, hsession, huuid, htime⟩ :=
    decode_ok.mp h
  exact decode_ok.mpr ⟨hexcerpt, hshort, hmachine, hrepository, hsource, hsession, huuid,
    (decode_datetime_lax mode).required htime⟩

theorem ExperimentDecisionPin.decode_lax (mode : DecodeMode) :
    Widens (ExperimentDecisionPin.decode mode) (ExperimentDecisionPin.decode .lax) := by
  intro v pin h
  cases v <;> simp only [reduceCtorEq, ExperimentDecisionPin.decode] at h
  obtain ⟨hextra, hid, hrevision, hoption⟩ := decode_ok.mp h
  exact decode_ok.mpr ⟨hextra, hid, (decode_nat_lax mode 0).required hrevision, hoption⟩

theorem ExperimentAttempt.decode_lax (mode : DecodeMode) :
    Widens (ExperimentAttempt.decode mode) (ExperimentAttempt.decode .lax) := by
  intro v a h
  cases v <;> simp only [reduceCtorEq, ExperimentAttempt.decode] at h
  obtain ⟨hid, hsequence, hpurpose, hkind, hbundle, hdebug, hconfiguration, hstatus, hjobs, hrefs,
    houtcome, hreason, hstarted, hfinished⟩ := decode_ok.mp h
  exact decode_ok.mpr ⟨hid, (decode_nat_lax mode 1).required hsequence, hpurpose, hkind,
    (ExperimentDecisionPin.decode_lax mode).decode_list.optional hbundle, hdebug, hconfiguration,
    hstatus, hjobs, (SourceRef.decode_lax mode).decode_list.optional hrefs, houtcome, hreason,
    (decode_datetime_lax mode).decode_optional.optional hstarted,
    (decode_datetime_lax mode).decode_optional.optional hfinished⟩

end ResearchGraph
