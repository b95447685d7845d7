import ResearchGraph.Store.EpisodeLedger

/-! # What an operation does to the tasks

    An operation inserts one new task, moves the status of one task, or leaves
    the tasks alone. Outside the hidden report allocations, which may be
    restarted, a status is only moved while the task is active.
-/

namespace ResearchGraph

open Lib

namespace EpisodeStore

variable {s s' : EpisodeStore}

/-! ### Report allocations -/

/-- A hidden report allocation. -/
def is_report (s : EpisodeStore) (operation_id : String) : Prop :=
  ∃ t, s.tasks.get? operation_id = some t ∧ t.kind = .episode_report

/-- The wrap-ups and the report attempts name report allocations. -/
structure ReportsBound (s : EpisodeStore) : Prop where
  wrapups : ∀ w ∈ s.wrapups.items, ∀ id, w.allocation_operation_id = some id → s.is_report id
  attempts : ∀ a ∈ s.report_attempts.items, s.is_report a.allocation_operation_id

/-- Where the allocations that a later store names come from. -/
structure ReportStep (s s' : EpisodeStore) : Prop where
  wrapups : ∀ w' ∈ s'.wrapups.items, ∀ id, w'.allocation_operation_id = some id →
    (∃ w ∈ s.wrapups.items, w.allocation_operation_id = some id) ∨ s'.is_report id
  attempts : ∀ a' ∈ s'.report_attempts.items,
    (∃ a ∈ s.report_attempts.items, a.allocation_operation_id = a'.allocation_operation_id)
      ∨ ∃ w ∈ s.wrapups.items, w.allocation_operation_id = some a'.allocation_operation_id

theorem ReportStep.same (hw : s'.wrapups = s.wrapups)
    (ha : s'.report_attempts = s.report_attempts) : ReportStep s s' := by
  constructor
  · intro w hmem id hid
    rw [hw] at hmem
    exact .inl ⟨w, hmem, hid⟩
  · intro a hmem
    rw [ha] at hmem
    exact .inl ⟨a, hmem, rfl⟩

/-! ### Steps -/

/-- The effect of an operation on the tasks. -/
inductive TaskStep (task : Option AgentTaskRecord) (s s' : EpisodeStore) : Prop
  | same (ht : s'.tasks = s.tasks)
  | moved (operation_id : String) (status : AgentTaskStatus)
      (hmoves : s.ReportsBound → ∀ t, s.tasks.get? operation_id = some t →
        t.kind = .episode_report ∨ status.transitions.contains t.status = true)
      (ht : s'.tasks = (s.set_task_status operation_id status).tasks)
  | inserted (t : AgentTaskRecord) (v : EpisodeStore) (repair : Bool) (htask : task = some t)
      (hnew : s.tasks.get? t.operation_id = none) (hv : v.tasks = s.tasks)
      (hexp : v.validate_experiment_task_insert t repair = true)
      (htarget : v.validate_graph_target_insert t = true) (hmerge : v.merge_indexed t = false)
      (hepisode : ∀ id e, v.episodes.get? id = some e →
        ∃ e', s'.episodes.get? id = some e' ∧ e.SameBudget e')
      (ht : s'.tasks = s.tasks.put t)

theorem TaskStep.refl {task : Option AgentTaskRecord} : TaskStep task s s := .same rfl

end EpisodeStore

/-- Writing a row under its own id keeps what names every row. -/
theorem Episode.SameBudget.of_put {eps : Table Episode} {e e' : Episode}
    (hget : eps.get? e.episode_id = some e) (hsame : e.SameBudget e') (id : String) (f : Episode)
    (hf : eps.get? id = some f) : ∃ f', (eps.put e').get? id = some f' ∧ f.SameBudget f' := by
  rw [Table.get?_put]
  split
  · rename_i hid
    have hkey : e.episode_id = id := by
      rw [hid]
      exact hsame.episode_id.symm
    rw [hkey, hf] at hget
    cases hget
    exact ⟨e', rfl, hsame⟩
  · exact ⟨f, hf, ⟨rfl, rfl, rfl, rfl, rfl, rfl⟩⟩

namespace EpisodeStore

variable {s s' : EpisodeStore} {task : Option AgentTaskRecord}

/-- A task inserted outside the ledger. -/
theorem insert_agent_task_tasks {s₀ : EpisodeStore} {t : AgentTaskRecord} {bound repair : Bool}
    (h : s.insert_agent_task t bound repair = some s') (htasks : s.tasks = s₀.tasks) :
    TaskStep (some t) s₀ s' := by
  obtain ⟨hnew, hexp, htarget, hmerge, rfl⟩ := insert_agent_task_eq h
  refine .inserted t s repair rfl (htasks ▸ hnew) htasks hexp htarget hmerge ?_ ?_
  · exact fun id e he => ⟨e, he, ⟨rfl, rfl, rfl, rfl, rfl, rfl⟩⟩
  · show s.tasks.put t = _
    rw [htasks]

/-- A paid task. -/
theorem spend_tasks {s₀ : EpisodeStore} {e₀ e : Episode} {t : AgentTaskRecord} {bound : Bool}
    (h : s.spend e t bound = some s') (htasks : s.tasks = s₀.tasks)
    (hget : s.episodes.get? e₀.episode_id = some e₀) (hsame : e₀.SameBudget e) :
    TaskStep (some t) s₀ s' := by
  obtain ⟨hnew, hexp, htarget, hmerge, -, rfl⟩ := spend_eq h
  refine .inserted t s false rfl (htasks ▸ hnew) htasks hexp htarget hmerge ?_ ?_
  · exact Episode.SameBudget.of_put hget
      ⟨hsame.1, hsame.2, hsame.3, hsame.4, hsame.5, hsame.6⟩
  · show s.tasks.put t = _
    rw [htasks]

theorem open_episode_tasks {s₀ : EpisodeStore} {e : Episode} {t : AgentTaskRecord} {bound : Bool}
    (h : s.open_episode e t bound = some s') (htasks : s.tasks = s₀.tasks) :
    TaskStep (some t) s₀ s' := by
  obtain ⟨-, -, hnew, hexp, htarget, hmerge, -, rfl⟩ := open_episode_eq h
  refine .inserted t { s with episodes := s.episodes.put e } false rfl (htasks ▸ hnew) htasks hexp
    htarget hmerge ?_ ?_
  · exact fun id f hf => ⟨f, hf, ⟨rfl, rfl, rfl, rfl, rfl, rfl⟩⟩
  · show s.tasks.put t = _
    rw [htasks]

/-- The tasks after a step depend on the tasks only. -/
theorem TaskStep.congr {s₁ : EpisodeStore} (h : TaskStep task s s₁) (ht : s'.tasks = s₁.tasks)
    (he : ∀ id e, s₁.episodes.get? id = some e →
      ∃ e', s'.episodes.get? id = some e' ∧ e.SameBudget e') : TaskStep task s s' := by
  cases h with
  | same ht' => exact .same (ht.trans ht')
  | moved id status hmoves ht' => exact .moved id status hmoves (ht.trans ht')
  | inserted t v repair h₁ h₂ h₃ h₄ h₅ h₆ h₇ ht' =>
    refine .inserted t v repair h₁ h₂ h₃ h₄ h₅ h₆ ?_ (ht.trans ht')
    intro id e hget
    obtain ⟨e₁, hget₁, hsame₁⟩ := h₇ id e hget
    obtain ⟨e₂, hget₂, hsame₂⟩ := he id e₁ hget₁
    exact ⟨e₂, hget₂, ⟨hsame₂.1.trans hsame₁.1, hsame₂.2.trans hsame₁.2, hsame₂.3.trans hsame₁.3,
      hsame₂.4.trans hsame₁.4, hsame₂.5.trans hsame₁.5, hsame₂.6.trans hsame₁.6⟩⟩

/-! ### Reports -/

/-- A new or rewritten wrap-up row without an allocation. -/
theorem ReportStep.put_wrapup {w : EpisodeWrapup} (hnone : w.allocation_operation_id = none)
    (hw : s'.wrapups = s.wrapups.put w) (ha : s'.report_attempts = s.report_attempts) :
    ReportStep s s' := by
  constructor
  · intro w' hmem id hid
    rw [hw, Table.mem_put_iff] at hmem
    rcases hmem with rfl | ⟨hmem, -⟩
    · rw [hnone] at hid; cases hid
    · exact .inl ⟨w', hmem, hid⟩
  · intro a hmem
    rw [ha] at hmem
    exact .inl ⟨a, hmem, rfl⟩

/-- Rewriting the states of wrap-ups and attempts names no new allocation. -/
theorem ReportStep.rewritten {f : EpisodeWrapup → EpisodeWrapup} {g : ReportAttempt → ReportAttempt}
    (hf : ∀ w, (f w).allocation_operation_id = w.allocation_operation_id)
    (hg : ∀ a, (g a).allocation_operation_id = a.allocation_operation_id)
    (hw : s'.wrapups.items = s.wrapups.items.map f)
    (ha : s'.report_attempts.items = s.report_attempts.items.map g) : ReportStep s s' := by
  constructor
  · intro w' hmem id hid
    rw [hw, List.mem_map] at hmem
    obtain ⟨w, hmem, rfl⟩ := hmem
    exact .inl ⟨w, hmem, by rw [← hf w]; exact hid⟩
  · intro a' hmem
    rw [ha, List.mem_map] at hmem
    obtain ⟨a, hmem, rfl⟩ := hmem
    exact .inl ⟨a, hmem, (hg a).symm⟩

/-- The rewriting of one wrap-up row keeps its allocation. -/
theorem set_wrapup_allocation (id : String) (state : EpisodeWrapupState)
    (diagnostic : Option String) (w : EpisodeWrapup) :
    (if w.episode_id = id then { w with state := state, diagnostic := diagnostic }
      else w).allocation_operation_id = w.allocation_operation_id := by
  split <;> rfl

theorem set_wrapup_state_allocation (id : String) (state : EpisodeWrapupState)
    (w : EpisodeWrapup) :
    (if w.episode_id = id then { w with state := state } else w).allocation_operation_id
      = w.allocation_operation_id := by
  split <;> rfl

theorem set_attempts_allocation (p : ReportAttempt → Bool) (status : ReportAttemptStatus)
    (a : ReportAttempt) :
    (if p a then { a with status := status } else a).allocation_operation_id
      = a.allocation_operation_id := by
  split <;> rfl

/-- The rows that `set_attempts` and `set_wrapup` rewrite one after the other. -/
theorem report_rewritten {p : ReportAttempt → Bool} {status : ReportAttemptStatus} {id : String}
    {state : EpisodeWrapupState} {diagnostic : Option String}
    (hw : s'.wrapups = ((s.set_attempts p status).set_wrapup id state diagnostic).wrapups)
    (ha : s'.report_attempts = (s.set_attempts p status).report_attempts) : ReportStep s s' :=
  .rewritten (set_wrapup_allocation id state diagnostic) (set_attempts_allocation p status)
    (by rw [hw]; rfl) (by rw [ha]; rfl)

/-- What `close_report` does to tasks, wrap-ups and attempts. -/
theorem close_report_tasks {e : Episode} {operation_id error : String}
    (h : s.close_report e operation_id error = some s') :
    s'.tasks = (s.set_task_status operation_id .failed).tasks
      ∧ s'.wrapups = (s.set_wrapup e.episode_id .failed (some error)).wrapups
      ∧ s'.report_attempts = s.report_attempts := by
  unfold close_report at h
  obtain ⟨x, -, h⟩ := Option.bind_eq_some_iff.mp h
  obtain ⟨routes, rfl⟩ := settle_episode_eq h
  exact ⟨rfl, rfl, rfl⟩

theorem ReportsBound.attempt {attempt_id : String} {a : ReportAttempt} (h : s.ReportsBound)
    (ha : s.report_attempts.get? attempt_id = some a) {t : AgentTaskRecord}
    (ht : s.tasks.get? a.allocation_operation_id = some t) : t.kind = .episode_report := by
  obtain ⟨t', ht', hkind⟩ := h.attempts a (Table.get?_eq_some_iff.mp ha).1
  rw [ht] at ht'
  cases ht'
  exact hkind

theorem allocate_episode_report_attempt_tasks {id attempt_id : String}
    (h : s.allocate_episode_report_attempt id attempt_id = some s') :
    TaskStep task s s' ∧ ReportStep s s' := by
  unfold allocate_episode_report_attempt at h
  simp only [Option.bind_eq_some_iff, Option.ite_none_left_eq_some] at h
  obtain ⟨e, -, w, hw, operation_id, hop, -, h⟩ := h
  split at h
  · cases h; exact ⟨.refl, .same rfl rfl⟩
  simp only [Option.ite_none_left_eq_some] at h
  obtain ⟨-, -, h⟩ := h
  cases h
  have hmemw : w ∈ s.wrapups.items := (Table.get?_eq_some_iff.mp hw).1
  refine ⟨.same rfl, ?_, ?_⟩
  · intro w' hmem id' hid
    rcases Table.mem_put_iff.mp hmem with rfl | ⟨hmem, -⟩
    · exact .inl ⟨w, hmemw, hid⟩
    · exact .inl ⟨w', hmem, hid⟩
  · intro a' hmem
    rcases Table.mem_put_iff.mp hmem with rfl | ⟨hmem, -⟩
    · exact .inr ⟨w, hmemw, hop⟩
    · exact .inl ⟨a', hmem, rfl⟩

theorem mark_episode_report_attempt_running_tasks {attempt_id : String}
    (h : s.mark_episode_report_attempt_running attempt_id = some s') :
    TaskStep task s s' ∧ ReportStep s s' := by
  unfold mark_episode_report_attempt_running at h
  simp only [Option.bind_eq_some_iff, Option.ite_none_left_eq_some] at h
  obtain ⟨a, ha, -, h⟩ := h
  cases h
  refine ⟨.moved a.allocation_operation_id .running ?_ rfl, ?_⟩
  · exact fun hbound t ht => .inl (hbound.attempt ha ht)
  · exact .rewritten (fun _ => rfl) (set_attempts_allocation _ _) (List.map_id' _).symm rfl

theorem finish_episode_report_attempt_error_tasks {attempt_id error : String} {final : Bool}
    (h : s.finish_episode_report_attempt_error attempt_id error final = some s') :
    TaskStep task s s' ∧ ReportStep s s' := by
  unfold finish_episode_report_attempt_error at h
  simp only [Option.bind_eq_some_iff, Option.ite_none_left_eq_some] at h
  obtain ⟨-, a, ha, -, e, -, h⟩ := h
  split at h
  · obtain ⟨ht, hw, hr⟩ := close_report_tasks h
    refine ⟨.moved a.allocation_operation_id .failed ?_ ht, report_rewritten hw hr⟩
    exact fun hbound t ht => .inl (hbound.attempt ha ht)
  · cases h
    refine ⟨.same rfl, ?_⟩
    exact .rewritten (set_wrapup_state_allocation _ _) (set_attempts_allocation _ _) rfl rfl

theorem finish_episode_report_ready_tasks {attempt_id : String} {report : EpisodeReport}
    (h : s.finish_episode_report_ready attempt_id report = some s') :
    TaskStep task s s' ∧ ReportStep s s' := by
  unfold finish_episode_report_ready at h
  simp only [Option.bind_eq_some_iff, Option.ite_none_left_eq_some, Bool.not_eq_true,
    Bool.not_eq_false'] at h
  obtain ⟨a, ha, e, -, w, -, hmatch, -, h⟩ := h
  split at h
  · split at h
    · cases h; exact ⟨.refl, .same rfl rfl⟩
    · cases h
  simp only [Option.ite_none_left_eq_some] at h
  obtain ⟨-, h⟩ := h
  obtain ⟨routes, rfl⟩ := settle_episode_eq h
  have hallocation : report.allocation_operation_id = a.allocation_operation_id := by
    simp only [report_matches, Bool.and_eq_true, decide_eq_true_eq] at hmatch
    exact hmatch.1.1.2
  refine ⟨.moved report.allocation_operation_id .succeeded ?_ rfl, ?_⟩
  · intro hbound t ht
    rw [hallocation] at ht
    exact .inl (hbound.attempt ha ht)
  · exact .rewritten (set_wrapup_allocation _ _ _) (set_attempts_allocation _ _) rfl rfl

/-- The task `report_task` finds is a report. -/
theorem report_task_kind {episode_id operation_id : String} {t : AgentTaskRecord}
    (h : s.report_task episode_id operation_id = some t) :
    s.tasks.get? operation_id = some t ∧ t.operation_id = operation_id
      ∧ t.kind = .episode_report := by
  obtain ⟨hget, hkind⟩ := Option.filter_eq_some_iff.mp h
  simp only [Bool.and_eq_true, decide_eq_true_eq] at hkind
  exact ⟨hget, Table.key_of_get? hget, hkind.1.2⟩

theorem requeue_interrupted_episode_report_allocation_tasks {id : String}
    (h : s.requeue_interrupted_episode_report_allocation id = some s') :
    TaskStep task s s' ∧ ReportStep s s' := by
  unfold requeue_interrupted_episode_report_allocation at h
  simp only [Option.bind_eq_some_iff, Option.ite_none_left_eq_some] at h
  obtain ⟨e, -, operation_id, -, -, t, ht, h⟩ := h
  obtain ⟨hget, hkey, hkind⟩ := report_task_kind ht
  have hmoves : ∀ r, s.tasks.get? t.operation_id = some r → r.kind = .episode_report := by
    intro r hr
    rw [hkey, hget] at hr
    cases hr
    exact hkind
  split at h
  · cases h; exact ⟨.refl, .same rfl rfl⟩
  simp only [Option.ite_none_left_eq_some] at h
  obtain ⟨-, h⟩ := h
  simp only [requeue_report] at h
  split at h
  · simp only [Option.ite_none_left_eq_some] at h
    obtain ⟨ht, hw, hr⟩ := close_report_tasks h.2
    exact ⟨.moved t.operation_id .failed (fun _ r hr => .inl (hmoves r hr)) ht,
      report_rewritten hw hr⟩
  · cases h
    refine ⟨.moved t.operation_id .queued (fun _ r hr => .inl (hmoves r hr)) rfl, ?_⟩
    exact .rewritten (set_wrapup_allocation _ _ _) (set_attempts_allocation _ _) rfl rfl

theorem fail_episode_report_allocation_unlaunchable_tasks {id diagnostic : String}
    (h : s.fail_episode_report_allocation_unlaunchable id diagnostic = some s') :
    TaskStep task s s' ∧ ReportStep s s' := by
  unfold fail_episode_report_allocation_unlaunchable at h
  simp only [Option.bind_eq_some_iff, Option.ite_none_left_eq_some] at h
  obtain ⟨-, e, -, w, -, operation_id, -, t, ht, -, h⟩ := h
  obtain ⟨hget, hkey, hkind⟩ := report_task_kind ht
  split at h
  · split at h
    · cases h; exact ⟨.refl, .same rfl rfl⟩
    · cases h
  simp only [Option.ite_none_left_eq_some] at h
  obtain ⟨ht, hw, hr⟩ := close_report_tasks h.2
  refine ⟨.moved operation_id .failed ?_ ht, report_rewritten hw hr⟩
  intro _ r hr'
  have heq : some t = some r := hget.symm.trans hr'
  cases heq
  exact .inl hkind

/-! ### Endings -/

/-- A step that touches neither tasks nor reports. -/
theorem untouched (ht : s'.tasks = s.tasks) (hw : s'.wrapups = s.wrapups)
    (ha : s'.report_attempts = s.report_attempts) : TaskStep task s s' ∧ ReportStep s s' :=
  ⟨.same ht, .same hw ha⟩

theorem request_episode_stop_tasks {id : String} {now : Int}
    (h : s.request_episode_stop id now = some s') : TaskStep task s s' ∧ ReportStep s s' := by
  unfold request_episode_stop at h
  obtain ⟨e, -, h⟩ := Option.bind_eq_some_iff.mp h
  split at h
  · cases h; exact untouched rfl rfl rfl
  simp only [Option.ite_none_left_eq_some] at h
  obtain ⟨-, -, h⟩ := h
  split at h <;> cases h <;> exact untouched rfl rfl rfl

theorem fence_episode_ending_tasks {id : String} {ending : EpisodeEnding}
    {diagnostic : Option String} (h : s.fence_episode_ending id ending diagnostic = some s') :
    TaskStep task s s' ∧ ReportStep s s' := by
  unfold fence_episode_ending at h
  simp only [Option.ite_none_left_eq_some, Option.bind_eq_some_iff] at h
  obtain ⟨-, e, -, h⟩ := h
  split at h
  · split at h
    · cases h; exact untouched rfl rfl rfl
    · cases h
  simp only [Option.ite_none_left_eq_some] at h
  obtain ⟨-, -, h⟩ := h
  cases h
  exact untouched rfl rfl rfl

theorem guard_auto_research_finish_tasks {receipt : FinishReceipt} {diagnostic : Option String}
    {blocked : Bool} (h : s.guard_auto_research_finish receipt diagnostic blocked = some s') :
    TaskStep task s s' ∧ ReportStep s s' := by
  unfold guard_auto_research_finish at h
  simp only [Option.ite_none_left_eq_some] at h
  have h := h.2
  split at h
  · split at h
    · cases h; exact untouched rfl rfl rfl
    · cases h
  obtain ⟨e, -, h⟩ := Option.bind_eq_some_iff.mp h
  unfold fence_finish at h
  split at h
  · split at h
    · cases h; exact untouched rfl rfl rfl
    · cases h
  simp only [Option.ite_none_left_eq_some] at h
  obtain ⟨-, -, h⟩ := h
  split at h <;> cases h <;> exact untouched rfl rfl rfl

theorem end_episode_without_report_tasks {id : String} {ending : EpisodeEnding}
    {diagnostic : Option String} (h : s.end_episode_without_report id ending diagnostic = some s') :
    TaskStep task s s' ∧ ReportStep s s' := by
  unfold end_episode_without_report at h
  simp only [Option.ite_none_left_eq_some, Option.bind_eq_some_iff] at h
  obtain ⟨-, e, -, -, -, -, h⟩ := h
  split at h
  · cases h; exact untouched rfl rfl rfl
  simp only [Option.ite_none_left_eq_some] at h
  obtain ⟨routes, rfl⟩ := settle_episode_eq h.2
  exact untouched rfl rfl rfl

theorem fail_episode_wrapup_unlaunchable_tasks {wrapup : EpisodeWrapup}
    {ending_diagnostic : Option String}
    (h : s.fail_episode_wrapup_unlaunchable wrapup ending_diagnostic = some s') :
    TaskStep task s s' ∧ ReportStep s s' := by
  unfold fail_episode_wrapup_unlaunchable at h
  simp only [Option.ite_none_left_eq_some, Option.bind_eq_some_iff, Bool.or_eq_true,
    not_or, Bool.not_eq_true, Option.isSome_eq_false_iff, Option.isNone_iff_eq_none] at h
  obtain ⟨⟨⟨-, hnone⟩, -⟩, e, -, h⟩ := h
  split at h
  · split at h
    · cases h; exact untouched rfl rfl rfl
    · cases h
  simp only [Option.ite_none_left_eq_some] at h
  obtain ⟨routes, rfl⟩ := settle_episode_eq h.2.2
  exact ⟨.same rfl, .put_wrapup hnone rfl rfl⟩

theorem mark_episode_stop_skipped_tasks {id : String} {diagnostic : Option String} {now : Int}
    (h : s.mark_episode_stop_skipped id diagnostic now = some s') :
    TaskStep task s s' ∧ ReportStep s s' := by
  unfold mark_episode_stop_skipped at h
  obtain ⟨e, -, h⟩ := Option.bind_eq_some_iff.mp h
  split at h
  · cases h; exact untouched rfl rfl rfl
  simp only [Option.ite_none_left_eq_some] at h
  obtain ⟨routes, rfl⟩ := settle_episode_eq h.2.2
  exact ⟨.same rfl, .put_wrapup rfl rfl rfl⟩

theorem begin_episode_wrapup_tasks {wrapup : EpisodeWrapup} {t : AgentTaskRecord} {bound : Bool}
    (h : s.begin_episode_wrapup wrapup t bound = some s') :
    TaskStep (some t) s s' ∧ ReportStep s s' := by
  rcases begin_episode_wrapup_eq h with
    rfl | ⟨e, s₁, hget, -, hkind, hallocation, -, -, -, h₁, rfl⟩
  · exact untouched rfl rfl rfl
  have hstep := insert_agent_task_tasks h₁ rfl
  obtain ⟨-, -, -, -, rfl⟩ := insert_agent_task_eq h₁
  refine ⟨hstep.congr rfl ?_, ?_, ?_⟩
  · exact Episode.SameBudget.of_put (get?_self hget).2 ⟨rfl, rfl, rfl, rfl, rfl, rfl⟩
  · intro w' hmem id hid
    rcases Table.mem_put_iff.mp hmem with rfl | ⟨hmem, -⟩
    · rw [hallocation] at hid
      cases hid
      exact .inr ⟨t, Table.get?_put_self _ _, hkind⟩
    · exact .inl ⟨w', hmem, hid⟩
  · exact fun a hmem => .inl ⟨a, hmem, rfl⟩

/-! ### Every operation -/

/-- A task inserted outside the ledger leaves the reports alone. -/
theorem insert_agent_task_effect {s₀ : EpisodeStore} {t : AgentTaskRecord} {bound repair : Bool}
    (h : s.insert_agent_task t bound repair = some s') (htasks : s.tasks = s₀.tasks)
    (hw : s.wrapups = s₀.wrapups) (ha : s.report_attempts = s₀.report_attempts) :
    TaskStep (some t) s₀ s' ∧ ReportStep s₀ s' := by
  refine ⟨insert_agent_task_tasks h htasks, ?_⟩
  obtain ⟨-, -, -, -, rfl⟩ := insert_agent_task_eq h
  exact .same hw ha

/-- A paid task leaves the reports alone. -/
theorem spend_effect {s₀ : EpisodeStore} {e : Episode} {t : AgentTaskRecord} {bound : Bool}
    (h : s.spend e t bound = some s')
    (hget : ∃ e₀, s.episodes.get? e₀.episode_id = some e₀ ∧ e₀.SameBudget e)
    (htasks : s.tasks = s₀.tasks) (hw : s.wrapups = s₀.wrapups)
    (ha : s.report_attempts = s₀.report_attempts) :
    TaskStep (some t) s₀ s' ∧ ReportStep s₀ s' := by
  obtain ⟨e₀, hget, hsame⟩ := hget
  refine ⟨spend_tasks h htasks hget hsame, ?_⟩
  obtain ⟨-, -, -, -, -, rfl⟩ := spend_eq h
  exact .same hw ha

/-- The first paid task of an episode leaves the reports alone. -/
theorem open_episode_effect {s₀ : EpisodeStore} {e : Episode} {t : AgentTaskRecord} {bound : Bool}
    (h : s.open_episode e t bound = some s') (htasks : s.tasks = s₀.tasks)
    (hw : s.wrapups = s₀.wrapups) (ha : s.report_attempts = s₀.report_attempts) :
    TaskStep (some t) s₀ s' ∧ ReportStep s₀ s' := by
  refine ⟨open_episode_tasks h htasks, ?_⟩
  obtain ⟨-, -, -, -, -, -, -, rfl⟩ := open_episode_eq h
  exact .same hw ha

/-- The record of an actor's invocation is neither a task nor a report. -/
theorem insert_auto_research_invocation_effect {s₁ : EpisodeStore}
    {seat : AutoResearchInvocationRecord} (hstep : TaskStep task s s₁ ∧ ReportStep s s₁)
    (h : s₁.insert_auto_research_invocation seat = some s') :
    TaskStep task s s' ∧ ReportStep s s' := by
  obtain ⟨-, rfl⟩ := insert_auto_research_invocation_eq h
  refine ⟨hstep.1.congr rfl ?_, ⟨hstep.2.wrapups, hstep.2.attempts⟩⟩
  exact fun id e he => ⟨e, he, ⟨rfl, rfl, rfl, rfl, rfl, rfl⟩⟩

theorem cancel_experiment_replacement_tasks {id : String}
    (h : s.cancel_experiment_replacement id = some s') : TaskStep task s s' ∧ ReportStep s s' := by
  simp only [cancel_experiment_replacement, Option.bind_eq_some_iff] at h
  obtain ⟨route, -, h⟩ := h
  split at h
  · cases h; exact untouched rfl rfl rfl
  · split at h
    · cases h; exact untouched rfl rfl rfl
    · cases h

theorem create_auto_research_episode_with_root_task_tasks {e : Episode} {t : AgentTaskRecord}
    {activate bound : Bool}
    (h : s.create_auto_research_episode_with_root_task e t activate bound = some s') :
    TaskStep (some t) s s' ∧ ReportStep s s' := by
  obtain ⟨-, -, -, -, -, -, s₁, s₂, seat, h₁, -, h₂, h⟩ :=
    create_auto_research_episode_with_root_task_eq h
  obtain ⟨-, -, rfl⟩ := insert_episode_eq h₁
  have hget : (s.episodes.put (reserved e t activate)).get? e.episode_id
      = some (reserved e t activate) := Table.get?_put_self _ _
  refine insert_auto_research_invocation_effect (spend_effect h₂ ?_ rfl rfl rfl) h
  exact ⟨reserved e t activate, hget, ⟨rfl, rfl, rfl, rfl, rfl, rfl⟩⟩

theorem activate_auto_research_reservation_tasks {id operation_id : String}
    (h : s.activate_auto_research_reservation id operation_id = some s') :
    TaskStep task s s' ∧ ReportStep s s' := by
  simp only [activate_auto_research_reservation, Option.bind_eq_some_iff,
    Option.ite_none_left_eq_some] at h
  obtain ⟨e, -, t, -, -, h⟩ := h
  split at h
  · cases h; exact untouched rfl rfl rfl
  simp only [Option.ite_none_left_eq_some] at h
  obtain ⟨-, h⟩ := h
  cases h
  exact untouched rfl rfl rfl

theorem transition_task_tasks {operation_id : String} {target : AgentTaskStatus}
    (h : s.transition_task operation_id target = some s') :
    TaskStep task s s' ∧ ReportStep s s' := by
  simp only [transition_task, Option.bind_eq_some_iff] at h
  obtain ⟨t, hget, h⟩ := h
  split at h
  · rename_i hmoves
    cases h
    refine ⟨.moved operation_id target ?_ rfl, .same rfl rfl⟩
    intro _ r hr
    rw [hget] at hr
    cases hr
    exact .inr hmoves
  · cases h

/-- What one operation does to the tasks and to the reports. -/
theorem exec_task_step {op : EpisodeOp} (h : s.exec op = some s') :
    TaskStep op.task s s' ∧ ReportStep s s' := by
  cases op with
  -- what ends or reports an episode
  | request_episode_stop => exact request_episode_stop_tasks h
  | fence_episode_ending => exact fence_episode_ending_tasks h
  | guard_auto_research_finish => exact guard_auto_research_finish_tasks h
  | begin_episode_wrapup => exact begin_episode_wrapup_tasks h
  | end_episode_without_report => exact end_episode_without_report_tasks h
  | fail_episode_wrapup_unlaunchable => exact fail_episode_wrapup_unlaunchable_tasks h
  | mark_episode_stop_skipped => exact mark_episode_stop_skipped_tasks h
  | allocate_episode_report_attempt => exact allocate_episode_report_attempt_tasks h
  | mark_episode_report_attempt_running => exact mark_episode_report_attempt_running_tasks h
  | finish_episode_report_attempt_error => exact finish_episode_report_attempt_error_tasks h
  | finish_episode_report_ready => exact finish_episode_report_ready_tasks h
  | requeue_interrupted_episode_report_allocation =>
    exact requeue_interrupted_episode_report_allocation_tasks h
  | fail_episode_report_allocation_unlaunchable =>
    exact fail_episode_report_allocation_unlaunchable_tasks h
  -- what admits a task of an Experiment episode
  | create_episode e =>
    simp only [exec, create_episode, Option.ite_none_left_eq_some] at h
    obtain ⟨-, -, rfl⟩ := insert_episode_eq h.2.2
    exact untouched rfl rfl rfl
  | create_episode_with_invocation =>
    rcases create_episode_with_invocation_eq h with rfl | ⟨-, -, -, -, h⟩
    · exact untouched rfl rfl rfl
    exact open_episode_effect h rfl rfl rfl
  | allocate_episode_invocation =>
    rcases allocate_episode_invocation_eq h with rfl | ⟨e, hget, -, -, -, -, -, h⟩
    · exact untouched rfl rfl rfl
    exact spend_effect h ⟨e, (get?_self hget).2, ⟨rfl, rfl, rfl, rfl, rfl, rfl⟩⟩ rfl rfl rfl
  | create_experiment_episode_with_invocation =>
    obtain ⟨e, s₁, -, -, -, hroute, h⟩ := create_experiment_episode_with_invocation_eq h
    obtain ⟨routes, rfl⟩ := open_route_eq hroute
    exact open_episode_effect h rfl rfl rfl
  | reserve_experiment_replacement route =>
    simp only [exec, reserve_experiment_replacement, Option.ite_none_left_eq_some] at h
    obtain ⟨-, -, -, h⟩ := h
    cases h
    exact untouched rfl rfl rfl
  | cancel_experiment_replacement => exact cancel_experiment_replacement_tasks h
  | create_experiment_watcher_invocation =>
    rcases create_experiment_watcher_invocation_eq h with
      rfl | ⟨e, hget, -, -, -, -, -, -, -, -, -, -, -, h⟩
    · exact untouched rfl rfl rfl
    exact spend_effect h ⟨e, hget, ⟨rfl, rfl, rfl, rfl, rfl, rfl⟩⟩ rfl rfl rfl
  | create_experiment_recovery_task =>
    obtain ⟨e, -, -, -, -, -, -, -, -, -, h⟩ := create_experiment_recovery_task_eq h
    exact insert_agent_task_effect h rfl rfl rfl
  -- what admits a task of an Auto-Research episode
  | create_auto_research_episode_with_root_task =>
    exact create_auto_research_episode_with_root_task_tasks h
  | activate_auto_research_reservation =>
    exact activate_auto_research_reservation_tasks h
  | create_auto_research_agent_task =>
    rcases create_auto_research_agent_task_eq h with
      rfl | ⟨e, s₁, seat, hget, -, -, -, -, -, -, h₁, h⟩
    · exact untouched rfl rfl rfl
    refine insert_auto_research_invocation_effect (spend_effect h₁ ?_ rfl rfl rfl) h
    exact ⟨e, hget, ⟨rfl, rfl, rfl, rfl, rfl, rfl⟩⟩
  | create_auto_research_recovery_task =>
    obtain ⟨e, p, s₁, seat, parent_id, -, -, -, -, -, -, -, -, -, -, h₁, h⟩ :=
      create_auto_research_recovery_task_eq h
    exact insert_auto_research_invocation_effect (insert_agent_task_effect h₁ rfl rfl rfl) h
  | create_auto_research_child_work w t bound =>
    obtain ⟨e, hget, -, -, -, -, -, -, h⟩ := create_auto_research_child_work_eq h
    exact spend_effect h ⟨e, hget, ⟨rfl, rfl, rfl, rfl, rfl, rfl⟩⟩ rfl rfl rfl
  | create_auto_research_child_work_recovery =>
    obtain ⟨e, work, -, -, -, -, -, -, -, h⟩ := create_auto_research_child_work_recovery_eq h
    exact insert_agent_task_effect h rfl rfl rfl
  | create_auto_research_child_work_message_wake_task =>
    rcases create_auto_research_child_work_message_wake_task_eq h with
      rfl | ⟨e, work, hget, -, -, -, -, -, -, h⟩
    · exact untouched rfl rfl rfl
    exact spend_effect h ⟨e, hget, ⟨rfl, rfl, rfl, rfl, rfl, rfl⟩⟩ rfl rfl rfl
  | request_child_work_stop worker_id now =>
    simp only [exec, request_child_work_stop, Option.bind_eq_some_iff] at h
    obtain ⟨w, -, h⟩ := h
    cases h
    exact untouched rfl rfl rfl
  -- what admits any other task, and the scheduler
  | create_agent_task =>
    exact insert_agent_task_effect (create_agent_task_eq h).2.2.2 rfl rfl rfl
  | create_agent_task_graph_repair =>
    exact insert_agent_task_effect (create_agent_task_graph_repair_eq h).2.2 rfl rfl rfl
  | create_watcher_notification_task =>
    rcases create_watcher_notification_task_eq h with rfl | ⟨-, -, h⟩
    · exact untouched rfl rfl rfl
    exact insert_agent_task_effect h rfl rfl rfl
  | create_branch_merge_task =>
    rcases create_branch_merge_task_eq h with rfl | ⟨e, -, -, -, -, -, -, -, -, -, -, -, h⟩
    · exact untouched rfl rfl rfl
    exact insert_agent_task_effect h rfl rfl rfl
  | transition_agent_task => exact transition_task_tasks h
  | abandon_auto_research_recovery operation_id =>
    simp only [exec, abandon_recovery] at h
    split at h
    · cases h; exact untouched rfl rfl rfl
    · cases h
  | abandon_experiment_recovery => cases h; exact untouched rfl rfl rfl
  | exit_experiment_loop => cases h; exact untouched rfl rfl rfl
  | retain_receipts => cases h; exact untouched rfl rfl rfl
  | release_source_project => cases h; exact untouched rfl rfl rfl

/-- A stored task stays, with another status at most. -/
theorem TaskStep.get?_of_get? (h : TaskStep task s s') {id : String} {t : AgentTaskRecord}
    (hget : s.tasks.get? id = some t) :
    ∃ status, s'.tasks.get? id = some { t with status := status } := by
  cases h with
  | same ht => exact ⟨t.status, by rw [ht]; exact hget⟩
  | moved operation_id status _ ht =>
    rw [ht, set_task_status, Table.get?_update, hget]
    by_cases hid : t.operation_id = operation_id
    · exact ⟨status, by simp [hid]⟩
    · exact ⟨t.status, by simp [hid]⟩
  | inserted r v repair _ hnew _ _ _ _ _ ht =>
    refine ⟨t.status, ?_⟩
    rw [ht, Table.get?_put_ne]
    · exact hget
    · rintro rfl
      have hnone : s.tasks.get? (Keyed.key r) = none := hnew
      rw [hnone] at hget
      cases hget

/-- Where a task of a later store comes from: it is the one just inserted, or it was there, perhaps
    with a status it could leave. -/
theorem TaskStep.old_task (h : TaskStep task s s') (hbound : s.ReportsBound) {id : String}
    {t' : AgentTaskRecord} (hget : s'.tasks.get? id = some t') :
    (task = some t' ∧ s.tasks.get? id = none ∧ s'.tasks = s.tasks.put t')
      ∨ ∃ t, s.tasks.get? id = some t ∧ (t' = t ∨ ∃ status, t' = { t with status := status }
        ∧ (t.kind = .episode_report ∨ t.status.active = true)) := by
  cases h with
  | same ht =>
    rw [ht] at hget
    exact .inr ⟨t', hget, .inl rfl⟩
  | moved operation_id status hmoves ht =>
    rw [ht, set_task_status, Table.get?_update, Option.map_eq_some_iff] at hget
    obtain ⟨t, ht, heq⟩ := hget
    refine .inr ⟨t, ht, ?_⟩
    split at heq
    · rename_i hid
      have hkey : t.operation_id = id := Table.key_of_get? ht
      refine .inr ⟨status, heq.symm, ?_⟩
      rcases hmoves hbound t (by rw [← hid, hkey]; exact ht) with hkind | hmem
      · exact .inl hkind
      · exact .inr (AgentTaskStatus.active_of_mem_transitions (List.contains_iff_mem.mp hmem))
    · exact .inl heq.symm
  | inserted t v repair htask hnew _ _ _ _ _ ht =>
    rw [ht, Table.get?_put] at hget
    split at hget
    · rename_i hid
      cases hget
      exact .inl ⟨htask, by rw [hid]; exact hnew, ht⟩
    · exact .inr ⟨t', hget, .inl rfl⟩

theorem reportsBound_empty : ReportsBound {} where
  wrapups := by
    intro w hw
    cases hw
  attempts := by
    intro a ha
    cases ha

theorem ReportsBound.step (h : s.ReportsBound) (htask : TaskStep task s s')
    (hreport : ReportStep s s') : s'.ReportsBound := by
  have hmono : ∀ id, s.is_report id → s'.is_report id := by
    rintro id ⟨t, hget, hkind⟩
    obtain ⟨status, hget'⟩ := htask.get?_of_get? hget
    exact ⟨_, hget', hkind⟩
  constructor
  · intro w hw id hid
    rcases hreport.wrapups w hw id hid with ⟨w₀, hw₀, hid₀⟩ | h'
    · exact hmono id (h.wrapups w₀ hw₀ id hid₀)
    · exact h'
  · intro a ha
    rcases hreport.attempts a ha with ⟨a₀, ha₀, heq⟩ | ⟨w₀, hw₀, hid₀⟩
    · rw [← heq]
      exact hmono _ (h.attempts a₀ ha₀)
    · exact hmono _ (h.wrapups w₀ hw₀ _ hid₀)

theorem apply_task_step (op : EpisodeOp) :
    TaskStep op.task s (s.apply op) ∧ ReportStep s (s.apply op) := by
  rcases s.apply_cases op with h | h
  · rw [h]; exact untouched rfl rfl rfl
  · exact exec_task_step h

end EpisodeStore

end ResearchGraph
