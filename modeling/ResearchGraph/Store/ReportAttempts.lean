import ResearchGraph.Store.EpisodeTasks
import ResearchGraph.Lib.Transaction

/-! # Report attempts over whole runs

    An episode in wrap-up gets up to three attempts at a report. The calls that
    allocate, launch and finish an attempt may be repeated by a restarted
    process and may come late, for an attempt that ended long ago.

    What they count holds in every run. That a settled wrap-up stays settled
    needs every reported error to be timely: one that names an attempt which
    has failed is taken for news, whatever happened since.
-/

namespace ResearchGraph

open Lib

/-- The states a wrap-up does not leave. -/
def EpisodeWrapupState.closed : EpisodeWrapupState → Bool
  | .ready | .failed | .skipped => true
  | _ => false

namespace EpisodeStore

variable {s s' : EpisodeStore} {id : String} {timely : String → Prop}

/-- The report attempts of an episode. -/
def attempts (s : EpisodeStore) (id : String) : List ReportAttempt :=
  s.report_attempts.items.filter (fun a => a.episode_id = id)

/-- No two attempts of an episode are queued or running. -/
def AtMostOneOpen (s : EpisodeStore) (id : String) : Prop :=
  ∀ a ∈ s.attempts id, ∀ b ∈ s.attempts id,
    a.status.unfinished = true → b.status.unfinished = true → a = b

/-- What the attempts, the row of the episode and its report say about each other. -/
structure ReportsCounted (s : EpisodeStore) (id : String) : Prop where
  used : ∃ e, s.episodes.get? id = some e ∧ e.report_attempts_used = (s.attempts id).length
  limit : (s.attempts id).length ≤ report_attempt_limit
  single : s.AtMostOneOpen id
  report : (s.reports.items.filter (fun r => r.episode_id = id)).length ≤ 1

/-! ### What a call does -/

/-- The row of an episode that a timely report call may write: the episode waits for its report,
    or an open attempt of it is reported on. -/
def Awaits (timely : Prop) (s : EpisodeStore) (e : Episode) : Prop :=
  timely → e.status = .wrapping_up ∨ ∃ a ∈ s.attempts e.episode_id, a.status.unfinished = true

/-- The row has the status of its ending. -/
def Ended (e : Episode) : Prop := ∃ x, e.ending = some x ∧ e.status = status_for_ending x

theorem Ended.not_wrapping {e : Episode} (h : Ended e) : e.status ≠ .wrapping_up := by
  obtain ⟨x, -, hstatus⟩ := h
  rw [hstatus]
  cases x <;> decide

/-- The effect of a report call on the episodes, the attempts and the reports; `timely` are the
    episodes whose errors the call does not report late. -/
inductive WrapupStep (timely : String → Prop) (s s' : EpisodeStore) : Prop
  | same (he : s'.episodes = s.episodes) (ha : s'.report_attempts = s.report_attempts)
      (hr : s'.reports = s.reports)
  | allocated (e : Episode) (a : ReportAttempt) (hget : s.episodes.get? e.episode_id = some e)
      (hstatus : e.status = .wrapping_up) (hawaiting : e.wrapup_state.awaiting = true)
      (hnone : ∀ b ∈ s.attempts e.episode_id, b.status.unfinished = false)
      (hlimit : e.report_attempts_used < report_attempt_limit)
      (hfresh : s.report_attempts.get? a.attempt_id = none) (hid : a.episode_id = e.episode_id)
      (he : s'.episodes = s.episodes.put { e with
        wrapup_state := .running, report_attempts_used := e.report_attempts_used + 1 })
      (ha : s'.report_attempts = s.report_attempts.put a) (hr : s'.reports = s.reports)
  | launched (attempt_id : String) (a : ReportAttempt)
      (hget : s.report_attempts.get? attempt_id = some a) (hopen : a.status.unfinished = true)
      (he : s'.episodes = s.episodes)
      (ha : s'.report_attempts
        = (s.set_attempts (fun b => b.attempt_id = attempt_id) .running).report_attempts)
      (hr : s'.reports = s.reports)
  | retried (e e' : Episode) (p : ReportAttempt → Bool)
      (hget : s.episodes.get? e.episode_id = some e) (hawaits : Awaits (timely e.episode_id) s e)
      (hid : e'.episode_id = e.episode_id) (hstate : e'.wrapup_state.closed = false)
      (hused : e'.report_attempts_used = e.report_attempts_used)
      (he : s'.episodes = s.episodes.put e')
      (ha : s'.report_attempts = (s.set_attempts p .failed).report_attempts)
      (hr : s'.reports = s.reports)
  | closed (e e' : Episode) (p : ReportAttempt → Bool) (status : ReportAttemptStatus)
      (hget : s.episodes.get? e.episode_id = some e) (hawaits : Awaits (timely e.episode_id) s e)
      (hid : e'.episode_id = e.episode_id) (hended : Ended e')
      (hused : e'.report_attempts_used = e.report_attempts_used)
      (hfinished : status.unfinished = false)
      (hall : timely e.episode_id → s.AtMostOneOpen e.episode_id →
        ∀ a ∈ s.attempts e.episode_id, a.status.unfinished = true → p a = true)
      (he : s'.episodes = s.episodes.put e')
      (ha : s'.report_attempts = (s.set_attempts p status).report_attempts)
      (hr : s'.reports = s.reports ∨ ∃ report : EpisodeReport,
        s.reports.contains e.episode_id = false ∧ report.episode_id = e.episode_id ∧
          s'.reports = s.reports.put report)
  | repeated (e e' : Episode) (p : ReportAttempt → Bool)
      (hget : s.episodes.get? e.episode_id = some e) (hid : e'.episode_id = e.episode_id)
      (hfailed : e.wrapup_state = .failed) (hstate : e'.wrapup_state = .failed)
      (hending : e'.ending = e.ending) (hended : Ended e')
      (hused : e'.report_attempts_used = e.report_attempts_used)
      (he : s'.episodes = s.episodes.put e')
      (ha : s'.report_attempts = (s.set_attempts p .failed).report_attempts)
      (hr : s'.reports = s.reports)

theorem mem_attempts {a : ReportAttempt} :
    a ∈ s.attempts id ↔ a ∈ s.report_attempts.items ∧ a.episode_id = id := by
  simp [attempts]

/-- No attempt of the episode is open when none is current. -/
theorem current_attempt_none (h : (s.current_attempt id).isSome = false) :
    ∀ a ∈ s.attempts id, a.status.unfinished = false := by
  intro a ha
  obtain ⟨hmem, hid⟩ := mem_attempts.mp ha
  rw [Option.isSome_eq_false_iff, Option.isNone_iff_eq_none, current_attempt,
    List.find?_eq_none] at h
  have hnot := h a (List.mem_reverse.mpr hmem)
  simpa [hid] using hnot

theorem current_attempt_mem {a : ReportAttempt} (h : s.current_attempt id = some a) :
    a ∈ s.attempts id ∧ a.status.unfinished = true := by
  rw [current_attempt] at h
  have hmem := List.mem_reverse.mp (List.mem_of_find?_eq_some h)
  have hprop := List.find?_some h
  simp only [Bool.and_eq_true, decide_eq_true_eq] at hprop
  exact ⟨mem_attempts.mpr ⟨hmem, hprop.1⟩, hprop.2⟩

theorem allocate_wrapup {attempt_id : String}
    (h : s.allocate_episode_report_attempt id attempt_id = some s') :
    WrapupStep timely s s' := by
  simp only [allocate_episode_report_attempt, Option.bind_eq_some_iff,
    Option.ite_none_left_eq_some, Bool.or_eq_true, decide_eq_true_eq, not_or,
    Bool.not_eq_eq_eq_not, Bool.not_true, Bool.not_eq_false, ne_eq, Decidable.not_not] at h
  obtain ⟨e, hget, w, -, operation_id, -, ⟨⟨hstatus, hawaiting⟩, -⟩, h⟩ := h
  obtain ⟨hid, hget⟩ := get?_self hget
  split at h
  · cases h
    exact .same rfl rfl rfl
  · rename_i hcurrent
    simp only [Option.ite_none_left_eq_some, Bool.not_eq_true, Table.contains_eq_false_iff,
      Nat.not_le] at h
    obtain ⟨hlimit, hfresh, h⟩ := h
    cases h
    refine .allocated e _ hget hstatus hawaiting ?_ hlimit hfresh hid.symm rfl rfl rfl
    rw [hid]
    exact current_attempt_none (by simpa using hcurrent)

theorem mark_running_wrapup {attempt_id : String}
    (h : s.mark_episode_report_attempt_running attempt_id = some s') :
    WrapupStep timely s s' := by
  simp only [mark_episode_report_attempt_running, Option.bind_eq_some_iff,
    Option.ite_none_left_eq_some, Bool.not_eq_true, Bool.not_eq_false'] at h
  obtain ⟨a, hget, hopen, h⟩ := h
  cases h
  exact .launched attempt_id a hget hopen rfl rfl rfl

/-- What closing a report leaves of the row. -/
theorem close_report_row {e : Episode} {operation_id error : String}
    (h : s.close_report e operation_id error = some s') :
    ∃ e', s'.episodes = s.episodes.put e' ∧ s'.reports = s.reports ∧
      s'.report_attempts = s.report_attempts ∧ e'.episode_id = e.episode_id ∧
      Ended e' ∧ e'.report_attempts_used = e.report_attempts_used ∧
      e'.wrapup_state = .failed ∧ e'.ending = e.ending := by
  unfold close_report at h
  obtain ⟨ending, hending, h⟩ := Option.bind_eq_some_iff.mp h
  obtain ⟨routes, rfl⟩ := settle_episode_eq h
  exact ⟨_, rfl, rfl, rfl, rfl, ⟨ending, hending, rfl⟩, rfl, rfl, rfl⟩

/-- An error that is reported for an attempt of the episode is refused or names an open one; or it
    finds the episode still wrapping up and, if it closes the wrap-up, no attempt open or the
    wrap-up closed by an error before. -/
def timely_call (id : String) (s : EpisodeStore) : EpisodeOp → Bool
  | .finish_episode_report_attempt_error attempt_id error force_final =>
    (s.finish_episode_report_attempt_error attempt_id error force_final).isNone
      || (s.report_attempts.get? attempt_id).all fun a =>
        a.episode_id ≠ id || a.status ≠ .failed || (s.episodes.get? id).all fun e =>
          if force_final || decide (report_attempt_limit ≤ a.attempt_number) then
            e.wrapup_state = .failed || (e.status = .wrapping_up
              && (s.attempts id).all (fun b => !b.status.unfinished))
          else e.status = .wrapping_up
  | _ => true

theorem attempt_error_wrapup {attempt_id error : String} {force_final : Bool}
    (h : s.finish_episode_report_attempt_error attempt_id error force_final = some s') :
    WrapupStep (fun id => timely_call id s
      (.finish_episode_report_attempt_error attempt_id error force_final) = true) s s' := by
  have hsome : (s.finish_episode_report_attempt_error attempt_id error force_final).isNone
      = false := by
    rw [h]
    rfl
  simp only [finish_episode_report_attempt_error, Option.bind_eq_some_iff,
    Option.ite_none_left_eq_some] at h
  obtain ⟨-, a, ha, hsucceeded, e, hget, h⟩ := h
  obtain ⟨hid, hget⟩ := get?_self hget
  have hmem : a ∈ s.attempts e.episode_id :=
    mem_attempts.mpr ⟨(Table.get?_eq_some_iff.mp ha).1, hid.symm⟩
  have hkey : a.attempt_id = attempt_id := Table.key_of_get? ha
  have hopen : a.status ≠ .failed → a.status.unfinished = true := by
    revert hsucceeded
    cases a.status <;> simp [ReportAttemptStatus.unfinished]
  split at h
  · rename_i hfinal
    rw [Bool.or_eq_true, decide_eq_true_eq] at hfinal
    obtain ⟨e', he, hr, hattempts, hid', hended, hused, hstate, hending⟩ := close_report_row h
    by_cases hfailed : a.status = .failed
    · by_cases hagain : e.wrapup_state = .failed
      · exact .repeated e e' (fun b => b.attempt_id = attempt_id) hget hid' hagain hstate hending
          hended hused he hattempts hr
      · -- the attempt failed before: a timely call finds no other one open
        have hlate : timely_call e.episode_id s
            (.finish_episode_report_attempt_error attempt_id error force_final) = true →
            e.status = .wrapping_up ∧
              ∀ b ∈ s.attempts e.episode_id, b.status.unfinished = false := by
          intro htimely
          simpa [timely_call, hsome, ha, ← hid, hfailed, hget, hfinal, hagain] using htimely
        refine .closed e e' (fun b => b.attempt_id = attempt_id) .failed hget
          (fun htimely => Or.inl (hlate htimely).1) hid' hended hused rfl ?_ he hattempts
          (Or.inl hr)
        intro htimely _ b hb hunfinished
        rw [(hlate htimely).2 b hb] at hunfinished
        cases hunfinished
    · refine .closed e e' (fun b => b.attempt_id = attempt_id) .failed hget
        (fun _ => Or.inr ⟨a, hmem, hopen hfailed⟩) hid' hended hused rfl ?_ he hattempts (Or.inl hr)
      intro _ hsingle b hb hunfinished
      rw [hsingle b hb a hmem hunfinished (hopen hfailed)]
      exact decide_eq_true hkey
  · rename_i hfinal
    rw [Bool.or_eq_true, decide_eq_true_eq] at hfinal
    cases h
    let e' : Episode := { e with wrapup_state := .pending, wrapup_error := none }
    refine .retried e e' (fun b => b.attempt_id = attempt_id) hget ?_ rfl rfl rfl rfl rfl rfl
    intro htimely
    by_cases hfailed : a.status = .failed
    · left
      simpa [timely_call, hsome, ha, ← hid, hfailed, hget, hfinal] using htimely
    · exact Or.inr ⟨a, hmem, hopen hfailed⟩

theorem report_ready_wrapup {attempt_id : String} {report : EpisodeReport}
    (h : s.finish_episode_report_ready attempt_id report = some s') : WrapupStep timely s s' := by
  simp only [finish_episode_report_ready, Option.bind_eq_some_iff, Option.ite_none_left_eq_some,
    Bool.not_eq_true, Bool.not_eq_false'] at h
  obtain ⟨a, ha, e, hget, w, -, hmatch, -, h⟩ := h
  obtain ⟨hid, hget⟩ := get?_self hget
  split at h
  · split at h
    · cases h
      exact .same rfl rfl rfl
    · cases h
  · rename_i hnew
    simp only [Option.ite_none_left_eq_some, Bool.not_eq_true, Bool.not_eq_false'] at h
    obtain ⟨hopen, h⟩ := h
    obtain ⟨routes, rfl⟩ := settle_episode_eq h
    have hmem : a ∈ s.attempts e.episode_id :=
      mem_attempts.mpr ⟨(Table.get?_eq_some_iff.mp ha).1, hid.symm⟩
    simp only [report_matches, Bool.and_eq_true, decide_eq_true_eq] at hmatch
    have hreport : report.episode_id = e.episode_id := hmatch.1.1.1.2
    let e' : Episode := { e with
      status := status_for_ending report.ending, wrapup_state := .ready, wrapup_error := none }
    have hended : Ended e' := ⟨report.ending, hmatch.2, rfl⟩
    refine .closed e e' (fun b => b.attempt_id = attempt_id) .succeeded hget
      (fun _ => Or.inr ⟨a, hmem, hopen⟩) rfl hended rfl rfl ?_ rfl rfl
        (Or.inr ⟨report, Bool.eq_false_iff.mpr hnew, hreport, rfl⟩)
    intro _ hsingle b hb hunfinished
    rw [hsingle b hb a hmem hunfinished hopen]
    exact decide_eq_true (Table.key_of_get? ha)

theorem requeue_wrapup (h : s.requeue_interrupted_episode_report_allocation id = some s') :
    WrapupStep timely s s' := by
  simp only [requeue_interrupted_episode_report_allocation, Option.bind_eq_some_iff,
    Option.ite_none_left_eq_some, Bool.or_eq_true, decide_eq_true_eq, not_or, ne_eq,
    Decidable.not_not] at h
  obtain ⟨e, hget, operation_id, -, ⟨hstatus, -⟩, t, -, h⟩ := h
  obtain ⟨hid, hget⟩ := get?_self hget
  split at h
  · cases h
    exact .same rfl rfl rfl
  · simp only [Option.ite_none_left_eq_some, requeue_report] at h
    obtain ⟨-, h⟩ := h
    split at h
    · simp only [Option.ite_none_left_eq_some] at h
      obtain ⟨hrunning, h⟩ := h
      obtain ⟨e', he, hr, hattempts, hid', hended, hused, -, -⟩ := close_report_row h
      refine .closed e e' _ .failed hget
        (fun _ => Or.inl hstatus) hid' hended hused rfl ?_ he hattempts
        (Or.inl hr)
      intro _ hsingle b hb hunfinished
      -- the attempt that is current is the only open one
      cases hcurrent : s.current_attempt e.episode_id with
      | none =>
        rw [hcurrent] at hrunning
        exact absurd rfl hrunning
      | some a =>
        obtain ⟨ha, hopen⟩ := current_attempt_mem hcurrent
        rw [hsingle b hb a ha hunfinished hopen]
        simp
    · cases h
      let e' : Episode := { e with wrapup_state := .pending, wrapup_error := none }
      exact .retried e e' _ hget (fun _ => Or.inl hstatus) rfl rfl rfl rfl rfl rfl

theorem fail_unlaunchable_wrapup {diagnostic : String}
    (h : s.fail_episode_report_allocation_unlaunchable id diagnostic = some s') :
    WrapupStep timely s s' := by
  simp only [fail_episode_report_allocation_unlaunchable, Option.bind_eq_some_iff,
    Option.ite_none_left_eq_some, Bool.not_eq_true, Bool.not_eq_false'] at h
  obtain ⟨-, e, hget, w, -, operation_id, -, t, -, hbetween, h⟩ := h
  obtain ⟨hid, hget⟩ := get?_self hget
  split at h
  · split at h
    · cases h
      exact .same rfl rfl rfl
    · cases h
  · simp only [Option.ite_none_left_eq_some, Bool.or_eq_true, decide_eq_true_eq, not_or, ne_eq,
      Decidable.not_not] at h
    obtain ⟨⟨⟨⟨⟨hstatus, -⟩, -⟩, -⟩, -⟩, h⟩ := h
    obtain ⟨e', he, hr, hattempts, hid', hended, hused, -, -⟩ := close_report_row h
    refine .closed e e' _ .failed hget
      (fun _ => Or.inl hstatus) hid' hended hused rfl ?_ he hattempts
      (Or.inl hr)
    intro _ _ b hb hunfinished
    simp only [between_calls, Bool.and_eq_true, List.all_eq_true] at hbetween
    have hcalm := hbetween.2 b hb
    obtain ⟨-, hepisode⟩ := mem_attempts.mp hb
    revert hcalm hunfinished
    rw [hepisode, hid]
    cases b.status <;> simp [ReportAttemptStatus.unfinished]

/-! ### The calls -/

/-- The report calls, and the hidden allocation's own moves. -/
def report_call : EpisodeOp → Bool
  | .allocate_episode_report_attempt .. | .mark_episode_report_attempt_running ..
  | .finish_episode_report_attempt_error .. | .finish_episode_report_ready ..
  | .requeue_interrupted_episode_report_allocation ..
  | .fail_episode_report_allocation_unlaunchable .. | .transition_agent_task .. => true
  | _ => false

theorem exec_wrapup_step {op : EpisodeOp} (hcall : report_call op = true)
    (h : s.exec op = some s') : WrapupStep (fun id => timely_call id s op = true) s s' := by
  cases op with
  | allocate_episode_report_attempt => exact allocate_wrapup h
  | mark_episode_report_attempt_running => exact mark_running_wrapup h
  | finish_episode_report_attempt_error => exact attempt_error_wrapup h
  | finish_episode_report_ready => exact report_ready_wrapup h
  | requeue_interrupted_episode_report_allocation => exact requeue_wrapup h
  | fail_episode_report_allocation_unlaunchable => exact fail_unlaunchable_wrapup h
  | transition_agent_task operation_id target =>
    simp only [exec, transition_task, Option.bind_eq_some_iff, Option.ite_none_right_eq_some] at h
    obtain ⟨t, -, -, h⟩ := h
    cases h
    exact .same rfl rfl rfl
  | _ => cases hcall

/-! ### What a call preserves -/

/-- A row of the attempts with another status. -/
def restated (p : ReportAttempt → Bool) (status : ReportAttemptStatus) (a : ReportAttempt) :
    ReportAttempt :=
  if p a then { a with status := status } else a

theorem attempts_set {p : ReportAttempt → Bool} {status : ReportAttemptStatus}
    (ha : s'.report_attempts = (s.set_attempts p status).report_attempts) (id : String) :
    s'.attempts id = (s.attempts id).map (restated p status) := by
  have hitems : s'.report_attempts.items = s.report_attempts.items.map (restated p status) := by
    rw [ha]
    rfl
  rw [attempts, hitems, List.filter_map, attempts]
  congr 1
  refine List.filter_congr ?_
  intro a _
  simp only [Function.comp, restated]
  split <;> rfl

/-- Restating attempts opens none that was not open. -/
theorem AtMostOneOpen.restated {p : ReportAttempt → Bool} {status : ReportAttemptStatus}
    (h : s.AtMostOneOpen id)
    (ha : s'.report_attempts = (s.set_attempts p status).report_attempts)
    (hp : ∀ a ∈ s.attempts id, p a = true → status.unfinished = true →
      a.status.unfinished = true) : s'.AtMostOneOpen id := by
  have hopen : ∀ a ∈ s.attempts id, (EpisodeStore.restated p status a).status.unfinished = true →
      a.status.unfinished = true := by
    intro a hmem hunfinished
    unfold EpisodeStore.restated at hunfinished
    split at hunfinished
    · rename_i hpa
      exact hp a hmem hpa hunfinished
    · exact hunfinished
  intro a hmem b hmem' hopena hopenb
  rw [attempts_set ha] at hmem hmem'
  obtain ⟨a, ha', rfl⟩ := List.mem_map.mp hmem
  obtain ⟨b, hb', rfl⟩ := List.mem_map.mp hmem'
  rw [h a ha' b hb' (hopen a ha' hopena) (hopen b hb' hopenb)]

theorem ReportsCounted.rewritten {p : ReportAttempt → Bool} {status : ReportAttemptStatus}
    (h : s.ReportsCounted id)
    (ha : s'.report_attempts = (s.set_attempts p status).report_attempts)
    (hp : ∀ a ∈ s.attempts id, p a = true → status.unfinished = true →
      a.status.unfinished = true)
    (he : ∀ e, s.episodes.get? id = some e → ∃ e', s'.episodes.get? id = some e' ∧
      e'.report_attempts_used = e.report_attempts_used)
    (hr : (s'.reports.items.filter (fun r => r.episode_id = id)).length ≤ 1) :
    s'.ReportsCounted id := by
  obtain ⟨e, hget, hused⟩ := h.used
  obtain ⟨e', hget', hused'⟩ := he e hget
  refine ⟨⟨e', hget', ?_⟩, ?_, h.single.restated ha hp, hr⟩
  · rw [hused', hused, attempts_set ha, List.length_map]
  · rw [attempts_set ha, List.length_map]
    exact h.limit

/-- Writing the row of one episode, with its counter as it was. -/
theorem used_put {e e' : Episode} (hget : s.episodes.get? e.episode_id = some e)
    (hid : e'.episode_id = e.episode_id)
    (hused : e'.report_attempts_used = e.report_attempts_used)
    (he : s'.episodes = s.episodes.put e') (id : String) (f : Episode)
    (hf : s.episodes.get? id = some f) :
    ∃ f', s'.episodes.get? id = some f' ∧ f'.report_attempts_used = f.report_attempts_used := by
  rw [he, Table.get?_put]
  split
  · rename_i heq
    change id = e'.episode_id at heq
    rw [heq, hid, hget] at hf
    cases hf
    exact ⟨e', rfl, hused⟩
  · exact ⟨f, hf, rfl⟩

/-- A new report of an episode that had none is the only one. -/
theorem reports_put {report : EpisodeReport} {rows : Table EpisodeReport}
    (h : (rows.items.filter (fun r => r.episode_id = id)).length ≤ 1)
    (hnew : rows.contains report.episode_id = false) :
    ((rows.put report).items.filter (fun r => r.episode_id = id)).length ≤ 1 := by
  have hnone : rows.get? report.episode_id = none := Table.contains_eq_false_iff.mp hnew
  rw [Table.items_put_of_fresh rows hnone, List.filter_append, List.length_append]
  by_cases hid : report.episode_id = id
  · have hempty : rows.items.filter (fun r => r.episode_id = id) = [] := by
      rw [List.filter_eq_nil_iff]
      intro r hr heq
      have hkey : r.episode_id = report.episode_id := (of_decide_eq_true heq).trans hid.symm
      exact Table.get?_eq_none_iff.mp hnone r hr hkey
    rw [hempty]
    simp [hid]
  · simp only [List.filter_cons, hid, decide_false, List.filter_nil]
    simpa using h

theorem ReportsCounted.step (h : s.ReportsCounted id) (hstep : WrapupStep timely s s') :
    s'.ReportsCounted id := by
  cases hstep with
  | same he ha hr =>
    obtain ⟨e, hget, hused⟩ := h.used
    have hattempts : s'.attempts id = s.attempts id := by rw [attempts, ha, attempts]
    refine ⟨⟨e, by rw [he]; exact hget, by rw [hattempts]; exact hused⟩, ?_, ?_, ?_⟩
    · rw [hattempts]
      exact h.limit
    · intro a hmem b hmem'
      rw [hattempts] at hmem hmem'
      exact h.single a hmem b hmem'
    · rw [hr]
      exact h.report
  | allocated e a hget hstatus hawaiting hnone hlimit hfresh hid he ha hr =>
    have hitems : s'.report_attempts.items = s.report_attempts.items ++ [a] := by
      rw [ha]
      exact Table.items_put_of_fresh _ hfresh
    obtain ⟨f, hf, hused⟩ := h.used
    by_cases hown : e.episode_id = id
    · subst hown
      rw [hget] at hf
      cases hf
      have hattempts : s'.attempts e.episode_id = s.attempts e.episode_id ++ [a] := by
        rw [attempts, hitems, List.filter_append, attempts]
        simp [hid]
      let e' : Episode := { e with
        wrapup_state := .running, report_attempts_used := e.report_attempts_used + 1 }
      refine ⟨⟨e', ?_, ?_⟩, ?_, ?_, by rw [hr]; exact h.report⟩
      · rw [he]
        exact Table.get?_put_self s.episodes e'
      · rw [hattempts, List.length_append, ← hused]
        rfl
      · rw [hattempts, List.length_append, ← hused]
        exact hlimit
      · -- the new attempt is the only open one
        intro b hmem c hmem' hopen hopen'
        rw [hattempts, List.mem_append, List.mem_singleton] at hmem hmem'
        rcases hmem with hmem | rfl
        · rw [hnone b hmem] at hopen
          cases hopen
        · rcases hmem' with hmem' | rfl
          · rw [hnone c hmem'] at hopen'
            cases hopen'
          · rfl
    · have hattempts : s'.attempts id = s.attempts id := by
        rw [attempts, hitems, List.filter_append, attempts]
        simp [hid, hown]
      refine ⟨⟨f, ?_, by rw [hattempts]; exact hused⟩, ?_, ?_, by rw [hr]; exact h.report⟩
      · rw [he, Table.get?_put_ne]
        · exact hf
        · exact Ne.symm hown
      · rw [hattempts]
        exact h.limit
      · intro b hmem c hmem'
        rw [hattempts] at hmem hmem'
        exact h.single b hmem c hmem'
  | launched attempt_id a hget hopen he ha hr =>
    refine h.rewritten ha ?_ (fun e hf => ⟨e, by rw [he]; exact hf, rfl⟩)
      (by rw [hr]; exact h.report)
    intro b hmem hb _
    have hkey : (s.report_attempts.get? b.attempt_id) = some b :=
      Table.mem_items_iff.mp (mem_attempts.mp hmem).1
    rw [of_decide_eq_true hb, hget] at hkey
    cases hkey
    exact hopen
  | retried e e' p hget hawaits hid hstate hused he ha hr =>
    refine h.rewritten ha ?_ (used_put hget hid hused he id) (by rw [hr]; exact h.report)
    intro b _ _ hopen
    cases hopen
  | closed e e' p status hget hawaits hid hstatus hused hfinished hall he ha hr =>
    refine h.rewritten ha ?_ (used_put hget hid hused he id) ?_
    · intro b _ _ hopen
      rw [hfinished] at hopen
      cases hopen
    · rcases hr with hr | ⟨report, hnew, hreport, hr⟩
      · rw [hr]
        exact h.report
      · rw [hr]
        exact reports_put h.report (by rw [hreport]; exact hnew)
  | repeated e e' p hget hid hfailed hstate hending hended hused he ha hr =>
    refine h.rewritten ha ?_ (used_put hget hid hused he id) (by rw [hr]; exact h.report)
    intro b _ _ hopen
    cases hopen

/-- A wrap-up that is closed has no open attempt, and its episode has ended. -/
def SettledQuiet (s : EpisodeStore) (id : String) : Prop :=
  ∀ e, s.episodes.get? id = some e → e.wrapup_state.closed = true →
    Ended e ∧ ∀ a ∈ s.attempts id, a.status.unfinished = false

/-- A closed episode awaits nothing that is timely. -/
theorem SettledQuiet.not_awaiting {e : Episode} (h : s.SettledQuiet e.episode_id)
    (hget : s.episodes.get? e.episode_id = some e) (hclosed : e.wrapup_state.closed = true)
    (htimely : timely e.episode_id) : ¬ Awaits (timely e.episode_id) s e := by
  obtain ⟨hended, hquiet⟩ := h e hget hclosed
  intro hawaits
  rcases hawaits htimely with hwrapping | ⟨a, ha, hopen⟩
  · exact hended.not_wrapping hwrapping
  · rw [hquiet a ha] at hopen
    cases hopen

/-- Attempts that are finished stay finished when others are. -/
theorem quiet_restated {p : ReportAttempt → Bool} {status : ReportAttemptStatus}
    (ha : s'.report_attempts = (s.set_attempts p status).report_attempts)
    (h : ∀ a ∈ s.attempts id, (restated p status a).status.unfinished = false) :
    ∀ a ∈ s'.attempts id, a.status.unfinished = false := by
  intro a hmem
  rw [attempts_set ha] at hmem
  obtain ⟨b, hb, rfl⟩ := List.mem_map.mp hmem
  exact h b hb

/-- The verdict of an episode: its wrap-up state and its status. -/
def Verdict (s : EpisodeStore) (id : String) (e : Episode) : Prop :=
  ∃ e', s.episodes.get? id = some e' ∧ e'.wrapup_state = e.wrapup_state ∧ e'.status = e.status

/-- A timely call leaves the verdict of an episode whose wrap-up is closed. -/
theorem SettledQuiet.kept {e : Episode} (h : s.SettledQuiet id) (htimely : timely id)
    (hstep : WrapupStep timely s s') (hget : s.episodes.get? id = some e)
    (hclosed : e.wrapup_state.closed = true) : s'.Verdict id e := by
  have hother {f f' : Episode} (hid : f'.episode_id = f.episode_id)
      (he : s'.episodes = s.episodes.put f') (hne : f.episode_id ≠ id) : s'.Verdict id e := by
    refine ⟨e, ?_, rfl, rfl⟩
    rw [he, Table.get?_put_ne]
    · exact hget
    · change id ≠ f'.episode_id
      rw [hid]
      exact Ne.symm hne
  have hsame {f : Episode} (hf : s.episodes.get? f.episode_id = some f)
      (hown : f.episode_id = id) : f = e := by
    rw [hown, hget] at hf
    exact (Option.some.inj hf).symm
  cases hstep with
  | same he _ _ => exact ⟨e, by rw [he]; exact hget, rfl, rfl⟩
  | allocated f a hf hstatus _ _ _ _ _ he _ _ =>
    by_cases hown : f.episode_id = id
    · obtain rfl := hsame hf hown
      exact absurd hstatus (h f hget hclosed).1.not_wrapping
    · let f' : Episode := { f with
        wrapup_state := .running, report_attempts_used := f.report_attempts_used + 1 }
      have hid : f'.episode_id = f.episode_id := rfl
      exact hother hid he hown
  | launched _ _ _ _ he _ _ => exact ⟨e, by rw [he]; exact hget, rfl, rfl⟩
  | retried f f' p hf hawaits hid _ _ he _ _ =>
    by_cases hown : f.episode_id = id
    · obtain rfl := hsame hf hown
      subst hown
      exact absurd hawaits (h.not_awaiting hf hclosed htimely)
    · exact hother hid he hown
  | closed f f' p status hf hawaits hid _ _ _ _ he _ _ =>
    by_cases hown : f.episode_id = id
    · obtain rfl := hsame hf hown
      subst hown
      exact absurd hawaits (h.not_awaiting hf hclosed htimely)
    · exact hother hid he hown
  | repeated f f' p hf hid hfailed hstate hending hended _ he _ _ =>
    by_cases hown : f.episode_id = id
    · -- the error is reported again: the status is that of the same ending
      obtain rfl := hsame hf hown
      obtain ⟨x, hx, hstatus⟩ := (h f hget hclosed).1
      obtain ⟨y, hy, hstatus'⟩ := hended
      rw [hending, hx] at hy
      cases hy
      refine ⟨f', ?_, hstate.trans hfailed.symm, hstatus'.trans hstatus.symm⟩
      have hkey : (Keyed.key f' : String) = id := hid.trans hown
      rw [he, ← hkey]
      exact Table.get?_put_self _ _
    · exact hother hid he hown

/-- A call that closes no attempt but its own leaves finished attempts finished. -/
theorem quiet_finished {p : ReportAttempt → Bool} {status : ReportAttemptStatus}
    (ha : s'.report_attempts = (s.set_attempts p status).report_attempts)
    (hfinished : status.unfinished = false)
    (h : ∀ a ∈ s.attempts id, a.status.unfinished = false) :
    ∀ a ∈ s'.attempts id, a.status.unfinished = false := by
  refine quiet_restated ha ?_
  intro b hb
  unfold restated
  split
  · exact hfinished
  · exact h b hb

/-- An episode whose wrap-up was closed before a timely call has no open attempt after it. -/
theorem SettledQuiet.stays_quiet {f : Episode} (h : s.SettledQuiet id)
    (hf : s.episodes.get? id = some f) (hclosed : f.wrapup_state.closed = true)
    (hstep : WrapupStep timely s s') : ∀ a ∈ s'.attempts id, a.status.unfinished = false := by
  obtain ⟨hended, hquiet⟩ := h f hf hclosed
  cases hstep with
  | same _ ha _ =>
    rw [attempts, ha]
    exact hquiet
  | allocated g a hg hwrapping _ _ _ hfresh hid _ ha _ =>
    have hown : g.episode_id ≠ id := by
      intro hown
      rw [hown, hf] at hg
      cases hg
      exact hended.not_wrapping hwrapping
    intro b hb
    rw [attempts, ha, Table.items_put_of_fresh _ hfresh, List.filter_append] at hb
    have hb : b ∈ s.attempts id := by simpa [attempts, hid, hown] using hb
    exact hquiet b hb
  | launched attempt_id a ha hopen _ hattempts _ =>
    refine quiet_restated hattempts ?_
    intro b hb
    have hmiss : b.attempt_id ≠ attempt_id := by
      intro heq
      have hkey : s.report_attempts.get? b.attempt_id = some b :=
        Table.mem_items_iff.mp (mem_attempts.mp hb).1
      rw [heq, ha] at hkey
      cases hkey
      rw [hquiet a hb] at hopen
      cases hopen
    unfold restated
    rw [if_neg (by simpa using hmiss)]
    exact hquiet b hb
  | retried _ _ p _ _ _ _ _ _ hattempts _ => exact quiet_finished hattempts rfl hquiet
  | closed _ _ p status _ _ _ _ _ hfinished _ _ hattempts _ =>
    exact quiet_finished hattempts hfinished hquiet
  | repeated _ _ p _ _ _ _ _ _ _ _ hattempts _ => exact quiet_finished hattempts rfl hquiet

/-- A timely call keeps closed wrap-ups quiet. -/
theorem SettledQuiet.step (h : s.SettledQuiet id) (hcounted : s.ReportsCounted id)
    (htimely : timely id) (hstep : WrapupStep timely s s') : s'.SettledQuiet id := by
  intro e hget hclosed
  obtain ⟨f, hf, -⟩ := hcounted.used
  -- the row was not written, or it is the one the call wrote
  have hcases {g g' : Episode} (hg : s.episodes.get? g.episode_id = some g)
      (hid : g'.episode_id = g.episode_id) (he : s'.episodes = s.episodes.put g') :
      (f = e ∧ g.episode_id ≠ id) ∨ (g.episode_id = id ∧ f = g ∧ e = g') := by
    by_cases hown : g.episode_id = id
    · right
      have hkey : (Keyed.key g' : String) = id := hid.trans hown
      rw [he, ← hkey, Table.get?_put_self] at hget
      rw [hown, hf] at hg
      exact ⟨hown, Option.some.inj hg, (Option.some.inj hget).symm⟩
    · left
      rw [he, Table.get?_put_ne, hf] at hget
      · exact ⟨Option.some.inj hget, hown⟩
      · change id ≠ g'.episode_id
        rw [hid]
        exact Ne.symm hown
  have hunwritten (heq : f = e) : Ended e ∧ ∀ a ∈ s'.attempts id, a.status.unfinished = false := by
    subst heq
    exact ⟨(h f hf hclosed).1, h.stays_quiet hf hclosed hstep⟩
  cases hstep with
  | same he _ _ =>
    rw [he, hf] at hget
    exact hunwritten (Option.some.inj hget)
  | allocated g a hg _ _ _ _ _ _ he _ _ =>
    let g' : Episode := { g with
      wrapup_state := .running, report_attempts_used := g.report_attempts_used + 1 }
    have hid : g'.episode_id = g.episode_id := rfl
    rcases hcases hg hid he with ⟨heq, -⟩ | ⟨-, -, heq⟩
    · exact hunwritten heq
    · rw [heq] at hclosed
      cases hclosed
  | launched _ _ _ _ he _ _ =>
    rw [he, hf] at hget
    exact hunwritten (Option.some.inj hget)
  | retried g g' p hg _ hid hstate _ he _ _ =>
    rcases hcases hg hid he with ⟨heq, -⟩ | ⟨-, -, heq⟩
    · exact hunwritten heq
    · rw [heq, hstate] at hclosed
      cases hclosed
  | closed g g' p status hg _ hid hended _ hfinished hall he hattempts _ =>
    rcases hcases hg hid he with ⟨heq, -⟩ | ⟨hown, -, heq⟩
    · exact hunwritten heq
    · rw [heq]
      refine ⟨hended, quiet_restated hattempts ?_⟩
      subst hown
      intro b hb
      unfold restated
      split
      · exact hfinished
      · rename_i hmiss
        by_contra hopen
        exact hmiss (hall htimely hcounted.single b hb (by simpa using hopen))
  | repeated g g' p hg hid hfailed hstate _ hended _ he hattempts _ =>
    rcases hcases hg hid he with ⟨heq, -⟩ | ⟨-, heq, heq'⟩
    · exact hunwritten heq
    · have hbefore : f.wrapup_state.closed = true := by
        rw [heq, hfailed]
        rfl
      rw [heq']
      exact ⟨hended, quiet_finished hattempts rfl (h f hf hbefore).2⟩

/-! ### Runs -/

/-- The store just after wrap-up of an episode began. -/
structure WrapupBegun (s : EpisodeStore) (id : String) : Prop where
  row : ∃ e, s.episodes.get? id = some e ∧ e.status = .wrapping_up ∧ e.wrapup_state = .pending ∧
    e.report_attempts_used = 0
  no_attempt : s.attempts id = []
  no_report : s.reports.get? id = none

theorem WrapupBegun.counted (h : s.WrapupBegun id) : s.ReportsCounted id := by
  obtain ⟨e, hget, -, -, hused⟩ := h.row
  refine ⟨⟨e, hget, by rw [h.no_attempt, hused]; rfl⟩, by rw [h.no_attempt]; decide, ?_, ?_⟩
  · intro a hmem
    rw [h.no_attempt] at hmem
    cases hmem
  · have hnone : s.reports.items.filter (fun r => r.episode_id = id) = [] := by
      rw [List.filter_eq_nil_iff]
      intro r hr heq
      exact Table.get?_eq_none_iff.mp h.no_report r hr (of_decide_eq_true heq)
    rw [hnone]
    exact Nat.zero_le _

theorem WrapupBegun.quiet (h : s.WrapupBegun id) : s.SettledQuiet id := by
  intro e hget hclosed
  obtain ⟨f, hf, -, hpending, -⟩ := h.row
  rw [hget] at hf
  cases hf
  rw [hpending] at hclosed
  cases hclosed

theorem ReportsCounted.run {ops : List EpisodeOp} (hcalls : ∀ op ∈ ops, report_call op = true)
    (h : s.ReportsCounted id) : (s.run ops).ReportsCounted id := by
  induction ops generalizing s with
  | nil => exact h
  | cons op ops ih =>
    refine ih (fun op' hop => hcalls op' (List.mem_cons_of_mem _ hop)) ?_
    rcases s.apply_cases op with heq | hexec
    · rw [heq]
      exact h
    · exact h.step (exec_wrapup_step (hcalls op List.mem_cons_self) hexec)

/-- The verdict of a closed wrap-up is kept along a timely run. -/
theorem SettledQuiet.run_kept {ops : List EpisodeOp} {e : Episode}
    (hcalls : ∀ op ∈ ops, report_call op = true)
    (htimely : Along apply (fun s op => timely_call id s op = true) s ops)
    (h : s.SettledQuiet id) (hcounted : s.ReportsCounted id) (hverdict : s.Verdict id e)
    (hclosed : e.wrapup_state.closed = true) : (s.run ops).Verdict id e := by
  induction ops generalizing s with
  | nil => exact hverdict
  | cons op ops ih =>
    have hrest := fun op' hop => hcalls op' (List.mem_cons_of_mem op hop)
    rcases s.apply_cases op with heq | hexec
    · have htail := htimely.2
      rw [heq] at htail
      change (run (s.apply op) ops).Verdict id e
      rw [heq]
      exact ih hrest htail h hcounted hverdict
    · have hstep := exec_wrapup_step (hcalls op List.mem_cons_self) hexec
      obtain ⟨f, hf, hstate, hstatus⟩ := hverdict
      have hclosedf : f.wrapup_state.closed = true := by
        rw [hstate]
        exact hclosed
      obtain ⟨f', hf', hstate', hstatus'⟩ := h.kept htimely.1 hstep hf hclosedf
      exact ih hrest htimely.2 (h.step hcounted htimely.1 hstep) (hcounted.step hstep)
        ⟨f', hf', hstate'.trans hstate, hstatus'.trans hstatus⟩

/-- The invariants at the end of a timely run. -/
theorem SettledQuiet.run {ops : List EpisodeOp} (hcalls : ∀ op ∈ ops, report_call op = true)
    (htimely : Along apply (fun s op => timely_call id s op = true) s ops)
    (h : s.SettledQuiet id) (hcounted : s.ReportsCounted id) : (s.run ops).SettledQuiet id := by
  induction ops generalizing s with
  | nil => exact h
  | cons op ops ih =>
    have hrest := fun op' hop => hcalls op' (List.mem_cons_of_mem op hop)
    rcases s.apply_cases op with heq | hexec
    · have htail := htimely.2
      rw [heq] at htail
      change (run (s.apply op) ops).SettledQuiet id
      rw [heq]
      exact ih hrest htail h hcounted
    · have hstep := exec_wrapup_step (hcalls op List.mem_cons_self) hexec
      exact ih hrest htimely.2 (h.step hcounted htimely.1 hstep) (hcounted.step hstep)

end EpisodeStore

open EpisodeStore

/-- Whatever report calls follow the beginning of a wrap-up, repeated and late ones included, the
    counts hold: at most three attempts, as many as the episode says it used, at most one of them
    open, and at most one report. If no call reports late that an attempt failed, a wrap-up that is
    ready, failed or skipped keeps its state, and its episode keeps its status. -/
theorem report_wrapup_machine {s : EpisodeStore} {id : String} (hbegun : s.WrapupBegun id)
    {ops : List EpisodeOp} (hcalls : ∀ op ∈ ops, report_call op = true) :
    (∀ k, (s.run (ops.take k)).ReportsCounted id)
    ∧ (Along EpisodeStore.apply (fun s op => timely_call id s op = true) s ops →
      ∀ i j, i ≤ j → ∀ e, (s.run (ops.take i)).episodes.get? id = some e →
        e.wrapup_state.closed = true → (s.run (ops.take j)).Verdict id e) := by
  have hcounted (k : Nat) : (s.run (ops.take k)).ReportsCounted id :=
    ReportsCounted.run (fun op hop => hcalls op (List.mem_of_mem_take hop)) hbegun.counted
  refine ⟨hcounted, ?_⟩
  intro htimely i j hij e hget hclosed
  have hquiet : (s.run (ops.take i)).SettledQuiet id :=
    SettledQuiet.run (fun op hop => hcalls op (List.mem_of_mem_take hop)) (htimely.take i)
      hbegun.quiet hbegun.counted
  -- the part of the run between the two states is timely as well
  have hrest : Along EpisodeStore.apply (fun s op => timely_call id s op = true)
      (s.run (ops.take i)) ((ops.drop i).take (j - i)) := by
    rw [← List.take_append_drop i ops] at htimely
    exact (along_append.mp htimely).2.take (j - i)
  have hrun : s.run (ops.take j) = (s.run (ops.take i)).run ((ops.drop i).take (j - i)) :=
    run_take_of_le hij
  rw [hrun]
  exact SettledQuiet.run_kept
    (fun op hop => hcalls op (List.mem_of_mem_drop (List.mem_of_mem_take hop)))
    hrest hquiet (hcounted i) ⟨e, hget, rfl, rfl⟩ hclosed

/-- An episode whose wrap-up began: a node task concluded it, the hidden task `h` is to report. -/
def sample_wrapup_run : List EpisodeOp :=
  [.create_episode_with_invocation
    { episode_id := "e", project_id := "p", mode := .experiment_loop, control_node_id := some "n",
      invocation_ceiling := 3, authorized_by := some "human" }
    { operation_id := "w", project_id := "p", kind := .node_chat, episode_id := some "e" } true,
   .begin_episode_wrapup
    { episode_id := "e", ending := .completed, concluding_operation_id := some "w",
      allocation_operation_id := some "h", state := .pending }
    { operation_id := "h", project_id := "p", kind := .episode_report, visible := false,
      episode_id := some "e", parent_operation_id := some "w" } true]

theorem sample_wrapup_begun : WrapupBegun (EpisodeStore.run {} sample_wrapup_run) "e" :=
  ⟨⟨_, rfl, rfl, rfl, rfl⟩, rfl, rfl⟩

/-- A report attempt fails for good, and its error is reported once more. -/
def repeated_error_calls (force_final : Bool) : List EpisodeOp :=
  [.allocate_episode_report_attempt "e" "a",
   .finish_episode_report_attempt_error "a" "no report" true,
   .finish_episode_report_attempt_error "a" "no report" force_final]

theorem repeated_final_error_kept :
    ∃ e, ((EpisodeStore.run {} sample_wrapup_run).run
        ((repeated_error_calls true).take 2)).episodes.get? "e" = some e
      ∧ e.wrapup_state = .failed
      ∧ ((EpisodeStore.run {} sample_wrapup_run).run
        ((repeated_error_calls true).take 3)).Verdict "e" e := by
  obtain ⟨e, hget, hfailed⟩ : ∃ e, ((EpisodeStore.run {} sample_wrapup_run).run
      ((repeated_error_calls true).take 2)).episodes.get? "e" = some e
        ∧ e.wrapup_state = .failed := ⟨_, rfl, rfl⟩
  have hcalls : ∀ op ∈ repeated_error_calls true, report_call op = true := by decide
  have htimely : Along EpisodeStore.apply (fun s op => timely_call "e" s op = true)
      (EpisodeStore.run {} sample_wrapup_run) (repeated_error_calls true) :=
    ⟨by decide, by decide, by decide, trivial⟩
  exact ⟨e, hget, hfailed, (report_wrapup_machine sample_wrapup_begun hcalls).2 htimely 2 3
    (by decide) e hget (by rw [hfailed]; rfl)⟩

/-- A late report of an error that is not final opens a wrap-up that had failed. -/
theorem failed_wrapup_reopened :
    ¬ ∀ (ops : List EpisodeOp), (∀ op ∈ ops, report_call op = true) →
      ∀ i j, i ≤ j → ∀ e,
        ((EpisodeStore.run {} sample_wrapup_run).run (ops.take i)).episodes.get? "e" = some e →
        e.wrapup_state.closed = true →
        ((EpisodeStore.run {} sample_wrapup_run).run (ops.take j)).Verdict "e" e := by
  intro h
  obtain ⟨e, hget, hfailed⟩ : ∃ e, ((EpisodeStore.run {} sample_wrapup_run).run
      ((repeated_error_calls false).take 2)).episodes.get? "e" = some e
        ∧ e.wrapup_state = .failed := ⟨_, rfl, rfl⟩
  have hcalls : ∀ op ∈ repeated_error_calls false, report_call op = true := by decide
  obtain ⟨e', hget', hstate, -⟩ :=
    h (repeated_error_calls false) hcalls 2 3 (by decide) e hget (by rw [hfailed]; rfl)
  have hpending : (((EpisodeStore.run {} sample_wrapup_run).run
      ((repeated_error_calls false).take 3)).episodes.get? "e").map Episode.wrapup_state
        = some .pending := by decide
  rw [hget', Option.map_some, hstate, hfailed] at hpending
  cases hpending

end ResearchGraph
