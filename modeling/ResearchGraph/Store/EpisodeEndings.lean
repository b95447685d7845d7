import ResearchGraph.Store.Episodes
import ResearchGraph.Report

/-! # Endings, Stop and reports

    The operations that stop an episode, fence its ending, and generate or skip
    its report. Each is one transaction: `none` is a refusal that leaves the
    store as it was.
-/

namespace ResearchGraph

open Lib

namespace EpisodeStore

variable (s : EpisodeStore)

/-! ### Stop and ending fences -/

/-- `_request_episode_stop_in_connection`. -/
def request_episode_stop (episode_id : String) (now : Int) : Option EpisodeStore :=
  (s.episodes.get? episode_id).bind fun e =>
    if e.ending = some .stopped && e.wrapup_state = .skipped then some s
    else if !e.status.stoppable then none
    else if s.wrapups.contains episode_id then none
    else if e.stop_requested_at.isSome then some s
    else some (s.set_episode { e with status := .stopping, stop_requested_at := some now })

/-- `_fence_episode_ending_in_connection`. -/
def fence_episode_ending (episode_id : String) (ending : EpisodeEnding)
    (diagnostic : Option String) : Option EpisodeStore :=
  if ending = .stopped then none
  else (s.episodes.get? episode_id).bind fun e =>
    if e.ending.isSome then
      if e.ending = some ending && e.ending_diagnostic = diagnostic then some s else none
    else if e.stop_requested_at.isSome || e.status = .stopping then none
    else if !e.status.operational then none
    else some (s.set_episode
      { e with status := .wrapping_up, ending := some ending, ending_diagnostic := diagnostic })

/-- The part of `guard_auto_research_finish` after its effect id was found to be new. `blocked`
    says whether `_auto_research_finish_blockers` names a blocker. -/
def fence_finish (e : Episode) (receipt : FinishReceipt) (diagnostic : Option String)
    (blocked : Bool) : Option EpisodeStore :=
  if e.ending.isSome then
    if e.ending = some .completed && e.ending_diagnostic = diagnostic then
      some { s with finish_receipts := s.finish_receipts ++ [receipt] }
    else none
  else if e.stop_requested_at.isSome || e.status = .stopping then none
  else if !e.status.operational then none
  else if blocked then some { s with finish_receipts := s.finish_receipts ++ [receipt] }
  else some ({ s with finish_receipts := s.finish_receipts ++ [receipt] }.set_episode
    { e with
      status := .wrapping_up, ending := some .completed, ending_diagnostic := diagnostic })

/-- `guard_auto_research_finish`. -/
def guard_auto_research_finish (receipt : FinishReceipt) (diagnostic : Option String)
    (blocked : Bool) : Option EpisodeStore :=
  if blank receipt.effect_id || blank receipt.actor_operation_id then none
  else if s.finish_receipts.any (fun r => r.effect_id = receipt.effect_id) then
    if s.finish_receipts.contains receipt then some s else none
  else (s.load_auto_research_episode receipt.episode_id).bind fun e =>
    s.fence_finish e receipt diagnostic blocked

/-- `_terminalize_auto_research_child_experiment_with_notice`, the route it closes. -/
def terminalize_child_experiment (child_episode_id : String) : Option EpisodeStore :=
  match s.child_experiments.get? child_episode_id with
  | none => some s
  | some route =>
    if route.state = .running then
      some { s with child_experiments := s.child_experiments.put { route with state := .terminal } }
    else if route.state = .terminal then some s
    else none

/-- Write the settled row of an episode and close its route. -/
def settle_episode (e : Episode) : Option EpisodeStore :=
  (s.set_episode e).terminalize_child_experiment e.episode_id

/-! ### Wrap-up -/

/-- `_wrapup_fence_matches`. -/
def wrapup_fence_matches (stored requested : EpisodeWrapup) : Bool :=
  stored.episode_id = requested.episode_id && stored.ending = requested.ending
    && stored.concluding_operation_id = requested.concluding_operation_id
    && stored.allocation_operation_id = requested.allocation_operation_id
    && stored.restart_fence = requested.restart_fence

/-- `_validate_new_wrapup`. The frozen provider fields compared with the hidden task are part of
    `restart_fence`. -/
def validate_new_wrapup (wrapup : EpisodeWrapup) (task : AgentTaskRecord) : Bool :=
  wrapup.ending ≠ .stopped && wrapup.state = .pending
    && wrapup.allocation_operation_id = some task.operation_id
    && task.kind = .episode_report && !task.visible && wrapup.concluding_operation_id.isSome
    && task.parent_operation_id = wrapup.concluding_operation_id
    && task.episode_id = some wrapup.episode_id

/-- The concluding task of a wrap-up is a visible task of its episode. -/
def concluding_task_visible (wrapup : EpisodeWrapup) : Bool :=
  wrapup.concluding_operation_id.all fun operation_id =>
    (s.tasks.get? operation_id).any fun t =>
      t.episode_id = some wrapup.episode_id && t.visible && t.kind ≠ .episode_report

/-- `begin_episode_wrapup`. -/
def begin_episode_wrapup (wrapup : EpisodeWrapup) (task : AgentTaskRecord) (bound : Bool) :
    Option EpisodeStore :=
  if !validate_new_wrapup wrapup task then none
  else (s.episodes.get? wrapup.episode_id).bind fun e =>
    if !e.status.endable then none
    else if task.project_id ≠ e.project_id then none
    else if s.wrapups.contains wrapup.episode_id then
      if (s.wrapups.get? wrapup.episode_id).any (fun w => wrapup_fence_matches w wrapup) then some s
      else none
    else if e.ending.isSome
        && (e.ending ≠ some wrapup.ending || e.ending_diagnostic ≠ wrapup.diagnostic) then none
    else if !s.concluding_task_visible wrapup then none
    else (s.insert_agent_task task bound false).bind fun s =>
      some ({ s with wrapups := s.wrapups.put wrapup }.set_episode
        { e with
          status := .wrapping_up, ending := some wrapup.ending,
          ending_diagnostic := wrapup.diagnostic, wrapup_state := .pending, wrapup_error := none })

/-- `end_episode_without_report`. -/
def end_episode_without_report (episode_id : String) (ending : EpisodeEnding)
    (diagnostic : Option String) : Option EpisodeStore :=
  if ending = .stopped then none
  else (s.episodes.get? episode_id).bind fun e =>
    if s.wrapups.contains episode_id then none
    else if e.ending.isSome
      && (e.ending ≠ some ending || e.ending_diagnostic ≠ diagnostic) then none
    else if e.stop_requested_at.isSome || e.status = .stopping then none
    else if e.status = status_for_ending ending then some s
    else if !e.status.endable then none
    else s.settle_episode
      { e with
        status := status_for_ending ending, ending := some ending,
        ending_diagnostic := diagnostic, wrapup_state := .not_started, wrapup_error := none }

/-- `fail_episode_wrapup_unlaunchable`. Unlike its siblings it writes the ending of the wrap-up
    without reading the one the episode may already have. -/
def fail_episode_wrapup_unlaunchable (wrapup : EpisodeWrapup) (ending_diagnostic : Option String) :
    Option EpisodeStore :=
  if wrapup.ending = .stopped || wrapup.state ≠ .failed || wrapup.allocation_operation_id.isSome
      || (wrapup.diagnostic.isNone || wrapup.diagnostic = some "") then none
  else (s.episodes.get? wrapup.episode_id).bind fun e =>
    if s.wrapups.contains wrapup.episode_id then
      if s.wrapups.get? wrapup.episode_id = some wrapup then some s else none
    else if !e.status.endable then none
    else if !s.concluding_task_visible wrapup then none
    else { s with wrapups := s.wrapups.put wrapup }.settle_episode
      { e with
        status := status_for_ending wrapup.ending, ending := some wrapup.ending,
        ending_diagnostic := ending_diagnostic, wrapup_state := .failed,
        wrapup_error := wrapup.diagnostic }

/-- The newest paid invocation of an episode. -/
def last_invocation (episode_id : String) : Option String :=
  (latest (fun a b => decide (a.invocation_number ≤ b.invocation_number))
    (s.episode_invocations.filter (fun r => r.episode_id = episode_id))).map
      EpisodeInvocation.operation_id

/-- `mark_episode_stop_skipped`. -/
def mark_episode_stop_skipped (episode_id : String) (diagnostic : Option String) (now : Int) :
    Option EpisodeStore :=
  (s.episodes.get? episode_id).bind fun e =>
    if e.ending = some .stopped && e.wrapup_state = .skipped then some s
    else if s.wrapups.contains episode_id then none
    else if !e.status.stoppable then none
    else { s with
      wrapups := s.wrapups.put
        { episode_id := episode_id, ending := .stopped,
          concluding_operation_id := s.last_invocation episode_id,
          state := .skipped, diagnostic := diagnostic } }.settle_episode
      { e with
        status := .stopped, stop_requested_at := some (e.stop_requested_at.getD now),
        ending := some .stopped, ending_diagnostic := diagnostic, wrapup_state := .skipped,
        wrapup_error := none }

/-! ### Report attempts -/

/-- `_REPORT_ATTEMPT_LIMIT`. -/
def report_attempt_limit : Nat := 3

/-- `UPDATE episode_wrapups SET state = ?, diagnostic = ? WHERE episode_id = ?`. -/
def set_wrapup (episode_id : String) (state : EpisodeWrapupState) (diagnostic : Option String) :
    EpisodeStore :=
  { s with
    wrapups := s.wrapups.update
      (fun w => if w.episode_id = episode_id then
        { w with state := state, diagnostic := diagnostic } else w)
      (by
        intro w
        show (if w.episode_id = episode_id then { w with state := state, diagnostic := diagnostic }
          else w).episode_id = w.episode_id
        split <;> rfl) }

/-- `UPDATE episode_wrapups SET state = ? WHERE episode_id = ?`. -/
def set_wrapup_state (episode_id : String) (state : EpisodeWrapupState) : EpisodeStore :=
  { s with
    wrapups := s.wrapups.update
      (fun w => if w.episode_id = episode_id then { w with state := state } else w)
      (by
        intro w
        show (if w.episode_id = episode_id then { w with state := state } else w).episode_id
          = w.episode_id
        split <;> rfl) }

/-- `UPDATE episode_report_attempts SET status = ? WHERE ..`. -/
def set_attempts (p : ReportAttempt → Bool) (status : ReportAttemptStatus) : EpisodeStore :=
  { s with
    report_attempts := s.report_attempts.update
      (fun a => if p a then { a with status := status } else a)
      (by
        intro a
        show (if p a then { a with status := status } else a).attempt_id = a.attempt_id
        split <;> rfl) }

/-- An attempt of the episode that its provider may still answer. -/
def current_attempt (episode_id : String) : Option ReportAttempt :=
  s.report_attempts.items.reverse.find?
    (fun a => a.episode_id = episode_id && a.status.unfinished)

/-- `allocate_episode_report_attempt`. -/
def allocate_episode_report_attempt (episode_id attempt_id : String) : Option EpisodeStore :=
  (s.episodes.get? episode_id).bind fun e =>
    (s.wrapups.get? episode_id).bind fun w =>
      w.allocation_operation_id.bind fun operation_id =>
        if e.status ≠ .wrapping_up || !e.wrapup_state.awaiting || !w.state.awaiting then none
        else if (s.current_attempt episode_id).isSome then some s
        else if report_attempt_limit ≤ e.report_attempts_used then none
        else if s.report_attempts.contains attempt_id then none
        else some ({ s with
          report_attempts := s.report_attempts.put
            { attempt_id := attempt_id, episode_id := episode_id,
              attempt_number := e.report_attempts_used + 1,
              allocation_operation_id := operation_id }
          wrapups := s.wrapups.put { w with state := .running } }.set_episode
          { e with wrapup_state := .running, report_attempts_used := e.report_attempts_used + 1 })

/-- `mark_episode_report_attempt_running`. -/
def mark_episode_report_attempt_running (attempt_id : String) : Option EpisodeStore :=
  (s.report_attempts.get? attempt_id).bind fun a =>
    if !a.status.unfinished then none
    else some ((s.set_attempts (fun b => b.attempt_id = attempt_id) .running).set_task_status
      a.allocation_operation_id .running)

/-- Close wrap-up with an error: the episode takes the status of its ending. -/
def close_report (e : Episode) (operation_id : String) (error : String) : Option EpisodeStore :=
  e.ending.bind fun ending =>
    ((s.set_wrapup e.episode_id .failed (some error)).set_task_status operation_id
      .failed).settle_episode
      { e with
        status := status_for_ending ending, wrapup_state := .failed, wrapup_error := some error }

/-- `_finish_episode_report_attempt_error`. -/
def finish_episode_report_attempt_error (attempt_id error : String) (force_final : Bool) :
    Option EpisodeStore :=
  if blank error then none
  else (s.report_attempts.get? attempt_id).bind fun a =>
    if a.status = .succeeded then none
    else (s.episodes.get? a.episode_id).bind fun e =>
      if force_final || decide (report_attempt_limit ≤ a.attempt_number) then
        (s.set_attempts (fun b => b.attempt_id = attempt_id) .failed).close_report e
          a.allocation_operation_id error
      else some (((s.set_attempts (fun b => b.attempt_id = attempt_id) .failed).set_wrapup_state
        e.episode_id .pending).set_episode
          { e with wrapup_state := .pending, wrapup_error := none })

/-- The report names its attempt, its allocation and the ending of its episode. -/
def report_matches (a : ReportAttempt) (e : Episode) (w : EpisodeWrapup) (report : EpisodeReport) :
    Bool :=
  report.attempt_id = a.attempt_id && report.episode_id = e.episode_id
    && report.allocation_operation_id = a.allocation_operation_id
    && w.allocation_operation_id = some report.allocation_operation_id
    && e.ending = some report.ending

/-- `finish_episode_report_ready`. -/
def finish_episode_report_ready (attempt_id : String) (report : EpisodeReport) :
    Option EpisodeStore :=
  (s.report_attempts.get? attempt_id).bind fun a =>
    (s.episodes.get? a.episode_id).bind fun e =>
      (s.wrapups.get? a.episode_id).bind fun w =>
        if !report_matches a e w report then none
        else if e.ending = some .stopped then none
        else if s.reports.contains e.episode_id then
          if s.reports.get? e.episode_id = some report then some s else none
        else if !a.status.unfinished then none
        else ((({ s with reports := s.reports.put report }.set_attempts
          (fun b => b.attempt_id = attempt_id) .succeeded).set_task_status
          report.allocation_operation_id .succeeded).set_wrapup e.episode_id .ready
          none).settle_episode
          { e with
            status := status_for_ending report.ending, wrapup_state := .ready,
            wrapup_error := none }

/-- The hidden report allocation of an episode. -/
def report_task (episode_id operation_id : String) : Option AgentTaskRecord :=
  (s.tasks.get? operation_id).filter fun t =>
    t.episode_id = some episode_id && t.kind = .episode_report && !t.visible

/-- The diagnostic of a report call that a restart or a shutdown cut off. -/
def requeue_diagnostic (prior : AgentTaskStatus) : String :=
  if prior = .interrupted then "The report provider call was interrupted by an RCP restart."
  else "The report provider call was paused during RCP shutdown."

/-- The two ends of `requeue_interrupted_episode_report_allocation`: the third attempt closes
    wrap-up, an earlier one is retried. -/
def requeue_report (e : Episode) (t : AgentTaskRecord) : Option EpisodeStore :=
  let current := s.current_attempt e.episode_id
  if decide (report_attempt_limit ≤ e.report_attempts_used)
      && !current.any (fun a => a.status = .queued) then
    if !current.any (fun a => a.status = .running) then none
    else (s.set_attempts (fun b => some b.attempt_id = current.map ReportAttempt.attempt_id)
      .failed).close_report e t.operation_id (requeue_diagnostic t.status)
  else some ((((s.set_attempts (fun b => b.status = .running
      && some b.attempt_id = current.map ReportAttempt.attempt_id) .failed).set_task_status
      t.operation_id .queued).set_wrapup e.episode_id .pending none).set_episode
      { e with wrapup_state := .pending, wrapup_error := none })

/-- `requeue_interrupted_episode_report_allocation`. -/
def requeue_interrupted_episode_report_allocation (episode_id : String) : Option EpisodeStore :=
  (s.episodes.get? episode_id).bind fun e =>
    ((s.wrapups.get? episode_id).bind EpisodeWrapup.allocation_operation_id).bind
      fun operation_id =>
        if e.status ≠ .wrapping_up || !e.wrapup_state.awaiting then none
        else (s.report_task episode_id operation_id).bind fun t =>
          if t.status = .queued then some s
          else if t.status ≠ .interrupted && t.status ≠ .paused then none
          else s.requeue_report e t

/-- The attempts of an episode allow its allocation to be failed: one may be queued and none was
    launched. -/
def between_calls (e : Episode) : Bool :=
  let attempts := s.report_attempts.items.filter (fun a => a.episode_id = e.episode_id)
  attempts.length = e.report_attempts_used
    && decide ((attempts.filter (fun a => a.status = .queued)).length ≤ 1)
    && attempts.all (fun a => a.status ≠ .running && a.status ≠ .succeeded)

/-- `fail_episode_report_allocation_unlaunchable`. -/
def fail_episode_report_allocation_unlaunchable (episode_id diagnostic : String) :
    Option EpisodeStore :=
  let diagnostic := strip diagnostic
  if diagnostic = "" then none
  else (s.episodes.get? episode_id).bind fun e =>
    (s.wrapups.get? episode_id).bind fun w =>
      w.allocation_operation_id.bind fun operation_id =>
        (s.report_task episode_id operation_id).bind fun t =>
          if !s.between_calls e then none
          else if e.wrapup_state = .failed && w.state = .failed && t.status = .failed then
            if e.wrapup_error = some diagnostic && w.diagnostic = some diagnostic then some s
            else none
          else if e.status ≠ .wrapping_up || !e.wrapup_state.awaiting || !w.state.awaiting
              || t.status = .succeeded || t.status = .failed then none
          else (s.set_attempts (fun a => a.episode_id = episode_id && a.status = .queued)
            .failed).close_report e operation_id diagnostic

end EpisodeStore

end ResearchGraph
