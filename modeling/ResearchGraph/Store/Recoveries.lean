import ResearchGraph.Store.Actors
import ResearchGraph.Store.Receipts
import ResearchGraph.Store.TaskResults

/-! # Auto-research recoveries (`rcp/storage/auto_research.py`)

    A task of an Auto-research actor that fails is recovered within its
    allocation: a row of `auto_research_recoveries`, one for each allocation,
    names the task that failed last and counts the attempts.  The process
    heartbeat admits a child of that task and then completes the recovery; the
    child, should it fail, schedules the next recovery itself.
-/

namespace ResearchGraph

open Lib

inductive AutoResearchRecoveryMode
  | exact
  | clean
  | blocked
  deriving DecidableEq, Repr

/-- The statuses of a chain that no longer recovers. -/
def AutoResearchRecoveryStatus.closed : AutoResearchRecoveryStatus → Bool
  | .blocked | .exhausted => true
  | _ => false

/-- A row of `auto_research_recoveries`. -/
structure AutoResearchRecoveryRecord where
  recovery_id : String
  episode_id : String
  operation_id : String
  failure_kind : String
  retry_mode : AutoResearchRecoveryMode
  attempts : Nat := 0
  max_attempts : Nat
  status : AutoResearchRecoveryStatus
  next_attempt_at : Option Nat
  diagnostic : String
  admitted_operation_id : Option String := none
  deriving DecidableEq, Repr

instance : Keyed AutoResearchRecoveryRecord String := ⟨AutoResearchRecoveryRecord.recovery_id⟩

/-- The tables of the episodes, and the recoveries. -/
structure RecoveryStore where
  store : EpisodeStore := {}
  recoveries : Table AutoResearchRecoveryRecord := Table.empty

/-- `" ".join(text.split())[:2000]` -/
def compact_text (text : String) : String :=
  cut 2000 (" ".intercalate
    ((text.toList.splitOnP is_space).filterMap (fun word =>
      if word = [] then none else some (String.ofList word))))

def WATCHER_ERROR_BACKOFF_SECONDS : List Nat := [2 * 60, 4 * 60, 8 * 60, 15 * 60, 30 * 60]

/-- `_auto_research_recovery_next_attempt_at` -/
def recovery_next_attempt_at (now attempts : Nat) : Nat :=
  now + WATCHER_ERROR_BACKOFF_SECONDS.getD
    (min attempts (WATCHER_ERROR_BACKOFF_SECONDS.length - 1)) 0

/-- The one recovery of an allocation. -/
def recovery_id_of (invocation : AutoResearchInvocationRecord) : String :=
  "task:" ++ invocation.allocation_operation_id

namespace AutoResearchRecoveryRecord

/-- The first failure within an allocation. -/
def opened (invocation : AutoResearchInvocationRecord) (operation_id failure_kind : String)
    (retry_mode : AutoResearchRecoveryMode) (detail : String) (max_attempts now : Nat) :
    AutoResearchRecoveryRecord :=
  let status := if retry_mode = .blocked then .blocked else .pending
  { recovery_id := recovery_id_of invocation
    episode_id := invocation.episode_id
    operation_id, failure_kind, retry_mode, max_attempts, status
    next_attempt_at := if status = .pending then some (recovery_next_attempt_at now 0) else none
    diagnostic := detail }

/-- The count after a failure: a new failed attempt is counted unless its admission was. -/
def attempts_after (existing : AutoResearchRecoveryRecord) (operation_id : String)
    (max_attempts : Nat) : Nat :=
  if existing.operation_id ≠ operation_id ∧ existing.admitted_operation_id ≠ some operation_id
  then min (existing.attempts + 1) max_attempts
  else existing.attempts

def status_after (existing : AutoResearchRecoveryRecord) (operation_id : String)
    (retry_mode : AutoResearchRecoveryMode) (max_attempts : Nat) : AutoResearchRecoveryStatus :=
  if existing.status.closed then existing.status
  else if existing.status = .admitted ∧ existing.operation_id = operation_id then .admitted
  else if retry_mode = .blocked then .blocked
  else if max_attempts ≤ existing.attempts_after operation_id max_attempts then .exhausted
  else .pending

/-- A further failure within an allocation. -/
def reopened (existing : AutoResearchRecoveryRecord) (operation_id failure_kind : String)
    (retry_mode : AutoResearchRecoveryMode) (detail : String) (max_attempts now : Nat) :
    AutoResearchRecoveryRecord :=
  let attempts := existing.attempts_after operation_id max_attempts
  let status := existing.status_after operation_id retry_mode max_attempts
  { existing with
    operation_id, failure_kind, retry_mode, attempts, max_attempts, status
    next_attempt_at :=
      if status = .pending then some (recovery_next_attempt_at now attempts) else none
    diagnostic := detail
    admitted_operation_id := if status = .pending then none else existing.admitted_operation_id }

/-- The admission of a child. -/
def completed (r : AutoResearchRecoveryRecord) (admitted_operation_id : Option String) :
    AutoResearchRecoveryRecord :=
  { r with
    attempts := r.attempts + 1
    status := .admitted
    next_attempt_at := none
    admitted_operation_id := admitted_operation_id.or r.admitted_operation_id }

/-- An attempt that admitted no child. -/
def deferred (r : AutoResearchRecoveryRecord) (detail : String) (now : Nat) :
    AutoResearchRecoveryRecord :=
  let exhausted : Bool := r.max_attempts ≤ r.attempts + 1
  { r with
    attempts := r.attempts + 1
    status := if exhausted then .exhausted else .pending
    next_attempt_at :=
      if exhausted then none else some (recovery_next_attempt_at now (r.attempts + 1))
    diagnostic := detail }

/-- The rows an abandoned task blocks. -/
def abandoned (operation_id detail : String) (r : AutoResearchRecoveryRecord) :
    AutoResearchRecoveryRecord :=
  if r.operation_id = operation_id ∨ r.admitted_operation_id = some operation_id then
    { r with status := .blocked, next_attempt_at := none, diagnostic := detail }
  else r

theorem abandoned_id (operation_id detail : String) (r : AutoResearchRecoveryRecord) :
    (r.abandoned operation_id detail).recovery_id = r.recovery_id := by
  unfold abandoned
  split <;> rfl

end AutoResearchRecoveryRecord

namespace RecoveryStore

variable (s : RecoveryStore)

/-- `UPDATE auto_research_recoveries` on a row that was read, or its insertion. -/
def set_recovery (r : AutoResearchRecoveryRecord) : RecoveryStore :=
  { s with recoveries := s.recoveries.put r }

/-- `schedule_auto_research_task_recovery` -/
def schedule_auto_research_task_recovery (operation_id failure_kind : String)
    (retry_mode : AutoResearchRecoveryMode) (diagnostic : String) (max_attempts now : Nat) :
    Option RecoveryStore :=
  if max_attempts < 1 then none
  else
    let detail := if compact_text diagnostic = "" then "Auto-research recovery is required."
      else compact_text diagnostic
    (s.store.auto_research_invocations.get? operation_id).bind fun invocation =>
      (s.store.episodes.get? invocation.episode_id).bind fun episode =>
        if episode.status ≠ .running ∧ episode.status ≠ .stopping then none
        else match s.recoveries.get? (recovery_id_of invocation) with
          | none => some (s.set_recovery
            (.opened invocation operation_id failure_kind retry_mode detail max_attempts now))
          | some existing => some (s.set_recovery
            (existing.reopened operation_id failure_kind retry_mode detail max_attempts now))

/-- `auto_research_task_recovery_child` -/
def auto_research_task_recovery_child (operation_id : String) : Option AgentTaskRecord :=
  (s.store.tasks.get? operation_id).bind fun parent =>
    (s.store.auto_research_invocations.get? operation_id).bind fun parent_invocation =>
      s.store.tasks.items.find? (fun child =>
        child.parent_operation_id = some parent.operation_id
          && child.episode_id = parent.episode_id && child.attempt = parent.attempt + 1
          && (s.store.auto_research_invocations.get? child.operation_id).any
            (fun i => i.actor_operation_id = parent_invocation.actor_operation_id))

/-- `complete_auto_research_recovery` -/
def complete_auto_research_recovery (recovery_id : String)
    (admitted_operation_id expected_operation_id : Option String) : Option RecoveryStore :=
  (s.recoveries.get? recovery_id).bind fun r =>
    let expected : Bool := expected_operation_id.all (· = r.operation_id)
    if r.status = .pending ∧ r.attempts < r.max_attempts ∧ expected then
      some (s.set_recovery (r.completed admitted_operation_id))
    else
      let already_admitted : Bool := r.status = .admitted && expected
        && (admitted_operation_id.isNone || r.admitted_operation_id = admitted_operation_id)
      -- the child failed and scheduled its next attempt before the admission was recorded
      let already_settled : Bool :=
        admitted_operation_id = some r.operation_id && decide (0 < r.attempts)
      if already_admitted || already_settled then some s else none

/-- `defer_auto_research_recovery` -/
def defer_auto_research_recovery (recovery_id diagnostic : String) (now : Nat) :
    Option RecoveryStore :=
  let detail := if compact_text diagnostic = "" then "Auto-research recovery attempt failed."
    else compact_text diagnostic
  (s.recoveries.get? recovery_id).bind fun r =>
    if r.status ≠ .pending then some s else some (s.set_recovery (r.deferred detail now))

/-- `abandon_auto_research_recovery` -/
def abandon_auto_research_recovery (operation_id diagnostic : String) : Option RecoveryStore :=
  if compact_text diagnostic = "" then none
  else (s.store.abandon_recovery operation_id).bind fun store =>
    some
      { store
        recoveries := s.recoveries.update
          (AutoResearchRecoveryRecord.abandoned operation_id (compact_text diagnostic))
          (AutoResearchRecoveryRecord.abandoned_id operation_id (compact_text diagnostic)) }

end RecoveryStore

end ResearchGraph
