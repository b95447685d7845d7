import ResearchGraph.Store.RecoveryLineage

/-! # Recovery admissions are counted once

    Two parties move the count of a recovery chain: the thread that admitted a
    child, when it completes the recovery, and the child, when it fails and
    schedules the next one.  Either may come first, the completion may come
    late or twice, and by then the chain may have moved on.  A human who
    resumes or retries a task reads no recovery: the child is stored whatever
    the row says.

    `Recoveries` adds to the rows what happened so far: the children that the
    heartbeat admitted, the tasks that one of the two calls was made for, and
    the deferrals.
-/

namespace ResearchGraph

open Lib

/-- A child that was admitted for a failed task. -/
structure ChildAdmission where
  recovery_id : String
  parent : String
  child : String
  deriving DecidableEq

/-- The rows with the calls made so far. -/
structure Recoveries where
  rows : RecoveryStore := {}
  /-- The children that the heartbeat admitted. -/
  admissions : List ChildAdmission := []
  /-- The tasks that reported a failure or whose admission was completed, with their recovery. -/
  settled : List (String × String) := []
  /-- The recoveries of the attempts that admitted no child. -/
  deferrals : List String := []

/-- What the heartbeat, the tasks, a human and the rest of the store do. A human's Resume or Retry
    is an operation of the store. -/
inductive RecoveryCall
  | store (op : EpisodeOp)
  | schedule (operation_id failure_kind : String) (retry_mode : AutoResearchRecoveryMode)
      (diagnostic : String) (now : Nat)
  | admission (recovery_id : String) (task : AgentTaskRecord) (bound : Bool)
  | complete (admission : ChildAdmission)
  | defer (recovery_id diagnostic : String) (now : Nat)
  | abandon (operation_id diagnostic : String)

namespace Recoveries

variable (max_attempts : Nat) (sys : Recoveries)

/-- The heartbeat retries the task that a pending recovery names. -/
def admit_child (recovery_id : String) (task : AgentTaskRecord) (bound : Bool) :
    Option Recoveries :=
  (sys.rows.recoveries.get? recovery_id).bind fun r =>
    if r.status = .pending ∧ task.parent_operation_id = some r.operation_id then
      (sys.rows.store.create_auto_research_recovery_task task bound).map fun store =>
        { sys with
          rows := { sys.rows with store }
          admissions := ⟨recovery_id, r.operation_id, task.operation_id⟩ :: sys.admissions }
    else none

/-- What a completion names: a child of the recovery's allocation with its parent, whoever
    started the child. -/
def is_child (a : ChildAdmission) : Bool :=
  sys.rows.store.recovered_by a.parent a.child
    && (sys.rows.store.auto_research_invocations.get? a.child).any
      (fun i => recovery_id_of i = a.recovery_id)

/-- One transaction; `none` is a refusal. -/
def exec : RecoveryCall → Option Recoveries
  | .store op => (sys.rows.store.exec op).map fun store =>
    { sys with rows := { sys.rows with store } }
  | .schedule operation_id failure_kind retry_mode diagnostic now =>
    (sys.rows.store.auto_research_invocations.get? operation_id).bind fun i =>
      (sys.rows.schedule_auto_research_task_recovery operation_id failure_kind retry_mode
        diagnostic max_attempts now).map fun rows =>
          { sys with rows, settled := sys.settled.insert (recovery_id_of i, operation_id) }
  | .admission recovery_id task bound => sys.admit_child recovery_id task bound
  | .complete a =>
    if sys.is_child a then
      (sys.rows.complete_auto_research_recovery a.recovery_id (some a.child)
        (some a.parent)).map fun rows =>
          { sys with rows, settled := sys.settled.insert (a.recovery_id, a.child) }
    else none
  | .defer recovery_id diagnostic now =>
    (sys.rows.recoveries.get? recovery_id).bind fun r =>
      (sys.rows.defer_auto_research_recovery recovery_id diagnostic now).map fun rows =>
        { sys with
          rows
          deferrals := if r.status = .pending then recovery_id :: sys.deferrals
            else sys.deferrals }
  | .abandon operation_id diagnostic =>
    (sys.rows.abandon_auto_research_recovery operation_id diagnostic).map fun rows =>
      { sys with rows }

def apply (sys : Recoveries) (call : RecoveryCall) : Recoveries :=
  (sys.exec max_attempts call).getD sys

def run (sys : Recoveries) (calls : List RecoveryCall) : Recoveries :=
  Lib.run (apply max_attempts) sys calls

/-- Nothing recovers the task, as the callers look it up. -/
def no_child (operation_id : String) : Bool :=
  (sys.rows.auto_research_task_recovery_child operation_id).isNone

/-- The pending recovery names the parent of the task: its admission is not recorded yet. -/
def awaits (operation_id : String) : Bool :=
  (sys.rows.store.auto_research_invocations.get? operation_id).any fun i =>
    (sys.rows.recoveries.get? (recovery_id_of i)).any fun r =>
      r.status = .pending && sys.rows.store.recovered_by r.operation_id operation_id

/-- Calls in time: a task reports its failure before anything recovers it, a human continues a
    child whose admission is recorded, and the heartbeat gives up on a task without a child. -/
def in_time : RecoveryCall → Bool
  | .store (.create_auto_research_recovery_task task _) =>
    !task.parent_operation_id.any sys.awaits
  | .schedule operation_id .. =>
    (sys.rows.store.tasks.get? operation_id).any (fun t =>
      t.status = .failed ∨ t.status = .interrupted) && sys.no_child operation_id
  | .defer recovery_id .. =>
    (sys.rows.recoveries.get? recovery_id).all (fun r => sys.no_child r.operation_id)
  | .abandon operation_id _ => sys.no_child operation_id
  | .store _ | .admission .. | .complete _ => true

/-- The children that the heartbeat admitted for one recovery. -/
def chain (sys : Recoveries) (recovery_id : String) : List ChildAdmission :=
  sys.admissions.filter (fun a => a.recovery_id = recovery_id)

/-- The tasks of one recovery that one of the two calls was made for. -/
def reported (settled : List (String × String)) (recovery_id : String) : List String :=
  (settled.filter (fun c => c.1 = recovery_id)).map Prod.snd

end Recoveries

/-! ### One row -/

/-- What holds of a row in every run: the count is within the limit, and so are the children that
    the heartbeat admitted, each of which was counted when the row took its next step. -/
structure RowBounded (max_attempts : Nat) (admissions : List ChildAdmission)
    (r : AutoResearchRecoveryRecord) : Prop where
  limit : r.max_attempts = max_attempts
  below : r.attempts ≤ max_attempts
  pending : r.status = .pending → r.attempts < max_attempts ∧ r.admitted_operation_id = none
  admitted : admissions.length ≤ max_attempts
  open_count : r.status.closed = false → admissions.length ≤ r.attempts ∨
    (r.status = .pending ∧ admissions.length ≤ r.attempts + 1 ∧
      ∃ a ∈ admissions, a.parent = r.operation_id)

/-- What holds of a row when the calls come in time. `reported` are the tasks of its allocation
    that one of the two calls was made for. -/
structure RowCounted (max_attempts : Nat) (store : EpisodeStore) (admissions : List ChildAdmission)
    (reported : List String) (deferrals : Nat) (r : AutoResearchRecoveryRecord) : Prop where
  attempts : r.attempts = min max_attempts (deferrals + reported.length - 1)
  names : r.operation_id ∈ reported
  records : ∀ child, r.admitted_operation_id = some child → child ∈ reported
  last : ∀ id ∈ reported, store.Last id → r.operation_id = id ∨ r.admitted_operation_id = some id
  moved : ∀ child ∈ reported, store.RecoveredBy r.operation_id child → r.status ≠ .pending
  leaves : r.status = .pending → ∀ child, store.RecoveredBy r.operation_id child → store.Last child
  launched : ∀ a ∈ admissions, a.child ∉ reported → a.parent = r.operation_id ∧ r.status = .pending

section Row

variable {max_attempts deferrals : Nat} {store : EpisodeStore} {admissions : List ChildAdmission}
  {reported : List String} {r : AutoResearchRecoveryRecord} {operation_id child : String}

/-- A failure leaves a closed chain closed. -/
theorem status_after_closed {retry_mode : AutoResearchRecoveryMode}
    (h : (r.status_after operation_id retry_mode max_attempts).closed = false) :
    r.status.closed = false := by
  cases hclosed : r.status.closed with
  | false => rfl
  | true =>
    rw [AutoResearchRecoveryRecord.status_after, if_pos hclosed, hclosed] at h
    cases h

/-- A chain that recovers after a failure has an attempt left. -/
theorem status_after_pending {retry_mode : AutoResearchRecoveryMode}
    (h : r.status_after operation_id retry_mode max_attempts = .pending) :
    r.attempts_after operation_id max_attempts < max_attempts := by
  unfold AutoResearchRecoveryRecord.status_after at h
  split at h
  · rename_i hclosed
    rw [h] at hclosed
    cases hclosed
  · split at h
    · cases h
    · split at h
      · cases h
      · split at h
        · cases h
        · exact Nat.lt_of_not_le ‹_›

/-- The task of a pending row reports again: the chain stays pending or is closed. -/
theorem status_after_again {retry_mode : AutoResearchRecoveryMode} (hpending : r.status = .pending)
    (h : (r.status_after operation_id retry_mode max_attempts).closed = false) :
    r.status_after operation_id retry_mode max_attempts = .pending := by
  have hopen : r.status.closed = false := by
    rw [hpending]
    rfl
  unfold AutoResearchRecoveryRecord.status_after at h ⊢
  rw [if_neg (by simp [hopen]), if_neg (by simp [hpending])] at h ⊢
  split
  · rename_i hblocked
    rw [if_pos hblocked] at h
    cases h
  · rename_i hmode
    rw [if_neg hmode] at h
    split
    · rename_i hexhausted
      rw [if_pos hexhausted] at h
      cases h
    · rfl

theorem attempts_after_le (h : r.attempts ≤ max_attempts) :
    r.attempts_after operation_id max_attempts ≤ max_attempts := by
  unfold AutoResearchRecoveryRecord.attempts_after
  split
  · exact Nat.min_le_right _ _
  · exact h

/-- A report of another task than the one the row names counts, or its admission did. -/
theorem RowBounded.counts (h : RowBounded max_attempts admissions r)
    (hopen : r.status.closed = false) (hne : r.operation_id ≠ operation_id) :
    admissions.length ≤ r.attempts_after operation_id max_attempts := by
  have hlength := h.admitted
  have hcount := h.open_count hopen
  unfold AutoResearchRecoveryRecord.attempts_after
  by_cases hrecorded : r.admitted_operation_id = some operation_id
  · rw [if_neg (fun hboth => hboth.2 hrecorded)]
    rcases hcount with hle | ⟨hpending, -, -⟩
    · exact hle
    · rw [(h.pending hpending).2] at hrecorded
      cases hrecorded
  · rw [if_pos ⟨hne, hrecorded⟩]
    rcases hcount with hle | ⟨-, hle, -⟩ <;> omega

theorem rowBounded_opened {invocation : AutoResearchInvocationRecord} {failure_kind detail : String}
    {retry_mode : AutoResearchRecoveryMode} {now : Nat} (hmax : 1 ≤ max_attempts) :
    RowBounded max_attempts []
      (.opened invocation operation_id failure_kind retry_mode detail max_attempts now) where
  limit := rfl
  below := Nat.zero_le _
  pending := fun _ => ⟨hmax, rfl⟩
  admitted := Nat.zero_le _
  open_count := fun _ => Or.inl (Nat.zero_le _)

theorem RowBounded.reopened {failure_kind detail : String} {retry_mode : AutoResearchRecoveryMode}
    {now : Nat} (h : RowBounded max_attempts admissions r) :
    RowBounded max_attempts admissions
      (r.reopened operation_id failure_kind retry_mode detail max_attempts now) where
  limit := rfl
  below := attempts_after_le h.below
  pending := by
    intro hstatus
    refine ⟨status_after_pending hstatus, ?_⟩
    simp only [AutoResearchRecoveryRecord.reopened] at hstatus ⊢
    rw [if_pos hstatus]
  admitted := h.admitted
  open_count := by
    intro hstatus
    have hopen := status_after_closed hstatus
    by_cases hne : r.operation_id = operation_id
    · have hsame : r.attempts_after operation_id max_attempts = r.attempts := by
        rw [AutoResearchRecoveryRecord.attempts_after, if_neg (fun hboth => hboth.1 hne)]
      simp only [AutoResearchRecoveryRecord.reopened]
      rw [hsame]
      rcases h.open_count hopen with hle | ⟨hpending, hle, a, ha, hparent⟩
      · exact .inl hle
      · exact .inr ⟨status_after_again hpending hstatus, hle, a, ha, hparent.trans hne⟩
    · exact .inl (h.counts hopen hne)

theorem RowBounded.completed {admitted : Option String}
    (h : RowBounded max_attempts admissions r) (hpending : r.status = .pending) :
    RowBounded max_attempts admissions (r.completed admitted) where
  limit := h.limit
  below := (h.pending hpending).1
  pending := by
    intro hstatus
    cases hstatus
  admitted := h.admitted
  open_count := by
    intro _
    left
    simp only [AutoResearchRecoveryRecord.completed]
    rcases h.open_count (by rw [hpending]; rfl) with hle | ⟨-, hle, -⟩ <;> omega

theorem RowBounded.deferred {detail : String} {now : Nat}
    (h : RowBounded max_attempts admissions r) (hpending : r.status = .pending) :
    RowBounded max_attempts admissions (r.deferred detail now) where
  limit := h.limit
  below := (h.pending hpending).1
  pending := by
    intro hstatus
    have hlimit := h.limit
    refine ⟨?_, (h.pending hpending).2⟩
    by_cases hlast : r.max_attempts ≤ r.attempts + 1
    · simp [AutoResearchRecoveryRecord.deferred, hlast] at hstatus
    · simp only [AutoResearchRecoveryRecord.deferred]
      omega
  admitted := h.admitted
  open_count := by
    intro _
    left
    simp only [AutoResearchRecoveryRecord.deferred]
    rcases h.open_count (by rw [hpending]; rfl) with hle | ⟨-, hle, -⟩ <;> omega

theorem RowBounded.abandoned {detail : String} (h : RowBounded max_attempts admissions r) :
    RowBounded max_attempts admissions (r.abandoned operation_id detail) := by
  unfold AutoResearchRecoveryRecord.abandoned
  split
  · refine ⟨h.limit, h.below, ?_, h.admitted, ?_⟩
    · intro hstatus
      cases hstatus
    · intro hopen
      cases hopen
  · exact h

/-- The heartbeat admits a child of the task the row names, which it did not before. -/
theorem RowBounded.admits {a : ChildAdmission} (h : RowBounded max_attempts admissions r)
    (hpending : r.status = .pending) (hparent : a.parent = r.operation_id)
    (hfirst : ∀ b ∈ admissions, b.parent ≠ r.operation_id) :
    RowBounded max_attempts (a :: admissions) r := by
  have hlt := (h.pending hpending).1
  have hcount : admissions.length ≤ r.attempts := by
    rcases h.open_count (by rw [hpending]; rfl) with hle | ⟨-, -, b, hb, hparent'⟩
    · exact hle
    · exact absurd hparent' (hfirst b hb)
  refine ⟨h.limit, h.below, h.pending, ?_, fun _ => .inr ⟨hpending, ?_, a, List.mem_cons_self,
    hparent⟩⟩
  · rw [List.length_cons]
    omega
  · rw [List.length_cons]
    omega

/-- A report is new exactly when it counts, and the row then has an attempt more, up to the
    limit. -/
theorem RowCounted.attempts_after
    (h : RowCounted max_attempts store admissions reported deferrals r)
    (hlast : store.Last operation_id) :
    r.attempts_after operation_id max_attempts
      = if operation_id ∈ reported then r.attempts else min max_attempts (r.attempts + 1) := by
  unfold AutoResearchRecoveryRecord.attempts_after
  split
  · rename_i hnew
    rw [if_neg, Nat.min_comm]
    intro hmem
    rcases h.last operation_id hmem hlast with hop | hrecorded
    · exact hnew.1 hop
    · exact hnew.2 hrecorded
  · rename_i hold
    rw [if_pos]
    by_cases hop : r.operation_id = operation_id
    · rw [← hop]
      exact h.names
    · exact h.records _ (by simpa [hop] using hold)

/-- The count with one more task that a call was made for. -/
theorem RowCounted.attempts_insert
    (h : RowCounted max_attempts store admissions reported deferrals r) :
    min max_attempts (deferrals + (reported.insert operation_id).length - 1)
      = if operation_id ∈ reported then r.attempts else min max_attempts (r.attempts + 1) := by
  have hpos : 0 < reported.length := List.length_pos_of_mem h.names
  have hattempts := h.attempts
  split
  · rename_i hmem
    rw [List.insert_of_mem hmem, hattempts]
  · rename_i hmem
    rw [List.length_insert_of_not_mem hmem, hattempts]
    omega

/-- The first failure opens the chain. -/
theorem rowCounted_opened {invocation : AutoResearchInvocationRecord} {failure_kind detail : String}
    {retry_mode : AutoResearchRecoveryMode} {now : Nat} (hlast : store.Last operation_id) :
    RowCounted max_attempts store [] [operation_id] 0
      (.opened invocation operation_id failure_kind retry_mode detail max_attempts now) where
  attempts := by simp [AutoResearchRecoveryRecord.opened]
  names := List.mem_singleton_self _
  records := by
    intro child hchild
    cases hchild
  last := fun id hid _ => .inl (List.mem_singleton.mp hid).symm
  moved := fun child _ hrec => absurd hrec (hlast child)
  leaves := fun _ child hrec => absurd hrec (hlast child)
  launched := by
    intro a ha
    cases ha

/-- The last task of the allocation fails. -/
theorem RowCounted.reopened {failure_kind detail : String} {retry_mode : AutoResearchRecoveryMode}
    {now : Nat} (h : RowCounted max_attempts store admissions reported deferrals r)
    (hlast : store.Last operation_id)
    (hkin : ∀ a ∈ admissions, store.RecoveredBy a.parent a.child)
    (hsole : ∀ id, (id ∈ reported ∨ ∃ a ∈ admissions, a.child = id) → store.Last id →
      id = operation_id) :
    RowCounted max_attempts store admissions (reported.insert operation_id) deferrals
      (r.reopened operation_id failure_kind retry_mode detail max_attempts now) where
  attempts := by
    rw [h.attempts_insert]
    exact h.attempts_after hlast
  names := List.mem_insert_self
  records := by
    intro child hchild
    simp only [AutoResearchRecoveryRecord.reopened] at hchild
    split at hchild
    · cases hchild
    · exact List.mem_insert_of_mem (h.records child hchild)
  last := by
    intro id hid hlast'
    left
    rcases List.mem_insert_iff.mp hid with rfl | hid
    · rfl
    · exact (hsole id (.inl hid) hlast').symm
  moved := fun child _ hrec => absurd hrec (hlast child)
  leaves := fun _ child hrec => absurd hrec (hlast child)
  launched := by
    intro a ha hfresh
    -- the row waited for the child, so it was the last task, and reports now
    have hold : a.child ∉ reported := fun hmem => hfresh (List.mem_insert_of_mem hmem)
    obtain ⟨hparent, hpending⟩ := h.launched a ha hold
    have hleaf := h.leaves hpending a.child (hparent ▸ hkin a ha)
    rw [hsole a.child (.inr ⟨a, ha, rfl⟩) hleaf] at hfresh
    exact absurd List.mem_insert_self hfresh

/-- The completion of a child that a pending row waits for. -/
theorem RowCounted.completed (h : RowCounted max_attempts store admissions reported deferrals r)
    (hbounded : RowBounded max_attempts admissions r) (hpending : r.status = .pending)
    (hchild : store.RecoveredBy r.operation_id child)
    (hsingle : Relator.RightUnique store.RecoveredBy)
    (hkin : ∀ a ∈ admissions, store.RecoveredBy a.parent a.child) :
    RowCounted max_attempts store admissions (reported.insert child) deferrals
      (r.completed (some child)) where
  attempts := by
    have hfresh : child ∉ reported := fun hmem => h.moved child hmem hchild hpending
    have hlt := (hbounded.pending hpending).1
    rw [h.attempts_insert, if_neg hfresh]
    simp only [AutoResearchRecoveryRecord.completed]
    omega
  names := List.mem_insert_of_mem h.names
  records := by
    intro child' hrecorded
    obtain rfl := Option.some.inj hrecorded
    exact List.mem_insert_self
  last := by
    intro id hid hlast
    rcases List.mem_insert_iff.mp hid with rfl | hid
    · exact .inr rfl
    · rcases h.last id hid hlast with rfl | hrecorded
      · exact absurd hchild (hlast child)
      · rw [(hbounded.pending hpending).2] at hrecorded
        cases hrecorded
  moved := by
    intro child' _ _ hstatus
    cases hstatus
  leaves := by
    intro hstatus
    cases hstatus
  launched := by
    intro a ha hfresh
    have hold : a.child ∉ reported := fun hmem => hfresh (List.mem_insert_of_mem hmem)
    obtain ⟨hparent, -⟩ := h.launched a ha hold
    have hrec : store.RecoveredBy r.operation_id a.child := hparent ▸ hkin a ha
    rw [hsingle hrec hchild] at hfresh
    exact absurd List.mem_insert_self hfresh

/-- An attempt that admitted no child. -/
theorem RowCounted.deferred {detail : String} {now : Nat}
    (h : RowCounted max_attempts store admissions reported deferrals r)
    (hbounded : RowBounded max_attempts admissions r) (hpending : r.status = .pending)
    (hlast : store.Last r.operation_id)
    (hkin : ∀ a ∈ admissions, store.RecoveredBy a.parent a.child) :
    RowCounted max_attempts store admissions reported (deferrals + 1) (r.deferred detail now) where
  attempts := by
    have hpos : 0 < reported.length := List.length_pos_of_mem h.names
    have hlt := (hbounded.pending hpending).1
    have hattempts := h.attempts
    simp only [AutoResearchRecoveryRecord.deferred]
    omega
  names := h.names
  records := h.records
  last := h.last
  moved := fun child _ hrec => absurd hrec (hlast child)
  leaves := fun _ child hrec => absurd hrec (hlast child)
  launched := by
    intro a ha hfresh
    obtain ⟨hparent, -⟩ := h.launched a ha hfresh
    exact absurd (hparent ▸ hkin a ha) (hlast a.child)

/-- The last task of an allocation is abandoned. -/
theorem RowCounted.abandoned {detail : String}
    (h : RowCounted max_attempts store admissions reported deferrals r)
    (hbounded : RowBounded max_attempts admissions r) (hlast : store.Last operation_id)
    (hkin : ∀ a ∈ admissions, store.RecoveredBy a.parent a.child) :
    RowCounted max_attempts store admissions reported deferrals
      (r.abandoned operation_id detail) := by
  unfold AutoResearchRecoveryRecord.abandoned
  split
  · rename_i hhit
    refine ⟨h.attempts, h.names, h.records, h.last, ?_, ?_, ?_⟩
    · intro child _ _ hstatus
      cases hstatus
    · intro hstatus
      cases hstatus
    · intro a ha hfresh
      obtain ⟨hparent, hpending⟩ := h.launched a ha hfresh
      rcases hhit with hop | hrecorded
      · exact absurd (hop ▸ hparent ▸ hkin a ha) (hlast a.child)
      · rw [(hbounded.pending hpending).2] at hrecorded
        cases hrecorded
  · exact h

/-- The heartbeat admits a child of the task the row names. -/
theorem RowCounted.admits {a : ChildAdmission}
    (h : RowCounted max_attempts store admissions reported deferrals r)
    (hpending : r.status = .pending) (hparent : a.parent = r.operation_id) :
    RowCounted max_attempts store (a :: admissions) reported deferrals r where
  attempts := h.attempts
  names := h.names
  records := h.records
  last := h.last
  moved := h.moved
  leaves := h.leaves
  launched := by
    intro b hb hfresh
    rcases List.mem_cons.mp hb with rfl | hb
    · exact ⟨hparent, hpending⟩
    · exact h.launched b hb hfresh

/-- The rest of the store, which recovers no child that the row waits for. -/
theorem RowCounted.store_step {op : EpisodeOp} {store' : EpisodeStore}
    (h : RowCounted max_attempts store admissions reported deferrals r)
    (hline : store.Lineage) (hexec : store.exec op = some store')
    (hseated : ∀ id ∈ reported, ∃ i, store.auto_research_invocations.get? id = some i)
    (hwaits : ∀ t bound, op = .create_auto_research_recovery_task t bound → r.status = .pending →
      ∀ child, store.RecoveredBy r.operation_id child → t.parent_operation_id ≠ some child) :
    RowCounted max_attempts store' admissions reported deferrals r where
  attempts := h.attempts
  names := h.names
  records := h.records
  last := by
    intro id hid hlast
    refine h.last id hid ?_
    exact fun child hrec => hlast child (hrec.extends (EpisodeStore.exec_extends hexec))
  moved := by
    intro child hmem hrec
    obtain ⟨i, hi⟩ := hseated _ h.names
    obtain ⟨j, hj⟩ := hseated _ hmem
    exact h.moved child hmem (hrec.before (EpisodeStore.exec_extends hexec) hline.stored hi hj)
  leaves := by
    intro hpending child hrec
    rcases hline.recovered_step hexec hrec with hold | ⟨t, bound, -, -, -, hlast⟩
    · intro child' hrec'
      rcases hline.recovered_step hexec hrec' with hold' | ⟨t, bound, hop, hparent, -, -⟩
      · exact h.leaves hpending child hold child' hold'
      · exact hwaits t bound hop hpending child hold hparent
    · exact hlast
  launched := h.launched

end Row

/-! ### All rows -/

theorem get?_set_recovery (rows : RecoveryStore) (r : AutoResearchRecoveryRecord) (id : String) :
    (rows.set_recovery r).recoveries.get? id
      = if id = r.recovery_id then some r else rows.recoveries.get? id := by
  split
  · rename_i hid
    rw [hid]
    exact Table.get?_put_self _ r
  · rename_i hid
    exact Table.get?_put_ne _ hid

/-- What scheduling writes. -/
theorem schedule_eq {rows rows' : RecoveryStore} {operation_id failure_kind diagnostic : String}
    {retry_mode : AutoResearchRecoveryMode} {max_attempts now : Nat}
    {i : AutoResearchInvocationRecord}
    (hi : rows.store.auto_research_invocations.get? operation_id = some i)
    (h : rows.schedule_auto_research_task_recovery operation_id failure_kind retry_mode diagnostic
      max_attempts now = some rows') :
    1 ≤ max_attempts ∧ ∃ r', rows' = rows.set_recovery r' ∧ r'.recovery_id = recovery_id_of i ∧
      r'.operation_id = operation_id ∧
      ((rows.recoveries.get? (recovery_id_of i) = none ∧ ∃ detail,
          r' = .opened i operation_id failure_kind retry_mode detail max_attempts now) ∨
        ∃ r detail, rows.recoveries.get? (recovery_id_of i) = some r ∧
          r' = r.reopened operation_id failure_kind retry_mode detail max_attempts now) := by
  simp only [RecoveryStore.schedule_auto_research_task_recovery, Option.ite_none_left_eq_some,
    Option.bind_eq_some_iff] at h
  obtain ⟨hmax, i', hi', e, -, -, h⟩ := h
  rw [hi] at hi'
  cases hi'
  refine ⟨by omega, ?_⟩
  cases hget : rows.recoveries.get? (recovery_id_of i) with
  | none =>
    rw [hget] at h
    exact ⟨_, (Option.some.inj h).symm, rfl, rfl, .inl ⟨rfl, _, rfl⟩⟩
  | some r =>
    rw [hget] at h
    exact ⟨_, (Option.some.inj h).symm, Table.key_of_get? hget, rfl, .inr ⟨r, _, rfl, rfl⟩⟩

/-- What a completion writes: the admission, or nothing if it was recorded or the child reported
    first. -/
theorem complete_eq {rows rows' : RecoveryStore} {a : ChildAdmission}
    (h : rows.complete_auto_research_recovery a.recovery_id (some a.child) (some a.parent)
      = some rows') :
    ∃ r, rows.recoveries.get? a.recovery_id = some r ∧
      ((r.status = .pending ∧ a.parent = r.operation_id ∧
          rows' = rows.set_recovery (r.completed (some a.child))) ∨
        (rows' = rows ∧ (r.admitted_operation_id = some a.child ∨ r.operation_id = a.child))) := by
  simp only [RecoveryStore.complete_auto_research_recovery, Option.bind_eq_some_iff] at h
  obtain ⟨r, hr, h⟩ := h
  refine ⟨r, hr, ?_⟩
  split at h
  · rename_i hpending
    obtain ⟨hstatus, -, hparent⟩ := hpending
    left
    exact ⟨hstatus, by simpa using hparent, (Option.some.inj h).symm⟩
  · rw [Option.ite_none_right_eq_some] at h
    obtain ⟨hseen, h⟩ := h
    right
    refine ⟨(Option.some.inj h).symm, ?_⟩
    simp only [Option.isNone_some, Bool.false_or, Bool.or_eq_true, Bool.and_eq_true,
      decide_eq_true_eq] at hseen
    rcases hseen with ⟨-, hadmitted⟩ | ⟨hsettled, -⟩
    · exact .inl hadmitted
    · exact .inr (Option.some.inj hsettled).symm

/-- What a deferral writes: an attempt, if the recovery is pending. -/
theorem defer_eq {rows rows' : RecoveryStore} {id diagnostic : String} {now : Nat}
    {r : AutoResearchRecoveryRecord} (hr : rows.recoveries.get? id = some r)
    (h : rows.defer_auto_research_recovery id diagnostic now = some rows') :
    (r.status ≠ .pending ∧ rows' = rows) ∨
      (r.status = .pending ∧ ∃ detail, rows' = rows.set_recovery (r.deferred detail now)) := by
  simp only [RecoveryStore.defer_auto_research_recovery, hr, Option.bind_some] at h
  split at h
  · rename_i hstatus
    exact .inl ⟨hstatus, (Option.some.inj h).symm⟩
  · rename_i hstatus
    exact .inr ⟨Decidable.not_not.mp hstatus, _, (Option.some.inj h).symm⟩

/-- What an abandonment writes: a receipt, and the rows that name the task. -/
theorem abandon_eq {rows rows' : RecoveryStore} {operation_id diagnostic : String}
    (h : rows.abandon_auto_research_recovery operation_id diagnostic = some rows') :
    rows.store.exec (.abandon_auto_research_recovery operation_id) = some rows'.store ∧
      ∃ detail, ∀ id, rows'.recoveries.get? id
        = (rows.recoveries.get? id).map (·.abandoned operation_id detail) := by
  simp only [RecoveryStore.abandon_auto_research_recovery, Option.ite_none_left_eq_some,
    Option.bind_eq_some_iff, Option.some.injEq] at h
  obtain ⟨-, store, hstore, rfl⟩ := h
  refine ⟨hstore, compact_text diagnostic, fun id => ?_⟩
  exact Table.get?_update _ _ (AutoResearchRecoveryRecord.abandoned_id operation_id _) id

namespace Recoveries

variable {max_attempts : Nat} {sys sys' : Recoveries}

/-- What holds in every run. -/
structure Bounded (max_attempts : Nat) (sys : Recoveries) : Prop where
  line : sys.rows.store.Lineage
  kin : ∀ a ∈ sys.admissions, sys.rows.store.RecoveredBy a.parent a.child ∧
    ∃ j, sys.rows.store.auto_research_invocations.get? a.child = some j ∧
      recovery_id_of j = a.recovery_id
  named : ∀ id r, sys.rows.recoveries.get? id = some r →
    ∃ i, sys.rows.store.auto_research_invocations.get? r.operation_id = some i ∧
      recovery_id_of i = id
  row : ∀ id r, sys.rows.recoveries.get? id = some r → RowBounded max_attempts (sys.chain id) r
  unopened : ∀ id, sys.rows.recoveries.get? id = none → sys.chain id = []

theorem mem_chain {a : ChildAdmission} {id : String} :
    a ∈ sys.chain id ↔ a ∈ sys.admissions ∧ a.recovery_id = id := by
  simp [chain]

/-- A write outside the recoveries. -/
theorem Bounded.store_step (h : Bounded max_attempts sys) {op : EpisodeOp} {store : EpisodeStore}
    (hexec : sys.rows.store.exec op = some store) :
    Bounded max_attempts { sys with rows := { sys.rows with store } } where
  line := h.line.step hexec
  kin := by
    intro a ha
    have hext := EpisodeStore.exec_extends hexec
    obtain ⟨hrec, j, hj, hid⟩ := h.kin a ha
    exact ⟨hrec.extends hext, j, hext.seats _ _ hj, hid⟩
  named := by
    intro id r hr
    obtain ⟨i, hi, hid⟩ := h.named id r hr
    exact ⟨i, (EpisodeStore.exec_extends hexec).seats _ _ hi, hid⟩
  row := h.row
  unopened := h.unopened

/-- A write of one row. -/
theorem Bounded.row_step (h : Bounded max_attempts sys) {r : AutoResearchRecoveryRecord}
    {settled : List (String × String)} {deferrals : List String}
    (hnamed : ∃ i, sys.rows.store.auto_research_invocations.get? r.operation_id = some i ∧
      recovery_id_of i = r.recovery_id)
    (hrow : RowBounded max_attempts (sys.chain r.recovery_id) r) :
    Bounded max_attempts { sys with rows := sys.rows.set_recovery r, settled, deferrals } where
  line := h.line
  kin := h.kin
  named := by
    intro id r' hr
    dsimp only at hr
    rw [get?_set_recovery] at hr
    split at hr
    · rename_i hid
      obtain rfl := Option.some.inj hr
      rw [hid]
      exact hnamed
    · exact h.named id r' hr
  row := by
    intro id r' hr
    dsimp only at hr
    rw [get?_set_recovery] at hr
    split at hr
    · rename_i hid
      obtain rfl := Option.some.inj hr
      rw [hid]
      exact hrow
    · exact h.row id r' hr
  unopened := by
    intro id hr
    dsimp only at hr
    rw [get?_set_recovery] at hr
    split at hr
    · cases hr
    · exact h.unopened id hr

/-- The heartbeat admits a child: nothing recovered the task its recovery names. -/
theorem Bounded.admit (h : Bounded max_attempts sys) {recovery_id : String} {task : AgentTaskRecord}
    {bound : Bool} (hexec : sys.admit_child recovery_id task bound = some sys') :
    Bounded max_attempts sys' := by
  simp only [admit_child, Option.bind_eq_some_iff, Option.ite_none_right_eq_some,
    Option.map_eq_some_iff] at hexec
  obtain ⟨r, hr, ⟨hpending, hparent⟩, store, hcreate, rfl⟩ := hexec
  obtain ⟨i, hi, hid⟩ := h.named recovery_id r hr
  obtain ⟨parent, i', j, hparent', hnew, hi', halloc, hrec⟩ :=
    EpisodeStore.recovery_task_eq h.line hcreate
  obtain rfl := Option.some.inj (hparent.symm.trans hparent')
  obtain rfl := Option.some.inj (hi.symm.trans hi')
  have hexec : sys.rows.store.exec (.create_auto_research_recovery_task task bound)
      = some store := hcreate
  have hstep := h.store_step hexec
  refine ⟨hstep.line, ?_, hstep.named, ?_, ?_⟩
  · intro a ha
    -- the new child is seated in the allocation of the failed task
    rcases List.mem_cons.mp ha with rfl | ha
    · refine ⟨hrec, j, ?_, ?_⟩
      · change store.auto_research_invocations.get? task.operation_id = some j
        rw [hnew.seats, ← hnew.row]
        exact Table.get?_put_self _ j
      · change "task:" ++ j.allocation_operation_id = recovery_id
        rw [halloc]
        exact hid
    · exact hstep.kin a ha
  · intro id r' hr'
    by_cases hid' : recovery_id = id
    · -- the row is pending, and its task is the parent of no earlier child
      subst hid'
      obtain rfl := Option.some.inj (hr.symm.trans hr')
      have hrow := (h.row recovery_id r hr).admits (a := ⟨recovery_id, r.operation_id,
        task.operation_id⟩) hpending rfl (by
        intro b hb hsame
        have hkin := (h.kin b (mem_chain.mp hb).1).1
        rw [hsame] at hkin
        exact EpisodeStore.recovery_parent_last hcreate hparent _ hkin)
      simpa [chain] using hrow
    · have hrow := h.row id r' hr'
      simpa [chain, hid'] using hrow
  · intro id hnone
    have hne : recovery_id ≠ id := by
      rintro rfl
      change sys.rows.recoveries.get? recovery_id = none at hnone
      rw [hr] at hnone
      cases hnone
    have hchain := h.unopened id hnone
    simpa [chain, hne] using hchain

/-- No call takes a count over the limit. -/
theorem Bounded.step (h : Bounded max_attempts sys) {call : RecoveryCall}
    (hexec : sys.exec max_attempts call = some sys') : Bounded max_attempts sys' := by
  cases call with
  | store op =>
    simp only [exec, Option.map_eq_some_iff] at hexec
    obtain ⟨store, hop, rfl⟩ := hexec
    exact h.store_step hop
  | schedule operation_id failure_kind retry_mode diagnostic now =>
    simp only [exec, Option.bind_eq_some_iff, Option.map_eq_some_iff] at hexec
    obtain ⟨i, hi, rows, hrows, rfl⟩ := hexec
    obtain ⟨hmax, r', rfl, hid, hop, hcases⟩ := schedule_eq hi hrows
    refine h.row_step ⟨i, by rw [hop]; exact hi, hid.symm⟩ ?_
    rw [hid]
    rcases hcases with ⟨hnone, detail, rfl⟩ | ⟨r, detail, hr, rfl⟩
    · -- a chain without a row has no child yet
      rw [h.unopened _ hnone]
      exact rowBounded_opened hmax
    · exact (h.row _ r hr).reopened
  | admission recovery_id task bound => exact h.admit hexec
  | complete a =>
    simp only [exec, Option.ite_none_right_eq_some, Option.map_eq_some_iff] at hexec
    obtain ⟨-, rows, hrows, rfl⟩ := hexec
    obtain ⟨r, hr, ⟨hpending, hparent, rfl⟩ | ⟨rfl, -⟩⟩ := complete_eq hrows
    · have hkey : r.recovery_id = a.recovery_id := Table.key_of_get? hr
      refine h.row_step ?_ ?_
      · change ∃ i, sys.rows.store.auto_research_invocations.get? r.operation_id = some i ∧
          recovery_id_of i = r.recovery_id
        rw [hkey]
        exact h.named _ r hr
      · change RowBounded max_attempts (sys.chain r.recovery_id) _
        rw [hkey]
        exact (h.row _ r hr).completed hpending
    · exact ⟨h.line, h.kin, h.named, h.row, h.unopened⟩
  | defer recovery_id diagnostic now =>
    simp only [exec, Option.bind_eq_some_iff, Option.map_eq_some_iff] at hexec
    obtain ⟨r, hr, rows, hrows, rfl⟩ := hexec
    rcases defer_eq hr hrows with ⟨-, rfl⟩ | ⟨hpending, detail, rfl⟩
    · exact ⟨h.line, h.kin, h.named, h.row, h.unopened⟩
    · have hkey : r.recovery_id = recovery_id := Table.key_of_get? hr
      refine h.row_step ?_ ?_
      · change ∃ i, sys.rows.store.auto_research_invocations.get? r.operation_id = some i ∧
          recovery_id_of i = r.recovery_id
        rw [hkey]
        exact h.named _ r hr
      · change RowBounded max_attempts (sys.chain r.recovery_id) _
        rw [hkey]
        exact (h.row _ r hr).deferred hpending
  | abandon operation_id diagnostic =>
    simp only [exec, Option.map_eq_some_iff] at hexec
    obtain ⟨rows, hrows, rfl⟩ := hexec
    obtain ⟨hop, detail, hget⟩ := abandon_eq hrows
    have hstep := h.store_step hop
    -- the row changes its status and nothing that is counted
    refine ⟨hstep.line, hstep.kin, ?_, ?_, ?_⟩
    · intro id r' hr'
      dsimp only at hr'
      rw [hget, Option.map_eq_some_iff] at hr'
      obtain ⟨r, hr, rfl⟩ := hr'
      obtain ⟨i, hi, hid⟩ := hstep.named id r hr
      refine ⟨i, ?_, hid⟩
      unfold AutoResearchRecoveryRecord.abandoned
      split <;> exact hi
    · intro id r' hr'
      dsimp only at hr'
      rw [hget, Option.map_eq_some_iff] at hr'
      obtain ⟨r, hr, rfl⟩ := hr'
      exact (h.row id r hr).abandoned
    · intro id hnone
      dsimp only at hnone
      rw [hget, Option.map_eq_none_iff] at hnone
      exact h.unopened id hnone

theorem bounded_start : Bounded max_attempts {} where
  line := EpisodeStore.lineage_empty
  kin := by
    intro a ha
    cases ha
  named := by
    intro id r hr
    cases hr
  row := by
    intro id r hr
    cases hr
  unopened := fun _ _ => rfl

/-- An invariant of `exec` holds along every run. -/
theorem invariant_along {I : Recoveries → Prop} {P : Recoveries → RecoveryCall → Prop}
    (hstep : ∀ sys call sys', I sys → P sys call → sys.exec max_attempts call = some sys' → I sys')
    (h : I sys) {calls : List RecoveryCall} (hcalls : Along (apply max_attempts) P sys calls) :
    I (run max_attempts sys calls) := by
  refine invariant_run ?_ h hcalls
  intro sys call h hcall
  unfold apply
  cases hexec : sys.exec max_attempts call with
  | none => exact h
  | some sys' => exact hstep sys call sys' h hcall hexec

theorem bounded_run (calls : List RecoveryCall) :
    Bounded max_attempts (run max_attempts {} calls) :=
  invariant_along (P := fun _ _ => True) (fun _ _ _ h _ hexec => h.step hexec) bounded_start
    (along_of_take (fun _ _ _ => trivial))

/-! ### Calls in time -/

theorem mem_reported {settled : List (String × String)} {id task : String} :
    task ∈ reported settled id ↔ (id, task) ∈ settled := by
  simp [reported]

/-- A call for a task is one of its own recovery. -/
theorem reported_insert (settled : List (String × String)) (recovery_id task id : String) :
    reported (settled.insert (recovery_id, task)) id
      = if id = recovery_id then (reported settled id).insert task else reported settled id := by
  by_cases hmem : (recovery_id, task) ∈ settled
  · rw [List.insert_of_mem hmem]
    split
    · rename_i hid
      rw [List.insert_of_mem]
      rw [hid]
      exact mem_reported.mpr hmem
    · rfl
  · rw [List.insert_of_not_mem hmem]
    split
    · rename_i hid
      rw [List.insert_of_not_mem]
      · simp [reported, hid]
      · rw [hid]
        exact fun h => hmem (mem_reported.mp h)
    · rename_i hid
      simp [reported, Ne.symm hid]

/-- What holds when the calls come in time. -/
structure Counted (max_attempts : Nat) (sys : Recoveries) : Prop where
  bounded : Bounded max_attempts sys
  seated : ∀ id, ∀ task ∈ reported sys.settled id,
    ∃ i, sys.rows.store.auto_research_invocations.get? task = some i ∧ recovery_id_of i = id
  row : ∀ id r, sys.rows.recoveries.get? id = some r →
    RowCounted max_attempts sys.rows.store (sys.chain id) (reported sys.settled id)
      (sys.deferrals.count id) r
  unopened : ∀ id, sys.rows.recoveries.get? id = none →
    reported sys.settled id = [] ∧ sys.deferrals.count id = 0

theorem Bounded.chain_kin (h : Bounded max_attempts sys) {id : String} :
    ∀ a ∈ sys.chain id, sys.rows.store.RecoveredBy a.parent a.child :=
  fun a ha => (h.kin a (mem_chain.mp ha).1).1

/-- The last task of an allocation is the only one that reports or was admitted and is last. -/
theorem Counted.sole (h : Counted max_attempts sys) {operation_id : String}
    {i : AutoResearchInvocationRecord}
    (hi : sys.rows.store.auto_research_invocations.get? operation_id = some i)
    (hlast : sys.rows.store.Last operation_id) :
    ∀ id, (id ∈ reported sys.settled (recovery_id_of i) ∨
      ∃ a ∈ sys.chain (recovery_id_of i), a.child = id) → sys.rows.store.Last id →
      id = operation_id := by
  intro id hid hlast'
  have hseat : ∃ j, sys.rows.store.auto_research_invocations.get? id = some j ∧
      recovery_id_of j = recovery_id_of i := by
    rcases hid with hid | ⟨a, ha, rfl⟩
    · exact h.seated _ id hid
    · obtain ⟨hmem, hrecovery⟩ := mem_chain.mp ha
      obtain ⟨-, j, hj, hjd⟩ := h.bounded.kin a hmem
      exact ⟨j, hj, hjd.trans hrecovery⟩
  obtain ⟨j, hj, hjd⟩ := hseat
  exact h.bounded.line.last_unique hj hi (allocation_of_recovery hjd) hlast' hlast

/-- A row that waits for a child knows it. -/
theorem Bounded.awaits_eq_true (h : Bounded max_attempts sys) {id child : String}
    {r : AutoResearchRecoveryRecord} (hr : sys.rows.recoveries.get? id = some r)
    (hpending : r.status = .pending) (hrec : sys.rows.store.RecoveredBy r.operation_id child) :
    sys.awaits child = true := by
  obtain ⟨i, hi, hid⟩ := h.named id r hr
  obtain ⟨i', j, hi', hj, halloc⟩ := hrec.seated
  obtain rfl := Option.some.inj (hi.symm.trans hi')
  have hjd : recovery_id_of j = id := by
    rw [← hid, recovery_id_of, halloc, recovery_id_of]
  simp [awaits, hj, hjd, hr, hpending, EpisodeStore.recovered_by_iff.mpr hrec]

/-- A write outside the recoveries. -/
theorem Counted.store_step (h : Counted max_attempts sys) {op : EpisodeOp} {store : EpisodeStore}
    (hexec : sys.rows.store.exec op = some store)
    (hwaits : ∀ t bound, op = .create_auto_research_recovery_task t bound →
      ∀ parent, t.parent_operation_id = some parent → sys.awaits parent = false) :
    Counted max_attempts { sys with rows := { sys.rows with store } } where
  bounded := h.bounded.store_step hexec
  seated := by
    intro id task hmem
    obtain ⟨i, hi, hid⟩ := h.seated id task hmem
    exact ⟨i, (EpisodeStore.exec_extends hexec).seats _ _ hi, hid⟩
  row := by
    intro id r hr
    refine (h.row id r hr).store_step h.bounded.line hexec ?_ ?_
    · intro task hmem
      obtain ⟨i, hi, -⟩ := h.seated id task hmem
      exact ⟨i, hi⟩
    · intro t bound hop hpending child hrec hparent
      have htrue := h.bounded.awaits_eq_true hr hpending hrec
      rw [hwaits t bound hop child hparent] at htrue
      cases htrue
  unopened := h.unopened

/-- A write of one row. -/
theorem Counted.row_step (h : Counted max_attempts sys) {r : AutoResearchRecoveryRecord}
    {settled : List (String × String)} {deferrals : List String}
    (hbounded : Bounded max_attempts
      { sys with rows := sys.rows.set_recovery r, settled, deferrals })
    (hseated : ∀ task ∈ reported settled r.recovery_id,
      ∃ i, sys.rows.store.auto_research_invocations.get? task = some i ∧
        recovery_id_of i = r.recovery_id)
    (hrow : RowCounted max_attempts sys.rows.store (sys.chain r.recovery_id)
      (reported settled r.recovery_id) (deferrals.count r.recovery_id) r)
    (hother : ∀ id, id ≠ r.recovery_id → reported settled id = reported sys.settled id ∧
      deferrals.count id = sys.deferrals.count id) :
    Counted max_attempts { sys with rows := sys.rows.set_recovery r, settled, deferrals } where
  bounded := hbounded
  seated := by
    intro id task hmem
    by_cases hid : id = r.recovery_id
    · rw [hid]
      exact hseated task (hid ▸ hmem)
    · refine h.seated id task ?_
      rw [← (hother id hid).1]
      exact hmem
  row := by
    intro id r' hr
    -- the row that was written, and the ones that kept their counts
    dsimp only at hr ⊢
    rw [get?_set_recovery] at hr
    split at hr
    · rename_i hid
      obtain rfl := Option.some.inj hr
      rw [hid]
      exact hrow
    · rename_i hid
      rw [(hother id hid).1, (hother id hid).2]
      exact h.row id r' hr
  unopened := by
    intro id hr
    dsimp only at hr ⊢
    rw [get?_set_recovery] at hr
    split at hr
    · cases hr
    · rename_i hid
      rw [(hother id hid).1, (hother id hid).2]
      exact h.unopened id hr

theorem last_of_no_child (h : sys.no_child operation_id = true) :
    sys.rows.store.Last operation_id :=
  fun _ hrec => recovery_child_found hrec (Option.isNone_iff_eq_none.mp h)

theorem Counted.schedule (h : Counted max_attempts sys)
    {operation_id failure_kind diagnostic : String} {retry_mode : AutoResearchRecoveryMode}
    {now : Nat} (hlast : sys.rows.store.Last operation_id)
    (hexec : sys.exec max_attempts
      (.schedule operation_id failure_kind retry_mode diagnostic now) = some sys') :
    Counted max_attempts sys' := by
  have hbounded := h.bounded.step hexec
  simp only [exec, Option.bind_eq_some_iff, Option.map_eq_some_iff] at hexec
  obtain ⟨i, hi, rows, hrows, rfl⟩ := hexec
  obtain ⟨hmax, r', rfl, hid, hop, hcases⟩ := schedule_eq hi hrows
  refine h.row_step hbounded ?_ ?_ ?_
  · intro task hmem
    rw [hid] at hmem ⊢
    rw [reported_insert, if_pos rfl, List.mem_insert_iff] at hmem
    rcases hmem with rfl | hmem
    · exact ⟨i, hi, rfl⟩
    · exact h.seated _ task hmem
  · rw [hid, reported_insert, if_pos rfl]
    rcases hcases with ⟨hnone, detail, rfl⟩ | ⟨r, detail, hr, rfl⟩
    · obtain ⟨hreported, hdeferrals⟩ := h.unopened _ hnone
      rw [h.bounded.unopened _ hnone, hreported, hdeferrals]
      exact rowCounted_opened hlast
    · exact (h.row _ r hr).reopened hlast h.bounded.chain_kin (h.sole hi hlast)
  · intro id hne
    rw [hid] at hne
    rw [reported_insert, if_neg hne]
    exact ⟨rfl, rfl⟩

/-- The task that a row names does not wait for its own admission. -/
theorem Bounded.awaits_own (h : Bounded max_attempts sys) {id : String}
    {r : AutoResearchRecoveryRecord} (hr : sys.rows.recoveries.get? id = some r) :
    sys.awaits r.operation_id = false := by
  obtain ⟨i, hi, hid⟩ := h.named id r hr
  have hself : sys.rows.store.recovered_by r.operation_id r.operation_id = false := by
    rw [Bool.eq_false_iff]
    exact fun htrue => EpisodeStore.RecoveredBy.irrefl (EpisodeStore.recovered_by_iff.mp htrue)
  simp [awaits, hi, hid, hr, hself]

theorem Counted.admit (h : Counted max_attempts sys) {recovery_id : String} {task : AgentTaskRecord}
    {bound : Bool} (hexec : sys.admit_child recovery_id task bound = some sys') :
    Counted max_attempts sys' := by
  have hbounded := h.bounded.admit hexec
  simp only [admit_child, Option.bind_eq_some_iff, Option.ite_none_right_eq_some,
    Option.map_eq_some_iff] at hexec
  obtain ⟨r, hr, ⟨hpending, hparent⟩, store, hcreate, rfl⟩ := hexec
  have hexec : sys.rows.store.exec (.create_auto_research_recovery_task task bound)
      = some store := hcreate
  have hstep := h.store_step hexec (by
    rintro t bound' hop parent hparent'
    cases hop
    obtain rfl := Option.some.inj (hparent.symm.trans hparent')
    exact h.bounded.awaits_own hr)
  refine ⟨hbounded, hstep.seated, ?_, hstep.unopened⟩
  intro id r' hr'
  have hrow := hstep.row id r' hr'
  by_cases hid : recovery_id = id
  · subst hid
    obtain rfl := Option.some.inj (hr.symm.trans hr')
    have hcons := hrow.admits (a := ⟨recovery_id, r.operation_id, task.operation_id⟩) hpending rfl
    simpa [chain] using hcons
  · simpa [chain, hid] using hrow

theorem Counted.complete (h : Counted max_attempts sys) {a : ChildAdmission}
    (hexec : sys.exec max_attempts (.complete a) = some sys') : Counted max_attempts sys' := by
  have hbounded := h.bounded.step hexec
  simp only [exec, Option.ite_none_right_eq_some, Option.map_eq_some_iff, is_child,
    Bool.and_eq_true, Option.any_eq_true, decide_eq_true_eq] at hexec
  obtain ⟨⟨hchild, j, hj, hjd⟩, rows, hrows, rfl⟩ := hexec
  have hrec := EpisodeStore.recovered_by_iff.mp hchild
  obtain ⟨r, hr, ⟨hpending, hparent, rfl⟩ | ⟨rfl, hseen⟩⟩ := complete_eq hrows
  · have hkey : (r.completed (some a.child)).recovery_id = a.recovery_id := Table.key_of_get? hr
    refine h.row_step hbounded ?_ ?_ ?_
    · intro task hmem
      rw [hkey] at hmem ⊢
      rw [reported_insert, if_pos rfl, List.mem_insert_iff] at hmem
      rcases hmem with rfl | hmem
      · exact ⟨j, hj, hjd⟩
      · exact h.seated _ task hmem
    · rw [hkey, reported_insert, if_pos rfl]
      rw [hparent] at hrec
      exact (h.row _ r hr).completed (h.bounded.row _ r hr) hpending hrec h.bounded.line.single
        h.bounded.chain_kin
    · intro id hne
      rw [hkey] at hne
      rw [reported_insert, if_neg hne]
      exact ⟨rfl, rfl⟩
  · -- the row knows the child, so one of the calls was made for it
    have hmem : a.child ∈ reported sys.settled a.recovery_id := by
      rcases hseen with hadmitted | hop
      · exact (h.row _ r hr).records _ hadmitted
      · exact hop ▸ (h.row _ r hr).names
    have hsame : sys.settled.insert (a.recovery_id, a.child) = sys.settled :=
      List.insert_of_mem (mem_reported.mp hmem)
    rw [hsame]
    exact h

theorem Counted.defer (h : Counted max_attempts sys) {recovery_id diagnostic : String} {now : Nat}
    (hcalls : sys.in_time (.defer recovery_id diagnostic now) = true)
    (hexec : sys.exec max_attempts (.defer recovery_id diagnostic now) = some sys') :
    Counted max_attempts sys' := by
  have hbounded := h.bounded.step hexec
  simp only [exec, Option.bind_eq_some_iff, Option.map_eq_some_iff] at hexec
  obtain ⟨r, hr, rows, hrows, rfl⟩ := hexec
  simp only [in_time, hr, Option.all_some] at hcalls
  rcases defer_eq hr hrows with ⟨hstatus, rfl⟩ | ⟨hpending, detail, rfl⟩
  · rw [if_neg hstatus]
    exact h
  · have hkey : (r.deferred detail now).recovery_id = recovery_id := Table.key_of_get? hr
    rw [if_pos hpending] at hbounded ⊢
    refine h.row_step hbounded ?_ ?_ ?_
    · rw [hkey]
      exact h.seated recovery_id
    · rw [hkey, List.count_cons_self]
      exact (h.row _ r hr).deferred (h.bounded.row _ r hr) hpending (last_of_no_child hcalls)
        h.bounded.chain_kin
    · intro id hne
      rw [hkey] at hne
      exact ⟨rfl, List.count_cons_of_ne (Ne.symm hne)⟩

theorem Counted.abandon (h : Counted max_attempts sys) {operation_id diagnostic : String}
    (hlast : sys.rows.store.Last operation_id)
    (hexec : sys.exec max_attempts (.abandon operation_id diagnostic) = some sys') :
    Counted max_attempts sys' := by
  have hbounded := h.bounded.step hexec
  simp only [exec, Option.map_eq_some_iff] at hexec
  obtain ⟨rows, hrows, rfl⟩ := hexec
  obtain ⟨hop, detail, hget⟩ := abandon_eq hrows
  have hstep := h.store_step hop (by
    intro t bound hcreate
    cases hcreate)
  refine ⟨hbounded, hstep.seated, ?_, ?_⟩
  · intro id r' hr'
    dsimp only at hr'
    rw [hget, Option.map_eq_some_iff] at hr'
    obtain ⟨r, hr, rfl⟩ := hr'
    refine (hstep.row id r hr).abandoned (h.bounded.row id r hr) ?_ hstep.bounded.chain_kin
    intro child hrec
    rcases h.bounded.line.recovered_step hop hrec with hold | ⟨t, bound, hcreate, -⟩
    · exact hlast child hold
    · cases hcreate
  · intro id hnone
    dsimp only at hnone
    rw [hget, Option.map_eq_none_iff] at hnone
    exact h.unopened id hnone

theorem Counted.step (h : Counted max_attempts sys) {call : RecoveryCall}
    (hcalls : sys.in_time call = true) (hexec : sys.exec max_attempts call = some sys') :
    Counted max_attempts sys' := by
  cases call with
  | store op =>
    simp only [exec, Option.map_eq_some_iff] at hexec
    obtain ⟨store, hop, rfl⟩ := hexec
    refine h.store_step hop ?_
    rintro t bound rfl parent hparent
    simpa [in_time, hparent] using hcalls
  | schedule operation_id failure_kind retry_mode diagnostic now =>
    simp only [in_time, Bool.and_eq_true] at hcalls
    exact h.schedule (last_of_no_child hcalls.2) hexec
  | admission recovery_id task bound => exact h.admit hexec
  | complete a => exact h.complete hexec
  | defer recovery_id diagnostic now => exact h.defer hcalls hexec
  | abandon operation_id diagnostic => exact h.abandon (last_of_no_child hcalls) hexec

theorem counted_start : Counted max_attempts {} where
  bounded := bounded_start
  seated := by
    intro id task hmem
    cases hmem
  row := by
    intro id r hr
    cases hr
  unopened := fun _ _ => ⟨rfl, rfl⟩

/-- Every call is made in time. -/
def InTime (max_attempts : Nat) (sys : Recoveries) (calls : List RecoveryCall) : Prop :=
  Along (apply max_attempts) (fun sys call => sys.in_time call = true) sys calls

theorem counted_run {calls : List RecoveryCall} (hcalls : InTime max_attempts {} calls) :
    Counted max_attempts (run max_attempts {} calls) :=
  invariant_along (fun _ _ _ h hcall hexec => h.step hcall hexec) counted_start hcalls

/-! ### Closed chains -/

/-- The chain has a row that is blocked or exhausted. -/
def Closed (sys : Recoveries) (id : String) : Prop :=
  ∃ r, sys.rows.recoveries.get? id = some r ∧ r.status.closed = true

theorem closed_put {rows : RecoveryStore} {id : String} {r r' : AutoResearchRecoveryRecord}
    (hr : rows.recoveries.get? id = some r) (hclosed : r.status.closed = true)
    (h : r'.recovery_id = id → r'.status.closed = true) :
    ∃ r, (rows.set_recovery r').recoveries.get? id = some r ∧ r.status.closed = true := by
  rw [get?_set_recovery]
  split
  · rename_i hid
    exact ⟨r', rfl, h hid.symm⟩
  · exact ⟨r, hr, hclosed⟩

/-- No call reopens a closed chain. -/
theorem Closed.step {id : String} {call : RecoveryCall} (h : sys.Closed id)
    (hexec : sys.exec max_attempts call = some sys') : sys'.Closed id := by
  obtain ⟨r, hr, hclosed⟩ := h
  -- what completes or defers a row finds it pending, so it finds another one
  have hpending : r.status ≠ .pending := by
    intro hstatus
    rw [hstatus] at hclosed
    cases hclosed
  cases call with
  | store op =>
    simp only [exec, Option.map_eq_some_iff] at hexec
    obtain ⟨store, -, rfl⟩ := hexec
    exact ⟨r, hr, hclosed⟩
  | schedule operation_id failure_kind retry_mode diagnostic now =>
    simp only [exec, Option.bind_eq_some_iff, Option.map_eq_some_iff] at hexec
    obtain ⟨i, hi, rows, hrows, rfl⟩ := hexec
    obtain ⟨-, r', rfl, hkey, -, hcases⟩ := schedule_eq hi hrows
    refine closed_put hr hclosed ?_
    intro hid
    rw [hkey] at hid
    rcases hcases with ⟨hnone, -⟩ | ⟨existing, detail, hexisting, rfl⟩
    · rw [hid, hr] at hnone
      cases hnone
    · -- a row that is reopened keeps a closing status
      rw [hid, hr] at hexisting
      cases hexisting
      simp only [AutoResearchRecoveryRecord.reopened, AutoResearchRecoveryRecord.status_after,
        if_pos hclosed]
      exact hclosed
  | admission recovery_id task bound =>
    simp only [exec, admit_child, Option.bind_eq_some_iff, Option.ite_none_right_eq_some,
      Option.map_eq_some_iff] at hexec
    obtain ⟨-, -, -, store, -, rfl⟩ := hexec
    exact ⟨r, hr, hclosed⟩
  | complete a =>
    simp only [exec, Option.ite_none_right_eq_some, Option.map_eq_some_iff] at hexec
    obtain ⟨-, rows, hrows, rfl⟩ := hexec
    obtain ⟨r', hr', ⟨hstatus, -, rfl⟩ | ⟨rfl, -⟩⟩ := complete_eq hrows
    · refine closed_put hr hclosed ?_
      intro hid
      have hkey : r'.recovery_id = a.recovery_id := Table.key_of_get? hr'
      change r'.recovery_id = id at hid
      rw [← hkey, hid, hr] at hr'
      cases hr'
      exact absurd hstatus hpending
    · exact ⟨r, hr, hclosed⟩
  | defer recovery_id diagnostic now =>
    simp only [exec, Option.bind_eq_some_iff, Option.map_eq_some_iff] at hexec
    obtain ⟨r', hr', rows, hrows, rfl⟩ := hexec
    rcases defer_eq hr' hrows with ⟨-, rfl⟩ | ⟨hstatus, detail, rfl⟩
    · exact ⟨r, hr, hclosed⟩
    · refine closed_put hr hclosed ?_
      intro hid
      have hkey : r'.recovery_id = recovery_id := Table.key_of_get? hr'
      change r'.recovery_id = id at hid
      rw [← hkey, hid, hr] at hr'
      cases hr'
      exact absurd hstatus hpending
  | abandon operation_id diagnostic =>
    simp only [exec, Option.map_eq_some_iff] at hexec
    obtain ⟨rows, hrows, rfl⟩ := hexec
    obtain ⟨-, detail, hget⟩ := abandon_eq hrows
    refine ⟨r.abandoned operation_id detail, ?_, ?_⟩
    · dsimp only
      rw [hget, hr]
      rfl
    · unfold AutoResearchRecoveryRecord.abandoned
      split
      · rfl
      · exact hclosed

theorem Closed.run {id : String} (h : sys.Closed id) (calls : List RecoveryCall) :
    (run max_attempts sys calls).Closed id :=
  invariant_along (I := fun sys => sys.Closed id) (P := fun _ _ => True)
    (fun _ _ _ h _ hexec => h.step hexec) h (along_of_take (fun _ _ _ => trivial))

/-! ### The count -/

/-- A call made for a child: its admission's completion, or its own failure. -/
inductive CallFor (a : ChildAdmission) : RecoveryCall → Prop
  | completion : CallFor a (.complete a)
  | failure (failure_kind : String) (retry_mode : AutoResearchRecoveryMode) (diagnostic : String)
      (now : Nat) : CallFor a (.schedule a.child failure_kind retry_mode diagnostic now)

/-- A call for a child records it with its recovery, and nothing else. -/
theorem CallFor.settled {a : ChildAdmission} {call : RecoveryCall} (hfor : CallFor a call)
    (ha : sys.is_child a = true) (hexec : sys.exec max_attempts call = some sys') :
    sys'.settled = sys.settled.insert (a.recovery_id, a.child) ∧
      sys'.deferrals = sys.deferrals := by
  cases hfor with
  | completion =>
    simp only [exec, Option.ite_none_right_eq_some, Option.map_eq_some_iff] at hexec
    obtain ⟨-, rows, -, rfl⟩ := hexec
    exact ⟨rfl, rfl⟩
  | failure =>
    simp only [is_child, Bool.and_eq_true, Option.any_eq_true, decide_eq_true_eq] at ha
    obtain ⟨-, j, hj, hjd⟩ := ha
    simp only [exec, hj, Option.bind_some, Option.map_eq_some_iff] at hexec
    obtain ⟨rows, -, rfl⟩ := hexec
    rw [hjd]
    exact ⟨rfl, rfl⟩

/-- A call for a child counts it unless it was counted before. -/
theorem Counted.call_counts (h : Counted max_attempts sys) {a : ChildAdmission}
    (ha : sys.is_child a = true) {call : RecoveryCall} (hfor : CallFor a call)
    (hcalls : sys.in_time call = true) (hexec : sys.exec max_attempts call = some sys')
    {r : AutoResearchRecoveryRecord} (hr : sys.rows.recoveries.get? a.recovery_id = some r) :
    ∃ r', sys'.rows.recoveries.get? a.recovery_id = some r' ∧
      r'.attempts = (if a.child ∈ reported sys.settled a.recovery_id then r.attempts
        else min max_attempts (r.attempts + 1)) ∧
      a.child ∈ reported sys'.settled a.recovery_id := by
  have hafter := h.step hcalls hexec
  obtain ⟨hsettled, hdeferrals⟩ := hfor.settled ha hexec
  have hreported : reported sys'.settled a.recovery_id
      = (reported sys.settled a.recovery_id).insert a.child := by
    rw [hsettled, reported_insert, if_pos rfl]
  have hmem : a.child ∈ reported sys'.settled a.recovery_id := by
    rw [hreported]
    exact List.mem_insert_self
  cases hr' : sys'.rows.recoveries.get? a.recovery_id with
  | none =>
    rw [(hafter.unopened _ hr').1] at hmem
    cases hmem
  | some r' =>
    refine ⟨r', rfl, ?_, hmem⟩
    rw [(hafter.row _ r' hr').attempts, hreported, hdeferrals]
    exact (h.row _ r hr).attempts_insert

/-- The row waits for a child of the heartbeat until one of its calls comes: a completion is
    accepted, and the chain has an attempt left. -/
theorem Counted.completion_accepted (h : Counted max_attempts sys) {a : ChildAdmission}
    (ha : a ∈ sys.admissions) (hfresh : a.child ∉ reported sys.settled a.recovery_id) :
    (∃ r, sys.rows.recoveries.get? a.recovery_id = some r ∧ r.attempts < max_attempts) ∧
      (sys.exec max_attempts (.complete a)).isSome = true := by
  have hmem : a ∈ sys.chain a.recovery_id := mem_chain.mpr ⟨ha, rfl⟩
  cases hr : sys.rows.recoveries.get? a.recovery_id with
  | none =>
    rw [h.bounded.unopened _ hr] at hmem
    cases hmem
  | some r =>
    obtain ⟨hparent, hpending⟩ := (h.row _ r hr).launched a hmem hfresh
    have hbounded := h.bounded.row _ r hr
    have hlt := (hbounded.pending hpending).1
    refine ⟨⟨r, rfl, hlt⟩, ?_⟩
    obtain ⟨hrec, j, hj, hjd⟩ := h.bounded.kin a ha
    rw [hparent] at hrec
    rw [← hbounded.limit] at hlt
    simp [exec, is_child, hparent, EpisodeStore.recovered_by_iff.mpr hrec, hj, hjd,
      RecoveryStore.complete_auto_research_recovery, hr, hpending, hlt]

/-- In every run the count stays within the limit, so do the children that the heartbeat admits,
    and a chain that is blocked or exhausted remains so. When the calls come in time, the count is
    that of the deferrals and of the tasks one of the two calls was made for, without the task
    that opened the chain. A child is counted by the first of its calls and by no other; for a
    child of the heartbeat a completion that would be the first is accepted, and there is an
    attempt left to count it. -/
theorem recoveries_counted_once (max_attempts : Nat) (calls : List RecoveryCall)
    (sys : Recoveries) (hsys : sys = run max_attempts {} calls) :
    (∀ id r, sys.rows.recoveries.get? id = some r → r.attempts ≤ max_attempts) ∧
    (∀ id, (sys.chain id).length ≤ max_attempts) ∧
    (∀ id, sys.Closed id → ∀ later, (run max_attempts sys later).Closed id) ∧
    (InTime max_attempts {} calls →
      (∀ id r, sys.rows.recoveries.get? id = some r → r.attempts
        = min max_attempts (sys.deferrals.count id + (reported sys.settled id).length - 1)) ∧
      (∀ a, sys.is_child a = true → ∀ call sys', CallFor a call → sys.in_time call = true →
        sys.exec max_attempts call = some sys' →
        ∀ r, sys.rows.recoveries.get? a.recovery_id = some r →
        ∃ r', sys'.rows.recoveries.get? a.recovery_id = some r' ∧
          r'.attempts = (if a.child ∈ reported sys.settled a.recovery_id then r.attempts
            else min max_attempts (r.attempts + 1)) ∧
          a.child ∈ reported sys'.settled a.recovery_id) ∧
      (∀ a ∈ sys.admissions, a.child ∉ reported sys.settled a.recovery_id →
        (∃ r, sys.rows.recoveries.get? a.recovery_id = some r ∧ r.attempts < max_attempts) ∧
          (sys.exec max_attempts (.complete a)).isSome = true)) := by
  have hbounded : Bounded max_attempts sys := by
    rw [hsys]
    exact bounded_run calls
  refine ⟨fun id r hr => (hbounded.row id r hr).below, ?_,
    fun id hclosed later => hclosed.run later, ?_⟩
  · intro id
    cases hr : sys.rows.recoveries.get? id with
    | none =>
      rw [hbounded.unopened id hr]
      exact Nat.zero_le _
    | some r => exact (hbounded.row id r hr).admitted
  · intro hcalls
    have hcounted : Counted max_attempts sys := by
      rw [hsys]
      exact counted_run hcalls
    refine ⟨fun id r hr => (hcounted.row id r hr).attempts, ?_,
      fun a ha hfresh => hcounted.completion_accepted ha hfresh⟩
    intro a ha call sys' hfor hcall hexec r hr
    exact hcounted.call_counts ha hfor hcall hexec hr

/-- The root fails. -/
def root_fails : List RecoveryCall :=
  [.store (.create_auto_research_episode_with_root_task
      { episode_id := "e", project_id := "p", mode := .auto_research, graph_target := .branch "e",
        invocation_ceiling := 5, authorized_by := some "human" }
      (EpisodeStore.sample_orchestrator "root" none 1) true true),
    .store (.transition_agent_task "root" .failed),
    .schedule "root" "provider" .exact "" 0]

/-- The heartbeat admits a child, which fails before its admission is recorded. -/
def child_fails (parent child : String) (attempt : Nat) : List RecoveryCall :=
  [.admission "task:root" (EpisodeStore.sample_orchestrator child (some parent) attempt) true,
    .store (.transition_agent_task child .failed),
    .schedule child "provider" .exact "" 0,
    .complete ⟨"task:root", parent, child⟩]

/-- A human retries a task, and the child fails. -/
def human_retries (parent child : String) (attempt : Nat) : List RecoveryCall :=
  [.store (.create_auto_research_recovery_task
      (EpisodeStore.sample_orchestrator child (some parent) attempt) true),
    .store (.transition_agent_task child .failed),
    .schedule child "provider" .exact "" 0]

theorem sample_recovery_counted :
    ∃ r, (run 3 {} (root_fails ++ child_fails "root" "child" 2
        ++ human_retries "child" "retry" 3)).rows.recoveries.get? "task:root" = some r ∧
      r.operation_id = "retry" ∧ r.attempts = min 3 (0 + 3 - 1) := by
  have hcalls : InTime 3 {} (root_fails ++ child_fails "root" "child" 2
      ++ human_retries "child" "retry" 3) := by
    simp only [InTime, Along, root_fails, child_fails, human_retries, List.cons_append,
      List.nil_append]
    decide +kernel
  obtain ⟨-, -, -, hin⟩ := recoveries_counted_once 3 (root_fails ++ child_fails "root" "child" 2
    ++ human_retries "child" "retry" 3) _ rfl
  have hrow : ((run 3 {} (root_fails ++ child_fails "root" "child" 2
      ++ human_retries "child" "retry" 3)).rows.recoveries.get? "task:root").map (·.operation_id)
      = some "retry" := by
    decide +kernel
  obtain ⟨r, hr, hop⟩ := Option.map_eq_some_iff.mp hrow
  refine ⟨r, hr, hop, ?_⟩
  rw [(hin hcalls).1 _ r hr]
  have hdeferrals : (run 3 {} (root_fails ++ child_fails "root" "child" 2
      ++ human_retries "child" "retry" 3)).deferrals.count "task:root" = 0 := by
    decide +kernel
  have hreported : (reported (run 3 {} (root_fails ++ child_fails "root" "child" 2
      ++ human_retries "child" "retry" 3)).settled "task:root").length = 3 := by
    decide +kernel
  rw [hdeferrals, hreported]

/-- The tasks that recover another one within an allocation, whoever started them. -/
def children (sys : Recoveries) (id : String) : List AutoResearchInvocationRecord :=
  sys.rows.store.auto_research_invocations.items.filter (fun i =>
    recovery_id_of i = id && i.operation_id ≠ i.allocation_operation_id)

/-- Three children fail, each admitted by the heartbeat. -/
def exhausted : List RecoveryCall :=
  root_fails ++ child_fails "root" "a" 2 ++ child_fails "a" "b" 3 ++ child_fails "b" "c" 4

/-- A human retries the last task of an exhausted chain: the chain has a child more than it may
    have attempts, and its failure is not counted. -/
theorem retried_when_exhausted :
    InTime 3 {} (exhausted ++ human_retries "c" "d" 5) ∧
    ((run 3 {} exhausted).rows.recoveries.get? "task:root").map (fun r => (r.attempts, r.status))
      = some (3, .exhausted) ∧
    ((run 3 {} (exhausted ++ human_retries "c" "d" 5)).children "task:root").length = 4 ∧
    ((run 3 {} (exhausted ++ human_retries "c" "d" 5)).rows.recoveries.get? "task:root").map
      (fun r => (r.operation_id, r.attempts, r.status)) = some ("d", 3, .exhausted) := by
  refine ⟨?_, ?_, ?_, ?_⟩
  · simp only [InTime, Along, exhausted, root_fails, child_fails, human_retries, List.cons_append,
      List.nil_append]
    decide +kernel
  · decide +kernel
  · decide +kernel
  · decide +kernel

end Recoveries

end ResearchGraph
