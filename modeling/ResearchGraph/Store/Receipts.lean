import ResearchGraph.Store.Tasks
import ResearchGraph.Lib.Newest

/-! # Task receipts and their retention

    Receipts are appended to `graph_run_receipts` under increasing ids. Two
    paths delete them again: every insertion keeps the newest receipts of its
    task and tier, and the storage prune ages out the lower tiers of tasks that
    are no longer active. Some receipts are fences: recovery, the loop runtime
    and quiescence read them long after they were written.
-/

namespace ResearchGraph

/-! ### The table -/

inductive ReceiptTier
  | summary
  | diagnostic
  | trace
  deriving DecidableEq, Repr

/-- A row of `graph_run_receipts`. Instants are counted in seconds. -/
structure Receipt where
  receipt_id : Nat
  operation_id : String
  created_at : Int
  tier : ReceiptTier
  category : String
  payload_json : String
  deriving DecidableEq, Repr

/-- The rows with their counter. The ids increase and stay below it. -/
structure ReceiptTable where
  rows : List Receipt
  next_id : Nat
  numbered : Lib.Increasing Receipt.receipt_id rows
  below : ∀ r ∈ rows, r.receipt_id < next_id

namespace ReceiptTable

def append (t : ReceiptTable) (operation_id : String) (created_at : Int) (tier : ReceiptTier)
    (category payload_json : String) : ReceiptTable where
  rows := t.rows ++ [⟨t.next_id, operation_id, created_at, tier, category, payload_json⟩]
  next_id := t.next_id + 1
  numbered := by
    refine List.pairwise_append.mpr ⟨t.numbered, List.pairwise_singleton _ _, ?_⟩
    intro a ha b hb
    rw [List.mem_singleton.mp hb]
    exact t.below a ha
  below := by
    intro r hr
    rcases List.mem_append.mp hr with hr | hr
    · have := t.below r hr
      omega
    · rw [List.mem_singleton.mp hr]
      exact Nat.lt_succ_self _

def delete (t : ReceiptTable) (p : Receipt → Bool) : ReceiptTable where
  rows := t.rows.filter (fun r => !p r)
  next_id := t.next_id
  numbered := t.numbered.filter _
  below := fun r hr => t.below r (List.mem_of_mem_filter hr)

theorem mem_delete {t : ReceiptTable} {p : Receipt → Bool} {r : Receipt} :
    r ∈ (t.delete p).rows ↔ r ∈ t.rows ∧ p r = false := by
  simp [delete]

end ReceiptTable

/-! ### Insertion with its retention -/

/-- `AGENT_TASK_RECEIPT_RETENTION_COUNTS`. -/
def ReceiptTier.retention : ReceiptTier → Nat
  | .summary => 64
  | .diagnostic => 32
  | .trace => 16

/-- The categories an insertion counts but never deletes. -/
def dispatch_categories : List String :=
  ["operation_admitted", "operation_dispatch_attempt", "operation_dispatch_failed_before_start",
   "operation_dispatch_started", "operation_dispatch_reset"]

namespace Receipt

def of_tier (operation_id : String) (tier : ReceiptTier) (r : Receipt) : Bool :=
  r.operation_id = operation_id && r.tier = tier

def is_protected (r : Receipt) : Bool := dispatch_categories.contains r.category

end Receipt

/-- The protected receipts of one task and tier. -/
def protected_receipts (operation_id : String) (tier : ReceiptTier) (rows : List Receipt) :
    List Receipt :=
  rows.filter (fun r => r.of_tier operation_id tier && r.is_protected)

/-- The other receipts of one task and tier. -/
def ordinary_receipts (operation_id : String) (tier : ReceiptTier) (rows : List Receipt) :
    List Receipt :=
  rows.filter (fun r => r.of_tier operation_id tier && !r.is_protected)

/-- `_insert_agent_task_receipt`. -/
def insert_agent_task_receipt (t : ReceiptTable) (operation_id category payload_json : String)
    (tier : ReceiptTier) (created_at : Int) : ReceiptTable :=
  let t := t.append operation_id created_at tier category payload_json
  let ordinary_limit := tier.retention - (protected_receipts operation_id tier t.rows).length
  let kept := (Lib.newest Receipt.receipt_id ordinary_limit
    (ordinary_receipts operation_id tier t.rows)).map Receipt.receipt_id
  t.delete (fun r =>
    r.of_tier operation_id tier && !r.is_protected && !kept.contains r.receipt_id)

/-- The receipts of a task and tier that count against an ordinary one of them: the protected
    ones and the newer ordinary ones. -/
def crowding (r : Receipt) (rows : List Receipt) : Nat :=
  (protected_receipts r.operation_id r.tier rows).length +
    (Lib.newer Receipt.receipt_id r (ordinary_receipts r.operation_id r.tier rows)).length

/-- One more receipt of the task and tier, whichever it is, adds one to the crowd. -/
theorem crowding_append {t : ReceiptTable} {r : Receipt} (hr : r ∈ t.rows) (created_at : Int)
    (category payload_json : String) :
    crowding r (t.append r.operation_id created_at r.tier category payload_json).rows
      = crowding r t.rows + 1 := by
  have hlt := t.below r hr
  unfold crowding protected_receipts ordinary_receipts Lib.newer ReceiptTable.append
  simp only [List.filter_append, List.length_append]
  by_cases hp : category ∈ dispatch_categories
  · simp [Receipt.of_tier, Receipt.is_protected, hp]
    omega
  · simp [Receipt.of_tier, Receipt.is_protected, hp, hlt]
    omega

/-- What an insertion keeps of the rows before it: another task's or tier's receipts, protected
    ones, and those the limit still covers. -/
theorem mem_insert_iff {t : ReceiptTable} {r : Receipt} (hr : r ∈ t.rows)
    {operation_id category payload_json : String} {tier : ReceiptTier} {created_at : Int} :
    r ∈ (insert_agent_task_receipt t operation_id category payload_json tier created_at).rows ↔
      (r.of_tier operation_id tier = true → r.is_protected = false →
        crowding r t.rows + 1 < tier.retention) := by
  have happ : r ∈ (t.append operation_id created_at tier category payload_json).rows :=
    List.mem_append_left _ hr
  unfold insert_agent_task_receipt
  rw [ReceiptTable.mem_delete, and_iff_right happ]
  by_cases hof : r.of_tier operation_id tier = true
  · by_cases hp : r.is_protected = true
    · simp [hp]
    · have hp : r.is_protected = false := by simpa using hp
      -- the receipt is ordinary: its place among the newest decides
      obtain ⟨hop, htier⟩ : r.operation_id = operation_id ∧ r.tier = tier := by
        simpa [Receipt.of_tier] using hof
      subst hop htier
      have hcrowd := crowding_append hr created_at category payload_json
      unfold crowding at hcrowd
      generalize t.append r.operation_id created_at r.tier category payload_json = t' at *
      have hmem : r ∈ ordinary_receipts r.operation_id r.tier t'.rows := by
        simp [ordinary_receipts, happ, hof, hp]
      have hkept : ((Lib.newest Receipt.receipt_id
            (r.tier.retention - (protected_receipts r.operation_id r.tier t'.rows).length)
            (ordinary_receipts r.operation_id r.tier t'.rows)).map Receipt.receipt_id).contains
            r.receipt_id = true ↔ crowding r t.rows + 1 < r.tier.retention := by
        have hinc : Lib.Increasing Receipt.receipt_id
            (ordinary_receipts r.operation_id r.tier t'.rows) := t'.numbered.filter _
        rw [List.contains_iff_mem, List.mem_map]
        constructor
        · rintro ⟨q, hq, hid⟩
          have hqr : q = r := by
            have hq' := List.mem_of_mem_filter ((Lib.mem_newest_iff hinc).mp hq).1
            exact t'.numbered.eq_of_key hq' happ hid
          rw [hqr] at hq
          have := ((Lib.mem_newest_iff hinc).mp hq).2
          unfold crowding
          omega
        · intro hlt
          refine ⟨r, (Lib.mem_newest_iff hinc).mpr ⟨hmem, ?_⟩, rfl⟩
          unfold crowding at hlt
          omega
      simp only [hof, hp, Bool.not_false, Bool.and_true, Bool.true_and, Bool.not_eq_false',
        forall_const]
      exact hkept
  · simp [hof]

/-! ### The store -/

inductive AutoResearchRecoveryStatus
  | pending
  | admitted
  | exhausted
  | blocked
  deriving DecidableEq, Repr

/-- A row of `auto_research_recoveries`. -/
structure AutoResearchRecovery where
  episode_id : String
  operation_id : String
  admitted_operation_id : Option String := none
  status : AutoResearchRecoveryStatus
  updated_at : Int
  deriving DecidableEq, Repr

structure ReceiptStore where
  tasks : List AgentTask
  invocations : List AutoResearchInvocation
  recoveries : List AutoResearchRecovery
  receipts : ReceiptTable

/-- `RUN_TRACE_RETENTION_DAYS`, in seconds. -/
def run_trace_retention : Int := 90 * 24 * 60 * 60

namespace ReceiptStore

/-- Whether a task is in one of the active statuses. -/
def is_active (s : ReceiptStore) (operation_id : String) : Bool :=
  s.tasks.any (fun run => run.operation_id = operation_id && run.status.active)

/-- `prune_operational_storage`, its pass over the receipts. -/
def prune_operational_storage (s : ReceiptStore) (now : Int) : ReceiptStore :=
  let trace_cutoff := now - run_trace_retention
  { s with
    receipts := s.receipts.delete (fun r =>
      r.created_at < trace_cutoff && (r.tier = .diagnostic || r.tier = .trace)
        && !s.is_active r.operation_id) }

/-- Whether a task has a receipt of a category. -/
def has_receipt (s : ReceiptStore) (operation_id category : String) : Bool :=
  s.receipts.rows.any (fun r => r.operation_id = operation_id && r.category = category)

/-- `abandon_auto_research_recovery`: the receipt is written past the retention, once, and the
    recoveries of the task are blocked. A task that Auto-research never invoked is refused. -/
def abandon_auto_research_recovery (s : ReceiptStore) (operation_id payload_json : String)
    (now : Int) : Option ReceiptStore :=
  if s.tasks.any (fun run => run.operation_id = operation_id) &&
      s.invocations.any (fun i => i.operation_id = operation_id) then
    some { s with
      receipts :=
        if s.has_receipt operation_id "auto_research_recovery_abandoned" then s.receipts
        else s.receipts.append operation_id now .diagnostic "auto_research_recovery_abandoned"
          payload_json
      recoveries := s.recoveries.map (fun recovery =>
        if recovery.operation_id = operation_id
            || recovery.admitted_operation_id = some operation_id then
          { recovery with status := .blocked, updated_at := now }
        else recovery) }
  else none

/-! ### Quiescence -/

def has_recovery_child (s : ReceiptStore) (run : AgentTask) : Bool :=
  s.tasks.any (fun child =>
    child.parent_operation_id = some run.operation_id && child.episode_id = run.episode_id
      && child.attempt = run.attempt + 1)

/-- The status of the recovery of a task that was updated last. -/
def recovery_status (s : ReceiptStore) (run : AgentTask) (i : AutoResearchInvocation) :
    Option AutoResearchRecoveryStatus :=
  let rows := s.recoveries.filter (fun recovery =>
    recovery.episode_id = i.episode_id && (recovery.operation_id = run.operation_id
      || recovery.admitted_operation_id = some run.operation_id))
  (rows.insertionSort (fun a b => b.updated_at ≤ a.updated_at)).head?.map (·.status)

/-- Whether one task of the mode no longer holds the ending back. -/
def is_settled (s : ReceiptStore) (run : AgentTask) (i : AutoResearchInvocation) : Bool :=
  if s.has_recovery_child run
      || s.has_receipt run.operation_id "auto_research_recovery_abandoned"
      || s.has_receipt run.operation_id "auto_research_orchestrator_failure" then true
  else if run.status.active || run.status = .paused then false
  else !((run.status = .failed || run.status = .interrupted) && i.role = .orchestrator
    && s.recovery_status run i ≠ some .blocked && s.recovery_status run i ≠ some .exhausted)

/-- `auto_research_is_quiescent`. -/
def auto_research_is_quiescent (s : ReceiptStore) (episode_id : String) : Bool :=
  s.tasks.all (fun run => s.invocations.all (fun i =>
    if i.operation_id = run.operation_id && i.episode_id = episode_id then s.is_settled run i
    else true))

end ReceiptStore

end ResearchGraph
