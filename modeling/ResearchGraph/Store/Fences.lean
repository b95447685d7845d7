import ResearchGraph.Store.Receipts
import ResearchGraph.Lib.Runs

/-! # Fences under retention

    A fence is a receipt that a loop reads to learn that it was given up or has
    ended. Runs of receipt insertions, prunes and task transitions are followed
    here, with the condition under which each step spares a fence.
-/

namespace ResearchGraph

/-- The categories that fence a loop. -/
def fence_categories : List String :=
  ["experiment_recovery_abandoned", "auto_research_recovery_abandoned", "experiment_loop_exit",
   "auto_research_orchestrator_failure"]

/-- A fence is never one of the protected dispatch receipts. -/
theorem fence_not_protected {r : Receipt} (h : r.category ∈ fence_categories) :
    r.is_protected = false := by
  simp only [fence_categories, List.mem_cons, List.not_mem_nil, or_false] at h
  rcases h with h | h | h | h <;> simp [Receipt.is_protected, dispatch_categories, h]

/-! ### Runs -/

/-- What happens to the store after a fence is committed. -/
inductive ReceiptOp
  | insert (operation_id category payload_json : String) (tier : ReceiptTier) (created_at : Int)
  | prune (now : Int)
  | transition (operation_id : String) (target : AgentTaskStatus)

namespace ReceiptStore

def apply (s : ReceiptStore) : ReceiptOp → ReceiptStore
  | .insert operation_id category payload_json tier created_at =>
    { s with
      receipts := insert_agent_task_receipt s.receipts operation_id category payload_json tier
        created_at }
  | .prune now => s.prune_operational_storage now
  | .transition operation_id target =>
    { s with tasks := transition_agent_task s.tasks operation_id target }

def run (s : ReceiptStore) (ops : List ReceiptOp) : ReceiptStore := Lib.run apply s ops

end ReceiptStore

/-- The steps a receipt outlives. An insertion must leave it inside the limit of its task and
    tier; a prune must find it in the summary tier, young, or of an active task. -/
def ReceiptOp.spares (s : ReceiptStore) (r : Receipt) : ReceiptOp → Prop
  | .insert operation_id _ _ tier _ =>
    r.operation_id = operation_id → r.tier = tier → crowding r s.receipts.rows + 1 < tier.retention
  | .prune now =>
    r.tier = .summary ∨ now - run_trace_retention ≤ r.created_at
      ∨ s.is_active r.operation_id = true
  | .transition _ _ => True

/-- Every step of a run spares the receipt in the state it starts from. -/
def run_spares (r : Receipt) (s : ReceiptStore) (ops : List ReceiptOp) : Prop :=
  Lib.Along ReceiptStore.apply (fun s op => op.spares s r) s ops

section
variable {s : ReceiptStore} {r : Receipt} {op : ReceiptOp} {ops : List ReceiptOp}

/-! ### One step -/

theorem mem_prune_iff (hr : r ∈ s.receipts.rows) (now : Int) :
    r ∈ (s.prune_operational_storage now).receipts.rows ↔ (ReceiptOp.prune now).spares s r := by
  unfold ReceiptStore.prune_operational_storage ReceiptOp.spares
  rw [ReceiptTable.mem_delete, and_iff_right hr]
  cases htier : r.tier <;> by_cases hact : s.is_active r.operation_id = true <;>
    simp [hact]

/-- A fence outlives a step exactly when the step spares it. -/
theorem fence_mem_apply_iff (hr : r ∈ s.receipts.rows) (hf : r.category ∈ fence_categories)
    (op : ReceiptOp) : r ∈ (s.apply op).receipts.rows ↔ op.spares s r := by
  cases op with
  | insert operation_id category payload_json tier created_at =>
    show r ∈ (insert_agent_task_receipt _ _ _ _ _ _).rows ↔ _
    rw [mem_insert_iff hr]
    simp [ReceiptOp.spares, Receipt.of_tier, fence_not_protected hf]
  | prune now => exact mem_prune_iff hr now
  | transition operation_id target => simp [ReceiptStore.apply, ReceiptOp.spares, hr]

/-- The tasks after a step: only statuses differ, and only active ones. -/
theorem mem_tasks_apply {run : AgentTask} (h : run ∈ (s.apply op).tasks) :
    ∃ old ∈ s.tasks,
      run = old ∨ ∃ status, old.status.active = true ∧ run = { old with status := status } := by
  cases op with
  | transition operation_id target =>
    obtain ⟨old, hold, heq | ⟨hact, heq⟩⟩ := mem_transition_agent_task h
    · exact ⟨old, hold, .inl heq⟩
    · exact ⟨old, hold, .inr ⟨target, hact, heq⟩⟩
  | _ => exact ⟨run, h, .inl rfl⟩

theorem has_recovery_child_apply (run : AgentTask) (op : ReceiptOp) :
    (s.apply op).has_recovery_child run = s.has_recovery_child run := by
  cases op with
  | transition operation_id target =>
    unfold ReceiptStore.has_recovery_child ReceiptStore.apply transition_agent_task
    rw [List.any_map]
    congr 1
    funext child
    simp only [Function.comp]
    split <;> rfl
  | _ => rfl

/-! ### Whole runs -/

/-- A fence stands in every state of a run exactly when every step spares it. -/
theorem fence_mem_run_iff (hr : r ∈ s.receipts.rows) (hf : r.category ∈ fence_categories) :
    (∀ k, r ∈ (s.run (ops.take k)).receipts.rows) ↔ run_spares r s ops := by
  induction ops generalizing s with
  | nil => simp [run_spares, Lib.Along, ReceiptStore.run, hr]
  | cons op ops ih =>
    constructor
    · intro h
      have hstep : r ∈ (s.apply op).receipts.rows := by simpa [ReceiptStore.run] using h 1
      refine ⟨(fence_mem_apply_iff hr hf op).mp hstep, (ih hstep).mp (fun k => ?_)⟩
      simpa [ReceiptStore.run] using h (k + 1)
    · rintro ⟨hspare, hrest⟩ k
      have hstep := (fence_mem_apply_iff hr hf op).mpr hspare
      cases k with
      | zero => simpa [ReceiptStore.run] using hr
      | succ k => simpa [ReceiptStore.run] using (ih hstep).mpr hrest k

theorem fence_mem_run (hr : r ∈ s.receipts.rows) (hf : r.category ∈ fence_categories)
    (h : run_spares r s ops) : r ∈ (s.run ops).receipts.rows := by
  have := (fence_mem_run_iff hr hf).mpr h ops.length
  rwa [List.take_length] at this

theorem mem_tasks_run {run : AgentTask} (h : run ∈ (s.run ops).tasks) :
    ∃ old ∈ s.tasks,
      run = old ∨ ∃ status, old.status.active = true ∧ run = { old with status := status } := by
  induction ops generalizing s with
  | nil => exact ⟨run, h, .inl rfl⟩
  | cons op ops ih =>
    obtain ⟨mid, hmid, hrun⟩ := ih h
    obtain ⟨old, hold, hmid'⟩ := mem_tasks_apply hmid
    refine ⟨old, hold, ?_⟩
    rcases hmid' with rfl | ⟨status, hact, rfl⟩
    · exact hrun
    · rcases hrun with rfl | ⟨status', -, rfl⟩
      · exact .inr ⟨status, hact, rfl⟩
      · exact .inr ⟨status', hact, rfl⟩

/-- What no step touches is the same at the end of a run. -/
theorem run_keeps {α : Type} {f : ReceiptStore → α} (h : ∀ s op, f (s.apply op) = f s) :
    f (s.run ops) = f s :=
  Lib.related_run (R := fun a b => f b = f a) (fun _ => rfl) (fun hab hbc => hbc.trans hab) h

theorem run_recoveries (ops : List ReceiptOp) : (s.run ops).recoveries = s.recoveries := by
  apply run_keeps
  intro s op
  cases op <;> rfl

theorem run_invocations (ops : List ReceiptOp) : (s.run ops).invocations = s.invocations := by
  apply run_keeps
  intro s op
  cases op <;> rfl

/-- Every fence of the store is spared by every step. -/
def FencesSpared (s : ReceiptStore) (ops : List ReceiptOp) : Prop :=
  ∀ r ∈ s.receipts.rows, r.category ∈ fence_categories → run_spares r s ops

theorem has_receipt_run {operation_id category : String} (hf : category ∈ fence_categories)
    (h : FencesSpared s ops) (hs : s.has_receipt operation_id category = true) :
    (s.run ops).has_receipt operation_id category = true := by
  unfold ReceiptStore.has_receipt at hs ⊢
  obtain ⟨r, hr, hc⟩ := List.any_eq_true.mp hs
  have hcat : r.category = category := by simp_all
  refine List.any_eq_true.mpr ⟨r, ?_, hc⟩
  have hrf : r.category ∈ fence_categories := by rw [hcat]; exact hf
  exact fence_mem_run hr hrf (h r hr hrf)

/-- A settled task stays settled: what settles it is a child, a fence, or a status that is not
    active and so does not move. -/
theorem is_settled_run (h : FencesSpared s ops) {old run : AgentTask} {i : AutoResearchInvocation}
    (hold : run = old ∨ ∃ status, old.status.active = true ∧ run = { old with status := status })
    (hs : s.is_settled old i = true) : (s.run ops).is_settled run i = true := by
  have hid : run.operation_id = old.operation_id := by
    rcases hold with rfl | ⟨status, -, rfl⟩ <;> rfl
  have hchild : (s.run ops).has_recovery_child run = s.has_recovery_child old := by
    rw [run_keeps (f := fun s => s.has_recovery_child run)
      (fun s op => has_recovery_child_apply run op)]
    rcases hold with rfl | ⟨status, -, rfl⟩ <;> rfl
  unfold ReceiptStore.is_settled at hs ⊢
  rw [hchild, hid]
  by_cases hfenced : (s.has_recovery_child old
      || s.has_receipt old.operation_id "auto_research_recovery_abandoned"
      || s.has_receipt old.operation_id "auto_research_orchestrator_failure") = true
  · have hafter : (s.has_recovery_child old
        || (s.run ops).has_receipt old.operation_id "auto_research_recovery_abandoned"
        || (s.run ops).has_receipt old.operation_id "auto_research_orchestrator_failure")
          = true := by
      simp only [Bool.or_eq_true] at hfenced ⊢
      rcases hfenced with (hc | ha) | hfail
      · exact .inl (.inl hc)
      · exact .inl (.inr (has_receipt_run (by decide) h ha))
      · exact .inr (has_receipt_run (by decide) h hfail)
    rw [if_pos hafter]
  · rw [if_neg hfenced] at hs
    split
    · rfl
    · -- no fence settled it, so its status is not active and the row is the old one
      have hinactive : old.status.active = false := by
        by_contra hact
        have hact : old.status.active = true := by simpa using hact
        simp [hact] at hs
      have hrun : run = old := by
        rcases hold with heq | ⟨status, hact, -⟩
        · exact heq
        · rw [hinactive] at hact
          exact absurd hact (by decide)
      have hrec : (s.run ops).recovery_status run i = s.recovery_status old i := by
        unfold ReceiptStore.recovery_status
        rw [run_recoveries, hrun]
      rw [hrec, hrun]
      exact hs

/-- Where the fences are spared, a quiescent episode stays quiescent. -/
theorem quiescent_run (h : FencesSpared s ops) {episode_id : String}
    (hq : s.auto_research_is_quiescent episode_id = true) :
    (s.run ops).auto_research_is_quiescent episode_id = true := by
  unfold ReceiptStore.auto_research_is_quiescent at hq ⊢
  rw [run_invocations]
  refine List.all_eq_true.mpr (fun run hrun => List.all_eq_true.mpr (fun i hi => ?_))
  obtain ⟨old, hold, heq⟩ := mem_tasks_run hrun
  have hid : run.operation_id = old.operation_id := by
    rcases heq with rfl | ⟨status, -, rfl⟩ <;> rfl
  have hpair := List.all_eq_true.mp (List.all_eq_true.mp hq old hold) i hi
  rw [hid]
  split
  · rename_i hc
    rw [if_pos hc] at hpair
    exact is_settled_run h heq hpair
  · rfl

end

/-- A fence stands through a run exactly when every step of it spares it. Where all fences are
    spared, an abandoned recovery stays abandoned and a quiescent episode stays quiescent. -/
theorem fences_survive_iff (s : ReceiptStore) (ops : List ReceiptOp) :
    (∀ r ∈ s.receipts.rows, r.category ∈ fence_categories →
      ((∀ k, r ∈ (s.run (ops.take k)).receipts.rows) ↔ run_spares r s ops)) ∧
    (FencesSpared s ops →
      (∀ operation_id category, category ∈ fence_categories →
        s.has_receipt operation_id category = true →
        (s.run ops).has_receipt operation_id category = true) ∧
      ∀ episode_id, s.auto_research_is_quiescent episode_id = true →
        (s.run ops).auto_research_is_quiescent episode_id = true) := by
  refine ⟨fun r hr hf => fence_mem_run_iff hr hf, fun h => ⟨?_, ?_⟩⟩
  · intro operation_id category hf hs
    exact has_receipt_run hf h hs
  · intro episode_id hq
    exact quiescent_run h hq

/-! ### A store with one paused orchestrator -/

/-- The orchestrator of an episode was paused, and its recovery is still open. -/
def paused_orchestrator : ReceiptStore where
  tasks := [{ operation_id := "root", project_id := "p", kind := .auto_research,
              status := .paused, episode_id := some "ep" }]
  invocations := [⟨"ep", "root", .orchestrator, "root"⟩]
  recoveries := []
  receipts := ⟨[], 1, List.Pairwise.nil, by simp⟩

/-- The same store after the loop exit of its task was recorded in the summary tier. -/
def exited_orchestrator : ReceiptStore :=
  paused_orchestrator.apply
    (.insert "root" "auto_research_orchestrator_failure" "detail" .summary 0)

/-- A year of pruning and one more receipt leave a fence of the summary tier in place. -/
theorem summary_fence_survives :
    FencesSpared exited_orchestrator
        [.prune (365 * 24 * 60 * 60), .insert "root" "operation_interrupted" "detail" .summary 5] ∧
      (exited_orchestrator.run
        [.prune (365 * 24 * 60 * 60), .insert "root" "operation_interrupted" "detail" .summary 5]
        ).auto_research_is_quiescent "ep" = true := by
  have hspared : FencesSpared exited_orchestrator
      [.prune (365 * 24 * 60 * 60),
        .insert "root" "operation_interrupted" "detail" .summary 5] := by
    have hrows : exited_orchestrator.receipts.rows
        = [⟨1, "root", 0, .summary, "auto_research_orchestrator_failure", "detail"⟩] := by decide
    intro r hr hf
    rw [hrows] at hr
    rw [List.mem_singleton.mp hr]
    exact ⟨.inl rfl, fun _ _ => by decide, trivial⟩
  exact ⟨hspared, ((fences_survive_iff _ _).2 hspared).2 "ep" (by decide)⟩

/-- An abandonment is written in the diagnostic tier: ninety-one days later a prune removes it,
    the recovery is open again and the episode is no longer quiescent. -/
theorem abandonment_pruned :
    ∃ s, paused_orchestrator.abandon_auto_research_recovery "root" "detail" 0 = some s ∧
      s.has_receipt "root" "auto_research_recovery_abandoned" = true ∧
      s.auto_research_is_quiescent "ep" = true ∧
      (s.run [.prune (91 * 24 * 60 * 60)]).has_receipt "root"
        "auto_research_recovery_abandoned" = false ∧
      (s.run [.prune (91 * 24 * 60 * 60)]).auto_research_is_quiescent "ep" = false := by
  refine ⟨_, rfl, ?_, ?_, ?_, ?_⟩ <;> decide

end ResearchGraph
