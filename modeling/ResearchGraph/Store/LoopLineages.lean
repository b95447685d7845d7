import ResearchGraph.Store.ExperimentStops

/-! # The lineages of an Experiment loop

    The attempts of one invocation form a chain: every attempt but the first
    continues an earlier one of the same invocation, and every attempt but the
    newest is continued. Nothing here depends on the statuses of the tasks, so
    the chains are those of the rows with their status left out.
-/

namespace ResearchGraph

open Lib

/-! ### Rows without their status -/

/-- A task without its status. -/
def AgentTaskRecord.shape (t : AgentTaskRecord) : AgentTaskRecord := { t with status := .queued }

/-- Two tasks of one invocation of a loop. -/
structure SameInvocation (a b : AgentTaskRecord) : Prop where
  loop : a.request.experiment_loop = true ∧ b.request.experiment_loop = true
  project_id : a.project_id = b.project_id
  control_node_id : a.request.control_node_id = b.request.control_node_id
  control_episode_id : a.request.control_episode_id = b.request.control_episode_id
  control_invocation : a.request.control_invocation = b.request.control_invocation

namespace SameInvocation

variable {a b c : AgentTaskRecord}

theorem symm (h : SameInvocation a b) : SameInvocation b a :=
  ⟨⟨h.loop.2, h.loop.1⟩, h.project_id.symm, h.control_node_id.symm, h.control_episode_id.symm,
    h.control_invocation.symm⟩

theorem trans (h : SameInvocation a b) (h' : SameInvocation b c) : SameInvocation a c :=
  ⟨⟨h.loop.1, h'.loop.2⟩, h.project_id.trans h'.project_id,
    h.control_node_id.trans h'.control_node_id,
    h.control_episode_id.trans h'.control_episode_id,
    h.control_invocation.trans h'.control_invocation⟩

theorem shape_iff : SameInvocation a.shape b.shape ↔ SameInvocation a b :=
  ⟨fun h => ⟨h.1, h.2, h.3, h.4, h.5⟩, fun h => ⟨h.1, h.2, h.3, h.4, h.5⟩⟩

end SameInvocation

/-- The attempts of every invocation form a chain. -/
structure Chained (rows : List AgentTaskRecord) : Prop where
  parent : ∀ t ∈ rows, t.request.experiment_loop = true → ∀ parent_id,
    t.parent_operation_id = some parent_id → ∃ p ∈ rows, p.operation_id = parent_id
      ∧ SameInvocation p t ∧ p.attempt < t.attempt
  superseded : ∀ a ∈ rows, ∀ b ∈ rows, SameInvocation a b → a.attempt < b.attempt →
    ∃ c ∈ rows, c.parent_operation_id = some a.operation_id
  distinct : ∀ a ∈ rows, ∀ b ∈ rows, SameInvocation a b → a.attempt = b.attempt →
    a.operation_id = b.operation_id

/-- The place a new task takes: outside every loop, first of its invocation, or next to the newest
    attempt of it. -/
inductive TakesPlace (rows : List AgentTaskRecord) (t : AgentTaskRecord) : Prop
  | outside (hloop : t.request.experiment_loop = false)
  | root (hparent : t.parent_operation_id = none) (hfirst : ∀ r ∈ rows, ¬ SameInvocation r t)
  | next (p : AgentTaskRecord) (hp : p ∈ rows) (hsame : SameInvocation p t)
      (hparent : t.parent_operation_id = some p.operation_id)
      (hattempt : t.attempt = p.attempt + 1)
      (hnewest : ∀ r ∈ rows, SameInvocation r t → r.attempt ≤ p.attempt)

namespace Chained

variable {rows : List AgentTaskRecord} {t : AgentTaskRecord}

theorem append (h : Chained rows) (ht : TakesPlace rows t) : Chained (rows ++ [t]) := by
  have hold : ∀ {r}, r ∈ rows ++ [t] → r ∈ rows ∨ r = t := by simp
  have hkeep : ∀ {r}, r ∈ rows → r ∈ rows ++ [t] := fun hr => List.mem_append_left _ hr
  -- two tasks of one invocation are both old, both new, or the new one comes next to the newest
  have hnext : ∀ r ∈ rows, SameInvocation r t → ∃ p ∈ rows, SameInvocation p t
      ∧ t.parent_operation_id = some p.operation_id ∧ t.attempt = p.attempt + 1
      ∧ r.attempt ≤ p.attempt := by
    intro r hr hsame
    cases ht with
    | outside hloop =>
      rw [hsame.loop.2] at hloop
      cases hloop
    | root hparent hfirst => exact absurd hsame (hfirst r hr)
    | next p hp hpsame hparent hattempt hnewest =>
      exact ⟨p, hp, hpsame, hparent, hattempt, hnewest r hr hsame⟩
  constructor
  · intro r hr hloop parent_id hparent
    rcases hold hr with hr | rfl
    · obtain ⟨p, hp, h'⟩ := h.parent r hr hloop parent_id hparent
      exact ⟨p, hkeep hp, h'⟩
    · cases ht with
      | outside hout =>
        rw [hloop] at hout
        cases hout
      | root hnone _ =>
        rw [hnone] at hparent
        cases hparent
      | next p hp hsame hpid hattempt _ =>
        rw [hpid] at hparent
        cases hparent
        exact ⟨p, hkeep hp, rfl, hsame, by omega⟩
  · intro a ha b hb hsame hlt
    rcases hold ha with ha₀ | rfl
    · rcases hold hb with hb₀ | rfl
      · obtain ⟨c, hc, hpid⟩ := h.superseded a ha₀ b hb₀ hsame hlt
        exact ⟨c, hkeep hc, hpid⟩
      · obtain ⟨p, hp, hpsame, hparent, hattempt, hle⟩ := hnext a ha₀ hsame
        have hsame' : SameInvocation a p := hsame.trans hpsame.symm
        by_cases heq : a.attempt = p.attempt
        · refine ⟨b, List.mem_append_right _ (List.mem_singleton.mpr rfl), ?_⟩
          rw [hparent, h.distinct a ha₀ p hp hsame' heq]
        · obtain ⟨c, hc, hpid⟩ := h.superseded a ha₀ p hp hsame' (by omega)
          exact ⟨c, hkeep hc, hpid⟩
    · rcases hold hb with hb₀ | rfl
      · obtain ⟨p, -, -, -, hattempt, hle⟩ := hnext b hb₀ hsame.symm
        omega
      · omega
  · intro a ha b hb hsame heq
    rcases hold ha with ha₀ | rfl
    · rcases hold hb with hb₀ | rfl
      · exact h.distinct a ha₀ b hb₀ hsame heq
      · obtain ⟨p, -, -, -, hattempt, hle⟩ := hnext a ha₀ hsame
        omega
    · rcases hold hb with hb₀ | rfl
      · obtain ⟨p, -, -, -, hattempt, hle⟩ := hnext b hb₀ hsame.symm
        omega
      · rfl

end Chained

namespace EpisodeStore

variable {s s' : EpisodeStore} {task : Option AgentTaskRecord}

/-- The rows of `graph_runs` without their status. -/
def shapes (s : EpisodeStore) : List AgentTaskRecord := s.tasks.items.map AgentTaskRecord.shape

theorem mem_shapes {r : AgentTaskRecord} : r ∈ s.shapes ↔ ∃ t ∈ s.tasks.items, t.shape = r :=
  List.mem_map

theorem shape_mem {t : AgentTaskRecord} (h : t ∈ s.tasks.items) : t.shape ∈ s.shapes :=
  List.mem_map.mpr ⟨t, h, rfl⟩

/-- A step changes statuses, or adds one row. -/
theorem TaskStep.shapes (h : TaskStep task s s') :
    s'.shapes = s.shapes ∨ ∃ (t : AgentTaskRecord) (v : EpisodeStore) (repair : Bool),
      task = some t ∧ s.tasks.get? t.operation_id = none ∧ v.tasks = s.tasks
        ∧ v.validate_experiment_task_insert t repair = true ∧ s'.tasks = s.tasks.put t
        ∧ s'.shapes = s.shapes ++ [t.shape] := by
  cases h with
  | same ht =>
    left
    unfold EpisodeStore.shapes
    rw [ht]
  | moved id status _ ht =>
    left
    unfold EpisodeStore.shapes
    rw [ht]
    show (s.tasks.items.map _).map AgentTaskRecord.shape = _
    rw [List.map_map]
    apply List.map_congr_left
    intro t _
    show (if t.operation_id = id then { t with status := status } else t).shape = t.shape
    split <;> rfl
  | inserted t v repair htask hnew hv hexp _ _ _ ht =>
    refine .inr ⟨t, v, repair, htask, hnew, hv, hexp, ht, ?_⟩
    unfold EpisodeStore.shapes
    rw [ht, Table.items_put_of_fresh _ hnew, List.map_append]
    rfl

/-! ### Admissions as their callers make them -/

/-- A task that continues another one continues a stored task, and as its next attempt where one
    of the two is of a loop. -/
def continues (s : EpisodeStore) (t : AgentTaskRecord) : Prop :=
  ∀ parent_id, t.parent_operation_id = some parent_id →
    ∃ p, s.tasks.get? parent_id = some p ∧ p.request.experiment_loop = t.request.experiment_loop
      ∧ (t.request.experiment_loop = true → t.attempt = p.attempt + 1)

/-- The operations as their callers use them: the tasks of a loop are node chats, a task continues
    one of its kind, an Experiment episode starts with its first paid task, and no caller pays
    through the operations that know no mode. Only Stop abandons a recovery of a loop. -/
def called (s : EpisodeStore) (op : EpisodeOp) : Prop :=
  (∀ t, op.task = some t → t.request.experiment_loop = true → t.kind = .node_chat)
    ∧ match op with
      | .create_episode e => e.mode = .auto_research
      | .create_episode_with_invocation .. | .allocate_episode_invocation ..
      | .abandon_experiment_recovery _ => False
      | .begin_episode_wrapup .. => True
      | .create_watcher_notification_task t _ _ =>
        t.request.experiment_loop = false ∧ s.continues t
      | _ => ∀ t, op.task = some t → s.continues t

/-- What is paid for is a root of its loop. -/
theorem called_pays {op : EpisodeOp} (h : s.called op) : s.loops_paid op := by
  cases op with
  | create_episode_with_invocation => exact h.2.elim
  | allocate_episode_invocation => exact h.2.elim
  | create_watcher_notification_task => exact h.2.1
  | _ => trivial

/-! ### The place of a new task -/

theorem attempt_le_total (a b : AgentTaskRecord) :
    attempt_le a b = true ∨ attempt_le b a = true := by
  simp only [attempt_le, Bool.or_eq_true, Bool.and_eq_true, decide_eq_true_eq]
  omega

theorem attempt_le_trans (a b c : AgentTaskRecord) (hab : attempt_le a b = true)
    (hbc : attempt_le b c = true) : attempt_le a c = true := by
  simp only [attempt_le, Bool.or_eq_true, Bool.and_eq_true, decide_eq_true_eq] at hab hbc ⊢
  omega

/-- Within one invocation the latest attempt has the highest number. -/
theorem attempt_of_le {a b : AgentTaskRecord} (h : attempt_le a b = true)
    (hsame : a.request.control_invocation = b.request.control_invocation) :
    a.attempt ≤ b.attempt := by
  simp only [attempt_le, hsame, Bool.or_eq_true, Bool.and_eq_true, decide_eq_true_eq] at h
  omega

/-- The stored parent that insertion compares a recovery with. -/
theorem validate_stored_parent {t : AgentTaskRecord} {repair : Bool} {parent_id : String}
    (h : s.validate_experiment_task_insert t repair = true)
    (hloop : t.request.experiment_loop = true) (hparent : t.parent_operation_id = some parent_id) :
    ∃ p, s.tasks.get? parent_id = some p ∧ s.validate_experiment_recovery t p repair = true := by
  simp only [validate_experiment_task_insert, hloop, Bool.not_true, Bool.false_eq_true, if_false,
    Bool.and_eq_true, hparent, Option.elim_some, Option.any_eq_true] at h
  exact h.2

theorem mem_loop_tasks {p : String} {n i : Option String} {t : AgentTaskRecord} :
    t ∈ s.loop_tasks p n i ↔ t ∈ s.tasks.items ∧ t.project_id = p
      ∧ t.request.experiment_loop = true ∧ t.request.control_node_id = n
      ∧ t.request.control_episode_id = i := by
  simp only [loop_tasks, List.mem_filter, Bool.and_eq_true, decide_eq_true_eq, and_assoc]

/-- A task of the invocation is among the tasks of the loop. -/
theorem mem_loop_of_same {r t : AgentTaskRecord} (hr : r ∈ s.tasks.items)
    (hsame : SameInvocation r t) :
    r ∈ s.loop_tasks t.project_id t.request.control_node_id t.request.control_episode_id :=
  mem_loop_tasks.mpr ⟨hr, hsame.project_id, hsame.loop.1, hsame.control_node_id,
    hsame.control_episode_id⟩

/-- A root takes a number no task of its loop has. -/
theorem Sequenced.root_first {t r : AgentTaskRecord} (h : s.Sequenced)
    (hroot : s.validate_experiment_root t = true) (hr : r ∈ s.tasks.items) :
    ¬ SameInvocation r t := by
  intro hsame
  obtain ⟨k, hk, hmem⟩ := h.tasks _ _ _ r (mem_loop_of_same hr hsame)
  rw [hsame.control_invocation, h.root_number hroot, Option.some.injEq] at hk
  rw [List.mem_range'_1] at hmem
  omega

/-- A recovery continues the newest attempt of its invocation. -/
theorem recovery_continues_newest {t p r : AgentTaskRecord} {repair : Bool}
    (hvalid : s.validate_experiment_recovery t p repair = true)
    (hp : s.tasks.get? p.operation_id = some p) (hloop : SameInvocation p t)
    (hr : r ∈ s.tasks.items) (hsame : SameInvocation r t) : r.attempt ≤ p.attempt := by
  have hmem := mem_loop_of_same hr hsame
  simp only [validate_experiment_recovery, Bool.and_eq_true, decide_eq_true_eq] at hvalid
  have hvalid := hvalid.2
  split at hvalid
  · -- the repaired task is the newest attempt of the newest invocation
    simp only [validate_current_experiment_graph_repair, Bool.and_eq_true,
      Option.any_eq_true] at hvalid
    obtain ⟨-, q, hlatest, hq⟩ := hvalid
    simp only [decide_eq_true_eq] at hq
    have hle := le_of_latest attempt_le_total attempt_le_trans hlatest r hmem
    have hqp : q = p := by
      have hq' : s.tasks.get? p.operation_id = some q :=
        Table.get?_eq_some_iff.mpr ⟨(mem_loop_tasks.mp (mem_of_latest hlatest)).1, hq.2⟩
      rw [hp] at hq'
      exact (Option.some.inj hq').symm
    rw [hqp] at hle
    exact attempt_of_le hle (hsame.control_invocation.trans hloop.control_invocation.symm)
  · simp only [validate_experiment_recovery_claim, Bool.and_eq_true, Bool.not_eq_true',
      List.any_eq_false] at hvalid
    have hnot := hvalid.2 r
      (by rw [hloop.control_node_id, hloop.control_episode_id]; exact hmem)
    have hnumber : r.request.control_invocation = p.request.control_invocation :=
      hsame.control_invocation.trans hloop.control_invocation.symm
    simp only [hnumber, decide_true, decide_eq_true_eq, true_and,
      Nat.not_lt] at hnot
    exact hnot

/-- A recovery is of the invocation of its parent. -/
theorem recovery_same_invocation {t p : AgentTaskRecord} {repair : Bool}
    (hvalid : s.validate_experiment_recovery t p repair = true)
    (hloop : p.request.experiment_loop = true ∧ t.request.experiment_loop = true) :
    SameInvocation p t := by
  simp only [validate_experiment_recovery, Bool.and_eq_true, decide_eq_true_eq] at hvalid
  obtain ⟨⟨⟨⟨hproject, -⟩, hpinned⟩, hnumber⟩, -⟩ := hvalid
  simp only [pinned, Prod.mk.injEq, List.cons.injEq] at hpinned
  exact ⟨hloop, hproject, hpinned.1.2.1, hpinned.1.2.2.1, hnumber⟩

/-- Insertion gives a task its place in the chains. -/
theorem Sequenced.new_task {t : AgentTaskRecord} {repair : Bool} (h : s.Sequenced)
    (hexp : s.validate_experiment_task_insert t repair = true)
    (hcontinues : t.request.experiment_loop = true → s.continues t) :
    TakesPlace s.shapes t.shape := by
  cases hloop : t.request.experiment_loop with
  | false => exact .outside hloop
  | true =>
    cases hparent : t.parent_operation_id with
    | none =>
      refine .root hparent ?_
      intro r hr hsame
      obtain ⟨r', hr', rfl⟩ := mem_shapes.mp hr
      rcases (validate_loop hexp hloop).2 with ⟨-, hroot⟩ | ⟨hsome, -⟩
      · exact h.root_first hroot hr' (SameInvocation.shape_iff.mp hsame)
      · rw [hparent] at hsome
        cases hsome
    | some parent_id =>
      obtain ⟨p, hget, hvalid⟩ := validate_stored_parent hexp hloop hparent
      obtain ⟨q, hget', hkind, hattempt⟩ := hcontinues hloop parent_id hparent
      rw [hget] at hget'
      cases hget'
      obtain ⟨hmem, hkey⟩ := Table.get?_eq_some_iff.mp hget
      have hkey : p.operation_id = parent_id := hkey
      have hsame : SameInvocation p t := recovery_same_invocation hvalid ⟨hkind.trans hloop, hloop⟩
      refine .next p.shape (shape_mem hmem) (SameInvocation.shape_iff.mpr hsame)
        (hparent.trans (congrArg some hkey.symm)) (hattempt hloop) ?_
      intro r hr hrsame
      obtain ⟨r', hr', rfl⟩ := mem_shapes.mp hr
      rw [← hkey] at hget
      exact @recovery_continues_newest s t p r' repair hvalid hget hsame hr'
        (SameInvocation.shape_iff.mp hrsame)

end EpisodeStore

end ResearchGraph
