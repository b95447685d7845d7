import ResearchGraph.Store.PaidInvocations

/-! # The invocations of an Experiment loop

    Insertion checks the number of a root task of a loop against the roots that
    are there, so the roots carry 1, 2, .. in the order of insertion. The meter
    of the episode counts the same roots as long as every invocation paid
    through the operations that know no mode is a root task of the loop.
-/

namespace ResearchGraph

open Lib

namespace EpisodeStore

variable {s s' : EpisodeStore} {fence : Prop} {paid : Option String}
  {task : Option AgentTaskRecord}

/-! ### The tasks of a loop after a step -/

/-- A task of the loop. -/
def in_loop (project_id : String) (control_node_id control_episode_id : Option String)
    (t : AgentTaskRecord) : Bool :=
  t.project_id = project_id && t.request.experiment_loop
    && t.request.control_node_id = control_node_id
    && t.request.control_episode_id = control_episode_id

/-- A root task of the loop. -/
def roots_loop (project_id : String) (control_node_id control_episode_id : Option String)
    (t : AgentTaskRecord) : Bool :=
  t.parent_operation_id.isNone && in_loop project_id control_node_id control_episode_id t

theorem loop_roots_eq (p : String) (n i : Option String) :
    s.loop_roots p n i = s.tasks.items.filter (roots_loop p n i) := by
  unfold loop_roots loop_tasks
  rw [List.filter_filter]
  rfl

/-- The status of a task does not count. -/
theorem filter_set_task_status {q : AgentTaskRecord → Bool}
    (hq : ∀ t status, q { t with status := status } = q t) (id : String)
    (status : AgentTaskStatus) :
    ∃ f : AgentTaskRecord → AgentTaskRecord, (∀ t, (f t).request = t.request)
      ∧ (s.set_task_status id status).tasks.items.filter q = (s.tasks.items.filter q).map f := by
  refine ⟨fun t => if t.operation_id = id then { t with status := status } else t, ?_, ?_⟩
  · intro t
    dsimp only
    split <;> rfl
  · show (s.tasks.items.map _).filter q = _
    rw [List.filter_map]
    congr 1
    apply List.filter_congr
    intro t _
    show q (if _ then _ else _) = q t
    split
    · exact hq t status
    · rfl

/-- What a step adds to the tasks that `q` selects. -/
theorem TaskStep.filtered (h : TaskStep task s s') {q : AgentTaskRecord → Bool}
    (hq : ∀ t status, q { t with status := status } = q t) :
    (∃ f : AgentTaskRecord → AgentTaskRecord, (∀ t, (f t).request = t.request)
      ∧ s'.tasks.items.filter q = (s.tasks.items.filter q).map f)
    ∨ ∃ (t : AgentTaskRecord) (v : EpisodeStore) (repair : Bool), task = some t ∧ q t = true
      ∧ v.validate_experiment_task_insert t repair = true
      ∧ s'.tasks.items.filter q = s.tasks.items.filter q ++ [t] := by
  cases h with
  | same ht => exact .inl ⟨id, fun _ => rfl, by rw [ht, List.map_id]⟩
  | moved id status _ ht =>
    left
    rw [ht]
    exact filter_set_task_status hq id status
  | inserted t v repair htask hnew _ hexp _ _ _ ht =>
    rw [ht, Table.items_put_of_fresh _ hnew, List.filter_append]
    by_cases hqt : q t = true
    · right
      exact ⟨t, v, repair, htask, hqt, hexp, by simp [hqt]⟩
    · left
      exact ⟨id, fun _ => rfl, by simp [hqt]⟩

/-! ### Numbers -/

/-- The roots of every loop carry 1, 2, .. in the order of insertion, and every other task of the
    loop the number of one of them. -/
structure Sequenced (s : EpisodeStore) : Prop where
  roots : ∀ p n i, (s.loop_roots p n i).map (fun t => t.request.control_invocation)
    = (List.range' 1 (s.loop_roots p n i).length).map some
  tasks : ∀ p n i, ∀ t ∈ s.loop_tasks p n i, ∃ k, t.request.control_invocation = some k
    ∧ k ∈ List.range' 1 (s.loop_roots p n i).length

theorem sequenced_empty : Sequenced {} where
  roots := fun _ _ _ => rfl
  tasks := by
    intro p n i t ht
    cases ht

theorem Sequenced.congr (h : s.Sequenced) (ht : s'.tasks = s.tasks) : s'.Sequenced := by
  constructor
  · intro p n i
    unfold loop_roots loop_tasks
    rw [ht]
    exact h.roots p n i
  · intro p n i t hmem
    unfold loop_roots loop_tasks
    unfold loop_tasks at hmem
    rw [ht] at hmem ⊢
    exact h.tasks p n i t hmem

theorem foldl_max_range' (n : Nat) : (List.range' 1 n).foldl max 0 = n := by
  induction n with
  | zero => rfl
  | succ n ih =>
    rw [List.range'_concat, List.foldl_append, ih]
    simp only [List.foldl_cons, List.foldl_nil]
    omega

/-- A root that insertion accepts has the next number. -/
theorem Sequenced.root_number {t : AgentTaskRecord} (h : s.Sequenced)
    (hroot : s.validate_experiment_root t = true) :
    t.request.control_invocation = some ((s.loop_roots t.project_id t.request.control_node_id
      t.request.control_episode_id).length + 1) := by
  simp only [validate_experiment_root, Bool.and_eq_true, decide_eq_true_eq] at hroot
  have hnext := hroot.1.1.1.2
  have hmap : (s.loop_roots t.project_id t.request.control_node_id
      t.request.control_episode_id).map (fun r => r.request.control_invocation.getD 0)
      = List.range' 1 (s.loop_roots t.project_id t.request.control_node_id
        t.request.control_episode_id).length := by
    have := congrArg (List.map (fun k : Option Nat => k.getD 0))
      (h.roots t.project_id t.request.control_node_id t.request.control_episode_id)
    rw [List.map_map, List.map_map] at this
    refine this.trans ?_
    exact List.map_id' _
  rw [hmap, foldl_max_range'] at hnext
  cases hk : t.request.control_invocation with
  | none => rw [hk] at hnext; cases hnext
  | some k =>
    rw [hk] at hnext
    exact congrArg some hnext

/-- A recovery that insertion accepts has the number of a root. -/
theorem Sequenced.recovery_number {t parent : AgentTaskRecord} {repair : Bool} (h : s.Sequenced)
    (hrec : s.validate_experiment_recovery t parent repair = true) :
    ∃ k, t.request.control_invocation = some k
      ∧ k ∈ List.range' 1 (s.loop_roots t.project_id t.request.control_node_id
        t.request.control_episode_id).length := by
  simp only [validate_experiment_recovery, Bool.and_eq_true, decide_eq_true_eq] at hrec
  obtain ⟨⟨⟨⟨-, -⟩, hpinned⟩, hnumber⟩, hrec⟩ := hrec
  have hnode : parent.request.control_node_id = t.request.control_node_id
      ∧ parent.request.control_episode_id = t.request.control_episode_id := by
    simp only [pinned, Prod.mk.injEq, List.cons.injEq] at hpinned
    exact ⟨hpinned.1.2.1, hpinned.1.2.2.1⟩
  split at hrec
  · -- the repair continues the newest attempt of its loop
    simp only [validate_current_experiment_graph_repair, Bool.and_eq_true,
      Option.any_eq_true] at hrec
    obtain ⟨-, r, hlatest, hr⟩ := hrec
    simp only [decide_eq_true_eq] at hr
    rw [← hr.1]
    exact h.tasks _ _ _ r (mem_of_latest hlatest)
  · -- the claim is on the newest root of the node
    simp only [validate_experiment_recovery_claim, Bool.and_eq_true, Option.any_eq_true] at hrec
    obtain ⟨⟨-, r, hnewest, hr⟩, -⟩ := hrec
    simp only [decide_eq_true_eq] at hr
    have hmem := mem_of_latest hnewest
    simp only [List.mem_filter, Bool.and_eq_true, decide_eq_true_eq] at hmem
    rw [← hnumber, ← hr.2]
    apply h.tasks
    simp only [loop_tasks, List.mem_filter, Bool.and_eq_true, decide_eq_true_eq]
    exact ⟨hmem.1, ⟨⟨hmem.2.1.1.1, hmem.2.1.2⟩, hmem.2.2.trans hnode.1⟩, hr.1.trans hnode.2⟩

/-- What insertion checks of a task of a loop. -/
theorem validate_loop {t : AgentTaskRecord} {repair : Bool}
    (h : s.validate_experiment_task_insert t repair = true)
    (hloop : t.request.experiment_loop = true) :
    (∃ id, t.request.control_episode_id = some id ∧ t.episode_id = some id)
      ∧ (t.parent_operation_id = none ∧ s.validate_experiment_root t = true
        ∨ t.parent_operation_id.isSome = true
          ∧ ∃ parent, s.validate_experiment_recovery t parent repair = true) := by
  simp only [validate_experiment_task_insert, hloop, Bool.not_true, Bool.false_eq_true, if_false,
    Bool.and_eq_true, decide_eq_true_eq] at h
  obtain ⟨⟨⟨⟨⟨⟨-, hsome⟩, hid⟩, -⟩, -⟩, -⟩, h⟩ := h
  constructor
  · obtain ⟨id, hid'⟩ := Option.isSome_iff_exists.mp hsome
    exact ⟨id, hid', hid.trans hid'⟩
  · cases hparent : t.parent_operation_id with
    | none =>
      rw [hparent] at h
      exact .inl ⟨rfl, h⟩
    | some parent_id =>
      simp only [hparent, Option.elim_some, Option.any_eq_true] at h
      obtain ⟨parent, -, h⟩ := h
      exact .inr ⟨rfl, parent, h⟩

theorem loop_tasks_eq (p : String) (n i : Option String) :
    s.loop_tasks p n i = s.tasks.items.filter (in_loop p n i) := rfl

/-- Rewriting statuses keeps the numbers. -/
theorem Sequenced.moved {id : String} {status : AgentTaskStatus} (h : s.Sequenced)
    (ht : s'.tasks = (s.set_task_status id status).tasks) : s'.Sequenced := by
  have hroots : ∀ p n i, ∃ f : AgentTaskRecord → AgentTaskRecord, (∀ t, (f t).request = t.request)
      ∧ s'.loop_roots p n i = (s.loop_roots p n i).map f := by
    intro p n i
    rw [loop_roots_eq, loop_roots_eq, ht]
    exact filter_set_task_status (fun _ _ => rfl) id status
  constructor
  · intro p n i
    obtain ⟨f, hf, heq⟩ := hroots p n i
    rw [heq, List.length_map, List.map_map, ← h.roots p n i]
    apply List.map_congr_left
    intro t _
    show (f t).request.control_invocation = _
    rw [hf]
  · intro p n i t hmem
    obtain ⟨f, -, heq⟩ := hroots p n i
    rw [heq, List.length_map]
    rw [loop_tasks_eq, ht] at hmem
    obtain ⟨g, hg, hfilter⟩ :=
      filter_set_task_status (s := s) (q := in_loop p n i) (fun _ _ => rfl) id status
    rw [hfilter, List.mem_map] at hmem
    obtain ⟨r, hr, rfl⟩ := hmem
    rw [hg]
    exact h.tasks p n i r hr

/-- A task that insertion accepts keeps the numbers of every loop. -/
theorem Sequenced.inserted {t : AgentTaskRecord} {repair : Bool} (h : s.Sequenced)
    (hnew : s.tasks.get? t.operation_id = none)
    (hexp : s.validate_experiment_task_insert t repair = true)
    (ht : s'.tasks = s.tasks.put t) : s'.Sequenced := by
  -- the new task is at most one more root, the last one of its loop
  have hroots : ∀ p n i, s'.loop_roots p n i
      = s.loop_roots p n i ++ if roots_loop p n i t then [t] else [] := by
    intro p n i
    rw [loop_roots_eq, loop_roots_eq, ht, Table.items_put_of_fresh _ hnew, List.filter_append]
    by_cases hq : roots_loop p n i t = true <;> simp [hq]
  constructor
  · intro p n i
    rw [hroots]
    split
    · rename_i hroot
      simp only [roots_loop, in_loop, Bool.and_eq_true, decide_eq_true_eq,
        Option.isNone_iff_eq_none] at hroot
      obtain ⟨hparent, ⟨⟨rfl, hloop⟩, rfl⟩, rfl⟩ := hroot
      rcases (validate_loop hexp hloop).2 with ⟨-, hvalid⟩ | ⟨hsome, -⟩
      · rw [List.map_append, h.roots, List.length_append, List.length_singleton,
          List.range'_concat, List.map_append]
        simp [h.root_number hvalid, Nat.add_comm]
      · rw [hparent] at hsome
        cases hsome
    · rw [List.append_nil]
      exact h.roots p n i
  · intro p n i r hr
    have hle : (s.loop_roots p n i).length ≤ (s'.loop_roots p n i).length := by
      rw [hroots, List.length_append]
      omega
    have hmono : ∀ k, k ∈ List.range' 1 (s.loop_roots p n i).length →
        k ∈ List.range' 1 (s'.loop_roots p n i).length := by
      intro k hk
      rw [List.mem_range'_1] at hk ⊢
      omega
    rw [loop_tasks_eq, ht, Table.items_put_of_fresh _ hnew, List.filter_append,
      List.mem_append] at hr
    rcases hr with hr | hr
    · obtain ⟨k, hk, hmem⟩ := h.tasks p n i r hr
      exact ⟨k, hk, hmono k hmem⟩
    -- the new task itself: a root takes the next number, a recovery its parent's
    simp only [List.mem_filter, List.mem_singleton, in_loop, Bool.and_eq_true,
      decide_eq_true_eq] at hr
    obtain ⟨rfl, ⟨⟨rfl, hloop⟩, rfl⟩, rfl⟩ := hr
    rcases (validate_loop hexp hloop).2 with ⟨hparent, hvalid⟩ | ⟨-, parent, hvalid⟩
    · refine ⟨_, h.root_number hvalid, ?_⟩
      have hlen := congrArg List.length (hroots r.project_id r.request.control_node_id
        r.request.control_episode_id)
      simp only [roots_loop, in_loop, hparent, hloop, Option.isNone_none, decide_true,
        Bool.and_self, if_true, List.length_append, List.length_singleton] at hlen
      rw [List.mem_range'_1]
      omega
    · obtain ⟨k, hk, hmem⟩ := h.recovery_number hvalid
      exact ⟨k, hk, hmono k hmem⟩

theorem Sequenced.step (h : s.Sequenced) (hstep : TaskStep task s s') : s'.Sequenced := by
  cases hstep with
  | same ht => exact h.congr ht
  | moved id status _ ht => exact h.moved ht
  | inserted t v repair _ hnew hv hexp _ _ _ ht =>
    exact (h.congr hv).inserted (hv ▸ hnew) hexp (by rw [ht, hv])

/-! ### Meters of Experiment episodes -/

/-- Every task of a loop is of a stored episode. -/
def LoopBound (s : EpisodeStore) : Prop :=
  ∀ t ∈ s.tasks.items, t.request.experiment_loop = true →
    ∃ id e, t.request.control_episode_id = some id ∧ s.episodes.get? id = some e

/-- Writing a row keeps every id. -/
theorem get?_put_some {eps : Table Episode} {e f : Episode} {id : String}
    (h : eps.get? id = some f) : ∃ f', (eps.put e).get? id = some f' := by
  rw [Table.get?_put]
  split
  · exact ⟨e, rfl⟩
  · exact ⟨f, h⟩

/-- No episode is ever deleted. -/
theorem LedgerStep_stored (h : LedgerStep fence opening paid s s') {id : String} {e : Episode}
    (hget : s.episodes.get? id = some e) : ∃ e', s'.episodes.get? id = some e' := by
  cases h with
  | same he _ => exact ⟨e, by rw [he]; exact hget⟩
  | opened f _ _ _ _ _ he _ => rw [he]; exact get?_put_some hget
  | started f _ _ _ _ _ _ _ _ _ he _ => rw [he]; exact get?_put_some hget
  | moved f f' _ he _ _ _ _ _ => rw [he]; exact get?_put_some hget
  | spent f f' _ _ _ _ _ _ _ _ _ _ he _ => rw [he]; exact get?_put_some hget

theorem LoopBound.step (h : s.LoopBound) (hledger : LedgerStep fence opening paid s s')
    (hstep : TaskStep task s s') : s'.LoopBound := by
  have hkept : ∀ r : AgentTaskRecord, (∃ t ∈ s.tasks.items, t.request = r.request) →
      r.request.experiment_loop = true →
      ∃ id e, r.request.control_episode_id = some id ∧ s'.episodes.get? id = some e := by
    rintro r ⟨t, ht, hreq⟩ hloop
    rw [← hreq] at hloop ⊢
    obtain ⟨id, e, hid, hget⟩ := h t ht hloop
    obtain ⟨e', hget'⟩ := LedgerStep_stored hledger hget
    exact ⟨id, e', hid, hget'⟩
  intro r hr hloop
  cases hstep with
  | same ht =>
    rw [ht] at hr
    exact hkept r ⟨r, hr, rfl⟩ hloop
  | moved id status _ ht =>
    rw [ht] at hr
    obtain ⟨t, hmem, rfl⟩ := List.mem_map.mp hr
    refine hkept _ ⟨t, hmem, ?_⟩ hloop
    split <;> rfl
  | inserted t v repair _ hnew _ hexp htarget _ hepisode ht =>
    rw [ht, Table.mem_put_iff] at hr
    rcases hr with rfl | ⟨hr, -⟩
    · obtain ⟨⟨id, hctl, hid⟩, -⟩ := validate_loop hexp hloop
      simp only [validate_graph_target_insert, hid, Option.elim_some, Bool.and_eq_true,
        Option.any_eq_true] at htarget
      obtain ⟨⟨e, hget, -⟩, -⟩ := htarget
      obtain ⟨e', hget', -⟩ := hepisode id e hget
      exact ⟨id, e', hctl, hget'⟩
    · exact hkept r ⟨r, hr, rfl⟩ hloop

/-- An episode that is not stored has no loop. -/
theorem LoopBound.no_roots (h : s.LoopBound) {id : String} (habsent : s.episodes.get? id = none)
    (p : String) (n : Option String) : s.loop_roots p n (some id) = [] := by
  rw [loop_roots_eq, List.filter_eq_nil_iff]
  intro t ht hroot
  simp only [roots_loop, in_loop, Bool.and_eq_true, decide_eq_true_eq] at hroot
  obtain ⟨id', e, hid, hget⟩ := h t ht hroot.2.1.1.2
  rw [hroot.2.2] at hid
  cases hid
  rw [habsent] at hget
  cases hget

/-- The meter of every Experiment episode counts the roots of its loop. -/
def Counted (s : EpisodeStore) : Prop :=
  ∀ id e, s.episodes.get? id = some e → e.mode = .experiment_loop →
    (s.loop_roots e.project_id e.control_node_id (some id)).length = e.invocations_used

/-- The effect of an operation on an Experiment loop and its meter: no root enters the loop and
    the meter stays, or one root enters it and the meter counts it. -/
inductive LoopStep (s s' : EpisodeStore) : Prop
  | unpaid (fence opening : Prop) (task : Option AgentTaskRecord)
      (hledger : LedgerStep fence opening none s s')
      (htasks : TaskStep task s s')
      (hroot : ∀ t, task = some t → t.request.experiment_loop = true →
        t.parent_operation_id = none → ∀ id e, t.episode_id = some id →
        s'.episodes.get? id = some e → e.mode = .auto_research)
  | paid (e : Episode) (t : AgentTaskRecord)
      (hbefore : (∃ e₀, s.episodes.get? e.episode_id = some e₀ ∧ e₀.SameBudget e
          ∧ e.invocations_used = e₀.invocations_used + 1)
        ∨ (s.episodes.get? e.episode_id = none ∧ e.invocations_used = 1))
      (he : s'.episodes = s.episodes.put e) (hnew : s.tasks.get? t.operation_id = none)
      (ht : s'.tasks = s.tasks.put t) (hid : t.episode_id = some e.episode_id)
      (hloop : t.request.experiment_loop = true →
        t.request.control_episode_id = some e.episode_id)
      (hroot : e.mode = .experiment_loop →
        roots_loop e.project_id e.control_node_id (some e.episode_id) t = true)

theorem LoopStep.refl (s : EpisodeStore) : LoopStep s s :=
  .unpaid True True none (.refl s) .refl (by simp)

/-- Only tasks, episodes and the ledger count. -/
theorem LoopStep.congr {s₁ : EpisodeStore} (h : LoopStep s s₁) (ht : s'.tasks = s₁.tasks)
    (he : s'.episodes = s₁.episodes) (hr : s'.episode_invocations = s₁.episode_invocations) :
    LoopStep s s' := by
  cases h with
  | unpaid fence opening task hledger htasks hroot =>
    refine .unpaid fence opening task (hledger.congr he hr) (htasks.congr ht ?_) (he ▸ hroot)
    intro id e hget
    exact ⟨e, by rw [he]; exact hget, ⟨rfl, rfl, rfl, rfl, rfl, rfl⟩⟩
  | paid e t hbefore he' hnew ht' hid hloop hroot =>
    exact .paid e t hbefore (he.trans he') hnew (ht.trans ht') hid hloop hroot

/-- An unpaid operation leaves the meters alone. -/
theorem LedgerStep_unpaid (h : LedgerStep fence opening none s s') {id : String} {e' : Episode}
    (hget : s'.episodes.get? id = some e') :
    (∃ e, s.episodes.get? id = some e ∧ e.SameBudget e' ∧ e'.invocations_used = e.invocations_used)
      ∨ (s.episodes.get? id = none ∧ e'.invocations_used = 0) := by
  have hsame : ∀ e, s.episodes.get? id = some e → (∃ e₀, s.episodes.get? id = some e₀
      ∧ e₀.SameBudget e ∧ e.invocations_used = e₀.invocations_used) :=
    fun e he => ⟨e, he, ⟨rfl, rfl, rfl, rfl, rfl, rfl⟩, rfl⟩
  cases h with
  | same he _ =>
    rw [he] at hget
    exact .inl (hsame e' hget)
  | opened e _ habsent _ _ hused he _ =>
    rw [he, Table.get?_put] at hget
    split at hget
    · rename_i hid
      cases hget
      exact .inr ⟨by rw [hid]; exact habsent, hused⟩
    · exact .inl (hsame e' hget)
  | started _ _ _ _ _ _ _ hpaid => cases hpaid
  | moved e f hf he _ hbudget hused _ _ =>
    rw [he, Table.get?_put] at hget
    split at hget
    · rename_i hid
      cases hget
      have hkey : id = e.episode_id := hid.trans hbudget.episode_id
      exact .inl ⟨e, by rw [hkey]; exact hf, hbudget, hused⟩
    · exact .inl (hsame e' hget)
  | spent _ _ _ _ _ _ _ _ _ hpaid => cases hpaid

theorem Counted.unpaid {id : String} {e' : Episode} (h : s.Counted) (hbound : s.LoopBound)
    (hledger : LedgerStep fence opening none s s') (hget : s'.episodes.get? id = some e')
    (hmode : e'.mode = .experiment_loop) :
    (s.loop_roots e'.project_id e'.control_node_id (some id)).length = e'.invocations_used := by
  rcases LedgerStep_unpaid hledger hget with ⟨e, he, hbudget, hused⟩ | ⟨habsent, hused⟩
  · rw [hused, hbudget.project_id, hbudget.control_node_id]
    exact h id e he (hbudget.mode.symm.trans hmode)
  · rw [hused, hbound.no_roots habsent]
    rfl

theorem Counted.step (h : s.Counted) (hbound : s.LoopBound) (hstep : LoopStep s s') :
    s'.Counted := by
  intro id f hget hmode
  cases hstep with
  | unpaid fence opening task hledger htasks hroot =>
    rw [← h.unpaid hbound hledger hget hmode, loop_roots_eq, loop_roots_eq]
    rcases htasks.filtered (q := roots_loop f.project_id f.control_node_id (some id))
        (fun _ _ => rfl) with ⟨g, -, hfilter⟩ | ⟨t, v, repair, htask, hq, hexp, -⟩
    · rw [hfilter, List.length_map]
    · -- a root of an Experiment loop would be of this episode
      simp only [roots_loop, in_loop, Bool.and_eq_true, decide_eq_true_eq,
        Option.isNone_iff_eq_none] at hq
      obtain ⟨⟨id', hctl, hid⟩, -⟩ := validate_loop hexp hq.2.1.1.2
      rw [hq.2.2] at hctl
      cases hctl
      have := hroot t htask hq.2.1.1.2 hq.1 id f hid hget
      rw [hmode] at this
      cases this
  | paid e t hbefore he hnew ht hid hloop hroot =>
    have hroots : s'.loop_roots f.project_id f.control_node_id (some id)
        = s.loop_roots f.project_id f.control_node_id (some id)
          ++ if roots_loop f.project_id f.control_node_id (some id) t then [t] else [] := by
      rw [loop_roots_eq, loop_roots_eq, ht, Table.items_put_of_fresh _ hnew, List.filter_append]
      by_cases hq : roots_loop f.project_id f.control_node_id (some id) t = true <;> simp [hq]
    rw [hroots]
    rw [he, Table.get?_put] at hget
    split at hget
    · rename_i hkey
      cases Option.some.inj hget
      have hkey' : id = f.episode_id := hkey
      subst hkey'
      rw [if_pos (hroot hmode), List.length_append, List.length_singleton]
      rcases hbefore with ⟨e₀, hget₀, hbudget, hused⟩ | ⟨habsent, hused⟩
      · rw [hused, hbudget.project_id, hbudget.control_node_id,
          h _ e₀ hget₀ (hbudget.mode.symm.trans hmode)]
      · rw [hused, hbound.no_roots habsent]
        rfl
    · rename_i hne
      have hnot : roots_loop f.project_id f.control_node_id (some id) t = false := by
        by_contra hq
        simp only [roots_loop, in_loop, Bool.not_eq_false, Bool.and_eq_true,
          decide_eq_true_eq] at hq
        have hctl := hloop hq.2.1.1.2
        rw [hq.2.2] at hctl
        exact hne (Option.some.inj hctl)
      rw [hnot]
      simp only [Bool.false_eq_true, if_false, List.append_nil]
      exact h id f hget hmode

/-! ### Every operation -/

/-- A task that insertion accepts on a stored episode is of the project of the episode. -/
theorem project_of_target {t : AgentTaskRecord} {e : Episode}
    (h : s.validate_graph_target_insert t = true) (hid : t.episode_id = some e.episode_id)
    (hget : s.episodes.get? e.episode_id = some e) : t.project_id = e.project_id := by
  simp only [validate_graph_target_insert, hid, Option.elim_some, hget, Option.any_some,
    Bool.and_eq_true, decide_eq_true_eq] at h
  exact h.1.1.symm

/-- The task an Experiment episode pays for is a root of its loop. -/
def pays_root (e : Episode) (t : AgentTaskRecord) : Prop :=
  e.mode = .experiment_loop → t.request.experiment_loop = true ∧ t.parent_operation_id = none
    ∧ t.request.control_node_id = e.control_node_id

theorem pays_root_of_mode {e : Episode} {t : AgentTaskRecord} (hmode : e.mode = .auto_research) :
    pays_root e t := by
  intro h
  rw [hmode] at h
  cases h

/-- What insertion checked makes a root task a root of the loop of its episode. -/
theorem roots_of_pays {e : Episode} {t : AgentTaskRecord} {repair : Bool}
    (hexp : s.validate_experiment_task_insert t repair = true)
    (hproject : t.project_id = e.project_id) (hid : t.episode_id = some e.episode_id)
    (hpays : pays_root e t) :
    (t.request.experiment_loop = true → t.request.control_episode_id = some e.episode_id)
      ∧ (e.mode = .experiment_loop →
        roots_loop e.project_id e.control_node_id (some e.episode_id) t = true) := by
  have hctl : t.request.experiment_loop = true →
      t.request.control_episode_id = some e.episode_id := by
    intro hloop
    obtain ⟨⟨id, hctl, hid'⟩, -⟩ := validate_loop hexp hloop
    rw [hctl, ← hid', hid]
  refine ⟨hctl, ?_⟩
  intro hmode
  obtain ⟨hloop, hparent, hnode⟩ := hpays hmode
  simp [roots_loop, in_loop, hparent, hproject, hloop, hnode, hctl hloop]

theorem spend_loop {s₀ : EpisodeStore} {e₀ e : Episode} {t : AgentTaskRecord} {bound : Bool}
    (h : s.spend e t bound = some s') (htasks : s.tasks = s₀.tasks)
    (heps : s.episodes = s₀.episodes) (hget : s₀.episodes.get? e₀.episode_id = some e₀)
    (hsame : e₀.SameBudget e) (hused : e.invocations_used = e₀.invocations_used)
    (hid : t.episode_id = some e₀.episode_id) (hpays : pays_root e₀ t) : LoopStep s₀ s' := by
  obtain ⟨hnew, hexp, htarget, -, -, rfl⟩ := spend_eq h
  have hproject := project_of_target htarget hid (by rw [heps]; exact hget)
  have hpays' : pays_root e t := by
    intro hmode
    rw [hsame.control_node_id]
    exact hpays (hsame.mode.symm.trans hmode)
  obtain ⟨hctl, hroot⟩ := roots_of_pays (e := e) hexp (hproject.trans hsame.project_id.symm)
    (by rw [hsame.episode_id]; exact hid) hpays'
  refine .paid { e with invocations_used := e.invocations_used + 1 } t (.inl ?_)
    (by rw [← heps]) (by rw [← htasks]; exact hnew) (by rw [← htasks])
    (by rw [hid, ← hsame.episode_id]) hctl hroot
  refine ⟨e₀, ?_, ⟨hsame.1, hsame.2, hsame.3, hsame.4, hsame.5, hsame.6⟩, congrArg (· + 1) hused⟩
  rw [hsame.episode_id]
  exact hget

theorem open_episode_loop {s₀ : EpisodeStore} {e : Episode} {t : AgentTaskRecord} {bound : Bool}
    (h : s.open_episode e t bound = some s') (htasks : s.tasks = s₀.tasks)
    (heps : s.episodes = s₀.episodes) (hused : e.invocations_used = 1)
    (hid : t.episode_id = some e.episode_id) (hpays : pays_root e t) : LoopStep s₀ s' := by
  obtain ⟨habsent, -, hnew, hexp, htarget, -, -, rfl⟩ := open_episode_eq h
  have hproject := project_of_target htarget hid (Table.get?_put_self _ _)
  obtain ⟨hctl, hroot⟩ := roots_of_pays hexp hproject hid hpays
  exact .paid e t (.inr ⟨by rw [← heps]; exact habsent, hused⟩) (by rw [← heps])
    (by rw [← htasks]; exact hnew) (by rw [← htasks]) hid hctl hroot

/-- An operation that pays nothing and starts no loop. -/
theorem unpaid_loop {op : EpisodeOp} (h : s.exec op = some s')
    (hledger : LedgerStep fence opening none s s')
    (hroot : ∀ t, op.task = some t → t.request.experiment_loop = true →
      t.parent_operation_id = none → ∀ id e, t.episode_id = some id →
      s'.episodes.get? id = some e → e.mode = .auto_research) : LoopStep s s' :=
  .unpaid fence opening op.task hledger (exec_task_step h).1 hroot

/-- A recovery or a report continues another task, so it is no root. -/
theorem continued_loop {op : EpisodeOp} {t : AgentTaskRecord} (h : s.exec op = some s')
    (htask : op.task = some t) (hledger : LedgerStep True True none s s')
    (hsome : t.parent_operation_id.isSome = true) : LoopStep s s' := by
  refine unpaid_loop h hledger ?_
  intro r hr _ hparent
  rw [htask] at hr
  cases hr
  rw [hparent] at hsome
  cases hsome

/-- A task outside every episode is of no loop. -/
theorem outside_loop {op : EpisodeOp} {t : AgentTaskRecord} (h : s.exec op = some s')
    (htask : op.task = some t) (hledger : LedgerStep True True none s s')
    (hnone : t.episode_id = none) : LoopStep s s' := by
  refine unpaid_loop h hledger ?_
  intro r hr _ _ id _ hid
  rw [htask] at hr
  cases hr
  rw [hnone] at hid
  cases hid

/-- The root task of a reserved episode pays its first invocation; the episode is of no loop. -/
theorem reserved_loop {e : Episode} {t : AgentTaskRecord} {activate bound : Bool}
    (h : s.create_auto_research_episode_with_root_task e t activate bound = some s') :
    LoopStep s s' := by
  obtain ⟨hvalid, hmode, hid, -, -, -, s₁, s₂, seat, h₁, -, h₂, h⟩ :=
    create_auto_research_episode_with_root_task_eq h
  obtain ⟨habsent, -, rfl⟩ := insert_episode_eq h₁
  obtain ⟨hnew, hexp, htarget, -, -, rfl⟩ := spend_eq h₂
  obtain ⟨-, rfl⟩ := insert_auto_research_invocation_eq h
  have hproject := project_of_target (e := reserved e t activate) htarget hid
    (Table.get?_put_self _ _)
  obtain ⟨hctl, hroot⟩ := roots_of_pays (e := reserved e t activate) hexp hproject hid
    (pays_root_of_mode hmode)
  refine .paid { reserved e t activate with invocations_used := e.invocations_used + 1 } t
    (.inr ⟨habsent, ?_⟩) (Table.put_put s.episodes rfl) hnew rfl hid hctl hroot
  show e.invocations_used + 1 = 1
  rw [(admitting_of_valid hvalid).2.2]

/-- A branch merge runs in an Auto-Research episode. -/
theorem branch_merge_loop {t : AgentTaskRecord} {bound : Bool}
    (h : s.create_branch_merge_task t bound = some s') : LoopStep s s' := by
  have hexec : s.exec (.create_branch_merge_task t bound) = some s' := h
  rcases create_branch_merge_task_eq h with
    rfl | ⟨e, hget, hid, -, hmode, -, -, -, -, -, -, -, h'⟩
  · exact .refl _
  obtain ⟨-, -, -, -, rfl⟩ := insert_agent_task_eq h'
  have hledger : LedgerStep True True none s { s with tasks := s.tasks.put t } := .same rfl rfl
  refine unpaid_loop hexec hledger ?_
  intro r hr _ _ id f hid' hf
  cases hr
  rw [hid] at hid'
  cases hid'
  rw [show s.episodes.get? e.episode_id = some f from hf] at hget
  cases hget
  exact hmode

/-- An operation without a task. -/
theorem idle_loop {op : EpisodeOp} (h : s.exec op = some s') (hnone : op.task = none) :
    LoopStep s s' := by
  have hledger := exec_ledger_step h
  rw [hnone] at hledger
  refine unpaid_loop h hledger ?_
  intro t ht
  rw [hnone] at ht
  cases ht

/-- Every invocation that is paid through an operation that knows no mode is a root of the loop of
    its Experiment episode. A watcher notification outside the paid operations is of no loop. -/
def loops_paid (s : EpisodeStore) : EpisodeOp → Prop
  | .create_episode_with_invocation e t _ => pays_root e t
  | .allocate_episode_invocation id t _ => ∀ e, s.episodes.get? id = some e → pays_root e t
  | .create_watcher_notification_task t _ _ => t.request.experiment_loop = false
  | _ => True

theorem exec_loop_step {op : EpisodeOp} (h : s.exec op = some s') (hpays : s.loops_paid op) :
    LoopStep s s' := by
  cases op with
  -- a report or a recovery goes on from its task
  | begin_episode_wrapup wrapup t bound =>
    have hledger : LedgerStep True True none s s' := begin_episode_wrapup_step h
    rcases begin_episode_wrapup_eq h with rfl | ⟨e, s₁, -, -, -, -, hsome, -⟩
    · exact .refl _
    · exact continued_loop h rfl hledger hsome
  -- a paid task is the next root of its loop
  | create_episode_with_invocation e t bound =>
    rcases create_episode_with_invocation_eq h with rfl | ⟨-, -, hmatches, -, h⟩
    · exact .refl _
    simp only [root_task_matches, Bool.and_eq_true, decide_eq_true_eq] at hmatches
    exact open_episode_loop h rfl rfl rfl hmatches.1.1.1.1.1.1 hpays
  | allocate_episode_invocation id t bound =>
    rcases allocate_episode_invocation_eq h with rfl | ⟨e, hget, hid, -, -, -, -, h⟩
    · exact .refl _
    obtain ⟨hkey, hget'⟩ := get?_self hget
    exact spend_loop h rfl rfl hget' ⟨rfl, rfl, rfl, rfl, rfl, rfl⟩ rfl (by rw [hkey]; exact hid)
      (hpays e hget)
  | create_experiment_episode_with_invocation t route bound =>
    obtain ⟨e, s₁, hnew, -, -, hroute, h⟩ := create_experiment_episode_with_invocation_eq h
    obtain ⟨-, -, hparent, hloop, hid, -, -, hnode, -⟩ := new_experiment_episode_eq hnew
    obtain ⟨routes, rfl⟩ := open_route_eq hroute
    exact open_episode_loop h rfl rfl rfl hid (fun _ => ⟨hloop, hparent, hnode.symm⟩)
  | create_experiment_watcher_invocation t bound =>
    rcases create_experiment_watcher_invocation_eq h with
      rfl | ⟨e, hget, hid, hparent, hloop, -, -, hnode, -, -, -, -, -, h⟩
    · exact .refl _
    exact spend_loop h rfl rfl hget ⟨rfl, rfl, rfl, rfl, rfl, rfl⟩ rfl hid
      (fun _ => ⟨hloop, hparent, hnode.symm⟩)
  | create_experiment_recovery_task t bound repair =>
    obtain ⟨e, -, -, hsome, -⟩ := create_experiment_recovery_task_eq h
    exact continued_loop h rfl (create_experiment_recovery_task_step h) hsome
  | create_auto_research_episode_with_root_task => exact reserved_loop h
  | create_auto_research_agent_task t role bound claimed =>
    rcases create_auto_research_agent_task_eq h with
      rfl | ⟨e, s₁, seat, hget, hmode, hid, -, -, -, -, h₁, h⟩
    · exact .refl _
    have hstep := spend_loop h₁ rfl rfl hget ⟨rfl, rfl, rfl, rfl, rfl, rfl⟩ rfl hid
      (pays_root_of_mode hmode)
    obtain ⟨-, rfl⟩ := insert_auto_research_invocation_eq h
    exact hstep.congr rfl rfl rfl
  | create_auto_research_recovery_task t bound =>
    obtain ⟨e, p, s₁, seat, parent_id, -, -, -, hparent, -⟩ :=
      create_auto_research_recovery_task_eq h
    exact continued_loop h rfl (create_auto_research_recovery_task_step h) (by rw [hparent]; rfl)
  | create_auto_research_child_work w t bound =>
    obtain ⟨e, hget, hmode, hid, -, -, -, -, h⟩ := create_auto_research_child_work_eq h
    exact spend_loop h rfl rfl hget ⟨rfl, rfl, rfl, rfl, rfl, rfl⟩ rfl hid (pays_root_of_mode hmode)
  | create_auto_research_child_work_recovery worker_id t bound =>
    obtain ⟨e, work, -, -, -, -, hsome, -⟩ := create_auto_research_child_work_recovery_eq h
    exact continued_loop h rfl (create_auto_research_child_work_recovery_step h) hsome
  | create_auto_research_child_work_message_wake_task worker_id t bound claimed =>
    rcases create_auto_research_child_work_message_wake_task_eq h with
      rfl | ⟨e, work, hget, hmode, hid, -, -, -, -, h⟩
    · exact .refl _
    exact spend_loop h rfl rfl hget ⟨rfl, rfl, rfl, rfl, rfl, rfl⟩ rfl hid (pays_root_of_mode hmode)
  | create_agent_task t fresh bound =>
    have heq := create_agent_task_eq h
    exact outside_loop h rfl (insert_agent_task_step heq.2.2.2 rfl rfl) heq.1
  | create_agent_task_graph_repair t bound =>
    have heq := create_agent_task_graph_repair_eq h
    exact outside_loop h rfl (insert_agent_task_step heq.2.2 rfl rfl) heq.1
  | create_watcher_notification_task t bound claimed =>
    have hledger : LedgerStep True True none s s' := by
      rcases create_watcher_notification_task_eq h with rfl | ⟨-, -, h⟩
      · exact .refl _
      · exact insert_agent_task_step h rfl rfl
    refine unpaid_loop h hledger ?_
    intro r hr hloop
    cases hr
    rw [show t.request.experiment_loop = false from hpays] at hloop
    cases hloop
  | create_branch_merge_task => exact branch_merge_loop h
  | _ => exact idle_loop h rfl

/-! ### Runs -/

/-- What a run keeps of the loops: their numbers, their episodes and their meters. -/
structure LoopsSound (s : EpisodeStore) : Prop where
  sequenced : s.Sequenced
  bound : s.LoopBound
  counted : s.Counted

theorem loopsSound_empty : LoopsSound {} where
  sequenced := sequenced_empty
  bound := by
    intro t ht
    cases ht
  counted := by
    intro id e h
    cases h

theorem LoopsSound.apply (h : s.LoopsSound) {op : EpisodeOp} (hpays : s.loops_paid op) :
    (s.apply op).LoopsSound where
  sequenced := h.sequenced.step (apply_task_step op).1
  bound := h.bound.step apply_ledger_step (apply_task_step op).1
  counted := by
    rcases s.apply_cases op with heq | hexec
    · rw [heq]
      exact h.counted
    · exact h.counted.step h.bound (exec_loop_step hexec hpays)

/-- `_derive_experiment_loop_runtime` refuses the numbers of the loop: they are not 1, .., up to
    the meter of the episode. -/
def out_of_sequence (s : EpisodeStore) (e : Episode) : Bool :=
  let found := (s.loop_tasks e.project_id e.control_node_id (some e.episode_id)).filterMap
    (fun t => t.request.control_invocation)
  !(found.all (List.range' 1 e.invocations_used).contains
    && (List.range' 1 e.invocations_used).all found.contains)

/-- A loop whose roots are counted and numbered is in sequence. -/
theorem LoopsSound.in_sequence (h : s.LoopsSound) {id : String} {e : Episode}
    (hget : s.episodes.get? id = some e) (hmode : e.mode = .experiment_loop) :
    s.out_of_sequence e = false := by
  obtain ⟨hkey, -⟩ := get?_self hget
  have hcount := h.counted id e hget hmode
  rw [← hkey] at hcount
  simp only [out_of_sequence, Bool.not_eq_false', Bool.and_eq_true, List.all_eq_true,
    List.contains_iff_mem, List.mem_filterMap]
  constructor
  · rintro k ⟨t, ht, hk⟩
    obtain ⟨k', hk', hmem⟩ := h.sequenced.tasks _ _ _ t ht
    rw [hk] at hk'
    cases hk'
    rw [← hcount]
    exact hmem
  · intro k hk
    have hroots := h.sequenced.roots e.project_id e.control_node_id (some e.episode_id)
    rw [hcount] at hroots
    have hmem : some k ∈ (List.range' 1 e.invocations_used).map some :=
      List.mem_map.mpr ⟨k, hk, rfl⟩
    rw [← hroots, List.mem_map] at hmem
    obtain ⟨t, ht, hk'⟩ := hmem
    exact ⟨t, (List.mem_filter.mp ht).1, hk'⟩

/-- In every reachable store each meter counts the rows of its ledger, which are numbered from 1,
    and respects its ceiling; recoveries and replays add no row. As long as what the operations
    that know no mode pay for are root tasks of their loop, the roots of an Experiment loop carry
    the numbers up to its meter once each, and its runtime is in sequence. -/
theorem invocations_metered (ops : List EpisodeOp) :
    (∀ id e, (run {} ops).episodes.get? id = some e →
      ((run {} ops).ledger id).length = e.invocations_used
        ∧ ((run {} ops).ledger id).map EpisodeInvocation.invocation_number
          = List.range' 1 e.invocations_used
        ∧ e.invocations_used ≤ e.invocation_ceiling)
    ∧ (∀ op : EpisodeOp, op.is_recovery = true →
      ((run {} ops).apply op).episode_invocations = (run {} ops).episode_invocations)
    ∧ (∀ (op : EpisodeOp) (t : AgentTaskRecord), op.task = some t →
      (run {} ops).tasks.contains t.operation_id = true →
      ((run {} ops).apply op).episode_invocations = (run {} ops).episode_invocations)
    ∧ (Along apply loops_paid {} ops → ∀ id e, (run {} ops).episodes.get? id = some e →
      e.mode = .experiment_loop →
      ((run {} ops).loop_roots e.project_id e.control_node_id (some id)).map
          (fun t => t.request.control_invocation) = (List.range' 1 e.invocations_used).map some
        ∧ (run {} ops).out_of_sequence e = false) := by
  have hmetered : (run {} ops).Metered := metered_run ops metered_empty
  refine ⟨?_, fun op => recovery_adds_no_row, fun op t => replay_adds_no_row, ?_⟩
  · intro id e hget
    have hnumbers := hmetered.numbers id e hget
    refine ⟨?_, hnumbers, hmetered.ceiling id e hget⟩
    have hlength := congrArg List.length hnumbers
    rwa [List.length_map, List.length_range'] at hlength
  · intro halong id e hget hmode
    have hsound : (run {} ops).LoopsSound :=
      invariant_run (fun s op hs hpays => hs.apply hpays) loopsSound_empty halong
    refine ⟨?_, hsound.in_sequence hget hmode⟩
    rw [hsound.sequenced.roots, hsound.counted id e hget hmode]

/-- The first task of an Experiment loop. -/
def sample_loop_task : AgentTaskRecord :=
  { operation_id := "t", project_id := "p", kind := .node_chat, episode_id := some "e",
    authorized_by := some "human",
    request :=
      { node_id := some "n", trigger := .experiment_run, experiment_loop := true,
        control_node_id := some "n", control_episode_id := some "e",
        control_invocation := some 1, control_invocation_ceiling := some 3 } }

/-- The second invocation, and the task that recovers it. -/
def second_loop_task : AgentTaskRecord :=
  { sample_loop_task with
    operation_id := "u"
    request := { sample_loop_task.request with
      trigger := .watcher, control_invocation := some 2 } }

def recovered_loop_task : AgentTaskRecord :=
  { second_loop_task with operation_id := "r", parent_operation_id := some "u", attempt := 2 }

/-- A loop whose second invocation is paid through the operation that knows no mode, fails, and is
    recovered. -/
def sample_loop_run : List EpisodeOp :=
  [.create_experiment_episode_with_invocation sample_loop_task none true,
   .transition_agent_task "t" .running, .transition_agent_task "t" .succeeded,
   .allocate_episode_invocation "e" second_loop_task true,
   .transition_agent_task "u" .running, .transition_agent_task "u" .failed,
   .create_experiment_recovery_task recovered_loop_task true false]

theorem invocations_metered_sample :
    ∃ e, (run {} sample_loop_run).episodes.get? "e" = some e ∧ e.invocations_used = 2
      ∧ (run {} sample_loop_run).tasks.contains "r" = true
      ∧ ((run {} sample_loop_run).ledger "e").map EpisodeInvocation.invocation_number
        = List.range' 1 e.invocations_used
      ∧ ((run {} sample_loop_run).loop_roots e.project_id e.control_node_id (some "e")).map
        (fun t => t.request.control_invocation) = (List.range' 1 e.invocations_used).map some
      ∧ (run {} sample_loop_run).out_of_sequence e = false := by
  have hget : (run {} sample_loop_run).episodes.get? "e"
      = some { started
        { episode_id := "e", project_id := "p", mode := .experiment_loop,
          control_node_id := some "n", invocation_ceiling := 3,
          authorized_by := some "human" } sample_loop_task with invocations_used := 2 } := by
    decide
  have hpaid : Along apply loops_paid {} sample_loop_run := by
    refine ⟨trivial, trivial, trivial, ?_, trivial, trivial, trivial, trivial⟩
    -- the neutral payment is for a root task of the loop of its episode
    intro e he _
    have hnode : ((run {} (sample_loop_run.take 3)).episodes.get? "e").map Episode.control_node_id
        = some (some "n") := by decide
    rw [show (run {} (sample_loop_run.take 3)).episodes.get? "e" = some e from he] at hnode
    exact ⟨rfl, rfl, (Option.some.inj hnode).symm⟩
  obtain ⟨hledger, -, -, hloops⟩ := invocations_metered sample_loop_run
  exact ⟨_, hget, rfl, by decide, (hledger "e" _ hget).2.1, hloops hpaid "e" _ hget rfl⟩

/-- An Experiment episode whose invocation is paid through the operation that knows no mode, for a
    task of no loop. -/
def sample_plain_run : List EpisodeOp :=
  [.create_episode
    { episode_id := "e", project_id := "p", mode := .experiment_loop,
      control_node_id := some "n", invocation_ceiling := 3, authorized_by := some "human" },
   .allocate_episode_invocation "e"
    { operation_id := "t", project_id := "p", kind := .node_chat, episode_id := some "e" } true]

theorem plain_invocation_not_in_loop :
    ¬ ∀ (ops : List EpisodeOp) (id : String) (e : Episode),
      (run {} ops).episodes.get? id = some e → e.mode = .experiment_loop →
      ((run {} ops).loop_roots e.project_id e.control_node_id (some id)).map
        (fun t => t.request.control_invocation) = (List.range' 1 e.invocations_used).map some := by
  intro h
  have hget : (run {} sample_plain_run).episodes.get? "e"
      = some { episode_id := "e", project_id := "p", mode := .experiment_loop,
               control_node_id := some "n", invocation_ceiling := 3,
               authorized_by := some "human", root_operation_id := some "t",
               status := .running, invocations_used := 1 } := by decide
  have hroots := h sample_plain_run "e" _ hget rfl
  have hnone : (run {} sample_plain_run).loop_roots "p" (some "n") (some "e") = [] := by decide
  rw [hnone] at hroots
  cases hroots

end EpisodeStore

end ResearchGraph
