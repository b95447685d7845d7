import ResearchGraph.Store.EpisodeRows

/-! # The loops of a run

    In every run whose operations are used as their callers use them, the
    attempts of a loop form whole chains, an Experiment episode is paid as its
    roots say, and only the report of an episode that ended leaves its loop.
-/

namespace ResearchGraph

open Lib

namespace EpisodeStore

variable {s s' : EpisodeStore}

/-! ### What a run keeps of the loops -/

/-- The chains of the loops are whole, a task that ends a chain from outside its loop is of a
    concluded episode, and every Experiment episode is paid and capped as its roots say. -/
structure LineageSound (s : EpisodeStore) : Prop where
  loops : s.LoopsSound
  metered : s.Metered
  rows : s.RowsLawful
  bound : s.ReportsBound
  chained : Chained s.shapes
  chats : ∀ t ∈ s.shapes, t.request.experiment_loop = true → t.kind = .node_chat
  own : ∀ t ∈ s.shapes, t.request.experiment_loop = true →
    t.episode_id = t.request.control_episode_id
  parents : ∀ t ∈ s.shapes, ∀ parent_id, t.parent_operation_id = some parent_id →
    (s.tasks.get? parent_id).isSome = true
  reports : ∀ r ∈ s.shapes, r.request.experiment_loop = false → ∀ a ∈ s.shapes,
    r.parent_operation_id = some a.operation_id → a.request.experiment_loop = true →
    ∀ id, a.request.control_episode_id = some id →
      ∃ e, s.episodes.get? id = some e ∧ Concluded e
  paid : ∀ id e, s.episodes.get? id = some e → e.mode = .experiment_loop → 1 ≤ e.invocations_used
  capped : ∀ id e, s.episodes.get? id = some e → e.mode = .experiment_loop →
    ∀ t ∈ s.loop_roots e.project_id e.control_node_id (some id),
      t.request.control_invocation_ceiling = some e.invocation_ceiling

theorem shapes_empty : ({} : EpisodeStore).shapes = [] := rfl

theorem lineageSound_empty : LineageSound {} := by
  have hnone : ∀ t, t ∉ ({} : EpisodeStore).shapes := by
    intro t ht
    rw [shapes_empty] at ht
    cases ht
  have habsent : ∀ (id : String) (e : Episode),
      ({} : EpisodeStore).episodes.get? id ≠ some e := by
    intro id e h
    cases h
  exact
    { loops := loopsSound_empty
      metered := metered_empty
      rows := rowsLawful_empty
      bound := reportsBound_empty
      chained := ⟨fun t ht => absurd ht (hnone t), fun t ht => absurd ht (hnone t),
        fun t ht => absurd ht (hnone t)⟩
      chats := fun t ht => absurd ht (hnone t)
      own := fun t ht => absurd ht (hnone t)
      parents := fun t ht => absurd ht (hnone t)
      reports := fun t ht => absurd ht (hnone t)
      paid := fun id e h => absurd h (habsent id e)
      capped := fun id e h => absurd h (habsent id e) }

theorem shapes_congr {v : EpisodeStore} (hv : v.tasks = s.tasks) : v.shapes = s.shapes := by
  unfold shapes
  rw [hv]

/-- A new report continues the task that concludes its episode. -/
theorem wrapup_concludes {wrapup : EpisodeWrapup} {t : AgentTaskRecord} {bound : Bool}
    (h : s.begin_episode_wrapup wrapup t bound = some s') (hne : s' ≠ s) {parent_id : String}
    (hparent : t.parent_operation_id = some parent_id) :
    ∃ p, s.tasks.get? parent_id = some p ∧ p.episode_id = some wrapup.episode_id := by
  simp only [begin_episode_wrapup, Option.ite_none_left_eq_some, Option.bind_eq_some_iff,
    Bool.not_eq_true, Bool.not_eq_false'] at h
  obtain ⟨hvalid, e, -, -, -, h⟩ := h
  simp only [validate_new_wrapup, Bool.and_eq_true, decide_eq_true_eq] at hvalid
  split at h
  · split at h
    · cases h
      exact absurd rfl hne
    · cases h
  simp only [Option.ite_none_left_eq_some, Bool.not_eq_true, Bool.not_eq_false'] at h
  obtain ⟨-, hvisible, -⟩ := h
  rw [hvalid.1.2] at hparent
  simp only [concluding_task_visible, hparent, Option.all_some, Option.any_eq_true,
    Bool.and_eq_true, decide_eq_true_eq] at hvisible
  obtain ⟨p, hp, ⟨hid, -⟩, -⟩ := hvisible
  exact ⟨p, hp, hid⟩

/-- What a new task continues: a stored task of its kind, or, for the report of a wrap-up, a task
    of the episode that the wrap-up concludes. -/
theorem called_parent {op : EpisodeOp} {t : AgentTaskRecord} (hcalled : s.called op)
    (h : s.exec op = some s') (htask : op.task = some t) (hne : s' ≠ s) {parent_id : String}
    (hparent : t.parent_operation_id = some parent_id) :
    ∃ p, s.tasks.get? parent_id = some p ∧
      ((p.request.experiment_loop = t.request.experiment_loop
        ∧ (t.request.experiment_loop = true → t.attempt = p.attempt + 1))
      ∨ (t.request.experiment_loop = false ∧ ∃ id e, p.episode_id = some id
        ∧ s'.episodes.get? id = some e ∧ Concluded e)) := by
  have hplain : s.continues t → ∃ p, s.tasks.get? parent_id = some p ∧
      ((p.request.experiment_loop = t.request.experiment_loop
        ∧ (t.request.experiment_loop = true → t.attempt = p.attempt + 1))
      ∨ (t.request.experiment_loop = false ∧ ∃ id e, p.episode_id = some id
        ∧ s'.episodes.get? id = some e ∧ Concluded e)) := by
    intro hcontinues
    obtain ⟨p, hp, hkind⟩ := hcontinues parent_id hparent
    exact ⟨p, hp, .inl hkind⟩
  cases op with
  | begin_episode_wrapup wrapup r bound =>
    cases htask
    rcases begin_episode_wrapup_eq h with heq | ⟨e, s₁, hget, hending, hkind, -, -, -, -, h₁, heq⟩
    · exact absurd heq hne
    obtain ⟨p, hp, hpid⟩ := wrapup_concludes h hne hparent
    have hkey : e.episode_id = wrapup.episode_id := Table.key_of_get? hget
    obtain ⟨e', hget', hend⟩ : ∃ e', s'.episodes.get? wrapup.episode_id = some e'
        ∧ e'.ending = some wrapup.ending := by
      rw [heq, ← hkey]
      exact ⟨_, Table.get?_put_self _ _, rfl⟩
    refine ⟨p, hp, .inr ⟨?_, wrapup.episode_id, e', hpid, hget', wrapup.ending, hend, hending⟩⟩
    -- a task of a loop is a node chat, and a report is of another kind
    by_contra hloop
    have hchat := hcalled.1 t rfl (by simpa using hloop)
    rw [hkind] at hchat
    cases hchat
  | create_episode_with_invocation => exact hcalled.2.elim
  | allocate_episode_invocation => exact hcalled.2.elim
  | create_watcher_notification_task r bound claimed =>
    cases htask
    exact hplain hcalled.2.2
  | _ =>
    first
    | exact hplain (hcalled.2 t htask)
    | cases htask

/-- Meters never go back. -/
theorem LedgerStep_meter {fence opening : Prop} {spent : Option String}
    (h : LedgerStep fence opening spent s s') {id : String} {e : Episode}
    (hget : s.episodes.get? id = some e) :
    ∃ e', s'.episodes.get? id = some e' ∧ e.SameBudget e'
      ∧ e.invocations_used ≤ e'.invocations_used := by
  have hsame : e.SameBudget e := ⟨rfl, rfl, rfl, rfl, rfl, rfl⟩
  have hother : ∀ f : Episode, id ≠ f.episode_id → s'.episodes = s.episodes.put f →
      ∃ e', s'.episodes.get? id = some e' ∧ e.SameBudget e'
        ∧ e.invocations_used ≤ e'.invocations_used := by
    intro f hid he
    refine ⟨e, ?_, hsame, Nat.le_refl _⟩
    rw [he, Table.get?_put_ne _ hid]
    exact hget
  have hfresh : ∀ f : Episode, s.episodes.get? f.episode_id = none → id ≠ f.episode_id := by
    rintro f hf rfl
    rw [hf] at hget
    cases hget
  cases h with
  | same he _ => exact ⟨e, by rw [he]; exact hget, hsame, Nat.le_refl _⟩
  | opened f _ habsent _ _ _ he _ => exact hother f (hfresh f habsent) he
  | started f _ _ habsent _ _ _ _ _ _ he _ => exact hother f (hfresh f habsent) he
  | moved f f' hf he _ hbudget hused _ _ =>
    by_cases hid : id = f'.episode_id
    · rw [hid, hbudget.episode_id, hf] at hget
      cases hget
      refine ⟨f', ?_, hbudget, by omega⟩
      rw [he, hid]
      exact Table.get?_put_self _ _
    · exact hother f' hid he
  | spent f f' _ hf _ _ hbudget _ hused _ _ _ he _ =>
    by_cases hid : id = f'.episode_id
    · rw [hid, hbudget.episode_id, hf] at hget
      cases hget
      refine ⟨f', ?_, hbudget, by omega⟩
      rw [he, hid]
      exact Table.get?_put_self _ _
    · exact hother f' hid he

/-! ### One operation -/

/-- A later row of a task is an old one, or the new task. -/
theorem TaskStep.shape_cases {task : Option AgentTaskRecord} (h : TaskStep task s s')
    {r : AgentTaskRecord} (hr : r ∈ s'.shapes) :
    r ∈ s.shapes ∨ ∃ t, task = some t ∧ r = t.shape ∧ s.tasks.get? t.operation_id = none
      ∧ s'.tasks = s.tasks.put t := by
  rcases h.shapes with heq | ⟨t, v, repair, htask, hnew, -, -, ht, heq⟩
  · rw [heq] at hr
    exact .inl hr
  · rw [heq, List.mem_append, List.mem_singleton] at hr
    exact hr.imp_right fun hr => ⟨t, htask, hr, hnew, ht⟩

theorem request_of_shape {a b : AgentTaskRecord} (h : a.shape = b.shape) :
    a.request = b.request := by
  have hrequest : a.shape.request = b.shape.request := by rw [h]
  exact hrequest

theorem shape_stored {r : AgentTaskRecord} (hr : r ∈ s.shapes) :
    ∃ t, s.tasks.get? r.operation_id = some t ∧ t.shape = r := by
  obtain ⟨t, ht, rfl⟩ := mem_shapes.mp hr
  exact ⟨t, Table.get?_eq_some_iff.mpr ⟨ht, rfl⟩, rfl⟩

theorem TaskStep.ne_of_put {t : AgentTaskRecord} (hnew : s.tasks.get? t.operation_id = none)
    (ht : s'.tasks = s.tasks.put t) : s' ≠ s := by
  rintro rfl
  rw [ht] at hnew
  have hself : (s'.tasks.put t).get? t.operation_id = some t := Table.get?_put_self _ _
  rw [hself] at hnew
  cases hnew

theorem LineageSound.keeps_chains (h : s.LineageSound) {op : EpisodeOp} (hcalled : s.called op)
    (hexec : s.exec op = some s') : Chained s'.shapes := by
  rcases (exec_task_step hexec).1.shapes with heq | ⟨t, v, repair, htask, hnew, hv, hexp, ht, heq⟩
  · rw [heq]
    exact h.chained
  rw [heq, ← shapes_congr hv]
  refine Chained.append (by rw [shapes_congr hv]; exact h.chained) ?_
  refine (h.loops.sequenced.congr hv).new_task hexp ?_
  intro hloop parent_id hparent
  obtain ⟨p, hp, ⟨hkind, hattempt⟩ | ⟨hout, -⟩⟩ :=
    called_parent hcalled hexec htask (TaskStep.ne_of_put hnew ht) hparent
  · exact ⟨p, by rw [hv]; exact hp, hkind, hattempt⟩
  · rw [hloop] at hout
    cases hout

theorem LineageSound.keeps_own (h : s.LineageSound) {op : EpisodeOp}
    (hexec : s.exec op = some s') : ∀ t ∈ s'.shapes, t.request.experiment_loop = true →
      t.episode_id = t.request.control_episode_id := by
  intro r hr hloop
  rcases (exec_task_step hexec).1.shapes with heq | ⟨t, v, repair, -, -, -, hexp, -, heq⟩
  · rw [heq] at hr
    exact h.own r hr hloop
  rw [heq, List.mem_append, List.mem_singleton] at hr
  rcases hr with hr | rfl
  · exact h.own r hr hloop
  · obtain ⟨⟨id, hctl, hid⟩, -⟩ := validate_loop hexp hloop
    exact hid.trans hctl.symm

theorem LineageSound.keeps_parents (h : s.LineageSound) {op : EpisodeOp} (hcalled : s.called op)
    (hexec : s.exec op = some s') : ∀ t ∈ s'.shapes, ∀ parent_id,
      t.parent_operation_id = some parent_id → (s'.tasks.get? parent_id).isSome = true := by
  have hstep := (exec_task_step hexec).1
  have hstored : ∀ id, (s.tasks.get? id).isSome = true → (s'.tasks.get? id).isSome = true := by
    intro id hid
    obtain ⟨t, ht⟩ := Option.isSome_iff_exists.mp hid
    obtain ⟨status, ht'⟩ := hstep.get?_of_get? ht
    rw [ht']
    rfl
  intro r hr parent_id hparent
  rcases hstep.shape_cases hr with hr | ⟨t, htask, rfl, hnew, ht⟩
  · exact hstored parent_id (h.parents r hr parent_id hparent)
  · obtain ⟨p, hp, -⟩ :=
      called_parent hcalled hexec htask (TaskStep.ne_of_put hnew ht) hparent
    exact hstored parent_id (by rw [hp]; rfl)

theorem LineageSound.keeps_reports (h : s.LineageSound) {op : EpisodeOp} (hcalled : s.called op)
    (hexec : s.exec op = some s') : ∀ r ∈ s'.shapes, r.request.experiment_loop = false →
      ∀ a ∈ s'.shapes, r.parent_operation_id = some a.operation_id →
      a.request.experiment_loop = true → ∀ id, a.request.control_episode_id = some id →
        ∃ e, s'.episodes.get? id = some e ∧ Concluded e := by
  have hstep := (exec_task_step hexec).1
  have hkept := (exec_rows_lawful h.rows hexec).2
  intro r hr hrloop a ha hparent haloop id hid
  rcases hstep.shape_cases hr with hr | ⟨t, htask, rfl, hnew, ht⟩
  · -- the parent of an old task is old
    have ha' : a ∈ s.shapes := by
      rcases hstep.shape_cases ha with ha | ⟨t, -, rfl, hnew, -⟩
      · exact ha
      · have hstored := h.parents r hr _ hparent
        rw [show s.tasks.get? t.shape.operation_id = none from hnew] at hstored
        cases hstored
    obtain ⟨e, hget, hconcluded⟩ := h.reports r hr hrloop a ha' hparent haloop id hid
    exact hkept id e hget hconcluded
  · -- a new task outside the loop continues it only as the report of its episode
    obtain ⟨p, hp, hcase⟩ :=
      called_parent hcalled hexec htask (TaskStep.ne_of_put hnew ht) hparent
    have hpa : p.shape = a := by
      obtain ⟨status, hp'⟩ := hstep.get?_of_get? hp
      obtain ⟨a', ha', hshape⟩ := shape_stored ha
      rw [hp'] at ha'
      cases ha'
      exact hshape
    rcases hcase with ⟨hkind, -⟩ | ⟨-, k, e, hpid, hget, hconcluded⟩
    · rw [← hpa, show p.shape.request = p.request from rfl, hkind] at haloop
      rw [show t.shape.request = t.request from rfl, haloop] at hrloop
      cases hrloop
    · have howned := h.own p.shape
        (shape_mem (Table.get?_eq_some_iff.mp hp).1) (by rw [hpa]; exact haloop)
      rw [show p.shape.episode_id = some k from hpid, hpa, hid] at howned
      cases howned
      exact ⟨e, hget, hconcluded⟩

theorem LineageSound.keeps_paid (h : s.LineageSound) {op : EpisodeOp} (hcalled : s.called op)
    (hexec : s.exec op = some s') {id : String} {e : Episode}
    (hget : s'.episodes.get? id = some e) (hmode : e.mode = .experiment_loop) :
    1 ≤ e.invocations_used := by
  cases hold : s.episodes.get? id with
  | none =>
    obtain ⟨t, hopened⟩ := exec_new_experiment hcalled hexec hold hget hmode
    rw [hopened.used]
  | some e₀ =>
    obtain ⟨e', hget', hbudget, hused⟩ := LedgerStep_meter (exec_ledger_step hexec) hold
    rw [hget] at hget'
    cases hget'
    have := h.paid id e₀ hold (hbudget.mode.symm.trans hmode)
    omega

theorem mem_loop_roots {p : String} {n i : Option String} {t : AgentTaskRecord} :
    t ∈ s.loop_roots p n i ↔ t ∈ s.tasks.items ∧ roots_loop p n i t = true := by
  rw [loop_roots_eq, List.mem_filter]

/-- A new root pins the ceiling of the roots before it. -/
theorem root_ceiling {t r : AgentTaskRecord} (hroot : s.validate_experiment_root t = true)
    (hr : r ∈ s.loop_roots t.project_id t.request.control_node_id t.request.control_episode_id) :
    t.request.control_invocation_ceiling = r.request.control_invocation_ceiling := by
  simp only [validate_experiment_root, Bool.and_eq_true, List.all_eq_true,
    decide_eq_true_eq] at hroot
  have hpinned := hroot.1.1.1.1.2 r hr
  simp only [pinned, Prod.mk.injEq] at hpinned
  exact hpinned.2.1.symm

theorem LineageSound.keeps_capped (h : s.LineageSound) {op : EpisodeOp} (hcalled : s.called op)
    (hexec : s.exec op = some s') {id : String} {e : Episode}
    (hget : s'.episodes.get? id = some e) (hmode : e.mode = .experiment_loop)
    {t : AgentTaskRecord} (ht : t ∈ s'.loop_roots e.project_id e.control_node_id (some id)) :
    t.request.control_invocation_ceiling = some e.invocation_ceiling := by
  obtain ⟨hmem, hroots⟩ := mem_loop_roots.mp ht
  have hshape : roots_loop e.project_id e.control_node_id (some id) t.shape = true := hroots
  simp only [roots_loop, in_loop, Bool.and_eq_true, decide_eq_true_eq,
    Option.isNone_iff_eq_none] at hroots
  obtain ⟨hparent, ⟨⟨hproject, hloop⟩, hnode⟩, hctl⟩ := hroots
  cases hold : s.episodes.get? id with
  | none =>
    -- the first root comes with its episode
    obtain ⟨t₀, hopened⟩ := exec_new_experiment hcalled hexec hold hget hmode
    rcases (exec_task_step hexec).1.shape_cases (shape_mem hmem) with hr | ⟨t₁, htask, hr, -⟩
    · obtain ⟨r, hr, hrt⟩ := mem_shapes.mp hr
      have hrreq : r.request = t.request := request_of_shape hrt
      obtain ⟨id', e', hid', hget'⟩ := h.loops.bound r hr (by rw [hrreq]; exact hloop)
      rw [hrreq, hctl] at hid'
      cases hid'
      rw [hold] at hget'
      cases hget'
    · obtain ⟨route, bound, rfl⟩ := hopened.operation
      cases htask
      have hreq : t.request = t₀.request := request_of_shape hr
      rw [hreq]
      exact hopened.ceiling
  | some e₀ =>
    obtain ⟨e', hget', hbudget, -⟩ := LedgerStep_meter (exec_ledger_step hexec) hold
    rw [hget] at hget'
    cases hget'
    have hmode₀ : e₀.mode = .experiment_loop := hbudget.mode.symm.trans hmode
    rw [hbudget.project_id, hbudget.control_node_id] at hshape
    rw [hbudget.invocation_ceiling]
    have hroot_of : ∀ r ∈ s.tasks.items, r.shape = t.shape →
        t.request.control_invocation_ceiling = some e₀.invocation_ceiling := by
      intro r hr hrt
      have hrreq : r.request = t.request := request_of_shape hrt
      rw [← hrreq]
      refine h.capped id e₀ hold hmode₀ r (mem_loop_roots.mpr ⟨hr, ?_⟩)
      show roots_loop _ _ _ r.shape = true
      rw [hrt]
      exact hshape
    rcases (exec_task_step hexec).1.shapes with heq | ⟨t₁, v, repair, -, -, hv, hexp, -, heq⟩
    · have hr := shape_mem hmem
      rw [heq] at hr
      obtain ⟨r, hr, hrt⟩ := mem_shapes.mp hr
      exact hroot_of r hr hrt
    have hr := shape_mem hmem
    rw [heq, List.mem_append, List.mem_singleton] at hr
    rcases hr with hr | hr
    · obtain ⟨r, hr, hrt⟩ := mem_shapes.mp hr
      exact hroot_of r hr hrt
    -- a later root pins what the first one does
    have hreq : t.request = t₁.request := request_of_shape hr
    have hparent₁ : t₁.parent_operation_id = none := by
      rw [← hparent]
      exact (congrArg (fun x => x.parent_operation_id) hr).symm
    have hproject₁ : t₁.project_id = e₀.project_id := by
      rw [← hbudget.project_id, ← hproject]
      exact (congrArg (fun x => x.project_id) hr).symm
    rw [hreq] at hloop hnode hctl ⊢
    have hcount := h.loops.counted id e₀ hold hmode₀
    have hpaid := h.paid id e₀ hold hmode₀
    obtain ⟨r, hr⟩ : ∃ r, r ∈ s.loop_roots e₀.project_id e₀.control_node_id (some id) := by
      apply List.exists_mem_of_length_pos
      omega
    rw [← h.capped id e₀ hold hmode₀ r hr]
    rcases (validate_loop hexp hloop).2 with ⟨-, hvalid⟩ | ⟨hsome, -⟩
    · refine root_ceiling hvalid ?_
      rw [hproject₁, hnode, hbudget.control_node_id, hctl]
      unfold loop_roots loop_tasks at hr ⊢
      rw [hv]
      exact hr
    · rw [hparent₁] at hsome
      cases hsome

theorem LineageSound.exec_step (h : s.LineageSound) {op : EpisodeOp} (hcalled : s.called op)
    (hexec : s.exec op = some s') : s'.LineageSound := by
  have hstep := exec_task_step hexec
  have happly : s.apply op = s' := by
    unfold apply
    rw [hexec]
    rfl
  exact
    { loops := happly ▸ h.loops.apply (called_pays hcalled)
      metered := h.metered.step (exec_ledger_step hexec)
      rows := (exec_rows_lawful h.rows hexec).1
      bound := h.bound.step hstep.1 hstep.2
      chained := h.keeps_chains hcalled hexec
      chats := by
        intro r hr hloop
        rcases hstep.1.shape_cases hr with hr | ⟨t, htask, rfl, -⟩
        · exact h.chats r hr hloop
        · exact hcalled.1 t htask hloop
      own := h.keeps_own hexec
      parents := h.keeps_parents hcalled hexec
      reports := h.keeps_reports hcalled hexec
      paid := fun _ _ => h.keeps_paid hcalled hexec
      capped := fun _ _ hget hmode _ => h.keeps_capped hcalled hexec hget hmode }

/-- The receipts of abandoned recoveries are of no account here. -/
theorem LineageSound.abandon (h : s.LineageSound) (ids : List String) :
    { s with experiment_abandoned := ids }.LineageSound where
  loops := ⟨⟨h.loops.sequenced.roots, h.loops.sequenced.tasks⟩, h.loops.bound, h.loops.counted⟩
  metered := ⟨h.metered.numbers, h.metered.ceiling, h.metered.absent⟩
  rows := ⟨h.rows.lawful, h.rows.ends⟩
  bound := ⟨h.bound.wrapups, h.bound.attempts⟩
  chained := h.chained
  chats := h.chats
  own := h.own
  parents := h.parents
  reports := h.reports
  paid := h.paid
  capped := h.capped

end EpisodeStore

end ResearchGraph
