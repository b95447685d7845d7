import ResearchGraph.Store.Actors

/-! # Live tasks

    At most one task of an Auto-research actor is live, and an actor is paid for
    again only when what it stopped short at is settled. A conversation has at
    most one live task as long as the admissions that do not ask for it find
    none.
-/

namespace ResearchGraph

open Lib

namespace EpisodeStore

variable {s s' : EpisodeStore} {task : Option AgentTaskRecord} {A : String → Prop}

/-! ### Conversations -/

/-- The kinds of task that have a conversation. -/
def is_chat : AgentTaskKind → Bool
  | .node_chat | .project_chat => true
  | _ => false

/-- No two live tasks of one project and kind share a conversation. -/
def ChatsExclusive (s : EpisodeStore) : Prop :=
  ∀ t u, s.tasks.get? t.operation_id = some t → s.tasks.get? u.operation_id = some u →
    is_chat t.kind = true → t.chat_id.isSome = true → t.project_id = u.project_id →
    t.kind = u.kind → t.chat_id = u.chat_id → t.status.active = true → u.status.active = true →
    t.operation_id = u.operation_id

/-- Only conversations overlap. -/
theorem overlap_of_kind {t : AgentTaskRecord} (h : is_chat t.kind = false) :
    s.has_active_chat_overlap t = false := by
  unfold has_active_chat_overlap
  revert h
  cases t.kind <;> simp [is_chat]

/-- Where no overlap is found, no stored live task shares the conversation. -/
theorem idle_of_no_overlap {t u : AgentTaskRecord} (h : s.has_active_chat_overlap t = false)
    (hu : s.tasks.get? u.operation_id = some u) (hkind : is_chat t.kind = true)
    (hchat : t.chat_id.isSome = true) (hproject : u.project_id = t.project_id)
    (hsame : u.kind = t.kind) (hid : u.chat_id = t.chat_id) : u.status.active = false := by
  by_contra hactive
  have hchatkind : (decide (t.kind = .node_chat) || decide (t.kind = .project_chat)) = true := by
    revert hkind
    cases t.kind <;> simp [is_chat]
  have hany : s.tasks.items.any (fun r => r.project_id = t.project_id && r.kind = t.kind
      && r.chat_id = t.chat_id && r.status.active) = true := by
    refine List.any_eq_true.mpr ⟨u, Table.mem_items_iff.mpr hu, ?_⟩
    simpa [hproject, hsame, hid] using hactive
  rw [has_active_chat_overlap, hchatkind, hchat, hany] at h
  cases h

/-- The conversations that are inserted without asking are not live. -/
def chat_checked (s : EpisodeStore) (op : EpisodeOp) : Prop :=
  match op with
  | .create_episode_with_invocation _ t _ | .allocate_episode_invocation _ t _
  | .create_experiment_episode_with_invocation t _ _ =>
    (s.exec op).isSome = true → s.tasks.get? t.operation_id = none →
      s.has_active_chat_overlap t = false
  | _ => True

/-- Every other admission of a conversation asks. -/
theorem exec_no_overlap (hsound : s.ActorsSound A) {op : EpisodeOp} {t : AgentTaskRecord}
    (h : s.exec op = some s') (hchecked : s.chat_checked op) (htask : op.task = some t)
    (hnew : s.tasks.get? t.operation_id = none) (hput : s'.tasks = s.tasks.put t) :
    s.has_active_chat_overlap t = false := by
  -- the operation is no repetition: a new task is in the store behind it
  have hchanged : s' ≠ s := by
    rintro rfl
    have hself := Table.get?_put_self s'.tasks t
    rw [← hput] at hself
    have hnone : s'.tasks.get? (Keyed.key t) = none := hnew
    rw [hnone] at hself
    cases hself
  -- a report, a merge and an actor's task are no chats; the three that do not ask are checked by
  -- the run; the others ask themselves
  cases op with
  | begin_episode_wrapup wrapup r bound =>
    cases htask
    rcases begin_episode_wrapup_eq h with heq | ⟨e, s₁, -, -, hkind, -⟩
    · exact absurd heq hchanged
    · exact overlap_of_kind (by rw [hkind]; rfl)
  | create_episode_with_invocation e r bound =>
    cases htask
    exact hchecked (Option.isSome_of_eq_some h) hnew
  | allocate_episode_invocation id r bound =>
    cases htask
    exact hchecked (Option.isSome_of_eq_some h) hnew
  | create_experiment_episode_with_invocation r route bound =>
    cases htask
    exact hchecked (Option.isSome_of_eq_some h) hnew
  | create_experiment_watcher_invocation r bound =>
    cases htask
    rcases create_experiment_watcher_invocation_eq h with
      heq | ⟨e, -, -, -, -, -, -, -, -, -, -, hchat, -⟩
    · exact absurd heq hchanged
    · exact hchat
  | create_experiment_recovery_task r bound repair =>
    cases htask
    obtain ⟨e, -, -, -, -, -, -, -, -, hchat, -⟩ := create_experiment_recovery_task_eq h
    exact hchat
  | create_auto_research_episode_with_root_task e r activate bound =>
    cases htask
    have hkind := (create_auto_research_episode_with_root_task_eq h).2.2.2.1
    exact overlap_of_kind (by rw [hkind]; rfl)
  | create_auto_research_agent_task r role bound claimed =>
    cases htask
    rcases create_auto_research_agent_task_eq h with
      heq | ⟨e, s₁, seat, -, -, -, hkind, -⟩
    · exact absurd heq hchanged
    · exact overlap_of_kind (by rw [hkind]; rfl)
  | create_auto_research_recovery_task r bound =>
    cases htask
    obtain ⟨e, p, s₁, seat, parent_id, -, -, -, -, hp, -, hkind, -⟩ :=
      create_auto_research_recovery_task_eq h
    -- a recovery has the kind of the actor's task it continues
    have hparent := (hsound.seated_kind (seated_of_actor_task hp).1).1
    exact overlap_of_kind (by rw [hkind, hparent]; rfl)
  | create_auto_research_child_work w r bound =>
    cases htask
    obtain ⟨e, -, -, -, -, -, -, hchat, -⟩ := create_auto_research_child_work_eq h
    exact hchat
  | create_auto_research_child_work_recovery worker_id r bound =>
    cases htask
    obtain ⟨e, work, -, -, -, -, -, -, hchat, -⟩ := create_auto_research_child_work_recovery_eq h
    exact hchat
  | create_auto_research_child_work_message_wake_task worker_id r bound claimed =>
    cases htask
    rcases create_auto_research_child_work_message_wake_task_eq h with
      heq | ⟨e, work, -, -, -, -, -, -, hchat, -⟩
    · exact absurd heq hchanged
    · exact hchat
  | create_agent_task r fresh bound =>
    cases htask
    exact (create_agent_task_eq h).2.2.1
  | create_agent_task_graph_repair r bound =>
    cases htask
    exact (create_agent_task_graph_repair_eq h).2.1
  | create_watcher_notification_task r bound claimed =>
    cases htask
    rcases create_watcher_notification_task_eq h with heq | ⟨-, hchat, -⟩
    · exact absurd heq hchanged
    · exact hchat
  | create_branch_merge_task r bound =>
    cases htask
    rcases create_branch_merge_task_eq h with heq | ⟨e, -, -, hkind, -⟩
    · exact absurd heq hchanged
    · exact overlap_of_kind (by rw [hkind]; rfl)
  | _ => cases htask

/-- A stored task that is live and no report was live before, unless it is new. -/
theorem TaskStep.live_before (h : TaskStep task s s') (hreports : s.ReportsBound)
    {t' : AgentTaskRecord} (hget : s'.tasks.get? t'.operation_id = some t')
    (hkind : t'.kind ≠ .episode_report) (hactive : t'.status.active = true) :
    (task = some t' ∧ s.tasks.get? t'.operation_id = none ∧ s'.tasks = s.tasks.put t')
      ∨ ∃ t status, s.tasks.get? t.operation_id = some t ∧ t.status.active = true
        ∧ t' = { t with status := status } := by
  rcases h.old_task hreports hget with hnew | ⟨t, ht, heq | ⟨status, rfl, hreport | hact⟩⟩
  · exact .inl hnew
  · subst heq
    exact .inr ⟨t', t'.status, ht, hactive, rfl⟩
  · exact absurd hreport hkind
  · exact .inr ⟨t, status, ht, hact, rfl⟩

theorem ChatsExclusive.step (h : s.ChatsExclusive) (hreports : s.ReportsBound)
    (hstep : TaskStep task s s')
    (hfree : ∀ t, task = some t → s.tasks.get? t.operation_id = none → s'.tasks = s.tasks.put t →
      s.has_active_chat_overlap t = false) : s'.ChatsExclusive := by
  intro t' u' ht hu hchat hsome hproject hkind hid hactive hactive'
  have hreport : t'.kind ≠ .episode_report := by
    intro hreport
    rw [hreport] at hchat
    cases hchat
  have hold := hstep.live_before hreports ht hreport hactive
  have hold' := hstep.live_before hreports hu (by rw [← hkind]; exact hreport) hactive'
  rcases hold with ⟨htask, hnew, hput⟩ | ⟨t, status, hget, hlive, rfl⟩
  · rcases hold' with ⟨htask', -, -⟩ | ⟨u, status, hget, hlive, rfl⟩
    · rw [htask] at htask'
      cases htask'
      rfl
    · have hidle := idle_of_no_overlap (hfree t' htask hnew hput) hget hchat hsome hproject.symm
        hkind.symm hid.symm
      rw [hlive] at hidle
      cases hidle
  · rcases hold' with ⟨htask', hnew, hput⟩ | ⟨u, status', hget', hlive', rfl⟩
    · have hidle := idle_of_no_overlap (hfree u' htask' hnew hput) hget
        (by rw [← hkind]; exact hchat) (by rw [← hid]; exact hsome) hproject hkind hid
      rw [hlive] at hidle
      cases hidle
    · exact h t u hget hget' hchat hsome hproject hkind hid hlive hlive'

/-! ### Runs -/

/-- What a run keeps of reports and actors, with the tasks that were abandoned along it. -/
structure LiveSound (A : String → Prop) (s : EpisodeStore) : Prop where
  reports : s.ReportsBound
  actors : s.ActorsSound A

theorem LiveSound.apply (h : s.LiveSound A) (hA : ∀ id ∈ s.recovery_abandoned, A id)
    (op : EpisodeOp) : (s.apply op).LiveSound A := by
  obtain ⟨htask, hreport⟩ := apply_task_step (s := s) op
  refine ⟨h.reports.step htask hreport, ?_⟩
  rcases s.apply_cases op with heq | hexec
  · rw [heq]
    exact h.actors
  · exact h.actors.step hA h.reports htask (exec_actor_step hexec)

/-- The task was abandoned in some state of the run. -/
def abandoned_along (ops : List EpisodeOp) (operation_id : String) : Prop :=
  ∃ k, operation_id ∈ (run {} (ops.take k)).recovery_abandoned

theorem liveSound_run (ops : List EpisodeOp) :
    (run {} ops).LiveSound (abandoned_along ops) := by
  have halong : Along apply
      (fun s _ => ∀ id ∈ s.recovery_abandoned, abandoned_along ops id) {} ops := by
    apply along_of_take
    intro k op _ id hid
    exact ⟨k, hid⟩
  exact invariant_run (fun s op hs hA => hs.apply hA op)
    ⟨reportsBound_empty, actorsSound_empty⟩ halong

/-- A paid task finds every chain of its actor settled. -/
theorem LiveSound.settled (h : s.LiveSound A) (hA : ∀ id ∈ s.recovery_abandoned, A id)
    {op : EpisodeOp} {t u : AgentTaskRecord} {i j : AutoResearchInvocationRecord}
    (hexec : s.exec op = some s') (hpays : pays_actor op = true) (htask : op.task = some t)
    (hnew : s.tasks.get? t.operation_id = none)
    (hrow : s'.auto_research_invocations.get? t.operation_id = some i) (hu : s.Seated u j)
    (hsame : SameActor j i) (hend : ¬ s.Recovered u j) :
    u.status = .succeeded ∨ A u.operation_id := by
  cases exec_actor_step hexec with
  | same hrows =>
    -- the task would have been seated before it was stored
    rw [hrows] at hrow
    obtain ⟨r, hr, -⟩ := h.actors.bound _ i hrow
    rw [hnew] at hr
    cases hr
  | seated t' i' continued htask' hi _ _ hpaid hfree _ _ _ hrows =>
    rw [htask] at htask'
    cases htask'
    rw [hrows, ← hi] at hrow
    have hself : (s.auto_research_invocations.put i').get? i'.operation_id = some i' :=
      Table.get?_put_self _ _
    rw [hself] at hrow
    cases hrow
    by_cases hchild : ∃ child, s.Continues u j child
    · obtain ⟨child, hchild⟩ := hchild
      rcases (h.actors.continued u j child hu hchild).2 with hs | hs | hs
      · exact .inl hs
      · exact .inr hs
      · exact absurd hs hend
    · rcases (settled_of_free hfree hu hsame.1 hsame.2 hchild).2 with hs | hs | hs
      · exact .inl hs
      · rw [hpaid hpays] at hs
        cases hs
      · exact .inr (hA _ hs)

/-- In every reachable store an Auto-research actor has at most one live task, and a paid task is
    inserted only when every recovery chain of its actor ends in a task that succeeded or was
    abandoned. In every run whose unchecked admissions find the conversation idle, no two live
    tasks share a conversation. -/
theorem one_live_task (ops : List EpisodeOp) :
    (∀ t u i j, (run {} ops).Seated t i → (run {} ops).Seated u j → SameActor i j →
      t.status.active = true → u.status.active = true → t.operation_id = u.operation_id)
    ∧ (∀ (op : EpisodeOp) (s' : EpisodeStore) (t u : AgentTaskRecord)
        (i j : AutoResearchInvocationRecord), (run {} ops).exec op = some s' →
      pays_actor op = true → op.task = some t → (run {} ops).tasks.get? t.operation_id = none →
      s'.auto_research_invocations.get? t.operation_id = some i → (run {} ops).Seated u j →
      SameActor j i → ¬ (run {} ops).Recovered u j →
      u.status = .succeeded ∨ abandoned_along ops u.operation_id)
    ∧ (Along apply chat_checked {} ops → (run {} ops).ChatsExclusive) := by
  have hlive := liveSound_run ops
  have hnow : ∀ id ∈ (run {} ops).recovery_abandoned, abandoned_along ops id := by
    intro id hid
    exact ⟨ops.length, by rw [List.take_length]; exact hid⟩
  refine ⟨hlive.actors.exclusive, ?_, ?_⟩
  · intro op s' t u i j hexec hpays htask hnew hrow hu hsame hend
    exact hlive.settled hnow hexec hpays htask hnew hrow hu hsame hend
  · intro halong
    have hinv : (run {} ops).ChatsExclusive ∧ (run {} ops).LiveSound (fun _ => True) := by
      refine invariant_run (I := fun s => s.ChatsExclusive ∧ s.LiveSound (fun _ => True)) ?_ ?_
        halong
      · intro s op hs hchecked
        refine ⟨?_, hs.2.apply (fun _ _ => trivial) op⟩
        rcases s.apply_cases op with heq | hexec
        · rw [heq]
          exact hs.1
        · refine hs.1.step hs.2.reports (exec_task_step hexec).1 ?_
          intro t htask hnew hput
          exact exec_no_overlap hs.2.actors hexec hchecked htask hnew hput
      · refine ⟨?_, reportsBound_empty, actorsSound_empty⟩
        intro t u ht
        cases ht
    exact hinv.1

/-- A Work turn of a conversation. -/
def sample_chat_task : AgentTaskRecord :=
  { operation_id := "w", project_id := "p", kind := .node_chat, chat_id := some "c" }

/-- The first task of an Experiment, in a conversation of its own or another's. -/
def sample_start_task (chat_id : String) : AgentTaskRecord :=
  { operation_id := "t", project_id := "p", kind := .node_chat, episode_id := some "e",
    chat_id := some chat_id, authorized_by := some "human",
    request :=
      { node_id := some "n", trigger := .experiment_run, experiment_loop := true,
        control_node_id := some "n", control_episode_id := some "e",
        control_invocation := some 1, control_invocation_ceiling := some 3 } }

def sample_chat_run (chat_id : String) : List EpisodeOp :=
  [.create_agent_task sample_chat_task true true,
   .create_experiment_episode_with_invocation (sample_start_task chat_id) none true]

/-- The root of an Auto-research episode fails, and its recovery succeeds. -/
def sample_actor_run : List EpisodeOp :=
  [.create_auto_research_episode_with_root_task
    { episode_id := "e", project_id := "p", mode := .auto_research, graph_target := .branch "e",
      invocation_ceiling := 5, authorized_by := some "human" }
    (sample_orchestrator "root" none 1) true true,
   .transition_agent_task "root" .failed,
   .create_auto_research_recovery_task (sample_orchestrator "retry" (some "root") 2) true,
   .transition_agent_task "retry" .running,
   .transition_agent_task "retry" .succeeded]

/-- The next turn of the orchestrator. -/
def sample_wake : EpisodeOp :=
  .create_auto_research_agent_task (sample_orchestrator "wake" (some "retry") 1) .orchestrator true
    false

/-- The seats of the recovery and of the next turn. -/
def sample_seat (operation_id allocation : String) : AutoResearchInvocationRecord :=
  { episode_id := "e", operation_id, role := .orchestrator, actor_operation_id := "root",
    allocation_operation_id := allocation }

theorem one_live_task_sample :
    (∀ t i, (run {} (sample_actor_run.take 3)).Seated t i → i.episode_id = "e" →
      i.actor_operation_id = "root" → t.status.active = true → t.operation_id = "retry")
    ∧ ((run {} (sample_actor_run.take 3)).exec sample_wake).isSome = false
    ∧ (∃ t, (run {} sample_actor_run).tasks.get? "retry" = some t
      ∧ ((run {} sample_actor_run).exec sample_wake).isSome = true
      ∧ (t.status = .succeeded ∨ abandoned_along sample_actor_run "retry"))
    ∧ ((run {} (sample_chat_run "d")).tasks.get? "w").isSome = true
    ∧ ((run {} (sample_chat_run "d")).tasks.get? "t").isSome = true
    ∧ (run {} (sample_chat_run "d")).ChatsExclusive := by
  refine ⟨?_, by decide, ?_, by decide, by decide,
    (one_live_task (sample_chat_run "d")).2.2 ⟨trivial, fun _ _ => ?_, trivial⟩⟩
  · -- while the recovery waits it is the live task of the actor
    intro t i hti hepisode hactor hactive
    have hseat : (run {} (sample_actor_run.take 3)).Seated
        (sample_orchestrator "retry" (some "root") 2) (sample_seat "retry" "root") :=
      ⟨by decide, by decide⟩
    exact (one_live_task (sample_actor_run.take 3)).1 t _ i _ hti hseat ⟨hepisode, hactor⟩ hactive
      rfl
  · -- the next turn is inserted when it has succeeded
    obtain ⟨s', hexec⟩ : ∃ s', (run {} sample_actor_run).exec sample_wake = some s' :=
      Option.isSome_iff_exists.mp (by decide)
    have hrow : ((run {} sample_actor_run).exec sample_wake).map
        (fun s => s.auto_research_invocations.get? "wake")
          = some (some (sample_seat "wake" "wake")) := by
      decide
    rw [hexec] at hrow
    have hseat : (run {} sample_actor_run).Seated
        { sample_orchestrator "retry" (some "root") 2 with status := .succeeded }
        (sample_seat "retry" "root") := ⟨by decide, by decide⟩
    have hend : ¬ (run {} sample_actor_run).Recovered
        { sample_orchestrator "retry" (some "root") 2 with status := .succeeded }
        (sample_seat "retry" "root") := by
      rintro ⟨child, j, hchild, hparent, -⟩
      have hnone : ∀ r ∈ (run {} sample_actor_run).tasks.items,
          r.parent_operation_id ≠ some "retry" := by decide
      exact hnone child (Table.mem_items_iff.mpr hchild.task) hparent
    exact ⟨_, hseat.task, by rw [hexec]; rfl,
      (one_live_task sample_actor_run).2.1 sample_wake s' _ _ _
      _ hexec rfl rfl (by decide) (Option.some.inj hrow) hseat ⟨rfl, rfl⟩ hend⟩
  · show has_active_chat_overlap _ _ = false
    decide

/-- Starting the Experiment in the conversation of the live turn makes two live tasks of it. -/
theorem experiment_start_overlaps : ¬ ∀ ops : List EpisodeOp, (run {} ops).ChatsExclusive := by
  intro h
  have hw : (run {} (sample_chat_run "c")).tasks.get? "w" = some sample_chat_task := by decide
  have ht : (run {} (sample_chat_run "c")).tasks.get? "t" = some (sample_start_task "c") := by
    decide
  have heq := h (sample_chat_run "c") sample_chat_task (sample_start_task "c") hw ht rfl rfl rfl
    rfl rfl rfl rfl
  exact absurd heq (by decide)

end EpisodeStore

end ResearchGraph
