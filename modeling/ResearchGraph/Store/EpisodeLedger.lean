import ResearchGraph.Store.EpisodeRuns

/-! # What an operation does to episodes and their ledger

    Every operation leaves the episodes and the ledger alone, opens an episode,
    moves one row through its lifecycle, or pays for one task of an episode that
    still admits work. The lifecycle of a row is lawful: an ending fixes what
    the status may be, and a stop request leaves the row stopping until Stop
    has settled.
-/

namespace ResearchGraph

open Lib

/-! ### Lawful rows -/

/-- The status, the ending and the stop request of a row agree. -/
structure Episode.Lawful (e : Episode) : Prop where
  undecided : e.ending = none → e.status.stoppable = true
  decided : ∀ x, e.ending = some x → e.status = .wrapping_up ∨ e.status = status_for_ending x
  stop : e.stop_requested_at.isSome = true → e.status = .stopping ∨ e.ending = some .stopped

/-- What a row never loses: its ending, and a status that is not live. -/
structure Episode.Kept (e e' : Episode) : Prop where
  ending : e.ending.isSome = true →
    e'.ending = e.ending ∧ e'.ending_diagnostic = e.ending_diagnostic
  status : e.status.live = false → e'.status = e.status
  stop : e.stop_requested_at.isSome = true → e'.stop_requested_at.isSome = true

/-- The fields that name a row and its budget. -/
structure Episode.SameBudget (e e' : Episode) : Prop where
  episode_id : e'.episode_id = e.episode_id
  project_id : e'.project_id = e.project_id
  mode : e'.mode = e.mode
  control_node_id : e'.control_node_id = e.control_node_id
  graph_target : e'.graph_target = e.graph_target
  invocation_ceiling : e'.invocation_ceiling = e.invocation_ceiling

/-- The row admits operational work. -/
structure Episode.Admitting (e : Episode) : Prop where
  status : e.status.operational = true
  ending : e.ending = none
  stop : e.stop_requested_at = none

namespace Episode

variable {e e' : Episode}

theorem Kept.refl (e : Episode) : e.Kept e := ⟨fun _ => ⟨rfl, rfl⟩, fun _ => rfl, fun h => h⟩

theorem Kept.trans {e'' : Episode} (h : e.Kept e') (h' : e'.Kept e'') : e.Kept e'' where
  ending := by
    intro hend
    obtain ⟨h₁, h₂⟩ := h.ending hend
    obtain ⟨h₃, h₄⟩ := h'.ending (by rw [h₁]; exact hend)
    exact ⟨h₃.trans h₁, h₄.trans h₂⟩
  status := by
    intro hlive
    have h₁ := h.status hlive
    exact (h'.status (by rw [h₁]; exact hlive)).trans h₁
  stop := fun hstop => h'.stop (h.stop hstop)

/-- An operational row of a lawful store has neither an ending nor a stop request. -/
theorem Lawful.admitting (h : e.Lawful) (hop : e.status.operational = true) : e.Admitting := by
  have hend : e.ending = none := by
    rw [Option.eq_none_iff_forall_ne_some]
    intro x hx
    rcases h.decided x hx with hs | hs <;> rw [hs] at hop
    · cases hop
    · cases x <;> cases hop
  refine ⟨hop, hend, ?_⟩
  by_contra hstop
  rcases h.stop (Option.isSome_iff_ne_none.mpr hstop) with hs | hs
  · rw [hs] at hop; cases hop
  · rw [hend] at hs; cases hs

theorem Admitting.lawful (h : e.Admitting) : e.Lawful where
  undecided := by
    intro _
    have := h.status
    revert this
    cases e.status <;> simp [EpisodeStatus.operational, EpisodeStatus.stoppable]
  decided := by
    intro x hx
    rw [h.ending] at hx
    cases hx
  stop := by
    intro hstop
    rw [h.stop] at hstop
    cases hstop

/-- From an admitting row nothing has to be kept. -/
theorem Admitting.kept (h : e.Admitting) : e.Kept e' where
  ending := by
    intro hend
    rw [h.ending] at hend
    cases hend
  status := by
    intro hlive
    have hop := h.status
    revert hop hlive
    cases e.status <;> simp [EpisodeStatus.operational, EpisodeStatus.live]
  stop := by
    intro hstop
    rw [h.stop] at hstop
    cases hstop

/-- A lawful row that Stop can reach is undecided. -/
theorem Lawful.ending_of_stoppable (h : e.Lawful) (hs : e.status.stoppable = true) :
    e.ending = none := by
  rw [Option.eq_none_iff_forall_ne_some]
  intro x hx
  rcases h.decided x hx with h' | h' <;> rw [h'] at hs
  · cases hs
  · cases x <;> cases hs

/-- A lawful row that an ending can settle has no stop request, unless Stop already ended it. -/
theorem Lawful.stop_of_endable (h : e.Lawful) (hs : e.status.endable = true)
    (hend : e.ending ≠ some .stopped) : e.stop_requested_at = none := by
  by_contra hstop
  rcases h.stop (Option.isSome_iff_ne_none.mpr hstop) with h' | h'
  · rw [h'] at hs; cases hs
  · exact hend h'

theorem live_of_endable (hs : e.status.endable = true) : e.status.live = true := by
  revert hs
  cases e.status <;> simp [EpisodeStatus.endable, EpisodeStatus.live]

theorem live_of_stoppable (hs : e.status.stoppable = true) : e.status.live = true := by
  revert hs
  cases e.status <;> simp [EpisodeStatus.stoppable, EpisodeStatus.live]

/-- A row that takes the status of its ending, or waits for its report, is lawful. -/
theorem lawful_of_decided {x : EpisodeEnding} (hend : e.ending = some x)
    (hs : e.status = .wrapping_up ∨ e.status = status_for_ending x)
    (hstop : e.stop_requested_at.isSome = true → x = .stopped) : e.Lawful where
  undecided := by
    intro h
    rw [hend] at h
    cases h
  decided := by
    intro y hy
    rw [hend] at hy
    cases hy
    exact hs
  stop := by
    intro h
    exact .inr (by rw [hend, hstop h])

end Episode

namespace EpisodeStore

/-- A row that Stop ended is stopped. -/
def StopEnds (e : Episode) : Prop := e.ending = some .stopped → e.status = .stopped

/-- An ending other than Stop. -/
theorem stopEnds_of_ne {e : Episode} {x : EpisodeEnding} (hx : e.ending = some x)
    (hne : x ≠ .stopped) : StopEnds e := by
  intro hend
  rw [hx] at hend
  exact absurd (Option.some.inj hend) hne

/-- A row with the status of its ending. -/
theorem stopEnds_settled {e : Episode} {x : EpisodeEnding} (hx : e.ending = some x)
    (hs : e.status = status_for_ending x) : StopEnds e := by
  intro hend
  rw [hx] at hend
  rw [hs, Option.some.inj hend]
  rfl

/-- A row that is not stopped was not ended by Stop, whatever its status becomes. -/
theorem stopEnds_other {e e' : Episode} (h : StopEnds e) (hs : e.status ≠ .stopped)
    (hend : e'.ending = e.ending) : StopEnds e' := by
  intro hstopped
  rw [hend] at hstopped
  exact absurd (h hstopped) hs

end EpisodeStore

/-- The lifecycle step of one row: to a lawful row that keeps its fences. -/
structure Episode.Moves (e e' : Episode) : Prop where
  lawful : e'.Lawful
  kept : e.Kept e'

/-! ### Steps -/

/-- The effect of an operation on the episodes and the ledger. A row moves through its lifecycle
    where the operation respects the fence it finds, and stays stopped where Stop ended it; a row
    that was not there is of an operation that opens an episode; a row of the ledger is of the new
    task the operation inserts. -/
inductive LedgerStep (fence opening : Prop) (paid : Option String) (s s' : EpisodeStore) : Prop
  | same (he : s'.episodes = s.episodes) (hr : s'.episode_invocations = s.episode_invocations)
  | opened (e : Episode) (hopens : opening)
      (habsent : s.episodes.get? e.episode_id = none) (hadmits : e.Admitting)
      (hceiling : 1 ≤ e.invocation_ceiling) (hused : e.invocations_used = 0)
      (he : s'.episodes = s.episodes.put e) (hr : s'.episode_invocations = s.episode_invocations)
  | started (e : Episode) (operation_id : String) (hopens : opening)
      (habsent : s.episodes.get? e.episode_id = none) (hadmits : e.Admitting)
      (hceiling : 1 ≤ e.invocation_ceiling) (hused : e.invocations_used = 1)
      (hpaid : paid = some operation_id) (hnew : s.tasks.get? operation_id = none)
      (hfresh : ∀ r ∈ s.episode_invocations, r.operation_id ≠ operation_id)
      (he : s'.episodes = s.episodes.put e)
      (hr : s'.episode_invocations = s.episode_invocations ++ [⟨e.episode_id, operation_id, 1⟩])
  | moved (e e' : Episode) (hget : s.episodes.get? e.episode_id = some e)
      (he : s'.episodes = s.episodes.put e')
      (hr : s'.episode_invocations = s.episode_invocations) (hsame : e.SameBudget e')
      (hused : e'.invocations_used = e.invocations_used)
      (hends : EpisodeStore.StopEnds e → EpisodeStore.StopEnds e')
      (hmoves : fence → e.Lawful → e.Moves e')
  | spent (e e' : Episode) (operation_id : String)
      (hget : s.episodes.get? e.episode_id = some e) (hop : e.status.operational = true)
      (hbelow : e.invocations_used < e.invocation_ceiling) (hsame : e.SameBudget e')
      (hadmits : e.Lawful → e'.Admitting)
      (hused : e'.invocations_used = e.invocations_used + 1)
      (hpaid : paid = some operation_id) (hnew : s.tasks.get? operation_id = none)
      (hfresh : ∀ r ∈ s.episode_invocations, r.operation_id ≠ operation_id)
      (he : s'.episodes = s.episodes.put e')
      (hr : s'.episode_invocations
        = s.episode_invocations ++ [⟨e.episode_id, operation_id, e.invocations_used + 1⟩])

variable {fence opening : Prop} {paid : Option String}

theorem LedgerStep.refl (s : EpisodeStore) : LedgerStep fence opening paid s s := .same rfl rfl

/-- Only the two tables count. -/
theorem LedgerStep.congr {s s₁ s' : EpisodeStore} (h : LedgerStep fence opening paid s s₁)
    (he : s'.episodes = s₁.episodes) (hr : s'.episode_invocations = s₁.episode_invocations) :
    LedgerStep fence opening paid s s' := by
  cases h with
  | same he' hr' => exact .same (he.trans he') (hr.trans hr')
  | opened e h₁ h₂ h₃ h₄ h₅ he' hr' =>
    exact .opened e h₁ h₂ h₃ h₄ h₅ (he.trans he') (hr.trans hr')
  | started e op h₁ h₂ h₃ h₄ h₅ h₆ h₇ h₈ he' hr' =>
    exact .started e op h₁ h₂ h₃ h₄ h₅ h₆ h₇ h₈ (he.trans he') (hr.trans hr')
  | moved e e' h₁ he' hr' h₂ h₃ h₄ h₅ =>
    exact .moved e e' h₁ (he.trans he') (hr.trans hr') h₂ h₃ h₄ h₅
  | spent e e' op h₁ h₂ h₃ h₄ h₅ h₆ h₇ h₈ h₉ he' hr' =>
    exact .spent e e' op h₁ h₂ h₃ h₄ h₅ h₆ h₇ h₈ h₉ (he.trans he') (hr.trans hr')

/-- A step that moves under a fence moves under a stronger one. -/
theorem LedgerStep.weaken {fence' : Prop} {s s' : EpisodeStore}
    (h : LedgerStep fence opening paid s s') (hfence : fence' → fence) :
    LedgerStep fence' opening paid s s' := by
  cases h with
  | same he hr => exact .same he hr
  | opened e h₁ h₂ h₃ h₄ h₅ he hr => exact .opened e h₁ h₂ h₃ h₄ h₅ he hr
  | started e op h₁ h₂ h₃ h₄ h₅ h₆ h₇ h₈ he hr =>
    exact .started e op h₁ h₂ h₃ h₄ h₅ h₆ h₇ h₈ he hr
  | moved e e' h₁ he hr h₂ h₃ h₄ h₅ =>
    exact .moved e e' h₁ he hr h₂ h₃ h₄ (fun h => h₅ (hfence h))
  | spent e e' op h₁ h₂ h₃ h₄ h₅ h₆ h₇ h₈ h₉ he hr =>
    exact .spent e e' op h₁ h₂ h₃ h₄ h₅ h₆ h₇ h₈ h₉ he hr

namespace EpisodeStore

variable {s s' : EpisodeStore}

/-- A row is stored under its own id. -/
theorem get?_self {id : String} {e : Episode} (h : s.episodes.get? id = some e) :
    e.episode_id = id ∧ s.episodes.get? e.episode_id = some e := by
  have hid : e.episode_id = id := Table.key_of_get? h
  exact ⟨hid, by rw [hid]; exact h⟩

/-! ### Stop and endings -/

theorem request_episode_stop_step {id : String} {now : Int}
    (h : s.request_episode_stop id now = some s') : LedgerStep fence opening paid s s' := by
  unfold request_episode_stop at h
  obtain ⟨e, hget, h⟩ := Option.bind_eq_some_iff.mp h
  split at h
  · cases h; exact .refl s
  simp only [Option.ite_none_left_eq_some, Bool.not_eq_true, Bool.not_eq_false'] at h
  obtain ⟨hstoppable, -, h⟩ := h
  split at h
  · cases h; exact .refl s
  cases h
  refine .moved e _ (get?_self hget).2 rfl rfl ⟨rfl, rfl, rfl, rfl, rfl, rfl⟩ rfl ?_ ?_
  · refine fun h => stopEnds_other h ?_ rfl
    intro hs
    rw [hs] at hstoppable
    cases hstoppable
  intro _ hlawful
  have hend := hlawful.ending_of_stoppable hstoppable
  constructor
  · exact ⟨fun _ => rfl, by simp [hend], fun _ => .inl rfl⟩
  · refine ⟨fun h => ?_, fun h => ?_, fun _ => rfl⟩
    · rw [hend] at h; cases h
    · rw [Episode.live_of_stoppable hstoppable] at h; cases h

/-- An admitting row that is fenced with an ending other than Stop. -/
theorem moves_fenced {e e' : Episode} {x : EpisodeEnding} (hadmits : e.Admitting)
    (hend : e'.ending = some x)
    (hs : e'.status = .wrapping_up ∨ e'.status = status_for_ending x)
    (hstop : e'.stop_requested_at = e.stop_requested_at) : e.Moves e' where
  lawful := Episode.lawful_of_decided hend hs (by rw [hstop, hadmits.stop]; simp)
  kept := hadmits.kept

theorem fence_episode_ending_step {id : String} {ending : EpisodeEnding}
    {diagnostic : Option String} (h : s.fence_episode_ending id ending diagnostic = some s') :
    LedgerStep fence opening paid s s' := by
  unfold fence_episode_ending at h
  simp only [Option.ite_none_left_eq_some, Option.bind_eq_some_iff] at h
  obtain ⟨hne, e, hget, h⟩ := h
  split at h
  · split at h
    · cases h; exact .refl s
    · cases h
  simp only [Option.ite_none_left_eq_some, Bool.not_eq_true, Bool.not_eq_false'] at h
  obtain ⟨-, hop, h⟩ := h
  cases h
  refine .moved e _ (get?_self hget).2 rfl rfl ⟨rfl, rfl, rfl, rfl, rfl, rfl⟩ rfl
    (fun _ => stopEnds_of_ne rfl hne) ?_
  intro _ hlawful
  exact moves_fenced (hlawful.admitting hop) rfl (.inl rfl) rfl

theorem guard_auto_research_finish_step {receipt : FinishReceipt} {diagnostic : Option String}
    {blocked : Bool} (h : s.guard_auto_research_finish receipt diagnostic blocked = some s') :
    LedgerStep fence opening paid s s' := by
  unfold guard_auto_research_finish at h
  simp only [Option.ite_none_left_eq_some] at h
  have h := h.2
  split at h
  · split at h
    · cases h; exact .refl s
    · cases h
  obtain ⟨e, hload, h⟩ := Option.bind_eq_some_iff.mp h
  have hget : s.episodes.get? receipt.episode_id = some e := (Option.filter_eq_some_iff.mp hload).1
  unfold fence_finish at h
  split at h
  · split at h
    · cases h; exact .same rfl rfl
    · cases h
  simp only [Option.ite_none_left_eq_some, Bool.not_eq_true, Bool.not_eq_false'] at h
  obtain ⟨-, hop, h⟩ := h
  split at h
  · cases h; exact .same rfl rfl
  cases h
  refine .moved e _ (get?_self hget).2 rfl rfl ⟨rfl, rfl, rfl, rfl, rfl, rfl⟩ rfl
    (fun _ => stopEnds_of_ne rfl (by decide)) ?_
  intro _ hlawful
  exact moves_fenced (hlawful.admitting hop) rfl (.inl rfl) rfl

/-- A row that an ending can settle takes an ending it does not contradict. -/
theorem moves_settled {e e' : Episode} {x : EpisodeEnding} (hlawful : e.Lawful)
    (hendable : e.status.endable = true) (hx : x ≠ .stopped)
    (hagrees : e.ending.isSome = true → e.ending = some x
      ∧ e'.ending_diagnostic = e.ending_diagnostic)
    (hend : e'.ending = some x)
    (hs : e'.status = .wrapping_up ∨ e'.status = status_for_ending x)
    (hstop : e'.stop_requested_at = e.stop_requested_at) : e.Moves e' := by
  have hnotstopped : e.ending ≠ some .stopped := by
    intro h
    have := (hagrees (by rw [h]; rfl)).1
    rw [h] at this
    exact hx (Option.some.inj this).symm
  have hnone := hlawful.stop_of_endable hendable hnotstopped
  refine ⟨Episode.lawful_of_decided hend hs (by rw [hstop, hnone]; simp), ?_⟩
  refine ⟨fun h => ?_, fun h => ?_, fun h => ?_⟩
  · exact ⟨by rw [hend, (hagrees h).1], (hagrees h).2⟩
  · rw [Episode.live_of_endable hendable] at h; cases h
  · rw [hnone] at h; cases h

theorem begin_episode_wrapup_step {wrapup : EpisodeWrapup} {task : AgentTaskRecord} {bound : Bool}
    (h : s.begin_episode_wrapup wrapup task bound = some s') :
    LedgerStep fence opening paid s s' := by
  rcases begin_episode_wrapup_eq h with
    rfl | ⟨e, s₁, hget, hne, -, -, -, hendable, hagrees, h₁, rfl⟩
  · exact .refl _
  obtain ⟨-, -, -, -, rfl⟩ := insert_agent_task_eq h₁
  refine .moved e _ (get?_self hget).2 rfl rfl ⟨rfl, rfl, rfl, rfl, rfl, rfl⟩ rfl
    (fun _ => stopEnds_of_ne rfl hne) ?_
  intro _ hlawful
  refine moves_settled hlawful hendable hne ?_ rfl (.inl rfl) rfl
  intro hsome
  exact ⟨(hagrees hsome).1, (hagrees hsome).2.symm⟩

theorem end_episode_without_report_step {id : String} {ending : EpisodeEnding}
    {diagnostic : Option String} (h : s.end_episode_without_report id ending diagnostic = some s') :
    LedgerStep fence opening paid s s' := by
  unfold end_episode_without_report at h
  simp only [Option.ite_none_left_eq_some, Option.bind_eq_some_iff, Bool.not_eq_true] at h
  obtain ⟨hne, e, hget, -, hagree, hstop, h⟩ := h
  split at h
  · cases h; exact .refl s
  simp only [Option.ite_none_left_eq_some, Bool.not_eq_true, Bool.not_eq_false'] at h
  obtain ⟨hendable, h⟩ := h
  obtain ⟨routes, rfl⟩ := settle_episode_eq h
  refine .moved e _ (get?_self hget).2 rfl rfl ⟨rfl, rfl, rfl, rfl, rfl, rfl⟩ rfl
    (fun _ => stopEnds_of_ne rfl hne) ?_
  intro _ hlawful
  refine moves_settled hlawful hendable hne ?_ rfl (.inr rfl) rfl
  intro hsome
  simp only [hsome, Bool.true_and, Bool.or_eq_false_iff, decide_eq_false_iff_not, ne_eq,
    Decidable.not_not] at hagree
  exact ⟨hagree.1, hagree.2.symm⟩

/-- The ending a wrap-up failure writes is the one the episode was fenced with. Its siblings check
    this; the operation itself does not. -/
def keeps_fence (s : EpisodeStore) (wrapup : EpisodeWrapup) (ending_diagnostic : Option String) :
    Prop :=
  ∀ e, s.episodes.get? wrapup.episode_id = some e → s.wrapups.get? wrapup.episode_id = none →
    e.status = .wrapping_up →
    e.ending = some wrapup.ending ∧ e.ending_diagnostic = ending_diagnostic

theorem fail_episode_wrapup_unlaunchable_step {wrapup : EpisodeWrapup}
    {ending_diagnostic : Option String}
    (h : s.fail_episode_wrapup_unlaunchable wrapup ending_diagnostic = some s') :
    LedgerStep (s.keeps_fence wrapup ending_diagnostic) opening paid s s' := by
  unfold fail_episode_wrapup_unlaunchable at h
  simp only [Option.ite_none_left_eq_some, Option.bind_eq_some_iff, Bool.or_eq_true,
    decide_eq_true_eq, not_or] at h
  obtain ⟨⟨⟨⟨hne, -⟩, -⟩, -⟩, e, hget, h⟩ := h
  split at h
  · split at h
    · cases h; exact .refl s
    · cases h
  rename_i hwrapup
  simp only [Option.ite_none_left_eq_some, Bool.not_eq_true, Bool.not_eq_false'] at h
  obtain ⟨hendable, -, h⟩ := h
  obtain ⟨routes, rfl⟩ := settle_episode_eq h
  refine .moved e _ (get?_self hget).2 rfl rfl ⟨rfl, rfl, rfl, rfl, rfl, rfl⟩ rfl
    (fun _ => stopEnds_settled rfl rfl) ?_
  intro hkeeps hlawful
  refine moves_settled hlawful hendable hne ?_ rfl (.inr rfl) rfl
  intro hsome
  have hnone : s.wrapups.get? wrapup.episode_id = none :=
    Table.contains_eq_false_iff.mp (Bool.not_eq_true _ ▸ hwrapup)
  -- A decided row that can still be settled is wrapping up, so the fence is in force.
  have hwrapping : e.status = .wrapping_up := by
    obtain ⟨x, hx⟩ := Option.isSome_iff_exists.mp hsome
    rcases hlawful.decided x hx with hs | hs
    · exact hs
    · rw [hs] at hendable
      cases x <;> cases hendable
  obtain ⟨h₁, h₂⟩ := hkeeps e hget hnone hwrapping
  exact ⟨h₁, h₂.symm⟩

theorem mark_episode_stop_skipped_step {id : String} {diagnostic : Option String} {now : Int}
    (h : s.mark_episode_stop_skipped id diagnostic now = some s') :
    LedgerStep fence opening paid s s' := by
  unfold mark_episode_stop_skipped at h
  obtain ⟨e, hget, h⟩ := Option.bind_eq_some_iff.mp h
  split at h
  · cases h; exact .refl s
  simp only [Option.ite_none_left_eq_some, Bool.not_eq_true, Bool.not_eq_false'] at h
  obtain ⟨-, hstoppable, h⟩ := h
  obtain ⟨routes, rfl⟩ := settle_episode_eq h
  refine .moved e _ (get?_self hget).2 rfl rfl ⟨rfl, rfl, rfl, rfl, rfl, rfl⟩ rfl
    (fun _ => stopEnds_settled rfl rfl) ?_
  intro _ hlawful
  have hend := hlawful.ending_of_stoppable hstoppable
  constructor
  · exact Episode.lawful_of_decided rfl (.inr rfl) (fun _ => rfl)
  · refine ⟨fun h => ?_, fun h => ?_, fun _ => rfl⟩
    · rw [hend] at h; cases h
    · rw [Episode.live_of_stoppable hstoppable] at h; cases h

/-! ### Reports -/

/-- A change of the wrap-up fields alone. -/
theorem moves_wrapup {e e' : Episode} (hlawful : e.Lawful) (hstatus : e'.status = e.status)
    (hend : e'.ending = e.ending) (hdiag : e'.ending_diagnostic = e.ending_diagnostic)
    (hstop : e'.stop_requested_at = e.stop_requested_at) : e.Moves e' where
  lawful := by
    constructor
    · rw [hend, hstatus]; exact hlawful.undecided
    · rw [hend, hstatus]; exact hlawful.decided
    · rw [hend, hstatus, hstop]; exact hlawful.stop
  kept := ⟨fun _ => ⟨hend, hdiag⟩, fun _ => hstatus, fun h => by rw [hstop]; exact h⟩

/-- A decided row takes the status of its ending. -/
theorem moves_closed {e e' : Episode} {x : EpisodeEnding} (hlawful : e.Lawful)
    (hx : e.ending = some x) (hstatus : e'.status = status_for_ending x)
    (hend : e'.ending = e.ending) (hdiag : e'.ending_diagnostic = e.ending_diagnostic)
    (hstop : e'.stop_requested_at = e.stop_requested_at) : e.Moves e' where
  lawful := by
    refine Episode.lawful_of_decided (hend.trans hx) (.inr hstatus) ?_
    intro h
    rw [hstop] at h
    rcases hlawful.stop h with hs | hs
    · rcases hlawful.decided x hx with hs' | hs' <;> rw [hs] at hs'
      · cases hs'
      · cases x <;> cases hs'
    · rw [hx] at hs
      exact Option.some.inj hs
  kept := by
    refine ⟨fun _ => ⟨hend, hdiag⟩, fun hlive => ?_, fun h => by rw [hstop]; exact h⟩
    rcases hlawful.decided x hx with hs | hs
    · rw [hs] at hlive; cases hlive
    · rw [hstatus, hs]

/-- What `close_report` does to the row it closes. -/
theorem close_report_eq {e : Episode} {operation_id error : String}
    (h : s.close_report e operation_id error = some s') :
    ∃ x, e.ending = some x ∧ s'.episode_invocations = s.episode_invocations
      ∧ s'.episodes = s.episodes.put
        { e with
          status := status_for_ending x, wrapup_state := .failed, wrapup_error := some error } := by
  unfold close_report at h
  obtain ⟨x, hx, h⟩ := Option.bind_eq_some_iff.mp h
  obtain ⟨routes, rfl⟩ := settle_episode_eq h
  exact ⟨x, hx, rfl, rfl⟩

theorem close_report_step {s₀ : EpisodeStore} {e : Episode} {operation_id error : String}
    (h : s.close_report e operation_id error = some s')
    (hget : s₀.episodes.get? e.episode_id = some e) (heps : s.episodes = s₀.episodes)
    (hrows : s.episode_invocations = s₀.episode_invocations) :
    LedgerStep fence opening paid s₀ s' := by
  obtain ⟨x, hx, hr, he⟩ := close_report_eq h
  rw [heps] at he
  refine .moved e _ hget he (hr.trans hrows) ⟨rfl, rfl, rfl, rfl, rfl, rfl⟩ rfl
    (fun _ => stopEnds_settled hx rfl) ?_
  intro _ hlawful
  exact moves_closed hlawful hx rfl rfl rfl rfl

theorem allocate_episode_report_attempt_step {id attempt_id : String}
    (h : s.allocate_episode_report_attempt id attempt_id = some s') :
    LedgerStep fence opening paid s s' := by
  unfold allocate_episode_report_attempt at h
  simp only [Option.bind_eq_some_iff, Option.ite_none_left_eq_some] at h
  obtain ⟨e, hget, w, -, operation_id, -, -, h⟩ := h
  split at h
  · cases h; exact .refl s
  simp only [Option.ite_none_left_eq_some] at h
  obtain ⟨-, -, h⟩ := h
  cases h
  refine .moved e _ (get?_self hget).2 rfl rfl ⟨rfl, rfl, rfl, rfl, rfl, rfl⟩ rfl (fun h => h) ?_
  intro _ hlawful
  exact moves_wrapup hlawful rfl rfl rfl rfl

theorem mark_episode_report_attempt_running_step {attempt_id : String}
    (h : s.mark_episode_report_attempt_running attempt_id = some s') :
    LedgerStep fence opening paid s s' := by
  unfold mark_episode_report_attempt_running at h
  simp only [Option.bind_eq_some_iff, Option.ite_none_left_eq_some] at h
  obtain ⟨a, -, -, h⟩ := h
  cases h
  exact .same rfl rfl

theorem finish_episode_report_attempt_error_step {attempt_id error : String} {final : Bool}
    (h : s.finish_episode_report_attempt_error attempt_id error final = some s') :
    LedgerStep fence opening paid s s' := by
  unfold finish_episode_report_attempt_error at h
  simp only [Option.bind_eq_some_iff, Option.ite_none_left_eq_some] at h
  obtain ⟨-, a, -, -, e, hget, h⟩ := h
  split at h
  · exact close_report_step h (get?_self hget).2 rfl rfl
  cases h
  refine .moved e _ (get?_self hget).2 rfl rfl ⟨rfl, rfl, rfl, rfl, rfl, rfl⟩ rfl (fun h => h) ?_
  intro _ hlawful
  exact moves_wrapup hlawful rfl rfl rfl rfl

theorem finish_episode_report_ready_step {attempt_id : String} {report : EpisodeReport}
    (h : s.finish_episode_report_ready attempt_id report = some s') :
    LedgerStep fence opening paid s s' := by
  unfold finish_episode_report_ready at h
  simp only [Option.bind_eq_some_iff, Option.ite_none_left_eq_some, Bool.not_eq_true,
    Bool.not_eq_false'] at h
  obtain ⟨a, -, e, hget, w, -, hmatch, -, h⟩ := h
  split at h
  · split at h
    · cases h; exact .refl s
    · cases h
  simp only [Option.ite_none_left_eq_some] at h
  obtain ⟨-, h⟩ := h
  obtain ⟨routes, rfl⟩ := settle_episode_eq h
  have hx : e.ending = some report.ending := by
    simp only [report_matches, Bool.and_eq_true, decide_eq_true_eq] at hmatch
    exact hmatch.2
  refine .moved e _ (get?_self hget).2 rfl rfl ⟨rfl, rfl, rfl, rfl, rfl, rfl⟩ rfl
    (fun _ => stopEnds_settled hx rfl) ?_
  intro _ hlawful
  exact moves_closed hlawful hx rfl rfl rfl rfl

theorem requeue_interrupted_episode_report_allocation_step {id : String}
    (h : s.requeue_interrupted_episode_report_allocation id = some s') :
    LedgerStep fence opening paid s s' := by
  unfold requeue_interrupted_episode_report_allocation at h
  simp only [Option.bind_eq_some_iff, Option.ite_none_left_eq_some] at h
  obtain ⟨e, hget, operation_id, -, -, t, -, h⟩ := h
  split at h
  · cases h; exact .refl s
  simp only [Option.ite_none_left_eq_some] at h
  obtain ⟨-, h⟩ := h
  simp only [requeue_report] at h
  split at h
  · simp only [Option.ite_none_left_eq_some] at h
    exact close_report_step h.2 (get?_self hget).2 rfl rfl
  cases h
  refine .moved e _ (get?_self hget).2 rfl rfl ⟨rfl, rfl, rfl, rfl, rfl, rfl⟩ rfl (fun h => h) ?_
  intro _ hlawful
  exact moves_wrapup hlawful rfl rfl rfl rfl

theorem fail_episode_report_allocation_unlaunchable_step {id diagnostic : String}
    (h : s.fail_episode_report_allocation_unlaunchable id diagnostic = some s') :
    LedgerStep fence opening paid s s' := by
  unfold fail_episode_report_allocation_unlaunchable at h
  simp only [Option.bind_eq_some_iff, Option.ite_none_left_eq_some] at h
  obtain ⟨-, e, hget, w, -, operation_id, -, t, -, -, h⟩ := h
  split at h
  · split at h
    · cases h; exact .refl s
    · cases h
  simp only [Option.ite_none_left_eq_some] at h
  exact close_report_step h.2 (get?_self hget).2 rfl rfl

/-! ### Admissions -/

/-- A paid admission, from the row it read. -/
theorem spend_step {s₀ : EpisodeStore} {e₀ e : Episode} {t : AgentTaskRecord} {bound : Bool}
    (h : s.spend e t bound = some s') (hget : s₀.episodes.get? e₀.episode_id = some e₀)
    (heps : s.episodes = s₀.episodes) (hrows : s.episode_invocations = s₀.episode_invocations)
    (htasks : s.tasks = s₀.tasks) (hop : e₀.status.operational = true)
    (hbelow : e₀.invocations_used < e₀.invocation_ceiling)
    (hsame : e₀.SameBudget e) (hused : e.invocations_used = e₀.invocations_used)
    (hadmits : e₀.Lawful → e.Admitting) : LedgerStep fence opening (some t.operation_id) s₀ s' := by
  obtain ⟨hnew, -, -, -, hfresh, rfl⟩ := spend_eq h
  refine .spent e₀ { e with invocations_used := e.invocations_used + 1 } t.operation_id hget hop
    hbelow ⟨hsame.1, hsame.2, hsame.3, hsame.4, hsame.5, hsame.6⟩ ?_ ?_ rfl (htasks ▸ hnew) ?_ ?_ ?_
  · intro hlawful
    obtain ⟨h₁, h₂, h₃⟩ := hadmits hlawful
    exact ⟨h₁, h₂, h₃⟩
  · show e.invocations_used + 1 = _
    rw [hused]
  · rw [← hrows]; exact hfresh
  · show s.episodes.put _ = _
    rw [heps]
  · show s.episode_invocations ++ [paid_row e t] = _
    rw [hrows, paid_row, hsame.episode_id, hused]

theorem operational_of_admits {e : Episode} (h : admits e = true) : e.Admitting := by
  simp only [admits, Bool.and_eq_true, decide_eq_true_eq, Option.isNone_iff_eq_none] at h
  obtain ⟨⟨h₁, h₂⟩, h₃⟩ := h
  exact ⟨by rw [h₁]; rfl, h₂, h₃⟩

/-- A paid admission of an episode that was read as admitting and below its ceiling. -/
theorem spend_admits_step {s₀ : EpisodeStore} {e : Episode} {t : AgentTaskRecord} {bound : Bool}
    (h : s.spend e t bound = some s') (hget : s₀.episodes.get? e.episode_id = some e)
    (heps : s.episodes = s₀.episodes) (hrows : s.episode_invocations = s₀.episode_invocations)
    (htasks : s.tasks = s₀.tasks) (hadmits : admits e = true)
    (hbelow : e.invocations_used < e.invocation_ceiling) :
    LedgerStep fence opening (some t.operation_id) s₀ s' :=
  spend_step h hget heps hrows htasks (operational_of_admits hadmits).status hbelow
    ⟨rfl, rfl, rfl, rfl, rfl, rfl⟩ rfl (fun _ => operational_of_admits hadmits)

/-- A validated record admits work under a positive ceiling. -/
theorem admitting_of_valid {e : Episode} (h : validate_new_episode e = true) :
    e.Admitting ∧ 1 ≤ e.invocation_ceiling ∧ e.invocations_used = 0 := by
  simp only [validate_new_episode, coherent, Bool.and_eq_true, decide_eq_true_eq,
    Option.isNone_iff_eq_none] at h
  obtain ⟨⟨⟨⟨⟨⟨⟨⟨⟨hcoherent, -⟩, -⟩, hstatus⟩, -⟩, hused⟩, hend⟩, -⟩, -⟩, hstop⟩ := h
  exact ⟨⟨by rw [hstatus]; rfl, hend, hstop⟩, hcoherent.1.1.1, hused⟩

theorem open_episode_step {s₀ : EpisodeStore} {e : Episode} {t : AgentTaskRecord} {bound : Bool}
    (h : s.open_episode (started e t) t bound = some s') (hvalid : validate_new_episode e = true)
    (heps : s.episodes = s₀.episodes) (hrows : s.episode_invocations = s₀.episode_invocations)
    (htasks : s.tasks = s₀.tasks) (hopens : opening) :
    LedgerStep fence opening (some t.operation_id) s₀ s' := by
  obtain ⟨habsent, -, hnew, -, -, -, hfresh, rfl⟩ := open_episode_eq h
  obtain ⟨hadmits, hceiling, -⟩ := admitting_of_valid hvalid
  refine .started (started e t) t.operation_id hopens (heps ▸ habsent) ?_ hceiling rfl rfl
    (htasks ▸ hnew) (hrows ▸ hfresh) ?_ ?_
  · exact ⟨rfl, hadmits.ending, hadmits.stop⟩
  · show s.episodes.put _ = _
    rw [heps]
  · show s.episode_invocations ++ _ = _
    rw [hrows]

theorem create_episode_step {e : Episode} (hopens : opening)
    (h : s.create_episode e = some s') :
    LedgerStep fence opening paid s s' := by
  simp only [create_episode, Option.ite_none_left_eq_some, Bool.not_eq_true,
    Bool.not_eq_false'] at h
  obtain ⟨hvalid, -, h⟩ := h
  obtain ⟨habsent, -, rfl⟩ := insert_episode_eq h
  obtain ⟨hadmits, hceiling, hused⟩ := admitting_of_valid hvalid
  exact .opened e hopens habsent hadmits hceiling hused rfl rfl

theorem create_episode_with_invocation_step {e : Episode} {t : AgentTaskRecord} {bound : Bool}
    (hopens : opening) (h : s.create_episode_with_invocation e t bound = some s') :
    LedgerStep fence opening (some t.operation_id) s s' := by
  rcases create_episode_with_invocation_eq h with rfl | ⟨hvalid, -, -, -, h⟩
  · exact .refl _
  · exact open_episode_step h hvalid rfl rfl rfl hopens

theorem allocate_episode_invocation_step {id : String} {t : AgentTaskRecord} {bound : Bool}
    (h : s.allocate_episode_invocation id t bound = some s') :
    LedgerStep fence opening (some t.operation_id) s s' := by
  rcases allocate_episode_invocation_eq h with rfl | ⟨e, hget, -, -, -, hop, hbelow, h⟩
  · exact .refl _
  refine spend_step h (get?_self hget).2 rfl rfl rfl hop hbelow
    ⟨rfl, rfl, rfl, rfl, rfl, rfl⟩ rfl ?_
  intro hlawful
  have hadmits := hlawful.admitting hop
  exact ⟨rfl, hadmits.ending, hadmits.stop⟩

theorem create_experiment_episode_with_invocation_step {t : AgentTaskRecord}
    {route : Option ChildExperiment} {bound : Bool} (hopens : opening)
    (h : s.create_experiment_episode_with_invocation t route bound = some s') :
    LedgerStep fence opening (some t.operation_id) s s' := by
  obtain ⟨e, s₁, -, hvalid, -, hroute, h⟩ := create_experiment_episode_with_invocation_eq h
  obtain ⟨routes, rfl⟩ := open_route_eq hroute
  exact open_episode_step h hvalid rfl rfl rfl hopens

theorem create_experiment_watcher_invocation_step {t : AgentTaskRecord} {bound : Bool}
    (h : s.create_experiment_watcher_invocation t bound = some s') :
    LedgerStep fence opening (some t.operation_id) s s' := by
  rcases create_experiment_watcher_invocation_eq h with
    rfl | ⟨e, hget, -, -, -, -, -, -, -, hadmits, hbelow, -, -, h⟩
  · exact .refl _
  · exact spend_admits_step h hget rfl rfl rfl hadmits hbelow

/-- A task inserted outside the ledger. -/
theorem insert_agent_task_step {s₀ : EpisodeStore} {t : AgentTaskRecord} {bound repair : Bool}
    (h : s.insert_agent_task t bound repair = some s') (heps : s.episodes = s₀.episodes)
    (hrows : s.episode_invocations = s₀.episode_invocations) :
    LedgerStep fence opening paid s₀ s' := by
  obtain ⟨-, -, -, -, rfl⟩ := insert_agent_task_eq h
  exact .same heps hrows

theorem create_experiment_recovery_task_step {t : AgentTaskRecord} {bound repair : Bool}
    (h : s.create_experiment_recovery_task t bound repair = some s') :
    LedgerStep fence opening paid s s' := by
  obtain ⟨e, -, -, -, -, -, -, -, -, -, h⟩ := create_experiment_recovery_task_eq h
  exact insert_agent_task_step h rfl rfl

theorem create_auto_research_episode_with_root_task_step {e : Episode} {t : AgentTaskRecord}
    {activate bound : Bool} (hopens : opening)
    (h : s.create_auto_research_episode_with_root_task e t activate bound = some s') :
    LedgerStep fence opening (some t.operation_id) s s' := by
  obtain ⟨hvalid, -, -, -, -, -, s₁, s₂, seat, h₁, -, h₂, h⟩ :=
    create_auto_research_episode_with_root_task_eq h
  obtain ⟨habsent, -, rfl⟩ := insert_episode_eq h₁
  obtain ⟨hnew, -, -, -, hfresh, rfl⟩ := spend_eq h₂
  obtain ⟨-, rfl⟩ := insert_auto_research_invocation_eq h
  obtain ⟨hadmits, hceiling, hused⟩ := admitting_of_valid hvalid
  -- The row is written twice, first unused and then with its meter at 1.
  refine .started { reserved e t activate with invocations_used := e.invocations_used + 1 }
    t.operation_id hopens habsent ⟨?_, hadmits.ending, hadmits.stop⟩ hceiling ?_ rfl hnew hfresh
    ?_ ?_
  · cases activate <;> rfl
  · show e.invocations_used + 1 = 1
    rw [hused]
  · exact Table.put_put s.episodes rfl
  · show s.episode_invocations ++ [paid_row (reserved e t activate) t] = _
    simp only [paid_row, reserved, hused, Nat.zero_add]

theorem activate_auto_research_reservation_step {id operation_id : String}
    (h : s.activate_auto_research_reservation id operation_id = some s') :
    LedgerStep fence opening paid s s' := by
  simp only [activate_auto_research_reservation, Option.bind_eq_some_iff,
    Option.ite_none_left_eq_some] at h
  obtain ⟨e, hget, t, -, -, h⟩ := h
  split at h
  · cases h; exact .refl s
  simp only [Option.ite_none_left_eq_some, Bool.or_eq_true, decide_eq_true_eq, not_or, ne_eq,
    Decidable.not_not] at h
  obtain ⟨⟨hqueued, -⟩, h⟩ := h
  cases h
  refine .moved e _ (get?_self hget).2 rfl rfl ⟨rfl, rfl, rfl, rfl, rfl, rfl⟩ rfl ?_ ?_
  · refine fun h => stopEnds_other h ?_ rfl
    rw [hqueued]
    decide
  intro _ hlawful
  have hadmits := hlawful.admitting (by rw [hqueued]; rfl)
  exact ⟨Episode.Admitting.lawful ⟨rfl, hadmits.ending, hadmits.stop⟩, hadmits.kept⟩

theorem create_auto_research_agent_task_step {t : AgentTaskRecord} {role : AutoResearchRole}
    {bound claimed : Bool}
    (h : s.create_auto_research_agent_task t role bound claimed = some s') :
    LedgerStep fence opening (some t.operation_id) s s' := by
  rcases create_auto_research_agent_task_eq h with
    rfl | ⟨e, s₁, seat, hget, -, -, -, hadmits, hbelow, -, h₁, h⟩
  · exact .refl _
  obtain ⟨-, rfl⟩ := insert_auto_research_invocation_eq h
  have hstep : LedgerStep fence opening (some t.operation_id) s s₁ :=
    spend_admits_step h₁ hget rfl rfl rfl hadmits hbelow
  exact hstep.congr rfl rfl

theorem create_auto_research_recovery_task_step {t : AgentTaskRecord} {bound : Bool}
    (h : s.create_auto_research_recovery_task t bound = some s') :
    LedgerStep fence opening paid s s' := by
  obtain ⟨e, p, s₁, seat, parent_id, -, -, -, -, -, -, -, -, -, -, h₁, h⟩ :=
    create_auto_research_recovery_task_eq h
  obtain ⟨-, -, -, -, rfl⟩ := insert_agent_task_eq h₁
  obtain ⟨-, rfl⟩ := insert_auto_research_invocation_eq h
  exact .same rfl rfl

theorem create_auto_research_child_work_step {w : ChildWork} {t : AgentTaskRecord} {bound : Bool}
    (h : s.create_auto_research_child_work w t bound = some s') :
    LedgerStep fence opening (some t.operation_id) s s' := by
  obtain ⟨e, hget, -, -, -, hadmits, hbelow, -, h⟩ := create_auto_research_child_work_eq h
  exact spend_admits_step h hget rfl rfl rfl hadmits hbelow

theorem create_auto_research_child_work_recovery_step {id : String} {t : AgentTaskRecord}
    {bound : Bool} (h : s.create_auto_research_child_work_recovery id t bound = some s') :
    LedgerStep fence opening paid s s' := by
  obtain ⟨e, work, -, -, -, -, -, -, -, h⟩ := create_auto_research_child_work_recovery_eq h
  exact insert_agent_task_step h rfl rfl

theorem create_auto_research_child_work_message_wake_task_step {id : String} {t : AgentTaskRecord}
    {bound claimed : Bool}
    (h : s.create_auto_research_child_work_message_wake_task id t bound claimed = some s') :
    LedgerStep fence opening (some t.operation_id) s s' := by
  rcases create_auto_research_child_work_message_wake_task_eq h with
    rfl | ⟨e, work, hget, -, -, -, hadmits, hbelow, -, h⟩
  · exact .refl _
  · exact spend_admits_step h hget rfl rfl rfl hadmits hbelow

/-! ### Every operation -/

/-- The operations that create an episode. -/
def opens : EpisodeOp → Bool
  | .create_episode .. | .create_episode_with_invocation ..
  | .create_experiment_episode_with_invocation ..
  | .create_auto_research_episode_with_root_task .. => true
  | _ => false

/-- The wrap-up failures of a run that are not refused name the ending their episode was fenced
    with. -/
def keeps_fences (s : EpisodeStore) : EpisodeOp → Prop
  | .fail_episode_wrapup_unlaunchable wrapup ending_diagnostic =>
    (s.fail_episode_wrapup_unlaunchable wrapup ending_diagnostic).isSome = true →
      s.keeps_fence wrapup ending_diagnostic
  | _ => True

/-- What one operation does to the episodes and the ledger. -/
theorem exec_ledger_step {op : EpisodeOp} (h : s.exec op = some s') :
    LedgerStep (s.keeps_fences op) (opens op = true) (op.task.map fun t => t.operation_id)
      s s' := by
  cases op with
  -- what ends or reports an episode
  | request_episode_stop => exact request_episode_stop_step h
  | fence_episode_ending => exact fence_episode_ending_step h
  | guard_auto_research_finish => exact guard_auto_research_finish_step h
  | begin_episode_wrapup => exact begin_episode_wrapup_step h
  | end_episode_without_report => exact end_episode_without_report_step h
  | fail_episode_wrapup_unlaunchable =>
    exact (fail_episode_wrapup_unlaunchable_step h).weaken
      (fun hkeeps => hkeeps (Option.isSome_of_eq_some h))
  | mark_episode_stop_skipped => exact mark_episode_stop_skipped_step h
  | allocate_episode_report_attempt => exact allocate_episode_report_attempt_step h
  | mark_episode_report_attempt_running => exact mark_episode_report_attempt_running_step h
  | finish_episode_report_attempt_error => exact finish_episode_report_attempt_error_step h
  | finish_episode_report_ready => exact finish_episode_report_ready_step h
  | requeue_interrupted_episode_report_allocation =>
    exact requeue_interrupted_episode_report_allocation_step h
  | fail_episode_report_allocation_unlaunchable =>
    exact fail_episode_report_allocation_unlaunchable_step h
  -- what admits a task of an Experiment episode
  | create_episode => exact create_episode_step rfl h
  | create_episode_with_invocation => exact create_episode_with_invocation_step rfl h
  | allocate_episode_invocation => exact allocate_episode_invocation_step h
  | create_experiment_episode_with_invocation =>
    exact create_experiment_episode_with_invocation_step rfl h
  | reserve_experiment_replacement route =>
    simp only [exec, reserve_experiment_replacement, Option.ite_none_left_eq_some] at h
    obtain ⟨-, -, -, h⟩ := h
    cases h
    exact .same rfl rfl
  | cancel_experiment_replacement id =>
    simp only [exec, cancel_experiment_replacement, Option.bind_eq_some_iff] at h
    obtain ⟨route, -, h⟩ := h
    split at h
    · cases h; exact .same rfl rfl
    · split at h
      · cases h; exact .refl s
      · cases h
  | create_experiment_watcher_invocation => exact create_experiment_watcher_invocation_step h
  | create_experiment_recovery_task => exact create_experiment_recovery_task_step h
  -- what admits a task of an Auto-Research episode
  | create_auto_research_episode_with_root_task =>
    exact create_auto_research_episode_with_root_task_step rfl h
  | activate_auto_research_reservation => exact activate_auto_research_reservation_step h
  | create_auto_research_agent_task => exact create_auto_research_agent_task_step h
  | create_auto_research_recovery_task => exact create_auto_research_recovery_task_step h
  | create_auto_research_child_work => exact create_auto_research_child_work_step h
  | create_auto_research_child_work_recovery =>
    exact create_auto_research_child_work_recovery_step h
  | create_auto_research_child_work_message_wake_task =>
    exact create_auto_research_child_work_message_wake_task_step h
  | request_child_work_stop worker_id now =>
    simp only [exec, request_child_work_stop, Option.bind_eq_some_iff] at h
    obtain ⟨w, -, h⟩ := h
    cases h
    exact .same rfl rfl
  -- what admits any other task, and the scheduler
  | create_agent_task => exact insert_agent_task_step (create_agent_task_eq h).2.2.2 rfl rfl
  | create_agent_task_graph_repair =>
    exact insert_agent_task_step (create_agent_task_graph_repair_eq h).2.2 rfl rfl
  | create_watcher_notification_task =>
    rcases create_watcher_notification_task_eq h with rfl | ⟨-, -, h⟩
    · exact .refl _
    · exact insert_agent_task_step h rfl rfl
  | create_branch_merge_task =>
    rcases create_branch_merge_task_eq h with rfl | ⟨e, -, -, -, -, -, -, -, -, -, -, -, h⟩
    · exact .refl _
    · exact insert_agent_task_step h rfl rfl
  | transition_agent_task operation_id target =>
    simp only [exec, transition_task, Option.bind_eq_some_iff] at h
    obtain ⟨t, -, h⟩ := h
    split at h
    · cases h; exact .same rfl rfl
    · cases h
  | abandon_auto_research_recovery operation_id =>
    simp only [exec, abandon_recovery] at h
    split at h
    · cases h; exact .same rfl rfl
    · cases h
  | abandon_experiment_recovery => cases h; exact .same rfl rfl
  | exit_experiment_loop => cases h; exact .same rfl rfl
  | retain_receipts => cases h; exact .same rfl rfl
  | release_source_project => cases h; exact .same rfl rfl

theorem apply_ledger_step {op : EpisodeOp} :
    LedgerStep (s.keeps_fences op) (opens op = true) (op.task.map fun t => t.operation_id)
      s (s.apply op) := by
  rcases s.apply_cases op with h | h
  · rw [h]; exact .refl s
  · exact exec_ledger_step h

/-! ### The ledger of one episode -/

/-- The paid invocations of an episode, in order. -/
def ledger (s : EpisodeStore) (episode_id : String) : List EpisodeInvocation :=
  s.episode_invocations.filter (fun r => r.episode_id = episode_id)

/-- A row of another episode leaves a ledger alone. -/
theorem ledger_append_ne {id : String} {row : EpisodeInvocation} (hne : row.episode_id ≠ id)
    (hr : s'.episode_invocations = s.episode_invocations ++ [row]) :
    s'.ledger id = s.ledger id := by
  unfold ledger
  rw [hr, List.filter_append]
  simp [hne]

theorem ledger_congr {id : String} (hr : s'.episode_invocations = s.episode_invocations) :
    s'.ledger id = s.ledger id := by
  unfold ledger
  rw [hr]

end EpisodeStore

end ResearchGraph
