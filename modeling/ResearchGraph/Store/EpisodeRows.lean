import ResearchGraph.Store.LoopLineages
import ResearchGraph.Store.EpisodeFences

/-! # The rows of Experiment episodes

    Only an operation that creates an episode adds a row, so an Experiment
    episode starts with its first paid task. Its row stays lawful, and once it
    ended other than by Stop it is not asked to stop.
-/

namespace ResearchGraph

open Lib

namespace EpisodeStore

variable {s s' : EpisodeStore}

/-! ### Rows a step writes -/

/-- A row that a step adds is a row of an operation that creates an episode. -/
theorem LedgerStep_opening {fence opening : Prop} {paid : Option String}
    (h : LedgerStep fence opening paid s s') {id : String} {e : Episode}
    (habsent : s.episodes.get? id = none) (hget : s'.episodes.get? id = some e) : opening := by
  -- a row written over another one is stored under the same id
  have hstored : ∀ f f' : Episode, s.episodes.get? f.episode_id = some f →
      f'.episode_id = f.episode_id → s'.episodes = s.episodes.put f' → False := by
    intro f f' hf hkey he
    rw [he, Table.get?_put] at hget
    split at hget
    · rename_i hid
      rw [hid, show (Keyed.key f' : String) = f.episode_id from hkey, hf] at habsent
      cases habsent
    · rw [habsent] at hget
      cases hget
  cases h with
  | same he _ =>
    rw [he, habsent] at hget
    cases hget
  | opened _ hopens => exact hopens
  | started _ _ hopens => exact hopens
  | moved f f' hf he _ hsame => exact (hstored f f' hf hsame.episode_id he).elim
  | spent f f' _ hf _ _ hsame _ _ _ _ _ he => exact (hstored f f' hf hsame.episode_id he).elim

/-! ### New Experiment episodes -/

theorem new_experiment_episode_ceiling {t : AgentTaskRecord} {routed : Bool} {e : Episode}
    (h : new_experiment_episode t routed = some e) :
    t.request.control_invocation_ceiling = some e.invocation_ceiling := by
  simp only [new_experiment_episode, Option.bind_eq_some_iff, Option.ite_none_left_eq_some,
    Option.some.injEq] at h
  obtain ⟨id, -, ceiling, hceiling, -, rfl⟩ := h
  exact hceiling

/-- How an Experiment episode comes into the store: with its first paid task. -/
structure OpenedWith (s s' : EpisodeStore) (id : String) (e : Episode) (op : EpisodeOp)
    (t : AgentTaskRecord) : Prop where
  operation : ∃ route bound, op = .create_experiment_episode_with_invocation t route bound
  episode_id : t.episode_id = some id
  ceiling : t.request.control_invocation_ceiling = some e.invocation_ceiling
  used : e.invocations_used = 1
  episodes : s'.episodes = s.episodes.put e
  key : e.episode_id = id

theorem exec_new_experiment {op : EpisodeOp} {id : String} {e : Episode}
    (hcalled : s.called op) (h : s.exec op = some s') (habsent : s.episodes.get? id = none)
    (hget : s'.episodes.get? id = some e) (hmode : e.mode = .experiment_loop) :
    ∃ t, OpenedWith s s' id e op t := by
  -- a row that was not there is the one the operation writes
  have hnew : ∀ e', s'.episodes = s.episodes.put e' → id = e'.episode_id ∧ e = e' := by
    intro e' he
    rw [he, Table.get?_put] at hget
    split at hget
    · rename_i hid
      exact ⟨hid, (Option.some.inj hget).symm⟩
    · rw [habsent] at hget
      cases hget
  cases hop : opens op with
  | false =>
    have hopens : opens op = true := LedgerStep_opening (exec_ledger_step h) habsent hget
    rw [hop] at hopens
    cases hopens
  | true =>
    cases op with
    | create_episode e' =>
      simp only [exec, create_episode, Option.ite_none_left_eq_some] at h
      obtain ⟨-, -, rfl⟩ := insert_episode_eq h.2.2
      obtain ⟨-, rfl⟩ := hnew e' rfl
      rw [show e.mode = .auto_research from hcalled.2] at hmode
      cases hmode
    | create_episode_with_invocation => exact hcalled.2.elim
    | create_experiment_episode_with_invocation t route bound =>
      obtain ⟨e', s₁, hnew', -, -, hroute, h⟩ := create_experiment_episode_with_invocation_eq h
      obtain ⟨routes, rfl⟩ := open_route_eq hroute
      obtain ⟨-, -, -, -, -, -, -, rfl⟩ := open_episode_eq h
      obtain ⟨hid, rfl⟩ := hnew (started e' t) rfl
      obtain ⟨-, -, -, -, hepisode, -⟩ := new_experiment_episode_eq hnew'
      have hceiling := new_experiment_episode_ceiling hnew'
      refine ⟨t, ⟨route, bound, rfl⟩, ?_, hceiling, rfl, rfl, hid.symm⟩
      rw [hid]
      exact hepisode
    | create_auto_research_episode_with_root_task e' t activate bound =>
      obtain ⟨-, hauto, -, -, -, -, s₁, s₂, seat, h₁, -, h₂, h⟩ :=
        create_auto_research_episode_with_root_task_eq h
      obtain ⟨-, -, rfl⟩ := insert_episode_eq h₁
      obtain ⟨-, -, -, -, -, rfl⟩ := spend_eq h₂
      obtain ⟨-, rfl⟩ := insert_auto_research_invocation_eq h
      obtain ⟨-, rfl⟩ := hnew
        { reserved e' t activate with invocations_used := e'.invocations_used + 1 }
        (Table.put_put s.episodes rfl)
      rw [show e'.mode = .experiment_loop from hmode] at hauto
      cases hauto
    | _ => cases hop

/-! ### Concluded episodes -/

/-- The episode ended other than by Stop. -/
def Concluded (e : Episode) : Prop := ∃ x, e.ending = some x ∧ x ≠ .stopped

/-- The rows of a store are lawful, and Stop leaves the episodes it ended stopped. -/
structure RowsLawful (s : EpisodeStore) : Prop where
  lawful : s.Lawful
  ends : ∀ id e, s.episodes.get? id = some e → StopEnds e

theorem rowsLawful_empty : RowsLawful {} where
  lawful := lawful_empty
  ends := by
    intro id e h
    cases h

theorem RowsLawful.stop_of_concluded (h : s.RowsLawful) {id : String} {e : Episode}
    (hget : s.episodes.get? id = some e) (hconcluded : Concluded e) :
    e.stop_requested_at = none := by
  obtain ⟨x, hx, hne⟩ := hconcluded
  by_contra hstop
  rcases (h.lawful id e hget).stop (Option.isSome_iff_ne_none.mpr hstop) with hs | hs
  · rcases (h.lawful id e hget).decided x hx with hs' | hs' <;> rw [hs] at hs'
    · cases hs'
    · cases x <;> cases hs'
  · rw [hx] at hs
    exact hne (Option.some.inj hs)

/-- A row that an ending can settle has no stop request. -/
theorem RowsLawful.stop_of_endable (h : s.RowsLawful) {id : String} {e : Episode}
    (hget : s.episodes.get? id = some e) (hendable : e.status.endable = true) :
    e.stop_requested_at = none := by
  refine (h.lawful id e hget).stop_of_endable hendable ?_
  intro hend
  rw [h.ends id e hget hend] at hendable
  cases hendable

/-- Episodes that ended other than by Stop stay so. -/
def KeepsConcluded (s s' : EpisodeStore) : Prop :=
  ∀ id e, s.episodes.get? id = some e → Concluded e →
    ∃ e', s'.episodes.get? id = some e' ∧ Concluded e'

theorem exec_fail_unlaunchable {wrapup : EpisodeWrapup} {ending_diagnostic : Option String}
    (hrows : s.RowsLawful)
    (h : s.fail_episode_wrapup_unlaunchable wrapup ending_diagnostic = some s') :
    s'.Lawful ∧ s.KeepsConcluded s' := by
  have hsame : s.Lawful ∧ s.KeepsConcluded s := ⟨hrows.lawful, fun id e he hc => ⟨e, he, hc⟩⟩
  simp only [fail_episode_wrapup_unlaunchable, Option.ite_none_left_eq_some,
    Option.bind_eq_some_iff, Bool.or_eq_true, decide_eq_true_eq, not_or] at h
  obtain ⟨⟨⟨⟨hne, -⟩, -⟩, -⟩, e, hget, h⟩ := h
  split at h
  · split at h
    · cases h; exact hsame
    · cases h
  simp only [Option.ite_none_left_eq_some, Bool.not_eq_true, Bool.not_eq_false'] at h
  obtain ⟨hendable, -, h⟩ := h
  obtain ⟨routes, rfl⟩ := settle_episode_eq h
  have hstop := hrows.stop_of_endable hget hendable
  constructor
  · refine hrows.lawful.put rfl ?_
    refine Episode.lawful_of_decided rfl (.inr rfl) ?_
    intro hsome
    rw [show _ = none from hstop] at hsome
    cases hsome
  · intro id f hf hconcluded
    by_cases hid : id = e.episode_id
    · subst hid
      exact ⟨_, Table.get?_put_self _ _, wrapup.ending, rfl, hne⟩
    · refine ⟨f, ?_, hconcluded⟩
      rw [← hf]
      exact Table.get?_put_ne _ hid

/-- Stop leaves the episodes it ended stopped, whatever the step writes. -/
theorem RowsLawful.ends_step {fence opening : Prop} {paid : Option String} (h : s.RowsLawful)
    (hstep : LedgerStep fence opening paid s s') {id : String} {f : Episode}
    (hget : s'.episodes.get? id = some f) : StopEnds f := by
  have hput : ∀ e, StopEnds e → s'.episodes = s.episodes.put e → StopEnds f := by
    intro e hends he
    rw [he, Table.get?_put] at hget
    split at hget
    · cases hget
      exact hends
    · exact h.ends id f hget
  have hadmitting : ∀ e : Episode, e.Admitting → StopEnds e := by
    intro e hadmits hend
    rw [hadmits.ending] at hend
    cases hend
  cases hstep with
  | same he _ =>
    rw [he] at hget
    exact h.ends id f hget
  | opened e _ _ hadmits _ _ he _ => exact hput e (hadmitting e hadmits) he
  | started e _ _ _ hadmits _ _ _ _ _ he _ => exact hput e (hadmitting e hadmits) he
  | moved e e' hold he _ _ _ hends _ => exact hput e' (hends (h.ends _ e hold)) he
  | spent e e' _ hold _ _ _ hadmits _ _ _ _ he _ =>
    exact hput e' (hadmitting e' (hadmits (h.lawful _ e hold))) he

/-- What every operation keeps of the rows. -/
theorem exec_rows_lawful {op : EpisodeOp} (hrows : s.RowsLawful) (h : s.exec op = some s') :
    s'.RowsLawful ∧ s.KeepsConcluded s' := by
  have hstep := exec_ledger_step h
  have hlawful : s'.Lawful ∧ s.KeepsConcluded s' := by
    by_cases hfence : s.keeps_fences op
    · refine ⟨hrows.lawful.step hfence hstep, ?_⟩
      rintro id e hget ⟨x, hx, hne⟩
      obtain ⟨e', hget', hkept, -⟩ := hrows.lawful.keeps hfence hstep id e hget
      refine ⟨e', hget', x, ?_, hne⟩
      rw [(hkept.ending (by rw [hx]; rfl)).1, hx]
    · cases op with
      | fail_episode_wrapup_unlaunchable wrapup diagnostic => exact exec_fail_unlaunchable hrows h
      | _ => exact absurd trivial hfence
  exact ⟨⟨hlawful.1, fun id e hget => hrows.ends_step hstep hget⟩, hlawful.2⟩

end EpisodeStore

end ResearchGraph
