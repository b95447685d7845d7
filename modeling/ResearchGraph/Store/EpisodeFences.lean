import ResearchGraph.Store.EpisodeLedger

/-! # Ending and Stop fences over whole runs

    Once an episode has a stop request or an ending, its ledger is closed; an
    ending stays as it was written and a status that is not live is never left.
    One operation can break this: a wrap-up failure writes its own ending over
    the one that was fenced.
-/

namespace ResearchGraph

open Lib

namespace EpisodeStore

variable {s s' s'' : EpisodeStore} {ops : List EpisodeOp} {fence opening : Prop}
  {paid : Option String}

/-- Every row of the store is lawful. -/
def Lawful (s : EpisodeStore) : Prop := ∀ id e, s.episodes.get? id = some e → e.Lawful

/-- The episodes of a store are found again in a later one, with what they keep. -/
def Keeps (s s' : EpisodeStore) : Prop :=
  ∀ id e, s.episodes.get? id = some e → ∃ e', s'.episodes.get? id = some e' ∧ e.Kept e' ∧
    (e.stop_requested_at.isSome = true ∨ e.ending.isSome = true →
      s'.ledger id = s.ledger id)

theorem lawful_empty : Lawful {} := by
  intro id e h
  cases h

/-- A step that writes one row is lawful when that row is. -/
theorem Lawful.put {e : Episode} (h : s.Lawful) (he : s'.episodes = s.episodes.put e)
    (hlawful : e.Lawful) : s'.Lawful := by
  intro id f hf
  rw [he, Table.get?_put] at hf
  split at hf
  · cases hf
    exact hlawful
  · exact h id f hf

theorem Lawful.step (h : s.Lawful) (hfence : fence) (hstep : LedgerStep fence opening paid s s') :
    s'.Lawful := by
  cases hstep with
  | same he _ =>
    intro id e hget
    rw [he] at hget
    exact h id e hget
  | opened e _ _ hadmits _ _ he _ => exact h.put he hadmits.lawful
  | started e _ _ _ hadmits _ _ _ _ _ he _ => exact h.put he hadmits.lawful
  | moved e e' hget he _ _ _ _ hmoves => exact h.put he (hmoves hfence (h _ e hget)).lawful
  | spent e e' _ hget _ _ _ hadmits _ _ _ _ he _ => exact h.put he (hadmits (h _ e hget)).lawful

theorem Keeps.refl (s : EpisodeStore) : s.Keeps s :=
  fun _ e h => ⟨e, h, .refl e, fun _ => rfl⟩

theorem Keeps.trans (h : s.Keeps s') (h' : s'.Keeps s'') : s.Keeps s'' := by
  intro id e hget
  obtain ⟨e', hget', hkept, hledger⟩ := h id e hget
  obtain ⟨e'', hget'', hkept', hledger'⟩ := h' id e' hget'
  refine ⟨e'', hget'', hkept.trans hkept', fun hfence => ?_⟩
  -- A fence is kept, so the second part of the run sees it too.
  have hfence' : e'.stop_requested_at.isSome = true ∨ e'.ending.isSome = true := by
    rcases hfence with hstop | hend
    · exact .inl (hkept.stop hstop)
    · exact .inr (by rw [(hkept.ending hend).1]; exact hend)
  rw [hledger' hfence', hledger hfence]

/-- What one step keeps, from a lawful store. -/
theorem Lawful.keeps (h : s.Lawful) (hfence : fence) (hstep : LedgerStep fence opening paid s s') :
    s.Keeps s' := by
  intro id f hf
  cases hstep with
  | same he hr => exact ⟨f, by rw [he]; exact hf, .refl f, fun _ => ledger_congr hr⟩
  | opened e _ habsent _ _ _ he hr =>
    have hne : id ≠ e.episode_id := by
      rintro rfl
      rw [habsent] at hf
      cases hf
    refine ⟨f, ?_, .refl f, fun _ => ledger_congr hr⟩
    rw [he, Table.get?_put_ne _ hne]
    exact hf
  | started e operation_id _ habsent _ _ _ _ _ _ he hr =>
    have hne : id ≠ e.episode_id := by
      rintro rfl
      rw [habsent] at hf
      cases hf
    refine ⟨f, ?_, .refl f, fun _ => ledger_append_ne (Ne.symm hne) hr⟩
    rw [he, Table.get?_put_ne _ hne]
    exact hf
  | moved e e' hget he hr hsame _ _ hmoves =>
    have hmove := hmoves hfence (h _ e hget)
    by_cases hid : id = e.episode_id
    · subst hid
      rw [hget] at hf
      cases hf
      refine ⟨e', ?_, hmove.kept, fun _ => ledger_congr hr⟩
      rw [he, ← hsame.episode_id]
      exact Table.get?_put_self _ _
    · refine ⟨f, ?_, .refl f, fun _ => ledger_congr hr⟩
      rw [he, Table.get?_put_ne _ (by rw [← hsame.episode_id] at hid; exact hid)]
      exact hf
  | spent e e' operation_id hget hop _ hsame _ _ _ _ _ he hr =>
    have hadmits := (h _ e hget).admitting hop
    by_cases hid : id = e.episode_id
    · subst hid
      rw [hget] at hf
      cases hf
      refine ⟨e', ?_, hadmits.kept, fun hfence => ?_⟩
      · rw [he, ← hsame.episode_id]
        exact Table.get?_put_self _ _
      · -- An episode that pays has no fence.
        rw [hadmits.stop, hadmits.ending] at hfence
        simp at hfence
    · refine ⟨f, ?_, .refl f, fun _ => ledger_append_ne (Ne.symm hid) hr⟩
      rw [he, Table.get?_put_ne _ (by rw [← hsame.episode_id] at hid; exact hid)]
      exact hf

theorem lawful_run (hs : s.Lawful) (h : Along apply keeps_fences s ops) : (s.run ops).Lawful :=
  invariant_run (fun _ _ hlawful hkeeps => hlawful.step hkeeps apply_ledger_step) hs h

theorem keeps_run (hs : s.Lawful) (h : Along apply keeps_fences s ops) : s.Keeps (s.run ops) := by
  induction ops generalizing s with
  | nil => exact .refl s
  | cons op ops ih =>
    exact (hs.keeps h.1 apply_ledger_step).trans (ih (hs.step h.1 apply_ledger_step) h.2)

end EpisodeStore

/-! ### The fences hold -/

/-- In every run whose wrap-up failures name the ending their episode was fenced with, an ending
    and its diagnostic stay as they were written, a status that is not live is never left, and the
    ledger of an episode with a stop request or an ending is closed. -/
theorem episode_fences_hold {ops : List EpisodeOp}
    (h : Along EpisodeStore.apply EpisodeStore.keeps_fences {} ops) {i j : Nat} (hij : i ≤ j)
    {id : String} {e : Episode}
    (he : (EpisodeStore.run {} (ops.take i)).episodes.get? id = some e) :
    ∃ e', (EpisodeStore.run {} (ops.take j)).episodes.get? id = some e'
      ∧ (e.ending.isSome = true →
        e'.ending = e.ending ∧ e'.ending_diagnostic = e.ending_diagnostic)
      ∧ (e.status.live = false → e'.status = e.status)
      ∧ (e.stop_requested_at.isSome = true ∨ e.ending.isSome = true →
        (EpisodeStore.run {} (ops.take j)).ledger id
          = (EpisodeStore.run {} (ops.take i)).ledger id) := by
  have hlawful : (EpisodeStore.run {} (ops.take i)).Lawful :=
    EpisodeStore.lawful_run EpisodeStore.lawful_empty (h.take i)
  -- The part of the run between the two states is guarded as well.
  have hguard : Along EpisodeStore.apply EpisodeStore.keeps_fences
      (EpisodeStore.run {} (ops.take i)) ((ops.drop i).take (j - i)) := by
    rw [← List.take_append_drop i ops] at h
    exact (along_append.mp h).2.take (j - i)
  obtain ⟨e', hget, hkept, hledger⟩ := EpisodeStore.keeps_run hlawful hguard id e he
  have hrun : EpisodeStore.run {} (ops.take j)
      = EpisodeStore.run (EpisodeStore.run {} (ops.take i)) ((ops.drop i).take (j - i)) :=
    run_take_of_le hij
  rw [hrun]
  exact ⟨e', hget, hkept.ending, hkept.status, hledger⟩

/-- A wrap-up failure under an ending. -/
def unlaunchable (ending : EpisodeEnding) (ending_diagnostic : Option String) : EpisodeOp :=
  .fail_episode_wrapup_unlaunchable
    { episode_id := "e", ending, state := .failed, diagnostic := some "no session" }
    ending_diagnostic

/-- An Experiment episode that is fenced as completed, whose wrap-up fails under the ending of the
    fence, and which is then asked to stop. -/
def fenced_run : List EpisodeOp :=
  [.create_episode
    { episode_id := "e", project_id := "p", mode := .experiment_loop, control_node_id := some "n",
      invocation_ceiling := 3, authorized_by := some "human" },
   .fence_episode_ending "e" .completed none,
   unlaunchable .completed none,
   .request_episode_stop "e" 0]

theorem fenced_episode_kept :
    ∃ e e', (EpisodeStore.run {} (fenced_run.take 2)).episodes.get? "e" = some e
      ∧ e.ending = some .completed ∧ e.status = .wrapping_up
      ∧ (EpisodeStore.run {} (fenced_run.take 4)).episodes.get? "e" = some e'
      ∧ e'.ending = some .completed ∧ e'.status = .completed
      ∧ (EpisodeStore.run {} (fenced_run.take 4)).ledger "e"
        = (EpisodeStore.run {} (fenced_run.take 2)).ledger "e" := by
  obtain ⟨e, he, hend, hstatus⟩ : ∃ e,
      (EpisodeStore.run {} (fenced_run.take 2)).episodes.get? "e" = some e
        ∧ e.ending = some .completed ∧ e.status = .wrapping_up := ⟨_, rfl, rfl, rfl⟩
  obtain ⟨f, hf, hfstatus⟩ : ∃ f,
      (EpisodeStore.run {} (fenced_run.take 3)).episodes.get? "e" = some f
        ∧ f.status = .completed := ⟨_, rfl, rfl⟩
  have hguard : Along EpisodeStore.apply EpisodeStore.keeps_fences {} fenced_run := by
    refine ⟨trivial, trivial, fun _ => ?_, trivial, trivial⟩
    -- the wrap-up failure names the ending of the fence
    intro e he _ _
    cases he
    exact ⟨rfl, rfl⟩
  obtain ⟨e', he', hkept, -, hledger⟩ := episode_fences_hold hguard (show 2 ≤ 4 by decide) he
  obtain ⟨f', hf', -, hlive, -⟩ := episode_fences_hold hguard (show 3 ≤ 4 by decide) hf
  obtain rfl : e' = f' := Option.some.inj (he'.symm.trans hf')
  exact ⟨e, e', he, hend, hstatus, he', by rw [(hkept (by rw [hend]; rfl)).1, hend],
    by rw [hlive (by rw [hfstatus]; rfl), hfstatus], hledger (.inr (by rw [hend]; rfl))⟩

/-- The same episode, with a wrap-up failure that names another ending. -/
def overwritten_run : List EpisodeOp :=
  fenced_run.take 2 ++ [unlaunchable .failed (some "no session")]

/-- A wrap-up failure replaces the ending an episode was fenced with. -/
theorem fenced_ending_replaced :
    ¬ ∀ (ops : List EpisodeOp) (i j : Nat) (id : String) (e : Episode), i ≤ j →
      (EpisodeStore.run {} (ops.take i)).episodes.get? id = some e → e.ending.isSome = true →
      ∃ e', (EpisodeStore.run {} (ops.take j)).episodes.get? id = some e'
        ∧ e'.ending = e.ending ∧ e'.ending_diagnostic = e.ending_diagnostic := by
  intro h
  obtain ⟨e, he, hend⟩ : ∃ e, (EpisodeStore.run {} (overwritten_run.take 2)).episodes.get? "e"
      = some e ∧ e.ending = some .completed := ⟨_, rfl, rfl⟩
  obtain ⟨e', he', hend', -⟩ := h overwritten_run 2 3 "e" e (by decide) he (by rw [hend]; rfl)
  have hnow : ((EpisodeStore.run {} (overwritten_run.take 3)).episodes.get? "e").map Episode.ending
      = some (some .failed) := by decide
  rw [he', Option.map_some, hend', hend] at hnow
  cases hnow

end ResearchGraph
