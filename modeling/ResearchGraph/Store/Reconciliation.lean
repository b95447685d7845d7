import ResearchGraph.Store.GraphWatchers

/-! # The verdict of a graph watcher

    However the boundaries of a target are batched into passes, the row of a
    graph watcher is at every moment what one scan of the consumed boundaries
    would record.
-/

namespace ResearchGraph

open Lib

section
variable {s s' : Reconciler} {p : String} {t : GraphTargetRef}

/-! ### One boundary -/

/-- A boundary that is older than the consumed head, or the head itself, writes nothing. -/
theorem consume_skips {store : WatcherStore} {project_id : String} {head : GraphHeadRef}
    {evaluate : Watcher → BoundaryResult} {evaluated_at : Int} {last : ConsumedBoundary}
    (hget : store.reconciliation.get (project_id, head.target) = some last)
    (h : head.revision < last.revision ∨
      (last.revision = head.revision ∧ last.transition_id = head.transition_id)) :
    store.consume_graph_watcher_boundary project_id head evaluate evaluated_at = some store := by
  unfold WatcherStore.consume_graph_watcher_boundary
  rw [hget]
  dsimp only
  rcases h with hlt | ⟨heq, hid⟩
  · rw [if_pos hlt]
  · rw [if_neg (by omega), if_pos heq, if_neg (by simp [hid])]

/-- A boundary ahead of the consumed head is written. -/
theorem consume_writes {store : WatcherStore} {project_id : String} {head : GraphHeadRef}
    {evaluate : Watcher → BoundaryResult} {evaluated_at : Int}
    (h : ∀ last, store.reconciliation.get (project_id, head.target) = some last →
      last.revision < head.revision) :
    store.consume_graph_watcher_boundary project_id head evaluate evaluated_at
      = some (store.write_boundary project_id head evaluate evaluated_at) := by
  unfold WatcherStore.consume_graph_watcher_boundary
  cases hget : store.reconciliation.get (project_id, head.target) with
  | none => rfl
  | some last =>
    have hlt := h last hget
    dsimp only
    rw [if_neg (by omega), if_neg (by omega)]

/-- Under a sound state a step of a pass changes nothing, skips a boundary that is consumed, or
    writes the next one. -/
theorem step_pass_cases (hs : s.Sound) (n : Nat) (evaluated_at : Int) :
    s.step_pass n evaluated_at = s ∨
    ∃ pass b rest done ahead, s.passes[n]? = some pass ∧ pass.remaining = b :: rest ∧
      s.history pass.project_id pass.target = done ++ b :: (rest ++ ahead) ∧
      (∀ a ∈ done, a ∈ s.consumed pass.project_id pass.target) ∧
      ((b ∈ s.consumed pass.project_id pass.target ∧
          s.step_pass n evaluated_at
            = { s with passes := s.passes.set n { pass with remaining := rest } }) ∨
        (s.consumed pass.project_id pass.target = done ∧
          s.step_pass n evaluated_at
            = { s with
                store := s.store.write_boundary pass.project_id
                  (b.head pass.target)
                  (fun w => graph_watcher_boundary_result w b) evaluated_at
                passes := s.passes.set n { pass with remaining := rest } })) := by
  cases hpass : s.passes[n]? with
  | none =>
    left
    unfold Reconciler.step_pass
    rw [hpass]
  | some pass =>
    cases hrem : pass.remaining with
    | nil =>
      left
      unfold Reconciler.step_pass
      rw [hpass]
      simp only [hrem]
    | cons b rest =>
      right
      obtain ⟨done, ahead, hsplit, hdone⟩ := hs.passes_contiguous pass (List.mem_of_getElem? hpass)
      rw [hrem] at hsplit
      refine ⟨pass, b, rest, done, ahead, rfl, hrem, by simpa using hsplit, hdone, ?_⟩
      have hsplit' : s.history pass.project_id pass.target = done ++ b :: (rest ++ ahead) := by
        simpa using hsplit
      unfold Reconciler.step_pass
      rw [hpass]
      simp only [hrem]
      rcases hs.next_boundary hsplit' hdone with hb | ⟨hcons, hnext⟩
      · -- the boundary is consumed: an older one, or the head itself
        left
        refine ⟨hb, ?_⟩
        obtain ⟨last, hlast, hmem, hle⟩ := mem_consumed.mp hb
        have hskip : b.revision < last.revision ∨
            (last.revision = b.revision ∧ last.transition_id = b.transition_id) := by
          by_cases hlt : b.revision < last.revision
          · exact .inl hlt
          · have heq : last.revision = b.revision := by omega
            obtain ⟨b', hb', hrev, hid⟩ := hs.consumed_head _ _ last hlast
            have hsame : b' = b := (hs.increasing _ _).eq_of_key hb' hmem (hrev.trans heq)
            exact .inr ⟨heq, by rw [← hid, hsame]⟩
        rw [@consume_skips s.store pass.project_id (b.head pass.target) _ _ _ hlast hskip]
      · right
        refine ⟨hcons, ?_⟩
        rw [@consume_writes s.store pass.project_id (b.head pass.target) _ _ hnext]

/-! ### Soundness is kept -/

theorem head_write (store : WatcherStore) {project_id : String} {head : GraphHeadRef}
    {evaluate : Watcher → BoundaryResult} {evaluated_at : Int} (p : String) (t : GraphTargetRef) :
    (store.write_boundary project_id head evaluate evaluated_at).reconciliation.get (p, t)
      = if (p, t) = (project_id, head.target) then some ⟨head.revision, head.transition_id⟩
        else store.reconciliation.get (p, t) := by
  unfold WatcherStore.write_boundary
  simp only [Dict.get_set]

/-- Consuming the next boundary adds it to what is consumed, and nothing else. -/
theorem consumed_write (hs : s.Sound) {project_id : String} {target : GraphTargetRef}
    {done rest : List AcceptedGraphBoundary} {b : AcceptedGraphBoundary}
    (hsplit : s.history project_id target = done ++ b :: rest)
    (hcons : s.consumed project_id target = done)
    (hhead : s'.head p t = if (p, t) = (project_id, target) then
      some ⟨b.revision, b.transition_id⟩ else s.head p t)
    (hhist : s'.history = s.history) :
    s'.consumed p t
      = if (p, t) = (project_id, target) then s.consumed p t ++ [b] else s.consumed p t := by
  by_cases heq : (p, t) = (project_id, target)
  · rw [if_pos heq] at hhead ⊢
    obtain ⟨rfl, rfl⟩ := Prod.mk.inj heq
    have hinc := hs.increasing p t
    rw [hsplit] at hinc
    unfold Reconciler.consumed at hcons ⊢
    rw [hhead, hhist, hcons, hsplit]
    exact hinc.filter_le
  · rw [if_neg heq] at hhead ⊢
    unfold Reconciler.consumed
    rw [hhead, hhist]

/-- What one operation does to the consumed boundaries of a target: nothing, or the next one is
    added. -/
def ConsumesNext (s s' : Reconciler) : Prop :=
  ∀ p t, s'.consumed p t = s.consumed p t ∨ ∃ b, s'.consumed p t = s.consumed p t ++ [b]

theorem consumed_of_same (hhead : s'.store.reconciliation = s.store.reconciliation)
    (hhist : s'.history = s.history) (p : String) (t : GraphTargetRef) :
    s'.consumed p t = s.consumed p t := by
  unfold Reconciler.consumed Reconciler.head
  rw [hhead, hhist]

/-- Soundness of the passes carries over to a state that has consumed as much. -/
theorem Reconciler.Sound.of_same (hs : s.Sound)
    (hrec : s'.store.reconciliation = s.store.reconciliation) (hhist : s'.history = s.history)
    (hpasses : ∀ pass ∈ s'.passes, ∃ done ahead,
      s.history pass.project_id pass.target = done ++ (pass.remaining ++ ahead) ∧
        ∀ b ∈ done, b ∈ s.consumed pass.project_id pass.target) : s'.Sound where
  increasing p t := by
    rw [hhist]
    exact hs.increasing p t
  consumed_head p t last hlast := by
    unfold Reconciler.head at hlast
    rw [hrec] at hlast
    rw [hhist]
    exact hs.consumed_head p t last hlast
  passes_contiguous pass hpass := by
    rw [hhist, consumed_of_same hrec hhist]
    exact hpasses pass hpass

theorem mem_passes_set {passes : List ReconciliationPass} {n : Nat} {pass q : ReconciliationPass}
    (h : q ∈ passes.set n pass) : q = pass ∨ q ∈ passes := by
  rcases List.mem_or_eq_of_mem_set h with h | h
  · exact .inr h
  · exact .inl h

theorem sound_step_pass (hs : s.Sound) (n : Nat) (evaluated_at : Int) :
    (s.step_pass n evaluated_at).Sound := by
  rcases step_pass_cases hs n evaluated_at with
    h | ⟨pass, b, rest, done, ahead, hpass, hrem, hsplit, hdone, ⟨hb, h⟩ | ⟨hcons, h⟩⟩
  · rw [h]
    exact hs
  · -- the boundary was consumed before; the pass moves on
    rw [h]
    refine hs.of_same rfl rfl (fun q hq => ?_)
    rcases mem_passes_set hq with rfl | hq
    · refine ⟨done ++ [b], ahead, by simpa using hsplit, fun a ha => ?_⟩
      rcases List.mem_append.mp ha with ha | ha
      · exact hdone a ha
      · rw [List.mem_singleton.mp ha]
        exact hb
    · exact hs.passes_contiguous q hq
  · have hhead : ∀ p t, (s.step_pass n evaluated_at).head p t
        = if (p, t) = (pass.project_id, pass.target) then some ⟨b.revision, b.transition_id⟩
          else s.head p t := by
      intro p t
      rw [h]
      exact head_write s.store p t
    have hhist : (s.step_pass n evaluated_at).history = s.history := by rw [h]
    have hcw := fun p t => consumed_write hs hsplit hcons (hhead p t) hhist
    refine ⟨by rw [hhist]; exact hs.increasing, ?_, ?_⟩
    · intro p t last hlast
      rw [hhead] at hlast
      rw [hhist]
      split at hlast
      · rename_i heq
        obtain ⟨rfl, rfl⟩ := Prod.mk.inj heq
        obtain rfl := Option.some.inj hlast
        refine ⟨b, ?_, rfl, rfl⟩
        rw [hsplit]
        simp
      · exact hs.consumed_head p t last hlast
    · intro q hq
      -- everything consumed before is consumed still
      have hgrow : ∀ p t a, a ∈ s.consumed p t →
          a ∈ (s.step_pass n evaluated_at).consumed p t := by
        intro p t a ha
        rw [hcw p t]
        split
        · exact List.mem_append_left _ ha
        · exact ha
      rw [hhist]
      have hq : q ∈ s.passes.set n { pass with remaining := rest } := by rw [h] at hq; exact hq
      rcases mem_passes_set hq with rfl | hq
      · refine ⟨done ++ [b], ahead, by simpa using hsplit, fun a ha => ?_⟩
        rw [hcw, if_pos rfl, hcons]
        exact ha
      · obtain ⟨done', ahead', hsplit', hdone'⟩ := hs.passes_contiguous q hq
        exact ⟨done', ahead', hsplit', fun a ha => hgrow _ _ a (hdone' a ha)⟩

theorem sound_accept (hs : s.Sound) (project_id : String) (target : GraphTargetRef)
    (b : AcceptedGraphBoundary) : (s.accept project_id target b).Sound := by
  unfold Reconciler.accept
  split
  · rename_i hall
    -- a history only grows, at its end
    have hgrow : ∀ p t, ∃ more, (if p = project_id ∧ t = target then s.history p t ++ [b]
        else s.history p t) = s.history p t ++ more := by
      intro p t
      split
      · exact ⟨[b], rfl⟩
      · exact ⟨[], by simp⟩
    refine ⟨?_, ?_, ?_⟩
    · intro p t
      dsimp only
      split
      · rename_i heq
        obtain ⟨rfl, rfl⟩ := heq
        refine List.pairwise_append.mpr ⟨hs.increasing p t, List.pairwise_singleton _ _, ?_⟩
        intro a ha c hc
        rw [List.mem_singleton.mp hc]
        simpa using List.all_eq_true.mp hall a ha
      · exact hs.increasing p t
    · intro p t last hlast
      obtain ⟨a, ha, hrev, hid⟩ := hs.consumed_head p t last hlast
      obtain ⟨more, hmore⟩ := hgrow p t
      refine ⟨a, ?_, hrev, hid⟩
      dsimp only
      rw [hmore]
      exact List.mem_append_left _ ha
    · intro pass hpass
      obtain ⟨done, ahead, hsplit, hdone⟩ := hs.passes_contiguous pass hpass
      obtain ⟨more, hmore⟩ := hgrow pass.project_id pass.target
      refine ⟨done, ahead ++ more, ?_, fun a ha => ?_⟩
      · dsimp only
        rw [hmore, hsplit]
        simp
      · obtain ⟨last, hlast, hmem, hle⟩ := mem_consumed.mp (hdone a ha)
        refine mem_consumed.mpr ⟨last, hlast, ?_, hle⟩
        dsimp only
        rw [hmore]
        exact List.mem_append_left _ hmem
  · exact hs

theorem sound_begin_pass (hs : s.Sound) (project_id : String) (target : GraphTargetRef)
    (head_revision : Nat) : (s.begin_pass project_id target head_revision).Sound := by
  unfold Reconciler.begin_pass
  split
  · refine hs.of_same rfl rfl (fun pass hpass => ?_)
    rcases List.mem_append.mp hpass with hpass | hpass
    · exact hs.passes_contiguous pass hpass
    · -- the new pass starts at the consumed head; what is below it is consumed
      rw [List.mem_singleton.mp hpass]
      unfold Reconciler.unconsumed
      cases hhead : s.head project_id target with
      | none => exact ⟨[], [], by simp, by simp⟩
      | some last =>
        refine ⟨(s.history project_id target).filter (fun b => b.revision < last.revision), [],
          ?_, fun b hb => ?_⟩
        · simp only [List.append_nil]
          exact ((hs.increasing project_id target).cut last.revision).symm
        · obtain ⟨hmem, hlt⟩ := List.mem_filter.mp hb
          simp only [decide_eq_true_eq] at hlt
          exact mem_consumed.mpr ⟨last, hhead, hmem, by omega⟩
  · exact hs

/-! ### Arming -/

/-- What an insertion of watchers does: it keeps the rows and the consumed heads, and no new
    graph watcher arms behind them. -/
structure Inserts (a b : WatcherStore) : Prop where
  reconciliation : b.reconciliation = a.reconciliation
  kept : ∀ id w, a.watchers.get? id = some w → b.watchers.get? id = some w
  ahead : ∀ id w, b.watchers.get? id = some w →
    a.watchers.get? id = some w ∨ a.arms_behind w = false

theorem Inserts.refl (a : WatcherStore) : Inserts a a := ⟨rfl, fun _ _ h => h, fun _ _ h => .inl h⟩

theorem arms_behind_congr {a b : WatcherStore} (h : b.reconciliation = a.reconciliation)
    (w : Watcher) : b.arms_behind w = a.arms_behind w := by
  unfold WatcherStore.arms_behind
  rw [h]

theorem Inserts.trans {a b c : WatcherStore} (hab : Inserts a b) (hbc : Inserts b c) :
    Inserts a c where
  reconciliation := hbc.reconciliation.trans hab.reconciliation
  kept id w h := hbc.kept id w (hab.kept id w h)
  ahead id w h := by
    rcases hbc.ahead id w h with hb | hb
    · exact hab.ahead id w hb
    · rw [arms_behind_congr hab.reconciliation] at hb
      exact .inr hb

theorem Inserts.insert_row {a b : WatcherStore} {w : Watcher} (hw : a.arms_behind w = false)
    (h : a.insert_row w = some b) : Inserts a b := by
  unfold WatcherStore.insert_row at h
  split at h
  · cases h
  · rename_i hnew
    obtain rfl := Option.some.inj h
    refine ⟨rfl, fun id v hv => ?_, fun id v hv => ?_⟩
    · show (a.watchers.put w).get? id = some v
      rw [Table.get?_put]
      split
      · rename_i hid
        exact absurd (Table.contains_iff.mpr ⟨v, by rw [← hv, hid]; rfl⟩) hnew
      · exact hv
    · replace hv : (a.watchers.put w).get? id = some v := hv
      rw [Table.get?_put] at hv
      split at hv
      · obtain rfl := Option.some.inj hv
        exact .inr hw
      · exact .inl hv

theorem Inserts.insert_watcher {a b : WatcherStore} {origin : String → Option WatcherOrigin}
    {w : Watcher} (h : a.insert_watcher origin w = some b) : Inserts a b := by
  unfold WatcherStore.insert_watcher at h
  split at h
  · split at h
    · cases h
    · split at h
      · cases h
      · rename_i hb
        exact Inserts.insert_row (by simpa using hb) h
  · split at h
    · cases h
    · dsimp only at h
      split at h <;> split at h
      · cases h
      · rename_i hb
        exact Inserts.insert_row (by simpa using hb) h
      · cases h
      · rename_i hb
        exact Inserts.insert_row (by simpa using hb) h

theorem Inserts.create {a b : WatcherStore} {origin : String → Option WatcherOrigin}
    {records : List Watcher} (h : a.create_watchers origin records = some b) : Inserts a b := by
  unfold WatcherStore.create_watchers at h
  split at h
  · rename_i hvalid
    clear hvalid
    induction records generalizing a with
    | nil =>
      obtain rfl : a = b := Option.some.inj h
      exact Inserts.refl a
    | cons w records ih =>
      rw [List.foldlM_cons] at h
      obtain ⟨mid, hmid, hrest⟩ := Option.bind_eq_some_iff.mp h
      exact (Inserts.insert_watcher hmid).trans (ih hrest)
  · cases h

theorem inserts_arm (s : Reconciler) (origin : String → Option WatcherOrigin)
    (records : List Watcher) : Inserts s.store (s.apply (.arm origin records)).store := by
  show Inserts s.store ((s.store.create_watchers origin records).getD s.store)
  cases h : s.store.create_watchers origin records with
  | none => exact Inserts.refl _
  | some b => exact Inserts.create h

/-- A watcher that is armed is armed at or ahead of everything its target has consumed. -/
theorem armed_ahead {w : Watcher} {armed_revision : Nat}
    (hb : s.store.arms_behind w = false) (hw : w.waits = true)
    (harmed : w.armed_revision = some armed_revision) :
    ∀ b ∈ s.consumed w.project_id w.graph_target, b.revision ≤ armed_revision := by
  intro b hmem
  obtain ⟨last, hlast, -, hle⟩ := mem_consumed.mp hmem
  have hget : s.store.reconciliation.get (w.project_id, w.graph_target) = some last := hlast
  obtain ⟨⟨hg, hactive⟩, -⟩ : (w.is_graph = true ∧ w.status = .active) ∧ w.notified = false := by
    simpa [Watcher.waits] using hw
  unfold WatcherStore.arms_behind at hb
  rw [harmed, hget] at hb
  simp [hg, hactive] at hb
  omega

/-! ### Every operation -/

theorem sound_apply (hs : s.Sound) (op : ReconcilerOp) : (s.apply op).Sound := by
  cases op with
  | accept project_id target b => exact sound_accept hs project_id target b
  | begin_pass project_id target head_revision =>
    exact sound_begin_pass hs project_id target head_revision
  | step_pass n evaluated_at => exact sound_step_pass hs n evaluated_at
  | crash n =>
    refine hs.of_same rfl rfl (fun pass hpass => ?_)
    exact hs.passes_contiguous pass (List.mem_of_mem_eraseIdx hpass)
  | arm origin records =>
    refine hs.of_same (inserts_arm s origin records).reconciliation rfl (fun pass hpass => ?_)
    exact hs.passes_contiguous pass hpass

/-- The history a boundary is accepted onto does not change what is consumed. -/
theorem consumed_accept (hs : s.Sound) (project_id : String) (target : GraphTargetRef)
    (b : AcceptedGraphBoundary) (p : String) (t : GraphTargetRef) :
    (s.accept project_id target b).consumed p t = s.consumed p t := by
  unfold Reconciler.accept
  split
  · rename_i hall
    unfold Reconciler.consumed Reconciler.head
    dsimp only
    cases hhead : s.store.reconciliation.get (p, t) with
    | none => rfl
    | some last =>
      dsimp only
      split
      · rename_i heq
        obtain ⟨rfl, rfl⟩ := heq
        obtain ⟨a, ha, hrev, -⟩ := hs.consumed_head p t last hhead
        have hlt : a.revision < b.revision := by
          simpa using List.all_eq_true.mp hall a ha
        have hdrop : ¬ b.revision ≤ last.revision := by omega
        simp [List.filter_append, hdrop]
      · rfl
  · rfl

theorem consumes_next_apply (hs : s.Sound) (op : ReconcilerOp) : ConsumesNext s (s.apply op) := by
  intro p t
  cases op with
  | accept project_id target b => exact .inl (consumed_accept hs project_id target b p t)
  | begin_pass project_id target head_revision =>
    left
    show (s.begin_pass project_id target head_revision).consumed p t = _
    unfold Reconciler.begin_pass
    split
    · exact consumed_of_same rfl rfl p t
    · rfl
  | step_pass n evaluated_at =>
    show (s.step_pass n evaluated_at).consumed p t = s.consumed p t ∨
      ∃ b, (s.step_pass n evaluated_at).consumed p t = s.consumed p t ++ [b]
    rcases step_pass_cases hs n evaluated_at with
      h | ⟨pass, b, rest, done, ahead, hpass, hrem, hsplit, hdone, ⟨hb, h⟩ | ⟨hcons, h⟩⟩
    · exact .inl (by rw [h])
    · rw [h]
      exact .inl (consumed_of_same rfl rfl p t)
    · have hhead : (s.step_pass n evaluated_at).head p t
          = if (p, t) = (pass.project_id, pass.target) then some ⟨b.revision, b.transition_id⟩
            else s.head p t := by
        rw [h]
        exact head_write s.store p t
      have hcw := consumed_write hs hsplit hcons hhead (by rw [h])
      rw [hcw]
      split
      · exact .inr ⟨b, rfl⟩
      · exact .inl rfl
  | crash n => exact .inl (consumed_of_same rfl rfl p t)
  | arm origin records =>
    exact .inl (consumed_of_same (inserts_arm s origin records).reconciliation rfl p t)

/-! ### Verdicts -/

theorem verdict_of_le {w : Watcher} {armed_revision : Nat}
    {boundaries : List AcceptedGraphBoundary} (h : ∀ b ∈ boundaries, b.revision ≤ armed_revision) :
    verdict w armed_revision boundaries = .active := by
  have hnone : boundaries.filter (fun b => armed_revision < b.revision) = [] := by
    refine List.filter_eq_nil_iff.mpr (fun b hb => ?_)
    have := h b hb
    simp only [decide_eq_true_eq]
    omega
  unfold verdict
  rw [hnone]
  rfl

theorem verdict_eq_active_iff {w : Watcher} {armed_revision : Nat}
    {boundaries : List AcceptedGraphBoundary} :
    verdict w armed_revision boundaries = .active ↔
      ∀ b ∈ boundaries, armed_revision < b.revision →
        graph_watcher_boundary_result w b = .active := by
  unfold verdict
  cases hfind : (boundaries.filter (fun b => armed_revision < b.revision)).find?
      (fun b => graph_watcher_boundary_result w b ≠ .active) with
  | none =>
    have hall := List.find?_eq_none.mp hfind
    simp only [true_iff]
    intro b hb hlt
    have := hall b (List.mem_filter.mpr ⟨hb, by simpa using hlt⟩)
    simpa using this
  | some b =>
    have hb := List.find?_some hfind
    have hmem := List.mem_filter.mp (List.mem_of_find?_eq_some hfind)
    simp only [ne_eq, decide_eq_true_eq] at hb
    constructor
    · intro h
      exact absurd h hb
    · intro h
      exact absurd (h b hmem.1 (by simpa using hmem.2)) hb

/-- One more boundary decides only where none before it did. -/
theorem verdict_append (w : Watcher) (armed_revision : Nat)
    (boundaries : List AcceptedGraphBoundary) (b : AcceptedGraphBoundary) :
    verdict w armed_revision (boundaries ++ [b])
      = if verdict w armed_revision boundaries = .active then
          (if armed_revision < b.revision then graph_watcher_boundary_result w b else .active)
        else verdict w armed_revision boundaries := by
  unfold verdict
  rw [List.filter_append, List.find?_append]
  cases hfind : (boundaries.filter (fun b => armed_revision < b.revision)).find?
      (fun b => graph_watcher_boundary_result w b ≠ .active) with
  | none =>
    simp only [Option.none_or, if_true]
    by_cases hlt : armed_revision < b.revision
    · by_cases hres : graph_watcher_boundary_result w b = .active <;> simp [hlt, hres]
    · simp [hlt]
  | some c =>
    have hc := List.find?_some hfind
    simp only [ne_eq, decide_eq_true_eq] at hc
    simp [hc]

/-- A row with a result waits exactly when the result is `active`. -/
theorem waits_with_result {w : Watcher} (hw : w.waits = true) (evaluated_at : Int)
    (r : BoundaryResult) : (w.with_result evaluated_at r).waits = true ↔ r = .active := by
  cases r with
  | active => exact iff_of_true hw rfl
  | completed => simp [Watcher.with_result, Watcher.waits]
  | removed => simp [Watcher.with_result, Watcher.waits]

theorem with_result_armed (w : Watcher) (evaluated_at : Int) (r : BoundaryResult) :
    (w.with_result evaluated_at r).armed_revision = w.armed_revision := by
  cases r <;> rfl

/-! ### The row of a watcher -/

/-- The row of a watcher is what the scan of the consumed boundaries records on it. -/
def Records (s : Reconciler) (id : String) (w : Watcher) (armed_revision : Nat) : Prop :=
  ∃ evaluated_at, s.store.watchers.get? id = some (w.with_result evaluated_at
    (verdict w armed_revision (s.consumed w.project_id w.graph_target)))

theorem records_begin_pass {id : String} {w : Watcher} {armed_revision : Nat}
    (harmed : w.armed_revision = some armed_revision) (h : Records s id w armed_revision)
    (project_id : String) (target : GraphTargetRef) (head_revision : Nat) :
    Records (s.begin_pass project_id target head_revision) id w armed_revision := by
  obtain ⟨evaluated_at, hrow⟩ := h
  have hcons : (s.begin_pass project_id target head_revision).consumed w.project_id w.graph_target
      = s.consumed w.project_id w.graph_target := by
    unfold Reconciler.begin_pass
    split
    · exact consumed_of_same rfl rfl _ _
    · rfl
  refine ⟨evaluated_at, ?_⟩
  rw [hcons]
  unfold Reconciler.begin_pass
  split
  · show (s.store.initialize_target_baselines project_id target head_revision).watchers.get? id = _
    unfold WatcherStore.initialize_target_baselines
    -- the watcher has its baseline
    rw [WatcherStore.get?_update_watchers, hrow, Option.map_some, with_result_armed, harmed]
    simp
  · exact hrow

theorem records_step_pass (hs : s.Sound) {id : String} {w : Watcher} {armed_revision : Nat}
    (hw : w.waits = true) (harmed : w.armed_revision = some armed_revision)
    (h : Records s id w armed_revision) (n : Nat) (at' : Int) :
    Records (s.step_pass n at') id w armed_revision := by
  obtain ⟨evaluated_at, hrow⟩ := h
  rcases step_pass_cases hs n at' with
    h | ⟨pass, b, rest, done, ahead, hpass, hrem, hsplit, hdone, ⟨hb, h⟩ | ⟨hcons, h⟩⟩
  · rw [h]
    exact ⟨evaluated_at, hrow⟩
  · rw [h]
    refine ⟨evaluated_at, ?_⟩
    rw [consumed_of_same rfl rfl]
    exact hrow
  · have hhead : (s.step_pass n at').head w.project_id w.graph_target
        = if (w.project_id, w.graph_target) = (pass.project_id, pass.target) then
            some ⟨b.revision, b.transition_id⟩ else s.head w.project_id w.graph_target := by
      rw [h]
      exact head_write s.store _ _
    have hcw := consumed_write hs hsplit hcons hhead (by rw [h])
    unfold Records
    rw [hcw]
    -- the row after the write: the result of `b` where the row sees it
    have hget : ∀ row, s.store.watchers.get? id = some row →
        (s.step_pass n at').store.watchers.get? id = some (if row.sees pass.project_id
          (b.head pass.target) then
            row.with_result at' (graph_watcher_boundary_result row b) else row) := by
      intro row hr
      rw [h]
      show (s.store.write_boundary _ _ _ _).watchers.get? id = _
      unfold WatcherStore.write_boundary
      dsimp only
      rw [WatcherStore.get?_update_watchers, hr, Option.map_some]
    rw [hget _ hrow]
    by_cases hactive : verdict w armed_revision (s.consumed w.project_id w.graph_target) = .active
    · rw [hactive]
      show ∃ evaluated_at, some (if w.sees _ _ then _ else w) = some _
      by_cases hkey : (w.project_id, w.graph_target) = (pass.project_id, pass.target)
      · rw [if_pos hkey, verdict_append, if_pos hactive]
        obtain ⟨hp, ht⟩ := Prod.mk.inj hkey
        by_cases hlt : armed_revision < b.revision
        · refine ⟨at', ?_⟩
          have hsees : w.sees pass.project_id (b.head pass.target) = true := by
            simp [Watcher.sees, hw, hp, ht, harmed, hlt]
          rw [if_pos hsees, if_pos hlt]
          rfl
        · refine ⟨at', ?_⟩
          have hsees : ¬ w.sees pass.project_id (b.head pass.target) = true := by
            simp [Watcher.sees, harmed, hlt]
          rw [if_neg hsees, if_neg hlt]
          rfl
      · rw [if_neg hkey, hactive]
        refine ⟨at', ?_⟩
        have hsees : ¬ w.sees pass.project_id (b.head pass.target) = true := by
          intro hsee
          simp only [Watcher.sees, Bool.and_eq_true, decide_eq_true_eq] at hsee
          have ht : w.graph_target = pass.target := hsee.1.2
          exact hkey (by rw [hsee.1.1.2, ht])
        rw [if_neg hsees]
        rfl
    · -- a decided row no longer waits, so it sees nothing
      have hsees : ¬ (w.with_result evaluated_at
          (verdict w armed_revision (s.consumed w.project_id w.graph_target))).sees pass.project_id
          (b.head pass.target) = true := by
        intro hsee
        simp only [Watcher.sees, Bool.and_eq_true] at hsee
        exact hactive ((waits_with_result hw _ _).mp hsee.1.1.1)
      rw [if_neg hsees]
      refine ⟨evaluated_at, ?_⟩
      split
      · rw [verdict_append, if_neg hactive]
      · rfl

theorem records_apply (hs : s.Sound) {id : String} {w : Watcher} {armed_revision : Nat}
    (hw : w.waits = true) (harmed : w.armed_revision = some armed_revision)
    (h : Records s id w armed_revision) (op : ReconcilerOp) :
    Records (s.apply op) id w armed_revision := by
  cases op with
  | accept project_id target b =>
    obtain ⟨evaluated_at, hrow⟩ := h
    refine ⟨evaluated_at, ?_⟩
    show (s.accept project_id target b).store.watchers.get? id = _
    have hstore : (s.accept project_id target b).store = s.store := by
      unfold Reconciler.accept
      split <;> rfl
    rw [hstore, hrow]
    show _ = some (w.with_result evaluated_at (verdict w armed_revision
      ((s.accept project_id target b).consumed w.project_id w.graph_target)))
    rw [consumed_accept hs]
  | begin_pass project_id target head_revision =>
    exact records_begin_pass harmed h project_id target head_revision
  | step_pass n evaluated_at => exact records_step_pass hs hw harmed h n evaluated_at
  | crash n => exact h
  | arm origin records =>
    obtain ⟨evaluated_at, hrow⟩ := h
    have hins := inserts_arm s origin records
    refine ⟨evaluated_at, ?_⟩
    rw [consumed_of_same hins.reconciliation rfl]
    exact hins.kept _ _ hrow

end

/-! ### Whole runs -/

/-- Nothing accepted, nothing armed. -/
def Reconciler.initial : Reconciler := ⟨{}, fun _ _ => [], []⟩

theorem Reconciler.initial_sound : Reconciler.initial.Sound where
  increasing _ _ := List.Pairwise.nil
  consumed_head p t last h := by
    cases h
  passes_contiguous pass h := by
    cases h

/-- The system after the first `k` operations. -/
def reconciler_state (ops : List ReconcilerOp) (k : Nat) : Reconciler :=
  Lib.run Reconciler.apply Reconciler.initial (ops.take k)

theorem sound_run {s : Reconciler} (hs : s.Sound) (ops : List ReconcilerOp) :
    (Lib.run Reconciler.apply s ops).Sound := by
  induction ops generalizing s with
  | nil => exact hs
  | cons op ops ih => exact ih (sound_apply hs op)

theorem records_run {s : Reconciler} (hs : s.Sound) {id : String} {w : Watcher}
    {armed_revision : Nat} (hw : w.waits = true)
    (harmed : w.armed_revision = some armed_revision) (h : Records s id w armed_revision)
    (ops : List ReconcilerOp) : Records (Lib.run Reconciler.apply s ops) id w armed_revision := by
  induction ops generalizing s with
  | nil => exact h
  | cons op ops ih => exact ih (sound_apply hs op) (records_apply hs hw harmed h op)

/-- Over every schedule of passes, crashes and armings: what is consumed of a target is the
    beginning of its history and grows by the next boundary only; and the row of a graph watcher
    that was armed at a revision is, in every later state, what the first consumed boundary after
    that revision with a result records, and still active when there is none. -/
theorem graph_watcher_verdict_is_scan (ops : List ReconcilerOp) :
    (∀ k p t, ∃ ahead, (reconciler_state ops k).history p t
      = (reconciler_state ops k).consumed p t ++ ahead) ∧
    (∀ k p t, (reconciler_state ops (k + 1)).consumed p t = (reconciler_state ops k).consumed p t ∨
      ∃ b, (reconciler_state ops (k + 1)).consumed p t
        = (reconciler_state ops k).consumed p t ++ [b]) ∧
    ∀ i j origin records id w armed_revision, ops[i]? = some (.arm origin records) →
      (reconciler_state ops i).store.watchers.get? id = none →
      (reconciler_state ops (i + 1)).store.watchers.get? id = some w →
      w.waits = true → w.armed_revision = some armed_revision → i < j →
      ∃ row, (reconciler_state ops j).store.watchers.get? id = some row ∧
        (∃ evaluated_at, row = w.with_result evaluated_at (verdict w armed_revision
          ((reconciler_state ops j).consumed w.project_id w.graph_target))) ∧
        (row.waits = true ↔
          ∀ b ∈ (reconciler_state ops j).consumed w.project_id w.graph_target,
            armed_revision < b.revision → graph_watcher_boundary_result w b = .active) := by
  have hsound : ∀ k, (reconciler_state ops k).Sound :=
    fun k => sound_run Reconciler.initial_sound _
  refine ⟨fun k p t => (hsound k).consumed_append p t, ?_, ?_⟩
  · intro k p t
    cases hop : ops[k]? with
    | none =>
      left
      have hk : ops.length ≤ k := List.getElem?_eq_none_iff.mp hop
      unfold reconciler_state
      rw [List.take_of_length_le hk, List.take_of_length_le (by omega)]
    | some op =>
      have hnext : reconciler_state ops (k + 1) = (reconciler_state ops k).apply op :=
        run_take_succ hop
      rw [hnext]
      exact consumes_next_apply (hsound k) op p t
  · intro i j origin records id w armed_revision hop hnew hstored hw harmed hij
    have hnext : reconciler_state ops (i + 1)
        = (reconciler_state ops i).apply (.arm origin records) :=
      run_take_succ hop
    have hins := inserts_arm (reconciler_state ops i) origin records
    rw [← hnext] at hins
    -- the watcher is new, so it did not arm behind what was consumed
    have hbehind : (reconciler_state ops (i + 1)).store.arms_behind w = false := by
      rw [arms_behind_congr hins.reconciliation]
      rcases hins.ahead id w hstored with hold | hb
      · rw [hnew] at hold
        cases hold
      · exact hb
    have hstart : Records (reconciler_state ops (i + 1)) id w armed_revision := by
      refine ⟨0, ?_⟩
      rw [verdict_of_le (armed_ahead hbehind hw harmed)]
      exact hstored
    have hlater : Records (reconciler_state ops j) id w armed_revision := by
      have hrun := records_run (hsound (i + 1)) hw harmed hstart
        ((ops.drop (i + 1)).take (j - (i + 1)))
      unfold reconciler_state at hrun ⊢
      rw [run_take_of_le (show i + 1 ≤ j from hij)]
      exact hrun
    obtain ⟨evaluated_at, hrow⟩ := hlater
    refine ⟨_, hrow, ⟨evaluated_at, rfl⟩, ?_⟩
    rw [waits_with_result hw, verdict_eq_active_iff]

/-- The question `rq` with a status. -/
def watched_question (status : QuestionStatus) : Node :=
  { id := "rq", title := "rq", body := .research_question { question := "Why?", status := status } }

/-- A boundary at which the question has a status. -/
def question_boundary (revision : Nat) (status : QuestionStatus) : AcceptedGraphBoundary where
  revision := revision
  transition_id := none
  state := { revision := revision, nodes := Table.empty.put (watched_question status) }
  lifecycle_events := []

/-- A watcher of the answer, armed at the first boundary. -/
def answer_watcher : Watcher :=
  { watcher_id := "w", project_id := "p", origin_operation_id := "op",
    origin_task_kind := .node_chat, chat_id := "chat",
    condition := some (.node_status "rq" ["answered"]), armed_revision := some 1 }

/-- The answer comes at the third boundary; the first pass crashes in front of it, and the second
    one begins over. -/
def answer_run : List ReconcilerOp :=
  [.accept "p" .main (question_boundary 1 .open),
   .arm (fun _ => none) [answer_watcher],
   .accept "p" .main (question_boundary 2 .open),
   .accept "p" .main (question_boundary 3 .answered),
   .begin_pass "p" .main 3, .step_pass 0 10, .step_pass 0 11, .crash 0,
   .begin_pass "p" .main 3, .step_pass 0 12, .step_pass 0 13]

/-- The crash leaves the watcher waiting, and the second pass completes it. -/
theorem answer_completes_watcher :
    ((reconciler_state answer_run 8).store.watchers.get? "w").map Watcher.waits = some true ∧
      ∃ row, (reconciler_state answer_run 11).store.watchers.get? "w" = some row ∧
        row.status = .completed := by
  obtain ⟨-, -, hscan⟩ := graph_watcher_verdict_is_scan answer_run
  obtain ⟨row, hrow, ⟨evaluated_at, hresult⟩, -⟩ := hscan 1 11 (fun _ => none) [answer_watcher] "w"
    answer_watcher 1 rfl (by decide) (by decide) rfl rfl (by decide)
  have hverdict : verdict answer_watcher 1 ((reconciler_state answer_run 11).consumed "p" .main)
      = .completed := by
    decide
  refine ⟨by decide, row, hrow, ?_⟩
  rw [hresult, show answer_watcher.project_id = "p" from rfl,
    show answer_watcher.graph_target = .main from rfl, hverdict]
  rfl

end ResearchGraph
