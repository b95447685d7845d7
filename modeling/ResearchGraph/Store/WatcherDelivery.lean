import ResearchGraph.Store.Watchers

/-! # Exactly-once delivery

    What a row may become under any operation is one relation, `Evolves`. Every
    statement that writes watchers keeps it, so it holds between any two states
    of a run; that a watcher is claimed at most once, and never after a stop,
    is read off from it.
-/

namespace ResearchGraph

open Lib

/-! ### How a row evolves -/

/-- No check may move the row any more: it is completed, stopped, or degraded and delivered. -/
def Watcher.settled (w : Watcher) : Prop :=
  w.status = .completed ∨ w.status = .stopped ∨ (w.status = .degraded ∧ w.notified = true)

/-- What a later state of a watcher keeps of an earlier one. -/
structure Evolves (w w' : Watcher) : Prop where
  /-- A notified watcher stays notified, for the operation that claimed it. -/
  notified : w.notified = true →
    w'.notified = true ∧ w'.notification_operation_id = w.notification_operation_id
  /-- A stopped watcher stays stopped. -/
  stopped : w.status = .stopped → w'.status = .stopped
  /-- A settled watcher stays settled, and so never waits again. -/
  settled : w.settled → w'.settled
  /-- A graph watcher that left `active` never returns to it. -/
  graph : w.is_graph = true → w.status ≠ .active → w'.status ≠ .active
  is_graph : w'.is_graph = w.is_graph

theorem Evolves.refl (w : Watcher) : Evolves w w :=
  ⟨fun h => ⟨h, rfl⟩, id, id, fun _ => id, rfl⟩

theorem Evolves.trans {a b c : Watcher} (hab : Evolves a b) (hbc : Evolves b c) : Evolves a c where
  notified h := by
    obtain ⟨hb, hop⟩ := hab.notified h
    obtain ⟨hc, hop'⟩ := hbc.notified hb
    exact ⟨hc, hop'.trans hop⟩
  stopped h := hbc.stopped (hab.stopped h)
  settled h := hbc.settled (hab.settled h)
  graph hg ha := by
    refine hbc.graph ?_ (hab.graph hg ha)
    rw [hab.is_graph]
    exact hg
  is_graph := hbc.is_graph.trans hab.is_graph

/-- A row that is stopped and notified, with what it was claimed by kept, evolves from any row. -/
theorem Evolves.of_stop {w w' : Watcher} (hstatus : w'.status = .stopped)
    (hnotified : w'.notified = true)
    (hop : w'.notification_operation_id = w.notification_operation_id)
    (hgraph : w'.is_graph = w.is_graph) : Evolves w w' where
  notified _ := ⟨hnotified, hop⟩
  stopped _ := hstatus
  settled _ := .inr (.inl hstatus)
  graph _ _ := by simp [hstatus]
  is_graph := hgraph

theorem Evolves.check {w : Watcher} {status : WatcherStatus} {count : Nat} {at' : Option Int}
    (hlive : w.status = .active ∨ w.status = .degraded) (hn : w.notified = false)
    (hg : w.is_graph = false) :
    Evolves w { w with
      status := status, consecutive_error_count := count, completed_at := at' } where
  notified h := by simp [hn] at h
  stopped h := by rcases hlive with hl | hl <;> simp [hl] at h
  settled h := by
    rcases h with h | h | ⟨-, h⟩
    · rcases hlive with hl | hl <;> simp [hl] at h
    · rcases hlive with hl | hl <;> simp [hl] at h
    · simp [hn] at h
  graph h := by simp [hg] at h
  is_graph := rfl

theorem Evolves.with_result {w : Watcher} (hw : w.waits = true) (evaluated_at : Int)
    (result : BoundaryResult) : Evolves w (w.with_result evaluated_at result) := by
  obtain ⟨⟨-, hactive⟩, hn⟩ : (w.is_graph = true ∧ w.status = .active) ∧ w.notified = false := by
    simpa [Watcher.waits] using hw
  cases result with
  | active => exact Evolves.refl w
  | completed =>
    exact ⟨fun h => by simp [hn] at h, fun h => by simp [hactive] at h, fun _ => .inl rfl,
      fun _ _ => by simp [Watcher.with_result], rfl⟩
  | removed => exact Evolves.of_stop rfl rfl rfl rfl

theorem Evolves.claim {w : Watcher} (hc : w.claimable = true) (operation_id : String) :
    Evolves w { w with notified := true, notification_operation_id := some operation_id } := by
  obtain ⟨hstatus, hn⟩ : (w.status = .completed ∨ w.status = .degraded) ∧ w.notified = false := by
    simpa [Watcher.claimable] using hc
  refine ⟨fun h => by simp [hn] at h, id, fun _ => ?_, fun _ => id, rfl⟩
  rcases hstatus with h | h
  · exact .inl h
  · exact .inr (.inr ⟨h, rfl⟩)

/-! ### How the store evolves -/

/-- Every stored watcher is still stored, and evolved. -/
def Follows (s s' : WatcherStore) : Prop :=
  ∀ id w, s.watchers.get? id = some w → ∃ w', s'.watchers.get? id = some w' ∧ Evolves w w'

theorem Follows.refl (s : WatcherStore) : Follows s s := fun _ w h => ⟨w, h, Evolves.refl w⟩

theorem Follows.trans {a b c : WatcherStore} (hab : Follows a b) (hbc : Follows b c) :
    Follows a c := by
  intro id w hw
  obtain ⟨w', hw', he⟩ := hab id w hw
  obtain ⟨w'', hw'', he'⟩ := hbc id w' hw'
  exact ⟨w'', hw'', he.trans he'⟩

section
variable {s s' : WatcherStore}

/-- A guarded statement is followed when it evolves the rows its guard lets through. -/
theorem Follows.update {p : Watcher → Bool} {set : Watcher → Watcher}
    (hset : ∀ w, (set w).watcher_id = w.watcher_id)
    (h : ∀ w, p w = true → Evolves w (set w)) : Follows s (s.update_watchers p set hset) := by
  intro id w hw
  refine ⟨if p w then set w else w, ?_, ?_⟩
  · rw [WatcherStore.get?_update_watchers, hw]
    rfl
  · split
    · rename_i hp
      exact h w hp
    · exact Evolves.refl w

theorem Follows.insert_row {w : Watcher} (h : s.insert_row w = some s') : Follows s s' := by
  unfold WatcherStore.insert_row at h
  split at h
  · cases h
  · rename_i hnew
    obtain rfl := Option.some.inj h
    intro id v hv
    refine ⟨v, ?_, Evolves.refl v⟩
    show (s.watchers.put w).get? id = some v
    rw [Table.get?_put]
    split
    · -- the id is the new watcher's, which the primary key says is not stored
      rename_i hid
      exact absurd (Table.contains_iff.mpr ⟨v, by rw [← hv, hid]; rfl⟩) hnew
    · exact hv

theorem Follows.insert_watcher {origin : String → Option WatcherOrigin} {w : Watcher}
    (h : s.insert_watcher origin w = some s') : Follows s s' := by
  unfold WatcherStore.insert_watcher at h
  split at h
  · split at h
    · cases h
    · split at h
      · cases h
      · exact Follows.insert_row h
  · split at h
    · cases h
    · dsimp only at h
      split at h <;> split at h
      · cases h
      · exact Follows.insert_row h
      · cases h
      · exact Follows.insert_row h

theorem Follows.foldlM {α : Type} {step : WatcherStore → α → Option WatcherStore}
    (hstep : ∀ s a s', step s a = some s' → Follows s s') {xs : List α}
    (h : xs.foldlM step s = some s') : Follows s s' := by
  induction xs generalizing s with
  | nil =>
    obtain rfl : s = s' := Option.some.inj h
    exact Follows.refl s
  | cons x xs ih =>
    rw [List.foldlM_cons] at h
    obtain ⟨mid, hmid, hrest⟩ := Option.bind_eq_some_iff.mp h
    exact (hstep s x mid hmid).trans (ih hrest)

theorem Follows.create {origin : String → Option WatcherOrigin} {records : List Watcher}
    (h : s.create_watchers origin records = some s') : Follows s s' := by
  unfold WatcherStore.create_watchers at h
  split at h
  · exact Follows.foldlM (fun _ _ _ hstep => Follows.insert_watcher hstep) h
  · cases h

theorem Follows.stop_for_loop (s : WatcherStore) (ids : List String) :
    Follows s (s.stop_for_loop ids) :=
  Follows.update (by intro w; rfl) (fun _ _ => Evolves.of_stop rfl rfl rfl rfl)

theorem Follows.agent_stops {b : WatcherHandoff} {stops : List WatcherStopRequest}
    (h : s.apply_agent_watcher_stops b stops = some s') : Follows s s' := by
  unfold WatcherStore.apply_agent_watcher_stops at h
  split at h
  · obtain rfl := Option.some.inj h
    clear h
    rename_i hvalid
    clear hvalid
    induction stops generalizing s with
    | nil => exact Follows.refl s
    | cons stop stops ih =>
      refine Follows.trans (Follows.update (by intro w; rfl) (fun w hp => ?_)) ih
      -- the guard asks that no operation has claimed the row
      exact Evolves.of_stop rfl rfl rfl rfl
  · cases h

theorem Follows.persist_one {b : WatcherHandoff} {origin : String → Option WatcherOrigin}
    {w : Watcher} (h : s.persist_one b origin w = some s') : Follows s s' := by
  unfold WatcherStore.persist_one at h
  split at h
  · split at h
    · cases h
    · split at h
      · obtain rfl := Option.some.inj h
        exact Follows.stop_for_loop s _
      · obtain rfl := Option.some.inj h
        exact Follows.refl s
  · exact Follows.insert_watcher h

theorem Follows.persist {b : WatcherHandoff} {origin : String → Option WatcherOrigin}
    {records : List Watcher} {stops : List WatcherStopRequest}
    (h : s.persist_experiment_watchers b origin records stops = some s') : Follows s s' := by
  unfold WatcherStore.persist_experiment_watchers at h
  split at h
  · cases h
  · obtain ⟨mid, hmid, hrest⟩ := Option.bind_eq_some_iff.mp h
    refine (Follows.agent_stops hmid).trans ?_
    exact Follows.foldlM (fun _ _ _ hstep => Follows.persist_one hstep) hrest

theorem Follows.consume {project_id : String} {head : GraphHeadRef}
    {evaluate : Watcher → BoundaryResult} {evaluated_at : Int}
    (h : s.consume_graph_watcher_boundary project_id head evaluate evaluated_at = some s') :
    Follows s s' := by
  have hwrite : Follows s (s.write_boundary project_id head evaluate evaluated_at) := by
    refine @Follows.update s _ _ (fun w => w.with_result_watcher_id _ _)
      (fun w hp => Evolves.with_result ?_ _ _)
    simp only [Watcher.sees, Bool.and_eq_true] at hp
    exact hp.1.1.1
  unfold WatcherStore.consume_graph_watcher_boundary at h
  split at h
  · obtain rfl := Option.some.inj h
    exact hwrite
  · split at h
    · obtain rfl := Option.some.inj h
      exact Follows.refl s
    · split at h
      · split at h
        · cases h
        · obtain rfl := Option.some.inj h
          exact Follows.refl s
      · obtain rfl := Option.some.inj h
        exact hwrite

/-- An operation that may be refused is followed when its accepted outcome is. -/
theorem Follows.getD {o : Option WatcherStore} (h : ∀ s', o = some s' → Follows s s') :
    Follows s (o.getD s) := by
  cases o with
  | none => exact Follows.refl s
  | some s' => exact h s' rfl

theorem Follows.apply (s : WatcherStore) (op : WatcherOp) : Follows s (s.apply op) := by
  -- each call lets the watchers it chooses evolve, and leaves the others alone
  cases op with
  | create origin records => exact Follows.getD (fun _ h => Follows.create h)
  | persist binding origin records stops => exact Follows.getD (fun _ h => Follows.persist h)
  | check watcher_id status checked_at =>
    refine Follows.update (by intro w; rfl) (fun w hp => ?_)
    simp only [Bool.and_eq_true, Bool.or_eq_true, decide_eq_true_eq, Bool.not_eq_true'] at hp
    exact Evolves.check hp.1.2 hp.2 hp.1.1.2
  | graph_result watcher_id result evaluated_at =>
    refine Follows.update (fun w => w.with_result_watcher_id _ _)
      (fun w hp => Evolves.with_result ?_ _ _)
    exact (Bool.and_eq_true_iff.mp hp).2
  | arm_baselines project_id target armed_revision =>
    exact Follows.update (by intro w; rfl)
      (fun w _ => ⟨fun h => ⟨h, rfl⟩, id, id, fun _ => id, rfl⟩)
  | consume_boundary project_id head evaluate evaluated_at =>
    exact Follows.getD (fun _ h => Follows.consume h)
  | human_stop project_id ids =>
    refine Follows.getD (fun s' h => ?_)
    unfold WatcherStore.stop_watchers at h
    dsimp only at h
    repeat' split at h
    · cases h
    · cases h
    · cases h
    · obtain rfl := Option.some.inj h
      exact Follows.update (by intro w; rfl) (fun _ _ => Evolves.of_stop rfl rfl rfl rfl)
  | loop_stop ids => exact Follows.stop_for_loop s ids
  | settle_experiment episode_id =>
    exact Follows.update (by intro w; rfl) (fun _ _ => Evolves.of_stop rfl rfl rfl rfl)
  | settle_auto_research episode_id reason =>
    exact Follows.update (by intro w; rfl) (fun _ _ => Evolves.of_stop rfl rfl rfl rfl)
  | claim c =>
    refine Follows.getD (fun s' h => ?_)
    unfold WatcherStore.claim_watchers at h
    split at h
    · obtain rfl := Option.some.inj h
      exact Follows.update (by intro w; rfl)
        (fun w hp => Evolves.claim (Bool.and_eq_true_iff.mp hp).2 _)
    · cases h
  | terminate ids diagnostic =>
    refine Follows.getD (fun s' h => ?_)
    unfold WatcherStore.terminate_unauthorized at h
    dsimp only at h
    split at h
    · obtain rfl := Option.some.inj h
      exact Follows.update (by intro w; rfl) (fun _ _ => Evolves.of_stop rfl rfl rfl rfl)
    · cases h

/-! ### Claims -/

/-- The claimable rows a claim names. -/
def WatcherStore.claim_rows (s : WatcherStore) (c : WatcherClaim) : List Watcher :=
  s.watchers.items.filter (fun w => c.watcher_ids.contains w.watcher_id && w.claimable)

/-- Every id of a valid claim is the id of a claimable row. -/
theorem claimable_of_valid {c : WatcherClaim} (h : s.claim_valid c = true) {id : String}
    (hid : id ∈ c.watcher_ids) : ∃ w, s.watchers.get? id = some w ∧ w.claimable = true := by
  unfold WatcherStore.claim_valid at h
  dsimp only at h
  simp only [Bool.and_eq_true] at h
  have hall := List.all_eq_true.mp h.1.1.1.1.2 id hid
  obtain ⟨w, hw, hwid⟩ := List.any_eq_true.mp hall
  obtain ⟨hmem, hc⟩ := List.mem_filter.mp hw
  have hkey : w.watcher_id = id := by simpa using hwid
  refine ⟨w, Table.get?_eq_some_iff.mpr ⟨hmem, hkey⟩, ?_⟩
  exact (Bool.and_eq_true_iff.mp hc).2

theorem claimable_of_claimed {op : WatcherOp} {id : String} (h : id ∈ s.claimed_by op) :
    ∃ w, s.watchers.get? id = some w ∧ w.claimable = true := by
  cases op with
  | claim c =>
    unfold WatcherStore.claimed_by at h
    dsimp only at h
    split at h
    · rename_i hc
      exact claimable_of_valid (Bool.and_eq_true_iff.mp hc).1 h
    · cases h
  | _ => simp [WatcherStore.claimed_by] at h

/-- A claim leaves every watcher it claims notified for its operation. -/
theorem notified_of_claimed {c : WatcherClaim} {id : String} (h : id ∈ s.claimed_by (.claim c)) :
    ∃ w, (s.apply (.claim c)).watchers.get? id = some w ∧ w.notified = true ∧
      w.notification_operation_id = some c.operation_id := by
  obtain ⟨w, hw, hclaim⟩ := claimable_of_claimed h
  unfold WatcherStore.claimed_by at h
  dsimp only at h
  split at h
  · rename_i hc
    refine ⟨{ w with notified := true, notification_operation_id := some c.operation_id }, ?_,
      rfl, rfl⟩
    have hid : w.watcher_id = id := Table.key_of_get? hw
    have hp : (c.watcher_ids.contains w.watcher_id && w.claimable) = true := by
      simp [hid, h, hclaim]
    show ((s.claim_watchers c).getD s).watchers.get? id = _
    unfold WatcherStore.claim_watchers
    rw [if_pos hc, Option.getD_some, WatcherStore.get?_update_watchers, hw, Option.map_some,
      if_pos hp]
  · cases h

/-- A claim takes every watcher it names, or is refused and leaves the store as it was. -/
theorem claim_all_or_none (s : WatcherStore) (c : WatcherClaim) :
    s.claimed_by (.claim c) = c.watcher_ids ∨
      (s.claimed_by (.claim c) = [] ∧ s.apply (.claim c) = s) := by
  unfold WatcherStore.claimed_by WatcherStore.apply WatcherStore.claim_watchers
  dsimp only
  split
  · exact .inl rfl
  · exact .inr ⟨rfl, rfl⟩

/-! ### Groups -/

/-- The ready members of a group are all its members that no agent has retired. -/
theorem mem_ready_group_members {members ready : List Watcher}
    (h : ready_group_members members = some ready) (w : Watcher) :
    w ∈ ready ↔ w ∈ members ∧ w.agent_retired = false := by
  unfold ready_group_members at h
  dsimp only at h
  repeat' split at h
  all_goals first
    | cases h; done
    | (obtain rfl := Option.some.inj h
       simp)

/-- The units `completed_watcher_groups` joins are the ready ones. -/
theorem mem_foldl_add_unit {units groups : List (List Watcher)} {group : List Watcher}
    {w : Watcher} (h : group ∈ units.foldl add_unit groups) (hw : w ∈ group) :
    (∃ g ∈ groups, w ∈ g) ∨ ∃ unit ∈ units, w ∈ unit := by
  induction units generalizing groups with
  | nil => exact .inl ⟨group, h, hw⟩
  | cons unit units ih =>
    rcases ih h with ⟨g, hg, hwg⟩ | ⟨u, hu, hwu⟩
    · cases unit with
      | nil => exact .inl ⟨g, hg, hwg⟩
      | cons first rest =>
        unfold add_unit at hg
        dsimp only at hg
        split at hg
        · -- the unit was appended to the groups with its key
          obtain ⟨g', hg', rfl⟩ := List.mem_map.mp hg
          split at hwg
          · rcases List.mem_append.mp hwg with hwg | hwg
            · exact .inl ⟨g', hg', hwg⟩
            · exact .inr ⟨_, List.mem_cons_self, hwg⟩
          · exact .inl ⟨g', hg', hwg⟩
        · rcases List.mem_append.mp hg with hg | hg
          · exact .inl ⟨g, hg, hwg⟩
          · rw [List.mem_singleton.mp hg] at hwg
            exact .inr ⟨_, List.mem_cons_self, hwg⟩
    · exact .inr ⟨u, List.mem_cons_of_mem _ hu, hwu⟩

/-- A grouped watcher that `completed_watcher_groups` returns is a member of its group that no
    agent has retired. -/
theorem mem_group_of_returned {suppressed : Watcher → Bool} {group : List Watcher} {w : Watcher}
    {group_id : String} (h : group ∈ s.completed_watcher_groups suppressed) (hw : w ∈ group)
    (hg : w.group_id = some group_id) : w ∈ s.group_rows group_id ∧ w.agent_retired = false := by
  rcases mem_foldl_add_unit h hw with ⟨g, hg', -⟩ | ⟨unit, hunit, hwu⟩
  · cases hg'
  · unfold WatcherStore.ready_watcher_delivery_units at hunit
    rcases List.mem_append.mp hunit with hunit | hunit
    · -- a unit of one ungrouped watcher
      obtain ⟨v, hv, rfl⟩ := List.mem_map.mp hunit
      obtain rfl : w = v := by simpa using hwu
      have hnone := List.mem_filter.mp ((List.mem_insertionSort _).mp (List.mem_of_mem_filter hv))
      simp [hg] at hnone
    · obtain ⟨group_id', -, hready⟩ := List.mem_filterMap.mp hunit
      split at hready
      · cases hready
      · cases hready
      · rename_i first rest hmembers
        split at hready
        · cases hready
        · obtain rfl := Option.some.inj hready
          obtain ⟨hmem, hret⟩ := (mem_ready_group_members hmembers w).mp hwu
          have hrow := (List.mem_insertionSort _).mp hmem
          have hsame : w.group_id = some group_id' := by
            simpa using (List.mem_filter.mp hrow).2
          obtain rfl : group_id' = group_id := by
            rw [hg] at hsame
            exact (Option.some.inj hsame).symm
          exact ⟨hrow, hret⟩

/-- A claim that takes one member of a group takes every member that
    `completed_watcher_groups` returns for it. -/
theorem claim_takes_group {c : WatcherClaim} {id group_id : String} {w : Watcher}
    (h : id ∈ s.claimed_by (.claim c)) (hw : s.watchers.get? id = some w)
    (hgroup : w.group_id = some group_id) {suppressed : Watcher → Bool} {group : List Watcher}
    (hret : group ∈ s.completed_watcher_groups suppressed) {m : Watcher} (hm : m ∈ group)
    (hmg : m.group_id = some group_id) : m.watcher_id ∈ s.claimed_by (.claim c) := by
  obtain ⟨hrow, hnot⟩ := mem_group_of_returned hret hm hmg
  obtain ⟨w', hw', hclaim⟩ := claimable_of_claimed h
  obtain rfl : w = w' := Option.some.inj (hw.symm.trans hw')
  unfold WatcherStore.claimed_by at h ⊢
  dsimp only at h ⊢
  split at h
  · rename_i hc
    rw [if_pos hc]
    have hvalid := (Bool.and_eq_true_iff.mp hc).1
    unfold WatcherStore.claim_valid at hvalid
    dsimp only at hvalid
    simp only [Bool.and_eq_true] at hvalid
    have hmembers := hvalid.1.1.1.2
    -- the claimed row was checked against the whole of its group
    have hwrow : w ∈ s.claim_rows c := by
      refine List.mem_filter.mpr ⟨(Table.get?_eq_some_iff.mp hw).1, ?_⟩
      have hid : w.watcher_id = id := Table.key_of_get? hw
      simp [hid, h, hclaim]
    have hcheck := List.all_eq_true.mp hmembers w hwrow
    rw [hgroup] at hcheck
    dsimp only at hcheck
    split at hcheck
    · cases hcheck
    · rename_i ready hready
      have hmready : m ∈ ready := (mem_ready_group_members hready m).mpr ⟨hrow, hnot⟩
      obtain ⟨v, hv, hvid⟩ := List.any_eq_true.mp (List.all_eq_true.mp hcheck m hmready)
      have hin := (Bool.and_eq_true_iff.mp (List.mem_filter.mp hv).2).1
      have hvid : v.watcher_id = m.watcher_id := by simpa using hvid
      rw [← hvid]
      simpa using hin
  · cases h

end

/-! ### Whole runs -/

/-- The store after the first `k` operations of a run. -/
def watcher_state (s : WatcherStore) (ops : List WatcherOp) (k : Nat) : WatcherStore :=
  Lib.run WatcherStore.apply s (ops.take k)

theorem watcher_state_follows (s : WatcherStore) (ops : List WatcherOp) {i j : Nat} (h : i ≤ j) :
    Follows (watcher_state s ops i) (watcher_state s ops j) := by
  unfold watcher_state
  rw [run_take_of_le h]
  exact related_run Follows.refl Follows.trans Follows.apply

/-- A watcher that is stopped or notified is claimed by no later operation. -/
theorem not_claimed_later {s : WatcherStore} {ops : List WatcherOp} {i j : Nat} (h : i ≤ j)
    {id : String} {w : Watcher} (hw : (watcher_state s ops i).watchers.get? id = some w)
    (hdone : w.status = .stopped ∨ w.notified = true) (op : WatcherOp) :
    id ∉ (watcher_state s ops j).claimed_by op := by
  intro hclaim
  obtain ⟨v, hv, hc⟩ := claimable_of_claimed hclaim
  obtain ⟨w', hw', he⟩ := watcher_state_follows s ops h id w hw
  obtain rfl : w' = v := Option.some.inj (hw'.symm.trans hv)
  simp only [Watcher.claimable, Bool.and_eq_true, Bool.or_eq_true, decide_eq_true_eq,
    Bool.not_eq_true'] at hc
  rcases hdone with hstop | hnot
  · have := he.stopped hstop
    simp [this] at hc
  · have := (he.notified hnot).1
    simp [this] at hc

/-- Over any interleaving, a watcher is claimed by at most one operation; between any two states
    it evolves, so that what is notified stays notified for the operation that claimed it, what
    is stopped stays stopped and what is settled never waits again; a stopped watcher is never
    claimed; and a claim takes all it names, with every returned member of a group it touches,
    or nothing. -/
theorem watcher_delivered_once (s : WatcherStore) (ops : List WatcherOp) :
    (∀ i j a b id, i < j → ops[i]? = some a → ops[j]? = some b →
      id ∈ (watcher_state s ops i).claimed_by a → id ∉ (watcher_state s ops j).claimed_by b) ∧
    (∀ i j id w, i ≤ j → (watcher_state s ops i).watchers.get? id = some w →
      ∃ w', (watcher_state s ops j).watchers.get? id = some w' ∧ Evolves w w') ∧
    (∀ i j id w op, i ≤ j → (watcher_state s ops i).watchers.get? id = some w →
      w.status = .stopped → id ∉ (watcher_state s ops j).claimed_by op) ∧
    (∀ i c, ops[i]? = some (.claim c) →
      ((watcher_state s ops i).claimed_by (.claim c) = [] ∧
        watcher_state s ops (i + 1) = watcher_state s ops i) ∨
      ((watcher_state s ops i).claimed_by (.claim c) = c.watcher_ids ∧
        (∀ id ∈ c.watcher_ids, ∃ w, (watcher_state s ops (i + 1)).watchers.get? id = some w ∧
          w.notified = true ∧ w.notification_operation_id = some c.operation_id) ∧
        ∀ id ∈ c.watcher_ids, ∀ w, (watcher_state s ops i).watchers.get? id = some w →
          ∀ suppressed, ∀ group ∈ (watcher_state s ops i).completed_watcher_groups suppressed,
            ∀ m ∈ group, m.group_id = w.group_id → w.group_id.isSome = true →
              m.watcher_id ∈ c.watcher_ids)) := by
  have hnext : ∀ i op, ops[i]? = some op →
      watcher_state s ops (i + 1) = (watcher_state s ops i).apply op :=
    fun i op h => run_take_succ h
  refine ⟨?_, ?_, ?_, ?_⟩
  · intro i j a b id hij ha hb hclaim
    -- one step after the first claim the row is notified, and it stays so
    cases a with
    | claim c =>
      obtain ⟨w, hw, hn, -⟩ := notified_of_claimed hclaim
      rw [← hnext i _ ha] at hw
      exact not_claimed_later hij hw (.inr hn) b
    | _ => simp [WatcherStore.claimed_by] at hclaim
  · intro i j id w hij hw
    exact watcher_state_follows s ops hij id w hw
  · intro i j id w op hij hw hstop
    exact not_claimed_later hij hw (.inl hstop) op
  · intro i c hc
    rw [hnext i _ hc]
    rcases claim_all_or_none (watcher_state s ops i) c with hall | hnone
    · refine .inr ⟨hall, ?_, ?_⟩
      · intro id hid
        rw [← hall] at hid
        exact notified_of_claimed hid
      · intro id hid w hw suppressed group hgroup m hm hsame hsome
        obtain ⟨group_id, hg⟩ := Option.isSome_iff_exists.mp hsome
        rw [← hall] at hid ⊢
        exact claim_takes_group hid hw hg hgroup hm (hsame.trans hg)
    · exact .inl hnone

/-- A member of a group of an Experiment loop. -/
def group_member (watcher_id : String) : Watcher :=
  { watcher_id, project_id := "p", origin_operation_id := "op", origin_task_kind := .node_chat,
    chat_id := "chat", node_id := some "n", episode_id := some "e", experiment_loop := true,
    control_episode_id := some "e", group_id := some "g", group_label := some "runs" }

/-- The invocation that a group wakes. -/
def group_claim (operation_id : String) (watcher_ids : List String) : WatcherClaim :=
  { operation_id, project_id := "p", watcher_ids, experiment := true, admitted := true }

/-- A group is armed and completes, one invocation claims a part of it, one the whole of it, and
    one comes late. -/
def group_run : List WatcherOp :=
  [.create (fun _ => none) [group_member "a", group_member "b"],
   .check "a" .completed 1, .check "b" .completed 2,
   .claim (group_claim "part" ["a"]), .claim (group_claim "whole" ["a", "b"]),
   .claim (group_claim "late" ["a", "b"])]

/-- The group is returned, and delivered to the claim that takes it whole. -/
theorem group_delivered_once :
    ((watcher_state {} group_run 4).completed_watcher_groups (fun _ => false)).map
        (fun group => group.map Watcher.watcher_id) = [["a", "b"]] ∧
      (watcher_state {} group_run 3).claimed_by (.claim (group_claim "part" ["a"])) = [] ∧
      (watcher_state {} group_run 4).claimed_by (.claim (group_claim "whole" ["a", "b"]))
        = ["a", "b"] ∧
      (∀ id ∈ ["a", "b"], ∃ w, (watcher_state {} group_run 5).watchers.get? id = some w ∧
        w.notified = true ∧ w.notification_operation_id = some "whole") ∧
      "a" ∉ (watcher_state {} group_run 5).claimed_by (.claim (group_claim "late" ["a", "b"])) := by
  obtain ⟨honce, -, -, hall⟩ := watcher_delivered_once {} group_run
  have hwhole : (watcher_state {} group_run 4).claimed_by (.claim (group_claim "whole" ["a", "b"]))
      = ["a", "b"] := by decide
  refine ⟨by decide, by decide, hwhole, ?_, ?_⟩
  · rcases hall 4 (group_claim "whole" ["a", "b"]) rfl with ⟨hnone, -⟩ | ⟨-, hrows, -⟩
    · rw [hwhole] at hnone
      cases hnone
    · exact hrows
  · exact honce 4 5 _ _ "a" (by decide) rfl rfl (by rw [hwhole]; decide)

/-! ### A watcher that comes back -/

/-- An external watcher that was just armed. -/
def armed_watcher : Watcher :=
  { watcher_id := "w", project_id := "p", origin_operation_id := "op",
    origin_task_kind := .node_chat, chat_id := "chat" }

/-- A check that fails degrades the watcher, and the next one that answers makes it active
    again. -/
theorem degraded_watcher_returns :
    let s := watcher_state {} [.create (fun _ => none) [armed_watcher], .check "w" .degraded 1,
      .check "w" .active 2]
    ((s 1).watchers.get? "w").map Watcher.status = some .active ∧
      ((s 2).watchers.get? "w").map Watcher.status = some .degraded ∧
      ((s 3).watchers.get? "w").map Watcher.status = some .active := by
  decide

end ResearchGraph
