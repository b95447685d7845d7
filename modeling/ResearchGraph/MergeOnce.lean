import ResearchGraph.Merges
import ResearchGraph.RoundTrip

/-! # A branch head is merged once

    Any interleaving of merge commits, receipts and reconciliations, between
    whatever else happens to the project, keeps one outcome for each merge id: at
    most one accepted main Patch, at most one receipt, and the two in agreement.
-/

namespace ResearchGraph

open Lib

section

variable [TextLibrary] [Canonical]

/-! ### The property -/

/-- The merge a file of main holds, when its Patch was accepted. -/
def PatchFile.merged (f : PatchFile) : Option BranchMergeProvenance :=
  match f.content with
  | .ok p => p.merged
  | .error _ => none

/-- The accepted merges of main, in order. -/
def main_merges (store : ProjectStore) : List BranchMergeProvenance :=
  store.main_files.filterMap PatchFile.merged

/-- A branch directory holds a receipt under a file name. -/
def HasReceipt (store : ProjectStore) (branch_id stem : String) (receipt : BranchMergeReceipt) :
    Prop :=
  ∃ b, Dict.get store.branches branch_id = some b ∧ Dict.get b.merges stem = some receipt

/-- One outcome for every merge id. -/
structure MergedOnce (store : ProjectStore) : Prop where
  one_patch : ((main_merges store).map (·.merge_id)).Nodup
  one_receipt : ∀ id stem r id' stem' r', HasReceipt store id stem r →
    HasReceipt store id' stem' r' →
    r.provenance.merge_id = r'.provenance.merge_id → id = id' ∧ stem = stem' ∧ r = r'
  exclusive : ∀ id stem r, HasReceipt store id stem r → r.outcome = .no_change →
    ∀ provenance ∈ main_merges store, provenance.merge_id ≠ r.provenance.merge_id
  named : ∀ id stem r, HasReceipt store id stem r → r.outcome = .committed →
    ∃ f ∈ store.main_files, ∃ p, f.content = .ok p ∧ p.merged = some r.provenance ∧
      committed_receipt r.provenance p = .ok r

/-! ### The steps -/

/-- Whatever else happens to the project: the manifest, other main appends, new
    branches and Patches of a branch.  None of it commits a merge or writes a
    receipt. -/
structure Environment (store store' : ProjectStore) : Prop where
  main : ∃ files, store'.main_files = store.main_files ++ files ∧ ∀ f ∈ files, f.merged = none
  branches : ∀ id b', Dict.get store'.branches id = some b' →
    b'.merges = Table.empty ∨
      ∃ b, Dict.get store.branches id = some b ∧ b'.merges = b.merges

/-- One operation under the append lock. -/
inductive MergeStep (gates : Gates) : ProjectStore → ProjectStore → Prop
  | commit {store store' : ProjectStore} {p : Patch} (context : BranchMergeContext) (draft : Patch)
      (now : Datetime) (h : commit_branch_merge gates store context draft now = .ok (store', p)) :
      MergeStep gates store store'
  | receipt {store store' : ProjectStore} {written : BranchMergeReceipt} (branch_id : String)
      (receipt : BranchMergeReceipt)
      (h : write_merge_receipt gates store branch_id receipt = .ok (store', written)) :
      MergeStep gates store store'
  | reconcile {store store' : ProjectStore} {found : Option BranchMergeReceipt}
      (branch_id merge_id : String)
      (h : reconcile_merge_receipt gates store branch_id merge_id = .ok (store', found)) :
      MergeStep gates store store'
  | append {store store' : ProjectStore} {q : Patch} (p : Patch) (discard_on_reject : Bool)
      (expected_revision : Option Nat) (now : Datetime) (hp : p.branch_merge = none)
      (h : append_locked gates store p discard_on_reject expected_revision now = .ok (store', q)) :
      MergeStep gates store store'
  | environment {store store' : ProjectStore} (h : Environment store store') :
      MergeStep gates store store'

/-- A merge id that some branch lineage has. -/
def Lineage (branch_id merge_id : String) : Prop :=
  ∃ b : GraphBranchMetadata, b.branch_id = branch_id ∧ merge_id = branch_merge_id b

/-- What every operation keeps. -/
structure MergeInvariant (store : ProjectStore) : Prop where
  one_patch : ((main_merges store).map (·.merge_id)).Nodup
  lineage : ∀ provenance ∈ main_merges store, Lineage provenance.branch_id provenance.merge_id
  stored : ∀ id stem r, HasReceipt store id stem r →
    stem = r.provenance.merge_id ∧ Lineage id r.provenance.merge_id
  no_change : ∀ id stem r, HasReceipt store id stem r → r.outcome = .no_change →
    ∀ provenance ∈ main_merges store, provenance.branch_id = id →
      provenance.merge_id ≠ r.provenance.merge_id
  committed : ∀ id stem r, HasReceipt store id stem r → r.outcome = .committed →
    ∃ f ∈ store.main_files, ∃ p, f.content = .ok p ∧ p.merged = some r.provenance ∧
      committed_receipt r.provenance p = .ok r

variable {gates : Gates} {store store' : ProjectStore} {p q : Patch} {ps : List Patch}

/-! ### One merge id, one branch -/

omit [TextLibrary] in
theorem lineage_branch (hsha : Function.Injective Canonical.sha256) {id id' merge_id : String}
    (h : Lineage id merge_id) (h' : Lineage id' merge_id) : id = id' := by
  obtain ⟨b, rfl, hb⟩ := h
  obtain ⟨b', rfl, hb'⟩ := h'
  have hsorted := hsha (hb.symm.trans hb')
  rw [Value.sort_keys_fields_inj (by simp) (by rfl)] at hsorted
  simp only [List.map_cons, List.cons.injEq, Prod.mk.injEq, Value.sort_keys_str, Value.str.injEq]
    at hsorted
  exact hsorted.2.2.1.2

omit [TextLibrary] in
/-- The invariant gives one outcome, as long as the digest has no collisions. -/
theorem MergeInvariant.merged_once (hsha : Function.Injective Canonical.sha256)
    (h : MergeInvariant store) : MergedOnce store := by
  refine ⟨h.one_patch, ?_, ?_, h.committed⟩
  · intro id stem r id' stem' r' hr hr' hid
    obtain ⟨rfl, hlineage⟩ := h.stored id stem r hr
    obtain ⟨rfl, hlineage'⟩ := h.stored id' stem' r' hr'
    rw [← hid] at hlineage'
    obtain rfl := lineage_branch hsha hlineage hlineage'
    obtain ⟨b, hb, hget⟩ := hr
    obtain ⟨b', hb', hget'⟩ := hr'
    obtain rfl : b = b' := Option.some.inj (hb.symm.trans hb')
    rw [← hid, hget] at hget'
    exact ⟨rfl, hid, Option.some.inj hget'⟩
  · intro id stem r hr houtcome provenance hmem heq
    have hlineage := h.lineage provenance hmem
    rw [heq] at hlineage
    have hbranch := lineage_branch hsha hlineage (h.stored id stem r hr).2
    exact h.no_change id stem r hr houtcome provenance hmem hbranch heq

/-! ### Refusals -/

omit [TextLibrary] [Canonical] in
theorem demand_ok {condition : Prop} [Decidable condition] {message : String} {u : Unit} :
    demand condition message = .ok u ↔ condition := by
  unfold demand
  split_ifs with h
  · simp [h]
  · simp [refuse, h]

omit [TextLibrary] [Canonical] in
theorem raised_ok {α : Type} {x : Applied α} {a : α} : raised x = .ok a ↔ x = .ok a := by
  cases x <;> simp [raised]

omit [TextLibrary] [Canonical] in
theorem require_writable_ok {s : GraphState} {u : Unit} :
    require_writable s = .ok u ↔ s.replay_status = .complete := by
  unfold require_writable
  cases h : s.replay_status <;> simp

/-! ### What an append writes -/

omit [TextLibrary] [Canonical] in
theorem attributed_merge (p : Patch) (attribution : Option Attribution) :
    (p.attributed attribution).branch_merge = p.branch_merge := by
  cases attribution <;> rfl

/-- Every Patch of an outcome. -/
def SourcesOutcome.patches : SourcesOutcome → List Patch
  | .rejected p _ => [p]
  | .prepared sources _ => sources

/-- Preparation of sources with one provenance keeps it. -/
theorem prepare_sources_merge {m : Manifest} {target : GraphTargetRef} {before revision : Nat}
    {merge : Option BranchMergeProvenance} {sources raws : List Patch}
    {aggregate : List ValidationMessage} {s : GraphState} {outcome : SourcesOutcome}
    (hsources : ∀ p ∈ sources, p.branch_merge = merge) (hraws : ∀ p ∈ raws, p.branch_merge = merge)
    (h : prepare_sources gates m target before revision sources aggregate s raws = .ok outcome) :
    ∀ p ∈ outcome.patches, p.branch_merge = merge := by
  induction raws generalizing sources aggregate s with
  | nil =>
    obtain rfl := Except.ok.inj h
    exact hsources
  | cons raw raws ih =>
    unfold prepare_sources at h
    obtain ⟨attribution, -, h⟩ := except_bind_ok.mp h
    have hraw : (raw.attributed attribution).branch_merge = merge :=
      (attributed_merge raw attribution).trans (hraws raw (by simp))
    simp only at h
    split at h
    · obtain rfl := Except.ok.inj h
      simpa [SourcesOutcome.patches, prepare_patch_bookkeeping] using hraw
    · split at h
      · obtain rfl := Except.ok.inj h
        simpa [SourcesOutcome.patches, prepare_patch_bookkeeping] using hraw
      · next candidate _ =>
        split at h
        · obtain rfl := Except.ok.inj h
          simpa [SourcesOutcome.patches, prepare_patch_bookkeeping] using hraw
        · refine ih ?_ (fun p hp => hraws p (by simp [hp])) h
          intro p hp
          rcases List.mem_append.mp hp with hp | hp
          · exact hsources p hp
          · obtain rfl := List.mem_singleton.mp hp
            simpa [finalize_patch_bookkeeping, prepare_patch_bookkeeping] using hraw

omit [TextLibrary] in
theorem prepare_validated_merge {s : GraphState} {sources : List Patch} {head : Option GraphHeadRef}
    {merge : Option BranchMergeProvenance} {r : PreparedTransition}
    (hsources : ∀ p ∈ sources, p.branch_merge = merge)
    (h : prepare_validated s sources head = .ok r) : r.patch.branch_merge = merge := by
  unfold prepare_validated at h
  cases sources with
  | nil => cases h
  | cons first rest =>
    obtain ⟨-, -, h⟩ := except_bind_ok.mp h
    obtain ⟨c, -, h⟩ := except_bind_ok.mp h
    obtain ⟨combined, hcombined, h⟩ := except_bind_ok.mp h
    obtain ⟨candidate, -, h⟩ := except_bind_ok.mp h
    split_ifs at h
    obtain rfl := except_pure_ok.mp h
    obtain ⟨cursors, -, hcombined⟩ := except_bind_ok.mp hcombined
    obtain rfl := except_pure_ok.mp hcombined
    exact hsources first (by simp)

/-- The candidate that is written has the provenance of the Patch. -/
theorem validate_candidate_merge {m : Manifest} {current : MaterializationResult} {revision : Nat}
    {report : List ValidationMessage}
    (h : validate_candidate_locked gates m current p revision = .ok (q, report)) :
    q.branch_merge = p.branch_merge := by
  unfold validate_candidate_locked at h
  split_ifs at h
  · obtain ⟨attribution, -, h⟩ := except_bind_ok.mp h
    simp only at h
    split_ifs at h
    · obtain ⟨rfl, -⟩ := Prod.mk.inj (except_pure_ok.mp h)
      exact attributed_merge p attribution
    · obtain ⟨-, -, h⟩ := except_bind_ok.mp h
      obtain ⟨rfl, -⟩ := Prod.mk.inj (except_pure_ok.mp h)
      exact attributed_merge p attribution
  · unfold prepare_transition_locked at h
    simp only [Option.any_none, Bool.false_eq_true, if_false] at h
    obtain ⟨outcome, houtcome, h⟩ := except_bind_ok.mp h
    have hall := prepare_sources_merge (by simp)
      (show ∀ x ∈ [p], x.branch_merge = p.branch_merge by simp)
      houtcome
    cases outcome with
    | rejected p' report' =>
      obtain ⟨rfl, -⟩ := Prod.mk.inj (except_pure_ok.mp h)
      exact hall _ (by simp [SourcesOutcome.patches])
    | prepared sources report' =>
      simp only at h
      split at h
      · next prepared hprepared =>
        obtain ⟨rfl, -⟩ := Prod.mk.inj (except_pure_ok.mp h)
        exact prepare_validated_merge hall hprepared
      · split at h
        · split_ifs at h
          obtain ⟨rfl, -⟩ := Prod.mk.inj (except_pure_ok.mp h)
          exact hall _ (by simp [SourcesOutcome.patches])
        · cases h

/-- One file is added to main, and the branches stay. -/
theorem append_locked_ok {discard_on_reject : Bool} {expected_revision : Option Nat}
    {now : Datetime}
    (h : append_locked gates store p discard_on_reject expected_revision now = .ok (store', q)) :
    store.main.state.replay_status = .complete ∧ admit_merge gates store p = .ok () ∧
      q.branch_merge = p.branch_merge ∧
      store' = { store with main_files := store.main_files ++ [persisted q now] } := by
  unfold append_locked at h
  obtain ⟨_, hwritable, h⟩ := except_bind_ok.mp h
  obtain ⟨-, -, h⟩ := except_bind_ok.mp h
  obtain ⟨_, hadmit, h⟩ := except_bind_ok.mp h
  split_ifs at h
  obtain ⟨⟨candidate, report⟩, hcandidate, h⟩ := except_bind_ok.mp h
  have hmerge := validate_candidate_merge (raised_ok.mp hcandidate)
  simp only at h
  by_cases hdiscard : (discard_on_reject && rejected report) = true
  · rw [if_pos hdiscard] at h
    cases h
  · rw [if_neg hdiscard] at h
    obtain ⟨rfl, rfl⟩ := Prod.mk.inj (except_pure_ok.mp h)
    exact ⟨require_writable_ok.mp hwritable, hadmit, hmerge, rfl⟩

/-- A Patch that is admitted and prepared is written as it was prepared. -/
theorem append_locked_prepared {sources : List Patch} {report : List ValidationMessage}
    {prepared : PreparedTransition} {discard_on_reject : Bool} {expected_revision : Option Nat}
    {now : Datetime} (hcomplete : store.main.state.replay_status = .complete)
    (hhome : gates.writable_home store.main = .ok ()) (hmerge : admit_merge gates store p = .ok ())
    (hexpected : ∀ r ∈ expected_revision, store.main.state.revision = r) (hacting : p.ops ≠ [])
    (hsources : prepare_sources gates store.manifest .main store.main.state.revision
      (next_revision store.main_files) [] [] store.main.state [p] = .ok (.prepared sources report))
    (hreport : rejected report = false)
    (hprepared : prepare_validated store.main.state sources
      (some ⟨.main, store.main.state.revision, last_transition_id none store.main.patches⟩)
        = .ok prepared)
    (hq : q = { prepared.patch with admission := .accepted, admission_messages := report }) :
    append_locked gates store p discard_on_reject expected_revision now =
      .ok ({ store with main_files := store.main_files ++ [persisted q now] }, q) := by
  subst hq
  have hcandidate : validate_candidate_locked gates store.manifest store.main p
      (next_revision store.main_files)
        = .ok ({ prepared.patch with admission_messages := report }, report) := by
    unfold validate_candidate_locked prepare_transition_locked
    rw [if_neg (fun h => hacting h.2)]
    simp only [Option.any_none, Bool.false_eq_true, if_false, Option.getD_none]
    refine except_bind_ok.mpr ⟨_, hsources, ?_⟩
    simp only [hprepared]
    rfl
  have hmoved : ¬ (expected_revision.any
      (fun expected => decide (store.main.state.revision ≠ expected)) = true) := by
    cases expected_revision with
    | none => simp
    | some r => simpa using hexpected r rfl
  unfold append_locked
  refine except_bind_ok.mpr ⟨(), require_writable_ok.mpr hcomplete, ?_⟩
  refine except_bind_ok.mpr ⟨(), raised_ok.mpr hhome, except_bind_ok.mpr ⟨(), hmerge, ?_⟩⟩
  rw [if_neg hmoved]
  refine except_bind_ok.mpr ⟨_, raised_ok.mpr hcandidate, ?_⟩
  simp only [hreport, Bool.and_false, Bool.false_eq_true, if_false]
  rfl

/-! ### What main says of merges -/

omit [TextLibrary] [Canonical] in
theorem files_merged {fail : PatchFile → UnreadablePatch → ReplayFailure} {files : List PatchFile}
    (h : (decode_paths fail files).2 = none) :
    files.filterMap PatchFile.merged = (decode_paths fail files).1.filterMap Patch.merged := by
  induction files with
  | nil => rfl
  | cons f files ih =>
    unfold decode_paths at h ⊢
    cases hf : f.content with
    | error e => simp [hf] at h
    | ok p =>
      simp only [hf] at h ⊢
      rw [List.filterMap_cons, List.filterMap_cons, ih h]
      simp [PatchFile.merged, hf]

/-- A writable main has its merges in the Patches it replays. -/
theorem main_merges_eq (h : store.main.state.replay_status = .complete) :
    main_merges store = store.main.patches.filterMap Patch.merged ∧
      ∀ p ∈ store.main.patches, ∃ f ∈ store.main_files, f.content = .ok p := by
  obtain ⟨scope, a, -, hdecode, -, -, -, hpatches⟩ := main_complete h
  rw [ProjectStore.main, hpatches]
  exact ⟨files_merged hdecode, fun p hp => decoded_mem hp⟩

omit [TextLibrary] [Canonical] in
/-- A committed receipt is about the merge it was made for. -/
theorem committed_receipt_ok {provenance : BranchMergeProvenance} {r : BranchMergeReceipt}
    (h : committed_receipt provenance p = .ok r) :
    r.provenance = provenance ∧ r.outcome = .committed := by
  unfold committed_receipt at h
  split at h
  · unfold BranchMergeReceipt.validated at h
    obtain ⟨-, -, h⟩ := except_bind_ok.mp h
    obtain ⟨-, -, h⟩ := except_bind_ok.mp h
    obtain ⟨-, -, h⟩ := except_bind_ok.mp h
    obtain rfl := except_pure_ok.mp h
    exact ⟨rfl, rfl⟩
  · cases h

omit [TextLibrary] [Canonical] in
/-- The receipts of main are those of its accepted merges, one by one. -/
theorem main_merge_receipts_ok {seen_ids : List String} {receipts : List BranchMergeReceipt}
    (h : main_merge_receipts seen_ids ps = .ok receipts) :
    receipts.map (·.provenance) = ps.filterMap Patch.merged ∧
      ∀ r ∈ receipts, ∃ p ∈ ps, p.merged = some r.provenance ∧
        committed_receipt r.provenance p = .ok r := by
  induction ps generalizing seen_ids receipts with
  | nil =>
    obtain rfl := Except.ok.inj h
    simp
  | cons p ps ih =>
    unfold main_merge_receipts at h
    cases hp : p.merged with
    | none =>
      rw [hp] at h
      obtain ⟨hmap, hall⟩ := ih h
      refine ⟨by simp [hp, hmap], fun r hr => ?_⟩
      obtain ⟨q, hq, hmerged, hreceipt⟩ := hall r hr
      exact ⟨q, by simp [hq], hmerged, hreceipt⟩
    | some provenance =>
      rw [hp] at h
      obtain ⟨-, -, h⟩ := except_bind_ok.mp h
      obtain ⟨receipt, hreceipt, h⟩ := except_bind_ok.mp h
      obtain ⟨rest, hrest, h⟩ := except_bind_ok.mp h
      obtain rfl := except_pure_ok.mp h
      obtain ⟨hmap, hall⟩ := ih hrest
      have hprovenance := (committed_receipt_ok hreceipt).1
      refine ⟨by simp [hp, hmap, hprovenance], fun r hr => ?_⟩
      rcases List.mem_cons.mp hr with rfl | hr
      · exact ⟨p, by simp, by rw [hp, hprovenance], by rw [hprovenance]; exact hreceipt⟩
      · obtain ⟨q, hq, hmerged, hreceipt⟩ := hall r hr
        exact ⟨q, by simp [hq], hmerged, hreceipt⟩

omit [TextLibrary] [Canonical] in
theorem derived_receipts_ok {main : MaterializationResult} {branch_id merge_id : String}
    {derived : List BranchMergeReceipt}
    (h : derived_receipts main branch_id merge_id = .ok derived) :
    (∀ r ∈ derived, ∃ p ∈ main.patches, p.merged = some r.provenance ∧
        committed_receipt r.provenance p = .ok r) ∧
      (derived = [] → ∀ provenance ∈ main.patches.filterMap Patch.merged,
        provenance.branch_id = branch_id → provenance.merge_id ≠ merge_id) := by
  obtain ⟨receipts, hreceipts, h⟩ := except_bind_ok.mp h
  obtain rfl := except_pure_ok.mp h
  obtain ⟨hmap, hall⟩ := main_merge_receipts_ok hreceipts
  refine ⟨fun r hr => hall r (List.mem_filter.mp hr).1, fun hnone provenance hmem hbranch hid => ?_⟩
  rw [← hmap] at hmem
  obtain ⟨r, hr, rfl⟩ := List.mem_map.mp hmem
  have hfiltered := List.filter_eq_nil_iff.mp hnone r hr
  simp [hbranch, hid] at hfiltered

/-! ### What a receipt that is written has passed -/

omit [TextLibrary] in
theorem validate_merge_receipt_ok {b : GraphBranchMetadata} {r : BranchMergeReceipt}
    {branch main : MaterializationResult} {live : Bool} {u : Unit}
    (h : validate_merge_receipt gates b r branch main live = .ok u) :
    Lineage b.branch_id r.provenance.merge_id ∧
      (r.outcome = .committed → ∃ p ∈ main.patches, p.merged = some r.provenance ∧
        committed_receipt r.provenance p = .ok r) ∧
      (r.outcome = .no_change → ∀ provenance ∈ main.patches.filterMap Patch.merged,
        provenance.branch_id = b.branch_id → provenance.merge_id ≠ r.provenance.merge_id) := by
  unfold validate_merge_receipt at h
  obtain ⟨_, hsource, h⟩ := except_bind_ok.mp h
  obtain ⟨derived, hderived, h⟩ := except_bind_ok.mp h
  obtain ⟨hall, hnone⟩ := derived_receipts_ok hderived
  have hlineage : Lineage b.branch_id r.provenance.merge_id := by
    unfold validate_merge_receipt_source at hsource
    obtain ⟨-, -, hsource⟩ := except_bind_ok.mp hsource
    obtain ⟨-, -, hsource⟩ := except_bind_ok.mp hsource
    obtain ⟨-, -, hsource⟩ := except_bind_ok.mp hsource
    unfold validate_summary_receipt at hsource
    obtain ⟨-, -, hsource⟩ := except_bind_ok.mp hsource
    obtain ⟨-, -, hsource⟩ := except_bind_ok.mp hsource
    obtain ⟨_, hid, -⟩ := except_bind_ok.mp hsource
    exact ⟨{ b with head := r.provenance.branch_head }, rfl, demand_ok.mp hid⟩
  refine ⟨hlineage, fun houtcome => ?_, fun houtcome => ?_⟩
  · rw [houtcome] at h
    have heq := demand_ok.mp h
    exact hall r (by simp [heq])
  · rw [houtcome] at h
    obtain ⟨_, heq, -⟩ := except_bind_ok.mp h
    exact hnone (demand_ok.mp heq)

/-- The store stays, or one receipt is added that passed its checks. -/
theorem write_merge_receipt_ok {branch_id : String} {receipt written : BranchMergeReceipt}
    (h : write_merge_receipt gates store branch_id receipt = .ok (store', written)) :
    store' = store ∨ ∃ b, Dict.get store.branches branch_id = some b ∧
      b.metadata.branch_id = branch_id ∧ store.main.state.replay_status = .complete ∧
      (∃ branch, validate_merge_receipt gates b.metadata written branch store.main true = .ok ()) ∧
      store' = { store with
        branches := Dict.set store.branches branch_id
          { b with merges := Dict.set b.merges written.provenance.merge_id written } } := by
  unfold write_merge_receipt at h
  obtain ⟨b, hb, h⟩ := except_bind_ok.mp h
  obtain ⟨-, -, h⟩ := except_bind_ok.mp h
  obtain ⟨-, -, h⟩ := except_bind_ok.mp h
  obtain ⟨head, -, h⟩ := except_bind_ok.mp h
  obtain ⟨-, -, h⟩ := except_bind_ok.mp h
  obtain ⟨_, hwritable, h⟩ := except_bind_ok.mp h
  obtain ⟨-, -, h⟩ := except_bind_ok.mp h
  obtain ⟨derived, -, h⟩ := except_bind_ok.mp h
  obtain ⟨decided, -, h⟩ := except_bind_ok.mp h
  split at h
  · obtain ⟨winner, -, h⟩ := except_bind_ok.mp h
    obtain ⟨-, -, h⟩ := except_bind_ok.mp h
    exact Or.inl (Prod.mk.inj (except_pure_ok.mp h)).1
  · obtain ⟨_, hvalid, h⟩ := except_bind_ok.mp h
    obtain ⟨rfl, rfl⟩ := Prod.mk.inj (except_pure_ok.mp h)
    right
    unfold open_branch at hb
    cases hget : Dict.get store.branches branch_id with
    | none => simp [hget] at hb
    | some b' =>
      rw [hget] at hb
      obtain ⟨_, hid, hb⟩ := except_bind_ok.mp hb
      obtain rfl := except_pure_ok.mp hb
      exact ⟨b, rfl, demand_ok.mp hid, require_writable_ok.mp hwritable, ⟨_, hvalid⟩, rfl⟩

omit [TextLibrary] in
/-- A receipt whose summary names the branch, its head and its result is sound. -/
theorem validate_merge_receipt_source_of {b : GraphBranchMetadata} {r : BranchMergeReceipt}
    {branch main : MaterializationResult} (hbranch : branch.state.replay_status = .complete)
    (hmain : main.state.replay_status = .complete)
    (hchain : accepted_transition_head_chain_failure .main none main.patches = none)
    (hbranch_id : r.provenance.branch_id = b.branch_id)
    (hepisode_id : r.provenance.episode_id = b.branch_id)
    (hbase : r.provenance.branch_base_head = b.base_head)
    (hid : r.provenance.merge_id = branch_merge_id { b with head := r.provenance.branch_head })
    (hhead : head_at_revision b branch r.provenance.branch_head.revision
      = .ok r.provenance.branch_head)
    (hresult : Dict.get (main_heads_by_revision main.patches) r.result_main_head.revision
      = some r.result_main_head) :
    validate_merge_receipt_source b r branch main = .ok () := by
  have hmain_head : main_head_ref main
      = .ok ⟨.main, main.state.revision, last_transition_id none main.patches⟩ := by
    unfold main_head_ref
    refine except_bind_ok.mpr ⟨(), require_writable_ok.mpr hmain, ?_⟩
    rw [hchain]
    rfl
  unfold validate_merge_receipt_source
  refine except_bind_ok.mpr ⟨(), require_writable_ok.mpr hbranch, ?_⟩
  refine except_bind_ok.mpr ⟨(), require_writable_ok.mpr hmain, ?_⟩
  refine except_bind_ok.mpr ⟨_, hmain_head, ?_⟩
  unfold validate_summary_receipt
  refine except_bind_ok.mpr ⟨(), demand_ok.mpr ⟨hbranch_id, hepisode_id⟩, ?_⟩
  refine except_bind_ok.mpr ⟨(), demand_ok.mpr hbase, ?_⟩
  refine except_bind_ok.mpr ⟨(), demand_ok.mpr hid, except_bind_ok.mpr ⟨_, hhead, ?_⟩⟩
  exact except_bind_ok.mpr ⟨(), demand_ok.mpr rfl, demand_ok.mpr hresult⟩

/-- The receipt of a committed merge is written when the branch has none for it. -/
theorem write_committed_receipt {branch_id : String} {b : BranchStore} {r : BranchMergeReceipt}
    (hb : Dict.get store.branches branch_id = some b) (hid : b.metadata.branch_id = branch_id)
    (houtcome : r.outcome = .committed)
    (hsource : validate_merge_receipt_source b.metadata r (store.branch b) store.main = .ok ())
    (hderived : derived_receipts store.main b.metadata.branch_id r.provenance.merge_id = .ok [r])
    (hstored : Dict.get b.merges r.provenance.merge_id = none) :
    write_merge_receipt gates store branch_id r = .ok ({ store with
      branches := Dict.set store.branches branch_id
        { b with merges := Dict.set b.merges r.provenance.merge_id r } }, r) := by
  have hopen : open_branch store branch_id = .ok b := by
    unfold open_branch
    rw [hb]
    exact except_bind_ok.mpr ⟨(), demand_ok.mpr hid, rfl⟩
  have hvalid (live : Bool) :
      validate_merge_receipt gates b.metadata r (store.branch b) store.main live = .ok () := by
    unfold validate_merge_receipt
    refine except_bind_ok.mpr ⟨(), hsource, except_bind_ok.mpr ⟨[r], hderived, ?_⟩⟩
    rw [houtcome]
    exact demand_ok.mpr rfl
  -- the checks of the source are made a second time, before it is looked at as a whole
  have hchecks := hsource
  unfold validate_merge_receipt_source at hchecks
  obtain ⟨_, -, hchecks⟩ := except_bind_ok.mp hchecks
  obtain ⟨_, hwritable, hchecks⟩ := except_bind_ok.mp hchecks
  obtain ⟨_, -, hchecks⟩ := except_bind_ok.mp hchecks
  unfold validate_summary_receipt at hchecks
  obtain ⟨_, hidentity, hchecks⟩ := except_bind_ok.mp hchecks
  obtain ⟨_, hbase, hchecks⟩ := except_bind_ok.mp hchecks
  obtain ⟨_, -, hchecks⟩ := except_bind_ok.mp hchecks
  obtain ⟨head, hhead, hchecks⟩ := except_bind_ok.mp hchecks
  obtain ⟨_, hexact, -⟩ := except_bind_ok.mp hchecks
  unfold write_merge_receipt
  refine except_bind_ok.mpr ⟨b, hopen, except_bind_ok.mpr ⟨(), hidentity, ?_⟩⟩
  refine except_bind_ok.mpr ⟨(), hbase, except_bind_ok.mpr ⟨head, hhead, ?_⟩⟩
  refine except_bind_ok.mpr ⟨(), hexact, except_bind_ok.mpr ⟨(), hwritable, ?_⟩⟩
  refine except_bind_ok.mpr ⟨(), hsource, except_bind_ok.mpr ⟨[r], hderived, ?_⟩⟩
  refine except_bind_ok.mpr ⟨r, except_bind_ok.mpr ⟨(), hvalid false, rfl⟩, ?_⟩
  rw [hstored]
  exact except_bind_ok.mpr ⟨(), hvalid true, rfl⟩

/-- A merge that main has and its branch does not know is reconciled. -/
theorem reconcile_committed {branch_id : String} {b : BranchStore} {r : BranchMergeReceipt}
    {written : ProjectStore × BranchMergeReceipt}
    (hb : Dict.get store.branches branch_id = some b) (hid : b.metadata.branch_id = branch_id)
    (hstored : Dict.get b.merges r.provenance.merge_id = none)
    (hmatching : matching_merges store.main.patches r.provenance.merge_id = [p])
    (hmerge : p.branch_merge = some r.provenance)
    (hreceipt : committed_receipt r.provenance p = .ok r)
    (hwrite : write_merge_receipt gates store branch_id r = .ok written) :
    reconcile_merge_receipt gates store branch_id r.provenance.merge_id
      = .ok (written.1, some written.2) := by
  have hopen : open_branch store branch_id = .ok b := by
    unfold open_branch
    rw [hb]
    exact except_bind_ok.mpr ⟨(), demand_ok.mpr hid, rfl⟩
  unfold reconcile_merge_receipt
  refine except_bind_ok.mpr ⟨b, hopen, ?_⟩
  simp only [hstored, hmatching, hmerge]
  refine except_bind_ok.mpr ⟨r, hreceipt, except_bind_ok.mpr ⟨written, hwrite, rfl⟩⟩

/-! ### The invariant along a run -/

omit [TextLibrary] [Canonical] in
theorem main_merges_append {files : List PatchFile}
    (h : store'.main_files = store.main_files ++ files) :
    main_merges store' = main_merges store ++ files.filterMap PatchFile.merged := by
  rw [main_merges, main_merges, h, List.filterMap_append]

omit [TextLibrary] in
/-- Without a new merge or receipt the invariant stays. -/
theorem MergeInvariant.environment (hinv : MergeInvariant store) (h : Environment store store') :
    MergeInvariant store' := by
  obtain ⟨files, hfiles, hnone⟩ := h.main
  have hmerges : main_merges store' = main_merges store := by
    rw [main_merges_append hfiles, List.filterMap_eq_nil_iff.mpr hnone, List.append_nil]
  have hreceipts : ∀ id stem r, HasReceipt store' id stem r → HasReceipt store id stem r := by
    rintro id stem r ⟨b', hb', hr⟩
    rcases h.branches id b' hb' with hempty | ⟨b, hb, hsame⟩
    · rw [hempty] at hr
      cases hr
    · exact ⟨b, hb, hsame ▸ hr⟩
  refine ⟨by rw [hmerges]; exact hinv.one_patch, by rw [hmerges]; exact hinv.lineage, ?_, ?_, ?_⟩
  · intro id stem r hr
    exact hinv.stored id stem r (hreceipts id stem r hr)
  · intro id stem r hr
    rw [hmerges]
    exact hinv.no_change id stem r (hreceipts id stem r hr)
  · intro id stem r hr houtcome
    obtain ⟨f, hf, hrest⟩ := hinv.committed id stem r (hreceipts id stem r hr) houtcome
    exact ⟨f, by rw [hfiles]; simp [hf], hrest⟩

/-- Merge admission lets a merge pass that neither main nor its branch knows. -/
theorem admit_merge_ok {provenance : BranchMergeProvenance} {u : Unit}
    (hp : p.branch_merge = some provenance) (h : admit_merge gates store p = .ok u) :
    matching_merges store.main.patches provenance.merge_id = [] ∧
      ∀ r, ¬ HasReceipt store provenance.branch_id provenance.merge_id r := by
  unfold admit_merge at h
  rw [hp] at h
  simp only at h
  split at h
  · cases h
  · cases h
  · next hnone =>
    refine ⟨hnone, ?_⟩
    rintro r ⟨b, hb, hr⟩
    obtain ⟨existing, hexisting, h⟩ := except_bind_ok.mp h
    unfold existing_receipt_for_main_append at hexisting
    simp only [hb, hr] at hexisting
    obtain ⟨-, -, hexisting⟩ := except_bind_ok.mp hexisting
    obtain ⟨-, -, hexisting⟩ := except_bind_ok.mp hexisting
    obtain ⟨receipt, -, hexisting⟩ := except_bind_ok.mp hexisting
    obtain ⟨-, -, hexisting⟩ := except_bind_ok.mp hexisting
    obtain rfl := except_pure_ok.mp hexisting
    cases h

omit [TextLibrary] [Canonical] in
theorem matching_merges_nil {merge_id : String} (h : matching_merges ps merge_id = []) :
    ∀ provenance ∈ ps.filterMap Patch.merged, provenance.merge_id ≠ merge_id := by
  intro provenance hmem hid
  obtain ⟨p, hp, hmerged⟩ := List.mem_filterMap.mp hmem
  have hfiltered := List.filter_eq_nil_iff.mp h p hp
  simp [hmerged, hid] at hfiltered

omit [TextLibrary] [Canonical] in
theorem matching_merges_single {provenance : BranchMergeProvenance}
    (h : p.merged = some provenance) : matching_merges [p] provenance.merge_id = [p] := by
  simp [matching_merges, h]

/-- A new main Patch keeps the invariant when its merge, if it has one, is of a
    branch lineage. -/
theorem MergeInvariant.append {discard_on_reject : Bool} {expected_revision : Option Nat}
    {now : Datetime} (hinv : MergeInvariant store)
    (hlineage : ∀ provenance, p.branch_merge = some provenance →
      Lineage provenance.branch_id provenance.merge_id)
    (h : append_locked gates store p discard_on_reject expected_revision now = .ok (store', q)) :
    MergeInvariant store' := by
  obtain ⟨hcomplete, hadmit, hmerge, rfl⟩ := append_locked_ok h
  obtain ⟨hmerges, -⟩ := main_merges_eq hcomplete
  cases hnew : (persisted q now).merged with
  | none =>
    refine hinv.environment ⟨⟨[persisted q now], rfl, by simpa using hnew⟩, ?_⟩
    intro id b hb
    exact Or.inr ⟨b, hb, rfl⟩
  | some provenance =>
    have hp : p.branch_merge = some provenance := by
      rw [← hmerge]
      unfold persisted PatchFile.merged Patch.merged at hnew
      simp only at hnew
      split at hnew
      · next hcontent =>
        split at hcontent
        · obtain rfl := Except.ok.inj hcontent
          split_ifs at hnew
          exact hnew
        · cases hcontent
      · cases hnew
    obtain ⟨hfresh, hreceipt⟩ := admit_merge_ok hp hadmit
    have hdistinct : ∀ x ∈ main_merges store, x.merge_id ≠ provenance.merge_id := by
      rw [hmerges]
      exact matching_merges_nil hfresh
    have hall : main_merges { store with main_files := store.main_files ++ [persisted q now] }
        = main_merges store ++ [provenance] := by
      rw [main_merges_append rfl]
      simp [hnew]
    refine ⟨?_, ?_, hinv.stored, ?_, ?_⟩
    · rw [hall, List.map_append, List.nodup_append]
      refine ⟨hinv.one_patch, by simp, ?_⟩
      intro x hx y hy
      obtain ⟨z, hz, rfl⟩ := List.mem_map.mp hx
      obtain rfl : y = provenance.merge_id := by simpa using hy
      exact hdistinct z hz
    · rw [hall]
      intro x hx
      rcases List.mem_append.mp hx with hx | hx
      · exact hinv.lineage x hx
      · obtain rfl := List.mem_singleton.mp hx
        exact hlineage x hp
    · -- a no-change receipt of this merge would have been found
      rw [hall]
      intro id stem r hr houtcome x hx hbranch hid
      rcases List.mem_append.mp hx with hx | hx
      · exact hinv.no_change id stem r hr houtcome x hx hbranch hid
      · obtain rfl := List.mem_singleton.mp hx
        obtain ⟨rfl, -⟩ := hinv.stored id stem r hr
        rw [← hid, ← hbranch] at hr
        exact hreceipt r hr
    · intro id stem r hr houtcome
      obtain ⟨f, hf, hrest⟩ := hinv.committed id stem r hr houtcome
      exact ⟨f, by simp [hf], hrest⟩

/-- A receipt keeps the invariant. -/
theorem MergeInvariant.receipt {branch_id : String} {receipt written : BranchMergeReceipt}
    (hinv : MergeInvariant store)
    (h : write_merge_receipt gates store branch_id receipt = .ok (store', written)) :
    MergeInvariant store' := by
  rcases write_merge_receipt_ok h with rfl | ⟨b, hb, rfl, hcomplete, ⟨branch, hvalid⟩, rfl⟩
  · exact hinv
  obtain ⟨hlineage, hcommitted, hno_change⟩ := validate_merge_receipt_ok hvalid
  obtain ⟨hmerges, hfiles⟩ := main_merges_eq hcomplete
  -- a receipt of the new store is the written one, or was there before
  have hcases : ∀ id stem r, HasReceipt { store with
        branches := Dict.set store.branches b.metadata.branch_id
          { b with merges := Dict.set b.merges written.provenance.merge_id written } } id stem r →
      (id = b.metadata.branch_id ∧ stem = written.provenance.merge_id ∧ r = written) ∨
        HasReceipt store id stem r := by
    rintro id stem r ⟨b', hb', hr⟩
    simp only [Dict.get_set] at hb'
    split_ifs at hb' with hid
    · obtain rfl := Option.some.inj hb'
      simp only [Dict.get_set] at hr
      split_ifs at hr with hstem
      · exact Or.inl ⟨hid, hstem, (Option.some.inj hr).symm⟩
      · exact Or.inr ⟨b, by rw [hid, hb], hr⟩
    · exact Or.inr ⟨b', hb', hr⟩
  refine ⟨hinv.one_patch, hinv.lineage, ?_, ?_, ?_⟩
  · intro id stem r hr
    rcases hcases id stem r hr with ⟨rfl, rfl, rfl⟩ | hr
    · exact ⟨rfl, hlineage⟩
    · exact hinv.stored id stem r hr
  · intro id stem r hr houtcome
    rcases hcases id stem r hr with ⟨rfl, rfl, rfl⟩ | hr
    · have hnone := hno_change houtcome
      rw [← hmerges] at hnone
      exact hnone
    · exact hinv.no_change id stem r hr houtcome
  · intro id stem r hr houtcome
    rcases hcases id stem r hr with ⟨rfl, rfl, rfl⟩ | hr
    · obtain ⟨p, hp, hmerged, hreceipt⟩ := hcommitted houtcome
      obtain ⟨f, hf, hcontent⟩ := hfiles p hp
      exact ⟨f, hf, p, hcontent, hmerged, hreceipt⟩
    · exact hinv.committed id stem r hr houtcome

/-- A reconciliation writes a receipt or nothing. -/
theorem MergeInvariant.reconcile {branch_id merge_id : String} {found : Option BranchMergeReceipt}
    (hinv : MergeInvariant store)
    (h : reconcile_merge_receipt gates store branch_id merge_id = .ok (store', found)) :
    MergeInvariant store' := by
  unfold reconcile_merge_receipt at h
  obtain ⟨b, -, h⟩ := except_bind_ok.mp h
  split at h
  · obtain ⟨receipt, -, h⟩ := except_bind_ok.mp h
    obtain ⟨rfl, -⟩ := Prod.mk.inj (except_pure_ok.mp h)
    exact hinv
  · split at h
    · obtain ⟨rfl, -⟩ := Prod.mk.inj (except_pure_ok.mp h)
      exact hinv
    · cases h
    · split at h
      · obtain ⟨rfl, -⟩ := Prod.mk.inj (except_pure_ok.mp h)
        exact hinv
      · obtain ⟨receipt, -, h⟩ := except_bind_ok.mp h
        obtain ⟨⟨next, written⟩, hwrite, h⟩ := except_bind_ok.mp h
        obtain ⟨rfl, -⟩ := Prod.mk.inj (except_pure_ok.mp h)
        exact hinv.receipt hwrite

theorem MergeInvariant.step (hinv : MergeInvariant store) (h : MergeStep gates store store') :
    MergeInvariant store' := by
  cases h with
  | commit context draft now h =>
    refine hinv.append (fun provenance hp => ?_) h
    obtain rfl : branch_merge_provenance context = provenance := Option.some.inj hp
    exact ⟨context.metadata, rfl, rfl⟩
  | receipt branch_id receipt h => exact hinv.receipt h
  | reconcile branch_id merge_id h => exact hinv.reconcile h
  | append p discard_on_reject expected_revision now hp h =>
    refine hinv.append (fun provenance hmerge => ?_) h
    rw [hp] at hmerge
    cases hmerge
  | environment h => exact hinv.environment h

omit [TextLibrary] in
theorem MergeInvariant.empty (manifest : Manifest) : MergeInvariant { manifest } := by
  refine ⟨List.nodup_nil, ?_, ?_, ?_, ?_⟩
  · intro provenance hmem
    cases hmem
  all_goals
    rintro id stem r ⟨b, hb, -⟩
    cases hb

/-- Over any interleaving from an empty project, each merge id has one outcome. -/
theorem merged_once_reachable (hsha : Function.Injective Canonical.sha256) {manifest : Manifest}
    (h : Relation.ReflTransGen (MergeStep gates) { manifest } store) : MergedOnce store := by
  have hinv : MergeInvariant store := by
    induction h with
    | refl => exact .empty manifest
    | tail _ hstep ih => exact ih.step hstep
  exact hinv.merged_once hsha

end

/-! ### A branch of one Patch -/

section

open scoped Reference

/-- The task that merges a branch of one Patch into an empty main. -/
def sample_merge : BranchMergeContext where
  metadata := { empty_branch with
    episode_id := "b", head := { target := .branch "b", revision := 1 } }
  main_head := { revision := 0 }
  merge_task_id := "task"
  authorized_by := ⟨"s", "u", "User"⟩

def sample_branch : BranchStore where
  metadata := sample_merge.metadata
  files := [patch_file (asked 1 "rq/a")]
  merges := Table.empty

/-- A branch that asks a question, before its merge. -/
def branched_store : ProjectStore where
  manifest := one_repository
  branches := Dict.set Table.empty "b" sample_branch

/-- The Work that asks the question on main. -/
def merge_draft : Patch := { asked 1 "rq/a" with kind := .work }

/-- What is prepared for the append. -/
def merge_source : Patch := merge_candidate sample_merge merge_draft

def empty_main : GraphState := initial_state ["main"]

theorem merge_sources : prepare_sources open_gates one_repository .main 0 1 [] [] empty_main
    [merge_source] = .ok (.prepared [merge_source] []) := by
  have hsource : prepare_patch_bookkeeping { empty_main with revision := 0 }
    { merge_source.attributed none with revision := 1 } = merge_source := rfl
  have hreport : validate_patch empty_main merge_source ["main"] {} .admission = [] := by decide
  have hclear : rejected ([] ++ validate_patch { empty_main with revision := 0 } merge_source
    empty_main.project_truth_scope one_repository.settings .admission) = false := by decide
  have happly : apply_valid_patch { empty_main with revision := 0 } merge_source = .ok _ :=
    Reference.eq_ok_result (by decide)
  have hstep : prepare_sources open_gates one_repository .main 0 1 [] [] empty_main [merge_source]
      = _ := prepare_sources_admitted rfl hsource hclear happly (by decide) rfl
  rw [hstep]
  exact congrArg (fun x => Except.ok (SourcesOutcome.prepared [merge_source] ([] ++ x))) hreport

/-- The Patch that main keeps: the source with its operations and its trace. -/
def merge_patch (ops : List GraphOperation) (trace : TransitionTrace) : Patch :=
  { merge_source with ops, transition := some trace }

/-- The source prepares, and replay takes what was prepared. -/
theorem merge_prepared : ∃ prepared ops trace,
    prepare_validated empty_main [merge_source] (some ⟨.main, 0, none⟩) = .ok prepared ∧
      prepared.patch = merge_patch ops trace ∧ trace.pre_head = ⟨.main, 0, none⟩ ∧
      replay_state {} empty_main (merge_patch ops trace) = .ok (prepared.graph.with_messages []) ∧
      prepared.graph.replay_status = .complete := by
  obtain ⟨prepared, hprepared⟩ := Reference.exists_ok
    (x := prepare_validated empty_main [merge_source] (some ⟨.main, 0, none⟩)) (by decide)
  have hevaluated : (prepare_validated empty_main [merge_source]
    (some ⟨.main, 0, none⟩)).toOption.map
      (fun r => (r.patch.transition.map (·.pre_head), r.graph.replay_status))
        = some (some ⟨.main, 0, none⟩, .complete) := by
    decide +kernel
  rw [hprepared] at hevaluated
  obtain ⟨hpre_head, hstatus⟩ := Prod.mk.inj (Option.some.inj hevaluated)
  obtain ⟨first, head, c, h⟩ := prepare_validated_ok hprepared
  obtain rfl : merge_source = first := Option.some.inj h.leads
  obtain ⟨cursors, hcursors, hcombined⟩ := combined_patch_ok h.combined
  obtain rfl : Table.empty = cursors := Except.ok.inj hcursors
  have hpatch : prepared.patch = merge_patch (expanded_operations [merge_source] c)
    (transition_trace head [merge_source] c) := hcombined
  have hshared : SharedEnvelope [merge_source] := by
    constructor <;> simp [merge_source, merge_draft, merge_candidate, asked, Reference.agent_patch]
  -- the trace is not evaluated: the round trip gives it for every injective digest
  have htrace : validate_transition_trace empty_main prepared.patch = .ok [merge_source] := by
    refine h.replay_ok_iff.mpr ⟨(replayed_id_iff Value.digest_injective h).mpr hshared, ?_⟩
    rw [hpatch]
    rfl
  have hreports : source_reports {} 0 empty_main [merge_source] = .ok [] := by decide
  have houtcome : (validate_transition_trace empty_main prepared.patch >>=
      source_reports {} empty_main.revision empty_main) = .ok [] :=
    except_bind_ok.mpr ⟨_, htrace, hreports⟩
  have htraced : traced_report empty_main prepared.patch {} = [] := by
    unfold traced_report
    simp only [houtcome]
  have hgraph := prepared_graph hprepared
  rw [hpatch] at hpre_head htraced hgraph
  refine ⟨prepared, _, _, hprepared, hpatch, Option.some.inj hpre_head, ?_, hstatus⟩
  have hreport : replay_report {} empty_main (merge_patch (expanded_operations [merge_source] c)
      (transition_trace head [merge_source] c)) = [] := congrArg (· ++ []) htraced
  unfold replay_state
  rw [hreport]
  simp only [List.find?_nil, hgraph]
  rfl

def merged_store (ops : List GraphOperation) (trace : TransitionTrace) : ProjectStore :=
  { branched_store with main_files := [persisted (merge_patch ops trace) log_time] }

/-- The merge is committed, on a main that replays completely. -/
theorem merge_committed : ∃ ops trace, trace.pre_head = ⟨.main, 0, none⟩ ∧
    commit_branch_merge open_gates branched_store sample_merge merge_draft log_time
      = .ok (merged_store ops trace, merge_patch ops trace) ∧
    (merged_store ops trace).main.patches = [merge_patch ops trace] ∧
    (merged_store ops trace).main.state.replay_status = .complete := by
  obtain ⟨prepared, ops, trace, hprepared, hpatch, hhead, hreplay, hstatus⟩ := merge_prepared
  have hcontent : (persisted (merge_patch ops trace) log_time).content
      = .ok (merge_patch ops trace) := by
    have hcomplete : branch_merge_attribution_is_complete (merge_patch ops trace) = .ok () := by
      obtain ⟨⟩ := trace
      cases hhead
      rfl
    simp only [persisted, hcomplete]
  obtain ⟨hpatches, hstate⟩ : (merged_store ops trace).main.patches = [merge_patch ops trace] ∧
      (merged_store ops trace).main.state = _ :=
    main_replay_single rfl hcontent rfl rfl (by rw [hhead]) (by rw [hhead]) hreplay
  refine ⟨ops, trace, hhead, ?_, hpatches, by rw [hstate]; exact hstatus⟩
  exact append_locked_prepared rfl rfl rfl (by intro r hr; cases hr; rfl) (by decide) merge_sources
    rfl hprepared (by rw [hpatch]; rfl)

/-- The receipt of the commit. -/
def merge_receipt (trace : TransitionTrace) : BranchMergeReceipt where
  outcome := .committed
  provenance := branch_merge_provenance sample_merge
  result_main_head := { revision := 1, transition_id := some trace.transition_id }
  authorized_by := sample_merge.authorized_by
  created_at := merge_draft.created_at

def reconciled_store (ops : List GraphOperation) (trace : TransitionTrace) : ProjectStore :=
  { merged_store ops trace with
    branches := Dict.set (merged_store ops trace).branches "b" { sample_branch with
      merges := Dict.set sample_branch.merges (merge_receipt trace).provenance.merge_id
        (merge_receipt trace) } }

variable {ops : List GraphOperation} {trace : TransitionTrace}

theorem merge_receipt_id :
    (merge_receipt trace).provenance.merge_id = branch_merge_id sample_merge.metadata := rfl

theorem merge_receipt_source (hhead : trace.pre_head = ⟨.main, 0, none⟩)
    (hpatches : (merged_store ops trace).main.patches = [merge_patch ops trace])
    (hcomplete : (merged_store ops trace).main.state.replay_status = .complete) :
    validate_merge_receipt_source sample_branch.metadata (merge_receipt trace)
      ((merged_store ops trace).branch sample_branch) (merged_store ops trace).main = .ok () := by
  have htrace : (merge_patch ops trace).accepted_trace = some trace := rfl
  refine validate_merge_receipt_source_of rfl hcomplete ?_ rfl rfl rfl rfl rfl ?_
  · rw [hpatches]
    simp [accepted_transition_head_chain_failure, htrace, hhead]
  · rw [hpatches]
    rfl

theorem merge_receipt_derived
    (hpatches : (merged_store ops trace).main.patches = [merge_patch ops trace]) :
    derived_receipts (merged_store ops trace).main "b" (branch_merge_id sample_merge.metadata)
      = .ok [merge_receipt trace] := by
  have hreceipts : main_merge_receipts [] [merge_patch ops trace] = .ok [merge_receipt trace] := rfl
  have hsame : (merge_receipt trace).provenance.branch_id = "b" ∧
      (merge_receipt trace).provenance.merge_id = branch_merge_id sample_merge.metadata :=
    ⟨rfl, rfl⟩
  unfold derived_receipts
  rw [hpatches]
  refine except_bind_ok.mpr ⟨_, hreceipts, ?_⟩
  rw [List.filter_cons_of_pos (by simpa using hsame), List.filter_nil]
  rfl

theorem merge_reconciled (hhead : trace.pre_head = ⟨.main, 0, none⟩)
    (hpatches : (merged_store ops trace).main.patches = [merge_patch ops trace])
    (hcomplete : (merged_store ops trace).main.state.replay_status = .complete) :
    reconcile_merge_receipt open_gates (merged_store ops trace) "b"
        (branch_merge_id sample_merge.metadata)
      = .ok (reconciled_store ops trace, some (merge_receipt trace)) := by
  have hmerged : (merge_patch ops trace).merged = some (merge_receipt trace).provenance := rfl
  have hmatching : matching_merges (merged_store ops trace).main.patches
      (merge_receipt trace).provenance.merge_id = [merge_patch ops trace] := by
    rw [hpatches]
    exact matching_merges_single hmerged
  have hreceipt : committed_receipt (merge_receipt trace).provenance (merge_patch ops trace)
      = .ok (merge_receipt trace) := rfl
  have hfresh : Dict.get sample_branch.merges (merge_receipt trace).provenance.merge_id = none :=
    rfl
  have hbranch : Dict.get (merged_store ops trace).branches "b" = some sample_branch := rfl
  have hwrite : write_merge_receipt open_gates (merged_store ops trace) "b" (merge_receipt trace)
      = .ok (reconciled_store ops trace, merge_receipt trace) :=
    write_committed_receipt hbranch rfl rfl
      (merge_receipt_source hhead hpatches hcomplete) (merge_receipt_derived hpatches) hfresh
  rw [← merge_receipt_id]
  exact reconcile_committed (r := merge_receipt trace) (p := merge_patch ops trace) hbranch rfl
    hfresh hmatching rfl hreceipt hwrite

/-- Committed and reconciled, the branch of one Patch has one outcome. -/
theorem branch_merge_once : ∃ merged store p receipt,
    commit_branch_merge open_gates branched_store sample_merge merge_draft log_time
      = .ok (merged, p) ∧
    reconcile_merge_receipt open_gates merged "b" (branch_merge_id sample_merge.metadata)
      = .ok (store, some receipt) ∧
    main_merges store = [branch_merge_provenance sample_merge] ∧
    HasReceipt store "b" (branch_merge_id sample_merge.metadata) receipt ∧
    receipt.outcome = .committed ∧ MergedOnce store := by
  have hcreated : Environment { manifest := one_repository } branched_store := by
    refine ⟨⟨[], rfl, by simp⟩, fun id b hb => Or.inl ?_⟩
    simp only [branched_store, Dict.get_set] at hb
    split_ifs at hb
    · obtain rfl := Option.some.inj hb
      rfl
    · cases hb
  obtain ⟨ops, trace, hhead, hcommit, hpatches, hcomplete⟩ := merge_committed
  have hreconcile := merge_reconciled hhead hpatches hcomplete
  have hbranch : MergeStep open_gates { manifest := one_repository } branched_store :=
    .environment hcreated
  have hcommitted : MergeStep open_gates branched_store (merged_store ops trace) :=
    .commit sample_merge merge_draft log_time hcommit
  have hreconciled : MergeStep open_gates (merged_store ops trace) (reconciled_store ops trace) :=
    .reconcile "b" (branch_merge_id sample_merge.metadata) hreconcile
  have hrun : Relation.ReflTransGen (MergeStep open_gates) { manifest := one_repository }
      (reconciled_store ops trace) :=
    ((Relation.ReflTransGen.single hbranch).tail hcommitted).tail hreconciled
  have hreceipt : HasReceipt (reconciled_store ops trace) "b"
    (branch_merge_id sample_merge.metadata)
      (merge_receipt trace) :=
    ⟨_, by rw [reconciled_store, Dict.get_set, if_pos rfl],
      by rw [← merge_receipt_id, Dict.get_set, if_pos rfl]⟩
  have hmerges : main_merges (reconciled_store ops trace)
      = [branch_merge_provenance sample_merge] := by
    show main_merges (merged_store ops trace) = _
    rw [(main_merges_eq hcomplete).1, hpatches]
    rfl
  exact ⟨_, _, _, _, hcommit, hreconcile, hmerges, hreceipt, rfl,
    merged_once_reachable Value.digest_injective hrun⟩

end

end ResearchGraph
