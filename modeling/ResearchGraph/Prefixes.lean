import ResearchGraph.Halting
import ResearchGraph.Lib.Cut

/-! # The prefix a halted replay exposes

    When a log cannot be replayed to its end, the returned state should be the
    one of the Patches before the first failure.  The main log is cut there.  A
    branch is not: its failure is the first in the order of its checks, and the
    Patches it replays are all that could be decoded.
-/

namespace ResearchGraph

open Lib

section

variable {f g : PatchFile} {files : List PatchFile} {ps pre post : List Patch} {p : Patch} {r : Nat}
  {fail : PatchFile → UnreadablePatch → ReplayFailure} {failure : ReplayFailure}

/-! ### Decoded files -/

/-- Files in increasing order, each readable one carrying its own number. -/
structure Numbered (files : List PatchFile) : Prop where
  increasing : Increasing PatchFile.revision files
  own : ∀ f ∈ files, ∀ p, f.content = .ok p → p.revision = f.revision

theorem Numbered.left {files' : List PatchFile} (h : Numbered (files ++ files')) : Numbered files :=
  ⟨h.increasing.left, fun f hf => h.own f (by simp [hf])⟩

theorem Numbered.right {files' : List PatchFile} (h : Numbered (files ++ files')) :
    Numbered files' :=
  ⟨h.increasing.right, fun f hf => h.own f (by simp [hf])⟩

theorem Numbered.tail (h : Numbered (f :: files)) : Numbered files :=
  have h : Numbered ([f] ++ files) := h
  h.right

theorem decoded_mem (hp : p ∈ (decode_paths fail files).1) : ∃ f ∈ files, f.content = .ok p := by
  induction files with
  | nil => cases hp
  | cons f files ih =>
    unfold decode_paths at hp
    cases hf : f.content with
    | error e => simp [hf] at hp
    | ok q =>
      simp only [hf, List.mem_cons] at hp
      rcases hp with rfl | hp
      · exact ⟨f, by simp, hf⟩
      · obtain ⟨g, hg, hcontent⟩ := ih hp
        exact ⟨g, by simp [hg], hcontent⟩

theorem decoded_increasing (h : Numbered files) :
    Increasing Patch.revision (decode_paths fail files).1 := by
  induction files with
  | nil => exact List.Pairwise.nil
  | cons f files ih =>
    unfold decode_paths
    cases hf : f.content with
    | error e => exact List.Pairwise.nil
    | ok p =>
      refine List.pairwise_cons.mpr ⟨fun q hq => ?_, ih h.tail⟩
      obtain ⟨g, hg, hq⟩ := decoded_mem hq
      rw [h.own f (by simp) p hf, h.own g (by simp [hg]) q hq]
      exact (List.pairwise_cons.mp h.increasing).1 g hg

/-- Decoding the files below a bound gives the decoded Patches below it. -/
theorem decode_below (h : Numbered files) (r : Nat) :
    (decode_paths fail (files.filter (fun f => f.revision < r))).1
      = (decode_paths fail files).1.filter (fun p => p.revision < r) := by
  induction files with
  | nil => rfl
  | cons f files ih =>
    by_cases hlt : f.revision < r
    · simp only [List.filter_cons, hlt, decide_true, if_true, decode_paths]
      cases hf : f.content with
      | error e => rfl
      | ok p =>
        have hp : p.revision < r := by rw [h.own f (by simp) p hf]; exact hlt
        simp [hp, ih h.tail]
    · have habove : files.filter (fun f => f.revision < r) = [] := by
        refine List.filter_eq_nil_iff.mpr (fun g hg => ?_)
        have := (List.pairwise_cons.mp h.increasing).1 g hg
        simp only [decide_eq_true_eq]
        omega
      have hnone : (decode_paths fail (f :: files)).1.filter (fun p => p.revision < r) = [] := by
        refine List.filter_eq_nil_iff.mpr (fun p hp => ?_)
        obtain ⟨g, hg, hp⟩ := decoded_mem hp
        have hrevision := h.own g hg p hp
        have hge : f.revision ≤ g.revision := by
          rcases List.mem_cons.mp hg with rfl | hg
          · exact le_rfl
          · exact ((List.pairwise_cons.mp h.increasing).1 g hg).le
        simp only [decide_eq_true_eq]
        omega
      rw [hnone, List.filter_cons, if_neg (by simpa using hlt), habove]
      rfl

/-- An unreadable file comes after everything that was decoded. -/
theorem decoded_before (h : Numbered files) (hp : p ∈ (decode_paths fail files).1) (hg : g ∈ files)
    {e : UnreadablePatch} (he : g.content = .error e) : p.revision < g.revision := by
  induction files with
  | nil => cases hg
  | cons f files ih =>
    unfold decode_paths at hp
    cases hf : f.content with
    | error e' => simp [hf] at hp
    | ok q =>
      simp only [hf, List.mem_cons] at hp
      rcases List.mem_cons.mp hg with rfl | hg
      · rw [hf] at he
        cases he
      · rcases hp with rfl | hp
        · rw [h.own f (by simp) p hf]
          exact (List.pairwise_cons.mp h.increasing).1 g hg
        · exact ih h.tail hp hg

theorem decode_none_iff : (decode_paths fail files).2 = none ↔
    ∀ f ∈ files, f.content.isOk = true := by
  induction files with
  | nil => simp [decode_paths]
  | cons f files ih =>
    unfold decode_paths
    cases hf : f.content with
    | error e => simp [hf, Except.isOk, Except.toBool]
    | ok p => simp [hf, ih, Except.isOk, Except.toBool]

/-- The failure of decoding is the first unreadable file. -/
theorem decode_failure (h : Numbered files)
    (hfailure : (decode_paths fail files).2 = some failure) :
    ∃ f ∈ files, ∃ e, f.content = .error e ∧ failure = fail f e ∧
      ∀ g ∈ files, g.content.isOk = false → f.revision ≤ g.revision := by
  induction files with
  | nil => cases hfailure
  | cons f files ih =>
    unfold decode_paths at hfailure
    cases hf : f.content with
    | error e =>
      simp only [hf, Option.some.injEq] at hfailure
      refine ⟨f, by simp, e, hf, hfailure.symm, fun g hg _ => ?_⟩
      rcases List.mem_cons.mp hg with rfl | hg
      · exact le_rfl
      · exact ((List.pairwise_cons.mp h.increasing).1 g hg).le
    | ok p =>
      simp only [hf] at hfailure
      obtain ⟨g, hg, e, he, hfail, hfirst⟩ := ih h.tail hfailure
      refine ⟨g, by simp [hg], e, he, hfail, fun x hx hbad => ?_⟩
      rcases List.mem_cons.mp hx with rfl | hx
      · simp [hf, Except.isOk, Except.toBool] at hbad
      · exact hfirst x hx hbad

/-- Below a bound that no unreadable file is below, every file is decoded. -/
theorem decode_below_none (hr : ∀ g ∈ files, g.content.isOk = false → r ≤ g.revision) :
    (decode_paths fail (files.filter (fun f => f.revision < r))).2 = none := by
  refine decode_none_iff.mpr (fun f hf => ?_)
  obtain ⟨hmem, hlt⟩ := List.mem_filter.mp hf
  by_contra hbad
  have hge := hr f hmem (by simpa using hbad)
  have hlt : f.revision < r := by simpa using hlt
  omega

/-! ### Chains -/

variable {target : GraphTargetRef} {transition_id : Option String}

theorem chain_failure_append (hpre : accepted_transition_head_chain_failure target transition_id
      (pre ++ post) = none) :
    accepted_transition_head_chain_failure target transition_id pre = none := by
  induction pre generalizing transition_id with
  | nil => rfl
  | cons p pre ih =>
    simp only [List.cons_append, accepted_transition_head_chain_failure] at hpre ⊢
    split at hpre
    · exact ih hpre
    · split_ifs at hpre ⊢ with hbreak
      exact ih hpre

/-- The failure of a chain is the first Patch that breaks it. -/
theorem chain_failure_split
    (h : accepted_transition_head_chain_failure target transition_id ps = some failure) :
    ∃ pre p post, ps = pre ++ p :: post ∧ failure.revision = p.revision ∧
      accepted_transition_head_chain_failure target transition_id pre = none := by
  induction ps generalizing transition_id with
  | nil => cases h
  | cons p ps ih =>
    simp only [accepted_transition_head_chain_failure] at h
    split at h
    · next htrace =>
      obtain ⟨pre, q, post, rfl, hrevision, hpre⟩ := ih h
      refine ⟨p :: pre, q, post, rfl, hrevision, ?_⟩
      simpa only [accepted_transition_head_chain_failure, htrace] using hpre
    · next trace htrace =>
      split_ifs at h with hbreak
      · obtain rfl := Option.some.inj h
        exact ⟨[], p, ps, rfl, rfl, rfl⟩
      · obtain ⟨pre, q, post, rfl, hrevision, hpre⟩ := ih h
        refine ⟨p :: pre, q, post, rfl, hrevision, ?_⟩
        simpa only [accepted_transition_head_chain_failure, htrace, if_neg hbreak] using hpre

/-! ### The main log -/

/-- The part of a state that a halted replay has to expose as it was. -/
structure SameContents (s t : GraphState) : Prop where
  nodes : s.nodes = t.nodes
  edges : s.edges = t.edges
  proposals : s.proposals = t.proposals
  ontology : s.ontology = t.ontology
  revision : s.revision = t.revision

theorem SameContents.degrade (s : GraphState) (failure : ReplayFailure) :
    SameContents (s.degrade failure) s := ⟨rfl, rfl, rfl, rfl, rfl⟩

variable [TextLibrary] [Canonical] {m : Manifest}

/-- A Patch-level failure of the main log is the first one, and the state is that
    of the files below it. -/
def MainCoherent (m : Manifest) (files : List PatchFile) : Prop :=
  ∀ failure, (main_replay m files).state.replay_failure = some failure →
    (main_scope m files (decode_paths main_path_failure files).1).2 = none →
    let below := main_replay m (files.filter (fun f => f.revision < failure.revision))
    below.state.replay_status = .complete ∧ SameContents (main_replay m files).state below.state

omit [TextLibrary] [Canonical] in
theorem main_scope_none {patches : List Patch} (h : (main_scope m files patches).2 = none) :
    files = [] ∨ ∃ scope, m.scope_base = .scope scope := by
  unfold main_scope at h
  split at h
  · next scope hscope => exact Or.inr ⟨scope, hscope⟩
  · cases h
  · split_ifs at h with hempty
    exact Or.inl (List.isEmpty_iff.mp hempty)

/-- The files below a bound replay like the decoded Patches below it, as long as
    no unreadable file and no break of the chain is among them. -/
theorem main_replay_below {scope : List String} (hfiles : Numbered files)
    (hscope : m.scope_base = .scope scope)
    (hreadable : ∀ g ∈ files, g.content.isOk = false → r ≤ g.revision)
    (hchain : accepted_transition_head_chain_failure .main none
      ((decode_paths main_path_failure files).1.filter (fun p => p.revision < r)) = none) :
    (main_replay m (files.filter (fun f => f.revision < r))).state
      = (materialize_patches m.settings scope
        ((decode_paths main_path_failure files).1.filter (fun p => p.revision < r))).state := by
  simp only [main_replay, decode_below hfiles, decode_below_none hreadable, hchain, main_scope,
    hscope, Option.isSome_none, Bool.false_eq_true, if_false, chain_prefix_of, earliest_failure,
    Option.or_none, degrade_complete]

omit [TextLibrary] [Canonical] in
/-- The chain holds on the Patches that are replayed, and they are all, or all up
    to the one that breaks it. -/
theorem chain_prefix_split {D : List Patch} (hD : Increasing Patch.revision D)
    {cf : Option ReplayFailure} (hcf : accepted_transition_head_chain_failure .main none D = cf) :
    accepted_transition_head_chain_failure .main none (chain_prefix_of D cf) = none ∧
      ((cf = none ∧ chain_prefix_of D cf = D) ∨ ∃ c p post, cf = some c ∧ c.revision = p.revision ∧
        D = chain_prefix_of D cf ++ p :: post) := by
  cases cf with
  | none => exact ⟨hcf, Or.inl ⟨rfl, rfl⟩⟩
  | some c =>
    obtain ⟨pre, p, post, rfl, hrevision, hpre⟩ := chain_failure_split hcf
    have hreplayed : chain_prefix_of (pre ++ p :: post) (some c) = pre := by
      simp only [chain_prefix_of, hrevision]
      exact hD.takeWhile_ne
    rw [hreplayed]
    exact ⟨hpre, Or.inr ⟨c, p, post, rfl, hrevision, rfl⟩⟩

omit [TextLibrary] [Canonical] in
/-- A break of the chain comes before an unreadable file. -/
theorem earliest_chain (hfiles : Numbered files) (hp : p ∈ (decode_paths main_path_failure files).1)
    {c : ReplayFailure} (hc : c.revision = p.revision) :
    earliest_failure (decode_paths main_path_failure files).2 (some c) = some c := by
  cases hdecode : (decode_paths main_path_failure files).2 with
  | none => rfl
  | some d =>
    obtain ⟨g, hg, e, he, rfl, -⟩ := decode_failure hfiles hdecode
    have hlt : c.revision < g.revision := hc ▸ decoded_before hfiles hp hg he
    exact if_pos hlt

omit [TextLibrary] [Canonical] in
theorem readable_from (hfiles : Numbered files) (hp : p ∈ (decode_paths fail files).1) :
    ∀ g ∈ files, g.content.isOk = false → p.revision ≤ g.revision := by
  intro g hg hbad
  cases he : g.content with
  | ok q => simp [he, Except.isOk, Except.toBool] at hbad
  | error e => exact (decoded_before hfiles hp hg he).le

/-- What is left to show once the cut is known. -/
theorem coherent_of_cut {scope : List String} {a : Materialization} (hfiles : Numbered files)
    (hscope : m.scope_base = .scope scope)
    (hcut : (decode_paths main_path_failure files).1.filter (fun p => p.revision < failure.revision)
      = pre)
    (hreadable : ∀ g ∈ files, g.content.isOk = false → failure.revision ≤ g.revision)
    (hpre : accepted_transition_head_chain_failure .main none pre = none)
    (hrun : replay_run m.settings scope pre = .ok a)
    (hstate : (main_replay m files).state = a.state.degrade failure) :
    (main_replay m (files.filter (fun f => f.revision < failure.revision))).state.replay_status
        = .complete ∧
      SameContents (main_replay m files).state
        (main_replay m (files.filter (fun f => f.revision < failure.revision))).state := by
  have hbelow := main_replay_below hfiles hscope hreadable (by rw [hcut]; exact hpre)
  rw [hcut, complete_state hrun] at hbelow
  rw [hbelow, hstate]
  exact ⟨(complete_failure hrun).1, .degrade _ _⟩

theorem main_coherent (hfiles : Numbered files) : MainCoherent m files := by
  intro failure hfailure hnone
  rcases main_scope_none hnone with rfl | ⟨scope, hscope⟩
  · -- an empty log has no failure
    have hnone : (main_scope m [] []).2 = none := hnone
    have hstate : (main_replay m []).state = initial_state (main_scope m [] []).1 := by
      simp [main_replay, hnone, decode_paths, accepted_transition_head_chain_failure,
        chain_prefix_of, earliest_failure, degrade_complete, materialize_patches, outcome,
        pure, Except.pure]
    rw [hstate] at hfailure
    cases hfailure
  have hD : Increasing Patch.revision (decode_paths main_path_failure files).1 :=
    decoded_increasing hfiles
  obtain ⟨cf, hcf⟩ : ∃ cf, accepted_transition_head_chain_failure .main none
    (decode_paths main_path_failure files).1 = cf := ⟨_, rfl⟩
  obtain ⟨hchain, hreplayed⟩ := chain_prefix_split hD hcf
  have hstate : (main_replay m files).state = degrade_complete (materialize_patches m.settings scope
      (chain_prefix_of (decode_paths main_path_failure files).1 cf)).state
      (earliest_failure (decode_paths main_path_failure files).2 cf) := by
    simp [main_replay, main_scope, hscope, hcf]
  generalize hP : chain_prefix_of (decode_paths main_path_failure files).1 cf = P at *
  by_cases hcomplete : (materialize_patches m.settings scope P).state.replay_status = .complete
  · obtain ⟨a, ha⟩ := complete_iff.mp hcomplete
    rw [complete_state ha] at hstate
    have hmin : earliest_failure (decode_paths main_path_failure files).2 cf = some failure := by
      cases hmin : earliest_failure (decode_paths main_path_failure files).2 cf with
      | none =>
        rw [hmin, degrade_complete] at hstate
        rw [hstate, (complete_failure ha).2] at hfailure
        cases hfailure
      | some f =>
        rw [hmin, degrade_complete, if_pos (complete_failure ha).1] at hstate
        rw [hstate] at hfailure
        exact hfailure
    rw [hmin, degrade_complete, if_pos (complete_failure ha).1] at hstate
    rcases hreplayed with ⟨rfl, rfl⟩ | ⟨c, p, post, rfl, hrevision, hsplit⟩
    · -- every decoded Patch is replayed, and the next file is unreadable
      have hdecode : (decode_paths main_path_failure files).2 = some failure := by
        cases hd : (decode_paths main_path_failure files).2 with
        | none => simp [hd, earliest_failure] at hmin
        | some d => simpa [hd, earliest_failure] using hmin
      obtain ⟨g, hg, e, he, rfl, hfirst⟩ := decode_failure hfiles hdecode
      refine coherent_of_cut hfiles hscope ?_ hfirst hchain ha hstate
      exact List.filter_eq_self.mpr (fun p hp =>
        decide_eq_true (decoded_before hfiles hp hg he))
    · -- the log is cut where the chain breaks
      have hp : p ∈ (decode_paths main_path_failure files).1 := by rw [hsplit]; simp
      rw [earliest_chain hfiles hp hrevision] at hmin
      obtain rfl := Option.some.inj hmin
      refine coherent_of_cut hfiles hscope ?_ ?_ hchain ha hstate
      · rw [hsplit, hrevision]
        rw [hsplit] at hD
        exact hD.filter_lt
      · rw [hrevision]
        exact readable_from hfiles hp
  · -- replay itself stopped before the cut
    have hsame : (main_replay m files).state = (materialize_patches m.settings scope P).state := by
      rw [hstate]
      cases earliest_failure (decode_paths main_path_failure files).2 cf with
      | none => rfl
      | some f => exact if_neg hcomplete
    rw [hsame] at hfailure
    obtain ⟨pre, x, post, a, hsplit, ha, hrevision, hresult⟩ := halted_iff hfailure
    obtain ⟨rest, hrest⟩ : ∃ rest, (decode_paths main_path_failure files).1 = P ++ rest := by
      rcases hreplayed with ⟨-, h⟩ | ⟨c, p, post, -, -, h⟩
      · exact ⟨[], by simp [h]⟩
      · exact ⟨p :: post, h⟩
    rw [hsplit, List.append_assoc, List.cons_append] at hrest
    have hx : x ∈ (decode_paths main_path_failure files).1 := by rw [hrest]; simp
    refine coherent_of_cut hfiles hscope ?_ ?_ ?_ ha (hsame.trans hresult)
    · rw [hrest, hrevision]
      rw [hrest] at hD
      exact hD.filter_lt
    · rw [hrevision]
      exact readable_from hfiles hx
    · rw [hsplit] at hchain
      exact chain_failure_append hchain

/-! ### Structural failures of a branch -/

variable {start : Nat}

omit [TextLibrary] [Canonical] in
theorem sequence_ge {zs : List (PatchFile × Patch)}
    (h : validate_revision_sequence start zs = some failure) : start ≤ failure.revision := by
  induction zs generalizing start with
  | nil => cases h
  | cons z zs ih =>
    simp only [validate_revision_sequence] at h
    split_ifs at h
    · obtain rfl := Option.some.inj h
      exact le_rfl
    · have hle := ih h
      omega

omit [TextLibrary] [Canonical] in
/-- The numbering fails at some file, or at most `k` behind it when it may start `k`
    behind the files. -/
theorem sequence_le {k : Nat} {zs : List (PatchFile × Patch)}
    (hincreasing : Increasing (fun z : PatchFile × Patch => z.1.revision) zs)
    (hstart : ∀ z ∈ zs, start ≤ z.1.revision + k)
    (h : validate_revision_sequence start zs = some failure) :
    ∃ z ∈ zs, failure.revision ≤ z.1.revision + k := by
  induction zs generalizing start with
  | nil => cases h
  | cons z zs ih =>
    obtain ⟨hz, hzs⟩ := List.pairwise_cons.mp hincreasing
    simp only [validate_revision_sequence] at h
    split_ifs at h with hmatch
    · obtain rfl := Option.some.inj h
      exact ⟨z, by simp, hstart z (by simp)⟩
    · have hnumber : z.1.revision = start := by
        by_contra hne
        exact hmatch (Or.inl hne)
      have hnext : ∀ y ∈ zs, start + 1 ≤ y.1.revision + k := by
        intro y hy
        have hlt : z.1.revision < y.1.revision := hz y hy
        omega
      obtain ⟨y, hy, hbound⟩ := ih hzs hnext h
      exact ⟨y, by simp [hy], hbound⟩

omit [TextLibrary] [Canonical] in
theorem sequence_numbers {zs : List (PatchFile × Patch)}
    (h : validate_revision_sequence start zs = none) : ∀ z ∈ zs, start ≤ z.1.revision := by
  induction zs generalizing start with
  | nil => simp
  | cons z zs ih =>
    simp only [validate_revision_sequence] at h
    split_ifs at h with hmatch
    intro y hy
    rcases List.mem_cons.mp hy with rfl | hy
    · by_contra hlt
      exact hmatch (Or.inl (by omega))
    · have hle := ih h y hy
      omega

omit [TextLibrary] [Canonical] in
theorem sequence_append {zs ys : List (PatchFile × Patch)}
    (h : validate_revision_sequence start (zs ++ ys) = none) :
    validate_revision_sequence start zs = none := by
  induction zs generalizing start with
  | nil => rfl
  | cons z zs ih =>
    simp only [List.cons_append, validate_revision_sequence] at h ⊢
    split_ifs at h ⊢
    exact ih h

omit [TextLibrary] [Canonical] in
theorem zip_increasing (hfiles : Numbered files) (ps : List Patch) :
    Increasing (fun z : PatchFile × Patch => z.1.revision) (files.zip ps) := by
  induction files generalizing ps with
  | nil => exact List.Pairwise.nil
  | cons f files ih =>
    cases ps with
    | nil => exact List.Pairwise.nil
    | cons p ps =>
      refine List.pairwise_cons.mpr ⟨fun z hz => ?_, ih hfiles.tail ps⟩
      exact (List.pairwise_cons.mp hfiles.increasing).1 z.1 (List.of_mem_zip hz).1

omit [TextLibrary] [Canonical] in
theorem decoded_length (h : (decode_paths fail files).2 = none) :
    (decode_paths fail files).1.length = files.length := by
  induction files with
  | nil => rfl
  | cons f files ih =>
    unfold decode_paths at h ⊢
    cases hf : f.content with
    | error e => simp [hf] at h
    | ok p =>
      simp only [hf] at h ⊢
      simp [ih h]

omit [TextLibrary] [Canonical] in
theorem mem_zip_decoded (h : (decode_paths fail files).2 = none) (hf : f ∈ files) :
    ∃ p, (f, p) ∈ files.zip (decode_paths fail files).1 := by
  obtain ⟨i, hi, rfl⟩ := List.getElem_of_mem hf
  have hlength := decoded_length h
  have hi' : i < (files.zip (decode_paths fail files).1).length := by simp; omega
  refine ⟨(decode_paths fail files).1[i], ?_⟩
  have hmem := List.getElem_mem hi'
  simpa using hmem

omit [TextLibrary] [Canonical] in
/-- A structural failure is an unreadable file, or it lies from the start on and no
    later than right behind some file. -/
theorem structural_bounds (hfiles : Numbered files)
    (h : structural_failure files start target transition_id = some failure) :
    (∃ f ∈ files, ∃ e, f.content = .error e ∧ failure.revision = f.revision) ∨
      (start ≤ failure.revision ∧ ((∀ f ∈ files, start ≤ f.revision + 1) →
        ∃ f ∈ files, failure.revision ≤ f.revision + 1)) := by
  unfold structural_failure at h
  rcases Option.or_eq_some_iff.mp h with hdecode | ⟨hdecode, h⟩
  · obtain ⟨f, hf, e, he, rfl, -⟩ := decode_failure hfiles hdecode
    exact Or.inl ⟨f, hf, e, he, rfl⟩
  right
  rcases Option.or_eq_some_iff.mp h with hsequence | ⟨hsequence, hchain⟩
  · refine ⟨sequence_ge hsequence, fun hstart => ?_⟩
    have hmem {z : PatchFile × Patch} (hz : z ∈ files.zip (decode_paths path_failure files).1) :
        z.1 ∈ files := (List.of_mem_zip hz).1
    obtain ⟨z, hz, hbound⟩ := sequence_le (zip_increasing hfiles _)
      (fun z hz => hstart z.1 (hmem hz)) hsequence
    exact ⟨z.1, hmem hz, hbound⟩
  · obtain ⟨pre, p, post, hsplit, hrevision, -⟩ := chain_failure_split hchain
    have hp : p ∈ (decode_paths path_failure files).1 := by rw [hsplit]; simp
    obtain ⟨f, hf, hcontent⟩ := decoded_mem hp
    have hown := hfiles.own f hf p hcontent
    obtain ⟨q, hq⟩ := mem_zip_decoded hdecode hf
    have hge := sequence_numbers hsequence (f, q) hq
    simp only at hge
    exact ⟨by omega, fun _ => ⟨f, hf, by omega⟩⟩

omit [TextLibrary] [Canonical] in
/-- Sound files are sound below every bound. -/
theorem structural_below (hfiles : Numbered files) (r : Nat)
    (h : structural_failure files start target transition_id = none) :
    structural_failure (files.filter (fun f => f.revision < r)) start target transition_id
      = none := by
  unfold structural_failure at h ⊢
  simp only [Option.or_eq_none_iff] at h ⊢
  obtain ⟨hdecode, hsequence, hchain⟩ := h
  have hbelow : (decode_paths path_failure (files.filter (fun f => f.revision < r))).2 = none := by
    refine decode_none_iff.mpr (fun f hf => ?_)
    exact decode_none_iff.mp hdecode f (List.mem_filter.mp hf).1
  have hlength := decoded_length hbelow
  have hincreasing : Increasing Patch.revision (decode_paths path_failure files).1 :=
    decoded_increasing hfiles
  rw [decode_below hfiles] at hlength ⊢
  refine ⟨hbelow, ?_, ?_⟩
  · generalize (decode_paths path_failure files).1 = D at *
    rw [← hfiles.increasing.cut r, ← hincreasing.cut r, List.zip_append hlength.symm] at hsequence
    exact sequence_append hsequence
  · rw [← hincreasing.cut r] at hchain
    exact chain_failure_append hchain

omit [TextLibrary] [Canonical] in
/-- A structural failure at revision zero leaves nothing decoded. -/
theorem structural_zero (hfiles : Numbered files) (hstart : 0 < start)
    (h : structural_failure files start target transition_id = some failure)
    (hzero : failure.revision = 0) : (decode_paths path_failure files).1 = [] := by
  rcases structural_bounds hfiles h with ⟨f, hf, e, he, hrevision⟩ | ⟨hge, -⟩
  · refine List.eq_nil_iff_forall_not_mem.mpr (fun p hp => ?_)
    have hlt := decoded_before hfiles hp hf he
    omega
  · omega

/-! ### The contents of a cut replay -/

variable (settings : ValidationSettings) (scope : List String) {D : List Patch}

/-- Replay past a bound leaves the contents below it exactly when it refuses the
    first Patch from the bound on. -/
theorem contents_iff (hD : Increasing Patch.revision D) (hpre : ∀ p ∈ pre, p.revision < r)
    (hzero : r = 0 → D = []) (failure : ReplayFailure)
    (hcomplete : (materialize_patches settings scope
      (pre ++ D.filter (fun p => p.revision < r))).state.replay_status = .complete) :
    SameContents ((materialize_patches settings scope (pre ++ D)).state.degrade failure)
        (materialize_patches settings scope (pre ++ D.filter (fun p => p.revision < r))).state ↔
      ∀ p, (D.filter (fun p => r ≤ p.revision)).head? = some p →
        (materialize_patches settings scope
          (pre ++ D.filter (fun p => p.revision < r) ++ [p])).state.replay_status ≠ .complete := by
  have hcut := hD.cut r
  obtain ⟨a, ha⟩ := complete_iff.mp hcomplete
  rw [complete_state ha]
  cases habove : D.filter (fun p => r ≤ p.revision) with
  | nil =>
    rw [habove, List.append_nil] at hcut
    rw [hcut] at ha ⊢
    rw [complete_state ha]
    exact ⟨by simp, fun _ => .degrade _ _⟩
  | cons p qs =>
    rw [habove] at hcut
    have hp : r ≤ p.revision := by
      have hmem : p ∈ D.filter (fun p => r ≤ p.revision) := by rw [habove]; simp
      simpa using (List.mem_filter.mp hmem).2
    have hpos : 0 < r := by
      by_contra hr
      rw [hzero (by omega)] at habove
      cases habove
    have hbelow : a.state.revision < r := by
      refine run_revision_lt ha hpos (fun q hq => ?_)
      rcases List.mem_append.mp hq with hq | hq
      · exact hpre q hq
      · simpa using (List.mem_filter.mp hq).2
    have hsplit : pre ++ D = pre ++ D.filter (fun p => p.revision < r) ++ p :: qs := by
      rw [List.append_assoc, hcut]
    rw [hsplit]
    simp only [List.head?_cons, Option.some.injEq, forall_eq']
    constructor
    -- past the cut the revision would be that of a later patch
    · intro hsame hpast
      have hge := revision_past hpast qs
      have hrevision := hsame.revision
      simp only [GraphState.degrade] at hrevision
      omega
    -- and a replay that halts there changes nothing but its status
    · intro hstop
      obtain ⟨failure', hstate⟩ := halted_after ha hstop qs
      rw [hstate]
      exact ⟨rfl, rfl, rfl, rfl, rfl⟩

end

end ResearchGraph
