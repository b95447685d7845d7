import ResearchGraph.FailureOrder
import ResearchGraph.Reference

/-! # Halted branches

    A branch replays its base and its own files.  Decoding, numbering and the chain
    of heads are checked first, but what they find does not cut the list that is
    replayed: the state goes as far as replay itself gets, under the failure of
    the first check.  That is the state of the Patches before the failure exactly
    when the checks fail in the order in which they are made.
-/

namespace ResearchGraph

open Lib

section

variable [TextLibrary] [Canonical] {m : Manifest} {b : GraphBranchMetadata}
  {main_files branch_files : List PatchFile}

/-- Replay of what a branch can read below a revision. -/
def branch_below (m : Manifest) (b : GraphBranchMetadata) (main_files branch_files : List PatchFile)
    (r : Nat) : GraphState :=
  let base := (base_paths b main_files).filter (fun f => f.revision < r)
  let tail := branch_files.filter (fun f => f.revision < r)
  (materialize_patches m.settings (branch_scope m b).1
    ((decode_paths path_failure base).1 ++ (decode_paths path_failure tail).1)).state

/-- The failure of a branch is the first one, and the state is that of the files
    below it. -/
def BranchCoherent (m : Manifest) (b : GraphBranchMetadata)
    (main_files branch_files : List PatchFile) : Prop :=
  ∀ failure, (branch_replay m b main_files branch_files).state.replay_failure = some failure →
    let base := (base_paths b main_files).filter (fun f => f.revision < failure.revision)
    let tail := branch_files.filter (fun f => f.revision < failure.revision)
    let below := branch_below m b main_files branch_files failure.revision
    structural_failure base 1 .main none = none ∧
      structural_failure tail (b.base_head.revision + 1) (.branch b.branch_id)
        b.base_head.transition_id = none ∧
      below.replay_status = .complete ∧
      SameContents (branch_replay m b main_files branch_files).state below

/-- The failures of a branch are about its Patches: its scope is recorded, and its
    base, when the files are sound, is the one it names. -/
structure PatchLevel (m : Manifest) (b : GraphBranchMetadata) (main_files : List PatchFile) :
    Prop where
  scope : (branch_scope m b).2 = none
  base : structural_failure (base_paths b main_files) 1 .main none = none →
    base_mismatch m b main_files = none

/-- Nothing below a structural failure fails another check, and replay refuses the
    Patch at which the numbering or the chain breaks. -/
def StopsAtFailure (settings : ValidationSettings) (scope : List String) (pre : List Patch)
    (files : List PatchFile) (start : Nat) (target : GraphTargetRef)
    (transition_id : Option String) : Prop :=
  ∀ failure, structural_failure files start target transition_id = some failure →
    let below := files.filter (fun f => f.revision < failure.revision)
    let replayed := pre ++ (decode_paths path_failure below).1
    let above := (decode_paths path_failure files).1.filter (fun p => failure.revision ≤ p.revision)
    structural_failure below start target transition_id = none ∧
      (materialize_patches settings scope replayed).state.replay_status = .complete ∧
      ∀ p, above.head? = some p →
        (materialize_patches settings scope (replayed ++ [p])).state.replay_status ≠ .complete

/-- A structural failure is coherent exactly when replay stops at it. -/
theorem stops_iff {settings : ValidationSettings} {scope : List String} {pre : List Patch}
    {files : List PatchFile} {start : Nat} {target : GraphTargetRef} {transition_id : Option String}
    {failure : ReplayFailure} (hfiles : Numbered files) (hstart : 0 < start)
    (hfailure : structural_failure files start target transition_id = some failure)
    (hpre : ∀ p ∈ pre, p.revision < failure.revision) :
    let below := files.filter (fun f => f.revision < failure.revision)
    let replayed := pre ++ (decode_paths path_failure below).1
    (structural_failure below start target transition_id = none ∧
        (materialize_patches settings scope replayed).state.replay_status = .complete ∧
        SameContents ((materialize_patches settings scope
            (pre ++ (decode_paths path_failure files).1)).state.degrade failure)
          (materialize_patches settings scope replayed).state) ↔
      StopsAtFailure settings scope pre files start target transition_id := by
  intro below replayed
  have hD : Increasing Patch.revision (decode_paths path_failure files).1 :=
    decoded_increasing hfiles
  have hreplayed : replayed = pre ++ (decode_paths path_failure files).1.filter
      (fun p => p.revision < failure.revision) := by
    simp only [replayed, below, decode_below hfiles]
  have hcontents (hcomplete : (materialize_patches settings scope replayed).state.replay_status
      = .complete) := by
    rw [hreplayed] at hcomplete
    exact contents_iff settings scope hD hpre
      (structural_zero hfiles hstart hfailure) failure hcomplete
  rw [← hreplayed] at hcontents
  constructor
  · rintro ⟨hsound, hcomplete, hsame⟩ failure' hfailure'
    obtain rfl : failure = failure' := by
      rw [hfailure] at hfailure'
      exact Option.some.inj hfailure'
    exact ⟨hsound, hcomplete, (hcontents hcomplete).mp hsame⟩
  · intro hstops
    obtain ⟨hsound, hcomplete, hnext⟩ := hstops failure hfailure
    exact ⟨hsound, hcomplete, (hcontents hcomplete).mpr hnext⟩

/-! ### Which check fails first -/

omit [TextLibrary] [Canonical] in
theorem Numbered.filter {files : List PatchFile} (h : Numbered files) (p : PatchFile → Bool) :
    Numbered (files.filter p) :=
  ⟨h.increasing.filter p, fun f hf => h.own f (List.mem_filter.mp hf).1⟩

section

variable {settings : ValidationSettings} {scope : List String} {pre : List Patch}
  {files : List PatchFile} {start r : Nat} {target : GraphTargetRef} {transition_id : Option String}
  {failure : ReplayFailure}

omit [TextLibrary] [Canonical] in
theorem structural_none (hfiles : Numbered files) :
    structural_failure files start target transition_id = none ↔ unreadable_at files = none ∧
      missing_at start (readable files) = none ∧
      head_break_at target transition_id (readable files) = none := by
  simp only [structural_failure, Option.or_eq_none_iff, ← unreadable_at_none]
  refine and_congr_right (fun hread => ?_)
  have hsequence := sequence_missing start hfiles hread
  rw [readable] at hsequence
  rw [head_break_at, Option.map_eq_none_iff, readable,
    ← Option.map_eq_none_iff (f := ReplayFailure.revision), hsequence, Option.map_eq_none_iff]

omit [TextLibrary] [Canonical] in
theorem readable_below (hfiles : Numbered files) :
    readable (files.filter (fun f => f.revision < r))
      = (readable files).filter (fun p => p.revision < r) := decode_below hfiles r

/-- Where a structural failure is known, replay stops at it when no other check fails
    below it and the first Patch from there on is refused. -/
theorem stops_at (hfiles : Numbered files)
    (hfailure : structural_failure files start target transition_id = some failure)
    (hread : ∀ g ∈ files, g.content.isOk = false → failure.revision ≤ g.revision) :
    StopsAtFailure settings scope pre files start target transition_id ↔
      let below := (readable files).filter (fun p => p.revision < failure.revision)
      missing_at start below = none ∧ head_break_at target transition_id below = none ∧
        refused_at settings (initial_state scope) (pre ++ below) = none ∧
        ∀ p, ((readable files).filter (fun p => failure.revision ≤ p.revision)).head? = some p →
          refused_at settings (initial_state scope) (pre ++ below ++ [p]) ≠ none := by
  have hbelow : unreadable_at (files.filter (fun f => f.revision < failure.revision)) = none :=
    unreadable_at_none.mpr (decode_below_none hread)
  have hall : StopsAtFailure settings scope pre files start target transition_id ↔
      structural_failure (files.filter (fun f => f.revision < failure.revision)) start target
          transition_id = none ∧
        (materialize_patches settings scope (pre ++ (decode_paths path_failure
          (files.filter (fun f => f.revision < failure.revision))).1)).state.replay_status
            = .complete ∧
        ∀ p, ((decode_paths path_failure files).1.filter
            (fun p => failure.revision ≤ p.revision)).head? = some p →
          (materialize_patches settings scope (pre ++ (decode_paths path_failure
            (files.filter (fun f => f.revision < failure.revision))).1 ++ [p])).state.replay_status
            ≠ .complete := by
    constructor
    · exact fun h => h failure hfailure
    · intro h failure' hfailure'
      obtain rfl : failure = failure' := Option.some.inj (hfailure.symm.trans hfailure')
      exact h
  rw [hall, structural_none (hfiles.filter _), readable_below hfiles]
  simp only [hbelow, true_and, ne_eq, complete_refused, decode_below hfiles, and_assoc, readable]

/-- An unreadable file: everything that was decoded stands before it. -/
theorem stops_unreadable (hfiles : Numbered files) {u : Nat} (hu : unreadable_at files = some u) :
    StopsAtFailure settings scope pre files start target transition_id ↔
      HaltsInOrder settings scope pre files start target transition_id := by
  obtain ⟨failure, hdecode, rfl⟩ : ∃ failure, (decode_paths path_failure files).2 = some failure ∧
      failure.revision = u := Option.map_eq_some_iff.mp (decode_unreadable.trans hu)
  have hfailure : structural_failure files start target transition_id = some failure := by
    simp [structural_failure, hdecode]
  obtain ⟨f, hf, e, he, hrevision, hfirst⟩ := decode_failure hfiles hdecode
  have hread : ∀ g ∈ files, g.content.isOk = false → failure.revision ≤ g.revision := by
    rw [hrevision]
    exact hfirst
  have hbefore : ∀ p ∈ readable files, p.revision < failure.revision := by
    intro p hp
    rw [hrevision]
    exact decoded_before hfiles hp hf he
  have hbelow : (readable files).filter (fun p => p.revision < failure.revision) = readable files :=
    List.filter_eq_self.mpr (fun p hp => decide_eq_true (hbefore p hp))
  have habove : (readable files).filter (fun p => failure.revision ≤ p.revision) = [] := by
    refine List.filter_eq_nil_iff.mpr (fun p hp => ?_)
    have hlt := hbefore p hp
    simp only [decide_eq_true_eq]
    omega
  rw [stops_at hfiles hfailure hread]
  simp [HaltsInOrder, hu, hbelow, habove]

/-- A missing number: the Patch found instead is refused unless admission rejected it. -/
theorem stops_missing (hfiles : Numbered files) (hstart : 0 < start)
    (hpre : ∀ p ∈ pre, p.revision < start)
    (hreplayed : refused_at settings (initial_state scope) pre = none)
    (hread : unreadable_at files = none) {n : Nat} {p : Patch}
    (hmissing : missing_at start (readable files) = some (n, p)) :
    StopsAtFailure settings scope pre files start target transition_id ↔
      HaltsInOrder settings scope pre files start target transition_id := by
  have hsequence := sequence_missing start hfiles hread
  rw [hmissing, Option.map_some] at hsequence
  obtain ⟨failure, hgap, hrevision⟩ := Option.map_eq_some_iff.mp hsequence
  have hdecode := unreadable_at_none.mp hread
  have hfailure : structural_failure files start target transition_id = some failure := by
    rw [readable] at hgap
    simp [structural_failure, hdecode, hgap]
  have hincreasing : Increasing Patch.revision (readable files) := decoded_increasing hfiles
  obtain ⟨hbelow, hother, hfound⟩ := missing_below hincreasing hmissing
  have hstarted := missing_ge hmissing
  have hrefused := refused_stops (m := { state := initial_state scope }) hreplayed
  obtain rfl : failure.revision = n := hrevision
  rw [stops_at hfiles hfailure (fun g hg hbad => ?_)]
  · simp only [HaltsInOrder, hread, hmissing, hbelow]
    rw [head_break_stops.below hincreasing, hrefused.below hincreasing]
    -- with nothing refused below, replay arrives below the missing number
    have hfinal (hbefore : failure.revision ≤ p.revision)
        (hnone : refused_at settings (initial_state scope)
          (pre ++ (readable files).filter (fun p => p.revision < failure.revision)) = none) :
        (∀ q, ((readable files).filter (fun p => failure.revision ≤ p.revision)).head? = some q →
          refused_at settings (initial_state scope) (pre ++ (readable files).filter
            (fun p => p.revision < failure.revision) ++ [q]) ≠ none) ↔ p.admission = .accepted := by
      obtain ⟨m', hrun⟩ := (refused_none_iff (m := { state := initial_state scope })).mp hnone
      have hlt : m'.state.revision < failure.revision := by
        refine run_revision_lt hrun (by simp only [initial_state]; omega) (fun q hq => ?_)
        rcases List.mem_append.mp hq with hq | hq
        · exact (hpre q hq).trans_le hstarted
        · simpa using (List.mem_filter.mp hq).2
      rw [hfound hbefore]
      simp only [Option.some.injEq, forall_eq']
      rw [refused_append (m := { state := initial_state scope }) hrun, refused_cons]
      cases hadmission : p.admission with
      | accepted =>
        obtain ⟨m'', hstop⟩ := refused_of_gap settings m' hadmission
          (by omega) (by omega)
        simp [hstop]
      | rejected => simp [replay_patch, hadmission, refused_at]
    constructor
    · rintro ⟨hbefore, hheads, hnone, hnext⟩
      exact ⟨hbefore, (hfinal hbefore (hrefused.below hincreasing |>.mpr hnone)).mp hnext, hheads,
        hnone⟩
    · rintro ⟨hbefore, hadmission, hheads, hnone⟩
      exact ⟨hbefore, hheads, hnone,
        (hfinal hbefore (hrefused.below hincreasing |>.mpr hnone)).mpr hadmission⟩
  · have hok := decode_none_iff.mp hdecode g hg
    rw [hok] at hbad
    cases hbad

/-- A head that is not continued: the Patch has to be the first that replay refuses. -/
theorem stops_broken (hfiles : Numbered files)
    (hreplayed : refused_at settings (initial_state scope) pre = none)
    (hread : unreadable_at files = none) (hmissing : missing_at start (readable files) = none) :
    StopsAtFailure settings scope pre files start target transition_id ↔
      HaltsInOrder settings scope pre files start target transition_id := by
  have hdecode := unreadable_at_none.mp hread
  have hsequence := sequence_missing start hfiles hread
  rw [hmissing, Option.map_none, Option.map_eq_none_iff, readable] at hsequence
  simp only [HaltsInOrder, hread, hmissing]
  cases hchain : accepted_transition_head_chain_failure target transition_id (readable files) with
  | none =>
    have hnone : structural_failure files start target transition_id = none := by
      rw [readable] at hchain
      simp [structural_failure, hdecode, hsequence, hchain]
    refine iff_of_true (fun failure hfailure => ?_) (by simp [head_break_at, hchain])
    rw [hnone] at hfailure
    cases hfailure
  | some failure =>
    have hfailure : structural_failure files start target transition_id = some failure := by
      rw [readable] at hchain
      simp [structural_failure, hdecode, hsequence, hchain]
    have hincreasing : Increasing Patch.revision (readable files) := decoded_increasing hfiles
    have hrefused := refused_stops (m := { state := initial_state scope }) hreplayed
    -- the patches before the broken one are exactly those of a smaller revision
    obtain ⟨a, x, b, hsplit, hrevision, hbefore⟩ := chain_failure_split hchain
    rw [stops_at hfiles hfailure (fun g hg hbad => ?_)]
    · have hbelow : (readable files).filter (fun p => p.revision < failure.revision) = a := by
        rw [hsplit, hrevision]
        exact (hsplit ▸ hincreasing).filter_lt
      have hcut := hincreasing.cut failure.revision
      have habove : (readable files).filter (fun p => failure.revision ≤ p.revision) = x :: b := by
        rw [hbelow] at hcut
        exact List.append_cancel_left (hcut.trans hsplit)
      have hnumbers : missing_at start a = none := missing_append (hsplit ▸ hmissing)
      have hheads : head_break_at target transition_id a = none := by simp [head_break_at, hbefore]
      rw [hbelow, habove, hsplit]
      simp only [hnumbers, hheads, true_and, List.head?_cons, Option.some.injEq, forall_eq']
      rw [head_break_at, ← hsplit, hchain, hsplit]
      simp only [Option.map_some, Option.some.injEq, forall_eq', hrevision]
      rw [hrefused.at_iff (hsplit ▸ hincreasing), ← List.append_assoc]
    · have hok := decode_none_iff.mp hdecode g hg
      rw [hok] at hbad
      cases hbad

/-- Replay stops at a structural failure exactly when the checks fail in their order. -/
theorem stops_in_order (hfiles : Numbered files) (hstart : 0 < start)
    (hpre : ∀ p ∈ pre, p.revision < start)
    (hreplayed : refused_at settings (initial_state scope) pre = none) :
    StopsAtFailure settings scope pre files start target transition_id ↔
      HaltsInOrder settings scope pre files start target transition_id := by
  cases hread : unreadable_at files with
  | some u => exact stops_unreadable hfiles hread
  | none =>
    cases hmissing : missing_at start (readable files) with
    | some found => exact stops_missing hfiles hstart hpre hreplayed hread hmissing
    | none => exact stops_broken hfiles hreplayed hread hmissing

end

/-! ### The three ways a branch replays -/

variable {failure : ReplayFailure}

/-- The base has unsound files: nothing of the branch is read. -/
theorem branch_base_failed (h : PatchLevel m b main_files)
    (hfailure : structural_failure (base_paths b main_files) 1 .main none = some failure) :
    (branch_replay m b main_files branch_files).state
      = (materialize_patches m.settings (branch_scope m b).1
          (decode_paths path_failure (base_paths b main_files)).1).state.degrade failure := by
  have hbase : base_failure m b main_files = some failure := by
    simp [base_failure, h.scope, hfailure]
  simp [branch_replay, materialize_base, hbase, base_result, h.scope, GraphState.degrade,
    materialize_patches]

theorem base_failure_none (h : PatchLevel m b main_files)
    (hsound : structural_failure (base_paths b main_files) 1 .main none = none) :
    base_failure m b main_files = none := by
  simp [base_failure, h.scope, hsound, h.base hsound]

/-- Replay of the base stops: nothing of the branch is read. -/
theorem branch_base_halted (h : PatchLevel m b main_files)
    (hsound : structural_failure (base_paths b main_files) 1 .main none = none)
    (hhalted : (materialize_patches m.settings (branch_scope m b).1
      (decode_paths path_failure (base_paths b main_files)).1).state.replay_failure
        = some failure) :
    (branch_replay m b main_files branch_files).state
      = (materialize_patches m.settings (branch_scope m b).1
          (decode_paths path_failure (base_paths b main_files)).1).state := by
  have hbase := base_failure_none h hsound
  obtain ⟨pre, x, post, a, -, -, -, hstate⟩ := halted_iff hhalted
  simp only [branch_replay, materialize_base, hbase, base_result, h.scope, Option.isSome_none,
    Bool.false_eq_true, if_false, hstate]
  simp [GraphState.degrade, materialize_patches] at hstate ⊢
  simp [hstate]

/-- The base replays: the files of the branch follow. -/
theorem branch_base_complete (h : PatchLevel m b main_files)
    (hsound : structural_failure (base_paths b main_files) 1 .main none = none)
    (hcomplete : (materialize_patches m.settings (branch_scope m b).1
      (decode_paths path_failure (base_paths b main_files)).1).state.replay_status = .complete) :
    (branch_replay m b main_files branch_files).state
      = match structural_failure branch_files (b.base_head.revision + 1) (.branch b.branch_id)
          b.base_head.transition_id with
        | none => (materialize_patches m.settings (branch_scope m b).1
            ((decode_paths path_failure (base_paths b main_files)).1
              ++ (decode_paths path_failure branch_files).1)).state
        | some failure => (materialize_patches m.settings (branch_scope m b).1
            ((decode_paths path_failure (base_paths b main_files)).1
              ++ (decode_paths path_failure branch_files).1)).state.degrade failure := by
  have hbase := base_failure_none h hsound
  simp only [branch_replay, materialize_base, hbase, base_result, h.scope, Option.isSome_none,
    Bool.false_eq_true, if_false, hcomplete]
  simp only [reduceCtorEq, if_false, Option.isSome_none, Bool.false_eq_true, Option.none_or]
  cases structural_failure branch_files (b.base_head.revision + 1) (.branch b.branch_id)
    b.base_head.transition_id <;> rfl

/-! ### Where a branch is coherent -/

/-- Replay that stops by itself leaves the contents below its failure. -/
theorem halted_below {settings : ValidationSettings} {scope : List String} {D : List Patch}
    (hD : Increasing Patch.revision D)
    (h : (materialize_patches settings scope D).state.replay_failure = some failure) :
    (∃ x ∈ D, x.revision = failure.revision) ∧
      (materialize_patches settings scope
        (D.filter (fun p => p.revision < failure.revision))).state.replay_status = .complete ∧
      SameContents (materialize_patches settings scope D).state (materialize_patches settings scope
        (D.filter (fun p => p.revision < failure.revision))).state := by
  obtain ⟨pre, x, post, a, rfl, ha, hrevision, hstate⟩ := halted_iff h
  rw [hrevision, hD.filter_lt, hstate, complete_state ha]
  exact ⟨⟨x, by simp, rfl⟩, (complete_failure ha).1, .degrade _ _⟩

omit [TextLibrary] [Canonical] in
theorem structural_nil {start : Nat} {target : GraphTargetRef} {transition_id : Option String} :
    structural_failure [] start target transition_id = none := rfl

omit [TextLibrary] [Canonical] in
/-- No file of the branch lies below a bound that some file of the base reaches. -/
theorem tail_below {r : Nat} {f : PatchFile}
    (hfiles : Numbered (base_paths b main_files ++ branch_files)) (hf : f ∈ base_paths b main_files)
    (hr : r ≤ f.revision + 1) : branch_files.filter (fun f => f.revision < r) = [] := by
  refine List.filter_eq_nil_iff.mpr (fun g hg => ?_)
  have hlt := hfiles.increasing.lt hf hg
  simp only [decide_eq_true_eq]
  omega

/-- A branch whose base has unsound files. -/
theorem coherent_base_failed (h : PatchLevel m b main_files)
    (hfiles : Numbered (base_paths b main_files ++ branch_files))
    (hfailure : structural_failure (base_paths b main_files) 1 .main none = some failure) :
    BranchCoherent m b main_files branch_files ↔
      StopsAtFailure m.settings (branch_scope m b).1 [] (base_paths b main_files) 1 .main none := by
  have hstate : (branch_replay m b main_files branch_files).state = _ :=
    branch_base_failed h hfailure
  have htail : branch_files.filter (fun f => f.revision < failure.revision) = [] := by
    rcases structural_bounds hfiles.left hfailure with ⟨f, hf, e, -, hrevision⟩ | ⟨-, hle⟩
    · exact tail_below hfiles hf (by omega)
    · obtain ⟨f, hf, hle⟩ := hle (fun f _ => by omega)
      exact tail_below hfiles hf hle
  refine Iff.trans ?_ (stops_iff hfiles.left (by omega) hfailure (by simp))
  constructor
  · intro hcoherent
    obtain ⟨hsound, -, hcomplete, hsame⟩ := hcoherent failure (by rw [hstate]; rfl)
    simp only [branch_below, htail, decode_paths, List.append_nil, hstate] at hcomplete hsame
    exact ⟨hsound, hcomplete, hsame⟩
  · rintro ⟨hsound, hcomplete, hsame⟩ failure' hfailure'
    obtain rfl : failure = failure' := by
      rw [hstate] at hfailure'
      exact Option.some.inj hfailure'
    simp only [branch_below, htail, decode_paths, List.append_nil, hstate]
    exact ⟨hsound, structural_nil, hcomplete, hsame⟩

/-- A branch whose base is sound and stops. -/
theorem coherent_base_halted (h : PatchLevel m b main_files)
    (hfiles : Numbered (base_paths b main_files ++ branch_files))
    (hsound : structural_failure (base_paths b main_files) 1 .main none = none)
    (hhalted : (materialize_patches m.settings (branch_scope m b).1
      (decode_paths path_failure (base_paths b main_files)).1).state.replay_failure
        = some failure) :
    BranchCoherent m b main_files branch_files := by
  have hstate : (branch_replay m b main_files branch_files).state = _ :=
    branch_base_halted h hsound hhalted
  intro failure' hfailure'
  obtain rfl : failure = failure' := by
    rw [hstate, hhalted] at hfailure'
    exact Option.some.inj hfailure'
  obtain ⟨⟨x, hx, hrevision⟩, hcomplete, hsame⟩ :=
    halted_below (decoded_increasing hfiles.left) hhalted
  obtain ⟨f, hf, hcontent⟩ := decoded_mem hx
  have hown := hfiles.left.own f hf x hcontent
  simp only [branch_below, tail_below hfiles hf (show failure.revision ≤ f.revision + 1 by omega),
    decode_below hfiles.left, decode_paths, List.append_nil, hstate]
  exact ⟨structural_below hfiles.left _ hsound, structural_nil, hcomplete, hsame⟩

omit [TextLibrary] [Canonical] in
theorem decode_append {fail : PatchFile → UnreadablePatch → ReplayFailure}
    {files files' : List PatchFile} (h : (decode_paths fail files).2 = none) :
    (decode_paths fail (files ++ files')).1
      = (decode_paths fail files).1 ++ (decode_paths fail files').1 := by
  induction files with
  | nil => rfl
  | cons f files ih =>
    unfold decode_paths at h
    cases hf : f.content with
    | error e => simp [hf] at h
    | ok p =>
      simp only [hf] at h
      simp only [List.cons_append, decode_paths, hf, ih h]

/-- A branch that is sound from the empty graph on. -/
theorem coherent_sound (h : PatchLevel m b main_files)
    (hfiles : Numbered (base_paths b main_files ++ branch_files))
    (hsound : structural_failure (base_paths b main_files) 1 .main none = none)
    (hcomplete : (materialize_patches m.settings (branch_scope m b).1
      (decode_paths path_failure (base_paths b main_files)).1).state.replay_status = .complete)
    (htail : structural_failure branch_files (b.base_head.revision + 1) (.branch b.branch_id)
      b.base_head.transition_id = none) :
    BranchCoherent m b main_files branch_files := by
  have hstate : (branch_replay m b main_files branch_files).state = _ :=
    branch_base_complete h hsound hcomplete
  rw [htail] at hstate
  simp only at hstate
  have hdecode : (decode_paths path_failure (base_paths b main_files)).2 = none := by
    simp only [structural_failure, Option.or_eq_none_iff] at hsound
    exact hsound.1
  have hD : Increasing Patch.revision ((decode_paths path_failure (base_paths b main_files)).1
      ++ (decode_paths path_failure branch_files).1) := by
    rw [← decode_append hdecode]
    exact decoded_increasing hfiles
  intro failure hfailure
  rw [hstate] at hfailure
  obtain ⟨-, hbelow, hsame⟩ := halted_below hD hfailure
  simp only [branch_below, decode_below hfiles.left, decode_below hfiles.right,
    ← List.filter_append, hstate]
  exact ⟨structural_below hfiles.left _ hsound, structural_below hfiles.right _ htail,
    hbelow, hsame⟩

/-- A branch whose base replays and whose own files are unsound. -/
theorem coherent_tail_failed (h : PatchLevel m b main_files)
    (hfiles : Numbered (base_paths b main_files ++ branch_files))
    (hsound : structural_failure (base_paths b main_files) 1 .main none = none)
    (hcomplete : (materialize_patches m.settings (branch_scope m b).1
      (decode_paths path_failure (base_paths b main_files)).1).state.replay_status = .complete)
    (htail : structural_failure branch_files (b.base_head.revision + 1) (.branch b.branch_id)
      b.base_head.transition_id = some failure) :
    BranchCoherent m b main_files branch_files ↔
      StopsAtFailure m.settings (branch_scope m b).1
        (decode_paths path_failure (base_paths b main_files)).1 branch_files
        (b.base_head.revision + 1) (.branch b.branch_id) b.base_head.transition_id := by
  have hstate : (branch_replay m b main_files branch_files).state = _ :=
    branch_base_complete h hsound hcomplete
  rw [htail] at hstate
  simp only at hstate
  -- the failure lies behind every file of the base
  have hlt : ∀ f ∈ base_paths b main_files, f.revision < failure.revision := by
    intro f hf
    rcases structural_bounds hfiles.right htail with ⟨g, hg, e, -, hrevision⟩ | ⟨hge, -⟩
    · rw [hrevision]
      exact hfiles.increasing.lt hf hg
    · have hle : f.revision ≤ b.base_head.revision := by
        simpa using (List.mem_filter.mp hf).2
      omega
  have hbase : (base_paths b main_files).filter (fun f => f.revision < failure.revision)
      = base_paths b main_files :=
    List.filter_eq_self.mpr (fun f hf => decide_eq_true (hlt f hf))
  have hpre : ∀ p ∈ (decode_paths path_failure (base_paths b main_files)).1,
      p.revision < failure.revision := by
    intro p hp
    obtain ⟨f, hf, hcontent⟩ := decoded_mem hp
    rw [hfiles.left.own f hf p hcontent]
    exact hlt f hf
  refine Iff.trans ?_ (stops_iff hfiles.right (by omega) htail hpre)
  constructor
  · intro hcoherent
    obtain ⟨-, hsound', hbelow, hsame⟩ := hcoherent failure (by rw [hstate]; rfl)
    simp only [branch_below, hbase, hstate] at hbelow hsame
    exact ⟨hsound', hbelow, hsame⟩
  · rintro ⟨hsound', hbelow, hsame⟩ failure' hfailure'
    obtain rfl : failure = failure' := by
      rw [hstate] at hfailure'
      exact Option.some.inj hfailure'
    simp only [branch_below, hbase, hstate]
    exact ⟨hsound, hsound', hbelow, hsame⟩

/-- A branch exposes the Patches before its failure when replay stops at the structural
    failure of its base, and at that of its own files. -/
theorem coherent_iff_stops (hfiles : Numbered (base_paths b main_files ++ branch_files))
    (h : PatchLevel m b main_files) :
    BranchCoherent m b main_files branch_files ↔
      StopsAtFailure m.settings (branch_scope m b).1 [] (base_paths b main_files) 1 .main none ∧
      (structural_failure (base_paths b main_files) 1 .main none = none →
        (materialize_patches m.settings (branch_scope m b).1
          (decode_paths path_failure (base_paths b main_files)).1).state.replay_status = .complete →
        StopsAtFailure m.settings (branch_scope m b).1
          (decode_paths path_failure (base_paths b main_files)).1 branch_files
          (b.base_head.revision + 1) (.branch b.branch_id) b.base_head.transition_id) := by
  cases hbase : structural_failure (base_paths b main_files) 1 .main none with
  | some failure => simp [coherent_base_failed h hfiles hbase]
  | none =>
    have hstops : StopsAtFailure m.settings (branch_scope m b).1 []
      (base_paths b main_files) 1 .main
        none := by
      intro failure hfailure
      rw [hbase] at hfailure
      cases hfailure
    by_cases hcomplete : (materialize_patches m.settings (branch_scope m b).1
        (decode_paths path_failure (base_paths b main_files)).1).state.replay_status = .complete
    · simp only [hstops, hcomplete, forall_const, true_and]
      cases htail : structural_failure branch_files (b.base_head.revision + 1) (.branch b.branch_id)
          b.base_head.transition_id with
      | none =>
        refine iff_of_true (coherent_sound h hfiles hbase hcomplete htail)
          (fun failure hfailure => ?_)
        rw [htail] at hfailure
        cases hfailure
      | some failure => exact coherent_tail_failed h hfiles hbase hcomplete htail
    · obtain ⟨failure, hhalted⟩ := degraded_failure hcomplete
      simp [hstops, hcomplete, coherent_base_halted h hfiles hbase hhalted]

/-- The main log always exposes the Patches before its failure; a branch does when the
    checks of its base fail in the order in which they are reported, and, when nothing
    is wrong with the base, those of its own files do. -/
theorem halted_prefix_iff (hmain : Numbered main_files)
    (hfiles : Numbered (base_paths b main_files ++ branch_files)) (h : PatchLevel m b main_files) :
    (MainCoherent m main_files ∧ BranchCoherent m b main_files branch_files) ↔
      HaltsInOrder m.settings (branch_scope m b).1 [] (base_paths b main_files) 1 .main none ∧
      (Flawless m.settings (branch_scope m b).1 (base_paths b main_files) 1 .main none →
        HaltsInOrder m.settings (branch_scope m b).1 (readable (base_paths b main_files))
          branch_files (b.base_head.revision + 1) (.branch b.branch_id)
          b.base_head.transition_id) := by
  rw [and_iff_right (main_coherent hmain), coherent_iff_stops hfiles h,
    stops_in_order hfiles.left (by omega) (by simp) rfl]
  refine and_congr_right (fun _ => ?_)
  have hflawless : Flawless m.settings (branch_scope m b).1 (base_paths b main_files) 1 .main none ↔
      structural_failure (base_paths b main_files) 1 .main none = none ∧
        (materialize_patches m.settings (branch_scope m b).1
          (decode_paths path_failure (base_paths b main_files)).1).state.replay_status
            = .complete := by
    rw [Flawless, structural_none hfiles.left, complete_refused, readable]
    simp only [and_assoc]
  rw [hflawless, and_imp]
  refine imp_congr_right (fun _ => ?_)
  constructor
  all_goals
    intro hstops hcomplete
    have hpre : ∀ p ∈ readable (base_paths b main_files),
        p.revision < b.base_head.revision + 1 := by
      intro p hp
      obtain ⟨f, hf, hcontent⟩ := decoded_mem hp
      have hown := hfiles.left.own f hf p hcontent
      have hle : f.revision ≤ b.base_head.revision := by simpa using (List.mem_filter.mp hf).2
      omega
    have horder : StopsAtFailure m.settings (branch_scope m b).1
        (readable (base_paths b main_files)) branch_files (b.base_head.revision + 1)
        (.branch b.branch_id) b.base_head.transition_id ↔ _ :=
      stops_in_order hfiles.right (Nat.succ_pos _) hpre (complete_refused.mp hcomplete)
  · exact horder.mp (hstops hcomplete)
  · exact horder.mpr (hstops hcomplete)

end

/-! ### Two branches of an empty main log -/

section

open scoped Reference

def log_time : Datetime := { year := 2025, month := 1, day := 1 }

/-- A file that holds the Patch with its number. -/
def patch_file (p : Patch) : PatchFile where
  revision := p.revision
  content := .ok p
  created_at := log_time
  modified_at := log_time

/-- A file that holds no Patch. -/
def broken_file (revision : Nat) : PatchFile where
  revision := revision
  content := .error ⟨"patch-schema-invalid", "Expecting value: line 1 column 1 (char 0)"⟩
  created_at := log_time
  modified_at := log_time

/-- A branch taken before the first Patch of main. -/
def empty_branch : GraphBranchMetadata where
  branch_id := "b"
  episode_id := "e"
  project_id := "p"
  base_head := { revision := 0 }
  head := { target := .branch "b", revision := 0 }
  created_at := log_time
  authorized_by := ⟨"s", "u", "User"⟩

/-- An accepted Patch that asks a question, and a Patch whose admission was rejected. -/
def asked (revision : Nat) (id : String) : Patch :=
  Reference.agent_patch revision [.create_nodes [Reference.question id]]

def refused (revision : Nat) : Patch :=
  { Reference.agent_patch revision [] with admission := .rejected }

/-- One Patch, then a file that is not readable. -/
def broken_log : List PatchFile := [patch_file (asked 1 "rq/a"), broken_file 2]

/-- The second number is missing. -/
def gapped_log : List PatchFile :=
  [patch_file (asked 1 "rq/a"), patch_file (refused 3), patch_file (asked 4 "rq/b")]

theorem empty_branch_patch_level : PatchLevel one_repository empty_branch [] :=
  ⟨rfl, fun _ => by decide⟩

theorem broken_log_coherent : Numbered broken_log ∧
    (branch_replay one_repository empty_branch [] broken_log).state.replay_failure.map (·.revision)
      = some 2 ∧
    BranchCoherent one_repository empty_branch [] broken_log := by
  have hfiles : Numbered broken_log := by
    refine ⟨by unfold Increasing; decide, ?_⟩
    simp [broken_log, patch_file, broken_file]
  refine ⟨hfiles, by decide, And.right ((halted_prefix_iff ⟨List.Pairwise.nil, by simp⟩ hfiles
    empty_branch_patch_level).mpr ⟨?_, fun _ => ?_⟩)⟩
  · intro r hr
    cases hr
  · -- the second file is unreadable, and the first one is sound
    exact ⟨by decide, by decide, by decide⟩

/-- Behind the missing number the branch replays on, to a graph that its failure
    says it never reached. -/
theorem gapped_log_replayed : Numbered gapped_log ∧
    PatchLevel one_repository empty_branch [] ∧
    (branch_replay one_repository empty_branch [] gapped_log).state.replay_failure.map (·.revision)
      = some 2 ∧
    (branch_replay one_repository empty_branch [] gapped_log).state.revision = 4 ∧
    (branch_replay one_repository empty_branch [] gapped_log).state.nodes.get? "rq/b" ≠ none ∧
    ¬ BranchCoherent one_repository empty_branch [] gapped_log := by
  have hfailed : (branch_replay one_repository empty_branch [] gapped_log).state.replay_failure.map
      (·.revision) = some 2 := by decide
  have hreached : (branch_replay one_repository empty_branch [] gapped_log).state.revision = 4 := by
    decide
  refine ⟨⟨by unfold Increasing; decide, ?_⟩, empty_branch_patch_level, hfailed,
    hreached, by decide, fun hcoherent => ?_⟩
  · simp [gapped_log, patch_file]
  · obtain ⟨failure, hfailure, hrevision⟩ := Option.map_eq_some_iff.mp hfailed
    obtain ⟨-, -, -, hsame⟩ := hcoherent failure hfailure
    have hbelow : (branch_below one_repository empty_branch [] gapped_log 2).revision
        = 1 := by decide
    have hequal := hsame.revision
    rw [hrevision, hbelow, hreached] at hequal
    omega

end

end ResearchGraph
