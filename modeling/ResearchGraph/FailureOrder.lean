import ResearchGraph.Prefixes
import ResearchGraph.AcceptedPatch

/-! # Which check of a log fails first, and where

    A list of Patch files can fail in four ways: a file cannot be read, a number
    is missing, a transition does not continue the head, or replay refuses a
    Patch.  The positions below are read off the files, one check at a time;
    `HaltsInOrder` compares them.
-/

namespace ResearchGraph

open Lib

/-! ### The positions -/

/-- The number of the first file that holds no Patch. -/
def unreadable_at (files : List PatchFile) : Option Nat :=
  (files.find? (fun f => !f.content.isOk)).map (·.revision)

/-- The Patches of the files up to there. -/
def readable (files : List PatchFile) : List Patch := (decode_paths path_failure files).1

/-- The first number, counted from `start`, that is missing, and the Patch found instead. -/
def missing_at : Nat → List Patch → Option (Nat × Patch)
  | _, [] => none
  | n, p :: ps => if p.revision = n then missing_at (n + 1) ps else some (n, p)

/-- The first Patch whose transition does not continue the head. -/
def head_break_at (target : GraphTargetRef) (transition_id : Option String)
    (patches : List Patch) : Option Nat :=
  (accepted_transition_head_chain_failure target transition_id patches).map (·.revision)

variable [TextLibrary] [Canonical]

/-- The first Patch that validation rejects, or whose operations do not apply, in the
    graph the Patches before it leave.  Patches that admission rejected are not judged. -/
def refused_at (settings : ValidationSettings) : GraphState → List Patch → Option Nat
  | _, [] => none
  | s, p :: ps =>
    if p.admission = .rejected then
      refused_at settings { s.with_messages p.admission_messages with
        revision := max s.revision p.revision } ps
    else match replay_state settings s p with
      | .error _ => some p.revision
      | .ok t => refused_at settings t ps

/-- No check of the files fails. -/
def Flawless (settings : ValidationSettings) (scope : List String) (files : List PatchFile)
    (start : Nat) (target : GraphTargetRef) (transition_id : Option String) : Prop :=
  unreadable_at files = none ∧ missing_at start (readable files) = none ∧
    head_break_at target transition_id (readable files) = none ∧
    refused_at settings (initial_state scope) (readable files) = none

/-- The failure that the fixed order of checks (decoding, numbering, heads, replay)
    reports is the first of the files, and replay gets no further.

    * An unreadable file: nothing else fails before it.
    * A missing number: nothing else fails below it, and the Patch found instead lies
      behind it and is one that admission accepted, so that replay refuses it.
    * A head that is not continued: the Patch is the first that replay refuses. -/
def HaltsInOrder (settings : ValidationSettings) (scope : List String) (pre : List Patch)
    (files : List PatchFile) (start : Nat) (target : GraphTargetRef)
    (transition_id : Option String) : Prop :=
  let broken := head_break_at target transition_id (readable files)
  let refused := refused_at settings (initial_state scope) (pre ++ readable files)
  match unreadable_at files, missing_at start (readable files) with
  | some _, missing => missing = none ∧ broken = none ∧ refused = none
  | none, some (n, p) => n ≤ p.revision ∧ p.admission = .accepted ∧
      (∀ r, broken = some r → n ≤ r) ∧ ∀ r, refused = some r → n ≤ r
  | none, none => ∀ r, broken = some r → refused = some r

variable {settings : ValidationSettings} {scope : List String} {files : List PatchFile}
  {pre ps qs : List Patch} {p : Patch} {m m' : Materialization} {failure : ReplayFailure}
  {start n r : Nat} {target : GraphTargetRef} {transition_id : Option String}

/-! ### Decoding -/

omit [TextLibrary] [Canonical] in
/-- What decoding finds is the first unreadable file. -/
theorem decode_unreadable :
    (decode_paths path_failure files).2.map (·.revision) = unreadable_at files := by
  induction files with
  | nil => rfl
  | cons f files ih =>
    unfold decode_paths unreadable_at
    cases hf : f.content with
    | error e => simp [hf, Except.isOk, Except.toBool, path_failure]
    | ok p =>
      simp only [hf, List.find?_cons, Except.isOk, Except.toBool, Bool.not_true]
      exact ih

omit [TextLibrary] [Canonical] in
theorem unreadable_at_none :
    unreadable_at files = none ↔ (decode_paths path_failure files).2 = none := by
  rw [← decode_unreadable, Option.map_eq_none_iff]

/-! ### Numbering -/

omit [TextLibrary] [Canonical] in
/-- What the numbering check finds is the first missing number. -/
theorem sequence_missing (start : Nat) (hfiles : Numbered files)
    (hread : unreadable_at files = none) :
    (validate_revision_sequence start (files.zip (readable files))).map (·.revision)
      = (missing_at start (readable files)).map Prod.fst := by
  rw [unreadable_at_none] at hread
  unfold readable
  induction files generalizing start with
  | nil => rfl
  | cons f files ih =>
    unfold decode_paths at hread ⊢
    cases hf : f.content with
    | error e => simp [hf] at hread
    | ok p =>
      have hown := hfiles.own f (by simp) p hf
      simp only [hf] at hread ⊢
      simp only [List.zip_cons_cons, validate_revision_sequence, missing_at, ← hown, or_self]
      by_cases hnumber : p.revision = start
      · simpa [hnumber] using ih (start + 1) hfiles.tail hread
      · simp [hnumber]

omit [TextLibrary] [Canonical] in
theorem missing_ge (h : missing_at start ps = some (n, p)) : start ≤ n := by
  induction ps generalizing start with
  | nil => cases h
  | cons q ps ih =>
    unfold missing_at at h
    split_ifs at h with hq
    · have hge := ih h
      omega
    · simp only [Option.some.injEq, Prod.mk.injEq] at h
      omega

omit [TextLibrary] [Canonical] in
/-- Below the missing number the numbering is sound when the Patch found instead lies
    behind it; that Patch is then the first from there on. -/
theorem missing_below (hps : Increasing Patch.revision ps)
    (h : missing_at start ps = some (n, p)) :
    (missing_at start (ps.filter (fun q => q.revision < n)) = none ↔ n ≤ p.revision) ∧
      p.revision ≠ n ∧
      (n ≤ p.revision → (ps.filter (fun q => n ≤ q.revision)).head? = some p) := by
  induction ps generalizing start with
  | nil => cases h
  | cons q ps ih =>
    obtain ⟨hq, hps⟩ := List.pairwise_cons.mp hps
    unfold missing_at at h
    split_ifs at h with hnumber
    · have hlt : q.revision < n := by
        have hge := missing_ge h
        omega
      obtain ⟨hbelow, hother, hfirst⟩ := ih hps h
      rw [List.filter_cons_of_pos (by simpa using hlt),
        List.filter_cons_of_neg (by simpa using hlt),
        missing_at, if_pos hnumber]
      exact ⟨hbelow, hother, hfirst⟩
    · simp only [Option.some.injEq, Prod.mk.injEq] at h
      obtain ⟨rfl, rfl⟩ := h
      refine ⟨?_, hnumber, fun hle => by simp [hle]⟩
      by_cases hle : start ≤ q.revision
      · -- the Patch found lies behind the number, and so do all after it
        have hempty : (q :: ps).filter (fun x => x.revision < start) = [] := by
          refine List.filter_eq_nil_iff.mpr (fun x hx => ?_)
          rcases List.mem_cons.mp hx with rfl | hx
          · simpa using hle
          · have := hq x hx
            simp only [decide_eq_true_eq]
            omega
        simp [hempty, missing_at, hle]
      · have hlt : q.revision < start := by omega
        simp [hlt, missing_at, hnumber, hle]

omit [TextLibrary] [Canonical] in
theorem missing_append (h : missing_at start (ps ++ qs) = none) : missing_at start ps = none := by
  induction ps generalizing start with
  | nil => rfl
  | cons p ps ih =>
    simp only [List.cons_append, missing_at] at h ⊢
    split_ifs at h ⊢
    exact ih h

/-! ### Heads -/

omit [TextLibrary] [Canonical] in
theorem chain_append : accepted_transition_head_chain_failure target transition_id (ps ++ qs)
    = (accepted_transition_head_chain_failure target transition_id ps).or
      (accepted_transition_head_chain_failure target (last_transition_id transition_id ps) qs) := by
  induction ps generalizing transition_id with
  | nil => rfl
  | cons p ps ih =>
    simp only [List.cons_append, accepted_transition_head_chain_failure, last_transition_id,
      List.foldl_cons, Patch.next_transition_id]
    cases p.accepted_trace with
    | none => exact ih
    | some trace =>
      simp only []
      split_ifs
      · rfl
      · exact ih

omit [TextLibrary] [Canonical] in
/-- The check of the heads stops at the first break. -/
theorem head_break_stops : StopsAt Patch.revision (head_break_at target transition_id) where
  nil := rfl
  keep h := by
    obtain ⟨failure, hfailure, hrevision⟩ := Option.map_eq_some_iff.mp h
    simp [head_break_at, chain_append, hfailure, hrevision]
  later hpre h := by
    rw [head_break_at, Option.map_eq_none_iff] at hpre
    rw [head_break_at, chain_append, hpre, Option.none_or] at h
    obtain ⟨failure, hfailure, rfl⟩ := Option.map_eq_some_iff.mp h
    obtain ⟨a, x, b, rfl, hrevision, -⟩ := chain_failure_split hfailure
    exact ⟨x, by simp, hrevision.symm⟩

/-! ### Replay -/

/-- What the scan does with a Patch is what replay does with it. -/
theorem refused_cons : refused_at settings m.state (p :: ps) =
    match replay_patch settings m p with
    | .error _ => some p.revision
    | .ok m' => refused_at settings m'.state ps := by
  rw [refused_at, replay_patch]
  by_cases hrejected : p.admission = .rejected
  · simp only [if_pos hrejected]
  · simp only [if_neg hrejected]
    cases replay_state settings m.state p with
    | error halted => simp only []
    | ok t => simp only []

theorem refused_none_iff :
    refused_at settings m.state ps = none ↔ ∃ m', ps.foldlM (replay_patch settings) m = .ok m' := by
  induction ps generalizing m with
  | nil => exact ⟨fun _ => ⟨m, foldlM_nil_ok.mpr rfl⟩, fun _ => rfl⟩
  | cons p ps ih =>
    rw [refused_cons]
    cases hp : replay_patch settings m p with
    | error m' =>
      refine iff_of_false (by simp) ?_
      rintro ⟨m'', hrun⟩
      obtain ⟨a, ha, -⟩ := foldlM_cons_ok.mp hrun
      rw [hp] at ha
      cases ha
    | ok m' =>
      simp only []
      rw [ih]
      constructor
      · rintro ⟨m'', hrun⟩
        exact ⟨m'', foldlM_cons_ok.mpr ⟨m', hp, hrun⟩⟩
      · rintro ⟨m'', hrun⟩
        obtain ⟨a, ha, hrest⟩ := foldlM_cons_ok.mp hrun
        obtain rfl : m' = a := Except.ok.inj (hp.symm.trans ha)
        exact ⟨m'', hrest⟩

theorem refused_append (h : ps.foldlM (replay_patch settings) m = .ok m') :
    refused_at settings m.state (ps ++ qs) = refused_at settings m'.state qs := by
  induction ps generalizing m with
  | nil =>
    obtain rfl := foldlM_nil_ok.mp h
    rfl
  | cons p ps ih =>
    obtain ⟨a, ha, hrest⟩ := foldlM_cons_ok.mp h
    rw [List.cons_append, refused_cons, ha]
    exact ih hrest

theorem refused_mem (h : refused_at settings m.state ps = some r) :
    ∃ p ∈ ps, p.revision = r := by
  induction ps generalizing m with
  | nil => cases h
  | cons p ps ih =>
    rw [refused_cons] at h
    cases hp : replay_patch settings m p with
    | error m' => exact ⟨p, by simp, by simpa [hp] using h⟩
    | ok m' =>
      simp only [hp] at h
      obtain ⟨q, hq, hrevision⟩ := ih h
      exact ⟨q, by simp [hq], hrevision⟩

theorem refused_keep (h : refused_at settings m.state ps = some r) :
    refused_at settings m.state (ps ++ qs) = some r := by
  induction ps generalizing m with
  | nil => cases h
  | cons p ps ih =>
    rw [List.cons_append, refused_cons]
    rw [refused_cons] at h
    cases hp : replay_patch settings m p with
    | error m' => simpa [hp] using h
    | ok m' =>
      simp only [hp] at h ⊢
      exact ih h

/-- Behind Patches that replay, the scan stops at the first refused Patch. -/
theorem refused_stops (hpre : refused_at settings m.state pre = none) :
    StopsAt Patch.revision (fun ps => refused_at settings m.state (pre ++ ps)) where
  nil := by simpa using hpre
  keep h := by
    rw [← List.append_assoc]
    exact refused_keep h
  later hnone h := by
    obtain ⟨m', hrun⟩ := refused_none_iff.mp hnone
    rw [← List.append_assoc, refused_append hrun] at h
    exact refused_mem h

/-- Replay of a list from the empty graph is complete when no Patch of it is refused. -/
theorem complete_refused : (materialize_patches settings scope ps).state.replay_status = .complete ↔
    refused_at settings (initial_state scope) ps = none :=
  complete_iff.trans
    (refused_none_iff (m := { state := initial_state scope })).symm

end ResearchGraph
