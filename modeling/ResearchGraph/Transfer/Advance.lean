import ResearchGraph.Transfer.Custody

/-! # Advancing a source transfer

    Advancing may be cut off after any commit, any number of times. Run again,
    it ends as an uninterrupted run does. It goes through ranks: the
    confirmations (3), the fence (4), the bound archive (5). A stage has nothing
    left to do at its own rank.
-/

namespace ResearchGraph

open Lib

variable {sha : TransferDigests}

namespace SourceWorld

open Saga

variable {request_id : String} {w v : SourceWorld} {r : TransferRequest} {p : TransferProof}
  {n : Nat}

/-- The request is a source that has come to rank `n`. -/
def At (sha : TransferDigests) (request_id : String) (n : Nat) (w : SourceWorld) : Prop :=
  Sound sha w ∧ ∃ r p, w.store.Holds request_id r p ∧ r.side = .source ∧ n ≤ r.rank

theorem At.mono {m : Nat} (h : At sha request_id n w) (hle : m ≤ n) : At sha request_id m w := by
  obtain ⟨hs, r, p, hold, hside, hrank⟩ := h
  exact ⟨hs, r, p, hold, hside, by omega⟩

theorem Sound.row (hs : Sound sha w) (hold : w.store.Holds request_id r p) : RowSound sha r p :=
  hs.consistent.sound request_id r p hold

theorem Sound.shaped (hs : Sound sha w) (hold : w.store.Holds request_id r p) : r.Shaped :=
  TransferRequest.shaped_of_validate (hs.row hold).shape

theorem Sound.reads (hs : Sound sha w) (hold : w.store.Holds request_id r p)
    (hside : r.side = .source) : w.source_transfer sha request_id = .ok r :=
  source_transfer_ok.mpr ⟨SpaceStore.read_of_sound hold (hs.row hold), hside⟩

/-- A source that reads back is stored next to its proof. -/
theorem holds_of_source (h : w.source_transfer sha request_id = .ok r) :
    r.side = .source ∧ ∃ p, w.store.Holds request_id r p := by
  obtain ⟨hread, hside⟩ := source_transfer_ok.mp h
  obtain ⟨p, hold, -⟩ := SpaceStore.holds_of_read hread
  exact ⟨hside, p, hold⟩

theorem in_phase_iff {phase : TransferPhase} (hold : w.store.Holds request_id r p) :
    InPhase request_id phase w ↔ r.phase = phase := by
  simp [InPhase, hold.1]

theorem At.not_in_phase {phase : TransferPhase} (h : At sha request_id n w)
    (hphase : phase.rank < n) : ¬ InPhase request_id phase w := by
  obtain ⟨hs, r, p, hold, hside, hrank⟩ := h
  rw [in_phase_iff hold]
  intro hin
  rw [(hs.shaped hold).source_rank hside, hin] at hrank
  omega

/-- At the last rank before `n` a source stands in a known phase. -/
theorem At.next {phase : TransferPhase} (h : At sha request_id phase.rank w)
    (hphase : ¬ InPhase request_id phase w) : At sha request_id (phase.rank + 1) w := by
  obtain ⟨hs, r, p, hold, hside, hrank⟩ := h
  rw [in_phase_iff hold] at hphase
  refine ⟨hs, r, p, hold, hside, ?_⟩
  have hne : r.rank ≠ phase.rank := by
    rw [(hs.shaped hold).source_rank hside]
    intro heq
    exact hphase (TransferPhase.rank_injective heq)
  omega

/-! ### Confirmations -/

theorem confirmations_ok : w.require_confirmations sha request_id = .ok () ↔
    ∃ r, w.source_transfer sha request_id = .ok r ∧ r.source_release_receipt ≠ none
      ∧ r.target_admission_receipt ≠ none := by
  simp only [require_confirmations, except_bind_ok, refuse_ok, not_or, ne_eq]

theorem confirmations_meets :
    Meets (Sound sha) (Sound sha) (inspect (require_confirmations sha request_id))
      (fun _ => At sha request_id 3) := by
  refine Meets.inspect ?_
  intro w _ hs hok
  obtain ⟨r, htransfer, hrelease, -⟩ := confirmations_ok.mp hok
  obtain ⟨hside, p, hold⟩ := holds_of_source htransfer
  refine ⟨hs, r, p, hold, hside, ?_⟩
  rwa [← (hs.shaped hold).release, Option.isSome_iff_ne_none]

theorem confirmations_idle (h : At sha request_id 3 w) :
    (inspect (require_confirmations sha request_id)).Succeeds w w () := by
  obtain ⟨hs, r, p, hold, hside, hrank⟩ := h
  rw [succeeds_inspect]
  refine ⟨confirmations_ok.mpr ⟨r, hs.reads hold hside, ?_, ?_⟩, rfl⟩
  · rw [← Option.isSome_iff_ne_none]
    exact (hs.shaped hold).release.mpr hrank
  · rw [← Option.isSome_iff_ne_none]
    exact (hs.shaped hold).admission.mpr (by omega)

/-! ### Leaving the source space -/

/-- The source is as it was reviewed, and its work is settled. -/
def Reviewed (r : TransferRequest) (w : SourceWorld) : Prop :=
  (w.history r.project_id).configuration = r.source_configuration
    ∧ (w.history r.project_id).unsettled = none

theorem settled_ok {loaded : Bool} {e : String} :
    w.require_settled_source loaded r = .ok e ↔
      [TransferPhase.source_released, .source_fenced, .archive_bound].contains r.phase = true
        ∧ (if loaded = true ∨ (r.phase = .source_released
              ∧ (w.history r.project_id).home_space_id = r.source_space_id) then
            e = r.source_space_id
          else (w.history r.project_id).home_space_id = r.target_space_id ∧ e = r.target_space_id)
        ∧ Reviewed r w := by
  -- the settling check is a message or none
  have hunsettled : ∀ o : Option String,
      o.elim (.ok ()) (fun message => .error (.value_error message))
        = (.ok () : TransferResult Unit) ↔ o = none := by
    intro o
    cases o <;> simp
  simp only [require_settled_source, open_transfer_source, except_bind_ok, except_pure_ok,
    refuse_ok, Bool.not_eq_true', Bool.not_eq_false, ne_eq, not_not, hunsettled, Reviewed]
  constructor
  · intro h
    obtain ⟨e', ⟨-, hphase, hopen⟩, -, hconfiguration, -, hunsettled, rfl⟩ := h
    refine ⟨hphase, ?_, hconfiguration, hunsettled⟩
    split at hopen
    · next hloaded =>
      rw [if_pos hloaded]
      exact (except_pure_ok.mp hopen)
    · next hloaded =>
      rw [if_neg hloaded]
      simp only [except_bind_ok, except_pure_ok, refuse_ok, not_not] at hopen
      obtain ⟨-, hhome, rfl⟩ := hopen
      exact ⟨hhome, rfl⟩
  · intro h
    obtain ⟨hphase, hopen, hconfiguration, hunsettled⟩ := h
    refine ⟨e, ⟨(), hphase, ?_⟩, (), hconfiguration, (), hunsettled, rfl⟩
    split at hopen
    · next hloaded =>
      rw [if_pos hloaded, except_pure_ok]
      exact hopen
    · next hloaded =>
      rw [if_neg hloaded]
      simp only [except_bind_ok, except_pure_ok, refuse_ok, not_not]
      exact ⟨(), hopen.1, hopen.2⟩

/-- At the release the cache of the service does not matter. -/
theorem move_home_iff {loaded : Bool} (htransfer : w.source_transfer sha request_id = .ok r)
    (hphase : r.phase = .source_released) :
    (move_home sha request_id loaded).Succeeds w v () ↔
      Reviewed r w
        ∧ if (w.history r.project_id).home_space_id = r.source_space_id then v = w.with_home r
          else (w.history r.project_id).home_space_id = r.target_space_id ∧ v = w := by
  simp only [move_home, succeeds_commit, except_bind_ok, htransfer, settled_ok, hphase, true_and,
    Except.ok.injEq, exists_eq_left']
  constructor
  · intro h
    obtain ⟨e, ⟨-, -, hreviewed⟩, h⟩ := h
    refine ⟨hreviewed, ?_⟩
    split at h
    · next hhome =>
      rw [if_pos hhome]
      simp only [except_bind_ok, except_pure_ok, Prod.mk.injEq, and_true] at h
      obtain ⟨-, -, hv⟩ := h
      exact hv
    · next hhome =>
      rw [if_neg hhome]
      simp only [except_bind_ok, except_pure_ok, refuse_ok, not_not, Prod.mk.injEq, and_true] at h
      obtain ⟨-, htarget, hv⟩ := h
      exact ⟨htarget, hv⟩
  · intro h
    obtain ⟨hreviewed, h⟩ := h
    split at h
    · next hhome =>
      refine ⟨r.source_space_id, ⟨by decide, ?_, hreviewed⟩, ?_⟩
      · rw [if_pos (Or.inr hhome)]
      · rw [if_pos hhome]
        simp only [except_bind_ok, except_pure_ok, refuse_ok, not_not, Prod.mk.injEq, and_true,
          exists_const, true_and]
        exact h
    · next hhome =>
      -- the home has moved, so both ways of opening the service give a space
      obtain ⟨e, he⟩ : ∃ e, if loaded = true
          ∨ (w.history r.project_id).home_space_id = r.source_space_id then e = r.source_space_id
          else (w.history r.project_id).home_space_id = r.target_space_id
            ∧ e = r.target_space_id := by
        by_cases hloaded : loaded = true
        · exact ⟨r.source_space_id, by rw [if_pos (Or.inl hloaded)]⟩
        · refine ⟨r.target_space_id, ?_⟩
          rw [if_neg (by simp [hloaded, hhome])]
          exact ⟨h.1, rfl⟩
      refine ⟨e, ⟨by decide, he, hreviewed⟩, ?_⟩
      rw [if_neg hhome]
      simp only [except_bind_ok, except_pure_ok, refuse_ok, not_not, Prod.mk.injEq, and_true,
        exists_const]
      exact h

/-- The home is moved and the fence is still open. -/
def Moved (sha : TransferDigests) (request_id : String) (w : SourceWorld) : Prop :=
  Sound sha w ∧ ∃ r p, w.store.Holds request_id r p ∧ r.side = .source
    ∧ r.phase = .source_released
    ∧ (w.history r.project_id).home_space_id = r.target_space_id ∧ Reviewed r w

/-- The request is a source between its release and its fence. -/
def Released (sha : TransferDigests) (request_id : String) (w : SourceWorld) : Prop :=
  At sha request_id 3 w ∧ InPhase request_id .source_released w

theorem Released.row (h : Released sha request_id w) : ∃ r p, Sound sha w
    ∧ w.store.Holds request_id r p ∧ r.side = .source ∧ r.phase = .source_released
    ∧ w.source_transfer sha request_id = .ok r := by
  obtain ⟨⟨hs, r, p, hold, hside, -⟩, hphase⟩ := h
  exact ⟨r, p, hs, hold, hside, (in_phase_iff hold).mp hphase, hs.reads hold hside⟩

theorem Moved.released (h : Moved sha request_id w) : Released sha request_id w := by
  obtain ⟨hs, r, p, hold, hside, hphase, -⟩ := h
  refine ⟨⟨hs, r, p, hold, hside, ?_⟩, (in_phase_iff hold).mpr hphase⟩
  rw [r.rank_of_phase hphase (by decide)]
  decide

theorem with_home_history {project_id : String} : (w.with_home r).history project_id
    = if project_id = r.project_id then
        { w.history r.project_id with
          home_space_id := r.target_space_id
          head :=
            { (w.history r.project_id).head with
              revision := (w.history r.project_id).next_revision }
          next_revision := (w.history r.project_id).next_revision + 1 }
      else w.history project_id := by
  unfold with_home
  by_cases hproject : project_id = r.project_id
  · rw [if_pos hproject, hproject]
    exact Function.update_self ..
  · rw [if_neg hproject]
    exact Function.update_of_ne hproject ..

/-- Moving the home of a project leaves every source request of the space sound. -/
theorem Sound.with_home (hs : Sound sha w) (hold : w.store.Holds request_id r p)
    (hside : r.side = .source) : Sound sha (w.with_home r) where
  consistent := hs.consistent
  home := by
    intro id x y hxy hxside hrank
    rw [with_home_history]
    by_cases hproject : x.project_id = r.project_id
    · -- a project has one source request, so this is the one whose home moves
      have hrow : x = r := hs.consistent.one x (Table.get?_eq_some_iff.mp hxy.1).1 r
        (Table.get?_eq_some_iff.mp hold.1).1 (hxside.trans hside.symm) hproject
      rw [if_pos hproject, hrow]
    · rw [if_neg hproject]
      exact hs.home id x y hxy hxside hrank
  sealed := hs.sealed
  kept := hs.kept
  retirement := hs.retirement

theorem move_home_meets {loaded : Bool} :
    Meets (Released sha request_id) (At sha request_id 3) (move_home sha request_id loaded)
      (fun _ => Moved sha request_id) := by
  refine Meets.commit ?_
  intro w v _ h hmove
  obtain ⟨r, p, hs, hold, hside, hphase, htransfer⟩ := h.row
  obtain ⟨hreviewed, hmove⟩ := (move_home_iff htransfer hphase).mp hmove
  have hmoved : Moved sha request_id v := by
    split at hmove
    · obtain rfl := hmove
      refine ⟨hs.with_home hold hside, r, p, hold, hside, hphase, ?_, ?_⟩
      · rw [with_home_history, if_pos rfl]
      · unfold Reviewed
        rw [with_home_history, if_pos rfl]
        exact hreviewed
    · obtain ⟨htarget, rfl⟩ := hmove
      exact ⟨hs, r, p, hold, hside, hphase, htarget, hreviewed⟩
  exact ⟨hmoved.released.1, hmoved⟩

theorem move_home_alike : Alike (Released sha request_id) (move_home sha request_id) := by
  intro loaded w v _ h hmove loaded'
  obtain ⟨r, p, -, -, -, hphase, htransfer⟩ := h.row
  exact (move_home_iff htransfer hphase).mpr ((move_home_iff htransfer hphase).mp hmove)

theorem move_home_idle (h : Moved sha request_id w) (loaded : Bool) :
    (move_home sha request_id loaded).Succeeds w w () := by
  obtain ⟨hs, r, p, hold, hside, hphase, hhome, hreviewed⟩ := h
  refine (move_home_iff (hs.reads hold hside) hphase).mpr ⟨hreviewed, ?_⟩
  rw [if_neg]
  · exact ⟨hhome, rfl⟩
  · rw [hhome]
    exact (hs.shaped hold).crosses.symm

/-- Fencing binds the head that the moved home left. -/
theorem fence_spec (h : Moved sha request_id w) (hfence : (fence sha request_id).Succeeds w v ()) :
    At sha request_id 4 v := by
  obtain ⟨hs, r, p, hold, hside, hphase, hhome, hreviewed⟩ := h
  simp only [fence, succeeds_commit, except_bind_ok, hs.reads hold hside, Except.ok.injEq,
    exists_eq_left', except_pure_ok, Prod.mk.injEq, Prod.exists, and_true] at hfence
  obtain ⟨t, row, hfence, rfl⟩ := hfence
  -- the row that is written is the one that was read, fenced
  have hstep := SpaceStore.fence_step hfence
  obtain ⟨current, hread, -, release, -, -, -, h⟩ := SpaceStore.fence_iff.mp hfence
  obtain rfl : current = r :=
    Except.ok.inj (hread.symm.trans (SpaceStore.read_of_sound hold (hs.row hold)))
  rw [if_neg (by simp [hphase])] at h
  obtain ⟨-, hrow, ht⟩ := SpaceStore.replace_eq h.2
  have hkey : current.request_id = request_id := hold.key.1
  have hput : t.requests = w.store.requests.put row := by rw [ht, hrow]
  have hrow_key : row.request_id = request_id := by rw [hrow]; exact hkey
  have hsound : Sound sha { w with store := t } := by
    -- this change passes the fence, and the home has moved; it passes no binding
    refine hs.stepped hstep (by rw [ht]) ?_ ?_
    · intro id x y x' y' hxy hxy' hxside hbefore hafter
      by_cases hid : id = request_id
      · rw [hid] at hxy
        obtain ⟨rfl, -⟩ := hxy.unique hold
        exact hhome
      · -- another request has not changed
        have hsame := hxy'.1
        rw [SpaceStore.get?_requests_put hput, if_neg (by rw [hrow_key]; exact hid), hxy.1] at hsame
        obtain rfl := Option.some.inj hsame
        omega
    · intro id x y x' y' hxy hxy' hxside hbefore hafter
      obtain ⟨a, b, hspan, -, hb⟩ :=
        hstep.crosses hs.consistent hxy hxy' hxside hbefore hafter
      obtain ⟨rfl, rfl⟩ : 3 = a ∧ 4 = b := by simpa [TransferChange.span] using hspan
      omega
  have hget : t.requests.get? request_id = some row := by
    rw [SpaceStore.get?_requests_put hput, if_pos hrow_key.symm]
  obtain ⟨p', hold'⟩ := hsound.consistent.holds hget
  refine ⟨hsound, row, p', hold', by rw [hrow]; exact hside, ?_⟩
  have hfenced : row.phase = .source_fenced := by
    rw [hrow]
    rfl
  rw [row.rank_of_phase hfenced (by decide)]
  decide

theorem fence_meets : Meets (Moved sha request_id) (At sha request_id 3) (fence sha request_id)
    (fun _ => At sha request_id 4) := by
  refine Meets.commit ?_
  intro w v _ h hfence
  have hfenced := fence_spec h hfence
  exact ⟨hfenced.mono (by omega), hfenced⟩

theorem leave_meets {loaded : Bool} :
    Meets (At sha request_id 3) (At sha request_id 3) (leave sha request_id loaded)
      (fun _ => At sha request_id 4) := by
  refine Meets.when (move_home_meets.andThen (fun _ => fence_meets)) ?_
  intro w h hphase
  exact h.next hphase

theorem leave_alike : Alike (At sha request_id 3) (leave sha request_id) := by
  have hrun : Alike (Released sha request_id) (fun q : Bool × Unit =>
      (move_home sha request_id q.1).andThen (fun _ => fence sha request_id)) :=
    move_home_alike.andThen
      (fun _ => move_home_meets.ends)
      (fun _ => alike_of_fixed)
  exact (hrun.reindex (fun loaded => (loaded, ()))).when

theorem leave_restarts : Restarts (At sha request_id 3) (leave sha request_id) := by
  have hmove : RestartsWhile (InPhase request_id .source_released) (Released sha request_id)
      (move_home sha request_id) := by
    -- a second run finds the home moved
    refine restarts_commit move_home_alike.total ?_
    intro loaded w v _ h hmove _ loaded'
    exact move_home_idle (move_home_meets.ends.succeeds h hmove) loaded'
  have hfence : RestartsWhile (InPhase request_id .source_released) (Moved sha request_id)
      (fun _ : Unit => fence sha request_id) := by
    -- past the fence the stage is skipped
    refine restarts_commit alike_of_fixed.total ?_
    intro _ w v _ h hfence hphase
    exact absurd hphase ((fence_spec h hfence).not_in_phase (by decide))
  -- the two commits of the stage, cut off between or after them
  have hrun := hmove.andThen (J := fun _ => Moved sha request_id)
    (fun _ => move_home_meets.ends)
    (fun _ w h loaded => move_home_idle h loaded) (fun _ => hfence)
    (fun _ _ => by
      refine Meets.commit ?_
      intro w v _ h hfence
      refine ⟨fun hphase => ?_, trivial⟩
      exact absurd hphase ((fence_spec h hfence).not_in_phase (by decide)))
    (move_home_alike.follows
      (fun _ => move_home_meets.ends)
      (fun _ => alike_of_fixed.total))
  refine RestartsWhile.when (hrun.reindex (e := fun loaded => (loaded, ())) ?_) ?_
  · intro q
    exact ⟨q.1, rfl⟩
  · intro loaded w v h hphase hsucceeds w' hcut
    obtain ⟨u, _, hmove, hfence⟩ := succeeds_andThen.mp hsucceeds
    have hmoved : Moved sha request_id u :=
      move_home_meets.ends.succeeds ⟨h, hphase⟩ hmove
    rcases mem_cuts_andThen hmove hcut with hcut | hcut
    -- a cut before the fence leaves the phase, one after it is the end of the stage
    · rcases cuts_commit hmove hcut with rfl | rfl
      · exact Or.inl hphase
      · exact Or.inl hmoved.released.2
    · rcases cuts_commit hfence hcut with rfl | rfl
      · exact Or.inl hmoved.released.2
      · exact Or.inr rfl

theorem leave_idle (h : At sha request_id 4 w) (loaded : Bool) :
    (leave sha request_id loaded).Succeeds w w () :=
  succeeds_when_idle (h.not_in_phase (by decide))

/-! ### Publishing and binding the archive -/

/-- The request is a source between its fence and its archive. -/
def Fenced (sha : TransferDigests) (request_id : String) (w : SourceWorld) : Prop :=
  At sha request_id 4 w ∧ InPhase request_id .source_fenced w

theorem Fenced.row (h : Fenced sha request_id w) : ∃ r p, Sound sha w
    ∧ w.store.Holds request_id r p ∧ r.side = .source ∧ r.phase = .source_fenced
    ∧ w.source_transfer sha request_id = .ok r := by
  obtain ⟨⟨hs, r, p, hold, hside, -⟩, hphase⟩ := h
  exact ⟨r, p, hs, hold, hside, (in_phase_iff hold).mp hphase, hs.reads hold hside⟩

theorem fenced_of_row (hs : Sound sha w) (hold : w.store.Holds request_id r p)
    (hside : r.side = .source) (hphase : r.phase = .source_fenced) : Fenced sha request_id w := by
  refine ⟨⟨hs, r, p, hold, hside, ?_⟩, (in_phase_iff hold).mpr hphase⟩
  rw [r.rank_of_phase hphase (by decide)]
  decide

/-- Past the fence the cache of the service does not matter either. -/
theorem expose_iff {loaded : Bool} {b : List UInt8} (hs : Sound sha w)
    (hold : w.store.Holds request_id r p) (hside : r.side = .source)
    (hphase : r.phase = .source_fenced) :
    (expose sha request_id loaded).Succeeds w v b ↔ Reviewed r w ∧ ∃ t,
      w.store.expose_project_transfer_proof sha request_id = .ok (t, b)
        ∧ v = { w with store := t } := by
  -- a fenced source has left, so a fresh service opens it as departed
  have hhome : (w.history r.project_id).home_space_id = r.target_space_id := by
    refine hs.home request_id r p hold hside ?_
    rw [r.rank_of_phase hphase (by decide)]
    decide
  simp only [expose, on_store, succeeds_commit, except_bind_ok, except_pure_ok,
    hs.reads hold hside, Except.ok.injEq, exists_eq_left', settled_ok, Prod.mk.injEq, Prod.exists]
  constructor
  · intro h
    obtain ⟨e, ⟨-, -, hreviewed⟩, t, b', hexpose, rfl, rfl⟩ := h
    exact ⟨hreviewed, t, hexpose, rfl⟩
  · intro h
    obtain ⟨hreviewed, t, hexpose, rfl⟩ := h
    obtain ⟨e, he⟩ : ∃ e, if loaded = true ∨ (r.phase = .source_released
        ∧ (w.history r.project_id).home_space_id = r.source_space_id) then e = r.source_space_id
        else (w.history r.project_id).home_space_id = r.target_space_id
          ∧ e = r.target_space_id := by
      by_cases hloaded : loaded = true
      · exact ⟨r.source_space_id, by rw [if_pos (Or.inl hloaded)]⟩
      · refine ⟨r.target_space_id, ?_⟩
        rw [if_neg (by simp [hloaded, hphase])]
        exact ⟨hhome, rfl⟩
    exact ⟨e, ⟨by rw [hphase]; decide, he, hreviewed⟩, t, b, hexpose, rfl, rfl⟩

/-- The release proof has been shown. -/
def Exposed (sha : TransferDigests) (request_id : String) (b : List UInt8) (w : SourceWorld) :
    Prop :=
  Sound sha w ∧ ∃ r p, w.store.Holds request_id r p ∧ r.side = .source
    ∧ r.phase = .source_fenced ∧ Reviewed r w ∧ p.state ≠ .unexposed ∧ p.state ≠ .consumed
    ∧ p.secret = some b

theorem Exposed.fenced {b : List UInt8} (h : Exposed sha request_id b w) :
    Fenced sha request_id w := by
  obtain ⟨hs, r, p, hold, hside, hphase, -⟩ := h
  exact fenced_of_row hs hold hside hphase

theorem exposed_of_expose {loaded : Bool} {b : List UInt8} (h : Fenced sha request_id w)
    (hexpose : (expose sha request_id loaded).Succeeds w v b) :
    Exposed sha request_id b v ∧ v.archives = w.archives := by
  obtain ⟨r, p, hs, hold, hside, hphase, -⟩ := h.row
  obtain ⟨hreviewed, t, hstore, rfl⟩ := (expose_iff hs hold hside hphase).mp hexpose
  obtain ⟨hprojects, r', p', hold', hphase', hunexposed, hconsumed, hb⟩ :=
    SpaceStore.expose_holds hs.consistent hold hstore
  have hstep := SpaceStore.expose_step hstore
  have hsound : Sound sha { w with store := t } :=
    hs.quiet hstep (by simp [TransferChange.span]) hprojects
  obtain ⟨x, y, hxy, hadvanced⟩ := hstep.later hs.consistent request_id r p hold
  obtain ⟨rfl, rfl⟩ := hxy.unique hold'
  refine ⟨⟨hsound, x, y, hold', hadvanced.side.trans hside, hphase'.trans hphase, ?_, hunexposed,
    hconsumed, hb⟩, rfl⟩
  unfold Reviewed
  rw [hadvanced.project_id, hadvanced.configuration]
  exact hreviewed

theorem expose_idle {b : List UInt8} (h : Exposed sha request_id b w) (loaded : Bool) :
    (expose sha request_id loaded).Succeeds w w b := by
  obtain ⟨hs, r, p, hold, hside, hphase, hreviewed, hunexposed, hconsumed, hb⟩ := h
  have hrow := hs.row hold
  refine (expose_iff hs hold hside hphase).mpr ⟨hreviewed, w.store, ?_, rfl⟩
  refine SpaceStore.expose_iff.mpr ⟨r, p, SpaceStore.read_of_sound hold hrow, ?_, ?_, hold.2,
    hconsumed, hb, (hrow.secret b hb).1, (hrow.secret b hb).2, ?_⟩
  · rw [← hrow.state]
    exact hconsumed
  · simp [SpaceStore.exposable, hside, hphase]
  · rw [if_neg hunexposed]

theorem expose_alike : Alike (Fenced sha request_id) (expose sha request_id) := by
  intro loaded w v b h hexpose loaded'
  obtain ⟨r, p, hs, hold, hside, hphase, -⟩ := h.row
  exact (expose_iff hs hold hside hphase).mpr ((expose_iff hs hold hside hphase).mp hexpose)

theorem expose_meets {loaded : Bool} :
    Meets (Fenced sha request_id) (At sha request_id 4) (expose sha request_id loaded)
      (Exposed sha request_id) := by
  refine Meets.commit ?_
  intro w v b h hexpose
  obtain ⟨hexposed, -⟩ := exposed_of_expose h hexpose
  exact ⟨hexposed.fenced.1, hexposed⟩

/-! The archive differs between runs only in the time it was made. -/

/-- The same archive, made at another time. -/
def made_at (created_at : String) (archive : TransferArchive) : TransferArchive :=
  { archive with manifest := { archive.manifest with created_at } }

theorem capture_made_at {b : List UInt8} {created_at created_at' : String}
    {archive : TransferArchive} (h : w.capture r b created_at = .ok archive) :
    w.capture r b created_at' = .ok (made_at created_at' archive) := by
  simp only [capture, except_bind_ok, except_pure_ok, require_ok, refuse_ok] at h ⊢
  obtain ⟨target_id, htarget, activation, hactivation, codec, hcodec, release, hrelease, admission,
    hadmission, -, hmanifest, rfl⟩ := h
  exact ⟨target_id, htarget, activation, hactivation, codec, hcodec, release, hrelease, admission,
    hadmission, (), hmanifest, rfl⟩

theorem seal_iff {b : List UInt8} {created_at : String}
    (htransfer : w.source_transfer sha request_id = .ok r) :
    (seal_archive sha request_id b created_at).Succeeds w v () ↔
      ∃ archive, w.capture r b created_at = .ok archive ∧ w.archives request_id = none
        ∧ archive.release_proof.length = 32
        ∧ sha.secret archive.release_proof = archive.manifest.source_release_proof_sha256
        ∧ v = w.with_archive request_id (some archive) := by
  simp only [seal_archive, succeeds_commit, except_bind_ok, except_pure_ok, htransfer, refuse_ok,
    read_transfer_archive_ok, Except.ok.injEq, exists_eq_left', Option.not_isSome_iff_eq_none,
    Prod.mk.injEq, and_true]
  refine exists_congr (fun archive => and_congr_right' ?_)
  constructor
  · intro h
    obtain ⟨-, habsent, file, ⟨rfl, hlength, hproof⟩, rfl⟩ := h
    exact ⟨habsent, hlength, hproof, rfl⟩
  · intro h
    obtain ⟨habsent, hlength, hproof, rfl⟩ := h
    exact ⟨(), habsent, archive, ⟨rfl, hlength, hproof⟩, rfl⟩

/-- The archive is on file and not bound yet. -/
def Published (sha : TransferDigests) (request_id : String) (w : SourceWorld) : Prop :=
  Fenced sha request_id w ∧ (w.archives request_id).isSome = true

theorem published_of_seal {b : List UInt8} {created_at : String}
    (h : Exposed sha request_id b w)
    (hseal : (seal_archive sha request_id b created_at).Succeeds w v ()) :
    Published sha request_id v := by
  obtain ⟨hs, r, p, hold, hside, hphase, -⟩ := h
  obtain ⟨archive, -, habsent, -, -, rfl⟩ := (seal_iff (hs.reads hold hside)).mp hseal
  have hrank : r.rank = 4 := by
    rw [r.rank_of_phase hphase (by decide)]
    rfl
  have hsound : Sound sha (w.with_archive request_id (some archive)) := by
    refine hs.refile ?_
    intro x y hxy _ hxrank
    obtain ⟨rfl, -⟩ := hxy.unique hold
    omega
  refine ⟨fenced_of_row hsound hold hside hphase, ?_⟩
  rw [with_archive_self]
  rfl

/-- The state the archive is captured in: fenced, with no file yet. -/
abbrev Capturing (sha : TransferDigests) (request_id : String) (w : SourceWorld) : Prop :=
  Fenced sha request_id w ∧ archive_absent request_id w

theorem seal_other_time {b : List UInt8} {created_at : String} (created_at' : String)
    (htransfer : w.source_transfer sha request_id = .ok r)
    (hseal : (seal_archive sha request_id b created_at).Succeeds w v ()) :
    ∃ archive, v = w.with_archive request_id (some archive)
      ∧ (seal_archive sha request_id b created_at').Succeeds w
        (w.with_archive request_id (some (made_at created_at' archive))) () := by
  obtain ⟨archive, hcapture, habsent, hlength, hproof, rfl⟩ := (seal_iff htransfer).mp hseal
  exact ⟨archive, rfl, (seal_iff htransfer).mpr
    ⟨_, capture_made_at hcapture, habsent, hlength, hproof, rfl⟩⟩

theorem seal_total {b : List UInt8} :
    Total (Exposed sha request_id b) (seal_archive sha request_id b) := by
  intro created_at w v _ h hseal created_at'
  obtain ⟨hs, r, p, hold, hside, -⟩ := h
  obtain ⟨archive, -, hseal'⟩ :=
    seal_other_time created_at' (hs.reads hold hside) hseal
  exact ⟨_, (), hseal'⟩

theorem seal_meets {b : List UInt8} {created_at : String} :
    Meets (Exposed sha request_id b) (At sha request_id 4)
      (seal_archive sha request_id b created_at) (fun _ => Published sha request_id) := by
  refine Meets.commit ?_
  intro w v _ h hseal
  have hpublished := published_of_seal h hseal
  exact ⟨hpublished.1.1, hpublished⟩

theorem publish_meets {loaded : Bool} {created_at : String} :
    Meets (Fenced sha request_id) (At sha request_id 4)
      (publish sha request_id loaded created_at) (fun _ => Published sha request_id) := by
  refine Meets.when ?_ ?_
  · exact (expose_meets.weaken (fun _ h => h.1) (fun _ h => h) (fun _ _ h => h)).andThen
      (fun b => seal_meets)
  · intro w h habsent
    refine ⟨h, ?_⟩
    rw [Option.isSome_iff_ne_none]
    exact habsent

theorem publish_idle (h : Published sha request_id w) (q : Bool × String) :
    (publish sha request_id q.1 q.2).Succeeds w w () := by
  refine succeeds_when_idle ?_
  rw [archive_absent, ← ne_eq, ← Option.isSome_iff_ne_none]
  exact h.2

/-- A publication that was cut off has not bound its archive. -/
theorem publish_cut {q : Bool × String} (h : Fenced sha request_id w)
    (hpublish : (publish sha request_id q.1 q.2).Succeeds w v ())
    {w' : SourceWorld} (hcut : w' ∈ (publish sha request_id q.1 q.2 w).cuts w) :
    InPhase request_id .source_fenced w' := by
  by_cases habsent : archive_absent request_id w
  · rw [publish, succeeds_when, if_pos habsent] at hpublish
    rw [publish, Saga.when, if_pos habsent] at hcut
    obtain ⟨u, b, hexpose, hseal⟩ := succeeds_andThen.mp hpublish
    have hexposed := (exposed_of_expose h hexpose).1
    -- before, between and after the two commits the request is fenced
    rcases mem_cuts_andThen hexpose hcut with hcut | hcut
    · rcases cuts_commit hexpose hcut with rfl | rfl
      · exact h.2
      · exact hexposed.fenced.2
    · rcases cuts_commit hseal hcut with rfl | rfl
      · exact hexposed.fenced.2
      · exact (published_of_seal hexposed hseal).1.2
  · rw [publish, Saga.when, if_neg habsent] at hcut
    obtain rfl : w' = w := by simpa [Outcome.cuts] using hcut
    exact h.2

theorem expose_follows {κ : Type} {f : List UInt8 → κ → SourceSaga Unit}
    (hf : ∀ b, Total (Exposed sha request_id b) (f b)) :
    Sequel (Capturing sha request_id) (expose sha request_id) f := by
  have halike : Alike (Capturing sha request_id) (expose sha request_id) := by
    intro loaded w v b h hexpose loaded'
    exact expose_alike h.1 hexpose loaded'
  exact halike.follows
    (fun _ => expose_meets.ends.weaken (fun _ h => h.1) (fun _ h => h) (fun _ _ h => h)) hf

theorem publish_total : Total (Fenced sha request_id)
    (fun q : Bool × String => publish sha request_id q.1 q.2) := by
  have hexpose : Total (Capturing sha request_id) (expose sha request_id) := by
    intro loaded w v b h hexpose loaded'
    exact expose_alike.total h.1 hexpose loaded'
  exact (hexpose.andThen (expose_follows (fun _ => seal_total))).when

theorem publish_restarts : Restarts (Fenced sha request_id)
    (fun q : Bool × String => publish sha request_id q.1 q.2) := by
  -- showing the proof again gives the same proof; an archive on file is not written again
  have hexpose : RestartsWhile (archive_absent request_id) (Capturing sha request_id)
      (expose sha request_id) := by
    refine restarts_commit ?_ ?_
    · intro loaded w v b h hexpose loaded'
      exact expose_alike.total h.1 hexpose loaded'
    · intro loaded w v b h hexpose _ loaded'
      exact expose_idle (exposed_of_expose h.1 hexpose).1 loaded'
  have hseal : ∀ b, RestartsWhile (archive_absent request_id) (Exposed sha request_id b)
      (seal_archive sha request_id b) := by
    intro b
    refine restarts_commit seal_total ?_
    intro created_at w v _ h hseal habsent
    rw [archive_absent, ← Option.not_isSome_iff_eq_none] at habsent
    exact absurd (published_of_seal h hseal).2 habsent
  refine RestartsWhile.when (hexpose.andThen (J := Exposed sha request_id)
    (fun _ => expose_meets.ends.weaken (fun _ h => h.1) (fun _ h => h) (fun _ _ h => h))
    (fun _ w h loaded => expose_idle h loaded) hseal ?_ (expose_follows (fun _ => seal_total))) ?_
  · intro b created_at
    refine Meets.commit ?_
    intro w v _ h hseal
    refine ⟨fun habsent => ?_, trivial⟩
    rw [archive_absent, ← Option.not_isSome_iff_eq_none] at habsent
    exact absurd (published_of_seal h hseal).2 habsent
  · intro q w v h habsent hsucceeds w' hcut
    obtain ⟨u, b, hexpose, hseal⟩ := succeeds_andThen.mp hsucceeds
    have harchives := (exposed_of_expose h hexpose).2
    have hu : archive_absent request_id u := by
      rw [archive_absent, harchives]
      exact habsent
    rcases mem_cuts_andThen hexpose hcut with hcut | hcut
    · rcases cuts_commit hexpose hcut with rfl | rfl
      · exact Or.inl habsent
      · exact Or.inl hu
    · rcases cuts_commit hseal hcut with rfl | rfl
      · exact Or.inl hu
      · exact Or.inr rfl

theorem bind_archive_iff (htransfer : w.source_transfer sha request_id = .ok r) :
    (bind_archive sha request_id).Succeeds w v () ↔
      ∃ file, w.archives request_id = some file ∧ file.release_proof.length = 32
        ∧ sha.secret file.release_proof = file.manifest.source_release_proof_sha256
        ∧ require_readback_matches_transfer file r = .ok ()
        ∧ ∃ t row, w.store.bind_project_transfer_archive sha request_id (sha.archive file)
            (sha.archive_size file) r.source_fence_head = .ok (t, row)
          ∧ v = { w with store := t } := by
  simp only [bind_archive, succeeds_commit, except_bind_ok, except_pure_ok, htransfer,
    read_matching_archive_ok, Except.ok.injEq, exists_eq_left', Prod.mk.injEq,
      Prod.exists, and_true, and_assoc]

/-- What binding leaves: the archive on file is the one bound. -/
theorem bind_spec (h : Published sha request_id w)
    (hbind : (bind_archive sha request_id).Succeeds w v ()) :
    At sha request_id 5 v ∧ InPhase request_id .archive_bound v
      ∧ (v.archives request_id).isSome = true := by
  obtain ⟨hfenced, hfiled⟩ := h
  obtain ⟨r, p, hs, hold, hside, hphase, htransfer⟩ := hfenced.row
  obtain ⟨file, hfile, hlength, hproof, hmatched, t, row, hstore, rfl⟩ :=
    (bind_archive_iff htransfer).mp hbind
  have hread := (source_transfer_ok.mp htransfer).1
  have hstep := SpaceStore.bind_step (fun x hx _ => by
    obtain rfl := Except.ok.inj (hread.symm.trans hx)
    exact Or.inr rfl) hstore
  -- a fenced row binds no archive yet, so this is not a retry
  have hunbound : r.archive_sha256 = none := by
    refine TransferRequest.none_before (hs.shaped hold).archive ?_
    rw [r.rank_of_phase hphase (by decide)]
    decide
  obtain ⟨-, current, hread', h⟩ := SpaceStore.bind_iff.mp hstore
  obtain rfl : r = current := Except.ok.inj (hread.symm.trans hread')
  rw [if_neg (by simp [hunbound])] at h
  obtain ⟨-, -, bound, hbound, release, -, -, -, h⟩ := h
  obtain ⟨hrow, hold', hprojects⟩ := SpaceStore.replace_holds h hold hold.key.1
  obtain ⟨x, y, hxy, hadvanced⟩ := hstep.later hs.consistent request_id r p hold
  obtain ⟨rfl, rfl⟩ := hxy.unique hold'
  have hseals : Seals sha x file := by
    refine ⟨hlength, hproof, readback_of_advanced hmatched hadvanced, ?_, ?_⟩
    · rw [hrow]
      rfl
    · rw [hrow]
      rfl
  have hsound : Sound sha { w with store := t } := by
    -- this change passes the binding, with the archive on file, and not the fence
    refine hs.stepped hstep hprojects ?_ ?_
    · intro id z q z' q' hzq hzq' hzside hbefore hafter
      obtain ⟨a, b, hspan, ha, -⟩ :=
        hstep.crosses hs.consistent hzq hzq' hzside hbefore hafter
      obtain ⟨rfl, rfl⟩ : 4 = a ∧ 5 = b := by simpa [TransferChange.span] using hspan
      omega
    · intro id z q z' q' hzq hzq' hzside hbefore hafter
      by_cases hid : id = request_id
      · rw [hid] at hzq' ⊢
        obtain ⟨rfl, -⟩ := hzq'.unique hold'
        exact ⟨file, hfile, hseals⟩
      · -- another request has not changed
        obtain ⟨-, hrow', ht⟩ := SpaceStore.replace_eq h
        have hsame := hzq'.1
        rw [SpaceStore.get?_requests_put (s := w.store) (by rw [ht, ← hrow']),
          if_neg (by rw [hold'.key.1]; exact hid), hzq.1] at hsame
        obtain rfl := Option.some.inj hsame
        omega
  have hphase' : x.phase = .archive_bound := by
    rw [hrow]
    rfl
  refine ⟨⟨hsound, x, y, hold', hadvanced.side.trans hside, ?_⟩, ?_, hfiled⟩
  · rw [x.rank_of_phase hphase' (by decide)]
    decide
  · exact (in_phase_iff hold').mpr hphase'

theorem bind_other_time {archive : TransferArchive} (created_at : String)
    (h : Fenced sha request_id w)
    (hbind : (bind_archive sha request_id).Succeeds
      (w.with_archive request_id (some archive)) v ()) :
    ∃ u, (bind_archive sha request_id).Succeeds
      (w.with_archive request_id (some (made_at created_at archive))) u () := by
  obtain ⟨r, p, hs, hold, hside, hphase, htransfer⟩ := h.row
  have hunbound : r.archive_sha256 = none := by
    refine TransferRequest.none_before (hs.shaped hold).archive ?_
    rw [r.rank_of_phase hphase (by decide)]
    decide
  obtain ⟨file, hfile, hlength, hproof, hmatched, t, row, hstore, -⟩ :=
    (bind_archive_iff (w := w.with_archive request_id (some archive)) htransfer).mp hbind
  rw [with_archive_self] at hfile
  obtain rfl : archive = file := Option.some.inj hfile
  -- an unbound row takes any digest
  obtain ⟨t', row', hstore'⟩ := SpaceStore.bind_other (source_transfer_ok.mp htransfer).1 hunbound
    (sha.archive_size_pos (made_at created_at archive)) hstore
  exact ⟨_, (bind_archive_iff
    (w := w.with_archive request_id (some (made_at created_at archive))) htransfer).mpr
    ⟨_, with_archive_self .., hlength, hproof, hmatched, t', row', hstore', rfl⟩⟩

/-- The binding follows a publication at whatever time it was made. -/
theorem publish_follows : Sequel (Fenced sha request_id)
    (fun q : Bool × String => publish sha request_id q.1 q.2)
    (fun (_ : Unit) (_ : Unit) => bind_archive sha request_id) := by
  refine Sequel.when ?_ alike_of_fixed.total
  intro q w v _ h hpublish _ u _ hbind q' v' _ hpublish' _
  obtain ⟨t, b, hexpose, hseal⟩ := succeeds_andThen.mp hpublish
  obtain ⟨t', b', hexpose', hseal'⟩ := succeeds_andThen.mp hpublish'
  obtain ⟨rfl, rfl⟩ := hexpose'.unique (expose_alike h.1 hexpose q'.1)
  have hexposed := (exposed_of_expose h.1 hexpose).1
  obtain ⟨r, p, -, -, -, -, htransfer⟩ := hexposed.fenced.row
  -- a later run may seal at another time, which no check reads
  obtain ⟨archive, rfl, hother⟩ := seal_other_time q'.2 htransfer hseal
  obtain ⟨rfl, -⟩ := hseal'.unique hother
  obtain ⟨u', hbind'⟩ := bind_other_time q'.2 hexposed.fenced hbind
  exact ⟨u', (), hbind'⟩

/-- The archive is bound and on file. -/
def Bound (sha : TransferDigests) (request_id : String) (w : SourceWorld) : Prop :=
  At sha request_id 5 w ∧ InPhase request_id .archive_bound w
    ∧ (w.archives request_id).isSome = true

theorem bind_meets : Meets (Published sha request_id) (At sha request_id 4)
    (bind_archive sha request_id) (fun _ => Bound sha request_id) := by
  refine Meets.commit ?_
  intro w v _ h hbind
  have hbound := bind_spec h hbind
  exact ⟨hbound.1.mono (by omega), hbound⟩

theorem export_meets {loaded : Bool} {created_at : String} :
    Meets (At sha request_id 4) (At sha request_id 4)
      (export_archive sha request_id loaded created_at) (fun _ => At sha request_id 5) := by
  refine Meets.when ?_ ?_
  · exact publish_meets.andThen
      (fun _ => bind_meets.weaken (fun _ h => h) (fun _ h => h) (fun _ _ h => h.1))
  · intro w h hphase
    exact h.next hphase

theorem export_total : Total (At sha request_id 4)
    (fun q : Bool × String => export_archive sha request_id q.1 q.2) := by
  have hfollows : Sequel (Fenced sha request_id) _ _ := publish_follows
  have hrun := publish_total.andThen hfollows
  exact (hrun.reindex (fun q => (q, ()))).when

theorem export_restarts : Restarts (At sha request_id 4)
    (fun q : Bool × String => export_archive sha request_id q.1 q.2) := by
  -- binding the archive ends the phase that guards this stage
  have hleft : ∀ w v, Published sha request_id w →
      (bind_archive sha request_id).Succeeds w v () → ¬ InPhase request_id .source_fenced v :=
    fun w v h hbind => (bind_spec h hbind).1.not_in_phase (by decide)
  have hbind : RestartsWhile (InPhase request_id .source_fenced) (Published sha request_id)
      (fun _ : Unit => bind_archive sha request_id) := by
    refine restarts_commit alike_of_fixed.total ?_
    intro _ w v _ h hbind hphase
    exact absurd hphase (hleft w v h hbind)
  have hrun := (publish_restarts.mono (fun _ _ => trivial)).andThen
    (J := fun _ => Published sha request_id) (fun _ => publish_meets.ends)
    (fun _ _ h q => publish_idle h q) (fun _ => hbind)
    (fun _ _ => by
      refine Meets.commit ?_
      intro w v _ h hbind
      exact ⟨fun hphase => absurd hphase (hleft w v h hbind), trivial⟩)
    publish_follows
  refine RestartsWhile.when (hrun.reindex (e := fun q => (q, ())) ?_) ?_
  · intro q
    exact ⟨q.1, rfl⟩
  · intro q w v h hphase hsucceeds w' hcut
    obtain ⟨u, _, hpublish, hbind⟩ := succeeds_andThen.mp hsucceeds
    have hpublished : Published sha request_id u := publish_meets.succeeds ⟨h, hphase⟩ hpublish
    rcases mem_cuts_andThen hpublish hcut with hcut | hcut
    · exact Or.inl (publish_cut ⟨h, hphase⟩ hpublish hcut)
    · rcases cuts_commit hbind hcut with rfl | rfl
      · exact Or.inl hpublished.1.2
      · exact Or.inr rfl

theorem export_idle (h : At sha request_id 5 w) (q : Bool × String) :
    (export_archive sha request_id q.1 q.2).Succeeds w w () :=
  succeeds_when_idle (h.not_in_phase (by decide))

/-- A bound archive that is on file reads back. -/
theorem read_bound_succeeds (h : Bound sha request_id w) :
    ∃ u r, (inspect (read_bound sha request_id)).Succeeds w u r := by
  obtain ⟨⟨hs, r, p, hold, hside, hrank⟩, hphase, hfiled⟩ := h
  obtain ⟨file, hfile⟩ := Option.isSome_iff_exists.mp hfiled
  refine ⟨w, r, succeeds_inspect.mpr ⟨?_, rfl⟩⟩
  have hseals := hs.sealed request_id r p hold hside hrank file hfile
  simp only [read_bound, except_bind_ok, except_pure_ok, refuse_ok, not_not]
  exact ⟨r, hs.reads hold hside, (), (in_phase_iff hold).mp hphase, (),
    require_bound_archive_ok.mpr ⟨file, hfile, hseals⟩, rfl⟩

theorem export_follows : Sequel (At sha request_id 4)
    (fun q : Bool × String => export_archive sha request_id q.1 q.2)
    (fun (_ : Unit) (_ : Unit) => inspect (read_bound sha request_id)) := by
  refine Sequel.when ?_ alike_of_fixed.total
  exact follows_of_sure (J := fun _ => Bound sha request_id)
    (fun _ => (publish_meets.andThen (fun _ => bind_meets)).ends)
    (fun _ _ _ h => read_bound_succeeds h)

/-! ### Advancing -/

/-- Advancing resumes: cut off anywhere and run again, with whatever the service has loaded and
    at whatever time, it ends as an uninterrupted run does. -/
theorem advance_resumes :
    Resumes (Sound sha) (advance_source_project_transfer sha request_id) := by
  have hread : Resumes (At sha request_id 5)
      (fun _ : Unit => inspect (read_bound sha request_id)) := resumes_inspect
  -- from the last stage backwards, as the procedure runs them
  have hexport := Resumes.andThen (J := fun _ => At sha request_id 5)
    (fun q : Bool × String => export_meets) export_total export_restarts
    (fun _ _ h => h.mono (by omega)) (fun _ _ h q => export_idle h q) export_follows
    (fun _ => hread)
  have hleave := Resumes.andThen (J := fun _ => At sha request_id 4)
    (fun loaded : Bool => leave_meets) leave_alike.total leave_restarts
    (fun _ _ h => h.mono (by omega)) (fun _ _ h loaded => leave_idle h loaded)
    (leave_alike.follows (fun _ => leave_meets.ends) (fun _ => hexport.total)) (fun _ => hexport)
  have hall := Resumes.inspect_andThen (J := fun _ => At sha request_id 3) confirmations_meets
    (fun _ _ h => h.1) (fun _ _ h => confirmations_idle h) (fun _ => hleave)
  refine hall.reindex (e := fun run : AdvanceRun =>
    (run.loaded, (run.reloaded, run.created_at), ())) ?_
  rintro ⟨loaded, ⟨reloaded, created_at⟩, _⟩
  exact ⟨⟨loaded, reloaded, created_at⟩, rfl⟩

end SourceWorld

end ResearchGraph
