import ResearchGraph.Judged
import ResearchGraph.Reference

/-! # The lifecycle of Proposals

    A Proposal is created pending, leaves that status at most once, and is
    never rewritten afterwards.  Only a human approval approves or rejects, and
    one Patch approves at most one Proposal.
-/

namespace ResearchGraph

open Lib

section

variable {p : Patch} {s t u v : GraphState} {op : GraphOperation} {id : String} {q : Proposal}

/-! ### Continuing a Proposal -/

/-- The Proposal without the stamps of its resolution. -/
def Proposal.raised (q : Proposal) : Proposal :=
  { q with
    status := .pending, resolved_rev := none, resolved_by := none,
    resolved_by_operation_id := none, resolution_reason := none, rejection_reason := none }

/-- `q'` is the Proposal `q` later on: only its resolution may differ, and only
    while `q` is pending. -/
structure Continues (q q' : Proposal) : Prop where
  raised : q'.raised = q.raised
  settled : q.status ≠ .pending → q' = q

/-- Every Proposal of `s` is continued in `t`. -/
def ProposalsContinue (s t : GraphState) : Prop :=
  ∀ id q, s.proposals.get? id = some q → ∃ q', t.proposals.get? id = some q' ∧ Continues q q'

theorem Continues.refl (q : Proposal) : Continues q q := ⟨rfl, fun _ => rfl⟩

theorem Continues.trans {q q' q'' : Proposal} (h : Continues q q') (h' : Continues q' q'') :
    Continues q q'' := by
  refine ⟨h'.raised.trans h.raised, fun hq => ?_⟩
  obtain rfl := h.settled hq
  exact h'.settled hq

theorem ProposalsContinue.refl (s : GraphState) : ProposalsContinue s s :=
  fun _ q hq => ⟨q, hq, .refl q⟩

theorem ProposalsContinue.trans (h : ProposalsContinue s t) (h' : ProposalsContinue t u) :
    ProposalsContinue s u := by
  intro id q hq
  obtain ⟨q', hq', hc⟩ := h id q hq
  obtain ⟨q'', hq'', hc'⟩ := h' id q' hq'
  exact ⟨q'', hq'', hc.trans hc'⟩

theorem ProposalsContinue.of_eq (h : t.proposals = s.proposals) : ProposalsContinue s t :=
  fun _ q hq => ⟨q, h ▸ hq, .refl q⟩

/-! ### One operation -/

variable [TextLibrary] {ctx : OpContext}

/-- A judged operation reaches no Proposal that is settled. -/
theorem settled_not_reached (h : JudgedAt validate_proposal ctx u op)
    (hmode : ctx.mode = .admission)
    (hq : u.proposals.get? id = some q) (hstatus : q.status ≠ .pending) :
    id ∉ reached_proposals op := by
  intro hid
  have hpending (h : ∃ q, u.proposals.get? id = some q ∧ q.status = .pending) : False := by
    obtain ⟨q', hq', hstatus'⟩ := h
    obtain rfl := Option.some.inj (hq.symm.trans hq')
    exact hstatus hstatus'
  cases op <;> simp only [reached_proposals, List.not_mem_nil] at hid
  case create_proposals proposals =>
    obtain ⟨raw, hraw, rfl⟩ := List.mem_map.mp hid
    rw [(judged_proposals_fresh h hmode).1 raw hraw] at hq
    cases hq
  case resolve_proposals resolutions =>
    obtain ⟨r, hr, rfl⟩ := List.mem_map.mp hid
    exact hpending ((judged_resolutions h hmode).2 r hr)
  case withdraw_proposals withdrawals =>
    obtain ⟨w, hw, rfl⟩ := List.mem_map.mp hid
    exact hpending ((judged_withdrawals h).2 w hw)

/-- A judged operation only resolves the Proposals that are there. -/
theorem operation_keeps_raised (h : JudgedAt validate_proposal ctx u op)
    (hmode : ctx.mode = .admission) (hv : apply_operation p false u op = .ok v)
    (hq : u.proposals.get? id = some q) :
    ∃ q', v.proposals.get? id = some q' ∧ q'.raised = q.raised := by
  refine apply_operation_invariant
    (fun a => ∃ q', a.proposals.get? id = some q' ∧ q'.raised = q.raised) hv ⟨q, hq, rfl⟩ ?_
  rintro a b hab ⟨q₁, hq₁, hraised⟩
  have hput {x : Proposal} (hx : x.id = id → x.raised = q.raised) :
      ∃ q', (a.proposals.put x).get? id = some q' ∧ q'.raised = q.raised := by
    rw [Table.get?_put]
    split_ifs with hkey
    · exact ⟨x, rfl, hx hkey.symm⟩
    · exact ⟨q₁, hq₁, hraised⟩
  cases hab
  case create_proposal raw hmem =>
    refine hput (fun hid => ?_)
    have hnone := (judged_proposals_fresh h hmode).1 raw hmem
    rw [show raw.id = id from hid, hq] at hnone
    cases hnone
  case resolve_proposal r q₂ hmem hq₂ =>
    refine hput (fun hid => ?_)
    have hkey : q₂.id = r.id := Table.key_of_get? hq₂
    rw [show r.id = id from hkey.symm.trans hid] at hq₂
    obtain rfl := Option.some.inj (hq₁.symm.trans hq₂)
    exact hraised
  case withdraw_proposal w q₂ hmem hq₂ =>
    refine hput (fun hid => ?_)
    have hkey : q₂.id = w.id := Table.key_of_get? hq₂
    rw [show w.id = id from hkey.symm.trans hid] at hq₂
    obtain rfl := Option.some.inj (hq₁.symm.trans hq₂)
    exact hraised
  all_goals exact ⟨q₁, hq₁, hraised⟩

theorem operation_continues (h : JudgedAt validate_proposal ctx u op)
    (hmode : ctx.mode = .admission) (hv : apply_operation p false u op = .ok v) :
    ProposalsContinue u v := by
  intro id q hq
  by_cases hstatus : q.status = .pending
  · obtain ⟨q', hq', hraised⟩ := operation_keeps_raised h hmode hv hq
    exact ⟨q', hq', hraised, absurd hstatus⟩
  · refine ⟨q, ?_, .refl q⟩
    rw [proposals_frame hv (settled_not_reached h hmode hq hstatus), hq]

/-! ### One Patch -/

variable {scope : List String} {settings : ValidationSettings} {binding : ExperimentBinding}
  {final : GraphState} {r : ProposalResolution}

/-- Proposals continue between any two points of an admitted Patch. -/
theorem AdmittedRun.continues_between (h : AdmittedRun s p scope settings binding final)
    {done mid post : List GraphOperation} (hops : p.ops = done ++ (mid ++ post))
    (hu : run_operations p s done = .ok u) (hv : run_operations p u mid = .ok v) :
    ProposalsContinue u v :=
  h.invariant_between hops hu hv (fun _ a => ProposalsContinue u a) (.refl u)
    (fun _ _ _ _ _ _ _ _ hjudged hop ha => ha.trans (operation_continues hjudged rfl hop))

theorem AdmittedRun.continues_from (h : AdmittedRun s p scope settings binding final)
    {done rest : List GraphOperation} (hops : p.ops = done ++ rest)
    (hu : run_operations p s done = .ok u) : ProposalsContinue u final := by
  have hrun := h.run
  rw [hops] at hrun
  obtain ⟨v, hv, hrest⟩ := foldlM_append_ok.mp hrun
  obtain rfl := Except.ok.inj (hu.symm.trans hv)
  have hsplit : p.ops = done ++ (rest ++ []) := by rw [hops, List.append_nil]
  exact h.continues_between hsplit hu hrest

theorem AdmittedRun.continues (h : AdmittedRun s p scope settings binding final)
    {pre post : List GraphOperation} (hops : p.ops = pre ++ post)
    (hu : run_operations p s pre = .ok u) : ProposalsContinue s u :=
  have hsplit : p.ops = [] ++ (pre ++ post) := by rw [hops, List.nil_append]
  h.continues_between hsplit rfl hu

/-- Created Proposals are new to the graph before the Patch. -/
theorem AdmittedRun.created_new (h : AdmittedRun s p scope settings binding final)
    {proposals : List NewProposal} (hop : .create_proposals proposals ∈ p.ops) {raw : NewProposal}
    (hraw : raw ∈ proposals) : s.proposals.get? raw.id = none := by
  obtain ⟨pre, post, hops⟩ := List.append_of_mem hop
  have hrun := h.run
  rw [hops] at hrun
  obtain ⟨u, hu, -⟩ := foldlM_append_ok.mp hrun
  have hnone := (judged_proposals_fresh (h.judged pre _ post u hops hu) rfl).1 raw hraw
  cases hs : s.proposals.get? raw.id with
  | none => rfl
  | some q =>
    obtain ⟨q', hq', -⟩ := h.continues hops hu _ q hs
    rw [hnone] at hq'
    cases hq'

/-- Where the judgment of a Proposal comes from: it was there before, a
    resolution of the Patch made it, or the Proposal was created with it. -/
def JudgmentFrom (s : GraphState) (ops : List GraphOperation) (id : String)
    (status : ProposalStatus) : Prop :=
  (∃ q, s.proposals.get? id = some q ∧ q.status = status) ∨
  (∃ resolutions, .resolve_proposals resolutions ∈ ops ∧
    ∃ r ∈ resolutions, r.id = id ∧ r.status.status = status) ∨
  (∃ proposals, .create_proposals proposals ∈ ops ∧
    ∃ raw ∈ proposals, raw.id = id ∧ raw.status = status)

/-- Approved or rejected. -/
def ProposalStatus.judged : ProposalStatus → Bool
  | .approved | .rejected => true
  | _ => false

omit [TextLibrary] in
theorem run_judgments {ops : List GraphOperation} (h : run_operations p s ops = .ok u) :
    ∀ id q, u.proposals.get? id = some q → q.status.judged = true →
      JudgmentFrom s ops id q.status := by
  refine foldlM_invariant (fun a => ∀ id q, a.proposals.get? id = some q →
    q.status.judged = true → JudgmentFrom s ops id q.status) h
    (fun id q hq _ => Or.inl ⟨q, hq, rfl⟩) ?_
  intro op hop a b hab ha
  refine apply_operation_invariant (fun a => ∀ id q, a.proposals.get? id = some q →
    q.status.judged = true → JudgmentFrom s ops id q.status) hab ha ?_
  intro c d hcd hc id q hq hjudged
  have hput {x : Proposal} (hx : x.id = id → x.status.judged = true →
      JudgmentFrom s ops id x.status) (h : (c.proposals.put x).get? id = some q) :
      JudgmentFrom s ops id q.status := by
    rw [Table.get?_put] at h
    split_ifs at h with hkey
    · obtain rfl := Option.some.inj h
      exact hx hkey.symm hjudged
    · exact hc id q h hjudged
  cases hcd
  case create_proposal proposals raw hmem =>
    exact hput (x := stamped_proposal p c raw)
      (fun hid _ => Or.inr (Or.inr ⟨proposals, hop, raw, hmem, hid, rfl⟩)) hq
  case resolve_proposal resolutions r q₁ hmem hq₁ =>
    have hkey : q₁.id = r.id := Table.key_of_get? hq₁
    exact hput (x := resolved_proposal p q₁ r) (fun hid _ =>
      Or.inr (Or.inl ⟨resolutions, hop, r, hmem, hkey.symm.trans hid, rfl⟩)) hq
  case withdraw_proposal w q₁ _ _ =>
    exact hput (x := withdrawn_proposal p q₁ w) (fun _ hjudged => by cases hjudged) hq
  all_goals exact hc id q hq hjudged

/-! ### Approvals -/

theorem AdmittedRun.resolving (h : AdmittedRun s p scope settings binding final)
    {resolutions : List ProposalResolution} (hop : .resolve_proposals resolutions ∈ p.ops) :
    p.kind = .approval := by
  obtain ⟨pre, post, hops⟩ := List.append_of_mem hop
  have hrun := h.run
  rw [hops] at hrun
  obtain ⟨u, hu, -⟩ := foldlM_append_ok.mp hrun
  exact (judged_resolutions (h.judged pre _ post u hops hu) rfl).1

/-- Only humans write approvals. -/
theorem AdmittedRun.approval_author (h : AdmittedRun s p scope settings binding final)
    (hkind : p.kind = .approval) : p.author = some .human := by
  have hshape := h.shape
  simp only [validate_patch_shape, Check.passes_bind, Check.exists_unit] at hshape
  obtain ⟨-, -, hauthorship, -⟩ := hshape
  have hkind' : (admission_context s p scope settings binding).patch.kind = .approval := hkind
  by_contra hauthor
  have hauthor' : (admission_context s p scope settings binding).patch.author ≠ some .human :=
    hauthor
  simp [validate_authorship, hkind', hauthor'] at hauthorship

omit [TextLibrary] in
theorem mem_resolution_ops {ops : List GraphOperation} {resolutions : List ProposalResolution} :
    resolutions ∈ resolution_ops ops ↔ .resolve_proposals resolutions ∈ ops := by
  simp only [resolution_ops, List.mem_filterMap]
  constructor
  · rintro ⟨op, hop, h⟩
    cases op <;> simp at h
    exact h ▸ hop
  · exact fun h => ⟨_, h, rfl⟩

/-- What an approval shape says about its resolutions: each is of a Proposal
    that is there, and one that is approved stands alone. -/
structure ApprovalResolutions (s : GraphState) (ops : List GraphOperation) : Prop where
  present : ∀ resolutions, .resolve_proposals resolutions ∈ ops →
    ∀ r ∈ resolutions, (s.proposals.get? r.id).isSome = true
  alone : ∀ resolutions, .resolve_proposals resolutions ∈ ops →
    ∀ r ∈ resolutions, r.status = .approved → resolution_ops ops = [[r]]

omit [TextLibrary] in
theorem choice_resolutions_present {n : Node}
    (h : Check.Passes (validate_choice_withdrawals s p n) ())
    {resolutions : List ProposalResolution} (hop : .resolve_proposals resolutions ∈ p.ops)
    (hr : r ∈ resolutions) : (s.proposals.get? r.id).isSome = true := by
  simp only [validate_choice_withdrawals, Check.passes_bind] at h
  obtain ⟨seen, hthread, -⟩ := h
  obtain ⟨_, _, hops⟩ := Check.passes_thread_mem hthread (mem_resolution_ops.mpr hop)
  unfold validate_superseded_proposals at hops
  split_ifs at hops with hnil
  · simp at hops
  · obtain ⟨_, _, hrule⟩ := Check.passes_thread_mem hops hr
    simp only [validate_superseded_proposal, Check.passes_bind, Check.exists_unit] at hrule
    obtain ⟨hfound, -⟩ := hrule
    split_ifs at hfound
    · simp at hfound
    · cases hq : s.proposals.get? r.id with
      | none => simp [hq] at hfound
      | some q => rfl

omit [TextLibrary] in
/-- A direct choice went through its withdrawals. -/
theorem direct_choice_withdrawals (h : Check.Passes (validate_direct_decision_choice s p) ()) :
    ∃ n, Check.Passes (validate_choice_withdrawals s p n) () := by
  have hchoice {n : Node} {d : Decision} {update : NodeUpdate}
      (h : Check.Passes (validate_choice s p n d update) ()) :
      Check.Passes (validate_choice_withdrawals s p n) () := by
    simp only [validate_choice, Check.passes_bind, Check.exists_unit] at h
    obtain ⟨-, -, h⟩ := h
    split_ifs at h
    · simp at h
    · simp only [Check.passes_bind, Check.exists_unit] at h
      exact h.2.2.2.2
  unfold validate_direct_decision_choice at h
  simp only [] at h
  split at h
  · simp at h
  split at h
  · simp at h
  -- two shapes go on: one update, with or without a review
  split at h
  case h_3 => simp at h
  case h_4 => simp at h
  case h_5 => simp at h
  all_goals
    split at h
    · simp at h
    split at h
    · simp at h
    · next n _ =>
      split at h
      · exact ⟨n, hchoice h⟩
      · simp at h

omit [TextLibrary] in
theorem approval_resolutions (h : Check.Passes (validate_approval_shape s p .admission) ()) :
    ApprovalResolutions s p.ops := by
  unfold validate_approval_shape at h
  split_ifs at h with hchoice
  · obtain ⟨n, hn⟩ := direct_choice_withdrawals h
    refine ⟨fun _ hop r hr => choice_resolutions_present hn hop hr,
      fun resolutions hop r hr hstatus => ?_⟩
    refine absurd ?_ hchoice.2
    simp only [approves, List.any_eq_true, List.mem_flatMap, decide_eq_true_eq]
    exact ⟨r, ⟨_, hop, hr⟩, hstatus⟩
  · have hmem {resolutions : List ProposalResolution}
      (hop : .resolve_proposals resolutions ∈ p.ops) :=
      mem_resolution_ops.mpr hop
    split at h
    · next hnil =>
      rw [hnil] at hmem
      exact ⟨fun _ hop => absurd (hmem hop) (by simp), fun _ hop => absurd (hmem hop) (by simp)⟩
    · unfold validate_resolution_shape at h
      simp only [] at h
      split at h
      · next resolution hone =>
        have hpresent : (s.proposals.get? resolution.id).isSome = true := by
          cases hq : s.proposals.get? resolution.id with
          | none => simp [hq] at h
          | some q => rfl
        rw [hone] at hmem
        refine ⟨fun _ hop r hr => ?_, fun _ hop r hr _ => ?_⟩
        all_goals
          obtain rfl := List.mem_singleton.mp (hmem hop)
          obtain rfl := List.mem_singleton.mp hr
        · exact hpresent
        · exact hone
      · simp at h

theorem AdmittedRun.approval_resolutions (h : AdmittedRun s p scope settings binding final)
    {resolutions : List ProposalResolution} (hop : .resolve_proposals resolutions ∈ p.ops) :
    ApprovalResolutions s p.ops := by
  have hshape := h.shape
  simp only [validate_patch_shape, Check.passes_bind, Check.exists_unit,
    Check.passes_when] at hshape
  obtain ⟨-, -, -, -, -, -, -, -, -, happroval⟩ := hshape
  exact ResearchGraph.approval_resolutions (happroval (h.resolving hop))

/-! ### Runs -/

/-- `id` is a Proposal of `s` that first has the status in `t`. -/
def Becomes (s t : GraphState) (id : String) (status : ProposalStatus) : Prop :=
  ∃ q q', s.proposals.get? id = some q ∧ t.proposals.get? id = some q' ∧
    q.status ≠ status ∧ q'.status = status

/-- What a committed Patch does to the Proposals of the graph before it, also
    between any two of its operations. -/
structure ProposalStep (s : GraphState) (p : Patch) (t : GraphState) : Prop where
  continues : ProposalsContinue s t
  operation_continues : ∀ pre op post u v, p.ops = pre ++ op :: post →
    run_operations p s pre = .ok u → apply_operation p false u op = .ok v → ProposalsContinue u v
  judged_by_human : ∀ id status, status = .approved ∨ status = .rejected →
    Becomes s t id status → p.author = some .human ∧ p.kind = .approval
  approves_one : ∀ id id', Becomes s t id .approved → Becomes s t id' .approved → id = id'

omit [TextLibrary] in
theorem committed_proposals (p : Patch) (ids : List String) :
    (stamp_patch p (rederive_layers u ids)).proposals = u.proposals := by
  obtain ⟨edges, h⟩ := rederive_layers_frame (s := u) ids
  rw [h]
  rfl

/-- A judgment that was not there before is a resolution of the Patch. -/
theorem AdmittedRun.judgment_resolved (h : AdmittedRun s p scope settings binding final)
    {status : ProposalStatus} (hstatus : status.judged = true) (hb : Becomes s final id status) :
    ∃ resolutions, .resolve_proposals resolutions ∈ p.ops ∧
      ∃ r ∈ resolutions, r.id = id ∧ r.status.status = status := by
  obtain ⟨q, q', hq, hq', hne, rfl⟩ := hb
  rcases run_judgments h.run id q' hq' hstatus with
    ⟨q₁, hq₁, heq⟩ | hres | ⟨proposals, hop, raw, hraw, hid, -⟩
  · obtain rfl := Option.some.inj (hq.symm.trans hq₁)
    exact absurd heq hne
  · exact hres
  · have hnone := h.created_new hop hraw
    rw [hid, hq] at hnone
    cases hnone

theorem AdmittedRun.proposal_step (h : AdmittedRun s p scope settings binding final) :
    ProposalStep s p final where
  continues := h.continues (List.append_nil _).symm h.run
  operation_continues pre op post u v hops hu hv :=
    ResearchGraph.operation_continues (h.judged pre op post u hops hu) rfl hv
  judged_by_human id status hstatus hb := by
    have hjudged : status.judged = true := by rcases hstatus with rfl | rfl <;> rfl
    obtain ⟨resolutions, hop, -⟩ := h.judgment_resolved hjudged hb
    exact ⟨h.approval_author (h.resolving hop), h.resolving hop⟩
  approves_one id id' hb hb' := by
    have happroved {r : ProposalResolution} (hr : r.status.status = .approved) :
        r.status = .approved := by
      cases hs : r.status <;> simp [hs, ResolutionStatus.status] at hr ⊢
    obtain ⟨resolutions, hop, r, hr, rfl, hstatus⟩ := h.judgment_resolved rfl hb
    obtain ⟨resolutions', hop', r', hr', rfl, hstatus'⟩ := h.judgment_resolved rfl hb'
    have hshape := h.approval_resolutions hop
    have hone := hshape.alone resolutions hop r hr (happroved hstatus)
    have hone' := hshape.alone resolutions' hop' r' hr' (happroved hstatus')
    obtain rfl : r = r' := by simpa [hone] using hone'
    rfl

omit [TextLibrary] in
/-- RCP's bookkeeping makes every created Proposal pending. -/
theorem bookkept_pending {p₀ : Patch} {proposals : List NewProposal}
    (hop : .create_proposals proposals ∈ (prepare_patch_bookkeeping s p₀).ops) {raw : NewProposal}
    (hraw : raw ∈ proposals) : raw.status = .pending := by
  obtain ⟨op, -, hop⟩ := List.mem_map.mp hop
  cases op <;> simp at hop
  subst hop
  obtain ⟨raw₀, -, rfl⟩ := List.mem_map.mp hraw
  rfl

/-- No Proposal is created and judged in one Patch. -/
theorem AdmittedRun.created_unjudged {p₀ : Patch}
    (h : AdmittedRun s (prepare_patch_bookkeeping s p₀) scope settings binding final)
    (hs : s.proposals.get? id = none) (hq : final.proposals.get? id = some q) :
    q.status.judged = false := by
  rw [Bool.eq_false_iff]
  intro hjudged
  rcases run_judgments h.run id q hq hjudged with ⟨q₁, hq₁, -⟩ | ⟨resolutions, hop, r, hr, rfl, -⟩ |
    ⟨proposals, hop, raw, hraw, -, hstatus⟩
  · rw [hs] at hq₁
    cases hq₁
  · have hsome := (h.approval_resolutions hop).present resolutions hop r hr
    simp [hs] at hsome
  · rw [← hstatus, bookkept_pending hop hraw] at hjudged
    cases hjudged

variable [Canonical]

theorem Commits.proposal_step (h : Commits s p t) : ProposalStep s p t := by
  obtain ⟨scope, settings, binding, final, hrun, rfl⟩ := h.run
  have hfinal := hrun.proposal_step
  have hproposals := committed_proposals (u := final) p (stored_edge_ids p.ops)
  refine ⟨hfinal.continues.trans (.of_eq hproposals), hfinal.operation_continues, ?_, ?_⟩
  · intro id status hstatus
    rw [Becomes, hproposals]
    exact hfinal.judged_by_human id status hstatus
  · intro id id'
    rw [Becomes, Becomes, hproposals]
    exact hfinal.approves_one id id'

/-- One more Patch of a history, judged at the revision of the head its
    transition starts from. -/
def Extends (s t : GraphState) : Prop :=
  ∃ revision p, Commits { s with revision } p t

/-- Proposals over whole histories: each committed Patch treats them as
    `ProposalStep` says, those it creates are not judged yet, and along any
    history every Proposal is continued. -/
theorem proposal_lifecycle :
    (∀ s p t, Commits s p t → ProposalStep s p t) ∧
    (∀ s p₀ t, Commits s (prepare_patch_bookkeeping s p₀) t → ∀ id q,
      s.proposals.get? id = none → t.proposals.get? id = some q → q.status.judged = false) ∧
    ∀ s t, Relation.ReflTransGen Extends {} s → Relation.ReflTransGen Extends s t →
      ProposalsContinue s t := by
  refine ⟨fun s p t h => h.proposal_step, ?_, ?_⟩
  · intro s p₀ t h id q hs hq
    obtain ⟨scope, settings, binding, final, hrun, rfl⟩ := h.run
    rw [committed_proposals] at hq
    exact hrun.created_unjudged hs hq
  · intro s t _ hrun
    induction hrun with
    | refl => exact .refl s
    | tail _ hext ih =>
      obtain ⟨revision, p, hcommit⟩ := hext
      exact ih.trans hcommit.proposal_step.continues

end

open scoped Reference

/-- A graph with the question `rq/a`. -/
def asked_graph : GraphState :=
  Reference.result (apply_valid_patch {}
    (Reference.agent_patch 1 [.create_nodes [Reference.question "rq/a"]]))

/-- An agent proposes to remove the question. -/
def propose_removal_patch : Patch :=
  prepare_patch_bookkeeping asked_graph (Reference.agent_patch 2 [
    .create_proposals [{ id := "pr/a", title := "Drop it", ops := [.removal false ["rq/a"]] }]])

def proposed_graph : GraphState :=
  Reference.result (apply_valid_patch asked_graph propose_removal_patch)

/-- The human rejects the removal. -/
def reject_removal_patch : Patch := Reference.human_patch 3 [
  .resolve_proposals [{ id := "pr/a", status := .rejected }]]

def refused_graph : GraphState :=
  Reference.result (apply_valid_patch proposed_graph reject_removal_patch)

/-- The removal is raised by one Patch and rejected by the next, a human
    approval, and both keep the lifecycle. -/
theorem rejected_removal_lifecycle :
    Commits asked_graph propose_removal_patch proposed_graph ∧
      Commits proposed_graph reject_removal_patch refused_graph ∧
      Becomes proposed_graph refused_graph "pr/a" .rejected ∧
      ProposalStep proposed_graph reject_removal_patch refused_graph ∧
      ∀ q, proposed_graph.proposals.get? "pr/a" = some q → q.status.judged = false := by
  have hraise : Commits asked_graph propose_removal_patch proposed_graph :=
    ⟨["main"], {}, {}, by decide, Reference.eq_ok_result (by decide)⟩
  have hreject : Commits proposed_graph reject_removal_patch refused_graph :=
    ⟨["main"], {}, {}, by decide, Reference.eq_ok_result (by decide)⟩
  refine ⟨hraise, hreject, ⟨_, _, rfl, rfl, by decide, by decide⟩,
    proposal_lifecycle.1 _ _ _ hreject, fun q hq => ?_⟩
  exact proposal_lifecycle.2.1 _ _ _ hraise "pr/a" q (by decide) hq

end ResearchGraph
