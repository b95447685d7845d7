import ResearchGraph.Append
import ResearchGraph.Guidance
import ResearchGraph.Lib.Newest
import ResearchGraph.Provenance

/-! # Guidance validity after a transition

    The stale flags of an Experiment after a prepared transition, said in terms
    of the initiating operations alone:
    - an operation that changed what the Experiment depends on makes every
      non-empty guidance text stale,
    - else an operation that wrote a text makes it current,
    - else the flag is the one the Experiment started with.

    The proof reads the flags of the initiating graph off the operations, and
    then follows them through the generated actions.
-/

namespace ResearchGraph

open Lib

/-! ### Guidance fields -/

inductive GuidanceField
  | current_summary
  | next_action
  deriving DecidableEq

namespace GuidanceField

def name : GuidanceField → String
  | .current_summary => "current_summary"
  | .next_action => "next_action"

def stale_name : GuidanceField → String
  | .current_summary => "current_summary_stale"
  | .next_action => "next_action_stale"

def text : GuidanceField → Experiment → String
  | .current_summary, e => e.current_summary
  | .next_action, e => e.next_action.getD ""

def stale : GuidanceField → Experiment → Bool
  | .current_summary, e => e.current_summary_stale
  | .next_action, e => e.next_action_stale

theorem stale_name_inj {F G : GuidanceField} (h : F.stale_name = G.stale_name) : F = G := by
  cases F <;> cases G
  case current_summary.current_summary | next_action.next_action => rfl
  all_goals exact absurd h (by decide)

end GuidanceField

/-! ### What the initiating operations did -/

/-- The graph after the first `k` initiating operations. -/
def initiated (s : GraphState) (actions : List (Patch × GraphOperation)) (k : Nat) :
    Applied GraphState :=
  (actions.take k).foldlM (fun u a => apply_valid_operation u a.1 a.2) s

/-- Operation `k` changed the dependency signature of an Experiment that was
    there before and after it. -/
def SignatureChangedAt (s : GraphState) (actions : List (Patch × GraphOperation)) (id : String)
    (k : Nat) : Prop :=
  k < actions.length ∧ ∃ a b, initiated s actions k = .ok a ∧ initiated s actions (k + 1) = .ok b ∧
    (a.experiment? id).isSome ∧ (b.experiment? id).isSome ∧
    experiment_dependency_signature a id ≠ experiment_dependency_signature b id

/-- Operation `k` wrote a guidance field of a node. -/
def WrittenAt (actions : List (Patch × GraphOperation)) (id : String) (F : GuidanceField)
    (k : Nat) : Prop :=
  ∃ a, actions[k]? = some a ∧ ∃ u ∈ a.2.updates, u.id = id ∧ Dict.has u.changes F.name = true

/-- The node as the last creation in the operations gave it, else as it was. -/
def origin (s : GraphState) (actions : List (Patch × GraphOperation)) (id : String) : Option Node :=
  (last_created (fun n => n) (actions.map Prod.snd) id).or (s.nodes.get? id)

section

variable {p q first : Patch} {s t u : GraphState} {actions : List (Patch × GraphOperation)}
  {id : String} {e e' : Experiment}

theorem initiated_cons (p : Patch) (op : GraphOperation) {k : Nat} :
    initiated s ((p, op) :: actions) (k + 1) = .ok u ↔
      ∃ v, apply_valid_operation s p op = .ok v ∧ initiated v actions k = .ok u := by
  rw [initiated, List.take_succ_cons, foldlM_cons_ok]
  rfl

/-- The steps of a timeline are the initiating operations, in order. -/
theorem timeline_step {i k : Nat} {steps : List TimelineStep} {step : TimelineStep}
    (h : timeline_from s i actions = .ok (steps, t)) (hstep : steps[k]? = some step) :
    step.index = i + k ∧ k < actions.length ∧ initiated s actions k = .ok step.before ∧
      initiated s actions (k + 1) = .ok step.after := by
  induction actions generalizing s i k steps with
  | nil =>
    cases h
    simp at hstep
  | cons a actions ih =>
    obtain ⟨p, op⟩ := a
    simp only [timeline_from, except_bind_ok] at h
    obtain ⟨v, hv, ⟨rest, final⟩, hrest, h⟩ := h
    obtain ⟨rfl, rfl⟩ := Prod.mk.inj (except_pure_ok.mp h)
    cases k with
    | zero =>
      obtain rfl := Option.some.inj hstep
      exact ⟨rfl, by simp, rfl, (initiated_cons p op).mpr ⟨v, hv, rfl⟩⟩
    | succ k =>
      obtain ⟨hindex, hlt, hbefore, hafter⟩ := ih hrest hstep
      refine ⟨by omega, by simpa using hlt, ?_, ?_⟩
      · exact (initiated_cons p op).mpr ⟨v, hv, hbefore⟩
      · exact (initiated_cons p op).mpr ⟨v, hv, hafter⟩

theorem timeline_length {i : Nat} {steps : List TimelineStep}
    (h : timeline_from s i actions = .ok (steps, t)) : steps.length = actions.length := by
  induction actions generalizing s i steps with
  | nil =>
    cases h
    rfl
  | cons a actions ih =>
    obtain ⟨p, op⟩ := a
    simp only [timeline_from, except_bind_ok] at h
    obtain ⟨v, hv, ⟨rest, final⟩, hrest, h⟩ := h
    obtain ⟨rfl, rfl⟩ := Prod.mk.inj (except_pure_ok.mp h)
    simp [ih hrest]

/-- A step of the timeline says whether its operation changed the signature. -/
theorem changed_iff {k : Nat} {steps : List TimelineStep} {step : TimelineStep}
    (h : timeline_from s 0 actions = .ok (steps, t)) (hstep : steps[k]? = some step) :
    dependency_changed id step = true ↔ SignatureChangedAt s actions id k := by
  obtain ⟨-, hlt, hbefore, hafter⟩ := timeline_step h hstep
  simp only [dependency_changed, Bool.and_eq_true, decide_eq_true_eq]
  constructor
  · intro hchanged
    exact ⟨hlt, _, _, hbefore, hafter, hchanged.1.1, hchanged.1.2, hchanged.2⟩
  · intro hchanged
    obtain ⟨-, a, b, ha, hb, hea, heb, hne⟩ := hchanged
    obtain rfl := Except.ok.inj (hbefore.symm.trans ha)
    obtain rfl := Except.ok.inj (hafter.symm.trans hb)
    exact ⟨⟨hea, heb⟩, hne⟩

/-! ### Causes -/

/-- Operation `c` is the first that changed the signature. -/
def FirstChange (s : GraphState) (actions : List (Patch × GraphOperation)) (id : String) (c : Nat) :
    Prop :=
  SignatureChangedAt s actions id c ∧ ∀ k < c, ¬ SignatureChangedAt s actions id k

/-- Operation `c` is the last that wrote the field. -/
def LastWrite (actions : List (Patch × GraphOperation)) (id : String) (F : GuidanceField)
    (c : Nat) : Prop :=
  WrittenAt actions id F c ∧ ∀ k, c < k → ¬ WrittenAt actions id F k

theorem invalidation_cause_some {steps : List TimelineStep} {c : Nat}
    (h : timeline_from s 0 actions = .ok (steps, t)) (hc : invalidation_cause steps id = some c) :
    FirstChange s actions id c := by
  obtain ⟨step, hfind, rfl⟩ := Option.map_eq_some_iff.mp hc
  obtain ⟨hchanged, k, hk, hget, hbefore⟩ := List.find?_eq_some_iff_getElem.mp hfind
  have hstep : steps[k]? = some step := by rw [List.getElem?_eq_getElem hk, hget]
  have hindex : step.index = k := by simpa using (timeline_step h hstep).1
  rw [hindex]
  refine ⟨(changed_iff h hstep).mp hchanged, fun j hj hat => ?_⟩
  have hj' : j < steps.length := hj.trans hk
  have hearlier := (changed_iff h (List.getElem?_eq_getElem hj')).mpr hat
  simpa [hearlier] using hbefore j hj

theorem invalidation_cause_none {steps : List TimelineStep} {k : Nat}
    (h : timeline_from s 0 actions = .ok (steps, t)) (hc : invalidation_cause steps id = none) :
    ¬ SignatureChangedAt s actions id k := by
  intro hat
  have hk : k < steps.length := by
    rw [timeline_length h]
    exact hat.1
  have hnone := List.find?_eq_none.mp (Option.map_eq_none_iff.mp hc)
  exact hnone _ (List.getElem_mem hk) ((changed_iff h (List.getElem?_eq_getElem hk)).mpr hat)

/-- An action writes the field exactly when the code's scan says so. -/
theorem written_iff (F : GuidanceField) {k : Nat} :
    WrittenAt actions id F k ↔ ∃ a, actions[k]? = some a ∧
      (a.2.updates.any (fun u => u.id = id ∧ Dict.has u.changes F.name)) = true := by
  simp [WrittenAt]

theorem explicit_update_some {F : GuidanceField} {c : Nat}
    (hc : explicit_guidance_update actions id F.name = some c) : LastWrite actions id F c := by
  obtain ⟨⟨a, ha, hwrites⟩, hlater⟩ := (last_index_of (fun a : Patch × GraphOperation =>
    a.2.updates.any (fun u => u.id = id ∧ Dict.has u.changes F.name)) actions).1 c hc
  refine ⟨(written_iff F).mpr ⟨a, ha, hwrites⟩, fun k hk hat => ?_⟩
  obtain ⟨b, hb, hwrites⟩ := (written_iff F).mp hat
  rw [hlater k hk b hb] at hwrites
  cases hwrites

theorem explicit_update_none {F : GuidanceField} {k : Nat}
    (hc : explicit_guidance_update actions id F.name = none) : ¬ WrittenAt actions id F k := by
  intro hat
  obtain ⟨a, ha, hwrites⟩ := (written_iff F).mp hat
  have hquiet := (last_index_of (fun a : Patch × GraphOperation =>
    a.2.updates.any (fun u => u.id = id ∧ Dict.has u.changes F.name)) actions).2 hc k a ha
  rw [hquiet] at hwrites
  cases hwrites

/-! ### Flags of the initiating graph -/

/-- The stale flags of a node, if it is an Experiment. -/
def Node.flags (n : Node) : Option (Bool × Bool) :=
  match n.body with
  | .experiment e => some (e.current_summary_stale, e.next_action_stale)
  | _ => none

/-- Outside generated actions a current-generation Patch cannot write the flags. -/
theorem steady_flags (hgen : p.schema_generation = .two) : SteadyUnder p false Node.flags where
  created _ _ := rfl
  reviewed _ _ _ := rfl
  superseded {n m} h := by
    obtain ⟨body, hbody, rfl⟩ := superseded_node_ok h
    unfold NodeBody.superseded at hbody
    unfold Node.flags
    split at hbody <;> simp_all only [Option.some.injEq, reduceCtorEq] <;> subst hbody <;> rfl
  updated {n m u} h := by
    obtain ⟨himmutable, m', hm', rfl⟩ := updated_node_ok h
    have habsent {k : String} (hk : k ∈ IMMUTABLE_NODE_UPDATE_FIELDS) :
        Dict.has u.changes k = false := by
      have hfields : immutable_fields p false = IMMUTABLE_NODE_UPDATE_FIELDS := by
        simp [immutable_fields, hgen]
      rw [hfields] at himmutable
      by_contra hhas
      refine himmutable k ?_ hk
      rw [Table.mem_keys_iff, ← Table.contains, ← Dict.has_eq_contains]
      simpa using hhas
    obtain ⟨-, htype, -, -, -, hbody⟩ := with_changes_ok hm'
    show m'.flags = n.flags
    cases hn : n.body with
    | experiment e =>
      simp only [hn, NodeBody.with_changes, except_map_ok, Experiment.with_changes,
        except_bind_ok, except_pure_ok] at hbody
      obtain ⟨e', ⟨_, -, _, -, _, -, _, -, _, -, _, -, _, -, _, -, _, -, _, -, b, hb, b', hb', rfl⟩,
        hflagged⟩ := hbody
      obtain rfl := overlay_absent hb (habsent (by decide))
      obtain rfl := overlay_absent hb' (habsent (by decide))
      simp [Node.flags, hn, hflagged]
    | _ =>
      unfold Node.flags
      rw [hn]
      cases hm : m'.body <;> simp_all [Node.type, NodeBody.type]

/-- What one initiating operation leaves of the flags. -/
theorem operation_flags {op : GraphOperation} {n : Node} (hgen : p.schema_generation = .two)
    (htrace : p.transition = none) (h : apply_valid_operation s p op = .ok t)
    (hn : t.nodes.get? id = some n) :
    some n.flags = (last_created Node.flags [op] id).or ((s.nodes.get? id).map Node.flags) := by
  obtain ⟨u, hu, rfl⟩ := (apply_valid_operation_ok htrace).mp h
  have hn : u.nodes.get? id = some n := hn
  by_cases hremoved : id ∈ removed_nodes op
  · exfalso
    cases op <;> simp [removed_nodes] at hremoved
    cases hu
    obtain ⟨-, hkept⟩ := Option.filter_eq_some_iff.mp ((Table.get?_filter _ _ _).symm.trans hn)
    have hkey : n.id = id := Table.key_of_get? hn
    simp [hkey, hremoved] at hkept
  · rw [← operation_node_reading (steady_flags hgen) hu hremoved, hn]
    rfl

/-- The flags of the initiating graph are those of the node's origin. -/
theorem initiated_flags {n : Node} (hgen : ∀ a ∈ actions, a.1.schema_generation = .two)
    (htrace : ∀ a ∈ actions, a.1.transition = none)
    (h : actions.foldlM (fun u a => apply_valid_operation u a.1 a.2) s = .ok t)
    (hn : t.nodes.get? id = some n) :
    some n.flags = (last_created Node.flags (actions.map Prod.snd) id).or
      ((s.nodes.get? id).map Node.flags) := by
  induction actions generalizing s with
  | nil =>
    obtain rfl := foldlM_nil_ok.mp h
    simp [last_created, created_nodes_of, hn]
  | cons a actions ih =>
    obtain ⟨v, hv, hrest⟩ := foldlM_cons_ok.mp h
    have hlater := ih (fun b hb => hgen b (by simp [hb]))
      (fun b hb => htrace b (by simp [hb])) hrest
    rw [hlater, List.map_cons, last_created_cons, Option.or_assoc]
    cases hlast : last_created Node.flags (actions.map Prod.snd) id with
    | some flags => rfl
    | none =>
      -- nothing later creates the node, so it is the one the first operation left
      rw [hlast, Option.none_or] at hlater
      obtain ⟨m, hm, hflags⟩ := Option.map_eq_some_iff.mp hlater.symm
      rw [Option.none_or, Option.none_or, hm, Option.map_some]
      exact operation_flags (hgen a (by simp)) (htrace a (by simp)) hv hm

theorem origin_flags :
    (origin s actions id).map Node.flags = (last_created Node.flags (actions.map Prod.snd) id).or
      ((s.nodes.get? id).map Node.flags) := by
  unfold origin last_created
  cases ((created_nodes_of (actions.map Prod.snd)).filter
    (fun raw => raw.node.id = id)).getLast? <;> rfl

/-- The stale flag of an Experiment no operation has touched is that of its origin. -/
theorem initiated_stale (hgen : ∀ a ∈ actions, a.1.schema_generation = .two)
    (htrace : ∀ a ∈ actions, a.1.transition = none)
    (h : actions.foldlM (fun u a => apply_valid_operation u a.1 a.2) s = .ok t)
    (he : t.experiment? id = some e) :
    ∃ n₀ e₀, origin s actions id = some n₀ ∧ n₀.body = .experiment e₀ ∧
      ∀ F : GuidanceField, F.stale e = F.stale e₀ := by
  obtain ⟨n, hn, hbody⟩ := experiment?_eq_some.mp he
  have hflags := initiated_flags hgen htrace h hn
  rw [← origin_flags] at hflags
  obtain ⟨n₀, horigin, hsame⟩ := Option.map_eq_some_iff.mp hflags.symm
  have hsome : n.flags = some (e.current_summary_stale, e.next_action_stale) := by
    simp [Node.flags, hbody]
  rw [hsome] at hsame
  cases hbody₀ : n₀.body with
  | experiment e₀ =>
    simp only [Node.flags, hbody₀, Option.some.injEq, Prod.mk.injEq] at hsame
    refine ⟨n₀, e₀, horigin, hbody₀, fun F => ?_⟩
    cases F
    · exact hsame.1.symm
    · exact hsame.2.symm
  | _ => simp [Node.flags, hbody₀] at hsame

/-! ### Flags through the generated actions -/

/-- The value a generated action gives to a stale flag of a node. -/
def GraphOperation.sets (op : GraphOperation) (id : String) (F : GuidanceField) : Option Bool :=
  match op with
  | .update_nodes [u] =>
    if u.id = id then
      match Dict.get u.changes F.stale_name with
      | some (.bool b) => some b
      | _ => none
    else none
  | _ => none

/-- Stale flags read from an overlay of truth values. -/
theorem overlay_flag {c : Dict String Value} {k : String} {current b : Bool} {mode : DecodeMode}
    (hbool : ∀ v, Dict.get c k = some v → ∃ x, v = .bool x)
    (h : overlay c k current (decode_bool mode) = .ok b) :
    b = ((match Dict.get c k with | some (.bool x) => some x | _ => none : Option Bool)).getD
      current := by
  unfold overlay at h
  cases hget : Dict.get c k with
  | none =>
    simp only [hget, Except.ok.injEq] at h
    exact h.symm
  | some v =>
    obtain ⟨x, rfl⟩ := hbool v hget
    simp only [hget, decode_bool, Except.ok.injEq] at h
    exact h.symm

/-- One generated action: the texts stay, the flags it names are set. -/
theorem guidance_step_flags {op : GraphOperation} {x : String} {n : Node} (hop : Guides s op x n)
    (h : apply_transition_generated_operation s p op = .ok t) (he : s.experiment? id = some e) :
    ∃ e', t.experiment? id = some e' ∧ (∀ F : GuidanceField, F.text e' = F.text e) ∧
      ∀ F : GuidanceField, F.stale e' = (op.sets id F).getD (F.stale e) := by
  obtain ⟨flags, rfl, hflags⟩ := hop.action
  obtain ⟨v, hv, rfl⟩ := apply_generated_operation_ok.mp h
  obtain ⟨a, ha, hnil⟩ := foldlM_cons_ok.mp hv
  obtain rfl := foldlM_nil_ok.mp hnil
  obtain ⟨n', hn', m, hm, rfl⟩ := update_node_ok.mp ha
  obtain rfl := Option.some.inj (hop.stored.symm.trans hn')
  obtain ⟨-, m', hm', rfl⟩ := updated_node_ok hm
  obtain ⟨hid, -, -, -, -, hbody⟩ := with_changes_ok hm'
  by_cases hx : id = x
  · subst hx
    obtain ⟨n', hstored, hn⟩ := experiment?_eq_some.mp he
    obtain rfl := Option.some.inj (hop.stored.symm.trans hstored)
    simp only [hn, NodeBody.with_changes, except_map_ok, Experiment.with_changes,
      except_bind_ok, except_pure_ok] at hbody
    obtain ⟨e', ⟨_, -, _, -, _, -, _, -, _, -, _, -, _, -, _, -, a, ha, a', ha', b, hb,
      b', hb', rfl⟩, hflagged⟩ := hbody
    -- the changes are truth values of system fields
    have hentry {k : String} {v : Value}
        (hget : Dict.get (Table.ofList (flags.map (fun f => (f.1, Value.bool f.2)))) k = some v) :
        k ∈ GUIDANCE_STALE_FIELDS ∧ ∃ y, v = .bool y := by
      obtain ⟨f, hf, heq⟩ :=
        List.mem_map.mp (Table.mem_of_mem_ofList (Dict.get_eq_some_iff.mp hget))
      obtain ⟨rfl, rfl⟩ := Prod.mk.inj heq
      exact ⟨hflags f hf, f.2, rfl⟩
    have habsent {k : String} (hk : k ∉ GUIDANCE_STALE_FIELDS) :
        Dict.has (Table.ofList (flags.map (fun f => (f.1, Value.bool f.2)))) k = false := by
      by_contra hhas
      obtain ⟨v, hv⟩ := Option.isSome_iff_exists.mp (Bool.of_not_eq_false hhas)
      exact hk (hentry hv).1
    obtain rfl := overlay_absent ha (habsent (by decide))
    obtain rfl := overlay_absent ha' (habsent (by decide))
    have hb := overlay_flag (fun v hv => (hentry hv).2) hb
    have hb' := overlay_flag (fun v hv => (hentry hv).2) hb'
    refine ⟨_, experiment?_eq_some.mpr
      ⟨{ m' with updated_rev := p.revision, standing := kept_standing p n },
      ?_, hflagged⟩, fun F => ?_, fun F => ?_⟩
    · have hkey : m'.id = id := hid.trans (Table.key_of_get? hop.stored)
      rw [← hkey]
      exact Table.get?_put_self _ _
    · cases F <;> rfl
    · simp only [GraphOperation.sets, guidance_action, if_true]
      cases F
      · exact hb
      · exact hb'
  · have hkept : { m' with updated_rev := p.revision, standing := kept_standing p n }.id = n.id :=
      hid
    have hframe := key_put_ne s.nodes hop.stored hkept hx
    refine ⟨e, ?_, fun F => rfl, fun F => ?_⟩
    · rw [← he]
      exact experiment?_congr hframe
    · simp [GraphOperation.sets, guidance_action, Ne.symm hx]

/-- A run of generated actions: the texts stay, and a flag that every action
    naming it sets to `b` ends as `b`. -/
theorem guidance_run_flags {ops : List GraphOperation} (hops : Guidance s ops)
    (h : ops.foldlM (fun u op => apply_transition_generated_operation u p op) s = .ok t)
    (he : s.experiment? id = some e) :
    ∃ e', t.experiment? id = some e' ∧ (∀ F : GuidanceField, F.text e' = F.text e) ∧
      ∀ (F : GuidanceField) (b : Bool), (∀ op ∈ ops, ∀ b', op.sets id F = some b' → b' = b) →
        (F.stale e = b ∨ ∃ op ∈ ops, op.sets id F = some b) → F.stale e' = b := by
  induction ops generalizing s e with
  | nil =>
    obtain rfl := foldlM_nil_ok.mp h
    refine ⟨e, he, fun F => rfl, fun F b _ hb => ?_⟩
    simpa using hb
  | cons op ops ih =>
    obtain ⟨u, hu, hrest⟩ := foldlM_cons_ok.mp h
    obtain ⟨x, n, hop⟩ := hops op (by simp)
    obtain ⟨e₁, he₁, htext₁, hstale₁⟩ := guidance_step_flags hop hu he
    obtain ⟨e₂, he₂, htext₂, hstale₂⟩ := ih (hops.step hu) hrest he₁
    refine ⟨e₂, he₂, fun F => (htext₂ F).trans (htext₁ F), fun F b hsets hb => ?_⟩
    refine hstale₂ F b (fun op' hop' => hsets op' (by simp [hop'])) ?_
    rw [hstale₁ F]
    cases hset : op.sets id F with
    | some b' => exact Or.inl (hsets op (by simp) b' hset)
    | none =>
      rcases hb with hb | ⟨op', hop', hb⟩
      · exact Or.inl hb
      · rcases List.mem_cons.mp hop' with rfl | hop'
        · rw [hset] at hb
          cases hb
        · exact Or.inr ⟨op', hop', hb⟩

/-- A node that is no Experiment is not made one. -/
theorem guidance_run_experiments {ops : List GraphOperation} (hops : Guidance s ops)
    (h : ops.foldlM (fun u op => apply_transition_generated_operation u p op) s = .ok t)
    (he : t.experiment? id = some e') : ∃ e, s.experiment? id = some e := by
  induction ops generalizing s with
  | nil =>
    obtain rfl := foldlM_nil_ok.mp h
    exact ⟨e', he⟩
  | cons op ops ih =>
    obtain ⟨u, hu, hrest⟩ := foldlM_cons_ok.mp h
    obtain ⟨x, n, hop⟩ := hops op (by simp)
    obtain ⟨e₁, he₁⟩ := ih (hops.step hu) hrest
    obtain ⟨m, hid, htype, -, hnodes, -, -⟩ := guidance_step hop hu
    by_cases hx : id = x
    · have hexperiment := hop.experiment
      cases hbody : n.body with
      | experiment e => exact ⟨e, experiment?_eq_some.mpr ⟨n, hx ▸ hop.stored, hbody⟩⟩
      | _ => simp [Node.type, NodeBody.type, hbody] at hexperiment
    · refine ⟨e₁, ?_⟩
      rw [← he₁]
      refine (experiment?_congr ?_).symm
      rw [hnodes, Table.get?_put_ne _ (fun hkey => hx (hkey.trans hid))]

/-! ### What is generated -/

/-- The flag a field should have after the initiating operations, and its cause. -/
def desired (steps : List TimelineStep) (actions : List (Patch × GraphOperation)) (id : String)
    (e : Experiment) (F : GuidanceField) : Option (Nat × Bool) :=
  desired_stale_flag (invalidation_cause steps id) (explicit_guidance_update actions id F.name)
    (F.text e ≠ "")

/-- The change of one flag, if it is wrong. -/
def flag_change (steps : List TimelineStep) (actions : List (Patch × GraphOperation)) (id : String)
    (e : Experiment) (F : GuidanceField) : List (Nat × String × Bool) :=
  match desired steps actions id e F with
  | none => []
  | some (cause, wanted) => if F.stale e = wanted then [] else [(cause, F.stale_name, wanted)]

theorem stale_flag_changes_eq (steps : List TimelineStep) :
    stale_flag_changes steps actions id e =
      flag_change steps actions id e .current_summary
        ++ flag_change steps actions id e .next_action := by
  have hnext : (e.next_action.any (· ≠ "")) = decide (GuidanceField.next_action.text e ≠ "") := by
    rw [Bool.eq_iff_iff, decide_eq_true_eq]
    cases haction : e.next_action <;> simp [GuidanceField.text, haction]
  unfold stale_flag_changes
  rw [hnext]
  rfl

theorem mem_flag_change {steps : List TimelineStep} {F : GuidanceField} {x : Nat × String × Bool} :
    x ∈ flag_change steps actions id e F ↔
      x.2.1 = F.stale_name ∧ F.stale e ≠ x.2.2 ∧
        desired steps actions id e F = some (x.1, x.2.2) := by
  obtain ⟨c, k, b⟩ := x
  unfold flag_change
  cases hd : desired steps actions id e F with
  | none => simp
  | some y =>
    obtain ⟨cause, wanted⟩ := y
    by_cases hsame : F.stale e = wanted
    · simp only [hsame, if_true, List.not_mem_nil, Option.some.injEq, Prod.mk.injEq, false_iff]
      rintro ⟨-, hne, -, hb⟩
      exact hne hb
    · simp only [hsame, if_false, List.mem_singleton, Prod.mk.injEq, Option.some.injEq]
      constructor
      · rintro ⟨rfl, rfl, rfl⟩
        exact ⟨rfl, hsame, rfl, rfl⟩
      · rintro ⟨rfl, -, rfl, rfl⟩
        exact ⟨rfl, rfl, rfl⟩

theorem mem_stale_flag_changes {steps : List TimelineStep} {x : Nat × String × Bool} :
    x ∈ stale_flag_changes steps actions id e ↔
      ∃ F : GuidanceField, x.2.1 = F.stale_name ∧ F.stale e ≠ x.2.2 ∧
        desired steps actions id e F = some (x.1, x.2.2) := by
  rw [stale_flag_changes_eq, List.mem_append, mem_flag_change, mem_flag_change]
  constructor
  · rintro (h | h)
    · exact ⟨_, h⟩
    · exact ⟨_, h⟩
  · rintro ⟨F, h⟩
    cases F
    · exact Or.inl h
    · exact Or.inr h

/-- At most one change for each flag. -/
theorem stale_flag_changes_nodup (steps : List TimelineStep) :
    ((stale_flag_changes steps actions id e).map (·.2.1)).Nodup := by
  have hone (F : GuidanceField) :
      ((flag_change steps actions id e F).map (·.2.1)).Sublist [F.stale_name] := by
    unfold flag_change
    split
    · simp
    · split <;> simp
  rw [stale_flag_changes_eq, List.map_append]
  exact List.Nodup.sublist ((hone _).append (hone _)) (by decide)

/-- The generated actions, Experiment by Experiment and cause by cause. -/
theorem mem_guidance_actions {steps : List TimelineStep} {x : GraphOperation × Nat} :
    x ∈ guidance_actions s steps actions ↔
      ∃ id e, s.experiment? id = some e ∧
        (∃ y ∈ stale_flag_changes steps actions id e, y.1 = x.2) ∧
        x.1 = guidance_action id (((stale_flag_changes steps actions id e).filter
          (fun c => c.1 = x.2)).map Prod.snd) := by
  simp only [guidance_actions, List.mem_flatMap, List.mem_insertionSort]
  constructor
  · rintro ⟨id, -, hx⟩
    cases he : s.experiment? id with
    | none => simp [he] at hx
    | some e =>
      simp only [he, guidance_actions_of, List.mem_map, List.mem_insertionSort,
        List.mem_dedup] at hx
      obtain ⟨cause, hcause, rfl⟩ := hx
      exact ⟨id, e, he, hcause, rfl⟩
  · rintro ⟨id, e, he, hcause, hx⟩
    refine ⟨id, ?_, ?_⟩
    · obtain ⟨n, hn, -⟩ := experiment?_eq_some.mp he
      rw [Table.mem_keys_iff, hn]
      rfl
    · simp only [he, guidance_actions_of, List.mem_map, List.mem_insertionSort, List.mem_dedup]
      exact ⟨x.2, hcause, Prod.ext hx.symm rfl⟩

/-- The entries of a generated update are changes with its cause. -/
theorem guidance_entry_iff {steps : List TimelineStep} {c : Nat} {y : String × Value} :
    y ∈ (Table.ofList ((((stale_flag_changes steps actions id e).filter
        (fun x => x.1 = c)).map Prod.snd).map (fun f => (f.1, Value.bool f.2)))).items ↔
      ∃ F : GuidanceField, ∃ b, y = (F.stale_name, .bool b) ∧ F.stale e ≠ b ∧
        desired steps actions id e F = some (c, b) := by
  constructor
  · intro hy
    obtain ⟨f, hf, rfl⟩ := List.mem_map.mp (Table.mem_of_mem_ofList hy)
    obtain ⟨x, hx, rfl⟩ := List.mem_map.mp hf
    obtain ⟨hchange, hc⟩ := List.mem_filter.mp hx
    have hc : x.1 = c := by simpa using hc
    obtain ⟨F, hname, hne, hd⟩ := mem_stale_flag_changes.mp hchange
    exact ⟨F, x.2.2, by rw [hname], hne, by rw [hd, hc]⟩
  · rintro ⟨F, b, rfl, hne, hd⟩
    have hx : (c, F.stale_name, b) ∈ stale_flag_changes steps actions id e :=
      mem_stale_flag_changes.mpr ⟨F, rfl, hne, hd⟩
    refine Table.mem_ofList ?_ ?_
    · rw [List.map_map, List.map_map]
      exact (stale_flag_changes_nodup steps).sublist (List.Sublist.map _ List.filter_sublist)
    · refine List.mem_map.mpr ⟨(F.stale_name, b), ?_, rfl⟩
      exact List.mem_map.mpr ⟨_, List.mem_filter.mpr ⟨hx, by simp⟩, rfl⟩

/-- A generated action sets a flag exactly when the flag is wrong. -/
theorem generated_sets_iff {steps : List TimelineStep} {F : GuidanceField} {b : Bool}
    (he : s.experiment? id = some e) :
    (∃ op ∈ (guidance_actions s steps actions).map Prod.fst, op.sets id F = some b) ↔
      F.stale e ≠ b ∧ ∃ c, desired steps actions id e F = some (c, b) := by
  constructor
  · rintro ⟨op, hop, hsets⟩
    obtain ⟨x, hx, rfl⟩ := List.mem_map.mp hop
    obtain ⟨id', e', he', -, hx⟩ := mem_guidance_actions.mp hx
    rw [hx] at hsets
    simp only [GraphOperation.sets, guidance_action] at hsets
    split at hsets
    · next hid =>
      subst hid
      obtain rfl := Option.some.inj (he.symm.trans he')
      split at hsets
      · next b' hget =>
        obtain rfl := Option.some.inj hsets
        obtain ⟨G, b'', heq, hne, hd⟩ := guidance_entry_iff.mp (Dict.get_eq_some_iff.mp hget)
        obtain ⟨hname, hvalue⟩ := Prod.mk.inj heq
        obtain rfl := GuidanceField.stale_name_inj hname
        obtain rfl := Value.bool.inj hvalue
        exact ⟨hne, _, hd⟩
      · cases hsets
    · cases hsets
  · rintro ⟨hne, c, hd⟩
    have hchange : (c, F.stale_name, b) ∈ stale_flag_changes steps actions id e :=
      mem_stale_flag_changes.mpr ⟨F, rfl, hne, hd⟩
    refine ⟨guidance_action id (((stale_flag_changes steps actions id e).filter
      (fun x => x.1 = c)).map Prod.snd), List.mem_map.mpr ⟨(_, c), mem_guidance_actions.mpr
      ⟨id, e, he, ⟨_, hchange, rfl⟩, rfl⟩, rfl⟩, ?_⟩
    have hget := Dict.get_eq_some_iff.mpr (guidance_entry_iff.mpr ⟨F, b, rfl, hne, hd⟩)
    simp only [GraphOperation.sets, guidance_action, if_true]
    rw [hget]

/-! ### The verdict -/

/-- What a stale flag of an Experiment of the prepared graph is. -/
structure GuidanceVerdict (s : GraphState) (actions : List (Patch × GraphOperation)) (id : String)
    (e : Experiment) (F : GuidanceField) : Prop where
  invalidated : (∃ k, SignatureChangedAt s actions id k) → (F.stale e = true ↔ F.text e ≠ "")
  refreshed : (¬ ∃ k, SignatureChangedAt s actions id k) → (∃ k, WrittenAt actions id F k) →
    F.stale e = false
  kept : (¬ ∃ k, SignatureChangedAt s actions id k) → (¬ ∃ k, WrittenAt actions id F k) →
    ∃ n₀ e₀, origin s actions id = some n₀ ∧ n₀.body = .experiment e₀ ∧ F.stale e = F.stale e₀

/-- A generated operation with its cause: it sets flags of one Experiment of the
    initiating graph `t`, each to another value, and cites the first change of the
    signature, or else the last write of the field. -/
structure GeneratedBy (s : GraphState) (actions : List (Patch × GraphOperation)) (t : GraphState)
    (u : NodeUpdate) (e : Experiment) (c : Nat) : Prop where
  stored : t.experiment? u.id = some e
  acting : u.changes.items ≠ []
  entries : ∀ x ∈ u.changes.items, ∃ (F : GuidanceField) (b : Bool),
    x = (F.stale_name, .bool b) ∧ F.stale e ≠ b ∧
      ((FirstChange s actions u.id c ∧ (b = true ↔ F.text e ≠ "")) ∨
        ((∀ k, ¬ SignatureChangedAt s actions u.id k) ∧ LastWrite actions u.id F c ∧ b = false))

/-- The cause of a desired flag, by the rule that asks for it. -/
theorem desired_cases {steps : List TimelineStep} {F : GuidanceField} {c : Nat} {b : Bool}
    (h : timeline_from s 0 actions = .ok (steps, t))
    (hd : desired steps actions id e F = some (c, b)) :
    (FirstChange s actions id c ∧ (b = true ↔ F.text e ≠ "")) ∨
      ((∀ k, ¬ SignatureChangedAt s actions id k) ∧ LastWrite actions id F c ∧ b = false) := by
  unfold desired desired_stale_flag at hd
  split at hd
  · next hcause =>
    obtain ⟨rfl, rfl⟩ := Prod.mk.inj (Option.some.inj hd)
    exact Or.inl ⟨invalidation_cause_some h hcause, by simp⟩
  · next hcause hupdate =>
    obtain ⟨rfl, rfl⟩ := Prod.mk.inj (Option.some.inj hd)
    exact Or.inr ⟨fun k => invalidation_cause_none h hcause, explicit_update_some hupdate, rfl⟩
  · cases hd

theorem desired_none {steps : List TimelineStep} {F : GuidanceField}
    (h : timeline_from s 0 actions = .ok (steps, t)) (hd : desired steps actions id e F = none) :
    (¬ ∃ k, SignatureChangedAt s actions id k) ∧ ¬ ∃ k, WrittenAt actions id F k := by
  unfold desired desired_stale_flag at hd
  split at hd
  · cases hd
  · cases hd
  · next hcause hupdate =>
    exact ⟨fun ⟨k, hk⟩ => invalidation_cause_none h hcause hk,
      fun ⟨k, hk⟩ => explicit_update_none hupdate hk⟩

/-- The flags after the generated actions are the desired ones. -/
theorem generated_flags {steps : List TimelineStep} {F : GuidanceField}
    (hops : Guidance s ((guidance_actions s steps actions).map Prod.fst))
    (h : ((guidance_actions s steps actions).map Prod.fst).foldlM
      (fun u op => apply_transition_generated_operation u p op) s = .ok t)
    (he : t.experiment? id = some e') :
    ∃ e, s.experiment? id = some e ∧ F.text e' = F.text e ∧
      (∀ c b, desired steps actions id e F = some (c, b) → F.stale e' = b) ∧
      (desired steps actions id e F = none → F.stale e' = F.stale e) := by
  obtain ⟨e, hs⟩ := guidance_run_experiments hops h he
  obtain ⟨e₁, he₁, htext, hstale⟩ := guidance_run_flags hops h hs
  obtain rfl := Option.some.inj (he.symm.trans he₁)
  refine ⟨e, hs, htext F, fun c b hd => ?_, fun hd => ?_⟩
  · refine hstale F b (fun op hop b' hsets => ?_) ?_
    · obtain ⟨-, c', hd'⟩ := (generated_sets_iff hs).mp ⟨op, hop, hsets⟩
      rw [hd] at hd'
      exact (Prod.mk.inj (Option.some.inj hd')).2.symm
    · by_cases hsame : F.stale e = b
      · exact Or.inl hsame
      · exact Or.inr ((generated_sets_iff hs).mpr ⟨hsame, c, hd⟩)
  · refine hstale F _ (fun op hop b' hsets => ?_) (Or.inl rfl)
    obtain ⟨-, c', hd'⟩ := (generated_sets_iff hs).mp ⟨op, hop, hsets⟩
    rw [hd] at hd'
    cases hd'

/-! ### Accepted sources -/

variable [TextLibrary] [Canonical] {patches : List Patch}

/-- Patches that the append loop admitted one after another on a graph. -/
def AcceptedSources (s : GraphState) (patches : List Patch) : Prop :=
  ∃ (gates : Gates) (m : Manifest) (target : GraphTargetRef) (revision : Nat) (raws : List Patch)
    (report : List ValidationMessage),
    prepare_sources gates m target s.revision revision [] [] s raws = .ok (.prepared patches report)

/-- Admission refuses Patches of the legacy generation. -/
theorem admitted_generation {scope : List String} {settings : ValidationSettings}
    {binding : ExperimentBinding} (h : Admitted s p scope settings binding) :
    p.schema_generation = .two := by
  obtain ⟨final, hrun⟩ := h.run
  have hshape := hrun.shape
  simp only [validate_patch_shape, Check.passes_bind, Check.exists_unit, Check.passes_when,
    passes_reject] at hshape
  by_contra hgen
  exact hshape.1 ⟨rfl, hgen⟩

theorem prepare_sources_generation {gates : Gates} {m : Manifest} {target : GraphTargetRef}
    {before revision : Nat} {sources raws : List Patch} {aggregate report : List ValidationMessage}
    (hsources : ∀ p ∈ sources, p.schema_generation = .two)
    (h : prepare_sources gates m target before revision sources aggregate s raws
      = .ok (.prepared patches report)) :
    ∀ p ∈ patches, p.schema_generation = .two := by
  induction raws generalizing sources aggregate s with
  | nil =>
    cases h
    exact hsources
  | cons raw raws ih =>
    unfold prepare_sources at h
    obtain ⟨attribution, -, h⟩ := except_bind_ok.mp h
    simp only at h
    split at h
    · cases h
    · next hreport =>
      split at h
      · cases h
      · split at h
        · cases h
        · refine ih ?_ h
          intro p hp
          rcases List.mem_append.mp hp with hp | hp
          · exact hsources p hp
          · obtain rfl := List.mem_singleton.mp hp
            -- the report of this Patch is the tail of the aggregate
            have hadmitted : Admitted { s with revision := before } (prepare_patch_bookkeeping
                { s with revision := before } { raw.attributed attribution with revision })
                s.project_truth_scope m.settings := by
              simp only [rejected, List.any_append, Bool.or_eq_true, not_or,
                Bool.not_eq_true] at hreport
              exact hreport.2
            have hgen := admitted_generation hadmitted
            exact hgen

omit [TextLibrary] in
/-- What preparation computed: the timeline of the initiating operations, the
    generated operations with their causes, and the graph they end in. -/
theorem prepared_closure {pre_head : Option GraphHeadRef} {k : Nat} {r : PreparedTransition}
    (h : prepare_validated s patches pre_head k = .ok r) :
    ∃ first steps t₀ gens trace u, timeline_from s 0 (source_actions patches) = .ok (steps, t₀) ∧
      (∀ p ∈ patches, p.transition = none) ∧
      gens = guidance_actions u steps (source_actions patches) ∧ u.nodes = t₀.nodes ∧
      r.patch.ops = patches.flatMap Patch.ops ++ gens.map Prod.fst ∧
      r.patch.transition = some trace ∧
      trace.generated_actions =
        generated_refs (patches.flatMap Patch.ops).length (gens.map Prod.snd) ∧
      ∃ final, (gens.map Prod.fst).foldlM
        (fun u op => apply_transition_generated_operation u first op) u = .ok final ∧
        r.graph.nodes = final.nodes := by
  cases patches with
  | nil => cases h
  | cons first rest =>
    obtain ⟨_, _, _, hprepared⟩ := prepare_validated_ok h
    simp only [prepare_validated, except_bind_ok] at h
    obtain ⟨_, -, c, hclosure, combined, hcombined, candidate, -, h⟩ := h
    split_ifs at h with hsame
    obtain rfl := except_pure_ok.mp h
    obtain ⟨u, hu, hgenerated, hrun⟩ := transition_closure_ok hclosure
    obtain ⟨t₀, htimeline, rfl⟩ := apply_timeline_ok.mp hu
    have hgraph : candidate.bare = c.final.bare := bare_of_same (by simpa using hsame)
    obtain ⟨cursors, -, rfl⟩ := combined_patch_ok hcombined
    refine ⟨first, c.initiating, t₀, _, _, _, htimeline, hprepared.untraced, hgenerated,
      rfl, ?_, rfl,
      ?_, c.final, generated_final hrun, nodes_of_bare hgraph⟩
    · simp only [expanded_operations, source_actions_ops]
    · simp only [transition_trace, source_actions_ops]

/-- Guidance validity after an accepted transition, and what its generated
    actions cite. -/
theorem guidance_validity {pre_head : Option GraphHeadRef} {k : Nat} {r : PreparedTransition}
    (haccepted : AcceptedSources s patches) (h : prepare_validated s patches pre_head k = .ok r) :
    (∀ id e, r.graph.experiment? id = some e → ∀ F,
      GuidanceVerdict s (source_actions patches) id e F) ∧
    ∃ trace t, r.patch.transition = some trace ∧
      initiated s (source_actions patches) (source_actions patches).length = .ok t ∧
      ∀ g ∈ trace.generated_actions, ∃ u e c,
        r.patch.ops[g.operation_index]? = some (.update_nodes [u]) ∧ g.cause = .action c ∧
        GeneratedBy s (source_actions patches) t u e c := by
  obtain ⟨gates, m, target, revision, raws, report, hsources⟩ := haccepted
  have hgen := prepare_sources_generation (by simp) hsources
  obtain ⟨first, steps, t, gens, trace, u, htimeline, htrace, rfl, hnodes, hops, htransition, hrefs,
    final, hrun, hgraph⟩ := prepared_closure h
  have hactions {a : Patch × GraphOperation} (ha : a ∈ source_actions patches) : a.1 ∈ patches := by
    obtain ⟨p, hp, ha⟩ := List.mem_flatMap.mp ha
    obtain ⟨op, -, rfl⟩ := List.mem_map.mp ha
    exact hp
  have hsame {id : String} : u.experiment? id = t.experiment? id :=
    experiment?_congr (by rw [hnodes])
  have hindexes : ∀ step ∈ steps, step.index < (source_actions patches).length := by
    simpa using timeline_indexes htimeline
  refine ⟨fun id e he F => ?_, trace, t, htransition, ?_, fun g hg => ?_⟩
  · have he : final.experiment? id = some e := by
      rw [← he]
      exact (experiment?_congr (by rw [hgraph])).symm
    obtain ⟨e₀, he₀, htext, hdesired, hkept⟩ :=
      generated_flags (F := F) (guidance_of_actions hindexes) hrun he
    -- the flag is what the last event wanted, and the initiating one without an event
    cases hd : desired steps (source_actions patches) id e₀ F with
    | none =>
      obtain ⟨hchange, hwrite⟩ := desired_none htimeline hd
      refine ⟨fun hk => absurd hk hchange, fun _ hk => absurd hk hwrite, fun _ _ => ?_⟩
      obtain ⟨n₀, e₁, horigin, hbody, hstale⟩ := initiated_stale (fun a ha => hgen _ (hactions ha))
        (fun a ha => htrace _ (hactions ha)) (timeline_final htimeline) (hsame ▸ he₀)
      exact ⟨n₀, e₁, horigin, hbody, (hkept hd).trans (hstale F)⟩
    | some x =>
      obtain ⟨c, b⟩ := x
      have hstale := hdesired c b hd
      rcases desired_cases htimeline hd with ⟨hfirst, hb⟩ | ⟨hno, hlast, rfl⟩
      · refine ⟨fun _ => ?_, fun hno => absurd ⟨c, hfirst.1⟩ hno, fun hno =>
          absurd ⟨c, hfirst.1⟩ hno⟩
        rw [hstale, htext]
        exact hb
      · refine ⟨fun hk => absurd hk.choose_spec (hno _), fun _ _ => hstale, fun _ hk => ?_⟩
        exact absurd ⟨c, hlast.1⟩ hk
  · rw [initiated, List.take_length]
    exact timeline_final htimeline
  · rw [hrefs] at hg
    simp only [generated_refs, List.mem_map, Prod.exists] at hg
    obtain ⟨cause, i, hmem, rfl⟩ := hg
    rw [List.mem_zipIdx_iff_getElem?, List.getElem?_map] at hmem
    obtain ⟨x, hx, rfl⟩ := Option.map_eq_some_iff.mp hmem
    obtain ⟨id, e, he, hcause, hop⟩ := mem_guidance_actions.mp (List.mem_of_getElem? hx)
    -- the generated actions come after those of the sources
    have hat : r.patch.ops[(patches.flatMap Patch.ops).length + i]? = some x.1 := by
      rw [hops]
      simp [List.getElem?_append_right, hx]
    rw [hop] at hat
    refine ⟨_, e, x.2, hat, rfl, hsame ▸ he, ?_, fun y hy => ?_⟩
    · obtain ⟨y, hy, hyc⟩ := hcause
      refine Table.ofList_ne_nil (List.ne_nil_of_mem (List.mem_map.mpr ⟨y.2, ?_, rfl⟩))
      exact List.mem_map.mpr ⟨y, List.mem_filter.mpr ⟨hy, by simpa using hyc⟩, rfl⟩
    · obtain ⟨F, b, hentry, hne, hd⟩ := guidance_entry_iff.mp hy
      exact ⟨F, b, hentry, hne, desired_cases htimeline hd⟩

end

/-! ### A cleared summary -/

section

open scoped Reference

/-- An Experiment with a stale summary, and a Blocker. -/
def stale_graph : GraphState :=
  { Reference.result (apply_valid_patch {} (Reference.agent_patch 1 [.create_nodes [
      { node := { id := "exp/e", title := "e", body := .experiment {
          objective := "Measure.", current_summary := "Ready.", current_summary_stale := true } } },
      Reference.blocker "blk/b"]])) with
    project_truth_scope := ["main"] }

/-- Block the Experiment, after writing its summary or not. -/
def block_patch (writes : List GraphOperation) : Patch := Reference.agent_patch 2 (writes ++
  [.create_edges [{ source := "exp/e", target := "blk/b", relation := "blocked_by" }]])

def clear_summary : GraphOperation :=
  .update_nodes [{ id := "exp/e", changes := Dict.set Table.empty "current_summary" (.str "") }]

/-- One admitted Patch without Proposals is an accepted list. -/
theorem accepted_single {s t : GraphState} {p : Patch}
    (hadmitted : Admitted s p s.project_truth_scope one_repository.settings)
    (happly : apply_valid_patch s p = .ok t)
    (hscope : t.project_truth_scope = s.project_truth_scope)
    (hprepare : prepare_patch_bookkeeping s p = p)
    (hfinalize : finalize_patch_bookkeeping p t = p) :
    AcceptedSources s [p] := by
  refine ⟨open_gates, one_repository, .main, p.revision, [p],
    [] ++ validate_patch s p s.project_truth_scope one_repository.settings .admission, ?_⟩
  have hp : prepare_patch_bookkeeping { s with revision := s.revision }
    { p.attributed none with revision := p.revision } = p := hprepare
  have hreport : rejected ([] ++ validate_patch s p s.project_truth_scope one_repository.settings
    .admission) = false := hadmitted
  have hstep : prepare_sources open_gates one_repository .main s.revision p.revision [] [] s [p]
      = _ :=
    prepare_sources_admitted rfl hp hreport happly hscope hfinalize
  exact hstep

/-- Blocking an Experiment leaves its stale summary stale. -/
theorem blocked_guidance_verdict : ∃ r e, prepare_validated stale_graph [block_patch []] = .ok r ∧
    r.graph.experiment? "exp/e" = some e ∧ e.current_summary_stale = true ∧
    ∀ F, GuidanceVerdict stale_graph (source_actions [block_patch []]) "exp/e" e F := by
  obtain ⟨r, hr⟩ := Reference.exists_ok (x := prepare_validated stale_graph [block_patch []])
    (by decide)
  have haccepted : AcceptedSources stale_graph [block_patch []] :=
    accepted_single (by decide) (Reference.eq_ok_result (by decide)) (by decide) rfl rfl
  have hstale : (r.graph.experiment? "exp/e").map (·.current_summary_stale) = some true := by
    cases hr
    decide
  obtain ⟨e, he, hstale⟩ := Option.map_eq_some_iff.mp hstale
  exact ⟨r, e, hr, he, hstale, (guidance_validity haccepted hr).1 "exp/e" e he⟩

/-- Clearing the summary and blocking the Experiment in one transition: the flag of
    the empty summary is refreshed, and the refresh cites the blocking operation,
    not the one that wrote the field. -/
theorem refresh_cites_invalidation : ∃ r trace,
    AcceptedSources stale_graph [block_patch [clear_summary]] ∧
    prepare_validated stale_graph [block_patch [clear_summary]] = .ok r ∧
    r.patch.transition = some trace ∧
    trace.generated_actions = [⟨2, GUIDANCE_RULE_ID, .action 1⟩] ∧
    (r.patch.ops[2]?).map (fun op => op.sets "exp/e" .current_summary) = some (some false) ∧
    trace.lifecycle_events.map (·.event_type) = [.guidance_refreshed] ∧
    LastWrite (source_actions [block_patch [clear_summary]]) "exp/e" .current_summary 0 := by
  obtain ⟨r, hr⟩ := Reference.exists_ok
    (x := prepare_validated stale_graph [block_patch [clear_summary]]) (by decide)
  have haccepted : AcceptedSources stale_graph [block_patch [clear_summary]] :=
    accepted_single (by decide) (Reference.eq_ok_result (by decide)) (by decide) rfl rfl
  have hresult : (prepare_validated stale_graph [block_patch [clear_summary]]).toOption.map
      (fun r =>
        (r.patch.transition.map (fun trace => (trace.generated_actions,
          trace.lifecycle_events.map (·.event_type))),
        (r.patch.ops[2]?).map (fun op => op.sets "exp/e" .current_summary)))
      = some (some ([⟨2, GUIDANCE_RULE_ID, .action 1⟩], [.guidance_refreshed]),
        some (some false)) := by
    decide +kernel
  rw [hr] at hresult
  obtain ⟨htransition, hsets⟩ := Prod.mk.inj (Option.some.inj hresult)
  obtain ⟨trace, htrace, hfields⟩ := Option.map_eq_some_iff.mp htransition
  obtain ⟨hactions, hevents⟩ := Prod.mk.inj hfields
  refine ⟨r, trace, haccepted, hr, htrace, hactions, hsets, hevents, ?_⟩
  · refine ⟨⟨_, rfl, _, List.mem_singleton.mpr rfl, rfl, by decide⟩, fun k hk hat => ?_⟩
    obtain ⟨a, ha, u, hu, -⟩ := hat
    match k, hk, ha with
    | 1, _, ha =>
      obtain rfl := Option.some.inj ha
      cases hu
    | k + 2, _, ha => cases ha

end

end ResearchGraph
