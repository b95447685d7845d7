import ResearchGraph.Boundary
import ResearchGraph.Timeline

/-! # What the rules accept can be applied

    The rules and the materializer are separate code.  An operation that passes
    its rules finds everything it needs when it is applied, with one exception:
    retiring a node writes a status, and Evidence has none.
-/

namespace ResearchGraph

open Lib

section

variable {p : Patch} {s t : GraphState} {op : GraphOperation} {n m : Node}

/-! ### Strict values are lax values -/

theorem mapM_ok_mono {α β : Type} {f g : α → Decoded β} {xs : List α} {ys : List β}
    (hfg : ∀ x y, f x = .ok y → g x = .ok y) (h : xs.mapM f = .ok ys) : xs.mapM g = .ok ys := by
  induction xs generalizing ys with
  | nil => exact h
  | cons x xs ih =>
    simp only [List.mapM_cons, except_bind_ok] at h ⊢
    obtain ⟨y, hy, zs, hzs, h⟩ := h
    exact ⟨y, hfg x y hy, zs, ih hzs, h⟩

/-- What `decode .strict` accepts, `decode .lax` reads in the same way. -/
def Laxer {α : Type} (decode : DecodeMode → Value → Decoded α) : Prop :=
  ∀ v a, decode .strict v = .ok a → decode .lax v = .ok a

theorem decode_int_laxer : Laxer decode_int := by
  intro v a h
  cases v <;> simp [decode_int] at h ⊢
  exact h

theorem decode_nat_laxer (least : Nat) : Laxer (fun mode => decode_nat mode least) := by
  intro v a h
  simp only [decode_nat, except_bind_ok] at h ⊢
  obtain ⟨i, hi, h⟩ := h
  exact ⟨i, decode_int_laxer v i hi, h⟩

theorem decode_bool_laxer : Laxer decode_bool := by
  intro v a h
  cases v <;> simp [decode_bool] at h ⊢
  exact h

theorem decode_datetime_laxer : Laxer decode_datetime := by
  intro v a h
  cases v <;> simp only [decode_datetime, reduceCtorEq] at h ⊢
  split_ifs at h
  simpa using h

theorem decode_list_laxer {α : Type} {decode : DecodeMode → Value → Decoded α}
    (hd : Laxer decode) : Laxer (fun mode => decode_list (decode mode)) := by
  intro v a h
  cases v <;> simp only [decode_list, reduceCtorEq] at h ⊢
  exact mapM_ok_mono hd h

theorem decode_optional_laxer {α : Type} {decode : DecodeMode → Value → Decoded α}
    (hd : Laxer decode) : Laxer (fun mode => decode_optional (decode mode)) := by
  intro v a h
  cases v <;> simp only [decode_optional, except_map_ok] at h ⊢
  case null => exact h
  all_goals
    obtain ⟨x, hx, rfl⟩ := h
    exact ⟨x, hd _ _ hx, rfl⟩

theorem required_laxer {α : Type} {decode : DecodeMode → Value → Decoded α} (hd : Laxer decode)
    {d : List (String × Value)} {k : String} {a : α} (h : required d k (decode .strict) = .ok a) :
    required d k (decode .lax) = .ok a := by
  unfold required at h ⊢
  cases hget : d.lookup k with
  | none => simp [hget] at h
  | some v =>
    rw [hget] at h
    exact hd v a h

theorem optional_laxer {α : Type} {decode : DecodeMode → Value → Decoded α} (hd : Laxer decode)
    {d : List (String × Value)} {k : String} {default a : α}
    (h : optional d k default (decode .strict) = .ok a) :
    optional d k default (decode .lax) = .ok a := by
  unfold optional at h ⊢
  cases hget : d.lookup k with
  | none =>
    rw [hget] at h
    exact h
  | some v =>
    rw [hget] at h
    exact hd v a h

theorem source_ref_laxer : Laxer SourceRef.decode := by
  intro v a h
  cases v <;> simp only [SourceRef.decode, reduceCtorEq] at h ⊢
  obtain ⟨excerpt, hexcerpt, h⟩ := except_bind_ok.mp h
  refine except_bind_ok.mpr ⟨excerpt, hexcerpt, ?_⟩
  split_ifs at h ⊢
  simp only [except_bind_ok] at h ⊢
  obtain ⟨a₁, h₁, a₂, h₂, a₃, h₃, a₄, h₄, a₅, h₅, a₆, h₆, h⟩ := h
  exact ⟨a₁, h₁, a₂, h₂, a₃, h₃, a₄, h₄, a₅, h₅, a₆, required_laxer decode_datetime_laxer h₆, h⟩

theorem decision_pin_laxer : Laxer ExperimentDecisionPin.decode := by
  intro v a h
  cases v <;> simp only [ExperimentDecisionPin.decode, except_bind_ok, reduceCtorEq] at h ⊢
  obtain ⟨u, hu, a₁, h₁, a₂, h₂, a₃, h₃, h⟩ := h
  exact ⟨u, hu, a₁, h₁, a₂, required_laxer (decode_nat_laxer 0) h₂, a₃, h₃, h⟩

theorem attempt_laxer : Laxer ExperimentAttempt.decode := by
  intro v a h
  cases v <;> simp only [ExperimentAttempt.decode, except_bind_ok, reduceCtorEq] at h ⊢
  obtain ⟨a₁, h₁, a₂, h₂, a₃, h₃, a₄, h₄, a₅, h₅, a₆, h₆, a₇, h₇, a₈, h₈, a₉, h₉,
    a₁₀, h₁₀, a₁₁, h₁₁, a₁₂, h₁₂, a₁₃, h₁₃, a₁₄, h₁₄, h⟩ := h
  exact ⟨a₁, h₁, a₂, required_laxer (decode_nat_laxer 1) h₂, a₃, h₃, a₄, h₄,
    a₅, optional_laxer (decode_list_laxer decision_pin_laxer) h₅, a₆, h₆, a₇, h₇, a₈, h₈, a₉, h₉,
    a₁₀, optional_laxer (decode_list_laxer source_ref_laxer) h₁₀, a₁₁, h₁₁, a₁₂, h₁₂,
    a₁₃, optional_laxer (decode_optional_laxer decode_datetime_laxer) h₁₃,
    a₁₄, optional_laxer (decode_optional_laxer decode_datetime_laxer) h₁₄, h⟩

/-! ### Changes that fit one node of a type fit every other -/

theorem overlay_total {α : Type} {c : Dict String Value} {k : String} {current : α}
    {decode decode' : Value → Decoded α} (hd : ∀ v a, decode v = .ok a → decode' v = .ok a)
    (h : ∃ a, overlay c k current decode = .ok a) (current' : α) :
    ∃ a, overlay c k current' decode' = .ok a := by
  obtain ⟨a, ha⟩ := h
  unfold overlay at ha ⊢
  cases hget : Dict.get c k with
  | none => exact ⟨current', rfl⟩
  | some v =>
    rw [hget] at ha
    exact ⟨a, hd v a ha⟩

theorem overlay_laxer {α : Type} {decode : DecodeMode → Value → Decoded α} (hd : Laxer decode)
    {c : Dict String Value} {k : String} {current : α}
    (h : ∃ a, overlay c k current (decode .strict) = .ok a) (mode : DecodeMode) (current' : α) :
    ∃ a, overlay c k current' (decode mode) = .ok a := by
  cases mode with
  | strict => exact overlay_total (fun _ _ hv => hv) h current'
  | lax => exact overlay_total hd h current'

theorem body_with_changes_total {c : Dict String Value} {b b' : NodeBody} (htype : b'.type = b.type)
    (h : ∃ x, b.with_changes .strict c = .ok x) (mode : DecodeMode) :
    ∃ x, b'.with_changes mode c = .ok x := by
  have hsame {α : Type} {k : String} {current : α} {decode : Value → Decoded α}
      (h : ∃ a, overlay c k current decode = .ok a) (current' : α) :
      ∃ a, overlay c k current' decode = .ok a := overlay_total (fun _ _ hv => hv) h current'
  have hmap {α β : Type} {x : Decoded α} {g : α → β} : (∃ y, x.map g = .ok y) ↔ ∃ a, x = .ok a := by
    simp only [except_map_ok]
    exact ⟨fun ⟨_, a, ha, _⟩ => ⟨a, ha⟩, fun ⟨a, ha⟩ => ⟨_, a, ha, rfl⟩⟩
  -- the fields are read one by one, each on its own
  cases b <;> cases b' <;> simp only [NodeBody.type, reduceCtorEq] at htype
  all_goals
    simp only [NodeBody.with_changes, hmap, ResearchQuestion.with_changes, Hypothesis.with_changes,
      Decision.with_changes, Experiment.with_changes, Evidence.with_changes, Blocker.with_changes,
      except_bind_total, except_pure_total, exists_and_right, and_true] at h ⊢
  case experiment =>
    obtain ⟨h₁, h₂, h₃, h₄, h₅, h₆, h₇, h₈, h₉, h₁₀, h₁₁, h₁₂⟩ := h
    exact ⟨hsame h₁ _, hsame h₂ _, hsame h₃ _, hsame h₄ _, hsame h₅ _,
      overlay_laxer (decode_nat_laxer 1) h₆ mode _, hsame h₇ _,
      overlay_laxer (decode_list_laxer attempt_laxer) h₈ mode _, hsame h₉ _, hsame h₁₀ _,
      overlay_laxer decode_bool_laxer h₁₁ mode _, overlay_laxer decode_bool_laxer h₁₂ mode _⟩
  case research_question =>
    obtain ⟨h₁, h₂, h₃, h₄⟩ := h
    exact ⟨hsame h₁ _, hsame h₂ _, hsame h₃ _, hsame h₄ _⟩
  case decision =>
    obtain ⟨h₁, h₂, h₃, h₄, h₅, h₆⟩ := h
    exact ⟨hsame h₁ _, hsame h₂ _, hsame h₃ _, hsame h₄ _, hsame h₅ _, hsame h₆ _⟩
  case evidence =>
    obtain ⟨h₁, h₂, h₃, h₄, h₅, h₆, h₇⟩ := h
    exact ⟨hsame h₁ _, hsame h₂ _, hsame h₃ _, hsame h₄ _, hsame h₅ _, hsame h₆ _, hsame h₇ _⟩
  -- a Hypothesis and a Blocker have five fields each
  all_goals
    obtain ⟨h₁, h₂, h₃, h₄, h₅⟩ := h
    exact ⟨hsame h₁ _, hsame h₂ _, hsame h₃ _, hsame h₄ _, hsame h₅ _⟩

theorem with_changes_total {c : Dict String Value} {n' : Node} (htype : n'.type = n.type)
    (h : n.with_changes .strict c = .ok m) (mode : DecodeMode) :
    ∃ x, n'.with_changes mode c = .ok x := by
  unfold Node.with_changes at h ⊢
  rw [htype]
  split at h
  · next hkeys =>
    rw [if_pos hkeys]
    have h : ∃ x, _ = Except.ok x := ⟨_, h⟩
    simp only [except_bind_total, except_pure_total, exists_and_right, and_true] at h ⊢
    obtain ⟨htitle, hfields, hrefs, hbody⟩ := h
    exact ⟨overlay_total (fun _ _ hv => hv) htitle _, overlay_total (fun _ _ hv => hv) hfields _,
      overlay_laxer (decode_list_laxer source_ref_laxer) hrefs mode _,
      body_with_changes_total htype hbody mode⟩
  · cases h

/-! ### Applying one operation -/

/-- Staging applies the bare operation; what comes after it cannot fail. -/
theorem staged_total : (∃ t, apply_valid_operation s p op = .ok t) ↔
    ∃ t, apply_operation p ((generated_operation_indexes p).contains 0) s op = .ok t := by
  simp only [apply_valid_operation, except_bind_total, except_pure_total, and_true, apply_patch_ok,
    List.nil_append, List.zipIdx_cons, List.zipIdx_nil, foldlM_cons_ok, foldlM_nil_ok]
  have hwriter (g : Bool) : apply_operation { p with ops := [op] } g s op
      = apply_operation p g s op := apply_operation_congr rfl g s op
  constructor
  · rintro ⟨_, u, ⟨v, hv, -⟩, -⟩
    exact ⟨v, (hwriter _).symm.trans hv⟩
  · rintro ⟨v, hv⟩
    exact ⟨_, v, ⟨v, (hwriter _).trans hv, rfl⟩, rfl⟩

/-- The same nodes, each of the same type. -/
def SameTypes (s t : GraphState) : Prop :=
  ∀ id, (t.nodes.get? id).map Node.type = (s.nodes.get? id).map Node.type

theorem SameTypes.get? (h : SameTypes s t) {id : String} (hn : s.nodes.get? id = some n) :
    ∃ n', t.nodes.get? id = some n' ∧ n'.type = n.type := by
  have hid := h id
  rw [hn, Option.map_some] at hid
  exact Option.map_eq_some_iff.mp hid

theorem SameTypes.put {a b : GraphState} (h : SameTypes s a) {id : String}
    (hn : a.nodes.get? id = some n) (hm : Rewritten p n m) (hb : b.nodes = a.nodes.put m) :
    SameTypes s b := by
  intro k
  rw [hb]
  by_cases hk : k = id
  · have hkey : m.id = id := hm.id.trans (Table.key_of_get? hn)
    have hget : (a.nodes.put m).get? m.id = some m := Table.get?_put_self _ m
    rw [hkey] at hget
    rw [hk, hget, ← h id, hn, Option.map_some, Option.map_some, hm.type]
  · rw [key_put_ne _ hn hm.id hk]
    exact h k

/-- The nodes an operation retires. -/
def retired_nodes : GraphOperation → List String
  | .supersede_nodes nodes => nodes.map (·.id)
  | .merge_nodes merges => merges.map (·.duplicate)
  | _ => []

theorem superseded_node_total : (∃ m, superseded_node p n = .ok m) ↔ n.type ≠ .evidence := by
  unfold superseded_node
  cases hbody : n.body <;> simp [NodeBody.superseded, Node.type, NodeBody.type, hbody]

/-- Retiring nodes that are there succeeds unless one of them is Evidence. -/
theorem retire_total {α : Type} {xs : List α} {id explanation : α → String} {relation : String}
    {target : α → Option String} {cause : α → Option BeliefCause}
    (hpresent : ∀ x ∈ xs, s.nodes.contains (id x) = true) :
    (∃ t, xs.foldlM (fun a x =>
      retire_node p a (id x) relation (target x) (explanation x) (cause x))
      s = .ok t) ↔ ∀ x ∈ xs, ∀ n, s.nodes.get? (id x) = some n → n.type ≠ .evidence := by
  -- along the loop every node stays there with its type
  have hkept : ∀ x ∈ xs, ∀ a b : GraphState,
      retire_node p a (id x) relation (target x) (explanation x) (cause x) = .ok b →
      SameTypes s a → SameTypes s b := by
    intro x _ a b hb ha
    obtain ⟨n, hn, m, hm, rfl⟩ := retire_node_ok.mp hb
    exact ha.put hn (rewritten_of_supersede hm) rfl
  constructor
  · rintro ⟨t, ht⟩ x hx n hn
    obtain ⟨a, b, ha, hb⟩ := foldlM_mem_ok (SameTypes s) ht (fun _ => rfl) hkept hx
    obtain ⟨n', hn', m, hm, -⟩ := retire_node_ok.mp hb
    obtain ⟨n'', hn'', htype⟩ := ha.get? hn
    obtain rfl := Option.some.inj (hn'.symm.trans hn'')
    rw [← htype]
    exact superseded_node_total.mp ⟨m, hm⟩
  · intro hevidence
    refine foldlM_total (SameTypes s) (fun _ => rfl) (fun x hx a ha => ?_)
    obtain ⟨n, hn⟩ := Table.contains_iff.mp (hpresent x hx)
    obtain ⟨n', hn', htype⟩ := ha.get? hn
    obtain ⟨m, hm⟩ : ∃ m, superseded_node p n' = .ok m := by
      rw [superseded_node_total, htype]
      exact hevidence x hx n hn
    obtain ⟨b, hb⟩ : ∃ b, retire_node p a (id x) relation (target x) (explanation x) (cause x)
        = .ok b := ⟨_, retire_node_ok.mpr ⟨n', hn', m, hm, rfl⟩⟩
    exact ⟨b, hb, hkept x hx a b hb ha⟩

/-- Updates that fit the nodes before the operation fit them one after another. -/
theorem updates_total {updates : List NodeUpdate} {g : Bool}
    (h : ∀ update ∈ updates, ∃ n m, s.nodes.get? update.id = some n ∧
      (∀ k ∈ update.changes.keys, k ∉ IMMUTABLE_NODE_UPDATE_FIELDS) ∧
      n.with_changes .strict update.changes = .ok m) :
    ∃ t, updates.foldlM (update_node p g) s = .ok t := by
  refine foldlM_total (SameTypes s) (fun _ => rfl) (fun update hupdate a ha => ?_)
  obtain ⟨n, m, hn, hkeys, hm⟩ := h update hupdate
  obtain ⟨n', hn', htype⟩ := ha.get? hn
  obtain ⟨m', hm'⟩ := with_changes_total htype hm p.decode_mode
  have himmutable : sorted_set (update.changes.keys.filter (fun k => k ∈ immutable_fields p g))
      = [] := by
    rw [sorted_set_eq_nil, List.filter_eq_nil_iff]
    intro k hk
    have hnot := hkeys k hk
    unfold immutable_fields
    split_ifs <;> simp [hnot]
  have hupdated : updated_node p g n' update
      = .ok { m' with updated_rev := p.revision, standing := kept_standing p n' } := by
    simp [updated_node, himmutable, hm']
  have hb := update_node_ok.mpr ⟨n', hn', _, hupdated, rfl⟩
  exact ⟨_, hb, ha.put hn' (rewritten_of_update hupdated) rfl⟩

theorem edges_total {edges : List NewEdge}
    (h : ∀ raw ∈ edges, ∃ e, validated_edge s.ontology 0 raw = .ok e) :
    ∃ t, edges.foldlM (create_edge p.revision) s = .ok t := by
  refine foldlM_total (fun a => a.ontology = s.ontology) rfl (fun raw hraw a ha => ?_)
  obtain ⟨e, he⟩ := h raw hraw
  have hvalidated : ∃ e', validated_edge a.ontology p.revision raw = .ok e' := by
    rw [ha]
    unfold validated_edge at he ⊢
    cases hid : raw.stored_id <;> cases hlayer : declared_layer s.ontology raw.relation <;>
      simp [hid, hlayer] at he ⊢
  obtain ⟨e', he'⟩ := hvalidated
  exact ⟨_, create_edge_ok.mpr ⟨e', he', rfl⟩, ha⟩

/-- A loop that rewrites records it looks up succeeds when they are all there. -/
theorem lookups_total {α β : Type} [Keyed β String] (table : GraphState → Table β)
    (key : α → String) {xs : List α} {f : GraphState → α → Applied GraphState}
    (hf : ∀ a x q, (table a).get? (key x) = some q →
      ∃ b q', f a x = .ok b ∧ table b = (table a).put q')
    (h : ∀ x ∈ xs, (table s).contains (key x) = true) : ∃ t, xs.foldlM f s = .ok t := by
  refine foldlM_total (fun a => ∀ x ∈ xs, (table a).contains (key x) = true) h (fun x hx a ha => ?_)
  obtain ⟨q, hq⟩ := Table.contains_iff.mp (ha x hx)
  obtain ⟨b, q', hb, htable⟩ := hf a x q hq
  refine ⟨b, hb, fun y hy => ?_⟩
  rw [htable, Table.contains, Table.get?_put]
  split_ifs
  · rfl
  · exact ha y hy

/-! ### What the rules establish -/

variable [TextLibrary] {vp : ProposalRule} {ctx : OpContext} {cited : Option Datetime}

omit [TextLibrary] in
theorem accepted_updates (hmode : ctx.mode = .admission) {updates : List NodeUpdate}
    (h : Check.Passes (structural_validate vp ctx (.update_nodes updates)) cited) :
    ∀ update ∈ updates, ∃ n m, ctx.state.nodes.get? update.id = some n ∧
      (∀ k ∈ update.changes.keys, k ∉ IMMUTABLE_NODE_UPDATE_FIELDS) ∧
      n.with_changes .strict update.changes = .ok m := by
  intro update hmem
  obtain ⟨oldest, oldest', hrule⟩ := Check.passes_thread_mem h hmem
  unfold validate_update at hrule
  cases hn : ctx.state.nodes.get? update.id with
  | none => simp [hn] at hrule
  | some n =>
    simp only [hn, Check.passes_bind, Check.exists_unit, Check.passes_when, passes_reject,
      imp_false] at hrule
    obtain ⟨hphase, hstrength, hrule⟩ := hrule
    have hlegacy : ctx.legacy_replay = false := by simp [OpContext.legacy_replay, hmode]
    split_ifs at hrule with himmutable hlive
    · simp at hrule
    · exact absurd hlive (not_or.mpr ⟨hstrength, hphase⟩)
    · simp only [validate_update_changes, OpContext.decode_mode, hlegacy, Bool.false_eq_true,
        if_false, Check.passes_bind, Check.exists_unit] at hrule
      cases hm : n.with_changes .strict update.changes with
      | error message => simp [hm] at hrule
      | ok m =>
        refine ⟨n, m, rfl, fun k hk hsystem => ?_, hm⟩
        rw [ne_eq, not_not, immutable_update_fields, sorted_set_eq_nil,
          List.filter_eq_nil_iff] at himmutable
        have hnot := himmutable k hk
        simp [hsystem, hlegacy, hstrength] at hnot

omit [TextLibrary] in
theorem accepted_edges {edges : List NewEdge}
    (h : Check.Passes (structural_validate vp ctx (.create_edges edges)) cited) :
    ∀ raw ∈ edges, ∃ e, validated_edge ctx.state.ontology 0 raw = .ok e := by
  intro raw hraw
  simp only [structural_validate, validate_create_edges, Check.passes_bind] at h
  obtain ⟨seen, hthread, -⟩ := h
  obtain ⟨ids, ids', hrule⟩ := Check.passes_thread_mem hthread hraw
  have hidentity (h : Check.Passes (validate_edge_identity ctx ids raw) ids') :
      ∃ e, validated_edge ctx.state.ontology 0 raw = .ok e := by
    unfold validate_edge_identity at h
    simp only [] at h
    split_ifs at h
    · simp at h
    · cases he : validated_edge ctx.state.ontology 0 raw with
      | error message => simp [he] at h
      | ok e => exact ⟨e, rfl⟩
  simp only [validate_created_edge, Check.passes_bind, Check.exists_unit] at hrule
  obtain ⟨-, -, -, hrule⟩ := hrule
  cases hspec : RELATION_SPEC raw.relation with
  | some spec =>
    simp only [hspec] at hrule
    exact hidentity hrule
  | none =>
    cases hcustom : custom_relation ctx.state.ontology raw.relation with
    | none => simp [hspec, hcustom] at hrule
    | some custom =>
      simp only [hspec, hcustom, Check.passes_bind, Check.exists_unit] at hrule
      exact hidentity hrule.2

omit [TextLibrary] in
/-- What an accepted operation retires is there. -/
theorem accepted_supersedes {nodes : List SupersedeNode}
    (h : Check.Passes (structural_validate vp ctx (.supersede_nodes nodes)) cited) :
    ∀ item ∈ nodes, ctx.state.nodes.contains item.id = true := by
  simp only [structural_validate, passes_citing_none, validate_supersede_nodes,
    Check.passes_forEach, validate_superseded_node, Check.passes_bind, Check.exists_unit,
    Check.passes_when, passes_reject, imp_false, not_not] at h
  exact fun item hitem => (h.1 item hitem).1

omit [TextLibrary] in
theorem accepted_merges {merges : List NodeMerge}
    (h : Check.Passes (structural_validate vp ctx (.merge_nodes merges)) cited) :
    ∀ item ∈ merges, ctx.state.nodes.contains item.duplicate = true := by
  simp only [structural_validate, passes_citing_none, validate_merge_nodes, Check.passes_forEach,
    validate_merged_node, Check.passes_bind, Check.exists_unit, Check.passes_when, passes_reject,
    imp_false, not_not] at h
  exact fun item hitem => (h.1 item hitem).1

/-! ### Acceptance and application -/

/-- An operation that its rules accept in admission, on the graph staged so far,
    can be applied to that graph exactly when it retires no Evidence. -/
theorem accepted_applicable_iff {oldest oldest' : Option Datetime} (hmode : ctx.mode = .admission)
    (h : Check.Passes (judge_operation vp ctx oldest op) oldest') :
    (∃ t, apply_valid_operation ctx.state ctx.patch op = .ok t) ↔
      ∀ id ∈ retired_nodes op, ∀ n, ctx.state.nodes.get? id = some n → n.type ≠ .evidence := by
  obtain ⟨-, ⟨cited, hrule, -⟩, -⟩ := passes_judge_operation.mp h
  rw [staged_total]
  -- an operation that retires nothing only has to apply
  have happlies {op : GraphOperation} (hnone : retired_nodes op = [])
      (h : ∃ t, apply_operation ctx.patch ((generated_operation_indexes ctx.patch).contains 0)
        ctx.state op = .ok t) :
      (∃ t, apply_operation ctx.patch ((generated_operation_indexes ctx.patch).contains 0)
        ctx.state op = .ok t) ↔
      ∀ id ∈ retired_nodes op, ∀ n, ctx.state.nodes.get? id = some n → n.type ≠ .evidence := by
    simp only [h, hnone, List.not_mem_nil, false_implies, implies_true]
  cases op with
  -- these two write a retired status, which Evidence does not have
  | supersede_nodes nodes =>
    simp only [retired_nodes, List.forall_mem_map]
    show (∃ t, nodes.foldlM (fun a item => retire_node ctx.patch a item.id "supersedes"
      (item.superseded_by.filter (· ≠ "")) item.explanation item.cause) ctx.state = .ok t) ↔ _
    exact retire_total (accepted_supersedes hrule)
  | merge_nodes merges =>
    simp only [retired_nodes, List.forall_mem_map]
    show (∃ t, merges.foldlM (fun a item => retire_node ctx.patch a item.duplicate "duplicate_of"
      (some item.canonical) item.explanation item.cause) ctx.state = .ok t) ↔ _
    exact retire_total (accepted_merges hrule)
  | update_nodes updates => exact happlies rfl (updates_total (accepted_updates hmode hrule))
  | create_edges edges => exact happlies rfl (edges_total (accepted_edges hrule))
  | resolve_ambiguities resolutions =>
    simp only [structural_validate, passes_citing_none, validate_resolve_ambiguities,
      Check.passes_forEach, Check.passes_when, passes_reject, imp_false, not_not] at hrule
    refine happlies rfl (lookups_total GraphState.ambiguities AmbiguityResolution.id ?_ hrule.1)
    intro a r q hq
    exact ⟨_, _, resolve_ambiguity_ok.mpr ⟨q, hq, rfl⟩, rfl⟩
  | resolve_proposals resolutions =>
    simp only [structural_validate, passes_citing_none, validate_resolve_proposals,
      Check.passes_bind, Check.exists_unit, Check.passes_forEach, passes_pending] at hrule
    refine happlies rfl (lookups_total GraphState.proposals ProposalResolution.id ?_
      (fun r hr => ?_))
    · intro a r q hq
      exact ⟨_, _, resolve_proposal_ok.mpr ⟨q, hq, rfl⟩, rfl⟩
    · obtain ⟨q, hq, -⟩ := hrule.1.2 r hr
      exact Table.contains_iff.mpr ⟨q, hq⟩
  | withdraw_proposals withdrawals =>
    simp only [structural_validate, passes_citing_none, validate_withdraw_proposals,
      Check.passes_bind, Check.exists_unit, Check.passes_forEach, passes_pending] at hrule
    refine happlies rfl (lookups_total GraphState.proposals ProposalWithdrawal.id ?_
      (fun w hw => ?_))
    · intro a w q hq
      exact ⟨_, _, withdraw_proposal_ok.mpr ⟨q, hq, rfl⟩, rfl⟩
    · obtain ⟨q, hq, -⟩ := hrule.1.2 w hw
      exact Table.contains_iff.mpr ⟨q, hq⟩
  | set_standing node_id standing =>
    simp only [structural_validate, passes_citing_none, validate_set_standing, Check.passes_bind,
      Check.exists_unit, Check.passes_when, passes_reject, imp_false, not_not] at hrule
    obtain ⟨n, hn⟩ := Table.contains_iff.mp hrule.1.2
    exact happlies rfl ⟨_, set_standing_ok.mpr ⟨n, hn, rfl⟩⟩
  | _ => exact happlies rfl ⟨_, rfl⟩

end

open scoped Reference

/-- Two Blockers and two Evidence nodes. -/
def paired_graph : GraphState where
  revision := 1
  nodes := Table.ofList [(Reference.blocker "blk/a").node, (Reference.blocker "blk/b").node,
    { id := "ev/a", title := "a", body := .evidence { observation := "Seen.", role := .result } },
    { id := "ev/b", title := "b", body := .evidence { observation := "Seen.", role := .result } }]

def supersede_op (id superseded_by : String) : GraphOperation :=
  .supersede_nodes [{ id, superseded_by := some superseded_by }]

def merge_op (duplicate canonical : String) : GraphOperation :=
  .merge_nodes [{ duplicate, canonical }]

/-- The context in which the one operation of an agent's Patch is judged. -/
def retire_context (op : GraphOperation) : OpContext :=
  patch_context paired_graph (Reference.agent_patch 2 [op]) ["main"] {} .admission none

/-- A Blocker that its rules let an agent supersede is superseded. -/
theorem blocker_superseded : ∃ t,
    apply_valid_operation paired_graph (Reference.agent_patch 2 [supersede_op "blk/a" "blk/b"])
      (supersede_op "blk/a" "blk/b") = .ok t := by
  have hjudged : Check.Passes (judge_operation validate_proposal
      (retire_context (supersede_op "blk/a" "blk/b")) none (supersede_op "blk/a" "blk/b")) none :=
    ⟨[], rfl, by simp⟩
  refine (accepted_applicable_iff rfl hjudged).mpr ?_
  intro id hid n hn
  obtain rfl := List.mem_singleton.mp hid
  cases hn
  decide

/-- The rules let an agent do it, and it cannot be applied. -/
def AcceptedNotApplied (op : GraphOperation) : Prop :=
  Check.Passes (judge_operation validate_proposal (retire_context op) none op) none ∧
    ¬ ∃ t, apply_valid_operation (retire_context op).state (retire_context op).patch op = .ok t

/-- Evidence passes the rules of both retiring operations, and neither applies. -/
theorem accepted_evidence_not_retired :
    AcceptedNotApplied (supersede_op "ev/a" "ev/b") ∧
      AcceptedNotApplied (merge_op "ev/a" "ev/b") := by
  have hfails {x : Applied GraphState} (h : x.isOk = false) : ¬ ∃ t, x = .ok t := by
    rintro ⟨t, rfl⟩
    cases h
  refine ⟨⟨⟨[], rfl, by simp⟩, hfails (by decide)⟩, ⟨⟨[], rfl, by simp⟩, hfails (by decide)⟩⟩

end ResearchGraph
