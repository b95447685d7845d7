import ResearchGraph.Delta
import ResearchGraph.Provenance
import ResearchGraph.AcceptedPatch
import ResearchGraph.Reference
import ResearchGraph.Lib.Cut
import Mathlib.Data.List.Induction

/-! # The standing log agrees with the graph

    The scan behind the refresh delta repeats the effect of every operation on
    the standing of nodes without looking at the graph.  Along every replayed
    history it knows the standing of each node that is present (`Knows`), and
    the entries it writes for a node since its last creation form a chain of
    standings (`chained`) that ends at the standing of the node.
-/

namespace ResearchGraph

open Lib

variable {p : Patch} {generated : Bool} {s t u : GraphState} {op : GraphOperation} {x : String}
  {state : GraphState} {scan : StandingScan}

/-! ### Chains of standings -/

/-- The standing at the end of an unbroken chain of transitions. -/
def chained (standing : Standing) : List RefreshDeltaEntry → Option Standing
  | [] => some standing
  | e :: es =>
    if e.previous_standing = some standing then
      match e.current_standing with
      | some next => chained next es
      | none => none
    else none

theorem chained_append {a b : Standing} {es fs : List RefreshDeltaEntry}
    (h : chained a es = some b) : chained a (es ++ fs) = chained b fs := by
  induction es generalizing a with
  | nil =>
    obtain rfl : a = b := by simpa [chained] using h
    rfl
  | cons e es ih =>
    simp only [chained, List.cons_append] at h ⊢
    split at h
    · rename_i hprevious
      rw [if_pos hprevious]
      cases hcurrent : e.current_standing with
      | none => simp [hcurrent] at h
      | some next =>
        simp only [hcurrent] at h ⊢
        exact ih h
    · cases h

/-- The entries of one target. -/
def entries_of (x : String) (es : List RefreshDeltaEntry) : List RefreshDeltaEntry :=
  es.filter (fun e => e.target_id = x)

@[simp] theorem entries_of_append (es fs : List RefreshDeltaEntry) :
    entries_of x (es ++ fs) = entries_of x es ++ entries_of x fs := by
  simp [entries_of]

/-- The scan went on from one point to another, and the entries it wrote for `x` lead from
    the standing it believed in to the one it believes in now. -/
structure Leads (x : String) (scan scan' : StandingScan) (a b : Standing)
    (written : List RefreshDeltaEntry) : Prop where
  before : Dict.get scan.standings x = some a
  after : Dict.get scan'.standings x = some b
  entries : scan'.entries = scan.entries ++ written
  chain : chained a (entries_of x written) = some b

theorem Leads.refl {a : Standing} (h : Dict.get scan.standings x = some a) :
    Leads x scan scan a a [] :=
  ⟨h, h, by simp, rfl⟩

theorem Leads.trans {scan₁ scan₂ scan₃ : StandingScan} {a b c : Standing}
    {es fs : List RefreshDeltaEntry} (h : Leads x scan₁ scan₂ a b es)
    (h' : Leads x scan₂ scan₃ b c fs) : Leads x scan₁ scan₃ a c (es ++ fs) where
  before := h.before
  after := h'.after
  entries := by rw [h'.entries, h.entries, List.append_assoc]
  chain := by rw [entries_of_append, chained_append h.chain, h'.chain]

theorem move_leads_self {a : Standing} (h : Dict.get scan.standings x = some a)
    (state : GraphState) (p : Patch) (after : Standing) :
    Leads x scan (scan.move state p x after) a after
      (if a ≠ after then [standing_entry state p x a after] else []) := by
  refine ⟨h, by simp [StandingScan.move], ?_, ?_⟩
  · simp only [StandingScan.move, h, Option.getD_some]
    split
    · rfl
    · simp
  · by_cases hmoved : a = after
    · simp [hmoved, entries_of, chained]
    · simp [hmoved, entries_of, standing_entry, chained]

/-- An entry about another node is not one of the chain. -/
theorem move_leads_other {a : Standing} {y : String} (h : Dict.get scan.standings x = some a)
    (hy : x ≠ y) (state : GraphState) (p : Patch) (after : Standing) :
    ∃ written, Leads x scan (scan.move state p y after) a a written ∧
      entries_of x written = [] := by
  have hnone : entries_of x [standing_entry state p y
      ((Dict.get scan.standings y).getD .asserted) after] = [] := by
    simp [entries_of, standing_entry, Ne.symm hy]
  have hkept : Dict.get (scan.move state p y after).standings x = some a := by
    simpa [StandingScan.move, hy] using h
  by_cases hmoved : (Dict.get scan.standings y).getD .asserted = after
  · refine ⟨[], ⟨h, hkept, ?_, rfl⟩, rfl⟩
    simp [StandingScan.move, hmoved]
  · refine ⟨_, ⟨h, hkept, ?_, ?_⟩, hnone⟩
    · simp [StandingScan.move, hmoved]
    · rw [hnone]
      rfl

/-- Moves of several nodes to one standing. -/
theorem moves_leads {a : Standing} (ids : List String) (h : Dict.get scan.standings x = some a)
    (state : GraphState) (p : Patch) (after : Standing) : ∃ b written,
      Leads x scan (ids.foldl (fun scan id => scan.move state p id after) scan) a b written ∧
        ((b = a ∧ entries_of x written = []) ∨ b = after) := by
  induction ids generalizing scan a with
  | nil => exact ⟨a, [], Leads.refl h, Or.inl ⟨rfl, rfl⟩⟩
  | cons id ids ih =>
    by_cases hx : x = id
    · subst hx
      have hb := move_leads_self h state p after
      obtain ⟨c, fs, hc, hcase⟩ := ih hb.after
      refine ⟨c, _, hb.trans hc, Or.inr ?_⟩
      rcases hcase with ⟨hc', -⟩ | hc'
      · exact hc'
      · exact hc'
    · obtain ⟨es, hb, hnone⟩ := move_leads_other h hx state p after
      obtain ⟨c, fs, hc, hcase⟩ := ih hb.after
      refine ⟨c, es ++ fs, hb.trans hc, ?_⟩
      rcases hcase with ⟨rfl, hfs⟩ | hc'
      · exact Or.inl ⟨rfl, by simp [hnone, hfs]⟩
      · exact Or.inr hc'

/-- What the scan believes in after a creation. -/
theorem created_standing (nodes : List NewNode) (d : Dict String Standing) (x : String) :
    Dict.get (nodes.foldl (fun d raw => Dict.set d raw.node.id raw.node.standing) d) x =
      (last_created Node.standing [.create_nodes nodes] x).or (Dict.get d x) := by
  induction nodes generalizing d with
  | nil => rfl
  | cons raw nodes ih =>
    rw [List.foldl_cons, ih, Dict.get_set]
    by_cases hx : raw.node.id = x
    · simp [last_created, created_nodes_of, GraphOperation.created_nodes, List.getLast?_cons, hx]
    · simp [last_created, created_nodes_of, GraphOperation.created_nodes, hx, Ne.symm hx]

theorem scan_operation_created {a : Standing} (state : GraphState) (p : Patch)
    (scan : StandingScan) (h : last_created Node.standing [op] x = some a) :
    Dict.get (scan_operation state p scan op).standings x = some a := by
  cases op with
  | create_nodes nodes =>
    simp only [scan_operation]
    rw [created_standing, h]
    rfl
  | _ => simp [last_created, created_nodes_of, GraphOperation.created_nodes] at h

/-- What an operation that does not create `x` does to the log of `x`: nothing, or a move to
    asserted, or the move a review names. -/
theorem scan_operation_leads {a : Standing} (state : GraphState) (p : Patch)
    (h : Dict.get scan.standings x = some a)
    (hcreate : last_created Node.standing [op] x = none) :
    ∃ b written, Leads x scan (scan_operation state p scan op) a b written ∧
      ((b = a ∧ entries_of x written = []) ∨ b = .asserted ∨
        (op = .set_standing x b ∧
          written = if a ≠ b then [standing_entry state p x a b] else [])) := by
  cases op with
  | create_nodes nodes =>
    refine ⟨a, [], ⟨h, ?_, by simp [scan_operation], rfl⟩, Or.inl ⟨rfl, rfl⟩⟩
    simp only [scan_operation]
    rw [created_standing, hcreate]
    exact h
  | set_standing node_id standing =>
    by_cases hx : x = node_id
    · subst hx
      exact ⟨standing, _, move_leads_self h state p standing, Or.inr (Or.inr ⟨rfl, rfl⟩)⟩
    · obtain ⟨written, hleads, hnone⟩ := move_leads_other h hx state p standing
      exact ⟨a, written, hleads, Or.inl ⟨rfl, hnone⟩⟩
  | _ =>
    simp only [scan_operation]
    split
    · exact ⟨a, [], Leads.refl h, Or.inl ⟨rfl, rfl⟩⟩
    · obtain ⟨b, written, hleads, hcase⟩ := moves_leads _ h state p .asserted
      exact ⟨b, written, hleads, hcase.imp_right Or.inl⟩

/-! ### The scan knows the standing of every node -/

/-- The scan believes in the standing of every node that is present. -/
def Knows (scan : StandingScan) (s : GraphState) : Prop :=
  ∀ x n, s.nodes.get? x = some n → Dict.get scan.standings x = some n.standing

theorem Knows.congr (h : Knows scan s) (hnodes : t.nodes = s.nodes) : Knows scan t := by
  intro x n hn
  rw [hnodes] at hn
  exact h x n hn

theorem move_standings (scan : StandingScan) (state : GraphState) (p : Patch) (y : String)
    (after : Standing) : Dict.get (scan.move state p y after).standings x =
      if x = y then some after else Dict.get scan.standings x := by
  simp [StandingScan.move]

/-- What the scan does for a node that a Patch rewrites. -/
def StandingScan.rewrite (scan : StandingScan) (state : GraphState) (p : Patch) (id : String) :
    StandingScan :=
  if p.kind = .approval then scan else scan.move state p id .asserted

theorem Knows.rewritten {n m : Node} {id : String} (h : Knows scan s)
    (hn : s.nodes.get? id = some n) (hid : m.id = n.id) (hm : m.standing = kept_standing p n)
    (ht : t.nodes = s.nodes.put m) (state : GraphState) :
    Knows (scan.rewrite state p id) t := by
  have hkey : n.id = id := Table.key_of_get? hn
  have hput (y : String) : t.nodes.get? y = if y = id then some m else s.nodes.get? y := by
    rw [ht, Table.get?_put]
    simp [Keyed.key, hid, hkey]
  intro y k hk
  rw [hput] at hk
  by_cases hy : y = id
  · subst hy
    obtain rfl : m = k := by simpa using hk
    simp only [StandingScan.rewrite, kept_standing] at hm ⊢
    split
    · rename_i happroval
      rw [if_pos happroval] at hm
      rw [h y n hn, hm]
    · rename_i happroval
      rw [if_neg happroval] at hm
      rw [move_standings, if_pos rfl, hm]
  · rw [if_neg hy] at hk
    simp only [StandingScan.rewrite]
    split
    · exact h y k hk
    · rw [move_standings, if_neg hy]
      exact h y k hk

/-- Rewrites of a list of nodes, one after another. -/
theorem Knows.rewrites {α : Type} {items : List α} (id : α → String)
    {step : GraphState → α → Applied GraphState} (state : GraphState)
    (hstep : ∀ a b item, step a item = .ok b → ∃ n m, a.nodes.get? (id item) = some n ∧
      m.id = n.id ∧ m.standing = kept_standing p n ∧ b.nodes = a.nodes.put m)
    (h : Knows scan s) (hrun : items.foldlM step s = .ok t) :
    Knows ((items.map id).foldl (fun scan y => scan.rewrite state p y) scan) t := by
  induction items generalizing s scan with
  | nil =>
    obtain rfl := foldlM_nil_ok.mp hrun
    exact h
  | cons item items ih =>
    obtain ⟨v, hv, hrest⟩ := foldlM_cons_ok.mp hrun
    obtain ⟨n, m, hn, hid, hm, hput⟩ := hstep s v item hv
    exact ih (h.rewritten hn hid hm hput state) hrest

theorem retired_node {id relation explanation : String} {target : Option String}
    {cause : Option BeliefCause}
    (h : retire_node p s id relation target explanation cause = .ok t) :
    ∃ n m, s.nodes.get? id = some n ∧ m.id = n.id ∧ m.standing = kept_standing p n ∧
      t.nodes = s.nodes.put m := by
  obtain ⟨n, hn, m, hm, rfl⟩ := retire_node_ok.mp h
  have hrewritten := rewritten_of_supersede hm
  exact ⟨n, m, hn, hrewritten.id, hrewritten.standing, rfl⟩

theorem rewrite_fold (state : GraphState) (p : Patch) (ids : List String) (scan : StandingScan) :
    ids.foldl (fun scan y => scan.rewrite state p y) scan =
      if p.kind = .approval then scan
      else ids.foldl (fun scan y => scan.move state p y .asserted) scan := by
  by_cases hp : p.kind = .approval
  · simp [StandingScan.rewrite, hp]
  · simp [StandingScan.rewrite, hp]

theorem Knows.untouched (h : Knows scan s) (hop : apply_operation p generated s op = .ok t)
    (hreached : reached_nodes op = []) : Knows scan t := by
  intro y n hn
  rw [nodes_frame hop (by simp [hreached])] at hn
  exact h y n hn

/-- One operation keeps the scan in step with the graph. -/
theorem Knows.operation (h : Knows scan s) (hop : apply_operation p generated s op = .ok t)
    (state : GraphState) : Knows (scan_operation state p scan op) t := by
  cases op with
  | create_nodes nodes =>
    cases hop
    intro y n hn
    -- the last creation of an id is the one that is read back
    have hread := created_node_reading (s := s) (g := Node.standing) (fun _ _ => rfl) p.revision
      nodes y
    rw [hn] at hread
    simp only [scan_operation]
    rw [created_standing]
    cases hlast : last_created Node.standing [.create_nodes nodes] y with
    | some a =>
      rw [hlast] at hread
      simpa using hread.symm
    | none =>
      rw [hlast] at hread
      cases hy : s.nodes.get? y with
      | none => simp [hy] at hread
      | some k =>
        rw [hy] at hread
        have hk : n.standing = k.standing := by simpa using hread
        rw [hk]
        exact h y k hy
  | set_standing node_id standing =>
    obtain ⟨n, hn, rfl⟩ := set_standing_ok.mp hop
    have hkey : n.id = node_id := Table.key_of_get? hn
    intro y k hk
    simp only [scan_operation]
    rw [move_standings]
    by_cases hy : y = node_id
    · subst hy
      have hk' : { n with standing, updated_rev := p.revision } = k := by
        simpa [Table.get?_put, Keyed.key, hkey] using hk
      rw [if_pos rfl, ← hk']
    · have hk' : s.nodes.get? y = some k := by
        simpa [Table.get?_put, Keyed.key, hkey, hy] using hk
      rw [if_neg hy]
      exact h y k hk'
  | remove_nodes node_ids =>
    cases hop
    have hscan : scan_operation state p scan (.remove_nodes node_ids) = scan := by
      simp [scan_operation, nodes_reset_by_operation]
    rw [hscan]
    intro y n hn
    simp only [remove_nodes, Table.get?_filter, Option.filter_eq_some_iff] at hn
    exact h y n hn.1
  | update_nodes updates =>
    -- a rewritten node keeps its standing, and the scan its entry
    have hrun := h.rewrites (p := p) (fun u : NodeUpdate => u.id) state (fun a b u hab => by
      obtain ⟨n, hn, m, hm, rfl⟩ := update_node_ok.mp hab
      have hrewritten := rewritten_of_update hm
      exact ⟨n, m, hn, hrewritten.id, hrewritten.standing, rfl⟩) hop
    rwa [rewrite_fold] at hrun
  | supersede_nodes nodes =>
    have hrun := h.rewrites (p := p) (fun item : SupersedeNode => item.id) state
      (fun a b item hab => retired_node hab) hop
    rwa [rewrite_fold] at hrun
  | merge_nodes merges =>
    have hrun := h.rewrites (p := p) (fun item : NodeMerge => item.duplicate) state
      (fun a b item hab => retired_node hab) hop
    rwa [rewrite_fold] at hrun
  | _ =>
    simp only [scan_operation, nodes_reset_by_operation, List.foldl_nil, ite_self]
    exact h.untouched hop rfl

/-! ### Histories -/

/-- The operations of a history, with the Patch that carries them. -/
def history_actions (patches : List Patch) : List (Patch × GraphOperation) :=
  patches.flatMap (fun p => p.ops.map (fun op => (p, op)))

def scan_action (state : GraphState) (scan : StandingScan) (a : Patch × GraphOperation) :
    StandingScan :=
  scan_operation state a.1 scan a.2

theorem scan_history (state : GraphState) (patches : List Patch) (scan : StandingScan) :
    patches.foldl (scan_patch state) scan =
      (history_actions patches).foldl (scan_action state) scan := by
  induction patches generalizing scan with
  | nil => rfl
  | cons p patches ih =>
    have hp : scan_patch state scan p =
        (p.ops.map (fun op => (p, op))).foldl (scan_action state) scan := by
      rw [List.foldl_map]
      rfl
    have hactions : history_actions (p :: patches) =
        p.ops.map (fun op => (p, op)) ++ history_actions patches := List.flatMap_cons
    rw [List.foldl_cons, ih, hp, hactions, List.foldl_append]

/-- A run of operations; between them only bookkeeping that leaves the nodes alone. -/
inductive Played : GraphState → List (Patch × GraphOperation) → GraphState → Prop
  | refl (s : GraphState) : Played s [] s
  | operation {p : Patch} {g : Bool} {op : GraphOperation} {s t u : GraphState}
      {actions : List (Patch × GraphOperation)} (h : apply_operation p g s op = .ok t)
      (rest : Played t actions u) : Played s ((p, op) :: actions) u
  | bookkeeping {s t u : GraphState} {actions : List (Patch × GraphOperation)}
      (h : t.nodes = s.nodes) (rest : Played t actions u) : Played s actions u

variable {actions later : List (Patch × GraphOperation)}

theorem Played.append (h : Played s actions t) (h' : Played t later u) :
    Played s (actions ++ later) u := by
  induction h with
  | refl => exact h'
  | operation hop _ ih => exact .operation hop (ih h')
  | bookkeeping hnodes _ ih => exact .bookkeeping hnodes (ih h')

theorem Played.settled (h : Played s actions t) (hnodes : u.nodes = t.nodes) :
    Played s actions u := by
  have hend := h.append (.bookkeeping hnodes (.refl u))
  rwa [List.append_nil] at hend

theorem Played.knows (h : Played s actions t) (hs : Knows scan s) (state : GraphState) :
    Knows (actions.foldl (scan_action state) scan) t := by
  induction h generalizing scan with
  | refl => exact hs
  | operation hop _ ih => exact ih (hs.operation hop state)
  | bookkeeping hnodes _ ih => exact ih (hs.congr hnodes)

/-- The operations of one Patch, each under its index. -/
theorem played_operations (p : Patch) (generated : List Nat) (ops : List GraphOperation) (k : Nat)
    (h : (ops.zipIdx k).foldlM (fun u x => apply_operation p (generated.contains x.2) u x.1) s =
      .ok t) : Played s (ops.map (fun op => (p, op))) t := by
  induction ops generalizing s k with
  | nil =>
    obtain rfl := foldlM_nil_ok.mp h
    exact .refl s
  | cons op ops ih =>
    rw [List.zipIdx_cons] at h
    obtain ⟨v, hv, hrest⟩ := foldlM_cons_ok.mp h
    exact .operation hv (ih (k + 1) hrest)

theorem played_patch (h : apply_valid_patch s p = .ok t) :
    ∃ u, Played s (p.ops.map (fun op => (p, op))) u ∧ t.nodes = u.nodes := by
  obtain ⟨u, hrun, rfl⟩ := apply_patch_ok.mp h
  exact ⟨u, played_operations p _ p.ops 0 hrun, committed_nodes p _⟩

/-- What holds of the start and survives every operation holds after the run; the
    invariant may speak of the operations played so far. -/
theorem Played.invariant {I : List (Patch × GraphOperation) → GraphState → Prop}
    (h : Played s actions t) (hs : I [] s)
    (hstep : ∀ pre p g op a b, Played s pre a → I pre a → apply_operation p g a op = .ok b →
      I (pre ++ [(p, op)]) b)
    (hnodes : ∀ pre a b, b.nodes = a.nodes → I pre a → I pre b) : I actions t := by
  -- the operations still to come are played from a state the earlier ones reach
  have hrun : ∀ {a u : GraphState} {post : List (Patch × GraphOperation)}, Played a post u →
      ∀ pre, Played s pre a → I pre a → I (pre ++ post) u := by
    intro a u post hpost
    induction hpost with
    | refl a =>
      intro pre _ ha
      rwa [List.append_nil]
    | @operation p g op a b u post hop _ ih =>
      intro pre hpre ha
      have hnext := ih (pre ++ [(p, op)]) (hpre.append (.operation hop (.refl b)))
        (hstep pre p g op a b hpre ha hop)
      rwa [List.append_assoc] at hnext
    | @bookkeeping a b u post hsame _ ih =>
      intro pre hpre ha
      exact ih pre (hpre.settled hsame) (hnodes pre a b hsame ha)
  exact hrun h [] (.refl s) hs

/-! ### The log of one node since its last creation -/

/-- A node that no operation creates does not appear. -/
theorem operation_absent (h : apply_operation p generated s op = .ok t)
    (hcreate : last_created Node.standing [op] x = none) (hx : s.nodes.get? x = none) :
    t.nodes.get? x = none := by
  have hnames : x ∉ (created_nodes_of [op]).map (·.node.id) := by
    rw [← last_created_isSome (g := Node.standing), hcreate]
    simp
  by_cases hnone : op.created_nodes = []
  · by_cases hremoved : x ∈ removed_nodes op
    · cases op <;> simp [removed_nodes] at hremoved
      cases h
      simp [remove_nodes, hx]
    · have hsteady : SteadyUnder p generated (fun _ : Node => ()) :=
        ⟨fun _ _ => rfl, fun _ => rfl, fun _ => rfl, fun _ _ _ => rfl⟩
      have hread := apply_operation_frame (fun u => (u.nodes.get? x).map (fun _ => ())) h
        (fun a b hab => write_keeps_reading hsteady hab hnone hremoved)
      simpa [hx] using hread
  · cases op <;> simp [GraphOperation.created_nodes] at hnone
    rw [nodes_frame h (by
      simpa [reached_nodes, created_nodes_of, changed_nodes] using hnames), hx]

theorem Played.absent (h : Played s actions t)
    (hcreate : ∀ a ∈ actions, last_created Node.standing [a.2] x = none)
    (hx : s.nodes.get? x = none) : t.nodes.get? x = none := by
  induction h with
  | refl => exact hx
  | operation hop _ ih =>
    exact ih (fun a ha => hcreate a (by simp [ha]))
      (operation_absent hop (hcreate _ List.mem_cons_self) hx)
  | bookkeeping hnodes _ ih => exact ih hcreate (by rw [hnodes, hx])

/-- Follow one node along the log: the standing its last creation gave it, and the
    transitions entered for it since. -/
def follow (state : GraphState) (x : String)
    (acc : StandingScan × Option (Standing × List RefreshDeltaEntry))
    (a : Patch × GraphOperation) : StandingScan × Option (Standing × List RefreshDeltaEntry) :=
  let scan := scan_action state acc.1 a
  let since := match last_created Node.standing [a.2] x with
    | some created => some (created, [])
    | none => acc.2.map (fun since =>
        (since.1, since.2 ++ entries_of x (scan.entries.drop acc.1.entries.length)))
  (scan, since)

/-- The standing `x` was last created with, and its transitions since. -/
def since_creation (patches : List Patch) (state : GraphState) (x : String) :
    Option (Standing × List RefreshDeltaEntry) :=
  ((history_actions patches).foldl (follow state x) ({}, none)).2

theorem follow_scan (state : GraphState) (x : String) (actions : List (Patch × GraphOperation))
    (acc : StandingScan × Option (Standing × List RefreshDeltaEntry)) :
    (actions.foldl (follow state x) acc).1 = actions.foldl (scan_action state) acc.1 := by
  induction actions generalizing acc with
  | nil => rfl
  | cons a actions ih => rw [List.foldl_cons, ih, List.foldl_cons]; rfl

/-- Following a node that is not created adds what was written about it. -/
theorem follow_kept {acc : StandingScan × Option (Standing × List RefreshDeltaEntry)}
    {created b a : Standing} {es written : List RefreshDeltaEntry}
    (hcreate : last_created Node.standing [op] x = none) (hacc : acc.2 = some (created, es))
    (hleads : Leads x acc.1 (scan_operation state p acc.1 op) a b written) :
    (follow state x acc (p, op)).2 = some (created, es ++ entries_of x written) := by
  have hdrop : (scan_operation state p acc.1 op).entries.drop acc.1.entries.length = written := by
    rw [hleads.entries, List.drop_left]
  simp [follow, scan_action, hcreate, hacc, hdrop]

/-- The log of `x` since its last creation is in step with the graph. -/
structure InStep (x : String) (acc : StandingScan × Option (Standing × List RefreshDeltaEntry))
    (s : GraphState) : Prop where
  knows : Knows acc.1 s
  present : ∀ n, s.nodes.get? x = some n → acc.2.isSome = true
  chain : ∀ created es, acc.2 = some (created, es) →
    es <:+ entries_of x acc.1.entries ∧
      ∃ b, Dict.get acc.1.standings x = some b ∧ chained created es = some b

theorem InStep.operation {acc : StandingScan × Option (Standing × List RefreshDeltaEntry)}
    (h : InStep x acc s) (hop : apply_operation p generated s op = .ok t) (state : GraphState) :
    InStep x (follow state x acc (p, op)) t := by
  refine ⟨h.knows.operation hop state, ?_, ?_⟩
  · intro n hn
    cases hcreate : last_created Node.standing [op] x with
    | some created => simp [follow, hcreate]
    | none =>
      cases hs : s.nodes.get? x with
      | none => simp [operation_absent hop hcreate hs] at hn
      | some k => simpa [follow, hcreate] using h.present k hs
  · intro created es hes
    cases hcreate : last_created Node.standing [op] x with
    | some a =>
      obtain ⟨rfl, rfl⟩ : a = created ∧ [] = es := by simpa [follow, hcreate] using hes
      exact ⟨List.nil_suffix, a, scan_operation_created state p acc.1 hcreate, rfl⟩
    | none =>
      cases hacc : acc.2 with
      | none => simp [follow, hcreate, hacc] at hes
      | some since =>
        obtain ⟨created', es'⟩ := since
        obtain ⟨hsuffix, a, ha, hchain⟩ := h.chain created' es' hacc
        obtain ⟨b, written, hleads, -⟩ := scan_operation_leads state p ha hcreate
        rw [follow_kept hcreate hacc hleads] at hes
        obtain ⟨rfl, rfl⟩ : created' = created ∧ es' ++ entries_of x written = es := by
          simpa using hes
        refine ⟨?_, b, hleads.after, by rw [chained_append hchain, hleads.chain]⟩
        have hentries : (follow state x acc (p, op)).1.entries = acc.1.entries ++ written :=
          hleads.entries
        rw [hentries, entries_of_append]
        obtain ⟨earlier, hearlier⟩ := hsuffix
        exact ⟨earlier, by rw [← hearlier, List.append_assoc]⟩

/-! ### The Patch that last contested a node -/

/-- Along the run from `s` to `t` the Patch `q` contested `x`, which was not contested
    before, and `x` stayed contested at every later point. -/
def LastContested (x : String) (s : GraphState) (actions : List (Patch × GraphOperation))
    (t : GraphState) (q : Patch) : Prop :=
  ∃ pre post g a b, actions = pre ++ (q, .set_standing x .contested) :: post ∧ Played s pre a ∧
    apply_operation q g a (.set_standing x .contested) = .ok b ∧ Played b post t ∧
    (∀ n, a.nodes.get? x = some n → n.standing ≠ .contested) ∧
    ∀ post₁ post₂ v, post = post₁ ++ post₂ → Played b post₁ v → Played v post₂ t →
      ∃ n, v.nodes.get? x = some n ∧ n.standing = .contested

/-- The same as the log has it: after the entry of `q` the log of `x` is quiet. -/
def QuietSince (state : GraphState) (x : String) (s : GraphState)
    (actions : List (Patch × GraphOperation)) (t : GraphState) (e : RefreshDeltaEntry) : Prop :=
  ∃ pre q post g a b, actions = pre ++ (q, .set_standing x .contested) :: post ∧ Played s pre a ∧
    apply_operation q g a (.set_standing x .contested) = .ok b ∧ Played b post t ∧
    e.revision = q.revision ∧ e.author = q.author ∧
    Dict.get (pre.foldl (scan_action state) {}).standings x ≠ some .contested ∧
    (∀ c ∈ post, last_created Node.standing [c.2] x = none) ∧
    ∀ post₁ post₂, post = post₁ ++ post₂ →
      Dict.get ((pre ++ (q, .set_standing x .contested) :: post₁).foldl (scan_action state)
        {}).standings x = some .contested

theorem QuietSince.lastContested {e : RefreshDeltaEntry} {n : Node}
    (h : QuietSince state x s actions t e) (hempty : ∀ y, s.nodes.get? y = none)
    (hn : t.nodes.get? x = some n) :
    ∃ q, e.revision = q.revision ∧ e.author = q.author ∧ LastContested x s actions t q := by
  obtain ⟨pre, q, post, g, a, b, hactions, hpre, hop, hpost, hrevision, hauthor, hbefore, hcreate,
    hquiet⟩ := h
  have hstart : Knows {} s := by
    intro y k hk
    rw [hempty y] at hk
    cases hk
  refine ⟨q, hrevision, hauthor, pre, post, g, a, b, hactions, hpre, hop, hpost, ?_, ?_⟩
  · intro k hk hcontested
    have hknown := hpre.knows hstart state x k hk
    rw [hcontested] at hknown
    exact hbefore hknown
  · intro post₁ post₂ v hsplit hfirst hsecond
    have hplayed : Played s (pre ++ (q, .set_standing x .contested) :: post₁) v :=
      hpre.append (.operation hop hfirst)
    cases hv : v.nodes.get? x with
    | none =>
      -- it would still be absent at the end
      have hgone := hsecond.absent (x := x) (fun c hc => hcreate c (by simp [hsplit, hc])) hv
      rw [hgone] at hn
      cases hn
    | some k =>
      have hknown := hplayed.knows hstart state x k hv
      rw [hquiet post₁ post₂ hsplit] at hknown
      exact ⟨k, rfl, by simpa using hknown.symm⟩

/-- While the log says that `x` is contested, its last transition tells who contested it. -/
def Attributed (state : GraphState) (x : String) (s : GraphState)
    (actions : List (Patch × GraphOperation)) (t : GraphState) : Prop :=
  ∀ created es, (actions.foldl (follow state x) ({}, none)).2 = some (created, es) →
    created ≠ .contested →
    Dict.get (actions.foldl (scan_action state) {}).standings x = some .contested →
    ∃ e, es.getLast? = some e ∧ QuietSince state x s actions t e

theorem QuietSince.snoc {e : RefreshDeltaEntry} (h : QuietSince state x s actions t e)
    (hop : apply_operation p generated t op = .ok u)
    (hcreate : last_created Node.standing [op] x = none)
    (hknown : Dict.get ((actions ++ [(p, op)]).foldl (scan_action state) {}).standings x =
      some .contested) : QuietSince state x s (actions ++ [(p, op)]) u e := by
  obtain ⟨pre, q, post, g, a, b, rfl, hpre, hcontest, hpost, hrevision, hauthor, hbefore, hnone,
    hquiet⟩ := h
  refine ⟨pre, q, post ++ [(p, op)], g, a, b, by simp, hpre, hcontest,
    hpost.append (.operation hop (.refl u)), hrevision, hauthor, hbefore, ?_, ?_⟩
  · intro c hc
    rcases List.mem_append.mp hc with hc | hc
    · exact hnone c hc
    · obtain rfl := List.mem_singleton.mp hc
      exact hcreate
  · intro post₁ post₂ hsplit
    rcases List.eq_nil_or_concat post₂ with rfl | ⟨post₃, c, rfl⟩
    · obtain rfl : post ++ [(p, op)] = post₁ := by simpa using hsplit
      simpa using hknown
    · rw [List.concat_eq_append, ← List.append_assoc] at hsplit
      exact hquiet post₁ post₃ (List.append_inj_left' hsplit rfl)

theorem Attributed.snoc (h : Attributed state x s actions t)
    (hfollows : InStep x (actions.foldl (follow state x) ({}, none)) t)
    (hplayed : Played s actions t) (hop : apply_operation p generated t op = .ok u) :
    Attributed state x s (actions ++ [(p, op)]) u := by
  intro created es hes hcreated hknown
  let acc := actions.foldl (follow state x) ({}, none)
  have hscan : acc.1 = actions.foldl (scan_action state) {} := follow_scan state x actions _
  rw [List.foldl_append] at hes
  cases hcreate : last_created Node.standing [op] x with
  | some a =>
    -- a creation decides the standing, and this one does not contest
    obtain ⟨rfl, -⟩ : a = created ∧ [] = es := by simpa [follow, hcreate] using hes
    have hstanding := scan_operation_created state p (actions.foldl (scan_action state) {}) hcreate
    rw [List.foldl_append] at hknown
    rw [List.foldl_cons, List.foldl_nil, scan_action, hstanding] at hknown
    exact absurd (by simpa using hknown) hcreated
  | none =>
    cases hacc : acc.2 with
    | none => simp [follow, hcreate, acc] at hes hacc; simp [hacc] at hes
    | some since =>
      obtain ⟨created', es'⟩ := since
      obtain ⟨-, a, ha, -⟩ := hfollows.chain created' es' hacc
      obtain ⟨b, written, hleads, hcase⟩ := scan_operation_leads state p ha hcreate
      have hes' : (follow state x acc (p, op)).2 = some (created, es) := hes
      rw [follow_kept hcreate hacc hleads] at hes'
      obtain ⟨rfl, rfl⟩ : created' = created ∧ es' ++ entries_of x written = es := by
        simpa using hes'
      have hb : b = .contested := by
        have hafter := hleads.after
        rw [List.foldl_append, List.foldl_cons, List.foldl_nil, scan_action, ← hscan] at hknown
        have hboth := hafter.symm.trans hknown
        simpa using hboth
      subst hb
      -- the log of `x` was quiet, or a review contested it now
      have hcarry (ha' : a = .contested) (hnone : entries_of x written = []) :
          ∃ e, (es' ++ entries_of x written).getLast? = some e ∧
            QuietSince state x s (actions ++ [(p, op)]) u e := by
        rw [ha', hscan] at ha
        obtain ⟨e, he, hquiet⟩ := h created' es' hacc hcreated ha
        exact ⟨e, by rw [hnone, List.append_nil, he], hquiet.snoc hop hcreate hknown⟩
      rcases hcase with ⟨ha', hnone⟩ | hasserted | ⟨rfl, hwritten⟩
      · exact hcarry ha'.symm hnone
      · cases hasserted
      · by_cases ha' : a = .contested
        · exact hcarry ha' (by rw [hwritten, ha']; rfl)
        · rw [if_pos ha'] at hwritten
          refine ⟨standing_entry state p x a .contested, ?_, ?_⟩
          · simp [hwritten, entries_of, standing_entry]
          · refine ⟨actions, p, [], generated, t, u, rfl, hplayed, hop, .refl u, rfl, rfl, ?_,
              by simp, ?_⟩
            · rw [← hscan, ha]
              simpa using ha'
            · intro post₁ post₂ hsplit
              obtain ⟨rfl, -⟩ := List.append_eq_nil_iff.mp hsplit.symm
              exact hknown

/-- Along a run from a graph without nodes the log of `x` is in step, and its last transition
    is attributed. -/
theorem Played.inStep (h : Played s actions t) (hempty : ∀ y, s.nodes.get? y = none)
    (state : GraphState) (x : String) :
    InStep x (actions.foldl (follow state x) ({}, none)) t ∧
      Attributed state x s actions t := by
  refine h.invariant (I := fun actions t =>
    InStep x (actions.foldl (follow state x) ({}, none)) t ∧ Attributed state x s actions t)
    ?_ ?_ ?_
  · refine ⟨⟨?_, ?_, by simp⟩, ?_⟩
    · intro y n hn
      rw [hempty y] at hn
      cases hn
    · intro n hn
      rw [hempty x] at hn
      cases hn
    · intro created es hes
      simp at hes
  · intro pre p g op a b hpre ha hop
    constructor
    · rw [List.foldl_append]
      exact ha.1.operation hop state
    · exact ha.2.snoc ha.1 hpre hop
  · intro pre a b hnodes ha
    refine ⟨⟨ha.1.knows.congr hnodes, ?_, ha.1.chain⟩, ?_⟩
    · intro n hn
      rw [hnodes] at hn
      exact ha.1.present n hn
    · intro created es hes hcreated hknown
      obtain ⟨e, he, q₁, q, post, g, a₁, b₁, hactions, hpre, hop, hpost, hrest⟩ :=
        ha.2 created es hes hcreated hknown
      exact ⟨e, he, q₁, q, post, g, a₁, b₁, hactions, hpre, hop, hpost.settled hnodes, hrest⟩

/-! ### Runs of accepted Patches -/

section

variable [TextLibrary] [Canonical] {settings : ValidationSettings} {scope : List String}
  {m m' : Materialization} {patches : List Patch}

/-- A run of accepted Patches plays their operations. -/
theorem replay_played (hp : ∀ p ∈ patches, p.admission = .accepted)
    (h : patches.foldlM (replay_patch settings) m = .ok m') :
    Played m.state (history_actions patches) m'.state := by
  induction patches generalizing m with
  | nil =>
    obtain rfl := foldlM_nil_ok.mp h
    exact .refl _
  | cons p patches ih =>
    obtain ⟨a, ha, hrest⟩ := foldlM_cons_ok.mp h
    obtain ⟨-, -, u, hu, hstate⟩ := replay_accepted ha (hp p (by simp))
    obtain ⟨v, hplayed, hnodes⟩ := played_patch hu
    have hsame : a.state.nodes = v.nodes := by rw [hstate]; exact hnodes
    exact hplayed.append (.bookkeeping hsame (ih (fun q hq => hp q (by simp [hq])) hrest))

/-- Numbered Patches that are accepted one after another are numbered upwards, and none of
    the reports filed for them rejects. -/
theorem replay_numbered (hp : ∀ p ∈ patches, p.admission = .accepted)
    (hnumbered : ∀ p ∈ patches, p.revision ≠ 0)
    (h : patches.foldlM (replay_patch settings) m = .ok m') :
    (∀ p ∈ patches, m.state.revision < p.revision) ∧ Increasing Patch.revision patches ∧
      (∀ p ∈ patches, ∃ report, Dict.get m'.reports p.revision = some report ∧
        rejected report = false) ∧
      (∀ r ≤ m.state.revision, Dict.get m'.reports r = Dict.get m.reports r) ∧
      ∀ p ∈ patches, p.author = none → p.ops = [] := by
  induction patches generalizing m with
  | nil =>
    obtain rfl := foldlM_nil_ok.mp h
    simp [Increasing]
  | cons p patches ih =>
    obtain ⟨a, ha, hrest⟩ := foldlM_cons_ok.mp h
    obtain ⟨hpassed, hreports, -⟩ := replay_accepted ha (hp p (by simp))
    obtain ⟨hnext, hauthor⟩ := accepted_shape (replay_report_passed hpassed)
    have hrevision := (replay_patch_ok ha).1
    have hhere : p.revision = m.state.revision + 1 := hnext (hnumbered p (by simp))
    obtain ⟨habove, hincreasing, hfiled, hkept, hauthors⟩ := ih (fun q hq => hp q (by simp [hq]))
      (fun q hq => hnumbered q (by simp [hq])) hrest
    -- a later patch has a later revision, so it files no report over this one
    have hlater (q : Patch) (hq : q ∈ patches) : p.revision < q.revision := by
      have := habove q hq
      omega
    refine ⟨?_, List.pairwise_cons.mpr ⟨hlater, hincreasing⟩, ?_, ?_, ?_⟩
    · intro q hq
      rcases List.mem_cons.mp hq with rfl | hq
      · omega
      · have := hlater q hq
        omega
    · intro q hq
      rcases List.mem_cons.mp hq with rfl | hq
      · refine ⟨_, ?_, hpassed⟩
        rw [hkept _ (by omega), hreports]
        simp
      · exact hfiled q hq
    · intro r hr
      rw [hkept r (by omega), hreports, Dict.get_set, if_neg (by omega)]
    · intro q hq
      rcases List.mem_cons.mp hq with rfl | hq
      · exact hauthor
      · exact hauthors q hq

theorem accepted_patches_eq (hp : ∀ p ∈ patches, p.admission = .accepted)
    (hnumbered : ∀ p ∈ patches, p.revision ≠ 0)
    (h : replay_run settings scope patches = .ok m) : accepted_patches patches m = patches := by
  obtain ⟨-, hincreasing, hfiled, -⟩ := replay_numbered hp hnumbered h
  have hsorted : patches.insertionSort (fun p q => p.revision ≤ q.revision) = patches :=
    (hincreasing.imp (fun hlt => Nat.le_of_lt hlt)).insertionSort_eq
  rw [accepted_patches, hsorted, List.filter_eq_self]
  intro p hp
  obtain ⟨report, hreport, hpassed⟩ := hfiled p hp
  simpa [hreport, rejected] using hpassed

end

/-! ### What the delta reports -/

theorem chained_last {a b : Standing} {es : List RefreshDeltaEntry} {e : RefreshDeltaEntry}
    (h : chained a es = some b) (he : es.getLast? = some e) : e.current_standing = some b := by
  induction es generalizing a with
  | nil => simp at he
  | cons f es ih =>
    simp only [chained] at h
    split at h
    · cases hcurrent : f.current_standing with
      | none => simp [hcurrent] at h
      | some next =>
        simp only [hcurrent] at h
        cases es with
        | nil =>
          obtain rfl : f = e := by simpa using he
          obtain rfl : next = b := by simpa [chained] using h
          exact hcurrent
        | cons f' es => exact ih h (by simpa [List.getLast?_cons] using he)
    · cases h

/-- The last entry of a target is found from the end of the log. -/
theorem find_last_entry {transitions : List RefreshDeltaEntry} {e : RefreshDeltaEntry}
    (he : (entries_of x transitions).getLast? = some e)
    (hcontested : e.current_standing = some .contested) :
    transitions.reverse.find? (fun item =>
      item.target_id = x ∧ item.current_standing = some .contested) = some e := by
  induction transitions using List.reverseRec with
  | nil => simp [entries_of] at he
  | append_singleton transitions f ih =>
    rw [List.reverse_append, List.reverse_singleton, List.singleton_append, List.find?_cons]
    by_cases hf : f.target_id = x
    · obtain rfl : f = e := by simpa [entries_of, hf] using he
      simp [hf, hcontested]
    · have hrest : (entries_of x transitions).getLast? = some e := by
        simpa [entries_of, hf] using he
      simp only [hf, false_and, decide_false]
      exact ih hrest

theorem suffix_getLast {es fs : List RefreshDeltaEntry} {e : RefreshDeltaEntry}
    (h : es <:+ fs) (he : es.getLast? = some e) : fs.getLast? = some e := by
  obtain ⟨pre, rfl⟩ := h
  simp [List.getLast?_append, he]

/-- The entry of a contested node carries the revision and author of its last transition. -/
theorem contested_entry_of {transitions : List RefreshDeltaEntry} {e : RefreshDeltaEntry} {n : Node}
    (he : (entries_of n.id transitions).getLast? = some e)
    (hcontested : e.current_standing = some .contested) :
    (contested_entry transitions n).revision = e.revision ∧
      (contested_entry transitions n).author = e.author := by
  have hfind := find_last_entry he hcontested
  simp only [contested_entry, hfind]
  exact ⟨rfl, rfl⟩

theorem contested_mem {transitions : List RefreshDeltaEntry} {n : Node}
    (hn : n ∈ s.nodes.items) (hstanding : n.standing = .contested) :
    contested_entry transitions n ∈ current_contested_entries s transitions := by
  apply List.mem_map_of_mem
  rw [List.mem_filter]
  refine ⟨?_, by simpa using hstanding⟩
  rw [List.mem_insertionSort]
  exact hn

/-- The selection keeps a first part of the candidates, and stops before the end only at
    one of its two bounds. -/
theorem select_entries_spec (after through : Nat) (selected rest : List RefreshDeltaEntry) :
    ∃ kept omitted, rest = kept ++ omitted ∧
      select_entries after through selected rest = selected ++ kept ∧
      (selected.length ≤ REFRESH_DELTA_MAX_ENTRIES →
        (selected ++ kept).length ≤ REFRESH_DELTA_MAX_ENTRIES) ∧
      ((refresh_delta after through selected rest).encoded_size ≤ REFRESH_DELTA_MAX_BYTES →
        (refresh_delta after through (selected ++ kept) omitted).encoded_size ≤
          REFRESH_DELTA_MAX_BYTES) ∧
      ∀ e omitted', omitted = e :: omitted' →
        REFRESH_DELTA_MAX_ENTRIES ≤ (selected ++ kept).length ∨
          REFRESH_DELTA_MAX_BYTES <
            (refresh_delta after through (selected ++ kept ++ [e]) omitted').encoded_size := by
  induction rest generalizing selected with
  | nil => exact ⟨[], [], by simp [select_entries]⟩
  | cons e rest ih =>
    simp only [select_entries]
    split
    · -- no entry more is taken, by the number of them
      rename_i hfull
      refine ⟨[], e :: rest, rfl, by simp, by simp, by simp, ?_⟩
      intro f omitted' hf
      exact Or.inl (by simpa using hfull)
    · rename_i hroom
      split
      · -- or by the size of the delta with this one
        rename_i hlarge
        refine ⟨[], e :: rest, rfl, by simp, by simp, by simp, ?_⟩
        intro f omitted' hf
        obtain ⟨rfl, rfl⟩ := List.cons.inj hf
        exact Or.inr (by simpa using hlarge)
      · rename_i hfits
        obtain ⟨kept, omitted, hrest, hselect, hcount, hbytes, hstop⟩ := ih (selected ++ [e])
        refine ⟨e :: kept, omitted, by rw [hrest]; rfl, by rw [hselect]; simp, ?_, ?_, ?_⟩
        · intro _
          have hone : (selected ++ [e]).length ≤ REFRESH_DELTA_MAX_ENTRIES := by
            simp only [List.length_append, List.length_singleton]
            omega
          simpa using hcount hone
        · intro _
          simpa using hbytes (by omega)
        · intro f omitted' hf
          simpa using hstop f omitted' hf

/-- No delta shows more entries than its bound. -/
theorem delta_bounded [FieldsSet] {patches : List Patch} {m : Materialization}
    {delta : RefreshDelta} (h : build_refresh_delta patches m = .ok delta) :
    delta.entries.length ≤ REFRESH_DELTA_MAX_ENTRIES := by
  simp only [build_refresh_delta] at h
  split at h
  · obtain ⟨kept, omitted, -, hselect, hcount, -⟩ := select_entries_spec
      (ingest_baseline (accepted_patches patches m)) m.state.revision []
      (delta_candidates (accepted_patches patches m) m.state)
    rw [hselect, RefreshDelta.enforce_bounds] at h
    split at h
    · cases h
    · split at h
      · cases h
      · cases h
        exact hcount (Nat.zero_le _)
  · cases h

/-- A delta that shows fewer entries than there are nodes leaves one of them out. -/
theorem omitted_node {nodes : List Node} {es : List RefreshDeltaEntry}
    (hnodup : (nodes.map (·.id)).Nodup) (hlength : es.length < nodes.length) :
    ∃ n ∈ nodes, ∀ e ∈ es, e.target_id ≠ n.id := by
  by_contra hall
  push Not at hall
  have hsubset : nodes.map (·.id) ⊆ es.map (·.target_id) := by
    intro id hid
    obtain ⟨n, hn, rfl⟩ := List.mem_map.mp hid
    obtain ⟨e, he, htarget⟩ := hall n hn
    exact List.mem_map.mpr ⟨e, he, htarget⟩
  have hle := (List.subperm_of_subset hnodup hsubset).length_le
  simp only [List.length_map] at hle
  omega

/-! ### Every entry has an author -/

theorem move_attributed {y : String} {after : Standing} (hp : p.author.isSome = true)
    (h : ∀ e ∈ scan.entries, e.author.isSome = true) :
    ∀ e ∈ (scan.move state p y after).entries, e.author.isSome = true := by
  simp only [StandingScan.move]
  split
  · intro e he
    rcases List.mem_append.mp he with he | he
    · exact h e he
    · obtain rfl := List.mem_singleton.mp he
      exact hp
  · exact h

theorem moves_attributed (hp : p.author.isSome = true) (ids : List String)
    (h : ∀ e ∈ scan.entries, e.author.isSome = true) :
    ∀ e ∈ (ids.foldl (fun scan id => scan.move state p id .asserted) scan).entries,
      e.author.isSome = true := by
  induction ids generalizing scan with
  | nil => exact h
  | cons id ids ih => exact ih (move_attributed hp h)

theorem scan_attributed (hactions : ∀ a ∈ actions, a.1.author.isSome = true)
    (h : ∀ e ∈ scan.entries, e.author.isSome = true) :
    ∀ e ∈ (actions.foldl (scan_action state) scan).entries, e.author.isSome = true := by
  induction actions generalizing scan with
  | nil => exact h
  | cons a actions ih =>
    obtain ⟨p, op⟩ := a
    have hp : p.author.isSome = true := hactions (p, op) (by simp)
    apply ih (fun b hb => hactions b (by simp [hb]))
    simp only [scan_action]
    cases op with
    | create_nodes nodes => exact h
    | set_standing node_id standing => exact move_attributed hp h
    | _ =>
      simp only [scan_operation]
      split
      · exact h
      · exact moves_attributed hp _ h

theorem decision_entries_author [FieldsSet] {e : RefreshDeltaEntry}
    (he : e ∈ decision_entries state p op) : e.author = p.author := by
  cases op <;> simp only [decision_entries, List.not_mem_nil] at he
  case update_nodes updates =>
    split at he
    · obtain ⟨u, -, rfl⟩ := List.mem_map.mp he
      rfl
    · simp at he
  case resolve_ambiguities resolutions =>
    split at he
    · obtain ⟨r, -, rfl⟩ := List.mem_map.mp he
      rfl
    · simp at he
  all_goals
    obtain ⟨r, -, rfl⟩ := List.mem_map.mp he
    rfl

theorem recent_author [FieldsSet] {patches : List Patch} {e : RefreshDeltaEntry}
    (he : e ∈ recent_entries patches state) :
    ∃ a ∈ history_actions patches, e.author = a.1.author := by
  simp only [recent_entries, sorted_entries, List.mem_insertionSort, List.mem_flatMap,
    List.mem_append] at he
  obtain ⟨p, hp, op, hop, he⟩ := he
  refine ⟨(p, op), List.mem_flatMap.mpr ⟨p, hp, List.mem_map.mpr ⟨op, hop, rfl⟩⟩, ?_⟩
  rcases he with he | he
  · exact decision_entries_author he
  · split at he
    · simp only [chat_entries, List.mem_map] at he
      obtain ⟨target, -, rfl⟩ := he
      rfl
    · simp at he

theorem contested_attributed {transitions : List RefreshDeltaEntry}
    (h : ∀ e ∈ transitions, e.author.isSome = true) :
    ∀ e ∈ current_contested_entries state transitions, e.author.isSome = true := by
  intro e he
  obtain ⟨n, -, rfl⟩ := List.mem_map.mp he
  simp only [contested_entry]
  cases hfind : transitions.reverse.find? (fun item =>
      item.target_id = n.id ∧ item.current_standing = some .contested) with
  | none => rfl
  | some f => exact h f (by simpa using List.mem_of_find?_eq_some hfind)

theorem history_attributed [FieldsSet] {patches : List Patch}
    (h : ∀ p ∈ patches, p.author = none → p.ops = []) (state : GraphState) :
    entries_attributed patches state = true := by
  have hactions : ∀ a ∈ history_actions patches, a.1.author.isSome = true := by
    intro a ha
    obtain ⟨p, hp, ha⟩ := List.mem_flatMap.mp ha
    obtain ⟨op, hop, rfl⟩ := List.mem_map.mp ha
    rw [Option.isSome_iff_ne_none]
    intro hnone
    rw [h p hp hnone] at hop
    cases hop
  have htransitions : ∀ e ∈ standing_transition_entries patches state,
      e.author.isSome = true := by
    rw [standing_transition_entries, scan_history]
    exact scan_attributed hactions (by simp)
  have hrecent {baseline : Nat} : ∀ e ∈ recent_entries
      (patches.filter (fun p => baseline < p.revision)) state, e.author.isSome = true := by
    intro e he
    obtain ⟨a, ha, hauthor⟩ := recent_author he
    rw [hauthor]
    apply hactions a
    obtain ⟨p, hp, ha⟩ := List.mem_flatMap.mp ha
    exact List.mem_flatMap.mpr ⟨p, (List.mem_filter.mp hp).1, ha⟩
  rw [entries_attributed, List.all_eq_true]
  intro e he
  rcases List.mem_append.mp he with he | he
  · rcases List.mem_append.mp he with he | he
    · exact htransitions e he
    · rcases List.mem_append.mp he with he | he
      · exact contested_attributed htransitions e he
      · have he := (List.mem_filter.mp he).1
        rw [sorted_entries, List.mem_insertionSort] at he
        rcases List.mem_append.mp he with he | he
        · exact htransitions e (List.mem_filter.mp he).1
        · exact hrecent e he
  · exact hrecent e he

theorem baseline_le {patches : List Patch} {r : Nat} (h : ∀ p ∈ patches, p.revision ≤ r) :
    ingest_baseline patches ≤ r := by
  have hfold (xs : List Nat) (b : Nat) (hb : b ≤ r) (hxs : ∀ x ∈ xs, x ≤ r) :
      xs.foldl max b ≤ r := by
    induction xs generalizing b with
    | nil => exact hb
    | cons x xs ih =>
      exact ih (max b x) (by have := hxs x (by simp); omega) (fun y hy => hxs y (by simp [hy]))
  apply hfold _ _ (Nat.zero_le r)
  intro x hx
  obtain ⟨p, hp, rfl⟩ := List.mem_map.mp hx
  exact h p (List.mem_filter.mp hp).1

/-! ### The standing log and the delta -/

section

variable [TextLibrary] [Canonical] {settings : ValidationSettings} {scope : List String}
  {m : Materialization} {patches : List Patch}

omit [TextLibrary] [Canonical] in
theorem initial_state_empty (scope : List String) (y : String) :
    (initial_state scope).nodes.get? y = none := rfl

/-- The log since the last creation of a node leads to its standing, and names the Patch that
    last contested it. -/
theorem since_creation_chain {n : Node} (hp : ∀ p ∈ patches, p.admission = .accepted)
    (h : replay_run settings scope patches = .ok m) (hn : m.state.nodes.get? x = some n) :
    ∃ created es, since_creation patches m.state x = some (created, es) ∧
      es <:+ entries_of x (standing_transition_entries patches m.state) ∧
      chained created es = some n.standing ∧
      (n.standing = .contested → created ≠ .contested → ∃ e q, es.getLast? = some e ∧
        e.revision = q.revision ∧ e.author = q.author ∧
        LastContested x (initial_state scope) (history_actions patches) m.state q) := by
  have hplayed := replay_played hp h
  obtain ⟨hfollows, hattributed⟩ := hplayed.inStep (initial_state_empty scope) m.state x
  have hscan := follow_scan m.state x (history_actions patches) ({}, none)
  obtain ⟨⟨created, es⟩, hsince⟩ := Option.isSome_iff_exists.mp (hfollows.present n hn)
  obtain ⟨hsuffix, b, hb, hchain⟩ := hfollows.chain created es hsince
  have hstanding : b = n.standing := by
    have hknown := hfollows.knows x n hn
    rw [hb] at hknown
    simpa using hknown
  refine ⟨created, es, hsince, ?_, hstanding ▸ hchain, ?_⟩
  · rw [standing_transition_entries, scan_history, ← hscan]
    exact hsuffix
  · intro hcontested hcreated
    have hlog : Dict.get ((history_actions patches).foldl (scan_action m.state) {}).standings x =
        some .contested := by
      rw [← hscan, hb, hstanding, hcontested]
    obtain ⟨e, he, hquiet⟩ := hattributed created es hsince hcreated hlog
    obtain ⟨q, hrevision, hauthor, hlast⟩ :=
      hquiet.lastContested (initial_state_empty scope) hn
    exact ⟨e, q, he, hrevision, hauthor, hlast⟩

/-- For every list of numbered Patches that replay accepts one after another: the transitions
    of a node since its last creation lead, unbroken, from the standing it was created with to
    its standing in the graph, and a contested node that was not created contested has an entry
    with the revision and author of the Patch that last contested it.  The delta shows the
    entries of contested nodes first, and omits one only when it is full. -/
theorem standing_log_agrees [FieldsSet] (hp : ∀ p ∈ patches, p.admission = .accepted)
    (hnumbered : ∀ p ∈ patches, p.revision ≠ 0)
    (h : replay_run settings scope patches = .ok m) :
    let accepted := accepted_patches patches m
    let candidates := delta_candidates accepted m.state
    (∀ x n, m.state.nodes.get? x = some n → ∃ created es,
      since_creation accepted m.state x = some (created, es) ∧
      es <:+ entries_of x (standing_transition_entries accepted m.state) ∧
      chained created es = some n.standing ∧
      (n.standing = .contested → created ≠ .contested →
        ∃ q r, LastContested x (initial_state scope) (history_actions patches) m.state q ∧
          r ∈ current_contested_entries m.state (standing_transition_entries accepted m.state) ∧
          r.category = .current_contested ∧ r.target_id = x ∧ r.revision = q.revision ∧
          r.author = q.author)) ∧
    current_contested_entries m.state (standing_transition_entries accepted m.state) <+:
      candidates ∧
    ((refresh_delta (ingest_baseline accepted) m.state.revision [] candidates).encoded_size ≤
        REFRESH_DELTA_MAX_BYTES →
      ∃ delta omitted, build_refresh_delta patches m = .ok delta ∧
        candidates = delta.entries ++ omitted ∧ omitted.length = delta.omitted_count ∧
        ∀ e omitted', omitted = e :: omitted' →
          REFRESH_DELTA_MAX_ENTRIES ≤ delta.entries.length ∨
            REFRESH_DELTA_MAX_BYTES < (refresh_delta delta.after_revision delta.through_revision
              (delta.entries ++ [e]) omitted').encoded_size) := by
  simp only
  have haccepted := accepted_patches_eq hp hnumbered h
  obtain ⟨-, -, -, -, hauthors⟩ := replay_numbered hp hnumbered h
  rw [haccepted]
  refine ⟨?_, List.prefix_append _ _, ?_⟩
  · intro x n hn
    obtain ⟨created, es, hsince, hsuffix, hchain, hlast⟩ := since_creation_chain hp h hn
    refine ⟨created, es, hsince, hsuffix, hchain, ?_⟩
    intro hcontested hcreated
    obtain ⟨e, q, he, hrevision, hauthor, hq⟩ := hlast hcontested hcreated
    have hid : n.id = x := Table.key_of_get? hn
    -- the last entry of a contested node is the one the delta puts in front
    have hcurrent : e.current_standing = some .contested := by
      rw [chained_last hchain he, hcontested]
    have hentry := contested_entry_of (n := n) (hid ▸ suffix_getLast hsuffix he) hcurrent
    refine ⟨q, contested_entry (standing_transition_entries patches m.state) n, hq, ?_, rfl, hid,
      hentry.1.trans hrevision, hentry.2.trans hauthor⟩
    exact contested_mem (Table.get?_eq_some_iff.mp hn).1 hcontested
  · intro hfits
    -- the delta is cut where one more entry would be one too many, or too large
    obtain ⟨kept, omitted, hsplit, hselect, -, hbytes, hstop⟩ := select_entries_spec
      (ingest_baseline patches) m.state.revision [] (delta_candidates patches m.state)
    have hdrop : (delta_candidates patches m.state).drop kept.length = omitted := by
      rw [hsplit, List.drop_left]
    have hbaseline := baseline_le (run_revision_ge h).2
    rw [List.nil_append] at hselect hbytes hstop
    refine ⟨refresh_delta (ingest_baseline patches) m.state.revision kept omitted, omitted, ?_,
      hsplit, rfl, hstop⟩
    simp only [build_refresh_delta, haccepted, history_attributed hauthors, if_true, hselect, hdrop,
      RefreshDelta.enforce_bounds]
    rw [if_neg (by simpa [refresh_delta] using hbaseline), if_neg (Nat.not_lt.mpr (hbytes hfits))]

end

namespace Reference

/-- No payload names the fields its author supplied. -/
scoped instance noFields : FieldsSet where
  edge _ := []
  ambiguity _ := []
  proposal _ := []
  term _ := []
  resolution_reason _ := false
  withdrawal_reason _ := false

/-- The id of a sample question. -/
def numbered_id (i : Nat) : String := "rq/" ++ toString i

/-- Questions seeded by an agent and contested by a human, one Patch each. -/
def contested_history (count : Nat) : List Patch :=
  { agent_patch 1 [.create_nodes ((List.range count).map (fun i => question (numbered_id i)))] with
    kind := .seed } ::
  (List.range count).map (fun i => human_patch (i + 2) [.set_standing (numbered_id i) .contested])

/-- A question that a Patch without a number contests. -/
def unnumbered_history : List Patch :=
  [agent_patch 1 [.create_nodes [question "rq/0"]],
    human_patch 0 [.set_standing "rq/0" .contested]]

/-- What replay of a history reaches. -/
def replayed (patches : List Patch) : Materialization :=
  (materialize_patches {} ["main"] patches).toMaterialization

theorem replay_run_replayed {patches : List Patch}
    (h : (replay_run {} ["main"] patches).isOk = true) :
    replay_run {} ["main"] patches = .ok (replayed patches) := by
  unfold replayed materialize_patches
  unfold replay_run at h ⊢
  cases hrun : patches.foldlM (replay_patch {}) { state := initial_state ["main"] } with
  | error m => simp [hrun, Except.isOk, Except.toBool] at h
  | ok m => rfl

end Reference

open Reference in
/-- The log of a history with an unnumbered Patch is scanned out of order, and of 51 contested
    questions the delta shows 50. -/
theorem log_reordered_or_cut :
    (replay_run {} ["main"] unnumbered_history = .ok (replayed unnumbered_history) ∧
      ∃ n, (replayed unnumbered_history).state.nodes.get? "rq/0" = some n ∧
        n.standing = .contested ∧
        since_creation (accepted_patches unnumbered_history (replayed unnumbered_history))
          (replayed unnumbered_history).state "rq/0" = some (.asserted, [])) ∧
    replay_run {} ["main"] (contested_history 51) = .ok (replayed (contested_history 51)) ∧
      ∃ n ∈ (replayed (contested_history 51)).state.nodes.items, n.standing = .contested ∧
        ∀ delta, build_refresh_delta (contested_history 51) (replayed (contested_history 51)) =
          .ok delta → ∀ e ∈ delta.entries, e.target_id ≠ n.id := by
  have hshort : (replay_run {} ["main"] unnumbered_history).toOption.map (fun m =>
      (m.state.nodes.get? "rq/0").map (·.standing)) = some (some .contested) := by decide +kernel
  have hlong : (replay_run {} ["main"] (contested_history 51)).toOption.map (fun m =>
      (m.state.nodes.items.length, m.state.nodes.items.all (fun n => n.standing = .contested))) =
        some (51, true) := by decide +kernel
  -- what was computed of the replay, read back from it
  have hok {patches : List Patch} {β : Type} {f : Materialization → β} {b : β}
      (h : (replay_run {} ["main"] patches).toOption.map f = some b) :
      replay_run {} ["main"] patches = .ok (replayed patches) ∧ f (replayed patches) = b := by
    have hisOk : (replay_run {} ["main"] patches).isOk = true := by
      cases hrun : replay_run {} ["main"] patches with
      | error m => simp [hrun, Except.toOption] at h
      | ok m => rfl
    have hrun := replay_run_replayed hisOk
    rw [hrun] at h
    exact ⟨hrun, by simpa [Except.toOption] using h⟩
  refine ⟨⟨(hok hshort).1, ?_⟩, (hok hlong).1, ?_⟩
  · obtain ⟨n, hn, hstanding⟩ := Option.map_eq_some_iff.mp (hok hshort).2
    exact ⟨n, hn, hstanding, by decide +kernel⟩
  · obtain ⟨hlength, hall⟩ := Prod.mk.inj (hok hlong).2
    cases hbuild : build_refresh_delta (contested_history 51) (replayed (contested_history 51)) with
    | error e =>
      obtain ⟨n, hn⟩ : ∃ n, n ∈ (replayed (contested_history 51)).state.nodes.items :=
        List.exists_mem_of_ne_nil _ (by intro hnil; simp [hnil] at hlength)
      refine ⟨n, hn, by simpa using List.all_eq_true.mp hall n hn, ?_⟩
      intro delta hdelta
      cases hdelta
    | ok delta =>
      -- fifty entries cannot name fifty-one nodes
      have hbound := delta_bounded hbuild
      have hshort : delta.entries.length
          < (replayed (contested_history 51)).state.nodes.items.length := by
        rw [hlength]
        exact Nat.lt_of_le_of_lt hbound (by decide)
      obtain ⟨n, hn, homitted⟩ := omitted_node
        (replayed (contested_history 51)).state.nodes.nodup hshort
      refine ⟨n, hn, by simpa using List.all_eq_true.mp hall n hn, ?_⟩
      intro delta' hdelta
      cases hdelta
      exact homitted

open Reference in
/-- One contested question: the delta names the human who contested it. -/
theorem contested_question_reported :
    ∃ q, q.revision = 2 ∧ q.author = some .human ∧
      LastContested "rq/0" (initial_state ["main"]) (history_actions (contested_history 1))
        (replayed (contested_history 1)).state q := by
  have hrun : replay_run {} ["main"] (contested_history 1) = .ok (replayed (contested_history 1)) :=
    replay_run_replayed (by decide +kernel)
  have hagrees := (standing_log_agrees (by decide) (by decide) hrun).1
  obtain ⟨n, hn, hstanding⟩ : ∃ n, (replayed (contested_history 1)).state.nodes.get? "rq/0" =
      some n ∧ n.standing = .contested := by
    refine Option.map_eq_some_iff.mp ?_
    decide +kernel
  obtain ⟨created, es, hsince, -, -, hlast⟩ := hagrees "rq/0" n hn
  have hcreated : created ≠ .contested := by
    have heval : (since_creation (accepted_patches (contested_history 1)
        (replayed (contested_history 1))) (replayed (contested_history 1)).state "rq/0").map
          Prod.fst = some .asserted := by decide +kernel
    rw [hsince] at heval
    intro hcontested
    simp [hcontested] at heval
  obtain ⟨q, r, hq, hr, -, hid, hrevision, hauthor⟩ := hlast hstanding hcreated
  have hentry : ∀ r ∈ current_contested_entries (replayed (contested_history 1)).state
      (standing_transition_entries (accepted_patches (contested_history 1)
        (replayed (contested_history 1))) (replayed (contested_history 1)).state),
      r.revision = 2 ∧ r.author = some .human := by decide +kernel
  exact ⟨q, hrevision ▸ (hentry r hr).1, hauthor ▸ (hentry r hr).2, hq⟩

end ResearchGraph
