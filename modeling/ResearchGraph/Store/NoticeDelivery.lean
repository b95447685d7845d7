import ResearchGraph.Store.LifecycleNotices
import ResearchGraph.Lib.Runs

/-! # Lifecycle notices are consumed once

    Two paths take a notice out of the queue: a wake binds it, or a read of the
    inbox acknowledges it. A notice that was taken is never written again, so in
    every run it has exactly one taker. A read that is repeated under its key
    returns what it returned, and reading on takes the queue off in order.
-/

namespace ResearchGraph

open Lib

/-! ### Rows as they are stored -/

namespace LifecycleNotice

theorem dict_stored (n : LifecycleNotice) :
    Value.dict n.stored.payload = (Value.dict n.payload).sort_keys := by
  simp only [stored, Value.sort_keys]

theorem stored_stored (n : LifecycleNotice) : n.stored.stored = n.stored := by
  have hpayload : n.stored.stored.payload = n.stored.payload := by
    have hdict : Value.dict n.stored.stored.payload = Value.dict n.stored.payload := by
      rw [dict_stored, dict_stored, sort_keys_again]
    injection hdict
  calc n.stored.stored = { n.stored with payload := n.stored.stored.payload } := rfl
    _ = n.stored := by rw [hpayload]

@[simp] theorem is_pending_stored (n : LifecycleNotice) : n.stored.is_pending = n.is_pending := rfl

/-- What is shown of a stored notice is what was shown of it, up to the order of keys. -/
theorem projection_stored (n : LifecycleNotice) :
    n.stored.projection.sort_keys = n.projection.sort_keys := by
  have hpayload : (Value.dict n.stored.payload).sort_keys = (Value.dict n.payload).sort_keys := by
    rw [dict_stored, sort_keys_again]
  simp only [projection, Value.sort_keys, Value.sort_keys_entries] at hpayload ⊢
  rw [hpayload]
  rfl

end LifecycleNotice

/-- Whether a response fits depends on what it shows of the notices, up to the order of keys. -/
theorem fits_congr {float_repr : Rat → String} {ns ns' : List LifecycleNotice}
    (h : ns.map (fun n => n.projection.sort_keys) = ns'.map (fun n => n.projection.sort_keys)) :
    auto_research_inbox_effect_fits float_repr .harvest ns
      = auto_research_inbox_effect_fits float_repr .harvest ns' := by
  have hlength : ns.length = ns'.length := by simpa using congrArg List.length h
  have hlist : (Value.list (ns.map LifecycleNotice.projection)).sort_keys
      = (Value.list (ns'.map LifecycleNotice.projection)).sort_keys := by
    rw [Value.sort_keys, Value.sort_keys_list_eq, Value.sort_keys, Value.sort_keys_list_eq,
      List.map_map, List.map_map]
    exact congrArg Value.list h
  have hresult : (auto_research_inbox_projection .harvest ns).1.sort_keys
      = (auto_research_inbox_projection .harvest ns').1.sort_keys := by
    simp only [auto_research_inbox_projection, Value.sort_keys, Value.sort_keys_entries, hlength]
      at hlist ⊢
    rw [hlist]
  have hmessage : (auto_research_inbox_projection .harvest ns).2
      = (auto_research_inbox_projection .harvest ns').2 := by
    simp only [auto_research_inbox_projection, hlength]
  have hexit (result result' : Value) (message : String)
      (h : result.sort_keys = result'.sort_keys) :
      (exit_document result message).sort_keys = (exit_document result' message).sort_keys := by
    simp only [exit_document, Value.sort_keys, Value.sort_keys_entries, h]
  have hresponse (result result' : Value) (message : String)
      (h : result.sort_keys = result'.sort_keys) :
      (response_document result message).sort_keys
        = (response_document result' message).sort_keys := by
    simp only [response_document, Value.sort_keys, Value.sort_keys_entries, h]
  unfold auto_research_inbox_effect_fits
  simp only [String.utf8ByteSize_append]
  rw [hmessage, hexit _ _ _ hresult, size_of_sort_keys (hresponse _ _ _ hresult) 0]

/-- Acknowledging a notice shows nothing more of it. -/
theorem fits_acknowledged (float_repr : Rat → String) (a : Acknowledgment)
    (ns : List LifecycleNotice) :
    auto_research_inbox_effect_fits float_repr .harvest (ns.map (LifecycleNotice.acknowledged a))
      = auto_research_inbox_effect_fits float_repr .harvest ns := by
  refine fits_congr ?_
  rw [List.map_map]
  rfl

theorem fits_stored {float_repr : Rat → String} (n : LifecycleNotice) :
    auto_research_inbox_effect_fits float_repr .harvest [n.stored]
      = auto_research_inbox_effect_fits float_repr .harvest [n] := by
  refine fits_congr ?_
  rw [List.map_singleton, List.map_singleton, n.projection_stored]

/-- The row fits in a response of its own, and is what is read back of it. -/
def LifecycleNotice.Fit (float_repr : Rat → String) (n : LifecycleNotice) : Prop :=
  auto_research_inbox_effect_fits float_repr .harvest [n] = true
    ∧ (Value.dict n.payload).sort_keys = .dict n.payload

theorem LifecycleNotice.stored_of_sorted {n : LifecycleNotice}
    (h : (Value.dict n.payload).sort_keys = .dict n.payload) : n.stored = n := by
  simp only [stored, h]

/-- It is about what is shown of the row only. -/
theorem LifecycleNotice.Fit.congr {float_repr : Rat → String} {n m : LifecycleNotice}
    (h : m.Fit float_repr) (hp : n.projection = m.projection) : n.Fit float_repr := by
  have hpayload : n.payload = m.payload := by
    simp only [projection] at hp
    injection hp with hp
    injection hp with _ hp
    injection hp with _ hp
    injection hp with _ hp
    injection hp with _ hp
    injection hp with _ hp
    injection hp with hp _
    injection hp with _ hp
    injection hp
  refine ⟨?_, by rw [hpayload]; exact h.2⟩
  rw [← h.1]
  refine fits_congr ?_
  rw [List.map_singleton, List.map_singleton, hp]

/-- A notice that is inserted fits in a response of its own. -/
theorem bounded_notice {float_repr : Rat → String} {record n : LifecycleNotice}
    (h : bounded_auto_research_lifecycle_notice float_repr record = some n) :
    auto_research_inbox_effect_fits float_repr .harvest [n] = true
      ∧ n.notice_id = record.notice_id ∧ n.is_pending = record.is_pending := by
  unfold bounded_auto_research_lifecycle_notice at h
  split at h
  · rename_i hfits
    cases h
    exact ⟨hfits, rfl, rfl⟩
  · split at h
    · simp only [Option.ite_none_right_eq_some] at h
      obtain ⟨hfits, h⟩ := h
      cases h
      exact ⟨hfits, rfl, rfl⟩
    · cases h

namespace InboxStore

variable {float_repr : Rat → String} {s s' : InboxStore}

/-- The inbox receipts that list a notice. -/
def acknowledging (s : InboxStore) (notice_id : String) : List InboxReceipt :=
  s.receipts.items.filter (fun r => r.notice_ids.contains notice_id)

/-- Who took a notice: a wake operation or an inbox effect. -/
inductive Taker
  | wake (operation_id : String)
  | inbox (effect_id : String)
  deriving DecidableEq

/-- Everyone who took a notice. -/
def takers (s : InboxStore) (n : LifecycleNotice) : List Taker :=
  (n.delivery.map (fun d => Taker.wake d.delivery_operation_id)).toList
    ++ (s.acknowledging n.notice_id).map (fun r => .inbox r.effect_id)

/-! ### What an operation does -/

/-- The effect of an operation on the notices and the receipts. -/
inductive InboxStep (float_repr : Rat → String) (s s' : InboxStore) : Prop
  | same (hn : s'.notices = s.notices) (hr : s'.receipts = s.receipts)
  | added (n : LifecycleNotice) (hfresh : s.notices.get? n.notice_id = none)
      (hpending : n.is_pending = true) (hfit : n.Fit float_repr)
      (hn : s'.notices = s.notices.put n) (hr : s'.receipts = s.receipts)
  | bound (notice_ids : List String) (delivery : Delivery)
      (hn : s'.notices = (s.bind_notices notice_ids delivery).notices)
      (hr : s'.receipts = s.receipts)
  | read (receipt : InboxReceipt) (a : Acknowledgment)
      (hfresh : s.receipts.get? receipt.effect_id = none)
      (hnodup : receipt.notice_ids.Nodup)
      (hpending : ∀ id ∈ receipt.notice_ids, ∃ n, s.notices.get? id = some n ∧ n.is_pending = true)
      (hstored : stored_receipt receipt = receipt)
      (hn : s'.notices = (s.acknowledge_lifecycle_rows receipt.notice_ids a).notices)
      (hr : s'.receipts = s.receipts.put receipt)

/-! ### The queue -/

theorem mem_pending_notices {id : String} {n : LifecycleNotice} :
    n ∈ s.pending_notices id ↔ n ∈ s.notices.items ∧ n.episode_id = id ∧ n.is_pending = true := by
  rw [pending_notices, List.mem_insertionSort, List.mem_filter]
  simp

/-- A notice waits once. -/
theorem pending_ids_nodup (s : InboxStore) (id : String) :
    ((s.pending_notices id).map LifecycleNotice.notice_id).Nodup := by
  have hperm := (List.perm_insertionSort LifecycleNotice.older
    (s.notices.items.filter (fun n => n.episode_id = id && n.is_pending))).map
      LifecycleNotice.notice_id
  refine hperm.nodup_iff.mpr ?_
  exact (s.notices.nodup.sublist ((List.filter_sublist).map LifecycleNotice.notice_id))

theorem get?_of_pending {id : String} {n : LifecycleNotice} (h : n ∈ s.pending_notices id) :
    s.notices.get? n.notice_id = some n :=
  Table.mem_items_iff.mp (mem_pending_notices.mp h).1

/-! ### Each operation -/

theorem insert_step {record n : LifecycleNotice}
    (h : s.insert_auto_research_lifecycle_notice float_repr record = some (n, s')) :
    InboxStep float_repr s s' := by
  simp only [insert_auto_research_lifecycle_notice, Option.ite_none_left_eq_some, ne_eq,
    Decidable.not_not, Option.bind_eq_some_iff] at h
  obtain ⟨hstate, _, -, h⟩ := h
  have hpending : record.is_pending = true := by
    revert hstate
    unfold LifecycleNotice.state LifecycleNotice.is_pending
    cases record.acknowledgment <;> cases record.delivery <;> simp
  split at h
  · split at h
    · cases h
      exact .same rfl rfl
    · split at h
      · cases h
        exact .same rfl rfl
      · cases h
  · simp only [Option.bind_eq_some_iff, Option.ite_none_left_eq_some, Bool.not_eq_true,
      Table.contains_eq_false_iff] at h
    obtain ⟨bounded, hbounded, hfresh, h⟩ := h
    cases h
    obtain ⟨hfits, -, hkept⟩ := bounded_notice hbounded
    refine .added n.stored hfresh ?_ ⟨?_, ?_⟩ rfl rfl
    · rw [LifecycleNotice.is_pending_stored, hkept]
      exact hpending
    · rw [fits_stored]
      exact hfits
    · rw [n.dict_stored, sort_keys_again]

theorem wake_step {t : AgentTaskRecord} {lifecycle_notice_ids message_ids : List String}
    {bound : Bool}
    (h : s.create_auto_research_lifecycle_wake_task t lifecycle_notice_ids message_ids bound
      = some s') : InboxStep float_repr s s' := by
  simp only [create_auto_research_lifecycle_wake_task, Option.bind_eq_some_iff,
    Option.ite_none_left_eq_some] at h
  obtain ⟨_, -, -, -, _, -, _, -, -, -, h⟩ := h
  split at h
  · cases h
    exact .same rfl rfl
  · split at h
    · cases h
      exact .same rfl rfl
    · simp only [Option.bind_eq_some_iff] at h
      obtain ⟨_, -, h⟩ := h
      split at h
      · cases h
        exact .same rfl rfl
      · simp only [Option.bind_eq_some_iff, Option.some.injEq] at h
        obtain ⟨_, -, h⟩ := h
        cases h
        exact .bound _ _ rfl rfl

theorem claim_step {episode_id operation_id : String} {limit now : Int} :
    InboxStep float_repr s
      (s.claim_auto_research_lifecycle_notices episode_id operation_id limit now) := by
  unfold claim_auto_research_lifecycle_notices
  dsimp only
  split
  · exact .same rfl rfl
  · exact .bound _ _ rfl rfl

/-- What a read selects is the front of the queue, acknowledged. -/
theorem snapshot_front {pending notices : List LifecycleNotice} {mode : InboxMode}
    {a : Acknowledgment} {clear_fits : Option Bool}
    (h : bounded_auto_research_inbox_snapshot float_repr pending mode a clear_fits = .ok notices) :
    ∃ front, front <+: pending ∧ notices = front.map (LifecycleNotice.acknowledged a) := by
  unfold bounded_auto_research_inbox_snapshot at h
  cases mode with
  | clear =>
    simp only at h
    split at h
    · cases h
      exact ⟨pending, List.prefix_rfl, rfl⟩
    · cases h
  | harvest =>
    simp only at h
    have hgrow := grow_map (auto_research_inbox_effect_fits float_repr .harvest)
      (LifecycleNotice.acknowledged a) [] pending
    rw [List.map_nil] at hgrow
    split at h
    · split at h <;> cases h
    · split at h
      · cases h
      · cases h
        refine ⟨_, ?_, hgrow⟩
        have hfront := grow_isPrefix (fun ys =>
          auto_research_inbox_effect_fits float_repr .harvest
            (ys.map (LifecycleNotice.acknowledged a))) [] pending
        rwa [List.nil_append] at hfront

theorem inbox_rows_front (s : InboxStore) (id : String) (mode : InboxMode) (limit : Int) :
    s.inbox_rows id mode limit <+: s.pending_notices id := by
  cases mode with
  | harvest => exact List.take_prefix _ _
  | clear => exact List.prefix_rfl

/-- A read that is not repeated: its receipt lists the front of the queue. -/
theorem process_eq {episode_id effect_id acknowledged_by : String} {mode : InboxMode}
    {limit now : Int} {receipt : InboxReceipt}
    (h : s.process_auto_research_lifecycle_inbox float_repr episode_id effect_id mode
      acknowledged_by limit now = .ok (receipt, s')) :
    (s.receipts.get? effect_id = some receipt ∧ s' = s ∧ receipt.episode_id = episode_id
      ∧ receipt.mode = mode ∧ receipt.acknowledged_by = acknowledged_by)
    ∨ ∃ front, s.receipts.get? effect_id = none ∧ front <+: s.inbox_rows episode_id mode limit
      ∧ receipt = InboxReceipt.mk effect_id episode_id mode
          (front.map LifecycleNotice.notice_id)
          (if mode = .harvest then front.map (LifecycleNotice.acknowledged ⟨now, acknowledged_by⟩)
            else []) acknowledged_by now
      ∧ s' = { s.acknowledge_lifecycle_rows (front.map LifecycleNotice.notice_id)
            ⟨now, acknowledged_by⟩ with
          receipts := s.receipts.put (stored_receipt receipt) } := by
  unfold process_auto_research_lifecycle_inbox at h
  split at h
  · cases h
  split at h
  · cases h
  split at h
  · rename_i stored hstored
    split at h
    · cases h
    · rename_i hsame
      cases h
      simp only [ne_eq, Bool.or_eq_true, decide_eq_true_eq, not_or, Decidable.not_not] at hsame
      exact .inl ⟨hstored, rfl, hsame.1.1, hsame.1.2, hsame.2⟩
  · rename_i hfresh
    split at h
    · cases h
    · simp only [bind, Except.bind] at h
      split at h
      · cases h
      · rename_i notices hnotices
        obtain ⟨front, hfront, rfl⟩ := snapshot_front hnotices
        cases h
        have hids : (front.map (LifecycleNotice.acknowledged ⟨now, acknowledged_by⟩)).map
            LifecycleNotice.notice_id = front.map LifecycleNotice.notice_id := by
          rw [List.map_map]
          rfl
        rw [hids]
        exact .inr ⟨front, hfresh, hfront, rfl, rfl⟩

/-- The receipt of a read, as it is stored. -/
theorem stored_receipt_again (receipt : InboxReceipt) :
    stored_receipt (stored_receipt receipt) = stored_receipt receipt := by
  unfold stored_receipt
  rw [List.map_map]
  congr 1
  refine List.map_congr_left ?_
  intro n _
  exact n.stored_stored

theorem process_step {episode_id effect_id acknowledged_by : String} {mode : InboxMode}
    {limit now : Int} {receipt : InboxReceipt}
    (h : s.process_auto_research_lifecycle_inbox float_repr episode_id effect_id mode
      acknowledged_by limit now = .ok (receipt, s')) : InboxStep float_repr s s' := by
  rcases process_eq h with ⟨-, rfl, -⟩ | ⟨front, hfresh, hfront, hreceipt, rfl⟩
  · exact .same rfl rfl
  · have hqueue := hfront.trans (inbox_rows_front s episode_id mode limit)
    have hids : (stored_receipt receipt).notice_ids = front.map LifecycleNotice.notice_id := by
      rw [hreceipt]
      rfl
    have heffect : (stored_receipt receipt).effect_id = effect_id := by
      rw [hreceipt]
      rfl
    refine .read (stored_receipt receipt) ⟨now, acknowledged_by⟩ ?_ ?_ ?_
      (stored_receipt_again receipt) ?_ rfl
    · rw [heffect]
      exact hfresh
    · rw [hids]
      exact (s.pending_ids_nodup episode_id).sublist (hqueue.sublist.map _)
    · intro id hid
      rw [hids] at hid
      obtain ⟨n, hn, rfl⟩ := List.mem_map.mp hid
      have hwaits := hqueue.sublist.subset hn
      exact ⟨n, get?_of_pending hwaits, (mem_pending_notices.mp hwaits).2.2⟩
    · rw [hids]

theorem exec_inbox_step {op : InboxOp} (h : s.exec float_repr op = some s') :
    InboxStep float_repr s s' := by
  cases op with
  | record_auto_research_lifecycle_notice record =>
    obtain ⟨⟨n, s₁⟩, hinsert, hs⟩ := Option.map_eq_some_iff.mp h
    cases hs
    exact insert_step hinsert
  | create_auto_research_lifecycle_wake_task t lifecycle_notice_ids message_ids bound =>
    exact wake_step h
  | claim_auto_research_lifecycle_notices episode_id operation_id limit now =>
    cases h
    exact claim_step
  | process_auto_research_lifecycle_inbox episode_id effect_id mode acknowledged_by limit now =>
    cases hprocess : s.process_auto_research_lifecycle_inbox float_repr episode_id effect_id mode
      acknowledged_by limit now with
    | error e =>
      rw [exec, hprocess] at h
      cases h
    | ok returned =>
      rw [exec, hprocess] at h
      cases h
      exact process_step hprocess
  | episodes op =>
    obtain ⟨store, -, hs⟩ := Option.map_eq_some_iff.mp h
    cases hs
    exact .same rfl rfl
  | mail messages =>
    cases h
    exact .same rfl rfl

/-! ### One taker -/

/-- The invariant of the notices and the receipts. -/
structure Consumed (float_repr : Rat → String) (s : InboxStore) : Prop where
  unread : ∀ n ∈ s.notices.items, n.acknowledgment = none → s.acknowledging n.notice_id = []
  read : ∀ n ∈ s.notices.items, n.acknowledgment.isSome = true →
    n.delivery = none ∧ ∃ receipt, s.acknowledging n.notice_id = [receipt]
  known : ∀ receipt ∈ s.receipts.items, ∀ id ∈ receipt.notice_ids, (s.notices.get? id).isSome = true
  fit : ∀ n ∈ s.notices.items, n.Fit float_repr
  receipts : ∀ receipt ∈ s.receipts.items, stored_receipt receipt = receipt

/-- The receipts of a notice are those of the table. -/
theorem acknowledging_congr (h : s'.receipts = s.receipts) (id : String) :
    s'.acknowledging id = s.acknowledging id := by
  rw [acknowledging, h, acknowledging]

/-- A new receipt comes last among those of a notice it lists. -/
theorem acknowledging_put {receipt : InboxReceipt}
    (hfresh : s.receipts.get? receipt.effect_id = none)
    (hr : s'.receipts = s.receipts.put receipt) (id : String) :
    s'.acknowledging id
      = s.acknowledging id ++ (if receipt.notice_ids.contains id then [receipt] else []) := by
  have hitems : s'.receipts.items = s.receipts.items ++ [receipt] := by
    rw [hr]
    exact Table.items_put_of_fresh _ hfresh
  rw [acknowledging, hitems, List.filter_append, acknowledging]
  congr 1
  simp [List.filter_cons]

/-- A notice some receipt lists was read. -/
theorem Consumed.unlisted (h : Consumed float_repr s) {id : String}
    (hnone : s.notices.get? id = none) : s.acknowledging id = [] := by
  rw [acknowledging, List.filter_eq_nil_iff]
  intro receipt hreceipt hid
  have hknown := h.known receipt hreceipt id (by simpa using hid)
  rw [hnone] at hknown
  cases hknown

/-- Binding and acknowledging keep the known notices known. -/
theorem known_bind (s : InboxStore) (notice_ids : List String) (delivery : Delivery)
    (id : String) : ((s.bind_notices notice_ids delivery).notices.get? id).isSome
      = (s.notices.get? id).isSome := by
  simp only [bind_notices, Table.get?_update, Option.isSome_map]

theorem known_acknowledge (s : InboxStore) (notice_ids : List String) (a : Acknowledgment)
    (id : String) : ((s.acknowledge_lifecycle_rows notice_ids a).notices.get? id).isSome
      = (s.notices.get? id).isSome := by
  simp only [acknowledge_lifecycle_rows, Table.get?_update, Option.isSome_map]

/-- A row of the notices after some were bound. -/
theorem mem_bind_notices {notice_ids : List String} {delivery : Delivery} {n : LifecycleNotice}
    (h : n ∈ (s.bind_notices notice_ids delivery).notices.items) :
    ∃ m ∈ s.notices.items, n.notice_id = m.notice_id ∧ n.acknowledgment = m.acknowledgment
      ∧ n.projection = m.projection ∧ (m.acknowledgment.isSome = true → n = m) := by
  obtain ⟨m, hm, rfl⟩ := List.mem_map.mp h
  refine ⟨m, hm, ?_⟩
  split
  · rename_i hpending
    refine ⟨rfl, rfl, rfl, ?_⟩
    intro hread
    simp only [LifecycleNotice.is_pending, Bool.and_eq_true, Option.isNone_iff_eq_none] at hpending
    rw [hpending.2.2] at hread
    cases hread
  · exact ⟨rfl, rfl, rfl, fun _ => rfl⟩

/-- A row of the notices after some were acknowledged. -/
theorem mem_acknowledge_rows {notice_ids : List String} {a : Acknowledgment} {n : LifecycleNotice}
    (h : n ∈ (s.acknowledge_lifecycle_rows notice_ids a).notices.items) :
    ∃ m ∈ s.notices.items, n.notice_id = m.notice_id ∧ n.projection = m.projection
      ∧ n.delivery = m.delivery
      ∧ (n = m ∧ (n.notice_id ∉ notice_ids ∨ m.acknowledgment.isSome = true)
        ∨ n.notice_id ∈ notice_ids ∧ m.acknowledgment = none ∧ n.acknowledgment = some a) := by
  obtain ⟨m, hm, rfl⟩ := List.mem_map.mp h
  refine ⟨m, hm, ?_⟩
  split
  · rename_i hunread
    simp only [Bool.and_eq_true, List.contains_iff_mem, Option.isNone_iff_eq_none] at hunread
    exact ⟨rfl, rfl, rfl, .inr ⟨hunread.1, hunread.2, rfl⟩⟩
  · rename_i hkept
    refine ⟨rfl, rfl, rfl, .inl ⟨rfl, ?_⟩⟩
    simp only [Bool.and_eq_true, List.contains_iff_mem, Option.isNone_iff_eq_none, not_and_or]
      at hkept
    exact hkept.imp_right Option.isSome_iff_ne_none.mpr

/-- A notice that a read lists was waiting. -/
theorem waiting_of_listed {notice_ids : List String} {m : LifecycleNotice}
    (hpending : ∀ id ∈ notice_ids, ∃ n, s.notices.get? id = some n ∧ n.is_pending = true)
    (hm : m ∈ s.notices.items) (hid : m.notice_id ∈ notice_ids) :
    m.delivery = none ∧ m.acknowledgment = none := by
  obtain ⟨n, hget, hn⟩ := hpending m.notice_id hid
  rw [show s.notices.get? m.notice_id = some m from Table.mem_items_iff.mp hm] at hget
  cases hget
  simpa [LifecycleNotice.is_pending] using hn

/-- A step that leaves the notices and the receipts. -/
theorem Consumed.of_same (h : Consumed float_repr s) (hn : s'.notices = s.notices)
    (hr : s'.receipts = s.receipts) : Consumed float_repr s' := by
  refine ⟨?_, ?_, ?_, ?_, ?_⟩
  · intro n hmem hunread
    rw [hn] at hmem
    rw [acknowledging_congr hr]
    exact h.unread n hmem hunread
  · intro n hmem hread
    rw [hn] at hmem
    rw [acknowledging_congr hr]
    exact h.read n hmem hread
  · rw [hn, hr]
    exact h.known
  · rw [hn]
    exact h.fit
  · rw [hr]
    exact h.receipts

/-- A new notice, which no receipt lists. -/
theorem Consumed.of_added (h : Consumed float_repr s) {m : LifecycleNotice}
    (hfresh : s.notices.get? m.notice_id = none) (hpending : m.is_pending = true)
    (hfit : m.Fit float_repr) (hn : s'.notices = s.notices.put m)
    (hr : s'.receipts = s.receipts) : Consumed float_repr s' := by
  have hitems : s'.notices.items = s.notices.items ++ [m] := by
    rw [hn]
    exact Table.items_put_of_fresh _ hfresh
  simp only [LifecycleNotice.is_pending, Bool.and_eq_true, Option.isNone_iff_eq_none] at hpending
  refine ⟨?_, ?_, ?_, ?_, ?_⟩
  · intro n hmem hunread
    rw [acknowledging_congr hr]
    rw [hitems, List.mem_append, List.mem_singleton] at hmem
    rcases hmem with hmem | rfl
    · exact h.unread n hmem hunread
    · exact h.unlisted hfresh
  · intro n hmem hread
    rw [acknowledging_congr hr]
    rw [hitems, List.mem_append, List.mem_singleton] at hmem
    rcases hmem with hmem | rfl
    · exact h.read n hmem hread
    · rw [hpending.2] at hread
      cases hread
  · intro receipt hreceipt id hid
    rw [hr] at hreceipt
    rw [hn, Table.get?_put]
    split
    · rfl
    · exact h.known receipt hreceipt id hid
  · intro n hmem
    rw [hitems, List.mem_append, List.mem_singleton] at hmem
    rcases hmem with hmem | rfl
    · exact h.fit n hmem
    · exact hfit
  · rw [hr]
    exact h.receipts

/-- Notices bound to a delivery are still unread. -/
theorem Consumed.of_bound (h : Consumed float_repr s) {notice_ids : List String}
    {delivery : Delivery} (hn : s'.notices = (s.bind_notices notice_ids delivery).notices)
    (hr : s'.receipts = s.receipts) : Consumed float_repr s' := by
  refine ⟨?_, ?_, ?_, ?_, ?_⟩
  · intro n hmem hunread
    rw [hn] at hmem
    obtain ⟨m, hm, hid, hack, -, -⟩ := mem_bind_notices hmem
    rw [acknowledging_congr hr, hid]
    exact h.unread m hm (hack.symm.trans hunread)
  · intro n hmem hread
    rw [hn] at hmem
    obtain ⟨m, hm, -, hack, -, hkept⟩ := mem_bind_notices hmem
    rw [hack] at hread
    rw [acknowledging_congr hr, hkept hread]
    exact h.read m hm hread
  · intro receipt hreceipt id hid
    rw [hr] at hreceipt
    rw [hn, known_bind]
    exact h.known receipt hreceipt id hid
  · intro n hmem
    rw [hn] at hmem
    obtain ⟨m, hm, -, -, hp, -⟩ := mem_bind_notices hmem
    exact (h.fit m hm).congr hp
  · rw [hr]
    exact h.receipts

/-- A receipt lists notices that waited, and reads them all. -/
theorem Consumed.of_read (h : Consumed float_repr s) {receipt : InboxReceipt}
    {a : Acknowledgment} (hfresh : s.receipts.get? receipt.effect_id = none)
    (hpending : ∀ id ∈ receipt.notice_ids, ∃ n, s.notices.get? id = some n ∧ n.is_pending = true)
    (hstored : stored_receipt receipt = receipt)
    (hn : s'.notices = (s.acknowledge_lifecycle_rows receipt.notice_ids a).notices)
    (hr : s'.receipts = s.receipts.put receipt) : Consumed float_repr s' := by
  have hlist := acknowledging_put hfresh hr
  have hitems : s'.receipts.items = s.receipts.items ++ [receipt] := by
    rw [hr]
    exact Table.items_put_of_fresh _ hfresh
  refine ⟨?_, ?_, ?_, ?_, ?_⟩
  · intro n hmem hunread
    rw [hn] at hmem
    obtain ⟨m, hm, hid, -, -, hcase⟩ := mem_acknowledge_rows hmem
    rcases hcase with ⟨rfl, hmiss⟩ | ⟨-, -, hread⟩
    · rw [hlist, h.unread n hm hunread]
      rcases hmiss with hmiss | hread
      · simp [hmiss]
      · rw [hunread] at hread
        cases hread
    · rw [hread] at hunread
      cases hunread
  · intro n hmem hread
    rw [hn] at hmem
    obtain ⟨m, hm, hid, -, hdelivery, hcase⟩ := mem_acknowledge_rows hmem
    rw [hlist]
    rcases hcase with ⟨rfl, -⟩ | ⟨hmember, hunread, -⟩
    · -- it was read before, so it did not wait for this read
      obtain ⟨hnone, earlier, hearlier⟩ := h.read n hm hread
      have hmiss : n.notice_id ∉ receipt.notice_ids := by
        intro hmember
        rw [(waiting_of_listed hpending hm hmember).2] at hread
        cases hread
      refine ⟨hnone, earlier, ?_⟩
      rw [hearlier]
      simp [hmiss]
    · have hwaited := waiting_of_listed hpending hm (hid ▸ hmember)
      refine ⟨hdelivery.trans hwaited.1, receipt, ?_⟩
      rw [hid, h.unread m hm hunread]
      simp [← hid, hmember]
  · intro receipt' hreceipt id hid
    rw [hn, known_acknowledge]
    rw [hitems, List.mem_append, List.mem_singleton] at hreceipt
    rcases hreceipt with hreceipt | rfl
    · exact h.known receipt' hreceipt id hid
    · obtain ⟨n, hget, -⟩ := hpending id hid
      rw [hget]
      rfl
  · intro n hmem
    rw [hn] at hmem
    obtain ⟨m, hm, -, hp, -, -⟩ := mem_acknowledge_rows hmem
    exact (h.fit m hm).congr hp
  · intro receipt' hreceipt
    rw [hitems, List.mem_append, List.mem_singleton] at hreceipt
    rcases hreceipt with hreceipt | rfl
    · exact h.receipts receipt' hreceipt
    · exact hstored

theorem Consumed.step (h : Consumed float_repr s) (hstep : InboxStep float_repr s s') :
    Consumed float_repr s' := by
  cases hstep with
  | same hn hr => exact h.of_same hn hr
  | added m hfresh hpending hfit hn hr => exact h.of_added hfresh hpending hfit hn hr
  | bound notice_ids delivery hn hr => exact h.of_bound hn hr
  | read receipt a hfresh hnodup hpending hstored hn hr =>
    exact h.of_read hfresh hpending hstored hn hr

/-- A notice that waits was taken by no one, and any other by exactly one. -/
theorem Consumed.one_taker (h : Consumed float_repr s) {n : LifecycleNotice}
    (hn : n ∈ s.notices.items) :
    (n.is_pending = true ∧ s.takers n = []) ∨ (n.is_pending = false ∧ ∃ t, s.takers n = [t]) := by
  cases hack : n.acknowledgment with
  | none =>
    have hempty := h.unread n hn hack
    cases hdelivery : n.delivery with
    | none => exact .inl (by simp [LifecycleNotice.is_pending, takers, hack, hdelivery, hempty])
    | some d => exact .inr (by simp [LifecycleNotice.is_pending, takers, hack, hdelivery, hempty])
  | some a =>
    obtain ⟨hdelivery, receipt, hone⟩ := h.read n hn (by rw [hack]; rfl)
    exact .inr (by simp [LifecycleNotice.is_pending, takers, hack, hdelivery, hone])

/-- A notice that was taken is not written again, and no other read lists it. -/
theorem taken_kept (hstep : InboxStep float_repr s s') {id : String} {n : LifecycleNotice}
    (hget : s.notices.get? id = some n) (htaken : n.is_pending = false) :
    s'.notices.get? id = some n ∧ s'.acknowledging id = s.acknowledging id := by
  have hid : n.notice_id = id := Table.key_of_get? hget
  cases hstep with
  | same hn hr =>
    rw [hn]
    exact ⟨hget, acknowledging_congr hr id⟩
  | added m hfresh _ _ hn hr =>
    refine ⟨?_, acknowledging_congr hr id⟩
    rw [hn, Table.get?_put_ne]
    · exact hget
    · rintro rfl
      rw [show s.notices.get? (Keyed.key m) = none from hfresh] at hget
      cases hget
  | bound notice_ids delivery hn hr =>
    refine ⟨?_, acknowledging_congr hr id⟩
    rw [hn, bind_notices, Table.get?_update, hget]
    simp [htaken]
  | read receipt a hfresh _ hpending _ hn hr =>
    have hmiss : id ∉ receipt.notice_ids := by
      intro hmember
      obtain ⟨m, hm, hwaits⟩ := hpending id hmember
      rw [hget] at hm
      cases hm
      rw [htaken] at hwaits
      cases hwaits
    refine ⟨?_, ?_⟩
    · rw [hn, acknowledge_lifecycle_rows, Table.get?_update, hget]
      simp [hid, hmiss]
    · rw [acknowledging_put hfresh hr]
      simp [hmiss]

theorem takers_kept (hstep : InboxStep float_repr s s') {id : String} {n : LifecycleNotice}
    (hget : s.notices.get? id = some n) (htaken : n.is_pending = false) :
    s'.takers n = s.takers n := by
  have hid : n.notice_id = id := Table.key_of_get? hget
  rw [takers, hid, (taken_kept hstep hget htaken).2, takers, hid]

/-! ### Repeated reads -/

/-- A receipt is never written again. -/
theorem receipt_kept (hstep : InboxStep float_repr s s') {effect_id : String}
    {receipt : InboxReceipt} (hget : s.receipts.get? effect_id = some receipt) :
    s'.receipts.get? effect_id = some receipt := by
  cases hstep with
  | same _ hr | added _ _ _ _ _ hr | bound _ _ _ hr =>
    rw [hr]
    exact hget
  | read other _ hfresh _ _ _ _ hr =>
    rw [hr, Table.get?_put_ne]
    · exact hget
    · rintro rfl
      rw [show s.receipts.get? (Keyed.key other) = none from hfresh] at hget
      cases hget

/-- What a read returned is kept under its key. -/
theorem returned_kept (h : Consumed float_repr s) {episode_id effect_id acknowledged_by : String}
    {mode : InboxMode} {limit now : Int} {receipt : InboxReceipt}
    (hread : s.process_auto_research_lifecycle_inbox float_repr episode_id effect_id mode
      acknowledged_by limit now = .ok (receipt, s')) :
    s'.receipts.get? effect_id = some receipt := by
  rcases process_eq hread with ⟨hget, rfl, -⟩ | ⟨front, -, hfront, hreceipt, rfl⟩
  · exact hget
  · -- the rows that are listed were stored, so their copies are what is read back
    have hself : stored_receipt receipt = receipt := by
      have hqueue := hfront.trans (inbox_rows_front s episode_id mode limit)
      have hcopies : (front.map (LifecycleNotice.acknowledged ⟨now, acknowledged_by⟩)).map
          LifecycleNotice.stored
            = front.map (LifecycleNotice.acknowledged ⟨now, acknowledged_by⟩) := by
        rw [List.map_map]
        refine List.map_congr_left ?_
        intro n hn
        have hmem := (mem_pending_notices.mp (hqueue.sublist.subset hn)).1
        exact LifecycleNotice.stored_of_sorted (h.fit n hmem).2
      rw [hreceipt, stored_receipt]
      cases mode with
      | harvest =>
        dsimp only
        rw [if_pos rfl, hcopies]
      | clear => rfl
    have hkey : (Keyed.key receipt : String) = effect_id := by
      rw [hreceipt]
      rfl
    rw [hself, ← hkey]
    exact Table.get?_put_self _ _

/-- A read that is repeated returns what is kept under its key, and changes nothing. -/
theorem repeated_read {t : InboxStore} {episode_id effect_id acknowledged_by : String}
    {mode : InboxMode} {limit now : Int} {receipt : InboxReceipt}
    (hread : s.process_auto_research_lifecycle_inbox float_repr episode_id effect_id mode
      acknowledged_by limit now = .ok (receipt, s'))
    (hkept : t.receipts.get? effect_id = some receipt) (limit' now' : Int) :
    t.process_auto_research_lifecycle_inbox float_repr episode_id effect_id mode acknowledged_by
      limit' now' = .ok (receipt, t) := by
  have hcommand : receipt.episode_id = episode_id ∧ receipt.mode = mode
      ∧ receipt.acknowledged_by = acknowledged_by := by
    rcases process_eq hread with ⟨-, -, hcommand⟩ | ⟨front, -, -, hreceipt, -⟩
    · exact hcommand
    · rw [hreceipt]
      exact ⟨rfl, rfl, rfl⟩
  unfold process_auto_research_lifecycle_inbox at hread ⊢
  split at hread
  · cases hread
  split at hread
  · cases hread
  rename_i heffect hactor
  rw [if_neg heffect, if_neg hactor, hkept]
  simp [hcommand]

/-! ### Reading on -/

instance older_total : Std.Total LifecycleNotice.older := by
  refine ⟨?_⟩
  intro a b
  rcases lt_trichotomy a.created_at b.created_at with hlt | heq | hlt
  · exact .inl (.inl hlt)
  · rcases le_total a.notice_id b.notice_id with hle | hle
    · exact .inl (.inr ⟨heq, hle⟩)
    · exact .inr (.inr ⟨heq.symm, hle⟩)
  · exact .inr (.inl hlt)

instance older_trans : IsTrans LifecycleNotice LifecycleNotice.older := by
  refine ⟨?_⟩
  rintro a b c (hab | ⟨hab, hid⟩) (hbc | ⟨hbc, hid'⟩)
  · exact .inl (hab.trans hbc)
  · exact .inl (hbc ▸ hab)
  · exact .inl (hab ▸ hbc)
  · exact .inr ⟨hab.trans hbc, hid.trans hid'⟩

/-- The queue is in the order of `created_at`, then `notice_id`. -/
theorem pending_ordered (s : InboxStore) (id : String) :
    (s.pending_notices id).Pairwise LifecycleNotice.older :=
  List.pairwise_insertionSort LifecycleNotice.older _

/-- Acknowledging the front of the queue leaves the rest of it, in order. -/
theorem pending_acknowledged {id : String} {front : List LifecycleNotice} (a : Acknowledgment)
    (hfront : front <+: s.pending_notices id) :
    s.pending_notices id = front
      ++ (s.acknowledge_lifecycle_rows (front.map LifecycleNotice.notice_id) a).pending_notices
        id := by
  obtain ⟨rest, hrest⟩ := hfront
  have hids : ((front ++ rest).map LifecycleNotice.notice_id).Nodup := by
    rw [hrest]
    exact s.pending_ids_nodup id
  rw [List.map_append, List.nodup_append] at hids
  obtain ⟨-, hrestids, hapart⟩ := hids
  have hordered := s.pending_ordered id
  rw [← hrest] at hordered ⊢
  congr 1
  have hmem (n : LifecycleNotice) : n ∈ rest
      ↔ n ∈ (s.acknowledge_lifecycle_rows (front.map LifecycleNotice.notice_id) a).pending_notices
        id := by
    rw [mem_pending_notices]
    constructor
    · intro hn
      have hwaits : n ∈ s.pending_notices id := by
        rw [← hrest]
        exact List.mem_append_right front hn
      obtain ⟨hrow, hepisode, hpending⟩ := mem_pending_notices.mp hwaits
      refine ⟨List.mem_map.mpr ⟨n, hrow, ?_⟩, hepisode, hpending⟩
      have hmiss : n.notice_id ∉ front.map LifecycleNotice.notice_id := by
        intro hfront
        exact hapart _ hfront _ (List.mem_map_of_mem hn) rfl
      rw [if_neg (by
        simp only [Bool.and_eq_true, List.contains_iff_mem, not_and]
        intro h
        exact absurd h hmiss)]
    · rintro ⟨hrow, hepisode, hpending⟩
      obtain ⟨m, hm, -, -, -, hcase⟩ := mem_acknowledge_rows hrow
      simp only [LifecycleNotice.is_pending, Bool.and_eq_true,
        Option.isNone_iff_eq_none] at hpending
      rcases hcase with ⟨rfl, hmiss⟩ | ⟨-, -, hread⟩
      · have hwaits : n ∈ front ++ rest := by
          rw [hrest, mem_pending_notices]
          refine ⟨hm, hepisode, ?_⟩
          simp [LifecycleNotice.is_pending, hpending]
        rcases List.mem_append.mp hwaits with hn | hn
        · rcases hmiss with hmiss | hread
          · exact absurd (List.mem_map_of_mem hn) hmiss
          · rw [hpending.2] at hread
            cases hread
        · exact hn
      · rw [hpending.2] at hread
        cases hread
  have hperm : rest.Perm ((s.acknowledge_lifecycle_rows (front.map LifecycleNotice.notice_id)
      a).pending_notices id) :=
    (List.perm_ext_iff_of_nodup (List.Nodup.of_map _ hrestids)
      (List.Nodup.of_map _ (pending_ids_nodup _ id))).mpr hmem
  refine List.Perm.eq_of_pairwise ?_ (List.pairwise_append.mp hordered).2.1 (pending_ordered _ id)
    hperm
  -- notices that are not apart in the order have one key
  intro m n hm hn hmn hnm
  have hkey : m.notice_id = n.notice_id := by
    rcases hmn with hlt | ⟨heq, hle⟩
    · rcases hnm with hlt' | ⟨heq, -⟩
      · exact absurd hlt' (lt_asymm hlt)
      · exact absurd hlt (heq ▸ lt_irrefl _)
    · rcases hnm with hlt' | ⟨-, hle'⟩
      · exact absurd hlt' (heq ▸ lt_irrefl _)
      · exact le_antisymm hle hle'
  exact List.inj_on_of_nodup_map hrestids hm (hperm.symm.subset hn) hkey

end InboxStore

/-- The notice as it waited. -/
def LifecycleNotice.waiting (n : LifecycleNotice) : LifecycleNotice :=
  { n with acknowledgment := none }

/-- A Harvest of the inbox. -/
structure InboxRead where
  effect_id : String
  acknowledged_by : String
  limit : Int
  now : Int

theorem LifecycleNotice.waiting_acknowledged {n : LifecycleNotice} (h : n.is_pending = true)
    (a : Acknowledgment) : (n.acknowledged a).waiting = n := by
  simp only [is_pending, Bool.and_eq_true, Option.isNone_iff_eq_none] at h
  simp only [waiting, acknowledged]
  rw [← h.2]

namespace InboxStore

variable {float_repr : Rat → String} {s s' : InboxStore}

/-- Read the inbox of an episode, for the notices as they waited. -/
def harvest (float_repr : Rat → String) (episode_id : String) (s : InboxStore) (read : InboxRead) :
    Except InboxError (List LifecycleNotice × InboxStore) :=
  (s.process_auto_research_lifecycle_inbox float_repr episode_id read.effect_id .harvest
    read.acknowledged_by read.limit read.now).map
      (fun returned => (returned.1.notices.map LifecycleNotice.waiting, returned.2))

/-- Reads with keys that are new, and differ. -/
structure FreshReads (s : InboxStore) (reads : List InboxRead) : Prop where
  named : ∀ read ∈ reads, blank read.effect_id = false ∧ blank read.acknowledged_by = false
  new : ∀ read ∈ reads, s.receipts.get? read.effect_id = none
  apart : (reads.map InboxRead.effect_id).Nodup

/-- A response without notices fits. -/
theorem fits_nil (float_repr : Rat → String) :
    auto_research_inbox_effect_fits float_repr .harvest [] = true := by
  have hsame : auto_research_inbox_effect_fits float_repr .harvest []
      = auto_research_inbox_effect_fits (fun _ => "") .harvest [] := rfl
  rw [hsame]
  decide +kernel

/-- Harvest selects some of the waiting notices if each fits in a response of its own. -/
theorem snapshot_harvest {pending : List LifecycleNotice} (a : Acknowledgment)
    (clear_fits : Option Bool)
    (hfit : ∀ n ∈ pending, auto_research_inbox_effect_fits float_repr .harvest [n] = true) :
    ∃ front, bounded_auto_research_inbox_snapshot float_repr pending .harvest a clear_fits
        = .ok (front.map (LifecycleNotice.acknowledged a))
      ∧ front <+: pending ∧ (pending ≠ [] → front ≠ []) := by
  have hok : ∃ notices,
      bounded_auto_research_inbox_snapshot float_repr pending .harvest a clear_fits
        = .ok notices ∧ (pending ≠ [] → notices ≠ []) := by
    have hselected := fits_grow [] (pending.map (LifecycleNotice.acknowledged a))
      (fits_nil float_repr)
    have hprogress : pending ≠ [] → grow (auto_research_inbox_effect_fits float_repr .harvest) []
        (pending.map (LifecycleNotice.acknowledged a)) ≠ [] := by
      intro hne
      cases pending with
      | nil => exact absurd rfl hne
      | cons first rest =>
        refine grow_ne_nil _ ?_
        have hfirst := fits_acknowledged float_repr a [first]
        rw [List.map_singleton] at hfirst
        rw [hfirst]
        exact hfit first List.mem_cons_self
    refine ⟨_, ?_, hprogress⟩
    unfold bounded_auto_research_inbox_snapshot
    dsimp only
    rw [if_neg, if_neg]
    · simp [hselected]
    · intro hstuck
      simp only [Bool.and_eq_true, Bool.not_eq_true', List.isEmpty_eq_false_iff, ne_eq,
        List.map_eq_nil_iff, List.isEmpty_iff] at hstuck
      exact hprogress hstuck.1 hstuck.2
  obtain ⟨notices, hnotices, hprogress⟩ := hok
  obtain ⟨front, hfront, rfl⟩ := snapshot_front hnotices
  refine ⟨front, hnotices, hfront, ?_⟩
  intro hne hnil
  exact hprogress hne (by rw [hnil]; rfl)

/-- Harvest takes at least one notice while any waits, and never fails. -/
theorem harvest_front (h : Consumed float_repr s) {id : String} {e : Episode}
    (hload : s.store.load_auto_research_episode id = some e) {read : InboxRead}
    {reads : List InboxRead} (hfresh : s.FreshReads (read :: reads)) :
    ∃ front s', harvest float_repr id s read = .ok (front, s') ∧ Consumed float_repr s'
      ∧ s'.store = s.store ∧ s'.FreshReads reads
      ∧ s.pending_notices id = front ++ s'.pending_notices id
      ∧ (s.pending_notices id ≠ [] → front ≠ []) := by
  obtain ⟨heffect, hactor⟩ := hfresh.named read List.mem_cons_self
  have hnew := hfresh.new read List.mem_cons_self
  let a : Acknowledgment := ⟨read.now, read.acknowledged_by⟩
  have hrows : s.inbox_rows id .harvest read.limit <+: s.pending_notices id :=
    inbox_rows_front s id .harvest read.limit
  have hfit (n : LifecycleNotice) (hn : n ∈ s.inbox_rows id .harvest read.limit) :
      auto_research_inbox_effect_fits float_repr .harvest [n] = true :=
    (h.fit n (mem_pending_notices.mp (hrows.sublist.subset hn)).1).1
  obtain ⟨front, hsnapshot, hfront, hprogress⟩ := snapshot_harvest a
    (s.inbox_clear_fits float_repr id .harvest a (s.inbox_rows id .harvest read.limit)) hfit
  have hids : (front.map (LifecycleNotice.acknowledged a)).map LifecycleNotice.notice_id
      = front.map LifecycleNotice.notice_id := by
    rw [List.map_map]
    rfl
  -- no receipt has this id yet, so the snapshot is taken and stored
  have hprocess : s.process_auto_research_lifecycle_inbox float_repr id read.effect_id .harvest
      read.acknowledged_by read.limit read.now
      = .ok (InboxReceipt.mk read.effect_id id .harvest (front.map LifecycleNotice.notice_id)
          (front.map (LifecycleNotice.acknowledged a)) read.acknowledged_by read.now,
        { s.acknowledge_lifecycle_rows (front.map LifecycleNotice.notice_id) a with
          receipts := s.receipts.put (stored_receipt (InboxReceipt.mk read.effect_id id .harvest
            (front.map LifecycleNotice.notice_id) (front.map (LifecycleNotice.acknowledged a))
            read.acknowledged_by read.now)) }) := by
    unfold process_auto_research_lifecycle_inbox
    rw [if_neg (by rw [heffect]; exact Bool.false_ne_true),
      if_neg (by rw [hactor]; exact Bool.false_ne_true), hnew]
    dsimp only
    rw [hload]
    dsimp only
    rw [hsnapshot]
    simp only [bind, Except.bind, hids]
    rfl
  have hstep := process_step hprocess
  have hqueue := hfront.trans hrows
  have hwaiting : (front.map (LifecycleNotice.acknowledged a)).map LifecycleNotice.waiting
      = front := by
    rw [List.map_map]
    conv_rhs => rw [← List.map_id front]
    refine List.map_congr_left ?_
    intro n hn
    exact LifecycleNotice.waiting_acknowledged
      (mem_pending_notices.mp (hqueue.sublist.subset hn)).2.2 a
  refine ⟨front, _, ?_, h.step hstep, rfl, ?_, ?_, ?_⟩
  · unfold harvest
    rw [hprocess, Except.map, hwaiting]
  · -- the reads to come have other ids
    have hapart := List.nodup_cons.mp hfresh.apart
    refine ⟨?_, ?_, hapart.2⟩
    · intro read' hread'
      exact hfresh.named read' (List.mem_cons_of_mem read hread')
    · intro read' hread'
      have hne : read'.effect_id ≠ read.effect_id := by
        intro heq
        exact hapart.1 (heq ▸ List.mem_map_of_mem hread')
      rw [Table.get?_put_ne]
      · exact hfresh.new read' (List.mem_cons_of_mem read hread')
      · exact hne
  · exact pending_acknowledged a hqueue
  · intro hne
    refine hprogress ?_
    intro hempty
    rcases List.take_eq_nil_iff.mp hempty with hpage | hnil
    · unfold page at hpage
      omega
    · exact hne hnil

/-! ### Runs -/

theorem apply_inbox_cases (float_repr : Rat → String) (s : InboxStore) (op : InboxOp) :
    InboxStep float_repr s (s.apply float_repr op) := by
  unfold apply
  cases h : s.exec float_repr op with
  | none => exact .same rfl rfl
  | some s' => exact exec_inbox_step h

theorem consumed_empty (float_repr : Rat → String) : Consumed float_repr {} := by
  refine ⟨?_, ?_, ?_, ?_, ?_⟩ <;> intro _ hmem <;> cases hmem

theorem Consumed.run (h : Consumed float_repr s) (ops : List InboxOp) :
    Consumed float_repr (s.run float_repr ops) := by
  induction ops generalizing s with
  | nil => exact h
  | cons op ops ih => exact ih (h.step (apply_inbox_cases float_repr s op))

/-- A notice that was taken stays as it is, with its taker. -/
theorem taken_run (float_repr : Rat → String) {id : String} {n : LifecycleNotice}
    (ops : List InboxOp)
    (hget : s.notices.get? id = some n) (htaken : n.is_pending = false) :
    (s.run float_repr ops).notices.get? id = some n
      ∧ (s.run float_repr ops).takers n = s.takers n := by
  induction ops generalizing s with
  | nil => exact ⟨hget, rfl⟩
  | cons op ops ih =>
    have hstep := apply_inbox_cases float_repr s op
    obtain ⟨hkept, htakers⟩ := ih (taken_kept hstep hget htaken).1
    exact ⟨hkept, htakers.trans (takers_kept hstep hget htaken)⟩

theorem receipt_run (float_repr : Rat → String) {effect_id : String} {receipt : InboxReceipt}
    (ops : List InboxOp)
    (hget : s.receipts.get? effect_id = some receipt) :
    (s.run float_repr ops).receipts.get? effect_id = some receipt := by
  induction ops generalizing s with
  | nil => exact hget
  | cons op ops ih => exact ih (receipt_kept (apply_inbox_cases float_repr s op) hget)

/-- Reading on with fresh keys never fails, and takes the queue off in order. -/
theorem reads_complete (h : Consumed float_repr s) {id : String} {e : Episode}
    (hload : s.store.load_auto_research_episode id = some e) {reads : List InboxRead}
    (hfresh : s.FreshReads reads) :
    ∃ pieces s', drain (harvest float_repr id) s reads = .ok (pieces, s')
      ∧ s.pending_notices id = pieces.flatten ++ s'.pending_notices id
      ∧ ((s.pending_notices id).length ≤ reads.length → s'.pending_notices id = []) := by
  refine drain_complete (W := fun s => s.pending_notices id)
    (I := fun s reads => Consumed float_repr s
    ∧ s.store.load_auto_research_episode id = some e ∧ s.FreshReads reads) ?_ ⟨h, hload, hfresh⟩
  rintro s read reads ⟨hs, hload, hfresh⟩
  obtain ⟨front, s', hok, hs', hstore, hfresh', hqueue, hprogress⟩ := harvest_front hs hload hfresh
  exact ⟨front, s', hok, ⟨hs', by rw [hstore]; exact hload, hfresh'⟩, hqueue, hprogress⟩

end InboxStore

open InboxStore

/-- In every run of insertions, wakes and reads of the inbox, a notice that waits was taken by no
    one, any other by one wake or by one inbox effect, and for good. A read that is repeated under
    its key returns what it returned. From every state, reading on with fresh keys never fails and
    returns the waiting notices in the order of their creation, until none is left. -/
theorem lifecycle_notices_consumed_once (float_repr : Rat → String) (ops : List InboxOp) :
    (∀ k, ∀ n ∈ (InboxStore.run float_repr {} (ops.take k)).notices.items,
      (n.is_pending = true ∧ (InboxStore.run float_repr {} (ops.take k)).takers n = [])
      ∨ (n.is_pending = false ∧ ∃ t, (InboxStore.run float_repr {} (ops.take k)).takers n = [t]))
    ∧ (∀ i j, i ≤ j → ∀ id n,
      (InboxStore.run float_repr {} (ops.take i)).notices.get? id = some n → n.is_pending = false →
      (InboxStore.run float_repr {} (ops.take j)).notices.get? id = some n
      ∧ (InboxStore.run float_repr {} (ops.take j)).takers n
        = (InboxStore.run float_repr {} (ops.take i)).takers n)
    ∧ (∀ i j, i < j → ∀ episode_id effect_id mode acknowledged_by limit now receipt s',
      ops[i]? = some (.process_auto_research_lifecycle_inbox episode_id effect_id mode
        acknowledged_by limit now) →
      (InboxStore.run float_repr {} (ops.take i)).process_auto_research_lifecycle_inbox float_repr
        episode_id effect_id mode acknowledged_by limit now = .ok (receipt, s') →
      ∀ limit' now',
        (InboxStore.run float_repr {} (ops.take j)).process_auto_research_lifecycle_inbox float_repr
          episode_id effect_id mode acknowledged_by limit' now'
          = .ok (receipt, InboxStore.run float_repr {} (ops.take j)))
    ∧ (∀ k id e reads,
      (InboxStore.run float_repr {} (ops.take k)).store.load_auto_research_episode id = some e →
      (InboxStore.run float_repr {} (ops.take k)).FreshReads reads →
      ((InboxStore.run float_repr {} (ops.take k)).pending_notices id).Pairwise
        LifecycleNotice.older
      ∧ ∃ pieces s',
        drain (harvest float_repr id) (InboxStore.run float_repr {} (ops.take k)) reads
          = .ok (pieces, s')
        ∧ (InboxStore.run float_repr {} (ops.take k)).pending_notices id
          = pieces.flatten ++ s'.pending_notices id
        ∧ (((InboxStore.run float_repr {} (ops.take k)).pending_notices id).length ≤ reads.length →
          s'.pending_notices id = [])) := by
  have hconsumed (k : Nat) : Consumed float_repr (InboxStore.run float_repr {} (ops.take k)) :=
    (consumed_empty float_repr).run (ops.take k)
  have hrest {i j : Nat} (hij : i ≤ j) : InboxStore.run float_repr {} (ops.take j)
      = (InboxStore.run float_repr {} (ops.take i)).run float_repr ((ops.drop i).take (j - i)) :=
    run_take_of_le hij
  refine ⟨?_, ?_, ?_, ?_⟩
  · intro k n hn
    exact (hconsumed k).one_taker hn
  · intro i j hij id n hget htaken
    rw [hrest hij]
    exact taken_run float_repr _ hget htaken
  · intro i j hij episode_id effect_id mode acknowledged_by limit now receipt s' hop hread
    -- the read is the step from `i` to `i + 1`, and the receipt stays from there on
    have hnext : InboxStore.run float_repr {} (ops.take (i + 1)) = s' := by
      have hsucc : InboxStore.run float_repr {} (ops.take (i + 1))
          = (InboxStore.run float_repr {} (ops.take i)).apply float_repr
            (.process_auto_research_lifecycle_inbox episode_id effect_id mode acknowledged_by limit
              now) := run_take_succ hop
      rw [hsucc, InboxStore.apply, InboxStore.exec, hread]
      rfl
    have hkept := returned_kept (hconsumed i) hread
    rw [← hnext] at hkept
    have hlater := receipt_run float_repr ((ops.drop (i + 1)).take (j - (i + 1))) hkept
    rw [← hrest hij] at hlater
    exact repeated_read hread hlater
  · intro k id e reads hload hfresh
    exact ⟨pending_ordered _ id, reads_complete (hconsumed k) hload hfresh⟩

/-- A notice of a child of the episode `e`. -/
def sample_notice (notice_id created_at : String) : LifecycleNotice :=
  { notice_id, episode_id := "e", source_kind := "worker", source_id := notice_id,
    source_event := "succeeded", payload := [("kind", .str "work")], created_at }

/-- A read of one notice. -/
def sample_read : InboxOp :=
  .process_auto_research_lifecycle_inbox "e" "k0" .harvest "root" 1 2

/-- Two children of an Auto-research episode report, the later one first; one notice is read, and
    the read is repeated. -/
def sample_inbox_run : List InboxOp :=
  [.episodes (.create_auto_research_episode_with_root_task
      { episode_id := "e", project_id := "p", mode := .auto_research, graph_target := .branch "e",
        invocation_ceiling := 5, authorized_by := some "human" }
      { operation_id := "root", project_id := "p", kind := .auto_research, episode_id := some "e",
        graph_target := .branch "e", authorized_by := some "human",
        request := { episode_id := some "e", role := some .orchestrator } } true true),
    .record_auto_research_lifecycle_notice (sample_notice "b" "2"),
    .record_auto_research_lifecycle_notice (sample_notice "a" "1"),
    sample_read, sample_read]

/-- The inbox behind the first operations of the sample. -/
def sample_inbox (k : Nat) : InboxStore :=
  InboxStore.run (fun _ => "") {} (sample_inbox_run.take k)

def sample_reads : List InboxRead :=
  [{ effect_id := "k1", acknowledged_by := "root", limit := 1, now := 3 },
    { effect_id := "k2", acknowledged_by := "root", limit := 1, now := 4 }]

theorem sample_inbox_read :
    (∃ n, (sample_inbox 4).notices.get? "a" = some n ∧ n.is_pending = false
      ∧ (∃ t, (sample_inbox 4).takers n = [t]) ∧ (sample_inbox 5).notices.get? "a" = some n)
    ∧ (∃ receipt s', (sample_inbox 3).process_auto_research_lifecycle_inbox (fun _ => "") "e" "k0"
        .harvest "root" 1 2 = .ok (receipt, s')
      ∧ (sample_inbox 4).process_auto_research_lifecycle_inbox (fun _ => "") "e" "k0" .harvest
        "root" 7 9 = .ok (receipt, sample_inbox 4))
    ∧ ∃ pieces s', drain (harvest (fun _ => "") "e") (sample_inbox 3) sample_reads
      = .ok (pieces, s')
      ∧ pieces.flatten.map LifecycleNotice.notice_id = ["a", "b"] := by
  obtain ⟨htaken, hkept, hrepeated, hread⟩ :=
    lifecycle_notices_consumed_once (fun _ => "") sample_inbox_run
  have hrun (k : Nat) : InboxStore.run (fun _ => "") {} (sample_inbox_run.take k)
      = sample_inbox k :=
    rfl
  simp only [hrun] at htaken hkept hrepeated hread
  refine ⟨?_, ?_, ?_⟩
  · -- the older notice is the one that was read
    have hnotice : ((sample_inbox 4).notices.get? "a").map LifecycleNotice.is_pending
        = some false := by
      decide +kernel
    obtain ⟨n, hn, hpending⟩ := Option.map_eq_some_iff.mp hnotice
    have hmem : n ∈ (sample_inbox 4).notices.items := (Table.get?_eq_some_iff.mp hn).1
    refine ⟨n, hn, hpending, ?_, (hkept 4 5 (by decide) "a" n hn hpending).1⟩
    rcases htaken 4 n hmem with ⟨hp, -⟩ | ⟨-, ht⟩
    · rw [hpending] at hp
      cases hp
    · exact ht
  · have hread : ((sample_inbox 3).process_auto_research_lifecycle_inbox (fun _ => "") "e" "k0"
        .harvest "root" 1 2).isOk = true := by
      decide +kernel
    cases hok : (sample_inbox 3).process_auto_research_lifecycle_inbox (fun _ => "") "e" "k0"
        .harvest "root" 1 2 with
    | error e =>
      rw [hok] at hread
      cases hread
    | ok r =>
      exact ⟨r.1, r.2, rfl, hrepeated 3 4 (by decide) "e" "k0" .harvest "root" 1 2 r.1 r.2 rfl hok
        7 9⟩
  · have hwaiting : ((sample_inbox 3).pending_notices "e").map LifecycleNotice.notice_id
        = ["a", "b"] := by
      decide +kernel
    obtain ⟨e, hload⟩ : ∃ e, (sample_inbox 3).store.load_auto_research_episode "e" = some e :=
      Option.isSome_iff_exists.mp (by decide +kernel)
    have hfresh : (sample_inbox 3).FreshReads sample_reads :=
      ⟨by decide, by decide +kernel, by decide⟩
    obtain ⟨-, pieces, s', hdrain, hqueue, hdone⟩ := hread 3 "e" e sample_reads hload hfresh
    refine ⟨pieces, s', hdrain, ?_⟩
    have hlength := congrArg List.length hwaiting
    rw [List.length_map] at hlength
    rw [hdone (Nat.le_of_eq hlength), List.append_nil] at hqueue
    rw [← hqueue]
    exact hwaiting

end ResearchGraph
