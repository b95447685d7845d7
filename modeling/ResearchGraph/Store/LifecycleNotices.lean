import Mathlib.Data.String.Basic
import ResearchGraph.Store.EpisodeRuns
import ResearchGraph.Store.JsonText
import ResearchGraph.Lib.Drain

/-! # Lifecycle notices (`rcp/storage/auto_research_children.py`)

    The children of an Auto-research episode report to it through notices. A
    notice is delivered by binding it to a wake of the orchestrator, or it is
    read from the inbox by a command with a key. What a read returned is kept
    under its key.
-/

namespace ResearchGraph

open Lib

/-! ### Rows -/

/-- `delivered_at` and `delivery_operation_id`, which are set together. -/
structure Delivery where
  delivered_at : Int
  delivery_operation_id : String
  deriving DecidableEq, Repr

/-- `acknowledged_at` and `acknowledged_by`, which are set together. -/
structure Acknowledgment where
  acknowledged_at : Int
  acknowledged_by : String
  deriving DecidableEq, Repr

inductive LifecycleNoticeState
  | pending
  | delivered
  | acknowledged
  deriving DecidableEq, Repr

/-- A row of `auto_research_lifecycle_notices`. -/
structure LifecycleNotice where
  notice_id : String
  episode_id : String
  source_kind : String
  source_id : String
  source_event : String
  source_attempt : Nat := 1
  payload : Entries
  created_at : String
  delivery : Option Delivery := none
  acknowledgment : Option Acknowledgment := none
  deriving DecidableEq

instance : Keyed LifecycleNotice String := ⟨LifecycleNotice.notice_id⟩

namespace LifecycleNotice

/-- The state that `delivery_state_is_coherent` demands. -/
def state (n : LifecycleNotice) : LifecycleNoticeState :=
  if n.acknowledgment.isSome then .acknowledged
  else if n.delivery.isSome then .delivered
  else .pending

/-- `delivered_at IS NULL AND acknowledged_at IS NULL` -/
def is_pending (n : LifecycleNotice) : Bool := n.delivery.isNone && n.acknowledgment.isNone

/-- The event a notice is about. -/
def source (n : LifecycleNotice) : String × String × String × String × Nat :=
  (n.episode_id, n.source_kind, n.source_id, n.source_event, n.source_attempt)

/-- `ORDER BY created_at, notice_id` -/
def older (a b : LifecycleNotice) : Prop :=
  a.created_at < b.created_at ∨ (a.created_at = b.created_at ∧ a.notice_id ≤ b.notice_id)

instance : DecidableRel older := fun a b =>
  inferInstanceAs (Decidable (a.created_at < b.created_at
    ∨ (a.created_at = b.created_at ∧ a.notice_id ≤ b.notice_id)))

/-- The columns an inbox response shows. -/
def projection (n : LifecycleNotice) : Value :=
  .dict
    [("notice_id", .str n.notice_id), ("source_kind", .str n.source_kind),
     ("source_id", .str n.source_id), ("source_event", .str n.source_event),
     ("source_attempt", .int n.source_attempt), ("payload", .dict n.payload),
     ("created_at", .str n.created_at)]

/-- The row that is read back: the payload was written with its keys sorted. -/
def stored (n : LifecycleNotice) : LifecycleNotice :=
  { n with payload := match (Value.dict n.payload).sort_keys with
      | .dict payload => payload
      | _ => [] }

end LifecycleNotice

inductive InboxMode
  | harvest
  | clear
  deriving DecidableEq, Repr

/-- A row of `auto_research_inbox_receipts`. -/
structure InboxReceipt where
  effect_id : String
  episode_id : String
  mode : InboxMode
  notice_ids : List String
  notices : List LifecycleNotice
  acknowledged_by : String
  created_at : Int
  deriving DecidableEq

instance : Keyed InboxReceipt String := ⟨InboxReceipt.effect_id⟩

/-- A row of `auto_research_messages`. -/
structure AutoResearchMessage where
  message_id : String
  episode_id : String
  recipient_task_id : String
  created_at : String
  delivery : Option Delivery := none
  deriving DecidableEq, Repr

instance : Keyed AutoResearchMessage String := ⟨AutoResearchMessage.message_id⟩

/-- `ORDER BY created_at, message_id` -/
def AutoResearchMessage.older (a b : AutoResearchMessage) : Prop :=
  a.created_at < b.created_at ∨ (a.created_at = b.created_at ∧ a.message_id ≤ b.message_id)

instance : DecidableRel AutoResearchMessage.older := fun a b =>
  inferInstanceAs (Decidable (a.created_at < b.created_at
    ∨ (a.created_at = b.created_at ∧ a.message_id ≤ b.message_id)))

/-- The episodes and their tasks, with the notices, the mail and the inbox receipts. -/
structure InboxStore where
  store : EpisodeStore := {}
  notices : Table LifecycleNotice := Table.empty
  messages : Table AutoResearchMessage := Table.empty
  receipts : Table InboxReceipt := Table.empty

/-! ### The size of a response -/

def AGENT_COMMAND_EVENT_MAX_BYTES : Nat := 32 * 1024
def AUTO_RESEARCH_LIFECYCLE_MAX_NOTICES : Nat := 50
def AUTO_RESEARCH_MAIL_MAX_MESSAGES : Nat := 64

/-- `auto_research_inbox_projection` -/
def auto_research_inbox_projection (mode : InboxMode) (notices : List LifecycleNotice) :
    Value × String :=
  let count := notices.length
  match mode with
  | .harvest =>
    (.dict [("action", .str "harvest"), ("count", .int count),
        ("notices", .list (notices.map LifecycleNotice.projection))],
      "Harvested and acknowledged " ++ toString count ++ " lifecycle notice(s).")
  | .clear =>
    (.dict [("action", .str "clear"), ("count", .int count),
        ("notice_ids", .list (notices.map (fun n => .str n.notice_id)))],
      "Cleared " ++ toString count ++ " lifecycle notice(s).")

section

variable (float_repr : Rat → String)

/-- The successful command as its ledger keeps it. -/
def exit_document (result : Value) (message : String) : Value :=
  .dict [("status", .str "ok"), ("result", result), ("diagnostic", .str message)]

/-- The successful command as its caller sees it. -/
def response_document (result : Value) (message : String) : Value :=
  .dict
    [("version", .int 1), ("request_id", .str (String.ofList (List.replicate 32 '0'))),
     ("status", .str "ok"), ("message", .str message), ("result", result)]

/-- `_auto_research_inbox_effect_fits` -/
def auto_research_inbox_effect_fits (mode : InboxMode) (notices : List LifecycleNotice) : Bool :=
  let shown := auto_research_inbox_projection mode notices
  let exit_payload :=
    json_dumps float_repr .compact 0 (exit_document shown.1 shown.2).sort_keys
  let response_payload :=
    json_dumps float_repr .indented 0 (response_document shown.1 shown.2) ++ "\n"
  decide (max exit_payload.utf8ByteSize response_payload.utf8ByteSize
    ≤ AGENT_COMMAND_EVENT_MAX_BYTES)

/-- `_bounded_auto_research_lifecycle_notice` -/
def bounded_auto_research_lifecycle_notice (record : LifecycleNotice) : Option LifecycleNotice :=
  if auto_research_inbox_effect_fits float_repr .harvest [record] then some record
  else match Entries.get record.payload "diagnostic" with
    | .str diagnostic =>
      let bounded := { record with
        payload := Entries.put (Entries.put record.payload "diagnostic"
          (.str (cut 2000 diagnostic))) "diagnostic_truncated" (.bool true) }
      if auto_research_inbox_effect_fits float_repr .harvest [bounded] then some bounded else none
    | _ => none

end

namespace InboxStore

variable (s : InboxStore)

/-- The pending notices of an episode, oldest first. -/
def pending_notices (episode_id : String) : List LifecycleNotice :=
  (s.notices.items.filter (fun n => n.episode_id = episode_id && n.is_pending)).insertionSort
    LifecycleNotice.older

/-- `max(1, min(limit, AUTO_RESEARCH_LIFECYCLE_MAX_NOTICES))` -/
def page (limit : Int) : Nat := (max 1 (min limit AUTO_RESEARCH_LIFECYCLE_MAX_NOTICES)).toNat

/-! ### Insertion -/

def same_payload (a b : LifecycleNotice) : Bool :=
  Value.loosely_equal (.dict a.payload) (.dict b.payload)

/-- `_insert_auto_research_lifecycle_notice`, with the notice it returns. -/
def insert_auto_research_lifecycle_notice (float_repr : Rat → String) (record : LifecycleNotice) :
    Option (LifecycleNotice × InboxStore) :=
  if record.state ≠ .pending then none
  else (s.store.load_auto_research_episode record.episode_id).bind fun _ =>
    match s.notices.items.find? (fun n => n.source = record.source) with
    | some stored =>
      if same_payload stored record then some (stored, s)
      else if (bounded_auto_research_lifecycle_notice float_repr record).any
        (same_payload stored) then some (stored, s)
      else none
    | none =>
      (bounded_auto_research_lifecycle_notice float_repr record).bind fun record =>
        if s.notices.contains record.notice_id then none
        else some (record, { s with notices := s.notices.put record.stored })

/-! ### Delivery -/

/-- Bind the pending ones among some notices to an operation. -/
def bind_notices (notice_ids : List String) (delivery : Delivery) : InboxStore :=
  { s with
    notices := s.notices.update
      (fun n => if notice_ids.contains n.notice_id && n.is_pending then
        { n with delivery := some delivery } else n)
      (by
        intro n
        show (if notice_ids.contains n.notice_id && n.is_pending then
          { n with delivery := some delivery } else n).notice_id = n.notice_id
        split <;> rfl) }

/-- `claim_auto_research_lifecycle_notices` -/
def claim_auto_research_lifecycle_notices (episode_id operation_id : String) (limit now : Int) :
    InboxStore :=
  let rows := (s.pending_notices episode_id).take (page limit)
  if rows.isEmpty then s
  else s.bind_notices (rows.map LifecycleNotice.notice_id)
    { delivered_at := now, delivery_operation_id := operation_id }

/-- The mail a wake takes along: `none` if it names mail it may not take, and otherwise whether it
    names the oldest waiting mail of the recipient. -/
def mail_waits (episode_id recipient : String) (message_ids : List String) : Option Bool :=
  let messages := s.messages.items.filter (fun m => message_ids.contains m.message_id)
  if message_ids.any (fun id => !s.messages.contains id) then none
  else if messages.any (fun m => m.episode_id ≠ episode_id || m.recipient_task_id ≠ recipient) then
    none
  else if messages.any (fun m => m.delivery.isSome) then some false
  else some (decide
    ((((s.messages.items.filter (fun m => m.episode_id = episode_id
        && m.recipient_task_id = recipient && m.delivery.isNone)).insertionSort
          AutoResearchMessage.older).take message_ids.length).map AutoResearchMessage.message_id
      = message_ids))

/-- `create_auto_research_lifecycle_wake_task`. A wake whose notices or mail were taken meanwhile
    changes nothing. -/
def create_auto_research_lifecycle_wake_task (t : AgentTaskRecord)
    (lifecycle_notice_ids message_ids : List String) (bound : Bool) : Option InboxStore :=
  t.episode_id.bind fun episode_id =>
    if lifecycle_notice_ids.isEmpty || !decide lifecycle_notice_ids.Nodup
        || decide (AUTO_RESEARCH_LIFECYCLE_MAX_NOTICES < lifecycle_notice_ids.length) then none
    else if !decide message_ids.Nodup
        || decide (AUTO_RESEARCH_MAIL_MAX_MESSAGES < message_ids.length) then none
    else (s.store.load_auto_research_episode episode_id).bind fun e =>
      e.root_operation_id.bind fun root =>
        let notices := s.notices.items.filter (fun n => lifecycle_notice_ids.contains n.notice_id)
        if lifecycle_notice_ids.any (fun id => !s.notices.contains id) then none
        else if notices.any (fun n => n.episode_id ≠ episode_id) then none
        else if notices.any (fun n => !n.is_pending) then some s
        else if ((s.pending_notices episode_id).take lifecycle_notice_ids.length).map
            LifecycleNotice.notice_id ≠ lifecycle_notice_ids then some s
        else (s.mail_waits episode_id root message_ids).bind fun waits =>
          if !waits then some s
          else (s.store.insert_paid_auto_research_task e t .orchestrator bound).bind fun store =>
            let delivery : Delivery :=
              { delivered_at := t.created_at, delivery_operation_id := t.operation_id }
            some { s.bind_notices lifecycle_notice_ids delivery with
              store := store
              messages := s.messages.update
                (fun m => if message_ids.contains m.message_id && m.delivery.isNone then
                  { m with delivery := some delivery } else m)
                (by
                  intro m
                  show (if message_ids.contains m.message_id && m.delivery.isNone then
                    { m with delivery := some delivery } else m).message_id = m.message_id
                  split <;> rfl) }

/-! ### Reading the inbox -/

/-- `_acknowledge_lifecycle_rows` -/
def acknowledge_lifecycle_rows (notice_ids : List String) (acknowledgment : Acknowledgment) :
    InboxStore :=
  { s with
    notices := s.notices.update
      (fun n => if notice_ids.contains n.notice_id && n.acknowledgment.isNone then
        { n with acknowledgment := some acknowledgment } else n)
      (by
        intro n
        show (if notice_ids.contains n.notice_id && n.acknowledgment.isNone then
          { n with acknowledgment := some acknowledgment } else n).notice_id = n.notice_id
        split <;> rfl) }

end InboxStore

/-- The copy of a notice that a read returns. -/
def LifecycleNotice.acknowledged (a : Acknowledgment) (n : LifecycleNotice) : LifecycleNotice :=
  { n with acknowledgment := some a }

/-- What a read of the inbox raises. -/
inductive InboxError
  | no_effect_id
  | no_actor
  | other_command
  | no_episode
  | clear_too_large
  | harvest_too_large
  | notice_unacknowledgeable
  | empty_response_too_large
  deriving DecidableEq, Repr

/-- `_bounded_auto_research_inbox_snapshot` -/
def bounded_auto_research_inbox_snapshot (float_repr : Rat → String)
    (pending : List LifecycleNotice) (mode : InboxMode) (a : Acknowledgment)
    (clear_fits : Option Bool) : Except InboxError (List LifecycleNotice) :=
  let acknowledged := pending.map (LifecycleNotice.acknowledged a)
  match mode with
  | .clear =>
    if auto_research_inbox_effect_fits float_repr .clear acknowledged then .ok acknowledged
    else .error .clear_too_large
  | .harvest =>
    let selected := grow (auto_research_inbox_effect_fits float_repr .harvest) [] acknowledged
    if !acknowledged.isEmpty && selected.isEmpty then
      if clear_fits ≠ some true then .error .notice_unacknowledgeable
      else .error .harvest_too_large
    else if !auto_research_inbox_effect_fits float_repr .harvest selected then
      .error .empty_response_too_large
    else .ok selected

namespace InboxStore

variable (s : InboxStore)

/-- The notices a read looks at. -/
def inbox_rows (episode_id : String) (mode : InboxMode) (limit : Int) : List LifecycleNotice :=
  match mode with
  | .harvest => (s.pending_notices episode_id).take (page limit)
  | .clear => s.pending_notices episode_id

/-- Whether Clear would fit, asked only when the oldest notice does not fit in Harvest. -/
def inbox_clear_fits (float_repr : Rat → String) (episode_id : String) (mode : InboxMode)
    (a : Acknowledgment) (pending : List LifecycleNotice) : Option Bool :=
  if mode = .harvest && pending.head?.any (fun first =>
      !auto_research_inbox_effect_fits float_repr .harvest [first.acknowledged a]) then
    some (auto_research_inbox_effect_fits float_repr .clear
      ((s.pending_notices episode_id).map (LifecycleNotice.acknowledged a)))
  else none

/-- The row of a receipt as it is read back. -/
def stored_receipt (receipt : InboxReceipt) : InboxReceipt :=
  { receipt with notices := receipt.notices.map LifecycleNotice.stored }

/-- `process_auto_research_lifecycle_inbox` -/
def process_auto_research_lifecycle_inbox (float_repr : Rat → String)
    (episode_id effect_id : String) (mode : InboxMode) (acknowledged_by : String)
    (limit now : Int) : Except InboxError (InboxReceipt × InboxStore) :=
  if blank effect_id then .error .no_effect_id
  else if blank acknowledged_by then .error .no_actor
  else match s.receipts.get? effect_id with
  | some stored =>
    if stored.episode_id ≠ episode_id || stored.mode ≠ mode
        || stored.acknowledged_by ≠ acknowledged_by then .error .other_command
    else .ok (stored, s)
  | none => match s.store.load_auto_research_episode episode_id with
    | none => .error .no_episode
    | some _ => do
      let a : Acknowledgment := { acknowledged_at := now, acknowledged_by := acknowledged_by }
      let pending := s.inbox_rows episode_id mode limit
      let notices ← bounded_auto_research_inbox_snapshot float_repr pending mode a
        (s.inbox_clear_fits float_repr episode_id mode a pending)
      let notice_ids := notices.map LifecycleNotice.notice_id
      let receipt : InboxReceipt :=
        { effect_id, episode_id, mode, notice_ids,
          notices := if mode = .harvest then notices else [], acknowledged_by,
          created_at := now }
      return (receipt, { s.acknowledge_lifecycle_rows notice_ids a with
        receipts := s.receipts.put (stored_receipt receipt) })

end InboxStore

/-! ### Runs -/

/-- The operations on the notices of the Auto-research episodes. The episodes and the mail change
    meanwhile as they like. -/
inductive InboxOp
  | record_auto_research_lifecycle_notice (record : LifecycleNotice)
  | create_auto_research_lifecycle_wake_task (t : AgentTaskRecord)
      (lifecycle_notice_ids message_ids : List String) (bound : Bool)
  | claim_auto_research_lifecycle_notices (episode_id operation_id : String) (limit now : Int)
  | process_auto_research_lifecycle_inbox (episode_id effect_id : String) (mode : InboxMode)
      (acknowledged_by : String) (limit now : Int)
  | episodes (op : EpisodeOp)
  | mail (messages : Table AutoResearchMessage)

namespace InboxStore

variable (float_repr : Rat → String) (s : InboxStore)

def exec : InboxOp → Option InboxStore
  | .record_auto_research_lifecycle_notice record =>
    (s.insert_auto_research_lifecycle_notice float_repr record).map Prod.snd
  | .create_auto_research_lifecycle_wake_task t lifecycle_notice_ids message_ids bound =>
    s.create_auto_research_lifecycle_wake_task t lifecycle_notice_ids message_ids bound
  | .claim_auto_research_lifecycle_notices episode_id operation_id limit now =>
    some (s.claim_auto_research_lifecycle_notices episode_id operation_id limit now)
  | .process_auto_research_lifecycle_inbox episode_id effect_id mode acknowledged_by limit now =>
    (s.process_auto_research_lifecycle_inbox float_repr episode_id effect_id mode acknowledged_by
      limit now).toOption.map Prod.snd
  | .episodes op => (s.store.exec op).map fun store => { s with store := store }
  | .mail messages => some { s with messages := messages }

/-- One transaction; an operation that fails changes nothing. -/
def apply (op : InboxOp) : InboxStore := (s.exec float_repr op).getD s

def run (ops : List InboxOp) : InboxStore := Lib.run (apply float_repr) s ops

end InboxStore

end ResearchGraph
