import ResearchGraph.Store.Recoveries
import Mathlib.Logic.Relation

/-! # The tasks of an allocation

    The first task of an allocation was paid for, and every other one recovers
    a task that nothing else recovers.  So the tasks of an allocation form one
    line, and only its last task is not recovered.
-/

namespace ResearchGraph

open Lib

namespace EpisodeStore

variable {s s' : EpisodeStore} {parent child : String}

/-! ### What a write does to the seats -/

/-- Tasks keep what they were inserted with, and their seats. -/
structure Extends (s s' : EpisodeStore) : Prop where
  tasks : ∀ id t, s.tasks.get? id = some t → ∃ status, s'.tasks.get? id = some { t with status }
  seats : ∀ id i, s.auto_research_invocations.get? id = some i →
    s'.auto_research_invocations.get? id = some i

theorem put_seat_keeps {rows : Table AutoResearchInvocationRecord}
    {i j : AutoResearchInvocationRecord} {id : String} (hfresh : rows.get? i.operation_id = none)
    (h : rows.get? id = some j) : (rows.put i).get? id = some j := by
  rw [Table.get?_put_ne]
  · exact h
  · intro hid
    rw [hid] at h
    change rows.get? i.operation_id = some j at h
    rw [hfresh] at h
    cases h

/-- A new task takes a seat. -/
structure TakesSeat (s s' : EpisodeStore) (t : AgentTaskRecord) (i : AutoResearchInvocationRecord) :
    Prop where
  row : i.operation_id = t.operation_id
  fresh : s.auto_research_invocations.get? t.operation_id = none
  tasks : s'.tasks = s.tasks.put t
  seats : s'.auto_research_invocations = s.auto_research_invocations.put i

/-- What an operation does to the seats: nothing, or one new task takes one, in an allocation of
    its own unless it was created as a recovery. -/
inductive SeatStep (s s' : EpisodeStore) : EpisodeOp → Prop
  | same {op : EpisodeOp} (hrows : s'.auto_research_invocations = s.auto_research_invocations) :
    SeatStep s s' op
  | founded {op : EpisodeOp} {t : AgentTaskRecord} {i : AutoResearchInvocationRecord}
      (h : TakesSeat s s' t i) (hown : i.allocation_operation_id = t.operation_id) :
    SeatStep s s' op
  | recovery {t : AgentTaskRecord} {bound : Bool} {i : AutoResearchInvocationRecord}
      (h : TakesSeat s s' t i) : SeatStep s s' (.create_auto_research_recovery_task t bound)

theorem exec_seat_step {op : EpisodeOp} (h : s.exec op = some s') : SeatStep s s' op := by
  by_cases hop : seats op = false
  · exact .same (exec_seats hop s' h)
  cases op with
  | create_auto_research_episode_with_root_task e t activate bound =>
    obtain ⟨-, -, -, -, -, -, s₁, s₂, seat, h₁, -, h₂, h⟩ :=
      create_auto_research_episode_with_root_task_eq h
    obtain ⟨-, -, rfl⟩ := insert_episode_eq h₁
    obtain ⟨-, -, -, -, -, rfl⟩ := spend_eq h₂
    obtain ⟨hfresh, rfl⟩ := insert_auto_research_invocation_eq h
    exact .founded (t := t) ⟨rfl, hfresh, rfl, rfl⟩ rfl
  | create_auto_research_agent_task t role bound claimed =>
    rcases create_auto_research_agent_task_eq h with rfl | ⟨e, s₁, seat, -, -, -, -, -, -, -, h₁, h⟩
    · exact .same rfl
    · obtain ⟨-, -, -, -, -, rfl⟩ := spend_eq h₁
      obtain ⟨hfresh, rfl⟩ := insert_auto_research_invocation_eq h
      exact .founded (t := t) ⟨rfl, hfresh, rfl, rfl⟩ rfl
  | create_auto_research_recovery_task t bound =>
    obtain ⟨e, p, s₁, seat, parent_id, -, -, -, -, -, -, -, -, -, -, h₁, h⟩ :=
      create_auto_research_recovery_task_eq h
    obtain ⟨-, -, -, -, rfl⟩ := insert_agent_task_eq h₁
    obtain ⟨hfresh, rfl⟩ := insert_auto_research_invocation_eq h
    exact .recovery ⟨rfl, hfresh, rfl, rfl⟩
  | _ => exact absurd rfl hop

theorem TakesSeat.keeps {t : AgentTaskRecord} {i j : AutoResearchInvocationRecord} {id : String}
    (h : TakesSeat s s' t i) (hj : s.auto_research_invocations.get? id = some j) :
    s'.auto_research_invocations.get? id = some j := by
  rw [h.seats]
  refine put_seat_keeps ?_ hj
  rw [h.row]
  exact h.fresh

theorem exec_extends {op : EpisodeOp} (h : s.exec op = some s') : Extends s s' where
  tasks := fun _ _ ht => (exec_task_step h).1.get?_of_get? ht
  seats := by
    intro id i hi
    cases exec_seat_step h with
    | same hrows => exact hrows ▸ hi
    | founded hnew => exact hnew.keeps hi
    | recovery hnew => exact hnew.keeps hi

/-! ### Recoveries -/

/-- A task recovers its parent, within the parent's allocation. -/
structure Kin (s : EpisodeStore) (parent child : String) (p c : AgentTaskRecord)
    (i j : AutoResearchInvocationRecord) : Prop where
  parent_task : s.tasks.get? parent = some p
  child_task : s.tasks.get? child = some c
  parent_seat : s.auto_research_invocations.get? parent = some i
  child_seat : s.auto_research_invocations.get? child = some j
  continues : c.parent_operation_id = some parent
  episode : c.episode_id = p.episode_id
  attempt : c.attempt = p.attempt + 1
  actor : j.actor_operation_id = i.actor_operation_id
  allocation : j.allocation_operation_id = i.allocation_operation_id
  apart : child ≠ j.allocation_operation_id

def RecoveredBy (s : EpisodeStore) (parent child : String) : Prop :=
  ∃ p c i j, Kin s parent child p c i j

/-- `RecoveredBy`, computed. -/
def recovered_by (s : EpisodeStore) (parent child : String) : Bool :=
  (s.tasks.get? parent).any fun p => (s.tasks.get? child).any fun c =>
    (s.auto_research_invocations.get? parent).any fun i =>
      (s.auto_research_invocations.get? child).any fun j =>
        decide (c.parent_operation_id = some parent) && decide (c.episode_id = p.episode_id)
          && decide (c.attempt = p.attempt + 1)
          && decide (j.actor_operation_id = i.actor_operation_id)
          && decide (j.allocation_operation_id = i.allocation_operation_id)
          && decide (child ≠ j.allocation_operation_id)

theorem recovered_by_iff : s.recovered_by parent child = true ↔ s.RecoveredBy parent child := by
  simp only [recovered_by, Option.any_eq_true, Bool.and_eq_true, decide_eq_true_eq]
  constructor
  · rintro ⟨p, hp, c, hc, i, hi, j, hj, ⟨⟨⟨⟨hparent, hepisode⟩, hattempt⟩, hactor⟩, hallocation⟩,
      hapart⟩
    exact ⟨p, c, i, j, hp, hc, hi, hj, hparent, hepisode, hattempt, hactor, hallocation, hapart⟩
  · rintro ⟨p, c, i, j, h⟩
    exact ⟨p, h.parent_task, c, h.child_task, i, h.parent_seat, j, h.child_seat,
      ⟨⟨⟨⟨h.continues, h.episode⟩, h.attempt⟩, h.actor⟩, h.allocation⟩, h.apart⟩

/-- Nothing recovers the task. -/
def Last (s : EpisodeStore) (operation_id : String) : Prop :=
  ∀ child, ¬ s.RecoveredBy operation_id child

theorem RecoveredBy.extends (h : s.RecoveredBy parent child) (hext : Extends s s') :
    s'.RecoveredBy parent child := by
  obtain ⟨p, c, i, j, hkin⟩ := h
  obtain ⟨status, hp⟩ := hext.tasks _ _ hkin.parent_task
  obtain ⟨status', hc⟩ := hext.tasks _ _ hkin.child_task
  exact ⟨_, _, i, j, hp, hc, hext.seats _ _ hkin.parent_seat, hext.seats _ _ hkin.child_seat,
    hkin.continues, hkin.episode, hkin.attempt, hkin.actor, hkin.allocation, hkin.apart⟩

theorem line_extends {a b : String} (h : Relation.ReflTransGen s.RecoveredBy a b)
    (hext : Extends s s') : Relation.ReflTransGen s'.RecoveredBy a b := by
  induction h with
  | refl => exact .refl
  | tail _ hrec ih => exact ih.tail (hrec.extends hext)

/-- The tasks of an allocation form one line that starts at the task that was paid for. -/
structure Lineage (s : EpisodeStore) : Prop where
  stored : ∀ id i, s.auto_research_invocations.get? id = some i → ∃ t, s.tasks.get? id = some t
  single : Relator.RightUnique s.RecoveredBy
  rooted : ∀ id i, s.auto_research_invocations.get? id = some i →
    Relation.ReflTransGen s.RecoveredBy i.allocation_operation_id id

/-- An allocation has one last task. -/
theorem Lineage.last_unique (h : Lineage s) {id id' : String} {i j : AutoResearchInvocationRecord}
    (hi : s.auto_research_invocations.get? id = some i)
    (hj : s.auto_research_invocations.get? id' = some j)
    (hsame : i.allocation_operation_id = j.allocation_operation_id) (hlast : s.Last id)
    (hlast' : s.Last id') : id = id' := by
  have hstays {a b : String} (ha : s.Last a) (hab : Relation.ReflTransGen s.RecoveredBy a b) :
      a = b := by
    rcases Relation.ReflTransGen.cases_head hab with heq | ⟨c, hc, -⟩
    · exact heq
    · exact absurd hc (ha c)
  have hroot := h.rooted id' j hj
  rw [← hsame] at hroot
  rcases Relation.ReflTransGen.total_of_right_unique h.single
    (h.rooted id i hi) hroot with hab | hba
  · exact hstays hlast hab
  · exact (hstays hlast' hba).symm

/-! ### Every operation keeps the line -/

/-- A task that was recovered is not recovered again. -/
theorem recovery_parent_last {t : AgentTaskRecord} {bound : Bool} {parent : String}
    (h : s.create_auto_research_recovery_task t bound = some s')
    (hparent : t.parent_operation_id = some parent) : s.Last parent := by
  rintro child ⟨p, c, i, j, hkin⟩
  simp only [create_auto_research_recovery_task, Option.bind_eq_some_iff,
    Option.ite_none_left_eq_some, Bool.or_eq_true, Bool.not_eq_eq_eq_not, Bool.not_true, not_or,
    Bool.not_eq_false, decide_eq_true_eq, ne_eq, Decidable.not_not, Bool.not_eq_true] at h
  obtain ⟨e, -, p', ⟨id, hid, hp⟩, ⟨⟨⟨-, -⟩, hattempt⟩, -⟩, -, -, -, hfree, -⟩ := h
  rw [hparent] at hid
  cases hid
  obtain ⟨hget, hepisode, -⟩ := actor_task_eq hp
  rw [hkin.parent_task] at hget
  cases hget
  rw [List.any_eq_false] at hfree
  have hkey : c.operation_id = child := Table.key_of_get? hkin.child_task
  have hparent_key : p'.1.operation_id = parent := Table.key_of_get? hkin.parent_task
  refine hfree c (Table.mem_items_iff.mpr ?_) ?_
  · rw [show (Keyed.key c : String) = child from hkey]
    exact hkin.child_task
  · simp only [Bool.and_eq_true, decide_eq_true_eq]
    refine ⟨⟨⟨?_, ?_⟩, ?_⟩, ?_⟩
    · rw [hparent_key]
      exact hkin.continues
    · rw [hkin.episode]
      exact hepisode
    · rw [hkin.attempt]
      exact hattempt.symm
    · rw [Table.contains, hkey, hkin.child_seat]
      rfl

/-- The task that was paid for has its seat. -/
theorem Lineage.root_seated (h : Lineage s) {id : String} {i : AutoResearchInvocationRecord}
    (hi : s.auto_research_invocations.get? id = some i) :
    ∃ j, s.auto_research_invocations.get? i.allocation_operation_id = some j := by
  rcases Relation.ReflTransGen.cases_head (h.rooted id i hi) with heq | ⟨c, ⟨p, c', j, k, hkin⟩, -⟩
  · exact ⟨i, by rw [heq]; exact hi⟩
  · exact ⟨j, hkin.parent_seat⟩

/-- A recovery takes a seat in the allocation of its parent. -/
theorem recovery_task_eq {t : AgentTaskRecord} {bound : Bool} (hline : Lineage s)
    (h : s.create_auto_research_recovery_task t bound = some s') :
    ∃ parent i j, t.parent_operation_id = some parent ∧ TakesSeat s s' t j ∧
      s.auto_research_invocations.get? parent = some i ∧
      j.allocation_operation_id = i.allocation_operation_id ∧
      s'.RecoveredBy parent t.operation_id := by
  obtain ⟨e, p, s₁, seat, parent, -, -, hepisode, hparent, hp, -, -, hattempt, -, hseat, h₁, h⟩ :=
    create_auto_research_recovery_task_eq h
  obtain ⟨hget, hpe, hrow⟩ := actor_task_eq hp
  obtain ⟨-, hbound⟩ := bind_auto_research_actor_eq hseat
  obtain ⟨hnew, -, -, -, rfl⟩ := insert_agent_task_eq h₁
  obtain ⟨hfresh, rfl⟩ := insert_auto_research_invocation_eq h
  -- the task asks for its parent's role, so it gets its parent's actor
  have hactor : seat.1 = p.2.actor_operation_id := by
    rcases hbound with hnone | ⟨id, q, hid, hq, hrole⟩
    · rw [hparent] at hnone
      cases hnone
    · rw [hparent] at hid
      cases hid
      rw [hp] at hq
      cases hq
      rcases hrole with hrole | hactor
      · exact absurd rfl hrole
      · exact hactor.symm
  have hne : parent ≠ t.operation_id := by
    intro heq
    rw [heq, hnew] at hget
    cases hget
  -- a root is seated from the start, and this task is new
  have hapart : t.operation_id ≠ p.2.allocation_operation_id := by
    intro heq
    obtain ⟨j, hj⟩ := hline.root_seated hrow
    obtain ⟨t', ht'⟩ := hline.stored _ _ hj
    rw [← heq, hnew] at ht'
    cases ht'
  refine ⟨parent, p.2, _, hparent, ⟨rfl, hfresh, rfl, rfl⟩, hrow, rfl, ?_⟩
  refine ⟨p.1, t, p.2, actor_row e t p.2.role seat p.2.allocation_operation_id, ?_, ?_, ?_, ?_,
    hparent, ?_, hattempt, hactor, rfl, hapart⟩
  · rw [Table.get?_put_ne]
    · exact hget
    · exact hne
  · exact Table.get?_put_self s.tasks t
  · exact put_seat_keeps hfresh hrow
  · exact Table.get?_put_self _ _
  · rw [hepisode, hpe]

/-- The parts of a recovery that were stored before show that it is not a new one. -/
theorem RecoveredBy.before (h : s'.RecoveredBy parent child) (hext : Extends s s')
    (hstored : ∀ id i, s.auto_research_invocations.get? id = some i → ∃ t, s.tasks.get? id = some t)
    {i j : AutoResearchInvocationRecord} (hi : s.auto_research_invocations.get? parent = some i)
    (hj : s.auto_research_invocations.get? child = some j) : s.RecoveredBy parent child := by
  obtain ⟨p', c', i', j', hkin⟩ := h
  obtain ⟨p, hp⟩ := hstored _ _ hi
  obtain ⟨c, hc⟩ := hstored _ _ hj
  obtain ⟨status, hp'⟩ := hext.tasks _ _ hp
  obtain ⟨status', hc'⟩ := hext.tasks _ _ hc
  obtain rfl := Option.some.inj (hp'.symm.trans hkin.parent_task)
  obtain rfl := Option.some.inj (hc'.symm.trans hkin.child_task)
  obtain rfl := Option.some.inj ((hext.seats _ _ hi).symm.trans hkin.parent_seat)
  obtain rfl := Option.some.inj ((hext.seats _ _ hj).symm.trans hkin.child_seat)
  exact ⟨p, c, i, j, hp, hc, hi, hj, hkin.continues, hkin.episode, hkin.attempt, hkin.actor,
    hkin.allocation, hkin.apart⟩

theorem RecoveredBy.seated (h : s.RecoveredBy parent child) :
    ∃ i j, s.auto_research_invocations.get? parent = some i ∧
      s.auto_research_invocations.get? child = some j ∧
      j.allocation_operation_id = i.allocation_operation_id := by
  obtain ⟨p, c, i, j, hkin⟩ := h
  exact ⟨i, j, hkin.parent_seat, hkin.child_seat, hkin.allocation⟩

theorem RecoveredBy.irrefl {id : String} : ¬ s.RecoveredBy id id := by
  rintro ⟨p, c, i, j, hkin⟩
  obtain rfl := Option.some.inj (hkin.parent_task.symm.trans hkin.child_task)
  exact absurd hkin.attempt (by omega)

theorem RecoveredBy.parent_eq {parent' : String} (h : s.RecoveredBy parent child)
    (h' : s.RecoveredBy parent' child) : parent = parent' := by
  obtain ⟨p, c, i, j, hkin⟩ := h
  obtain ⟨p', c', i', j', hkin'⟩ := h'
  obtain rfl := Option.some.inj (hkin.child_task.symm.trans hkin'.child_task)
  exact Option.some.inj (hkin.continues.symm.trans hkin'.continues)

/-- After a task took a seat: what was there before, or the task itself. -/
theorem TakesSeat.seat {t : AgentTaskRecord} {i j : AutoResearchInvocationRecord} {id : String}
    (h : TakesSeat s s' t i) (hj : s'.auto_research_invocations.get? id = some j) :
    (id = t.operation_id ∧ j = i) ∨ s.auto_research_invocations.get? id = some j := by
  rw [h.seats] at hj
  by_cases hid : id = t.operation_id
  · left
    rw [hid, ← h.row] at hj
    exact ⟨hid, Option.some.inj (hj.symm.trans (Table.get?_put_self _ i))⟩
  · right
    rw [← hj]
    refine (Table.get?_put_ne _ ?_).symm
    change id ≠ i.operation_id
    rw [h.row]
    exact hid

/-- A task that takes a seat is recovered by nothing yet. -/
theorem Lineage.new_last (h : Lineage s) {t : AgentTaskRecord} {i : AutoResearchInvocationRecord}
    (hnew : TakesSeat s s' t i) (hext : Extends s s') : s'.Last t.operation_id := by
  intro child hchild
  obtain ⟨-, j, -, hj, -⟩ := hchild.seated
  rcases hnew.seat hj with ⟨rfl, -⟩ | hj
  · exact RecoveredBy.irrefl hchild
  · -- the child was stored, so its parent was
    rcases Relation.ReflTransGen.cases_tail (h.rooted child j hj) with heq | ⟨parent, hparent, hrec⟩
    · obtain ⟨p, c, i', j', hkin⟩ := hchild
      obtain rfl := Option.some.inj ((hext.seats _ _ hj).symm.trans hkin.child_seat)
      exact hkin.apart heq
    · obtain rfl := (hrec.extends hext).parent_eq hchild
      obtain ⟨k, -, hk, -, -⟩ := hrec.seated
      rw [hnew.fresh] at hk
      cases hk

/-- A recovery is an earlier one, or one of the task that took its seat. -/
theorem Lineage.recovered_cases (h : Lineage s) {t : AgentTaskRecord}
    {i : AutoResearchInvocationRecord} (hnew : TakesSeat s s' t i) (hext : Extends s s')
    (hrec : s'.RecoveredBy parent child) : s.RecoveredBy parent child ∨ child = t.operation_id := by
  obtain ⟨k, j, hk, hj, -⟩ := hrec.seated
  rcases hnew.seat hj with ⟨hchild, -⟩ | hj
  · exact .inr hchild
  rcases hnew.seat hk with ⟨rfl, -⟩ | hk
  · exact absurd hrec (h.new_last hnew hext child)
  · exact .inl (hrec.before hext h.stored hk hj)

/-- The line after a task took its seat: a new line, or the next task of one. -/
theorem Lineage.takes_seat (h : Lineage s) {t : AgentTaskRecord} {i : AutoResearchInvocationRecord}
    (hnew : TakesSeat s s' t i) (hext : Extends s s')
    (hplace : i.allocation_operation_id = t.operation_id ∨
      ∃ parent j, s.auto_research_invocations.get? parent = some j ∧
        i.allocation_operation_id = j.allocation_operation_id ∧ s.Last parent ∧
        s'.RecoveredBy parent t.operation_id) : Lineage s' where
  stored := by
    intro id j hj
    rcases hnew.seat hj with ⟨rfl, -⟩ | hj
    · rw [hnew.tasks]
      exact ⟨t, Table.get?_put_self s.tasks t⟩
    · obtain ⟨u, hu⟩ := h.stored id j hj
      obtain ⟨status, hu'⟩ := hext.tasks id u hu
      exact ⟨_, hu'⟩
  single := by
    -- the parent of the new task had no child yet
    have hfree {parent child : String} (hold : s.RecoveredBy parent child)
        (hrec : s'.RecoveredBy parent t.operation_id) : False := by
      rcases hplace with hown | ⟨parent', j, -, -, hlast, hrec'⟩
      · obtain ⟨p, c, k, l, hkin⟩ := hrec
        rcases hnew.seat hkin.child_seat with ⟨-, rfl⟩ | hl
        · exact hkin.apart hown.symm
        · rw [hnew.fresh] at hl
          cases hl
      · obtain rfl := hrec.parent_eq hrec'
        exact hlast child hold
    intro parent child child' hrec hrec'
    rcases h.recovered_cases hnew hext hrec with hold | hchild
    · rcases h.recovered_cases hnew hext hrec' with hold' | hchild'
      · exact h.single hold hold'
      · rw [hchild'] at hrec'
        exact (hfree hold hrec').elim
    · rcases h.recovered_cases hnew hext hrec' with hold' | hchild'
      · rw [hchild] at hrec
        exact (hfree hold' hrec).elim
      · rw [hchild, hchild']
  rooted := by
    intro id j hj
    rcases hnew.seat hj with ⟨rfl, rfl⟩ | hj
    · rcases hplace with hown | ⟨parent, k, hk, halloc, -, hrec⟩
      · rw [hown]
      · rw [halloc]
        exact (line_extends (h.rooted parent k hk) hext).tail hrec
    · exact line_extends (h.rooted id j hj) hext

theorem Lineage.step (h : Lineage s) {op : EpisodeOp} (hexec : s.exec op = some s') :
    Lineage s' := by
  have hext := exec_extends hexec
  cases exec_seat_step hexec with
  | same hrows =>
    have hback {parent child : String} (hrec : s'.RecoveredBy parent child) :
        s.RecoveredBy parent child := by
      obtain ⟨i, j, hi, hj, -⟩ := hrec.seated
      rw [hrows] at hi hj
      exact hrec.before hext h.stored hi hj
    refine ⟨?_, ?_, ?_⟩
    · intro id i hi
      rw [hrows] at hi
      obtain ⟨t, ht⟩ := h.stored id i hi
      obtain ⟨status, ht'⟩ := hext.tasks id t ht
      exact ⟨_, ht'⟩
    · intro parent child child' hrec hrec'
      exact h.single (hback hrec) (hback hrec')
    · intro id i hi
      rw [hrows] at hi
      exact line_extends (h.rooted id i hi) hext
  | founded hnew hown => exact h.takes_seat hnew hext (.inl hown)
  | recovery =>
    obtain ⟨parent, i, j, hparent, hnew, hi, halloc, hrec⟩ := recovery_task_eq h hexec
    exact h.takes_seat hnew hext
      (.inr ⟨parent, i, hi, halloc, recovery_parent_last hexec hparent, hrec⟩)

/-- A recovery that an operation adds is the one it creates, of a task that nothing recovered. -/
theorem Lineage.recovered_step (h : Lineage s) {op : EpisodeOp} (hexec : s.exec op = some s')
    (hrec : s'.RecoveredBy parent child) :
    s.RecoveredBy parent child ∨ ∃ t bound, op = .create_auto_research_recovery_task t bound ∧
      t.parent_operation_id = some parent ∧ t.operation_id = child ∧ s'.Last child := by
  have hext := exec_extends hexec
  cases exec_seat_step hexec with
  | same hrows =>
    obtain ⟨i, j, hi, hj, -⟩ := hrec.seated
    rw [hrows] at hi hj
    exact .inl (hrec.before hext h.stored hi hj)
  | founded hnew hown =>
    rcases h.recovered_cases hnew hext hrec with hold | rfl
    · exact .inl hold
    · obtain ⟨p, c, i, j, hkin⟩ := hrec
      rcases hnew.seat hkin.child_seat with ⟨-, rfl⟩ | hj
      · exact absurd hown.symm hkin.apart
      · rw [hnew.fresh] at hj
        cases hj
  | @recovery t bound i hnew =>
    rcases h.recovered_cases hnew hext hrec with hold | rfl
    · exact .inl hold
    · obtain ⟨parent', -, -, hparent, -, -, -, hrec'⟩ := recovery_task_eq h hexec
      obtain rfl := hrec'.parent_eq hrec
      exact .inr ⟨t, bound, rfl, hparent, rfl, h.new_last hnew hext⟩

theorem lineage_empty : Lineage {} where
  stored := by
    intro id i hi
    cases hi
  single := by
    rintro parent child child' ⟨p, c, i, j, hkin⟩
    cases hkin.parent_task
  rooted := by
    intro id i hi
    cases hi

end EpisodeStore

/-! ### Recoveries and allocations -/

theorem allocation_of_recovery {i j : AutoResearchInvocationRecord}
    (h : recovery_id_of i = recovery_id_of j) :
    i.allocation_operation_id = j.allocation_operation_id :=
  (String.append_right_inj "task:").mp h

/-- A task that is recovered has a child. -/
theorem recovery_child_found {rows : RecoveryStore} {parent child : String}
    (h : rows.store.RecoveredBy parent child) :
    rows.auto_research_task_recovery_child parent ≠ none := by
  obtain ⟨p, c, i, j, hkin⟩ := h
  have hkey : c.operation_id = child := Table.key_of_get? hkin.child_task
  have hparent_key : p.operation_id = parent := Table.key_of_get? hkin.parent_task
  have hmem : c ∈ rows.store.tasks.items := by
    refine Table.mem_items_iff.mpr ?_
    rw [show (Keyed.key c : String) = child from hkey]
    exact hkin.child_task
  simp only [RecoveryStore.auto_research_task_recovery_child, hkin.parent_task, hkin.parent_seat,
    Option.bind_some]
  intro hnone
  refine absurd ?_ (List.find?_eq_none.mp hnone c hmem)
  simp only [Bool.and_eq_true, decide_eq_true_eq, hkey, hkin.child_seat, Option.any_some]
  rw [hparent_key]
  exact ⟨⟨⟨hkin.continues, hkin.episode⟩, hkin.attempt⟩, hkin.actor⟩

end ResearchGraph
