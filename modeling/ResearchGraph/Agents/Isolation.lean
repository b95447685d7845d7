import Mathlib.Data.List.Perm.Basic
import ResearchGraph.Agents.WriteScope

/-! # What a write scope admits

    Resolving a request is characterised by what each look at the file system
    answers, without any order among the lists of the request. From that
    follow what a launch may write, that two projects of one host have no
    repository path in common, and that the order of the lists is of no
    account.
-/

namespace ResearchGraph

open Lib

variable {sha : ScopePayload → String} {views : ScopeViews} {r : ScopeRequest}
  {scope : ProjectWriteScope}

/-! ### Looks at the file system -/

theorem mapM_total {α β ε : Type} {f : α → Except ε β} {xs : List α} :
    (∃ ys, xs.mapM f = .ok ys) ↔ ∀ x ∈ xs, ∃ y, f x = .ok y := by
  simp only [mapM_eq_ok_iff]
  induction xs with
  | nil => simp
  | cons x xs ih =>
    simp only [List.forall₂_cons_left_iff, List.forall_mem_cons, ← ih]
    constructor
    · rintro ⟨_, y, ys, hy, hys, rfl⟩
      exact ⟨⟨y, hy⟩, ys, hys⟩
    · rintro ⟨⟨y, hy⟩, ys, hys⟩
      exact ⟨_, y, ys, hy, hys, rfl⟩

/-- A loop whose body succeeds on the members of the list just when `P` says so. -/
theorem mapM_ok_of_iff {α β ε : Type} {f : α → Except ε β} {P : α → β → Prop} {xs : List α}
    {ys : List β} (h : ∀ x ∈ xs, ∀ y, f x = .ok y ↔ P x y) :
    xs.mapM f = .ok ys ↔ List.Forall₂ P xs ys := by
  rw [mapM_eq_ok_iff]
  induction xs generalizing ys with
  | nil => simp only [List.forall₂_nil_left_iff]
  | cons x xs ih =>
    obtain ⟨hx, hxs⟩ := List.forall_mem_cons.mp h
    simp only [List.forall₂_cons_left_iff, hx, fun zs => @ih zs hxs]

theorem forall₂_left {α β : Type} {R : α → β → Prop} {xs : List α} {ys : List β}
    (h : List.Forall₂ R xs ys) {x : α} (hx : x ∈ xs) : ∃ y ∈ ys, R x y := by
  induction h with
  | nil => cases hx
  | cons hhead _ ih =>
    rcases List.mem_cons.mp hx with rfl | hx
    · exact ⟨_, List.mem_cons_self, hhead⟩
    · obtain ⟨y, hy, hrel⟩ := ih hx
      exact ⟨y, List.mem_cons_of_mem _ hy, hrel⟩

theorem forall₂_right {α β : Type} {R : α → β → Prop} {xs : List α} {ys : List β}
    (h : List.Forall₂ R xs ys) {y : β} (hy : y ∈ ys) : ∃ x ∈ xs, R x y :=
  forall₂_left h.flip hy

section Looks

variable {view : AccountView} {remote require_writable : Bool} {paths : List String}
  {canonical : List (String × String)} {home raw root : String}

theorem canonical_directories_ok :
    canonical_directories view remote require_writable paths = .ok (canonical, home) ↔
      require_reachable view remote = .ok ()
        ∧ paths.mapM (fun raw =>
            (canonical_directory view remote require_writable raw).map (raw, ·)) = .ok canonical
        ∧ home = view.home.val.str := by
  simp only [canonical_directories, except_bind_ok, except_pure_ok, Prod.mk.injEq]
  constructor
  · intro h
    obtain ⟨⟨⟩, hreach, canonical', h, rfl, rfl⟩ := h
    exact ⟨hreach, h, rfl⟩
  · intro h
    obtain ⟨hreach, h, rfl⟩ := h
    exact ⟨(), hreach, canonical, h, rfl, rfl⟩

theorem lookup_canonical
    (h : paths.mapM (fun raw =>
      (canonical_directory view remote require_writable raw).map (raw, ·)) = .ok canonical) :
    canonical.lookup raw = some root ↔
      raw ∈ paths ∧ canonical_directory view remote require_writable raw = .ok root := by
  rw [mapM_eq_ok_iff] at h
  induction h with
  | nil => simp
  | @cons path entry paths canonical hhead _ ih =>
    obtain ⟨value, hvalue, rfl⟩ := except_map_ok.mp hhead
    rw [List.lookup_cons]
    by_cases hraw : raw = path
    · subst hraw
      simp [hvalue]
    · have hne : (raw == path) = false := by simpa using hraw
      rw [hne]
      simp only [ih, List.mem_cons, hraw, false_or]

theorem canonical_item_ok
    (h : paths.mapM (fun raw =>
      (canonical_directory view remote require_writable raw).map (raw, ·)) = .ok canonical) :
    canonical_item canonical raw = .ok root ↔
      raw ∈ paths ∧ canonical_directory view remote require_writable raw = .ok root := by
  rw [canonical_item, require_ok, lookup_canonical h]

theorem looked_total :
    (∃ canonical, paths.mapM (fun raw =>
        (canonical_directory view remote require_writable raw).map (raw, ·)) = .ok canonical) ↔
      ∀ raw ∈ paths, ∃ root, canonical_directory view remote require_writable raw = .ok root := by
  rw [mapM_total]
  simp only [except_map_ok]
  constructor
  · intro h raw hraw
    obtain ⟨_, root, hroot, _⟩ := h raw hraw
    exact ⟨root, hroot⟩
  · intro h raw hraw
    obtain ⟨root, hroot⟩ := h raw hraw
    exact ⟨_, root, hroot, rfl⟩

/-- A look answers with real paths. -/
theorem canonical_directory_real
    (h : canonical_directory view remote require_writable raw = .ok root) :
    ∃ path : RealPath, root = path.val.str := by
  unfold canonical_directory at h
  dsimp only at h
  split at h
  · cases h
  · split at h
    · cases h
    · split at h <;> cases h
    · next path is_dir writable _ =>
      split at h
      · cases h
      · split at h
        · cases h
        · exact ⟨path, (Except.ok.inj h).symm⟩

theorem ofString_real (h : canonical_directory view remote require_writable raw = .ok root) :
    (PosixPath.ofString root).IsReal := by
  obtain ⟨path, rfl⟩ := canonical_directory_real h
  rw [PosixPath.ofString_str]
  exact path.property

end Looks

/-! ### One repository -/

/-- The eligible `repository` is admitted with `root`. -/
structure Admits (views : ScopeViews) (r : ScopeRequest) (machine : MachineConfig)
    (repository : RepositoryConfig) (root : WritableRepositoryRoot) : Prop where
  named : root.repository_alias = repository.repository_alias ∧ root.machine = repository.machine
  filled : ¬ (repository.repository_alias = "" ∨ repository.machine = "" ∨ root.path = "")
  pointed : ∃ pointer ∈ r.repository_pointers,
    pointer.repository_alias = repository.repository_alias ∧ pointer.machine = repository.machine
      ∧ canonical_directory views.declared r.remote true pointer.path = .ok root.path
  declared : canonical_directory views.declared r.remote true repository.path = .ok root.path
  owned : canonical_directory views.inventory r.remote false repository.path = .ok root.path
  once : ((r.execution_inventory machine).filter
    (·.owner = repository.owner r.project_id)).length = 1
  narrow : reject_broad_repository_root views.temporary root.path views.declared.home.val.str
    (if r.remote then none else r.app_data_dir) = .ok ()
  apart : ∀ owner ∈ r.execution_inventory machine, owner.owner ∉ r.admitted_owners →
    ∀ o, canonical_directory views.inventory r.remote false owner.path = .ok o →
      ¬ paths_overlap repository.path owner.path ∧ ¬ paths_overlap root.path o

/-- The owner of a repository that the inventory names once. -/
theorem owned_item {items : List RegisteredRepositoryRoot} {repository : RepositoryConfig}
    {project_id : String}
    (h : (items.filter (·.owner = repository.owner project_id)).length = 1) :
    ∃ item ∈ items, item.owner = repository.owner project_id ∧ item.path = repository.path := by
  obtain ⟨item, hitem⟩ := List.length_eq_one_iff.mp h
  have hmem : item ∈ items.filter (·.owner = repository.owner project_id) := by
    rw [hitem]
    exact List.mem_singleton_self _
  obtain ⟨hlisted, howner⟩ := List.mem_filter.mp hmem
  have howner : item.owner = repository.owner project_id := by simpa using howner
  -- the path is the last part of the owner
  exact ⟨item, hlisted, howner, congrArg (·.2.2.2) howner⟩

theorem forM_ok_iff {α ε : Type} {f : α → Except ε Unit} {xs : List α} {u : Unit} :
    xs.forM f = .ok u ↔ ∀ x ∈ xs, f x = .ok () := by
  induction xs with
  | nil => simp [pure, Except.pure]
  | cons x xs ih =>
    show (f x >>= fun _ => xs.forM f) = .ok u ↔ _
    rw [except_bind_ok, List.forall_mem_cons, ← ih]
    constructor
    · rintro ⟨⟨⟩, hx, hxs⟩
      exact ⟨hx, hxs⟩
    · rintro ⟨hx, hxs⟩
      exact ⟨(), hx, hxs⟩

theorem reject_owner_ok {repository : RepositoryConfig} {project_id registered_root : String}
    {admitted_owners : List Owner} {canonical_inventory : List (String × String)}
    {owner : RegisteredRepositoryRoot} {u : Unit} :
    reject_owner repository project_id admitted_owners registered_root canonical_inventory owner
        = .ok u ↔
      (owner.owner ∉ admitted_owners → ∃ o, canonical_item canonical_inventory owner.path = .ok o
        ∧ ¬ paths_overlap repository.path owner.path ∧ ¬ paths_overlap registered_root o) := by
  unfold reject_owner
  split
  · next h => simp [h, pure, Except.pure]
  · next h =>
    simp only [except_bind_ok, refuse_ok, not_or, h, not_false_eq_true, true_implies]

theorem add_pointers_ok {pointers : List RepositoryPointer} {t t' : Table RepositoryPointer} :
    pointers.foldlM ScopeRequest.add_pointer t = .ok t' ↔
      (∀ p ∈ pointers, t.get? p.repository_alias = none)
        ∧ (pointers.map RepositoryPointer.repository_alias).Nodup
        ∧ t'.items = t.items ++ pointers := by
  induction pointers generalizing t with
  | nil =>
    rw [foldlM_nil_ok]
    simp only [List.not_mem_nil, false_implies, implies_true, List.map_nil, List.nodup_nil,
      List.append_nil, true_and]
    exact ⟨fun h => by rw [h], fun h => Table.ext h.symm⟩
  | cons p ps ih =>
    rw [foldlM_cons_ok, List.map_cons, List.nodup_cons, List.forall_mem_cons]
    constructor
    · rintro ⟨t₁, hstep, hrest⟩
      unfold ScopeRequest.add_pointer at hstep
      split at hstep
      · cases hstep
      · next hfresh =>
        obtain rfl := Except.ok.inj hstep
        have hnone : t.get? p.repository_alias = none :=
          Table.contains_eq_false_iff.mp (eq_false_of_ne_true hfresh)
        obtain ⟨hps, hnodup, hitems⟩ := ih.mp hrest
        have hother : ∀ q ∈ ps, q.repository_alias ≠ p.repository_alias ∧
            t.get? q.repository_alias = none := by
          intro q hq
          have hput := hps q hq
          rw [Table.get?_put] at hput
          split at hput
          · cases hput
          · next hne => exact ⟨hne, hput⟩
        refine ⟨⟨hnone, fun q hq => (hother q hq).2⟩, ⟨?_, hnodup⟩, ?_⟩
        · intro hmem
          obtain ⟨q, hq, heq⟩ := List.mem_map.mp hmem
          exact (hother q hq).1 heq
        · rw [hitems, Table.items_put_of_fresh t hnone, List.append_assoc]
          rfl
    -- a fresh alias is added, and stays apart from those that follow
    · rintro ⟨⟨hnone, hps⟩, ⟨hnot, hnodup⟩, hitems⟩
      refine ⟨t.put p, ?_, ih.mpr ⟨?_, hnodup, ?_⟩⟩
      · rw [ScopeRequest.add_pointer, if_neg]
        rw [Table.contains_eq_false_iff.mpr hnone]
        exact Bool.false_ne_true
      · intro q hq
        rw [Table.get?_put, if_neg, hps q hq]
        intro heq
        exact hnot (List.mem_map.mpr ⟨q, hq, heq⟩)
      · rw [hitems, Table.items_put_of_fresh t hnone, List.append_assoc]
        rfl

/-- The pointers of a request in a table: it holds exactly them. -/
theorem pointer_table {pointers : List RepositoryPointer} {t : Table RepositoryPointer} :
    pointers.foldlM ScopeRequest.add_pointer Table.empty = .ok t ↔
      (pointers.map RepositoryPointer.repository_alias).Nodup ∧ t.items = pointers := by
  rw [add_pointers_ok]
  simp only [Table.get?_empty, implies_true, true_and]
  rfl

theorem get?_pointer {t : Table RepositoryPointer} (ht : t.items = r.repository_pointers)
    {name : String} {pointer : RepositoryPointer} :
    t.get? name = some pointer ↔
      pointer ∈ r.repository_pointers ∧ pointer.repository_alias = name := by
  rw [Table.get?_eq_some_iff, ht]
  rfl

section

variable {machine : MachineConfig} {repository : RepositoryConfig}
  {pointers : Table RepositoryPointer} {canonical canonical_inventory : List (String × String)}
  {declared inventory_paths : List String} {root : WritableRepositoryRoot}

theorem admit_repository_ok (hpointers : pointers.items = r.repository_pointers)
    (hcanonical : declared.mapM (fun raw =>
      (canonical_directory views.declared r.remote true raw).map (raw, ·)) = .ok canonical)
    (hinventory : ((r.execution_inventory machine).map (·.path)).mapM (fun raw =>
      (canonical_directory views.inventory r.remote false raw).map (raw, ·))
        = .ok canonical_inventory)
    (hdeclared : ∀ pointer ∈ r.repository_pointers,
      pointer.repository_alias = repository.repository_alias →
        pointer.machine = repository.machine ∧ pointer.path ∈ declared)
    (hpath : repository.path ∈ declared) :
    r.admit_repository views (r.execution_inventory machine) pointers canonical
        views.declared.home.val.str canonical_inventory repository = .ok root ↔
      Admits views r machine repository root := by
  simp only [ScopeRequest.admit_repository, except_bind_ok, require_ok, refuse_ok, except_pure_ok,
    get?_pointer hpointers, canonical_item_ok hcanonical, canonical_item_ok hinventory,
    exists_const, not_not, reject_repository_ownership_overlap, forM_ok_iff, reject_owner_ok]
  have hseen : ∀ owner ∈ r.execution_inventory machine,
      owner.path ∈ (r.execution_inventory machine).map (·.path) := fun owner howner =>
    List.mem_map_of_mem howner
  constructor
  · intro h
    obtain ⟨pointer, ⟨hpointer, halias⟩, registered, ⟨-, hregistered⟩, pointed,
      ⟨-, hpointed⟩, rfl, honce, owned, ⟨-, howned⟩, rfl, ⟨⟩, hnarrow, hapart, hfilled, rfl⟩ := h
    refine ⟨⟨rfl, rfl⟩, hfilled,
      ⟨pointer, hpointer, halias, (hdeclared pointer hpointer halias).1, hpointed⟩, hregistered,
      howned, honce, hnarrow, ?_⟩
    intro owner howner hother o ho
    obtain ⟨o', ⟨-, ho'⟩, hoverlap⟩ := hapart owner howner hother
    obtain rfl : o' = o := Except.ok.inj (ho'.symm.trans ho)
    exact hoverlap
  · intro h
    obtain ⟨pointer, hpointer, halias, -, hpointed⟩ := h.pointed
    -- the one owner of the repository stands in the inventory under its path
    obtain ⟨owner, hinv, -, hownerpath⟩ := owned_item h.once
    refine ⟨pointer, ⟨hpointer, halias⟩, root.path, ⟨hpath, h.declared⟩, root.path,
      ⟨(hdeclared pointer hpointer halias).2, hpointed⟩, rfl, h.once, root.path,
      ⟨hownerpath ▸ hseen owner hinv, h.owned⟩, rfl, (), h.narrow, ?_, h.filled, ?_⟩
    · intro other hother hforeign
      obtain ⟨o, ho⟩ := looked_total.mp ⟨canonical_inventory, hinventory⟩ other.path
        (hseen other hother)
      exact ⟨o, ⟨hseen other hother, ho⟩, h.apart other hother hforeign o ho⟩
    · obtain ⟨hname, hmachine⟩ := h.named
      cases root
      simp_all

end

/-! ### One request -/

/-- The request resolves to `payload`, before it is brought into canonical order. -/
structure Resolves (views : ScopeViews) (r : ScopeRequest) (machine : MachineConfig)
    (payload : ScopePayload) : Prop where
  required : r.require_machine = .ok machine
  aliases : r.require_aliases = .ok ()
  pointers : (r.repository_pointers.map RepositoryPointer.repository_alias).Nodup
  reached : require_reachable views.declared r.remote = .ok ()
  stage : canonical_directory views.declared r.remote true r.stage_root = .ok payload.stage_root
  workspace : canonical_directory views.declared r.remote true r.workspace_root
    = .ok payload.workspace_root
  staged : r.require_stage payload.stage_root payload.workspace_root = .ok ()
  inventory_reached : require_reachable views.inventory r.remote = .ok ()
  inventory : ∀ item ∈ r.execution_inventory machine,
    ∃ o, canonical_directory views.inventory r.remote false item.path = .ok o
  repositories : List.Forall₂ (Admits views r machine) r.eligible payload.repositories
  state : ∃ state, r.state_protection views.state = .ok state
    ∧ payload.protected_write_paths = payload.repositories.map (research_path ·.path) ++ state
  request : payload.project_id = r.project_id ∧ payload.execution_machine = r.execution_machine
    ∧ payload.execution_host = machine.host ∧ payload.capability = r.capability

theorem pointer_paths_ok {pointers : Table RepositoryPointer}
    (hpointers : pointers.items = r.repository_pointers) {repository : RepositoryConfig}
    {paths : List String} :
    ScopeRequest.pointer_paths pointers repository = .ok paths ↔
      ∃ pointer ∈ r.repository_pointers, pointer.repository_alias = repository.repository_alias
        ∧ pointer.machine = repository.machine ∧ paths = [repository.path, pointer.path] := by
  simp only [ScopeRequest.pointer_paths, except_bind_ok, require_ok, refuse_ok, except_pure_ok,
    get?_pointer hpointers, exists_const, not_not, and_assoc]

/-- Whatever an eligible repository declares is looked at. -/
theorem mem_declared {pointers : Table RepositoryPointer}
    (hpointers : pointers.items = r.repository_pointers)
    (hnodup : (r.repository_pointers.map RepositoryPointer.repository_alias).Nodup)
    {declared : List (List String)}
    (h : r.eligible.mapM (ScopeRequest.pointer_paths pointers) = .ok declared)
    {repository : RepositoryConfig} (hrepository : repository ∈ r.eligible) :
    repository.path ∈ declared.flatten ∧ ∀ pointer ∈ r.repository_pointers,
      pointer.repository_alias = repository.repository_alias →
        pointer.machine = repository.machine ∧ pointer.path ∈ declared.flatten := by
  obtain ⟨paths, hmem, hlook⟩ := forall₂_left (mapM_eq_ok_iff.mp h) hrepository
  obtain ⟨pointer, hpointer, halias, hmachine, hpaths⟩ := (pointer_paths_ok hpointers).mp hlook
  refine ⟨List.mem_flatten.mpr ⟨_, hmem, ?_⟩, ?_⟩
  · rw [hpaths]
    exact List.mem_cons_self
  · intro other hother hsame
    -- one pointer an alias
    obtain rfl : other = pointer :=
      List.inj_on_of_nodup_map hnodup hother hpointer (hsame.trans halias.symm)
    refine ⟨hmachine, List.mem_flatten.mpr ⟨_, hmem, ?_⟩⟩
    rw [hpaths]
    simp

/-- Nothing else is looked at beside the stage and the workspace. -/
theorem declared_origin {pointers : Table RepositoryPointer}
    (hpointers : pointers.items = r.repository_pointers) {declared : List (List String)}
    (h : r.eligible.mapM (ScopeRequest.pointer_paths pointers) = .ok declared)
    {raw : String} (hraw : raw ∈ declared.flatten) :
    ∃ repository ∈ r.eligible, raw = repository.path ∨ ∃ pointer ∈ r.repository_pointers,
      pointer.repository_alias = repository.repository_alias ∧ raw = pointer.path := by
  obtain ⟨paths, hpaths, hraw⟩ := List.mem_flatten.mp hraw
  obtain ⟨repository, hrepository, hlook⟩ := forall₂_right (mapM_eq_ok_iff.mp h) hpaths
  obtain ⟨pointer, hpointer, halias, -, heq⟩ := (pointer_paths_ok hpointers).mp hlook
  rw [heq] at hraw
  refine ⟨repository, hrepository, ?_⟩
  rcases List.mem_cons.mp hraw with hraw | hraw
  · exact Or.inl hraw
  · exact Or.inr ⟨pointer, hpointer, halias, List.mem_singleton.mp hraw⟩

theorem resolve_ok_iff :
    resolve_project_write_scope sha views r = .ok scope ↔
      ∃ machine payload, Resolves views r machine payload
        ∧ ProjectWriteScope.create sha payload = .ok scope := by
  simp only [resolve_project_write_scope, except_bind_ok, pointer_table, Prod.exists,
    canonical_directories_ok]
  constructor
  · intro h
    obtain ⟨machine, hrequired, ⟨⟩, haliases, pointers, ⟨hnodup, hpointers⟩, declared, hdeclared,
      canonical, home, ⟨hreached, hcanonical, rfl⟩, stage, hstage, workspace, hworkspace, ⟨⟩,
      hstaged, canonical_inventory, _, ⟨hireached, hinventory, -⟩, repositories, hrepositories,
      state, hstate, hcreate⟩ := h
    -- each answer of a look is read back from the list of all looks
    refine ⟨machine, _, ?_, hcreate⟩
    rw [canonical_item_ok hcanonical] at hstage hworkspace
    rw [mapM_ok_of_iff (fun repository hrepository root => ?_)] at hrepositories
    · exact {
        required := hrequired
        aliases := haliases
        pointers := hnodup
        reached := hreached
        stage := hstage.2
        workspace := hworkspace.2
        staged := hstaged
        inventory_reached := hireached
        inventory := fun item hitem => looked_total.mp ⟨_, hinventory⟩ item.path
          (List.mem_map_of_mem hitem)
        repositories := hrepositories
        state := ⟨state, hstate, rfl⟩
        request := ⟨rfl, rfl, rfl, rfl⟩ }
    · obtain ⟨hpath, hpointer⟩ := mem_declared hpointers hnodup hdeclared hrepository
      refine admit_repository_ok hpointers hcanonical hinventory (fun pointer hmem halias => ?_) ?_
      · exact ⟨(hpointer pointer hmem halias).1,
          List.mem_cons_of_mem _ (List.mem_cons_of_mem _ (hpointer pointer hmem halias).2)⟩
      · exact List.mem_cons_of_mem _ (List.mem_cons_of_mem _ hpath)
  · intro h
    obtain ⟨machine, payload, h, hcreate⟩ := h
    -- the table of the pointers exists, then the paths they declare, then what is seen there
    obtain ⟨pointers, hpointers⟩ :
        ∃ t : Table RepositoryPointer, t.items = r.repository_pointers :=
      ⟨⟨r.repository_pointers, h.pointers⟩, rfl⟩
    have hadmits : ∀ repository ∈ r.eligible, ∃ root, Admits views r machine repository root := by
      intro repository hrepository
      obtain ⟨root, -, hroot⟩ := forall₂_left h.repositories hrepository
      exact ⟨root, hroot⟩
    obtain ⟨declared, hdeclared⟩ :
        ∃ declared, r.eligible.mapM (ScopeRequest.pointer_paths pointers) = .ok declared := by
      rw [mapM_total]
      intro repository hrepository
      obtain ⟨root, hroot⟩ := hadmits repository hrepository
      obtain ⟨pointer, hpointer, halias, hmachine, -⟩ := hroot.pointed
      exact ⟨_, (pointer_paths_ok hpointers).mpr ⟨pointer, hpointer, halias, hmachine, rfl⟩⟩
    obtain ⟨canonical, hcanonical⟩ :
        ∃ canonical, (r.stage_root :: r.workspace_root :: declared.flatten).mapM (fun raw =>
          (canonical_directory views.declared r.remote true raw).map (raw, ·)) = .ok canonical := by
      rw [looked_total]
      intro raw hraw
      rcases List.mem_cons.mp hraw with rfl | hraw
      · exact ⟨_, h.stage⟩
      rcases List.mem_cons.mp hraw with rfl | hraw
      · exact ⟨_, h.workspace⟩
      obtain ⟨repository, hrepository, horigin⟩ := declared_origin hpointers hdeclared hraw
      obtain ⟨root, hroot⟩ := hadmits repository hrepository
      rcases horigin with rfl | ⟨pointer, hpointer, halias, rfl⟩
      · exact ⟨_, hroot.declared⟩
      · obtain ⟨pointer', hpointer', halias', -, hpointed⟩ := hroot.pointed
        obtain rfl : pointer' = pointer :=
          List.inj_on_of_nodup_map h.pointers hpointer' hpointer (halias'.trans halias.symm)
        exact ⟨_, hpointed⟩
    obtain ⟨canonical_inventory, hinventory⟩ :
        ∃ canonical_inventory, ((r.execution_inventory machine).map (·.path)).mapM (fun raw =>
          (canonical_directory views.inventory r.remote false raw).map (raw, ·))
            = .ok canonical_inventory := by
      rw [looked_total]
      intro raw hraw
      obtain ⟨item, hitem, rfl⟩ := List.mem_map.mp hraw
      exact h.inventory item hitem
    obtain ⟨state, hstate, hprotected⟩ := h.state
    obtain ⟨hproject, hmachine, hhost, hcapability⟩ := h.request
    refine ⟨machine, h.required, (), h.aliases, pointers, ⟨h.pointers, hpointers⟩, declared,
      hdeclared, canonical, _, ⟨h.reached, hcanonical, rfl⟩, payload.stage_root, ?_,
      payload.workspace_root, ?_, (), h.staged, canonical_inventory, _,
      ⟨h.inventory_reached, hinventory, rfl⟩, payload.repositories, ?_, state, hstate, ?_⟩
    · exact (canonical_item_ok hcanonical).mpr ⟨by simp, h.stage⟩
    · exact (canonical_item_ok hcanonical).mpr ⟨by simp, h.workspace⟩
    · rw [mapM_ok_of_iff (fun repository hrepository root => ?_)]
      · exact h.repositories
      · obtain ⟨hpath, hpointer⟩ := mem_declared hpointers h.pointers hdeclared hrepository
        refine admit_repository_ok hpointers hcanonical hinventory
          (fun pointer hmem halias => ?_) ?_
        · exact ⟨(hpointer pointer hmem halias).1,
            List.mem_cons_of_mem _ (List.mem_cons_of_mem _ (hpointer pointer hmem halias).2)⟩
        · exact List.mem_cons_of_mem _ (List.mem_cons_of_mem _ hpath)
    · rw [← hproject, ← hmachine, ← hhost, ← hcapability, ← hprotected]
      exact hcreate

/-! ### The scope that is created -/

theorem create_payload {p : ScopePayload} (h : ProjectWriteScope.create sha p = .ok scope) :
    scope = { toScopePayload := p.canonical, fingerprint := sha p.canonical } := by
  simp only [ProjectWriteScope.create, ProjectWriteScope.validate_canonical_scope, except_bind_ok,
    refuse_ok, except_pure_ok, exists_const] at h
  exact h.2.2.2.2.2.2.2.2.2

/-- The workspace lies in its stage. -/
theorem create_workspace {p : ScopePayload} (h : ProjectWriteScope.create sha p = .ok scope) :
    PosixPath.ofString p.stage_root ≤ PosixPath.ofString p.workspace_root := by
  simp only [ProjectWriteScope.create, ProjectWriteScope.validate_canonical_scope, except_bind_ok,
    refuse_ok, exists_const] at h
  have hinside := h.2.2.1
  by_contra hout
  -- the stage is the workspace or one of its parents
  refine hinside ⟨fun heq => hout (le_of_eq heq.symm), fun hmem => hout ?_⟩
  exact (PosixPath.mem_parents.mp hmem).1

theorem mem_canonical_repositories {p : ScopePayload} {root : WritableRepositoryRoot} :
    root ∈ p.canonical.repositories ↔ root ∈ p.repositories := by
  simp [ScopePayload.canonical, List.mem_insertionSort]

theorem mem_canonical_protected {p : ScopePayload} {path : String} :
    path ∈ p.canonical.protected_write_paths ↔ path ∈ p.protected_write_paths := by
  simp [ScopePayload.canonical]

@[simp] theorem ofString_research_path (path : String) :
    PosixPath.ofString (research_path path)
      = (PosixPath.ofString path).child research_name research_component :=
  PosixPath.ofString_str _

/-- Directories that do not overlap have nothing below both. -/
theorem apart_of_real {left right : String} (hleft : (PosixPath.ofString left).IsReal)
    (hright : (PosixPath.ofString right).IsReal) :
    ¬ paths_overlap left right ↔
      Disjoint (Set.Ici (PosixPath.ofString left)) (Set.Ici (PosixPath.ofString right)) := by
  rw [Forest.disjoint_Ici_iff, ← PosixPath.nested_iff, paths_overlap, hleft.normalize,
    hright.normalize]

namespace ProjectWriteScope

/-- What a launch in this scope may write. -/
def Writable (s : ProjectWriteScope) (p : PosixPath) : Prop :=
  (∃ root ∈ s.writable_roots, PosixPath.ofString root ≤ p)
    ∧ ∀ path ∈ s.protected_write_paths, ¬ PosixPath.ofString path ≤ p

instance (s : ProjectWriteScope) (p : PosixPath) : Decidable (s.Writable p) :=
  inferInstanceAs (Decidable (_ ∧ _))

/-- Below one of the repositories of the scope. -/
def Reaches (s : ProjectWriteScope) (p : PosixPath) : Prop :=
  ∃ root ∈ s.repositories, PosixPath.ofString root.path ≤ p

instance (s : ProjectWriteScope) (p : PosixPath) : Decidable (s.Reaches p) :=
  inferInstanceAs (Decidable (∃ root ∈ s.repositories, _))

end ProjectWriteScope

/-- An owner that a request does not write for: another project, or a repository left out. -/
def ScopeRequest.Foreign (r : ScopeRequest) (host : String) (item : RegisteredRepositoryRoot) :
    Prop :=
  item ∈ r.repository_inventory ∧ item.execution_host = host ∧ item.owner ∉ r.admitted_owners

section

variable {machine : MachineConfig} {payload : ScopePayload}

/-- Each root of the scope is that of an eligible repository. -/
theorem Resolves.admitted (h : Resolves views r machine payload) {root : WritableRepositoryRoot}
    (hroot : root ∈ payload.repositories) :
    ∃ repository ∈ r.eligible, Admits views r machine repository root :=
  forall₂_right h.repositories hroot

/-- Nothing lies below an admitted root and below a foreign repository. -/
theorem Admits.disjoint {repository : RepositoryConfig} {root : WritableRepositoryRoot}
    (h : Admits views r machine repository root) {item : RegisteredRepositoryRoot}
    (hitem : r.Foreign machine.host item) {o : String}
    (ho : canonical_directory views.inventory r.remote false item.path = .ok o) :
    Disjoint (Set.Ici (PosixPath.ofString root.path)) (Set.Ici (PosixPath.ofString o)) := by
  obtain ⟨hmem, hhost, hforeign⟩ := hitem
  have hinventory : item ∈ r.execution_inventory machine :=
    List.mem_filter.mpr ⟨hmem, by simpa using hhost⟩
  rw [← apart_of_real (ofString_real h.declared) (ofString_real ho)]
  exact (h.apart item hinventory hforeign o ho).2

theorem state_seen {view : AccountView} {remote : Bool} {raw o : String}
    (hreach : require_reachable view remote = .ok ())
    (ho : canonical_directory view remote false raw = .ok o) :
    ∃ canonical home, canonical_directories view remote false [raw] = .ok (canonical, home) := by
  have hall : ∀ raw' ∈ [raw], ∃ o, canonical_directory view remote false raw' = .ok o := by
    intro raw' hraw'
    rw [List.mem_singleton.mp hraw']
    exact ⟨o, ho⟩
  obtain ⟨canonical, hcanonical⟩ := looked_total.mpr hall
  exact ⟨canonical, _, canonical_directories_ok.mpr ⟨hreach, hcanonical, rfl⟩⟩

/-- On this machine nothing lies below an admitted root and below the application data. -/
theorem Admits.off_data {repository : RepositoryConfig} {root : WritableRepositoryRoot}
    (h : Admits views r machine repository root) (hlocal : r.remote = false) {data : RealPath}
    (hdata : r.app_data_dir = some data) :
    Disjoint (Set.Ici (PosixPath.ofString root.path)) (Set.Ici data.val) := by
  have hnarrow := h.narrow
  simp only [reject_broad_repository_root, hlocal, hdata, Bool.false_eq_true, if_false,
    except_bind_ok, refuse_ok, exists_const] at hnarrow
  obtain ⟨-, -, -, hoff⟩ := hnarrow
  rw [Forest.disjoint_Ici_iff, ← PosixPath.nested_iff]
  intro hnested
  apply hoff
  rcases hnested with heq | hmem | hmem
  · exact Or.inl heq
  · exact Or.inr (Or.inr hmem)
  · exact Or.inr (Or.inl hmem)

/-- The state directory is protected under its declared and under its real path. -/
theorem Resolves.state_protected (h : Resolves views r machine payload) :
    research_path r.manifest.state_repository.path ∈ payload.protected_write_paths
      ∧ ∀ o, require_reachable views.state r.remote = .ok () →
        canonical_directory views.state r.remote false
          (research_path r.manifest.state_repository.path) = .ok o →
        o ∈ payload.protected_write_paths := by
  obtain ⟨state, hstate, hprotected⟩ := h.state
  rw [hprotected]
  unfold ScopeRequest.state_protection at hstate
  dsimp only at hstate
  split at hstate
  · next canonical _ hlook =>
    obtain ⟨-, hlook, -⟩ := canonical_directories_ok.mp hlook
    obtain ⟨o, ho, rfl⟩ := except_map_ok.mp hstate
    rw [canonical_item_ok hlook] at ho
    refine ⟨by simp, fun o' _ ho' => ?_⟩
    obtain rfl : o = o' := Except.ok.inj (ho.2.symm.trans ho')
    simp
  -- the look failed, so no directory was seen there
  · next hlook =>
    obtain rfl := Except.ok.inj hstate
    exact ⟨by simp, fun o hreach ho => absurd (state_seen hreach ho) (by rw [hlook]; simp)⟩
  · next hlook =>
    obtain rfl := Except.ok.inj hstate
    exact ⟨by simp, fun o hreach ho => absurd (state_seen hreach ho) (by rw [hlook]; simp)⟩
  · cases hstate

/-- Everything a launch may write lies in its workspace, or below an admitted repository of its
    project, outside that repository's `.research`, outside every foreign repository and outside
    the application data; and never below the state directory. -/
theorem writable_confined (h : resolve_project_write_scope sha views r = .ok scope)
    {p : PosixPath} (hp : scope.Writable p) :
    ((PosixPath.ofString scope.stage_root ≤ PosixPath.ofString scope.workspace_root
        ∧ PosixPath.ofString scope.workspace_root ≤ p)
      ∨ ∃ repository ∈ r.eligible, ∃ root ∈ scope.repositories,
        root.repository_alias = repository.repository_alias
        ∧ canonical_directory views.declared r.remote true repository.path = .ok root.path
        ∧ PosixPath.ofString root.path ≤ p
        ∧ ¬ (PosixPath.ofString root.path).child research_name research_component ≤ p
        ∧ (r.remote = false → ∀ data, r.app_data_dir = some data → ¬ data.val ≤ p)
        ∧ ∀ item o, r.Foreign scope.execution_host item →
          canonical_directory views.inventory r.remote false item.path = .ok o →
          ¬ PosixPath.ofString o ≤ p)
      ∧ ¬ (PosixPath.ofString r.manifest.state_repository.path).child research_name
          research_component ≤ p
      ∧ ∀ o, require_reachable views.state r.remote = .ok () →
        canonical_directory views.state r.remote false
          (research_path r.manifest.state_repository.path) = .ok o →
        ¬ PosixPath.ofString o ≤ p := by
  obtain ⟨machine, payload, hresolves, hcreate⟩ := resolve_ok_iff.mp h
  have hinside := create_workspace hcreate
  obtain rfl := create_payload hcreate
  obtain ⟨⟨path, hpath, hbelow⟩, hprotected⟩ := hp
  -- canonical order loses no protected path
  have hprotected : ∀ path ∈ payload.protected_write_paths, ¬ PosixPath.ofString path ≤ p :=
    fun path hmem => hprotected path (mem_canonical_protected.mpr hmem)
  obtain ⟨hdeclared, hreal⟩ := hresolves.state_protected
  refine ⟨?_, ?_, fun o hreach ho => hprotected o (hreal o hreach ho)⟩
  · simp only [ProjectWriteScope.writable_roots, List.mem_cons, List.mem_filter,
      ProjectWriteScope.repository_roots, List.mem_map] at hpath
    -- a writable root is the workspace or a repository
    rcases hpath with rfl | ⟨⟨root, hroot, rfl⟩, -⟩
    · exact Or.inl ⟨hinside, hbelow⟩
    · have hroot' := mem_canonical_repositories.mp hroot
      obtain ⟨repository, heligible, hadmits⟩ := hresolves.admitted hroot'
      refine Or.inr ⟨repository, heligible, root, hroot, hadmits.named.1, hadmits.declared,
        hbelow, ?_, ?_, ?_⟩
      · rw [← ofString_research_path]
        obtain ⟨state, -, heq⟩ := hresolves.state
        apply hprotected
        rw [heq]
        exact List.mem_append_left _ (List.mem_map_of_mem hroot')
      · intro hlocal data hdata hunder
        exact Set.disjoint_left.mp (hadmits.off_data hlocal hdata) hbelow hunder
      · intro item o hitem ho hunder
        have hhost : payload.execution_host = machine.host := hresolves.request.2.2.1
        have hdisjoint := hadmits.disjoint (hhost ▸ hitem) ho
        exact Set.disjoint_left.mp hdisjoint hbelow hunder
  · rw [← ofString_research_path]
    exact hprotected _ hdeclared

end

theorem writable_confined_source :
    (∃ repository ∈ (laptop_request "ants" "/work/ants" "/data/ants").eligible,
      ∃ root ∈ (laptop_scope "ants" "/work/ants").repositories,
        root.repository_alias = repository.repository_alias
        ∧ canonical_directory plain_view false true repository.path = .ok root.path
        ∧ PosixPath.ofString root.path ≤ PosixPath.ofString "/work/ants/src/train.py")
      ∧ ¬ (PosixPath.ofString "/work/ants").child research_name research_component
        ≤ PosixPath.ofString "/work/ants/src/train.py" := by
  obtain ⟨hplace, hstate, -⟩ := writable_confined laptop_ants
    (p := PosixPath.ofString "/work/ants/src/train.py") (by decide +kernel)
  refine ⟨?_, hstate⟩
  rcases hplace with ⟨-, hworkspace⟩ | ⟨repository, heligible, root, hroot, hnamed, hdeclared,
    hbelow, -⟩
  · exact absurd hworkspace (by decide +kernel)
  · exact ⟨repository, heligible, root, hroot, hnamed, hdeclared, hbelow⟩

/-! ### Two projects -/

/-- The owners of a request belong to its project. -/
theorem ScopeRequest.admitted_owner {owner : Owner} (h : owner ∈ r.admitted_owners) :
    owner.1 = r.project_id := by
  obtain ⟨repository, -, rfl⟩ := List.mem_map.mp h
  rfl

/-- The execution machine is remote just when its host has a name. -/
theorem ScopeRequest.remote_eq {machine : MachineConfig} (h : r.require_machine = .ok machine) :
    r.remote = decide (machine.host ≠ "") := by
  simp only [ScopeRequest.require_machine, except_bind_ok, require_ok, refuse_ok, exists_const,
    except_pure_ok, not_not] at h
  obtain ⟨-, -, machine', -, hremote, -, rfl⟩ := h
  exact hremote.symm

/-- Scopes of two projects on one host have no repository path in common. -/
theorem projects_apart {views' : ScopeViews} {r' : ScopeRequest} {scope' : ProjectWriteScope}
    (h : resolve_project_write_scope sha views r = .ok scope)
    (h' : resolve_project_write_scope sha views' r' = .ok scope')
    (hcatalog : ∀ item ∈ r'.repository_inventory, item ∈ r.repository_inventory)
    (hviews : views'.inventory = views.inventory) (hproject : r'.project_id ≠ r.project_id)
    (hhost : scope'.execution_host = scope.execution_host) (p : PosixPath) :
    scope.Reaches p → ¬ scope'.Reaches p := by
  obtain ⟨machine, payload, hresolves, hcreate⟩ := resolve_ok_iff.mp h
  obtain ⟨machine', payload', hresolves', hcreate'⟩ := resolve_ok_iff.mp h'
  obtain rfl := create_payload hcreate
  obtain rfl := create_payload hcreate'
  intro hreaches hreaches'
  obtain ⟨root, hroot, hbelow⟩ := hreaches
  obtain ⟨root', hroot', hbelow'⟩ := hreaches'
  obtain ⟨repository, -, hadmits⟩ := hresolves.admitted (mem_canonical_repositories.mp hroot)
  obtain ⟨repository', -, hadmits'⟩ := hresolves'.admitted (mem_canonical_repositories.mp hroot')
  have hmachine : machine'.host = machine.host := by
    rw [← hresolves.request.2.2.1, ← hresolves'.request.2.2.1]
    exact hhost
  have hremote : r'.remote = r.remote := by
    rw [ScopeRequest.remote_eq hresolves.required, ScopeRequest.remote_eq hresolves'.required,
      hmachine]
  -- the second project owns its root in the inventory, so the first one must keep off it
  obtain ⟨item, hinventory, howner, hpath⟩ := owned_item hadmits'.once
  obtain ⟨hlisted, hon⟩ := List.mem_filter.mp hinventory
  have hforeign : r.Foreign machine.host item := by
    refine ⟨hcatalog item hlisted, by rw [← hmachine]; simpa using hon, fun hadmitted => ?_⟩
    apply hproject
    rw [← ScopeRequest.admitted_owner hadmitted, howner]
    rfl
  have hlook : canonical_directory views.inventory r.remote false item.path = .ok root'.path := by
    rw [hpath, ← hviews, ← hremote]
    exact hadmits'.owned
  exact Set.disjoint_left.mp (hadmits.disjoint hforeign hlook) hbelow hbelow'

theorem projects_apart_laptop :
    ¬ (laptop_scope "bees" "/work/bees").Reaches (PosixPath.ofString "/work/ants/src/train.py") :=
  projects_apart laptop_ants laptop_bees (fun _ hitem => hitem) rfl (by decide) rfl _
    (by decide +kernel)

/-! ### Canonical order -/

/-- A sorted set is determined by its members. -/
theorem sorted_set_congr {xs ys : List String} (h : ∀ x, x ∈ xs ↔ x ∈ ys) :
    sorted_set xs = sorted_set ys := by
  unfold sorted_set
  apply List.Perm.eq_of_pairwise' (r := (· ≤ ·)) (List.pairwise_insertionSort _ _)
    (List.pairwise_insertionSort _ _)
  refine (List.perm_insertionSort _ _).trans (List.Perm.trans ?_ (List.perm_insertionSort _ _).symm)
  rw [List.perm_ext_iff_of_nodup (List.nodup_dedup _) (List.nodup_dedup _)]
  simpa using h

theorem sorted_congr {xs ys : List String} (h : xs.Perm ys) :
    xs.insertionSort (· ≤ ·) = ys.insertionSort (· ≤ ·) :=
  List.Perm.eq_of_pairwise' (r := (· ≤ ·)) (List.pairwise_insertionSort _ _)
    (List.pairwise_insertionSort _ _)
    ((List.perm_insertionSort _ _).trans (h.trans (List.perm_insertionSort _ _).symm))

section

variable {admitted_aliases : List String} {repository_pointers : List RepositoryPointer}
  {repository_inventory : List RegisteredRepositoryRoot} {machine : MachineConfig}
  {payload : ScopePayload}

/-- The request with its lists written another way. -/
abbrev ScopeRequest.relisted (r : ScopeRequest) (admitted_aliases : List String)
    (repository_pointers : List RepositoryPointer)
    (repository_inventory : List RegisteredRepositoryRoot) : ScopeRequest :=
  { r with admitted_aliases, repository_pointers, repository_inventory }

theorem relisted_aliases (haliases : admitted_aliases.Perm r.admitted_aliases) :
    (r.relisted admitted_aliases repository_pointers repository_inventory).aliases = r.aliases :=
  sorted_set_congr (fun _ => haliases.mem_iff)

theorem relisted_eligible (haliases : admitted_aliases.Perm r.admitted_aliases) :
    (r.relisted admitted_aliases repository_pointers repository_inventory).eligible
      = r.eligible := by
  rw [ScopeRequest.eligible, relisted_aliases haliases]
  rfl

theorem relisted_admits (haliases : admitted_aliases.Perm r.admitted_aliases)
    (hpointers : repository_pointers.Perm r.repository_pointers)
    (hinventory : repository_inventory.Perm r.repository_inventory)
    {repository : RepositoryConfig} {root : WritableRepositoryRoot}
    (h : Admits views r machine repository root) :
    Admits views (r.relisted admitted_aliases repository_pointers repository_inventory) machine
      repository root := by
  -- the inventory of the machine is only reordered, and the owners are the same
  have hlisted : ((r.relisted admitted_aliases repository_pointers
      repository_inventory).execution_inventory machine).Perm (r.execution_inventory machine) :=
    hinventory.filter _
  have howners : (r.relisted admitted_aliases repository_pointers
      repository_inventory).admitted_owners = r.admitted_owners := by
    rw [ScopeRequest.admitted_owners, relisted_eligible haliases]
    rfl
  obtain ⟨pointer, hpointer, hpointed⟩ := h.pointed
  exact {
    named := h.named
    filled := h.filled
    pointed := ⟨pointer, hpointers.mem_iff.mpr hpointer, hpointed⟩
    declared := h.declared
    owned := h.owned
    once := (hlisted.filter _).length_eq.trans h.once
    narrow := h.narrow
    apart := fun owner howner hother => h.apart owner (hlisted.mem_iff.mp howner)
      (howners ▸ hother) }

theorem relisted_resolves (haliases : admitted_aliases.Perm r.admitted_aliases)
    (hpointers : repository_pointers.Perm r.repository_pointers)
    (hinventory : repository_inventory.Perm r.repository_inventory)
    (h : Resolves views r machine payload) :
    Resolves views (r.relisted admitted_aliases repository_pointers repository_inventory) machine
      payload where
  required := h.required
  aliases := by
    have hsame : (r.relisted admitted_aliases repository_pointers repository_inventory).aliases
        = r.aliases := relisted_aliases haliases
    have hrequire := h.aliases
    unfold ScopeRequest.require_aliases at hrequire ⊢
    rw [hsame, sorted_congr haliases]
    exact hrequire
  pointers := (hpointers.map _).nodup_iff.mpr h.pointers
  reached := h.reached
  stage := h.stage
  workspace := h.workspace
  staged := h.staged
  inventory_reached := h.inventory_reached
  inventory item hitem := h.inventory item ((hinventory.filter _).mem_iff.mp hitem)
  repositories := by
    rw [relisted_eligible haliases]
    exact h.repositories.imp (fun _ _ => relisted_admits haliases hpointers hinventory)
  state := h.state
  request := h.request

/-- The order of the aliases, the pointers and the inventory changes neither a scope nor its
    fingerprint. -/
theorem resolve_relisted (haliases : admitted_aliases.Perm r.admitted_aliases)
    (hpointers : repository_pointers.Perm r.repository_pointers)
    (hinventory : repository_inventory.Perm r.repository_inventory) :
    resolve_project_write_scope sha views
        (r.relisted admitted_aliases repository_pointers repository_inventory) = .ok scope ↔
      resolve_project_write_scope sha views r = .ok scope := by
  rw [resolve_ok_iff, resolve_ok_iff]
  constructor
  · intro h
    obtain ⟨machine, payload, h, hcreate⟩ := h
    exact ⟨machine, payload, relisted_resolves
      (r := r.relisted admitted_aliases repository_pointers repository_inventory)
      haliases.symm hpointers.symm hinventory.symm h, hcreate⟩
  · intro h
    obtain ⟨machine, payload, h, hcreate⟩ := h
    exact ⟨machine, payload, relisted_resolves haliases hpointers hinventory h, hcreate⟩

end

theorem resolve_relisted_reversed : resolve_project_write_scope plain_sha plain_views
    ((laptop_request "ants" "/work/ants" "/data/ants").relisted ["code"]
      [⟨"code", "laptop", "/work/ants"⟩] laptop_inventory.reverse)
        = .ok (laptop_scope "ants" "/work/ants") :=
  (resolve_relisted (.refl _) (.refl _) (List.reverse_perm _)).mpr laptop_ants

theorem WritableRepositoryRoot.key_injective : Function.Injective WritableRepositoryRoot.key := by
  intro a b h
  simp only [WritableRepositoryRoot.key, toLex_inj, Prod.mk.injEq] at h
  cases a; cases b
  simp_all

instance : Std.Total (fun a b : WritableRepositoryRoot => a.key ≤ b.key) :=
  ⟨fun a b => le_total a.key b.key⟩

instance : IsTrans WritableRepositoryRoot (fun a b => a.key ≤ b.key) :=
  ⟨fun _ _ _ => le_trans⟩

theorem validate_ok {s : ProjectWriteScope}
    (h : ProjectWriteScope.validate_canonical_scope sha s = .ok scope) :
    s = scope ∧ s.repositories.Pairwise (fun a b => a.key ≤ b.key)
      ∧ s.protected_write_paths = sorted_set s.protected_write_paths
      ∧ s.fingerprint = sha s.toScopePayload := by
  simp only [ProjectWriteScope.validate_canonical_scope, except_bind_ok, refuse_ok, exists_const,
    except_pure_ok, not_not, ne_eq] at h
  obtain ⟨-, -, -, hkeys, -, -, hprotected, -, hfingerprint, rfl⟩ := h
  refine ⟨rfl, ?_, hprotected, hfingerprint⟩
  have hsorted := List.pairwise_insertionSort (· ≤ ·)
    (scope.repositories.map WritableRepositoryRoot.key).dedup
  rw [← hkeys] at hsorted
  exact List.pairwise_map.mp hsorted

/-- A scope that validates is created again from its own fields, in whatever order. -/
theorem create_relisted {s : ProjectWriteScope} {repositories : List WritableRepositoryRoot}
    {protected_write_paths : List String}
    (h : ProjectWriteScope.validate_canonical_scope sha s = .ok s)
    (hrepositories : repositories.Perm s.repositories)
    (hprotected : ∀ path, path ∈ protected_write_paths ↔ path ∈ s.protected_write_paths) :
    ProjectWriteScope.create sha { s.toScopePayload with repositories, protected_write_paths }
      = .ok s := by
  obtain ⟨-, hsorted, hset, hfingerprint⟩ := validate_ok h
  have hcanonical : ({ s.toScopePayload with repositories, protected_write_paths }
      : ScopePayload).canonical = s.toScopePayload := by
    have hlist : repositories.insertionSort
        (fun a b => WritableRepositoryRoot.key a ≤ WritableRepositoryRoot.key b)
          = s.repositories :=
      List.Perm.eq_of_pairwise
        (fun a b _ _ hab hba => WritableRepositoryRoot.key_injective (le_antisymm hab hba))
        (List.pairwise_insertionSort _ _) hsorted
        ((List.perm_insertionSort _ _).trans hrepositories)
    have hpaths : sorted_set protected_write_paths = s.protected_write_paths := by
      rw [hset]
      exact sorted_set_congr hprotected
    simp only [ScopePayload.canonical, hlist, hpaths]
  rw [ProjectWriteScope.create, hcanonical, ← hfingerprint]
  exact h

theorem create_relisted_twice : ProjectWriteScope.create plain_sha
    { (laptop_scope "ants" "/work/ants").toScopePayload with
      repositories := [⟨"code", "laptop", "/work/ants"⟩]
      protected_write_paths := [research_path "/work/ants", research_path "/work/ants"] }
        = .ok (laptop_scope "ants" "/work/ants") :=
  create_relisted (by decide +kernel) (.refl _) (by simp [laptop_scope])

end ResearchGraph
