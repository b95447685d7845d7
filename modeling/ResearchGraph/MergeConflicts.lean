import ResearchGraph.MergeFrame

/-! # What a merge may choose

    The conflicts of a merge come from a second comparison, which reads absent
    keys as null and renders positions as dotted texts.  On documents with plain
    keys it names the positions at which the branch and main both left the base,
    and a path of the branch delta is left out of the mandatory set exactly there,
    unless a null and an absent key are mistaken for each other, or where main
    removed the whole object.
-/

namespace ResearchGraph

open Lib Value

/-! ### Positions of conflicts -/

/-- `dict.get` on any value: what an object lacks reads as null. -/
def field (v : Value) (k : String) : Value := (v.entry k).getD .null

/-- The value at a position, an absent key read as null at each step. -/
def read (v : Value) : List String → Value
  | [] => v
  | k :: ks => read (field v k) ks

/-- All three values are objects. -/
def all_dicts (x y z : Value) : Prop := x.is_dict = true ∧ y.is_dict = true ∧ z.is_dict = true

/-- The three documents are pairwise different down to `ks`, where they stop being objects. -/
def ConflictAt (x y z : Value) : List String → Prop
  | [] => two_agree x y z = false ∧ ¬ all_dicts x y z
  | k :: ks => two_agree x y z = false ∧ all_dicts x y z ∧
      ConflictAt (field x k) (field y k) (field z k) ks

/-- The text of a position. -/
def dotted_path (text : String) (ks : List String) : String := ks.foldl dotted text

/-- The finding at a position. -/
def conflict_at (text : String) (x y z : Value) (ks : List String) : FieldConflict :=
  ⟨if dotted_path text ks = "" then WHOLE else dotted_path text ks, read x ks, read y ks, read z ks⟩

theorem two_agree_iff {x y z : Value} : two_agree x y z = false ↔
    x.loosely_equal y = false ∧ x.loosely_equal z = false ∧ y.loosely_equal z = false := by
  simp [two_agree, and_assoc]

theorem mem_by_key {groups : List (String × List FieldConflict)} {c : FieldConflict} :
    c ∈ by_key groups ↔ ∃ g ∈ groups, c ∈ g.2 := by
  simp [by_key, List.mem_insertionSort]

theorem entry_conflicts_eq (text : String) (xs ys zs : List (String × Value)) :
    entry_conflicts text xs ys zs = xs.map (fun e =>
      (e.1, conflicting_fields (dotted text e.1) e.2 (got ys e.1) (got zs e.1))) := by
  induction xs with
  | nil => rfl
  | cons e xs ih =>
    obtain ⟨k, x⟩ := e
    rw [entry_conflicts, ih, List.map_cons]

theorem mem_leaf_conflict {text : String} {x y z : Value} {c : FieldConflict}
    (h : ¬ all_dicts x y z) : c ∈ leaf_conflict text x y z ↔
      ∃ ks, ConflictAt x y z ks ∧ c = conflict_at text x y z ks := by
  have hnil (ks : List String) : ConflictAt x y z ks ↔ ks = [] ∧ two_agree x y z = false := by
    cases ks with
    | nil => simp [ConflictAt, h]
    | cons k ks => simp [ConflictAt, h]
  unfold leaf_conflict
  by_cases htwo : two_agree x y z = true
  · simp [htwo, hnil]
  · simp only [htwo, hnil, conflict_at]
    simp
    rfl

/-- The findings of the comparison are the positions of conflict. -/
theorem mem_conflicting_fields {text : String} {x y z : Value} {c : FieldConflict} (hx : x.Wf) :
    c ∈ conflicting_fields text x y z ↔
      ∃ ks, ConflictAt x y z ks ∧ c = conflict_at text x y z ks := by
  induction x using dict_induction generalizing y z text with
  | leaf x hleaf =>
    have hnot : ¬ all_dicts x y z := by simp [all_dicts, hleaf]
    have hleaf : conflicting_fields text x y z = leaf_conflict text x y z := by
      cases x <;> first | rfl | simp [is_dict] at hleaf
    rw [hleaf, mem_leaf_conflict hnot]
  | object xs ih =>
    by_cases hall : all_dicts (.dict xs) y z
    · obtain ⟨-, hy, hz⟩ := hall
      obtain ⟨ys, rfl⟩ := is_dict_iff.mp hy
      obtain ⟨zs, rfl⟩ := is_dict_iff.mp hz
      have hall : all_dicts (.dict xs) (.dict ys) (.dict zs) := ⟨rfl, rfl, rfl⟩
      rw [conflicting_fields]
      by_cases htwo : two_agree (.dict xs) (.dict ys) (.dict zs) = true
      · rw [if_pos htwo]
        constructor
        · intro h
          cases h
        · rintro ⟨ks, hks, -⟩
          cases ks <;> simp [ConflictAt, htwo] at hks
      · have htwo : two_agree (.dict xs) (.dict ys) (.dict zs) = false := by simpa using htwo
        -- one group of findings for each key that base has, or that only the others have
        have hkey (k : String) : (∃ g ∈ entry_conflicts text xs ys zs ++
              (later_keys xs ys zs).map
                (fun k => (k, leaf_conflict (dotted text k) .null (got ys k) (got zs k))),
              g.1 = k ∧ c ∈ g.2) ↔
            ∃ ks, ConflictAt (got xs k) (got ys k) (got zs k) ks ∧
              c = conflict_at (dotted text k) (got xs k) (got ys k) (got zs k) ks := by
          cases hk : xs.lookup k with
          | some x =>
            have hx' : c ∈ conflicting_fields (dotted text k) x (got ys k) (got zs k) ↔
                ∃ ks, ConflictAt x (got ys k) (got zs k) ks ∧
                  c = conflict_at (dotted text k) x (got ys k) (got zs k) ks :=
              ih k x (lookup_some_mem hk) (hx.entry hk)
            rw [show got xs k = x by simp [got, hk], ← hx']
            simp only [List.mem_append, entry_conflicts_eq, List.mem_map]
            constructor
            · rintro ⟨g, ⟨⟨j, x'⟩, hmem, rfl⟩ | ⟨j, hmem, rfl⟩, rfl, hc⟩
              · rw [mem_lookup_some hx.nodup hmem] at hk
                simpa [Option.some.inj hk] using hc
              · simp [later_keys, hk] at hmem
            · intro hc
              exact ⟨_, Or.inl ⟨(k, x), lookup_some_mem hk, rfl⟩, rfl, hc⟩
          | none =>
            rw [show got xs k = .null by simp [got, hk],
              ← mem_leaf_conflict (by simp [all_dicts, is_dict])]
            simp only [List.mem_append, entry_conflicts_eq, List.mem_map]
            constructor
            · rintro ⟨g, ⟨⟨j, x'⟩, hmem, rfl⟩ | ⟨j, hmem, rfl⟩, rfl, hc⟩
              · rw [mem_lookup_some hx.nodup hmem] at hk
                cases hk
              · exact hc
            · intro hc
              refine ⟨_, Or.inr ⟨k, ?_, rfl⟩, rfl, hc⟩
              have hsome : (ys.lookup k).isSome ∨ (zs.lookup k).isSome := by
                by_contra hne
                simp only [not_or, Option.not_isSome_iff_eq_none] at hne
                simp [leaf_conflict, got, hne.1, hne.2, two_agree] at hc
              have hmem : k ∈ (ys ++ zs).map Prod.fst := by
                rcases hsome with hs | hs
                all_goals
                  obtain ⟨v, hv⟩ := Option.isSome_iff_exists.mp hs
                  have := lookup_some_mem hv
                  exact List.mem_map.mpr ⟨(k, v), by simp [this], rfl⟩
              simp only [later_keys, List.mem_filter, List.mem_dedup, hk, Option.isNone_none,
                and_true]
              exact hmem
        rw [if_neg (by simp [htwo]), mem_by_key]
        constructor
        · rintro ⟨g, hg, hc⟩
          obtain ⟨ks, hks, hc⟩ := (hkey g.1).mp ⟨g, hg, rfl, hc⟩
          exact ⟨g.1 :: ks, ⟨htwo, hall, hks⟩, hc⟩
        · rintro ⟨ks, hks, hc⟩
          cases ks with
          | nil => exact absurd hall hks.2
          | cons k ks =>
            obtain ⟨g, hg, -, hc⟩ := (hkey k).mpr ⟨ks, hks.2.2, hc⟩
            exact ⟨g, hg, hc⟩
    · have hleaf : conflicting_fields text (.dict xs) y z = leaf_conflict text (.dict xs) y z := by
        cases y with
        | dict ys =>
          cases z with
          | dict zs => exact absurd ⟨rfl, rfl, rfl⟩ hall
          | _ => rfl
        | _ => rfl
      rw [hleaf, mem_leaf_conflict hall]

/-! ### Conflicts that reach a position -/

/-- One of the three values is an object. -/
def any_dict (x y z : Value) : Prop := x.is_dict = true ∨ y.is_dict = true ∨ z.is_dict = true

/-- A conflict at or above `d` reaches the write path there. -/
def Reached (x y z : Value) (d : List String) (mark : List String) : Prop :=
  ∃ ks, ConflictAt x y z ks ∧
    ((any_dict (read x ks) (read y ks) (read z ks) ∧ ks <+: d) ∨
      (¬ any_dict (read x ks) (read y ks) (read z ks) ∧ ks = d ∧ mark = []))

/-- Main's value differs from the base's and from the branch's. -/
def Differs (a b m : Option Value) : Prop := ¬ same_or_absent m a ∧ ¬ same_or_absent m b

/-- No document has null where another has nothing. -/
def NullClear (a b m : Option Value) : Prop :=
  (a = none ∨ b = none ∨ m = none) → a ≠ some .null ∧ b ≠ some .null ∧ m ≠ some .null

theorem loosely_equal_null {v : Value} : Value.null.loosely_equal v = true ↔ v = .null := by
  rw [loosely_equal_iff]
  cases v <;> simp [as_numbers, sort_keys]

theorem reached_root {x y z : Value} (h : ¬ all_dicts x y z) (mark : List String)
    (hmark : mark = [] ∨ any_dict x y z) :
    Reached x y z [] mark ↔ two_agree x y z = false := by
  constructor
  · rintro ⟨ks, hks, hreach⟩
    cases ks with
    | nil => exact hks.1
    | cons k ks => exact hks.1
  · intro htwo
    refine ⟨[], ⟨htwo, h⟩, ?_⟩
    by_cases hany : any_dict x y z
    · exact Or.inl ⟨hany, List.prefix_rfl⟩
    · exact Or.inr ⟨hany, rfl, hmark.resolve_right hany⟩

theorem reached_below {xs ys zs : List (String × Value)} {k : String} {d mark : List String}
    (htwo : two_agree (.dict xs) (.dict ys) (.dict zs) = false) :
    Reached (.dict xs) (.dict ys) (.dict zs) (k :: d) mark ↔
      Reached (got xs k) (got ys k) (got zs k) d mark := by
  have hall : all_dicts (.dict xs) (.dict ys) (.dict zs) := ⟨rfl, rfl, rfl⟩
  constructor
  · rintro ⟨ks, hks, hreach⟩
    cases ks with
    | nil => exact absurd hall hks.2
    | cons j ks =>
      have hj : j = k := by
        rcases hreach with ⟨-, hpre⟩ | ⟨-, heq, -⟩
        · exact (List.cons_prefix_cons.mp hpre).1
        · exact (List.cons.inj heq).1
      subst hj
      refine ⟨ks, hks.2.2, ?_⟩
      rcases hreach with ⟨hany, hpre⟩ | ⟨hany, heq, hm⟩
      · exact Or.inl ⟨hany, (List.cons_prefix_cons.mp hpre).2⟩
      · exact Or.inr ⟨hany, (List.cons.inj heq).2, hm⟩
  · rintro ⟨ks, hks, hreach⟩
    refine ⟨k :: ks, ⟨htwo, hall, hks⟩, ?_⟩
    rcases hreach with ⟨hany, hpre⟩ | ⟨hany, rfl, hm⟩
    · exact Or.inl ⟨hany, List.cons_prefix_cons.mpr ⟨rfl, hpre⟩⟩
    · exact Or.inr ⟨hany, rfl, hm⟩

theorem not_reached_of_two_agree {x y z : Value} (h : two_agree x y z = true)
    (d mark : List String) : ¬ Reached x y z d mark := by
  rintro ⟨ks, hks, -⟩
  have htwo : two_agree x y z = false := by cases ks <;> exact hks.1
  simp [h] at htwo

/-- Main has an object wherever the way to `d` goes through objects of base and
    branch, or both of these have `d`. -/
def MainShaped (x y : Value) (z : Option Value) (d : List String) : Prop :=
  ∀ e, e <+: d → e ≠ d → (∀ zs, under z e ≠ some (.dict zs)) →
    (x.at_path d).isSome ∧ (y.at_path d).isSome

/-- Main has the object in which the last part of the position is looked up. -/
def Held (m : Option Value) (d : List String) : Prop := ∃ vs, under m d.dropLast = some (.dict vs)

theorem held_cons {zs : List (String × Value)} {k j : String} {d : List String} :
    Held (some (.dict zs)) (k :: j :: d) ↔ Held (zs.lookup k) (j :: d) := by
  simp [Held, under_cons]

theorem not_held_none (d : List String) : ¬ Held none d := by simp [Held]

theorem not_held_leaf {z : Value} (h : z.is_dict = false) (d : List String) :
    ¬ Held (some z) d := by
  rintro ⟨vs, hvs⟩
  cases hd : d.dropLast with
  | nil =>
    obtain rfl : z = .dict vs := by simpa [hd] using hvs
    simp [is_dict] at h
  | cons k ks => simp [hd, entry_of_not_dict h] at hvs

theorem nullClear_present (x y z : Value) : NullClear (some x) (some y) (some z) := by
  simp [NullClear]

theorem loosely_equal_symm (x y : Value) : x.loosely_equal y = y.loosely_equal x := by
  rw [Bool.eq_iff_iff]
  exact ⟨loosely_equal_comm, loosely_equal_comm⟩

theorem not_equal_null {v : Value} : Value.null.loosely_equal v = false ↔ v ≠ .null := by
  rw [← Bool.not_eq_true, loosely_equal_null]

/-- Where base and branch first differ, at one key of objects that all three have: a
    conflict is found there when main differs from both, unless two of the three are
    null and nothing, which `dict.get` reads alike. -/
theorem reached_at_key {a b m : Option Value} (hfirst : First a b []) :
    Reached (a.getD .null) (b.getD .null) (m.getD .null) [] (mark a b) ↔
      Differs a b m ∧ NullClear a b m := by
  have hnot : ¬ all_dicts (a.getD .null) (b.getD .null) (m.getD .null) := by
    rintro ⟨ha, hb, -⟩
    cases a with
    | none => simp [is_dict] at ha
    | some x =>
      cases b with
      | none => simp [is_dict] at hb
      | some y =>
        obtain ⟨xs, rfl⟩ := is_dict_iff.mp ha
        obtain ⟨ys, rfl⟩ := is_dict_iff.mp hb
        exact hfirst (agree_dict xs ys)
  have hmark : mark a b = [] ∨ any_dict (a.getD .null) (b.getD .null) (m.getD .null) := by
    unfold mark
    split
    · next v => by_cases hv : v.is_dict = true <;> simp [any_dict, hv]
    · next v => by_cases hv : v.is_dict = true <;> simp [any_dict, hv]
    · exact Or.inl rfl
  rw [reached_root hnot _ hmark, two_agree_iff]
  have hab : ¬ same_or_absent a b := fun h => hfirst (agree_of_same h)
  -- null differs from each value that is present and not null itself
  cases a with
  | none =>
    cases b with
    | none => exact absurd trivial hab
    | some y =>
      cases m with
      | none => simp [Differs, same_or_absent, NullClear, not_equal_null]
      | some z =>
        simp only [Option.getD_none, Option.getD_some, not_equal_null, Differs, same_or_absent,
          NullClear, loosely_equal_symm y z]
        simp
        tauto
  | some x =>
    cases b with
    | none =>
      cases m with
      | none =>
        simp [Differs, same_or_absent, NullClear, loosely_equal_symm x .null, not_equal_null]
      | some z =>
        simp only [Option.getD_none, Option.getD_some, loosely_equal_symm x .null, not_equal_null,
          Differs, same_or_absent, NullClear, loosely_equal_symm x z]
        simp
        tauto
    | some y =>
      have hxy : x.loosely_equal y = false := by simpa [same_or_absent] using hab
      cases m with
      | none =>
        simp [Differs, same_or_absent, NullClear, hxy, loosely_equal_symm x .null,
          loosely_equal_symm y .null, not_equal_null]
      | some z =>
        simp [Differs, same_or_absent, NullClear, hxy, loosely_equal_symm x z,
          loosely_equal_symm y z]

/-- A conflict at main's own position covers all that base and branch have below it. -/
theorem reached_leaf {xs ys : List (String × Value)} {z : Value} {k : String} {d mark : List String}
    (htwo : two_agree (.dict xs) (.dict ys) z = false) (hz : z.is_dict = false)
    (hshape : MainShaped (.dict xs) (.dict ys) (some z) (k :: d)) :
    Reached (.dict xs) (.dict ys) z (k :: d) mark ∧
      Differs ((dict xs).at_path (k :: d)) ((dict ys).at_path (k :: d)) (z.at_path (k :: d)) := by
  constructor
  · exact ⟨[], ⟨htwo, fun h => by simp [all_dicts, hz] at h⟩, Or.inl ⟨Or.inl rfl, List.nil_prefix⟩⟩
  · have hnone : z.at_path (k :: d) = none := by simp [entry_of_not_dict hz]
    obtain ⟨hxs, hys⟩ := hshape [] List.nil_prefix (by simp) (by
      intro zs hzs
      obtain rfl : z = .dict zs := by simpa using hzs
      simp [is_dict] at hz)
    obtain ⟨v, hv⟩ := Option.isSome_iff_exists.mp hxs
    obtain ⟨w, hw⟩ := Option.isSome_iff_exists.mp hys
    rw [hnone, hv, hw]
    simp [Differs, same_or_absent]

/-- The shape of main is asked again below a key, where an absent value reads as null. -/
theorem MainShaped.below {xs ys zs : List (String × Value)} {k : String} {d : List String}
    {x y : Value} (h : MainShaped (.dict xs) (.dict ys) (some (.dict zs)) (k :: d))
    (hx : xs.lookup k = some x) (hy : ys.lookup k = some y) :
    MainShaped x y (some (got zs k)) d := by
  intro e hed hne hnot
  have hbelow := h (k :: e) (List.cons_prefix_cons.mpr ⟨rfl, hed⟩) (by simpa using hne) (by
    intro zs' hzs'
    rw [under_cons] at hzs'
    cases hz : zs.lookup k with
    | none => simp [hz] at hzs'
    | some z => exact hnot zs' (by simpa [got, hz] using hzs'))
  simpa [hx, hy] using hbelow

/-- A conflict reaches the first difference of base and branch exactly when main's
    value there differs from both, unless main has the object that holds the place
    and two of the three values are null and nothing. -/
theorem reached_iff_differs {x y z : Value} {d : List String} (hx : x.Wf) (hy : y.Wf) (hz : z.Wf)
    (hfirst : First (some x) (some y) d) (hshape : MainShaped x y (some z) d) :
    Reached x y z d (mark (x.at_path d) (y.at_path d)) ↔
      Differs (x.at_path d) (y.at_path d) (z.at_path d) ∧
        (Held (some z) d → NullClear (x.at_path d) (y.at_path d) (z.at_path d)) := by
  induction d generalizing x y z with
  | nil =>
    have hroot := @reached_at_key (some x) (some y) (some z) hfirst
    simpa [nullClear_present] using hroot
  | cons k d ih =>
    -- base and branch still agree here, so both are objects
    have hdicts : x.is_dict = true ∧ y.is_dict = true := by
      obtain ⟨hagree, hrest⟩ := hfirst
      rcases agree_some hagree with h | h
      · exact h
      · exact absurd ⟨hagree, hrest⟩ (not_first_of_loosely_equal hx hy h (k :: d))
    obtain ⟨xs, rfl⟩ := is_dict_iff.mp hdicts.1
    obtain ⟨ys, rfl⟩ := is_dict_iff.mp hdicts.2
    have hxy : (dict xs).loosely_equal (dict ys) = false := by
      by_contra hne
      exact not_first_of_loosely_equal hx hy (by simpa using hne) _ hfirst
    by_cases htwo : two_agree (.dict xs) (.dict ys) z = true
    · -- main equals one of the two, here and below
      refine iff_of_false (not_reached_of_two_agree htwo _ _) ?_
      simp only [two_agree, hxy, Bool.false_or, Bool.or_eq_true] at htwo
      rintro ⟨⟨hzx, hzy⟩, -⟩
      rcases htwo with hxz | hyz
      · exact hzx (at_path_of_loosely_equal hz hx (loosely_equal_comm hxz) _)
      · exact hzy (at_path_of_loosely_equal hz hy (loosely_equal_comm hyz) _)
    have htwo : two_agree (.dict xs) (.dict ys) z = false := by simpa using htwo
    by_cases hzdict : z.is_dict = true
    · obtain ⟨zs, rfl⟩ := is_dict_iff.mp hzdict
      rw [reached_below htwo]
      have hfirst' : First (xs.lookup k) (ys.lookup k) d := hfirst.2
      cases d with
      | nil =>
        have hheld : Held (some (.dict zs)) [k] := ⟨zs, rfl⟩
        have hkey := @reached_at_key (xs.lookup k) (ys.lookup k) (zs.lookup k) hfirst'
        simpa [hheld, got] using hkey
      | cons j d =>
        -- the way goes on, so base and branch have objects under the key
        obtain ⟨x, hxk⟩ : ∃ x, xs.lookup k = some x := by
          by_contra hne
          have hnone : xs.lookup k = none := by simpa [Option.eq_none_iff_forall_ne_some] using hne
          rw [hnone] at hfirst'
          cases hyk : ys.lookup k with
          | none => exact not_first_absent _ (hyk ▸ hfirst')
          | some y => exact absurd (first_one_sided.2.mp (hyk ▸ hfirst')) (by simp)
        obtain ⟨y, hyk⟩ : ∃ y, ys.lookup k = some y := by
          by_contra hne
          have hnone : ys.lookup k = none := by simpa [Option.eq_none_iff_forall_ne_some] using hne
          rw [hnone, hxk] at hfirst'
          exact absurd (first_one_sided.1.mp hfirst') (by simp)
        rw [hxk, hyk] at hfirst'
        have hgot : (got zs k).Wf := by
          cases hzk : zs.lookup k with
          | none => simpa [got, hzk] using wf_of_not_dict (v := Value.null) rfl
          | some z => simpa [got, hzk] using hz.entry (w := z) (k := k) hzk
        have hih := ih (hx.entry (w := x) (k := k) hxk) (hy.entry (w := y) (k := k) hyk) hgot
          hfirst' (hshape.below hxk hyk)
        rw [show got xs k = x by simp [got, hxk], show got ys k = y by simp [got, hyk],
          held_cons]
        simp only [at_path_cons, entry_dict, hxk, hyk, Option.bind_some] at hih ⊢
        cases hzk : zs.lookup k with
        | some z => simpa [got, hzk] using hih
        | none =>
          have hleaf := not_held_leaf (z := .null) rfl (j :: d)
          simpa [got, hzk, hleaf, not_held_none, entry_of_not_dict (v := Value.null) rfl] using hih
    · have hzdict : z.is_dict = false := by simpa using hzdict
      obtain ⟨hreached, hdiffers⟩ := reached_leaf htwo hzdict hshape
      exact iff_of_true hreached ⟨hdiffers, fun h => absurd h (not_held_leaf hzdict _)⟩

/-! ### Dotted texts -/

theorem split_dots_ne_nil (cs : List Char) : split_dots cs ≠ [] := by
  cases cs with
  | nil => simp [split_dots]
  | cons c cs =>
    rw [split_dots]
    split
    · simp
    · split <;> simp

theorem split_dots_append (a b : List Char) :
    split_dots (a ++ '.' :: b) = split_dots a ++ split_dots b := by
  induction a with
  | nil => simp [split_dots]
  | cons c a ih =>
    rw [List.cons_append, split_dots, split_dots]
    by_cases hc : c = '.'
    · simp [hc, ih]
    · rw [if_neg hc, if_neg hc, ih]
      cases hsplit : split_dots a with
      | nil => exact absurd hsplit (split_dots_ne_nil a)
      | cons word words => rfl

theorem split_dots_plain {cs : List Char} (h : '.' ∉ cs) : split_dots cs = [cs] := by
  induction cs with
  | nil => rfl
  | cons c cs ih =>
    simp only [List.mem_cons, not_or] at h
    rw [split_dots, if_neg (fun hc => h.1 hc.symm), ih h.2]

/-- The parts of a dotted text grow by the key that is appended. -/
theorem path_parts_dotted {text k : String} (hk : PlainKey k) :
    path_parts (dotted text k) = path_parts text ++ [k] := by
  have hkey : path_parts k = [k] := by
    simp [path_parts, split_dots_plain hk.2.1, hk.1]
  unfold dotted
  split
  · next h =>
    rw [h, hkey]
    rfl
  · have happend : (text ++ "." ++ k).toList = text.toList ++ '.' :: k.toList := by
      simp
    rw [path_parts, happend, split_dots_append, List.map_append, List.filter_append]
    exact congrArg _ hkey

theorem path_parts_dotted_path {text : String} {ks : List String} (hks : ∀ k ∈ ks, PlainKey k) :
    path_parts (dotted_path text ks) = path_parts text ++ ks := by
  induction ks generalizing text with
  | nil => simp [dotted_path]
  | cons k ks ih =>
    have hrest := @ih (dotted text k) (fun j hj => hks j (by simp [hj]))
    rw [dotted_path, List.foldl_cons, ← dotted_path, hrest, path_parts_dotted (hks k (by simp))]
    simp

theorem dotted_path_ne_empty {text : String} {ks : List String} (hks : ∀ k ∈ ks, PlainKey k)
    (hne : path_parts text ++ ks ≠ []) : dotted_path text ks ≠ "" := by
  intro h
  rw [← path_parts_dotted_path hks, h] at hne
  exact hne rfl

/-! ### Paths of conflicts -/

theorem present_of_read {v : Value} {ks : List String} (h : read v ks ≠ .null) :
    (v.at_path ks).isSome := by
  induction ks generalizing v with
  | nil => rfl
  | cons k ks ih =>
    rw [read, field] at h
    rw [at_path_cons]
    cases hk : v.entry k with
    | none =>
      rw [hk] at h
      have := ih h
      cases ks with
      | nil => exact absurd rfl h
      | cons j ks => simp [entry_of_not_dict (show Value.null.is_dict = false from rfl)] at this
    | some w =>
      rw [hk] at h
      exact ih h

theorem ConflictAt.apart {x y z : Value} {ks : List String} (h : ConflictAt x y z ks) :
    two_agree (read x ks) (read y ks) (read z ks) = false := by
  induction ks generalizing x y z with
  | nil => exact h.1
  | cons k ks ih => exact ih h.2.2

/-- The position of a conflict is there in one of the documents. -/
theorem ConflictAt.plain {x y z : Value} {ks : List String} (h : ConflictAt x y z ks)
    (hx : x.KeysIn PlainKey) (hy : y.KeysIn PlainKey) : ∀ k ∈ ks, PlainKey k := by
  by_cases hread : read x ks = .null
  · refine hy ks (present_of_read ?_)
    intro hnull
    have := h.apart
    simp [hread, hnull, two_agree] at this
  · exact hx ks (present_of_read hread)

/-- The path of a conflict with its mark. -/
theorem covers_marked {r p : SemanticWritePath} :
    semantic_path_covers (r ++ [WHOLE]) p = true ↔ r <+: p := by
  rw [semantic_path_covers, if_pos List.getLast?_concat, List.dropLast_concat,
    List.length_append, List.length_singleton, Nat.add_sub_cancel]
  constructor
  · intro h
    rw [← eq_of_beq h]
    exact List.take_prefix _ _
  · intro h
    rw [List.prefix_iff_eq_take.mp h]
    simp

theorem covers_unmarked {r p : SemanticWritePath} (h : r.getLast? ≠ some WHOLE) :
    semantic_path_covers r p = true ↔ r = p := by
  rw [semantic_path_covers, if_neg h, beq_iff_eq]

/-- A rule covers only paths that begin as it does, up to its last part. -/
theorem prefix_of_covers {r rest p : SemanticWritePath} (hrest : rest ≠ [])
    (h : semantic_path_covers (r ++ rest) p = true) : r <+: p := by
  rcases List.eq_nil_or_concat rest with rfl | ⟨init, last, rfl⟩
  · exact absurd rfl hrest
  · rw [List.concat_eq_append, ← List.append_assoc] at h
    by_cases hlast : last = WHOLE
    · subst hlast
      exact (List.prefix_append r init).trans (covers_marked.mp h)
    · rw [covers_unmarked (by rw [List.getLast?_concat]; simpa using hlast)] at h
      rw [← h, List.append_assoc]
      exact List.prefix_append r _

theorem mem_whole_of_prefix {ks d m : List String} (hks : ∀ k ∈ ks, PlainKey k)
    (hm : m = [] ∨ m = [WHOLE]) : ks <+: d ++ m ↔ ks <+: d := by
  constructor
  · intro h
    rcases hm with rfl | rfl
    · simpa using h
    · rcases List.prefix_concat_iff.mp (by simpa using h) with heq | h
      · exact absurd rfl (hks WHOLE (by simp [heq])).2.2
      · exact h
  · exact fun h => h.trans (List.prefix_append d m)

/-- The mark that the values of a conflict add to its path. -/
def value_mark (x y z : Value) : List String :=
  if x.is_dict ∨ y.is_dict ∨ z.is_dict then [WHOLE] else []

theorem getLast_plain {p ks : List String} (hks : ∀ k ∈ ks, PlainKey k) (hne : ks ≠ []) :
    (p ++ ks).getLast? ≠ some WHOLE := by
  rcases List.eq_nil_or_concat ks with rfl | ⟨init, last, rfl⟩
  · exact absurd rfl hne
  · rw [List.concat_eq_append, ← List.append_assoc, List.getLast?_concat]
    have := (hks last (by simp)).2.2
    simpa using this

theorem covers_position {p ks d m : List String} {x y z : Value} (hks : ∀ k ∈ ks, PlainKey k)
    (hne : ks ≠ []) (hm : m = [] ∨ m = [WHOLE]) :
    semantic_path_covers (p ++ ks ++ value_mark x y z) (p ++ d ++ m) = true ↔
      (any_dict x y z ∧ ks <+: d) ∨ (¬ any_dict x y z ∧ ks = d ∧ m = []) := by
  have hlast : (p ++ ks).getLast? ≠ some WHOLE := getLast_plain hks hne
  by_cases hany : any_dict x y z
  · have hmark : value_mark x y z = [WHOLE] := if_pos hany
    rw [hmark, covers_marked, List.append_assoc, List.prefix_append_right_inj,
      mem_whole_of_prefix hks hm]
    simp [hany]
  · have hmark : value_mark x y z = [] := if_neg hany
    rw [hmark, List.append_nil, covers_unmarked hlast, List.append_assoc, List.append_right_inj]
    simp only [hany, false_and, not_false_eq_true, true_and, false_or]
    rcases hm with rfl | rfl
    · simp
    · simp only [List.cons_ne_self, and_false, iff_false]
      intro heq
      exact (hks WHOLE (by simp [heq])).2.2 rfl

/-- A path that ends in no mark of its own gets the mark of its values. -/
theorem path_of_named {c : BranchMergeConflict} {p : SemanticWritePath} (hnamed : c.named_path = p)
    (hlast : p.getLast? ≠ some WHOLE) : c.path = p ++ value_mark c.base c.branch c.main := by
  subst hnamed
  rw [BranchMergeConflict.path, value_mark]
  by_cases hany : c.base.is_dict ∨ c.branch.is_dict ∨ c.main.is_dict
  · rw [if_pos ⟨hlast, hany⟩, if_pos hany]
  · rw [if_neg (fun h => hany h.2), if_neg hany, List.append_nil]

/-- The path of a conflict between the fields of one object. -/
theorem object_conflict_path {f : SemanticField} {id : String} {x y z : Value} {ks : List String}
    (hks : ∀ k ∈ ks, PlainKey k) (hne : ks ≠ []) :
    (conflict .both_changed f id (conflict_at "" x y z ks).field_path (read x ks) (read y ks)
      (read z ks)).path = [f.name, id] ++ ks ++ value_mark (read x ks) (read y ks) (read z ks) := by
  have htext : dotted_path "" ks ≠ "" := dotted_path_ne_empty hks (by simp [hne])
  have hparts : path_parts (dotted_path "" ks) = ks := by
    rw [path_parts_dotted_path hks]
    rfl
  refine path_of_named ?_ (getLast_plain hks hne)
  simp [BranchMergeConflict.named_path, conflict, conflict_at, htext, hparts, or_whole, hne]

/-- The conflicts of an object that all three graphs have. -/
theorem object_left_out {f : SemanticField} {id : String} {x y z : Value} {d m : List String}
    (hall : all_dicts x y z) (hx : Regular x) (hy : Regular y)
    (hxy : x.loosely_equal y = false) (hm : m = [] ∨ m = [WHOLE]) :
    (∃ c ∈ object_conflicts f id (some x) (some y) (some z),
        semantic_path_covers c.path ([f.name, id] ++ d ++ m) = true) ↔ Reached x y z d m := by
  have hconflicts : object_conflicts f id (some x) (some y) (some z) =
      (conflicting_fields "" x y z).map (fun c =>
        conflict .both_changed f id c.field_path c.base c.branch c.main) := by
    unfold object_conflicts
    rw [if_neg (by simp [same_or_absent, hxy])]
  have hne {ks : List String} (h : ConflictAt x y z ks) : ks ≠ [] := by
    rintro rfl
    exact h.2 hall
  rw [hconflicts]
  simp only [List.mem_map, exists_exists_and_eq_and, mem_conflicting_fields hx.wf]
  constructor
  · rintro ⟨c, ⟨ks, hks, rfl⟩, hcovers⟩
    have hplain := hks.plain hx.keys hy.keys
    refine ⟨ks, hks, ?_⟩
    rw [← covers_position (p := [f.name, id]) hplain (hne hks) hm]
    rw [← object_conflict_path hplain (hne hks)]
    exact hcovers
  · rintro ⟨ks, hks, hreach⟩
    have hplain := hks.plain hx.keys hy.keys
    refine ⟨_, ⟨ks, hks, rfl⟩, ?_⟩
    have hcovers := (covers_position (p := [f.name, id]) hplain (hne hks) hm).mpr hreach
    rwa [← object_conflict_path hplain (hne hks)] at hcovers

/-- A finding in a record of the whole graph. -/
def global_conflict (f : SemanticField) (c : FieldConflict) : BranchMergeConflict :=
  { code := .both_changed, collection := f, field_path := c.field_path, base := c.base,
    branch := c.branch, main := c.main,
    message := s!"Branch and main changed {c.field_path} differently from the base." }

/-- The path of a conflict in a record of the whole graph. -/
theorem global_conflict_path {f : SemanticField} {x y z : Value} {ks : List String}
    (hks : ∀ k ∈ ks, PlainKey k) :
    (global_conflict f (conflict_at f.name x y z ks)).path =
      if ks = [] then [f.name, WHOLE]
      else [f.name] ++ ks ++ value_mark (read x ks) (read y ks) (read z ks) := by
  have hname : path_parts f.name = [f.name] := by cases f <;> decide
  have htext : dotted_path f.name ks ≠ "" := dotted_path_ne_empty hks (by simp [hname])
  have hparts : path_parts (dotted_path f.name ks) = f.name :: ks := by
    rw [path_parts_dotted_path hks, hname]
    rfl
  have hnamed : (global_conflict f (conflict_at f.name x y z ks)).named_path =
      f.name :: or_whole ks := by
    simp [BranchMergeConflict.named_path, global_conflict, conflict_at, htext, hparts]
  by_cases hne : ks = []
  · subst hne
    simp [BranchMergeConflict.path, hnamed, or_whole]
  · rw [or_whole, if_neg hne] at hnamed
    rw [if_neg hne]
    exact path_of_named hnamed (getLast_plain (p := [f.name]) hks hne)

/-! ### Shapes of the documents of one object -/

theorem keys_of_lookup {d : List (String × Value)} {k : String} :
    (d.lookup k).isSome ↔ k ∈ d.map Prod.fst := by
  rw [← not_iff_not, Option.not_isSome_iff_eq_none, List.lookup_eq_none_iff]
  simp only [List.mem_map, not_exists, not_and, bne_iff_ne, ne_eq]
  exact ⟨fun h e he hk => h e he hk.symm, fun h e he hk => h e he hk.symm⟩

/-- Below an object without nested objects a first difference is at a key of it. -/
theorem first_flat {xs : List (String × Value)} {y : Value} {d : List String}
    (hflat : ∀ k v, xs.lookup k = some v → v.is_dict = false)
    (h : First (some (.dict xs)) (some y) d) : d = [] ∨ ∃ k, d = [k] := by
  cases d with
  | nil => exact Or.inl rfl
  | cons k d =>
    refine Or.inr ⟨k, ?_⟩
    obtain ⟨-, h⟩ := h
    simp only [Option.bind_some, entry_dict] at h
    cases hk : xs.lookup k with
    | none =>
      rw [hk] at h
      cases hy : y.entry k with
      | none =>
        rw [hy] at h
        exact absurd h (not_first_absent d)
      | some w =>
        rw [hy, first_one_sided.2] at h
        rw [h]
    | some v =>
      rw [hk] at h
      cases hy : y.entry k with
      | none =>
        rw [hy, first_one_sided.1] at h
        rw [h]
      | some w =>
        rw [hy, first_leaf (by simp [hflat k v hk])] at h
        rw [h.1]

/-- A difference two keys down is inside one field that both objects have as an object. -/
theorem first_nested {xs ys : List (String × Value)} {k j : String} {d : List String}
    (h : First (some (.dict xs)) (some (.dict ys)) (k :: j :: d)) :
    ∃ vs ws, xs.lookup k = some (.dict vs) ∧ ys.lookup k = some (.dict ws) ∧
      First (some (.dict vs)) (some (.dict ws)) (j :: d) := by
  obtain ⟨-, h⟩ := h
  simp only [Option.bind_some, entry_dict] at h
  cases hx : xs.lookup k with
  | none =>
    rw [hx] at h
    cases hy : ys.lookup k with
    | none =>
      rw [hy] at h
      exact absurd h (not_first_absent _)
    | some w => simp [hy, first_one_sided.2] at h
  | some v =>
    rw [hx] at h
    cases hy : ys.lookup k with
    | none => simp [hy, first_one_sided.1] at h
    | some w =>
      rw [hy] at h
      by_cases hdict : v.is_dict = true ∧ w.is_dict = true
      · obtain ⟨vs, rfl⟩ := is_dict_iff.mp hdict.1
        obtain ⟨ws, rfl⟩ := is_dict_iff.mp hdict.2
        exact ⟨vs, ws, rfl, rfl, h⟩
      · rw [first_leaf hdict] at h
        simp at h

/-- Nested objects of one field: main has an object there as well, or the fields of
    base and branch have the same keys. -/
theorem mainShaped_of_nested {xs ys zs : List (String × Value)} {d : List String}
    (hfirst : First (some (.dict xs)) (some (.dict ys)) d)
    (hnested : ∀ k vs ws, xs.lookup k = some (.dict vs) → ys.lookup k = some (.dict ws) →
      (∀ j v, vs.lookup j = some v → v.is_dict = false) ∧
        ((∃ us, zs.lookup k = some (.dict us)) ∨ vs.map Prod.fst = ws.map Prod.fst)) :
    MainShaped (.dict xs) (.dict ys) (some (.dict zs)) d := by
  intro e hed hne hnot
  cases e with
  | nil => exact absurd rfl (hnot zs)
  | cons k e =>
    cases d with
    | nil => simp at hed
    | cons k' d =>
      obtain ⟨rfl, htail⟩ := List.cons_prefix_cons.mp hed
      have hne : e ≠ d := fun h => hne (by rw [h])
      cases d with
      | nil => exact absurd (List.prefix_nil.mp htail) hne
      | cons j d =>
        obtain ⟨vs, ws, hv, hw, hfirst⟩ := first_nested hfirst
        obtain ⟨hflat, hmain⟩ := hnested k vs ws hv hw
        obtain ⟨j', hj'⟩ := (first_flat hflat hfirst).resolve_left (by simp)
        obtain ⟨rfl, rfl⟩ := List.cons.inj hj'
        -- the only strict prefix left is the field itself
        obtain rfl : e = [] := by
          cases e with
          | nil => rfl
          | cons j' e =>
            obtain ⟨rfl, he⟩ := List.cons_prefix_cons.mp htail
            exact absurd (by rw [List.prefix_nil.mp he]) hne
        rcases hmain with ⟨us, hu⟩ | hkeys
        · exact absurd (by simp [hu]) (hnot us)
        · have hone : (vs.lookup j).isSome ∨ (ws.lookup j).isSome := by
            by_contra hnone
            simp only [not_or, Option.not_isSome_iff_eq_none] at hnone
            obtain ⟨-, hfirst⟩ := hfirst
            simp only [Option.bind_some, entry_dict, hnone.1, hnone.2] at hfirst
            exact not_first_absent _ hfirst
          have hboth : (vs.lookup j).isSome ∧ (ws.lookup j).isSome := by
            rw [keys_of_lookup, keys_of_lookup, hkeys, or_self] at hone
            rw [keys_of_lookup, keys_of_lookup, hkeys]
            exact ⟨hone, hone⟩
          obtain ⟨a, ha⟩ := Option.isSome_iff_exists.mp hboth.1
          obtain ⟨b, hb⟩ := Option.isSome_iff_exists.mp hboth.2
          simp [hv, hw, ha, hb]

theorem Node.nested {n : Node} {k : String} {vs : List (String × Value)}
    (h : n.document_entries.lookup k = some (.dict vs)) :
    k = "extension_fields" ∧ ∀ j v, vs.lookup j = some v → v.is_dict = false := by
  rcases Node.document_entry (lookup_some_mem h) with ⟨rfl, hvs⟩ | ⟨-, hflat⟩
  · refine ⟨rfl, fun j v hv => ?_⟩
    have hentry : (extension_object n.extension_fields).entry j = some v := by rw [← hvs]; exact hv
    rw [extension_object_lookup] at hentry
    obtain ⟨value, -, rfl⟩ := Option.map_eq_some_iff.mp hentry
    simp
  · simp [is_dict] at hflat

theorem Edge.nested {e : Edge} {k : String} {vs : List (String × Value)}
    (h : (entries e.document).lookup k = some (.dict vs)) :
    vs.map Prod.fst = ["relevance", "weight", "scope", "qualifications"] ∧
      ∀ j v, vs.lookup j = some v → v.is_dict = false := by
  have hmem := lookup_some_mem h
  simp only [Edge.document, entries, List.mem_cons, Prod.mk.injEq, reduceCtorEq, and_false,
    List.not_mem_nil, or_false, false_or] at hmem
  cases ha : e.assessment with
  | none => simp [ha, opt_json] at hmem
  | some a =>
    simp only [ha, opt_json, EvidenceAssessment.document, dict.injEq] at hmem
    obtain ⟨-, rfl⟩ := hmem
    refine ⟨rfl, fun j v hv => ?_⟩
    have hmem := lookup_some_mem hv
    simp only [List.mem_cons, Prod.mk.injEq, List.not_mem_nil, or_false] at hmem
    rcases hmem with ⟨-, rfl⟩ | ⟨-, rfl⟩ | ⟨-, rfl⟩ | ⟨-, rfl⟩ <;> simp

theorem Proposal.nested [OperationDump] {q : Proposal} {k : String} {vs : List (String × Value)}
    (h : (entries q.document).lookup k = some (.dict vs)) :
    k = "card" ∧ ∀ j v, vs.lookup j = some v → v.is_dict = false := by
  have hmem := lookup_some_mem h
  have hopt (s : Option String) : ¬ (Value.dict vs = opt_str s) := by cases s <;> simp [opt_str]
  simp only [Proposal.document, entries, List.mem_cons, Prod.mk.injEq, reduceCtorEq, and_false,
    List.not_mem_nil, or_false, false_or, hopt, str_list, GatedCard.document, dict.injEq] at hmem
  obtain ⟨rfl, rfl⟩ := hmem
  refine ⟨rfl, fun j v hv => ?_⟩
  have hmem := lookup_some_mem hv
  simp only [List.mem_cons, Prod.mk.injEq, List.not_mem_nil, or_false] at hmem
  rcases hmem with ⟨-, rfl⟩ | ⟨-, rfl⟩ | ⟨-, rfl⟩ | ⟨-, rfl⟩ <;> simp

theorem Ambiguity.flat {a : Ambiguity} {k : String} {vs : List (String × Value)} :
    (entries a.document).lookup k ≠ some (.dict vs) := by
  intro h
  have hmem := lookup_some_mem h
  simp [Ambiguity.document, entries, str_list] at hmem

theorem GlossaryTerm.flat {t : GlossaryTerm} {k : String} {vs : List (String × Value)} :
    (entries t.document).lookup k ≠ some (.dict vs) := by
  intro h
  have hmem := lookup_some_mem h
  have hopt (s : Option String) : ¬ (Value.dict vs = opt_str s) := by cases s <;> simp [opt_str]
  simp [GlossaryTerm.document, entries, hopt] at hmem

section
variable [OperationDump] {base branch main : GraphState}

/-- The documents of one object in three graphs are shaped alike. -/
theorem object_shaped {f : SemanticField} (hf : f ∈ COLLECTIONS) {id : String} {x y z : Value}
    (hx : (base.part f).entry id = some x) (hy : (branch.part f).entry id = some y)
    (hz : (main.part f).entry id = some z) {d : List String}
    (hfirst : First (some x) (some y) d) : MainShaped x y (some z) d := by
  obtain ⟨xn, xe, xq, xa, xg⟩ := part_entry base id
  obtain ⟨yn, ye, yq, ya, yg⟩ := part_entry branch id
  obtain ⟨zn, ze, zq, za, zg⟩ := part_entry main id
  simp only [COLLECTIONS, List.mem_cons, List.not_mem_nil, or_false] at hf
  rcases hf with rfl | rfl | rfl | rfl | rfl
  · obtain ⟨n, -, rfl⟩ := Option.map_eq_some_iff.mp (xn ▸ hx)
    obtain ⟨m, -, rfl⟩ := Option.map_eq_some_iff.mp (yn ▸ hy)
    obtain ⟨l, -, rfl⟩ := Option.map_eq_some_iff.mp (zn ▸ hz)
    refine mainShaped_of_nested hfirst (fun k vs ws hv _ => ?_)
    obtain ⟨rfl, hflat⟩ := Node.nested hv
    exact ⟨hflat, Or.inl ⟨_, rfl⟩⟩
  · obtain ⟨a, -, rfl⟩ := Option.map_eq_some_iff.mp (xe ▸ hx)
    obtain ⟨b, -, rfl⟩ := Option.map_eq_some_iff.mp (ye ▸ hy)
    obtain ⟨c, -, rfl⟩ := Option.map_eq_some_iff.mp (ze ▸ hz)
    refine mainShaped_of_nested hfirst (fun k vs ws hv hw => ?_)
    obtain ⟨hkeys, hflat⟩ := Edge.nested hv
    exact ⟨hflat, Or.inr (hkeys.trans (Edge.nested hw).1.symm)⟩
  · obtain ⟨a, -, rfl⟩ := Option.map_eq_some_iff.mp (xq ▸ hx)
    obtain ⟨b, -, rfl⟩ := Option.map_eq_some_iff.mp (yq ▸ hy)
    obtain ⟨c, -, rfl⟩ := Option.map_eq_some_iff.mp (zq ▸ hz)
    refine mainShaped_of_nested hfirst (fun k vs ws hv _ => ?_)
    obtain ⟨rfl, hflat⟩ := Proposal.nested hv
    exact ⟨hflat, Or.inl ⟨_, rfl⟩⟩
  · obtain ⟨a, -, rfl⟩ := Option.map_eq_some_iff.mp (xa ▸ hx)
    obtain ⟨b, -, rfl⟩ := Option.map_eq_some_iff.mp (ya ▸ hy)
    obtain ⟨c, -, rfl⟩ := Option.map_eq_some_iff.mp (za ▸ hz)
    exact mainShaped_of_nested hfirst (fun k vs ws hv _ => absurd hv Ambiguity.flat)
  · obtain ⟨a, -, rfl⟩ := Option.map_eq_some_iff.mp (xg ▸ hx)
    obtain ⟨b, -, rfl⟩ := Option.map_eq_some_iff.mp (yg ▸ hy)
    obtain ⟨c, -, rfl⟩ := Option.map_eq_some_iff.mp (zg ▸ hz)
    exact mainShaped_of_nested hfirst (fun k vs ws hv _ => absurd hv GlossaryTerm.flat)

/-! ### The mandatory set -/

/-- The custom fields of every node have plain names, as declared fields do. -/
def PlainNames (s : GraphState) : Prop :=
  ∀ id n, s.nodes.get? id = some n → ∀ k, (Dict.get n.extension_fields k).isSome → PlainKey k

omit [OperationDump] in
theorem Node.document_regular {n : Node}
    (h : ∀ k, (Dict.get n.extension_fields k).isSome → PlainKey k) : Regular n.document := by
  refine ⟨n.document_wf, ?_⟩
  rw [Node.document_eq]
  refine keysIn_dict (fun k v hmem => ⟨?_, ?_⟩)
  · refine document_fields_plain n.type k ?_
    rw [← Node.document_keys]
    exact List.mem_map.mpr ⟨(k, v), hmem, rfl⟩
  · rcases Node.document_entry hmem with ⟨-, rfl⟩ | ⟨-, hflat⟩
    · refine keysIn_dict (fun j w hj => ?_)
      obtain ⟨e, he, hj⟩ := List.mem_map.mp hj
      obtain ⟨rfl, rfl⟩ := Prod.mk.inj hj
      refine ⟨h e.1 ?_, keysIn_of_not_dict (by simp)⟩
      exact Option.isSome_iff_exists.mpr ⟨e.2, Dict.get_eq_some_iff.mpr he⟩
    · exact keysIn_of_not_dict hflat

theorem plain_object_regular {s : GraphState} (hs : PlainNames s) {f : SemanticField}
    (hf : f ∈ COLLECTIONS) {id : String} {v : Value} (h : (s.part f).entry id = some v) :
    Regular v := by
  by_cases hnodes : f = .nodes
  · subst hnodes
    obtain ⟨n, hn, rfl⟩ := Option.map_eq_some_iff.mp ((part_entry s id).1 ▸ h)
    exact Node.document_regular (hs id n hn)
  · exact object_regular hf hnodes h

omit [OperationDump] in
/-- Plain names are not the mark. -/
theorem reserved_of_plain (hbase : PlainNames base) (hbranch : PlainNames branch) :
    ReservedNameKept base branch := by
  intro id n m hn hm
  have habsent {s : GraphState} {n : Node} (hs : PlainNames s) (hn : s.nodes.get? id = some n) :
      Dict.get n.extension_fields WHOLE = none := by
    by_contra hne
    exact (hs id n hn WHOLE (Option.isSome_iff_ne_none.mpr hne)).2.2 rfl
  rw [habsent hbase hn, habsent hbranch hm]
  trivial

/-- Main removed an object that base and branch both have. -/
def MainRemoved (g : BranchMergeGraphs) (p : SemanticWritePath) : Prop :=
  ∃ f ∈ COLLECTIONS, ∃ id, [f.name, id] <+: p ∧
    ((g.base_graph.part f).entry id).isSome ∧ ((g.branch_graph.part f).entry id).isSome ∧
    (g.main_graph.part f).entry id = none

/-- The values of the three graphs at a write path. -/
def value_at (s : GraphState) (p : SemanticWritePath) : Option Value :=
  semantic_path_value (graph_semantic_document s) p

omit [OperationDump] in
theorem object_conflicts_path {f : SemanticField} {id : String} {a b m : Option Value}
    {c : BranchMergeConflict} (h : c ∈ object_conflicts f id a b m) :
    c.collection = f ∧ c.entity_id = some id := by
  unfold object_conflicts at h
  dsimp only at h
  split at h
  · cases h
  · split at h
    · cases h
    · split at h
      · cases h
      · obtain rfl := List.mem_singleton.mp h
        exact ⟨rfl, rfl⟩
    · cases h
    · split at h
      · cases h
      · obtain rfl := List.mem_singleton.mp h
        exact ⟨rfl, rfl⟩
    · obtain rfl := List.mem_singleton.mp h
      exact ⟨rfl, rfl⟩
    · obtain ⟨c', -, rfl⟩ := List.mem_map.mp h
      exact ⟨rfl, rfl⟩

omit [OperationDump] in
/-- The path of any conflict goes on below its object, or below its record. -/
theorem conflict_path_head (c : BranchMergeConflict) :
    ∃ rest, rest ≠ [] ∧ c.path = (match c.entity_id with
      | none => [c.collection.name]
      | some id => [c.collection.name, id]) ++ rest := by
  have hwhole (parts : List String) : or_whole parts ≠ [] := by
    unfold or_whole
    split
    · simp
    · assumption
  have hnamed : ∃ rest, rest ≠ [] ∧ c.named_path = (match c.entity_id with
      | none => [c.collection.name]
      | some id => [c.collection.name, id]) ++ rest := by
    unfold BranchMergeConflict.named_path
    cases c.entity_id with
    | none => exact ⟨_, hwhole _, rfl⟩
    | some id => exact ⟨_, hwhole _, rfl⟩
  obtain ⟨rest, hne, hnamed⟩ := hnamed
  unfold BranchMergeConflict.path
  dsimp only
  split
  · exact ⟨rest ++ [WHOLE], by simp, by rw [hnamed, List.append_assoc]⟩
  · exact ⟨rest, hne, hnamed⟩

theorem left_out_iff_covered {g : BranchMergeGraphs} {p : SemanticWritePath} :
    g.left_out p = true ↔
      ∃ c ∈ g.deterministic_conflicts, semantic_path_covers c.path p = true := by
  simp [BranchMergeGraphs.left_out, branch_conflict_paths]

/-- Only the conflicts of its own object can cover the paths of an object. -/
theorem left_out_object {g : BranchMergeGraphs} {f : SemanticField} (hf : f ∈ COLLECTIONS)
    {id : String} {rest : List String}
    (hid : ((g.base_graph.part f).entry id).isSome ∨ ((g.branch_graph.part f).entry id).isSome) :
    g.left_out ([f.name, id] ++ rest) = true ↔
      ∃ c ∈ object_conflicts f id ((g.base_graph.part f).entry id)
          ((g.branch_graph.part f).entry id) ((g.main_graph.part f).entry id),
        semantic_path_covers c.path ([f.name, id] ++ rest) = true := by
  have hentry (s : GraphState) (k : String) :
      (entries (s.part f)).lookup k = (s.part f).entry k := by
    rw [collection_is_dict s hf]
    rfl
  rw [left_out_iff_covered]
  constructor
  · rintro ⟨c, hc, hcovers⟩
    obtain ⟨tail, hne, hpath⟩ := conflict_path_head c
    rw [BranchMergeGraphs.deterministic_conflicts, detect_branch_merge_conflicts,
      List.mem_append, List.mem_flatMap, List.mem_flatMap] at hc
    rcases hc with ⟨f', hf', hc⟩ | ⟨f', hf', hc⟩
    · obtain ⟨id', -, hc⟩ := List.mem_flatMap.mp hc
      obtain ⟨rfl, hid'⟩ := object_conflicts_path hc
      rw [hpath, hid'] at hcovers
      obtain ⟨hname, hpre⟩ := List.cons_prefix_cons.mp (prefix_of_covers hne hcovers)
      obtain rfl := field_name_injective hname
      obtain rfl := (List.cons_prefix_cons.mp hpre).1
      rw [hentry, hentry, hentry] at hc
      refine ⟨c, hc, ?_⟩
      rw [hpath, hid']
      exact hcovers
    · -- a conflict of a global names its field, which is no collection
      obtain ⟨c', -, rfl⟩ := List.mem_map.mp hc
      rw [hpath] at hcovers
      obtain ⟨hname, -⟩ := List.cons_prefix_cons.mp (prefix_of_covers hne hcovers)
      obtain rfl := field_name_injective hname
      exact absurd hf' (collection_not_global hf)
  · rintro ⟨c, hc, hcovers⟩
    refine ⟨c, List.mem_append_left _ (List.mem_flatMap.mpr ⟨f, hf, ?_⟩), hcovers⟩
    refine List.mem_flatMap.mpr ⟨id, ?_, by rwa [hentry, hentry, hentry]⟩
    -- the detector looks at every id of the base and of the branch
    have hmem : id ∈ (entries (g.base_graph.part f) ++ entries (g.branch_graph.part f)).map
        Prod.fst := by
      rw [List.map_append, List.mem_append]
      rw [← hentry, ← hentry, keys_of_lookup, keys_of_lookup] at hid
      exact hid
    simpa [sorted_set, List.mem_insertionSort, List.mem_dedup] using hmem

/-- Only the conflicts of its own record can cover the paths of a record. -/
theorem left_out_global {g : BranchMergeGraphs} {f : SemanticField} (hf : f ∈ GLOBALS)
    {rest : List String} :
    g.left_out (f.name :: rest) = true ↔
      ∃ c ∈ conflicting_fields f.name (g.base_graph.part f) (g.branch_graph.part f)
          (g.main_graph.part f),
        semantic_path_covers (global_conflict f c).path (f.name :: rest) = true := by
  rw [left_out_iff_covered]
  constructor
  · rintro ⟨c, hc, hcovers⟩
    obtain ⟨tail, hne, hpath⟩ := conflict_path_head c
    rw [BranchMergeGraphs.deterministic_conflicts, detect_branch_merge_conflicts,
      List.mem_append, List.mem_flatMap, List.mem_flatMap] at hc
    rcases hc with ⟨f', hf', hc⟩ | ⟨f', hf', hc⟩
    · obtain ⟨id', -, hc⟩ := List.mem_flatMap.mp hc
      obtain ⟨rfl, hid'⟩ := object_conflicts_path hc
      rw [hpath, hid'] at hcovers
      obtain ⟨hname, -⟩ := List.cons_prefix_cons.mp (prefix_of_covers hne hcovers)
      obtain rfl := field_name_injective hname
      exact absurd hf (collection_not_global hf')
    · obtain ⟨c', hc', rfl⟩ := List.mem_map.mp hc
      rw [hpath] at hcovers
      obtain ⟨hname, -⟩ := List.cons_prefix_cons.mp (prefix_of_covers hne hcovers)
      obtain rfl := field_name_injective hname
      rw [← hpath] at hcovers
      exact ⟨c', hc', hcovers⟩
  · rintro ⟨c, hc, hcovers⟩
    refine ⟨global_conflict f c,
      List.mem_append_right _ (List.mem_flatMap.mpr ⟨f, hf, ?_⟩), hcovers⟩
    exact List.mem_map.mpr ⟨c, hc, rfl⟩

theorem first_collection {s t : GraphState} {f : SemanticField} (hf : f ∈ COLLECTIONS)
    {d : List String} (h : First (some (s.part f)) (some (t.part f)) d) :
    ∃ id e, d = id :: e ∧ First ((s.part f).entry id) ((t.part f).entry id) e := by
  rw [collection_is_dict s hf, collection_is_dict t hf] at h
  obtain ⟨id, e, rfl, he⟩ := first_dict.mp h
  refine ⟨id, e, rfl, ?_⟩
  rw [collection_is_dict s hf, collection_is_dict t hf]
  exact he

omit [OperationDump] in
/-- A conflict at a whole object covers every path of it. -/
theorem whole_conflict_covers (code : ConflictCode) (f : SemanticField) (id : String)
    (base branch main : Value) (rest : List String) :
    semantic_path_covers (conflict code f id WHOLE base branch main).path
      ([f.name, id] ++ rest) = true := by
  have hpath : (conflict code f id WHOLE base branch main).path = [f.name, id] ++ [WHOLE] := by
    have hparts : path_parts WHOLE = [WHOLE] := by decide
    have hnamed : (conflict code f id WHOLE base branch main).named_path =
        [f.name, id] ++ [WHOLE] := by
      simp [BranchMergeConflict.named_path, conflict, hparts, or_whole]
    rw [BranchMergeConflict.path, if_neg]
    · exact hnamed
    · rintro ⟨hlast, -⟩
      exact hlast (by rw [hnamed]; exact List.getLast?_concat)
  rw [hpath, covers_marked]
  exact List.prefix_append _ _

/-- Objects are no nulls. -/
theorem nullClear_object (g : BranchMergeGraphs) {f : SemanticField} (hf : f ∈ COLLECTIONS)
    (id : String) : NullClear ((g.base_graph.part f).entry id) ((g.branch_graph.part f).entry id)
      ((g.main_graph.part f).entry id) := by
  have hobject (s : GraphState) : (s.part f).entry id ≠ some .null := by
    intro h
    simpa [is_dict] using object_is_dict hf h
  exact fun _ => ⟨hobject _, hobject _, hobject _⟩

/-- The paths of an object: a conflict covers one exactly when main differs from both
    sides there and null is not mistaken for nothing, or main lacks the object. -/
theorem left_out_of_object {g : BranchMergeGraphs} (hbase : PlainNames g.base_graph)
    (hbranch : PlainNames g.branch_graph) {f : SemanticField} (hf : f ∈ COLLECTIONS) {id : String}
    {d : List String}
    (hfirst : First ((g.base_graph.part f).entry id) ((g.branch_graph.part f).entry id) d) :
    g.left_out ([f.name, id] ++ d ++ mark (under ((g.base_graph.part f).entry id) d)
        (under ((g.branch_graph.part f).entry id) d)) = true ↔
      (Differs (under ((g.base_graph.part f).entry id) d)
          (under ((g.branch_graph.part f).entry id) d) (under ((g.main_graph.part f).entry id) d) ∧
        (Held ((g.main_graph.part f).entry id) d →
          NullClear (under ((g.base_graph.part f).entry id) d)
            (under ((g.branch_graph.part f).entry id) d)
            (under ((g.main_graph.part f).entry id) d))) ∨
        (((g.base_graph.part f).entry id).isSome ∧ ((g.branch_graph.part f).entry id).isSome ∧
          (g.main_graph.part f).entry id = none) := by
  have hid : ((g.base_graph.part f).entry id).isSome ∨
      ((g.branch_graph.part f).entry id).isSome := by
    by_contra hne
    simp only [not_or, Option.not_isSome_iff_eq_none] at hne
    rw [hne.1, hne.2] at hfirst
    exact not_first_absent d hfirst
  have hclear := nullClear_object g hf id
  rw [List.append_assoc, left_out_object hf hid, ← List.append_assoc]
  cases hx : (g.base_graph.part f).entry id with
  | none =>
    cases hy : (g.branch_graph.part f).entry id with
    | none => simp [hx, hy] at hid
    | some y =>
      -- the branch created the object: the path is the object itself
      rw [hx, hy, first_one_sided.2] at hfirst
      subst hfirst
      rw [hx, hy] at hclear
      cases hz : (g.main_graph.part f).entry id with
      | none => simp [object_conflicts, same_or_absent, Differs]
      | some z =>
        by_cases hzy : z.loosely_equal y = true
        · simp [object_conflicts, same_or_absent, Differs, hzy]
        · have hcovers := whole_conflict_covers .branch_created_main_created f id .null y z
            ([] ++ mark none (some y))
          rw [hz] at hclear
          simp only [object_conflicts, same_or_absent, Differs, hzy, under_nil]
          simpa [or_null, hclear] using hcovers
  | some x =>
    cases hy : (g.branch_graph.part f).entry id with
    | none =>
      -- the branch removed it
      rw [hx, hy, first_one_sided.1] at hfirst
      subst hfirst
      rw [hx, hy] at hclear
      cases hz : (g.main_graph.part f).entry id with
      | none => simp [object_conflicts, same_or_absent, Differs]
      | some z =>
        by_cases hzx : z.loosely_equal x = true
        · simp [object_conflicts, same_or_absent, Differs, hzx]
        · have hcovers := whole_conflict_covers .branch_removed_main_changed f id x .null z
            ([] ++ mark (some x) none)
          rw [hz] at hclear
          simp only [object_conflicts, same_or_absent, Differs, hzx, under_nil]
          simpa [or_null, hclear] using hcovers
    | some y =>
      rw [hx, hy] at hfirst
      have hrx := plain_object_regular hbase hf hx
      have hry := plain_object_regular hbranch hf hy
      have hxy : x.loosely_equal y = false := by
        by_contra hne
        exact not_first_of_loosely_equal hrx.wf hry.wf (by simpa using hne) d hfirst
      cases hz : (g.main_graph.part f).entry id with
      | none =>
        -- main removed it: one conflict covers the whole object
        have hcovers := whole_conflict_covers .branch_changed_main_removed f id x y .null
          (d ++ mark (under (some x) d) (under (some y) d))
        simp only [object_conflicts, same_or_absent, hxy]
        simpa [or_null] using hcovers
      | some z =>
        have hwz : z.Wf := (part_wf g.main_graph f).entry hz
        rw [object_left_out ⟨object_is_dict hf hx, object_is_dict hf hy, object_is_dict hf hz⟩
          hrx hry hxy (mark_cases _ _)]
        simp only [under_some]
        rw [reached_iff_differs hrx.wf hry.wf hwz hfirst (object_shaped hf hx hy hz hfirst)]
        simp

/-- The paths of a record of the whole graph. -/
theorem left_out_of_global {g : BranchMergeGraphs} {f : SemanticField} (hf : f ∈ GLOBALS)
    {d : List String}
    (hfirst : First (some (g.base_graph.part f)) (some (g.branch_graph.part f)) d) :
    g.left_out (part_written g.base_graph g.branch_graph f d) = true ↔
      Differs ((g.base_graph.part f).at_path d) ((g.branch_graph.part f).at_path d)
          ((g.main_graph.part f).at_path d) ∧
        (Held (some (g.main_graph.part f)) d →
          NullClear ((g.base_graph.part f).at_path d) ((g.branch_graph.part f).at_path d)
            ((g.main_graph.part f).at_path d)) := by
  have hx := global_regular g.base_graph hf
  have hy := global_regular g.branch_graph hf
  have hz := global_regular g.main_graph hf
  by_cases hscope : f = .project_truth_scope
  · -- the scope is a list: one conflict or none
    subst hscope
    have hnot : ¬ all_dicts (g.base_graph.part .project_truth_scope)
        (g.branch_graph.part .project_truth_scope) (g.main_graph.part .project_truth_scope) := by
      simp [all_dicts, GraphState.part]
    obtain ⟨rfl, -⟩ := (first_leaf (by simp [GraphState.part])).mp hfirst
    rw [← reached_iff_differs hx.wf hy.wf hz.wf hfirst
      (fun e he hne => absurd (List.prefix_nil.mp he) hne), part_written, if_pos rfl,
      left_out_global hf]
    simp only [at_path_nil, mark, mem_conflicting_fields hx.wf]
    rw [reached_root hnot _ (Or.inl rfl)]
    constructor
    · rintro ⟨c, ⟨ks, hks, -⟩, -⟩
      cases ks with
      | nil => exact hks.1
      | cons k ks => exact hks.1
    · intro htwo
      refine ⟨_, ⟨[], ⟨htwo, hnot⟩, rfl⟩, ?_⟩
      rw [global_conflict_path (by simp), if_pos rfl]
      exact covers_marked.mpr (List.prefix_append [SemanticField.project_truth_scope.name] [WHOLE])
  · have hf' : f = .ontology ∨ f = .coverage := by
      revert hf hscope
      cases f <;> decide
    have hall : all_dicts (g.base_graph.part f) (g.branch_graph.part f) (g.main_graph.part f) := by
      rcases hf' with rfl | rfl <;> exact ⟨rfl, rfl, rfl⟩
    have hshape : MainShaped (g.base_graph.part f) (g.branch_graph.part f)
        (some (g.main_graph.part f)) d := by
      have hflat : ∀ k vs, (entries (g.base_graph.part f)).lookup k ≠ some (.dict vs) := by
        intro k vs h
        have hmem := lookup_some_mem h
        have htime (t : Option Datetime) : ¬ (Value.dict vs = opt_json Datetime.to_json t) := by
          cases t <;> simp [opt_json, Datetime.to_json]
        rcases hf' with rfl | rfl
        · simp [GraphState.part, OntologyState.document, entries] at hmem
        · simp [GraphState.part, CoverageBoundary.document, entries, str_list, htime] at hmem
      rcases hf' with rfl | rfl
      · exact mainShaped_of_nested hfirst (fun k vs ws hv _ => absurd hv (hflat k vs))
      · exact mainShaped_of_nested hfirst (fun k vs ws hv _ => absurd hv (hflat k vs))
    rw [← reached_iff_differs hx.wf hy.wf hz.wf hfirst hshape, part_written, if_neg hscope,
      written, List.append_assoc, List.singleton_append, left_out_global hf]
    simp only [mem_conflicting_fields hx.wf, under_some]
    have hne {ks : List String} (h : ConflictAt (g.base_graph.part f) (g.branch_graph.part f)
        (g.main_graph.part f) ks) : ks ≠ [] := by
      rintro rfl
      exact h.2 hall
    have hpath : f.name :: (d ++ mark ((g.base_graph.part f).at_path d)
        ((g.branch_graph.part f).at_path d)) = [f.name] ++ d ++ mark
          ((g.base_graph.part f).at_path d) ((g.branch_graph.part f).at_path d) := by simp
    rw [hpath]
    constructor
    · rintro ⟨c, ⟨ks, hks, rfl⟩, hcovers⟩
      have hplain := hks.plain hx.keys hy.keys
      rw [global_conflict_path hplain, if_neg (hne hks),
        covers_position hplain (hne hks) (mark_cases _ _)] at hcovers
      exact ⟨ks, hks, hcovers⟩
    · rintro ⟨ks, hks, hreach⟩
      have hplain := hks.plain hx.keys hy.keys
      refine ⟨_, ⟨ks, hks, rfl⟩, ?_⟩
      rw [global_conflict_path hplain, if_neg (hne hks),
        covers_position hplain (hne hks) (mark_cases _ _)]
      exact hreach

/-- Main has the object in which the last part of the path is looked up. -/
def HeldAt (s : GraphState) (p : SemanticWritePath) : Prop :=
  ∃ vs, (graph_semantic_document s).at_path (unmarked p).dropLast = some (.dict vs)

theorem heldAt_global {s : GraphState} {f : SemanticField} {p : SemanticWritePath}
    {k : String} {d : List String} (hp : unmarked p = f.name :: k :: d) :
    HeldAt s p ↔ Held (some (s.part f)) (k :: d) := by
  rw [HeldAt, hp, List.dropLast_cons_of_ne_nil (by simp), document_part]
  rfl

/-- A path of the branch delta is left out of the mandatory set exactly where main's
    value differs from the base's and from the branch's, except where a null and an
    absent key are mistaken for each other, or where main removed the whole object; at
    every other path an accepted merge has the branch's value. -/
theorem left_out_iff_both_changed {g : BranchMergeGraphs} (hbase : PlainNames g.base_graph)
    (hbranch : PlainNames g.branch_graph) {p : SemanticWritePath} (hp : p ∈ g.allowed) :
    (p ∉ g.mandatory ↔
      (Differs (value_at g.base_graph p) (value_at g.branch_graph p) (value_at g.main_graph p) ∧
        (HeldAt g.main_graph p → NullClear (value_at g.base_graph p) (value_at g.branch_graph p)
          (value_at g.main_graph p))) ∨ MainRemoved g p) ∧
      ∀ current_main prepared graph,
        validate_branch_merge_candidate_conformance g current_main prepared graph = .ok () →
        p ∈ g.mandatory → same_or_absent (value_at g.branch_graph p) (value_at graph p) := by
  constructor
  · have hmandatory : p ∉ g.mandatory ↔ g.left_out p = true := by
      simp [BranchMergeGraphs.mandatory, hp]
    rw [hmandatory]
    obtain ⟨f, d, hfirst, rfl⟩ := mem_graph_write_paths.mp hp
    have hunmarked := unmarked_part_written (reserved_of_plain hbase hbranch) hfirst
    have hvalue (s : GraphState) : value_at s (part_written g.base_graph g.branch_graph f d) =
        (s.part f).at_path d := by
      rw [value_at, semantic_path_value, hunmarked, document_part]
    rw [hvalue, hvalue, hvalue]
    rcases collection_or_global f with hf | hf
    · have hscope : f ≠ .project_truth_scope := by
        rintro rfl
        revert hf
        decide
      obtain ⟨id, e, rfl, hinner⟩ := first_collection hf hfirst
      have hunder (s : GraphState) : (s.part f).at_path (id :: e) = under ((s.part f).entry id) e :=
        rfl
      have hpath : part_written g.base_graph g.branch_graph f (id :: e) = [f.name, id] ++ e ++
          mark (under ((g.base_graph.part f).entry id) e)
            (under ((g.branch_graph.part f).entry id) e) := by
        rw [part_written, if_neg hscope, written_cons]
        rfl
      have hremoved : MainRemoved g (part_written g.base_graph g.branch_graph f (id :: e)) ↔
          ((g.base_graph.part f).entry id).isSome ∧ ((g.branch_graph.part f).entry id).isSome ∧
            (g.main_graph.part f).entry id = none := by
        rw [hpath]
        constructor
        · rintro ⟨f', -, id', hpre, h⟩
          rw [List.append_assoc] at hpre
          obtain ⟨hname, hpre⟩ := List.cons_prefix_cons.mp hpre
          obtain rfl := field_name_injective hname
          obtain rfl := (List.cons_prefix_cons.mp hpre).1
          exact h
        · intro h
          exact ⟨f, hf, id, by rw [List.append_assoc]; exact List.prefix_append _ _, h⟩
      -- at an object itself nothing is null, below it main holds the place or does not
      have hheld : (HeldAt g.main_graph (part_written g.base_graph g.branch_graph f (id :: e)) →
            NullClear (under ((g.base_graph.part f).entry id) e)
              (under ((g.branch_graph.part f).entry id) e)
              (under ((g.main_graph.part f).entry id) e)) ↔
          (Held ((g.main_graph.part f).entry id) e →
            NullClear (under ((g.base_graph.part f).entry id) e)
              (under ((g.branch_graph.part f).entry id) e)
              (under ((g.main_graph.part f).entry id) e)) := by
        rw [heldAt_global hunmarked]
        cases e with
        | nil => simp [nullClear_object g hf id]
        | cons k e =>
          rw [collection_is_dict g.main_graph hf, held_cons]
          rfl
      rw [hunder, hunder, hunder, hheld, hremoved, hpath]
      exact left_out_of_object hbase hbranch hf hinner
    · have hremoved : ¬ MainRemoved g (part_written g.base_graph g.branch_graph f d) := by
        rintro ⟨f', hf', id', hpre, -⟩
        have hhead : [f.name] <+: part_written g.base_graph g.branch_graph f d := by
          unfold part_written written
          split
          · exact List.prefix_append [f.name] [WHOLE]
          · rw [List.append_assoc]
            exact List.prefix_append _ _
        obtain ⟨rest, hrest⟩ := hhead
        rw [← hrest] at hpre
        obtain ⟨hname, -⟩ := List.cons_prefix_cons.mp hpre
        obtain rfl := field_name_injective hname
        exact collection_not_global hf' hf
      rw [left_out_of_global hf hfirst]
      cases d with
      | nil => simp [hremoved, nullClear_present]
      | cons k d =>
        rw [heldAt_global hunmarked]
        simp [hremoved]
  · intro current_main prepared graph h hmem
    obtain ⟨-, -, -, hmissing⟩ := conformance_ok.mp h
    have := List.filter_eq_nil_iff.mp hmissing p hmem
    simpa [value_at] using this

end

namespace Reference

/-- The branch gives a question its first custom field and main removes the question. -/
def removed_graphs : BranchMergeGraphs where
  base_graph := { nodes := Table.ofList [(question "n").node] }
  branch_graph := { nodes := Table.ofList [{ (question "n").node with
    extension_fields := Table.ofList [("field", .number 1)] }] }
  main_graph := {}

/-- A Decision with or without a selected option. -/
def decided (option : Option String) : GraphState where
  nodes := Table.ofList [{ (decision "n" ["l"]).node with
    body := .decision { question := "Which?", options := ["l"], selected_option := option } }]

/-- The branch selects an option of a Decision that main wrote anew as a question. -/
def retyped_graphs : BranchMergeGraphs where
  base_graph := decided none
  branch_graph := decided (some "l")
  main_graph := { nodes := Table.ofList [(question "n").node] }

end Reference

open Reference in
/-- Main has what the base has at the new field, nothing, and still need not take the
    branch's value: it lacks the whole object.  And main's nothing differs from the null
    of the base and from the branch's option, but reads as null, so the option is mandatory. -/
theorem removed_object_left_out :
    (["nodes", "n", "extension_fields", "field"] ∈ removed_graphs.allowed ∧
      ["nodes", "n", "extension_fields", "field"] ∉ removed_graphs.mandatory ∧
      same_or_absent
        (value_at removed_graphs.main_graph ["nodes", "n", "extension_fields", "field"])
        (value_at removed_graphs.base_graph ["nodes", "n", "extension_fields", "field"])) ∧
    (["nodes", "n", "selected_option"] ∈ retyped_graphs.allowed ∧
      ["nodes", "n", "selected_option"] ∈ retyped_graphs.mandatory ∧
      Differs (value_at retyped_graphs.base_graph ["nodes", "n", "selected_option"])
        (value_at retyped_graphs.branch_graph ["nodes", "n", "selected_option"])
        (value_at retyped_graphs.main_graph ["nodes", "n", "selected_option"])) := by
  unfold Differs
  decide +kernel

open Reference in
theorem field_changed_by_branch_mandatory :
    ["nodes", "n", "extension_fields", "field"] ∈ (two_fields_graphs "field").allowed ∧
      (["nodes", "n", "extension_fields", "field"] ∉ (two_fields_graphs "field").mandatory ↔
        (Differs (value_at (two_fields "field" 1 "a") ["nodes", "n", "extension_fields", "field"])
            (value_at (two_fields "field" 2 "a") ["nodes", "n", "extension_fields", "field"])
            (value_at (two_fields "field" 1 "b") ["nodes", "n", "extension_fields", "field"]) ∧
          (HeldAt (two_fields "field" 1 "b") ["nodes", "n", "extension_fields", "field"] →
            NullClear
              (value_at (two_fields "field" 1 "a") ["nodes", "n", "extension_fields", "field"])
              (value_at (two_fields "field" 2 "a") ["nodes", "n", "extension_fields", "field"])
              (value_at (two_fields "field" 1 "b")
                ["nodes", "n", "extension_fields", "field"]))) ∨
          MainRemoved (two_fields_graphs "field")
            ["nodes", "n", "extension_fields", "field"]) := by
  have hallowed : ["nodes", "n", "extension_fields", "field"] ∈
      (two_fields_graphs "field").allowed := by decide +kernel
  have hplain (value : Rat) : PlainNames (two_fields "field" value "a") := by
    intro id n hn k hk
    obtain rfl := List.mem_singleton.mp (Table.get?_eq_some_iff.mp hn).1
    obtain ⟨v, hv⟩ := Option.isSome_iff_exists.mp hk
    have hmem := Table.mem_of_mem_ofList (Dict.get_eq_some_iff.mp hv)
    simp only [List.mem_cons, Prod.mk.injEq, List.not_mem_nil, or_false] at hmem
    rcases hmem with ⟨rfl, -⟩ | ⟨rfl, -⟩ <;> decide
  exact ⟨hallowed, (left_out_iff_both_changed (g := two_fields_graphs "field") (hplain 1) (hplain 2)
    hallowed).1⟩

end ResearchGraph
