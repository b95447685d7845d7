import ResearchGraph.Lib.Value

/-! # A digest without collisions

    A self-delimiting text for every dynamic value.  It stands in for a
    cryptographic digest where only injectivity matters and the result must
    be computable.
-/

namespace Lib

/-- A code that can be read off the front of any text. -/
def SelfDelimiting {α : Type} (code : α → List Char) : Prop :=
  ∀ a b r r', code a ++ r = code b ++ r' → a = b ∧ r = r'

/-- A natural number as that many strokes. -/
def strokes : Nat → List Char
  | 0 => ['.']
  | n + 1 => '|' :: strokes n

theorem strokes_selfDelimiting : SelfDelimiting strokes := by
  intro m
  induction m with
  | zero => intro n r r' h; cases n <;> simp_all [strokes]
  | succ m ih =>
    intro n r r' h
    cases n with
    | zero => simp [strokes] at h
    | succ n =>
      simp only [strokes, List.cons_append, List.cons.injEq, true_and] at h
      obtain ⟨rfl, hr⟩ := ih n r r' h
      exact ⟨rfl, hr⟩

/-- Characters, each behind a comma, closed by a dot. -/
def chars_code : List Char → List Char
  | [] => ['.']
  | c :: cs => ',' :: c :: chars_code cs

theorem chars_code_selfDelimiting : SelfDelimiting chars_code := by
  intro xs
  induction xs with
  | nil => intro ys r r' h; cases ys <;> simp_all [chars_code]
  | cons x xs ih =>
    intro ys r r' h
    cases ys with
    | nil => simp [chars_code] at h
    | cons y ys =>
      simp only [chars_code, List.cons_append, List.cons.injEq, true_and] at h
      obtain ⟨rfl, h⟩ := h
      obtain ⟨rfl, hr⟩ := ih ys r r' h
      exact ⟨rfl, hr⟩

def text_code (s : String) : List Char := chars_code s.toList

theorem text_code_selfDelimiting : SelfDelimiting text_code := by
  intro s t r r' h
  obtain ⟨hst, hr⟩ := chars_code_selfDelimiting _ _ r r' h
  exact ⟨String.toList_inj.mp hst, hr⟩

def int_code : Int → List Char
  | .ofNat n => '+' :: strokes n
  | .negSucc n => '-' :: strokes n

theorem int_code_selfDelimiting : SelfDelimiting int_code := by
  intro i j r r' h
  cases i <;> cases j <;>
    simp only [int_code, List.cons_append, List.cons.injEq, Char.reduceEq, true_and,
      false_and] at h
  all_goals
    obtain ⟨rfl, hr⟩ := strokes_selfDelimiting _ _ r r' h
    exact ⟨rfl, hr⟩

namespace Value

mutual
/-- A leading letter for the kind of value, then its content. -/
def code : Value → List Char
  | .null => ['n']
  | .bool b => if b then ['t'] else ['x']
  | .int i => 'i' :: int_code i
  | .float q => 'f' :: (int_code q.num ++ strokes q.den)
  | .str s => 's' :: text_code s
  | .list xs => 'l' :: code_list xs
  | .dict xs => 'd' :: code_entries xs

def code_list : List Value → List Char
  | [] => ['.']
  | x :: xs => ',' :: (code x ++ code_list xs)

def code_entries : List (String × Value) → List Char
  | [] => ['.']
  | (k, x) :: xs => ',' :: (text_code k ++ (code x ++ code_entries xs))
end

mutual
theorem code_selfDelimiting : ∀ (v w : Value) (r r' : List Char),
    code v ++ r = code w ++ r' → v = w ∧ r = r'
  | .null, w, r, r', h => by
    rcases w with _ | (_ | _) | _ | _ | _ | _ | _ <;> simp_all [code]
  | .bool b, w, r, r', h => by
    rcases w with _ | (_ | _) | _ | _ | _ | _ | _ <;> cases b <;> simp_all [code]
  | .int i, w, r, r', h => by
    rcases w with _ | (_ | _) | j | _ | _ | _ | _ <;> simp [code] at h
    obtain ⟨rfl, hr⟩ := int_code_selfDelimiting i j r r' h
    exact ⟨rfl, hr⟩
  | .float p, w, r, r', h => by
    rcases w with _ | (_ | _) | _ | q | _ | _ | _ <;> simp [code] at h
    obtain ⟨hnum, h⟩ := int_code_selfDelimiting _ _ _ _ h
    obtain ⟨hden, hr⟩ := strokes_selfDelimiting _ _ r r' h
    exact ⟨congrArg _ (Rat.ext hnum hden), hr⟩
  | .str s, w, r, r', h => by
    rcases w with _ | (_ | _) | _ | _ | t | _ | _ <;> simp [code] at h
    obtain ⟨rfl, hr⟩ := text_code_selfDelimiting s t r r' h
    exact ⟨rfl, hr⟩
  | .list xs, w, r, r', h => by
    rcases w with _ | (_ | _) | _ | _ | _ | ys | _ <;> simp [code] at h
    obtain ⟨rfl, hr⟩ := code_list_selfDelimiting xs ys r r' h
    exact ⟨rfl, hr⟩
  | .dict xs, w, r, r', h => by
    rcases w with _ | (_ | _) | _ | _ | _ | _ | ys <;> simp [code] at h
    obtain ⟨rfl, hr⟩ := code_entries_selfDelimiting xs ys r r' h
    exact ⟨rfl, hr⟩

theorem code_list_selfDelimiting : ∀ (xs ys : List Value) (r r' : List Char),
    code_list xs ++ r = code_list ys ++ r' → xs = ys ∧ r = r'
  | [], ys, r, r', h => by cases ys <;> simp_all [code_list]
  | x :: xs, ys, r, r', h => by
    cases ys with
    | nil => simp [code_list] at h
    | cons y ys =>
      simp only [code_list, List.cons_append, List.append_assoc, List.cons.injEq, true_and] at h
      obtain ⟨rfl, hxs⟩ := code_selfDelimiting x y _ _ h
      obtain ⟨rfl, hr⟩ := code_list_selfDelimiting xs ys r r' hxs
      exact ⟨rfl, hr⟩

theorem code_entries_selfDelimiting : ∀ (xs ys : List (String × Value)) (r r' : List Char),
    code_entries xs ++ r = code_entries ys ++ r' → xs = ys ∧ r = r'
  | [], ys, r, r', h => by
    rcases ys with _ | ⟨⟨l, y⟩, ys⟩ <;> simp_all [code_entries]
  | (k, x) :: xs, ys, r, r', h => by
    rcases ys with _ | ⟨⟨l, y⟩, ys⟩
    · simp [code_entries] at h
    · simp only [code_entries, List.cons_append, List.append_assoc, List.cons.injEq,
        true_and] at h
      obtain ⟨rfl, hx⟩ := text_code_selfDelimiting k l _ _ h
      obtain ⟨rfl, hxs⟩ := code_selfDelimiting x y _ _ hx
      obtain ⟨rfl, hr⟩ := code_entries_selfDelimiting xs ys r r' hxs
      exact ⟨rfl, hr⟩
end

/-- The text of a value. -/
def digest (v : Value) : String := String.ofList (code v)

theorem digest_injective : Function.Injective digest := by
  intro v w h
  have hcode : code v = code w := String.ofList_injective h
  exact (code_selfDelimiting v w [] [] (by rw [hcode])).1

end Value

end Lib
