import ResearchGraph.Encode
import Mathlib.Algebra.Ring.Nat

/-! # Times survive their text

    The text of a calendar time is read back as that time, and every time read
    from a text is one of the calendar.
-/

namespace ResearchGraph

open Lib

/-- A time the calendar has. -/
structure Datetime.Calendar (t : Datetime) : Prop where
  year : 1 ≤ t.year ∧ t.year ≤ 9999
  month : 1 ≤ t.month ∧ t.month ≤ 12
  day : 1 ≤ t.day ∧ t.day ≤ month_days t.year t.month
  clock : t.hour ≤ 23 ∧ t.minute ≤ 59 ∧ t.second ≤ 59
  fraction : t.microsecond < 1000000
  offset : ∀ o, t.offset = some o → o.natAbs < 1440

/-! ### Digits -/

theorem digits_eq {cs : List Char} (hne : cs ≠ []) (h : ∀ c ∈ cs, c.isDigit = true) :
    digits cs = some (Nat.ofDigitChars 10 cs 0) := by
  have hempty : cs.isEmpty = false := by simpa using hne
  have hany : cs.any (fun c => !c.isDigit) = false := by
    rw [List.any_eq_false]
    intro c hc
    simp [h c hc]
  simp only [digits, hempty, hany, Bool.or_false, Bool.false_eq_true, if_false, Option.some.injEq]
  rw [Nat.ofDigitChars_eq_foldl]
  congr 1
  funext n c
  rw [Nat.mul_comm]

/-- The digits of a padded number, and the number they spell. -/
theorem padded_digits {width n : Nat} (hwidth : 0 < width) (h : n < 10 ^ width) :
    (padded width n).toList.length = width ∧ (∀ c ∈ (padded width n).toList, c.isDigit = true) ∧
      digits (padded width n).toList = some n := by
  have hlength : (Nat.toDigits 10 n).length ≤ width :=
    (Nat.length_toDigits_le_iff (by decide) hwidth).mpr h
  have hdigit : ∀ c ∈ (padded width n).toList, c.isDigit = true := by
    intro c hc
    simp only [padded, String.toList_ofList, List.mem_append, List.mem_replicate] at hc
    rcases hc with ⟨-, rfl⟩ | hc
    · rfl
    · exact Nat.isDigit_of_mem_toDigits (by decide) (by decide) hc
  have hlen : (padded width n).toList.length = width := by
    simp only [padded, String.toList_ofList, List.length_append, List.length_replicate]
    omega
  refine ⟨hlen, hdigit, ?_⟩
  rw [digits_eq (List.ne_nil_of_length_pos (by omega)) hdigit]
  simp only [padded, String.toList_ofList, Nat.ofDigitChars_append,
    Nat.ofDigitChars_replicate_zero, Nat.mul_zero, Nat.ofDigitChars_ten_toDigits]

theorem padded_two {n : Nat} (h : n < 100) :
    ∃ a b, (padded 2 n).toList = [a, b] ∧ digits [a, b] = some n ∧ a.isDigit = true := by
  obtain ⟨hlen, hdigit, hval⟩ := padded_digits (show 0 < 2 by decide) h
  obtain ⟨a, b, hab⟩ := List.length_eq_two.mp hlen
  rw [hab] at hval hdigit
  exact ⟨a, b, hab, hval, hdigit a (by simp)⟩

theorem padded_four {n : Nat} (h : n < 10000) :
    ∃ a b c d, (padded 4 n).toList = [a, b, c, d] ∧ digits [a, b, c, d] = some n := by
  obtain ⟨hlen, -, hval⟩ := padded_digits (show 0 < 4 by decide) h
  match hcs : (padded 4 n).toList, hlen with
  | [a, b, c, d], _ => exact ⟨a, b, c, d, rfl, hcs ▸ hval⟩

/-! ### The text of a time -/

theorem parse_offset_text {o : Option Int} (h : ∀ i, o = some i → i.natAbs < 1440) :
    parse_offset (offset_text o).toList = some o := by
  cases o with
  | none => rfl
  | some i =>
    have hi := h i rfl
    unfold offset_text
    by_cases hzero : i = 0
    · subst hzero
      rfl
    · obtain ⟨a, b, hab, hhours, -⟩ := padded_two (show i.natAbs / 60 < 100 by omega)
      obtain ⟨c, d, hcd, hminutes, -⟩ := padded_two (show i.natAbs % 60 < 100 by omega)
      have hrange : ¬ (23 < i.natAbs / 60 ∨ 59 < i.natAbs % 60) := by omega
      simp only [hzero, if_false, String.toList_append, hab, hcd]
      by_cases hneg : i < 0
      · simp only [hneg, if_true, String.reduceToList, List.cons_append, List.nil_append,
          parse_offset, hhours, hminutes, Option.bind_eq_bind, Option.bind_some, hrange, if_false]
        rw [if_neg (by decide), Option.some_inj, Option.some_inj]
        omega
      · simp only [hneg, if_false, String.reduceToList, List.cons_append, List.nil_append,
          parse_offset, hhours, hminutes, Option.bind_eq_bind, Option.bind_some, hrange, if_false]
        rw [if_true, Option.some_inj, Option.some_inj]
        omega

/-- An offset starts with no digit and no decimal point. -/
theorem offset_text_head {o : Option Int} {c : Char} {cs : List Char}
    (h : (offset_text o).toList = c :: cs) : c.isDigit = false ∧ c ≠ '.' := by
  have hhead : (offset_text o).toList.head? = some c := by rw [h]; rfl
  unfold offset_text at hhead
  split at hhead
  · cases hhead
  · split_ifs at hhead
    · cases hhead
      decide
    · simp only [String.toList_append, String.reduceToList, List.cons_append,
        List.head?_cons, Option.some.injEq] at hhead
      subst hhead
      decide
    · simp only [String.toList_append, String.reduceToList, List.cons_append,
        List.head?_cons, Option.some.injEq] at hhead
      subst hhead
      decide

theorem takeWhile_digits {ds cs : List Char} (hds : ∀ c ∈ ds, c.isDigit = true)
    (hcs : ∀ c rest, cs = c :: rest → c.isDigit = false) :
    (ds ++ cs).takeWhile Char.isDigit = ds ∧ (ds ++ cs).dropWhile Char.isDigit = cs := by
  induction ds with
  | nil =>
    cases cs with
    | nil => simp
    | cons c rest => simp [hcs c rest rfl]
  | cons d ds ih =>
    have hd : d.isDigit = true := hds d (by simp)
    obtain ⟨htake, hdrop⟩ := ih (fun c hc => hds c (by simp [hc]))
    simp [hd, htake, hdrop]

/-- Seconds, their fraction and the offset are read back. -/
theorem parse_seconds_text {t : Datetime} {s us : Nat} {o : Option Int}
    (ht : t.microsecond = 0) (hs : s ≤ 59) (hus : us < 1000000)
    (ho : ∀ i, o = some i → i.natAbs < 1440) :
    parse_seconds t (":" ++ padded 2 s ++ (if us = 0 then "" else "." ++ padded 6 us)
      ++ offset_text o).toList = some { t with second := s, microsecond := us, offset := o } := by
  obtain ⟨a, b, hab, hsec, -⟩ := padded_two (show s < 100 by omega)
  have hoffset := parse_offset_text ho
  have hhead := @offset_text_head o
  simp only [String.toList_append, hab]
  have hrange : ¬ 59 < s := by omega
  by_cases hzero : us = 0
  · subst hzero
    simp only [if_true, String.reduceToList, List.append_nil, List.cons_append, List.nil_append]
    unfold parse_seconds
    simp only [hsec, Option.bind_eq_bind, Option.bind_some, hrange, if_false]
    split
    · next frac hpoint => exact absurd rfl (hhead hpoint).2
    · rw [hoffset, Option.bind_some, ht]
  · obtain ⟨hlen, hdigit, hfrac⟩ := padded_digits (show 0 < 6 by decide) hus
    obtain ⟨htake, hdrop⟩ := takeWhile_digits hdigit (fun c rest h => (hhead h).1)
    have hne : (padded 6 us).toList.isEmpty = false := by
      rw [List.isEmpty_eq_false_iff]
      exact List.ne_nil_of_length_pos (by omega)
    have hsix : ((padded 6 us).toList ++ ['0', '0', '0', '0', '0', '0']).take 6 =
        (padded 6 us).toList := List.take_left' hlen
    simp only [hzero, if_false, String.toList_append, String.reduceToList, List.cons_append,
      List.nil_append]
    unfold parse_seconds
    simp only [hsec, Option.bind_eq_bind, Option.bind_some, hrange, if_false, htake, hdrop, hsix,
      hfrac, hne, Bool.false_eq_true, hoffset]

/-- The text of a calendar time. -/
def Datetime.text (t : Datetime) : String :=
  padded 4 t.year ++ "-" ++ padded 2 t.month ++ "-" ++ padded 2 t.day ++ "T"
    ++ padded 2 t.hour ++ ":" ++ padded 2 t.minute ++ ":" ++ padded 2 t.second
    ++ (if t.microsecond = 0 then "" else "." ++ padded 6 t.microsecond)
    ++ offset_text t.offset

theorem Datetime.to_json_eq (t : Datetime) : t.to_json = .str t.text := rfl

theorem month_days_le (year month : Nat) : month_days year month ≤ 31 := by
  unfold month_days
  split <;> (try split) <;> decide

/-- A calendar time is read back from its text. -/
theorem parse_datetime_text {t : Datetime} (h : t.Calendar) :
    parse_datetime t.text = some t ∧ looks_like_date t.text = true := by
  obtain ⟨hyear, hmonth, hday, ⟨hhour, hminute, hsecond⟩, hfraction, hoffset⟩ := h
  have hdays := month_days_le t.year t.month
  obtain ⟨a, b, c, d, hy, hyval⟩ := padded_four (show t.year < 10000 by omega)
  obtain ⟨e, f, hm, hmval, -⟩ := padded_two (show t.month < 100 by omega)
  obtain ⟨g, i, hd, hdval, -⟩ := padded_two (show t.day < 100 by omega)
  obtain ⟨j, k, hh, hhval, -⟩ := padded_two (show t.hour < 100 by omega)
  obtain ⟨l, m, hmin, hminval, -⟩ := padded_two (show t.minute < 100 by omega)
  let date : Datetime :=
    { year := t.year, month := t.month, day := t.day, hour := t.hour, minute := t.minute,
      offset := none }
  have hseconds := parse_seconds_text (show date.microsecond = 0 from rfl) hsecond hfraction
    hoffset
  simp only [String.toList_append, String.reduceToList] at hseconds
  have hlist : t.text.toList = a :: b :: c :: d :: '-' :: e :: f :: '-' :: g :: i :: 'T' :: j :: k
      :: ':' :: l :: m :: ([':'] ++ (padded 2 t.second).toList
        ++ (if t.microsecond = 0 then "" else "." ++ padded 6 t.microsecond).toList
        ++ (offset_text t.offset).toList) := by
    simp [Datetime.text, String.toList_append, hy, hm, hd, hh, hmin]
  constructor
  · unfold parse_datetime
    rw [hlist]
    have hdate : ¬ (t.year = 0 ∨ t.month = 0 ∨ 12 < t.month ∨ t.day = 0 ∨
        month_days t.year t.month < t.day) := by omega
    have hclock : ¬ (23 < t.hour ∨ 59 < t.minute) := by omega
    simp only [hyval, hmval, hdval, hhval, hminval, Option.bind_eq_bind, Option.bind_some, hdate,
      if_false, hclock]
    simpa using hseconds
  · have hlength : 10 ≤ t.text.length := by
      rw [← String.length_toList, hlist]
      simp only [List.length_cons]
      omega
    simp [looks_like_date, hlist, hlength]

/-! ### Times that are read -/

theorem digit_value_lt {c : Char} (h : c.isDigit = true) : c.toNat - '0'.toNat < 10 := by
  simp only [Char.isDigit, Bool.and_eq_true, decide_eq_true_eq] at h
  have hle : c.toNat ≤ 57 := h.2
  have hzero : '0'.toNat = 48 := rfl
  omega

theorem digits_lt {cs : List Char} {n : Nat} (h : digits cs = some n) : n < 10 ^ cs.length := by
  unfold digits at h
  split at h
  · cases h
  · next hdigits =>
    simp only [Bool.or_eq_true, not_or, Bool.not_eq_true, List.any_eq_false] at hdigits
    obtain rfl := Option.some.inj h
    have hfold : ∀ (cs : List Char) (acc : Nat), (∀ c ∈ cs, c.isDigit = true) →
        cs.foldl (fun n c => n * 10 + (c.toNat - '0'.toNat)) acc < 10 ^ cs.length * (acc + 1) := by
      intro cs
      induction cs with
      | nil => simp
      | cons c cs ih =>
        intro acc hcs
        have hc := digit_value_lt (hcs c (by simp))
        have hrest := ih (acc * 10 + (c.toNat - '0'.toNat)) (fun x hx => hcs x (by simp [hx]))
        rw [List.foldl_cons, List.length_cons, Nat.pow_succ, Nat.mul_assoc]
        refine Nat.lt_of_lt_of_le hrest (Nat.mul_le_mul_left _ ?_)
        omega
    have hbound := hfold cs 0 (fun c hc => by simpa using hdigits.2 c hc)
    simpa using hbound

theorem parse_offset_lt {cs : List Char} {o : Option Int} (h : parse_offset cs = some o) :
    ∀ i, o = some i → i.natAbs < 1440 := by
  rintro i rfl
  unfold parse_offset at h
  split at h
  · cases h
  · cases h
    decide
  · cases h
    decide
  · simp only [Option.bind_eq_bind, Option.bind_eq_some_iff] at h
    obtain ⟨hours, -, minutes, -, h⟩ := h
    split_ifs at h with hrange hplus hminus
    · obtain rfl := Option.some.inj (Option.some.inj h)
      omega
    · obtain rfl := Option.some.inj (Option.some.inj h)
      omega
  · cases h

/-- The time part of a text is one of the clock, and keeps the date. -/
theorem parse_seconds_calendar {t u : Datetime} {cs : List Char} (hzero : t.microsecond = 0)
    (hsecond : t.second ≤ 59) (h : parse_seconds t cs = some u) :
    u.second ≤ 59 ∧ u.microsecond < 1000000 ∧ (∀ o, u.offset = some o → o.natAbs < 1440) ∧
      u.year = t.year ∧ u.month = t.month ∧ u.day = t.day ∧ u.hour = t.hour ∧
      u.minute = t.minute := by
  unfold parse_seconds at h
  split at h
  · simp only [Option.bind_eq_bind, Option.bind_eq_some_iff] at h
    obtain ⟨s, -, h⟩ := h
    split_ifs at h with hs
    split at h
    · simp only [Option.bind_eq_some_iff] at h
      obtain ⟨us, hus, h⟩ := h
      split_ifs at h with hempty
      simp only [Option.bind_eq_some_iff, Option.some.injEq] at h
      obtain ⟨o, ho, rfl⟩ := h
      have hlt := digits_lt hus
      have hle : 10 ^ (List.take 6 (List.takeWhile Char.isDigit ‹List Char› ++
          ['0', '0', '0', '0', '0', '0'])).length ≤ 10 ^ 6 :=
        Nat.pow_le_pow_right (by decide) (List.length_take_le _ _)
      exact ⟨by simpa using hs, Nat.lt_of_lt_of_le hlt hle, parse_offset_lt ho, rfl, rfl, rfl,
        rfl, rfl⟩
    · simp only [Option.bind_eq_some_iff, Option.some.injEq] at h
      obtain ⟨o, ho, rfl⟩ := h
      refine ⟨by simpa using hs, ?_, parse_offset_lt ho, rfl, rfl, rfl, rfl, rfl⟩
      show t.microsecond < 1000000
      omega
  · simp only [Option.bind_eq_bind, Option.bind_eq_some_iff, Option.some.injEq] at h
    obtain ⟨o, ho, rfl⟩ := h
    refine ⟨hsecond, ?_, parse_offset_lt ho, rfl, rfl, rfl, rfl, rfl⟩
    show t.microsecond < 1000000
    omega

/-- What is read from a text is a calendar time. -/
theorem parse_datetime_calendar {s : String} {t : Datetime} (h : parse_datetime s = some t) :
    t.Calendar := by
  unfold parse_datetime at h
  split at h
  · simp only [Option.bind_eq_bind, Option.bind_eq_some_iff] at h
    obtain ⟨year, hyear, month, -, day, -, h⟩ := h
    have hyear : year < 10 ^ 4 := digits_lt hyear
    split_ifs at h with hdate
    split at h
    · obtain rfl := Option.some.inj h
      refine ⟨?_, ?_, ?_, ?_, ?_, ?_⟩ <;> simp only <;> first | omega | simp
    · split_ifs at h with hsep
      simp only [Option.bind_eq_some_iff] at h
      obtain ⟨hour, -, minute, -, h⟩ := h
      split_ifs at h with hclock
      obtain ⟨hsecond, hfraction, hoffset, hy, hm, hd, hh, hmin⟩ :=
        parse_seconds_calendar rfl (by simp) h
      refine ⟨?_, ?_, ?_, ?_, hfraction, hoffset⟩
      · rw [hy]
        simp only
        omega
      · rw [hm]
        simp only
        omega
      · rw [hd, hy, hm]
        simp only
        omega
      · rw [hh, hmin]
        simp only
        omega
    · cases h
  · cases h

theorem decode_datetime_calendar {mode : DecodeMode} {v : Value} {t : Datetime}
    (h : decode_datetime mode v = .ok t) : t.Calendar := by
  unfold decode_datetime at h
  split at h
  · split_ifs at h with hmode
    split at h
    · next hparse =>
      cases h
      exact parse_datetime_calendar hparse
    · cases h
  · cases h

/-- Both decoders read a calendar time back. -/
theorem decode_datetime_text {t : Datetime} (h : t.Calendar) (mode : DecodeMode) :
    decode_datetime mode t.to_json = .ok t := by
  obtain ⟨hparse, hlooks⟩ := parse_datetime_text h
  simp [Datetime.to_json_eq, decode_datetime, hparse, hlooks]

end ResearchGraph
