import Mathlib.Data.Char
import Mathlib.Data.List.Lex
import Mathlib.Data.Nat.Digits.Defs
import Mathlib.Tactic.Ring
import Questionnaire.Calendar.DateText
import Questionnaire.Proofs.Text.Blank

/-!
# Written dates read back

The parts of a written date are numbers with zeros in front up to a width. Such a number is read
back from its digits (`ofDigitChars_padded`). Digits of one width are in the order of the numbers
that they stand for (`ofDigitChars_lt_iff`), so they are the only ones of that width with their
value (`padded_ofDigitChars`). The lenient reader reads every date back (`ofBound?_toText`); the
strict one reads exactly the written dates of the years that four digits can hold
(`ofAnswer?_eq_some_iff`).
-/

namespace Questionnaire.Date

/-! ## Digits -/

/-- A number in digits has digits alone. -/
theorem isDigit_of_mem_padded {width n : Nat} {c : Char} (h : c ∈ padded width n) :
    c.isDigit = true := by
  rcases List.mem_append.1 h with h | h
  · rw [List.eq_of_mem_replicate h]
    rfl
  · exact Nat.isDigit_of_mem_toDigits (by decide) (by decide) h

/-- Zeros in front do not change the number that digits stand for. -/
theorem ofDigitChars_padded (width n : Nat) : Nat.ofDigitChars 10 (padded width n) 0 = n := by
  rw [padded, Nat.ofDigitChars_append, Nat.ofDigitChars_replicate_zero, Nat.mul_zero,
    Nat.ofDigitChars_ten_toDigits]

/-- A number that fits a width has exactly that many digits. -/
theorem length_padded {width n : Nat} (hwidth : 0 < width) (h : n < 10 ^ width) :
    (padded width n).length = width := by
  have hlength := Nat.toDigits_length 10 n width hwidth h
  simp only [padded, List.length_append, List.length_replicate]
  omega

/-- Some digit is always written. -/
theorem padded_ne_nil (width n : Nat) : padded width n ≠ [] := by
  simp [padded, Nat.toDigits_ne_nil]

/-- The first digit counts for as many powers of ten as digits follow. -/
theorem ofDigitChars_cons (c : Char) (rest : List Char) :
    Nat.ofDigitChars 10 (c :: rest) 0 =
      10 ^ rest.length * (c.toNat - 48) + Nat.ofDigitChars 10 rest 0 := by
  have hzero : '0'.toNat = 48 := rfl
  rw [Nat.ofDigitChars_cons, Nat.ofDigitChars_eq_ofDigitChars_zero, Nat.mul_zero, Nat.zero_add,
    hzero]

/-- Digits of a width stand for a number that fits the width. -/
theorem ofDigitChars_lt {cs : List Char} (h : ∀ c ∈ cs, c.isDigit = true) :
    Nat.ofDigitChars 10 cs 0 < 10 ^ cs.length := by
  induction cs with
  | nil => simp
  | cons c rest ih =>
    have hc : c.toNat ≤ 57 := (Char.isDigit_iff_toNat.1 (h c List.mem_cons_self)).2
    have hrest := ih fun d hd => h d (List.mem_cons_of_mem _ hd)
    rw [ofDigitChars_cons, List.length_cons]
    calc 10 ^ rest.length * (c.toNat - 48) + Nat.ofDigitChars 10 rest 0
        < 10 ^ rest.length * (c.toNat - 48) + 10 ^ rest.length := by omega
      _ = 10 ^ rest.length * (c.toNat - 48 + 1) := by ring
      _ ≤ 10 ^ rest.length * 10 := Nat.mul_le_mul_left _ (by omega)
      _ = 10 ^ (rest.length + 1) := by ring

/-- Of two numbers in the same base the quotients decide the order unless they are the same. -/
theorem mul_add_lt_mul_add_iff {base m n x y : ℕ} (hx : x < base) (hy : y < base) :
    base * m + x < base * n + y ↔ m < n ∨ m = n ∧ x < y := by
  have hsmaller : ∀ {k l u v : ℕ}, u < base → k < l → base * k + u < base * l + v := by
    intro k l u v hu hkl
    calc base * k + u < base * k + base := Nat.add_lt_add_left hu _
      _ = base * (k + 1) := by ring
      _ ≤ base * l := Nat.mul_le_mul_left _ hkl
      _ ≤ base * l + v := Nat.le_add_right _ _
  rcases Nat.lt_trichotomy m n with h | rfl | h
  · exact iff_of_true (hsmaller hx h) (.inl h)
  · omega
  · have hgreater : base * n + y < base * m + x := hsmaller hy h
    omega

/-- Digits of one width are in the order of the numbers that they stand for. -/
theorem ofDigitChars_lt_iff {cs ds : List Char} (hcs : ∀ c ∈ cs, c.isDigit = true)
    (hds : ∀ d ∈ ds, d.isDigit = true) (hlength : cs.length = ds.length) :
    Nat.ofDigitChars 10 cs 0 < Nat.ofDigitChars 10 ds 0 ↔ cs < ds := by
  induction cs generalizing ds with
  | nil =>
    obtain rfl : ds = [] := List.length_eq_zero_iff.1 hlength.symm
    simp
  | cons c rest ih =>
    obtain _ | ⟨d, rest'⟩ := ds
    · cases hlength
    have hlength' : rest.length = rest'.length := by simpa using hlength
    have hrest : ∀ c ∈ rest, c.isDigit = true := fun e he => hcs e (List.mem_cons_of_mem _ he)
    have hrest' : ∀ d ∈ rest', d.isDigit = true := fun e he => hds e (List.mem_cons_of_mem _ he)
    have hc : 48 ≤ c.toNat := (Char.isDigit_iff_toNat.1 (hcs c List.mem_cons_self)).1
    have hd : 48 ≤ d.toNat := (Char.isDigit_iff_toNat.1 (hds d List.mem_cons_self)).1
    have hlt := ofDigitChars_lt hrest
    have hlt' := ofDigitChars_lt hrest'
    rw [← hlength'] at hlt'
    rw [ofDigitChars_cons, ofDigitChars_cons, ← hlength', List.cons_lt_cons_iff,
      ← ih hrest hrest' hlength', mul_add_lt_mul_add_iff hlt hlt']
    have hfirst : c.toNat - 48 < d.toNat - 48 ↔ c < d := by
      rw [Nat.sub_lt_sub_iff_right hc]
      rfl
    have hsame : c.toNat - 48 = d.toNat - 48 ↔ c = d := by
      rw [← Char.toNat_inj]
      omega
    rw [hfirst, hsame]

/-- Digits of one width that stand for the same number are the same. -/
theorem eq_of_ofDigitChars_eq {cs ds : List Char} (hcs : ∀ c ∈ cs, c.isDigit = true)
    (hds : ∀ d ∈ ds, d.isDigit = true) (hlength : cs.length = ds.length)
    (h : Nat.ofDigitChars 10 cs 0 = Nat.ofDigitChars 10 ds 0) : cs = ds := by
  rcases lt_trichotomy cs ds with hlt | heq | hgt
  · exact absurd h ((ofDigitChars_lt_iff hcs hds hlength).2 hlt).ne
  · exact heq
  · exact absurd h ((ofDigitChars_lt_iff hds hcs hlength.symm).2 hgt).ne'

/-- Digits of a width are the number that they stand for, written in that width. -/
theorem padded_ofDigitChars {cs : List Char} (hne : cs ≠ []) (h : ∀ c ∈ cs, c.isDigit = true) :
    padded cs.length (Nat.ofDigitChars 10 cs 0) = cs := by
  refine eq_of_ofDigitChars_eq (fun c hc => isDigit_of_mem_padded hc) h ?_ ?_
  · exact length_padded (List.length_pos_iff.2 hne) (ofDigitChars_lt h)
  · exact ofDigitChars_padded _ _

/-! ## Days -/

/-- A day that exists is found by its year, month and day of the month. -/
theorem of?_self (d : Date) : of? d.year d.month d.day = some d :=
  dif_pos d.exists_day

/-- The day found by a year, a month and a day of the month has them. -/
theorem of?_eq_some {year : Int} {month day : Nat} {d : Date} (h : of? year month day = some d) :
    d.year = year ∧ d.month = month ∧ d.day = day := by
  unfold of? at h
  split at h
  next =>
    cases h
    exact ⟨rfl, rfl, rfl⟩
  next => cases h

/-- No month has more than 31 days, and there is none after the twelfth. -/
theorem daysInMonth_le (year : Int) (month : Nat) :
    daysInMonth year month ≤ 31 ∧ (12 < month → daysInMonth year month = 0) := by
  have hfebruary : (if isLeapYear year then 29 else 28) ≤ 31 := by split <;> decide
  unfold daysInMonth
  generalize (if isLeapYear year then 29 else 28) = days at hfebruary ⊢
  split <;> omega

/-- The month and the day of a date have at most two digits. -/
theorem month_lt_day_lt (d : Date) : d.month < 10 ^ 2 ∧ d.day < 10 ^ 2 := by
  obtain ⟨-, -, hday, hdays⟩ := d.exists_day
  obtain ⟨hmost, hnone⟩ := daysInMonth_le d.year d.month
  omega

/-! ## Dates in answers -/

/-- A date of a year that four digits can hold is written in ten characters. -/
theorem exists_write_eq {d : Date} (hlow : 0 ≤ d.year) (hhigh : d.year ≤ 9999) :
    ∃ a b c e f g h i, padded 4 d.year.toNat = [a, b, c, e] ∧ padded 2 d.month = [f, g] ∧
      padded 2 d.day = [h, i] ∧ d.write = [a, b, c, e, '-', f, g, '-', h, i] := by
  obtain ⟨hmonth, hday⟩ := month_lt_day_lt d
  obtain ⟨a, b, c, e, hyear⟩ : ∃ a b c e, padded 4 d.year.toNat = [a, b, c, e] := by
    have hlength : (padded 4 d.year.toNat).length = 4 := length_padded (by decide) (by omega)
    match padded 4 d.year.toNat, hlength with
    | [a, b, c, e], _ => exact ⟨a, b, c, e, rfl⟩
  obtain ⟨f, g, hmonth⟩ := List.length_eq_two.1 (length_padded (by decide) hmonth)
  obtain ⟨h, i, hday⟩ := List.length_eq_two.1 (length_padded (by decide) hday)
  refine ⟨a, b, c, e, f, g, h, i, hyear, hmonth, hday, ?_⟩
  rw [write, writeYear, if_pos ⟨hlow, hhigh⟩, hyear, hmonth, hday]
  rfl

/-- The strict reader reads exactly the written dates of the years 0 to 9999. -/
theorem ofAnswerChars?_eq_some_iff {cs : List Char} {d : Date} :
    ofAnswerChars? cs = some d ↔ cs = d.write ∧ 0 ≤ d.year ∧ d.year ≤ 9999 := by
  constructor
  · intro hread
    unfold ofAnswerChars? at hread
    split at hread
    next a b c e f g h i =>
      split at hread
      next hdigits =>
        obtain ⟨hyear, hmonth, hday⟩ := of?_eq_some hread
        simp only [List.all_cons, List.all_nil, Bool.and_true, Bool.and_eq_true] at hdigits
        have hyear' : ∀ x ∈ [a, b, c, e], x.isDigit = true := by simp [hdigits]
        have hmonth' : ∀ x ∈ [f, g], x.isDigit = true := by simp [hdigits]
        have hday' : ∀ x ∈ [h, i], x.isDigit = true := by simp [hdigits]
        -- Four digits cannot spell a year beyond the range.
        have hbound : Nat.ofDigitChars 10 [a, b, c, e] 0 < 10 ^ 4 := ofDigitChars_lt hyear'
        have hrange : 0 ≤ d.year ∧ d.year ≤ 9999 := by omega
        refine ⟨?_, hrange⟩
        have hyearText := padded_ofDigitChars (by simp) hyear'
        have hmonthText := padded_ofDigitChars (by simp) hmonth'
        have hdayText := padded_ofDigitChars (by simp) hday'
        simp only [List.length_cons, List.length_nil] at hyearText hmonthText hdayText
        rw [write, writeYear, if_pos hrange, hyear, hmonth, hday, Int.toNat_natCast, hyearText,
          hmonthText, hdayText]
        rfl
      next => cases hread
    next => cases hread
  · rintro ⟨rfl, hlow, hhigh⟩
    obtain ⟨a, b, c, e, f, g, h, i, hyear, hmonth, hday, hwrite⟩ := exists_write_eq hlow hhigh
    have hdigits : [a, b, c, e, f, g, h, i].all Char.isDigit = true := by
      have hsplit : [a, b, c, e, f, g, h, i] =
          padded 4 d.year.toNat ++ padded 2 d.month ++ padded 2 d.day := by
        rw [hyear, hmonth, hday]
        rfl
      rw [hsplit, List.all_eq_true]
      intro x hx
      rcases List.mem_append.1 hx with hx | hx
      · exact (List.mem_append.1 hx).elim isDigit_of_mem_padded isDigit_of_mem_padded
      · exact isDigit_of_mem_padded hx
    rw [hwrite, ofAnswerChars?, if_pos hdigits, ← hyear, ← hmonth, ← hday, ofDigitChars_padded,
      ofDigitChars_padded, ofDigitChars_padded, Int.toNat_of_nonneg hlow, of?_self]

/-- An answer gives a date exactly when it is the written date and the year has four digits. -/
theorem ofAnswer?_eq_some_iff {s : String} {d : Date} :
    ofAnswer? s = some d ↔ s = d.toText ∧ 0 ≤ d.year ∧ d.year ≤ 9999 := by
  rw [ofAnswer?, ofAnswerChars?_eq_some_iff, toText, ← String.toList_inj, String.toList_ofList]

/-! ## Dates in surveys -/

/-- Digits before something else are read as the number that they stand for. -/
theorem readDigits_append {limit : Nat} {cs rest : List Char}
    (hdigits : ∀ c ∈ cs, c.isDigit = true) (hne : cs ≠ []) (hlimit : cs.length ≤ limit)
    (hrest : rest.takeWhile Char.isDigit = []) :
    readDigits limit (cs ++ rest) = some (Nat.ofDigitChars 10 cs 0, rest) := by
  simp only [readDigits, List.takeWhile_append_of_pos hdigits, hrest, List.append_nil,
    List.take_of_length_le hlimit, if_neg hne, List.drop_left]

/-- A text that starts with a character that is not blank has no leading blanks. -/
theorem dropBlank_cons {c : Char} (h : Text.isBlankChar c = false) (rest : List Char) :
    Text.dropBlank (c :: rest) = c :: rest :=
  List.dropWhile_cons_of_neg (by simp [h])

/-- A padded number starts with a character that is not blank. -/
theorem dropBlank_padded_append (width n : Nat) (rest : List Char) :
    Text.dropBlank (padded width n ++ rest) = padded width n ++ rest := by
  obtain ⟨c, cs, hcons⟩ := List.exists_cons_of_ne_nil (padded_ne_nil width n)
  have hc : c.isDigit = true := isDigit_of_mem_padded (hcons ▸ List.mem_cons_self)
  rw [hcons, List.cons_append]
  exact dropBlank_cons (Text.isBlankChar_eq_false_of_isDigit hc) _

/-- The year of a written date is read. -/
theorem readYear_writeYear (year : Int) (rest : List Char) :
    readYear (writeYear year ++ '-' :: rest) = some (year, '-' :: rest) := by
  have hstop : ('-' :: rest).takeWhile Char.isDigit = [] := rfl
  have hdigits : ∀ n, ∀ c ∈ padded 4 n, c.isDigit = true := fun n c hc => isDigit_of_mem_padded hc
  -- With a sign as many digits are read as there are.
  have hsigned : ∀ n, readDigits (padded 4 n ++ '-' :: rest).length (padded 4 n ++ '-' :: rest) =
      some (n, '-' :: rest) := fun n => by
    rw [readDigits_append (hdigits n) (padded_ne_nil 4 n) (by simp) hstop, ofDigitChars_padded]
  unfold writeYear
  split
  next hrange =>
    obtain ⟨c, cs, hcons⟩ := List.exists_cons_of_ne_nil (padded_ne_nil 4 year.toNat)
    have hc : c.isDigit = true := hdigits year.toNat c (hcons ▸ List.mem_cons_self)
    have hminus : c ≠ '-' := by rintro rfl; cases hc
    have hplus : c ≠ '+' := by rintro rfl; cases hc
    have hlength : (padded 4 year.toNat).length = 4 := length_padded (by decide) (by omega)
    have hread : readDigits 4 (padded 4 year.toNat ++ '-' :: rest) =
        some (year.toNat, '-' :: rest) := by
      rw [readDigits_append (hdigits _) (padded_ne_nil 4 _) (by omega) hstop, ofDigitChars_padded]
    rw [readYear, dropBlank_padded_append]
    rw [hcons, List.cons_append] at hread ⊢
    split
    next heq => exact absurd (List.cons.inj heq).1 hminus
    next heq => exact absurd (List.cons.inj heq).1 hplus
    next => simp only [hread, Option.map_some, Int.toNat_of_nonneg hrange.1]
  next hrange =>
    by_cases hneg : year < 0
    · have hyear : -(year.natAbs : Int) = year := by omega
      rw [if_pos hneg, readYear, List.cons_append, dropBlank_cons rfl]
      simp only [hsigned, Option.map_some, hyear]
    · have hyear : (year.natAbs : Int) = year := by omega
      rw [if_neg hneg, readYear, List.cons_append, dropBlank_cons rfl]
      simp only [hsigned, Option.map_some, hyear]

/-- A part of a written date after the year is read. -/
theorem readPart_padded {n : Nat} (h : n < 10 ^ 2) {rest : List Char}
    (hrest : rest.takeWhile Char.isDigit = []) :
    readPart ('-' :: padded 2 n ++ rest) = some (n, rest) := by
  have hlength : (padded 2 n).length = 2 := length_padded (by decide) h
  rw [readPart, List.cons_append, dropBlank_cons rfl]
  simp only [dropBlank_padded_append]
  rw [readDigits_append (fun c hc => isDigit_of_mem_padded hc) (padded_ne_nil 2 n) (by omega) hrest,
    ofDigitChars_padded]

/-- Every written date is read back as a bound. -/
theorem ofBound?_toText (d : Date) : ofBound? d.toText = some d := by
  obtain ⟨hmonth, hday⟩ := month_lt_day_lt d
  have hdayPart : readPart ('-' :: padded 2 d.day) = some (d.day, []) := by
    simpa using readPart_padded hday (List.takeWhile_nil)
  have hmonthPart : readPart ('-' :: padded 2 d.month ++ '-' :: padded 2 d.day) =
      some (d.month, '-' :: padded 2 d.day) := readPart_padded hmonth rfl
  rw [ofBound?, toText, String.toList_ofList, write, List.append_assoc, List.cons_append,
    readYear_writeYear]
  simp only [Option.bind_eq_bind, Option.bind_some, ← List.cons_append, hmonthPart, hdayPart,
    of?_self]
  rfl

end Questionnaire.Date
