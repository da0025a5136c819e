import Mathlib.Data.Nat.Digits.Defs
import Questionnaire.Json.Reader
import Questionnaire.Json.Writer
import Questionnaire.Proofs.Number.Written

/-!
# Numbers read back

A number is read up to the first character that cannot go on with it. So one that is read back when
it stands alone is read back before anything else that ends it (`readNumber_append`): what follows a
value in a written text is a comma, a bracket, a line break or nothing.

Written integers are read back as integers, if they fit 64 bits (`readNumber_writeInteger`). Other
numbers are written with the shortest digits from which they are nearest, but read with a rounding
at each step (`numeral`), so not every one of them is read back. Those that are, are
`Number.ReadsBack`.
-/

namespace Questionnaire

/-- Written in data, the number is read as itself. -/
def Number.ReadsBack (x : Number) : Prop :=
  Json.readNumber (Json.writeNumber x) = some (.real x, [])

/-- A number is read back if what it is written as is. -/
theorem Number.readsBack_of_written {x : Number} {cs : List Char}
    (hwritten : Json.writeNumber x = cs) (hread : Json.readNumber cs = some (.real x, [])) :
    x.ReadsBack := by
  rw [ReadsBack, hwritten, hread]

/-- A number that is read back is finite. -/
theorem Number.ReadsBack.isFinite {x : Number} (h : x.ReadsBack) : x.isFinite = true := by
  have hnull : Json.readNumber ['n', 'u', 'l', 'l'] = none := rfl
  cases x with
  | finite x => rfl
  | infinite negative => cases hnull.symm.trans h
  | nan => cases hnull.symm.trans h

namespace Json

/-! ## Where a number ends -/

/-- The text does not start with a character with which a number could go on. -/
def EndsNumber (rest : List Char) : Prop :=
  ∀ c, rest.head? = some c → c.isDigit = false ∧ c ≠ '.' ∧ c ≠ 'e' ∧ c ≠ 'E'

/-- Digits are split off up to the end of a number. -/
theorem splitDigits_append {rest : List Char} (h : EndsNumber rest) (cs : List Char) :
    Decimal.splitDigits (cs ++ rest) =
      ((Decimal.splitDigits cs).1, (Decimal.splitDigits cs).2 ++ rest) := by
  unfold Decimal.splitDigits
  induction cs with
  | nil =>
    cases rest with
    | nil => rfl
    | cons c rest =>
      have hc : ¬ c.isDigit = true := Bool.eq_false_iff.1 (h c rfl).1
      rw [List.nil_append, List.takeWhile_cons_of_neg hc, List.dropWhile_cons_of_neg hc]
      rfl
  | cons c cs ih =>
    obtain ⟨htake, hdrop⟩ := Prod.mk.inj ih
    by_cases hc : c.isDigit = true
    · simp only [List.cons_append, List.takeWhile_cons_of_pos hc, List.dropWhile_cons_of_pos hc,
        htake, hdrop]
    · simp only [List.cons_append, List.takeWhile_cons_of_neg hc, List.dropWhile_cons_of_neg hc]

/-- The text does not start with the character. -/
theorem head?_append_ne {cs rest : List Char} {c : Char} (h : cs.head? ≠ some c)
    (hrest : rest.head? ≠ some c) : (cs ++ rest).head? ≠ some c := by
  cases cs with
  | nil => exact hrest
  | cons _ _ => exact h

variable {cs r rest : List Char}

theorem readWhole_of_ne (h : cs.head? ≠ some '0') :
    readWhole cs =
      if (Decimal.splitDigits cs).1 = [] then none else some (Decimal.splitDigits cs) := by
  unfold readWhole
  split
  · exact absurd rfl h
  · rfl

theorem readWhole_append {digits : List Char} (h : EndsNumber rest)
    (hread : readWhole cs = some (digits, r)) :
    readWhole (cs ++ rest) = some (digits, r ++ rest) := by
  -- A zero in front is the whole part by itself, whatever follows it.
  by_cases hzero : cs.head? = some '0'
  · obtain ⟨cs, rfl⟩ := List.head?_eq_some_iff.1 hzero
    cases hread
    rfl
  · have hrest : rest.head? ≠ some '0' := fun heq => absurd (h _ heq).1 (by decide)
    rw [readWhole_of_ne hzero] at hread
    rw [readWhole_of_ne (head?_append_ne hzero hrest), splitDigits_append h]
    split at hread
    · cases hread
    next hdigits =>
      rw [if_neg hdigits, Option.some_inj.1 hread]

theorem readFraction_of_ne (h : cs.head? ≠ some '.') : readFraction cs = some (none, cs) := by
  unfold readFraction
  split
  · exact absurd rfl h
  · rfl

theorem readFraction_append {fraction : Option (List Char)} (h : EndsNumber rest)
    (hread : readFraction cs = some (fraction, r)) :
    readFraction (cs ++ rest) = some (fraction, r ++ rest) := by
  by_cases hpoint : cs.head? = some '.'
  · obtain ⟨cs, rfl⟩ := List.head?_eq_some_iff.1 hpoint
    simp only [readFraction] at hread
    simp only [List.cons_append, readFraction, splitDigits_append h]
    split at hread
    · cases hread
    next hdigits =>
      cases hread
      rw [if_neg hdigits]
  · rw [readFraction_of_ne hpoint] at hread
    cases hread
    exact readFraction_of_ne (head?_append_ne hpoint fun heq => (h _ heq).2.1 rfl)

/-- The sign of an exponent, negative or not, and what follows it. -/
def readSign (cs : List Char) : Bool × List Char :=
  match cs with
  | '-' :: rest => (true, rest)
  | '+' :: rest => (false, rest)
  | _ => (false, cs)

/-- The digits of an exponent after its sign, and what follows them. -/
def readSize (negative : Bool) (cs : List Char) : Option (Int × List Char) :=
  if (Decimal.splitDigits cs).1 = [] then none
  else
    let size : Int := Nat.ofDigitChars 10 (Decimal.splitDigits cs).1 0
    some (if negative then -size else size, (Decimal.splitDigits cs).2)

theorem readExponent_eq (cs : List Char) :
    Decimal.readExponent cs = readSize (readSign cs).1 (readSign cs).2 :=
  rfl

theorem readSign_of_ne (hminus : cs.head? ≠ some '-') (hplus : cs.head? ≠ some '+') :
    readSign cs = (false, cs) := by
  unfold readSign
  split
  · exact absurd rfl hminus
  · exact absurd rfl hplus
  · rfl

theorem readSign_append (hne : cs ≠ []) :
    readSign (cs ++ rest) = ((readSign cs).1, (readSign cs).2 ++ rest) := by
  obtain ⟨c, cs, rfl⟩ := List.exists_cons_of_ne_nil hne
  by_cases hminus : c = '-'
  · subst hminus
    rfl
  by_cases hplus : c = '+'
  · subst hplus
    rfl
  · simp [readSign, hminus, hplus]

theorem readExponent_append {power : Int} (h : EndsNumber rest)
    (hread : Decimal.readExponent cs = some (power, r)) :
    Decimal.readExponent (cs ++ rest) = some (power, r ++ rest) := by
  have hne : cs ≠ [] := by
    rintro rfl
    simp [Decimal.readExponent, Decimal.splitDigits] at hread
  rw [readExponent_eq] at hread ⊢
  rw [readSign_append hne]
  unfold readSize at hread ⊢
  simp only [splitDigits_append h]
  split at hread
  · cases hread
  next hdigits =>
    cases hread
    rw [if_neg hdigits]

theorem readPower_of_ne (hsmall : cs.head? ≠ some 'e') (hcapital : cs.head? ≠ some 'E') :
    readPower cs = some (none, cs) := by
  unfold readPower
  split
  · exact absurd rfl hsmall
  · exact absurd rfl hcapital
  · rfl

theorem readPower_append {power : Option Int} (h : EndsNumber rest)
    (hread : readPower cs = some (power, r)) :
    readPower (cs ++ rest) = some (power, r ++ rest) := by
  have hmarked : ∀ cs : List Char,
      (Decimal.readExponent cs).map (fun p => (some p.1, p.2)) = some (power, r) →
      (Decimal.readExponent (cs ++ rest)).map (fun p => (some p.1, p.2)) =
        some (power, r ++ rest) := by
    intro cs hread
    obtain ⟨⟨n, r⟩, hexponent, heq⟩ := Option.map_eq_some_iff.1 hread
    cases heq
    rw [readExponent_append h hexponent, Option.map_some]
  by_cases hsmall : cs.head? = some 'e'
  · obtain ⟨cs, rfl⟩ := List.head?_eq_some_iff.1 hsmall
    exact hmarked cs hread
  by_cases hcapital : cs.head? = some 'E'
  · obtain ⟨cs, rfl⟩ := List.head?_eq_some_iff.1 hcapital
    exact hmarked cs hread
  · rw [readPower_of_ne hsmall hcapital] at hread
    cases hread
    exact readPower_of_ne (head?_append_ne hsmall fun heq => (h _ heq).2.2.1 rfl)
      (head?_append_ne hcapital fun heq => (h _ heq).2.2.2 rfl)

/-- What a number is read as after its sign. -/
def readUnsigned (negative : Bool) (cs : List Char) : Option (Json × List Char) := do
  let (whole, cs) ← readWhole cs
  let (fraction, cs) ← readFraction cs
  let (power, cs) ← readPower cs
  some (numeral negative whole fraction power, cs)

theorem readUnsigned_append {negative : Bool} {value : Json} (h : EndsNumber rest)
    (hread : readUnsigned negative cs = some (value, r)) :
    readUnsigned negative (cs ++ rest) = some (value, r ++ rest) := by
  simp only [readUnsigned, Option.bind_eq_bind, Option.bind_eq_some_iff, Prod.exists] at hread ⊢
  obtain ⟨whole, r₁, hwhole, fraction, r₂, hfraction, power, r₃, hpower, hvalue⟩ := hread
  cases hvalue
  exact ⟨whole, _, readWhole_append h hwhole, fraction, _, readFraction_append h hfraction, power,
    _, readPower_append h hpower, rfl⟩

theorem readNumber_minus (cs : List Char) : readNumber ('-' :: cs) = readUnsigned true cs :=
  rfl

theorem readNumber_of_ne (h : cs.head? ≠ some '-') : readNumber cs = readUnsigned false cs := by
  unfold readNumber
  split
  next heq =>
    split at heq
    · exact absurd rfl h
    · cases heq
      rfl

/-- A number starts with a minus sign or a digit. -/
theorem exists_head_of_readNumber {value : Json} (hread : readNumber cs = some (value, r)) :
    ∃ c t, cs = c :: t ∧ (c = '-' ∨ c.isDigit = true) := by
  match cs, hread with
  | [], hread => simp [readNumber, readWhole, Decimal.splitDigits] at hread
  | c :: cs, hread =>
    refine ⟨c, cs, rfl, ?_⟩
    by_contra hc
    obtain ⟨hminus, hdigit⟩ := not_or.1 hc
    have hzero : c ≠ '0' := by
      rintro rfl
      exact hdigit rfl
    have hhead : (c :: cs).head? ≠ some '-' := fun h => hminus (Option.some_inj.1 h)
    rw [readNumber_of_ne hhead, readUnsigned] at hread
    simp [readWhole, hzero, Decimal.splitDigits, hdigit] at hread

/-- A number that is read to the end of a text is read just so before what ends it. -/
theorem readNumber_append {value : Json} (h : EndsNumber rest)
    (hread : readNumber cs = some (value, [])) : readNumber (cs ++ rest) = some (value, rest) := by
  -- The text is not empty, so what follows it cannot lend it a sign.
  obtain ⟨c, cs, rfl, _⟩ := exists_head_of_readNumber hread
  by_cases hminus : c = '-'
  · subst hminus
    rw [readNumber_minus] at hread
    rw [List.cons_append, readNumber_minus]
    exact readUnsigned_append h hread
  · have hhead : ∀ cs : List Char, (c :: cs).head? ≠ some '-' :=
      fun _ h => hminus (Option.some_inj.1 h)
    rw [readNumber_of_ne (hhead cs)] at hread
    rw [List.cons_append, readNumber_of_ne (hhead _), ← List.cons_append]
    exact readUnsigned_append h hread

/-! ## Integers -/

/-- Only zero is written with a zero in front. -/
theorem head?_toDigits_ne {n : ℕ} (h : n ≠ 0) : (Nat.toDigits 10 n).head? ≠ some '0' := by
  induction n using Nat.strongRecOn with
  | ind n ih =>
    by_cases hlow : n < 10
    · rw [Nat.toDigits_of_lt_base hlow]
      have hdigit : ∀ d < 10, d ≠ 0 → [Nat.digitChar d].head? ≠ some '0' := by decide
      exact hdigit n hlow h
    · -- The first digit is that of the number without its last one.
      have hhead := ih (n / 10) (by omega) (by omega)
      obtain ⟨c, rest, hdigits, _⟩ := Number.exists_toDigits_eq_cons (n / 10)
      rw [Nat.toDigits_of_base_le (by decide) (by omega), hdigits]
      rw [hdigits] at hhead
      exact hhead

/-- The digits of a whole number are read as they are. -/
theorem readWhole_toDigits (n : ℕ) :
    readWhole (Nat.toDigits 10 n) = some (Nat.toDigits 10 n, []) := by
  by_cases hzero : n = 0
  · subst hzero
    rfl
  · have hall : ∀ c ∈ Nat.toDigits 10 n, c.isDigit = true :=
      fun c hc => Nat.isDigit_of_mem_toDigits (by decide) (by decide) hc
    have hsplit : Decimal.splitDigits (Nat.toDigits 10 n) = (Nat.toDigits 10 n, []) := by
      rw [Decimal.splitDigits, List.takeWhile_eq_self_iff.2 hall, List.dropWhile_eq_nil_iff.2 hall]
    have hhead := head?_toDigits_ne hzero
    have hne : Nat.toDigits 10 n ≠ [] := Nat.toDigits_ne_nil
    rw [readWhole_of_ne hhead, hsplit, if_neg hne]

/-- Digits alone are read as the whole number they make up. -/
theorem readUnsigned_toDigits (negative : Bool) (n : ℕ) :
    readUnsigned negative (Nat.toDigits 10 n) =
      some (numeral negative (Nat.toDigits 10 n) none none, []) := by
  rw [readUnsigned, readWhole_toDigits]
  rfl

/-- Integers that fit 64 bits, with a sign or without. -/
def FitsWord (n : ℤ) : Prop :=
  -2 ^ 63 ≤ n ∧ n < 2 ^ 64

/-- Integers that fit 64 bits are read back. -/
theorem readNumber_writeInteger {n : ℤ} (h : FitsWord n) :
    readNumber (writeInteger n) = some (.integer n, []) := by
  obtain ⟨hlow, hhigh⟩ := h
  have hsize : Nat.ofDigitChars 10 (Nat.toDigits 10 n.natAbs) 0 = n.natAbs :=
    Nat.ofDigitChars_ten_toDigits
  unfold writeInteger
  split
  next hnegative =>
    have hnumeral : numeral true (Nat.toDigits 10 n.natAbs) none none =
        .integer (-(n.natAbs : ℤ)) := by
      have hpos : 0 < n.natAbs := by omega
      have hfits : 2 * n.natAbs ≤ UInt64.size := by unfold UInt64.size; omega
      simp [numeral, hsize, hpos, hfits]
    rw [readNumber_minus, readUnsigned_toDigits, hnumeral]
    congr 3
    omega
  next hnonneg =>
    have hnumeral : numeral false (Nat.toDigits 10 n.natAbs) none none = .integer n.natAbs := by
      have hfits : n.natAbs < UInt64.size := by unfold UInt64.size; omega
      simp [numeral, hsize, hfits]
    have hhead : (Nat.toDigits 10 n.natAbs).head? ≠ some '-' := by
      obtain ⟨c, rest, hdigits, hc⟩ := Number.exists_toDigits_eq_cons n.natAbs
      rw [hdigits]
      rintro heq
      cases heq
      exact absurd hc (by decide)
    rw [readNumber_of_ne hhead, readUnsigned_toDigits, hnumeral]
    congr 3
    omega

end Json

end Questionnaire
