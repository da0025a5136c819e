import Mathlib.Data.List.Lex
import Questionnaire.Proofs.Calendar.DateText
import Questionnaire.Proofs.Except
import Questionnaire.Validation

/-!
# The order of written dates

Answers give dates in one form only, so a date has one text (`Date.ofAnswer?_eq_some_iff`). In this
form the order of days is that of the texts: digits of one width are in the order of the numbers
that they stand for (`Date.ofDigitChars_lt_iff`), and the year comes before the month and the month
before the day. The texts are of characters that take one byte, so their order is the order of their
bytes (`Text.bytes_lt_bytes_iff`), and a check of bounds may as well compare bytes
(`Date.ofAnswer?_canonical`).
-/

namespace Questionnaire

/-! ## Lists in order -/

/-- Of two lists with starts of one length, the starts decide the order unless they are the same. -/
theorem append_lt_append_iff {α : Type} [LT α] {xs ys as bs : List α}
    (hlength : xs.length = ys.length) : xs ++ as < ys ++ bs ↔ xs < ys ∨ xs = ys ∧ as < bs := by
  induction xs generalizing ys with
  | nil =>
    obtain rfl : ys = [] := List.length_eq_zero_iff.1 hlength.symm
    simp
  | cons x rest ih =>
    obtain _ | ⟨y, rest'⟩ := ys
    · cases hlength
    have hlength' : rest.length = rest'.length := by simpa using hlength
    simp only [List.cons_append, List.cons_lt_cons_iff, ih hlength', List.cons.injEq]
    tauto

/-- A function that keeps the order of elements keeps the order of lists. -/
theorem map_lt_map_iff {α β : Type} [LT α] [LT β] {f : α → β} {xs ys : List α}
    (hlt : ∀ x ∈ xs, ∀ y ∈ ys, f x < f y ↔ x < y) (heq : ∀ x ∈ xs, ∀ y ∈ ys, f x = f y ↔ x = y) :
    xs.map f < ys.map f ↔ xs < ys := by
  induction xs generalizing ys with
  | nil => cases ys <;> simp
  | cons x rest ih =>
    obtain _ | ⟨y, rest'⟩ := ys
    · simp
    have hrest := ih (fun a ha b hb => hlt a (.tail _ ha) b (.tail _ hb))
      (fun a ha b hb => heq a (.tail _ ha) b (.tail _ hb))
    rw [List.map_cons, List.map_cons, List.cons_lt_cons_iff, List.cons_lt_cons_iff, hrest,
      hlt x (.head _) y (.head _), heq x (.head _) y (.head _)]

/-! ## Bytes of texts -/

namespace Text

/-- The bytes of a text in UTF-8. -/
def bytes (s : String) : List UInt8 :=
  s.toByteArray.data.toList

/-- Characters of ASCII are one byte each. -/
theorem bytes_ofList {cs : List Char} (h : ∀ c ∈ cs, c.toNat < 128) :
    bytes (String.ofList cs) = cs.map fun c => c.val.toUInt8 := by
  rw [bytes, String.toByteArray_ofList, List.utf8Encode, List.toList_data_toByteArray]
  induction cs with
  | nil => rfl
  | cons c rest ih =>
    have hc : c.val ≤ 127 := by
      have := h c List.mem_cons_self
      rw [UInt32.le_iff_toNat_le]
      show c.toNat ≤ 127
      omega
    rw [List.flatMap_cons, String.utf8EncodeChar_eq_singleton (Char.utf8Size_eq_one_iff.2 hc),
      ih fun d hd => h d (List.mem_cons_of_mem _ hd)]
    rfl

/-- The order of texts of ASCII is the order of their bytes. -/
theorem bytes_lt_bytes_iff {cs ds : List Char} (hcs : ∀ c ∈ cs, c.toNat < 128)
    (hds : ∀ d ∈ ds, d.toNat < 128) :
    bytes (String.ofList cs) < bytes (String.ofList ds) ↔ cs < ds := by
  have hbyte : ∀ c : Char, c.toNat < 128 → c.val.toUInt8.toNat = c.toNat := by
    intro c hc
    rw [UInt32.toNat_toUInt8]
    exact Nat.mod_eq_of_lt (by show c.toNat < 256; omega)
  rw [bytes_ofList hcs, bytes_ofList hds]
  refine map_lt_map_iff (fun c hc d hd => ?_) fun c hc d hd => ?_
  · rw [UInt8.lt_iff_toNat_lt, hbyte c (hcs c hc), hbyte d (hds d hd)]
    rfl
  · rw [← UInt8.toNat_inj, hbyte c (hcs c hc), hbyte d (hds d hd), Char.toNat_inj]

end Text

namespace Date

/-! ## Numbers in digits -/

variable {width m n : ℕ}

/-- Numbers that fit a width take the same number of digits. -/
theorem length_padded_eq (hwidth : 0 < width) (hm : m < 10 ^ width) (hn : n < 10 ^ width) :
    (padded width m).length = (padded width n).length :=
  (length_padded hwidth hm).trans (length_padded hwidth hn).symm

/-- Numbers that fit a width are in the order of their digits in that width. -/
theorem padded_lt_padded_iff (hwidth : 0 < width) (hm : m < 10 ^ width) (hn : n < 10 ^ width) :
    padded width m < padded width n ↔ m < n := by
  rw [← ofDigitChars_lt_iff (fun _ h => isDigit_of_mem_padded h)
    (fun _ h => isDigit_of_mem_padded h) (length_padded_eq hwidth hm hn), ofDigitChars_padded,
    ofDigitChars_padded]

/-- A number is known from its digits. -/
theorem padded_inj : padded width m = padded width n ↔ m = n := by
  refine ⟨fun h => ?_, congrArg _⟩
  rw [← ofDigitChars_padded width m, h, ofDigitChars_padded]

/-! ## Written dates -/

variable {d e : Date}

/-- Dates with years of four digits are in the order of their texts. -/
theorem write_lt_write_iff (hd : 0 ≤ d.year ∧ d.year ≤ 9999) (he : 0 ≤ e.year ∧ e.year ≤ 9999) :
    d.write < e.write ↔ d < e := by
  obtain ⟨hmonth, hday⟩ := month_lt_day_lt d
  obtain ⟨hmonth', hday'⟩ := month_lt_day_lt e
  have hyear : d.year.toNat < 10 ^ 4 := by omega
  have hyear' : e.year.toNat < 10 ^ 4 := by omega
  have hyears : (padded 4 d.year.toNat).length = (padded 4 e.year.toNat).length :=
    length_padded_eq (by decide) hyear hyear'
  have hmonths : (padded 2 d.month).length = (padded 2 e.month).length :=
    length_padded_eq (by decide) hmonth hmonth'
  -- The year decides, then the month, then the day; the hyphens between them are in no order.
  rw [write, write, writeYear, writeYear, if_pos hd, if_pos he, List.append_assoc,
    List.append_assoc, append_lt_append_iff hyears, List.cons_append, List.cons_append,
    List.cons_lt_cons_iff, append_lt_append_iff hmonths, List.cons_lt_cons_iff,
    padded_lt_padded_iff (by decide) hyear hyear', padded_inj,
    padded_lt_padded_iff (by decide) hmonth hmonth', padded_inj,
    padded_lt_padded_iff (by decide) hday hday']
  have hdash : ¬ '-' < '-' := by decide
  simp only [hdash, false_or, true_and]
  show _ ↔ (_ ∨ _)
  omega

/-- A date with a year of four digits is written with digits and hyphens. -/
theorem isDigit_or_eq_of_mem_write (hd : 0 ≤ d.year ∧ d.year ≤ 9999) {c : Char}
    (hc : c ∈ d.write) : c.isDigit = true ∨ c = '-' := by
  rw [write, writeYear, if_pos hd] at hc
  simp only [List.mem_append, List.mem_cons] at hc
  rcases hc with (hc | rfl | hc) | rfl | hc
  · exact .inl (isDigit_of_mem_padded hc)
  · exact .inr rfl
  · exact .inl (isDigit_of_mem_padded hc)
  · exact .inr rfl
  · exact .inl (isDigit_of_mem_padded hc)

/-- It is written in ASCII, without blanks. -/
theorem plain_of_mem_write (hd : 0 ≤ d.year ∧ d.year ≤ 9999) {c : Char} (hc : c ∈ d.write) :
    c.toNat < 128 ∧ Text.isBlankChar c = false := by
  rcases isDigit_or_eq_of_mem_write hd hc with hdigit | rfl
  · have hhigh : c.toNat ≤ 57 := (Char.isDigit_iff_toNat.1 hdigit).2
    exact ⟨by omega, Text.isBlankChar_eq_false_of_isDigit hdigit⟩
  · decide

/-- The order of days is that of the bytes of their texts. -/
theorem bytes_toText_lt_iff (hd : 0 ≤ d.year ∧ d.year ≤ 9999) (he : 0 ≤ e.year ∧ e.year ≤ 9999) :
    Text.bytes d.toText < Text.bytes e.toText ↔ d < e := by
  rw [toText, toText, Text.bytes_lt_bytes_iff (fun _ hc => (plain_of_mem_write hd hc).1)
    (fun _ hc => (plain_of_mem_write he hc).1), write_lt_write_iff hd he]

/-- Written dates have ten characters. -/
theorem length_toText (hd : 0 ≤ d.year ∧ d.year ≤ 9999) : d.toText.length = 10 := by
  obtain ⟨a, b, c, e, f, g, h, i, -, -, -, hwrite⟩ := exists_write_eq hd.1 hd.2
  rw [toText, hwrite, String.length_ofList]
  rfl

/-- There are no blanks around a written date. -/
theorem trim_toText (hd : 0 ≤ d.year ∧ d.year ≤ 9999) : Text.trim d.toText = d.toText := by
  have hdrop : ∀ cs : List Char, (∀ c ∈ cs, c ∈ d.write) → Text.dropBlank cs = cs := by
    intro cs hcs
    obtain _ | ⟨c, rest⟩ := cs
    · rfl
    · exact dropBlank_cons (plain_of_mem_write hd (hcs c List.mem_cons_self)).2 rest
  rw [Text.trim, toText, String.toList_ofList, hdrop _ fun _ hc => hc,
    hdrop _ fun _ hc => List.mem_reverse.1 hc, List.reverse_reverse]

end Date

/-! ## Bounds -/

namespace DateEntry

/-- The check of a date against the bounds by what is written alone. -/
def checkWritten (entry : DateEntry) (date : Date) (written : String) : Checked := do
  Checked.bounded entry.min (fun min => decide (Text.bytes written < Text.bytes min.toText))
    (.dateBeforeMinimum date)
  Checked.bounded entry.max (fun max => decide (Text.bytes max.toText < Text.bytes written))
    (.dateAfterMaximum date)

/-- The bounds are dates that an answer can give. -/
def HasWrittenBounds (entry : DateEntry) : Prop :=
  ∀ bound, entry.min = some bound ∨ entry.max = some bound →
    Date.ofAnswer? bound.toText = some bound

end DateEntry

theorem Checked.bounded_congr {β : Type} {bound : Option β} {violated violated' : β → Bool}
    {violation : β → Violation} (h : ∀ b, bound = some b → violated b = violated' b) :
    bounded bound violated violation = bounded bound violated' violation := by
  cases bound with
  | none => rfl
  | some b => rw [bounded, bounded, h b rfl]

/-- An answer that gives a date is checked against the bounds. -/
theorem DateEntry.check_of_ofAnswer? {entry : DateEntry} {required : Bool} {answer : String}
    {date : Date} (h : Date.ofAnswer? (Text.trim answer) = some date) :
    entry.check required (.text answer) = (do
      Checked.bounded entry.min (fun min => decide (date < min)) (.dateBeforeMinimum date)
      Checked.bounded entry.max (fun max => decide (max < date)) (.dateAfterMaximum date)) := by
  have hsaid : Text.isBlank answer = false := by
    refine Bool.eq_false_iff.2 fun hblank => ?_
    rw [Text.isBlank_iff_trim_eq.1 hblank] at h
    cases h
  simp only [DateEntry.check, Answer.expect, Answer.asText?, ok_bind, hsaid, h]
  rfl

namespace Date

/-- Dates in answers are read canonically and in order. A text gives a date exactly when it is the
date's ten-character form with a year of four digits, so different texts give different dates. The
dates are in the order of the bytes of their texts, and where answers can also give the bounds, a
check of them is one of texts alone; blanks around the answer do not matter. -/
theorem ofAnswer?_canonical :
    (∀ s d, ofAnswer? s = some d ↔
      s = d.toText ∧ s.length = 10 ∧ 0 ≤ d.year ∧ d.year ≤ 9999) ∧
    (∀ s t d, ofAnswer? s = some d → ofAnswer? t = some d → s = t) ∧
    (∀ s t d e, ofAnswer? s = some d → ofAnswer? t = some e →
      (d < e ↔ Text.bytes s < Text.bytes t)) ∧
    (∀ s d, ofAnswer? s = some d → Text.trim s = s) ∧
    ∀ (entry : DateEntry) (required : Bool) (answer : String) (d : Date), entry.HasWrittenBounds →
      ofAnswer? (Text.trim answer) = some d →
        entry.check required (.text answer) = entry.checkWritten d (Text.trim answer) := by
  refine ⟨?form, ?distinct, ?order, ?trimmed, ?bounds⟩
  case form =>
    intro s d
    rw [ofAnswer?_eq_some_iff]
    constructor
    · rintro ⟨rfl, hyear⟩
      exact ⟨rfl, length_toText hyear, hyear⟩
    · rintro ⟨hs, _, hyear⟩
      exact ⟨hs, hyear⟩
  case distinct =>
    intro s t d hs ht
    rw [(ofAnswer?_eq_some_iff.1 hs).1, (ofAnswer?_eq_some_iff.1 ht).1]
  case order =>
    intro s t d e hs ht
    obtain ⟨rfl, hd⟩ := ofAnswer?_eq_some_iff.1 hs
    obtain ⟨rfl, he⟩ := ofAnswer?_eq_some_iff.1 ht
    exact (bytes_toText_lt_iff hd he).symm
  case trimmed =>
    intro s d hs
    obtain ⟨rfl, hd⟩ := ofAnswer?_eq_some_iff.1 hs
    exact trim_toText hd
  case bounds =>
    intro entry required answer d hbounds hanswer
    obtain ⟨htrim, hd⟩ := ofAnswer?_eq_some_iff.1 hanswer
    have hyear : ∀ bound, entry.min = some bound ∨ entry.max = some bound →
        0 ≤ bound.year ∧ bound.year ≤ 9999 := fun bound hbound =>
      (ofAnswer?_eq_some_iff.1 (hbounds bound hbound)).2
    rw [DateEntry.check_of_ofAnswer? hanswer, DateEntry.checkWritten, htrim]
    congr 1
    · refine Checked.bounded_congr fun min hmin => decide_eq_decide.2 ?_
      exact (bytes_toText_lt_iff hd (hyear min (.inl hmin))).symm
    · funext _
      refine Checked.bounded_congr fun max hmax => decide_eq_decide.2 ?_
      exact (bytes_toText_lt_iff (hyear max (.inr hmax)) hd).symm

/-- The last day of February 2024. -/
def leapDay : Date := ⟨2024, 2, 29, by decide⟩

/-- The day after it. -/
def springDay : Date := ⟨2024, 3, 1, by decide⟩

/-- A question's dates before the end of February 2024. -/
def winterEntry : DateEntry where
  max := some leapDay

/-- The day after leap day comes after it as a text, and is refused where that is the latest day. -/
theorem ofAnswer?_canonical_springDay :
    ofAnswer? "2024-02-29" = some leapDay ∧ ofAnswer? "2024-03-01" = some springDay ∧
      (leapDay < springDay ↔ Text.bytes "2024-02-29" < Text.bytes "2024-03-01") ∧
      winterEntry.HasWrittenBounds ∧
      winterEntry.check true (.text " 2024-03-01 ") =
        .error (.dateAfterMaximum springDay leapDay) := by
  obtain ⟨-, -, horder, -, hcheck⟩ := ofAnswer?_canonical
  have hleap : ofAnswer? "2024-02-29" = some leapDay := by decide
  have hspring : ofAnswer? "2024-03-01" = some springDay := by decide
  have hbounds : winterEntry.HasWrittenBounds := by
    rintro bound (hmin | hmax)
    · cases hmin
    · cases hmax
      decide
  have hwritten : winterEntry.checkWritten springDay (Text.trim " 2024-03-01 ") =
      .error (.dateAfterMaximum springDay leapDay) := by decide
  exact ⟨hleap, hspring, horder _ _ _ _ hleap hspring, hbounds,
    (hcheck winterEntry true " 2024-03-01 " springDay hbounds (by decide)).trans hwritten⟩

end Date

end Questionnaire
