import Mathlib.Data.List.Forall2
import Mathlib.Data.Option.Basic
import Questionnaire.Json.Reader
import Questionnaire.Json.Writer

/-!
# Strings read back

A written string is read back as it was (`readText_writeText`). Each character is written so that it
is scanned as one part, and as nothing else whatever follows: as itself, or, if it is a control
character, as a code unit of its number (`Spells`). Control characters are no surrogates, so parts
that spell characters one by one spell the text.
-/

namespace Questionnaire.Json

/-! ## Character by character -/

/-- A part of a string spells a character by itself: the character, or the code unit of a control
character. -/
inductive Spells : TextPart → Char → Prop where
  /-- The character stands for itself. -/
  | plain (c : Char) : Spells (.char c) c
  /-- The control character is given by its number. -/
  | numbered (c : Char) (control : c.toNat < 0x20) : Spells (.unit c.toNat) c

/-- A written character is scanned as one part that spells it, whatever follows. -/
def ScansAs (written : List Char) (c : Char) : Prop :=
  ∃ part, Spells part c ∧ ∀ rest,
    scanText (written ++ rest) = (scanText rest).map fun p => (part :: p.1, p.2)

/-- A short escape is scanned as the character that it names. -/
theorem scanText_short {mark c : Char} (hmark : mark ≠ 'u') (hshort : shortEscape? mark = some c)
    (rest : List Char) :
    scanText ('\\' :: mark :: rest) = (scanText rest).map fun p => (.char c :: p.1, p.2) := by
  rw [scanText, hshort]
  · cases scanText rest <;> rfl
  · exact fun _ _ _ _ _ h => absurd h hmark

/-- A numeric escape is scanned as the code unit that it names. -/
theorem scanText_unit {a b c d : Char} {code : Nat} (hcode : codeUnit? a b c d = some code)
    (rest : List Char) :
    scanText ('\\' :: 'u' :: a :: b :: c :: d :: rest) =
      (scanText rest).map fun p => (.unit code :: p.1, p.2) := by
  rw [scanText, hcode]
  cases scanText rest <;> rfl

/-- Any character but the quote, the backslash and those of control is scanned as itself. -/
theorem scanText_plain {c : Char} (hquote : c ≠ '"') (hbackslash : c ≠ '\\')
    (hcontrol : 0x20 ≤ c.toNat) (rest : List Char) :
    scanText (c :: rest) = (scanText rest).map fun p => (.char c :: p.1, p.2) := by
  have hplain : c ≠ '\\' ∧ 0x20 ≤ c.toNat := ⟨hbackslash, hcontrol⟩
  rw [scanText, guard, if_pos hplain]
  · cases scanText rest <;> rfl
  · exact hquote
  · exact fun _ _ _ _ _ h => absurd h hbackslash
  · exact fun _ _ h => absurd h hbackslash

/-- A character with a short escape is scanned as itself. -/
theorem scansAs_short {mark c : Char} (hmark : mark ≠ 'u') (hshort : shortEscape? mark = some c) :
    ScansAs ['\\', mark] c :=
  ⟨.char c, .plain c, scanText_short hmark hshort⟩

/-- Two hexadecimal digits after zeros name any number of a control character. -/
theorem codeUnit?_digitChar : ∀ n < 0x20,
    codeUnit? '0' '0' (Nat.digitChar (n / 16)) (Nat.digitChar (n % 16)) = some n := by
  decide

/-- A control character is scanned as the code unit of its number. -/
theorem scansAs_numbered {c : Char} (control : c.toNat < 0x20) :
    ScansAs ['\\', 'u', '0', '0', Nat.digitChar (c.toNat / 16), Nat.digitChar (c.toNat % 16)]
      c :=
  ⟨.unit c.toNat, .numbered c control, scanText_unit (codeUnit?_digitChar c.toNat control)⟩

/-- Any other character but the quote and the backslash is scanned as itself. -/
theorem scansAs_plain {c : Char} (hquote : c ≠ '"') (hbackslash : c ≠ '\\')
    (hcontrol : ¬ c.toNat < 0x20) : ScansAs [c] c :=
  ⟨.char c, .plain c, scanText_plain hquote hbackslash (Nat.le_of_not_lt hcontrol)⟩

/-- Every character is written so that it is scanned as a part that spells it. -/
theorem scansAs_escapeChar (c : Char) : ScansAs (escapeChar c) c := by
  unfold escapeChar
  -- Seven characters have a short escape; the last case is that of all others.
  split
  case h_8 hquote hbackslash _ _ _ _ _ =>
    split
    next hcontrol => exact scansAs_numbered hcontrol
    next hcontrol => exact scansAs_plain hquote hbackslash hcontrol
  all_goals exact scansAs_short (by decide) rfl

/-! ## Texts -/

/-- The parts scanned of a written text spell it character by character. -/
theorem scanText_flatMap (cs rest : List Char) : ∃ parts, List.Forall₂ Spells parts cs ∧
    scanText (cs.flatMap escapeChar ++ '"' :: rest) = some (parts, rest) := by
  induction cs with
  | nil => exact ⟨[], .nil, by rw [List.flatMap_nil, List.nil_append, scanText]⟩
  | cons c cs ih =>
    obtain ⟨parts, hspells, hscan⟩ := ih
    obtain ⟨part, hpart, hstep⟩ := scansAs_escapeChar c
    refine ⟨part :: parts, .cons hpart hspells, ?_⟩
    rw [List.flatMap_cons, List.append_assoc, hstep, hscan]
    rfl

/-- A code unit that is no half of a surrogate pair spells a character by itself. -/
theorem spell?_unit {code : Nat} (hhigh : isHighSurrogate code = false)
    (hlow : isLowSurrogate code = false) (parts : List TextPart) :
    spell? (.unit code :: parts) = (spell? parts).map (Char.ofNat code :: ·) := by
  match parts with
  | [] | .char _ :: _ | .unit _ :: _ => simp [spell?, hhigh, hlow]

/-- The code unit of a control character stands alone. -/
theorem spell?_numbered {c : Char} (control : c.toNat < 0x20) (parts : List TextPart) :
    spell? (.unit c.toNat :: parts) = (spell? parts).map (c :: ·) := by
  have hhigh : isHighSurrogate c.toNat = false := by
    simp only [isHighSurrogate, Bool.and_eq_false_iff, decide_eq_false_iff_not]
    omega
  have hlow : isLowSurrogate c.toNat = false := by
    simp only [isLowSurrogate, Bool.and_eq_false_iff, decide_eq_false_iff_not]
    omega
  rw [spell?_unit hhigh hlow, Char.ofNat_toNat]

/-- Parts that spell characters one by one spell the text. -/
theorem spell?_eq_some {parts : List TextPart} {cs : List Char} (h : List.Forall₂ Spells parts cs) :
    spell? parts = some cs := by
  induction h with
  | nil => rfl
  | cons hpart _ ih =>
    cases hpart with
    | plain => rw [spell?, ih, Option.map_some]
    | numbered _ control => rw [spell?_numbered control, ih, Option.map_some]

/-- A written string is read back, up to what follows its closing quote. -/
theorem readText_writeText (s : String) (rest : List Char) :
    readText (s.toList.flatMap escapeChar ++ '"' :: rest) = some (some s, rest) := by
  obtain ⟨parts, hspells, hscan⟩ := scanText_flatMap s.toList rest
  rw [readText, hscan]
  show some ((spell? parts).map String.ofList, rest) = some (some s, rest)
  rw [spell?_eq_some hspells, Option.map_some, String.ofList_toList]

end Questionnaire.Json
