import Questionnaire.Number.Style
import Questionnaire.Proofs.Text.Blank

/-!
# Written numbers are not blank

However a finite number is written, a digit is among the characters
(`FiniteNumber.exists_digit_mem_write`), and the others are written in letters. So the text of a
number is never blank (`Number.isBlank_toProse`), and an answer that is a number never counts as
none.
-/

namespace Questionnaire

namespace Number

/-- The decimal digits of a whole number start with a digit. -/
theorem exists_toDigits_eq_cons (n : Nat) :
    ∃ c rest, Nat.toDigits 10 n = c :: rest ∧ c.isDigit = true := by
  cases h : Nat.toDigits 10 n with
  | nil => exact absurd h Nat.toDigits_ne_nil
  | cons c rest =>
    have hmem : c ∈ Nat.toDigits 10 n := h ▸ List.mem_cons_self
    exact ⟨c, rest, rfl, Nat.isDigit_of_mem_toDigits (by decide) (by decide) hmem⟩

/-- A decimal written in any style has a digit. -/
theorem exists_digit_mem_layout (style : Style) (d : Decimal) :
    ∃ c ∈ style.layout d, c.isDigit = true := by
  obtain ⟨c, rest, hdigits, hc⟩ := exists_toDigits_eq_cons d.digits
  -- With an exponent or without, the first digit is written, or a zero before the point is.
  have hpositional : ∃ c ∈ style.positional (Nat.toDigits 10 d.digits) d.exponent,
      c.isDigit = true := by
    unfold Style.positional
    dsimp only
    split
    next => exact ⟨'0', List.mem_cons_self, rfl⟩
    next hpoint =>
      split
      next => exact ⟨c, by simp [hdigits], hc⟩
      next =>
        obtain ⟨m, hm⟩ : ∃ m, (((Nat.toDigits 10 d.digits).length : Int) + d.exponent).toNat =
            m + 1 := ⟨_, (Nat.succ_pred_eq_of_pos (by omega)).symm⟩
        rw [hm, hdigits, List.take_succ_cons]
        exact ⟨c, List.mem_cons_self, hc⟩
  have hscientific : ∃ c ∈ scientific (Nat.toDigits 10 d.digits) d.exponent, c.isDigit = true := by
    unfold scientific
    rw [hdigits, List.take_succ_cons]
    exact ⟨c, List.mem_cons_self, hc⟩
  have hbody : ∀ plain : Bool, ∃ c ∈ (if plain = true then
      style.positional (Nat.toDigits 10 d.digits) d.exponent
      else scientific (Nat.toDigits 10 d.digits) d.exponent), c.isDigit = true := by
    intro plain
    cases plain with
    | false => exact hscientific
    | true => exact hpositional
  unfold Style.layout
  obtain ⟨c, hmem, hc⟩ := hbody _
  exact ⟨c, List.mem_append_right _ hmem, hc⟩

end Number

/-- A finite number written in any style has a digit. -/
theorem FiniteNumber.exists_digit_mem_write (style : Number.Style) (x : FiniteNumber) :
    ∃ c ∈ x.write style, c.isDigit = true :=
  Number.exists_digit_mem_layout style _

/-- The text of a number is not blank. -/
theorem Number.isBlank_toProse (x : Number) : Text.isBlank x.toProse = false := by
  cases x with
  | finite x =>
    obtain ⟨c, hmem, hc⟩ := x.exists_digit_mem_write .prose
    have hmem' : c ∈ (finite x).toProse.toList := by rwa [toProse, String.toList_ofList]
    exact Text.isBlank_eq_false_of_mem hmem' (Text.isBlankChar_eq_false_of_isDigit hc)
  | infinite negative => cases negative <;> decide
  | nan => decide

end Questionnaire
