import Mathlib.Data.List.Infix

/-!
# First occurrences

The first occurrence of a mark in a text is where one stands and none starts before it. That none
starts in a part of a text depends on what follows the part (`Clear`), since an occurrence can reach
past it. A part in which none starts whatever follows is `Tame`; texts made of tame parts are tame.
Where a text has a character that the mark does not have, the parts before and after it can be
looked at each for itself (`infix_append_cons_iff`). Where a part of a text does not have the
character that the mark starts with, looking at what follows the part is enough
(`infix_append_iff_of_not_mem`).
-/

namespace Questionnaire.Text

/-- No occurrence of the mark starts in the text where the rest follows it. -/
inductive Clear (mark rest : List Char) : List Char → Prop where
  /-- There is no text for it to start in. -/
  | nil : Clear mark rest []
  /-- It starts neither at the first character nor after it. -/
  | cons {c : Char} {cs : List Char} (hstart : ¬ mark <+: c :: (cs ++ rest))
    (htail : Clear mark rest cs) : Clear mark rest (c :: cs)

/-- No occurrence of the mark starts in the text, whatever follows it. -/
def Tame (mark cs : List Char) : Prop :=
  ∀ rest, Clear mark rest cs

variable {mark cs ds rest : List Char}

/-- A text in two parts is clear of the mark when each part is, followed by what follows it. -/
theorem Clear.append (hcs : Clear mark (ds ++ rest) cs) (hds : Clear mark rest ds) :
    Clear mark rest (cs ++ ds) := by
  induction hcs with
  | nil => exact hds
  | @cons c cs hstart _ ih =>
    rw [← List.append_assoc] at hstart
    exact .cons hstart ih

/-- Where the first two characters of the mark do not stand together, and it does not start with the
second, no occurrence of it starts before another. -/
theorem clear_of_not_infix {c d : Char} (hne : c ≠ d) (h : ¬ [c, d] <:+: cs) :
    Clear (c :: d :: mark) (c :: rest) cs := by
  induction cs with
  | nil => exact .nil
  | cons x cs ih =>
    rw [List.infix_cons_iff, not_or] at h
    refine .cons (fun hstart => ?_) (ih h.2)
    obtain ⟨rfl, hnext⟩ := List.cons_prefix_cons.1 hstart
    -- At the end of the text it would go on with what follows, which starts as the mark does.
    cases cs with
    | nil => exact hne (List.cons_prefix_cons.1 hnext).1.symm
    | cons y cs =>
      obtain ⟨rfl, -⟩ := List.cons_prefix_cons.1 hnext
      exact h.1 ⟨cs, rfl⟩

/-! ## Tame texts -/

/-- A text that is made of tame texts is tame. -/
theorem tame_flatMap {α : Type} {f : α → List Char} {xs : List α} (h : ∀ x ∈ xs, Tame mark (f x)) :
    Tame mark (xs.flatMap f) := by
  induction xs with
  | nil => exact fun _ => .nil
  | cons x xs ih =>
    obtain ⟨hx, hxs⟩ := List.forall_mem_cons.1 h
    exact fun rest => (hx _).append (ih hxs rest)

/-- A text without the character that the mark starts with is tame. -/
theorem tame_of_not_mem {c : Char} (h : c ∉ cs) : Tame (c :: mark) cs := by
  intro rest
  induction cs with
  | nil => exact .nil
  | cons d cs ih =>
    rw [List.mem_cons, not_or] at h
    exact .cons (fun hstart => h.1 (List.cons_prefix_cons.1 hstart).1) (ih h.2)

/-- A text is tame when the character that the mark starts with is only at its start, and the
beginnings of what it goes on with and of what the mark goes on with differ. -/
theorem tame_cons {c : Char} {start head : List Char} (hstart : start <+: mark)
    (hhead : head <+: cs) (hapart : ¬ head <+: start ∧ ¬ start <+: head) (hcs : c ∉ cs) :
    Tame (c :: mark) (c :: cs) := by
  intro rest
  refine .cons (fun hmark => ?_) (tame_of_not_mem hcs rest)
  have hmark : mark <+: cs ++ rest := (List.cons_prefix_cons.1 hmark).2
  -- Of two beginnings of one text one is the beginning of the other.
  rcases List.prefix_or_prefix_of_prefix (hhead.trans (List.prefix_append cs rest))
    (hstart.trans hmark) with h | h
  · exact hapart.1 h
  · exact hapart.2 h

/-! ## Separators -/

/-- Where a character that the mark does not have follows, the mark starts a text if it starts the
part before that character. -/
theorem prefix_append_cons_iff {c : Char} (hc : c ∉ mark) :
    mark <+: cs ++ c :: ds ↔ mark <+: cs := by
  refine ⟨fun h => ?_, fun h => h.trans (List.prefix_append _ _)⟩
  have hpart : cs ++ [c] <+: cs ++ c :: ds :=
    (List.prefix_append_right_inj cs).2 (List.cons_prefix_cons.2 ⟨rfl, List.nil_prefix⟩)
  rcases List.prefix_or_prefix_of_prefix h hpart with h | h
  · rcases List.prefix_concat_iff.1 h with rfl | h
    · exact absurd (by simp) hc
    · exact h
  · exact absurd (h.subset (by simp)) hc

/-- A mark does not stand across a character that it does not have. -/
theorem infix_append_cons_iff {c : Char} (hc : c ∉ mark) :
    mark <:+: cs ++ c :: ds ↔ mark <:+: cs ∨ mark <:+: ds := by
  induction cs with
  | nil =>
    have hstart : mark <+: [] ++ c :: ds ↔ mark <+: [] := prefix_append_cons_iff hc
    rw [List.nil_append] at hstart ⊢
    rw [List.infix_cons_iff, hstart, List.prefix_nil, List.infix_nil]
  | cons d cs ih =>
    rw [List.cons_append, List.infix_cons_iff, ih, List.infix_cons_iff, or_assoc,
      ← List.cons_append, prefix_append_cons_iff hc]

/-! ## Parts without the first character -/

/-- An end of a text that starts with a character that a part of the text does not have is an end of
what follows the part. -/
theorem suffix_of_suffix_append {c : Char} (hc : c ∉ cs) (h : c :: rest <:+ cs ++ ds) :
    c :: rest <:+ ds := by
  induction cs with
  | nil => exact h
  | cons d cs ih =>
    rw [List.mem_cons, not_or] at hc
    rcases List.suffix_cons_iff.1 h with heq | h
    · exact absurd (List.cons.inj heq).1 hc.1
    · exact ih hc.2 h

/-- A mark is in a text exactly if it is in what follows a part that does not have the character
that the mark starts with. -/
theorem infix_append_iff_of_not_mem {c : Char} (hc : c ∉ cs) :
    c :: mark <:+: cs ++ ds ↔ c :: mark <:+: ds := by
  refine ⟨fun h => ?_, fun h => h.trans (List.suffix_append cs ds).isInfix⟩
  obtain ⟨before, after, heq⟩ := h
  have hend : c :: (mark ++ after) <:+ ds :=
    suffix_of_suffix_append hc ⟨before, by rw [← heq, List.append_assoc, List.cons_append]⟩
  exact (List.prefix_append (c :: mark) after).isInfix.trans hend.isInfix

/-! ## The first occurrence -/

/-- No occurrence of a mark starts before the end of a text that is clear of it. -/
theorem Clear.length_le (h : Clear mark rest cs) {before after : List Char}
    (heq : cs ++ rest = before ++ mark ++ after) : cs.length ≤ before.length := by
  induction h generalizing before with
  | nil => exact Nat.zero_le _
  | cons hstart _ ih =>
    cases before with
    | nil => exact absurd ⟨after, heq.symm⟩ hstart
    | cons d before =>
      obtain ⟨-, heq⟩ := List.cons.inj heq
      exact Nat.succ_le_succ (ih heq)

/-- A text is split at the mark after a part that is clear of it. -/
theorem Clear.dropInfix? (h : Clear mark (mark ++ rest) cs) :
    (cs ++ (mark ++ rest)).dropInfix? mark = some (cs, rest) := by
  refine List.dropInfix?_eq_some_iff.2 ⟨⟨mark, (List.append_assoc ..).symm, beq_self_eq_true _⟩, ?_⟩
  intro before found after heq hfound
  rw [beq_iff_eq] at hfound
  subst hfound
  exact h.length_le heq

end Questionnaire.Text
