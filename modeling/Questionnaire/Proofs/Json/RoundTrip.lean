import Questionnaire.Proofs.Json.Numeral
import Questionnaire.Proofs.Json.Text

/-!
# Values read back

A written value is read back as it was, in either layout (`Sound.parse?_write`), if its integers fit
64 bits, its other numbers are read back, nothing in it is illegible and containers are not nested
deeper than the reader goes (`Sound`).

The proof follows the value. What it needs of a part is that the part is read back wherever it may
stand (`IsReadBack`): with any amount of fuel from twice its length on, and before whatever may
follow a value. Two lemmas carry this from the items to the array and from the members to the
object.
-/

namespace Questionnaire.Json

/-! ## Sound values -/

/-- Containers are nested in the value for at most `room` levels, its integers fit 64 bits and its
other numbers are as the predicate says. -/
inductive Sound (P : Number → Prop) : ℕ → Json → Prop where
  | null (room : ℕ) : Sound P room .null
  | bool (room : ℕ) (value : Bool) : Sound P room (.bool value)
  | integer (room : ℕ) {n : ℤ} (fits : FitsWord n) : Sound P room (.integer n)
  | real (room : ℕ) {x : Number} (holds : P x) : Sound P room (.real x)
  | text (room : ℕ) (s : String) : Sound P room (.text s)
  | array {room : ℕ} {items : List Json} (each : ∀ item ∈ items, Sound P room item) :
    Sound P (room + 1) (.array items)
  | object {room : ℕ} {members : List (String × Json)}
    (each : ∀ member ∈ members, Sound P room member.2) : Sound P (room + 1) (.object members)

theorem legibleItems_iff {items : List Json} :
    legibleItems items = true ↔ ∀ item ∈ items, item.legible = true := by
  induction items with
  | nil => simp [legibleItems]
  | cons item rest ih => rw [legibleItems, Bool.and_eq_true, ih, List.forall_mem_cons]

theorem legibleMembers_iff {members : List (String × Json)} :
    legibleMembers members = true ↔ ∀ member ∈ members, member.2.legible = true := by
  induction members with
  | nil => simp [legibleMembers]
  | cons member rest ih => rw [legibleMembers, Bool.and_eq_true, ih, List.forall_mem_cons]

/-- Nothing in a sound value is illegible. -/
theorem Sound.legible {P : Number → Prop} {room : ℕ} {value : Json} (h : Sound P room value) :
    value.legible = true := by
  induction h with
  | array _ ih =>
    rw [Json.legible]
    exact legibleItems_iff.2 ih
  | object _ ih =>
    rw [Json.legible]
    exact legibleMembers_iff.2 ih
  | _ => rfl

/-! ## Blanks -/

/-- There is nothing but spaces in the text. -/
def IsGap (gap : List Char) : Prop :=
  ∀ c ∈ gap, isSpace c = true

theorem isGap_nil : IsGap [] :=
  fun _ h => absurd h List.not_mem_nil

theorem isGap_lineBreak (layout : Layout) (level : ℕ) : IsGap (layout.lineBreak level) := by
  cases layout with
  | compact => exact isGap_nil
  | indented =>
    intro c hc
    rcases List.mem_cons.1 hc with rfl | hc
    · rfl
    · rw [List.eq_of_mem_replicate hc]
      rfl

/-- What stands between a name and its value is a colon and spaces. -/
theorem exists_colon_eq_cons (layout : Layout) : ∃ gap, layout.colon = ':' :: gap ∧ IsGap gap := by
  cases layout with
  | compact => exact ⟨[], rfl, isGap_nil⟩
  | indented => exact ⟨[' '], rfl, by simp [IsGap, isSpace]⟩

theorem skipSpace_append {gap : List Char} (h : IsGap gap) (cs : List Char) :
    skipSpace (gap ++ cs) = skipSpace cs := by
  induction gap with
  | nil => rfl
  | cons c gap ih =>
    obtain ⟨hc, hgap⟩ := List.forall_mem_cons.1 h
    rw [List.cons_append, skipSpace, List.dropWhile_cons_of_pos hc]
    exact ih hgap

theorem skipSpace_cons {c : Char} (h : isSpace c = false) (cs : List Char) :
    skipSpace (c :: cs) = c :: cs :=
  List.dropWhile_cons_of_neg (by simp [h])

theorem readValue_append {gap : List Char} (h : IsGap gap) (fuel depth : ℕ) (cs : List Char) :
    readValue fuel depth (gap ++ cs) = readValue fuel depth cs := by
  cases fuel with
  | zero => rfl
  | succ fuel => rw [readValue, readValue, skipSpace_append h]

/-- A space ends a number. -/
theorem EndsNumber.append {gap rest : List Char} (h : IsGap gap) (hrest : EndsNumber rest) :
    EndsNumber (gap ++ rest) := by
  cases gap with
  | nil => exact hrest
  | cons c gap =>
    intro d hd
    obtain rfl : c = d := Option.some_inj.1 hd
    have hspace := (List.forall_mem_cons.1 h).1
    simp only [isSpace, Bool.or_eq_true, beq_iff_eq] at hspace
    rcases hspace with ((rfl | rfl) | rfl) | rfl <;> decide

/-- So does what separates and closes values. -/
theorem EndsNumber.mark {c : Char} (h : c ∈ [',', ']', '}']) (rest : List Char) :
    EndsNumber (c :: rest) := by
  intro d hd
  obtain rfl : c = d := Option.some_inj.1 hd
  revert h
  simp only [List.mem_cons, List.not_mem_nil, or_false]
  rintro (rfl | rfl | rfl) <;> decide

/-! ## Steps of the reader

The reader is unfolded once for each thing that a text can start with; the proofs below go by these
equations. -/

section Steps

variable {fuel depth : ℕ} {cs cs₁ cs₂ cs₃ cs₄ cs₅ rest : List Char}

theorem readValue_bracket :
    readValue (fuel + 1) depth ('[' :: cs) = (match skipSpace cs with
      | ']' :: rest => some (nested depth (.array []), rest)
      | rest => do
        let (items, rest) ← readItems fuel (depth + 1) rest
        some (nested depth (.array items), rest)) :=
  rfl

theorem readValue_brace :
    readValue (fuel + 1) depth ('{' :: cs) = (match skipSpace cs with
      | '}' :: rest => some (nested depth (.object []), rest)
      | rest => do
        let (members, rest) ← readMembers fuel (depth + 1) rest
        some (nested depth (ofMembers members), rest)) :=
  rfl

theorem readValue_quote :
    readValue (fuel + 1) depth ('"' :: cs) = (do
      let (value, rest) ← readText cs
      some (value.elim .illegible .text, rest)) :=
  rfl

/-- A value in brackets whose first item is not at once the end. -/
theorem readValue_array {items : List Json} (hskip : skipSpace cs = cs₁) (hc : cs₁.head? ≠ some ']')
    (hitems : readItems fuel (depth + 1) cs₁ = some (items, rest)) :
    readValue (fuel + 1) depth ('[' :: cs) = some (nested depth (.array items), rest) := by
  rw [readValue_bracket, hskip]
  split
  next => exact absurd rfl hc
  next =>
    rw [hitems]
    rfl

/-- A value in braces whose first member is not at once the end. -/
theorem readValue_object {members : List (Option String × Json)} (hskip : skipSpace cs = cs₁)
    (hc : cs₁.head? ≠ some '}')
    (hmembers : readMembers fuel (depth + 1) cs₁ = some (members, rest)) :
    readValue (fuel + 1) depth ('{' :: cs) = some (nested depth (ofMembers members), rest) := by
  rw [readValue_brace, hskip]
  split
  next => exact absurd rfl hc
  next =>
    rw [hmembers]
    rfl

theorem readItems_succ :
    readItems (fuel + 1) depth cs = (do
      let (item, rest) ← readValue fuel depth cs
      match skipSpace rest with
      | ']' :: rest => some ([item], rest)
      | ',' :: rest => do
        let (items, rest) ← readItems fuel depth rest
        some (item :: items, rest)
      | _ => none) :=
  rfl

theorem readItems_last {item : Json} (hitem : readValue fuel depth cs = some (item, cs₁))
    (hmark : skipSpace cs₁ = ']' :: rest) :
    readItems (fuel + 1) depth cs = some ([item], rest) := by
  rw [readItems_succ, hitem]
  simp [hmark]

theorem readItems_next {item : Json} {items : List Json}
    (hitem : readValue fuel depth cs = some (item, cs₁)) (hmark : skipSpace cs₁ = ',' :: cs₂)
    (hitems : readItems fuel depth cs₂ = some (items, rest)) :
    readItems (fuel + 1) depth cs = some (item :: items, rest) := by
  rw [readItems_succ, hitem]
  simp [hmark, hitems]

theorem readMembers_succ :
    readMembers (fuel + 1) depth cs = (match skipSpace cs with
      | '"' :: rest => do
        let (name, rest) ← readText rest
        match skipSpace rest with
        | ':' :: rest => do
          let (value, rest) ← readValue fuel depth rest
          match skipSpace rest with
          | '}' :: rest => some ([(name, value)], rest)
          | ',' :: rest => do
            let (members, rest) ← readMembers fuel depth rest
            some ((name, value) :: members, rest)
          | _ => none
        | _ => none
      | _ => none) :=
  rfl

theorem readMembers_last {name : Option String} {value : Json} (hquote : skipSpace cs = '"' :: cs₁)
    (hname : readText cs₁ = some (name, cs₂)) (hcolon : skipSpace cs₂ = ':' :: cs₃)
    (hvalue : readValue fuel depth cs₃ = some (value, cs₄)) (hmark : skipSpace cs₄ = '}' :: rest) :
    readMembers (fuel + 1) depth cs = some ([(name, value)], rest) := by
  rw [readMembers_succ, hquote]
  simp [hname, hcolon, hvalue, hmark]

theorem readMembers_next {name : Option String} {value : Json}
    {members : List (Option String × Json)} (hquote : skipSpace cs = '"' :: cs₁)
    (hname : readText cs₁ = some (name, cs₂)) (hcolon : skipSpace cs₂ = ':' :: cs₃)
    (hvalue : readValue fuel depth cs₃ = some (value, cs₄)) (hmark : skipSpace cs₄ = ',' :: cs₅)
    (hmembers : readMembers fuel depth cs₅ = some (members, rest)) :
    readMembers (fuel + 1) depth cs = some ((name, value) :: members, rest) := by
  rw [readMembers_succ, hquote]
  simp [hname, hcolon, hvalue, hmark, hmembers]

end Steps

/-! ## Written containers -/

section Written

variable (layout : Layout) (level : ℕ)

theorem writeItems_cons (item : Json) (items : List Json) :
    writeItems layout level (item :: items) =
      ',' :: (layout.lineBreak level ++ item.write layout level ++ writeItems layout level items) :=
  rfl

theorem writeMembers_cons (name : String) (value : Json) (members : List (String × Json)) :
    writeMembers layout level ((name, value) :: members) =
      ',' :: (layout.lineBreak level ++ writeText name ++ layout.colon ++
        value.write layout level ++ writeMembers layout level members) :=
  rfl

theorem write_array_cons (item : Json) (items : List Json) :
    (Json.array (item :: items)).write layout level =
      '[' :: (layout.lineBreak (level + 1) ++ item.write layout (level + 1) ++
        writeItems layout (level + 1) items ++ layout.lineBreak level ++ [']']) :=
  rfl

theorem write_object_cons (name : String) (value : Json) (members : List (String × Json)) :
    (Json.object ((name, value) :: members)).write layout level =
      '{' :: (layout.lineBreak (level + 1) ++ writeText name ++ layout.colon ++
        value.write layout (level + 1) ++ writeMembers layout (level + 1) members ++
        layout.lineBreak level ++ ['}']) :=
  rfl

end Written

/-! ## Parts of values -/

/-- The written value is read back at the depth wherever it may stand. -/
def IsReadBack (layout : Layout) (level depth : ℕ) (value : Json) : Prop :=
  ∀ fuel rest, 2 * (value.write layout level).length ≤ fuel → EndsNumber rest →
    readValue fuel depth (value.write layout level ++ rest) = some (value, rest)

section Parts

variable {layout : Layout} {level depth : ℕ} {before after rest : List Char}

/-- Written items are read back when each is. -/
theorem readItems_writeItems {item : Json} {items : List Json} (hbefore : IsGap before)
    (hafter : IsGap after) (hitem : IsReadBack layout level depth item)
    (hitems : ∀ item ∈ items, IsReadBack layout level depth item) {fuel : ℕ}
    (hfuel : 2 * ((item.write layout level).length + (writeItems layout level items).length) + 1 ≤
      fuel) :
    readItems fuel depth (before ++ (item.write layout level ++
      (writeItems layout level items ++ (after ++ ']' :: rest)))) = some (item :: items, rest) := by
  -- Each item takes one step of fuel, for which its comma provides two.
  obtain ⟨fuel, rfl⟩ : ∃ n, fuel = n + 1 := ⟨fuel - 1, by omega⟩
  induction items generalizing item before fuel with
  | nil =>
    have hends : EndsNumber (after ++ ']' :: rest) := .append hafter (.mark (by decide) rest)
    -- The last item is read before the gap and the bracket, which end a number.
    refine readItems_last ?_ ((skipSpace_append hafter _).trans (skipSpace_cons rfl _))
    rw [readValue_append hbefore]
    exact hitem fuel _ (by omega) hends
  | cons next items ih =>
    obtain ⟨hnext, hitems⟩ := List.forall_mem_cons.1 hitems
    simp only [writeItems_cons, List.length_cons, List.length_append] at hfuel
    obtain ⟨fuel, rfl⟩ : ∃ n, fuel = n + 1 := ⟨fuel - 1, by omega⟩
    have hrest := ih (isGap_lineBreak layout level) hnext hitems fuel (by omega)
    simp only [writeItems_cons, List.cons_append, List.append_assoc]
    refine readItems_next ?_ (skipSpace_cons rfl _) hrest
    rw [readValue_append hbefore]
    exact hitem _ _ (by omega) (.mark (by decide) _)

/-- A name in quotes is come to after spaces. -/
theorem skipSpace_writeText (hbefore : IsGap before) (name : String) (cs : List Char) :
    skipSpace (before ++ (writeText name ++ cs)) =
      '"' :: (name.toList.flatMap escapeChar ++ '"' :: cs) := by
  rw [skipSpace_append hbefore, writeText, List.cons_append, skipSpace_cons rfl, List.append_assoc,
    List.singleton_append]

/-- Written members are read back, with all names spelled, when each value is. -/
theorem readMembers_writeMembers {name : String} {value : Json} {members : List (String × Json)}
    (hbefore : IsGap before) (hafter : IsGap after) (hvalue : IsReadBack layout level depth value)
    (hmembers : ∀ member ∈ members, IsReadBack layout level depth member.2) {fuel : ℕ}
    (hfuel : 2 * ((value.write layout level).length +
      (writeMembers layout level members).length) + 1 ≤ fuel) :
    readMembers fuel depth (before ++ (writeText name ++ (layout.colon ++
      (value.write layout level ++ (writeMembers layout level members ++
        (after ++ '}' :: rest)))))) =
      some (((name, value) :: members).map fun member => (some member.1, member.2), rest) := by
  obtain ⟨gap, hcolon, hgap⟩ := exists_colon_eq_cons layout
  have hskip : ∀ cs, skipSpace (layout.colon ++ cs) = ':' :: (gap ++ cs) := by
    intro cs
    rw [hcolon, List.cons_append, skipSpace_cons rfl]
  obtain ⟨fuel, rfl⟩ : ∃ n, fuel = n + 1 := ⟨fuel - 1, by omega⟩
  induction members generalizing name value before fuel with
  | nil =>
    -- A number as the last value is ended by what comes after it, and that is no digit.
    have hends : EndsNumber (after ++ '}' :: rest) := .append hafter (.mark (by decide) rest)
    have hread : readValue fuel depth (gap ++ (value.write layout level ++
        (after ++ '}' :: rest))) = some (value, after ++ '}' :: rest) := by
      rw [readValue_append hgap]
      exact hvalue fuel _ (by omega) hends
    exact readMembers_last (skipSpace_writeText hbefore name _) (readText_writeText name _)
      (hskip _) hread ((skipSpace_append hafter _).trans (skipSpace_cons rfl _))
  | cons next members ih =>
    obtain ⟨hnext, hmembers⟩ := List.forall_mem_cons.1 hmembers
    rw [writeMembers_cons] at hfuel ⊢
    simp only [List.length_cons, List.length_append] at hfuel
    obtain ⟨fuel, rfl⟩ : ∃ n, fuel = n + 1 := ⟨fuel - 1, by omega⟩
    have hrest := @ih _ next.1 _ (isGap_lineBreak layout level) hnext hmembers fuel (by omega)
    have hread : ∀ cs, readValue (fuel + 1) depth (gap ++ (value.write layout level ++ ',' :: cs)) =
        some (value, ',' :: cs) := by
      intro cs
      rw [readValue_append hgap]
      exact hvalue _ _ (by omega) (.mark (by decide) _)
    simp only [List.cons_append, List.append_assoc]
    exact readMembers_next (skipSpace_writeText hbefore name _) (readText_writeText name _)
      (hskip _) (hread _) (skipSpace_cons rfl _) hrest

end Parts

/-! ## Whole values -/

theorem mapM_map_eq_some {α β : Type} {mark : α → β} {unmark : β → Option α}
    (h : ∀ a, unmark (mark a) = some a) (items : List α) :
    (items.map mark).mapM unmark = some items := by
  induction items with
  | nil => rfl
  | cons a rest ih =>
    rw [List.map_cons, List.mapM_cons, h, ih]
    rfl

/-- Names that are all spelled make an object of the members. -/
theorem ofMembers_map_some (members : List (String × Json)) :
    ofMembers (members.map fun member => (some member.1, member.2)) = .object members := by
  unfold ofMembers
  rw [mapM_map_eq_some]
  exact fun _ => rfl

/-- What a number starts with starts nothing else and is no blank. -/
theorem not_mark_of_number {c : Char} (h : c = '-' ∨ c.isDigit = true) :
    isSpace c = false ∧ c ∉ [']', '[', '{', '"', 'n', 't', 'f'] := by
  rcases h with rfl | h
  · decide
  · constructor
    · refine Bool.eq_false_iff.2 fun hspace => ?_
      simp only [isSpace, Bool.or_eq_true, beq_iff_eq] at hspace
      rcases hspace with ((rfl | rfl) | rfl) | rfl <;> exact absurd h (by decide)
    · intro hmem
      simp only [List.mem_cons, List.not_mem_nil, or_false] at hmem
      rcases hmem with rfl | rfl | rfl | rfl | rfl | rfl | rfl <;> exact absurd h (by decide)

/-- A number is read where a value is expected. -/
theorem readValue_of_readNumber {fuel depth : ℕ} {cs rest : List Char} {value : Json}
    (h : readNumber cs = some (value, rest)) :
    readValue (fuel + 1) depth cs = some (value, rest) := by
  -- The first character rules out every other way to go on.
  obtain ⟨c, cs, rfl, hc⟩ := exists_head_of_readNumber h
  obtain ⟨hspace, hmark⟩ := not_mark_of_number hc
  simp only [List.mem_cons, List.not_mem_nil, or_false, not_or] at hmark
  obtain ⟨-, hbracket, hbrace, hquote, hn, ht, hf⟩ := hmark
  rw [readValue, skipSpace_cons hspace]
  split
  next heq => exact absurd (List.cons.inj heq).1 hbracket
  next heq => exact absurd (List.cons.inj heq).1 hbrace
  next heq => exact absurd (List.cons.inj heq).1 hquote
  next heq => exact absurd (List.cons.inj heq).1 hn
  next heq => exact absurd (List.cons.inj heq).1 ht
  next heq => exact absurd (List.cons.inj heq).1 hf
  next => exact h

/-- A written sound value starts with no blank and with no closing bracket. -/
theorem Sound.exists_head {room : ℕ} {value : Json} (h : Sound Number.ReadsBack room value)
    (layout : Layout) (level : ℕ) :
    ∃ c t, value.write layout level = c :: t ∧ isSpace c = false ∧ c ≠ ']' := by
  have hnumber : ∀ {cs : List Char} {value : Json}, readNumber cs = some (value, []) →
      ∃ c t, cs = c :: t ∧ isSpace c = false ∧ c ≠ ']' := by
    intro cs value hread
    obtain ⟨c, t, rfl, hc⟩ := exists_head_of_readNumber hread
    obtain ⟨hspace, hmark⟩ := not_mark_of_number hc
    exact ⟨c, t, rfl, hspace, fun heq => hmark (heq ▸ List.mem_cons_self)⟩
  cases h with
  | null => exact ⟨_, _, rfl, rfl, by decide⟩
  | bool room value => cases value <;> exact ⟨_, _, rfl, rfl, by decide⟩
  | integer room fits => exact hnumber (readNumber_writeInteger fits)
  | real room holds => exact hnumber holds
  | text => exact ⟨_, _, rfl, rfl, by decide⟩
  | @array room items _ => cases items <;> exact ⟨_, _, rfl, rfl, by decide⟩
  | @object room members _ => cases members <;> exact ⟨_, _, rfl, rfl, by decide⟩

section Values

variable {layout : Layout} {level depth : ℕ}

/-- A value is written with at least one character, so there is fuel for a first step. -/
theorem IsReadBack.of_succ {value : Json} (hne : value.write layout level ≠ [])
    (h : ∀ fuel rest, 2 * (value.write layout level).length ≤ fuel + 1 → EndsNumber rest →
      readValue (fuel + 1) depth (value.write layout level ++ rest) = some (value, rest)) :
    IsReadBack layout level depth value := by
  intro fuel rest hfuel hrest
  have hpos : 0 < (value.write layout level).length := List.length_pos_iff.2 hne
  obtain ⟨fuel, rfl⟩ : ∃ n, fuel = n + 1 := ⟨fuel - 1, by omega⟩
  exact h fuel rest hfuel hrest

theorem isReadBack_of_readNumber {value : Json}
    (hread : readNumber (value.write layout level) = some (value, [])) :
    IsReadBack layout level depth value := by
  refine .of_succ ?_ fun fuel rest _ hrest =>
    readValue_of_readNumber (readNumber_append hrest hread)
  obtain ⟨c, t, hwrite, _⟩ := exists_head_of_readNumber hread
  rw [hwrite]
  exact List.cons_ne_nil c t

theorem isReadBack_null : IsReadBack layout level depth .null :=
  .of_succ (List.cons_ne_nil _ _) fun _ _ _ _ => rfl

theorem isReadBack_bool (value : Bool) : IsReadBack layout level depth (.bool value) := by
  cases value <;> exact .of_succ (List.cons_ne_nil _ _) fun _ _ _ _ => rfl

theorem isReadBack_text (s : String) : IsReadBack layout level depth (.text s) := by
  refine .of_succ (List.cons_ne_nil _ _) fun fuel rest _ _ => ?_
  have hwritten : (Json.text s).write layout level ++ rest =
      '"' :: (s.toList.flatMap escapeChar ++ '"' :: rest) := by
    show writeText s ++ rest = _
    rw [writeText, List.cons_append, List.append_assoc, List.singleton_append]
  rw [hwritten, readValue_quote, readText_writeText]
  rfl

/-- An array is read back when its items are and none of them starts like its end. -/
theorem isReadBack_array {items : List Json} (hdepth : depth < depthLimit)
    (heads : ∀ item ∈ items, ∃ c t,
      item.write layout (level + 1) = c :: t ∧ isSpace c = false ∧ c ≠ ']')
    (hitems : ∀ item ∈ items, IsReadBack layout (level + 1) (depth + 1) item) :
    IsReadBack layout level depth (.array items) := by
  have hnested : ∀ value, nested depth value = value := fun _ => if_pos hdepth
  match items, heads, hitems with
  | [], _, _ =>
    refine .of_succ (List.cons_ne_nil _ _) fun fuel rest _ _ => ?_
    show some (nested depth (.array []), rest) = some (.array [], rest)
    rw [hnested]
  | item :: items, heads, hitems =>
    refine .of_succ (List.cons_ne_nil _ _) fun fuel rest hfuel _ => ?_
    obtain ⟨hitem, hitems⟩ := List.forall_mem_cons.1 hitems
    obtain ⟨c, t, hwrite, hspace, hmark⟩ := heads item List.mem_cons_self
    simp only [write_array_cons, List.length_cons, List.length_append] at hfuel
    have hwritten : (Json.array (item :: items)).write layout level ++ rest =
        '[' :: (layout.lineBreak (level + 1) ++ (item.write layout (level + 1) ++
          (writeItems layout (level + 1) items ++ (layout.lineBreak level ++ ']' :: rest)))) := by
      simp only [write_array_cons, List.cons_append, List.append_assoc, List.nil_append]
    have hread : readItems fuel (depth + 1) (item.write layout (level + 1) ++
        (writeItems layout (level + 1) items ++ (layout.lineBreak level ++ ']' :: rest))) =
          some (item :: items, rest) :=
      readItems_writeItems isGap_nil (isGap_lineBreak layout level) hitem hitems (by omega)
    -- The reader looks for the end first, past the line break, and finds the first item.
    have hskip : ∀ cs, skipSpace (layout.lineBreak (level + 1) ++ (item.write layout (level + 1) ++
        cs)) = item.write layout (level + 1) ++ cs := by
      intro cs
      rw [skipSpace_append (isGap_lineBreak layout _), hwrite, List.cons_append,
        skipSpace_cons hspace]
    have hhead : ∀ cs, (item.write layout (level + 1) ++ cs).head? ≠ some ']' := by
      intro cs heq
      rw [hwrite] at heq
      exact hmark (Option.some_inj.1 heq)
    rw [hwritten, readValue_array (hskip _) (hhead _) hread, hnested]

/-- An object is read back when the values of its members are. -/
theorem isReadBack_object {members : List (String × Json)} (hdepth : depth < depthLimit)
    (hmembers : ∀ member ∈ members, IsReadBack layout (level + 1) (depth + 1) member.2) :
    IsReadBack layout level depth (.object members) := by
  have hnested : ∀ value, nested depth value = value := fun _ => if_pos hdepth
  match members, hmembers with
  | [], _ =>
    refine .of_succ (List.cons_ne_nil _ _) fun fuel rest _ _ => ?_
    show some (nested depth (.object []), rest) = some (.object [], rest)
    rw [hnested]
  | (name, value) :: members, hmembers =>
    refine .of_succ (List.cons_ne_nil _ _) fun fuel rest hfuel _ => ?_
    have hvalue : IsReadBack layout (level + 1) (depth + 1) value :=
      hmembers (name, value) List.mem_cons_self
    have hrest := (List.forall_mem_cons.1 hmembers).2
    simp only [write_object_cons, List.length_cons, List.length_append] at hfuel
    have hwritten : (Json.object ((name, value) :: members)).write layout level ++ rest =
        '{' :: (layout.lineBreak (level + 1) ++ (writeText name ++ (layout.colon ++
          (value.write layout (level + 1) ++ (writeMembers layout (level + 1) members ++
            (layout.lineBreak level ++ '}' :: rest)))))) := by
      simp only [write_object_cons, List.cons_append, List.append_assoc, List.nil_append]
    have hread : readMembers fuel (depth + 1) (writeText name ++ (layout.colon ++
        (value.write layout (level + 1) ++ (writeMembers layout (level + 1) members ++
          (layout.lineBreak level ++ '}' :: rest))))) =
            some (((name, value) :: members).map fun member => (some member.1, member.2), rest) :=
      readMembers_writeMembers isGap_nil (isGap_lineBreak layout level) hvalue hrest (by omega)
    have hskip : ∀ cs, skipSpace (layout.lineBreak (level + 1) ++ (writeText name ++ cs)) =
        writeText name ++ cs := by
      intro cs
      rw [skipSpace_append (isGap_lineBreak layout _)]
      exact skipSpace_cons rfl _
    -- A name starts with a quotation mark, so the object is not taken for an empty one.
    have hhead : ∀ cs, (writeText name ++ cs).head? ≠ some '}' := by
      intro cs heq
      cases heq
    rw [hwritten, readValue_object (hskip _) (hhead _) hread, ofMembers_map_some, hnested]

end Values

/-- A sound value is read back wherever it may stand, at any depth that leaves it room. -/
theorem Sound.isReadBack {room : ℕ} {value : Json} (h : Sound Number.ReadsBack room value)
    (layout : Layout) (level depth : ℕ) (hdepth : depth + room ≤ depthLimit) :
    IsReadBack layout level depth value := by
  -- Going into a container takes one from the room and adds one to the depth.
  induction h generalizing level depth with
  | null => exact isReadBack_null
  | bool room value => exact isReadBack_bool value
  | integer room fits => exact isReadBack_of_readNumber (readNumber_writeInteger fits)
  | real room holds => exact isReadBack_of_readNumber holds
  | text room s => exact isReadBack_text s
  | array each ih =>
    exact isReadBack_array (by omega) (fun item hitem => (each item hitem).exists_head layout _)
      fun item hitem => ih item hitem (level + 1) (depth + 1) (by omega)
  | object each ih =>
    exact isReadBack_object (by omega)
      fun member hmember => ih member hmember (level + 1) (depth + 1) (by omega)

/-- A sound value is read back from its text, in either layout. -/
theorem Sound.parse?_write {value : Json} (h : Sound Number.ReadsBack depthLimit value)
    (layout : Layout) : parse? (String.ofList (value.write layout 0)) = some value := by
  have hends : EndsNumber [] := fun _ heq => nomatch heq
  have hread := h.isReadBack layout 0 0 (by omega) (2 * (value.write layout 0).length + 2) []
    (by omega) hends
  rw [List.append_nil] at hread
  rw [parse?, String.toList_ofList, hread]
  rfl

end Questionnaire.Json
