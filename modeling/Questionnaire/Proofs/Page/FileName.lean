import Mathlib.Data.List.DropRight
import Questionnaire.Page.Document
import Questionnaire.Proofs.Text.Occurrence

/-!
# Names of files

The name of a file is a stem and an ending. Whatever the title and the id of a survey are, the stem
has runs of small letters and digits that are joined by single hyphens, and nothing else (`IsStem`).
It loses none of the letters and digits of what the file is named after (`fileName_safe`).

A slug is looked at by its runs (`slugWords`). None of them is empty (`isRun_slugWords`), and read
one after the other they are the letters and digits of the text (`flatten_slugWords`). The hyphens
between runs can be told from the runs, so that joined runs are taken apart again
(`slugWords_intercalate`); that makes a slug its own slug.

A slug can also be written in one pass over the text, by a writer that looks at what it has written
(`slugInOnePass`). At each point what it has written are the runs that are finished, each with a
hyphen after it, and the run that is open (`slugSoFar`): a character goes into the open run, closes
it, or changes nothing.
-/

namespace Questionnaire.Page

/-! ## Letters and digits -/

/-- The letters and digits of ASCII in a text. -/
def alphanums (cs : List Char) : List Char :=
  cs.filter Char.isAlphanum

/-- Whether a character is a small letter or a digit of ASCII. -/
def isStemChar (c : Char) : Bool :=
  c.isLower || c.isDigit

/-- Letters and digits are the capital letters and those that may stand in a stem. -/
theorem isAlphanum_eq (c : Char) : c.isAlphanum = (c.isUpper || isStemChar c) :=
  Bool.or_assoc ..

theorem isUpper_iff {c : Char} : c.isUpper = true ↔ 65 ≤ c.toNat ∧ c.toNat ≤ 90 := by
  have hupper : c.isUpper = decide ('A'.val ≤ c.val ∧ c.val ≤ 'Z'.val) := rfl
  rw [hupper, decide_eq_true_iff]
  exact and_congr UInt32.le_iff_toNat_le UInt32.le_iff_toNat_le

theorem isLower_iff {c : Char} : c.isLower = true ↔ 97 ≤ c.toNat ∧ c.toNat ≤ 122 := by
  have hlower : c.isLower = (decide ('a'.val ≤ c.val) && decide (c.val ≤ 'z'.val)) := rfl
  rw [hlower, Bool.and_eq_true, decide_eq_true_iff, decide_eq_true_iff]
  exact and_congr UInt32.le_iff_toNat_le UInt32.le_iff_toNat_le

theorem isStemChar_iff {c : Char} :
    isStemChar c = true ↔ 97 ≤ c.toNat ∧ c.toNat ≤ 122 ∨ 48 ≤ c.toNat ∧ c.toNat ≤ 57 := by
  rw [isStemChar, Bool.or_eq_true, isLower_iff]
  exact or_congr_right Char.isDigit_iff_toNat

/-- What is not a capital letter stays as it is when it is made small. -/
theorem toLower_of_not_isUpper {c : Char} (h : ¬ c.isUpper = true) : c.toLower = c :=
  dif_neg fun hupper => h (decide_eq_true hupper)

/-- Each small letter comes 32 places after the capital one. -/
theorem toNat_toLower_of_isUpper {c : Char} (h : c.isUpper = true) :
    c.toLower.toNat = c.toNat + 32 := by
  have hlower : c.toLower.val = c.val + 32 := congrArg Char.val (dif_pos (of_decide_eq_true h))
  have hto : c.toNat ≤ 90 := (isUpper_iff.1 h).2
  rw [← Char.toNat_val, hlower, UInt32.toNat_add, Char.toNat_val]
  exact Nat.mod_eq_of_lt (by change c.toNat + 32 < _; omega)

/-- A small letter stays as it is when it is made small, and so does a digit. -/
theorem toLower_of_isStemChar {c : Char} (h : isStemChar c = true) : c.toLower = c := by
  refine toLower_of_not_isUpper fun hupper => ?_
  rw [isStemChar_iff] at h
  rw [isUpper_iff] at hupper
  omega

theorem isAlphanum_of_isStemChar {c : Char} (h : isStemChar c = true) : c.isAlphanum = true := by
  rw [isAlphanum_eq, h, Bool.or_true]

theorem isStemChar_toLower {c : Char} (h : c.isAlphanum = true) : isStemChar c.toLower = true := by
  by_cases hupper : c.isUpper = true
  · have hrange := isUpper_iff.1 hupper
    rw [isStemChar_iff, toNat_toLower_of_isUpper hupper]
    omega
  · rw [isAlphanum_eq, Bool.or_eq_true] at h
    rw [toLower_of_not_isUpper hupper]
    exact h.resolve_left hupper

theorem ne_hyphen_of_isStemChar {c : Char} (h : isStemChar c = true) : c ≠ '-' := by
  rintro rfl
  exact absurd h (by decide)

/-! ## Runs -/

/-- Small letters and digits, at least one. -/
structure IsRun (run : List Char) : Prop where
  /-- There is a character. -/
  nonempty : run ≠ []
  /-- Every character is a small letter or a digit. -/
  small : ∀ c ∈ run, isStemChar c = true

/-- A run that has been collected backwards. -/
theorem isRun_reverse {current : List Char} (hne : ¬ current.isEmpty = true)
    (hcurrent : ∀ c ∈ current, isStemChar c = true) : IsRun current.reverse :=
  ⟨by simpa using hne, by simpa using hcurrent⟩

/-- The runs of a text are runs. -/
theorem isRun_slugWords {current cs : List Char} (hcurrent : ∀ c ∈ current, isStemChar c = true) :
    ∀ run ∈ slugWords current cs, IsRun run := by
  fun_induction slugWords current cs with
  | case1 => exact List.forall_mem_nil _
  | case2 current hne => exact List.forall_mem_singleton.2 (isRun_reverse hne hcurrent)
  | case3 current c rest hc ih =>
    exact ih (List.forall_mem_cons.2 ⟨isStemChar_toLower hc, hcurrent⟩)
  | case4 current c rest _ _ ih => exact ih (List.forall_mem_nil _)
  | case5 current c rest _ hne ih =>
    exact List.forall_mem_cons.2 ⟨isRun_reverse hne hcurrent, ih (List.forall_mem_nil _)⟩

/-- Read one after the other, the runs of a text are its letters and digits, made small. -/
theorem flatten_slugWords (current cs : List Char) :
    (slugWords current cs).flatten = current.reverse ++ (alphanums cs).map Char.toLower := by
  fun_induction slugWords current cs with
  | case1 current hempty =>
    obtain rfl := List.isEmpty_iff.1 hempty
    rfl
  | case2 current _ => simp [alphanums]
  | case3 current c rest hc ih => simp [ih, alphanums, hc]
  | case4 current c rest hc hempty ih =>
    obtain rfl := List.isEmpty_iff.1 hempty
    simp [ih, alphanums, hc]
  | case5 current c rest hc _ ih => simp [ih, alphanums, hc]

/-- Small letters and digits at the start of a text go into the run that is open. -/
theorem slugWords_append {run : List Char} (hrun : ∀ c ∈ run, isStemChar c = true)
    (current rest : List Char) :
    slugWords current (run ++ rest) = slugWords (run.reverse ++ current) rest := by
  induction run generalizing current with
  | nil => rfl
  | cons c run ih =>
    obtain ⟨hc, hrun⟩ := List.forall_mem_cons.1 hrun
    rw [List.cons_append, slugWords, if_pos (isAlphanum_of_isStemChar hc), toLower_of_isStemChar hc,
      ih hrun, List.reverse_cons, List.append_assoc, List.singleton_append]

namespace IsRun

variable {run : List Char}

theorem hyphen_not_mem (h : IsRun run) : '-' ∉ run :=
  fun hmem => ne_hyphen_of_isStemChar (h.small _ hmem) rfl

theorem isEmpty_reverse (h : IsRun run) : run.reverse.isEmpty = false := by
  simpa using h.nonempty

/-- All characters of a run are letters and digits. -/
theorem alphanums_eq (h : IsRun run) : alphanums run = run :=
  List.filter_eq_self.2 fun c hc => isAlphanum_of_isStemChar (h.small c hc)

/-- A text that ends with a run does not end with a hyphen. -/
theorem getLast?_append_ne_hyphen (h : IsRun run) (cs : List Char) :
    (cs ++ run).getLast? ≠ some '-' := by
  intro hlast
  rw [List.getLast?_append_of_ne_nil _ h.nonempty] at hlast
  exact h.hyphen_not_mem (List.mem_of_getLast? hlast)

/-- The end of the text closes a run. -/
theorem slugWords_eq (h : IsRun run) : slugWords [] run = [run] := by
  have happend := slugWords_append h.small [] []
  rwa [List.append_nil, List.append_nil, slugWords, h.isEmpty_reverse, if_neg Bool.false_ne_true,
    List.reverse_reverse] at happend

/-- A hyphen closes a run. -/
theorem slugWords_append_hyphen (h : IsRun run) (rest : List Char) :
    slugWords [] (run ++ '-' :: rest) = run :: slugWords [] rest := by
  rw [slugWords_append h.small, List.append_nil, slugWords, if_neg (by decide), h.isEmpty_reverse,
    if_neg Bool.false_ne_true, List.reverse_reverse]

end IsRun

/-! ## Runs joined by hyphens -/

theorem intercalate_hyphen_cons_cons (run next : List Char) (rest : List (List Char)) :
    ['-'].intercalate (run :: next :: rest) = run ++ '-' :: ['-'].intercalate (next :: rest) := by
  simp

/-- Where runs are joined, all but the last of them have a hyphen after them. -/
theorem intercalate_hyphen_concat (runs : List (List Char)) (last : List Char) :
    ['-'].intercalate (runs ++ [last]) = runs.flatMap (· ++ ['-']) ++ last := by
  induction runs with
  | nil => simp
  | cons run rest ih =>
    rw [List.cons_append, List.intercalate_cons_of_ne_nil (by simp), ih, List.flatMap_cons,
      List.append_assoc (run ++ ['-'])]

section Joined

variable {runs : List (List Char)}

/-- Joined runs are taken apart again. -/
theorem slugWords_intercalate (hruns : ∀ run ∈ runs, IsRun run) :
    slugWords [] (['-'].intercalate runs) = runs := by
  induction runs with
  | nil => rfl
  | cons run rest ih =>
    obtain ⟨hrun, hrest⟩ := List.forall_mem_cons.1 hruns
    cases rest with
    | nil => rw [List.intercalate_singleton, hrun.slugWords_eq]
    | cons next rest =>
      rw [intercalate_hyphen_cons_cons, hrun.slugWords_append_hyphen, ih hrest]

/-- The letters and digits of joined runs are those of the runs. -/
theorem alphanums_intercalate (hruns : ∀ run ∈ runs, IsRun run) :
    alphanums (['-'].intercalate runs) = runs.flatten := by
  induction runs with
  | nil => rfl
  | cons run rest ih =>
    obtain ⟨hrun, hrest⟩ := List.forall_mem_cons.1 hruns
    cases rest with
    | nil => simp [hrun.alphanums_eq]
    | cons next rest =>
      have hhyphen : ('-').isAlphanum = false := by decide
      have happend : ∀ cs, alphanums (run ++ '-' :: cs) = alphanums run ++ alphanums cs := by
        simp [alphanums, hhyphen]
      rw [intercalate_hyphen_cons_cons, happend, hrun.alphanums_eq, ih hrest, ← List.flatten_cons]

/-- Joined runs start as the first run does. -/
theorem head?_intercalate_ne_hyphen (hruns : ∀ run ∈ runs, IsRun run) :
    (['-'].intercalate runs).head? ≠ some '-' := by
  cases runs with
  | nil => simp
  | cons run rest =>
    have hrun : IsRun run := hruns run List.mem_cons_self
    cases run with
    | nil => exact absurd rfl hrun.nonempty
    | cons c cs =>
      rw [List.intercalate_cons_cons_left, List.head?_cons, ne_eq, Option.some.injEq]
      exact ne_hyphen_of_isStemChar (hrun.small c List.mem_cons_self)

/-- Joined runs end as the last run does. -/
theorem getLast?_intercalate_ne_hyphen (hruns : ∀ run ∈ runs, IsRun run) :
    (['-'].intercalate runs).getLast? ≠ some '-' := by
  rcases runs.eq_nil_or_concat' with rfl | ⟨runs, last, rfl⟩
  · simp
  · rw [intercalate_hyphen_concat]
    exact (hruns last (by simp)).getLast?_append_ne_hyphen _

/-- Two hyphens in a row would have an empty run between them. -/
theorem not_infix_intercalate (hruns : ∀ run ∈ runs, IsRun run) :
    ¬ ['-', '-'] <:+: ['-'].intercalate runs := by
  induction runs with
  | nil => decide
  | cons run rest ih =>
    obtain ⟨hrun, hrest⟩ := List.forall_mem_cons.1 hruns
    cases rest with
    | nil =>
      rw [List.intercalate_singleton]
      exact fun h => hrun.hyphen_not_mem (h.subset List.mem_cons_self)
    | cons next rest =>
      -- The hyphens do not start in the run, nor at the hyphen after it, as another run follows.
      rw [intercalate_hyphen_cons_cons, Text.infix_append_iff_of_not_mem hrun.hyphen_not_mem,
        List.infix_cons_iff, not_or, List.cons_prefix_cons]
      refine ⟨fun h => ?_, ih hrest⟩
      obtain ⟨-, more, hmore⟩ := h
      exact head?_intercalate_ne_hyphen hrest (by rw [← hmore]; rfl)

end Joined

/-! ## Slugs -/

/-- A text that may be the stem of the name of a file. -/
structure IsStem (cs : List Char) : Prop where
  /-- It is made of runs of small letters and digits, joined by hyphens. -/
  runs : ∃ runs : List (List Char), runs ≠ [] ∧ (∀ run ∈ runs, IsRun run) ∧
    cs = ['-'].intercalate runs
  /-- It does not start with a hyphen. -/
  no_leading : cs.head? ≠ some '-'
  /-- It does not end with a hyphen. -/
  no_trailing : cs.getLast? ≠ some '-'
  /-- It has no two hyphens in a row. -/
  no_double : ¬ ['-', '-'] <:+: cs

theorem toList_slug (s : String) : (slug s).toList = ['-'].intercalate (slugWords [] s.toList) :=
  String.toList_ofList

theorem isRun_slugWords_nil (cs : List Char) : ∀ run ∈ slugWords [] cs, IsRun run :=
  isRun_slugWords (List.forall_mem_nil _)

/-- A slug has the letters and digits of the text in their order, made small, and no others. -/
theorem alphanums_slug (s : String) :
    alphanums (slug s).toList = (alphanums s.toList).map Char.toLower := by
  rw [toList_slug, alphanums_intercalate (isRun_slugWords_nil _), flatten_slugWords,
    List.reverse_nil, List.nil_append]

/-- A text has no run exactly if it has neither letters nor digits. -/
theorem slugWords_eq_nil_iff {cs : List Char} :
    slugWords [] cs = [] ↔ cs.any Char.isAlphanum = false := by
  have hflatten : (slugWords [] cs).flatten = (alphanums cs).map Char.toLower :=
    flatten_slugWords [] cs
  have hnone : alphanums cs = [] ↔ cs.any Char.isAlphanum = false := by
    simp [alphanums]
  rw [← hnone, ← List.map_eq_nil_iff (f := Char.toLower), ← hflatten, List.flatten_eq_nil_iff]
  refine ⟨fun hnil => by simp [hnil], fun hempty => ?_⟩
  exact List.eq_nil_iff_forall_not_mem.2 fun run hrun =>
    (isRun_slugWords_nil cs run hrun).nonempty (hempty run hrun)

/-- A slug is empty exactly if the text has neither letters nor digits. -/
theorem slug_eq_empty_iff {s : String} : slug s = "" ↔ s.toList.any Char.isAlphanum = false := by
  rw [← slugWords_eq_nil_iff, slug, String.ofList_eq_empty_iff]
  refine ⟨fun hjoined => ?_, fun hnil => by rw [hnil]; rfl⟩
  have happart := slugWords_intercalate (isRun_slugWords_nil s.toList)
  rw [hjoined] at happart
  exact happart.symm

/-- A text with a letter or a digit has a slug that may be a stem. -/
theorem isStem_slug {s : String} (h : s.toList.any Char.isAlphanum = true) :
    IsStem (slug s).toList := by
  have hruns := isRun_slugWords_nil s.toList
  have hne : slugWords [] s.toList ≠ [] := fun hnil => by
    rw [slugWords_eq_nil_iff.1 hnil] at h
    cases h
  rw [toList_slug]
  exact ⟨⟨_, hne, hruns, rfl⟩, head?_intercalate_ne_hyphen hruns,
    getLast?_intercalate_ne_hyphen hruns, not_infix_intercalate hruns⟩

/-- A slug is its own slug. -/
theorem slug_slug (s : String) : slug (slug s) = slug s := by
  rw [slug, toList_slug, slugWords_intercalate (isRun_slugWords_nil _), slug]

/-! ## Slugs in one pass -/

/-- What has been written after one more character: letters and digits are written small, and
anything else as a hyphen, but not at the start and not after a hyphen. -/
def slugStep (written : List Char) (c : Char) : List Char :=
  if c.isAlphanum then written ++ [c.toLower]
  else if !written.isEmpty && written.getLast? != some '-' then written ++ ['-']
  else written

/-- The slug that is written in one pass over the text. A hyphen at its end is taken away. -/
def slugInOnePass (s : String) : String :=
  String.ofList ((s.toList.foldl slugStep []).rdropWhile (· == '-'))

/-- What has been written when some runs are finished and one is open. -/
def slugSoFar (runs : List (List Char)) (current : List Char) : List Char :=
  runs.flatMap (· ++ ['-']) ++ current.reverse

/-- A letter or a digit goes into the run that is open. -/
theorem slugStep_slugSoFar_of_isAlphanum {c : Char} (hc : c.isAlphanum = true)
    (runs : List (List Char)) (current : List Char) :
    slugStep (slugSoFar runs current) c = slugSoFar runs (c.toLower :: current) := by
  simp [slugStep, slugSoFar, hc]

/-- Anything else changes nothing where no run is open. -/
theorem slugStep_slugSoFar_nil {c : Char} (hc : ¬ c.isAlphanum = true) (runs : List (List Char)) :
    slugStep (slugSoFar runs []) c = slugSoFar runs [] := by
  rcases runs.eq_nil_or_concat' with rfl | ⟨runs, last, rfl⟩
  · simp [slugStep, slugSoFar, hc]
  · simp [slugStep, slugSoFar, hc]

/-- Anything else closes the run that is open. -/
theorem slugStep_slugSoFar {current : List Char} (hcurrent : IsRun current.reverse) {c : Char}
    (hc : ¬ c.isAlphanum = true) (runs : List (List Char)) :
    slugStep (slugSoFar runs current) c = slugSoFar (runs ++ [current.reverse]) [] := by
  have hlast : (slugSoFar runs current).getLast? ≠ some '-' :=
    hcurrent.getLast?_append_ne_hyphen _
  have hne : slugSoFar runs current ≠ [] :=
    List.append_ne_nil_of_right_ne_nil _ hcurrent.nonempty
  have hstep : slugStep (slugSoFar runs current) c = slugSoFar runs current ++ ['-'] := by
    simp [slugStep, hc, hlast, hne]
  rw [hstep]
  simp [slugSoFar]

/-- There is nothing to take away after a run. -/
theorem IsRun.rdropWhile_append {run : List Char} (h : IsRun run) (cs : List Char) :
    (cs ++ run).rdropWhile (· == '-') = cs ++ run := by
  refine List.rdropWhile_eq_self_iff.2 fun hne hhyphen => h.getLast?_append_ne_hyphen cs ?_
  rw [List.getLast?_eq_some_getLast hne, beq_iff_eq.1 hhyphen]

/-- Where no run is open, the hyphen after the last run is taken away. -/
theorem rdropWhile_slugSoFar_nil {runs : List (List Char)} (hruns : ∀ run ∈ runs, IsRun run) :
    (slugSoFar runs []).rdropWhile (· == '-') = ['-'].intercalate runs := by
  rcases runs.eq_nil_or_concat' with rfl | ⟨runs, last, rfl⟩
  · rfl
  · have hlast : IsRun last := hruns last (by simp)
    have hwritten : slugSoFar (runs ++ [last]) [] =
        (runs.flatMap (· ++ ['-']) ++ last) ++ ['-'] := by
      simp [slugSoFar]
    rw [hwritten, List.rdropWhile_concat_pos _ _ _ rfl, hlast.rdropWhile_append,
      intercalate_hyphen_concat]

/-- From any point of the pass on, the slug that comes out has the runs that are finished and those
that the rest of the text adds. -/
theorem rdropWhile_foldl_slugStep {runs : List (List Char)} {current cs : List Char}
    (hruns : ∀ run ∈ runs, IsRun run) (hcurrent : ∀ c ∈ current, isStemChar c = true) :
    (cs.foldl slugStep (slugSoFar runs current)).rdropWhile (· == '-') =
      ['-'].intercalate (runs ++ slugWords current cs) := by
  fun_induction slugWords current cs generalizing runs with
  | case1 current hempty =>
    obtain rfl := List.isEmpty_iff.1 hempty
    rw [List.foldl_nil, List.append_nil, rdropWhile_slugSoFar_nil hruns]
  | case2 current hne =>
    rw [List.foldl_nil, intercalate_hyphen_concat, slugSoFar,
      (isRun_reverse hne hcurrent).rdropWhile_append]
  | case3 current c rest hc ih =>
    rw [List.foldl_cons, slugStep_slugSoFar_of_isAlphanum hc]
    exact ih hruns (List.forall_mem_cons.2 ⟨isStemChar_toLower hc, hcurrent⟩)
  | case4 current c rest hc hempty ih =>
    obtain rfl := List.isEmpty_iff.1 hempty
    rw [List.foldl_cons, slugStep_slugSoFar_nil hc]
    exact ih hruns hcurrent
  | case5 current c rest hc hne ih =>
    have hrun : IsRun current.reverse := isRun_reverse hne hcurrent
    have hgrown : ∀ run ∈ runs ++ [current.reverse], IsRun run :=
      List.forall_mem_append.2 ⟨hruns, List.forall_mem_singleton.2 hrun⟩
    rw [List.foldl_cons, slugStep_slugSoFar hrun hc, ih hgrown (List.forall_mem_nil _),
      List.append_assoc, List.singleton_append]

/-- One pass writes the slug. -/
theorem slugInOnePass_eq (s : String) : slugInOnePass s = slug s :=
  congrArg String.ofList
    (rdropWhile_foldl_slugStep (List.forall_mem_nil _) (List.forall_mem_nil _))

/-! ## Names of files -/

/-- The text that a file is named after: the title if it has a letter or a digit, else the id if
that has one, else a common one. -/
def namesake (title id : String) : String :=
  if title.toList.any Char.isAlphanum then title
  else if id.toList.any Char.isAlphanum then id
  else "survey"

theorem any_isAlphanum_namesake (title id : String) :
    (namesake title id).toList.any Char.isAlphanum = true := by
  unfold namesake
  split
  next htitle => exact htitle
  next =>
    split
    next hid => exact hid
    next => decide

theorem slug_namesake (title id : String) :
    slug (namesake title id) =
      if title.toList.any Char.isAlphanum then slug title
      else if id.toList.any Char.isAlphanum then slug id
      else "survey" := by
  have hcommon : slug "survey" = "survey" := by decide
  rw [namesake, apply_ite slug, apply_ite slug, hcommon]

/-- The stem is the slug of what the file is named after. -/
theorem fileName_eq (title id : String) :
    fileName title id = slug (namesake title id) ++ ".html" := by
  simp only [slug_namesake, fileName, ne_eq, slug_eq_empty_iff, Bool.not_eq_false]

/-- Whatever the title and the id of a survey are, the name of the file is a stem of small letters
and digits in runs joined by single hyphens, with an ending. The stem is the slug of the title if
this has a letter or a digit, else that of the id if this has one, else a common one; it has the
letters and digits of what it is taken from, in their order and made small. A slug is its own slug,
and one pass over the text writes it. -/
theorem fileName_safe (title id : String) :
    (∃ stem, fileName title id = stem ++ ".html" ∧ IsStem stem.toList ∧
      stem = (if title.toList.any Char.isAlphanum then slug title
        else if id.toList.any Char.isAlphanum then slug id
        else "survey") ∧
      alphanums stem.toList = (alphanums (namesake title id).toList).map Char.toLower) ∧
    ∀ s, slug (slug s) = slug s ∧ slugInOnePass s = slug s :=
  ⟨⟨slug (namesake title id), fileName_eq title id,
      isStem_slug (any_isAlphanum_namesake title id), slug_namesake title id,
      alphanums_slug (namesake title id)⟩,
    fun s => ⟨slug_slug s, slugInOnePass_eq s⟩⟩

example : fileName "R&D Engineer <Rust>!" "job" = "r-d-engineer-rust.html" := by decide

end Questionnaire.Page
