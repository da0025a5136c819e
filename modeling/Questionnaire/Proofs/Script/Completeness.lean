import Questionnaire.Proofs.Interview.Forward
import Questionnaire.Proofs.Script.Turn

/-!
# How complete a submitted script is

A walk leaves a question only when it is answered as it asks, and by what the script has for it if
the script has something, and nothing on the way changes that again. So every question that the walk
comes to is settled when the survey is submitted. But a walk only goes on, while answers change what
is visible. An answer can reveal a question that is presented before the one answered, where the
walk has been already (`RevealedBehind`). And an answer can hide the question it is given to; the
cursor then keeps its place, and the walk goes on from a question that it has not come to
(`SkippedOver`). Every visible question that the walk does not come to is one of these
(`settled_of_complete?`), and where rules point forward there are none.

Two invariants carry the proof. Along the way a settled question stays settled, since the script
has one answer for each question. And the visible questions before the cursor are accounted for,
since an answer that leaves the cursor on its question makes visible before it only what it reveals.
-/

namespace Questionnaire.Script

variable {σ : Type}

open Interview

/-! ## Settled questions -/

/-- A question is answered as it asks, and by what the script has for it. -/
structure Settled (script : Script) (answers : Answers) (q : Question) : Prop where
  /-- The question is answered as it asks. -/
  valid : q.validate answers = .ok ()
  /-- If it takes an answer and the script has one, that is its answer. -/
  recorded : q.isSectionBreak = false → ∀ answer, script.answers.get? q.id = some answer →
    answers.get? q.id = some answer

/-- An answer of the script that is what its question asks for settles that question and leaves the
others settled. -/
theorem Settled.of_recorded {script : Script} {survey : Survey} {i : Interview σ}
    {q other : Question} {answer : Answer} (hid : other.id = q.id → other = q)
    (hlisted : script.answers.get? q.id = some answer)
    (hvalid : q.validate (i.recorded survey q answer).answers = .ok ())
    (h : Settled script i.answers other ∨ other = q) :
    Settled script (i.recorded survey q answer).answers other := by
  by_cases hother : other = q
  · subst hother
    refine ⟨hvalid, fun _ listed hlisted' => ?_⟩
    rw [hlisted] at hlisted'
    rw [Interview.recorded, IdMap.get?_insert_self, hlisted']
  · have hne : other.id ≠ q.id := fun heq => hother (hid heq)
    have hsettled : Settled script i.answers other := h.resolve_right hother
    refine ⟨?_, fun hbreak listed hlisted' => ?_⟩
    · rw [validate_recorded_of_ne hne]
      exact hsettled.valid
    · rw [Interview.recorded, IdMap.get?_insert_of_ne _ hne]
      exact hsettled.recorded hbreak listed hlisted'

/-- A turn settles the current question and leaves the others settled. -/
theorem TurnTaken.settled [Source σ] {script : Script} {survey : Survey} {i after : Interview σ}
    {turn : Turn} (h : TurnTaken script survey i after turn)
    (hturn : ∀ failure, turn ≠ .failed failure) (hi : Coherent survey i)
    (hids : survey.DistinctIds) {q : Question}
    (hq : q ∈ survey.questions)
    (hsettled : Settled script i.answers q ∨ i.current? survey = some q) :
    Settled script after.answers q := by
  -- An answer given to the current question, which is found by its own id.
  have hanswer : ∀ {current found : Question} {answer : Answer}, i.current? survey = some current →
      survey.question? current.id = some found → script.answers.get? current.id = some answer →
      found.validate (i.recorded survey found answer).answers = .ok () →
      Settled script (i.recorded survey found answer).answers q := by
    intro current found answer hcurrent hfound hlisted hvalid
    obtain rfl := eq_of_current? hi hids hcurrent hfound
    have hmem := Survey.mem_of_question?_eq_some hfound
    refine .of_recorded (fun hid => List.inj_on_of_nodup_map hids hq hmem hid) hlisted hvalid
      (hsettled.imp_right fun hcurrent' => ?_)
    exact Option.some.inj (hcurrent'.symm.trans hcurrent)
  cases h with
  | noQuestion current =>
    rw [current] at hsettled
    exact hsettled.resolve_right (by simp)
  | passed current left move =>
    rw [answers_of_moveOn move]
    refine hsettled.elim id fun hcurrent => ?_
    obtain rfl := Option.some.inj (current.symm.trans hcurrent)
    refine ⟨requireValid_eq_ok_iff.1 (requireValid_of_moveOn move hturn) _ current,
      fun hbreak answer hlisted => ?_⟩
    rcases left with hleft | hleft
    · rw [hleft] at hbreak
      cases hbreak
    · rw [hleft] at hlisted
      cases hlisted
  | advanced isCurrent stage question takesAnswer listed valid moves =>
    exact hanswer isCurrent question listed valid
  | answered isCurrent stage question takesAnswer listed valid stays move =>
    rw [answers_of_moveOn move]
    exact hanswer isCurrent question listed valid
  | failed after failure => exact absurd rfl (hturn failure)

/-- On the way of a script, a question that is settled or comes up is so at every later point. -/
theorem Reaches.settled [Source σ] {script : Script} {survey : Survey} {i j : Interview σ}
    (h : Reaches script survey i j) (hi : Coherent survey i) (hids : survey.DistinctIds)
    {q : Question} (hq : q ∈ survey.questions)
    (hsettled : Settled script i.answers q ∨ i.current? survey = some q) :
    Settled script j.answers q ∨ j.current? survey = some q := by
  induction h with
  | refl => exact hsettled
  | @tail j after reached goesOn ih =>
    have htaken := turn_taken script survey j
    rw [goesOn] at htaken
    exact .inl (htaken.settled (by simp) (Reaches.coherent reached hi) hids hq ih)

/-! ## What answers do to other questions -/

/-- On its way from an interview, a script comes to the question. -/
def ComesTo (script : Script) (survey : Survey) (i : Interview σ) (q : Question) : Prop :=
  ∃ j, Reaches script survey i j ∧ j.current? survey = some q

/-- On its way from an interview, a script comes to a question and gives it an answer. -/
structure Gives (script : Script) (survey : Survey) (i j : Interview σ) (q : Question)
    (answer : Answer) (after : Interview σ) : Prop where
  /-- The script comes here. -/
  reached : Reaches script survey i j
  /-- The question is the current one. -/
  current : j.current? survey = some q
  /-- It takes an answer. -/
  takesAnswer : q.isSectionBreak = false
  /-- The script has one. -/
  listed : script.answers.get? q.id = some answer
  /-- The answer is recorded. -/
  responded : ∃ outcome, j.respond survey q.id answer = .ok (after, outcome)

/-- One question comes before another. -/
def Precedes (questions : List Question) (p q : Question) : Prop :=
  ∃ before after, questions = before ++ q :: after ∧ p ∈ before

/-- A question comes before those after it. -/
theorem precedes_of_mem_after {before rest : List Question} {p q : Question} (hq : q ∈ rest) :
    Precedes (before ++ p :: rest) p q := by
  obtain ⟨between, beyond, rfl⟩ := List.append_of_mem hq
  exact ⟨before ++ p :: between, beyond, by simp, by simp⟩

/-- An answer on the way revealed the question, which is presented before the one answered. -/
def RevealedBehind (script : Script) (survey : Survey) (i : Interview σ) (q : Question) : Prop :=
  ∃ j answered answer after, Gives script survey i j answered answer after ∧
    Precedes (i.presented survey) q answered ∧ j.admits q = false ∧ after.admits q = true

/-- An answer on the way hid the question answered, and left the cursor on this one, which is
presented after it, or beyond. -/
def SkippedOver (script : Script) (survey : Survey) (i : Interview σ) (q : Question) : Prop :=
  ∃ j answered answer after position, Gives script survey i j answered answer after ∧
    Precedes (i.presented survey) answered q ∧ after.admits answered = false ∧
    after.stage = .answering position ∧ q ∈ (after.visible survey).take (position + 1)

/-- A script comes to a question on its way, or an answer on the way is the reason why it does
not. -/
def Accounted (script : Script) (survey : Survey) (i : Interview σ) (q : Question) : Prop :=
  ComesTo script survey i q ∨ RevealedBehind script survey i q ∨ SkippedOver script survey i q

/-- The first so many visible questions are accounted for. -/
def AccountedUpTo (script : Script) (survey : Survey) (i j : Interview σ) (count : Nat) : Prop :=
  ∀ q ∈ (j.visible survey).take count, Accounted script survey i q

/-- What a turn leaves: if there is more to answer, the visible questions before the cursor are
accounted for, and if nothing is left to answer, all of them. -/
def Leaves (script : Script) (survey : Survey) (i after : Interview σ) : Turn → Prop
  | .goesOn => ∃ position, after.stage = .answering position ∧
      AccountedUpTo script survey i after position
  | .over => ∀ q ∈ after.visible survey, Accounted script survey i q
  | .failed _ => True

section Walk

variable {script : Script} {survey : Survey} {i j after : Interview σ} {position : Nat}
  {q : Question} {answer : Answer}

/-- A script gives the answer that it has for the current question. -/
theorem Gives.of_respond (reached : Reaches script survey i j)
    (hstage : j.stage = .answering position) (current : j.current? survey = some q)
    (hquestion : survey.question? q.id = some q) (takesAnswer : q.isSectionBreak = false)
    (listed : script.answers.get? q.id = some answer) :
    Gives script survey i j q answer (j.afterAnswer survey position q answer) :=
  ⟨reached, current, takesAnswer, listed, j.outcome survey position q answer,
    respond_eq_ok_iff.2 ⟨position, q, hstage, hquestion, rfl, rfl⟩⟩

/-- A question before the cursor that is visible after an answer was visible and is accounted for,
or the answer has revealed it. -/
theorem AccountedUpTo.accounted_before [Source σ] (hup : AccountedUpTo script survey i j position)
    (hgives : Gives script survey i j q answer (j.afterAnswer survey position q answer))
    {before rest : List Question} (hcursor : CursorOn survey j position before q rest)
    {p : Question} (hp : p ∈ before) (hnow : (j.recorded survey q answer).admits p = true) :
    Accounted script survey i p := by
  by_cases hold : j.admits p = true
  · exact hup p (hcursor.mem_take_iff.2 ⟨hp, hold⟩)
  · have hpresented := hcursor.presented_eq
    rw [hgives.reached.presented_eq] at hpresented
    exact .inr (.inl ⟨j, q, answer, _, hgives, ⟨before, rest, hpresented, hp⟩,
      Bool.eq_false_iff.2 hold, hnow⟩)

/-- A question after the cursor is skipped by an answer that hides the current one and leaves the
cursor on it or beyond. -/
theorem Gives.skippedOver [Source σ]
    (h : Gives script survey i j q answer (j.afterAnswer survey position q answer))
    {before rest : List Question} (hcursor : CursorOn survey j position before q rest)
    (hhidden : (j.recorded survey q answer).admits q = false) {p : Question} (hp : p ∈ rest)
    (hplace : p ∈ ((j.recorded survey q answer).visible survey).take
      (j.keptPosition survey position q answer + 1)) : SkippedOver script survey i p := by
  obtain ⟨place, hstage, hle⟩ := exists_stage_afterAnswer survey j position q answer
  refine ⟨j, q, answer, _, place, h, ?_, hhidden, hstage,
    List.take_subset_take_left _ (Nat.succ_le_succ hle) hplace⟩
  rw [← h.reached.presented_eq, hcursor.presented_eq]
  exact precedes_of_mem_after hp

/-- After an answer to the current question, the visible questions up to the cursor are accounted
for if those before it were. -/
theorem AccountedUpTo.afterAnswer [Source σ] (hup : AccountedUpTo script survey i j position)
    (hi : Coherent survey i) (hids : survey.DistinctIds) (hstage : j.stage = .answering position)
    (hgives : Gives script survey i j q answer (j.afterAnswer survey position q answer)) :
    AccountedUpTo script survey i (j.afterAnswer survey position q answer)
      (j.keptPosition survey position q answer + 1) := by
  obtain ⟨before, rest, hcursor⟩ := exists_cursorOn hstage hgives.current
  have hnodup := (hgives.reached.coherent hi).nodup_presented hids
  have hself : Accounted script survey i q := .inl ⟨j, hgives.reached, hgives.current⟩
  intro p hp
  by_cases hvisible : (j.recorded survey q answer).admits q = true
  · -- The cursor is still on the question answered.
    have hkept := hcursor.recorded hnodup hstage hvisible
    rcases hkept.mem_take_succ_iff.1 hp with hp | rfl
    · obtain ⟨hmem, hnow⟩ := hkept.mem_take_iff.1 hp
      exact hup.accounted_before hgives hcursor hmem hnow
    · exact hself
  · -- The cursor has kept its place, and questions after the one answered may now be behind it.
    obtain ⟨hmem, hnow⟩ := List.mem_filter.1 (List.mem_of_mem_take hp)
    have hsplit : p ∈ before ++ q :: rest := hcursor.presented_eq ▸ hmem
    rcases List.mem_append.1 hsplit with hbefore | hsplit
    · exact hup.accounted_before hgives hcursor hbefore hnow
    · rcases List.mem_cons.1 hsplit with rfl | hrest
      · exact hself
      · exact .inr (.inr (hgives.skippedOver hcursor (Bool.eq_false_iff.2 hvisible) hrest hp))

/-- Moving on from a question up to which the visible ones are accounted for leaves what a turn
leaves. -/
theorem AccountedUpTo.moveOn {turn : Turn} (hup : AccountedUpTo script survey i j (position + 1))
    (hstage : j.stage = .answering position) (hmove : moveOn survey j = (after, turn)) :
    Leaves script survey i after turn := by
  match turn, hmove with
  | .goesOn, hmove =>
    obtain ⟨place, hplace, -, -, rfl⟩ := moveOn_eq_goesOn_iff.1 hmove
    obtain rfl := Stage.answering.inj (hstage.symm.trans hplace)
    exact ⟨position + 1, rfl, hup⟩
  | .over, hmove =>
    obtain ⟨place, hplace, -, hlast, rfl⟩ := moveOn_eq_over_iff.1 hmove
    obtain rfl := Stage.answering.inj (hstage.symm.trans hplace)
    intro p hp
    exact hup p (by rwa [List.take_of_length_le hlast])
  | .failed _, _ => trivial

/-- A turn from where the visible questions before the cursor are accounted for leaves them so. -/
theorem TurnTaken.leaves [Source σ] {turn : Turn} (h : TurnTaken script survey j after turn)
    (hi : Coherent survey i) (hids : survey.DistinctIds) (hreached : Reaches script survey i j)
    (hstage : j.stage = .answering position) (hup : AccountedUpTo script survey i j position) :
    Leaves script survey i after turn := by
  have hj := hreached.coherent hi
  cases h with
  | noQuestion current =>
    -- No question is under the cursor, so all visible questions are before it.
    have hlength : (j.visible survey).length ≤ position := by
      by_contra hlt
      obtain ⟨q, hq⟩ := exists_current? hstage (Nat.lt_of_not_le hlt)
      rw [hq] at current
      cases current
    intro p hp
    exact hup p (by rwa [List.take_of_length_le hlength])
  | passed current left move =>
    obtain ⟨before, rest, hcursor⟩ := exists_cursorOn hstage current
    refine AccountedUpTo.moveOn (fun p hp => ?_) hstage move
    rcases hcursor.mem_take_succ_iff.1 hp with hp | rfl
    · exact hup p hp
    · exact .inl ⟨j, hreached, current⟩
  | advanced isCurrent stage question takesAnswer listed valid moves =>
    obtain rfl := Stage.answering.inj (hstage.symm.trans stage)
    obtain rfl := eq_of_current? hj hids isCurrent question
    have hgives := Gives.of_respond hreached stage isCurrent question takesAnswer listed
    refine ⟨_, by rw [Interview.afterAnswer, moves, if_pos rfl], ?_⟩
    exact hup.afterAnswer hi hids stage hgives
  | answered isCurrent stage question takesAnswer listed valid stays move =>
    obtain rfl := Stage.answering.inj (hstage.symm.trans stage)
    obtain rfl := eq_of_current? hj hids isCurrent question
    have hgives := Gives.of_respond hreached stage isCurrent question takesAnswer listed
    refine (hup.afterAnswer hi hids stage hgives).moveOn ?_ move
    rw [Interview.afterAnswer, stays]
    rfl
  | failed => trivial

/-- Wherever a walk from the start comes, the visible questions before the cursor are accounted
for. -/
theorem Reaches.accountedUpTo [Source σ] (h : Reaches script survey i j) (hi : Coherent survey i)
    (hids : survey.DistinctIds) (hstage : i.stage = .answering 0) :
    ∃ position, j.stage = .answering position ∧ AccountedUpTo script survey i j position := by
  induction h with
  | refl => exact ⟨0, hstage, fun q hq => by simp at hq⟩
  | @tail j after reached goesOn ih =>
    obtain ⟨position, hposition, hup⟩ := ih
    have hleaves := (turn_taken script survey j).leaves hi hids reached hposition hup
    rwa [goesOn] at hleaves

/-! ## Rules that point forward -/

/-- Where rules point forward, an answer on the way leaves the visibility of the questions presented
up to its own. -/
theorem Gives.admits_eq [Source σ] (h : Gives script survey i j q answer after)
    (hi : Coherent survey i) (hids : survey.DistinctIds)
    (hforward : RulesPointForward (i.presented survey)) {p : Question}
    (hp : Precedes (i.presented survey) p q ∨ p = q) : after.admits p = j.admits p := by
  have hj := h.reached.coherent hi
  obtain ⟨outcome, hresponded⟩ := h.responded
  obtain ⟨position, found, hstage, hfound, rfl, -⟩ := respond_eq_ok_iff.1 hresponded
  obtain rfl := eq_of_current? hj hids h.current hfound
  have hsame : ∀ {before rest}, i.presented survey = before ++ q :: rest → p ∈ before ∨ p = q →
      (j.recorded survey q answer).admits p = j.admits p := by
    intro before rest hsplit hmem
    rw [← h.reached.presented_eq] at hforward hsplit
    exact admits_recorded_forward hj hids hsplit hforward answer p hmem
  rcases hp with ⟨before, rest, hsplit, hmem⟩ | rfl
  · exact hsame hsplit (.inl hmem)
  · obtain ⟨before, rest, hcursor⟩ := exists_cursorOn hstage h.current
    exact hsame (h.reached.presented_eq.symm.trans hcursor.presented_eq) (.inr rfl)

/-- Where rules point forward, no question is revealed behind the cursor. -/
theorem not_revealedBehind [Source σ] (hi : Coherent survey i) (hids : survey.DistinctIds)
    (hforward : RulesPointForward (i.presented survey)) : ¬ RevealedBehind script survey i q := by
  rintro ⟨j, answered, answer, after, hgives, hprecedes, hhidden, hrevealed⟩
  rw [hgives.admits_eq hi hids hforward (.inl hprecedes), hhidden] at hrevealed
  cases hrevealed

/-- Where rules point forward, no question is skipped. -/
theorem not_skippedOver [Source σ] (hi : Coherent survey i) (hids : survey.DistinctIds)
    (hforward : RulesPointForward (i.presented survey)) : ¬ SkippedOver script survey i q := by
  rintro ⟨j, answered, answer, after, position, hgives, -, hhidden, -, -⟩
  have hvisible : j.admits answered = true :=
    (List.mem_filter.1 (mem_visible_of_current? hgives.current)).2
  rw [hgives.admits_eq hi hids hforward (.inr rfl), hvisible] at hhidden
  cases hhidden

end Walk

/-! ## Submitted surveys -/

/-- If a script takes an interview from its start to a report, every question that it comes to on
the way is settled then, and it comes to every visible question, unless an answer on the way
revealed it behind the cursor, or hid its own question and left the cursor on it or beyond; where
rules point forward, every visible question is settled. -/
theorem settled_of_complete? [Source σ] {script : Script} {survey : Survey} {draws : σ}
    {language : Option String} {i after : Interview σ} {report : Report} (hids : survey.DistinctIds)
    (hstart : start survey draws language = .ok i)
    (hcomplete : script.complete? survey i = some (after, .ok report)) :
    (∀ q, ComesTo script survey i q → Settled script after.answers q) ∧
      (∀ q ∈ after.visible survey, ComesTo script survey i q ∨
        RevealedBehind script survey i q ∨ SkippedOver script survey i q) ∧
      (RulesPointForward (i.presented survey) →
        ∀ q ∈ after.visible survey, Settled script after.answers q) := by
  have hi := Coherent.start hstart
  have hstage : i.stage = .answering 0 := by
    obtain ⟨-, rfl⟩ := start_eq_ok_iff.1 hstart
    rfl
  obtain ⟨last, hwalk, hsubmit⟩ := complete?_eq_some_ok_iff.1 hcomplete
  obtain ⟨j, hreached, hturn⟩ := exists_reaches_of_walk? .refl hwalk
  obtain ⟨position, hposition, hup⟩ := hreached.accountedUpTo hi hids hstage
  have htaken := turn_taken script survey j
  rw [hturn] at htaken
  -- Submitting leaves what is visible and the answers.
  obtain ⟨-, -, -, rfl, -⟩ := submit_eq_ok_iff.1 hsubmit
  have hsettled : ∀ q, ComesTo script survey i q → Settled script last.answers q := by
    rintro q ⟨k, hk, hcurrent⟩
    have hq : q ∈ survey.questions := (hk.coherent hi).mem_questions
      (mem_presented_of_mem_visible (mem_visible_of_current? hcurrent))
    have hkj : Reaches script survey k j := by
      rcases hk.total hreached with hkj | hjk
      · exact hkj
      · -- Nothing comes after the last turn.
        rcases hjk.cases_head with rfl | ⟨next, hnext, -⟩
        · exact .refl
        · rw [hturn] at hnext
          cases hnext
    exact htaken.settled (by simp) (hreached.coherent hi) hids hq
      (hkj.settled (hk.coherent hi) hids hq (.inr hcurrent))
  have hleaves := htaken.leaves hi hids hreached hposition hup
  refine ⟨hsettled, hleaves, fun hforward q hq => hsettled q ?_⟩
  rcases hleaves q hq with hcomes | hrevealed | hskipped
  · exact hcomes
  · exact absurd hrevealed (not_revealedBehind hi hids hforward)
  · exact absurd hskipped (not_skippedOver hi hids hforward)

/-- There is a pet, and its name is Rex. -/
def petScript : Script :=
  (empty.withAnswer "pet" (.text "yes")).withAnswer "name" (.text "Rex")

/-- In order, the pet and its name are both answered. -/
theorem settled_of_complete?_petScript :
    petSurvey.DistinctIds ∧ ∃ i after report, start petSurvey (Keystream.ofSeed 0) none = .ok i ∧
      petScript.complete? petSurvey i = some (after, .ok report) ∧
      RulesPointForward (i.presented petSurvey) ∧ (after.visible petSurvey).length = 2 ∧
      ∀ q ∈ after.visible petSurvey, Settled petScript after.answers q := by
  have hids : petSurvey.DistinctIds := by decide
  have hstart : start petSurvey (Keystream.ofSeed 0) none = .ok _ := rfl
  have hforward : RulesPointForward petSurvey.questions := by decide
  obtain ⟨-, -, hsettled⟩ := settled_of_complete? hids hstart
    (rfl : petScript.complete? petSurvey _ = some (_, .ok _))
  exact ⟨hids, _, _, _, hstart, rfl, hforward, rfl, hsettled hforward⟩

/-- The name of a pet is asked for before whether there is one. -/
def nameFirstSurvey : Survey :=
  { petSurvey with questions := petSurvey.questions.reverse }

/-- A question that is done once it is answered, and two more. -/
def welcomeSurvey : Survey where
  id := "visit"
  questions :=
    [{ id := "welcome", body := .openText {},
       rules := [⟨"welcome", .hide, .equals, .text "seen"⟩] },
     { id := "name", body := .openText {} },
     { id := "age", body := .openText {} }]

/-- The welcome has been seen, and Rex is seven. -/
def welcomeScript : Script :=
  ((empty.withAnswer "welcome" (.text "seen")).withAnswer "name" (.text "Rex")).withAnswer
    "age" (.text "7")

/-- The name that is revealed behind the cursor stays unanswered although it is required, and the
name that comes after a welcome that hides itself is not taken from the script. -/
theorem not_all_settled :
    (nameFirstSurvey.DistinctIds ∧ ∃ i after report,
      start nameFirstSurvey (Keystream.ofSeed 0) none = .ok i ∧
      petScript.complete? nameFirstSurvey i = some (after, .ok report) ∧
      ∃ q ∈ after.visible nameFirstSurvey, q.required = true ∧
        q.validate after.answers = .error .required) ∧
    (welcomeSurvey.DistinctIds ∧ ∃ i after report,
      start welcomeSurvey (Keystream.ofSeed 0) none = .ok i ∧
      welcomeScript.complete? welcomeSurvey i = some (after, .ok report) ∧
      ∃ q ∈ after.visible welcomeSurvey, q.isSectionBreak = false ∧
        welcomeScript.answers.get? q.id = some (.text "Rex") ∧
        after.answers.get? q.id = none) := by
  refine ⟨⟨by decide, _, _, _, rfl, rfl, ?_⟩, ⟨by decide, _, _, _, rfl, rfl, ?_⟩⟩
  · exact ⟨_, List.mem_cons_self, rfl, rfl⟩
  · exact ⟨_, List.mem_cons_self, rfl, rfl, rfl⟩

end Questionnaire.Script
