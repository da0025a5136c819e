import Questionnaire.Proofs.Interview.Cursor

/-!
# Rules that point forward

In a survey presented so that every rule acts on a question that comes later, an answer to the
current question changes nothing before it: the visible questions up to the cursor stay, and so
does the place of the cursor (`CursorOn.recorded_forward`). A respondent who answers only the
question under the cursor can therefore leave no badly answered question behind: every visible
question before the cursor is answered as it asks (`ValidBefore`), in every state that such a
respondent can reach (`valid_before_cursor`).

The invariant survives an answer because the questions before the cursor keep both their visibility
and their answers, and a move on because the cursor leaves no question that is not answered as it
asks.
-/

namespace Questionnaire.Interview

variable {σ : Type}

/-! ## What an answer leaves -/

/-- An answer leaves the visibility of every id that no rule of its question acts on. -/
theorem get?_visibility_recorded {survey : Survey} {i : Interview σ} (hi : Coherent survey i)
    (hids : survey.DistinctIds) {q : Question} (hq : q ∈ survey.questions) {id : String}
    (hrules : ∀ rule ∈ q.rules, rule.target ≠ id) (answer : Answer) :
    (i.recorded survey q answer).visibility.get? id = i.visibility.get? id := by
  rw [hi.visibility_eq]
  refine Visibility.get?_resolve_of_answers hids fun other hother hrule => ?_
  obtain ⟨rule, hrule, htarget⟩ := hrule
  -- The answer recorded is that of `q`, and `q` has no rule on the id.
  have hne : other.id ≠ q.id := fun heq => by
    obtain rfl := List.inj_on_of_nodup_map hids hother hq heq
    exact hrules rule hrule htarget
  exact IdMap.get?_insert_of_ne _ hne answer

/-- An answer leaves whether other questions are answered as they ask. -/
theorem validate_recorded_of_ne {survey : Survey} {i : Interview σ} {q other : Question}
    (h : other.id ≠ q.id) (answer : Answer) :
    other.validate (i.recorded survey q answer).answers = other.validate i.answers := by
  unfold Question.validate
  rw [recorded, IdMap.get?_insert_of_ne _ h]

/-! ## Forward rules -/

/-- Every rule that acts on one of the questions acts on one that comes after its own. -/
def RulesPointForward (questions : List Question) : Prop :=
  ∀ m n : Fin questions.length, ∀ rule ∈ questions[m].rules, rule.target = questions[n].id → m < n

instance (questions : List Question) : Decidable (RulesPointForward questions) :=
  inferInstanceAs (Decidable (∀ m n : Fin questions.length, ∀ rule ∈ questions[m].rules,
    rule.target = questions[n].id → m < n))

/-- Where rules point forward, no rule of a question acts on one up to it. -/
theorem RulesPointForward.target_ne {before after : List Question} {q other : Question}
    (h : RulesPointForward (before ++ q :: after)) (hother : other ∈ before ∨ other = q) :
    ∀ rule ∈ q.rules, rule.target ≠ other.id := by
  intro rule hrule htarget
  have hm : before.length < (before ++ q :: after).length := by simp
  rcases hother with hother | rfl
  · obtain ⟨n, hn, rfl⟩ := List.mem_iff_getElem.1 hother
    have hlt := h ⟨before.length, hm⟩ ⟨n, Nat.lt_trans hn hm⟩ rule (by simpa using hrule)
      (by simpa [List.getElem_append_left hn] using htarget)
    exact Nat.lt_asymm hn hlt
  · have hlt := h ⟨before.length, hm⟩ ⟨before.length, hm⟩ rule (by simpa using hrule)
      (by simpa using htarget)
    exact Nat.lt_irrefl _ hlt

/-! ## The questions before the cursor -/

/-- The first so many visible questions are answered as they ask. -/
def ValidUpTo (survey : Survey) (i : Interview σ) (count : Nat) : Prop :=
  ∀ q ∈ (i.visible survey).take count, q.validate i.answers = .ok ()

/-- Every visible question before the cursor is answered as it asks. -/
def ValidBefore (survey : Survey) (i : Interview σ) : Prop :=
  ∀ position, i.stage = .answering position → ValidUpTo survey i position

/-- Of fewer questions less is asked. -/
theorem ValidUpTo.mono {survey : Survey} {i : Interview σ} {m n : Nat} (h : ValidUpTo survey i n)
    (hle : m ≤ n) : ValidUpTo survey i m :=
  fun q hq => h q (List.take_subset_take_left _ hle hq)

section Forward

variable {survey : Survey} {i : Interview σ} {position : Nat} {before after : List Question}
  {q : Question}

/-- Where rules point forward, an answer leaves the visibility of the questions presented up to its
own. -/
theorem admits_recorded_forward (hi : Coherent survey i) (hids : survey.DistinctIds)
    (hpresented : i.presented survey = before ++ q :: after)
    (hforward : RulesPointForward (i.presented survey)) (answer : Answer) (other : Question)
    (hother : other ∈ before ∨ other = q) :
    (i.recorded survey q answer).admits other = i.admits other := by
  have hq : q ∈ survey.questions := hi.mem_questions (by simp [hpresented])
  rw [hpresented] at hforward
  unfold admits Visibility.admits
  rw [get?_visibility_recorded hi hids hq (hforward.target_ne hother)]

/-- Where rules point forward, an answer to the current question leaves the cursor where it is. -/
theorem CursorOn.recorded_forward (h : CursorOn survey i position before q after)
    (hi : Coherent survey i) (hids : survey.DistinctIds)
    (hforward : RulesPointForward (i.presented survey)) (hstage : i.stage = .answering position)
    (answer : Answer) :
    CursorOn survey (i.recorded survey q answer) position before q after ∧
      i.keptPosition survey position q answer = position := by
  have hsame := admits_recorded_forward hi hids h.presented_eq hforward answer
  have hcursor := h.recorded (hi.nodup_presented hids) hstage
    ((hsame q (.inr rfl)).trans h.admitted)
  have hkept : i.keptPosition survey position q answer = position := by
    rw [← hcursor.position_eq, ← h.position_eq]
    exact congrArg _ (List.filter_congr fun other hother => hsame other (.inl hother))
  rw [hkept] at hcursor
  exact ⟨hcursor, hkept⟩

/-- With the current question one more is answered as it asks. -/
theorem CursorOn.validUpTo_succ (h : CursorOn survey i position before q after)
    (hbefore : ValidUpTo survey i position) (hq : q.validate i.answers = .ok ()) :
    ValidUpTo survey i (position + 1) := by
  intro other hother
  rcases h.mem_take_succ_iff.1 hother with hother | rfl
  · exact hbefore other hother
  · exact hq

/-- Where rules point forward, an answer to the current question keeps those before the cursor
answered as they ask. -/
theorem ValidUpTo.recorded (hvalid : ValidUpTo survey i position)
    (h : CursorOn survey i position before q after) (hi : Coherent survey i)
    (hids : survey.DistinctIds) (hforward : RulesPointForward (i.presented survey))
    (hstage : i.stage = .answering position) (answer : Answer) :
    ValidUpTo survey (i.recorded survey q answer) position := by
  obtain ⟨hcursor, -⟩ := h.recorded_forward hi hids hforward hstage answer
  intro other hother
  obtain ⟨hmem, hnow⟩ := hcursor.mem_take_iff.1 hother
  -- It was visible before the answer, and the answer is not to it.
  have hold : i.admits other = true := by
    rwa [admits_recorded_forward hi hids h.presented_eq hforward answer other (.inl hmem)] at hnow
  have hne := h.id_ne_of_mem_before (hi.nodup_presented hids) hmem
  rw [validate_recorded_of_ne hne]
  exact hvalid other (h.mem_take_iff.2 ⟨hmem, hold⟩)

/-- Where rules point forward, the questions before the cursor are still answered as they ask after
an answer to the current one, wherever the cursor is then. -/
theorem ValidBefore.afterAnswer (hvalid : ValidBefore survey i)
    (h : CursorOn survey i position before q after) (hi : Coherent survey i)
    (hids : survey.DistinctIds) (hforward : RulesPointForward (i.presented survey))
    (hstage : i.stage = .answering position) (answer : Answer) :
    ValidBefore survey (i.afterAnswer survey position q answer) := by
  obtain ⟨hcursor, hkept⟩ := h.recorded_forward hi hids hforward hstage answer
  have hrecorded := (hvalid position hstage).recorded h hi hids hforward hstage answer
  intro place hplace
  rw [Interview.afterAnswer, Stage.answering.injEq, hkept] at hplace
  subst hplace
  split
  next hmoves =>
    -- The cursor moves on by itself only from a question that is answered as it asks.
    obtain ⟨-, -, hq, -, -⟩ := movesOn_eq_true_iff.1 hmoves
    exact hcursor.validUpTo_succ hrecorded hq
  next => exact hrecorded

end Forward

/-! ## Every state of a run -/

/-- Whether an operation, if it is an answer, is to the current question. -/
def answersCurrent (survey : Survey) (i : Interview σ) : Operation → Bool
  | .respond id _ => (i.current? survey).any fun q => q.id == id
  | _ => true

/-- Whether every answer of a history is to the question that is current then. -/
def followsCursor [Source σ] (survey : Survey) (i : Interview σ) : List Operation → Bool
  | [] => true
  | operation :: rest =>
    i.answersCurrent survey operation && (i.step survey operation).1.followsCursor survey rest

/-- Where rules point forward, an operation that answers no other than the current question keeps
the questions before the cursor answered as they ask. -/
theorem ValidBefore.transition [Source σ] {survey : Survey} {i after : Interview σ}
    {operation : Operation} {reply : Reply} (h : Transition survey i operation after reply)
    (hcurrent : i.answersCurrent survey operation = true) (hi : Coherent survey i)
    (hids : survey.DistinctIds) (hforward : RulesPointForward (i.presented survey))
    (hvalid : ValidBefore survey i) : ValidBefore survey after := by
  cases h with
  | answered answer stage question =>
    obtain ⟨current, hcurrent, hid⟩ := (Option.any_eq_true _ _).1 hcurrent
    rw [← beq_iff_eq.1 hid] at question
    obtain rfl := eq_of_current? hi hids hcurrent question
    obtain ⟨before, after, hcursor⟩ := exists_cursorOn stage hcurrent
    exact hvalid.afterAnswer hcursor hi hids hforward stage answer
  | movedOn stage valid more =>
    obtain ⟨q, hq⟩ := exists_current? stage (Nat.lt_of_succ_lt more)
    obtain ⟨before, after, hcursor⟩ := exists_cursorOn stage hq
    intro place hplace
    obtain rfl := Stage.answering.inj hplace
    exact hcursor.validUpTo_succ (hvalid _ stage) (requireValid_eq_ok_iff.1 valid q hq)
  | movedBack stage =>
    intro place hplace
    obtain rfl := Stage.answering.inj hplace
    exact (hvalid _ stage).mono (Nat.le_succ _)
  | submitted => exact fun place hplace => nomatch hplace
  | refused | atEnd | atStart | languageSet | optionsPresented => exact hvalid

/-- Where rules point forward, a history that answers no other than the current question keeps the
questions before the cursor answered as they ask. -/
theorem ValidBefore.run [Source σ] {survey : Survey} (hids : survey.DistinctIds)
    {history : List Operation} {i : Interview σ} (hi : Coherent survey i)
    (hforward : RulesPointForward (i.presented survey))
    (hfollows : i.followsCursor survey history = true) (hvalid : ValidBefore survey i) :
    ValidBefore survey (i.run survey history) := by
  induction history generalizing i with
  | nil => exact hvalid
  | cons operation rest ih =>
    obtain ⟨hcurrent, hrest⟩ := Bool.and_eq_true_iff.1 hfollows
    have hstep := step_transition survey i operation
    have hpresented : (i.step survey operation).1.presented survey = i.presented survey := by
      rw [presented, presented, hstep.order_eq]
    refine ih (hi.transition hstep) ?_ hrest (hvalid.transition hstep hcurrent hi hids hforward)
    rwa [hpresented]

/-- No question is reported to be answered otherwise than it asks if all visible ones are answered
as they ask. -/
theorem violations_eq_empty {survey : Survey} {i : Interview σ}
    (h : ∀ q ∈ i.visible survey, q.validate i.answers = .ok ()) : i.violations survey = .empty := by
  have hnone : ((i.visible survey).filter fun q => i.visibility.admits q.id).filterMap
      (Question.violation? i.answers) = [] := by
    refine List.filterMap_eq_nil_iff.2 fun q hq => ?_
    rw [Question.violation?, h q (List.mem_filter.1 hq).1]
  rw [violations, Questionnaire.violations, hnone]
  rfl

/-- In an interview on a survey whose rules point forward in the order of presentation, in which
every answer is to the question under the cursor, every visible question before the cursor is
answered as it asks; so if the survey is submitted from the last visible question, no visible
question was answered otherwise. -/
theorem valid_before_cursor [Source σ] {survey : Survey} {draws : σ} {language : Option String}
    {i : Interview σ} (hids : survey.DistinctIds) (hstart : start survey draws language = .ok i)
    (hforward : RulesPointForward (i.presented survey)) (history : List Operation)
    (hfollows : i.followsCursor survey history = true) {position : Nat}
    (hstage : (i.run survey history).stage = .answering position) :
    (∀ q ∈ ((i.run survey history).visible survey).take position,
        q.validate (i.run survey history).answers = .ok ()) ∧
      (∀ submitted, (i.run survey history).submit survey = .ok submitted →
        position + 1 = ((i.run survey history).visible survey).length →
        (i.run survey history).violations survey = .empty) := by
  have hi := Coherent.start hstart
  have hvalid : ValidBefore survey i := by
    obtain ⟨-, rfl⟩ := start_eq_ok_iff.1 hstart
    intro place hplace q hq
    obtain rfl := Stage.answering.inj hplace
    simp at hq
  have hrun := hvalid.run hids hi hforward hfollows position hstage
  refine ⟨hrun, fun submitted hsubmit hlast => violations_eq_empty fun q hq => ?_⟩
  obtain ⟨-, -, hrequired, -⟩ := submit_eq_ok_iff.1 hsubmit
  have hlt : position < ((i.run survey history).visible survey).length := by omega
  obtain ⟨current, hcurrent⟩ := exists_current? hstage hlt
  obtain ⟨before, after, hcursor⟩ := exists_cursorOn hstage hcurrent
  have hall := hcursor.validUpTo_succ hrun (requireValid_eq_ok_iff.1 hrequired current hcurrent)
  refine hall q ?_
  rwa [hlast, List.take_length]

/-- A respondent leaves the name blank, goes back and forth, and gives it. -/
def petWalk : List Operation :=
  [.respond "pet" (.text "yes"), .next, .respond "name" (.text " "), .previous, .next,
   .respond "name" (.text "Rex")]

/-- At the last visible question nothing is left to answer. -/
theorem valid_before_cursor_petSurvey :
    petSurvey.DistinctIds ∧ ∃ i, start petSurvey (Keystream.ofSeed 0) none = .ok i ∧
      RulesPointForward (i.presented petSurvey) ∧ i.followsCursor petSurvey petWalk = true ∧
      (i.run petSurvey petWalk).stage = .answering 1 ∧
      (∀ q ∈ ((i.run petSurvey petWalk).visible petSurvey).take 1,
        q.validate (i.run petSurvey petWalk).answers = .ok ()) ∧
      (i.run petSurvey petWalk).violations petSurvey = .empty := by
  have hids : petSurvey.DistinctIds := by decide
  have hstart : start petSurvey (Keystream.ofSeed 0) none = .ok _ := rfl
  have hforward : RulesPointForward petSurvey.questions := by decide
  obtain ⟨hbefore, hsubmit⟩ := valid_before_cursor hids hstart hforward petWalk rfl rfl
  exact ⟨hids, _, hstart, hforward, rfl, rfl, hbefore, hsubmit _ rfl rfl⟩

end Questionnaire.Interview
