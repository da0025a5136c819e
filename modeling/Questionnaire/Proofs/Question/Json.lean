import Questionnaire.Proofs.Calendar.DateText
import Questionnaire.Proofs.Wording
import Questionnaire.Question.Json

/-!
# Questions read back

A question is read back as it was written (`Question.ofJson_toJson`), whatever its body and its
rules. Its fields stand side by side with those of its body, so it comes down to names: no two of
them are the same, and those of the body are none of the common ones (`Body.map_fst_toFields`). What
a body leaves out when it has no value, or no items, is what is taken for absent.

A written question is sound when its numbers are as they should be (`Question.sound_toJson`).
-/

namespace Questionnaire

open Json (Fault Fields Sound SoundFields)

/-! ## Choices -/

namespace Choice

/-- A choice is read back. -/
theorem ofJson_toJson (choice : Choice) : ofJson choice.toJson = .ok choice := by
  have hrecord : choice.toJson.asRecord ["id", "text"] .misshapen =
      .ok [("id", .text choice.id), ("text", choice.text.toJson)] :=
    Json.asRecord_object (by simp) _ _
  simp [ofJson, hrecord, Wording.ofJson_toJson]

/-- Choices are read back in their order. -/
theorem asList_ofList (choices : List Choice) :
    Json.asList ofJson (Json.ofList toJson choices) = .ok choices :=
  Json.asList_ofList fun choice _ => choice.ofJson_toJson

theorem sound_ofList (choices : List Choice) (P : Number → Prop) (room : ℕ) :
    Sound P (room + 3) (Json.ofList toJson choices) := by
  refine Json.sound_ofList fun choice _ => ?_
  simp [toJson, Wording.sound_toJson]

end Choice

/-! ## Optional members -/

/-- A bound on dates is read back. -/
theorem Date.ofJson_toJson (d : Date) : ofJson d.toJson = .ok d := by
  simp [ofJson, toJson, ofBound?_toText]

namespace Json

@[simp] theorem asOptional_ofCount (n : UInt64) : asOptional asCount (ofCount n) = .ok (some n) :=
  asOptional_eq_ok (fun h => by cases h) (asCount_ofCount n)

@[simp] theorem asOptional_real (x : Number) : asOptional asNumber (.real x) = .ok (some x) :=
  rfl

@[simp] theorem asOptional_date (d : Date) : asOptional Date.ofJson d.toJson = .ok (some d) :=
  asOptional_eq_ok (fun h => by cases h) d.ofJson_toJson

end Json

/-! ## Bodies, type by type

Each is read from its fields where these follow the type. Of the fields that may be left out, each
is written or not, and the cases are gone through: in every one the names differ, and what is not
there is absent. -/

namespace Body

section Types

variable {type : Json}

theorem readPickOne_pickOneFields (pick : PickOne) :
    readPickOne (("type", type) :: pickOneFields pick) = .ok pick := by
  simp [readPickOne, pickOneFields, readOptions, readProperties, Choice.asList_ofList,
    Json.asRecord_object]

theorem readPickMany_toFields (pick : PickMany) :
    readPickMany (("type", type) :: (checkboxGroup pick).toFields) = .ok pick := by
  obtain ⟨options, randomize, allowOther, minSelections, maxSelections⟩ := pick
  cases minSelections <;> cases maxSelections <;>
    simp [readPickMany, toFields, readOptions, readProperties, Choice.asList_ofList,
      Json.asRecord_object, Fields.optional, Json.optionalMember]

theorem readScale_toFields (scale : RatingScale) :
    readScale (("type", type) :: (likertScale scale).toFields) = .ok scale := by
  simp [readScale, toFields, readProperties, Json.asRecord_object, Json.asByte_integer,
    Wording.ofJson_toJson]

theorem readTextEntry_toFields (entry : TextEntry) :
    readTextEntry (("type", type) :: (openText entry).toFields) = .ok entry := by
  obtain ⟨multiline, maxLength, placeholder⟩ := entry
  cases maxLength <;>
    simp [readTextEntry, toFields, readProperties, Json.asRecord_object, Wording.ofJson_toJson,
      Fields.optional, Json.optionalMember]

theorem readGrid_toFields (grid : Grid) :
    readGrid (("type", type) :: (matrix grid).toFields) = .ok grid := by
  simp [readGrid, toFields, Choice.asList_ofList]

theorem readNumberEntry_toFields (entry : NumberEntry) :
    readNumberEntry (("type", type) :: (numeric entry).toFields) = .ok entry := by
  obtain ⟨min, max, step⟩ := entry
  cases min <;> cases max <;> cases step <;>
    simp [readNumberEntry, toFields, readProperties, Json.asRecord_object, Fields.optional,
      Json.optionalMember]

theorem readDateEntry_toFields (entry : DateEntry) :
    readDateEntry (("type", type) :: (date entry).toFields) = .ok entry := by
  obtain ⟨min, max⟩ := entry
  cases min <;> cases max <;>
    simp [readDateEntry, toFields, readProperties, Json.asRecord_object, Fields.optional,
      Json.optionalMember]

theorem readRanking_toFields (order : Ranking) :
    readRanking (("type", type) :: (ranking order).toFields) = .ok order := by
  simp [readRanking, toFields, readOptions, readProperties, Choice.asList_ofList,
    Json.asRecord_object]

/-- The accepted types are left out when there are none, and are none when left out. -/
theorem readUpload_toFields (upload : Upload) :
    readUpload (("type", type) :: (fileUpload upload).toFields) = .ok upload := by
  obtain ⟨allowedTypes, maxFiles, maxFileSize⟩ := upload
  have htypes : Json.asList Json.asText (Json.ofList .text allowedTypes) = .ok allowedTypes :=
    Json.asList_ofList fun _ _ => rfl
  cases allowedTypes <;> cases maxFiles <;> cases maxFileSize <;>
    simp [readUpload, toFields, readProperties, Json.asRecord_object, Fields.optional,
      Json.optionalMember, htypes]

end Types

/-- The fields of a body are those of its kind, all of them and in declared order. -/
theorem map_fst_toFields (body : Body) : body.toFields.map Prod.fst = fieldNames body.kind := by
  cases body <;> rfl

/-- No name is written twice, that of the type included. -/
theorem nodup_toFields (body : Body) (type : Json) :
    ((("type", type) :: body.toFields).map Prod.fst).Nodup := by
  have hnames : ∀ kind, ("type" :: fieldNames kind).Nodup := by
    intro kind
    cases kind <;> decide
  rw [List.map_cons, map_fst_toFields]
  exact hnames body.kind

/-- A body is read back from its fields where these follow the type. -/
theorem ofFields_toFields (body : Body) (type : Json) :
    ofFields body.kind (("type", type) :: body.toFields) = .ok body := by
  unfold ofFields
  -- That no name is written twice is checked of the body's own names; the rest is type by type.
  rw [Fields.repeats_eq_false (nodup_toFields body type), if_neg (by decide)]
  cases body with
  | multipleChoice pick => exact congrArg (multipleChoice <$> ·) (readPickOne_pickOneFields pick)
  | checkboxGroup pick => exact congrArg (checkboxGroup <$> ·) (readPickMany_toFields pick)
  | likertScale scale => exact congrArg (likertScale <$> ·) (readScale_toFields scale)
  | openText entry => exact congrArg (openText <$> ·) (readTextEntry_toFields entry)
  | dropdown pick => exact congrArg (dropdown <$> ·) (readPickOne_pickOneFields pick)
  | matrix grid => exact congrArg (matrix <$> ·) (readGrid_toFields grid)
  | numeric entry => exact congrArg (numeric <$> ·) (readNumberEntry_toFields entry)
  | date entry => exact congrArg (date <$> ·) (readDateEntry_toFields entry)
  | ranking order => exact congrArg (ranking <$> ·) (readRanking_toFields order)
  | fileUpload upload => exact congrArg (fileUpload <$> ·) (readUpload_toFields upload)
  | sectionBreak => rfl

/-- The numbers of a body: bounds and step of a number entry. -/
def numbers : Body → List Number
  | .numeric entry => entry.min.toList ++ entry.max.toList ++ entry.step.toList
  | _ => []

/-- The fields of a body are sound when its numbers are. -/
theorem sound_toFields {body : Body} {P : Number → Prop} (h : ∀ x ∈ body.numbers, P x) (room : ℕ) :
    SoundFields P (room + 3) body.toFields := by
  cases body with
  | likertScale scale =>
    have hpoints := scale.points.toNat_lt
    have hscale : Sound P (room + 2) (.integer scale.points.toNat) :=
      .integer _ ⟨by omega, by omega⟩
    simp [toFields, hscale, Wording.sound_toJson]
  | numeric entry =>
    simp only [numbers, List.mem_append, Option.mem_toList] at h
    have hmin : ∀ x, entry.min = some x → Sound P (room + 2) (.real x) :=
      fun x hx => .real _ (h x (.inl (.inl hx)))
    have hmax : ∀ x, entry.max = some x → Sound P (room + 2) (.real x) :=
      fun x hx => .real _ (h x (.inl (.inr hx)))
    have hstep : ∀ x, entry.step = some x → Sound P (room + 2) (.real x) :=
      fun x hx => .real _ (h x (.inr hx))
    simpa [toFields] using ⟨hmin, hmax, hstep⟩
  | date entry =>
    have hdate : ∀ d : Date, Sound P (room + 2) d.toJson := fun d => .text _ d.toText
    simp [toFields, hdate]
  | fileUpload upload =>
    have htypes : Sound P (room + 2) (Json.ofList .text upload.allowedTypes) :=
      Json.sound_ofList fun s _ => .text _ s
    by_cases hnone : upload.allowedTypes = []
    · simp [toFields, hnone]
    · simp [toFields, hnone, htypes]
  | _ => simp [toFields, pickOneFields, Choice.sound_ofList, Wording.sound_toJson]

end Body

/-! ## Rules -/

namespace Operand

/-- The number of an operand, if it is one. -/
def numbers : Operand → List Number
  | .number x => [x]
  | _ => []

/-- An operand is read back as the kind of value it is. -/
theorem ofJson_toJson (operand : Operand) : ofJson operand.toJson = .ok operand := by
  cases operand <;> rfl

theorem sound_toJson {operand : Operand} {P : Number → Prop} (h : ∀ x ∈ operand.numbers, P x)
    (room : ℕ) : Sound P room operand.toJson := by
  cases operand with
  | truth value => exact .bool room value
  | number x => exact .real room (h x (List.mem_singleton.2 rfl))
  | text s => exact .text room s

end Operand

namespace Rule

theorem asOneOf_effects (effect : Effect) :
    Json.asOneOf effects (.text effect.spelling) = .ok effect := by
  cases effect <;> rfl

theorem asOneOf_conditions (condition : Condition) :
    Json.asOneOf conditions (.text condition.spelling) = .ok condition := by
  cases condition <;> rfl

/-- A rule is read back. -/
theorem ofJson_toJson (rule : Rule) : ofJson rule.toJson = .ok rule := by
  have hrecord : rule.toJson.asRecord ["targetQuestionId", "action", "condition", "value"]
      .malformed = .ok [("targetQuestionId", .text rule.target),
        ("action", .text rule.effect.spelling), ("condition", .text rule.condition.spelling),
        ("value", rule.operand.toJson)] :=
    Json.asRecord_object (by simp) _ _
  simp [ofJson, hrecord, asOneOf_effects, asOneOf_conditions, Operand.ofJson_toJson]

theorem sound_toJson {rule : Rule} {P : Number → Prop} (h : ∀ x ∈ rule.operand.numbers, P x)
    (room : ℕ) : Sound P (room + 1) rule.toJson := by
  simp [toJson, Operand.sound_toJson h]

end Rule

/-! ## Questions -/

namespace Kind

/-- A kind is read back from its tag. -/
theorem ofJson_tag (kind : Kind) : ofJson (.text kind.tag) = .ok kind := by
  cases kind <;> rfl

end Kind

namespace Question

/-- The numbers of a question: those of its body and of its rules. -/
def numbers (q : Question) : List Number :=
  q.body.numbers ++ q.rules.flatMap fun rule => rule.operand.numbers

/-- The fields of a written question. -/
def toFields (q : Question) : Fields :=
  [("id", .text q.id), ("text", q.text.toJson), ("description", q.description.toJson),
    ("required", .bool q.required), ("type", .text q.kind.tag)] ++ q.body.toFields ++
    (if q.rules.isEmpty then [] else [("logic", Json.ofList Rule.toJson q.rules)])

theorem toJson_eq (q : Question) : q.toJson = .object q.toFields :=
  rfl

/-- No name is written twice. -/
theorem nodup_toFields (q : Question) : (q.toFields.map Prod.fst).Nodup := by
  have hnames : q.toFields.map Prod.fst = ["id", "text", "description", "required", "type"] ++
      Body.fieldNames q.body.kind ++ (if q.rules.isEmpty then [] else ["logic"]) := by
    simp only [toFields, List.map_append, Body.map_fst_toFields]
    split <;> rfl
  rw [hnames]
  -- The names depend on the kind alone and on whether there are rules.
  generalize q.body.kind = kind
  cases q.rules.isEmpty <;> cases kind <;> decide

/-- The fields that are not common to all questions are the type and those of the body. -/
theorem filter_toFields (q : Question) :
    q.toFields.filter (fun field => !commonNames.contains field.1) =
      ("type", .text q.kind.tag) :: q.body.toFields := by
  have hbody : q.body.toFields.filter (fun field => !commonNames.contains field.1) =
      q.body.toFields := by
    refine List.filter_eq_self.2 fun field hfield => ?_
    have hname : field.1 ∈ Body.fieldNames q.body.kind :=
      Body.map_fst_toFields q.body ▸ List.mem_map_of_mem hfield
    have hnone : ∀ kind, ∀ name ∈ Body.fieldNames kind, (!commonNames.contains name) = true := by
      intro kind
      cases kind <;> decide
    exact hnone _ _ hname
  have hlogic : (if q.rules.isEmpty then [] else
      [("logic", Json.ofList Rule.toJson q.rules)]).filter
        (fun field => !commonNames.contains field.1) = [] := by
    split <;> simp [commonNames]
  rw [toFields, List.filter_append, List.filter_append, hbody, hlogic]
  simp [commonNames]

/-- The rules are read back, and are none when left out. -/
theorem defaulted_logic (q : Question) :
    q.toFields.defaulted "logic" [] (Json.asList Rule.ofJson) = .ok q.rules := by
  have hbody : "logic" ∉ q.body.toFields.map Prod.fst := by
    rw [Body.map_fst_toFields]
    cases q.body.kind <;> decide
  have hrules : Json.asList Rule.ofJson (Json.ofList Rule.toJson q.rules) = .ok q.rules :=
    Json.asList_ofList fun rule _ => rule.ofJson_toJson
  rw [toFields, List.append_assoc, Fields.defaulted_append (by simp), Fields.defaulted_append hbody]
  cases hnone : q.rules with
  | nil => rfl
  | cons rule rest => simpa [hnone] using hrules

/-- A question is read back. -/
theorem ofJson_toJson (q : Question) : ofJson q.toJson = .ok q := by
  have hcommon : q.toFields.repeats commonNames = false :=
    Fields.repeats_eq_false q.nodup_toFields _
  have hbody : SoundFields (fun _ => True) 3 q.body.toFields :=
    Body.sound_toFields (fun _ _ => trivial) 0
  have hlegible : Json.legibleMembers (("type", .text q.kind.tag) :: q.body.toFields) = true :=
    Json.SoundFields.legible (Json.soundFields_cons.2 ⟨.text _ _, hbody⟩)
  have htype : Fields.repeats (("type", .text q.kind.tag) :: q.body.toFields) ["type"] = false :=
    Fields.repeats_eq_false (Body.nodup_toFields q.body _) _
  have hread : Body.ofFields q.kind (("type", .text q.kind.tag) :: q.body.toFields) = .ok q.body :=
    Body.ofFields_toFields q.body _
  have hid : q.toFields.required "id" Json.asText = .ok q.id := by simp [toFields]
  have htext : q.toFields.defaulted "text" .empty Wording.ofJson = .ok q.text := by
    simp [toFields, Wording.ofJson_toJson]
  have hdescription : q.toFields.defaulted "description" .empty Wording.ofJson =
      .ok q.description := by
    simp [toFields, Wording.ofJson_toJson]
  have hrequired : q.toFields.defaulted "required" false Json.asBool = .ok q.required := by
    simp [toFields]
  -- The common fields are found by name; the others are the type and, after it, the body.
  rw [toJson_eq]
  show ofFields q.toFields = .ok q
  unfold ofFields
  simp only [filter_toFields, hcommon, hlegible, htype]
  simp [Kind.ofJson_tag, hread, hid, htext, hdescription, hrequired, defaulted_logic]

/-- A written question is sound when its numbers are as they should be. -/
theorem sound_toJson {q : Question} {P : Number → Prop} (h : ∀ x ∈ q.numbers, P x) (room : ℕ) :
    Sound P (room + 4) q.toJson := by
  have hbody : SoundFields P (room + 3) q.body.toFields :=
    Body.sound_toFields (fun x hx => h x (List.mem_append_left _ hx)) room
  have hrules : Sound P (room + 3) (Json.ofList Rule.toJson q.rules) := by
    refine Json.sound_ofList fun rule hrule => Rule.sound_toJson (fun x hx => ?_) (room + 1)
    exact h x (List.mem_append_right _ (List.mem_flatMap.2 ⟨rule, hrule, hx⟩))
  by_cases hnone : q.rules = []
  · simp [toJson, hnone, hbody, Wording.sound_toJson]
  · simp [toJson, hnone, hbody, hrules, Wording.sound_toJson]

end Question

end Questionnaire
