import Mathlib.Data.List.Find
import Mathlib.Data.List.Nodup
import Questionnaire.Json.Reader
import Questionnaire.Proofs.Json.Shape
import Questionnaire.Question.Json

/-!
# Questions read from rearranged members

The members of a question are found by their names, so their order means nothing, nor does the place
of the type among them. Which names belong to a question depends on its type; a member of any other
name is passed over, whatever it holds and however often it is there, unless what it holds is
illegible (`ofJson_rearranged`).

Reading looks at two things for each name that belongs to the question: whether it occurs more than
once, and which member is the first of that name. Objects that agree on these (`Fields.AgreeOn`) are
read alike. What is asked of the members of a question is listed once (`Question.ReadFrom`), each of
it in terms that agreeing objects share.
-/

namespace Questionnaire

open Json (Fault Fields)

/-! ## Fields of some names -/

namespace Json.Fields

/-- Two lists of fields have the same first field of each of the names, and as many. -/
structure AgreeOn (names : List String) (fields others : Fields) : Prop where
  /-- The first field of each name is the same. -/
  lookup : ∀ name ∈ names, fields.lookup name = others.lookup name
  /-- There are as many fields of each name. -/
  count : ∀ name ∈ names, (fields.countP fun field => field.1 == name) =
    others.countP fun field => field.1 == name

/-- The first field of a name is found by its name. -/
theorem lookup_eq_find? (fields : Fields) (name : String) :
    fields.lookup name = (fields.find? fun field => name == field.1).map Prod.snd := by
  induction fields with
  | nil => rfl
  | cons field rest ih =>
    rw [List.lookup_cons, List.find?_cons, ih]
    cases name == field.1 <;> rfl

/-- Fields without repeated names agree with what they are made into when they are rearranged and
fields of other names are put in. -/
theorem agreeOn_of_perm {names : List String} {fields foreign arranged : Fields}
    (hnodup : (fields.map Prod.fst).Nodup) (hperm : arranged.Perm (fields ++ foreign))
    (hforeign : ∀ field ∈ foreign, field.1 ∉ names) : AgreeOn names fields arranged where
  lookup name hname := by
    have hother : ∀ field ∈ foreign, (name == field.1) = false := fun field hfield =>
      beq_eq_false_iff_ne.2 fun heq => hforeign field hfield (heq ▸ hname)
    -- Of the name there is no more than one field, so the first is the same in any order.
    have honce : {field ∈ arranged | name == field.1}.Subsingleton := by
      rintro field ⟨hfield, hname⟩ other ⟨hother', hname'⟩
      have hmem : ∀ field ∈ arranged, (name == field.1) = true → field ∈ fields := by
        intro field hfield hname
        refine (List.mem_append.1 (hperm.subset hfield)).resolve_right fun hmem => ?_
        rw [hother field hmem] at hname
        cases hname
      exact List.inj_on_of_nodup_map hnodup (hmem field hfield hname) (hmem other hother' hname')
        ((beq_iff_eq.1 hname).symm.trans (beq_iff_eq.1 hname'))
    have hnone : (foreign.find? fun field => name == field.1) = none :=
      List.find?_eq_none.2 fun field hfield => ne_true_of_eq_false (hother field hfield)
    rw [lookup_eq_find?, lookup_eq_find?, List.find?_eq_find?_of_perm hperm honce,
      List.find?_append, hnone, Option.or_none]
  count name hname := by
    have hother : (foreign.countP fun field => field.1 == name) = 0 :=
      List.countP_eq_zero.2 fun field hfield heq =>
        hforeign field hfield (beq_iff_eq.1 heq ▸ hname)
    rw [hperm.countP_eq, List.countP_append, hother, Nat.add_zero]

namespace AgreeOn

variable {α : Type} {names : List String} {fields others : Fields}

/-- What agrees on some names agrees on fewer. -/
theorem mono (h : AgreeOn names fields others) {fewer : List String} (hsub : fewer ⊆ names) :
    AgreeOn fewer fields others where
  lookup name hname := h.lookup name (hsub hname)
  count name hname := h.count name (hsub hname)

theorem repeats (h : AgreeOn names fields others) :
    fields.repeats names = others.repeats names := by
  rw [Fields.repeats, Fields.repeats, Bool.eq_iff_iff, List.any_eq_true, List.any_eq_true]
  refine exists_congr fun name => and_congr_right fun hname => ?_
  rw [h.count name hname]

theorem required (h : AgreeOn names fields others) {name : String} (hname : name ∈ names)
    (read : Json → Except Fault α) : fields.required name read = others.required name read := by
  rw [Fields.required, Fields.required, h.lookup name hname]

theorem defaulted (h : AgreeOn names fields others) {name : String} (hname : name ∈ names)
    (default : α) (read : Json → Except Fault α) :
    fields.defaulted name default read = others.defaulted name default read := by
  rw [Fields.defaulted, Fields.defaulted, h.lookup name hname]

end AgreeOn

end Json.Fields

/-! ## Bodies -/

namespace Body

/-- A body is read alike from fields that agree on the names of its kind. -/
theorem ofFields_congr {kind : Kind} {fields others : Fields}
    (h : Fields.AgreeOn (fieldNames kind) fields others) :
    ofFields kind fields = ofFields kind others := by
  have hproperties (hname : "properties" ∈ fieldNames kind) :
      readProperties fields = readProperties others :=
    funext fun names => h.defaulted hname [] _
  have hchoices (name : String) (hname : name ∈ fieldNames kind) :
      fields.defaulted name [] (Json.asList Choice.ofJson) =
        others.defaulted name [] (Json.asList Choice.ofJson) :=
    h.defaulted hname [] _
  unfold ofFields
  rw [h.repeats]
  cases kind with
  | multipleChoice | dropdown =>
    simp only [readPickOne, readOptions, hchoices "options" (by decide), hproperties (by decide)]
  | checkboxGroup =>
    simp only [readPickMany, readOptions, hchoices "options" (by decide), hproperties (by decide)]
  | likertScale => simp only [readScale, hproperties (by decide)]
  | openText => simp only [readTextEntry, hproperties (by decide)]
  | matrix =>
    simp only [readGrid, hchoices "rows" (by decide), hchoices "columns" (by decide)]
  | numeric => simp only [readNumberEntry, hproperties (by decide)]
  | date => simp only [readDateEntry, hproperties (by decide)]
  | ranking =>
    simp only [readRanking, readOptions, hchoices "options" (by decide), hproperties (by decide)]
  | fileUpload => simp only [readUpload, hproperties (by decide)]
  | sectionBreak => rfl

/-- What is read as a body of a kind is of that kind. -/
theorem kind_of_ofFields {kind : Kind} {fields : Fields} {body : Body}
    (h : ofFields kind fields = .ok body) : body.kind = kind := by
  unfold ofFields at h
  split at h
  · cases h
  · cases kind with
    | sectionBreak => cases h; rfl
    | _ => obtain ⟨_, -, rfl⟩ := map_eq_ok_iff.1 h; rfl

end Body

/-! ## Questions -/

namespace Question

/-- The fields that are not common to all questions. -/
def otherFields (fields : Fields) : Fields :=
  fields.filter fun field => !commonNames.contains field.1

/-- What there is to the fields that a question is read from. -/
structure ReadFrom (fields : Fields) (q : Question) : Prop where
  /-- No common field is there twice. -/
  once : fields.repeats commonNames = false
  /-- No other field holds anything illegible. -/
  legible : Json.legibleMembers (otherFields fields) = true
  /-- The type is not there twice. -/
  typeOnce : (otherFields fields).repeats ["type"] = false
  /-- The type is that of the question. -/
  type : (otherFields fields).required "type" Kind.ofJson = .ok q.kind
  /-- The id is that of the question. -/
  id : fields.required "id" Json.asText = .ok q.id
  /-- The text is that of the question. -/
  text : fields.defaulted "text" .empty Wording.ofJson = .ok q.text
  /-- The description is that of the question. -/
  description : fields.defaulted "description" .empty Wording.ofJson = .ok q.description
  /-- The question is required or not as it says. -/
  required : fields.defaulted "required" false Json.asBool = .ok q.required
  /-- The fields of its type make up its body. -/
  body : Body.ofFields q.kind (otherFields fields) = .ok q.body
  /-- The rules are those of the question. -/
  rules : fields.defaulted "logic" [] (Json.asList Rule.ofJson) = .ok q.rules

/-- The checks come before anything is read: first for common fields that are there twice, then for
what is illegible, then for a type that is there twice. -/
theorem ofJson_object (fields : Fields) :
    ofJson (.object fields) =
      if fields.repeats commonNames then .error .misshapen
      else if Json.legibleMembers (otherFields fields) = false then .error .malformed
      else if (otherFields fields).repeats ["type"] then .error .misshapen
      else do
        let kind ← (otherFields fields).required "type" Kind.ofJson
        return {
          id := ← fields.required "id" Json.asText
          text := ← fields.defaulted "text" .empty Wording.ofJson
          description := ← fields.defaulted "description" .empty Wording.ofJson
          required := ← fields.defaulted "required" false Json.asBool
          body := ← Body.ofFields kind (otherFields fields)
          rules := ← fields.defaulted "logic" [] (Json.asList Rule.ofJson) } := by
  show ofFields fields = _
  unfold ofFields
  dsimp only
  rw [← otherFields]
  cases fields.repeats commonNames with
  | true => rfl
  | false =>
    cases Json.legibleMembers (otherFields fields) with
    | false => rfl
    | true => cases (otherFields fields).repeats ["type"] <;> rfl

/-- A question is read from fields exactly if they say it. -/
theorem ofJson_object_eq_ok_iff {fields : Fields} {q : Question} :
    ofJson (.object fields) = .ok q ↔ ReadFrom fields q := by
  rw [ofJson_object]
  constructor
  · intro h
    split at h
    · cases h
    split at h
    · cases h
    split at h
    · cases h
    next honce hlegible htypeOnce =>
      simp only [bind_eq_ok_iff, pure_eq_ok, Except.ok.injEq] at h
      obtain ⟨kind, htype, id, hid, text, htext, description, hdescription, required, hrequired,
        body, hbody, rules, hrules, rfl⟩ := h
      obtain rfl := Body.kind_of_ofFields hbody
      exact ⟨by simpa using honce, by simpa using hlegible, by simpa using htypeOnce, htype, hid,
        htext, hdescription, hrequired, hbody, hrules⟩
  · intro h
    simp [h.once, h.legible, h.typeOnce, h.type, h.id, h.text, h.description, h.required, h.body,
      h.rules]

/-! ### Rearranged members -/

/-- A name that belongs to no question of the kind: neither a common one nor that of the type, nor
one of the kind. -/
structure IsForeign (kind : Kind) (name : String) : Prop where
  /-- It is not common to all questions. -/
  not_common : name ∉ commonNames
  /-- It is not that of the type. -/
  ne_type : name ≠ "type"
  /-- It does not belong to the kind. -/
  not_own : name ∉ Body.fieldNames kind

/-- Foreign fields are not common. -/
theorem otherFields_of_foreign {kind : Kind} {foreign : Fields}
    (h : ∀ field ∈ foreign, IsForeign kind field.1) : otherFields foreign = foreign :=
  List.filter_eq_self.2 fun field hfield => by simpa using (h field hfield).not_common

section Rearranged

variable {fields foreign arranged : Fields} {kind : Kind}

/-- Rearranged, the fields that are not common are so with the foreign ones among them. -/
theorem perm_otherFields (hperm : arranged.Perm (fields ++ foreign))
    (hforeign : ∀ field ∈ foreign, IsForeign kind field.1) :
    (otherFields arranged).Perm (otherFields fields ++ foreign) := by
  have hfilter := hperm.filter fun field => !commonNames.contains field.1
  rwa [List.filter_append, ← otherFields, ← otherFields, ← otherFields,
    otherFields_of_foreign hforeign] at hfilter

/-- Rearranged, the fields agree on the common names. -/
theorem agreeOn_common (hnodup : (fields.map Prod.fst).Nodup)
    (hperm : arranged.Perm (fields ++ foreign))
    (hforeign : ∀ field ∈ foreign, IsForeign kind field.1) :
    Fields.AgreeOn commonNames fields arranged :=
  Fields.agreeOn_of_perm hnodup hperm fun field hfield => (hforeign field hfield).not_common

/-- Rearranged, the fields that are not common agree on the type and on the names of the kind. -/
theorem agreeOn_own (hnodup : (fields.map Prod.fst).Nodup)
    (hperm : arranged.Perm (fields ++ foreign))
    (hforeign : ∀ field ∈ foreign, IsForeign kind field.1) :
    Fields.AgreeOn ("type" :: Body.fieldNames kind) (otherFields fields)
      (otherFields arranged) := by
  have hothers : ((otherFields fields).map Prod.fst).Nodup :=
    hnodup.sublist (List.filter_sublist.map Prod.fst)
  refine Fields.agreeOn_of_perm hothers (perm_otherFields hperm hforeign) fun field hfield => ?_
  rw [List.mem_cons, not_or]
  exact ⟨(hforeign field hfield).ne_type, (hforeign field hfield).not_own⟩

/-- Rearranged, the fields are legible as they were, if the foreign ones are. -/
theorem legibleMembers_rearranged (hperm : arranged.Perm (fields ++ foreign))
    (hforeign : ∀ field ∈ foreign, IsForeign kind field.1) :
    Json.legibleMembers (otherFields arranged) =
      (Json.legibleMembers (otherFields fields) && Json.legibleMembers foreign) := by
  rw [Bool.eq_iff_iff, Bool.and_eq_true, Json.legibleMembers_iff, Json.legibleMembers_iff,
    Json.legibleMembers_iff, ← List.forall_mem_append]
  exact forall_congr' fun field => imp_congr_left (perm_otherFields hperm hforeign).mem_iff

/-- From rearranged fields the same question is read, if the foreign ones are legible. -/
theorem ReadFrom.rearranged {q : Question} (h : ReadFrom fields q)
    (hnodup : (fields.map Prod.fst).Nodup) (hperm : arranged.Perm (fields ++ foreign))
    (hforeign : ∀ field ∈ foreign, IsForeign q.kind field.1)
    (hlegible : Json.legibleMembers foreign = true) : ReadFrom arranged q := by
  have hcommon := agreeOn_common hnodup hperm hforeign
  have hown := agreeOn_own hnodup hperm hforeign
  have htype : Fields.AgreeOn ["type"] (otherFields fields) (otherFields arranged) :=
    hown.mono (List.cons_subset_cons _ (List.nil_subset _))
  exact {
    once := hcommon.repeats ▸ h.once
    legible := by rw [legibleMembers_rearranged hperm hforeign, h.legible, hlegible]; rfl
    typeOnce := htype.repeats ▸ h.typeOnce
    type := hown.required List.mem_cons_self _ ▸ h.type
    id := hcommon.required (by decide : "id" ∈ commonNames) _ ▸ h.id
    text := hcommon.defaulted (by decide : "text" ∈ commonNames) _ _ ▸ h.text
    description := hcommon.defaulted (by decide : "description" ∈ commonNames) _ _ ▸ h.description
    required := hcommon.defaulted (by decide : "required" ∈ commonNames) _ _ ▸ h.required
    body := Body.ofFields_congr (hown.mono (List.subset_cons_self _ _)) ▸ h.body
    rules := hcommon.defaulted (by decide : "logic" ∈ commonNames) _ _ ▸ h.rules }

end Rearranged

/-- A question is read from its members in any order, with the type wherever it stands and members
of foreign names anywhere among them, as often as it may be: the same question, unless a foreign
member holds something illegible. -/
theorem ofJson_rearranged {members foreign arranged : Fields} {q : Question}
    (hread : ofJson (.object members) = .ok q) (hnodup : (members.map Prod.fst).Nodup)
    (hforeign : ∀ member ∈ foreign, IsForeign q.kind member.1)
    (hperm : arranged.Perm (members ++ foreign)) :
    ofJson (.object arranged) =
      if Json.legibleMembers foreign then .ok q else .error .malformed := by
  rw [ofJson_object_eq_ok_iff] at hread
  cases hlegible : Json.legibleMembers foreign with
  | true => exact ofJson_object_eq_ok_iff.2 (hread.rearranged hnodup hperm hforeign hlegible)
  | false =>
    have honce : arranged.repeats commonNames = false :=
      (agreeOn_common hnodup hperm hforeign).repeats ▸ hread.once
    rw [ofJson_object, honce, legibleMembers_rearranged hperm hforeign, hlegible, Bool.and_false]
    rfl

/-- The members of a question about trips, with the type at the end. -/
def tripMembers : Fields :=
  [("id", .text "trip"), ("required", .bool true),
   ("rows", .array [.object [("text", .text "Outward"), ("id", .text "out")]]),
   ("columns", .array [.object [("id", .text "bus"), ("text", .text "Bus")]]),
   ("type", .text "matrix")]

/-- Members that do not belong to a grid: properties, which it has none of, and notes. -/
def tripNotes : Fields :=
  [("properties", .integer 5), ("note", .null), ("note", .array [.bool true])]

/-- The question about trips. -/
def tripQuestion : Question where
  id := "trip"
  required := true
  body := .matrix {
    rows := [{ id := "out", text := .plain "Outward" }]
    columns := [{ id := "bus", text := .plain "Bus" }] }

/-- The question about trips is read from its members in reverse order and with notes before
them. -/
theorem ofJson_rearranged_tripQuestion :
    ofJson (.object tripMembers) = .ok tripQuestion ∧ (tripMembers.map Prod.fst).Nodup ∧
      (∀ member ∈ tripNotes, IsForeign tripQuestion.kind member.1) ∧
      (tripMembers ++ tripNotes).reverse.Perm (tripMembers ++ tripNotes) ∧
      ofJson (.object (tripMembers ++ tripNotes).reverse) = .ok tripQuestion := by
  have hread : ofJson (.object tripMembers) = .ok tripQuestion := by
    decide +kernel
  have hnodup : (tripMembers.map Prod.fst).Nodup := by
    decide
  have hforeign : ∀ member ∈ tripNotes, IsForeign tripQuestion.kind member.1 := by
    simp only [tripNotes, List.forall_mem_cons]
    exact ⟨⟨by decide, by decide, by decide⟩, ⟨by decide, by decide, by decide⟩,
      ⟨by decide, by decide, by decide⟩, List.forall_mem_nil _⟩
  have hperm := (tripMembers ++ tripNotes).reverse_perm
  have hlegible : Json.legibleMembers tripNotes = true := by
    decide
  exact ⟨hread, hnodup, hforeign, hperm,
    (ofJson_rearranged hread hnodup hforeign hperm).trans (if_pos hlegible)⟩

/-- A section break at the end of a survey. -/
def lastBreak : Question where
  id := "last"
  body := .sectionBreak

/-- Not every text that is JSON can be put in as a foreign member: with a number beyond binary64 as
a note, no question is read. -/
theorem not_forall_ofJson_rearranged :
    (Json.load ofJson "\x7b\"id\":\"last\",\"type\":\"section_break\"\x7d" = .ok lastBreak ∧
        Json.load ofJson "\x7b\"id\":\"last\",\"note\":1e400,\"type\":\"section_break\"\x7d" =
          .error .malformed) ∧
      ¬ ∀ (members foreign arranged : Fields) (q : Question), ofJson (.object members) = .ok q →
        (members.map Prod.fst).Nodup → (∀ member ∈ foreign, IsForeign q.kind member.1) →
          arranged.Perm (members ++ foreign) → ofJson (.object arranged) = .ok q := by
  refine ⟨⟨by decide +kernel, by decide +kernel⟩, fun h => ?_⟩
  have hread : ofJson (.object [("id", .text "last"), ("type", .text "section_break")]) =
      .ok lastBreak := by
    decide +kernel
  have hforeign : ∀ member ∈ [("note", Json.illegible)], IsForeign lastBreak.kind member.1 :=
    List.forall_mem_singleton.2 ⟨by decide, by decide, by decide⟩
  have hunread : ofJson (.object [("id", .text "last"), ("type", .text "section_break"),
      ("note", .illegible)]) ≠ .ok lastBreak := by
    decide +kernel
  exact hunread (h _ _ _ _ hread (by decide) hforeign (.refl _))

end Question

end Questionnaire
