import Questionnaire.Json.Shape
import Questionnaire.Proofs.Except
import Questionnaire.Proofs.Json.RoundTrip

/-!
# Shapes read back

What is built as a list, a count or a record is read as the same. A record is read field by field,
and a field by its name: all that is asked of a written record is that no name is written twice
(`asRecord_object`), and a field is found by going past the names before it (`required_cons_self`,
`required_cons_of_ne` and their like).
-/

namespace Questionnaire.Json

variable {α : Type}

/-! ## Records -/

namespace Fields

variable {fields : Fields} {name : String}

/-- Where no name is written twice, none of those asked for is. -/
theorem repeats_eq_false (h : (fields.map Prod.fst).Nodup) (names : List String) :
    fields.repeats names = false := by
  simp only [repeats, List.any_eq_false, decide_eq_true_eq, Nat.not_lt]
  intro name _
  have hcount : fields.countP (fun field => field.1 == name) =
      (fields.map Prod.fst).count name := by
    rw [List.count, List.countP_map]
    rfl
  rw [hcount]
  exact List.nodup_iff_count.1 h name

section Steps

variable {value : Json} {read : Json → Except Fault α} {default : α} {other : String}

@[simp] theorem required_cons_self : required ((name, value) :: fields) name read = read value := by
  simp [required]

@[simp] theorem required_cons_of_ne (h : name ≠ other) :
    required ((other, value) :: fields) name read = fields.required name read := by
  rw [required, List.lookup_cons, beq_eq_false_iff_ne.2 h, required]

@[simp] theorem defaulted_cons_self :
    defaulted ((name, value) :: fields) name default read = read value := by
  simp [defaulted]

@[simp] theorem defaulted_cons_of_ne (h : name ≠ other) :
    defaulted ((other, value) :: fields) name default read =
      fields.defaulted name default read := by
  rw [defaulted, List.lookup_cons, beq_eq_false_iff_ne.2 h, defaulted]

/-- A field is not among those whose names are others. -/
theorem defaulted_append (h : name ∉ fields.map Prod.fst) (others : Fields) :
    defaulted (fields ++ others) name default read = others.defaulted name default read := by
  induction fields with
  | nil => rfl
  | cons field rest ih =>
    obtain ⟨hne, hrest⟩ := not_or.1 (mt List.mem_cons.2 h)
    rw [List.cons_append, defaulted_cons_of_ne hne, ih hrest]

@[simp] theorem defaulted_nil : defaulted [] name default read = .ok default :=
  rfl

end Steps

end Fields

/-- An object without a name written twice is a record of its members. -/
theorem asRecord_object {members : List (String × Json)} (h : (members.map Prod.fst).Nodup)
    (names : List String) (surplus : Fault) :
    asRecord names surplus (.object members) = .ok members := by
  rw [asRecord, Fields.repeats_eq_false h, if_neg (by decide)]

/-- An optional field is read as what its value is read as. -/
theorem asOptional_eq_ok {read : Json → Except Fault α} {value : Json} {a : α}
    (hnull : value ≠ .null) (hread : read value = .ok a) :
    asOptional read value = .ok (some a) := by
  have hsome : asOptional read value = some <$> read value := by
    unfold asOptional
    split
    next => exact absurd rfl hnull
    next => rfl
  rw [hsome, hread, map_ok]

/-! ## Lists and counts -/

@[simp] theorem asText_text (s : String) : asText (.text s) = .ok s :=
  rfl

@[simp] theorem asBool_bool (value : Bool) : asBool (.bool value) = .ok value :=
  rfl

/-- Items are read as what each is read as. -/
theorem mapM_map_eq_ok_map {β γ : Type} {toJson : α → β} {read : β → Except Fault γ} {f : α → γ}
    {items : List α} (h : ∀ a ∈ items, read (toJson a) = .ok (f a)) :
    (items.map toJson).mapM read = .ok (items.map f) := by
  induction items with
  | nil => rfl
  | cons a rest ih =>
    obtain ⟨ha, hrest⟩ := List.forall_mem_cons.1 h
    rw [List.map_cons, List.mapM_cons, ha, ih hrest]
    rfl

theorem mapM_map_eq_ok {β : Type} {toJson : α → β} {read : β → Except Fault α} {items : List α}
    (h : ∀ a ∈ items, read (toJson a) = .ok a) : (items.map toJson).mapM read = .ok items := by
  rw [mapM_map_eq_ok_map h, List.map_id']

/-- A list is read as it was when each item is. -/
theorem asList_ofList {toJson : α → Json} {read : Json → Except Fault α} {items : List α}
    (h : ∀ a ∈ items, read (toJson a) = .ok a) : asList read (ofList toJson items) = .ok items :=
  mapM_map_eq_ok h

theorem asIntegerIn_integer {low high n : ℤ} (h : low ≤ n ∧ n ≤ high) :
    asIntegerIn low high (.integer n) = .ok n :=
  if_pos h

/-- A count is read as it was. -/
theorem asCount_ofCount (n : UInt64) : asCount (ofCount n) = .ok n := by
  have hbound := n.toNat_lt
  have hfits : (0 : ℤ) ≤ n.toNat ∧ (n.toNat : ℤ) ≤ UInt64.size - 1 := by
    unfold UInt64.size
    omega
  rw [asCount, ofCount, asIntegerIn_integer hfits]
  show Except.ok (UInt64.ofNat (n.toNat : ℤ).toNat) = Except.ok n
  rw [Int.toNat_natCast, UInt64.ofNat_toNat]

/-- A whole number from 0 to 255 is read as it was. -/
theorem asByte_integer (n : UInt8) : asByte (.integer n.toNat) = .ok n := by
  have hbound := n.toNat_lt
  have hfits : (0 : ℤ) ≤ n.toNat ∧ (n.toNat : ℤ) ≤ 255 := by omega
  rw [asByte, asIntegerIn_integer hfits]
  show Except.ok (UInt8.ofNat (n.toNat : ℤ).toNat) = Except.ok n
  rw [Int.toNat_natCast, UInt8.ofNat_toNat]

/-! ## Sound parts -/

section Sound

variable {P : Number → Prop} {room : ℕ}

/-- A sound value is read whole. -/
theorem Sound.whole {value : Json} (h : Sound P room value) : value.whole = .ok value := by
  rw [Json.whole, h.legible, if_pos rfl]

theorem sound_ofList {toJson : α → Json} {items : List α}
    (h : ∀ a ∈ items, Sound P room (toJson a)) : Sound P (room + 1) (ofList toJson items) := by
  refine .array fun value hvalue => ?_
  obtain ⟨a, ha, rfl⟩ := List.mem_map.1 hvalue
  exact h a ha

@[simp] theorem sound_ofCount (n : UInt64) : Sound P room (ofCount n) := by
  have hbound := n.toNat_lt
  exact .integer room ⟨by omega, by omega⟩

/-- The values of all fields are sound. -/
def SoundFields (P : Number → Prop) (room : ℕ) (fields : Fields) : Prop :=
  ∀ field ∈ fields, Sound P room field.2

variable {fields others : Fields}

@[simp] theorem soundFields_nil : SoundFields P room [] :=
  fun _ h => absurd h List.not_mem_nil

@[simp] theorem soundFields_cons {field : String × Json} :
    SoundFields P room (field :: fields) ↔ Sound P room field.2 ∧ SoundFields P room fields :=
  List.forall_mem_cons

@[simp] theorem soundFields_append :
    SoundFields P room (fields ++ others) ↔ SoundFields P room fields ∧ SoundFields P room others :=
  List.forall_mem_append

@[simp] theorem soundFields_optionalMember {name : String} {toJson : α → Json} {value : Option α} :
    SoundFields P room (optionalMember name toJson value) ↔
      ∀ a, value = some a → Sound P room (toJson a) := by
  cases value <;> simp [optionalMember]

@[simp] theorem sound_object_iff :
    Sound P (room + 1) (.object fields) ↔ SoundFields P room fields :=
  ⟨fun h => by cases h; assumption, .object⟩

@[simp] theorem sound_text (s : String) : Sound P room (.text s) :=
  .text room s

@[simp] theorem sound_bool (value : Bool) : Sound P room (.bool value) :=
  .bool room value

theorem SoundFields.legible (h : SoundFields P room fields) : legibleMembers fields = true :=
  legibleMembers_iff.2 fun field hfield => (h field hfield).legible

end Sound

end Questionnaire.Json
