import Sluice.Proofs.Avro.RecordNames

/-!
# Unique names in generated schemas

When the names in a generated schema are unique. A record has two fields of one name exactly when
two names in its struct are cleaned to the same name, and two records have one full name exactly
when two such fields both have records; names that differ only in dots and dashes are enough for
both.

## Main definitions

* `Json.Value.records`: the records in an Avro schema, at every depth.
* `Avro.fieldNames`, `Avro.recordName?`: the names of the fields of a record, and its full name.
* `Schema.structs`, `Schema.hasRecord`: the structs in a schema, as they are generated.

## Main statements

* `Avro.unique_names_iff`: when the names of fields and of records in a generated schema differ.
* `Avro.names_not_unique`: a schema of different names whose generated names are not.
-/

namespace Sluice

open Json

/-! ## Records in an Avro schema -/

namespace Json.Value

mutual

/-- The objects in a value, each before those inside it. -/
def objects : Value → List (List (String × Value))
  | .array items => itemObjects items
  | .object members => members :: memberObjects members
  | _ => []

/-- The objects in the items of an array. -/
def itemObjects : List Value → List (List (String × Value))
  | [] => []
  | v :: rest => v.objects ++ itemObjects rest

/-- The objects in the members of an object. -/
def memberObjects : List (String × Value) → List (List (String × Value))
  | [] => []
  | (_, v) :: rest => v.objects ++ memberObjects rest

end

/-- Whether an object defines a record. -/
def isRecord (members : List (String × Value)) : Bool :=
  (members.lookup "type").any (·.isString "record")

/-- The records in an Avro schema, at every depth. -/
def records (v : Value) : List (List (String × Value)) :=
  v.objects.filter isRecord

end Json.Value

namespace Avro

/-- The names of the fields of a record. -/
def fieldNames (members : List (String × Value)) : List String :=
  (((members.lookup "fields").bind Value.array?).getD []).filterMap fun f =>
    (f.get? "name").bind Value.string?

/-- The full name of a record. -/
def recordName? (members : List (String × Value)) : Option String :=
  ((members.lookup "name").bind Value.string?).map fun name =>
    fullName name ((members.lookup "namespace").bind Value.string?)

end Avro

/-! ## Structs in a schema -/

namespace Schema

mutual

/-- The structs in a schema, at every depth; the keys of maps have no part in it. -/
def structs : Schema → List (List (String × Schema))
  | ⟨.array, _, _, _, _, _, some element⟩ => element.structs
  | ⟨.map, _, _, _, _, _, some value⟩ => value.structs
  | ⟨.struct, _, _, _, fields, _, _⟩ => fields :: structsOfFields fields
  | _ => []

/-- The structs in the schemas of fields. -/
def structsOfFields : List (String × Schema) → List (List (String × Schema))
  | [] => []
  | (_, schema) :: rest => schema.structs ++ structsOfFields rest

end

/-- Whether there is a record in the schema, below arrays and values of maps only. -/
def hasRecord : Schema → Bool
  | ⟨.array, _, _, _, _, _, some element⟩ => element.hasRecord
  | ⟨.map, _, _, _, _, _, some value⟩ => value.hasRecord
  | ⟨.struct, _, _, _, _, _, _⟩ => true
  | _ => false

end Schema

namespace Avro

/-- The cleaned names of the fields of each struct are all different. -/
def FieldsApart {α : Type} (structs : List (List (String × α))) : Prop :=
  ∀ fields ∈ structs, (fields.map fun f => cleanName f.1).Nodup

instance {α : Type} (structs : List (List (String × α))) : Decidable (FieldsApart structs) :=
  inferInstanceAs (Decidable (∀ fields ∈ structs, _))

/-- Different cleaned names keep records apart as well. -/
theorem FieldsApart.recordsApart {α : Type} {structs : List (List (String × α))}
    (h : FieldsApart structs) (hasRecord : α → Bool) : RecordsApart hasRecord structs := by
  intro fields hfields
  have different := List.pairwise_map.mp (h fields hfields)
  exact different.imp fun {_ _} differ clash => differ clash.1

/-- Of each struct, the names of its fields and whether they have records. -/
def outline {α : Type} (hasRecord : α → Bool) (structs : List (List (String × α))) :
    List (List (String × Bool)) :=
  structs.map fun fields => fields.map fun f => (f.1, hasRecord f.2)

theorem outline_append {α : Type} {hasRecord : α → Bool}
    {structs others : List (List (String × α))} :
    outline hasRecord (structs ++ others) = outline hasRecord structs ++ outline hasRecord others :=
  List.map_append

/-- Whether records are apart can be seen from the outline. -/
theorem recordsApart_outline {α : Type} {hasRecord : α → Bool}
    {structs : List (List (String × α))} :
    RecordsApart id (outline hasRecord structs) ↔ RecordsApart hasRecord structs := by
  simp [RecordsApart, outline, List.pairwise_map, Clash]

/-- Whether fields are apart can be seen from the outline. -/
theorem fieldsApart_outline {α : Type} (hasRecord : α → Bool)
    {structs : List (List (String × α))} :
    FieldsApart (outline hasRecord structs) ↔ FieldsApart structs := by
  simp [FieldsApart, outline, Function.comp_def]

/-! ## Generated schemas are forms -/

/-- A schema and a type with the same structs. -/
structure Alike (s : Schema) (t : SqlType) : Prop where
  record : s.hasRecord = t.hasRecord
  structs : outline Schema.hasRecord s.structs = outline SqlType.hasRecord t.structs

/-- What is generated for a schema without schemas inside is the form of a well-formed primitive
type. -/
theorem exists_primitiveForm {s : Schema} {v : Value} (h : leafOf s = .ok v) :
    ∃ p : Primitive, p.WellFormed ∧ v = primitiveForm p := by
  unfold leafOf at h
  split at h
  · -- the kinds one by one, in the order in which they are told apart
    exact ⟨.boolean, trivial, (Except.ok.inj h).symm⟩
  · exact ⟨.integer, trivial, (Except.ok.inj h).symm⟩
  · exact ⟨.bigint, trivial, (Except.ok.inj h).symm⟩
  · exact ⟨.double, trivial, (Except.ok.inj h).symm⟩
  · exact ⟨.string, trivial, (Except.ok.inj h).symm⟩
  · -- bytes, which must carry decimals of a known precision and scale
    split at h
    · unfold decimalOf at h
      split at h
      · rename_i precision scale hprecision hscale
        -- the bounds were checked, and the parameters are read as numbers of 32 bits
        obtain ⟨⟨⟩, checked, h⟩ := bind_eq_ok_iff.mp h
        have bounds : ValidDecimalBounds precision scale :=
          checkDecimalBounds_eq_ok_iff.mp (mapError_eq_ok_iff.mp checked)
        refine ⟨.decimal precision scale, ⟨bounds, ?_, ?_⟩, (Except.ok.inj h).symm⟩
        · exact Schema.isInt32_of_precision? hprecision
        · exact Schema.isInt32_of_scale? hscale
      · cases h
    · cases h
  · cases h

mutual

/-- What is generated for a schema is the form of a type with the same structs. -/
theorem exists_form_of_typeOf {name outer : String} {v : Value} :
    (s : Schema) → typeOf s name outer = .ok v → ∃ t, v = form t name outer ∧ Alike s t
  | ⟨.array, _, _, _, _, _, none⟩, h => by cases h
  | ⟨.array, _, _, _, _, _, some element⟩, h => by
    obtain ⟨w, hw, rfl⟩ := map_eq_ok_iff.mp h
    obtain ⟨t, rfl, alike⟩ := exists_form_of_typeOf element hw
    exact ⟨.array t, rfl, alike.record, alike.structs⟩
  | ⟨.map, _, _, _, _, _, none⟩, h => by cases h
  | ⟨.map, _, _, _, _, _, some value⟩, h => by
    -- no key is generated, so a string may stand for it
    obtain ⟨w, hw, rfl⟩ := map_eq_ok_iff.mp h
    obtain ⟨t, rfl, alike⟩ := exists_form_of_typeOf value hw
    exact ⟨.map .string t, rfl, alike.record, alike.structs⟩
  | ⟨.struct, _, _, _, fields, _, _⟩, h => by
    obtain ⟨ws, hws, rfl⟩ := map_eq_ok_iff.mp h
    obtain ⟨row, rfl, sameFields, sameStructs⟩ := exists_fieldForms_of_fieldsOf fields hws
    exact ⟨.struct row, rfl, rfl, congrArg₂ List.cons sameFields sameStructs⟩
  | ⟨.boolean, _, _, _, _, _, _⟩, h | ⟨.string, _, _, _, _, _, _⟩, h
  | ⟨.bytes, _, _, _, _, _, _⟩, h | ⟨.int8, _, _, _, _, _, _⟩, h | ⟨.int16, _, _, _, _, _, _⟩, h
  | ⟨.int32, _, _, _, _, _, _⟩, h | ⟨.int64, _, _, _, _, _, _⟩, h
  | ⟨.float32, _, _, _, _, _, _⟩, h | ⟨.float64, _, _, _, _, _, _⟩, h => by
    obtain ⟨p, -, rfl⟩ := exists_primitiveForm h
    exact ⟨.primitive p, rfl, rfl, rfl⟩

/-- What is generated for fields are the forms of fields with the same structs. -/
theorem exists_fieldForms_of_fieldsOf {inner : String} {vs : List Value} :
    (fields : List (String × Schema)) → fieldsOf fields inner = .ok vs →
      ∃ row, vs = fieldForms row inner ∧
        fields.map (fun f => (f.1, f.2.hasRecord)) = row.map (fun f => (f.1, f.2.hasRecord)) ∧
        outline Schema.hasRecord (Schema.structsOfFields fields) =
          outline SqlType.hasRecord (SqlType.structsOfFields row)
  | [], h => by
    obtain rfl := Except.ok.inj h
    exact ⟨[], rfl, rfl, rfl⟩
  | (name, schema) :: rest, h => by
    -- the form of the first field, and then those of the others
    obtain ⟨w, hw, h⟩ := bind_eq_ok_iff.mp h
    obtain ⟨ws, hws, h⟩ := bind_eq_ok_iff.mp h
    obtain rfl := Except.ok.inj h
    obtain ⟨t, rfl, alike⟩ := exists_form_of_typeOf schema hw
    obtain ⟨row, rfl, sameFields, sameStructs⟩ := exists_fieldForms_of_fieldsOf rest hws
    refine ⟨(name, t) :: row, rfl, ?_, ?_⟩
    · rw [List.map_cons, List.map_cons, sameFields, alike.record]
    · rw [Schema.structsOfFields, SqlType.structsOfFields, outline_append, outline_append,
        alike.structs, sameStructs]

end

/-! ## Records in forms -/

@[simp]
theorem records_array (items : List Value) :
    (Value.array items).records = items.flatMap Value.records := by
  induction items with
  | nil => rfl
  | cons v rest ih =>
    rw [Value.records, Value.objects, Value.itemObjects, List.filter_append, List.flatMap_cons,
      ← ih]
    rfl

theorem records_object (members : List (String × Value)) :
    (Value.object members).records =
      [members].filter Value.isRecord ++ members.flatMap fun m => m.2.records := by
  -- the objects inside the members are those inside each of them
  have inside : (Value.memberObjects members).filter Value.isRecord =
      members.flatMap fun m => m.2.records := by
    induction members with
    | nil => rfl
    | cons m rest ih =>
      rw [Value.memberObjects, List.filter_append, List.flatMap_cons, ← ih]
      rfl
  rw [← inside, ← List.filter_append]
  rfl

@[simp]
theorem records_null : Value.null.records = [] :=
  rfl

@[simp]
theorem records_string (s : String) : (Value.string s).records = [] :=
  rfl

@[simp]
theorem records_nullable (v : Value) : (nullable v).records = v.records := by
  simp [nullable]

@[simp]
theorem records_field (name : String) (type : Value) :
    (field name type).records = type.records := by
  -- the type of a field is a union, not the name of a type
  have notRecord : Value.isRecord
      [("default", .null), ("name", .string name), ("type", nullable type)] = false := rfl
  simp [field, records_object, notRecord]

theorem records_array_form (items : Value) : (array items).records = items.records := by
  have notRecord : Value.isRecord [("items", nullable items), ("type", .string "array")] = false :=
    rfl
  simp [array, records_object, notRecord]

theorem records_map_form (values : Value) : (map values).records = values.records := by
  have notRecord : Value.isRecord [("type", .string "map"), ("values", nullable values)] = false :=
    rfl
  simp [map, records_object, notRecord]

theorem records_primitiveForm (p : Primitive) : (primitiveForm p).records = [] := by
  cases p <;> rfl

theorem records_record (name outer : String) (fields : List Value) :
    (record name outer fields).records =
      recordMembers name outer fields :: fields.flatMap Value.records := by
  have isRecord : Value.isRecord (recordMembers name outer fields) = true := rfl
  change (Value.object (recordMembers name outer fields)).records = _
  rw [records_object, List.filter_singleton, isRecord]
  simp [recordMembers]

/-- The full names of the records in a form are those that are known of its type. -/
theorem map_recordName?_records {t : SqlType} {name outer : String} (noDot : '.' ∉ name.toList)
    (nonempty : outer ≠ "") :
    (form t name outer).records.map recordName? = (recordNames t name outer).map some := by
  -- by the shape of the type; a record comes before those inside it
  induction t using SqlType.shapeRec generalizing name outer with
  | primitive p => rw [form, records_primitiveForm]; rfl
  | array element ih => rw [form, records_array_form, ih noDot nonempty]; rfl
  | map key value ih => rw [form, records_map_form, ih noDot nonempty]; rfl
  | struct fields ih =>
    -- a field is named after its cleaned name, which has no dot
    have inside :
        ((fieldForms fields (joinName outer name)).flatMap Value.records).map recordName? =
          (fieldRecordNames fields (joinName outer name)).map some := by
      rw [fieldForms_eq, fieldRecordNames_eq, List.flatMap_map, List.map_flatMap, List.map_flatMap]
      refine List.flatMap_congr fun f hf => ?_
      rw [records_field, ih f hf dot_notMem_cleanName joinName_ne_empty]
    rw [form, recordNames, records_record, List.map_cons, List.map_cons, inside,
      ← fullName_eq_joinName noDot nonempty]
    rfl

/-- The names of the fields of the records in a form are the cleaned names of its structs. -/
theorem map_fieldNames_records {t : SqlType} {name outer : String} :
    (form t name outer).records.map fieldNames =
      t.structs.map fun fields => fields.map fun f => cleanName f.1 := by
  -- by the shape of the type, in the same order
  induction t using SqlType.shapeRec generalizing name outer with
  | primitive p => rw [form, records_primitiveForm]; rfl
  | array element ih => rw [form, records_array_form, ih]; rfl
  | map key value ih => rw [form, records_map_form, ih]; rfl
  | struct fields ih =>
    -- a record lists its fields under their cleaned names
    have own : fieldNames (recordMembers name outer (fieldForms fields (joinName outer name))) =
        fields.map fun f => cleanName f.1 := by
      rw [fieldForms_eq]
      change (fields.map _).filterMap _ = _
      rw [List.filterMap_map]
      exact congrFun List.filterMap_eq_map fields
    have inside : ((fieldForms fields (joinName outer name)).flatMap Value.records).map fieldNames =
        (SqlType.structsOfFields fields).map fun fields => fields.map fun f => cleanName f.1 := by
      rw [fieldForms_eq, SqlType.structsOfFields_eq, List.flatMap_map, List.map_flatMap,
        List.map_flatMap]
      refine List.flatMap_congr fun f hf => ?_
      rw [records_field, ih f hf]
    rw [form, records_record, List.map_cons, own, inside]
    rfl

/-! ## Generated schemas -/

/-- When the names in a generated schema are unique: the fields of each record have different names
exactly when the cleaned names in each struct are different, and all records have different full
names exactly when no two fields of one struct have records under the same cleaned name. -/
theorem unique_names_iff {s : Schema} {name : String} {v : Value} (h : generate s name = .ok v) :
    ((∀ r ∈ v.records, (fieldNames r).Nodup) ↔ FieldsApart s.structs) ∧
      ((v.records.map recordName?).Nodup ↔ RecordsApart Schema.hasRecord s.structs) := by
  unfold generate at h
  split at h
  · -- what was generated is the form of a type that has the structs of the schema
    obtain ⟨t, rfl, -, sameStructs⟩ := exists_form_of_typeOf s h
    -- both conditions are about the structs only, so they are those of the type
    have fieldsApart : FieldsApart s.structs ↔ FieldsApart t.structs := by
      rw [← fieldsApart_outline Schema.hasRecord, sameStructs, fieldsApart_outline]
    have recordsApart : RecordsApart Schema.hasRecord s.structs ↔
        RecordsApart SqlType.hasRecord t.structs := by
      rw [← recordsApart_outline, sameStructs, recordsApart_outline]
    constructor
    · rw [fieldsApart, ← List.forall_mem_map (f := fieldNames) (P := List.Nodup),
        map_fieldNames_records, List.forall_mem_map]
      rfl
    · rw [recordsApart, map_recordName?_records dot_notMem_cleanName (by decide),
        List.nodup_map_iff fun _ _ => Option.some.inj, nodup_recordNames_iff]
  · cases h

/-- Cleaned names that differ, at the top and below an array, make all names unique. -/
theorem unique_names_orders :
    let inner : Schema := .struct [("x.y", .leaf .int32), ("z", .leaf .string)]
    let s : Schema := .struct [("a.b", inner), ("a-c", .array inner)]
    ∃ v, generate s "orders" = .ok v ∧ (∀ r ∈ v.records, (fieldNames r).Nodup) ∧
      (v.records.map recordName?).Nodup := by
  intro inner s
  have generated : generate s "orders" = .ok _ := rfl
  have apart : FieldsApart s.structs := by decide
  exact ⟨_, generated, (unique_names_iff generated).1.mpr apart,
    (unique_names_iff generated).2.mpr (apart.recordsApart _)⟩

/-- Names that differ in a dot and a dash alone are different in the schema and the same in what is
generated for it, as names of fields and as full names of records. -/
theorem names_not_unique :
    let inner : Schema := .struct [("x", .leaf .int32)]
    let s : Schema := .struct [("a.b", inner), ("a-b", inner)]
    (∀ fields ∈ s.structs, (fields.map (·.1)).Nodup ∧
        ∀ f ∈ fields, f.1.toList.all fun c => c.isAlphanum || c == '_' || c == '.' || c == '-') ∧
      ∃ v, generate s "t" = .ok v ∧ ¬(∀ r ∈ v.records, (fieldNames r).Nodup) ∧
        ¬(v.records.map recordName?).Nodup := by
  intro inner s
  exact ⟨by decide, _, rfl, by decide, by decide⟩

end Avro

end Sluice
