import Sluice.Proofs.Avro.Conversion
import Sluice.Schema.ToSql

/-!
# Row types on the way to Avro and back

The Avro record of a row type is read back as a row type. The keys of maps come back as strings and
the names of fields cleaned and in upper case; all else comes back as it was. The one thing in the
way are records of one full name, which are a duplicate definition.

## Main definitions

* `SqlType.viaAvro`, `RowType.viaAvro`: what comes back of a type and of a row type.

## Main statements

* `Avro.generateRow_comes_back_iff`: what is generated for a row type reads back as what should
  come back of it exactly when its records are apart, and is a duplicate definition otherwise.
-/

namespace Sluice

open Json Number Text

mutual

/-- What comes back of a type that goes to Avro. -/
def SqlType.viaAvro : SqlType → SqlType
  | .primitive p => .primitive p
  | .array element => .array element.viaAvro
  | .map _ value => .map .string value.viaAvro
  | .struct fields => .struct (SqlType.fieldsViaAvro fields)

/-- What comes back of the fields of a struct. -/
def SqlType.fieldsViaAvro : List (String × SqlType) → List (String × SqlType)
  | [] => []
  | (name, type) :: rest =>
    (uppercase (Avro.cleanName name), type.viaAvro) :: SqlType.fieldsViaAvro rest

end

/-- What comes back of a row type that goes to Avro. -/
def RowType.viaAvro (row : RowType) : RowType :=
  SqlType.fieldsViaAvro row

namespace Avro

/-- The schema of a type and the optional one have the same type. -/
theorem toSqlType_asOptional (s : Schema) : s.asOptional.toSqlType = s.toSqlType := by
  cases s with
  | mk kind optional name parameters fields key value =>
    cases kind <;> cases key <;> cases value <;> rfl

/-- The schema of a decimal that comes from Avro. -/
def decimalViaAvro (precision scale : Int) : Schema :=
  ((Schema.leaf .bytes).withName decimalLogicalName).withParameter scaleKey (toString scale)
    |>.withParameter converterPrecisionKey (toString precision)

theorem int64?_integer {n : Int} (h : IsInt32 n) : (Value.integer n).int64? = some n := by
  have fits : IsInt64 n := by
    unfold IsInt32 int32Least int32Greatest at h
    unfold IsInt64 int64Least int64Greatest
    omega
  exact if_pos fits

theorem convert_decimal {precision scale : Int} (fitsPrecision : IsInt32 precision)
    (fitsScale : IsInt32 scale) (ns : Option String) :
    convert (decimal precision scale) ns = pure (decimalViaAvro precision scale) := by
  have bytes : bytesOf [("logicalType", .string "decimal"),
      ("precision", Value.integer precision), ("scale", Value.integer scale),
      ("type", .string "bytes")] = decimalViaAvro precision scale := by
    simp [bytesOf, List.lookup_cons, int64?_integer fitsPrecision, int64?_integer fitsScale,
      Value.string?, decimalViaAvro]
  rw [decimal, convert]
  exact congrArg pure bytes

theorem spells_decimalViaAvro {precision scale : Int} :
    (decimalViaAvro precision scale).Spells precision scale :=
  ⟨rfl, rfl⟩

theorem toSqlType_decimalViaAvro {precision scale : Int}
    (valid : (Primitive.decimal precision scale).WellFormed) :
    (decimalViaAvro precision scale).toSqlType = .ok (.primitive (.decimal precision scale)) := by
  show (decimalViaAvro precision scale).toDecimalType.map SqlType.primitive = _
  rw [spells_decimalViaAvro.toDecimalType_eq valid]
  rfl

/-- Converting a primitive form defines nothing, and what comes of it has the type. -/
theorem exists_convert_primitiveForm {p : Primitive} (valid : p.WellFormed) :
    ∃ s, (∀ ns, convert (primitiveForm p) ns = pure s) ∧ s.toSqlType = .ok (.primitive p) := by
  cases p with
  | decimal precision scale =>
    exact ⟨_, convert_decimal valid.2.1 valid.2.2, toSqlType_decimalViaAvro valid⟩
  | _ => exact ⟨_, fun _ => rfl, rfl⟩

/-- A form is not the name of the null type. -/
theorem form_isString_null {t : SqlType} {name outer : String} :
    (form t name outer).isString "null" = false := by
  cases t with
  | primitive p => cases p <;> rfl
  | _ => rfl

/-- What is to be shown of a type: converting its form defines the names of its records, and the
schema that comes of it has the type that should come back. -/
def ComesBack (t : SqlType) : Prop :=
  ∀ name outer, '.' ∉ name.toList → outer ≠ "" →
    ∃ s, (∀ ns, Defines (convert (form t name outer) ns) (recordNames t name outer) s) ∧
      s.toSqlType = .ok t.viaAvro

/-- A type that comes back does so beside the null type. -/
theorem ComesBack.nullable {t : SqlType} (h : ComesBack t) {name outer : String}
    (noDot : '.' ∉ name.toList) (nonempty : outer ≠ "") :
    ∃ s, (∀ ns, Defines (convert (nullable (form t name outer)) ns) (recordNames t name outer) s) ∧
      s.toSqlType = .ok t.viaAvro := by
  obtain ⟨s, defines, type⟩ := h name outer noDot nonempty
  -- the union makes the schema optional, which its type does not show
  refine ⟨s.asOptional, fun ns => ?_, (toSqlType_asOptional s).trans type⟩
  rw [convert_nullable form_isString_null]
  exact (defines ns).map Schema.asOptional

/-- Fields whose types come back do so in their order. -/
theorem exists_defines_fields {fields : RowType} (types : ∀ f ∈ fields, ComesBack f.2)
    {inner : String} (nonempty : inner ≠ "") :
    ∃ schemas, (∀ ns, Defines (convertFields (fieldForms fields inner) ns)
        (fieldRecordNames fields inner) schemas) ∧
      Schema.fieldsToSqlTypes schemas = SqlType.fieldsViaAvro fields := by
  -- by the fields, each of which adds its records after those before it
  induction fields with
  | nil =>
    refine ⟨[], fun ns => ?_, rfl⟩
    rw [fieldForms, convertFields]
    exact .pure []
  | cons f rest ih =>
    obtain ⟨name, type⟩ := f
    rw [List.forall_mem_cons] at types
    -- the form of the field is named after its cleaned name
    have noDot : '.' ∉ (cleanName name).toList := dot_notMem_cleanName
    obtain ⟨s, defines, hs⟩ := types.1.nullable noDot nonempty
    obtain ⟨schemas, definesRest, hschemas⟩ := ih types.2
    refine ⟨(cleanName name, s) :: schemas, fun ns => ?_, ?_⟩
    · rw [fieldForms, fieldRecordNames, convertFields, convertField_field]
      exact ((defines ns).map fun s => (cleanName name, s)).bind
        ((definesRest ns).map fun schemas => (cleanName name, s) :: schemas)
    · rw [Schema.fieldsToSqlTypes, hs, hschemas]
      rfl

/-- Every well-formed type comes back. -/
theorem comesBack {t : SqlType} (valid : t.WellFormed) : ComesBack t := by
  -- by the shape of the type
  induction t using SqlType.shapeRec with
  | primitive p =>
    intro name outer _ _
    rw [SqlType.wellFormed_primitive] at valid
    obtain ⟨s, converted, type⟩ := exists_convert_primitiveForm valid
    refine ⟨s, fun ns => ?_, type⟩
    rw [form, converted]
    exact .pure s
  | array element ih =>
    intro name outer noDot nonempty
    obtain ⟨s, defines, type⟩ := (ih (SqlType.wellFormed_array.mp valid)).nullable noDot nonempty
    refine ⟨Schema.array s, fun ns => ?_, ?_⟩
    · rw [form, convert_array]
      -- the names are those of the element, and arrays define none
      exact (defines ns).map Schema.array
    · change s.toSqlType.map SqlType.array = _
      rw [type]
      rfl
  | map key value ih =>
    intro name outer noDot nonempty
    obtain ⟨s, defines, type⟩ :=
      (ih (SqlType.wellFormed_map.mp valid).2).nullable noDot nonempty
    -- the key comes back as a string, whatever it was
    refine ⟨Schema.map (Schema.leaf .string) s, fun ns => ?_, ?_⟩
    · rw [form, convert_map]
      exact (defines ns).map (Schema.map (Schema.leaf .string))
    · exact bind_eq_ok_iff.mpr ⟨.string, rfl, bind_eq_ok_iff.mpr ⟨_, type, rfl⟩⟩
  | struct fields ih =>
    intro name outer noDot nonempty
    rw [SqlType.wellFormed_struct] at valid
    -- the fields come back beneath the full name of the record, which is not empty
    obtain ⟨schemas, defines, types⟩ :=
      exists_defines_fields (fun f hf => ih f hf (valid f hf)) joinName_ne_empty
    refine ⟨(Schema.struct schemas).withName (joinName outer name), ?_, ?_⟩
    · exact defines_record noDot nonempty defines
    · exact congrArg (fun row => Except.ok (SqlType.struct row)) types

/-- A whole schema starts with no names at all. -/
theorem fresh_empty_iff {fulls : List String} : Fresh {} fulls ↔ fulls.Nodup :=
  and_iff_left fun _ _ h => by simp [Names.knows] at h

/-- What is generated for a row type reads back as what should come back of it exactly when no two
fields of one struct have records under the same cleaned name; otherwise it is a duplicate
definition. -/
theorem generateRow_comes_back_iff {row : RowType} (valid : (SqlType.struct row).WellFormed)
    (name : String) : ∃ v, generateRow row name = .ok v ∧
      ((∃ s, toSchema v = .ok s ∧ s.toRowType = .ok row.viaAvro) ↔
        RecordsApart SqlType.hasRecord (SqlType.struct row).structs) ∧
      (¬RecordsApart SqlType.hasRecord (SqlType.struct row).structs →
        ∃ full, toSchema v = .error (.invalid (.duplicate full))) := by
  refine ⟨_, generateRow_eq valid name, ?_⟩
  obtain ⟨s, defines, type⟩ :=
    comesBack valid (cleanName name) defaultNamespace dot_notMem_cleanName (by decide)
  -- the form defines its records once, or fails at the first that comes twice
  have succeeds := (defines none).succeeds {}
  have fails := (defines none).fails {}
  rw [fresh_empty_iff, nodup_recordNames_iff] at succeeds fails
  have failed (clash : ¬RecordsApart SqlType.hasRecord (SqlType.struct row).structs) :
      ∃ full, toSchema (form (.struct row) (cleanName name) defaultNamespace) =
        .error (.invalid (.duplicate full)) := by
    obtain ⟨full, h⟩ := fails clash
    exact ⟨full, map_eq_error_iff.mpr h⟩
  -- the conversion is the one step from no names at all
  refine ⟨⟨?_, ?_⟩, failed⟩
  · rintro ⟨s', hs', -⟩
    by_contra clash
    obtain ⟨full, h⟩ := failed clash
    cases hs'.symm.trans h
  · intro apart
    -- all fields have types, so none is left out
    obtain ⟨names', h, -⟩ := succeeds apart
    refine ⟨s, map_eq_ok_iff.mpr ⟨_, h, rfl⟩, ?_⟩
    rw [Schema.toRowType, type]
    rfl

/-- Two fields of one cleaned name are apart while one of them has no record; the row type comes
back then, and is a duplicate definition once both have one. -/
theorem generateRow_comes_back_dashed :
    let row (other : SqlType) : RowType :=
      [("a.b", .struct [("x", .primitive (.decimal 4 2))]), ("a-b", .map .bigint other)]
    let plain := row (.primitive .integer)
    let nested := row (.array (.struct [("x", .primitive .double)]))
    (∃ v s, generateRow plain "t" = .ok v ∧ toSchema v = .ok s ∧
        s.toRowType = .ok plain.viaAvro) ∧
      ∃ v full, generateRow nested "t" = .ok v ∧
        toSchema v = .error (.invalid (.duplicate full)) := by
  intro row plain nested
  -- the type of the inner record does not matter to whether the row is well formed
  have valid (other : SqlType) (h : other.WellFormed) :
      (SqlType.struct (row other)).WellFormed := by
    simp [row, h, Primitive.WellFormed, ValidDecimalBounds, IsInt32, int32Least, int32Greatest]
  have validPlain : (SqlType.struct plain).WellFormed := valid _ (by simp [Primitive.WellFormed])
  have validNested : (SqlType.struct nested).WellFormed := valid _ (by simp [Primitive.WellFormed])
  obtain ⟨v, hv, back, -⟩ := generateRow_comes_back_iff validPlain "t"
  obtain ⟨w, hw, -, duplicate⟩ := generateRow_comes_back_iff validNested "t"
  obtain ⟨s, hs, hrow⟩ := back.mpr (by decide)
  obtain ⟨full, hfull⟩ := duplicate (by decide)
  exact ⟨⟨v, s, hv, hs, hrow⟩, w, full, hw, hfull⟩

end Avro

end Sluice
