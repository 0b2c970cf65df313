import Sluice.Avro.Generate
import Sluice.Proofs.Schema.OfSql

/-!
# The Avro form of a type

What is generated for a row type, written down from the type alone: the keys of maps leave no
trace, and everything else does. The records that are generated have full names that spell the way
to them, from the outermost record in.

## Main definitions

* `Avro.form`: the Avro form of a type.
* `Avro.recordNames`: the full names of the records in it.

## Main statements

* `Avro.generateRow_eq`: what is generated for a well-formed row type.
-/

namespace Sluice.Avro

open Json

/-! ## Forms -/

/-- The Avro form of a primitive type. -/
def primitiveForm : Primitive → Value
  | .boolean => .string "boolean"
  | .integer => .string "int"
  | .bigint => .string "long"
  | .double => .string "double"
  | .string => .string "string"
  | .decimal precision scale => decimal precision scale

mutual

/-- The Avro form of a type; a record in it is called `name` and lives in the namespace `outer`. -/
def form : SqlType → (name outer : String) → Value
  | .primitive p, _, _ => primitiveForm p
  | .array element, name, outer => array (form element name outer)
  | .map _ value, name, outer => map (form value name outer)
  | .struct fields, name, outer => record name outer (fieldForms fields (joinName outer name))

/-- The fields of a record whose nested records live in the namespace `inner`. -/
def fieldForms : List (String × SqlType) → (inner : String) → List Value
  | [], _ => []
  | (fieldName, type) :: rest, inner =>
    field (cleanName fieldName) (form type (cleanName fieldName) inner) :: fieldForms rest inner

end

/-- The members of a generated record. -/
def recordMembers (name outer : String) (fields : List Value) : List (String × Value) :=
  [("fields", .array fields), ("name", .string name), ("namespace", .string outer),
    ("type", .string "record")]

mutual

/-- The full names of the records in the form of a type, each before those inside it. -/
def recordNames : SqlType → (name outer : String) → List String
  | .primitive _, _, _ => []
  | .array element, name, outer => recordNames element name outer
  | .map _ value, name, outer => recordNames value name outer
  | .struct fields, name, outer =>
    joinName outer name :: fieldRecordNames fields (joinName outer name)

/-- The full names of the records in the forms of fields. -/
def fieldRecordNames : List (String × SqlType) → (inner : String) → List String
  | [], _ => []
  | (fieldName, type) :: rest, inner =>
    recordNames type (cleanName fieldName) inner ++ fieldRecordNames rest inner

end

@[simp]
theorem fieldForms_eq (fields : RowType) (inner : String) :
    fieldForms fields inner =
      fields.map fun f => field (cleanName f.1) (form f.2 (cleanName f.1) inner) := by
  induction fields with
  | nil => rfl
  | cons f rest ih => simp [fieldForms, ih]

@[simp]
theorem fieldRecordNames_eq (fields : RowType) (inner : String) :
    fieldRecordNames fields inner =
      fields.flatMap fun f => recordNames f.2 (cleanName f.1) inner := by
  induction fields with
  | nil => rfl
  | cons f rest ih => simp [fieldRecordNames, ih]

/-! ## What is generated -/

/-- What is generated for a schema that spells out the bounds of a decimal type. -/
theorem decimalOf_eq {s : Schema} {precision scale : Int} (h : s.Spells precision scale)
    (valid : (Primitive.decimal precision scale).WellFormed) :
    decimalOf s = .ok (decimal precision scale) := by
  obtain ⟨bounds, fitsPrecision, fitsScale⟩ := valid
  rw [decimalOf, h.precision?_eq fitsPrecision, h.scale?_eq fitsScale]
  dsimp only
  rw [checkDecimalBounds_eq_ok_iff.mpr bounds]
  rfl

/-- What is generated for the schema of a primitive type is its form. -/
theorem typeOf_schema_primitive {p : Primitive} (valid : p.WellFormed) (name outer : String) :
    typeOf p.schema name outer = .ok (primitiveForm p) := by
  cases p with
  | decimal precision scale => exact decimalOf_eq Schema.spells_decimalSchema valid
  | _ => rfl

/-- What is generated for the schemas of fields are the forms of the fields. -/
theorem fieldsOf_fieldSchemas {fields : RowType} {inner : String}
    (types : ∀ f ∈ fields, ∀ name outer,
      typeOf f.2.schema name outer = .ok (form f.2 name outer)) :
    fieldsOf (SqlType.fieldSchemas fields) inner = .ok (fieldForms fields inner) := by
  induction fields with
  | nil => rfl
  | cons f rest ih =>
    obtain ⟨name, type⟩ := f
    obtain ⟨first, others⟩ := List.forall_mem_cons.mp types
    rw [SqlType.fieldSchemas, fieldsOf, fieldForms]
    exact bind_eq_ok_iff.mpr ⟨_, first _ _, bind_eq_ok_iff.mpr ⟨_, ih others, rfl⟩⟩

/-- What is generated for the schema of a well-formed type is its form. -/
theorem typeOf_schema {t : SqlType} (valid : t.WellFormed) (name outer : String) :
    typeOf t.schema name outer = .ok (form t name outer) := by
  -- by the shape of the type, under any name
  induction t using SqlType.shapeRec generalizing name outer with
  | primitive p => exact typeOf_schema_primitive (SqlType.wellFormed_primitive.mp valid) name outer
  | array element ih =>
    show (typeOf element.schema name outer).map array = _
    rw [ih (SqlType.wellFormed_array.mp valid)]
    rfl
  | map key value ih =>
    -- nothing is generated of the key
    show (typeOf value.schema name outer).map map = _
    rw [ih (SqlType.wellFormed_map.mp valid).2]
    rfl
  | struct fields ih =>
    -- the record of a struct is named beneath the name that it is given
    rw [SqlType.wellFormed_struct] at valid
    show (fieldsOf (SqlType.fieldSchemas fields) (joinName outer name)).map (record name outer) = _
    rw [fieldsOf_fieldSchemas fun f hf => ih f hf (valid f hf)]
    rfl

/-- What is generated for a well-formed row type is its form under the name given. -/
theorem generateRow_eq {row : RowType} (valid : (SqlType.struct row).WellFormed) (name : String) :
    generateRow row name = .ok (form (.struct row) (cleanName name) defaultNamespace) := by
  have schema : row.toSchema.mapError Error.decimal = .ok row.schema :=
    mapError_eq_ok_iff.mpr (RowType.toSchema_eq valid)
  refine bind_eq_ok_iff.mpr ⟨row.schema, schema, ?_⟩
  -- whether the schema is optional makes no difference to what is generated
  exact typeOf_schema valid (cleanName name) defaultNamespace

end Sluice.Avro
