import Sluice.Proofs.SqlType.Tagged
import Sluice.Schema.OfSql
import Sluice.Schema.Tagged
import Sluice.Schema.ToSql

/-!
# Schemas and types as they are held

The type of a schema is held as it is made out, and what is held of a type has the schema of the
type. So a schema fails for nothing but the bounds of decimals: no parameter is missing where it is
looked up, and no tag is met that no primitive type has.

## Main statements

* `Schema.toTaggedType_eq`, `Schema.toTaggedRow_eq`, `Avro.readTaggedRow_eq`: types of schemas.
* `SqlType.toSchema_tagged`, `RowType.toSchema_tagged`: schemas of types.
-/

namespace Sluice

/-! ## From schemas -/

namespace Schema

theorem toTaggedDecimal_eq (s : Schema) :
    s.toTaggedDecimal = s.toDecimalType.map Primitive.tagged := by
  -- both go through the same texts, and differ only in how they make the decimal of the bounds
  unfold toTaggedDecimal toDecimalType
  dsimp only
  cases s.parameters.isNone with
  | true => rfl
  | false =>
    cases s.scaleText? with
    | none => rfl
    | some scaleText =>
      dsimp only [Bool.false_eq_true, if_false]
      cases Text.readInt32? scaleText.toList with
      | none => rfl
      | some scale =>
        dsimp only
        cases s.precisionText? with
        | none =>
          dsimp only
          rw [TaggedPrimitive.ofBounds_eq]
          cases Primitive.ofBounds defaultPrecision scale <;> rfl
        | some precisionText =>
          dsimp only
          cases Text.readInt32? precisionText.toList with
          | none => rfl
          | some precision =>
            dsimp only
            rw [TaggedPrimitive.ofBounds_eq]
            cases Primitive.ofBounds precision scale <;> rfl

theorem toTaggedPrimitive_eq (s : Schema) :
    s.toTaggedPrimitive = s.toPrimitive.map Primitive.tagged := by
  unfold toTaggedPrimitive toPrimitive
  cases s.kind with
  | bytes =>
    dsimp only
    rw [toTaggedDecimal_eq]
    cases s.isDecimal <;> rfl
  | _ => rfl

theorem toTaggedKey_eq (s : Schema) : s.toTaggedKey = s.toKeyType.map Primitive.tagged := by
  unfold toTaggedKey toKeyType
  rw [toTaggedPrimitive_eq]
  cases s.mayBeKey <;> rfl

/-- A schema without schemas inside has the type of its primitive type. -/
theorem map_toTaggedPrimitive_eq (s : Schema) :
    s.toTaggedPrimitive.map TaggedType.primitive =
      (s.toPrimitive.map SqlType.primitive).map SqlType.tagged := by
  rw [toTaggedPrimitive_eq]
  cases s.toPrimitive <;> rfl

mutual

/-- The type of a schema is held as it is made out. -/
-- by the kind of the schema, in the order of its parts
theorem toTaggedType_eq : (s : Schema) → s.toTaggedType = s.toSqlType.map SqlType.tagged
  | ⟨.array, _, _, _, _, _, none⟩ => rfl
  | ⟨.array, _, _, _, _, _, some element⟩ => by
    rw [toTaggedType, toSqlType, toTaggedType_eq element]
    cases element.toSqlType <;> rfl
  | ⟨.map, _, _, _, _, none, _⟩ => rfl
  | ⟨.map, _, _, _, _, some _, none⟩ => rfl
  | ⟨.map, _, _, _, _, some key, some value⟩ => by
    rw [toTaggedType, toSqlType, toTaggedKey_eq, toTaggedType_eq value]
    cases key.toKeyType with
    | error e => rfl
    | ok key => cases value.toSqlType <;> rfl
  | ⟨.struct, _, _, _, fields, _, _⟩ => by
    rw [toTaggedType, toSqlType, fieldsToTaggedTypes_eq fields]
    rfl
  | ⟨.boolean, _, _, _, _, _, _⟩ | ⟨.string, _, _, _, _, _, _⟩ | ⟨.bytes, _, _, _, _, _, _⟩
  | ⟨.int8, _, _, _, _, _, _⟩ | ⟨.int16, _, _, _, _, _, _⟩ | ⟨.int32, _, _, _, _, _, _⟩
  | ⟨.int64, _, _, _, _, _, _⟩ | ⟨.float32, _, _, _, _, _, _⟩ | ⟨.float64, _, _, _, _, _, _⟩ =>
    map_toTaggedPrimitive_eq _

/-- The same fields are left out. -/
theorem fieldsToTaggedTypes_eq : (fields : List (String × Schema)) →
    fieldsToTaggedTypes fields = SqlType.fieldsTagged (fieldsToSqlTypes fields)
  | [] => rfl
  | (name, schema) :: rest => by
    rw [fieldsToTaggedTypes, fieldsToSqlTypes, toTaggedType_eq schema, fieldsToTaggedTypes_eq rest]
    cases schema.toSqlType <;> rfl

end

/-- The row type of a record is held as it is made out. -/
theorem toTaggedRow_eq (s : Schema) : s.toTaggedRow = s.toRowType.map SqlType.fieldsTagged := by
  unfold toTaggedRow toRowType
  rw [toTaggedType_eq]
  cases s.toSqlType with
  | error e => rfl
  | ok type => cases type <;> rfl

end Schema

/-- The row type of an Avro text is held as it is made out. -/
theorem Avro.readTaggedRow_eq (text : String) :
    readTaggedRow text = (readRowType text).map SqlType.fieldsTagged := by
  unfold readTaggedRow readRowType
  cases readSchema text with
  | error e => rfl
  | ok schema =>
    show (schema.toTaggedRow).mapError _ = (schema.toRowType.mapError _).map _
    rw [Schema.toTaggedRow_eq]
    cases schema.toRowType <;> rfl

/-! ## To schemas -/

/-- What is held of a primitive type has the schema of the type. -/
theorem Primitive.toSchema_tagged (p : Primitive) :
    p.tagged.toSchema = p.toSchema.mapError .decimal := by
  cases p <;> rfl

namespace SqlType

/-- What is held of the types of fields has their schemas, if each type has its own. -/
theorem fieldsToSchemas_tagged {fields : RowType}
    (types : ∀ f ∈ fields, f.2.tagged.toSchema = f.2.toSchema.mapError .decimal) :
    TaggedType.fieldsToSchemas (fieldsTagged fields) =
      (fieldsToSchemas fields).mapError .decimal := by
  -- by the fields, the first of which fails first
  induction fields with
  | nil => rfl
  | cons f rest ih =>
    obtain ⟨name, type⟩ := f
    obtain ⟨first, others⟩ := List.forall_mem_cons.mp types
    rw [fieldsTagged, TaggedType.fieldsToSchemas, fieldsToSchemas, first, ih others]
    cases type.toSchema with
    | error e => rfl
    | ok schema => cases fieldsToSchemas rest <;> rfl

/-- What is held of a type has the schema of the type. -/
theorem toSchema_tagged (t : SqlType) : t.tagged.toSchema = t.toSchema.mapError .decimal := by
  -- by the shape of the type; what is inside fails before what is around it
  induction t using shapeRec with
  | primitive p => exact p.toSchema_tagged
  | array element ih =>
    rw [tagged, TaggedType.toSchema, toSchema, ih]
    cases element.toSchema <;> rfl
  | map key value ih =>
    rw [tagged, TaggedType.toSchema, toSchema, key.toSchema_tagged, ih]
    cases key.toSchema with
    | error e => rfl
    | ok key => cases value.toSchema <;> rfl
  | struct fields ih =>
    rw [tagged, TaggedType.toSchema, toSchema, fieldsToSchemas_tagged ih]
    cases fieldsToSchemas fields <;> rfl

end SqlType

/-- What is held of a row type has the schema of the row type. -/
theorem RowType.toSchema_tagged (row : RowType) :
    TaggedRow.toSchema (SqlType.fieldsTagged row) = (RowType.toSchema row).mapError .decimal := by
  unfold TaggedRow.toSchema RowType.toSchema
  rw [SqlType.fieldsToSchemas_tagged fun f _ => f.2.toSchema_tagged]
  cases SqlType.fieldsToSchemas row <;> rfl

end Sluice
