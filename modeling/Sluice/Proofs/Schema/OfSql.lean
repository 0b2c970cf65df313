import Sluice.Proofs.Schema.LogicalDecimal
import Sluice.Schema.OfSql

/-!
# The schema of a type

The translation of a type into a schema can fail, but only at a decimal with bad bounds. Here the
schema is written down for every type, whether or not its decimals are valid, so that what holds of
it can be said without mention of failure. For well-formed types it is what the translation gives.

## Main definitions

* `SqlType.schema`, `RowType.schema`: the schema of a type, and of the records of a row type.

## Main statements

* `SqlType.toSchema_eq`, `RowType.toSchema_eq`: well-formed types are translated into it.
-/

namespace Sluice

/-- The schema of a primitive type. -/
def Primitive.schema : Primitive → Schema
  | .boolean => (Schema.leaf .boolean).asOptional
  | .integer => (Schema.leaf .int32).asOptional
  | .bigint => (Schema.leaf .int64).asOptional
  | .double => (Schema.leaf .float64).asOptional
  | .string => (Schema.leaf .string).asOptional
  | .decimal precision scale => decimalSchema precision scale

mutual

/-- The schema of a type. -/
def SqlType.schema : SqlType → Schema
  | .primitive p => p.schema
  | .array element => (Schema.array element.schema).asOptional
  | .map key value => (Schema.map key.schema value.schema).asOptional
  | .struct fields => (Schema.struct (SqlType.fieldSchemas fields)).asOptional

/-- The schemas of fields, under their own names. -/
def SqlType.fieldSchemas : List (String × SqlType) → List (String × Schema)
  | [] => []
  | (name, type) :: rest => (name, type.schema) :: SqlType.fieldSchemas rest

end

/-- The schema of the records of a row type; unlike that of a struct inside, it is required. -/
def RowType.schema (row : RowType) : Schema :=
  Schema.struct (SqlType.fieldSchemas row)

@[simp]
theorem SqlType.fieldSchemas_eq (fields : RowType) :
    fieldSchemas fields = fields.map fun f => (f.1, f.2.schema) := by
  induction fields with
  | nil => rfl
  | cons f rest ih => simp [fieldSchemas, ih]

/-! ## Translation -/

theorem Primitive.toSchema_eq {p : Primitive} (valid : p.WellFormed) :
    p.toSchema = .ok p.schema := by
  cases p with
  | decimal precision scale => exact decimal_eq_decimalSchema valid.1
  | _ => rfl

/-- Fields are translated when their types are. -/
theorem SqlType.fieldsToSchemas_eq {fields : RowType}
    (types : ∀ f ∈ fields, f.2.toSchema = .ok f.2.schema) :
    fieldsToSchemas fields = .ok (fieldSchemas fields) := by
  induction fields with
  | nil => rfl
  | cons f rest ih =>
    obtain ⟨name, type⟩ := f
    obtain ⟨first, others⟩ := List.forall_mem_cons.mp types
    exact bind_eq_ok_iff.mpr ⟨_, first, bind_eq_ok_iff.mpr ⟨_, ih others, rfl⟩⟩

/-- A well-formed type is translated into its schema. -/
theorem SqlType.toSchema_eq {t : SqlType} (valid : t.WellFormed) : t.toSchema = .ok t.schema := by
  -- by the shape of the type; only decimals could fail, and theirs are valid
  induction t using SqlType.shapeRec with
  | primitive p => exact Primitive.toSchema_eq (wellFormed_primitive.mp valid)
  | array element ih => exact bind_eq_ok_iff.mpr ⟨_, ih (wellFormed_array.mp valid), rfl⟩
  | map key value ih =>
    obtain ⟨validKey, validValue⟩ := wellFormed_map.mp valid
    exact bind_eq_ok_iff.mpr ⟨_, Primitive.toSchema_eq validKey,
      bind_eq_ok_iff.mpr ⟨_, ih validValue, rfl⟩⟩
  | struct fields ih =>
    rw [wellFormed_struct] at valid
    have types : ∀ f ∈ fields, f.2.toSchema = .ok f.2.schema := fun f hf => ih f hf (valid f hf)
    exact bind_eq_ok_iff.mpr ⟨_, fieldsToSchemas_eq types, rfl⟩

/-- A well-formed row type is translated into its schema. -/
theorem RowType.toSchema_eq {row : RowType} (valid : (SqlType.struct row).WellFormed) :
    row.toSchema = .ok row.schema := by
  rw [SqlType.wellFormed_struct] at valid
  have types : ∀ f ∈ row, f.2.toSchema = .ok f.2.schema :=
    fun f hf => SqlType.toSchema_eq (valid f hf)
  exact bind_eq_ok_iff.mpr ⟨_, SqlType.fieldsToSchemas_eq types, rfl⟩

end Sluice
