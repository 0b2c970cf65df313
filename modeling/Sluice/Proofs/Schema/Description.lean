import Sluice.Proofs.Schema.OfSql
import Sluice.Schema.Description

/-!
# The description of a type

A client that asks for the columns of a source is told about the schema that the types of the
columns are translated into. What it is told can be said of the types themselves: the tag of a
primitive type, with the precision and the scale of a decimal, the type of the elements of an array
or of the values of a map, and the fields of a struct. No schema of a type is of a kind that cannot
be described, so the only rows that cannot be described are those without columns.

## Main definitions

* `SqlType.description`: what is told about a type.
* `DescribedBy`, `FieldsDescribedBy`: the same as a relation, with a rule for each kind of type.

## Main statements

* `SqlType.describe_schema`: the schema of a type is described so.
* `RowType.describeColumns_schema`: the columns of a row are described one by one.
* `RowType.described_iff`: which well-formed rows are described, and how.
-/

namespace Sluice

open Number

/-- What is told about a primitive type. -/
def Primitive.description (p : Primitive) : Description :=
  .primitive p.tag ((p.parameters?.getD []).map toString)

mutual

/-- What is told about a type. -/
def SqlType.description : SqlType → Description
  | .primitive p => p.description
  | .array element => .array element.description
  | .map _ value => .map value.description
  | .struct fields => .struct (SqlType.fieldDescriptions fields)

/-- What is told about fields, under their own names. -/
def SqlType.fieldDescriptions : List (String × SqlType) → List (String × Description)
  | [] => []
  | (name, type) :: rest => (name, type.description) :: SqlType.fieldDescriptions rest

end

@[simp]
theorem SqlType.fieldDescriptions_eq (fields : RowType) :
    fieldDescriptions fields = fields.map fun f => (f.1, f.2.description) := by
  induction fields with
  | nil => rfl
  | cons f rest ih => simp [fieldDescriptions, ih]

/-- The schema of a primitive type is described by its tag and its parameters. -/
theorem Primitive.describe_schema (p : Primitive) : p.schema.describe = .ok p.description := by
  -- for a decimal, the schema has the precision and the scale for parameters, in this order
  cases p <;> rfl

/-- Fields are described when their schemas are. -/
theorem SqlType.describeFields_fieldSchemas {fields : RowType}
    (types : ∀ f ∈ fields, f.2.schema.describe = .ok f.2.description) :
    Schema.describeFields (fieldSchemas fields) = .ok (fieldDescriptions fields) := by
  induction fields with
  | nil => rfl
  | cons f rest ih =>
    obtain ⟨name, type⟩ := f
    obtain ⟨first, others⟩ := List.forall_mem_cons.mp types
    exact bind_eq_ok_iff.mpr ⟨_, first, bind_eq_ok_iff.mpr ⟨_, ih others, rfl⟩⟩

/-- The schema of a type is described as the type says. -/
theorem SqlType.describe_schema (t : SqlType) : t.schema.describe = .ok t.description := by
  induction t using SqlType.shapeRec with
  | primitive p => exact p.describe_schema
  | array element ih => exact map_eq_ok_iff.mpr ⟨_, ih, rfl⟩
  | map key value ih => exact map_eq_ok_iff.mpr ⟨_, ih, rfl⟩
  | struct fields ih => exact map_eq_ok_iff.mpr ⟨_, describeFields_fieldSchemas ih, rfl⟩

/-- The columns of a row are described one by one, under their own names and in order, unless there
are none. -/
theorem RowType.describeColumns_schema (row : RowType) :
    row.schema.describeColumns =
      if row = [] then .error (.noFields row.schema)
      else .ok (row.map fun f => (f.1, f.2.description)) := by
  have described : row.schema.describe = .ok (.struct (SqlType.fieldDescriptions row)) := by
    apply map_eq_ok_iff.mpr
    exact ⟨_, SqlType.describeFields_fieldSchemas fun f _ => f.2.describe_schema, rfl⟩
  rw [Schema.describeColumns, described]
  cases row with
  | nil => rfl
  | cons column rest => simp [bind, Except.bind, pure, Except.pure]

/-! ## Rules -/

mutual

/-- The descriptions of types. -/
inductive DescribedBy : SqlType → Description → Prop where
  /-- a tag alone -/
  | plain {p : Primitive} (unbounded : p.tag ≠ .decimal) :
      DescribedBy (.primitive p) (.primitive p.tag [])
  /-- the precision before the scale -/
  | decimal (precision scale : Int) :
      DescribedBy (.primitive (.decimal precision scale))
        (.primitive .decimal [toString precision, toString scale])
  | array {element : SqlType} {member : Description} (described : DescribedBy element member) :
      DescribedBy (.array element) (.array member)
  /-- nothing is told about the keys -/
  | map {key : Primitive} {value : SqlType} {member : Description}
      (described : DescribedBy value member) : DescribedBy (.map key value) (.map member)
  | struct {fields : RowType} {members : List (String × Description)}
      (described : FieldsDescribedBy fields members) : DescribedBy (.struct fields) (.struct members)

/-- The descriptions of fields, in order and under their own names. -/
inductive FieldsDescribedBy : RowType → List (String × Description) → Prop where
  | nil : FieldsDescribedBy [] []
  | cons {name : String} {type : SqlType} {member : Description} {fields : RowType}
      {members : List (String × Description)} (described : DescribedBy type member)
      (others : FieldsDescribedBy fields members) :
      FieldsDescribedBy ((name, type) :: fields) ((name, member) :: members)

end

theorem FieldsDescribedBy.of_types {fields : RowType}
    (types : ∀ f ∈ fields, DescribedBy f.2 f.2.description) :
    FieldsDescribedBy fields (SqlType.fieldDescriptions fields) := by
  induction fields with
  | nil => exact .nil
  | cons f rest ih =>
    obtain ⟨name, type⟩ := f
    obtain ⟨first, others⟩ := List.forall_mem_cons.mp types
    exact .cons first (ih others)

/-- The rules describe every type. -/
theorem SqlType.describedBy_description (t : SqlType) : DescribedBy t t.description := by
  induction t using SqlType.shapeRec with
  | primitive p =>
    cases p with
    | decimal precision scale => exact .decimal precision scale
    | _ => exact .plain TypeTag.noConfusion
  | array element ih => exact .array ih
  | map key value ih => exact .map ih
  | struct fields ih => exact .struct (.of_types ih)

mutual

/-- The rules describe a type in one way. -/
theorem DescribedBy.eq_description {t : SqlType} {d : Description} :
    DescribedBy t d → d = t.description
  | .plain (p := p) unbounded => by
    cases p with
    | decimal precision scale => exact absurd rfl unbounded
    | _ => rfl
  | .decimal precision scale => rfl
  | .array described => congrArg Description.array described.eq_description
  | .map described => congrArg Description.map described.eq_description
  | .struct described => congrArg Description.struct described.eq_fieldDescriptions

/-- The rules describe fields in one way. -/
theorem FieldsDescribedBy.eq_fieldDescriptions {fields : RowType}
    {members : List (String × Description)} :
    FieldsDescribedBy fields members → members = SqlType.fieldDescriptions fields
  | .nil => rfl
  | .cons described others => by
    rw [described.eq_description, others.eq_fieldDescriptions]
    rfl

end

/-- Fields are described one by one. -/
theorem fieldsDescribedBy_iff {fields : RowType} {members : List (String × Description)} :
    FieldsDescribedBy fields members ↔ members = fields.map fun f => (f.1, f.2.description) := by
  rw [← SqlType.fieldDescriptions_eq]
  constructor
  · exact FieldsDescribedBy.eq_fieldDescriptions
  · rintro rfl
    exact .of_types fun f _ => f.2.describedBy_description

/-- A well-formed row is translated into a schema, which is described field by field, as the rules
say. The one failure is that of a row without fields; no field ever has a kind that cannot be
described. -/
theorem RowType.described_iff {row : RowType} (valid : (SqlType.struct row).WellFormed) :
    ∃ schema, row.toSchema = .ok schema ∧
      (∀ e, schema.describeColumns = .error e ↔ row = [] ∧ e = .noFields schema) ∧
      ∀ columns, schema.describeColumns = .ok columns ↔
        row ≠ [] ∧ FieldsDescribedBy row columns := by
  refine ⟨row.schema, RowType.toSchema_eq valid, ?_⟩
  rw [RowType.describeColumns_schema]
  -- the rule for no columns is asked about first, and fields are described in any case
  by_cases columnless : row = []
  · rw [if_pos columnless]
    simp [columnless, eq_comm]
  · rw [if_neg columnless]
    simp [columnless, fieldsDescribedBy_iff, eq_comm]

/-- The description of a row with decimals among its values and keys, and a struct without fields
inside. -/
theorem RowType.described_iff_nested :
    let row : RowType := [("PRICE", .primitive (.decimal 6 2)),
      ("LINES", .array (.struct [("SKU", .primitive .string), ("NOTES", .struct [])])),
      ("RATES", .map (.decimal 3 1) (.primitive .double))]
    (SqlType.struct row).WellFormed ∧
      ∃ schema, row.toSchema = .ok schema ∧
        schema.describeColumns = .ok [("PRICE", .primitive .decimal ["6", "2"]),
          ("LINES", .array (.struct [("SKU", .primitive .string []), ("NOTES", .struct [])])),
          ("RATES", .map (.primitive .double []))] := by
  intro row
  have valid : (SqlType.struct row).WellFormed := by
    simp [row, Primitive.WellFormed, ValidDecimalBounds, IsInt32, int32Least, int32Greatest]
  obtain ⟨schema, translated, -, described⟩ := RowType.described_iff valid
  refine ⟨valid, schema, translated, (described _).mpr ⟨List.cons_ne_nil _ _, ?_⟩⟩
  exact fieldsDescribedBy_iff.mpr rfl

end Sluice
