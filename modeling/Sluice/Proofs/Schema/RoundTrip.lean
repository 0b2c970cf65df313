import Mathlib.Data.List.Basic
import Sluice.Proofs.Schema.OfSql

/-!
# Row types on the way to schemas and back

The schema of a row type is read back as a row type. Everything comes back as it was but the names
of fields, which come back in upper case. The one thing in the way are maps whose keys are doubles:
they have schemas, but no type comes back for those. The nearest field around such a map is then
left out, so that the row that comes back is a smaller one.

## Main definitions

* `SqlType.uppercased`, `RowType.uppercased`: types with all names of fields in upper case.
* `SqlType.mapKeys`: the types of the keys of maps, at every depth.

## Main statements

* `SqlType.toSqlType_schema_iff`: when a type comes back from its schema.
* `RowType.comes_back_iff`: the same of a row type.
-/

namespace Sluice

open Text

/-! ## Names and keys in a type -/

mutual

/-- The type with the names of all fields, at every depth, in upper case. -/
def SqlType.uppercased : SqlType → SqlType
  | .primitive p => .primitive p
  | .array element => .array element.uppercased
  | .map key value => .map key value.uppercased
  | .struct fields => .struct (SqlType.uppercasedFields fields)

/-- The fields with all names in upper case. -/
def SqlType.uppercasedFields : List (String × SqlType) → List (String × SqlType)
  | [] => []
  | (name, type) :: rest => (uppercase name, type.uppercased) :: SqlType.uppercasedFields rest

end

/-- The row type with the names of all fields, at every depth, in upper case. -/
def RowType.uppercased (row : RowType) : RowType :=
  SqlType.uppercasedFields row

mutual

/-- The types of the keys of maps in a type, at every depth. -/
def SqlType.mapKeys : SqlType → List Primitive
  | .primitive _ => []
  | .array element => element.mapKeys
  | .map key value => key :: value.mapKeys
  | .struct fields => SqlType.mapKeysOfFields fields

/-- The types of the keys of maps in the types of fields. -/
def SqlType.mapKeysOfFields : List (String × SqlType) → List Primitive
  | [] => []
  | (_, type) :: rest => type.mapKeys ++ SqlType.mapKeysOfFields rest

end

namespace SqlType

@[simp]
theorem uppercasedFields_eq (fields : RowType) :
    uppercasedFields fields = fields.map fun f => (uppercase f.1, f.2.uppercased) := by
  induction fields with
  | nil => rfl
  | cons f rest ih => simp [uppercasedFields, ih]

@[simp]
theorem mapKeysOfFields_eq (fields : RowType) :
    mapKeysOfFields fields = fields.flatMap (·.2.mapKeys) := by
  induction fields with
  | nil => rfl
  | cons f rest ih => simp [mapKeysOfFields, ih]

variable {p : Primitive}

theorem notMem_mapKeys_primitive {q : Primitive} : p ∉ (primitive q).mapKeys := by
  simp [mapKeys]

theorem mapKeys_array {element : SqlType} : (array element).mapKeys = element.mapKeys :=
  rfl

theorem notMem_mapKeys_map {key : Primitive} {value : SqlType} :
    p ∉ (map key value).mapKeys ↔ key ≠ p ∧ p ∉ value.mapKeys := by
  simp [mapKeys, eq_comm]

theorem notMem_mapKeys_struct {fields : RowType} :
    p ∉ (struct fields).mapKeys ↔ ∀ f ∈ fields, p ∉ f.2.mapKeys := by
  simp [mapKeys]

end SqlType

/-! ## Types of schemas -/

/-- The fields that come of the schemas of fields are those whose schemas have types. -/
theorem Schema.fieldsToSqlTypes_eq (fields : List (String × Schema)) :
    fieldsToSqlTypes fields =
      fields.filterMap fun f => f.2.toSqlType.toOption.map fun type => (uppercase f.1, type) := by
  induction fields with
  | nil => rfl
  | cons f rest ih =>
    rw [fieldsToSqlTypes, List.filterMap_cons]
    cases h : f.2.toSqlType with
    | ok type => simp [Except.toOption, ih]
    | error e => simp [Except.toOption, ih]

/-- A primitive type comes back from its schema. -/
theorem Primitive.toPrimitive_schema {p : Primitive} (valid : p.WellFormed) :
    p.schema.toPrimitive = .ok p := by
  cases p with
  | decimal precision scale => exact Schema.spells_decimalSchema.toDecimalType_eq valid
  | _ => rfl

theorem Primitive.mayBeKey_schema {p : Primitive} : p.schema.mayBeKey = true ↔ p ≠ .double := by
  cases p with
  | decimal precision scale => exact iff_of_true rfl (by simp)
  | double => exact iff_of_false (by decide) (by simp)
  | _ => exact iff_of_true rfl (by simp)

/-- A primitive type comes back as the type of keys unless it is the type of doubles. -/
theorem Primitive.toKeyType_schema_iff {p : Primitive} (valid : p.WellFormed) :
    p.schema.toKeyType = .ok p ↔ p ≠ .double := by
  rw [Schema.toKeyType, ← mayBeKey_schema, toPrimitive_schema valid]
  split
  · rename_i may
    exact iff_of_true rfl may
  · rename_i mayNot
    exact iff_of_false (by simp) mayNot

/-- All fields come back from their schemas when each does. -/
theorem SqlType.fieldsToSqlTypes_fieldSchemas_iff {fields : RowType} :
    Schema.fieldsToSqlTypes (fieldSchemas fields) = uppercasedFields fields ↔
      ∀ f ∈ fields, f.2.schema.toSqlType = .ok f.2.uppercased := by
  rw [Schema.fieldsToSqlTypes_eq, fieldSchemas_eq, uppercasedFields_eq, List.filterMap_map,
    List.filterMap_eq_map_iff_forall_eq_some]
  simp [toOption_eq_some_iff]

/-- A type comes back from its schema, with all names in upper case, exactly when no map in it has
doubles for keys. -/
theorem SqlType.toSqlType_schema_iff {t : SqlType} (valid : t.WellFormed) :
    t.schema.toSqlType = .ok t.uppercased ↔ Primitive.double ∉ t.mapKeys := by
  -- by the shape of the type; the names in upper case do not matter to what comes back
  induction t using SqlType.shapeRec with
  | primitive p =>
    -- a primitive type comes back from its schema, whatever it is
    have back := Primitive.toPrimitive_schema (wellFormed_primitive.mp valid)
    have leaf : (primitive p).schema.toSqlType = p.schema.toPrimitive.map .primitive := by
      cases p <;> rfl
    rw [leaf, back]
    exact iff_of_true rfl notMem_mapKeys_primitive
  | array element ih =>
    rw [mapKeys_array, ← ih (wellFormed_array.mp valid)]
    show element.schema.toSqlType.map SqlType.array = .ok (.array element.uppercased) ↔ _
    simp [map_eq_ok_iff]
  | map key value ih =>
    obtain ⟨validKey, validValue⟩ := wellFormed_map.mp valid
    -- the key has to come back, and so has the value
    rw [notMem_mapKeys_map, ← ih validValue, ← Primitive.toKeyType_schema_iff validKey]
    show (do
      let key ← key.schema.toKeyType
      return SqlType.map key (← value.schema.toSqlType)) = .ok (.map key value.uppercased) ↔ _
    constructor
    · intro h
      obtain ⟨k, hk, h⟩ := bind_eq_ok_iff.mp h
      obtain ⟨v, hv, h⟩ := bind_eq_ok_iff.mp h
      obtain ⟨rfl, rfl⟩ := SqlType.map.inj (Except.ok.inj h)
      exact ⟨hk, hv⟩
    · rintro ⟨hk, hv⟩
      exact bind_eq_ok_iff.mpr ⟨_, hk, bind_eq_ok_iff.mpr ⟨_, hv, rfl⟩⟩
  | struct fields ih =>
    rw [wellFormed_struct] at valid
    -- a struct has a type in any case, but with fewer fields unless each of them comes back
    show Except.ok (SqlType.struct (Schema.fieldsToSqlTypes (fieldSchemas fields))) =
      .ok (.struct (uppercasedFields fields)) ↔ _
    rw [Except.ok.injEq, SqlType.struct.injEq, fieldsToSqlTypes_fieldSchemas_iff,
      notMem_mapKeys_struct]
    exact forall₂_congr fun f hf => ih f hf (valid f hf)

/-! ## Row types -/

/-- A well-formed row type has a schema, and comes back from it with all names in upper case exactly
when no map in it has doubles for keys. -/
theorem RowType.comes_back_iff {row : RowType} (valid : (SqlType.struct row).WellFormed) :
    ∃ s, row.toSchema = .ok s ∧
      (s.toRowType = .ok row.uppercased ↔ Primitive.double ∉ (SqlType.struct row).mapKeys) := by
  refine ⟨row.schema, toSchema_eq valid, ?_⟩
  rw [← SqlType.toSqlType_schema_iff valid]
  show Except.ok (Schema.fieldsToSqlTypes (SqlType.fieldSchemas row)) = .ok row.uppercased ↔
    Except.ok (SqlType.struct (Schema.fieldsToSqlTypes (SqlType.fieldSchemas row))) =
      .ok (SqlType.struct row.uppercased)
  simp only [Except.ok.injEq, SqlType.struct.injEq]

/-- A map from decimals comes back, below an array and with a struct for its values; the same map
from doubles does not. -/
theorem RowType.comes_back_keyed :
    let row (key : Primitive) : RowType :=
      [("total", .primitive (.decimal 4 2)),
        ("rates", .array (.map key (.struct [("n", .primitive .double)])))]
    (∃ s, (row (.decimal 9 0)).toSchema = .ok s ∧
        s.toRowType = .ok (row (.decimal 9 0)).uppercased) ∧
      ∃ s, (row .double).toSchema = .ok s ∧ s.toRowType ≠ .ok (row .double).uppercased := by
  intro row
  have validTotal : (Primitive.decimal 4 2).WellFormed :=
    ⟨⟨by decide, by decide, by decide⟩, by decide, by decide⟩
  have validKey : (Primitive.decimal 9 0).WellFormed :=
    ⟨⟨by decide, by decide, by decide⟩, by decide, by decide⟩
  have validDouble : Primitive.double.WellFormed := trivial
  have valid (key : Primitive) (h : key.WellFormed) : (SqlType.struct (row key)).WellFormed := by
    simp [row, h, validTotal, validDouble]
  obtain ⟨s, hs, back⟩ := comes_back_iff (valid _ validKey)
  obtain ⟨s', hs', back'⟩ := comes_back_iff (valid _ validDouble)
  refine ⟨⟨s, hs, back.mpr (by decide)⟩, s', hs', fun h => ?_⟩
  exact absurd (back'.mp h) (by decide)

end Sluice
