import Sluice.Proofs.Schema.RoundTrip
import Sluice.Proofs.Text.Uppercase

/-!
# The types that schemas have

Whatever a schema looks like, the type that is made out of it has valid decimals, no doubles for
keys of maps, and all names in upper case. Such a type comes back unchanged from a schema of its
own, so translating a schema into a type is a normal form: to translate the type out and in again
changes nothing.

## Main definitions

* `SqlType.Normal`: the form of the types that schemas have.

## Main statements

* `Schema.normal_of_toSqlType`: the type of a schema has that form.
* `Schema.toSqlType_comes_back`: it comes back as it is from its own schema.
-/

namespace Sluice

open Text

/-! ## Normal types -/

namespace SqlType

/-- The form of the types that schemas have. -/
structure Normal (t : SqlType) : Prop where
  wellFormed : t.WellFormed
  noDoubleKeys : Primitive.double ∉ t.mapKeys
  upperNames : t.AllNames fun name => uppercase name = name

theorem normal_primitive {p : Primitive} (valid : p.WellFormed) : (primitive p).Normal where
  wellFormed := wellFormed_primitive.mpr valid
  noDoubleKeys := notMem_mapKeys_primitive
  upperNames := allNames_primitive

theorem Normal.array {element : SqlType} (h : element.Normal) : (array element).Normal where
  wellFormed := wellFormed_array.mpr h.wellFormed
  noDoubleKeys := h.noDoubleKeys
  upperNames := allNames_array.mpr h.upperNames

theorem Normal.map {key : Primitive} {value : SqlType} (valid : key.WellFormed)
    (notDouble : key ≠ .double) (h : value.Normal) : (map key value).Normal where
  wellFormed := wellFormed_map.mpr ⟨valid, h.wellFormed⟩
  noDoubleKeys := notMem_mapKeys_map.mpr ⟨notDouble, h.noDoubleKeys⟩
  upperNames := allNames_map.mpr h.upperNames

theorem normal_struct {fields : RowType}
    (h : ∀ f ∈ fields, uppercase f.1 = f.1 ∧ f.2.Normal) : (struct fields).Normal where
  wellFormed := wellFormed_struct.mpr fun f hf => (h f hf).2.wellFormed
  noDoubleKeys := notMem_mapKeys_struct.mpr fun f hf => (h f hf).2.noDoubleKeys
  upperNames := allNames_struct.mpr fun f hf => ⟨(h f hf).1, (h f hf).2.upperNames⟩

/-- Names that are in upper case already stay as they are. -/
theorem uppercased_eq_self {t : SqlType} (h : t.AllNames fun name => uppercase name = name) :
    t.uppercased = t := by
  -- by the shape of the type
  induction t using SqlType.shapeRec with
  | primitive p => rfl
  | array element ih => rw [uppercased, ih (allNames_array.mp h)]
  | map key value ih => rw [uppercased, ih (allNames_map.mp h)]
  | struct fields ih =>
    rw [allNames_struct] at h
    have same : ∀ f ∈ fields, (uppercase f.1, f.2.uppercased) = f := by
      intro f hf
      rw [(h f hf).1, ih f hf (h f hf).2]
    rw [uppercased, uppercasedFields_eq, List.map_congr_left same, List.map_id']

/-- A normal type comes back as it is from its schema. -/
theorem Normal.toSqlType_schema {t : SqlType} (h : t.Normal) : t.schema.toSqlType = .ok t := by
  have back := (toSqlType_schema_iff h.wellFormed).mpr h.noDoubleKeys
  rwa [uppercased_eq_self h.upperNames] at back

end SqlType

/-! ## The types of schemas are normal -/

namespace Schema

variable {s : Schema} {p : Primitive}

/-- The primitive type of a schema is valid, and not that of doubles where keys are admitted. -/
theorem wellFormed_of_toPrimitive (h : s.toPrimitive = .ok p) :
    p.WellFormed ∧ (s.mayBeKey = true → p ≠ .double) := by
  -- only bytes that carry decimals have bounds, and only the floating kinds are doubles
  cases hk : s.kind with
  | bytes =>
    simp only [toPrimitive, hk] at h
    split at h
    · obtain ⟨precision, scale, rfl, valid⟩ := exists_decimal_of_toDecimalType h
      exact ⟨valid, fun _ => Primitive.noConfusion⟩
    · cases h
  | array | map | struct => simp [toPrimitive, hk] at h
  | float32 | float64 =>
    simp only [toPrimitive, hk] at h
    obtain rfl := Except.ok.inj h
    exact ⟨trivial, fun may => by simp [mayBeKey, hk] at may⟩
  | _ =>
    simp only [toPrimitive, hk] at h
    obtain rfl := Except.ok.inj h
    exact ⟨trivial, fun _ => Primitive.noConfusion⟩

/-- The type of the keys of a map is never that of doubles. -/
theorem wellFormed_of_toKeyType (h : s.toKeyType = .ok p) : p.WellFormed ∧ p ≠ .double := by
  unfold toKeyType at h
  split at h
  · rename_i may
    obtain ⟨valid, notDouble⟩ := wellFormed_of_toPrimitive h
    exact ⟨valid, notDouble may⟩
  · cases h

mutual

/-- The type of a schema is normal. -/
theorem normal_of_toSqlType {t : SqlType} : (s : Schema) → s.toSqlType = .ok t → t.Normal
  -- by the kind of the schema; keys and values go to maps, and fields to structs
  | ⟨.array, _, _, _, _, _, none⟩, h => by cases h
  | ⟨.array, _, _, _, _, _, some element⟩, h => by
    obtain ⟨e, he, rfl⟩ := map_eq_ok_iff.mp h
    exact (normal_of_toSqlType element he).array
  | ⟨.map, _, _, _, _, none, _⟩, h => by cases h
  | ⟨.map, _, _, _, _, some _, none⟩, h => by cases h
  | ⟨.map, _, _, _, _, some key, some value⟩, h => by
    obtain ⟨k, hk, h⟩ := bind_eq_ok_iff.mp h
    obtain ⟨v, hv, h⟩ := bind_eq_ok_iff.mp h
    obtain rfl := Except.ok.inj h
    obtain ⟨validKey, notDouble⟩ := wellFormed_of_toKeyType hk
    exact (normal_of_toSqlType value hv).map validKey notDouble
  | ⟨.struct, _, _, _, fields, _, _⟩, h => by
    obtain rfl := Except.ok.inj h
    exact SqlType.normal_struct (normal_of_mem_fieldsToSqlTypes fields)
  | ⟨.boolean, _, _, _, _, _, _⟩, h | ⟨.string, _, _, _, _, _, _⟩, h
  | ⟨.bytes, _, _, _, _, _, _⟩, h | ⟨.int8, _, _, _, _, _, _⟩, h | ⟨.int16, _, _, _, _, _, _⟩, h
  | ⟨.int32, _, _, _, _, _, _⟩, h | ⟨.int64, _, _, _, _, _, _⟩, h
  | ⟨.float32, _, _, _, _, _, _⟩, h | ⟨.float64, _, _, _, _, _, _⟩, h => by
    obtain ⟨p, hp, rfl⟩ := map_eq_ok_iff.mp h
    exact SqlType.normal_primitive (wellFormed_of_toPrimitive hp).1

/-- The fields that come of a struct have names in upper case and normal types. -/
theorem normal_of_mem_fieldsToSqlTypes : (fields : List (String × Schema)) →
    ∀ f ∈ fieldsToSqlTypes fields, uppercase f.1 = f.1 ∧ f.2.Normal
  | [], f, hf => by cases hf
  | (name, schema) :: rest, f, hf => by
    rw [fieldsToSqlTypes] at hf
    split at hf
    · rename_i type htype
      rcases List.mem_cons.mp hf with rfl | hf
      · exact ⟨uppercase_uppercase name, normal_of_toSqlType schema htype⟩
      · exact normal_of_mem_fieldsToSqlTypes rest f hf
    · -- the field is left out
      exact normal_of_mem_fieldsToSqlTypes rest f hf

end

/-! ## Out and in again -/

/-- The type of a schema has a schema, of which it is the type again. -/
theorem toSqlType_comes_back {s : Schema} {t : SqlType} (h : s.toSqlType = .ok t) :
    ∃ s', t.toSchema = .ok s' ∧ s'.toSqlType = .ok t := by
  have normal : t.Normal := normal_of_toSqlType s h
  exact ⟨t.schema, SqlType.toSchema_eq normal.wellFormed, normal.toSqlType_schema⟩

/-- The type of an irregular schema comes back: a decimal under another spelling of its name, with
two scales, a precision that counts before another and one that is missing, keys of eight bits, and
bytes without a type. -/
theorem toSqlType_comes_back_irregular :
    let price : Schema := { leaf .bytes with
      name := some "ORG.apache.kafka.connect.data.decimal"
      parameters := some [("scale", "+2"), ("precision", "x"), ("scale", "y"),
        ("connect.decimal.precision", "007")] }
    let rate : Schema := ((leaf .bytes).withName decimalLogicalName).withParameter scaleKey "3"
    let s : Schema := struct [("price", price), ("blob", leaf .bytes),
      ("tags", map (leaf .int8) (array rate)), ("list", { leaf .array with optional := true })]
    let t : SqlType := .struct [("PRICE", .primitive (.decimal 7 2)),
      ("TAGS", .map .integer (.array (.primitive (.decimal 64 3))))]
    s.toSqlType = .ok t ∧ ∃ s', t.toSchema = .ok s' ∧ s'.toSqlType = .ok t := by
  intro price rate s t
  have type : s.toSqlType = .ok t := by rfl
  exact ⟨type, toSqlType_comes_back type⟩

end Schema

end Sluice
