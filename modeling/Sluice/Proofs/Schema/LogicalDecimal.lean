import Sluice.Proofs.Except
import Sluice.Proofs.SqlType.Shape
import Sluice.Proofs.Text.Integer
import Sluice.Schema.ToSql

/-!
# Bounds in the parameters of a schema

The bounds of a decimal type are spelled out in the parameters of its schema, under whichever keys.
A schema that spells out the bounds of a well-formed type is read as that type, and whatever is
read from parameters, well spelled or not, is well formed.

## Main definitions

* `decimalSchema`: the schema of a decimal type.
* `Schema.Spells`: the bounds that the parameters of a schema spell out.

## Main statements

* `Schema.Spells.toDecimalType_eq`: bounds that are spelled out are read back.
* `Schema.exists_decimal_of_toDecimalType`: bounds that are read describe a type.
-/

namespace Sluice

open Number Text

/-- The schema of a decimal type. -/
def decimalSchema (precision scale : Int) : Schema :=
  let named := (Schema.leaf .bytes).withName decimalLogicalName
  ((named.withParameter precisionKey (toString precision)).withParameter scaleKey
    (toString scale)).asOptional

theorem decimal_eq_decimalSchema {precision scale : Int} (h : ValidDecimalBounds precision scale) :
    Schema.decimal precision scale = .ok (decimalSchema precision scale) := by
  rw [Schema.decimal, checkDecimalBounds_eq_ok_iff.mpr h]
  rfl

namespace Schema

variable {s : Schema} {precision scale : Int}

/-- The parameters of a schema have a precision and a scale for texts. -/
structure Spells (s : Schema) (precision scale : Int) : Prop where
  precisionText? : s.precisionText? = some (toString precision)
  scaleText? : s.scaleText? = some (toString scale)

theorem spells_decimalSchema : (decimalSchema precision scale).Spells precision scale :=
  ⟨rfl, rfl⟩

theorem Spells.precision?_eq (h : s.Spells precision scale) (fits : IsInt32 precision) :
    s.precision? = some precision := by
  rw [precision?, h.precisionText?]
  exact readInt32?_toString fits

theorem Spells.scale?_eq (h : s.Spells precision scale) (fits : IsInt32 scale) :
    s.scale? = some scale := by
  rw [scale?, h.scaleText?]
  exact readInt32?_toString fits

theorem isInt32_of_precision? (h : s.precision? = some precision) : IsInt32 precision := by
  obtain ⟨text, -, h⟩ := Option.bind_eq_some_iff.mp h
  exact isInt32_of_readInt32? h

theorem isInt32_of_scale? (h : s.scale? = some scale) : IsInt32 scale := by
  obtain ⟨text, -, h⟩ := Option.bind_eq_some_iff.mp h
  exact isInt32_of_readInt32? h

/-- Bounds that are spelled out are read back. -/
theorem Spells.toDecimalType_eq (h : s.Spells precision scale)
    (valid : (Primitive.decimal precision scale).WellFormed) :
    s.toDecimalType = .ok (.decimal precision scale) := by
  obtain ⟨bounds, fitsPrecision, fitsScale⟩ := valid
  -- the scale is a parameter, so there are parameters
  have parameters : s.parameters.isNone = false := by
    have scaleText := h.scaleText?
    cases hs : s.parameters with
    | none => simp [Schema.scaleText?, parameter?, hs] at scaleText
    | some ps => rfl
  simp only [toDecimalType, parameters, h.scaleText?, h.precisionText?,
    readInt32?_toString fitsScale, readInt32?_toString fitsPrecision,
    Primitive.ofBounds_eq_ok_iff.mpr ⟨bounds, rfl⟩]
  rfl

/-- What is read from parameters is a decimal type, with bounds that describe it. -/
theorem exists_decimal_of_toDecimalType {p : Primitive} (h : s.toDecimalType = .ok p) :
    ∃ precision scale, p = .decimal precision scale ∧ p.WellFormed := by
  unfold toDecimalType at h
  -- the bounds are given in texts, each of which may be missing or unreadable
  split at h
  · cases h
  split at h
  · cases h
  split at h
  · cases h
  rename_i scale hscale
  have fitsScale : IsInt32 scale := isInt32_of_readInt32? hscale
  split at h
  · -- the precision is the one for schemas that declare none
    obtain ⟨bounds, rfl⟩ := Primitive.ofBounds_eq_ok_iff.mp (mapError_eq_ok_iff.mp h)
    exact ⟨_, _, rfl, bounds, by decide, fitsScale⟩
  split at h
  · cases h
  rename_i precision hprecision
  obtain ⟨bounds, rfl⟩ := Primitive.ofBounds_eq_ok_iff.mp (mapError_eq_ok_iff.mp h)
  exact ⟨_, _, rfl, bounds, isInt32_of_readInt32? hprecision, fitsScale⟩

end Schema

end Sluice
