import Sluice.Decimal.Bounds
import Sluice.Number.Width
import Sluice.Proofs.Except
import Sluice.SqlType.Basic

/-!
# The shape of types

A type is proved things about by induction on its shape, where the fields of a struct are taken
all at once. A type is well formed when every decimal in it has bounds of 32 bits that describe a
type; names of fields are free.

## Main definitions

* `SqlType.structs`, `SqlType.primitives`: the structs and the primitive types at every depth.
* `SqlType.WellFormed`: the types whose primitive types are all valid.
* `SqlType.AllNames`: what holds of the name of every field, at every depth.
-/

namespace Sluice

open Number

/-- A primitive type whose parameters, where it has any, are bounds of 32 bits that describe it. -/
def Primitive.WellFormed : Primitive → Prop
  | .decimal precision scale =>
    ValidDecimalBounds precision scale ∧ IsInt32 precision ∧ IsInt32 scale
  | _ => True

namespace Primitive

variable {precision scale : Int} {p : Primitive}

/-- Bounds that describe a type are those of that decimal type. -/
theorem ofBounds_eq_ok_iff :
    ofBounds precision scale = .ok p ↔
      ValidDecimalBounds precision scale ∧ p = .decimal precision scale := by
  rw [← checkDecimalBounds_eq_ok_iff]
  constructor
  · intro h
    obtain ⟨⟨⟩, checked, h⟩ := bind_eq_ok_iff.mp h
    exact ⟨checked, (Except.ok.inj h).symm⟩
  · rintro ⟨checked, rfl⟩
    exact bind_eq_ok_iff.mpr ⟨(), checked, rfl⟩

/-- A tag with parameters describes the primitive types of that tag. Only a decimal type depends on
the parameters. -/
theorem withParameters_eq_ok_iff {tag : TypeTag} {parameters : List Int} :
    withParameters tag parameters = .ok p ↔
      tag = p.tag ∧ ∀ precision scale, p = .decimal precision scale →
        parameters = [precision, scale] ∧ ValidDecimalBounds precision scale := by
  cases tag with
  | decimal =>
    -- two parameters, or a number of them that no decimal has
    match parameters with
    | [precision, scale] =>
      rw [withParameters, mapError_eq_ok_iff, ofBounds_eq_ok_iff]
      cases p with
      | decimal precision' scale' =>
        constructor
        · rintro ⟨valid, ⟨⟩⟩
          exact ⟨rfl, by rintro _ _ ⟨⟩; exact ⟨rfl, valid⟩⟩
        · rintro ⟨-, bounds⟩
          obtain ⟨⟨⟩, valid⟩ := bounds precision' scale' rfl
          exact ⟨valid, rfl⟩
      | _ => simp [tag]
    | [] | [_] | _ :: _ :: _ :: _ => cases p <;> simp [withParameters, tag]
  | _ => cases p <;> simp [withParameters, tag]

end Primitive

namespace SqlType

/-- Induction on the shape of a type, with all fields of a struct at once. -/
@[elab_as_elim]
theorem shapeRec {motive : SqlType → Prop} (primitive : ∀ p, motive (.primitive p))
    (array : ∀ element, motive element → motive (.array element))
    (map : ∀ key value, motive value → motive (.map key value))
    (struct : ∀ fields : RowType, (∀ f ∈ fields, motive f.2) → motive (.struct fields))
    (t : SqlType) : motive t :=
  SqlType.rec (motive_2 := fun fields => ∀ f ∈ fields, motive f.2)
    (motive_3 := fun f => motive f.2) primitive array map struct (by simp)
    (fun _ _ hf hrest => List.forall_mem_cons.mpr ⟨hf, hrest⟩) (fun _ _ h => h) t

mutual

/-- The primitive types in a type, keys of maps included. -/
def primitives : SqlType → List Primitive
  | .primitive p => [p]
  | .array element => element.primitives
  | .map key value => key :: value.primitives
  | .struct fields => primitivesOfFields fields

/-- The primitive types in the types of fields. -/
def primitivesOfFields : List (String × SqlType) → List Primitive
  | [] => []
  | (_, type) :: rest => type.primitives ++ primitivesOfFields rest

end

mutual

/-- The structs in a type, at every depth and with the type itself. -/
def structs : SqlType → List RowType
  | .primitive _ => []
  | .array element => element.structs
  | .map _ value => value.structs
  | .struct fields => fields :: structsOfFields fields

/-- The structs in the types of fields. -/
def structsOfFields : List (String × SqlType) → List RowType
  | [] => []
  | (_, type) :: rest => type.structs ++ structsOfFields rest

end

/-- Every primitive type in the type is well formed. -/
def WellFormed (t : SqlType) : Prop :=
  ∀ p ∈ t.primitives, p.WellFormed

/-- Every name of a field in the type, at every depth, has the property. -/
def AllNames (P : String → Prop) (t : SqlType) : Prop :=
  ∀ row ∈ t.structs, ∀ f ∈ row, P f.1

@[simp]
theorem primitivesOfFields_eq (fields : RowType) :
    primitivesOfFields fields = fields.flatMap (·.2.primitives) := by
  induction fields with
  | nil => rfl
  | cons f rest ih => simp [primitivesOfFields, ih]

@[simp]
theorem structsOfFields_eq (fields : RowType) :
    structsOfFields fields = fields.flatMap (·.2.structs) := by
  induction fields with
  | nil => rfl
  | cons f rest ih => simp [structsOfFields, ih]

@[simp]
theorem wellFormed_primitive {p : Primitive} : (primitive p).WellFormed ↔ p.WellFormed := by
  simp [WellFormed, primitives]

@[simp]
theorem wellFormed_array {element : SqlType} : (array element).WellFormed ↔ element.WellFormed :=
  Iff.rfl

@[simp]
theorem wellFormed_map {key : Primitive} {value : SqlType} :
    (map key value).WellFormed ↔ key.WellFormed ∧ value.WellFormed := by
  simp [WellFormed, primitives]

@[simp]
theorem wellFormed_struct {fields : RowType} :
    (struct fields).WellFormed ↔ ∀ f ∈ fields, f.2.WellFormed := by
  simp only [WellFormed, primitives, primitivesOfFields_eq, List.mem_flatMap]
  exact ⟨fun h f hf p hp => h p ⟨f, hf, hp⟩, fun h p ⟨f, hf, hp⟩ => h f hf p hp⟩

variable {P : String → Prop}

@[simp]
theorem allNames_primitive {p : Primitive} : (primitive p).AllNames P := by
  simp [AllNames, structs]

@[simp]
theorem allNames_array {element : SqlType} : (array element).AllNames P ↔ element.AllNames P :=
  Iff.rfl

@[simp]
theorem allNames_map {key : Primitive} {value : SqlType} :
    (map key value).AllNames P ↔ value.AllNames P :=
  Iff.rfl

@[simp]
theorem allNames_struct {fields : RowType} :
    (struct fields).AllNames P ↔ ∀ f ∈ fields, P f.1 ∧ f.2.AllNames P := by
  simp only [AllNames, structs, structsOfFields_eq, List.forall_mem_cons, List.mem_flatMap]
  constructor
  · rintro ⟨own, inner⟩ f hf
    exact ⟨own f hf, fun row hrow => inner row ⟨f, hf, hrow⟩⟩
  · intro h
    exact ⟨fun f hf => (h f hf).1, fun row ⟨f, hf, hrow⟩ => (h f hf).2 row hrow⟩

end SqlType

end Sluice
