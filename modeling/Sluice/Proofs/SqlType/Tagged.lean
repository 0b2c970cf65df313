import Sluice.Proofs.SqlType.Parameters
import Sluice.SqlType.Tagged

/-!
# Types as they are held

A type has one form as it is held, and what can be held beside that is no type. The tags beside
admitted parameters are the primitive types whose decimals have bounds that describe a type, and the
ways to a primitive type answer with those only, whatever they are asked for. On what is held of a
type nothing fails that is done with it.

## Main definitions

* `Primitive.tagged`, `SqlType.tagged`: types as they are held.

## Main statements

* `TaggedPrimitive.withParameters_eq_ok_iff`: what is answered to a tag with parameters.
* `TaggedPrimitive.admits_iff_exists`: admitted parameters are those of primitive types.
* `TaggedPrimitive.ofName_eq`: a name is answered by what is held of the type of that name.
* `SqlType.print_tagged`: a type is printed from what is held of it.
-/

namespace Sluice

/-- A primitive type as it is held. -/
def Primitive.tagged (p : Primitive) : TaggedPrimitive :=
  ⟨p.tag, p.parameters?⟩

namespace SqlType

mutual

/-- A type as it is held. -/
def tagged : SqlType → TaggedType
  | .primitive p => .primitive p.tagged
  | .array element => .array element.tagged
  | .map key value => .map key.tagged value.tagged
  | .struct fields => .struct (fieldsTagged fields)

/-- The fields of a struct as they are held. -/
def fieldsTagged : List (String × SqlType) → List (String × TaggedType)
  | [] => []
  | (name, type) :: rest => (name, type.tagged) :: fieldsTagged rest

end

end SqlType

/-! ## Ways to primitive types -/

namespace TaggedPrimitive

variable {tag : TypeTag} {p : TaggedPrimitive}

theorem ofBounds_eq_ok_iff {precision scale : Int} :
    ofBounds precision scale = .ok p ↔
      ValidDecimalBounds precision scale ∧ p = ⟨.decimal, some [precision, scale]⟩ := by
  unfold ofBounds
  rw [bind_eq_ok_iff]
  constructor
  · rintro ⟨⟨⟩, checked, made⟩
    exact ⟨checkDecimalBounds_eq_ok_iff.mp checked, (Except.ok.inj made).symm⟩
  · rintro ⟨valid, rfl⟩
    exact ⟨(), checkDecimalBounds_eq_ok_iff.mpr valid, rfl⟩

/-! ### What is admitted -/

/-- The parameters of a decimal are admitted if they are two bounds that describe a type. -/
theorem admits_decimal_iff {list : List Int} :
    TypeTag.decimal.Admits (some list) ↔
      ∃ precision scale, list = [precision, scale] ∧ ValidDecimalBounds precision scale := by
  constructor
  · intro admitted
    exact admitted.bounds list rfl
  · rintro ⟨precision, scale, rfl, valid⟩
    refine ⟨rfl, by simp, ?_⟩
    rintro _ ⟨⟩
    exact ⟨precision, scale, rfl, valid⟩

/-- After the tags of the other primitive types, no parameters are admitted. -/
theorem admits_none (simple : tag.isComplex = false) (other : tag ≠ .decimal) :
    tag.Admits none :=
  ⟨simple, by simpa using other, nofun⟩

/-- What is admitted are the primitive types as they are held, those of decimals with bounds that
describe a type. -/
theorem admits_iff_exists :
    p.tag.Admits p.parameters ↔
      ∃ type : Primitive, type.tagged = p ∧ ∀ precision scale,
        type = .decimal precision scale → ValidDecimalBounds precision scale := by
  constructor
  · intro admitted
    obtain ⟨tag, held⟩ := p
    -- without parameters the tag is one of a type that has none
    cases held with
    | none =>
      have other : tag ≠ .decimal := by simpa using mt admitted.isSome_iff.mpr
      cases tag with
      | boolean => exact ⟨.boolean, rfl, by simp⟩
      | integer => exact ⟨.integer, rfl, by simp⟩
      | bigint => exact ⟨.bigint, rfl, by simp⟩
      | double => exact ⟨.double, rfl, by simp⟩
      | string => exact ⟨.string, rfl, by simp⟩
      | decimal => exact absurd rfl other
      | array | map | struct => cases admitted.simple
    | some list =>
      -- parameters are there for decimals only, and are their bounds
      obtain rfl : tag = .decimal := admitted.isSome_iff.mp rfl
      obtain ⟨precision, scale, rfl, valid⟩ := admits_decimal_iff.mp admitted
      refine ⟨.decimal precision scale, rfl, ?_⟩
      rintro _ _ ⟨⟩
      exact valid
  · rintro ⟨type, rfl, valid⟩
    exact Primitive.admits_iff.mpr valid

/-! ### What is answered -/

theorem withParameters_of_isComplex (complex : tag.isComplex = true) (parameters : List Int) :
    withParameters tag parameters = .error (.notPrimitive tag) := by
  cases tag with
  | array | map | struct => rfl
  | _ => cases complex

theorem withParameters_of_ne (simple : tag.isComplex = false) (other : tag ≠ .decimal)
    (parameters : List Int) : withParameters tag parameters = .ok (unparameterized tag) := by
  cases tag with
  | decimal => exact absurd rfl other
  | array | map | struct => cases simple
  | _ => rfl

/-- A decimal with parameters is answered if they are two bounds that describe a type. -/
theorem withParameters_decimal_eq_ok_iff {parameters : List Int} :
    withParameters .decimal parameters = .ok p ↔
      p = ⟨.decimal, some parameters⟩ ∧ TypeTag.decimal.Admits (some parameters) := by
  rw [admits_decimal_iff]
  match parameters with
  | [precision, scale] =>
    rw [withParameters, mapError_eq_ok_iff, ofBounds_eq_ok_iff]
    constructor
    · rintro ⟨valid, rfl⟩
      exact ⟨rfl, precision, scale, rfl, valid⟩
    · rintro ⟨rfl, _, _, ⟨⟩, valid⟩
      exact ⟨valid, rfl⟩
  | [] | [_] | _ :: _ :: _ :: _ => simp [withParameters]

/-- A tag with parameters is answered if it is the tag of a primitive type and, for decimals, comes
with two bounds that describe a type. What is answered has these parameters then, and no parameters
otherwise. -/
theorem withParameters_eq_ok_iff {parameters : List Int} :
    withParameters tag parameters = .ok p ↔
      p.tag = tag ∧ p.parameters = (if tag = .decimal then some parameters else none) ∧
        tag.Admits p.parameters := by
  obtain ⟨held, list⟩ := p
  -- the parameters are kept for decimals, and passed over for the others
  by_cases decimal : tag = .decimal
  · subst decimal
    rw [withParameters_decimal_eq_ok_iff, if_pos rfl]
    constructor
    · rintro ⟨⟨⟩, admitted⟩
      exact ⟨rfl, rfl, admitted⟩
    · rintro ⟨rfl, rfl, admitted⟩
      exact ⟨rfl, admitted⟩
  · rw [if_neg decimal]
    -- the tags of composite types are refused, whatever comes with them
    cases complex : tag.isComplex with
    | true =>
      rw [withParameters_of_isComplex complex]
      refine ⟨nofun, fun ⟨_, _, admitted⟩ => ?_⟩
      rw [admitted.simple] at complex
      cases complex
    | false =>
      rw [withParameters_of_ne complex decimal]
      constructor
      · rintro ⟨⟩
        exact ⟨rfl, rfl, admits_none complex decimal⟩
      · rintro ⟨rfl, rfl, -⟩
        rfl

/-! ### The types that are answered -/

theorem ofBounds_eq (precision scale : Int) :
    ofBounds precision scale = (Primitive.ofBounds precision scale).map Primitive.tagged := by
  unfold ofBounds Primitive.ofBounds
  cases checkDecimalBounds precision scale <;> rfl

/-- A tag with parameters is answered by what is held of the primitive type. -/
theorem withParameters_eq (tag : TypeTag) (parameters : List Int) :
    withParameters tag parameters =
      (Primitive.withParameters tag parameters).map Primitive.tagged := by
  cases tag with
  | decimal =>
    match parameters with
    | [precision, scale] =>
      rw [withParameters, Primitive.withParameters, ofBounds_eq]
      cases Primitive.ofBounds precision scale <;> rfl
    | [] | [_] | _ :: _ :: _ :: _ => rfl
  | _ => rfl

theorem ofTag_eq (tag : TypeTag) : ofTag tag = (Primitive.ofTag tag).map Primitive.tagged :=
  withParameters_eq tag []

/-- A tag is found by its name, in any case. -/
theorem tagOfName_of_asciiUpper {name : String} (tag : TypeTag)
    (same : Text.asciiUpper name = tag.name) : Primitive.tagOfName name = .ok tag := by
  have found : TypeTag.ofName? name = some tag := by
    simp only [TypeTag.ofName?, Text.asciiEqual, same]
    cases tag <;> decide
  rw [Primitive.tagOfName, same, found]
  cases tag <;> rfl

theorem tagOfName_of_ne {name : String} (notInt : Text.asciiUpper name ≠ "INT")
    (notVarchar : Text.asciiUpper name ≠ "VARCHAR") :
    Primitive.tagOfName name =
      match TypeTag.ofName? name with
      | some tag => .ok tag
      | none => .error (.unknownName name) := by
  unfold Primitive.tagOfName
  split
  · contradiction
  · contradiction
  · rfl

/-- A name of decimals without two parameters is refused for their number. -/
theorem withParameters_of_length_ne {list : List Int} (other : list.length ≠ 2) :
    withParameters .decimal list = .error (.parameterCount list.length) := by
  match list with
  | [_, _] => exact absurd rfl other
  | [] | [_] | _ :: _ :: _ :: _ => rfl

/-- A name is answered as its tag is, with the parameters given. -/
theorem ofName_eq_bind (name : String) (parameters : Option (List Int)) :
    ofName name parameters =
      Primitive.tagOfName name >>= fun tag => withParameters tag (parameters.getD []) := by
  unfold ofName
  split
  · -- `BOOLEAN`
    rename_i upper
    rw [tagOfName_of_asciiUpper .boolean upper]
    rfl
  · -- `INT`
    rename_i upper
    rw [Primitive.tagOfName, upper]
    rfl
  · -- `INTEGER`
    rename_i upper
    rw [tagOfName_of_asciiUpper .integer upper]
    rfl
  · -- `VARCHAR`
    rename_i upper
    rw [Primitive.tagOfName, upper]
    rfl
  · -- `STRING`
    rename_i upper
    rw [tagOfName_of_asciiUpper .string upper]
    rfl
  · -- `DECIMAL`, whose parameters are counted before they are passed on
    rename_i upper
    rw [tagOfName_of_asciiUpper .decimal upper]
    by_cases other : (parameters.getD []).length ≠ 2
    · exact (if_pos other).trans (withParameters_of_length_ne other).symm
    · exact if_neg other
  · -- any other name is looked for among all
    rename_i notInt _ notVarchar _ _
    rw [tagOfName_of_ne notInt notVarchar]
    cases TypeTag.ofName? name <;> rfl

/-- A name is answered by what is held of the type of that name. -/
theorem ofName_eq (name : String) (parameters : Option (List Int)) :
    ofName name parameters = (Primitive.ofName name parameters).map Primitive.tagged := by
  rw [ofName_eq_bind, Primitive.ofName]
  cases Primitive.tagOfName name with
  | error e => rfl
  | ok tag => exact withParameters_eq tag (parameters.getD [])

end TaggedPrimitive

/-! ## What is done with a type -/

namespace Primitive

/-- The text of a primitive type is made of what is held of it. -/
theorem print_tagged (p : Primitive) : p.tagged.print = .ok p.name := by
  cases p <;> rfl

end Primitive

namespace SqlType

theorem fieldsTagged_eq (fields : RowType) :
    fieldsTagged fields = fields.map fun f => (f.1, f.2.tagged) := by
  induction fields with
  | nil => rfl
  | cons f rest ih => rw [fieldsTagged, ih, List.map_cons]

/-- The primitive types that are held are those of the type. -/
theorem primitives_tagged (t : SqlType) :
    t.tagged.primitives = t.primitives.map Primitive.tagged := by
  -- by the shape of the type; the primitive types of a struct are those of its fields
  induction t using shapeRec with
  | primitive p => rfl
  | array element ih => exact ih
  | map key value ih =>
    rw [tagged, TaggedType.primitives, ih, primitives, List.map_cons]
  | struct fields ih =>
    rw [tagged, TaggedType.primitives, primitives]
    induction fields with
    | nil => rfl
    | cons f rest ihRest =>
      obtain ⟨first, others⟩ := List.forall_mem_cons.mp ih
      rw [fieldsTagged, TaggedType.primitivesOfFields, first, ihRest others, primitivesOfFields,
        List.map_append]

/-- A type is printed from what is held of it. -/
theorem print_tagged (t : SqlType) : t.tagged.print = .ok t.print := by
  -- by the shape of the type
  induction t using shapeRec with
  | primitive p => exact p.print_tagged
  | array element ih =>
    rw [tagged, TaggedType.print, ih]
    rfl
  | map key value ih =>
    rw [tagged, TaggedType.print, key.print_tagged, ih]
    rfl
  | struct fields ih =>
    have texts : TaggedType.printFields (fieldsTagged fields) = .ok (printFields fields) := by
      induction fields with
      | nil => rfl
      | cons f rest ihRest =>
        obtain ⟨first, others⟩ := List.forall_mem_cons.mp ih
        rw [fieldsTagged, TaggedType.printFields, first, ihRest others]
        rfl
    rw [tagged, TaggedType.print, texts]
    rfl

end SqlType

end Sluice
