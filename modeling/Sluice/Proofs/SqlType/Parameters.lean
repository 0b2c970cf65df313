import Sluice.Proofs.SqlType.RoundTrip

/-!
# Parameters of primitive types

A primitive type is asked for by its tag or by its name, with a list of parameters, or is read from
a text. A tag of types with components is refused, and so is a decimal without its two bounds;
parameters after another tag are passed over. What is left is always well formed: no parameters, or
the bounds of a decimal that describe a type.

## Main definitions

* `TypeTag.Admits`: the tags of primitive types, and the parameters that each of them has.

## Main statements

* `Primitive.WellFormed.admits`: well-formed types have admitted parameters.
* `Primitive.wellFormed_of_withParameters`: what is asked for by tag is well formed.
* `SqlType.wellFormed_of_read`: a type that is read is well formed, whatever the text.
-/

namespace Sluice

open Number

/-- The parameters that a tag has: it is the tag of a primitive type, and has parameters if it is
that of decimals, a precision and a scale that describe a type. -/
structure TypeTag.Admits (tag : TypeTag) (parameters : Option (List Int)) : Prop where
  simple : tag.isComplex = false
  isSome_iff : parameters.isSome ↔ tag = .decimal
  bounds : ∀ list, parameters = some list →
    ∃ precision scale, list = [precision, scale] ∧ 1 ≤ precision ∧ 0 ≤ scale ∧ scale ≤ precision

namespace Primitive

variable {p : Primitive} {tag : TypeTag} {name : String} {precision scale : Int}

/-- A primitive type has admitted parameters unless it is a decimal with bad bounds. -/
theorem admits_iff :
    p.tag.Admits p.parameters? ↔
      ∀ precision scale, p = .decimal precision scale → ValidDecimalBounds precision scale := by
  constructor
  · rintro admitted precision scale rfl
    obtain ⟨_, _, ⟨⟩, valid⟩ := admitted.bounds [precision, scale] rfl
    exact valid
  · -- all other primitive types have no parameters
    intro valid
    cases p with
    | decimal precision scale =>
      refine ⟨rfl, by simp [parameters?, Primitive.tag], ?_⟩
      rintro _ ⟨⟩
      exact ⟨precision, scale, rfl, valid precision scale rfl⟩
    | _ => exact ⟨rfl, by simp [parameters?, Primitive.tag], by rintro _ ⟨⟩⟩

theorem WellFormed.admits (valid : p.WellFormed) : p.tag.Admits p.parameters? := by
  rw [admits_iff]
  rintro precision scale rfl
  exact valid.1

/-! ## Types that are asked for -/

/-- A type with parameters of 32 bits is well formed. -/
theorem wellFormed_of_withParameters {parameters : List Int} (fit : ∀ n ∈ parameters, IsInt32 n)
    (h : withParameters tag parameters = .ok p) : p.WellFormed := by
  obtain ⟨-, bounds⟩ := withParameters_eq_ok_iff.mp h
  cases p with
  | decimal precision scale =>
    obtain ⟨rfl, valid⟩ := bounds precision scale rfl
    exact ⟨valid, fit precision (by simp), fit scale (by simp)⟩
  | _ => trivial

theorem wellFormed_of_ofName {parameters : Option (List Int)}
    (fit : ∀ n ∈ parameters.getD [], IsInt32 n) (h : ofName name parameters = .ok p) :
    p.WellFormed := by
  obtain ⟨tag, -, h⟩ := bind_eq_ok_iff.mp h
  exact wellFormed_of_withParameters fit h

theorem wellFormed_of_ofTag (h : ofTag tag = .ok p) : p.WellFormed :=
  wellFormed_of_withParameters (by simp) h

theorem wellFormed_of_ofBounds (fits : IsInt32 precision ∧ IsInt32 scale)
    (h : ofBounds precision scale = .ok p) : p.WellFormed := by
  obtain ⟨valid, rfl⟩ := ofBounds_eq_ok_iff.mp h
  exact ⟨valid, fits⟩

end Primitive

/-! ## Types that are read -/

namespace Grammar

variable {input rest : List Char}

theorem Whole.isInt32 {n : Int} (h : Whole input n rest) : IsInt32 n := by
  cases h with
  | nonnegative _ _ _ fits => exact fits
  | negative _ _ _ fits => exact fits

theorem Wholes.isInt32 {ns : List Int} (h : Wholes input ns rest) : ∀ n ∈ ns, IsInt32 n := by
  induction h with
  | last number => exact List.forall_mem_singleton.mpr number.isInt32
  | more number _ _ ih => exact List.forall_mem_cons.mpr ⟨number.isInt32, ih⟩

/-- Every type in a phrase is well formed. -/
def Phrase.WellFormed : Phrase → Prop
  | .type t => t.WellFormed
  | .fields row => ∀ f ∈ row, f.2.WellFormed

/-- What is derived from a text is well formed, as its primitive types are by their names. -/
theorem Derives.wellFormed {phrase : Phrase} (h : Derives input phrase rest) :
    phrase.WellFormed := by
  -- only the two rules for primitive types have a bound to check: that of the listed parameters
  induction h with
  | primitive _ stands =>
    exact SqlType.wellFormed_primitive.mpr (Primitive.wellFormed_of_ofName (by simp) stands)
  | parameterized _ _ list stands =>
    refine SqlType.wellFormed_primitive.mpr (Primitive.wellFormed_of_ofName ?_ stands)
    exact list.isInt32
  | array _ _ _ _ _ ih => exact SqlType.wellFormed_array.mpr ih
  | map _ _ _ _ _ _ _ ihKey ihValue =>
    exact SqlType.wellFormed_map.mpr ⟨SqlType.wellFormed_primitive.mp ihKey, ihValue⟩
  | emptyStruct => exact SqlType.wellFormed_struct.mpr (by simp)
  | struct _ _ _ _ ih => exact SqlType.wellFormed_struct.mpr ih
  | lastField _ _ _ ih => exact List.forall_mem_singleton.mpr ih
  | moreFields _ _ _ _ ihType ihOthers => exact List.forall_mem_cons.mpr ⟨ihType, ihOthers⟩

end Grammar

/-- A type that is read is well formed, whatever the text. -/
theorem SqlType.wellFormed_of_read {text : String} {t : SqlType} (h : read text = .ok t) :
    t.WellFormed := by
  obtain ⟨rest, derived, -⟩ := read_eq_ok_iff.mp h
  exact derived.wellFormed

end Sluice
