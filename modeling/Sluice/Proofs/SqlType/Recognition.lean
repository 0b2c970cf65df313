import Sluice.Proofs.SqlType.RoundTrip

/-!
# The texts that are types

The reader of types accepts the texts that the grammar derives, and refuses all others. The leaves
of a type are names of primitive types. Each tag has its own names, in upper case; a name may be
written in any case. Parameters count after a name of `DECIMAL` only, where there must be two. After
another name they may be anything.

## Main definitions

* `Grammar.spellings`, `Grammar.Stands`: the names of a tag, and the primitive type that a name with
  parameters stands for.
* `Grammar.Denotes`: the type that a text denotes.

## Main statements

* `Grammar.named_eq_ok_iff`: the names that are accepted are those that stand for a type.
* `SqlType.read_recognizes`: the reader recognizes the texts that denote types.
* `Grammar.Denotes.unique`: a text denotes at most one type.
-/

namespace Sluice

open Text

/-! ## Letters -/

/-- Letters in upper case stay as they are. -/
theorem Text.toUpper_toUpper (c : Char) : c.toUpper.toUpper = c.toUpper := by
  unfold Char.toUpper
  -- only the lower case is moved
  by_cases lower : 'a'.val ≤ c.val ∧ c.val ≤ 'z'.val
  · have least : 97 ≤ c.val.toNat := lower.1
    have greatest : c.val.toNat ≤ 122 := lower.2
    have moved : (c.val + ('A'.val - 'a'.val)).toNat = c.val.toNat - 32 := by
      have distance : ('A'.val - 'a'.val).toNat = 2 ^ 32 - 32 := rfl
      rw [UInt32.toNat_add, distance]
      omega
    rw [dif_pos lower]
    -- the letter has been moved out of the lower case
    apply dif_neg
    rintro ⟨again, -⟩
    have again : 97 ≤ (c.val + ('A'.val - 'a'.val)).toNat := again
    omega
  · rw [dif_neg lower]
    exact dif_neg lower

/-- A text in upper case stays as it is. -/
theorem Text.asciiUpper_asciiUpper (s : String) : asciiUpper (asciiUpper s) = asciiUpper s := by
  unfold asciiUpper
  rw [String.toList_ofList, List.map_map]
  congr 1
  exact List.map_congr_left fun c _ => toUpper_toUpper c

/-! ## Names and parameters -/

/-- A name in upper case is that of a tag if it is the one in messages. -/
theorem TypeTag.ofName?_eq_some_iff {name : String} {tag : TypeTag}
    (upper : asciiUpper name = name) : ofName? name = some tag ↔ name = tag.name := by
  constructor
  · intro found
    have same : asciiUpper tag.name = asciiUpper name := by
      simpa [asciiEqual] using List.find?_some found
    rw [← upper, ← same]
    cases tag <;> rfl
  · rintro rfl
    cases tag <;> rfl

namespace Grammar

/-- The names of a tag in the type language. -/
def spellings : TypeTag → List String
  | .boolean => ["BOOL", "BOOLEAN"]
  | .integer => ["INT", "INTEGER"]
  | .bigint => ["LONG", "BIGINT"]
  | .double => ["DOUBLE"]
  | .string => ["VARCHAR", "STRING"]
  | .decimal => ["DEC", "DECIMAL"]
  | .array => ["ARRAY"]
  | .map => ["MAP"]
  | .struct => ["STRUCT"]

/-- The primitive types that a name in upper case stands for, with the parameters after it. -/
inductive Stands (name : String) : Option (List Int) → Primitive → Prop where
  /-- a type without parameters, whatever is written after its name -/
  | plain {parameters : Option (List Int)} {p : Primitive} (simple : p.parameters? = none)
      (known : name ∈ spellings p.tag) : Stands name parameters p
  /-- a decimal type, which needs its two bounds -/
  | decimal {precision scale : Int} (known : name ∈ spellings .decimal)
      (valid : ValidDecimalBounds precision scale) :
      Stands name (some [precision, scale]) (.decimal precision scale)

/-- The tag that a name in upper case has, abbreviations included. -/
theorem tagOfName_expandTypeName {name : String} {tag : TypeTag} (upper : asciiUpper name = name) :
    Primitive.tagOfName (expandTypeName name) = .ok tag ↔ name ∈ spellings tag := by
  unfold expandTypeName
  split
  -- the abbreviations
  · cases tag <;> decide
  · cases tag <;> decide
  · cases tag <;> decide
  · rename_i notBool notLong notDec
    unfold Primitive.tagOfName
    rw [upper]
    split
    -- the names that differ from those in messages
    · cases tag <;> decide
    · cases tag <;> decide
    · rename_i notInt notVarchar
      have full : name ∈ spellings tag ↔ name = tag.name := by
        cases tag <;> simp [spellings, TypeTag.name] <;> tauto
      rw [full, ← TypeTag.ofName?_eq_some_iff upper]
      cases TypeTag.ofName? name with
      | none => simp
      | some found => simp

/-- A name with parameters is accepted as the primitive type that it stands for. -/
theorem named_eq_ok_iff {name : String} {parameters : Option (List Int)} {p : Primitive} :
    named name parameters = .ok p ↔ Stands (asciiUpper name) parameters p := by
  have accepted : named name parameters = .ok p ↔
      asciiUpper name ∈ spellings p.tag ∧ ∀ precision scale, p = .decimal precision scale →
        parameters.getD [] = [precision, scale] ∧ ValidDecimalBounds precision scale := by
    simp only [named, Primitive.ofName, bind_eq_ok_iff, Primitive.withParameters_eq_ok_iff,
      tagOfName_expandTypeName (asciiUpper_asciiUpper name), and_left_comm, exists_eq_left]
  rw [accepted]
  constructor
  · -- a decimal has the two parameters that are listed, and other types ignore theirs
    rintro ⟨known, bounds⟩
    cases p with
    | decimal precision scale =>
      obtain ⟨list, valid⟩ := bounds precision scale rfl
      cases parameters with
      | none => cases list
      | some parameters =>
        obtain rfl : parameters = [precision, scale] := list
        exact .decimal known valid
    | _ => exact .plain rfl known
  · rintro (⟨simple, known⟩ | ⟨known, valid⟩)
    · refine ⟨known, ?_⟩
      rintro precision scale rfl
      cases simple
    · refine ⟨known, ?_⟩
      rintro _ _ ⟨⟩
      exact ⟨rfl, valid⟩

/-- A whole text denotes a type: it derives the type, and only blanks are left over. -/
def Denotes (text : String) (t : SqlType) : Prop :=
  ∃ rest, Derives text.toList (.type t) rest ∧ trimStart rest = []

/-- A text denotes at most one type. -/
theorem Denotes.unique {text : String} {t t' : SqlType} (h : Denotes text t)
    (h' : Denotes text t') : t = t' := by
  have read := SqlType.read_eq_ok_iff.mpr h
  rw [SqlType.read_eq_ok_iff.mpr h'] at read
  exact (Except.ok.inj read).symm

end Grammar

open Grammar

/-- A text is read as the type that it denotes, and refused if it denotes none. The names in it are
accepted for the primitive types that they stand for. -/
theorem SqlType.read_recognizes :
    (∀ text t, read text = .ok t ↔ Denotes text t) ∧
    (∀ text, (∃ e, read text = .error e) ↔ ∀ t, ¬Denotes text t) ∧
    ∀ name parameters p, named name parameters = .ok p ↔ Stands (asciiUpper name) parameters p := by
  refine ⟨fun text t => read_eq_ok_iff, ?_, fun name parameters p => named_eq_ok_iff⟩
  intro text
  constructor
  · rintro ⟨e, refused⟩ t denoted
    rw [read_eq_ok_iff.mpr denoted] at refused
    cases refused
  · -- every text is read or refused, so what denotes nothing is refused
    intro nothing
    cases outcome : read text with
    | error e => exact ⟨e, rfl⟩
    | ok t => exact absurd (read_eq_ok_iff.mp outcome) (nothing t)

end Sluice
