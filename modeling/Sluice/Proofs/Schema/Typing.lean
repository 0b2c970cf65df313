import Sluice.Proofs.Schema.LogicalDecimal

/-!
# The schemas that have types

Which schemas have a SQL type, and which type that is, can be said without the translation. Leaves
have types by their kind, bytes only if they carry decimals with bounds that can be read. A failure
inside an array or a map is one of the whole, while a struct has a type in any case and is short of
the fields that have none. So a failure goes up to the nearest struct around it, where it costs one
field, and the schema of a record never fails.

## Main definitions

* `Schema.CarriesDecimals`: the schemas of decimals, with their bounds.
* `Schema.Translatable`: the schemas that have a type.
* `Schema.HasType`, `Schema.FieldsHaveTypes`: the types of schemas, and the fields of a struct.

## Main statements

* `Schema.exists_toSqlType_iff`: the translation succeeds for the schemas that have a type.
* `Schema.toSqlType_eq_ok_iff`: it yields their type.
* `Schema.translation_lenient`: both, and what becomes of schemas at the root.
-/

namespace Sluice

open Text

namespace Schema

variable {s : Schema} {p : Primitive} {precision scale : Int}

/-! ## Types of leaves -/

/-- A schema of decimals: bytes under the logical name, in any case, with bounds of 32 bits among
its parameters. The precision may stand under either of two keys, or be the one that is assumed. -/
structure CarriesDecimals (s : Schema) (precision scale : Int) : Prop where
  kind : s.kind = .bytes
  named : ∃ name, s.name = some name ∧ asciiEqual name decimalLogicalName = true
  hasParameters : s.parameters.isSome = true
  scaleRead : ∃ text, s.parameter? scaleKey = some text ∧ readInt32? text.toList = some scale
  precisionRead :
    ((s.parameter? converterPrecisionKey).or (s.parameter? precisionKey)).elim
      (some defaultPrecision) (fun text => readInt32? text.toList) = some precision
  valid : 1 ≤ precision ∧ 0 ≤ scale ∧ scale ≤ precision

/-- The primitive types of leaves. -/
inductive HasPrimitive (s : Schema) : Primitive → Prop where
  | integer (kind : s.kind ∈ [.int8, .int16, .int32]) : HasPrimitive s .integer
  | bigint (kind : s.kind = .int64) : HasPrimitive s .bigint
  | double (kind : s.kind ∈ [.float32, .float64]) : HasPrimitive s .double
  | boolean (kind : s.kind = .boolean) : HasPrimitive s .boolean
  | string (kind : s.kind = .string) : HasPrimitive s .string
  | decimal {precision scale : Int} (carries : s.CarriesDecimals precision scale) :
      HasPrimitive s (.decimal precision scale)

/-- The kinds of leaves that have a type by their kind alone. -/
def leafKinds : List SchemaKind :=
  [.int8, .int16, .int32, .int64, .float32, .float64, .boolean, .string]

/-- The kinds of the keys of maps; bytes are keys when they carry decimals. -/
def keyKinds : List SchemaKind :=
  [.int8, .int16, .int32, .int64, .boolean, .string, .bytes]

/-- The schemas that have a type. -/
inductive Translatable : Schema → Prop where
  | leaf {s : Schema} (kind : s.kind ∈ leafKinds) : Translatable s
  | decimal {s : Schema} {precision scale : Int} (carries : s.CarriesDecimals precision scale) :
      Translatable s
  | array {s element : Schema} (kind : s.kind = .array) (hasElement : s.value = some element)
      (translatable : Translatable element) : Translatable s
  | map {s key value : Schema} (kind : s.kind = .map) (hasKey : s.key = some key)
      (hasValue : s.value = some value) (keyKind : key.kind ∈ keyKinds)
      (keyTranslatable : Translatable key) (valueTranslatable : Translatable value) :
      Translatable s
  /-- whatever its fields are -/
  | struct {s : Schema} (kind : s.kind = .struct) : Translatable s

mutual

/-- The types of schemas. -/
inductive HasType : Schema → SqlType → Prop where
  | primitive {s : Schema} {p : Primitive} (h : s.HasPrimitive p) : HasType s (.primitive p)
  | array {s element : Schema} {t : SqlType} (kind : s.kind = .array)
      (hasElement : s.value = some element) (typed : HasType element t) : HasType s (.array t)
  | map {s key value : Schema} {p : Primitive} {t : SqlType} (kind : s.kind = .map)
      (hasKey : s.key = some key) (hasValue : s.value = some value) (keyKind : key.kind ∈ keyKinds)
      (keyTyped : key.HasPrimitive p) (typed : HasType value t) : HasType s (.map p t)
  | struct {s : Schema} {row : RowType} (kind : s.kind = .struct)
      (fields : FieldsHaveTypes s.fields row) : HasType s (.struct row)

/-- The types of the fields of a struct: those that have a type, in order and in upper case. -/
inductive FieldsHaveTypes : List (String × Schema) → RowType → Prop where
  | nil : FieldsHaveTypes [] []
  | kept {name : String} {s : Schema} {t : SqlType} {rest : List (String × Schema)} {row : RowType}
      (typed : HasType s t) (others : FieldsHaveTypes rest row) :
      FieldsHaveTypes ((name, s) :: rest) ((uppercase name, t) :: row)
  | dropped {name : String} {s : Schema} {rest : List (String × Schema)} {row : RowType}
      (untyped : ¬ Translatable s) (others : FieldsHaveTypes rest row) :
      FieldsHaveTypes ((name, s) :: rest) row

end

/-! ## Reading the types of leaves -/

theorem isPrimitive_of_mem_leafKinds : ∀ {kind}, kind ∈ leafKinds → kind.isPrimitive = true := by
  decide

theorem isPrimitive_of_mem_keyKinds : ∀ {kind}, kind ∈ keyKinds → kind.isPrimitive = true := by
  decide

theorem isDecimal_iff :
    s.isDecimal = true ↔
      s.kind = .bytes ∧ ∃ name, s.name = some name ∧ asciiEqual name decimalLogicalName = true := by
  simp [isDecimal, Option.any_eq_true]

/-- The bounds in the parameters are read one by one. -/
theorem toDecimalType_eq_ok_iff (kind : s.kind = .bytes)
    (named : ∃ name, s.name = some name ∧ asciiEqual name decimalLogicalName = true) :
    s.toDecimalType = .ok p ↔
      ∃ precision scale, p = .decimal precision scale ∧ s.CarriesDecimals precision scale := by
  constructor
  · -- the ways to fail are passed over, one question after the other
    intro h
    unfold toDecimalType at h
    split at h
    · contradiction
    rename_i hasParameters
    split at h
    · contradiction
    rename_i scaleText hasScale
    split at h
    · contradiction
    rename_i scale scaleRead
    have parameters : s.parameters.isSome = true := by
      cases parameters : s.parameters with
      | none => simp [parameters] at hasParameters
      | some ps => rfl
    split at h
    · -- without a precision the default stands for it
      rename_i noPrecision
      obtain ⟨valid, rfl⟩ := Primitive.ofBounds_eq_ok_iff.mp (mapError_eq_ok_iff.mp h)
      refine ⟨_, _, rfl, kind, named, parameters, ⟨_, hasScale, scaleRead⟩, ?_, valid⟩
      exact congrArg (Option.elim · _ _) noPrecision
    · rename_i precisionText hasPrecision
      split at h
      · contradiction
      rename_i precision precisionRead
      obtain ⟨valid, rfl⟩ := Primitive.ofBounds_eq_ok_iff.mp (mapError_eq_ok_iff.mp h)
      refine ⟨_, _, rfl, kind, named, parameters, ⟨_, hasScale, scaleRead⟩, ?_, valid⟩
      exact (congrArg (Option.elim · _ _) hasPrecision).trans precisionRead
  · -- conversely, what the schema carries answers the questions in turn
    rintro ⟨precision, scale, rfl, carries⟩
    obtain ⟨-, -, hasParameters, ⟨scaleText, hasScale, scaleRead⟩, precisionRead, valid⟩ := carries
    have parameters : s.parameters.isNone = false := by
      rw [← Option.not_isSome, hasParameters]
      rfl
    have accepted : Primitive.ofBounds precision scale = .ok (.decimal precision scale) :=
      Primitive.ofBounds_eq_ok_iff.mpr ⟨valid, rfl⟩
    change s.scaleText? = some scaleText at hasScale
    change s.precisionText?.elim _ _ = _ at precisionRead
    simp only [toDecimalType, parameters, hasScale, scaleRead]
    cases hasPrecision : s.precisionText? with
    | none =>
      rw [hasPrecision] at precisionRead
      obtain rfl := Option.some.inj precisionRead
      simp [accepted, Except.mapError]
    | some precisionText =>
      rw [hasPrecision] at precisionRead
      change readInt32? precisionText.toList = some precision at precisionRead
      simp [precisionRead, accepted, Except.mapError]

/-- The primitive type of a leaf is read off its kind. -/
theorem toPrimitive_eq_ok_iff : s.toPrimitive = .ok p ↔ s.HasPrimitive p := by
  constructor
  · -- by the kind, each of which has one primitive type at most
    intro h
    cases kind : s.kind with
    | int8 | int16 | int32 =>
      simp only [toPrimitive, kind] at h
      obtain rfl := Except.ok.inj h
      exact .integer (by simp [kind])
    | int64 =>
      simp only [toPrimitive, kind] at h
      obtain rfl := Except.ok.inj h
      exact .bigint kind
    | float32 | float64 =>
      simp only [toPrimitive, kind] at h
      obtain rfl := Except.ok.inj h
      exact .double (by simp [kind])
    | boolean =>
      simp only [toPrimitive, kind] at h
      obtain rfl := Except.ok.inj h
      exact .boolean kind
    | string =>
      simp only [toPrimitive, kind] at h
      obtain rfl := Except.ok.inj h
      exact .string kind
    | bytes =>
      simp only [toPrimitive, kind] at h
      split at h
      · rename_i isDecimal
        obtain ⟨-, named⟩ := isDecimal_iff.mp isDecimal
        obtain ⟨precision, scale, rfl, carries⟩ := (toDecimalType_eq_ok_iff kind named).mp h
        exact .decimal carries
      · contradiction
    | array | map | struct => simp [toPrimitive, kind] at h
  · -- each primitive type comes of its own kinds
    intro h
    cases h with
    | integer kind =>
      simp only [List.mem_cons, List.not_mem_nil, or_false] at kind
      rcases kind with kind | kind | kind
      all_goals rw [toPrimitive, kind]
    | double kind =>
      simp only [List.mem_cons, List.not_mem_nil, or_false] at kind
      rcases kind with kind | kind
      all_goals rw [toPrimitive, kind]
    | decimal carries =>
      have isDecimal := isDecimal_iff.mpr ⟨carries.kind, carries.named⟩
      rw [toPrimitive, carries.kind]
      apply (if_pos isDecimal).trans
      exact (toDecimalType_eq_ok_iff carries.kind carries.named).mpr ⟨_, _, rfl, carries⟩
    | bigint kind | boolean kind | string kind => rw [toPrimitive, kind]

/-- The leaves with a primitive type are those that have it by their kind, and decimals. -/
theorem HasPrimitive.mem_leafKinds_or (h : s.HasPrimitive p) :
    s.kind ∈ leafKinds ∨ ∃ precision scale, s.CarriesDecimals precision scale := by
  cases h with
  | decimal carries => exact .inr ⟨_, _, carries⟩
  | integer kind | double kind =>
    left
    simp only [leafKinds, List.mem_cons, List.not_mem_nil, or_false] at kind ⊢
    tauto
  | bigint kind | boolean kind | string kind => exact .inl (by simp [kind, leafKinds])

/-- A leaf has a primitive type when its kind has one, or when it carries decimals. -/
theorem exists_hasPrimitive_iff (leaf : s.kind.isPrimitive = true) :
    (∃ p, s.HasPrimitive p) ↔ s.Translatable := by
  constructor
  · -- a primitive type comes of a kind that has one, or of a decimal
    rintro ⟨p, h⟩
    rcases h.mem_leafKinds_or with kind | ⟨precision, scale, carries⟩
    · exact .leaf kind
    · exact .decimal carries
  · intro h
    cases h with
    | leaf kind =>
      simp only [leafKinds, List.mem_cons, List.not_mem_nil, or_false] at kind
      rcases kind with kind | kind | kind | kind | kind | kind | kind | kind
      · exact ⟨_, .integer (by simp [kind])⟩
      · exact ⟨_, .integer (by simp [kind])⟩
      · exact ⟨_, .integer (by simp [kind])⟩
      · exact ⟨_, .bigint kind⟩
      · exact ⟨_, .double (by simp [kind])⟩
      · exact ⟨_, .double (by simp [kind])⟩
      · exact ⟨_, .boolean kind⟩
      · exact ⟨_, .string kind⟩
    | decimal carries => exact ⟨_, .decimal carries⟩
    | array kind | map kind | struct kind => simp [kind, SchemaKind.isPrimitive] at leaf

theorem mayBeKey_iff : s.mayBeKey = true ↔ s.kind ∈ keyKinds ∧ (s.kind = .bytes → s.isDecimal) := by
  cases kind : s.kind <;> simp [mayBeKey, kind, keyKinds]

/-- The type of the keys of a map is their primitive type, where their kind is one of keys. -/
theorem toKeyType_eq_ok_iff : s.toKeyType = .ok p ↔ s.kind ∈ keyKinds ∧ s.HasPrimitive p := by
  rw [toKeyType]
  split
  · -- a key has the type that it would have elsewhere
    rename_i may
    rw [toPrimitive_eq_ok_iff]
    exact (and_iff_right (mayBeKey_iff.mp may).1).symm
  · rename_i mayNot
    apply iff_of_false (by simp)
    rintro ⟨keyKind, h⟩
    refine mayNot (mayBeKey_iff.mpr ⟨keyKind, fun bytes => ?_⟩)
    -- the only leaves of bytes with a type are decimals
    cases h with
    | decimal carries => exact isDecimal_iff.mpr ⟨carries.kind, carries.named⟩
    | _ kind => simp [bytes] at kind

theorem HasPrimitive.isPrimitive (h : s.HasPrimitive p) : s.kind.isPrimitive = true := by
  rcases h.mem_leafKinds_or with kind | ⟨precision, scale, carries⟩
  · exact isPrimitive_of_mem_leafKinds kind
  · rw [carries.kind]
    rfl

/-! ## One layer -/

theorem toSqlType_leaf_eq_ok_iff {t : SqlType} (leaf : s.kind.isPrimitive = true) :
    s.toSqlType = .ok t ↔ ∃ p, s.toPrimitive = .ok p ∧ .primitive p = t := by
  rw [← map_eq_ok_iff]
  obtain ⟨kind, optional, name, parameters, fields, key, value⟩ := s
  cases kind with
  | array | map | struct => contradiction
  | _ => rfl

theorem toSqlType_array_eq_ok_iff {t : SqlType} (kind : s.kind = .array) :
    s.toSqlType = .ok t ↔
      ∃ element, s.value = some element ∧ ∃ t', element.toSqlType = .ok t' ∧ .array t' = t := by
  obtain ⟨kind, optional, name, parameters, fields, key, value⟩ := s
  subst kind
  cases value with
  | none => simp [toSqlType]
  | some element => simp [toSqlType, map_eq_ok_iff]

theorem toSqlType_map_eq_ok_iff {t : SqlType} (kind : s.kind = .map) :
    s.toSqlType = .ok t ↔
      ∃ key value, s.key = some key ∧ s.value = some value ∧
        ∃ p, key.toKeyType = .ok p ∧ ∃ t', value.toSqlType = .ok t' ∧ .map p t' = t := by
  -- a map without a key or a value has no type
  obtain ⟨kind, optional, name, parameters, fields, key, value⟩ := s
  subst kind
  cases key with
  | none => simp [toSqlType]
  | some key =>
    cases value with
    | none => simp [toSqlType]
    | some value =>
      simp only [toSqlType, bind_eq_ok_iff, pure, Except.pure, Except.ok.injEq, Option.some.injEq,
        exists_eq_left', existsAndEq, true_and]

theorem toSqlType_struct {s : Schema} (kind : s.kind = .struct) :
    s.toSqlType = .ok (.struct (fieldsToSqlTypes s.fields)) := by
  obtain ⟨kind, optional, name, parameters, fields, key, value⟩ := s
  subst kind
  rfl

/-- What holds of a schema when it holds of its element or value schema and of those of its fields,
holds of every schema. -/
@[elab_as_elim]
theorem partRec {motive : Schema → Prop}
    (whole : ∀ s : Schema, (∀ value, s.value = some value → motive value) →
      (∀ f ∈ s.fields, motive f.2) → motive s) (s : Schema) : motive s :=
  Schema.rec (motive_2 := fun fields => ∀ f ∈ fields, motive f.2)
    (motive_3 := fun part => ∀ s, part = some s → motive s) (motive_4 := fun f => motive f.2)
    (fun _ _ _ _ _ _ _ fields _ value => whole _ value fields) (by simp)
    (fun _ _ first rest => List.forall_mem_cons.mpr ⟨first, rest⟩) (by simp)
    (fun _ part _ same => Option.some.inj same ▸ part) (fun _ _ h => h) s

/-! ## Every layer -/

/-- The translation succeeds for the schemas that have a type. -/
theorem exists_toSqlType_iff : (∃ t, s.toSqlType = .ok t) ↔ s.Translatable := by
  -- by the parts of the schema
  induction s using partRec with
  | whole s parts fields =>
    constructor
    · -- what has a type has types for its parts
      rintro ⟨t, h⟩
      cases kind : s.kind with
      | array =>
        obtain ⟨element, hasElement, t', typed, -⟩ := (toSqlType_array_eq_ok_iff kind).mp h
        exact .array kind hasElement ((parts element hasElement).mp ⟨t', typed⟩)
      | map =>
        obtain ⟨key, value, hasKey, hasValue, p, keyTyped, t', typed, -⟩ :=
          (toSqlType_map_eq_ok_iff kind).mp h
        obtain ⟨keyKind, keyTyped⟩ := toKeyType_eq_ok_iff.mp keyTyped
        have keyTranslatable := (exists_hasPrimitive_iff keyTyped.isPrimitive).mp ⟨p, keyTyped⟩
        exact .map kind hasKey hasValue keyKind keyTranslatable
          ((parts value hasValue).mp ⟨t', typed⟩)
      | struct => exact .struct kind
      | _ =>
        have leaf : s.kind.isPrimitive = true := by rw [kind]; rfl
        obtain ⟨p, typed, -⟩ := (toSqlType_leaf_eq_ok_iff leaf).mp h
        exact (exists_hasPrimitive_iff leaf).mp ⟨p, toPrimitive_eq_ok_iff.mp typed⟩
    · -- and where the parts have types, there is one for the whole
      intro h
      have ofLeaf (leaf : s.kind.isPrimitive = true) : ∃ t, s.toSqlType = .ok t := by
        obtain ⟨p, typed⟩ := (exists_hasPrimitive_iff leaf).mpr h
        exact ⟨_, (toSqlType_leaf_eq_ok_iff leaf).mpr ⟨p, toPrimitive_eq_ok_iff.mpr typed, rfl⟩⟩
      cases h with
      | leaf kind => exact ofLeaf (isPrimitive_of_mem_leafKinds kind)
      | decimal carries =>
        apply ofLeaf
        rw [carries.kind]
        rfl
      | array kind hasElement translatable =>
        obtain ⟨t, typed⟩ := (parts _ hasElement).mpr translatable
        exact ⟨_, (toSqlType_array_eq_ok_iff kind).mpr ⟨_, hasElement, t, typed, rfl⟩⟩
      | @map _ key value kind hasKey hasValue keyKind keyTranslatable valueTranslatable =>
        obtain ⟨p, keyTyped⟩ :=
          (exists_hasPrimitive_iff (isPrimitive_of_mem_keyKinds keyKind)).mpr keyTranslatable
        obtain ⟨t, typed⟩ := (parts _ hasValue).mpr valueTranslatable
        exact ⟨_, (toSqlType_map_eq_ok_iff kind).mpr ⟨key, value, hasKey, hasValue, p,
          toKeyType_eq_ok_iff.mpr ⟨keyKind, keyTyped⟩, t, typed, rfl⟩⟩
      | struct kind => exact ⟨_, toSqlType_struct kind⟩

/-- The fields of a struct are translated when their types are known. -/
theorem fieldsHaveTypes_iff {fields : List (String × Schema)} {row : RowType}
    (types : ∀ f ∈ fields, ∀ t, f.2.toSqlType = .ok t ↔ f.2.HasType t) :
    FieldsHaveTypes fields row ↔ fieldsToSqlTypes fields = row := by
  -- by the fields, of which those without a type are left out
  induction fields generalizing row with
  | nil =>
    constructor
    · intro h
      cases h
      rfl
    · rintro rfl
      exact .nil
  | cons f rest ih =>
    obtain ⟨name, schema⟩ := f
    obtain ⟨first, others⟩ := List.forall_mem_cons.mp types
    rw [fieldsToSqlTypes]
    constructor
    · intro h
      cases h with
      | kept typed fields => rw [(first _).mpr typed, ← (ih others).mp fields]
      | dropped untyped fields =>
        -- a field that is dropped has no type, so its translation failed
        rw [← exists_toSqlType_iff] at untyped
        cases typed : schema.toSqlType with
        | ok t => exact absurd ⟨t, typed⟩ untyped
        | error e => exact (ih others).mp fields
    · rintro rfl
      cases typed : schema.toSqlType with
      | ok t => exact .kept ((first t).mp typed) ((ih others).mpr rfl)
      | error e =>
        refine .dropped (fun translatable => ?_) ((ih others).mpr rfl)
        obtain ⟨t, typed'⟩ := exists_toSqlType_iff.mpr translatable
        cases typed.symm.trans typed'

/-- The translation yields the type that a schema has. -/
theorem toSqlType_eq_ok_iff {t : SqlType} : s.toSqlType = .ok t ↔ s.HasType t := by
  induction s using partRec generalizing t with
  | whole s parts fields =>
    -- the types of the fields are known by induction, so the row is the one that is translated
    have row : FieldsHaveTypes s.fields (fieldsToSqlTypes s.fields) :=
      (fieldsHaveTypes_iff fun f member t => fields f member).mpr rfl
    constructor
    · intro h
      cases kind : s.kind with
      | array =>
        obtain ⟨element, hasElement, t', typed, rfl⟩ := (toSqlType_array_eq_ok_iff kind).mp h
        exact .array kind hasElement ((parts element hasElement).mp typed)
      | map =>
        obtain ⟨key, value, hasKey, hasValue, p, keyTyped, t', typed, rfl⟩ :=
          (toSqlType_map_eq_ok_iff kind).mp h
        obtain ⟨keyKind, keyTyped⟩ := toKeyType_eq_ok_iff.mp keyTyped
        exact .map kind hasKey hasValue keyKind keyTyped ((parts value hasValue).mp typed)
      | struct =>
        obtain rfl := Except.ok.inj ((toSqlType_struct kind).symm.trans h)
        exact .struct kind row
      | _ =>
        have leaf : s.kind.isPrimitive = true := by rw [kind]; rfl
        obtain ⟨p, typed, rfl⟩ := (toSqlType_leaf_eq_ok_iff leaf).mp h
        exact .primitive (toPrimitive_eq_ok_iff.mp typed)
    · intro h
      cases h with
      | primitive h =>
        exact (toSqlType_leaf_eq_ok_iff h.isPrimitive).mpr ⟨_, toPrimitive_eq_ok_iff.mpr h, rfl⟩
      | array kind hasElement typed =>
        exact (toSqlType_array_eq_ok_iff kind).mpr
          ⟨_, hasElement, _, (parts _ hasElement).mpr typed, rfl⟩
      | map kind hasKey hasValue keyKind keyTyped typed =>
        exact (toSqlType_map_eq_ok_iff kind).mpr ⟨_, _, hasKey, hasValue, _,
          toKeyType_eq_ok_iff.mpr ⟨keyKind, keyTyped⟩, _, (parts _ hasValue).mpr typed, rfl⟩
      | struct kind h =>
        rw [toSqlType_struct kind, (fieldsHaveTypes_iff fun f member t => fields f member).mp h]

/-- Only structs have the types of structs. -/
theorem HasType.kind_eq_struct {row : RowType} (h : s.HasType (.struct row)) :
    s.kind = .struct := by
  cases h with
  | struct kind => exact kind

/-! ## Schemas of records -/

/-- A schema has a type when it is translatable, and the type has the translatable fields of each of
its structs, in order and in upper case. At the root a struct gives a row, another translatable
schema is reported by its kind, and whatever has no type is reported with the cause. -/
theorem translation_lenient (s : Schema) :
    ((∃ t, s.toSqlType = .ok t) ↔ s.Translatable) ∧
    (∀ t, s.toSqlType = .ok t ↔ s.HasType t) ∧
    (∀ row, s.toRowType = .ok row ↔ s.HasType (.struct row)) ∧
    ((∃ row, s.toRowType = .ok row) ↔ s.kind = .struct) ∧
    (∀ kind, s.toRowType = .error (.notStructured kind) ↔
      s.Translatable ∧ s.kind ≠ .struct ∧ kind = s.kind) ∧
    ((∃ cause, s.toRowType = .error (.unsupportedRoot cause)) ↔ ¬ s.Translatable) := by
  refine ⟨exists_toSqlType_iff, fun t => toSqlType_eq_ok_iff, ?_⟩
  simp only [← toSqlType_eq_ok_iff, ← exists_toSqlType_iff]
  rw [toRowType]
  -- a schema without a type is no struct, since structs have types in any case
  cases typed : s.toSqlType with
  | error cause =>
    have notStruct : s.kind ≠ .struct := fun kind => by
      cases typed.symm.trans (toSqlType_struct kind)
    simp [notStruct]
  | ok t =>
    cases t with
    | struct row =>
      have kind : s.kind = .struct := (toSqlType_eq_ok_iff.mp typed).kind_eq_struct
      simp [kind]
    | primitive p | array element | map key value =>
      have notStruct : s.kind ≠ .struct := fun kind => by
        cases typed.symm.trans (toSqlType_struct kind)
      simp [notStruct, eq_comm]

end Schema

end Sluice
