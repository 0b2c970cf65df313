import Sluice.Proofs.Avro.RoundTrip
import Sluice.Proofs.Avro.Uniqueness

/-!
# Generating again

A generated Avro schema that is read back as a structured schema looks different from the schema it
was generated for: names are cleaned, records have names, the bounds of decimals stand under other
keys, and the keys of maps are strings. Nothing of this shows in what is generated for it, which is
the same Avro schema again.

## Main definitions

* `Avro.Yields`: the values that a step of the conversion can have, from any names.

## Main statements

* `Avro.typeOf_of_yields`: what is generated for a schema that was read back.
* `Avro.generate_of_toSchema`: the same of whole schemas.
-/

namespace Sluice.Avro

open Json Number

/-! ## Values of steps -/

/-- A step has the value, from some names that are known before. -/
def Yields {α : Type} (step : Conversion α) (value : α) : Prop :=
  ∃ names names', step names = .ok (value, names')

section

variable {α β : Type} {step : Conversion α} {b : β}

theorem yields_pure_iff {a a' : α} : Yields (pure a : Conversion α) a' ↔ a' = a := by
  constructor
  · rintro ⟨names, names', h⟩
    obtain ⟨rfl, -⟩ := Prod.mk.inj (Except.ok.inj h)
    rfl
  · rintro rfl
    exact ⟨{}, {}, rfl⟩

/-- Two steps yield a value only if the first yields one from which the second does. -/
theorem Yields.exists_of_bind {next : α → Conversion β} (h : Yields (step >>= next) b) :
    ∃ a, Yields step a ∧ Yields (next a) b := by
  obtain ⟨names, names', h⟩ := h
  obtain ⟨⟨a, names₁⟩, first, second⟩ := bind_eq_ok_iff.mp h
  exact ⟨a, ⟨names, names₁, first⟩, names₁, names', second⟩

/-- A step whose value is changed yields changed values only. -/
theorem Yields.exists_of_map {change : α → β} (h : Yields (do return change (← step)) b) :
    ∃ a, Yields step a ∧ b = change a := by
  obtain ⟨a, first, second⟩ := Yields.exists_of_bind h
  exact ⟨a, first, yields_pure_iff.mp second⟩

end

/-! ## Types that are generated again -/

theorem typeOf_asOptional (s : Schema) (name outer : String) :
    typeOf s.asOptional name outer = typeOf s name outer := by
  cases s with
  | mk kind optional name parameters fields key value => cases kind <;> cases value <;> rfl

/-- What is generated for any schema is not the name of the null type. -/
theorem typeOf_isString_null {s : Schema} {name outer : String} {v : Value}
    (h : typeOf s name outer = .ok v) : v.isString "null" = false := by
  obtain ⟨t, rfl, -⟩ := exists_form_of_typeOf s h
  exact form_isString_null

/-- A primitive form is generated again for what it is read back as. -/
theorem typeOf_of_yields_primitiveForm {p : Primitive} (valid : p.WellFormed) {s : Schema}
    {ns : Option String} (h : Yields (convert (primitiveForm p) ns) s) (name outer : String) :
    typeOf s name outer = .ok (primitiveForm p) := by
  cases p with
  | decimal precision scale =>
    rw [primitiveForm, convert_decimal valid.2.1 valid.2.2, yields_pure_iff] at h
    subst h
    exact decimalOf_eq spells_decimalViaAvro valid
  | _ =>
    obtain rfl := yields_pure_iff.mp h
    rfl

/-- A type beside the null type is read back as the optional schema of what it is read back as. -/
theorem exists_of_yields_nullable {v : Value} (notNull : v.isString "null" = false) {s : Schema}
    {ns : Option String} (h : Yields (convert (nullable v) ns) s) :
    ∃ inner, Yields (convert v ns) inner ∧ s = inner.asOptional := by
  rw [convert_nullable notNull] at h
  exact h.exists_of_map

/-- A record is read back as the struct of the fields that its fields are read back as. -/
theorem exists_of_yields_record {name outer : String} {vs : List Value} {s : Schema}
    {ns : Option String} (h : Yields (convert (record name outer vs) ns) s) :
    ∃ fields inner full, Yields (convertFields vs inner) fields ∧
      s = (Schema.struct fields).withName full := by
  rw [convert_record] at h
  obtain ⟨⟨full, fields⟩, first, second⟩ := h.exists_of_bind
  obtain ⟨⟨full', inner⟩, -, converted⟩ := first.exists_of_bind
  obtain ⟨fields', converted, same⟩ := converted.exists_of_map
  obtain ⟨rfl, rfl⟩ := Prod.mk.inj same
  obtain ⟨-, -, returned⟩ := second.exists_of_bind
  exact ⟨fields, inner, full, converted, yields_pure_iff.mp returned⟩

mutual

/-- What is generated for a schema is generated again for what it is read back as. -/
theorem typeOf_of_yields {name outer : String} {ns : Option String} {v : Value} {s' : Schema} :
    (s : Schema) → typeOf s name outer = .ok v → Yields (convert v ns) s' →
      typeOf s' name outer = .ok v
  | ⟨.array, _, _, _, _, _, none⟩, h, _ => by cases h
  | ⟨.array, _, _, _, _, _, some element⟩, h, back => by
    -- what comes back is an optional element, and options are not looked at
    obtain ⟨w, hw, rfl⟩ := map_eq_ok_iff.mp h
    rw [convert_array] at back
    obtain ⟨items, backItems, rfl⟩ := back.exists_of_map
    obtain ⟨inner, backInner, rfl⟩ := exists_of_yields_nullable (typeOf_isString_null hw) backItems
    show (typeOf inner.asOptional name outer).map array = _
    rw [typeOf_asOptional, typeOf_of_yields element hw backInner]
    rfl
  | ⟨.map, _, _, _, _, _, none⟩, h, _ => by cases h
  | ⟨.map, _, _, _, _, _, some value⟩, h, back => by
    -- no key was generated, so only the value has to come back
    obtain ⟨w, hw, rfl⟩ := map_eq_ok_iff.mp h
    rw [convert_map] at back
    obtain ⟨values, backValues, rfl⟩ := back.exists_of_map
    obtain ⟨inner, backInner, rfl⟩ := exists_of_yields_nullable (typeOf_isString_null hw) backValues
    show (typeOf inner.asOptional name outer).map map = _
    rw [typeOf_asOptional, typeOf_of_yields value hw backInner]
    rfl
  | ⟨.struct, _, _, _, fields, _, _⟩, h, back => by
    obtain ⟨ws, hws, rfl⟩ := map_eq_ok_iff.mp h
    obtain ⟨fields', inner, full, backFields, rfl⟩ := exists_of_yields_record back
    -- the name that the record got is not looked at
    show (fieldsOf fields' (joinName outer name)).map (record name outer) = _
    rw [fieldsOf_of_yields fields hws backFields]
    rfl
  | ⟨.boolean, _, _, _, _, _, _⟩, h, back | ⟨.string, _, _, _, _, _, _⟩, h, back
  | ⟨.bytes, _, _, _, _, _, _⟩, h, back | ⟨.int8, _, _, _, _, _, _⟩, h, back
  | ⟨.int16, _, _, _, _, _, _⟩, h, back | ⟨.int32, _, _, _, _, _, _⟩, h, back
  | ⟨.int64, _, _, _, _, _, _⟩, h, back | ⟨.float32, _, _, _, _, _, _⟩, h, back
  | ⟨.float64, _, _, _, _, _, _⟩, h, back => by
    obtain ⟨p, valid, rfl⟩ := exists_primitiveForm h
    exact typeOf_of_yields_primitiveForm valid back name outer

/-- What is generated for fields is generated again for the fields it is read back as. -/
theorem fieldsOf_of_yields {inner : String} {ns : Option String} {vs : List Value}
    {fields' : List (String × Schema)} :
    (fields : List (String × Schema)) → fieldsOf fields inner = .ok vs →
      Yields (convertFields vs ns) fields' → fieldsOf fields' inner = .ok vs
  | [], h, back => by
    obtain rfl := Except.ok.inj h
    obtain rfl := yields_pure_iff.mp back
    rfl
  | (name, schema) :: rest, h, back => by
    -- the names of fields and their types, in the order of the fields
    obtain ⟨w, hw, h⟩ := bind_eq_ok_iff.mp h
    obtain ⟨ws, hws, h⟩ := bind_eq_ok_iff.mp h
    obtain rfl := Except.ok.inj h
    rw [convertFields, convertField_field] at back
    obtain ⟨f, backField, backOthers⟩ := back.exists_of_bind
    obtain ⟨s, backNullable, rfl⟩ := backField.exists_of_map
    obtain ⟨s', backType, rfl⟩ := exists_of_yields_nullable (typeOf_isString_null hw) backNullable
    obtain ⟨rest', backRest, rfl⟩ := backOthers.exists_of_map
    -- the field comes back under its cleaned name, which is clean
    rw [fieldsOf, cleanName_cleanName, typeOf_asOptional, typeOf_of_yields schema hw backType]
    exact bind_eq_ok_iff.mpr
      ⟨_, rfl, bind_eq_ok_iff.mpr ⟨_, fieldsOf_of_yields rest hws backRest, rfl⟩⟩

end

/-! ## Whole schemas -/

theorem generate_eq_ok_iff {s : Schema} {name : String} {v : Value} :
    generate s name = .ok v ↔
      s.kind = .struct ∧ typeOf s (cleanName name) defaultNamespace = .ok v := by
  unfold generate
  split
  · rename_i struct
    exact ⟨fun h => ⟨struct, h⟩, fun h => h.2⟩
  · rename_i other
    constructor
    · intro h
      cases h
    · rintro ⟨struct, -⟩
      exact absurd struct other

/-- What was generated for a struct is read back as a struct. -/
theorem kind_of_yields {s s' : Schema} {name outer : String} {ns : Option String} {v : Value}
    (struct : s.kind = .struct) (h : typeOf s name outer = .ok v)
    (back : Yields (convert v ns) s') : s'.kind = .struct := by
  obtain ⟨kind, _, _, _, fields, _, _⟩ := s
  obtain rfl : kind = .struct := struct
  obtain ⟨ws, -, rfl⟩ := map_eq_ok_iff.mp h
  obtain ⟨fields', inner, full, -, rfl⟩ := exists_of_yields_record back
  rfl

/-- A generated Avro schema is generated again, under the same name, for the structured schema that
it is read back as. -/
theorem generate_of_toSchema {s s' : Schema} {name : String} {v : Value}
    (generated : generate s name = .ok v) (back : toSchema v = .ok s') :
    generate s' name = .ok v := by
  obtain ⟨⟨s₁, names⟩, converted, same⟩ := map_eq_ok_iff.mp back
  obtain rfl : s₁ = s' := same
  have yields : Yields (convert v none) s₁ := ⟨{}, names, converted⟩
  obtain ⟨struct, type⟩ := generate_eq_ok_iff.mp generated
  apply generate_eq_ok_iff.mpr
  exact ⟨kind_of_yields struct type yields, typeOf_of_yields s type yields⟩

/-- What is read back may look different: a decimal under another spelling of its logical name, with
its bounds in text, keys of maps that are integers, and names that are not those of Avro. -/
theorem generate_of_toSchema_renamed :
    let price : Schema := { Schema.leaf .bytes with
      name := some "ORG.apache.kafka.connect.data.decimal"
      parameters := some [("scale", "+2"), ("precision", "x"),
        ("connect.decimal.precision", "007")] }
    let s : Schema := Schema.struct [
      ("line-items", Schema.array (Schema.struct [("unit-price", price)])),
      ("stock.by.id", Schema.map (Schema.leaf .int32) (Schema.leaf .int64))]
    let v := record "my_order" "rill" [
      field "line_items" (array (record "line_items" "rill.my_order" [
        field "unit_price" (decimal 7 2)])),
      field "stock_by_id" (map (.string "long"))]
    let price' := (((Schema.leaf .bytes).withName decimalLogicalName).withParameter scaleKey "2")
      |>.withParameter converterPrecisionKey "7"
    let item' := (Schema.struct [("unit_price", price'.asOptional)]).withName
      "rill.my_order.line_items"
    let stock' := Schema.map (Schema.leaf .string) (Schema.leaf .int64).asOptional
    let s' := (Schema.struct [
      ("line_items", (Schema.array item'.asOptional).asOptional),
      ("stock_by_id", stock'.asOptional)]).withName "rill.my_order"
    generate s "my-order" = .ok v ∧ toSchema v = .ok s' ∧ generate s' "my-order" = .ok v := by
  intro price s v price' item' stock' s'
  have generated : generate s "my-order" = .ok v := by rfl
  have back : toSchema v = .ok s' := by rfl
  exact ⟨generated, back, generate_of_toSchema generated back⟩

end Sluice.Avro
