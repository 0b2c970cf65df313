import Sluice.Avro.Convert
import Sluice.Proofs.Avro.RecordNames
import Sluice.Proofs.SqlType.Shape

/-!
# Converting forms

The conversion of a form is a step that defines the full names of its records, in their order. Such
a step succeeds exactly when the names are new and different; otherwise it fails at a name that is
defined again. Steps of this kind follow one another, which gives the conversion of a form from the
conversions of its parts.

## Main definitions

* `Avro.Defines`: the steps that define given names.
* `Avro.definedName?`: the full name that an object defines.
* `SqlType.viaAvro`: what is left of a type on the way to Avro and back.

## Main statements

* `Avro.exists_defines_form`: converting a form defines the names of its records, and the schema
  that comes of it has the type that is left.
-/

namespace Sluice

open Json Number Text

namespace Avro

/-! ## Steps that define names -/

/-- The name is defined, or its definition is under way. -/
def Names.knows (names : Names) (full : String) : Prop :=
  ((names.defined.lookup full).isSome || names.underWay.contains full) = true

/-- The names are new, and all different. -/
def Fresh (names : Names) (fulls : List String) : Prop :=
  fulls.Nodup ∧ ∀ full ∈ fulls, ¬names.knows full

/-- A step that defines the names given and nothing else. -/
structure Defines {α : Type} (step : Conversion α) (fulls : List String) (value : α) : Prop where
  succeeds : ∀ names, Fresh names fulls → ∃ names', step names = .ok (value, names') ∧
    ∀ full, names'.knows full ↔ names.knows full ∨ full ∈ fulls
  fails : ∀ names, ¬Fresh names fulls → ∃ full, step names = .error (.invalid (.duplicate full))

theorem fresh_nil {names : Names} : Fresh names [] :=
  ⟨List.nodup_nil, by simp⟩

/-- Names are fresh when the first ones are, and the others are after those are known. -/
theorem fresh_append_iff {names names' : Names} {fulls others : List String}
    (known : ∀ full, names'.knows full ↔ names.knows full ∨ full ∈ fulls) :
    Fresh names (fulls ++ others) ↔ Fresh names fulls ∧ Fresh names' others := by
  simp only [Fresh, known, not_or, List.nodup_append', List.mem_append, or_imp, forall_and,
    List.disjoint_right]
  tauto

section

variable {α β : Type} {fulls others : List String}

theorem Defines.pure (value : α) : Defines (pure value) [] value where
  succeeds names _ := ⟨names, rfl, by simp⟩
  fails _ h := absurd fresh_nil h

/-- Two steps define the names of both. -/
theorem Defines.bind {step : Conversion α} {value : α} {next : α → Conversion β} {value' : β}
    (first : Defines step fulls value) (second : Defines (next value) others value') :
    Defines (step >>= next) (fulls ++ others) value' where
  succeeds names fresh := by
    -- what the first step defines is known to the second one
    have freshFirst : Fresh names fulls :=
      ⟨(List.nodup_append.mp fresh.1).1, fun full h => fresh.2 full (List.mem_append_left _ h)⟩
    obtain ⟨names₁, h₁, known₁⟩ := first.succeeds names freshFirst
    obtain ⟨names₂, h₂, known₂⟩ := second.succeeds names₁ ((fresh_append_iff known₁).mp fresh).2
    refine ⟨names₂, bind_eq_ok_iff.mpr ⟨_, h₁, h₂⟩, fun full => ?_⟩
    rw [known₂, known₁, List.mem_append, or_assoc]
  fails names notFresh := by
    -- some name is known already, or comes twice: the first step that meets one fails
    by_cases freshFirst : Fresh names fulls
    · obtain ⟨names₁, h₁, known₁⟩ := first.succeeds names freshFirst
      obtain ⟨full, h₂⟩ := second.fails names₁ fun freshSecond =>
        notFresh ((fresh_append_iff known₁).mpr ⟨freshFirst, freshSecond⟩)
      exact ⟨full, bind_eq_error_iff.mpr (.inr ⟨_, h₁, h₂⟩)⟩
    · obtain ⟨full, h₁⟩ := first.fails names freshFirst
      exact ⟨full, bind_eq_error_iff.mpr (.inl h₁)⟩

/-- A step whose value is changed defines the names that the step does. -/
theorem Defines.map {step : Conversion α} {value : α} (h : Defines step fulls value)
    (change : α → β) : Defines (do return change (← step)) fulls (change value) := by
  have both : Defines (do return change (← step)) (fulls ++ []) (change value) :=
    h.bind (.pure (change value))
  rwa [List.append_nil] at both

/-- To end the definition of a name that is defined already adds nothing. -/
theorem knows_define {names : Names} {full other : String} {schema : Schema} :
    Names.knows ⟨(full, schema) :: names.defined, names.underWay.filter (· != full)⟩ other ↔
      names.knows other ∨ other = full := by
  -- the name moves from those under way to those defined, and others stay where they are
  by_cases same : other = full
  · simp [Names.knows, same]
  · have differs : (other == full) = false := by simpa using same
    simp [Names.knows, List.lookup_cons, differs, same]

/-- A step that ends the definition of one of its names defines its names still. -/
theorem Defines.define {step : Conversion (String × α)} {full : String} {value : α}
    (h : Defines step fulls (full, value)) (mem : full ∈ fulls) (schema : String → α → Schema) :
    Defines (do
      let (full, a) ← step
      Avro.define full (schema full a)
      return schema full a) fulls (schema full value) where
  succeeds names fresh := by
    -- the step succeeds or fails as before, and ending the definition never fails
    obtain ⟨names₁, h₁, known⟩ := h.succeeds names fresh
    refine ⟨_, bind_eq_ok_iff.mpr ⟨_, h₁, rfl⟩, fun other => ?_⟩
    -- the name is among those that the step defined
    rw [knows_define, known, or_assoc, or_iff_left_of_imp (b := other = full)]
    rintro rfl
    exact mem
  fails names notFresh := by
    obtain ⟨full', h₁⟩ := h.fails names notFresh
    exact ⟨full', bind_eq_error_iff.mpr (.inl h₁)⟩

end

/-! ## Conversions of forms -/

/-- The full name that an object defines in a namespace, if it has a name. -/
def definedName? (members : List (String × Value)) (outer : Option String) : Option String :=
  ((members.lookup "name").bind Value.string?).map fun name =>
    fullName name (((members.lookup "namespace").bind Value.string?).or outer)

/-- To begin a definition takes a full name that is new. -/
theorem declare_eq {members : List (String × Value)} {outer : Option String} {full : String}
    (named : definedName? members outer = some full) (names : Names) :
    declare members outer names =
      if (names.defined.lookup full).isSome || names.underWay.contains full then
        .error (.invalid (.duplicate full))
      else .ok ((full, namespace? full), { names with underWay := full :: names.underWay }) := by
  obtain ⟨name, found, rfl⟩ := Option.map_eq_some_iff.mp named
  simp only [declare, found]
  change (if _ then _ else _ : Conversion _) names = _
  split
  · rfl
  · rfl

/-- To begin a definition defines its full name. -/
theorem defines_declare {members : List (String × Value)} {outer : Option String} {full : String}
    (named : definedName? members outer = some full) :
    Defines (declare members outer) [full] (full, namespace? full) where
  succeeds names fresh := by
    have new : ¬names.knows full := fresh.2 full List.mem_cons_self
    refine ⟨_, (declare_eq named names).trans (if_neg new), fun other => ?_⟩
    simp only [Names.knows, List.contains_cons, Bool.or_eq_true, beq_iff_eq, List.mem_singleton]
    tauto
  fails names notFresh := by
    have known : names.knows full := by
      by_contra new
      exact notFresh ⟨List.nodup_singleton full, by simpa using new⟩
    exact ⟨full, (declare_eq named names).trans (if_pos known)⟩

theorem convert_nullable {v : Value} {ns : Option String} (h : v.isString "null" = false) :
    convert (nullable v) ns = (do return (← convert v ns).asOptional) := by
  have hasOne : hasOneType [.string "null", v] = true := by
    rw [hasOneType, List.filter_cons_of_neg (by decide), List.filter_cons_of_pos (by simp [h])]
    rfl
  rw [nullable, convert, if_pos hasOne, convertVariant, if_pos (by rfl), convertVariant,
    if_neg (by simp [h])]
  rfl

theorem convert_array {v : Value} {ns : Option String} :
    convert (array v) ns = (do return Schema.array (← convert (nullable v) ns)) := by
  rw [array, convert]
  rfl

theorem convert_map {v : Value} {ns : Option String} :
    convert (map v) ns =
      (do return Schema.map (Schema.leaf .string) (← convert (nullable v) ns)) := by
  rw [map, convert]
  rfl

theorem convertField_field {name : String} {type : Value} {inner : Option String} :
    convertField (field name type) inner = (do return (name, ← convert (nullable type) inner)) := by
  rw [field, convertField]
  rfl

/-- The conversion of a record declares its name, converts its fields and defines the name. -/
theorem convert_record {name outer : String} {fields : List Value} {ns : Option String} :
    convert (record name outer fields) ns = (do
      let (full, schemas) ← (do
        let (full, inner) ← declare (recordMembers name outer fields) ns
        return (full, ← convertFields fields inner))
      let schema := (Schema.struct schemas).withName full
      define full schema
      return schema) := by
  rw [record, convert]
  simp only [bind_assoc, pure_bind]
  rfl

/-- A record defines its full name, then the names that its fields define. -/
theorem defines_record {name outer : String} {fields : List Value} {others : List String}
    {schemas : List (String × Schema)} (noDot : '.' ∉ name.toList) (nonempty : outer ≠ "")
    (inside : ∀ inner, Defines (convertFields fields inner) others schemas) (ns : Option String) :
    Defines (convert (record name outer fields) ns) (joinName outer name :: others)
      ((Schema.struct schemas).withName (joinName outer name)) := by
  have declared : Defines (declare (recordMembers name outer fields) ns) [joinName outer name]
      -- the record declares its name before its fields are converted
      (joinName outer name, namespace? (joinName outer name)) :=
    defines_declare (congrArg some (fullName_eq_joinName noDot nonempty))
  -- the fields come after the record, whose name is known by then
  have both : Defines (do
      let (full, inner) ← declare (recordMembers name outer fields) ns
      return (full, ← convertFields fields inner)) ([joinName outer name] ++ others)
      (joinName outer name, schemas) :=
    declared.bind ((inside _).map fun schemas => (joinName outer name, schemas))
  rw [convert_record]
  exact both.define List.mem_cons_self fun full schemas => (Schema.struct schemas).withName full

end Avro

end Sluice
