import Sluice.Proofs.Avro.NameEvents

/-!
# Derivations of conversions

How a value converts can be said without the names met so far: its structure gives the schema and
the events, except that a name may stand for any schema. The names come in when the events are run,
which begins definitions only of new names, and gives to each use the schema of the definition that
it finds. So a conversion succeeds when the value has a derivation whose events run.

## Main definitions

* `Value.HasPart`: the elements of arrays and the members of objects.
* `Avro.Converts`: the schemas of values, with the events that lead to them.
* `Avro.Describes`: the schemas of definitions.

## Main statements

* `Avro.convert_eq_ok_iff`: a conversion succeeds when a derivation runs.
* `Avro.Converts.nested`: the definitions of a derivation end one inside the other.
-/

namespace Sluice

open Json

/-! ## Parts of values -/

/-- The elements of an array, and the members of an object. -/
inductive Json.Value.HasPart : Value → Value → Prop where
  | element {elements : List Value} {v : Value} (mem : v ∈ elements) : HasPart (.array elements) v
  | member {members : List (String × Value)} {key : String} {v : Value}
      (mem : (key, v) ∈ members) : HasPart (.object members) v

/-- A value contains itself, its parts, and what those contain. -/
def Json.Value.Contains : Value → Value → Prop :=
  Relation.ReflTransGen HasPart

theorem Json.Value.HasPart.sizeOf_lt {v part : Value} (h : v.HasPart part) :
    sizeOf part < sizeOf v := by
  cases h with
  | element mem =>
    have := List.sizeOf_lt_of_mem mem
    rw [Value.array.sizeOf_spec]
    omega
  | member mem =>
    have := List.sizeOf_lt_of_mem mem
    rw [Prod.mk.sizeOf_spec] at this
    rw [Value.object.sizeOf_spec]
    omega

/-- What holds of a value when it holds of all values inside it holds of every value. -/
@[elab_as_elim]
theorem Json.Value.insideRec {motive : Value → Prop}
    (whole : ∀ v : Value, (∀ part, Relation.TransGen HasPart v part → motive part) → motive v)
    (v : Value) : motive v := by
  -- parts are smaller however deep they are, so the induction may go by size
  have smaller : ∀ {v part : Value}, Relation.TransGen HasPart v part → sizeOf part < sizeOf v := by
    intro v part inside
    induction inside with
    | single h => exact h.sizeOf_lt
    | tail _ h ih => exact h.sizeOf_lt.trans ih
  -- induction on the size of the value
  induction h : sizeOf v using Nat.strong_induction_on generalizing v with
  | _ size ih =>
    subst h
    exact whole v fun part inside => ih _ (smaller inside) part rfl

/-- The first member of a name is a part. -/
theorem Json.Value.HasPart.of_lookup {members : List (String × Value)} {key : String} {v : Value}
    (found : members.lookup key = some v) : HasPart (.object members) v := by
  obtain ⟨before, after, rfl, _⟩ := List.lookup_eq_some_iff.mp found
  exact .member (List.mem_append_right _ List.mem_cons_self)

namespace Avro

/-! ## Derivations -/

/-- The schemas of the primitive types. -/
def primitive? : String → Option Schema
  | "boolean" => some (Schema.leaf .boolean)
  | "int" => some (Schema.leaf .int32)
  | "long" => some (Schema.leaf .int64)
  | "float" => some (Schema.leaf .float32)
  | "double" => some (Schema.leaf .float64)
  | "bytes" => some (Schema.leaf .bytes)
  | "string" => some (Schema.leaf .string)
  | _ => none

/-- The types whose objects define a name. -/
def definedTypes : List String :=
  ["record", "enum", "fixed"]

/-- The types that an object describes by its other members. -/
def describedTypes : List String :=
  definedTypes ++ ["bytes", "array", "map"]

mutual

/-- The schema of a value that stands in a namespace, and the events that lead to it. -/
inductive Converts : Value → Option String → Schema → List NameEvent → Prop where
  | primitive {name : String} {outer : Option String} {schema : Schema}
      (found : primitive? name = some schema) : Converts (.string name) outer schema []
  /-- a name stands for the type of its full name, or of the name as it is -/
  | use {name target : String} {outer : Option String} {schema : Schema}
      (notPrimitive : primitive? name = none) (notNull : name ≠ "null")
      (candidate : target = fullName name outer ∨ target = name) :
      Converts (.string name) outer schema [.uses (fullName name outer) target schema]
  | union {variants : List Value} {v : Value} {outer : Option String} {schema : Schema}
      {log : List NameEvent} (one : variants.filter (fun v => !v.isString "null") = [v])
      (converts : Converts v outer schema log) :
      Converts (.array variants) outer
        (if 1 < variants.length then schema.asOptional else schema) log
  | wrapped {members : List (String × Value)} {v : Value} {outer : Option String}
      {schema : Schema} {log : List NameEvent} (typed : members.lookup "type" = some v)
      (plain : ∀ type ∈ describedTypes, v ≠ .string type)
      (converts : Converts v outer schema log) : Converts (.object members) outer schema log
  | bytes {members : List (String × Value)} {outer : Option String}
      (typed : members.lookup "type" = some (.string "bytes")) :
      Converts (.object members) outer (bytesOf members) []
  | array {members : List (String × Value)} {v : Value} {outer : Option String}
      {schema : Schema} {log : List NameEvent}
      (typed : members.lookup "type" = some (.string "array"))
      (items : members.lookup "items" = some v)
      (converts : Converts v outer schema log) :
      Converts (.object members) outer (.array schema) log
  | map {members : List (String × Value)} {v : Value} {outer : Option String}
      {schema : Schema} {log : List NameEvent}
      (typed : members.lookup "type" = some (.string "map"))
      (values : members.lookup "values" = some v)
      (converts : Converts v outer schema log) :
      Converts (.object members) outer (.map (Schema.leaf .string) schema) log
  | definition {members : List (String × Value)} {outer : Option String} {full : String}
      {schema : Schema} {inside : List NameEvent}
      (named : definedName? members outer = some full)
      (describes : Describes members full schema inside) :
      Converts (.object members) outer schema
        (.begins full :: (inside ++ [.ends full schema]))

/-- The schema of the definition of a full name, and the events inside the definition. -/
inductive Describes : List (String × Value) → String → Schema → List NameEvent → Prop where
  | enum {members : List (String × Value)} {full : String}
      (typed : members.lookup "type" = some (.string "enum")) :
      Describes members full (Schema.leaf .string) []
  | fixed {members : List (String × Value)} {full : String}
      (typed : members.lookup "type" = some (.string "fixed")) :
      Describes members full (bytesOf members) []
  | record {members : List (String × Value)} {full : String} {fields : List Value}
      {schemas : List (String × Schema)} {log : List NameEvent}
      (typed : members.lookup "type" = some (.string "record"))
      (hasFields : members.lookup "fields" = some (.array fields))
      (convert : FieldsConvert fields (namespace? full) schemas log) :
      Describes members full ((Schema.struct schemas).withName full) log

/-- The schemas of the fields of a record, and the events that lead to them, first to last. -/
inductive FieldsConvert :
    List Value → Option String → List (String × Schema) → List NameEvent → Prop where
  | nil {inner : Option String} : FieldsConvert [] inner [] []
  | cons {members : List (String × Value)} {name : String} {v : Value} {schema : Schema}
      {log log' : List NameEvent} {fields : List Value} {inner : Option String}
      {schemas : List (String × Schema)}
      (named : members.lookup "name" = some (.string name))
      (typed : members.lookup "type" = some v)
      (first : Converts v inner schema log)
      (others : FieldsConvert fields inner schemas log') :
      FieldsConvert (.object members :: fields) inner ((name, schema) :: schemas) (log ++ log')

end

mutual

/-- The definitions of a derivation end one inside the other. -/
theorem Converts.nested {v : Value} {outer : Option String} {s : Schema} {log : List NameEvent} :
    Converts v outer s log → Nested log
  | .primitive _ => .nil
  | .use _ _ _ => .uses .nil
  | .union _ converts => converts.nested
  | .wrapped _ _ converts => converts.nested
  | .bytes _ => .nil
  | .array _ _ converts => converts.nested
  | .map _ _ converts => converts.nested
  | .definition _ describes => .defines describes.nested .nil

theorem Describes.nested {members : List (String × Value)} {full : String} {s : Schema}
    {log : List NameEvent} : Describes members full s log → Nested log
  | .enum _ => .nil
  | .fixed _ => .nil
  | .record _ _ convert => convert.nested

theorem FieldsConvert.nested {fields : List Value} {inner : Option String}
    {schemas : List (String × Schema)} {log : List NameEvent} :
    FieldsConvert fields inner schemas log → Nested log
  | .nil => .nil
  | .cons _ _ first others => first.nested.append others.nested

end

/-! ## Steps on names -/

section

variable {α β : Type} {names names' : Names}

/-- Two steps succeed when the first does, and the second does on what it leaves. -/
theorem conversion_bind_eq_ok_iff {step : Conversion α} {next : α → Conversion β} {b : β} :
    (step >>= next) names = .ok (b, names') ↔
      ∃ a names₁, step names = .ok (a, names₁) ∧ next a names₁ = .ok (b, names') :=
  bind_eq_ok_iff.trans Prod.exists

/-- A value leaves the names as they are. -/
theorem conversion_pure_eq_ok_iff {a b : α} :
    (pure a : Conversion α) names = .ok (b, names') ↔ b = a ∧ names' = names := by
  change Except.ok (a, names) = Except.ok (b, names') ↔ _
  rw [Except.ok.injEq, Prod.mk.injEq, eq_comm (a := a), eq_comm (a := names)]

/-- A step whose value is changed succeeds when the step does. -/
theorem conversion_map_eq_ok_iff {step : Conversion α} {f : α → β} {b : β} :
    (do return f (← step) : Conversion β) names = .ok (b, names') ↔
      ∃ a, step names = .ok (a, names') ∧ b = f a := by
  rw [conversion_bind_eq_ok_iff]
  simp only [conversion_pure_eq_ok_iff]
  constructor
  · rintro ⟨a, _, h, rfl, rfl⟩
    exact ⟨a, h, rfl⟩
  · rintro ⟨a, h, rfl⟩
    exact ⟨a, _, h, rfl, rfl⟩

end

variable {members : List (String × Value)} {v : Value} {outer inner : Option String}
variable {name full : String} {s : Schema} {log : List NameEvent} {names names' : Names}

theorem declare_eq_ok_iff :
    declare members outer names = .ok ((full, inner), names') ↔
      definedName? members outer = some full ∧ inner = namespace? full ∧
        names.Step (.begins full) names' := by
  -- a declaration fails without a name, or with one that is known
  cases named : definedName? members outer with
  | none =>
    -- there is no name to define
    refine iff_of_false ?_ (by simp)
    simp only [declare, Option.map_eq_none_iff.mp named]
    exact fun h => by contradiction
  | some other =>
    rw [declare_eq named]
    constructor
    · intro h
      split at h
      · contradiction
      rename_i new
      cases h
      exact ⟨rfl, rfl, .begins new⟩
    · rintro ⟨same, rfl, step⟩
      obtain rfl := Option.some.inj same
      cases step with
      | begins new => exact if_neg new

theorem define_eq_ok_iff {u : Unit} :
    define full s names = .ok (u, names') ↔ names.Step (.ends full s) names' := by
  constructor
  · intro h
    cases h
    exact .ends
  · intro step
    cases step
    rfl

theorem reference_of_primitive (h : primitive? name = some s) : reference name outer = pure s := by
  unfold primitive? at h
  split at h
  any_goals
    cases h
    rfl
  contradiction

/-- A name that is not primitive is looked up by its full name, then as it is. -/
theorem reference_of_notPrimitive (notPrimitive : primitive? name = none)
    (notNull : name ≠ "null") :
    reference name outer names =
      if names.underWay.contains (fullName name outer) then
        .error (.inexpressible (.recursive (fullName name outer)))
      else
        match (names.defined.lookup (fullName name outer)).or (names.defined.lookup name) with
        | some schema => .ok (schema, names)
        | none => .error (.invalid (.unknownType name)) := by
  unfold reference
  -- the names of primitive types and `null` are looked up in another way
  split
  any_goals contradiction
  change (if _ then _ else _ : Conversion _) names = _
  split
  · rfl
  · cases (names.defined.lookup (fullName name outer)).or (names.defined.lookup name) with
    | none => rfl
    | some schema => rfl

/-- A use of a name is one step. -/
theorem reference_eq_ok_iff (notPrimitive : primitive? name = none) (notNull : name ≠ "null") :
    reference name outer names = .ok (s, names') ↔
      ∃ target, (target = fullName name outer ∨ target = name) ∧
        names.Step (.uses (fullName name outer) target s) names' := by
  rw [reference_of_notPrimitive notPrimitive notNull]
  constructor
  · intro h
    split at h
    · contradiction
    rename_i notUnderWay
    have notUnderWay : fullName name outer ∉ names.underWay :=
      mt List.contains_iff_mem.mpr notUnderWay
    split at h
    · -- the full name is preferred, and the name as it is written comes second
      rename_i schema found
      cases h
      rcases Option.or_eq_some_iff.mp found with found | ⟨none, found⟩
      · exact ⟨_, .inl rfl, .uses notUnderWay found (.inl rfl)⟩
      · exact ⟨_, .inr rfl, .uses notUnderWay found (.inr none)⟩
    · contradiction
  · rintro ⟨target, candidate, step⟩
    cases step with
    | uses notUnderWay found preferred =>
      -- whichever name was found, the lookup begins with the full one
      have result : (names.defined.lookup (fullName name outer)).or (names.defined.lookup name) =
          some s := by
        rcases preferred with rfl | none
        · rw [found, Option.some_or]
        · rcases candidate with rfl | rfl
          · rw [none] at found
            contradiction
          · rw [none, Option.none_or, found]
      rw [if_neg (mt List.contains_iff_mem.mp notUnderWay), result]

/-! ## The conversion of a value -/

theorem bind_string?_eq_some_iff {value : Option Value} :
    value.bind Value.string? = some name ↔ value = some (.string name) := by
  rcases value with _ | v
  · simp
  · cases v <;> simp [Value.string?]

theorem convertMember_eq {missing : Defect} :
    convertMember name missing members outer =
      match members.lookup name with
      | some v => convert v outer
      | none => defective missing := by
  -- by the members: the first one of that name is converted
  induction members with
  | nil => rw [convertMember]; rfl
  | cons member rest ih =>
    obtain ⟨key, v⟩ := member
    rw [convertMember, List.lookup_cons]
    cases h : name == key with
    | true => rfl
    | false => exact ih

theorem convertMember_eq_ok_iff {missing : Defect} :
    convertMember name missing members outer names = .ok (s, names') ↔
      ∃ v, members.lookup name = some v ∧ convert v outer names = .ok (s, names') := by
  rw [convertMember_eq]
  cases found : members.lookup name with
  | none => exact iff_of_false (fun h => by contradiction) (by simp)
  | some v => simp

theorem convertFieldList_eq :
    convertFieldList full members inner =
      match members.lookup "fields" with
      | some (.array fields) => convertFields fields inner
      | _ => defective (.recordWithoutFields full) := by
  -- by the members: the first one called `fields` is taken, whatever it is
  induction members with
  | nil => rw [convertFieldList]; rfl
  | cons member rest ih =>
    obtain ⟨key, v⟩ := member
    rw [List.lookup_cons]
    cases h : "fields" == key with
    | true => cases v <;> simp [convertFieldList, h]
    | false => cases v <;> simpa [convertFieldList, h] using ih

theorem convertVariant_eq {variants : List Value} :
    convertVariant variants outer =
      match variants.filter (fun v => !v.isString "null") with
      | v :: _ => convert v outer
      | [] => throw (.inexpressible (.union [])) := by
  -- by the variants, of which the first that is not `null` is converted
  induction variants with
  | nil => rw [convertVariant]; rfl
  | cons v rest ih =>
    rw [convertVariant]
    cases h : v.isString "null" with
    | true => simpa [h] using ih
    | false => simp [h]

theorem convert_union {variants : List Value}
    (one : variants.filter (fun v => !v.isString "null") = [v]) :
    convert (.array variants) outer =
      (do
        let schema ← convert v outer
        return if 1 < variants.length then schema.asOptional else schema) := by
  have hasOne : hasOneType variants = true := by rw [hasOneType, one]; rfl
  rw [convert, if_pos hasOne, convertVariant_eq, one]

/-- An object of any other type converts as its type does. -/
theorem convert_wrapped (typed : members.lookup "type" = some v)
    (plain : ∀ type ∈ describedTypes, v ≠ .string type) :
    convert (.object members) outer = convert v outer := by
  have differs : ∀ type ∈ describedTypes, ¬some v = some (.string type) :=
    fun type mem same => plain type mem (Option.some.inj same)
  rw [convert, typed]
  split
  case h_7 h => rw [Option.some.inj h, convert]
  case h_8 => rw [convertMember_eq, typed]
  all_goals exact absurd ‹some v = _› (differs _ (by decide))

/-- A field is an object with a name and a type. -/
theorem convertField_eq_ok_iff {field : Value} {f : String × Schema} :
    convertField field inner names = .ok (f, names') ↔
      ∃ members name v s, field = .object members ∧
        members.lookup "name" = some (.string name) ∧ members.lookup "type" = some v ∧
          convert v inner names = .ok (s, names') ∧ f = (name, s) := by
  constructor
  · intro h
    -- nothing but an object with a name is converted
    cases field with
    | object members =>
      cases named : (members.lookup "name").bind Value.string? with
      | none =>
        simp only [convertField, named] at h
        contradiction
      | some name =>
        simp only [convertField, named] at h
        obtain ⟨s, member, rfl⟩ := conversion_map_eq_ok_iff.mp h
        obtain ⟨v, typed, h⟩ := convertMember_eq_ok_iff.mp member
        exact ⟨members, name, v, s, rfl, bind_string?_eq_some_iff.mp named, typed, h, rfl⟩
    | _ =>
      simp only [convertField] at h
      contradiction
  · rintro ⟨members, name, v, s, rfl, named, typed, h, rfl⟩
    simp only [convertField, bind_string?_eq_some_iff.mpr named]
    exact conversion_map_eq_ok_iff.mpr ⟨s, convertMember_eq_ok_iff.mpr ⟨v, typed, h⟩, rfl⟩

/-- The conversion of what the definition of a full name describes. -/
def description (members : List (String × Value)) (full : String) (inner : Option String) :
    Conversion Schema :=
  match members.lookup "type" with
  | some (.string "enum") => pure (Schema.leaf .string)
  | some (.string "fixed") => pure (bytesOf members)
  | _ => do return (Schema.struct (← convertFieldList full members inner)).withName full

theorem description_record (typed : members.lookup "type" = some (.string "record")) :
    description members full inner =
      (do return (Schema.struct (← convertFieldList full members inner)).withName full) := by
  rw [description, typed]
  rfl

/-- A definition begins, is described and ends. -/
theorem convert_definition_eq_ok_iff {type : String} (mem : type ∈ definedTypes)
    (typed : members.lookup "type" = some (.string type)) :
    convert (.object members) outer names = .ok (s, names') ↔
      ∃ full names₁ names₂, definedName? members outer = some full ∧
        names.Step (.begins full) names₁ ∧
          description members full (namespace? full) names₁ = .ok (s, names₂) ∧
            names₂.Step (.ends full s) names' := by
  -- the three types are all declared, then described, then defined
  have steps : convert (.object members) outer = (do
      let begun ← declare members outer
      let schema ← description members begun.1 begun.2
      define begun.1 schema
      return schema) := by
    simp only [definedTypes, List.mem_cons, List.not_mem_nil, or_false] at mem
    rcases mem with rfl | rfl | rfl
    · simp only [convert, description_record typed, typed, bind_assoc, pure_bind]
    · simp only [convert, description, typed, pure_bind]
    · simp only [convert, description, typed, pure_bind]
  rw [steps]
  constructor
  · intro h
    obtain ⟨⟨full, inner⟩, names₁, declared, h⟩ := conversion_bind_eq_ok_iff.mp h
    obtain ⟨named, rfl, begun⟩ := declare_eq_ok_iff.mp declared
    obtain ⟨schema, names₂, described, h⟩ := conversion_bind_eq_ok_iff.mp h
    obtain ⟨_, _, defined, h⟩ := conversion_bind_eq_ok_iff.mp h
    obtain ⟨rfl, rfl⟩ := conversion_pure_eq_ok_iff.mp h
    exact ⟨full, names₁, names₂, named, begun, described, define_eq_ok_iff.mp defined⟩
  · rintro ⟨full, names₁, names₂, named, begun, described, ended⟩
    apply conversion_bind_eq_ok_iff.mpr
    refine ⟨_, names₁, declare_eq_ok_iff.mpr ⟨named, rfl, begun⟩, ?_⟩
    apply conversion_bind_eq_ok_iff.mpr
    refine ⟨s, names₂, described, ?_⟩
    exact conversion_bind_eq_ok_iff.mpr ⟨(), names', define_eq_ok_iff.mpr ended, rfl⟩

theorem Describes.exists_type (h : Describes members full s log) :
    ∃ type ∈ definedTypes, members.lookup "type" = some (.string type) := by
  cases h with
  | enum typed => exact ⟨_, by decide, typed⟩
  | fixed typed => exact ⟨_, by decide, typed⟩
  | record typed => exact ⟨_, by decide, typed⟩

/-! ## Derivations that run -/

mutual

/-- A value converts to the schema of a derivation whose events run. -/
theorem Converts.convert_eq {v : Value} {outer : Option String} {s : Schema}
    {log : List NameEvent} {names names' : Names} :
    Converts v outer s log → names.Run log names' → convert v outer names = .ok (s, names')
  -- a case for each way to convert; only uses and definitions are events
  | .primitive found, run => by
    obtain rfl := Names.run_nil_iff.mp run
    rw [convert, reference_of_primitive found]
    rfl
  | .use notPrimitive notNull candidate, run => by
    obtain ⟨_, step, rest⟩ := Names.run_cons_iff.mp run
    obtain rfl := Names.run_nil_iff.mp rest
    rw [convert]
    exact (reference_eq_ok_iff notPrimitive notNull).mpr ⟨_, candidate, step⟩
  | .union one converts, run => by
    rw [convert_union one]
    exact conversion_map_eq_ok_iff.mpr ⟨_, converts.convert_eq run, rfl⟩
  | .wrapped typed plain converts, run => by
    rw [convert_wrapped typed plain]
    exact converts.convert_eq run
  | .bytes typed, run => by
    obtain rfl := Names.run_nil_iff.mp run
    simp only [convert, typed]
    rfl
  | .array typed items converts, run => by
    simp only [convert, typed, convertMember_eq, items]
    exact conversion_map_eq_ok_iff.mpr ⟨_, converts.convert_eq run, rfl⟩
  | .map typed values converts, run => by
    simp only [convert, typed, convertMember_eq, values]
    exact conversion_map_eq_ok_iff.mpr ⟨_, converts.convert_eq run, rfl⟩
  | .definition named describes, run => by
    -- the events of the description stand between the beginning and the end of the definition
    obtain ⟨_, begun, rest⟩ := Names.run_cons_iff.mp run
    obtain ⟨_, insideRun, last⟩ := Names.run_append_iff.mp rest
    obtain ⟨_, ended, rest⟩ := Names.run_cons_iff.mp last
    obtain rfl := Names.run_nil_iff.mp rest
    obtain ⟨type, mem, typed⟩ := describes.exists_type
    apply (convert_definition_eq_ok_iff mem typed).mpr
    exact ⟨_, _, _, named, begun, describes.description_eq insideRun, ended⟩

theorem Describes.description_eq {members : List (String × Value)} {full : String} {s : Schema}
    {log : List NameEvent} {names names' : Names} :
    Describes members full s log → names.Run log names' →
      description members full (namespace? full) names = .ok (s, names')
  | .enum typed, run => by
    obtain rfl := Names.run_nil_iff.mp run
    simp only [description, typed]
    rfl
  | .fixed typed, run => by
    obtain rfl := Names.run_nil_iff.mp run
    simp only [description, typed]
    rfl
  | .record typed hasFields convert, run => by
    simp only [description_record typed, convertFieldList_eq, hasFields]
    exact conversion_map_eq_ok_iff.mpr ⟨_, convert.convertFields_eq run, rfl⟩

theorem FieldsConvert.convertFields_eq {fields : List Value} {inner : Option String}
    {schemas : List (String × Schema)} {log : List NameEvent} {names names' : Names} :
    FieldsConvert fields inner schemas log → names.Run log names' →
      convertFields fields inner names = .ok (schemas, names')
  | .nil, run => by
    obtain rfl := Names.run_nil_iff.mp run
    rw [convertFields]
    rfl
  | .cons named typed first others, run => by
    -- the events of the first field come before those of the others
    obtain ⟨names₁, run, rest⟩ := Names.run_append_iff.mp run
    rw [convertFields]
    apply conversion_bind_eq_ok_iff.mpr
    have field := convertField_eq_ok_iff.mpr
      ⟨_, _, _, _, rfl, named, typed, first.convert_eq run, rfl⟩
    refine ⟨_, names₁, field, ?_⟩
    exact conversion_map_eq_ok_iff.mpr ⟨_, others.convertFields_eq rest, rfl⟩

end

/-- Where the value converts, it does so by a derivation whose events run. -/
def Derivable (v : Value) : Prop :=
  ∀ {outer : Option String} {s : Schema} {names names' : Names},
    convert v outer names = .ok (s, names') →
      ∃ log, Converts v outer s log ∧ names.Run log names'

/-- A name that is used converts by a derivation. -/
theorem exists_converts_of_reference (h : reference name outer names = .ok (s, names')) :
    ∃ log, Converts (.string name) outer s log ∧ names.Run log names' := by
  cases found : primitive? name with
  | some schema =>
    rw [reference_of_primitive found] at h
    obtain ⟨rfl, rfl⟩ := conversion_pure_eq_ok_iff.mp h
    exact ⟨[], .primitive found, .nil⟩
  | none =>
    have notNull : name ≠ "null" := by
      rintro rfl
      contradiction
    obtain ⟨target, candidate, step⟩ := (reference_eq_ok_iff found notNull).mp h
    exact ⟨_, .use found notNull candidate, .cons step .nil⟩

/-- The fields of a record convert by derivations, if what is inside them does. -/
theorem exists_fieldsConvert {fields : List Value} {schemas : List (String × Schema)}
    (ih : ∀ field ∈ fields, ∀ part, field.HasPart part → Derivable part)
    (h : convertFields fields inner names = .ok (schemas, names')) :
    ∃ log, FieldsConvert fields inner schemas log ∧ names.Run log names' := by
  -- by the fields, whose logs follow one another
  induction fields generalizing names schemas with
  | nil =>
    rw [convertFields] at h
    obtain ⟨rfl, rfl⟩ := conversion_pure_eq_ok_iff.mp h
    exact ⟨[], .nil, .nil⟩
  | cons field fields ihFields =>
    obtain ⟨here, others⟩ := List.forall_mem_cons.mp ih
    rw [convertFields] at h
    obtain ⟨f, names₁, first, h⟩ := conversion_bind_eq_ok_iff.mp h
    obtain ⟨schemas, rest, rfl⟩ := conversion_map_eq_ok_iff.mp h
    obtain ⟨log', othersConvert, restRun⟩ := ihFields others rest
    obtain ⟨members, name, v, s, rfl, named, typed, type, rfl⟩ := convertField_eq_ok_iff.mp first
    obtain ⟨log, converts, run⟩ := here v (.of_lookup typed) type
    refine ⟨log ++ log', .cons named typed converts othersConvert, ?_⟩
    exact Names.run_append_iff.mpr ⟨names₁, run, restRun⟩

/-- What a definition describes is described by a derivation, if what is inside it converts. -/
theorem exists_describes {type : String} (mem : type ∈ definedTypes)
    (typed : members.lookup "type" = some (.string type))
    (ih : ∀ part, Relation.TransGen Value.HasPart (.object members) part → Derivable part)
    (h : description members full (namespace? full) names = .ok (s, names')) :
    ∃ log, Describes members full s log ∧ names.Run log names' := by
  simp only [definedTypes, List.mem_cons, List.not_mem_nil, or_false] at mem
  rcases mem with rfl | rfl | rfl
  · -- a record, whose fields are inside the object
    rw [description_record typed] at h
    obtain ⟨schemas, list, rfl⟩ := conversion_map_eq_ok_iff.mp h
    rw [convertFieldList_eq] at list
    split at list
    · rename_i fields hasFields
      have fieldsInside : ∀ field ∈ fields, ∀ part, field.HasPart part →
          Relation.TransGen Value.HasPart (.object members) part := fun field mem part h =>
        .tail (.tail (.single (.of_lookup hasFields)) (.element mem)) h
      obtain ⟨log, convert, run⟩ :=
        exists_fieldsConvert (fun field mem part h => ih part (fieldsInside field mem part h)) list
      exact ⟨log, .record typed hasFields convert, run⟩
    · contradiction
  · -- an enumeration
    simp only [description, typed] at h
    obtain ⟨rfl, rfl⟩ := conversion_pure_eq_ok_iff.mp h
    exact ⟨[], .enum typed, .nil⟩
  · -- a fixed type
    simp only [description, typed] at h
    obtain ⟨rfl, rfl⟩ := conversion_pure_eq_ok_iff.mp h
    exact ⟨[], .fixed typed, .nil⟩

/-- An object converts by a derivation, if what is inside it does. -/
theorem derivable_object
    (ih : ∀ part, Relation.TransGen Value.HasPart (.object members) part → Derivable part) :
    Derivable (.object members) := by
  intro outer s names names' h
  cases typed : members.lookup "type" with
  | none =>
    simp only [convert, typed, convertMember_eq] at h
    contradiction
  | some v =>
    -- an object of no described type wraps another type
    by_cases plain : ∀ type ∈ describedTypes, v ≠ .string type
    · rw [convert_wrapped typed plain] at h
      obtain ⟨log, converts, run⟩ := ih v (.single (.of_lookup typed)) h
      exact ⟨log, .wrapped typed plain converts, run⟩
    push Not at plain
    obtain ⟨type, mem, rfl⟩ := plain
    rcases List.mem_append.mp mem with mem | mem
    · -- a type that is defined
      obtain ⟨full, names₁, names₂, named, begun, h, ended⟩ :=
        (convert_definition_eq_ok_iff mem typed).mp h
      obtain ⟨inside, describes, run⟩ := exists_describes mem typed ih h
      refine ⟨_, .definition named describes, .cons begun ?_⟩
      exact Names.run_append_iff.mpr ⟨names₂, run, .cons ended .nil⟩
    simp only [List.mem_cons, List.not_mem_nil, or_false] at mem
    rcases mem with rfl | rfl | rfl
    · -- bytes
      simp only [convert, typed] at h
      obtain ⟨rfl, rfl⟩ := conversion_pure_eq_ok_iff.mp h
      exact ⟨[], .bytes typed, .nil⟩
    · -- an array
      simp only [convert, typed] at h
      obtain ⟨element, member, rfl⟩ := conversion_map_eq_ok_iff.mp h
      obtain ⟨part, items, h⟩ := convertMember_eq_ok_iff.mp member
      obtain ⟨log, converts, run⟩ := ih part (.single (.of_lookup items)) h
      exact ⟨log, .array typed items converts, run⟩
    · -- a map
      simp only [convert, typed] at h
      obtain ⟨value, member, rfl⟩ := conversion_map_eq_ok_iff.mp h
      obtain ⟨part, values, h⟩ := convertMember_eq_ok_iff.mp member
      obtain ⟨log, converts, run⟩ := ih part (.single (.of_lookup values)) h
      exact ⟨log, .map typed values converts, run⟩

/-- Every value that converts does so by a derivation. -/
theorem derivable (v : Value) : Derivable v := by
  induction v using Value.insideRec with
  | whole v ih =>
    intro outer s names names' h
    cases v with
    | string name =>
      rw [convert] at h
      exact exists_converts_of_reference h
    | array variants =>
      -- the type of a union is its variant that is not null
      by_cases hasOne : hasOneType variants = true
      · obtain ⟨variant, one⟩ := List.length_eq_one_iff.mp (beq_iff_eq.mp hasOne)
        rw [convert_union one] at h
        obtain ⟨schema, type, rfl⟩ := conversion_map_eq_ok_iff.mp h
        have mem : variant ∈ variants := List.mem_of_mem_filter (one ▸ List.mem_singleton_self _)
        obtain ⟨log, converts, run⟩ := ih variant (.single (.element mem)) type
        exact ⟨log, .union one converts, run⟩
      · rw [convert, if_neg hasOne] at h
        contradiction
    | object members => exact derivable_object ih h
    | _ =>
      rw [convert] at h
      · contradiction
      all_goals simp

/-- A conversion succeeds when a derivation runs. -/
theorem convert_eq_ok_iff :
    convert v outer names = .ok (s, names') ↔
      ∃ log, Converts v outer s log ∧ names.Run log names' := by
  constructor
  · exact fun h => derivable v h
  · rintro ⟨log, converts, run⟩
    exact converts.convert_eq run

end Avro

end Sluice
