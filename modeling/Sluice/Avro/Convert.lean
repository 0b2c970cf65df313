import Sluice.Avro.Error
import Sluice.Avro.Name
import Sluice.Json.Reader

/-!
# Avro schemas as structured schemas

An Avro schema describes records by defining named types, each under a full name that may be used
once it is defined. The converter keeps the names defined so far and those whose definitions are
under way: a name is defined once, and a use of a name under way is recursion, which structured
schemas cannot express. A union is a type beside `null`, in either order.

## Main definitions

* `Names`, `Conversion`: the names met so far, and a step that may fail and may add names.
* `convert`: the structured schema of an Avro schema.
* `readSchema`, `readRowType`: an Avro text as a schema, and as a row type.
-/

namespace Sluice.Avro

open Json

/-! ## Names -/

/-- The names that definitions have introduced. -/
structure Names where
  /-- the defined names and their schemas -/
  defined : List (String × Schema) := []
  /-- the names whose definitions are under way -/
  underWay : List String := []

/-- A step of the conversion. -/
abbrev Conversion := StateT Names (Except Error)

/-- Fails with a defect. -/
def defective {α : Type} (defect : Defect) : Conversion α :=
  throw (.invalid defect)

/-- The schema of a type that is used by name inside a namespace. -/
def reference (name : String) (outer : Option String) : Conversion Schema :=
  match name with
  | "boolean" => pure (Schema.leaf .boolean)
  | "int" => pure (Schema.leaf .int32)
  | "long" => pure (Schema.leaf .int64)
  | "float" => pure (Schema.leaf .float32)
  | "double" => pure (Schema.leaf .float64)
  | "bytes" => pure (Schema.leaf .bytes)
  | "string" => pure (Schema.leaf .string)
  | "null" => throw (.inexpressible .null)
  | _ => do
    let names ← get
    let full := fullName name outer
    -- a definition may not use itself, since schemas are trees
    if names.underWay.contains full then throw (.inexpressible (.recursive full))
    -- the full name is preferred to the name as it is written
    match (names.defined.lookup full).or (names.defined.lookup name) with
    | some schema => pure schema
    | none => defective (.unknownType name)

/-- Begins the definition that an object makes: its full name, and the namespace inside it. -/
def declare (members : List (String × Value)) (outer : Option String) :
    Conversion (String × Option String) := do
  let some name := (members.lookup "name").bind Value.string? | defective .unnamed
  let full := fullName name (((members.lookup "namespace").bind Value.string?).or outer)
  let names ← get
  if (names.defined.lookup full).isSome || names.underWay.contains full then
    defective (.duplicate full)
  -- from here on the name counts as known, until its definition ends
  set { names with underWay := full :: names.underWay }
  return (full, namespace? full)

/-- Ends the definition of a name. -/
def define (full : String) (schema : Schema) : Conversion Unit :=
  modify fun names =>
    { defined := (full, schema) :: names.defined
      underWay := names.underWay.filter (· != full) }

/-! ## Types -/

/-- The schema of bytes, which carry decimals if their logical type says so. -/
def bytesOf (members : List (String × Value)) : Schema :=
  -- only numbers that fit 64 bits are taken over, and others are passed by
  let number (key : String) : Option Int := (members.lookup key).bind Value.int64?
  let parameter (s : Schema) (key : String) (n : Option Int) : Schema :=
    match n with
    | some n => s.withParameter key (toString n)
    | none => s
  if (members.lookup "logicalType").bind Value.string? == some "decimal" then
    let named := (Schema.leaf .bytes).withName decimalLogicalName
    let scaled := parameter named scaleKey (number "scale")
    parameter scaled converterPrecisionKey (number "precision")
  else Schema.leaf .bytes

/-- Whether exactly one variant of a union is a type of its own. -/
def hasOneType (variants : List Value) : Bool :=
  (variants.filter fun v => !v.isString "null").length == 1

mutual

/-- The structured schema of an Avro schema that stands in a namespace. -/
def convert : Value → Option String → Conversion Schema
  | .string name, outer => reference name outer
  | .array variants, outer =>
    if hasOneType variants then do
      let schema ← convertVariant variants outer
      -- a union of one type alone is not optional
      return if 1 < variants.length then schema.asOptional else schema
    else throw (.inexpressible (.union variants))
  | .object members, outer =>
    match members.lookup "type" with
    | some (.string "record") => do
      let (full, inner) ← declare members outer
      let fields ← convertFieldList full members inner
      let schema := (Schema.struct fields).withName full
      define full schema
      return schema
    | some (.string "enum") => do
      let (full, _) ← declare members outer
      define full (Schema.leaf .string)
      return Schema.leaf .string
    | some (.string "fixed") => do
      let (full, _) ← declare members outer
      define full (bytesOf members)
      return bytesOf members
    | some (.string "bytes") => pure (bytesOf members)
    | some (.string "array") => do
      return Schema.array (← convertMember "items" .arrayWithoutItems members outer)
    | some (.string "map") => do
      return Schema.map (Schema.leaf .string)
        (← convertMember "values" .mapWithoutValues members outer)
    | some (.string type) => reference type outer
    | _ => convertMember "type" .untyped members outer
  | v, _ => defective (.unexpected v)

/-- The schema of the first variant of a union that is not `null`. -/
def convertVariant : List Value → Option String → Conversion Schema
  | [], _ => throw (.inexpressible (.union []))
  | v :: rest, outer => if v.isString "null" then convertVariant rest outer else convert v outer

/-- The schema of the first member of a name, or a defect if there is none. -/
def convertMember (name : String) (missing : Defect) :
    List (String × Value) → Option String → Conversion Schema
  | [], _ => defective missing
  | (key, v) :: rest, outer =>
    if name == key then convert v outer else convertMember name missing rest outer

/-- The fields of a record, which must be an array. -/
def convertFieldList (full : String) :
    List (String × Value) → Option String → Conversion (List (String × Schema))
  | [], _ => defective (.recordWithoutFields full)
  | (key, v) :: rest, inner =>
    if "fields" == key then
      match v with
      | .array fields => convertFields fields inner
      | _ => defective (.recordWithoutFields full)
    else convertFieldList full rest inner

/-- Fields of a record, first to last. -/
def convertFields : List Value → Option String → Conversion (List (String × Schema))
  | [], _ => pure []
  | field :: rest, inner => do
    let f ← convertField field inner
    return f :: (← convertFields rest inner)

/-- A field of a record. -/
def convertField : Value → Option String → Conversion (String × Schema)
  | .object members, inner =>
    match (members.lookup "name").bind Value.string? with
    | some name => do
      return (name, ← convertMember "type" (.fieldWithoutType name) members inner)
    | none => defective .fieldWithoutName
  | _, _ => defective .fieldWithoutName

end

/-! ## Whole schemas -/

/-- The structured schema of an Avro schema. -/
def toSchema (v : Value) : Except Error Schema :=
  (convert v none).run' {}

/-- The structured schema of an Avro text. -/
def readSchema (text : String) : Except Error Schema :=
  match Value.read? text with
  | some v => toSchema v
  | none => .error (.invalid .notJson)

/-- The row type of an Avro text. -/
def readRowType (text : String) : Except Error RowType := do
  let schema ← readSchema text
  schema.toRowType.mapError .rowType

end Sluice.Avro
