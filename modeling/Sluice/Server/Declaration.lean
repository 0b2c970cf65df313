import Sluice.Avro.Convert
import Sluice.Statement.Printer

/-!
# Declared sources

What a statement that declares a source describes. The columns are those listed, or else those of
the Avro schema that is registered for the topic. The key and the timestamp, where they are given,
are columns of the source. The catalog has no say in any of this.
-/

namespace Sluice

/-- Why a declaration describes no source. -/
inductive DeclarationError where
  | missingProperty (name : String)
  | missingSchema (source : String)
  | unknownColumn (column source : String)
  | avro (e : Avro.Error)

/-- What the error says. -/
def DeclarationError.message : DeclarationError → String
  | .missingProperty name => "missing required property: " ++ name
  | .missingSchema source => source ++ " has no columns and no schema was supplied"
  | .unknownColumn column source => "column " ++ column ++ " does not exist in " ++ source
  | .avro e => e.message

namespace CreateSource

/-- The format of the values of the topic. -/
def format (c : CreateSource) : Format :=
  c.properties.valueFormat.getD .json

/-- The columns listed, or those of the Avro schema registered for the topic. -/
def schema (c : CreateSource) (registry : Option String) : Except DeclarationError RowType :=
  if c.columns.isEmpty then
    match c.format, registry with
    | .avro, some text => (Avro.readRowType text).mapError .avro
    | _, _ => .error (.missingSchema c.name)
  else .ok c.columns

/-- Checks that a column exists. -/
def checkColumn (c : CreateSource) (schema : RowType) (column : String) :
    Except DeclarationError String :=
  if (schema.field? column).isSome then .ok column else .error (.unknownColumn column c.name)

/-- The column of the key, if one is given. -/
def keyField (c : CreateSource) (schema : RowType) : Except DeclarationError (Option String) :=
  match c.properties.key with
  | none => .ok none
  | some column => (c.checkColumn schema column).map some

/-- Where the event times of rows come from. -/
def timestamp (c : CreateSource) (schema : RowType) : Except DeclarationError TimestampPolicy :=
  match c.properties.timestamp with
  | none => .ok .metadata
  | some column => (c.checkColumn schema column).map (.column · none)

/-- The source that a declaration describes. -/
def toSource (c : CreateSource) (registry : Option String) : Except DeclarationError Source :=
  match c.properties.brokerTopic with
  | none => .error (.missingProperty "KAFKA_TOPIC")
  | some brokerName => do
    -- the columns that are referred to must be among these
    let schema ← c.schema registry
    let keyField ← c.keyField schema
    let timestamp ← c.timestamp schema
    return {
      name := c.name
      kind := c.kind
      schema
      keyField
      timestamp
      topic := { name := c.name, brokerName, format := c.format, compacted := false }
      sql := c.print }

end CreateSource

end Sluice
