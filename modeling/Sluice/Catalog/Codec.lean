import Sluice.Catalog.Source
import Sluice.SqlType.Codec

/-!
# Sources and topics in JSON

The stored forms of topics and sources, and their readers.
-/

namespace Sluice

open Json

/-! ## Writing -/

/-- The stored form of a topic. -/
def Topic.toJson (t : Topic) : Value :=
  .object [
    ("name", .string t.name),
    ("kafka_topic_name", .string t.brokerName),
    ("format", .string t.format.name),
    ("compacted", .bool t.compacted)]

/-- The stored name of a kind of source. -/
def SourceKind.title : SourceKind → String
  | .stream => "Stream"
  | .table => "Table"

/-- The stored form of a timestamp policy. -/
def TimestampPolicy.toJson : TimestampPolicy → Value
  | .metadata => .string "Metadata"
  | .column name format =>
    .object [("Column", .object [("column", .string name), ("format", Value.ofString? format)])]

/-- The stored form of a source. -/
def Source.toJson (s : Source) : Value :=
  .object [
    ("name", .string s.name),
    ("kind", .string s.kind.title),
    ("schema", RowType.toJson s.schema),
    ("key_field", Value.ofString? s.keyField),
    ("timestamp_policy", s.timestamp.toJson),
    ("topic", s.topic.toJson),
    ("sql", .string s.sql)]

/-! ## Reading -/

/-- Reads a format. -/
def Format.ofDocument? (d : Document) : Option Format := do
  let name ← d.tag?
  Format.all.find? (·.name == name)

/-- Reads a topic. -/
def Topic.ofDocument? (d : Document) : Option Topic := do
  match ← d.fields? ["name", "kafka_topic_name", "format", "compacted"] with
  | [name, brokerName, format, compacted] =>
    return {
      name := ← Document.required? Document.string? name
      brokerName := ← Document.required? Document.string? brokerName
      format := ← Document.required? Format.ofDocument? format
      compacted := ← Document.required? Document.bool? compacted }
  | _ => none

/-- Reads a kind of source. -/
def SourceKind.ofDocument? (d : Document) : Option SourceKind := do
  let title ← d.tag?
  [SourceKind.stream, SourceKind.table].find? (·.title == title)

/-- Reads a timestamp policy. -/
def TimestampPolicy.ofDocument? (d : Document) : Option TimestampPolicy := do
  match ← d.choice? with
  | ("Column", some body) =>
    match ← body.fields? ["column", "format"] with
    | [name, format] =>
      return .column (← Document.required? Document.string? name)
        (← Document.optional? Document.string? format)
    | _ => none
  | ("Metadata", none) => some .metadata
  | ("Metadata", some .null) => some .metadata
  | _ => none

/-- Reads a source. -/
def Source.ofDocument? (d : Document) : Option Source := do
  let names := ["name", "kind", "schema", "key_field", "timestamp_policy", "topic", "sql"]
  match ← d.fields? names with
  | [name, kind, schema, keyField, timestamp, topic, sql] =>
    return {
      name := ← Document.required? Document.string? name
      kind := ← Document.required? SourceKind.ofDocument? kind
      schema := ← Document.required? RowType.ofDocument? schema
      keyField := ← Document.optional? Document.string? keyField
      timestamp := ← Document.required? TimestampPolicy.ofDocument? timestamp
      topic := ← Document.required? Topic.ofDocument? topic
      sql := ← Document.required? Document.string? sql }
  | _ => none

end Sluice
