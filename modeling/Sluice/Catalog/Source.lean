import Sluice.SqlType.Basic

/-!
# Sources and topics

A source is a named stream or table over the values of a topic. The catalog has a name of its own
for a topic; the name that the broker knows, against which access is checked, may be another.
-/

namespace Sluice

/-- The format of the values of a topic. -/
inductive Format where
  | json
  | avro
  | delimited
deriving DecidableEq, Repr, Inhabited

/-- The name of a format. -/
def Format.name : Format → String
  | .json => "JSON"
  | .avro => "AVRO"
  | .delimited => "DELIMITED"

/-- All formats, in their order. -/
def Format.all : List Format :=
  [.json, .avro, .delimited]

/-- The place of a format in the order. -/
def Format.rank : Format → Nat
  | .json => 0
  | .avro => 1
  | .delimited => 2

/-- A topic of the catalog. -/
structure Topic where
  /-- the name in the catalog -/
  name : String
  /-- the name that the broker knows -/
  brokerName : String
  format : Format
  /-- whether only the latest value of each key is kept -/
  compacted : Bool
deriving DecidableEq, Repr, Inhabited

/-- The order of topics: by name, broker name, format, and compaction. -/
def Topic.order (a b : Topic) : Ordering :=
  (compare a.name b.name).then <|
    (compare a.brokerName b.brokerName).then <|
      (compare a.format.rank b.format.rank).then <|
        compare a.compacted.toNat b.compacted.toNat

/-- Whether a source is a stream of events or a table of latest values. -/
inductive SourceKind where
  | stream
  | table
deriving DecidableEq, Repr, Inhabited

/-- The keyword of a kind of source. -/
def SourceKind.name : SourceKind → String
  | .stream => "STREAM"
  | .table => "TABLE"

/-- How the rows of a source get their event time. -/
inductive TimestampPolicy where
  /-- from the record itself -/
  | metadata
  /-- from a column, read with a format if there is one -/
  | column (name : String) (format : Option String)
deriving DecidableEq, Repr, Inhabited

/-- A named stream or table. -/
structure Source where
  name : String
  kind : SourceKind
  schema : RowType
  keyField : Option String
  timestamp : TimestampPolicy
  topic : Topic
  /-- the statement that created the source -/
  sql : String
deriving DecidableEq, Repr, Inhabited

end Sluice
