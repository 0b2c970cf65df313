import Sluice.Catalog.Source

/-!
# Statements

The statements that clients send, as far as they name sources, topics and columns. Expressions are
columns that have been resolved already.
-/

namespace Sluice

/-- A column, possibly qualified by a source. -/
structure ColumnRef where
  source : Option String
  column : String
deriving DecidableEq, Repr, Inhabited

/-- An item of a select list. -/
inductive SelectItem where
  | wildcard
  | column (ref : ColumnRef) (newName : Option String)
deriving DecidableEq, Repr, Inhabited

/-- Which rows without a partner a join keeps. -/
inductive JoinKind where
  | inner
  | left
  | outer
deriving DecidableEq, Repr, Inhabited

/-- What a query reads from: a source, possibly renamed, or a join whose condition equates two
columns. -/
inductive Relation where
  | source (name : String) (newName : Option String)
  | join (kind : JoinKind) (left right : Relation) (on : Option (ColumnRef × ColumnRef))
deriving DecidableEq, Repr, Inhabited

/-- A `SELECT` query. -/
structure Query where
  projection : List SelectItem
  from_ : Relation
  limit : Option Nat
deriving DecidableEq, Repr, Inhabited

/-- The options of a statement that creates a source. -/
structure SourceProperties where
  /-- the topic, as the broker knows it -/
  brokerTopic : Option String := none
  valueFormat : Option Format := none
  key : Option String := none
  timestamp : Option String := none
  partitions : Option Nat := none
  replicas : Option Nat := none
deriving DecidableEq, Repr, Inhabited

/-- Whether no option is given. -/
def SourceProperties.isEmpty (p : SourceProperties) : Bool :=
  p == {}

/-- A statement that declares a source over a topic. -/
structure CreateSource where
  kind : SourceKind
  name : String
  columns : RowType
  ifNotExists : Bool
  properties : SourceProperties
deriving DecidableEq, Repr, Inhabited

/-- A statement. -/
inductive Statement where
  | query (q : Query)
  | insertInto (target : String) (q : Query)
  | createAsSelect (kind : SourceKind) (name : String) (q : Query) (properties : SourceProperties)
  | createSource (create : CreateSource)
  /-- the topic is named as the broker knows it -/
  | printTopic (topic : String) (fromBeginning : Bool) (interval limit : Option Nat)
  | dropSource (kind : SourceKind) (name : String) (ifExists deleteTopic : Bool)
  | listTopics
  | listSources (kind : SourceKind)
  | terminateQuery (id : String)
deriving DecidableEq, Repr, Inhabited

end Sluice
