import Sluice.SqlType.Printer
import Sluice.Statement.Basic

/-!
# Printing statements

The SQL text of a statement. Names stand as they are, and a join is printed without parentheses.
The text of the statement that created a source is kept with the source.
-/

namespace Sluice

/-- A text followed by another one, if that is present. -/
private def followedBy {α : Type} (lead : String) (text : α → String) : Option α → String
  | none => ""
  | some a => lead ++ text a

/-- The text of a column. -/
def ColumnRef.print (c : ColumnRef) : String :=
  match c.source with
  | some source => source ++ "." ++ c.column
  | none => c.column

/-- The text of an item of a select list. -/
def SelectItem.print : SelectItem → String
  | .wildcard => "*"
  | .column ref newName => ref.print ++ followedBy " AS " id newName

/-- The keywords of a join. -/
def JoinKind.keywords : JoinKind → String
  | .inner => "JOIN"
  | .left => "LEFT JOIN"
  | .outer => "FULL OUTER JOIN"

/-- The text of what a query reads from. -/
def Relation.print : Relation → String
  | .source name newName => name ++ followedBy " " id newName
  | .join kind left right on =>
    left.print ++ " " ++ kind.keywords ++ " " ++ right.print ++
      followedBy " ON " (fun (l, r) => l.print ++ " = " ++ r.print) on

/-- The text of a query. -/
def Query.print (q : Query) : String :=
  "SELECT " ++ ", ".intercalate (q.projection.map (·.print)) ++ " FROM " ++ q.from_.print ++
    followedBy " LIMIT " toString q.limit

/-- The text of the options that are given. -/
def SourceProperties.print (p : SourceProperties) : String :=
  let quote (s : String) : String := "'" ++ s ++ "'"
  let options := [
    p.brokerTopic.map fun s => "KAFKA_TOPIC=" ++ quote s,
    p.valueFormat.map fun f => "VALUE_FORMAT=" ++ quote f.name,
    p.key.map fun s => "KEY=" ++ quote s,
    p.timestamp.map fun s => "TIMESTAMP=" ++ quote s,
    p.partitions.map fun n => "PARTITIONS=" ++ toString n,
    p.replicas.map fun n => "REPLICAS=" ++ toString n]
  "WITH (" ++ ", ".intercalate (options.filterMap id) ++ ")"

/-- The text of a column definition. -/
def printColumn (column : Field) : String :=
  column.1 ++ " " ++ column.2.print

/-- The text of a statement that declares a source. -/
def CreateSource.print (c : CreateSource) : String :=
  "CREATE " ++ c.kind.name ++ " " ++ (if c.ifNotExists then "IF NOT EXISTS " else "") ++ c.name ++
    " " ++
    (if c.columns.isEmpty then ""
      else "(" ++ ", ".intercalate (c.columns.map printColumn) ++ ") ") ++
    c.properties.print

/-- The text of a statement. -/
def Statement.print : Statement → String
  | .query q => q.print
  | .insertInto target q => "INSERT INTO " ++ target ++ " " ++ q.print
  | .createAsSelect kind name q properties =>
    "CREATE " ++ kind.name ++ " " ++ name ++ " " ++
      (if properties.isEmpty then "" else properties.print ++ " ") ++ "AS " ++ q.print
  | .createSource create => create.print
  | .printTopic topic fromBeginning interval limit =>
    "PRINT '" ++ topic ++ "'" ++ (if fromBeginning then " FROM BEGINNING" else "") ++
      followedBy " INTERVAL " toString interval ++ followedBy " LIMIT " toString limit
  | .dropSource kind name ifExists deleteTopic =>
    "DROP " ++ kind.name ++ " " ++ (if ifExists then "IF EXISTS " else "") ++ name ++
      (if deleteTopic then " DELETE TOPIC" else "")
  | .listTopics => "SHOW TOPICS"
  | .listSources kind => "SHOW " ++ kind.name ++ "S"
  | .terminateQuery id => "TERMINATE " ++ id

end Sluice
