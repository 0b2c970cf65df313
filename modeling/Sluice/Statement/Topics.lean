import Sluice.Catalog.Basic
import Sluice.Statement.Basic

/-!
# The topics of a query

Every source that a query reads from is resolved against the catalog, from left to right; the
first name that does not resolve fails the query. The topic of the first source is the primary
one: sinks created from the query are placed like it.
-/

namespace Sluice

/-- Why a name does not resolve. -/
inductive ResolutionError where
  | unknownSource (name : String)
  | unknownTarget (name : String)
deriving DecidableEq, Repr

/-- What the error says. -/
def ResolutionError.message : ResolutionError → String
  | .unknownSource name => name ++ " does not exist."
  | .unknownTarget name =>
    "Cannot validate for topic access from an unknown stream/table: " ++ name

/-- Adds an item to a list in increasing order, unless it is there. -/
def insertDistinct {α : Type} (order : α → α → Ordering) (a : α) : List α → List α
  | [] => [a]
  | b :: rest =>
    match order a b with
    | .lt => a :: b :: rest
    | .eq => b :: rest
    | .gt => b :: insertDistinct order a rest

/-- The topics under the sources of a query. -/
structure SourceTopics where
  /-- the topic of the first source -/
  primary : Topic
  /-- the topics of all sources, each once and in order -/
  topics : List Topic
deriving DecidableEq, Repr

/-- The names of the topics that the broker knows, each once and in order. -/
def SourceTopics.brokerNames (t : SourceTopics) : List String :=
  t.topics.foldr (fun topic names => insertDistinct compare topic.brokerName names) []

/-- Adds the topics under a relation to those found before it; answers the first of them too. -/
def Relation.collectTopics (catalog : Catalog) :
    Relation → List Topic → Except ResolutionError (Topic × List Topic)
  | .source name _, topics =>
    match catalog.source? name with
    | some s => .ok (s.topic, insertDistinct Topic.order s.topic topics)
    | none => .error (.unknownSource name)
  | .join _ left right _, topics => do
    let (primary, topics) ← left.collectTopics catalog topics
    let (_, topics) ← right.collectTopics catalog topics
    return (primary, topics)

/-- The topics under the sources of a query. -/
def Query.sourceTopics (q : Query) (catalog : Catalog) : Except ResolutionError SourceTopics := do
  let (primary, topics) ← q.from_.collectTopics catalog []
  return { primary, topics }

end Sluice
