import Sluice.Admission.Acl
import Sluice.Statement.Topics

/-!
# What a statement demands

A statement is admitted when a list of demands is met, one after the other: access to a topic, or
that a name resolves. A query demands READ on every topic under its sources; a statement that
writes demands WRITE on the topic it writes to; printing and declaring a source demand READ on the
topic named. The target of an insertion, or of a query whose sink has no topic of its own, is
looked up in the catalog.
-/

namespace Sluice

/-- One demand of a statement. -/
inductive Demand where
  | access (topic : String) (operation : AclOperation)
  /-- a demand that cannot be met, since a name does not resolve -/
  | unresolved (e : ResolutionError)
deriving DecidableEq, Repr

/-- The demands of reading from the sources of a query. -/
def Query.demands (q : Query) (catalog : Catalog) : List Demand :=
  match q.sourceTopics catalog with
  | .ok topics => topics.brokerNames.map (.access · .read)
  | .error e => [.unresolved e]

/-- The demand of writing to the topic of a source. -/
def Catalog.writeDemand (catalog : Catalog) (target : String) : Demand :=
  match catalog.source? target with
  | some s => .access s.topic.brokerName .write
  | none => .unresolved (.unknownTarget target)

/-- The demands of a statement, in the order in which they are met. -/
def Statement.demands (statement : Statement) (catalog : Catalog) : List Demand :=
  match statement with
  | .query q => q.demands catalog
  | .insertInto target q => q.demands catalog ++ [catalog.writeDemand target]
  | .createAsSelect _ name q properties =>
    q.demands catalog ++
      -- what is selected goes to the topic that is named, or else to that of the target
      [match properties.brokerTopic with
        | some topic => .access topic .write
        | none => catalog.writeDemand name]
  | .printTopic topic _ _ _ => [.access topic .read]
  | .createSource create =>
    match create.properties.brokerTopic with
    | some topic => [.access topic .read]
    -- without a topic the declaration fails, so nothing has to be demanded
    | none => []
  | .dropSource _ _ _ _ | .listTopics | .listSources _ | .terminateQuery _ => []

end Sluice
