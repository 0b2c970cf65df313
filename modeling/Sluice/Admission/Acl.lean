import Sluice.Json.Decode

/-!
# Access control

The operations that an access list can grant on a topic, what a broker reports about a topic, and
whether a report allows an operation. A broker that does not report operations enforces access by
itself later; a broker that cannot be asked allows nothing.
-/

namespace Sluice

/-- An operation on a topic. -/
inductive AclOperation where
  | all
  | read
  | write
  | create
  | delete
  | alter
  | describe
  | clusterAction
  | describeConfigs
  | alterConfigs
  | idempotentWrite
deriving DecidableEq, Repr, Inhabited

/-- All operations, in their order. -/
def AclOperation.list : List AclOperation :=
  [.all, .read, .write, .create, .delete, .alter, .describe, .clusterAction, .describeConfigs,
    .alterConfigs, .idempotentWrite]

/-- The name of an operation. -/
def AclOperation.name : AclOperation → String
  | .all => "ALL"
  | .read => "READ"
  | .write => "WRITE"
  | .create => "CREATE"
  | .delete => "DELETE"
  | .alter => "ALTER"
  | .describe => "DESCRIBE"
  | .clusterAction => "CLUSTER_ACTION"
  | .describeConfigs => "DESCRIBE_CONFIGS"
  | .alterConfigs => "ALTER_CONFIGS"
  | .idempotentWrite => "IDEMPOTENT_WRITE"

/-- Reads an operation. -/
def AclOperation.ofDocument? (d : Json.Document) : Option AclOperation := do
  let name ← d.tag?
  AclOperation.list.find? (·.name == name)

/-- What a broker answers when it is asked about a topic. -/
inductive TopicReport where
  /-- the operations that the principal may perform -/
  | operations (granted : List AclOperation)
  /-- the topic exists, but the broker does not report operations -/
  | unreported
  /-- the broker could not answer -/
  | failed
deriving DecidableEq, Repr

/-- Whether a report allows an operation. -/
def TopicReport.allows (report : TopicReport) (operation : AclOperation) : Bool :=
  match report with
  | .operations granted => granted.contains operation
  | .unreported => true
  | .failed => false

/-- The answers of a broker, by topic. -/
abbrev Broker := String → TopicReport

end Sluice
