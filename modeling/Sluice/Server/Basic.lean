import Sluice.Config
import Sluice.Row.Basic
import Sluice.Schema.OfSql
import Sluice.Server.Creation

/-!
# The server

A server checks statements, creates, drops and describes sources, and hands out the queues of
transient queries. Statements are checked only if the configuration asks for it.

## Main definitions

* `Server`, `Server.start`: the state of a server, and the server of a configuration.
* `Server.validate`, `create`, `drop`, `describe`, `openQueue`: the requests.
-/

namespace Sluice

/-- The state of a server. -/
structure Server where
  config : Config
  catalog : Catalog
  /-- what checks statements, unless all are admitted -/
  authorizer : Option Authorizer

namespace Server

/-- The server of a configuration, without sources. -/
def start (config : Config) : Except ExpiryError Server :=
  if config.authorizationEnabled then
    (Authorizer.create config.decisionExpiry config.decisionCapacity).map
      (⟨config, .empty, some ·⟩)
  else .ok ⟨config, .empty, none⟩

/-- The server with another catalog. -/
def withCatalog (s : Server) (catalog : Catalog) : Server :=
  { s with catalog }

/-- Checks that a user may execute a statement; answers the accesses that the broker was asked about
too. -/
def validate (s : Server) (broker : Broker) (user : Option String) (statement : Statement) :
    Except ServerError Unit × List AccessKey × Server :=
  match s.authorizer with
  | none => (.ok (), [], s)
  | some a =>
    let v := a.check broker s.catalog (principal user) statement
    (v.result.mapError .admission, v.asked, { s with authorizer := some v.authorizer })

/-- Creates a source. -/
def create (s : Server) (c : CreateSource) (registry : Option String) :
    Except ServerError (Option Source) × Server :=
  let (answer, catalog) := s.catalog.create c registry
  (answer, s.withCatalog catalog)

/-- Drops a source. -/
def drop (s : Server) (name : String) (ifExists : Bool) : Except ServerError Unit × Server :=
  let (answer, catalog) := s.catalog.drop name ifExists
  (answer, s.withCatalog catalog)

/-- Describes the columns of a source. -/
def describe (s : Server) (name : String) :
    Except ServerError (List (String × Description)) :=
  match s.catalog.source? name with
  | none => .error (.resolution (.unknownSource name))
  | some source => do
    let schema ← (RowType.toSchema source.schema).mapError .decimal
    schema.describeColumns.mapError .description

/-- The queue of a new transient query, whose identifier is made from random bits, when there is a
channel for its rows. -/
def newQueue (s : Server) (limit : Option Nat) (bits : BitVec 128) : ResultQueue Row :=
  ResultQueue.create limit s.config.queueCapacity (some (.transient bits))

/-- Makes the queue of a new transient query, in a memory with a number of bytes left. -/
def openQueue (s : Server) (memory : Nat) (limit : Option Nat) (bits : BitVec 128) :
    Except ChannelError (ResultQueue Row) :=
  ResultQueue.allocate memory limit s.config.queueCapacity (some (.transient bits))

end Server

end Sluice
