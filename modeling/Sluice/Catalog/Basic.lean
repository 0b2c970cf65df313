import Std.Data.ExtTreeMap
import Sluice.Catalog.Source

/-!
# The catalog

The catalog keeps three indexes: sources by name, topics by name, and, for each topic, the source
that was last registered against it. A source is registered under a free name only, so nothing is
ever overwritten; a topic may be replaced. Removing a source gives up its claim on its topic
unless a later source has taken that over, and may also remove a topic that no source uses.

## Main definitions

* `Catalog`: the three indexes; equal catalogs are those with equal look-ups.
* `Command`, `Answer`, `Catalog.apply`: one change of the catalog and its answer.
-/

namespace Sluice

/-- Why a source was not registered. -/
inductive CatalogError where
  | sourceExists (name : String)
deriving DecidableEq, Repr

/-- What the error says. -/
def CatalogError.message : CatalogError → String
  | .sourceExists name =>
    "Cannot add the new data source. Another data source with the same name already exists: "
      ++ name

/-- The sources and topics that statements may refer to. -/
structure Catalog where
  sources : Std.ExtTreeMap String Source
  topics : Std.ExtTreeMap String Topic
  /-- the source last registered against each topic -/
  claims : Std.ExtTreeMap String String

namespace Catalog

/-- The catalog without sources and topics. -/
def empty : Catalog :=
  ⟨∅, ∅, ∅⟩

/-! ## Look-up -/

/-- The source of a name. -/
def source? (c : Catalog) (name : String) : Option Source :=
  c.sources[name]?

/-- The topic of a name. -/
def topic? (c : Catalog) (name : String) : Option Topic :=
  c.topics[name]?

/-- The source last registered against a topic, while it is in the catalog. -/
def sourceForTopic? (c : Catalog) (topic : String) : Option Source :=
  c.claims[topic]?.bind c.source?

/-- All sources, by name. -/
def sourceList (c : Catalog) : List Source :=
  c.sources.toList.map (·.2)

/-- All topics, by name. -/
def topicList (c : Catalog) : List Topic :=
  c.topics.toList.map (·.2)

/-- Whether some source uses a topic. -/
def uses (c : Catalog) (topic : String) : Bool :=
  c.sourceList.any fun s => s.topic.name == topic

/-! ## Change -/

/-- Adds a topic, in the stead of one with its name. -/
def putTopic (c : Catalog) (t : Topic) : Catalog :=
  { c with topics := c.topics.insert t.name t }

/-- Removes a topic. -/
def deleteTopic (c : Catalog) (name : String) : Option Topic × Catalog :=
  (c.topic? name, { c with topics := c.topics.erase name })

/-- Adds a source under a free name and lets it claim its topic. -/
def putSource (c : Catalog) (s : Source) : Except CatalogError Catalog :=
  if c.sources.contains s.name then .error (.sourceExists s.name)
  else .ok { c with
    sources := c.sources.insert s.name s
    claims := c.claims.insert s.topic.name s.name }

/-- Adds a source under a free name together with its topic. -/
def registerSource (c : Catalog) (s : Source) : Except CatalogError Catalog :=
  (c.putSource s).map (·.putTopic s.topic)

/-- Gives up the claim of a source on a topic, if the source still holds it. -/
def releaseClaim (c : Catalog) (topic source : String) : Catalog :=
  if c.claims[topic]? = some source then { c with claims := c.claims.erase topic } else c

/-- Removes a source and its claim. -/
def deleteSource (c : Catalog) (name : String) : Option Source × Catalog :=
  match c.source? name with
  | none => (none, c)
  | some s => (some s, { c with sources := c.sources.erase name }.releaseClaim s.topic.name name)

/-- Removes a source, its claim, and its topic if no other source uses it. -/
def removeSource (c : Catalog) (name : String) : Option Source × Catalog :=
  match c.deleteSource name with
  | (none, c) => (none, c)
  | (some s, c) => (some s, if c.uses s.topic.name then c else (c.deleteTopic s.topic.name).2)

end Catalog

/-! ## Commands -/

/-- A change of the catalog. -/
inductive Command where
  | putSource (s : Source)
  | registerSource (s : Source)
  | deleteSource (name : String)
  | removeSource (name : String)
  | putTopic (t : Topic)
  | deleteTopic (name : String)

/-- What a change answers. -/
inductive Answer where
  | done
  | rejected (e : CatalogError)
  | source (s : Option Source)
  | topic (t : Option Topic)
deriving DecidableEq

/-- Carries out a command; a command that is rejected changes nothing. -/
def Catalog.apply (c : Catalog) : Command → Answer × Catalog
  | .putSource s =>
    match c.putSource s with
    | .ok c => (.done, c)
    -- what is refused has changed nothing
    | .error e => (.rejected e, c)
  | .registerSource s =>
    match c.registerSource s with
    | .ok c => (.source (some s), c)
    | .error e => (.rejected e, c)
  | .deleteSource name => let (s, c) := c.deleteSource name; (.source s, c)
  | .removeSource name => let (s, c) := c.removeSource name; (.source s, c)
  | .putTopic t => (.done, c.putTopic t)
  | .deleteTopic name => let (t, c) := c.deleteTopic name; (.topic t, c)

end Sluice
