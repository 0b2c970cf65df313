import Sluice.Proofs.Catalog.Lookup
import Sluice.Proofs.Except
import Sluice.Server.Basic

/-!
# Runs of requests

A server that serves requests one after the other, whether they succeed or fail. Creating a source
either enters the source declared under a free name or changes nothing, dropping one removes it,
and checking a statement never touches the catalog. Whatever creating and dropping keep therefore
holds after every run.

## Main definitions

* `Request`, `Server.serve`, `Server.serveAll`: one request, and a run of them.

## Main statements

* `CreateSource.toSource_eq_ok_iff`: the declarations that describe a source.
* `Catalog.create_cases`, `Catalog.drop_cases`: all that creating and dropping can do.
* `Catalog.source?_create`, `Catalog.source?_drop`: where a source that is found comes from.
* `Server.serveAll_keeps`: what both keep, every run keeps.
-/

namespace Sluice

/-! ## What a declaration describes -/

namespace CreateSource

variable {d : CreateSource} {registry : Option String} {s : Source}

/-- A column that is referred to in some way is let through when it exists. -/
theorem map_checkColumn_eq_ok_iff {α : Type} {schema : RowType} {column : String}
    {refer : String → α} {a : α} :
    (d.checkColumn schema column).map refer = .ok a ↔
      (schema.field? column).isSome ∧ refer column = a := by
  rw [map_eq_ok_iff]
  unfold checkColumn
  split
  · rename_i found
    simp [found]
  · rename_i missing
    simp [missing]

/-- The key column that is made out exists. -/
theorem isSome_field?_of_keyField {schema : RowType} {column : String}
    (h : d.keyField schema = .ok (some column)) : (schema.field? column).isSome := by
  unfold keyField at h
  split at h
  · simp at h
  · obtain ⟨found, named⟩ := map_checkColumn_eq_ok_iff.mp h
    obtain rfl := Option.some.inj named
    exact found

/-- The timestamp column that is made out exists. -/
theorem isSome_field?_of_timestamp {schema : RowType} {column : String} {format : Option String}
    (h : d.timestamp schema = .ok (.column column format)) :
    (schema.field? column).isSome := by
  unfold timestamp at h
  split at h
  · simp at h
  · obtain ⟨found, named⟩ := map_checkColumn_eq_ok_iff.mp h
    obtain ⟨rfl, -⟩ := TimestampPolicy.column.inj named
    exact found

/-- A declaration describes a source when it names a topic, its columns are known, and the columns
it refers to are let through. -/
theorem toSource_eq_ok_iff :
    d.toSource registry = .ok s ↔
      ∃ brokerName schema keyField timestamp, d.properties.brokerTopic = some brokerName ∧
        d.schema registry = .ok schema ∧ d.keyField schema = .ok keyField ∧
        d.timestamp schema = .ok timestamp ∧
        s = {
          name := d.name
          kind := d.kind
          schema
          keyField
          timestamp
          topic := { name := d.name, brokerName, format := d.format, compacted := false }
          sql := d.print } := by
  unfold toSource
  cases named : d.properties.brokerTopic with
  | none => simp
  | some brokerName =>
    -- the parts are made out in order, and each may fail
    constructor
    · intro h
      obtain ⟨schema, hschema, h⟩ := bind_eq_ok_iff.mp h
      obtain ⟨keyField, hkey, h⟩ := bind_eq_ok_iff.mp h
      obtain ⟨timestamp, htime, h⟩ := bind_eq_ok_iff.mp h
      exact ⟨brokerName, schema, keyField, timestamp, rfl, hschema, hkey, htime,
        (Except.ok.inj h).symm⟩
    · rintro ⟨brokerName, schema, keyField, timestamp, ⟨⟩, hschema, hkey, htime, rfl⟩
      exact bind_eq_ok_iff.mpr ⟨schema, hschema, bind_eq_ok_iff.mpr ⟨keyField, hkey,
        bind_eq_ok_iff.mpr ⟨timestamp, htime, rfl⟩⟩⟩

end CreateSource

/-- The columns that a source is keyed and timed by are columns of its own. -/
structure Source.ColumnsExist (s : Source) : Prop where
  keyField : ∀ column, s.keyField = some column → (s.schema.field? column).isSome
  timestamp : ∀ column format, s.timestamp = .column column format →
    (s.schema.field? column).isSome

/-- A declared source goes by the name of its declaration, and so does its topic; the columns it
refers to exist. -/
theorem CreateSource.toSource_spec {d : CreateSource} {registry : Option String} {s : Source}
    (h : d.toSource registry = .ok s) :
    s.name = d.name ∧ s.topic.name = d.name ∧ s.ColumnsExist := by
  obtain ⟨brokerName, schema, keyField, timestamp, -, -, hkey, htime, rfl⟩ :=
    toSource_eq_ok_iff.mp h
  refine ⟨rfl, rfl, ?_, ?_⟩
  · rintro column rfl
    exact isSome_field?_of_keyField hkey
  · rintro column format rfl
    exact isSome_field?_of_timestamp htime

/-! ## Creating and dropping -/

namespace Catalog

/-- Creating a source enters what is declared under a free name, or changes nothing. -/
theorem create_cases (c : Catalog) (d : CreateSource) (registry : Option String) :
    (∃ s, d.toSource registry = .ok s ∧ c.source? d.name = none ∧
      c.create d registry = (.ok (some s), c.enter s)) ∨
    (∃ answer, (∀ s, answer ≠ .ok (some s)) ∧ c.create d registry = (answer, c)) := by
  unfold create
  -- the existence check comes first, then the declaration, then the registration
  by_cases hsat : c.satisfies d
  · exact .inr ⟨.ok none, by simp, by simp [hsat]⟩
  cases hs : d.toSource registry with
  | error e => exact .inr ⟨.error (.declaration e), by simp, by simp [hsat]⟩
  | ok s =>
    obtain ⟨hname, -, -⟩ := CreateSource.toSource_spec hs
    have hreg := registerSource_eq c s
    rw [hname] at hreg
    cases hfree : c.source? d.name with
    | none => exact .inl ⟨s, rfl, rfl, by simp [hsat, hreg, hfree]⟩
    | some taken =>
      -- a name that is taken is an answer of its own kind for `IF NOT EXISTS`
      by_cases hif : d.ifNotExists
      · exact .inr ⟨.ok none, by simp, by simp [hsat, hreg, hfree, hif]⟩
      · exact .inr ⟨.error (.catalog (.sourceExists d.name)), by simp,
          by simp [hsat, hreg, hfree, hif]⟩

/-- Dropping a source removes it and succeeds, or there is none and nothing changes. -/
theorem drop_cases (c : Catalog) (name : String) (ifExists : Bool) :
    (∃ s, c.source? name = some s ∧ c.drop name ifExists = (.ok (), (c.removeSource name).2)) ∨
    (c.source? name = none ∧ (c.drop name ifExists).2 = c) := by
  cases h : c.source? name with
  | none => exact .inr ⟨rfl, by simp [drop, removeSource_of_none h]⟩
  | some s => exact .inl ⟨s, rfl, by simp [drop, removeSource_of_some h]⟩

variable {c : Catalog} {name : String} {s : Source}

/-- A source found after a creation was there before, or it is the one created. -/
theorem source?_create {d : CreateSource} {registry : Option String}
    (h : (c.create d registry).2.source? name = some s) :
    c.source? name = some s ∨ (c.create d registry).1 = .ok (some s) ∧
      d.toSource registry = .ok s ∧ d.name = name := by
  -- a creation enters a source under its own name, or leaves the catalog as it was
  rcases create_cases c d registry with ⟨t, ht, -, hcreate⟩ | ⟨answer, -, hcreate⟩
  · rw [hcreate, source?_enter] at h
    split at h
    · rename_i named
      obtain rfl := Option.some.inj h
      have declared : d.name = name := (CreateSource.toSource_spec ht).1.symm.trans named
      exact .inr ⟨by rw [hcreate], ht, declared⟩
    · exact .inl h
  · rw [hcreate] at h
    exact .inl h

/-- A source found after a removal was there before. -/
theorem source?_drop {dropped : String} {ifExists : Bool}
    (h : (c.drop dropped ifExists).2.source? name = some s) : c.source? name = some s := by
  rcases drop_cases c dropped ifExists with ⟨t, ht, hdrop⟩ | ⟨-, hdrop⟩
  · rw [hdrop, source?_removeSource ht] at h
    split at h
    · cases h
    · exact h
  · rw [hdrop] at h
    exact h

end Catalog

/-! ## Runs -/

/-- A request that a client sends to a server. -/
inductive Request where
  | create (d : CreateSource) (registry : Option String)
  | drop (name : String) (ifExists : Bool)
  | validate (broker : Broker) (user : Option String) (statement : Statement)

namespace Server

/-- The server after a request, whatever it answered. -/
def serve (server : Server) : Request → Server
  | .create d registry => (server.create d registry).2
  | .drop name ifExists => (server.drop name ifExists).2
  | .validate broker user statement => (server.validate broker user statement).2.2

/-- The server after requests, one after the other. -/
def serveAll (server : Server) (requests : List Request) : Server :=
  requests.foldl serve server

/-- A server starts with its settings and without sources. -/
theorem exists_of_start {config : Config} {server : Server} (h : start config = .ok server) :
    ∃ authorizer, server = ⟨config, .empty, authorizer⟩ := by
  unfold start at h
  split at h
  · obtain ⟨a, -, rfl⟩ := map_eq_ok_iff.mp h
    exact ⟨some a, rfl⟩
  · obtain rfl := Except.ok.inj h
    exact ⟨none, rfl⟩

theorem catalog_start {config : Config} {server : Server} (h : start config = .ok server) :
    server.catalog = .empty := by
  obtain ⟨authorizer, rfl⟩ := exists_of_start h
  rfl

/-- Checking a statement leaves the catalog as it is. -/
theorem catalog_validate (server : Server) (broker : Broker) (user : Option String)
    (statement : Statement) :
    (server.validate broker user statement).2.2.catalog = server.catalog := by
  unfold validate
  split <;> rfl

/-- What the creations of a run keep, and dropping a source keeps, the run keeps. -/
theorem serveAll_keeps_of_mem {P : Catalog → Prop} {requests : List Request}
    (create : ∀ c d registry, .create d registry ∈ requests → P c → P (c.create d registry).2)
    (drop : ∀ c name ifExists, P c → P (c.drop name ifExists).2)
    (server : Server) (start : P server.catalog) : P (server.serveAll requests).catalog := by
  induction requests generalizing server with
  | nil => exact start
  | cons request rest ih =>
    -- one request keeps `P`, and the rest of the run starts from there
    apply ih
    · intro c d registry later
      exact create c d registry (List.mem_cons_of_mem request later)
    cases request with
    | create d registry => exact create _ d registry List.mem_cons_self start
    | drop name ifExists => exact drop _ name ifExists start
    | validate broker user statement =>
      show P (server.validate broker user statement).2.2.catalog
      rw [catalog_validate]
      exact start

/-- What creating and dropping a source keep, every run of requests keeps. -/
theorem serveAll_keeps {P : Catalog → Prop}
    (create : ∀ c d registry, P c → P (c.create d registry).2)
    (drop : ∀ c name ifExists, P c → P (c.drop name ifExists).2)
    (server : Server) (requests : List Request) (start : P server.catalog) :
    P (server.serveAll requests).catalog :=
  serveAll_keeps_of_mem (fun c d registry _ => create c d registry) drop server start

end Server

end Sluice
