import Sluice.Proofs.Schema.Description
import Sluice.Proofs.Schema.NormalForm
import Sluice.Proofs.Server.Requests

/-!
# The columns of sources

The columns of a source are those that its declaration lists, or those of the schema registered for
its topic. Either way their types are well formed: a schema that is registered may be anything, but
columns without a type are left out when it is read. A client that asks is told about every column.

The exception are sources without columns. A declaration that lists none needs a registered schema,
but nothing is asked of that schema. If no column of it has a type, all are left out, and a source
is created that cannot be described.

## Main definitions

* `Catalog.Declared`: every source of a catalog is what some request of a run declared.

## Main statements

* `CreateSource.wellFormed_of_toSource`: the columns of a declared source are well formed.
* `Server.describe_reached`: what is told about each source of a run.
* `Server.describe_reached_columnless`: a source that is created and cannot be described.
-/

namespace Sluice

open Number

/-! ## The columns of a declaration -/

/-- A row type is that of the schema of a struct. -/
theorem Schema.toSqlType_of_toRowType {s : Schema} {row : RowType} (h : s.toRowType = .ok row) :
    s.toSqlType = .ok (.struct row) := by
  unfold toRowType at h
  split at h
  · rename_i type
    obtain rfl := Except.ok.inj h
    exact type
  · cases h
  · cases h

/-- The row type of an Avro text is well formed, whatever the text says. -/
theorem Avro.wellFormed_of_readRowType {text : String} {row : RowType}
    (h : readRowType text = .ok row) : (SqlType.struct row).WellFormed := by
  obtain ⟨schema, -, h⟩ := bind_eq_ok_iff.mp h
  have type := Schema.toSqlType_of_toRowType (mapError_eq_ok_iff.mp h)
  exact (Schema.normal_of_toSqlType schema type).wellFormed

namespace CreateSource

variable {d : CreateSource} {registry : Option String} {s : Source} {row : RowType}

/-- The columns of a declaration are those it lists, or else those of an Avro schema that is
registered. -/
theorem schema_eq_ok_iff :
    d.schema registry = .ok row ↔
      d.columns ≠ [] ∧ row = d.columns ∨
        d.columns = [] ∧ d.format = .avro ∧
          ∃ text, registry = some text ∧ Avro.readRowType text = .ok row := by
  -- listed columns are taken as they are, and the format matters only without them
  unfold schema
  cases hcolumns : d.columns with
  | cons column rest => simp [eq_comm]
  | nil =>
    cases hformat : d.format with
    | avro =>
      cases registry with
      | none => simp
      | some text => simp [mapError_eq_ok_iff]
    | _ => simp

/-- A declared source has the columns of its declaration. -/
theorem schema_of_toSource (h : d.toSource registry = .ok s) :
    d.schema registry = .ok s.schema := by
  obtain ⟨brokerName, schema, keyField, timestamp, -, hschema, -, -, rfl⟩ :=
    toSource_eq_ok_iff.mp h
  exact hschema

/-- The columns of a declared source are well formed, if those that the declaration lists are. -/
theorem wellFormed_of_toSource (listed : (SqlType.struct d.columns).WellFormed)
    (h : d.toSource registry = .ok s) : (SqlType.struct s.schema).WellFormed := by
  rcases schema_eq_ok_iff.mp (schema_of_toSource h) with ⟨-, same⟩ | ⟨-, -, text, -, read⟩
  · rw [same]
    exact listed
  · exact Avro.wellFormed_of_readRowType read

end CreateSource

/-! ## The sources of a run -/

/-- Every source of the catalog is what some request declared under its name. -/
def Catalog.Declared (requests : List Request) (c : Catalog) : Prop :=
  ∀ name s, c.source? name = some s →
    ∃ d registry, .create d registry ∈ requests ∧ d.name = name ∧ d.toSource registry = .ok s

namespace Server

variable {config : Config} {server : Server} {requests : List Request} {name : String}
  {source : Source}

/-- The sources of a run were declared in the run. -/
theorem declared_serveAll (started : start config = .ok server) (requests : List Request) :
    (server.serveAll requests).catalog.Declared requests := by
  apply serveAll_keeps_of_mem
  · -- a source is old, or it was created by the request
    intro c d registry requested declared name s found
    rcases Catalog.source?_create found with old | ⟨-, hs, named⟩
    · exact declared name s old
    · exact ⟨d, registry, requested, named, hs⟩
  · intro c dropped ifExists declared name s found
    exact declared name s (Catalog.source?_drop found)
  · -- there are no sources at the start
    intro name s found
    rw [catalog_start started, Catalog.source?_empty] at found
    cases found

/-- What is told about a source with well-formed columns: all its columns, or that it has none. -/
theorem describe_of_wellFormed (found : server.catalog.source? name = some source)
    (valid : (SqlType.struct source.schema).WellFormed) :
    -- the schema of a well-formed row is never refused, so only the lack of columns is told
    server.describe name =
      if source.schema = [] then .error (.description (.noFields (Schema.struct [])))
      else .ok (source.schema.map fun f => (f.1, f.2.description)) := by
  simp only [describe, found, RowType.toSchema_eq valid]
  show (source.schema.schema.describeColumns).mapError _ = _
  rw [RowType.describeColumns_schema]
  by_cases columnless : source.schema = []
  · rw [if_pos columnless, if_pos columnless, columnless]
    rfl
  · rw [if_neg columnless, if_neg columnless]
    rfl

/-- After every run of requests on a new server, a client that asks about a source is told about
each of its columns, by name and type and in order, if the source has columns. A source without
columns cannot be described. Such a source was declared without columns over a topic with a
registered Avro schema, none of whose columns has a type. -/
theorem describe_reached (started : start config = .ok server)
    (listed : ∀ d registry, .create d registry ∈ requests → (SqlType.struct d.columns).WellFormed)
    (found : (server.serveAll requests).catalog.source? name = some source) :
    (source.schema ≠ [] →
      (server.serveAll requests).describe name =
        .ok (source.schema.map fun f => (f.1, f.2.description))) ∧
    (source.schema = [] →
      (server.serveAll requests).describe name =
          .error (.description (.noFields (Schema.struct []))) ∧
        ∃ d text, .create d (some text) ∈ requests ∧ d.name = name ∧ d.columns = [] ∧
          d.format = .avro ∧ Avro.readRowType text = .ok []) := by
  -- where the source came from tells whether its types are well formed
  obtain ⟨d, registry, requested, named, hs⟩ := declared_serveAll started requests name source found
  have valid := CreateSource.wellFormed_of_toSource (listed d registry requested) hs
  have described := describe_of_wellFormed found valid
  refine ⟨fun columns => ?_, fun columnless => ⟨?_, ?_⟩⟩
  · rw [described, if_neg columns]
  · rw [described, if_pos columnless]
  · -- the columns were not listed, or there would be some
    rcases CreateSource.schema_eq_ok_iff.mp (CreateSource.schema_of_toSource hs) with
      ⟨nonempty, same⟩ | ⟨unlisted, format, text, rfl, read⟩
    · exact absurd (same.symm.trans columnless) nonempty
    · rw [columnless] at read
      exact ⟨d, text, requested, named, unlisted, format, read⟩

/-- What is told about a source that was declared twice, and not dropped with another one. -/
theorem describe_reached_listed :
    let server : Server := ⟨{ authorizationEnabled := false }, .empty, none⟩
    let orders : CreateSource := ⟨.stream, "ORDERS", [("ID", .primitive .bigint),
      ("PRICE", .primitive (.decimal 6 2)), ("TAGS", .map .string (.struct []))], false,
      { brokerTopic := some "orders" }⟩
    let requests : List Request := [.create orders none, .create orders none, .drop "CLICKS" false]
    let reached := server.serveAll requests
    start server.config = .ok server ∧
      (∀ d registry, .create d registry ∈ requests → (SqlType.struct d.columns).WellFormed) ∧
      ∃ source, reached.catalog.source? "ORDERS" = some source ∧ source.schema = orders.columns ∧
        reached.describe "ORDERS" = .ok [("ID", .primitive .bigint []),
          ("PRICE", .primitive .decimal ["6", "2"]), ("TAGS", .map (.struct []))] := by
  intro server orders requests reached
  have started : start server.config = .ok server := rfl
  have listed : ∀ d registry, .create d registry ∈ requests →
      (SqlType.struct d.columns).WellFormed := by
    intro d registry requested
    -- both creations are of the same declaration
    obtain rfl : d = orders := by
      simp only [requests, List.mem_cons, Request.create.injEq, reduceCtorEq, List.not_mem_nil,
        or_false, or_self] at requested
      exact requested.1
    simp [orders, Primitive.WellFormed, ValidDecimalBounds, IsInt32, int32Least, int32Greatest]
  -- the declaration lists its columns, so no schema is asked for
  obtain ⟨s, hs, hname, hschema⟩ :
    ∃ s, orders.toSource none = .ok s ∧ s.name = "ORDERS" ∧ s.schema = orders.columns :=
    ⟨_, rfl, rfl, rfl⟩
  have found : reached.catalog.source? "ORDERS" = some s := by
    simp [reached, requests, server, serveAll, serve, Server.create, Server.drop, withCatalog,
      Catalog.create, Catalog.drop, Catalog.satisfies, Catalog.registerSource_eq,
      Catalog.removeSource_of_none, hs, hname, orders]
  have law := describe_reached started listed found
  refine ⟨started, listed, s, found, hschema, ?_⟩
  rw [law.1 (by simp [hschema, orders]), hschema]
  rfl

/-- A source that is created and cannot be described: the only column of the schema registered for
its topic is one of bytes, which has no type. -/
theorem describe_reached_columnless :
    let server : Server := ⟨{ authorizationEnabled := false }, .empty, none⟩
    let blobs : CreateSource := ⟨.stream, "BLOBS", [], false,
      { brokerTopic := some "blobs", valueFormat := some .avro }⟩
    let registered := "\x7b\"type\":\"record\",\"name\":\"r\"," ++
      "\"fields\":[\x7b\"name\":\"b\",\"type\":\"bytes\"\x7d]\x7d"
    let reached := server.serveAll [.create blobs (some registered)]
    start server.config = .ok server ∧
      ∃ source, (server.create blobs (some registered)).1 = .ok (some source) ∧
        reached.catalog.source? "BLOBS" = some source ∧
        ∀ descriptions, reached.describe "BLOBS" ≠ .ok descriptions := by
  intro server blobs registered reached
  have read : Avro.readRowType registered = .ok [] := by
    apply toOption_eq_some_iff.mp
    decide +kernel
  have columns : blobs.schema (some registered) = .ok [] :=
    CreateSource.schema_eq_ok_iff.mpr (.inr ⟨rfl, rfl, registered, rfl, read⟩)
  obtain ⟨s, hs, hname, hschema⟩ :
      ∃ s, blobs.toSource (some registered) = .ok s ∧ s.name = "BLOBS" ∧ s.schema = [] :=
    ⟨_, bind_eq_ok_iff.mpr ⟨[], columns, rfl⟩, rfl, rfl⟩
  have created : server.catalog.create blobs (some registered) =
      (.ok (some s), Catalog.empty.enter s) := by
    simp [Catalog.create, Catalog.satisfies, Catalog.registerSource_eq, hs, blobs, server]
  have found : reached.catalog.source? "BLOBS" = some s := by
    simp [reached, serveAll, serve, Server.create, withCatalog, created, hname]
  refine ⟨rfl, s, by simp [Server.create, created], found, ?_⟩
  -- the description fails as the rule says
  intro descriptions described
  rw [describe_of_wellFormed found (by simp [hschema]), if_pos hschema] at described
  cases described

end Server

end Sluice
