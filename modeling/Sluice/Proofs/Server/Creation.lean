import Sluice.Proofs.Server.Columns

/-!
# Creating a source

Creating a source either succeeds as a whole or leaves the server as it was. It succeeds when the
name is free and the declaration is complete: it names a topic, its columns are known, and the
columns that it is keyed and timed by are among them. Then the catalog has the source, its topic
and its claim under the name of the declaration, and is otherwise the same. Nothing is created, and
nothing is wrong, when the name is taken and the declaration says `IF NOT EXISTS`.

## Main definitions

* `CreateSource.Complete`, `CreateSource.declared`: the declarations that describe a source, and
  that source.
* `Catalog.Entered`: one catalog has a source more than another.

## Main statements

* `CreateSource.toSource_iff_complete`: complete declarations describe their source.
* `Server.create_atomic`: when a source is created, and what that changes.
-/

namespace Sluice

/-! ## Complete declarations -/

namespace CreateSource

variable {d : CreateSource} {registry : Option String} {row : RowType} {s : Source}

/-- A declaration that describes a source with these columns: the columns are those listed, or else
those of an Avro schema that is registered for the topic, and the key and the timestamp are two of
them, where they are given. -/
structure Complete (d : CreateSource) (registry : Option String) (row : RowType) : Prop where
  topic : d.properties.brokerTopic.isSome
  columns : d.columns ≠ [] ∧ row = d.columns ∨
    d.columns = [] ∧ d.properties.valueFormat = some .avro ∧
      ∃ text, registry = some text ∧ Avro.readRowType text = .ok row
  key : ∀ column, d.properties.key = some column → ∃ f ∈ row, f.1 = column
  timestamp : ∀ column, d.properties.timestamp = some column → ∃ f ∈ row, f.1 = column

/-- The source that a declaration describes, over the columns given. -/
def declared (d : CreateSource) (row : RowType) : Source where
  name := d.name
  kind := d.kind
  schema := row
  keyField := d.properties.key
  timestamp := d.properties.timestamp.elim .metadata (.column · none)
  topic := {
    name := d.name
    brokerName := d.properties.brokerTopic.getD ""
    format := d.properties.valueFormat.getD .json
    compacted := false }
  sql := d.print

/-- A column is found when some field has its name. -/
theorem isSome_field?_iff {column : String} :
    (row.field? column).isSome ↔ ∃ f ∈ row, f.1 = column := by
  rw [RowType.field?, List.lookup_isSome_iff]
  exact exists_congr fun f => and_congr_right' (beq_iff_eq.trans eq_comm)

/-- The key is made out as it is given, if it is a column. -/
theorem keyField_eq_ok_iff {keyField : Option String} :
    d.keyField row = .ok keyField ↔
      keyField = d.properties.key ∧
        ∀ column, d.properties.key = some column → ∃ f ∈ row, f.1 = column := by
  unfold CreateSource.keyField
  cases d.properties.key with
  | none => simp [eq_comm]
  | some column =>
    dsimp only
    rw [map_checkColumn_eq_ok_iff, isSome_field?_iff]
    simp only [Option.some.injEq, forall_eq']
    tauto

/-- The timestamp is made out as it is given, if it is a column. -/
theorem timestamp_eq_ok_iff {timestamp : TimestampPolicy} :
    d.timestamp row = .ok timestamp ↔
      timestamp = d.properties.timestamp.elim .metadata (.column · none) ∧
        ∀ column, d.properties.timestamp = some column → ∃ f ∈ row, f.1 = column := by
  unfold CreateSource.timestamp
  cases d.properties.timestamp with
  | none => simp [eq_comm]
  | some column =>
    dsimp only
    rw [map_checkColumn_eq_ok_iff, isSome_field?_iff]
    simp only [Option.some.injEq, forall_eq', Option.elim]
    tauto

/-- A declaration describes a source when it is complete, and then that over its columns. -/
theorem toSource_iff_complete :
    d.toSource registry = .ok s ↔ ∃ row, d.Complete registry row ∧ s = d.declared row := by
  have avro : d.format = .avro ↔ d.properties.valueFormat = some .avro := by
    unfold format
    cases d.properties.valueFormat <;> simp
  rw [toSource_eq_ok_iff]
  -- the columns are what the two sides share: the rest of the source is as the declaration has it
  constructor
  · rintro ⟨brokerName, row, keyField, timestamp, named, columns, hkey, htime, rfl⟩
    obtain ⟨rfl, key⟩ := keyField_eq_ok_iff.mp hkey
    obtain ⟨rfl, time⟩ := timestamp_eq_ok_iff.mp htime
    rw [schema_eq_ok_iff, avro] at columns
    refine ⟨row, ⟨Option.isSome_of_eq_some named, columns, key, time⟩, ?_⟩
    simp only [declared, named, Option.getD_some]
    rfl
  · -- conversely, each part is let through by its own check
    rintro ⟨row, ⟨topic, columns, key, time⟩, rfl⟩
    obtain ⟨brokerName, named⟩ := Option.isSome_iff_exists.mp topic
    rw [← avro, ← schema_eq_ok_iff] at columns
    refine ⟨brokerName, row, _, _, named, columns, keyField_eq_ok_iff.mpr ⟨rfl, key⟩,
      timestamp_eq_ok_iff.mpr ⟨rfl, time⟩, ?_⟩
    simp only [declared, named, Option.getD_some]
    rfl

end CreateSource

/-! ## Creation -/

namespace Catalog

variable {c : Catalog} {d : CreateSource} {registry : Option String} {s : Source}

/-- Under a free name, a complete declaration enters its source. -/
theorem create_of_complete (free : c.source? d.name = none) {row : RowType}
    (complete : d.Complete registry row) :
    c.create d registry = (.ok (some (d.declared row)), c.enter (d.declared row)) := by
  have unsatisfied : c.satisfies d = false := by simp [satisfies, free]
  have described : d.toSource registry = .ok (d.declared row) :=
    CreateSource.toSource_iff_complete.mpr ⟨row, complete, rfl⟩
  have registered : c.registerSource (d.declared row) = .ok (c.enter (d.declared row)) := by
    rw [registerSource_eq]
    simp [CreateSource.declared, free]
  simp [create, unsatisfied, described, registered]

/-- Under a taken name, `IF NOT EXISTS` asks for nothing. -/
theorem create_of_satisfied (taken : c.source? d.name = some s) (excused : d.ifNotExists = true)
    (registry : Option String) : c.create d registry = (.ok none, c) := by
  simp [create, satisfies, excused, taken]

/-- The second catalog is the first with three entries more, or replaced: those of a source, its
topic and its claim, all under the name of the source. -/
structure Entered (before after : Catalog) (s : Source) : Prop where
  source : ∀ n, after.source? n = if s.name = n then some s else before.source? n
  topic : ∀ n, after.topic? n = if s.name = n then some s.topic else before.topic? n
  claim : ∀ n : String, after.claims[n]? = if s.name = n then some s.name else before.claims[n]?

/-- A source over a topic of its own name is entered under that name only. -/
theorem entered_enter (c : Catalog) (onOwn : s.topic.name = s.name) : c.Entered (c.enter s) s where
  source := source?_enter
  topic n := by rw [topic?_enter, onOwn]
  claim n := by rw [claims_enter, onOwn]

/-- A source is created exactly under a free name and by a complete declaration. -/
theorem create_eq_some_iff :
    (c.create d registry).1 = .ok (some s) ↔
      c.source? d.name = none ∧ ∃ row, d.Complete registry row ∧ s = d.declared row := by
  constructor
  · intro created
    -- a source is entered under a free name, or the answer is none at all
    rcases create_cases c d registry with ⟨t, described, free, hcreate⟩ | ⟨answer, nothing, hcreate⟩
    · rw [hcreate] at created
      obtain rfl := Option.some.inj (Except.ok.inj created)
      exact ⟨free, CreateSource.toSource_iff_complete.mp described⟩
    · rw [hcreate] at created
      exact absurd created (nothing s)
  · rintro ⟨free, row, complete, rfl⟩
    rw [create_of_complete free complete]

/-- No source is needed exactly under a taken name and for `IF NOT EXISTS`. -/
theorem create_eq_none_iff :
    (c.create d registry).1 = .ok none ↔
      d.ifNotExists = true ∧ ∃ s, c.source? d.name = some s := by
  constructor
  · -- were a source needed, one would be created, or the name refused
    intro answered
    by_contra needed
    have unsatisfied : c.satisfies d = false := by
      simpa [satisfies, Option.eq_none_iff_forall_ne_some] using needed
    unfold create at answered
    cases described : d.toSource registry with
    | error e => simp [unsatisfied, described] at answered
    | ok s =>
      -- the source is registered, or its name is taken and that is no excuse
      have registered := registerSource_eq c s
      rw [(CreateSource.toSource_spec described).1] at registered
      cases taken : c.source? d.name with
      | none => simp [unsatisfied, described, registered, taken] at answered
      | some t =>
        have strict : d.ifNotExists = false := by simpa [taken] using needed
        simp [unsatisfied, described, registered, taken, strict] at answered
  · rintro ⟨excused, s, taken⟩
    rw [create_of_satisfied taken excused]

/-- A source that is created is entered. -/
theorem snd_create_of_some (created : (c.create d registry).1 = .ok (some s)) :
    (c.create d registry).2 = c.enter s := by
  rcases create_cases c d registry with ⟨t, -, -, hcreate⟩ | ⟨answer, nothing, hcreate⟩
  · rw [hcreate] at created ⊢
    rw [Option.some.inj (Except.ok.inj created)]
  · rw [hcreate] at created
    exact absurd created (nothing s)

/-- Any other answer leaves the catalog as it was. -/
theorem snd_create_of_not_some (nothing : ∀ s, (c.create d registry).1 ≠ .ok (some s)) :
    (c.create d registry).2 = c := by
  rcases create_cases c d registry with ⟨t, -, -, hcreate⟩ | ⟨answer, -, hcreate⟩
  · exact absurd (by rw [hcreate]) (nothing t)
  · rw [hcreate]

/-- After any answer but an error, the name is taken. -/
theorem exists_source?_create (answered : ∀ e, (c.create d registry).1 ≠ .error e) :
    ∃ s, (c.create d registry).2.source? d.name = some s := by
  -- the answer tells whether the name was taken before or is taken now
  cases answer : (c.create d registry).1 with
  | error e => exact absurd answer (answered e)
  | ok created =>
    cases created with
    | none =>
      obtain ⟨-, s, taken⟩ := create_eq_none_iff.mp answer
      rw [snd_create_of_not_some (by simp [answer])]
      exact ⟨s, taken⟩
    | some s =>
      obtain ⟨-, row, -, rfl⟩ := create_eq_some_iff.mp answer
      rw [snd_create_of_some answer]
      exact ⟨d.declared row, by simp [CreateSource.declared]⟩

end Catalog

/-- Creating a source is atomic. There is a source to show for it exactly if its name was free and
the declaration is complete, and none is needed exactly if the name was taken and the declaration
says `IF NOT EXISTS`. A source that is created is entered under its name, and nothing else in the
server changes; any other answer, errors included, leaves the server as it was. Whatever a
declaration with `IF NOT EXISTS` came to, short of an error, repeating it changes nothing. -/
theorem Server.create_atomic (server : Server) (d : CreateSource) (registry : Option String) :
    let answer := (server.create d registry).1
    let after := (server.create d registry).2
    (∀ s, answer = .ok (some s) ↔
      server.catalog.source? d.name = none ∧
        ∃ row, d.Complete registry row ∧ s = d.declared row) ∧
    (answer = .ok none ↔ d.ifNotExists = true ∧ ∃ s, server.catalog.source? d.name = some s) ∧
    (∀ s, answer = .ok (some s) →
      s.name = d.name ∧ after = server.withCatalog after.catalog ∧
        server.catalog.Entered after.catalog s) ∧
    ((∀ s, answer ≠ .ok (some s)) → after = server) ∧
    (d.ifNotExists = true → (∀ e, answer ≠ .error e) →
      ∀ registry', after.create d registry' = (.ok none, after)) := by
  intro answer after
  -- the answers first, and then what they leave of the server
  refine ⟨fun s => Catalog.create_eq_some_iff, Catalog.create_eq_none_iff, ?_, ?_, ?_⟩
  · intro s created
    obtain ⟨-, row, -, rfl⟩ := Catalog.create_eq_some_iff.mp created
    refine ⟨rfl, rfl, ?_⟩
    show server.catalog.Entered (server.catalog.create d registry).2 _
    rw [Catalog.snd_create_of_some created]
    exact Catalog.entered_enter server.catalog rfl
  · intro nothing
    show server.withCatalog (server.catalog.create d registry).2 = server
    rw [Catalog.snd_create_of_not_some nothing]
    rfl
  · intro excused answered registry'
    -- by whichever source, the name is taken afterwards
    obtain ⟨s, taken⟩ := Catalog.exists_source?_create answered
    have again : after.catalog.create d registry' = (.ok none, after.catalog) :=
      Catalog.create_of_satisfied taken excused registry'
    simp only [Server.create, again]
    rfl

end Sluice
