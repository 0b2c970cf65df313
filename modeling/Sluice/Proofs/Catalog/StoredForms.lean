import Sluice.Proofs.Json.Written
import Sluice.Proofs.SqlType.Stored

/-!
# Stored forms read back

Types, row types and sources are stored as JSON. What writes them and what reads them are far apart:
a choice is written as its tag or as an object of one member, a record as an object of named
members, and a primitive type is checked again when it is read. All the same, what is stored of a
well-formed type is read as that type, whatever the order in which the members are written, and
then so it is with what a document of any origin was read as.

Each reader is undone beside the writer of its form, from parameters up to sources. Types are read
layer by layer, and a type inside of another is written with fewer layers.

## Main statements

* `SqlType.ofDocument?_of_writes`, `RowType.ofDocument?_of_writes`, `Source.ofDocument?_of_writes`:
  the documents that write a value are read as it.
* `stored_forms_read_back`: nothing is lost by storing, or by storing again.
-/

namespace Sluice

open Json Number

variable {d : Document}

/-! ## Members -/

/-- A member that may be absent is read back from what is written for it, if what is written for a
value is not read as its absence. -/
theorem optional?_of_writes {α : Type} {write : α → Value} {read? : Document → Option α}
    {o : Option α} (h : d.Writes (Value.ofOption write o))
    (reads : ∀ a, o = some a → d.Writes (write a) → d ≠ .null ∧ read? d = some a) :
    Document.optional? read? (some d) = some o := by
  -- an absent member is written as `null`
  cases o with
  | none =>
    cases h
    rfl
  | some a =>
    obtain ⟨present, read⟩ := reads a rfl h
    rw [Document.optional?, read]
    · rfl
    · exact present

theorem optional_string?_of_writes {s : Option String} (h : d.Writes (Value.ofString? s)) :
    Document.optional? Document.string? (some d) = some s := by
  apply optional?_of_writes h
  rintro s - ⟨⟩
  exact ⟨nofun, rfl⟩

/-! ## Primitive types -/

theorem TypeTag.ofDocument?_of_writes {tag : TypeTag} (h : d.Writes (.string tag.title)) :
    TypeTag.ofDocument? d = some tag := by
  rw [TypeTag.ofDocument?, h.tag?]
  cases tag <;> rfl

theorem parameterOfDocument?_of_writes {n : Int} (fits : IsInt32 n)
    (h : d.Writes (Value.integer n)) : parameterOfDocument? d = some n := by
  cases h
  exact if_pos fits

/-- The parameters of a type that is well formed make it again. -/
theorem Primitive.WellFormed.withParameters_eq {p : Primitive} (valid : p.WellFormed) :
    withParameters p.tag (p.parameters?.getD []) = .ok p := by
  apply withParameters_eq_ok_iff.mpr
  refine ⟨rfl, ?_⟩
  rintro precision scale rfl
  exact ⟨rfl, valid.1⟩

theorem Primitive.WellFormed.isInt32 {p : Primitive} (valid : p.WellFormed) {ps : List Int}
    (h : p.parameters? = some ps) : ∀ n ∈ ps, IsInt32 n := by
  cases p with
  | decimal precision scale =>
    obtain rfl := Option.some.inj h
    intro n mem
    rcases List.mem_pair.mp mem with rfl | rfl
    · exact valid.2.1
    · exact valid.2.2
  | _ => cases h

theorem Primitive.ofDocument?_of_writes {p : Primitive} (valid : p.WellFormed)
    (h : d.Writes p.toJson) : Primitive.ofDocument? d = some p := by
  obtain ⟨ds, read, written, -⟩ := h.fields? ["sql_type", "parameters"] rfl (by decide)
  obtain _ | ⟨tag, _ | ⟨parameters, ⟨⟩⟩⟩ := written
  rename_i d₁ d₂
  -- the parameters were made for the tag, so they are read as numbers of 32 bits
  have hparameters : Document.optional?
      (fun d => d.array?.bind fun items => items.mapM parameterOfDocument?) (some d₂) =
        some p.parameters? := by
    apply optional?_of_writes parameters
    intro ps some written
    cases written with
    | array items =>
      refine ⟨nofun, items.mapM_eq ?_⟩
      intro n mem d _ written
      exact parameterOfDocument?_of_writes (valid.isInt32 some n mem) written
  simp [Primitive.ofDocument?, read, Document.required?, TypeTag.ofDocument?_of_writes tag,
    hparameters, valid.withParameters_eq, Except.toOption]

/-! ## Types -/

namespace SqlType

theorem fieldsToJson_eq (row : RowType) : fieldsToJson row =
    row.map fun f => .object [("name", .string f.1), ("typ", f.2.toJson)] := by
  induction row with
  | nil => rfl
  | cons f rest ih =>
    rw [fieldsToJson, ih]
    rfl

theorem fieldOfDocument?_of_writes {type? : Document → Option SqlType} {f : Field}
    (reads : ∀ d', d'.height < d.height → d'.Writes f.2.toJson → type? d' = some f.2)
    (h : d.Writes (.object [("name", .string f.1), ("typ", f.2.toJson)])) :
    fieldOfDocument? type? d = some f := by
  obtain ⟨ds, read, written, below⟩ := h.fields? ["name", "typ"] rfl (by decide)
  obtain _ | ⟨⟨⟩, _ | ⟨type, ⟨⟩⟩⟩ := written
  rename_i d₂
  have htype : type? d₂ = some f.2 := reads d₂ (below d₂ (by simp)) type
  simp [fieldOfDocument?, read, Document.required?, Document.string?, htype]

theorem rowOfDocument?_of_writes {type? : Document → Option SqlType} {row : RowType}
    (reads : ∀ f ∈ row, ∀ d', d'.height < d.height → d'.Writes f.2.toJson → type? d' = some f.2)
    (h : d.Writes (RowType.toJson row)) : rowOfDocument? type? d = some row := by
  obtain ⟨ds, read, written, below⟩ := h.fields? ["fields"] rfl (by decide)
  rw [fieldsToJson_eq] at written
  obtain _ | ⟨fields, ⟨⟩⟩ := written
  cases fields with
  | array items =>
    rename_i ds
    -- every field is inside the document, and so is its type
    have hitems : ds.mapM (fieldOfDocument? type?) = some row := by
      apply items.mapM_eq
      intro f hf d' hd' written
      apply fieldOfDocument?_of_writes _ written
      intro d'' inside
      apply reads f hf
      exact (inside.trans (Document.height_lt_of_mem_array hd')).trans (below _ (by simp))
    simp [rowOfDocument?, read, Document.required?, Document.array?, hitems]

/-- A type is read back from any document with its stored form, within its layers. -/
theorem ofLayers?_of_writes {t : SqlType} (valid : t.WellFormed) {layers : Nat}
    (h : d.Writes t.toJson) (within : d.height ≤ layers) : ofLayers? layers d = some t := by
  -- by the shape of the type; a type inside is in a document of less height
  induction t using shapeRec generalizing d layers with
  | primitive p =>
    obtain ⟨body, choice, written, below⟩ := h.choice?
    have read := Primitive.ofDocument?_of_writes (wellFormed_primitive.mp valid) written
    cases layers with
    | zero => omega
    | succ layers => simp [ofLayers?, choice, read]
  | array element ih =>
    obtain ⟨body, choice, written, below⟩ := h.choice?
    obtain ⟨ds, read, written, below'⟩ := written.fields? ["element"] rfl (by decide)
    obtain _ | ⟨inside, ⟨⟩⟩ := written
    rename_i d'
    cases layers with
    | zero => omega
    | succ layers =>
      have less := below' d' (by simp)
      have helement : ofLayers? layers d' = some element := ih valid inside (by omega)
      simp [ofLayers?, choice, read, Document.required?, helement]
  | map key value ih =>
    obtain ⟨body, choice, written, below⟩ := h.choice?
    obtain ⟨ds, read, written, below'⟩ := written.fields? ["key", "value"] rfl (by decide)
    obtain _ | ⟨first, _ | ⟨second, ⟨⟩⟩⟩ := written
    rename_i d₁ d₂
    have valid := wellFormed_map.mp valid
    -- the key is a primitive type, which needs no layer
    have hkey := Primitive.ofDocument?_of_writes valid.1 first
    cases layers with
    | zero => omega
    | succ layers =>
      have less := below' d₂ (by simp)
      have hvalue : ofLayers? layers d₂ = some value := ih valid.2 second (by omega)
      simp [ofLayers?, choice, read, Document.required?, hkey, hvalue]
  | struct row ih =>
    obtain ⟨body, choice, written, below⟩ := h.choice?
    cases layers with
    | zero => omega
    | succ layers =>
      have hrow : rowOfDocument? (ofLayers? layers) body = some row := by
        apply rowOfDocument?_of_writes _ written
        intro f hf d' inside
        exact fun written => ih f hf (wellFormed_struct.mp valid f hf) written (by omega)
      simp [ofLayers?, choice, hrow]

theorem ofDocument?_of_writes {t : SqlType} (valid : t.WellFormed) (h : d.Writes t.toJson) :
    ofDocument? d = some t :=
  ofLayers?_of_writes valid h (Nat.le_refl _)

end SqlType

theorem RowType.ofDocument?_of_writes {row : RowType} (valid : (SqlType.struct row).WellFormed)
    (h : d.Writes (RowType.toJson row)) : RowType.ofDocument? d = some row := by
  apply SqlType.rowOfDocument?_of_writes _ h
  intro f hf d' inside written
  exact SqlType.ofLayers?_of_writes (SqlType.wellFormed_struct.mp valid f hf) written inside.le

/-! ## Sources -/

theorem Format.ofDocument?_of_writes {format : Format} (h : d.Writes (.string format.name)) :
    Format.ofDocument? d = some format := by
  rw [Format.ofDocument?, h.tag?]
  cases format <;> rfl

theorem SourceKind.ofDocument?_of_writes {kind : SourceKind} (h : d.Writes (.string kind.title)) :
    SourceKind.ofDocument? d = some kind := by
  rw [SourceKind.ofDocument?, h.tag?]
  cases kind <;> rfl

theorem TimestampPolicy.ofDocument?_of_writes {policy : TimestampPolicy}
    (h : d.Writes policy.toJson) : TimestampPolicy.ofDocument? d = some policy := by
  cases policy with
  | metadata =>
    cases h
    rfl
  | column name format =>
    obtain ⟨body, choice, written, -⟩ := h.choice?
    obtain ⟨ds, read, written, -⟩ := written.fields? ["column", "format"] rfl (by decide)
    obtain _ | ⟨⟨⟩, _ | ⟨second, ⟨⟩⟩⟩ := written
    simp [TimestampPolicy.ofDocument?, choice, read, Document.required?, Document.string?,
      optional_string?_of_writes second]

theorem Topic.ofDocument?_of_writes {t : Topic} (h : d.Writes t.toJson) :
    Topic.ofDocument? d = some t := by
  obtain ⟨ds, read, written, -⟩ :=
    h.fields? ["name", "kafka_topic_name", "format", "compacted"] rfl (by decide)
  obtain _ | ⟨⟨⟩, _ | ⟨⟨⟩, _ | ⟨format, _ | ⟨⟨⟩, ⟨⟩⟩⟩⟩⟩ := written
  simp [Topic.ofDocument?, read, Document.required?, Document.string?, Document.bool?,
    Format.ofDocument?_of_writes format]

theorem Source.ofDocument?_of_writes {s : Source} (valid : (SqlType.struct s.schema).WellFormed)
    (h : d.Writes s.toJson) : Source.ofDocument? d = some s := by
  obtain ⟨ds, read, written, -⟩ :=
    h.fields? ["name", "kind", "schema", "key_field", "timestamp_policy", "topic", "sql"] rfl
      (by decide)
  obtain _ | ⟨⟨⟩, _ | ⟨kind, _ | ⟨schema, _ | ⟨key, _ | ⟨policy, _ | ⟨topic, _ | ⟨⟨⟩, ⟨⟩⟩⟩⟩⟩⟩⟩⟩ :=
    written
  simp [Source.ofDocument?, read, Document.required?, Document.string?,
    SourceKind.ofDocument?_of_writes kind, RowType.ofDocument?_of_writes valid schema,
    optional_string?_of_writes key, TimestampPolicy.ofDocument?_of_writes policy,
    Topic.ofDocument?_of_writes topic]

/-- Nothing is lost by storing. Types, row types and sources are read back from their stored forms,
and from these with members in another order, if all types in them are well formed. So a type that
was read from some document is read again from the stored form of it, although the document itself
may be another one. -/
theorem stored_forms_read_back :
    (∀ v : Value, v.document.Writes v) ∧
    (∀ t : SqlType, t.WellFormed → ∀ d, d.Writes t.toJson → SqlType.ofDocument? d = some t) ∧
    (∀ row : RowType, (SqlType.struct row).WellFormed →
      ∀ d, d.Writes (RowType.toJson row) → RowType.ofDocument? d = some row) ∧
    (∀ s : Source, (SqlType.struct s.schema).WellFormed →
      ∀ d, d.Writes s.toJson → Source.ofDocument? d = some s) ∧
    ∀ d t, SqlType.ofDocument? d = some t →
      ∀ d', d'.Writes t.toJson → SqlType.ofDocument? d' = some t := by
  -- documents for values, then types, rows and sources, and types that were read
  refine ⟨Document.writes_document, ?_, ?_, ?_, ?_⟩
  · intro t valid d
    exact SqlType.ofDocument?_of_writes valid
  · intro row valid d
    exact RowType.ofDocument?_of_writes valid
  · intro s valid d
    exact Source.ofDocument?_of_writes valid
  · intro d t read d'
    exact SqlType.ofDocument?_of_writes (SqlType.wellFormed_of_ofDocument? read)

/-- A source with nested columns, and a type that is read from a document with a member that means
nothing and with parameters that are passed over. -/
theorem stored_forms_read_back_lines :
    let lines : SqlType := .array (.struct [("PRICE", .primitive (.decimal 10 2)),
      ("rates", .map .string (.primitive .double))])
    let source : Source := {
      name := "ORDERS", kind := .table, schema := [("ID", .primitive .bigint), ("LINES", lines)]
      keyField := some "ID", timestamp := .column "AT" none
      topic := { name := "orders", brokerName := "shop.orders", format := .avro, compacted := true }
      sql := "CREATE TABLE orders" }
    let document : Document := .object [("Array", .object [("element", .object [("Primitive",
      .object [("precision", .null), ("sql_type", .string "Integer"),
        ("parameters", .array [.number (.integer 5)])])])])]
    (SqlType.struct source.schema).WellFormed ∧
      Source.ofDocument? source.toJson.document = some source ∧
      SqlType.ofDocument? document = some (.array (.primitive .integer)) ∧
      SqlType.ofDocument? (SqlType.toJson (.array (.primitive .integer))).document =
        some (.array (.primitive .integer)) := by
  intro lines source document
  have valid : (SqlType.struct source.schema).WellFormed := by
    simp [source, lines, Primitive.WellFormed, ValidDecimalBounds, IsInt32, int32Least,
      int32Greatest]
  have read : SqlType.ofDocument? document = some (.array (.primitive .integer)) := by
    decide +kernel
  obtain ⟨writes, -, -, sources, again⟩ := stored_forms_read_back
  exact ⟨valid, sources source valid _ (writes _), read, again document _ read _ (writes _)⟩

end Sluice
