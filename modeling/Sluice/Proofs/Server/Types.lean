import Sluice.Proofs.Schema.Tagged
import Sluice.Proofs.Server.Columns
import Sluice.Proofs.SqlType.Stored
import Sluice.Proofs.SqlType.TaggedReaders

/-!
# The types of a server

Types come into a server by many ways: a client names them or writes them out, stored sources and
schemas of topics are read, and types are put together from others. Each way is taken here with
types as they are held, a tag beside parameters that might not fit it. By none of them comes
anything but what is held of a well-formed type. So the parameters of every primitive type fit its
tag, the bounds of decimals are where they are looked for, and every type has a schema.

## Main definitions

* `TaggedPrimitive.Built`, `TaggedType.Built`: what comes by some way.
* `TaggedPrimitive.Sound`: what the program relies on of a primitive type.

## Main statements

* `TaggedType.Built.exists_wellFormed`: what comes is held of a well-formed type.
* `TaggedPrimitive.sound_of_admits`: what the program relies on follows from parameters that fit.
* `TaggedType.built_sound`: primitive types that come are as they are relied on, and types that come
  have schemas.
-/

namespace Sluice

open Json Number

/-! ## Ways to types -/

/-- The primitive types that are asked for by tag, name or bounds, with parameters of 32 bits, are
read from a document, or are made out of a schema. -/
inductive TaggedPrimitive.Built : TaggedPrimitive → Prop where
  | ofTag {tag : TypeTag} {p : TaggedPrimitive} (answer : ofTag tag = .ok p) : Built p
  | withParameters {tag : TypeTag} {parameters : List Int} {p : TaggedPrimitive}
      (fit : ∀ n ∈ parameters, IsInt32 n)
      (answer : TaggedPrimitive.withParameters tag parameters = .ok p) : Built p
  | ofName {name : String} {parameters : Option (List Int)} {p : TaggedPrimitive}
      (fit : ∀ n ∈ parameters.getD [], IsInt32 n)
      (answer : ofName name parameters = .ok p) : Built p
  | ofBounds {precision scale : Int} {p : TaggedPrimitive}
      (fit : IsInt32 precision ∧ IsInt32 scale)
      (answer : ofBounds precision scale = .ok p) : Built p
  | stored {d : Document} {p : TaggedPrimitive} (answer : ofDocument? d = some p) : Built p
  | translated {s : Schema} {p : TaggedPrimitive} (answer : s.toTaggedPrimitive = .ok p) : Built p

/-- The types that are put together from others, or are read: from text, from documents, from
schemas and from Avro schemas in text. -/
inductive TaggedType.Built : TaggedType → Prop where
  -- from other types
  | primitive {p : TaggedPrimitive} (built : p.Built) : Built (.primitive p)
  | array {element : TaggedType} (built : Built element) : Built (.array element)
  | map {key : TaggedPrimitive} {value : TaggedType} (keyBuilt : key.Built)
      (built : Built value) : Built (.map key value)
  | struct {fields : TaggedRow} (built : ∀ f ∈ fields, Built f.2) : Built (.struct fields)
  -- from text
  | read {text : String} {t : TaggedType} (answer : TaggedType.read text = .ok t) : Built t
  -- from documents
  | stored {d : Document} {t : TaggedType} (answer : ofDocument? d = some t) : Built t
  | storedRow {d : Document} {row : TaggedRow} (answer : TaggedRow.ofDocument? d = some row) :
      Built (.struct row)
  -- from schemas
  | translated {s : Schema} {t : TaggedType} (answer : s.toTaggedType = .ok t) : Built t
  | translatedRow {s : Schema} {row : TaggedRow} (answer : s.toTaggedRow = .ok row) :
      Built (.struct row)
  | registered {text : String} {row : TaggedRow} (answer : Avro.readTaggedRow text = .ok row) :
      Built (.struct row)

/-- The columns of a stored source come as a stored row does. -/
theorem TaggedType.built_of_source {d : Document} {s : Source}
    (h : Source.ofDocument? d = some s) : Built (.struct (SqlType.fieldsTagged s.schema)) := by
  obtain ⟨d', hrow⟩ := Source.exists_of_ofDocument? h
  refine .storedRow (d := d') ?_
  rw [TaggedRow.ofDocument?_eq, hrow, Option.map_some]

/-! ## What comes by them -/

/-- The primitive types that come are held of well-formed ones. -/
theorem TaggedPrimitive.Built.exists_wellFormed {p : TaggedPrimitive} (built : p.Built) :
    ∃ q : Primitive, q.WellFormed ∧ q.tagged = p := by
  -- each way agrees with the one that is taken from the sum of types, which yields well-formed ones
  cases built with
  | ofTag answer =>
    rw [ofTag_eq] at answer
    obtain ⟨q, plain, rfl⟩ := map_eq_ok_iff.mp answer
    exact ⟨q, Primitive.wellFormed_of_ofTag plain, rfl⟩
  | withParameters fit answer =>
    rw [withParameters_eq] at answer
    obtain ⟨q, plain, rfl⟩ := map_eq_ok_iff.mp answer
    exact ⟨q, Primitive.wellFormed_of_withParameters fit plain, rfl⟩
  | ofName fit answer =>
    rw [ofName_eq] at answer
    obtain ⟨q, plain, rfl⟩ := map_eq_ok_iff.mp answer
    exact ⟨q, Primitive.wellFormed_of_ofName fit plain, rfl⟩
  | ofBounds fit answer =>
    rw [ofBounds_eq] at answer
    obtain ⟨q, plain, rfl⟩ := map_eq_ok_iff.mp answer
    exact ⟨q, Primitive.wellFormed_of_ofBounds fit plain, rfl⟩
  | stored answer =>
    rw [ofDocument?_eq] at answer
    obtain ⟨q, plain, rfl⟩ := Option.map_eq_some_iff.mp answer
    exact ⟨q, Primitive.wellFormed_of_ofDocument? plain, rfl⟩
  | translated answer =>
    rw [Schema.toTaggedPrimitive_eq] at answer
    obtain ⟨q, plain, rfl⟩ := map_eq_ok_iff.mp answer
    exact ⟨q, (Schema.wellFormed_of_toPrimitive plain).1, rfl⟩

namespace TaggedType

/-- Fields whose types are held of well-formed ones are held of a row of them. -/
theorem exists_fieldsTagged {fields : TaggedRow}
    (types : ∀ f ∈ fields, ∃ s : SqlType, s.WellFormed ∧ s.tagged = f.2) :
    ∃ row : RowType, (SqlType.struct row).WellFormed ∧ SqlType.fieldsTagged row = fields := by
  induction fields with
  | nil => exact ⟨[], SqlType.wellFormed_struct.mpr (by simp), rfl⟩
  | cons f rest ih =>
    obtain ⟨⟨s, valid, type⟩, others⟩ := List.forall_mem_cons.mp types
    obtain ⟨row, validRow, held⟩ := ih others
    rw [SqlType.wellFormed_struct] at validRow
    refine ⟨(f.1, s) :: row, ?_, ?_⟩
    · exact SqlType.wellFormed_struct.mpr (List.forall_mem_cons.mpr ⟨valid, validRow⟩)
    · rw [SqlType.fieldsTagged, type, held]

/-- The types that come are held of well-formed ones. -/
theorem Built.exists_wellFormed {t : TaggedType} (built : t.Built) :
    ∃ s : SqlType, s.WellFormed ∧ s.tagged = t := by
  -- the parts of a type that is put together are such by induction, and what is read as it is held
  -- is held of what is read, for which every reader answers
  induction built with
  | primitive built =>
    obtain ⟨p, valid, rfl⟩ := built.exists_wellFormed
    exact ⟨.primitive p, SqlType.wellFormed_primitive.mpr valid, rfl⟩
  | array _ ih =>
    obtain ⟨element, valid, rfl⟩ := ih
    exact ⟨.array element, SqlType.wellFormed_array.mpr valid, rfl⟩
  | map keyBuilt _ ih =>
    obtain ⟨key, validKey, rfl⟩ := keyBuilt.exists_wellFormed
    obtain ⟨value, valid, rfl⟩ := ih
    exact ⟨.map key value, SqlType.wellFormed_map.mpr ⟨validKey, valid⟩, rfl⟩
  | struct _ ih =>
    obtain ⟨row, valid, rfl⟩ := exists_fieldsTagged ih
    exact ⟨.struct row, valid, rfl⟩
  | read answer =>
    rw [read_eq, mapError_eq_ok_iff] at answer
    obtain ⟨s, plain, rfl⟩ := map_eq_ok_iff.mp answer
    exact ⟨s, SqlType.wellFormed_of_read plain, rfl⟩
  | stored answer =>
    rw [ofDocument?_eq] at answer
    obtain ⟨s, plain, rfl⟩ := Option.map_eq_some_iff.mp answer
    exact ⟨s, SqlType.wellFormed_of_ofDocument? plain, rfl⟩
  | storedRow answer =>
    rw [TaggedRow.ofDocument?_eq] at answer
    obtain ⟨row, plain, rfl⟩ := Option.map_eq_some_iff.mp answer
    exact ⟨.struct row, RowType.wellFormed_of_ofDocument? plain, rfl⟩
  | translated answer =>
    rw [Schema.toTaggedType_eq] at answer
    obtain ⟨s, plain, rfl⟩ := map_eq_ok_iff.mp answer
    exact ⟨s, (Schema.normal_of_toSqlType _ plain).wellFormed, rfl⟩
  | translatedRow answer =>
    rw [Schema.toTaggedRow_eq] at answer
    obtain ⟨row, plain, rfl⟩ := map_eq_ok_iff.mp answer
    have type := Schema.toSqlType_of_toRowType plain
    exact ⟨.struct row, (Schema.normal_of_toSqlType _ type).wellFormed, rfl⟩
  | registered answer =>
    rw [Avro.readTaggedRow_eq] at answer
    obtain ⟨row, plain, rfl⟩ := map_eq_ok_iff.mp answer
    exact ⟨.struct row, Avro.wellFormed_of_readRowType plain, rfl⟩

end TaggedType

/-! ## What is relied on -/

/-- What the program relies on of a primitive type: that its parameters fit its tag, so that they
are found where they are looked up, the type is printed, and it has a schema. -/
structure TaggedPrimitive.Sound (p : TaggedPrimitive) : Prop where
  admitted : p.tag.Admits p.parameters
  precision : p.precision = .ok (p.parameters.bind (·[0]?))
  scale : p.scale = .ok (p.parameters.bind (·[1]?))
  printed : ∃ text, p.print = .ok text
  schema : ∃ schema, p.toSchema = .ok schema

/-- A primitive type may be relied on if its parameters fit its tag. -/
theorem TaggedPrimitive.sound_of_admits {p : TaggedPrimitive} (h : p.tag.Admits p.parameters) :
    p.Sound := by
  obtain ⟨type, rfl, bounds⟩ := admits_iff_exists.mp h
  refine ⟨h, ?_, ?_, ⟨type.name, type.print_tagged⟩, ?_⟩
  · cases type <;> rfl
  · cases type <;> rfl
  · rw [type.toSchema_tagged]
    cases type with
    | decimal precision scale =>
      rw [Primitive.toSchema, decimal_eq_decimalSchema (bounds precision scale rfl)]
      exact ⟨_, rfl⟩
    | _ => exact ⟨_, rfl⟩

namespace TaggedType

/-- A tag is answered by a primitive type exactly if it is that of one and, for decimals, comes with
two bounds that describe a type; it has these parameters then, and none otherwise. Every primitive
type that comes by some way may be relied on, and so may all primitive types in a type that comes,
those of leaves and those of the keys of maps. So the type has a schema, as have the records of a
row. -/
theorem built_sound :
    (∀ tag parameters p, TaggedPrimitive.withParameters tag parameters = .ok p ↔
      p.tag = tag ∧ p.parameters = (if tag = .decimal then some parameters else none) ∧
        tag.Admits p.parameters) ∧
    (∀ p : TaggedPrimitive, p.Built → p.Sound) ∧
    ∀ t : TaggedType, t.Built →
      (∀ p ∈ t.primitives, p.Sound) ∧
      (∃ schema, t.toSchema = .ok schema) ∧
      ∀ row, t = .struct row → ∃ schema, TaggedRow.toSchema row = .ok schema := by
  refine ⟨fun tag parameters p => TaggedPrimitive.withParameters_eq_ok_iff, ?_, ?_⟩
  · -- what is held of a well-formed type has the parameters that its tag admits
    intro p built
    obtain ⟨q, valid, rfl⟩ := built.exists_wellFormed
    exact TaggedPrimitive.sound_of_admits valid.admits
  · intro t built
    obtain ⟨s, valid, rfl⟩ := built.exists_wellFormed
    refine ⟨?_, ?_, ?_⟩
    · intro p present
      rw [SqlType.primitives_tagged] at present
      obtain ⟨q, leaf, rfl⟩ := List.mem_map.mp present
      exact TaggedPrimitive.sound_of_admits (valid q leaf).admits
    · rw [s.toSchema_tagged, SqlType.toSchema_eq valid]
      exact ⟨s.schema, rfl⟩
    · -- a row is a struct, and its records are those of the struct
      intro row struct
      cases s with
      | struct fields =>
        obtain rfl := TaggedType.struct.inj struct
        rw [RowType.toSchema_tagged, RowType.toSchema_eq valid]
        exact ⟨RowType.schema fields, rfl⟩
      | primitive | array | map => cases struct

/-- A struct that is put together from a type in text, with parameters that are passed over, and a
stored one, with a member that means nothing. -/
theorem built_sound_struct :
    let text := "map< Dec (4, 2) ,struct<\x60a b\x60 int(7)>>"
    let rates : TaggedType :=
      .map ⟨.decimal, some [4, 2]⟩ (.struct [("a b", .primitive ⟨.integer, none⟩)])
    let price : TaggedPrimitive := ⟨.decimal, some [6, 2]⟩
    let document : Document := .object [("Primitive", .object [
      ("sql_type", .string "Decimal"), ("scale", .string "two"),
      ("parameters", .array [.number (.integer 6), .number (.integer 2)])])]
    let t : TaggedType := .struct [("RATES", rates), ("PRICE", .primitive price)]
    read text = .ok rates ∧ ofDocument? document = some (.primitive price) ∧ t.Built ∧
      (∀ p ∈ t.primitives, p.Sound) ∧ price.precision = .ok (some 6) ∧
      ∃ schema, t.toSchema = .ok schema := by
  intro text rates price document t
  -- the text is read in the plain form, and held as it is read
  have hread : read text = .ok rates := by
    have plain : (SqlType.read text).toOption =
        some (.map (.decimal 4 2) (.struct [("a b", .primitive .integer)])) := by decide +kernel
    rw [read_eq, toOption_eq_some_iff.mp plain]
    rfl
  have hstored : ofDocument? document = some (.primitive price) := by
    have plain : SqlType.ofDocument? document = some (.primitive (.decimal 6 2)) := by
      decide +kernel
    rw [ofDocument?_eq, plain]
    rfl
  have built : t.Built := by
    apply Built.struct
    intro f hf
    rcases List.mem_pair.mp hf with rfl | rfl
    · exact .read hread
    · exact .stored hstored
  obtain ⟨-, -, types⟩ := built_sound
  obtain ⟨parts, translated, -⟩ := types t built
  -- the second field is the decimal that was stored
  have last : price ∈ t.primitives := by simp [t, rates, primitives, primitivesOfFields]
  exact ⟨hread, hstored, built, parts, (parts price last).precision, translated⟩

end TaggedType

end Sluice
