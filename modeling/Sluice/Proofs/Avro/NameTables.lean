import Sluice.Proofs.Avro.Derivation

/-!
# The tables of names

A conversion that succeeds leaves the names under way as they were. It adds definitions to the table
of those defined, of names that were not in either table, and binds each name to the schema that its
definition was converted to. Names that were defined keep their schemas. In the conversion of a
whole schema, names are defined once and used after their definitions have ended, so that no
definition refers to itself.

## Main definitions

* `Avro.Names.Extends`: what the conversion of a value leaves of the names met before it.
* `Avro.UsedInOrder`: the logs in which names are defined once, and used after that.

## Main statements

* `Avro.Names.tables_consistent`: conversions extend the names, and use them in order.
-/

namespace Sluice

open Json

namespace Avro

variable {v part : Value} {log before inside after : List NameEvent} {names names' : Names}
variable {full : String} {schema : Schema}

/-! ## Where names are defined -/

/-- In the derivation of a value, an object inside the value defines the full name, and has a
derivation to the schema. -/
def DefinedInside (v : Value) (log : List NameEvent) (full : String) (schema : Schema) : Prop :=
  ∃ members outer before inside after, v.Contains (.object members) ∧
    definedName? members outer = some full ∧ Converts (.object members) outer schema inside ∧
      log = before ++ inside ++ after

theorem DefinedInside.of_contains (contains : v.Contains part)
    (h : DefinedInside part log full schema) : DefinedInside v log full schema := by
  obtain ⟨members, outer, before, inside, after, rest, h⟩ := h
  exact ⟨members, outer, before, inside, after, contains.trans rest, h⟩

theorem DefinedInside.of_append (before after : List NameEvent)
    (h : DefinedInside v inside full schema) :
    DefinedInside v (before ++ inside ++ after) full schema := by
  obtain ⟨members, outer, before', inside', after', contains, named, converts, rfl⟩ := h
  refine ⟨members, outer, before ++ before', inside', after' ++ after, contains, named,
    converts, ?_⟩
  simp only [List.append_assoc]

mutual

/-- Every definition that ends in a derivation is that of an object inside the value. -/
theorem Converts.definedInside {v : Value} {outer : Option String} {s : Schema}
    {log : List NameEvent} :
    Converts v outer s log → .ends full schema ∈ log → DefinedInside v log full schema
  -- the induction is on the derivation; where it goes inside, so does the definition
  | .primitive _, mem => by contradiction
  | .use _ _ _, mem => by simp at mem
  | .union one converts, mem => by
    have variant := List.mem_of_mem_filter (one ▸ List.mem_singleton_self _)
    exact (converts.definedInside mem).of_contains (.single (.element variant))
  | .wrapped typed _ converts, mem =>
    (converts.definedInside mem).of_contains (.single (.of_lookup typed))
  | .bytes _, mem => by contradiction
  | .array _ items converts, mem =>
    (converts.definedInside mem).of_contains (.single (.of_lookup items))
  | .map _ values converts, mem =>
    (converts.definedInside mem).of_contains (.single (.of_lookup values))
  | .definition named describes, mem => by
    rcases List.mem_cons.mp mem with same | mem
    · contradiction
    rcases List.mem_append.mp mem with mem | mem
    · -- the definition is inside this one
      exact (describes.definedInside mem).of_append [_] _
    · -- the definition of the object itself
      obtain ⟨rfl, rfl⟩ := NameEvent.ends.inj (List.mem_singleton.mp mem)
      exact ⟨_, _, [], _, [], .refl, named, .definition named describes, by simp⟩

theorem Describes.definedInside {members : List (String × Value)} {name : String} {s : Schema}
    {log : List NameEvent} :
    Describes members name s log → .ends full schema ∈ log →
      DefinedInside (.object members) log full schema
  | .enum _, mem => by contradiction
  | .fixed _, mem => by contradiction
  | .record _ hasFields convert, mem => by
    obtain ⟨field, isField, inside⟩ := convert.definedInside mem
    have list := Relation.ReflTransGen.single (Value.HasPart.of_lookup hasFields)
    exact inside.of_contains (list.tail (.element isField))

theorem FieldsConvert.definedInside {fields : List Value} {inner : Option String}
    {schemas : List (String × Schema)} {log : List NameEvent} :
    FieldsConvert fields inner schemas log → .ends full schema ∈ log →
      ∃ field ∈ fields, DefinedInside field log full schema
  | .nil, mem => by contradiction
  | .cons _ typed first others, mem => by
    rcases List.mem_append.mp mem with mem | mem
    · -- a definition in the first field, whose events are the first ones of the log
      have inside := (first.definedInside mem).of_contains (.single (.of_lookup typed))
      exact ⟨_, List.mem_cons_self, inside.of_append [] _⟩
    · -- a definition in another field
      obtain ⟨field, isField, inside⟩ := others.definedInside mem
      refine ⟨field, List.mem_cons_of_mem _ isField, ?_⟩
      rw [← List.append_nil (_ ++ _)]
      exact inside.of_append _ []

end

/-! ## The tables -/

/-- On the names met by then, the conversion of an object inside the value that defines the full
name succeeds with the schema. -/
def Names.Binds (names : Names) (v : Value) (log : List NameEvent) (full : String)
    (schema : Schema) : Prop :=
  ∃ members outer before inside after names₁ names₂, v.Contains (.object members) ∧
    definedName? members outer = some full ∧ log = before ++ inside ++ after ∧
      names.Run before names₁ ∧ names₁.Run inside names₂ ∧
        convert (.object members) outer names₁ = .ok (schema, names₂)

/-- What the conversion of a value leaves of the names met before it. -/
structure Names.Extends (names : Names) (v : Value) (log : List NameEvent) (names' : Names) :
    Prop where
  /-- the names under way are the same -/
  underWay : names'.underWay = names.underWay
  kept : ∀ full schema,
    names.defined.lookup full = some schema → names'.defined.lookup full = some schema
  added : names'.defined = (definitions log).reverse ++ names.defined
  once : (definedNames log).Nodup
  new : ∀ full ∈ definedNames log,
    names.defined.lookup full = none ∧ full ∉ names.underWay
  /-- each name is bound to the schema that its definition was converted to -/
  bound : ∀ full schema, (full, schema) ∈ definitions log →
    names'.defined.lookup full = some schema ∧ names.Binds v log full schema
  disjoint : names'.Disjoint

/-- The events of a derivation extend the names. -/
theorem Converts.extend_names {outer : Option String} {s : Schema}
    (converts : Converts v outer s log) (run : names.Run log names') (apart : names.Disjoint) :
    names.Extends v log names' := by
  have done := run.completes converts.nested
  refine ⟨done.underWay, fun _ _ => done.lookup_of_lookup, done.defined, done.fresh.1, ?_, ?_,
    run.disjoint apart⟩
  · -- the names that are defined were new
    intro full mem
    have new := done.fresh.2 full mem
    rw [Names.knows_iff, not_or, Option.not_isSome_iff_eq_none] at new
    exact new
  · -- the names that are defined have their schemas
    intro full schema mem
    refine ⟨done.lookup_of_mem mem, ?_⟩
    -- the events of the definition run where they stand in the log
    obtain ⟨members, outer, before, inside, after, contains, named, definition, rfl⟩ :=
      converts.definedInside (mem_definitions_iff.mp mem)
    obtain ⟨names₂, run, _⟩ := Names.run_append_iff.mp run
    obtain ⟨names₁, earlier, run⟩ := Names.run_append_iff.mp run
    exact ⟨members, outer, before, inside, after, names₁, names₂, contains, named, rfl, earlier,
      run, definition.convert_eq run⟩

/-- Logs in which names are defined once, and used after that. -/
structure UsedInOrder (log : List NameEvent) : Prop where
  once : (definedNames log).Nodup
  ended : ∀ before wanted target schema after,
    log = before ++ .uses wanted target schema :: after → .ends target schema ∈ before
  notInside : ∀ full wanted target, UsedInside log full wanted target → wanted ≠ full
  acyclic : ∀ full, ¬Relation.TransGen (RefersTo log) full full

theorem toSchema_eq_ok_iff {s : Schema} :
    toSchema v = .ok s ↔ ∃ names', convert v none {} = .ok (s, names') := by
  constructor
  · intro h
    obtain ⟨⟨s, names'⟩, converted, rfl⟩ := map_eq_ok_iff.mp h
    exact ⟨names', converted⟩
  · rintro ⟨names', h⟩
    exact map_eq_ok_iff.mpr ⟨_, h, rfl⟩

/-- A conversion succeeds when a derivation runs, and then keeps the tables of names consistent. In
the conversion of a whole schema names are defined once, are used after their definitions, and never
inside them. -/
theorem Names.tables_consistent (v : Value) :
    (∀ outer names s names', names.Disjoint → (convert v outer names = .ok (s, names') ↔
      ∃ log, Converts v outer s log ∧ names.Run log names' ∧ names.Extends v log names')) ∧
    ∀ s, toSchema v = .ok s ↔
      ∃ log names', Converts v none s log ∧ Names.Run {} log names' ∧ UsedInOrder log := by
  constructor
  · intro outer names s names' apart
    rw [convert_eq_ok_iff]
    -- the tables are consistent after every run, so it is enough that a derivation runs
    apply exists_congr
    intro log
    apply and_congr_right
    exact fun converts => (and_iff_left_of_imp fun run => converts.extend_names run apart).symm
  · intro s
    rw [toSchema_eq_ok_iff]
    simp only [convert_eq_ok_iff]
    constructor
    · rintro ⟨names', log, converts, run⟩
      -- a schema begins without names, so all that is used was defined in it
      refine ⟨log, names', converts, run, (run.completes converts.nested).fresh.1, ?_, ?_, ?_⟩
      · exact fun _ _ _ _ _ split => run.ended_of_uses split
      · exact fun _ _ _ => run.ne_of_usedInside
      · exact run.not_transGen_refersTo
    · rintro ⟨log, names', converts, run, -⟩
      exact ⟨names', log, converts, run⟩

/-- A record whose second field uses by name the enumeration that the first one defines, beside a
name defined before and one under way. -/
theorem Names.tables_consistent_order :
    let order : Value := .object [("type", .string "record"), ("name", .string "Order"),
      ("namespace", .string "shop"), ("fields", .array [
        .object [("name", .string "state"),
          ("type", .object [("type", .string "enum"), ("name", .string "State")])],
        .object [("name", .string "last"), ("type", .array [.string "null", .string "State"])]])]
    let text := Schema.leaf .string
    let schema := (Schema.struct [("state", text), ("last", text.asOptional)]).withName "shop.Order"
    let names : Names := ⟨[("shop.Price", Schema.leaf .bytes)], ["shop.Cart"]⟩
    let names' : Names :=
      ⟨[("shop.Order", schema), ("shop.State", text), ("shop.Price", Schema.leaf .bytes)],
        ["shop.Cart"]⟩
    (names.Disjoint ∧ convert order none names = .ok (schema, names') ∧
      ∃ log, Converts order none schema log ∧ names.Run log names' ∧
        names.Extends order log names') ∧
    toSchema order = .ok schema ∧
      ∃ log names', Converts order none schema log ∧ Names.Run {} log names' ∧
        UsedInOrder log := by
  intro order text schema names names'
  -- the name that is under way is another one than the name that is defined
  have apart : names.Disjoint := by
    intro full mem
    rw [List.mem_singleton.mp mem]
    rfl
  have converted : convert order none names = .ok (schema, names') := rfl
  have accepted : toSchema order = .ok schema := rfl
  obtain ⟨consistent, ordered⟩ := tables_consistent order
  have extended := (consistent none names schema names' apart).mp converted
  exact ⟨⟨apart, converted, extended⟩, accepted, (ordered schema).mp accepted⟩

end Avro

end Sluice
