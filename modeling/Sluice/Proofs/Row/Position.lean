import Mathlib.Tactic.Common
import Sluice.Row.Basic
import Sluice.SqlType.Basic

/-!
# Positions in values

A position leads from a value to a value inside, one step for each layer: to an element of an array,
to the key or the value of an entry of a map, or to a field of a struct. The same steps lead from a
type to the types of these parts, so that a value and a type may be followed side by side. A decimal
is declared by the type where both paths arrive, at the decimal and at bounds for it.

## Main definitions

* `Datum.at?`, `SqlType.at?`: what stands at a position.
* `Datum.outline`: a value without its parts.
* `Datum.Declared`: the decimals of a value for which a type has bounds.
* `Datum.Due`: those of them that do not stand at keys of maps.

## Main statements

* `Datum.due_cons_iff`: such a decimal is one of a part, under the type of that part.
-/

namespace Sluice

namespace Datum

/-! ## Positions -/

/-- A step from a value to one of its parts. -/
inductive Step where
  /-- to the element of an array at an index -/
  | item (i : Nat)
  /-- to the key of an entry of a map -/
  | key (i : Nat)
  /-- to the value of an entry of a map -/
  | value (i : Nat)
  /-- to the field of a struct at an index -/
  | field (i : Nat)
deriving DecidableEq, Repr

/-- The index of a step. -/
def Step.index : Step → Nat
  | .item i | .key i | .value i | .field i => i

/-- The steps to a part of a part, from the outermost one. -/
abbrev Position := List Step

/-- The position comes first when values are visited with all that is in them, part after part. -/
def Position.Before (earlier later : Position) : Prop :=
  List.Lex (fun a b => a.index < b.index) earlier later

/-- No step of the position goes to the key of an entry. -/
def Position.AvoidsKeys (position : Position) : Prop :=
  ∀ i, Step.key i ∉ position

theorem Position.avoidsKeys_nil : AvoidsKeys [] :=
  fun _ => List.not_mem_nil

theorem Position.avoidsKeys_cons_iff {step : Step} {rest : Position} :
    AvoidsKeys (step :: rest) ↔ (∀ i, step ≠ .key i) ∧ AvoidsKeys rest := by
  simp only [AvoidsKeys, List.mem_cons, not_or, forall_and, ne_comm]

/-- The part of a value that a step goes to. -/
def part? : Datum → Step → Option Datum
  | .array items, .item i => items[i]?
  | .map entries, .key i => entries[i]?.map Prod.fst
  | .map entries, .value i => entries[i]?.map Prod.snd
  | .struct fields, .field i => fields[i]?
  | _, _ => none

/-- The value at a position. -/
def at? (d : Datum) : Position → Option Datum
  | [] => some d
  | step :: rest => (d.part? step).bind fun part => part.at? rest

/-- The value without its parts: a composite value only has as many of them. -/
def outline : Datum → Datum
  | .array items => .array (List.replicate items.length .null)
  | .map entries => .map (List.replicate entries.length (.null, .null))
  | .struct fields => .struct (List.replicate fields.length .null)
  | d => d

/-- What holds of a value when it holds of all its parts holds of every value. -/
@[elab_as_elim]
theorem partRec {motive : Datum → Prop}
    (whole : ∀ d : Datum, (∀ step d₁, d.part? step = some d₁ → motive d₁) → motive d)
    (d : Datum) : motive d := by
  -- the recursor goes through lists of datums and of pairs, for which the motive holds throughout
  refine Datum.rec (motive_2 := fun items => ∀ d ∈ items, motive d)
    (motive_3 := fun entries => ∀ entry ∈ entries, motive entry.1 ∧ motive entry.2)
    (motive_4 := fun entry => motive entry.1 ∧ motive entry.2)
    ?null ?boolean ?int32 ?int64 ?float64 ?string ?decimal ?array ?map ?struct
    (by simp) (fun _ _ first rest => List.forall_mem_cons.mpr ⟨first, rest⟩)
    (by simp) (fun _ _ first rest => List.forall_mem_cons.mpr ⟨first, rest⟩)
    (fun _ _ key value => ⟨key, value⟩) d
  case array =>
    intro items ih
    apply whole
    intro step d₁ part
    cases step with
    | item i => exact ih d₁ (List.mem_of_getElem? part)
    | _ => contradiction
  case map =>
    intro entries ih
    apply whole
    intro step d₁ part
    cases step with
    | key i =>
      obtain ⟨entry, found, rfl⟩ := Option.map_eq_some_iff.mp part
      exact (ih entry (List.mem_of_getElem? found)).1
    | value i =>
      obtain ⟨entry, found, rfl⟩ := Option.map_eq_some_iff.mp part
      exact (ih entry (List.mem_of_getElem? found)).2
    | _ => contradiction
  case struct =>
    intro fields ih
    apply whole
    intro step d₁ part
    cases step with
    | field i => exact ih d₁ (List.mem_of_getElem? part)
    | _ => contradiction
  -- the other values have no parts
  all_goals
    intros
    apply whole
    intro step d₁ part
    contradiction

end Datum

open Datum (Step Position)

/-- The type of the parts that a step goes to. -/
def SqlType.part? : SqlType → Step → Option SqlType
  | .array element, .item _ => some element
  | .map key _, .key _ => some (.primitive key)
  | .map _ value, .value _ => some value
  | .struct fields, .field i => fields[i]?.map Prod.snd
  | _, _ => none

/-- The type of the values at a position. -/
def SqlType.at? (t : SqlType) : Position → Option SqlType
  | [] => some t
  | step :: rest => (t.part? step).bind fun part => part.at? rest

namespace Datum

variable {d d₁ d₂ : Datum} {t t₁ t₂ : SqlType} {step : Step} {rest position : Position}
  {n : Numeric} {p s : Int}

/-! ## Declared decimals -/

/-- A decimal stands at the position, and the type has bounds for it there. -/
structure Declared (d : Datum) (t : SqlType) (position : Position) (n : Numeric) (p s : Int) :
    Prop where
  value : d.at? position = some (.decimal n)
  type : t.at? position = some (.primitive (.decimal p s))

/-- A declared decimal stands at a field, at an element or at the value of an entry. -/
structure Due (d : Datum) (t : SqlType) (position : Position) (n : Numeric) (p s : Int) :
    Prop where
  declared : d.Declared t position n p s
  avoidsKeys : position.AvoidsKeys

/-- A step other than to a key goes from a value and a type to a part and its type. -/
inductive Into : Datum → SqlType → Step → Datum → SqlType → Prop where
  | item {items : List Datum} {element : SqlType} {i : Nat} {d : Datum}
      (part : items[i]? = some d) :
      Into (.array items) (.array element) (.item i) d element
  | value {entries : List (Datum × Datum)} {key : Primitive} {value : SqlType} {i : Nat}
      {entry : Datum × Datum} (part : entries[i]? = some entry) :
      Into (.map entries) (.map key value) (.value i) entry.2 value
  | field {datums : List Datum} {fields : RowType} {i : Nat} {d : Datum} {field : Field}
      (part : datums[i]? = some d) (type : fields[i]? = some field) :
      Into (.struct datums) (.struct fields) (.field i) d field.2

/-- Value and type are followed side by side, and keys are left out. -/
theorem into_iff :
    Into d t step d₁ t₁ ↔
      d.part? step = some d₁ ∧ t.part? step = some t₁ ∧ ∀ i, step ≠ .key i := by
  constructor
  · -- each way to go in follows a step on both sides
    intro h
    cases h with
    | item part => exact ⟨part, rfl, fun _ => Step.noConfusion⟩
    | value part => exact ⟨congrArg (Option.map Prod.snd) part, rfl, fun _ => Step.noConfusion⟩
    | field part type =>
      exact ⟨part, congrArg (Option.map Prod.snd) type, fun _ => Step.noConfusion⟩
  · rintro ⟨part, type, notKey⟩
    -- the step decides which values and types have such parts at all
    cases step with
    | key i => exact absurd rfl (notKey i)
    | item i =>
      cases d with
      | array items =>
        cases t with
        | array element =>
          obtain rfl := Option.some.inj type
          exact .item part
        | _ => contradiction
      | _ => contradiction
    | value i =>
      cases d with
      | map entries =>
        cases t with
        | map key value =>
          obtain rfl := Option.some.inj type
          obtain ⟨entry, found, rfl⟩ := Option.map_eq_some_iff.mp part
          exact .value found
        | _ => contradiction
      | _ => contradiction
    | field i =>
      cases d with
      | struct datums =>
        cases t with
        | struct fields =>
          obtain ⟨field, found, rfl⟩ := Option.map_eq_some_iff.mp type
          exact .field part found
        | _ => contradiction
      | _ => contradiction

/-- A step goes to one part only. -/
theorem Into.unique (first : Into d t step d₁ t₁) (second : Into d t step d₂ t₂) :
    d₁ = d₂ ∧ t₁ = t₂ := by
  obtain ⟨part, type, -⟩ := into_iff.mp first
  obtain ⟨part', type', -⟩ := into_iff.mp second
  exact ⟨Option.some.inj (part.symm.trans part'), Option.some.inj (type.symm.trans type')⟩

theorem due_nil_iff :
    d.Due t [] n p s ↔ d = .decimal n ∧ t = .primitive (.decimal p s) := by
  constructor
  · rintro ⟨⟨value, type⟩, -⟩
    exact ⟨Option.some.inj value, Option.some.inj type⟩
  · rintro ⟨rfl, rfl⟩
    exact ⟨⟨rfl, rfl⟩, Position.avoidsKeys_nil⟩

/-- A decimal that is due inside a value is due in one of its parts. -/
theorem due_cons_iff :
    d.Due t (step :: rest) n p s ↔ ∃ d₁ t₁, Into d t step d₁ t₁ ∧ d₁.Due t₁ rest n p s := by
  constructor
  · rintro ⟨⟨value, type⟩, avoids⟩
    obtain ⟨notKey, avoidsRest⟩ := Position.avoidsKeys_cons_iff.mp avoids
    obtain ⟨d₁, part, value⟩ := Option.bind_eq_some_iff.mp value
    obtain ⟨t₁, part', type⟩ := Option.bind_eq_some_iff.mp type
    exact ⟨d₁, t₁, into_iff.mpr ⟨part, part', notKey⟩, ⟨value, type⟩, avoidsRest⟩
  · rintro ⟨d₁, t₁, into, ⟨value, type⟩, avoidsRest⟩
    obtain ⟨part, part', notKey⟩ := into_iff.mp into
    exact ⟨⟨Option.bind_eq_some_iff.mpr ⟨d₁, part, value⟩,
      Option.bind_eq_some_iff.mpr ⟨t₁, part', type⟩⟩,
      Position.avoidsKeys_cons_iff.mpr ⟨notKey, avoidsRest⟩⟩

end Datum

end Sluice
