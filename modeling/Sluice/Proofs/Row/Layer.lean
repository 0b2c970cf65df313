import Sluice.Proofs.Decimal.Coercion
import Sluice.Proofs.Row.Position
import Sluice.Row.Coercion

/-!
# Coercion, one layer at a time

The coercion of a composite value is that of its parts, in order, and it is put together again from
the results. For an array these are the elements, for a map the values, and for a struct the fields
that its type has, while the keys of a map and further fields of a struct stay as they are. Where
the kinds of value and type differ there is nothing to do.

## Main definitions

* `Datum.Meets`: how a value and a type meet.
* `Datum.Layer`: what the coercion of a composite value is made of.

## Main statements

* `Datum.exists_of_enforce_of_into`: the parts with a type of their own are coerced.
* `Datum.part?_of_enforce`, `Datum.outline_of_enforce`: nothing else changes.
-/

namespace Sluice.Datum

variable {d d' d₁ d₂ : Datum} {t t₁ t₂ : SqlType} {step : Step}

/-! ## Lists of parts -/

/-- The elements of an array are coerced in order. -/
theorem enforceItems_eq (items : List Datum) (element : SqlType) :
    enforceItems items element = inOrder (items.map fun d => d.enforce element) := by
  induction items with
  | nil => rfl
  | cons d rest ih => rw [enforceItems, ih, List.map_cons, inOrder]

/-- The values of a map are coerced in order, and each keeps its key. -/
theorem enforceEntries_eq (entries : List (Datum × Datum)) (value : SqlType) :
    enforceEntries entries value =
      inOrder (entries.map fun entry => (entry.2.enforce value).map (Prod.mk entry.1)) := by
  induction entries with
  | nil => rfl
  | cons entry rest ih =>
    rw [enforceEntries, ih, List.map_cons, inOrder]
    cases entry.2.enforce value <;> rfl

/-- A field of a struct is coerced when the type has a field at its index. -/
def enforceField (fields : RowType) (i : Nat) (d : Datum) : Except DecimalError Datum :=
  match fields[i]? with
  | some field => d.enforce field.2
  | none => .ok d

/-- The fields of a struct are coerced in order. -/
theorem enforceFields_eq (datums : List Datum) (fields : RowType) :
    enforceFields datums fields = inOrder (datums.mapIdx (enforceField fields)) := by
  -- by the datums, with the fields beside them
  induction datums generalizing fields with
  | nil => rfl
  | cons d rest ih =>
    cases fields with
    | nil =>
      -- fields beyond the type stay as they are
      have kept : (d :: rest).mapIdx (enforceField []) = (d :: rest).map .ok := by
        apply List.ext_getElem?
        intro i
        rw [List.getElem?_mapIdx, List.getElem?_map]
        rfl
      exact (inOrder_eq_ok_iff.mpr kept).symm
    | cons field fields => rw [enforceFields, ih, List.mapIdx_cons, inOrder]; rfl

/-! ## One layer -/

theorem enforce_array (items : List Datum) (element : SqlType) :
    (array items).enforce (.array element) =
      (inOrder (items.map fun d => d.enforce element)).map array := by
  rw [enforce, enforceItems_eq]

theorem enforce_map (entries : List (Datum × Datum)) (key : Primitive) (value : SqlType) :
    (map entries).enforce (.map key value) =
      (inOrder (entries.map fun entry => (entry.2.enforce value).map (Prod.mk entry.1))).map
        map := by
  rw [enforce, enforceEntries_eq]

theorem enforce_struct (datums : List Datum) (fields : RowType) :
    (struct datums).enforce (.struct fields) =
      (inOrder (datums.mapIdx (enforceField fields))).map struct := by
  rw [enforce, enforceFields_eq]

theorem enforce_array_eq_ok_iff {items : List Datum} {element : SqlType} :
    (array items).enforce (.array element) = .ok d' ↔ ∃ items' : List Datum,
      (∀ i : Nat, items[i]?.map (fun d => d.enforce element) = items'[i]?.map .ok) ∧
        array items' = d' := by
  simp only [enforce_array, map_inOrder_eq_ok_iff, List.getElem?_map]

theorem enforce_map_eq_ok_iff {entries : List (Datum × Datum)} {key : Primitive}
    {value : SqlType} :
    (map entries).enforce (.map key value) = .ok d' ↔ ∃ entries' : List (Datum × Datum),
      (∀ i : Nat, entries[i]?.map (fun entry => (entry.2.enforce value).map (Prod.mk entry.1)) =
        entries'[i]?.map .ok) ∧ map entries' = d' := by
  simp only [enforce_map, map_inOrder_eq_ok_iff, List.getElem?_map]

theorem enforce_struct_eq_ok_iff {datums : List Datum} {fields : RowType} :
    (struct datums).enforce (.struct fields) = .ok d' ↔ ∃ datums' : List Datum,
      (∀ i : Nat, datums[i]?.map (enforceField fields i) = datums'[i]?.map .ok) ∧
        struct datums' = d' := by
  simp only [enforce_struct, map_inOrder_eq_ok_iff, List.getElem?_mapIdx]

/-- How a value and a type meet: at bounds for a decimal, as composites of one kind, or in no way
that makes a difference. -/
inductive Meets : Datum → SqlType → Prop where
  | decimal (n : Numeric) (p s : Int) : Meets (.decimal n) (.primitive (.decimal p s))
  | array (items : List Datum) (element : SqlType) : Meets (.array items) (.array element)
  | map (entries : List (Datum × Datum)) (key : Primitive) (value : SqlType) :
      Meets (.map entries) (.map key value)
  | struct (datums : List Datum) (fields : RowType) : Meets (.struct datums) (.struct fields)
  | apart {d : Datum} {t : SqlType} (kept : d.enforce t = .ok d)
      (notInto : ∀ step d₁ t₁, ¬ Into d t step d₁ t₁) (notDue : ∀ n p s, ¬ d.Due t [] n p s) :
      Meets d t

theorem meets (d : Datum) (t : SqlType) : Meets d t := by
  -- the cases in which something is coerced, and all others
  fun_cases enforce d t with
  | case1 n p s => exact .decimal n p s
  | case2 items element => exact .array items element
  | case3 entries key value => exact .map entries key value
  | case4 datums fields => exact .struct datums fields
  | case5 d t notDecimal notArray notMap notStruct =>
    refine .apart ?_ ?_ ?_
    · rw [enforce] <;> assumption
    · intro step d₁ t₁ into
      cases into with
      | item part => exact notArray _ _ rfl rfl
      | value part => exact notMap _ _ _ rfl rfl
      | field part type => exact notStruct _ _ rfl rfl
    · intro n p s due
      obtain ⟨rfl, rfl⟩ := due_nil_iff.mp due
      exact notDecimal _ _ _ rfl rfl

/-- The parts that are gone into are coerced, each to the part of the result. -/
theorem exists_of_enforce_of_into (h : d.enforce t = .ok d') (into : Into d t step d₁ t₁) :
    ∃ d₁', d₁.enforce t₁ = .ok d₁' ∧ d'.part? step = some d₁' := by
  -- a part of the result comes from the part in the same place
  cases into with
  | @item items _ i _ part =>
    obtain ⟨items', results, rfl⟩ := enforce_array_eq_ok_iff.mp h
    obtain ⟨d₁', found, coerced⟩ := exists_of_results results part
    exact ⟨d₁', coerced, found⟩
  | @value entries key _ i entry part =>
    obtain ⟨entries', results, rfl⟩ := enforce_map_eq_ok_iff.mp h
    obtain ⟨entry', found, keyed⟩ := exists_of_results results part
    obtain ⟨d₁', coerced, rfl⟩ := map_eq_ok_iff.mp keyed
    exact ⟨d₁', coerced, congrArg (Option.map Prod.snd) found⟩
  | @field datums fields i _ field part type =>
    obtain ⟨datums', results, rfl⟩ := enforce_struct_eq_ok_iff.mp h
    obtain ⟨d₁', found, coerced⟩ := exists_of_results results part
    rw [enforceField, type] at coerced
    exact ⟨d₁', coerced, found⟩

/-- All elements of an array are gone into. -/
theorem part?_of_enforce_array {items : List Datum} {element : SqlType}
    (h : (array items).enforce (.array element) = .ok d')
    (notInto : ∀ d₁ t₁, ¬ Into (.array items) (.array element) step d₁ t₁) :
    d'.part? step = (array items).part? step := by
  obtain ⟨items', results, rfl⟩ := enforce_array_eq_ok_iff.mp h
  cases step with
  | item i =>
    have none : items[i]? = none := by
      apply Option.eq_none_iff_forall_ne_some.mpr
      exact fun d₁ part => notInto d₁ element (.item part)
    exact (eq_none_of_results results none).trans none.symm
  | _ => rfl

/-- The values of a map are gone into, and the keys stay as they are. -/
theorem part?_of_enforce_map {entries : List (Datum × Datum)} {key : Primitive} {value : SqlType}
    (h : (map entries).enforce (.map key value) = .ok d')
    (notInto : ∀ d₁ t₁, ¬ Into (.map entries) (.map key value) step d₁ t₁) :
    d'.part? step = (map entries).part? step := by
  obtain ⟨entries', results, rfl⟩ := enforce_map_eq_ok_iff.mp h
  cases step with
  | key i =>
    change entries'[i]?.map Prod.fst = entries[i]?.map Prod.fst
    cases part : entries[i]? with
    | none => rw [eq_none_of_results results part]
    | some entry =>
      obtain ⟨entry', found, keyed⟩ := exists_of_results results part
      obtain ⟨d₁', -, rfl⟩ := map_eq_ok_iff.mp keyed
      rw [found]
      rfl
  -- a value that is there would be gone into
  | value i =>
    have missing : entries[i]? = Option.none := by
      apply Option.eq_none_iff_forall_ne_some.mpr
      exact fun entry part => notInto entry.2 value (.value part)
    change entries'[i]?.map Prod.snd = entries[i]?.map Prod.snd
    rw [missing, eq_none_of_results results missing]
  | _ => rfl

/-- The fields of a struct are gone into but for those beyond the type, which stay as they are. -/
theorem part?_of_enforce_struct {datums : List Datum} {fields : RowType}
    (h : (struct datums).enforce (.struct fields) = .ok d')
    (notInto : ∀ d₁ t₁, ¬ Into (.struct datums) (.struct fields) step d₁ t₁) :
    d'.part? step = (struct datums).part? step := by
  obtain ⟨datums', results, rfl⟩ := enforce_struct_eq_ok_iff.mp h
  cases step with
  -- only a field without a type is not gone into
  | field i =>
    change datums'[i]? = datums[i]?
    cases part : datums[i]? with
    | none => exact eq_none_of_results results part
    | some d₁ =>
      have beyond : fields[i]? = none := by
        apply Option.eq_none_iff_forall_ne_some.mpr
        exact fun field type => notInto d₁ field.2 (.field part type)
      obtain ⟨d₁', found, kept⟩ := exists_of_results results part
      rw [enforceField, beyond] at kept
      rw [found, Except.ok.inj kept]
  | _ => rfl

/-- Parts that are not gone into stay as they are. -/
theorem part?_of_enforce (h : d.enforce t = .ok d') (notInto : ∀ d₁ t₁, ¬ Into d t step d₁ t₁) :
    d'.part? step = d.part? step := by
  cases meets d t with
  | decimal n p s =>
    -- a decimal has no parts, before and after
    obtain ⟨m, -, rfl⟩ := map_eq_ok_iff.mp h
    rfl
  | array items element => exact part?_of_enforce_array h notInto
  | map entries key value => exact part?_of_enforce_map h notInto
  | struct datums fields => exact part?_of_enforce_struct h notInto
  | apart kept => rw [Except.ok.inj (kept.symm.trans h)]

/-- A value that is not itself a decimal to be coerced keeps its outline. -/
theorem outline_of_enforce (h : d.enforce t = .ok d') (notDue : ∀ n p s, ¬ d.Due t [] n p s) :
    d'.outline = d.outline := by
  -- composite values are rebuilt with as many parts
  cases meets d t with
  | decimal n p s => exact absurd (due_nil_iff.mpr ⟨rfl, rfl⟩) (notDue n p s)
  | array items element =>
    obtain ⟨items', results, rfl⟩ := enforce_array_eq_ok_iff.mp h
    rw [outline, outline, length_eq_of_results results]
  | map entries key value =>
    obtain ⟨entries', results, rfl⟩ := enforce_map_eq_ok_iff.mp h
    rw [outline, outline, length_eq_of_results results]
  | struct datums fields =>
    obtain ⟨datums', results, rfl⟩ := enforce_struct_eq_ok_iff.mp h
    rw [outline, outline, length_eq_of_results results]
  | apart kept => rw [Except.ok.inj (kept.symm.trans h)]

/-! ## What may fail -/

/-- The parts of a composite value are coerced in order, and the value is built from the results. -/
structure Layer {α : Type} (d : Datum) (t : SqlType) (stepTo : Nat → Step)
    (results : List (Except DecimalError α)) (build : List α → Datum) : Prop where
  enforce_eq : d.enforce t = (inOrder results).map build
  notDue : ∀ n p s, ¬ d.Due t [] n p s
  index : ∀ i, (stepTo i).index = i
  exists_index : ∀ step d₁ t₁, Into d t step d₁ t₁ → ∃ i, step = stepTo i
  error_iff : ∀ i e, results[i]? = some (.error e) ↔
    ∃ d₁ t₁, Into d t (stepTo i) d₁ t₁ ∧ d₁.enforce t₁ = .error e

theorem layer_array (items : List Datum) (element : SqlType) :
    Layer (.array items) (.array element) .item (items.map fun d => d.enforce element) array where
  enforce_eq := enforce_array items element
  notDue n p s due := by cases (due_nil_iff.mp due).1
  index _ := rfl
  exists_index step d₁ t₁ into := by
    cases into
    exact ⟨_, rfl⟩
  error_iff i e := by
    rw [List.getElem?_map, Option.map_eq_some_iff]
    -- an item is refused where coercing it is
    constructor
    · rintro ⟨d₁, part, refused⟩
      exact ⟨d₁, element, .item part, refused⟩
    · rintro ⟨d₁, t₁, into, refused⟩
      cases into with
      | item part => exact ⟨d₁, part, refused⟩

theorem layer_map (entries : List (Datum × Datum)) (key : Primitive) (value : SqlType) :
    Layer (.map entries) (.map key value) .value
      (entries.map fun entry => (entry.2.enforce value).map (Prod.mk entry.1)) map where
  enforce_eq := enforce_map entries key value
  notDue n p s due := by cases (due_nil_iff.mp due).1
  index _ := rfl
  exists_index step d₁ t₁ into := by
    cases into
    exact ⟨_, rfl⟩
  error_iff i e := by
    rw [List.getElem?_map, Option.map_eq_some_iff]
    -- a pair is refused where its value is, as keys are not coerced
    constructor
    · rintro ⟨entry, part, refused⟩
      exact ⟨entry.2, value, .value part, map_eq_error_iff.mp refused⟩
    · rintro ⟨d₁, t₁, into, refused⟩
      cases into with
      | value part => exact ⟨_, part, map_eq_error_iff.mpr refused⟩

theorem layer_struct (datums : List Datum) (fields : RowType) :
    Layer (.struct datums) (.struct fields) .field (datums.mapIdx (enforceField fields))
      struct where
  enforce_eq := enforce_struct datums fields
  notDue n p s due := by cases (due_nil_iff.mp due).1
  index _ := rfl
  exists_index step d₁ t₁ into := by
    cases into
    exact ⟨_, rfl⟩
  error_iff i e := by
    rw [List.getElem?_mapIdx, Option.map_eq_some_iff]
    constructor
    · rintro ⟨d₁, part, refused⟩
      -- fields beyond the type are not refused
      unfold enforceField at refused
      split at refused
      · exact ⟨d₁, _, .field part ‹_›, refused⟩
      · contradiction
    · rintro ⟨d₁, t₁, into, refused⟩
      cases into with
      | field part type => exact ⟨d₁, part, by rwa [enforceField, type]⟩

end Sluice.Datum
