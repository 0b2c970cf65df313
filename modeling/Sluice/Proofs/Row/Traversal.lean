import Sluice.Proofs.Row.Layer

/-!
# Coercion as a traversal

Coercion goes through a value and its type side by side and comes to every declared decimal that is
not a key. Each of these is brought into its bounds on its own. The first one that is refused, from
left to right and with the parts of a part before the next part, refuses the whole value. When none
is refused, the result is the value with these decimals replaced and with everything else as it was,
and to coerce the result again changes nothing.

## Main definitions

* `Datum.Refuses`, `Datum.FirstRefusal`: the positions of decimals that do not fit, and the first.
* `Datum.Coerced`: the value with each of its decimals replaced by what that is coerced to.

## Main statements

* `Datum.enforce_eq_error_iff`: coercion fails with the error of the first refusal.
* `Datum.coerced_of_enforce`: what coercion makes of a value.
* `Row.enforce_traverses`: both for rows, and that the result is stable.
-/

namespace Sluice

namespace Datum

variable {d d' d₁ d₂ : Datum} {t t₁ t₂ : SqlType} {step : Step} {rest position : Position}
  {e : DecimalError}

/-! ## Every layer -/

/-- `d'` is the value with each decimal that is due replaced by what it is coerced to. Whatever else
stands in the value stands there still. -/
structure Coerced (d : Datum) (t : SqlType) (d' : Datum) : Prop where
  replaced : ∀ position n p s, d.Due t position n p s →
    ∃ m, n.enforce p s = .ok m ∧ d'.at? position = some (.decimal m)
  kept : ∀ position, (∀ n p s, ¬ d.Due t position n p s) →
    (d'.at? position).map outline = (d.at? position).map outline

/-- Coercion replaces the decimals that are due, and only those. -/
theorem coerced_of_enforce (h : d.enforce t = .ok d') : d.Coerced t d' where
  replaced position n p s due := by
    -- by the position, one step of which goes into one part
    induction position generalizing d t d' with
    | nil =>
      obtain ⟨rfl, rfl⟩ := due_nil_iff.mp due
      obtain ⟨m, accepted, rfl⟩ := map_eq_ok_iff.mp h
      exact ⟨m, accepted, rfl⟩
    | cons step rest ih =>
      obtain ⟨d₁, t₁, into, due⟩ := due_cons_iff.mp due
      obtain ⟨d₁', coerced, part⟩ := exists_of_enforce_of_into h into
      obtain ⟨m, accepted, found⟩ := ih coerced due
      exact ⟨m, accepted, Option.bind_eq_some_iff.mpr ⟨d₁', part, found⟩⟩
  kept position notDue := by
    -- by the position; where coercion does not go, all that is beneath stays
    induction position generalizing d t d' with
    | nil => exact congrArg some (outline_of_enforce h notDue)
    | cons step rest ih =>
      rw [at?, at?]
      by_cases goes : ∃ d₁ t₁, Into d t step d₁ t₁
      · obtain ⟨d₁, t₁, into⟩ := goes
        obtain ⟨d₁', coerced, part'⟩ := exists_of_enforce_of_into h into
        obtain ⟨part, -, -⟩ := into_iff.mp into
        rw [part, part']
        apply ih coerced
        exact fun n p s due => notDue n p s (due_cons_iff.mpr ⟨d₁, t₁, into, due⟩)
      · -- the part is not gone into, so it is the same one
        rw [part?_of_enforce h fun d₁ t₁ into => goes ⟨d₁, t₁, into⟩]

/-! ## The first refusal -/

/-- A decimal that is due at the position is refused. -/
def Refuses (d : Datum) (t : SqlType) (position : Position) (e : DecimalError) : Prop :=
  ∃ n p s, d.Due t position n p s ∧ n.enforce p s = .error e

/-- The decimal that is refused at the position is the first one to be. -/
structure FirstRefusal (d : Datum) (t : SqlType) (position : Position) (e : DecimalError) :
    Prop where
  refuses : d.Refuses t position e
  first : ∀ earlier, earlier.Before position → ∀ e', ¬ d.Refuses t earlier e'

theorem refuses_cons_iff :
    d.Refuses t (step :: rest) e ↔ ∃ d₁ t₁, Into d t step d₁ t₁ ∧ d₁.Refuses t₁ rest e := by
  constructor
  · rintro ⟨n, p, s, due, refused⟩
    obtain ⟨d₁, t₁, into, due⟩ := due_cons_iff.mp due
    exact ⟨d₁, t₁, into, n, p, s, due, refused⟩
  · rintro ⟨d₁, t₁, into, n, p, s, due, refused⟩
    exact ⟨n, p, s, due_cons_iff.mpr ⟨d₁, t₁, into, due⟩, refused⟩

/-- A value that has parts to go into is not itself refused. -/
theorem Into.not_refuses_nil (into : Into d t step d₁ t₁) : ¬ d.Refuses t [] e := by
  rintro ⟨n, p, s, due, -⟩
  obtain ⟨rfl, -⟩ := due_nil_iff.mp due
  cases into

/-- Nothing is refused in a value that is coerced. -/
theorem not_refuses_of_enforce (h : d.enforce t = .ok d') : ¬ d.Refuses t position e := by
  rintro ⟨n, p, s, due, refused⟩
  obtain ⟨m, accepted, -⟩ := (coerced_of_enforce h).replaced position n p s due
  rw [accepted] at refused
  contradiction

/-- The first refusal inside a value is the first one in some part, and there is none in the parts
before that. -/
theorem firstRefusal_cons_iff :
    d.FirstRefusal t (step :: rest) e ↔ ∃ d₁ t₁, Into d t step d₁ t₁ ∧ d₁.FirstRefusal t₁ rest e ∧
      ∀ step' d₂ t₂, Into d t step' d₂ t₂ → step'.index < step.index →
        ∀ position e', ¬ d₂.Refuses t₂ position e' := by
  constructor
  · -- positions are ordered by their first steps, and by the others beneath the same first step
    rintro ⟨refuses, first⟩
    obtain ⟨d₁, t₁, into, refuses⟩ := refuses_cons_iff.mp refuses
    refine ⟨d₁, t₁, into, ⟨refuses, ?_⟩, ?_⟩
    · intro earlier before e' refuses'
      have whole := refuses_cons_iff.mpr ⟨d₁, t₁, into, refuses'⟩
      exact first (step :: earlier) (.cons before) e' whole
    · intro step' d₂ t₂ into' before position e' refuses'
      exact first (step' :: position) (.rel before) e'
        (refuses_cons_iff.mpr ⟨d₂, t₂, into', refuses'⟩)
  · rintro ⟨d₁, t₁, into, ⟨refuses, first⟩, before⟩
    refine ⟨refuses_cons_iff.mpr ⟨d₁, t₁, into, refuses⟩, ?_⟩
    intro earlier isBefore e' refuses'
    cases isBefore with
    | nil => exact into.not_refuses_nil refuses'
    | rel less =>
      obtain ⟨d₂, t₂, into', refuses'⟩ := refuses_cons_iff.mp refuses'
      exact before _ d₂ t₂ into' less _ e' refuses'
    | cons isBefore =>
      obtain ⟨d₂, t₂, into', refuses'⟩ := refuses_cons_iff.mp refuses'
      obtain ⟨rfl, rfl⟩ := into.unique into'
      exact first _ isBefore e' refuses'

/-- A composite value is refused by the first refusal in it, when its parts are. -/
theorem Layer.enforce_eq_error_iff {α : Type} {stepTo : Nat → Step}
    {results : List (Except DecimalError α)} {build : List α → Datum}
    (layer : Layer d t stepTo results build)
    (ih : ∀ step d₁ t₁, Into d t step d₁ t₁ →
      ∀ e, d₁.enforce t₁ = .error e ↔ ∃ position, d₁.FirstRefusal t₁ position e) :
    d.enforce t = .error e ↔ ∃ position, d.FirstRefusal t position e := by
  rw [layer.enforce_eq, map_eq_error_iff, inOrder_eq_error_iff]
  constructor
  · -- the first part that fails fails with its own first refusal
    rintro ⟨i, found, before⟩
    obtain ⟨d₁, t₁, into, refused⟩ := (layer.error_iff i e).mp found
    obtain ⟨position, first⟩ := (ih _ d₁ t₁ into e).mp refused
    refine ⟨stepTo i :: position, firstRefusal_cons_iff.mpr ⟨d₁, t₁, into, first, ?_⟩⟩
    intro step' d₂ t₂ into' less position' e' refuses
    obtain ⟨j, rfl⟩ := layer.exists_index _ _ _ into'
    rw [layer.index, layer.index] at less
    -- a part that stands before has no refusal, for otherwise it would fail
    cases coerced : d₂.enforce t₂ with
    | ok d₂' => exact not_refuses_of_enforce coerced refuses
    | error e'' => exact before j less e'' ((layer.error_iff j e'').mpr ⟨d₂, t₂, into', coerced⟩)
  · rintro ⟨position, first⟩
    cases position with
    | nil =>
      obtain ⟨n, p, s, due, -⟩ := first.refuses
      exact absurd due (layer.notDue n p s)
    | cons step rest =>
      obtain ⟨d₁, t₁, into, firstInside, before⟩ := firstRefusal_cons_iff.mp first
      obtain ⟨i, rfl⟩ := layer.exists_index _ _ _ into
      have refused : d₁.enforce t₁ = .error e := (ih _ d₁ t₁ into e).mpr ⟨rest, firstInside⟩
      refine ⟨i, (layer.error_iff i e).mpr ⟨d₁, t₁, into, refused⟩, ?_⟩
      -- no part before the one with the first refusal fails
      intro j less e' found
      obtain ⟨d₂, t₂, into', refused⟩ := (layer.error_iff j e').mp found
      obtain ⟨position', first'⟩ := (ih _ d₂ t₂ into' e').mp refused
      rw [← layer.index j, ← layer.index i] at less
      exact before (stepTo j) d₂ t₂ into' less position' e' first'.refuses

/-- Coercion fails with the error of the first refusal. -/
theorem enforce_eq_error_iff :
    d.enforce t = .error e ↔ ∃ position, d.FirstRefusal t position e := by
  -- by the parts of the datum, under any type
  induction d using partRec generalizing t e with
  | whole d ih =>
    have parts : ∀ step d₁ t₁, Into d t step d₁ t₁ →
        ∀ e, d₁.enforce t₁ = .error e ↔ ∃ position, d₁.FirstRefusal t₁ position e :=
      fun step d₁ t₁ into e => ih step d₁ (into_iff.mp into).1
    cases meets d t with
    | decimal n p s =>
      rw [enforce, map_eq_error_iff]
      -- a decimal is refused where it stands
      constructor
      · intro refused
        refine ⟨[], ⟨n, p, s, due_nil_iff.mpr ⟨rfl, rfl⟩, refused⟩, fun _ before => ?_⟩
        cases before
      · rintro ⟨position, ⟨n', p', s', due, refused⟩, -⟩
        cases position with
        | nil =>
          obtain ⟨⟨⟩, ⟨⟩⟩ := due_nil_iff.mp due
          exact refused
        | cons step rest =>
          obtain ⟨d₁, t₁, into, -⟩ := due_cons_iff.mp due
          cases into
    | array items element => exact (layer_array items element).enforce_eq_error_iff parts
    | map entries key value => exact (layer_map entries key value).enforce_eq_error_iff parts
    | struct datums fields => exact (layer_struct datums fields).enforce_eq_error_iff parts
    | apart kept notInto notDue =>
      -- nothing is coerced, so nothing is refused
      apply iff_of_false
      · intro failed
        cases kept.symm.trans failed
      · rintro ⟨position, ⟨n, p, s, due, -⟩, -⟩
        cases position with
        | nil => exact notDue n p s due
        | cons step rest =>
          obtain ⟨d₁, t₁, into, -⟩ := due_cons_iff.mp due
          exact notInto step d₁ t₁ into

/-- Coercion fails when some decimal is refused. -/
theorem exists_error_iff :
    (∃ e, d.enforce t = .error e) ↔ ∃ position e, d.Refuses t position e := by
  constructor
  · rintro ⟨e, failed⟩
    obtain ⟨position, first⟩ := enforce_eq_error_iff.mp failed
    exact ⟨position, e, first.refuses⟩
  · rintro ⟨position, e, refuses⟩
    cases coerced : d.enforce t with
    | ok d' => exact absurd refuses (not_refuses_of_enforce coerced)
    | error e' => exact ⟨e', rfl⟩

/-! ## Coercing again -/

/-- What coercion yields stays as it is. -/
theorem enforce_of_enforce (h : d.enforce t = .ok d') : d'.enforce t = .ok d' := by
  induction d using partRec generalizing t d' with
  | whole d ih =>
    cases meets d t with
    -- a decimal that was accepted is in the range of coercion, which keeps it
    | decimal n p s =>
      obtain ⟨m, accepted, rfl⟩ := map_eq_ok_iff.mp h
      exact map_eq_ok_iff.mpr ⟨m, Decimal.enforce_of_enforce accepted, rfl⟩
    | array items element =>
      obtain ⟨items', results, rfl⟩ := enforce_array_eq_ok_iff.mp h
      have again := results_of_results results fun i d₁ _ part => ih (.item i) d₁ part
      exact enforce_array_eq_ok_iff.mpr ⟨items', again, rfl⟩
    | map entries key value =>
      obtain ⟨entries', results, rfl⟩ := enforce_map_eq_ok_iff.mp h
      refine enforce_map_eq_ok_iff.mpr ⟨entries', results_of_results results ?_, rfl⟩
      -- the values are coerced again, and keys were never touched
      intro i entry entry' part keyed
      obtain ⟨d₁', coerced, rfl⟩ := map_eq_ok_iff.mp keyed
      have again := ih (.value i) entry.2 (congrArg (Option.map Prod.snd) part) coerced
      exact map_eq_ok_iff.mpr ⟨d₁', again, rfl⟩
    | struct datums fields =>
      obtain ⟨datums', results, rfl⟩ := enforce_struct_eq_ok_iff.mp h
      refine enforce_struct_eq_ok_iff.mpr ⟨datums', results_of_results results ?_, rfl⟩
      intro i d₁ d₁' part coerced
      unfold enforceField at coerced ⊢
      split at coerced
      · exact ih (.field i) d₁ part coerced
      · rfl
    | apart kept => rwa [← Except.ok.inj (kept.symm.trans h)]

end Datum

/-! ## Rows -/

/-- A row is coerced like a struct of its values. -/
theorem Row.enforce_struct (row : Row) (type : RowType) :
    (Datum.struct row).enforce (.struct type) = (row.enforce type).map .struct := by
  rw [Datum.enforce, Row.enforce]

/-- The coercion of a row fails when a decimal is refused that stands at a declared field, element
or value of an entry, and then with the error of the first of these. Otherwise it yields a row of
the same length, with each of these decimals replaced by its own coerced value and nothing else
changed, and that row is coerced to itself. -/
theorem Row.enforce_traverses (row : Row) (type : RowType) :
    ((∃ e, row.enforce type = .error e) ↔
      ∃ position e, (Datum.struct row).Refuses (.struct type) position e) ∧
    (∀ e, row.enforce type = .error e ↔
      ∃ position, (Datum.struct row).FirstRefusal (.struct type) position e) ∧
    ∀ row' : Row, row.enforce type = .ok row' →
      row'.length = row.length ∧
      (Datum.struct row).Coerced (.struct type) (.struct row') ∧
      row'.enforce type = .ok row' := by
  -- a row is coerced as the struct of its fields
  have failed (e : DecimalError) :
      (Datum.struct row).enforce (.struct type) = .error e ↔ row.enforce type = .error e := by
    rw [enforce_struct, map_eq_error_iff]
  have coerced (row row' : Row) :
      (Datum.struct row).enforce (.struct type) = .ok (.struct row') ↔
        row.enforce type = .ok row' := by
    simp [enforce_struct, map_eq_ok_iff]
  refine ⟨?_, ?_, ?_⟩
  · rw [← Datum.exists_error_iff]
    exact exists_congr fun e => (failed e).symm
  · intro e
    rw [← failed, Datum.enforce_eq_error_iff]
  · intro row' h
    have whole := (coerced row row').mpr h
    refine ⟨?_, Datum.coerced_of_enforce whole, ?_⟩
    · -- the outlines of the structs agree, since a struct is no decimal
      have outline := Datum.outline_of_enforce whole fun n p s due => by
        cases (Datum.due_nil_iff.mp due).1
      simpa [Datum.outline] using congrArg Datum.outline outline
    · exact (coerced row' row').mp (Datum.enforce_of_enforce whole)

/-- A row with a value under a type of another kind, a map with decimals for keys and a value beyond
the type. With less room for the price, it is refused there. -/
theorem Row.enforce_traverses_priced :
    let price : Numeric := .finite ⟨false, 10019, -3⟩
    let rate : Numeric := .finite ⟨true, 125, -2⟩
    let row : Row := [.int64 1, .decimal price,
      .map [(.decimal rate, .array [.null, .decimal rate])], .decimal rate]
    let row' : Row := [.int64 1, .decimal (.finite ⟨false, 1002, -2⟩),
      .map [(.decimal rate, .array [.null, .decimal (.finite ⟨true, 13, -1⟩)])], .decimal rate]
    let type (precision : Int) : RowType :=
      [("ID", .primitive (.decimal 4 0)), ("PRICE", .primitive (.decimal precision 2)),
        ("RATES", .map (.decimal 4 1) (.array (.primitive (.decimal 4 1))))]
    row.enforce (type 4) = .ok row' ∧
      row'.length = row.length ∧ (Datum.struct row).Coerced (.struct (type 4)) (.struct row') ∧
      row'.enforce (type 4) = .ok row' ∧
      ∃ position,
        (Datum.struct row).FirstRefusal (.struct (type 3)) position (.outOfRange price 3 2) := by
  intro price rate row row' type
  have priced : price.enforce 4 2 = .ok (.finite ⟨false, 1002, -2⟩) := by decide +kernel
  have rated : rate.enforce 4 1 = .ok (.finite ⟨true, 13, -1⟩) := by decide +kernel
  have refused : price.enforce 3 2 = .error (.outOfRange price 3 2) := by decide +kernel
  have coerced : row.enforce (type 4) = .ok row' := by
    simp only [row, type, enforce, Datum.enforceFields, Datum.enforceEntries, Datum.enforceItems,
      Datum.enforce, priced, rated]
    rfl
  have failed : row.enforce (type 3) = .error (.outOfRange price 3 2) := by
    simp only [row, type, enforce, Datum.enforceFields, Datum.enforce, refused]
    rfl
  obtain ⟨length, replaced, again⟩ := (enforce_traverses row (type 4)).2.2 row' coerced
  exact ⟨coerced, length, replaced, again, ((enforce_traverses row (type 3)).2.1 _).mp failed⟩

end Sluice
