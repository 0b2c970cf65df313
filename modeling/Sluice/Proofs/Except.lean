import Mathlib.Tactic.Common

/-!
# Results of steps that may fail

When a sequence of steps succeeds, each of its steps did, and when it fails, one of them did after
those before it succeeded. These equivalences take such a sequence apart from the outside in. Steps
that do not depend on one another may be given by the list of their results: together they have all
the values, or else the first error.

## Main definitions

* `inOrder`: the values of the results of a list, or the first error.
-/

namespace Sluice

variable {α β ε : Type}

/-- Two steps succeed when the first does and the second does on its value. -/
theorem bind_eq_ok_iff {x : Except ε α} {f : α → Except ε β} {b : β} :
    x >>= f = .ok b ↔ ∃ a, x = .ok a ∧ f a = .ok b := by
  cases x with
  | error e => simp [bind, Except.bind]
  | ok a => simp [bind, Except.bind]

/-- Two steps fail when the first does, or the second does on the value of the first. -/
theorem bind_eq_error_iff {x : Except ε α} {f : α → Except ε β} {e : ε} :
    x >>= f = .error e ↔ x = .error e ∨ ∃ a, x = .ok a ∧ f a = .error e := by
  cases x with
  | error e => simp [bind, Except.bind]
  | ok a => simp [bind, Except.bind]

/-- A step whose value is changed succeeds when the step does. -/
theorem map_eq_ok_iff {x : Except ε α} {f : α → β} {b : β} :
    x.map f = .ok b ↔ ∃ a, x = .ok a ∧ f a = b := by
  cases x with
  | error e => simp [Except.map]
  | ok a => simp [Except.map]

/-- A step whose value is changed fails when the step does. -/
theorem map_eq_error_iff {x : Except ε α} {f : α → β} {e : ε} :
    x.map f = .error e ↔ x = .error e := by
  cases x with
  | error e => simp [Except.map]
  | ok a => simp [Except.map]

/-- A step whose error is changed succeeds when the step does. -/
theorem mapError_eq_ok_iff {ε' : Type} {x : Except ε α} {f : ε → ε'} {a : α} :
    x.mapError f = .ok a ↔ x = .ok a := by
  cases x with
  | error e => simp [Except.mapError]
  | ok b => simp [Except.mapError]

/-- A step that is taken for its value alone has one when it succeeds. -/
theorem toOption_eq_some_iff {x : Except ε α} {a : α} : x.toOption = some a ↔ x = .ok a := by
  cases x with
  | error e => simp [Except.toOption]
  | ok b => simp [Except.toOption]

/-! ## Results in order -/

/-- The values of the results, if there is no error among them, or else the first error. -/
def inOrder : List (Except ε α) → Except ε (List α)
  | [] => .ok []
  | result :: rest => do
    let a ← result
    return a :: (← inOrder rest)

/-- There are values when each result is one. -/
theorem inOrder_eq_ok_iff {results : List (Except ε α)} {values : List α} :
    inOrder results = .ok values ↔ results = values.map .ok := by
  -- by the results, the first of which is looked at first
  induction results generalizing values with
  | nil => simp [inOrder, eq_comm]
  | cons result rest ih =>
    constructor
    · intro h
      obtain ⟨a, first, h⟩ := bind_eq_ok_iff.mp h
      obtain ⟨others, h, same⟩ := bind_eq_ok_iff.mp h
      rw [← Except.ok.inj same, first, ih.mp h, List.map_cons]
    · intro h
      obtain ⟨a, others, rfl, first, h⟩ := List.map_eq_cons_iff.mp h.symm
      exact bind_eq_ok_iff.mpr ⟨a, first.symm, bind_eq_ok_iff.mpr ⟨others, ih.mpr h.symm, rfl⟩⟩

/-- What is put together from the values has a value for each result. -/
theorem map_inOrder_eq_ok_iff {results : List (Except ε α)} {f : List α → β} {b : β} :
    (inOrder results).map f = .ok b ↔
      ∃ values : List α, (∀ i : Nat, results[i]? = values[i]?.map .ok) ∧ f values = b := by
  simp only [map_eq_ok_iff, inOrder_eq_ok_iff, List.ext_getElem?_iff, List.getElem?_map]

/-- There is an error when some result is that error, and none before it is one. -/
theorem inOrder_eq_error_iff {results : List (Except ε α)} {e : ε} :
    inOrder results = .error e ↔
      ∃ i : Nat, results[i]? = some (.error e) ∧
        ∀ j < i, ∀ e', results[j]? ≠ some (.error e') := by
  induction results with
  | nil => simp [inOrder]
  | cons result rest ih =>
    cases result with
    | error e' =>
      -- the first result is the first error
      constructor
      · intro h
        obtain rfl := Except.error.inj h
        exact ⟨0, rfl, fun _ before => absurd before (Nat.not_lt_zero _)⟩
      · rintro ⟨i, found, none⟩
        cases i with
        | zero => exact congrArg _ (Except.error.inj (Option.some.inj found))
        | succ i => exact absurd rfl (none 0 (Nat.succ_pos i) e')
    | ok a =>
      -- the error is one of the others, which stand one place later
      have others : inOrder (.ok a :: rest) = .error e ↔ inOrder rest = .error e := by
        rw [inOrder]
        cases inOrder rest <;> simp [bind, Except.bind, pure, Except.pure]
      rw [others, ih]
      constructor
      · rintro ⟨i, found, none⟩
        refine ⟨i + 1, found, fun j before => ?_⟩
        cases j with
        | zero => simp
        | succ j => exact none j (Nat.lt_of_succ_lt_succ before)
      · rintro ⟨i, found, none⟩
        cases i with
        | zero => cases Option.some.inj found
        | succ i => exact ⟨i, found, fun j before => none (j + 1) (Nat.succ_lt_succ before)⟩

/-! ## A result for each value -/

section

variable {values : List α} {values' : List β} {f : Nat → α → Except ε β} {i : Nat}
  (results : ∀ i : Nat, values[i]?.map (f i) = values'[i]?.map .ok)

include results

/-- There are as many results as there are values. -/
theorem length_eq_of_results : values'.length = values.length := by
  have same : values.mapIdx f = values'.map .ok := by
    apply List.ext_getElem?
    intro i
    rw [List.getElem?_mapIdx, List.getElem?_map, results]
  simpa using (congrArg List.length same).symm

theorem exists_of_results {a : α} (part : values[i]? = some a) :
    ∃ b, values'[i]? = some b ∧ f i a = .ok b := by
  have same := results i
  rw [part] at same
  obtain ⟨b, found, result⟩ := Option.map_eq_some_iff.mp same.symm
  exact ⟨b, found, result.symm⟩

theorem eq_none_of_results (none : values[i]? = none) : values'[i]? = Option.none := by
  have same := results i
  rw [none] at same
  exact Option.map_eq_none_iff.mp same.symm

/-- When a second step leaves what comes of a first one as it is, its results are those values. -/
theorem results_of_results {g : Nat → β → Except ε β}
    (again : ∀ i a b, values[i]? = some a → f i a = .ok b → g i b = .ok b) (i : Nat) :
    values'[i]?.map (g i) = values'[i]?.map .ok := by
  cases part : values[i]? with
  | none => rw [eq_none_of_results results part, Option.map_none, Option.map_none]
  | some a =>
    obtain ⟨b, found, result⟩ := exists_of_results results part
    rw [found, Option.map_some, Option.map_some, again i a b part result]

end

end Sluice
