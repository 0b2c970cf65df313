import Sluice.Proofs.Row.Traversal

/-!
# Decimals within bounds

A coerced value has no decimal out of bounds where coercion looks: at the value itself, at fields,
at elements and at the values of maps. It does not look at the keys of maps, although their type may
declare bounds as well. So a coerced value conforms to its type when the keys in the value before
did, and a key that is out of bounds is let through.

## Main definitions

* `Numeric.Within`: the numbers that need not be coerced.
* `Datum.Conforms`: the values whose declared decimals are all such numbers.

## Main statements

* `Datum.conforms_iff_keys`: what coercion establishes, and what is left to the keys.
* `Datum.key_out_of_bounds`: a key that does not conform, beside the same number as a value.
-/

namespace Sluice

/-- A finite number with at most `s` digits after the point and at most `p - s` before it. -/
def Numeric.Within (n : Numeric) (p s : Int) : Prop :=
  ∃ d : Decimal, n = .finite d ∧ d.scale ≤ s ∧ d.integerDigits ≤ p - s

/-- What is accepted is within bounds. -/
theorem Numeric.within_of_enforce {n m : Numeric} {p s : Int} (h : n.enforce p s = .ok m) :
    m.Within p s := by
  obtain ⟨-, d, rfl, fits, rfl⟩ := Decimal.enforce_eq_ok_iff.mp h
  exact ⟨d.roundTo s, rfl, Decimal.scale_roundTo_le, fits.2⟩

namespace Datum

variable {d d' : Datum} {t : SqlType} {position : Position} {n : Numeric} {p s : Int}

/-- Every decimal for which the type has bounds, keys of maps included, is within them. -/
def Conforms (d : Datum) (t : SqlType) : Prop :=
  ∀ position n p s, d.Declared t position n p s → n.Within p s

/-- A decimal is told by its outline. -/
theorem eq_decimal_of_outline {found found' : Option Datum}
    (same : found.map outline = found'.map outline) (h : found = some (.decimal n)) :
    found' = some (.decimal n) := by
  subst h
  obtain ⟨d', rfl, outlined⟩ := Option.map_eq_some_iff.mp same.symm
  cases d' with
  | array items | map entries | struct fields => cases outlined
  | _ => exact congrArg some outlined

/-- A declared decimal in a coerced value, not at a key, comes of one that was accepted. -/
theorem Coerced.exists_accepted (h : d.Coerced t d') (declared : d'.Declared t position n p s)
    (avoids : position.AvoidsKeys) : ∃ n₀, d.Due t position n₀ p s ∧ n₀.enforce p s = .ok n := by
  by_cases notDue : ∀ n₀ p₀ s₀, ¬ d.Due t position n₀ p₀ s₀
  · -- a decimal that was not due before is the same one now, and is due after all
    have before := eq_decimal_of_outline (h.kept position notDue) declared.value
    exact absurd ⟨⟨before, declared.type⟩, avoids⟩ (notDue n p s)
  · push Not at notDue
    obtain ⟨n₀, p₀, s₀, due⟩ := notDue
    obtain ⟨m, accepted, found⟩ := h.replaced position n₀ p₀ s₀ due
    -- value and type determine the decimal and its bounds
    cases declared.value.symm.trans found
    cases declared.type.symm.trans due.declared.type
    exact ⟨n₀, due, accepted⟩

/-- The decimals at keys are those that stood there before. -/
theorem Coerced.declared_iff (h : d.Coerced t d') (atKey : ¬ position.AvoidsKeys) :
    d'.Declared t position n p s ↔ d.Declared t position n p s := by
  have same := h.kept position fun _ _ _ due => atKey due.avoidsKeys
  constructor
  · rintro ⟨value, type⟩
    exact ⟨eq_decimal_of_outline same value, type⟩
  · rintro ⟨value, type⟩
    exact ⟨eq_decimal_of_outline same.symm value, type⟩

/-- After coercion every declared decimal is within its bounds, except at the keys of maps: these
are the decimals that stood there before. So the result conforms to the type when the keys did. -/
theorem conforms_iff_keys (h : d.enforce t = .ok d') :
    (∀ position n p s, d'.Declared t position n p s → position.AvoidsKeys → n.Within p s) ∧
    (∀ position n p s, ¬ position.AvoidsKeys →
      (d'.Declared t position n p s ↔ d.Declared t position n p s)) ∧
    (d'.Conforms t ↔
      ∀ position n p s, d.Declared t position n p s → ¬ position.AvoidsKeys → n.Within p s) := by
  have coerced := coerced_of_enforce h
  -- away from keys every declared decimal was accepted
  have within (position : Position) (n : Numeric) (p s : Int)
      (declared : d'.Declared t position n p s) (avoids : position.AvoidsKeys) : n.Within p s := by
    obtain ⟨n₀, -, accepted⟩ := coerced.exists_accepted declared avoids
    exact Numeric.within_of_enforce accepted
  refine ⟨within, fun position n p s atKey => coerced.declared_iff atKey, ?_, ?_⟩
  · -- at keys the result has what the datum had
    intro conforms position n p s declared atKey
    exact conforms position n p s ((coerced.declared_iff atKey).mpr declared)
  · intro keys position n p s declared
    by_cases avoids : position.AvoidsKeys
    · exact within position n p s declared avoids
    · exact keys position n p s ((coerced.declared_iff avoids).mp declared) avoids

/-- A number in a map inside a struct is rounded where it is a value. -/
theorem conforms_iff_keys_inside :
    let n : Numeric := .finite ⟨false, 1239, -3⟩
    let m : Numeric := .finite ⟨false, 124, -2⟩
    let d (value : Numeric) : Datum := .struct [.null, .map [(.decimal n, .decimal value)]]
    let bounds : Primitive := .decimal 4 2
    let t : SqlType :=
      .struct [("ID", .primitive .bigint), ("RATES", .map bounds (.primitive bounds))]
    (d n).enforce t = .ok (d m) ∧ m.Within 4 2 ∧
      (d m).Declared t [.field 1, .key 0] n 4 2 := by
  intro n m d bounds t
  have accepted : n.enforce 4 2 = .ok m := by decide +kernel
  have coerced : (d n).enforce t = .ok (d m) := by
    simp only [d, t, bounds, enforce, enforceFields, enforceEntries, accepted]
    rfl
  -- the value is no key, so it is within its bounds, and the key is as it was
  obtain ⟨within, keys, -⟩ := conforms_iff_keys coerced
  refine ⟨coerced, ?_, ?_⟩
  · exact within [.field 1, .value 0] m 4 2 ⟨rfl, rfl⟩ fun i => by simp
  · exact (keys [.field 1, .key 0] n 4 2 fun avoids => avoids 0 (by simp)).mpr ⟨rfl, rfl⟩

/-- A key that is out of bounds stays in a coerced value. -/
theorem key_out_of_bounds :
    let n : Numeric := .finite ⟨false, 1239, -3⟩
    let d : Datum := .map [(.decimal n, .decimal n)]
    let d' : Datum := .map [(.decimal n, .decimal (.finite ⟨false, 124, -2⟩))]
    let t : SqlType := .map (.decimal 4 2) (.primitive (.decimal 4 2))
    d.enforce t = .ok d' ∧ d'.Declared t [.key 0] n 4 2 ∧ ¬ n.Within 4 2 ∧ ¬ d'.Conforms t := by
  intro n d d' t
  have accepted : n.enforce 4 2 = .ok (.finite ⟨false, 124, -2⟩) := by decide +kernel
  have declared : d'.Declared t [.key 0] n 4 2 := ⟨rfl, rfl⟩
  have beyond : ¬ n.Within 4 2 := by
    rintro ⟨c, same, scale, -⟩
    obtain rfl := Numeric.finite.inj same
    exact absurd scale (by decide)
  refine ⟨?_, declared, beyond, fun conforms => beyond (conforms _ _ _ _ declared)⟩
  simp only [d, d', t, enforce, enforceEntries, accepted]
  rfl

end Datum

end Sluice
