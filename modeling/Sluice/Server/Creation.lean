import Sluice.Server.Error

/-!
# Creating and dropping sources

Creating a source looks at the catalog up to twice: for `IF NOT EXISTS`, and to register the
source. These are the atomic steps of a `Creation`, and the steps of several clients may
interleave: a source that was not there at the first step may be there at the second. Dropping a
source is one step.

## Main definitions

* `Creation`, `Catalog.createStep`: how far the creation of a source has come, and its next step.
* `Catalog.create`, `Catalog.drop`: the two operations without interruption.
* `Catalog.createStep_createStep`: creating a source is carrying out the steps one after the other.
-/

namespace Sluice

/-- How far the creation of a source has come. -/
inductive Creation where
  | begun
  /-- the source has been made out but not registered -/
  | described (s : Source)
  /-- the answer is the source registered, or nothing if it existed already -/
  | finished (answer : Except ServerError (Option Source))

/-- Whether a declaration asks for nothing, since its source exists. -/
def Catalog.satisfies (catalog : Catalog) (c : CreateSource) : Bool :=
  c.ifNotExists && (catalog.source? c.name).isSome

/-- Carries out the next step of a creation. -/
def Catalog.createStep (catalog : Catalog) (c : CreateSource) (registry : Option String) :
    Creation → Catalog × Creation
  | .begun =>
    if catalog.satisfies c then (catalog, .finished (.ok none))
    else
      match c.toSource registry with
      | .ok s => (catalog, .described s)
      | .error e => (catalog, .finished (.error (.declaration e)))
  | .described s =>
    -- the name may have been taken since the look at the catalog
    match catalog.registerSource s with
    | .ok catalog => (catalog, .finished (.ok (some s)))
    | .error e =>
      if c.ifNotExists then (catalog, .finished (.ok none))
      else (catalog, .finished (.error (.catalog e)))
  | .finished answer => (catalog, .finished answer)

/-- Creates a source: the one registered, or nothing if it existed and need not be created. -/
def Catalog.create (catalog : Catalog) (c : CreateSource) (registry : Option String) :
    Except ServerError (Option Source) × Catalog :=
  if catalog.satisfies c then (.ok none, catalog)
  else
    match c.toSource registry with
    | .error e => (.error (.declaration e), catalog)
    | .ok s =>
      match catalog.registerSource s with
      | .ok catalog => (.ok (some s), catalog)
      | .error e =>
        if c.ifNotExists then (.ok none, catalog) else (.error (.catalog e), catalog)

/-- Creating a source is carrying out its two steps, one after the other. -/
theorem Catalog.createStep_createStep (catalog : Catalog) (c : CreateSource)
    (registry : Option String) :
    (catalog.createStep c registry .begun).1.createStep c registry
        (catalog.createStep c registry .begun).2 =
      ((catalog.create c registry).2, .finished (catalog.create c registry).1) := by
  unfold createStep create
  by_cases h : catalog.satisfies c
  · simp [h]
  · -- the two ways part where the declaration is wrong, and where the name is taken
    cases hs : c.toSource registry with
    | error e => simp [h]
    | ok s =>
      cases hr : catalog.registerSource s with
      | ok after => simp [h, hr]
      | error e => by_cases hi : c.ifNotExists <;> simp [h, hr, hi]

/-- Drops a source. -/
def Catalog.drop (catalog : Catalog) (name : String) (ifExists : Bool) :
    Except ServerError Unit × Catalog :=
  match catalog.removeSource name with
  | (some _, catalog) => (.ok (), catalog)
  | (none, catalog) =>
    (if ifExists then .ok () else .error (.resolution (.unknownSource name)), catalog)

end Sluice
