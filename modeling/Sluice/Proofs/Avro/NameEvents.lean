import Mathlib.Logic.Relation
import Sluice.Proofs.Avro.Conversion

/-!
# Names in the course of a conversion

All that a conversion does with names is to begin definitions, to end them and to use names. A log
lists these events in their order, and each event is a step from the names met before it to those
met after it. What one step keeps, a whole run keeps. A run whose definitions end in the reverse of
the order in which they begin leaves the names under way as they were, and adds definitions of new
names only.

## Main definitions

* `NameEvent`: the events of a log.
* `definitions`, `definedNames`: the definitions that end in a log, and their names.
* `Names.Step`, `Names.Run`: what an event, and a log, make of the names met so far.
* `Nested`: the logs whose definitions end one inside the other.
* `Names.Disjoint`: no name is both defined and under way.
* `UsedInside`, `RefersTo`: the uses of names inside a definition.

## Main statements

* `Avro.Names.Run.disjoint`: a run keeps the names apart that are defined and that are under way.
* `Avro.Names.Run.completes`: what a run of nested definitions leaves behind.
* `Avro.Names.Run.not_transGen_refersTo`: no definition refers to itself, even through others.
-/

namespace Sluice

namespace Avro

/-! ## Events -/

/-- An event of a conversion that has to do with names. -/
inductive NameEvent where
  /-- the definition of a full name begins -/
  | begins (full : String)
  /-- the definition of a full name ends, and binds the name to a schema -/
  | ends (full : String) (schema : Schema)
  /-- a name whose full name is `wanted` is used, and stands for the schema of `target` -/
  | uses (wanted target : String) (schema : Schema)

/-- The definition that an event ends. -/
def NameEvent.definition? : NameEvent → Option (String × Schema)
  | .ends full schema => some (full, schema)
  | _ => none

/-- The definitions that end in a log, in their order. -/
def definitions (log : List NameEvent) : List (String × Schema) :=
  log.filterMap NameEvent.definition?

/-- The names whose definitions end in a log, in their order. -/
def definedNames (log : List NameEvent) : List String :=
  (definitions log).map Prod.fst

variable {log log' before inside after : List NameEvent} {event : NameEvent}
variable {full wanted target : String} {schema : Schema} {names names' : Names}

theorem definitions_append : definitions (log ++ log') = definitions log ++ definitions log' :=
  List.filterMap_append

theorem mem_definitions_iff : (full, schema) ∈ definitions log ↔ .ends full schema ∈ log := by
  rw [definitions, List.mem_filterMap]
  constructor
  · rintro ⟨event, mem, found⟩
    cases event with
    | ends => cases found; exact mem
    | begins | uses => contradiction
  · intro mem
    exact ⟨_, mem, rfl⟩

theorem definedNames_append :
    definedNames (log ++ log') = definedNames log ++ definedNames log' := by
  rw [definedNames, definitions_append, List.map_append]
  rfl

theorem mem_definedNames_iff : full ∈ definedNames log ↔ ∃ schema, .ends full schema ∈ log := by
  simp [definedNames, mem_definitions_iff]

/-- Logs in which every definition that begins ends as well, after those that begin inside it. -/
inductive Nested : List NameEvent → Prop where
  | nil : Nested []
  | uses {wanted target : String} {schema : Schema} {log : List NameEvent} (rest : Nested log) :
      Nested (.uses wanted target schema :: log)
  | defines {full : String} {schema : Schema} {inside log : List NameEvent}
      (within : Nested inside) (rest : Nested log) :
      Nested (.begins full :: (inside ++ .ends full schema :: log))

theorem Nested.append (first : Nested log) (second : Nested log') : Nested (log ++ log') := by
  induction first with
  | nil => exact second
  | uses _ ih => exact .uses ih
  | defines within _ _ ih =>
    rw [List.cons_append, List.append_assoc]
    exact .defines within ih

/-! ## Steps and runs -/

/-- What an event makes of the names met so far. -/
inductive Names.Step : Names → NameEvent → Names → Prop where
  /-- the name is new -/
  | begins {names : Names} {full : String} (new : ¬names.knows full) :
      Step names (.begins full) { names with underWay := full :: names.underWay }
  | ends {names : Names} {full : String} {schema : Schema} :
      Step names (.ends full schema)
        ⟨(full, schema) :: names.defined, names.underWay.filter (· != full)⟩
  /-- the name is not one under way, and another name stands in only where it is not defined -/
  | uses {names : Names} {wanted target : String} {schema : Schema}
      (notUnderWay : wanted ∉ names.underWay)
      (found : names.defined.lookup target = some schema)
      (preferred : target = wanted ∨ names.defined.lookup wanted = none) :
      Step names (.uses wanted target schema) names

/-- What the events of a log make of the names met before them. -/
inductive Names.Run : Names → List NameEvent → Names → Prop where
  | nil {names : Names} : Run names [] names
  | cons {names names₁ names' : Names} {event : NameEvent} {log : List NameEvent}
      (first : Step names event names₁) (rest : Run names₁ log names') :
      Run names (event :: log) names'

theorem Names.run_nil_iff : Run names [] names' ↔ names' = names := by
  constructor
  · intro run
    cases run
    rfl
  · rintro rfl
    exact .nil

theorem Names.run_cons_iff :
    Run names (event :: log) names' ↔
      ∃ names₁, Step names event names₁ ∧ Run names₁ log names' := by
  constructor
  · intro run
    cases run with
    | cons first rest => exact ⟨_, first, rest⟩
  · rintro ⟨_, first, rest⟩
    exact .cons first rest

/-- Logs run one after the other. -/
theorem Names.run_append_iff :
    Run names (log ++ log') names' ↔ ∃ names₁, Run names log names₁ ∧ Run names₁ log' names' := by
  induction log generalizing names with
  | nil => simp [run_nil_iff]
  | cons event log ih =>
    simp only [List.cons_append, run_cons_iff, ih]
    constructor
    · rintro ⟨names₁, first, names₂, rest, run⟩
      exact ⟨names₂, ⟨names₁, first, rest⟩, run⟩
    · rintro ⟨names₂, ⟨names₁, first, rest⟩, run⟩
      exact ⟨names₁, first, names₂, rest, run⟩

/-! ## What every run keeps -/

/-- No name is defined while its definition is under way. -/
def Names.Disjoint (names : Names) : Prop :=
  ∀ full ∈ names.underWay, names.defined.lookup full = none

theorem Names.knows_iff :
    names.knows full ↔ (names.defined.lookup full).isSome = true ∨ full ∈ names.underWay := by
  rw [knows, Bool.or_eq_true, List.contains_iff_mem]

theorem Names.Step.disjoint (step : Step names event names') (apart : names.Disjoint) :
    names'.Disjoint := by
  cases step with
  | begins new =>
    -- the name that comes under way is not defined
    refine List.forall_mem_cons.mpr ⟨?_, apart⟩
    rw [← Option.not_isSome_iff_eq_none]
    exact fun isDefined => new (knows_iff.mpr (.inl isDefined))
  | @ends full =>
    -- the name that is defined leaves those under way
    intro other mem
    obtain ⟨mem, differs⟩ := List.mem_filter.mp mem
    have differs : (other == full) = false := by simpa using differs
    rw [List.lookup_cons, differs]
    exact apart other mem
  -- a use changes nothing
  | uses => exact apart

theorem Names.Run.disjoint (run : Run names log names') (apart : names.Disjoint) :
    names'.Disjoint := by
  induction run with
  | nil => exact apart
  | cons first _ ih => exact ih (first.disjoint apart)

/-- A run adds the definitions that end in it, the last one in front. -/
theorem Names.Run.defined_eq (run : Run names log names') :
    names'.defined = (definitions log).reverse ++ names.defined := by
  induction run with
  | nil => rfl
  | cons first _ ih =>
    rw [ih]
    cases first with
    | begins | uses => rfl
    | ends => simp [definitions, NameEvent.definition?]

theorem Names.Run.knows_of_mem (run : Run names log names') (mem : full ∈ definedNames log) :
    names'.knows full := by
  obtain ⟨schema, ended⟩ := mem_definedNames_iff.mp mem
  apply knows_iff.mpr
  left
  rw [List.lookup_isSome_iff, run.defined_eq]
  refine ⟨(full, schema), List.mem_append_left _ ?_, beq_self_eq_true full⟩
  exact List.mem_reverse.mpr (mem_definitions_iff.mpr ended)

/-- A name under way stays so until its definition ends. -/
theorem Names.Run.mem_underWay (run : Run names log names') (mem : full ∈ names.underWay)
    (unended : ∀ schema, .ends full schema ∉ log) : full ∈ names'.underWay := by
  -- by the run; only the end of its own definition takes a name away
  induction run with
  | nil => exact mem
  | cons first _ ih =>
    refine ih ?_ fun schema ended => unended schema (List.mem_cons_of_mem _ ended)
    cases first with
    | begins => exact List.mem_cons_of_mem _ mem
    | uses => exact mem
    | @ends other schema =>
      refine List.mem_filter.mpr ⟨mem, ?_⟩
      have differs : full ≠ other := by
        rintro rfl
        exact unended schema List.mem_cons_self
      simpa using differs

/-! ## Nested definitions -/

/-- What a finished part of a conversion leaves: the names under way are as before, and the
definitions that ended are added to those from before. They are of names that were not known. -/
structure Names.Completes (names : Names) (log : List NameEvent) (names' : Names) : Prop where
  underWay : names'.underWay = names.underWay
  defined : names'.defined = (definitions log).reverse ++ names.defined
  fresh : Fresh names (definedNames log)

theorem Names.Completes.knows_iff (done : Completes names log names') :
    names'.knows full ↔ names.knows full ∨ full ∈ definedNames log := by
  have added : ((definitions log).reverse.lookup full).isSome = true ↔ full ∈ definedNames log := by
    simp [List.lookup_isSome_iff, definedNames]
  rw [Names.knows_iff, Names.knows_iff, done.underWay, done.defined, List.lookup_append,
    Option.isSome_or, Bool.or_eq_true, added]
  tauto

/-- Names that were defined before keep their schemas. -/
theorem Names.Completes.lookup_of_lookup (done : Completes names log names')
    (found : names.defined.lookup full = some schema) :
    names'.defined.lookup full = some schema := by
  have notNew : (definitions log).reverse.lookup full = none := by
    rw [← Option.not_isSome_iff_eq_none]
    intro isNew
    obtain ⟨⟨other, _⟩, mem, same⟩ := List.lookup_isSome_iff.mp isNew
    obtain rfl := beq_iff_eq.mp same
    apply done.fresh.2 full (List.mem_map_of_mem (List.mem_reverse.mp mem))
    exact Names.knows_iff.mpr (.inl (by simp [found]))
  rw [done.defined, List.lookup_append, notNew, Option.none_or, found]

/-- Names that are new have the schemas of their definitions. -/
theorem Names.Completes.lookup_of_mem (done : Completes names log names')
    (mem : (full, schema) ∈ definitions log) : names'.defined.lookup full = some schema := by
  -- the definitions stand in the table with the latest first
  have nodup : ((definitions log).reverse.map Prod.fst).Nodup := by
    rw [List.map_reverse]
    exact List.nodup_reverse.mpr done.fresh.1
  obtain ⟨later, earlier, split⟩ := List.append_of_mem (List.mem_reverse.mpr mem)
  rw [done.defined, split, List.append_assoc, List.cons_append]
  refine List.lookup_eq_some_iff.mpr ⟨later, _, rfl, fun d isLater => ?_⟩
  -- no later definition is of the same name
  rw [split, List.map_append] at nodup
  have differs := (List.nodup_append.mp nodup).2.2 d.1 (List.mem_map_of_mem isLater) full
    List.mem_cons_self
  exact bne_iff_ne.mpr differs.symm

/-- A definition completes: its name and those of the definitions inside it are new. -/
theorem Names.Completes.define {names₁ : Names} (new : ¬names.knows full)
    (within : Completes { names with underWay := full :: names.underWay } inside names₁) :
    Completes names (.begins full :: (inside ++ [.ends full schema]))
      ⟨(full, schema) :: names₁.defined, names₁.underWay.filter (· != full)⟩ where
  underWay := by
    -- the name that ends was not under way before
    have notUnderWay : full ∉ names.underWay := fun mem => new (Names.knows_iff.mpr (.inr mem))
    change names₁.underWay.filter _ = _
    rw [within.underWay, List.filter_cons_of_neg (by simp), List.filter_eq_self]
    intro other mem
    simpa using ne_of_mem_of_not_mem mem notUnderWay
  defined := by
    have added : definitions (.begins full :: (inside ++ [.ends full schema])) =
        definitions inside ++ [(full, schema)] :=
      definitions_append
    rw [added, List.reverse_append]
    exact congrArg _ within.defined
  fresh := by
    have added : definedNames (.begins full :: (inside ++ [.ends full schema])) =
        definedNames inside ++ [full] :=
      definedNames_append
    -- the names inside are new beside this one
    obtain ⟨nodup, unknown⟩ := within.fresh
    rw [added]
    refine ⟨?_, List.forall_mem_append.mpr ⟨?_, ?_⟩⟩
    · refine List.nodup_append'.mpr ⟨nodup, List.nodup_singleton full, ?_⟩
      rw [List.disjoint_singleton]
      intro mem
      exact unknown full mem (Names.knows_iff.mpr (.inr List.mem_cons_self))
    · intro other mem known
      apply unknown other mem
      rcases Names.knows_iff.mp known with isDefined | underWay
      · exact Names.knows_iff.mpr (.inl isDefined)
      · exact Names.knows_iff.mpr (.inr (List.mem_cons_of_mem _ underWay))
    · exact List.forall_mem_singleton.mpr new

theorem Names.Completes.append {names₁ : Names} (first : Completes names log names₁)
    (second : Completes names₁ log' names') : Completes names (log ++ log') names' where
  underWay := second.underWay.trans first.underWay
  defined := by
    rw [second.defined, first.defined, definitions_append, List.reverse_append, List.append_assoc]
  fresh := by
    rw [definedNames_append]
    exact (fresh_append_iff fun _ => first.knows_iff).mpr ⟨first.fresh, second.fresh⟩

/-- What a run of nested definitions leaves behind. -/
theorem Names.Run.completes (run : Run names log names') (nested : Nested log) :
    Completes names log names' := by
  induction nested generalizing names names' with
  | nil =>
    -- nothing is defined, and nothing changes
    obtain rfl := run_nil_iff.mp run
    exact ⟨rfl, rfl, fresh_nil⟩
  | uses _ ih =>
    -- a use changes no names
    obtain ⟨_, ⟨⟩, rest⟩ := run_cons_iff.mp run
    obtain ⟨underWay, defined, fresh⟩ := ih rest
    exact ⟨underWay, defined, fresh⟩
  | @defines full schema inside log _ _ within ih =>
    -- the definition with what is inside it, and then the rest of the log
    rw [List.append_cons, ← List.cons_append] at run ⊢
    obtain ⟨_, definition, rest⟩ := run_append_iff.mp run
    obtain ⟨_, ⟨new⟩, definition⟩ := run_cons_iff.mp definition
    obtain ⟨_, insideRun, last⟩ := run_append_iff.mp definition
    obtain ⟨_, ⟨⟩, ⟨⟩⟩ := run_cons_iff.mp last
    exact ((within insideRun).define new).append (ih rest)

/-! ## Uses -/

/-- In a log, a name is used after the definition of `full` begins and before it ends. -/
def UsedInside (log : List NameEvent) (full wanted target : String) : Prop :=
  ∃ before inside schema after,
    log = before ++ .begins full :: (inside ++ .uses wanted target schema :: after) ∧
      ∀ schema, .ends full schema ∉ inside

/-- The definition of `full` refers to `target`, itself or in a definition inside it. -/
def RefersTo (log : List NameEvent) (full target : String) : Prop :=
  ∃ wanted, UsedInside log full wanted target

/-- From the beginning, a name is used once its definition has ended. -/
theorem Names.Run.ended_of_uses (run : Run {} log names')
    (split : log = before ++ .uses wanted target schema :: after) :
    .ends target schema ∈ before := by
  -- the use comes after a run of what is before it, which leaves only what it defined in the table
  subst split
  obtain ⟨names₁, run, rest⟩ := run_append_iff.mp run
  obtain ⟨_, use, _⟩ := run_cons_iff.mp rest
  cases use with
  | uses _ found =>
    rw [run.defined_eq, List.append_nil] at found
    obtain ⟨_, _, eq, _⟩ := List.lookup_eq_some_iff.mp found
    apply mem_definitions_iff.mp
    apply List.mem_reverse.mp
    rw [eq]
    exact List.mem_append_right _ List.mem_cons_self

/-- A name is not used inside its own definition. -/
theorem Names.Run.ne_of_usedInside (run : Run names log names')
    (used : UsedInside log full wanted target) : wanted ≠ full := by
  obtain ⟨before, inside, schema, after, rfl, unended⟩ := used
  obtain ⟨_, _, rest⟩ := run_append_iff.mp run
  obtain ⟨_, ⟨new⟩, rest⟩ := run_cons_iff.mp rest
  obtain ⟨_, insideRun, rest⟩ := run_append_iff.mp rest
  obtain ⟨_, use, _⟩ := run_cons_iff.mp rest
  rintro rfl
  cases use with
  | uses notUnderWay => exact notUnderWay (insideRun.mem_underWay List.mem_cons_self unended)

/-- The definition of a name that another definition refers to ends before that one does. -/
theorem Names.Run.idxOf_lt_of_refersTo (run : Run {} log names')
    (refers : RefersTo log full target) :
    (definedNames log).idxOf target < (definedNames log).idxOf full := by
  obtain ⟨wanted, before, inside, schema, after, split, unended⟩ := refers
  rw [← List.cons_append, ← List.append_assoc] at split
  have ended := run.ended_of_uses split
  subst split
  -- the definition that is under way has not ended before either, as its name was new
  have notEnded : full ∉ definedNames (before ++ .begins full :: inside) := by
    obtain ⟨_, run, _⟩ := run_append_iff.mp run
    obtain ⟨_, run, rest⟩ := run_append_iff.mp run
    obtain ⟨_, ⟨new⟩, _⟩ := run_cons_iff.mp rest
    rw [definedNames_append, List.mem_append, not_or]
    refine ⟨fun mem => new (run.knows_of_mem mem), fun mem => ?_⟩
    obtain ⟨schema, ended⟩ := mem_definedNames_iff.mp mem
    rcases List.mem_cons.mp ended with same | ended
    · contradiction
    · exact unended schema ended
  have isEnded : target ∈ definedNames (before ++ .begins full :: inside) :=
    mem_definedNames_iff.mpr ⟨_, ended⟩
  -- so it has its place among the names already, and the other one does not
  rw [definedNames_append, List.idxOf_append_of_mem isEnded,
    List.idxOf_append_of_notMem notEnded]
  exact Nat.lt_add_right _ (List.idxOf_lt_length_iff.mpr isEnded)

/-- No definition refers to its own name, even through definitions of the names that it uses. -/
theorem Names.Run.not_transGen_refersTo (run : Run {} log names') (full : String) :
    ¬Relation.TransGen (RefersTo log) full full := by
  intro cycle
  -- along the way, definitions end earlier and earlier
  have earlier : ∀ {target : String}, Relation.TransGen (RefersTo log) full target →
      (definedNames log).idxOf target < (definedNames log).idxOf full := by
    intro target path
    induction path with
    | single refers => exact run.idxOf_lt_of_refersTo refers
    | tail _ refers ih => exact (run.idxOf_lt_of_refersTo refers).trans ih
  exact (earlier cycle).false

end Avro

end Sluice
