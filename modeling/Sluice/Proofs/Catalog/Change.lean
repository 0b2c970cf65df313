import Sluice.Proofs.Catalog.Lookup

/-!
# Runs of commands

Commands that are carried out on a catalog one after another leave a log of what each of them
answered. From its answer alone one can tell whether a command registered a source, removed one, or
did neither. What that does to the sources and to the claims on topics is said here once, whichever
command it was.

## Main definitions

* `Catalog.after`, `Catalog.log`: a run of commands, and the events that it leaves.
* `Event.Registers`, `Event.Removes`: the events that change the sources.
* `Catalog.Change`: what an event changes.

## Main statements

* `Catalog.change_of_apply`: every command changes the catalog in one of these ways.
-/

namespace Sluice

/-- A command that was carried out, and what it answered. -/
structure Event where
  command : Command
  answer : Answer

namespace Event

/-- The event is the registration of a source, which was not rejected. -/
inductive Registers : Event → Source → Prop
  | put (s : Source) : Registers ⟨.putSource s, .done⟩ s
  | register (s : Source) : Registers ⟨.registerSource s, .source (some s)⟩ s

/-- The event is the removal of the source of a name, which there was. -/
inductive Removes : Event → String → Prop
  | delete (name : String) (s : Source) : Removes ⟨.deleteSource name, .source (some s)⟩ name
  | remove (name : String) (s : Source) : Removes ⟨.removeSource name, .source (some s)⟩ name

variable {event : Event} {s t : Source} {name other : String}

theorem Registers.registers_iff (h : event.Registers s) : event.Registers t ↔ t = s := by
  constructor
  · intro h'
    cases h <;> cases h' <;> rfl
  · rintro rfl
    exact h

theorem Removes.removes_iff (h : event.Removes name) : event.Removes other ↔ other = name := by
  constructor
  · intro h'
    cases h <;> cases h' <;> rfl
  · rintro rfl
    exact h

theorem Registers.not_removes (h : event.Registers s) : ¬event.Removes name := by
  intro h'
  cases h <;> cases h'

end Event

namespace Catalog

/-! ## Runs -/

/-- What happens when a command is carried out. -/
def event (c : Catalog) (command : Command) : Event :=
  ⟨command, (c.apply command).1⟩

/-- The catalog after a run of commands. -/
def after (c : Catalog) : List Command → Catalog
  | [] => c
  | command :: rest => (c.apply command).2.after rest

/-- The events that a run of commands leaves, first to last. -/
def log (c : Catalog) : List Command → List Event
  | [] => []
  | command :: rest => c.event command :: (c.apply command).2.log rest

theorem after_concat (c : Catalog) (commands : List Command) (last : Command) :
    c.after (commands ++ [last]) = ((c.after commands).apply last).2 := by
  induction commands generalizing c with
  | nil => rfl
  | cons command rest ih => exact ih (c.apply command).2

theorem log_concat (c : Catalog) (commands : List Command) (last : Command) :
    c.log (commands ++ [last]) = c.log commands ++ [(c.after commands).event last] := by
  induction commands generalizing c with
  | nil => rfl
  | cons command rest ih =>
    rw [List.cons_append, log, ih]
    rfl

/-! ## What a command changes -/

/-- What an event makes of the sources and claims of a catalog. -/
inductive Change (c : Catalog) (event : Event) (d : Catalog) : Prop
  /-- a source comes in under a free name, and the claim on its topic is its own -/
  | registered (s : Source) (registers : event.Registers s) (free : c.source? s.name = none)
      (sources : ∀ n, d.source? n = if s.name = n then some s else c.source? n)
      (claims : ∀ t : String,
        d.claims[t]? = if s.topic.name = t then some s.name else c.claims[t]?)
  /-- a source goes, and with it the claim on its topic if it has that -/
  | removed (name : String) (s : Source) (removes : event.Removes name)
      (present : c.source? name = some s)
      (sources : ∀ n, d.source? n = if name = n then none else c.source? n)
      (claims : ∀ t : String, d.claims[t]? =
        if s.topic.name = t ∧ c.claims[t]? = some name then none else c.claims[t]?)
  /-- nothing is changed but topics -/
  | kept (noRegistration : ∀ s, ¬event.Registers s) (noRemoval : ∀ name, ¬event.Removes name)
      (sources : ∀ n, d.source? n = c.source? n)
      (claims : ∀ t : String, d.claims[t]? = c.claims[t]?)

variable {c : Catalog} {s : Source} {name : String} {event : Event}

/-- An event that neither registers nor removes a source changes topics only. -/
theorem change_topics (noRegistration : ∀ s, ¬event.Registers s)
    (noRemoval : ∀ name, ¬event.Removes name) (topics : Std.ExtTreeMap String Topic) :
    c.Change event { c with topics } :=
  .kept noRegistration noRemoval (fun _ => rfl) fun _ => rfl

/-- A source that comes in is entered, whatever becomes of the topics. -/
theorem change_enter (registers : event.Registers s) (free : c.source? s.name = none)
    (topics : Std.ExtTreeMap String Topic) : c.Change event { c.enter s with topics } :=
  .registered s registers free source?_enter claims_enter

/-- A source that goes is taken out with its claim, whatever becomes of the topics. -/
theorem change_delete (removes : event.Removes name) (present : c.source? name = some s)
    (topics : Std.ExtTreeMap String Topic) :
    let left := { c with sources := c.sources.erase name }.releaseClaim s.topic.name name
    c.Change event { left with topics } := by
  intro left
  apply Change.removed name s removes present
  · intro n
    show left.source? n = _
    rw [source?_releaseClaim]
    simp [source?, Std.ExtTreeMap.getElem?_erase]
  · exact claims_releaseClaim

/-- Every command registers a source, removes one, or leaves sources and claims as they are. -/
theorem change_of_apply {command : Command} {answer : Answer} {d : Catalog}
    (h : c.apply command = (answer, d)) : c.Change ⟨command, answer⟩ d := by
  -- what a command does to sources and claims depends on whether its name is taken
  cases command with
  | putSource s =>
    rw [apply, putSource_eq] at h
    cases hs : c.source? s.name with
    | none =>
      simp only [hs, Option.isSome_none, Bool.false_eq_true, if_false] at h
      obtain ⟨rfl, rfl⟩ := Prod.mk.inj h
      exact change_enter (.put s) hs c.topics
    | some t =>
      simp only [hs, Option.isSome_some, if_true] at h
      obtain ⟨rfl, rfl⟩ := Prod.mk.inj h
      exact change_topics (by rintro _ ⟨⟩) (by rintro _ ⟨⟩) c.topics
  | registerSource s =>
    rw [apply, registerSource_eq] at h
    cases hs : c.source? s.name with
    | none =>
      simp only [hs, Option.isSome_none, Bool.false_eq_true, if_false] at h
      obtain ⟨rfl, rfl⟩ := Prod.mk.inj h
      exact change_enter (.register s) hs (c.enter s).topics
    | some t =>
      simp only [hs, Option.isSome_some, if_true] at h
      obtain ⟨rfl, rfl⟩ := Prod.mk.inj h
      exact change_topics (by rintro _ ⟨⟩) (by rintro _ ⟨⟩) c.topics
  | deleteSource name =>
    rw [apply] at h
    cases hs : c.source? name with
    | none =>
      rw [deleteSource_of_none hs] at h
      obtain ⟨rfl, rfl⟩ := Prod.mk.inj h
      exact change_topics (by rintro _ ⟨⟩) (by rintro _ ⟨⟩) c.topics
    | some s =>
      rw [deleteSource_of_some hs] at h
      obtain ⟨rfl, rfl⟩ := Prod.mk.inj h
      exact change_delete (.delete name s) hs _
  | removeSource name =>
    -- removing is deleting as far as sources and claims go
    obtain ⟨topics, removed⟩ := exists_removeSource_eq c name
    rw [apply, removed] at h
    cases hs : c.source? name with
    | none =>
      rw [deleteSource_of_none hs] at h
      obtain ⟨rfl, rfl⟩ := Prod.mk.inj h
      exact change_topics (by rintro _ ⟨⟩) (by rintro _ ⟨⟩) topics
    | some s =>
      rw [deleteSource_of_some hs] at h
      obtain ⟨rfl, rfl⟩ := Prod.mk.inj h
      exact change_delete (.remove name s) hs topics
  -- topics are neither sources nor claims
  | putTopic t =>
    obtain ⟨rfl, rfl⟩ := Prod.mk.inj h
    exact change_topics (by rintro _ ⟨⟩) (by rintro _ ⟨⟩) (c.putTopic t).topics
  | deleteTopic name =>
    obtain ⟨rfl, rfl⟩ := Prod.mk.inj h
    exact change_topics (by rintro _ ⟨⟩) (by rintro _ ⟨⟩) (c.deleteTopic name).2.topics

/-- An event changes the catalog in which it happens in one of these ways. -/
theorem change_event (c : Catalog) (command : Command) :
    c.Change (c.event command) (c.apply command).2 :=
  change_of_apply rfl

end Catalog

end Sluice
