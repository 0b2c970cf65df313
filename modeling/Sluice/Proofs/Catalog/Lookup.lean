import Sluice.Catalog.Basic

/-!
# Look-ups after a change

The catalog is seen through three look-ups: the source of a name, the topic of a name, and the
name that claims a topic. Equal look-ups make equal catalogs. What registering and removing do is
said here once, so that later proofs open neither operation.

## Main definitions

* `Catalog.enter`, `Catalog.forget`: all entries of a source put in, all entries of a name left out.

## Main statements

* `Catalog.putSource_eq`, `Catalog.registerSource_eq`: registering is entering, under a free name.
* `Catalog.deleteSource_of_some`, `Catalog.removeSource_of_some`: what removing a source does.
-/

namespace Sluice

namespace Catalog

variable {c : Catalog} {s : Source} {name topic : String}

/-! ## Equality -/

/-- Catalogs with the same look-ups are equal. -/
theorem ext_lookup {c d : Catalog} (sources : ∀ n, c.source? n = d.source? n)
    (topics : ∀ n, c.topic? n = d.topic? n) (claims : ∀ n : String, c.claims[n]? = d.claims[n]?) :
    c = d := by
  obtain ⟨cs, ct, cc⟩ := c
  obtain ⟨ds, dt, dc⟩ := d
  obtain rfl : cs = ds := Std.ExtTreeMap.ext_getElem? sources
  obtain rfl : ct = dt := Std.ExtTreeMap.ext_getElem? topics
  obtain rfl : cc = dc := Std.ExtTreeMap.ext_getElem? claims
  rfl

theorem mem_sources_iff : name ∈ c.sources ↔ ∃ s, c.source? name = some s := by
  rw [Std.ExtTreeMap.mem_iff_isSome_getElem?, Option.isSome_iff_exists]
  rfl

theorem mem_topics_iff : name ∈ c.topics ↔ ∃ t, c.topic? name = some t := by
  rw [Std.ExtTreeMap.mem_iff_isSome_getElem?, Option.isSome_iff_exists]
  rfl

theorem mem_claims_iff : topic ∈ c.claims ↔ ∃ holder, c.claims[topic]? = some holder := by
  rw [Std.ExtTreeMap.mem_iff_isSome_getElem?, Option.isSome_iff_exists]

/-- A topic is in use when some source of the catalog is over it. -/
theorem uses_iff : c.uses topic ↔ ∃ n s, c.source? n = some s ∧ s.topic.name = topic := by
  have mem_list : ∀ s, s ∈ c.sourceList ↔ ∃ n, c.source? n = some s := by
    intro s
    simp [sourceList, source?]
  simp only [uses, List.any_eq_true, mem_list, beq_iff_eq]
  constructor
  · rintro ⟨s, ⟨n, hs⟩, ht⟩
    exact ⟨n, s, hs, ht⟩
  · rintro ⟨n, s, hs, ht⟩
    exact ⟨s, ⟨n, hs⟩, ht⟩

/-! ## The empty catalog -/

@[simp]
theorem source?_empty : empty.source? name = none := by
  simp [empty, source?]

@[simp]
theorem topic?_empty : empty.topic? name = none := by
  simp [empty, topic?]

@[simp]
theorem claims_empty : empty.claims[topic]? = none := by
  simp [empty]

/-! ## Registering -/

/-- The catalog with a source, its topic and its claim put in, in the stead of what was there. -/
def enter (c : Catalog) (s : Source) : Catalog where
  sources := c.sources.insert s.name s
  topics := c.topics.insert s.topic.name s.topic
  claims := c.claims.insert s.topic.name s.name

@[simp]
theorem source?_enter (n : String) :
    (c.enter s).source? n = if s.name = n then some s else c.source? n := by
  simp [enter, source?, Std.ExtTreeMap.getElem?_insert]

@[simp]
theorem topic?_enter (n : String) :
    (c.enter s).topic? n = if s.topic.name = n then some s.topic else c.topic? n := by
  simp [enter, topic?, Std.ExtTreeMap.getElem?_insert]

@[simp]
theorem claims_enter (t : String) :
    (c.enter s).claims[t]? = if s.topic.name = t then some s.name else c.claims[t]? := by
  simp [enter, Std.ExtTreeMap.getElem?_insert]

/-- Putting in a source enters it, but not its topic, if its name is free, and is refused
otherwise. -/
theorem putSource_eq (c : Catalog) (s : Source) :
    c.putSource s =
      if (c.source? s.name).isSome then .error (.sourceExists s.name)
      else .ok { c.enter s with topics := c.topics } := by
  unfold putSource source?
  rw [Std.ExtTreeMap.contains_eq_isSome_getElem?]
  rfl

/-- Registering a source enters it if its name is free, and is refused otherwise. -/
theorem registerSource_eq (c : Catalog) (s : Source) :
    c.registerSource s =
      if (c.source? s.name).isSome then .error (.sourceExists s.name) else .ok (c.enter s) := by
  rw [registerSource, putSource_eq]
  split <;> rfl

/-! ## Removing -/

/-- The catalog without the entries of a name in any of the three indexes. -/
def forget (c : Catalog) (name : String) : Catalog where
  sources := c.sources.erase name
  topics := c.topics.erase name
  claims := c.claims.erase name

@[simp]
theorem source?_forget (n : String) :
    (c.forget name).source? n = if name = n then none else c.source? n := by
  simp [forget, source?, Std.ExtTreeMap.getElem?_erase]

@[simp]
theorem topic?_forget (n : String) :
    (c.forget name).topic? n = if name = n then none else c.topic? n := by
  simp [forget, topic?, Std.ExtTreeMap.getElem?_erase]

@[simp]
theorem claims_forget (t : String) :
    (c.forget name).claims[t]? = if name = t then none else c.claims[t]? := by
  simp [forget, Std.ExtTreeMap.getElem?_erase]

@[simp]
theorem source?_releaseClaim (n : String) :
    (c.releaseClaim topic name).source? n = c.source? n := by
  unfold releaseClaim
  split <;> rfl

/-- A claim is given up by its holder only. -/
@[simp]
theorem claims_releaseClaim (t : String) :
    (c.releaseClaim topic name).claims[t]? =
      if topic = t ∧ c.claims[t]? = some name then none else c.claims[t]? := by
  unfold releaseClaim
  by_cases ht : topic = t
  · subst ht
    split <;> simp_all
  · split <;> simp [ht, Std.ExtTreeMap.getElem?_erase]

/-- Deleting a name that no source has changes nothing. -/
theorem deleteSource_of_none (h : c.source? name = none) : c.deleteSource name = (none, c) := by
  simp [deleteSource, h]

/-- Deleting a source takes it out and gives up its claim. -/
theorem deleteSource_of_some (h : c.source? name = some s) :
    c.deleteSource name =
      (some s, { c with sources := c.sources.erase name }.releaseClaim s.topic.name name) := by
  simp [deleteSource, h]

/-- Removing a name that no source has changes nothing. -/
theorem removeSource_of_none (h : c.source? name = none) : c.removeSource name = (none, c) := by
  rw [removeSource, deleteSource_of_none h]

/-- Removing a source deletes it, and its topic too if no source left uses that. -/
theorem removeSource_of_some (h : c.source? name = some s) :
    c.removeSource name = (some s,
      let left := { c with sources := c.sources.erase name }.releaseClaim s.topic.name name
      if left.uses s.topic.name then left else (left.deleteTopic s.topic.name).2) := by
  rw [removeSource, deleteSource_of_some h]

/-- Removing a name deletes it, and may take away a topic besides. -/
theorem exists_removeSource_eq (c : Catalog) (name : String) :
    ∃ topics, c.removeSource name =
      ((c.deleteSource name).1, { (c.deleteSource name).2 with topics }) := by
  cases h : c.source? name with
  | none =>
    rw [removeSource_of_none h, deleteSource_of_none h]
    exact ⟨c.topics, rfl⟩
  | some s =>
    rw [removeSource_of_some h, deleteSource_of_some h]
    dsimp only
    -- whether the topic is in use decides only on the topics
    split
    · exact ⟨_, rfl⟩
    · -- the topic goes too
      exact ⟨_, rfl⟩

@[simp]
theorem topic?_releaseClaim (n : String) :
    (c.releaseClaim topic name).topic? n = c.topic? n := by
  unfold releaseClaim
  split <;> rfl

@[simp]
theorem topic?_deleteTopic (n : String) :
    (c.deleteTopic topic).2.topic? n = if topic = n then none else c.topic? n := by
  simp [deleteTopic, topic?, Std.ExtTreeMap.getElem?_erase]

/-- Deleting a source leaves the sources of all other names. -/
theorem source?_deleteSource (h : c.source? name = some s) (n : String) :
    (c.deleteSource name).2.source? n = if name = n then none else c.source? n := by
  rw [deleteSource_of_some h, source?_releaseClaim]
  simp [source?, Std.ExtTreeMap.getElem?_erase]

/-- Deleting a source leaves all topics. -/
theorem topic?_deleteSource (h : c.source? name = some s) (t : String) :
    (c.deleteSource name).2.topic? t = c.topic? t := by
  rw [deleteSource_of_some h, topic?_releaseClaim]
  rfl

/-- Deleting a source gives up its claim, if it holds that. -/
theorem claims_deleteSource (h : c.source? name = some s) (t : String) :
    (c.deleteSource name).2.claims[t]? =
      if s.topic.name = t ∧ c.claims[t]? = some name then none else c.claims[t]? := by
  rw [deleteSource_of_some h, claims_releaseClaim]

/-- Removing a source leaves the sources of all other names. -/
theorem source?_removeSource (h : c.source? name = some s) (n : String) :
    (c.removeSource name).2.source? n = if name = n then none else c.source? n := by
  obtain ⟨topics, removed⟩ := exists_removeSource_eq c name
  rw [removed]
  exact source?_deleteSource h n

/-- Removing a source gives up its claim, if it holds that. -/
theorem claims_removeSource (h : c.source? name = some s) (t : String) :
    (c.removeSource name).2.claims[t]? =
      if s.topic.name = t ∧ c.claims[t]? = some name then none else c.claims[t]? := by
  obtain ⟨topics, removed⟩ := exists_removeSource_eq c name
  rw [removed]
  exact claims_deleteSource h t

/-- The topic of a source that is removed goes too, if it is not in use any more. -/
theorem topic?_removeSource (h : c.source? name = some s) (t : String) :
    (c.removeSource name).2.topic? t =
      if s.topic.name = t ∧ ¬(c.removeSource name).2.uses t then none else c.topic? t := by
  rw [removeSource_of_some h]
  dsimp only
  -- the source and its claim go first, and whether the topic is in use is asked after that
  generalize hleft :
    { c with sources := c.sources.erase name }.releaseClaim s.topic.name name = left
  have topics : left.topic? t = c.topic? t := by
    rw [← hleft, topic?_releaseClaim]
    rfl
  by_cases used : left.uses s.topic.name
  · rw [if_pos used, topics, if_neg]
    rintro ⟨rfl, unused⟩
    exact unused used
  · rw [if_neg used, topic?_deleteTopic, topics]
    -- taking a topic away does not change which topics are in use
    show _ = if s.topic.name = t ∧ ¬left.uses t then none else _
    by_cases same : s.topic.name = t
    · subst same
      simp [used]
    · simp [same]

end Catalog

end Sluice
