import Sluice.Proofs.Catalog.Claims

/-!
# Unrelated changes

A command that registers or removes a source reads and writes the entries of that source and of its
topic. It leaves all others as they are, and what it does depends on no others, but for one thing:
a removal looks whether another source is over its topic. A command on another source, over another
topic, changes nothing of that either. So two such commands may be carried out in either order, and
neither shows in what is found under any third name.

## Main definitions

* `Command.Concerns`: the name and the topic that a command is about.
* `Catalog.SameElsewhere`: what a command leaves as it is.
* `Catalog.AlikeAt`: what a command depends on.

## Main statements

* `Catalog.sameElsewhere_apply`: a command changes the entries that it is about, and no others.
* `Catalog.AlikeAt.apply`: it does the same in catalogs that look alike there.
* `Catalog.unrelated_commute`: unrelated commands commute, and leave other look-ups as they were.
-/

namespace Sluice

/-- The command registers or removes the source of a name. The topic is the one that this source is
over, if there is such a source. -/
inductive Command.Concerns (c : Catalog) : Command → String → Option String → Prop
  | put (s : Source) : Concerns c (.putSource s) s.name (some s.topic.name)
  | register (s : Source) : Concerns c (.registerSource s) s.name (some s.topic.name)
  | delete (name : String) :
      Concerns c (.deleteSource name) name ((c.source? name).map (·.topic.name))
  | remove (name : String) :
      Concerns c (.removeSource name) name ((c.source? name).map (·.topic.name))

namespace Catalog

variable {c d : Catalog} {s : Source} {command a b : Command} {name m n : String}
  {topic T U : Option String}

/-! ## Carrying out a registration -/

theorem apply_putSource_of_none (free : c.source? s.name = none) :
    c.apply (.putSource s) = (.done, { c.enter s with topics := c.topics }) := by
  rw [apply, putSource_eq, free]
  rfl

theorem apply_putSource_of_some {t : Source} (taken : c.source? s.name = some t) :
    c.apply (.putSource s) = (.rejected (.sourceExists s.name), c) := by
  rw [apply, putSource_eq, taken]
  rfl

theorem apply_registerSource_of_none (free : c.source? s.name = none) :
    c.apply (.registerSource s) = (.source (some s), c.enter s) := by
  rw [apply, registerSource_eq, free]
  rfl

theorem apply_registerSource_of_some {t : Source} (taken : c.source? s.name = some t) :
    c.apply (.registerSource s) = (.rejected (.sourceExists s.name), c) := by
  rw [apply, registerSource_eq, taken]
  rfl

/-! ## What a command writes -/

/-- Two catalogs have the same entries but for those of a name and of a topic. Sources over other
topics are the same under all names. -/
structure SameElsewhere (c d : Catalog) (name : String) (topic : Option String) : Prop where
  sources : ∀ n, name ≠ n → d.source? n = c.source? n
  topics : ∀ t, t ∉ topic → d.topic? t = c.topic? t
  claims : ∀ t, t ∉ topic → d.claims[t]? = c.claims[t]?
  others : ∀ n s, s.topic.name ∉ topic → (d.source? n = some s ↔ c.source? n = some s)

theorem SameElsewhere.refl (c : Catalog) (name : String) (topic : Option String) :
    c.SameElsewhere c name topic where
  sources _ _ := rfl
  topics _ _ := rfl
  claims _ _ := rfl
  others _ _ _ := Iff.rfl

/-- When a source comes in over a topic, or one goes that was over it, nothing changes elsewhere. -/
theorem sameElsewhere_of_lookups {t : String} {entry : Option Source}
    (sources : ∀ n, d.source? n = if name = n then entry else c.source? n)
    (topics : ∀ t', t ≠ t' → d.topic? t' = c.topic? t')
    (claims : ∀ t' : String, t ≠ t' → d.claims[t']? = c.claims[t']?)
    (before : ∀ s, c.source? name = some s → s.topic.name = t)
    (after : ∀ s, entry = some s → s.topic.name = t) :
    c.SameElsewhere d name (some t) := by
  refine ⟨?sources, ?topics, ?claims, ?others⟩
  case sources =>
    intro n other
    rw [sources, if_neg other]
  case topics => exact fun t' elsewhere => topics t' fun same => elsewhere (congrArg some same)
  case claims => exact fun t' elsewhere => claims t' fun same => elsewhere (congrArg some same)
  case others =>
    intro n s elsewhere
    have elsewhere : t ≠ s.topic.name := fun same => elsewhere (congrArg some same)
    rw [sources]
    split
    · -- neither of the two sources that had the name is over another topic
      rename_i same
      subst same
      exact iff_of_false (fun found => elsewhere (after s found).symm)
        fun found => elsewhere (before s found).symm
    · rfl

/-- A command changes the entries that it is about, and no others. -/
theorem sameElsewhere_apply (about : command.Concerns c name topic) :
    c.SameElsewhere (c.apply command).2 name topic := by
  -- each command either leaves the catalog as it is, for its name is taken or free, or changes it
  -- under that name
  cases about with
  | put s =>
    cases entry : c.source? s.name with
    | some t =>
      rw [apply_putSource_of_some entry]
      exact .refl c _ _
    | none =>
      rw [apply_putSource_of_none entry]
      refine sameElsewhere_of_lookups (fun n => source?_enter n) ?_ ?_ ?_ ?_
      · exact fun _ _ => rfl
      · exact fun t other => (claims_enter t).trans (if_neg other)
      · simp [entry]
      · simp
  | register s =>
    cases entry : c.source? s.name with
    | some t =>
      rw [apply_registerSource_of_some entry]
      exact .refl c _ _
    | none =>
      rw [apply_registerSource_of_none entry]
      refine sameElsewhere_of_lookups (fun n => source?_enter n) ?_ ?_ ?_ ?_
      · exact fun t other => (topic?_enter t).trans (if_neg other)
      · exact fun t other => (claims_enter t).trans (if_neg other)
      · simp [entry]
      · simp
  | delete name =>
    cases entry : c.source? name with
    | none =>
      show c.SameElsewhere (c.deleteSource name).2 name _
      rw [deleteSource_of_none entry]
      exact .refl c _ _
    | some s =>
      show c.SameElsewhere (c.deleteSource name).2 name _
      -- the source that goes is the one that had the name
      apply sameElsewhere_of_lookups (source?_deleteSource entry)
      · exact fun t _ => topic?_deleteSource entry t
      · intro t other
        rw [claims_deleteSource entry, if_neg fun taken => other taken.1]
      · simp [entry]
      · simp
  | remove name =>
    cases entry : c.source? name with
    | none =>
      show c.SameElsewhere (c.removeSource name).2 name _
      rw [removeSource_of_none entry]
      exact .refl c _ _
    | some s =>
      show c.SameElsewhere (c.removeSource name).2 name _
      -- the topic that may go with it is the one that it was over
      apply sameElsewhere_of_lookups (source?_removeSource entry)
      · intro t other
        rw [topic?_removeSource entry, if_neg fun taken => other taken.1]
      · intro t other
        rw [claims_removeSource entry, if_neg fun taken => other taken.1]
      · simp [entry]
      · simp

/-! ## What a command reads -/

/-- Two catalogs have the same entries under a name and for a topic. -/
structure SameAt (c d : Catalog) (name : String) (topic : Option String) : Prop where
  entry : d.source? name = c.source? name
  topics : ∀ t ∈ topic, d.topic? t = c.topic? t
  claims : ∀ t ∈ topic, d.claims[t]? = c.claims[t]?

/-- Two catalogs have the same entries under a name and for a topic, and the same other sources over
that topic. -/
structure AlikeAt (c d : Catalog) (name : String) (topic : Option String) : Prop
    extends c.SameAt d name topic where
  others : ∀ t ∈ topic, ∀ n s, name ≠ n → s.topic.name = t →
    (d.source? n = some s ↔ c.source? n = some s)

/-- Where two catalogs have the same entries, they have the same after a source has come in. -/
theorem SameAt.enter (same : c.SameAt d s.name (some s.topic.name)) :
    (c.enter s).SameAt (d.enter s) s.name (some s.topic.name) where
  entry := by rw [source?_enter, source?_enter, if_pos rfl, if_pos rfl]
  topics t held := by
    obtain rfl := Option.mem_some_iff.mp held
    rw [topic?_enter, topic?_enter, if_pos rfl, if_pos rfl]
  claims t held := by rw [claims_enter, claims_enter, same.claims t held]

/-- So do they after a source has been deleted, which is the same source in both. -/
theorem SameAt.deleteSource (same : c.SameAt d name topic) :
    (d.deleteSource name).1 = (c.deleteSource name).1 ∧
      (c.deleteSource name).2.SameAt (d.deleteSource name).2 name topic := by
  -- the answer and the entries hang on the source, which is the same in both
  cases present : c.source? name with
  | none =>
    have present' : d.source? name = none := same.entry.trans present
    rw [deleteSource_of_none present, deleteSource_of_none present']
    exact ⟨rfl, same⟩
  | some s =>
    have present' : d.source? name = some s := same.entry.trans present
    refine ⟨?answer, ?entry, ?topics, ?claims⟩
    case answer => rw [deleteSource_of_some present, deleteSource_of_some present']
    case entry =>
      rw [source?_deleteSource present, source?_deleteSource present', if_pos rfl, if_pos rfl]
    case topics =>
      intro t held
      rw [topic?_deleteSource present, topic?_deleteSource present', same.topics t held]
    case claims =>
      intro t held
      rw [claims_deleteSource present, claims_deleteSource present', same.claims t held]

/-- Whether a topic stays in use after a removal is seen from the other sources over it. -/
theorem AlikeAt.uses_removeSource (alike : c.AlikeAt d name topic)
    (present : c.source? name = some s) {t : String} (held : t ∈ topic) :
    (d.removeSource name).2.uses t = (c.removeSource name).2.uses t := by
  have present' : d.source? name = some s := alike.entry.trans present
  -- a topic is in use when some source is over it, and the removed one is no longer
  rw [Bool.eq_iff_iff, uses_iff, uses_iff]
  apply exists_congr
  intro n
  apply exists_congr
  intro s'
  rw [source?_removeSource present, source?_removeSource present']
  by_cases same : name = n
  · rw [if_pos same, if_pos same]
  · rw [if_neg same, if_neg same]
    exact and_congr_left fun onTopic => alike.others t held n s' same onTopic

/-- Where two catalogs look alike, they have the same entries after a source has been removed, which
is the same source in both. -/
theorem AlikeAt.removeSource (alike : c.AlikeAt d name topic) :
    (d.removeSource name).1 = (c.removeSource name).1 ∧
      (c.removeSource name).2.SameAt (d.removeSource name).2 name topic := by
  cases present : c.source? name with
  | none =>
    have present' : d.source? name = none := alike.entry.trans present
    rw [removeSource_of_none present, removeSource_of_none present']
    exact ⟨rfl, alike.toSameAt⟩
  | some s =>
    have present' : d.source? name = some s := alike.entry.trans present
    refine ⟨?answer, ?entry, ?topics, ?claims⟩
    case answer => rw [removeSource_of_some present, removeSource_of_some present']
    case entry =>
      rw [source?_removeSource present, source?_removeSource present', if_pos rfl, if_pos rfl]
    case topics =>
      -- a topic goes with the source when nothing is left over it, in both or in neither
      intro t held
      rw [topic?_removeSource present, topic?_removeSource present', alike.topics t held,
        alike.uses_removeSource present held]
    case claims =>
      intro t held
      rw [claims_removeSource present, claims_removeSource present', alike.claims t held]

/-- In catalogs that look alike where a command reads, it answers the same and makes the same
entries. -/
theorem AlikeAt.apply (alike : c.AlikeAt d name topic) (about : command.Concerns c name topic) :
    (d.apply command).1 = (c.apply command).1 ∧
      (c.apply command).2.SameAt (d.apply command).2 name topic := by
  -- each command reads the entry under its name, which is the same in both
  cases about with
  | put s =>
    cases entry : c.source? s.name with
    | some t =>
      have entry' : d.source? s.name = some t := alike.entry.trans entry
      rw [apply_putSource_of_some entry, apply_putSource_of_some entry']
      exact ⟨rfl, alike.toSameAt⟩
    | none =>
      have entry' : d.source? s.name = none := alike.entry.trans entry
      rw [apply_putSource_of_none entry, apply_putSource_of_none entry']
      -- the topics are left as they were, and the rest is entered
      have entered := alike.toSameAt.enter
      exact ⟨rfl, entered.entry, alike.topics, entered.claims⟩
  | register s =>
    cases entry : c.source? s.name with
    | some t =>
      have entry' : d.source? s.name = some t := alike.entry.trans entry
      rw [apply_registerSource_of_some entry, apply_registerSource_of_some entry']
      exact ⟨rfl, alike.toSameAt⟩
    | none =>
      have entry' : d.source? s.name = none := alike.entry.trans entry
      rw [apply_registerSource_of_none entry, apply_registerSource_of_none entry']
      exact ⟨rfl, alike.toSameAt.enter⟩
  | delete name =>
    obtain ⟨answer, same⟩ := alike.toSameAt.deleteSource
    exact ⟨congrArg Answer.source answer, same⟩
  | remove name =>
    obtain ⟨answer, same⟩ := alike.removeSource
    exact ⟨congrArg Answer.source answer, same⟩

/-! ## Two commands -/

/-- A command is about the same topic in a catalog with the same source under its name. -/
theorem concerns_of_entry (about : command.Concerns c name topic)
    (same : d.source? name = c.source? name) : command.Concerns d name topic := by
  cases about with
  | put s => exact .put s
  | register s => exact .register s
  | delete name =>
    rw [← same]
    exact .delete name
  | remove name =>
    rw [← same]
    exact .remove name

/-- Where nothing changed but elsewhere, a command reads the same. -/
theorem SameElsewhere.alikeAt (h : c.SameElsewhere d n T) (names : n ≠ m)
    (topics : ∀ t ∈ T, t ∉ U) : c.AlikeAt d m U where
  entry := h.sources m names
  topics t held := h.topics t fun taken => topics t taken held
  claims t held := h.claims t fun taken => topics t taken held
  others t held k s _ onTopic := h.others k s fun taken => topics t (onTopic ▸ taken) held

/-- Claims are sound, so a source is found for another topic than the one that changed as before. -/
theorem Sound.sourceForTopic?_elsewhere (sound : c.Sound) (h : c.SameElsewhere d name topic)
    {t : String} (other : t ∉ topic) : d.sourceForTopic? t = c.sourceForTopic? t := by
  unfold sourceForTopic?
  rw [h.claims t other]
  cases claimed : c.claims[t]? with
  | none => rfl
  | some holder =>
    -- the holder is over the topic, so it is not a source that came or went
    obtain ⟨s, found, onTopic⟩ := sound.claimant t holder claimed
    have kept : d.source? holder = some s := (h.others holder s (onTopic.symm ▸ other)).mpr found
    exact kept.trans found.symm

/-- The first of two commands changes nothing that the second one is about, so the second one is
about the same after it, and changes nothing elsewhere either. -/
theorem sameElsewhere_apply_apply (first : a.Concerns c n T) (second : b.Concerns c m U)
    (names : n ≠ m) : (c.apply a).2.SameElsewhere ((c.apply a).2.apply b).2 m U :=
  sameElsewhere_apply
    (concerns_of_entry second ((sameElsewhere_apply first).sources m names))

/-- After an unrelated command, a command answers as it would have before. What it enters is the
same if the unrelated command comes after it instead. -/
theorem sameAt_of_unrelated (first : a.Concerns c n T) (second : b.Concerns c m U) (names : n ≠ m)
    (topics : ∀ t ∈ T, t ∉ U) :
    ((c.apply b).2.apply a).1 = (c.apply a).1 ∧
      ((c.apply a).2.apply b).2.SameAt ((c.apply b).2.apply a).2 n T := by
  have topics' : ∀ t ∈ U, t ∉ T := fun t held held' => topics t held' held
  -- the second command changes nothing that the first one reads, and nothing that it has entered
  obtain ⟨answer, same⟩ :=
    ((sameElsewhere_apply second).alikeAt names.symm topics').apply first
  -- nor does the first one reach what the second has entered
  have kept := (sameElsewhere_apply_apply first second names).alikeAt names.symm topics'
  refine ⟨answer, ?entry, ?topics, ?claims⟩
  case entry => exact same.entry.trans kept.entry.symm
  case topics => exact fun t held => (same.topics t held).trans (kept.topics t held).symm
  case claims => exact fun t held => (same.claims t held).trans (kept.claims t held).symm

/-- Unrelated commands make the same catalog in either order. -/
theorem apply_apply_of_unrelated (first : a.Concerns c n T) (second : b.Concerns c m U)
    (names : n ≠ m) (topics : ∀ t ∈ T, t ∉ U) :
    ((c.apply a).2.apply b).2 = ((c.apply b).2.apply a).2 := by
  have atFirst := (sameAt_of_unrelated first second names topics).2
  have atSecond :=
    (sameAt_of_unrelated second first names.symm fun t held held' => topics t held' held).2
  have changed := sameElsewhere_apply first
  have changed' := sameElsewhere_apply_apply first second names
  have other := sameElsewhere_apply second
  have other' := sameElsewhere_apply_apply second first names.symm
  -- an entry belongs to the first command, or to the second, or is as it was
  apply ext_lookup
  · intro k
    by_cases ofFirst : n = k
    · subst ofFirst
      exact atFirst.entry.symm
    by_cases ofSecond : m = k
    · subst ofSecond
      exact atSecond.entry
    · rw [changed'.sources k ofSecond, changed.sources k ofFirst, other'.sources k ofFirst,
        other.sources k ofSecond]
  · intro t
    by_cases ofFirst : t ∈ T
    · exact (atFirst.topics t ofFirst).symm
    by_cases ofSecond : t ∈ U
    · exact atSecond.topics t ofSecond
    · rw [changed'.topics t ofSecond, changed.topics t ofFirst, other'.topics t ofFirst,
        other.topics t ofSecond]
  · intro t
    by_cases ofFirst : t ∈ T
    · exact (atFirst.claims t ofFirst).symm
    by_cases ofSecond : t ∈ U
    · exact atSecond.claims t ofSecond
    · rw [changed'.claims t ofSecond, changed.claims t ofFirst, other'.claims t ofFirst,
        other.claims t ofSecond]

/-- Unrelated commands commute. Let two commands register or remove sources of different names over
different topics, in a catalog that any run of commands has made. In either order they make the same
catalog, and each answers the same. Under any third name, and for any third topic, the same is found
after both as before. -/
theorem unrelated_commute {earlier : List Command}
    (first : a.Concerns (empty.after earlier) n T) (second : b.Concerns (empty.after earlier) m U)
    (names : n ≠ m) (topics : ∀ t ∈ T, t ∉ U) :
    let c := empty.after earlier
    let both := ((c.apply a).2.apply b).2
    both = ((c.apply b).2.apply a).2 ∧
      ((c.apply a).2.apply b).1 = (c.apply b).1 ∧ ((c.apply b).2.apply a).1 = (c.apply a).1 ∧
      (∀ k, k ≠ n → k ≠ m → both.source? k = c.source? k) ∧
      ∀ t, t ∉ T → t ∉ U →
        both.topic? t = c.topic? t ∧ both.sourceForTopic? t = c.sourceForTopic? t := by
  intro c both
  have topics' : ∀ t ∈ U, t ∉ T := fun t held held' => topics t held' held
  have changed : c.SameElsewhere (c.apply a).2 n T := sameElsewhere_apply first
  have changed' : (c.apply a).2.SameElsewhere both m U :=
    sameElsewhere_apply_apply first second names
  refine ⟨apply_apply_of_unrelated first second names topics,
    (sameAt_of_unrelated second first names.symm topics').1,
    (sameAt_of_unrelated first second names topics).1, ?sources, ?topics⟩
  case sources =>
    intro k other other'
    exact (changed'.sources k other'.symm).trans (changed.sources k other.symm)
  case topics =>
    intro t other other'
    -- what is found for a topic goes through the claim on it, so soundness is needed
    have sound : c.Sound := sound_empty.after earlier
    have sound' : (c.apply a).2.Sound := sound.change (change_event c a)
    exact ⟨(changed'.topics t other').trans (changed.topics t other),
      (sound'.sourceForTopic?_elsewhere changed' other').trans
        (sound.sourceForTopic?_elsewhere changed other)⟩

/-- The law where one of two sources over a topic is removed and a source over another topic is
registered, under a name that was taken before. -/
theorem unrelated_commute_shared :
    let source (name topic : String) : Source :=
      ⟨name, .stream, [], none, .metadata, ⟨topic, "log", .json, false⟩, ""⟩
    let earlier : List Command := [
      .registerSource (source "A" "T"), .registerSource (source "B" "T"),
      .putSource (source "C" "V"), .deleteSource "C"]
    let c := empty.after earlier
    let a : Command := .removeSource "A"
    let b : Command := .registerSource (source "C" "U")
    a.Concerns c "A" (some "T") ∧ b.Concerns c "C" (some "U") ∧
      ((c.apply a).2.apply b).2 = ((c.apply b).2.apply a).2 ∧
      ((c.apply b).2.apply a).1 = .source (some (source "A" "T")) ∧
      ((c.apply a).2.apply b).2.source? "B" = some (source "B" "T") := by
  intro source earlier c a b
  -- the name is taken, so the removal is about the topic of that source
  have present : c.source? "A" = some (source "A" "T") := by decide
  have first : a.Concerns c "A" (some "T") := by
    have about : a.Concerns c "A" ((c.source? "A").map (·.topic.name)) := .remove "A"
    rwa [present] at about
  have second : b.Concerns c "C" (some "U") := .register (source "C" "U")
  obtain ⟨same, -, answer, others, -⟩ :=
    unrelated_commute first second (by decide) (by decide)
  refine ⟨first, second, same, answer.trans ?_, (others "B" (by decide) (by decide)).trans ?_⟩
  · decide
  · decide

end Catalog

end Sluice
