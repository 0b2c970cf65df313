import Sluice.Proofs.Catalog.History

/-!
# The claims on topics tell the history

The source that is found for a topic is the one that was last registered against it, unless that
one has been removed since. It is found whatever else was registered, rejected or removed between,
and though names may be used again for other topics: a source takes its claim along when it goes,
unless a later one has it, and so no claim is ever that of a source that is not in the catalog, or
that is over another topic.

## Main definitions

* `LastRegistered`: the source that a history leaves for a topic.
* `Catalog.Sound`: every claim is that of a source over the topic.

## Main statements

* `Catalog.Sound.after`: the claims are sound after every run.
* `Catalog.claims_tell_history`: the sources that are found for topics after a run are those that
  its history leaves.
-/

namespace Sluice

/-! ## Histories -/

/-- The source is that of the most recent registration against a topic, and its name has not been
removed since. -/
def LastRegistered (events : List Event) (topic : String) (s : Source) : Prop :=
  ∃ earlier event since, events = earlier ++ event :: since ∧
    event.Registers s ∧ s.topic.name = topic ∧
    (∀ e ∈ since, ∀ s', e.Registers s' → s'.topic.name ≠ topic) ∧
    ∀ e ∈ since, ¬e.Removes s.name

section

variable {events : List Event} {last : Event} {topic : String} {s : Source}

/-- It is the source of the latest registration, if that has not been removed since. -/
theorem lastRegistered_iff :
    LastRegistered events topic s ↔
      ∃ since, LatestAgainst events topic s since ∧ ∀ e ∈ since, ¬e.Removes s.name := by
  constructor
  · rintro ⟨earlier, event, since, split, registers, onTopic, noLater, noRemoval⟩
    exact ⟨since, ⟨earlier, event, split, registers, onTopic, noLater⟩, noRemoval⟩
  · rintro ⟨since, ⟨earlier, event, split, registers, onTopic, noLater⟩, noRemoval⟩
    exact ⟨earlier, event, since, split, registers, onTopic, noLater, noRemoval⟩

theorem not_lastRegistered_nil : ¬LastRegistered [] topic s := by
  rw [lastRegistered_iff]
  rintro ⟨since, latest, -⟩
  exact not_latestAgainst_nil latest

/-- After one more event, the source is either registered by that event or was the one before, with
neither a registration against the topic nor its removal coming between. -/
theorem lastRegistered_concat_iff :
    LastRegistered (events ++ [last]) topic s ↔
      (last.Registers s ∧ s.topic.name = topic) ∨
      (LastRegistered events topic s ∧ (∀ s', last.Registers s' → s'.topic.name ≠ topic) ∧
        ¬last.Removes s.name) := by
  simp only [lastRegistered_iff, latestAgainst_concat_iff]
  constructor
  · -- the latest registration is the last event, or it came before and the last event does not
    -- replace it
    rintro ⟨since, ⟨rfl, registers, onTopic⟩ | ⟨before, rfl, latest, other⟩, noRemoval⟩
    · exact .inl ⟨registers, onTopic⟩
    · rw [List.forall_mem_append, List.forall_mem_singleton] at noRemoval
      exact .inr ⟨⟨before, latest, noRemoval.1⟩, other, noRemoval.2⟩
  · rintro (⟨registers, onTopic⟩ | ⟨⟨before, latest, noRemoval⟩, other, kept⟩)
    · exact ⟨[], .inl ⟨rfl, registers, onTopic⟩, by simp⟩
    · refine ⟨before ++ [last], .inr ⟨before, rfl, latest, other⟩, ?_⟩
      rw [List.forall_mem_append, List.forall_mem_singleton]
      exact ⟨noRemoval, kept⟩

end

namespace Catalog

/-! ## Claims -/

/-- Sources stand under their names, and every claim is that of a source over the topic. -/
structure Sound (c : Catalog) : Prop where
  name_eq : ∀ n s, c.source? n = some s → s.name = n
  claimant : ∀ (t : String) n, c.claims[t]? = some n → ∃ s, c.source? n = some s ∧ s.topic.name = t

variable {c d : Catalog} {s : Source} {topic : String} {event : Event}

theorem sound_empty : empty.Sound where
  name_eq n s hs := by simp at hs
  claimant t n hn := by simp at hn

/-- A source is found for a topic when it is in the catalog under its name, and has the claim. -/
theorem Sound.sourceForTopic?_eq_some_iff (h : c.Sound) :
    c.sourceForTopic? topic = some s ↔
      c.claims[topic]? = some s.name ∧ c.source? s.name = some s := by
  rw [sourceForTopic?, Option.bind_eq_some_iff]
  constructor
  · rintro ⟨n, claimed, found⟩
    obtain rfl := h.name_eq n s found
    exact ⟨claimed, found⟩
  · rintro ⟨claimed, found⟩
    exact ⟨s.name, claimed, found⟩

/-- The source that is found for a topic is in the catalog and is over that topic. -/
theorem Sound.of_sourceForTopic? (h : c.Sound) (found : c.sourceForTopic? topic = some s) :
    c.source? s.name = some s ∧ s.topic.name = topic := by
  obtain ⟨claimed, present⟩ := h.sourceForTopic?_eq_some_iff.mp found
  obtain ⟨s', present', onTopic⟩ := h.claimant topic s.name claimed
  obtain rfl := Option.some.inj (present.symm.trans present')
  exact ⟨present, onTopic⟩

/-- A name that is free has no claims. -/
theorem Sound.ne_of_free (h : c.Sound) {name claimant : String} (free : c.source? name = none)
    (claimed : c.claims[topic]? = some claimant) : name ≠ claimant := by
  rintro rfl
  obtain ⟨s, found, -⟩ := h.claimant topic name claimed
  rw [free] at found
  cases found

/-- Whatever an event changes, claims stay sound. -/
theorem Sound.change (h : c.Sound) (change : c.Change event d) : d.Sound := by
  cases change with
  | registered s₀ registers free sources claims =>
    constructor
    · -- a source that comes in stands under its name
      intro n s hs
      rw [sources] at hs
      split at hs
      · obtain rfl := Option.some.inj hs
        assumption
      · exact h.name_eq n s hs
    · -- its topic is claimed for it, and the other claims are as before
      intro t n hn
      rw [claims] at hn
      split at hn
      · obtain rfl := Option.some.inj hn
        exact ⟨s₀, by simp [sources], ‹_›⟩
      · obtain ⟨s, found, onTopic⟩ := h.claimant t n hn
        -- the claim is not that of the new source, whose name was free
        have other : s₀.name ≠ n := h.ne_of_free free hn
        exact ⟨s, by rw [sources, if_neg other, found], onTopic⟩
  | removed name s₀ removes present sources claims =>
    -- no other source changes its place
    constructor
    · intro n s hs
      rw [sources] at hs
      split at hs
      · cases hs
      · exact h.name_eq n s hs
    · -- the claim that goes is that of the source
      intro t n hn
      rw [claims] at hn
      split at hn
      · cases hn
      · rename_i kept
        obtain ⟨s, found, onTopic⟩ := h.claimant t n hn
        -- had the source that goes the claim, it would be over the topic and take it along
        have other : name ≠ n := by
          rintro rfl
          obtain rfl := Option.some.inj (present.symm.trans found)
          exact kept ⟨onTopic, hn⟩
        exact ⟨s, by rw [sources, if_neg other, found], onTopic⟩
  | kept noRegistration noRemoval sources claims =>
    constructor
    · intro n s hs
      exact h.name_eq n s (sources n ▸ hs)
    · intro t n hn
      obtain ⟨s, found, onTopic⟩ := h.claimant t n (claims t ▸ hn)
      exact ⟨s, by rw [sources, found], onTopic⟩

-- bare commands on topics change neither
/-- Claims are sound after every run of commands. -/
theorem Sound.after (h : c.Sound) (commands : List Command) : (c.after commands).Sound := by
  induction commands generalizing c with
  | nil => exact h
  | cons command rest ih => exact ih (h.change (change_event c command))

/-! ## What is found for a topic -/

/-- The source that comes in is found for its topic; for other topics the same is found as before,
as no claim was waiting for the name. -/
theorem Sound.sourceForTopic?_of_registered (h : c.Sound) (free : c.source? s.name = none)
    (sources : ∀ n, d.source? n = if s.name = n then some s else c.source? n)
    (claims : ∀ t : String, d.claims[t]? = if s.topic.name = t then some s.name else c.claims[t]?) :
    d.sourceForTopic? topic =
      if s.topic.name = topic then some s else c.sourceForTopic? topic := by
  unfold sourceForTopic?
  rw [claims]
  -- either the topic is its own, or the claim on it is another one
  split
  · show d.source? s.name = some s
    rw [sources, if_pos rfl]
  · cases claimed : c.claims[topic]? with
    | none => rfl
    | some n =>
      show d.source? n = c.source? n
      rw [sources, if_neg (h.ne_of_free free claimed)]

/-- When a source goes, the same is found for every topic as before, but for that source. -/
theorem Sound.sourceForTopic?_of_removed (h : c.Sound) {name : String}
    (present : c.source? name = some s)
    (sources : ∀ n, d.source? n = if name = n then none else c.source? n)
    (claims : ∀ t : String, d.claims[t]? =
      if s.topic.name = t ∧ c.claims[t]? = some name then none else c.claims[t]?) :
    d.sourceForTopic? topic = (c.sourceForTopic? topic).filter (·.name ≠ name) := by
  have named : s.name = name := h.name_eq name s present
  unfold sourceForTopic?
  rw [claims]
  split
  · rename_i taken
    -- the claim goes too
    simp [taken.2, present, Option.filter_some, named]
  · cases claimed : c.claims[topic]? with
    | none => rfl
    | some n =>
      show d.source? n = (c.source? n).filter _
      rw [sources]
      -- without the claim, the source that goes was not found here before
      by_cases same : name = n
      · rw [if_pos same, ← same, present]
        simp [Option.filter_some, named]
      · rw [if_neg same]
        cases found : c.source? n with
        | none => rfl
        | some s' => simp [Option.filter_some, h.name_eq n s' found, Ne.symm same]

/-- After one more event, the source that is found for a topic is either registered by that event or
was found before, with neither a registration against the topic nor its removal coming between. -/
theorem Sound.sourceForTopic?_change (h : c.Sound) (change : c.Change event d) :
    d.sourceForTopic? topic = some s ↔
      (event.Registers s ∧ s.topic.name = topic) ∨
      (c.sourceForTopic? topic = some s ∧ (∀ s', event.Registers s' → s'.topic.name ≠ topic) ∧
        ¬event.Removes s.name) := by
  -- by what the event changed
  cases change with
  | registered s₀ registers free sources claims =>
    have noRemoval : ¬event.Removes s.name := registers.not_removes
    rw [h.sourceForTopic?_of_registered free sources claims]
    simp only [registers.registers_iff, forall_eq, noRemoval, not_false_iff, and_true]
    split
    · -- the new source is the latest against its topic
      rename_i onTopic
      constructor
      · intro found
        obtain rfl := Option.some.inj found
        exact .inl ⟨rfl, onTopic⟩
      · rintro (⟨rfl, -⟩ | ⟨-, other⟩)
        · rfl
        · exact absurd onTopic other
    · -- and changes nothing for other topics
      rename_i other
      constructor
      · intro found
        exact .inr ⟨found, other⟩
      · rintro (⟨rfl, onTopic⟩ | ⟨found, -⟩)
        · exact absurd onTopic other
        · exact found
  | removed name s₀ removes present sources claims =>
    have noRegistration : ∀ s', ¬event.Registers s' := fun s' h' => h'.not_removes removes
    rw [h.sourceForTopic?_of_removed present sources claims, Option.filter_eq_some_iff]
    simp [noRegistration, removes.removes_iff]
  | kept noRegistration noRemoval sources claims =>
    have same : d.sourceForTopic? topic = c.sourceForTopic? topic := by
      rw [sourceForTopic?, sourceForTopic?, claims, funext sources]
    simp [same, noRegistration, noRemoval]

/-- The sources that are found for topics are those that the history leaves. -/
theorem sourceForTopic?_after_iff (commands : List Command) :
    (empty.after commands).sourceForTopic? topic = some s ↔
      LastRegistered (empty.log commands) topic s := by
  -- by the last event, since both sides are told from the end of the run
  induction commands using List.reverseRecOn generalizing s with
  | nil =>
    apply iff_of_false
    · show ¬empty.sourceForTopic? topic = some s
      simp [sourceForTopic?]
    · exact not_lastRegistered_nil
  | append_singleton commands last ih =>
    have sound : (empty.after commands).Sound := sound_empty.after commands
    rw [after_concat, log_concat, lastRegistered_concat_iff,
      sound.sourceForTopic?_change (change_event _ last), ih]

/-- The reverse index of topics tells the history of registrations. After every run of commands from
the empty catalog, the source that is found for a topic is that of the most recent registration
against the topic, if its name has not been removed since. A source that is found is in the catalog
under its name and is over the topic, and every claim on a topic is that of a source that is
found. -/
theorem claims_tell_history (commands : List Command) (topic : String) :
    let c := empty.after commands
    (∀ s, c.sourceForTopic? topic = some s ↔ LastRegistered (empty.log commands) topic s) ∧
      (∀ s, c.sourceForTopic? topic = some s → c.source? s.name = some s ∧ s.topic.name = topic) ∧
      ∀ name, c.claims[topic]? = some name →
        ∃ s, c.sourceForTopic? topic = some s ∧ s.name = name := by
  intro c
  have sound : c.Sound := sound_empty.after commands
  -- soundness holds after every run, so every claim leads to a source
  refine ⟨fun s => sourceForTopic?_after_iff commands, fun s => sound.of_sourceForTopic?, ?_⟩
  intro name claimed
  obtain ⟨s, found, -⟩ := sound.claimant topic name claimed
  obtain rfl := sound.name_eq name s found
  exact ⟨s, sound.sourceForTopic?_eq_some_iff.mpr ⟨claimed, found⟩, rfl⟩

end Catalog

end Sluice
