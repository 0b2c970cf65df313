import Sluice.Proofs.Catalog.Claims

/-!
# Topics and the sources over them

Any number of sources may be over one topic. A catalog that is changed by registering and removing
sources only, each together with its topic, keeps a topic exactly as long as some source is over
it: no count is kept, but a removal looks whether any other source is left. The topic is as the
latest registration against it brought it, though that source may be gone.

The claim on a topic is not kept that long. It goes with its holder, and is not handed back to a
source that had it before. A source whose topic was claimed by a later one is therefore not found
for its topic, nor is any other, once that later one has been removed.

## Main definitions

* `Command.Whole`: the commands that treat a source and its topic together.
* `ClaimReleased`: the source of the latest registration against a topic has been removed since.

## Main statements

* `Catalog.topics_live_with_users`: a topic is there as long as a source is over it.
* `Catalog.found_iff_claim_stands`: some source is found for the topic of a source exactly when the
  claim on it has not been released.
* `Catalog.claim_lost_with_holder`: a catalog in which none is found.
-/

namespace Sluice

/-- The command registers a source with its topic, or removes one with its topic. -/
inductive Command.Whole : Command → Prop
  | register (s : Source) : Whole (.registerSource s)
  | remove (name : String) : Whole (.removeSource name)

/-- The source of the latest registration against the topic has been removed since. -/
def ClaimReleased (events : List Event) (topic : String) : Prop :=
  ∃ s since, LatestAgainst events topic s since ∧ ∃ e ∈ since, e.Removes s.name

namespace Catalog

variable {c d : Catalog} {s : Source} {name topic : String} {event : Event} {events : List Event}

/-! ## Whole changes -/

/-- What an event makes of a catalog when sources and topics are only changed together. -/
inductive WholeChange (c : Catalog) (event : Event) : Catalog → Prop
  /-- a source comes in under a free name with its topic -/
  | registered (s : Source) (registers : event.Registers s) (free : c.source? s.name = none) :
      WholeChange c event (c.enter s)
  /-- a source goes, and its topic with it if no other source is over that -/
  -- a name that is taken, or one that is free, is refused
  | removed (name : String) (s : Source) (removes : event.Removes name)
      (present : c.source? name = some s) : WholeChange c event (c.removeSource name).2
  /-- the command was refused -/
  | refused (noRegistration : ∀ s, ¬event.Registers s) : WholeChange c event c

/-- Registering and removing sources with their topics are whole changes. -/
theorem wholeChange_event {command : Command} (whole : command.Whole) (c : Catalog) :
    c.WholeChange (c.event command) (c.apply command).2 := by
  unfold event
  cases whole with
  | register s =>
    rw [apply, registerSource_eq]
    cases hs : c.source? s.name with
    | none => exact .registered s (.register s) hs
    | some t => exact .refused (by rintro _ ⟨⟩)
  | remove name =>
    show c.WholeChange ⟨.removeSource name, .source (c.removeSource name).1⟩
      (c.removeSource name).2
    cases hs : c.source? name with
    | none =>
      rw [removeSource_of_none hs]
      exact .refused (by rintro _ ⟨⟩)
    | some s =>
      have answer : (c.removeSource name).1 = some s := by rw [removeSource_of_some hs]
      rw [answer]
      exact .removed name s (.remove name s) hs

/-! ## Which topics are in use -/

/-- Entering a source puts its topic in use. -/
theorem uses_enter (free : c.source? s.name = none) :
    (c.enter s).uses topic ↔ s.topic.name = topic ∨ c.uses topic := by
  simp only [uses_iff, source?_enter]
  constructor
  · rintro ⟨n, s', found, onTopic⟩
    split at found
    · obtain rfl := Option.some.inj found
      exact .inl onTopic
    · exact .inr ⟨n, s', found, onTopic⟩
  · rintro (onTopic | ⟨n, s', found, onTopic⟩)
    · exact ⟨s.name, s, by simp, onTopic⟩
    · -- the name of the new source was free, so no other source makes way for it
      have other : s.name ≠ n := by
        rintro rfl
        rw [free] at found
        cases found
      exact ⟨n, s', by rw [if_neg other, found], onTopic⟩

/-- Removing a source leaves the topics of others in use. -/
theorem uses_removeSource (present : c.source? name = some s) (other : s.topic.name ≠ topic) :
    (c.removeSource name).2.uses topic ↔ c.uses topic := by
  simp only [uses_iff, source?_removeSource present]
  constructor
  · rintro ⟨n, s', found, onTopic⟩
    split at found
    · cases found
    · exact ⟨n, s', found, onTopic⟩
  · rintro ⟨n, s', found, onTopic⟩
    -- the source that goes is over another topic
    have different : name ≠ n := by
      rintro rfl
      obtain rfl := Option.some.inj (present.symm.trans found)
      exact other onTopic
    exact ⟨n, s', by rw [if_neg different, found], onTopic⟩

/-! ## Topics live as long as their users -/

/-- The topics of a catalog are those that its sources are over, as the latest registrations in its
history brought them. -/
structure TopicsTold (c : Catalog) (events : List Event) : Prop where
  inUse : ∀ t, (∃ topic, c.topic? t = some topic) ↔ c.uses t
  latest : ∀ t topic, c.topic? t = some topic →
    ∃ s, s.topic = topic ∧ ∃ since, LatestAgainst events t s since

theorem topicsTold_empty : empty.TopicsTold [] where
  inUse t := by simp [uses_iff]
  latest t topic h := by simp at h

/-- A whole change keeps the topics as they are told by the history. -/
theorem TopicsTold.change (h : c.TopicsTold events) (change : c.WholeChange event d) :
    d.TopicsTold (events ++ [event]) := by
  cases change with
  | registered s registers free =>
    constructor
    · intro t
      -- a topic is there when it was, or when the new source is over it
      rw [topic?_enter, uses_enter free, ← h.inUse]
      by_cases onTopic : s.topic.name = t
      · simp [onTopic]
      · simp [onTopic]
    · intro t topic found
      rw [topic?_enter] at found
      split at found
      · rename_i onTopic
        subst onTopic
        -- the topic that came in is that of the latest registration
        obtain rfl := Option.some.inj found
        exact ⟨s, rfl, (exists_latestAgainst_of_registers registers).mpr rfl⟩
      · rename_i other
        -- any other one is as old as its latest registration, which the event does not replace
        obtain ⟨s', same, latest⟩ := h.latest t topic found
        refine ⟨s', same, (exists_latestAgainst_concat ?_).mpr latest⟩
        intro s'' registers'
        rwa [registers.registers_iff.mp registers']
  | removed name s removes present =>
    constructor
    · intro t
      rw [topic?_removeSource present]
      by_cases onTopic : s.topic.name = t
      · by_cases used : (c.removeSource name).2.uses t
        · -- the source that went was over the topic too, so the topic was there
          simpa [used] using (h.inUse t).mpr (uses_iff.mpr ⟨name, s, present, onTopic⟩)
        · simp [used, onTopic]
      · simpa [onTopic, uses_removeSource present onTopic] using h.inUse t
    · intro t topic found
      rw [topic?_removeSource present] at found
      split at found
      · cases found
      · -- a removal registers nothing, so the latest registrations stay
        obtain ⟨s', same, latest⟩ := h.latest t topic found
        refine ⟨s', same, (exists_latestAgainst_concat ?_).mpr latest⟩
        intro s'' registers
        exact absurd removes registers.not_removes
  | refused noRegistration =>
    refine ⟨h.inUse, ?_⟩
    intro t topic found
    obtain ⟨s', same, latest⟩ := h.latest t topic found
    refine ⟨s', same, (exists_latestAgainst_concat ?_).mpr latest⟩
    intro s'' registers
    exact absurd registers (noRegistration s'')

/-- The topics are told by the history after every run of whole commands. -/
theorem topicsTold_after {commands : List Command} (whole : ∀ command ∈ commands, command.Whole) :
    (empty.after commands).TopicsTold (empty.log commands) := by
  induction commands using List.reverseRecOn with
  | nil => exact topicsTold_empty
  | append_singleton commands last ih =>
    rw [List.forall_mem_append, List.forall_mem_singleton] at whole
    rw [after_concat, log_concat]
    exact (ih whole.1).change (wholeChange_event whole.2 _)

/-- Topics live exactly as long as their users. After every run from the empty catalog that
registers and removes sources, refused or not, a topic is in the catalog if and only if at least one
source in the catalog is over it, and it is the topic that the most recent registration against it
carried. -/
theorem topics_live_with_users {commands : List Command}
    (whole : ∀ command ∈ commands, command.Whole) (t : String) :
    let c := empty.after commands
    ((∃ topic, c.topic? t = some topic) ↔ ∃ n s, c.source? n = some s ∧ s.topic.name = t) ∧
      ∀ topic, c.topic? t = some topic →
        ∃ s, s.topic = topic ∧ ∃ since, LatestAgainst (empty.log commands) t s since := by
  intro c
  have told : c.TopicsTold (empty.log commands) := topicsTold_after whole
  exact ⟨(told.inUse t).trans uses_iff, told.latest t⟩

/-- The law at a run in which a taken name is refused over another topic, and in which the source
that brought the topic goes before the one that shares it. -/
theorem topics_live_with_users_shared :
    let topic (broker : String) : Topic := ⟨"T", broker, .json, false⟩
    let source (name broker : String) : Source :=
      ⟨name, .stream, [], none, .metadata, topic broker, ""⟩
    let commands : List Command := [.registerSource (source "A" "first"),
      .registerSource (source "B" "second"),
      .registerSource { source "A" "third" with topic := ⟨"U", "third", .avro, false⟩ },
      .removeSource "B"]
    let c := empty.after commands
    (∀ command ∈ commands, command.Whole) ∧ c.topic? "T" = some (topic "second") ∧
      (∃ n s, c.source? n = some s ∧ s.topic.name = "T") ∧
      ∃ s, s.topic = topic "second" ∧ ∃ since, LatestAgainst (empty.log commands) "T" s since := by
  intro topic source commands c
  have whole : ∀ command ∈ commands, command.Whole := by
    simp only [commands, List.forall_mem_cons]
    exact ⟨.register _, .register _, .register _, .remove _, by simp⟩
  have law := topics_live_with_users whole "T"
  have found : c.topic? "T" = some (topic "second") := by decide
  exact ⟨whole, found, law.1.mp ⟨_, found⟩, law.2 _ found⟩

/-! ## Claims are not handed back -/

/-- A source that is found for the topic of a source in the catalog is itself in the catalog and is
over that topic. There is one exactly when the claim on the topic has not been released, in every
catalog that a run of commands makes. -/
theorem found_iff_claim_stands {commands : List Command} {n : String}
    (present : (empty.after commands).source? n = some s) :
    let c := empty.after commands
    (∃ s', c.sourceForTopic? s.topic.name = some s' ∧ c.source? s'.name = some s' ∧
        s'.topic.name = s.topic.name) ↔
      ¬ClaimReleased (empty.log commands) s.topic.name := by
  intro c
  constructor
  · rintro ⟨s', found, -⟩ ⟨holder, since, latest, e, later, removes⟩
    -- what is found is the latest registration, so it is its removal that came since
    obtain ⟨since', latest', noRemoval⟩ :=
      lastRegistered_iff.mp ((sourceForTopic?_after_iff commands).mp found)
    obtain ⟨rfl, rfl⟩ := latest.unique latest'
    exact noRemoval e later removes
  · -- if the claim stands, the latest registration has not been removed and is found
    intro stands
    obtain ⟨event, happened, registers⟩ := exists_registers_of_source? commands present
    obtain ⟨holder, since, latest⟩ := exists_latestAgainst happened registers
    have noRemoval : ∀ e ∈ since, ¬e.Removes holder.name := by
      intro e later removes
      exact stands ⟨holder, since, latest, e, later, removes⟩
    have found : c.sourceForTopic? s.topic.name = some holder :=
      (sourceForTopic?_after_iff commands).mpr (lastRegistered_iff.mpr ⟨since, latest, noRemoval⟩)
    have sound : c.Sound := sound_empty.after commands
    exact ⟨holder, found, sound.of_sourceForTopic? found⟩

/-- The law at a run in which the source that goes is not the one that has the claim. -/
theorem found_iff_claim_stands_displaced :
    let source (name : String) : Source :=
      ⟨name, .stream, [], none, .metadata, ⟨"T", "t", .json, false⟩, ""⟩
    let commands : List Command :=
      [.registerSource (source "A"), .registerSource (source "B"), .deleteSource "A"]
    let c := empty.after commands
    c.source? "B" = some (source "B") ∧ c.sourceForTopic? "T" = some (source "B") ∧
      ¬ClaimReleased (empty.log commands) "T" := by
  intro source commands c
  have present : c.source? "B" = some (source "B") := by decide
  have found : c.sourceForTopic? "T" = some (source "B") := by decide
  have stands : ¬ClaimReleased (empty.log commands) "T" :=
    (found_iff_claim_stands present).mp ⟨source "B", found, present, rfl⟩
  exact ⟨present, found, stands⟩

/-- Of two sources over one topic, the one registered last is removed: the other is in the catalog,
and so is the topic, but no source is found for it. -/
theorem claim_lost_with_holder :
    let source (name : String) : Source :=
      ⟨name, .stream, [], none, .metadata, ⟨"T", "t", .json, false⟩, ""⟩
    let c := empty.after
      [.registerSource (source "A"), .registerSource (source "B"), .removeSource "B"]
    c.source? "A" = some (source "A") ∧ c.topic? "T" = some (source "A").topic ∧
      c.sourceForTopic? "T" = none := by
  decide

end Catalog

end Sluice
