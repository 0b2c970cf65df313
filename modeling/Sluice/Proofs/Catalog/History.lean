import Mathlib.Data.List.Induction
import Sluice.Proofs.Catalog.Change

/-!
# The latest registration against a topic

Sources are registered against topics, and of the registrations against one topic only the latest
tells what the catalog says of that topic. A history of events is cut there: the registration, and
the events since. There is one such cut for a topic that any source was ever registered against.

## Main definitions

* `LatestAgainst`: the source of the latest registration against a topic, and the events since.

## Main statements

* `latestAgainst_concat_iff`: what one more event does to the cut.
* `LatestAgainst.unique`, `exists_latestAgainst`: there is exactly one.
-/

namespace Sluice

/-- The most recent registration against a topic is that of the source, and the events `since` came
after it. -/
def LatestAgainst (events : List Event) (topic : String) (s : Source) (since : List Event) : Prop :=
  ∃ earlier event, events = earlier ++ event :: since ∧
    event.Registers s ∧ s.topic.name = topic ∧
    ∀ e ∈ since, ∀ s', e.Registers s' → s'.topic.name ≠ topic

variable {events since since' : List Event} {event last : Event} {topic : String} {s s' : Source}

theorem not_latestAgainst_nil : ¬LatestAgainst [] topic s since := by
  rintro ⟨earlier, event, split, -⟩
  simp at split

/-- After one more event, the latest registration is that event, or the one that was the latest
before if the event is no registration against the topic. -/
theorem latestAgainst_concat_iff :
    LatestAgainst (events ++ [last]) topic s since ↔
      (since = [] ∧ last.Registers s ∧ s.topic.name = topic) ∨
      ∃ before, since = before ++ [last] ∧ LatestAgainst events topic s before ∧
        ∀ s', last.Registers s' → s'.topic.name ≠ topic := by
  constructor
  · -- the events since the registration are none, or end with the last one
    rintro ⟨earlier, event, split, registers, onTopic, noLater⟩
    rcases since.eq_nil_or_concat with rfl | ⟨before, e, rfl⟩
    · -- the registration is the last event
      obtain ⟨rfl, same⟩ := List.append_inj' split rfl
      obtain ⟨rfl, -⟩ := List.cons.inj same
      exact .inl ⟨rfl, registers, onTopic⟩
    · -- it is an earlier one, and the last event is one of those since then
      rw [List.concat_eq_append] at split noLater ⊢
      rw [← List.cons_append, ← List.append_assoc] at split
      obtain ⟨rfl, same⟩ := List.append_inj' split rfl
      obtain ⟨rfl, -⟩ := List.cons.inj same
      rw [List.forall_mem_append, List.forall_mem_singleton] at noLater
      exact .inr ⟨before, rfl, ⟨earlier, event, rfl, registers, onTopic, noLater.1⟩, noLater.2⟩
  · rintro (⟨rfl, registers, onTopic⟩ | ⟨before, rfl, ⟨earlier, event, rfl, registers, onTopic,
      noLater⟩, noRegistration⟩)
    · exact ⟨events, last, rfl, registers, onTopic, by simp⟩
    · refine ⟨earlier, event, by simp, registers, onTopic, ?_⟩
      rw [List.forall_mem_append, List.forall_mem_singleton]
      exact ⟨noLater, noRegistration⟩

/-- An event that is no registration against the topic is one more since the latest. -/
theorem exists_latestAgainst_concat (other : ∀ s', last.Registers s' → s'.topic.name ≠ topic) :
    (∃ since, LatestAgainst (events ++ [last]) topic s since) ↔
      ∃ since, LatestAgainst events topic s since := by
  constructor
  · rintro ⟨since, latest⟩
    rcases latestAgainst_concat_iff.mp latest with ⟨-, registers, onTopic⟩ | ⟨before, -, latest, -⟩
    · exact absurd onTopic (other s registers)
    · exact ⟨before, latest⟩
  · rintro ⟨since, latest⟩
    exact ⟨since ++ [last], latestAgainst_concat_iff.mpr (.inr ⟨since, rfl, latest, other⟩)⟩

/-- A registration against the topic is the latest when it has just happened. -/
theorem exists_latestAgainst_of_registers (registers : last.Registers s) :
    (∃ since, LatestAgainst (events ++ [last]) s.topic.name s' since) ↔ s' = s := by
  constructor
  · rintro ⟨since, latest⟩
    rcases latestAgainst_concat_iff.mp latest with ⟨-, registers', -⟩ | ⟨-, -, -, other⟩
    · exact registers.registers_iff.mp registers'
    · exact absurd rfl (other s registers)
  · rintro rfl
    exact ⟨[], latestAgainst_concat_iff.mpr (.inl ⟨rfl, registers, rfl⟩)⟩

/-- There is only one latest registration against a topic. -/
theorem LatestAgainst.unique (h : LatestAgainst events topic s since)
    (h' : LatestAgainst events topic s' since') : s = s' ∧ since = since' := by
  -- by the last event, which is the latest registration in both or in neither
  induction events using List.reverseRecOn generalizing since since' with
  | nil => exact absurd h not_latestAgainst_nil
  | append_singleton events last ih =>
    rcases latestAgainst_concat_iff.mp h with ⟨rfl, registers, onTopic⟩ | ⟨before, rfl, h, other⟩
    · rcases latestAgainst_concat_iff.mp h' with ⟨rfl, registers', -⟩ | ⟨-, -, -, other'⟩
      · exact ⟨registers'.registers_iff.mp registers, rfl⟩
      · exact absurd onTopic (other' s registers)
    · rcases latestAgainst_concat_iff.mp h' with ⟨-, registers', onTopic'⟩ | ⟨before', rfl, h', -⟩
      · exact absurd onTopic' (other s' registers')
      · obtain ⟨rfl, rfl⟩ := ih h h'
        exact ⟨rfl, rfl⟩

/-- A topic that some source was registered against has a latest registration. -/
theorem exists_latestAgainst (happened : event ∈ events) (registers : event.Registers s) :
    ∃ s' since, LatestAgainst events s.topic.name s' since := by
  -- by the last event; if it registers against the topic, nothing comes after it
  induction events using List.reverseRecOn with
  | nil => simp at happened
  | append_singleton events last ih =>
    by_cases again : ∃ s', last.Registers s' ∧ s'.topic.name = s.topic.name
    · obtain ⟨s', registers', onTopic⟩ := again
      exact ⟨s', [], latestAgainst_concat_iff.mpr (.inl ⟨rfl, registers', onTopic⟩)⟩
    · -- the last event is no registration against the topic, so it is not the event itself
      have earlier : event ∈ events := by
        rcases List.mem_append.mp happened with earlier | atEnd
        · exact earlier
        · obtain rfl := List.mem_singleton.mp atEnd
          exact absurd ⟨s, registers, rfl⟩ again
      obtain ⟨s', since, latest⟩ := ih earlier
      refine ⟨s', since ++ [last], latestAgainst_concat_iff.mpr (.inr ⟨since, rfl, latest, ?_⟩)⟩
      intro s' registers' onTopic
      exact again ⟨s', registers', onTopic⟩

namespace Catalog

/-- Every source in the catalog after a run was registered in the run. -/
theorem exists_registers_of_source? (commands : List Command) {n : String}
    (present : (empty.after commands).source? n = some s) :
    ∃ event ∈ empty.log commands, event.Registers s := by
  -- by the last event: a source was there before it, or came in by it
  induction commands using List.reverseRecOn generalizing n with
  | nil =>
    change empty.source? n = some s at present
    simp at present
  | append_singleton commands last ih =>
    rw [after_concat] at present
    rw [log_concat]
    -- a source that was there before was registered before
    have old {n : String} (h : (empty.after commands).source? n = some s) :
        ∃ event ∈ empty.log commands ++ [(empty.after commands).event last],
          event.Registers s := by
      obtain ⟨event, happened, registers⟩ := ih h
      exact ⟨event, List.mem_append_left _ happened, registers⟩
    cases change_event (empty.after commands) last with
    | registered s₀ registers free sources claims =>
      rw [sources] at present
      split at present
      · obtain rfl := Option.some.inj present
        exact ⟨_, List.mem_append_right _ (List.mem_singleton_self _), registers⟩
      · exact old present
    | removed name s₀ removes found sources claims =>
      rw [sources] at present
      split at present
      · cases present
      · exact old present
    | kept noRegistration noRemoval sources claims =>
      rw [sources] at present
      exact old present

end Catalog

end Sluice
