import Sluice.Proofs.Statement.Leaves

/-!
# Topics as a fold over the leaves

The topics of a query are collected along its `FROM` tree, but the tree has no say in what comes of
it: collecting is a fold over the leaves from left to right, which adds the topic of one leaf after
the other and stops at the first that does not resolve. Join trees of any nesting over the same
leaves therefore read from the same topics, whatever else the queries say.

## Main definitions

* `Catalog.addTopic`: one step of the fold.

## Main statements

* `Relation.collectTopics_eq_foldlM`: collecting the topics of a relation is that fold.
* `Query.topics_of_leaves`: the topics of a query, told by its leaves.
-/

namespace Sluice

instance : Std.TransCmp Topic.order :=
  inferInstanceAs (Std.TransCmp <| compareLex (compareOn Topic.name) <|
    compareLex (compareOn Topic.brokerName) <|
      compareLex (compareOn (·.format.rank)) (compareOn (·.compacted.toNat)))

/-! ## The fold -/

namespace Catalog

variable {catalog : Catalog} {name : String} {names : List String} {topics found : List Topic}

/-- Adds the topic of the source of a name to the topics found before it. -/
def addTopic (catalog : Catalog) (topics : List Topic) (name : String) :
    Except ResolutionError (List Topic) :=
  match catalog.source? name with
  | some s => .ok (insertDistinct Topic.order s.topic topics)
  | none => .error (.unknownSource name)

/-- One step keeps the topics in strictly increasing order. -/
theorem pairwise_of_addTopic (ordered : topics.Pairwise (Topic.order · · = .lt))
    (h : catalog.addTopic topics name = .ok found) :
    found.Pairwise (Topic.order · · = .lt) := by
  unfold addTopic at h
  split at h
  · obtain rfl := Except.ok.inj h
    exact pairwise_insertDistinct ordered
  · cases h

/-- The fold keeps them in order too. -/
theorem pairwise_of_foldlM (ordered : topics.Pairwise (Topic.order · · = .lt))
    (h : names.foldlM catalog.addTopic topics = .ok found) :
    found.Pairwise (Topic.order · · = .lt) := by
  -- the invariant goes along the names: each step starts from what the one before has found
  induction names generalizing topics with
  | nil =>
    obtain rfl := Except.ok.inj h
    exact ordered
  | cons name rest ih =>
    rw [List.foldlM_cons] at h
    obtain ⟨next, added, h⟩ := bind_eq_ok_iff.mp h
    exact ih (pairwise_of_addTopic ordered added) h

end Catalog

/-- Collecting the topics of a relation is the fold over its leaves. -/
theorem Relation.collectTopics_eq_foldlM (catalog : Catalog) (r : Relation) (topics : List Topic) :
    (r.collectTopics catalog topics).map (·.2) = r.leaves.foldlM catalog.addTopic topics := by
  -- by the relation, from left to right
  induction r generalizing topics with
  | source name newName =>
    rw [leaves, List.foldlM_cons, collectTopics, Catalog.addTopic]
    cases catalog.source? name <;> rfl
  | join kind left right on ihLeft ihRight =>
    rw [leaves, List.foldlM_append, ← ihLeft, collectTopics]
    -- the fold over the leaves on the right goes on from what the left relation found
    cases left.collectTopics catalog topics with
    | error e => rfl
    | ok result =>
      obtain ⟨primary, found⟩ := result
      show _ = right.leaves.foldlM catalog.addTopic found
      rw [← ihRight]
      cases h : right.collectTopics catalog found <;>
        simp [bind, Except.bind, pure, Except.pure, Except.map, h]

/-! ## Queries -/

namespace Query

variable {q q' : Query} {catalog : Catalog}

/-- The topics of a query are those of its relation, found from nothing. -/
theorem sourceTopics_eq (q : Query) (catalog : Catalog) :
    q.sourceTopics catalog =
      (q.from_.collectTopics catalog []).map fun (primary, topics) => ⟨primary, topics⟩ := by
  unfold sourceTopics
  cases q.from_.collectTopics catalog [] <;> rfl

/-- The topics of a query are the fold over the leaves of its relation. -/
theorem map_sourceTopics_eq_foldlM (q : Query) (catalog : Catalog) :
    (q.sourceTopics catalog).map (·.topics) = q.from_.leaves.foldlM catalog.addTopic [] := by
  rw [← Relation.collectTopics_eq_foldlM, sourceTopics_eq]
  cases q.from_.collectTopics catalog [] <;> rfl

/-- The first leaf that does not resolve fails the query. -/
theorem sourceTopics_of_unresolved {name : String}
    (h : catalog.firstUnresolved q.from_.leaves = some name) :
    q.sourceTopics catalog = .error (.unknownSource name) := by
  rw [sourceTopics_eq, Relation.collectTopics_of_unresolved h]
  rfl

/-- If every leaf resolves, the first one has the primary topic, and the topics are those of all
leaves, each once and in order. -/
theorem sourceTopics_of_resolved (h : catalog.firstUnresolved q.from_.leaves = none) :
    ∃ t, q.sourceTopics catalog = .ok t ∧
      (q.from_.leaves.head?.bind catalog.source?).map (·.topic) = some t.primary ∧
      t.topics.Pairwise (Topic.order · · = .lt) ∧
      ∀ topic, topic ∈ t.topics ↔
        ∃ name ∈ q.from_.leaves, ∃ s, catalog.source? name = some s ∧ s.topic = topic := by
  obtain ⟨primary, topics, collected, first, members⟩ :=
    Relation.collectTopics_of_resolved h []
  have found : q.sourceTopics catalog = .ok ⟨primary, topics⟩ := by
    rw [sourceTopics_eq, collected]
    rfl
  -- the same fold, which keeps the topics in order
  have folded := map_sourceTopics_eq_foldlM q catalog
  rw [found] at folded
  refine ⟨⟨primary, topics⟩, found, first, ?_, ?_⟩
  · exact Catalog.pairwise_of_foldlM List.Pairwise.nil folded.symm
  · intro topic
    simpa using members topic

/-- Queries over the same leaves have the same topics, or fail alike. -/
theorem sourceTopics_congr (same : q'.from_.leaves = q.from_.leaves) :
    q'.sourceTopics catalog = q.sourceTopics catalog := by
  -- whether a leaf fails is told from the leaves
  cases h : catalog.firstUnresolved q.from_.leaves with
  | some name =>
    rw [sourceTopics_of_unresolved h, sourceTopics_of_unresolved (same ▸ h)]
  | none =>
    obtain ⟨t, found, first, -⟩ := sourceTopics_of_resolved h
    obtain ⟨t', found', first', -⟩ := sourceTopics_of_resolved (q := q') (same ▸ h)
    -- the primary topics are that of the first leaf, and the topics come of the same fold
    have primary : t'.primary = t.primary := by
      rw [same, first] at first'
      exact (Option.some.inj first').symm
    have topics : t'.topics = t.topics := by
      have folded := map_sourceTopics_eq_foldlM q' catalog
      rw [same, ← map_sourceTopics_eq_foldlM, found, found'] at folded
      exact Except.ok.inj folded
    have equal : t' = t := congrArg₂ SourceTopics.mk primary topics
    rw [found, found', equal]

/-- The topics of a query are a fold over the leaves of its `FROM` tree. The first leaf that does
not resolve is the error. If there is none, the query has the topic of the first leaf for its
primary one, and for topics those of the leaves, in strictly increasing order. Nothing but the
leaves counts, in particular not the nesting of the tree. -/
theorem topics_of_leaves (q : Query) (catalog : Catalog) :
    (q.sourceTopics catalog).map (·.topics) = q.from_.leaves.foldlM catalog.addTopic [] ∧
    (∀ name, catalog.firstUnresolved q.from_.leaves = some name →
      q.sourceTopics catalog = .error (.unknownSource name)) ∧
    (catalog.firstUnresolved q.from_.leaves = none →
      ∃ t, q.sourceTopics catalog = .ok t ∧
        (q.from_.leaves.head?.bind catalog.source?).map (·.topic) = some t.primary ∧
        t.primary ∈ t.topics ∧ t.topics.Pairwise (Topic.order · · = .lt) ∧
        ∀ topic, topic ∈ t.topics ↔
          ∃ name ∈ q.from_.leaves, ∃ s, catalog.source? name = some s ∧ s.topic = topic) ∧
    ∀ q' : Query, q'.from_.leaves = q.from_.leaves →
      q'.sourceTopics catalog = q.sourceTopics catalog := by
  refine ⟨map_sourceTopics_eq_foldlM q catalog, fun name => sourceTopics_of_unresolved, ?_,
    fun q' => sourceTopics_congr⟩
  intro resolved
  obtain ⟨t, found, first, ordered, members⟩ := sourceTopics_of_resolved resolved
  have mem : t.primary ∈ t.topics := by
    -- the first leaf is one of the leaves, and its topic one of theirs
    obtain ⟨s, hs, onTopic⟩ := Option.map_eq_some_iff.mp first
    obtain ⟨name, head, resolves⟩ := Option.bind_eq_some_iff.mp hs
    exact (members t.primary).mpr ⟨name, List.mem_of_head? head, s, resolves, onTopic⟩
  exact ⟨t, found, first, mem, ordered, members⟩

end Query

end Sluice
