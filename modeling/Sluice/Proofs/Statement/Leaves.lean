import Sluice.Proofs.Except
import Sluice.Statement.Topics

/-!
# The leaves of a query

A query reads from the sources at the leaves of its `FROM` tree. Its topics are those of the
leaves, unless some leaf does not resolve: then the query fails with the first such leaf from the
left.

## Main definitions

* `Relation.leaves`: the source names of a relation, from left to right.
* `Catalog.firstUnresolved`: the first of some names that no source has.

## Main statements

* `Relation.collectTopics_of_unresolved`, `Relation.collectTopics_of_resolved`: the two ways in
  which collecting topics ends.
* `SourceTopics.pairwise_brokerNames`, `SourceTopics.mem_brokerNames`: the broker names, each once
  and in order.
-/

namespace Sluice

/-! ## Ordered insertion -/

section Insertion

variable {α : Type} {order : α → α → Ordering} {a b : α} {l : List α}

theorem mem_insertDistinct [Std.LawfulEqCmp order] :
    b ∈ insertDistinct order a l ↔ b = a ∨ b ∈ l := by
  -- by the list, along which the item is compared
  induction l with
  | nil => simp [insertDistinct]
  | cons c rest ih =>
    unfold insertDistinct
    split
    · simp
    · -- the item is in the list already
      rename_i same
      obtain rfl := Std.LawfulEqCmp.eq_of_compare same
      simp
    · rw [List.mem_cons, ih, List.mem_cons]
      tauto

/-- Inserting keeps a list in strictly increasing order. -/
theorem pairwise_insertDistinct [Std.TransCmp order] [Std.LawfulEqCmp order]
    (h : l.Pairwise (order · · = .lt)) :
    (insertDistinct order a l).Pairwise (order · · = .lt) := by
  -- by the list
  induction l with
  | nil => simp [insertDistinct]
  | cons c rest ih =>
    obtain ⟨least, ordered⟩ := List.pairwise_cons.mp h
    unfold insertDistinct
    split
    · rename_i before
      refine List.pairwise_cons.mpr ⟨?_, h⟩
      intro b hb
      rcases List.mem_cons.mp hb with rfl | hb
      · exact before
      · exact Std.TransCmp.lt_trans before (least b hb)
    · exact h
    · rename_i after
      refine List.pairwise_cons.mpr ⟨?_, ih ordered⟩
      -- the head stays least: what is behind it is the item or was there before
      intro b hb
      rcases mem_insertDistinct.mp hb with rfl | hb
      · exact Std.OrientedCmp.gt_iff_lt.mp after
      · exact least b hb

end Insertion

/-- Topics that the order does not tell apart are equal. -/
instance : Std.LawfulEqCmp Topic.order where
  compare_self {a} := by simp [Topic.order]
  eq_of_compare {a b} h := by
    obtain ⟨name, brokerName, format, compacted⟩ := a
    obtain ⟨name', brokerName', format', compacted'⟩ := b
    simp only [Topic.order, Ordering.then_eq_eq, Std.LawfulEqCmp.compare_eq_iff_eq] at h
    obtain ⟨rfl, rfl, hformat, hcompacted⟩ := h
    obtain rfl : format = format' := by cases format <;> cases format' <;> simp_all [Format.rank]
    obtain rfl : compacted = compacted' := by cases compacted <;> cases compacted' <;> simp_all
    rfl

/-! ## Broker names -/

namespace SourceTopics

variable {t : SourceTopics}

/-- The broker names stand in strictly increasing order, so each stands once. -/
theorem pairwise_brokerNames : t.brokerNames.Pairwise (· < ·) := by
  have ordered : t.brokerNames.Pairwise (compare · · = .lt) := by
    unfold brokerNames
    induction t.topics with
    | nil => simp
    | cons topic rest ih => exact pairwise_insertDistinct ih
  exact ordered.imp fun h => compareOfLessAndEq_eq_lt.mp h

theorem mem_brokerNames {name : String} :
    name ∈ t.brokerNames ↔ ∃ topic ∈ t.topics, topic.brokerName = name := by
  unfold brokerNames
  induction t.topics with
  | nil => simp
  | cons topic rest ih =>
    rw [List.foldr_cons, mem_insertDistinct, ih]
    simp [eq_comm]

end SourceTopics

/-! ## Resolving the leaves -/

/-- The source names of a relation, from left to right. -/
def Relation.leaves : Relation → List String
  | .source name _ => [name]
  | .join _ left right _ => left.leaves ++ right.leaves

/-- The first of some names that no source has. -/
def Catalog.firstUnresolved (catalog : Catalog) (names : List String) : Option String :=
  names.find? fun name => (catalog.source? name).isNone

/-- All of some names are those of sources when none is the first that is not. -/
theorem Catalog.firstUnresolved_eq_none_iff {catalog : Catalog} {names : List String} :
    catalog.firstUnresolved names = none ↔ ∀ name ∈ names, ∃ s, catalog.source? name = some s := by
  simp [firstUnresolved, Option.ne_none_iff_exists']

theorem Catalog.firstUnresolved_append {catalog : Catalog} {names names' : List String} :
    catalog.firstUnresolved (names ++ names') =
      (catalog.firstUnresolved names).or (catalog.firstUnresolved names') :=
  List.find?_append

namespace Relation

variable {catalog : Catalog} {r : Relation}

/-- If every leaf resolves, the topics found are those of the leaves, and the primary one is that
of the first leaf. -/
theorem collectTopics_of_resolved (h : catalog.firstUnresolved r.leaves = none)
    (topics : List Topic) :
    ∃ primary found, r.collectTopics catalog topics = .ok (primary, found) ∧
      (r.leaves.head?.bind catalog.source?).map (·.topic) = some primary ∧
      ∀ t, t ∈ found ↔
        t ∈ topics ∨ ∃ name ∈ r.leaves, ∃ s, catalog.source? name = some s ∧ s.topic = t := by
  induction r generalizing topics with
  | source name newName =>
    obtain ⟨s, hs⟩ := Catalog.firstUnresolved_eq_none_iff.mp h name (by simp [leaves])
    refine ⟨s.topic, insertDistinct Topic.order s.topic topics, ?_, ?_, ?_⟩
    · simp [collectTopics, hs]
    · simp [leaves, hs]
    · intro t
      simp only [mem_insertDistinct, leaves, List.mem_singleton, exists_eq_left, hs,
        Option.some.injEq, exists_eq_left']
      tauto
  | join kind left right on ihLeft ihRight =>
    rw [leaves, Catalog.firstUnresolved_append, Option.or_eq_none_iff] at h
    -- the right relation adds to the topics found in the left one
    obtain ⟨primary, found, hleft, hprimary, hfound⟩ := ihLeft h.1 topics
    obtain ⟨_, found', hright, -, hfound'⟩ := ihRight h.2 found
    refine ⟨primary, found', ?_, ?_, ?_⟩
    · simp [collectTopics, hleft, hright, bind, Except.bind, pure, Except.pure]
    · -- the left relation has a leaf, so the first leaf is on that side
      cases hl : left.leaves with
      | nil => simp [hl] at hprimary
      | cons name rest => simpa [leaves, hl] using hprimary
    · intro t
      rw [hfound', hfound, leaves]
      simp only [List.mem_append, or_and_right, exists_or, or_assoc]

/-- If some leaf does not resolve, the first such leaf is the error. -/
theorem collectTopics_of_unresolved {name : String}
    (h : catalog.firstUnresolved r.leaves = some name) (topics : List Topic) :
    r.collectTopics catalog topics = .error (.unknownSource name) := by
  induction r generalizing topics with
  | source leaf newName =>
    cases hs : catalog.source? leaf with
    | none =>
      obtain rfl : leaf = name := by simpa [Catalog.firstUnresolved, leaves, hs] using h
      simp [collectTopics, hs]
    | some s => simp [Catalog.firstUnresolved, leaves, hs] at h
  | join kind left right on ihLeft ihRight =>
    rw [leaves, Catalog.firstUnresolved_append, Option.or_eq_some_iff] at h
    -- the first leaf that does not resolve is on the left, or all those resolve
    rcases h with hleft | ⟨hleft, hright⟩
    · simp [collectTopics, ihLeft hleft, bind, Except.bind]
    · -- the right relation is reached only if the left one resolves
      obtain ⟨primary, found, hfound, -⟩ := collectTopics_of_resolved hleft topics
      simp [collectTopics, hfound, ihRight hright, bind, Except.bind]

end Relation

end Sluice
