import Sluice.Proofs.Server.Requests

/-!
# The indexes of a server agree

A server that only creates and drops sources keeps every source, its topic and its claim under one
name. The three indexes therefore hold the same names, a source and its topic are found from either
side, and dropping a source takes back exactly what creating it did.

## Main statements

* `Catalog.Coherent`: the agreement of the indexes.
* `Server.coherent_after_requests`: it holds after every run of requests on a new server, and
  dropping what was just created restores the server.
-/

namespace Sluice

/-- The three indexes agree: they hold the same names, and under each name there is a source of
that name over a topic of that name, which claims its topic. -/
structure Catalog.Coherent (c : Catalog) : Prop where
  sources_iff_topics : ∀ n, n ∈ c.sources ↔ n ∈ c.topics
  topics_iff_claims : ∀ n, n ∈ c.topics ↔ n ∈ c.claims
  name_eq : ∀ n s, c.source? n = some s → s.name = n
  topicName_eq : ∀ n s, c.source? n = some s → s.topic.name = n
  topic?_eq : ∀ n s, c.source? n = some s → c.topic? n = some s.topic
  sourceForTopic?_eq : ∀ n s, c.source? n = some s → c.sourceForTopic? n = some s
  columnsExist : ∀ n s, c.source? n = some s → s.ColumnsExist

namespace Catalog

namespace Coherent

variable {c : Catalog} {n : String} {s : Source}

/-! ## What agreement says of single look-ups -/

/-- A source claims the topic of its name. -/
theorem claims_eq (h : c.Coherent) (hs : c.source? n = some s) : c.claims[n]? = some n := by
  obtain ⟨holder, hclaim, hholder⟩ := Option.bind_eq_some_iff.mp (h.sourceForTopic?_eq n s hs)
  have : holder = n := (h.name_eq holder s hholder).symm.trans (h.name_eq n s hs)
  rw [hclaim, this]

/-- A name without a source has no topic either. -/
theorem topic?_eq_none (h : c.Coherent) (hn : c.source? n = none) : c.topic? n = none := by
  cases ht : c.topic? n with
  | none => rfl
  | some t =>
    obtain ⟨s, hs⟩ := mem_sources_iff.mp ((h.sources_iff_topics n).mpr (mem_topics_iff.mpr ⟨t, ht⟩))
    rw [hn] at hs
    cases hs

/-- A name without a source claims nothing. -/
theorem claims_eq_none (h : c.Coherent) (hn : c.source? n = none) : c.claims[n]? = none := by
  cases hc : c.claims[n]? with
  | none => rfl
  | some holder =>
    have claimed : n ∈ c.claims := mem_claims_iff.mpr ⟨holder, hc⟩
    obtain ⟨s, hs⟩ := mem_sources_iff.mp
      ((h.sources_iff_topics n).mpr ((h.topics_iff_claims n).mpr claimed))
    rw [hn] at hs
    cases hs

/-- Agreement, put together from the look-ups of one name at a time. -/
theorem of_lookups
    (present : ∀ n s, c.source? n = some s → s.name = n ∧ s.topic.name = n ∧ s.ColumnsExist ∧
      c.topic? n = some s.topic ∧ c.claims[n]? = some n)
    (absent : ∀ n, c.source? n = none → c.topic? n = none ∧ c.claims[n]? = none) :
    c.Coherent where
  sources_iff_topics n := by
    rw [mem_sources_iff, mem_topics_iff]
    -- either the name is in all indexes, or in none
    cases hs : c.source? n with
    | none =>
      obtain ⟨noTopic, -⟩ := absent n hs
      simp [noTopic]
    | some s =>
      obtain ⟨-, -, -, topic, -⟩ := present n s hs
      simp [topic]
  topics_iff_claims n := by
    rw [mem_topics_iff, mem_claims_iff]
    cases hs : c.source? n with
    | none =>
      obtain ⟨noTopic, noClaim⟩ := absent n hs
      simp [noTopic, noClaim]
    | some s =>
      obtain ⟨-, -, -, topic, claim⟩ := present n s hs
      simp [topic, claim]
  name_eq n s hs := (present n s hs).1
  topicName_eq n s hs := (present n s hs).2.1
  topic?_eq n s hs := (present n s hs).2.2.2.1
  sourceForTopic?_eq n s hs := by
    obtain ⟨-, -, -, -, claim⟩ := present n s hs
    simp [sourceForTopic?, claim, hs]
  columnsExist n s hs := (present n s hs).2.2.1

/-! ## Each change keeps agreement -/

/-- Entering a source over a topic of its own name keeps agreement. -/
theorem enter (h : c.Coherent) (htopic : s.topic.name = s.name) (hcolumns : s.ColumnsExist) :
    (c.enter s).Coherent := by
  apply of_lookups
  · -- under the new name everything is new, and elsewhere everything is as it was
    intro n t ht
    by_cases hn : s.name = n
    · -- the source found is the one entered
      obtain rfl : s = t := by simpa [hn] using ht
      simp [htopic, hn, hcolumns]
    · have old : c.source? n = some t := by simpa [hn] using ht
      refine ⟨h.name_eq n t old, h.topicName_eq n t old, h.columnsExist n t old, ?_, ?_⟩
      · simpa [htopic, hn] using h.topic?_eq n t old
      · simpa [htopic, hn] using h.claims_eq old
  · intro n ht
    have hn : s.name ≠ n := by
      intro hn
      simp [hn] at ht
    have old : c.source? n = none := by simpa [hn] using ht
    simp [htopic, hn, h.topic?_eq_none old, h.claims_eq_none old]

/-- Forgetting a name in all indexes keeps agreement. -/
theorem forget (h : c.Coherent) (name : String) : (c.forget name).Coherent := by
  apply of_lookups
  · intro n t ht
    -- a source that is found has another name than the one that is forgotten
    have hn : name ≠ n := by
      intro hn
      simp [hn] at ht
    have old : c.source? n = some t := by simpa [hn] using ht
    refine ⟨h.name_eq n t old, h.topicName_eq n t old, h.columnsExist n t old, ?_, ?_⟩
    · simpa [hn] using h.topic?_eq n t old
    · simpa [hn] using h.claims_eq old
  · intro n ht
    by_cases hn : name = n
    · simp [hn]
    · have old : c.source? n = none := by simpa [hn] using ht
      simp [hn, h.topic?_eq_none old, h.claims_eq_none old]

/-- Removing a source forgets its name: it holds its own claim, and no other source uses its
topic. -/
theorem removeSource (h : c.Coherent) (hs : c.source? n = some s) :
    c.removeSource n = (some s, c.forget n) := by
  -- the claim goes with the source that holds it
  have released : { c with sources := c.sources.erase n }.releaseClaim n n =
      { c.forget n with topics := c.topics } := by
    simp [releaseClaim, h.claims_eq hs, Catalog.forget]
  have unused : { c.forget n with topics := c.topics }.uses n = false := by
    rw [Bool.eq_false_iff, Ne, uses_iff]
    rintro ⟨m, t, ht, hname⟩
    -- the topic of another source has the name of that source
    have hm : (c.forget n).source? m = some t := ht
    rw [source?_forget] at hm
    split at hm
    · cases hm
    · rename_i hne
      exact hne (hname.symm.trans (h.topicName_eq m t hm))
  rw [removeSource_of_some hs, h.topicName_eq n s hs]
  simp only [released, unused]
  rfl

/-- Creating a source keeps agreement. -/
theorem create (h : c.Coherent) (d : CreateSource) (registry : Option String) :
    (c.create d registry).2.Coherent := by
  rcases create_cases c d registry with ⟨s, hs, -, hcreate⟩ | ⟨answer, -, hcreate⟩
  · obtain ⟨hname, htopic, hcolumns⟩ := CreateSource.toSource_spec hs
    rw [hcreate]
    exact h.enter (htopic.trans hname.symm) hcolumns
  · rw [hcreate]
    exact h

/-- Dropping a source keeps agreement. -/
theorem drop (h : c.Coherent) (name : String) (ifExists : Bool) :
    (c.drop name ifExists).2.Coherent := by
  rcases drop_cases c name ifExists with ⟨s, hs, hdrop⟩ | ⟨-, hdrop⟩
  · rw [hdrop, h.removeSource hs]
    exact h.forget name
  · rw [hdrop]
    exact h

end Coherent

theorem coherent_empty : empty.Coherent :=
  Coherent.of_lookups (by simp) (by simp)

/-- Forgetting what was entered under a free name leaves the catalog as it was. -/
theorem Coherent.forget_enter {c : Catalog} {s : Source} (h : c.Coherent)
    (hfree : c.source? s.name = none) (htopic : s.topic.name = s.name) :
    (c.enter s).forget s.name = c := by
  have htopics := h.topic?_eq_none hfree
  have hclaims := h.claims_eq_none hfree
  -- under the name itself all three indexes were empty before
  apply ext_lookup
  · intro n
    by_cases hn : s.name = n
    · simp [← hn, hfree]
    · simp [hn]
  · intro n
    by_cases hn : s.name = n
    · simp [← hn, htopics]
    · simp [htopic, hn]
  · intro n
    by_cases hn : s.name = n
    · simp [← hn, hclaims]
    · simp [htopic, hn]

/-- Dropping a source right after it was created restores the catalog. -/
theorem Coherent.drop_create {c : Catalog} {d : CreateSource} {registry : Option String}
    {s : Source} (h : c.Coherent) (created : (c.create d registry).1 = .ok (some s))
    (ifExists : Bool) : (c.create d registry).2.drop d.name ifExists = (.ok (), c) := by
  rcases create_cases c d registry with ⟨t, ht, hfree, hcreate⟩ | ⟨answer, hanswer, hcreate⟩
  · obtain ⟨hname, htopic, hcolumns⟩ := CreateSource.toSource_spec ht
    have entered : (c.enter t).Coherent := h.enter (htopic.trans hname.symm) hcolumns
    -- what was created is dropped again, and its name was free before
    have found : (c.enter t).source? d.name = some t := by simp [hname]
    rw [hcreate]
    simp only [Catalog.drop, entered.removeSource found]
    rw [← hname] at hfree ⊢
    rw [h.forget_enter hfree (htopic.trans hname.symm)]
  · rw [hcreate] at created
    exact absurd created (hanswer s)

end Catalog

/-- After any run of requests on a new server the indexes of its catalog agree, and dropping a
source right after it was created restores the server. -/
theorem Server.coherent_after_requests {config : Config} {server : Server}
    (started : start config = .ok server) (requests : List Request) :
    (server.serveAll requests).catalog.Coherent ∧
      ∀ d registry s ifExists,
        ((server.serveAll requests).create d registry).1 = .ok (some s) →
          ((server.serveAll requests).create d registry).2.drop d.name ifExists =
            (.ok (), server.serveAll requests) := by
  -- the empty catalog agrees, and each request keeps agreement
  have coherent : (server.serveAll requests).catalog.Coherent := by
    apply serveAll_keeps (fun c d registry h => h.create d registry)
      (fun c name ifExists h => h.drop name ifExists)
    rw [catalog_start started]
    exact Catalog.coherent_empty
  refine ⟨coherent, ?_⟩
  intro d registry s ifExists created
  have restored := coherent.drop_create created ifExists
  simp only [Server.create, Server.drop, withCatalog]
  rw [restored]

/-- The agreement at a run in which a taken name and a missing source are refused. -/
theorem Server.coherent_after_refusals :
    let server : Server := ⟨{ authorizationEnabled := false }, .empty, none⟩
    let clicks : CreateSource := ⟨.stream, "CLICKS", [("ID", .primitive .bigint)], false,
      { brokerTopic := some "clicks", key := some "ID" }⟩
    let orders : CreateSource := ⟨.table, "ORDERS", [("ID", .primitive .bigint)], false,
      { brokerTopic := some "orders", timestamp := some "ID" }⟩
    let reached := server.serveAll [.create clicks none, .create clicks none, .drop "ORDERS" false]
    start server.config = .ok server ∧ reached.catalog.Coherent ∧
      ∃ s, (reached.create orders none).1 = .ok (some s) ∧
        (reached.create orders none).2.drop "ORDERS" false = (.ok (), reached) := by
  intro server clicks orders reached
  have started : start server.config = .ok server := rfl
  have law := coherent_after_requests started
    [.create clicks none, .create clicks none, .drop "ORDERS" false]
  obtain ⟨s, hs, hname⟩ : ∃ s, orders.toSource none = .ok s ∧ s.name = "ORDERS" := ⟨_, rfl, rfl⟩
  obtain ⟨t, ht, hname'⟩ : ∃ t, clicks.toSource none = .ok t ∧ t.name = "CLICKS" := ⟨_, rfl, rfl⟩
  have created : (reached.create orders none).1 = .ok (some s) := by
    simp [reached, server, serveAll, serve, Server.create, Server.drop, withCatalog, Catalog.create,
      Catalog.drop, Catalog.satisfies, Catalog.registerSource_eq, Catalog.removeSource_of_none,
      hs, ht, hname, hname', orders, clicks]
  exact ⟨started, law.1, s, created, law.2 orders none s false created⟩

end Sluice
