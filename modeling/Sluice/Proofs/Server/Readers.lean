import Mathlib.Data.List.Induction
import Sluice.Proofs.Admission.Requirement
import Sluice.Proofs.Server.Coherence

/-!
# Sources belong to readers of their topics

The gate takes the topic of a declaration from its properties; a query is checked against the topic
of the source in the catalog. If every declaration is checked right before it is carried out, the
two are the same topic: whoever created a source was allowed to read that topic, and nobody gets a
query on the source admitted without being allowed to read it. A declaration without a topic passes
the gate unchecked, but then it creates nothing.

Decisions may lapse between the requests: they expire, or make room for others.

## Main definitions

* `Turn`, `Server.takeAll`: a request after some decisions have lapsed, and a run of such turns.
* `Server.decision`: how an access is decided at the moment.
* `Server.Guarded`: every declaration is carried out right after it was admitted.

## Main statements

* `Server.created_by_readers`: the sources of a guarded run belong to readers of their topics.
-/

namespace Sluice

/-! ## Decisions behind an admission -/

/-- Every access among demands that are met is allowed. -/
theorem Demand.allowed_of_outcome {table : AccessKey → Bool} {p topic : String}
    {operation : AclOperation} {demands : List Demand}
    (met : Demand.outcome table p demands = .ok ())
    (demanded : .access topic operation ∈ demands) : table ⟨p, topic, operation⟩ = true := by
  have noFailure : demands.findSome? (Demand.failure table p) = none := by
    unfold Demand.outcome at met
    split at met
    · assumption
    · cases met
  have := List.findSome?_eq_none_iff.mp noFailure _ demanded
  simpa [Demand.failure] using this

namespace Statement

variable {statement : Statement} {catalog : Catalog} {table : AccessKey → Bool} {p topic : String}

/-- The leaves of a statement whose demands are met all resolve. -/
theorem resolved_of_outcome (met : Demand.outcome table p (statement.demands catalog) = .ok ()) :
    catalog.firstUnresolved statement.reads = none := by
  cases h : catalog.firstUnresolved statement.reads with
  | none => rfl
  | some name =>
    -- the unresolved leaf is the first demand
    rw [demands_eq, readDemands_of_unresolved h] at met
    cases met

/-- A statement whose demands are met may read every topic that it requires READ on. -/
theorem allowed_of_requires (met : Demand.outcome table p (statement.demands catalog) = .ok ())
    (required : statement.Requires catalog topic .read) : table ⟨p, topic, .read⟩ = true := by
  obtain ⟨names, hnames, -, hmem⟩ := readDemands_of_resolved (resolved_of_outcome met)
  apply Demand.allowed_of_outcome met
  rw [demands_eq, hnames, List.mem_append]
  exact .inl (List.mem_map_of_mem ((hmem topic).mpr required))

end Statement

/-! ## Turns -/

/-- The authorizer with only those decisions that have not lapsed. -/
def Authorizer.lapse (a : Authorizer) (stays : AccessKey → Bool) : Authorizer :=
  { a with decisions := a.decisions.filter fun decision => stays decision.1 }

/-- A request, and which decisions still stay when it is served. -/
structure Turn where
  stays : AccessKey → Bool
  request : Request

namespace Server

/-- The server after some of its decisions have lapsed. -/
def lapse (server : Server) (stays : AccessKey → Bool) : Server :=
  { server with authorizer := server.authorizer.map (·.lapse stays) }

/-- The server after a turn. -/
def take (server : Server) (turn : Turn) : Server :=
  (server.lapse turn.stays).serve turn.request

/-- The server after turns, one after the other. -/
def takeAll (server : Server) (turns : List Turn) : Server :=
  turns.foldl take server

/-- How an access of a user is decided at the moment, if statements are checked at all: by the
decision kept, or else by what the broker reports. -/
def decision (server : Server) (broker : Broker) (user : Option String) (topic : String)
    (operation : AclOperation) : Option Bool :=
  server.authorizer.map (·.table broker ⟨principal user, topic, operation⟩)

variable {server : Server} {turns : List Turn}

@[simp]
theorem catalog_lapse (stays : AccessKey → Bool) : (server.lapse stays).catalog = server.catalog :=
  rfl

@[simp]
theorem takeAll_append (turns turns' : List Turn) :
    server.takeAll (turns ++ turns') = (server.takeAll turns).takeAll turns' :=
  List.foldl_append

theorem takeAll_singleton (turn : Turn) : server.takeAll [turn] = server.take turn :=
  rfl

/-- A server that checks statements goes on checking them. -/
theorem isSome_authorizer_take (checks : server.authorizer.isSome) (turn : Turn) :
    (server.take turn).authorizer.isSome := by
  obtain ⟨a, ha⟩ := Option.isSome_iff_exists.mp checks
  obtain ⟨stays, request⟩ := turn
  cases request with
  | create d registry => simp [take, serve, create, withCatalog, lapse, ha]
  | drop name ifExists => simp [take, serve, drop, withCatalog, lapse, ha]
  | validate broker user statement => simp [take, serve, validate, lapse, ha]

theorem isSome_authorizer_takeAll (checks : server.authorizer.isSome) (turns : List Turn) :
    (server.takeAll turns).authorizer.isSome := by
  induction turns generalizing server with
  | nil => exact checks
  | cons turn rest ih => exact ih (isSome_authorizer_take checks turn)

/-- A statement that is admitted may read every topic that it requires READ on. -/
theorem decision_of_validate (checks : server.authorizer.isSome) {broker : Broker}
    {user : Option String} {statement : Statement} {topic : String}
    (admitted : (server.validate broker user statement).1 = .ok ())
    (required : statement.Requires server.catalog topic .read) :
    server.decision broker user topic .read = some true := by
  obtain ⟨a, ha⟩ := Option.isSome_iff_exists.mp checks
  -- admitted means that all demands were met
  have met : Demand.outcome (a.table broker) (principal user)
      (statement.demands server.catalog) = .ok () := by
    simp only [validate, ha] at admitted
    rw [← Authorizer.meet_result]
    cases h : (a.meet broker (principal user) (statement.demands server.catalog)).result with
    | ok u => rfl
    | error e => simp [Authorizer.check, h, Except.mapError] at admitted
  simp [decision, ha, Statement.allowed_of_requires met required]

end Server

/-! ## Sources that appear and stay -/

/-- A declared source is over the topic that its declaration names. -/
theorem CreateSource.brokerTopic_of_toSource {d : CreateSource} {registry : Option String}
    {s : Source} (h : d.toSource registry = .ok s) :
    d.properties.brokerTopic = some s.topic.brokerName := by
  obtain ⟨brokerName, schema, keyField, timestamp, named, -, -, -, rfl⟩ := toSource_eq_ok_iff.mp h
  exact named

namespace Catalog

variable {c : Catalog}

/-- A declaration without a topic creates nothing. -/
theorem create_of_no_topic {d : CreateSource} (h : d.properties.brokerTopic = none)
    (registry : Option String) :
    (c.create d registry).2 = c ∧ ∀ s, (c.create d registry).1 ≠ .ok (some s) := by
  rcases create_cases c d registry with ⟨t, ht, -, -⟩ | ⟨answer, hanswer, hcreate⟩
  · rw [CreateSource.brokerTopic_of_toSource ht] at h
    cases h
  · rw [hcreate]
    exact ⟨rfl, hanswer⟩

end Catalog

/-! ## Guarded runs -/

/-- A declaration that is checked for a user and carried out right after. -/
structure CheckedCreation where
  broker : Broker
  user : Option String
  declaration : CreateSource
  registry : Option String
  /-- the decisions that stay until the check -/
  staysFirst : AccessKey → Bool
  /-- the decisions that stay until the declaration is carried out -/
  staysThen : AccessKey → Bool

namespace CheckedCreation

variable (c : CheckedCreation)

/-- The turn that checks the declaration. -/
def check : Turn :=
  ⟨c.staysFirst, .validate c.broker c.user (.createSource c.declaration)⟩

/-- The turn that carries the declaration out. -/
def execution : Turn :=
  ⟨c.staysThen, .create c.declaration c.registry⟩

/-- The check admits the declaration. -/
def Admitted (server : Server) : Prop :=
  ((server.lapse c.staysFirst).validate c.broker c.user (.createSource c.declaration)).1 = .ok ()

end CheckedCreation

namespace Server

/-- Every declaration is carried out right after it was checked and admitted. -/
def Guarded (server : Server) (turns : List Turn) : Prop :=
  ∀ earlier stays d registry later, turns = earlier ++ ⟨stays, .create d registry⟩ :: later →
    ∃ before, ∃ c : CheckedCreation, c.execution = ⟨stays, .create d registry⟩ ∧
      earlier = before ++ [c.check] ∧ c.Admitted (server.takeAll before)

/-- A source comes from a checked creation, whose user was allowed to read its topic, and has been
in the catalog ever since. -/
def ComesFrom (server : Server) (turns : List Turn) (name : String) (source : Source)
    (c : CheckedCreation) : Prop :=
  ∃ before later, turns = before ++ c.check :: c.execution :: later ∧
    -- carrying the declaration out created the source
    (((server.takeAll (before ++ [c.check])).lapse c.staysThen).create c.declaration c.registry).1 =
      .ok (some source) ∧
    -- at the check, the decision about its topic was to allow
    ((server.takeAll before).lapse c.staysFirst).decision c.broker c.user source.topic.brokerName
      .read = some true ∧
    -- and it was found after every turn since
    ∀ since, since <+: later →
      (server.takeAll (before ++ c.check :: c.execution :: since)).catalog.source? name =
        some source

variable {server : Server} {turns : List Turn} {turn : Turn} {name : String} {source : Source}

theorem Guarded.of_append {turns' : List Turn} (h : server.Guarded (turns ++ turns')) :
    server.Guarded turns := by
  rintro earlier stays d registry later rfl
  exact h earlier stays d registry (later ++ turns') (by simp)

/-- A source that was there before a turn and is there after it comes from the same creation. -/
theorem ComesFrom.append_singleton {c : CheckedCreation} (h : server.ComesFrom turns name source c)
    (found : (server.takeAll (turns ++ [turn])).catalog.source? name = some source) :
    server.ComesFrom (turns ++ [turn]) name source c := by
  obtain ⟨before, later, rfl, created, allowed, stayed⟩ := h
  -- the turns since the creation are those before, or all of them with the new one
  refine ⟨before, later ++ [turn], by simp, created, allowed, ?_⟩
  intro since hsince
  rcases List.prefix_concat_iff.mp hsince with rfl | hsince
  · simpa using found
  · exact stayed since hsince

/-- Every source that a guarded run leaves comes from a checked creation. -/
theorem comesFrom_of_guarded (empty : server.catalog = .empty) (checks : server.authorizer.isSome)
    (guarded : server.Guarded turns)
    (found : (server.takeAll turns).catalog.source? name = some source) :
    ∃ c, server.ComesFrom turns name source c := by
  -- by the last turn
  induction turns using List.reverseRecOn with
  | nil =>
    rw [takeAll, List.foldl_nil, empty, Catalog.source?_empty] at found
    cases found
  | append_singleton turns turn ih =>
    -- the source was there before the last turn, or the last turn created it
    have old (h : (server.takeAll turns).catalog.source? name = some source) :
        ∃ c, server.ComesFrom (turns ++ [turn]) name source c := by
      obtain ⟨c, hc⟩ := ih guarded.of_append h
      exact ⟨c, hc.append_singleton found⟩
    have found' := found
    rw [takeAll_append, takeAll_singleton] at found'
    obtain ⟨stays, request⟩ := turn
    cases request with
    | validate broker user statement =>
      apply old
      rwa [take, serve, catalog_validate] at found'
    | drop dropped ifExists => exact old (Catalog.source?_drop found')
    | create d registry =>
      rcases Catalog.source?_create found' with h | ⟨created, declared, -⟩
      · exact old h
      · -- what the last turn created was checked in the turn before, as the run is guarded
        obtain ⟨before, c, hc, rfl, admitted⟩ := guarded turns stays d registry [] rfl
        obtain ⟨rfl, hd⟩ := Turn.mk.inj hc
        obtain ⟨rfl, rfl⟩ := Request.create.inj hd
        refine ⟨c, before, [], by simp [CheckedCreation.execution], ?_, ?_, ?_⟩
        · simpa [create] using created
        · -- the check was about the topic of the source
          have checks' : ((server.takeAll before).lapse c.staysFirst).authorizer.isSome := by
            simpa [lapse] using isSome_authorizer_takeAll checks before
          exact decision_of_validate checks' admitted
            (.named (CreateSource.brokerTopic_of_toSource declared))
        · intro since hsince
          obtain rfl := List.prefix_nil.mp hsince
          simpa [CheckedCreation.execution] using found

/-- The sources of a guarded run belong to readers of their topics: whoever created one was allowed
to read its topic, and so is everyone who gets a statement that reads it admitted. A declaration
without a topic is admitted unchecked and creates nothing. -/
theorem created_by_readers {config : Config} (enabled : config.authorizationEnabled = true)
    (started : start config = .ok server) (guarded : server.Guarded turns) :
    let reached := server.takeAll turns
    (∀ name source, reached.catalog.source? name = some source →
      (∃ c, server.ComesFrom turns name source c) ∧
      ∀ stays broker user statement, name ∈ Statement.reads statement →
        ((reached.lapse stays).validate broker user statement).1 = .ok () →
          (reached.lapse stays).decision broker user source.topic.brokerName .read = some true) ∧
    ∀ d : CreateSource, d.properties.brokerTopic = none →
      (∀ broker user, reached.validate broker user (.createSource d) = (.ok (), [], reached)) ∧
      ∀ registry, (reached.create d registry).2 = reached ∧
        ∀ s, (reached.create d registry).1 ≠ .ok (some s) := by
  intro reached
  -- a server that is started with checks enabled has an authorizer, and keeps it
  have checks : server.authorizer.isSome := by
    unfold start at started
    rw [if_pos enabled, map_eq_ok_iff] at started
    obtain ⟨a, -, rfl⟩ := started
    rfl
  have checksReached : reached.authorizer.isSome := isSome_authorizer_takeAll checks turns
  refine ⟨?_, ?_⟩
  · intro name source found
    refine ⟨comesFrom_of_guarded (catalog_start started) checks guarded found, ?_⟩
    intro stays broker user statement named admitted
    have checks' : (reached.lapse stays).authorizer.isSome := by
      simpa [lapse] using checksReached
    exact decision_of_validate checks' admitted (.leaf named found)
  · intro d noTopic
    -- such a declaration demands nothing, and fails for want of a topic
    obtain ⟨a, ha⟩ := Option.isSome_iff_exists.mp checksReached
    refine ⟨?_, ?_⟩
    · intro broker user
      have unchanged : { reached with authorizer := some a } = reached := by rw [← ha]
      simp only [validate, ha, Authorizer.check, Statement.demands, noTopic, Authorizer.meet]
      rw [unchanged]
      rfl
    · intro registry
      obtain ⟨unchanged, nothing⟩ :=
        Catalog.create_of_no_topic (c := reached.catalog) noTopic registry
      refine ⟨?_, nothing⟩
      show reached.withCatalog (reached.catalog.create d registry).2 = reached
      rw [unchanged]
      rfl

/-- The law at a run in which a source is dropped and created again by someone else over another
topic. -/
theorem created_by_readers_again :
    let config : Config := {}
    let server : Server := ⟨config, .empty, some { keeps := true, decisions := [] }⟩
    let reads (topic : String) : Broker := fun t =>
      if t = topic then .operations [.read] else .failed
    let orders (topic : String) : CreateSource :=
      ⟨.stream, "ORDERS", [("ID", .primitive .bigint)], false, { brokerTopic := some topic }⟩
    let all : AccessKey → Bool := fun _ => true
    let first : CheckedCreation := ⟨reads "orders", some "alice", orders "orders", none, all, all⟩
    let second : CheckedCreation :=
      ⟨reads "payments", some "bob", orders "payments", none, all, all⟩
    let turns := [first.check, first.execution, ⟨all, .drop "ORDERS" false⟩, second.check,
      second.execution]
    config.authorizationEnabled = true ∧ start config = .ok server ∧ server.Guarded turns ∧
      ∃ source, (server.takeAll turns).catalog.source? "ORDERS" = some source ∧
        source.topic.brokerName = "payments" ∧ (∃ c, server.ComesFrom turns "ORDERS" source c) ∧
        ∀ broker user limit,
          let query := Statement.query ⟨[.wildcard], .source "ORDERS" none, limit⟩
          (((server.takeAll turns).lapse all).validate broker user query).1 = .ok () →
            ((server.takeAll turns).lapse all).decision broker user "payments" .read =
              some true := by
  intro config server reads orders all first second turns
  -- each of the two creations was checked by a user who may read the topic
  have started : start config = .ok server := rfl
  have admitted : first.Admitted server := rfl
  have admitted' : second.Admitted
      (server.takeAll [first.check, first.execution, ⟨all, .drop "ORDERS" false⟩]) := rfl
  have guarded : server.Guarded turns := by
    intro earlier stays d registry later h
    -- only the second and the last turn create a source
    rcases earlier with _ | ⟨t₁, _ | ⟨t₂, _ | ⟨t₃, _ | ⟨t₄, _ | ⟨t₅, rest⟩⟩⟩⟩⟩
    · simp [turns, CheckedCreation.check] at h
    · simp only [turns, List.cons_append, List.nil_append, List.cons.injEq] at h
      obtain ⟨rfl, h, -⟩ := h
      exact ⟨[], first, h, rfl, admitted⟩
    · simp [turns] at h
    · simp [turns, CheckedCreation.check] at h
    · simp only [turns, List.cons_append, List.nil_append, List.cons.injEq] at h
      obtain ⟨rfl, rfl, rfl, rfl, h, -⟩ := h
      exact ⟨_, second, h, rfl, admitted'⟩
    · simp [turns] at h
  obtain ⟨s, hs, hname, htopic⟩ : ∃ s, (orders "orders").toSource none = .ok s ∧
    s.name = "ORDERS" ∧ s.topic.name = "ORDERS" := ⟨_, rfl, rfl, rfl⟩
  obtain ⟨t, ht, hname', hbroker⟩ : ∃ t, (orders "payments").toSource none = .ok t ∧
    t.name = "ORDERS" ∧ t.topic.brokerName = "payments" := ⟨_, rfl, rfl, rfl⟩
  have entered : (Catalog.empty.enter s).Coherent :=
    Catalog.coherent_empty.enter (htopic.trans hname.symm) (CreateSource.toSource_spec hs).2.2
  have dropped : (Catalog.empty.enter s).removeSource "ORDERS" =
      (some s, (Catalog.empty.enter s).forget "ORDERS") := entered.removeSource (by simp [hname])
  -- the second source is found, as the first one was dropped
  have found : (server.takeAll turns).catalog.source? "ORDERS" = some t := by
    simp [takeAll, turns, take, serve, CheckedCreation.check, CheckedCreation.execution, first,
      second, server, Server.create, Server.drop, withCatalog, Catalog.create, Catalog.drop,
      Catalog.satisfies, Catalog.registerSource_eq, catalog_validate, dropped, hs, ht, hname,
      hname', orders]
  have law := created_by_readers rfl started guarded
  obtain ⟨comesFrom, admission⟩ := law.1 "ORDERS" t found
  refine ⟨rfl, started, guarded, t, found, hbroker, comesFrom, ?_⟩
  intro broker user limit query admitted
  rw [← hbroker]
  exact admission all broker user query (List.mem_singleton.mpr rfl) admitted

end Server

end Sluice
