import Sluice.Proofs.Admission.Meeting
import Sluice.Proofs.Catalog.Lookup
import Sluice.Proofs.Statement.Leaves

/-!
# What admission requires

A statement requires READ on the topics it reads from and WRITE on the topic it writes to, all as
the broker knows them. The names at the leaves of its query have to resolve, and so does the target
if its topic has to be looked up. A new authorizer admits a statement exactly when all this holds,
and otherwise answers the first failure: a leaf that does not resolve, from the left, then READ, in
the order of the topics, then the target, then WRITE.

## Main definitions

* `Statement.Requires`: the accesses that a statement requires.
* `Statement.Admissible`, `Statement.FirstFailure`: when a statement is admitted, and why not.

## Main statements

* `Authorizer.check_new`: what a new authorizer answers about a statement.
-/

namespace Sluice

/-! ## What a broker grants -/

/-- A broker grants an access when it reports no operations, or the operation among others. -/
def Broker.Grants (broker : Broker) (topic : String) (operation : AclOperation) : Prop :=
  broker topic = .unreported ∨
    ∃ operations, broker topic = .operations operations ∧ operation ∈ operations

theorem Broker.grants_iff {broker : Broker} {topic : String} {operation : AclOperation} :
    broker.Grants topic operation ↔ (broker topic).allows operation = true := by
  unfold Grants TopicReport.allows
  cases broker topic with
  | operations granted => simp
  | unreported => simp
  | failed => simp

/-! ## The demands of a query -/

namespace Query

variable {q : Query} {catalog : Catalog}

/-- A leaf that does not resolve is all that a query demands. -/
theorem demands_of_unresolved {name : String}
    (h : catalog.firstUnresolved q.from_.leaves = some name) :
    q.demands catalog = [.unresolved (.unknownSource name)] := by
  simp [demands, sourceTopics, Relation.collectTopics_of_unresolved h, bind, Except.bind]

/-- The topics of a query whose leaves resolve are demanded in increasing order. -/
theorem demands_of_resolved (h : catalog.firstUnresolved q.from_.leaves = none) :
    ∃ names : List String, q.demands catalog = names.map (.access · .read) ∧
      names.Pairwise (· < ·) ∧
      ∀ topic, topic ∈ names ↔
        ∃ name ∈ q.from_.leaves, ∃ s, catalog.source? name = some s ∧
          s.topic.brokerName = topic := by
  obtain ⟨primary, topics, hcollect, -, hmem⟩ := Relation.collectTopics_of_resolved h []
  have hq : q.sourceTopics catalog = .ok ⟨primary, topics⟩ := by
    simp [sourceTopics, hcollect, bind, Except.bind, pure, Except.pure]
  refine ⟨(⟨primary, topics⟩ : SourceTopics).brokerNames, by simp [demands, hq],
    SourceTopics.pairwise_brokerNames, ?_⟩
  intro topic
  rw [SourceTopics.mem_brokerNames]
  constructor
  · rintro ⟨t, ht, rfl⟩
    -- the walk starts with no topics, so every topic is that of a leaf
    rcases (hmem t).mp ht with hnil | ⟨name, hname, s, hs, rfl⟩
    · cases hnil
    · exact ⟨name, hname, s, hs, rfl⟩
  · -- and the walk meets every leaf
    rintro ⟨name, hname, s, hs, rfl⟩
    exact ⟨s.topic, (hmem s.topic).mpr (.inr ⟨name, hname, s, hs, rfl⟩), rfl⟩

end Query

namespace Statement

/-! ## What a statement requires -/

/-- The query that a statement reads from. -/
def query? : Statement → Option Query
  | .query q | .insertInto _ q | .createAsSelect _ _ q _ => some q
  | _ => none

/-- The source names that a statement reads from, from left to right. -/
def reads (statement : Statement) : List String :=
  match statement.query? with
  | some q => q.from_.leaves
  | none => []

/-- The topic that a statement names to read from. -/
def namedTopic? : Statement → Option String
  | .printTopic topic _ _ _ => some topic
  | .createSource d => d.properties.brokerTopic
  | _ => none

/-- The topic that a statement names to write to. -/
def sinkTopic? : Statement → Option String
  | .createAsSelect _ _ _ properties => properties.brokerTopic
  | _ => none

/-- The stream or table that has to be looked up for the topic that a statement writes to. -/
def target? : Statement → Option String
  | .insertInto target _ => some target
  | .createAsSelect _ name _ properties => if properties.brokerTopic.isNone then some name else none
  | _ => none

/-- The accesses to topics, as the broker knows them, that a statement requires. -/
inductive Requires (statement : Statement) (catalog : Catalog) : String → AclOperation → Prop where
  | leaf {name : String} {s : Source} (read : name ∈ statement.reads)
      (found : catalog.source? name = some s) : Requires statement catalog s.topic.brokerName .read
  | named {topic : String} (given : statement.namedTopic? = some topic) :
      Requires statement catalog topic .read
  | target {name : String} {s : Source} (lookedUp : statement.target? = some name)
      (found : catalog.source? name = some s) : Requires statement catalog s.topic.brokerName .write
  | sink {topic : String} (given : statement.sinkTopic? = some topic) :
      Requires statement catalog topic .write

/-- Everything that a statement requires holds. -/
structure Admissible (statement : Statement) (catalog : Catalog) (broker : Broker) : Prop where
  reads : ∀ name ∈ statement.reads, ∃ s, catalog.source? name = some s
  target : ∀ name, statement.target? = some name → ∃ s, catalog.source? name = some s
  granted : ∀ topic operation, statement.Requires catalog topic operation →
    broker.Grants topic operation

/-- The topics that a statement reads from are all granted. -/
def Readable (statement : Statement) (catalog : Catalog) (broker : Broker) : Prop :=
  ∀ topic, statement.Requires catalog topic .read → broker.Grants topic .read

/-- The first thing that a statement requires and that does not hold. -/
inductive FirstFailure (statement : Statement) (catalog : Catalog) (broker : Broker) :
    AdmissionError → Prop where
  /-- the first leaf that does not resolve -/
  | unknownSource {name : String} (first : catalog.firstUnresolved statement.reads = some name) :
      FirstFailure statement catalog broker (.unresolved (.unknownSource name))
  /-- the least topic that may not be read -/
  | readDenied {topic : String} (resolved : catalog.firstUnresolved statement.reads = none)
      (required : statement.Requires catalog topic .read) (denied : ¬broker.Grants topic .read)
      (least : ∀ other, statement.Requires catalog other .read → other < topic →
        broker.Grants other .read) :
      FirstFailure statement catalog broker (.denied ⟨.read, topic⟩)
  /-- the target whose topic is unknown -/
  | unknownTarget {name : String} (resolved : catalog.firstUnresolved statement.reads = none)
      (readable : statement.Readable catalog broker) (lookedUp : statement.target? = some name)
      (missing : catalog.source? name = none) :
      FirstFailure statement catalog broker (.unresolved (.unknownTarget name))
  /-- the topic that may not be written to -/
  | writeDenied {topic : String} (resolved : catalog.firstUnresolved statement.reads = none)
      (readable : statement.Readable catalog broker)
      (required : statement.Requires catalog topic .write) (denied : ¬broker.Grants topic .write) :
      FirstFailure statement catalog broker (.denied ⟨.write, topic⟩)

variable {statement : Statement} {catalog : Catalog} {broker : Broker} {topic : String}

theorem requires_read_iff :
    statement.Requires catalog topic .read ↔
      (∃ name ∈ statement.reads, ∃ s, catalog.source? name = some s ∧ s.topic.brokerName = topic) ∨
        statement.namedTopic? = some topic := by
  -- reading is required of a topic under a leaf, or of the one that is named
  constructor
  · intro required
    cases required with
    | leaf read found => exact .inl ⟨_, read, _, found, rfl⟩
    | named given => exact .inr given
  · rintro (⟨name, read, s, found, rfl⟩ | given)
    · exact .leaf read found
    · exact .named given

theorem requires_write_iff :
    statement.Requires catalog topic .write ↔
      (∃ name s, statement.target? = some name ∧ catalog.source? name = some s ∧
        s.topic.brokerName = topic) ∨ statement.sinkTopic? = some topic := by
  constructor
  · intro required
    cases required with
    | target lookedUp found => exact .inl ⟨_, _, lookedUp, found, rfl⟩
    | sink given => exact .inr given
  · rintro (⟨name, s, lookedUp, found, rfl⟩ | given)
    · exact .target lookedUp found
    · exact .sink given

/-! ## The demands of a statement -/

/-- What a statement demands for reading. -/
def readDemands (statement : Statement) (catalog : Catalog) : List Demand :=
  match statement.query? with
  | some q => q.demands catalog
  | none => statement.namedTopic?.toList.map (.access · .read)

/-- What a statement demands for writing. -/
def writeDemands (statement : Statement) (catalog : Catalog) : List Demand :=
  match statement.target? with
  | some name => [catalog.writeDemand name]
  | none => statement.sinkTopic?.toList.map (.access · .write)

/-- A statement demands first what reading demands, and then what writing demands. -/
theorem demands_eq (statement : Statement) (catalog : Catalog) :
    statement.demands catalog =
      statement.readDemands catalog ++ statement.writeDemands catalog := by
  cases statement with
  | query q => simp [demands, readDemands, writeDemands, query?, target?, sinkTopic?]
  | createAsSelect kind name q properties =>
    cases h : properties.brokerTopic <;>
      simp [demands, readDemands, writeDemands, query?, target?, sinkTopic?, h]
  | createSource d =>
    cases h : d.properties.brokerTopic <;>
      simp [demands, readDemands, writeDemands, query?, namedTopic?, target?, sinkTopic?, h]
  | _ => rfl

/-- A statement that reads from a query names no other topic to read from. -/
theorem namedTopic?_of_query {q : Query} (h : statement.query? = some q) :
    statement.namedTopic? = none := by
  cases statement <;> first | rfl | cases h

/-- A statement whose target is looked up names no topic to write to. -/
theorem sinkTopic?_of_target {name : String} (h : statement.target? = some name) :
    statement.sinkTopic? = none := by
  cases statement with
  | createAsSelect kind sink q properties =>
    simp only [target?, Option.ite_none_right_eq_some, Option.isNone_iff_eq_none] at h
    exact h.1
  | _ => rfl

/-- A leaf that does not resolve is all that is demanded for reading. -/
theorem readDemands_of_unresolved {name : String}
    (h : catalog.firstUnresolved statement.reads = some name) :
    statement.readDemands catalog = [.unresolved (.unknownSource name)] := by
  cases hq : statement.query? with
  | none => simp [reads, hq, Catalog.firstUnresolved] at h
  | some q =>
    simp only [reads, hq] at h
    simp only [readDemands, hq, Query.demands_of_unresolved h]

/-- If all leaves resolve, READ is demanded on the topics that are read from, in increasing
order. -/
theorem readDemands_of_resolved (h : catalog.firstUnresolved statement.reads = none) :
    ∃ names : List String, statement.readDemands catalog = names.map (.access · .read) ∧
      names.Pairwise (· < ·) ∧ ∀ topic, topic ∈ names ↔ statement.Requires catalog topic .read := by
  cases hq : statement.query? with
  | none =>
    -- without a query only a named topic is demanded, and one topic is in order
    refine ⟨statement.namedTopic?.toList, by simp [readDemands, hq], ?_, ?_⟩
    · cases statement.namedTopic? <;> simp
    · intro topic
      rw [requires_read_iff, Option.mem_toList]
      simp [reads, hq]
  | some q =>
    simp only [reads, hq] at h
    -- a query names no topic, so all that is demanded is under its leaves
    obtain ⟨names, hnames, sorted, hmem⟩ := Query.demands_of_resolved h
    refine ⟨names, by simp only [readDemands, hq, hnames], sorted, ?_⟩
    intro topic
    rw [hmem, requires_read_iff, namedTopic?_of_query hq]
    simp [reads, hq]

end Statement

/-! ## The first failure of the demands -/

namespace Broker

variable (broker : Broker) (principal : String)

/-- How a broker decides an access when no decision is kept. -/
def table (key : AccessKey) : Bool :=
  (broker key.topic).allows key.operation

variable {broker principal} {e : AdmissionError}

theorem failure_access {topic : String} {operation : AclOperation} :
    Demand.failure broker.table principal (.access topic operation) = some e ↔
      ¬broker.Grants topic operation ∧ e = .denied ⟨operation, topic⟩ := by
  rw [grants_iff]
  by_cases h : (broker topic).allows operation = true
  · simp [Demand.failure, table, h]
  · simp [Demand.failure, table, h, @eq_comm _ e]

theorem failure_access_eq_none {topic : String} {operation : AclOperation} :
    Demand.failure broker.table principal (.access topic operation) = none ↔
      broker.Grants topic operation := by
  rw [grants_iff]
  by_cases h : (broker topic).allows operation = true
  · simp [Demand.failure, table, h]
  · simp [Demand.failure, table, h]

/-- Of topics in increasing order the first failure is the least that is not granted. -/
theorem findSome?_read {names : List String} (sorted : names.Pairwise (· < ·)) :
    (names.map (Demand.access · .read)).findSome? (Demand.failure broker.table principal) = some e ↔
      ∃ topic ∈ names, ¬broker.Grants topic .read ∧
        (∀ other ∈ names, other < topic → broker.Grants other .read) ∧
        e = .denied ⟨.read, topic⟩ := by
  -- by the names, the least of which comes first
  induction names with
  | nil => simp
  | cons first rest ih =>
    obtain ⟨least, sorted⟩ := List.pairwise_cons.mp sorted
    rw [List.map_cons, List.findSome?_cons]
    cases hfirst : Demand.failure broker.table principal (.access first .read) with
    | none =>
      -- the first topic is granted, so it is neither the failure nor in its way
      have granted := failure_access_eq_none.mp hfirst
      simp only [ih sorted, List.mem_cons, exists_eq_or_imp, forall_eq_or_imp, granted,
        not_true_eq_false, false_and, false_or, implies_true, true_and]
    | some e' =>
      obtain ⟨denied, rfl⟩ := failure_access.mp hfirst
      -- the first topic is denied, and no other one is before it
      constructor
      · intro failed
        cases failed
        refine ⟨first, by simp, denied, ?_, rfl⟩
        intro other hother before
        rcases List.mem_cons.mp hother with rfl | hother
        · exact absurd before (String.lt_irrefl _)
        · exact absurd (least other hother) (String.lt_asymm before)
      · rintro ⟨topic, htopic, -, granted, rfl⟩
        -- were it a later topic that fails, the first one would have been granted
        rcases List.mem_cons.mp htopic with rfl | htopic
        · rfl
        · exact absurd (granted first (by simp) (least topic htopic)) denied

/-- Writing fails with a target that is missing, or with a topic that is not granted. -/
theorem findSome?_write {statement : Statement} {catalog : Catalog} :
    (statement.writeDemands catalog).findSome? (Demand.failure broker.table principal) = some e ↔
      (∃ name, statement.target? = some name ∧ catalog.source? name = none ∧
        e = .unresolved (.unknownTarget name)) ∨
      ∃ topic, statement.Requires catalog topic .write ∧ ¬broker.Grants topic .write ∧
        e = .denied ⟨.write, topic⟩ := by
  -- writing demands a target or a topic of its own, never both
  simp only [Statement.requires_write_iff]
  cases hname : statement.target? with
  | none =>
    cases hsink : statement.sinkTopic? with
    | none => simp [Statement.writeDemands, hname, hsink]
    | some topic => simp [Statement.writeDemands, hname, hsink, failure_access]
  | some name =>
    have hsink := Statement.sinkTopic?_of_target hname
    cases hs : catalog.source? name with
    | none =>
      simp [Statement.writeDemands, hname, hsink, Catalog.writeDemand, hs, Demand.failure, eq_comm]
    | some s =>
      simp [Statement.writeDemands, hname, hsink, Catalog.writeDemand, hs, failure_access]

end Broker

namespace Statement

variable {statement : Statement} {catalog : Catalog} {broker : Broker} {principal : String}

/-- Reading fails with nothing when the topics that are read from are all granted. -/
theorem findSome?_read_eq_none (principal : String) {names : List String}
    (hmem : ∀ topic, topic ∈ names ↔ statement.Requires catalog topic .read) :
    (names.map (Demand.access · .read)).findSome? (Demand.failure broker.table principal) = none ↔
      statement.Readable catalog broker := by
  simp [Readable, ← hmem, Broker.failure_access_eq_none]

/-- The first demand that fails is the first thing that is required and does not hold. -/
theorem findSome?_demands_iff {e : AdmissionError} :
    (statement.demands catalog).findSome? (Demand.failure broker.table principal) = some e ↔
      statement.FirstFailure catalog broker e := by
  rw [demands_eq, List.findSome?_append]
  cases hreads : catalog.firstUnresolved statement.reads with
  | some name =>
    rw [readDemands_of_unresolved hreads]
    -- only the unresolved leaf is demanded, and the other failures need all leaves resolved
    constructor
    · intro failed
      cases failed
      exact .unknownSource hreads
    · intro failure
      cases failure with
      | unknownSource first =>
        obtain rfl := Option.some.inj (hreads.symm.trans first)
        rfl
      | readDenied resolved => simp [hreads] at resolved
      | unknownTarget resolved => simp [hreads] at resolved
      | writeDenied resolved => simp [hreads] at resolved
  | none =>
    obtain ⟨names, hnames, sorted, hmem⟩ := readDemands_of_resolved hreads
    -- all leaves resolve, so the demands fail at the least topic that may not be read, or else at
    -- what is written to
    rw [hnames, Option.or_eq_some_iff, Broker.findSome?_read sorted,
      findSome?_read_eq_none principal hmem, Broker.findSome?_write]
    constructor
    · intro failed
      rcases failed with ⟨topic, required, denied, least, rfl⟩ |
        ⟨readable, ⟨name, lookedUp, missing, rfl⟩ | ⟨topic, required, denied, rfl⟩⟩
      · exact .readDenied hreads ((hmem topic).mp required) denied
          fun other required => least other ((hmem other).mpr required)
      · exact .unknownTarget hreads readable lookedUp missing
      · exact .writeDenied hreads readable required denied
    · intro failure
      cases failure with
      | unknownSource first => simp [hreads] at first
      | readDenied _ required denied least =>
        exact .inl ⟨_, (hmem _).mpr required, denied,
          fun other hother => least other ((hmem other).mp hother), rfl⟩
      | unknownTarget _ readable lookedUp missing =>
        exact .inr ⟨readable, .inl ⟨_, lookedUp, missing, rfl⟩⟩
      | writeDenied _ readable required denied =>
        exact .inr ⟨readable, .inr ⟨_, required, denied, rfl⟩⟩

/-- A statement is admissible when nothing that it requires fails first. -/
theorem admissible_iff_no_failure :
    statement.Admissible catalog broker ↔ ∀ e, ¬statement.FirstFailure catalog broker e := by
  constructor
  · -- each failure contradicts the requirement that it is about
    intro admissible e failure
    cases failure with
    | unknownSource first =>
      rw [Catalog.firstUnresolved_eq_none_iff.mpr admissible.reads] at first
      cases first
    | readDenied _ required denied => exact denied (admissible.granted _ _ required)
    | unknownTarget _ _ lookedUp missing =>
      obtain ⟨s, found⟩ := admissible.target _ lookedUp
      rw [missing] at found
      cases found
    | writeDenied _ _ required denied => exact denied (admissible.granted _ _ required)
  · intro nothing
    -- conversely, each requirement is settled in the order in which the failures come
    have resolved : catalog.firstUnresolved statement.reads = none := by
      by_contra unresolved
      obtain ⟨name, first⟩ := Option.ne_none_iff_exists'.mp unresolved
      exact nothing _ (.unknownSource first)
    have readable : statement.Readable catalog broker := by
      obtain ⟨names, -, sorted, hmem⟩ := readDemands_of_resolved resolved
      -- a topic that is not granted would make the least such topic fail
      rw [← findSome?_read_eq_none "" hmem, Option.eq_none_iff_forall_ne_some]
      intro e failed
      obtain ⟨topic, required, denied, least, rfl⟩ := (Broker.findSome?_read sorted).mp failed
      exact nothing _ (.readDenied resolved ((hmem topic).mp required) denied
        fun other hother => least other ((hmem other).mpr hother))
    refine ⟨Catalog.firstUnresolved_eq_none_iff.mp resolved, ?_, ?_⟩
    · intro name lookedUp
      by_contra missing
      exact nothing _ (.unknownTarget resolved readable lookedUp
        (Option.eq_none_iff_forall_ne_some.mpr fun s found => missing ⟨s, found⟩))
    · intro topic operation required
      -- reading is settled, so a denial would be one of writing
      by_contra denied
      cases required with
      | leaf read found => exact denied (readable _ (.leaf read found))
      | named given => exact denied (readable _ (.named given))
      | target lookedUp found =>
        exact nothing _ (.writeDenied resolved readable (.target lookedUp found) denied)
      | sink given => exact nothing _ (.writeDenied resolved readable (.sink given) denied)

end Statement

/-! ## The answer of a new authorizer -/

/-- An authorizer without decisions admits exactly the statements whose requirements all hold, and
answers the first failure about any other. -/
theorem Authorizer.check_new {a : Authorizer} (new : a.decisions = []) (broker : Broker)
    (catalog : Catalog) (user : Option String) (statement : Statement) :
    ((a.check broker catalog (principal user) statement).result = .ok () ↔
      statement.Admissible catalog broker) ∧
    ∀ e, (a.check broker catalog (principal user) statement).result = .error e ↔
      statement.FirstFailure catalog broker e := by
  -- nothing is decided yet, so the decisions of the moment are those of the broker
  have current : a.table broker = broker.table := by
    funext key
    simp [table, decision?, new, Broker.table]
  -- the requirements hold exactly when there is no first failure, so it is enough to tell failures
  have failed : ∀ e, (a.check broker catalog (principal user) statement).result = .error e ↔
      statement.FirstFailure catalog broker e := by
    intro e
    rw [check, meet_result, current, Demand.outcome_eq_error_iff, Statement.findSome?_demands_iff]
  refine ⟨?_, failed⟩
  rw [Statement.admissible_iff_no_failure]
  simp only [← failed]
  cases (a.check broker catalog (principal user) statement).result with
  | ok u => simp
  | error e => simp

/-- An insertion whose query may be read but whose target may not be written to. -/
theorem Authorizer.check_new_insertion :
    let orders : Source := ⟨"ORDERS", .table, [], none, .metadata,
      ⟨"ORDERS", "orders", .json, false⟩, ""⟩
    let clicks : Source := ⟨"CLICKS", .stream, [], none, .metadata,
      ⟨"CLICKS", "clicks", .json, false⟩, ""⟩
    let catalog := (Catalog.empty.enter orders).enter clicks
    let broker : Broker := fun topic =>
      if topic = "orders" then .operations [.read] else .unreported
    let statement : Statement := .insertInto "ORDERS"
      ⟨[.wildcard], .join .inner (.source "CLICKS" none) (.source "ORDERS" none) none, none⟩
    let new : Authorizer := { keeps := true, decisions := [] }
    new.decisions = [] ∧ (new.check broker catalog (principal none) statement).result =
      .error (.denied ⟨.write, "orders"⟩) := by
  intro orders clicks catalog broker statement new
  have found : catalog.source? "ORDERS" = some orders := by
    simp [catalog, clicks, orders]
  have found' : catalog.source? "CLICKS" = some clicks := by
    simp [catalog, clicks]
  -- both leaves are known, and the topics under them may be read
  have resolved : catalog.firstUnresolved statement.reads = none := by
    rw [Catalog.firstUnresolved_eq_none_iff]
    simp [statement, Statement.reads, Statement.query?, Relation.leaves, found, found']
  have readable : statement.Readable catalog broker := by
    intro topic required
    rw [Statement.requires_read_iff] at required
    simp only [statement, Statement.reads, Statement.query?, Relation.leaves,
      Statement.namedTopic?, List.cons_append, List.nil_append, List.mem_cons, List.not_mem_nil,
      or_false, exists_eq_or_imp, exists_eq_left, found, found', Option.some.injEq,
      exists_eq_left', reduceCtorEq] at required
    rcases required with rfl | rfl
    · exact .inl rfl
    · exact .inr ⟨[.read], rfl, by simp⟩
  have denied : ¬broker.Grants "orders" .write := by
    rw [Broker.grants_iff]
    decide
  exact ⟨rfl, ((check_new rfl broker catalog none statement).2 _).mpr
    (.writeDenied resolved readable (.target rfl found) denied)⟩

end Sluice
