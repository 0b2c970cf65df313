import Mathlib.Logic.Function.Basic
import Sluice.Proofs.Server.Requests

/-!
# Clients at the same time

Any number of clients create and drop sources in one catalog. Each makes one call after another,
but the atomic steps of the calls of different clients come in any order, so between the look at the
catalog that a creation begins with and its registration, sources of the same name may come and go.
A schedule is a list of clients, each of which takes its next step when its turn comes.

A call takes effect with its last step: whatever that step does and answers, the whole call would
have done and answered at that moment. So the calls might as well have been made one after the
other, in the order in which they were answered.

## Main definitions

* `Catalog.Call`, `Catalog.call`, `Catalog.replies`: calls that are not interrupted.
* `Client`, `Clientele`, `Clientele.step`, `Clientele.after`: clients of one catalog, and schedules.
* `Clientele.Step`: all that a turn can do.
* `Clientele.Ordered`: what was answered is what calls that are not interrupted are answered.

## Main statements

* `Catalog.createStep_described`: a creation that goes on does what it would do if it began now.
* `Clientele.answered_of_turns`: a creation is answered after two turns, and a drop after one.
* `Clientele.answered_in_order`: every schedule comes to a sequential order of its calls.
-/

namespace Sluice

namespace Catalog

/-! ## Calls without interruption -/

/-- A call that changes the sources of a catalog. -/
inductive Call where
  | create (d : CreateSource) (registry : Option String)
  | drop (name : String) (ifExists : Bool)

/-- What a call is answered. -/
inductive Response where
  | created (answer : Except ServerError (Option Source))
  | dropped (answer : Except ServerError Unit)

/-- Makes a call without interruption. -/
def call (c : Catalog) : Call → Response × Catalog
  | .create d registry => (.created (c.create d registry).1, (c.create d registry).2)
  | .drop name ifExists => (.dropped (c.drop name ifExists).1, (c.drop name ifExists).2)

/-- What calls are answered that are made one after the other. -/
def replies (c : Catalog) : List Call → List Response
  | [] => []
  | call :: rest => (c.call call).1 :: (c.call call).2.replies rest

/-- The catalog after calls that are made one after the other. -/
def afterCalls (c : Catalog) : List Call → Catalog
  | [] => c
  | call :: rest => (c.call call).2.afterCalls rest

theorem replies_concat (c : Catalog) (calls : List Call) (last : Call) :
    c.replies (calls ++ [last]) = c.replies calls ++ [((c.afterCalls calls).call last).1] := by
  induction calls generalizing c with
  | nil => rfl
  | cons call rest ih =>
    rw [List.cons_append, replies, ih]
    rfl

theorem afterCalls_concat (c : Catalog) (calls : List Call) (last : Call) :
    c.afterCalls (calls ++ [last]) = ((c.afterCalls calls).call last).2 := by
  induction calls generalizing c with
  | nil => rfl
  | cons call rest ih => exact ih (c.call call).2

/-- What is answered is answered at some moment, by the catalog at that moment. -/
theorem exists_of_mem_zip_replies {c : Catalog} {calls : List Call} {call : Call} {reply : Response}
    (h : (call, reply) ∈ calls.zip (c.replies calls)) :
    ∃ before : Catalog, reply = (before.call call).1 := by
  induction calls generalizing c with
  | nil => cases h
  | cons first rest ih =>
    rw [replies, List.zip_cons_cons, List.mem_cons] at h
    rcases h with h | h
    · obtain ⟨rfl, rfl⟩ := Prod.mk.inj h
      exact ⟨c, rfl⟩
    · exact ih h

variable {c : Catalog} {name : String} {s : Source}

/-- A creation that asks for nothing when its source exists is never refused a name. -/
theorem create_ne_sourceExists {d : CreateSource} (ifNotExists : d.ifNotExists = true)
    (registry : Option String) (taken : String) :
    (c.create d registry).1 ≠ .error (.catalog (.sourceExists taken)) := by
  unfold create
  by_cases satisfied : c.satisfies d
  · simp [satisfied]
  · cases d.toSource registry with
    | error e => simp [satisfied]
    | ok s => cases hr : c.registerSource s <;> simp [satisfied, hr, ifNotExists]

/-- A source stays as it is, whatever is called, unless it is dropped and its name is free again. -/
theorem source?_call (found : c.source? name = some s) (call : Call) :
    (c.call call).2.source? name = some s ∨
      (c.call call).2.source? name = none ∧ ∃ ifExists, call = .drop name ifExists := by
  -- by the call; a creation only adds, and a drop takes away what it names
  cases call with
  | create d registry =>
    left
    rcases create_cases c d registry with ⟨t, ht, free, hcreate⟩ | ⟨answer, -, hcreate⟩
    · -- what is entered has another name, since that one was free
      have other : t.name ≠ name := by
        rintro rfl
        rw [(CreateSource.toSource_spec ht).1, free] at found
        cases found
      simp [call, hcreate, other, found]
    · simp [call, hcreate, found]
  | drop dropped ifExists =>
    rcases drop_cases c dropped ifExists with ⟨t, ht, hdrop⟩ | ⟨-, hdrop⟩
    · by_cases same : dropped = name
      · subst same
        right
        refine ⟨?_, ifExists, rfl⟩
        simp [call, hdrop, source?_removeSource ht]
      · left
        simp [call, hdrop, source?_removeSource ht, same, found]
    · left
      simp [call, hdrop, found]

/-! ## The steps of a creation -/

/-- A creation that begins makes out the source that its declaration describes and leaves the
catalog as it is, or it is over at once. -/
theorem createStep_begun (c : Catalog) (d : CreateSource) (registry : Option String) :
    (∃ s, d.toSource registry = .ok s ∧ c.createStep d registry .begun = (c, .described s)) ∨
      c.createStep d registry .begun =
        ((c.create d registry).2, .finished (c.create d registry).1) := by
  unfold createStep create
  -- a creation that needs no source is over, and so is one whose declaration is wrong
  by_cases satisfied : c.satisfies d
  · right
    simp [satisfied]
  · cases hs : d.toSource registry with
    | error e =>
      right
      simp [satisfied]
    | ok s =>
      left
      exact ⟨s, rfl, by simp [satisfied]⟩

/-- A creation that goes on does what it would do if it began now. Its look at the catalog may be
outdated, but the registration finds out the same. -/
theorem createStep_described {d : CreateSource} {registry : Option String}
    (described : d.toSource registry = .ok s) (c : Catalog) :
    c.createStep d registry (.described s) =
      ((c.create d registry).2, .finished (c.create d registry).1) := by
  have named : s.name = d.name := (CreateSource.toSource_spec described).1
  unfold createStep create satisfies
  simp only [described, registerSource_eq, named]
  cases c.source? d.name with
  | none => simp
  | some taken =>
    -- the name was taken since, or was taken all along and nobody looked
    cases d.ifNotExists <;> simp

end Catalog

open Catalog (Call Response)

/-! ## Schedules -/

/-- A client: the calls that it has not finished, and how far the first of them has come. -/
structure Client where
  calls : List Call
  progress : Creation

/-- A call of a client that was answered. -/
structure Answered (ι : Type) where
  client : ι
  call : Call
  reply : Response

/-- The clients of a catalog. -/
structure Clientele (ι : Type) where
  catalog : Catalog
  clients : ι → Client
  /-- the calls that were answered, in the order in which they were -/
  answered : List (Answered ι)

namespace Clientele

variable {ι : Type}

/-- Clients that have calls to make, and have not begun. -/
def start (catalog : Catalog) (programs : ι → List Call) : Clientele ι :=
  ⟨catalog, fun client => ⟨programs client, .begun⟩, []⟩

/-- The calls that were answered, in the order in which they were. -/
def order (t : Clientele ι) : List Call :=
  t.answered.map (·.call)

variable [DecidableEq ι]

/-- The calls of a client that were answered. -/
def callsOf (t : Clientele ι) (client : ι) : List Call :=
  (t.answered.filter (·.client = client)).map (·.call)

/-- The clientele when a client is answered its first call. -/
def answer (t : Clientele ι) (client : ι) (call : Call) (rest : List Call) (reply : Response)
    (catalog : Catalog) : Clientele ι where
  catalog := catalog
  clients := Function.update t.clients client ⟨rest, .begun⟩
  answered := t.answered ++ [⟨client, call, reply⟩]

/-- Lets a client take the next step of its first call, if it has a call to make. -/
def step (t : Clientele ι) (client : ι) : Clientele ι :=
  match (t.clients client).calls with
  | [] => t
  | .create d registry :: rest =>
    match t.catalog.createStep d registry (t.clients client).progress with
    | (catalog, .finished answer) =>
      t.answer client (.create d registry) rest (.created answer) catalog
    | (catalog, progress) =>
      { t with
        catalog
        clients := Function.update t.clients client ⟨.create d registry :: rest, progress⟩ }
  | .drop name ifExists :: rest =>
    let (answer, catalog) := t.catalog.drop name ifExists
    t.answer client (.drop name ifExists) rest (.dropped answer) catalog

/-- The clientele after turns of clients, one after the other. -/
def after (t : Clientele ι) (schedule : List ι) : Clientele ι :=
  schedule.foldl step t

end Clientele

/-! ## All that a turn can do -/

/-- A client stands between two calls, or has made out the source that it creates. -/
inductive Client.Sound : Client → Prop
  | between (calls : List Call) : Sound ⟨calls, .begun⟩
  | underWay (d : CreateSource) (registry : Option String) (s : Source) (rest : List Call)
      (described : d.toSource registry = .ok s) :
      Sound ⟨.create d registry :: rest, .described s⟩

namespace Clientele

variable {ι : Type} [DecidableEq ι] {t t' : Clientele ι} {client : ι}

/-- What the turn of a client can do. -/
inductive Step (t : Clientele ι) (client : ι) : Clientele ι → Prop
  /-- the client has no call left to make -/
  | idle (done : (t.clients client).calls = []) : Step t client t
  /-- the client has made out the source that it creates -/
  | describes (d : CreateSource) (registry : Option String) (s : Source) (rest : List Call)
      (next : (t.clients client).calls = .create d registry :: rest)
      (begun : (t.clients client).progress = .begun)
      (described : d.toSource registry = .ok s) :
      Step t client { t with
        clients := Function.update t.clients client ⟨.create d registry :: rest, .described s⟩ }
  /-- the client is answered as if its call had been made now, and not been interrupted -/
  | answers (call : Call) (rest : List Call) (next : (t.clients client).calls = call :: rest) :
      Step t client (t.answer client call rest (t.catalog.call call).1 (t.catalog.call call).2)

/-- A turn does one of these things. -/
theorem step_step (sound : (t.clients client).Sound) : t.Step client (t.step client) := by
  -- only whose turn it is matters: its calls, and how far the first of them is
  unfold step
  generalize hclient : t.clients client = state at sound
  have hcalls : (t.clients client).calls = state.calls := by rw [hclient]
  have hprogress : (t.clients client).progress = state.progress := by rw [hclient]
  cases sound with
  | between calls =>
    cases calls with
    | nil => exact .idle hcalls
    | cons call rest =>
      cases call with
      | create d registry =>
        -- the creation begins with this step, and may end with it
        rcases t.catalog.createStep_begun d registry with ⟨s, described, hstep⟩ | hstep
        · simp only [hstep]
          exact .describes d registry s rest hcalls hprogress described
        · simp only [hstep]
          exact .answers (.create d registry) rest hcalls
      | drop name ifExists => exact .answers (.drop name ifExists) rest hcalls
  | underWay d registry s rest described =>
    -- the registration is the last step in any case
    simp only [Catalog.createStep_described described]
    exact .answers (.create d registry) rest hcalls

/-- A source stays as it is, unless the client whose turn it is drops it. -/
theorem Step.source? (h : t.Step client t') {name : String} {s : Source}
    (found : t.catalog.source? name = some s) :
    t'.catalog.source? name = some s ∨ t'.catalog.source? name = none ∧
      ∃ ifExists rest, (t.clients client).calls = .drop name ifExists :: rest := by
  cases h with
  | idle => exact .inl found
  | describes => exact .inl found
  | answers call rest next =>
    rcases Catalog.source?_call found call with stays | ⟨gone, ifExists, rfl⟩
    · exact .inl stays
    · exact .inr ⟨gone, ifExists, rest, next⟩

/-! ## The order of the answers -/

/-- The calls answered so far are the first ones of each client, and have come to what they come to
when they are made one after the other, in the order in which they were answered. -/
structure Ordered (catalog : Catalog) (programs : ι → List Call) (t : Clientele ι) : Prop where
  sound : ∀ client, (t.clients client).Sound
  own : ∀ client, t.callsOf client ++ (t.clients client).calls = programs client
  replies : t.answered.map (·.reply) = catalog.replies t.order
  catalog : t.catalog = catalog.afterCalls t.order

variable {catalog : Catalog} {programs : ι → List Call}

theorem ordered_start (catalog : Catalog) (programs : ι → List Call) :
    Ordered catalog programs (start catalog programs) where
  sound _ := .between _
  own _ := rfl
  replies := rfl
  catalog := rfl

/-- A turn keeps the order. -/
theorem Ordered.step (h : Ordered catalog programs t) (step : t.Step client t') :
    Ordered catalog programs t' := by
  cases step with
  | idle => exact h
  | describes d registry s rest next _ described =>
    -- nothing is answered, and the calls to be made are the same
    refine ⟨fun other => ?_, fun other => ?_, h.replies, h.catalog⟩
    · by_cases same : other = client
      · subst same
        simpa using Client.Sound.underWay d registry s rest described
      · simpa [same] using h.sound other
    · have own := h.own other
      by_cases same : other = client
      · subst same
        simpa [callsOf, next] using own
      · simpa [callsOf, same] using own
  | answers call rest next =>
    have order : (t.answer client call rest (t.catalog.call call).1 (t.catalog.call call).2).order =
        t.order ++ [call] := by
      simp [Clientele.order, answer]
    refine ⟨fun other => ?_, fun other => ?_, ?_, ?_⟩
    · by_cases same : other = client
      · subst same
        simpa [answer] using Client.Sound.between rest
      · simpa [answer, same] using h.sound other
    · -- the call goes over from the calls to be made to those answered
      have own := h.own other
      by_cases same : other = client
      · subst same
        simpa [answer, callsOf, next] using own
      · simpa [answer, callsOf, same, Ne.symm same] using own
    · rw [order, Catalog.replies_concat, ← h.catalog, ← h.replies]
      simp [answer]
    · rw [order, Catalog.afterCalls_concat, ← h.catalog]
      rfl

/-- After every schedule the calls are in order. -/
theorem Ordered.after (h : Ordered catalog programs t) (schedule : List ι) :
    Ordered catalog programs (t.after schedule) := by
  induction schedule generalizing t with
  | nil => exact h
  | cons client rest ih =>
    apply ih
    exact h.step (step_step (h.sound client))

/-- What a client was answered is what its call is answered if it is not interrupted. -/
theorem Ordered.exists_reply_eq (h : Ordered catalog programs t) {a : Answered ι}
    (answered : a ∈ t.answered) : ∃ before : Catalog, a.reply = (before.call a.call).1 := by
  have answer : (a.call, a.reply) ∈ t.order.zip (catalog.replies t.order) := by
    rw [← h.replies, order, List.zip_map', List.mem_map]
    exact ⟨a, answered, rfl⟩
  exact Catalog.exists_of_mem_zip_replies answer

/-! ## The turns that calls take -/

/-- The turns that suffice for a call. -/
def turnsFor : Call → Nat
  | .create _ _ => 2
  | .drop _ _ => 1

/-- The turns that suffice for a number of calls. -/
def turnsForAll : List Call → Nat
  | [] => 0
  | call :: calls => turnsFor call + turnsForAll calls

theorem turnsForAll_append (calls rest : List Call) :
    turnsForAll (calls ++ rest) = turnsForAll calls + turnsForAll rest := by
  induction calls with
  | nil => simp [turnsForAll]
  | cons call calls ih =>
    simp only [List.cons_append, turnsForAll, ih]
    omega

/-- The turns that suffice for the calls that a client has not finished. When the source has been
made out, only its registration is left of a creation. -/
def turnsLeft (c : Client) : Nat :=
  match c.progress with
  | .described _ => turnsForAll c.calls - 1
  | _ => turnsForAll c.calls

/-- A client that has a call to make has a turn left for it. -/
theorem turnsForAll_lt_turnsLeft {c : Client} (sound : c.Sound) {call : Call} {rest : List Call}
    (next : c.calls = call :: rest) : turnsForAll rest < turnsLeft c := by
  have sum : turnsForAll (call :: rest) = turnsFor call + turnsForAll rest := rfl
  cases sound with
  -- every call takes a turn at least
  | between calls =>
    obtain rfl : calls = call :: rest := next
    have positive : 0 < turnsFor call := by
      cases call <;> simp [turnsFor]
    show turnsForAll rest < turnsForAll (call :: rest)
    omega
  | underWay d registry s others described =>
    -- the second of the two turns of a creation
    obtain ⟨rfl, rfl⟩ := List.cons.inj next
    show turnsForAll others < turnsForAll (.create d registry :: others) - 1
    rw [sum, turnsFor]
    omega

/-- A client's own turn leaves it one turn less. -/
theorem Step.turnsLeft_le (h : t.Step client t') (sound : (t.clients client).Sound) :
    turnsLeft (t'.clients client) ≤ turnsLeft (t.clients client) - 1 := by
  cases h with
  | idle done =>
    -- without calls there is no turn to take
    have none : turnsLeft (t.clients client) = 0 := by
      unfold turnsLeft
      split <;> simp [done, turnsForAll]
    omega
  | describes d registry s rest next begun described =>
    have before : turnsLeft (t.clients client) = turnsForAll (.create d registry :: rest) := by
      simp [turnsLeft, begun, next]
    rw [before]
    simp [turnsLeft]
  | answers call rest next =>
    have less := turnsForAll_lt_turnsLeft sound next
    have after : turnsLeft ((t.answer client call rest (t.catalog.call call).1
        (t.catalog.call call).2).clients client) = turnsForAll rest := by
      simp [answer, turnsLeft]
    omega

/-- The turn of one client does not hold up another. -/
theorem Step.clients_of_ne (h : t.Step client t') {other : ι} (ne : other ≠ client) :
    t'.clients other = t.clients other := by
  cases h with
  | idle => rfl
  | describes => simp [ne]
  | answers => simp [answer, ne]

/-- Over a schedule, a client is left as many turns less as it has in the schedule. -/
theorem Ordered.turnsLeft_after (h : Ordered catalog programs t) (schedule : List ι) (client : ι) :
    turnsLeft ((t.after schedule).clients client) ≤
      turnsLeft (t.clients client) - schedule.count client := by
  -- by the schedule, whose turns are its own or leave it alone
  induction schedule generalizing t with
  | nil => exact Nat.le_refl _
  | cons turn rest ih =>
    have step := step_step (h.sound turn)
    have later := ih (h.step step)
    refine Nat.le_trans later ?_
    by_cases own : turn = client
    · subst own
      have less := step.turnsLeft_le (h.sound turn)
      rw [List.count_cons_self]
      omega
    · have same := step.clients_of_ne (Ne.symm own)
      have count := List.count_cons_of_ne (l := rest) own
      exact Nat.le_of_eq (by rw [same, count])

/-- The calls of a client are answered in their turns, two for a creation and one for a drop,
however the turns of others come between: after every schedule, the first calls of a client for
which it had the turns are answered. -/
theorem answered_of_turns (catalog : Catalog) (programs : ι → List Call) (schedule : List ι)
    (client : ι) {calls rest : List Call} (program : programs client = calls ++ rest)
    (turns : turnsForAll calls ≤ schedule.count client) :
    calls <+: ((start catalog programs).after schedule).callsOf client := by
  have begun := ordered_start catalog programs
  have ordered := begun.after schedule
  have own := ordered.own client
  have left := begun.turnsLeft_after schedule client
  have total : turnsLeft ((start catalog programs).clients client) =
      turnsForAll calls + turnsForAll rest := by
    rw [← turnsForAll_append, ← program]
    rfl
  -- how the schedule led there does not matter any more
  generalize (start catalog programs).after schedule = t at ordered own left
  rw [program] at own
  -- the calls answered and `calls` begin the same program, so one of them begins with the other
  rcases List.append_eq_append_iff.mp own with ⟨unanswered, split, others⟩ | ⟨more, split, -⟩
  · cases unanswered with
    | nil => simp [split]
    | cons call unanswered =>
      -- a call that is not answered has a turn left, but all turns up to `rest` were had
      have positive := turnsForAll_lt_turnsLeft (ordered.sound client) others
      have sum := turnsForAll_append unanswered rest
      rw [List.append_eq] at positive
      omega
  · exact ⟨more, split.symm⟩

/-- Clients may interleave their calls as they like: after every schedule, the calls that were
answered are the first calls of each client in its own order, and making them one after the other,
in the order in which they were answered, comes to the same answers and the same catalog. When the
clients have no calls left, these are all of their calls. A creation that asks for nothing when its
source exists is never refused a name, and no turn puts another source in the place of one: a source
stays as it is until a client drops it. -/
theorem answered_in_order (catalog : Catalog) (programs : ι → List Call) (schedule : List ι) :
    let t := (start catalog programs).after schedule
    (∀ client, t.callsOf client ++ (t.clients client).calls = programs client) ∧
      t.answered.map (·.reply) = catalog.replies t.order ∧
      t.catalog = catalog.afterCalls t.order ∧
      (∀ a ∈ t.answered, ∀ d registry, a.call = .create d registry → d.ifNotExists = true →
        ∀ name, a.reply ≠ .created (.error (.catalog (.sourceExists name)))) ∧
      ∀ client name source, t.catalog.source? name = some source →
        (t.step client).catalog.source? name = some source ∨
          (t.step client).catalog.source? name = none ∧
            ∃ ifExists rest, (t.clients client).calls = .drop name ifExists :: rest := by
  intro t
  have ordered : Ordered catalog programs t := (ordered_start catalog programs).after schedule
  refine ⟨ordered.own, ordered.replies, ordered.catalog, ?_, ?_⟩
  · -- the reply is what the call would be told alone, after the calls answered before it
    intro a answered d registry called ifNotExists name
    obtain ⟨before, reply⟩ := ordered.exists_reply_eq answered
    rw [reply, called]
    intro refused
    have refused := Response.created.inj refused
    exact Catalog.create_ne_sourceExists ifNotExists registry name refused
  · intro client name source found
    exact (step_step (ordered.sound client)).source? found

/-- Two clients look for a source before either registers it. The one that comes later is answered
that the source exists, as if it had only begun then. -/
example :
    let orders (topic : String) : CreateSource :=
      ⟨.stream, "ORDERS", [("ID", .primitive .bigint)], true, { brokerTopic := some topic }⟩
    let programs (first : Bool) : List Call :=
      if first then [.create (orders "a") none] else [.create (orders "b") none]
    let t := (start .empty programs).after [true, false, false, true]
    t.answered.map (·.client) = [false, true] ∧
      ∃ s, t.answered.map (·.reply) = [.created (.ok (some s)), .created (.ok none)] ∧
        s.topic.brokerName = "b" := by
  refine ⟨rfl, _, rfl, rfl⟩

end Clientele

end Sluice
