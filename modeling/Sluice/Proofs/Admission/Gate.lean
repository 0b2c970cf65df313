import Sluice.Proofs.Admission.Meeting

/-!
# Runs of checks

A gate is an authorizer in front of a catalog and a broker. Principals have single accesses and
whole statements checked at it, and between the checks the grants of the broker and the catalog may
change in any way. A run leaves a log of what was checked, where the gate then stood, and what the
answer was.

## Main definitions

* `Gate`, `GateEvent`, `Gate.handle`: a gate, what happens at it, and what that does.
* `Gate.log`: the entries that a run leaves.

## Main statements

* `Gate.handle_of_principal`: a check of either kind meets the demands of its event.
-/

namespace Sluice

/-- An authorizer in front of a catalog, with what the broker answers to each principal. -/
structure Gate where
  authorizer : Authorizer
  catalog : Catalog
  brokers : String → Broker

/-- What happens at a gate. -/
inductive GateEvent where
  | checkAccess (user : Option String) (topic : String) (operation : AclOperation)
  | checkStatement (user : Option String) (statement : Statement)
  | changeGrants (brokers : String → Broker)
  | changeCatalog (catalog : Catalog)

/-- The answer to a check, and the accesses that the broker was asked about for it. -/
structure Reply where
  result : Except AdmissionError Unit
  asked : List AccessKey

namespace GateEvent

/-- Who a check is made for. -/
def principal? : GateEvent → Option String
  | .checkAccess user _ _ | .checkStatement user _ => some (principal user)
  | .changeGrants _ | .changeCatalog _ => none

/-- The demands that a check has to meet. -/
def demands (catalog : Catalog) : GateEvent → List Demand
  | .checkAccess _ topic operation => [.access topic operation]
  | .checkStatement _ statement => statement.demands catalog
  | .changeGrants _ | .changeCatalog _ => []

end GateEvent

namespace Gate

variable (g : Gate) (event : GateEvent)

/-- Handles an event: a check is answered, a change is carried out. -/
def handle : GateEvent → Reply × Gate
  | .checkAccess user topic operation =>
    let p := principal user
    let v := g.authorizer.checkAccess (g.brokers p) p topic operation
    (⟨v.result.mapError .denied, v.asked⟩, { g with authorizer := v.authorizer })
  | .checkStatement user statement =>
    let p := principal user
    let v := g.authorizer.check (g.brokers p) g.catalog p statement
    (⟨v.result, v.asked⟩, { g with authorizer := v.authorizer })
  | .changeGrants brokers => (⟨.ok (), []⟩, { g with brokers })
  | .changeCatalog catalog => (⟨.ok (), []⟩, { g with catalog })

/-- What one event leaves in the log: where the gate stood, the event and the reply. -/
structure Entry where
  gate : Gate
  event : GateEvent
  reply : Reply

/-- The entries that a run of events leaves. -/
def log (g : Gate) : List GateEvent → List Entry
  | [] => []
  | event :: rest => ⟨g, event, (g.handle event).1⟩ :: (g.handle event).2.log rest

/-- The gate after a run of events. -/
def after (g : Gate) : List GateEvent → Gate
  | [] => g
  | event :: rest => (g.handle event).2.after rest

/-! ## Checks -/

/-- Meeting one access is checking it. -/
theorem meet_singleton (a : Authorizer) (broker : Broker) (p topic : String)
    (operation : AclOperation) :
    a.meet broker p [.access topic operation] =
      let v := a.checkAccess broker p topic operation
      ⟨v.result.mapError .denied, v.asked, v.authorizer⟩ := by
  simp only [Authorizer.meet, Authorizer.checkAccess]
  cases (a.decide broker ⟨p, topic, operation⟩).result with
  | false => rfl
  | true => simp [Except.mapError]

/-- A check of either kind meets the demands of its event, and changes the authorizer only. -/
theorem handle_of_principal {p : String} (h : event.principal? = some p) :
    g.handle event =
      let v := g.authorizer.meet (g.brokers p) p (event.demands g.catalog)
      (⟨v.result, v.asked⟩, { g with authorizer := v.authorizer }) := by
  cases event with
  | checkAccess user topic operation =>
    obtain rfl := Option.some.inj h
    simp [handle, GateEvent.demands, meet_singleton]
  | checkStatement user statement =>
    obtain rfl := Option.some.inj h
    rfl
  | changeGrants brokers => cases h
  | changeCatalog catalog => cases h

/-- A change is answered with success, asks nothing and leaves the authorizer as it is. -/
theorem handle_of_change (h : event.principal? = none) :
    (g.handle event).1 = ⟨.ok (), []⟩ ∧ (g.handle event).2.authorizer = g.authorizer := by
  cases event with
  | checkAccess user topic operation => cases h
  | checkStatement user statement => cases h
  | changeGrants brokers => exact ⟨rfl, rfl⟩
  | changeCatalog catalog => exact ⟨rfl, rfl⟩

@[simp]
theorem keeps_handle : (g.handle event).2.authorizer.keeps = g.authorizer.keeps := by
  cases h : event.principal? with
  | none => rw [(handle_of_change g event h).2]
  | some p =>
    rw [handle_of_principal g event h]
    exact Authorizer.keeps_meet ..

namespace Entry

variable (entry : Entry)

/-- What the event of an entry comes to under fixed decisions. -/
def outcome (decided : AccessKey → Bool) : Except AdmissionError Unit :=
  match entry.event.principal? with
  | some p => Demand.outcome decided p (entry.event.demands entry.gate.catalog)
  | none => .ok ()

/-- The accesses that are checked for the event of an entry under fixed decisions. -/
def checked (decided : AccessKey → Bool) : List AccessKey :=
  match entry.event.principal? with
  | some p => Demand.checked decided p (entry.event.demands entry.gate.catalog)
  | none => []

end Entry

end Gate

end Sluice
