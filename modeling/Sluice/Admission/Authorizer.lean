import Sluice.Admission.Demand

/-!
# The authorizer

The authorizer meets the demands of statements by asking the broker, and keeps the decisions it
makes, denials and failures included, by principal, topic and operation. A decision that is kept
is never asked for again. An authorizer whose decisions expire at once, or that has room for none,
asks every time.

## Main definitions

* `Authorizer`: the decisions kept so far.
* `Verdict`: the result of a check, with the accesses that the broker was asked about.
* `Authorizer.checkAccess`, `Authorizer.check`: the check of one access, and of a statement.
-/

namespace Sluice

/-- Access to a topic was denied. -/
structure AccessDenied where
  operation : AclOperation
  topic : String
deriving DecidableEq, Repr

/-- What the denial says. -/
def AccessDenied.message (e : AccessDenied) : String :=
  "Authorization denied to " ++ e.operation.name ++ " on topic(s): [" ++ e.topic ++ "]"

/-- Why a statement was not admitted. -/
inductive AdmissionError where
  | denied (e : AccessDenied)
  | unresolved (e : ResolutionError)
deriving DecidableEq, Repr

/-- What the error says. -/
def AdmissionError.message : AdmissionError → String
  | .denied e => e.message
  | .unresolved e => e.message

/-- The principal of a request; anonymous requests share one. -/
def principal (user : Option String) : String :=
  user.getD ""

/-- What a decision is about. -/
structure AccessKey where
  principal : String
  topic : String
  operation : AclOperation
deriving DecidableEq, Repr

/-- The state of an authorizer. -/
structure Authorizer where
  /-- whether decisions are kept at all -/
  keeps : Bool
  /-- the decisions kept, the latest first -/
  decisions : List (AccessKey × Bool)
deriving DecidableEq, Repr

/-- The result of a check, the accesses that the broker was asked about in order, and the state
after it. -/
structure Verdict (α : Type) where
  result : α
  asked : List AccessKey
  authorizer : Authorizer
deriving DecidableEq, Repr

/-- A decision may not be kept for longer than this many seconds, a thousand years. -/
def greatestExpiry : Nat := 31536000000

/-- Decisions were to be kept for longer than `greatestExpiry`. -/
inductive ExpiryError where
  | tooLong
deriving DecidableEq, Repr

/-- What the error says. -/
def ExpiryError.message : ExpiryError → String
  | .tooLong => "time_to_live is longer than 1000 years"

namespace Authorizer

/-- The authorizer that keeps up to `entries` decisions for `expiry` seconds. -/
def create (expiry entries : Nat) : Except ExpiryError Authorizer :=
  if greatestExpiry < expiry then .error .tooLong
  else .ok { keeps := expiry != 0 && entries != 0, decisions := [] }

/-- The decision kept about an access. -/
def decision? (a : Authorizer) (key : AccessKey) : Option Bool :=
  a.decisions.lookup key

/-- The number of decisions kept. -/
def size (a : Authorizer) : Nat :=
  a.decisions.length

/-- The authorizer with one more decision, if it keeps any. -/
def record (a : Authorizer) (key : AccessKey) (allowed : Bool) : Authorizer :=
  if a.keeps then { a with decisions := (key, allowed) :: a.decisions } else a

/-- Decides an access, by a decision kept or by asking the broker. -/
def decide (a : Authorizer) (broker : Broker) (key : AccessKey) : Verdict Bool :=
  match a.decision? key with
  | some allowed => ⟨allowed, [], a⟩
  | none =>
    let allowed := (broker key.topic).allows key.operation
    ⟨allowed, [key], a.record key allowed⟩

/-- Checks an access of a principal. -/
def checkAccess (a : Authorizer) (broker : Broker) (principal topic : String)
    (operation : AclOperation) : Verdict (Except AccessDenied Unit) :=
  let v := a.decide broker ⟨principal, topic, operation⟩
  ⟨if v.result then .ok () else .error ⟨operation, topic⟩, v.asked, v.authorizer⟩

/-- Meets demands one after the other, up to the first that fails. -/
def meet (a : Authorizer) (broker : Broker) (principal : String) :
    List Demand → Verdict (Except AdmissionError Unit)
  | [] => ⟨.ok (), [], a⟩
  | .unresolved e :: _ => ⟨.error (.unresolved e), [], a⟩
  | .access topic operation :: rest =>
    let v := a.checkAccess broker principal topic operation
    match v.result with
    -- a denial ends the meeting, and the demands after it are not looked at
    | .error e => ⟨.error (.denied e), v.asked, v.authorizer⟩
    | .ok () =>
      let w := v.authorizer.meet broker principal rest
      ⟨w.result, v.asked ++ w.asked, w.authorizer⟩

/-- Checks that a principal may execute a statement. -/
def check (a : Authorizer) (broker : Broker) (catalog : Catalog) (principal : String)
    (statement : Statement) : Verdict (Except AdmissionError Unit) :=
  a.meet broker principal (statement.demands catalog)

/-- The text that shows the state of an authorizer. -/
def print (a : Authorizer) : String :=
  "TopicAuthorizer \x7b cached_decisions: " ++ toString a.size ++ " \x7d"

end Authorizer

end Sluice
