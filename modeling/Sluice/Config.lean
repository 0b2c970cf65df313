import Sluice.Json.Decode
import Sluice.Json.Reader
import Sluice.Number.Width
import Sluice.Queue.Basic
import Sluice.Text.Blank
import Sluice.Text.Integer

/-!
# Configuration

The settings of a server: whether statements are checked, how long and how many decisions are
kept, and the shape of result queues. They are read from JSON, where a missing setting has its
default and an unknown one is ignored, or from properties, whose values are texts: a value that
reads as a number counts as that number, one that reads as a truth value as that, and any other as
itself.

## Main definitions

* `Config`, `ConfigError`: the settings, and why they were rejected.
* `Config.ofJson`, `Config.ofProperties`: the two ways to load them.
-/

namespace Sluice

open Json

/-- The settings of a server. -/
structure Config where
  authorizationEnabled : Bool := true
  /-- how many seconds a decision is kept -/
  decisionExpiry : Nat := 30
  /-- how many decisions are kept -/
  decisionCapacity : Nat := 10000
  queueCapacity : Nat := ResultQueue.defaultCapacity
  /-- how many milliseconds an offer to a full queue waits before it looks again -/
  offerTimeout : Nat := 100
deriving DecidableEq, Repr, Inhabited

namespace Config

/-! ## Keys -/

/-- The key of `authorizationEnabled`. -/
def enabledKey : String := "authorization.enabled"

/-- The key of `decisionExpiry`. -/
def expiryKey : String := "authorization.cache.expiry.time.secs"

/-- The key of `decisionCapacity`. -/
def entriesKey : String := "authorization.cache.max.entries"

/-- The key of `queueCapacity`. -/
def capacityKey : String := "query.queue.capacity"

/-- The key of `offerTimeout`. -/
def timeoutKey : String := "query.queue.offer.timeout.ms"

end Config

/-- Why a configuration was rejected. -/
inductive ConfigError where
  /-- the text is not JSON, or a setting is not of its type -/
  | unreadable
  | mustBePositive (key : String)
deriving DecidableEq, Repr

/-- What the error says. -/
def ConfigError.message : ConfigError → String
  | .unreadable => "invalid configuration"
  | .mustBePositive key => "invalid value for " ++ key ++ ": must be at least 1"

namespace Config

/-- Checks that queues hold rows and offers wait. -/
def validate (c : Config) : Except ConfigError Unit :=
  if c.queueCapacity = 0 then .error (.mustBePositive capacityKey)
  else if c.offerTimeout = 0 then .error (.mustBePositive timeoutKey)
  else .ok ()

/-- A setting, or its default if it is missing. -/
def setting? {α : Type} (read? : Document → Option α) (default : α) (member : Option Document) :
    Option α :=
  match member with
  | none => some default
  | some d => read? d

/-- Reads settings, in order where they are written as an array. -/
def ofDocument? (d : Document) : Option Config := do
  let defaults : Config := {}
  let number? := Document.natural? Number.uint64Greatest
  match ← d.record? [enabledKey, expiryKey, entriesKey, capacityKey, timeoutKey] 0 with
  | [enabled, expiry, entries, capacity, timeout] =>
    return {
      authorizationEnabled := ← setting? Document.bool? defaults.authorizationEnabled enabled
      decisionExpiry := ← setting? number? defaults.decisionExpiry expiry
      decisionCapacity := ← setting? number? defaults.decisionCapacity entries
      queueCapacity := ← setting? number? defaults.queueCapacity capacity
      offerTimeout := ← setting? number? defaults.offerTimeout timeout }
  | _ => none

/-- Reads and checks settings. -/
def ofDocument (d : Document) : Except ConfigError Config :=
  match ofDocument? d with
  | none => .error .unreadable
  | some c => c.validate.map fun _ => c

/-- Loads settings from a JSON text. -/
def ofJson (text : String) : Except ConfigError Config :=
  match Document.read? text with
  | none => .error .unreadable
  | some d => ofDocument d

/-- What the value of a property counts as. -/
def propertyDocument (value : String) : Document :=
  let trimmed := Text.trim value.toList
  match Text.readUInt64? trimmed with
  | some n => .number (.integer n)
  | none =>
    if trimmed = "true".toList then .bool true
    else if trimmed = "false".toList then .bool false
    else .string value

/-- Loads settings from properties. -/
def ofProperties (properties : List (String × String)) : Except ConfigError Config :=
  ofDocument (.object (properties.map fun (key, value) => (key, propertyDocument value)))

/-- The settings by their keys. -/
def toJson (c : Config) : Value :=
  .object [
    (enabledKey, .bool c.authorizationEnabled),
    (expiryKey, Value.integer c.decisionExpiry),
    (entriesKey, Value.integer c.decisionCapacity),
    (capacityKey, Value.integer c.queueCapacity),
    (timeoutKey, Value.integer c.offerTimeout)]

end Config

end Sluice
