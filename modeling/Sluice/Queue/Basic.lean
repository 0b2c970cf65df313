import Sluice.Queue.QueryId

/-!
# Result queues

The rows of a transient query pass through a bounded queue: producers offer rows, a single consumer
takes them in order. A queue may have a limit on the number of rows it ever takes. An offer claims
a slot of the limit before the row is queued, and a claim is never given back, so the limit cannot
be overrun however producers interleave. An offer to a full queue waits, looking again and again
whether the queue was closed.

An offer is a sequence of atomic steps, `ResultQueue.step`, between which other clients of the
queue may act. `accept` carries out the steps of one offer without interruption; what it leaves
unfinished is an offer that waits for room.

The rows of a queue pass through a channel, whose slots are set aside when it is made. There is no
channel with more slots than memory can have, or than the memory at hand has room for.

## Main definitions

* `ResultQueue`, `Callback`: the state of a queue, and what it runs when rows are queued.
* `ChannelError`, `checkChannel`, `allocate`: why there is no channel, and a queue on one.
* `Offer`, `Outcome`: how far an offer has come, and what became of its row.
* `accept`, `retry`, `poll`, `exchange`, `drain`, `close`: the operations.
-/

namespace Sluice

/-- What became of a row offered to a queue. -/
inductive Outcome where
  | queued
  /-- there was no row -/
  | nullRow
  /-- all slots of the limit were claimed already -/
  | limitReached
  /-- the queue was closed before the row could be queued -/
  | closed
deriving DecidableEq, Repr

/-- The name of an outcome. -/
def Outcome.name : Outcome → String
  | .queued => "Queued"
  | .nullRow => "NullRow"
  | .limitReached => "LimitReached"
  | .closed => "Closed"

/-- How far an offer has come. -/
inductive Offer (α : Type) where
  /-- nothing has been looked at -/
  | begun (row : Option α)
  /-- there is a row, and the queue was open -/
  | admitted (row : α)
  /-- a slot of the limit has been claimed -/
  | claimed (row : α)
  /-- with its slot claimed, the queue was seen open -/
  | ready (row : α)
  /-- the row is in the queue but has not been counted -/
  | placed
  | finished (outcome : Outcome)
deriving DecidableEq, Repr

/-- What a queue runs when rows are queued: it logs a label and may close the queue. -/
structure Callback where
  label : String
  closes : Bool
deriving DecidableEq, Repr

/-- Why there is no channel for the rows of a queue. -/
inductive ChannelError where
  /-- its slots take more bytes than one allocation may have -/
  | capacityOverflow
  /-- there is no room left for the bytes that its slots take -/
  | memoryExhausted (bytes : Nat)
deriving DecidableEq, Repr

/-- What the error says. -/
def ChannelError.message : ChannelError → String
  | .capacityOverflow => "capacity overflow"
  | .memoryExhausted bytes => "memory allocation of " ++ toString bytes ++ " bytes failed"

/-- A bounded queue of rows with an optional limit. -/
structure ResultQueue (α : Type) where
  id : Option QueryId
  capacity : Nat
  limit : Option Nat
  /-- the slots of the limit that are not claimed -/
  unclaimed : Nat
  /-- the number of rows counted as queued -/
  counted : Nat
  /-- the rows in the queue, the oldest first -/
  rows : List α
  isClosed : Bool
  /-- runs when the row that reaches the limit is counted -/
  onLimit : Option Callback
  /-- runs whenever a row is counted -/
  onQueued : Option Callback
  /-- the labels logged, in order -/
  events : List String
deriving DecidableEq, Repr

namespace ResultQueue

variable {α : Type}

/-- The number of rows a queue holds unless another capacity is asked for. -/
def defaultCapacity : Nat := 500

/-- An open queue without rows, on a channel of the capacity given. -/
def create (limit : Option Nat) (capacity : Nat) (id : Option QueryId) : ResultQueue α where
  id := id
  capacity := capacity
  limit := limit
  unclaimed := limit.getD 0
  counted := 0
  rows := []
  isClosed := false
  onLimit := none
  onQueued := none
  events := []

/-! ## Channels -/

/-- The bytes of a slot of a channel: those of a row, which is an address, a length and a capacity,
and those of a stamp. -/
def slotBytes : Nat := 32

/-- The most bytes that one allocation may have. -/
def greatestAllocation : Nat := 9223372036854775807

/-- The most slots that a channel may have. -/
def greatestCapacity : Nat := greatestAllocation / slotBytes

/-- Checks that there can be a channel with slots for a number of rows, in a memory with a number of
bytes left. -/
def checkChannel (memory capacity : Nat) : Except ChannelError Unit :=
  if greatestCapacity < capacity then .error .capacityOverflow
  else if memory < capacity * slotBytes then .error (.memoryExhausted (capacity * slotBytes))
  else .ok ()

/-- Makes a queue, in a memory with a number of bytes left. -/
def allocate (memory : Nat) (limit : Option Nat) (capacity : Nat) (id : Option QueryId) :
    Except ChannelError (ResultQueue α) := do
  checkChannel memory capacity
  return create limit capacity id

/-! ## Atomic steps -/

/-- Claims a slot of the limit, if there is no limit or a slot is left. -/
def claim? (q : ResultQueue α) : Option (ResultQueue α) :=
  match q.limit with
  | none => some q
  | some _ => if q.unclaimed = 0 then none else some { q with unclaimed := q.unclaimed - 1 }

/-- Puts a row behind the others. -/
def place (q : ResultQueue α) (row : α) : ResultQueue α :=
  { q with rows := q.rows ++ [row] }

/-- Runs a callback, if there is one. -/
def run (q : ResultQueue α) : Option Callback → ResultQueue α
  | none => q
  | some c => { q with events := q.events ++ [c.label], isClosed := q.isClosed || c.closes }

/-- Counts a row as queued and runs the callbacks that this calls for. -/
def count (q : ResultQueue α) : ResultQueue α :=
  let q := { q with counted := q.counted + 1 }
  let q := if some q.counted = q.limit then q.run q.onLimit else q
  q.run q.onQueued

/-- Carries out the next step of an offer. An offer that finds the queue full goes back to look
whether the queue was closed. -/
def step (q : ResultQueue α) : Offer α → ResultQueue α × Offer α
  | .begun none => (q, .finished .nullRow)
  | .begun (some row) => (q, if q.isClosed then .finished .closed else .admitted row)
  | .admitted row =>
    match q.claim? with
    | some q => (q, .claimed row)
    | none => (q, .finished .limitReached)
  -- the queue may have been closed since the slot was claimed
  | .claimed row => (q, if q.isClosed then .finished .closed else .ready row)
  | .ready row => if q.rows.length < q.capacity then (q.place row, .placed) else (q, .claimed row)
  | .placed => (q.count, .finished .queued)
  | .finished outcome => (q, .finished outcome)

/-! ## Operations -/

/-- Carries out up to `steps` steps of an offer, until it is finished or finds the queue full. -/
def settle : Nat → ResultQueue α → Offer α → ResultQueue α × Offer α
  | 0, q, offer => (q, offer)
  | steps + 1, q, offer =>
    match offer, q.step offer with
    | .ready _, (q, .claimed row) => (q, .claimed row)
    | _, (q, .finished outcome) => (q, .finished outcome)
    | _, (q, offer) => settle steps q offer

/-- Offers a row. The offer is finished, or it has claimed a slot and waits for room. -/
def accept (q : ResultQueue α) (row : Option α) : ResultQueue α × Offer α :=
  q.settle 5 (.begun row)

/-- Takes up an offer that is not finished. -/
def retry (q : ResultQueue α) (offer : Offer α) : ResultQueue α × Offer α :=
  q.settle 5 offer

/-- Takes the oldest row, if there is one. -/
def poll (q : ResultQueue α) : Option α × ResultQueue α :=
  (q.rows.head?, { q with rows := q.rows.tail })

/-- Offers a row while a consumer waits to take one; answers the row taken too. If a queue has no
room and no row in it either, the row passes straight to the consumer. -/
def exchange (q : ResultQueue α) (row : Option α) : ResultQueue α × Offer α × Option α :=
  match q.accept row with
  -- the queue is full, so the consumer goes first
  | (q, .claimed row) =>
    match q.poll with
    | (some oldest, q) =>
      let (q, offer) := q.retry (.claimed row)
      (q, offer, some oldest)
    | (none, q) =>
      -- the row goes straight to the consumer and never counts as one in the queue
      let (q, offer) := q.retry .placed
      (q, offer, some row)
  -- there was room, or the offer is over, and then the consumer takes what is there
  | (q, offer) =>
    let (taken, q) := q.poll
    (q, offer, taken)

/-- Takes all rows. -/
def drain (q : ResultQueue α) : List α × ResultQueue α :=
  (q.rows, { q with rows := [] })

/-- Closes the queue to further rows; the rows in it stay. -/
def close (q : ResultQueue α) : ResultQueue α :=
  { q with isClosed := true }

/-- The number of rows in the queue. -/
def length (q : ResultQueue α) : Nat :=
  q.rows.length

/-- The text that shows the state of a queue. -/
def print (q : ResultQueue α) : String :=
  let option (text : Option String) : String :=
    match text with
    | some text => "Some(" ++ text ++ ")"
    | none => "None"
  "TransientQueryQueue \x7b query_id: " ++ option (q.id.map QueryId.print) ++
    ", len: " ++ toString q.length ++
    ", capacity: " ++ option (some (toString q.capacity)) ++
    ", limit: " ++ option (q.limit.map toString) ++
    ", closed: " ++ (if q.isClosed then "true" else "false") ++ " \x7d"

end ResultQueue

end Sluice
