import Sluice.Proofs.Queue.Effects

/-!
# A queue under traffic

Any number of producers offer rows to one queue, a consumer takes rows from it, and someone may
close it. Each producer makes one call after another, but the atomic steps of the calls of different
producers come in any order, with those of the consumer and the closer in between. A schedule is a
list of moves; a move that is not possible when its turn comes changes nothing.

Two moves are there besides the steps of a call. A call that waits for room may look again though
there is room by now, and a row may pass to a waiting consumer without a stay in the queue, as in a
queue that has no room at all.

## Main definitions

* `Parcel`, `Attempt`, `Traffic`: a row marked with the call that offers it, a call, and a queue with
  its calls.
* `Move`, `Traffic.move`, `Traffic.after`: schedules.
* `Progress`, `Traffic.Step`: all that a call, and any move, can do.

## Main statements

* `Traffic.step_move`: every move is a step.
* `Progress.enqueued`, `Progress.slots`, `Progress.counted_add`: what the progress of a call keeps.
-/

namespace Sluice

variable {β : Type}

/-! ## How far an offer has come -/

namespace Offer

/-- The call is over. -/
def isFinished : Offer β → Bool
  | .finished _ => true
  | _ => false

/-- The row has been put in the queue. -/
def isPlaced : Offer β → Bool
  | .placed | .finished .queued => true
  | _ => false

/-- The row has been counted. -/
def isCounted : Offer β → Bool
  | .finished .queued => true
  | _ => false

/-- A slot of the limit has been claimed, and its row is in the queue or may still come there. -/
def holdsSlot : Offer β → Bool
  | .claimed _ | .ready _ | .placed | .finished .queued => true
  | _ => false

theorem isPlaced_of_isCounted {offer : Offer β} (counted : offer.isCounted) : offer.isPlaced := by
  cases offer with
  | finished outcome => cases outcome <;> first | rfl | cases counted
  | _ => cases counted

theorem holdsSlot_of_isPlaced {offer : Offer β} (placed : offer.isPlaced) : offer.holdsSlot := by
  cases offer with
  | placed => rfl
  | finished outcome => cases outcome <;> first | rfl | cases placed
  | _ => cases placed

/-- When a call is over, its row has been counted if it was put in the queue. -/
theorem isCounted_eq_isPlaced {offer : Offer β} (finished : offer.isFinished) :
    offer.isCounted = offer.isPlaced := by
  cases offer with
  | finished outcome => cases outcome <;> rfl
  | _ => cases finished

/-- When a call is over, it holds a slot if its row was put in the queue. -/
theorem holdsSlot_eq_isPlaced {offer : Offer β} (finished : offer.isFinished) :
    offer.holdsSlot = offer.isPlaced := by
  cases offer with
  | finished outcome => cases outcome <;> rfl
  | _ => cases finished

/-- The row that comes into the queue between two states of an offer. -/
def placing : Offer β → Offer β → List β
  | .ready row, .placed => [row]
  | _, _ => []

/-- The wait for room runs out of time, and the queue is looked at again. -/
def timeOut : Offer β → Offer β
  | .ready row => .claimed row
  | offer => offer

end Offer

/-- A waiting consumer takes the row straight from the offer, if no row is in the queue. -/
def ResultQueue.handOver (q : ResultQueue β) : Offer β → Offer β × List β
  | .ready row => if q.rows.isEmpty then (.placed, [row]) else (.ready row, [])
  | offer => (offer, [])

/-! ## Schedules -/

/-- A row, marked with the producer that offers it and the number of the call. -/
structure Parcel (P α : Type) where
  sender : P
  call : Nat
  row : α

/-- A call that offers a row. -/
structure Attempt (P α : Type) where
  producer : P
  row : Option α
  /-- whether the queue was closed when the call began -/
  late : Bool
  offer : Offer (Parcel P α)

/-- The row of a call, marked. -/
def Attempt.parcel {P α : Type} (a : Attempt P α) (call : Nat) : Option (Parcel P α) :=
  a.row.map (⟨a.producer, call, ·⟩)

theorem Attempt.parcel_eq_some_iff {P α : Type} {a : Attempt P α} {call : Nat} {x : Parcel P α} :
    a.parcel call = some x ↔ a.producer = x.sender ∧ call = x.call ∧ a.row = some x.row := by
  obtain ⟨sender, number, row⟩ := x
  rw [Attempt.parcel, Option.map_eq_some_iff]
  constructor
  · rintro ⟨row, found, made⟩
    obtain ⟨rfl, rfl, rfl⟩ := Parcel.mk.inj made
    exact ⟨rfl, rfl, found⟩
  · rintro ⟨rfl, rfl, found⟩
    exact ⟨row, found, rfl⟩

/-- A queue and the calls that were made to it. -/
structure Traffic (P α : Type) where
  queue : ResultQueue (Parcel P α)
  /-- the calls that offer rows, in the order in which they began -/
  attempts : List (Attempt P α)
  /-- the rows that the consumer has taken, in order -/
  delivered : List (Parcel P α)

/-- What may happen next. -/
inductive Move (P α : Type) where
  /-- a producer begins a call -/
  | begin (producer : P) (row : Option α)
  /-- a call takes its next step -/
  | advance (call : Nat)
  /-- a call that waits for room runs out of time -/
  | timeOut (call : Nat)
  /-- the consumer takes the row of a call that waits for room -/
  | handOver (call : Nat)
  /-- the consumer takes the oldest row -/
  | poll
  | close

namespace Traffic

variable {P α : Type}

/-- A queue before any call. -/
def start (s : ResultQueue.Settings) : Traffic P α :=
  ⟨.start s, [], []⟩

/-- All rows that ever came into the queue, in order. -/
def enqueued (t : Traffic P α) : List (Parcel P α) :=
  t.delivered ++ t.queue.rows

/-- A call that begins now. -/
def opening (t : Traffic P α) (producer : P) (row : Option α) : Attempt P α :=
  ⟨producer, row, t.queue.isClosed, .begun (row.map (⟨producer, t.attempts.length, ·⟩))⟩

/-- The traffic after a call went on, with the queue then and the rows that passed to the consumer. -/
def goOn (t : Traffic P α) (call : Nat) (a : Attempt P α) (queue : ResultQueue (Parcel P α))
    (offer : Offer (Parcel P α)) (handed : List (Parcel P α)) : Traffic P α :=
  ⟨queue, t.attempts.set call { a with offer }, t.delivered ++ handed⟩

/-- Lets a call act, if there is such a call. -/
def proceed (t : Traffic P α) (call : Nat)
    (act : Offer (Parcel P α) → ResultQueue (Parcel P α) × Offer (Parcel P α) × List (Parcel P α)) :
    Traffic P α :=
  match t.attempts[call]? with
  | none => t
  | some a =>
    let (queue, offer, handed) := act a.offer
    t.goOn call a queue offer handed

variable [DecidableEq P]

/-- Whether all calls of a producer are over. -/
def isIdle (t : Traffic P α) (producer : P) : Bool :=
  t.attempts.all fun a => a.producer ≠ producer || a.offer.isFinished

/-- Makes a move, if it is possible. -/
def move (t : Traffic P α) : Move P α → Traffic P α
  | .begin producer row =>
    if t.isIdle producer then { t with attempts := t.attempts ++ [t.opening producer row] } else t
  | .advance call => t.proceed call fun offer =>
    let (queue, offer) := t.queue.step offer
    (queue, offer, [])
  | .timeOut call => t.proceed call fun offer => (t.queue, offer.timeOut, [])
  | .handOver call => t.proceed call fun offer => (t.queue, t.queue.handOver offer)
  | .poll =>
    let (row, queue) := t.queue.poll
    { t with queue, delivered := t.delivered ++ row.toList }
  | .close => { t with queue := t.queue.close }

/-- The traffic after moves. -/
def after (t : Traffic P α) (moves : List (Move P α)) : Traffic P α :=
  moves.foldl move t

theorem after_append (t : Traffic P α) (earlier later : List (Move P α)) :
    t.after (earlier ++ later) = (t.after earlier).after later :=
  List.foldl_append

end Traffic

/-! ## All that a call can do -/

/-- How a call may go on: from a queue and an offer to those after, with the rows that pass to the
consumer. -/
inductive Progress (q : ResultQueue β) :
    Offer β → ResultQueue β → Offer β → List β → Prop
  | noRow : Progress q (.begun none) q (.finished .nullRow) []
  | admitted (row : β) (isOpen : q.isClosed = false) :
      Progress q (.begun (some row)) q (.admitted row) []
  | shutOut (row : β) (shut : q.isClosed = true) :
      Progress q (.begun (some row)) q (.finished .closed) []
  | claimed (row : β) (q' : ResultQueue β) (claim : q.claim? = some q') :
      Progress q (.admitted row) q' (.claimed row) []
  | refused (row : β) (noSlot : q.claim? = none) :
      Progress q (.admitted row) q (.finished .limitReached) []
  | ready (row : β) (isOpen : q.isClosed = false) : Progress q (.claimed row) q (.ready row) []
  /-- the slot that was claimed stays claimed -/
  | gaveUp (row : β) (shut : q.isClosed = true) :
      Progress q (.claimed row) q (.finished .closed) []
  | placed (row : β) (room : q.rows.length < q.capacity) :
      Progress q (.ready row) (q.place row) .placed []
  | handedOver (row : β) (empty : q.rows = []) : Progress q (.ready row) q .placed [row]
  | timedOut (row : β) : Progress q (.ready row) q (.claimed row) []
  | counted : Progress q .placed q.count (.finished .queued) []
  | none (offer : Offer β) : Progress q offer q offer []

variable {q q' : ResultQueue β} {offer offer' : Offer β} {handed : List β}

/-- The steps of an offer are progress. -/
theorem progress_step (q : ResultQueue β) (offer : Offer β) :
    Progress q offer (q.step offer).1 (q.step offer).2 [] := by
  -- a case for each state of the offer, and for what the queue answers in it
  unfold ResultQueue.step
  cases offer with
  | begun row =>
    cases row with
    | none => exact .noRow
    | some row =>
      cases shut : q.isClosed with
      | true => exact .shutOut row shut
      | false => exact .admitted row shut
  | admitted row =>
    cases claim : q.claim? with
    | none => exact .refused row claim
    | some q' => exact .claimed row q' claim
  | claimed row =>
    cases shut : q.isClosed with
    | true => exact .gaveUp row shut
    | false => exact .ready row shut
  -- without room the offer is left waiting
  | ready row =>
    by_cases room : q.rows.length < q.capacity
    · simp only [room, if_true]
      exact .placed row room
    · simp only [room, if_false]
      exact .timedOut row
  | placed => exact .counted
  | finished outcome => exact .none _

/-- Running out of time is progress. -/
theorem progress_timeOut (q : ResultQueue β) (offer : Offer β) :
    Progress q offer q offer.timeOut [] := by
  cases offer with
  | ready row => exact .timedOut row
  | _ => exact .none _

/-- Handing a row over is progress. -/
theorem progress_handOver (q : ResultQueue β) (offer : Offer β) :
    Progress q offer q (q.handOver offer).1 (q.handOver offer).2 := by
  cases offer with
  | ready row =>
    unfold ResultQueue.handOver
    cases empty : q.rows.isEmpty with
    | true => exact .handedOver row (List.isEmpty_iff.mp empty)
    | false => exact .none _
  | _ => exact .none _

namespace Progress

/-- A call that is over does not go on. -/
theorem eq_of_isFinished (h : Progress q offer q' offer' handed) (finished : offer.isFinished) :
    offer' = offer := by
  cases h with
  | none => rfl
  | _ => cases finished

theorem settings_eq (h : Progress q offer q' offer' handed) : q'.settings = q.settings := by
  cases h with
  | claimed row q' claim =>
    obtain ⟨left, rfl, -⟩ := ResultQueue.exists_of_claim? claim
    rfl
  | counted =>
    rw [ResultQueue.count_eq]
    rfl
  | _ => rfl

/-- Closing is for good. -/
theorem isClosed_of_isClosed (h : Progress q offer q' offer' handed) (shut : q.isClosed = true) :
    q'.isClosed = true := by
  cases h with
  | claimed row q' claim =>
    obtain ⟨left, rfl, -⟩ := ResultQueue.exists_of_claim? claim
    exact shut
  | counted => simp [ResultQueue.count_eq, shut]
  | _ => exact shut

/-- A row that has been put in the queue was put there once. -/
theorem placing_add (h : Progress q offer q' offer' handed) :
    (offer.placing offer').length + offer.isPlaced.toNat = offer'.isPlaced.toNat := by
  cases h with
  | none => cases offer <;> simp [Offer.placing]
  | _ => rfl

/-- A row that has been put in the queue stays an enqueued row. -/
theorem isPlaced_of_isPlaced (h : Progress q offer q' offer' handed) (placed : offer.isPlaced) :
    offer'.isPlaced := by
  cases h with
  | counted => rfl
  | none => exact placed
  | _ => cases placed

/-- A row comes into the queue behind all others, though it may have left already. -/
theorem enqueued (h : Progress q offer q' offer' handed) :
    handed ++ q'.rows = q.rows ++ offer.placing offer' := by
  cases h with
  | claimed row q' claim =>
    obtain ⟨left, rfl, -⟩ := ResultQueue.exists_of_claim? claim
    simp [Offer.placing]
  | handedOver row empty => simp [Offer.placing, empty]
  | counted => simp [ResultQueue.count_eq, Offer.placing]
  | none => cases offer <;> simp [Offer.placing]
  | _ => simp [Offer.placing, ResultQueue.place]

/-- The queue does not outgrow its capacity. -/
theorem room (h : Progress q offer q' offer' handed) (room : q.rows.length ≤ q.capacity) :
    q'.rows.length ≤ q'.capacity := by
  cases h with
  | claimed row q' claim =>
    obtain ⟨left, rfl, -⟩ := ResultQueue.exists_of_claim? claim
    exact room
  | placed row room => simpa [ResultQueue.place] using Nat.succ_le_of_lt room
  | counted => simpa [ResultQueue.count_eq] using room
  | _ => exact room

/-- Slots go over from the queue to the offer that claims them, and are not given back. Only when the
queue is closed may a slot be left to an offer that does not use it. -/
theorem slots (h : Progress q offer q' offer' handed) {limit : Nat} (limited : q.limit = some limit) :
    q'.unclaimed + offer'.holdsSlot.toNat ≤ q.unclaimed + offer.holdsSlot.toNat ∧
      (q'.isClosed = false →
        q'.unclaimed + offer'.holdsSlot.toNat = q.unclaimed + offer.holdsSlot.toNat) := by
  -- one slot goes over with a claim, and the others stay where they are
  cases h with
  | claimed row q' claim =>
    obtain ⟨left, rfl, taken⟩ := ResultQueue.exists_of_claim? claim
    have taken := taken limit limited
    simp [Offer.holdsSlot, taken]
  | gaveUp row shut => simp [Offer.holdsSlot, shut]
  | counted => simp [ResultQueue.count_eq, Offer.holdsSlot]
  | _ => simp [Offer.holdsSlot, ResultQueue.place]

/-- No slot is left once all are claimed. -/
theorem unclaimed_eq_zero (h : Progress q offer q' offer' handed) {limit : Nat}
    (limited : q.limit = some limit) (noneLeft : q.unclaimed = 0) : q'.unclaimed = 0 := by
  cases h with
  | claimed row q' claim =>
    rw [ResultQueue.claim?_eq_none_iff.mpr ⟨limit, limited, noneLeft⟩] at claim
    cases claim
  | counted => simp [ResultQueue.count_eq, noneLeft]
  | _ => exact noneLeft

/-- The queue counts the offers that it tells so. -/
theorem counted_add (h : Progress q offer q' offer' handed) :
    q'.counted + offer.isCounted.toNat = q.counted + offer'.isCounted.toNat := by
  cases h with
  | claimed row q' claim =>
    obtain ⟨left, rfl, -⟩ := ResultQueue.exists_of_claim? claim
    rfl
  | counted => simp [ResultQueue.count_eq, Offer.isCounted]
  | _ => rfl

/-- The callbacks that have run are those for the rows counted. -/
theorem events_eq (h : Progress q offer q' offer' handed)
    (events : q.events = (q.settings.callbacks q.counted).map (·.label)) :
    q'.events = (q'.settings.callbacks q'.counted).map (·.label) := by
  rw [h.settings_eq]
  -- callbacks run only when a row is counted
  cases h with
  | claimed row q' claim =>
    obtain ⟨left, rfl, -⟩ := ResultQueue.exists_of_claim? claim
    exact events
  | counted =>
    rw [ResultQueue.count_eq]
    simp [ResultQueue.Settings.callbacks_succ, events]
  | _ => exact events

end Progress

/-! ## All that a move can do -/

namespace Traffic

variable {P α : Type}

/-- How traffic may go on. -/
inductive Step (t : Traffic P α) : Traffic P α → Prop
  | stays : Step t t
  | begins (producer : P) (row : Option α)
      (idle : ∀ a ∈ t.attempts, a.producer = producer → a.offer.isFinished) :
      Step t { t with attempts := t.attempts ++ [t.opening producer row] }
  | proceeds (call : Nat) (a : Attempt P α) (queue : ResultQueue (Parcel P α))
      (offer : Offer (Parcel P α)) (handed : List (Parcel P α))
      (found : t.attempts[call]? = some a)
      (progress : Progress t.queue a.offer queue offer handed) :
      Step t (t.goOn call a queue offer handed)
  | polls :
      Step t { t with queue := t.queue.poll.2, delivered := t.delivered ++ t.queue.poll.1.toList }
  | closes : Step t { t with queue := t.queue.close }

/-- A call goes on as far as an act that is progress takes it. -/
theorem step_proceed {act : Offer (Parcel P α) →
      ResultQueue (Parcel P α) × Offer (Parcel P α) × List (Parcel P α)} (t : Traffic P α)
    (progress : ∀ offer, Progress t.queue offer (act offer).1 (act offer).2.1 (act offer).2.2)
    (call : Nat) : t.Step (t.proceed call act) := by
  unfold proceed
  cases found : t.attempts[call]? with
  | none => exact .stays
  | some a => exact .proceeds call a _ _ _ found (progress a.offer)

/-- Every move is a step. -/
theorem step_move [DecidableEq P] (t : Traffic P α) (m : Move P α) : t.Step (t.move m) := by
  -- each move is a step if it is possible, and none otherwise
  cases m with
  | begin producer row =>
    rw [move]
    split
    · rename_i idle
      apply Step.begins
      intro a found same
      simpa [same] using List.all_eq_true.mp idle a found
    · exact .stays
  | advance call =>
    rw [move]
    apply step_proceed
    exact progress_step t.queue
  | timeOut call =>
    rw [move]
    apply step_proceed
    exact progress_timeOut t.queue
  | handOver call =>
    rw [move]
    apply step_proceed
    exact progress_handOver t.queue
  | poll => exact .polls
  | close => exact .closes

end Traffic

end Sluice
