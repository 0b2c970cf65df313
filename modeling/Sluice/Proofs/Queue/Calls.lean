import Mathlib.Data.List.Induction
import Sluice.Proofs.Queue.Effects

/-!
# A queue that is called by one client at a time

What a queue replies depends on nothing but the calls before and the replies to them. The rows that
were queued and the rows that were delivered can be read off this record, and so can whether the
queue was closed; the rows in the queue are those queued and not yet delivered. The counters of the
limit, the flag and the buffer of a queue are there to reply from without keeping the record.

An offer that has to wait finds nobody to make room, as there is one client only. In a run it comes
with a close that ends the wait.

## Main definitions

* `Call`, `Reply`, `ResultQueue.call`: the calls of a queue, each made alone.
* `queuedRows`, `deliveredRows`, `isClosedBy`, `expected`: what a record says, and the reply that it
  leads to.

## Main statements

* `ResultQueue.Recorded.call`: one call keeps the queue in accord with the record.
* `ResultQueue.replies_from_record`: every run of calls replies as the record before each call says.
-/

namespace Sluice

namespace ResultQueue

variable {α : Type}

/-! ## Calls -/

/-- A call of a queue. -/
inductive Call (α : Type) where
  | accept (row : Option α)
  /-- takes the oldest row; with nobody to bring one, waiting for it makes no difference -/
  | poll (waits : Bool)
  /-- moves all rows behind those that the client holds -/
  | drain (held : List α)
  | length
  | close
deriving DecidableEq

/-- What a call replies. -/
inductive Reply (α : Type) where
  | offer (offer : Offer α)
  | row (row : Option α)
  /-- the rows that the client holds now, and how many of them were moved -/
  | moved (held : List α) (number : Nat)
  | length (number : Nat)
  | done
deriving DecidableEq

/-- Makes a call. An offer that has to wait is ended by a close. -/
def call (q : ResultQueue α) : Call α → Reply α × ResultQueue α
  | .accept row =>
    match q.accept row with
    | (q, .finished outcome) => (.offer (.finished outcome), q)
    | (q, offer) => let (q, offer) := q.close.retry offer; (.offer offer, q)
  | .poll _ => let (row, q) := q.poll; (.row row, q)
  | .drain held => let (rows, q) := q.drain; (.moved (held ++ rows) rows.length, q)
  | .length => (.length q.length, q)
  | .close => (.done, q.close)

/-- A row is offered: it is turned away, or queued if there is room, or else the wait for room ends
with the queue closed. -/
theorem call_accept_row (q : ResultQueue α) (row : α) :
    q.call (.accept (some row)) =
      if q.isClosed then (.offer (.finished .closed), q)
      else match q.claim? with
        | none => (.offer (.finished .limitReached), q)
        | some q' =>
          if q'.rows.length < q'.capacity then
            (.offer (.finished .queued), (q'.place row).count)
          else (.offer (.finished .closed), q'.close) := by
  -- the offer goes as far as it can, and a close ends the wait of one that is held up
  rw [call, accept_row]
  by_cases shut : q.isClosed
  · simp [shut]
  · cases q.claim? with
    | none => simp [shut]
    | some q' =>
      by_cases room : q'.rows.length < q'.capacity
      · simp [shut, room]
      · simp [shut, room, retry_close]

/-- A call that was made, and the reply to it. -/
structure Entry (α : Type) where
  call : Call α
  reply : Reply α

/-- The entry that a call makes in the record. -/
def entry (q : ResultQueue α) (call : Call α) : Entry α :=
  ⟨call, (q.call call).1⟩

/-- The queue after calls. -/
def after (q : ResultQueue α) : List (Call α) → ResultQueue α
  | [] => q
  | call :: rest => (q.call call).2.after rest

/-- The record of calls, first to last. -/
def record (q : ResultQueue α) : List (Call α) → List (Entry α)
  | [] => []
  | call :: rest => q.entry call :: (q.call call).2.record rest

theorem after_concat (q : ResultQueue α) (calls : List (Call α)) (last : Call α) :
    q.after (calls ++ [last]) = ((q.after calls).call last).2 := by
  induction calls generalizing q with
  | nil => rfl
  | cons call rest ih => exact ih (q.call call).2

theorem record_concat (q : ResultQueue α) (calls : List (Call α)) (last : Call α) :
    q.record (calls ++ [last]) = q.record calls ++ [(q.after calls).entry last] := by
  induction calls generalizing q with
  | nil => rfl
  | cons call rest ih =>
    rw [List.cons_append, record, ih]
    rfl

theorem map_call_record (q : ResultQueue α) (calls : List (Call α)) :
    (q.record calls).map (·.call) = calls := by
  induction calls generalizing q with
  | nil => rfl
  | cons call rest ih =>
    rw [record, List.map_cons, ih]
    rfl

/-! ## What a record says -/

namespace Entry

/-- The row that was queued, if one was. -/
def queued : Entry α → List α
  | ⟨.accept (some row), .offer (.finished .queued)⟩ => [row]
  | _ => []

/-- The rows that were delivered. -/
def delivered : Entry α → List α
  | ⟨.poll _, .row (some row)⟩ => [row]
  | ⟨.drain held, .moved rows _⟩ => rows.drop held.length
  | _ => []

/-- Whether the queue is closed after the entry: by the call, or so that a row was turned away. -/
def closes : Entry α → Bool
  | ⟨.close, _⟩ => true
  | ⟨.accept (some _), .offer (.finished .closed)⟩ => true
  | _ => false

end Entry

/-- The rows that were queued, in order. -/
def queuedRows (record : List (Entry α)) : List α :=
  record.flatMap (·.queued)

/-- The rows that were delivered, in order. -/
def deliveredRows (record : List (Entry α)) : List α :=
  record.flatMap (·.delivered)

/-- The rows that were queued and not delivered. -/
def heldRows (record : List (Entry α)) : List α :=
  (queuedRows record).drop (deliveredRows record).length

namespace Settings

/-- Whether the queue has been closed, by a call or by a callback that ran for a row queued. -/
def isClosedBy (s : Settings) (record : List (Entry α)) : Bool :=
  record.any (·.closes) || (s.callbacks (queuedRows record).length).any (·.closes)

/-- What becomes of a row that is offered. A row that would have to wait is turned away by the close
that ends the wait. -/
def expectedOutcome (s : Settings) (record : List (Entry α)) : Outcome :=
  if s.isClosedBy record then .closed
  else if s.limit.any (· ≤ (queuedRows record).length) then .limitReached
  else if (heldRows record).length < s.capacity then .queued
  else .closed

/-- The reply that the record leads to. -/
def expected (s : Settings) (record : List (Entry α)) : Call α → Reply α
  | .accept none => .offer (.finished .nullRow)
  | .accept (some _) => .offer (.finished (s.expectedOutcome record))
  | .poll _ => .row (heldRows record).head?
  | .drain held => .moved (held ++ heldRows record) (heldRows record).length
  | .length => .length (heldRows record).length
  | .close => .done

end Settings

/-! ## Accord with the record -/

/-- The queue is as the record says. Until it is closed, a slot of the limit is claimed for each row
queued and for no other; the offer that waited when it was closed keeps the slot it claimed. -/
structure Recorded (s : Settings) (record : List (Entry α)) (q : ResultQueue α) : Prop where
  settings : q.settings = s
  rows : deliveredRows record ++ q.rows = queuedRows record
  room : q.rows.length ≤ s.capacity
  counted : q.counted = (queuedRows record).length
  isClosed : q.isClosed = s.isClosedBy record
  claims : ∀ limit, s.limit = some limit → (queuedRows record).length ≤ limit ∧
    (q.isClosed = false → q.unclaimed + (queuedRows record).length = limit)
  events : q.events = (s.callbacks (queuedRows record).length).map (·.label)

variable {s : Settings} {record : List (Entry α)} {q : ResultQueue α}

theorem recorded_start (s : Settings) : Recorded s ([] : List (Entry α)) (start s) where
  settings := rfl
  rows := rfl
  room := Nat.zero_le _
  counted := rfl
  isClosed := rfl
  claims limit hl := by simp [start, create, hl, queuedRows]
  events := rfl

namespace Recorded

/-! ### What the queue has for a reply -/

theorem limit_eq (h : Recorded s record q) : q.limit = s.limit := by
  rw [← h.settings]
  rfl

theorem capacity_eq (h : Recorded s record q) : q.capacity = s.capacity := by
  rw [← h.settings]
  rfl

theorem heldRows_eq (h : Recorded s record q) : heldRows record = q.rows := by
  rw [heldRows, ← h.rows, List.drop_left]

/-- While the queue is open, no slot is left exactly when as many rows as the limit were queued. -/
theorem claim?_eq_none_iff (h : Recorded s record q) (isOpen : q.isClosed = false) :
    q.claim? = none ↔ s.limit.any (· ≤ (queuedRows record).length) := by
  rw [ResultQueue.claim?_eq_none_iff, h.limit_eq]
  cases hl : s.limit with
  | none => simp
  | some limit =>
    have balance := (h.claims limit hl).2 isOpen
    simp only [Option.some.injEq, exists_eq_left', Option.any_some, decide_eq_true_eq]
    omega

/-! ### What a call does -/

/-- A call that queues no row, and delivers rows from the front of the queue if any. -/
theorem quiet {e : Entry α} {q' : ResultQueue α} (h : Recorded s record q)
    (settings : q'.settings = q.settings) (counted : q'.counted = q.counted)
    (events : q'.events = q.events) (queued : e.queued = [])
    (rows : e.delivered ++ q'.rows = q.rows) (isClosed : q'.isClosed = (q.isClosed || e.closes))
    (unclaimed : q'.isClosed = false → q'.unclaimed = q.unclaimed) :
    Recorded s (record ++ [e]) q' := by
  -- the rows queued are those of the record before
  have same : queuedRows (record ++ [e]) = queuedRows record := by simp [queuedRows, queued]
  constructor
  · rw [settings, h.settings]
  · rw [same, ← h.rows, ← rows]
    simp [deliveredRows]
  · -- rows are only delivered, so there is no more room taken than before
    have fewer : q'.rows.length ≤ q.rows.length := by
      rw [← rows, List.length_append]
      omega
    exact Nat.le_trans fewer h.room
  · rw [counted, same, h.counted]
  · rw [isClosed, h.isClosed]
    simp [Settings.isClosedBy, same, Bool.or_right_comm]
  · -- of a queue that is still open, no slot was claimed
    intro limit hl
    rw [same]
    refine ⟨(h.claims limit hl).1, ?_⟩
    intro isOpen
    have wasOpen : q.isClosed = false := by
      rw [isClosed, Bool.or_eq_false_iff] at isOpen
      exact isOpen.1
    rw [unclaimed isOpen]
    exact (h.claims limit hl).2 wasOpen
  · rw [events, same, h.events]

/-- A call that queues a row: the row takes one of the unclaimed slots and is counted. -/
theorem queue {q' : ResultQueue α} (h : Recorded s record q) (row : α)
    (room : q.rows.length < q.capacity) (isOpen : q.isClosed = false)
    (claimed : q.claim? = some q') :
    Recorded s (record ++ [⟨.accept (some row), .offer (.finished .queued)⟩])
      (q'.place row).count := by
  obtain ⟨left, rfl, taken⟩ := exists_of_claim? claimed
  -- the row is the last of those queued
  have one : queuedRows (record ++ [⟨.accept (some row), .offer (.finished .queued)⟩]) =
      queuedRows record ++ [row] := by
    simp [queuedRows, Entry.queued]
  have settings : (place { q with unclaimed := left } row).settings = s := h.settings
  rw [count_eq, settings]
  constructor
  · exact h.settings
  · rw [one, ← h.rows]
    simp [deliveredRows, Entry.delivered, place]
  · rw [h.capacity_eq] at room
    simpa [place] using Nat.succ_le_of_lt room
  · rw [one]
    simp [place, h.counted]
  · -- the callbacks that run now are those for the row that is queued
    rw [Settings.isClosedBy, one, List.length_append, List.length_singleton,
      Settings.callbacks_succ]
    simp [place, h.isClosed, h.counted, Settings.isClosedBy, Entry.closes, Bool.or_assoc]
  · -- one slot fewer is left, and one row more is queued
    intro limit hl
    have taken := taken limit (h.limit_eq.trans hl)
    have balance := (h.claims limit hl).2 isOpen
    rw [one, List.length_append, List.length_singleton]
    refine ⟨by omega, fun _ => ?_⟩
    show left + _ = limit
    omega
  · rw [one, List.length_append, List.length_singleton, Settings.callbacks_succ]
    simp [place, h.events, h.counted]

/-- An offer of a row has the outcome that the record leads to. -/
theorem offer {row : α} {reply : Reply α} {q' : ResultQueue α} (h : Recorded s record q)
    (called : q.call (.accept (some row)) = (reply, q')) :
    reply = .offer (.finished (s.expectedOutcome record)) ∧
      Recorded s (record ++ [⟨.accept (some row), reply⟩]) q' := by
  -- the ways of an offer, in the order in which it meets them
  rw [call_accept_row] at called
  unfold Settings.expectedOutcome
  rw [← h.isClosed, h.heldRows_eq]
  by_cases shut : q.isClosed
  · rw [if_pos shut] at called ⊢
    obtain ⟨rfl, rfl⟩ := Prod.mk.inj called
    exact ⟨rfl, h.quiet rfl rfl rfl rfl rfl (by simp [shut]) (fun _ => rfl)⟩
  rw [if_neg shut] at called ⊢
  have isOpen : q.isClosed = false := Bool.eq_false_iff.mpr shut
  -- no slot is left exactly when as many rows are queued as the limit
  cases claimed : q.claim? with
  | none =>
    rw [claimed] at called
    obtain ⟨rfl, rfl⟩ := Prod.mk.inj called
    rw [if_pos ((h.claim?_eq_none_iff isOpen).mp claimed)]
    exact ⟨rfl, h.quiet rfl rfl rfl rfl rfl (by simp [Entry.closes]) (fun _ => rfl)⟩
  | some claimer =>
    rw [claimed] at called
    have left : ¬s.limit.any (· ≤ (queuedRows record).length) := by
      rw [← h.claim?_eq_none_iff isOpen, claimed]
      simp
    rw [if_neg left]
    obtain ⟨unclaimed, rfl, -⟩ := exists_of_claim? claimed
    rw [← h.capacity_eq]
    by_cases room : q.rows.length < q.capacity
    · obtain ⟨rfl, rfl⟩ := Prod.mk.inj ((if_pos room).symm.trans called)
      rw [if_pos room]
      exact ⟨rfl, h.queue row room isOpen claimed⟩
    · -- the offer waits, and the close that ends the wait is part of the call
      obtain ⟨rfl, rfl⟩ := Prod.mk.inj ((if_neg room).symm.trans called)
      rw [if_neg room]
      exact ⟨rfl, h.quiet rfl rfl rfl rfl rfl (by simp [close, Entry.closes]) nofun⟩

/-- Every call replies what the record leads to, and is in the record from then on. -/
theorem call {c : Call α} {reply : Reply α} {q' : ResultQueue α} (h : Recorded s record q)
    (called : q.call c = (reply, q')) :
    reply = s.expected record c ∧ Recorded s (record ++ [⟨c, reply⟩]) q' := by
  -- all calls but an offer of a row leave the rows queued as they are
  cases c with
  | accept row =>
    cases row with
    | none =>
      obtain ⟨rfl, rfl⟩ := Prod.mk.inj called
      exact ⟨rfl, h.quiet rfl rfl rfl rfl rfl (by simp [Entry.closes]) (fun _ => rfl)⟩
    | some row => exact h.offer called
  -- a poll delivers the first row, if there is one
  | poll waits =>
    obtain ⟨rfl, rfl⟩ := Prod.mk.inj called
    refine ⟨by rw [Settings.expected, h.heldRows_eq], ?_⟩
    refine h.quiet rfl rfl rfl rfl ?_ (by simp [Entry.closes]) (fun _ => rfl)
    cases q.rows <;> simp [Entry.delivered]
  -- and a drain delivers all of them
  | drain held =>
    obtain ⟨rfl, rfl⟩ := Prod.mk.inj called
    refine ⟨by rw [Settings.expected, h.heldRows_eq], ?_⟩
    exact h.quiet rfl rfl rfl rfl (by simp [Entry.delivered]) (by simp [Entry.closes])
      (fun _ => rfl)
  | length =>
    obtain ⟨rfl, rfl⟩ := Prod.mk.inj called
    refine ⟨by rw [Settings.expected, h.heldRows_eq]; rfl, ?_⟩
    exact h.quiet rfl rfl rfl rfl rfl (by simp [Entry.closes]) (fun _ => rfl)
  | close =>
    obtain ⟨rfl, rfl⟩ := Prod.mk.inj called
    exact ⟨rfl, h.quiet rfl rfl rfl rfl rfl (by simp [close, Entry.closes]) nofun⟩

end Recorded

/-- After every run of calls the queue is as the record says. -/
theorem recorded_after (s : Settings) (calls : List (Call α)) :
    Recorded s ((start s).record calls) ((start s).after calls) := by
  induction calls using List.reverseRecOn with
  | nil => exact recorded_start s
  | append_singleton calls last ih =>
    rw [after_concat, record_concat]
    exact (ih.call rfl).2

/-- A queue that is called by one client at a time does as its record says. After every run of calls
on a new queue, whatever its limit and capacity, the next call replies what the calls so far and the
replies to them lead to. The rows delivered and then the rows in the queue are the rows that were
queued, in order; there are never more in the queue than its capacity, nor more queued than the
limit. The callback for every row has run once for each row queued, and the limit handler once with
the row that reached the limit, before the callback for that row. -/
theorem replies_from_record (s : Settings) (calls : List (Call α)) :
    let q : ResultQueue α := (start s).after calls
    let record := (start s).record calls
    record.map (·.call) = calls ∧
      (∀ next, (q.call next).1 = s.expected record next) ∧
      deliveredRows record ++ q.rows = queuedRows record ∧
      q.length ≤ s.capacity ∧
      (∀ limit, s.limit = some limit → (queuedRows record).length ≤ limit) ∧
      q.events = (s.callbacks (queuedRows record).length).map (·.label) ∧
      (∀ c, s.onQueued = some c →
        (∀ handler, s.onLimit = some handler → handler.label ≠ c.label) →
          q.events.count c.label = (queuedRows record).length) ∧
      ∀ handler limit, s.onLimit = some handler → s.limit = some limit →
        (∀ c, s.onQueued = some c → c.label ≠ handler.label) →
          q.events.count handler.label =
            if 0 < limit ∧ (queuedRows record).length = limit then 1 else 0 := by
  intro q record
  -- what the record says is kept by every call, so it holds after all of them
  have recorded : Recorded s record q := recorded_after s calls
  refine ⟨map_call_record _ _, fun next => (recorded.call rfl).1, recorded.rows, recorded.room,
    fun limit hl => (recorded.claims limit hl).1, recorded.events, ?_, ?_⟩
  · intro c registered apart
    rw [recorded.events, Settings.count_onQueued registered apart]
  · intro handler limit registered hl apart
    have bound := (recorded.claims limit hl).1
    rw [recorded.events, Settings.count_onLimit registered apart]
    -- as no more rows are queued than the limit, it is reached when as many are
    have same : s.reached (queuedRows record).length ↔
        0 < limit ∧ (queuedRows record).length = limit := by
      simp only [Settings.reached_iff, hl, Option.some.injEq, exists_eq_left']
      omega
    simp only [same]

/-- A queue with a limit of two turns the third row away, though it was drained before. -/
example :
    let s : Settings := ⟨none, 500, some 2, some ⟨"limit", false⟩, none⟩
    ((start s).record [.accept (some 'a'), .accept none, .accept (some 'b'), .drain ['z'],
      .accept (some 'c'), .length]).map (·.reply) =
      [.offer (.finished .queued), .offer (.finished .nullRow), .offer (.finished .queued),
        .moved ['z', 'a', 'b'] 2, .offer (.finished .limitReached), .length 0] := by
  decide

end ResultQueue

end Sluice
