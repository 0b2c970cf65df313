import Mathlib.Data.List.Basic
import Sluice.Queue.Basic

/-!
# What the steps of a queue do

The capacity, the limit and the callbacks of a queue stay as they are while it is used. What each
step does to the rest is said here once. The callbacks that a queue runs are determined by the
number of rows counted so far: those that run when the `n`-th row is counted are the limit handler,
if that row reaches the limit, and the callback for every row.

## Main definitions

* `ResultQueue.Settings`, `ResultQueue.start`: what stays of a queue, and a queue that starts so.
* `Settings.callbacks`: what has run when a number of rows was counted.

## Main statements

* `ResultQueue.count_eq`, `ResultQueue.exists_of_claim?`, `ResultQueue.accept_row`: what counting,
  claiming and offering do.
* `Settings.count_onLimit`: the limit handler runs once, with the row that reaches the limit.
-/

namespace Sluice

namespace ResultQueue

variable {α : Type}

/-! ## Settings -/

/-- What stays the same of a queue while it is used. -/
structure Settings where
  id : Option QueryId
  capacity : Nat
  limit : Option Nat
  onLimit : Option Callback
  onQueued : Option Callback

/-- The settings of a queue. -/
def settings (q : ResultQueue α) : Settings :=
  ⟨q.id, q.capacity, q.limit, q.onLimit, q.onQueued⟩

/-- An open queue without rows, on which the callbacks are registered. -/
def start (s : Settings) : ResultQueue α :=
  { create s.limit s.capacity s.id with onLimit := s.onLimit, onQueued := s.onQueued }

namespace Settings

/-- The callbacks that run when the `n`-th row is counted. -/
def callbacksAt (s : Settings) (n : Nat) : List Callback :=
  (if some n = s.limit then s.onLimit.toList else []) ++ s.onQueued.toList

/-- The callbacks that run until `n` rows are counted. -/
def callbacks (s : Settings) (n : Nat) : List Callback :=
  (List.range n).flatMap fun i => s.callbacksAt (i + 1)

variable {s : Settings} {handler : Callback}

theorem callbacks_succ (n : Nat) : s.callbacks (n + 1) = s.callbacks n ++ s.callbacksAt (n + 1) := by
  simp [callbacks, List.range_succ]

/-- Whether the row that reaches the limit is among the first `n`. No row reaches a limit of zero. -/
def reached (s : Settings) (n : Nat) : Bool :=
  s.limit.any fun limit => 0 < limit && limit ≤ n

theorem reached_iff {n : Nat} :
    s.reached n ↔ ∃ limit, s.limit = some limit ∧ 0 < limit ∧ limit ≤ n := by
  unfold reached
  cases s.limit with
  | none => simp
  | some limit => simp

/-- A callback never logs the label of another. -/
theorem count_label_eq_zero {callback : Option Callback} {label : String}
    (apart : ∀ c, callback = some c → c.label ≠ label) :
    (callback.toList.map (·.label)).count label = 0 := by
  rw [List.count_eq_zero]
  intro found
  obtain ⟨c, present, same⟩ := List.mem_map.mp found
  exact apart c (Option.mem_toList.mp present) same

/-- The limit handler runs once, with the row that reaches the limit. -/
theorem count_onLimit (registered : s.onLimit = some handler)
    (apart : ∀ c, s.onQueued = some c → c.label ≠ handler.label) (n : Nat) :
    ((s.callbacks n).map (·.label)).count handler.label = if s.reached n then 1 else 0 := by
  -- by the number of rows, of which only the last can be the one that reaches the limit
  induction n with
  | zero =>
    have unreached : ¬s.reached 0 := by
      rw [reached_iff]
      rintro ⟨limit, -, positive, atMost⟩
      omega
    rw [if_neg unreached]
    rfl
  | succ n ih =>
    rw [callbacks_succ, List.map_append, List.count_append, ih, callbacksAt, List.map_append,
      List.count_append, count_label_eq_zero apart]
    cases hl : s.limit with
    | none => simp [reached, hl]
    | some limit =>
      by_cases last : n + 1 = limit
      · -- this row reaches the limit, and no row did before
        subst last
        simp [reached, hl, registered]
      · have same : s.reached (n + 1) = s.reached n := by
          rw [Bool.eq_iff_iff, reached_iff, reached_iff]
          simp only [hl, Option.some.injEq, exists_eq_left']
          omega
        simp [same, last]

/-- The callback for every row runs as often as rows are counted. -/
theorem count_onQueued {c : Callback} (registered : s.onQueued = some c)
    (apart : ∀ handler, s.onLimit = some handler → handler.label ≠ c.label) (n : Nat) :
    ((s.callbacks n).map (·.label)).count c.label = n := by
  -- by the number of rows
  induction n with
  | zero => rfl
  | succ n ih =>
    -- the handler of the limit has another label
    have limitPart : ((if some (n + 1) = s.limit then s.onLimit.toList else []).map
        (·.label)).count c.label = 0 := by
      split
      · exact count_label_eq_zero apart
      · rfl
    rw [callbacks_succ, List.map_append, List.count_append, ih, callbacksAt, List.map_append,
      List.count_append, limitPart]
    simp [registered]

end Settings

/-! ## Steps -/

variable {q q' : ResultQueue α} {row : α}

/-- Counting a row runs the callbacks for it, any of which may close the queue. -/
theorem count_eq (q : ResultQueue α) :
    q.count = { q with
      counted := q.counted + 1
      events := q.events ++ (q.settings.callbacksAt (q.counted + 1)).map (·.label)
      isClosed := q.isClosed || (q.settings.callbacksAt (q.counted + 1)).any (·.closes) } := by
  unfold count Settings.callbacksAt settings
  by_cases reached : some (q.counted + 1) = q.limit
  · cases q.onLimit <;> cases q.onQueued <;> simp [reached, run, Bool.or_assoc]
  · cases q.onQueued <;> simp [reached, run]

/-- No slot can be claimed of a limit all of whose slots are claimed. -/
theorem claim?_eq_none_iff : q.claim? = none ↔ ∃ n, q.limit = some n ∧ q.unclaimed = 0 := by
  unfold claim?
  cases q.limit with
  | none => simp
  | some n => simp

/-- Claiming takes one of the unclaimed slots, if there is a limit. -/
theorem exists_of_claim? (h : q.claim? = some q') :
    ∃ left, q' = { q with unclaimed := left } ∧
      ∀ n, q.limit = some n → left + 1 = q.unclaimed := by
  unfold claim? at h
  split at h
  · -- without a limit there is always a slot
    rename_i unlimited
    obtain rfl := Option.some.inj h
    exact ⟨q.unclaimed, rfl, by simp [unlimited]⟩
  · split at h
    · cases h
    · rename_i left
      obtain rfl := Option.some.inj h
      exact ⟨q.unclaimed - 1, rfl, fun _ _ => Nat.succ_pred_eq_of_ne_zero left⟩

/-! ## Offers that are not interrupted -/

/-- A row is offered: the queue is closed, or no slot can be claimed, or the row is put in the queue
and counted if there is room, and waits otherwise. -/
theorem accept_row (q : ResultQueue α) (row : α) :
    q.accept (some row) =
      if q.isClosed then (q, .finished .closed)
      else match q.claim? with
        | none => (q, .finished .limitReached)
        | some q' =>
          if q'.rows.length < q'.capacity then ((q'.place row).count, .finished .queued)
          else (q', .claimed row) := by
  -- each way of the offer runs through some of its steps
  unfold accept
  by_cases shut : q.isClosed
  · simp [settle, step, shut]
  · cases claimed : q.claim? with
    | none => simp [settle, step, shut, claimed]
    | some q' =>
      obtain ⟨left, rfl, -⟩ := exists_of_claim? claimed
      by_cases room : q.rows.length < q.capacity
      · simp [settle, step, shut, claimed, room]
      · simp [settle, step, shut, claimed, room]

/-- An offer that waits gives up when the queue is closed. -/
theorem retry_close (q : ResultQueue α) (row : α) :
    q.close.retry (.claimed row) = (q.close, .finished .closed) :=
  rfl

end ResultQueue

end Sluice
