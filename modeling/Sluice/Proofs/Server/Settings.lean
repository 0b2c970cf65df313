import Sluice.Proofs.Queue.Effects
import Sluice.Proofs.Server.Requests

/-!
# The settings of a server

Settings are checked when they are loaded: queues must hold rows, and offers must wait. Nothing is
asked of the time for which decisions are kept, and no capacity is too large for the check. If
statements are checked, a server cannot start when the time is too long; and no server makes a queue
whose slots are more than one allocation may have, or than there is memory left for. The settings
were accepted all the same. A queue that is made takes a first row at once.

## Main definitions

* `Config.Valid`, `Config.Loaded`: what is checked of settings, and the settings that were loaded.

## Main statements

* `Config.Loaded.valid`: settings that were loaded have been checked.
* `Server.start_eq_ok_iff`, `Server.openQueue_eq_ok_iff`: when a server starts, and makes a queue.
* `Server.usable_of_loaded`: with which settings a server starts, and which queues it makes.
* `Server.usable_of_loaded_exceeded`: settings that are accepted, and with which no server starts,
  and settings that are accepted, and with which no queue is made.
-/

namespace Sluice

/-! ## Loading -/

namespace Config

/-- The settings let queues hold rows and offers wait. -/
structure Valid (c : Config) : Prop where
  capacity_ne_zero : c.queueCapacity ≠ 0
  timeout_ne_zero : c.offerTimeout ≠ 0

/-- The settings were loaded, in one of the two ways. -/
inductive Loaded (c : Config) : Prop where
  | json (text : String) (accepted : ofJson text = .ok c)
  | properties (properties : List (String × String)) (accepted : ofProperties properties = .ok c)

variable {c : Config}

/-- The check accepts valid settings and no others. -/
theorem validate_eq_ok_iff {u : Unit} : c.validate = .ok u ↔ c.Valid := by
  unfold validate
  by_cases capacity : c.queueCapacity = 0
  · rw [if_pos capacity]
    exact ⟨nofun, fun valid => absurd capacity valid.capacity_ne_zero⟩
  · rw [if_neg capacity]
    by_cases timeout : c.offerTimeout = 0
    · rw [if_pos timeout]
      exact ⟨nofun, fun valid => absurd timeout valid.timeout_ne_zero⟩
    · rw [if_neg timeout]
      exact ⟨fun _ => ⟨capacity, timeout⟩, fun _ => rfl⟩

/-- Settings that were read and accepted are valid. -/
theorem valid_of_ofDocument {d : Json.Document} (h : ofDocument d = .ok c) : c.Valid := by
  unfold ofDocument at h
  split at h
  · cases h
  · obtain ⟨u, checked, rfl⟩ := map_eq_ok_iff.mp h
    exact validate_eq_ok_iff.mp checked

/-- Settings that were loaded are valid. -/
theorem Loaded.valid (loaded : c.Loaded) : c.Valid := by
  cases loaded with
  | json text accepted =>
    unfold ofJson at accepted
    split at accepted
    · cases accepted
    · exact valid_of_ofDocument accepted
  | properties properties accepted => exact valid_of_ofDocument accepted

end Config

/-! ## Queues -/

namespace ResultQueue

variable {α : Type} {q : ResultQueue α}

/-- An offer is finished at once if the queue is open and has room, and a slot can be claimed. -/
theorem accept_of_room (opened : q.isClosed = false) (slots : q.claim? ≠ none)
    (room : q.rows.length < q.capacity) (row : α) :
    ∃ queue, q.accept (some row) = (queue, .finished .queued) ∧ queue.rows = q.rows ++ [row] := by
  obtain ⟨q', claimed⟩ := Option.ne_none_iff_exists'.mp slots
  obtain ⟨left, rfl, -⟩ := exists_of_claim? claimed
  refine ⟨(place { q with unclaimed := left } row).count, ?_, ?_⟩
  · rw [accept_row, claimed, if_neg (by simp [opened])]
    exact if_pos room
  · rw [count_eq]
    rfl

/-- A new queue that holds rows takes a first one at once, unless its limit admits none. -/
theorem accept_create {limit : Option Nat} {capacity : Nat} (room : capacity ≠ 0)
    (slots : limit ≠ some 0) (id : Option QueryId) (row : α) :
    ∃ queue, (create limit capacity id).accept (some row) = (queue, .finished .queued) ∧
      queue.rows = [row] := by
  apply accept_of_room
  · rfl
  · -- all slots of a new queue are unclaimed
    intro exhausted
    obtain ⟨n, limited, none_left⟩ := claim?_eq_none_iff.mp exhausted
    obtain rfl : limit = some n := limited
    obtain rfl : n = 0 := none_left
    exact slots rfl
  · exact Nat.pos_of_ne_zero room

/-- There is a channel for a number of rows if their slots are one allocation, for which there is
memory left. -/
theorem checkChannel_eq_ok_iff {memory capacity : Nat} {u : Unit} :
    checkChannel memory capacity = .ok u ↔
      capacity ≤ greatestCapacity ∧ capacity * slotBytes ≤ memory := by
  unfold checkChannel
  -- the size of the allocation is checked before there is a look at the memory
  by_cases overflow : greatestCapacity < capacity
  · rw [if_pos overflow]
    exact ⟨nofun, fun fits => absurd overflow (Nat.not_lt.mpr fits.1)⟩
  · rw [if_neg overflow]
    by_cases exhausted : memory < capacity * slotBytes
    · rw [if_pos exhausted]
      exact ⟨nofun, fun fits => absurd exhausted (Nat.not_lt.mpr fits.2)⟩
    · rw [if_neg exhausted]
      exact ⟨fun _ => ⟨Nat.not_lt.mp overflow, Nat.not_lt.mp exhausted⟩, fun _ => rfl⟩

/-- Too many slots for one allocation are noticed before the memory is. -/
theorem checkChannel_eq_overflow_iff (memory : Nat) {capacity : Nat} :
    checkChannel memory capacity = .error .capacityOverflow ↔ greatestCapacity < capacity := by
  unfold checkChannel
  by_cases overflow : greatestCapacity < capacity
  · rw [if_pos overflow]
    exact ⟨fun _ => overflow, fun _ => rfl⟩
  · rw [if_neg overflow]
    refine ⟨?_, fun h => absurd h overflow⟩
    split <;> exact nofun

end ResultQueue

/-! ## Servers -/

namespace Server

variable {config : Config} {server : Server} {memory : Nat} {limit : Option Nat} {bits : BitVec 128}
  {queue : ResultQueue Row}

/-- A server starts unless statements are checked and decisions are to be kept for too long. -/
theorem start_eq_ok_iff :
    (∃ server, start config = .ok server) ↔
      (config.authorizationEnabled → config.decisionExpiry ≤ greatestExpiry) := by
  unfold start
  by_cases checked : config.authorizationEnabled
  · by_cases long : greatestExpiry < config.decisionExpiry
    · simp [checked, Authorizer.create, long, Except.map]
    · simp [checked, Authorizer.create, long, Except.map, Nat.not_lt.mp long]
  · simp [checked]

/-- A server makes a queue if there can be a channel of the capacity that its settings ask for. -/
theorem openQueue_eq_ok_iff :
    server.openQueue memory limit bits = .ok queue ↔
      (server.config.queueCapacity ≤ ResultQueue.greatestCapacity ∧
        server.config.queueCapacity * ResultQueue.slotBytes ≤ memory) ∧
      server.newQueue limit bits = queue := by
  unfold openQueue ResultQueue.allocate
  rw [bind_eq_ok_iff]
  constructor
  · rintro ⟨u, fits, made⟩
    exact ⟨ResultQueue.checkChannel_eq_ok_iff.mp fits, Except.ok.inj made⟩
  · rintro ⟨fits, rfl⟩
    exact ⟨(), ResultQueue.checkChannel_eq_ok_iff.mpr fits, rfl⟩

theorem openQueue_eq_overflow_iff :
    server.openQueue memory limit bits = .error .capacityOverflow ↔
      ResultQueue.greatestCapacity < server.config.queueCapacity := by
  unfold openQueue ResultQueue.allocate
  rw [← ResultQueue.checkChannel_eq_overflow_iff memory, bind_eq_error_iff]
  simp [pure, Except.pure]

/-- With settings that were loaded, a server starts unless it checks statements and is to keep
decisions for more than a thousand years. A server that starts makes a queue, whatever its limit,
unless the capacity that is set is too large for one allocation or for the memory left. Every queue
that is made takes a first row at once, unless its limit admits none. -/
theorem usable_of_loaded (loaded : config.Loaded) :
    ((∃ server, start config = .ok server) ↔
      (config.authorizationEnabled → config.decisionExpiry ≤ greatestExpiry)) ∧
    ∀ server, start config = .ok server → ∀ memory limit bits,
      (server.openQueue memory limit bits = .error .capacityOverflow ↔
        ResultQueue.greatestCapacity < config.queueCapacity) ∧
      ((∃ queue, server.openQueue memory limit bits = .ok queue) ↔
        config.queueCapacity ≤ ResultQueue.greatestCapacity ∧
          config.queueCapacity * ResultQueue.slotBytes ≤ memory) ∧
      ∀ queue, server.openQueue memory limit bits = .ok queue → limit ≠ some 0 → ∀ row,
        ∃ queue', queue.accept (some row) = (queue', .finished .queued) ∧ queue'.rows = [row] := by
  refine ⟨start_eq_ok_iff, ?_⟩
  intro server started memory limit bits
  obtain ⟨authorizer, rfl⟩ := exists_of_start started
  refine ⟨openQueue_eq_overflow_iff, ?_, ?_⟩
  · constructor
    · rintro ⟨queue, made⟩
      exact (openQueue_eq_ok_iff.mp made).1
    · intro fits
      exact ⟨_, openQueue_eq_ok_iff.mpr ⟨fits, rfl⟩⟩
  · intro queue made slots row
    -- a queue that is made is a new one, and holds rows, as its capacity was checked
    obtain ⟨-, rfl⟩ := openQueue_eq_ok_iff.mp made
    exact ResultQueue.accept_create loaded.valid.capacity_ne_zero slots _ row

/-- A server with the longest time for decisions and the largest queues. -/
theorem usable_of_loaded_longest :
    let config : Config :=
      { decisionExpiry := 31536000000, queueCapacity := 288230376151711743 }
    config.Loaded ∧
      ∃ server, start config = .ok server ∧
        ∃ queue, server.openQueue 9223372036854775807 (some 1) 0 = .ok queue ∧
          ∃ queue', queue.accept (some []) = (queue', .finished .queued) ∧ queue'.rows = [[]] := by
  intro config
  have loaded : config.Loaded :=
    .properties [("authorization.cache.expiry.time.secs", "31536000000"),
      ("client.id", "sluice"), ("query.queue.capacity", " 288230376151711743 ")] (by decide +kernel)
  obtain ⟨starts, queues⟩ := usable_of_loaded loaded
  -- the time is the longest that may be set, and the capacity the greatest
  obtain ⟨server, started⟩ := starts.mpr fun _ => by decide
  obtain ⟨-, makes, takes⟩ := queues server started 9223372036854775807 (some 1) 0
  obtain ⟨queue, made⟩ := makes.mpr (by decide)
  exact ⟨loaded, server, started, queue, made, takes queue made (by decide) []⟩

/-- Settings that are accepted, in both ways: one second more, and no server starts; one row more,
and a server starts, but makes no queue, however much memory is left. -/
theorem usable_of_loaded_exceeded :
    (let config : Config := { decisionExpiry := 31536000001 }
     Config.ofJson "\x7b\"authorization.cache.expiry.time.secs\":31536000001\x7d" = .ok config ∧
      Config.ofProperties [("authorization.cache.expiry.time.secs", "31536000001")] = .ok config ∧
      start config = .error .tooLong) ∧
    (let config : Config := { queueCapacity := 288230376151711744 }
     Config.ofJson "\x7b\"query.queue.capacity\":288230376151711744\x7d" = .ok config ∧
      Config.ofProperties [("query.queue.capacity", "288230376151711744")] = .ok config ∧
      ∃ server, start config = .ok server ∧ ∀ memory limit bits,
        server.openQueue memory limit bits = .error .capacityOverflow) := by
  -- the numbers fit 64 bits, and neither is zero, so the settings are accepted in both ways
  refine ⟨⟨?_, ?_, ?_⟩, ?_, ?_, ?_⟩
  · decide +kernel
  · decide +kernel
  · rfl
  · decide +kernel
  · decide +kernel
  · refine ⟨_, rfl, ?_⟩
    intro memory limit bits
    exact openQueue_eq_overflow_iff.mpr (by decide)

end Server

end Sluice
