import Mathlib.Data.List.Induction
import Sluice.Proofs.Queue.Traffic

/-!
# A queue that many clients call at once

However the atomic steps of concurrent calls interleave, no more rows come into a queue than its
limit allows, and the limit handler runs at most once, when they all have come. What carries this is
a balance over all calls, wherever each of them stands: a slot of the limit is unclaimed, or held by
exactly one call that has put its row in the queue or still may. Closing breaks the balance to one
side only, as a call that gives up keeps its slot.

The limit handler is triggered by another counter than the one that admits rows. The calls that were
counted are among those whose row was put in the queue, and these are among those that hold a slot,
so the counter that triggers the handler cannot run ahead.

## Main definitions

* `Attempt.Sound`: what is known of a call, wherever it stands.
* `Traffic.Balanced`: the invariant of a queue under traffic.

## Main statements

* `Traffic.Balanced.step`: every step keeps the invariant.
* `Traffic.limit_accounting`: what holds after every schedule.
-/

namespace Sluice

variable {P α : Type}

/-! ## What is known of a call -/

/-- What a queue does not take back: its settings, that it is closed, and that no slot is left. -/
structure ResultQueue.Follows {β : Type} (q q' : ResultQueue β) : Prop where
  settings : q'.settings = q.settings
  isClosed : q.isClosed = true → q'.isClosed = true
  noneLeft : ∀ limit, q.limit = some limit → q.unclaimed = 0 → q'.unclaimed = 0

theorem ResultQueue.Follows.limit_eq {β : Type} {q q' : ResultQueue β} (h : q.Follows q') :
    q'.limit = q.limit :=
  congrArg Settings.limit h.settings

theorem ResultQueue.Follows.isOpen_of_isOpen {β : Type} {q q' : ResultQueue β} (h : q.Follows q')
    (isOpen : q'.isClosed = false) : q.isClosed = false := by
  rw [Bool.eq_false_iff] at isOpen ⊢
  exact fun shut => isOpen (h.isClosed shut)

theorem Progress.follows {β : Type} {q q' : ResultQueue β} {offer offer' : Offer β}
    {handed : List β} (h : Progress q offer q' offer' handed) : q.Follows q' :=
  ⟨h.settings_eq, h.isClosed_of_isClosed, fun _ => h.unclaimed_eq_zero⟩

namespace Attempt

/-- What is known of a call where it stands, given its number and the queue. -/
def Stands (a : Attempt P α) (call : Nat) (q : ResultQueue (Parcel P α)) :
    Offer (Parcel P α) → Prop
  | .begun parcel => parcel = a.parcel call
  | .admitted parcel | .claimed parcel | .ready parcel =>
    a.parcel call = some parcel ∧ a.late = false
  | .placed | .finished .queued => a.row.isSome ∧ a.late = false
  | .finished .nullRow => a.row = none
  | .finished .limitReached => a.row.isSome ∧ q.unclaimed = 0 ∧ ∃ limit, q.limit = some limit
  | .finished .closed => q.isClosed = true

/-- What is known of a call. -/
structure Sound (a : Attempt P α) (call : Nat) (q : ResultQueue (Parcel P α)) : Prop where
  shut : a.late = true → q.isClosed = true
  stands : a.Stands call q a.offer

variable {a : Attempt P α} {call : Nat} {q q' : ResultQueue (Parcel P α)}

theorem isSome_row_of_parcel {parcel : Parcel P α} (h : a.parcel call = some parcel) :
    a.row.isSome := by
  rw [(parcel_eq_some_iff.mp h).2.2]
  rfl

/-- What is known of a call stays true while others go on. -/
theorem Sound.follows (h : a.Sound call q) (follows : q.Follows q') : a.Sound call q' where
  shut late := follows.isClosed (h.shut late)
  stands := by
    have stands := h.stands
    generalize a.offer = offer at stands ⊢
    cases offer with
    -- only limits that are reached and closed queues are facts about the queue, and both last
    | finished outcome =>
      cases outcome with
      | limitReached =>
        obtain ⟨row, noneLeft, limit, limited⟩ := stands
        exact ⟨row, follows.noneLeft limit limited noneLeft, limit,
          follows.limit_eq.trans limited⟩
      | closed => exact follows.isClosed stands
      | _ => exact stands
    | _ => exact stands

/-- What is known of a call after it went on. -/
theorem Sound.progress {offer : Offer (Parcel P α)} {handed : List (Parcel P α)}
    (h : a.Sound call q) (progress : Progress q a.offer q' offer handed) :
    { a with offer }.Sound call q' := by
  have follows := progress.follows
  refine ⟨fun late => follows.isClosed (h.shut late), ?_⟩
  -- what the progress does not touch is kept from before
  have kept := (h.follows follows).stands
  have stands := h.stands
  have shut := h.shut
  show a.Stands call q' offer
  generalize a.offer = old at progress stands kept
  cases progress with
  | noRow => exact Option.map_eq_none_iff.mp stands.symm
  | admitted parcel isOpen =>
    -- a call that began after the close would have found the queue closed
    refine ⟨stands.symm, Bool.eq_false_iff.mpr ?_⟩
    intro late
    rw [shut late] at isOpen
    cases isOpen
  | shutOut parcel isClosed => exact isClosed
  -- a slot that cannot be claimed is one that a limit has used up
  | refused parcel noSlot =>
    obtain ⟨limit, limited, noneLeft⟩ := ResultQueue.claim?_eq_none_iff.mp noSlot
    exact ⟨isSome_row_of_parcel stands.1, noneLeft, limit, limited⟩
  | gaveUp parcel isClosed => exact isClosed
  | placed parcel room => exact ⟨isSome_row_of_parcel stands.1, stands.2⟩
  | handedOver parcel empty => exact ⟨isSome_row_of_parcel stands.1, stands.2⟩
  | _ => exact kept

/-- A call whose row was put in the queue had a row, and began before the close. -/
theorem Sound.of_isPlaced (h : a.Sound call q) (placed : a.offer.isPlaced) :
    a.row.isSome ∧ a.late = false := by
  have stands := h.stands
  generalize a.offer = offer at placed stands
  cases offer with
  | placed => exact stands
  | finished outcome =>
    cases outcome with
    | queued => exact stands
    | _ => cases placed
  | _ => cases placed

/-- A call that is over put its row in the queue, unless it had none, or no slot was left, or the
queue is closed. -/
theorem Sound.isPlaced_of_isFinished (h : a.Sound call q) (finished : a.offer.isFinished)
    (isOpen : q.isClosed = false) (row : a.row.isSome)
    (left : ∀ limit, q.limit = some limit → q.unclaimed ≠ 0) : a.offer.isPlaced := by
  have stands := h.stands
  generalize a.offer = offer at finished stands ⊢
  cases offer with
  -- there are four ways for a call to end, and three of them are excluded
  | finished outcome =>
    cases outcome with
    | queued => rfl
    | nullRow =>
      rw [stands] at row
      cases row
    | limitReached =>
      obtain ⟨-, noneLeft, limit, limited⟩ := stands
      exact absurd noneLeft (left limit limited)
    | closed =>
      have shut : q.isClosed = true := stands
      rw [isOpen] at shut
      cases shut
  | _ => cases finished

end Attempt

/-! ## The balance -/

/-- An element of a list that is replaced is counted no longer, and the new one is. -/
theorem countP_set_add {β : Type} {l : List β} {i : Nat} {a : β} (found : l[i]? = some a) (b : β)
    (p : β → Bool) : (l.set i b).countP p + (p a).toNat = l.countP p + (p b).toNat := by
  obtain ⟨bound, rfl⟩ := List.getElem?_eq_some_iff.mp found
  rw [List.countP_set bound]
  cases here : p l[i] with
  | false => cases p b <;> rfl
  | true =>
    have positive : 0 < l.countP p := List.countP_pos_iff.mpr ⟨l[i], List.getElem_mem bound, here⟩
    cases p b <;> simp <;> omega

/-- What is found in a list with one more element is found in the list, or is that element. -/
theorem getElem?_concat {β : Type} {l : List β} {last b : β} {i : Nat}
    (found : (l ++ [last])[i]? = some b) : l[i]? = some b ∨ i = l.length ∧ b = last := by
  obtain old | new := Nat.lt_or_ge i l.length
  · rw [List.getElem?_append_left old] at found
    exact .inl found
  · rw [List.getElem?_append_right new] at found
    obtain ⟨here, rfl⟩ := List.getElem?_eq_some_iff.mp found
    rw [List.length_singleton] at here
    exact .inr ⟨by omega, List.getElem_singleton here⟩

namespace Traffic

/-- The number of calls that have come to where a condition holds. -/
def number (t : Traffic P α) (holds : Offer (Parcel P α) → Bool) : Nat :=
  t.attempts.countP fun a => holds a.offer

/-- The invariant of a queue with given settings. -/
structure Balanced (s : ResultQueue.Settings) (t : Traffic P α) : Prop where
  settings : t.queue.settings = s
  room : t.queue.rows.length ≤ t.queue.capacity
  sound : ∀ (call : Nat) (a : Attempt P α), t.attempts[call]? = some a → a.Sound call t.queue
  /-- a producer begins a call when its earlier calls are over -/
  turns : ∀ (i j : Nat) (a b : Attempt P α), i < j → t.attempts[i]? = some a →
    t.attempts[j]? = some b → a.producer = b.producer → a.offer.isFinished
  /-- a row in the queue, or taken from it, is that of a call that has put it there -/
  origin : ∀ x ∈ t.enqueued, ∃ a, t.attempts[x.call]? = some a ∧ a.parcel x.call = some x ∧
    a.offer.isPlaced
  order : t.enqueued.Pairwise fun x y => x.sender = y.sender → x.call < y.call
  placed : t.enqueued.length = t.number Offer.isPlaced
  /-- a slot is unclaimed or held by a call, unless a call gave up and left its slot unused -/
  slots : ∀ limit, s.limit = some limit →
    t.queue.unclaimed + t.number Offer.holdsSlot ≤ limit ∧
      (t.queue.isClosed = false → t.queue.unclaimed + t.number Offer.holdsSlot = limit)
  counted : t.queue.counted = t.number Offer.isCounted
  events : t.queue.events = (s.callbacks t.queue.counted).map (·.label)

variable {s : ResultQueue.Settings} {t t' : Traffic P α}

theorem balanced_start (s : ResultQueue.Settings) : Balanced s (start s : Traffic P α) where
  settings := rfl
  room := Nat.zero_le _
  sound _ _ := nofun
  turns _ _ _ _ _ := nofun
  origin _ := nofun
  order := .nil
  placed := rfl
  slots limit limited := by
    simp [start, ResultQueue.start, ResultQueue.create, limited, number]
  counted := rfl
  events := rfl

namespace Balanced

theorem limit_eq (h : Balanced s t) : t.queue.limit = s.limit := by
  rw [← h.settings]
  rfl

theorem capacity_eq (h : Balanced s t) : t.queue.capacity = s.capacity := by
  rw [← h.settings]
  rfl

end Balanced

/-! ### A call begins -/

theorem number_opening (t : Traffic P α) (producer : P) (row : Option α)
    {holds : Offer (Parcel P α) → Bool} (before : ∀ parcel, holds (.begun parcel) = false) :
    number { t with attempts := t.attempts ++ [t.opening producer row] } holds = t.number holds := by
  simp [number, opening, before]

/-- A call begins. It stands where nothing is counted yet. -/
theorem Balanced.begins (h : Balanced s t) (producer : P) (row : Option α)
    (idle : ∀ a ∈ t.attempts, a.producer = producer → a.offer.isFinished) :
    Balanced s { t with attempts := t.attempts ++ [t.opening producer row] } where
  settings := h.settings
  room := h.room
  sound call a found := by
    obtain old | ⟨rfl, rfl⟩ := getElem?_concat found
    · exact h.sound call a old
    · -- a call stands where nothing is known yet, or was there before
      exact ⟨id, rfl⟩
  turns i j a b before foundA foundB same := by
    obtain oldA | ⟨rfl, rfl⟩ := getElem?_concat foundA
    · obtain oldB | ⟨rfl, rfl⟩ := getElem?_concat foundB
      · exact h.turns i j a b before oldA oldB same
      · exact idle a (List.mem_of_getElem? oldA) same
    · -- no call comes after the last one
      have bound := (List.getElem?_eq_some_iff.mp foundB).1
      rw [List.length_append, List.length_singleton] at bound
      omega
  origin x present := by
    -- no row comes of a call that begins
    obtain ⟨a, found, own, placed⟩ := h.origin x present
    have bound := (List.getElem?_eq_some_iff.mp found).1
    exact ⟨a, (List.getElem?_append_left bound).trans found, own, placed⟩
  order := h.order
  placed := by
    rw [number_opening t producer row fun _ => rfl]
    exact h.placed
  slots := by
    rw [number_opening t producer row fun _ => rfl]
    exact h.slots
  counted := by
    rw [number_opening t producer row fun _ => rfl]
    exact h.counted
  events := h.events

/-! ### A call goes on -/

section Proceeds

variable {call : Nat} {a : Attempt P α} {queue : ResultQueue (Parcel P α)}
  {offer : Offer (Parcel P α)} {handed : List (Parcel P α)}

variable (queue) (offer) (handed) in
/-- A call that went on is counted where it stands now, and no longer where it stood. -/
theorem number_goOn (found : t.attempts[call]? = some a) (holds : Offer (Parcel P α) → Bool) :
    (t.goOn call a queue offer handed).number holds + (holds a.offer).toNat =
      t.number holds + (holds offer).toNat :=
  countP_set_add found { a with offer } fun a => holds a.offer

/-- The rows that came into the queue are those before and the row that the call put there, if it
did. -/
theorem enqueued_goOn (progress : Progress t.queue a.offer queue offer handed) :
    (t.goOn call a queue offer handed).enqueued = t.enqueued ++ a.offer.placing offer := by
  simp [Traffic.enqueued, goOn, progress.enqueued]

/-- What is found among the calls is the call that went on, or another that is as before. -/
theorem getElem?_goOn {i : Nat} {b : Attempt P α} (found : t.attempts[call]? = some a) :
    (t.goOn call a queue offer handed).attempts[i]? = some b ↔
      i = call ∧ b = { a with offer } ∨ i ≠ call ∧ t.attempts[i]? = some b := by
  have bound := (List.getElem?_eq_some_iff.mp found).1
  rw [goOn, List.getElem?_set]
  by_cases same : call = i
  · subst same
    simp [bound, eq_comm]
  · simp [same, Ne.symm same]

/-- A call before another went on, as seen from after. A call that was over is as before. -/
theorem exists_before_goOn (found : t.attempts[call]? = some a)
    (progress : Progress t.queue a.offer queue offer handed) {i : Nat} {b : Attempt P α}
    (after : (t.goOn call a queue offer handed).attempts[i]? = some b) :
    ∃ old, t.attempts[i]? = some old ∧ old.producer = b.producer ∧
      (old.offer.isFinished → b.offer.isFinished) := by
  obtain ⟨rfl, rfl⟩ | ⟨-, same⟩ := (getElem?_goOn found).mp after
  · refine ⟨a, found, rfl, fun finished => ?_⟩
    rw [progress.eq_of_isFinished finished]
    exact finished
  · exact ⟨b, same, rfl, id⟩

/-- A call after another went on, as seen from before. A row that was put in the queue is still
put there. -/
theorem exists_after_goOn (found : t.attempts[call]? = some a)
    (progress : Progress t.queue a.offer queue offer handed) {i : Nat} {b : Attempt P α}
    (before : t.attempts[i]? = some b) (placed : b.offer.isPlaced) :
    ∃ new, (t.goOn call a queue offer handed).attempts[i]? = some new ∧
      new.parcel i = b.parcel i ∧ new.offer.isPlaced := by
  by_cases same : i = call
  · subst same
    obtain rfl := Option.some.inj (found.symm.trans before)
    exact ⟨_, (getElem?_goOn found).mpr (.inl ⟨rfl, rfl⟩), rfl,
      progress.isPlaced_of_isPlaced placed⟩
  · exact ⟨b, (getElem?_goOn found).mpr (.inr ⟨same, before⟩), rfl, placed⟩

namespace Balanced

/-- The row that comes into the queue is that of the call that goes on. -/
theorem placing_eq (h : Balanced s t) (found : t.attempts[call]? = some a) {x : Parcel P α}
    (new : x ∈ a.offer.placing offer) :
    a.parcel call = some x ∧ a.offer.isFinished = false ∧ a.offer.isPlaced = false ∧
      offer.isPlaced := by
  have stands := (h.sound call a found).stands
  generalize a.offer = old at new stands ⊢
  unfold Offer.placing at new
  split at new
  · obtain rfl := List.mem_singleton.mp new
    exact ⟨stands.1, rfl, rfl, rfl⟩
  · cases new

/-- The row that comes into the queue is behind all rows that its producer offered before. -/
theorem call_lt_of_placing (h : Balanced s t) (found : t.attempts[call]? = some a)
    {x y : Parcel P α} (old : x ∈ t.enqueued) (new : y ∈ a.offer.placing offer)
    (same : x.sender = y.sender) : x.call < y.call := by
  -- the call that brought the older row is over, or waited for
  obtain ⟨b, foundB, ownB, placedB⟩ := h.origin x old
  obtain ⟨own, unfinished, unplaced, -⟩ := h.placing_eq found new
  obtain ⟨sender, rfl, -⟩ := Attempt.parcel_eq_some_iff.mp own
  obtain ⟨senderB, -, -⟩ := Attempt.parcel_eq_some_iff.mp ownB
  by_contra notBefore
  obtain here | later := Nat.eq_or_lt_of_le (Nat.le_of_not_lt notBefore)
  · -- the call that goes on has not put its row in the queue yet
    rw [← here, found] at foundB
    obtain rfl := Option.some.inj foundB
    rw [unplaced] at placedB
    cases placedB
  · -- a later call of the producer would have waited for the end of the one that goes on
    have producer : a.producer = b.producer := by
      rw [sender, senderB, same]
    have finished := h.turns y.call x.call a b later found foundB producer
    rw [unfinished] at finished
    cases finished

/-- A call goes on. -/
theorem goOn (h : Balanced s t) (found : t.attempts[call]? = some a)
    (progress : Progress t.queue a.offer queue offer handed) :
    Balanced s (t.goOn call a queue offer handed) where
  settings := progress.settings_eq.trans h.settings
  room := progress.room h.room
  sound i b foundB := by
    obtain ⟨rfl, rfl⟩ | ⟨-, old⟩ := (getElem?_goOn found).mp foundB
    · -- the call that goes on makes progress, and the others see what follows
      exact (h.sound i a found).progress progress
    · exact (h.sound i b old).follows progress.follows
  turns i j b c before foundB foundC same := by
    -- calls keep their producers, and those that are over stay over
    obtain ⟨oldB, wasB, sameB, finished⟩ := exists_before_goOn found progress foundB
    obtain ⟨oldC, wasC, sameC, -⟩ := exists_before_goOn found progress foundC
    have producer : oldB.producer = oldC.producer := sameB.trans (same.trans sameC.symm)
    exact finished (h.turns i j oldB oldC before wasB wasC producer)
  origin x present := by
    rw [enqueued_goOn progress, List.mem_append] at present
    -- a row that is there came before, or with this step
    obtain old | new := present
    · obtain ⟨b, foundB, own, placed⟩ := h.origin x old
      obtain ⟨c, foundC, same, placed⟩ := exists_after_goOn found progress foundB placed
      exact ⟨c, foundC, same.trans own, placed⟩
    · obtain ⟨own, -, -, placed⟩ := h.placing_eq found new
      obtain ⟨-, rfl, -⟩ := Attempt.parcel_eq_some_iff.mp own
      exact ⟨_, (getElem?_goOn found).mpr (.inl ⟨rfl, rfl⟩), own, placed⟩
  order := by
    rw [enqueued_goOn progress, List.pairwise_append]
    refine ⟨h.order, ?_, fun x old y new => h.call_lt_of_placing found old new⟩
    -- no more than one row comes into the queue
    unfold Offer.placing
    split
    · exact List.pairwise_singleton _ _
    · exact .nil
  placed := by
    -- the call counts among the placed as the row does among those that came
    have sum := number_goOn queue offer handed found Offer.isPlaced
    have one := progress.placing_add
    rw [enqueued_goOn progress, List.length_append, h.placed]
    omega
  slots limit limited := by
    have sum := number_goOn queue offer handed found Offer.holdsSlot
    obtain ⟨atMost, exactly⟩ := h.slots limit limited
    obtain ⟨fewer, same⟩ := progress.slots (h.limit_eq.trans limited)
    -- no slot is made, and none is lost while the queue is open
    refine ⟨?_, fun isOpen => ?_⟩
    · show queue.unclaimed + _ ≤ limit
      omega
    · have same := same isOpen
      have exactly := exactly (progress.follows.isOpen_of_isOpen isOpen)
      show queue.unclaimed + _ = limit
      omega
  counted := by
    have sum := number_goOn queue offer handed found Offer.isCounted
    have added := progress.counted_add
    have before := h.counted
    show queue.counted = _
    omega
  events := by
    have events := progress.events_eq (by rw [h.settings]; exact h.events)
    rw [progress.settings_eq, h.settings] at events
    exact events

end Balanced

end Proceeds

/-! ### The consumer takes a row, and the queue is closed -/

/-- The row that the consumer takes stays an enqueued row. -/
theorem enqueued_poll (t : Traffic P α) :
    enqueued { t with queue := t.queue.poll.2, delivered := t.delivered ++ t.queue.poll.1.toList } =
      t.enqueued := by
  cases rows : t.queue.rows <;> simp [enqueued, ResultQueue.poll, rows]

theorem Balanced.polls (h : Balanced s t) :
    Balanced s { t with
      queue := t.queue.poll.2, delivered := t.delivered ++ t.queue.poll.1.toList } where
  settings := h.settings
  room := by
    -- a poll only makes room
    have fewer : t.queue.rows.tail.length ≤ t.queue.rows.length := by simp
    exact Nat.le_trans fewer h.room
  sound call a found := (h.sound call a found).follows ⟨rfl, id, fun _ _ => id⟩
  turns := h.turns
  origin := by
    rw [enqueued_poll]
    exact h.origin
  order := by
    rw [enqueued_poll]
    exact h.order
  placed := by
    rw [enqueued_poll]
    exact h.placed
  slots := h.slots
  counted := h.counted
  events := h.events

theorem Balanced.closes (h : Balanced s t) : Balanced s { t with queue := t.queue.close } where
  settings := h.settings
  room := h.room
  sound call a found := (h.sound call a found).follows ⟨rfl, fun _ => rfl, fun _ _ => id⟩
  turns := h.turns
  origin := h.origin
  order := h.order
  placed := h.placed
  slots limit limited := ⟨(h.slots limit limited).1, nofun⟩
  counted := h.counted
  events := h.events

/-! ### Runs -/

/-- Every step keeps the invariant. -/
theorem Balanced.step (h : Balanced s t) (step : t.Step t') : Balanced s t' := by
  cases step with
  | stays => exact h
  | begins producer row idle => exact h.begins producer row idle
  | proceeds call a queue offer handed found progress => exact h.goOn found progress
  | polls => exact h.polls
  | closes => exact h.closes

/-- The invariant holds after every schedule. -/
theorem balanced_after [DecidableEq P] (s : ResultQueue.Settings) (moves : List (Move P α)) :
    Balanced s ((start s).after moves) := by
  induction moves using List.reverseRecOn with
  | nil => exact balanced_start s
  | append_singleton moves last ih =>
    rw [after_append]
    exact ih.step (step_move _ last)

/-! ## What the balance tells -/

theorem number_le_number {holds holds' : Offer (Parcel P α) → Bool} (t : Traffic P α)
    (imp : ∀ {offer}, holds offer → holds' offer) : t.number holds ≤ t.number holds' :=
  List.countP_mono_left fun _ _ => imp

/-- When all calls are over, two conditions that say the same of calls that are over hold of as
many. -/
theorem number_eq_number {holds holds' : Offer (Parcel P α) → Bool}
    (ended : ∀ a ∈ t.attempts, a.offer.isFinished)
    (same : ∀ {offer}, offer.isFinished → holds offer = holds' offer) :
    t.number holds = t.number holds' := by
  apply List.countP_congr
  intro a found
  rw [same (ended a found)]

/-- The number of rows that were offered. -/
def offered (t : Traffic P α) : Nat :=
  t.attempts.countP (·.row.isSome)

namespace Balanced

/-- No more rows come into the queue than the limit. -/
theorem length_enqueued_le (h : Balanced s t) {limit : Nat} (limited : s.limit = some limit) :
    t.enqueued.length ≤ limit := by
  have held : t.number Offer.isPlaced ≤ t.number Offer.holdsSlot :=
    number_le_number t Offer.holdsSlot_of_isPlaced
  have slots := (h.slots limit limited).1
  rw [h.placed]
  omega

/-- Rows are counted after they came into the queue. -/
theorem counted_le (h : Balanced s t) : t.queue.counted ≤ t.enqueued.length := by
  rw [h.counted, h.placed]
  exact number_le_number t Offer.isPlaced_of_isCounted

/-- As many rows came into the queue as were offered, or as the limit if there were more. -/
theorem length_enqueued (h : Balanced s t) (isOpen : t.queue.isClosed = false)
    (ended : ∀ a ∈ t.attempts, a.offer.isFinished) :
    t.enqueued.length = s.limit.elim t.offered (min · t.offered) := by
  -- the calls that placed a row are among those that offered one
  have most : t.number Offer.isPlaced ≤ t.offered := by
    apply List.countP_mono_left
    intro a found placed
    obtain ⟨call, found⟩ := List.mem_iff_getElem?.mp found
    exact ((h.sound call a found).of_isPlaced placed).1
  -- while slots are left, no row is turned away
  have all (left : ∀ limit, t.queue.limit = some limit → t.queue.unclaimed ≠ 0) :
      t.offered ≤ t.number Offer.isPlaced := by
    apply List.countP_mono_left
    intro a member row
    obtain ⟨call, found⟩ := List.mem_iff_getElem?.mp member
    exact (h.sound call a found).isPlaced_of_isFinished (ended a member) isOpen row left
  rw [h.placed]
  cases limited : s.limit with
  | none =>
    rw [← h.limit_eq] at limited
    exact Nat.le_antisymm most (all (by simp [limited]))
  | some limit =>
    -- all calls are over, so those that hold a slot have placed their row
    have balance := (h.slots limit limited).2 isOpen
    rw [number_eq_number ended Offer.holdsSlot_eq_isPlaced] at balance
    show _ = min limit t.offered
    -- either no slot is left, or no row was turned away
    by_cases noneLeft : t.queue.unclaimed = 0
    · omega
    · have all := all fun _ _ => noneLeft
      omega

variable {handler : Callback}

/-- The limit handler has run if as many rows were counted as the limit. -/
theorem count_onLimit (h : Balanced s t) (registered : s.onLimit = some handler)
    (apart : ∀ c, s.onQueued = some c → c.label ≠ handler.label) :
    t.queue.events.count handler.label = if s.reached t.queue.counted then 1 else 0 := by
  rw [h.events, ResultQueue.Settings.count_onLimit registered apart]

/-- As many rows came as the limit when the limit handler has run, as no more can come. -/
theorem length_enqueued_of_ran (h : Balanced s t) (registered : s.onLimit = some handler)
    (apart : ∀ c, s.onQueued = some c → c.label ≠ handler.label)
    (ran : handler.label ∈ t.queue.events) :
    ∃ limit, s.limit = some limit ∧ t.enqueued.length = limit := by
  rw [← List.count_pos_iff, h.count_onLimit registered apart] at ran
  split at ran
  · rename_i reached
    obtain ⟨limit, limited, -, enough⟩ := ResultQueue.Settings.reached_iff.mp reached
    exact ⟨limit, limited,
      Nat.le_antisymm (h.length_enqueued_le limited) (Nat.le_trans enough h.counted_le)⟩
  · cases ran

/-- When all calls are over, the rows that came are counted. -/
theorem counted_eq (h : Balanced s t) (ended : ∀ a ∈ t.attempts, a.offer.isFinished) :
    t.queue.counted = t.enqueued.length := by
  rw [h.counted, h.placed]
  exact number_eq_number ended Offer.isCounted_eq_isPlaced

end Balanced

/-! ## After the close -/

/-- The queue was closed when there were `n` calls, so that those that began later are late. -/
structure ClosedSince (n : Nat) (t : Traffic P α) : Prop where
  shut : t.queue.isClosed = true
  late : ∀ (call : Nat) (a : Attempt P α), n ≤ call → t.attempts[call]? = some a → a.late = true

theorem closedSince_length (shut : t.queue.isClosed = true) :
    ClosedSince t.attempts.length t where
  shut := shut
  late call a after found := by
    rw [List.getElem?_eq_none after] at found
    cases found

namespace ClosedSince

variable {n : Nat}

theorem step (h : ClosedSince n t) (step : t.Step t') : ClosedSince n t' := by
  cases step with
  | stays => exact h
  | begins producer row idle =>
    -- a call that begins now finds the queue closed
    refine ⟨h.shut, fun call a after found => ?_⟩
    obtain old | ⟨-, rfl⟩ := getElem?_concat found
    · exact h.late call a after old
    · exact h.shut
  | proceeds call a queue offer handed found progress =>
    refine ⟨progress.isClosed_of_isClosed h.shut, fun i b after foundB => ?_⟩
    obtain ⟨rfl, rfl⟩ | ⟨-, old⟩ := (getElem?_goOn found).mp foundB
    · exact h.late i a after found
    · exact h.late i b after old
  | polls => exact ⟨h.shut, h.late⟩
  | closes => exact ⟨rfl, h.late⟩

theorem after [DecidableEq P] (h : ClosedSince n t) (moves : List (Move P α)) :
    ClosedSince n (t.after moves) := by
  induction moves generalizing t with
  | nil => exact h
  | cons m rest ih => exact ih (h.step (step_move t m))

end ClosedSince

/-- A row that came into the queue was offered by a call that began before the close. -/
theorem call_lt_of_isClosed [DecidableEq P] (earlier later : List (Move P α))
    (balanced : Balanced s (t.after (earlier ++ later)))
    (shut : (t.after earlier).queue.isClosed = true) {x : Parcel P α}
    (present : x ∈ (t.after (earlier ++ later)).enqueued) :
    x.call < (t.after earlier).attempts.length := by
  obtain ⟨a, found, -, placed⟩ := balanced.origin x present
  have since := (closedSince_length shut).after later
  rw [← after_append] at since
  -- a call that began after the close ends without its row in the queue
  by_contra notBefore
  have late := since.late x.call a (Nat.le_of_not_lt notBefore) found
  rw [((balanced.sound x.call a found).of_isPlaced placed).2] at late
  cases late

/-- Limits hold however calls interleave. After every schedule on a new queue, no more rows ever came
into the queue than the limit, and no more are in it than its capacity; the limit handler has run at
most once, and only when as many rows as the limit had come; the rows that came were offered so, and
those of each producer came in the order of its calls, none of which began after the queue was
closed. If the queue was never closed and all calls are over, as many rows came as were offered or as
the limit, whichever is less, and the limit handler has run if the limit was reached. -/
theorem limit_accounting [DecidableEq P] (s : ResultQueue.Settings) (moves : List (Move P α)) :
    let t : Traffic P α := (start s).after moves
    (∀ limit, s.limit = some limit → t.enqueued.length ≤ limit) ∧
      t.queue.length ≤ s.capacity ∧
      (∀ handler, s.onLimit = some handler →
        (∀ c, s.onQueued = some c → c.label ≠ handler.label) →
          t.queue.events.count handler.label ≤ 1 ∧
            (handler.label ∈ t.queue.events →
              ∃ limit, s.limit = some limit ∧ t.enqueued.length = limit)) ∧
      (∀ x ∈ t.enqueued, ∃ a, t.attempts[x.call]? = some a ∧
        a.producer = x.sender ∧ a.row = some x.row) ∧
      (t.enqueued.Pairwise fun x y => x.sender = y.sender → x.call < y.call) ∧
      (∀ earlier later, moves = earlier ++ later →
        ((start s).after earlier : Traffic P α).queue.isClosed = true →
          ∀ x ∈ t.enqueued, x.call < ((start s).after earlier).attempts.length) ∧
      (t.queue.isClosed = false → (∀ a ∈ t.attempts, a.offer.isFinished) →
        t.enqueued.length = s.limit.elim t.offered (min · t.offered) ∧
          ∀ handler limit, s.onLimit = some handler →
            (∀ c, s.onQueued = some c → c.label ≠ handler.label) →
              s.limit = some limit → 0 < limit → limit ≤ t.offered →
                t.queue.events.count handler.label = 1) := by
  intro t
  -- the balance of rows, slots and callbacks is kept by every step
  have balanced : Balanced s t := balanced_after s moves
  refine ⟨fun limit => balanced.length_enqueued_le, ?_, ?_, ?_, balanced.order, ?_, ?_⟩
  · rw [← balanced.capacity_eq]
    exact balanced.room
  · intro handler registered apart
    refine ⟨?_, balanced.length_enqueued_of_ran registered apart⟩
    rw [balanced.count_onLimit registered apart]
    split <;> omega
  · intro x present
    obtain ⟨a, found, own, -⟩ := balanced.origin x present
    obtain ⟨sender, -, row⟩ := Attempt.parcel_eq_some_iff.mp own
    exact ⟨a, found, sender, row⟩
  · rintro earlier later rfl shut x present
    exact call_lt_of_isClosed earlier later balanced shut present
  · -- only when all calls are over does what came tell what was offered
    intro isOpen ended
    have came := balanced.length_enqueued isOpen ended
    refine ⟨came, ?_⟩
    intro handler limit registered apart limited positive enough
    have reached : s.reached t.queue.counted := by
      refine ResultQueue.Settings.reached_iff.mpr ⟨limit, limited, positive, ?_⟩
      rw [balanced.counted_eq ended, came, limited]
      exact Nat.le_min.mpr ⟨Nat.le_refl limit, enough⟩
    rw [balanced.count_onLimit registered apart, if_pos reached]

/-- Two producers see the queue open before either claims the one slot. The one that claims it has its
row in the queue, though it began last. -/
example :
    let s : ResultQueue.Settings := ⟨none, 500, some 1, some ⟨"limit", false⟩, none⟩
    let t : Traffic Bool Char := (start s).after [.begin true 'a', .advance 0, .begin false 'b',
      .advance 1, .advance 1, .advance 0, .advance 1, .poll, .advance 1, .advance 1]
    t.enqueued.map (·.row) = ['b'] ∧ t.attempts.map (·.offer.isFinished) = [true, true] ∧
      t.queue.events = ["limit"] := by
  decide

end Traffic

end Sluice
