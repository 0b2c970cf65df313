import Sluice.Proofs.Queue.Interleaving

/-!
# The turns that a call takes

A call on a queue takes five steps at most: it looks for a row, claims a slot, looks whether the
queue is open, puts the row there and has it counted. What others do in between does not put it
back. Only a call that waits for room may have to look and try again, whenever it runs out of time.
So a call that gets its turns is over in the end, if there is room at each of them.

## Main definitions

* `Offer.turnsLeft`: the steps that are left to an offer.
* `Traffic.RoomFor`: there is room whenever a call has its turn.

## Main statements

* `Traffic.exists_move`: what a move leaves to a call.
* `Traffic.finished_of_turns`: a call that gets its turns is over.
-/

namespace Sluice

variable {P α β : Type}

/-! ## Steps that are left -/

/-- The steps that are left to an offer, if it finds room. -/
def Offer.turnsLeft : Offer β → Nat
  | .begun _ => 5
  | .admitted _ => 4
  | .claimed _ => 3
  | .ready _ => 2
  | .placed => 1
  | .finished _ => 0

/-- An offer is finished when no step is left to it. -/
theorem Offer.isFinished_iff_turnsLeft {offer : Offer β} :
    offer.isFinished ↔ offer.turnsLeft = 0 := by
  cases offer <;> simp [isFinished, turnsLeft]

/-- With room in the queue, a step leaves an offer one step less. -/
theorem ResultQueue.turnsLeft_step {q : ResultQueue β} (room : q.rows.length < q.capacity)
    (offer : Offer β) : (q.step offer).2.turnsLeft ≤ offer.turnsLeft - 1 := by
  unfold step
  cases offer with
  | begun row =>
    cases row with
    | none => simp [Offer.turnsLeft]
    | some row => cases q.isClosed <;> simp [Offer.turnsLeft]
  | admitted row => cases q.claim? <;> simp [Offer.turnsLeft]
  | claimed row => cases q.isClosed <;> simp [Offer.turnsLeft]
  | ready row => simp [room, Offer.turnsLeft]
  | placed => simp [Offer.turnsLeft]
  | finished outcome => simp [Offer.turnsLeft]

/-- A row that is handed over need not be put in the queue. -/
theorem ResultQueue.turnsLeft_handOver (q : ResultQueue β) (offer : Offer β) :
    (q.handOver offer).1.turnsLeft ≤ offer.turnsLeft := by
  unfold handOver
  cases offer with
  | ready row => cases q.rows.isEmpty <;> simp [Offer.turnsLeft]
  | _ => exact Nat.le_refl _

/-- Running out of time costs one more look whether the queue is open. -/
theorem Offer.turnsLeft_timeOut (offer : Offer β) :
    offer.timeOut.turnsLeft ≤ offer.turnsLeft + 1 := by
  cases offer <;> simp [timeOut, turnsLeft]

/-! ## Turns -/

/-- Whether a move is a turn of a call. -/
def Move.isTurn (call : Nat) : Move P α → Bool
  | .advance c => c = call
  | _ => false

/-- Whether a move is that a call runs out of time. -/
def Move.isTimeOut (call : Nat) : Move P α → Bool
  | .timeOut c => c = call
  | _ => false

namespace Traffic

variable {t : Traffic P α} {call : Nat} {a : Attempt P α}

/-- A call that acts is afterwards where the act takes it, and the other calls stay where they
were. -/
theorem getElem?_proceed (found : t.attempts[call]? = some a) (acting : Nat)
    (act : Offer (Parcel P α) → ResultQueue (Parcel P α) × Offer (Parcel P α) × List (Parcel P α)) :
    ∃ b, (t.proceed acting act).attempts[call]? = some b ∧
      b.offer = if acting = call then (act a.offer).2.1 else a.offer := by
  unfold proceed
  cases acted : t.attempts[acting]? with
  | none =>
    -- the call itself exists, so another was to act
    have other : acting ≠ call := by
      rintro rfl
      rw [found] at acted
      cases acted
    exact ⟨a, found, (if_neg other).symm⟩
  -- some call acts: it is this one, or this one stays where it was
  | some c =>
    by_cases own : acting = call
    · subst own
      obtain rfl := Option.some.inj (acted.symm.trans found)
      exact ⟨_, (getElem?_goOn acted).mpr (.inl ⟨rfl, rfl⟩), (if_pos rfl).symm⟩
    · exact ⟨a, (getElem?_goOn acted).mpr (.inr ⟨Ne.symm own, found⟩), (if_neg own).symm⟩

variable [DecidableEq P]

/-- What a move leaves to a call. A turn of its own takes one step if there is room, running out of
time costs one, and no other move changes where it stands. -/
theorem exists_move (found : t.attempts[call]? = some a) (m : Move P α)
    (room : m = .advance call → t.queue.rows.length < t.queue.capacity) :
    ∃ b, (t.move m).attempts[call]? = some b ∧ (a.offer.isFinished → b.offer.isFinished) ∧
      b.offer.turnsLeft ≤
        a.offer.turnsLeft + (m.isTimeOut call).toNat - (m.isTurn call).toNat := by
  cases m with
  | begin producer row =>
    -- a call that begins comes after all others
    refine ⟨a, ?_, id, Nat.le_refl _⟩
    rw [move]
    split
    · have bound := (List.getElem?_eq_some_iff.mp found).1
      exact (List.getElem?_append_left bound).trans found
    · exact found
  | advance acting =>
    obtain ⟨b, after, went⟩ := getElem?_proceed found acting fun offer =>
      ((t.queue.step offer).1, (t.queue.step offer).2, [])
    refine ⟨b, after, ?_⟩
    rw [went]
    by_cases own : acting = call
    · subst own
      have less := ResultQueue.turnsLeft_step (room rfl) a.offer
      refine ⟨fun finished => ?_, by simpa [Move.isTurn, Move.isTimeOut] using less⟩
      -- a call that is over does not go on
      rw [if_pos rfl, (progress_step t.queue a.offer).eq_of_isFinished finished]
      exact finished
    · simp [own, Move.isTurn, Move.isTimeOut]
  | timeOut acting =>
    obtain ⟨b, after, went⟩ := getElem?_proceed found acting fun offer =>
      (t.queue, offer.timeOut, [])
    refine ⟨b, after, ?_⟩
    rw [went]
    -- running out of time takes the call no further than one step back
    by_cases own : acting = call
    · subst own
      have more := a.offer.turnsLeft_timeOut
      refine ⟨fun finished => ?_, by simpa [Move.isTurn, Move.isTimeOut] using more⟩
      rw [if_pos rfl, (progress_timeOut t.queue a.offer).eq_of_isFinished finished]
      exact finished
    · simp [own, Move.isTurn, Move.isTimeOut]
  | handOver acting =>
    obtain ⟨b, after, went⟩ := getElem?_proceed found acting fun offer =>
      (t.queue, t.queue.handOver offer)
    refine ⟨b, after, ?_⟩
    rw [went]
    -- a row that is handed over takes its call a step on
    by_cases own : acting = call
    · subst own
      have less := t.queue.turnsLeft_handOver a.offer
      refine ⟨fun finished => ?_, by simpa [Move.isTurn, Move.isTimeOut] using less⟩
      rw [if_pos rfl, (progress_handOver t.queue a.offer).eq_of_isFinished finished]
      exact finished
    · simp [own, Move.isTurn, Move.isTimeOut]
  | poll => exact ⟨a, found, id, Nat.le_refl _⟩
  | close => exact ⟨a, found, id, Nat.le_refl _⟩

/-- There is room in the queue whenever a call has its turn. -/
def RoomFor (t : Traffic P α) (call : Nat) (moves : List (Move P α)) : Prop :=
  ∀ earlier later, moves = earlier ++ .advance call :: later →
    (t.after earlier).queue.rows.length < (t.after earlier).queue.capacity

theorem RoomFor.tail {m : Move P α} {rest : List (Move P α)} (h : t.RoomFor call (m :: rest)) :
    (t.move m).RoomFor call rest := by
  intro earlier later split
  exact h (m :: earlier) later (by rw [split, List.cons_append])

/-- A call that gets its turns is over, whatever is done in between: the steps that were left to it,
and one more for each time that it ran out of time. -/
theorem finished_of_turns {moves : List (Move P α)} (found : t.attempts[call]? = some a)
    (room : t.RoomFor call moves)
    (turns : a.offer.turnsLeft + moves.countP (·.isTimeOut call) ≤
      moves.countP (·.isTurn call)) :
    ∃ b, (t.after moves).attempts[call]? = some b ∧ b.offer.isFinished := by
  -- by induction on the moves, for calls that are over as well, since these may have turns to spare
  replace turns := Or.inr (a := a.offer.isFinished = true) turns
  induction moves generalizing t a with
  | nil =>
    refine ⟨a, found, turns.elim id fun turns => ?_⟩
    exact Offer.isFinished_iff_turnsLeft.mpr (Nat.le_zero.mp turns)
  | cons m rest ih =>
    have now : m = .advance call → t.queue.rows.length < t.queue.capacity := by
      rintro rfl
      exact room [] rest rfl
    obtain ⟨b, after, stays, left⟩ := exists_move found m now
    apply ih after room.tail
    -- a call that is over stays so, and otherwise the turns make up for the steps
    by_cases finished : a.offer.isFinished
    · exact .inl (stays finished)
    · right
      have turns := turns.resolve_left finished
      rw [Offer.isFinished_iff_turnsLeft] at finished
      rw [List.countP_cons, List.countP_cons] at turns
      generalize m.isTimeOut call = timeOut at left turns
      generalize m.isTurn call = turn at left turns
      cases timeOut <;> cases turn <;> simp at left turns <;> omega

end Traffic

end Sluice
