import Mathlib.Data.List.DropRight
import Sluice.Proofs.SqlType.Scan
import Sluice.Proofs.SqlType.Soundness

/-!
# Positions and places

The scan over the bytes of a text is held against the reader of types, which moves over characters.
A position of the scan belongs to a place of the reader when the characters before the place have
as many bytes. From such a place, a slice of the text is what the reader has left of it, and moving
over some of that leads to such a place again.

## Main definitions

* `Cursor.On`: a place of a text.
* `Trail.Sound`: the positions of a trail are between characters, and do not go back.
* `Trail.At`: a trail leads to a place.
* `Scan.Mirrors`: a scan ends as a step of the reader does.

## Main statements

* `Scan.Mirrors.read`: steps that mirror readings do so one after the other.
* `Scan.mirrors_rest`, `Scan.mirrors_advance`, `Scan.mirrors_skipBlanks`: slices and moves.
-/

namespace Sluice

open Text

variable {α β γ δ : Type} {chars : List Char} {c next : Cursor}

/-! ## Places of a text -/

/-- The cursor is a place of the text: what is left ends the text, and the position is the length in
bytes of what comes before. -/
def Cursor.On (chars : List Char) (c : Cursor) : Prop :=
  ∃ before, chars = before ++ c.rest ∧ c.position = utf8Length before

namespace Cursor

/-- The place after a part of what is left. -/
theorem On.after {part rest : List Char} (h : c.On chars) (split : c.rest = part ++ rest) {n : Nat}
    (moved : n = c.position + utf8Length part) : On chars ⟨n, rest⟩ := by
  obtain ⟨before, whole, position⟩ := h
  refine ⟨before ++ part, ?_, ?_⟩
  · rw [whole, split, List.append_assoc]
  · rw [moved, position, utf8Length_append]

theorem On.skip (h : c.On chars) (p : Char → Bool) : On chars (c.skip p) :=
  h.after List.takeWhile_append_dropWhile.symm rfl

/-- At a place of the text, a slice from the position on is what is left. -/
theorem On.fromByte?_eq (h : c.On chars) : fromByte? chars c.position = some c.rest := by
  obtain ⟨before, split, position⟩ := h
  rw [split, position, fromByte?_append]

/-- Nothing is left where the position is the length of the text. -/
theorem On.position_eq_iff (h : c.On chars) : c.position = utf8Length chars ↔ c.rest = [] := by
  obtain ⟨before, split, position⟩ := h
  rw [split, position, utf8Length_append, Nat.left_eq_add, utf8Length_eq_zero_iff]

/-- With less of the text left, the position is further on. -/
theorem On.position_lt (h : c.On chars) (h' : next.On chars)
    (shorter : next.rest.length < c.rest.length) : c.position < next.position := by
  obtain ⟨before, split, position⟩ := h
  obtain ⟨before', split', position'⟩ := h'
  have lengths := congrArg List.length (split.symm.trans split')
  simp only [List.length_append] at lengths
  -- what comes before the one place begins what comes before the other
  obtain ⟨part, rfl⟩ : before <+: before' :=
    List.prefix_of_prefix_length_le ⟨c.rest, split.symm⟩ ⟨next.rest, split'.symm⟩ (by omega)
  have nonempty : utf8Length part ≠ 0 := by
    intro none
    obtain rfl := utf8Length_eq_zero_iff.mp none
    simp only [List.length_append, List.length_nil] at lengths
    omega
  -- and the part between them has bytes
  rw [position, position', utf8Length_append]
  omega

/-- Once blanks are skipped, there are none to skip. -/
@[simp]
theorem skipBlanks_skipBlanks (c : Cursor) : c.skipBlanks.skipBlanks = c.skipBlanks := by
  have again : (c.rest.dropWhile isBlank).dropWhile isBlank = c.rest.dropWhile isBlank :=
    List.dropWhile_idempotent _ _
  have none : (c.rest.dropWhile isBlank).takeWhile isBlank = [] := by
    apply List.append_left_eq_self.mp
    exact (congrArg _ again.symm).trans List.takeWhile_append_dropWhile
  simp [skipBlanks, skip, again, none]

theorem position_le_skipBlanks (c : Cursor) : c.position ≤ c.skipBlanks.position :=
  Nat.le_add_right _ _

end Cursor

/-! ## Trails -/

/-- The positions of a trail, the last one first. -/
def Trail.positions (trail : Trail) : List Nat :=
  trail.position :: trail.passed

/-- Every position is that of a place between whole characters, and none is before an earlier
one. -/
structure Trail.Sound (chars : List Char) (trail : Trail) : Prop where
  onText : ∀ n ∈ trail.positions, ∃ before, before <+: chars ∧ n = utf8Length before
  ordered : trail.positions.Pairwise (· ≥ ·)

/-- The trail is sound and leads to a place, or to where the blanks after that end. -/
structure Trail.At (chars : List Char) (trail : Trail) (c : Cursor) : Prop where
  sound : trail.Sound chars
  onText : c.On chars
  position : trail.position = c.position ∨ trail.position = c.skipBlanks.position

namespace Trail

variable {trail : Trail}

/-- A sound trail leads to a place. -/
theorem Sound.exists_cursor (h : trail.Sound chars) :
    ∃ c : Cursor, trail.At chars c ∧ trail.position = c.position := by
  obtain ⟨before, ⟨rest, split⟩, position⟩ := h.onText trail.position List.mem_cons_self
  exact ⟨⟨trail.position, rest⟩, ⟨h, ⟨before, split.symm, position⟩, .inl rfl⟩, rfl⟩

/-- A trail that is moved on stays sound. -/
theorem Sound.advance (h : trail.Sound chars) (onText : next.On chars) {bytes : Nat}
    (moved : next.position = trail.position + bytes) :
    At chars ⟨trail.position + bytes, trail.position :: trail.passed⟩ next := by
  refine ⟨⟨?_, ?_⟩, onText, .inl moved.symm⟩
  · -- the new position is a character boundary, as the cursor stands on it
    obtain ⟨before, split, position⟩ := onText
    intro n mem
    rcases List.mem_cons.mp mem with rfl | earlier
    · exact ⟨before, ⟨next.rest, split.symm⟩, moved.symm.trans position⟩
    · exact h.onText n earlier
  · apply List.Pairwise.cons _ h.ordered
    intro n earlier
    -- no earlier position is beyond the last one
    rcases List.mem_cons.mp earlier with rfl | earlier
    · exact Nat.le_add_right _ _
    · exact (List.rel_of_pairwise_cons h.ordered earlier).trans (Nat.le_add_right _ _)

theorem At.of_skipBlanks (h : trail.At chars c.skipBlanks) (onText : c.On chars) :
    trail.At chars c where
  sound := h.sound
  onText := onText
  position := .inr (by simpa using h.position)

/-- Where no blanks come next, there is one position for the place. -/
theorem At.position_skipBlanks (h : trail.At chars c.skipBlanks) :
    trail.position = c.skipBlanks.position := by
  simpa using h.position

/-- A trail leads to a place that is as far from the next token. -/
theorem At.exists_cursor (h : trail.At chars c) :
    ∃ d : Cursor, d.On chars ∧ trail.position = d.position ∧ d.skipBlanks = c.skipBlanks := by
  rcases h.position with position | position
  · exact ⟨c, h.onText, position, rfl⟩
  · exact ⟨c.skipBlanks, h.onText.skip _, position, c.skipBlanks_skipBlanks⟩

theorem At.position_le (h : trail.At chars c) : c.position ≤ trail.position := by
  rcases h.position with position | position
  · exact position.ge
  · exact c.position_le_skipBlanks.trans position.ge

end Trail

/-! ## Steps and readings -/

/-- What a reading leads to. -/
def Reading.pair {c : Cursor} (r : Reading α c) : α × Cursor :=
  (r.value, r.next)

namespace Scan

/-- What has come of a scan is what comes of a step of the reader: the same answer, with a trail to
the place where that ends, or the same fault. The trail is sound in any case. -/
def Agrees (chars : List Char) (step : Except TypeError (α × Cursor)) :
    Except Halt α × Trail → Prop
  | (.ok a, trail) => ∃ next, step = .ok (a, next) ∧ trail.At chars next
  | (.error halt, trail) => ∃ e, step = .error e ∧ halt = .refused e ∧ trail.Sound chars

theorem Agrees.exists_eq {x : Except TypeError α} {outcome : Except Halt α × Trail}
    (h : Agrees chars (x.map (·, next)) outcome) :
    ∃ trail, outcome = (x.mapError .refused, trail) ∧ trail.Sound chars := by
  obtain ⟨halt | a, trail⟩ := outcome
  · obtain ⟨e, same, rfl, sound⟩ := h
    obtain rfl := map_eq_error_iff.mp same
    exact ⟨trail, rfl, sound⟩
  · obtain ⟨_, same, at_⟩ := h
    obtain ⟨a, rfl, same⟩ := map_eq_ok_iff.mp same
    cases same
    exact ⟨trail, rfl, at_.sound⟩

/-- From a place, the scan ends as the step of the reader does. -/
structure Mirrors (chars : List Char) (m : Scan α) (c : Cursor)
    (step : Except TypeError (α × Cursor)) : Prop where
  agrees : ∀ trail, trail.At chars c → Agrees chars step (m.run trail)

variable {m : Scan α} {f : α → Scan β} {a : α} {trail : Trail}
  {step : Except TypeError (α × Cursor)}

/-- Only from places of the text is anything asked of a scan. -/
theorem Mirrors.of_on (h : c.On chars → Mirrors chars m c step) : Mirrors chars m c step :=
  ⟨fun trail at_ => (h at_.onText).agrees trail at_⟩

/-- What is done from a place may be done from where the blanks after it end. -/
theorem Mirrors.skipped (h : Mirrors chars m c step) (onText : c.On chars) :
    Mirrors chars m c.skipBlanks step :=
  ⟨fun trail at_ => h.agrees trail (at_.of_skipBlanks onText)⟩

theorem mirrors_pure (a : α) (c : Cursor) : Mirrors chars (pure a) c (.ok (a, c)) :=
  ⟨fun _ at_ => ⟨c, rfl, at_⟩⟩

theorem mirrors_halt (e : TypeError) (c : Cursor) :
    Mirrors chars (halt (α := α) (.refused e)) c (.error e) :=
  ⟨fun _ at_ => ⟨e, rfl, rfl, at_.sound⟩⟩

/-- A step that has answered, and what comes after it. -/
theorem Mirrors.andThen {step : Except TypeError (β × Cursor)}
    (first : Mirrors chars m c (.ok (a, next))) (second : Mirrors chars (f a) next step) :
    Mirrors chars (m >>= f) c step := by
  constructor
  intro trail at_
  -- the outcome of the first step decides whether the second is made
  have ended := first.agrees trail at_
  show Agrees chars _ (Scan.andThen f (m.run trail))
  generalize m.run trail = outcome at ended ⊢
  obtain ⟨halt | a, trail'⟩ := outcome
  · obtain ⟨_, same, -⟩ := ended
    cases same
  · obtain ⟨_, same, at_'⟩ := ended
    cases same
    exact second.agrees trail' at_'

/-- After a fault there is nothing more. -/
theorem Mirrors.fault {e : TypeError} (first : Mirrors chars m c (.error e)) :
    Mirrors chars (m >>= f) c (.error e) := by
  constructor
  intro trail at_
  have ended := first.agrees trail at_
  show Agrees chars _ (Scan.andThen f (m.run trail))
  generalize m.run trail = outcome at ended ⊢
  -- the first step halts, as it is at fault
  obtain ⟨halt | a, trail'⟩ := outcome
  · obtain ⟨_, same, refused, sound⟩ := ended
    cases same
    exact ⟨e, rfl, refused, sound⟩
  · obtain ⟨_, same, -⟩ := ended
    cases same

/-- A scan goes on as the reader does, where what comes of the steps of the reader is seen in some
way. -/
theorem Mirrors.bind {x : Except TypeError γ} {place : γ → α × Cursor}
    (first : Mirrors chars m c (x.map place)) {rest : γ → Except TypeError δ}
    {place' : δ → β × Cursor} (second : ∀ r, x = .ok r →
      Mirrors chars (f (place r).1) (place r).2 ((rest r).map place')) :
    Mirrors chars (m >>= f) c ((x >>= rest).map place') := by
  cases x with
  | error e => exact first.fault
  | ok r => exact first.andThen (second r rfl)

/-- A scan goes on as the reader does after a reading. -/
theorem Mirrors.read {x : Except TypeError (Reading α c)}
    (first : Mirrors chars m c (x.map Reading.pair)) {rest : Reading α c → Except TypeError δ}
    {place : δ → β × Cursor}
    (second : ∀ r, x = .ok r → Mirrors chars (f r.value) r.next ((rest r).map place)) :
    Mirrors chars (m >>= f) c ((x >>= rest).map place) :=
  first.bind second

/-! ## Slices and moves -/

section

variable {text : String}

/-- At a place of the text, what is left of it is a slice. -/
theorem run_rest (onText : c.On text.toList) (position : trail.position = c.position) :
    (rest text).run trail = (.ok c.rest, trail) := by
  show (value .broken (fromByte? text.toList trail.position)).run trail = _
  rw [position, onText.fromByte?_eq]
  rfl

theorem mirrors_rest : Mirrors text.toList (rest text) c.skipBlanks
    (.ok (c.skipBlanks.rest, c.skipBlanks)) := by
  constructor
  intro trail at_
  rw [run_rest at_.onText at_.position_skipBlanks]
  exact ⟨c.skipBlanks, rfl, at_⟩

theorem mirrors_position (chars : List Char) : Mirrors chars position c.skipBlanks
    (.ok (c.skipBlanks.position, c.skipBlanks)) := by
  constructor
  intro trail at_
  refine ⟨c.skipBlanks, ?_, at_⟩
  rw [at_.position_skipBlanks]

/-- Moving over a part of what is left. -/
theorem mirrors_advance {chars part rest : List Char} {bytes : Nat}
    (split : c.skipBlanks.rest = part ++ rest) (length : bytes = utf8Length part) :
    Mirrors chars (advance bytes) c.skipBlanks
      (.ok ((), ⟨c.skipBlanks.position + bytes, rest⟩)) := by
  constructor
  intro trail at_
  refine ⟨_, rfl, at_.sound.advance (at_.onText.after split (by rw [length])) ?_⟩
  rw [at_.position_skipBlanks]

theorem mirrors_skipBlanks : Mirrors text.toList (skipBlanks text) c (.ok ((), c.skipBlanks)) := by
  constructor
  intro trail at_
  -- blanks may have been skipped before, and then there are none now
  obtain ⟨d, onText, position, same⟩ := at_.exists_cursor
  have whole : utf8Length d.rest = utf8Length (d.rest.takeWhile isBlank) +
      utf8Length (trimStart d.rest) := by
    rw [← utf8Length_append]
    exact congrArg utf8Length List.takeWhile_append_dropWhile.symm
  -- the bytes that are passed are those of the blanks
  have run : (skipBlanks text).run trail =
      (advance (utf8Length (d.rest.takeWhile isBlank))).run trail := by
    show Scan.andThen _ ((rest text).run trail) = _
    rw [run_rest onText position, Scan.andThen]
    dsimp only
    rw [whole, Nat.add_sub_cancel, if_pos (Nat.le_add_left _ _)]
  rw [run]
  refine ⟨c.skipBlanks, rfl, at_.sound.advance (same ▸ onText.skip _) ?_⟩
  rw [← same, position]
  rfl

end

end Scan

end Sluice
