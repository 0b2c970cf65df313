import Mathlib.Tactic.Common
import Sluice.Statement.Basic

/-!
# How joins without parentheses group

Without parentheses a relation is its first source and what follows it from left to right: joins
with one more source each, and conditions. How the joins nest is left out, and has to be read off
the order: a condition belongs to the last join before it that has none yet, and takes in all that
follows that join; a join that no condition closes takes in no more than the next source.

Every relation can be regrouped in that way without touching the order, and in one way only.

## Main definitions

* `Relation.first`, `Relation.pieces`: a relation without parentheses.
* `Relation.Reading`: a relation as far as it was read, with the joins whose condition may still
  come.
* `Relation.regrouped`: the relation that is read off the order.
* `Relation.GroupsAsRead`: the relations that nest as they are read.

## Main statements

* `Relation.regrouped_eq_iff`: relations regroup alike exactly when they give the same pieces.
* `Relation.groupsAsRead_regrouped`, `Relation.regrouped_eq_self`: a regrouped relation nests as it
  is read, and one that nests as it is read stays as it is.
-/

namespace Sluice

/-- What follows the first source of a relation. -/
inductive Relation.Piece where
  /-- a join with a source, and the name that the source gets -/
  | joined (kind : JoinKind) (name : String) (newName : Option String)
  /-- a condition of some join before it -/
  | condition (on : ColumnRef × ColumnRef)

namespace Relation

variable {r left right : Relation} {kind : JoinKind}

/-! ## Relations without parentheses -/

/-- The first source of a relation, as a relation of its own. -/
def first : Relation → Relation
  | source name newName => source name newName
  | join _ left _ _ => left.first

/-- The piece that joins a source. -/
def joinedFirst (kind : JoinKind) : Relation → Piece
  | source name newName => .joined kind name newName
  | join _ left _ _ => left.joinedFirst kind

/-- What follows the first source, from left to right. -/
def pieces : Relation → List Piece
  | source _ _ => []
  | join kind left right on =>
    left.pieces ++ right.joinedFirst kind :: (right.pieces ++ (on.map Piece.condition).toList)

@[simp]
theorem first_first : r.first.first = r.first := by
  induction r with
  | source => rfl
  | join kind left right on ih => exact ih

@[simp]
theorem joinedFirst_first : r.first.joinedFirst kind = r.joinedFirst kind := by
  induction r with
  | source => rfl
  | join kind' left right on ih => exact ih

@[simp]
theorem pieces_first : r.first.pieces = [] := by
  induction r with
  | source => rfl
  | join kind left right on ih => exact ih

/-! ## Relations that nest as they are read -/

/-- Every join has a condition. -/
def Complete : Relation → Prop
  | source _ _ => True
  | join _ left right on => left.Complete ∧ right.Complete ∧ on.isSome

instance decidableComplete : DecidablePred Complete
  | source _ _ => inferInstanceAs (Decidable True)
  | join _ left right _ =>
    have := decidableComplete left
    have := decidableComplete right
    inferInstanceAs (Decidable (_ ∧ _ ∧ _))

/-- The relation is a source and no join. -/
def IsSource : Relation → Prop
  | source _ _ => True
  | join _ _ _ _ => False

instance : DecidablePred IsSource
  | source _ _ => inferInstanceAs (Decidable True)
  | join _ _ _ _ => inferInstanceAs (Decidable False)

/-- What is joined on the right is a source, or else it is closed by a condition and so is each join
in it. -/
def GroupsAsRead : Relation → Prop
  | source _ _ => True
  | join _ left right on => left.GroupsAsRead ∧ right.Complete ∧ (on.isSome ∨ right.IsSource)

instance decidableGroupsAsRead : DecidablePred GroupsAsRead
  | source _ _ => inferInstanceAs (Decidable True)
  | join _ left _ _ =>
    have := decidableGroupsAsRead left
    inferInstanceAs (Decidable (_ ∧ _ ∧ (_ ∨ _)))

theorem Complete.groupsAsRead (h : r.Complete) : r.GroupsAsRead := by
  induction r with
  | source => trivial
  | join kind left right on ihLeft ihRight =>
    obtain ⟨hleft, hright, given⟩ := h
    exact ⟨ihLeft hleft, hright, .inl given⟩

theorem complete_first : r.first.Complete := by
  induction r with
  | source => trivial
  | join kind left right on ih => exact ih

/-! ## Joins that no condition closes -/

/-- Joins a relation to the first source of another one, the rest of which is joined afterwards. -/
def graft (left : Relation) (kind : JoinKind) : Relation → Relation
  | source name newName => join kind left (source name newName) none
  | join kind' l r on => join kind' (left.graft kind l) r on

@[simp]
theorem first_graft : (left.graft kind right).first = left.first := by
  induction right with
  | source => rfl
  | join kind' l r on ih => exact ih

@[simp]
theorem pieces_graft :
    (left.graft kind right).pieces = left.pieces ++ right.joinedFirst kind :: right.pieces := by
  induction right with
  | source => rfl
  | join kind' l r on ih => simp [graft, pieces, joinedFirst, ih]

theorem GroupsAsRead.graft (hleft : left.GroupsAsRead) (hright : right.Complete) :
    (left.graft kind right).GroupsAsRead := by
  induction right with
  | source => exact ⟨hleft, trivial, .inr trivial⟩
  | join kind' l r on ih =>
    obtain ⟨hl, hr, given⟩ := hright
    exact ⟨ih hl, hr, .inl given⟩

/-! ## Reading from left to right -/

/-- A relation as far as it was read. -/
structure Reading where
  /-- the joins without a condition so far, each with what it joins to, the last one first -/
  pending : List (Relation × JoinKind)
  /-- what follows the last of them -/
  current : Relation

namespace Reading

variable {pending : List (Relation × JoinKind)} {current : Relation}

/-- Reads one more piece. A condition closes the last join that has none. -/
def take : Reading → Piece → Reading
  | ⟨pending, current⟩, .joined kind name newName =>
    ⟨(current, kind) :: pending, source name newName⟩
  | ⟨(left, kind) :: pending, current⟩, .condition on =>
    ⟨pending, join kind left current (some on)⟩
  | ⟨[], current⟩, .condition _ => ⟨[], current⟩

/-- The relation when no more pieces come: the joins that are pending stay without a condition. -/
def finish : List (Relation × JoinKind) → Relation → Relation
  | [], current => current
  | (left, kind) :: pending, current => (finish pending left).graft kind current

/-- The relation that was read. -/
def result (s : Reading) : Relation :=
  finish s.pending s.current

/-- A join that was closed stays the outermost one of what is finished around it. -/
theorem finish_join {kind : JoinKind} {left right : Relation}
    {on : Option (ColumnRef × ColumnRef)} :
    finish pending (join kind left right on) = join kind (finish pending left) right on := by
  cases pending with
  | nil => rfl
  | cons open_ pending => rfl

theorem take_joinedFirst {kind : JoinKind} {r : Relation} :
    take ⟨pending, current⟩ (r.joinedFirst kind) = ⟨(current, kind) :: pending, r.first⟩ := by
  induction r with
  | source => rfl
  | join kind' l r on ih => exact ih

/-- Pieces that make up a relation in which every join has a condition are read as that relation,
whatever is pending. -/
theorem foldl_take_of_complete {r : Relation} (h : r.Complete) :
    r.pieces.foldl take ⟨pending, r.first⟩ = ⟨pending, r⟩ := by
  induction r generalizing pending with
  | source => rfl
  | join kind left right on ihLeft ihRight =>
    obtain ⟨hleft, hright, given⟩ := h
    obtain ⟨on, rfl⟩ := Option.isSome_iff_exists.mp given
    simp only [pieces, List.foldl_append, List.foldl_cons, first]
    rw [ihLeft hleft, take_joinedFirst, ihRight hright]
    rfl

/-- A relation that nests as it is read is the result of reading its pieces. -/
theorem result_foldl_take {r : Relation} (h : r.GroupsAsRead) :
    (r.pieces.foldl take ⟨[], r.first⟩).result = r := by
  -- by the relation, whose sides are read one after the other
  induction r with
  | source => rfl
  | join kind left right on ihLeft ihRight =>
    obtain ⟨hleft, hright, closed⟩ := h
    simp only [pieces, List.foldl_append, List.foldl_cons, first]
    -- what was read of the left side goes on as one relation, whatever is pending in it
    cases hread : left.pieces.foldl take ⟨[], left.first⟩ with
    | mk pending current =>
      have leftRead : finish pending current = left := by
        have whole := ihLeft hleft
        rw [hread] at whole
        exact whole
      rw [take_joinedFirst, foldl_take_of_complete hright]
      cases on with
      -- with a condition, the join is closed when the right side has been read
      | some on =>
        change finish pending (join kind current right (some on)) = _
        rw [finish_join, leftRead]
      -- without one, the right side is a single source, which is joined at once
      | none =>
        rcases closed with closed | isSource
        · contradiction
        · cases right with
          | source name newName =>
            change (finish pending current).graft kind (source name newName) = _
            rw [leftRead, graft]
          | join => exact isSource.elim

/-- Everything pending and the current relation have a condition for every join. -/
structure Settled (s : Reading) : Prop where
  pending : ∀ p ∈ s.pending, p.1.Complete
  current : s.current.Complete

theorem Settled.take {s : Reading} (h : s.Settled) (piece : Piece) : (s.take piece).Settled := by
  obtain ⟨pending, current⟩ := s
  cases piece with
  | joined kind name newName =>
    exact ⟨List.forall_mem_cons.mpr ⟨h.current, h.pending⟩, trivial⟩
  | condition on =>
    cases pending with
    | nil => exact h
    | cons last pending =>
      obtain ⟨hleft, hpending⟩ := List.forall_mem_cons.mp h.pending
      exact ⟨hpending, hleft, h.current, rfl⟩

theorem Settled.foldl_take {s : Reading} (h : s.Settled) (pieces : List Piece) :
    (pieces.foldl Reading.take s).Settled := by
  induction pieces generalizing s with
  | nil => exact h
  | cons piece pieces ih => exact ih (h.take piece)

/-- What is read nests as it is read. -/
theorem Settled.groupsAsRead {s : Reading} (h : s.Settled) : s.result.GroupsAsRead := by
  obtain ⟨pending, current⟩ := s
  obtain ⟨hpending, hcurrent⟩ := h
  show (finish pending current).GroupsAsRead
  induction pending generalizing current with
  | nil => exact hcurrent.groupsAsRead
  | cons last pending ih =>
    obtain ⟨hleft, hpending⟩ := List.forall_mem_cons.mp hpending
    -- what is pending was finished before, and the join is grafted onto it
    exact (ih _ hpending hleft).graft hcurrent

/-! ## Reading changes no order -/

/-- Reading goes on: the joins that were pending still are, and the pieces that were read are added
to the relation. -/
structure Advances (s : Reading) (read : List Piece) (s' : Reading) : Prop where
  pending : s.pending <:+ s'.pending
  first : s'.result.first = s.result.first
  pieces : s'.result.pieces = s.result.pieces ++ read

variable {s s' s'' : Reading}

theorem Advances.refl : Advances s [] s :=
  ⟨List.suffix_rfl, rfl, (List.append_nil _).symm⟩

theorem Advances.trans {read read' : List Piece} (h : Advances s read s')
    (h' : Advances s' read' s'') : Advances s (read ++ read') s'' where
  pending := h.pending.trans h'.pending
  first := h'.first.trans h.first
  pieces := by rw [h'.pieces, h.pieces, List.append_assoc]

/-- A join leaves one more join pending. -/
theorem advances_joinedFirst {kind : JoinKind} {r : Relation} :
    Advances s [r.joinedFirst kind] ⟨(s.current, kind) :: s.pending, r.first⟩ := by
  refine ⟨List.suffix_cons _ _, first_graft, ?_⟩
  change (graft _ kind r.first).pieces = _
  rw [pieces_graft, pieces_first, joinedFirst_first]
  rfl

/-- A condition is added to the relation that was read when a join is pending that it can close. -/
theorem Advances.closeLast {read : List Piece} {last : Relation × JoinKind}
    (on : ColumnRef × ColumnRef) (h : Advances s read ⟨last :: pending, current⟩)
    (still : s.pending <:+ pending) :
    Advances s (read ++ [.condition on])
      (take ⟨last :: pending, current⟩ (.condition on)) := by
  obtain ⟨left, kind⟩ := last
  have before : result ⟨(left, kind) :: pending, current⟩ =
      (finish pending left).graft kind current := rfl
  have after : result (take ⟨(left, kind) :: pending, current⟩ (.condition on)) =
      join kind (finish pending left) current (some on) := finish_join
  -- the condition closes the last join, with all that was read since for its right side
  refine ⟨still, ?_, ?_⟩
  · rw [after, ← h.first, before, first_graft]
    rfl
  · rw [after, ← List.append_assoc, ← h.pieces, before, pieces_graft]
    simp [Relation.pieces]

/-- Reading the pieces of a relation from its first source on adds just these pieces. -/
theorem advances_foldl_take (r : Relation) (pending : List (Relation × JoinKind)) :
    Advances ⟨pending, r.first⟩ r.pieces (r.pieces.foldl take ⟨pending, r.first⟩) := by
  -- by the relation, with any joins pending
  induction r generalizing pending with
  | source => exact .refl
  | join kind left right on ihLeft ihRight =>
    simp only [Relation.pieces, List.foldl_append, List.foldl_cons, Relation.first]
    have throughLeft := ihLeft pending
    generalize left.pieces.foldl take ⟨pending, left.first⟩ = readLeft at throughLeft ⊢
    rw [take_joinedFirst]
    have throughRight := ihRight ((readLeft.current, kind) :: readLeft.pending)
    generalize right.pieces.foldl take _ = readRight at throughRight ⊢
    have through := throughLeft.trans (advances_joinedFirst.trans throughRight)
    cases on with
    | none => simpa using through
    | some on =>
      -- the join is pending through all of its right side, so there is one for the condition
      obtain ⟨pendingRight, current⟩ := readRight
      cases pendingRight with
      | nil => exact absurd throughRight.pending (by simp)
      | cons last pendingRight =>
        have still : readLeft.pending <:+ pendingRight := by
          rcases List.suffix_cons_iff.mp throughRight.pending with same | deeper
          · obtain ⟨-, tails⟩ := List.cons.inj same
            exact tails ▸ List.suffix_rfl
          · exact (List.suffix_cons _ _).trans deeper
        have closed := through.closeLast on (throughLeft.pending.trans still)
        simpa using closed

end Reading

/-! ## Regrouping -/

variable {q : Relation}

/-- The relation that nests as its pieces are read. -/
def regrouped (r : Relation) : Relation :=
  (r.pieces.foldl Reading.take ⟨[], r.first⟩).result

@[simp]
theorem first_regrouped : r.regrouped.first = r.first := by
  exact (Reading.advances_foldl_take r []).first.trans first_first

@[simp]
theorem pieces_regrouped : r.regrouped.pieces = r.pieces := by
  have whole : r.regrouped.pieces = r.first.pieces ++ r.pieces :=
    (Reading.advances_foldl_take r []).pieces
  rw [whole, pieces_first, List.nil_append]

/-- A regrouped relation nests as it is read. -/
theorem groupsAsRead_regrouped : r.regrouped.GroupsAsRead := by
  have start : Reading.Settled ⟨[], r.first⟩ := ⟨by simp, complete_first⟩
  exact (start.foldl_take r.pieces).groupsAsRead

/-- A relation that nests as it is read is regrouped to itself. -/
theorem regrouped_eq_self (h : r.GroupsAsRead) : r.regrouped = r :=
  Reading.result_foldl_take h

/-- Relations regroup alike exactly when they are the same without parentheses. -/
theorem regrouped_eq_iff :
    r.regrouped = q.regrouped ↔ r.first = q.first ∧ r.pieces = q.pieces := by
  constructor
  · intro same
    have sameFirst := congrArg first same
    have samePieces := congrArg pieces same
    rw [first_regrouped, first_regrouped] at sameFirst
    rw [pieces_regrouped, pieces_regrouped] at samePieces
    exact ⟨sameFirst, samePieces⟩
  · rintro ⟨sameFirst, samePieces⟩
    rw [regrouped, regrouped, sameFirst, samePieces]

end Relation

end Sluice
