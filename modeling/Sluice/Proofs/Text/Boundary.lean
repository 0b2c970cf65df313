import Sluice.Proofs.Text.Integer

/-!
# Where the parts of a text end

A text that is put together from parts can be taken apart again when each part shows where it ends.
A run of characters of one class ends at the first character outside of the class, a number ends
with its digits, and an item of a list ends at a comma or at what closes the list.

Each statement here is about two texts that are equal: what starts them is the same, and so is what
is left over.

## Main definitions

* `Text.Ends`: a text that does not go on with a character of a class.
* `Text.listText`: items separated by commas, before the rest of a text.

## Main statements

* `Text.run_append_inj`: a run of characters.
* `Text.int_append_inj`, `Text.nat_append_inj`: a number.
* `Text.listText_inj`: a list of items.
-/

namespace Sluice.Text

/-! ## Runs -/

/-- The text does not go on with a character of the class. -/
def Ends (p : Char → Bool) (rest : List Char) : Prop :=
  ∀ c ∈ rest.head?, p c = false

variable {p : Char → Bool} {rest rest' : List Char}

@[simp]
theorem ends_nil : Ends p [] := by
  simp [Ends]

@[simp]
theorem ends_cons {c : Char} : Ends p (c :: rest) ↔ p c = false := by
  simp [Ends]

theorem ends_iff : Ends p rest ↔ ∀ c tail, rest = c :: tail → p c = false := by
  cases rest with
  | nil => simp
  | cons c rest => simp

/-- A character of a class is none outside of it. -/
theorem ne_of_class {c mark : Char} (h : p c = true) (outside : p mark = false) : c ≠ mark := by
  rintro rfl
  exact Bool.noConfusion (h.symm.trans outside)

/-- The longest run of a class ends where the class does. -/
theorem span_append {run : List Char} (chars : ∀ c ∈ run, p c = true) (ends : Ends p rest) :
    (run ++ rest).takeWhile p = run ∧ (run ++ rest).dropWhile p = rest := by
  rw [List.takeWhile_append_of_pos chars, List.dropWhile_append_of_pos chars]
  cases rest with
  | nil => simp
  | cons c rest => simp [ends_cons.mp ends]

/-- A text of a class is one run of it. -/
theorem span_eq {run : List Char} (chars : ∀ c ∈ run, p c = true) :
    run.takeWhile p = run ∧ run.dropWhile p = [] := by
  simpa using span_append chars ends_nil

/-- A run of a class of characters, before a text that does not go on with one. -/
theorem run_append_inj {run run' : List Char} (chars : ∀ c ∈ run, p c = true)
    (chars' : ∀ c ∈ run', p c = true) (ends : Ends p rest) (ends' : Ends p rest')
    (h : run ++ rest = run' ++ rest') : run = run' ∧ rest = rest' := by
  obtain ⟨taken, left⟩ := span_append chars ends
  obtain ⟨taken', left'⟩ := span_append chars' ends'
  rw [h] at taken left
  exact ⟨taken.symm.trans taken', left.symm.trans left'⟩

/-- A text without a character, before that character. -/
theorem append_cons_inj {mark : Char} {run run' : List Char} (absent : mark ∉ run)
    (absent' : mark ∉ run') (h : run ++ mark :: rest = run' ++ mark :: rest') :
    run = run' ∧ rest = rest' := by
  have others {run : List Char} (absent : mark ∉ run) : ∀ c ∈ run, (c != mark) = true := by
    intro c hc
    simp only [bne_iff_ne]
    rintro rfl
    exact absent hc
  obtain ⟨same, left⟩ := run_append_inj (others absent) (others absent') (by simp) (by simp) h
  exact ⟨same, (List.cons.inj left).2⟩

/-! ## Numbers -/

/-- The characters of a printed whole number. -/
def isNumberChar (c : Char) : Bool :=
  c == '-' || c.isDigit

theorem isNumberChar_of_mem_toString {n : Int} :
    ∀ c ∈ (toString n).toList, isNumberChar c = true := by
  intro c hc
  have digits := List.all_eq_true.mp (all_isDigit_toDigits n.natAbs)
  rw [toList_toString] at hc
  split at hc
  · rcases List.mem_cons.mp hc with rfl | digit
    · rfl
    · simp [isNumberChar, digits c digit]
  · simp [isNumberChar, digits c hc]

/-- A printed whole number, before a text that does not go on with a digit or a sign. -/
theorem int_append_inj {m n : Int} (ends : Ends isNumberChar rest) (ends' : Ends isNumberChar rest')
    (h : (toString m).toList ++ rest = (toString n).toList ++ rest') : m = n ∧ rest = rest' := by
  obtain ⟨same, left⟩ :=
    run_append_inj isNumberChar_of_mem_toString isNumberChar_of_mem_toString ends ends' h
  -- the number is read from its text
  have value := readInteger?_toString m
  rw [same, readInteger?_toString n] at value
  exact ⟨(Option.some.inj value).symm, left⟩

/-- A printed natural number, before a text that does not go on with a digit. -/
theorem nat_append_inj {m n : Nat} (ends : Ends Char.isDigit rest) (ends' : Ends Char.isDigit rest')
    (h : (toString m).toList ++ rest = (toString n).toList ++ rest') : m = n ∧ rest = rest' := by
  have toList_eq (k : Nat) : (toString k).toList = Nat.toDigits 10 k := Nat.toList_repr
  rw [toList_eq, toList_eq] at h
  have digits (k : Nat) := List.all_eq_true.mp (all_isDigit_toDigits k)
  obtain ⟨same, left⟩ := run_append_inj (digits m) (digits n) ends ends' h
  have value := natOfDigits_toDigits m
  rw [same, natOfDigits_toDigits n] at value
  exact ⟨value.symm, left⟩

/-! ## Lists -/

variable {α : Type} {text : α → String}

/-- The texts of items, separated by commas, before the rest of a text. -/
def listText (text : α → String) (items : List α) (rest : List Char) : List Char :=
  (", ".intercalate (items.map text)).toList ++ rest

/-- What follows the first item of a list: a comma and the other items, or the rest of the text. -/
def listTail (text : α → String) (items : List α) (rest : List Char) : List Char :=
  if items = [] then rest else ',' :: ' ' :: listText text items rest

@[simp]
theorem listText_nil : listText text [] rest = rest := by
  simp [listText]

theorem listText_cons {x : α} {xs : List α} :
    listText text (x :: xs) rest = (text x).toList ++ listTail text xs rest := by
  cases xs with
  | nil => simp [listText, listTail]
  | cons y ys => simp [listText, listTail]

/-- Lists of items that are told apart wherever a comma or the end of the list follows them. The
list ends with a character that no item starts with. -/
theorem listText_inj {xs ys : List α} {close : Char} (Follows : List Char → Prop)
    (items : ∀ x ∈ xs, ∀ y ∈ ys, ∀ r r', Follows r → Follows r' →
      (text x).toList ++ r = (text y).toList ++ r' → x = y ∧ r = r')
    (opens : ∀ x ∈ xs, ∀ r r', (text x).toList ++ r ≠ close :: r')
    (opens' : ∀ y ∈ ys, ∀ r r', (text y).toList ++ r ≠ close :: r')
    (comma : ∀ r, Follows (',' :: r)) (closing : Follows (close :: rest))
    (closing' : Follows (close :: rest')) (noComma : close ≠ ',')
    (h : listText text xs (close :: rest) = listText text ys (close :: rest')) :
    xs = ys ∧ rest = rest' := by
  -- after an item comes a comma, or the end of the list
  have follows (zs : List α) {r : List Char} (closing : Follows (close :: r)) :
      Follows (listTail text zs (close :: r)) := by
    unfold listTail
    split
    · exact closing
    · exact comma _
  -- by the items of the first list, beside those of the second
  induction xs generalizing ys with
  | nil =>
    cases ys with
    | nil => simpa using h
    | cons y ys =>
      rw [listText_nil, listText_cons] at h
      exact absurd h.symm (opens' y List.mem_cons_self _ _)
  | cons x xs ih =>
    cases ys with
    | nil =>
      rw [listText_nil, listText_cons] at h
      exact absurd h (opens x List.mem_cons_self _ _)
    | cons y ys =>
      rw [listText_cons, listText_cons] at h
      -- the first items are the same, and so is what follows them
      obtain ⟨rfl, tails⟩ := items x List.mem_cons_self y List.mem_cons_self _ _
        (follows xs closing) (follows ys closing') h
      -- the lists end together: where one does, the other has no comma
      unfold listTail at tails
      split at tails
      · split at tails
        · rename_i none none'
          exact ⟨by rw [none, none'], (List.cons.inj tails).2⟩
        · exact absurd (List.cons.inj tails).1 noComma
      · split at tails
        · exact absurd (List.cons.inj tails).1.symm noComma
        · have others := (List.cons.inj (List.cons.inj tails).2).2
          obtain ⟨rfl, left⟩ := ih
            (fun x hx y hy => items x (List.mem_cons_of_mem _ hx) y (List.mem_cons_of_mem _ hy))
            (fun x hx => opens x (List.mem_cons_of_mem _ hx))
            (fun y hy => opens' y (List.mem_cons_of_mem _ hy)) others
          exact ⟨rfl, left⟩

end Sluice.Text
