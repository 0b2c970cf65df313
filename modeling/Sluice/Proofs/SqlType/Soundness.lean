import Mathlib.Data.List.TakeWhile
import Sluice.Proofs.Except
import Sluice.Proofs.SqlType.Grammar
import Sluice.Proofs.Text.Integer

/-!
# What is read follows the grammar

Each reading step is undone from the outside in: when it succeeds, the text before it derives the
value that was read, with the text after it left over. Types and fields are read by mutual
recursion on the length of the text, and so are these proofs.

## Main statements

* `Cursor.derives_of_type`, `Cursor.derives_of_fields`: a type or the fields of a struct that are
  read are derived.
-/

namespace Sluice.Cursor

open Grammar Text Number

variable {text : String} {c : Cursor}

/-! ## Tokens -/

theorem rest_skipBlanks (c : Cursor) : c.skipBlanks.rest = trimStart c.rest :=
  rfl

theorem token_of_punctuation? {ch : Char} {r : Reading Unit c} (h : c.punctuation? ch = some r) :
    Token ch c.rest r.next.rest := by
  unfold punctuation? at h
  split at h
  · rename_i first rest hrest
    split at h
    · rename_i same
      obtain rfl := Option.some.inj h
      subst same
      exact hrest
    · cases h
  · cases h

theorem token_of_expect {ch : Char} {r : Reading Unit c} (h : c.expect text ch = .ok r) :
    Token ch c.rest r.next.rest := by
  unfold expect at h
  split at h
  · rename_i r' hr
    obtain rfl := Except.ok.inj h
    exact token_of_punctuation? hr
  · cases h

/-- Nothing before the end of a longest run is outside its class. -/
theorem head_dropWhile {p : Char → Bool} {cs tail : List Char} {ch : Char}
    (h : cs.dropWhile p = ch :: tail) : p ch = false := by
  have := List.head?_dropWhile_not p cs
  rw [h] at this
  simpa using this

theorem word_of_identifier {r : Reading String c} (h : c.identifier text = .ok r) :
    Word c.rest r.value r.next.rest := by
  unfold identifier at h
  -- there is a character; it is a backquote, or belongs to a word, or is a fault
  split at h
  · cases h
  · rename_i first rest hrest
    rw [rest_skipBlanks] at hrest
    split at h
    · rename_i quote
      split at h
      · cases h
      · rename_i mark after hafter
        obtain rfl := Except.ok.inj h
        -- everything up to the closing backquote is the name
        refine .quoted ?_ fun ch hch => by simpa using List.mem_takeWhile_imp hch
        -- the run of characters without a backquote stops at one
        obtain rfl : mark = backquote := by simpa using head_dropWhile hafter
        subst quote
        refine hrest.trans (congrArg (List.cons backquote) ?_)
        exact (List.takeWhile_append_dropWhile ..).symm.trans (congrArg (_ ++ ·) hafter)
    · split at h
      · rename_i identifierChar
        obtain rfl := Except.ok.inj h
        refine .plain ?_ ?_ ?_ ?_
        · simp only [skip, rest_skipBlanks, hrest]
          exact (List.takeWhile_append_dropWhile ..).symm
        · simp [identifierChar]
        · intro ch hch
          exact List.mem_takeWhile_imp hch
        · intro ch tail htail
          exact head_dropWhile htail
      · cases h

/-! ## Numbers -/

/-- The characters of a whole number stand at the start of the text. -/
theorem integerText_prefix (cs : List Char) : integerText cs <+: cs := by
  unfold integerText
  split
  · rw [List.cons_prefix_cons]
    exact ⟨rfl, List.takeWhile_prefix _⟩
  · exact List.takeWhile_prefix _

theorem readDigits?_eq_some {cs : List Char} {n : Nat} (h : readDigits? cs = some n) :
    cs ≠ [] ∧ cs.all Char.isDigit = true ∧ natOfDigits cs = n := by
  unfold readDigits? at h
  split at h
  · rename_i digits
    exact ⟨digits.1, digits.2, Option.some.inj h⟩
  · cases h

/-- A whole number is its digits, after a sign if there is one. -/
theorem readInteger?_eq_some {cs : List Char} {n : Int} (h : readInteger? cs = some n) :
    (∃ ds, cs = '-' :: ds ∧ readDigits? ds = some n.natAbs ∧ n = -(n.natAbs : Int)) ∨
    (∃ ds, cs = '+' :: ds ∧ readDigits? ds = some n.natAbs ∧ n = (n.natAbs : Int)) ∨
    (readDigits? cs = some n.natAbs ∧ n = (n.natAbs : Int)) := by
  unfold readInteger? at h
  split at h
  · -- a minus sign
    rename_i ds
    obtain ⟨m, hm, rfl⟩ : ∃ m : Nat, readDigits? ds = some m ∧ -(m : Int) = n := by
      simpa [Option.bind_eq_some_iff] using h
    exact .inl ⟨ds, rfl, by simpa using hm, by simp⟩
  · -- a plus sign
    rename_i ds
    obtain ⟨m, hm, rfl⟩ : ∃ m : Nat, readDigits? ds = some m ∧ (m : Int) = n := by
      simpa [Option.bind_eq_some_iff] using h
    exact .inr (.inl ⟨ds, rfl, hm, rfl⟩)
  · -- no sign
    obtain ⟨m, hm, rfl⟩ : ∃ m : Nat, readDigits? cs = some m ∧ (m : Int) = n := by
      simpa [Option.bind_eq_some_iff] using h
    exact .inr (.inr ⟨hm, rfl⟩)

/-- A plus sign is not taken up as part of a number. -/
theorem integerText_ne_plus {cs ds : List Char} : integerText cs ≠ '+' :: ds := by
  intro h
  unfold integerText at h
  split at h
  · cases h
  · have plus : '+' ∈ cs.takeWhile Char.isDigit := h ▸ List.mem_cons_self
    exact absurd (List.mem_takeWhile_imp plus) (by decide)

theorem whole_of_integer {r : Reading Int c} (h : c.integer text = .ok r) :
    Whole c.rest r.value r.next.rest := by
  unfold integer at h
  dsimp only at h
  split at h
  · rename_i n hn
    obtain rfl := Except.ok.inj h
    obtain ⟨rest, hrest⟩ := integerText_prefix c.skipBlanks.rest
    have left : c.skipBlanks.rest.drop (integerText c.skipBlanks.rest).length = rest := by
      generalize integerText c.skipBlanks.rest = digits at hrest
      simp [← hrest]
    -- the digits taken up stand at the start of the text, so what is left is the rest
    have fits := isInt32_of_readInt32? hn
    change Whole c.rest n (c.skipBlanks.rest.drop _)
    rw [left]
    -- what was read had a minus sign, a plus sign or none, and a plus sign is never taken up
    obtain ⟨ds, hds, hm, value⟩ | ⟨ds, hds, -⟩ | ⟨hm, value⟩ :=
      readInteger?_eq_some (Option.filter_eq_some_iff.mp hn).1
    · obtain ⟨nonempty, chars, digits⟩ := readDigits?_eq_some hm
      rw [value, ← digits] at fits ⊢
      rw [hds] at hrest
      exact .negative hrest.symm nonempty chars fits
    · exact absurd hds integerText_ne_plus
    · obtain ⟨nonempty, chars, digits⟩ := readDigits?_eq_some hm
      rw [value, ← digits] at fits ⊢
      exact .nonnegative hrest.symm nonempty chars fits
  · cases h

/-- The numbers after the first one, as a list with the first one in front. -/
theorem wholes_of_moreIntegers {c : Cursor} {input : List Char} {n : Int}
    (number : Whole input n c.rest) {r : Reading (List Int) c} (h : c.moreIntegers text = .ok r) :
    Wholes input (n :: r.value) r.next.rest := by
  rw [moreIntegers] at h
  split at h
  · -- a comma comes next, so there are more numbers
    rename_i comma hcomma
    obtain ⟨m, hm, h⟩ := bind_eq_ok_iff.mp h
    obtain ⟨more, hmore, h⟩ := bind_eq_ok_iff.mp h
    obtain rfl := Except.ok.inj h
    have := comma.shorter
    have := m.shorter
    exact .more number (token_of_punctuation? hcomma)
      (wholes_of_moreIntegers (whole_of_integer hm) hmore)
  · -- otherwise the list is closed
    obtain ⟨closing, hclosing, h⟩ := bind_eq_ok_iff.mp h
    obtain rfl := Except.ok.inj h
    exact .last number (token_of_expect hclosing)
termination_by c.rest.length

theorem wholes_of_integers {r : Reading (List Int) c} (h : c.integers text = .ok r) :
    Wholes c.rest r.value r.next.rest := by
  unfold integers at h
  obtain ⟨n, hn, h⟩ := bind_eq_ok_iff.mp h
  obtain ⟨more, hmore, h⟩ := bind_eq_ok_iff.mp h
  obtain rfl := Except.ok.inj h
  exact wholes_of_moreIntegers (whole_of_integer hn) hmore

/-! ## Types -/

theorem derives_of_primitiveAfter {name : Reading String c} {r : Reading SqlType c}
    (word : Word c.rest name.value name.next.rest) (h : c.primitiveAfter text name = .ok r) :
    Derives c.rest (.type r.value) r.next.rest := by
  unfold primitiveAfter at h
  dsimp only at h
  split at h
  · -- there is a list of parameters
    rename_i opening hopening
    obtain ⟨parameters, hparameters, h⟩ := bind_eq_ok_iff.mp h
    obtain ⟨type, htype, h⟩ := bind_eq_ok_iff.mp h
    obtain rfl := Except.ok.inj h
    obtain ⟨p, hp, rfl⟩ := map_eq_ok_iff.mp (mapError_eq_ok_iff.mp htype)
    exact .parameterized word (token_of_punctuation? hopening) (wholes_of_integers hparameters) hp
  · -- there is none
    obtain ⟨type, htype, h⟩ := bind_eq_ok_iff.mp h
    obtain rfl := Except.ok.inj h
    obtain ⟨p, hp, rfl⟩ := map_eq_ok_iff.mp (mapError_eq_ok_iff.mp htype)
    exact .primitive word hp

mutual

/-- A type that is read is derived from the text before it. -/
theorem derives_of_type {c : Cursor} {r : Reading SqlType c} (h : c.type text = .ok r) :
    Derives c.rest (.type r.value) r.next.rest := by
  rw [type] at h
  obtain ⟨name, hname, h⟩ := bind_eq_ok_iff.mp h
  have word := word_of_identifier hname
  have := name.shorter
  -- the name decides how it goes on
  split at h
  · -- an array
    rename_i keyword
    obtain ⟨opening, hopening, h⟩ := bind_eq_ok_iff.mp h
    obtain ⟨element, helement, h⟩ := bind_eq_ok_iff.mp h
    obtain ⟨closing, hclosing, h⟩ := bind_eq_ok_iff.mp h
    obtain rfl := Except.ok.inj h
    have := opening.shorter
    exact .array word keyword (token_of_expect hopening) (derives_of_type helement)
      (token_of_expect hclosing)
  split at h
  · -- a map
    rename_i keyword
    obtain ⟨opening, hopening, h⟩ := bind_eq_ok_iff.mp h
    obtain ⟨key, hkey, h⟩ := bind_eq_ok_iff.mp h
    have := opening.shorter
    have := key.shorter
    have keyType := derives_of_type hkey
    -- only a primitive key goes on
    dsimp only at h
    split at h
    · rename_i k hk
      obtain ⟨comma, hcomma, h⟩ := bind_eq_ok_iff.mp h
      obtain ⟨value, hvalue, h⟩ := bind_eq_ok_iff.mp h
      obtain ⟨closing, hclosing, h⟩ := bind_eq_ok_iff.mp h
      obtain rfl := Except.ok.inj h
      have := comma.shorter
      rw [hk] at keyType
      exact .map word keyword (token_of_expect hopening) keyType (token_of_expect hcomma)
        (derives_of_type hvalue) (token_of_expect hclosing)
    · cases h
  split at h
  · -- a struct, with fields or without
    rename_i keyword
    obtain ⟨opening, hopening, h⟩ := bind_eq_ok_iff.mp h
    have := opening.shorter
    dsimp only at h
    split at h
    · rename_i closing hclosing
      obtain rfl := Except.ok.inj h
      exact .emptyStruct word keyword (token_of_expect hopening) (token_of_punctuation? hclosing)
    · obtain ⟨fields, hfields, h⟩ := bind_eq_ok_iff.mp h
      obtain rfl := Except.ok.inj h
      exact .struct word keyword (token_of_expect hopening) (derives_of_fields hfields)
  · exact derives_of_primitiveAfter word h
termination_by c.rest.length

/-- Fields that are read are derived from the text before them. -/
theorem derives_of_fields {c : Cursor} {r : Reading RowType c} (h : c.fields text = .ok r) :
    Derives c.rest (.fields r.value) r.next.rest := by
  rw [fields] at h
  obtain ⟨name, hname, h⟩ := bind_eq_ok_iff.mp h
  have := name.shorter
  obtain ⟨type, htype, h⟩ := bind_eq_ok_iff.mp h
  have := type.shorter
  dsimp only at h
  split at h
  · -- the last field
    rename_i closing hclosing
    obtain rfl := Except.ok.inj h
    exact .lastField (word_of_identifier hname) (derives_of_type htype)
      (token_of_punctuation? hclosing)
  · -- a field with others after it
    obtain ⟨comma, hcomma, h⟩ := bind_eq_ok_iff.mp h
    obtain ⟨more, hmore, h⟩ := bind_eq_ok_iff.mp h
    obtain rfl := Except.ok.inj h
    have := comma.shorter
    exact .moreFields (word_of_identifier hname) (derives_of_type htype) (token_of_expect hcomma)
      (derives_of_fields hmore)
termination_by c.rest.length

end

end Sluice.Cursor
