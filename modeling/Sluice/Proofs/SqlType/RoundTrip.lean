import Sluice.Proofs.SqlType.Completeness
import Sluice.Proofs.SqlType.Printed
import Sluice.Proofs.SqlType.Soundness

/-!
# Printing and reading types

A printed type reads back as itself exactly when the names of its fields are identifiers. That it
reads back then is what follows from a printed type being derived. For the converse, no name that
is read has a quote in it, so a type that reads back prints without quotes; without quotes in the
text, all names that are read are identifiers.

## Main statements

* `Grammar.Derives.names`: what holds of the words of a text holds of the names read from it.
* `SqlType.read_eq_ok_iff`: the texts that are read are those that the grammar derives.
* `SqlType.read_print_iff`: the types that read back.
-/

namespace Sluice

open Grammar Text Number

/-! ## What is left over -/

namespace Grammar

variable {input rest : List Char}

theorem suffix_of_trimStart (taken : List Char) (h : trimStart input = taken ++ rest) :
    rest <:+ input := by
  have after : rest <:+ trimStart input := h ▸ List.suffix_append taken rest
  exact after.trans (List.dropWhile_suffix _)

theorem Token.suffix {ch : Char} (h : Token ch input rest) : rest <:+ input :=
  suffix_of_trimStart [ch] h

theorem Word.suffix {name : String} (h : Word input name rest) : rest <:+ input := by
  cases h with
  | plain start => exact suffix_of_trimStart _ start
  | quoted start chars =>
    rename_i word
    exact suffix_of_trimStart (backquote :: (word ++ [backquote])) (by simpa using start)

theorem Whole.suffix {n : Int} (h : Whole input n rest) : rest <:+ input := by
  cases h with
  | nonnegative start => exact suffix_of_trimStart _ start
  | negative start => exact suffix_of_trimStart ('-' :: _) start

theorem Wholes.suffix {ns : List Int} (h : Wholes input ns rest) : rest <:+ input := by
  induction h with
  | last number close => exact close.suffix.trans number.suffix
  | more number comma _ ih => exact (ih.trans comma.suffix).trans number.suffix

/-- What is left over ends the text. -/
theorem Derives.suffix {phrase : Phrase} (h : Derives input phrase rest) : rest <:+ input := by
  -- by the derivation, each step of which leaves an end of what it began with
  induction h with
  | primitive word => exact word.suffix
  | parameterized word opening list =>
    exact (list.suffix.trans opening.suffix).trans word.suffix
  | array word _ opening _ closing ih =>
    exact ((closing.suffix.trans ih).trans opening.suffix).trans word.suffix
  | map word _ opening _ comma _ closing ihKey ihValue =>
    exact ((((closing.suffix.trans ihValue).trans comma.suffix).trans ihKey).trans
      opening.suffix).trans word.suffix
  | emptyStruct word _ opening closing =>
    exact (closing.suffix.trans opening.suffix).trans word.suffix
  | struct word _ opening _ ih => exact (ih.trans opening.suffix).trans word.suffix
  | lastField word _ closing ih => exact (closing.suffix.trans ih).trans word.suffix
  | moreFields word _ comma _ ihType ihOthers =>
    exact ((ihOthers.trans comma.suffix).trans ihType).trans word.suffix

/-! ## Names -/

/-- Every name in what is derived has the property. -/
def Phrase.AllNames (P : String → Prop) : Phrase → Prop
  | .type t => t.AllNames P
  | .fields row => ∀ f ∈ row, P f.1 ∧ f.2.AllNames P

/-- What holds of every word at the end of the text holds of every name that is derived. -/
theorem Derives.names {P : String → Prop} {text : List Char} {phrase : Phrase}
    (words : ∀ {input name rest}, Word input name rest → input <:+ text → P name)
    (h : Derives input phrase rest) (within : input <:+ text) : phrase.AllNames P := by
  -- by the derivation, with every word still at the end of the text
  induction h with
  | primitive => exact SqlType.allNames_primitive
  | parameterized => exact SqlType.allNames_primitive
  | array word _ opening _ _ ih =>
    exact ih ((opening.suffix.trans word.suffix).trans within)
  | map word _ opening keyType comma _ _ _ ihValue =>
    exact ihValue ((((comma.suffix.trans keyType.suffix).trans opening.suffix).trans
      word.suffix).trans within)
  | emptyStruct => exact SqlType.allNames_struct.mpr (by simp)
  -- the names of a struct are those of its fields, derived after the bracket
  | struct word _ opening _ ih =>
    exact SqlType.allNames_struct.mpr (ih ((opening.suffix.trans word.suffix).trans within))
  | lastField word _ _ ih =>
    exact List.forall_mem_singleton.mpr ⟨words word within, ih (word.suffix.trans within)⟩
  | moreFields word typed comma _ ihType ihOthers =>
    exact List.forall_mem_cons.mpr ⟨⟨words word within, ihType (word.suffix.trans within)⟩,
      ihOthers (((comma.suffix.trans typed.suffix).trans word.suffix).trans within)⟩

theorem Word.backquote_notMem {name : String} (h : Word input name rest) :
    backquote ∉ name.toList := by
  cases h with
  | plain _ _ chars =>
    rw [String.toList_ofList]
    exact fun h => absurd (chars _ h) (by decide)
  | quoted _ chars =>
    rw [String.toList_ofList]
    exact fun h => chars _ h rfl

/-- Without a quote in the text, a word is an identifier. -/
theorem Word.isIdentifier {name : String} (h : Word input name rest) (plain : backquote ∉ input) :
    IsIdentifier name := by
  cases h with
  | plain _ nonempty chars => exact ⟨by simpa using nonempty, by simpa using chars⟩
  | quoted start =>
    have quote : backquote ∈ trimStart input := by
      rw [start]
      exact List.mem_cons_self
    exact absurd ((List.dropWhile_suffix _).subset quote) plain

end Grammar

/-! ## Whole texts -/

namespace SqlType

/-- A text is read as a type exactly when it derives the type with nothing but blanks left over. -/
theorem read_eq_ok_iff {text : String} {t : SqlType} :
    read text = .ok t ↔ ∃ rest, Derives text.toList (.type t) rest ∧ trimStart rest = [] := by
  constructor
  · intro h
    obtain ⟨type, htype, h⟩ := bind_eq_ok_iff.mp h
    split at h
    · rename_i blank
      obtain rfl := Except.ok.inj h
      exact ⟨_, Cursor.derives_of_type htype, List.isEmpty_iff.mp blank⟩
    · cases h
  · rintro ⟨rest, derived, blank⟩
    obtain ⟨type, htype, rfl, rfl⟩ :=
      Cursor.reads_of_derives text derived (.start text) rfl (closed_of_blank blank)
    -- nothing but blanks is left over, so the reader is at the end
    have atEnd : type.next.skipBlanks.rest.isEmpty = true := List.isEmpty_iff.mpr blank
    refine bind_eq_ok_iff.mpr ⟨type, htype, ?_⟩
    rw [if_pos atEnd]
    rfl

/-- A well-formed type reads back from its text exactly when every name of a field in it is an
identifier. -/
theorem read_print_iff {t : SqlType} (valid : t.WellFormed) :
    read t.print = .ok t ↔ ∀ row ∈ t.structs, ∀ f ∈ row, IsIdentifier f.1 := by
  constructor
  · intro h
    obtain ⟨rest, derived, -⟩ := read_eq_ok_iff.mp h
    -- a quoted word needs quotes in the text, and no name can have brought one there
    have unquoted : backquote ∉ t.print.toList :=
      backquote_notMem_print (derived.names (fun word _ => word.backquote_notMem) List.suffix_rfl)
    exact derived.names (fun word within => word.isIdentifier fun h => unquoted (within.subset h))
      List.suffix_rfl
  · intro names
    -- nothing comes after the text
    have start : trimStart (t.print.toList ++ []) = t.print.toList ++ [] := trimStart_print
    have derived := derives_print valid names _ _ (by simpa using start) stops_nil
    exact read_eq_ok_iff.mpr ⟨[], derived, rfl⟩

/-- A list of amounts reads back when their name is a word, and not when a blank is in it. -/
theorem read_print_amounts :
    let amounts (name : String) : SqlType :=
      .array (.struct [(name, .map .string (.primitive (.decimal 4 2)))])
    (∀ name, (amounts name).WellFormed) ∧
      read (amounts "amount_2").print = .ok (amounts "amount_2") ∧
      read (amounts "amount 2").print ≠ .ok (amounts "amount 2") := by
  intro amounts
  have valid (name : String) : (amounts name).WellFormed := by
    simp [amounts, Primitive.WellFormed, ValidDecimalBounds, IsInt32, int32Least, int32Greatest]
  exact ⟨valid, (read_print_iff (valid _)).mpr (by decide),
    fun h => absurd ((read_print_iff (valid _)).mp h) (by decide)⟩

end SqlType

end Sluice
