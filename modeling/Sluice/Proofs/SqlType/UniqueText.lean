import Sluice.Proofs.SqlType.Printed
import Sluice.Proofs.Text.Boundary
import Sluice.Statement.Printer

/-!
# The text of a type tells the type

No printed type starts another one, so a text that starts with a printed type says which type it is
and where it ends. The names of fields must be identifiers: a name with a blank in it could pass for
a shorter name and the start of a type.

## Main statements

* `Primitive.name_append_inj`: primitive types, whatever follows them.
* `SqlType.telling`: types, whatever follows them.
-/

namespace Sluice

open Text Grammar

/-! ## Primitive types -/

theorem toList_decimalTypeName {p s : Int} {rest : List Char} :
    (decimalTypeName p s).toList ++ rest =
      "DECIMAL(".toList ++
        ((toString p).toList ++ ',' :: ((toString s).toList ++ ')' :: rest)) := by
  simp [decimalTypeName]

/-- The names of two decimal types, whatever follows them. -/
theorem decimalTypeName_append_inj {p s p' s' : Int} {rest rest' : List Char}
    (h : (decimalTypeName p s).toList ++ rest = (decimalTypeName p' s').toList ++ rest') :
    p = p' ∧ s = s' ∧ rest = rest' := by
  rw [toList_decimalTypeName, toList_decimalTypeName] at h
  obtain ⟨rfl, afterPrecision⟩ :=
    int_append_inj (by simp [isNumberChar]) (by simp [isNumberChar]) (List.append_cancel_left h)
  obtain ⟨rfl, afterScale⟩ :=
    int_append_inj (by simp [isNumberChar]) (by simp [isNumberChar])
      (List.cons.inj afterPrecision).2
  exact ⟨rfl, rfl, (List.cons.inj afterScale).2⟩

namespace Primitive

/-- The names of two primitive types, whatever follows them. -/
theorem name_append_inj {p q : Primitive} {rest rest' : List Char}
    (h : p.name.toList ++ rest = q.name.toList ++ rest') : p = q ∧ rest = rest' := by
  -- a decimal begins with a word that no other type begins with
  cases p with
  | decimal precision scale =>
    cases q with
    | decimal precision' scale' =>
      obtain ⟨rfl, rfl, left⟩ := decimalTypeName_append_inj h
      exact ⟨rfl, left⟩
    | _ => simp [name, decimalTypeName] at h
  | _ =>
    cases q with
    | decimal precision scale => simp [name, decimalTypeName] at h
    | _ => simp_all [name]

/-- The name of a primitive type starts like no other type. -/
theorem name_append_ne {p : Primitive} {rest rest' : List Char} :
    p.name.toList ++ rest ≠ "ARRAY".toList ++ rest' ∧
      p.name.toList ++ rest ≠ "MAP".toList ++ rest' ∧
      p.name.toList ++ rest ≠ "STRUCT".toList ++ rest' := by
  cases p with
  | decimal precision scale => simp [name, decimalTypeName]
  | _ => simp [name]

end Primitive

/-! ## Types -/

/-- The character of an identifier that comes first. -/
theorem Grammar.IsIdentifier.exists_cons {name : String} (h : IsIdentifier name) :
    ∃ c cs, name.toList = c :: cs ∧ Text.isIdentifierChar c = true := by
  cases hname : name.toList with
  | nil => exact absurd (by simpa using hname) h.1
  | cons c cs => exact ⟨c, cs, rfl, h.isIdentifierChar c (by simp [hname])⟩

/-- An identifier is told apart from others by a text that does not go on with it. -/
theorem Grammar.IsIdentifier.append_inj {m n : String} {rest rest' : List Char}
    (hm : IsIdentifier m) (hn : IsIdentifier n) (ends : Ends Text.isIdentifierChar rest)
    (ends' : Ends Text.isIdentifierChar rest') (h : m.toList ++ rest = n.toList ++ rest') :
    m = n ∧ rest = rest' := by
  obtain ⟨same, left⟩ := run_append_inj hm.isIdentifierChar hn.isIdentifierChar ends ends' h
  exact ⟨String.toList_injective same, left⟩

theorem toList_printColumn {f : Field} {rest : List Char} :
    (printColumn f).toList ++ rest = f.1.toList ++ ' ' :: (f.2.print.toList ++ rest) := by
  simp [printColumn]

/-- A column does not start with a character that no identifier has. -/
theorem printColumn_append_ne {f : Field} {c : Char} {rest rest' : List Char}
    (h : IsIdentifier f.1) (hc : isIdentifierChar c = false) :
    (printColumn f).toList ++ rest ≠ c :: rest' := by
  obtain ⟨d, ds, hname, hd⟩ := h.exists_cons
  rw [toList_printColumn, hname]
  intro same
  rw [← (List.cons.inj same).1, hd] at hc
  contradiction

namespace SqlType

/-- What is to be shown of a type: no text that starts with it starts with another type too. -/
def Telling (t : SqlType) : Prop :=
  ∀ u : SqlType, u.AllNames IsIdentifier → ∀ rest rest',
    t.print.toList ++ rest = u.print.toList ++ rest' → t = u ∧ rest = rest'

/-- Columns are told apart when their types are. -/
theorem Telling.column {f g : Field} (telling : f.2.Telling) (hf : IsIdentifier f.1)
    (hg : IsIdentifier g.1 ∧ g.2.AllNames IsIdentifier) {rest rest' : List Char}
    (h : (printColumn f).toList ++ rest = (printColumn g).toList ++ rest') :
    f = g ∧ rest = rest' := by
  rw [toList_printColumn, toList_printColumn] at h
  obtain ⟨sameName, afterName⟩ :=
    hf.append_inj hg.1 (by rw [ends_cons]; decide) (by rw [ends_cons]; decide) h
  obtain ⟨sameType, left⟩ := telling g.2 hg.2 _ _ (List.cons.inj afterName).2
  exact ⟨Prod.ext sameName sameType, left⟩

/-- Lists of columns are told apart, up to a character that no identifier has, when the types of
the columns are. -/
theorem listText_printColumn_inj {fields gs : RowType} {close : Char} {rest rest' : List Char}
    (telling : ∀ f ∈ fields, f.2.Telling) (hf : ∀ f ∈ fields, IsIdentifier f.1)
    (hg : ∀ g ∈ gs, IsIdentifier g.1 ∧ g.2.AllNames IsIdentifier)
    (hclose : isIdentifierChar close = false) (noComma : close ≠ ',')
    (h : listText printColumn fields (close :: rest) = listText printColumn gs (close :: rest')) :
    fields = gs ∧ rest = rest' := by
  -- neither a comma nor the closing mark can belong to a column
  refine listText_inj (fun _ => True) ?_ ?_ ?_ (fun _ => trivial) trivial trivial noComma h
  · intro f hmem g hmem' _ _ _ _ same
    exact (telling f hmem).column (hf f hmem) (hg g hmem') same
  · intro f hmem _ _
    exact printColumn_append_ne (hf f hmem) hclose
  · intro g hmem _ _
    exact printColumn_append_ne (hg g hmem).1 hclose

theorem printFields_eq (fields : RowType) : printFields fields = fields.map printColumn := by
  induction fields with
  | nil => rfl
  | cons f rest ih => simp [printFields, printColumn, ih]

theorem fieldsText_eq {fields : RowType} {rest : List Char} :
    fieldsText fields rest = listText printColumn fields ('>' :: rest) := by
  rw [fieldsText, listText, printFields_eq]

/-- A text that starts with a type, the names in it being identifiers, starts with no other. -/
theorem telling {t : SqlType} (names : t.AllNames IsIdentifier) : t.Telling := by
  -- by the shape of the type: the first word tells the kind, and the marks tell the parts
  induction t using shapeRec with
  | primitive p =>
    intro u hu rest rest' h
    cases u with
    | primitive q =>
      obtain ⟨rfl, left⟩ := Primitive.name_append_inj h
      exact ⟨rfl, left⟩
    | array element =>
      rw [toList_print_array] at h
      exact absurd h Primitive.name_append_ne.1
    | map key value =>
      rw [toList_print_map] at h
      exact absurd h Primitive.name_append_ne.2.1
    | struct fields =>
      rw [toList_print_struct] at h
      exact absurd h Primitive.name_append_ne.2.2
  | array element ih =>
    intro u hu rest rest' h
    rw [toList_print_array] at h
    cases u with
    | primitive q => exact absurd h.symm Primitive.name_append_ne.1
    | array element' =>
      rw [toList_print_array] at h
      -- the element goes up to the bracket, by induction
      obtain ⟨rfl, left⟩ := ih names element' hu _ _
        (List.cons.inj (List.append_cancel_left h)).2
      exact ⟨rfl, (List.cons.inj left).2⟩
    | map key value =>
      rw [toList_print_map] at h
      simp at h
    | struct fields =>
      rw [toList_print_struct] at h
      simp at h
  | map key value ih =>
    intro u hu rest rest' h
    rw [toList_print_map] at h
    cases u with
    | primitive q => exact absurd h.symm Primitive.name_append_ne.2.1
    | array element =>
      rw [toList_print_array] at h
      simp at h
    | map key' value' =>
      rw [toList_print_map] at h
      -- the key goes up to the comma, and the value up to the bracket
      obtain ⟨rfl, afterKey⟩ :=
        Primitive.name_append_inj (List.cons.inj (List.append_cancel_left h)).2
      obtain ⟨rfl, left⟩ := ih names value' hu _ _ (List.cons.inj afterKey).2
      exact ⟨rfl, (List.cons.inj left).2⟩
    | struct fields =>
      rw [toList_print_struct] at h
      simp at h
  | struct fields ih =>
    intro u hu rest rest' h
    rw [toList_print_struct] at h
    rw [allNames_struct] at names
    cases u with
    | primitive q => exact absurd h.symm Primitive.name_append_ne.2.2
    | array element =>
      rw [toList_print_array] at h
      simp at h
    | map key value =>
      rw [toList_print_map] at h
      simp at h
    | struct gs =>
      rw [toList_print_struct, fieldsText_eq, fieldsText_eq] at h
      rw [allNames_struct] at hu
      -- the fields are told column by column, up to the bracket
      obtain ⟨rfl, left⟩ := listText_printColumn_inj (fun f hf => ih f hf (names f hf).2)
        (fun f hf => (names f hf).1) hu (by decide) (by decide)
        (List.cons.inj (List.append_cancel_left h)).2
      exact ⟨rfl, left⟩

end SqlType

end Sluice
