import Sluice.Catalog.Codec
import Sluice.Proofs.SqlType.Parameters

/-!
# Types that are stored

A stored type is a document of any origin. What is read from one is well formed all the same: the
parameters of a primitive type are numbers of 32 bits, and are checked again. A type is read layer
by layer, so that a type inside is read from a document with a layer less.

## Main statements

* `Primitive.wellFormed_of_ofDocument?`, `SqlType.wellFormed_of_ofDocument?`: types that are read
  from documents are well formed.
* `RowType.wellFormed_of_ofDocument?`: so are row types.
* `Source.exists_of_ofDocument?`: the columns of sources are read as row types are.
-/

namespace Sluice

open Json Number

/-! ## Members and items -/

section

variable {α β : Type} {b : β}

/-- What is read item by item is read from some item. -/
theorem exists_of_mem_mapM {read? : α → Option β} {items : List α} {read : List β}
    (h : items.mapM read? = some read) (hb : b ∈ read) : ∃ a ∈ items, read? a = some b := by
  -- by the items, each of which is read by itself
  induction items generalizing read with
  | nil =>
    obtain rfl := Option.some.inj h
    cases hb
  | cons item rest ih =>
    rw [List.mapM_cons] at h
    obtain ⟨first, hfirst, h⟩ := Option.bind_eq_some_iff.mp h
    obtain ⟨others, hothers, h⟩ := Option.bind_eq_some_iff.mp h
    obtain rfl := Option.some.inj h
    rcases List.mem_cons.mp hb with rfl | hb
    · exact ⟨item, List.mem_cons_self, hfirst⟩
    · obtain ⟨a, ha, hread⟩ := ih hothers hb
      exact ⟨a, List.mem_cons_of_mem item ha, hread⟩

/-- A member that must be present is read from a document. -/
theorem exists_of_required? {read? : Document → Option β} {member : Option Document}
    (h : Document.required? read? member = some b) : ∃ d, read? d = some b := by
  obtain ⟨d, -, h⟩ := Option.bind_eq_some_iff.mp h
  exact ⟨d, h⟩

/-- So is a member that may be absent, where it is not. -/
theorem exists_of_optional? {read? : Document → Option β} {member : Option Document}
    (h : Document.optional? read? member = some (some b)) : ∃ d, read? d = some b := by
  unfold Document.optional? at h
  split at h
  · cases h
  · cases h
  · rename_i d _
    obtain ⟨b', hread, same⟩ := Option.map_eq_some_iff.mp h
    obtain rfl := Option.some.inj same
    exact ⟨d, hread⟩

end

/-! ## Primitive types -/

theorem isInt32_of_parameterOfDocument? {d : Document} {n : Int}
    (h : parameterOfDocument? d = some n) : IsInt32 n := by
  unfold parameterOfDocument? Document.integer? at h
  split at h
  · split at h
    · rename_i fits
      obtain rfl := Option.some.inj h
      exact fits
    · cases h
  · cases h

theorem Primitive.wellFormed_of_ofDocument? {d : Document} {p : Primitive}
    (h : Primitive.ofDocument? d = some p) : p.WellFormed := by
  obtain ⟨members, -, h⟩ := Option.bind_eq_some_iff.mp h
  split at h
  · obtain ⟨tag, -, h⟩ := Option.bind_eq_some_iff.mp h
    obtain ⟨parameters, hparameters, h⟩ := Option.bind_eq_some_iff.mp h
    apply wellFormed_of_withParameters _ (toOption_eq_some_iff.mp h)
    intro n hn
    -- there is a parameter, so a list of them was read
    cases parameters with
    | none => cases hn
    | some list =>
      obtain ⟨d, hlist⟩ := exists_of_optional? hparameters
      obtain ⟨items, -, hitems⟩ := Option.bind_eq_some_iff.mp hlist
      obtain ⟨item, -, hitem⟩ := exists_of_mem_mapM hitems hn
      exact isInt32_of_parameterOfDocument? hitem
  · cases h

/-! ## Types -/

namespace SqlType

/-- The types of the fields of a row are read by the reader of types. -/
theorem exists_of_rowOfDocument? {type? : Document → Option SqlType} {d : Document} {row : RowType}
    (h : rowOfDocument? type? d = some row) : ∀ f ∈ row, ∃ d', type? d' = some f.2 := by
  obtain ⟨members, -, h⟩ := Option.bind_eq_some_iff.mp h
  split at h
  · obtain ⟨items, -, h⟩ := Option.bind_eq_some_iff.mp h
    intro f hf
    -- a field is an object with a type, which must be there
    obtain ⟨item, -, hitem⟩ := exists_of_mem_mapM h hf
    obtain ⟨parts, -, hitem⟩ := Option.bind_eq_some_iff.mp hitem
    split at hitem
    · obtain ⟨name, -, hitem⟩ := Option.bind_eq_some_iff.mp hitem
      obtain ⟨type, htype, hitem⟩ := Option.bind_eq_some_iff.mp hitem
      obtain rfl := Option.some.inj hitem
      exact exists_of_required? htype
    · cases hitem
  · cases h

/-- Types that are read from documents of some number of layers are well formed. -/
theorem wellFormed_of_ofLayers? {layers : Nat} {d : Document} {t : SqlType}
    (h : ofLayers? layers d = some t) : t.WellFormed := by
  -- a type inside is read with a layer less, and a key of a map by the reader of primitive types
  induction layers generalizing d t with
  | zero => cases h
  | succ layers ih =>
    obtain ⟨choice, -, h⟩ := Option.bind_eq_some_iff.mp h
    split at h
    · -- a primitive type
      obtain ⟨p, hp, rfl⟩ := Option.map_eq_some_iff.mp h
      exact wellFormed_primitive.mpr (Primitive.wellFormed_of_ofDocument? hp)
    · -- an array
      obtain ⟨members, -, h⟩ := Option.bind_eq_some_iff.mp h
      split at h
      · obtain ⟨element, helement, rfl⟩ := Option.map_eq_some_iff.mp h
        obtain ⟨d', helement⟩ := exists_of_required? helement
        exact wellFormed_array.mpr (ih helement)
      · cases h
    · -- a map
      obtain ⟨members, -, h⟩ := Option.bind_eq_some_iff.mp h
      split at h
      · obtain ⟨key, hkey, h⟩ := Option.bind_eq_some_iff.mp h
        obtain ⟨value, hvalue, h⟩ := Option.bind_eq_some_iff.mp h
        obtain rfl := Option.some.inj h
        obtain ⟨d₁, hkey⟩ := exists_of_required? hkey
        obtain ⟨d₂, hvalue⟩ := exists_of_required? hvalue
        exact wellFormed_map.mpr ⟨Primitive.wellFormed_of_ofDocument? hkey, ih hvalue⟩
      · cases h
    · -- a struct
      obtain ⟨fields, hfields, rfl⟩ := Option.map_eq_some_iff.mp h
      apply wellFormed_struct.mpr
      intro f hf
      obtain ⟨d', htype⟩ := exists_of_rowOfDocument? hfields f hf
      exact ih htype
    · cases h

theorem wellFormed_of_ofDocument? {d : Document} {t : SqlType} (h : ofDocument? d = some t) :
    t.WellFormed :=
  wellFormed_of_ofLayers? h

end SqlType

theorem RowType.wellFormed_of_ofDocument? {d : Document} {row : RowType}
    (h : RowType.ofDocument? d = some row) : (SqlType.struct row).WellFormed := by
  apply SqlType.wellFormed_struct.mpr
  intro f hf
  obtain ⟨d', htype⟩ := SqlType.exists_of_rowOfDocument? h f hf
  exact SqlType.wellFormed_of_ofLayers? htype

/-- The columns of a source that is read from a document are read from a document as a row is. -/
theorem Source.exists_of_ofDocument? {d : Document} {s : Source}
    (h : Source.ofDocument? d = some s) : ∃ d', RowType.ofDocument? d' = some s.schema := by
  obtain ⟨members, -, h⟩ := Option.bind_eq_some_iff.mp h
  split at h
  · obtain ⟨name, -, h⟩ := Option.bind_eq_some_iff.mp h
    obtain ⟨kind, -, h⟩ := Option.bind_eq_some_iff.mp h
    obtain ⟨schema, hschema, h⟩ := Option.bind_eq_some_iff.mp h
    obtain ⟨d', hschema⟩ := exists_of_required? hschema
    -- nothing after the columns changes them
    have columns : s.schema = schema := by
      obtain ⟨keyField, -, h⟩ := Option.bind_eq_some_iff.mp h
      obtain ⟨timestamp, -, h⟩ := Option.bind_eq_some_iff.mp h
      obtain ⟨topic, -, h⟩ := Option.bind_eq_some_iff.mp h
      obtain ⟨sql, -, h⟩ := Option.bind_eq_some_iff.mp h
      obtain rfl := Option.some.inj h
      rfl
    exact ⟨d', columns ▸ hschema⟩
  · cases h

end Sluice
