import Mathlib.Data.List.Nodup
import Mathlib.Data.List.TakeWhile
import Sluice.Proofs.Avro.Form

/-!
# Full names of generated records

A full name spells the way to its record: the namespace, then the cleaned names of the fields that
lead there, with a dot before each. Cleaned names have no dots, so two full names that branch off
at different fields differ. What is left are two fields of one struct whose cleaned names are the
same: their records clash exactly when both fields have one.

## Main definitions

* `SqlType.hasRecord`: a type whose form is a record, below arrays and maps only.
* `Avro.RecordsApart`: no two fields of one struct have records under the same cleaned name.

## Main statements

* `Avro.nodup_recordNames_iff`: the full names differ exactly when the records are apart.
-/

namespace Sluice

/-- Whether there is a record in the type, below arrays and values of maps only. -/
def SqlType.hasRecord : SqlType → Bool
  | .primitive _ => false
  | .array element => element.hasRecord
  | .map _ value => value.hasRecord
  | .struct _ => true

namespace Avro

/-! ## Names with dots -/

theorem dot_notMem_cleanName {name : String} : '.' ∉ (cleanName name).toList := by
  rw [cleanName, String.toList_ofList, List.mem_map]
  rintro ⟨c, -, hc⟩
  unfold nameChar at hc
  split at hc
  · exact absurd hc (by decide)
  · rename_i other
    exact other (by simp [hc])

/-- A cleaned name has nothing left to clean. -/
theorem cleanName_cleanName (name : String) : cleanName (cleanName name) = cleanName name := by
  have once : ∀ c, nameChar (nameChar c) = nameChar c := by
    intro c
    unfold nameChar
    split <;> rfl
  simp [cleanName, Function.comp_def, once]

theorem toList_joinName {outer name : String} :
    (joinName outer name).toList = outer.toList ++ '.' :: name.toList := by
  simp [joinName]

theorem joinName_assoc {a b c : String} :
    joinName (joinName a b) c = joinName a (joinName b c) := by
  simp [joinName, String.append_assoc]

theorem joinName_right_inj {outer a b : String} (h : joinName outer a = joinName outer b) :
    a = b := by
  have := congrArg String.toList h
  exact String.toList_injective (by simpa [toList_joinName] using this)

theorem joinName_ne_left {outer name : String} : joinName outer name ≠ outer := by
  intro h
  have := congrArg (fun s : String => s.toList.length) h
  simp only [toList_joinName, List.length_append, List.length_cons] at this
  omega

theorem joinName_ne_empty {outer name : String} : joinName outer name ≠ "" := by
  intro h
  have := congrArg String.toList h
  simp [toList_joinName] at this

/-- The full name of a record whose name has no dot. -/
theorem fullName_eq_joinName {name outer : String} (noDot : '.' ∉ name.toList)
    (nonempty : outer ≠ "") : fullName name (some outer) = joinName outer name := by
  have named : (name.toList.contains '.' || outer.isEmpty) = false := by
    simpa [String.isEmpty_iff] using And.intro noDot nonempty
  simp only [fullName, named]
  rfl

/-- A name is another one, or stands in the namespace of that one. -/
def Within (outer name : String) : Prop :=
  name = outer ∨ ∃ inner, name = joinName outer inner

theorem Within.refl (name : String) : Within name name :=
  .inl rfl

/-- What is within a part of a namespace is in the namespace, and starts with that part. -/
theorem Within.exists_eq {outer part name : String} (h : Within (joinName outer part) name) :
    ∃ inner, name = joinName outer inner ∧ Within part inner := by
  obtain rfl | ⟨inner, rfl⟩ := h
  · exact ⟨part, rfl, .refl part⟩
  · exact ⟨joinName part inner, joinName_assoc, .inr ⟨inner, rfl⟩⟩

/-- The part of a name before its first dot is what it is within. -/
theorem Within.takeWhile_eq {part name : String} (h : Within part name)
    (noDot : '.' ∉ part.toList) : name.toList.takeWhile (· != '.') = part.toList := by
  have chars : ∀ c ∈ part.toList, (c != '.') = true := by
    intro c hc
    rw [bne_iff_ne]
    rintro rfl
    exact noDot hc
  obtain rfl | ⟨inner, rfl⟩ := h
  · exact List.takeWhile_eq_self_iff.mpr chars
  · rw [toList_joinName, List.takeWhile_append_of_pos chars]
    simp

/-- A name is within one part of a namespace at most. -/
theorem Within.part_unique {outer a b name : String} (ha : Within (joinName outer a) name)
    (hb : Within (joinName outer b) name) (noDotA : '.' ∉ a.toList) (noDotB : '.' ∉ b.toList) :
    a = b := by
  -- both parts are what stands before the first dot inside the namespace
  obtain ⟨inner, rfl, withinA⟩ := ha.exists_eq
  obtain ⟨inner', same, withinB⟩ := hb.exists_eq
  obtain rfl := joinName_right_inj same
  exact String.toList_injective
    ((withinA.takeWhile_eq noDotA).symm.trans (withinB.takeWhile_eq noDotB))

/-! ## Names of records -/

/-- Every record in a form is the outermost one or stands in its namespace. -/
theorem within_of_mem_recordNames {t : SqlType} {name outer full : String}
    (h : full ∈ recordNames t name outer) : Within (joinName outer name) full := by
  -- by the shape of the type, whatever the record is called
  induction t using SqlType.shapeRec generalizing name outer with
  | primitive p => cases h
  | array element ih => exact ih h
  | map key value ih => exact ih h
  | struct fields ih =>
    rw [recordNames, fieldRecordNames_eq] at h
    -- the outermost record, or one in the namespace of a field of it
    obtain rfl | h := List.mem_cons.mp h
    · exact .refl _
    · obtain ⟨f, hf, h⟩ := List.mem_flatMap.mp h
      obtain ⟨inner, rfl, -⟩ := (ih f hf h).exists_eq
      exact .inr ⟨inner, rfl⟩

/-- A form without a record at its head has no records. -/
theorem recordNames_eq_nil {t : SqlType} {name outer : String} (h : t.hasRecord = false) :
    recordNames t name outer = [] := by
  induction t using SqlType.shapeRec with
  | primitive p => rfl
  | array element ih => exact ih h
  | map key value ih => exact ih h
  | struct fields ih => cases h

/-- The record at the head of a form has the name given. -/
theorem joinName_mem_recordNames {t : SqlType} {name outer : String} (h : t.hasRecord = true) :
    joinName outer name ∈ recordNames t name outer := by
  induction t using SqlType.shapeRec with
  | primitive p => cases h
  | array element ih => exact ih h
  | map key value ih => exact ih h
  | struct fields ih => exact List.mem_cons_self

section

variable {α : Type} (hasRecord : α → Bool)

/-- Two fields of a struct have records of one name. -/
def Clash (f g : String × α) : Prop :=
  cleanName f.1 = cleanName g.1 ∧ hasRecord f.2 = true ∧ hasRecord g.2 = true

instance (f g : String × α) : Decidable (Clash hasRecord f g) :=
  inferInstanceAs (Decidable (_ ∧ _))

/-- No two fields of one struct have records of one name. -/
def RecordsApart (structs : List (List (String × α))) : Prop :=
  ∀ fields ∈ structs, fields.Pairwise fun f g => ¬Clash hasRecord f g

instance (structs : List (List (String × α))) : Decidable (RecordsApart hasRecord structs) :=
  inferInstanceAs (Decidable (∀ fields ∈ structs, _))

end

theorem recordsApart_struct {fields : RowType} :
    RecordsApart SqlType.hasRecord (SqlType.struct fields).structs ↔
      (fields.Pairwise fun f g => ¬Clash SqlType.hasRecord f g) ∧
        ∀ f ∈ fields, RecordsApart SqlType.hasRecord f.2.structs := by
  simp only [RecordsApart, SqlType.structs, SqlType.structsOfFields_eq, List.forall_mem_cons,
    List.mem_flatMap]
  refine and_congr_right' ⟨fun h f hf row hrow => h row ⟨f, hf, hrow⟩, ?_⟩
  rintro h row ⟨f, hf, hrow⟩
  exact h f hf row hrow

/-- The records of two fields of one struct have a name in common exactly when the fields clash. -/
theorem disjoint_recordNames_iff {f g : Field} {inner : String} :
    (recordNames f.2 (cleanName f.1) inner).Disjoint (recordNames g.2 (cleanName g.1) inner) ↔
      ¬Clash SqlType.hasRecord f g := by
  constructor
  · -- fields that clash have outermost records of one name
    rintro disjoint ⟨sameName, hf, hg⟩
    exact disjoint (joinName_mem_recordNames hf) (sameName ▸ joinName_mem_recordNames hg)
  · intro apart full hf hg
    -- a common name passes through both fields, and both have a record then
    have sameName := (within_of_mem_recordNames hf).part_unique (within_of_mem_recordNames hg)
      dot_notMem_cleanName dot_notMem_cleanName
    refine apart ⟨sameName, ?_, ?_⟩
    · by_contra none
      rw [recordNames_eq_nil (by simpa using none)] at hf
      cases hf
    · by_contra none
      rw [recordNames_eq_nil (by simpa using none)] at hg
      cases hg

/-- The full names of the records in a form differ exactly when the records are apart. -/
theorem nodup_recordNames_iff {t : SqlType} {name outer : String} :
    (recordNames t name outer).Nodup ↔ RecordsApart SqlType.hasRecord t.structs := by
  induction t using SqlType.shapeRec generalizing name outer with
  | primitive p => simp [recordNames, RecordsApart, SqlType.structs]
  | array element ih => exact ih
  | map key value ih => exact ih
  | struct fields ih =>
    -- the outermost name is a proper prefix of all others
    have head : joinName outer name ∉ fieldRecordNames fields (joinName outer name) := by
      rw [fieldRecordNames_eq]
      intro h
      obtain ⟨f, hf, h⟩ := List.mem_flatMap.mp h
      obtain ⟨inner, same, -⟩ := (within_of_mem_recordNames h).exists_eq
      exact joinName_ne_left same.symm
    -- the records of two fields are apart as the fields do not clash
    have apart : fields.Pairwise (Function.onFun List.Disjoint
          fun f => recordNames f.2 (cleanName f.1) (joinName outer name)) ↔
        fields.Pairwise fun f g => ¬Clash SqlType.hasRecord f g :=
      List.Pairwise.iff fun _ _ => disjoint_recordNames_iff
    -- and within each field they are apart by induction
    have each : (∀ f ∈ fields, (recordNames f.2 (cleanName f.1) (joinName outer name)).Nodup) ↔
        ∀ f ∈ fields, RecordsApart SqlType.hasRecord f.2.structs :=
      forall₂_congr fun f hf => ih f hf
    rw [recordNames, List.nodup_cons, recordsApart_struct, and_iff_right head, fieldRecordNames_eq,
      List.nodup_flatMap, apart, each, and_comm]

end Avro

end Sluice
