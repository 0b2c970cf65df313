import Mathlib.Data.List.Perm.Basic
import Sluice.Json.Decode

/-!
# Documents that write a value

The members of an object may be written in any order. A record that is written has each of its
members once, so that a reader of records finds them all, each with what is written for it.

## Main definitions

* `Document.Writes`: the document writes the value, with the members of objects in some order.

## Main statements

* `Document.writes_document`: a value is written by the document of it.
* `Document.Writes.fields?`, `Document.Writes.choice?`: what a reader finds in a record or a choice.
-/

namespace Sluice.Json.Document

variable {α : Type} {d d' : Document} {v : Value} {ms : List (String × Document)}
  {members : List (String × Value)}

mutual

/-- The document writes the value, with the members of objects in some order. -/
inductive Writes : Document → Value → Prop
  | null : Writes .null .null
  | bool (b : Bool) : Writes (.bool b) (.bool b)
  | number (n : Number) : Writes (.number n) (.number n)
  | string (s : String) : Writes (.string s) (.string s)
  | array {ds : List Document} {vs : List Value} (items : WriteAll ds vs) :
      Writes (.array ds) (.array vs)
  | object {ms ms' : List (String × Document)} {members : List (String × Value)}
      (order : ms.Perm ms') (written : WriteMembers ms' members) :
      Writes (.object ms) (.object members)

/-- The documents write the values, one by one. -/
inductive WriteAll : List Document → List Value → Prop
  | nil : WriteAll [] []
  | cons {d : Document} {v : Value} {ds : List Document} {vs : List Value} (first : Writes d v)
      (rest : WriteAll ds vs) : WriteAll (d :: ds) (v :: vs)

/-- The members write those of a value, one by one. -/
inductive WriteMembers : List (String × Document) → List (String × Value) → Prop
  | nil : WriteMembers [] []
  | cons {d : Document} {v : Value} {ms : List (String × Document)}
      {members : List (String × Value)} (name : String) (first : Writes d v)
      (rest : WriteMembers ms members) : WriteMembers ((name, d) :: ms) ((name, v) :: members)

end

mutual

/-- A value is written by the document of it, with all members in their order. -/
theorem writes_document : ∀ v : Value, v.document.Writes v
  | .null => .null
  | .bool b => .bool b
  | .number n => .number n
  | .string s => .string s
  | .array items => .array (writeAll_documents items)
  | .object members => .object (.refl _) (writeMembers_memberDocuments members)

theorem writeAll_documents : ∀ vs : List Value, WriteAll (Value.documents vs) vs
  | [] => .nil
  | v :: rest => .cons (writes_document v) (writeAll_documents rest)

theorem writeMembers_memberDocuments :
    ∀ members : List (String × Value), WriteMembers (Value.memberDocuments members) members
  | [] => .nil
  | (name, v) :: rest => .cons name (writes_document v) (writeMembers_memberDocuments rest)

end

/-! ## Layers -/

/-- An item has fewer layers than the array. -/
theorem height_lt_of_mem_array {ds : List Document} (h : d ∈ ds) :
    d.height < (Document.array ds).height := by
  apply Nat.lt_succ_of_le
  induction ds with
  | nil => cases h
  | cons first rest ih =>
    rcases List.mem_cons.mp h with rfl | h
    · exact Nat.le_max_left _ _
    · exact Nat.le_trans (ih h) (Nat.le_max_right _ _)

/-- What is written for a member has fewer layers than the object. -/
theorem height_lt_of_mem_object {name : String} (h : (name, d) ∈ ms) :
    d.height < (Document.object ms).height := by
  apply Nat.lt_succ_of_le
  induction ms with
  | nil => cases h
  | cons first rest ih =>
    rcases List.mem_cons.mp h with rfl | h
    · exact Nat.le_max_left _ _
    · exact Nat.le_trans (ih h) (Nat.le_max_right _ _)

/-- The layers of members are bounded together. -/
theorem memberHeights_le {bound : Nat} (h : ∀ m ∈ ms, m.2.height ≤ bound) :
    memberHeights ms ≤ bound := by
  induction ms with
  | nil => exact Nat.zero_le bound
  | cons first rest ih =>
    rw [List.forall_mem_cons] at h
    exact Nat.max_le.mpr ⟨h.1, ih h.2⟩

/-! ## Items -/

/-- An array whose items are read back is read back. -/
theorem WriteAll.mapM_eq {write : α → Value} {read? : Document → Option α} {as : List α}
    {ds : List Document} (h : WriteAll ds (as.map write))
    (reads : ∀ a ∈ as, ∀ d ∈ ds, d.Writes (write a) → read? d = some a) :
    ds.mapM read? = some as := by
  -- by the items, each of which is written in its own document
  induction as generalizing ds with
  | nil =>
    cases h
    rfl
  | cons a as ih =>
    cases h with
    | cons first rest =>
      have others := ih rest fun b hb d hd =>
        reads b (List.mem_cons_of_mem a hb) d (List.mem_cons_of_mem _ hd)
      rw [List.mapM_cons, reads a List.mem_cons_self _ List.mem_cons_self first, others]
      rfl

/-! ## Records -/

theorem WriteMembers.writeAll (h : WriteMembers ms members) :
    WriteAll (ms.map (·.2)) (members.map (·.2)) := by
  induction ms generalizing members with
  | nil =>
    cases h
    exact .nil
  | cons m rest ih =>
    cases h with
    | cons name first rest => exact .cons first (ih rest)

theorem WriteMembers.names_eq (h : WriteMembers ms members) :
    ms.map (·.1) = members.map (·.1) := by
  induction ms generalizing members with
  | nil =>
    cases h
    rfl
  | cons m rest ih =>
    cases h with
    | cons name first rest => exact congrArg (name :: ·) (ih rest)

/-- A member whose name stands once is found. -/
theorem member?_of_mem {name : String} (h : (name, d) ∈ ms) (distinct : (ms.map (·.1)).Nodup) :
    member? ms name = some (some d) := by
  have found : ms.filter (·.1 == name) = [(name, d)] := by
    -- by the members, of which one has the name
    induction ms with
    | nil => cases h
    | cons m rest ih =>
      rw [List.map_cons, List.nodup_cons] at distinct
      rcases List.mem_cons.mp h with rfl | later
      · -- the name does not stand again
        rw [List.filter_cons_of_pos (by simp), List.filter_eq_nil_iff.mpr]
        intro m mem same
        exact distinct.1 (List.mem_map.mpr ⟨m, mem, by simpa using same⟩)
      · have other : m.1 ≠ name := by
          rintro rfl
          exact distinct.1 (List.mem_map.mpr ⟨_, later, rfl⟩)
        rw [List.filter_cons_of_neg (by simpa using other), ih later distinct.2]
  rw [member?, found]

/-- A member whose name does not stand is absent. -/
theorem member?_of_absent {name : String} (h : ∀ d, (name, d) ∉ ms) :
    member? ms name = some none := by
  have absent : ms.filter (·.1 == name) = [] := by
    simp only [List.filter_eq_nil_iff, beq_iff_eq]
    rintro ⟨_, d⟩ mem rfl
    exact h d mem
  rw [member?, absent]

/-- Members that are found one by one are found all. -/
theorem mapM_member? {ms' : List (String × Document)}
    (found : ∀ m ∈ ms', member? ms m.1 = some (some m.2)) :
    (ms'.map (·.1)).mapM (member? ms) = some ((ms'.map (·.2)).map some) := by
  induction ms' with
  | nil => rfl
  | cons m rest ih =>
    have others := ih fun m' mem => found m' (List.mem_cons_of_mem m mem)
    rw [List.map_cons, List.mapM_cons, found m List.mem_cons_self, others]
    rfl

/-- A reader of records finds what is written for each member, in the order of the names. -/
theorem Writes.fields? (h : d.Writes (.object members)) (names : List String)
    (same : members.map (·.1) = names) (distinct : names.Nodup) :
    ∃ ds, d.fields? names = some (ds.map some) ∧ WriteAll ds (members.map (·.2)) ∧
      ∀ d' ∈ ds, d'.height < d.height := by
  cases h with
  | object order written =>
    rename_i ms ms'
    -- the members stand in any order, but each name stands once
    rw [← written.names_eq] at same
    refine ⟨ms'.map (·.2), ?_, written.writeAll, ?_⟩
    · have distinct : (ms.map (·.1)).Nodup := (order.map (·.1)).nodup_iff.mpr (same ▸ distinct)
      rw [Document.fields?, record?, ← same]
      apply mapM_member?
      intro m mem
      exact member?_of_mem (order.mem_iff.mpr mem) distinct
    · intro d' mem
      obtain ⟨m, written, rfl⟩ := List.mem_map.mp mem
      exact height_lt_of_mem_object (order.mem_iff.mpr written)

/-- A choice has what is written under its tag. -/
theorem Writes.choice? {tag : String} (h : d.Writes (.object [(tag, v)])) :
    ∃ d', d.choice? = some (tag, some d') ∧ d'.Writes v ∧ d'.height < d.height := by
  cases h with
  | object order written =>
    cases written with
    | cons _ first rest =>
      cases rest
      rename_i d'
      obtain rfl := List.perm_singleton.mp order
      exact ⟨d', rfl, first, height_lt_of_mem_object List.mem_cons_self⟩

/-- A tag alone is read as it is written. -/
theorem Writes.tag? {tag : String} (h : d.Writes (.string tag)) : d.tag? = some tag := by
  cases h
  rfl

end Sluice.Json.Document
