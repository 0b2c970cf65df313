import Sluice.Proofs.Server.Requests
import Sluice.Proofs.SqlType.UniqueText

/-!
# The text of a declaration tells the declaration

A source keeps the text of the statement that declared it. Nothing of the statement is lost in that
text: where one name, type or option ends and the next one starts is told by the text itself, as
long as names are identifiers and no quoted option has a quote in it.

## Main definitions

* `SourceOption`: an option that is given, and `SourceProperties.given`: the options of a
  declaration, in the order in which they are printed.
* `CreateSource.Legible`: the declarations whose text can be taken apart.

## Main statements

* `SourceProperties.options_inj`: the text of the options tells the options.
* `CreateSource.eq_of_print_eq`: the text of a declaration tells the declaration.
* `CreateSource.recorded_text_tells`: so does the text that is kept with a source.
-/

namespace Sluice

open Text Grammar

/-! ## Options -/

/-- An option of a declaration, with its value. -/
inductive SourceOption where
  | brokerTopic (name : String)
  | valueFormat (format : Format)
  | key (column : String)
  | timestamp (column : String)
  | partitions (count : Nat)
  | replicas (count : Nat)

namespace SourceOption

/-- The name of an option and the mark after it. -/
def keyword : SourceOption → String
  | brokerTopic _ => "KAFKA_TOPIC="
  | valueFormat _ => "VALUE_FORMAT="
  | key _ => "KEY="
  | timestamp _ => "TIMESTAMP="
  | partitions _ => "PARTITIONS="
  | replicas _ => "REPLICAS="

/-- The text of the value of an option. -/
def value : SourceOption → String
  | brokerTopic name => "'" ++ name ++ "'"
  | valueFormat format => "'" ++ format.name ++ "'"
  | key column => "'" ++ column ++ "'"
  | timestamp column => "'" ++ column ++ "'"
  | partitions count => toString count
  | replicas count => toString count

/-- The text of an option. -/
def print (o : SourceOption) : String :=
  o.keyword ++ o.value

/-- The value has no quote in it. -/
def Unquoted : SourceOption → Prop
  | brokerTopic name => '\'' ∉ name.toList
  | key column => '\'' ∉ column.toList
  | timestamp column => '\'' ∉ column.toList
  | _ => True

/-- Two quoted texts, whatever follows them. -/
theorem quoted_append_inj {s s' : String} {rest rest' : List Char} (hs : '\'' ∉ s.toList)
    (hs' : '\'' ∉ s'.toList)
    (h : ("'" ++ s ++ "'").toList ++ rest = ("'" ++ s' ++ "'").toList ++ rest') :
    s = s' ∧ rest = rest' := by
  have toList_quoted (s : String) (rest : List Char) :
      ("'" ++ s ++ "'").toList ++ rest = '\'' :: (s.toList ++ '\'' :: rest) := by
    simp
  rw [toList_quoted, toList_quoted] at h
  obtain ⟨same, left⟩ := append_cons_inj hs hs' (List.cons.inj h).2
  exact ⟨String.toList_injective same, left⟩

theorem quote_notMem_name (f : Format) : '\'' ∉ f.name.toList := by
  cases f <;> decide

theorem format_name_injective : Function.Injective Format.name := by
  intro f g h
  cases f <;> cases g <;> simp_all [Format.name]

theorem toList_print {o : SourceOption} {rest : List Char} :
    o.print.toList ++ rest = o.keyword.toList ++ (o.value.toList ++ rest) := by
  simp [print]

theorem print_append_ne {o : SourceOption} {rest rest' : List Char} :
    o.print.toList ++ rest ≠ ')' :: rest' := by
  rw [toList_print]
  cases o <;> simp [keyword]

/-- Options are told apart by their keywords, and their values end with a quote or with the digits
of a number. -/
theorem print_append_inj {a b : SourceOption} {rest rest' : List Char} (ha : a.Unquoted)
    (hb : b.Unquoted) (ends : Ends Char.isDigit rest) (ends' : Ends Char.isDigit rest')
    (h : a.print.toList ++ rest = b.print.toList ++ rest') : a = b ∧ rest = rest' := by
  rw [toList_print, toList_print] at h
  -- the keywords differ from their first letters on, so options of two kinds are never alike
  cases a with
  | brokerTopic name =>
    cases b with
    | brokerTopic name' =>
      obtain ⟨rfl, left⟩ := quoted_append_inj ha hb (List.append_cancel_left h)
      exact ⟨rfl, left⟩
    | _ => simp [keyword] at h
  | valueFormat format =>
    cases b with
    | valueFormat format' =>
      obtain ⟨sameName, left⟩ := quoted_append_inj (quote_notMem_name format)
        (quote_notMem_name format') (List.append_cancel_left h)
      exact ⟨congrArg valueFormat (format_name_injective sameName), left⟩
    | _ => simp [keyword] at h
  | key column =>
    cases b with
    | key column' =>
      obtain ⟨rfl, left⟩ := quoted_append_inj ha hb (List.append_cancel_left h)
      exact ⟨rfl, left⟩
    | _ => simp [keyword] at h
  | timestamp column =>
    cases b with
    | timestamp column' =>
      obtain ⟨rfl, left⟩ := quoted_append_inj ha hb (List.append_cancel_left h)
      exact ⟨rfl, left⟩
    | _ => simp [keyword] at h
  | partitions count =>
    cases b with
    | partitions count' =>
      obtain ⟨rfl, left⟩ := nat_append_inj ends ends' (List.append_cancel_left h)
      exact ⟨rfl, left⟩
    | _ => simp [keyword] at h
  | replicas count =>
    cases b with
    | replicas count' =>
      obtain ⟨rfl, left⟩ := nat_append_inj ends ends' (List.append_cancel_left h)
      exact ⟨rfl, left⟩
    | _ => simp [keyword] at h

end SourceOption

namespace SourceProperties

/-- The options that are given, in the order in which they are printed. -/
def given (p : SourceProperties) : List SourceOption :=
  [p.brokerTopic.map .brokerTopic, p.valueFormat.map .valueFormat, p.key.map .key,
    p.timestamp.map .timestamp, p.partitions.map .partitions, p.replicas.map .replicas].filterMap id

/-- The options with one more given. -/
def set (p : SourceProperties) : SourceOption → SourceProperties
  | .brokerTopic name => { p with brokerTopic := some name }
  | .valueFormat format => { p with valueFormat := some format }
  | .key column => { p with key := some column }
  | .timestamp column => { p with timestamp := some column }
  | .partitions count => { p with partitions := some count }
  | .replicas count => { p with replicas := some count }

/-- No quoted option has a quote in it. -/
structure Unquoted (p : SourceProperties) : Prop where
  brokerTopic : ∀ s, p.brokerTopic = some s → '\'' ∉ s.toList
  key : ∀ s, p.key = some s → '\'' ∉ s.toList
  timestamp : ∀ s, p.timestamp = some s → '\'' ∉ s.toList

variable {p q : SourceProperties}

/-- The options are what giving them one after the other makes. -/
theorem foldl_set_given : p.given.foldl set {} = p := by
  obtain ⟨brokerTopic, valueFormat, key, timestamp, partitions, replicas⟩ := p
  cases brokerTopic <;> cases valueFormat <;> cases key <;> cases timestamp <;>
    cases partitions <;> cases replicas <;> rfl

theorem Unquoted.given (h : p.Unquoted) : ∀ o ∈ p.given, o.Unquoted := by
  intro o ho
  simp only [SourceProperties.given, List.mem_filterMap, List.mem_cons, List.not_mem_nil, or_false,
    id_eq, exists_eq_right] at ho
  -- the options that hold texts are unquoted, and the numbers need not be
  rcases ho with ho | ho | ho | ho | ho | ho
  · obtain ⟨s, hs, rfl⟩ := Option.map_eq_some_iff.mp ho.symm
    exact h.brokerTopic s hs
  · obtain ⟨s, hs, rfl⟩ := Option.map_eq_some_iff.mp ho.symm
    trivial
  · obtain ⟨s, hs, rfl⟩ := Option.map_eq_some_iff.mp ho.symm
    exact h.key s hs
  · obtain ⟨s, hs, rfl⟩ := Option.map_eq_some_iff.mp ho.symm
    exact h.timestamp s hs
  · obtain ⟨n, hn, rfl⟩ := Option.map_eq_some_iff.mp ho.symm
    trivial
  · obtain ⟨n, hn, rfl⟩ := Option.map_eq_some_iff.mp ho.symm
    trivial

theorem print_eq :
    p.print = "WITH (" ++ ", ".intercalate (p.given.map SourceOption.print) ++ ")" := by
  rw [given, List.map_filterMap]
  simp only [List.filterMap_cons, id, Option.map_map]
  rfl

theorem toList_print :
    p.print.toList = "WITH (".toList ++ listText SourceOption.print p.given [')'] := by
  simp [print_eq, listText]

/-- The text of the options tells the options. -/
theorem options_inj (hp : p.Unquoted) (hq : q.Unquoted) (h : p.print.toList = q.print.toList) :
    p = q := by
  rw [toList_print, toList_print] at h
  have sameOptions : p.given = q.given := by
    refine (listText_inj (Ends Char.isDigit) ?_ ?_ ?_ ?_ ?_ ?_ (by decide)
      (List.append_cancel_left h)).1
    · intro a ha b hb r r' ends ends' same
      exact SourceOption.print_append_inj (hp.given a ha) (hq.given b hb) ends ends' same
    · exact fun o _ _ _ => SourceOption.print_append_ne
    · exact fun o _ _ _ => SourceOption.print_append_ne
    all_goals simp
  rw [← foldl_set_given (p := p), sameOptions, foldl_set_given]

end SourceProperties

/-! ## Declarations -/

namespace CreateSource

/-- Names are identifiers, and no quoted option has a quote in it. -/
structure Legible (c : CreateSource) : Prop where
  name : IsIdentifier c.name
  columns : ∀ f ∈ c.columns, IsIdentifier f.1 ∧ f.2.AllNames IsIdentifier
  options : c.properties.Unquoted

variable {c c' : CreateSource}

/-- The text after the name: the columns, if there are any, and the options. -/
def textAfterName (c : CreateSource) : List Char :=
  if c.columns = [] then c.properties.print.toList
  else '(' :: listText printColumn c.columns (')' :: ' ' :: c.properties.print.toList)

/-- The text after the kind: the name, before which a source that exists may be excused. -/
def textAfterKind (c : CreateSource) : List Char :=
  (if c.ifNotExists then "IF NOT EXISTS ".toList else []) ++
    (c.name.toList ++ ' ' :: c.textAfterName)

theorem toList_print :
    c.print.toList = "CREATE ".toList ++ (c.kind.name.toList ++ ' ' :: c.textAfterKind) := by
  unfold print textAfterKind textAfterName listText
  cases c.columns <;> cases c.ifNotExists <;> simp

theorem textAfterName_ne {rest : List Char} : c.textAfterName ≠ 'N' :: rest := by
  unfold textAfterName
  split
  · simp [SourceProperties.toList_print]
  · simp

/-- What is printed after the name tells the columns and the options. -/
theorem textAfterName_inj (hc : c.Legible) (hc' : c'.Legible)
    (h : c.textAfterName = c'.textAfterName) :
    c.columns = c'.columns ∧ c.properties = c'.properties := by
  unfold textAfterName at h
  -- only a list of columns starts with a parenthesis
  split at h
  · split at h
    · rename_i none none'
      exact ⟨none.trans none'.symm, SourceProperties.options_inj hc.options hc'.options h⟩
    · rw [SourceProperties.toList_print] at h
      simp at h
  · split at h
    · rw [SourceProperties.toList_print (p := c'.properties)] at h
      simp at h
    · -- the columns go up to the closing parenthesis, and the options come after it
      obtain ⟨sameColumns, left⟩ := SqlType.listText_printColumn_inj
        (fun f hf => SqlType.telling (hc.columns f hf).2) (fun f hf => (hc.columns f hf).1)
        hc'.columns (by decide) (by decide) (List.cons.inj h).2
      exact ⟨sameColumns,
        SourceProperties.options_inj hc.options hc'.options (List.cons.inj left).2⟩

/-- A name is told by what is printed from it on. -/
theorem name_append_inj (hc : c.Legible) (hc' : c'.Legible) {rest rest' : List Char}
    (h : c.name.toList ++ ' ' :: rest = c'.name.toList ++ ' ' :: rest') :
    c.name = c'.name ∧ rest = rest' := by
  obtain ⟨sameName, left⟩ := hc.name.append_inj hc'.name (by rw [ends_cons]; decide)
    (by rw [ends_cons]; decide) h
  exact ⟨sameName, (List.cons.inj left).2⟩

/-- A name, even `IF`, does not go on like the words that excuse a source that exists. -/
theorem excuse_append_ne (hc : c.Legible) {rest : List Char} :
    "IF NOT EXISTS ".toList ++ rest ≠ c.name.toList ++ ' ' :: c.textAfterName := by
  intro h
  have words : "IF NOT EXISTS ".toList ++ rest =
      "IF".toList ++ ' ' :: ("NOT EXISTS ".toList ++ rest) := by
    simp
  have isName : IsIdentifier "IF" := by decide
  obtain ⟨-, left⟩ := isName.append_inj hc.name (by rw [ends_cons]; decide)
    (by rw [ends_cons]; decide) (words.symm.trans h)
  exact textAfterName_ne (List.cons.inj left).2.symm

/-- What is printed after the kind tells the rest of the declaration. -/
theorem textAfterKind_inj (hc : c.Legible) (hc' : c'.Legible)
    (h : c.textAfterKind = c'.textAfterKind) :
    c.ifNotExists = c'.ifNotExists ∧ c.name = c'.name ∧ c.textAfterName = c'.textAfterName := by
  unfold textAfterKind at h
  cases excused : c.ifNotExists <;> cases excused' : c'.ifNotExists <;>
    simp only [excused, excused', if_true, if_false, Bool.false_eq_true, List.nil_append] at h
  · exact ⟨rfl, name_append_inj hc hc' h⟩
  · exact absurd h.symm (excuse_append_ne hc)
  · exact absurd h (excuse_append_ne hc')
  · exact ⟨rfl, name_append_inj hc hc' (List.append_cancel_left h)⟩

/-- The text of a declaration tells the declaration. -/
theorem eq_of_print_eq (hc : c.Legible) (hc' : c'.Legible) (h : c.print = c'.print) : c = c' := by
  have sameText := congrArg String.toList h
  rw [toList_print, toList_print] at sameText
  have afterCreate := List.append_cancel_left sameText
  have ⟨sameKind, afterKind⟩ : c.kind = c'.kind ∧ c.textAfterKind = c'.textAfterKind := by
    cases hk : c.kind <;> cases hk' : c'.kind <;> simp_all [SourceKind.name]
  obtain ⟨sameExcuse, sameName, afterName⟩ := textAfterKind_inj hc hc' afterKind
  obtain ⟨sameColumns, sameOptions⟩ := textAfterName_inj hc hc' afterName
  cases c
  cases c'
  simp_all

/-- The text that is kept with a source tells the statement that declared it: statements that print
alike are equal, and so are statements that declared sources with the same text. -/
theorem recorded_text_tells (hc : c.Legible) (hc' : c'.Legible) :
    (c.print = c'.print ↔ c = c') ∧
      ∀ registry registry' s s', c.toSource registry = .ok s →
        c'.toSource registry' = .ok s' → (s.sql = s'.sql ↔ c = c') := by
  have tells : c.print = c'.print ↔ c = c' :=
    ⟨eq_of_print_eq hc hc', fun same => same ▸ rfl⟩
  refine ⟨tells, ?_⟩
  intro registry registry' s s' hs hs'
  obtain ⟨_, _, _, _, -, -, -, -, rfl⟩ := toSource_eq_ok_iff.mp hs
  obtain ⟨_, _, _, _, -, -, -, -, rfl⟩ := toSource_eq_ok_iff.mp hs'
  exact tells

/-- A field that is a column of its own, or one of the struct before it, in two declarations with
the words of a declaration for names. -/
theorem recorded_text_tells_nested :
    let integer : SqlType := .primitive .integer
    let declared (columns : RowType) : CreateSource :=
      { kind := .stream, name := "IF", columns, ifNotExists := false,
        properties := { brokerTopic := some "not, KEY=exists", partitions := some 4 } }
    let nested := declared [("STRUCT", .struct [("B", integer), ("C", integer)])]
    let flat := declared [("STRUCT", .struct [("B", integer)]), ("C", integer)]
    nested.Legible ∧ flat.Legible ∧ nested.print ≠ flat.print ∧
      ∃ s s', nested.toSource none = .ok s ∧ flat.toSource none = .ok s' ∧ s.sql ≠ s'.sql := by
  intro integer declared nested flat
  -- the topic has a comma and words in it, but no quote
  have options (columns : RowType) : (declared columns).properties.Unquoted :=
    ⟨by rintro _ ⟨⟩; decide, by rintro _ ⟨⟩, by rintro _ ⟨⟩⟩
  have legible : nested.Legible :=
    ⟨by decide, by unfold SqlType.AllNames; decide, options _⟩
  have legible' : flat.Legible :=
    ⟨by decide, by unfold SqlType.AllNames; decide, options _⟩
  have different : nested ≠ flat := by decide
  obtain ⟨printed, recorded⟩ := recorded_text_tells legible legible'
  exact ⟨legible, legible', fun same => different (printed.mp same), _, _, rfl, rfl,
    fun same => different ((recorded none none _ _ rfl rfl).mp same)⟩

end CreateSource

end Sluice
