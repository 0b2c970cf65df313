import Sluice.Proofs.SqlType.UniqueText
import Sluice.Proofs.Statement.Grouping

/-!
# The text of a query tells the query, but not how its joins nest

The text of a query says which columns it selects, which sources it reads from under which names,
how these are joined, which conditions there are and in which order all of this stands. Joins are
printed without parentheses, so the text does not say more about how they nest than the order does:
two queries print alike exactly when they are equal once their joins are regrouped as they are
read. Queries that nest as they are read are told by their text.

Names are identifiers and no keywords, since a keyword in the place of a second name would be taken
for what follows the first one.

## Main definitions

* `Query.Named`: the queries whose names are identifiers and no keywords.
* `Query.regrouped`: a query with its joins regrouped as they are read.

## Main statements

* `Query.print_eq_iff`: the queries that print alike.
* `Query.text_tells_all_but_nesting`: what the text of a query tells.
* `Query.text_hides_nesting`: two queries that print alike and nest differently.
-/

namespace Sluice

open Text Grammar

/-! ## Names -/

/-- The words that the printer puts between the names of a query. -/
def queryKeywords : List String :=
  ["SELECT", "AS", "FROM", "LEFT", "FULL", "OUTER", "JOIN", "ON", "LIMIT"]

/-- An identifier that is no keyword. -/
def IsQueryName (name : String) : Prop :=
  IsIdentifier name ∧ name ∉ queryKeywords

instance (name : String) : Decidable (IsQueryName name) :=
  inferInstanceAs (Decidable (_ ∧ _))

/-- The names in a column are names of a query. -/
structure ColumnRef.Named (c : ColumnRef) : Prop where
  source : ∀ s ∈ c.source, IsQueryName s
  column : IsQueryName c.column

instance (c : ColumnRef) : Decidable c.Named :=
  decidable_of_iff ((∀ s ∈ c.source, IsQueryName s) ∧ IsQueryName c.column)
    ⟨fun ⟨source, column⟩ => ⟨source, column⟩, fun h => ⟨h.source, h.column⟩⟩

/-- The names in an item of a select list are names of a query. -/
def SelectItem.Named : SelectItem → Prop
  | .wildcard => True
  | .column ref newName => ref.Named ∧ ∀ name ∈ newName, IsQueryName name

instance : DecidablePred SelectItem.Named
  | .wildcard => inferInstanceAs (Decidable True)
  | .column _ _ => inferInstanceAs (Decidable (_ ∧ _))

/-- The names in a relation are names of a query. -/
def Relation.Named : Relation → Prop
  | .source name newName => IsQueryName name ∧ ∀ other ∈ newName, IsQueryName other
  | .join _ left right on => left.Named ∧ right.Named ∧ ∀ pair ∈ on, pair.1.Named ∧ pair.2.Named

instance Relation.decidableNamed : DecidablePred Relation.Named
  | .source _ _ => inferInstanceAs (Decidable (_ ∧ _))
  | .join _ left right _ =>
    have := decidableNamed left
    have := decidableNamed right
    inferInstanceAs (Decidable (_ ∧ _ ∧ _))

/-- The names in a query are names of a query. -/
structure Query.Named (q : Query) : Prop where
  projection : ∀ item ∈ q.projection, item.Named
  from_ : q.from_.Named

instance (q : Query) : Decidable q.Named :=
  decidable_of_iff ((∀ item ∈ q.projection, item.Named) ∧ q.from_.Named)
    ⟨fun ⟨projection, from_⟩ => ⟨projection, from_⟩, fun h => ⟨h.projection, h.from_⟩⟩

/-- The text of a name goes on with neither a letter nor a digit nor an underscore. -/
abbrev EndsName (rest : List Char) : Prop :=
  Ends isIdentifierChar rest

/-! ## Second names -/

section SecondNames

variable {mark : String} {newName newName' : Option String} {rest rest' : List Char}

/-- The text of a second name after a mark, before the rest of a text, if there is such a name. -/
def newNameText (mark : String) : Option String → List Char → List Char
  | none, rest => rest
  | some name, rest => ' ' :: (mark.toList ++ (name.toList ++ rest))

/-- A text with or without a second name goes on with a blank, or with what follows the name. -/
theorem ends_newNameText {p : Char → Bool} (blank : p ' ' = false) (ends : Ends p rest) :
    Ends p (newNameText mark newName rest) := by
  cases newName with
  | none => exact ends
  | some name => exact ends_cons.mpr blank

/-- A second name is told where what follows it cannot pass for one. -/
theorem newNameText_inj (h : ∀ name ∈ newName, IsQueryName name)
    (h' : ∀ name ∈ newName', IsQueryName name) (ends : EndsName rest) (ends' : EndsName rest')
    (apart : ∀ name ∈ newName', rest ≠ newNameText mark (some name) rest')
    (apart' : ∀ name ∈ newName, rest' ≠ newNameText mark (some name) rest)
    (same : newNameText mark newName rest = newNameText mark newName' rest') :
    newName = newName' ∧ rest = rest' := by
  -- either both have a second name, which ends where the next thing begins, or neither has
  cases newName with
  | none =>
    cases newName' with
    | none => exact ⟨rfl, same⟩
    | some name' => exact absurd same (apart name' rfl)
  | some name =>
    cases newName' with
    | none => exact absurd same.symm (apart' name rfl)
    | some name' =>
      obtain ⟨rfl, left⟩ := (h name rfl).1.append_inj (h' name' rfl).1 ends ends'
        (List.append_cancel_left (List.cons.inj same).2)
      exact ⟨rfl, left⟩

end SecondNames

/-! ## Columns -/

namespace ColumnRef

/-- The characters of a column: those of names, and the point between two names. -/
def isChar (c : Char) : Bool :=
  c == '.' || isIdentifierChar c

/-- Where a column ends, so does a name. -/
theorem endsName_of_ends {rest : List Char} (ends : Ends isChar rest) : EndsName rest := by
  intro ch hch
  have absent := ends ch hch
  rw [isChar, Bool.or_eq_false_iff] at absent
  exact absent.2

variable {c d : ColumnRef} {rest rest' : List Char}

theorem toList_print_unqualified {column : String} :
    (ColumnRef.print ⟨none, column⟩).toList = column.toList := rfl

theorem toList_print_qualified {source column : String} :
    (ColumnRef.print ⟨some source, column⟩).toList =
      source.toList ++ '.' :: column.toList := by
  simp [print]

theorem isChar_of_isIdentifier {name : String} (h : IsIdentifier name) :
    ∀ ch ∈ name.toList, isChar ch = true := by
  intro ch hch
  simp [isChar, h.isIdentifierChar ch hch]

theorem point_notMem {name : String} (h : IsIdentifier name) : '.' ∉ name.toList := by
  intro point
  have := h.isIdentifierChar '.' point
  contradiction

theorem isChar_of_mem_print (h : c.Named) : ∀ ch ∈ c.print.toList, isChar ch = true := by
  obtain ⟨source, column⟩ := c
  cases source with
  | none => exact isChar_of_isIdentifier h.column.1
  | some source =>
    rw [toList_print_qualified]
    intro ch hch
    rcases List.mem_append.mp hch with inSource | inColumn
    · exact isChar_of_isIdentifier (h.source source rfl).1 ch inSource
    · rcases List.mem_cons.mp inColumn with rfl | inColumn
      · rfl
      · exact isChar_of_isIdentifier h.column.1 ch inColumn

/-- The text of a column tells the column. -/
theorem eq_of_print_eq (hc : c.Named) (hd : d.Named) (h : c.print.toList = d.print.toList) :
    c = d := by
  obtain ⟨source, column⟩ := c
  obtain ⟨source', column'⟩ := d
  -- a point tells whether there is a source, as no name has one
  cases source with
  | none =>
    cases source' with
    | none =>
      rw [toList_print_unqualified, toList_print_unqualified] at h
      rw [String.toList_injective h]
    | some source' =>
      rw [toList_print_unqualified, toList_print_qualified] at h
      have point : '.' ∈ column.toList := by simp [h]
      exact absurd point (point_notMem hc.column.1)
  | some source =>
    cases source' with
    | none =>
      rw [toList_print_unqualified, toList_print_qualified] at h
      have point : '.' ∈ column'.toList := by simp [← h]
      exact absurd point (point_notMem hd.column.1)
    | some source' =>
      rw [toList_print_qualified, toList_print_qualified] at h
      obtain ⟨sameSource, sameColumn⟩ := append_cons_inj
        (point_notMem (hc.source source rfl).1) (point_notMem (hd.source source' rfl).1) h
      rw [String.toList_injective sameSource, String.toList_injective sameColumn]

/-- A column is told where neither a name nor a point goes on. -/
theorem print_append_inj (hc : c.Named) (hd : d.Named) (ends : Ends isChar rest)
    (ends' : Ends isChar rest') (h : c.print.toList ++ rest = d.print.toList ++ rest') :
    c = d ∧ rest = rest' := by
  obtain ⟨sameText, left⟩ :=
    run_append_inj (isChar_of_mem_print hc) (isChar_of_mem_print hd) ends ends' h
  exact ⟨eq_of_print_eq hc hd sameText, left⟩

/-- A column starts with a character of a name. -/
theorem exists_cons_print (h : c.Named) :
    ∃ ch tail, c.print.toList = ch :: tail ∧ isIdentifierChar ch = true := by
  obtain ⟨source, column⟩ := c
  cases source with
  | none => exact h.column.1.exists_cons
  | some source =>
    obtain ⟨ch, tail, hsource, hch⟩ := (h.source source rfl).1.exists_cons
    exact ⟨ch, _, by rw [toList_print_qualified, hsource]; rfl, hch⟩

end ColumnRef

/-! ## Select lists -/

namespace SelectItem

variable {item other : SelectItem} {rest rest' : List Char}

theorem toList_print_column {ref : ColumnRef} {newName : Option String} :
    (print (.column ref newName)).toList ++ rest =
      ref.print.toList ++ newNameText "AS " newName rest := by
  cases newName with
  | none =>
    change (ref.print ++ "").toList ++ rest = _
    simp [newNameText]
  | some name =>
    change (ref.print ++ (" AS " ++ name)).toList ++ rest = _
    simp [newNameText]

/-- What may follow an item: a comma, or the relation that is selected from. -/
def Follows (rest : List Char) : Prop :=
  ∃ tail, rest = ',' :: tail ∨ rest = ' ' :: ("FROM ".toList ++ tail)

theorem Follows.ends (h : Follows rest) : Ends ColumnRef.isChar rest := by
  obtain ⟨tail, rfl | rfl⟩ := h
  · exact ends_cons.mpr (by decide)
  · exact ends_cons.mpr (by decide)

theorem Follows.ne_newNameText {name : String} {tail : List Char} (h : Follows rest) :
    rest ≠ newNameText "AS " (some name) tail := by
  obtain ⟨tail', rfl | rfl⟩ := h
  · simp [newNameText]
  · simp [newNameText]

/-- An item starts with a star or with a character of a name. -/
theorem exists_cons_print (h : item.Named) :
    ∃ ch tail, item.print.toList = ch :: tail ∧ (ch = '*' ∨ isIdentifierChar ch = true) := by
  cases item with
  | wildcard => exact ⟨'*', [], rfl, .inl rfl⟩
  | column ref newName =>
    obtain ⟨ch, tail, href, hch⟩ := ref.exists_cons_print h.1
    refine ⟨ch, tail ++ newNameText "AS " newName [], ?_, .inr hch⟩
    have text : (print (.column ref newName)).toList ++ [] =
        ref.print.toList ++ newNameText "AS " newName [] := toList_print_column
    rw [List.append_nil, href] at text
    exact text

/-- An item is told by what may follow it. -/
theorem print_append_inj (hi : item.Named) (ho : other.Named) (follows : Follows rest)
    (follows' : Follows rest') (h : item.print.toList ++ rest = other.print.toList ++ rest') :
    item = other ∧ rest = rest' := by
  -- no column starts with a star
  have starApart {ref : ColumnRef} {newName : Option String} {tail tail' : List Char}
      (named : Named (.column ref newName)) :
      (print (.column ref newName)).toList ++ tail ≠ '*' :: tail' := by
    obtain ⟨ch, _, href, hch⟩ := ref.exists_cons_print named.1
    rw [toList_print_column, href]
    intro same
    rw [(List.cons.inj same).1] at hch
    contradiction
  cases item with
  | wildcard =>
    cases other with
    | wildcard => exact ⟨rfl, (List.cons.inj h).2⟩
    | column ref newName => exact absurd h.symm (starApart ho)
  | column ref newName =>
    cases other with
    | wildcard => exact absurd h (starApart hi)
    | column ref' newName' =>
      rw [toList_print_column, toList_print_column] at h
      obtain ⟨rfl, afterRef⟩ := ref.print_append_inj hi.1 ho.1
        (ends_newNameText (by decide) follows.ends) (ends_newNameText (by decide) follows'.ends) h
      obtain ⟨rfl, left⟩ := newNameText_inj hi.2 ho.2 (ColumnRef.endsName_of_ends follows.ends)
        (ColumnRef.endsName_of_ends follows'.ends) (fun _ _ => follows.ne_newNameText)
        (fun _ _ => follows'.ne_newNameText) afterRef
      exact ⟨rfl, left⟩

/-- No item starts with a blank. -/
theorem print_append_ne (h : item.Named) : item.print.toList ++ rest ≠ ' ' :: rest' := by
  obtain ⟨ch, tail, hitem, rfl | name⟩ := exists_cons_print h
  · rw [hitem]
    simp
  · rw [hitem]
    intro same
    rw [(List.cons.inj same).1] at name
    contradiction

end SelectItem

/-! ## Relations -/

namespace Relation

variable {r q : Relation} {kind : JoinKind} {rest rest' : List Char}

/-- The text of the first source, before the rest of a text. -/
def firstText : Relation → List Char → List Char
  | source name newName, rest => name.toList ++ newNameText "" newName rest
  | join _ left _ _, rest => left.firstText rest

/-- The text of a piece, before the rest of a text. -/
def Piece.text : Piece → List Char → List Char
  | .joined kind name newName, rest =>
    ' ' :: (kind.keywords.toList ++ ' ' :: (name.toList ++ newNameText "" newName rest))
  | .condition on, rest =>
    " ON ".toList ++ (on.1.print.toList ++ (" = ".toList ++ (on.2.print.toList ++ rest)))

/-- The text of pieces, before the rest of a text. -/
def piecesText (pieces : List Piece) (rest : List Char) : List Char :=
  pieces.foldr Piece.text rest

theorem text_joinedFirst :
    (r.joinedFirst kind).text rest =
      ' ' :: (kind.keywords.toList ++ ' ' :: r.firstText rest) := by
  induction r with
  | source => rfl
  | join kind' left right on ih => exact ih

theorem firstText_first : r.first.firstText rest = r.firstText rest := by
  induction r with
  | source => rfl
  | join kind left right on ih => exact ih

/-- A relation is printed as its first source and its pieces. -/
-- by the relation; the keywords and the first source on the right are one piece
theorem toList_print : r.print.toList ++ rest = r.firstText (piecesText r.pieces rest) := by
  induction r generalizing rest with
  | source name newName =>
    cases newName with
    | none =>
      change (name ++ "").toList ++ rest = _
      simp [firstText, newNameText, pieces, piecesText]
    | some other =>
      change (name ++ (" " ++ other)).toList ++ rest = _
      simp [firstText, newNameText, pieces, piecesText]
  | join kind left right on ihLeft ihRight =>
    rw [firstText, pieces, piecesText, List.foldr_append, List.foldr_cons, text_joinedFirst,
      List.foldr_append, ← piecesText, ← piecesText, ← ihRight, ← ihLeft]
    cases on with
    | none =>
      change (left.print ++ " " ++ kind.keywords ++ " " ++ right.print ++ "").toList ++ rest = _
      simp
    | some on =>
      change (left.print ++ " " ++ kind.keywords ++ " " ++ right.print ++
        (" ON " ++ (on.1.print ++ " = " ++ on.2.print))).toList ++ rest = _
      simp [Piece.text]

/-- The names in a piece are names of a query. -/
def Piece.Named : Piece → Prop
  | .joined _ name newName =>
    IsQueryName name ∧ ∀ other ∈ newName, IsQueryName other
  | .condition on => on.1.Named ∧ on.2.Named

theorem Named.first (h : r.Named) : r.first.Named := by
  induction r with
  | source => exact h
  | join kind left right on ih => exact ih h.1

theorem Named.joinedFirst (h : r.Named) : (r.joinedFirst kind).Named := by
  induction r with
  | source => exact h
  | join kind' left right on ih => exact ih h.1

theorem Named.pieces (h : r.Named) : ∀ piece ∈ r.pieces, piece.Named := by
  -- by the relation
  induction r with
  | source => simp [Relation.pieces]
  | join kind left right on ihLeft ihRight =>
    obtain ⟨hleft, hright, hon⟩ := h
    intro piece hpiece
    simp only [Relation.pieces, List.mem_append, List.mem_cons, Option.mem_toList,
      Option.map_eq_some_iff] at hpiece
    rcases hpiece with inLeft | rfl | inRight | ⟨on, rfl, rfl⟩
    · exact ihLeft hleft piece inLeft
    · exact hright.joinedFirst
    · exact ihRight hright piece inRight
    · exact hon on rfl

/-- What may follow a source: a keyword, or nothing. -/
def Follows (rest : List Char) : Prop :=
  rest = [] ∨ ∃ word ∈ queryKeywords, ∃ tail,
    rest = ' ' :: (word.toList ++ tail) ∧ Ends isIdentifierChar tail

theorem Follows.ends (h : Follows rest) : Ends ColumnRef.isChar rest := by
  obtain rfl | ⟨word, hword, tail, rfl, ends⟩ := h
  · exact ends_nil
  · exact ends_cons.mpr (by decide)

theorem Follows.endsName (h : Follows rest) : EndsName rest :=
  ColumnRef.endsName_of_ends h.ends

theorem isIdentifier_of_mem_queryKeywords : ∀ word ∈ queryKeywords, IsIdentifier word := by
  decide

/-- A second name is no keyword. -/
theorem Follows.ne_newNameText {name : String} (h : Follows rest) (hname : IsQueryName name)
    (follows : Follows rest') : rest ≠ newNameText "" (some name) rest' := by
  obtain rfl | ⟨word, hword, tail, rfl, ends⟩ := h
  · simp [newNameText]
  · intro same
    obtain ⟨rfl, -⟩ := (isIdentifier_of_mem_queryKeywords word hword).append_inj hname.1 ends
      follows.endsName (List.cons.inj same).2
    exact hname.2 hword

/-- A source and its second name are told by what may follow them. -/
theorem source_append_inj {name name' : String} {newName newName' : Option String}
    (h : Named (source name newName)) (h' : Named (source name' newName'))
    (follows : Follows rest) (follows' : Follows rest')
    (same : name.toList ++ newNameText "" newName rest =
      name'.toList ++ newNameText "" newName' rest') :
    name = name' ∧ newName = newName' ∧ rest = rest' := by
  obtain ⟨sameName, afterName⟩ := h.1.1.append_inj h'.1.1
    (ends_newNameText (by decide) follows.endsName)
    (ends_newNameText (by decide) follows'.endsName) same
  -- what follows starts with a keyword, which cannot pass for a second name
  exact ⟨sameName, newNameText_inj h.2 h'.2 follows.endsName follows'.endsName
    (fun other hother => follows.ne_newNameText (h'.2 other hother) follows')
    (fun other hother => follows'.ne_newNameText (h.2 other hother) follows) afterName⟩

/-- The text of a limit, if there is one. -/
def limitText : Option Nat → List Char
  | none => []
  | some n => ' ' :: ("LIMIT ".toList ++ (toString n).toList)

theorem follows_keyword (word : String) (h : word ∈ queryKeywords) :
    Follows (' ' :: (word.toList ++ ' ' :: rest)) :=
  .inr ⟨word, h, _, rfl, ends_cons.mpr (by decide)⟩

theorem follows_limitText (limit : Option Nat) : Follows (limitText limit) := by
  cases limit with
  | none => exact .inl rfl
  | some n => exact follows_keyword "LIMIT" (by decide)

theorem follows_text {piece : Piece} : Follows (piece.text rest) := by
  cases piece with
  | joined kind name newName =>
    cases kind with
    | inner => exact follows_keyword "JOIN" (by decide)
    | left => exact follows_keyword "LEFT" (by decide)
    | outer => exact follows_keyword "FULL" (by decide)
  | condition on => exact follows_keyword "ON" (by decide)

theorem follows_piecesText {pieces : List Piece} (h : Follows rest) :
    Follows (piecesText pieces rest) := by
  cases pieces with
  | nil => exact h
  | cons piece pieces => exact follows_text

/-- A piece is told by what may follow it. -/
theorem text_inj {piece piece' : Piece} (h : piece.Named) (h' : piece'.Named)
    (follows : Follows rest) (follows' : Follows rest')
    (same : piece.text rest = piece'.text rest') : piece = piece' ∧ rest = rest' := by
  -- joins begin with a keyword for their kind, and conditions with another
  cases piece with
  | joined kind name newName =>
    cases piece' with
    | joined kind' name' newName' =>
      -- the words of no kind of join start those of another one
      have ⟨sameKind, sources⟩ : kind = kind' ∧
          name.toList ++ newNameText "" newName rest =
            name'.toList ++ newNameText "" newName' rest' := by
        cases kind <;> cases kind' <;> simp_all [Piece.text, JoinKind.keywords]
      obtain ⟨rfl, rfl, left⟩ := source_append_inj h h' follows follows' sources
      exact ⟨by rw [sameKind], left⟩
    | condition on => cases kind <;> simp [Piece.text, JoinKind.keywords] at same
  | condition on =>
    cases piece' with
    | joined kind' name' newName' => cases kind' <;> simp [Piece.text, JoinKind.keywords] at same
    | condition on' =>
      have blank (tail : List Char) : Ends ColumnRef.isChar (" = ".toList ++ tail) :=
        ends_cons.mpr (by decide)
      obtain ⟨sameLeft, afterLeft⟩ := ColumnRef.print_append_inj h.1 h'.1 (blank _) (blank _)
        (List.append_cancel_left same)
      obtain ⟨sameRight, left⟩ := ColumnRef.print_append_inj h.2 h'.2
        follows.ends follows'.ends (List.append_cancel_left afterLeft)
      exact ⟨congrArg Piece.condition (Prod.ext sameLeft sameRight), left⟩

/-- No piece starts like a limit. -/
theorem text_ne_limitText {piece : Piece} {limit : Option Nat} :
    piece.text rest ≠ limitText limit := by
  cases limit with
  | none =>
    cases piece <;> simp [Piece.text, limitText]
  | some n =>
    cases piece with
    | joined kind name newName => cases kind <;> simp [Piece.text, limitText, JoinKind.keywords]
    | condition on => simp [Piece.text, limitText]

theorem limitText_inj {limit limit' : Option Nat} (h : limitText limit = limitText limit') :
    limit = limit' := by
  cases limit with
  -- the word for the limit comes before its digits
  | none =>
    cases limit' with
    | none => rfl
    | some n' => simp [limitText] at h
  | some n =>
    cases limit' with
    | none => simp [limitText] at h
    | some n' =>
      have digits : (toString n).toList ++ [] = (toString n').toList ++ [] := by
        rw [List.append_nil, List.append_nil]
        exact List.append_cancel_left (List.cons.inj h).2
      rw [(nat_append_inj ends_nil ends_nil digits).1]

/-- The text of pieces and a limit tells them. -/
theorem piecesText_inj {pieces pieces' : List Piece} {limit limit' : Option Nat}
    (h : ∀ piece ∈ pieces, piece.Named) (h' : ∀ piece ∈ pieces', piece.Named)
    (same : piecesText pieces (limitText limit) = piecesText pieces' (limitText limit')) :
    pieces = pieces' ∧ limit = limit' := by
  -- by the pieces; where they end, the limit begins
  induction pieces generalizing pieces' with
  | nil =>
    cases pieces' with
    | nil => exact ⟨rfl, limitText_inj same⟩
    | cons piece' pieces' => exact absurd same.symm text_ne_limitText
  | cons piece pieces ih =>
    cases pieces' with
    | nil => exact absurd same text_ne_limitText
    | cons piece' pieces' =>
      rw [List.forall_mem_cons] at h h'
      obtain ⟨rfl, others⟩ := text_inj h.1 h'.1 (follows_piecesText (follows_limitText limit))
        (follows_piecesText (follows_limitText limit')) same
      obtain ⟨rfl, sameLimit⟩ := ih h.2 h'.2 others
      exact ⟨rfl, sameLimit⟩

theorem exists_first (r : Relation) : ∃ name newName, r.first = source name newName := by
  induction r with
  | source name newName => exact ⟨name, newName, rfl⟩
  | join kind left right on ih => exact ih

/-- The first source is told by what may follow it. -/
theorem firstText_inj (hr : r.Named) (hq : q.Named) (follows : Follows rest)
    (follows' : Follows rest') (same : r.firstText rest = q.firstText rest') :
    r.first = q.first ∧ rest = rest' := by
  obtain ⟨name, newName, first⟩ := r.exists_first
  obtain ⟨name', newName', first'⟩ := q.exists_first
  have named := hr.first
  have named' := hq.first
  rw [← firstText_first, ← firstText_first (r := q), first, first'] at same
  rw [first] at named
  rw [first'] at named'
  obtain ⟨rfl, rfl, left⟩ := source_append_inj named named' follows follows' same
  exact ⟨first.trans first'.symm, left⟩

end Relation

/-! ## Queries -/

open Sluice.Relation (piecesText limitText)

namespace Query

variable {q q' : Query}

/-- A query with its joins regrouped as they are read. -/
def regrouped (q : Query) : Query :=
  { q with from_ := q.from_.regrouped }

theorem toList_print :
    q.print.toList = "SELECT ".toList ++ listText SelectItem.print q.projection
      (' ' :: ("FROM ".toList ++
        q.from_.firstText (piecesText q.from_.pieces (limitText q.limit)))) := by
  obtain ⟨projection, from_, limit⟩ := q
  rw [← Relation.toList_print]
  -- the limit is the only part that may be missing
  cases limit with
  | none =>
    change ("SELECT " ++ ", ".intercalate (projection.map SelectItem.print) ++ " FROM " ++
      from_.print ++ "").toList = _
    simp [listText, limitText]
  | some n =>
    change ("SELECT " ++ ", ".intercalate (projection.map SelectItem.print) ++ " FROM " ++
      from_.print ++ (" LIMIT " ++ toString n)).toList = _
    simp [listText, limitText]

/-- The text of a query tells all of it but how its joins nest. -/
theorem parts_of_print_eq (hq : q.Named) (hq' : q'.Named) (h : q.print = q'.print) :
    q.projection = q'.projection ∧ q.limit = q'.limit ∧ q.from_.first = q'.from_.first ∧
      q.from_.pieces = q'.from_.pieces := by
  have sameText := congrArg String.toList h
  rw [toList_print, toList_print] at sameText
  -- from left to right: the select list, the first source, the pieces up to the limit
  obtain ⟨sameProjection, afterProjection⟩ := listText_inj SelectItem.Follows
    (fun item hitem other hother _ _ follows follows' same =>
      SelectItem.print_append_inj (hq.projection item hitem) (hq'.projection other hother)
        follows follows' same)
    (fun item hitem _ _ => SelectItem.print_append_ne (hq.projection item hitem))
    (fun item hitem _ _ => SelectItem.print_append_ne (hq'.projection item hitem))
    (fun tail => ⟨tail, .inl rfl⟩) ⟨_, .inr rfl⟩ ⟨_, .inr rfl⟩ (by decide)
    (List.append_cancel_left sameText)
  have follows (p : Query) :
      Relation.Follows (piecesText p.from_.pieces (limitText p.limit)) :=
    Relation.follows_piecesText (Relation.follows_limitText p.limit)
  obtain ⟨sameFirst, afterFirst⟩ := Relation.firstText_inj hq.from_ hq'.from_ (follows q)
    (follows q') (List.append_cancel_left afterProjection)
  obtain ⟨samePieces, sameLimit⟩ :=
    Relation.piecesText_inj hq.from_.pieces hq'.from_.pieces afterFirst
  exact ⟨sameProjection, sameLimit, sameFirst, samePieces⟩

/-- Regrouping does not show in the text. -/
theorem print_regrouped : q.regrouped.print = q.print := by
  apply String.toList_injective
  rw [toList_print, toList_print, ← Relation.firstText_first, regrouped]
  simp [Relation.firstText_first]

/-- Queries print alike exactly when they are equal once their joins are regrouped as they are
read. -/
theorem print_eq_iff (hq : q.Named) (hq' : q'.Named) :
    q.print = q'.print ↔ q.regrouped = q'.regrouped := by
  constructor
  · intro h
    obtain ⟨sameProjection, sameLimit, sameFirst, samePieces⟩ := parts_of_print_eq hq hq' h
    rw [regrouped, regrouped, sameProjection, sameLimit,
      Relation.regrouped_eq_iff.mpr ⟨sameFirst, samePieces⟩]
  · intro h
    rw [← print_regrouped, h, print_regrouped]

/-- The text of a query tells its columns, its sources, its joins, its conditions, its limit and
their order, and nothing else: queries print alike exactly when they are equal once their joins are
regrouped as they are read, which changes neither the text nor a query that nests as it is read.
Such queries are told by their text. -/
theorem text_tells_all_but_nesting (hq : q.Named) (hq' : q'.Named) :
    (q.print = q'.print ↔ q.regrouped = q'.regrouped) ∧
      (q.regrouped.print = q.print ∧ q.regrouped.from_.GroupsAsRead) ∧
      (q.from_.GroupsAsRead → q'.from_.GroupsAsRead → (q.print = q'.print ↔ q = q')) := by
  refine ⟨print_eq_iff hq hq', ⟨print_regrouped, Relation.groupsAsRead_regrouped⟩, ?_⟩
  intro asRead asRead'
  have settled : q.regrouped = q := by rw [regrouped, Relation.regrouped_eq_self asRead]
  have settled' : q'.regrouped = q' := by rw [regrouped, Relation.regrouped_eq_self asRead']
  rw [print_eq_iff hq hq', settled, settled']

/-- A join on the right and one on the left are told apart when each has a condition. -/
theorem text_tells_all_but_nesting_closed :
    let a : ColumnRef := ⟨some "A", "ID"⟩
    let b : ColumnRef := ⟨some "B", "ID"⟩
    let c : ColumnRef := ⟨some "C", "ID"⟩
    let selected (from_ : Relation) : Query := ⟨[.wildcard, .column a (some "KEY")], from_, some 10⟩
    let onRight := selected (.join .left (.source "A" none)
      (.join .inner (.source "B" none) (.source "C" none) (some (b, c))) (some (a, b)))
    let onLeft := selected (.join .inner
      (.join .left (.source "A" none) (.source "B" none) (some (a, b)))
      (.source "C" none) (some (b, c)))
    onRight.Named ∧ onLeft.Named ∧ onRight.from_.GroupsAsRead ∧ onLeft.from_.GroupsAsRead ∧
      onRight.print ≠ onLeft.print := by
  intro a b c selected onRight onLeft
  have named : onRight.Named := by decide
  have named' : onLeft.Named := by decide
  have asRead : onRight.from_.GroupsAsRead := by decide
  have asRead' : onLeft.from_.GroupsAsRead := by decide
  -- the two queries are different, and both nest as they are read
  obtain ⟨-, -, tells⟩ := text_tells_all_but_nesting named named'
  refine ⟨named, named', asRead, asRead', ?_⟩
  intro same
  exact absurd ((tells asRead asRead').mp same) (by decide)

/-- A condition after two joins does not say which of them it closes. -/
theorem text_hides_nesting :
    let on : ColumnRef × ColumnRef := (⟨some "B", "ID"⟩, ⟨some "C", "ID"⟩)
    let onRight : Query := ⟨[.wildcard], .join .inner (.source "A" none)
      (.join .inner (.source "B" none) (.source "C" none) (some on)) none, none⟩
    let onLeft : Query := ⟨[.wildcard], .join .inner
      (.join .inner (.source "A" none) (.source "B" none) none)
      (.source "C" none) (some on), none⟩
    onRight.Named ∧ onLeft.Named ∧ onRight.print = onLeft.print ∧ onRight ≠ onLeft := by
  decide

end Query

end Sluice
