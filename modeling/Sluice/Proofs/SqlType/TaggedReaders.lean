import Sluice.Proofs.SqlType.Tagged
import Sluice.SqlType.TaggedCodec
import Sluice.SqlType.TaggedSyntax

/-!
# Reading types as they are held

What is read as it is held is what is held of the type that is read, from every document and every
text, and where no type is read, no type is held, for the same fault. The readers make the same
steps; only the primitive types are made in another way, and these ways agree.

## Main definitions

* `TypeError.tagged`: a fault as it is held.

## Main statements

* `TaggedType.ofDocument?_eq`, `TaggedRow.ofDocument?_eq`: types and rows in documents.
* `TaggedType.read_eq`: types in texts.
* `TypeError.message_tagged`: the message of a fault does not fail.
-/

namespace Sluice

open Json

/-! ## Documents -/

/-- What is read item by item, and then changed, is read so from each item. -/
theorem mapM_map {α β γ : Type} (read? : α → Option β) (f : β → γ) (items : List α) :
    items.mapM (fun item => (read? item).map f) = (items.mapM read?).map (List.map f) := by
  induction items with
  | nil => rfl
  | cons item rest ih =>
    rw [List.mapM_cons, List.mapM_cons, ih]
    cases read? item with
    | none => rfl
    | some b => cases rest.mapM read? <;> rfl

/-- A member that must be present, and is changed, is read so. -/
theorem required?_map {α β : Type} (read? : Document → Option α) (f : α → β)
    (member : Option Document) :
    Document.required? (fun d => (read? d).map f) member =
      (Document.required? read? member).map f := by
  cases member <;> rfl

/-- A primitive type in a document is held as it is read. -/
theorem TaggedPrimitive.ofDocument?_eq (d : Document) :
    TaggedPrimitive.ofDocument? d = (Primitive.ofDocument? d).map Primitive.tagged := by
  unfold TaggedPrimitive.ofDocument? Primitive.ofDocument?
  match d.fields? ["sql_type", "parameters"] with
  | some [tag, parameters] =>
    dsimp only [Option.bind_eq_bind, Option.bind_some]
    -- the tag and the parameters are read alike, and then the type is made of them
    cases Document.required? TypeTag.ofDocument? tag with
    | none => rfl
    | some tag =>
      cases Document.optional? (fun d => do (← d.array?).mapM parameterOfDocument?) parameters with
      | none => rfl
      | some parameters =>
        dsimp only [Option.bind_some]
        rw [TaggedPrimitive.withParameters_eq]
        cases Primitive.withParameters tag (parameters.getD []) <;> rfl
  | none | some [] | some [_] | some (_ :: _ :: _ :: _) => rfl

/-! ### Layers

A layer is read alike in both forms: under the kind that is chosen, by the reader of that kind. So
that the two are compared kind by kind, the readers of a layer are stated once, for any readers of
what is inside and any forms of types to make of it.
-/

/-- Reads what is written under the choice of a kind, by the reader of that kind. -/
def underKind {α : Type} (primitive? array? map? struct? : Document → Option α) :
    String × Option Document → Option α
  | ("Primitive", some body) => primitive? body
  | ("Array", some body) => array? body
  | ("Map", some body) => map? body
  | ("Struct", some body) => struct? body
  | _ => none

/-- What is changed by the reader of each kind is changed after the choice. -/
theorem underKind_map {α β : Type} (primitive? array? map? struct? : Document → Option α)
    (f : α → β) (choice : String × Option Document) :
    underKind (fun d => (primitive? d).map f) (fun d => (array? d).map f)
        (fun d => (map? d).map f) (fun d => (struct? d).map f) choice =
      (underKind primitive? array? map? struct? choice).map f := by
  unfold underKind
  split <;> rfl

/-- Reads the element of an array, and makes the array. -/
def arrayOfDocument? {α β : Type} (type? : Document → Option α) (make : α → β) (d : Document) :
    Option β := do
  match ← d.fields? ["element"] with
  | [element] => (Document.required? type? element).map make
  | _ => none

/-- Reads the key and the value of a map, and makes the map. -/
def mapOfDocument? {α β γ : Type} (key? : Document → Option α) (type? : Document → Option β)
    (make : α → β → γ) (d : Document) : Option γ := do
  match ← d.fields? ["key", "value"] with
  | [key, value] => return make (← Document.required? key? key) (← Document.required? type? value)
  | _ => none

/-- A type with a layer more, by its kind. -/
theorem SqlType.ofLayers?_succ (layers : Nat) (d : Document) :
    SqlType.ofLayers? (layers + 1) d =
      d.choice?.bind (underKind (fun body => (Primitive.ofDocument? body).map .primitive)
        (arrayOfDocument? (SqlType.ofLayers? layers) .array)
        (mapOfDocument? Primitive.ofDocument? (SqlType.ofLayers? layers) .map)
        (fun body => (SqlType.rowOfDocument? (SqlType.ofLayers? layers) body).map .struct)) :=
  rfl

namespace TaggedType

/-- A field is held as it is read, if its type is. -/
theorem fieldOfDocument?_eq {tagged? : Document → Option TaggedType}
    {type? : Document → Option SqlType} (same : ∀ d, tagged? d = (type? d).map SqlType.tagged)
    (d : Document) :
    fieldOfDocument? tagged? d =
      (SqlType.fieldOfDocument? type? d).map fun f => (f.1, f.2.tagged) := by
  unfold fieldOfDocument? SqlType.fieldOfDocument?
  match d.fields? ["name", "typ"] with
  | some [name, type] =>
    dsimp only [Option.bind_eq_bind, Option.bind_some]
    cases Document.required? Document.string? name with
    | none => rfl
    | some name =>
      rw [funext same, required?_map]
      cases Document.required? type? type <;> rfl
  | none | some [] | some [_] | some (_ :: _ :: _ :: _) => rfl

/-- The fields of a struct are held as they are read, if their types are. -/
theorem rowOfDocument?_eq {tagged? : Document → Option TaggedType}
    {type? : Document → Option SqlType} (same : ∀ d, tagged? d = (type? d).map SqlType.tagged)
    (d : Document) :
    rowOfDocument? tagged? d = (SqlType.rowOfDocument? type? d).map SqlType.fieldsTagged := by
  unfold rowOfDocument? SqlType.rowOfDocument?
  match d.fields? ["fields"] with
  | some [fields] =>
    dsimp only [Option.bind_eq_bind, Option.bind_some]
    cases Document.required? Document.array? fields with
    | none => rfl
    | some items =>
      dsimp only [Option.bind_some]
      rw [funext (fieldOfDocument?_eq same), mapM_map, funext SqlType.fieldsTagged_eq]
  | none | some [] | some (_ :: _ :: _) => rfl

/-- A type with a layer more as it is held, by its kind. -/
theorem ofLayers?_succ (layers : Nat) (d : Document) :
    ofLayers? (layers + 1) d =
      d.choice?.bind (underKind (fun body => (TaggedPrimitive.ofDocument? body).map .primitive)
        (arrayOfDocument? (ofLayers? layers) .array)
        (mapOfDocument? TaggedPrimitive.ofDocument? (ofLayers? layers) .map)
        (fun body => (rowOfDocument? (ofLayers? layers) body).map .struct)) :=
  rfl

/-- An array is held as it is read, if its element is. -/
theorem arrayOfDocument?_eq {tagged? : Document → Option TaggedType}
    {type? : Document → Option SqlType} (same : ∀ d, tagged? d = (type? d).map SqlType.tagged)
    (d : Document) :
    arrayOfDocument? tagged? .array d = (arrayOfDocument? type? .array d).map SqlType.tagged := by
  unfold arrayOfDocument?
  match d.fields? ["element"] with
  | some [element] =>
    dsimp only [Option.bind_eq_bind, Option.bind_some]
    rw [funext same, required?_map]
    cases Document.required? type? element <;> rfl
  | none | some [] | some (_ :: _ :: _) => rfl

/-- A map is held as it is read, if its value is. -/
theorem mapOfDocument?_eq {tagged? : Document → Option TaggedType}
    {type? : Document → Option SqlType} (same : ∀ d, tagged? d = (type? d).map SqlType.tagged)
    (d : Document) :
    mapOfDocument? TaggedPrimitive.ofDocument? tagged? .map d =
      (mapOfDocument? Primitive.ofDocument? type? .map d).map SqlType.tagged := by
  unfold mapOfDocument?
  match d.fields? ["key", "value"] with
  | some [key, value] =>
    dsimp only [Option.bind_eq_bind, Option.bind_some]
    rw [funext TaggedPrimitive.ofDocument?_eq, required?_map, funext same, required?_map]
    cases Document.required? Primitive.ofDocument? key with
    | none => rfl
    | some key => cases Document.required? type? value <;> rfl
  | none | some [] | some [_] | some (_ :: _ :: _ :: _) => rfl

/-- A type in a document of some number of layers is held as it is read. -/
theorem ofLayers?_eq (layers : Nat) (d : Document) :
    ofLayers? layers d = (SqlType.ofLayers? layers d).map SqlType.tagged := by
  -- a type inside has a layer less, and a key of a map is a primitive type
  induction layers generalizing d with
  | zero => rfl
  | succ layers ih =>
    -- the kinds without a lemma of their own
    have primitive (body : Document) :
        (TaggedPrimitive.ofDocument? body).map TaggedType.primitive =
          ((Primitive.ofDocument? body).map SqlType.primitive).map SqlType.tagged := by
      rw [TaggedPrimitive.ofDocument?_eq]
      cases Primitive.ofDocument? body <;> rfl
    have struct (body : Document) :
        (rowOfDocument? (ofLayers? layers) body).map TaggedType.struct =
          ((SqlType.rowOfDocument? (SqlType.ofLayers? layers) body).map SqlType.struct).map
            SqlType.tagged := by
      rw [rowOfDocument?_eq ih]
      cases SqlType.rowOfDocument? (SqlType.ofLayers? layers) body <;> rfl
    rw [ofLayers?_succ, SqlType.ofLayers?_succ, funext primitive, funext (arrayOfDocument?_eq ih),
      funext (mapOfDocument?_eq ih), funext struct]
    cases d.choice? with
    | none => rfl
    | some choice => exact underKind_map _ _ _ _ _ choice

/-- A type in a document is held as it is read. -/
theorem ofDocument?_eq (d : Document) :
    ofDocument? d = (SqlType.ofDocument? d).map SqlType.tagged :=
  ofLayers?_eq d.height d

end TaggedType

/-- A row type in a document is held as it is read. -/
theorem TaggedRow.ofDocument?_eq (d : Document) :
    TaggedRow.ofDocument? d = (RowType.ofDocument? d).map SqlType.fieldsTagged :=
  TaggedType.rowOfDocument?_eq (TaggedType.ofLayers?_eq d.height) d

/-! ## Texts -/

/-- A fault as it is held. -/
def TypeError.tagged : TypeError → TaggedTypeError
  | .malformed text (.compositeKey key) => .compositeKey text key.tagged
  | e => .plain e

/-- The message of a fault does not fail, and is that of the fault. -/
theorem TypeError.message_tagged (e : TypeError) : e.tagged.message = .ok e.message := by
  cases e with
  | primitive e => rfl
  | malformed text fault =>
    cases fault with
    | compositeKey key =>
      rw [tagged, TaggedTypeError.message, SqlType.print_tagged]
      rfl
    | _ => rfl

namespace Cursor

variable {text : String} {c : Cursor} {e : TypeError}

/-! ### Tokens -/

/-- Tokens are not types, so that the fault of a token is held plainly. -/
theorem tagged_of_identifier (h : c.identifier text = .error e) : e.tagged = .plain e := by
  unfold identifier at h
  split at h
  · cases h
    rfl
  · split at h
    · split at h
      · cases h
        rfl
      · cases h
    · split at h
      · cases h
      · cases h
        rfl

theorem tagged_of_expect {ch : Char} (h : c.expect text ch = .error e) : e.tagged = .plain e := by
  unfold expect at h
  split at h
  · cases h
  · cases h
    rfl

theorem tagged_of_integer (h : c.integer text = .error e) : e.tagged = .plain e := by
  unfold integer at h
  dsimp only at h
  split at h
  · cases h
  · cases h
    rfl

theorem tagged_of_moreIntegers (h : c.moreIntegers text = .error e) : e.tagged = .plain e := by
  -- by the reader: a fault is one of the comma, of the number after it, or of what follows
  fun_induction c.moreIntegers text with
  | case1 c comma hcomma ih =>
    obtain h | ⟨n, -, h⟩ := bind_eq_error_iff.mp h
    · exact tagged_of_integer h
    · obtain h | ⟨more, -, h⟩ := bind_eq_error_iff.mp h
      · exact ih n h
      · cases h
  | case2 c hcomma =>
    obtain h | ⟨closing, -, h⟩ := bind_eq_error_iff.mp h
    · exact tagged_of_expect h
    · cases h

theorem tagged_of_integers (h : c.integers text = .error e) : e.tagged = .plain e := by
  obtain h | ⟨n, -, h⟩ := bind_eq_error_iff.mp h
  · exact tagged_of_integer h
  · obtain h | ⟨more, -, h⟩ := bind_eq_error_iff.mp h
    · exact tagged_of_moreIntegers h
    · cases h

/-! ### Types -/

/-- What is read of types, as it is held. -/
def held {α β : Type} (f : α → β) (x : Except TypeError (Reading α c)) :
    Except TaggedTypeError (Reading β c) :=
  (x.map (Reading.map f)).mapError TypeError.tagged

/-- A token that is read first is read first as well where types are held. -/
theorem held_bind {α β γ : Type} {f : β → γ} {x : Except TypeError α}
    (plain : ∀ e, x = .error e → e.tagged = .plain e) (next : α → Except TypeError (Reading β c)) :
    held f (x >>= next) = x.mapError .plain >>= fun a => held f (next a) := by
  cases x with
  | error e => exact congrArg Except.error (plain e rfl)
  | ok a => rfl

/-- A type that is read first is held, and what follows goes on with what is held. -/
theorem held_bind_type {α β γ δ : Type} {d : Cursor} {f : β → γ} {g : α → δ}
    (x : Except TypeError (Reading α d)) {next : Reading α d → Except TypeError (Reading β c)}
    {next' : Reading δ d → Except TaggedTypeError (Reading γ c)}
    (same : ∀ r, next' (r.map g) = held f (next r)) :
    held f (x >>= next) = held g x >>= next' := by
  cases x with
  | error e => rfl
  | ok r => exact (same r).symm

/-- A primitive type is held as it is read, by the name that was read before it. -/
theorem taggedPrimitiveAfter_eq (name : Reading String c) :
    c.taggedPrimitiveAfter text name = held SqlType.tagged (c.primitiveAfter text name) := by
  unfold taggedPrimitiveAfter primitiveAfter
  simp only [TaggedPrimitive.ofName_eq]
  cases name.next.punctuation? '(' with
  | some opening =>
    dsimp only
    rw [held_bind fun _ => tagged_of_integers]
    apply bind_congr
    intro parameters
    cases Primitive.ofName (expandTypeName (Text.asciiUpper name.value)) (some parameters.value) <;>
      rfl
  | none =>
    dsimp only
    cases Primitive.ofName (expandTypeName (Text.asciiUpper name.value)) none <;> rfl

section

variable (typed : ∀ d : Cursor, d.rest.length < c.rest.length →
    d.taggedType text = held SqlType.tagged (d.type text))
  (fielded : ∀ d : Cursor, d.rest.length < c.rest.length →
    d.taggedFields text = held SqlType.fieldsTagged (d.fields text))

include typed in
/-- A type that is read inside is held, and what follows goes on with what is held. -/
theorem taggedType_bind {β γ : Type} {d : Cursor} {f : β → γ}
    (less : d.rest.length < c.rest.length)
    {next : Reading SqlType d → Except TypeError (Reading β c)}
    {next' : Reading TaggedType d → Except TaggedTypeError (Reading γ c)}
    (same : ∀ r, next' (r.map SqlType.tagged) = held f (next r)) :
    d.taggedType text >>= next' = held f (d.type text >>= next) := by
  rw [typed d less, held_bind_type _ same]

include fielded in
/-- Fields that are read inside are held, and what follows goes on with what is held. -/
theorem taggedFields_bind {β γ : Type} {d : Cursor} {f : β → γ}
    (less : d.rest.length < c.rest.length)
    {next : Reading RowType d → Except TypeError (Reading β c)}
    {next' : Reading TaggedRow d → Except TaggedTypeError (Reading γ c)}
    (same : ∀ r, next' (r.map SqlType.fieldsTagged) = held f (next r)) :
    d.taggedFields text >>= next' = held f (d.fields text >>= next) := by
  rw [fielded d less, held_bind_type _ same]

include typed fielded

/-- A type is held as it is read, if the types and the fields in it are. -/
theorem taggedType_step : c.taggedType text = held SqlType.tagged (c.type text) := by
  rw [taggedType, type, held_bind fun _ => tagged_of_identifier]
  apply bind_congr
  intro name
  have afterName := name.shorter
  dsimp only
  -- an array
  by_cases array : Text.asciiUpper name.value = "ARRAY"
  · rw [if_pos array, if_pos array, held_bind fun _ => tagged_of_expect]
    apply bind_congr
    intro opening
    have afterOpening := opening.shorter
    apply taggedType_bind typed (by omega)
    intro element
    rw [held_bind fun _ => tagged_of_expect]
    rfl
  rw [if_neg array, if_neg array]
  -- a map, whose key must be primitive
  by_cases map : Text.asciiUpper name.value = "MAP"
  · rw [if_pos map, if_pos map, held_bind fun _ => tagged_of_expect]
    apply bind_congr
    intro opening
    have afterOpening := opening.shorter
    apply taggedType_bind typed (by omega)
    intro key
    obtain ⟨keyType, next, afterKey⟩ := key
    cases keyType with
    | primitive k =>
      dsimp only [Reading.map, SqlType.tagged]
      rw [held_bind fun _ => tagged_of_expect]
      apply bind_congr
      intro comma
      have afterComma := comma.shorter
      apply taggedType_bind typed (by omega)
      intro value
      rw [held_bind fun _ => tagged_of_expect]
      rfl
    | array | map | struct => rfl
  rw [if_neg map, if_neg map]
  -- a struct
  by_cases struct : Text.asciiUpper name.value = "STRUCT"
  · rw [if_pos struct, if_pos struct, held_bind fun _ => tagged_of_expect]
    apply bind_congr
    intro opening
    have afterOpening := opening.shorter
    cases opening.next.punctuation? '>' with
    | some closing => rfl
    | none =>
      dsimp only
      apply taggedFields_bind fielded (by omega)
      intro fields
      rfl
  · -- any other name is that of a primitive type
    rw [if_neg struct, if_neg struct]
    exact taggedPrimitiveAfter_eq name

/-- Fields are held as they are read, if their types are. -/
theorem taggedFields_step : c.taggedFields text = held SqlType.fieldsTagged (c.fields text) := by
  rw [taggedFields, fields, held_bind fun _ => tagged_of_identifier]
  apply bind_congr
  intro name
  have afterName := name.shorter
  dsimp only
  apply taggedType_bind typed afterName
  intro type
  have afterType := type.shorter
  dsimp only [Reading.map]
  cases type.next.punctuation? '>' with
  | some closing => rfl
  | none =>
    dsimp only
    rw [held_bind fun _ => tagged_of_expect]
    apply bind_congr
    intro comma
    have afterComma := comma.shorter
    apply taggedFields_bind fielded (by omega)
    intro more
    rfl

end

/-- Types and fields are held as they are read, within a bound above what is left of the text. -/
theorem tagged_eq (bound : Nat) (c : Cursor) (enough : c.rest.length < bound) :
    c.taggedType text = held SqlType.tagged (c.type text) ∧
      c.taggedFields text = held SqlType.fieldsTagged (c.fields text) := by
  induction bound generalizing c with
  | zero => exact absurd enough (Nat.not_lt_zero _)
  | succ bound ih =>
    -- every reading inside begins where less of the text is left
    have inside (d : Cursor) (less : d.rest.length < c.rest.length) :=
      ih d (Nat.lt_of_lt_of_le less (Nat.le_of_lt_succ enough))
    have typed (d : Cursor) (less : d.rest.length < c.rest.length) := (inside d less).1
    have fielded (d : Cursor) (less : d.rest.length < c.rest.length) := (inside d less).2
    exact ⟨taggedType_step typed fielded, taggedFields_step typed fielded⟩

end Cursor

/-- A type in a text is held as it is read, and a text that is no type has the same fault. -/
theorem TaggedType.read_eq (text : String) :
    TaggedType.read text =
      ((SqlType.read text).map SqlType.tagged).mapError TypeError.tagged := by
  unfold TaggedType.read SqlType.read
  rw [(Cursor.tagged_eq _ (Cursor.start text) (Nat.lt_succ_self _)).1]
  cases (Cursor.start text).type text with
  | error e => rfl
  | ok type =>
    dsimp only [Cursor.held, Except.map, Except.mapError, Reading.map, bind, Except.bind]
    cases type.next.skipBlanks.rest.isEmpty <;> rfl

end Sluice
