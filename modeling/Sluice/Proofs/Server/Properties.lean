import Mathlib.Data.List.Nodup
import Sluice.Proofs.Json.RoundTrip
import Sluice.Proofs.Server.Settings
import Sluice.Proofs.Text.Character

/-!
# Settings from properties

The value of a property is a text. It counts as a number, a truth value or a string before it is
known which setting it is for, and each setting then takes what it counts as or not. All the same a
setting takes exactly the texts that spell a value of its type, so that properties load the settings
that a JSON object with these values loads.

## Main definitions

* `Config.SpellsNumber`, `Config.SpellsTruth`: the texts that spell a value.
* `Config.Given`: the values that are given for some of the settings; `Config.Given.SpelledIn` and
  `Config.Given.HeldIn` are how properties and objects give them.
* `Config.Acceptable`: the properties that are accepted.

## Main statements

* `Config.ofProperties_agrees`: what is loaded from properties, and that it agrees with JSON.
-/

namespace Sluice.Config

open Json Number

/-! ## Texts of values -/

/-- The text spells a number of 64 bits, with blanks around it. -/
def SpellsNumber (value : String) (n : Nat) : Prop :=
  ∃ core, Text.Unsigned core n ∧ Text.Padded value.toList core

/-- The text spells a truth value, with blanks around it. -/
def SpellsTruth (value : String) (b : Bool) : Prop :=
  Text.Padded value.toList (toString b).toList

variable {value : String} {n : Nat} {b : Bool}

theorem readUInt64?_trim :
    Text.readUInt64? (Text.trim value.toList) = some n ↔ SpellsNumber value n := by
  -- neither digits nor a plus sign are blank
  have inked {ds : List Char} (digits : ds.all Char.isDigit = true) :
      ∀ c ∈ ds, Text.isBlank c = false :=
    fun c mem => Text.isBlank_of_isDigit (List.all_eq_true.mp digits c mem)
  -- so what spells a number begins and ends without blanks
  have core {core : List Char} (h : Text.Unsigned core n) :
      core ≠ [] ∧ ∀ c ∈ core, Text.isBlank c = false := by
    cases h with
    | plain nonempty digits => exact ⟨nonempty, inked digits⟩
    | plus nonempty digits =>
      exact ⟨List.cons_ne_nil _ _, List.forall_mem_cons.mpr ⟨rfl, inked digits⟩⟩
  rw [Text.readUInt64?_eq_some_iff]
  constructor
  · exact fun h => ⟨_, h, Text.padded_trim _⟩
  · rintro ⟨text, h, padded⟩
    obtain ⟨nonempty, inked⟩ := core h
    rwa [(Text.trim_eq_iff nonempty inked).mpr padded]

theorem trim_eq_toString :
    Text.trim value.toList = (toString b).toList ↔ SpellsTruth value b := by
  apply Text.trim_eq_iff
  · cases b with
    | true => exact List.cons_ne_nil _ _
    | false => exact List.cons_ne_nil _ _
  · have inked : ((toString b).toList.all fun c => !Text.isBlank c) = true := by
      cases b with
      | true => rfl
      | false => rfl
    simpa using inked

theorem SpellsNumber.fits (h : SpellsNumber value n) : n ≤ uint64Greatest := by
  obtain ⟨core, number, -⟩ := h
  exact number.fits

theorem SpellsNumber.unique {m : Nat} (h : SpellsNumber value n) (h' : SpellsNumber value m) :
    n = m :=
  Option.some.inj ((readUInt64?_trim.mpr h).symm.trans (readUInt64?_trim.mpr h'))

theorem SpellsTruth.unique {b' : Bool} (h : SpellsTruth value b) (h' : SpellsTruth value b') :
    b = b' := by
  have same := (trim_eq_toString.mpr h).symm.trans (trim_eq_toString.mpr h')
  revert same
  cases b <;> cases b' <;> decide

/-- No number is spelled like a truth value. -/
theorem SpellsTruth.not_number (h : SpellsTruth value b) : ¬SpellsNumber value n := by
  intro number
  have read := readUInt64?_trim.mpr number
  rw [trim_eq_toString.mpr h] at read
  cases b <;> cases read

/-- What a text counts as: the number or truth value that it spells, and else a string. -/
theorem propertyDocument_cases (value : String) :
    (∃ n : Nat, SpellsNumber value n ∧ propertyDocument value = .number (.integer n)) ∨
    (∃ b, SpellsTruth value b ∧ propertyDocument value = .bool b) ∨
    ((∀ n, ¬SpellsNumber value n) ∧ (∀ b, ¬SpellsTruth value b) ∧
      propertyDocument value = .string value) := by
  -- numbers are tried first, then truth values, and what is left is a string
  cases read : Text.readUInt64? (Text.trim value.toList) with
  | some n =>
    refine .inl ⟨n, readUInt64?_trim.mp read, ?_⟩
    simp only [propertyDocument, read]
  | none =>
    right
    have counts : propertyDocument value =
        if Text.trim value.toList = "true".toList then .bool true
        else if Text.trim value.toList = "false".toList then .bool false
        else .string value := by
      simp only [propertyDocument, read]
    by_cases isTrue : Text.trim value.toList = "true".toList
    · exact .inl ⟨true, trim_eq_toString.mp isTrue, counts.trans (if_pos isTrue)⟩
    rw [if_neg isTrue] at counts
    by_cases isFalse : Text.trim value.toList = "false".toList
    · exact .inl ⟨false, trim_eq_toString.mp isFalse, counts.trans (if_pos isFalse)⟩
    rw [if_neg isFalse] at counts
    refine .inr ⟨?_, ?_, counts⟩
    · intro n number
      cases read.symm.trans (readUInt64?_trim.mpr number)
    · intro b truth
      have trimmed := trim_eq_toString.mpr truth
      cases b with
      | true => exact isTrue trimmed
      | false => exact isFalse trimmed

/-- A number is taken exactly if the text spells it. -/
theorem natural?_propertyDocument :
    (propertyDocument value).natural? uint64Greatest = some n ↔ SpellsNumber value n := by
  obtain ⟨m, number, counts⟩ | ⟨b, truth, counts⟩ | ⟨noNumber, -, counts⟩ :=
    propertyDocument_cases value
  · -- another number would be spelled by the same text
    have read : (propertyDocument value).natural? uint64Greatest = some m := by
      simp [counts, Document.natural?, Document.integer?, number.fits]
    rw [read, Option.some.injEq]
    constructor
    · rintro rfl
      exact number
    · exact number.unique
  · simpa [counts, Document.natural?, Document.integer?] using truth.not_number
  · simpa [counts, Document.natural?, Document.integer?] using noNumber n

/-- A truth value is taken exactly if the text spells it. -/
theorem bool?_propertyDocument : (propertyDocument value).bool? = some b ↔ SpellsTruth value b := by
  obtain ⟨n, number, counts⟩ | ⟨b', truth, counts⟩ | ⟨-, noTruth, counts⟩ :=
    propertyDocument_cases value
  · simpa [counts, Document.bool?] using fun truth => SpellsTruth.not_number truth number
  · rw [counts, Document.bool?, Option.some.injEq]
    constructor
    · rintro rfl
      exact truth
    · exact truth.unique
  · simpa [counts, Document.bool?] using noTruth b

/-! ## Entries -/

variable {α : Type} {spells : String → α → Prop} {properties : List (String × String)}
  {key : String} {given : Option α}

/-- What is given for a key by properties: the value that its entry spells, or nothing. -/
def Spelled (spells : String → α → Prop) (properties : List (String × String)) (key : String) :
    Option α → Prop
  | none => ∀ value, (key, value) ∉ properties
  | some a => ∃ value, (key, value) ∈ properties ∧ spells value a

/-- What is given for a key by the members of an object: the value of the only member with that
name, or nothing. -/
def Held (write : α → Value) (members : List (String × Document)) (key : String)
    (given : Option α) : Prop :=
  members.filter (·.1 == key) = (given.map fun a => (key, (write a).document)).toList

/-- An entry is the only one with its key. -/
theorem value_unique {β : Type} {entries : List (String × β)}
    (distinct : (entries.map (·.1)).Nodup) {v w : β} (h : (key, v) ∈ entries)
    (h' : (key, w) ∈ entries) : v = w :=
  (Prod.mk.inj (List.inj_on_of_nodup_map distinct h h' rfl)).2

/-- What is given for a key that has an entry is what the entry spells. -/
theorem spelled_of_mem {value : String} (distinct : (properties.map (·.1)).Nodup)
    (mem : (key, value) ∈ properties) :
    Spelled spells properties key given ↔ ∃ a, given = some a ∧ spells value a := by
  constructor
  · intro spelled
    cases given with
    | none => exact absurd mem (spelled value)
    -- there is one entry for the key, so it is the one that was spelled
    | some a =>
      obtain ⟨value', mem', spelled⟩ := spelled
      obtain rfl := value_unique distinct mem mem'
      exact ⟨a, rfl, spelled⟩
  · rintro ⟨a, rfl, spelled⟩
    exact ⟨value, mem, spelled⟩

/-- Nothing is given for a key that has no entry. -/
theorem spelled_of_absent (absent : ∀ value, (key, value) ∉ properties) :
    Spelled spells properties key given ↔ given = none := by
  cases given with
  | none => simpa [Spelled] using absent
  | some a => simp [Spelled, absent]

/-- Something is given for a key unless its entry spells nothing. -/
theorem exists_spelled_iff (distinct : (properties.map (·.1)).Nodup) :
    (∃ given, Spelled spells properties key given) ↔
      ∀ value, (key, value) ∈ properties → ∃ a, spells value a := by
  constructor
  · intro ⟨given, spelled⟩ value mem
    obtain ⟨a, -, h⟩ := (spelled_of_mem distinct mem).mp spelled
    exact ⟨a, h⟩
  · intro all
    -- either the key has an entry, which spells something, or nothing is given
    by_cases present : ∃ value, (key, value) ∈ properties
    · obtain ⟨value, mem⟩ := present
      obtain ⟨a, h⟩ := all value mem
      exact ⟨some a, value, mem, h⟩
    · exact ⟨none, not_exists.mp present⟩

/-- At most one value is given for a key, if no text spells two. -/
theorem Spelled.unique {given' : Option α} (distinct : (properties.map (·.1)).Nodup)
    (one : ∀ {value a a'}, spells value a → spells value a' → a = a')
    (h : Spelled spells properties key given) (h' : Spelled spells properties key given') :
    given = given' := by
  by_cases present : ∃ value, (key, value) ∈ properties
  · obtain ⟨value, mem⟩ := present
    obtain ⟨a, rfl, spelled⟩ := (spelled_of_mem distinct mem).mp h
    obtain ⟨a', rfl, spelled'⟩ := (spelled_of_mem distinct mem).mp h'
    rw [one spelled spelled']
  · have absent := not_exists.mp present
    rw [(spelled_of_absent absent).mp h, (spelled_of_absent absent).mp h']

/-- The value that is read for a setting: the one of its member, or its default. -/
def ReadsAs (read? : Document → Option α) (default : α) (members : List (String × Document))
    (key : String) (a : α) : Prop :=
  (Document.member? members key).bind (setting? read? default) = some a

/-- What is read for a setting from an object is what it holds for it, or the default. -/
theorem Held.readsAs {write : α → Value} {read? : Document → Option α} {default : α}
    {members : List (String × Document)} (held : Held write members key given)
    (reads : ∀ a ∈ given, read? (write a).document = some a) :
    ReadsAs read? default members key (given.getD default) := by
  rw [ReadsAs, Document.member?, held]
  cases given with
  | none => rfl
  | some a => exact reads a rfl

/-- A natural number as a value. -/
def wholeNumber (n : Nat) : Value :=
  .integer n

/-- What properties count as, as the members of an object. -/
def propertyMembers (properties : List (String × String)) : List (String × Document) :=
  properties.map fun p => (p.1, propertyDocument p.2)

theorem names_propertyMembers (properties : List (String × String)) :
    (propertyMembers properties).map (·.1) = properties.map (·.1) := by
  rw [propertyMembers, List.map_map]
  rfl

/-- What is read for a setting from properties is what they give for it, or the default. -/
theorem readsAs_propertyMembers {read? : Document → Option α} {default a : α}
    (distinct : (properties.map (·.1)).Nodup)
    (reads : ∀ {value a}, read? (propertyDocument value) = some a ↔ spells value a) :
    ReadsAs read? default (propertyMembers properties) key a ↔
      ∃ given, Spelled spells properties key given ∧ given.getD default = a := by
  unfold ReadsAs
  by_cases present : ∃ value, (key, value) ∈ properties
  · obtain ⟨value, mem⟩ := present
    have found : Document.member? (propertyMembers properties) key =
        some (some (propertyDocument value)) := by
      apply Document.member?_of_mem
      · exact List.mem_map.mpr ⟨(key, value), mem, rfl⟩
      · rwa [names_propertyMembers]
    -- the member that is read is the entry, whatever else there is
    simp only [found, spelled_of_mem distinct mem]
    constructor
    · intro read
      exact ⟨some a, ⟨a, rfl, reads.mp read⟩, rfl⟩
    · rintro ⟨_, ⟨a', rfl, spelled⟩, rfl⟩
      exact reads.mpr spelled
  · have absent : ∀ value, (key, value) ∉ properties := not_exists.mp present
    have found : Document.member? (propertyMembers properties) key = some none := by
      apply Document.member?_of_absent
      intro d mem
      obtain ⟨⟨_, value⟩, entry, same⟩ := List.mem_map.mp mem
      obtain ⟨rfl, -⟩ := Prod.mk.inj same
      exact absent value entry
    simp only [found, spelled_of_absent absent]
    constructor
    · intro read
      exact ⟨none, rfl, Option.some.inj read⟩
    · rintro ⟨_, rfl, rfl⟩
      rfl

/-! ## Settings that are given -/

/-- The settings if no values are given. -/
def defaults : Config := {}

/-- Values for some of the settings. -/
structure Given where
  enabled : Option Bool
  expiry : Option Nat
  entries : Option Nat
  capacity : Option Nat
  timeout : Option Nat

namespace Given

/-- The settings with these values, and with defaults where none is given. -/
def config (given : Given) : Config :=
  { authorizationEnabled := given.enabled.getD defaults.authorizationEnabled
    decisionExpiry := given.expiry.getD defaults.decisionExpiry
    decisionCapacity := given.entries.getD defaults.decisionCapacity
    queueCapacity := given.capacity.getD defaults.queueCapacity
    offerTimeout := given.timeout.getD defaults.offerTimeout }

/-- All values of settings. -/
def all (c : Config) : Given :=
  { enabled := some c.authorizationEnabled
    expiry := some c.decisionExpiry
    entries := some c.decisionCapacity
    capacity := some c.queueCapacity
    timeout := some c.offerTimeout }

/-- The numbers fit 64 bits. -/
structure Fits (given : Given) : Prop where
  expiry : ∀ n ∈ given.expiry, n ≤ uint64Greatest
  entries : ∀ n ∈ given.entries, n ≤ uint64Greatest
  capacity : ∀ n ∈ given.capacity, n ≤ uint64Greatest
  timeout : ∀ n ∈ given.timeout, n ≤ uint64Greatest

/-- The properties spell these values and no others. -/
structure SpelledIn (given : Given) (properties : List (String × String)) : Prop where
  enabled : Spelled SpellsTruth properties enabledKey given.enabled
  expiry : Spelled SpellsNumber properties expiryKey given.expiry
  entries : Spelled SpellsNumber properties entriesKey given.entries
  capacity : Spelled SpellsNumber properties capacityKey given.capacity
  timeout : Spelled SpellsNumber properties timeoutKey given.timeout

/-- The members of an object hold these values and no others. -/
structure HeldIn (given : Given) (members : List (String × Document)) : Prop where
  enabled : Held .bool members enabledKey given.enabled
  expiry : Held wholeNumber members expiryKey given.expiry
  entries : Held wholeNumber members entriesKey given.entries
  capacity : Held wholeNumber members capacityKey given.capacity
  timeout : Held wholeNumber members timeoutKey given.timeout

/-- A member with the name, if there is a value. -/
def member (key : String) (value : Option Value) : List (String × Value) :=
  (value.map (key, ·)).toList

/-- These values by their keys. -/
def members (given : Given) : List (String × Value) :=
  member enabledKey (given.enabled.map .bool) ++
    member expiryKey (given.expiry.map wholeNumber) ++
    member entriesKey (given.entries.map wholeNumber) ++
    member capacityKey (given.capacity.map wholeNumber) ++
    member timeoutKey (given.timeout.map wholeNumber)

/-- The object of these values. -/
def toJson (given : Given) : Value :=
  .object given.members

variable {given : Given} {c : Config} {members : List (String × Document)}

theorem SpelledIn.fits (h : given.SpelledIn properties) : given.Fits := by
  have fits {key : String} {given : Option Nat}
      (h : Spelled SpellsNumber properties key given) : ∀ n ∈ given, n ≤ uint64Greatest := by
    rintro n rfl
    obtain ⟨value, -, number⟩ := h
    exact number.fits
  exact ⟨fits h.expiry, fits h.entries, fits h.capacity, fits h.timeout⟩

end Given

/-- The settings are what is read from the members of an object. -/
structure ReadFrom (c : Config) (members : List (String × Document)) : Prop where
  enabled : ReadsAs Document.bool? defaults.authorizationEnabled members enabledKey
    c.authorizationEnabled
  expiry : ReadsAs (Document.natural? uint64Greatest) defaults.decisionExpiry members expiryKey
    c.decisionExpiry
  entries : ReadsAs (Document.natural? uint64Greatest) defaults.decisionCapacity members entriesKey
    c.decisionCapacity
  capacity : ReadsAs (Document.natural? uint64Greatest) defaults.queueCapacity members capacityKey
    c.queueCapacity
  timeout : ReadsAs (Document.natural? uint64Greatest) defaults.offerTimeout members timeoutKey
    c.offerTimeout

variable {given : Given} {c : Config} {members : List (String × Document)}

/-- Settings are read from an object member by member. -/
theorem ofDocument?_object : ofDocument? (.object members) = some c ↔ c.ReadFrom members := by
  -- all members are looked up before the first of them is read
  simp only [ofDocument?, Document.record?, List.mapM_cons, List.mapM_nil, Option.bind_eq_bind,
    Option.pure_def, Option.bind_assoc, Option.bind_some, Option.bind_eq_some_iff]
  constructor
  · rintro ⟨m₁, found₁, m₂, found₂, m₃, found₃, m₄, found₄, m₅, found₅, read⟩
    obtain ⟨_, read₁, _, read₂, _, read₃, _, read₄, _, read₅, ⟨⟩⟩ := read
    constructor
    -- each member has its own look-up and its own reader
    all_goals apply Option.bind_eq_some_iff.mpr
    exacts [⟨m₁, found₁, read₁⟩, ⟨m₂, found₂, read₂⟩, ⟨m₃, found₃, read₃⟩, ⟨m₄, found₄, read₄⟩,
      ⟨m₅, found₅, read₅⟩]
  · rintro ⟨enabled, expiry, entries, capacity, timeout⟩
    obtain ⟨m₁, found₁, read₁⟩ := Option.bind_eq_some_iff.mp enabled
    obtain ⟨m₂, found₂, read₂⟩ := Option.bind_eq_some_iff.mp expiry
    obtain ⟨m₃, found₃, read₃⟩ := Option.bind_eq_some_iff.mp entries
    obtain ⟨m₄, found₄, read₄⟩ := Option.bind_eq_some_iff.mp capacity
    obtain ⟨m₅, found₅, read₅⟩ := Option.bind_eq_some_iff.mp timeout
    exact ⟨m₁, found₁, m₂, found₂, m₃, found₃, m₄, found₄, m₅, found₅,
      _, read₁, _, read₂, _, read₃, _, read₄, _, read₅, rfl⟩

/-- What is read from properties is what they spell. -/
theorem readFrom_propertyMembers (distinct : (properties.map (·.1)).Nodup) :
    c.ReadFrom (propertyMembers properties) ↔
      ∃ given : Given, given.SpelledIn properties ∧ given.config = c := by
  constructor
  · -- setting by setting, what is read is what is spelled, or the default
    intro read
    obtain ⟨enabled, spelled₁, value₁⟩ :=
      (readsAs_propertyMembers distinct bool?_propertyDocument).mp read.enabled
    obtain ⟨expiry, spelled₂, value₂⟩ :=
      (readsAs_propertyMembers distinct natural?_propertyDocument).mp read.expiry
    obtain ⟨entries, spelled₃, value₃⟩ :=
      (readsAs_propertyMembers distinct natural?_propertyDocument).mp read.entries
    obtain ⟨capacity, spelled₄, value₄⟩ :=
      (readsAs_propertyMembers distinct natural?_propertyDocument).mp read.capacity
    obtain ⟨timeout, spelled₅, value₅⟩ :=
      (readsAs_propertyMembers distinct natural?_propertyDocument).mp read.timeout
    refine ⟨⟨enabled, expiry, entries, capacity, timeout⟩,
      ⟨spelled₁, spelled₂, spelled₃, spelled₄, spelled₅⟩, ?_⟩
    rw [Given.config, value₁, value₂, value₃, value₄, value₅]
  · rintro ⟨given, spelled, rfl⟩
    have numbers {key : String} {given : Option Nat} {default : Nat}
        (spelled : Spelled SpellsNumber properties key given) :
        ReadsAs (Document.natural? uint64Greatest) default (propertyMembers properties) key
          (given.getD default) :=
      (readsAs_propertyMembers distinct natural?_propertyDocument).mpr ⟨given, spelled, rfl⟩
    exact {
      enabled := (readsAs_propertyMembers distinct bool?_propertyDocument).mpr
        ⟨given.enabled, spelled.enabled, rfl⟩
      expiry := numbers spelled.expiry
      entries := numbers spelled.entries
      capacity := numbers spelled.capacity
      timeout := numbers spelled.timeout }

/-- What is read from an object is what it holds. -/
theorem Given.HeldIn.readFrom (held : given.HeldIn members) (fits : given.Fits) :
    given.config.ReadFrom members := by
  have whole {n : Nat} (fits : n ≤ uint64Greatest) :
      (wholeNumber n).document.natural? uint64Greatest = some n := by
    simp [wholeNumber, Value.integer, Value.document, Document.natural?, Document.integer?, fits]
  exact {
    enabled := held.enabled.readsAs fun _ _ => rfl
    expiry := held.expiry.readsAs fun n h => whole (fits.expiry n h)
    entries := held.entries.readsAs fun n h => whole (fits.entries n h)
    capacity := held.capacity.readsAs fun n h => whole (fits.capacity n h)
    timeout := held.timeout.readsAs fun n h => whole (fits.timeout n h) }

/-! ## Loading -/

/-- Settings are loaded if they are read and valid. -/
theorem ofDocument_eq_ok_iff {d : Document} :
    ofDocument d = .ok c ↔ ofDocument? d = some c ∧ c.Valid := by
  constructor
  · -- the check comes after the reading and changes nothing
    intro accepted
    refine ⟨?_, valid_of_ofDocument accepted⟩
    unfold ofDocument at accepted
    split at accepted
    · cases accepted
    · rename_i read
      obtain ⟨u, -, rfl⟩ := map_eq_ok_iff.mp accepted
      exact read
  · rintro ⟨read, valid⟩
    have checked : c.validate = .ok () := validate_eq_ok_iff.mpr valid
    rw [ofDocument, read]
    simp only [checked]
    rfl

/-- The settings loaded from properties are those that they spell, if these are valid. -/
theorem ofProperties_eq_ok_iff (distinct : (properties.map (·.1)).Nodup) :
    ofProperties properties = .ok c ↔
      (∃ given : Given, given.SpelledIn properties ∧ given.config = c) ∧ c.Valid := by
  rw [← readFrom_propertyMembers distinct, ← ofDocument?_object]
  exact ofDocument_eq_ok_iff

/-- The values that a JSON text holds are loaded from it, if they are valid. -/
theorem ofJson_of_heldIn {text : String} (read : Document.read? text = some (.object members))
    (held : given.HeldIn members) (fits : given.Fits) (valid : given.config.Valid) :
    ofJson text = .ok given.config := by
  rw [ofJson, read]
  exact ofDocument_eq_ok_iff.mpr ⟨ofDocument?_object.mpr (held.readFrom fits), valid⟩

/-! ## Values as JSON -/

namespace Given

theorem filter_member {key key' : String} {value : Option α} {write : α → Value} :
    ((member key' (value.map write)).map fun m => (m.1, m.2.document)).filter (·.1 == key) =
      if key' = key then (value.map fun a => (key, (write a).document)).toList else [] := by
  cases value with
  | none => simp [member]
  | some a =>
    by_cases same : key' = key
    · simp [member, same]
    · simp [member, same]

/-- The object holds the values. -/
theorem heldIn_members (given : Given) : given.HeldIn (Value.memberDocuments given.members) := by
  rw [Value.memberDocuments_eq_map, members]
  constructor
  all_goals
    rw [Held]
    simp [filter_member, enabledKey, expiryKey, entriesKey, capacityKey, timeoutKey]

theorem mem_members {m : String × Value} (fits : given.Fits) (h : m ∈ given.members) :
    m.2.Whole ∧ m.2.document.height ≤ 1 := by
  -- truth values and numbers are leaves, and numbers that fit are within 64 bits
  have truth {key : String} {value : Option Bool} (h : m ∈ member key (value.map .bool)) :
      m.2.Whole ∧ m.2.document.height ≤ 1 := by
    simp only [member, Option.map_map, Option.mem_toList, Option.map_eq_some_iff] at h
    obtain ⟨b, -, rfl⟩ := h
    exact ⟨.bool b, Nat.le_refl 1⟩
  have number {key : String} {value : Option Nat} (fits : ∀ n ∈ value, n ≤ uint64Greatest)
      (h : m ∈ member key (value.map wholeNumber)) :
      m.2.Whole ∧ m.2.document.height ≤ 1 := by
    simp only [member, Option.map_map, Option.mem_toList, Option.map_eq_some_iff] at h
    obtain ⟨n, given, rfl⟩ := h
    have := fits n given
    refine ⟨.number ⟨?_, by omega⟩, Nat.le_refl 1⟩
    rw [int64Least]
    omega
  simp only [members, List.mem_append] at h
  rcases h with (((h | h) | h) | h) | h
  · exact truth h
  · exact number fits.expiry h
  · exact number fits.entries h
  · exact number fits.capacity h
  · exact number fits.timeout h

/-- The object of these values, printed, is read again. -/
theorem read?_toJson (fits : given.Fits) :
    Document.read? given.toJson.print =
      some (.object (Value.memberDocuments given.members)) := by
  apply Document.read?_print
  · exact .object fun m h => (mem_members fits h).1
  · -- the object has leaves only, so it is not too deep
    have flat : Document.memberHeights (Value.memberDocuments given.members) ≤ 1 := by
      apply Document.memberHeights_le
      rw [Value.memberDocuments_eq_map]
      intro m h
      obtain ⟨m', h', rfl⟩ := List.mem_map.mp h
      exact (mem_members fits h').2
    have depth : 1 + 1 ≤ greatestDepth := by decide
    exact Nat.le_trans (Nat.succ_le_succ flat) depth

end Given

/-! ## Agreement -/

/-- The keys of settings that are numbers. -/
def numberKeys : List String :=
  [expiryKey, entriesKey, capacityKey, timeoutKey]

/-- The properties are accepted: each value that is given spells one of the type of its setting, and
neither the room of a queue nor the time of an offer is zero. -/
structure Acceptable (properties : List (String × String)) : Prop where
  number : ∀ key ∈ numberKeys, ∀ value, (key, value) ∈ properties → ∃ n, SpellsNumber value n
  truth : ∀ value, (enabledKey, value) ∈ properties → ∃ b, SpellsTruth value b
  capacity : ∀ value, (capacityKey, value) ∈ properties → ¬SpellsNumber value 0
  timeout : ∀ value, (timeoutKey, value) ∈ properties → ¬SpellsNumber value 0

/-- A number that is given, or its default, is zero only if zero is spelled. -/
theorem Spelled.getD_ne_zero_iff {given : Option Nat} {default : Nat} (positive : default ≠ 0)
    (distinct : (properties.map (·.1)).Nodup)
    (spelled : Spelled SpellsNumber properties key given) :
    given.getD default ≠ 0 ↔ ∀ value, (key, value) ∈ properties → ¬SpellsNumber value 0 := by
  constructor
  · -- were it zero, it would be given, as the default is not
    intro nonzero value mem zero
    obtain ⟨n, rfl, number⟩ := (spelled_of_mem distinct mem).mp spelled
    exact nonzero (number.unique zero)
  · intro none zero
    cases given with
    | none => exact positive zero
    | some n =>
      obtain ⟨value, mem, number⟩ := spelled
      obtain rfl : n = 0 := zero
      exact none value mem number

/-- Settings are loaded from properties that are acceptable, and from no others. -/
theorem exists_ofProperties_iff (distinct : (properties.map (·.1)).Nodup) :
    (∃ c, ofProperties properties = .ok c) ↔ Acceptable properties := by
  have room : defaults.queueCapacity ≠ 0 := by decide
  have wait : defaults.offerTimeout ≠ 0 := by decide
  constructor
  · -- what was loaded was spelled, so every entry spells something, and the check was passed
    rintro ⟨c, accepted⟩
    obtain ⟨⟨given, spelled, rfl⟩, valid⟩ := (ofProperties_eq_ok_iff distinct).mp accepted
    refine ⟨?_, ?_, ?_, ?_⟩
    · simp only [numberKeys, List.forall_mem_cons]
      exact ⟨(exists_spelled_iff distinct).mp ⟨_, spelled.expiry⟩,
        (exists_spelled_iff distinct).mp ⟨_, spelled.entries⟩,
        (exists_spelled_iff distinct).mp ⟨_, spelled.capacity⟩,
        (exists_spelled_iff distinct).mp ⟨_, spelled.timeout⟩, nofun⟩
    · exact (exists_spelled_iff distinct).mp ⟨_, spelled.enabled⟩
    · exact (spelled.capacity.getD_ne_zero_iff room distinct).mp valid.capacity_ne_zero
    · exact (spelled.timeout.getD_ne_zero_iff wait distinct).mp valid.timeout_ne_zero
  · -- what is given for one key does not depend on the others
    intro acceptable
    have number (key : String) (h : key ∈ numberKeys) :
        ∃ given, Spelled SpellsNumber properties key given :=
      (exists_spelled_iff distinct).mpr (acceptable.number key h)
    obtain ⟨enabled, h₁⟩ := (exists_spelled_iff distinct).mpr acceptable.truth
    obtain ⟨expiry, h₂⟩ := number expiryKey (by decide)
    obtain ⟨entries, h₃⟩ := number entriesKey (by decide)
    obtain ⟨capacity, h₄⟩ := number capacityKey (by decide)
    obtain ⟨timeout, h₅⟩ := number timeoutKey (by decide)
    let given : Given := ⟨enabled, expiry, entries, capacity, timeout⟩
    have valid : given.config.Valid :=
      ⟨(h₄.getD_ne_zero_iff room distinct).mpr acceptable.capacity,
        (h₅.getD_ne_zero_iff wait distinct).mpr acceptable.timeout⟩
    exact ⟨given.config, (ofProperties_eq_ok_iff distinct).mpr
      ⟨⟨given, ⟨h₁, h₂, h₃, h₄, h₅⟩, rfl⟩, valid⟩⟩

/-- Properties spell at most one value for each setting. -/
theorem Given.SpelledIn.unique {given' : Given} (distinct : (properties.map (·.1)).Nodup)
    (h : given.SpelledIn properties) (h' : given'.SpelledIn properties) : given = given' := by
  have number {key : String} {a a' : Option Nat} (h : Spelled SpellsNumber properties key a)
      (h' : Spelled SpellsNumber properties key a') : a = a' :=
    h.unique distinct (fun one other => one.unique other) h'
  have enabled := h.enabled.unique distinct (fun one other => one.unique other) h'.enabled
  cases given
  cases given'
  rw [Given.mk.injEq]
  exact ⟨enabled, number h.expiry h'.expiry, number h.entries h'.entries,
    number h.capacity h'.capacity, number h.timeout h'.timeout⟩

/-- The settings as properties, in plain digits. -/
def toProperties (c : Config) : List (String × String) := [
  (enabledKey, toString c.authorizationEnabled),
  (expiryKey, toString c.decisionExpiry),
  (entriesKey, toString c.decisionCapacity),
  (capacityKey, toString c.queueCapacity),
  (timeoutKey, toString c.offerTimeout)]

theorem spelledIn_toProperties (fits : (Given.all c).Fits) :
    (Given.all c).SpelledIn c.toProperties := by
  have truth (b : Bool) : SpellsTruth (toString b) b := ⟨[], [], by simp⟩
  have number {n : Nat} (fits : n ≤ uint64Greatest) : SpellsNumber (toString n) n := by
    -- the text of a number consists of its digits, which spell it
    have value := Text.natOfDigits_toDigits n
    refine ⟨Nat.toDigits 10 n, ?_, [], [], ?_⟩
    · have plain := Text.Unsigned.plain Nat.toDigits_ne_nil (Text.all_isDigit_toDigits n)
        (by rwa [value])
      rwa [value] at plain
    · simp [Nat.toList_repr]
  exact {
    enabled := ⟨_, by simp [toProperties], truth _⟩
    expiry := ⟨_, by simp [toProperties], number (fits.expiry _ rfl)⟩
    entries := ⟨_, by simp [toProperties], number (fits.entries _ rfl)⟩
    capacity := ⟨_, by simp [toProperties], number (fits.capacity _ rfl)⟩
    timeout := ⟨_, by simp [toProperties], number (fits.timeout _ rfl)⟩ }

/-- Properties are accepted if they spell values of the right types, and queues hold rows and offers
wait. The settings that are loaded have these values, and defaults for the others, whatever other
entries there are; they are those that are loaded from a JSON text with the same values. Settings
that pass the check are loaded from all properties that spell them, such as their own. -/
theorem ofProperties_agrees :
    (∀ properties : List (String × String), (properties.map (·.1)).Nodup →
      ((∃ c, ofProperties properties = .ok c) ↔ Acceptable properties) ∧
      ∀ c, ofProperties properties = .ok c →
        (∃ given : Given, given.SpelledIn properties) ∧
        ∀ given : Given, given.SpelledIn properties →
          c = given.config ∧ ofJson given.toJson.print = .ok c ∧
          ∀ text members, Document.read? text = some (.object members) → given.HeldIn members →
            ofJson text = .ok c) ∧
    ∀ c : Config, c.validate = .ok () →
      (∀ properties : List (String × String), (properties.map (·.1)).Nodup →
        (Given.all c).SpelledIn properties → ofProperties properties = .ok c) ∧
      ((Given.all c).Fits → ofProperties c.toProperties = .ok c) := by
  constructor
  · -- for given properties, and then for given settings
    intro properties distinct
    refine ⟨exists_ofProperties_iff distinct, ?_⟩
    intro c accepted
    obtain ⟨⟨given, spelled, rfl⟩, valid⟩ := (ofProperties_eq_ok_iff distinct).mp accepted
    refine ⟨⟨given, spelled⟩, ?_⟩
    intro given' spelled'
    -- what is spelled is determined, so other values that are spelled are the same
    obtain rfl := spelled.unique distinct spelled'
    refine ⟨rfl, ?_, ?_⟩
    · exact ofJson_of_heldIn (Given.read?_toJson spelled.fits) given.heldIn_members spelled.fits
        valid
    · intro text members read held
      exact ofJson_of_heldIn read held spelled.fits valid
  · intro c checked
    have valid := validate_eq_ok_iff.mp checked
    have loads (properties : List (String × String)) (distinct : (properties.map (·.1)).Nodup)
        (spelled : (Given.all c).SpelledIn properties) : ofProperties properties = .ok c :=
      (ofProperties_eq_ok_iff distinct).mpr ⟨⟨Given.all c, spelled, rfl⟩, valid⟩
    refine ⟨loads, ?_⟩
    intro fits
    have keys : c.toProperties.map (·.1) = enabledKey :: numberKeys := rfl
    exact loads c.toProperties (by rw [keys]; decide) (spelledIn_toProperties fits)

/-- Properties with blanks, a sign, leading zeros and an entry that is for no setting, and an object
of the same values in another order. -/
theorem ofProperties_agrees_padded :
    let properties := [("authorization.enabled", " false"), ("listeners", "http://0.0.0.0:8088"),
      ("query.queue.capacity", "+016 ")]
    let value : Value := .object [("query.queue.capacity", Value.integer 16), ("listeners", .null),
      ("authorization.enabled", .bool false)]
    let c : Config := { authorizationEnabled := false, queueCapacity := 16 }
    Acceptable properties ∧ ofProperties properties = .ok c ∧ ofJson value.print = .ok c ∧
      ofProperties c.toProperties = .ok c := by
  intro properties value c
  -- one entry has blanks before it, one has a sign and a zero, and one is for no setting
  obtain ⟨agrees, own⟩ := ofProperties_agrees
  have accepted : ofProperties properties = .ok c := by decide +kernel
  obtain ⟨acceptable, same⟩ := agrees properties (by decide)
  let given : Given := ⟨some false, none, none, some 16, none⟩
  have blank : ∀ c ∈ [' '], Text.isBlank c = true := List.forall_mem_singleton.mpr rfl
  have spelled : given.SpelledIn properties := {
    enabled := ⟨" false", by decide, [' '], [], rfl, blank, nofun⟩
    expiry := by simp [given, Spelled, properties, expiryKey]
    entries := by simp [given, Spelled, properties, entriesKey]
    capacity := ⟨"+016 ", by decide, "+016".toList, .plus (by decide) (by decide) (by decide),
      [], [' '], rfl, nofun, blank⟩
    timeout := by simp [given, Spelled, properties, timeoutKey] }
  have whole : value.Whole := by
    apply Value.Whole.object
    simp only [List.forall_mem_cons]
    exact ⟨.number ⟨by decide, by decide⟩, .null, .bool false, nofun⟩
  have held : given.HeldIn (Value.memberDocuments [("query.queue.capacity", Value.integer 16),
      ("listeners", .null), ("authorization.enabled", .bool false)]) := by
    constructor
    all_goals rfl
  obtain ⟨-, -, texts⟩ := (same c accepted).2 given spelled
  refine ⟨acceptable.mp ⟨c, accepted⟩, accepted, ?_, ?_⟩
  · exact texts value.print _ (Document.read?_print whole (by decide)) held
  · apply (own c rfl).2
    constructor
    all_goals
      rintro n ⟨⟩
      decide

end Sluice.Config
