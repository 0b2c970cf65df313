import Sluice.Text.Alphanumeric
import Sluice.Text.Blank

/-!
# Blanks and words

No character of a word is blank, so a text that starts with a word has no blanks to skip. What is
left of a text when its ends are trimmed is what stands between the blanks.

## Main definitions

* `Text.Padded`: a text with blanks around another.

## Main statements

* `Text.isBlank_of_isIdentifierChar`: characters of identifiers are not blank.
* `Text.trimStart_of_head`: nothing is trimmed before a character that is not blank.
* `Text.trim_eq_iff`: when a text is trimmed to a text without blanks.
-/

namespace Sluice.Text

/-- A code point is held by one of the ranges. -/
theorem CodeRanges.exists_mem_of_holds {ranges : CodeRanges} {code : Nat}
    (h : ranges.holds code = true) : ∃ r ∈ ranges, r.1 ≤ code ∧ code ≤ r.2 := by
  induction ranges with
  | nil => cases h
  | cons r ranges ih =>
    rw [holds] at h
    split at h
    · rename_i last
      exact ⟨r, List.mem_cons_self, by simpa using h, last⟩
    · obtain ⟨r', hr', bounds⟩ := ih h
      exact ⟨r', List.mem_cons_of_mem _ hr', bounds⟩

/-- The ranges of blanks hold no letters and no numbers. -/
theorem alphanumeric_of_blankRanges :
    ∀ r ∈ blankRanges, ∀ k < r.2 + 1 - r.1, alphanumericRanges.holds (r.1 + k) = false := by
  decide +kernel

theorem isBlank_of_isAlphanumeric {c : Char} (h : isAlphanumeric c = true) : isBlank c = false := by
  rw [← Bool.not_eq_true]
  intro blank
  obtain ⟨r, hr, first, last⟩ := CodeRanges.exists_mem_of_holds blank
  have := alphanumeric_of_blankRanges r hr (c.toNat - r.1) (by omega)
  rw [Nat.add_sub_cancel' first] at this
  exact absurd h (by simp [isAlphanumeric, this])

theorem isBlank_of_isIdentifierChar {c : Char} (h : isIdentifierChar c = true) :
    isBlank c = false := by
  rw [isIdentifierChar, Bool.or_eq_true] at h
  obtain letter | underscore := h
  · exact isBlank_of_isAlphanumeric letter
  · rw [beq_iff_eq] at underscore
    subst underscore
    decide

theorem isAlphanumeric_of_isDigit {c : Char} (h : c.isDigit = true) : isAlphanumeric c = true := by
  have bounds : 0x30 ≤ c.toNat ∧ c.toNat ≤ 0x39 := by
    simp only [Char.isDigit, Bool.and_eq_true, decide_eq_true_eq, ge_iff_le,
      UInt32.le_iff_toNat_le] at h
    exact h
  -- the digits are the first range of all
  rw [isAlphanumeric, alphanumericRanges, CodeRanges.holds, if_pos bounds.2]
  exact decide_eq_true bounds.1

theorem isBlank_of_isDigit {c : Char} (h : c.isDigit = true) : isBlank c = false :=
  isBlank_of_isAlphanumeric (isAlphanumeric_of_isDigit h)

/-- Nothing is trimmed before a character that is not blank. -/
theorem trimStart_of_head {c : Char} {rest : List Char} (h : isBlank c = false) :
    trimStart (c :: rest) = c :: rest := by
  simp [trimStart, h]

/-! ## Both ends -/

/-- A text is another one with blanks before and after it. -/
def Padded (cs core : List Char) : Prop :=
  ∃ before after, cs = before ++ core ++ after ∧ (∀ c ∈ before, isBlank c = true) ∧
    ∀ c ∈ after, isBlank c = true

/-- What is trimmed are blanks. -/
theorem padded_trim (cs : List Char) : Padded cs (trim cs) := by
  have blank (run : List Char) : ∀ c ∈ run.takeWhile isBlank, isBlank c = true :=
    List.all_eq_true.mp List.all_takeWhile
  refine ⟨cs.takeWhile isBlank, ((trimStart cs).reverse.takeWhile isBlank).reverse, ?_,
    blank cs, ?_⟩
  · -- the end of the text is trimmed back to front
    have back : trim cs ++ ((trimStart cs).reverse.takeWhile isBlank).reverse = trimStart cs := by
      rw [trim, ← List.reverse_append]
      exact List.reverse_eq_iff.mpr List.takeWhile_append_dropWhile
    rw [List.append_assoc, back]
    exact List.takeWhile_append_dropWhile.symm
  · intro c mem
    exact blank _ c (List.mem_reverse.mp mem)

/-- A text is trimmed to one without blanks if it is that text with blanks around it. -/
theorem trim_eq_iff {cs core : List Char} (nonempty : core ≠ [])
    (inked : ∀ c ∈ core, isBlank c = false) : trim cs = core ↔ Padded cs core := by
  constructor
  · rintro rfl
    exact padded_trim cs
  · rintro ⟨before, after, rfl, blank, blank'⟩
    -- a text that begins with a character that is not blank is not trimmed
    have start (run rest : List Char) (nonempty : run ≠ [])
        (inked : ∀ c ∈ run, isBlank c = false) : trimStart (run ++ rest) = run ++ rest := by
      cases run with
      | nil => contradiction
      | cons c run => exact trimStart_of_head (inked c List.mem_cons_self)
    -- what stands before is trimmed first
    have front : trimStart (before ++ core ++ after) = core ++ after := by
      rw [List.append_assoc, trimStart, List.dropWhile_append_of_pos blank]
      exact start core after nonempty inked
    have back : trimStart (core ++ after).reverse = core.reverse := by
      rw [List.reverse_append, trimStart,
        List.dropWhile_append_of_pos fun c mem => blank' c (List.mem_reverse.mp mem)]
      have kept := start core.reverse [] (by simpa using nonempty)
        fun c mem => inked c (List.mem_reverse.mp mem)
      rwa [List.append_nil] at kept
    rw [trim, front, back, List.reverse_reverse]

end Sluice.Text
