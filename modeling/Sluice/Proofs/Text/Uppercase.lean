import Mathlib.Data.List.Basic
import Sluice.Text.Uppercase

/-!
# Upper case twice

What a text is made into by upper case has no lower case left: no character of an image is mapped
by any entry of the tables. The tables are compared range by range, as a range of images that lies
beside a range of mapped characters, or has the other parity throughout, cannot meet it.

## Main definitions

* `Text.uppercaseDomain`, `Text.uppercaseImages`: the characters that are mapped, and those that
  they are mapped to, in ranges.

## Main statements

* `Text.uppercase_uppercase`: upper case is idempotent.
-/

namespace Sluice.Text

/-! ## Ranges of images -/

/-- The run of a single code point that stays where it is. -/
def CaseRun.single (code : Nat) : CaseRun :=
  ⟨code, code, 1, 0⟩

/-- The image of the first code point of a run. -/
def CaseRun.imageFirst (run : CaseRun) : Nat :=
  (run.first + run.shift).toNat

/-- The image of the last code point of a run. -/
def CaseRun.imageLast (run : CaseRun) : Nat :=
  (run.last + run.shift).toNat

/-- The images of a run lie beside the other run, or between its code points. -/
def CaseRun.clears (run other : CaseRun) : Bool :=
  Nat.ble (run.imageLast + 1) other.first || Nat.ble (other.last + 1) run.imageFirst ||
    (Nat.beq other.step 2 && (Nat.beq run.step 2 || Nat.beq run.first run.last) &&
      Nat.beq ((run.imageFirst + other.first) % 2) 1 && decide (0 ≤ run.first + run.shift))

/-- The images of a run are code points of characters. -/
def CaseRun.isProper (run : CaseRun) : Bool :=
  Nat.ble (run.imageLast + 1) 0xd800 ||
    (Nat.ble 0xe000 run.imageFirst && Nat.ble (run.imageLast + 1) 0x110000)

/-- The code points that are mapped, in runs. -/
def uppercaseDomain : List CaseRun :=
  uppercaseRuns ++ uppercaseExpansions.map fun e => .single e.1

/-- Runs whose images are all code points that some code point is mapped to. -/
def uppercaseImages : List CaseRun :=
  uppercaseRuns ++ (uppercaseExpansions.flatMap (·.2)).map .single

theorem uppercaseImages_clear :
    uppercaseImages.all (fun run => uppercaseDomain.all run.clears) = true := by
  decide +kernel

theorem uppercaseImages_proper : uppercaseImages.all CaseRun.isProper = true := by
  decide +kernel

variable {run other : CaseRun} {code : Nat}

theorem CaseRun.covers_iff :
    run.covers code = true ↔
      run.first ≤ code ∧ code ≤ run.last ∧ (code - run.first) % run.step = 0 := by
  simp [covers, and_assoc]

theorem CaseRun.covers_single {n : Nat} : (single n).covers code = true ↔ code = n := by
  rw [covers_iff]
  simp only [single, Nat.mod_one, and_true]
  omega

/-- What a run maps to is not mapped by a run that it clears. -/
theorem CaseRun.not_covers_of_clears (h : run.clears other = true)
    (covered : run.covers code = true) : ¬other.covers (code + run.shift).toNat = true := by
  rw [covers_iff] at covered ⊢
  simp only [clears, imageFirst, imageLast, Bool.or_eq_true, Bool.and_eq_true, Nat.ble_eq,
    Nat.beq_eq, decide_eq_true_eq] at h
  obtain ⟨first, last, step⟩ := covered
  rintro ⟨first', last', step'⟩
  -- the images lie before the other run or after it, or fall between its steps
  rcases h with (below | above) | ⟨⟨⟨even, single⟩, odd⟩, natural⟩
  · omega
  · omega
  · -- the images are all of one parity, the code points of the other run of the other one
    rw [even] at step'
    rcases single with even' | alone
    · rw [even'] at step
      omega
    · omega

theorem CaseRun.isValidChar_of_isProper (h : run.isProper = true)
    (covered : run.covers code = true) : (code + run.shift).toNat.isValidChar := by
  rw [covers_iff] at covered
  simp only [isProper, imageFirst, imageLast, Bool.or_eq_true, Bool.and_eq_true, Nat.ble_eq] at h
  simp only [Nat.isValidChar]
  omega

/-! ## Upper case -/

/-- A code point that no entry covers stays as it is. -/
theorem upperCodes_eq_self (h : ∀ run ∈ uppercaseDomain, ¬run.covers code = true) :
    upperCodes code = [code] := by
  simp only [uppercaseDomain, List.mem_append, List.mem_map, or_imp, forall_and,
    forall_exists_index, and_imp, forall_apply_eq_imp_iff₂, CaseRun.covers_single] at h
  have noRun : uppercaseRuns.find? (·.covers code) = none := List.find?_eq_none.mpr h.1
  have noExpansion : uppercaseExpansions.lookup code = none := by
    rw [List.lookup_eq_none_iff]
    intro e he
    simpa using h.2 e he
  simp [upperCodes, noRun, noExpansion]

theorem toNat_charOfNat (valid : code.isValidChar) : (Char.ofNat code).toNat = code := by
  rw [Char.ofNat, dif_pos valid]
  rfl

/-- An image is a character that stays as it is. -/
theorem upper_of_image (hrun : run ∈ uppercaseImages) (covered : run.covers code = true) :
    upper (Char.ofNat (code + run.shift).toNat) = [Char.ofNat (code + run.shift).toNat] := by
  have clear := List.all_eq_true.mp (List.all_eq_true.mp uppercaseImages_clear run hrun)
  have proper := List.all_eq_true.mp uppercaseImages_proper run hrun
  have valid : (code + run.shift).toNat.isValidChar := run.isValidChar_of_isProper proper covered
  rw [upper, toNat_charOfNat valid, upperCodes_eq_self]
  · rfl
  · intro other hother
    exact CaseRun.not_covers_of_clears (clear other hother) covered

/-- No character that a character is mapped to is mapped to another one. -/
theorem upper_of_mem_upper {c d : Char} (h : d ∈ upper c) : upper d = [d] := by
  rw [upper, List.mem_map] at h
  obtain ⟨n, hn, rfl⟩ := h
  unfold upperCodes at hn
  split at hn
  · -- a run maps the character
    rename_i run hrun
    obtain rfl := List.mem_singleton.mp hn
    have covered : run.covers c.toNat = true := by simpa using List.find?_some hrun
    apply upper_of_image _ covered
    exact List.mem_append_left _ (List.mem_of_find?_eq_some hrun)
  · rename_i noRun
    cases hcodes : uppercaseExpansions.lookup c.toNat with
    | some codes =>
      -- an expansion does, into characters which are runs of their own
      rw [hcodes, Option.getD_some] at hn
      obtain ⟨before, after, split, -⟩ := List.lookup_eq_some_iff.mp hcodes
      have mem : (c.toNat, codes) ∈ uppercaseExpansions := by simp [split]
      have image : CaseRun.single n ∈ uppercaseImages := by
        apply List.mem_append_right
        apply List.mem_map_of_mem
        exact List.mem_flatMap.mpr ⟨(c.toNat, codes), mem, hn⟩
      simpa [CaseRun.single] using upper_of_image image (CaseRun.covers_single.mpr rfl)
    | none =>
      -- it stays as it is
      rw [hcodes, Option.getD_none] at hn
      obtain rfl := List.mem_singleton.mp hn
      simp [upper, upperCodes, noRun, hcodes]

/-- Upper case is idempotent. -/
theorem uppercase_uppercase (s : String) : uppercase (uppercase s) = uppercase s := by
  have once : ∀ c, (upper c).flatMap upper = upper c := by
    intro c
    calc (upper c).flatMap upper
        = (upper c).flatMap fun d => [d] := List.flatMap_congr fun d hd => upper_of_mem_upper hd
      _ = upper c := List.flatMap_singleton' _
  simp only [uppercase, String.toList_ofList, List.flatMap_assoc, once]

end Sluice.Text
