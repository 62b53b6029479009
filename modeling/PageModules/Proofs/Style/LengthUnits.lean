import PageModules.Proofs.Number.WholeNumbers
import PageModules.Proofs.Text.Trimmed
import PageModules.Style.Length

/-!
# Integers with a unit

An integer with a unit is cut behind its digits.  In a known unit that is not scaled it is its own
number of pixels, whatever the size of the font; in an unknown unit nothing is read, and the length
is zero (`Length.pixels_append_unit`).
-/

namespace PageModules.Length

open Text (isAsciiDigit isAsciiLetter isBlank)
open Binary64 (IsSign)

/-! ### Cutting -/

/-- A letter ends a number. -/
theorem not_inNumber_of_isAsciiLetter {c : Char} (h : isAsciiLetter c = true) :
    (isAsciiDigit c || decide (c = '.')) = false := by
  have hlow : 'A'.toNat ≤ c.toNat := by
    rcases Bool.or_eq_true_iff.mp h with h | h
    · have ha : 'a'.toNat ≤ c.toNat := of_decide_eq_true (Bool.and_eq_true_iff.mp h).1
      exact le_trans (by decide) ha
    · exact of_decide_eq_true (Bool.and_eq_true_iff.mp h).1
  rw [Bool.or_eq_false_iff]
  constructor
  · rw [isAsciiDigit, Bool.and_eq_false_iff]
    refine .inr (decide_eq_false fun hnine => ?_)
    have hnine : c.toNat ≤ '9'.toNat := hnine
    exact absurd (hlow.trans hnine) (by decide)
  · refine decide_eq_false ?_
    rintro rfl
    exact absurd hlow (by decide)

section Cut

variable {ds unit : List Char} (hdigits : ∀ c ∈ ds, isAsciiDigit c = true)
  (hletters : ∀ c ∈ unit, isAsciiLetter c = true)

include hdigits hletters

/-- Digits in front of letters are all that belongs to the number. -/
theorem takeWhile_digits_append :
    (ds ++ unit).takeWhile (fun c => isAsciiDigit c || decide (c = '.')) = ds ∧
      (ds ++ unit).dropWhile (fun c => isAsciiDigit c || decide (c = '.')) = unit := by
  have hds : ∀ c ∈ ds, (isAsciiDigit c || decide (c = '.')) = true :=
    fun c hc => Bool.or_eq_true_iff.mpr (.inl (hdigits c hc))
  rw [List.takeWhile_append_of_pos hds, List.dropWhile_append_of_pos hds]
  cases unit with
  | nil => exact ⟨List.append_nil ds, rfl⟩
  | cons c unit =>
    have hc := not_inNumber_of_isAsciiLetter (hletters c List.mem_cons_self)
    rw [List.takeWhile_cons_of_neg (by simp [hc]), List.dropWhile_cons_of_neg (by simp [hc])]
    exact ⟨List.append_nil ds, rfl⟩

theorem splitNumber_digits (signs : List Char) (hne : ds ≠ []) :
    splitNumber signs (ds ++ unit) = (ds, unit) := by
  obtain ⟨c, ds, rfl⟩ := List.exists_cons_of_ne_nil hne
  obtain ⟨hc, hds⟩ := List.forall_mem_cons.mp hdigits
  obtain ⟨htake, hdrop⟩ := takeWhile_digits_append hds hletters
  rw [List.cons_append, splitNumber]
  dsimp only
  rw [if_pos (by simp [hc]), htake, hdrop]

theorem splitNumber_sign {signs : List Char} {sign : Char} (hsign : sign ∈ signs) :
    splitNumber signs (sign :: (ds ++ unit)) = (sign :: ds, unit) := by
  obtain ⟨htake, hdrop⟩ := takeWhile_digits_append hdigits hletters
  rw [splitNumber]
  dsimp only
  rw [if_pos (by simp [hsign]), htake, hdrop]

end Cut

/-! ### Reading -/

/-- A text is read as a number in a unit, if it is cut into these and the unit is known. -/
theorem ofChars_of_splitNumber {s number unit : List Char} {x : Binary64}
    (htrim : Chars.IsTrimmed s) (hsplit : splitNumber ['-'] s = (number, unit))
    (hunit : String.ofList (Chars.lowercase unit) ∈ units)
    (hnumber : Binary64.ofChars? number = some x) :
    ofChars s = ⟨x, String.ofList (Chars.lowercase unit)⟩ := by
  rw [ofChars, Chars.trim_eq_self_iff.mpr htrim, hsplit]
  dsimp only
  rw [if_neg (fun h => h.2 hunit), hnumber]

/-- A text is not read, if what is behind its number is an unknown unit. -/
theorem ofChars_of_not_mem_units {s number unit : List Char} (htrim : Chars.IsTrimmed s)
    (hsplit : splitNumber ['-'] s = (number, unit)) (hne : unit ≠ [])
    (hunit : String.ofList (Chars.lowercase unit) ∉ units) : ofChars s = zero := by
  have hfilled : String.ofList (Chars.lowercase unit) ≠ "" := by
    simpa [Chars.lowercase] using hne
  rw [ofChars, Chars.trim_eq_self_iff.mpr htrim, hsplit]
  exact if_pos ⟨hfilled, hunit⟩

/-- No unit starts with a plus sign, so a text with one in front is not read. -/
theorem ofChars_plus {s : List Char} (htrim : Chars.IsTrimmed ('+' :: s)) :
    ofChars ('+' :: s) = zero := by
  have hunits : ∀ u ∈ units, u.toList.head? ≠ some '+' := by decide
  have hunknown : String.ofList (Chars.lowercase ('+' :: s)) ∉ units := by
    intro hmem
    refine hunits _ hmem ?_
    rw [String.toList_ofList]
    rfl
  exact ofChars_of_not_mem_units htrim rfl (List.cons_ne_nil _ _) hunknown

/-! ### Pixels -/

theorem inPixels_of_not_mem {l : Length} (h : l.unit ∉ ["em", "rem", "pt"]) (base : ℤ) :
    l.inPixels base = l.number := by
  simp only [List.mem_cons, List.not_mem_nil, or_false, not_or] at h
  obtain ⟨hem, hrem, hpt⟩ := h
  rw [inPixels, if_neg (not_or.mpr ⟨hem, hrem⟩), if_neg hpt]

theorem toInt64_inPixels_zero (base : ℤ) : (zero.inPixels base).toInt64 = 0 := by
  have hzero : Binary64.zero.toInt64 = 0 := by decide +kernel
  rw [inPixels_of_not_mem (by decide), zero, hzero]

/-- **An integer in a known unit that is not scaled is its own number of pixels**, whatever the size
of the font; in an unknown unit, or with a plus sign, it is zero. -/
theorem pixels_append_unit {s unit : String} {n : ℤ} (hs : Integer.signed? s.toList = some n)
    (hn : n.natAbs < 2 ^ 53) (hne : unit ≠ "")
    (hletters : ∀ c ∈ unit.toList, isAsciiLetter c = true)
    (hunit : Text.lowercase unit ∉ ["em", "rem", "pt"]) (base : ℤ) :
    pixels (s ++ unit) base =
      if s.toList.head? ≠ some '+' ∧ Text.lowercase unit ∈ units then n else 0 := by
  have hunitNe : unit.toList ≠ [] := fun h => hne (String.toList_inj.mp h)
  obtain ⟨sign, negative, ds, hsign, hchars, hdsNe, hdigits, -⟩ := Binary64.exists_of_signed? hs
  obtain ⟨x, hx, hcut⟩ := Binary64.exists_ofChars?_of_signed? hs hn
  have htrim : Chars.IsTrimmed (s.toList ++ unit.toList) := by
    have hsignBlank : ∀ c ∈ sign, isBlank c = false := by
      cases hsign <;> decide
    rw [hchars]
    refine .of_forall (List.forall_mem_append.mpr ⟨List.forall_mem_append.mpr ⟨hsignBlank, ?_⟩, ?_⟩)
    · exact fun c hc => Text.isBlank_of_isAsciiDigit (hdigits c hc)
    · exact fun c hc => Text.isBlank_of_isAsciiLetter (hletters c hc)
  -- Without a plus sign all of the numeral belongs to the number.
  have hcutUnit (hhead : s.toList.head? ≠ some '+') :
      splitNumber ['-'] (s.toList ++ unit.toList) = (s.toList, unit.toList) := by
    rw [hchars] at hhead ⊢
    cases hsign with
    | none => exact splitNumber_digits hdigits hletters ['-'] hdsNe
    | plus => exact absurd rfl hhead
    | minus => exact splitNumber_sign hdigits hletters List.mem_cons_self
  rw [pixels, ofText, String.toList_append]
  split
  case isTrue hread =>
    rw [ofChars_of_splitNumber htrim (hcutUnit hread.1) hread.2 hx, inPixels_of_not_mem hunit, hcut]
  case isFalse hunread =>
    by_cases hhead : s.toList.head? = some '+'
    · obtain ⟨rest, hrest⟩ := List.head?_eq_some_iff.mp hhead
      rw [hrest, List.cons_append] at htrim ⊢
      rw [ofChars_plus htrim, toInt64_inPixels_zero]
    · have hunknown : Text.lowercase unit ∉ units := fun hknown => hunread ⟨hhead, hknown⟩
      rw [ofChars_of_not_mem_units htrim (hcutUnit hhead) hunitNe hunknown, toInt64_inPixels_zero]

/-- A negative integer in capital letters of a known unit. -/
theorem pixels_append_unit_viewport :
    Integer.signed? "-012".toList = some (-12) ∧ Text.lowercase "VMIN" ∉ ["em", "rem", "pt"] ∧
      pixels ("-012" ++ "VMIN") 24 = -12 := by
  have hs : Integer.signed? "-012".toList = some (-12) := by decide
  have hunit : Text.lowercase "VMIN" ∉ ["em", "rem", "pt"] := by decide
  have hread : "-012".toList.head? ≠ some '+' ∧ Text.lowercase "VMIN" ∈ units := by decide
  refine ⟨hs, hunit, ?_⟩
  rw [pixels_append_unit hs (by decide) (by decide) (by decide) hunit 24, if_pos hread]

/-- A width in characters is no number of pixels. -/
theorem not_pixels_append_unknown :
    ¬ ∀ (s unit : String) (n base : ℤ), Integer.signed? s.toList = some n → n.natAbs < 2 ^ 53 →
      unit ≠ "" → (∀ c ∈ unit.toList, isAsciiLetter c = true) →
        Text.lowercase unit ∉ ["em", "rem", "pt"] → pixels (s ++ unit) base = n := by
  intro h
  have hpixels := h "12" "ch" 12 16 (by decide) (by decide) (by decide) (by decide) (by decide)
  have hzero : pixels ("12" ++ "ch") 16 = 0 := by decide +kernel
  rw [hzero] at hpixels
  cases hpixels

end PageModules.Length
