import Mathlib.Data.List.Basic
import PageModules.Text.Basic

/-!
# Classes of characters

The visible characters of ASCII are no blanks (`Text.isBlank_eq_false`), and neither are the digits
of other scripts (`Text.isBlank_of_isDigit`).  Lowercasing makes no blank (`Text.isBlank_lower`),
and doing it twice is doing it once (`Text.lowercase_lowercase`).
-/

namespace PageModules.Text

/-- What holds of the characters of a text is decided one by one, and not for all characters at
once. -/
instance (priority := high) decidableForallMem (s : List Char) (P : Char → Prop)
    [DecidablePred P] : Decidable (∀ c ∈ s, P c) :=
  List.decidableBAll P s

/-! ### Blanks -/

/-- The visible characters of ASCII are no blanks. -/
theorem isBlank_eq_false {c : Char} (hlow : 33 ≤ c.toNat) (hhigh : c.toNat ≤ 126) :
    isBlank c = false := by
  rw [isBlank, inRanges, List.any_eq_false]
  simp only [blankRanges, List.mem_cons, List.not_mem_nil, or_false, Bool.and_eq_true,
    decide_eq_true_eq]
  rintro r hr ⟨hfirst, hlast⟩
  rcases hr with rfl | rfl | rfl | rfl | rfl | rfl | rfl | rfl | rfl | rfl <;> omega

theorem isBlank_of_between {low high c : Char} (hlow : '!' ≤ low) (hhigh : high ≤ '~')
    (h : (decide (low ≤ c) && decide (c ≤ high)) = true) : isBlank c = false := by
  rw [Bool.and_eq_true, decide_eq_true_eq, decide_eq_true_eq] at h
  exact isBlank_eq_false (Char.le_trans hlow h.1) (Char.le_trans h.2 hhigh)

/-- Lowercasing makes no blank and removes none. -/
theorem isBlank_lower (c : Char) : isBlank (lower c) = isBlank c := by
  unfold lower
  split
  case isTrue h =>
    rw [Bool.and_eq_true, decide_eq_true_eq, decide_eq_true_eq] at h
    have hlow : 65 ≤ c.toNat := h.1
    have hhigh : c.toNat ≤ 90 := h.2
    have hvalid : (c.toNat + 32).isValidChar := by
      left
      omega
    have hlower : (Char.ofNat (c.toNat + 32)).toNat = c.toNat + 32 := by
      rw [Char.ofNat, dif_pos hvalid]
      rfl
    rw [isBlank_eq_false (by omega) (by omega), isBlank_eq_false (by omega) (by omega)]
  case isFalse => rfl

/-! ### Lowercase letters -/

theorem lower_lower (c : Char) : lower (lower c) = lower c := by
  by_cases h : 'A' ≤ c ∧ c ≤ 'Z'
  · have hlow : 65 ≤ c.toNat := h.1
    have hhigh : c.toNat ≤ 90 := h.2
    have hletter : ∀ n < 26, lower (lower (Char.ofNat (65 + n))) = lower (Char.ofNat (65 + n)) := by
      decide
    have hc : c = Char.ofNat (65 + (c.toNat - 65)) := by
      rw [Nat.add_sub_cancel' hlow, Char.ofNat_toNat]
    rw [hc]
    exact hletter _ (by omega)
  · have hc : lower c = c := by
      rw [lower, if_neg (by simpa using h)]
    rw [hc, hc]

theorem lowercase_lowercase (s : String) : lowercase (lowercase s) = lowercase s := by
  unfold lowercase mapChars Chars.lowercase
  rw [String.toList_ofList, List.map_map]
  congr 1
  exact List.map_congr_left fun c _ => lower_lower c

/-! ### Digits -/

/-- A character lies in at most one of two separate collections of ranges. -/
theorem inRanges_eq_false {ranges others : List (ℕ × ℕ)}
    (h : ∀ r ∈ ranges, ∀ o ∈ others, r.2 < o.1 ∨ o.2 < r.1) {c : Char}
    (hc : inRanges ranges c = true) : inRanges others c = false := by
  obtain ⟨r, hr, hrc⟩ := List.any_eq_true.mp hc
  rw [Bool.and_eq_true, decide_eq_true_eq, decide_eq_true_eq] at hrc
  rw [inRanges, List.any_eq_false]
  intro o ho hoc
  rw [Bool.and_eq_true, decide_eq_true_eq, decide_eq_true_eq] at hoc
  rcases h r hr o ho with h | h <;> omega

theorem isBlank_of_isAsciiDigit {c : Char} (h : isAsciiDigit c = true) : isBlank c = false :=
  isBlank_of_between (by decide) (by decide) h

theorem isBlank_of_isDigit {c : Char} (h : isDigit c = true) : isBlank c = false := by
  rw [isDigit, Bool.or_eq_true, Bool.and_eq_true] at h
  rcases h with h | ⟨-, h⟩
  · exact isBlank_of_isAsciiDigit h
  · exact inRanges_eq_false (by decide) h

theorem isBlank_of_isHexDigit {c : Char} (h : isHexDigit c = true) : isBlank c = false := by
  unfold isHexDigit hexValue? at h
  split at h
  case isTrue hdigit => exact isBlank_of_isAsciiDigit hdigit
  case isFalse =>
    split at h
    case isTrue hletter => exact isBlank_of_between (by decide) (by decide) hletter
    case isFalse =>
      split at h
      case isTrue hletter => exact isBlank_of_between (by decide) (by decide) hletter
      case isFalse => cases h

theorem isBlank_of_isAsciiLetter {c : Char} (h : isAsciiLetter c = true) : isBlank c = false := by
  rcases Bool.or_eq_true_iff.mp h with h | h
  · exact isBlank_of_between (by decide) (by decide) h
  · exact isBlank_of_between (by decide) (by decide) h

theorem isAsciiDigit_of_mem_toDigits {n : ℕ} {c : Char} (h : c ∈ Nat.toDigits 10 n) :
    isAsciiDigit c = true := by
  have hdigit := Nat.isDigit_of_mem_toDigits (by decide) (by decide) h
  simpa [Char.isDigit, isAsciiDigit, Char.le_def] using hdigit

end PageModules.Text
