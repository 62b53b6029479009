import PageModules.Number.Decimal
import PageModules.Proofs.Text.Classes

/-!
# The characters of written numbers

Numbers are written with digits, a sign and a point (`Text.isNumberChar`); a number that is not
finite is written as a word.
-/

namespace PageModules

open Text (isAsciiDigit)

/-- The characters of written numbers. -/
def Text.isNumberChar (c : Char) : Bool := isAsciiDigit c || "-.NaNinf".toList.contains c

theorem Text.isBlank_of_isNumberChar {c : Char} (h : isNumberChar c = true) :
    isBlank c = false := by
  have hmarks : ∀ c ∈ "-.NaNinf".toList, isBlank c = false := by decide
  rcases Bool.or_eq_true_iff.mp h with h | h
  · exact isBlank_of_isAsciiDigit h
  · exact hmarks c (List.contains_iff_mem.mp h)

theorem Text.isNumberChar_of_mem_toDigits {n : ℕ} {c : Char} (h : c ∈ Nat.toDigits 10 n) :
    isNumberChar c = true :=
  Bool.or_eq_true_iff.mpr (.inl (isAsciiDigit_of_mem_toDigits h))

open Text (isNumberChar isNumberChar_of_mem_toDigits)

theorem isNumberChar_of_mem_toString (n : Int) :
    ∀ c ∈ (toString n).toList, isNumberChar c = true := by
  have hrepr (n : ℕ) : ∀ c ∈ n.repr.toList, isNumberChar c = true := by
    intro c hc
    rw [Nat.toList_repr] at hc
    exact isNumberChar_of_mem_toDigits hc
  rw [Int.toString_eq_repr]
  cases n with
  | ofNat n => exact hrepr n
  | negSucc n =>
    have hsign : (Int.negSucc n).repr = "-" ++ (n + 1).repr := rfl
    rw [hsign, String.toList_append]
    exact List.forall_mem_append.mpr ⟨by decide, hrepr (n + 1)⟩

namespace Binary64

/-- The digits of a number stand around the point. -/
theorem isNumberChar_of_mem_positional (d : Decimal) :
    ∀ c ∈ positional d false, isNumberChar c = true := by
  have hdigits : ∀ c ∈ digitChars d.digits, isNumberChar c = true :=
    fun c hc => isNumberChar_of_mem_toDigits hc
  have hzeros (n : ℕ) : ∀ c ∈ List.replicate n '0', isNumberChar c = true := by
    intro c hc
    rw [List.eq_of_mem_replicate hc]
    decide
  have hpoint : isNumberChar '.' = true := by decide
  unfold positional
  extract_lets ds places
  split
  · simp only [List.forall_mem_append]
    exact ⟨⟨hdigits, hzeros _⟩, by simp⟩
  · split
    · simp only [List.forall_mem_append, List.forall_mem_cons]
      exact ⟨fun c hc => hdigits c (List.mem_of_mem_take hc), hpoint,
        fun c hc => hdigits c (List.mem_of_mem_drop hc)⟩
    · simp only [List.forall_mem_append, List.forall_mem_cons]
      exact ⟨by decide, hpoint, hzeros _, hdigits⟩

theorem isNumberChar_of_mem_plainText (x : Binary64) :
    ∀ c ∈ x.plainText.toList, isNumberChar c = true := by
  have hsign {n : Bool} {s : List Char} (hs : ∀ c ∈ s, isNumberChar c = true) :
      ∀ c ∈ signed n s, isNumberChar c = true := by
    cases n
    · exact hs
    · exact List.forall_mem_cons.mpr ⟨by decide, hs⟩
  cases x with
  | nan => decide
  | infinity n =>
    rw [plainText, String.toList_ofList]
    exact hsign (by decide)
  | finite n m e =>
    rw [plainText, String.toList_ofList]
    refine hsign ?_
    split
    · decide
    · exact isNumberChar_of_mem_positional _

end Binary64

end PageModules
