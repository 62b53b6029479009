import PageModules.Proofs.Number.Integer
import PageModules.Proofs.Number.Truncation

/-!
# Whole numbers of 53 bits

An integer of at most 53 bits is a floating point number, so the numeral that writes it is read
without rounding (`Binary64.exists_ofChars?_of_signed?`).
-/

namespace PageModules.Binary64

open Text (isAsciiDigit digitValue)

/-! ### Exact numbers -/

/-- The exponent of a whole number leaves no room behind the point. -/
theorem ratioExponent_one_le {w : ℕ} (hw : w < significandBound) : ratioExponent w 1 ≤ 0 := by
  have hlog : w.log2 < 53 := by
    rcases Nat.eq_zero_or_pos w with rfl | hpos
    · decide
    · exact (Nat.log2_lt hpos.ne').mpr hw
  have hone : Nat.log2 1 = 0 := rfl
  have hleast : minExponent ≤ 0 := by decide
  unfold ratioExponent
  dsimp only
  split <;> omega

/-- **A whole number of at most 53 bits is not rounded.** -/
theorem toInt64_ofRatio_one (negative : Bool) {w : ℕ} (hw : w < significandBound) :
    (ofRatio negative w 1).toInt64 = if negative then -(w : ℤ) else w := by
  have hbound : significandBound = 9007199254740992 := rfl
  have hmax : maxInt64 = 9223372036854775807 := rfl
  have hmin : minInt64 = -9223372036854775808 := rfl
  have hexact {m : ℕ} {e : ℤ} (hm : truncatedMagnitude m e = w) :
      (finite negative m e).toInt64 = if negative then -(w : ℤ) else w := by
    rw [toInt64, hm]
    cases negative
    · simp only [Bool.false_eq_true, if_false]
      omega
    · simp only [if_true]
      omega
  unfold ofRatio
  split
  case isTrue hzero =>
    refine hexact ?_
    rw [hzero, truncatedMagnitude, Nat.zero_mul, Nat.zero_div]
  case isFalse hne =>
    -- The exponent is not positive, so the number is only scaled up, and nothing is left to round.
    have he := ratioExponent_one_le hw
    have hlt := ratio_lt w one_pos
    rw [← not_le, ← mul_powerOf_le_iff one_pos, not_le, powerOf_of_nonpos he] at hlt
    set e := ratioExponent w 1
    have hround : roundHalfEven (w * powerOf 2 (-e)) (1 * powerOf 2 e) = w * powerOf 2 (-e) := by
      rw [powerOf_of_nonpos he]
      exact Nat.le_antisymm (roundHalfEven_le one_pos (by omega))
        (le_roundHalfEven one_pos (by omega))
    have hrange : ¬ maxExponent < e := not_lt.mpr (he.trans (by decide))
    rw [ofRatioAt, hround, if_neg (by omega)]
    dsimp only
    rw [if_neg hrange]
    refine hexact ?_
    rw [truncatedMagnitude, powerOf_of_nonpos he, mul_one,
      Nat.mul_div_cancel _ (powerOf_two_pos _)]

/-- Digits without a power of ten are the number itself. -/
theorem ofDecimal_zero (negative : Bool) {w : ℕ} (hw : w < significandBound) :
    ofDecimal negative w 0 = ofRatio negative w 1 := by
  unfold ofDecimal
  split
  case isTrue hzero => rw [ofRatio, if_pos hzero]
  case isFalse hne =>
    have hlog : w.log2 < 53 := (Nat.log2_lt hne).mpr hw
    have hone : powerOf 10 0 = 1 := rfl
    dsimp only
    rw [if_neg (by omega), if_neg (by omega), neg_zero, hone, mul_one]

/-! ### Numerals with a sign -/

/-- A sign in front of digits, and whether it is a minus. -/
inductive IsSign : List Char → Bool → Prop
  | none : IsSign [] false
  | plus : IsSign ['+'] false
  | minus : IsSign ['-'] true

theorem digitsValue_eq_ofDigitChars (ds : List Char) :
    digitsValue ds = Nat.ofDigitChars 10 ds 0 := by
  have hfold (n : ℕ) :
      ds.foldl (fun n d => 10 * n + digitValue d) n = Nat.ofDigitChars 10 ds n := by
    induction ds generalizing n with
    | nil => rfl
    | cons d ds ih => rw [List.foldl_cons, Nat.ofDigitChars_cons, ih, digitValue]
  exact hfold 0

theorem exists_of_numeral? {ds : List Char} {w : ℕ} (h : Integer.numeral? ds = some w) :
    ds ≠ [] ∧ (∀ c ∈ ds, isAsciiDigit c = true) ∧ w = digitsValue ds := by
  unfold Integer.numeral? at h
  split at h
  case isTrue hdigits =>
    refine ⟨hdigits.1, List.all_eq_true.mp hdigits.2, ?_⟩
    rw [digitsValue_eq_ofDigitChars]
    exact (Option.some.inj h).symm
  case isFalse => cases h

/-- A text that writes an integer is a sign and digits. -/
theorem exists_of_signed? {s : List Char} {n : ℤ} (h : Integer.signed? s = some n) :
    ∃ sign negative ds, IsSign sign negative ∧ s = sign ++ ds ∧ ds ≠ [] ∧
      (∀ c ∈ ds, isAsciiDigit c = true) ∧
        n = if negative then -(digitsValue ds : ℤ) else digitsValue ds := by
  unfold Integer.signed? at h
  split at h
  case h_1 ds =>
    obtain ⟨w, hw, rfl⟩ := Option.map_eq_some_iff.mp h
    obtain ⟨hne, hdigits, rfl⟩ := exists_of_numeral? hw
    exact ⟨['-'], true, ds, .minus, rfl, hne, hdigits, rfl⟩
  case h_2 =>
    obtain ⟨w, hw, rfl⟩ := Option.map_eq_some_iff.mp h
    unfold Integer.natural? at hw
    split at hw
    case h_1 ds _ =>
      obtain ⟨hne, hdigits, rfl⟩ := exists_of_numeral? hw
      exact ⟨['+'], false, ds, .plus, rfl, hne, hdigits, rfl⟩
    case h_2 =>
      obtain ⟨hne, hdigits, rfl⟩ := exists_of_numeral? hw
      exact ⟨[], false, s, .none, rfl, hne, hdigits, rfl⟩

theorem splitSign_append {sign : List Char} {negative : Bool} (h : IsSign sign negative) {c : Char}
    (hc : isAsciiDigit c = true) (ds : List Char) :
    splitSign (sign ++ c :: ds) = (negative, c :: ds) := by
  cases h with
  | none => exact splitSign_digit hc ds
  | plus | minus => rfl

/-- **The numeral of an integer of at most 53 bits is read exactly.** -/
theorem exists_ofChars?_of_signed? {s : List Char} {n : ℤ} (h : Integer.signed? s = some n)
    (hn : n.natAbs < significandBound) : ∃ x, ofChars? s = some x ∧ x.toInt64 = n := by
  obtain ⟨sign, negative, ds, hsign, rfl, hne, hdigits, rfl⟩ := exists_of_signed? h
  have hvalue : digitsValue ds < significandBound := by
    cases negative <;> simpa using hn
  have hall : ∀ c ∈ ds ++ [], isAsciiDigit c = true := (List.append_nil ds).symm ▸ hdigits
  have hnumeral := ofUnsignedChars?_numeral hall negative hne
  rw [numeral, if_pos rfl, List.append_nil, List.length_nil, Nat.cast_zero, neg_zero,
    ofDecimal_zero negative hvalue] at hnumeral
  obtain ⟨c, ds, rfl⟩ := List.exists_cons_of_ne_nil hne
  have hc : isAsciiDigit c = true := hdigits c List.mem_cons_self
  refine ⟨_, ?_, toInt64_ofRatio_one negative hvalue⟩
  rw [ofChars?_of_splitSign hc (splitSign_append hsign hc ds), hnumeral]

end PageModules.Binary64
