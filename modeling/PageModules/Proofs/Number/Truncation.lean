import Mathlib.Data.List.TakeWhile
import PageModules.Number.Decimal
import PageModules.Proofs.Number.Rounding

/-!
# Cutting decimal numerals to integers

A numeral is read as the nearest floating point number and cut to an integer.  Rounding does not
pass an integer, so the digits in front of the point are what is left, unless the number is rounded
up to the next integer (`Binary64.toInt64_ofRatio`).  For a numeral up to one hundred this takes
fourteen nines behind the point (`Binary64.toInt64_numeral`).
-/

namespace PageModules.Binary64

open Text (isAsciiDigit digitValue)

variable {num den : ℕ}

/-! ### Rounding -/

theorem le_roundHalfEven {k : ℕ} (hden : 0 < den) (h : k * den ≤ num) :
    k ≤ roundHalfEven num den := by
  have hquotient : k ≤ num / den := (Nat.le_div_iff_mul_le hden).mpr h
  unfold roundHalfEven
  dsimp only
  split_ifs <;> omega

/-- Rounding adds at most one half. -/
theorem two_mul_roundHalfEven_mul_le (num den : ℕ) :
    2 * (roundHalfEven num den * den) ≤ 2 * num + den := by
  have hsplit := Nat.div_add_mod' num den
  have hnext : (num / den + 1) * den = num / den * den + den := Nat.succ_mul _ _
  unfold roundHalfEven
  dsimp only
  split_ifs <;> omega

/-- Below one the exponent does not matter for what a rounded number is cut to. -/
theorem toInt64_ofRatioAt {e : ℤ} (he : e < 0)
    (hmax : (roundHalfEven (num * powerOf 2 (-e)) den / powerOf 2 (-e) : ℕ) ≤ maxInt64) :
    (ofRatioAt false num den e).toInt64 =
      (roundHalfEven (num * powerOf 2 (-e)) den / powerOf 2 (-e) : ℕ) := by
  have hcut {m : ℕ} {e' : ℤ} (hm : truncatedMagnitude m e' =
      roundHalfEven (num * powerOf 2 (-e)) den / powerOf 2 (-e)) :
      (finite false m e').toInt64 =
        (roundHalfEven (num * powerOf 2 (-e)) den / powerOf 2 (-e) : ℕ) := by
    have hmin : minInt64 ≤ 0 := by decide
    rw [toInt64, hm, if_neg Bool.false_ne_true, min_eq_right hmax, max_eq_right (by omega)]
  have hrange : e + 1 ≤ maxExponent := le_trans (b := 0) (by omega) (by decide)
  have hone : den * powerOf 2 e = den := by rw [powerOf_of_nonpos he.le, mul_one]
  unfold ofRatioAt
  rw [hone]
  dsimp only
  split
  case isTrue hbound =>
    -- Half the significand at twice the power is the same number.
    have hpower : powerOf 2 (-e) = 2 * powerOf 2 (-(e + 1)) := by
      have hnat : (-e).toNat = (-(e + 1)).toNat + 1 := by omega
      rw [powerOf, powerOf, hnat]
      exact Nat.pow_succ'
    have hhalf : significandBound = 2 * leastFullSignificand := by decide
    rw [if_neg (not_lt.mpr hrange)]
    apply hcut
    rw [hbound, hpower, hhalf, Nat.mul_div_mul_left _ _ two_pos, truncatedMagnitude,
      powerOf_of_nonpos (show e + 1 ≤ 0 by omega), mul_one]
  case isFalse =>
    rw [if_neg (by omega)]
    apply hcut
    rw [truncatedMagnitude, powerOf_of_nonpos he.le, mul_one]

/-- A ratio of at most seven bits is rounded far behind the point. -/
theorem ratioExponent_le (hnum : 0 < num) (hden : 0 < den) (h : num < 128 * den) :
    ratioExponent num den ≤ -46 := by
  by_contra! hlt
  have hden' : (0 : ℚ) < den := by exact_mod_cast hden
  have hratio : (num / den : ℚ) < 128 := by
    rw [div_lt_iff₀ hden']
    exact_mod_cast h
  have hfull := le_ratio hnum hden (lt_trans (by decide) hlt)
  have hpower : (2 : ℚ) ^ (-45 : ℤ) ≤ 2 ^ ratioExponent num den :=
    zpow_le_zpow_right₀ one_le_two hlt
  norm_num [leastFullSignificand] at hfull hpower
  linarith

/-- **A rounded ratio is cut to its integer part**, or it lies so close below the next integer
that it is rounded to that one. -/
theorem toInt64_ofRatio {w : ℕ} (hden : 0 < den) (hw : w ≤ 100) (hlow : w * den ≤ num)
    (hhigh : num < (w + 1) * den) : (ofRatio false num den).toInt64 = w ∨
      (ofRatio false num den).toInt64 = w + 1 ∧
        2 ^ 47 * ((w + 1) * den) ≤ 2 ^ 47 * num + den := by
  rcases Nat.eq_zero_or_pos num with rfl | hnum
  · obtain rfl : w = 0 := by
      by_contra hne
      have hpos := Nat.mul_pos (Nat.pos_of_ne_zero hne) hden
      omega
    have hzero : Binary64.zero.toInt64 = 0 := by decide +kernel
    exact .inl (by rwa [ofRatio, if_pos rfl])
  · have he : ratioExponent num den ≤ -46 := by
      refine ratioExponent_le hnum hden (hhigh.trans_le ?_)
      exact Nat.mul_le_mul_right den (by omega)
    set e := ratioExponent num den with hedef
    obtain ⟨n, hn⟩ : ∃ n, powerOf 2 (-e) = 2 ^ 46 * 2 ^ n := by
      refine ⟨(-e).toNat - 46, ?_⟩
      rw [powerOf, ← pow_add, show 46 + ((-e).toNat - 46) = (-e).toNat by omega]
      rfl
    have hpos : 0 < powerOf 2 (-e) := powerOf_two_pos (-e)
    -- Rounding passes neither of the integers on both sides, but it may reach the upper one.
    have hdown : w * powerOf 2 (-e) ≤ roundHalfEven (num * powerOf 2 (-e)) den := by
      refine le_roundHalfEven hden ?_
      rw [mul_right_comm]
      exact Nat.mul_le_mul_right _ hlow
    have hup : roundHalfEven (num * powerOf 2 (-e)) den ≤ (w + 1) * powerOf 2 (-e) := by
      refine roundHalfEven_le hden ?_
      rw [mul_right_comm]
      exact Nat.mul_le_mul_right _ hhigh.le
    rw [ofRatio, if_neg hnum.ne']
    rcases hup.lt_or_eq with hlt | heq
    · left
      have hquotient : roundHalfEven (num * powerOf 2 (-e)) den / powerOf 2 (-e) = w :=
        Nat.div_eq_of_lt_le hdown hlt
      have hmax : (w : ℤ) ≤ maxInt64 := le_trans (b := 100) (by omega) (by decide)
      rw [toInt64_ofRatioAt (by omega) (by rwa [hquotient]), hquotient]
    · right
      have hquotient : roundHalfEven (num * powerOf 2 (-e)) den / powerOf 2 (-e) = w + 1 := by
        rw [heq, Nat.mul_div_cancel _ hpos]
      have hmax : ((w + 1 : ℕ) : ℤ) ≤ maxInt64 := le_trans (b := 101) (by omega) (by decide)
      rw [toInt64_ofRatioAt (by omega) (by rwa [hquotient]), hquotient]
      refine ⟨Nat.cast_succ w, ?_⟩
      -- Rounding up takes a half of the last place, which is at most the last one of 47.
      have hhalf := two_mul_roundHalfEven_mul_le (num * powerOf 2 (-e)) den
      rw [heq, hn] at hhalf
      have hplace : 1 ≤ 2 ^ n := Nat.one_le_two_pow
      have hgap : 2 ^ n * (2 ^ 47 * ((w + 1) * den)) ≤ 2 ^ n * (2 ^ 47 * num) + den := by
        calc 2 ^ n * (2 ^ 47 * ((w + 1) * den))
            = 2 * ((w + 1) * (2 ^ 46 * 2 ^ n) * den) := by ring
          _ ≤ 2 * (num * (2 ^ 46 * 2 ^ n)) + den := hhalf
          _ = 2 ^ n * (2 ^ 47 * num) + den := by ring
      refine Nat.le_of_mul_le_mul_left (hgap.trans ?_) hplace
      rw [mul_add]
      exact Nat.add_le_add_left (Nat.le_mul_of_pos_left den hplace) _

/-! ### Digits -/

theorem digitValue_le {c : Char} (h : isAsciiDigit c = true) : digitValue c ≤ 9 := by
  obtain ⟨-, hle⟩ := Bool.and_eq_true_iff.mp h
  have hle : c.toNat ≤ '9'.toNat := of_decide_eq_true hle
  have hnine : '9'.toNat = '0'.toNat + 9 := rfl
  rw [digitValue]
  omega

theorem eq_nine_of_digitValue {c : Char} (h : digitValue c = 9) : c = '9' := by
  have hnine : '9'.toNat = '0'.toNat + 9 := rfl
  rw [digitValue] at h
  exact Char.toNat_inj.mp (by omega)

theorem digitsValue_concat (ds : List Char) (c : Char) :
    digitsValue (ds ++ [c]) = 10 * digitsValue ds + digitValue c := by
  rw [digitsValue, List.foldl_concat, digitsValue]

theorem digitsValue_append (ds es : List Char) :
    digitsValue (ds ++ es) = digitsValue ds * 10 ^ es.length + digitsValue es := by
  induction es using List.reverseRecOn with
  | nil => rw [List.append_nil, List.length_nil, pow_zero, mul_one]; rfl
  | append_singleton es c ih =>
    rw [← List.append_assoc, digitsValue_concat, digitsValue_concat, ih, List.length_append,
      List.length_singleton, pow_succ]
    ring

theorem digitsValue_lt {ds : List Char} (h : ∀ c ∈ ds, isAsciiDigit c = true) :
    digitsValue ds < 10 ^ ds.length := by
  induction ds using List.reverseRecOn with
  | nil => decide
  | append_singleton ds c ih =>
    obtain ⟨hds, hc⟩ := List.forall_mem_append.mp h
    have hc := digitValue_le (hc c List.mem_cons_self)
    have hds := ih hds
    rw [digitsValue_concat, List.length_append, List.length_singleton, pow_succ]
    omega

/-- Only nines reach the greatest value. -/
theorem eq_replicate_of_le_digitsValue {ds : List Char} (h : ∀ c ∈ ds, isAsciiDigit c = true)
    (hle : 10 ^ ds.length ≤ digitsValue ds + 1) : ds = List.replicate ds.length '9' := by
  induction ds using List.reverseRecOn with
  | nil => rfl
  | append_singleton ds c ih =>
    obtain ⟨hds, hc⟩ := List.forall_mem_append.mp h
    have hc := digitValue_le (hc c List.mem_cons_self)
    have hlt := digitsValue_lt hds
    rw [digitsValue_concat, List.length_append, List.length_singleton, pow_succ] at hle
    obtain rfl := eq_nine_of_digitValue (c := c) (by omega)
    have hnines := ih hds (by omega)
    rw [List.length_append, List.length_singleton, List.replicate_succ', ← hnines]

/-! ### Words and signs -/

theorem splitSign_digit {c : Char} (hc : isAsciiDigit c = true) (s : List Char) :
    splitSign (c :: s) = (false, c :: s) := by
  unfold splitSign
  split
  case h_1 heq => exact absurd ((List.cons.inj heq).1 ▸ hc) (by decide)
  case h_2 heq => exact absurd ((List.cons.inj heq).1 ▸ hc) (by decide)
  case h_3 => rfl

/-- A digit is its own lowercase form. -/
theorem lower_digit {c : Char} (hc : isAsciiDigit c = true) : Text.lower c = c := by
  obtain ⟨-, hnine⟩ := Bool.and_eq_true_iff.mp hc
  have hnine : c.toNat ≤ '9'.toNat := of_decide_eq_true hnine
  have hbelow : ¬ 'A' ≤ c := fun hA => by
    have hA : 'A'.toNat ≤ c.toNat := hA
    exact absurd (hA.trans hnine) (by decide)
  rw [Text.lower, if_neg (by simp [hbelow])]

/-- What starts with a digit behind its sign is none of the words. -/
theorem ofChars?_of_splitSign {s rest : List Char} {negative : Bool} {c : Char}
    (hc : isAsciiDigit c = true) (hsign : splitSign s = (negative, c :: rest)) :
    ofChars? s = ofUnsignedChars? negative (c :: rest) := by
  have hword {d : Char} {word : List Char} (hd : isAsciiDigit d = false) :
      Chars.lowercase (c :: rest) ≠ d :: word := by
    intro heq
    obtain ⟨hcd, -⟩ := List.cons.inj heq
    rw [← hcd, lower_digit hc, hc] at hd
    cases hd
  have hinf : ¬(decide (Chars.lowercase (c :: rest) = "inf".toList) ||
      decide (Chars.lowercase (c :: rest) = "infinity".toList)) = true := by
    rw [Bool.or_eq_true, decide_eq_true_eq, decide_eq_true_eq, not_or]
    exact ⟨hword (by decide), hword (by decide)⟩
  have hnan : Chars.lowercase (c :: rest) ≠ "nan".toList := hword (by decide)
  rw [ofChars?, hsign]
  dsimp only
  rw [if_neg hinf, if_neg hnan]

/-! ### Decimal fractions -/

/-- A number of up to seven bits in front of the point is not computed only if it is below one. -/
theorem ofDecimal_cases {digits places : ℕ} (hhigh : digits < 2 ^ 7 * 10 ^ places) :
    digits < 10 ^ places ∧ ofDecimal false digits (-places) = zero ∨
      ofDecimal false digits (-places) = ofRatio false digits (10 ^ places) := by
  unfold ofDecimal
  split
  case isTrue h =>
    rw [h]
    exact .inl ⟨Nat.pow_pos (by decide), rfl⟩
  case isFalse hne =>
    dsimp only
    split
    case isTrue hgreat =>
      have hbits : 2 ^ digits.log2 < 2 ^ (7 + 4 * places) := by
        calc 2 ^ digits.log2
            ≤ digits := Nat.log2_self_le hne
          _ < 2 ^ 7 * 10 ^ places := hhigh
          _ ≤ 2 ^ 7 * (2 ^ 4) ^ places :=
            Nat.mul_le_mul_left _ (Nat.pow_le_pow_left (by decide) _)
          _ = 2 ^ (7 + 4 * places) := by rw [← pow_mul, ← pow_add]
      have hbits := (Nat.pow_lt_pow_iff_right (by decide)).mp hbits
      omega
    case isFalse =>
      split
      case isTrue hleast =>
        refine .inl ⟨?_, rfl⟩
        calc digits
            < 2 ^ (digits.log2 + 1) := Nat.lt_log2_self
          _ ≤ 2 ^ places := Nat.pow_le_pow_right (by decide) (by omega)
          _ ≤ 10 ^ places := Nat.pow_le_pow_left (by decide) _
      case isFalse =>
        have hone : powerOf 10 (-places) = 1 := by
          rw [powerOf, Int.toNat_of_nonpos (by omega)]
        have hten : powerOf 10 (- -(places : ℤ)) = 10 ^ places := by
          rw [neg_neg]
          rfl
        rw [hone, hten, mul_one]
        exact .inr rfl

/-! ### Numerals -/

/-- Digits and further ones behind a point; where there are no further ones, there is no point. -/
def numeral (whole fraction : List Char) : List Char :=
  if fraction = [] then whole else whole ++ '.' :: fraction

section Numeral

variable {whole fraction : List Char} (hdigits : ∀ c ∈ whole ++ fraction, isAsciiDigit c = true)

include hdigits

/-- A number that is so close below the next integer has fourteen nines behind the point. -/
theorem prefix_of_le
    (h : 2 ^ 47 * 10 ^ fraction.length ≤ 2 ^ 47 * digitsValue fraction + 10 ^ fraction.length) :
    List.replicate 14 '9' <+: fraction := by
  have hfraction := (List.forall_mem_append.mp hdigits).2
  have hlt := digitsValue_lt hfraction
  have hlength : 14 ≤ fraction.length := by
    by_contra! hshort
    have hpower : 10 ^ fraction.length ≤ 10 ^ 13 := Nat.pow_le_pow_right (by decide) (by omega)
    omega
  -- The digits behind the first fourteen are worth less than one of the fourteenth place.
  have htake : (fraction.take 14).length = 14 := List.length_take_of_le hlength
  have hfirst : ∀ c ∈ fraction.take 14, isAsciiDigit c = true :=
    fun c hc => hfraction c (List.mem_of_mem_take hc)
  have hrest : digitsValue (fraction.drop 14) < 10 ^ (fraction.drop 14).length :=
    digitsValue_lt fun c hc => hfraction c (List.mem_of_mem_drop hc)
  have hvalue := digitsValue_append (fraction.take 14) (fraction.drop 14)
  have hpower : 10 ^ fraction.length = 10 ^ 14 * 10 ^ (fraction.drop 14).length := by
    rw [List.length_drop, ← pow_add, Nat.add_sub_cancel' hlength]
  rw [List.take_append_drop] at hvalue
  rw [hvalue, hpower] at h
  have hnines : 10 ^ (fraction.take 14).length ≤ digitsValue (fraction.take 14) + 1 := by
    rw [htake]
    by_contra! hsmall
    have hstep : (digitsValue (fraction.take 14) + 2) * 10 ^ (fraction.drop 14).length ≤
        10 ^ 14 * 10 ^ (fraction.drop 14).length := Nat.mul_le_mul_right _ (by omega)
    rw [Nat.add_mul] at hstep
    omega
  have heq := eq_replicate_of_le_digitsValue hfirst hnines
  rw [htake] at heq
  exact heq ▸ List.take_prefix 14 fraction

/-- **The number that a numeral writes is cut to the digits in front of the point.** -/
theorem toInt64_ofDecimal (hw : digitsValue whole ≤ 100) :
    let x := ofDecimal false (digitsValue (whole ++ fraction)) (-fraction.length)
    x.toInt64 = digitsValue whole ∨
      x.toInt64 = digitsValue whole + 1 ∧ List.replicate 14 '9' <+: fraction := by
  intro x
  have hfraction := digitsValue_lt (List.forall_mem_append.mp hdigits).2
  have hvalue := digitsValue_append whole fraction
  have hpos : 0 < 10 ^ fraction.length := Nat.pow_pos (by decide)
  have hlow : digitsValue whole * 10 ^ fraction.length ≤ digitsValue (whole ++ fraction) := by
    omega
  have hhigh : digitsValue (whole ++ fraction) <
      (digitsValue whole + 1) * 10 ^ fraction.length := by
    rw [Nat.add_mul]
    omega
  obtain ⟨hlt, hx⟩ | hx := ofDecimal_cases (hhigh.trans_le (Nat.mul_le_mul_right _ (by omega)))
  · -- A number below one is cut to zero, also where it is not computed.
    have hzero : Binary64.zero.toInt64 = 0 := by decide +kernel
    have hwhole : digitsValue whole = 0 := by
      by_contra hne
      have hle := Nat.le_mul_of_pos_left (10 ^ fraction.length) (Nat.pos_of_ne_zero hne)
      omega
    rw [hwhole]
    exact .inl ((congrArg toInt64 hx).trans hzero)
  · unfold x
    rw [hx]
    refine (toInt64_ofRatio hpos hw hlow hhigh).imp_right fun h => ⟨h.1, ?_⟩
    refine prefix_of_le hdigits ?_
    have hup := h.2
    rw [hvalue, Nat.add_mul, one_mul, Nat.mul_add, Nat.mul_add] at hup
    omega

/-- The digits are read up to the point and behind it. -/
theorem ofUnsignedChars?_numeral (negative : Bool) (hne : whole ≠ []) :
    ofUnsignedChars? negative (numeral whole fraction) =
      some (ofDecimal negative (digitsValue (whole ++ fraction)) (-fraction.length)) := by
  obtain ⟨hwhole, hfraction⟩ := List.forall_mem_append.mp hdigits
  have hpoint : isAsciiDigit '.' = false := by decide
  unfold ofUnsignedChars? numeral
  split
  case isTrue hnil =>
    have htake : whole.takeWhile isAsciiDigit = whole := List.takeWhile_eq_self_iff.mpr hwhole
    have hdrop : whole.dropWhile isAsciiDigit = [] := List.dropWhile_eq_nil_iff.mpr hwhole
    simp [hnil, htake, hdrop, hne, exponentOf?]
  case isFalse =>
    have htake : fraction.takeWhile isAsciiDigit = fraction :=
      List.takeWhile_eq_self_iff.mpr hfraction
    have hdrop : fraction.dropWhile isAsciiDigit = [] := List.dropWhile_eq_nil_iff.mpr hfraction
    simp [List.takeWhile_append_of_pos hwhole, List.dropWhile_append_of_pos hwhole, hpoint, htake,
      hdrop, hne, exponentOf?]

theorem ofChars?_numeral (hne : whole ≠ []) : ofChars? (numeral whole fraction) =
    some (ofDecimal false (digitsValue (whole ++ fraction)) (-fraction.length)) := by
  obtain ⟨c, rest, rfl⟩ := List.exists_cons_of_ne_nil hne
  obtain ⟨s, hs⟩ : ∃ s, numeral (c :: rest) fraction = c :: s := by
    rw [numeral]
    split
    · exact ⟨rest, rfl⟩
    · exact ⟨rest ++ '.' :: fraction, rfl⟩
  have hc : isAsciiDigit c = true := hdigits c (by simp)
  rw [hs, ofChars?_of_splitSign hc (splitSign_digit hc s), ← hs]
  exact ofUnsignedChars?_numeral hdigits false hne

/-- **A numeral up to one hundred is cut to the digits in front of its point**, or there are
fourteen nines behind it and it is rounded up. -/
theorem toInt64_numeral (hne : whole ≠ []) (hw : digitsValue whole ≤ 100) :
    ∃ x, ofChars? (numeral whole fraction) = some x ∧
      (x.toInt64 = digitsValue whole ∨
        x.toInt64 = digitsValue whole + 1 ∧ List.replicate 14 '9' <+: fraction) :=
  ⟨_, ofChars?_numeral hdigits hne, toInt64_ofDecimal hdigits hw⟩

end Numeral

end PageModules.Binary64
