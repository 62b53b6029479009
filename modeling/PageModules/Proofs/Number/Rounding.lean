import Mathlib.Algebra.Order.Field.Power
import Mathlib.Algebra.Order.Field.Rat
import Mathlib.Algebra.Order.Floor.Semifield
import Mathlib.Data.Rat.Floor
import Mathlib.Tactic.Linarith
import Mathlib.Tactic.NormNum
import Mathlib.Tactic.Positivity
import Mathlib.Tactic.Ring
import PageModules.Number.Binary64

/-!
# The range of floating point numbers

A ratio is rounded at the exponent that gives it a full significand
(`Binary64.ratio_lt`, `Binary64.le_ratio`), so rounding overflows only beyond the greatest finite
number (`Binary64.isFinite_ofRatio`).  What a number is cut to has 64 bits
(`Binary64.isInt64_toInt64`) and grows with the number (`Binary64.toInt64_le_of_le`).
-/

namespace PageModules.Binary64

/-! ### Powers of two -/

theorem powerOf_two_pos (e : ℤ) : 0 < powerOf 2 e := Nat.two_pow_pos e.toNat

theorem powerOf_of_nonpos {e : ℤ} (h : e ≤ 0) : powerOf 2 e = 1 := by
  rw [powerOf, Int.toNat_of_nonpos h]

/-- One of the two powers is one, the other is that of the magnitude. -/
theorem powerOf_div_powerOf (e : ℤ) : (powerOf 2 e : ℚ) / powerOf 2 (-e) = 2 ^ e := by
  obtain ⟨n, rfl | rfl⟩ := e.eq_nat_or_neg
  · have hone : powerOf 2 (-(n : ℤ)) = 1 := powerOf_of_nonpos (by omega)
    rw [hone, Nat.cast_one, div_one, zpow_natCast]
    simp [powerOf]
  · have hone : powerOf 2 (-(n : ℤ)) = 1 := powerOf_of_nonpos (by omega)
    rw [neg_neg, hone, Nat.cast_one, zpow_neg, zpow_natCast, one_div]
    simp [powerOf]

theorem cast_powerOf {e : ℤ} (h : 0 ≤ e) : (powerOf 2 e : ℚ) = 2 ^ e := by
  rw [← powerOf_div_powerOf, powerOf_of_nonpos (neg_nonpos.mpr h), Nat.cast_one, div_one]

variable {num den : ℕ}

/-- Both sides of a comparison are moved to whole numbers by the two powers. -/
theorem mul_powerOf_le_iff (hden : 0 < den) (k : ℕ) (e : ℤ) :
    k * (den * powerOf 2 e) ≤ num * powerOf 2 (-e) ↔ (k : ℚ) * 2 ^ e ≤ num / den := by
  have hden' : (0 : ℚ) < den := by exact_mod_cast hden
  have hneg : (0 : ℚ) < powerOf 2 (-e) := by exact_mod_cast powerOf_two_pos (-e)
  have hcast : k * (den * powerOf 2 e) ≤ num * powerOf 2 (-e) ↔
      ((k * (den * powerOf 2 e) : ℕ) : ℚ) ≤ (num * powerOf 2 (-e) : ℕ) := Nat.cast_le.symm
  rw [hcast, ← powerOf_div_powerOf, ← mul_div_assoc, div_le_div_iff₀ hneg hden']
  push_cast
  rw [mul_right_comm, mul_assoc]

/-! ### The exponent of a ratio -/

theorem two_zpow_log2_le (hnum : 0 < num) (hden : 0 < den) :
    (2 : ℚ) ^ ((num.log2 : ℤ) - den.log2 - 1) < num / den := by
  have hlow : (2 : ℚ) ^ num.log2 ≤ num := by exact_mod_cast Nat.log2_self_le hnum.ne'
  have hhigh : (den : ℚ) < 2 ^ (den.log2 + 1) := by exact_mod_cast Nat.lt_log2_self
  have hden' : (0 : ℚ) < den := by exact_mod_cast hden
  rw [sub_sub, zpow_sub₀ two_ne_zero, div_lt_div_iff₀ (by positivity) hden']
  exact_mod_cast mul_lt_mul' hlow hhigh hden'.le (lt_of_lt_of_le (by positivity) hlow)

theorem lt_two_zpow_log2 (num : ℕ) (hden : 0 < den) :
    (num / den : ℚ) < 2 ^ ((num.log2 : ℤ) - den.log2 + 1) := by
  have hhigh : (num : ℚ) < 2 ^ (num.log2 + 1) := by exact_mod_cast Nat.lt_log2_self
  have hlow : (2 : ℚ) ^ den.log2 ≤ den := by exact_mod_cast Nat.log2_self_le hden.ne'
  have hden' : (0 : ℚ) < den := by exact_mod_cast hden
  rw [sub_add_eq_add_sub, zpow_sub₀ two_ne_zero, div_lt_div_iff₀ hden' (by positivity)]
  exact_mod_cast mul_lt_mul hhigh hlow (by positivity) (by positivity)

/-- The significand of a ratio at its exponent has at most 53 bits. -/
theorem ratio_lt (num : ℕ) (hden : 0 < den) :
    (num / den : ℚ) < significandBound * 2 ^ ratioExponent num den := by
  have hbound : (significandBound : ℚ) = 2 ^ (53 : ℤ) := by norm_num [significandBound]
  have hlt := lt_two_zpow_log2 num hden
  unfold ratioExponent
  dsimp only
  set e : ℤ := (num.log2 : ℤ) - den.log2 - 53 with he
  rw [hbound, ← zpow_add₀ two_ne_zero]
  split
  case isTrue =>
    refine hlt.trans_le (zpow_le_zpow_right₀ one_le_two ?_)
    omega
  case isFalse hsmall =>
    rw [mul_powerOf_le_iff hden, not_le, hbound, ← zpow_add₀ two_ne_zero] at hsmall
    refine hsmall.trans_le (zpow_le_zpow_right₀ one_le_two ?_)
    omega

/-- Above the least exponent the significand has all 53 bits. -/
theorem le_ratio (hnum : 0 < num) (hden : 0 < den) (hleast : minExponent < ratioExponent num den) :
    leastFullSignificand * (2 : ℚ) ^ ratioExponent num den ≤ num / den := by
  have hbound : (leastFullSignificand : ℚ) = 2 ^ (52 : ℤ) := by norm_num [leastFullSignificand]
  have hlt := two_zpow_log2_le hnum hden
  revert hleast
  unfold ratioExponent
  dsimp only
  set e : ℤ := (num.log2 : ℤ) - den.log2 - 53 with he
  rw [hbound, ← zpow_add₀ two_ne_zero]
  split
  case isTrue hlarge =>
    intro hleast
    rw [mul_powerOf_le_iff hden] at hlarge
    have hfull : (significandBound : ℚ) = 2 ^ (53 : ℤ) := by norm_num [significandBound]
    rw [hfull, ← zpow_add₀ two_ne_zero] at hlarge
    refine le_trans (zpow_le_zpow_right₀ one_le_two ?_) hlarge
    omega
  case isFalse =>
    intro hleast
    refine le_trans (zpow_le_zpow_right₀ one_le_two ?_) hlt.le
    omega

/-! ### Rounding -/

/-- Rounding to an integer does not pass an integer. -/
theorem roundHalfEven_le {k : ℕ} (hden : 0 < den) (h : num ≤ k * den) :
    roundHalfEven num den ≤ k := by
  have hquotient : num / den ≤ k := Nat.div_le_of_le_mul (by rwa [mul_comm])
  have hsplit := Nat.div_add_mod num den
  unfold roundHalfEven
  dsimp only
  rcases hquotient.lt_or_eq with hlt | heq
  · split_ifs <;> omega
  · -- The quotient is the bound, so nothing remains.
    have hzero : num % den = 0 := by
      rw [heq, mul_comm] at hsplit
      omega
    rw [hzero, if_pos (by omega)]
    exact hquotient

/-- A rounded significand below 54 bits makes a finite number, unless it moves past the greatest
exponent. -/
theorem isFinite_ofRatioAt (negative : Bool) {e : ℤ} (he : e ≤ maxExponent)
    (hmax : e = maxExponent →
      roundHalfEven (num * powerOf 2 (-e)) (den * powerOf 2 e) ≠ significandBound) :
    (ofRatioAt negative num den e).isFinite = true := by
  unfold ofRatioAt
  dsimp only
  split
  case isTrue hbound =>
    have hlt : e < maxExponent := lt_of_le_of_ne he fun h => hmax h hbound
    rw [if_neg (by dsimp only; omega), isFinite]
  case isFalse => rw [if_neg (by dsimp only; omega), isFinite]

/-- The greatest finite number. -/
def greatest : ℕ := (significandBound - 1) * powerOf 2 maxExponent

theorem ratioExponent_le_maxExponent (hnum : 0 < num) (hden : 0 < den)
    (h : num ≤ greatest * den) : ratioExponent num den ≤ maxExponent := by
  by_contra! hlt
  have hden' : (0 : ℚ) < den := by exact_mod_cast hden
  have hpower : (powerOf 2 maxExponent : ℚ) = 2 ^ maxExponent := cast_powerOf (by decide)
  have hgreatest : (num / den : ℚ) ≤ (significandBound - 1 : ℕ) * 2 ^ maxExponent := by
    rw [div_le_iff₀ hden', ← hpower]
    exact_mod_cast h
  have hfull := le_ratio hnum hden (lt_trans (by decide) hlt)
  have hstep : (2 : ℚ) ^ (maxExponent + 1) ≤ 2 ^ ratioExponent num den :=
    zpow_le_zpow_right₀ one_le_two hlt
  have hpos : (0 : ℚ) < 2 ^ maxExponent := by positivity
  rw [zpow_add_one₀ two_ne_zero] at hstep
  norm_num [significandBound, leastFullSignificand] at hgreatest hfull
  linarith

/-- **Rounding overflows only beyond the greatest finite number.** -/
theorem isFinite_ofRatio (negative : Bool) (hden : 0 < den) (h : num ≤ greatest * den) :
    (ofRatio negative num den).isFinite = true := by
  unfold ofRatio
  split
  case isTrue => rfl
  case isFalse hnum =>
    have hnum : 0 < num := Nat.pos_of_ne_zero hnum
    refine isFinite_ofRatioAt negative (ratioExponent_le_maxExponent hnum hden h) fun hmax => ?_
    rw [hmax]
    have hone : powerOf 2 (-maxExponent) = 1 := powerOf_of_nonpos (by decide)
    have hle : num * powerOf 2 (-maxExponent) ≤
        (significandBound - 1) * (den * powerOf 2 maxExponent) := by
      rw [hone, mul_one]
      refine h.trans_eq ?_
      rw [greatest, mul_right_comm, mul_assoc]
    have hround := roundHalfEven_le (Nat.mul_pos hden (powerOf_two_pos _)) hle
    have hpos : 0 < significandBound := by decide
    omega

/-! ### Rounded numbers -/

/-- What a rounded number looks like: the significand has at most 53 bits, and the exponent is not
above the greatest. -/
structure IsRounded (m : ℕ) (e : ℤ) : Prop where
  /-- The significand has at most 53 bits. -/
  significand : m < significandBound
  /-- The exponent is at most the greatest. -/
  exponent : e ≤ maxExponent

theorem isRounded_of_ofRatioAt {negative n : Bool} {e e' : ℤ} {m : ℕ}
    (hle : roundHalfEven (num * powerOf 2 (-e)) (den * powerOf 2 e) ≤ significandBound)
    (h : ofRatioAt negative num den e = .finite n m e') : IsRounded m e' := by
  have hleast : leastFullSignificand < significandBound := by decide
  unfold ofRatioAt at h
  dsimp only at h
  split at h
  all_goals
    dsimp only at h
    split at h
    case isTrue => cases h
    case isFalse hmax =>
      cases h
      exact ⟨by omega, by omega⟩

theorem isRounded_of_ofRatio {negative n : Bool} {e : ℤ} {m : ℕ} (hden : 0 < den)
    (h : ofRatio negative num den = .finite n m e) : IsRounded m e := by
  unfold ofRatio at h
  split at h
  case isTrue =>
    cases h
    exact ⟨by decide, by decide⟩
  case isFalse hnum =>
    refine isRounded_of_ofRatioAt (roundHalfEven_le ?_ ?_) h
    · exact Nat.mul_pos hden (powerOf_two_pos _)
    · have hlt := ratio_lt num hden
      rw [← not_le, ← mul_powerOf_le_iff hden, not_le] at hlt
      exact hlt.le

theorem IsRounded.mul_powerOf_le {m : ℕ} {e : ℤ} (h : IsRounded m e) :
    m * powerOf 2 e ≤ greatest * powerOf 2 (-e) := by
  have hle : (m : ℚ) * 2 ^ e ≤ greatest := by
    have hpower : (powerOf 2 maxExponent : ℚ) = 2 ^ maxExponent := cast_powerOf (by decide)
    have hm : m ≤ significandBound - 1 := Nat.le_sub_one_of_lt h.significand
    have hpow : (2 : ℚ) ^ e ≤ 2 ^ maxExponent := zpow_le_zpow_right₀ one_le_two h.exponent
    rw [greatest, Nat.cast_mul, hpower]
    exact mul_le_mul (Nat.cast_le.mpr hm) hpow (zpow_nonneg zero_le_two e) (Nat.cast_nonneg _)
  have hneg : (0 : ℚ) < powerOf 2 (-e) := by exact_mod_cast powerOf_two_pos (-e)
  rw [← powerOf_div_powerOf, ← mul_div_assoc, div_le_iff₀ hneg] at hle
  exact_mod_cast hle

/-- The nearest integer of a rounded number is finite. -/
theorem isFinite_round {n : Bool} {m : ℕ} {e : ℤ} (h : IsRounded m e) :
    (round (.finite n m e)).isFinite = true := by
  unfold round
  dsimp only
  refine isFinite_ofRatio n one_pos ?_
  have hle := h.mul_powerOf_le
  have hneg := powerOf_two_pos (-e)
  rw [mul_one, ← Nat.lt_add_one_iff, Nat.div_lt_iff_lt_mul (by omega)]
  nlinarith

/-- Dividing a rounded number by a number that is not below one gives a finite number. -/
theorem isFinite_div {n n' : Bool} {m m' : ℕ} {e e' : ℤ} (h : IsRounded m e)
    (hone : powerOf 2 (-e') ≤ m' * powerOf 2 e') :
    (div (.finite n m e) (.finite n' m' e')).isFinite = true := by
  have hm' : 0 < m' := Nat.pos_of_mul_pos_right ((powerOf_two_pos _).trans_le hone)
  have hdivisor : (1 : ℚ) ≤ m' * 2 ^ e' := by
    have hneg : (0 : ℚ) < powerOf 2 (-e') := by exact_mod_cast powerOf_two_pos (-e')
    rw [← powerOf_div_powerOf, ← mul_div_assoc, one_le_div hneg]
    exact_mod_cast hone
  have hdividend : (m : ℚ) * 2 ^ e ≤ greatest := by
    have hneg : (0 : ℚ) < powerOf 2 (-e) := by exact_mod_cast powerOf_two_pos (-e)
    rw [← powerOf_div_powerOf, ← mul_div_assoc, div_le_iff₀ hneg]
    exact_mod_cast h.mul_powerOf_le
  rw [div, if_neg hm'.ne']
  refine isFinite_ofRatio _ (Nat.mul_pos hm' (powerOf_two_pos _)) ?_
  have hneg : (0 : ℚ) < powerOf 2 (e' - e) := by exact_mod_cast powerOf_two_pos (e' - e)
  have hratio : (powerOf 2 (e - e') : ℚ) / powerOf 2 (e' - e) = 2 ^ e / 2 ^ e' := by
    rw [← neg_sub e e', powerOf_div_powerOf, zpow_sub₀ two_ne_zero]
  have hpower : (0 : ℚ) < 2 ^ e' := by positivity
  have hgoal : (m : ℚ) * (powerOf 2 (e - e') / powerOf 2 (e' - e)) ≤ greatest * m' := by
    rw [hratio, ← mul_div_assoc, div_le_iff₀ hpower, mul_assoc]
    calc (m : ℚ) * 2 ^ e ≤ greatest := hdividend
      _ ≤ greatest * (m' * 2 ^ e') := le_mul_of_one_le_right (Nat.cast_nonneg _) hdivisor
  rw [← mul_div_assoc, div_le_iff₀ hneg, mul_assoc] at hgoal
  exact_mod_cast hgoal

/-! ### Integers -/

/-- What a number is cut to has 64 bits. -/
theorem isInt64_toInt64 (x : Binary64) : isInt64 x.toInt64 = true := by
  have hrange : minInt64 ≤ maxInt64 := by decide
  rw [isInt64, Bool.and_eq_true, decide_eq_true_eq, decide_eq_true_eq]
  unfold toInt64
  split
  · decide
  · split <;> decide
  · dsimp only
    omega

theorem truncatedMagnitude_eq_floor (m : ℕ) (e : ℤ) :
    truncatedMagnitude m e = ⌊(m : ℚ) * 2 ^ e⌋₊ := by
  rw [← powerOf_div_powerOf, ← mul_div_assoc, ← Nat.cast_mul, Nat.floor_div_eq_div,
    truncatedMagnitude]

/-- The value of a finite number. -/
def value (n : Bool) (m : ℕ) (e : ℤ) : ℚ := if n then -(m * 2 ^ e) else m * 2 ^ e

theorem scaled_eq {e exponent : ℤ} (h : exponent ≤ e) (n : Bool) (m : ℕ) :
    (scaled n m e exponent : ℚ) = value n m e / 2 ^ exponent := by
  have hpower : (powerOf 2 (e - exponent) : ℚ) = 2 ^ e / 2 ^ exponent := by
    rw [cast_powerOf (sub_nonneg.mpr h), zpow_sub₀ two_ne_zero]
  unfold scaled value
  cases n <;> simp [hpower, mul_div_assoc, neg_div]

theorem value_le_value {n n' : Bool} {m m' : ℕ} {e e' : ℤ}
    (h : le (.finite n m e) (.finite n' m' e') = true) : value n m e ≤ value n' m' e' := by
  have hpos : (0 : ℚ) < 2 ^ min e e' := by positivity
  rw [← div_le_div_iff_of_pos_right hpos, ← scaled_eq (min_le_left e e'),
    ← scaled_eq (min_le_right e e'), Int.cast_le]
  rw [le, Bool.or_eq_true, lt, eq, decide_eq_true_eq, decide_eq_true_eq] at h
  exact h.elim le_of_lt le_of_eq

theorem truncatedMagnitude_le {m m' : ℕ} {e e' : ℤ} (h : (m : ℚ) * 2 ^ e ≤ m' * 2 ^ e') :
    truncatedMagnitude m e ≤ truncatedMagnitude m' e' := by
  rw [truncatedMagnitude_eq_floor, truncatedMagnitude_eq_floor]
  exact Nat.floor_le_floor h

theorem truncatedMagnitude_eq_zero {m : ℕ} {e : ℤ} (h : (m : ℚ) * 2 ^ e ≤ 0) :
    truncatedMagnitude m e = 0 := by
  rw [truncatedMagnitude_eq_floor, Nat.floor_of_nonpos h]

/-- **A greater number is cut to an integer that is not less.** -/
theorem toInt64_le_of_le {x y : Binary64} (h : le x y = true) : x.toInt64 ≤ y.toInt64 := by
  have hrange : minInt64 ≤ maxInt64 := by decide
  cases x with
  | nan => cases y <;> cases h
  | infinity n =>
    cases n with
    | true =>
      have hy := isInt64_toInt64 y
      rw [isInt64, Bool.and_eq_true, decide_eq_true_eq] at hy
      exact hy.1
    | false =>
      cases y with
      | infinity n' =>
        cases n' with
        | true => cases h
        | false => rfl
      | _ => cases h
  | finite n m e =>
    cases y with
    | nan => cases h
    | infinity n' =>
      cases n' with
      | true => cases h
      | false =>
        have hx := isInt64_toInt64 (.finite n m e)
        rw [isInt64, Bool.and_eq_true, decide_eq_true_eq, decide_eq_true_eq] at hx
        exact hx.2
    | finite n' m' e' =>
      have hvalue := value_le_value h
      have hm : (0 : ℚ) ≤ m * 2 ^ e := by positivity
      have hm' : (0 : ℚ) ≤ m' * 2 ^ e' := by positivity
      -- The signs decide in which direction the magnitudes are compared.
      have hcut : (if n then -(truncatedMagnitude m e : ℤ) else truncatedMagnitude m e) ≤
          if n' then -(truncatedMagnitude m' e' : ℤ) else truncatedMagnitude m' e' := by
        unfold value at hvalue
        cases n <;> cases n' <;> simp only [Bool.false_eq_true, ↓reduceIte] at hvalue ⊢
        · exact_mod_cast truncatedMagnitude_le hvalue
        · have hzero : truncatedMagnitude m e = 0 := truncatedMagnitude_eq_zero (by linarith)
          have hzero' : truncatedMagnitude m' e' = 0 := truncatedMagnitude_eq_zero (by linarith)
          omega
        · omega
        · have hle := truncatedMagnitude_le (neg_le_neg_iff.mp hvalue)
          omega
      unfold toInt64
      dsimp only
      omega

end PageModules.Binary64
