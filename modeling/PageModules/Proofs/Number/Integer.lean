import Mathlib.Data.Int.Notation
import Mathlib.Data.Nat.Notation
import Mathlib.Tactic.SplitIfs
import PageModules.Number.Integer

/-!
# Texts that are integers

`Integer.read` stops at the first digit that brings the number out of its range.  What it accepts is
said here by the text as a whole: a sign, digits and the number that they write
(`Integer.unsigned32?`, `Integer.signed64?`), and the two agree (`Integer.readUnsigned32_eq_ok_iff`,
`Integer.ofText?_eq_signed64?`).
-/

namespace PageModules.Integer

open Text (isAsciiDigit digitValue)

/-! ### Numerals -/

/-- The number that a text of digits writes. -/
def numeral? (s : List Char) : Option ℕ :=
  if s ≠ [] ∧ s.all isAsciiDigit then some (Nat.ofDigitChars 10 s 0) else none

/-- The natural number that a text writes, which may have a plus sign. -/
def natural? : List Char → Option ℕ
  | '+' :: s => numeral? s
  | s => numeral? s

/-- The integer that a text writes, which may have a sign. -/
def signed? : List Char → Option ℤ
  | '-' :: s => (numeral? s).map fun n : ℕ => -(n : ℤ)
  | s => (natural? s).map Int.ofNat

/-- The natural number of 32 bits that a text writes. -/
def unsigned32? (s : String) : Option ℕ := (natural? s.toList).filter fun n => n ≤ maxUnsigned32

/-- The integer of 64 bits that a text writes. -/
def signed64? (s : String) : Option ℤ :=
  (signed? s.toList).filter fun n => -9223372036854775808 ≤ n ∧ n ≤ 9223372036854775807

/-! ### Reading -/

theorem le_ofDigitChars (s : List Char) (n : ℕ) : n ≤ Nat.ofDigitChars 10 s n := by
  induction s generalizing n with
  | nil => exact Nat.le_refl n
  | cons c s ih =>
    rw [Nat.ofDigitChars_cons]
    exact Nat.le_trans (by omega) (ih _)

/-- Reading succeeds on digits whose number is in the range, since the numbers on the way are not
greater than the last one. -/
theorem readDigits_eq_ok_iff {greatest n m : ℕ} {beyond : Fault} {s : List Char}
    (h : n ≤ greatest) :
    readDigits greatest beyond n s = .ok m ↔
      s.all isAsciiDigit ∧ Nat.ofDigitChars 10 s n = m ∧ m ≤ greatest := by
  induction s generalizing n with
  | nil =>
    simp only [readDigits, Except.ok.injEq, List.all_nil, Nat.ofDigitChars_nil, true_and]
    exact ⟨fun hnm => ⟨hnm, hnm ▸ h⟩, And.left⟩
  | cons c s ih =>
    have hcons : Nat.ofDigitChars 10 (c :: s) n = Nat.ofDigitChars 10 s (10 * n + digitValue c) :=
      Nat.ofDigitChars_cons
    have hle := le_ofDigitChars s (10 * n + digitValue c)
    cases hc : isAsciiDigit c with
    | false => simp [readDigits, hc]
    | true =>
      simp only [readDigits, hc, Bool.not_true, Bool.false_eq_true, if_false, List.all_cons,
        Bool.true_and, hcons]
      split_ifs with hm
      · exact ih hm
      · -- The number only grows with the digits that follow.
        simp only [false_iff]
        rintro ⟨-, rfl, hgreatest⟩
        exact hm (Nat.le_trans hle hgreatest)

theorem readSome_eq_ok_iff {greatest n : ℕ} {beyond : Fault} {s : List Char} :
    readSome greatest beyond s = .ok n ↔ numeral? s = some n ∧ n ≤ greatest := by
  cases s with
  | nil => simp [readSome, numeral?]
  | cons c s =>
    have hdigits : readDigits greatest beyond 0 (c :: s) = .ok n ↔ _ :=
      readDigits_eq_ok_iff (Nat.zero_le greatest)
    rw [readSome, List.isEmpty_cons, if_neg Bool.false_ne_true, hdigits, numeral?]
    simp [and_assoc]

theorem map_eq_ok_iff {α β : Type} {f : α → β} {x : Except Fault α} {b : β} :
    x.map f = .ok b ↔ ∃ a, x = .ok a ∧ f a = b := by
  cases x <;> simp [Except.map]

theorem toOption_eq_some_iff {α : Type} {x : Except Fault α} {a : α} :
    x.toOption = some a ↔ x = .ok a := by
  cases x <;> simp [Except.toOption]

theorem natural?_minus (s : List Char) : natural? ('-' :: s) = none := by
  simp [natural?, numeral?, isAsciiDigit]

/-- What is read is what the text writes, if it is in the range. -/
theorem read_eq_ok_iff {signed : Bool} {below greatest : ℕ} {s : List Char} {n : ℤ} :
    read signed below greatest s = .ok n ↔
      (if signed then signed? s else (natural? s).map Int.ofNat) = some n ∧
        -(below : ℤ) ≤ n ∧ n ≤ greatest := by
  have hpositive (t : List Char) : (readSome greatest .tooGreat t).map Int.ofNat = .ok n ↔
      (numeral? t).map Int.ofNat = some n ∧ -(below : ℤ) ≤ n ∧ n ≤ greatest := by
    simp only [map_eq_ok_iff, readSome_eq_ok_iff, Option.map_eq_some_iff, Int.ofNat_eq_natCast]
    constructor
    · rintro ⟨m, ⟨hm, hle⟩, rfl⟩
      exact ⟨⟨m, hm, rfl⟩, by omega, by omega⟩
    · rintro ⟨⟨m, hm, rfl⟩, -, hle⟩
      exact ⟨m, ⟨hm, by omega⟩, rfl⟩
  fun_cases read signed below greatest s with
  | case1 => cases signed <;> simp [signed?, natural?, numeral?]
  | case2 t => cases signed <;> exact hpositive t
  | case3 t hsigned =>
    have hcast : (readSome below .tooSmall t >>= fun m => pure (m : ℤ)) =
        (readSome below .tooSmall t).map Int.ofNat := by
      cases readSome below .tooSmall t <;> rfl
    simp only [if_pos hsigned, signed?, hcast, map_eq_ok_iff, readSome_eq_ok_iff,
      Option.map_eq_some_iff, Int.ofNat_eq_natCast]
    constructor
    · rintro ⟨-, ⟨m, ⟨hm, hle⟩, rfl⟩, rfl⟩
      exact ⟨⟨m, hm, rfl⟩, by omega, by omega⟩
    · rintro ⟨⟨m, hm, rfl⟩, hle, -⟩
      exact ⟨m, ⟨m, ⟨hm, by omega⟩, rfl⟩, rfl⟩
  | case4 t hsigned => simp [hsigned, natural?_minus]
  | case5 _ _ hplus hminus =>
    have hnatural : natural? s = numeral? s := by
      unfold natural?
      split
      · exact (hplus _ rfl).elim
      · rfl
    have hsigned : signed? s = (natural? s).map Int.ofNat := by
      unfold signed?
      split
      · exact (hminus _ rfl).elim
      · rfl
    rw [hsigned, ite_self, hnatural]
    exact hpositive s

/-- The natural numbers of 32 bits that are read are those that a text writes. -/
theorem readUnsigned32_eq_ok_iff {s : String} {n : ℕ} :
    readUnsigned32 s = .ok n ↔ unsigned32? s = some n := by
  simp only [readUnsigned32, map_eq_ok_iff, read_eq_ok_iff, Bool.false_eq_true, if_false,
    Option.map_eq_some_iff, unsigned32?, Option.filter_eq_some_iff, decide_eq_true_eq,
    Int.ofNat_eq_natCast]
  constructor
  · rintro ⟨-, ⟨⟨m, hm, rfl⟩, -, hle⟩, rfl⟩
    exact ⟨hm, by omega⟩
  · rintro ⟨hn, hlt⟩
    exact ⟨n, ⟨⟨n, hn, rfl⟩, by omega, by omega⟩, rfl⟩

theorem toOption_readUnsigned32 (s : String) : (readUnsigned32 s).toOption = unsigned32? s := by
  ext n
  rw [toOption_eq_some_iff, readUnsigned32_eq_ok_iff]

/-- The integers of 64 bits that are read are those that a text writes. -/
theorem ofText?_eq_signed64? (s : String) : ofText? s = signed64? s := by
  ext n
  rw [ofText?, toOption_eq_some_iff, read_eq_ok_iff, if_pos rfl, signed64?,
    Option.filter_eq_some_iff, decide_eq_true_eq]
  exact and_congr_right fun _ => by omega

end PageModules.Integer
