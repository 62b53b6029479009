import PageModules.Proofs.Text.Parentheses
import PageModules.Style.Nesting

/-!
# Cuts outside of parentheses

A text is cut at the commas in front of which as many parentheses were opened as closed
(`Style.IsTopLevelCut`); there is one such cut, and it is the one that is made
(`Style.isTopLevelCut_iff`).  In the same way the tokens are what stands between blanks outside
of parentheses (`Style.isTokenCut_iff`), so those of a balanced text are balanced
(`Style.balanced_of_mem_splitTokens`).  What stands in a group of parentheses is always balanced
(`Style.exists_of_balancedParens?`).
-/

namespace PageModules.Style

open Text (isBlank)

open Chars (turn depth turn_open turn_close turn_eq_zero turn_of_isBlank depth_append depth_cons
  depth_nil AllNested allNested_nil allNested_concat_iff Stays Balanced balanced_iff
  stays_append_iff stays_concat_iff)

/-! ### Commas -/

/-- All commas of a text stand between parentheses. -/
def IsNested (piece : List Char) : Prop :=
  ∀ front back, piece = front ++ ',' :: back → depth front ≠ 0

/-- The pieces of a text between its commas at the top level. -/
inductive IsTopLevelCut : List Char → List (List Char) → Prop where
  /-- A text whose commas are all nested is one piece. -/
  | last {piece : List Char} (nested : IsNested piece) : IsTopLevelCut piece [piece]
  /-- A piece that closes what it opens ends at a comma. -/
  | cons {piece s : List Char} {pieces : List (List Char)} (nested : IsNested piece)
    (level : depth piece = 0) (rest : IsTopLevelCut s pieces) :
    IsTopLevelCut (piece ++ ',' :: s) (piece :: pieces)

theorem isNested_iff {piece : List Char} : IsNested piece ↔ AllNested (· = ',') piece := by
  constructor
  · intro h front c back hpiece hc
    obtain rfl := of_decide_eq_true hc
    exact h front back hpiece
  · exact fun h front back hpiece => h front ',' back hpiece rfl

/-- Nothing has been read yet. -/
theorem isNested_nil : IsNested ([] : List Char).reverse := isNested_iff.mpr allNested_nil

theorem isNested_concat_iff {piece : List Char} {c : Char} :
    IsNested (piece ++ [c]) ↔ IsNested piece ∧ (c = ',' → depth piece ≠ 0) := by
  rw [isNested_iff, isNested_iff, allNested_concat_iff, decide_eq_true_eq]

/-- The piece that is being read goes on to the next comma at the top level. -/
theorem isTopLevelCut_splitCommasFrom {d : ℤ} {piece : List Char} (s : List Char)
    (hd : depth piece.reverse = d) (hpiece : IsNested piece.reverse) :
    IsTopLevelCut (piece.reverse ++ s) (splitCommasFrom d piece s) := by
  induction s generalizing d piece with
  | nil =>
    rw [List.append_nil, splitCommasFrom]
    exact .last hpiece
  | cons c s ih =>
    -- A character that does not end the piece is added to it.
    have hread {k : ℤ} (hturn : d + turn c = k) (hc : c = ',' → d ≠ 0) :
        IsTopLevelCut (piece.reverse ++ c :: s) (splitCommasFrom k (c :: piece) s) := by
      have hdepth : depth (c :: piece).reverse = k := by
        rw [List.reverse_cons, depth_append, depth_cons, depth_nil, hd]
        omega
      have hnested : IsNested (c :: piece).reverse := by
        rw [List.reverse_cons, isNested_concat_iff, hd]
        exact ⟨hpiece, hc⟩
      simpa using ih hdepth hnested
    rw [splitCommasFrom]
    split
    case isTrue hopen =>
      subst hopen
      exact hread rfl (fun h => absurd h (by decide))
    case isFalse hopen =>
      split
      case isTrue hclose =>
        subst hclose
        exact hread rfl (fun h => absurd h (by decide))
      case isFalse hclose =>
        split
        case isTrue hcomma =>
          obtain ⟨rfl, rfl⟩ : c = ',' ∧ d = 0 := by simpa using hcomma
          exact .cons hpiece hd (ih rfl isNested_nil)
        case isFalse hcomma =>
          refine hread ?_ ?_
          · rw [turn_eq_zero hopen hclose, add_zero]
          · rintro rfl rfl
            exact hcomma rfl

/-- Nested commas are read on. -/
theorem splitCommasFrom_append {piece p : List Char} (h : IsNested (piece.reverse ++ p))
    (s : List Char) : splitCommasFrom (depth piece.reverse) piece (p ++ s) =
      splitCommasFrom (depth (piece.reverse ++ p)) (p.reverse ++ piece) s := by
  induction p generalizing piece with
  | nil => rw [List.append_nil]; rfl
  | cons c p ih =>
    have hreverse : piece.reverse ++ c :: p = (c :: piece).reverse ++ p := by simp
    have hdepth : depth (c :: piece).reverse = depth piece.reverse + turn c := by
      rw [List.reverse_cons, depth_append, depth_cons, depth_nil, add_zero]
    have hrest := ih (hreverse ▸ h)
    have hlast : (c :: p).reverse ++ piece = p.reverse ++ c :: piece := by simp
    rw [hreverse, hlast, ← hrest, hdepth, List.cons_append, splitCommasFrom]
    split
    case isTrue hopen => rw [hopen, turn_open]
    case isFalse hopen =>
      split
      case isTrue hclose => rw [hclose, turn_close, ← sub_eq_add_neg]
      case isFalse hclose =>
        have hcomma : ¬(c = ',' && depth piece.reverse = 0) = true := by
          intro hboth
          obtain ⟨rfl, hzero⟩ : c = ',' ∧ depth piece.reverse = 0 := by simpa using hboth
          exact h piece.reverse p rfl hzero
        rw [if_neg hcomma, turn_eq_zero hopen hclose, add_zero]

theorem splitCommas_append {p : List Char} (h : IsNested p) (s : List Char) :
    splitCommas (p ++ s) = splitCommasFrom (depth p) p.reverse s := by
  have hstart : IsNested (([] : List Char).reverse ++ p) := h
  have happend := splitCommasFrom_append hstart s
  rwa [List.reverse_nil, List.nil_append, List.append_nil] at happend

/-- **A text has one cut at its commas at the top level**, the one that is made. -/
theorem isTopLevelCut_iff {s : List Char} {pieces : List (List Char)} :
    IsTopLevelCut s pieces ↔ splitCommas s = pieces := by
  constructor
  · intro h
    induction h with
    | last hpiece =>
      have happend := splitCommas_append hpiece []
      rw [List.append_nil] at happend
      rw [happend, splitCommasFrom, List.reverse_reverse]
    | @cons piece s pieces hpiece hlevel _ ih =>
      rw [splitCommas_append hpiece, hlevel, splitCommasFrom, if_neg (by decide),
        if_neg (by decide), if_pos (by decide), List.reverse_reverse]
      exact congrArg (piece :: ·) ih
  · rintro rfl
    exact isTopLevelCut_splitCommasFrom s rfl isNested_nil

theorem isPrefix_firstItemFrom (d : ℕ) (s : List Char) : firstItemFrom d s <+: s := by
  induction s generalizing d with
  | nil => exact List.nil_prefix
  | cons c s ih =>
    rw [firstItemFrom]
    split
    · exact List.cons_prefix_cons.mpr ⟨rfl, ih _⟩
    · split
      · exact List.cons_prefix_cons.mpr ⟨rfl, ih _⟩
      · split
        · exact List.nil_prefix
        · exact List.cons_prefix_cons.mpr ⟨rfl, ih _⟩

/-- The first item of a list is a part of it. -/
theorem isInfix_firstItem (s : List Char) : firstItem s <:+: s :=
  (Chars.trim_infix _).trans (isPrefix_firstItemFrom 0 s).isInfix

/-! ### Tokens -/

/-- A text that is not empty, with all its blanks inside of parentheses. -/
structure IsToken (t : List Char) : Prop where
  /-- There is a character. -/
  ne_nil : t ≠ []
  /-- Blanks stand between parentheses. -/
  nested : AllNested isBlank t

/-- The tokens of a text between its blanks outside of parentheses. -/
inductive IsTokenCut : List Char → List (List Char) → Prop where
  /-- The empty text has no tokens. -/
  | nil : IsTokenCut [] []
  /-- A blank in front of a text is left out. -/
  | blank {c : Char} {s : List Char} {tokens : List (List Char)} (hc : isBlank c = true)
    (rest : IsTokenCut s tokens) : IsTokenCut (c :: s) tokens
  /-- A token goes on to the end of the text. -/
  | last {t : List Char} (token : IsToken t) : IsTokenCut t [t]
  /-- A token that closes what it opens ends at a blank. -/
  | cons {t s : List Char} {c : Char} {tokens : List (List Char)} (token : IsToken t)
    (level : depth t = 0) (hc : isBlank c = true) (rest : IsTokenCut s tokens) :
    IsTokenCut (t ++ c :: s) (t :: tokens)

section

variable {d k : ℕ} {token : List Char} {c : Char}

/-- A character that does not end the token is added to it. -/
theorem splitTokensFrom_cons (hd : depth token.reverse = d) (hk : d + turn c = k)
    (hc : ¬(isBlank c = true ∧ d = 0)) (s : List Char) :
    splitTokensFrom d token (c :: s) = splitTokensFrom k (c :: token) s := by
  rw [splitTokensFrom]
  split
  case isTrue hopen =>
    rw [hopen, turn_open] at hk
    obtain rfl : d + 1 = k := by exact_mod_cast hk
    rfl
  case isFalse hopen =>
    split
    case isTrue hclose =>
      rw [hclose, turn_close] at hk
      obtain rfl : d = k + 1 := by omega
      -- Something is open, so the token is not empty.
      have hne : token ≠ [] := by
        rintro rfl
        rw [List.reverse_nil, depth_nil] at hd
        omega
      rw [List.isEmpty_eq_false_iff.mpr hne]
      rfl
    case isFalse hclose =>
      rw [turn_eq_zero hopen hclose, add_zero, Int.natCast_inj] at hk
      rw [if_neg (by simpa using hc), hk]

theorem depth_reverse_cons (hd : depth token.reverse = d) (hk : d + turn c = k) :
    depth (c :: token).reverse = k := by
  rw [List.reverse_cons, depth_append, depth_cons, depth_nil, hd, add_zero, hk]

/-- A blank outside of parentheses ends the token. -/
theorem splitTokensFrom_blank (hc : isBlank c = true) (token s : List Char) :
    splitTokensFrom 0 token (c :: s) =
      if token.isEmpty then splitTokens s else token.reverse :: splitTokens s := by
  have hopen : c ≠ '(' := by
    rintro rfl
    exact absurd hc (by decide)
  have hclose : c ≠ ')' := by
    rintro rfl
    exact absurd hc (by decide)
  rw [splitTokensFrom, if_neg hopen, if_neg hclose, if_pos (by simp [hc])]
  rfl

/-- The token that is being read goes on to the next blank outside of parentheses. -/
theorem isTokenCut_splitTokensFrom (token : List Char) {s : List Char}
    (hd : depth token.reverse = d) (htoken : AllNested isBlank token.reverse) (hs : Stays d s) :
    IsTokenCut (token.reverse ++ s) (splitTokensFrom d token s) := by
  induction s generalizing d token with
  | nil =>
    rw [List.append_nil, splitTokensFrom]
    cases token with
    | nil => exact .nil
    | cons c token => exact .last ⟨by simp, htoken⟩
  | cons c s ih =>
    obtain ⟨-, hs⟩ := hs
    by_cases hcut : isBlank c = true ∧ d = 0
    · obtain ⟨hc, rfl⟩ := hcut
      rw [turn_of_isBlank hc, add_zero] at hs
      have hrest : IsTokenCut s (splitTokens s) := ih [] rfl allNested_nil hs
      rw [splitTokensFrom_blank hc]
      cases token with
      | nil => exact .blank hc hrest
      | cons e token => exact .cons ⟨by simp, htoken⟩ hd hc hrest
    · obtain ⟨k, hk⟩ := Int.eq_ofNat_of_zero_le hs.nonneg
      have hnested : AllNested isBlank (c :: token).reverse := by
        rw [List.reverse_cons, allNested_concat_iff, hd]
        exact ⟨htoken, fun hc hzero => hcut ⟨hc, by exact_mod_cast hzero⟩⟩
      rw [splitTokensFrom_cons hd hk hcut]
      simpa using ih (c :: token) (depth_reverse_cons hd hk) hnested (hk ▸ hs)

/-- Where no start of a text closes more parentheses than it opens, the text is cut at its blanks
outside of parentheses. -/
theorem isTokenCut_splitTokens {s : List Char} (hs : Stays 0 s) : IsTokenCut s (splitTokens s) :=
  isTokenCut_splitTokensFrom [] rfl allNested_nil hs

/-- Nested blanks are read on. -/
theorem splitTokensFrom_append (token : List Char) {p : List Char} (hd : depth token.reverse = d)
    (hk : depth (token.reverse ++ p) = k) (hnested : AllNested isBlank (token.reverse ++ p))
    (hp : Stays d p) (s : List Char) :
    splitTokensFrom d token (p ++ s) = splitTokensFrom k (p.reverse ++ token) s := by
  induction p generalizing d token with
  | nil =>
    rw [List.append_nil, hd, Int.natCast_inj] at hk
    rw [hk]
    rfl
  | cons c p ih =>
    obtain ⟨-, hp⟩ := hp
    obtain ⟨m, hm⟩ := Int.eq_ofNat_of_zero_le hp.nonneg
    have hcut : ¬(isBlank c = true ∧ d = 0) := by
      rintro ⟨hc, rfl⟩
      exact hnested token.reverse c p rfl hc hd
    have hreverse : token.reverse ++ c :: p = (c :: token).reverse ++ p := by simp
    rw [hreverse] at hk hnested
    rw [List.cons_append, splitTokensFrom_cons hd hm hcut,
      ih (c :: token) (depth_reverse_cons hd hm) hk hnested (hm ▸ hp)]
    simp

theorem IsToken.splitTokens_append {t : List Char} (ht : IsToken t) (hstays : Stays 0 t)
    (hk : depth t = k) (s : List Char) : splitTokens (t ++ s) = splitTokensFrom k t.reverse s := by
  have happend := splitTokensFrom_append (d := 0) [] rfl hk ht.nested hstays s
  rwa [List.append_nil] at happend

end

/-- **A text has one cut at its blanks outside of parentheses**, the one that is made, where no
start of it closes more parentheses than it opens. -/
theorem isTokenCut_iff {s : List Char} (hs : Stays 0 s) {tokens : List (List Char)} :
    IsTokenCut s tokens ↔ splitTokens s = tokens := by
  constructor
  · intro h
    induction h with
    | nil => rfl
    | @blank c s tokens hc _ ih =>
      obtain ⟨-, hs⟩ := hs
      rw [turn_of_isBlank hc, add_zero] at hs
      rw [splitTokens, splitTokensFrom_blank hc]
      exact ih hs
    | @last t token =>
      obtain ⟨k, hk⟩ := Int.eq_ofNat_of_zero_le hs.nonneg_end
      rw [zero_add] at hk
      have happend := token.splitTokens_append hs hk []
      rw [List.append_nil, splitTokensFrom, List.isEmpty_reverse, List.reverse_reverse,
        List.isEmpty_eq_false_iff.mpr token.ne_nil] at happend
      exact happend
    | @cons t s c tokens token level hc _ ih =>
      obtain ⟨htoken, -, hs⟩ := stays_append_iff.mp hs
      rw [level, turn_of_isBlank hc, add_zero, add_zero] at hs
      rw [token.splitTokens_append htoken level, splitTokensFrom_blank hc, List.isEmpty_reverse,
        List.isEmpty_eq_false_iff.mpr token.ne_nil, List.reverse_reverse, ih hs]
      rfl
  · rintro rfl
    exact isTokenCut_splitTokens hs

theorem IsTokenCut.isToken {s t : List Char} {tokens : List (List Char)}
    (h : IsTokenCut s tokens) (ht : t ∈ tokens) : IsToken t := by
  induction h with
  | nil => cases ht
  | blank _ _ ih => exact ih ht
  | last token =>
    obtain rfl := List.mem_singleton.mp ht
    exact token
  | cons token _ _ _ ih =>
    rcases List.mem_cons.mp ht with rfl | ht
    · exact token
    · exact ih ht

/-- Only at the end of the text a token can leave parentheses open. -/
theorem IsTokenCut.depth_eq {s t : List Char} {tokens : List (List Char)}
    (h : IsTokenCut s tokens) (ht : t ∈ tokens) : depth t = 0 ∨ depth t = depth s := by
  induction h with
  | nil => cases ht
  | blank hc _ ih =>
    rw [depth_cons, turn_of_isBlank hc, zero_add]
    exact ih ht
  | last =>
    obtain rfl := List.mem_singleton.mp ht
    exact .inr rfl
  | cons _ level hc _ ih =>
    rcases List.mem_cons.mp ht with rfl | ht
    · exact .inl level
    · rw [depth_append, level, depth_cons, turn_of_isBlank hc, zero_add, zero_add]
      exact ih ht

theorem IsTokenCut.stays {s t : List Char} {tokens : List (List Char)} (h : IsTokenCut s tokens)
    (hs : Stays 0 s) (ht : t ∈ tokens) : Stays 0 t := by
  induction h with
  | nil => cases ht
  | blank hc _ ih =>
    obtain ⟨-, hs⟩ := hs
    rw [turn_of_isBlank hc, add_zero] at hs
    exact ih hs ht
  | last =>
    obtain rfl := List.mem_singleton.mp ht
    exact hs
  | cons _ level hc _ ih =>
    obtain ⟨htoken, -, hs⟩ := stays_append_iff.mp hs
    rw [level, turn_of_isBlank hc, add_zero, add_zero] at hs
    rcases List.mem_cons.mp ht with rfl | ht
    · exact htoken
    · exact ih hs ht

/-- **The tokens of a balanced text are balanced.** -/
theorem balanced_of_mem_splitTokens {s t : List Char} (hs : Balanced s)
    (ht : t ∈ splitTokens s) : Balanced t := by
  obtain ⟨hstays, hdepth⟩ := balanced_iff.mp hs
  have hcut : IsTokenCut s (splitTokens s) := isTokenCut_splitTokens hstays
  exact balanced_iff.mpr
    ⟨hcut.stays hstays ht, (hcut.depth_eq ht).elim id fun hlast => hlast.trans hdepth⟩

/-! ### Groups -/

/-- A character ends a group, or the group goes on at the depth behind it. -/
theorem closes_or_exists_depth (d : ℕ) (c : Char) :
    (c = ')' ∧ d = 0) ∨ ∃ k : ℕ, (d : ℤ) + turn c = k := by
  by_cases hclose : c = ')'
  · rcases Nat.eq_zero_or_pos d with rfl | hd
    · exact .inl ⟨hclose, rfl⟩
    · refine .inr ⟨d - 1, ?_⟩
      rw [hclose, turn_close]
      omega
  · refine .inr (Int.eq_ofNat_of_zero_le ?_)
    rw [turn, if_neg hclose]
    split <;> omega

theorem closeGroup?_cons {d k : ℕ} {c : Char} (hturn : (d : ℤ) + turn c = k) (s : List Char) :
    closeGroup? d (c :: s) = (closeGroup? k s).map (c :: ·) := by
  conv_lhs => unfold closeGroup?
  split
  case isTrue hopen =>
    rw [hopen, turn_open] at hturn
    obtain rfl : d + 1 = k := by omega
    rfl
  case isFalse hopen =>
    split
    case isTrue hclose =>
      rw [hclose, turn_close] at hturn
      obtain rfl : d = k + 1 := by omega
      rfl
    case isFalse hclose =>
      rw [turn_eq_zero hopen hclose] at hturn
      obtain rfl : d = k := by omega
      rfl

/-- A group is the start of the text up to the parenthesis that closes it. -/
theorem exists_of_closeGroup? {d : ℕ} {s g : List Char} (h : closeGroup? d s = some g) :
    ∃ inner rest, s = inner ++ ')' :: rest ∧ g = inner ++ [')'] ∧ Stays d inner ∧
      d + depth inner = 0 := by
  induction s generalizing d g with
  | nil => cases h
  | cons c s ih =>
    rcases closes_or_exists_depth d c with ⟨rfl, rfl⟩ | ⟨k, hturn⟩
    · obtain rfl := Option.some.inj h
      exact ⟨[], s, rfl, rfl, Int.le_refl 0, rfl⟩
    · rw [closeGroup?_cons hturn] at h
      obtain ⟨g', hg', rfl⟩ := Option.map_eq_some_iff.mp h
      obtain ⟨inner, rest, rfl, rfl, hstays, hdepth⟩ := ih hg'
      refine ⟨c :: inner, rest, rfl, rfl, ⟨Int.natCast_nonneg d, by rwa [hturn]⟩, ?_⟩
      rw [depth_cons, ← add_assoc, hturn, hdepth]

/-- There is no group exactly if the text never closes more parentheses than are open. -/
theorem closeGroup?_eq_none_iff {d : ℕ} {s : List Char} : closeGroup? d s = none ↔ Stays d s := by
  induction s generalizing d with
  | nil => exact iff_of_true rfl (Int.natCast_nonneg d)
  | cons c s ih =>
    rcases closes_or_exists_depth d c with ⟨rfl, rfl⟩ | ⟨k, hturn⟩
    · exact iff_of_false (Option.some_ne_none [')']) fun h => absurd h.2.nonneg (by decide)
    · rw [closeGroup?_cons hturn, Option.map_eq_none_iff, ih, Stays, hturn]
      exact (and_iff_right (Int.natCast_nonneg d)).symm

/-- **What stands in a group of parentheses is balanced.** -/
theorem exists_of_balancedParens? {s g : List Char} (h : balancedParens? s = some g) :
    ∃ inner rest, s = '(' :: (inner ++ ')' :: rest) ∧ g = '(' :: (inner ++ [')']) ∧
      Balanced inner := by
  cases s with
  | nil => cases h
  | cons c s =>
    rw [balancedParens?] at h
    split at h
    case isTrue hopen =>
      obtain ⟨g', hg', rfl⟩ := Option.map_eq_some_iff.mp h
      obtain ⟨inner, rest, rfl, rfl, hstays, hdepth⟩ := exists_of_closeGroup? hg'
      refine ⟨inner, rest, by rw [hopen], by rw [hopen], balanced_iff.mpr ⟨hstays, ?_⟩⟩
      omega
    case isFalse => cases h

end PageModules.Style
