import PageModules.Proofs.Style.Nesting
import PageModules.Style.Shorthand

/-!
# Tokens of values

What the tokens of a value are (`Style.AreTokensOf`): they are not empty, their blanks stand between
parentheses, and one after the other they are the value without its other blanks.  A value that
closes no parenthesis without opening it is cut into its tokens, and the sides of a box take the
first of them (`Style.areTokensOf_splitTokens`).
-/

namespace PageModules.Style

open Text (isBlank)

open Chars (depth depth_append depth_cons depth_nil turn turn_of_isBlank Stays AllNested
  allNested_concat_iff IsTrimmed)

/-! ### Blanks outside of parentheses -/

/-- The text without its blanks outside of parentheses, from a place at the given depth on. -/
def dropOuterBlanksFrom (d : ℤ) : List Char → List Char
  | [] => []
  | c :: s =>
    if isBlank c = true ∧ d = 0 then dropOuterBlanksFrom d s
    else c :: dropOuterBlanksFrom (d + turn c) s

/-- The text without its blanks outside of parentheses. -/
def dropOuterBlanks (s : List Char) : List Char := dropOuterBlanksFrom 0 s

/-- Nothing of a token is dropped. -/
theorem dropOuterBlanks_append {t : List Char} (ht : AllNested isBlank t) (s : List Char) :
    dropOuterBlanks (t ++ s) = t ++ dropOuterBlanksFrom (depth t) s := by
  induction t using List.reverseRecOn generalizing s with
  | nil => rfl
  | append_singleton t c ih =>
    obtain ⟨ht, hc⟩ := allNested_concat_iff.mp ht
    have hkeep : ¬(isBlank c = true ∧ depth t = 0) := fun h => hc h.1 h.2
    rw [List.append_assoc, ih ht, List.singleton_append, dropOuterBlanksFrom, if_neg hkeep,
      depth_append, depth_cons, depth_nil, add_zero, List.append_assoc]
    rfl

theorem dropOuterBlanks_cons_of_isBlank {c : Char} (hc : isBlank c = true) (s : List Char) :
    dropOuterBlanks (c :: s) = dropOuterBlanks s := by
  rw [dropOuterBlanks, dropOuterBlanksFrom, if_pos ⟨hc, rfl⟩, dropOuterBlanks]

/-- One after the other the tokens are the text without its blanks outside of parentheses. -/
theorem IsTokenCut.flatten_eq {s : List Char} {tokens : List (List Char)}
    (h : IsTokenCut s tokens) : tokens.flatten = dropOuterBlanks s := by
  induction h with
  | nil => rfl
  | blank hc _ ih => rw [dropOuterBlanks_cons_of_isBlank hc, ih]
  | @last t token =>
    have happend := dropOuterBlanks_append token.nested []
    rw [List.append_nil] at happend
    rw [happend]
    rfl
  | @cons t s c tokens token level hc _ ih =>
    have hdrop := dropOuterBlanks_cons_of_isBlank hc s
    rw [dropOuterBlanks_append token.nested, level, List.flatten_cons, ih, ← hdrop]
    rfl

/-! ### Ends of tokens -/

theorem IsToken.first {t : List Char} (h : IsToken t) : ∀ c ∈ t.head?, isBlank c = false := by
  intro c hc
  cases t with
  | nil => cases hc
  | cons d t =>
    obtain rfl := Option.some.inj hc
    exact Bool.eq_false_iff.mpr fun hblank => h.nested [] d t rfl hblank rfl

/-- A token that closes what it opens ends with no blank. -/
theorem IsToken.isTrimmed {t : List Char} (h : IsToken t) (level : depth t = 0) :
    IsTrimmed t := by
  refine ⟨h.first, fun c hc => Bool.eq_false_iff.mpr fun hblank => ?_⟩
  obtain ⟨front, rfl⟩ := List.getLast?_eq_some_iff.mp hc
  rw [depth_append, depth_cons, turn_of_isBlank hblank, depth_nil, add_zero, add_zero] at level
  exact (allNested_concat_iff.mp h.nested).2 hblank level

/-- What the tokens of a text have to be. -/
structure AreTokensOf (s : List Char) (tokens : List (List Char)) : Prop where
  /-- They stand between the blanks outside of parentheses. -/
  cut : IsTokenCut s tokens
  /-- They are not empty, and their blanks stand between parentheses. -/
  isToken : ∀ t ∈ tokens, IsToken t
  /-- They start with no blank. -/
  first : ∀ t ∈ tokens, ∀ c ∈ t.head?, isBlank c = false
  /-- They end with no blank either, unless the text ends between parentheses. -/
  isTrimmed : depth s = 0 → ∀ t ∈ tokens, IsTrimmed t
  /-- One after the other they are the text without its blanks outside of parentheses. -/
  flatten_eq : tokens.flatten = dropOuterBlanks s

theorem IsTokenCut.areTokensOf {s : List Char} {tokens : List (List Char)}
    (h : IsTokenCut s tokens) : AreTokensOf s tokens where
  cut := h
  isToken _ ht := h.isToken ht
  first _ ht := (h.isToken ht).first
  isTrimmed hs t ht := by
    have hlevel : depth t = 0 := (h.depth_eq ht).elim id fun hdepth => hdepth.trans hs
    exact (h.isToken ht).isTrimmed hlevel
  flatten_eq := h.flatten_eq

theorem fourValues?_eq (tokens : List (List Char)) :
    Shorthand.fourValues? tokens = tokens[0]?.map fun top =>
      let right := tokens[1]?.getD top
      [top, right, tokens[2]?.getD top, tokens[3]?.getD right] := by
  rcases tokens with _ | ⟨t, _ | ⟨r, _ | ⟨b, _ | ⟨l, rest⟩⟩⟩⟩ <;> rfl

/-- **The tokens of a text are what stands between its blanks outside of parentheses**, where no
start of the text closes more parentheses than it opens, and a box property has the first of them
at the top. -/
theorem areTokensOf_splitTokens {s : List Char}
    (hs : ∀ front, front <+: s → 0 ≤ depth front) :
    AreTokensOf s (splitTokens s) ∧
      Shorthand.boxValues? s = (splitTokens s)[0]?.map fun top =>
        let right := (splitTokens s)[1]?.getD top
        [top, right, (splitTokens s)[2]?.getD top, (splitTokens s)[3]?.getD right] := by
  have hstays : Stays 0 s := Chars.stays_iff.mpr (by simpa using hs)
  exact ⟨(isTokenCut_splitTokens hstays).areTokensOf, fourValues?_eq (splitTokens s)⟩

/-- The last token of this text is open, and it keeps the blank at its end. -/
theorem areTokensOf_open :
    let s := "1px rgba(0, 0) (a ".toList
    let tokens := ["1px".toList, "rgba(0, 0)".toList, "(a ".toList]
    (∀ front, front <+: s → 0 ≤ depth front) ∧ splitTokens s = tokens ∧ AreTokensOf s tokens ∧
      Shorthand.boxValues? s =
        some ["1px".toList, "rgba(0, 0)".toList, "(a ".toList, "rgba(0, 0)".toList] := by
  intro s tokens
  have hfronts : ∀ front, front <+: s → 0 ≤ depth front := by
    have hinits : ∀ front ∈ s.inits, 0 ≤ depth front := by decide
    exact fun front hfront => hinits front ((List.mem_inits front s).mpr hfront)
  have htokens : splitTokens s = tokens := by decide
  obtain ⟨hare, hbox⟩ := areTokensOf_splitTokens hfronts
  rw [htokens] at hare hbox
  exact ⟨hfronts, htokens, hare, hbox⟩

end PageModules.Style
