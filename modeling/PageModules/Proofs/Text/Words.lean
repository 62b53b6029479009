import PageModules.Proofs.Lists
import PageModules.Proofs.Text.Cutting

/-!
# Words of texts

The words of a text are its pieces between blanks, without the empty ones
(`Chars.words_eq_filter`).  Squeezing a text writes its words with single spaces between them
(`Chars.squeeze_eq_intercalate`), and a text that is written so has these words
(`Chars.words_intercalate`).  So a squeezed text depends on the words of the text alone, and it
keeps all that is no blank (`Chars.squeeze_eq_join_words`).
-/

namespace PageModules.Chars

open Text (isBlank)

/-! ### Words -/

/-- A piece of text without blanks that is not empty. -/
structure IsWord (w : List Char) : Prop where
  /-- It has a character. -/
  ne_nil : w ≠ []
  /-- No character is a blank. -/
  isBlank_eq_false : ∀ c ∈ w, isBlank c = false

theorem wordsFrom_eq_filter (word s : List Char) :
    wordsFrom word s = (s.splitOnPPrepend isBlank word).filter (· ≠ []) := by
  induction s generalizing word with
  | nil => cases word <;> simp [wordsFrom_nil]
  | cons c s ih =>
    cases hc : isBlank c with
    | false => rw [wordsFrom_cons hc, List.splitOnPPrepend_cons_neg hc, ih]
    | true =>
      rw [wordsFrom_blank hc, List.splitOnPPrepend_cons_pos hc, words, ih]
      cases word <;> simp

/-- The words are the pieces between blanks that are not empty. -/
theorem words_eq_filter (s : List Char) : words s = (s.splitOnP isBlank).filter (· ≠ []) :=
  wordsFrom_eq_filter [] s

/-- No word goes on behind a blank. -/
theorem words_append_blank {c : Char} (hc : isBlank c = true) (s t : List Char) :
    words (s ++ c :: t) = words s ++ words t := by
  rw [words_eq_filter, List.splitOnP_append_cons s t hc, List.filter_append, ← words_eq_filter,
    ← words_eq_filter]

theorem isWord_of_mem_wordsFrom {word s w : List Char} (hword : ∀ c ∈ word, isBlank c = false)
    (hw : w ∈ wordsFrom word s) : IsWord w := by
  have hread {d : Char} {word : List Char} (hword : ∀ c ∈ d :: word, isBlank c = false) :
      IsWord (d :: word).reverse :=
    ⟨by simp, fun c hc => hword c (List.mem_reverse.mp hc)⟩
  induction s generalizing word with
  | nil =>
    rcases word with _ | ⟨d, word⟩
    · cases hw
    · obtain rfl := List.mem_singleton.mp hw
      exact hread hword
  | cons c s ih =>
    cases hc : isBlank c with
    | false =>
      rw [wordsFrom_cons hc] at hw
      exact ih (List.forall_mem_cons.mpr ⟨hc, hword⟩) hw
    | true =>
      have hrest (hw : w ∈ words s) : IsWord w := ih (fun _ hd => absurd hd List.not_mem_nil) hw
      rw [wordsFrom_blank hc] at hw
      rcases word with _ | ⟨d, word⟩
      · exact hrest hw
      · rcases List.mem_cons.mp hw with rfl | hw
        · exact hread hword
        · exact hrest hw

theorem isWord_of_mem_words {s w : List Char} (hw : w ∈ words s) : IsWord w :=
  isWord_of_mem_wordsFrom (fun _ hc => absurd hc List.not_mem_nil) hw

theorem flatten_wordsFrom (word s : List Char) :
    (wordsFrom word s).flatten = word.reverse ++ s.filter fun c => !isBlank c := by
  induction s generalizing word with
  | nil => cases word <;> simp [wordsFrom_nil]
  | cons c s ih =>
    cases hc : isBlank c with
    | false =>
      rw [wordsFrom_cons hc, ih, List.filter_cons_of_pos (by simp [hc])]
      simp
    | true =>
      rw [wordsFrom_blank hc, List.filter_cons_of_neg (by simp [hc]), words]
      cases word <;> simp [ih]

/-- One after the other the words are all that is no blank. -/
theorem flatten_words (s : List Char) : (words s).flatten = s.filter fun c => !isBlank c :=
  flatten_wordsFrom [] s

/-- Words with spaces between them are read as these words. -/
theorem words_intercalate {ws : List (List Char)} (h : ∀ w ∈ ws, IsWord w) :
    words ([' '].intercalate ws) = ws := by
  induction ws with
  | nil => rfl
  | cons w ws ih =>
    obtain ⟨hw, hws⟩ := List.forall_mem_cons.mp h
    have hone : words w = [w] := words_of_forall hw.ne_nil hw.isBlank_eq_false
    by_cases hne : ws = []
    · rw [hne, List.intercalate_singleton, hone]
    · rw [Lists.intercalate_cons hne, words_append_blank (by decide), hone, ih hws,
        List.singleton_append]

theorem intercalate_words_ne_nil {s : List Char} (h : words s ≠ []) :
    [' '].intercalate (words s) ≠ [] := by
  intro hnil
  apply h
  rw [← words_intercalate fun _ hw => isWord_of_mem_words hw, hnil]
  rfl

/-! ### Squeezing -/

theorem trimEnd_append (s t : List Char) :
    trimEnd (s ++ t) = if (trimEnd t).isEmpty then trimEnd s else s ++ trimEnd t := by
  unfold trimEnd
  rw [List.reverse_append, List.dropWhile_append, List.isEmpty_reverse]
  split
  case isTrue => rfl
  case isFalse => rw [List.reverse_append, List.reverse_reverse]

/-- A space is kept if something stands behind it. -/
theorem trimEnd_append_space {s : List Char} (hs : trimEnd s = s) (t : List Char) :
    trimEnd (s ++ ' ' :: t) = if (trimEnd t).isEmpty then s else s ++ ' ' :: trimEnd t := by
  rw [List.append_cons, trimEnd_append, trimEnd_concat_of_isBlank (by decide), hs,
    List.append_assoc, List.singleton_append]

/-- What is written behind the start of a word is its end and the words behind it.  No space is to
be written while no word has been started. -/
theorem trimEnd_append_squeezeFrom (word : List Char) (hword : ∀ c ∈ word, isBlank c = false)
    (s : List Char) :
    trimEnd (word.reverse ++ squeezeFrom true word.isEmpty s) =
      [' '].intercalate (wordsFrom word s) := by
  have hend {word : List Char} (hword : ∀ c ∈ word, isBlank c = false) :
      trimEnd word.reverse = word.reverse :=
    trimEnd_of_last fun c hc => hword c (List.mem_reverse.mp (List.mem_of_mem_getLast? hc))
  induction s generalizing word with
  | nil =>
    rw [squeezeFrom, List.append_nil, hend hword, wordsFrom_nil]
    cases word <;> simp
  | cons c s ih =>
    cases hc : isBlank c with
    | false =>
      have hread := ih (c :: word) (List.forall_mem_cons.mpr ⟨hc, hword⟩)
      rw [squeezeFrom_cons hc, wordsFrom_cons hc, ← hread]
      simp
    | true =>
      have hrest : trimEnd (squeezeFrom true true s) = [' '].intercalate (words s) :=
        ih [] fun _ hd => absurd hd List.not_mem_nil
      rw [squeezeFrom_blank hc, wordsFrom_blank hc]
      rcases word with _ | ⟨d, word⟩
      · exact hrest
      · -- The blank ends the word, and a space is written for it.
        refine (trimEnd_append_space (hend hword) (squeezeFrom true true s)).trans ?_
        rw [hrest, List.isEmpty_cons, if_neg Bool.false_ne_true]
        by_cases hwords : words s = []
        · rw [hwords, List.intercalate_singleton]
          rfl
        · rw [if_neg (by simpa using intercalate_words_ne_nil hwords),
            Lists.intercalate_cons hwords]

theorem squeeze_eq_intercalate (s : List Char) : squeeze s = [' '].intercalate (words s) := by
  rw [squeeze_eq_trimEnd, squeezeFrom_false]
  exact trimEnd_append_squeezeFrom [] (fun _ hc => absurd hc List.not_mem_nil) s

theorem words_squeeze (s : List Char) : words (squeeze s) = words s := by
  rw [squeeze_eq_intercalate, words_intercalate fun _ hw => isWord_of_mem_words hw]

/-- A word may be added to a squeezed text, behind a space. -/
theorem squeeze_append_word {s word : List Char} (hs : squeeze s = s) (hne : s ≠ [])
    (hword : ∀ c ∈ word, isBlank c = false) (hwordNe : word ≠ []) :
    squeeze (s ++ ' ' :: word) = s ++ ' ' :: word := by
  have hwords : words (s ++ ' ' :: word) = words s ++ [word] := by
    rw [words_append_blank (by decide), words_of_forall hwordNe hword]
  have hjoin : [' '].intercalate (words s) = s := by rw [← squeeze_eq_intercalate, hs]
  have hwordsNe : words s ≠ [] := by
    intro hnil
    rw [hnil] at hjoin
    exact hne hjoin.symm
  rw [squeeze_eq_intercalate, hwords, Lists.intercalate_concat hwordsNe, hjoin, List.append_assoc,
    List.singleton_append]

/-- **A squeezed text is the words of the text with single spaces between them.**  So squeezing
twice is squeezing once, all that is no blank is kept in its order, and two texts are squeezed to
the same text exactly if they have the same words. -/
theorem squeeze_eq_join_words (s : List Char) :
    squeeze s = [' '].intercalate (words s) ∧
      words s = (s.splitOnP isBlank).filter (· ≠ []) ∧
      squeeze (squeeze s) = squeeze s ∧
      ((squeeze s).filter fun c => !isBlank c) = (s.filter fun c => !isBlank c) ∧
      ∀ t, squeeze s = squeeze t ↔ words s = words t := by
  refine ⟨squeeze_eq_intercalate s, words_eq_filter s, ?_, ?_, fun t => ⟨fun h => ?_, fun h => ?_⟩⟩
  · rw [squeeze_eq_intercalate (squeeze s), words_squeeze, ← squeeze_eq_intercalate]
  · rw [← flatten_words, words_squeeze, flatten_words]
  · rw [← words_squeeze s, h, words_squeeze]
  · rw [squeeze_eq_intercalate, h, ← squeeze_eq_intercalate]

example : squeeze "\t a  \u3000b\n".toList = "a b".toList := by decide

end PageModules.Chars
