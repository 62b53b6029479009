import Mathlib.Data.List.Induction
import Mathlib.Data.List.TakeWhile
import PageModules.Proofs.Text.Trimmed

/-!
# Cutting and squeezing text

A text is cut at the first place where a character stands (`Chars.splitAt?_append_cons`), its first
word ends at the blanks behind it (`Chars.words_append_blanks`), and a piece is found at its first
place (`Chars.find?_append_cons`).  A character that is no blank cuts what squeezing does in two
(`Chars.squeezeFrom_append_cons`), so a text between two such characters is squeezed on its own, up
to blanks at its ends (`Chars.trim_squeezeFrom`).
-/

namespace PageModules.Chars

open Text (isBlank)

/-! ### Cutting at a character -/

theorem splitAt?_append_cons {c : Char} {s : List Char} (h : c ∉ s) (t : List Char) :
    splitAt? c (s ++ c :: t) = some (s, t) := by
  induction s with
  | nil => rw [List.nil_append, splitAt?, if_pos rfl]
  | cons d s ih =>
    rw [List.mem_cons, not_or] at h
    rw [List.cons_append, splitAt?, if_neg (Ne.symm h.1), ih h.2, Option.map_some]

/-- A text is cut in one way at the first place of a character. -/
theorem append_cons_inj {c : Char} {a b s t : List Char} (ha : c ∉ a) (hb : c ∉ b)
    (h : a ++ c :: s = b ++ c :: t) : a = b ∧ s = t := by
  have hsplit := splitAt?_append_cons ha s
  rw [h, splitAt?_append_cons hb] at hsplit
  obtain ⟨rfl, rfl⟩ := Prod.mk.inj (Option.some.inj hsplit)
  exact ⟨rfl, rfl⟩

/-- A text is cut in one way behind its last blank. -/
theorem append_blank_inj {a b s t : List Char} {c d : Char} (hc : isBlank c = true)
    (hd : isBlank d = true) (hs : ∀ x ∈ s, isBlank x = false) (ht : ∀ x ∈ t, isBlank x = false)
    (h : a ++ c :: s = b ++ d :: t) : a ++ [c] = b ++ [d] ∧ s = t := by
  have hlast {a s : List Char} {c : Char} (hc : isBlank c = true)
      (hs : ∀ x ∈ s, isBlank x = false) :
      (a ++ c :: s).reverse.takeWhile (fun x => !isBlank x) = s.reverse := by
    have hreverse : (a ++ c :: s).reverse = s.reverse ++ c :: a.reverse := by simp
    rw [hreverse, List.takeWhile_append_of_pos (by simpa using hs),
      List.takeWhile_cons_of_neg (by simp [hc]), List.append_nil]
  have hst : s = t := by
    rw [← List.reverse_inj, ← hlast hc hs, h, hlast hd ht]
  rw [List.append_cons, List.append_cons b, hst] at h
  exact ⟨List.append_cancel_right h, hst⟩

theorem splitAt?_eq_none {c : Char} {s : List Char} (h : c ∉ s) : splitAt? c s = none := by
  induction s with
  | nil => rfl
  | cons d s ih =>
    rw [List.mem_cons, not_or] at h
    rw [splitAt?, if_neg (Ne.symm h.1), ih h.2, Option.map_none]

theorem splitLast?_append_cons (s : List Char) {c : Char} {t : List Char} (h : c ∉ t) :
    splitLast? c (s ++ c :: t) = some (s, t) := by
  have hreverse : (s ++ c :: t).reverse = t.reverse ++ c :: s.reverse := by simp
  rw [splitLast?, hreverse, splitAt?_append_cons (by simpa using h), Option.map_some,
    List.reverse_reverse, List.reverse_reverse]

theorem splitLast?_eq_none {c : Char} {s : List Char} (h : c ∉ s) : splitLast? c s = none := by
  rw [splitLast?, splitAt?_eq_none (by simpa using h), Option.map_none]

/-! ### Finding a piece -/

theorem find?_nil (piece : List Char) :
    find? piece [] = if piece.isEmpty then some 0 else none := rfl

theorem find?_cons (piece : List Char) (c : Char) (s : List Char) : find? piece (c :: s) =
    if piece.isPrefixOf (c :: s) then some 0 else (find? piece s).map (· + 1) := rfl

theorem find?_eq_none {piece s : List Char} (h : ¬piece <:+: s) : find? piece s = none := by
  induction s with
  | nil =>
    have hne : piece ≠ [] := by
      rintro rfl
      exact h (List.infix_refl [])
    rw [find?_nil, if_neg (by simpa using hne)]
  | cons c s ih =>
    rw [List.infix_cons_iff, not_or, ← List.isPrefixOf_iff_prefix] at h
    rw [find?_cons, if_neg h.1, ih h.2, Option.map_none]

theorem containsPiece_iff {piece s : List Char} : containsPiece piece s = true ↔ piece <:+: s := by
  unfold containsPiece
  constructor
  · intro h
    by_contra hnone
    rw [find?_eq_none hnone] at h
    cases h
  · intro h
    induction s with
    | nil =>
      obtain rfl := List.infix_nil.mp h
      rfl
    | cons c s ih =>
      rw [find?_cons]
      split
      case isTrue => rfl
      case isFalse hprefix =>
        rw [List.isPrefixOf_iff_prefix] at hprefix
        rw [Option.isSome_map]
        exact ih ((List.infix_cons_iff.mp h).resolve_left hprefix)

theorem find?_self (piece : List Char) : find? piece piece = some 0 := by
  cases piece with
  | nil => rfl
  | cons c s => rw [find?_cons, if_pos (List.isPrefixOf_iff_prefix.mpr (List.prefix_refl _))]

/-- A piece that is not in a text is found behind it, if what separates them is not in the piece. -/
theorem find?_append_cons {piece s : List Char} (h : ¬piece <:+: s) {c : Char} (hc : c ∉ piece) :
    find? piece (s ++ c :: piece) = some (s.length + 1) := by
  -- The piece does not start in front of `c`, as it would end there.
  have hstart {s : List Char} (h : ¬piece <:+: s) : ¬piece <+: s ++ c :: piece := by
    intro hprefix
    rcases List.prefix_or_prefix_of_prefix hprefix (List.prefix_append s _) with hs | hs
    · exact h hs.isInfix
    · obtain ⟨t, rfl⟩ := hs
      rw [List.prefix_append_right_inj] at hprefix
      cases t with
      | nil => exact h (by simp)
      | cons d t =>
        obtain rfl := (List.cons_prefix_cons.mp hprefix).1
        exact hc (by simp)
  induction s with
  | nil =>
    have hnil := hstart h
    rw [List.nil_append, ← List.isPrefixOf_iff_prefix] at hnil
    rw [List.nil_append, find?_cons, if_neg hnil, find?_self]
    rfl
  | cons d s ih =>
    have hd := hstart h
    rw [List.infix_cons_iff, not_or] at h
    rw [List.cons_append, ← List.isPrefixOf_iff_prefix] at hd
    rw [List.cons_append, find?_cons, if_neg hd, ih h.2]
    rfl

/-! ### Words -/

theorem wordsFrom_nil (word : List Char) :
    wordsFrom word [] = if word.isEmpty then [] else [word.reverse] := rfl

theorem wordsFrom_cons {c : Char} (hc : isBlank c = false) (word s : List Char) :
    wordsFrom word (c :: s) = wordsFrom (c :: word) s :=
  if_neg (Bool.eq_false_iff.mp hc)

theorem wordsFrom_blank {c : Char} (hc : isBlank c = true) (word s : List Char) :
    wordsFrom word (c :: s) = if word.isEmpty then words s else word.reverse :: words s :=
  if_pos hc

theorem wordsFrom_append {w : List Char} (hw : ∀ c ∈ w, isBlank c = false) (word s : List Char) :
    wordsFrom word (w ++ s) = wordsFrom (w.reverse ++ word) s := by
  induction w generalizing word with
  | nil => rfl
  | cons c w ih =>
    obtain ⟨hc, hw⟩ := List.forall_mem_cons.mp hw
    rw [List.cons_append, wordsFrom_cons hc, ih hw, List.reverse_cons, List.append_assoc,
      List.singleton_append]

/-- Blanks in front do not count. -/
theorem words_blanks_append {gap : List Char} (h : ∀ c ∈ gap, isBlank c = true) (s : List Char) :
    words (gap ++ s) = words s := by
  induction gap with
  | nil => rfl
  | cons c gap ih =>
    obtain ⟨hc, hgap⟩ := List.forall_mem_cons.mp h
    rw [List.cons_append, words, wordsFrom_blank hc, if_pos List.isEmpty_nil]
    exact ih hgap

/-- A text without blanks is one word. -/
theorem words_of_forall {w : List Char} (hne : w ≠ []) (hw : ∀ c ∈ w, isBlank c = false) :
    words w = [w] := by
  have hread := wordsFrom_append hw [] []
  rw [List.append_nil, List.append_nil] at hread
  rw [words, hread, wordsFrom_nil, if_neg (by simpa using hne), List.reverse_reverse]

/-- Blanks end the first word. -/
theorem words_append_blanks {w gap : List Char} (hne : w ≠ []) (hw : ∀ c ∈ w, isBlank c = false)
    (hgap : gap ≠ []) (hblank : ∀ c ∈ gap, isBlank c = true) (s : List Char) :
    words (w ++ gap ++ s) = w :: words s := by
  obtain ⟨c, gap, rfl⟩ := List.exists_cons_of_ne_nil hgap
  obtain ⟨hc, hrest⟩ := List.forall_mem_cons.mp hblank
  rw [List.append_assoc, words, wordsFrom_append hw, List.append_nil, List.cons_append,
    wordsFrom_blank hc, if_neg (by simpa using hne), List.reverse_reverse,
    words_blanks_append hrest]

/-! ### Trimming -/

theorem trim_cons_of_isBlank {c : Char} (hc : isBlank c = true) (s : List Char) :
    trim (c :: s) = trim s := by
  rw [trim, trimStart, List.dropWhile_cons_of_pos hc]
  rfl

theorem trimEnd_append_cons {c : Char} (hc : isBlank c = false) (s t : List Char) :
    trimEnd (s ++ c :: t) = s ++ c :: trimEnd t := by
  have hreverse : (s ++ c :: t).reverse = t.reverse ++ c :: s.reverse := by simp
  rw [trimEnd, trimEnd, hreverse, List.dropWhile_append, List.dropWhile_cons_of_neg (by simp [hc])]
  split
  case isTrue hnil => simp [List.isEmpty_iff.mp hnil]
  case isFalse => simp

theorem trimStart_append_cons {c : Char} (hc : isBlank c = false) (s t : List Char) :
    trimStart (s ++ c :: t) = trimStart s ++ c :: t := by
  rw [trimStart, trimStart, List.dropWhile_append, List.dropWhile_cons_of_neg (by simp [hc])]
  split
  case isTrue hnil => simp [List.isEmpty_iff.mp hnil]
  case isFalse => rfl

/-- Trimming a text keeps the trimmed texts in it. -/
theorem IsTrimmed.infix_trim {s t : List Char} (hs : IsTrimmed s) (h : s <:+: t) :
    s <:+: trim t := by
  obtain ⟨before, after, rfl⟩ := h
  rcases List.eq_nil_or_concat' s with rfl | ⟨front, c, rfl⟩
  · exact List.nil_infix
  · have hc : isBlank c = false := hs.last c (by simp)
    obtain ⟨d, rest, hd⟩ := List.exists_cons_of_ne_nil (List.concat_ne_nil c front)
    have hblank : isBlank d = false := hs.head d (by simp [hd])
    have hstart : trimStart (before ++ (front ++ [c]) ++ after) =
        trimStart before ++ (front ++ [c]) ++ after := by
      rw [hd, List.append_assoc, List.cons_append, trimStart_append_cons hblank,
        List.append_assoc, List.cons_append]
    have hend : trimEnd (trimStart before ++ (front ++ [c]) ++ after) =
        trimStart before ++ (front ++ [c]) ++ trimEnd after := by
      have hassoc (rest : List Char) : trimStart before ++ (front ++ [c]) ++ rest =
          trimStart before ++ front ++ c :: rest := by simp
      rw [hassoc, trimEnd_append_cons hc, hassoc]
    rw [trim, hstart, hend]
    exact ⟨trimStart before, trimEnd after, rfl⟩

theorem trimEnd_concat_of_isBlank {c : Char} (hc : isBlank c = true) (s : List Char) :
    trimEnd (s ++ [c]) = trimEnd s := by
  rw [trimEnd, trimEnd, List.reverse_concat, List.dropWhile_cons_of_pos hc]

theorem trim_concat_of_isBlank {c : Char} (hc : isBlank c = true) (s : List Char) :
    trim (s ++ [c]) = trim s := by
  rw [trim, trim, trimStart, trimStart, List.dropWhile_append, List.dropWhile_cons_of_pos hc]
  split
  case isTrue hnil => rw [List.isEmpty_iff.mp hnil]; rfl
  case isFalse => exact trimEnd_concat_of_isBlank hc _

/-- Blanks at the ends do not count. -/
theorem trim_blanks_append {before after : List Char} (hbefore : ∀ c ∈ before, isBlank c = true)
    (hafter : ∀ c ∈ after, isBlank c = true) (s : List Char) :
    trim (before ++ s ++ after) = trim s := by
  have hend : trim (s ++ after) = trim s := by
    induction after using List.reverseRecOn with
    | nil => rw [List.append_nil]
    | append_singleton after c ih =>
      obtain ⟨hafter, hc⟩ := List.forall_mem_append.mp hafter
      rw [← List.append_assoc, trim_concat_of_isBlank (hc c List.mem_cons_self), ih hafter]
  induction before with
  | nil => exact hend
  | cons c before ih =>
    obtain ⟨hc, hbefore⟩ := List.forall_mem_cons.mp hbefore
    rw [List.cons_append, List.cons_append, trim_cons_of_isBlank hc, ih hbefore]

theorem trim_trimEnd (s : List Char) : trim (trimEnd s) = trim s := by
  induction s using List.reverseRecOn with
  | nil => rfl
  | append_singleton s c ih =>
    cases hc : isBlank c with
    | true => rw [trimEnd_concat_of_isBlank hc, trim_concat_of_isBlank hc, ih]
    | false => rw [trimEnd_append_cons hc]; rfl

/-- Trimming the start of a text with a trimmed end leaves blanks behind. -/
theorem exists_trimEnd_eq (s : List Char) :
    ∃ blanks, (∀ c ∈ blanks, isBlank c = true) ∧ trimEnd s = blanks ++ trim s := by
  refine ⟨(trimEnd s).takeWhile isBlank, fun c hc => List.mem_takeWhile_imp hc, ?_⟩
  have hlast : ∀ c ∈ (trimStart (trimEnd s)).getLast?, isBlank c = false := by
    intro c hc
    obtain ⟨front, hfront⟩ : trimStart (trimEnd s) <:+ trimEnd s := List.dropWhile_suffix isBlank
    refine last_trimEnd s c ?_
    rw [← hfront, List.getLast?_append, Option.mem_def.mp hc, Option.some_or]
    rfl
  rw [← trim_trimEnd, trim, trimEnd_of_last hlast, trimStart, List.takeWhile_append_dropWhile]

/-- Trimming takes nothing but blanks away. -/
theorem exists_eq_append_trim (s : List Char) : ∃ before after,
    (∀ c ∈ before ++ after, isBlank c = true) ∧ s = before ++ trim s ++ after := by
  obtain ⟨before, hbefore, htrim⟩ := exists_trimEnd_eq s
  refine ⟨before, (s.reverse.takeWhile isBlank).reverse, ?_, ?_⟩
  · rw [List.forall_mem_append]
    exact ⟨hbefore, fun c hc => List.mem_takeWhile_imp (List.mem_reverse.mp hc)⟩
  · rw [← htrim, trimEnd, ← List.reverse_append, List.takeWhile_append_dropWhile,
      List.reverse_reverse]

theorem trim_infix (s : List Char) : trim s <:+: s := by
  have hstart : trimStart s <:+ s := List.dropWhile_suffix isBlank
  have hend : trim s <+: trimStart s := by
    rw [trim, ← List.reverse_suffix, trimEnd, List.reverse_reverse]
    exact List.dropWhile_suffix isBlank
  exact hend.isInfix.trans hstart.isInfix

theorem isBlank_or_mem_trim {s : List Char} {c : Char} (h : c ∈ s) :
    isBlank c = true ∨ c ∈ trim s := by
  obtain ⟨before, after, hblank, hs⟩ := exists_eq_append_trim s
  rw [List.forall_mem_append] at hblank
  rw [hs, List.append_assoc, List.mem_append, List.mem_append] at h
  rcases h with h | h | h
  · exact .inl (hblank.1 c h)
  · exact .inr h
  · exact .inl (hblank.2 c h)

theorem trimEnd_of_isBlankText {s : List Char} (h : isBlankText s = true) : trimEnd s = [] := by
  rw [trimEnd, List.reverse_eq_nil_iff, List.dropWhile_eq_nil_iff]
  exact fun c hc => List.all_eq_true.mp h c (List.mem_reverse.mp hc)

theorem trim_eq_nil_iff {s : List Char} : trim s = [] ↔ isBlankText s = true := by
  constructor
  · intro h
    rw [isBlankText, List.all_eq_true]
    intro c hc
    rcases isBlank_or_mem_trim hc with hc | hc
    · exact hc
    · rw [h] at hc
      cases hc
  · intro h
    refine trimEnd_of_isBlankText (List.all_eq_true.mpr fun c hc => ?_)
    exact List.all_eq_true.mp h c ((List.dropWhile_suffix isBlank).mem hc)

/-! ### Squeezing -/

theorem squeezeFrom_cons {c : Char} (hc : isBlank c = false) (written afterBlank : Bool)
    (s : List Char) : squeezeFrom written afterBlank (c :: s) = c :: squeezeFrom true false s :=
  if_neg (Bool.eq_false_iff.mp hc)

theorem squeezeFrom_blank {c : Char} (hc : isBlank c = true) (written afterBlank : Bool)
    (s : List Char) : squeezeFrom written afterBlank (c :: s) =
      if afterBlank || !written then squeezeFrom written true s
      else ' ' :: squeezeFrom written true s :=
  if_pos hc

theorem squeezeFrom_append_cons {c : Char} (hc : isBlank c = false) (written afterBlank : Bool)
    (s t : List Char) : squeezeFrom written afterBlank (s ++ c :: t) =
      squeezeFrom written afterBlank s ++ c :: squeezeFrom true false t := by
  induction s generalizing written afterBlank with
  | nil => exact squeezeFrom_cons hc written afterBlank t
  | cons d s ih =>
    rw [List.cons_append]
    cases hd : isBlank d with
    | false => rw [squeezeFrom_cons hd, squeezeFrom_cons hd, ih true false, List.cons_append]
    | true =>
      rw [squeezeFrom_blank hd, squeezeFrom_blank hd]
      split
      · exact ih written true
      · rw [ih written true, List.cons_append]

theorem squeezeFrom_of_forall {s : List Char} (h : ∀ c ∈ s, isBlank c = false)
    (written afterBlank : Bool) : squeezeFrom written afterBlank s = s := by
  induction s generalizing written afterBlank with
  | nil => rfl
  | cons c s ih =>
    obtain ⟨hc, hs⟩ := List.forall_mem_cons.mp h
    rw [squeezeFrom_cons hc, ih hs]

theorem isBlankText_squeezeFrom {s : List Char} (h : isBlankText s = true)
    (written afterBlank : Bool) : isBlankText (squeezeFrom written afterBlank s) = true := by
  induction s generalizing afterBlank with
  | nil => rfl
  | cons c s ih =>
    obtain ⟨hc, hs⟩ := Bool.and_eq_true_iff.mp h
    rw [squeezeFrom_blank hc]
    split
    · exact ih hs true
    · rw [isBlankText, List.all_cons]
      exact Bool.and_eq_true_iff.mpr ⟨by decide, ih hs true⟩

/-- A text starts afresh behind a blank. -/
theorem squeezeFrom_false (afterBlank : Bool) (s : List Char) :
    squeezeFrom false afterBlank s = squeezeFrom true true s := by
  induction s generalizing afterBlank with
  | nil => rfl
  | cons c s ih =>
    cases hc : isBlank c with
    | false => rw [squeezeFrom_cons hc, squeezeFrom_cons hc]
    | true => simpa [squeezeFrom_blank hc] using ih true

theorem trimStart_squeezeFrom_true (s : List Char) :
    trimStart (squeezeFrom true true s) = squeezeFrom true true s := by
  induction s with
  | nil => rfl
  | cons c s ih =>
    cases hc : isBlank c with
    | false => rw [squeezeFrom_cons hc, trimStart, List.dropWhile_cons_of_neg (by simp [hc])]
    | true => simpa [squeezeFrom_blank hc] using ih

theorem squeeze_eq_trimEnd (s : List Char) : squeeze s = trimEnd (squeezeFrom false false s) := by
  rw [squeeze, trim, squeezeFrom_false, trimStart_squeezeFrom_true]

/-- What stands in front of a text matters only for its blanks at the ends. -/
theorem trim_squeezeFrom (written afterBlank : Bool) (s : List Char) :
    trim (squeezeFrom written afterBlank s) = squeeze s := by
  rw [squeeze, squeezeFrom_false]
  cases written with
  | false => rw [squeezeFrom_false]
  | true =>
    cases afterBlank with
    | true => rfl
    | false =>
      cases s with
      | nil => rfl
      | cons c s =>
        cases hc : isBlank c with
        | false => rw [squeezeFrom_cons hc, squeezeFrom_cons hc]
        | true =>
          have hspace : isBlank ' ' = true := by decide
          simp [squeezeFrom_blank hc, trim_cons_of_isBlank hspace]

theorem squeeze_cons_of_isBlank {c : Char} (hc : isBlank c = true) (s : List Char) :
    squeeze (c :: s) = squeeze s := by
  rw [← trim_squeezeFrom true true, ← trim_squeezeFrom true true s, squeezeFrom_blank hc]
  rfl

theorem squeeze_of_forall {s : List Char} (h : ∀ c ∈ s, isBlank c = false) : squeeze s = s := by
  rw [squeeze, squeezeFrom_of_forall h, trim_eq_self_iff.mpr (.of_forall h)]

end PageModules.Chars

namespace PageModules.Text

/-! ### Strings -/

theorem dropPiece?_eq_some_iff {piece s t : String} :
    dropPiece? piece s = some t ↔ s = piece ++ t := by
  rw [dropPiece?, Option.map_eq_some_iff]
  constructor
  · rintro ⟨cs, hcs, rfl⟩
    rw [← String.toList_inj, String.toList_append, String.toList_ofList]
    exact (List.isPrefixOf?_eq_some_iff_append_eq.mp hcs).symm
  · rintro rfl
    exact ⟨t.toList, List.isPrefixOf?_eq_some_iff_append_eq.mpr String.toList_append.symm,
      String.ofList_toList⟩

end PageModules.Text
