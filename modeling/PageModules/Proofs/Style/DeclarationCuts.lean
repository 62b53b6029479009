import PageModules.Proofs.Style.Declarations
import PageModules.Proofs.Text.Parentheses

/-!
# Cuts between declarations

A place in a style text is outside if all quotes in front of it are closed and, of the parentheses
that are not quoted, none is open (`Style.IsOutside`).  A text is cut exactly at the semicolons that
stand outside, and with semicolons between them the pieces are the text again
(`Style.exists_isDeclarationCut`); only a blank piece at the end is left out.

The scan keeps what is open at each place.  Read over a text in front of a place, this is nothing
exactly if the place is outside (`Style.isOutside_foldl_step_iff`).
-/

namespace PageModules.Style

open Chars (turn)

/-! ### Places outside -/

/-- A text that closes the quotes that it opens, and what of it stands outside of them. -/
inductive IsUnquoted : (s plain : List Char) → Prop
  /-- The empty text. -/
  | nil : IsUnquoted [] []
  /-- A character that is no quote stands outside. -/
  | char {c : Char} {s plain : List Char} (hc : ¬(c = '"' ∨ c = '\'')) (hs : IsUnquoted s plain) :
      IsUnquoted (c :: s) (c :: plain)
  /-- A quoted text does not. -/
  | quoted {q : Char} {t s plain : List Char} (hq : q = '"' ∨ q = '\'') (ht : q ∉ t)
      (hs : IsUnquoted s plain) : IsUnquoted (q :: t ++ q :: s) plain

/-- The number of parentheses that are open behind a character; closing one where none is open
changes nothing. -/
def clippedTurn (depth : ℕ) (c : Char) : ℕ := (depth + turn c).toNat

/-- The number of parentheses that are open behind a text, never below zero. -/
def clippedDepth (s : List Char) : ℕ := s.foldl clippedTurn 0

/-- The place behind a text is outside of quotes and parentheses. -/
def IsOutside (s : List Char) : Prop := ∃ plain, IsUnquoted s plain ∧ clippedDepth plain = 0

theorem Nesting.step_of_not_quote {c : Char} (hc : ¬(c = '"' ∨ c = '\'')) (depth : ℕ) :
    Nesting.step ⟨depth, none⟩ c = ⟨clippedTurn depth c, none⟩ := by
  unfold Nesting.step
  rw [if_neg hc]
  simp only [Option.isSome_none, Bool.false_eq_true, ↓reduceIte, clippedTurn]
  split
  case isTrue hopen =>
    rw [hopen, Chars.turn_open]
    congr
  case isFalse hopen =>
    split
    case isTrue hclose =>
      rw [hclose, Chars.turn_close]
      congr 1
      omega
    case isFalse hclose =>
      rw [Chars.turn_eq_zero hopen hclose, add_zero, Int.toNat_natCast]

/-- Within quotes all goes on up to the quote that closes them. -/
theorem Nesting.foldl_step_within {q : Char} {t : List Char} (ht : q ∉ t) (depth : ℕ) :
    t.foldl Nesting.step ⟨depth, some q⟩ = ⟨depth, some q⟩ := by
  induction t with
  | nil => rfl
  | cons c t ih =>
    rw [List.mem_cons, not_or] at ht
    rw [List.foldl_cons, Nesting.step_within ht.1, ih ht.2]

theorem Nesting.foldl_step_quoted {q : Char} (hq : q = '"' ∨ q = '\'') {t : List Char}
    (ht : q ∉ t) (depth : ℕ) (s : List Char) :
    (q :: t ++ q :: s).foldl Nesting.step ⟨depth, none⟩ = s.foldl Nesting.step ⟨depth, none⟩ := by
  rw [List.cons_append, List.foldl_cons, Nesting.step_quote hq, List.foldl_append,
    Nesting.foldl_step_within ht, List.foldl_cons, Nesting.step_endQuote hq]

theorem IsUnquoted.foldl_step {s plain : List Char} (h : IsUnquoted s plain) (depth : ℕ) :
    s.foldl Nesting.step ⟨depth, none⟩ = ⟨plain.foldl clippedTurn depth, none⟩ := by
  induction h generalizing depth with
  | nil => rfl
  | char hc _ ih => rw [List.foldl_cons, Nesting.step_of_not_quote hc, ih, List.foldl_cons]
  | quoted hq ht _ ih => rw [Nesting.foldl_step_quoted hq ht, ih]

/-- Where no quote is open, all quotes in front are closed. -/
theorem exists_isUnquoted {s : List Char} {depth : ℕ}
    (h : (s.foldl Nesting.step ⟨depth, none⟩).quote = none) : ∃ plain, IsUnquoted s plain := by
  induction hlength : s.length using Nat.strong_induction_on generalizing s depth with
  | _ length ih =>
    cases s with
    | nil => exact ⟨[], .nil⟩
    | cons c s =>
      by_cases hc : c = '"' ∨ c = '\''
      · -- The quotes are closed somewhere, and the rest begins behind the first such place.
        have hmem : c ∈ s := by
          by_contra hmem
          rw [List.foldl_cons, Nesting.step_quote hc, Nesting.foldl_step_within hmem] at h
          cases h
        obtain ⟨t, rest, rfl, ht⟩ := List.eq_append_cons_of_mem hmem
        rw [← List.cons_append, Nesting.foldl_step_quoted hc ht] at h
        have hshorter : rest.length < length := by
          rw [← hlength]
          simp
          omega
        obtain ⟨plain, hrest⟩ := ih rest.length hshorter h rfl
        exact ⟨plain, .quoted hc ht hrest⟩
      · rw [List.foldl_cons, Nesting.step_of_not_quote hc] at h
        obtain ⟨plain, hs⟩ := ih s.length (by rw [← hlength]; simp) h rfl
        exact ⟨c :: plain, .char hc hs⟩

/-- What is open behind a text says whether the place there is outside. -/
theorem isOutside_foldl_step_iff {s : List Char} :
    (s.foldl Nesting.step .outside).isOutside = true ↔ IsOutside s := by
  rw [Nesting.outside]
  constructor
  · intro h
    rw [Nesting.isOutside, Bool.and_eq_true, decide_eq_true_eq, Option.isNone_iff_eq_none] at h
    obtain ⟨plain, hs⟩ := exists_isUnquoted h.2
    rw [hs.foldl_step] at h
    exact ⟨plain, hs, h.1⟩
  · rintro ⟨plain, hs, hdepth⟩
    rw [hs.foldl_step, Nesting.isOutside, Bool.and_eq_true, decide_eq_true_eq]
    exact ⟨hdepth, rfl⟩

/-! ### Cuts -/

/-- The pieces are cut between the texts in front of a semicolon and behind it. -/
def IsCutAt (pieces : List (List Char)) (front back : List Char) : Prop :=
  ∃ before after, pieces = before ++ after ∧ before ≠ [] ∧ after ≠ [] ∧
    [';'].intercalate before = front ∧ [';'].intercalate after = back

/-- The pieces of a text between the semicolons that stand outside of quotes and parentheses. -/
structure IsDeclarationCut (s : List Char) (pieces : List (List Char)) : Prop where
  /-- With semicolons between them the pieces are the text. -/
  intercalate_eq : [';'].intercalate pieces = s
  /-- There is a cut at a semicolon exactly if it stands outside. -/
  isCutAt_iff : ∀ front back, s = front ++ ';' :: back →
    (IsCutAt pieces front back ↔ IsOutside front)

theorem intercalate_eq_append (piece : List Char) (rest : List (List Char)) :
    ∃ back, [';'].intercalate (piece :: rest) = piece ++ back := by
  cases rest with
  | nil => exact ⟨[], by rw [List.intercalate_singleton, List.append_nil]⟩
  | cons next rest => exact ⟨_, Lists.intercalate_cons (List.cons_ne_nil next rest) ';' piece⟩

/-- The pieces of a text behind the start of the first piece, where `n` says what is open. -/
structure IsCutFrom (n : Nesting) (start s : List Char) (pieces : List (List Char)) : Prop where
  /-- The first piece begins with its start. -/
  first : ∃ piece rest, pieces = (start ++ piece) :: rest
  /-- With semicolons between them the pieces are the text. -/
  intercalate_eq : [';'].intercalate pieces = start ++ s
  /-- There is a cut at a semicolon exactly if nothing is open in front of it. -/
  isCutAt_iff : ∀ front back, s = front ++ ';' :: back →
    (IsCutAt pieces (start ++ front) back ↔ (front.foldl Nesting.step n).isOutside = true)

/-- There is no cut in the start of a piece. -/
theorem IsCutFrom.not_isCutAt {n : Nesting} {start s : List Char} {c : Char}
    {pieces : List (List Char)} (h : IsCutFrom n (start ++ [c]) s pieces) (back : List Char) :
    ¬IsCutAt pieces start back := by
  rintro ⟨before, after, hpieces, hne, -, hfront, -⟩
  obtain ⟨piece, rest, hfirst⟩ := h.first
  obtain ⟨head, before, rfl⟩ := List.exists_cons_of_ne_nil hne
  obtain ⟨rfl, -⟩ := List.cons.inj (hpieces.symm.trans hfirst)
  obtain ⟨tail, htail⟩ := intercalate_eq_append (start ++ [c] ++ piece) before
  have hlength := congrArg List.length (htail.symm.trans hfront)
  simp at hlength

/-- A character that does not end the piece is added to its start. -/
theorem IsCutFrom.read {n : Nesting} {start s : List Char} {c : Char} {pieces : List (List Char)}
    (hc : ¬(decide (c = ';') && n.isOutside) = true)
    (h : IsCutFrom (n.step c) (start ++ [c]) s pieces) : IsCutFrom n start (c :: s) pieces where
  first := by
    obtain ⟨piece, rest, hfirst⟩ := h.first
    exact ⟨c :: piece, rest, by simpa using hfirst⟩
  intercalate_eq := by simpa using h.intercalate_eq
  isCutAt_iff := by
    intro front back hs
    cases front with
    | nil =>
      obtain ⟨rfl, rfl⟩ := List.cons.inj hs
      rw [List.append_nil]
      exact iff_of_false (h.not_isCutAt s) (by simpa using hc)
    | cons d front =>
      obtain ⟨rfl, rfl⟩ := List.cons.inj hs
      have hcut := h.isCutAt_iff front back rfl
      rwa [List.append_assoc] at hcut

/-- Behind the first piece the pieces are cut as without it. -/
theorem isCutAt_cons_iff {pieces : List (List Char)} {start front back : List Char} :
    IsCutAt (start :: pieces) (start ++ ';' :: front) back ↔ IsCutAt pieces front back := by
  constructor
  · rintro ⟨before, after, hpieces, hne, hafter, hfront, hback⟩
    obtain ⟨head, before, rfl⟩ := List.exists_cons_of_ne_nil hne
    obtain ⟨rfl, rfl⟩ := List.cons.inj hpieces
    have hbefore : before ≠ [] := by
      rintro rfl
      have hlength := congrArg List.length (List.intercalate_singleton.symm.trans hfront)
      simp at hlength
    rw [Lists.intercalate_cons hbefore, List.append_cancel_left_eq] at hfront
    exact ⟨before, after, rfl, hbefore, hafter, (List.cons.inj hfront).2, hback⟩
  · rintro ⟨before, after, rfl, hne, hafter, rfl, hback⟩
    exact ⟨start :: before, after, rfl, List.cons_ne_nil _ _, hafter,
      Lists.intercalate_cons hne ';' start, hback⟩

/-- A semicolon outside ends a piece. -/
theorem IsCutFrom.cut {n : Nesting} {s : List Char} {pieces : List (List Char)}
    (hn : n.isOutside = true) (h : IsCutFrom n [] s pieces) (start : List Char) :
    IsCutFrom n start (';' :: s) (start :: pieces) := by
  obtain ⟨piece, rest, hfirst⟩ := h.first
  have hne : pieces ≠ [] := hfirst ▸ List.cons_ne_nil _ _
  refine ⟨⟨[], pieces, by rw [List.append_nil]⟩, ?_, ?_⟩
  · rw [Lists.intercalate_cons hne, h.intercalate_eq]
    rfl
  intro front back hs
  cases front with
  | nil =>
    obtain ⟨-, rfl⟩ := List.cons.inj hs
    rw [List.append_nil]
    exact iff_of_true
      ⟨[start], pieces, rfl, by simp, hne, List.intercalate_singleton, h.intercalate_eq⟩ hn
  | cons d front =>
    obtain ⟨rfl, rfl⟩ := List.cons.inj hs
    have hstep : n.step ';' = n := Nesting.step_of_not_mem (by decide) n
    rw [isCutAt_cons_iff, List.foldl_cons, hstep, ← h.isCutAt_iff front back rfl, List.nil_append]

theorem isCutFrom_nil (n : Nesting) (start : List Char) : IsCutFrom n start [] [start] where
  first := ⟨[], [], by rw [List.append_nil]⟩
  intercalate_eq := by rw [List.intercalate_singleton, List.append_nil]
  isCutAt_iff front back hs := absurd hs (by simp)

/-- The piece that is being read goes on to the next semicolon outside, and a blank piece at the
end is left out. -/
theorem exists_isCutFrom (n : Nesting) (piece s : List Char) :
    ∃ pieces last, IsCutFrom n piece.reverse s (pieces ++ [last]) ∧
      splitDeclarationsFrom n piece s =
        if Chars.isBlankText last then pieces else pieces ++ [last] := by
  induction s generalizing n piece with
  | nil =>
    refine ⟨[], piece.reverse, isCutFrom_nil n piece.reverse, ?_⟩
    rw [splitDeclarationsFrom, Chars.isBlankText, Chars.isBlankText, List.all_reverse]
    rfl
  | cons c s ih =>
    rw [splitDeclarationsFrom]
    split
    case isTrue hcut =>
      obtain ⟨rfl, hn⟩ : c = ';' ∧ n.isOutside = true := by simpa using hcut
      obtain ⟨pieces, last, hpieces, heq⟩ := ih n []
      refine ⟨piece.reverse :: pieces, last, hpieces.cut hn piece.reverse, ?_⟩
      rw [heq]
      split <;> rfl
    case isFalse hread =>
      obtain ⟨pieces, last, hpieces, heq⟩ := ih (n.step c) (c :: piece)
      rw [List.reverse_cons] at hpieces
      exact ⟨pieces, last, hpieces.read hread, heq⟩

/-- **A text is cut at its semicolons outside of quotes and parentheses**, and nowhere else.  With
semicolons between them the pieces are the text; a blank piece at the end is left out. -/
theorem exists_isDeclarationCut (s : List Char) :
    ∃ pieces last, IsDeclarationCut s (pieces ++ [last]) ∧
      splitDeclarations s = if Chars.isBlankText last then pieces else pieces ++ [last] := by
  obtain ⟨pieces, last, hpieces, heq⟩ := exists_isCutFrom .outside [] s
  refine ⟨pieces, last, ⟨hpieces.intercalate_eq, fun front back hs => ?_⟩, heq⟩
  rw [← isOutside_foldl_step_iff, ← hpieces.isCutAt_iff front back hs]
  rfl

example : splitDeclarations "a:)';)';b:(;)\";\"; ".toList =
    ["a:)';)'".toList, "b:(;)\";\"".toList] := by decide

end PageModules.Style
