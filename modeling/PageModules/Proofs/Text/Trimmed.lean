import PageModules.Proofs.Text.Classes
import PageModules.Style.Nesting

/-!
# Trimmed text

A text is trimmed if there is no blank at either end (`Chars.IsTrimmed`).  Trimming gives a trimmed
text and leaves one as it is, so a text is trimmed exactly if trimming changes nothing
(`Chars.trim_eq_self_iff`).  Trimmed pieces put together are trimmed, and so are the tokens of a
trimmed text (`Style.isTrimmed_of_mem_splitTokens`).
-/

namespace PageModules

open Text (isBlank)

namespace Chars

/-! ### Ends -/

/-- Neither the first nor the last character is a blank. -/
structure IsTrimmed (s : List Char) : Prop where
  /-- The first character is no blank. -/
  head : ∀ c ∈ s.head?, isBlank c = false
  /-- The last character is no blank. -/
  last : ∀ c ∈ s.getLast?, isBlank c = false

theorem isTrimmed_nil : IsTrimmed [] := ⟨by simp, by simp⟩

theorem IsTrimmed.of_forall {s : List Char} (h : ∀ c ∈ s, isBlank c = false) : IsTrimmed s :=
  ⟨fun c hc => h c (List.mem_of_mem_head? hc), fun c hc => h c (List.mem_of_mem_getLast? hc)⟩

theorem IsTrimmed.append {s t : List Char} (hs : IsTrimmed s) (ht : IsTrimmed t) :
    IsTrimmed (s ++ t) := by
  constructor
  · intro c hc
    rw [List.head?_append, Option.mem_def, Option.or_eq_some_iff] at hc
    rcases hc with hc | ⟨-, hc⟩
    · exact hs.head c hc
    · exact ht.head c hc
  · intro c hc
    rw [List.getLast?_append, Option.mem_def, Option.or_eq_some_iff] at hc
    rcases hc with hc | ⟨-, hc⟩
    · exact ht.last c hc
    · exact hs.last c hc

/-- What stands between two trimmed texts does not count. -/
theorem IsTrimmed.between {s t : List Char} (hs : IsTrimmed s) (hs' : s ≠ []) (ht : IsTrimmed t)
    (ht' : t ≠ []) (inner : List Char) : IsTrimmed (s ++ inner ++ t) := by
  constructor
  · intro c hc
    obtain ⟨d, rest, rfl⟩ := List.exists_cons_of_ne_nil hs'
    exact hs.head c hc
  · intro c hc
    rw [List.getLast?_append_of_ne_nil _ ht'] at hc
    exact ht.last c hc

theorem IsTrimmed.lowercase {s : List Char} (h : IsTrimmed s) : IsTrimmed (lowercase s) := by
  unfold Chars.lowercase
  constructor
  · intro c hc
    rw [List.head?_map, Option.mem_def, Option.map_eq_some_iff] at hc
    obtain ⟨d, hd, rfl⟩ := hc
    rw [Text.isBlank_lower]
    exact h.head d hd
  · intro c hc
    rw [List.getLast?_map, Option.mem_def, Option.map_eq_some_iff] at hc
    obtain ⟨d, hd, rfl⟩ := hc
    rw [Text.isBlank_lower]
    exact h.last d hd

/-- Pieces that are trimmed and not empty are trimmed when they are joined. -/
theorem isTrimmed_intercalate {separator : List Char} {pieces : List (List Char)}
    (h : ∀ p ∈ pieces, IsTrimmed p ∧ p ≠ []) : IsTrimmed (separator.intercalate pieces) := by
  induction pieces with
  | nil => exact isTrimmed_nil
  | cons p rest ih =>
    obtain ⟨hp, hrest⟩ := List.forall_mem_cons.mp h
    cases rest with
    | nil =>
      rw [List.intercalate_singleton]
      exact hp.1
    | cons q rest =>
      have hne : separator.intercalate (q :: rest) ≠ [] := by
        have hq : q ≠ [] := (hrest q List.mem_cons_self).2
        cases rest <;> simp [List.intercalate, hq]
      rw [List.intercalate_cons_cons]
      exact hp.1.between hp.2 (ih hrest) hne separator

/-! ### Trimming -/

theorem trimStart_of_head {s : List Char} (h : ∀ c ∈ s.head?, isBlank c = false) :
    trimStart s = s := by
  cases s with
  | nil => rfl
  | cons c s =>
    have hc : isBlank c = false := h c rfl
    rw [trimStart, List.dropWhile_cons_of_neg (by simp [hc])]

theorem trimEnd_of_last {s : List Char} (h : ∀ c ∈ s.getLast?, isBlank c = false) :
    trimEnd s = s := by
  rw [← List.head?_reverse] at h
  have hreverse : trimStart s.reverse = s.reverse := trimStart_of_head h
  rw [trimEnd, ← trimStart, hreverse, List.reverse_reverse]

theorem head_trimStart (s : List Char) : ∀ c ∈ (trimStart s).head?, isBlank c = false := by
  intro c hc
  have := List.head?_dropWhile_not isBlank s
  unfold trimStart at hc
  rw [Option.mem_def] at hc
  rw [hc] at this
  simpa using this

/-- Trimming an end does not bring another first character forward. -/
theorem head?_trimEnd {s : List Char} {c : Char} (h : c ∈ (trimEnd s).head?) : c ∈ s.head? := by
  obtain ⟨t, ht⟩ : trimEnd s <+: s := by
    rw [← List.reverse_suffix, trimEnd, List.reverse_reverse]
    exact List.dropWhile_suffix isBlank
  rw [← ht, List.head?_append, Option.mem_def.mp h]
  rfl

theorem last_trimEnd (s : List Char) : ∀ c ∈ (trimEnd s).getLast?, isBlank c = false := by
  intro c hc
  rw [trimEnd, List.getLast?_reverse] at hc
  exact head_trimStart s.reverse c hc

theorem isTrimmed_trim (s : List Char) : IsTrimmed (trim s) :=
  ⟨fun c hc => head_trimStart s c (head?_trimEnd hc), last_trimEnd (trimStart s)⟩

/-- Trimming changes exactly the texts that are not trimmed. -/
theorem trim_eq_self_iff {s : List Char} : trim s = s ↔ IsTrimmed s := by
  constructor
  · intro h
    exact h ▸ isTrimmed_trim s
  · intro h
    rw [trim, trimStart_of_head h.head, trimEnd_of_last h.last]

end Chars

/-! ### Tokens -/

namespace Style

open Chars (IsTrimmed)

/-- The token that is being read starts with no blank and, outside of parentheses, ends with none;
`token` has its last character first. -/
structure IsReading (depth : ℕ) (token : List Char) : Prop where
  /-- Nothing is read inside of parentheses without the parenthesis that opens them. -/
  depth_eq : token = [] → depth = 0
  /-- The first character is no blank. -/
  first : ∀ c ∈ token.getLast?, isBlank c = false
  /-- Outside of parentheses, the last character is no blank. -/
  last : depth = 0 → ∀ c ∈ token.head?, isBlank c = false

theorem isReading_nil : IsReading 0 [] := ⟨fun _ => rfl, by simp, by simp⟩

/-- A character that is no blank can be read at any place. -/
theorem IsReading.cons {depth : ℕ} {token : List Char} (h : IsReading depth token) {c : Char}
    (hc : isBlank c = false) (depth' : ℕ) : IsReading depth' (c :: token) := by
  refine ⟨fun hnil => absurd hnil (List.cons_ne_nil c token), fun d hd => ?_, fun _ d hd => ?_⟩
  · rw [List.getLast?_cons, Option.mem_some_iff] at hd
    cases hlast : token.getLast? with
    | none => rwa [← hd, hlast]
    | some e =>
      rw [hlast] at hd
      exact hd ▸ h.first e hlast
  · rwa [← Option.some.inj hd]

/-- Any character can be read inside of parentheses. -/
theorem IsReading.cons_inside {depth : ℕ} {token : List Char} (h : IsReading depth token)
    (hdepth : depth ≠ 0) (c : Char) : IsReading depth (c :: token) := by
  have hne : token ≠ [] := fun hnil => hdepth (h.depth_eq hnil)
  refine ⟨fun hnil => absurd hnil (List.cons_ne_nil c token), fun d hd => ?_, fun hzero => ?_⟩
  · rw [List.getLast?_cons_of_ne_nil hne] at hd
    exact h.first d hd
  · exact absurd hzero hdepth

/-- The tokens from a place on are trimmed, if the text ends with no blank. -/
theorem isTrimmed_of_mem_splitTokensFrom {depth : ℕ} {token s : List Char}
    (h : IsReading depth token) (hend : ∀ c ∈ s.getLast?.or token.head?, isBlank c = false) :
    ∀ t ∈ splitTokensFrom depth token s, IsTrimmed t ∧ t ≠ [] := by
  induction s generalizing depth token with
  | nil =>
    rw [List.getLast?_nil, Option.none_or] at hend
    rcases token with _ | ⟨c, token⟩
    · simp [splitTokensFrom]
    · intro t ht
      obtain rfl := List.mem_singleton.mp ht
      exact ⟨⟨by rw [List.head?_reverse]; exact h.first, by rwa [List.getLast?_reverse]⟩, by simp⟩
  | cons c s ih =>
    -- The end of the text is no blank, whether this character is read or dropped.
    have hread : ∀ d ∈ s.getLast?.or (some c), isBlank d = false := by
      intro d hd
      refine hend d ?_
      rw [List.getLast?_cons, Option.some_or]
      cases hs : s.getLast? <;> simpa [hs] using hd
    have hskip : ∀ d ∈ s.getLast?.or none, isBlank d = false := by
      intro d hd
      rw [Option.or_none] at hd
      exact hread d (by rw [Option.mem_def.mp hd]; rfl)
    have hparen : isBlank '(' = false ∧ isBlank ')' = false := by decide
    rw [splitTokensFrom]
    split
    case isTrue hopen => exact ih (h.cons (hopen ▸ hparen.1) _) hread
    case isFalse =>
    split
    case isTrue hclose =>
      rcases token with _ | ⟨d, token⟩
      · rw [h.depth_eq rfl]
        exact ih isReading_nil hskip
      · exact ih (h.cons (hclose ▸ hparen.2) _) hread
    case isFalse =>
    split
    case isTrue hblank =>
      rw [Bool.and_eq_true, decide_eq_true_eq] at hblank
      have hrest := ih isReading_nil hskip
      rcases token with _ | ⟨d, token⟩
      · exact hrest
      · refine List.forall_mem_cons.mpr ⟨⟨⟨?_, ?_⟩, by simp⟩, hrest⟩
        · rw [List.head?_reverse]
          exact h.first
        · rw [List.getLast?_reverse]
          exact h.last hblank.2
    case isFalse hblank =>
      rw [Bool.and_eq_true, decide_eq_true_eq, not_and] at hblank
      -- A blank that does not end the token stands inside of parentheses.
      cases hc : isBlank c with
      | false => exact ih (h.cons hc _) hread
      | true => exact ih (h.cons_inside (hblank hc) c) hread

/-- The tokens of a trimmed text are trimmed, and none is empty. -/
theorem isTrimmed_of_mem_splitTokens {s t : List Char} (hs : IsTrimmed s)
    (ht : t ∈ splitTokens s) : IsTrimmed t ∧ t ≠ [] :=
  isTrimmed_of_mem_splitTokensFrom isReading_nil (by simpa using hs.last) t ht

end Style

end PageModules
