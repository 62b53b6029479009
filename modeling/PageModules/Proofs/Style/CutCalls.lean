import PageModules.Proofs.Style.Idempotence
import PageModules.Proofs.Text.Captures

/-!
# Calls up to their first closing parenthesis

A colour function and an address are read up to the first closing parenthesis.  So they are balanced
unless they are cut in front of a further one (`Shorthand.IsCutCall`), and such a text is a part of
one with parentheses in others (`Chars.Nests`).  What a shorthand puts away before it looks for its
values does not bring parentheses into others either (`Shorthand.exists_of_findGradient?`,
`Shorthand.nests_of_removeAll`).
-/

namespace PageModules

open Text.Pattern
open Chars (Balanced IsFlat Nests depth)

/-! ### Patterns without parentheses -/

/-- Whether the pattern reads no parentheses. -/
def Text.Pattern.isFlat (p : Text.Pattern) : Bool := p.excludes '(' && p.excludes ')'

/-- Whether the pattern keeps no parentheses. -/
def Text.Pattern.keepsFlat (p : Text.Pattern) : Bool := p.keepsNo '(' && p.keepsNo ')'

theorem isFlat_of_reads {p : Text.Pattern} (hp : p.isFlat = true) {s : List Char}
    (hs : p.Reads s) : IsFlat s := by
  obtain ⟨hopen, hclose⟩ := Bool.and_eq_true_iff.mp hp
  exact ⟨not_mem_of_reads hopen hs, not_mem_of_reads hclose hs⟩

theorem isFlat_of_find? {p : Text.Pattern} (hp : p.keepsFlat = true) {s t : List Char}
    {m : Match} {i : ℕ} (hm : p.find? s = some m) (ht : m.group? i = some t) : IsFlat t := by
  obtain ⟨hopen, hclose⟩ := Bool.and_eq_true_iff.mp hp
  have hkeeps := keeps_of_find? hm ht
  exact ⟨not_mem_of_keeps hopen hkeeps, not_mem_of_keeps hclose hkeeps⟩

namespace Shorthand

/-- A call whose text ends at the first closing parenthesis, behind further opening ones. -/
def IsCutCall (s : List Char) : Prop :=
  ∃ name inner, s = name ++ '(' :: (inner ++ [')']) ∧ IsFlat name ∧ '(' ∈ inner ∧ ')' ∉ inner

theorem IsCutCall.not_balanced {s : List Char} (h : IsCutCall s) : ¬Balanced s := by
  obtain ⟨name, inner, rfl, hname, hopen, hclose⟩ := h
  intro hbalanced
  have hdepth := hbalanced.depth
  have hpos := Chars.depth_pos hopen hclose
  rw [Chars.depth_append, hname.depth_eq_zero, Chars.depth_cons, Chars.depth_append,
    Chars.depth_cons, Chars.depth_nil, Chars.turn_open, Chars.turn_close] at hdepth
  omega

theorem IsCutCall.nests {s : List Char} (h : IsCutCall s) : Nests s := by
  obtain ⟨name, inner, rfl, -, hopen, hclose⟩ := h
  exact (Chars.nests_cons_open hopen hclose).mono ⟨name, [')'], by simp⟩

/-- A call up to its first closing parenthesis is balanced, or it is cut short. -/
theorem balanced_or_isCutCall {name inner : List Char} (hname : IsFlat name)
    (hinner : ')' ∉ inner) : Balanced (name ++ '(' :: (inner ++ [')'])) ∨
      IsCutCall (name ++ '(' :: (inner ++ [')'])) := by
  by_cases hopen : '(' ∈ inner
  · exact .inr ⟨name, inner, rfl, hname, hopen, hinner⟩
  · have hflat : IsFlat inner := ⟨hopen, hinner⟩
    exact .inl (hname.balanced.append hflat.balanced.group)

/-! ### Colours -/

/-- A colour function ends at its first closing parenthesis. -/
theorem balanced_or_isCutCall_of_functionPattern {name : String}
    (hname : (folded name).isFlat = true) {s : List Char}
    (hs : (Color.functionPattern name).Reads s) : Balanced s ∨ IsCutCall s := by
  obtain ⟨start, _, rfl, hstart, a, _, rfl, ha, gap, _, rfl, hgap, _, _, rfl, hopen, inner, _, rfl,
    ⟨hinner, -⟩, _, _, rfl, hclose, rfl⟩ := hs
  obtain rfl := reads_text.mp hopen
  obtain rfl := reads_text.mp hclose
  have hfront : IsFlat (start ++ (a ++ gap)) := by
    have hstart := isFlat_of_reads hname hstart
    have ha := isFlat_of_reads (p := optional (folded "a")) (by decide) ha
    exact hstart.append (ha.append (Chars.isFlat_of_isBlank hgap.1))
  have hinner : ')' ∉ inner := fun hmem => absurd (hinner _ hmem) (by decide)
  simpa using balanced_or_isCutCall hfront hinner

theorem balanced_or_isCutCall_of_functionalPattern {s : List Char}
    (hs : Color.functionalPattern.Reads s) : Balanced s ∨ IsCutCall s := by
  rcases hs with hs | hs | hs
  · exact .inl (isFlat_of_reads (by decide) hs).balanced
  · exact balanced_or_isCutCall_of_functionPattern (by decide) hs
  · exact balanced_or_isCutCall_of_functionPattern (by decide) hs

theorem isFlat_of_mem_names {name : String} (h : name ∈ Color.names) : IsFlat name.toList := by
  have hnames : (Color.names.all fun name =>
      Text.isAscii name && (Text.bytes name).all fun b => b != 40 && b != 41) = true := by
    decide +kernel
  have hname := List.all_eq_true.mp hnames name h
  obtain ⟨hascii, hbytes⟩ := Bool.and_eq_true_iff.mp hname
  exact Chars.isFlat_of_bytes hascii hbytes

/-- A match that is cut in front of a further parenthesis is a part of the text. -/
theorem nests_of_find? {p : Text.Pattern} {s : List Char} {m : Match} (hm : p.find? s = some m)
    (h : IsCutCall m.text) : Nests s :=
  h.nests.mono ⟨m.before, m.after, by rw [List.append_assoc, ← (takes_of_find? hm).1]⟩

theorem balanced_or_isCutCall_of_find?_color {s color : List Char}
    (h : Color.find? s = some color) : Balanced color ∨ IsCutCall color ∧ Nests s := by
  obtain ⟨m, hm, rfl⟩ := Option.map_eq_some_iff.mp h
  rcases reads_of_find? hm with hread | hread
  · exact (balanced_or_isCutCall_of_functionalPattern hread).imp_right fun hcut =>
      ⟨hcut, nests_of_find? hm hcut⟩
  · obtain ⟨name, hname, hfold⟩ := reads_foldedChoice.mp (reads_wordOf.mp hread)
    have hflat : IsFlat m.text := by
      refine .of_forall fun c hc => ?_
      rw [← Chars.turn_foldCase]
      refine (isFlat_of_mem_names hname).turn_eq_zero ?_
      rw [← hfold]
      exact List.mem_map_of_mem hc
    exact .inl hflat.balanced

theorem isFlat_of_isNamed {s : List Char} (h : Color.isNamed s = true) : IsFlat s := by
  obtain ⟨name, hname, hsame⟩ := List.any_eq_true.mp h
  rw [Chars.sameIgnoringCase, beq_iff_eq] at hsame
  rw [← Chars.isFlat_lowercase_iff, ← hsame, Chars.isFlat_lowercase_iff]
  exact isFlat_of_mem_names hname

theorem balanced_or_isCutCall_of_shadowColor? {s color : List Char}
    (h : shadowColor? s = some color) : Balanced color ∨ IsCutCall color ∧ Nests s := by
  rcases Option.or_eq_some_iff.mp h with h | ⟨-, h⟩
  · obtain ⟨m, hm, rfl⟩ := Option.map_eq_some_iff.mp h
    exact (balanced_or_isCutCall_of_functionalPattern (reads_of_find? hm)).imp_right fun hcut =>
      ⟨hcut, nests_of_find? hm hcut⟩
  · exact .inl (isFlat_of_isNamed (List.find?_some h)).balanced

/-! ### Addresses -/

/-- The text of an image is a call around its address, with blanks and quotes. -/
theorem exists_of_find?_urlPattern {s : List Char} {m : Match} (hm : urlPattern.find? s = some m) :
    ∃ name start address last, s = m.before ++ (m.text ++ m.after) ∧
      m.text = name ++ '(' :: (start ++ (address ++ (last ++ [')']))) ∧ IsFlat name ∧
      IsFlat start ∧ IsFlat last ∧ ')' ∉ address ∧ m.group? 1 = some address := by
  obtain ⟨hs, name, _, _, _, htext, hname, htakes, hcaptures⟩ := takes_of_find? hm
  obtain ⟨gap, _, _, _, rfl, hgap, htakes, rfl⟩ := htakes
  obtain ⟨bracket, _, _, _, rfl, hopen, htakes, rfl⟩ := htakes
  obtain ⟨start, _, _, _, rfl, hstart, htakes, rfl⟩ := htakes
  obtain ⟨quote, _, _, _, rfl, hquote, htakes, rfl⟩ := htakes
  obtain ⟨address, _, _, _, rfl, ⟨_, haddress, rfl⟩, htakes, rfl⟩ := htakes
  have hkept := htakes.eq_nil (by decide)
  obtain ⟨second, _, _, _, rfl, hsecond, htakes, rfl⟩ := htakes
  obtain ⟨last, _, _, _, rfl, hlast, htakes, rfl⟩ := htakes
  obtain ⟨_, _, _, _, rfl, hclose, ⟨rfl, -⟩, rfl⟩ := htakes
  obtain rfl := reads_text.mp hopen.reads
  obtain rfl := reads_text.mp hclose.reads
  have hflat {p : Text.Pattern} (hp : p.isFlat = true) {behind : Option Char} {t rest : List Char}
      {kept : Captures} (ht : p.Takes behind t rest kept) : IsFlat t := isFlat_of_reads hp ht.reads
  refine ⟨name ++ gap, start ++ quote, address, second ++ last, hs, ?_,
    (hflat (by decide) hname).append (hflat (by decide) hgap),
    (hflat (by decide) hstart).append (hflat (by decide) hquote),
    (hflat (by decide) hsecond).append (hflat (by decide) hlast), ?_, ?_⟩
  · rw [htext]
    simp
  · exact fun hmem => absurd (haddress.1.1 _ hmem) (by decide)
  · rw [Match.group?, hcaptures, hkept]
    rfl

/-- An address ends at the first closing parenthesis. -/
theorem balanced_or_isCutCall_of_urlPattern {s address : List Char} {m : Match}
    (hm : urlPattern.find? s = some m) (haddress : m.group? 1 = some address) :
    Balanced ("url(".toList ++ address ++ [')']) ∨
      IsCutCall ("url(".toList ++ address ++ [')']) ∧ Nests s := by
  obtain ⟨name, start, address', last, hs, htext, -, hstart, -, hclose, haddress'⟩ :=
    exists_of_find?_urlPattern hm
  obtain rfl : address' = address := Option.some.inj (haddress'.symm.trans haddress)
  have hurl : IsFlat "url".toList := by decide
  have hcall : "url(".toList ++ address' ++ [')'] = "url".toList ++ '(' :: (address' ++ [')']) := by
    simp
  rw [hcall]
  by_cases hopen : '(' ∈ address'
  · have hnests : Nests ('(' :: (start ++ address')) :=
      Chars.nests_cons_open (List.mem_append_right start hopen)
        (List.mem_append.not.mpr (not_or.mpr ⟨hstart.2, hclose⟩))
    refine .inr ⟨⟨"url".toList, address', rfl, hurl, hopen, hclose⟩, hnests.mono ?_⟩
    exact ⟨m.before ++ name, last ++ ')' :: m.after, by rw [hs, htext]; simp⟩
  · have hflat : IsFlat address' := ⟨hopen, hclose⟩
    exact .inl (hurl.balanced.append hflat.balanced.group)

/-! ### Parts put away -/

theorem nests_of_urlPattern {s : List Char} {m : Match} (hm : urlPattern.find? s = some m)
    (h : Nests (m.before ++ ' ' :: m.after)) : Nests s := by
  obtain ⟨name, start, address, last, hs, htext, hname, hstart, hlast, hclose, -⟩ :=
    exists_of_find?_urlPattern hm
  have hdepth : 0 ≤ depth m.text := by
    have haddress := Chars.depth_nonneg hclose
    simp only [htext, Chars.depth_append, Chars.depth_cons, Chars.depth_nil, hname.depth_eq_zero,
      hstart.depth_eq_zero, hlast.depth_eq_zero, Chars.turn_open, Chars.turn_close]
    omega
  rw [hs]
  have hblank : IsFlat [' '] := by decide
  exact Chars.Nests.insert hblank hdepth h

/-- A gradient is its name with all its arguments, and it closes what it opens. -/
theorem exists_of_findGradient? {value before gradient after : List Char}
    (h : findGradient? value = some (before, gradient, after)) :
    Balanced gradient ∧ ∃ call, value = before ++ (call ++ after) ∧ depth call = 0 := by
  unfold findGradient? at h
  simp only [Option.bind_eq_bind, Option.bind_eq_some_iff, Option.pure_def, Option.some.injEq,
    Prod.mk.injEq] at h
  obtain ⟨m, hm, name, hname, group, hgroup, rfl, rfl, rfl⟩ := h
  obtain ⟨inner, rest, hafter, rfl, hinner⟩ := Style.exists_of_balancedParens? hgroup
  have hafter : m.after = inner ++ ')' :: rest := (List.cons.inj hafter).2
  have hflat := isFlat_of_find? (by decide) hm hname
  refine ⟨(Chars.isFlat_lowercase_iff.mpr hflat).balanced.append hinner.group, ?_⟩
  -- The match ends at the opening parenthesis of the group.
  obtain ⟨start, _, htext, hstart, gap, _, rfl, hgap, _, _, rfl, hopen, rfl⟩ := reads_of_find? hm
  obtain rfl := reads_text.mp hopen
  have hstart : IsFlat start := isFlat_of_reads
    (p := capture 1 (sequence [optional (folded "repeating-"),
      foldedChoice ["linear", "radial", "conic"], folded "-gradient"])) (by decide) hstart
  have hgap : IsFlat gap := Chars.isFlat_of_isBlank hgap.1
  refine ⟨m.text ++ (inner ++ [')']), ?_, ?_⟩
  · rw [(takes_of_find? hm).1, hafter]
    simp
  · simp only [htext, Chars.depth_append, hstart.depth_eq_zero, hgap.depth_eq_zero, hinner.depth]
    decide

/-- What is left of a text without its matches. -/
def leftOver (s : List Char) (ms : List Match) : List Char :=
  ms.flatMap (·.before) ++ (ms.getLast?.map (·.after)).getD s

theorem leftOver_cons (s : List Char) (m : Match) (ms : List Match) :
    leftOver s (m :: ms) = m.before ++ leftOver m.after ms := by
  rw [leftOver, leftOver, List.flatMap_cons, List.append_assoc, List.getLast?_cons]
  cases ms.getLast? <;> rfl

theorem removeAll_eq (p : Text.Pattern) (s : List Char) :
    removeAll p s = leftOver s (p.findAll s) := by
  unfold removeAll
  split
  case h_1 hnil => rw [hnil]; rfl
  case h_2 hne =>
    cases hms : p.findAll s with
    | nil => exact absurd hms hne
    | cons m ms =>
      rw [leftOver, List.getLast?_cons]
      rfl

/-- No parentheses come to stand in others where texts without parentheses are removed. -/
theorem nests_of_removeAll {p : Text.Pattern} (hp : p.isFlat = true) {s : List Char}
    (h : Nests (removeAll p s)) : Nests s := by
  have key (behind : Option Char) (s front : List Char)
      (h : Nests (front ++ leftOver s (p.findAllFrom behind s))) : Nests (front ++ s) := by
    -- A match is put back in front of what follows it.
    have hback {behind : Option Char} {s front : List Char} {m : Match}
        (hm : p.findFrom? behind s = some m) (h : Nests (front ++ (m.before ++ m.after))) :
        Nests (front ++ s) := by
      obtain ⟨hs, htakes⟩ := takes_of_findFrom? hm
      have hflat := isFlat_of_reads hp htakes.reads
      have hempty : IsFlat [] := by decide
      rw [hs, ← List.append_assoc]
      rw [← List.append_assoc] at h
      exact Chars.Nests.insert hempty (Int.le_of_eq hflat.depth_eq_zero.symm) h
    induction behind, s using findAllFrom.induct p generalizing front with
    | case1 behind s hnone =>
      rw [findAllFrom, hnone] at h
      exact h
    | case2 behind s m hm hlength ih =>
      rw [findAllFrom] at h
      simp only [hm, hlength, dite_true] at h
      rw [leftOver_cons, ← List.append_assoc] at h
      have hrest := ih _ h
      rw [List.append_assoc] at hrest
      exact hback hm hrest
    | case3 behind s m hm hlength =>
      rw [findAllFrom] at h
      simp only [hm, hlength, dite_false] at h
      rw [leftOver_cons] at h
      exact hback hm h
  rw [removeAll_eq] at h
  exact key none s [] h

end Shorthand

end PageModules
