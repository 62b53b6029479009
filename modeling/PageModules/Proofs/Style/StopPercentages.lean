import PageModules.Proofs.Number.Truncation
import PageModules.Proofs.Style.Nesting
import PageModules.Proofs.Text.Captures
import PageModules.Style.Gradient

/-!
# The percentages of colour stops

A list of stops is cut at its commas at the top level.  Every piece that is neither blank nor
describes a shape (`Gradient.DescribesShape`) gives one stop, in order.  A piece that writes a
percentage (`Gradient.Writes`) keeps it, cut to an integer (`Gradient.Keeps`), in all lists but one:
of exactly two stops at 0 the second is moved to 100, whether it was written at 0 or not
(`Gradient.exists_forall₂_isStopOf`).
-/

namespace PageModules.Gradient

open Text Text.Pattern

open Binary64 (numeral digitsValue)

/-! ### Shapes -/

/-- A piece starts with a word that describes a shape, in any case; behind `at` there is a blank. -/
def DescribesShape (piece : List Char) : Prop :=
  ∃ word, word <+: piece ∧
    ((∃ w ∈ ["circle", "ellipse", "closest", "farthest"], word.map foldCase = w.toList) ∨
      ∃ front c, word = front ++ [c] ∧ front.map foldCase = "at".toList ∧ isBlank c = true)

theorem isIn_shapePattern_iff {piece : List Char} :
    shapePattern.isIn piece = true ↔ DescribesShape piece := by
  have hat {word : List Char} : (seq (folded "at") (char isBlank)).Reads word ↔
      ∃ front c, word = front ++ [c] ∧ front.map foldCase = "at".toList ∧ isBlank c = true := by
    constructor
    · rintro ⟨front, _, rfl, hfront, c, hc, rfl⟩
      exact ⟨front, c, rfl, reads_folded.mp hfront, hc⟩
    · rintro ⟨front, c, rfl, hfront, hc⟩
      exact ⟨front, [c], rfl, reads_folded.mpr hfront, c, hc, rfl⟩
  rw [shapePattern, isIn_textStart_iff (by decide)]
  exact exists_congr fun word => and_congr_right fun _ => or_congr reads_foldedChoice hat

instance (piece : List Char) : Decidable (DescribesShape piece) :=
  decidable_of_iff _ isIn_shapePattern_iff

/-! ### Written percentages -/

/-- A piece writes a colour and a percentage: the digits `whole`, and `fraction` behind a point if
there are any. -/
structure Writes (piece color whole fraction : List Char) : Prop where
  /-- Blanks stand between the two, and the percentage ends the piece. -/
  eq : ∃ gap, gap ≠ [] ∧ (∀ c ∈ gap, isBlank c = true) ∧
    piece = color ++ (gap ++ (numeral whole fraction ++ ['%']))
  /-- There is a colour. -/
  color_ne_nil : color ≠ []
  /-- The colour is written on one line. -/
  not_mem_color : '\n' ∉ color
  /-- There are digits in front of the point. -/
  whole_ne_nil : whole ≠ []
  /-- The percentage is written in digits. -/
  isDigit : ∀ c ∈ whole ++ fraction, isDigit c = true

/-- A number with an optional fraction. -/
def numberPattern : Pattern := seq (plus isDigit) (optional (seq (text ".") (plus isDigit)))

theorem reads_numberPattern_iff {s : List Char} : numberPattern.Reads s ↔
    ∃ whole fraction, s = numeral whole fraction ∧ whole ≠ [] ∧
      ∀ c ∈ whole ++ fraction, isDigit c = true := by
  constructor
  · rintro ⟨whole, _, rfl, ⟨hwhole, hlength⟩, ⟨_, fraction, rfl, hpoint, hfraction⟩ | hnone⟩
    · obtain rfl := reads_text.mp hpoint
      have hne : fraction ≠ [] := List.ne_nil_of_length_pos hfraction.2
      refine ⟨whole, fraction, ?_, List.ne_nil_of_length_pos hlength,
        List.forall_mem_append.mpr ⟨hwhole, hfraction.1⟩⟩
      rw [numeral, if_neg hne]
      rfl
    · obtain rfl := hnone
      refine ⟨whole, [], List.append_nil whole, List.ne_nil_of_length_pos hlength, ?_⟩
      rwa [List.append_nil]
  · rintro ⟨whole, fraction, rfl, hne, hdigits⟩
    obtain ⟨hwhole, hfraction⟩ := List.forall_mem_append.mp hdigits
    have hread : (plus isDigit).Reads whole := ⟨hwhole, List.length_pos_of_ne_nil hne⟩
    rw [numeral]
    split
    case isTrue => exact ⟨whole, [], (List.append_nil whole).symm, hread, .inr rfl⟩
    case isFalse hfractionNe =>
      exact ⟨whole, '.' :: fraction, rfl, hread, .inl ⟨['.'], fraction, rfl, reads_text.mpr rfl,
        hfraction, List.length_pos_of_ne_nil hfractionNe⟩⟩

theorem isBlank_eq_false_of_mem_numeral {whole fraction : List Char}
    (h : ∀ c ∈ whole ++ fraction, isDigit c = true) :
    ∀ c ∈ numeral whole fraction ++ ['%'], isBlank c = false := by
  have hdigit {c : Char} (hc : c ∈ whole ++ fraction) : isBlank c = false :=
    isBlank_of_isDigit (h c hc)
  have hnumeral : ∀ c ∈ numeral whole fraction, isBlank c = false := by
    rw [numeral]
    split
    case isTrue => exact fun c hc => hdigit (List.mem_append_left _ hc)
    case isFalse =>
      intro c hc
      rcases List.mem_append.mp hc with hc | hc
      · exact hdigit (List.mem_append_left _ hc)
      · rcases List.mem_cons.mp hc with rfl | hc
        · decide
        · exact hdigit (List.mem_append_right _ hc)
  refine List.forall_mem_append.mpr ⟨hnumeral, ?_⟩
  decide

/-- The numeral of a percentage has no blanks, so it starts behind the last one of the piece. -/
theorem Writes.unique {piece color color' whole whole' fraction fraction' : List Char}
    (h : Writes piece color whole fraction) (h' : Writes piece color' whole' fraction') :
    Chars.trim color = Chars.trim color' ∧ numeral whole fraction = numeral whole' fraction' := by
  -- The blanks in front of the last one are trimmed away with it.
  have hcut {color whole fraction : List Char} (h : Writes piece color whole fraction) :
      ∃ front b, isBlank b = true ∧ Chars.trim (front ++ [b]) = Chars.trim color ∧
        piece = front ++ b :: (numeral whole fraction ++ ['%']) := by
    obtain ⟨gap, hgap, hblank, hpiece⟩ := h.eq
    obtain ⟨gap, b, rfl⟩ := (List.eq_nil_or_concat' gap).resolve_left hgap
    refine ⟨color ++ gap, b, hblank b (by simp), ?_, by simp [hpiece]⟩
    have htrim := Chars.trim_blanks_append (List.forall_mem_nil _) hblank color
    rwa [List.nil_append, ← List.append_assoc] at htrim
  obtain ⟨front, b, hb, htrim, hpiece⟩ := hcut h
  obtain ⟨front', b', hb', htrim', hpiece'⟩ := hcut h'
  obtain ⟨hfront, hnumeral⟩ := Chars.append_blank_inj hb hb'
    (isBlank_eq_false_of_mem_numeral h.isDigit) (isBlank_eq_false_of_mem_numeral h'.isDigit)
    (hpiece.symm.trans hpiece')
  rw [hfront] at htrim
  exact ⟨htrim.symm.trans htrim', List.append_cancel_right hnumeral⟩

/-- What is found in a piece is a colour and a percentage that it writes. -/
theorem exists_writes_of_find? {piece : List Char} {m : Match}
    (h : stopPattern.find? piece = some m) : ∃ color whole fraction,
      Writes piece color whole fraction ∧ m.group? 1 = some color ∧
        m.group? 2 = some (numeral whole fraction) := by
  obtain ⟨hpiece, htakes⟩ := takes_of_find?_textStart h
  -- The text falls into the colour, the blanks, the number and the sign, and ends there.
  obtain ⟨color, _, _, _, htext, ⟨_, ⟨⟨hcolor, hlength⟩, rfl⟩, rfl⟩, htakes, hcaptures⟩ := htakes
  obtain ⟨gap, _, _, _, rfl, ⟨⟨hblank, hgap⟩, rfl⟩, htakes, rfl⟩ := htakes
  obtain ⟨number, _, _, _, rfl, ⟨_, hnumber, rfl⟩, htakes, rfl⟩ := htakes
  obtain ⟨percent, _, _, _, rfl, hpercent, ⟨_, _, _, _, rfl, ⟨⟨rfl, hafter⟩, rfl⟩, ⟨rfl, rfl⟩, rfl⟩,
    rfl⟩ := htakes
  obtain rfl := reads_text.mp hpercent.reads
  obtain rfl := hpercent.eq_nil (by decide)
  obtain rfl := hnumber.eq_nil (by decide)
  obtain ⟨whole, fraction, rfl, hwhole, hdigits⟩ := reads_numberPattern_iff.mp hnumber.reads
  have hafter : m.after = [] := hafter
  rw [htext, hafter] at hpiece
  have hwrites : Writes piece color whole fraction := by
    refine ⟨⟨gap, List.ne_nil_of_length_pos hgap, hblank, ?_⟩, List.ne_nil_of_length_pos hlength,
      ?_, hwhole, hdigits⟩
    · simpa using hpiece
    · intro hline
      exact absurd (hcolor _ hline) (by decide)
  refine ⟨color, whole, fraction, hwrites, ?_, ?_⟩ <;> rw [Match.group?, hcaptures] <;> rfl

/-- A percentage that is written is found. -/
theorem Writes.isIn {piece color whole fraction : List Char}
    (h : Writes piece color whole fraction) : stopPattern.isIn piece = true := by
  obtain ⟨gap, hgap, hblank, hpiece⟩ := h.eq
  have hcolor : (capture 1 (many 1 none true (· != '\n'))).Reads color := by
    refine ⟨fun c hc => ?_, List.length_pos_of_ne_nil h.color_ne_nil⟩
    rw [bne_iff_ne]
    rintro rfl
    exact h.not_mem_color hc
  have hgap : blanks1.Reads gap := ⟨hblank, List.length_pos_of_ne_nil hgap⟩
  have hnumber : (capture 2 numberPattern).Reads (numeral whole fraction) :=
    reads_numberPattern_iff.mpr ⟨whole, fraction, rfl, h.whole_ne_nil, h.isDigit⟩
  have hpercent : (text "%").Reads ['%'] := reads_text.mpr rfl
  rw [isIn_iff]
  refine ⟨[], piece, _, rfl, Place.start piece, ⟨rfl, rfl⟩, _,
    leads_of_reads (by decide) hcolor _ hpiece, _, leads_of_reads (by decide) hgap _ rfl, _,
    leads_of_reads (by decide) hnumber _ rfl, _, leads_of_reads (by decide) hpercent _ rfl, _,
    ⟨rfl, rfl⟩, rfl⟩

/-! ### Stops -/

/-- A position is a percentage cut to an integer: up to one hundred it is what stands in front of
the point.  Behind fourteen nines the number may be rounded up before it is cut. -/
def Keeps (whole fraction : List Char) (position : ℤ) : Prop :=
  (∀ c ∈ whole ++ fraction, isAsciiDigit c = true) → digitsValue whole ≤ 100 →
    position = digitsValue whole ∨
      position = digitsValue whole + 1 ∧ List.replicate 14 '9' <+: fraction

/-- The stop that a piece gives; `unmarked` is the position of one without a percentage. -/
structure IsStopOf (unmarked : ℤ) (piece : List Char) (stop : ColorStop) : Prop where
  /-- A written percentage is kept, and the colour is what stands in front of it. -/
  written : ∀ color whole fraction, Writes piece color whole fraction →
    stop.color = String.ofList (Chars.trim color) ∧ Keeps whole fraction stop.position
  /-- A piece that writes none is a colour as a whole. -/
  plain : (∀ color whole fraction, ¬Writes piece color whole fraction) →
    stop = ⟨String.ofList piece, unmarked⟩

theorem isStopOf_stopOf (isFirst : Bool) (piece : List Char) :
    IsStopOf (if isFirst then 0 else 100) piece (stopOf isFirst piece) := by
  unfold stopOf
  cases hfind : stopPattern.find? piece with
  | none =>
    refine ⟨fun color whole fraction h => ?_, fun _ => rfl⟩
    have hsome := h.isIn
    rw [isIn, hfind] at hsome
    cases hsome
  | some m =>
    -- Whatever way the piece is written, it is the one that was found.
    obtain ⟨color, whole, fraction, hfound, hcolor, hnumber⟩ := exists_writes_of_find? hfind
    refine ⟨fun color' whole' fraction' h => ?_, fun h => absurd hfound (h color whole fraction)⟩
    obtain ⟨htrim, hnumeral⟩ := hfound.unique h
    dsimp only
    rw [hcolor, hnumber, hnumeral]
    refine ⟨congrArg String.ofList htrim, fun hdigits hw => ?_⟩
    obtain ⟨x, hx, hposition⟩ := Binary64.toInt64_numeral hdigits h.whole_ne_nil hw
    rw [Option.bind_some, hx]
    exact hposition

/-- The pieces of a cut that give stops. -/
def kept (pieces : List (List Char)) : List (List Char) :=
  (pieces.map Chars.trim).filter fun piece => piece ≠ [] ∧ ¬DescribesShape piece

theorem stopPieces_eq_kept (s : List Char) : stopPieces s = kept (Style.splitCommas s) := by
  refine List.filter_congr fun piece _ => ?_
  rw [Bool.eq_iff_iff, decide_eq_true_eq, ← isIn_shapePattern_iff]
  simp

theorem spread_eq_self {stops : List ColorStop} (h : stops.map ColorStop.position ≠ [0, 0]) :
    spread stops = stops := by
  unfold spread
  split
  case h_1 a b =>
    rw [if_neg]
    rintro ⟨ha, hb⟩
    exact h (by rw [List.map_cons, List.map_cons, ha, hb]; rfl)
  case h_2 => rfl

/-- **A list of stops gives one stop for each kept piece, in order**, and a written percentage is
kept, but of exactly two stops at 0 the second one is moved to 100. -/
theorem exists_forall₂_isStopOf (s : List Char) : ∃ pieces stops, Style.IsTopLevelCut s pieces ∧
    List.Forall₂ (fun p stop => IsStopOf (if p.2 = 0 then 0 else 100) p.1 stop)
      (kept pieces).zipIdx stops ∧
    (stops.map ColorStop.position ≠ [0, 0] → stopsOf s = stops) ∧
    ∀ a b, stops = [a, b] → a.position = 0 → b.position = 0 →
      stopsOf s = [a, { b with position := 100 }] := by
  refine ⟨Style.splitCommas s, (stopPieces s).zipIdx.map fun p => stopOf (p.2 == 0) p.1,
    Style.isTopLevelCut_iff.mpr rfl, ?_, ?_, ?_⟩
  · rw [← stopPieces_eq_kept, List.forall₂_map_right_iff, List.forall₂_same]
    intro p _
    simpa using isStopOf_stopOf (p.2 == 0) p.1
  · exact spread_eq_self
  · intro a b hstops ha hb
    rw [stopsOf, hstops, spread, if_pos ⟨ha, hb⟩]

/-- The second of two stops that are written at 0. -/
theorem not_keeps_second_of_two : ∃ a b, stopsOf "red 0%, blue 0%".toList = [a, b] ∧
    Writes "blue 0%".toList "blue".toList ['0'] [] ∧ ¬Keeps ['0'] [] b.position := by
  refine ⟨⟨"red", 0⟩, ⟨"blue", 100⟩, by decide +kernel, ?_, fun h => ?_⟩
  · exact ⟨⟨[' '], by decide, by decide, rfl⟩, by decide, by decide, by decide, by decide⟩
  · exact absurd (h (by decide) (by decide)) (by decide)

end PageModules.Gradient
