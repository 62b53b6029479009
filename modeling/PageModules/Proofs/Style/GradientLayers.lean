import PageModules.Proofs.Lists
import PageModules.Proofs.Text.Cutting
import PageModules.Proofs.Text.Ways
import PageModules.Style.Gradient

/-!
# Gradients with further layers

The value of a background may go on behind a gradient with further layers.  The arguments of the
gradient are taken to go up to the last closing parenthesis of the whole value.  So layers without
one change nothing, whatever stands in front of them (`Gradient.ofText?_append_of_not_mem`).  With
other layers a gradient keeps its kind and its direction, and its stops go on with the text of the
layers in front of their last closing parenthesis (`Gradient.overrun`); for a radial gradient this
holds as long as no linear one, which is looked for first, stands in the value.
`Gradient.exists_ofText?_append` has both.
-/

namespace PageModules.Gradient

open Text Text.Pattern

/-! ### The last closing parenthesis -/

/-- Of a closing parenthesis and some layers behind it what stands in front of the last closing
parenthesis: nothing, if the layers have none. -/
def overrun (layers : List Char) : List Char :=
  ((Chars.splitLast? ')' (')' :: layers)).map Prod.fst).getD []

theorem exists_eq_overrun_append (layers : List Char) :
    ∃ after, ')' :: layers = overrun layers ++ ')' :: after ∧ ')' ∉ after := by
  obtain ⟨a, b, hsplit, ha⟩ := List.eq_append_cons_of_mem
    (List.mem_reverse.mpr (List.mem_cons_self (a := ')') (l := layers)))
  have hlayers : ')' :: layers = b.reverse ++ ')' :: a.reverse := by
    rw [← List.reverse_reverse (')' :: layers), hsplit]
    simp
  have ha : ')' ∉ a.reverse := fun h => ha (List.mem_reverse.mp h)
  refine ⟨a.reverse, ?_, ha⟩
  rw [overrun, hlayers, Chars.splitLast?_append_cons b.reverse ha]
  rfl

/-- The patterns of the arguments, kept under a number, and of the closing parenthesis. -/
def closing (index : ℕ) : List Pattern := [capture index (plus fun _ => true), text ")"]

theorem ways_text_closing (place : Place) (captures : Captures) :
    (sequence [text ")"]).ways place captures =
      match place.rest with
      | [] => []
      | c :: s => if c = ')' then [(⟨some c, s⟩, captures)] else [] := by
  obtain ⟨behind, rest⟩ := place
  cases rest with
  | nil => rfl
  | cons c s => by_cases hc : c = ')' <;> simp [Pattern.sequence, text, ways, hc]

/-- **The arguments go up to the last closing parenthesis.** -/
theorem head?_ways_closing (index : ℕ) {u w : List Char} (hu : u ≠ []) (hw : ')' ∉ w)
    (behind : Option Char) (captures : Captures) :
    ((sequence (closing index)).ways ⟨behind, u ++ ')' :: w⟩ captures).head? =
      some (⟨some ')', w⟩, (index, u) :: captures) := by
  have hclosing : sequence (closing index) =
      seq (capture index (plus fun _ => true)) (sequence [text ")"]) := rfl
  have htext : Place.textUpTo ⟨behind, u ++ ')' :: w⟩
      (Place.after ⟨behind, u ++ ')' :: w⟩ u (')' :: w)) = u := Place.textUpTo_eq rfl
  rw [hclosing, ways, ways, plus, ways, List.map_map, List.head?_flatMap, List.findSome?_map]
  refine findSome?_waysMany_append (fun _ _ => rfl) (List.length_pos_of_ne_nil hu) ?_ ?_
  · intro b c a s hs
    obtain ⟨-, rfl⟩ := List.cons.inj hs
    rw [Function.comp_apply, Function.comp_apply, ways_text_closing]
    cases s with
    | nil => rfl
    | cons d s =>
      have hd : d ≠ ')' := by
        rintro rfl
        exact hw (by simp)
      simp [hd]
  · rw [Function.comp_apply, Function.comp_apply, ways_text_closing, htext]
    rfl

/-! ### What stands in front of the arguments -/

/-- The patterns of a name and an opening parenthesis. -/
def opening (name : String) : List Pattern := [folded name, blanks, text "("]

/-- The patterns in front of the stops of a linear gradient, up to the first comma. -/
def linearHead : List Pattern :=
  opening "linear-gradient" ++ [blanks,
    optional (alt
      (sequence [folded "to", blanks1,
        capture 1 (seq (plus isWordChar) (optional (seq blanks1 (plus isWordChar))))])
      (seq
        (capture 2 (sequence [optional (text "-"), plus isDigit,
          optional (seq (text ".") (plus isDigit))]))
        (folded "deg"))),
    blanks]

/-- The patterns in front of the stops of a linear gradient. -/
def linearFront : List Pattern := linearHead ++ [optional (text ","), blanks]

theorem linearPattern_eq : linearPattern = sequence (linearFront ++ closing 3) := rfl

theorem radialPattern_eq :
    radialPattern = sequence (opening "radial-gradient" ++ closing 1) := rfl

/-! ### Gradients -/

/-- A gradient as it is written: a linear one with a comma among its arguments and something behind
the comma, or a radial one with any arguments. -/
inductive Expression where
  /-- A linear gradient, up to its opening parenthesis, up to its first comma, and from there on. -/
  | linear (head front back : List Char)
    (reads_head : (sequence (opening "linear-gradient")).Reads head) (not_mem_front : ',' ∉ front)
    (exists_mem_back : ∃ c ∈ back, isBlank c = false)
  /-- A radial gradient, up to its opening parenthesis and from there on. -/
  | radial (head body : List Char)
    (reads_head : (sequence (opening "radial-gradient")).Reads head) (body_ne_nil : body ≠ [])

namespace Expression

/-- The kind of the gradient. -/
def kind : Expression → GradientKind
  | linear .. => .linear
  | radial .. => .radial

/-- The text of the gradient up to its closing parenthesis. -/
def opened : Expression → List Char
  | linear head front back .. => head ++ front ++ ',' :: back
  | radial head body .. => head ++ body

/-- The text of the gradient. -/
def chars (e : Expression) : List Char := e.opened ++ [')']

end Expression

theorem reads_linearFront {head : List Char}
    (h : (sequence (opening "linear-gradient")).Reads head) :
    (sequence linearFront).Reads head := by
  have hblanks : blanks.Reads [] := ⟨by simp, Nat.le_refl 0⟩
  refine reads_sequence_append.mpr ⟨head, [], by simp, ?_, ?_⟩
  · refine reads_sequence_append.mpr ⟨head, [], by simp, h, ?_⟩
    exact ⟨[], [], rfl, hblanks, [], [], rfl, .inr rfl, [], [], rfl, hblanks, rfl⟩
  · exact ⟨[], [], rfl, .inr rfl, [], [], rfl, hblanks, rfl⟩

/-- **What is read in front of the stops** ends at the first comma or in the blanks behind it. -/
theorem lt_of_reads_linearFront {front back : List Char} (hfront : ',' ∉ front)
    (hback : ∃ c ∈ back, isBlank c = false) {t u s : List Char}
    (hu : (sequence linearFront).Reads u) (h : front ++ ',' :: back ++ t = u ++ s) :
    t.length < s.length := by
  obtain ⟨a, _, rfl, ha, comma, _, rfl, hcomma, z, _, rfl, ⟨hblank, -⟩, rfl⟩ :=
    reads_sequence_append.mp hu
  have ha : ',' ∉ a := not_mem_of_reads (by decide) ha
  rw [List.append_nil, List.append_assoc, List.cons_append, List.append_assoc] at h
  rcases hcomma with hcomma | hcomma
  case inl =>
    -- the comma is the first one, and not all that follows it is blank
    obtain rfl : comma = [','] := reads_text.mp hcomma
    rw [List.singleton_append, List.cons_append] at h
    obtain ⟨rfl, htail⟩ := Chars.append_cons_inj hfront ha h
    have hnot : ¬∀ c ∈ back, isBlank c = true := fun hall => by
      obtain ⟨c, hc, hcblank⟩ := hback
      exact absurd (hall c hc) (Bool.eq_false_iff.mp hcblank)
    rcases List.append_eq_append_iff.mp htail with ⟨b, rfl, -⟩ | ⟨b, rfl, rfl⟩
    case inl => exact absurd (List.forall_mem_append.mp hblank).1 hnot
    case inr =>
      have hb : b ≠ [] := by
        rintro rfl
        exact hnot (by rwa [List.append_nil])
      have hpos := List.length_pos_of_ne_nil hb
      rw [List.length_append]
      omega
  case inr =>
    obtain rfl : comma = [] := hcomma
    have haz : ',' ∉ a ++ z := by
      rw [List.mem_append, not_or]
      refine ⟨ha, fun hz => ?_⟩
      have hblankComma : isBlank ',' = true := hblank ',' hz
      exact absurd hblankComma (by decide)
    rw [List.nil_append, ← List.append_assoc] at h
    have hlength := Lists.length_lt_of_not_mem haz h
    rw [List.length_append] at hlength
    omega

/-- What is read in front of the stops of a radial gradient ends with its opening parenthesis. -/
theorem eq_of_reads_opening {head rest u s : List Char} {name : String}
    (hname : (sequence [folded name, blanks]).excludes '(' = true)
    (hhead : (sequence (opening name)).Reads head) (hu : (sequence (opening name)).Reads u)
    (h : head ++ rest = u ++ s) : s = rest := by
  have hsplit {v : List Char} (hv : (sequence (opening name)).Reads v) :
      ∃ a, v = a ++ ['('] ∧ '(' ∉ a := by
    have hv : (sequence ([folded name, blanks] ++ [text "("])).Reads v := hv
    obtain ⟨a, b, rfl, ha, hb⟩ := reads_sequence_append.mp hv
    obtain ⟨b, _, rfl, hb, rfl⟩ := hb
    obtain rfl := reads_text.mp hb
    exact ⟨a, rfl, not_mem_of_reads hname ha⟩
  obtain ⟨a, rfl, ha⟩ := hsplit hhead
  obtain ⟨b, rfl, hb⟩ := hsplit hu
  rw [List.append_assoc, List.append_assoc, List.singleton_append, List.singleton_append] at h
  exact (Chars.append_cons_inj ha hb h).2.symm

theorem reads_opening {name : String} (letters : List Char)
    (h : letters.map foldCase = name.toList) :
    (sequence (opening name)).Reads (letters ++ ['(']) :=
  ⟨letters, ['('], rfl, reads_folded.mpr h, [], ['('], rfl, ⟨by simp, Nat.le_refl 0⟩, ['('], [],
    rfl, reads_text.mpr rfl, rfl⟩

/-! ### Matches in front of layers -/

/-- **The captured texts in front of the arguments do not depend on the layers**, and the arguments
go on with the layers up to their last closing parenthesis. -/
theorem exists_find?_closing {front : List Pattern} (index : ℕ) {head opened : List Char}
    (hplain : (sequence front).isPlain = true) (hhead : (sequence front).Reads head)
    (hopened : ∃ rest, opened = head ++ rest)
    (hreach : ∀ t u s, (sequence front).Reads u → opened ++ t = u ++ s → t.length < s.length) :
    ∃ captures arguments, arguments <:+ opened ∧ ∀ layers, ∃ m,
      (sequence (front ++ closing index)).find? (opened ++ ')' :: layers) = some m ∧
        m.captures = (index, arguments ++ overrun layers) :: captures := by
  obtain ⟨rest, hrest⟩ := hopened
  obtain ⟨w, ws, hways⟩ := List.exists_cons_of_ne_nil
    (ways_ne_nil_of_reads hplain hhead (Place.start opened) hrest)
  obtain ⟨u, hu, hread⟩ := exists_of_mem_ways (hways ▸ List.mem_cons_self)
  have hu : opened = u ++ w.1.rest := hu
  have hw : w.1.rest ≠ [] :=
    List.ne_nil_of_length_pos (hreach [] u w.1.rest hread (by rw [List.append_nil, ← hu]))
  refine ⟨w.2, w.1.rest, ⟨u, hu.symm⟩, fun layers => ?_⟩
  obtain ⟨after, hlayers, hafter⟩ := exists_eq_overrun_append layers
  have hlonger : (sequence front).ways (Place.start (opened ++ ')' :: layers)) [] =
      extendWay (')' :: layers) w :: ws.map (extendWay (')' :: layers)) := by
    have happend := ways_append hplain none []
      fun u s hu h => (hreach (')' :: layers) u s hu h).le
    exact happend.trans (congrArg (List.map _) hways)
  have hhead? := head?_ways_closing index (u := w.1.rest ++ overrun layers) (by simp [hw]) hafter
    w.1.behind w.2
  rw [List.append_assoc, ← hlayers] at hhead?
  have hmatch : (sequence (front ++ closing index)).matchAt?
      (Place.start (opened ++ ')' :: layers)) =
        some (matchOf (Place.start (opened ++ ')' :: layers))
          (⟨some ')', after⟩, (index, w.1.rest ++ overrun layers) :: w.2)) := by
    rw [matchAt?_eq_head?, ways_sequence_append, List.head?_flatMap, hlonger, List.findSome?_cons]
    unfold extendWay
    rw [hhead?]
    rfl
  exact ⟨_, find?_of_matchAt? hmatch, rfl⟩

/-! ### The law -/

theorem exists_of_reads_closing {front : List Pattern} {index : ℕ} {u : List Char}
    (h : (sequence (front ++ closing index)).Reads u) : ∃ v, u = v ++ [')'] := by
  rw [closing, ← List.singleton_append, ← List.append_assoc] at h
  obtain ⟨a, b, rfl, -, b, _, rfl, hb, rfl⟩ := reads_sequence_append.mp h
  obtain rfl := reads_text.mp hb
  exact ⟨a, rfl⟩

/-- Layers without a closing parenthesis change nothing. -/
theorem ofText?_append_of_not_mem (first : String) {layers : String} (h : ')' ∉ layers.toList) :
    ofText? (first ++ layers) = ofText? first := by
  have hlinear := find?_append_of_closing (p := linearPattern) (by decide)
    (fun u hu => exists_of_reads_closing (linearPattern_eq ▸ hu)) h first.toList
  have hradial := find?_append_of_closing (p := radialPattern) (by decide)
    (fun u hu => exists_of_reads_closing (radialPattern_eq ▸ hu)) h first.toList
  rw [ofText?, ofText?, String.toList_append, hlinear, hradial]
  cases linearPattern.find? first.toList with
  | some m => rfl
  | none =>
    rw [Option.map_none, Option.map_map]
    rfl

/-- The direction that the captured texts of a linear gradient give. -/
def directionOf (captures : Captures) : ℤ :=
  match captures.lookup 2, captures.lookup 1 with
  | some degrees, _ => ((Binary64.ofChars? degrees).map Binary64.toInt64).getD defaultDirection
  | none, some sides => directionDegrees (String.ofList sides)
  | none, none => defaultDirection

theorem ofText?_of_linear {image : String} {m : Match} {captures : Captures} {body : List Char}
    (h : linearPattern.find? image.toList = some m) (hm : m.captures = (3, body) :: captures) :
    ofText? image = some ⟨.linear, some (directionOf captures), stopsOf body⟩ := by
  have hthree : m.group? 3 = some body := by
    rw [Match.group?, hm]
    rfl
  have hother (i : ℕ) (hi : i = 2 ∨ i = 1) : m.group? i = captures.lookup i := by
    rw [Match.group?, hm]
    rcases hi with rfl | rfl <;> rfl
  rw [ofText?, h]
  dsimp only
  rw [hthree, hother 2 (.inl rfl), hother 1 (.inr rfl)]
  rfl

theorem ofText?_of_radial {image : String} {m : Match} {captures : Captures} {body : List Char}
    (hlinear : linearPattern.isIn image.toList = false)
    (h : radialPattern.find? image.toList = some m) (hm : m.captures = (1, body) :: captures) :
    ofText? image = some ⟨.radial, none, stopsOf body⟩ := by
  have hnone : linearPattern.find? image.toList = none :=
    Option.not_isSome_iff_eq_none.mp (Bool.eq_false_iff.mp hlinear)
  have hone : m.group? 1 = some body := by
    rw [Match.group?, hm]
    rfl
  rw [ofText?, hnone]
  dsimp only
  rw [h, Option.map_some, hone]
  rfl

/-- A gradient keeps its kind and its direction in front of any layers. -/
theorem Expression.exists_ofText? (e : Expression) :
    ∃ direction stops, stops <:+ e.opened ∧ ∀ layers : List Char,
      (e.kind = .radial → linearPattern.isIn (e.chars ++ layers) = false) →
        ofText? (String.ofList (e.chars ++ layers)) =
          some ⟨e.kind, direction, stopsOf (stops ++ overrun layers)⟩ := by
  cases e with
  | linear head front back hhead hfront hback =>
    have hnot : ',' ∉ head ++ front := by
      rw [List.mem_append, not_or]
      exact ⟨not_mem_of_reads (by decide) hhead, hfront⟩
    obtain ⟨captures, stops, hstops, hfind⟩ := exists_find?_closing 3 (by decide)
      (reads_linearFront hhead) ⟨front ++ ',' :: back, List.append_assoc head front _⟩
      fun t u s hu h => lt_of_reads_linearFront hnot hback hu h
    refine ⟨some (directionOf captures), stops, hstops, fun layers _ => ?_⟩
    obtain ⟨m, hm, hcaptures⟩ := hfind layers
    refine ofText?_of_linear ?_ hcaptures
    rw [String.toList_ofList, chars, opened, List.append_assoc _ [')'], linearPattern_eq]
    exact hm
  | radial head body hhead hbody =>
    have hreach (t u s : List Char) (hu : (sequence (opening "radial-gradient")).Reads u)
        (h : head ++ body ++ t = u ++ s) : t.length < s.length := by
      rw [List.append_assoc] at h
      have hpos := List.length_pos_of_ne_nil hbody
      rw [eq_of_reads_opening (by decide) hhead hu h, List.length_append]
      omega
    obtain ⟨captures, stops, hstops, hfind⟩ := exists_find?_closing 1 (by decide) hhead
      ⟨body, rfl⟩ hreach
    refine ⟨none, stops, hstops, fun layers hlinear => ?_⟩
    obtain ⟨m, hm, hcaptures⟩ := hfind layers
    refine ofText?_of_radial (by rw [String.toList_ofList]; exact hlinear rfl) ?_ hcaptures
    rw [String.toList_ofList, chars, opened, List.append_assoc _ [')'], radialPattern_eq]
    exact hm

/-- **Layers behind a gradient** change nothing if they have no closing parenthesis.  Otherwise the
gradient keeps its kind and its direction, and the text of its stops goes on with the layers; a
linear gradient among the layers hides a radial one. -/
theorem exists_ofText?_append (first : String) (e : Expression) :
    (∀ layers : String, ')' ∉ layers.toList → ofText? (first ++ layers) = ofText? first) ∧
      ∃ direction stops, stops <:+ e.opened ∧ ∀ layers : List Char,
        (e.kind = .radial → linearPattern.isIn (e.chars ++ layers) = false) →
          ofText? (String.ofList (e.chars ++ layers)) =
            some ⟨e.kind, direction, stopsOf (stops ++ overrun layers)⟩ :=
  ⟨fun _ h => ofText?_append_of_not_mem first h, e.exists_ofText?⟩

/-- A radial gradient in front of an image and of a colour. -/
theorem exists_ofText?_append_radial :
    (')' ∉ ", white".toList ∧
      ofText? ("radial-gradient(red, blue)" ++ ", white") = ofText? "radial-gradient(red, blue)") ∧
    linearPattern.isIn "radial-gradient(red, blue), url(x.png)".toList = false ∧
      ∃ direction stops, stops <:+ "radial-gradient(red, blue".toList ∧
        ofText? "radial-gradient(red, blue), url(x.png)" =
          some ⟨.radial, direction, stopsOf (stops ++ "), url(x.png".toList)⟩ := by
  have hlinear : linearPattern.isIn "radial-gradient(red, blue), url(x.png)".toList = false := by
    decide +kernel
  let e : Expression := .radial "radial-gradient(".toList "red, blue".toList
    (reads_opening "radial-gradient".toList (by decide)) (by decide)
  obtain ⟨hwhite, direction, stops, hstops, h⟩ :=
    exists_ofText?_append "radial-gradient(red, blue)" e
  have hclosing : ')' ∉ ", white".toList := by decide
  refine ⟨⟨hclosing, hwhite _ hclosing⟩, hlinear, direction, stops, hstops, ?_⟩
  exact h ", url(x.png)".toList fun _ => hlinear

/-- The last stop of a gradient takes in the image behind it. -/
theorem ofText?_append_ne_image :
    ofText? ("linear-gradient(red, blue)" ++ ", url(x.png)") ≠
      ofText? "linear-gradient(red, blue)" := by
  decide +kernel

end PageModules.Gradient
